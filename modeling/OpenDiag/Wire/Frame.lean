import OpenDiag.Lib.LittleEndian

/-!
# The frames of the J2534 wire

Sixteen header bytes, the payload of one fragment, and a CRC over everything behind the magic. The
firmware's `send_fragment` and the host's `Link::send` lay a frame out in the same way.
-/

namespace OpenDiag.Wire

def wireMagic : List UInt8 := [0x4a, 0x32, 0x35, 0x33]
def wireVersion : UInt8 := 1
def wireHeaderSize : Nat := 16
def wireCrcSize : Nat := 4
def fragmentMax : Nat := 192
def rpcMax : Nat := 4608

def wireMore : UInt16 := 1
def wireFetch : UInt16 := 2
def wireAck : UInt16 := 4
def wireResponse : UInt16 := 128

/-- One byte of the CRC, bit by bit. -/
def crcByte (crc : UInt32) (byte : UInt8) : UInt32 :=
  (List.range 8).foldl
    (fun crc _ => (crc >>> 1) ^^^ (0xedb88320 &&& (0 - (crc &&& 1)))) (crc ^^^ byte.toUInt32)

/-- `crc32`. -/
def crc32 (data : List UInt8) : UInt32 :=
  ~~~(data.foldl crcByte 0xffffffff)

/-- The header behind the magic. -/
def frameHeader (operation : UInt8) (flags : UInt16) (sequence : UInt32) (offset length : Nat) :
    List UInt8 :=
  [wireVersion, operation] ++ put16 flags ++ put32 sequence ++ put16 (UInt16.ofNat offset) ++
    put16 (UInt16.ofNat length)

/-- A frame. -/
def frameBytes (operation : UInt8) (flags : UInt16) (sequence : UInt32) (offset : Nat)
    (data : List UInt8) : List UInt8 :=
  let header := frameHeader operation flags sequence offset data.length
  wireMagic ++ header ++ data ++ put32 (crc32 (header ++ data))

/-- The bytes of a message that one frame carries from an offset on. -/
def fragmentAt (message : List UInt8) (offset : Nat) : List UInt8 :=
  (message.drop offset).take fragmentMax

section Fragment

variable {message : List UInt8} {offset : Nat}

/-- A fragment is as long as a frame may be, or as long as the rest of the message. -/
theorem length_fragmentAt :
    (fragmentAt message offset).length = min fragmentMax (message.length - offset) := by
  rw [fragmentAt, List.length_take, List.length_drop]

theorem length_fragmentAt_le : (fragmentAt message offset).length ≤ fragmentMax :=
  List.length_take_le _ _

/-- There is a fragment at every offset within the message. -/
theorem fragmentAt_ne_nil (left : offset < message.length) : fragmentAt message offset ≠ [] := by
  intro empty
  have length := @length_fragmentAt message offset
  rw [empty, List.length_nil, fragmentMax] at length
  omega

/-- What is before an offset and the fragment there. -/
theorem take_append_fragmentAt :
    message.take offset ++ fragmentAt message offset =
      message.take (offset + (fragmentAt message offset).length) := by
  rw [List.take_add, fragmentAt]
  congr 1
  rw [List.take_eq_take_iff, List.length_take]
  omega

end Fragment

section Layout

variable {operation : UInt8} {flags : UInt16} {sequence : UInt32} {offset : Nat}
  {data : List UInt8}

@[simp] theorem length_frameHeader (length : Nat) :
    (frameHeader operation flags sequence offset length).length = 12 := rfl

/-- A frame is its header, its payload and its checksum. -/
@[simp] theorem length_frameBytes :
    (frameBytes operation flags sequence offset data).length =
      wireHeaderSize + data.length + wireCrcSize := by
  simp only [frameBytes, List.length_append, length_frameHeader, length_put32, wireHeaderSize,
    wireCrcSize, show wireMagic.length = 4 from rfl]

theorem frameBytes_ne_nil : frameBytes operation flags sequence offset data ≠ [] := by
  intro empty
  have length := congrArg List.length empty
  rw [length_frameBytes, List.length_nil, wireHeaderSize] at length
  omega

/-- The header of a frame holds what the frame was built from, field by field: first the magic. -/
theorem frameBytes_magic : (frameBytes operation flags sequence offset data).take 4 = wireMagic :=
  rfl

theorem frameBytes_version : (frameBytes operation flags sequence offset data).getD 4 0 =
    wireVersion := rfl

theorem frameBytes_operation : (frameBytes operation flags sequence offset data).getD 5 0 =
    operation := rfl

theorem frameBytes_flags : get16 ((frameBytes operation flags sequence offset data).drop 6) =
    flags := get16_put16_append _ _

theorem frameBytes_sequence : get32 ((frameBytes operation flags sequence offset data).drop 8) =
    sequence := get32_put32_append _ _

/-- The offset is read back as it was put, as long as it fits its field. -/
theorem frameBytes_offset (fits : offset < 65536) :
    (get16 ((frameBytes operation flags sequence offset data).drop 12)).toNat = offset := by
  have field : get16 ((frameBytes operation flags sequence offset data).drop 12) =
      UInt16.ofNat offset := get16_put16_append _ _
  rw [field, UInt16.toNat_ofNat_of_lt' fits]

/-- So is the length. -/
theorem frameBytes_length (fits : data.length < 65536) :
    (get16 ((frameBytes operation flags sequence offset data).drop 14)).toNat = data.length := by
  have field : get16 ((frameBytes operation flags sequence offset data).drop 14) =
      UInt16.ofNat data.length := get16_put16_append _ _
  rw [field, UInt16.toNat_ofNat_of_lt' fits]

/-- The payload stands behind the header, as it was. -/
theorem frameBytes_payload :
    ((frameBytes operation flags sequence offset data).drop wireHeaderSize).take data.length =
      data := by
  have tail : (frameBytes operation flags sequence offset data).drop wireHeaderSize =
      data ++ put32 (crc32 (frameHeader operation flags sequence offset data.length ++ data)) := rfl
  rw [tail, List.take_left]

/-- The CRC field covers the header behind the magic and the payload. -/
theorem frameBytes_crc :
    get32 ((frameBytes operation flags sequence offset data).drop
        (wireHeaderSize + data.length)) =
      crc32 (((frameBytes operation flags sequence offset data).drop 4).take
        (12 + data.length)) := by
  have tail : (frameBytes operation flags sequence offset data).drop wireHeaderSize =
      data ++ put32 (crc32 (frameHeader operation flags sequence offset data.length ++ data)) := rfl
  have body : (frameBytes operation flags sequence offset data).drop 4 =
      (frameHeader operation flags sequence offset data.length ++ data) ++
        put32 (crc32 (frameHeader operation flags sequence offset data.length ++ data)) := rfl
  have length : (frameHeader operation flags sequence offset data.length ++ data).length =
      12 + data.length := by simp
  rw [← List.drop_drop, tail, List.drop_left, body, ← length, List.take_left, get32_put32]

end Layout

end OpenDiag.Wire
