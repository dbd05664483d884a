import OpenDiag.Lib.Crc
import OpenDiag.Wire.Firmware

/-!
# Bursts on the wire

The CRC of a frame runs the bytes behind the magic through a register of 32 bits, least significant
bit first, and is stored in the same order. So the CRC field goes through the register as any other
part of the frame does, and a burst of errors is detected wherever it lies.
-/

namespace OpenDiag.Wire

/-! ## The register -/

/-- The register of the reflected CRC-32. -/
def crcRegister : ShiftRegister 32 :=
  .low (by decide) 0xedb88320#32 rfl

/-- `crc32`, for one bit. -/
def crcStep (crc : UInt32) : UInt32 :=
  (crc >>> 1) ^^^ (0xedb88320 &&& (0 - (crc &&& 1)))

/-- One step of the code is one step of the shift register. -/
theorem crcStep_toBitVec (crc : UInt32) :
    (crcStep crc).toBitVec = crcRegister.step crc.toBitVec := by
  have out : 0xedb88320#32 &&& (0#32 - (crc.toBitVec &&& 1#32)) =
      feedback 0xedb88320#32 (crc.toBitVec.getLsbD 0) := by
    rw [BitVec.and_one_eq_setWidth_ofBool_getLsbD]
    cases crc.toBitVec.getLsbD 0 <;> rfl
  exact congrArg (crc.toBitVec >>> 1 ^^^ ·) out

theorem crcStep_iterate (n : Nat) (crc : UInt32) :
    (crcStep^[n] crc).toBitVec = crcRegister.step^[n] crc.toBitVec := by
  induction n generalizing crc with
  | zero => rfl
  | succ n ih =>
      rw [Function.iterate_succ_apply, Function.iterate_succ_apply, ih, crcStep_toBitVec]

/-- A byte is eight steps on what was put in. -/
theorem crcByte_eq (crc : UInt32) (byte : UInt8) :
    crcByte crc byte = crcStep^[8] (crc ^^^ byte.toUInt32) := rfl

/-! ## Bytes as bits -/

/-- The bits of a byte, least significant first. -/
def lsbFirst (byte : UInt8) : List Bool :=
  (List.range 8).map byte.toBitVec.getLsbD

/-- The bits of bytes, in the order they go through the register. -/
def wireBits (data : List UInt8) : List Bool :=
  data.flatMap lsbFirst

@[simp] theorem length_lsbFirst (byte : UInt8) : (lsbFirst byte).length = 8 := rfl

@[simp] theorem wireBits_cons (byte : UInt8) (data : List UInt8) :
    wireBits (byte :: data) = lsbFirst byte ++ wireBits data := rfl

@[simp] theorem wireBits_append (data data' : List UInt8) :
    wireBits (data ++ data') = wireBits data ++ wireBits data' :=
  List.flatMap_append

@[simp] theorem length_wireBits (data : List UInt8) : (wireBits data).length = 8 * data.length := by
  induction data with
  | nil => rfl
  | cons byte data ih =>
      rw [wireBits_cons, List.length_append, ih, length_lsbFirst, List.length_cons]
      omega

/-- The bits of a byte, the lowest first, make up the byte again. -/
theorem word_lsbFirst (byte : UInt8) :
    crcRegister.word 0 (lsbFirst byte) = byte.toUInt32.toBitVec := by
  have all : ∀ n : Fin 256, crcRegister.word 0 (lsbFirst (UInt8.ofNat n)) =
      (UInt8.ofNat n).toUInt32.toBitVec := by
    decide +kernel
  simpa using all ⟨byte.toNat, byte.toNat_lt⟩

/-- The bits of a stored CRC are the CRC. -/
theorem word_wireBits {field : List UInt8} (size : field.length = 4) :
    crcRegister.word 0 (wireBits field) = (get32 field).toBitVec := by
  match field, size with
  | [b₀, b₁, b₂, b₃], _ =>
    refine BitVec.eq_of_getLsbD_eq fun i inside => ?_
    refine (crcRegister.getLsbD_word (Nat.le_refl 32) inside).trans ?_
    simp [get32]
    interval_cases i <;> simp [wireBits, lsbFirst, List.range_succ]

/-- A byte of the code is its bits shifted into the register, the lowest first. -/
theorem crcByte_toBitVec (crc : UInt32) (byte : UInt8) :
    (crcByte crc byte).toBitVec = crcRegister.shifts crc.toBitVec (lsbFirst byte) := by
  have room : (lsbFirst byte).length ≤ 32 := (length_lsbFirst byte).trans_le (by decide)
  rw [crcByte_eq, crcStep_iterate, crcRegister.shifts_eq_word _ room, word_lsbFirst]
  rfl

/-- So are any bytes, by induction on them. -/
theorem foldl_crcByte (crc : UInt32) (data : List UInt8) :
    (data.foldl crcByte crc).toBitVec = crcRegister.shifts crc.toBitVec (wireBits data) := by
  induction data generalizing crc with
  | nil => rfl
  | cons byte data ih =>
      rw [List.foldl_cons, ih, crcByte_toBitVec, wireBits_cons, crcRegister.shifts_append]

/-! ## Stored CRCs -/

/-- A CRC behind what it covers, the one over it or not. -/
theorem get32_eq_crc32_iff (body : List UInt8) {field : List UInt8} (size : field.length = 4) :
    get32 field = crc32 body ↔
      crcRegister.shifts (BitVec.allOnes 32) (wireBits (body ++ field)) =
        crcRegister.step^[32] (BitVec.allOnes 32) := by
  have bits : (wireBits field).length = 32 := by rw [length_wireBits, size]
  have room : (wireBits field).length ≤ 32 := bits.le
  have state := foldl_crcByte 0xffffffff body
  have start : (0xffffffff : UInt32).toBitVec = BitVec.allOnes 32 := rfl
  rw [wireBits_append, crcRegister.shifts_append, crcRegister.shifts_eq_word _ room, bits,
    word_wireBits size, ← start, ← state, start]
  constructor
  · intro stored
    rw [stored, crc32, UInt32.toBitVec_not, xor_not]
  · intro same
    have sum := crcRegister.iterate_inj same
    rw [← xor_not (body.foldl crcByte 0xffffffff).toBitVec] at sum
    have both := congrArg ((body.foldl crcByte 0xffffffff).toBitVec ^^^ ·) sum
    simp only [← BitVec.xor_assoc, BitVec.xor_self, BitVec.zero_xor] at both
    exact UInt32.toBitVec_inj.1 both

/-! ## Frames -/

/-- The length field of a frame. -/
def payloadLength (frame : List UInt8) : Nat :=
  (get16 (frame.drop 14)).toNat

/-- A frame that the wire takes: its CRC is the one over what is behind the magic. -/
structure ValidFrame (frame : List UInt8) : Prop where
  magic : frame.take 4 = wireMagic
  version : frame.getD 4 0 = wireVersion
  short : payloadLength frame ≤ fragmentMax
  size : frame.length = wireHeaderSize + payloadLength frame + wireCrcSize
  crc : get32 (frame.drop (wireHeaderSize + payloadLength frame)) =
    crc32 ((frame.drop 4).take (12 + payloadLength frame))

/-- A frame that is laid out is valid. -/
theorem validFrame_frameBytes (operation : UInt8) (flags : UInt16) (sequence : UInt32)
    (offset : Nat) {data : List UInt8} (fits : data.length ≤ fragmentMax) :
    ValidFrame (frameBytes operation flags sequence offset data) := by
  rw [fragmentMax] at fits
  have length : payloadLength (frameBytes operation flags sequence offset data) = data.length :=
    frameBytes_length (by omega)
  exact ⟨frameBytes_magic, frameBytes_version, by rw [length]; exact fits,
    by rw [length, length_frameBytes], by rw [length, frameBytes_crc]⟩

/-- The bits behind the magic that are flipped in another frame. -/
def flips (frame frame' : List UInt8) : List Bool :=
  List.zipWith xor (wireBits (frame.drop 4)) (wireBits (frame'.drop 4))

/-- A burst of errors behind the magic that leaves the version and the length as they are. -/
structure Burst (frame frame' : List UInt8) : Prop where
  size : frame'.length = frame.length
  magic : frame'.take 4 = frame.take 4
  version : frame'.getD 4 0 = frame.getD 4 0
  length : (frame'.drop 14).take 2 = (frame.drop 14).take 2
  flipped : true ∈ flips frame frame'
  confined : ShiftRegister.Confined 32 (flips frame frame')

theorem get16_take (bytes : List UInt8) : get16 (bytes.take 2) = get16 bytes := by
  match bytes with
  | [] | [_] | _ :: _ :: _ => rfl

/-- A burst behind the header leaves the length of the frame alone. -/
theorem Burst.payloadLength {frame frame' : List UInt8} (burst : Burst frame frame') :
    payloadLength frame' = payloadLength frame := by
  rw [Wire.payloadLength, ← get16_take, burst.length, get16_take, Wire.payloadLength]

/-- The CRC of a frame is the one over what it covers if the register is left in one state. -/
theorem crc_iff {frame : List UInt8} {length : Nat}
    (size : frame.length = wireHeaderSize + length + wireCrcSize) :
    get32 (frame.drop (wireHeaderSize + length)) = crc32 ((frame.drop 4).take (12 + length)) ↔
      crcRegister.shifts (BitVec.allOnes 32) (wireBits (frame.drop 4)) =
        crcRegister.step^[32] (BitVec.allOnes 32) := by
  have field : (frame.drop (wireHeaderSize + length)).length = 4 := by
    rw [List.length_drop, size, wireCrcSize]
    omega
  have parts : (frame.drop 4).take (12 + length) ++ frame.drop (wireHeaderSize + length) =
      frame.drop 4 := by
    rw [show wireHeaderSize + length = 4 + (12 + length) by rw [wireHeaderSize]; omega,
      ← List.drop_drop, List.take_append_drop]
  rw [get32_eq_crc32_iff _ field, parts]

/-- The checksum of a frame that was hit by a burst does not fit. -/
theorem Burst.detected {frame frame' : List UInt8} (valid : ValidFrame frame)
    (burst : Burst frame frame') :
    get32 (frame'.drop (wireHeaderSize + Wire.payloadLength frame')) ≠
      crc32 ((frame'.drop 4).take (12 + Wire.payloadLength frame')) := by
  rw [burst.payloadLength]
  intro undetected
  have state := (crc_iff valid.size).1 valid.crc
  have state' := (crc_iff (burst.size.trans valid.size)).1 undetected
  have bits : (wireBits (frame.drop 4)).length = (wireBits (frame'.drop 4)).length := by
    rw [length_wireBits, length_wireBits, List.length_drop, List.length_drop, burst.size]
  have apart := crcRegister.shifts_xor (BitVec.allOnes 32) (BitVec.allOnes 32) bits
  rw [BitVec.xor_self, state, state', BitVec.xor_self] at apart
  exact crcRegister.confined_detected burst.flipped burst.confined apart

/-- A frame that a burst has hit does nothing: the wire stays as it is, the core is not called and
nothing is sent. -/
theorem burst_ignored {κ : Type} (coreRequest : UInt8 → List UInt8 → κ → List UInt8 × κ)
    (fw : Firmware κ) (frame frame' : List UInt8) (valid : ValidFrame frame)
    (burst : Burst frame frame') :
    (processFrame coreRequest (fw.hold frame')).wire = (fw.hold frame').wire ∧
      (processFrame coreRequest (fw.hold frame')).core = fw.core ∧
      (processFrame coreRequest (fw.hold frame')).calls = fw.calls ∧
      (processFrame coreRequest (fw.hold frame')).written = fw.written := by
  have refused : processFrame coreRequest (fw.hold frame') = refuse (fw.hold frame') :=
    if_pos (burst.detected valid)
  rw [refused]
  exact ⟨rfl, rfl, rfl, rfl⟩

theorem burst_ignored_echo :
    let frame := frameBytes 7 0 1 0 [1, 2, 3]
    let frame' := frame.modify 16 (· ^^^ 0x80)
    let fw : Firmware Nat := { core := 0 }
    (processFrame (fun _ request core => (request, core + 1)) (fw.hold frame')).calls = [] := by
  intro frame frame' fw
  have valid : ValidFrame frame := validFrame_frameBytes 7 0 1 0 (by decide)
  have window : ∀ k : Fin 152, (flips frame frame')[k.val]? = some true →
      103 ≤ k.val ∧ k.val < 135 := by
    decide +kernel
  have burst : Burst frame frame' := by
    refine ⟨by decide +kernel, by decide +kernel, by decide +kernel, by decide +kernel,
      by decide +kernel, 103, fun k flipped => ?_⟩
    have inside : k < 152 := (List.getElem?_eq_some_iff.1 flipped).1
    exact window ⟨k, inside⟩ flipped
  exact (burst_ignored (fun _ request core => (request, core + 1)) fw frame frame' valid
    burst).2.2.1

end OpenDiag.Wire
