import OpenDiag.Can
import OpenDiag.Wire.Frame

/-!
# The firmware's end of the wire

`j2534_wire.c`: bytes are collected into a frame, resynchronising on the magic; request fragments
are assembled in order and acknowledged, the last one is handed to the core, and the response is
served fragment by fragment. A pause of more than two seconds in the input drops a partial frame
and a partial request.
-/

namespace OpenDiag.Wire

def wireTimeoutUs : Time := 2000000

/-- The `wire` of `j2534_wire.c`. -/
structure WireState where
  frame : List UInt8 := []
  request : List UInt8 := []
  response : List UInt8 := []
  sequence : UInt32 := 0
  lastInputUs : Time := 0
  operation : UInt8 := 0
  assemblingRequest : Bool := false
  responseReady : Bool := false
  deriving DecidableEq, Repr

/-- The wire, the core behind it, and the bytes written to the link that the host has not read. Two
histories stand beside them: the calls the core has had, and the frames that were not accepted. -/
structure Firmware (κ : Type*) where
  wire : WireState := {}
  core : κ
  written : List UInt8 := []
  calls : List (UInt8 × List UInt8) := []
  refused : List (List UInt8) := []

section Code

variable {κ : Type*} (coreRequest : UInt8 → List UInt8 → κ → List UInt8 × κ)

/-- Where the source returns without taking the frame. -/
def refuse (fw : Firmware κ) : Firmware κ :=
  { fw with refused := fw.refused ++ [fw.wire.frame] }

def sendFragment (fw : Firmware κ) (flags : UInt16) (offset : Nat) (data : List UInt8) :
    Firmware κ :=
  { fw with written := fw.written ++
      frameBytes fw.wire.operation (wireResponse ||| flags) fw.wire.sequence offset data }

def sendResponseFragment (fw : Firmware κ) (offset : Nat) : Firmware κ :=
  if offset > fw.wire.response.length then refuse fw
  else
    let data := fragmentAt fw.wire.response offset
    let flags := if offset + data.length < fw.wire.response.length then wireMore else 0
    sendFragment fw flags offset data

/-- `reject_request`: a protobuf response whose status is `J2534_MSG`. -/
def rejectRequest (fw : Firmware κ) : Firmware κ :=
  sendResponseFragment (refuse { fw with wire := { fw.wire with
    assemblingRequest := false
    response := [8, 10]
    responseReady := true } }) 0

/-- `process_frame` where a fragment at offset 0 begins a request. -/
def beginRequest (fw : Firmware κ) (sequence : UInt32) (operation : UInt8) : Firmware κ :=
  { fw with wire := { fw.wire with
    request := []
    sequence
    operation
    assemblingRequest := true
    responseReady := false } }

/-- `process_frame` from there on: the fragment is appended and acknowledged, or completes the
request. -/
def takeFragment (fw : Firmware κ) (flags : UInt16) (sequence : UInt32) (operation : UInt8)
    (offset : Nat) (data : List UInt8) : Firmware κ :=
  if ¬ fw.wire.assemblingRequest ∨ sequence ≠ fw.wire.sequence ∨
      operation ≠ fw.wire.operation ∨ offset ≠ fw.wire.request.length then refuse fw
  else if data.length > rpcMax - fw.wire.request.length ∨ (flags ≠ 0 ∧ data.length = 0) then
    rejectRequest fw
  else
    let request := fw.wire.request ++ data
    let fw := { fw with wire := { fw.wire with request } }
    if flags ≠ 0 then sendFragment fw wireAck request.length []
    else
      let (response, core) := coreRequest fw.wire.operation request fw.core
      sendResponseFragment
        { fw with
          core
          calls := fw.calls ++ [(fw.wire.operation, request)]
          wire := { fw.wire with assemblingRequest := false, response, responseReady := true } }
        0

def processFrame (fw : Firmware κ) : Firmware κ :=
  let frame := fw.wire.frame
  let flags := get16 (frame.drop 6)
  let offset := (get16 (frame.drop 12)).toNat
  let length := (get16 (frame.drop 14)).toNat
  let sequence := get32 (frame.drop 8)
  let operation := frame.getD 5 0
  if get32 (frame.drop (wireHeaderSize + length)) ≠ crc32 ((frame.drop 4).take (12 + length)) then
    refuse fw
  else if flags = wireFetch then
    if length = 0 ∧ fw.wire.responseReady ∧ sequence = fw.wire.sequence ∧
        operation = fw.wire.operation then sendResponseFragment fw offset
    else refuse fw
  else if flags &&& ~~~wireMore ≠ 0 then refuse fw
  else
    let fw := if offset = 0 then beginRequest fw sequence operation else fw
    takeFragment coreRequest fw flags sequence operation offset
      ((frame.drop wireHeaderSize).take length)

/-- Drop bytes from the front until what is left can be the start of a frame. -/
def resync : List UInt8 → List UInt8
  | [] => []
  | byte :: rest =>
    if (byte :: rest).take 4 = wireMagic.take (rest.length + 1) then byte :: rest else resync rest

/-- The firmware holding these bytes of a frame. -/
def Firmware.hold (fw : Firmware κ) (frame : List UInt8) : Firmware κ :=
  { fw with wire := { fw.wire with frame } }

/-- One byte of `feed`. -/
def feedByte (fw : Firmware κ) (byte : UInt8) : Firmware κ :=
  let frame := resync (fw.wire.frame ++ [byte])
  let fw := fw.hold frame
  if frame.length < wireHeaderSize then fw
  else
    let length := (get16 (frame.drop 14)).toNat
    if frame.getD 4 0 ≠ wireVersion ∨ length > fragmentMax then (refuse fw).hold []
    else if frame.length = wireHeaderSize + length + wireCrcSize then
      (processFrame coreRequest fw).hold []
    else fw

def feed (fw : Firmware κ) (data : List UInt8) (currentUs : Time) : Firmware κ :=
  let fw := if currentUs - fw.wire.lastInputUs > wireTimeoutUs then
      { fw with wire := { fw.wire with frame := [], assemblingRequest := false } }
    else fw
  let fw := { fw with wire := { fw.wire with lastInputUs := currentUs } }
  data.foldl (feedByte coreRequest) fw

/-! ## The time of the last input -/

/-- The firmware with another time of its last input. -/
def Firmware.stamp (fw : Firmware κ) (time : Time) : Firmware κ :=
  { fw with wire := { fw.wire with lastInputUs := time } }

/-- Of two stamps the later one stays. -/
@[simp] theorem stamp_stamp (fw : Firmware κ) (first second : Time) :
    (fw.stamp first).stamp second = fw.stamp second := rfl

section Fields

variable (fw : Firmware κ) (time : Time)

@[simp] theorem stamp_frame : (fw.stamp time).wire.frame = fw.wire.frame := rfl

@[simp] theorem stamp_request : (fw.stamp time).wire.request = fw.wire.request := rfl

@[simp] theorem stamp_response : (fw.stamp time).wire.response = fw.wire.response := rfl

@[simp] theorem stamp_sequence : (fw.stamp time).wire.sequence = fw.wire.sequence := rfl

@[simp] theorem stamp_operation : (fw.stamp time).wire.operation = fw.wire.operation := rfl

@[simp] theorem stamp_assemblingRequest :
    (fw.stamp time).wire.assemblingRequest = fw.wire.assemblingRequest := rfl

@[simp] theorem stamp_responseReady :
    (fw.stamp time).wire.responseReady = fw.wire.responseReady := rfl

@[simp] theorem stamp_lastInputUs : (fw.stamp time).wire.lastInputUs = time := rfl

@[simp] theorem stamp_written : (fw.stamp time).written = fw.written := rfl

@[simp] theorem stamp_calls : (fw.stamp time).calls = fw.calls := rfl

@[simp] theorem stamp_refused : (fw.stamp time).refused = fw.refused := rfl

@[simp] theorem stamp_core : (fw.stamp time).core = fw.core := rfl

end Fields

/-- A response is sent whenever the last input was. -/
theorem sendResponseFragment_stamp (fw : Firmware κ) (offset : Nat) (time : Time) :
    sendResponseFragment (fw.stamp time) offset = (sendResponseFragment fw offset).stamp time := by
  have response := stamp_response fw time
  simp only [sendResponseFragment, response]
  split_ifs <;> rfl

/-- A fragment is taken whenever the last input was. -/
theorem takeFragment_stamp (fw : Firmware κ) (flags : UInt16) (sequence : UInt32)
    (operation : UInt8) (offset : Nat) (data : List UInt8) (time : Time) :
    takeFragment coreRequest (fw.stamp time) flags sequence operation offset data =
      (takeFragment coreRequest fw flags sequence operation offset data).stamp time := by
  -- As hypotheses, so that the instances of the conditions are rewritten with them.
  have request := stamp_request fw time
  have expected := stamp_sequence fw time
  have called := stamp_operation fw time
  have assembling := stamp_assemblingRequest fw time
  unfold takeFragment
  simp only [request, expected, called, assembling]
  split_ifs <;> rfl

/-- A frame is processed whenever the last input was. -/
theorem processFrame_stamp (fw : Firmware κ) (time : Time) :
    processFrame coreRequest (fw.stamp time) = (processFrame coreRequest fw).stamp time := by
  have frame := stamp_frame fw time
  have sequence := stamp_sequence fw time
  have operation := stamp_operation fw time
  have ready := stamp_responseReady fw time
  unfold processFrame
  simp only [frame, sequence, operation, ready]
  split_ifs
  · rfl
  · exact sendResponseFragment_stamp fw _ time
  · rfl
  · rfl
  · exact takeFragment_stamp coreRequest (beginRequest fw _ _) _ _ _ _ _ time
  · exact takeFragment_stamp coreRequest fw _ _ _ _ _ time

/-- No byte looks at the time of the last input. -/
theorem feedByte_stamp (fw : Firmware κ) (byte : UInt8) (time : Time) :
    feedByte coreRequest (fw.stamp time) byte = (feedByte coreRequest fw byte).stamp time := by
  have frame := stamp_frame fw time
  have framed := processFrame_stamp coreRequest (fw.hold (resync (fw.wire.frame ++ [byte]))) time
  unfold feedByte
  simp only [frame]
  split_ifs
  · rfl
  · rfl
  · exact congrArg (Firmware.hold · []) framed
  · rfl

/-- So the time of the last input can be set before the bytes or after them. -/
theorem foldl_feedByte_stamp (fw : Firmware κ) (data : List UInt8) (time : Time) :
    data.foldl (feedByte coreRequest) (fw.stamp time) =
      (data.foldl (feedByte coreRequest) fw).stamp time := by
  induction data generalizing fw with
  | nil => rfl
  | cons byte data ih => rw [List.foldl_cons, feedByte_stamp, ih, List.foldl_cons]

/-! ## Whole frames -/

/-- Bytes that begin as a frame does are kept. -/
theorem resync_of_begun {bytes frame : List UInt8} (begins : bytes <+: frame)
    (magic : frame.take 4 = wireMagic) : resync bytes = bytes := by
  cases bytes with
  | nil => rfl
  | cons byte rest =>
      obtain ⟨tail, rfl⟩ := begins
      have agrees : (byte :: rest).take 4 = wireMagic.take (byte :: rest).length := by
        rw [← magic, List.take_take, Nat.min_comm, ← List.take_take,
          List.take_append_of_le_length (Nat.le_refl _), List.take_length]
      exact if_pos agrees

section Frame

variable {coreRequest} {fw : Firmware κ} {operation : UInt8} {flags : UInt16} {sequence : UInt32}
  {offset : Nat} {data : List UInt8}

/-- The header fields of a frame are there as soon as the header is. -/
theorem header_of_begun {bytes : List UInt8}
    (begins : bytes <+: frameBytes operation flags sequence offset data)
    (header : wireHeaderSize ≤ bytes.length) (fits : data.length ≤ fragmentMax) :
    bytes.getD 4 0 = wireVersion ∧ (get16 (bytes.drop 14)).toNat = data.length := by
  have whole : wireMagic ++ frameHeader operation flags sequence offset data.length <+:
      frameBytes operation flags sequence offset data := by
    rw [frameBytes, List.append_assoc]
    exact List.prefix_append ..
  obtain ⟨more, rfl⟩ := List.prefix_of_prefix_length_le whole begins header
  refine ⟨rfl, ?_⟩
  have field : get16 ((wireMagic ++ frameHeader operation flags sequence offset data.length ++
      more).drop 14) = UInt16.ofNat data.length := get16_put16_append _ _
  rw [field, UInt16.toNat_ofNat_of_lt' (Nat.lt_of_le_of_lt fits (by decide))]

/-- A byte that does not complete the frame is kept. -/
theorem feedByte_of_begun {byte : UInt8}
    (begins : fw.wire.frame ++ [byte] <+: frameBytes operation flags sequence offset data)
    (unfinished : fw.wire.frame.length + 1 < wireHeaderSize + data.length + wireCrcSize)
    (fits : data.length ≤ fragmentMax) :
    feedByte coreRequest fw byte = fw.hold (fw.wire.frame ++ [byte]) := by
  rw [feedByte, resync_of_begun begins frameBytes_magic]
  by_cases short : (fw.wire.frame ++ [byte]).length < wireHeaderSize
  · exact if_pos short
  · obtain ⟨version, length⟩ := header_of_begun begins (Nat.le_of_not_lt short) fits
    have sound : ¬ ((fw.wire.frame ++ [byte]).getD 4 0 ≠ wireVersion ∨
        (get16 ((fw.wire.frame ++ [byte]).drop 14)).toNat > fragmentMax) := by
      rw [version, length]
      simpa using fits
    have incomplete : (fw.wire.frame ++ [byte]).length ≠
        wireHeaderSize + (get16 ((fw.wire.frame ++ [byte]).drop 14)).toNat + wireCrcSize := by
      rw [length, List.length_append]
      exact Nat.ne_of_lt unfinished
    simp only [short, sound, incomplete, if_false]

/-- The byte that completes the frame has it processed. -/
theorem feedByte_of_frame {byte : UInt8}
    (framed : fw.wire.frame ++ [byte] = frameBytes operation flags sequence offset data)
    (fits : data.length ≤ fragmentMax) :
    feedByte coreRequest fw byte =
      (processFrame coreRequest
        (fw.hold (frameBytes operation flags sequence offset data))).hold [] := by
  have begins := (List.prefix_refl (frameBytes operation flags sequence offset data))
  have long : ¬ (frameBytes operation flags sequence offset data).length < wireHeaderSize := by
    rw [length_frameBytes]
    omega
  obtain ⟨version, length⟩ := header_of_begun begins (Nat.le_of_not_lt long) fits
  have sound : ¬ ((frameBytes operation flags sequence offset data).getD 4 0 ≠ wireVersion ∨
      (get16 ((frameBytes operation flags sequence offset data).drop 14)).toNat > fragmentMax) := by
    rw [version, length]
    simpa using fits
  have complete : (frameBytes operation flags sequence offset data).length =
      wireHeaderSize +
        (get16 ((frameBytes operation flags sequence offset data).drop 14)).toNat + wireCrcSize := by
    rw [length, length_frameBytes]
  rw [feedByte, framed, resync_of_begun begins frameBytes_magic]
  dsimp only
  rw [if_neg long, if_neg sound, if_pos complete]

/-- The rest of a frame, fed byte by byte, has it processed. -/
theorem foldl_feedByte_of_frame {rest : List UInt8} (fits : data.length ≤ fragmentMax)
    (nonempty : rest ≠ [])
    (framed : fw.wire.frame ++ rest = frameBytes operation flags sequence offset data) :
    rest.foldl (feedByte coreRequest) fw =
      (processFrame coreRequest
        (fw.hold (frameBytes operation flags sequence offset data))).hold [] := by
  induction rest generalizing fw with
  | nil => exact absurd rfl nonempty
  | cons byte rest ih =>
      rw [List.foldl_cons]
      cases rest with
      | nil => exact feedByte_of_frame framed fits
      | cons next rest =>
          have joined : (fw.wire.frame ++ [byte]) ++ next :: rest =
              frameBytes operation flags sequence offset data := by
            rw [List.append_assoc]
            exact framed
          have length := congrArg List.length joined
          simp only [List.length_append, List.length_cons, List.length_nil,
            length_frameBytes] at length
          rw [feedByte_of_begun ⟨next :: rest, joined⟩ (by omega) fits,
            @ih (fw.hold (fw.wire.frame ++ [byte])) (List.cons_ne_nil _ _) joined]
          rfl

/-- The firmware has assembled this much of a request. -/
structure Firmware.Assembles (fw : Firmware κ) (operation : UInt8) (sequence : UInt32)
    (request : List UInt8) : Prop where
  assembling : fw.wire.assemblingRequest = true
  sequence : fw.wire.sequence = sequence
  operation : fw.wire.operation = operation
  request : fw.wire.request = request

/-- The firmware has the response to this request to serve. -/
structure Firmware.Serves (fw : Firmware κ) (operation : UInt8) (sequence : UInt32)
    (response : List UInt8) : Prop where
  ready : fw.wire.responseReady = true
  sequence : fw.wire.sequence = sequence
  operation : fw.wire.operation = operation
  response : fw.wire.response = response

/-- The fragment of a response at an offset. -/
def responseFragment (operation : UInt8) (sequence : UInt32) (response : List UInt8)
    (offset : Nat) : List UInt8 :=
  let data := fragmentAt response offset
  frameBytes operation
    (wireResponse ||| if offset + data.length < response.length then wireMore else 0)
    sequence offset data

/-- A fragment of a response that is served is written, up to its end. -/
theorem sendResponseFragment_of_le {response : List UInt8}
    (serves : fw.Serves operation sequence response) (within : offset ≤ response.length) :
    sendResponseFragment fw offset =
      { fw with written := fw.written ++ responseFragment operation sequence response offset } := by
  obtain ⟨_, rfl, rfl, rfl⟩ := serves
  rw [sendResponseFragment, if_neg (Nat.not_lt_of_le within)]
  rfl

/-- The CRC of a frame that is a frame holds. -/
theorem crc_of_frame (framed : fw.wire.frame = frameBytes operation flags sequence offset data)
    (fits : data.length < 65536) :
    ¬ get32 (fw.wire.frame.drop
        (wireHeaderSize + (get16 (fw.wire.frame.drop 14)).toNat)) ≠
      crc32 ((fw.wire.frame.drop 4).take
        (12 + (get16 (fw.wire.frame.drop 14)).toNat)) := by
  rw [framed, frameBytes_length fits, frameBytes_crc]
  exact fun differs => differs rfl

/-- A fetch is answered with the fragment of the response it asks for. -/
theorem processFrame_of_fetch {response : List UInt8}
    (framed : fw.wire.frame = frameBytes operation wireFetch sequence offset [])
    (serves : fw.Serves operation sequence response) (within : offset ≤ response.length)
    (small : offset < 65536) :
    processFrame coreRequest fw =
      { fw with written := fw.written ++ responseFragment operation sequence response offset } := by
  have empty : ([] : List UInt8).length < 65536 := by decide
  unfold processFrame
  dsimp only
  rw [if_neg (crc_of_frame framed empty)]
  simp only [framed, frameBytes_flags, frameBytes_length empty, frameBytes_sequence,
    frameBytes_operation, frameBytes_offset small, serves.ready, serves.sequence,
    serves.operation, List.length_nil, and_self, if_true]
  exact sendResponseFragment_of_le serves within

/-- What a fragment makes of the firmware that has assembled what is before it. -/
def Firmware.taken (fw : Firmware κ)
    (coreRequest : UInt8 → List UInt8 → κ → List UInt8 × κ) (flags : UInt16)
    (request : List UInt8) : Firmware κ :=
  let fw := { fw with wire := { fw.wire with request } }
  if flags ≠ 0 then sendFragment fw wireAck request.length []
  else
    let (response, core) := coreRequest fw.wire.operation request fw.core
    { fw with
      core
      calls := fw.calls ++ [(fw.wire.operation, request)]
      wire := { fw.wire with assemblingRequest := false, response, responseReady := true }
      written := fw.written ++ responseFragment fw.wire.operation fw.wire.sequence response 0 }

/-- What the last fragment makes of it. -/
theorem taken_of_last {request response : List UInt8} {core : κ}
    (called : coreRequest fw.wire.operation request fw.core = (response, core)) :
    fw.taken coreRequest 0 request =
      { fw with
        core
        calls := fw.calls ++ [(fw.wire.operation, request)]
        wire := { fw.wire with request, assemblingRequest := false, response, responseReady := true }
        written := fw.written ++ responseFragment fw.wire.operation fw.wire.sequence response 0 } := by
  dsimp only [Firmware.taken]
  rw [if_neg (by decide), called]

/-- The fragment that comes next is added to the request. -/
theorem takeFragment_of_next {request : List UInt8}
    (assembles : fw.Assembles operation sequence request) (nonempty : data ≠ [])
    (room : request.length + data.length ≤ rpcMax) :
    takeFragment coreRequest fw flags sequence operation request.length data =
      fw.taken coreRequest flags (request ++ data) := by
  obtain ⟨assembling, rfl, rfl, rfl⟩ := assembles
  have positive : data.length ≠ 0 := mt List.length_eq_zero_iff.mp nonempty
  have next : ¬ (¬ fw.wire.assemblingRequest = true ∨ fw.wire.sequence ≠ fw.wire.sequence ∨
      fw.wire.operation ≠ fw.wire.operation ∨
        fw.wire.request.length ≠ fw.wire.request.length) := by
    simp [assembling]
  have fits : ¬ (data.length > rpcMax - fw.wire.request.length ∨
      flags ≠ 0 ∧ data.length = 0) := by
    rintro (beyond | ⟨_, empty⟩)
    · omega
    · exact positive empty
  rw [takeFragment, if_neg next, if_neg fits, Firmware.taken]
  dsimp only
  by_cases more : flags ≠ 0
  · rw [if_pos more, if_pos more]
  · rw [if_neg more, if_neg more]
    exact sendResponseFragment_of_le ⟨rfl, rfl, rfl, rfl⟩ (Nat.zero_le _)

/-- The firmware that takes the fragment after this much of a request: at the first one it begins
a request. -/
def Firmware.begun (fw : Firmware κ) (operation : UInt8) (sequence : UInt32)
    (request : List UInt8) : Firmware κ :=
  if request = [] then beginRequest fw sequence operation else fw

/-- The request before the next fragment is assembled, or there is none yet. -/
def Firmware.Expects (fw : Firmware κ) (operation : UInt8) (sequence : UInt32)
    (request : List UInt8) : Prop :=
  request = [] ∨ fw.Assembles operation sequence request

/-- Bytes that are held back are not taken yet. -/
theorem Firmware.Expects.hold {request : List UInt8}
    (expects : fw.Expects operation sequence request) (frame : List UInt8) :
    (fw.hold frame).Expects operation sequence request :=
  expects.imp id fun assembles =>
    ⟨assembles.assembling, assembles.sequence, assembles.operation, assembles.request⟩

section Begun

variable {request : List UInt8}

/-- A request that begins is assembled from its first fragment. -/
theorem begun_assembles (expects : fw.Expects operation sequence request) :
    (fw.begun operation sequence request).Assembles operation sequence request := by
  by_cases first : request = []
  · rw [Firmware.begun, if_pos first, first]
    exact ⟨rfl, rfl, rfl, rfl⟩
  · rw [Firmware.begun, if_neg first]
    exact expects.resolve_left first

@[simp] theorem begun_core : (fw.begun operation sequence request).core = fw.core := by
  unfold Firmware.begun
  split <;> rfl

@[simp] theorem begun_calls : (fw.begun operation sequence request).calls = fw.calls := by
  unfold Firmware.begun
  split <;> rfl

@[simp] theorem begun_refused : (fw.begun operation sequence request).refused = fw.refused := by
  unfold Firmware.begun
  split <;> rfl

@[simp] theorem begun_written : (fw.begun operation sequence request).written = fw.written := by
  unfold Firmware.begun
  split <;> rfl

end Begun

/-- A fragment of a request that is its first or the next one, and is not empty. -/
theorem processFrame_of_request {request : List UInt8}
    (framed : fw.wire.frame = frameBytes operation flags sequence request.length data)
    (known : flags = wireMore ∨ flags = 0) (expects : fw.Expects operation sequence request)
    (nonempty : data ≠ []) (small : data.length ≤ fragmentMax)
    (room : request.length + data.length ≤ rpcMax) :
    processFrame coreRequest fw =
      (fw.begun operation sequence request).taken coreRequest flags (request ++ data) := by
  have short : data.length < 65536 := Nat.lt_of_le_of_lt small (by decide)
  have near : request.length < 65536 := by simp only [rpcMax] at room; omega
  have notFetch : flags ≠ wireFetch := by rcases known with rfl | rfl <;> decide
  have noOther : ¬ flags &&& ~~~wireMore ≠ 0 := by rcases known with rfl | rfl <;> decide
  have crc := crc_of_frame framed short
  unfold processFrame
  dsimp only
  rw [if_neg crc, framed, frameBytes_flags, frameBytes_length short, frameBytes_sequence,
    frameBytes_operation, frameBytes_offset near, frameBytes_payload, if_neg notFetch,
    if_neg noOther]
  simp only [List.length_eq_zero_iff]
  exact takeFragment_of_next (begun_assembles expects) nonempty room

end Frame

end Code

end OpenDiag.Wire
