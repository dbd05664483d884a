import OpenDiag.Lib.Monitor
import OpenDiag.Wire.Firmware

/-!
# Resynchronisation

The bytes of a link are frames with noise between them, cut anywhere into calls of `feed`. The
scanner keeps the longest end of what it has seen that can begin a frame, so that it finds every
frame and nothing else, and forgets a frame with the call of `process_frame` that it makes for it.
-/

namespace OpenDiag.Wire

/-! ## The scanner -/

/-- What the loop of `feed` makes of one byte: it goes on with these bytes, drops them, or has them
processed. -/
inductive Scan where
  | wait (frame : List UInt8)
  | reject (frame : List UInt8)
  | complete (frame : List UInt8)
  deriving DecidableEq, Repr

/-- The loop of `feed`, up to its call of `process_frame`. -/
def scanByte (buffer : List UInt8) (byte : UInt8) : Scan :=
  let frame := resync (buffer ++ [byte])
  if frame.length < wireHeaderSize then .wait frame
  else
    let length := (get16 (frame.drop 14)).toNat
    if frame.getD 4 0 ≠ wireVersion ∨ length > fragmentMax then .reject frame
    else if frame.length = wireHeaderSize + length + wireCrcSize then .complete frame
    else .wait frame

/-- What is left in the buffer. -/
def Scan.left : Scan → List UInt8
  | .wait frame => frame
  | .reject _ | .complete _ => []

/-- The frames that `process_frame` is entered with: one, or none. -/
def Scan.entered : Scan → List (List UInt8)
  | .complete frame => [frame]
  | .wait _ | .reject _ => []

/-- `WIRE_FRAME_MAX`. -/
def wireFrameMax : Nat := wireHeaderSize + fragmentMax + wireCrcSize

/-- The bytes of a frame, whatever its CRC. -/
structure WellFormed (frame : List UInt8) : Prop where
  magic : frame.take 4 = wireMagic
  version : frame.getD 4 0 = wireVersion
  payload : (get16 (frame.drop 14)).toNat ≤ fragmentMax
  length : frame.length = wireHeaderSize + (get16 (frame.drop 14)).toNat + wireCrcSize

/-- The bytes of a frame that has begun and is not complete. -/
structure Unfinished (buffer : List UInt8) : Prop where
  begins : buffer.take 4 = wireMagic.take buffer.length
  header : wireHeaderSize ≤ buffer.length → buffer.getD 4 0 = wireVersion ∧
    (get16 (buffer.drop 14)).toNat ≤ fragmentMax ∧
    buffer.length < wireHeaderSize + (get16 (buffer.drop 14)).toNat + wireCrcSize

section Scanner

variable {buffer frame : List UInt8} {byte : UInt8}

/-- What is kept is an end of what there was, and begins as the magic does. -/
theorem resync_spec (bytes : List UInt8) :
    resync bytes <:+ bytes ∧ (resync bytes).take 4 = wireMagic.take (resync bytes).length := by
  induction bytes with
  | nil => exact ⟨List.suffix_refl _, rfl⟩
  | cons byte rest ih =>
      rw [resync]
      split
      · exact ⟨List.suffix_refl _, ‹_›⟩
      · exact ⟨ih.1.trans (List.suffix_cons _ _), ih.2⟩

theorem resync_of_begins (begins : buffer.take 4 = wireMagic.take buffer.length) :
    resync buffer = buffer := by
  cases buffer with
  | nil => rfl
  | cons byte rest => exact if_pos begins

theorem Unfinished.nil : Unfinished [] :=
  ⟨rfl, fun long => absurd long (by decide)⟩

/-- The buffer is never longer than a frame without its last byte. -/
theorem Unfinished.length_lt (unfinished : Unfinished buffer) : buffer.length < wireFrameMax := by
  unfold wireFrameMax
  by_cases long : wireHeaderSize ≤ buffer.length
  · obtain ⟨_, small, short⟩ := unfinished.header long
    omega
  · omega

/-- Two header fields of a buffer that has grown are still what they were. -/
theorem header_append (long : wireHeaderSize ≤ buffer.length) (more : List UInt8) :
    (buffer ++ more).getD 4 0 = buffer.getD 4 0 ∧
      get16 ((buffer ++ more).drop 14) = get16 (buffer.drop 14) := by
  unfold wireHeaderSize at long
  have field (n : Nat) (inside : n < buffer.length) :
      (buffer ++ more).getD n 0 = buffer.getD n 0 := by
    simp [List.getD_eq_getElem?_getD, List.getElem?_append_left inside]
  have low := field 14 (by omega)
  have high := field 15 (by omega)
  refine ⟨field 4 (by omega), ?_⟩
  simp only [List.getD_eq_getElem?_getD] at low high
  simp only [get16, List.getD_eq_getElem?_getD, List.getElem?_drop]
  rw [low, high]

/-- A buffer that has the magic grows. -/
theorem Unfinished.grows (unfinished : Unfinished buffer) (long : 4 ≤ buffer.length)
    (byte : UInt8) : resync (buffer ++ [byte]) = buffer ++ [byte] := by
  apply resync_of_begins
  rw [List.take_append_of_le_length long, unfinished.begins, List.take_of_length_le long,
    List.take_of_length_le]
  simp only [List.length_append]
  exact Nat.le_add_right_of_le long

/-- One byte of any input keeps the buffer unfinished. -/
theorem Unfinished.scan (unfinished : Unfinished buffer) (byte : UInt8) :
    Unfinished (scanByte buffer byte).left := by
  obtain ⟨suffix, begins⟩ := resync_spec (buffer ++ [byte])
  unfold scanByte
  dsimp only
  split
  · rename_i short
    exact ⟨begins, fun long => absurd short (Nat.not_lt.mpr long)⟩
  · split
    · exact .nil
    · rename_i long sound
      obtain ⟨version, small⟩ := not_or.mp sound
      split
      · exact .nil
      · rename_i incomplete
        refine ⟨begins, fun _ => ⟨not_not.mp version, Nat.not_lt.mp small, ?_⟩⟩
        have most := suffix.length_le
        rw [List.length_append, List.length_singleton] at most
        unfold wireHeaderSize at long
        unfold wireHeaderSize wireCrcSize at incomplete ⊢
        simp only [Scan.left]
        -- The buffer was fifteen bytes or a frame that lacked more than this one.
        by_cases header : wireHeaderSize ≤ buffer.length
        · rw [unfinished.grows (by unfold wireHeaderSize at header; omega)] at incomplete ⊢
          have short := (unfinished.header header).2.2
          rw [(header_append header [byte]).2] at incomplete ⊢
          rw [List.length_append, List.length_singleton] at incomplete ⊢
          unfold wireHeaderSize wireCrcSize at short
          omega
        · unfold wireHeaderSize at header
          omega

/-! ### Noise -/

/-- One byte given to the scanner. -/
def scanStep (buffer : List UInt8) (byte : UInt8) : List UInt8 × List (List UInt8) :=
  ((scanByte buffer byte).left, (scanByte buffer byte).entered)

/-- The buffer holds less than the magic. -/
def Partial (buffer : List UInt8) : Prop :=
  buffer <+: wireMagic ∧ buffer.length < 4

theorem Partial.nil : Partial [] :=
  ⟨List.nil_prefix, by decide⟩

/-- What is kept of a part of the magic and one more byte. -/
theorem resync_partial (held : Partial buffer) (byte : UInt8) :
    resync (buffer ++ [byte]) <+: wireMagic ∧
      (resync (buffer ++ [byte])).length ≤ buffer.length + 1 := by
  obtain ⟨suffix, begins⟩ := resync_spec (buffer ++ [byte])
  have most := suffix.length_le
  rw [List.length_append, List.length_singleton] at most
  refine ⟨?_, most⟩
  rw [List.take_of_length_le (most.trans held.2)] at begins
  rw [begins]
  exact List.take_prefix _ _

theorem scanStep_of_short (short : (resync (buffer ++ [byte])).length < wireHeaderSize) :
    scanStep buffer byte = (resync (buffer ++ [byte]), []) := by
  unfold scanStep scanByte
  simp only [if_pos short]
  rfl

/-- Noise enters nothing, and leaves less than the magic. -/
theorem scan_noise {consumed noise : List UInt8} (log : List (List UInt8)) (held : Partial buffer)
    (seen : buffer <:+ consumed) (clean : ¬ wireMagic <:+: consumed ++ noise) :
    ∃ left, run (logged scanStep) (buffer, log) noise = (left, log) ∧ Partial left := by
  induction noise generalizing buffer consumed with
  | nil => exact ⟨buffer, rfl, held⟩
  | cons byte noise ih =>
      obtain ⟨begins, most⟩ := resync_partial held byte
      have suffix : resync (buffer ++ [byte]) <:+ consumed ++ [byte] :=
        (resync_spec _).1.trans ((List.suffix_append_inj_of_length_eq rfl).mpr ⟨seen, rfl⟩)
      have short : (resync (buffer ++ [byte])).length < 4 := by
        by_contra full
        have whole : resync (buffer ++ [byte]) = wireMagic :=
          begins.eq_of_length (Nat.le_antisymm begins.length_le (Nat.not_lt.mp full))
        apply clean
        rw [← List.singleton_append, ← List.append_assoc, ← whole]
        exact suffix.isInfix.trans (List.prefix_append _ _).isInfix
      have step := @scanStep_of_short buffer byte (by unfold wireHeaderSize; omega)
      rw [run_cons, logged, step, List.append_nil]
      refine ih ⟨begins, short⟩ suffix ?_
      rwa [List.append_assoc, List.singleton_append]

/-! ### Frames -/

/-- The first byte of the magic begins a frame, whatever part of the magic was there. -/
theorem resync_first (held : Partial buffer) : resync (buffer ++ [0x4a]) = [0x4a] := by
  obtain ⟨begins, short⟩ := held
  have same := List.prefix_iff_eq_take.mp begins
  generalize buffer.length = length at same short
  subst same
  interval_cases length <;> decide

/-- A part of a frame is unfinished. -/
theorem WellFormed.unfinished (formed : WellFormed frame) (begins : buffer <+: frame)
    (short : buffer.length < frame.length) : Unfinished buffer := by
  obtain ⟨rest, rfl⟩ := begins
  refine ⟨?_, fun long => ?_⟩
  · rw [← formed.magic, List.take_take, Nat.min_comm, ← List.take_take,
      List.take_append_of_le_length (Nat.le_refl _), List.take_length]
  · obtain ⟨version, length⟩ := header_append long rest
    have whole := formed.length
    rw [length] at whole
    refine ⟨version ▸ formed.version, length ▸ formed.payload, ?_⟩
    omega

/-- The last byte of a frame has it processed. -/
theorem scanStep_last (formed : WellFormed frame) (whole : buffer ++ [byte] = frame) :
    scanStep buffer byte = ([], [frame]) := by
  have length := formed.length
  have kept : resync (buffer ++ [byte]) = frame := by
    rw [whole]
    apply resync_of_begins
    rw [formed.magic, List.take_of_length_le]
    rw [length]
    exact Nat.le_add_right_of_le (Nat.le_add_right_of_le (by decide))
  have long : ¬ frame.length < wireHeaderSize := by omega
  have sound : ¬ (frame.getD 4 0 ≠ wireVersion ∨
      (get16 (frame.drop 14)).toNat > fragmentMax) := by
    rw [not_or]
    exact ⟨not_not.mpr formed.version, Nat.not_lt.mpr formed.payload⟩
  unfold scanStep scanByte
  simp only [kept, if_neg long, if_neg sound, if_pos length]
  rfl

/-- A byte that does not complete the frame is kept. -/
theorem scanStep_inside (formed : WellFormed frame) (begins : buffer ++ [byte] <+: frame)
    (short : buffer.length + 1 < frame.length) :
    scanStep buffer byte = (buffer ++ [byte], []) := by
  have unfinished := formed.unfinished begins (by simpa using short)
  have kept := resync_of_begins unfinished.begins
  unfold scanStep scanByte
  simp only [kept]
  split
  · exact rfl
  · rename_i long
    obtain ⟨version, small, less⟩ := unfinished.header (Nat.not_lt.mp long)
    have sound : ¬ ((buffer ++ [byte]).getD 4 0 ≠ wireVersion ∨
        (get16 ((buffer ++ [byte]).drop 14)).toNat > fragmentMax) := by
      rw [not_or]
      exact ⟨not_not.mpr version, Nat.not_lt.mpr small⟩
    rw [if_neg sound, if_neg (Nat.ne_of_lt less)]
    exact rfl

/-- The rest of a frame. -/
theorem scan_rest {rest : List UInt8} (log : List (List UInt8)) (formed : WellFormed frame)
    (whole : buffer ++ rest = frame) (left : rest ≠ []) :
    run (logged scanStep) (buffer, log) rest = ([], log ++ [frame]) := by
  induction rest generalizing buffer with
  | nil => exact absurd rfl left
  | cons byte rest ih =>
      rw [run_cons, logged]
      cases rest with
      | nil => rw [scanStep_last formed whole, run_nil]
      | cons next rest =>
          have joined : (buffer ++ [byte]) ++ next :: rest = frame := by
            rw [List.append_assoc]
            exact whole
          have length := congrArg List.length joined
          simp only [List.length_append, List.length_cons, List.length_nil] at length
          rw [scanStep_inside formed ⟨next :: rest, joined⟩ (by omega), List.append_nil]
          exact ih joined (List.cons_ne_nil _ _)

/-- A frame is processed whatever part of the magic comes before it. -/
theorem scan_frame (log : List (List UInt8)) (held : Partial buffer) (formed : WellFormed frame) :
    run (logged scanStep) (buffer, log) frame = ([], log ++ [frame]) := by
  have long : 4 ≤ frame.length := by
    rw [formed.length]
    exact Nat.le_add_right_of_le (Nat.le_add_right_of_le (by decide))
  obtain ⟨first, rest, rfl⟩ := List.exists_cons_of_length_pos (Nat.lt_of_lt_of_le (by decide) long)
  have magic := formed.magic
  obtain rfl : first = 0x4a := by
    have head := congrArg (List.getD · 0 0) magic
    simpa [wireMagic] using head
  have step := @scanStep_of_short buffer 0x4a (by rw [resync_first held]; decide)
  rw [run_cons, logged, step, resync_first held, List.append_nil]
  refine scan_rest log formed rfl ?_
  rintro rfl
  exact absurd long (by decide)

/-- Noise, and the frame behind it. -/
structure Piece where
  noise : List UInt8
  frame : List UInt8

def Piece.bytes (piece : Piece) : List UInt8 :=
  piece.noise ++ piece.frame

/-- Noise without the magic, and a frame with any CRC. -/
structure Piece.Sound (piece : Piece) : Prop where
  clean : ¬ wireMagic <:+: piece.noise
  formed : WellFormed piece.frame

/-- The scanner finds the frames among the noise. -/
theorem scan_pieces {pieces : List Piece} (sound : ∀ piece ∈ pieces, piece.Sound)
    (log : List (List UInt8)) :
    run (logged scanStep) ([], log) (pieces.flatMap Piece.bytes) =
      ([], log ++ pieces.map Piece.frame) := by
  induction pieces generalizing log with
  | nil => simp
  | cons piece pieces ih =>
      obtain ⟨clean, formed⟩ := sound piece (List.mem_cons_self ..)
      obtain ⟨left, noise, held⟩ := scan_noise log .nil (List.suffix_refl []) clean
      rw [List.flatMap_cons, run_append, Piece.bytes, run_append, noise, scan_frame log held formed,
        ih (fun piece member => sound piece (List.mem_cons_of_mem _ member))]
      simp

end Scanner

/-! ## The firmware -/

/-- One call of `feed`. -/
structure Chunk where
  data : List UInt8
  currentUs : Time

section Code

variable {κ : Type*} (coreRequest : UInt8 → List UInt8 → κ → List UInt8 × κ)

/-- `feed`, before its loop. -/
def arrive (fw : Firmware κ) (currentUs : Time) : Firmware κ :=
  let fw := if currentUs - fw.wire.lastInputUs > wireTimeoutUs then
      { fw with wire := { fw.wire with frame := [], assemblingRequest := false } }
    else fw
  { fw with wire := { fw.wire with lastInputUs := currentUs } }

/-- One turn of the loop, with the frame that `process_frame` is entered with, if it is. -/
def byteStep (fw : Firmware κ) (byte : UInt8) : Firmware κ × List (List UInt8) :=
  (feedByte coreRequest fw byte, (scanByte fw.wire.frame byte).entered)

/-- One call of `feed`, with the frames that `process_frame` is entered with. -/
def feedStep (fw : Firmware κ) (chunk : Chunk) : Firmware κ × List (List UInt8) :=
  run (logged (byteStep coreRequest)) (arrive fw chunk.currentUs, []) chunk.data

/-- The CRC of the frame is right. -/
def crcRight (frame : List UInt8) : Bool :=
  get32 (frame.drop (wireHeaderSize + (get16 (frame.drop 14)).toNat)) =
    crc32 ((frame.drop 4).take (12 + (get16 (frame.drop 14)).toNat))

/-- The firmware without the bytes it holds, the time of its last input, and the history of what it
refused. -/
def Firmware.settled (fw : Firmware κ) : Firmware κ :=
  { fw with refused := [], wire := { fw.wire with frame := [], lastInputUs := 0 } }

/-- `process_frame`, on a frame that it is entered with. -/
def act (fw : Firmware κ) (frame : List UInt8) : Firmware κ :=
  (processFrame coreRequest (fw.hold frame)).settled

variable {coreRequest} {fw : Firmware κ}

/-- The loop calls `process_frame` where the scanner says so. -/
theorem feedByte_eq (fw : Firmware κ) (byte : UInt8) :
    feedByte coreRequest fw byte =
      match scanByte fw.wire.frame byte with
      | .wait frame => fw.hold frame
      | .reject frame => (refuse (fw.hold frame)).hold []
      | .complete frame => (processFrame coreRequest (fw.hold frame)).hold [] := by
  unfold feedByte scanByte
  dsimp only
  split_ifs <;> rfl

/-- The firmware with another history and another time of its last input. -/
def Firmware.retold (fw : Firmware κ) (refused : List (List UInt8)) (time : Time) : Firmware κ :=
  { fw with refused, wire := { fw.wire with lastInputUs := time } }

section Retold

variable (fw : Firmware κ) (refused : List (List UInt8)) (time : Time)

theorem sendResponseFragment_retold (offset : Nat) :
    (sendResponseFragment (fw.retold refused time) offset).settled =
      (sendResponseFragment fw offset).settled := by
  have response : (fw.retold refused time).wire.response = fw.wire.response := rfl
  simp only [sendResponseFragment, response]
  split_ifs <;> rfl

theorem takeFragment_retold (flags : UInt16) (sequence : UInt32) (operation : UInt8)
    (offset : Nat) (data : List UInt8) :
    (takeFragment coreRequest (fw.retold refused time) flags sequence operation offset
        data).settled =
      (takeFragment coreRequest fw flags sequence operation offset data).settled := by
  have request : (fw.retold refused time).wire.request = fw.wire.request := rfl
  have expected : (fw.retold refused time).wire.sequence = fw.wire.sequence := rfl
  have called : (fw.retold refused time).wire.operation = fw.wire.operation := rfl
  have assembling : (fw.retold refused time).wire.assemblingRequest =
    fw.wire.assemblingRequest := rfl
  unfold takeFragment
  simp only [request, expected, called, assembling]
  split_ifs <;> rfl

/-- `process_frame` looks at no history, and at no time. -/
theorem processFrame_retold :
    (processFrame coreRequest (fw.retold refused time)).settled =
      (processFrame coreRequest fw).settled := by
  have frame : (fw.retold refused time).wire.frame = fw.wire.frame := rfl
  have sequence : (fw.retold refused time).wire.sequence = fw.wire.sequence := rfl
  have operation : (fw.retold refused time).wire.operation = fw.wire.operation := rfl
  have ready : (fw.retold refused time).wire.responseReady = fw.wire.responseReady := rfl
  unfold processFrame
  simp only [frame, sequence, operation, ready]
  split_ifs
  · rfl
  · exact sendResponseFragment_retold fw refused time _
  · rfl
  · rfl
  · exact takeFragment_retold (beginRequest fw _ _) refused time ..
  · exact takeFragment_retold fw refused time ..

end Retold

/-- `process_frame` looks at no bytes but the frame's. -/
theorem act_settled (fw : Firmware κ) (frame : List UInt8) :
    act coreRequest fw.settled frame = act coreRequest fw frame :=
  processFrame_retold (fw.hold frame) [] 0

/-- A frame whose CRC is wrong does nothing. -/
theorem act_of_wrong (frame : List UInt8) (wrong : crcRight frame = false) :
    act coreRequest fw frame = fw.settled := by
  have differs := of_decide_eq_false wrong
  have held : (fw.hold frame).wire.frame = frame := rfl
  unfold act processFrame
  simp only [held]
  rw [if_pos differs]
  rfl

/-- One turn of the loop moves the buffer as the scanner does, and acts on what it enters. -/
theorem feedByte_scans (fw : Firmware κ) (byte : UInt8) :
    (feedByte coreRequest fw byte).wire.frame = (scanByte fw.wire.frame byte).left ∧
      (feedByte coreRequest fw byte).settled =
        (scanByte fw.wire.frame byte).entered.foldl (act coreRequest) fw.settled := by
  rw [feedByte_eq]
  cases scanByte fw.wire.frame byte with
  | wait frame => exact ⟨rfl, rfl⟩
  | reject frame => exact ⟨rfl, rfl⟩
  | complete frame => exact ⟨rfl, (act_settled fw frame).symm⟩

/-- The loop enters what the scanner completes. -/
theorem bytes_scan (fw : Firmware κ) (log : List (List UInt8)) (data : List UInt8) :
    ((run (logged (byteStep coreRequest)) (fw, log) data).1.wire.frame,
        (run (logged (byteStep coreRequest)) (fw, log) data).2) =
      run (logged scanStep) (fw.wire.frame, log) data := by
  induction data generalizing fw log with
  | nil => rfl
  | cons byte data ih =>
      have step : logged scanStep (fw.wire.frame, log) byte =
          ((feedByte coreRequest fw byte).wire.frame,
            log ++ (scanByte fw.wire.frame byte).entered) :=
        Prod.ext (feedByte_scans fw byte).1.symm rfl
      rw [run_cons, run_cons, step]
      exact ih _ _

/-- What it has entered since some state says what has become of it. -/
def ActsOn (coreRequest : UInt8 → List UInt8 → κ → List UInt8 × κ) (start : Firmware κ)
    (s : Firmware κ × List (List UInt8)) : Prop :=
  s.1.settled = s.2.foldl (act coreRequest) start.settled

theorem ActsOn.bytes {start : Firmware κ} {s : Firmware κ × List (List UInt8)}
    (acts : ActsOn coreRequest start s) (data : List UInt8) :
    ActsOn coreRequest start (run (logged (byteStep coreRequest)) s data) := by
  refine run_invariant (ActsOn coreRequest start) (fun s byte acts => ?_) acts data
  unfold ActsOn at acts ⊢
  rw [logged, byteStep, List.foldl_append, ← acts]
  exact (feedByte_scans s.1 byte).2

/-- Frames with a wrong CRC leave no trace among the others. -/
theorem foldl_act_filter (frames : List (List UInt8)) (settled : fw.settled = fw) :
    frames.foldl (act coreRequest) fw = (frames.filter crcRight).foldl (act coreRequest) fw := by
  induction frames generalizing fw with
  | nil => rfl
  | cons frame frames ih =>
      cases right : crcRight frame with
      | false =>
          rw [List.filter_cons_of_neg (by simp [right]), List.foldl_cons, act_of_wrong frame right,
            settled]
          exact ih settled
      | true =>
          rw [List.filter_cons_of_pos right, List.foldl_cons, List.foldl_cons]
          exact ih rfl

/-! ## Every cut of the stream -/

/-- The chunks come at most two seconds after one another. -/
def Prompt (chunks : List Chunk) : Prop :=
  chunks.IsChain fun earlier later => later.currentUs - earlier.currentUs ≤ wireTimeoutUs

/-- In time, `feed` changes nothing before its loop but the time. -/
theorem arrive_of_prompt {currentUs : Time}
    (prompt : currentUs - fw.wire.lastInputUs ≤ wireTimeoutUs) :
    arrive fw currentUs = fw.stamp currentUs := by
  unfold arrive
  rw [if_neg (UInt32.not_lt.mpr prompt)]
  rfl

/-- On a buffer that is empty the pause does not matter to the scanner. -/
theorem arrive_frame (empty : fw.wire.frame = []) (currentUs : Time) :
    (arrive fw currentUs).wire.frame = [] := by
  unfold arrive
  dsimp only
  split
  · rfl
  · exact empty

theorem feedByte_lastInputUs (fw : Firmware κ) (byte : UInt8) :
    (feedByte coreRequest fw byte).wire.lastInputUs = fw.wire.lastInputUs := by
  have same : fw.stamp fw.wire.lastInputUs = fw := rfl
  have stamped := feedByte_stamp coreRequest fw byte fw.wire.lastInputUs
  rw [same] at stamped
  rw [stamped]
  rfl

theorem bytes_lastInputUs (s : Firmware κ × List (List UInt8)) (data : List UInt8) :
    (run (logged (byteStep coreRequest)) s data).1.wire.lastInputUs = s.1.wire.lastInputUs :=
  run_invariant (fun after : Firmware κ × List (List UInt8) =>
      after.1.wire.lastInputUs = s.1.wire.lastInputUs)
    (fun after byte same => (feedByte_lastInputUs after.1 byte).trans same) rfl data

/-- One call of `feed` goes over its bytes from where it arrives. -/
theorem logged_feedStep (s : Firmware κ × List (List UInt8)) (chunk : Chunk) :
    logged (feedStep coreRequest) s chunk =
      run (logged (byteStep coreRequest)) (arrive s.1 chunk.currentUs, s.2) chunk.data := by
  rw [run_logged]
  rfl

/-- Chunks that come in time are one piece. -/
theorem chunks_scan {start : Firmware κ} {chunks : List Chunk}
    {s : Firmware κ × List (List UInt8)} (last : Chunk)
    (stamped : s.1.wire.lastInputUs = last.currentUs) (prompt : Prompt (last :: chunks))
    (acts : ActsOn coreRequest start s) :
    ((run (logged (feedStep coreRequest)) s chunks).1.wire.frame,
        (run (logged (feedStep coreRequest)) s chunks).2) =
      run (logged scanStep) (s.1.wire.frame, s.2) (chunks.flatMap Chunk.data) ∧
    ActsOn coreRequest start (run (logged (feedStep coreRequest)) s chunks) := by
  induction chunks generalizing s last with
  | nil => exact ⟨rfl, acts⟩
  | cons chunk chunks ih =>
      obtain ⟨soon, prompt⟩ := List.isChain_cons_cons.mp prompt
      have arrived : arrive s.1 chunk.currentUs = s.1.stamp chunk.currentUs :=
        arrive_of_prompt (stamped ▸ soon)
      have followed : ActsOn coreRequest start (s.1.stamp chunk.currentUs, s.2) := acts
      rw [run_cons, logged_feedStep, arrived, List.flatMap_cons, run_append]
      obtain ⟨same, acts⟩ := ih chunk (bytes_lastInputUs _ _) prompt (followed.bytes chunk.data)
      refine ⟨same.trans ?_, acts⟩
      rw [bytes_scan]
      rfl

/-- Whatever the first chunk finds, its bytes and those of the others are one piece. -/
theorem stream_scan (empty : fw.wire.frame = []) (first : Chunk) {rest : List Chunk}
    (prompt : Prompt (first :: rest)) :
    ((run (logged (feedStep coreRequest)) (fw, []) (first :: rest)).1.wire.frame,
        (run (logged (feedStep coreRequest)) (fw, []) (first :: rest)).2) =
      run (logged scanStep) ([], []) ((first :: rest).flatMap Chunk.data) ∧
    ActsOn coreRequest (arrive fw first.currentUs)
      (run (logged (feedStep coreRequest)) (fw, []) (first :: rest)) := by
  have begun : ActsOn coreRequest (arrive fw first.currentUs) (arrive fw first.currentUs, []) := rfl
  rw [run_cons, logged_feedStep]
  obtain ⟨same, acts⟩ := chunks_scan first (bytes_lastInputUs _ _) prompt (begun.bytes first.data)
  refine ⟨same.trans ?_, acts⟩
  rw [bytes_scan, arrive_frame empty, List.flatMap_cons, run_append]

/-- Nothing but the loop moves the buffer, and it keeps less than a frame. -/
theorem chunks_unfinished {chunks : List Chunk} {s : Firmware κ × List (List UInt8)}
    (unfinished : Unfinished s.1.wire.frame) :
    Unfinished (run (logged (feedStep coreRequest)) s chunks).1.wire.frame := by
  refine run_invariant (fun s : Firmware κ × List (List UInt8) => Unfinished s.1.wire.frame)
    (fun s chunk unfinished => ?_) unfinished chunks
  rw [logged_feedStep]
  refine run_invariant (fun s : Firmware κ × List (List UInt8) => Unfinished s.1.wire.frame)
    (fun s byte unfinished => ?_) ?_ chunk.data
  · change Unfinished (feedByte coreRequest s.1 byte).wire.frame
    rw [(feedByte_scans s.1 byte).1]
    exact unfinished.scan byte
  · unfold arrive
    dsimp only
    split
    · exact .nil
    · exact unfinished

/-- Frames with noise between them, cut into chunks that come at most two seconds after one another:
`process_frame` is entered once for every frame, in order and with its bytes, and for nothing else;
what has become of the firmware is what the frames whose CRC is right have made of it; and there is
always room in the buffer for the next byte. -/
theorem frames_processed_once (fw : Firmware κ) (empty : fw.wire.frame = []) (pieces : List Piece)
    (noise : List UInt8) (chunks : List Chunk) (sound : ∀ piece ∈ pieces, piece.Sound)
    (clean : ¬ wireMagic <:+: noise)
    (cut : chunks.flatMap Chunk.data = pieces.flatMap Piece.bytes ++ noise)
    (prompt : Prompt chunks) :
    let after := run (logged (feedStep coreRequest)) (fw, []) chunks
    after.2 = pieces.map Piece.frame ∧
      after.1.settled = ((pieces.map Piece.frame).filter crcRight).foldl (act coreRequest)
        (chunks.head?.elim fw fun first => arrive fw first.currentUs).settled ∧
      ∀ first chunk bytes, first ++ [chunk] <+: chunks → bytes <+: chunk.data →
        (run (logged (feedStep coreRequest)) (fw, [])
          (first ++ [{ chunk with data := bytes }])).1.wire.frame.length < wireFrameMax := by
  have room (some_ : List Chunk) :
      (run (logged (feedStep coreRequest)) (fw, []) some_).1.wire.frame.length < wireFrameMax := by
    apply Unfinished.length_lt
    apply chunks_unfinished
    rw [empty]
    exact .nil
  refine and_assoc.mp ⟨?_, fun first chunk bytes _ _ => room _⟩
  obtain ⟨left, tail, _⟩ := scan_noise (pieces.map Piece.frame) .nil (List.suffix_refl []) clean
  have stream : run (logged scanStep) ([], []) (chunks.flatMap Chunk.data) =
      (left, pieces.map Piece.frame) := by
    rw [cut, run_append, scan_pieces sound]
    exact tail
  cases chunks with
  | nil =>
      have entered : [] = pieces.map Piece.frame := congrArg Prod.snd stream
      rw [← entered]
      exact ⟨rfl, rfl⟩
  | cons first rest =>
      obtain ⟨same, acts⟩ := @stream_scan _ coreRequest _ empty first _ prompt
      have entered := congrArg Prod.snd (same.trans stream)
      refine ⟨entered, acts.trans ?_⟩
      rw [entered]
      exact foldl_act_filter _ rfl

end Code

/-- A part of the magic, a frame with a wrong CRC, noise, and a frame with a right one, cut inside
the second magic: both are processed, and only the second is called. -/
theorem frames_processed_once_over_noise :
    let right := frameBytes 15 0 1 0 [7]
    let wrong := right.take 17 ++ [0, 0, 0, 0]
    let stream := [0x4a, 0x32] ++ wrong ++ [0x35, 0x4a] ++ right
    let echo := fun (_ : UInt8) (request : List UInt8) (count : Nat) => (request, count + 1)
    let after := run (logged (feedStep echo)) ({ core := 0 }, [])
      [{ data := stream.take 26, currentUs := 0 }, { data := stream.drop 26, currentUs := 5 }]
    after.2 = [wrong, right] ∧ after.1.settled.calls = [(15, [7])] := by
  intro right wrong stream echo after
  let pieces : List Piece :=
    [{ noise := [0x4a, 0x32], frame := wrong }, { noise := [0x35, 0x4a], frame := right }]
  have sound : ∀ piece ∈ pieces, piece.Sound := by
    rw [← List.forall_iff_forall_mem]
    refine ⟨⟨by decide, ?_⟩, by decide, ?_⟩
    · exact ⟨by decide +kernel, by decide +kernel, by decide +kernel, by decide +kernel⟩
    · exact ⟨by decide +kernel, by decide +kernel, by decide +kernel, by decide +kernel⟩
  have prompt : Prompt
      [{ data := stream.take 26, currentUs := 0 }, { data := stream.drop 26, currentUs := 5 }] :=
    List.isChain_cons_cons.mpr ⟨by decide, .singleton _⟩
  obtain ⟨entered, acts, _⟩ := @frames_processed_once _ echo { core := 0 } rfl pieces [] _ sound
    (by decide) (by decide +kernel) prompt
  refine ⟨entered, ?_⟩
  rw [acts]
  decide +kernel

end OpenDiag.Wire
