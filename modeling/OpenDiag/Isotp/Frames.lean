import OpenDiag.Isotp.Receive
import OpenDiag.Isotp.Send
import Mathlib.Tactic.IntervalCases

/-!
# What each side reads in the other's frames

Two endpoints are mirrored when each one's transmit identifier and address are the other's receive
identifier and address. A mirrored receiver accepts every frame of the sender and reads back the
frame type, the length or sequence number, and the payload bytes that the sender put there; the
sender reads back the flow status, block size and separation of the receiver's flow control.
-/

namespace OpenDiag.Isotp

/-- The two configurations are each other's view of one connection. -/
structure Mirrored (sender receiver : Config) : Prop where
  txId : sender.txId = receiver.rxId
  rxId : sender.rxId = receiver.txId
  extendedAddress : sender.extendedAddress = receiver.extendedAddress
  txAddress : sender.txAddress = receiver.rxAddress
  rxAddress : sender.rxAddress = receiver.txAddress

section Mirror

variable {sender receiver : Config}

/-- Two ends mirror each other. -/
theorem Mirrored.symm (mirrored : Mirrored sender receiver) : Mirrored receiver sender where
  txId := mirrored.rxId.symm
  rxId := mirrored.txId.symm
  extendedAddress := mirrored.extendedAddress.symm
  txAddress := mirrored.rxAddress.symm
  rxAddress := mirrored.txAddress.symm

/-- Both ends spend as many bytes on the address. -/
theorem Mirrored.addressLength (mirrored : Mirrored sender receiver) :
    sender.addressLength = receiver.addressLength := by
  simp [Config.addressLength, mirrored.extendedAddress]

/-- A configuration that is valid has a valid identifier. -/
theorem validId_of_validConfig {c : Config} (valid : validConfig c = true) :
    validId c.txId = true := by
  simp only [validConfig, Bool.and_eq_true] at valid
  exact valid.1.1.1.1.1

/-- A frame under the sender's identifier and address matches the mirrored configuration, whatever
its mask. -/
theorem matchesFrame_of_mirrored {f : CanFrame} (mirrored : Mirrored sender receiver)
    (valid : validConfig sender = true) (id : f.id = sender.txId) (long : f.dlc ≤ 8)
    (short : sender.addressLength < f.dlc)
    (address : sender.extendedAddress = true → f.data.read 0 = sender.txAddress) :
    matchesFrame receiver f = true := by
  have sound := validId_of_validConfig valid
  rw [mirrored.txId] at id sound
  rw [mirrored.addressLength] at short
  rw [mirrored.extendedAddress, mirrored.txAddress] at address
  cases extended : receiver.extendedAddress with
  | false => simp [matchesFrame, id, sound, long, short, extended]
  | true => simp [matchesFrame, id, sound, long, short, address extended]

end Mirror

/-! ## The start of a frame -/

section Control

variable {c : Config} {control : List UInt8}

/-- The control bytes leave the address in front of them in place. -/
theorem read_address (extended : c.extendedAddress = true)
    (fits : c.addressLength + control.length ≤ 8) :
    ((prepare c).data.store c.addressLength control).read 0 = c.txAddress := by
  have length : c.addressLength = 1 := by simp [Config.addressLength, extended]
  rw [length] at fits ⊢
  rw [Block.read_store_of_lt fits Nat.one_pos]
  simp only [prepare, extended, if_true]
  exact Block.read_store_self (by decide)

end Control

/-! ## The sender's frames -/

section Sender

variable {tx : Tx} {control : List UInt8} {size : Nat}

/-- The control bytes and the payload bytes fit one frame and the payload has them. -/
structure FrameFits (tx : Tx) (control : List UInt8) (size : Nat) : Prop where
  frame : tx.config.addressLength + control.length + size ≤ 8
  payload : tx.offset + size ≤ tx.buffer.length

theorem FrameFits.length (fits : FrameFits tx control size) :
    (slice tx.buffer tx.offset size).length = size :=
  length_slice fits.payload

/-- A frame that fits is a CAN frame. -/
theorem nextFrame_dlc_le (fits : FrameFits tx control size) :
    (nextFrame tx control size).dlc ≤ 8 := by
  have := fits.frame
  simp only [nextFrame]
  split <;> omega

/-- Its length covers the address, the control bytes and the data. -/
theorem le_nextFrame_dlc (fits : FrameFits tx control size) :
    tx.config.addressLength + control.length + size ≤ (nextFrame tx control size).dlc := by
  have := fits.frame
  simp only [nextFrame]
  split <;> omega

/-- Behind the control bytes stands the data. -/
theorem nextFrame_load (fits : FrameFits tx control size) :
    (nextFrame tx control size).data.load (tx.config.addressLength + control.length) size =
      slice tx.buffer tx.offset size := by
  have room : tx.config.addressLength + control.length +
      (slice tx.buffer tx.offset size).length ≤ 8 := by
    rw [fits.length]
    exact fits.frame
  have loaded : (nextFrame tx control size).data.load
      (tx.config.addressLength + control.length) (slice tx.buffer tx.offset size).length =
        slice tx.buffer tx.offset size := Block.load_store_self room
  rw [fits.length] at loaded
  exact loaded

/-- The payload behind the control bytes leaves what is in front of it in place. -/
theorem nextFrame_read {index : Nat} (fits : FrameFits tx control size)
    (before : index < tx.config.addressLength + control.length) :
    (nextFrame tx control size).data.read index =
      ((prepare tx.config).data.store tx.config.addressLength control).read index := by
  refine Block.read_store_of_lt ?_ before
  rw [fits.length]
  exact fits.frame

/-- Behind the address stand the control bytes. -/
theorem nextFrame_control {index : Nat} (fits : FrameFits tx control size)
    (inside : index < control.length) :
    (nextFrame tx control size).data.read (tx.config.addressLength + index) =
      control[index] := by
  rw [nextFrame_read fits (by omega)]
  exact Block.read_store_inside (Nat.le_trans (Nat.le_add_right _ _) fits.frame) inside

/-- A frame is accepted by the end that it is meant for. -/
theorem nextFrame_matches {receiver : Config} (mirrored : Mirrored tx.config receiver)
    (valid : validConfig tx.config = true) (fits : FrameFits tx control size)
    (controlled : control ≠ []) : matchesFrame receiver (nextFrame tx control size) = true := by
  have some_control : 0 < control.length := List.length_pos_iff.mpr controlled
  refine matchesFrame_of_mirrored mirrored valid rfl (nextFrame_dlc_le fits) ?_ ?_
  · have := le_nextFrame_dlc fits
    omega
  · intro extended
    rw [nextFrame_read fits (by omega)]
    exact read_address extended (Nat.le_trans (Nat.le_add_right _ _) fits.frame)

end Sender

/-! ## The frames of one payload -/

/-- The number of payload bytes in the frame at `offset` of `total`. -/
def sizeAt (c : Config) (total offset : Nat) : Nat :=
  if offset = 0 && total ≤ 7 - c.addressLength then total
  else if offset = 0 then 6 - c.addressLength
  else if total - offset > 7 - c.addressLength then 7 - c.addressLength
  else total - offset

/-- A sender that has sent `payload` up to `offset`. -/
def sentUpTo (c : Config) (payload : List UInt8) (offset : Nat) (sequence : UInt8) : Tx :=
  { config := c, buffer := payload, total := payload.length, offset, sequence }

/-- The frame that carries `payload` from `offset` on under `sequence`. -/
def frameAt (c : Config) (payload : List UInt8) (offset : Nat) (sequence : UInt8) : CanFrame :=
  let tx := sentUpTo c payload offset sequence
  nextFrame tx (nextControl tx).1 (nextControl tx).2

/-- How much a frame carries depends on how far the message is. -/
theorem nextControl_size (tx : Tx) :
    (nextControl tx).2 = sizeAt tx.config tx.total tx.offset := by
  unfold nextControl sizeAt
  dsimp only
  split
  · rfl
  · split <;> rfl

/-- Every frame has control bytes. -/
theorem nextControl_ne_nil (tx : Tx) : (nextControl tx).1 ≠ [] := by
  unfold nextControl
  dsimp only
  split
  · simp
  · split <;> simp

/-- Every frame carries at least one byte and never more than is left. -/
theorem sizeAt_bounds (c : Config) {total offset : Nat} (left : offset < total) :
    0 < sizeAt c total offset ∧ offset + sizeAt c total offset ≤ total := by
  have address := c.addressLength_le
  unfold sizeAt
  split
  case isTrue single =>
    simp only [Bool.and_eq_true, decide_eq_true_eq] at single
    omega
  case isFalse several =>
    simp only [Bool.and_eq_true, decide_eq_true_eq, not_and] at several
    split
    case isTrue start => exact ⟨by omega, by have := several start; omega⟩
    case isFalse => split <;> omega

/-- The sender's next frame is the one at its offset. -/
theorem txNext_of_due {tx : Tx} {nowUs : Time} (total : tx.total = tx.buffer.length)
    (punctual : (txCheckTimeout tx nowUs).1 = .ok)
    (due : tx.state = .ready ∨ tx.state = .cf ∧ expired nowUs tx.nextUs = true) :
    txNext tx nowUs = (.frame,
      { tx with
        pendingCf := tx.offset ≠ 0
        sequence := if tx.offset ≠ 0 then (tx.sequence + 1) &&& 0x0f else tx.sequence
        offset := tx.offset + sizeAt tx.config tx.total tx.offset
        state := .confirm
        deadlineUs := nowUs + tx.config.timeoutAUs },
      some (frameAt tx.config tx.buffer tx.offset tx.sequence)) := by
  have control : nextControl tx =
      nextControl (sentUpTo tx.config tx.buffer tx.offset tx.sequence) := by
    unfold nextControl sentUpTo
    dsimp only
    rw [total]
  have frame : nextFrame tx (nextControl tx).1 (nextControl tx).2 =
      frameAt tx.config tx.buffer tx.offset tx.sequence := by
    rw [control]
    rfl
  unfold txNext
  rw [txCheckTimeout_of_ok punctual]
  rcases due with ready | ⟨cf, late⟩
  · simp [ready, ← nextControl_size, frame]
  · simp [cf, late, ← nextControl_size, frame]

/-! ## What the receiver makes of them -/

section Frames

variable {sender receiver : Config} {payload : List UInt8} {offset : Nat}

/-- Every frame of a message fits, at every offset within the message. -/
theorem frameAt_fits (sequence : UInt8) (left : offset < payload.length) :
    FrameFits (sentUpTo sender payload offset sequence)
      (nextControl (sentUpTo sender payload offset sequence)).1
      (sizeAt sender payload.length offset) := by
  have address := sender.addressLength_le
  refine ⟨?_, (sizeAt_bounds sender left).2⟩
  unfold nextControl sizeAt sentUpTo
  dsimp only
  split
  case isTrue single =>
    simp only [Bool.and_eq_true, decide_eq_true_eq] at single
    simp only [List.length_singleton]
    omega
  · split
    · simp only [List.length_cons, List.length_nil]
      omega
    · simp only [List.length_singleton]
      split <;> omega

/-- Every frame of a message is accepted by the other end. -/
theorem frameAt_matches (sequence : UInt8) (mirrored : Mirrored sender receiver)
    (valid : validConfig sender = true) (left : offset < payload.length) :
    matchesFrame receiver (frameAt sender payload offset sequence) = true := by
  unfold frameAt
  dsimp only
  rw [nextControl_size]
  exact nextFrame_matches mirrored valid (frameAt_fits sequence left) (nextControl_ne_nil _)

/-- What the mirrored receiver finds in a frame behind the address: the control bytes, then the
payload bytes, all inside the frame's length. -/
structure Carries (a : Nat) (f : CanFrame) (control bytes : List UInt8) : Prop where
  controls : ∀ index (inside : index < control.length), f.data.read (a + index) = control[index]
  carried : f.data.load (a + control.length) bytes.length = bytes
  long : a + control.length + bytes.length ≤ f.dlc

/-- Every frame of a message carries its control bytes and its slice of the payload. -/
theorem frameAt_carries (sequence : UInt8) (mirrored : Mirrored sender receiver)
    (left : offset < payload.length) :
    Carries receiver.addressLength (frameAt sender payload offset sequence)
      (nextControl (sentUpTo sender payload offset sequence)).1
      (slice payload offset (sizeAt sender payload.length offset)) := by
  have fits : FrameFits (sentUpTo sender payload offset sequence) _ _ := frameAt_fits sequence left
  have length : (slice payload offset (sizeAt sender payload.length offset)).length =
      sizeAt sender payload.length offset := fits.length
  unfold frameAt
  dsimp only
  rw [nextControl_size, ← mirrored.addressLength]
  refine ⟨fun index inside => nextFrame_control fits inside, ?_, ?_⟩
  · rw [length]
    exact nextFrame_load fits
  · rw [length]
    exact le_nextFrame_dlc fits

/-- A payload that fits goes out as a single frame, with its length. -/
theorem nextControl_single (sequence : UInt8)
    (single : payload.length ≤ 7 - sender.addressLength) :
    (nextControl (sentUpTo sender payload 0 sequence)).1 = [UInt8.ofNat payload.length] := by
  simp [nextControl, sentUpTo, single]

/-- A longer one begins with a first frame, with its length in twelve bits. -/
theorem nextControl_first (sequence : UInt8)
    (several : 7 - sender.addressLength < payload.length) :
    (nextControl (sentUpTo sender payload 0 sequence)).1 =
      [(0x10 : UInt8) ||| UInt8.ofNat (payload.length >>> 8),
        UInt8.ofNat (payload.length &&& 0xff)] := by
  unfold nextControl sentUpTo
  dsimp only
  rw [if_neg, if_pos rfl]
  simp only [Bool.and_eq_true, decide_eq_true_eq, not_and]
  omega

/-- It goes on with consecutive frames, with their number. -/
theorem nextControl_consecutive (sequence : UInt8) (started : offset ≠ 0) :
    (nextControl (sentUpTo sender payload offset sequence)).1 = [0x20 ||| sequence] := by
  simp [nextControl, sentUpTo, started]

/-- A single frame carries all. -/
theorem sizeAt_single {total : Nat} (single : total ≤ 7 - sender.addressLength) :
    sizeAt sender total 0 = total := by
  simp [sizeAt, single]

/-- A first frame carries what two control bytes leave of it. -/
theorem sizeAt_first {total : Nat} (several : 7 - sender.addressLength < total) :
    sizeAt sender total 0 = 6 - sender.addressLength := by
  unfold sizeAt
  rw [if_neg, if_pos rfl]
  simp only [Bool.and_eq_true, decide_eq_true_eq, not_and]
  omega

/-- A consecutive frame carries what one control byte leaves of it, or the rest. -/
theorem sizeAt_consecutive (c : Config) (total : Nat) (started : offset ≠ 0) :
    sizeAt c total offset =
      if total - offset > 7 - c.addressLength then 7 - c.addressLength
      else total - offset := by
  simp [sizeAt, started]

/-- A first frame is always full. -/
theorem frameAt_dlc_first (sequence : UInt8)
    (several : 7 - sender.addressLength < payload.length) :
    (frameAt sender payload 0 sequence).dlc = 8 := by
  have address := sender.addressLength_le
  have control := nextControl_first sequence several
  unfold frameAt
  dsimp only
  rw [nextControl_size, control]
  simp only [nextFrame, sentUpTo, sizeAt_first several, List.length_cons, List.length_nil]
  split <;> omega

end Frames

section Single

variable {payload : List UInt8}

/-- The receiver reads the length of a single frame back. -/
theorem singleFrame_control {size : Nat} (small : size ≤ 7) :
    UInt8.ofNat size >>> 4 = 0 ∧ (UInt8.ofNat size &&& 0x0f).toNat = size := by
  interval_cases size <;> decide

/-- A single frame that fits completes the reception with its payload. -/
theorem rxFeed_single {rx : Rx} {f : CanFrame} {nowUs : Time}
    (matching : matchesFrame rx.config f = true)
    (carries : Carries rx.config.addressLength f [UInt8.ofNat payload.length] payload)
    (some_payload : 0 < payload.length) (single : payload.length ≤ 7)
    (fits : payload.length ≤ rx.capacity) (punctual : (rxCheckTimeout rx nowUs).1 = .ok) :
    (rxFeed rx f nowUs).1 = .complete ∧ (rxFeed rx f nowUs).2.1 =
      { rx with
        state := .idle
        offset := payload.length
        total := payload.length
        paddingError := f.dlc < 8
        buffer := rx.buffer.map (overwrite · 0 payload) } := by
  obtain ⟨kind, size⟩ := singleFrame_control single
  have control : f.data.read rx.config.addressLength = UInt8.ofNat payload.length :=
    carries.controls 0 Nat.one_pos
  have loaded : f.data.load (rx.config.addressLength + 1) payload.length = payload :=
    carries.carried
  have long : rx.config.addressLength + 1 + payload.length ≤ f.dlc := carries.long
  have frame_type : frameType rx.config f = 0 := by rw [frameType, control, kind]
  have frame_size : singleFrameSize rx.config f = payload.length := by
    rw [singleFrameSize, control, size]
  have started : rxFeed rx f nowUs = rxStart rx f nowUs false payload.length := by
    unfold rxFeed
    rw [rxCheckTimeout_of_ok punctual]
    simp only [matching, frame_type, frame_size]
    rw [if_neg (by decide), if_neg (by decide), if_pos trivial, if_neg]
    simp only [Bool.or_eq_true, decide_eq_true_eq, not_or]
    omega
  rw [started]
  unfold rxStart
  dsimp only
  rw [if_neg (by omega), if_pos (by decide), loaded]
  simp [segmentCopy]

end Single

section First

variable {payload : List UInt8}

/-- It reads the length of a first frame back. -/
theorem firstFrame_control {size : Nat} (small : size ≤ isotpMaxPayload) :
    ((0x10 : UInt8) ||| UInt8.ofNat (size >>> 8)) >>> 4 = 1 ∧
      (((0x10 : UInt8) ||| UInt8.ofNat (size >>> 8)) &&& 0x0f).toNat * 256 +
        (UInt8.ofNat (size &&& 0xff)).toNat = size := by
  have high : size >>> 8 < 16 := by
    rw [Nat.shiftRight_eq_div_pow]
    unfold isotpMaxPayload at small
    omega
  have low : (UInt8.ofNat (size &&& 0xff)).toNat = size % 256 := by
    rw [show (0xff : Nat) = 2 ^ 8 - 1 from rfl, Nat.and_two_pow_sub_one_eq_mod]
    simp
  have nibble : ∀ count < 16, ((0x10 : UInt8) ||| UInt8.ofNat count) >>> 4 = 1 ∧
      (((0x10 : UInt8) ||| UInt8.ofNat count) &&& 0x0f).toNat = count := by decide
  obtain ⟨kind, length⟩ := nibble _ high
  refine ⟨kind, ?_⟩
  rw [length, low, Nat.shiftRight_eq_div_pow]
  omega

/-- A first frame that fits starts a reception with the payload's first bytes and asks for a
flow control. -/
theorem rxFeed_first {rx : Rx} {f : CanFrame} {nowUs : Time} {total : Nat}
    (matching : matchesFrame rx.config f = true)
    (carries : Carries rx.config.addressLength f
      [(0x10 : UInt8) ||| UInt8.ofNat (total >>> 8), UInt8.ofNat (total &&& 0xff)] payload)
    (long : payload.length = 6 - rx.config.addressLength) (full : f.dlc = 8)
    (physical : rx.config.functional = false) (several : 7 - rx.config.addressLength < total)
    (small : total ≤ isotpMaxPayload) (fits : total ≤ rx.capacity)
    (punctual : (rxCheckTimeout rx nowUs).1 = .ok) :
    (rxFeed rx f nowUs).1 = .frame ∧ (rxFeed rx f nowUs).2.1 =
      { rx with
        state := .fcReady
        deadlineUs := nowUs + rx.config.timeoutAUs
        offset := payload.length
        total
        sequence := 1
        blockCount := 0
        flowStatus := 0
        paddingError := false
        buffer := rx.buffer.map (overwrite · 0 payload) } := by
  obtain ⟨kind, size⟩ := firstFrame_control small
  have first := carries.controls 0 (by simp)
  have second := carries.controls 1 (by simp)
  have loaded : f.data.load (rx.config.addressLength + 2) payload.length = payload :=
    carries.carried
  rw [long] at loaded
  simp only [Nat.add_zero, List.getElem_cons_zero, List.getElem_cons_succ] at first second
  have frame_type : frameType rx.config f = 1 := by rw [frameType, first, kind]
  have frame_size : firstFrameSize rx.config f = total := by
    rw [firstFrameSize, first, second, size]
  have started : rxFeed rx f nowUs = rxStart rx f nowUs true total := by
    unfold rxFeed
    rw [rxCheckTimeout_of_ok punctual]
    simp only [matching, frame_type, frame_size]
    rw [if_neg (by decide), if_neg (by decide), if_neg (by decide), if_pos trivial, if_neg]
    simp only [physical, Bool.or_eq_true, decide_eq_true_eq, not_or]
    exact ⟨⟨Bool.false_ne_true, fun short => short full⟩, by omega⟩
  rw [started]
  unfold rxStart
  dsimp only
  rw [if_neg (by omega), if_neg (by decide), loaded]
  simp [segmentCopy, full]

end First

section Consecutive

variable {payload : List UInt8}

/-- It reads the number of a consecutive frame back. -/
theorem consecutiveFrame_control {sequence : UInt8} (nibble : sequence &&& 0x0f = sequence) :
    ((0x20 : UInt8) ||| sequence) >>> 4 = 2 ∧ ((0x20 : UInt8) ||| sequence) &&& 0x0f = sequence := by
  have all : ∀ bits : BitVec 8, bits &&& 0x0f#8 = bits →
      (0x20#8 ||| bits) >>> 4 = 2#8 ∧ (0x20#8 ||| bits) &&& 0x0f#8 = bits := by decide
  obtain ⟨kind, low⟩ := all sequence.toBitVec (congrArg UInt8.toBitVec nibble)
  exact ⟨UInt8.toBitVec_inj.mp kind, UInt8.toBitVec_inj.mp low⟩

/-- An expected consecutive frame is taken in; what follows depends on whether the message or the
block is now complete. -/
theorem rxFeed_consecutive {rx : Rx} {f : CanFrame} {nowUs : Time}
    (matching : matchesFrame rx.config f = true)
    (carries : Carries rx.config.addressLength f [0x20 ||| rx.sequence] payload)
    (nibble : rx.sequence &&& 0x0f = rx.sequence) (awaiting : rx.state = .cf)
    (long : payload.length = if rx.total - rx.offset > 7 - rx.config.addressLength then
      7 - rx.config.addressLength else rx.total - rx.offset)
    (punctual : (rxCheckTimeout rx nowUs).1 = .ok) :
    ∃ paddingError,
      let next : Rx := { rx with
        offset := rx.offset + payload.length
        sequence := (rx.sequence + 1) &&& 0x0f
        paddingError
        buffer := rx.buffer.map (overwrite · rx.offset payload) }
      let out := ((rxFeed rx f nowUs).1, (rxFeed rx f nowUs).2.1)
      if rx.offset + payload.length = rx.total then
        out = (.complete, { next with state := .idle })
      else if rx.config.blockSize = 0 then
        out = (.frame, { next with deadlineUs := nowUs + rx.config.timeoutCrUs })
      else if rx.blockCount + 1 = rx.config.blockSize then
        out = (.frame, { next with
          blockCount := 0
          state := .fcReady
          deadlineUs := nowUs + rx.config.timeoutAUs })
      else
        out = (.frame, { next with
          blockCount := rx.blockCount + 1
          deadlineUs := nowUs + rx.config.timeoutCrUs }) := by
  obtain ⟨kind, low⟩ := consecutiveFrame_control nibble
  have control := carries.controls 0 Nat.one_pos
  simp only [Nat.add_zero, List.getElem_cons_zero] at control
  have loaded : f.data.load (rx.config.addressLength + 1) payload.length = payload :=
    carries.carried
  have inside : rx.config.addressLength + 1 + payload.length ≤ f.dlc := carries.long
  have frame_type : frameType rx.config f = 2 := by rw [frameType, control, kind]
  have continued : rxFeed rx f nowUs = rxContinue rx f nowUs := by
    unfold rxFeed
    rw [rxCheckTimeout_of_ok punctual]
    simp only [matching, frame_type, awaiting]
    rw [if_neg (by decide), if_neg (by decide), if_neg (by decide), if_neg (by decide),
      if_neg (by decide)]
  have sized : (if rx.total - rx.offset < 7 - rx.config.addressLength then rx.total - rx.offset
      else 7 - rx.config.addressLength) = payload.length := by
    rw [long]
    split <;> split <;> omega
  refine ⟨rx.paddingError || f.dlc < 8, ?_⟩
  rw [continued]
  have enough : ¬ f.dlc < rx.config.addressLength + 1 + payload.length := by omega
  simp only [rxContinue, sized, if_neg enough, control, low, loaded, ne_eq, not_true_eq_false,
    if_false]
  by_cases complete : rx.offset + payload.length = rx.total
  · rw [if_pos complete]
    simp [segmentCopy, complete]
  rw [if_neg complete]
  · by_cases unlimited : rx.config.blockSize = 0
    · rw [if_pos unlimited]
      simp [segmentCopy, complete, unlimited]
    rw [if_neg unlimited]
    · by_cases boundary : rx.blockCount + 1 = rx.config.blockSize
      · simp [segmentCopy, complete, unlimited, boundary]
      · simp [segmentCopy, complete, unlimited, boundary]

end Consecutive

/-! ## What the sender makes of a flow control -/

section FlowControl

variable {sender : Config}

/-- A flow control carries its status, block size and minimum separation. -/
theorem flowControlFrame_control (rx : Rx) (index : Nat) (inside : index < 3) :
    (flowControlFrame rx).data.read (rx.config.addressLength + index) =
      [(0x30 : UInt8) ||| rx.flowStatus, rx.config.blockSize, rx.config.stmin][index] := by
  have address := rx.config.addressLength_le
  refine Block.read_store_inside ?_ inside
  simp only [List.length_cons, List.length_nil]
  omega

/-- A flow control is a CAN frame that covers its control bytes. -/
theorem flowControlFrame_dlc (rx : Rx) : rx.config.addressLength + 3 ≤ (flowControlFrame rx).dlc ∧
    (flowControlFrame rx).dlc ≤ 8 := by
  have address := rx.config.addressLength_le
  simp only [flowControlFrame]
  split <;> omega

/-- A flow control is accepted by the sender. -/
theorem flowControlFrame_matches {rx : Rx} (mirrored : Mirrored sender rx.config)
    (valid : validConfig rx.config = true) :
    matchesFrame sender (flowControlFrame rx) = true := by
  have address := rx.config.addressLength_le
  have length := flowControlFrame_dlc rx
  refine matchesFrame_of_mirrored mirrored.symm valid rfl length.2 (by omega) fun extended => ?_
  refine read_address extended ?_
  simp only [List.length_cons, List.length_nil]
  omega

/-- A sender that awaits a flow control takes a granting one as a continue-to-send. -/
theorem txFlowControl_of_granted {tx : Tx} {rx : Rx} {nowUs : Time}
    (mirrored : Mirrored tx.config rx.config)
    (valid : validConfig rx.config = true) (granted : rx.flowStatus = 0) (awaiting : tx.state = .fc)
    (punctual : (txCheckTimeout tx nowUs).1 = .ok) :
    (txFlowControl tx (flowControlFrame rx) nowUs).1 = .frame ∧
      ∃ paddingError, (txFlowControl tx (flowControlFrame rx) nowUs).2 =
        continueToSend { tx with paddingError } (flowControlFrame rx) nowUs := by
  have matching := flowControlFrame_matches mirrored valid
  have long := (flowControlFrame_dlc rx).1
  have status := flowControlFrame_control rx 0 (by decide)
  simp only [Nat.add_zero, granted, List.getElem_cons_zero] at status
  rw [← mirrored.addressLength] at long status
  have enough : ¬ (flowControlFrame rx).dlc < tx.config.addressLength + 3 := by omega
  unfold txFlowControl
  rw [txCheckTimeout_of_ok punctual]
  simp only [status, awaiting, matching, enough]
  rw [if_neg (by decide), if_neg (by decide), if_pos (by decide)]
  exact ⟨rfl, _, rfl⟩

end FlowControl

end OpenDiag.Isotp
