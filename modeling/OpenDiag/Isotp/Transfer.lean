import OpenDiag.Isotp.Frames
import OpenDiag.Isotp.ReceiveSafety

/-!
# A transfer between two endpoints

A sender and a receiver are driven losslessly: every frame that one of them offers is confirmed to
it and then given to the other, in order. A driver may delay any frame and interleave the two sides
as it likes, as long as it calls each side in time and asks the sender for a frame only when one is
due. `Lockstep` says where the two sides can be relative to one another: before the first frame is
taken in, while the receiver grants a block, while the sender has consecutive frames in flight, or
done. Every due call keeps them in lockstep and leaves less to do.
-/

namespace OpenDiag.Isotp

/-- The two endpoints, what each has offered but not seen confirmed, and what is on its way. -/
structure Pair where
  tx : Tx
  rx : Rx
  txOut : Option CanFrame := none
  toRx : List CanFrame := []
  rxOut : Option CanFrame := none
  toTx : List CanFrame := []
  /-- The last result of `isotp_tx_confirm`. -/
  confirmed : Result := .ok
  /-- The last result of `isotp_rx_feed`. -/
  fed : Result := .ok

/-- What a driver can call next. -/
inductive Call where
  | next
  | txConfirm
  | feed
  | flowControl
  | rxConfirm
  | txFlowControl
  deriving DecidableEq

/-- No deadline of the sender has passed. -/
def Pair.TxPunctual (p : Pair) (nowUs : Time) : Prop :=
  (txCheckTimeout p.tx nowUs).1 = .ok

/-- No deadline of the receiver has passed. -/
def Pair.RxPunctual (p : Pair) (nowUs : Time) : Prop :=
  (rxCheckTimeout p.rx nowUs).1 = .ok

/-- The driver owes this call and makes it in time. -/
def Pair.Due (p : Pair) (call : Call × Time) : Prop :=
  match call.1 with
  | .next => p.TxPunctual call.2 ∧ p.txOut = none ∧
      (p.tx.state = .ready ∨ p.tx.state = .cf ∧ expired call.2 p.tx.nextUs = true)
  | .txConfirm => p.TxPunctual call.2 ∧ p.txOut ≠ none
  | .feed => p.RxPunctual call.2 ∧ p.toRx ≠ []
  | .flowControl => p.RxPunctual call.2 ∧ p.rxOut = none ∧ p.rx.state = .fcReady
  | .rxConfirm => p.RxPunctual call.2 ∧ p.rxOut ≠ none
  | .txFlowControl => p.TxPunctual call.2 ∧ p.toTx ≠ []

instance (p : Pair) (call : Call × Time) : Decidable (p.Due call) := by
  unfold Pair.Due Pair.TxPunctual Pair.RxPunctual
  split <;> infer_instance

/-- One call of the driver, and its result. -/
def Pair.call (p : Pair) (call : Call × Time) : Result × Pair :=
  match call.1 with
  | .next =>
    let (rc, tx, txOut) := txNext p.tx call.2
    (rc, { p with tx, txOut })
  | .txConfirm =>
    let (rc, tx) := txConfirm p.tx true call.2
    (rc, { p with tx, txOut := none, toRx := p.toRx ++ p.txOut.toList, confirmed := rc })
  | .feed =>
    match p.toRx with
    | [] => (.ok, p)
    | f :: toRx =>
      let (rc, rx, _) := rxFeed p.rx f call.2
      (rc, { p with rx, toRx, fed := rc })
  | .flowControl =>
    let (rc, rx, rxOut) := rxFlowControl p.rx call.2
    (rc, { p with rx, rxOut })
  | .rxConfirm =>
    let (rc, rx) := rxConfirm p.rx true call.2
    (rc, { p with rx, rxOut := none, toTx := p.toTx ++ p.rxOut.toList })
  | .txFlowControl =>
    match p.toTx with
    | [] => (.ok, p)
    | f :: toTx =>
      let (rc, tx) := txFlowControl p.tx f call.2
      (rc, { p with tx, toTx })

def Pair.step (p : Pair) (call : Call × Time) : Pair :=
  (p.call call).2

/-! ## Lockstep -/

/-- The frames on their way carry `payload` from one offset and sequence number to another. -/
inductive InFlight (c : Config) (payload : List UInt8) :
    List CanFrame → Nat → UInt8 → Nat → UInt8 → Prop
  | nil (offset : Nat) (sequence : UInt8) : InFlight c payload [] offset sequence offset sequence
  | cons {frames : List CanFrame} {offset last : Nat} {sequence end_ : UInt8}
      (left : offset < payload.length)
      (rest : InFlight c payload frames (offset + sizeAt c payload.length offset)
        ((sequence + 1) &&& 0x0f) last end_) :
      InFlight c payload (frameAt c payload offset sequence :: frames) offset sequence last end_

theorem InFlight.concat {c : Config} {payload : List UInt8} {frames : List CanFrame}
    {offset last : Nat} {sequence end_ : UInt8}
    (inFlight : InFlight c payload frames offset sequence last end_) (left : last < payload.length) :
    InFlight c payload (frames ++ [frameAt c payload last end_]) offset sequence
      (last + sizeAt c payload.length last) ((end_ + 1) &&& 0x0f) := by
  induction inFlight with
  | nil offset sequence => exact .cons left (.nil _ _)
  | cons before _ ih => exact .cons before (ih left)

theorem InFlight.le {c : Config} {payload : List UInt8} {frames : List CanFrame}
    {offset last : Nat} {sequence end_ : UInt8}
    (inFlight : InFlight c payload frames offset sequence last end_) : offset ≤ last := by
  induction inFlight with
  | nil => exact Nat.le_refl _
  | cons _ _ ih => omega

/-- No frame carries past the end of the payload. -/
theorem InFlight.offset_le {c : Config} {payload : List UInt8} {frames : List CanFrame}
    {offset last : Nat} {sequence end_ : UInt8}
    (inFlight : InFlight c payload frames offset sequence last end_)
    (inside : offset ≤ payload.length) : last ≤ payload.length := by
  induction inFlight with
  | nil => exact inside
  | cons left _ ih => exact ih (sizeAt_bounds c left).2

/-- No frame starts at the end of the payload. -/
theorem InFlight.nil_of_end {c : Config} {payload : List UInt8} {frames : List CanFrame}
    {last : Nat} {sequence end_ : UInt8}
    (inFlight : InFlight c payload frames payload.length sequence last end_) :
    frames = [] ∧ last = payload.length := by
  cases inFlight with
  | nil => exact ⟨rfl, rfl⟩
  | cons left => exact absurd left (Nat.lt_irrefl _)

theorem InFlight.position_of_nil {c : Config} {payload : List UInt8} {offset last : Nat}
    {sequence end_ : UInt8} (inFlight : InFlight c payload [] offset sequence last end_) :
    last = offset ∧ end_ = sequence := by
  cases inFlight
  exact ⟨rfl, rfl⟩

/-- What no call of the driver changes, and how far the receiver's buffer is filled. -/
structure Connected (payload memory : List UInt8) (p : Pair) : Prop where
  mirrored : Mirrored p.tx.config p.rx.config
  validSender : validConfig p.tx.config = true
  validReceiver : validConfig p.rx.config = true
  physical : p.rx.config.functional = false
  nonempty : 0 < payload.length
  small : payload.length ≤ isotpMaxPayload
  buffer : p.tx.buffer = payload
  total : p.tx.total = payload.length
  capacity : payload.length ≤ p.rx.capacity
  room : payload.length ≤ memory.length
  received : p.rx.buffer = some (payload.take p.rx.offset ++ memory.drop p.rx.offset)

/-- The first frame has not been offered. -/
structure Opening (p : Pair) : Prop where
  state : p.tx.state = .ready
  offset : p.tx.offset = 0
  sequence : p.tx.sequence = 1
  txOut : p.txOut = none
  toRx : p.toRx = []
  rxOut : p.rxOut = none
  toTx : p.toTx = []
  rxState : p.rx.state = .idle
  rxOffset : p.rx.offset = 0

/-- The first frame is offered or on its way. -/
structure Announced (payload : List UInt8) (p : Pair) : Prop where
  offset : p.tx.offset = sizeAt p.tx.config payload.length 0
  sequence : p.tx.sequence = 1
  rxOut : p.rxOut = none
  toTx : p.toTx = []
  rxState : p.rx.state = .idle
  rxOffset : p.rx.offset = 0
  frame : (p.txOut = some (frameAt p.tx.config payload 0 1) ∧ p.toRx = [] ∧
      p.tx.state = .confirm ∧ p.tx.pendingCf = false) ∨
    (p.txOut = none ∧ p.toRx = [frameAt p.tx.config payload 0 1] ∧
      if p.tx.offset = payload.length then p.tx.state = .idle ∧ p.confirmed = .complete
      else p.tx.state = .fc)

/-- The receiver has everything that was sent and grants the next block. -/
structure Granting (payload : List UInt8) (p : Pair) : Prop where
  state : p.tx.state = .fc
  started : 0 < p.rx.offset
  left : p.rx.offset < payload.length
  offset : p.tx.offset = p.rx.offset
  sequence : p.tx.sequence = p.rx.sequence
  nibble : p.rx.sequence &&& 0x0f = p.rx.sequence
  txOut : p.txOut = none
  toRx : p.toRx = []
  rxTotal : p.rx.total = payload.length
  blockCount : p.rx.blockCount = 0
  granted : p.rx.flowStatus = 0
  flowControl : (p.rx.state = .fcReady ∧ p.rxOut = none ∧ p.toTx = []) ∨
    (p.rx.state = .fcConfirm ∧ p.rxOut = some (flowControlFrame p.rx) ∧ p.toTx = []) ∨
    (p.rx.state = .cf ∧ p.rxOut = none ∧ p.toTx = [flowControlFrame p.rx])

/-- The sender has had `count` frames of the current block confirmed. -/
inductive Sent (payload : List UInt8) (p : Pair) (count : Nat) : Prop
  | due (state : p.tx.state = .cf) (txOut : p.txOut = none) (left : p.tx.offset < payload.length)
      (inBlock : p.rx.config.blockSize ≠ 0 →
        p.tx.blockCount.toNat = count ∧ count < p.rx.config.blockSize.toNat)
  | offered (f : CanFrame) (state : p.tx.state = .confirm) (txOut : p.txOut = some f)
      (pending : p.tx.pendingCf = true)
      (inBlock : p.rx.config.blockSize ≠ 0 →
        p.tx.blockCount.toNat = count ∧ count < p.rx.config.blockSize.toNat)
  | waiting (state : p.tx.state = .fc) (txOut : p.txOut = none)
      (left : p.tx.offset < payload.length) (limited : p.rx.config.blockSize ≠ 0)
      (boundary : count = p.rx.config.blockSize.toNat) (behind : p.toRx ≠ [])
  | finished (state : p.tx.state = .idle) (txOut : p.txOut = none)
      (whole : p.tx.offset = payload.length) (confirmed : p.confirmed = .complete)
      (inBlock : p.rx.config.blockSize ≠ 0 → count ≤ p.rx.config.blockSize.toNat)
      (behind : p.toRx ≠ [])

/-- The receiver awaits the consecutive frames that are on their way. -/
structure Sending (payload : List UInt8) (p : Pair) : Prop where
  rxState : p.rx.state = .cf
  started : 0 < p.rx.offset
  left : p.rx.offset < payload.length
  nibble : p.rx.sequence &&& 0x0f = p.rx.sequence
  rxTotal : p.rx.total = payload.length
  granted : p.rx.flowStatus = 0
  blockSize : p.tx.blockSize = p.rx.config.blockSize
  rxOut : p.rxOut = none
  toTx : p.toTx = []
  inFlight : InFlight p.tx.config payload (p.toRx ++ p.txOut.toList)
    p.rx.offset p.rx.sequence p.tx.offset p.tx.sequence
  sent : ∃ count, Sent payload p count ∧ (p.rx.config.blockSize ≠ 0 →
    p.rx.blockCount.toNat + p.toRx.length = count ∧
      p.rx.blockCount.toNat < p.rx.config.blockSize.toNat)

/-- Both sides have reported the message complete. -/
structure Done (payload : List UInt8) (p : Pair) : Prop where
  state : p.tx.state = .idle
  offset : p.tx.offset = payload.length
  txOut : p.txOut = none
  toRx : p.toRx = []
  rxOut : p.rxOut = none
  toTx : p.toTx = []
  rxState : p.rx.state = .idle
  rxOffset : p.rx.offset = payload.length
  confirmed : p.confirmed = .complete
  fed : p.fed = .complete

/-- Where the two sides can be relative to one another. -/
inductive Phase (payload : List UInt8) (p : Pair) : Prop
  | opening (opening : Opening p)
  | announced (announced : Announced payload p)
  | granting (granting : Granting payload p)
  | sending (sending : Sending payload p)
  | done (done : Done payload p)

structure Lockstep (payload memory : List UInt8) (p : Pair) : Prop where
  connected : Connected payload memory p
  phase : Phase payload p

/-- What is left to do: each frame costs its offering, its delivery and what the delivery may
cause. -/
def Pair.remaining (p : Pair) : Nat :=
  6 * (p.tx.total - p.tx.offset) + 5 * p.txOut.toList.length + 4 * p.toRx.length +
    (if p.rx.state = .fcReady then 3 else 0) + 2 * p.rxOut.toList.length + p.toTx.length

/-- A due call reports no error, keeps the lockstep, and leaves less to do. -/
structure Advances (payload memory : List UInt8) (p : Pair) (out : Result × Pair) : Prop where
  noError : out.1.isError = false
  lockstep : Lockstep payload memory out.2
  less : out.2.remaining < p.remaining

section Calls

variable {payload memory : List UInt8} {p : Pair} {nowUs : Time}

/-- A call of the sender leaves the connection and the received bytes alone. -/
theorem Connected.ofSender {q : Pair} (connected : Connected payload memory p) (rx : q.rx = p.rx)
    (config : q.tx.config = p.tx.config) (buffer : q.tx.buffer = p.tx.buffer)
    (total : q.tx.total = p.tx.total) : Connected payload memory q where
  mirrored := by rw [config, rx]; exact connected.mirrored
  validSender := by rw [config]; exact connected.validSender
  validReceiver := by rw [rx]; exact connected.validReceiver
  physical := by rw [rx]; exact connected.physical
  nonempty := connected.nonempty
  small := connected.small
  buffer := buffer.trans connected.buffer
  total := total.trans connected.total
  capacity := by rw [rx]; exact connected.capacity
  room := connected.room
  received := by rw [rx]; exact connected.received

/-- A call of the receiver leaves the connection alone. -/
theorem Connected.ofReceiver {q : Pair} (connected : Connected payload memory p) (tx : q.tx = p.tx)
    (config : q.rx.config = p.rx.config) (capacity : q.rx.capacity = p.rx.capacity)
    (received : q.rx.buffer = some (payload.take q.rx.offset ++ memory.drop q.rx.offset)) :
    Connected payload memory q where
  mirrored := by rw [config, tx]; exact connected.mirrored
  validSender := by rw [tx]; exact connected.validSender
  validReceiver := by rw [config]; exact connected.validReceiver
  physical := by rw [config]; exact connected.physical
  nonempty := connected.nonempty
  small := connected.small
  buffer := by rw [tx]; exact connected.buffer
  total := by rw [tx]; exact connected.total
  capacity := by rw [capacity]; exact connected.capacity
  room := connected.room
  received := received

/-! ## The sender's calls -/

theorem Lockstep.next (lockstep : Lockstep payload memory p) (due : p.Due (.next, nowUs)) :
    Advances payload memory p (p.call (.next, nowUs)) := by
  obtain ⟨connected, phase⟩ := lockstep
  obtain ⟨punctual, idle, ready⟩ := due
  have next := txNext_of_due (connected.total.trans (by rw [connected.buffer])) punctual ready
  simp only [Pair.call, next]
  cases phase with
  | opening opening =>
      have size := sizeAt_bounds p.tx.config connected.nonempty
      refine ⟨rfl, ⟨connected.ofSender rfl rfl rfl rfl, .announced ?_⟩, ?_⟩
      · exact
          { offset := by simp [opening.offset, connected.total]
            sequence := by simp [opening.offset, opening.sequence]
            rxOut := opening.rxOut
            toTx := opening.toTx
            rxState := opening.rxState
            rxOffset := opening.rxOffset
            frame := Or.inl ⟨by rw [opening.offset, opening.sequence, connected.buffer],
              opening.toRx, rfl, by simp [opening.offset]⟩ }
      · simp only [Pair.remaining, opening.offset, opening.txOut, connected.total,
          Option.toList_some, Option.toList_none, List.length_singleton, List.length_nil]
        omega
  | announced announced =>
      rcases announced.frame with ⟨out, _⟩ | ⟨_, _, state⟩
      · rw [out] at idle
        cases idle
      · split at state
        · rcases ready with ready | ⟨ready, _⟩ <;> rw [state.1] at ready <;> cases ready
        · rcases ready with ready | ⟨ready, _⟩ <;> rw [state] at ready <;> cases ready
  | granting granting =>
      rcases ready with ready | ⟨ready, _⟩ <;> rw [granting.state] at ready <;> cases ready
  | done done =>
      rcases ready with ready | ⟨ready, _⟩ <;> rw [done.state] at ready <;> cases ready
  | sending sending =>
      obtain ⟨count, sent, counted⟩ := sending.sent
      cases sent with
      | offered f state out => rw [out] at idle; cases idle
      | waiting state =>
          rcases ready with ready | ⟨ready, _⟩ <;> rw [state] at ready <;> cases ready
      | finished state =>
          rcases ready with ready | ⟨ready, _⟩ <;> rw [state] at ready <;> cases ready
      | due state out left inBlock =>
          have size := sizeAt_bounds p.tx.config left
          have behind := sending.inFlight.le
          have started := sending.started
          have later : p.tx.offset ≠ 0 := by omega
          have frames := sending.inFlight.concat left
          rw [out, Option.toList_none, List.append_nil] at frames
          refine ⟨rfl, ⟨connected.ofSender rfl rfl rfl rfl, .sending ?_⟩, ?_⟩
          · exact { sending with
              inFlight := by
                simp only [later, ne_eq, not_false_eq_true, if_true, connected.buffer,
                  connected.total, Option.toList_some]
                exact frames
              sent := ⟨count, .offered _ rfl rfl (by simp [later]) inBlock, counted⟩ }
          · simp only [Pair.remaining, out, connected.total,
              Option.toList_some, Option.toList_none, List.length_singleton, List.length_nil]
            omega

/-- A frame's confirmation completes the message, waits for a flow control at the end of a block,
or goes on with the block. -/
theorem txConfirm_of_success {tx : Tx} (confirming : tx.state = .confirm)
    (punctual : (txCheckTimeout tx nowUs).1 = .ok) :
    txConfirm tx true nowUs =
      if tx.offset = tx.total then (.complete, { tx with state := .idle })
      else if tx.pendingCf = false then
        (.ok, { tx with state := .fc, deadlineUs := nowUs + tx.config.timeoutBsUs })
      else if tx.blockSize ≠ 0 ∧ tx.blockCount + 1 = tx.blockSize then
        (.ok, { tx with
          sentCf := true
          lastCfUs := nowUs
          blockCount := tx.blockCount + 1
          state := .fc
          deadlineUs := nowUs + tx.config.timeoutBsUs })
      else
        (.ok, { tx with
          sentCf := true
          lastCfUs := nowUs
          blockCount := tx.blockCount + 1
          state := .cf
          nextUs := nowUs + tx.separationUs }) := by
  unfold txConfirm
  rw [if_neg (by simp [confirming]), txCheckTimeout_of_ok punctual]
  by_cases whole : tx.offset = tx.total
  · simp [whole]
  · cases pending : tx.pendingCf with
    | false => simp [whole, pending]
    | true => by_cases boundary : tx.blockSize ≠ 0 ∧ tx.blockCount + 1 = tx.blockSize <;>
        simp_all

/-- A count below a nonzero block size reaches it exactly when the byte counters agree. -/
theorem blockCount_succ {count size : UInt8} (below : count.toNat < size.toNat) :
    (count + 1).toNat = count.toNat + 1 := by
  have bound := size.toNat_lt
  rw [UInt8.toNat_add]
  exact Nat.mod_eq_of_lt (by simp only [UInt8.toNat_one]; omega)

theorem Lockstep.txConfirm (lockstep : Lockstep payload memory p)
    (due : p.Due (.txConfirm, nowUs)) :
    Advances payload memory p (p.call (.txConfirm, nowUs)) := by
  obtain ⟨connected, phase⟩ := lockstep
  obtain ⟨punctual, offered⟩ := due
  have confirm (state : p.tx.state = .confirm) := txConfirm_of_success state punctual
  cases phase with
  | opening opening => exact absurd opening.txOut offered
  | granting granting => exact absurd granting.txOut offered
  | done done => exact absurd done.txOut offered
  | announced announced =>
      rcases announced.frame with ⟨out, empty, state, pending⟩ | ⟨out, _⟩
      case inr => exact absurd out offered
      simp only [Pair.call, confirm state, pending, if_true]
      split
      case isTrue whole =>
        refine ⟨rfl, ⟨connected.ofSender rfl rfl rfl rfl, .announced { announced with
          frame := Or.inr ⟨rfl, by simp [empty, out], ?_⟩ }⟩, ?_⟩
        · rw [connected.total] at whole
          simp [whole]
        · simp only [Pair.remaining, out, empty, Option.toList_some, Option.toList_none,
            List.nil_append, List.length_singleton, List.length_nil]
          omega
      case isFalse more =>
        refine ⟨rfl, ⟨connected.ofSender rfl rfl rfl rfl, .announced { announced with
          frame := Or.inr ⟨rfl, by simp [empty, out], ?_⟩ }⟩, ?_⟩
        · rw [connected.total] at more
          simp [more]
        · simp only [Pair.remaining, out, empty, Option.toList_some, Option.toList_none,
            List.nil_append, List.length_singleton, List.length_nil]
          omega
  | sending sending =>
      obtain ⟨count, sent, counted⟩ := sending.sent
      cases sent with
      | due _ out => exact absurd out offered
      | waiting _ out => exact absurd out offered
      | finished _ out => exact absurd out offered
      | offered f state out pending inBlock =>
          have frames : InFlight p.tx.config payload ((p.toRx ++ [f]) ++ [])
              p.rx.offset p.rx.sequence p.tx.offset p.tx.sequence := by
            have := sending.inFlight
            rw [out, Option.toList_some] at this
            rw [List.append_nil]
            exact this
          have behind : p.toRx ++ [f] ≠ [] := by simp
          have grown (limited : p.rx.config.blockSize ≠ 0) :
              p.rx.blockCount.toNat + (p.toRx ++ [f]).length = count + 1 ∧
                p.rx.blockCount.toNat < p.rx.config.blockSize.toNat := by
            have := counted limited
            simp only [List.length_append, List.length_singleton]
            omega
          have less {q : Pair} (tx : q.tx.total = p.tx.total ∧ q.tx.offset = p.tx.offset)
              (rx : q.rx = p.rx) (txOut : q.txOut = none) (toRx : q.toRx = p.toRx ++ [f])
              (back : q.rxOut = p.rxOut ∧ q.toTx = p.toTx) : q.remaining < p.remaining := by
            simp only [Pair.remaining, tx.1, tx.2, rx, txOut, toRx, back.1, back.2, out,
              Option.toList_some, Option.toList_none, List.length_append, List.length_singleton,
              List.length_nil]
            omega
          simp only [Pair.call, confirm state, pending, Bool.true_eq_false, if_false, out,
            Option.toList_some]
          split
          case isTrue whole =>
            refine ⟨rfl, ⟨connected.ofSender rfl rfl rfl rfl, .sending { sending with
              inFlight := frames
              sent := ⟨count + 1, .finished rfl rfl (whole.trans connected.total) rfl
                (fun limited => (inBlock limited).2) behind, grown⟩ }⟩,
              less ⟨rfl, rfl⟩ rfl rfl rfl ⟨rfl, rfl⟩⟩
          case isFalse more =>
            have left : p.tx.offset < payload.length := by
              have := sending.inFlight.offset_le (Nat.le_of_lt sending.left)
              have := connected.total
              omega
            split
            case isTrue boundary =>
              rw [sending.blockSize] at boundary
              refine ⟨rfl, ⟨connected.ofSender rfl rfl rfl rfl, .sending { sending with
                inFlight := frames
                sent := ⟨count + 1, .waiting rfl rfl left boundary.1 ?_ behind, grown⟩ }⟩,
                less ⟨rfl, rfl⟩ rfl rfl rfl ⟨rfl, rfl⟩⟩
              obtain ⟨counts, below⟩ := inBlock boundary.1
              rw [← boundary.2, blockCount_succ (counts.symm ▸ below), counts]
            case isFalse inside =>
              rw [sending.blockSize] at inside
              refine ⟨rfl, ⟨connected.ofSender rfl rfl rfl rfl, .sending { sending with
                inFlight := frames
                sent := ⟨count + 1, .due rfl rfl left fun limited => ?_, grown⟩ }⟩,
                less ⟨rfl, rfl⟩ rfl rfl rfl ⟨rfl, rfl⟩⟩
              obtain ⟨counts, below⟩ := inBlock limited
              have next := blockCount_succ (counts.symm ▸ below)
              have apart : (p.tx.blockCount + 1).toNat ≠ p.rx.config.blockSize.toNat :=
                fun same => inside ⟨limited, UInt8.toNat_inj.mp same⟩
              rw [next, counts] at apart
              exact ⟨by rw [next, counts], Nat.lt_of_le_of_ne below apart⟩

theorem Lockstep.txFlowControl (lockstep : Lockstep payload memory p)
    (due : p.Due (.txFlowControl, nowUs)) :
    Advances payload memory p (p.call (.txFlowControl, nowUs)) := by
  obtain ⟨connected, phase⟩ := lockstep
  obtain ⟨punctual, delivered⟩ := due
  cases phase with
  | opening opening => exact absurd opening.toTx delivered
  | announced announced => exact absurd announced.toTx delivered
  | sending sending => exact absurd sending.toTx delivered
  | done done => exact absurd done.toTx delivered
  | granting granting =>
      rcases granting.flowControl with ⟨_, _, none⟩ | ⟨_, _, none⟩ | ⟨state, out, one⟩
      · exact absurd none delivered
      · exact absurd none delivered
      obtain ⟨result, paddingError, granted⟩ := txFlowControl_of_granted connected.mirrored
        connected.validReceiver granting.granted granting.state punctual
      have blockSize := flowControlFrame_control p.rx 1 (by decide)
      simp only [List.getElem_cons_succ, List.getElem_cons_zero] at blockSize
      rw [← connected.mirrored.addressLength] at blockSize
      simp only [Pair.call, one, result, granted]
      refine ⟨rfl, ⟨connected.ofSender rfl rfl rfl rfl, .sending
        { rxState := state
          started := granting.started
          left := granting.left
          nibble := granting.nibble
          rxTotal := granting.rxTotal
          granted := granting.granted
          blockSize := blockSize
          rxOut := out
          toTx := rfl
          inFlight := ?_
          sent := ⟨0, .due rfl granting.txOut ?_ fun limited => ⟨rfl, ?_⟩, fun limited => ?_⟩ }⟩, ?_⟩
      · simp only [granting.toRx, granting.txOut, Option.toList_none, List.append_nil,
          continueToSend, granting.offset, granting.sequence]
        exact .nil _ _
      · simp only [continueToSend, granting.offset]
        exact granting.left
      · exact Nat.pos_of_ne_zero fun zero => limited (UInt8.toNat_inj.mp zero)
      · rw [granting.blockCount, granting.toRx]
        exact ⟨rfl, Nat.pos_of_ne_zero fun zero => limited (UInt8.toNat_inj.mp zero)⟩
      · simp only [Pair.remaining, continueToSend, one, List.length_singleton, List.length_nil]
        omega

/-! ## The receiver's calls -/

theorem Lockstep.flowControl (lockstep : Lockstep payload memory p)
    (due : p.Due (.flowControl, nowUs)) :
    Advances payload memory p (p.call (.flowControl, nowUs)) := by
  obtain ⟨connected, phase⟩ := lockstep
  obtain ⟨punctual, idle, ready⟩ := due
  cases phase with
  | opening opening => rw [opening.rxState] at ready; cases ready
  | announced announced => rw [announced.rxState] at ready; cases ready
  | sending sending => rw [sending.rxState] at ready; cases ready
  | done done => rw [done.rxState] at ready; cases ready
  | granting granting =>
      rcases granting.flowControl with ⟨state, out, empty⟩ | ⟨state, _⟩ | ⟨state, _⟩
      case inr.inl => rw [state] at ready; cases ready
      case inr.inr => rw [state] at ready; cases ready
      have taken : rxFlowControl p.rx nowUs = (.frame,
          { p.rx with state := .fcConfirm, deadlineUs := nowUs + p.rx.config.timeoutAUs },
          some (flowControlFrame p.rx)) := by
        unfold rxFlowControl
        rw [rxCheckTimeout_of_ok punctual]
        simp [ready]
      simp only [Pair.call, taken]
      refine ⟨rfl, ⟨connected.ofReceiver rfl rfl rfl connected.received, .granting
        { granting with flowControl := Or.inr (Or.inl ⟨rfl, rfl, empty⟩) }⟩, ?_⟩
      simp only [Pair.remaining, ready, out, Option.toList_some, Option.toList_none,
        List.length_singleton, List.length_nil]
      rw [if_pos trivial, if_neg (by decide)]
      omega

theorem Lockstep.rxConfirm (lockstep : Lockstep payload memory p)
    (due : p.Due (.rxConfirm, nowUs)) :
    Advances payload memory p (p.call (.rxConfirm, nowUs)) := by
  obtain ⟨connected, phase⟩ := lockstep
  obtain ⟨punctual, offered⟩ := due
  cases phase with
  | opening opening => exact absurd opening.rxOut offered
  | announced announced => exact absurd announced.rxOut offered
  | sending sending => exact absurd sending.rxOut offered
  | done done => exact absurd done.rxOut offered
  | granting granting =>
      rcases granting.flowControl with ⟨_, out, _⟩ | ⟨state, out, empty⟩ | ⟨_, out, _⟩
      case inl => exact absurd out offered
      case inr.inr => exact absurd out offered
      have confirmed : OpenDiag.Isotp.rxConfirm p.rx true nowUs = (.ok,
          { p.rx with state := .cf, deadlineUs := nowUs + p.rx.config.timeoutCrUs }) := by
        unfold OpenDiag.Isotp.rxConfirm
        rw [if_neg (by simp [state]), rxCheckTimeout_of_ok punctual]
        simp [granting.granted]
      simp only [Pair.call, confirmed]
      refine ⟨rfl, ⟨connected.ofReceiver rfl rfl rfl connected.received, .granting
        { granting with flowControl := Or.inr (Or.inr ⟨rfl, rfl, ?_⟩) }⟩, ?_⟩
      · simp only [empty, out, Option.toList_some, List.nil_append]
        rfl
      · simp only [Pair.remaining, state, out, empty, Option.toList_some, Option.toList_none,
          List.nil_append, List.length_singleton, List.length_nil]
        rw [if_neg (by decide), if_neg (by decide)]
        omega

/-- The first frame completes a short message or starts a long one. -/
theorem Lockstep.feedFirst (connected : Connected payload memory p)
    (announced : Announced payload p) (punctual : p.RxPunctual nowUs) (delivered : p.toRx ≠ []) :
    Advances payload memory p (p.call (.feed, nowUs)) := by
  rcases announced.frame with ⟨_, none, _⟩ | ⟨out, one, state⟩
  · exact absurd none delivered
  have addresses := connected.mirrored.addressLength
  have matching := frameAt_matches 1 connected.mirrored connected.validSender
    connected.nonempty
  have carries := frameAt_carries 1 connected.mirrored connected.nonempty
  have fits := connected.capacity
  have room := connected.room
  have start : p.rx.buffer = some (payload.take 0 ++ memory.drop 0) := by
    rw [connected.received, announced.rxOffset]
  simp only [Pair.call, one]
  by_cases single : payload.length ≤ 7 - p.tx.config.addressLength
  · have whole : slice payload 0 payload.length = payload := by simp [slice]
    rw [nextControl_single 1 single, sizeAt_single single, whole] at carries
    obtain ⟨result, next⟩ := rxFeed_single matching carries connected.nonempty (by omega) fits
      punctual
    have sent : p.tx.offset = payload.length := by rw [announced.offset, sizeAt_single single]
    rw [if_pos sent] at state
    refine ⟨by rw [result]; rfl, ⟨connected.ofReceiver rfl ?_ ?_ ?_, .done
      { state := state.1
        offset := sent
        txOut := out
        toRx := rfl
        rxOut := announced.rxOut
        toTx := announced.toTx
        rxState := by rw [next]
        rxOffset := by rw [next]
        confirmed := state.2
        fed := result }⟩, ?_⟩
    · rw [next]
    · rw [next]
    · have resumed := overwrite_resume memory payload 0
        (Nat.le_of_eq (Nat.zero_add payload.length)) room
      rw [whole, Nat.zero_add] at resumed
      simp only [next, start, Option.map_some, resumed]
    · simp only [Pair.remaining, next, one, announced.rxState, List.length_singleton,
        List.length_nil]
      rw [if_neg (by decide)]
      omega
  · have several : 7 - p.tx.config.addressLength < payload.length := by omega
    have address := p.tx.config.addressLength_le
    have length : (slice payload 0 (6 - p.tx.config.addressLength)).length =
        6 - p.tx.config.addressLength := length_slice (by omega)
    rw [nextControl_first 1 several, sizeAt_first several] at carries
    obtain ⟨result, next⟩ := rxFeed_first matching carries (by rw [length, addresses])
      (frameAt_dlc_first 1 several) connected.physical (by omega) connected.small fits punctual
    have sent : p.tx.offset = 6 - p.tx.config.addressLength := by
      rw [announced.offset, sizeAt_first several]
    rw [if_neg (by omega)] at state
    rw [length] at next
    refine ⟨by rw [result]; rfl, ⟨connected.ofReceiver rfl ?_ ?_ ?_, .granting
      { state := state
        started := by rw [next]; simp only; omega
        left := by rw [next]; simp only; omega
        offset := by rw [next]; exact sent
        sequence := by rw [next]; exact announced.sequence
        nibble := by simp only [next]; decide
        txOut := out
        toRx := rfl
        rxTotal := by rw [next]
        blockCount := by rw [next]
        granted := by rw [next]
        flowControl := Or.inl ⟨by rw [next], announced.rxOut, announced.toTx⟩ }⟩, ?_⟩
    · rw [next]
    · rw [next]
    · have resumed := overwrite_resume memory payload 0
        (by omega : 0 + (6 - p.tx.config.addressLength) ≤ payload.length) room
      rw [Nat.zero_add] at resumed
      simp only [next, start, Option.map_some, resumed]
    · simp only [Pair.remaining, next, one, announced.rxState, List.length_singleton,
        List.length_nil]
      rw [if_pos trivial, if_neg (by decide)]
      omega

/-- What the sender has sent of the block does not depend on what has been taken in of it. -/
theorem Sent.deliver {q : Pair} {count : Nat} (sent : Sent payload p count) (tx : q.tx = p.tx)
    (txOut : q.txOut = p.txOut) (confirmed : q.confirmed = p.confirmed)
    (config : q.rx.config = p.rx.config)
    (behind : count = p.rx.config.blockSize.toNat ∧ p.rx.config.blockSize ≠ 0 ∨
      p.tx.offset = payload.length ∧ p.txOut = none → q.toRx ≠ []) :
    Sent payload q count := by
  cases sent with
  | due state out left inBlock =>
      exact .due (by rw [tx]; exact state) (txOut.trans out) (by rw [tx]; exact left)
        (by rw [config, tx]; exact inBlock)
  | offered f state out pending inBlock =>
      exact .offered f (by rw [tx]; exact state) (txOut.trans out) (by rw [tx]; exact pending)
        (by rw [config, tx]; exact inBlock)
  | waiting state out left limited boundary =>
      exact .waiting (by rw [tx]; exact state) (txOut.trans out) (by rw [tx]; exact left)
        (by rw [config]; exact limited) (by rw [config]; exact boundary)
        (behind (Or.inl ⟨boundary, limited⟩))
  | finished state out whole complete inBlock =>
      exact .finished (by rw [tx]; exact state) (txOut.trans out) (by rw [tx]; exact whole)
        (confirmed.trans complete) (by rw [config]; exact inBlock) (behind (Or.inr ⟨whole, out⟩))

/-- A consecutive frame completes the message, ends a block, or goes on with it. -/
theorem Lockstep.feedConsecutive (connected : Connected payload memory p)
    (sending : Sending payload p) (punctual : p.RxPunctual nowUs) (delivered : p.toRx ≠ []) :
    Advances payload memory p (p.call (.feed, nowUs)) := by
  obtain ⟨f, rest, arrived⟩ := List.exists_cons_of_ne_nil delivered
  obtain ⟨count, sent, counted⟩ := sending.sent
  have addresses := connected.mirrored.addressLength
  have inFlight := sending.inFlight
  rw [arrived, List.cons_append] at inFlight
  simp only [Pair.call, arrived]
  rw [arrived, List.length_cons] at counted
  generalize tail : rest ++ p.txOut.toList = frames at inFlight
  cases inFlight with
  | cons left following =>
      have started : p.rx.offset ≠ 0 := Nat.ne_of_gt sending.started
      have size := sizeAt_bounds p.tx.config left
      have consecutive := sizeAt_consecutive p.tx.config payload.length started
      have length : (slice payload p.rx.offset
          (sizeAt p.tx.config payload.length p.rx.offset)).length =
          sizeAt p.tx.config payload.length p.rx.offset := length_slice size.2
      have carries := frameAt_carries p.rx.sequence connected.mirrored left
      rw [nextControl_consecutive _ started] at carries
      obtain ⟨paddingError, next⟩ := rxFeed_consecutive (frameAt_matches _ connected.mirrored
        connected.validSender left) carries sending.nibble sending.rxState
        (by rw [length, consecutive, sending.rxTotal, addresses]) punctual
      have resumed := overwrite_resume memory payload p.rx.offset size.2 connected.room
      have filled : (p.rx.buffer.map fun cells => overwrite cells p.rx.offset
          (slice payload p.rx.offset (sizeAt p.tx.config payload.length p.rx.offset))) =
          some (payload.take (p.rx.offset + sizeAt p.tx.config payload.length p.rx.offset) ++
            memory.drop (p.rx.offset + sizeAt p.tx.config payload.length p.rx.offset)) := by
        rw [connected.received, Option.map_some, resumed]
      have nibble : ((p.rx.sequence + 1) &&& 0x0f) &&& 0x0f = (p.rx.sequence + 1) &&& 0x0f := by
        rw [UInt8.and_assoc, UInt8.and_self]
      rw [length, sending.rxTotal, filled] at next
      generalize rxFeed p.rx (frameAt p.tx.config payload p.rx.offset p.rx.sequence) nowUs =
        out at next ⊢
      obtain ⟨rc, rx, s⟩ := out
      generalize sizeAt p.tx.config payload.length p.rx.offset = taken at next following size
      dsimp only at next ⊢
      -- once nothing is on its way, the sender stands where the receiver does
      have caught (empty : rest = []) (out : p.txOut = none) :
          p.tx.offset = p.rx.offset + taken ∧ p.tx.sequence = (p.rx.sequence + 1) &&& 0x0f := by
        rw [empty, out] at tail
        rw [← tail] at following
        exact following.position_of_nil
      by_cases whole : p.rx.offset + taken = payload.length
      · rw [if_pos whole] at next
        obtain ⟨rfl, rfl⟩ := Prod.mk.inj next
        rw [whole] at following
        obtain ⟨empty, last⟩ := following.nil_of_end
        rw [empty] at tail
        obtain ⟨rfl, out⟩ := List.append_eq_nil_iff.mp tail
        refine ⟨rfl, ⟨connected.ofReceiver rfl rfl rfl rfl, .done ?_⟩, ?_⟩
        · cases sent with
          | due _ _ left => omega
          | offered f _ offered => rw [offered] at out; cases out
          | waiting _ _ left => omega
          | finished state out whole' confirmed =>
              exact ⟨state, last, out, rfl, sending.rxOut, sending.toTx, rfl, whole, confirmed, rfl⟩
        · simp only [Pair.remaining, arrived, sending.rxState, List.length_cons]
          rw [if_neg (by decide), if_neg (by decide)]
          omega
      rw [if_neg whole] at next
      have inside : p.rx.offset + taken < payload.length := Nat.lt_of_le_of_ne size.2 whole
      have unfinished : p.tx.offset = payload.length ∧ p.txOut = none → rest ≠ [] := by
        rintro ⟨sent_all, out⟩ empty
        have := (caught empty out).1
        omega
      by_cases unlimited : p.rx.config.blockSize = 0
      · rw [if_pos unlimited] at next
        obtain ⟨rfl, rfl⟩ := Prod.mk.inj next
        refine ⟨rfl, ⟨connected.ofReceiver rfl rfl rfl rfl, .sending
          { sending with
            started := Nat.add_pos_left sending.started _
            left := inside
            nibble := nibble
            rxTotal := rfl
            inFlight := by rw [tail]; exact following
            sent := ⟨count, sent.deliver rfl rfl rfl rfl ?_,
              fun limited => absurd unlimited limited⟩ }⟩,
          ?_⟩
        · rintro (⟨_, limited⟩ | finished)
          · exact absurd unlimited limited
          · exact unfinished finished
        · simp only [Pair.remaining, arrived, sending.rxState, List.length_cons]
          rw [if_neg (by decide)]
          omega
      rw [if_neg unlimited] at next
      obtain ⟨counts, below⟩ := counted unlimited
      have succ := blockCount_succ below
      by_cases boundary : p.rx.blockCount + 1 = p.rx.config.blockSize
      · rw [if_pos boundary] at next
        obtain ⟨rfl, rfl⟩ := Prod.mk.inj next
        rw [boundary] at succ
        refine ⟨rfl, ⟨connected.ofReceiver rfl rfl rfl rfl, .granting ?_⟩, ?_⟩
        · cases sent with
          | due _ _ _ inBlock => have := (inBlock unlimited).2; omega
          | offered _ _ _ _ inBlock => have := (inBlock unlimited).2; omega
          | finished _ out whole _ inBlock =>
              have := inBlock unlimited
              exact absurd (List.length_eq_zero_iff.mp (by omega)) (unfinished ⟨whole, out⟩)
          | waiting state out _ _ full =>
              have empty : rest = [] := List.length_eq_zero_iff.mp (by omega)
              obtain ⟨offset, sequence⟩ := caught empty out
              exact
                { state := state
                  started := Nat.add_pos_left sending.started _
                  left := inside
                  offset := offset
                  sequence := sequence
                  nibble := nibble
                  txOut := out
                  toRx := empty
                  rxTotal := rfl
                  blockCount := rfl
                  granted := sending.granted
                  flowControl := Or.inl ⟨rfl, sending.rxOut, sending.toTx⟩ }
        · simp only [Pair.remaining, arrived, sending.rxState, List.length_cons]
          rw [if_pos trivial, if_neg (by decide)]
          omega
      · rw [if_neg boundary] at next
        obtain ⟨rfl, rfl⟩ := Prod.mk.inj next
        have apart : (p.rx.blockCount + 1).toNat ≠ p.rx.config.blockSize.toNat :=
          fun same => boundary (UInt8.toNat_inj.mp same)
        refine ⟨rfl, ⟨connected.ofReceiver rfl rfl rfl rfl, .sending
          { sending with
            started := Nat.add_pos_left sending.started _
            left := inside
            nibble := nibble
            rxTotal := rfl
            inFlight := by rw [tail]; exact following
            sent := ⟨count, sent.deliver rfl rfl rfl rfl ?_, fun _ => ⟨?_, ?_⟩⟩ }⟩, ?_⟩
        · rintro (⟨full, _⟩ | finished)
          · rintro (empty : rest = [])
            rw [empty, List.length_nil] at counts
            omega
          · exact unfinished finished
        · simp only [succ]
          omega
        · simp only [succ] at apart ⊢
          omega
        · simp only [Pair.remaining, arrived, sending.rxState, List.length_cons]
          rw [if_neg (by decide)]
          omega

theorem Lockstep.feed (lockstep : Lockstep payload memory p) (due : p.Due (.feed, nowUs)) :
    Advances payload memory p (p.call (.feed, nowUs)) := by
  obtain ⟨connected, phase⟩ := lockstep
  obtain ⟨punctual, delivered⟩ := due
  cases phase with
  | opening opening => exact absurd opening.toRx delivered
  | granting granting => exact absurd granting.toRx delivered
  | done done => exact absurd done.toRx delivered
  | announced announced => exact feedFirst connected announced punctual delivered
  | sending sending => exact feedConsecutive connected sending punctual delivered

theorem Lockstep.call (lockstep : Lockstep payload memory p) (call : Call × Time)
    (due : p.Due call) : Advances payload memory p (p.call call) := by
  obtain ⟨call, nowUs⟩ := call
  cases call with
  | next => exact lockstep.next due
  | txConfirm => exact lockstep.txConfirm due
  | feed => exact lockstep.feed due
  | flowControl => exact lockstep.flowControl due
  | rxConfirm => exact lockstep.rxConfirm due
  | txFlowControl => exact lockstep.txFlowControl due

/-! ## Something is due until both sides are done -/

theorem Pair.exists_txPunctual (p : Pair) : ∃ nowUs, p.TxPunctual nowUs :=
  ⟨p.tx.deadlineUs - 1, by simp [TxPunctual, txCheckTimeout, expired_before]⟩

theorem Pair.exists_rxPunctual (p : Pair) : ∃ nowUs, p.RxPunctual nowUs :=
  ⟨p.rx.deadlineUs - 1, by simp [RxPunctual, rxCheckTimeout, expired_before]⟩

theorem Lockstep.due_or_done (lockstep : Lockstep payload memory p) :
    (∃ call, p.Due call) ∨ Done payload p := by
  obtain ⟨txTime, txPunctual⟩ := p.exists_txPunctual
  obtain ⟨rxTime, rxPunctual⟩ := p.exists_rxPunctual
  have confirm (f : CanFrame) (out : p.txOut = some f) : ∃ call, p.Due call :=
    ⟨(.txConfirm, txTime), txPunctual, by rw [out]; nofun⟩
  have feed (behind : p.toRx ≠ []) : ∃ call, p.Due call := ⟨(.feed, rxTime), rxPunctual, behind⟩
  cases lockstep.phase with
  | opening opening => exact Or.inl ⟨(.next, txTime), txPunctual, opening.txOut, Or.inl opening.state⟩
  | announced announced =>
      rcases announced.frame with ⟨out, _⟩ | ⟨_, one, _⟩
      · exact Or.inl (confirm _ out)
      · exact Or.inl (feed (by rw [one]; nofun))
  | granting granting =>
      rcases granting.flowControl with ⟨state, out, _⟩ | ⟨_, out, _⟩ | ⟨_, _, one⟩
      · exact Or.inl ⟨(.flowControl, rxTime), rxPunctual, out, state⟩
      · exact Or.inl ⟨(.rxConfirm, rxTime), rxPunctual, by rw [out]; nofun⟩
      · exact Or.inl ⟨(.txFlowControl, txTime), txPunctual, by rw [one]; nofun⟩
  | sending sending =>
      obtain ⟨count, sent, _⟩ := sending.sent
      cases sent with
      | due state out =>
          refine Or.inl ⟨(.next, p.tx.nextUs), ?_, out, Or.inr ⟨state, expired_self _⟩⟩
          simp [Pair.TxPunctual, txCheckTimeout, state]
      | offered f _ out => exact Or.inl (confirm f out)
      | waiting _ _ _ _ _ behind => exact Or.inl (feed behind)
      | finished _ _ _ _ _ behind => exact Or.inl (feed behind)
  | done done => exact Or.inr done

end Calls

/-- Nothing is due between two idle sides with nothing on its way. -/
theorem Pair.not_due {p : Pair} (idle : p.tx.state = .idle ∧ p.rx.state = .idle)
    (out : p.txOut = none ∧ p.rxOut = none) (delivered : p.toRx = [] ∧ p.toTx = [])
    (call : Call × Time) : ¬ p.Due call := by
  obtain ⟨call, nowUs⟩ := call
  intro due
  cases call with
  | next =>
      rcases due.2.2 with ready | ⟨cf, _⟩
      · rw [idle.1] at ready
        cases ready
      · rw [idle.1] at cf
        cases cf
  | txConfirm => exact due.2 out.1
  | feed => exact due.2 delivered.1
  | flowControl =>
      have ready := due.2.2
      rw [idle.2] at ready
      cases ready
  | rxConfirm => exact due.2 out.2
  | txFlowControl => exact due.2 delivered.2

/-! ## Every run -/

/-- **A lossless transfer delivers the payload.** Between mirrored valid physical endpoints, for
every payload of 1 to 4095 bytes that fits the receiver: however the driver interleaves the calls
that are due and whatever times it makes them at, as long as none is late, no call reports an
error; the run ends within six calls for each byte; and when nothing is due any more, both sides
have reported the message complete and the buffer begins with exactly the payload, the memory
behind it untouched. -/
theorem transfer_delivers_payload (tx₀ : Tx) (rx₀ : Rx) {sender receiver : Config}
    (payload memory : List UInt8) (capacity : Nat) (nowUs : Time)
    (mirrored : Mirrored sender receiver) (validSender : validConfig sender = true)
    (validReceiver : validConfig receiver = true) (physicalSender : sender.functional = false)
    (physicalReceiver : receiver.functional = false) (nonempty : 0 < payload.length)
    (small : payload.length ≤ isotpMaxPayload) (fits : payload.length ≤ capacity)
    (room : capacity ≤ memory.length) :
    let tx := txInit tx₀ sender
    let rx := rxInit rx₀ receiver (some memory) capacity
    let started := txStart tx.2 payload nowUs
    let p : Pair := { tx := started.2, rx := rx.2 }
    tx.1 = .ok ∧ rx.1 = .ok ∧ started.1 = .ok ∧
      ∀ calls, Admissible Pair.Due Pair.step p calls →
        (∀ before call after, calls = before ++ call :: after →
          ((run Pair.step p before).call call).1.isError = false) ∧
        calls.length ≤ 6 * payload.length ∧
        ((∀ call, ¬ (run Pair.step p calls).Due call) →
          (run Pair.step p calls).confirmed = .complete ∧
          (run Pair.step p calls).fed = .complete ∧
          (run Pair.step p calls).rx.buffer = some (payload ++ memory.drop payload.length)) := by
  have init : txInit tx₀ sender = (.ok, { config := sender }) := by simp [txInit, validSender]
  have refused : ¬ (decide (payload.length = 0) || decide (payload.length > isotpMaxPayload) ||
      (sender.functional && decide (payload.length > 7 - sender.addressLength))) = true := by
    simp only [physicalSender, Bool.false_and, Bool.or_false, Bool.or_eq_true, decide_eq_true_eq]
    omega
  intro tx rx started p
  have started_eq : started = txStart { config := sender } payload nowUs := by
    simp only [started, tx, init]
  have rx_eq : rx = (.ok, initialRx receiver (some memory) capacity) :=
    rxInit_eq rx₀ validReceiver _ _
  unfold txStart at started_eq
  rw [if_neg refused, if_neg (by simp)] at started_eq
  have lockstep : Lockstep payload memory p := by
    simp only [p, started_eq, rx_eq]
    exact ⟨⟨mirrored, validSender, validReceiver, physicalReceiver, nonempty, small, rfl, rfl,
      fits, Nat.le_trans fits room, rfl⟩, .opening ⟨rfl, rfl, rfl, rfl, rfl, rfl, rfl, rfl, rfl⟩⟩
  refine ⟨by simp only [tx, init], by rw [rx_eq], by rw [started_eq], fun calls admissible => ?_⟩
  have preserved (q : Pair) (call : Call × Time) (lockstep : Lockstep payload memory q)
      (due : q.Due call) : Lockstep payload memory (q.step call) := (lockstep.call call due).lockstep
  refine ⟨fun before call after split => ?_, ?_, fun stuck => ?_⟩
  · rw [split] at admissible
    obtain ⟨first, due, _⟩ := admissible.append
    exact ((first.invariant preserved lockstep).call call due).noError
  · have bound := admissible.length_le Pair.remaining preserved
      (fun q call lockstep due => (lockstep.call call due).less) lockstep
    refine Nat.le_trans bound (Nat.le_of_eq ?_)
    simp [p, started_eq, rx_eq, Pair.remaining, initialRx]
  · have final := admissible.invariant preserved lockstep
    rcases final.due_or_done with ⟨call, due⟩ | done
    · exact absurd due (stuck call)
    · refine ⟨done.confirmed, done.fed, ?_⟩
      rw [final.connected.received, done.rxOffset, List.take_length]

/-- Fourteen bytes in three frames, two consecutive frames to a block, with extended addresses. -/
theorem transfer_delivers_payload_extended :
    let sender : Config := { configDefault 0x7e0 0x7e8 with
      extendedAddress := true, txAddress := 0xf1, rxAddress := 0x10 }
    let receiver : Config := { configDefault 0x7e8 0x7e0 with
      extendedAddress := true, txAddress := 0x10, rxAddress := 0xf1, blockSize := 2, pad := false }
    let payload : List UInt8 := [1, 2, 3, 4, 5, 6, 7, 8, 9, 10, 11, 12, 13, 14]
    let rx₀ : Rx := { config := receiver, buffer := none, capacity := 0 }
    let p : Pair :=
      { tx := (txStart (txInit { config := sender } sender).2 payload 0).2
        rx := (rxInit rx₀ receiver (some (List.replicate 16 0)) 16).2 }
    let calls : List (Call × Time) := [(.next, 1), (.txConfirm, 2), (.feed, 3), (.flowControl, 4),
      (.rxConfirm, 5), (.txFlowControl, 6), (.next, 7), (.txConfirm, 8), (.next, 9), (.feed, 10),
      (.txConfirm, 11), (.feed, 12)]
    (run Pair.step p calls).fed = .complete ∧
      (run Pair.step p calls).rx.buffer = some (payload ++ [0, 0]) := by
  intro sender receiver payload rx₀ p calls
  have mirrored : Mirrored sender receiver := ⟨rfl, rfl, rfl, rfl, rfl⟩
  obtain ⟨_, _, _, delivered⟩ := transfer_delivers_payload { config := sender } rx₀ payload
    (List.replicate 16 0) 16 0 mirrored (by decide) (by decide) rfl rfl (by decide) (by decide)
    (by decide) (by decide)
  change ∀ calls, Admissible Pair.Due Pair.step p calls →
    _ ∧ _ ∧ ((∀ call, ¬ (run Pair.step p calls).Due call) →
      (run Pair.step p calls).confirmed = .complete ∧ (run Pair.step p calls).fed = .complete ∧
      (run Pair.step p calls).rx.buffer =
        some (payload ++ (List.replicate 16 0).drop payload.length)) at delivered
  have admissible : Admissible Pair.Due Pair.step p calls := by decide
  have final := (delivered calls admissible).2.2
  have stuck : ∀ call, ¬ (run Pair.step p calls).Due call :=
    Pair.not_due (by decide) (by decide) (by decide)
  have behind : (List.replicate 16 (0 : UInt8)).drop payload.length = [0, 0] := by decide
  have complete := (final stuck).2
  rw [behind] at complete
  exact complete

end OpenDiag.Isotp
