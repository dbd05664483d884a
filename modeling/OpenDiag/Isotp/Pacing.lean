import OpenDiag.Isotp.Frames
import OpenDiag.Lib.Monitor

/-!
# The sender obeys its peer

One transfer of the sender, driven by any calls at any times: `isotp_tx_next`, `isotp_tx_confirm`,
`isotp_tx_flow_control` with any frame, and `isotp_tx_check_timeout`. The log of a transfer holds
what was sent, confirmed and heard. `Peer` is what an observer of the log holds the sender to: the
block that was granted last and how much of it is used up, the separation asked for, the
confirmation of the last consecutive frame and the waits in a row. The sender's own fields agree
with the observer's after every call, so every event of the log is one that the observer allows.
-/

namespace OpenDiag.Isotp.Pacing

/-- What a driver can call. -/
inductive Call where
  | next
  | confirm (success : Bool)
  | flowControl (f : CanFrame)
  | checkTimeout
  deriving DecidableEq

/-- What happens in a transfer. -/
inductive Event where
  | sent (f : CanFrame) (time : Nat)
  | confirmed (time : Nat)
  /-- A flow control that was not ignored, and the result of taking it in. -/
  | heard (f : CanFrame) (rc : Result)
  | ended (rc : Result)
  deriving DecidableEq

/-- An error ends the transfer. -/
def ending (rc : Result) : List Event :=
  if rc.isError then [.ended rc] else []

/-- One call at a time. The sender sees the time modulo `2 ^ 32`. -/
def call (tx : Tx) (time : Nat) : Call → Tx × List Event
  | .next =>
    let (rc, tx, frame) := txNext tx (.ofNat time)
    (tx, match frame with
      | some f => [.sent f time]
      | none => ending rc)
  | .confirm success =>
    let (rc, tx) := txConfirm tx success (.ofNat time)
    (tx, match rc with
      | .ok => [.confirmed time]
      | .complete => [.confirmed time, .ended .complete]
      | .errArgument => []
      | rc => ending rc)
  | .flowControl f =>
    let (rc, tx) := txFlowControl tx f (.ofNat time)
    (tx, match rc with
      | .ignored => []
      | .errTimeoutA => [.ended .errTimeoutA]
      | .errTimeoutBs => [.ended .errTimeoutBs]
      | rc => [.heard f rc])
  | .checkTimeout =>
    let (rc, tx) := txCheckTimeout tx (.ofNat time)
    (tx, ending rc)

/-- A transfer on its way. -/
structure Session where
  tx : Tx
  now : Nat
  log : List Event := []

/-- One call, `delay` microseconds after the one before it. -/
def Session.step (s : Session) (input : Nat × Call) : Session :=
  let time := s.now + input.1
  let (tx, events) := call s.tx time input.2
  { tx, now := time, log := s.log ++ events }

/-- The transfer of `payload` that starts at `now`, after the calls. -/
def transfer (tx : Tx) (payload : List UInt8) (now : Nat) (calls : List (Nat × Call)) : Session :=
  run Session.step { tx := (txStart tx payload (.ofNat now)).2, now } calls

/-- The frames of a log, in order. -/
def framesOf (log : List Event) : List CanFrame :=
  log.filterMap fun
    | .sent f _ => some f
    | _ => none

@[simp] theorem framesOf_append (log events : List Event) :
    framesOf (log ++ events) = framesOf log ++ framesOf events :=
  List.filterMap_append

@[simp] theorem framesOf_ending (rc : Result) : framesOf (ending rc) = [] := by
  unfold ending
  split <;> rfl

/-! ## What the peer holds the sender to -/

/-- The parts of a frame behind the address. -/
def kindOf (c : Config) (f : CanFrame) : UInt8 := f.data.read c.addressLength >>> 4
def flowStatusOf (c : Config) (f : CanFrame) : UInt8 := f.data.read c.addressLength &&& 0x0f
def blockSizeOf (c : Config) (f : CanFrame) : UInt8 := f.data.read (c.addressLength + 1)
def stminOf (c : Config) (f : CanFrame) : UInt8 := f.data.read (c.addressLength + 2)

/-- The observer of a log. -/
structure Peer where
  finished : Bool := false
  /-- A frame was sent and not confirmed yet. -/
  unconfirmed : Bool := false
  /-- The frame sent last is a consecutive frame. -/
  consecutive : Bool := false
  /-- When the last consecutive frame was confirmed. -/
  lastCf : Option Nat := none
  /-- The block size of the last continue-to-send. -/
  block : Option UInt8 := none
  /-- The consecutive frames sent since. -/
  count : Nat := 0
  /-- A continue-to-send asked for a reserved separation. -/
  reserved : Bool := false
  separationUs : Nat := 0
  /-- The wait frames since the last continue-to-send. -/
  waits : Nat := 0

/-- A reserved separation stands for the longest one and stays in force for the transfer. -/
def Peer.grant (peer : Peer) (blockSize stmin : UInt8) : Peer :=
  let reserved := peer.reserved || !validStmin stmin
  { peer with
    block := some blockSize
    count := 0
    reserved
    separationUs := if reserved then 127000 else (stminUs stmin).toNat
    waits := 0 }

def Peer.see (c : Config) (peer : Peer) : Event → Peer
  | .sent f _ =>
    if kindOf c f = 2 then
      { peer with unconfirmed := true, consecutive := true, count := peer.count + 1 }
    else { peer with unconfirmed := true, consecutive := false }
  | .confirmed time =>
    { peer with
      unconfirmed := false
      lastCf := if peer.consecutive then some time else peer.lastCf }
  | .heard f rc =>
    if rc.isError then { peer with finished := true }
    else if flowStatusOf c f = 0 then peer.grant (blockSizeOf c f) (stminOf c f)
    else { peer with waits := peer.waits + 1 }
  | .ended _ => { peer with finished := true }

/-- The observer after a log. -/
def Peer.after (c : Config) (log : List Event) : Peer :=
  log.foldl (Peer.see c) {}

/-- A consecutive frame needs a granted block with room for it, and keeps the separation. -/
structure Peer.AllowsConsecutive (peer : Peer) (time : Nat) : Prop where
  granted : ∃ blockSize ∈ peer.block, blockSize = 0 ∨ peer.count < blockSize.toNat
  separated : ∀ last ∈ peer.lastCf, last + peer.separationUs ≤ time

/-- What may happen next. Nothing happens after the end; a frame is sent only when the one before
it was confirmed; a wait is tolerated exactly as long as the limit is not used up, and ends the
transfer with an error otherwise. -/
def Peer.Allows (c : Config) (peer : Peer) : Event → Prop
  | .sent f time =>
    peer.finished = false ∧ peer.unconfirmed = false ∧
      (kindOf c f = 2 → peer.AllowsConsecutive time)
  | .confirmed _ => peer.finished = false ∧ peer.unconfirmed = true
  | .heard f rc =>
    peer.finished = false ∧
      rc = if flowStatusOf c f = 0 then .frame
        else if flowStatusOf c f = 1 then
          if peer.waits < c.waitLimit.toNat then .frame else .errWaitLimit
        else if flowStatusOf c f = 2 then .errOverflow
        else .errFlowStatus
  | .ended _ => peer.finished = false

/-- Every event of the log is one that the peer allowed when it happened. -/
def ObeysPeer (c : Config) (log : List Event) : Prop :=
  Obedient (Peer.see c) (Peer.Allows c) {} log

/-- The control bytes of the frame at `index` of a payload's frames. -/
def controlAt (c : Config) (payload : List UInt8) (index : Nat) : List UInt8 :=
  if index = 0 then
    if payload.length ≤ 7 - c.addressLength then [UInt8.ofNat payload.length]
    else [(0x10 : UInt8) ||| UInt8.ofNat (payload.length >>> 8),
      UInt8.ofNat (payload.length &&& 0xff)]
  else [(0x20 : UInt8) ||| UInt8.ofNat (index % 16)]

/-- The frames carry the chunks, each under the control bytes of its position and each as long as
what is left allows. -/
inductive Segments (c : Config) (payload : List UInt8) :
    List CanFrame → List (List UInt8) → Prop
  | nil : Segments c payload [] []
  | snoc {frames : List CanFrame} {chunks : List (List UInt8)} {f : CanFrame}
      {chunk : List UInt8} (segments : Segments c payload frames chunks)
      (carries : Carries c.addressLength f (controlAt c payload frames.length) chunk)
      (some_bytes : chunk ≠ [])
      (size : chunk.length = sizeAt c payload.length chunks.flatten.length) :
      Segments c payload (frames ++ [f]) (chunks ++ [chunk])

/-! ## The observer's log -/

section Log

variable {c : Config} {log : List Event}

@[simp] theorem Peer.after_concat (c : Config) (log : List Event) (event : Event) :
    Peer.after c (log ++ [event]) = (Peer.after c log).see c event := by
  simp [Peer.after]

end Log

/-! ## What one call does -/

/-- The sender after a confirmation that leaves bytes to send. -/
def confirmedTx (tx : Tx) (nowUs : Time) : Tx :=
  let tx := if tx.pendingCf then
      { tx with sentCf := true, lastCfUs := nowUs, blockCount := tx.blockCount + 1 }
    else tx
  if !tx.pendingCf || (tx.blockSize ≠ 0 && tx.blockCount = tx.blockSize) then
    { tx with state := .fc, deadlineUs := nowUs + tx.config.timeoutBsUs }
  else { tx with state := .cf, nextUs := nowUs + tx.separationUs }

section Confirmed

variable {tx : Tx} {nowUs : Time}

theorem confirmedTx_of_first (first : tx.pendingCf = false) :
    confirmedTx tx nowUs =
      { tx with state := .fc, deadlineUs := nowUs + tx.config.timeoutBsUs } := by
  simp [confirmedTx, first]

theorem confirmedTx_of_boundary (consecutive : tx.pendingCf = true)
    (boundary : tx.blockSize ≠ 0 ∧ tx.blockCount + 1 = tx.blockSize) :
    confirmedTx tx nowUs = { tx with
      sentCf := true
      lastCfUs := nowUs
      blockCount := tx.blockCount + 1
      state := .fc
      deadlineUs := nowUs + tx.config.timeoutBsUs } := by
  simp [confirmedTx, consecutive, boundary]

theorem confirmedTx_of_inside (consecutive : tx.pendingCf = true)
    (inside : ¬ (tx.blockSize ≠ 0 ∧ tx.blockCount + 1 = tx.blockSize)) :
    confirmedTx tx nowUs = { tx with
      sentCf := true
      lastCfUs := nowUs
      blockCount := tx.blockCount + 1
      state := .cf
      nextUs := nowUs + tx.separationUs } := by
  simp only [confirmedTx, consecutive, if_true, Bool.not_true, Bool.false_or]
  rw [if_neg (by simpa using inside)]

end Confirmed

/-- What one call can do to the sender, and what it adds to the log. -/
inductive Outcome (tx : Tx) (time : Nat) : Tx → List Event → Prop
  | quiet : Outcome tx time tx []
  | failed (rc : Result) (running : tx.state ≠ .idle) :
      Outcome tx time { tx with state := .idle } [.ended rc]
  | sent (due : tx.state = .ready ∨ tx.state = .cf ∧ expired (.ofNat time) tx.nextUs = true)
      (deadlineUs : Time) :
      Outcome tx time
        { tx with
          pendingCf := tx.offset ≠ 0
          sequence := if tx.offset ≠ 0 then (tx.sequence + 1) &&& 0x0f else tx.sequence
          offset := tx.offset + sizeAt tx.config tx.total tx.offset
          state := .confirm
          deadlineUs }
        [.sent (frameAt tx.config tx.buffer tx.offset tx.sequence) time]
  | completed (awaiting : tx.state = .confirm) :
      Outcome tx time { tx with state := .idle } [.confirmed time, .ended .complete]
  | confirmed (awaiting : tx.state = .confirm) (left : tx.offset ≠ tx.total) :
      Outcome tx time (confirmedTx tx (.ofNat time)) [.confirmed time]
  | granted (f : CanFrame) (paddingError : Bool) (awaiting : tx.state = .fc)
      (status : flowStatusOf tx.config f = 0) :
      Outcome tx time (continueToSend { tx with paddingError } f (.ofNat time))
        [.heard f .frame]
  | waited (f : CanFrame) (paddingError : Bool) (deadlineUs : Time) (awaiting : tx.state = .fc)
      (status : flowStatusOf tx.config f = 1)
      (tolerated : tx.waitCount < tx.config.waitLimit.toNat) :
      Outcome tx time { tx with waitCount := tx.waitCount + 1, paddingError, deadlineUs }
        [.heard f .frame]
  | refused (f : CanFrame) (rc : Result) (paddingError : Bool) (waitCount : Nat)
      (awaiting : tx.state = .fc) (other : flowStatusOf tx.config f ≠ 0)
      (limit : flowStatusOf tx.config f = 1 → tx.config.waitLimit.toNat ≤ tx.waitCount)
      (which : rc = if flowStatusOf tx.config f = 1 then .errWaitLimit
        else if flowStatusOf tx.config f = 2 then .errOverflow else .errFlowStatus) :
      Outcome tx time { tx with state := .idle, waitCount, paddingError } [.heard f rc]

section Outcomes

variable {tx : Tx}

theorem next_outcome (total : tx.total = tx.buffer.length) (time : Nat) :
    Outcome tx time (call tx time .next).1 (call tx time .next).2 := by
  rcases txCheckTimeout_cases tx (.ofNat time) with
    fresh | ⟨running, _, _, rc, which, timeout⟩
  · by_cases due : tx.state = .ready ∨ tx.state = .cf ∧ expired (.ofNat time) tx.nextUs = true
    · simp only [call, txNext_of_due total (congrArg Prod.fst fresh) due]
      exact .sent due _
    · have ignored : txNext tx (.ofNat time) = (.ignored, tx, none) := by
        unfold txNext
        simp only [fresh, Result.isError_ok, Bool.false_eq_true, if_false]
        cases state : tx.state <;> simp_all
      simp only [call, ignored]
      exact .quiet
  · rcases which with rfl | rfl
    · simp only [call, txNext, timeout]
      exact .failed _ running
    · simp only [call, txNext, timeout]
      exact .failed _ running

theorem confirm_outcome (success : Bool) (time : Nat) :
    Outcome tx time (call tx time (.confirm success)).1 (call tx time (.confirm success)).2 := by
  by_cases awaiting : tx.state = .confirm
  · rcases txCheckTimeout_cases tx (.ofNat time) with
      fresh | ⟨running, _, _, rc, which, timeout⟩
    · cases success with
      | false =>
          simp only [call, txConfirm, awaiting, fresh]
          exact .failed _ (by simp [awaiting])
      | true =>
          by_cases finished : tx.offset = tx.total
          · have completed : txConfirm tx true (.ofNat time) =
                (.complete, { tx with state := .idle }) := by
              unfold txConfirm
              rw [if_neg (by simp [awaiting]), fresh]
              exact if_pos finished
            simp only [call, completed]
            exact .completed awaiting
          · have confirmed : txConfirm tx true (.ofNat time) =
                (.ok, confirmedTx tx (.ofNat time)) := by
              unfold txConfirm confirmedTx
              rw [if_neg (by simp [awaiting]), fresh]
              exact (if_neg finished).trans (apply_ite (Prod.mk Result.ok) _ _ _).symm
            simp only [call, confirmed]
            exact .confirmed awaiting finished
    · rcases which with rfl | rfl
      · simp only [call, txConfirm, awaiting, timeout]
        exact .failed _ running
      · simp only [call, txConfirm, awaiting, timeout]
        exact .failed _ running
  · have refused : txConfirm tx success (.ofNat time) = (.errArgument, tx) := if_pos awaiting
    simp only [call, refused]
    exact .quiet

theorem flowControl_outcome (f : CanFrame) (time : Nat) :
    Outcome tx time (call tx time (.flowControl f)).1 (call tx time (.flowControl f)).2 := by
  rcases txCheckTimeout_cases tx (.ofNat time) with
    fresh | ⟨running, _, _, rc, which, timeout⟩
  · simp only [call, txFlowControl, fresh, Result.isError_ok, Bool.false_eq_true, if_false]
    by_cases taken : tx.state ≠ .fc ∨ matchesFrame tx.config f = false ∨
        f.dlc < tx.config.addressLength + 3 ∨ f.data.read tx.config.addressLength >>> 4 ≠ 3
    · rw [if_pos (by simpa [or_assoc] using taken)]
      exact .quiet
    · rw [if_neg (by simpa [or_assoc] using taken)]
      have awaiting : tx.state = .fc := by
        by_contra busy
        exact taken (Or.inl busy)
      by_cases grant : f.data.read tx.config.addressLength &&& 0x0f = 0
      · rw [if_pos grant]
        exact .granted f _ awaiting grant
      · rw [if_neg grant]
        by_cases wait : f.data.read tx.config.addressLength &&& 0x0f = 1
        · by_cases tolerated : tx.waitCount + 1 ≤ tx.config.waitLimit.toNat
          · simp only [wait, tolerated, if_true, decide_true, Bool.and_self]
            exact .waited f _ _ awaiting wait (Nat.lt_of_succ_le tolerated)
          · simp only [wait, tolerated, if_true, decide_true, decide_false, Bool.and_false,
              Bool.false_eq_true, if_false]
            exact .refused f _ _ _ awaiting grant (fun _ => by omega) (by simp [flowStatusOf, wait])
        · simp only [wait, decide_false, Bool.false_and, Bool.false_eq_true, if_false]
          by_cases overflow : f.data.read tx.config.addressLength &&& 0x0f = 2
          · simp only [overflow, if_true]
            refine .refused f _ _ _ awaiting grant (fun status => absurd status wait) ?_
            simp [flowStatusOf, overflow]
          · simp only [overflow, if_false]
            refine .refused f _ _ _ awaiting grant (fun status => absurd status wait) ?_
            simp [flowStatusOf, wait, overflow]
  · rcases which with rfl | rfl
    · simp only [call, txFlowControl, timeout]
      exact .failed _ running
    · simp only [call, txFlowControl, timeout]
      exact .failed _ running

theorem checkTimeout_outcome (time : Nat) :
    Outcome tx time (call tx time .checkTimeout).1 (call tx time .checkTimeout).2 := by
  rcases txCheckTimeout_cases tx (.ofNat time) with
    fresh | ⟨running, _, _, rc, which, timeout⟩
  · simp only [call, fresh]
    exact .quiet
  · rcases which with rfl | rfl
    · simp only [call, timeout]
      exact .failed _ running
    · simp only [call, timeout]
      exact .failed _ running

theorem call_outcome (total : tx.total = tx.buffer.length) (time : Nat) (made : Call) :
    Outcome tx time (call tx time made).1 (call tx time made).2 := by
  cases made with
  | next => exact next_outcome total time
  | confirm success => exact confirm_outcome success time
  | flowControl f => exact flowControl_outcome f time
  | checkTimeout => exact checkTimeout_outcome time

end Outcomes

/-! ## The sender and its observer -/

/-- The sender's view of the last continue-to-send is the observer's. -/
structure Granted (tx : Tx) (peer : Peer) : Prop where
  block : peer.block = some tx.blockSize
  separation : tx.separationUs = .ofNat peer.separationUs
  short : peer.separationUs ≤ 127000

/-- A consecutive frame waits for its confirmation. -/
def Tx.awaitsCf (tx : Tx) : Bool :=
  tx.state = .confirm && tx.pendingCf

/-- How the sender of a transfer that is not over agrees with the observer of its log. -/
structure Agrees (tx : Tx) (peer : Peer) (now : Nat) : Prop where
  active : peer.finished = false
  running : tx.state ≠ .idle
  unconfirmed : peer.unconfirmed = decide (tx.state = .confirm)
  consecutive : tx.state = .confirm → tx.pendingCf = peer.consecutive
  waits : tx.waitCount = peer.waits
  reserved : tx.reservedStmin = peer.reserved
  sentCf : tx.sentCf = peer.lastCf.isSome
  lastCf : ∀ last ∈ peer.lastCf, tx.lastCfUs = .ofNat last ∧ last ≤ now
  granted : tx.state = .cf ∨ Tx.awaitsCf tx = true → Granted tx peer
  counted : ∃ settled, tx.blockCount = .ofNat settled ∧
    peer.count = settled + if Tx.awaitsCf tx then 1 else 0
  room : tx.state = .cf → tx.blockSize = 0 ∨ peer.count < tx.blockSize.toNat
  inside : Tx.awaitsCf tx = true → tx.blockSize = 0 ∨ peer.count ≤ tx.blockSize.toNat
  due : tx.state = .cf → ∃ due, tx.nextUs = .ofNat due ∧ due ≤ now + 127000 ∧
    ∀ last ∈ peer.lastCf, last + peer.separationUs ≤ due
  fresh : tx.state = .ready → tx.offset = 0
  started : tx.state ≠ .ready → tx.offset ≠ 0
  left : tx.state ≠ .confirm → tx.offset < tx.total

/-- The sender's sequence number before the frame at `index`. -/
def sequenceAt (index : Nat) : UInt8 :=
  if index = 0 then 1 else .ofNat (index % 16)

/-- The sender's position in the payload is that of the frames in the log. -/
structure Position (c : Config) (payload : List UInt8) (tx : Tx) (frames : List CanFrame) :
    Prop where
  config : tx.config = c
  buffer : tx.buffer = payload
  total : tx.total = payload.length
  small : payload.length ≤ isotpMaxPayload
  offset_le : tx.offset ≤ payload.length
  segments : ∃ chunks, Segments c payload frames chunks ∧
    chunks.flatten = payload.take tx.offset
  first : frames.length = 0 ↔ tx.offset = 0
  sequence : tx.sequence = sequenceAt frames.length

/-- What holds after every call of a transfer. -/
structure Session.Sound (c : Config) (payload : List UInt8) (s : Session) : Prop where
  obedient : ObeysPeer c s.log
  position : Position c payload s.tx (framesOf s.log)
  agrees : s.tx.state ≠ .idle → Agrees s.tx (Peer.after c s.log) s.now

section Agreement

variable {tx : Tx} {peer : Peer} {now time : Nat}

/-- Time alone changes nothing. -/
theorem Agrees.later (agrees : Agrees tx peer now) (passed : now ≤ time) :
    Agrees tx peer time where
  __ := agrees
  lastCf last seen := ⟨(agrees.lastCf last seen).1, (agrees.lastCf last seen).2.trans passed⟩
  due sending := by
    obtain ⟨due, next, soon, separated⟩ := agrees.due sending
    exact ⟨due, next, by omega, separated⟩

/-- A time that is at most `127000` microseconds ahead is passed only when it is. -/
theorem le_of_expired {due : Nat} (soon : due ≤ time + 127000)
    (passed : expired (.ofNat time) (.ofNat due) = true) : due ≤ time := by
  rw [expired, decide_eq_true_iff, UInt32.lt_iff_toNat_lt, UInt32.toNat_sub,
    UInt32.toNat_ofNat', UInt32.toNat_ofNat'] at passed
  simp only [UInt32.reduceToNat] at passed
  omega

theorem stminUs_le (stmin : UInt8) : (stminUs stmin).toNat ≤ 127000 := by
  rw [toNat_stminUs]
  split
  · omega
  · split
    · omega
    · exact Nat.le_refl _

/-- A separation is in force for no longer than the longest one. -/
theorem Peer.grant_short (peer : Peer) (blockSize stmin : UInt8) :
    (peer.grant blockSize stmin).separationUs ≤ 127000 := by
  simp only [Peer.grant]
  split
  · exact Nat.le_refl _
  · exact stminUs_le stmin

/-! ### What each event leaves agreed -/

/-- A frame is sent: it is allowed, and it is the one that awaits its confirmation. -/
theorem Agrees.sent {c : Config} {f : CanFrame} {size : Nat} (agrees : Agrees tx peer time)
    (deadlineUs : Time) (sequence : UInt8)
    (due : tx.state = .ready ∨ tx.state = .cf ∧ expired (.ofNat time) tx.nextUs = true)
    (kind : kindOf c f = 2 ↔ tx.offset ≠ 0) (some_bytes : 0 < size) :
    peer.Allows c (.sent f time) ∧
      Agrees { tx with
        pendingCf := tx.offset ≠ 0
        sequence
        offset := tx.offset + size
        state := .confirm
        deadlineUs } (peer.see c (.sent f time)) time := by
  have unconfirmed : peer.unconfirmed = false := by
    rw [agrees.unconfirmed]
    rcases due with ready | ⟨cf, _⟩ <;> simp [*]
  have quiet : Tx.awaitsCf tx = false := by
    rcases due with ready | ⟨cf, _⟩ <;> simp [Tx.awaitsCf, *]
  obtain ⟨settled, blockCount, count⟩ := agrees.counted
  rw [quiet] at count
  by_cases first : tx.offset = 0
  · have other : ¬ kindOf c f = 2 := fun cf => kind.mp cf first
    refine ⟨⟨agrees.active, unconfirmed, fun cf => absurd cf other⟩, ?_⟩
    simp only [Peer.see, if_neg other]
    exact {
      active := agrees.active
      running := by simp
      unconfirmed := by simp
      consecutive := by simp [first]
      waits := agrees.waits
      reserved := agrees.reserved
      sentCf := agrees.sentCf
      lastCf := agrees.lastCf
      granted := by simp [Tx.awaitsCf, first]
      counted := ⟨settled, blockCount, by simpa [Tx.awaitsCf, first] using count⟩
      room := by simp
      inside := by simp [Tx.awaitsCf, first]
      due := by simp
      fresh := by simp
      started := fun _ => by simp only [ne_eq]; omega
      left := by simp }
  · have cf : tx.state = .cf ∧ expired (.ofNat time) tx.nextUs = true := by
      rcases due with ready | cf
      · exact absurd (agrees.fresh ready) first
      · exact cf
    have granted := agrees.granted (.inl cf.1)
    obtain ⟨due, next, soon, separated⟩ := agrees.due cf.1
    have passed : due ≤ time := le_of_expired soon (next ▸ cf.2)
    have room := agrees.room cf.1
    refine ⟨⟨agrees.active, unconfirmed, fun _ => ⟨⟨_, granted.block, room⟩, fun last seen =>
      (separated last seen).trans passed⟩⟩, ?_⟩
    simp only [Peer.see, if_pos (kind.mpr first)]
    exact {
      active := agrees.active
      running := by simp
      unconfirmed := by simp
      consecutive := by simp [first]
      waits := agrees.waits
      reserved := agrees.reserved
      sentCf := agrees.sentCf
      lastCf := agrees.lastCf
      granted := fun _ => ⟨granted.block, granted.separation, granted.short⟩
      counted := ⟨settled, blockCount, by simpa [Tx.awaitsCf, first] using count⟩
      room := by simp
      inside := fun _ => room.imp_right Nat.succ_le_of_lt
      due := by simp
      fresh := by simp
      started := fun _ => by simp only [ne_eq]; omega
      left := by simp }

/-- A confirmation that leaves bytes to send. -/
theorem Agrees.confirmed (c : Config) (agrees : Agrees tx peer time)
    (awaiting : tx.state = .confirm) (left : tx.offset < tx.total) :
    Agrees (confirmedTx tx (.ofNat time)) (peer.see c (.confirmed time)) time := by
  have started := agrees.started (by simp [awaiting])
  have consecutive := agrees.consecutive awaiting
  obtain ⟨settled, blockCount, count⟩ := agrees.counted
  cases pending : tx.pendingCf with
  | false =>
      have other : peer.consecutive = false := by rw [← consecutive, pending]
      have quiet : Tx.awaitsCf tx = false := by simp [Tx.awaitsCf, pending]
      simp only [quiet] at count
      rw [confirmedTx_of_first pending]
      simp only [Peer.see, other]
      exact {
        active := agrees.active
        running := by simp
        unconfirmed := by simp
        consecutive := by simp
        waits := agrees.waits
        reserved := agrees.reserved
        sentCf := agrees.sentCf
        lastCf := agrees.lastCf
        granted := by simp [Tx.awaitsCf]
        counted := ⟨settled, blockCount, by simpa [Tx.awaitsCf] using count⟩
        room := by simp
        inside := by simp [Tx.awaitsCf]
        due := by simp
        fresh := by simp
        started := fun _ => started
        left := fun _ => left }
  | true =>
      have cf : peer.consecutive = true := by rw [← consecutive, pending]
      have awaits : Tx.awaitsCf tx = true := by simp [Tx.awaitsCf, awaiting, pending]
      simp only [awaits, if_true] at count
      have granted := agrees.granted (.inr awaits)
      have inside := agrees.inside awaits
      have counted : tx.blockCount + 1 = .ofNat peer.count := by
        rw [blockCount, count, UInt8.ofNat_add]
        rfl
      by_cases boundary : tx.blockSize ≠ 0 ∧ tx.blockCount + 1 = tx.blockSize
      · rw [confirmedTx_of_boundary pending boundary]
        simp only [Peer.see, cf, if_true]
        exact {
          active := agrees.active
          running := by simp
          unconfirmed := by simp
          consecutive := by simp
          waits := agrees.waits
          reserved := agrees.reserved
          sentCf := rfl
          lastCf := by simp
          granted := by simp [Tx.awaitsCf]
          counted := ⟨peer.count, counted, by simp [Tx.awaitsCf]⟩
          room := by simp
          inside := by simp [Tx.awaitsCf]
          due := by simp
          fresh := by simp
          started := fun _ => started
          left := fun _ => left }
      · have room : tx.blockSize = 0 ∨ peer.count < tx.blockSize.toNat := by
          by_cases unlimited : tx.blockSize = 0
          · exact .inl unlimited
          · have below : peer.count ≤ tx.blockSize.toNat := inside.resolve_left unlimited
            have different : peer.count ≠ tx.blockSize.toNat := by
              intro same
              refine boundary ⟨unlimited, ?_⟩
              rw [counted, same, UInt8.ofNat_toNat]
            exact .inr (by omega)
        have short := granted.short
        rw [confirmedTx_of_inside pending boundary]
        simp only [Peer.see, cf, if_true]
        exact {
          active := agrees.active
          running := by simp
          unconfirmed := by simp
          consecutive := by simp
          waits := agrees.waits
          reserved := agrees.reserved
          sentCf := rfl
          lastCf := by simp
          granted := fun _ => ⟨granted.block, granted.separation, granted.short⟩
          counted := ⟨peer.count, counted, by simp [Tx.awaitsCf]⟩
          room := fun _ => room
          inside := by simp [Tx.awaitsCf]
          due := fun _ => ⟨time + peer.separationUs, by
            rw [granted.separation, UInt32.ofNat_add], by omega, by simp⟩
          fresh := by simp
          started := fun _ => started
          left := fun _ => left }

/-- The separation that the sender takes from a continue-to-send is the observer's. -/
theorem continueToSend_separation (agrees : Agrees tx peer time) (f : CanFrame)
    (paddingError : Bool) :
    (continueToSend { tx with paddingError } f (.ofNat time)).separationUs =
      .ofNat (peer.grant (blockSizeOf tx.config f) (stminOf tx.config f)).separationUs := by
  have same : ∀ (reserved : Bool) (stmin : UInt8),
      (if reserved then 127000 else stminUs stmin) =
        UInt32.ofNat (if reserved then 127000 else (stminUs stmin).toNat) := by
    intro reserved stmin
    cases reserved with
    | false => exact UInt32.ofNat_toNat.symm
    | true => rfl
  simp only [continueToSend, agrees.reserved]
  exact same _ _

/-- A continue-to-send puts the next frame off to the end of the separation, also where the last
frame before it ended a block. -/
theorem continueToSend_due (agrees : Agrees tx peer time) (f : CanFrame) (paddingError : Bool) :
    let granted := peer.grant (blockSizeOf tx.config f) (stminOf tx.config f)
    ∃ due, (continueToSend { tx with paddingError } f (.ofNat time)).nextUs = .ofNat due ∧
      due ≤ time + 127000 ∧ ∀ last ∈ granted.lastCf, last + granted.separationUs ≤ due := by
  intro granted
  have separation : (continueToSend { tx with paddingError } f (.ofNat time)).separationUs =
      .ofNat granted.separationUs := continueToSend_separation agrees f paddingError
  have short : granted.separationUs ≤ 127000 := peer.grant_short _ _
  have next : (continueToSend { tx with paddingError } f (.ofNat time)).nextUs =
      if tx.sentCf && !expired (.ofNat time) (tx.lastCfUs + .ofNat granted.separationUs) then
        tx.lastCfUs + .ofNat granted.separationUs
      else .ofNat time := by
    rw [← separation]
    rfl
  have unchanged : granted.lastCf = peer.lastCf := rfl
  rw [next, unchanged, agrees.sentCf]
  cases seen : peer.lastCf with
  | none => exact ⟨time, by simp, by omega, by simp⟩
  | some last =>
      obtain ⟨lastCf, before⟩ := agrees.lastCf last seen
      rw [lastCf, ← UInt32.ofNat_add]
      cases passed : expired (.ofNat time) (.ofNat (last + granted.separationUs)) with
      | false => exact ⟨last + granted.separationUs, by simp, by omega, by simp⟩
      | true =>
          have finished := le_of_expired (by omega) passed
          exact ⟨time, by simp, by omega, by simpa using finished⟩

/-- A continue-to-send starts a new block. -/
theorem Agrees.granted_step (agrees : Agrees tx peer time) (f : CanFrame) (paddingError : Bool)
    (awaiting : tx.state = .fc) (status : flowStatusOf tx.config f = 0) :
    peer.Allows tx.config (.heard f .frame) ∧
      Agrees (continueToSend { tx with paddingError } f (.ofNat time))
        (peer.see tx.config (.heard f .frame)) time := by
  refine ⟨⟨agrees.active, by simp [status]⟩, ?_⟩
  have seen : peer.see tx.config (.heard f .frame) =
      peer.grant (blockSizeOf tx.config f) (stminOf tx.config f) := by
    simp only [Peer.see, status, if_true]
    rfl
  rw [seen]
  exact {
    active := agrees.active
    running := by simp [continueToSend]
    unconfirmed := agrees.unconfirmed.trans (by simp [continueToSend, awaiting])
    consecutive := by simp [continueToSend]
    waits := rfl
    reserved := by simp only [continueToSend, Peer.grant, agrees.reserved, stminOf]
    sentCf := agrees.sentCf
    lastCf := agrees.lastCf
    granted := fun _ => ⟨rfl, continueToSend_separation agrees f paddingError,
      peer.grant_short _ _⟩
    counted := ⟨0, rfl, by simp [Peer.grant, Tx.awaitsCf, continueToSend]⟩
    room := fun _ => by
      by_cases unlimited : blockSizeOf tx.config f = 0
      · exact .inl unlimited
      · exact .inr (UInt8.pos_iff_ne_zero.mpr unlimited)
    inside := by simp [Tx.awaitsCf, continueToSend]
    due := fun _ => continueToSend_due agrees f paddingError
    fresh := by simp [continueToSend]
    started := fun _ => agrees.started (by simp [awaiting])
    left := fun _ => agrees.left (by simp [awaiting]) }

/-- A wait within the limit is tolerated. -/
theorem Agrees.waited_step (agrees : Agrees tx peer time) (f : CanFrame) (paddingError : Bool)
    (deadlineUs : Time) (awaiting : tx.state = .fc) (status : flowStatusOf tx.config f = 1)
    (tolerated : tx.waitCount < tx.config.waitLimit.toNat) :
    peer.Allows tx.config (.heard f .frame) ∧
      Agrees { tx with waitCount := tx.waitCount + 1, paddingError, deadlineUs }
        (peer.see tx.config (.heard f .frame)) time := by
  rw [agrees.waits] at tolerated
  refine ⟨⟨agrees.active, by simp [status, tolerated]⟩, ?_⟩
  have seen : peer.see tx.config (.heard f .frame) = { peer with waits := peer.waits + 1 } := by
    simp only [Peer.see, status]
    rfl
  rw [seen]
  exact { agrees with
    waits := by simp [agrees.waits]
    granted := by simp [Tx.awaitsCf, awaiting]
    counted := agrees.counted
    room := by simp [awaiting]
    inside := agrees.inside
    due := by simp [awaiting] }

/-- A flow control that ends the transfer is one that the observer lets end it. -/
theorem Agrees.refused_allowed (agrees : Agrees tx peer time) {f : CanFrame} {rc : Result}
    (other : flowStatusOf tx.config f ≠ 0)
    (limit : flowStatusOf tx.config f = 1 → tx.config.waitLimit.toNat ≤ tx.waitCount)
    (which : rc = if flowStatusOf tx.config f = 1 then .errWaitLimit
      else if flowStatusOf tx.config f = 2 then .errOverflow else .errFlowStatus) :
    peer.Allows tx.config (.heard f rc) := by
  refine ⟨agrees.active, ?_⟩
  rw [which, if_neg other]
  by_cases wait : flowStatusOf tx.config f = 1
  · have used := limit wait
    rw [agrees.waits] at used
    rw [if_pos wait, if_pos wait, if_neg (by omega)]
  · rw [if_neg wait, if_neg wait]

end Agreement

/-! ## The payload in the frames -/

section Payload

variable {c : Config} {payload : List UInt8}

/-- The endpoint that `c` talks to. -/
def mirror (c : Config) : Config :=
  { c with
    txId := c.rxId
    rxId := c.txId
    txAddress := c.rxAddress
    rxAddress := c.txAddress }

theorem mirrored_mirror (c : Config) : Mirrored c (mirror c) where
  txId := rfl
  rxId := rfl
  extendedAddress := rfl
  txAddress := rfl
  rxAddress := rfl

theorem nextControl_controlAt {offset index : Nat} (first : index = 0 ↔ offset = 0) :
    (nextControl (sentUpTo c payload offset (sequenceAt index))).1 =
      controlAt c payload index := by
  unfold controlAt sequenceAt
  by_cases start : index = 0
  · rw [if_pos start, if_pos start, first.mp start]
    split
    case isTrue single => exact nextControl_single _ single
    case isFalse several => exact nextControl_first _ (by omega)
  · rw [if_neg start, if_neg start]
    exact nextControl_consecutive _ fun zero => start (first.mpr zero)

theorem frameAt_carries_controlAt {offset index : Nat} (first : index = 0 ↔ offset = 0)
    (left : offset < payload.length) :
    Carries c.addressLength (frameAt c payload offset (sequenceAt index))
      (controlAt c payload index) (slice payload offset (sizeAt c payload.length offset)) := by
  have carries := frameAt_carries (sequenceAt index) (mirrored_mirror c) left
  rw [nextControl_controlAt first] at carries
  exact carries

theorem sequence_nibble (index : Nat) :
    (UInt8.ofNat (index % 16)) &&& 0x0f = UInt8.ofNat (index % 16) ∧
      (UInt8.ofNat (index % 16) + 1) &&& 0x0f = UInt8.ofNat ((index + 1) % 16) := by
  have all : ∀ count < 16, (UInt8.ofNat count) &&& 0x0f = UInt8.ofNat count ∧
      (UInt8.ofNat count + 1) &&& 0x0f = UInt8.ofNat ((count + 1) % 16) := by decide
  have next := all (index % 16) (Nat.mod_lt _ (by decide))
  rwa [Nat.mod_add_mod] at next

/-- A frame is a consecutive frame exactly when it is not the first. -/
theorem kindOf_frameAt {offset index : Nat} (first : index = 0 ↔ offset = 0)
    (left : offset < payload.length) (small : payload.length ≤ isotpMaxPayload) :
    kindOf c (frameAt c payload offset (sequenceAt index)) = 2 ↔ offset ≠ 0 := by
  have carries := (frameAt_carries_controlAt (c := c) first left).controls
  have kind : kindOf c (frameAt c payload offset (sequenceAt index)) =
      (controlAt c payload index).headD 0 >>> 4 := by
    have head : 0 < (controlAt c payload index).length := by
      rw [← nextControl_controlAt first]
      exact List.length_pos_iff.mpr (nextControl_ne_nil _)
    have control := carries 0 head
    rw [Nat.add_zero] at control
    rw [kindOf, control, List.getElem_zero, List.headD_eq_head?_getD, List.head?_eq_some_head,
      Option.getD_some]
  rw [kind, ← not_iff_not, not_not, ← first]
  unfold controlAt
  by_cases start : index = 0
  · rw [if_pos start]
    refine iff_of_true ?_ start
    split
    case isTrue single =>
      rw [List.headD_cons, (singleFrame_control (by omega)).1]
      decide
    case isFalse several =>
      rw [List.headD_cons, (firstFrame_control small).1]
      decide
  · rw [if_neg start]
    refine iff_of_false (fun other => other ?_) start
    rw [List.headD_cons]
    exact (consecutiveFrame_control (sequence_nibble index).1).1

theorem sequenceAt_succ {index : Nat} (later : index ≠ 0) :
    (sequenceAt index + 1) &&& 0x0f = sequenceAt (index + 1) := by
  rw [sequenceAt, sequenceAt, if_neg later, if_neg index.succ_ne_zero]
  exact (sequence_nibble index).2

variable {tx : Tx} {frames : List CanFrame}

/-- The next frame carries the next chunk. -/
theorem Position.sent {deadlineUs : Time} (position : Position c payload tx frames)
    (left : tx.offset < payload.length) :
    Position c payload
      { tx with
        pendingCf := tx.offset ≠ 0
        sequence := if tx.offset ≠ 0 then (tx.sequence + 1) &&& 0x0f else tx.sequence
        offset := tx.offset + sizeAt tx.config tx.total tx.offset
        state := .confirm
        deadlineUs }
      (frames ++ [frameAt tx.config tx.buffer tx.offset tx.sequence]) := by
  obtain ⟨chunks, segments, sofar⟩ := position.segments
  obtain ⟨some_bytes, fits⟩ := sizeAt_bounds c left
  have taken : chunks.flatten.length = tx.offset := by
    rw [sofar, List.length_take, Nat.min_eq_left position.offset_le]
  have size : (slice payload tx.offset (sizeAt c payload.length tx.offset)).length =
      sizeAt c payload.length tx.offset := length_slice fits
  refine ⟨position.config, position.buffer, position.total, position.small, ?_, ?_, ?_, ?_⟩
  · rw [position.config, position.total]
    exact fits
  · refine ⟨chunks ++ [slice payload tx.offset (sizeAt c payload.length tx.offset)],
      segments.snoc ?_ ?_ ?_, ?_⟩
    · rw [position.config, position.buffer, position.sequence]
      exact frameAt_carries_controlAt position.first left
    · rw [← List.length_pos_iff, size]
      exact some_bytes
    · rw [size, taken]
    · rw [List.flatten_append, sofar, List.flatten_singleton, position.config, position.total,
        take_append_slice]
  · rw [position.config, position.total]
    simp only [List.length_append, List.length_singleton]
    omega
  · rw [List.length_append, List.length_singleton, position.sequence]
    by_cases start : tx.offset = 0
    · rw [if_neg (not_not.mpr start), position.first.mpr start]
      rfl
    · rw [if_pos start, sequenceAt_succ fun zero => start (position.first.mp zero)]

end Payload

/-! ## Every run -/

section Runs

variable {c : Config} {payload : List UInt8} {s : Session}

/-- Nothing happens after the end. -/
theorem call_of_idle {tx : Tx} (idle : tx.state = .idle) (time : Nat) (made : Call) :
    call tx time made = (tx, []) := by
  have checked : txCheckTimeout tx (.ofNat time) = (.ok, tx) := by simp [txCheckTimeout, idle]
  cases made with
  | next => simp [call, txNext, checked, idle, ending, Result.isError, Result.code]
  | confirm success => simp [call, txConfirm, idle]
  | flowControl f => simp [call, txFlowControl, checked, idle]
  | checkTimeout => simp [call, checked, ending]

/-- What a position is about. -/
def Tx.cursor (tx : Tx) : Config × List UInt8 × Nat × Nat × UInt8 :=
  (tx.config, tx.buffer, tx.total, tx.offset, tx.sequence)

theorem cursor_confirmedTx (tx : Tx) (nowUs : Time) :
    Tx.cursor (confirmedTx tx nowUs) = Tx.cursor tx := by
  unfold confirmedTx
  dsimp only
  split <;> split <;> rfl

/-- Events that send nothing leave the position as it is. -/
theorem Position.keep {tx next : Tx} {log events : List Event}
    (position : Position c payload tx (framesOf log)) (silent : framesOf events = [])
    (same : Tx.cursor next = Tx.cursor tx) :
    Position c payload next (framesOf (log ++ events)) := by
  simp only [Tx.cursor, Prod.mk.injEq] at same
  obtain ⟨config, buffer, total, offset, sequence⟩ := same
  obtain ⟨config', buffer', total', small, offset_le, segments, first, sequence'⟩ := position
  rw [framesOf_append, silent, List.append_nil]
  rw [← offset] at offset_le segments first
  exact ⟨config.trans config', buffer.trans buffer', total.trans total', small, offset_le,
    segments, first, sequence.trans sequence'⟩

/-- Whatever one call does, the log stays obedient and the sender in agreement with its observer. -/
theorem Session.Sound.of_outcome {tx next : Tx} {time : Nat} {log events : List Event}
    (obedient : ObeysPeer c log) (position : Position c payload tx (framesOf log))
    (agrees : Agrees tx (Peer.after c log) time) (outcome : Outcome tx time next events) :
    Session.Sound c payload { tx := next, now := time, log := log ++ events } := by
  obtain rfl := position.config
  have ended : ∀ {next : Tx} {log : List Event}, next.state = .idle →
      next.state ≠ .idle → Agrees next (Peer.after tx.config log) time :=
    fun idle running => absurd idle running
  cases outcome with
  | quiet => exact ⟨by simpa using obedient, position.keep rfl rfl, fun _ => by simpa using agrees⟩
  | failed rc running =>
      exact ⟨obedient.concat agrees.active, position.keep rfl rfl, ended rfl⟩
  | sent due deadlineUs =>
      have left : tx.offset < payload.length := by
        rw [← position.total]
        refine agrees.left ?_
        rcases due with ready | ⟨cf, _⟩ <;> simp [*]
      have kind := kindOf_frameAt (c := tx.config) position.first left position.small
      have some_bytes := (sizeAt_bounds tx.config left).1
      rw [← position.sequence, ← position.buffer] at kind
      rw [← position.total] at some_bytes
      obtain ⟨allowed, next⟩ := agrees.sent deadlineUs _ due kind some_bytes
      refine ⟨obedient.concat allowed, ?_, fun _ => ?_⟩
      · rw [framesOf_append]
        exact position.sent left
      · rw [Peer.after_concat]
        exact next
  | completed awaiting =>
      have unconfirmed : (Peer.after tx.config log).unconfirmed = true := by
        simp [agrees.unconfirmed, awaiting]
      have confirmed : ObeysPeer tx.config (log ++ [.confirmed time]) :=
        obedient.concat ⟨agrees.active, unconfirmed⟩
      have finished : (Peer.after tx.config (log ++ [.confirmed time])).finished = false := by
        rw [Peer.after_concat]
        exact agrees.active
      have completed : ObeysPeer tx.config (log ++ [.confirmed time] ++ [.ended .complete]) :=
        confirmed.concat finished
      rw [List.append_assoc] at completed
      exact ⟨completed, position.keep rfl rfl, ended rfl⟩
  | confirmed awaiting left =>
      have unconfirmed : (Peer.after tx.config log).unconfirmed = true := by
        simp [agrees.unconfirmed, awaiting]
      have inside : tx.offset < tx.total := by
        have := position.offset_le
        have := position.total
        omega
      refine ⟨obedient.concat ⟨agrees.active, unconfirmed⟩,
        position.keep rfl (cursor_confirmedTx tx _), fun _ => ?_⟩
      rw [Peer.after_concat]
      exact agrees.confirmed tx.config awaiting inside
  | granted f paddingError awaiting status =>
      obtain ⟨allowed, next⟩ := agrees.granted_step f paddingError awaiting status
      refine ⟨obedient.concat allowed, position.keep rfl rfl, fun _ => ?_⟩
      rw [Peer.after_concat]
      exact next
  | waited f paddingError deadlineUs awaiting status tolerated =>
      obtain ⟨allowed, next⟩ :=
        agrees.waited_step f paddingError deadlineUs awaiting status tolerated
      refine ⟨obedient.concat allowed, position.keep rfl rfl, fun _ => ?_⟩
      rw [Peer.after_concat]
      exact next
  | refused f rc paddingError waitCount awaiting other limit which =>
      exact ⟨obedient.concat (agrees.refused_allowed other limit which), position.keep rfl rfl,
        ended rfl⟩

theorem Session.Sound.step (sound : s.Sound c payload) (input : Nat × Call) :
    (s.step input).Sound c payload := by
  obtain ⟨obedient, position, agrees⟩ := sound
  by_cases idle : s.tx.state = .idle
  · have still := call_of_idle idle (s.now + input.1) input.2
    have stepped : s.step input = { s with now := s.now + input.1 } := by
      simp only [Session.step, still, List.append_nil]
    rw [stepped]
    exact ⟨obedient, position, fun running => absurd idle running⟩
  · exact .of_outcome obedient position ((agrees idle).later (Nat.le_add_right s.now input.1))
      (call_outcome (position.total.trans (congrArg _ position.buffer.symm)) _ input.2)

/-- A transfer starts in agreement with an observer that has seen nothing. -/
theorem sound_of_started {tx : Tx} {now : Nat}
    (started : (txStart tx payload (.ofNat now)).1 = .ok) :
    Session.Sound tx.config payload { tx := (txStart tx payload (.ofNat now)).2, now } := by
  unfold txStart at started ⊢
  split_ifs at started ⊢ with refused busy
  simp only [Bool.or_eq_true, decide_eq_true_eq, not_or, Nat.not_lt] at refused
  have some_bytes : 0 < payload.length := Nat.pos_of_ne_zero refused.1.1
  refine ⟨.nil, ⟨rfl, rfl, rfl, refused.1.2, Nat.zero_le _, ⟨[], .nil, rfl⟩, by simp [framesOf],
    rfl⟩, fun _ => ?_⟩
  exact {
    active := rfl
    running := by simp
    unconfirmed := rfl
    consecutive := by simp
    waits := rfl
    reserved := rfl
    sentCf := rfl
    lastCf := by simp [Peer.after]
    granted := by simp [Tx.awaitsCf]
    counted := ⟨0, rfl, rfl⟩
    room := by simp
    inside := by simp [Tx.awaitsCf]
    due := by simp
    fresh := by simp
    started := by simp
    left := fun _ => some_bytes }

/-- Every transfer obeys its peer: the frames that were sent carry a prefix of the payload without
gaps or repetitions, each under the control bytes and sequence number of its position, and every
event, whatever was called and when, is one that the peer allows. -/
theorem transfer_obeys_peer (tx : Tx) (payload : List UInt8) (now : Nat)
    (calls : List (Nat × Call)) (started : (txStart tx payload (.ofNat now)).1 = .ok) :
    (∃ chunks, Segments tx.config payload (framesOf (transfer tx payload now calls).log) chunks ∧
      chunks.flatten <+: payload) ∧
      ObeysPeer tx.config (transfer tx payload now calls).log := by
  have sound : (transfer tx payload now calls).Sound tx.config payload :=
    run_invariant (Session.Sound tx.config payload) (fun _ input sound => sound.step input)
      (sound_of_started started) calls
  obtain ⟨chunks, segments, sofar⟩ := sound.position.segments
  exact ⟨⟨chunks, segments, sofar ▸ List.take_prefix _ _⟩, sound.obedient⟩

/-- A flow control frame of the peer at `0x7e8`. -/
private def peerFrame (bytes : List UInt8) : CanFrame :=
  { id := 0x7e8, dlc := 8, data := (Block.fill 8 0).store 0 bytes }

/-- A transfer across the wrap of the clock: one wait, then a block of one frame, then one of any
size with a separation of 10 milliseconds that the first request comes too early for. -/
private def exampleCalls : List (Nat × Call) :=
  [(0, .next), (50, .confirm true), (100, .flowControl (peerFrame [0x31])),
    (100, .flowControl (peerFrame [0x30, 1, 5])), (10, .next), (80, .confirm true),
    (700, .flowControl (peerFrame [0x30, 0, 10])), (5000, .next), (5000, .next),
    (60, .confirm true)]

theorem transfer_obeys_peer_across_blocks :
    let tx : Tx := { config := configDefault 0x7e0 0x7e8 }
    let log := (transfer tx (List.replicate 20 0xa5) 4294967200 exampleCalls).log
    (∃ chunks, Segments tx.config (List.replicate 20 0xa5) (framesOf log) chunks ∧
        chunks.flatten <+: List.replicate 20 0xa5) ∧
      ObeysPeer tx.config log ∧ (framesOf log).length = 3 ∧
      log.getLast? = some (.ended .complete) := by
  intro tx log
  obtain ⟨carried, obedient⟩ := transfer_obeys_peer tx (List.replicate 20 0xa5) 4294967200
    exampleCalls (by decide +kernel)
  exact ⟨carried, obedient, by decide +kernel, by decide +kernel⟩

end Runs

end OpenDiag.Isotp.Pacing
