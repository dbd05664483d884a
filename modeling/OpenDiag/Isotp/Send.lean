import OpenDiag.Isotp.Basic

/-!
# The ISO-TP sender

`isotp_tx_init`, `isotp_tx_start`, `isotp_tx_check_timeout`, `isotp_tx_flow_control`,
`isotp_tx_next` and `isotp_tx_confirm`. The sender holds the payload behind its borrowed pointer.
-/

namespace OpenDiag.Isotp

/-- `isotp_tx_state_t`. -/
inductive TxState where
  | idle
  | ready
  | confirm
  | fc
  | cf
  deriving DecidableEq, Repr

/-- `isotp_tx_t`. -/
structure Tx where
  config : Config
  buffer : List UInt8 := []
  state : TxState := .idle
  deadlineUs : Time := 0
  nextUs : Time := 0
  lastCfUs : Time := 0
  separationUs : Time := 0
  total : Nat := 0
  offset : Nat := 0
  waitCount : Nat := 0
  sequence : UInt8 := 0
  blockSize : UInt8 := 0
  blockCount : UInt8 := 0
  sentCf : Bool := false
  pendingCf : Bool := false
  reservedStmin : Bool := false
  paddingError : Bool := false
  deriving DecidableEq, Repr

/-- `isotp_tx_init`: a refused configuration leaves the sender as it was. -/
def txInit (tx : Tx) (config : Config) : Result × Tx :=
  if !validConfig config then (.errArgument, tx) else (.ok, { config })

/-- `isotp_tx_start`; `data` is the `length` bytes behind the pointer. -/
def txStart (tx : Tx) (data : List UInt8) (nowUs : Time) : Result × Tx :=
  if data.length = 0 || data.length > isotpMaxPayload ||
      (tx.config.functional && data.length > 7 - tx.config.addressLength) then
    (.errArgument, tx)
  else if tx.state ≠ .idle then (.errBusy, tx)
  else
    (.ok, { tx with
      buffer := data
      total := data.length
      offset := 0
      sequence := 1
      waitCount := 0
      blockCount := 0
      sentCf := false
      reservedStmin := false
      paddingError := false
      state := .ready
      deadlineUs := nowUs + tx.config.timeoutAUs })

def txCheckTimeout (tx : Tx) (nowUs : Time) : Result × Tx :=
  if tx.state = .idle || tx.state = .cf || !expired nowUs tx.deadlineUs then (.ok, tx)
  else
    (if tx.state = .fc then .errTimeoutBs else .errTimeoutA, { tx with state := .idle })

/-- A continue-to-send: the peer's block size and separation apply from now on. -/
def continueToSend (tx : Tx) (f : CanFrame) (nowUs : Time) : Tx :=
  let a := tx.config.addressLength
  let stmin := f.data.read (a + 2)
  let reservedStmin := tx.reservedStmin || !validStmin stmin
  let separationUs := if reservedStmin then 127000 else stminUs stmin
  { tx with
    blockSize := f.data.read (a + 1)
    reservedStmin
    separationUs
    blockCount := 0
    waitCount := 0
    -- the separation applies across block boundaries too
    nextUs := if tx.sentCf && !expired nowUs (tx.lastCfUs + separationUs) then
        tx.lastCfUs + separationUs
      else nowUs
    state := .cf }

def txFlowControl (tx : Tx) (f : CanFrame) (nowUs : Time) : Result × Tx :=
  let (rc, tx) := txCheckTimeout tx nowUs
  if rc.isError then (rc, tx)
  else
    let a := tx.config.addressLength
    if tx.state ≠ .fc || !matchesFrame tx.config f || f.dlc < a + 3 ||
        f.data.read a >>> 4 ≠ 3 then (.ignored, tx)
    else
      let fs := f.data.read a &&& 0x0f
      let tx := { tx with paddingError := tx.paddingError || f.dlc < 8 }
      if fs = 0 then (.frame, continueToSend tx f nowUs)
      else
        let tx := if fs = 1 then { tx with waitCount := tx.waitCount + 1 } else tx
        if fs = 1 && tx.waitCount ≤ tx.config.waitLimit.toNat then
          (.frame, { tx with deadlineUs := nowUs + tx.config.timeoutBsUs })
        else
          (if fs = 1 then .errWaitLimit else if fs = 2 then .errOverflow else .errFlowStatus,
            { tx with state := .idle })

/-- The control bytes of the next frame and the number of payload bytes behind them. -/
def nextControl (tx : Tx) : List UInt8 × Nat :=
  let a := tx.config.addressLength
  if tx.offset = 0 && tx.total ≤ 7 - a then ([UInt8.ofNat tx.total], tx.total)
  else if tx.offset = 0 then
    ([(0x10 : UInt8) ||| UInt8.ofNat (tx.total >>> 8), UInt8.ofNat (tx.total &&& 0xff)], 6 - a)
  else
    let size := tx.total - tx.offset
    ([0x20 ||| tx.sequence], if size > 7 - a then 7 - a else size)

/-- The frame that carries the next `size` payload bytes behind `control`. -/
def nextFrame (tx : Tx) (control : List UInt8) (size : Nat) : CanFrame :=
  let a := tx.config.addressLength
  let start := a + control.length
  let f := prepare tx.config
  { f with
    data := (f.data.store a control).store start (slice tx.buffer tx.offset size)
    dlc := if tx.config.pad then 8 else start + size }

/-- `isotp_tx_next`: a frame only when one is due. -/
def txNext (tx : Tx) (nowUs : Time) : Result × Tx × Option CanFrame :=
  let (rc, tx) := txCheckTimeout tx nowUs
  if rc.isError then (rc, tx, none)
  else if tx.state ≠ .ready && tx.state ≠ .cf then (.ignored, tx, none)
  else if tx.state = .cf && !expired nowUs tx.nextUs then (.ignored, tx, none)
  else
    let (control, size) := nextControl tx
    (.frame,
      { tx with
        pendingCf := tx.offset ≠ 0
        sequence := if tx.offset ≠ 0 then (tx.sequence + 1) &&& 0x0f else tx.sequence
        offset := tx.offset + size
        state := .confirm
        deadlineUs := nowUs + tx.config.timeoutAUs },
      some (nextFrame tx control size))

def txConfirm (tx : Tx) (success : Bool) (nowUs : Time) : Result × Tx :=
  if tx.state ≠ .confirm then (.errArgument, tx)
  else
    let (rc, tx) := txCheckTimeout tx nowUs
    if rc.isError then (rc, tx)
    else if !success then (.errSend, { tx with state := .idle })
    else if tx.offset = tx.total then (.complete, { tx with state := .idle })
    else
      let tx := if tx.pendingCf then
          { tx with sentCf := true, lastCfUs := nowUs, blockCount := tx.blockCount + 1 }
        else tx
      if !tx.pendingCf || (tx.blockSize ≠ 0 && tx.blockCount = tx.blockSize) then
        (.ok, { tx with state := .fc, deadlineUs := nowUs + tx.config.timeoutBsUs })
      else (.ok, { tx with state := .cf, nextUs := nowUs + tx.separationUs })

/-- A timeout check either changes nothing or aborts the transfer with an error. -/
theorem txCheckTimeout_cases (tx : Tx) (nowUs : Time) :
    txCheckTimeout tx nowUs = (.ok, tx) ∨
      (tx.state ≠ .idle ∧ tx.state ≠ .cf ∧ expired nowUs tx.deadlineUs = true ∧
        ∃ rc : Result, (rc = .errTimeoutA ∨ rc = .errTimeoutBs) ∧
          txCheckTimeout tx nowUs = (rc, { tx with state := .idle })) := by
  unfold txCheckTimeout
  split
  · exact Or.inl rfl
  case isFalse live =>
    simp only [Bool.or_eq_true, decide_eq_true_eq, Bool.not_eq_true', not_or,
      Bool.not_eq_false] at live
    refine Or.inr ⟨live.1.1, live.1.2, live.2, _, ?_, rfl⟩
    split
    · exact Or.inr rfl
    · exact Or.inl rfl

/-- A check that reports nothing changes nothing. -/
theorem txCheckTimeout_of_ok {tx : Tx} {nowUs : Time}
    (punctual : (txCheckTimeout tx nowUs).1 = .ok) : txCheckTimeout tx nowUs = (.ok, tx) := by
  rcases txCheckTimeout_cases tx nowUs with fresh | ⟨_, _, _, rc, which, timeout⟩
  · exact fresh
  · rw [timeout] at punctual
    rcases which with rfl | rfl <;> cases punctual

/-- A frame that is due is to be confirmed. -/
theorem txNext_state {tx : Tx} {nowUs : Time} {f : CanFrame}
    (due : (txNext tx nowUs).2.2 = some f) : (txNext tx nowUs).2.1.state = .confirm := by
  unfold txNext at due ⊢
  dsimp only at due ⊢
  split_ifs at due ⊢ <;> rfl

/-- A frame that fails the transfer leaves the sender idle. -/
theorem txFlowControl_state {tx : Tx} {f : CanFrame} {nowUs : Time}
    (failed : (txFlowControl tx f nowUs).1.isError = true) :
    (txFlowControl tx f nowUs).2.state = .idle := by
  rcases txCheckTimeout_cases tx nowUs with fresh | ⟨_, _, _, rc, which, timeout⟩
  · unfold txFlowControl at failed ⊢
    simp only [fresh, Result.isError_ok, Bool.false_eq_true, if_false] at failed ⊢
    split_ifs at failed ⊢ <;> first | rfl | cases failed
  · rcases which with rfl | rfl <;> simp [txFlowControl, timeout, Result.isError, Result.code]

/-- A sender that waits for a confirmation, and not too long, does not listen. -/
theorem txFlowControl_of_confirm {tx : Tx} {f : CanFrame} {nowUs : Time}
    (waits : tx.state = .confirm) (fresh : expired nowUs tx.deadlineUs = false) :
    txFlowControl tx f nowUs = (.ignored, tx) := by
  have checked : txCheckTimeout tx nowUs = (.ok, tx) := by simp [txCheckTimeout, fresh]
  simp [txFlowControl, checked, waits]

end OpenDiag.Isotp
