import OpenDiag.Isotp.Basic

/-!
# The ISO-TP receiver

`isotp_rx_init`, `isotp_rx_check_timeout`, `isotp_rx_feed`, `isotp_rx_flow_control` and
`isotp_rx_confirm`. The receiver holds the memory behind its buffer pointer; `none` is the null
pointer, which selects streaming. `isotp_rx_feed` is cut at its three exits into the start of a
reception (single and first frames), its continuation (consecutive frames), and the copy both make.
-/

namespace OpenDiag.Isotp

/-- `isotp_rx_state_t`. -/
inductive RxState where
  | idle
  | fcReady
  | fcConfirm
  | cf
  deriving DecidableEq, Repr

/-- `isotp_segment_t`. -/
structure Segment where
  data : List UInt8 := []
  length : Nat := 0
  offset : Nat := 0
  total : Nat := 0
  started : Bool := false
  complete : Bool := false
  replaced : Bool := false
  paddingError : Bool := false
  deriving DecidableEq, Repr

/-- `isotp_rx_t`. -/
structure Rx where
  config : Config
  buffer : Option (List UInt8)
  capacity : Nat
  state : RxState := .idle
  deadlineUs : Time := 0
  total : Nat := 0
  offset : Nat := 0
  sequence : UInt8 := 0
  blockCount : UInt8 := 0
  flowStatus : UInt8 := 0
  paddingError : Bool := false
  deriving DecidableEq, Repr

/-- `isotp_rx_init`: a refused configuration leaves the receiver as it was. -/
def rxInit (rx : Rx) (config : Config) (buffer : Option (List UInt8)) (capacity : Nat) :
    Result × Rx :=
  if !validConfig config then (.errArgument, rx)
  else (.ok, { config, buffer, capacity })

def rxCheckTimeout (rx : Rx) (nowUs : Time) : Result × Rx :=
  if rx.state = .idle || !expired nowUs rx.deadlineUs then (.ok, rx)
  else
    (if rx.state = .cf then .errTimeoutCr else .errTimeoutA, { rx with state := .idle })

/-- `segment_copy`; `data` is the `length` bytes behind the pointer. -/
def segmentCopy (rx : Rx) (s : Segment) (data : List UInt8) : Rx × Segment :=
  let offset := rx.offset + data.length
  ({ rx with buffer := rx.buffer.map (overwrite · rx.offset data), offset },
    { s with
      data
      length := data.length
      offset := rx.offset
      total := rx.total
      paddingError := rx.paddingError
      complete := offset == rx.total })

/-- A single or first frame of `size` bytes replaces whatever was being received. -/
def rxStart (rx : Rx) (f : CanFrame) (nowUs : Time) (first : Bool) (size : Nat) :
    Result × Rx × Segment :=
  let a := rx.config.addressLength
  let s : Segment := { replaced := rx.state ≠ .idle }
  let rx := { rx with state := .idle, offset := 0, total := size, paddingError := f.dlc < 8 }
  if size > rx.capacity then
    if first then
      (.errOverflow, { rx with
        flowStatus := 2
        state := .fcReady
        deadlineUs := nowUs + rx.config.timeoutAUs }, s)
    else (.errOverflow, rx, s)
  else
    let s := { s with started := true }
    if !first then
      (.complete, segmentCopy rx s (f.data.load (a + 1) size))
    else
      let rx := { rx with
        sequence := 1
        blockCount := 0
        flowStatus := 0
        state := .fcReady
        deadlineUs := nowUs + rx.config.timeoutAUs }
      (.frame, segmentCopy rx s (f.data.load (a + 2) (6 - a)))

/-- A consecutive frame while one is awaited: `size` is what it must carry. -/
def rxContinue (rx : Rx) (f : CanFrame) (nowUs : Time) : Result × Rx × Segment :=
  let a := rx.config.addressLength
  let s : Segment := {}
  let remaining := rx.total - rx.offset
  let size := if remaining < 7 - a then remaining else 7 - a
  if f.dlc < a + 1 + size then (.ignored, rx, s)
  else if f.data.read a &&& 0x0f ≠ rx.sequence then (.errSequence, { rx with state := .idle }, s)
  else
    let rx := { rx with paddingError := rx.paddingError || f.dlc < 8 }
    let (rx, s) := segmentCopy rx s (f.data.load (a + 1) size)
    let rx := { rx with sequence := (rx.sequence + 1) &&& 0x0f }
    if s.complete then (.complete, { rx with state := .idle }, s)
    else
      let rx := { rx with deadlineUs := nowUs + rx.config.timeoutCrUs }
      if rx.config.blockSize ≠ 0 then
        let rx := { rx with blockCount := rx.blockCount + 1 }
        if rx.blockCount = rx.config.blockSize then
          (.frame, { rx with
            blockCount := 0
            state := .fcReady
            deadlineUs := nowUs + rx.config.timeoutAUs }, s)
        else (.frame, rx, s)
      else (.frame, rx, s)

/-- The frame type in the high half of the control byte. -/
def frameType (c : Config) (f : CanFrame) : UInt8 :=
  f.data.read c.addressLength >>> 4

/-- The length in a single frame's control byte. -/
def singleFrameSize (c : Config) (f : CanFrame) : Nat :=
  (f.data.read c.addressLength &&& 0x0f).toNat

/-- The length in a first frame's two control bytes. -/
def firstFrameSize (c : Config) (f : CanFrame) : Nat :=
  (f.data.read c.addressLength &&& 0x0f).toNat * 256 + (f.data.read (c.addressLength + 1)).toNat

def rxFeed (rx : Rx) (f : CanFrame) (nowUs : Time) : Result × Rx × Segment :=
  let (rc, rx) := rxCheckTimeout rx nowUs
  if rc.isError then (rc, rx, {})
  else if !matchesFrame rx.config f then (.ignored, rx, {})
  else
    let a := rx.config.addressLength
    if frameType rx.config f = 0 then
      let size := singleFrameSize rx.config f
      if size = 0 || size > f.dlc - a - 1 then (.ignored, rx, {})
      else rxStart rx f nowUs false size
    else if frameType rx.config f = 1 then
      let size := firstFrameSize rx.config f
      if rx.config.functional || f.dlc ≠ 8 || size ≤ 7 - a then (.ignored, rx, {})
      else rxStart rx f nowUs true size
    else if frameType rx.config f ≠ 2 || rx.state ≠ .cf then (.ignored, rx, {})
    else rxContinue rx f nowUs

/-- The flow-control frame that answers the reception in progress. -/
def flowControlFrame (rx : Rx) : CanFrame :=
  let a := rx.config.addressLength
  let f := prepare rx.config
  { f with
    data := f.data.store a [0x30 ||| rx.flowStatus, rx.config.blockSize, rx.config.stmin]
    dlc := if rx.config.pad then 8 else a + 3 }

/-- `isotp_rx_flow_control`: takes the pending flow control, once. -/
def rxFlowControl (rx : Rx) (nowUs : Time) : Result × Rx × Option CanFrame :=
  let (rc, rx) := rxCheckTimeout rx nowUs
  if rc.isError || rx.state ≠ .fcReady then (rc, rx, none)
  else
    (.frame,
      { rx with state := .fcConfirm, deadlineUs := nowUs + rx.config.timeoutAUs },
      some (flowControlFrame rx))

def rxConfirm (rx : Rx) (success : Bool) (nowUs : Time) : Result × Rx :=
  if rx.state ≠ .fcConfirm then (.errArgument, rx)
  else
    let (rc, rx) := rxCheckTimeout rx nowUs
    if rc.isError then (rc, rx)
    else if !success || rx.flowStatus = 2 then
      (if success then .ok else .errSend, { rx with state := .idle })
    else (.ok, { rx with state := .cf, deadlineUs := nowUs + rx.config.timeoutCrUs })

/-! ## What each operation can do -/

section Outcomes

variable {rx : Rx} {nowUs : Time}

/-- A timeout check either changes nothing or aborts the reception with an error. -/
theorem rxCheckTimeout_cases (rx : Rx) (nowUs : Time) :
    rxCheckTimeout rx nowUs = (.ok, rx) ∨
      (rx.state ≠ .idle ∧ expired nowUs rx.deadlineUs = true ∧
        ∃ rc : Result, (rc = .errTimeoutA ∨ rc = .errTimeoutCr) ∧
          rxCheckTimeout rx nowUs = (rc, { rx with state := .idle })) := by
  unfold rxCheckTimeout
  split
  · exact Or.inl rfl
  case isFalse live =>
    simp only [Bool.or_eq_true, decide_eq_true_eq, Bool.not_eq_true', not_or,
      Bool.not_eq_false] at live
    refine Or.inr ⟨live.1, live.2, _, ?_, rfl⟩
    split
    · exact Or.inr rfl
    · exact Or.inl rfl

theorem rxCheckTimeout_restates (rx : Rx) (nowUs : Time) :
    ∃ state deadlineUs, (rxCheckTimeout rx nowUs).2 = { rx with state, deadlineUs } := by
  rcases rxCheckTimeout_cases rx nowUs with fresh | ⟨_, _, rc, _, timeout⟩
  · exact ⟨rx.state, rx.deadlineUs, by rw [fresh]⟩
  · exact ⟨.idle, rx.deadlineUs, by rw [timeout]⟩

/-- Taking the flow control moves only the state and its deadline. -/
theorem rxFlowControl_restates (rx : Rx) (nowUs : Time) :
    ∃ state deadlineUs, (rxFlowControl rx nowUs).2.1 = { rx with state, deadlineUs } := by
  obtain ⟨state, deadlineUs, checked⟩ := rxCheckTimeout_restates rx nowUs
  simp only [rxFlowControl]
  split
  · exact ⟨state, deadlineUs, checked⟩
  · exact ⟨.fcConfirm, nowUs + rx.config.timeoutAUs, by rw [checked]⟩

/-- Confirming the flow control moves only the state and its deadline. -/
theorem rxConfirm_restates (rx : Rx) (success : Bool) (nowUs : Time) :
    ∃ state deadlineUs, (rxConfirm rx success nowUs).2 = { rx with state, deadlineUs } := by
  obtain ⟨state, deadlineUs, checked⟩ := rxCheckTimeout_restates rx nowUs
  simp only [rxConfirm]
  split
  · exact ⟨rx.state, rx.deadlineUs, rfl⟩
  · split
    · exact ⟨state, deadlineUs, checked⟩
    · split
      · exact ⟨.idle, deadlineUs, by rw [checked]⟩
      · exact ⟨.cf, nowUs + rx.config.timeoutCrUs, by rw [checked]⟩

/-- The frame is a single frame that the receiver takes. -/
def acceptsSingle (c : Config) (f : CanFrame) : Bool :=
  matchesFrame c f && frameType c f = 0 && singleFrameSize c f ≠ 0 &&
    singleFrameSize c f ≤ f.dlc - c.addressLength - 1

/-- A frame either finds the reception timed out, is ignored without a trace, starts a reception
of the size its control bytes give, or continues the one in progress. -/
theorem rxFeed_exits (rx : Rx) (f : CanFrame) (nowUs : Time) :
    (rx.state ≠ .idle ∧ expired nowUs rx.deadlineUs = true ∧
      ∃ rc : Result, (rc = .errTimeoutA ∨ rc = .errTimeoutCr) ∧
        rxFeed rx f nowUs = (rc, { rx with state := .idle }, {})) ∨
    rxFeed rx f nowUs = (.ignored, rx, {}) ∨
    (acceptsSingle rx.config f = true ∧
      rxFeed rx f nowUs = rxStart rx f nowUs false (singleFrameSize rx.config f)) ∨
    (7 - rx.config.addressLength < firstFrameSize rx.config f ∧
      rxFeed rx f nowUs = rxStart rx f nowUs true (firstFrameSize rx.config f)) ∨
    (rx.state = .cf ∧ rxFeed rx f nowUs = rxContinue rx f nowUs) := by
  rcases rxCheckTimeout_cases rx nowUs with fresh | ⟨live, late, rc, which, timeout⟩
  · refine Or.inr ?_
    unfold rxFeed
    simp only [fresh, show Result.isError .ok = false from rfl, Bool.false_eq_true, if_false]
    split
    · exact Or.inl rfl
    case isFalse addressed =>
      rw [Bool.not_eq_true', Bool.not_eq_false] at addressed
      split
      case isTrue single =>
        split
        · exact Or.inl rfl
        case isFalse sized =>
          simp only [Bool.or_eq_true, decide_eq_true_eq, not_or] at sized
          refine Or.inr (Or.inl ⟨?_, rfl⟩)
          simp [acceptsSingle, addressed, single, sized.1, Nat.not_lt.1 sized.2]
      · split
        · split
          · exact Or.inl rfl
          case isFalse sized =>
            simp only [Bool.or_eq_true, decide_eq_true_eq, not_or] at sized
            exact Or.inr (Or.inr (Or.inl ⟨by omega, rfl⟩))
        · split
          · exact Or.inl rfl
          case isFalse awaited =>
            simp only [Bool.or_eq_true, decide_eq_true_eq, not_or, not_not] at awaited
            exact Or.inr (Or.inr (Or.inr ⟨awaited.2, rfl⟩))
  · refine Or.inl ⟨live, late, rc, which, ?_⟩
    rcases which with rfl | rfl <;> simp [rxFeed, timeout, Result.isError, Result.code]

/-- The sizes that a reception is started with. -/
theorem rxFeed_cases (rx : Rx) (f : CanFrame) (nowUs : Time) :
    (rx.state ≠ .idle ∧ expired nowUs rx.deadlineUs = true ∧
      ∃ rc : Result, (rc = .errTimeoutA ∨ rc = .errTimeoutCr) ∧
        rxFeed rx f nowUs = (rc, { rx with state := .idle }, {})) ∨
    rxFeed rx f nowUs = (.ignored, rx, {}) ∨
    (∃ size, 0 < size ∧ rx.config.addressLength + 1 + size ≤ 8 ∧
      rxFeed rx f nowUs = rxStart rx f nowUs false size) ∨
    (∃ size, 7 - rx.config.addressLength < size ∧
      rxFeed rx f nowUs = rxStart rx f nowUs true size) ∨
    (rx.state = .cf ∧ rxFeed rx f nowUs = rxContinue rx f nowUs) := by
  rcases rxFeed_exits rx f nowUs with late | ignored | ⟨single, start⟩ | ⟨several, start⟩ | continues
  · exact Or.inl late
  · exact Or.inr (Or.inl ignored)
  · simp only [acceptsSingle, matchesFrame, Bool.and_eq_true, decide_eq_true_eq] at single
    exact Or.inr (Or.inr (Or.inl ⟨_, by omega, by omega, start⟩))
  · exact Or.inr (Or.inr (Or.inr (Or.inl ⟨_, several, start⟩)))
  · exact Or.inr (Or.inr (Or.inr (Or.inr continues)))

/-- A check that reports nothing changes nothing. -/
theorem rxCheckTimeout_of_ok (punctual : (rxCheckTimeout rx nowUs).1 = .ok) :
    rxCheckTimeout rx nowUs = (.ok, rx) := by
  rcases rxCheckTimeout_cases rx nowUs with fresh | ⟨_, _, rc, which, timeout⟩
  · exact fresh
  · rw [timeout] at punctual
    rcases which with rfl | rfl <;> cases punctual

end Outcomes

end OpenDiag.Isotp
