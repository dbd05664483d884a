import OpenDiag.Bus.Tx
import OpenDiag.Lib.Monitor

/-!
# The transmit worker

`bus_tx_worker.c` as two tasks that share one `bus_tx_worker_t`: the owner, which makes one call
after another, and the worker task. A turn is one atomic or semaphore operation of one of them,
with the plain memory accesses around it. The driver's part of the worker task is free: it asks for
admission, ends the transmission and returns when it likes, and transmits only once it was admitted.
`bus_tx_worker_create` starts the machine and every turn is allowed at any time; one that its task
cannot take leaves everything as it is.
-/

namespace OpenDiag.Bus

/-- `TX_DATA_MAX`. -/
def txDataMax : Nat := 260

/-- A `bus_msg_t` to transmit. -/
structure Message where
  id : UInt32
  data : List UInt8
  deriving DecidableEq, Repr

/-- The arguments of `bus_tx_worker_submit`. -/
structure Request where
  msg : Message
  flags : UInt32
  rxSequence : UInt32
  deriving DecidableEq, Repr

/-- `!!(flags & BUS_TX_CHECK_RX)`. -/
def Request.checkRx (r : Request) : Bool :=
  r.flags &&& txCheckRx ≠ 0

/-- `bus_tx_result_t`. -/
structure TxResult where
  status : Int
  complete : Bool
  started : Bool
  startedUs : Time
  endedUs : Time
  deriving DecidableEq, Repr

inductive WorkerState where
  | idle
  | pending
  | done
  deriving DecidableEq, Repr

/-- `struct bus_tx_worker`, without the handles. -/
structure Worker where
  wake : Bool := false
  done : Bool := false
  exited : Bool := false
  stopping : Bool := false
  state : WorkerState := .idle
  control : Control := {}
  message : Message := ⟨0, []⟩
  flags : UInt32 := 0
  result : Int := 0
  timingReported : Bool := false
  deriving DecidableEq, Repr

/-- Where `transmit_task` is: each constructor names its next operation. -/
inductive Task where
  | takeWake
  | loadState
  | checkCancelled
  /-- Inside `send_controlled`; whether `bus_tx_admit` has returned 0. -/
  | driver (admitted : Bool)
  /-- Inside `bus_tx_admit`, behind its load. -/
  | admitTx (admitted : Bool) (seen : TxState) (rxSequence : UInt32) (timestampUs : Time)
  /-- Inside `bus_tx_end`, between its two stores. -/
  | endFlag (admitted : Bool) (timestampUs : Time)
  | storeDone
  | giveDone
  | loadStopping
  | giveExited
  | deleted
  deriving DecidableEq, Repr

/-- Where the owner is: each constructor names the next operation of the call under way. -/
inductive Owner where
  | free
  | submitStopping (r : Request)
  | submitState (r : Request)
  | submitDone (r : Request)
  | submitPrepare (r : Request)
  | submitPending (r : Request)
  | submitWake
  | pollState
  | pollEnded (seen : WorkerState)
  | pollStarted (complete : Bool)
  | pollEndedUs (complete started : Bool) (startedUs : Time)
  | pollReport (result : TxResult)
  /-- In `bus_tx_worker_cancel`, on its own or as part of `bus_tx_worker_close`. -/
  | cancelState (closing : Bool)
  | cancelExchange (closing : Bool)
  | waitState
  | waitDone
  | closeStopping
  | closeWake
  | closeExited
  /-- `bus_tx_worker_close` returned `ESP_OK`. -/
  | released
  deriving DecidableEq, Repr

/-- What can be seen of the two tasks. -/
inductive Event where
  /-- `bus_tx_worker_submit` has taken the message over and will return 0. -/
  | submitted (r : Request)
  | refused (rc : Int)
  /-- `send_controlled` is called. -/
  | handed (msg : Message) (flags : UInt32)
  /-- The driver calls `bus_tx_admit`. -/
  | asked
  | admission (rc : Int) (timestampUs : Time)
  /-- The driver puts the frame on the bus. -/
  | sent (msg : Message)
  | ended (timestampUs : Time)
  /-- The result of the transmission is known to the worker. -/
  | finished (rc : Int)
  /-- The result is published to the owner. -/
  | published
  /-- The compare-and-exchange of a cancellation succeeded. -/
  | cancelled
  | reported (result : TxResult)
  /-- `bus_tx_worker_poll` returned false. -/
  | nothing
  | waited (rc : Int)
  /-- `bus_tx_worker_close` has told the worker task to stop. -/
  | closing
  | closed (ok : Bool)
  deriving DecidableEq, Repr

structure Machine where
  worker : Worker := {}
  task : Task := .takeWake
  owner : Owner := .free
  deriving DecidableEq, Repr

/-! ## The owner -/

/-- The owner's calls. -/
inductive OwnerCall where
  | submit (r : Request)
  | poll
  | cancel
  | wait
  | close
  deriving DecidableEq, Repr

/-- A call begins, up to its first operation. -/
def Machine.begin (m : Machine) (made : OwnerCall) : Machine × List Event :=
  match m.owner, made with
  | .free, .submit r =>
    if r.msg.data.length > txDataMax then (m, [.refused errBadArg])
    else ({ m with owner := .submitStopping r }, [])
  | .free, .poll => ({ m with owner := .pollState }, [])
  | .free, .cancel => ({ m with owner := .cancelState false }, [])
  | .free, .wait => ({ m with owner := .waitState }, [])
  | .free, .close => ({ m with owner := .closeStopping }, [])
  | _, _ => (m, [])

/-- What follows a cancellation. -/
def afterCancel (closing : Bool) : Owner :=
  if closing then .closeWake else .free

/-- The owner's next operation. A semaphore that it waits for may come too late: `giveUp`. -/
def Machine.ownerStep (m : Machine) (giveUp : Bool) : Machine × List Event :=
  let w := m.worker
  match m.owner with
  | .free => (m, [])
  | .submitStopping r =>
    if w.stopping then ({ m with owner := .free }, [.refused errNotReady])
    else ({ m with owner := .submitState r }, [])
  | .submitState r =>
    if w.state ≠ .idle then ({ m with owner := .free }, [.refused errNoSpace])
    else ({ m with owner := .submitDone r }, [])
  | .submitDone r =>
    ({ m with worker := { w with done := false }, owner := .submitPrepare r }, [])
  | .submitPrepare r =>
    ({ m with
      worker := { w with
        message := r.msg
        flags := r.flags
        timingReported := false
        control := prepare r.rxSequence }
      owner := .submitPending r }, [])
  | .submitPending r =>
    ({ m with
      worker := { w with
        control := { w.control with checkRx := r.checkRx }
        state := .pending }
      owner := .submitWake }, [.submitted r])
  | .submitWake => ({ m with worker := { w with wake := true }, owner := .free }, [])
  | .pollState => ({ m with owner := .pollEnded w.state }, [])
  | .pollEnded seen =>
    if seen = .idle || (seen ≠ .done && (!w.control.ended || w.timingReported)) then
      ({ m with owner := .free }, [.nothing])
    else ({ m with owner := .pollStarted (seen = .done) }, [])
  | .pollStarted complete =>
    ({ m with owner := .pollEndedUs complete (w.control.state = .active) w.control.startedUs }, [])
  | .pollEndedUs complete started startedUs =>
    ({ m with
      owner := .pollReport {
        status := if complete then w.result else 0
        complete
        started
        startedUs
        endedUs := w.control.endedUs } }, [])
  | .pollReport result =>
    ({ m with
      worker := { w with
        timingReported := true
        state := if result.complete then .idle else w.state }
      owner := .free }, [.reported result])
  | .cancelState closing =>
    if w.state = .pending then ({ m with owner := .cancelExchange closing }, [])
    else ({ m with owner := afterCancel closing }, [])
  | .cancelExchange closing =>
    let (done, control) := w.control.cancel
    ({ m with worker := { w with control }, owner := afterCancel closing },
      if done then [.cancelled] else [])
  | .waitState =>
    if w.state = .pending then ({ m with owner := .waitDone }, [])
    else ({ m with owner := .free }, [.waited 0])
  | .waitDone =>
    if giveUp then ({ m with owner := .free }, [.waited errTimeout])
    else if w.done then ({ m with worker := { w with done := false }, owner := .waitState }, [])
    else (m, [])
  | .closeStopping =>
    ({ m with worker := { w with stopping := true }, owner := .cancelState true }, [.closing])
  | .closeWake => ({ m with worker := { w with wake := true }, owner := .closeExited }, [])
  | .closeExited =>
    if w.exited then
      ({ m with worker := { w with exited := false }, owner := .released }, [.closed true])
    else if giveUp then ({ m with owner := .free }, [.closed false])
    else (m, [])
  | .released => (m, [])

/-! ## The worker task -/

/-- The worker task's next operation outside the driver's own code. -/
def Machine.taskStep (m : Machine) : Machine × List Event :=
  let w := m.worker
  match m.task with
  | .takeWake =>
    if w.wake then ({ m with worker := { w with wake := false }, task := .loadState }, [])
    else (m, [])
  | .loadState =>
    ({ m with task := if w.state = .pending then .checkCancelled else .loadStopping }, [])
  | .checkCancelled =>
    if w.control.isCancelled then
      ({ m with worker := { w with result := errCancelled }, task := .storeDone },
        [.finished errCancelled])
    else ({ m with task := .driver false }, [.handed w.message w.flags])
  | .driver _ => (m, [])
  | .admitTx admitted seen rxSequence timestampUs =>
    let (rc, control) := w.control.admitSeen seen rxSequence timestampUs
    ({ m with worker := { w with control }, task := .driver (admitted || rc = 0) },
      [.admission rc timestampUs])
  | .endFlag admitted timestampUs =>
    ({ m with
      worker := { w with control := { w.control with ended := true } }
      task := .driver admitted }, [.ended timestampUs])
  | .storeDone =>
    ({ m with worker := { w with state := .done }, task := .giveDone }, [.published])
  | .giveDone => ({ m with worker := { w with done := true }, task := .loadStopping }, [])
  | .loadStopping => ({ m with task := if w.stopping then .giveExited else .takeWake }, [])
  | .giveExited => ({ m with worker := { w with exited := true }, task := .deleted }, [])
  | .deleted => (m, [])

/-- What a driver can do inside `send_controlled`. -/
inductive DriverMove where
  | admitTx (rxSequence : UInt32) (timestampUs : Time)
  | transmit
  | finish (timestampUs : Time)
  | giveBack (rc : Int)
  deriving DecidableEq, Repr

/-- The driver's next move. It transmits only when it was admitted. -/
def Machine.driverStep (m : Machine) (move : DriverMove) : Machine × List Event :=
  let w := m.worker
  match m.task, move with
  | .driver admitted, .admitTx rxSequence timestampUs =>
    ({ m with task := .admitTx admitted w.control.state rxSequence timestampUs }, [.asked])
  | .driver admitted, .transmit => (m, if admitted then [.sent w.message] else [])
  | .driver admitted, .finish timestampUs =>
    ({ m with
      worker := { w with control := { w.control with endedUs := timestampUs } }
      task := .endFlag admitted timestampUs }, [])
  | .driver _, .giveBack rc =>
    ({ m with worker := { w with result := rc }, task := .storeDone }, [.finished rc])
  | _, _ => (m, [])

/-- Whose turn it is, and what is not determined by the code. -/
inductive Turn where
  | begin (made : OwnerCall)
  | owner (giveUp : Bool)
  | task
  | driver (move : DriverMove)
  deriving DecidableEq, Repr

def Machine.step (m : Machine) : Turn → Machine × List Event
  | .begin made => m.begin made
  | .owner giveUp => m.ownerStep giveUp
  | .task => m.taskStep
  | .driver move => m.driverStep move

/-- The machine and its log after some turns from its creation. -/
def afterTurns (turns : List Turn) : Machine × List Event :=
  run (logged Machine.step) ({}, []) turns

end OpenDiag.Bus
