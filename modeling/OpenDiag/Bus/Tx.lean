import OpenDiag.Can

/-!
# Transmit controls and receive epochs

`bus_tx.c`. A transmit control is shared by the task that submitted a transmission and the task
that sends it: it is queued, then either cancelled or admitted to the bus, and both go through one
compare-and-exchange of its state word. `admitTx` is split at its first load, since the other task can
run between the load and the compare-and-exchange. A receive epoch numbers the records of a bus and
keeps the newest number that was lost.
-/

namespace OpenDiag.Bus

/-! The results of a transmission. -/

def errTimeout : Int := -1
def errNoSpace : Int := -2
def errNotReady : Int := -3
def errBadArg : Int := -8
def errCancelled : Int := -13
def errRxPending : Int := -14

/-- `BUS_TX_CHECK_RX`. -/
def txCheckRx : UInt32 := 16

/-- `bus_tx_state_t`. -/
inductive TxState where
  | queued
  | active
  | cancelled
  deriving DecidableEq, Repr

/-- `struct bus_tx_control`. -/
structure Control where
  state : TxState := .queued
  checkRx : Bool := false
  rxSequence : UInt32 := 0
  startedUs : Time := 0
  endedUs : Time := 0
  ended : Bool := false
  deriving DecidableEq, Repr

/-- `bus_tx_prepare`. -/
def prepare (rxSequence : UInt32) : Control :=
  { rxSequence }

/-- `bus_tx_cancel`, one compare-and-exchange. -/
def Control.cancel (control : Control) : Bool × Control :=
  if control.state = .queued then (true, { control with state := .cancelled })
  else (false, control)

/-- `bus_tx_cancelled`. -/
def Control.isCancelled (control : Control) : Bool :=
  control.state = .cancelled

/-- `bus_tx_admit` after its load of the state word has seen `seen`. The start time is written
before the compare-and-exchange, also where that fails. -/
def Control.admitSeen (control : Control) (seen : TxState) (rxSequence : UInt32)
    (timestampUs : Time) : Int × Control :=
  match seen with
  | .cancelled => (errCancelled, control)
  | .active => (0, control)
  | .queued =>
    if control.checkRx && control.rxSequence ≠ rxSequence then (errRxPending, control)
    else
      let control := { control with startedUs := timestampUs }
      if control.state = .queued then (0, { control with state := .active })
      else (errCancelled, control)

/-- `bus_tx_admit`. -/
def Control.admitTx (control : Control) (rxSequence : UInt32) (timestampUs : Time) :
    Int × Control :=
  control.admitSeen control.state rxSequence timestampUs

end OpenDiag.Bus
