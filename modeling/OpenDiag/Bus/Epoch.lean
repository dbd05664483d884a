import OpenDiag.Bus.Tx
import OpenDiag.Lib.Monitor

/-!
# Received records and admissions

A bus with one producer of received records, `poll_rx` and `service_bus` as their only consumer, and
the driver that asks for the admission of a transmission with `BUS_TX_CHECK_RX`. A turn is one
atomic or queue operation. The producer numbers a record with `bus_rx_next` and then either puts it
into the queue or reports it with `bus_rx_lost`; it chooses which. The consumer takes up to 32
records at a time and, behind them, the newest loss. The driver reads the epoch's sequence, and asks
for admission with what it has read.
-/

namespace OpenDiag.Bus

/-- `bus_rx_epoch_t`. -/
structure Epoch where
  sequence : UInt32 := 0
  lostSequence : UInt32 := 0
  deriving DecidableEq, Repr

/-- `(int32_t)(sequence - previous) > 0`. -/
def newer (sequence previous : UInt32) : Bool :=
  (sequence - previous).toInt32 > 0

/-- Where the producer is: each constructor names its next operation. -/
inductive Producer where
  | idle
  /-- `bus_rx_next` has counted to zero. -/
  | again
  | record (sequence : UInt32)
  /-- `bus_rx_lost`, before its load. -/
  | loadLost (sequence : UInt32)
  /-- `bus_rx_lost`, before its comparison and compare-and-exchange. -/
  | swapLost (sequence previous : UInt32)
  deriving DecidableEq, Repr

/-- Where the consumer is. -/
inductive Consumer where
  | idle
  /-- `poll_rx`, with this many messages to go. -/
  | receive (burst : Nat)
  /-- The queue was empty: `bus_rx_take_loss`. -/
  | takeLoss (burst : Nat)
  /-- `service_bus`, behind `poll_rx`. -/
  | service
  deriving DecidableEq, Repr

structure RxBus where
  epoch : Epoch := {}
  queue : List UInt32 := []
  producer : Producer := .idle
  consumer : Consumer := .idle
  rxSequence : UInt32 := 0
  rxDrained : Bool := false
  /-- The transmission under way. -/
  tx : Option Control := none
  /-- The sequence that the driver has read for its next admission. -/
  read : Option UInt32 := none
  deriving DecidableEq, Repr

inductive RxEvent where
  /-- The epoch is counted up. -/
  | counted
  /-- The number is that of a record. -/
  | produced
  | enqueued
  | lost
  /-- `poll_rx` has taken the next record. -/
  | processed
  /-- `poll_rx` has taken the losses. -/
  | accounted
  | submitted
  | read
  | admitted
  deriving DecidableEq, Repr

/-- `__atomic_add_fetch` in `bus_rx_next`. -/
def RxBus.count (m : RxBus) : RxBus :=
  { m with epoch := { m.epoch with sequence := m.epoch.sequence + 1 } }

/-- The producer's next operation. -/
def RxBus.produce (m : RxBus) (keep : Bool) : RxBus × List RxEvent :=
  match m.producer with
  | .idle =>
    if m.epoch.sequence + 1 = 0 then ({ m.count with producer := .again }, [.counted])
    else ({ m.count with producer := .record (m.epoch.sequence + 1) }, [.counted, .produced])
  | .again =>
    ({ m.count with producer := .record (m.epoch.sequence + 1) }, [.counted, .produced])
  | .record sequence =>
    if keep then
      ({ m with queue := m.queue ++ [sequence], producer := .idle }, [.enqueued])
    else ({ m with producer := .loadLost sequence }, [])
  | .loadLost sequence => ({ m with producer := .swapLost sequence m.epoch.lostSequence }, [])
  | .swapLost sequence previous =>
    if previous = 0 || newer sequence previous then
      if m.epoch.lostSequence = previous then
        ({ m with
          epoch := { m.epoch with lostSequence := sequence }
          producer := .idle }, [.lost])
      else ({ m with producer := .swapLost sequence m.epoch.lostSequence }, [])
    else ({ m with producer := .idle }, [.lost])

/-- `poll_rx`, for the sequence of one message. -/
def RxBus.note (m : RxBus) (sequence : UInt32) (burst : Nat) : RxBus :=
  { m with
    rxSequence := if newer sequence m.rxSequence then sequence else m.rxSequence
    consumer := if burst ≤ 1 then .service else .receive (burst - 1) }

/-- The consumer's next operation. -/
def RxBus.consume (m : RxBus) : RxBus × List RxEvent :=
  match m.consumer with
  | .idle => ({ m with rxDrained := false, consumer := .receive 32 }, [])
  | .receive burst =>
    match m.queue with
    | sequence :: queue => ({ m with queue }.note sequence burst, [.processed])
    | [] => ({ m with consumer := .takeLoss burst }, [])
  | .takeLoss burst =>
    let sequence := m.epoch.lostSequence
    let m := { m with epoch := { m.epoch with lostSequence := 0 } }
    if sequence = 0 then ({ m with rxDrained := true, consumer := .service }, [])
    else (m.note sequence burst, [.accounted])
  | .service => ({ m with consumer := .idle }, [])

/-- `service_bus` submits a repeat, which is sent only if nothing newer was received. It offers one
only when `poll_rx` has drained the bus and no transmission is under way. -/
def RxBus.submit (m : RxBus) : RxBus × List RxEvent :=
  if m.consumer = .service && m.rxDrained && m.tx.isNone then
    ({ m with
      consumer := .idle
      read := none
      tx := some { prepare m.rxSequence with checkRx := true } }, [.submitted])
  else (m, [])

/-- The driver's `bus_rx_sequence`. -/
def RxBus.readEpoch (m : RxBus) : RxBus × List RxEvent :=
  if m.tx.isSome then ({ m with read := some m.epoch.sequence }, [.read]) else (m, [])

/-- The driver's `bus_tx_admit`. A transmission that is active already is not admitted again. -/
def RxBus.askAdmission (m : RxBus) (timestampUs : Time) : RxBus × List RxEvent :=
  match m.tx, m.read with
  | some control, some sequence =>
    let (rc, next) := control.admitTx sequence timestampUs
    ({ m with tx := some next, read := none },
      if rc = 0 && control.state = .queued then [.admitted] else [])
  | _, _ => (m, [])

inductive RxTurn where
  | produce (keep : Bool)
  | consume
  | submit
  | read
  | admitTx (timestampUs : Time)
  /-- The transmission is over. -/
  | finish
  deriving DecidableEq, Repr

def RxBus.step (m : RxBus) : RxTurn → RxBus × List RxEvent
  | .produce keep => m.produce keep
  | .consume => m.consume
  | .submit => m.submit
  | .read => m.readEpoch
  | .admitTx timestampUs => m.askAdmission timestampUs
  | .finish => ({ m with tx := none, read := none }, [])

/-- The sequences of a bus, the epoch's own apart. -/
def RxBus.sequences (m : RxBus) : List UInt32 :=
  m.rxSequence :: m.queue ++ (m.tx.toList.map Control.rxSequence) ++
    if m.epoch.lostSequence = 0 then [] else [m.epoch.lostSequence]

/-- All sequences are less than `2 ^ 31` behind the epoch's. -/
def RxBus.Within (m : RxBus) : Prop :=
  ∀ sequence ∈ m.sequences, m.epoch.sequence - sequence < 0x80000000

instance (m : RxBus) : Decidable m.Within :=
  List.decidableBAll (p := fun sequence => m.epoch.sequence - sequence < 0x80000000) m.sequences

/-- The bus and its log after some turns from its opening. -/
def rxAfter (turns : List RxTurn) : RxBus × List RxEvent :=
  run (logged RxBus.step) ({}, []) turns

/-- The sequences stay within `2 ^ 31` of each other. -/
def WithinWindow (turns : List RxTurn) : Prop :=
  Admissible (fun s turn => (s.1.step turn).1.Within) (logged RxBus.step) ({}, []) turns

end OpenDiag.Bus
