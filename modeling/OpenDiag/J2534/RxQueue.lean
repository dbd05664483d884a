import OpenDiag.J2534.Basic
import OpenDiag.Lib.Circular
import OpenDiag.Lib.LossFifo

/-!
# The receive queue of a channel

`ring_copy`, `enqueue_rx` and `read_message`: a record is a 28-byte header and its data, written
around the end of an 8 KiB buffer. The bytes in use always parse as a whole number of records, and
the queue is a FIFO of records that reports its losses.
-/

namespace OpenDiag.J2534

def rxBytes : Nat := 8192
def msgHeader : Nat := 28

instance : NeZero rxBytes := ⟨by decide⟩

/-- The receive side of `channel_t`. -/
structure RxQueue where
  rx : Circular.Memory UInt8 rxBytes := fun _ => 0
  rxHead : Nat := 0
  rxUsed : Nat := 0
  overflow : Bool := false

/-- `ring_copy` into the ring. -/
def ringWrite (q : RxQueue) (offset : Nat) (data : List UInt8) : RxQueue :=
  { q with rx := Circular.write q.rx ((q.rxHead + offset) % rxBytes) data }

/-- `ring_copy` out of the ring. -/
def ringRead (q : RxQueue) (offset length : Nat) : List UInt8 :=
  Circular.read q.rx ((q.rxHead + offset) % rxBytes) length

def enqueueRx (q : RxQueue) (protocol handle status timestamp : UInt32) (data : List UInt8)
    (indication : Bool) : RxQueue :=
  let total := msgHeader + data.length
  if total > rxBytes - q.rxUsed then { q with overflow := true }
  else
    let header := put32 protocol ++ put32 handle ++
      put32 (status ||| if q.overflow then flagRxOverflow else 0) ++ put32 0 ++
      put32 timestamp ++ put32 (UInt32.ofNat data.length) ++
      put32 (if indication then 0 else UInt32.ofNat data.length)
    let q := ringWrite q q.rxUsed header
    let q := ringWrite q (q.rxUsed + msgHeader) data
    { q with rxUsed := q.rxUsed + total, overflow := false }

/-- `read_message`; the message is the one that the response carries. -/
def readMessage (q : RxQueue) : RxQueue × Status × Option Message :=
  if q.rxUsed = 0 then
    if q.overflow then ({ q with overflow := false }, .overflow, none) else (q, .empty, none)
  else
    let header := ringRead q 0 msgHeader
    let length := (get32 (header.drop 20)).toNat
    let message : Message :=
      { protocol := get32 header
        handle := get32 (header.drop 4)
        rxStatus := get32 (header.drop 8)
        txFlags := get32 (header.drop 12)
        timestampUs := get32 (header.drop 16)
        extraDataIndex := get32 (header.drop 24)
        data := ringRead q msgHeader length }
    let total := msgHeader + length
    ({ q with rxHead := (q.rxHead + total) % rxBytes, rxUsed := q.rxUsed - total }, .ok,
      some message)

/-! ## Records -/

/-- What `enqueue_rx` is given. -/
structure Record where
  protocol : UInt32
  handle : UInt32
  status : UInt32
  timestamp : UInt32
  data : List UInt8
  indication : Bool
  deriving DecidableEq, Repr

/-- The bytes a record takes. -/
def Record.size (r : Record) : Nat :=
  msgHeader + r.data.length

/-- The status a record is delivered with. -/
def Record.reported (r : Record) (report : Bool) : UInt32 :=
  r.status ||| if report then flagRxOverflow else 0

/-- The header fields of a record in the ring. -/
def Record.header (r : Record) (report : Bool) : List UInt8 :=
  put32 r.protocol ++ put32 r.handle ++ put32 (r.reported report) ++ put32 0 ++
    put32 r.timestamp ++ put32 (UInt32.ofNat r.data.length) ++
    put32 (if r.indication then 0 else UInt32.ofNat r.data.length)

/-- A record in the ring. -/
def Record.bytes (r : Record) (report : Bool) : List UInt8 :=
  r.header report ++ r.data

/-- The message a record is delivered as. -/
def Record.message (r : Record) (report : Bool) : Message where
  protocol := r.protocol
  handle := r.handle
  rxStatus := r.reported report
  txFlags := 0
  timestampUs := r.timestamp
  extraDataIndex := if r.indication then 0 else UInt32.ofNat r.data.length
  data := r.data

@[simp] theorem Record.length_header (r : Record) (report : Bool) :
    (r.header report).length = msgHeader := by
  simp [Record.header, msgHeader]

@[simp] theorem Record.length_bytes (r : Record) (report : Bool) :
    (r.bytes report).length = r.size := by
  simp [Record.bytes, Record.size]

/-- The header tells the message apart from its data. -/
theorem Record.header_fields (r : Record) (report : Bool) (short : r.size ≤ rxBytes) :
    get32 (r.header report) = r.protocol ∧ get32 ((r.header report).drop 4) = r.handle ∧
      get32 ((r.header report).drop 8) = r.reported report ∧
      get32 ((r.header report).drop 12) = 0 ∧ get32 ((r.header report).drop 16) = r.timestamp ∧
      (get32 ((r.header report).drop 20)).toNat = r.data.length ∧
      get32 ((r.header report).drop 24) =
        (if r.indication then 0 else UInt32.ofNat r.data.length) := by
  have fields (words : List UInt32) (word : UInt32) :
      get32 (put32 word ++ words.flatMap put32) = word := get32_put32_append _ _
  have header : r.header report = [r.protocol, r.handle, r.reported report, 0, r.timestamp,
      UInt32.ofNat r.data.length,
      if r.indication then 0 else UInt32.ofNat r.data.length].flatMap put32 := by
    simp [Record.header]
  have length : (UInt32.ofNat r.data.length).toNat = r.data.length := by
    unfold Record.size msgHeader rxBytes at short
    exact UInt32.toNat_ofNat_of_lt' (Nat.lt_of_le_of_lt (by omega : _ ≤ 8192) (by decide))
  rw [header]
  refine ⟨fields _ _, fields _ _, fields _ _, fields _ _, fields _ _, ?_, fields _ _⟩
  exact (congrArg UInt32.toNat (fields _ _)).trans length

/-! ## The queue holds records -/

/-- The bytes in use are the records, in order. -/
structure Holds (q : RxQueue) (records : List (Record × Bool)) : Prop where
  head : q.rxHead < rxBytes
  used : q.rxUsed = (records.map fun entry => entry.1.size).sum
  fits : q.rxUsed ≤ rxBytes
  bytes : ringRead q 0 q.rxUsed = records.flatMap fun entry => entry.1.bytes entry.2

section Operations

variable {q : RxQueue} {records : List (Record × Bool)}

/-- What `enqueue_rx` does with a record: it is appended whole, or the queue overflows. -/
theorem enqueueRx_eq (q : RxQueue) (r : Record) :
    enqueueRx q r.protocol r.handle r.status r.timestamp r.data r.indication =
      if r.size > rxBytes - q.rxUsed then { q with overflow := true }
      else
        { q with
          rx := Circular.write q.rx (q.rxHead + q.rxUsed) (r.bytes q.overflow)
          rxUsed := q.rxUsed + r.size
          overflow := false } := by
  have position : q.rxHead + (q.rxUsed + msgHeader) =
      q.rxHead + q.rxUsed + (r.header q.overflow).length := by
    rw [Record.length_header, Nat.add_assoc]
  rw [Record.bytes, ← Circular.write_append, ← position,
    ← Circular.write_mod _ (q.rxHead + (q.rxUsed + msgHeader)),
    ← Circular.write_mod _ (q.rxHead + q.rxUsed)]
  rfl

/-- A record that fits is appended whole. -/
theorem Holds.enqueue (holds : Holds q records) (r : Record)
    (room : ¬ r.size > rxBytes - q.rxUsed) :
    Holds (enqueueRx q r.protocol r.handle r.status r.timestamp r.data r.indication)
      (records ++ [(r, q.overflow)]) := by
  have fits := holds.fits
  have length := r.length_bytes q.overflow
  have within : q.rxUsed + r.size ≤ rxBytes := by omega
  have before := holds.bytes
  rw [ringRead, Nat.add_zero, Circular.read_mod] at before
  rw [enqueueRx_eq, if_neg room]
  refine ⟨holds.head, ?_, within, ?_⟩
  · simp only [holds.used, List.map_append, List.sum_append, List.map_cons, List.map_nil,
      List.sum_cons, List.sum_nil, Nat.add_zero]
  · have kept := Circular.read_write_of_disjoint q.rx (r.bytes q.overflow)
      (Nat.le_refl (q.rxHead + q.rxUsed)) (by omega)
    have added := Circular.read_write_self q.rx (q.rxHead + q.rxUsed)
      (by omega : (r.bytes q.overflow).length ≤ rxBytes)
    rw [length] at added
    rw [ringRead, Nat.add_zero, Circular.read_mod, Circular.read_add, kept, added, before]
    simp

/-- Reading gives back the oldest record and leaves the others. -/
theorem Holds.read {r : Record} {report : Bool} (holds : Holds q ((r, report) :: records)) :
    (readMessage q).2 = (.ok, some (r.message report)) ∧ Holds (readMessage q).1 records ∧
      (readMessage q).1.overflow = q.overflow := by
  have size : r.size = msgHeader + r.data.length := rfl
  have used := holds.used
  simp only [List.map_cons, List.sum_cons] at used
  have fits := holds.fits
  have some_bytes : ¬ q.rxUsed = 0 := by
    rw [used, size, msgHeader]
    omega
  have bytes := holds.bytes
  rw [ringRead, Nat.add_zero, Circular.read_mod, used, Circular.read_add, List.flatMap_cons] at bytes
  obtain ⟨first, rest⟩ := List.append_inj bytes (by simp)
  rw [size, Circular.read_add, Record.bytes] at first
  obtain ⟨header, data⟩ := List.append_inj first (by simp)
  obtain ⟨protocol, handle, status, txFlags, timestamp, length, extra⟩ :=
    r.header_fields report (by omega)
  have header_read : ringRead q 0 msgHeader = r.header report := by
    rw [ringRead, Nat.add_zero, Circular.read_mod, header]
  have data_read : ringRead q msgHeader r.data.length = r.data := by
    rw [ringRead, Circular.read_mod, data]
  simp only [readMessage, if_neg some_bytes, header_read, length, data_read, protocol, handle,
    status, txFlags, timestamp, extra]
  refine ⟨rfl, ⟨Nat.mod_lt _ (by decide), ?_, ?_, ?_⟩, trivial⟩
  · simp only
    omega
  · simp only
    omega
  · have remaining : q.rxUsed - (msgHeader + r.data.length) =
        (records.map fun entry => entry.1.size).sum := by omega
    rw [remaining, ringRead, Nat.add_zero, Circular.read_mod, Circular.read_mod, ← size]
    exact rest

end Operations

/-! ## Every run -/

/-- What happens to a queue: a record is enqueued, a loss is marked from outside, or a message is
read. -/
inductive RxOp where
  | enqueue (r : Record)
  | mark
  | read

/-- One operation and, for a read, its result. -/
def RxQueue.step (q : RxQueue) : RxOp → RxQueue × Option (Status × Option Message)
  | .enqueue r =>
    (enqueueRx q r.protocol r.handle r.status r.timestamp r.data r.indication, none)
  | .mark => ({ q with overflow := true }, none)
  | .read =>
    let (q, status, message) := readMessage q
    (q, some (status, message))

/-- What an operation asks of a loss-reporting FIFO. -/
def RxOp.abstract : RxOp → LossFifo.Op Record
  | .enqueue r => .offer r
  | .mark => .mark
  | .read => .take

/-- The result of a read that an event of the FIFO stands for. -/
def readResult : LossFifo.Event Record → Option (Status × Option Message)
  | .taken r report => some (.ok, some (r.message report))
  | .lossReported => some (.overflow, none)
  | .empty => some (.empty, none)
  | .accepted _ _ => none
  | .dropped => none
  | .marked => none

/-- The queue holds the FIFO's records and has its loss to report. -/
structure Represents (q : RxQueue) (fifo : LossFifo.Fifo Record) : Prop where
  holds : Holds q fifo.items
  lost : q.overflow = fifo.lost

/-- One operation of the queue is one of the FIFO. -/
theorem Represents.step {q : RxQueue} {fifo : LossFifo.Fifo Record} (represents : Represents q fifo)
    (op : RxOp) :
    Represents (q.step op).1 (fifo.step Record.size rxBytes op.abstract).1 ∧
      (q.step op).2 = readResult (fifo.step Record.size rxBytes op.abstract).2 := by
  have used : fifo.used Record.size = q.rxUsed := represents.holds.used.symm
  cases op with
  | mark => exact ⟨⟨⟨represents.holds.head, represents.holds.used, represents.holds.fits,
      represents.holds.bytes⟩, rfl⟩, rfl⟩
  | enqueue r =>
      simp only [RxQueue.step, RxOp.abstract, LossFifo.Fifo.step, used]
      by_cases large : r.size > rxBytes - q.rxUsed
      · rw [if_pos large, enqueueRx_eq, if_pos large]
        exact ⟨⟨⟨represents.holds.head, represents.holds.used, represents.holds.fits,
          represents.holds.bytes⟩, rfl⟩, rfl⟩
      · have held := represents.holds.enqueue r large
        rw [represents.lost] at held
        rw [if_neg large]
        refine ⟨⟨held, ?_⟩, rfl⟩
        rw [enqueueRx_eq, if_neg large]
  | read =>
      obtain ⟨holds, lost⟩ := represents
      rcases fifo with ⟨items, pending⟩
      cases items with
      | nil =>
          have empty : q.rxUsed = 0 := holds.used
          cases pending with
          | true =>
              simp only [RxQueue.step, readMessage, if_pos empty, lost, RxOp.abstract,
                LossFifo.Fifo.step, if_true]
              exact ⟨⟨⟨holds.head, holds.used, holds.fits, holds.bytes⟩, rfl⟩, rfl⟩
          | false =>
              simp only [RxQueue.step, readMessage, if_pos empty, lost, RxOp.abstract,
                LossFifo.Fifo.step, Bool.false_eq_true, if_false]
              exact ⟨⟨holds, lost⟩, rfl⟩
      | cons entry items =>
          obtain ⟨r, report⟩ := entry
          obtain ⟨result, rest, kept⟩ := holds.read
          refine ⟨⟨rest, kept.trans lost⟩, ?_⟩
          simp only [RxQueue.step, RxOp.abstract, LossFifo.Fifo.step, readResult, result]

/-- **The receive ring is a loss-reporting FIFO.** From an empty ring, wherever its head is, and
after any records, marks and reads: the bytes in use never exceed the ring and are exactly the
records that wait, in order, each whole; every read returned what the FIFO of records returns, so
the accepted records come out in order and unchanged but for the overflow bit; and every loss
episode is reported once, with the first record accepted after it or, if the queue is read empty
first, as an overflow status. -/
theorem rx_ring_is_loss_reporting_fifo (q : RxQueue) (head : q.rxHead < rxBytes)
    (empty : q.rxUsed = 0) (ops : List RxOp) :
    let fifo : LossFifo.Fifo Record := { lost := q.overflow }
    let step := LossFifo.Fifo.step Record.size rxBytes
    let events := outputs step fifo (ops.map RxOp.abstract)
    let waiting := (final step fifo (ops.map RxOp.abstract)).items
    let ring := final RxQueue.step q ops
    ring.rxUsed ≤ rxBytes ∧
      ring.rxUsed = (waiting.map fun entry => entry.1.size).sum ∧
      ringRead ring 0 ring.rxUsed = waiting.flatMap (fun entry => entry.1.bytes entry.2) ∧
      outputs RxQueue.step q ops = events.map readResult ∧
      LossFifo.accepted events = LossFifo.taken events ++ waiting ∧
      LossFifo.Timely q.overflow events ∧
      LossFifo.reports events + ring.overflow.toNat =
        LossFifo.episodes q.overflow events + q.overflow.toNat := by
  intro fifo step events waiting ring
  have represents : Represents q fifo := ⟨⟨head, empty, by omega, by rw [empty]; rfl⟩, rfl⟩
  obtain ⟨last, answers⟩ := outputs_of_simulation
    (fun _ _ op represents => represents.step op) represents ops
  obtain ⟨timely, pending⟩ := fifo.timely Record.size rxBytes (ops.map RxOp.abstract)
  have order := fifo.accepted_eq Record.size rxBytes (ops.map RxOp.abstract)
  have counted := LossFifo.reports_of_timely timely
  rw [pending] at counted
  refine ⟨last.holds.fits, last.holds.used, last.holds.bytes, answers, order, timely, ?_⟩
  rw [show ring.overflow = _ from last.lost]
  exact counted

/-- A record across the end of the ring, a marked loss, and the record that reports it. -/
theorem rx_ring_is_loss_reporting_fifo_across_end :
    let q : RxQueue := { rxHead := 8180 }
    let first : Record := ⟨5, 7, 0, 100, [1, 2, 3], false⟩
    let second : Record := ⟨5, 0, 256, 200, [], true⟩
    outputs RxQueue.step q [.enqueue first, .mark, .enqueue second, .read, .read, .read] =
      [none, none, none, some (.ok, some (first.message false)),
        some (.ok, some (second.message true)), some (.empty, none)] := by
  intro q first second
  exact (rx_ring_is_loss_reporting_fifo q (by decide) rfl
    [.enqueue first, .mark, .enqueue second, .read, .read, .read]).2.2.2.1

end OpenDiag.J2534
