import OpenDiag.Bus.Epoch

/-!
# Reception of CAN frames

`can_rx_done`, `can_state_change` and `can_ops_recv` in `can_bus.c`, from the opening of the bus on.
The receive interrupt numbers a frame, puts it into the queue or gives it up, and may be interrupted
itself between two of its atomic operations; the reader exchanges the link's flag, takes a record
from the queue and, where there is none, exchanges the word of the newest loss. A turn is one such
operation of either side.
-/

namespace OpenDiag.Can

open Bus (Epoch newer)

def errTimeout : Int := -1
def errNoSpace : Int := -2

/-- `BUS_RX_BUFFER_OVERFLOW` and `BUS_RX_LINK_DOWN`. -/
def rxBufferOverflow : UInt32 := 8
def rxLinkDown : UInt32 := 128

/-- `CAN_RX_QUEUE_LEN`. -/
def rxQueueLen : Nat := 32

/-- A frame as `twai_node_receive_from_isr` hands it over, and when. The controller's identifiers
have no more than 29 bits. -/
structure Arrival where
  id : UInt32
  ide : Bool
  rtr : Bool
  dlc : Nat
  buffer : Block UInt8 8
  timestampUs : Time
  narrow : id &&& canEffMask = id
  deriving DecidableEq

/-- `can_rx_record_t`. -/
structure RxRecord where
  frame : CanFrame
  timestampUs : Time
  status : UInt32
  sequence : UInt32
  deriving DecidableEq

/-- The frame that `can_rx_done` puts into its record. -/
def Arrival.frame (arrival : Arrival) : CanFrame where
  id := arrival.id ||| (if arrival.ide then canEffFlag else 0) |||
    (if arrival.rtr then canRtrFlag else 0)
  dlc := arrival.dlc
  data := (Block.fill 8 0).store 0 (arrival.buffer.load 0 (min arrival.dlc 8))

/-- What `can_ops_recv` writes to its message, and returns. -/
structure Received where
  rc : Int
  data : List UInt8 := []
  id : Option UInt32 := none
  len : Option Nat := none
  timestampUs : Option Time := none
  sequence : Option UInt32 := none
  status : Option UInt32 := none
  deriving DecidableEq

/-- `len` in `can_ops_recv`: the bytes of a frame. -/
def dataLen (frame : CanFrame) : Nat :=
  if frame.id &&& canRtrFlag ≠ 0 then 0 else min frame.dlc 8

/-- The end of `can_ops_recv`, for a record taken from the queue. -/
def RxRecord.receive (record : RxRecord) (cap : Nat) : Received :=
  let len := dataLen record.frame
  if cap < len then { rc := errNoSpace }
  else
    { rc := len
      data := record.frame.data.load 0 len
      id := some record.frame.id
      len := some record.frame.dlc
      timestampUs := some record.timestampUs
      sequence := some record.sequence
      status := some record.status }

/-- Where the receive interrupt is: each constructor names its next operation. -/
inductive Isr where
  | idle
  /-- `bus_rx_next` has counted to zero. -/
  | again (arrival : Arrival)
  /-- `xQueueSendFromISR`. -/
  | send (record : RxRecord)
  /-- `bus_rx_lost`, before its load. -/
  | loadLost (sequence : UInt32)
  /-- `bus_rx_lost`, before its comparison and compare-and-exchange. -/
  | swapLost (sequence previous : UInt32)
  deriving DecidableEq

/-- Where the reader is. -/
inductive Reader where
  | idle
  /-- `receive_record`. -/
  | receive (cap : Nat)
  /-- `bus_rx_take_loss`. -/
  | takeLoss
  deriving DecidableEq

structure RxNode where
  epoch : Epoch := {}
  rxFrameQueue : List RxRecord := []
  rxOverflowPending : Bool := false
  rxDropped : UInt32 := 0
  manualRecovery : Bool := false
  linkDownPending : Bool := false
  isr : Isr := .idle
  reader : Reader := .idle
  deriving DecidableEq

inductive RxEvent where
  | arrived (arrival : Arrival)
  /-- The latest arrival has been put into the queue. -/
  | queued
  /-- The latest arrival has been given up. -/
  | dropped
  /-- `bus_rx_lost` is done with a sequence. -/
  | noted (sequence : UInt32)
  | linkFell
  /-- A call of `can_ops_recv` with room for `cap` bytes looks into the queue. -/
  | called (cap : Nat)
  /-- `can_ops_recv` has taken a record and returned it, or found it too long. -/
  | taken (received : Received)
  | emptied
  | lossReported (received : Received)
  | linkReported (received : Received)
  | timedOut (received : Received)
  deriving DecidableEq

/-- The record of an arrival whose number has been drawn. -/
def RxNode.record (n : RxNode) (arrival : Arrival) : RxRecord where
  frame := arrival.frame
  timestampUs := arrival.timestampUs
  status := if n.rxOverflowPending then rxBufferOverflow else 0
  sequence := n.epoch.sequence

/-- `__atomic_add_fetch` in `bus_rx_next`. -/
def RxNode.count (n : RxNode) : RxNode :=
  { n with epoch := { n.epoch with sequence := n.epoch.sequence + 1 } }

/-- `can_rx_done`, up to the first operation of `bus_rx_next`. -/
def RxNode.arrive (n : RxNode) (arrival : Arrival) : RxNode × List RxEvent :=
  match n.isr with
  | .idle =>
    ({ n.count with
        isr := if n.epoch.sequence + 1 = 0 then .again arrival else .send (n.count.record arrival) },
      [.arrived arrival])
  | _ => (n, [])

/-- The end of `can_rx_done` for a frame that had no room. -/
def RxNode.lose (n : RxNode) (sequence : UInt32) : RxNode × List RxEvent :=
  ({ n with rxDropped := n.rxDropped + 1, rxOverflowPending := true, isr := .idle },
    [.noted sequence])

/-- The interrupt's next operation. -/
def RxNode.interrupt (n : RxNode) : RxNode × List RxEvent :=
  match n.isr with
  | .idle => (n, [])
  | .again arrival => ({ n.count with isr := .send (n.count.record arrival) }, [])
  | .send record =>
    if n.rxFrameQueue.length < rxQueueLen then
      ({ n with
          rxFrameQueue := n.rxFrameQueue ++ [record], rxOverflowPending := false, isr := .idle },
        [.queued])
    else ({ n with isr := .loadLost record.sequence }, [.dropped])
  | .loadLost sequence => ({ n with isr := .swapLost sequence n.epoch.lostSequence }, [])
  | .swapLost sequence previous =>
    if previous = 0 || newer sequence previous then
      if n.epoch.lostSequence = previous then
        { n with epoch := { n.epoch with lostSequence := sequence } }.lose sequence
      else ({ n with isr := .swapLost sequence n.epoch.lostSequence }, [])
    else n.lose sequence

/-- The reader's next operation; a call of `can_ops_recv` has room for `cap` bytes. -/
def RxNode.read (n : RxNode) (cap : Nat) (now : Time) : RxNode × List RxEvent :=
  match n.reader with
  | .idle =>
    if n.linkDownPending then
      ({ n with linkDownPending := false },
        [.linkReported
          { rc := 0, len := some 0, timestampUs := some now, status := some rxLinkDown }])
    else ({ n with reader := .receive cap }, [.called cap])
  | .receive cap =>
    match n.rxFrameQueue with
    | record :: rest =>
      ({ n with rxFrameQueue := rest, reader := .idle }, [.taken (record.receive cap)])
    | [] => ({ n with reader := .takeLoss }, [.emptied])
  | .takeLoss =>
    let sequence := n.epoch.lostSequence
    let n := { n with epoch := { n.epoch with lostSequence := 0 }, reader := .idle }
    if sequence = 0 then (n, [.timedOut { rc := errTimeout }])
    else
      (n, [.lossReported
        { rc := 0, len := some 0, timestampUs := some now, sequence := some sequence,
          status := some rxBufferOverflow }])

inductive RxTurn where
  | arrive (arrival : Arrival)
  | interrupt
  /-- `can_state_change` into bus-off. -/
  | busOff
  | read (cap : Nat) (now : Time)
  deriving DecidableEq

def RxNode.step (n : RxNode) : RxTurn → RxNode × List RxEvent
  | .arrive arrival => n.arrive arrival
  | .interrupt => n.interrupt
  | .busOff =>
    if n.manualRecovery then ({ n with linkDownPending := true }, [.linkFell]) else (n, [])
  | .read cap now => n.read cap now

/-- A loss that waits to be reported is less than `2 ^ 31` behind the epoch's sequence. -/
def RxNode.Within (n : RxNode) : Prop :=
  n.epoch.lostSequence ≠ 0 → n.epoch.sequence - n.epoch.lostSequence < 0x80000000

instance (n : RxNode) : Decidable n.Within :=
  inferInstanceAs (Decidable (_ → _))

/-! ## Reception as an observer sees it -/

/-- The number of the next arrival: `bus_rx_next` leaves out zero. -/
def following (sequence : UInt32) : UInt32 :=
  if sequence + 1 = 0 then 1 else sequence + 1

/-- The bytes that a reader gets of a frame. -/
def Arrival.bytes (arrival : Arrival) : Nat :=
  if arrival.rtr then 0 else min arrival.dlc 8

/-- An arrival that was put into the queue, whether the arrival before it was lost, and its
number. -/
structure Queued where
  arrival : Arrival
  behindLoss : Bool
  sequence : UInt32

/-- What a reader with room for `cap` bytes receives of an arrival: the frame as it arrived, and with
a flag when the one before it was lost. A frame that is too long writes nothing. -/
structure Queued.Delivered (q : Queued) (received : Received) : Prop where
  rc : received.rc = q.arrival.bytes
  id : received.id = some (q.arrival.id ||| (if q.arrival.ide then canEffFlag else 0) |||
    (if q.arrival.rtr then canRtrFlag else 0))
  len : received.len = some q.arrival.dlc
  data : received.data = q.arrival.buffer.load 0 q.arrival.bytes
  timestampUs : received.timestampUs = some q.arrival.timestampUs
  sequence : received.sequence = some q.sequence
  status : received.status = some (if q.behindLoss then rxBufferOverflow else 0)

def Queued.Gives (q : Queued) (cap : Nat) (received : Received) : Prop :=
  if cap < q.arrival.bytes then received = { rc := errNoSpace } else q.Delivered received

structure RxWatch where
  /-- The number of the latest arrival. -/
  sequence : UInt32 := 0
  /-- The latest arrival, until it is in the queue or given up. -/
  current : Option Arrival := none
  queued : List Queued := []
  taken : Nat := 0
  /-- The room of the call that looks into the queue. -/
  cap : Nat := 0
  /-- The latest arrival that was queued or given up was lost. -/
  lostLast : Bool := false
  /-- The losses noted since the last report in place of a record. -/
  unreported : List UInt32 := []
  linkDown : Bool := false

def RxWatch.see (w : RxWatch) : RxEvent → RxWatch
  | .arrived arrival =>
    { w with sequence := following w.sequence, current := some arrival }
  | .queued =>
    { w with
      current := none
      queued := w.queued ++ w.current.toList.map fun arrival =>
        { arrival, behindLoss := w.lostLast, sequence := w.sequence }
      lostLast := false }
  | .dropped => { w with current := none, lostLast := true }
  | .noted sequence => { w with unreported := w.unreported ++ [sequence] }
  | .linkFell => { w with linkDown := true }
  | .called cap => { w with cap }
  | .taken _ => { w with taken := w.taken + 1 }
  | .emptied => w
  | .lossReported _ => { w with unreported := [] }
  | .linkReported _ => { w with linkDown := false }
  | .timedOut _ => w

/-- Each arrival is queued or given up before the next, and given up only where the queue is full.
The arrivals in the queue are received in order. A read that finds the queue empty reports a loss
exactly when one was noted since the last such report. -/
def RxWatch.Allows (w : RxWatch) : RxEvent → Prop
  | .arrived _ => w.current = none
  | .queued => w.current.isSome
  | .dropped => w.current.isSome ∧ w.queued.length = w.taken + rxQueueLen
  | .noted sequence => sequence = w.sequence
  | .linkFell => True
  | .called _ => True
  | .taken received => ∃ q, w.queued[w.taken]? = some q ∧ q.Gives w.cap received
  | .emptied => w.queued.length = w.taken
  | .lossReported received => ∃ sequence ∈ w.unreported, received.sequence = some sequence ∧
      received.status = some rxBufferOverflow
  | .linkReported received => w.linkDown = true ∧ received.status = some rxLinkDown
  | .timedOut received => w.unreported = [] ∧ received = { rc := errTimeout }

/-- The record that `can_rx_done` makes of an arrival. -/
def Queued.record (q : Queued) : RxRecord where
  frame := q.arrival.frame
  timestampUs := q.arrival.timestampUs
  status := if q.behindLoss then rxBufferOverflow else 0
  sequence := q.sequence

/-- The flags above the identifier say whether the frame is a remote one. -/
theorem Arrival.dataLen_frame (arrival : Arrival) : dataLen arrival.frame = arrival.bytes := by
  have bare : arrival.id &&& canRtrFlag = 0 := by
    rw [← arrival.narrow, UInt32.and_assoc]
    exact UInt32.and_zero
  have split (x y z : UInt32) : (x ||| y) &&& z = (x &&& z) ||| (y &&& z) :=
    UInt32.toBitVec_inj.1 BitVec.and_or_distrib_right
  have flagged : arrival.frame.id &&& canRtrFlag ≠ 0 ↔ arrival.rtr = true := by
    rw [frame, split, split, bare, UInt32.zero_or]
    cases arrival.ide <;> cases arrival.rtr <;> decide
  unfold dataLen bytes
  cases remote : arrival.rtr with
  | true => rw [if_pos (flagged.2 remote), if_pos rfl]
  | false =>
      rw [if_neg fun flag => Bool.false_ne_true (remote.symm.trans (flagged.1 flag)), if_neg nofun]
      rfl

/-- What `can_rx_done` puts into the queue, `can_ops_recv` gives back as it arrived. -/
theorem Queued.gives (q : Queued) (cap : Nat) : q.Gives cap (q.record.receive cap) := by
  have bytes : dataLen q.record.frame = q.arrival.bytes := q.arrival.dataLen_frame
  have length : (q.arrival.buffer.load 0 (min q.arrival.dlc 8)).length = min q.arrival.dlc 8 :=
    Block.length_load (by omega)
  have data : q.record.frame.data.load 0 q.arrival.bytes =
      q.arrival.buffer.load 0 q.arrival.bytes := by
    unfold Arrival.bytes
    split
    · simp [Block.load, slice]
    · have stored : ((Block.fill 8 0).store 0 (q.arrival.buffer.load 0 (min q.arrival.dlc 8))).load 0
          (q.arrival.buffer.load 0 (min q.arrival.dlc 8)).length =
            q.arrival.buffer.load 0 (min q.arrival.dlc 8) :=
        Block.load_store_self (by omega)
      rw [length] at stored
      exact stored
  unfold Gives RxRecord.receive
  dsimp only
  rw [bytes]
  split
  · rfl
  · exact ⟨rfl, rfl, rfl, data, rfl, rfl, rfl⟩

/-- No loss that waits to be reported has the number of the latest arrival. -/
def RxNode.Fresh (n : RxNode) : Prop :=
  n.epoch.lostSequence ≠ 0 → n.epoch.sequence - n.epoch.lostSequence ≠ 0

/-- What the interrupt has done so far. -/
def RxNode.Interrupted (n : RxNode) (w : RxWatch) : Isr → Prop
  | .idle => n.epoch.sequence = w.sequence ∧ n.rxOverflowPending = w.lostLast ∧ w.current = none
  | .again arrival => n.epoch.sequence = 0 ∧ w.sequence = 1 ∧ w.current = some arrival ∧
      n.rxOverflowPending = w.lostLast
  | .send record => n.epoch.sequence = w.sequence ∧ n.epoch.sequence ≠ 0 ∧ n.Fresh ∧
      ∃ arrival, w.current = some arrival ∧
        record = { arrival, behindLoss := w.lostLast, sequence := w.sequence : Queued }.record
  | .loadLost sequence => n.epoch.sequence = w.sequence ∧ sequence = w.sequence ∧
      n.epoch.sequence ≠ 0 ∧ n.Fresh ∧ w.lostLast = true ∧ w.current = none
  | .swapLost sequence previous => n.epoch.sequence = w.sequence ∧ sequence = w.sequence ∧
      n.epoch.sequence ≠ 0 ∧ n.Fresh ∧ w.lostLast = true ∧ w.current = none ∧
        (previous = 0 || newer sequence previous) = true

/-- The node agrees with the observer. -/
structure RxNode.Agrees (n : RxNode) (w : RxWatch) : Prop where
  within : n.Within
  room : n.rxFrameQueue.length ≤ rxQueueLen
  waiting : ∃ gone rest, w.queued = gone ++ rest ∧ gone.length = w.taken ∧
    n.rxFrameQueue = rest.map Queued.record
  loss : if n.epoch.lostSequence = 0 then w.unreported = []
    else n.epoch.lostSequence ∈ w.unreported
  link : n.linkDownPending = true → w.linkDown = true
  interrupted : n.Interrupted w n.isr
  called : ∀ cap, n.reader = .receive cap → w.cap = cap

variable {n : RxNode} {w : RxWatch}

theorem RxNode.Agrees.start (manualRecovery : Bool) :
    ({ manualRecovery } : RxNode).Agrees {} where
  within lost := absurd rfl lost
  room := Nat.zero_le _
  waiting := ⟨[], [], rfl, rfl, rfl⟩
  loss := rfl
  link down := by cases down
  interrupted := ⟨rfl, rfl, rfl⟩
  called cap reading := by cases reading

/-! ## The interrupt -/

theorem newer_of_lt {sequence previous : UInt32} (apart : sequence - previous ≠ 0)
    (near : sequence - previous < 0x80000000) : newer sequence previous = true := by
  have value : (sequence - previous).toInt32.toInt = (sequence - previous).toBitVec.toInt := rfl
  have bits : (sequence - previous).toBitVec.toNat = (sequence - previous).toNat := rfl
  have small : (sequence - previous).toNat < 2 ^ 31 := UInt32.lt_iff_toNat_lt.mp near
  have some : (sequence - previous).toNat ≠ 0 := fun zero => apart (UInt32.toNat_inj.mp zero)
  rw [newer, decide_eq_true_iff, gt_iff_lt, Int32.lt_iff_toInt_lt, value,
    BitVec.toInt_eq_toNat_cond, bits]
  split <;> simp <;> omega

/-- Counting on leaves a loss that is not too old behind. -/
theorem count_ne_zero {sequence lost : UInt32} (near : sequence - lost < 0x80000000) :
    sequence + 1 - lost ≠ 0 := by
  intro same
  have behind : sequence - lost = 0xffffffff := by grind
  rw [behind] at near
  exact absurd near (by decide)

theorem RxNode.record_eq (n : RxNode) {lost : Bool} {sequence : UInt32}
    (pending : n.rxOverflowPending = lost) (counted : n.epoch.sequence = sequence)
    (arrival : Arrival) :
    n.record arrival = { arrival, behindLoss := lost, sequence : Queued }.record := by
  rw [record, pending, counted]
  rfl

/-- The word of the newest loss is behind the latest arrival. -/
theorem RxNode.Agrees.newer (agrees : n.Agrees w) (fresh : n.Fresh) :
    (n.epoch.lostSequence = 0 || newer n.epoch.sequence n.epoch.lostSequence) = true := by
  by_cases none : n.epoch.lostSequence = 0
  · simp [none]
  · rw [newer_of_lt (fresh none) (agrees.within none), Bool.or_true]

/-- The count leaves the losses that wait behind. -/
theorem RxNode.Agrees.fresh_count (agrees : n.Agrees w) : n.count.Fresh :=
  fun some => count_ne_zero (agrees.within some)

theorem RxNode.Agrees.arrive (agrees : n.Agrees w) (arrival : Arrival)
    (within : (n.arrive arrival).1.Within) :
    Obedient RxWatch.see RxWatch.Allows w (n.arrive arrival).2 ∧
      (n.arrive arrival).1.Agrees ((n.arrive arrival).2.foldl RxWatch.see w) := by
  have interrupted := agrees.interrupted
  unfold RxNode.arrive at within ⊢
  split at within
  case h_2 => exact ⟨.nil, agrees⟩
  case h_1 idle =>
    rw [idle] at interrupted
    obtain ⟨counted, pending, none⟩ := interrupted
    refine ⟨.singleton none, within, agrees.room, agrees.waiting, agrees.loss, agrees.link, ?_,
      agrees.called⟩
    change RxNode.Interrupted _ { w with
      sequence := following w.sequence, current := some arrival } (if _ then _ else _)
    rw [following, ← counted]
    split
    case isTrue zero => exact ⟨zero, rfl, rfl, pending⟩
    case isFalse nonzero =>
      exact ⟨rfl, nonzero, agrees.fresh_count, arrival, rfl, n.count.record_eq pending rfl arrival⟩

/-- A frame that had no room is noted. -/
theorem RxNode.Agrees.lose (agrees : n.Agrees w)
    (counted : n.epoch.sequence = w.sequence) (some : w.sequence ≠ 0) (last : w.lostLast = true)
    (done : w.current = none)
    (within : ({ n with epoch := { n.epoch with lostSequence := w.sequence } }.lose
      w.sequence).1.Within) :
    Obedient RxWatch.see RxWatch.Allows w
        ({ n with epoch := { n.epoch with lostSequence := w.sequence } }.lose w.sequence).2 ∧
      ({ n with epoch := { n.epoch with lostSequence := w.sequence } }.lose w.sequence).1.Agrees
        (({ n with epoch := { n.epoch with lostSequence := w.sequence } }.lose
          w.sequence).2.foldl RxWatch.see w) := by
  refine ⟨.singleton rfl, within, agrees.room, agrees.waiting, ?_, agrees.link,
    ⟨counted, last.symm, done⟩, agrees.called⟩
  change if w.sequence = 0 then _ else w.sequence ∈ w.unreported ++ [w.sequence]
  rw [if_neg some]
  exact List.mem_append_right _ (List.mem_singleton_self _)

theorem RxNode.Agrees.interrupt (agrees : n.Agrees w) (within : n.interrupt.1.Within) :
    Obedient RxWatch.see RxWatch.Allows w n.interrupt.2 ∧
      n.interrupt.1.Agrees (n.interrupt.2.foldl RxWatch.see w) := by
  have interrupted := agrees.interrupted
  cases phase : n.isr with
  | idle =>
      simp only [RxNode.interrupt, phase]
      exact ⟨.nil, agrees⟩
  | again arrival =>
      rw [phase] at interrupted
      obtain ⟨zero, one, current, pending⟩ := interrupted
      simp only [RxNode.interrupt, phase] at within ⊢
      refine ⟨.nil, within, agrees.room, agrees.waiting, agrees.loss, agrees.link, ?_,
        agrees.called⟩
      have counted : n.count.epoch.sequence = w.sequence := by
        rw [one]
        change n.epoch.sequence + 1 = 1
        rw [zero]
        rfl
      refine ⟨counted, ?_, agrees.fresh_count, arrival, current, ?_⟩
      · exact (counted.trans one).trans_ne (by decide)
      · exact n.count.record_eq pending counted arrival
  | send record =>
      rw [phase] at interrupted
      obtain ⟨counted, some, fresh, arrival, current, rfl⟩ := interrupted
      obtain ⟨gone, rest, queue, length, held⟩ := agrees.waiting
      have given : w.current.isSome := by rw [current]; rfl
      simp only [RxNode.interrupt, phase] at within ⊢
      split
      case isTrue room =>
        refine ⟨.singleton given, agrees.within, ?_,
          ⟨gone, rest ++ [{ arrival, behindLoss := w.lostLast, sequence := w.sequence }], ?_, length,
            ?_⟩, agrees.loss, agrees.link, ⟨counted, rfl, rfl⟩, agrees.called⟩
        · rw [List.length_append]
          exact room
        · rw [← List.append_assoc, ← queue]
          simp [RxWatch.see, current]
        · rw [List.map_append, ← held]
          rfl
      case isFalse full =>
        refine ⟨.singleton ⟨given, ?_⟩, agrees.within, agrees.room, agrees.waiting, agrees.loss,
          agrees.link, ⟨counted, rfl, some, fresh, rfl, rfl⟩, agrees.called⟩
        have room := agrees.room
        rw [held, List.length_map] at room full
        rw [queue, List.length_append, length]
        omega
  | loadLost sequence =>
      rw [phase] at interrupted
      obtain ⟨counted, same, some, fresh, last, done⟩ := interrupted
      simp only [RxNode.interrupt, phase] at within ⊢
      refine ⟨.nil, agrees.within, agrees.room, agrees.waiting, agrees.loss, agrees.link,
        ⟨counted, same, some, fresh, last, done, ?_⟩, agrees.called⟩
      rw [same, ← counted]
      exact agrees.newer fresh
  | swapLost sequence previous =>
      rw [phase] at interrupted
      obtain ⟨counted, rfl, some, fresh, last, done, better⟩ := interrupted
      simp only [RxNode.interrupt, phase, better, if_true] at within ⊢
      split
      case isTrue swapped =>
        rw [if_pos swapped] at within
        exact agrees.lose counted (counted ▸ some) last done within
      case isFalse missed =>
        refine ⟨.nil, agrees.within, agrees.room, agrees.waiting, agrees.loss, agrees.link,
          ⟨counted, rfl, some, fresh, last, done, ?_⟩, agrees.called⟩
        rw [← counted]
        exact agrees.newer fresh

/-! ## The reader -/

/-- A call begins at any time. -/
theorem RxNode.Interrupted.call {isr : Isr} (interrupted : n.Interrupted w isr) (cap : Nat)
    (reader : Reader) : { n with reader }.Interrupted { w with cap } isr := by
  cases isr <;> exact interrupted

/-- The word of the newest loss can be cleared at any time. -/
theorem RxNode.Interrupted.clear {isr : Isr} (interrupted : n.Interrupted w isr)
    (reader : Reader) (unreported : List UInt32) :
    { n with epoch := { n.epoch with lostSequence := 0 }, reader }.Interrupted
      { w with unreported } isr := by
  have fresh : { n with epoch := { n.epoch with lostSequence := 0 }, reader }.Fresh :=
    fun some => absurd rfl some
  cases isr with
  | idle => exact interrupted
  | again arrival => exact interrupted
  | send record =>
      obtain ⟨counted, some, _, made⟩ := interrupted
      exact ⟨counted, some, fresh, made⟩
  | loadLost sequence =>
      obtain ⟨counted, same, some, _, last, done⟩ := interrupted
      exact ⟨counted, same, some, fresh, last, done⟩
  | swapLost sequence previous =>
      obtain ⟨counted, same, some, _, last, done, better⟩ := interrupted
      exact ⟨counted, same, some, fresh, last, done, better⟩

theorem RxNode.Agrees.read (agrees : n.Agrees w) (cap : Nat) (now : Time) :
    Obedient RxWatch.see RxWatch.Allows w (n.read cap now).2 ∧
      (n.read cap now).1.Agrees ((n.read cap now).2.foldl RxWatch.see w) := by
  obtain ⟨gone, rest, queue, length, held⟩ := agrees.waiting
  cases phase : n.reader with
  | idle =>
      simp only [RxNode.read, phase]
      split
      case isTrue down =>
        refine ⟨.singleton ⟨agrees.link down, rfl⟩, agrees.within, agrees.room, agrees.waiting,
          agrees.loss, fun still => ?_, agrees.interrupted, fun _ reading => ?_⟩
        · cases still
        · cases reading
      case isFalse =>
        refine ⟨.singleton True.intro, { agrees with interrupted := ?_, called := ?_ }⟩
        · exact agrees.interrupted.call cap (.receive cap)
        · intro own reading
          cases reading
          rfl
  | receive cap =>
      simp only [RxNode.read, phase]
      cases rest with
      | nil =>
          rw [List.append_nil] at queue
          rw [held, List.map_nil]
          refine ⟨.singleton ((congrArg List.length queue).trans length), agrees.within,
            Nat.zero_le _, ⟨gone, [], ?_, length, rfl⟩, agrees.loss, agrees.link, agrees.interrupted,
            fun _ reading => ?_⟩
          · rw [List.append_nil]
            exact queue
          · cases reading
      | cons first rest =>
          have next : w.queued[w.taken]? = some first := by
            rw [queue, ← length, List.getElem?_append_right (Nat.le_refl _), Nat.sub_self]
            rfl
          have room := agrees.room
          rw [held] at room ⊢
          refine ⟨.singleton ⟨first, next, ?_⟩, agrees.within, Nat.le_of_succ_le room,
            ⟨gone ++ [first], rest, ?_, ?_, rfl⟩, agrees.loss, agrees.link, agrees.interrupted,
            fun _ reading => ?_⟩
          · rw [agrees.called cap phase]
            exact first.gives cap
          · rw [List.append_assoc]
            exact queue
          · rw [List.length_append, length]
            rfl
          · cases reading
  | takeLoss =>
      have loss := agrees.loss
      have within : { n with
          epoch := { n.epoch with lostSequence := 0 }, reader := .idle }.Within :=
        fun some => absurd rfl some
      simp only [RxNode.read, phase]
      split at loss
      case isTrue none =>
        rw [if_pos none]
        exact ⟨.singleton ⟨loss, rfl⟩, within, agrees.room, agrees.waiting, loss, agrees.link,
          agrees.interrupted.clear .idle w.unreported, fun _ reading => by cases reading⟩
      case isFalse some =>
        rw [if_neg some]
        exact ⟨.singleton ⟨_, loss, rfl, rfl⟩, within, agrees.room, agrees.waiting, rfl, agrees.link,
          agrees.interrupted.clear .idle [], fun _ reading => by cases reading⟩

/-! ## Every run -/

theorem RxNode.Agrees.step (agrees : n.Agrees w) (turn : RxTurn) (within : (n.step turn).1.Within) :
    Obedient RxWatch.see RxWatch.Allows w (n.step turn).2 ∧
      (n.step turn).1.Agrees ((n.step turn).2.foldl RxWatch.see w) := by
  cases turn with
  | arrive arrival => exact agrees.arrive arrival within
  | interrupt => exact agrees.interrupt within
  | busOff =>
      simp only [RxNode.step]
      split
      case isTrue => exact ⟨.singleton True.intro, { agrees with link := fun _ => rfl }⟩
      case isFalse => exact ⟨.nil, agrees⟩
  | read cap now => exact agrees.read cap now

end OpenDiag.Can
