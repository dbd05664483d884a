import Mathlib.Logic.Relation
import Mathlib.Tactic.Simps.Basic
import OpenDiag.J2534.Requests

/-!
# The steps of the core

The core with its queues, filters, schedulers and timestamps left out: of each channel what its
transmissions and receptions depend on, and the history. Every function of the core is a finite
sequence of a few kinds of steps on it, so that what each step preserves holds throughout every run.
-/

namespace OpenDiag.J2534

open Isotp

/-! ## States -/

/-- What the transmissions and receptions of a channel depend on. -/
structure Lane where
  id : UInt32
  parent : UInt32
  handle : UInt32
  txLen : Nat
  txActive : Bool
  pending : PendingTx
  flowControlPending : Bool
  rxGeneration : Nat
  flowGeneration : Nat
  stored : Nat
  isoRx : Rx
  isoTx : Tx

@[simps]
def Channel.lane (channel : Channel) : Lane where
  id := channel.id
  parent := channel.parent
  handle := channel.tx.handle
  txLen := channel.txLen
  txActive := channel.txActive
  pending := channel.pending
  flowControlPending := channel.flowControlPending
  rxGeneration := channel.rxGeneration
  flowGeneration := channel.flowGeneration
  stored := channel.stored
  isoRx := channel.isoRx
  isoTx := channel.isoTx

def Lane.setPending (lane : Lane) (pending : PendingTx) : Lane :=
  { lane with pending }

/-- `confirm_protocol_tx`, for a flow control. -/
def Lane.confirmFlow (lane : Lane) (pending : PendingTx) (success : Bool) (timestamp : Time) : Lane :=
  if pending.rxGeneration % 2 ^ 32 = lane.rxGeneration % 2 ^ 32 then
    { lane with isoRx := (rxConfirm lane.isoRx success timestamp).2 }
  else lane

/-- The lanes of all channels, and the history. -/
structure Traffic where
  lanes : ChannelIndex → Lane
  log : List Event

def Core.traffic {σ : Type*} (core : Core σ) : Traffic where
  lanes := fun i => (core.channels i).lane
  log := core.log

namespace Traffic

def put (s : Traffic) (i : ChannelIndex) (lane : Lane) : Traffic :=
  { s with lanes := Function.update s.lanes i lane }

def append (s : Traffic) (events : List Event) : Traffic :=
  { s with log := s.log ++ events }

def record (s : Traffic) (event : Event) : Traffic :=
  s.append [event]

/-- `find_channel`. -/
def owner (s : Traffic) (id : UInt32) : Option ChannelIndex :=
  allChannels.find? fun i => id ≠ 0 && (s.lanes i).id = id

/-- `physical_channel`. -/
def physical (s : Traffic) (i : ChannelIndex) : Option ChannelIndex :=
  if (s.lanes i).parent ≠ 0 then s.owner (s.lanes i).parent else some i

/-- What an indication says of its channel and of the time. -/
structure Stamp where
  protocol : UInt32
  timestamp : Time

/-- The indication of how a transmission ended; one without a handle has none. -/
def indication (i : ChannelIndex) (handle : UInt32) (ok : Bool) (stamp : Stamp) : List Event :=
  if handle ≠ 0 then
    [.enqueued i
      { protocol := stamp.protocol, handle, status := if ok then flagTxSuccess else flagTxFailed
        timestamp := stamp.timestamp, data := [], indication := true }]
  else []

/-- The transmission under way on a channel. -/
def setPending (s : Traffic) (p : ChannelIndex) (pending : PendingTx) : Traffic :=
  s.put p ((s.lanes p).setPending pending)

/-- `tx_done`, with its indication. -/
def txDone (s : Traffic) (i : ChannelIndex) (ok : Bool) (completion : Option Nat)
    (stamp : Stamp) : Traffic :=
  (s.put i { s.lanes i with txLen := 0, txActive := false }).append
    (indication i (s.lanes i).handle ok stamp ++
      [.ended i (s.lanes i).stored (s.lanes i).handle ok completion])

/-- `finish_bus_tx`, for the indication of a scheduled message. -/
def report (s : Traffic) (i : ChannelIndex) (handle : UInt32) (ok : Bool) (stamp : Stamp) :
    Traffic :=
  s.append (indication i handle ok stamp ++ [.told i handle ok])

/-- `confirm_protocol_tx`. -/
def confirm (s : Traffic) (i : ChannelIndex) (pending : PendingTx) (success : Bool)
    (timestamp : Time) (stamp : Stamp) : Traffic :=
  match pending.kind with
  | .flowControl =>
    (s.put i ((s.lanes i).confirmFlow pending success timestamp)).record
      (.flowCompleted i pending.rxGeneration (s.lanes i).rxGeneration)
  | .isotp =>
    let (rc, isoTx) := txConfirm (s.lanes i).isoTx success timestamp
    let s := s.put i { s.lanes i with isoTx }
    if rc.isError || isoTx.state = .idle then
      s.txDone i (!rc.isError) (some pending.message) stamp
    else s
  | _ => s.txDone i success (some pending.message) stamp

/-- No transmission that was submitted for the channel will be confirmed to it. -/
def Clear (s : Traffic) (i : ChannelIndex) : Prop :=
  ∀ p, s.physical i = some p → (s.lanes p).pending.channel = (s.lanes i).id →
    (s.lanes p).pending.kind = .none ∨ (s.lanes p).pending.discard = true

end Traffic

/-- An event that says nothing about a transmission or a reception: a record without a handle is no
indication. -/
def Event.Quiet : Event → Prop
  | .received _ _ => True
  | .enqueued _ record => record.handle = 0
  | .marked _ _ => True
  | .read _ _ _ => True
  | .scheduled _ _ _ _ _ _ => True
  | .job _ _ _ _ => True
  | _ => False

/-- What a transmission of each kind is submitted for. -/
def TxKind.Due : TxKind → Lane → Prop
  | .message, lane => lane.parent = 0 ∧ lane.txLen ≠ 0
  | .isotp, lane => lane.txActive = true ∧ lane.isoTx.state = .confirm
  | .scheduled, _ => True
  | _, _ => False

/-- The transmission that a lane submits. -/
structure PendingTx.From (pending : PendingTx) (lane : Lane) : Prop where
  channel : pending.channel = lane.id
  message : pending.message = lane.stored
  rxGeneration : pending.rxGeneration = lane.rxGeneration
  discard : pending.discard = false
  confirmed : pending.confirmed = false

/-! ## Steps -/

namespace Traffic

/-- What one function of the core does to the traffic, up to the next step. -/
inductive Step : Traffic → Traffic → Prop
  | note (s : Traffic) (event : Event) (quiet : event.Quiet) : Step s (s.record event)
  /-- A message is stored. -/
  | store (s : Traffic) (i : ChannelIndex) (handle : UInt32) (txLen : Nat)
      (empty : (s.lanes i).txLen = 0) (long : txLen ≠ 0) :
      Step s (s.put i { s.lanes i with handle, txLen, stored := (s.lanes i).stored + 1 })
  /-- The stored message is forgotten. -/
  | forget (s : Traffic) (i : ChannelIndex) (clear : s.Clear i) :
      Step s (s.put i { s.lanes i with txLen := 0, txActive := false })
  /-- A logical channel begins its message. -/
  | begin (s : Traffic) (i : ChannelIndex) (logical : (s.lanes i).parent ≠ 0)
      (full : (s.lanes i).txLen ≠ 0) : Step s (s.put i { s.lanes i with txActive := true })
  /-- The sender moves while nothing is under way for it. -/
  | sender (s : Traffic) (i : ChannelIndex) (isoTx : Tx) (clear : s.Clear i) :
      Step s (s.put i { s.lanes i with isoTx })
  /-- A frame is given to the sender. -/
  | hear (s : Traffic) (i : ChannelIndex) (frame : CanFrame) (answers : Option Nat) (now : Time)
      (active : (s.lanes i).txActive = true) :
      Step s ((s.put i { s.lanes i with
        isoTx := (txFlowControl (s.lanes i).isoTx frame now).2 }).record
          (.heard i (s.lanes i).isoTx now answers))
  /-- The stored message fails, with no transmission that would be confirmed. -/
  | fail (s : Traffic) (i : ChannelIndex) (stamp : Stamp)
      (full : (s.lanes i).txLen ≠ 0 ∨ (s.lanes i).txActive = true)
      (clear : s.Clear i ∨ ((s.lanes i).txActive = true ∧ (s.lanes i).isoTx.state ≠ .confirm)) :
      Step s (s.txDone i false none stamp)
  /-- The end of a scheduled message is reported. -/
  | report (s : Traffic) (i : ChannelIndex) (handle : UInt32) (ok : Bool) (stamp : Stamp)
      (asked : handle ≠ 0) : Step s (s.report i handle ok stamp)
  | submit (s : Traffic) (i p : ChannelIndex) (pending : PendingTx)
      (onto : s.physical i = some p) (free : (s.lanes p).pending.kind = .none)
      (made : pending.From (s.lanes i)) (due : pending.kind.Due (s.lanes i)) :
      Step s (s.setPending p pending)
  /-- The stored flow control is submitted. -/
  | flow (s : Traffic) (i p : ChannelIndex) (pending : PendingTx)
      (waiting : (s.lanes i).flowControlPending = true)
      (onto : s.physical i = some p) (free : (s.lanes p).pending.kind = .none)
      (made : pending.From (s.lanes i)) (kind : pending.kind = .flowControl) :
      Step s (((s.put i { s.lanes i with flowControlPending := false }).record
        (.flowSubmitted i (s.lanes i).isoRx.state (s.lanes i).flowGeneration
          (s.lanes i).rxGeneration)).setPending p pending)
  | discard (s : Traffic) (p : ChannelIndex) :
      Step s (s.setPending p { (s.lanes p).pending with discard := true })
  /-- A transmission completes that nobody waits for. -/
  | drop (s : Traffic) (p : ChannelIndex)
      (idle : (s.lanes p).pending.kind = .scheduled ∨ (s.lanes p).pending.discard = true ∨
        (s.lanes p).pending.confirmed = true ∨
        s.owner (s.lanes p).pending.channel = none) :
      Step s (s.setPending p {})
  /-- A transmission is confirmed, early or at its completion. -/
  | settle (s : Traffic) (p i : ChannelIndex) (pending : PendingTx) (success : Bool) (time : Time)
      (stamp : Stamp)
      (owned : s.owner (s.lanes p).pending.channel = some i)
      (kind : (s.lanes p).pending.kind ≠ .none ∧ (s.lanes p).pending.kind ≠ .scheduled)
      (live : (s.lanes p).pending.discard = false ∧ (s.lanes p).pending.confirmed = false)
      (spent : pending.kind = .none ∨ pending.confirmed = true) :
      Step s ((s.setPending p pending).confirm i (s.lanes p).pending success time stamp)
  /-- A frame is given to the receiver, and reports nothing. -/
  | ignore (s : Traffic) (i : ChannelIndex) (frame : CanFrame) (answers : Option Nat) (now : Time)
      (logical : (s.lanes i).parent ≠ 0) (refused : (rxFeed (s.lanes i).isoRx frame now).1.code ≤ 0) :
      Step s (((s.put i { s.lanes i with
        isoRx := (rxFeed (s.lanes i).isoRx frame now).2.1 }).record
          (.aged i (s.lanes i).flowControlPending (s.lanes i).isoRx now)).record
          (.fed i (s.lanes i).flowControlPending (s.lanes i).isoRx frame answers))
  /-- A frame is given to the receiver, and a flow control that is due is stored. -/
  | accept (s : Traffic) (i : ChannelIndex) (frame : CanFrame) (answers : Option Nat)
      (now later : Time) (notes : List Event) (rc : Result) (fed : Rx) (segment : Segment)
      (rxGeneration : Nat) (logical : (s.lanes i).parent ≠ 0)
      (quiet : ∀ event ∈ notes, event.Quiet)
      (feed : rxFeed (s.lanes i).isoRx frame now = (rc, fed, segment)) (taken : 0 < rc.code)
      (generation : rxGeneration = (s.lanes i).rxGeneration + if segment.started then 1 else 0) :
      Step s ((s.put i { s.lanes i with
        isoRx := (rxFlowControl fed later).2.1
        rxGeneration
        flowControlPending := (rxFlowControl fed later).2.2.isSome ||
          (s.lanes i).flowControlPending
        flowGeneration := if (rxFlowControl fed later).2.2.isSome then rxGeneration
          else (s.lanes i).flowGeneration }).append
        ([.aged i (s.lanes i).flowControlPending (s.lanes i).isoRx now,
          .fed i (s.lanes i).flowControlPending (s.lanes i).isoRx frame answers] ++ notes ++
          [.aged i (s.lanes i).flowControlPending fed later]))
  /-- The deadline of a reception is checked. -/
  | check (s : Traffic) (i : ChannelIndex) (now : Time) :
      Step s ((s.put i { s.lanes i with
        isoRx := (rxCheckTimeout (s.lanes i).isoRx now).2 }).record
          (.aged i (s.lanes i).flowControlPending (s.lanes i).isoRx now))
  /-- A reception ends because the link went down. -/
  | reset (s : Traffic) (i : ChannelIndex) :
      Step s ((s.put i { s.lanes i with
        isoRx := { (s.lanes i).isoRx with state := .idle } }).record
          (.reset i (s.lanes i).flowControlPending))
  /-- A reception and the stored flow control are cleared. -/
  | clear (s : Traffic) (i : ChannelIndex) (config : Config) :
      Step s (s.put i { s.lanes i with
        rxGeneration := (s.lanes i).rxGeneration + 1
        flowControlPending := false
        isoRx := (rxInit (s.lanes i).isoRx config (s.lanes i).isoRx.buffer isotpMaxPayload).2 })
  /-- An idle receiver is configured. -/
  | configure (s : Traffic) (i : ChannelIndex) (config : Config)
      (idle : (s.lanes i).isoRx.state = .idle) :
      Step s (s.put i { s.lanes i with
        isoRx := (rxInit (s.lanes i).isoRx config (s.lanes i).isoRx.buffer isotpMaxPayload).2 })

/-- Any number of steps. -/
abbrev Steps : Traffic → Traffic → Prop :=
  Relation.ReflTransGen Step

/-! ## Frames -/

variable {s s' : Traffic}

/-- The history is kept apart from the lanes. -/
@[simp] theorem lanes_append (s : Traffic) (events : List Event) :
    (s.append events).lanes = s.lanes := rfl

/-- Histories are written one after another. -/
theorem append_append (s : Traffic) (events more : List Event) :
    (s.append events).append more = s.append (events ++ more) := by
  simp only [append, List.append_assoc]

/-- An indication is nothing but a record for the client. -/
theorem mem_indication {i : ChannelIndex} {handle : UInt32} {ok : Bool} {stamp : Stamp}
    {event : Event} (member : event ∈ indication i handle ok stamp) :
    ∃ record, event = .enqueued i record := by
  unfold indication at member
  split at member
  · exact ⟨_, List.mem_singleton.1 member⟩
  · cases member

@[simp] theorem lanes_record (s : Traffic) (event : Event) : (s.record event).lanes = s.lanes := rfl

@[simp] theorem log_put (s : Traffic) (i : ChannelIndex) (lane : Lane) :
    (s.put i lane).log = s.log := rfl

@[simp] theorem lanes_put_self (s : Traffic) (i : ChannelIndex) (lane : Lane) :
    (s.put i lane).lanes i = lane :=
  Function.update_self ..

/-- A lane is put in its own place. -/
theorem lanes_put_of_ne {i j : ChannelIndex} (other : j ≠ i) (s : Traffic) (lane : Lane) :
    (s.put i lane).lanes j = s.lanes j :=
  Function.update_of_ne other ..

/-- A lane that is put where it was changes nothing. -/
@[simp] theorem put_self (s : Traffic) (i : ChannelIndex) : s.put i (s.lanes i) = s := by
  simp [put]

/-- Of two lanes in one place the later one stays. -/
@[simp] theorem put_put (s : Traffic) (i : ChannelIndex) (lane next : Lane) :
    (s.put i lane).put i next = s.put i next := by
  simp [put]

/-- Lanes and history change apart from each other. -/
theorem put_record (s : Traffic) (i : ChannelIndex) (lane : Lane) (event : Event) :
    (s.put i lane).record event = (s.record event).put i lane := rfl

/-- The identifiers of the channels, and of their parents. -/
def ids (s : Traffic) (i : ChannelIndex) : UInt32 × UInt32 :=
  ((s.lanes i).id, (s.lanes i).parent)

@[simp] theorem ids_record (s : Traffic) (event : Event) : (s.record event).ids = s.ids := rfl

/-- A lane with the identifier and the parent of the one before names the same channels. -/
theorem ids_put (s : Traffic) (i : ChannelIndex) {lane : Lane} (id : lane.id = (s.lanes i).id)
    (parent : lane.parent = (s.lanes i).parent) : (s.put i lane).ids = s.ids := by
  funext j
  by_cases here : j = i
  · subst here
    simp [ids, id, parent]
  · simp [ids, lanes_put_of_ne here]

/-- What a transmission is said to belong to is a channel that is connected under its identifier. -/
theorem owner_some {id : UInt32} {i : ChannelIndex} (found : s.owner id = some i) :
    id ≠ 0 ∧ (s.lanes i).id = id := by
  have both := List.find?_some found
  rwa [Bool.and_eq_true, decide_eq_true_eq, decide_eq_true_eq] at both

theorem id_of_ids (same : s'.ids = s.ids) (i : ChannelIndex) : (s'.lanes i).id = (s.lanes i).id :=
  congrArg Prod.fst (congrFun same i)

theorem parent_of_ids (same : s'.ids = s.ids) (i : ChannelIndex) :
    (s'.lanes i).parent = (s.lanes i).parent :=
  congrArg Prod.snd (congrFun same i)

/-- Owners are found by the identifiers alone. -/
theorem owner_of_ids (same : s'.ids = s.ids) (id : UInt32) : s'.owner id = s.owner id := by
  simp only [owner, id_of_ids same]

/-- The channel of a bus is found by the identifiers alone. -/
theorem physical_of_ids (same : s'.ids = s.ids) (i : ChannelIndex) :
    s'.physical i = s.physical i := by
  simp only [physical, parent_of_ids same, owner_of_ids same]

@[simp] theorem ids_setPending (s : Traffic) (p : ChannelIndex) (pending : PendingTx) :
    (s.setPending p pending).ids = s.ids :=
  ids_put s p rfl rfl

@[simp] theorem ids_txDone (s : Traffic) (i : ChannelIndex) (ok : Bool) (completion : Option Nat)
    (stamp : Stamp) : (s.txDone i ok completion stamp).ids = s.ids :=
  ids_put s i rfl rfl

/-- A confirmation connects and disconnects nothing. -/
@[simp] theorem ids_confirm (s : Traffic) (i : ChannelIndex) (pending : PendingTx) (success : Bool)
    (timestamp : Time) (stamp : Stamp) :
    (s.confirm i pending success timestamp stamp).ids = s.ids := by
  unfold confirm
  split
  · refine ids_put s i ?_ ?_ <;> unfold Lane.confirmFlow <;> split <;> rfl
  · dsimp only
    split
    · exact (ids_txDone ..).trans (ids_put s i rfl rfl)
    · exact ids_put s i rfl rfl
  · exact ids_txDone ..

/-- What is under way on one channel is set there only. -/
theorem lanes_setPending (s : Traffic) (i p : ChannelIndex) (pending : PendingTx) :
    (s.setPending p pending).lanes i =
      (s.lanes i).setPending (if i = p then pending else (s.lanes i).pending) := by
  by_cases here : i = p
  · subst here
    simp [setPending]
  · simp only [setPending, lanes_put_of_ne here, if_neg here]
    rfl

/-- A change of a lane that leaves the transmission under way alone may be made before or after a
change of that. -/
theorem setPending_put (s : Traffic) (i p : ChannelIndex) (pending : PendingTx)
    (change : Lane → Lane)
    (apart : ∀ (lane : Lane) underWay,
      change (lane.setPending underWay) = (change lane).setPending underWay) :
    (s.put i (change (s.lanes i))).setPending p pending =
      (s.setPending p pending).put i (change ((s.setPending p pending).lanes i)) := by
  have keeps (lane : Lane) : (change lane).pending = lane.pending := by
    have same := congrArg Lane.pending (apart lane lane.pending)
    exact same
  refine congrArg (Traffic.mk · s.log) (funext fun j => ?_)
  change ((s.put i _).setPending p pending).lanes j = ((s.setPending p pending).put i _).lanes j
  rw [lanes_setPending]
  by_cases here : j = i
  · subst here
    rw [lanes_put_self, lanes_put_self, lanes_setPending, apart, keeps]
  · rw [lanes_put_of_ne here, lanes_put_of_ne here, lanes_setPending]

/-- The end of a message and what is under way do not touch each other. -/
theorem txDone_setPending (s : Traffic) (i p : ChannelIndex) (underWay : PendingTx) (ok : Bool)
    (completion : Option Nat) (stamp : Stamp) :
    (s.txDone i ok completion stamp).setPending p underWay =
      (s.setPending p underWay).txDone i ok completion stamp := by
  have moved := setPending_put (s.append (indication i (s.lanes i).handle ok stamp ++
    [.ended i (s.lanes i).stored (s.lanes i).handle ok completion])) i p underWay
    (fun lane => { lane with txLen := 0, txActive := false }) fun _ _ => rfl
  refine moved.trans ?_
  simp only [txDone, lanes_setPending]
  rfl

/-- A confirmation leaves the transmissions under way alone: one of them may change before or after
it. -/
theorem confirm_setPending (s : Traffic) (i p : ChannelIndex) (pending underWay : PendingTx)
    (success : Bool) (timestamp : Time) (stamp : Stamp) :
    (s.confirm i pending success timestamp stamp).setPending p underWay =
      (s.setPending p underWay).confirm i pending success timestamp stamp := by
  have isoTx : ((s.setPending p underWay).lanes i).isoTx = (s.lanes i).isoTx := by
    rw [lanes_setPending]
    rfl
  unfold confirm
  cases pending.kind with
  | flowControl =>
      have moved := setPending_put (s.record (.flowCompleted i pending.rxGeneration
        (s.lanes i).rxGeneration)) i p underWay
          (fun lane => lane.confirmFlow pending success timestamp) fun lane underWay => by
            rw [Lane.confirmFlow, Lane.confirmFlow, apply_ite (Lane.setPending · underWay)]
            rfl
      refine moved.trans ?_
      simp only [lanes_setPending]
      rfl
  | isotp =>
      have moved := setPending_put s i p underWay
        (fun lane => { lane with isoTx := (txConfirm lane.isoTx success timestamp).2 })
        fun _ _ => rfl
      simp only [isoTx] at moved ⊢
      split
      · rw [txDone_setPending, moved]
      · exact moved
  | _ => exact txDone_setPending ..

/-- A confirmation leaves alone what is under way: it was taken before. -/
theorem pending_confirm (s : Traffic) (i p : ChannelIndex) (pending : PendingTx) (success : Bool)
    (timestamp : Time) (stamp : Stamp) :
    ((s.confirm i pending success timestamp stamp).lanes p).pending = (s.lanes p).pending := by
  have moved := confirm_setPending s i p pending (s.lanes p).pending success timestamp stamp
  have same : s.setPending p (s.lanes p).pending = s := put_self ..
  rw [same] at moved
  rw [← moved, lanes_setPending, if_pos rfl]
  rfl

/-- No step changes an identifier. -/
theorem Step.ids (step : Step s s') : s'.ids = s.ids := by
  cases step with
  | note | report => rfl
  | fail => exact ids_txDone ..
  | submit | discard | drop => exact ids_setPending ..
  | settle => exact (ids_confirm ..).trans (ids_setPending ..)
  | flow i => exact (ids_setPending ..).trans (ids_put s i rfl rfl)
  | _ => exact ids_put s _ rfl rfl

/-- No step connects or disconnects. -/
theorem Steps.ids (steps : Steps s s') : s'.ids = s.ids := by
  induction steps with
  | refl => rfl
  | tail _ step ih => exact step.ids.trans ih

/-- Every step adds to the history. -/
theorem Step.log (step : Step s s') : ∃ events, s'.log = s.log ++ events := by
  cases step with
  | settle p i pending success time =>
    simp only [confirm]
    split
    · exact ⟨_, rfl⟩
    · split
      · exact ⟨_, rfl⟩
      · exact ⟨[], (List.append_nil _).symm⟩
    · exact ⟨_, rfl⟩
  | ignore => exact ⟨_, List.append_assoc ..⟩
  | accept => exact ⟨_, by simp only [List.append_assoc]; rfl⟩
  | note | hear | fail | report | check | reset | flow => exact ⟨_, rfl⟩
  | _ => exact ⟨[], (List.append_nil _).symm⟩

/-- The history with some events added that say nothing about a transmission or a reception. -/
def Noted (s s' : Traffic) : Prop :=
  ∃ notes : List Event, (∀ event ∈ notes, event.Quiet) ∧ s' = s.append notes

theorem Noted.refl (s : Traffic) : s.Noted s :=
  ⟨[], List.forall_mem_nil _, by rw [append, List.append_nil]⟩

/-- A quiet event is noted. -/
theorem Noted.single (s : Traffic) {event : Event} (quiet : event.Quiet) :
    s.Noted (s.record event) :=
  ⟨[event], List.forall_mem_singleton.2 quiet, rfl⟩

/-- Notes add up. -/
theorem Noted.trans {s s' s'' : Traffic} (first : s.Noted s') (second : s'.Noted s'') :
    s.Noted s'' := by
  obtain ⟨notes, quiet, rfl⟩ := first
  obtain ⟨more, still, rfl⟩ := second
  exact ⟨notes ++ more, List.forall_mem_append.2 ⟨quiet, still⟩, append_append ..⟩

/-- A note moves no lane. -/
theorem Noted.lanes (noted : s.Noted s') : s'.lanes = s.lanes := by
  obtain ⟨_, _, rfl⟩ := noted
  rfl

theorem Noted.ids (noted : s.Noted s') : s'.ids = s.ids := by
  obtain ⟨_, _, rfl⟩ := noted
  rfl

/-- Notes may as well be made before a transmission is taken from its channel. -/
theorem Noted.of_setPending {p : ChannelIndex} {pending : PendingTx}
    (noted : (s.setPending p pending).Noted s') :
    ∃ mid, s.Noted mid ∧ s' = mid.setPending p pending := by
  obtain ⟨notes, quiet, rfl⟩ := noted
  exact ⟨_, ⟨notes, quiet, rfl⟩, rfl⟩

/-- Every note is a step. -/
theorem Noted.steps (noted : s.Noted s') : Steps s s' := by
  obtain ⟨notes, quiet, rfl⟩ := noted
  induction notes generalizing s with
  | nil => simpa only [append, List.append_nil] using Relation.ReflTransGen.refl
  | cons event notes ih =>
      obtain ⟨now, rest⟩ := List.forall_mem_cons.1 quiet
      have more := @ih (s.record event) rest
      simp only [record, append, List.append_assoc, List.singleton_append] at more
      exact .head (Step.note s event now) more

/-- Nothing is under way on the bus of a channel. -/
def Free (s : Traffic) (i : ChannelIndex) : Prop :=
  ∀ p, s.physical i = some p → (s.lanes p).pending.kind = .none

/-- Where nothing is under way on a bus, nothing will be confirmed to a channel of it. -/
theorem Free.clear {i : ChannelIndex} (free : s.Free i) : s.Clear i :=
  fun p onto _ => .inl (free p onto)

/-- The same transmissions are under way. -/
def SamePending (s s' : Traffic) : Prop :=
  s'.ids = s.ids ∧ ∀ p, (s'.lanes p).pending = (s.lanes p).pending

/-- A lane changes beside what is under way. -/
theorem SamePending.put (s : Traffic) (i : ChannelIndex) {lane : Lane}
    (id : lane.id = (s.lanes i).id) (parent : lane.parent = (s.lanes i).parent)
    (pending : lane.pending = (s.lanes i).pending) : s.SamePending (s.put i lane) := by
  refine ⟨ids_put s i id parent, fun p => ?_⟩
  by_cases here : p = i
  · subst here
    rw [lanes_put_self, pending]
  · rw [lanes_put_of_ne here]

theorem SamePending.trans {s s' s'' : Traffic} (first : s.SamePending s')
    (second : s'.SamePending s'') : s.SamePending s'' :=
  ⟨second.1.trans first.1, fun p => (second.2 p).trans (first.2 p)⟩

theorem SamePending.refl (s : Traffic) : s.SamePending s :=
  ⟨rfl, fun _ => rfl⟩

/-- A message ends beside what is under way. -/
theorem SamePending.txDone (s : Traffic) (i : ChannelIndex) (ok : Bool) (completion : Option Nat)
    (stamp : Stamp) : s.SamePending (s.txDone i ok completion stamp) :=
  SamePending.put s i rfl rfl rfl

/-- A bus is as free as what is under way says. -/
theorem Free.of_same {i : ChannelIndex} (free : s.Free i) (same : s.SamePending s') :
    s'.Free i := by
  intro p onto
  rw [physical_of_ids same.1] at onto
  rw [same.2]
  exact free p onto

/-- So is a channel, of what would be confirmed to it. -/
theorem Clear.of_same {i : ChannelIndex} (clear : s.Clear i) (same : s.SamePending s') :
    s'.Clear i := by
  intro p onto
  rw [physical_of_ids same.1] at onto
  rw [same.2, id_of_ids same.1]
  exact clear p onto

end Traffic

end OpenDiag.J2534
