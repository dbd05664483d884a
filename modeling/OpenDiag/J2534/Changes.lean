import Mathlib.Logic.Relation
import OpenDiag.Isotp.Frames
import OpenDiag.J2534.Requests

/-!
# What service changes

Polling and servicing a bus change the core in a few ways: a driver is called, an event is noted, a
transmission or a reception of a channel moves on, something is enqueued, jobs end or change. Each
function is walked through here, once, for what it changes. A relation between states of the core
that holds over each of these changes holds over the functions; which changes there may be, and what
is kept of the vehicle interface, are parameters.
-/

namespace OpenDiag.J2534

open Isotp

/-! ## The vehicle interface -/

/-- What is kept of the vehicle interface by all calls but submissions, and by the submissions that
are admitted. -/
structure Guard {σ : Type*} (vif : Vif σ) where
  Kept : σ → σ → Prop
  Admits : σ → Bus → BusTx → Prop
  refl : ∀ s, Kept s s
  trans : ∀ {s s' s''}, Kept s s' → Kept s' s'' → Kept s s''
  now : ∀ s, Kept s (vif.now s).2
  recv : ∀ bus s, Kept s (vif.recv bus s).2
  txPoll : ∀ bus s, Kept s (vif.txPoll bus s).2
  txCancel : ∀ bus s, Kept s (vif.txCancel bus s)
  submit : ∀ bus msg flags sequence s, Admits s bus msg →
    Kept s (vif.submit bus msg flags sequence s).2
  small : ∀ s bus msg, msg.data.length ≤ 8 → Admits s bus msg
  admits : ∀ {s s' bus msg}, Kept s s' → Admits s bus msg → Admits s' bus msg

/-- Nothing is asked of the vehicle interface. -/
def Guard.none {σ : Type*} (vif : Vif σ) : Guard vif where
  Kept _ _ := True
  Admits _ _ _ := True
  refl _ := trivial
  trans _ _ := trivial
  now _ := trivial
  recv _ _ := trivial
  txPoll _ _ := trivial
  txCancel _ _ := trivial
  submit _ _ _ _ _ _ := trivial
  small _ _ _ _ := trivial
  admits _ _ := trivial

/-! ## Jobs -/

/-- A job says what it said, and has not become active. -/
structure Job.Abides (job next : Job) : Prop where
  message : next.message = job.message
  active : next.active = true → job.active = true

/-- A job has not been submitted or moved, and has not become active. -/
structure Job.Quieter (job next : Job) : Prop where
  active : next.active = true → job.active = true
  dueUs : next.active = true → next.dueUs = job.dueUs
  ended : next.active = true → next.transmissionEnded = true → job.transmissionEnded = true
  intervalUs : next.active = true → next.intervalUs = job.intervalUs

/-- A job may have ended, and is there still. -/
structure Job.Lapses (job next : Job) : Prop extends job.Abides next, job.Quieter next where
  id : next.id = job.id
  kind : next.kind = job.kind

section Jobs

theorem Job.Abides.refl (job : Job) : job.Abides job :=
  ⟨rfl, fun active => active⟩

theorem Job.Abides.trans {job mid next : Job} (first : job.Abides mid) (second : mid.Abides next) :
    job.Abides next :=
  ⟨second.message.trans first.message, fun active => first.active (second.active active)⟩

theorem Job.Quieter.refl (job : Job) : job.Quieter job :=
  ⟨fun active => active, fun _ => rfl, fun _ ended => ended, fun _ => rfl⟩

theorem Job.Quieter.trans {job mid next : Job} (first : job.Quieter mid)
    (second : mid.Quieter next) : job.Quieter next where
  active := fun active => first.active (second.active active)
  dueUs := fun active => (second.dueUs active).trans (first.dueUs (second.active active))
  ended := fun active ended => first.ended (second.active active) (second.ended active ended)
  intervalUs := fun active =>
    (second.intervalUs active).trans (first.intervalUs (second.active active))

/-- A job that is not active makes no noise. -/
theorem Job.quieter_of_inactive {job next : Job} (inactive : next.active = false) :
    job.Quieter next where
  active := fun active => absurd active (by simp [inactive])
  dueUs := fun active => absurd active (by simp [inactive])
  ended := fun active => absurd active (by simp [inactive])
  intervalUs := fun active => absurd active (by simp [inactive])

theorem Job.Lapses.refl (job : Job) : job.Lapses job where
  toAbides := .refl job
  dueUs := fun _ => rfl
  ended := fun _ ended => ended
  intervalUs := fun _ => rfl
  id := rfl
  kind := rfl

/-- A job that has been made inactive lapses. -/
theorem Job.lapses_inactive (job : Job) : job.Lapses { job with active := false } where
  message := rfl
  active := fun active => absurd active Bool.false_ne_true
  dueUs := fun active => absurd active Bool.false_ne_true
  ended := fun active => absurd active Bool.false_ne_true
  intervalUs := fun active => absurd active Bool.false_ne_true
  id := rfl
  kind := rfl

/-- A message that is received may end a job, or tell it that it was seen. -/
theorem Job.receive_lapses (job : Job) (data : List UInt8) (flags : UInt32) (timestampUs : Time) :
    job.Lapses (job.receive data flags timestampUs) := by
  unfold Job.receive
  split
  · exact .refl job
  · dsimp only
    split
    · exact job.lapses_inactive
    · split
      · exact ⟨⟨rfl, fun active => active⟩, fun _ => rfl, fun _ ended => ended, fun _ => rfl, rfl,
          rfl⟩
      · exact .refl job

/-- A job that is too old ends. -/
theorem Job.expire_lapses (job : Job) (nowUs : Time) : job.Lapses (job.expire nowUs) := by
  unfold Job.expire
  split
  · exact job.lapses_inactive
  · exact .refl job

/-- A message that is received ends repeats at most. -/
theorem scheduleReceive_lapses (scheduler : Scheduler) (data : List UInt8) (flags : UInt32)
    (timestampUs : Time) (slot : Slot) :
    (scheduler slot).Lapses (scheduleReceive scheduler data flags timestampUs slot) := by
  unfold scheduleReceive
  split
  · exact Job.receive_lapses ..
  · exact .refl _

/-- Repeats that are too old end, and nothing else becomes of the jobs. -/
theorem scheduleExpire_lapses (scheduler : Scheduler) (nowUs : Time) (slot : Slot) :
    (scheduler slot).Lapses (scheduleExpire scheduler nowUs slot) := by
  unfold scheduleExpire
  split
  · exact Job.expire_lapses ..
  · exact .refl _

/-- A loss ends the repeats that would have had to see what was lost. -/
theorem scheduleReceiveLost_lapses (scheduler : Scheduler) (slot : Slot) :
    (scheduler slot).Lapses (scheduleReceiveLost scheduler slot) := by
  unfold scheduleReceiveLost
  split
  · exact Job.lapses_inactive _
  · exact .refl _

end Jobs

/-- What a recorded change makes of a job that has been started. -/
def JobChange.makes : JobChange → Job → Job
  | .started => id
  | .transmitted startedUs endedUs => fun job => job.transmitted startedUs endedUs
  | .completed success startedUs endedUs => fun job => job.complete success startedUs endedUs
  | .deferred => Job.defer

/-! ## Frames -/

/-- A CAN frame carries eight bytes at most. -/
theorem length_load_frame_le (frame : CanFrame) :
    (frame.data.load 0 frame.dlc).length ≤ 8 := by
  have cells := frame.data.length_cells
  simp only [Block.load, slice, List.length_take, List.length_drop]
  omega

/-- So does a flow control that the receiver makes. -/
theorem rxFlowControl_dlc_le {rx : Rx} {now : Time} {frame : CanFrame}
    (made : (rxFlowControl rx now).2.2 = some frame) : frame.dlc ≤ 8 := by
  unfold rxFlowControl at made
  dsimp only at made
  split at made
  · cases made
  · cases made
    exact (flowControlFrame_dlc _).2

/-! ## Changes -/

/-- What a change may be about beside a transmission or a reception under way. -/
inductive Matter where
  /-- A message is enqueued for the client. -/
  | deliver
  /-- Messages are taken from the queue. -/
  | read
  /-- Jobs end. -/
  | lapse
  /-- The job of a transmission changes. -/
  | job
  /-- A bus is polled. -/
  | poll
  /-- A scheduled message is put under way. -/
  | schedule
  deriving DecidableEq

/-- An event that is noted beside what it tells of. -/
def Event.isNote : Event → Bool
  | .ended .. | .told .. | .heard .. | .aged .. | .fed .. | .reset .. | .flowCompleted ..
  | .flowSubmitted .. | .read .. => true
  | _ => false

/-- Of a channel, a transmission, a reception or the queue has moved on. -/
structure Channel.Aside (channel next : Channel) : Prop where
  same : next = { channel with
    rate := next.rate
    echo := next.echo
    queue := next.queue
    txLen := next.txLen
    txActive := next.txActive
    linkDown := next.linkDown
    pending := next.pending
    rxSequence := next.rxSequence
    flowControlPending := next.flowControlPending
    rxGeneration := next.rxGeneration
    flowControl := next.flowControl
    isoRx := next.isoRx
    isoTx := next.isoTx
    flowGeneration := next.flowGeneration }
  waiting : next.txLen ≠ 0 → channel.txLen ≠ 0
  under : next.pending.kind = .scheduled → channel.pending.kind = .scheduled
  flow : channel.flowControl.dlc ≤ 8 → next.flowControl.dlc ≤ 8

/-- One change of the core, about one of the matters that it may be about. -/
inductive Core.Change {σ : Type*} {vif : Vif σ} (guard : Guard vif) (within : Matter → Bool)
    (core : Core σ) : Core σ → Prop
  /-- The vehicle interface is called. -/
  | call {env : σ} (kept : guard.Kept core.env env) : Change guard within core { core with env }
  | note {event : Event} (noted : event.isNote = true) :
      Change guard within core (core.record event)
  | touch (i : ChannelIndex) {change : Channel → Channel}
      (aside : (core.channels i).Aside (change (core.channels i)))
      (queue : (change (core.channels i)).queue = (core.channels i).queue ∨ within .read = true) :
      Change guard within core (core.modify i change)
  | enqueue (i : ChannelIndex) (handle status : UInt32) (timestamp : Time) (data : List UInt8)
      (indication : Bool) (told : indication = false → within .deliver = true) :
      Change guard within core (enqueue core i handle status timestamp data indication)
  | lapse (i : ChannelIndex) (change : Scheduler → Scheduler) (fits : within .lapse = true)
      (lapses : ∀ slot, ((core.channels i).scheduler slot).Lapses
        (change (core.channels i).scheduler slot)) :
      Change guard within core (core.modify i fun channel =>
        { channel with scheduler := change channel.scheduler })
  | lose (i : ChannelIndex) (lost : Nat) (fits : within .lapse = true) :
      Change guard within core (markLoss core i lost)
  | job (i : ChannelIndex) (slot : Slot) (what : JobChange) (goes : what ≠ .started)
      (fits : within .job = true) : Change guard within core (core.changeJob i slot what what.makes)
  | receive (p : ChannelIndex) (msg : BusMsg) (fits : within .poll = true) :
      Change guard within core (core.record (.received p msg))
  | drain (p : ChannelIndex) (rxDrained : Bool) (fits : within .poll = true) :
      Change guard within core (core.modify p fun channel => { channel with rxDrained })
  /-- A transmission is put under way. -/
  | begin (p : ChannelIndex) (pending : PendingTx)
      (fits : pending.kind = .scheduled → within .schedule = true) :
      Change guard within core (core.modify p fun channel => { channel with pending })

/-- Any number of changes. -/
abbrev Core.Changes {σ : Type*} {vif : Vif σ} (guard : Guard vif) (within : Matter → Bool) :
    Core σ → Core σ → Prop :=
  Relation.ReflTransGen (Core.Change guard within)

section Walk

variable {σ : Type*} {vif : Vif σ} {guard : Guard vif} {within : Matter → Bool}
  {core mid : Core σ}

theorem Core.Changes.refl (core : Core σ) : Core.Changes guard within core core :=
  Relation.ReflTransGen.refl

variable (before : Core.Changes guard within core mid)
include before

/-- One more call of the vehicle interface. -/
theorem Core.Changes.call {env : σ} (kept : guard.Kept mid.env env) :
    Core.Changes guard within core { mid with env } :=
  before.tail (.call kept)

theorem Core.Changes.now : Core.Changes guard within core (mid.now vif).2 :=
  before.call (guard.now _)

/-- One more note. -/
theorem Core.Changes.note {event : Event} (noted : event.isNote = true) :
    Core.Changes guard within core (mid.record event) :=
  before.tail (.note noted)

/-- A transmission or a reception moves on; the queue stays. -/
theorem Core.Changes.touch (i : ChannelIndex) {change : Channel → Channel}
    (aside : (mid.channels i).Aside (change (mid.channels i)))
    (queue : (change (mid.channels i)).queue = (mid.channels i).queue) :
    Core.Changes guard within core (mid.modify i change) :=
  before.tail (.touch i aside (.inl queue))

/-- An indication is enqueued. -/
theorem Core.Changes.indicate (i : ChannelIndex) (handle status : UInt32) (timestamp : Time)
    (data : List UInt8) :
    Core.Changes guard within core (enqueue mid i handle status timestamp data true) :=
  before.tail (.enqueue i handle status timestamp data true fun wrong => Bool.noConfusion wrong)

/-- A message is delivered. -/
theorem Core.Changes.deliver (i : ChannelIndex) (handle status : UInt32) (timestamp : Time)
    (data : List UInt8) (deliver : within .deliver = true) :
    Core.Changes guard within core (enqueue mid i handle status timestamp data false) :=
  before.tail (.enqueue i handle status timestamp data false fun _ => deliver)

/-! ## The end of a transmission -/

/-- The end of a message is told, if the client gave it a handle, and its place is free. -/
theorem Core.Changes.txDone (i : ChannelIndex) (ok : Bool) (completion : Option Nat) :
    Core.Changes guard within core (txDone vif mid i ok completion) := by
  have ended {last : Core σ} (changes : Core.Changes guard within core last) :
      Core.Changes guard within core
        (last.modify i fun channel => { channel with txLen := 0, txActive := false }) :=
    changes.touch i ⟨rfl, fun waits => absurd rfl waits, id, id⟩ rfl
  dsimp only [J2534.txDone]
  split
  · exact (ended (before.now.indicate i _ _ _ _)).note rfl
  · exact (ended before).note rfl

/-- What was sent is confirmed to its sender: the receiver, the transmitter or the client. -/
theorem Core.Changes.confirmProtocolTx (i : ChannelIndex) (pending : PendingTx) (success : Bool)
    (timestamp : Time) :
    Core.Changes guard within core (confirmProtocolTx vif mid i pending success timestamp) := by
  unfold J2534.confirmProtocolTx
  cases pending.kind with
  | flowControl =>
      dsimp only
      split
      · exact (before.note rfl).touch i ⟨rfl, id, id, id⟩ rfl
      · exact before.note rfl
  | isotp =>
      dsimp only
      split
      · exact (before.touch i ⟨rfl, id, id, id⟩ rfl).txDone i _ _
      · exact before.touch i ⟨rfl, id, id, id⟩ rfl
  | _ => exact before.txDone i _ _

/-- A frame on CAN is echoed to the client when it is taken. -/
theorem Core.Changes.takePending (p : ChannelIndex) (result : TxResult)
    (deliver : (mid.channels p).bus = .can → within .deliver = true) :
    Core.Changes guard within core (takePending mid p result) := by
  have taken : Core.Changes guard within core
      (mid.modify p fun channel => { channel with pending := {} }) :=
    before.touch p ⟨rfl, id, TxKind.noConfusion, id⟩ rfl
  unfold J2534.takePending echoCan
  extract_lets pending after data flags
  split
  case isTrue sent =>
    have can : (mid.channels p).bus = .can := by simpa [after, Core.modify] using sent.2
    split
    · exact taken
    · split
      · exact taken.deliver _ _ _ _ _ (deliver can)
      · exact taken
  case isFalse => exact taken

/-- The job of a transmission is put off, or takes the result. -/
theorem Core.Changes.finishJob (i : ChannelIndex) (pending : PendingTx) (result : TxResult)
    (job : within .job = true) :
    Core.Changes guard within core (finishJob vif mid i pending result) := by
  unfold J2534.finishJob
  extract_lets success
  split
  · exact before
  case h_2 slot _ =>
    dsimp only
    have timed : Core.Changes guard within core
        (if success then (result.startedUs, mid) else mid.now vif).2 := by
      split
      · exact before
      · exact before.now
    generalize (if success then (result.startedUs, mid) else mid.now vif) = started at timed
    split
    · exact timed.tail (.job i slot .deferred JobChange.noConfusion job)
    · exact timed.tail (.job i slot (.completed ..) JobChange.noConfusion job)

/-- The job of a scheduled message changes when the message ends, and only then. -/
theorem Core.Changes.finishBusTx (p : ChannelIndex) (result : TxResult)
    (deliver : (mid.channels p).bus = .can → within .deliver = true)
    (job : (mid.channels p).pending.kind = .scheduled → within .job = true) :
    Core.Changes guard within core (finishBusTx vif mid p result) := by
  have taken := before.takePending p result deliver
  unfold J2534.finishBusTx
  extract_lets pending owner after
  cases owner with
  | none => exact taken
  | some i =>
      dsimp only
      split
      case isTrue scheduled =>
        have finished : Core.Changes guard within core
            (J2534.finishJob vif after i pending result) := taken.finishJob i _ _ (job scheduled)
        unfold finishScheduled
        extract_lets told
        split
        · exact (finished.indicate i _ _ _ _).note rfl
        · exact finished
      case isFalse =>
        split
        · exact taken
        · exact taken.now.confirmProtocolTx i _ _ _

/-- A result is taken for a transmission under way: it ends, or is well on its way. -/
theorem Core.Changes.collectResult (p : ChannelIndex) (result : TxResult)
    (deliver : (mid.channels p).bus = .can → within .deliver = true)
    (job : (mid.channels p).pending.kind = .scheduled → within .job = true) :
    Core.Changes guard within core (collectResult vif mid p result) := by
  unfold J2534.collectResult
  extract_lets pending
  split
  · exact before.finishBusTx p _ deliver job
  split
  · split
    · exact before
    · split
      · exact before
      · exact (before.confirmProtocolTx _ _ _ _).touch p ⟨rfl, id, id, id⟩ rfl
  split
  case isTrue scheduled =>
    split
    · exact before
    · split
      · exact before
      · exact before.tail (.job _ _ (.transmitted ..) JobChange.noConfusion (job scheduled))
  case isFalse => exact before

/-- The driver is asked for a result. -/
theorem Core.Changes.collectBusTx (p : ChannelIndex)
    (deliver : (mid.channels p).bus = .can → within .deliver = true)
    (job : (mid.channels p).pending.kind = .scheduled → within .job = true) :
    Core.Changes guard within core (collectBusTx vif mid p) := by
  unfold J2534.collectBusTx
  split
  · exact before
  · dsimp only
    split
    · exact before.call (guard.txPoll _ _)
    · exact (before.call (guard.txPoll _ _)).collectResult p _ deliver job

/-! ## Transmission -/

/-- A transmission is submitted, and ends at once when it is refused. -/
theorem Core.Changes.submitBusTx (i : ChannelIndex) (kind : TxKind) (job handle : UInt32)
    (msg : BusTx) (busFlags : UInt32) (deliver : within .deliver = true)
    (scheduled : kind = .scheduled → within .schedule = true ∧ within .job = true)
    (fits : ∀ p, physicalChannel mid i = some p → guard.Admits mid.env (mid.channels p).bus msg) :
    Core.Changes guard within core (submitBusTx vif mid i kind job handle msg busFlags) := by
  unfold J2534.submitBusTx
  split
  · exact before
  case h_2 p physical =>
    extract_lets can pending begun
    have bus : (begun.channels p).bus = (mid.channels p).bus := by simp [begun, Core.modify]
    have submitted : Core.Changes guard within core
        { begun with
          env := (vif.submit (begun.channels p).bus msg (submitFlags can busFlags)
            (begun.channels p).rxSequence begun.env).2 } := by
      have putUnderWay : Core.Changes guard within core begun :=
        before.tail (.begin p pending fun same => (scheduled same).1)
      refine putUnderWay.call (guard.submit _ _ _ _ _ ?_)
      rw [bus]
      exact fits p physical
    dsimp only
    split
    · refine submitted.now.now.finishBusTx p _ (fun _ => deliver) fun same => (scheduled ?_).2
      simpa [Core.now, begun, Core.modify, pending, pendingFor] using same
    · exact submitted

/-- A frame is small enough for any bus. -/
theorem Core.Changes.submitCan (i : ChannelIndex) (kind : TxKind) (frame : CanFrame)
    (deliver : within .deliver = true) (unscheduled : kind ≠ .scheduled) :
    Core.Changes guard within core (submitCan vif mid i kind frame) :=
  before.submitBusTx i _ _ _ _ _ deliver (fun same => absurd same unscheduled)
    fun _ _ => guard.small _ _ _ (length_load_frame_le frame)

/-- A message begins, or ends at once when the transmitter refuses it. -/
theorem Core.Changes.startTx (i : ChannelIndex) :
    Core.Changes guard within core (startTx vif mid i) := by
  have begun : Core.Changes guard within core ((mid.now vif).2.modify i fun channel =>
      { channel with isoTx := (beginMessage ((mid.now vif).2.channels i) (mid.now vif).1).2 }) :=
    before.now.touch i ⟨rfl, id, id, id⟩ rfl
  unfold J2534.startTx
  dsimp only
  split
  · exact begun.txDone i _ _
  · exact begun.touch i ⟨rfl, id, id, id⟩ rfl

/-- The next frame of a message is sent, or the message has failed. -/
theorem Core.Changes.nextTx (i : ChannelIndex) (deliver : within .deliver = true) :
    Core.Changes guard within core (nextTx vif mid i) := by
  have moved : Core.Changes guard within core ((mid.now vif).2.modify i fun channel =>
      { channel with isoTx := (txNext ((mid.now vif).2.channels i).isoTx (mid.now vif).1).2.1 }) :=
    before.now.touch i ⟨rfl, id, id, id⟩ rfl
  unfold J2534.nextTx
  dsimp only
  split
  · exact moved.submitCan i _ _ deliver TxKind.noConfusion
  · split
    · exact moved.txDone i _ _
    · exact moved

/-- What a physical channel hands to its bus for a message. -/
def messageTx (bus : Bus) (data : List UInt8) (flags : UInt32) : BusTx :=
  if bus = .can then { id := messageId data flags, data := data.drop 4 } else { data }

omit before in
/-- A channel without a parent stands for its own bus. -/
theorem physicalChannel_of_own {i p : ChannelIndex} (own : (core.channels i).parent = 0)
    (physical : physicalChannel core i = some p) : i = p := by
  rw [physicalChannel, if_neg (not_not.2 own)] at physical
  exact Option.some.inj physical

/-- A channel of its own bus hands its stored message over; a logical channel sends frames. -/
theorem Core.Changes.pollTx (i : ChannelIndex) (deliver : within .deliver = true)
    (fits : (mid.channels i).parent = 0 → (mid.channels i).txLen ≠ 0 →
      guard.Admits mid.env (mid.channels i).bus
        (messageTx (mid.channels i).bus (mid.channels i).tx.data (mid.channels i).tx.txFlags)) :
    Core.Changes guard within core (pollTx vif mid i) := by
  unfold J2534.pollTx
  extract_lets channel data flags
  split
  · exact before
  rename_i waits
  split
  · split
    · exact before
    · have begun : Core.Changes guard within core
          (if channel.txActive then mid else J2534.startTx vif mid i) := by
        split
        · exact before
        · exact before.startTx i
      split
      · exact begun.nextTx i deliver
      · exact begun
  case isFalse own =>
    refine before.submitBusTx i _ _ _ _ _ deliver TxKind.noConfusion fun p physical => ?_
    obtain rfl := physicalChannel_of_own (not_not.1 own) physical
    exact fits (not_not.1 own) waits

/-- A stored flow control is sent, and its place is free. -/
theorem Core.Changes.submitFlow (i : ChannelIndex) (deliver : within .deliver = true) :
    Core.Changes guard within core (submitFlow vif mid i) :=
  ((before.touch i ⟨rfl, id, id, id⟩ rfl).note rfl).submitCan i _ _ deliver TxKind.noConfusion

/-- Flow controls are submitted; a scheduled message may be under way from before. -/
theorem Core.Changes.serviceFlow (p : ChannelIndex) (sent : Nat) (deliver : within .deliver = true)
    (job : ∀ {next}, Core.Changes guard within core next →
      (next.channels p).pending.kind = .scheduled → within .job = true) :
    Core.Changes guard within core (serviceFlow vif p sent mid) := by
  induction sent generalizing mid with
  | zero => exact before
  | succ sent ih =>
      rw [J2534.serviceFlow]
      split
      · exact before
      case h_2 i _ =>
        have submitted := before.submitFlow i deliver
        have collected := submitted.collectBusTx p (fun _ => deliver) (job submitted)
        dsimp only
        split
        · exact collected
        · exact ih collected

theorem Core.Changes.cancelChannelTx (i : ChannelIndex) :
    Core.Changes guard within core (cancelChannelTx vif mid i) := by
  unfold J2534.cancelChannelTx
  split
  · exact before
  · split
    · exact before
    · exact (before.touch _ ⟨rfl, id, id, id⟩ rfl).call (guard.txCancel _ _)

/-- A transmission whose job has ended is cancelled with the driver. -/
theorem Core.Changes.cancelEnded (p : ChannelIndex) :
    Core.Changes guard within core (cancelEnded vif mid p) := by
  unfold J2534.cancelEnded
  extract_lets pending
  split
  · exact before
  · split
    · exact before
    · exact before.call (guard.txCancel _ _)

/-- A transmission of a job that is given up is discarded. -/
theorem Core.Changes.discardScheduled (i : ChannelIndex) (job : UInt32) :
    Core.Changes guard within core (discardScheduled vif mid i job) := by
  unfold J2534.discardScheduled
  split
  · exact before
  · extract_lets pending
    split
    · exact (before.touch _ ⟨rfl, id, id, id⟩ rfl).call (guard.txCancel _ _)
    · exact before

/-! ## Reception -/

/-- The transmitter hears a flow control, which may fail its message. -/
theorem Core.Changes.hearFrame (i : ChannelIndex) (frame : CanFrame) (answers : Option Nat) :
    Core.Changes guard within core (hearFrame vif mid i frame answers) := by
  have heard : Core.Changes guard within core (((mid.now vif).2.modify i fun channel =>
      { channel with
        isoTx := (txFlowControl ((mid.now vif).2.channels i).isoTx frame (mid.now vif).1).2
        }).record (.heard i ((mid.now vif).2.channels i).isoTx (mid.now vif).1 answers)) :=
    (before.now.touch i ⟨rfl, id, id, id⟩ rfl).note rfl
  unfold J2534.hearFrame
  dsimp only
  split
  · exact heard.txDone i _ _
  · exact heard

/-- The repeats of a channel see a message. -/
theorem Core.Changes.scheduleReceive (i : ChannelIndex) (data : List UInt8) (flags : UInt32)
    (timestamp : Time) (lapse : within .lapse = true) :
    Core.Changes guard within core (mid.modify i fun channel =>
      { channel with scheduler := scheduleReceive channel.scheduler data flags timestamp }) :=
  before.tail (.lapse i (J2534.scheduleReceive · data flags timestamp) lapse
    (scheduleReceive_lapses _ data flags timestamp))

/-- A reassembled message is seen by the repeats of the channel and of its bus. -/
theorem Core.Changes.scheduleComplete (i : ChannelIndex) (data : List UInt8) (flags : UInt32)
    (timestamp : Time) (lapse : within .lapse = true) :
    Core.Changes guard within core (scheduleComplete mid i data flags timestamp) := by
  unfold J2534.scheduleComplete
  extract_lets channel see own
  have first : Core.Changes guard within core own :=
    before.scheduleReceive i data flags timestamp lapse
  split
  · refine List.foldlRecOn (motive := fun last => Core.Changes guard within core last) _ _ first ?_
    intro last changes peer _
    dsimp only
    split
    · exact changes.scheduleReceive peer data flags timestamp lapse
    · exact changes
  · exact first

/-- A segment begins a reception, or completes one. -/
theorem Core.Changes.deliverSegment (i : ChannelIndex) (frame : CanFrame) (segment : Segment)
    (timestamp : Time) (deliver : within .deliver = true) (lapse : within .lapse = true) :
    Core.Changes guard within core (deliverSegment mid i frame segment timestamp) := by
  have begun : Core.Changes guard within core (beginReception mid i frame segment timestamp) := by
    unfold beginReception
    extract_lets channel counted
    have next : Core.Changes guard within core counted := before.touch i ⟨rfl, id, id, id⟩ rfl
    split
    · split
      · exact next
      · exact next.indicate ..
    · exact before
  unfold J2534.deliverSegment
  extract_lets channel after
  split
  · exact (begun.scheduleComplete i _ _ _ lapse).deliver _ _ _ _ _ deliver
  · exact begun

/-- The receiver has a flow control ready, which is stored for its turn. -/
theorem Core.Changes.storeFlowControl (i : ChannelIndex) :
    Core.Changes guard within core (storeFlowControl vif mid i) := by
  have aged : Core.Changes guard within core ((mid.now vif).2.record (.aged i
      ((mid.now vif).2.channels i).flowControlPending ((mid.now vif).2.channels i).isoRx
      (mid.now vif).1)) := before.now.note rfl
  unfold J2534.storeFlowControl
  dsimp only
  split
  · exact aged.touch i ⟨rfl, id, id, id⟩ rfl
  case h_2 receiver frame made =>
    refine aged.touch i ⟨rfl, id, id, fun _ => ?_⟩ rfl
    exact rxFlowControl_dlc_le (congrArg (fun answer => answer.2.2) made)

/-- The receiver is fed. -/
theorem Core.Changes.feedFrame (i : ChannelIndex) (frame : CanFrame) (timestamp : Time)
    (answers : Option Nat) (deliver : within .deliver = true) (lapse : within .lapse = true) :
    Core.Changes guard within core (feedFrame vif mid i frame timestamp answers) := by
  unfold J2534.feedFrame
  dsimp only
  split
  · exact ((before.now.note rfl).note rfl).touch i ⟨rfl, id, id, id⟩ rfl
  · refine Core.Changes.storeFlowControl (Core.Changes.deliverSegment ?_ i _ _ _ deliver lapse) i
    exact ((before.now.note rfl).note rfl).touch i ⟨rfl, id, id, id⟩ rfl

/-- A frame is heard by the transmitter of a logical channel and fed to its receiver. -/
theorem Core.Changes.logicalReceive (i : ChannelIndex) (frame : CanFrame) (timestamp : Time)
    (answers : Option Nat) (deliver : within .deliver = true) (lapse : within .lapse = true) :
    Core.Changes guard within core (logicalReceive vif mid i frame timestamp answers) := by
  unfold J2534.logicalReceive
  split
  · extract_lets heard
    split
    · exact before.hearFrame i _ _
    · exact (before.hearFrame i _ _).feedFrame i _ _ _ deliver lapse
  · exact before.feedFrame i _ _ _ deliver lapse

/-- A link that goes down fails what it carried, and the client is told. -/
theorem Core.Changes.linkDown (i : ChannelIndex) (timestamp : Time) (lapse : within .lapse = true) :
    Core.Changes guard within core (linkDown vif mid i timestamp) := by
  unfold J2534.linkDown
  extract_lets lost cancelled failed
  have first : Core.Changes guard within core lost :=
    before.tail (.lapse i scheduleReceiveLost lapse (scheduleReceiveLost_lapses _))
  have second : Core.Changes guard within core cancelled := first.cancelChannelTx i
  have third : Core.Changes guard within core failed := by
    unfold failed
    split
    · exact second.txDone i _ _
    · exact second
  refine Core.Changes.indicate ?_ i _ _ _ _
  unfold resetLogical
  split
  · exact (third.touch i ⟨rfl, id, id, id⟩ rfl).note rfl
  · exact third

theorem Core.Changes.markLoss (i : ChannelIndex) (lost : Nat) (lapse : within .lapse = true) :
    Core.Changes guard within core (markLoss mid i lost) :=
  before.tail (.lose i lost lapse)

/-- A record is seen by the repeats, and delivered if a filter passes it. -/
theorem Core.Changes.deliverRecord (p : ChannelIndex) (msg : BusMsg) (data : List UInt8)
    (flags : UInt32) (deliver : within .deliver = true) (lapse : within .lapse = true) :
    Core.Changes guard within core (deliverRecord mid p msg data flags) := by
  unfold J2534.deliverRecord
  extract_lets seen flags
  have scheduled : Core.Changes guard within core seen := by
    unfold seen
    split
    · exact before
    · exact before.scheduleReceive p _ _ _ lapse
  split
  · exact scheduled.deliver _ _ _ _ _ deliver
  · exact scheduled

/-- A frame goes to the logical channels of its bus, and to its own client. -/
theorem Core.Changes.receiveCan (p : ChannelIndex) (msg : BusMsg) (deliver : within .deliver = true)
    (lapse : within .lapse = true) : Core.Changes guard within core (receiveCan vif mid p msg) := by
  unfold J2534.receiveCan
  extract_lets channel flags data frame after
  split
  · exact before
  · refine Core.Changes.deliverRecord ?_ p _ _ _ deliver lapse
    refine List.foldlRecOn (motive := fun last => Core.Changes guard within core last) _ _ before ?_
    intro last changes i _
    split
    · exact changes.logicalReceive i _ _ _ deliver lapse
    · exact changes

/-- A message goes to the client without its checksum. -/
theorem Core.Changes.receiveBytes (p : ChannelIndex) (msg : BusMsg)
    (deliver : within .deliver = true) (lapse : within .lapse = true) :
    Core.Changes guard within core (receiveBytes mid p msg) := by
  unfold J2534.receiveBytes
  extract_lets checked len
  split
  · exact before
  · split
    · exact before
    · exact before.deliverRecord p _ _ _ deliver lapse

end Walk

/-! ## Polling -/

section Polling

variable {σ : Type*} {vif : Vif σ} {guard : Guard vif} {within : Matter → Bool}
  {core mid : Core σ} (before : Core.Changes guard within core mid)
  (deliver : within .deliver = true) (lapse : within .lapse = true) (job : within .job = true)
  (poll : within .poll = true)
include before deliver lapse job poll

/-- One record of a bus is served: a result is collected, a loss marked, and its message
received. -/
theorem Core.Changes.receiveRecord (p : ChannelIndex) (msg : BusMsg) :
    Core.Changes guard within core (receiveRecord vif mid p msg) := by
  unfold J2534.receiveRecord
  extract_lets first second third id' lost marked
  have received : Core.Changes guard within core first := before.tail (.receive p msg poll)
  have collected : Core.Changes guard within core third :=
    (received.collectBusTx p (fun _ => deliver) fun _ => job).touch p ⟨rfl, id, id, id⟩ rfl
  split
  · refine List.foldlRecOn (motive := fun last => Core.Changes guard within core last) _ _ ?_ ?_
    · exact collected.touch p ⟨rfl, id, id, id⟩ rfl
    · intro last changes i _
      split
      · exact changes.linkDown i _ lapse
      · exact changes
  have marks : Core.Changes guard within core marked := by
    unfold marked
    split
    · refine List.foldlRecOn (motive := fun last => Core.Changes guard within core last) _ _ ?_ ?_
      · exact collected.markLoss p _ lapse
      · intro last changes i _
        split
        · exact changes.markLoss i _ lapse
        · exact changes
    · exact collected
  split
  · exact marks
  split
  · exact marks.indicate ..
  split
  · exact marks.indicate ..
  split
  · exact marks.receiveCan p msg deliver lapse
  · exact marks.receiveBytes p msg deliver lapse

/-- Records are served until the bus has no more, or the burst is over. -/
theorem Core.Changes.pollBurst (p : ChannelIndex) (burst : Nat) :
    Core.Changes guard within core (pollBurst vif p burst mid) := by
  induction burst generalizing mid with
  | zero => exact before
  | succ burst ih =>
      have received := before.call (guard.recv (mid.channels p).bus mid.env)
      rw [J2534.pollBurst]
      dsimp only
      split
      · exact received.tail (.drain p true poll)
      · exact ih (received.receiveRecord deliver lapse job poll p _)

/-- A bus is polled. -/
theorem Core.Changes.pollRx (p : ChannelIndex) :
    Core.Changes guard within core (pollRx vif mid p) :=
  Core.Changes.pollBurst (before.tail (.drain p false poll)) deliver lapse job poll p 32

end Polling

end OpenDiag.J2534
