import OpenDiag.J2534.Changes
import OpenDiag.J2534.Plan

/-!
# What selection depends on

Most functions of the core leave alone what a scheduled message is picked by, or only end jobs. The
others record what they do to a job, and a submission is recorded with what it was picked among.
-/

namespace OpenDiag.J2534

/-! ## Functions that leave the schedulers alone -/

/-- The fields of a channel that selection depends on are the same, and so are its objects; no
scheduled message has been put under way. -/
structure Channel.Held (channel next : Channel) : Prop where
  scheduler : next.scheduler = channel.scheduler
  objects : next.objects = channel.objects
  rxDrained : next.rxDrained = channel.rxDrained
  under : next.pending.kind = .scheduled → channel.pending.kind = .scheduled

/-- Nothing that selection depends on has changed since an earlier state, and no object. -/
structure Still {σ : Type*} (core next : Core σ) : Prop where
  held : ∀ i, (core.channels i).Held (next.channels i)
  log : ∃ events, next.log = core.log ++ events ∧ ∀ event ∈ events, event.unplanned = true
  device : next.device = core.device
  nextId : next.nextId = core.nextId

section Stillness

variable {σ : Type*} {core mid next : Core σ}

theorem Channel.Held.refl (channel : Channel) : channel.Held channel :=
  ⟨rfl, rfl, rfl, fun kind => kind⟩

theorem Channel.Held.trans {channel mid next : Channel} (first : channel.Held mid)
    (second : mid.Held next) : channel.Held next where
  scheduler := second.scheduler.trans first.scheduler
  objects := second.objects.trans first.objects
  rxDrained := second.rxDrained.trans first.rxDrained
  under := fun kind => first.under (second.under kind)

/-- A channel that selection finds as it was has its identifier, which is one of its objects. -/
theorem Channel.Held.id {channel next : Channel} (held : channel.Held next) :
    next.id = channel.id :=
  congrArg Objects.id held.objects

theorem Channel.Held.parent {channel next : Channel} (held : channel.Held next) :
    next.parent = channel.parent :=
  congrArg Objects.parent held.objects

/-- A transmission or a reception that moves on is none of the scheduler's business. -/
theorem Channel.Aside.held {channel next : Channel} (aside : channel.Aside next) :
    channel.Held next where
  scheduler := (congrArg Channel.scheduler aside.same :)
  objects := (congrArg Channel.objects aside.same :)
  rxDrained := (congrArg Channel.rxDrained aside.same :)
  under := aside.under

/-- Nothing has been recorded since an earlier state that changes a job. -/
theorem log_append_nil {next : Core σ} (same : next.log = core.log) :
    ∃ events, next.log = core.log ++ events ∧ ∀ event ∈ events, event.unplanned = true :=
  ⟨[], by rw [same, List.append_nil], fun _ member => absurd member List.not_mem_nil⟩

/-- A note plans nothing. -/
theorem Event.unplanned_of_note {event : Event} (noted : event.isNote = true) :
    event.unplanned = true := by
  cases event with
  | scheduled => cases noted
  | job => cases noted
  | _ => rfl

theorem Still.refl (core : Core σ) : Still core core :=
  ⟨fun _ => .refl _, log_append_nil rfl, rfl, rfl⟩

/-- What is unnoticed twice over is unnoticed: what has been recorded in between adds up. -/
theorem Still.trans (first : Still core mid) (second : Still mid next) : Still core next := by
  obtain ⟨held, ⟨events, log, unplanned⟩, device, nextId⟩ := first
  obtain ⟨held', ⟨events', log', unplanned'⟩, device', nextId'⟩ := second
  exact ⟨fun i => (held i).trans (held' i), ⟨events ++ events',
    by rw [log', log, List.append_assoc], List.forall_mem_append.2 ⟨unplanned, unplanned'⟩⟩,
    device'.trans device, nextId'.trans nextId⟩

/-- A channel is found by the identifiers alone. -/
theorem findChannel_of_ids (same : ∀ i, (next.channels i).id = (core.channels i).id) (id : UInt32) :
    findChannel next id = findChannel core id := by
  simp only [findChannel, same]

/-- The channel that stands for the bus of another depends on identifiers and parents. -/
theorem physicalChannel_of_ids (id : ∀ i, (next.channels i).id = (core.channels i).id)
    (parent : ∀ i, (next.channels i).parent = (core.channels i).parent) (i : ChannelIndex) :
    physicalChannel next i = physicalChannel core i := by
  simp only [physicalChannel, parent, findChannel_of_ids id]

/-- So does which channels are on a bus. -/
theorem onBus_of_ids (id : ∀ i, (next.channels i).id = (core.channels i).id)
    (parent : ∀ i, (next.channels i).parent = (core.channels i).parent) (p i : ChannelIndex) :
    onBus next p i = onBus core p i := by
  simp only [onBus, id, physicalChannel_of_ids id parent]

/-- The jobs of a bus are those that they were. -/
theorem Still.busJobs (still : Still core next) (p : ChannelIndex) :
    busJobs next p = busJobs core p := by
  have same : onBus next p = onBus core p :=
    funext (onBus_of_ids (fun i => (still.held i).id) (fun i => (still.held i).parent) p)
  simp only [J2534.busJobs, same, (still.held _).scheduler]

section Steps

variable (before : Still core mid)
include before

/-- One channel is touched where selection does not look. -/
theorem Still.modify (i : ChannelIndex) {change : Channel → Channel}
    (held : (mid.channels i).Held (change (mid.channels i))) : Still core (mid.modify i change) := by
  refine before.trans ⟨fun j => ?_, log_append_nil rfl, rfl, rfl⟩
  by_cases here : j = i
  · subst here
    simpa [Core.modify] using held
  · simpa [Core.modify, Function.update_of_ne here] using Channel.Held.refl _

/-- An event is recorded that submits nothing and changes no job. -/
theorem Still.record {event : Event} (unplanned : event.unplanned = true) :
    Still core (mid.record event) :=
  before.trans ⟨fun _ => .refl _, ⟨[event], rfl, by simpa using unplanned⟩, rfl, rfl⟩

/-- Selection does not ask the vehicle interface. -/
theorem Still.env (env : σ) : Still core { mid with env } :=
  ⟨before.held, before.log, before.device, before.nextId⟩

/-- What the client is given to read is not selected from. -/
theorem Still.enqueue (i : ChannelIndex) (handle status : UInt32) (timestamp : Time)
    (data : List UInt8) (indication : Bool) :
    Still core (enqueue mid i handle status timestamp data indication) :=
  (before.modify i ⟨rfl, rfl, rfl, id⟩).record rfl

end Steps

/-- What may be changed of a core that selection is not to notice. -/
def Matter.isUnnoticed : Matter → Bool
  | .deliver | .read => true
  | _ => false

variable {vif : Vif σ} {guard : Guard vif}

/-- Such a change leaves alone what selection depends on. -/
theorem Core.Change.still (change : Core.Change guard Matter.isUnnoticed core next) :
    Still core next := by
  have here : Still core core := .refl core
  cases change with
  | call => exact here.env _
  | note noted => exact here.record (Event.unplanned_of_note noted)
  | touch i aside => exact here.modify i aside.held
  | enqueue => exact here.enqueue ..
  | lapse _ _ fits => cases fits
  | lose _ _ fits => cases fits
  | job _ _ _ _ fits => cases fits
  | receive _ _ fits => cases fits
  | drain _ _ fits => cases fits
  | begin p pending fits =>
      exact here.modify p ⟨rfl, rfl, rfl, fun kind => absurd (fits kind) Bool.false_ne_true⟩

/-- Any number of such changes leave it alone, by induction on the changes. -/
theorem Core.Changes.still (changes : Core.Changes guard Matter.isUnnoticed core next) :
    Still core next := by
  induction changes with
  | refl => exact .refl core
  | tail _ change ih => exact ih.trans change.still

variable (before : Still core mid) (vif)
include before

/-- Flow controls are not picked; a scheduled message that is under way would be collected. -/
theorem Still.serviceFlow (p : ChannelIndex) (sent : Nat)
    (unscheduled : (mid.channels p).pending.kind ≠ .scheduled) :
    Still core (serviceFlow vif p sent mid) := by
  have walked : Core.Changes (Guard.none vif) Matter.isUnnoticed mid
      (J2534.serviceFlow vif p sent mid) :=
    .serviceFlow (.refl mid) p sent rfl fun changes kind =>
      absurd ((changes.still.held p).under kind) unscheduled
  exact before.trans walked.still

/-- Stored messages are sent beside the scheduled ones. -/
theorem Still.pollTx (i : ChannelIndex) : Still core (pollTx vif mid i) := by
  have walked : Core.Changes (Guard.none vif) Matter.isUnnoticed mid (J2534.pollTx vif mid i) :=
    .pollTx (.refl mid) i rfl fun _ _ => trivial
  exact before.trans walked.still

/-- A transmission that is cancelled stays with its job until it is collected. -/
theorem Still.cancelChannelTx (i : ChannelIndex) : Still core (cancelChannelTx vif mid i) := by
  have walked : Core.Changes (Guard.none vif) Matter.isUnnoticed mid
      (J2534.cancelChannelTx vif mid i) := .cancelChannelTx (.refl mid) i
  exact before.trans walked.still

/-- Where the job of a transmission has ended, only the driver is told. -/
theorem Still.cancelEnded (p : ChannelIndex) : Still core (cancelEnded vif mid p) := by
  have walked : Core.Changes (Guard.none vif) Matter.isUnnoticed mid
      (J2534.cancelEnded vif mid p) := .cancelEnded (.refl mid) p
  exact before.trans walked.still

/-- Stored messages are not picked either. -/
theorem Still.serviceTx (p : ChannelIndex) (cursor : Nat) (offsets : List Nat) :
    Still core (serviceTx vif p cursor offsets mid) := by
  induction offsets generalizing mid with
  | nil => exact before
  | cons offset offsets ih =>
      rw [J2534.serviceTx]
      dsimp only
      split
      · split
        · exact (before.pollTx vif _).modify p ⟨rfl, rfl, rfl, id⟩
        · exact ih (before.pollTx vif _)
      · exact ih before

end Stillness

/-! ## Functions that end jobs -/

/-- Jobs of a channel may have ended; they are there still. -/
structure Channel.Calmer (channel next : Channel) : Prop where
  jobs : ∀ slot, (channel.scheduler slot).Quieter (next.scheduler slot)
  objects : next.objects = channel.objects

/-- Since an earlier state, jobs may have ended, but none has been submitted or moved. -/
structure Calm {σ : Type*} (core next : Core σ) : Prop where
  calmer : ∀ i, (core.channels i).Calmer (next.channels i)
  log : ∃ events, next.log = core.log ++ events ∧ ∀ event ∈ events, event.unplanned = true
  device : next.device = core.device
  nextId : next.nextId = core.nextId

section Calmness

variable {σ : Type*} {core mid next : Core σ}

/-- A job that lapses keeps its place and its identifier. -/
theorem Job.Lapses.name {job next : Job} (lapses : job.Lapses next) : next.name = job.name := by
  rw [Job.name, Job.name, lapses.id, lapses.kind]

theorem Channel.Calmer.refl (channel : Channel) : channel.Calmer channel :=
  ⟨fun _ => .refl _, rfl⟩

theorem Channel.Calmer.trans {channel mid next : Channel} (first : channel.Calmer mid)
    (second : mid.Calmer next) : channel.Calmer next where
  jobs := fun slot => (first.jobs slot).trans (second.jobs slot)
  objects := second.objects.trans first.objects

/-- Jobs that end take no identifier of a channel away. -/
theorem Channel.Calmer.id {channel next : Channel} (calmer : channel.Calmer next) :
    next.id = channel.id :=
  congrArg Objects.id calmer.objects

theorem Channel.Calmer.parent {channel next : Channel} (calmer : channel.Calmer next) :
    next.parent = channel.parent :=
  congrArg Objects.parent calmer.objects

/-- Jobs of a channel have lapsed, and nothing else has changed that matters. -/
theorem Channel.Calmer.of_lapses {channel next : Channel}
    (lapses : ∀ slot, (channel.scheduler slot).Lapses (next.scheduler slot))
    (rest : next.objects = { channel.objects with jobs := fun slot => (next.scheduler slot).name }) :
    channel.Calmer next where
  jobs := fun slot => (lapses slot).toQuieter
  objects := by
    rw [rest, funext fun slot => (lapses slot).name]
    rfl

/-- Where no job has changed, none has been submitted or moved. -/
theorem Channel.Held.calmer {channel next : Channel} (held : channel.Held next) :
    channel.Calmer next where
  jobs := fun slot => by
    rw [held.scheduler]
    exact .refl _
  objects := held.objects

theorem Calm.refl (core : Core σ) : Calm core core :=
  ⟨fun _ => .refl _, log_append_nil rfl, rfl, rfl⟩

/-- What has ended jobs twice over has ended jobs. -/
theorem Calm.trans (first : Calm core mid) (second : Calm mid next) : Calm core next := by
  obtain ⟨calmer, ⟨events, log, unplanned⟩, device, nextId⟩ := first
  obtain ⟨calmer', ⟨events', log', unplanned'⟩, device', nextId'⟩ := second
  exact ⟨fun i => (calmer i).trans (calmer' i), ⟨events ++ events',
    by rw [log', log, List.append_assoc], List.forall_mem_append.2 ⟨unplanned, unplanned'⟩⟩,
    device'.trans device, nextId'.trans nextId⟩

/-- The objects stay. -/
theorem Calm.tables (calm : Calm core next) : next.tables = core.tables :=
  tables_ext calm.device calm.nextId fun i => (calm.calmer i).objects

/-- What selection does not notice ends no job. -/
theorem Still.calm (still : Still core next) : Calm core next :=
  ⟨fun i => (still.held i).calmer, still.log, still.device, still.nextId⟩

variable (before : Calm core mid)
include before

theorem Calm.still (still : Still mid next) : Calm core next :=
  before.trans still.calm

/-- Jobs of one channel may end. -/
theorem Calm.modify (i : ChannelIndex) {change : Channel → Channel}
    (calmer : (mid.channels i).Calmer (change (mid.channels i))) :
    Calm core (mid.modify i change) := by
  refine before.trans ⟨fun j => ?_, log_append_nil rfl, rfl, rfl⟩
  by_cases here : j = i
  · subst here
    simpa [Core.modify] using calmer
  · simpa [Core.modify, Function.update_of_ne here] using Channel.Calmer.refl _

/-- An event is recorded that submits nothing and changes no job. -/
theorem Calm.record {event : Event} (unplanned : event.unplanned = true) :
    Calm core (mid.record event) :=
  before.still ((Still.refl mid).record unplanned)

end Calmness

end OpenDiag.J2534
