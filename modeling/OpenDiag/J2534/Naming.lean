import OpenDiag.J2534.PlanMoves

/-!
# What requests do to the objects of a device

A request that is refused leaves every object in its place, and so does a poll. One that is served
adds an object with an identifier that has just been given, or removes the ones that it names.
-/

namespace OpenDiag.J2534

/-! ## Tables -/

/-- The next identifier. -/
def Tables.fresh (tables : Tables) : UInt32 :=
  if tables.nextId + 1 = 0 then 1 else tables.nextId + 1

/-- An identifier is given. -/
def Tables.advance (tables : Tables) : Tables :=
  { tables with nextId := tables.fresh }

def Objects.setJob (objects : Objects) (slot : Slot) (name : UInt32 × ScheduleKind) : Objects :=
  { objects with jobs := Function.update objects.jobs slot name }

def Objects.setFilter (objects : Objects) (k : Nat) (id : UInt32) : Objects :=
  { objects with filters := objects.filters.set k id }

/-- The objects of a channel that is not connected. -/
def Objects.none : Objects :=
  ({} : Channel).objects

section Requests

variable {σ : Type*} {vif : Vif σ} {core : Core σ} {i : ChannelIndex}

/-- One slot of a channel is filled anew, and its other objects stay. -/
theorem objects_setJob (channel : Channel) (slot : Slot) (job : Job) :
    ({ channel with scheduler := Function.update channel.scheduler slot job } : Channel).objects =
      channel.objects.setJob slot job.name := by
  unfold Channel.objects Objects.setJob
  congr 1
  funext other
  by_cases here : other = slot
  · subst here
    simp
  · simp [Function.update_of_ne here]

/-- The same, seen in the tables. -/
theorem tables_setJob (core : Core σ) (i : ChannelIndex) (slot : Slot) (job : Job) :
    (core.modifyJob i slot fun _ => job).tables =
      core.tables.put i ((core.tables.channels i).setJob slot job.name) := by
  rw [Core.modifyJob, tables_modify, objects_setJob]
  rfl

/-- The objects of one channel have changed. -/
def Tables.Changed (tables : Tables) (i : ChannelIndex) (change : Objects → Objects → Prop)
    (next : Tables) : Prop :=
  ∃ objects, change (tables.channels i) objects ∧ next = tables.put i objects

/-- A job has been started in a free slot. -/
def Objects.Started (id : UInt32) (repeats : Bool) (objects next : Objects) : Prop :=
  ∃ slot kind, Slot.isRepeat slot = repeats ∧ (kind ≠ .periodic ↔ repeats = true) ∧
    (objects.jobs slot).1 = 0 ∧ next = objects.setJob slot (id, kind)

/-- A job has been stopped. -/
def Objects.Stopped (id : UInt32) (repeats : Bool) (objects next : Objects) : Prop :=
  ∃ slot, id ≠ 0 ∧ (objects.jobs slot).1 = id ∧
    ((objects.jobs slot).2 ≠ .periodic ↔ repeats = true) ∧
    next = objects.setJob slot (0, .periodic)

def Objects.FilterStarted (id : UInt32) (objects next : Objects) : Prop :=
  ∃ k, objects.filters[k]? = some 0 ∧ next = objects.setFilter k id

def Objects.FilterStopped (id : UInt32) (objects next : Objects) : Prop :=
  ∃ k, id ≠ 0 ∧ objects.filters[k]? = some id ∧ next = objects.setFilter k 0

def Objects.clearFilters (objects : Objects) : Objects :=
  { objects with filters := List.replicate filterMax 0 }

/-- A request has been served, with an effect on the objects, or refused with none. -/
def Answered (status : Status) (core next : Core σ) (effect : Tables → Prop) : Prop :=
  status = .ok ∧ effect next.tables ∨ status ≠ .ok ∧ next.tables = core.tables

/-- A request that fails at once leaves the tables as they were. -/
theorem Answered.refused {status : Status} {effect : Tables → Prop} (error : status ≠ .ok) :
    Answered status core core effect :=
  .inr ⟨error, rfl⟩

/-- A job that is put into a free slot is the object with the next identifier. -/
theorem started_changeJob {mid : Core σ} {repeats : Bool} {slot : Slot} {job : Job}
    (free : scheduleAllocate (core.channels i).scheduler repeats = some slot)
    (given : mid.tables = core.tables.advance) (id : job.id = core.tables.fresh)
    (kind : job.kind ≠ .periodic ↔ repeats = true) :
    core.tables.advance.Changed i (Objects.Started core.tables.fresh repeats)
      (mid.changeJob i slot .started fun _ => job).tables := by
  have chosen := List.find?_some free
  rw [Bool.and_eq_true, decide_eq_true_eq, decide_eq_true_eq] at chosen
  refine ⟨_, ⟨slot, job.kind, chosen.1, kind, chosen.2, rfl⟩, ?_⟩
  have changed := tables_setJob mid i slot job
  rw [given] at changed
  rw [← id]
  exact changed

/-- A periodic message is started under the next identifier, or nothing is given. -/
theorem startPeriodic_answered (periodic : Periodic) :
    Answered (startPeriodic vif core i periodic).1 core (startPeriodic vif core i periodic).2
      (core.tables.advance.Changed i (Objects.Started core.tables.fresh false)) := by
  unfold J2534.startPeriodic
  split
  · exact .refused (by simp)
  case h_2 message _ =>
    split
    · exact .refused (by simp)
    obtain ⟨env, same⟩ := @validateMessage_env σ vif core i message.protocol message.txFlags
      message.data true
    generalize validateMessage vif core i message.protocol message.txFlags message.data true =
      answer at same ⊢
    obtain ⟨status, mid⟩ := answer
    dsimp only at same ⊢
    subst same
    split
    case isTrue error => exact .inr ⟨error, rfl⟩
    · split
      · exact .inr ⟨by simp, rfl⟩
      case h_2 slot free => exact .inl ⟨rfl, started_changeJob free rfl rfl (by simp)⟩

/-- A repeat message is started under the next identifier, or nothing is given. -/
theorem startRepeat_answered (setup : RepeatSetup) :
    Answered (startRepeat vif core i setup).1 core (startRepeat vif core i setup).2
      (core.tables.advance.Changed i (Objects.Started core.tables.fresh true)) := by
  unfold J2534.startRepeat
  extract_lets channel message mask pattern
  split
  · exact .refused (by simp)
  split
  · exact .refused (by simp)
  split
  · exact .refused (by simp)
  split
  · exact .refused (by simp)
  obtain ⟨env, same⟩ := @validateMessage_env σ vif core i message.protocol message.flags
    message.data true
  generalize validateMessage vif core i message.protocol message.flags message.data true =
    answer at same ⊢
  obtain ⟨status, mid⟩ := answer
  dsimp only at same ⊢
  subst same
  split
  case isTrue error => exact .inr ⟨error, rfl⟩
  split
  case isTrue error => exact .inr ⟨error, rfl⟩
  split
  · exact .inr ⟨by simp, rfl⟩
  case h_2 slot free =>
    refine .inl ⟨rfl, started_changeJob free rfl rfl ?_⟩
    dsimp only
    split <;> simp

/-- A job is stopped under its identifier and its kind, or nothing is taken. -/
theorem stopScheduled_answered (id : UInt32) (repeats : Bool) :
    Answered (stopScheduled vif core i id repeats).1 core (stopScheduled vif core i id repeats).2
      (core.tables.Changed i (Objects.Stopped id repeats)) := by
  unfold stopScheduled
  split
  · exact .refused (by simp)
  case h_2 slot found =>
    have chosen := List.find?_some found
    simp only [Bool.and_eq_true, decide_eq_true_eq] at chosen
    split
    case isTrue kind =>
      refine .inl ⟨rfl, _, ⟨slot, chosen.1, chosen.2, kind, rfl⟩, ?_⟩
      have discarded : (discardScheduled vif core i id).tables = core.tables :=
        ((steady_upkeep vif core).discardScheduled (.refl core) id).tables
      have cleared := tables_setJob (discardScheduled vif core i id) i slot {}
      rw [discarded] at cleared
      exact cleared
    · exact .refused (by simp)

/-- The periodic messages in some slots of a channel are gone. -/
def Objects.clearPeriodic (objects : Objects) (slots : List Slot) : Objects :=
  { objects with
    jobs := fun slot =>
      if slot ∈ slots ∧ Slot.isRepeat slot = false ∧ (objects.jobs slot).1 ≠ 0 then (0, .periodic)
      else objects.jobs slot }

/-- No slot, no periodic message. -/
theorem clearPeriodic_nil (objects : Objects) : objects.clearPeriodic [] = objects := by
  simp [Objects.clearPeriodic]

/-- A further slot is cleared if a periodic message is in it. -/
theorem clearPeriodic_concat {objects : Objects} {slots : List Slot} {slot : Slot}
    (fresh : slot ∉ slots) :
    objects.clearPeriodic (slots ++ [slot]) =
      if Slot.isRepeat slot || (objects.jobs slot).1 = 0 then objects.clearPeriodic slots
      else (objects.clearPeriodic slots).setJob slot (0, .periodic) := by
  split
  case isTrue kept =>
    unfold Objects.clearPeriodic
    congr 1
    funext other
    by_cases here : other = slot
    · subst here
      have stays : ¬ (Slot.isRepeat other = false ∧ (objects.jobs other).1 ≠ 0) := by
        rw [Bool.or_eq_true, decide_eq_true_eq] at kept
        rintro ⟨periodic, some⟩
        rcases kept with repeats | none
        · rw [periodic] at repeats
          cases repeats
        · exact some none
      simp [fresh, stays]
    · simp [here]
  case isFalse gone =>
    unfold Objects.clearPeriodic Objects.setJob
    congr 1
    funext other
    by_cases here : other = slot
    · subst here
      have cleared : Slot.isRepeat other = false ∧ (objects.jobs other).1 ≠ 0 := by
        simpa using gone
      simp [cleared]
    · simp [here]

/-- All periodic messages of a channel are gone once every slot has been looked at. -/
theorem clearPeriodic_tables :
    (clearPeriodic vif core i).tables =
      core.tables.put i ((core.tables.channels i).clearPeriodic (List.finRange _)) := by
  suffices prefixes : ∀ slots : List Slot, slots.Nodup →
      (slots.foldl (fun core slot =>
        let id := ((core.channels i).scheduler slot).id
        if Slot.isRepeat slot || id = 0 then core
        else (discardScheduled vif core i id).modifyJob i slot fun _ => {}) core).tables =
        core.tables.put i ((core.tables.channels i).clearPeriodic slots) from
    prefixes _ (List.nodup_finRange _)
  intro slots
  induction slots using List.reverseRecOn with
  | nil =>
      intro _
      rw [clearPeriodic_nil]
      simp [Tables.put]
  | append_singleton slots slot ih =>
      intro distinct
      have apart := List.nodup_append.1 distinct
      have fresh : slot ∉ slots := fun member =>
        apart.2.2 slot member slot (List.mem_singleton_self slot) rfl
      have before := ih apart.1
      rw [List.foldl_append]
      generalize slots.foldl _ core = mid at before ⊢
      have own : (mid.tables.channels i).jobs slot = (core.tables.channels i).jobs slot := by
        rw [before, Tables.put_channels_self]
        simp [Objects.clearPeriodic, fresh]
      have name : ((mid.channels i).scheduler slot).id =
          ((core.tables.channels i).jobs slot).1 := congrArg Prod.fst own
      rw [List.foldl_cons, List.foldl_nil, clearPeriodic_concat fresh]
      dsimp only
      rw [name]
      split
      · exact before
      · have discarded : (discardScheduled vif mid i
            ((core.tables.channels i).jobs slot).1).tables = mid.tables :=
          ((steady_upkeep vif mid).discardScheduled (.refl mid) _).tables
        rw [tables_setJob, discarded, before, Tables.put_put, Tables.put_channels_self]
        rfl

/-- One filter of a channel is set, seen in the tables. -/
theorem tables_setFilter (core : Core σ) (i : ChannelIndex) (k : Nat) (filter : Filter) :
    (core.modify i fun channel =>
      { channel with filters := channel.filters.set k filter }).tables =
      core.tables.put i ((core.tables.channels i).setFilter k filter.id) := by
  rw [tables_modify]
  simp [Channel.objects, Objects.setFilter, Core.tables, List.map_set]

/-- A filter is set under the next identifier, or nothing is given. -/
theorem startFilter_answered (setup : FilterSetup) :
    Answered (startFilter core i setup).1 core (startFilter core i setup).2
      (core.tables.advance.Changed i (Objects.FilterStarted core.tables.fresh)) := by
  unfold startFilter
  extract_lets channel can
  generalize (if channel.protocol = protocolPwm then 10 else 12) = most
  generalize (if can then flag29Bit else 0) = allowed
  split
  · exact .refused (by simp)
  split
  · exact .refused (by simp)
  split
  · exact .refused (by simp)
  split
  · exact .refused (by simp)
  split
  · exact .refused (by simp)
  case h_2 k found =>
    obtain ⟨inside, free, -⟩ := List.findIdx?_eq_some_iff_getElem.1 found
    refine .inl ⟨rfl, _, ⟨k, ?_, rfl⟩, tables_setFilter (newId core).2 i k _⟩
    rw [decide_eq_true_eq] at free
    simp only [Tables.advance, Core.tables, Channel.objects, List.getElem?_map]
    rw [List.getElem?_eq_getElem inside, Option.map_some, free]

/-- A filter is removed under its identifier, or nothing is taken. -/
theorem stopFilter_answered (id : UInt32) :
    Answered (stopFilter core i id).1 core (stopFilter core i id).2
      (core.tables.Changed i (Objects.FilterStopped id)) := by
  unfold stopFilter
  split
  · exact .refused (by simp)
  case h_2 k found =>
    obtain ⟨inside, own, -⟩ := List.findIdx?_eq_some_iff_getElem.1 found
    rw [decide_eq_true_eq] at own
    refine .inl ⟨rfl, _, ⟨k, own.2 ▸ own.1, ?_, rfl⟩, tables_setFilter core i k {}⟩
    simp only [Core.tables, Channel.objects, List.getElem?_map]
    rw [List.getElem?_eq_getElem inside, Option.map_some, own.2]

/-- All filters of a channel are gone, or nothing is taken. -/
theorem clearFilters_answered :
    Answered (clearFilters core i).1 core (clearFilters core i).2
      (core.tables.Changed i fun objects next => next = objects.clearFilters) := by
  unfold clearFilters
  split
  · exact .refused (by simp)
  · refine .inl ⟨rfl, _, rfl, ?_⟩
    rw [tables_modify]
    simp [Channel.objects, Core.tables, Objects.clearFilters]

/-- What a request does to the objects of its channel, given the next identifier. -/
def Command.Changes (command : Command) (fresh : UInt32) (objects next : Objects) : Prop :=
  match command with
  | .startPeriodic _ => objects.Started fresh false next
  | .stopPeriodic id => objects.Stopped id false next
  | .startRepeat _ => objects.Started fresh true next
  | .stopRepeat id => objects.Stopped id true next
  | .startFilter _ => objects.FilterStarted fresh next
  | .stopFilter id => objects.FilterStopped id next
  | .clearPeriodic => next = objects.clearPeriodic (List.finRange _)
  | .clearFilters => next = objects.clearFilters
  | _ => next = objects

/-- Every change that a request makes stays within the channel. -/
theorem Command.Changes.same {command : Command} {fresh : UInt32} {objects objects' : Objects}
    (changes : command.Changes fresh objects objects') :
    objects'.id = objects.id ∧ objects'.parent = objects.parent := by
  cases command
  case startPeriodic =>
    obtain ⟨slot, kind, -, -, -, rfl⟩ := changes
    exact ⟨rfl, rfl⟩
  case stopPeriodic =>
    obtain ⟨slot, -, -, -, rfl⟩ := changes
    exact ⟨rfl, rfl⟩
  case startRepeat =>
    obtain ⟨slot, kind, -, -, -, rfl⟩ := changes
    exact ⟨rfl, rfl⟩
  case stopRepeat =>
    obtain ⟨slot, -, -, -, rfl⟩ := changes
    exact ⟨rfl, rfl⟩
  case startFilter =>
    obtain ⟨k, -, rfl⟩ := changes
    exact ⟨rfl, rfl⟩
  case stopFilter =>
    obtain ⟨k, -, -, rfl⟩ := changes
    exact ⟨rfl, rfl⟩
  all_goals
    obtain rfl := changes
    exact ⟨rfl, rfl⟩

/-- Whether what a request starts is given an identifier. -/
def Command.gives : Command → Bool
  | .startPeriodic _ | .startRepeat _ | .startFilter _ => true
  | _ => false

/-- The tables once a request on a channel has been served. -/
def Tables.Performed (tables : Tables) (i : ChannelIndex) (command : Command) : Tables → Prop :=
  (if command.gives then tables.advance else tables).Changed i (command.Changes tables.fresh)

/-- A request that starts and stops nothing answers for the tables as they are. -/
theorem Answered.of_steady {status : Status} {next : Core σ} {command : Command}
    (kept : Steady core next) (gives : command.gives = false)
    (changes : ∀ fresh objects, command.Changes fresh objects objects) :
    Answered status core next (core.tables.Performed i command) := by
  by_cases ok : status = .ok
  · refine .inl ⟨ok, ?_⟩
    rw [Tables.Performed, gives, kept.tables]
    exact ⟨_, changes _ _, (Tables.put_of_eq rfl).symm⟩
  · exact .inr ⟨ok, kept.tables⟩

/-- Every request on a channel does to the tables what its answer says. -/
theorem perform_answered (connected : (core.channels i).id ≠ 0) (command : Command) :
    Answered (perform vif core i command).1 core (perform vif core i command).2
      (core.tables.Performed i command) := by
  have upkeep : Upkeep (Guard.none vif) (Steady core) := steady_upkeep vif core
  have here : Steady core core := .refl core
  cases command <;> dsimp only [perform]
  case startPeriodic periodic => exact startPeriodic_answered periodic
  case stopPeriodic id => exact stopScheduled_answered id false
  case startRepeat setup => exact startRepeat_answered setup
  case stopRepeat id => exact stopScheduled_answered id true
  case startFilter setup => exact startFilter_answered setup
  case stopFilter id => exact stopFilter_answered id
  case clearPeriodic => exact .inl ⟨rfl, _, rfl, clearPeriodic_tables⟩
  case clearFilters => exact clearFilters_answered
  case read => exact .of_steady (upkeep.readChannel here) rfl fun _ _ => rfl
  case queue message =>
    exact .of_steady (upkeep.queueMessage here connected message) rfl fun _ _ => rfl
  case setConfig params => exact .of_steady (upkeep.setConfig params here) rfl fun _ _ => rfl
  case clearTxQueue => exact .of_steady (upkeep.clearTxQueue here) rfl fun _ _ => rfl
  case clearRxQueue => exact .of_steady (upkeep.clearRxQueue here) rfl fun _ _ => rfl
  case busOn => exact .of_steady (upkeep.setBusOn here) rfl fun _ _ => rfl

/-- So does every request of a client, on the channel that it names. -/
theorem request_answered (vif : Vif σ) (core : Core σ) (id : UInt32) (command : Command) :
    Answered (request vif core id command).1 core (request vif core id command).2
      fun next => ∃ i, id ≠ 0 ∧ (core.tables.channels i).id = id ∧
        core.tables.Performed i command next := by
  unfold request
  split
  · exact .refused (by simp)
  split
  · exact .refused (by simp)
  case h_2 i found =>
    have chosen := List.find?_some found
    rw [Bool.and_eq_true, decide_eq_true_eq, decide_eq_true_eq] at chosen
    split
    · have connected : (core.channels i).id ≠ 0 := fun gone => chosen.1 (chosen.2.symm.trans gone)
      exact (perform_answered connected command).imp
        (fun served => ⟨served.1, i, chosen.1, chosen.2, served.2⟩) fun refused => refused
    · exact .refused (by simp)

end Requests

/-! ## Disconnections -/

/-- Some channels are given up. -/
def Tables.release (tables : Tables) (gone : ChannelIndex → Prop) [DecidablePred gone] : Tables :=
  { tables with channels := fun j => if gone j then Objects.none else tables.channels j }

/-- A channel is given up, with the channels that stand on it. -/
def Tables.drop (tables : Tables) (i : ChannelIndex) : Tables :=
  tables.release fun j => j = i ∨ (tables.channels j).parent = (tables.channels i).id

section Connections

variable {σ : Type*} {drivers : Drivers σ} {core : Core (Station σ)} {i : ChannelIndex}

/-- A channel is given up with all its objects. -/
theorem tables_releaseChannel (core : Core σ) (i : ChannelIndex) :
    (releaseChannel core i).tables = core.tables.put i .none :=
  tables_modify core i _

/-- A transmission is no object. -/
theorem cancelChannelTx_tables :
    (cancelChannelTx drivers.vif core i).tables = core.tables :=
  (Steady.still (.refl core) ((Still.refl core).cancelChannelTx drivers.vif i)).tables

theorem Tables.release_channels {gone : ChannelIndex → Prop} [DecidablePred gone] (tables : Tables)
    (j : ChannelIndex) :
    (tables.release gone).channels j = if gone j then Objects.none else tables.channels j :=
  rfl

/-- Which channels are given up is all that matters, not how this is decided. -/
theorem Tables.release_congr {gone gone' : ChannelIndex → Prop} [DecidablePred gone]
    [DecidablePred gone'] {tables : Tables} (same : ∀ j, gone j ↔ gone' j) :
    tables.release gone = tables.release gone' := by
  refine Tables.ext rfl rfl (funext fun j => ?_)
  simp only [Tables.release_channels, same]

/-- One channel more is given up. -/
theorem Tables.release_put {gone : ChannelIndex → Prop} [DecidablePred gone] (tables : Tables)
    (i : ChannelIndex) :
    (tables.release gone).put i .none = tables.release fun j => j = i ∨ gone j := by
  refine Tables.ext rfl rfl (funext fun j => ?_)
  by_cases here : j = i
  · simp [Tables.put, Tables.release_channels, here]
  · simp [Tables.put, Tables.release_channels, here]

/-- The channels that stand on one are released in turn. -/
theorem release_children (core : Core σ) (id : UInt32) {indices : List ChannelIndex}
    (distinct : indices.Nodup) :
    (indices.foldl (fun core j =>
      if (core.channels j).parent = id then releaseChannel core j else core) core).tables =
      core.tables.release fun j => j ∈ indices ∧ (core.tables.channels j).parent = id := by
  induction indices using List.reverseRecOn with
  | nil =>
      refine Tables.ext rfl rfl (funext fun j => ?_)
      simp [Tables.release_channels]
  | append_singleton indices last ih =>
      have apart := List.nodup_append.1 distinct
      have fresh : last ∉ indices := fun member =>
        apart.2.2 last member last (List.mem_singleton_self last) rfl
      have before := ih apart.1
      rw [List.foldl_append, List.foldl_cons, List.foldl_nil]
      generalize indices.foldl _ core = mid at before ⊢
      have parent : (mid.channels last).parent = (core.tables.channels last).parent := by
        have own : (mid.channels last).parent = (mid.tables.channels last).parent := rfl
        rw [own, before, Tables.release_channels, if_neg fun both => fresh both.1]
      rw [parent]
      split
      case isTrue child =>
        rw [tables_releaseChannel, before, Tables.release_put]
        refine Tables.release_congr fun j => ?_
        by_cases here : j = last
        · simp [here, child]
        · simp [here]
      case isFalse other =>
        rw [before]
        refine Tables.release_congr fun j => ?_
        by_cases here : j = last
        · simp [here, other]
        · simp [here]

/-- A channel is given up with what stands on it, or a logical one alone, or nothing is. -/
theorem disconnectChannel_answered (drivers : Drivers σ) (core : Core (Station σ))
    (i : ChannelIndex) :
    Answered (disconnectChannel drivers core i).1 core (disconnectChannel drivers core i).2
      fun next => next =
        if (core.tables.channels i).parent = 0 then core.tables.drop i
        else core.tables.put i .none := by
  have cancelled : (cancelChannelTx drivers.vif core i).tables = core.tables :=
    cancelChannelTx_tables
  unfold J2534.disconnectChannel
  extract_lets after
  change after.tables = core.tables at cancelled
  have parent : (after.channels i).parent = (core.tables.channels i).parent :=
    congrArg (fun tables => (tables.channels i).parent) cancelled
  rw [parent]
  split
  · dsimp only
    split
    · refine .inl ⟨rfl, ?_⟩
      have id : (after.channels i).id = (core.tables.channels i).id :=
        congrArg (fun tables => (tables.channels i).id) cancelled
      have distinct : allChannels.Nodup := List.nodup_finRange _
      rw [tables_releaseChannel, release_children _ _ distinct, id]
      have kept : ({ after with env := (after.env.closeBus drivers (after.channels i).bus).2 } :
          Core (Station σ)).tables = core.tables := cancelled
      rw [kept, Tables.release_put]
      exact Tables.release_congr fun j => by simp [allChannels]
    · exact .inr ⟨by simp, cancelled⟩
  · refine .inl ⟨rfl, ?_⟩
    rw [tables_releaseChannel, cancelled]

/-- A disconnection gives up the channel that it names. -/
theorem disconnect_answered (drivers : Drivers σ) (core : Core (Station σ)) (id : UInt32)
    (logical : Bool) :
    Answered (disconnect drivers core id logical).1 core (disconnect drivers core id logical).2
      fun next => ∃ i, id ≠ 0 ∧ (core.tables.channels i).id = id ∧ next =
        if (core.tables.channels i).parent = 0 then core.tables.drop i
        else core.tables.put i .none := by
  unfold disconnect
  split
  · exact .refused (by simp)
  split
  · exact .refused (by simp)
  case h_2 i found =>
    split
    · exact .refused (by simp)
    · have chosen := List.find?_some found
      rw [Bool.and_eq_true, decide_eq_true_eq, decide_eq_true_eq] at chosen
      exact (disconnectChannel_answered drivers core i).imp
        (fun served => ⟨served.1, i, chosen.1, chosen.2, served.2⟩) fun refused => refused

/-! ## Connections -/

/-- A channel that is not connected has nothing. -/
def Tables.Neat (tables : Tables) : Prop :=
  ∀ i, (tables.channels i).id = 0 → tables.channels i = .none

/-- A channel that has been given an identifier, and nothing else. -/
def Objects.begun (id : UInt32) : Objects :=
  { Objects.none with id }

/-- `allocate_channel`: a free channel is given an identifier, or nothing is changed. -/
theorem allocateChannel_tables (drivers : Drivers σ) (neat : core.tables.Neat) (logical : Bool) :
    (∃ i, (allocateChannel drivers core logical).1 = some i ∧ (core.tables.channels i).id = 0 ∧
      (allocateChannel drivers core logical).2.tables =
        core.tables.advance.put i (.begun core.tables.fresh)) ∨
      (allocateChannel drivers core logical).1 = none ∧
        (allocateChannel drivers core logical).2.tables = core.tables := by
  unfold J2534.allocateChannel
  split
  · exact .inr ⟨rfl, rfl⟩
  case h_2 i found =>
    have chosen := List.find?_some found
    rw [Bool.and_eq_true, decide_eq_true_eq, decide_eq_true_eq] at chosen
    have none : core.tables.channels i = .none := neat i chosen.2
    dsimp only
    split
    · refine .inl ⟨i, rfl, chosen.2, ?_⟩
      dsimp only
      rw [tables_modify]
      have begun : (core.channels i).objects = Objects.none := none
      unfold Objects.begun
      rw [← begun]
      rfl
    · refine .inr ⟨rfl, ?_⟩
      rw [tables_releaseChannel]
      exact Tables.put_of_eq none

variable (drivers core) in
/-- `connect_channel`, where the driver of a bus that has been opened refuses a parameter and then
does not come down as the connection is taken back. -/
def openSticks (i : ChannelIndex) (bus : Bus) (req : ConnectRequest) : Bool :=
  let core := core.modify i fun channel =>
    { channel with
      bus, protocol := req.protocol, flags := req.flags, rate := req.baudrate }
  let (opened, env) := core.env.openBus drivers bus req.baudrate
  let (rc, env) := setUp drivers env bus req.protocol req.flags req.baudrate
  opened && rc ≠ 0 && (disconnectChannel drivers { core with env } i).1 ≠ .ok

variable (drivers core) in
/-- `connect_channel`, up to the channel that sticks. -/
def connectSticks (req : ConnectRequest) : Bool :=
  core.device ≠ 0 && req.device = core.device && req.connector = 1 &&
    match wiring req.protocol req.flags req.baudrate with
    | .error _ => false
    | .ok { bus, pins, allowed } =>
      req.flags &&& ~~~allowed = 0 && req.pins = pins &&
        let (busy, env) := core.env.busy drivers bus
        !busy &&
          match allocateChannel drivers { core with env } false with
          | (none, _) => false
          | (some i, core) => openSticks drivers core i bus req

/-- The tables once a channel has been connected. -/
def Tables.Connected (tables : Tables) (protocol : UInt32) (next : Tables) : Prop :=
  ∃ i, (tables.channels i).id = 0 ∧
    next = tables.advance.put i { Objects.begun tables.fresh with protocol }

/-- A connection that was refused has left the objects alone; an identifier may be spent. -/
def Tables.Untouched (tables next : Tables) : Prop :=
  next = tables ∨ next = tables.advance

/-- What a connection answers, and does to the objects, given whether it sticks. -/
def Outcome (tables next : Tables) (effect : Tables → Prop) (sticks : Bool) :
    Except ConnectError UInt32 → Prop
  | .ok id => sticks = false ∧ id = tables.fresh ∧ effect next
  | .error _ => if sticks then effect next else tables.Untouched next

/-- A channel that was begun and has nothing standing on it is given up without a trace. -/
theorem Tables.drop_put_of_childless {tables : Tables} {objects : Objects}
    (none : tables.channels i = .none)
    (childless : ∀ j, (tables.channels j).parent ≠ objects.id) :
    (tables.put i objects).drop i = tables := by
  refine Tables.ext rfl rfl (funext fun j => ?_)
  rw [Tables.drop, Tables.release_channels, Tables.put_channels_self]
  by_cases here : j = i
  · subst here
    simp [none]
  · rw [Tables.put_channels_of_ne _ _ here, if_neg (not_or.2 ⟨here, childless j⟩)]

/-- A channel that has been begun is connected, is taken back, or sticks where the driver does not
come down. -/
theorem openChannel_outcome {tables : Tables} (neat : tables.Neat)
    (free : (tables.channels i).id = 0)
    (childless : ∀ j, (tables.channels j).parent ≠ tables.fresh)
    (begun : core.tables = tables.advance.put i (.begun tables.fresh)) (bus : Bus)
    (req : ConnectRequest) :
    Outcome tables (openChannel drivers core i bus req).2.tables
      (tables.Connected req.protocol) (openSticks drivers core i bus req)
      (openChannel drivers core i bus req).1 := by
  have none : tables.advance.channels i = .none := neat i free
  unfold J2534.openChannel openSticks
  extract_lets opening
  have shape : opening.tables =
      tables.advance.put i { Objects.begun tables.fresh with protocol := req.protocol } := by
    have own : (core.channels i).objects = Objects.begun tables.fresh := by
      have same : core.tables.channels i = _ := congrFun (congrArg Tables.channels begun) i
      rwa [Tables.put_channels_self] at same
    have changed := tables_modify core i fun channel =>
      { channel with bus, protocol := req.protocol, flags := req.flags, rate := req.baudrate }
    rw [begun, Tables.put_put] at changed
    rw [← own]
    exact changed
  have id : (opening.channels i).id = tables.fresh := by
    have same : opening.tables.channels i = _ := congrFun (congrArg Tables.channels shape) i
    rw [Tables.put_channels_self] at same
    exact congrArg Objects.id same
  have connected : tables.Connected req.protocol opening.tables := ⟨i, free, shape⟩
  dsimp only
  generalize opening.env.openBus drivers bus req.baudrate = answer
  obtain ⟨opened, env⟩ := answer
  cases opened with
  | false =>
      refine .inr ?_
      have released := tables_releaseChannel
        { opening with env := (env.closeBus drivers bus).2 } i
      have kept : ({ opening with env := (env.closeBus drivers bus).2 } :
        Core (Station σ)).tables = opening.tables := rfl
      rw [kept, shape, Tables.put_put, Tables.put_of_eq none] at released
      exact released
  | true =>
      dsimp only
      generalize setUp drivers env bus req.protocol req.flags req.baudrate = answer
      obtain ⟨rc, env⟩ := answer
      dsimp only
      by_cases accepted : rc = 0
      · simp only [accepted, if_true]
        exact ⟨by simp, id, connected⟩
      · simp only [accepted, if_true, if_false]
        have kept : ({ opening with env } : Core (Station σ)).tables = opening.tables := rfl
        rcases disconnectChannel_answered drivers { opening with env } i with
          ⟨ok, down⟩ | ⟨failed, up⟩
        · have parent : (opening.tables.channels i).parent = 0 := by
            rw [shape, Tables.put_channels_self]
            rfl
          have taken : opening.tables.drop i = tables.advance := by
            rw [shape]
            exact Tables.drop_put_of_childless none childless
          rw [kept, if_pos parent, taken] at down
          simp only [ok, ne_eq, not_true_eq_false, decide_false, Bool.and_false]
          exact .inr down
        · simp only [accepted, failed, ne_eq, not_false_eq_true, decide_true, Bool.and_true]
          rw [up]
          exact connected

/-- A connection that fails at once leaves the tables as they were. -/
theorem Outcome.refused {tables : Tables} {effect : Tables → Prop} {err : ConnectError} :
    Outcome tables tables effect false (.error err) :=
  .inl rfl

/-- No identifier is given back by a disconnection. -/
theorem disconnectChannel_nextId :
    (disconnectChannel drivers core i).2.nextId = core.nextId := by
  rcases disconnectChannel_answered drivers core i with
    ⟨-, down⟩ | ⟨-, same⟩
  · have same := congrArg Tables.nextId down
    split at same
    · exact same
    · exact same
  · exact congrArg Tables.nextId same

/-- Nor is one given where a channel is opened: it was given before. -/
theorem openChannel_nextId (bus : Bus) (req : ConnectRequest) :
    (openChannel drivers core i bus req).2.nextId = core.nextId := by
  unfold J2534.openChannel
  dsimp only
  split
  · split
    · rfl
    · exact disconnectChannel_nextId
  · rfl

/-- What a connection does, as long as the identifiers last. -/
theorem connect_outcome (drivers : Drivers σ) (neat : core.tables.Neat)
    (childless : core.tables.nextId ≤ core.tables.fresh →
      ∀ j, (core.tables.channels j).parent ≠ core.tables.fresh) (req : ConnectRequest) :
    core.nextId ≤ (connect drivers core req).2.nextId →
      Outcome core.tables (connect drivers core req).2.tables (core.tables.Connected req.protocol)
        (connectSticks drivers core req) (connect drivers core req).1 := by
  unfold connect connectChannel connectSticks
  by_cases device : core.device = 0
  · simpa [device] using Outcome.refused
  by_cases own : req.device = core.device
  swap
  · simpa [device, own] using Outcome.refused
  by_cases connector : req.connector = 1
  swap
  · simpa [device, own, connector] using Outcome.refused
  cases wired : wiring req.protocol req.flags req.baudrate with
  | error err => simpa [device, own, connector, wired] using Outcome.refused
  | ok wires =>
      obtain ⟨bus, pins, allowed⟩ := wires
      by_cases flags : req.flags &&& ~~~allowed = 0
      swap
      · simpa [device, own, connector, wired, flags] using Outcome.refused
      by_cases same : req.pins = pins
      swap
      · simpa [device, own, connector, wired, flags, same] using Outcome.refused
      simp only [device, own, connector, flags, same, ne_eq, not_true_eq_false,
        not_false_eq_true, decide_true, Bool.true_and, if_false]
      generalize core.env.busy drivers bus = answer
      obtain ⟨busy, env⟩ := answer
      cases busy with
      | true => exact fun _ => .inl rfl
      | false =>
          have kept : ({ core with env } : Core (Station σ)).tables = core.tables := rfl
          rw [← kept] at neat
          have allocated := allocateChannel_tables drivers neat false
          rw [kept] at allocated neat
          simp only [Bool.not_false, Bool.true_and, Bool.false_eq_true, if_false]
          generalize J2534.allocateChannel drivers { core with env } false = answer at allocated ⊢
          obtain ⟨found, after⟩ := answer
          rcases allocated with ⟨i, rfl, free, begun⟩ | ⟨rfl, same⟩
          · intro grows
            have given : after.nextId = core.tables.fresh := congrArg Tables.nextId begun
            dsimp only at grows ⊢
            rw [openChannel_nextId, given] at grows
            exact openChannel_outcome neat free (childless grows) begun bus req
          · exact fun _ => .inl same

/-- The tables once a logical channel has been connected on a physical one. -/
def Tables.Stacked (tables : Tables) (physical : UInt32) (next : Tables) : Prop :=
  ∃ i, (tables.channels i).id = 0 ∧ next = tables.advance.put i
    { Objects.begun tables.fresh with parent := physical, protocol := protocolIsotp }

/-- A logical channel stands on its parent. -/
theorem objects_logicalChannel (parent channel : Channel) (req : LogicalRequest) :
    (logicalChannel parent channel req).objects =
      { channel.objects with parent := parent.id, protocol := protocolIsotp } :=
  rfl

/-- A logical channel is put on the channel that it names, under the next identifier, or nothing is
given. -/
theorem connectLogical_outcome (drivers : Drivers σ) (neat : core.tables.Neat)
    (physical : UInt32) (req : LogicalRequest) :
    Outcome core.tables (connectLogical drivers core physical req).2.tables
      (core.tables.Stacked physical) false (connectLogical drivers core physical req).1 := by
  unfold connectLogical
  split
  · exact .refused
  split
  · exact .refused
  case h_2 p found =>
    have chosen := List.find?_some found
    rw [Bool.and_eq_true, decide_eq_true_eq, decide_eq_true_eq] at chosen
    split
    · unfold logicalConnect
      extract_lets parent
      split
      · exact .refused
      split
      · exact .refused
      split
      · exact .refused
      split
      · exact .refused
      split
      · exact .refused
      have allocated := allocateChannel_tables drivers neat true
      generalize J2534.allocateChannel drivers core true = answer at allocated ⊢
      obtain ⟨found, after⟩ := answer
      rcases allocated with ⟨i, rfl, free, begun⟩ | ⟨rfl, same⟩
      · dsimp only at begun
        have own : (after.channels i).objects = Objects.begun core.tables.fresh := by
          have same : after.tables.channels i = _ := congrFun (congrArg Tables.channels begun) i
          rwa [Tables.put_channels_self] at same
        have logical : (after.modify i fun channel => logicalChannel parent channel req).tables =
            core.tables.advance.put i { Objects.begun core.tables.fresh with
              parent := physical, protocol := protocolIsotp } := by
          have stacked : parent.id = physical := chosen.2
          rw [tables_modify, objects_logicalChannel, own, stacked, begun, Tables.put_put]
        refine ⟨rfl, ?_, i, free, logical⟩
        have same := congrArg (fun tables : Tables => (tables.channels i).id) logical
        dsimp only at same
        rw [Tables.put_channels_self] at same
        exact same
      · exact .inl same
    · exact .refused

end Connections

end OpenDiag.J2534
