import OpenDiag.Host.Api
import OpenDiag.J2534.Naming
import OpenDiag.Lib.Mirror

/-!
# Handles and the objects that they name

The handles of the host mirror the objects of the firmware: its channels are the channels that are
connected, and the handles of a channel are the filters and the scheduled messages of that channel.
What keeps them apart is that either side counts up: a new handle and a new identifier are above
all that are in use.
-/

namespace OpenDiag.Host

open J2534

/-! ## What is mirrored -/

/-- The identifiers that the channels of the host stand for. -/
def remotes (channels : Handles HostChannel) : Handles UInt32 := fun handle =>
  (channels handle).map HostChannel.remote

/-- The handles of a channel of the host are in bijection with the filters, the periodic messages
and the repeats of a channel of the firmware. -/
structure HostChannel.Mirrored (channel : HostChannel) (objects : Objects) : Prop where
  protocol : channel.protocol = objects.protocol
  filters : Mirrors channel.filters objects.filterIds
  periodic : Mirrors channel.periodic (objects.jobIds false)
  repeats : Mirrors channel.repeats (objects.jobIds true)

/-- A channel is physical on both sides, or stands on the same physical channel. -/
def SameParent (channels : Handles HostChannel) (channel : HostChannel) (objects : Objects) :
    Prop :=
  channel.parent = 0 ∧ objects.parent = 0 ∨
    channel.parent ≠ 0 ∧ objects.parent ≠ 0 ∧ ∃ parent, channels channel.parent = some parent ∧
      parent.remote = objects.parent ∧ parent.parent = 0

/-- The handles of the host mirror the objects of the firmware. -/
structure Session.Mirrored {σ : Type*} (s : Session σ) : Prop where
  channels : Mirrors (remotes s.device.channels) s.core.tables.channelIds
  each : ∀ handle channel i, s.device.channels handle = some channel →
    s.core.tables.channelIds i = some channel.remote →
    SameParent s.device.channels channel (s.core.tables.channels i) ∧
      channel.Mirrored (s.core.tables.channels i)

/-! ## Counters -/

/-- What follows a counter, which leaves out zero. -/
def following (counter : UInt32) : UInt32 :=
  if counter + 1 = 0 then 1 else counter + 1

/-- A counter that does not come back behind itself has gone up. -/
theorem lt_following {counter : UInt32} (grows : counter ≤ following counter) :
    counter < following counter := by
  have bound := counter.toNat_lt
  have next : (counter + 1).toNat = (counter.toNat + 1) % 2 ^ 32 := UInt32.toNat_add counter 1
  unfold following at grows ⊢
  split at grows
  case isTrue wraps =>
    rw [wraps] at next
    simp only [UInt32.le_iff_toNat_le, UInt32.reduceToNat] at grows next
    omega
  case isFalse ends =>
    rw [if_neg ends]
    rw [UInt32.le_iff_toNat_le] at grows
    rw [UInt32.lt_iff_toNat_lt]
    omega

/-- A handle is never zero. -/
theorem following_ne_zero (counter : UInt32) : following counter ≠ 0 := by
  unfold following
  split
  · decide
  · assumption

/-! ## One table -/

/-- A table mirrors its objects, and both counters have passed it. -/
structure Kept {α : Type*} (names : Handles UInt32) (ids : α → Option UInt32)
    (top last : UInt32) : Prop where
  mirrors : Mirrors names ids
  stamped : ∀ handle id, names handle = some id → handle ≠ 0 ∧ handle ≤ top ∧ id ≤ last

namespace Kept

variable {α : Type*} {names : Handles UInt32} {ids : α → Option UInt32} {top last : UInt32}

/-- What is kept below some bounds is kept below higher ones. -/
theorem raise (kept : Kept names ids top last) {top' last' : UInt32} (higher : top ≤ top')
    (later : last ≤ last') : Kept names ids top' last' := by
  refine ⟨kept.mirrors, fun handle id named => ?_⟩
  obtain ⟨some, below, before⟩ := kept.stamped handle id named
  exact ⟨some, UInt32.le_trans below higher, UInt32.le_trans before later⟩

theorem empty : Kept (fun _ => none) (fun _ : α => none) top last :=
  ⟨.empty, fun _ _ named => by cases named⟩

/-- Above the last handle nothing is named. -/
theorem unused (kept : Kept names ids top last) {handle : UInt32} (above : top < handle) :
    names handle = none := by
  cases named : names handle with
  | none => rfl
  | some id =>
      have below := (kept.stamped handle id named).2.1
      rw [UInt32.le_iff_toNat_le] at below
      rw [UInt32.lt_iff_toNat_lt] at above
      omega

/-- An identifier above the last one has no name. -/
theorem new (kept : Kept names ids top last) {id : UInt32} (above : last < id)
    (handle : UInt32) : names handle ≠ some id := by
  intro named
  have below := (kept.stamped handle id named).2.2
  rw [UInt32.le_iff_toNat_le] at below
  rw [UInt32.lt_iff_toNat_lt] at above
  omega

variable [DecidableEq α] {handle id : UInt32} {a : α}

/-- A new handle names a new identifier, and the names stay apart. -/
theorem insert (kept : Kept names ids top last) (above : top < handle) (later : last < id)
    (free : ids a = none) :
    Kept (names.insert handle id) (Function.update ids a (some id)) handle id := by
  refine ⟨kept.mirrors.insert (kept.unused above) free (kept.new later), ?_⟩
  intro other known named
  by_cases here : other = handle
  · subst here
    obtain rfl : id = known := by simpa [Handles.insert] using named
    refine ⟨?_, UInt32.le_refl _, UInt32.le_refl _⟩
    rintro rfl
    exact absurd above (by simp)
  · have before : names other = some known := by simpa [Handles.insert, here] using named
    obtain ⟨some, below, past⟩ := kept.stamped other known before
    exact ⟨some, UInt32.le_trans below (UInt32.le_of_lt above),
      UInt32.le_trans past (UInt32.le_of_lt later)⟩

omit [DecidableEq α] in
/-- Names and identifiers are given up alike. -/
theorem select {names' : Handles UInt32} {ids' : α → Option UInt32}
    (kept : Kept names ids top last) (keep : UInt32 → Prop) (stays : α → Prop)
    (left : ∀ handle id, names' handle = some id ↔ names handle = some id ∧ keep handle)
    (right : ∀ a id, ids' a = some id ↔ ids a = some id ∧ stays a)
    (alike : ∀ handle a id, names handle = some id → ids a = some id → (keep handle ↔ stays a)) :
    Kept names' ids' top last :=
  ⟨kept.mirrors.select keep stays left right alike,
    fun handle id named => kept.stamped handle id ((left handle id).1 named).1⟩

/-- A name is erased with its identifier. -/
theorem erase (kept : Kept names ids top last) (named : names handle = some id)
    (known : ids a = some id) :
    Kept (names.erase handle) (Function.update ids a none) top last := by
  refine ⟨kept.mirrors.erase named known, fun other id' left => ?_⟩
  by_cases here : other = handle
  · simp [Handles.erase, here] at left
  · exact kept.stamped other id' (by simpa [Handles.erase, here] using left)

end Kept

/-! ## The objects of one channel -/

section Jobs

variable {objects : Objects} {slot : Slot} {id : UInt32} {kind : ScheduleKind} {repeats : Bool}

/-- A slot that is filled shows its identifier among the objects of its kind. -/
theorem jobIds_setJob :
    (objects.setJob slot (id, kind)).jobIds repeats =
      Function.update (objects.jobIds repeats) slot
        (if kind ≠ .periodic ↔ repeats = true then named id else none) := by
  funext other
  by_cases here : other = slot
  · subst here
    simp [Objects.jobIds, Objects.setJob]
  · simp [Objects.jobIds, Objects.setJob, here]

/-- A slot that is emptied shows none. -/
theorem jobIds_setJob_free :
    (objects.setJob slot (0, kind)).jobIds repeats =
      Function.update (objects.jobIds repeats) slot none := by
  rw [jobIds_setJob]
  split <;> rfl

/-- A job of the other kind goes unnoticed. -/
theorem jobIds_setJob_other (unused : objects.jobIds repeats slot = none)
    (kinds : ¬ (kind ≠ .periodic ↔ repeats = true)) :
    (objects.setJob slot (id, kind)).jobIds repeats = objects.jobIds repeats := by
  rw [jobIds_setJob, if_neg kinds, ← unused, Function.update_eq_self]

/-- A free slot has no identifier. -/
theorem jobIds_of_free (free : (objects.jobs slot).1 = 0) : objects.jobIds repeats slot = none := by
  simp [Objects.jobIds, free]

/-- A slot shows its identifier with those of its kind. -/
theorem jobIds_of_kind (some : id ≠ 0) (own : (objects.jobs slot).1 = id)
    (kinds : (objects.jobs slot).2 ≠ .periodic ↔ repeats = true) :
    objects.jobIds repeats slot = .some id := by
  rw [Objects.jobIds, if_pos kinds, own, named_of_ne some]

/-- And it shows none with those of the other kind. -/
theorem jobIds_of_not_kind
    (kinds : ¬ ((objects.jobs slot).2 ≠ .periodic ↔ repeats = true)) :
    objects.jobIds repeats slot = none :=
  if_neg kinds

/-- A place of a filter shows the identifier that is put there. -/
theorem filterIds_setFilter {k : Nat} (inside : k < objects.filters.length) :
    (objects.setFilter k id).filterIds = Function.update objects.filterIds k (named id) := by
  funext other
  by_cases here : other = k
  · subst here
    simp [Objects.filterIds, Objects.setFilter, List.getD_eq_getElem?_getD, inside]
  · simp [Objects.filterIds, Objects.setFilter, List.getD_eq_getElem?_getD, here, Ne.symm here]

end Jobs

/-- The handles of the scheduled messages of one kind. -/
def HostChannel.jobs (channel : HostChannel) : Bool → Handles UInt32
  | false => channel.periodic
  | true => channel.repeats

def HostChannel.setJobs (channel : HostChannel) (jobs : Handles UInt32) : Bool → HostChannel
  | false => { channel with periodic := jobs }
  | true => { channel with repeats := jobs }

/-- A channel mirrors its objects, and the counters have passed both. -/
structure HostChannel.Linked (channel : HostChannel) (objects : Objects) (top last : UInt32) :
    Prop where
  protocol : channel.protocol = objects.protocol
  filters : Kept channel.filters objects.filterIds top last
  jobs : ∀ repeats, Kept (channel.jobs repeats) (objects.jobIds repeats) top last
  sorted : objects.Sorted

/-- The names of one kind are replaced. -/
theorem HostChannel.jobs_setJobs_self (channel : HostChannel) (jobs : Handles UInt32)
    (repeats : Bool) : (channel.setJobs jobs repeats).jobs repeats = jobs := by
  cases repeats <;> rfl

/-- Those of the other kind stay. -/
theorem HostChannel.jobs_setJobs_of_ne (channel : HostChannel) (jobs : Handles UInt32)
    {repeats other : Bool} (apart : other ≠ repeats) :
    (channel.setJobs jobs repeats).jobs other = channel.jobs other := by
  cases repeats <;> cases other <;> first | rfl | exact absurd rfl apart

theorem HostChannel.protocol_setJobs (channel : HostChannel) (jobs : Handles UInt32)
    (repeats : Bool) : (channel.setJobs jobs repeats).protocol = channel.protocol := by
  cases repeats <;> rfl

theorem HostChannel.filters_setJobs (channel : HostChannel) (jobs : Handles UInt32)
    (repeats : Bool) : (channel.setJobs jobs repeats).filters = channel.filters := by
  cases repeats <;> rfl

namespace HostChannel.Linked

variable {channel : HostChannel} {objects next : Objects} {top last : UInt32}
  (linked : channel.Linked objects top last)
include linked

theorem mirrored : channel.Mirrored objects where
  protocol := linked.protocol
  filters := linked.filters.mirrors
  periodic := (linked.jobs false).mirrors
  repeats := (linked.jobs true).mirrors

theorem raise {top' last' : UInt32} (higher : top ≤ top') (later : last ≤ last') :
    channel.Linked objects top' last' where
  protocol := linked.protocol
  filters := linked.filters.raise higher later
  jobs repeats := (linked.jobs repeats).raise higher later
  sorted := linked.sorted

variable {handle id : UInt32} {repeats : Bool}

/-- An object that has been started is linked under the next handle. -/
theorem started (above : top < handle) (later : last < id) (some : id ≠ 0)
    (started : objects.Started id repeats next) :
    (channel.setJobs ((channel.jobs repeats).insert handle id) repeats).Linked next handle id := by
  obtain ⟨slot, kind, slots, kinds, free, rfl⟩ := started
  have raised := linked.raise (UInt32.le_of_lt above) (UInt32.le_of_lt later)
  refine ⟨?_, ?_, fun which => ?_, fun other used => ?_⟩
  · rw [protocol_setJobs]
    exact linked.protocol
  · rw [filters_setJobs]
    exact raised.filters
  · by_cases own : which = repeats
    · subst own
      rw [jobs_setJobs_self, jobIds_setJob, if_pos kinds, named_of_ne some]
      exact (linked.jobs which).insert above later (jobIds_of_free free)
    · rw [jobs_setJobs_of_ne _ _ own, jobIds_setJob_other (jobIds_of_free free)
        fun kinds' => own (Bool.eq_iff_iff.2 (kinds'.symm.trans kinds))]
      exact raised.jobs which
  · by_cases here : other = slot
    · subst here
      simpa [Objects.setJob, slots] using kinds
    · have before := linked.sorted other
      simp only [Objects.setJob, Function.update_of_ne here] at used ⊢
      exact before used

/-- An object that has been stopped is taken out of both. -/
theorem stopped (repeats : Bool) (known : channel.jobs repeats handle = some id)
    (stopped : objects.Stopped id repeats next) :
    (channel.setJobs ((channel.jobs repeats).erase handle) repeats).Linked next top last := by
  obtain ⟨slot, some, own, kinds, rfl⟩ := stopped
  refine ⟨?_, ?_, fun which => ?_, fun other used => ?_⟩
  · rw [protocol_setJobs]
    exact linked.protocol
  · rw [filters_setJobs]
    exact linked.filters
  · by_cases same : which = repeats
    · subst same
      rw [jobs_setJobs_self, jobIds_setJob_free]
      exact (linked.jobs which).erase known (jobIds_of_kind some own kinds)
    · have unused : objects.jobIds which slot = none := jobIds_of_not_kind
        fun kinds' => same (Bool.eq_iff_iff.2 (kinds'.symm.trans kinds))
      rw [jobs_setJobs_of_ne _ _ same, jobIds_setJob_free, ← unused, Function.update_eq_self]
      exact linked.jobs which
  · by_cases here : other = slot
    · subst here
      simp [Objects.setJob] at used
    · have before := linked.sorted other
      simp only [Objects.setJob, Function.update_of_ne here] at used ⊢
      exact before used

/-- A filter that has been set is linked under the next handle. -/
theorem filterStarted (above : top < handle) (later : last < id) (some : id ≠ 0)
    (started : objects.FilterStarted id next) :
    ({ channel with filters := channel.filters.insert handle id } : HostChannel).Linked next
      handle id := by
  obtain ⟨k, free, rfl⟩ := started
  have raised := linked.raise (UInt32.le_of_lt above) (UInt32.le_of_lt later)
  obtain ⟨inside, -⟩ := List.getElem?_eq_some_iff.1 free
  refine ⟨linked.protocol, ?_, raised.jobs, linked.sorted⟩
  rw [filterIds_setFilter inside, named_of_ne some]
  refine linked.filters.insert above later ?_
  simp [Objects.filterIds, List.getD_eq_getElem?_getD, free]

/-- A filter that has been removed is taken out of both. -/
theorem filterStopped (known : channel.filters handle = some id)
    (stopped : objects.FilterStopped id next) :
    ({ channel with filters := channel.filters.erase handle } : HostChannel).Linked next
      top last := by
  obtain ⟨k, some, own, rfl⟩ := stopped
  obtain ⟨inside, -⟩ := List.getElem?_eq_some_iff.1 own
  refine ⟨linked.protocol, ?_, linked.jobs, linked.sorted⟩
  rw [filterIds_setFilter inside, named_zero]
  refine linked.filters.erase known ?_
  simp [Objects.filterIds, List.getD_eq_getElem?_getD, own, named_of_ne some]

/-- All filters are taken out of both. -/
theorem clearFilters :
    ({ channel with filters := fun _ => none } : HostChannel).Linked objects.clearFilters
      top last := by
  refine ⟨linked.protocol, ?_, linked.jobs, linked.sorted⟩
  have none : objects.clearFilters.filterIds = fun _ => none := by
    funext k
    by_cases inside : k < filterMax
    · simp [Objects.filterIds, Objects.clearFilters, List.getD_eq_getElem?_getD, inside]
    · simp [Objects.filterIds, Objects.clearFilters, List.getD_eq_getElem?_getD, inside]
  rw [none]
  exact .empty

omit linked in
/-- The periodic messages are those in the slots that are not for repeats. -/
theorem clearPeriodic_jobs (sorted : objects.Sorted) (slot : Slot) :
    (objects.clearPeriodic (List.finRange _)).jobs slot =
      if (objects.jobs slot).2 = .periodic ∧ (objects.jobs slot).1 ≠ 0 then (0, .periodic)
      else objects.jobs slot := by
  have cleared : (objects.clearPeriodic (List.finRange _)).jobs slot =
      if Slot.isRepeat slot = false ∧ (objects.jobs slot).1 ≠ 0 then (0, .periodic)
      else objects.jobs slot := by
    simp [Objects.clearPeriodic]
  rw [cleared]
  by_cases used : (objects.jobs slot).1 = 0
  · rw [if_neg fun both => both.2 used, if_neg fun both => both.2 used]
  · have kinds := sorted slot used
    refine if_congr (and_congr_left fun _ => ?_) rfl rfl
    rw [← Bool.not_eq_true, ← kinds, not_not]

/-- All periodic messages are taken out of both. -/
theorem clearPeriodic :
    ({ channel with periodic := fun _ => none } : HostChannel).Linked
      (objects.clearPeriodic (List.finRange _)) top last := by
  have jobs := clearPeriodic_jobs linked.sorted
  refine ⟨linked.protocol, linked.filters, fun repeats => ?_, fun slot used => ?_⟩
  · cases repeats with
    | false =>
        have none : (objects.clearPeriodic (List.finRange _)).jobIds false = fun _ => none := by
          funext slot
          rw [Objects.jobIds, jobs]
          split
          · rfl
          case isFalse kept =>
            by_cases kind : (objects.jobs slot).2 = .periodic
            · have unused : (objects.jobs slot).1 = 0 := by
                by_contra used
                exact kept ⟨kind, used⟩
              simp [unused]
            · simp [kind]
        rw [none]
        exact .empty
    | true =>
        have same : (objects.clearPeriodic (List.finRange _)).jobIds true =
            objects.jobIds true := by
          funext slot
          rw [Objects.jobIds, jobs]
          split
          case isTrue gone => simp [Objects.jobIds, gone.1]
          case isFalse kept => rfl
        rw [same]
        exact linked.jobs true
  · rw [jobs] at used ⊢
    split at used
    · exact absurd rfl used
    case isFalse kept =>
      rw [if_neg kept]
      exact linked.sorted slot used

end HostChannel.Linked

/-- A channel that has just been connected has nothing on either side. -/
theorem HostChannel.linked_new (remote protocol parent id parent' top last : UInt32) :
    ({ remote, protocol, parent } : HostChannel).Linked
      { Objects.none with id, parent := parent', protocol } top last := by
  have filters (k : Nat) : (Objects.none.filters).getD k 0 = 0 := by
    by_cases inside : k < filterMax
    · simp [Objects.none, Channel.objects, List.getD_eq_getElem?_getD, inside]
    · simp [Objects.none, Channel.objects, List.getD_eq_getElem?_getD, inside]
  refine ⟨rfl, ?_, fun repeats => ?_, fun slot used => (used rfl).elim⟩
  · have none : ({ Objects.none with id, parent := parent', protocol } : Objects).filterIds =
        fun _ => none := by
      funext k
      rw [Objects.filterIds, filters, named_zero]
    rw [none]
    exact .empty
  · have none : ({ Objects.none with id, parent := parent', protocol } : Objects).jobIds repeats =
        fun _ => none := by
      funext slot
      exact jobIds_of_free rfl
    rw [none]
    cases repeats with
    | false => exact .empty
    | true => exact .empty

/-! ## The channels of a session -/

/-- The channels of the host mirror those of the firmware, down to their objects, and the counters
have passed them all. -/
structure Linked (channels : Handles HostChannel) (top : UInt32) (tables : Tables) : Prop where
  kept : Kept (remotes channels) tables.channelIds top tables.nextId
  neat : tables.Neat
  each : ∀ handle channel i, channels handle = some channel →
    tables.channelIds i = some channel.remote →
    SameParent channels channel (tables.channels i) ∧
      channel.Linked (tables.channels i) top tables.nextId

theorem remotes_of_some {channels : Handles HostChannel} {handle : UInt32} {channel : HostChannel}
    (here : channels handle = some channel) : remotes channels handle = some channel.remote := by
  rw [remotes, here]
  rfl

/-- A channel is named by its identifier with the device. -/
theorem remotes_insert (channels : Handles HostChannel) (handle : UInt32) (channel : HostChannel) :
    remotes (channels.insert handle channel) = (remotes channels).insert handle channel.remote := by
  funext other
  by_cases here : other = handle
  · simp [remotes, Handles.insert, here]
  · simp [remotes, Handles.insert, here]

/-- A channel that is dropped takes those that stand on it along, and leaves the others. -/
theorem dropChannel_eq_some {channels : Handles HostChannel} {id handle : UInt32}
    {channel : HostChannel} :
    dropChannel channels id handle = some channel ↔
      channels handle = some channel ∧ handle ≠ id ∧ channel.parent ≠ id := by
  unfold dropChannel
  split
  case h_1 none => simp [none]
  case h_2 known =>
    rw [known, Option.some_inj]
    split
    case isTrue gone =>
      constructor
      · intro none
        cases none
      · rintro ⟨rfl, other, apart⟩
        exact (gone.elim other apart).elim
    case isFalse stays =>
      rw [Option.some_inj]
      refine ⟨?_, And.left⟩
      rintro rfl
      exact ⟨rfl, not_or.1 stays⟩

theorem SameParent.insert {channels : Handles HostChannel} {channel : HostChannel}
    {objects : Objects} (same : SameParent channels channel objects) {handle : UInt32}
    {added : HostChannel}
    (alike : ∀ before, channels handle = some before →
      added.remote = before.remote ∧ added.parent = before.parent) :
    SameParent (channels.insert handle added) channel objects := by
  rcases same with physical | ⟨some, some', parent, known, remote, physical⟩
  · exact .inl physical
  · refine .inr ⟨some, some', ?_⟩
    by_cases here : channel.parent = handle
    · rw [here] at known
      obtain ⟨remote', parent'⟩ := alike parent known
      exact ⟨added, by simp [Handles.insert, here], remote'.trans remote, parent'.trans physical⟩
    · exact ⟨parent, by simpa [Handles.insert, here] using known, remote, physical⟩

namespace Linked

variable {channels : Handles HostChannel} {top top' : UInt32} {tables next : Tables}
  {handle : UInt32} {channel channel' : HostChannel} {i : ChannelIndex} {objects : Objects}
  (linked : Linked channels top tables)
include linked

/-- A channel that is named is connected on the device. -/
theorem found (here : channels handle = some channel) :
    ∃ i, tables.channelIds i = some channel.remote :=
  linked.kept.mirrors.exists_right (remotes_of_some here)

/-- Counters go up. -/
theorem raise (higher : top ≤ top') (later : tables.nextId ≤ next.nextId)
    (kept : next.channels = tables.channels) : Linked channels top' next := by
  have ids : next.channelIds = tables.channelIds := by
    funext j
    rw [Tables.channelIds, kept]
    rfl
  refine ⟨?_, ?_, ?_⟩
  · rw [ids]
    exact linked.kept.raise higher later
  · intro j free
    rw [kept] at free ⊢
    exact linked.neat j free
  · intro handle channel j here there
    rw [ids] at there
    rw [kept]
    obtain ⟨parent, each⟩ := linked.each handle channel j here there
    exact ⟨parent, each.raise higher later⟩

/-- The objects of one channel change on both sides. -/
theorem change (here : channels handle = some channel)
    (there : tables.channelIds i = some channel.remote)
    (same : channel'.remote = channel.remote ∧ channel'.parent = channel.parent)
    (same' : objects.id = (tables.channels i).id ∧ objects.parent = (tables.channels i).parent)
    (higher : top ≤ top') (later : tables.nextId ≤ next.nextId)
    (changed : next.channels = (tables.put i objects).channels)
    (matched : channel'.Linked objects top' next.nextId) :
    Linked (channels.insert handle channel') top' next := by
  have mirrors := linked.kept.mirrors
  have own : next.channels i = objects := by rw [changed, Tables.put_channels_self]
  have other {j : ChannelIndex} (apart : j ≠ i) : next.channels j = tables.channels j := by
    rw [changed, Tables.put_channels_of_ne _ _ apart]
  have ids : next.channelIds = tables.channelIds := by
    funext j
    by_cases mine : j = i
    · subst mine
      rw [Tables.channelIds, own, same'.1]
      rfl
    · rw [Tables.channelIds, other mine]
      rfl
  have names : remotes (channels.insert handle channel') = remotes channels := by
    rw [remotes_insert, same.1, Handles.insert, ← remotes_of_some here, Function.update_eq_self]
  have alike (before : HostChannel) (known : channels handle = some before) :
      channel'.remote = before.remote ∧ channel'.parent = before.parent := by
    rw [here] at known
    obtain rfl : channel = before := Option.some_inj.1 known
    exact same
  refine ⟨?_, ?_, ?_⟩
  · rw [names, ids]
    exact linked.kept.raise higher later
  · intro j free
    have used : j ≠ i := by
      rintro rfl
      rw [own, same'.1] at free
      exact (named_eq_some.1 there).2 ((named_eq_some.1 there).1.symm.trans free)
    rw [other used] at free ⊢
    exact linked.neat j free
  · intro handle' channel'' j here' there'
    rw [ids] at there'
    by_cases mine : handle' = handle
    · subst mine
      obtain rfl : channel' = channel'' := by simpa [Handles.insert] using here'
      rw [same.1] at there'
      obtain rfl : j = i := mirrors.right_unique there' there
      rw [own]
      refine ⟨?_, matched⟩
      have before := ((linked.each handle' channel j here there).1).insert alike
      rw [SameParent, same.2, same'.2]
      exact before
    · have before : channels handle' = some channel'' := by
        simpa [Handles.insert, mine] using here'
      have apart : j ≠ i := by
        rintro rfl
        rw [there] at there'
        exact mine (mirrors.left_unique (remotes_of_some before)
          ((remotes_of_some here).trans there'))
      rw [other apart]
      obtain ⟨parent, each⟩ := linked.each handle' channel'' j before there'
      exact ⟨parent.insert alike, each.raise higher later⟩

/-- A channel is connected on both sides. -/
theorem connected (above : top < handle) (later : tables.nextId < next.nextId)
    (free : (tables.channels i).id = 0) (given : objects.id = next.nextId)
    (remote : channel.remote = next.nextId) (some : next.nextId ≠ 0)
    (changed : next.channels = (tables.put i objects).channels)
    (parent : SameParent channels channel objects)
    (matched : channel.Linked objects handle next.nextId) :
    Linked (channels.insert handle channel) handle next := by
  have own : next.channels i = objects := by rw [changed, Tables.put_channels_self]
  have other {j : ChannelIndex} (apart : j ≠ i) : next.channels j = tables.channels j := by
    rw [changed, Tables.put_channels_of_ne _ _ apart]
  have ids : next.channelIds = Function.update tables.channelIds i (.some next.nextId) := by
    funext j
    by_cases mine : j = i
    · subst mine
      rw [Tables.channelIds, own, given, named_of_ne some, Function.update_self]
    · rw [Tables.channelIds, other mine, Function.update_of_ne mine]
      rfl
  have unused : channels handle = none := by
    have none := linked.kept.unused above
    rw [remotes, Option.map_eq_none_iff] at none
    exact none
  have alike (before : HostChannel) (known : channels handle = .some before) :
      channel.remote = before.remote ∧ channel.parent = before.parent := by
    rw [unused] at known
    cases known
  have kept : Kept (remotes (channels.insert handle channel)) next.channelIds handle
      next.nextId := by
    rw [remotes_insert, ids, remote]
    refine linked.kept.insert above later ?_
    rw [Tables.channelIds, free, named_zero]
  refine ⟨kept, ?_, ?_⟩
  · intro j none
    have apart : j ≠ i := by
      rintro rfl
      rw [own, given] at none
      exact some none
    rw [other apart] at none ⊢
    exact linked.neat j none
  · intro handle' channel' j here there
    by_cases mine : handle' = handle
    · subst mine
      obtain rfl : channel = channel' := by simpa [Handles.insert] using here
      have there' : next.channelIds i = .some channel.remote := by
        rw [ids, Function.update_self, remote]
      obtain rfl : j = i := kept.mirrors.right_unique there there'
      rw [own]
      exact ⟨parent.insert alike, matched⟩
    · have before : channels handle' = .some channel' := by
        simpa [Handles.insert, mine] using here
      have apart : j ≠ i := by
        rintro rfl
        rw [ids, Function.update_self, Option.some_inj] at there
        exact linked.kept.new later handle' ((remotes_of_some before).trans (by rw [there]))
      rw [ids, Function.update_of_ne apart] at there
      rw [other apart]
      obtain ⟨parent, each⟩ := linked.each handle' channel' j before there
      exact ⟨parent.insert alike, each.raise (UInt32.le_of_lt above) (UInt32.le_of_lt later)⟩

/-- A channel and what stands on it go on the host if and only if they go on the firmware. -/
theorem parent_iff (here : channels handle = some channel)
    (there : tables.channelIds i = some channel.remote) {handle' : UInt32}
    {j : ChannelIndex} (here' : channels handle' = some channel')
    (there' : tables.channelIds j = some channel'.remote) :
    channel'.parent = handle ↔ (tables.channels j).parent = (tables.channels i).id := by
  obtain ⟨own, used⟩ := named_eq_some.1 there
  have handled := (linked.kept.stamped handle _ (remotes_of_some here)).1
  rcases (linked.each handle' channel' j here' there').1 with
    ⟨physical, physical'⟩ | ⟨logical, logical', parent, known, remote, -⟩
  · rw [physical, physical', own]
    exact ⟨fun zero => (handled zero.symm).elim, fun zero => (used zero.symm).elim⟩
  · rw [own, ← remote]
    constructor
    · rintro rfl
      rw [known] at here
      rw [Option.some_inj.1 here]
    · intro same
      refine linked.kept.mirrors.left_unique (remotes_of_some known) ?_
      rw [remotes_of_some here, same]

/-- The channel of the host that stands for one of the firmware. -/
theorem owner (used : (tables.channels i).id ≠ 0) : ∃ handle channel,
    channels handle = some channel ∧ tables.channelIds i = some channel.remote := by
  have there : tables.channelIds i = some (tables.channels i).id := named_of_ne used
  obtain ⟨handle, named⟩ := linked.kept.mirrors.exists_left there
  obtain ⟨channel, here, remote⟩ := Option.map_eq_some_iff.1 named
  exact ⟨handle, channel, here, by rw [there, remote]⟩

/-- What stands on a channel is connected, and the channel is physical. -/
theorem parent_physical (here : channels handle = some channel)
    (there : tables.channelIds i = some channel.remote) {j : ChannelIndex}
    (child : (tables.channels j).parent = (tables.channels i).id) :
    (tables.channels i).parent = 0 := by
  obtain ⟨own, some⟩ := named_eq_some.1 there
  have used : (tables.channels j).id ≠ 0 := by
    intro free
    rw [linked.neat j free] at child
    exact some (own.symm.trans child.symm)
  obtain ⟨handle', channel', here', there'⟩ := linked.owner used
  have stands := (linked.parent_iff here there here' there').2 child
  have handled := (linked.kept.stamped handle _ (remotes_of_some here)).1
  have physical : channel.parent = 0 := by
    rcases (linked.each handle' channel' j here' there').1 with
      ⟨zero, -⟩ | ⟨-, -, parent, known, -, physical⟩
    · exact (handled (stands.symm.trans zero)).elim
    · rw [stands, here] at known
      rw [Option.some_inj.1 known, physical]
  rcases (linked.each handle channel i here there).1 with ⟨-, zero⟩ | ⟨logical, -⟩
  · exact zero
  · exact (logical physical).elim

/-- A logical channel goes alone. -/
theorem drop_of_logical (here : channels handle = some channel)
    (there : tables.channelIds i = some channel.remote)
    (logical : (tables.channels i).parent ≠ 0) : tables.drop i = tables.put i .none := by
  refine Tables.ext rfl rfl (funext fun j => ?_)
  rw [Tables.drop, Tables.release_channels]
  by_cases mine : j = i
  · subst mine
    simp
  · rw [Tables.put_channels_of_ne _ _ mine, if_neg]
    rintro (same | child)
    · exact mine same
    · exact logical (linked.parent_physical here there child)

/-- A channel is disconnected on both sides. -/
theorem dropped (here : channels handle = some channel)
    (there : tables.channelIds i = some channel.remote) :
    Linked (dropChannel channels handle) top (tables.drop i) := by
  have mirrors := linked.kept.mirrors
  have handled := (linked.kept.stamped handle _ (remotes_of_some here)).1
  have gone (j : ChannelIndex) : (tables.drop i).channels j =
      if j = i ∨ (tables.channels j).parent = (tables.channels i).id then Objects.none
      else tables.channels j := Tables.release_channels tables j
  have stays {j : ChannelIndex} {id : UInt32} : (tables.drop i).channelIds j = some id ↔
      tables.channelIds j = some id ∧
        ¬ (j = i ∨ (tables.channels j).parent = (tables.channels i).id) := by
    rw [Tables.channelIds, gone]
    split
    case isTrue gone => simp [gone, Objects.none, Channel.objects]
    case isFalse stays => simp [stays, Tables.channelIds]
  refine ⟨linked.kept.select
    (fun handle' => ∃ channel', channels handle' = some channel' ∧
      handle' ≠ handle ∧ channel'.parent ≠ handle)
    (fun j => ¬ (j = i ∨ (tables.channels j).parent = (tables.channels i).id)) ?_
    (fun _ _ => stays) ?_, ?_, ?_⟩
  · intro handle' id
    constructor
    · intro named
      obtain ⟨channel', known, rfl⟩ := Option.map_eq_some_iff.1 named
      obtain ⟨before, kept⟩ := dropChannel_eq_some.1 known
      exact ⟨remotes_of_some before, channel', before, kept⟩
    · rintro ⟨named, channel', before, kept⟩
      rw [remotes_of_some before] at named
      rw [remotes_of_some (dropChannel_eq_some.2 ⟨before, kept⟩)]
      exact named
  · intro handle' j id named known
    obtain ⟨channel', before, rfl⟩ := Option.map_eq_some_iff.1 named
    have parents := linked.parent_iff here there before known
    have same : handle' = handle ↔ j = i := by
      constructor
      · rintro rfl
        rw [here] at before
        obtain rfl := Option.some_inj.1 before
        exact mirrors.right_unique known there
      · rintro rfl
        rw [there] at known
        exact mirrors.left_unique named ((remotes_of_some here).trans known)
    rw [not_or, ← same, ← parents]
    constructor
    · rintro ⟨channel'', again, kept⟩
      rw [before] at again
      obtain rfl := Option.some_inj.1 again
      exact kept
    · exact fun kept => ⟨channel', before, kept⟩
  · intro j free
    rw [gone] at free ⊢
    split
    · rfl
    case isFalse stays =>
      rw [if_neg stays] at free
      exact linked.neat j free
  · intro handle' channel' j here' there'
    obtain ⟨before, apart, other⟩ := dropChannel_eq_some.1 here'
    obtain ⟨known, kept⟩ := stays.1 there'
    rw [gone, if_neg kept]
    obtain ⟨parent, each⟩ := linked.each handle' channel' j before known
    refine ⟨?_, each⟩
    rcases parent with physical | ⟨some, some', parent, known, remote, physical⟩
    · exact .inl physical
    · refine .inr ⟨some, some', parent, ?_, remote, physical⟩
      refine dropChannel_eq_some.2 ⟨known, other, ?_⟩
      rw [physical]
      exact Ne.symm handled

end Linked

end OpenDiag.Host
