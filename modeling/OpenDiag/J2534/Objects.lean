import OpenDiag.J2534.Core

/-!
# The objects of a device

What a client can name: the channels of the device, and the filters and scheduled messages of each.
-/

namespace OpenDiag.J2534

/-- A channel with its filters and jobs, as far as a client can tell them apart; a free entry has no
identifier. -/
structure Objects where
  id : UInt32
  parent : UInt32
  protocol : UInt32
  filters : List UInt32
  jobs : Slot → UInt32 × ScheduleKind

/-- What a client can tell of a job. -/
def Job.name (job : Job) : UInt32 × ScheduleKind :=
  (job.id, job.kind)

def Channel.objects (channel : Channel) : Objects where
  id := channel.id
  parent := channel.parent
  protocol := channel.protocol
  filters := channel.filters.map Filter.id
  jobs slot := (channel.scheduler slot).name

/-- The objects of a device, and the last identifier given to one. -/
@[ext] structure Tables where
  device : UInt32
  nextId : UInt32
  channels : ChannelIndex → Objects

/-! ## What is in use -/

/-- An identifier, unless it stands for nothing. -/
def named (id : UInt32) : Option UInt32 :=
  if id = 0 then none else some id

/-- The channels that are connected. -/
def Tables.channelIds (tables : Tables) (i : ChannelIndex) : Option UInt32 :=
  named (tables.channels i).id

/-- The filters of a channel that have been started. -/
def Objects.filterIds (objects : Objects) (k : Nat) : Option UInt32 :=
  named (objects.filters.getD k 0)

/-- The jobs of a channel that have been started, periodic messages or repeats. -/
def Objects.jobIds (objects : Objects) (repeats : Bool) (slot : Slot) : Option UInt32 :=
  if (objects.jobs slot).2 ≠ .periodic ↔ repeats = true then named (objects.jobs slot).1 else none

/-- The repeats have slots of their own. -/
def Objects.Sorted (objects : Objects) : Prop :=
  ∀ slot, (objects.jobs slot).1 ≠ 0 →
    ((objects.jobs slot).2 ≠ .periodic ↔ Slot.isRepeat slot = true)

@[simp] theorem named_zero : named 0 = none :=
  rfl

theorem named_of_ne {id : UInt32} (some : id ≠ 0) : named id = .some id :=
  if_neg some

/-- A place shows an identifier if it is one, and not zero. -/
theorem named_eq_some {id known : UInt32} : named id = some known ↔ id = known ∧ known ≠ 0 := by
  unfold named
  split
  case isTrue none =>
    subst none
    simpa using fun same : (0 : UInt32) = known => same.symm
  case isFalse some =>
    rw [Option.some_inj]
    constructor
    · rintro rfl
      exact ⟨rfl, some⟩
    · exact And.left

/-! ## Changes -/

/-- The objects of one channel, replaced. -/
def Tables.put (tables : Tables) (i : ChannelIndex) (objects : Objects) : Tables :=
  { tables with channels := Function.update tables.channels i objects }

@[simp] theorem Tables.put_channels_self (tables : Tables) (i : ChannelIndex) (objects : Objects) :
    (tables.put i objects).channels i = objects := by
  simp [Tables.put]

/-- Only the channel that is put changes. -/
theorem Tables.put_channels_of_ne (tables : Tables) (objects : Objects) {i j : ChannelIndex}
    (other : j ≠ i) : (tables.put i objects).channels j = tables.channels j := by
  simp [Tables.put, other]

/-- Of two puts in one place the later one stays. -/
theorem Tables.put_put (tables : Tables) (i : ChannelIndex) (objects other : Objects) :
    (tables.put i objects).put i other = tables.put i other := by
  simp [Tables.put]

/-- To put what is there changes nothing. -/
theorem Tables.put_of_eq {tables : Tables} {i : ChannelIndex} {objects : Objects}
    (same : tables.channels i = objects) : tables.put i objects = tables := by
  subst same
  simp [Tables.put]

section Tables

variable {σ : Type*}

def Core.tables (core : Core σ) : Tables where
  device := core.device
  nextId := core.nextId
  channels i := (core.channels i).objects

variable {core next : Core σ}

/-- The tables are told by the device, the counter and the objects of the channels. -/
theorem tables_ext (device : next.device = core.device) (nextId : next.nextId = core.nextId)
    (channels : ∀ i, (next.channels i).objects = (core.channels i).objects) :
    next.tables = core.tables :=
  Tables.ext device nextId (funext channels)

/-- A channel that changes puts its objects. -/
theorem tables_modify (core : Core σ) (i : ChannelIndex) (change : Channel → Channel) :
    (core.modify i change).tables = core.tables.put i (change (core.channels i)).objects := by
  refine Tables.ext rfl rfl (funext fun j => ?_)
  by_cases here : j = i
  · subst here
    simp [Core.tables, Core.modify]
  · simp [Core.tables, Core.modify, Tables.put, here]

/-- A channel that changes beside its objects leaves the tables alone. -/
theorem tables_modify_of_same {i : ChannelIndex} {change : Channel → Channel}
    (same : (change (core.channels i)).objects = (core.channels i).objects) :
    (core.modify i change).tables = core.tables := by
  rw [tables_modify, same]
  exact Tables.put_of_eq rfl

end Tables

end OpenDiag.J2534
