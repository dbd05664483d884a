import OpenDiag.J2534.Naming
import OpenDiag.Lib.Stamps

/-!
# Identifiers of the firmware

Whatever a client asks for, and whatever the drivers answer, the objects of the firmware have
identifiers that are apart, that no later object is given again, and each logical channel stands on
a CAN channel that is connected.
-/

namespace OpenDiag.J2534

/-! ## What has an identifier -/

/-- A channel, or something that belongs to it. -/
inductive Part where
  | channel
  | filter (k : Nat)
  | job (slot : Slot)
  deriving DecidableEq

def Objects.idAt (objects : Objects) : Part → UInt32
  | .channel => objects.id
  | .filter k => objects.filters.getD k 0
  | .job slot => (objects.jobs slot).1

/-- The identifier in a place, zero where there is nothing. -/
def Tables.nameAt (tables : Tables) (place : ChannelIndex × Part) : Nat :=
  ((tables.channels place.1).idAt place.2).toNat

/-- A logical channel stands on a physical CAN channel that is connected. -/
def Tables.Stands (tables : Tables) (i : ChannelIndex) : Prop :=
  (tables.channels i).protocol = protocolIsotp ∧ ∃ p,
    (tables.channels p).id = (tables.channels i).parent ∧ (tables.channels p).parent = 0 ∧
      (tables.channels p).protocol = protocolCan

/-- The objects are told apart by their identifiers, and are where they belong. -/
structure Tables.Sound (tables : Tables) : Prop where
  neat : tables.Neat
  sorted : ∀ i, (tables.channels i).Sorted
  stamped : Stamped tables.nextId.toNat tables.nameAt
  parents : ∀ i, (tables.channels i).parent ≠ 0 → tables.Stands i

/-- What was given an identifier before has it still, or is gone. -/
def Tables.Follows (next tables : Tables) : Prop :=
  Later tables.nextId.toNat tables.nameAt next.nextId.toNat next.nameAt

theorem idAt_none (part : Part) : Objects.none.idAt part = 0 := by
  cases part with
  | channel => rfl
  | filter k =>
      simp only [Objects.none, Objects.idAt, Channel.objects, List.map_replicate, List.getD,
        List.getElem?_replicate]
      split <;> rfl
  | job slot => rfl

theorem nameAt_put_self (tables : Tables) (i : ChannelIndex) (objects : Objects) (part : Part) :
    (tables.put i objects).nameAt (i, part) = (objects.idAt part).toNat := by
  simp [Tables.nameAt]

theorem nameAt_put_of_ne (tables : Tables) (objects : Objects) {i j : ChannelIndex} (other : j ≠ i)
    (part : Part) : (tables.put i objects).nameAt (j, part) = tables.nameAt (j, part) := by
  rw [Tables.nameAt, Tables.put_channels_of_ne _ _ other]
  rfl

/-- The next identifier is above the last, as long as the counter does not come back. -/
theorem Tables.lt_fresh {tables : Tables} (grows : tables.nextId ≤ tables.fresh) :
    tables.nextId.toNat < tables.fresh.toNat := by
  have bound := tables.nextId.toNat_lt
  have next : (tables.nextId + 1).toNat = (tables.nextId.toNat + 1) % 2 ^ 32 :=
    UInt32.toNat_add tables.nextId 1
  rw [UInt32.le_iff_toNat_le] at grows
  unfold fresh at grows ⊢
  split at grows
  case isTrue wraps =>
    rw [if_pos wraps]
    rw [wraps, UInt32.toNat_zero] at next
    rw [UInt32.toNat_one] at grows ⊢
    omega
  case isFalse ends =>
    rw [if_neg ends]
    omega

/-! ## Requests -/

section Requests

variable {tables next : Tables} {i : ChannelIndex} {objects objects' : Objects} {fresh : UInt32}

/-- Every part of a channel has been freed, is as it was, or is the one that is new. -/
def Objects.Renewed (fresh : UInt32) (given : Bool) (objects next : Objects) : Prop :=
  ∃ new, ∀ part, next.idAt part = 0 ∨ next.idAt part = objects.idAt part ∨
    part = new ∧ given = true ∧ next.idAt part = fresh

theorem Objects.renewed_setJob (slot : Slot) (name : UInt32 × ScheduleKind) {given : Bool}
    (new : name.1 = 0 ∨ given = true ∧ name.1 = fresh) :
    objects.Renewed fresh given (objects.setJob slot name) := by
  refine ⟨.job slot, fun part => ?_⟩
  cases part with
  | channel => exact .inr (.inl rfl)
  | filter k => exact .inr (.inl rfl)
  | job other =>
      by_cases here : other = slot
      · subst here
        rcases new with free | given
        · exact .inl (by simpa [idAt, setJob] using free)
        · exact .inr (.inr ⟨rfl, given.1, by simpa [idAt, setJob] using given.2⟩)
      · exact .inr (.inl (by simp [idAt, setJob, here]))

theorem Objects.renewed_setFilter (k : Nat) (id : UInt32) {given : Bool}
    (new : id = 0 ∨ given = true ∧ id = fresh) :
    objects.Renewed fresh given (objects.setFilter k id) := by
  refine ⟨.filter k, fun part => ?_⟩
  cases part with
  | channel => exact .inr (.inl rfl)
  | job slot => exact .inr (.inl rfl)
  | filter j =>
      by_cases here : j = k
      · subst here
        by_cases inside : j < objects.filters.length
        · have now : (objects.setFilter j id).idAt (.filter j) = id := by
            simp [idAt, setFilter, List.getD, inside]
          rcases new with rfl | given
          · exact .inl now
          · exact .inr (.inr ⟨rfl, given.1, now.trans given.2⟩)
        · exact .inl (by simp [idAt, setFilter, List.getD, inside])
      · exact .inr (.inl (by simp [idAt, setFilter, List.getD, List.getElem?_set_ne (Ne.symm here)]))

theorem Objects.renewed_of_cleared {given : Bool}
    (cleared : ∀ part, objects'.idAt part = 0 ∨ objects'.idAt part = objects.idAt part) :
    objects.Renewed fresh given objects' :=
  ⟨.channel, fun part => (cleared part).imp_right .inl⟩

theorem idAt_clearFilters (objects : Objects) (part : Part) :
    objects.clearFilters.idAt part = 0 ∨ objects.clearFilters.idAt part = objects.idAt part := by
  cases part with
  | channel => exact .inr rfl
  | job slot => exact .inr rfl
  | filter k =>
      left
      simp only [Objects.idAt, Objects.clearFilters, List.getD, List.getElem?_replicate]
      split <;> rfl

theorem idAt_clearPeriodic (objects : Objects) (slots : List Slot) (part : Part) :
    (objects.clearPeriodic slots).idAt part = 0 ∨
      (objects.clearPeriodic slots).idAt part = objects.idAt part := by
  cases part with
  | channel => exact .inr rfl
  | filter k => exact .inr rfl
  | job slot =>
      simp only [Objects.idAt, Objects.clearPeriodic]
      split
      · exact .inl rfl
      · exact .inr rfl

/-- Of the parts of its channel, a request names one at most. -/
theorem Command.Changes.renewed {command : Command}
    (changes : command.Changes fresh objects objects') :
    objects.Renewed fresh command.gives objects' := by
  cases command
  case startPeriodic =>
    obtain ⟨slot, kind, -, -, -, rfl⟩ := changes
    exact Objects.renewed_setJob slot _ (.inr ⟨rfl, rfl⟩)
  case startRepeat =>
    obtain ⟨slot, kind, -, -, -, rfl⟩ := changes
    exact Objects.renewed_setJob slot _ (.inr ⟨rfl, rfl⟩)
  case stopPeriodic =>
    obtain ⟨slot, -, -, -, rfl⟩ := changes
    exact Objects.renewed_setJob slot _ (.inl rfl)
  case stopRepeat =>
    obtain ⟨slot, -, -, -, rfl⟩ := changes
    exact Objects.renewed_setJob slot _ (.inl rfl)
  case startFilter =>
    obtain ⟨k, -, rfl⟩ := changes
    exact Objects.renewed_setFilter k _ (.inr ⟨rfl, rfl⟩)
  case stopFilter =>
    obtain ⟨k, -, -, rfl⟩ := changes
    exact Objects.renewed_setFilter k _ (.inl rfl)
  case clearPeriodic =>
    obtain rfl := changes
    exact Objects.renewed_of_cleared (idAt_clearPeriodic objects _)
  case clearFilters =>
    obtain rfl := changes
    exact Objects.renewed_of_cleared (idAt_clearFilters objects)
  all_goals
    obtain rfl := changes
    exact Objects.renewed_of_cleared fun _ => .inr rfl

theorem Command.Changes.protocol {command : Command}
    (changes : command.Changes fresh objects objects') : objects'.protocol = objects.protocol := by
  cases command
  case startPeriodic | startRepeat =>
    obtain ⟨slot, kind, -, -, -, rfl⟩ := changes
    rfl
  case stopPeriodic | stopRepeat =>
    obtain ⟨slot, -, -, -, rfl⟩ := changes
    rfl
  case startFilter =>
    obtain ⟨k, -, rfl⟩ := changes
    rfl
  case stopFilter =>
    obtain ⟨k, -, -, rfl⟩ := changes
    rfl
  all_goals
    obtain rfl := changes
    rfl

theorem Objects.Sorted.setJob (sorted : objects.Sorted) {slot : Slot} {name : UInt32 × ScheduleKind}
    (own : name.1 ≠ 0 → (name.2 ≠ .periodic ↔ Slot.isRepeat slot = true)) :
    (objects.setJob slot name).Sorted := by
  intro other used
  by_cases here : other = slot
  · subst here
    simp only [Objects.setJob, Function.update_self] at used ⊢
    exact own used
  · simp only [Objects.setJob, Function.update_of_ne here] at used ⊢
    exact sorted other used

/-- The repeats stay in the slots that are theirs. -/
theorem Command.Changes.sorted {command : Command}
    (changes : command.Changes fresh objects objects') (sorted : objects.Sorted) :
    objects'.Sorted := by
  cases command
  case startPeriodic | startRepeat =>
    obtain ⟨slot, kind, place, sort, -, rfl⟩ := changes
    apply sorted.setJob
    intro _
    rw [place]
    exact sort
  case stopPeriodic | stopRepeat =>
    obtain ⟨slot, -, -, -, rfl⟩ := changes
    apply sorted.setJob
    exact fun used => absurd rfl used
  case startFilter =>
    obtain ⟨k, -, rfl⟩ := changes
    exact sorted
  case stopFilter =>
    obtain ⟨k, -, -, rfl⟩ := changes
    exact sorted
  case clearPeriodic =>
    obtain rfl := changes
    intro slot used
    simp only [Objects.clearPeriodic] at used ⊢
    split at used
    case isTrue => exact absurd rfl used
    case isFalse kept =>
      rw [if_neg kept]
      exact sorted slot used
  all_goals
    obtain rfl := changes
    exact sorted

/-! ## Tables -/

theorem Tables.put_same {i : ChannelIndex} {field : Objects → UInt32}
    (same : field objects' = field (tables.channels i)) (j : ChannelIndex) :
    field ((tables.put i objects').channels j) = field (tables.channels j) := by
  by_cases here : j = i
  · subst here
    rw [Tables.put_channels_self]
    exact same
  · rw [Tables.put_channels_of_ne _ _ here]

/-- A channel stands where it stood, as long as the channels are what they were. -/
theorem Tables.Stands.of_same (stands : tables.Stands i)
    (id : ∀ j, (next.channels j).id = (tables.channels j).id)
    (parent : ∀ j, (next.channels j).parent = (tables.channels j).parent)
    (protocol : ∀ j, (next.channels j).protocol = (tables.channels j).protocol) :
    next.Stands i := by
  obtain ⟨isotp, p, own, physical, can⟩ := stands
  refine ⟨by rw [protocol, isotp], p, ?_, ?_, ?_⟩
  · rw [id, parent, own]
  · rw [parent, physical]
  · rw [protocol, can]

/-- What a request makes of a table. -/
theorem Tables.Performed.renews {command : Command} (performed : tables.Performed i command next)
    (grows : tables.nextId ≤ next.nextId) :
    Renews tables.nextId.toNat tables.nameAt next.nextId.toNat next.nameAt := by
  obtain ⟨objects', changes, rfl⟩ := performed
  have renewed : (tables.channels i).Renewed tables.fresh command.gives objects' := by
    cases gives : command.gives with
    | false =>
        rw [gives, if_neg (by simp)] at changes
        rw [← gives]
        exact changes.renewed
    | true =>
        rw [gives, if_pos rfl] at changes
        rw [← gives]
        exact changes.renewed
  obtain ⟨new, each⟩ := renewed
  refine ⟨UInt32.le_iff_toNat_le.1 grows, (i, new), fun place => ?_⟩
  obtain ⟨j, part⟩ := place
  by_cases here : j = i
  · subst here
    rw [nameAt_put_self]
    rcases each part with free | kept | ⟨rfl, gives, fresh⟩
    · exact .inl (by rw [free]; rfl)
    · exact .inr (.inl (by rw [kept]; rfl))
    · right
      right
      rw [gives, if_pos rfl] at grows ⊢
      rw [fresh]
      exact ⟨rfl, Tables.lt_fresh grows, Nat.le_refl _⟩
  · right
    left
    rw [nameAt_put_of_ne _ _ here]
    cases command.gives <;> rfl

/-- A request leaves the objects sound. -/
theorem Tables.Sound.performed (sound : tables.Sound) {command : Command}
    (used : (tables.channels i).id ≠ 0) (performed : tables.Performed i command next)
    (grows : tables.nextId ≤ next.nextId) : next.Sound ∧ next.Follows tables := by
  have renews := performed.renews grows
  refine ⟨?_, renews.later⟩
  have stamped := sound.stamped.renew renews
  obtain ⟨objects', changes, rfl⟩ := performed
  have before : (if command.gives then tables.advance else tables).channels = tables.channels := by
    cases command.gives <;> rfl
  rw [before] at changes
  have channels : ∀ j, ((if command.gives then tables.advance else tables).put i objects').channels
      j = (tables.put i objects').channels j := by
    intro j
    rw [Tables.put, Tables.put, before]
  have same := changes.same
  have id := fun j => (congrArg Objects.id (channels j)).trans (Tables.put_same same.1 j)
  have parent := fun j => (congrArg Objects.parent (channels j)).trans (Tables.put_same same.2 j)
  have protocol := fun j =>
    (congrArg Objects.protocol (channels j)).trans (Tables.put_same changes.protocol j)
  constructor
  case stamped => exact stamped
  case neat =>
    intro j free
    rw [id] at free
    have other : j ≠ i := by
      rintro rfl
      exact used free
    rw [channels, Tables.put_channels_of_ne _ _ other]
    exact sound.neat j free
  case sorted =>
    intro j
    rw [channels]
    by_cases here : j = i
    · subst here
      rw [Tables.put_channels_self]
      exact changes.sorted (sound.sorted j)
    · rw [Tables.put_channels_of_ne _ _ here]
      exact sound.sorted j
  case parents =>
    intro j logical
    rw [parent] at logical
    exact (sound.parents j logical).of_same id parent protocol

end Requests

/-! ## Connections -/

section Connections

variable {tables next : Tables} {i : ChannelIndex}

/-- Channels are given up, and none that another stands on without it. -/
theorem Tables.Sound.release (sound : tables.Sound) (gone : ChannelIndex → Prop)
    [DecidablePred gone]
    (whole : ∀ j p, ¬ gone j → (tables.channels j).parent ≠ 0 →
      (tables.channels p).id = (tables.channels j).parent → (tables.channels p).parent = 0 →
      ¬ gone p) :
    (tables.release gone).Sound ∧ (tables.release gone).Follows tables := by
  have renews : Renews tables.nextId.toNat tables.nameAt (tables.release gone).nextId.toNat
      (tables.release gone).nameAt := by
    refine .of_same (Nat.le_refl _) (fun place => ?_) (0, .channel)
    obtain ⟨j, part⟩ := place
    rw [Tables.nameAt, Tables.release_channels]
    split
    · exact .inl (by rw [idAt_none]; rfl)
    · exact .inr rfl
  refine ⟨⟨?_, ?_, sound.stamped.renew renews, ?_⟩, renews.later⟩
  · intro j free
    rw [Tables.release_channels] at free ⊢
    split
    case isTrue => rfl
    case isFalse stays =>
      rw [if_neg stays] at free
      exact sound.neat j free
  · intro j
    rw [Tables.release_channels]
    split
    · exact fun _ used => absurd rfl used
    · exact sound.sorted j
  · intro j logical
    rw [Tables.release_channels] at logical
    by_cases left : gone j
    · rw [if_pos left] at logical
      exact absurd rfl logical
    rw [if_neg left] at logical
    obtain ⟨isotp, p, own, physical, can⟩ := sound.parents j logical
    have stays := whole j p left logical own physical
    refine ⟨by rw [Tables.release_channels, if_neg left, isotp], p, ?_, ?_, ?_⟩
    · rw [Tables.release_channels, Tables.release_channels, if_neg left, if_neg stays, own]
    · rw [Tables.release_channels, if_neg stays, physical]
    · rw [Tables.release_channels, if_neg stays, can]

/-- A physical channel takes the channels that stand on it along. -/
theorem Tables.Sound.drop (sound : tables.Sound) (used : (tables.channels i).id ≠ 0) :
    (tables.drop i).Sound ∧ (tables.drop i).Follows tables := by
  apply sound.release
  intro j p stays logical own physical gone
  rcases gone with rfl | child
  · exact stays (.inr own.symm)
  · rw [physical] at child
    exact used child.symm

theorem Tables.Sound.put_none (sound : tables.Sound) (logical : (tables.channels i).parent ≠ 0) :
    (tables.put i .none).Sound ∧ (tables.put i .none).Follows tables := by
  have released : tables.put i .none = tables.release fun j => j = i := by
    refine Tables.ext rfl rfl (funext fun j => ?_)
    by_cases here : j = i
    · simp [Tables.put, Tables.release_channels, here]
    · simp [Tables.put, Tables.release_channels, here]
  rw [released]
  apply sound.release
  rintro j p stays - - physical rfl
  exact logical physical

/-- An identifier is spent. -/
theorem Tables.Sound.advance (sound : tables.Sound) (grows : tables.nextId ≤ tables.fresh) :
    tables.advance.Sound ∧ tables.advance.Follows tables := by
  have renews : Renews tables.nextId.toNat tables.nameAt tables.advance.nextId.toNat
      tables.advance.nameAt :=
    .of_same (UInt32.le_iff_toNat_le.1 grows) (fun _ => .inr rfl) (0, .channel)
  exact ⟨⟨sound.neat, sound.sorted, sound.stamped.renew renews, sound.parents⟩, renews.later⟩

theorem idAt_begun (objects : Objects) (begun : objects.id = tables.fresh)
    (filters : objects.filters = Objects.none.filters) (jobs : objects.jobs = Objects.none.jobs)
    (part : Part) :
    objects.idAt part = 0 ∨ part = .channel ∧ objects.idAt part = tables.fresh := by
  cases part with
  | channel => exact .inr ⟨rfl, begun⟩
  | filter k =>
      left
      rw [Objects.idAt, filters]
      exact idAt_none (.filter k)
  | job slot =>
      left
      rw [Objects.idAt, jobs]
      exact idAt_none (.job slot)

/-- A free channel is given the next identifier. -/
theorem Tables.Sound.begin (sound : tables.Sound) {parent protocol : UInt32}
    (free : (tables.channels i).id = 0) (grows : tables.nextId ≤ tables.fresh)
    (stands : parent ≠ 0 → protocol = protocolIsotp ∧ ∃ p, (tables.channels p).id = parent ∧
      (tables.channels p).parent = 0 ∧ (tables.channels p).protocol = protocolCan) :
    (tables.advance.put i { Objects.begun tables.fresh with parent, protocol }).Sound ∧
      (tables.advance.put i { Objects.begun tables.fresh with parent, protocol }).Follows
        tables := by
  generalize made : ({ Objects.begun tables.fresh with parent, protocol } : Objects) = objects
  have above := Tables.lt_fresh grows
  have id : objects.id = tables.fresh := by rw [← made]; rfl
  have renews : Renews tables.nextId.toNat tables.nameAt
      (tables.advance.put i objects).nextId.toNat (tables.advance.put i objects).nameAt := by
    refine ⟨UInt32.le_iff_toNat_le.1 grows, (i, .channel), fun place => ?_⟩
    obtain ⟨j, part⟩ := place
    by_cases here : j = i
    · subst here
      rw [nameAt_put_self]
      rcases idAt_begun objects id (by rw [← made]; rfl) (by rw [← made]; rfl) part with
        none | ⟨rfl, fresh⟩
      · exact .inl (by rw [none]; rfl)
      · right
        right
        rw [fresh]
        exact ⟨rfl, above, Nat.le_refl _⟩
    · exact .inr (.inl (nameAt_put_of_ne _ _ here part))
  refine ⟨⟨?_, ?_, sound.stamped.renew renews, ?_⟩, renews.later⟩
  · intro j none
    by_cases here : j = i
    · subst here
      rw [Tables.put_channels_self, id] at none
      rw [none] at above
      exact absurd above (Nat.not_lt_zero _)
    · rw [Tables.put_channels_of_ne _ _ here] at none ⊢
      exact sound.neat j none
  · intro j
    by_cases here : j = i
    · subst here
      rw [Tables.put_channels_self, ← made]
      exact fun _ used => absurd rfl used
    · rw [Tables.put_channels_of_ne _ _ here]
      exact sound.sorted j
  · intro j logical
    -- the channel that was free is nobody's parent
    have kept : ∀ {p}, (tables.channels p).id ≠ 0 →
        (tables.advance.put i objects).channels p = tables.channels p := by
      intro p used
      have other : p ≠ i := by
        rintro rfl
        exact used free
      exact Tables.put_channels_of_ne _ _ other
    by_cases here : j = i
    · subst here
      have shape : (tables.advance.put j objects).channels j = objects :=
        Tables.put_channels_self ..
      rw [shape, ← made] at logical
      obtain ⟨isotp, p, own, physical, can⟩ := stands logical
      have used : (tables.channels p).id ≠ 0 := by
        rw [own]
        exact logical
      refine ⟨by rw [shape, ← made]; exact isotp, p, ?_, ?_, ?_⟩
      · rw [kept used, shape, ← made, own]
      · rw [kept used, physical]
      · rw [kept used, can]
    · have shape : (tables.advance.put i objects).channels j = tables.channels j :=
        Tables.put_channels_of_ne _ _ here
      rw [shape] at logical
      obtain ⟨isotp, p, own, physical, can⟩ := sound.parents j logical
      have used : (tables.channels p).id ≠ 0 := by
        rw [own]
        exact logical
      refine ⟨by rw [shape, isotp], p, ?_, ?_, ?_⟩
      · rw [kept used, shape, own]
      · rw [kept used, physical]
      · rw [kept used, can]

end Connections

/-! ## Runs -/

section Runs

variable {σ : Type*} {drivers : Drivers σ} {core : Core (Station σ)}

/-- A logical channel is only opened on a CAN channel that is connected. -/
theorem connectLogical_physical {physical id : UInt32} {req : LogicalRequest}
    (ok : (connectLogical drivers core physical req).1 = .ok id) :
    ∃ p, (core.tables.channels p).id = physical ∧
      (core.tables.channels p).protocol = protocolCan := by
  unfold connectLogical at ok
  split at ok
  · cases ok
  split at ok
  · cases ok
  case h_2 p found =>
    have chosen := List.find?_some found
    rw [Bool.and_eq_true, decide_eq_true_eq, decide_eq_true_eq] at chosen
    refine ⟨p, chosen.2, ?_⟩
    by_contra other
    change (core.channels p).protocol ≠ protocolCan at other
    split at ok
    · unfold logicalConnect at ok
      dsimp only at ok
      rw [if_pos other] at ok
      cases ok
    · cases ok

theorem Tables.Sound.untouched {tables next : Tables} (sound : tables.Sound)
    (untouched : tables.Untouched next) (grows : tables.nextId ≤ next.nextId) :
    next.Sound ∧ next.Follows tables := by
  rcases untouched with rfl | rfl
  · exact ⟨sound, .refl ..⟩
  · exact sound.advance grows

theorem Tables.Sound.outcome {tables next : Tables} (sound : tables.Sound) {effect : Tables → Prop}
    {sticks : Bool} {answer : Except ConnectError UInt32}
    (outcome : Outcome tables next effect sticks answer) (grows : tables.nextId ≤ next.nextId)
    (served : effect next → next.Sound ∧ next.Follows tables) :
    next.Sound ∧ next.Follows tables := by
  cases answer with
  | ok id => exact served outcome.2.2
  | error err =>
      rw [Outcome] at outcome
      split at outcome
      · exact served outcome
      · exact sound.untouched outcome grows

/-- No channel stands on one that is yet to be connected. -/
theorem Tables.Sound.childless {tables : Tables} (sound : tables.Sound)
    (grows : tables.nextId ≤ tables.fresh) (j : ChannelIndex) :
    (tables.channels j).parent ≠ tables.fresh := by
  intro child
  have above := Tables.lt_fresh grows
  have logical : (tables.channels j).parent ≠ 0 := by
    intro none
    rw [none] at child
    rw [← child] at above
    exact Nat.not_lt_zero _ above
  obtain ⟨-, p, own, -, -⟩ := sound.parents j logical
  have name : tables.nameAt (p, .channel) = tables.fresh.toNat := by
    rw [← child, ← own]
    rfl
  have below := sound.stamped.below (p, .channel) (by omega)
  omega

/-- What the link task does to the objects, as long as the identifiers last. -/
theorem Tables.Sound.move (sound : core.tables.Sound) (m : Move)
    (grows : core.nextId ≤ (core.move drivers m).nextId) :
    (core.move drivers m).tables.Sound ∧ (core.move drivers m).tables.Follows core.tables := by
  have kept : ∀ {next : Core (Station σ)}, next.tables = core.tables →
      next.tables.Sound ∧ next.tables.Follows core.tables := by
    intro next same
    rw [same]
    exact ⟨sound, .refl ..⟩
  cases m with
  | connect req =>
      have outcome := connect_outcome drivers sound.neat sound.childless req grows
      apply sound.outcome outcome grows
      rintro ⟨i, free, next⟩
      have given : (core.move drivers (.connect req)).nextId = core.tables.fresh :=
        congrArg Tables.nextId next
      rw [given] at grows
      rw [next]
      exact sound.begin free grows fun logical => absurd rfl logical
  | connectLogical physical req =>
      have outcome := connectLogical_outcome drivers sound.neat physical req
      cases answer : (connectLogical drivers core physical req).1 with
      | error err =>
          rw [answer] at outcome
          exact sound.untouched outcome grows
      | ok id =>
          obtain ⟨p, own, can⟩ := connectLogical_physical answer
          rw [answer] at outcome
          apply sound.outcome outcome grows
          rintro ⟨i, free, next⟩
          have given : (core.move drivers (.connectLogical physical req)).nextId =
              core.tables.fresh := congrArg Tables.nextId next
          rw [given] at grows
          -- a logical channel is not a CAN channel
          have flat : (core.tables.channels p).parent = 0 := by
            by_contra logical
            have isotp := (sound.parents p logical).1
            rw [can] at isotp
            exact absurd isotp (by decide)
          rw [next]
          exact sound.begin free grows fun _ => ⟨rfl, p, own, flat, can⟩
  | disconnect id logical =>
      rcases disconnect_answered drivers core id logical with ⟨-, i, some, own, next⟩ | ⟨-, same⟩
      · rw [← own] at some
        rw [Core.move.eq_3, next]
        split
        case isTrue => exact sound.drop some
        case isFalse stacked => exact sound.put_none stacked
      · exact kept same
  | link op =>
      cases op with
      | poll => exact kept (Steady.corePoll (.refl core)).tables
      | request id command =>
          rcases request_answered drivers.vif core id command with
            ⟨-, i, some, own, performed⟩ | ⟨-, same⟩
          · rw [← own] at some
            exact sound.performed some performed grows
          · exact kept same

/-- The counter of the identifiers does not come back behind itself. -/
def Core.Lasts (drivers : Drivers σ) (core : Core (Station σ)) (m : Move) : Prop :=
  core.nextId ≤ (core.move drivers m).nextId

instance (drivers : Drivers σ) (core : Core (Station σ)) (m : Move) :
    Decidable (core.Lasts drivers m) :=
  inferInstanceAs (Decidable (core.nextId ≤ (core.move drivers m).nextId))

/-- The objects of a run are sound, and follow those of the state it began in. -/
theorem run_tables_sound {moves : List Move} (sound : core.tables.Sound)
    (lasts : Admissible (Core.Lasts drivers) (Core.move drivers) core moves) :
    (run (Core.move drivers) core moves).tables.Sound ∧
      (run (Core.move drivers) core moves).tables.Follows core.tables := by
  induction moves generalizing core with
  | nil => exact ⟨sound, .refl ..⟩
  | cons m moves ih =>
      obtain ⟨next, follows⟩ := sound.move m lasts.1
      obtain ⟨final, later⟩ := ih next lasts.2
      exact ⟨final, follows.trans later⟩

theorem sound_opened (device nextId : UInt32) (env : σ) :
    (Core.opened device nextId env).tables.Sound := by
  have name : (Core.opened device nextId env).tables.nameAt = fun _ => 0 := by
    funext place
    rw [Tables.nameAt]
    exact congrArg UInt32.toNat (idAt_none place.2)
  refine ⟨fun _ _ => rfl, fun _ _ used => absurd rfl used, ?_, fun _ some => absurd rfl some⟩
  rw [name]
  exact .free _

/-- In every state of a run, whatever was asked for and whatever the drivers answered, no two
objects have the same identifier, and a logical channel stands on a CAN channel that is connected;
and an identifier that has once been given names what it named, or nothing, ever after. -/
theorem identifiers_never_reused (drivers : Drivers σ) (device nextId : UInt32) (env : σ)
    (before after : List Move)
    (lasts : Admissible (Core.Lasts drivers) (Core.move drivers) (Core.opened device nextId env)
      (before ++ after)) :
    let core := run (Core.move drivers) (Core.opened device nextId env) before
    let next := run (Core.move drivers) core after
    core.tables.Sound ∧ ∀ place, next.tables.nameAt place ≠ 0 →
      next.tables.nameAt place ≤ core.nextId.toNat →
      next.tables.nameAt place = core.tables.nameAt place := by
  intro core next
  have parts := lasts.append
  have sound : core.tables.Sound := (run_tables_sound (sound_opened device nextId env) parts.1).1
  have later : next.tables.Follows core.tables := (run_tables_sound sound parts.2).2
  exact ⟨sound, fun place used given => later.eq_of_le used given⟩

end Runs

def canRequest : ConnectRequest :=
  { device := 1, connector := 1, pins := [6, 14], protocol := protocolCan, baudrate := 500000 }

/-- A CAN channel with a filter and a logical channel. -/
def openingMoves : List Move :=
  [.connect canRequest,
    .link (.request 2 (.startFilter
      { type := filterPass, mask := [0, 0, 7, 0xff], pattern := [0, 0, 7, 0xe8] })),
    .connectLogical 2
      { protocol := protocolIsotp, localAddress := [0, 0, 7, 0xe8]
        remoteAddress := [0, 0, 7, 0xe0] }]

/-- The channel is given up, with all that stands on it, and connected again. -/
def closingMoves : List Move :=
  [.disconnect 2 false, .connect canRequest]

theorem identifiers_never_reused_after_disconnect :
    let core := run (Core.move Script.drivers) (Core.opened 1 1 ({} : Script)) openingMoves
    let next := run (Core.move Script.drivers) core closingMoves
    core.tables.Sound ∧ core.tables.nameAt (0, .channel) = 2 ∧
      next.tables.nameAt (0, .channel) = 5 ∧ next.tables.nameAt (0, .filter 0) = 0 := by
  have lasts : Admissible (Core.Lasts Script.drivers) (Core.move Script.drivers)
      (Core.opened 1 1 ({} : Script)) (openingMoves ++ closingMoves) := by decide
  have sound := (identifiers_never_reused Script.drivers 1 1 ({} : Script) openingMoves
    closingMoves lasts).1
  exact ⟨sound, by decide, by decide, by decide⟩

end OpenDiag.J2534
