import Mathlib.Data.List.Nodup
import Mathlib.Order.Lattice

/-!
# Ordered maps

A finite map whose entries are kept in the order of their keys, as a tree map walks them. What holds
of one entry of a map is told by membership: the lemmas say which entries an operation leaves.
-/

namespace OpenDiag

/-- Entries at keys that ascend. -/
structure OrderedMap (κ α : Type*) [LinearOrder κ] where
  entries : List (κ × α)
  ascending : entries.Pairwise fun first second => first.1 < second.1

namespace OrderedMap

variable {κ α : Type*} [LinearOrder κ] {map : OrderedMap κ α} {key other : κ} {value value' : α}

instance : Membership (κ × α) (OrderedMap κ α) :=
  ⟨fun map entry => entry ∈ map.entries⟩

/-- No entry. -/
def empty : OrderedMap κ α :=
  ⟨[], .nil⟩

/-- The value at a key. -/
def find? (map : OrderedMap κ α) (key : κ) : Option α :=
  (map.entries.find? fun entry => entry.1 = key).map Prod.snd

/-- Whether there is an entry at a key. -/
def contains (map : OrderedMap κ α) (key : κ) : Bool :=
  (map.find? key).isSome

/-- The number of entries. -/
def size (map : OrderedMap κ α) : Nat :=
  map.entries.length

/-- The entry at a key is set. -/
def insert (map : OrderedMap κ α) (key : κ) (value : α) : OrderedMap κ α where
  entries := (map.entries.filter fun entry => entry.1 < key) ++
    (key, value) :: map.entries.filter fun entry => key < entry.1
  ascending := by
    rw [List.pairwise_append, List.pairwise_cons]
    refine ⟨map.ascending.filter _, ⟨fun entry member => ?_, map.ascending.filter _⟩, ?_⟩
    · exact of_decide_eq_true (List.mem_filter.1 member).2
    · intro first before second after
      have below := of_decide_eq_true (List.mem_filter.1 before).2
      rcases List.mem_cons.1 after with rfl | later
      · exact below
      · exact lt_trans below (of_decide_eq_true (List.mem_filter.1 later).2)

/-- The entry at a key is removed. -/
def erase (map : OrderedMap κ α) (key : κ) : OrderedMap κ α :=
  ⟨map.entries.filter fun entry => entry.1 ≠ key, map.ascending.filter _⟩

/-- The entries with values of some kind. -/
def filter (map : OrderedMap κ α) (kind : α → Bool) : OrderedMap κ α :=
  ⟨map.entries.filter fun entry => kind entry.2, map.ascending.filter _⟩

/-! ## Entries -/

@[simp] theorem not_mem_empty (entry : κ × α) : entry ∉ (empty : OrderedMap κ α) :=
  List.not_mem_nil

/-- A map with a key inserted holds the new value there and the old ones elsewhere. -/
theorem mem_insert :
    (other, value') ∈ map.insert key value ↔
      other = key ∧ value' = value ∨ other ≠ key ∧ (other, value') ∈ map := by
  change (other, value') ∈ (map.entries.filter fun entry => entry.1 < key) ++
    (key, value) :: map.entries.filter (fun entry => key < entry.1) ↔ _
  rw [List.mem_append, List.mem_cons, List.mem_filter, List.mem_filter, Prod.mk.injEq,
    decide_eq_true_iff, decide_eq_true_iff]
  constructor
  · rintro (⟨member, below⟩ | here | ⟨member, above⟩)
    · exact .inr ⟨ne_of_lt below, member⟩
    · exact .inl here
    · exact .inr ⟨ne_of_gt above, member⟩
  · rintro (here | ⟨differs, member⟩)
    · exact .inr (.inl here)
    · rcases lt_or_gt_of_ne differs with below | above
      · exact .inl ⟨member, below⟩
      · exact .inr (.inr ⟨member, above⟩)

theorem mem_insert_self : (key, value) ∈ map.insert key value :=
  mem_insert.2 (.inl ⟨rfl, rfl⟩)

/-- A map with a key erased holds the old values elsewhere. -/
theorem mem_erase {entry : κ × α} : entry ∈ map.erase key ↔ entry.1 ≠ key ∧ entry ∈ map := by
  change entry ∈ List.filter _ _ ↔ _
  rw [List.mem_filter, decide_eq_true_iff, and_comm]
  exact Iff.rfl

/-- Every key is there once. -/
theorem nodup_keys (map : OrderedMap κ α) : (map.entries.map Prod.fst).Nodup :=
  List.pairwise_map.2 (map.ascending.imp fun below => ne_of_lt below)

theorem mem_filter {kind : α → Bool} {entry : κ × α} :
    entry ∈ map.filter kind ↔ entry ∈ map ∧ kind entry.2 = true :=
  List.mem_filter

/-- A key has one value. -/
theorem unique (first : (key, value) ∈ map) (second : (key, value') ∈ map) : value = value' :=
  congrArg Prod.snd (List.inj_on_of_nodup_map map.nodup_keys first second rfl)

/-- What is found under a key is what is held there. -/
theorem find?_eq_some_iff : map.find? key = some value ↔ (key, value) ∈ map := by
  rw [find?, Option.map_eq_some_iff]
  constructor
  · rintro ⟨⟨other, _⟩, found, rfl⟩
    obtain rfl : other = key := by simpa using List.find?_some found
    exact List.mem_of_find?_eq_some found
  · intro member
    cases found : map.entries.find? fun entry => entry.1 = key with
    | none =>
        exact absurd (decide_eq_true rfl) (List.find?_eq_none.1 found (key, value) member)
    | some entry =>
        obtain ⟨other, value'⟩ := entry
        obtain rfl : other = key := by simpa using List.find?_some found
        exact ⟨_, rfl, unique (List.mem_of_find?_eq_some found) member⟩

theorem contains_iff : map.contains key ↔ ∃ value, (key, value) ∈ map := by
  rw [contains, Option.isSome_iff_exists]
  exact exists_congr fun value => find?_eq_some_iff

/-! ## Sizes -/

/-- A map does not grow by erasing. -/
theorem size_erase_le : (map.erase key).size ≤ map.size :=
  List.length_filter_le _ _

theorem size_filter_le {kind : α → Bool} : (map.filter kind).size ≤ map.size :=
  List.length_filter_le _ _

/-- A map with its keys in a list is no longer than the list: no key counts twice. -/
theorem size_le_of_subset {keys : List κ}
    (subset : ∀ key value, (key, value) ∈ map → key ∈ keys) : map.size ≤ keys.length := by
  rw [size, ← List.length_map Prod.fst]
  apply map.nodup_keys.length_le_of_subset
  intro key member
  obtain ⟨⟨_, value⟩, entry, rfl⟩ := List.mem_map.1 member
  exact subset _ value entry

/-- An entry more, at most. -/
theorem size_insert_le : (map.insert key value).size ≤ map.size + 1 := by
  have bound : (map.insert key value).size ≤ (key :: map.entries.map Prod.fst).length := by
    apply size_le_of_subset
    intro other value' member
    rcases mem_insert.1 member with ⟨rfl, -⟩ | ⟨-, before⟩
    · exact List.mem_cons_self
    · exact List.mem_cons_of_mem _ (List.mem_map_of_mem before)
  rwa [List.length_cons, List.length_map] at bound

/-- An entry that is there is replaced. -/
theorem size_insert_le_of_mem (member : (key, value') ∈ map) :
    (map.insert key value).size ≤ map.size := by
  have bound : (map.insert key value).size ≤ (map.entries.map Prod.fst).length := by
    apply size_le_of_subset
    intro other value'' within
    rcases mem_insert.1 within with ⟨rfl, -⟩ | ⟨-, before⟩
    · exact List.mem_map_of_mem member
    · exact List.mem_map_of_mem before
  rwa [List.length_map] at bound

end OrderedMap

end OpenDiag
