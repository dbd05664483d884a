import Mathlib.Data.List.Basic

/-!
# A window over a history

A fixed number of slots that are filled in turn, so that they hold the latest values of a history:
a new value takes the slot of the oldest one, and the latest value can be amended. The history is
the list of all values, the latest one first.
-/

namespace OpenDiag.Window

variable {α : Type*} {size : Nat} {slots : List α} {history : List α} {value : α}

/-- The slots hold the latest values; `next` is the slot to fill and `count` slots are filled. -/
structure Shows (size : Nat) (slots : List α) (next count : Nat) (history : List α) : Prop where
  length : slots.length = size
  next_eq : next = history.length % size
  count_eq : count = min size history.length
  slot : ∀ age, age < count → slots[(history.length - 1 - age) % size]? = history[age]?

/-- A slot is not visited again within one turn. -/
theorem sub_mod_ne {last age : Nat} (some : 0 < age) (turn : age < size) (older : age ≤ last) :
    (last - age) % size ≠ last % size := by
  intro same
  have none := Nat.sub_mod_eq_zero_of_mod_eq same.symm
  rw [Nat.sub_sub_self older, Nat.mod_eq_of_lt turn] at none
  omega

/-- No slot is filled yet. -/
theorem Shows.empty (length : slots.length = size) : Shows size slots 0 0 [] :=
  ⟨length, rfl, (Nat.min_zero size).symm, fun _ impossible => absurd impossible (Nat.not_lt_zero _)⟩

theorem Shows.next_lt {next count : Nat} (shows : Shows size slots next count history)
    (positive : 0 < size) : next < size := by
  rw [shows.next_eq]
  exact Nat.mod_lt _ positive

/-- A value that joins the history takes the next slot. -/
theorem Shows.push {next count : Nat} (shows : Shows size slots next count history)
    (positive : 0 < size) (value : α) :
    Shows size (slots.set next value) ((next + 1) % size) (min size (count + 1))
      (value :: history) := by
  refine ⟨by rw [List.length_set, shows.length], ?_, ?_, fun age filled => ?_⟩
  · rw [shows.next_eq, Nat.mod_add_mod, List.length_cons]
  · rw [shows.count_eq, List.length_cons]
    omega
  · rw [List.length_cons, Nat.add_sub_cancel, shows.next_eq]
    cases age with
    | zero =>
        rw [Nat.sub_zero, List.getElem?_cons_zero, List.getElem?_set_self]
        rw [shows.length]
        exact Nat.mod_lt _ positive
    | succ age =>
        have counted := shows.count_eq
        have back : history.length - (age + 1) = history.length - 1 - age := by omega
        rw [List.getElem?_cons_succ, List.getElem?_set_ne (sub_mod_ne (Nat.succ_pos _) (by omega)
          (by omega)).symm, ← Nat.add_one, back]
        exact shows.slot age (by omega)

/-- Amending the latest value changes its slot. -/
theorem Shows.amend {next count : Nat} {latest : α}
    (shows : Shows size slots next count (latest :: history)) (value : α) :
    Shows size (slots.set (history.length % size) value) next count (value :: history) := by
  refine ⟨by rw [List.length_set, shows.length], shows.next_eq, shows.count_eq,
    fun age filled => ?_⟩
  have counted := shows.count_eq
  rw [List.length_cons] at counted
  rw [List.length_cons, Nat.add_sub_cancel]
  cases age with
  | zero =>
      rw [Nat.sub_zero, List.getElem?_cons_zero, List.getElem?_set_self]
      rw [shows.length]
      exact Nat.mod_lt _ (by omega)
  | succ age =>
      have same := shows.slot (age + 1) filled
      rw [List.length_cons, Nat.add_sub_cancel] at same
      rw [List.getElem?_cons_succ, List.getElem?_set_ne (sub_mod_ne (Nat.succ_pos _) (by omega)
        (by omega)).symm]
      exact same

/-- The latest values are in the filled slots. -/
theorem Shows.mem {next count : Nat} (shows : Shows size slots next count history)
    (recent : value ∈ history.take size) : value ∈ slots.take count := by
  obtain ⟨age, bound, rfl⟩ := List.mem_take_iff_getElem.mp recent
  have counted := shows.count_eq
  have slot := shows.slot age (by omega)
  rw [List.getElem?_eq_getElem (show age < history.length by omega)] at slot
  apply List.mem_of_getElem? (i := (history.length - 1 - age) % size)
  rw [List.getElem?_take_of_lt, slot]
  rcases Nat.lt_or_ge history.length size with short | long
  · rw [Nat.mod_eq_of_lt (by omega)]
    omega
  · have within := Nat.mod_lt (history.length - 1 - age) (by omega : 0 < size)
    omega

end OpenDiag.Window
