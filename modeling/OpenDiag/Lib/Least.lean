import Mathlib.Data.List.Induction
import Mathlib.Order.Lattice

/-!
# The first of a list in an order that a comparison approximates

A scan keeps an element and replaces it by one that comes before it. Where the comparison decides
every pair of different rank, and never puts the higher rank first, what the scan keeps has the
least rank.
-/

namespace OpenDiag

variable {α β : Type*}

/-- One step of the scan. -/
def keepFirst (before : α → α → Bool) (kept : Option α) (next : α) : Option α :=
  match kept with
  | none => some next
  | some first => if before next first then some next else some first

/-- The element that a scan of the list keeps. -/
def leastOf (before : α → α → Bool) (elements : List α) : Option α :=
  elements.foldl (keepFirst before) none

/-- A comparison follows a rank on a list. -/
structure Follows [Preorder β] (before : α → α → Bool) (rank : α → β) (elements : List α) :
    Prop where
  sound : ∀ x ∈ elements, ∀ y ∈ elements, before x y = true → rank x ≤ rank y
  complete : ∀ x ∈ elements, ∀ y ∈ elements, rank x < rank y → before x y = true

variable {before : α → α → Bool} {elements : List α}

@[simp] theorem leastOf_nil : leastOf before [] = none := rfl

/-- One more element is kept if it comes before the least so far. -/
theorem leastOf_concat (elements : List α) (next : α) :
    leastOf before (elements ++ [next]) = keepFirst before (leastOf before elements) next := by
  rw [leastOf, leastOf, List.foldl_append]
  rfl

/-- The least of some elements is one of them. -/
theorem leastOf_mem {first : α} (least : leastOf before elements = some first) :
    first ∈ elements := by
  induction elements using List.reverseRecOn generalizing first with
  | nil => cases least
  | append_singleton elements next ih =>
      rw [leastOf_concat] at least
      cases kept : leastOf before elements with
      | none =>
          rw [kept] at least
          cases least
          simp
      | some other =>
          rw [kept] at least
          simp only [keepFirst] at least
          split at least <;> cases least
          · simp
          · exact List.mem_append_left _ (ih kept)

/-- There is one unless there are no elements. -/
theorem leastOf_eq_none : leastOf before elements = none ↔ elements = [] := by
  cases elements using List.reverseRecOn with
  | nil => simp
  | append_singleton elements next =>
      rw [leastOf_concat]
      cases leastOf before elements with
      | none => simp [keepFirst]
      | some other =>
          simp only [keepFirst]
          split <;> simp

section Ranks

variable [LinearOrder β] {rank : α → β}

theorem Follows.mono {fewer : List α} (follows : Follows before rank elements)
    (part : fewer ⊆ elements) : Follows before rank fewer :=
  ⟨fun x member y member' => follows.sound x (part member) y (part member'),
    fun x member y member' => follows.complete x (part member) y (part member')⟩

/-- The same comparison and rank, of what the elements stand for. -/
theorem Follows.of_map {γ : Type*} {view : γ → α} {elements : List γ}
    (follows : Follows before rank (elements.map view)) :
    Follows (fun x y => before (view x) (view y)) (fun x => rank (view x)) elements :=
  ⟨fun _ member _ member' => follows.sound _ (List.mem_map_of_mem member) _
      (List.mem_map_of_mem member'),
    fun _ member _ member' => follows.complete _ (List.mem_map_of_mem member) _
      (List.mem_map_of_mem member')⟩

/-- The scan keeps an element of least rank. -/
theorem Follows.le (follows : Follows before rank elements) {first : α}
    (least : leastOf before elements = some first) : ∀ other ∈ elements, rank first ≤ rank other := by
  induction elements using List.reverseRecOn generalizing first with
  | nil => cases least
  | append_singleton elements next ih =>
      rw [leastOf_concat] at least
      intro other member
      rw [List.mem_append, List.mem_singleton] at member
      cases kept : leastOf before elements with
      | none =>
          rw [kept] at least
          cases least
          rw [leastOf_eq_none.1 kept] at member
          rcases member with member | rfl
          · cases member
          · exact le_rfl
      | some held =>
          have earlier := ih (follows.mono (List.subset_append_left _ _)) kept
          have held_mem : held ∈ elements ++ [next] := List.mem_append_left _ (leastOf_mem kept)
          have next_mem : next ∈ elements ++ [next] := by simp
          rw [kept] at least
          simp only [keepFirst] at least
          split at least
          case isTrue replaced =>
            cases least
            rcases member with member | rfl
            · exact (follows.sound next next_mem held held_mem replaced).trans (earlier other member)
            · exact le_rfl
          case isFalse stays =>
            cases least
            rcases member with member | rfl
            · exact earlier other member
            · exact not_lt.1 fun less => stays (follows.complete _ next_mem _ held_mem less)

end Ranks

end OpenDiag
