import Mathlib.Order.Basic

/-!
# Names from a counter

Things in a table of places are named from a counter that goes up: a free place has the name zero,
and a thing that comes new is given a name above all that were given. Then no two things share a
name, and a name that was given once never comes to name something else.
-/

namespace OpenDiag

variable {Place Name : Type*} [Preorder Name] [Zero Name]

/-- The names in use are apart, and the counter has passed them. -/
structure Stamped (top : Name) (name : Place → Name) : Prop where
  below : ∀ place, name place ≠ 0 → name place ≤ top
  apart : ∀ place other, name place ≠ 0 → name place = name other → place = other

/-- Each place has been freed, has kept its name, or is the one that has been given a new one. -/
structure Renews (top : Name) (name : Place → Name) (top' : Name) (name' : Place → Name) : Prop where
  counts : top ≤ top'
  each : ∃ new, ∀ place, name' place = 0 ∨ name' place = name place ∨
    place = new ∧ top < name' place ∧ name' place ≤ top'

/-- A name that had been given by then names what it named then, or nothing. -/
structure Later (top : Name) (name : Place → Name) (top' : Name) (name' : Place → Name) : Prop where
  counts : top ≤ top'
  keeps : ∀ place, name' place ≠ 0 → name' place = name place ∨ top < name' place

section Steps

variable {top top' last : Name} {name name' final : Place → Name}

/-- Where no place is named, the counter may be anywhere. -/
theorem Stamped.free (top : Name) : Stamped top fun _ : Place => 0 :=
  ⟨fun _ used => absurd rfl used, fun _ _ used => absurd rfl used⟩

/-- Names that are renewed from the counter stay apart. -/
theorem Stamped.renew (stamped : Stamped top name) (renews : Renews top name top' name') :
    Stamped top' name' := by
  obtain ⟨new, each⟩ := renews.each
  -- a kept name is not above the counter, so it is not the new one
  have old : ∀ place, name' place ≠ 0 → name' place = name place → name' place ≤ top := by
    intro place used kept
    rw [kept] at used ⊢
    exact stamped.below place used
  constructor
  · intro place used
    rcases each place with free | kept | ⟨-, -, below⟩
    · exact absurd free used
    · exact (old place used kept).trans renews.counts
    · exact below
  · intro place other used same
    have used' : name' other ≠ 0 := by rwa [← same]
    rcases each place with free | kept | ⟨rfl, above, -⟩
    · exact absurd free used
    · rcases each other with free | kept' | ⟨rfl, above, -⟩
      · exact absurd free used'
      · apply stamped.apart place other
        · rwa [← kept]
        · rw [← kept, same, kept']
      · rw [← same] at above
        exact absurd (above.trans_le (old place used kept)) (lt_irrefl _)
    · rcases each other with free | kept' | ⟨rfl, -, -⟩
      · exact absurd free used'
      · rw [same] at above
        exact absurd (above.trans_le (old other used' kept')) (lt_irrefl _)
      · rfl

/-- A name that is renewed is later than those before. -/
theorem Renews.later (renews : Renews top name top' name') : Later top name top' name' := by
  obtain ⟨new, each⟩ := renews.each
  refine ⟨renews.counts, fun place used => ?_⟩
  rcases each place with free | kept | ⟨-, above, -⟩
  · exact absurd free used
  · exact .inl kept
  · exact .inr above

/-- Names that are kept or given up are renewed too. -/
theorem Renews.of_same (counts : top ≤ top') (same : ∀ place, name' place = 0 ∨
    name' place = name place) (place : Place) : Renews top name top' name' :=
  ⟨counts, place, fun other => (same other).imp id .inl⟩

theorem Later.refl (top : Name) (name : Place → Name) : Later top name top name :=
  ⟨le_rfl, fun _ _ => .inl rfl⟩

/-- What is later than something later is later. -/
theorem Later.trans (first : Later top name top' name') (second : Later top' name' last final) :
    Later top name last final := by
  refine ⟨first.counts.trans second.counts, fun place used => ?_⟩
  rcases second.keeps place used with kept | above
  · rw [kept] at used ⊢
    exact first.keeps place used
  · exact .inr (first.counts.trans_lt above)

/-- A name that had been given is not given again. -/
theorem Later.eq_of_le (later : Later top name top' name') {place : Place}
    (used : name' place ≠ 0) (given : name' place ≤ top) : name' place = name place := by
  rcases later.keeps place used with kept | above
  · exact kept
  · exact absurd (above.trans_le given) (lt_irrefl _)

end Steps

end OpenDiag
