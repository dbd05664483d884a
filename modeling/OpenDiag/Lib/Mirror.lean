import Mathlib.Logic.Function.Basic

/-!
# Tables that mirror each other

Two parties keep a table each, and an entry of either names a thing that both know. The tables
mirror each other where every name in one stands exactly once in the other, so that the entries in
use on the two sides are in bijection. They do so behind an entry that is made on both sides with a
new name, behind one that is given up on both, and behind a selection that both make alike.
-/

namespace OpenDiag

variable {κ α ι : Type*}

/-- Every name in one table stands exactly once in the other. -/
def Covers (left : κ → Option ι) (right : α → Option ι) : Prop :=
  ∀ ⦃k x⦄, left k = some x → ∃! a, right a = some x

structure Mirrors (left : κ → Option ι) (right : α → Option ι) : Prop where
  onto : Covers left right
  back : Covers right left

variable {left left' : κ → Option ι} {right right' : α → Option ι}

/-! ## One side -/

section Insert

variable [DecidableEq κ] [DecidableEq α] {k : κ} {a : α} {x : ι}

theorem Covers.insert (covers : Covers left right) (free : right a = none)
    (new : ∀ b, right b ≠ some x) :
    Covers (Function.update left k (some x)) (Function.update right a (some x)) := by
  intro j y named
  by_cases added : j = k
  · subst added
    obtain rfl : x = y := by simpa using named
    refine ⟨a, by simp, fun b other => ?_⟩
    by_contra apart
    exact new b (by simpa [apart] using other)
  · have before : left j = some y := by simpa [added] using named
    obtain ⟨b, known, once⟩ := covers before
    have apart : b ≠ a := by
      rintro rfl
      rw [free] at known
      cases known
    refine ⟨b, by simpa [apart] using known, fun c other => ?_⟩
    dsimp only at other
    by_cases same : c = a
    · subst same
      obtain rfl : x = y := by simpa using other
      exact (new b known).elim
    · exact once c (by simpa [same] using other)

end Insert

theorem Covers.select {keep : κ → Prop} {stays : α → Prop} (covers : Covers left right)
    (kept : ∀ k x, left' k = some x ↔ left k = some x ∧ keep k)
    (stayed : ∀ a x, right' a = some x ↔ right a = some x ∧ stays a)
    (alike : ∀ k a x, left k = some x → right a = some x → (keep k ↔ stays a)) :
    Covers left' right' := by
  intro k x named
  obtain ⟨before, keeps⟩ := (kept k x).1 named
  obtain ⟨a, known, once⟩ := covers before
  refine ⟨a, (stayed a x).2 ⟨known, (alike k a x before known).1 keeps⟩, fun b other => ?_⟩
  exact once b ((stayed b x).1 other).1

/-! ## Both sides -/

namespace Mirrors

theorem symm (mirrors : Mirrors left right) : Mirrors right left :=
  ⟨mirrors.back, mirrors.onto⟩

theorem empty : Mirrors (fun _ : κ => (none : Option ι)) (fun _ : α => none) where
  onto _ _ named := by cases named
  back _ _ named := by cases named

theorem exists_right (mirrors : Mirrors left right) {k : κ} {x : ι} (named : left k = some x) :
    ∃ a, right a = some x :=
  (mirrors.onto named).exists

theorem exists_left (mirrors : Mirrors left right) {a : α} {x : ι} (named : right a = some x) :
    ∃ k, left k = some x :=
  (mirrors.back named).exists

/-- No name stands twice on the left. -/
theorem left_unique (mirrors : Mirrors left right) {j k : κ} {x : ι} (first : left j = some x)
    (second : left k = some x) : j = k := by
  obtain ⟨a, known⟩ := mirrors.exists_right first
  exact (mirrors.back known).unique first second

/-- No name stands twice on the right. -/
theorem right_unique (mirrors : Mirrors left right) {a b : α} {x : ι} (first : right a = some x)
    (second : right b = some x) : a = b :=
  mirrors.symm.left_unique first second

/-- A new name is entered on both sides. -/
theorem insert [DecidableEq κ] [DecidableEq α] (mirrors : Mirrors left right) {k : κ} {a : α}
    {x : ι} (unused : left k = none) (free : right a = none) (new : ∀ j, left j ≠ some x) :
    Mirrors (Function.update left k (some x)) (Function.update right a (some x)) := by
  refine ⟨mirrors.onto.insert free fun b named => ?_, mirrors.back.insert unused new⟩
  obtain ⟨j, known⟩ := mirrors.exists_left named
  exact new j known

/-- Both sides keep the same entries. -/
theorem select (mirrors : Mirrors left right) (keep : κ → Prop) (stays : α → Prop)
    (kept : ∀ k x, left' k = some x ↔ left k = some x ∧ keep k)
    (stayed : ∀ a x, right' a = some x ↔ right a = some x ∧ stays a)
    (alike : ∀ k a x, left k = some x → right a = some x → (keep k ↔ stays a)) :
    Mirrors left' right' :=
  ⟨mirrors.onto.select kept stayed alike,
    mirrors.back.select stayed kept fun a k x inner outer => (alike k a x outer inner).symm⟩

/-- An entry is given up on both sides. -/
theorem erase [DecidableEq κ] [DecidableEq α] (mirrors : Mirrors left right) {k : κ} {a : α}
    {x : ι} (named : left k = some x) (known : right a = some x) :
    Mirrors (Function.update left k none) (Function.update right a none) := by
  refine mirrors.select (fun j => j ≠ k) (fun b => b ≠ a) ?_ ?_ ?_
  · intro j y
    by_cases here : j = k
    · simp [here]
    · simp [here]
  · intro b y
    by_cases here : b = a
    · simp [here]
    · simp [here]
  · intro j b y outer inner
    constructor
    · rintro apart rfl
      rw [known] at inner
      exact apart (mirrors.left_unique outer (named.trans inner))
    · rintro apart rfl
      rw [named] at outer
      exact apart (mirrors.right_unique inner (known.trans outer))

end Mirrors

end OpenDiag
