import Mathlib.Data.Fin.Basic
import Mathlib.Data.Nat.ModEq

/-!
# Turns that go round

A list of turns goes round from a start when each is the one behind its predecessor, and the last of
the `n` is followed by the first. Between two turns of one element, every other has a turn.
-/

namespace OpenDiag

variable {n : ℕ} [NeZero n] {start : ℕ} {turns more : List (Fin n)}

/-- Each turn is the next in the round that begins with `start`. -/
def GoesRound (start : ℕ) (turns : List (Fin n)) : Prop :=
  ∀ k (inside : k < turns.length), turns[k] = Fin.ofNat n (start + k)

theorem GoesRound.nil (start : ℕ) : GoesRound start ([] : List (Fin n)) :=
  fun _ inside => absurd inside (Nat.not_lt_zero _)

theorem GoesRound.append (first : GoesRound start turns)
    (second : GoesRound (start + turns.length) more) : GoesRound start (turns ++ more) := by
  intro k inside
  rcases lt_or_ge k turns.length with early | late
  · rw [List.getElem_append_left early]
    exact first k early
  · rw [List.getElem_append_right late, second (k - turns.length)]
    congr 1
    omega

theorem GoesRound.cons (rest : GoesRound (start + 1) turns) :
    GoesRound start (Fin.ofNat n start :: turns) := by
  have first : GoesRound start [Fin.ofNat n start] := by
    intro k inside
    obtain rfl : k = 0 := by simpa using inside
    rfl
  exact first.append rest

/-- Only the residue of the start matters. -/
theorem GoesRound.congr {other : ℕ} (round : GoesRound start turns) (same : start ≡ other [MOD n]) :
    GoesRound other turns := by
  intro k inside
  rw [round k inside, Fin.ext_iff]
  exact same.add_right k

/-- Between two turns of one element there is a turn of every other. -/
theorem GoesRound.between (round : GoesRound start turns) {first last : ℕ} (before : first < last)
    (inside : last < turns.length) (same : turns[first] = turns[last]) {other : Fin n}
    (differs : other ≠ turns[first]) :
    ∃ k, first < k ∧ ∃ earlier : k < last, turns[k] = other := by
  have positive : 0 < n := Nat.pos_of_neZero n
  have firstTurn := round first (before.trans inside)
  -- The two turns are at least one round apart.
  have apart : n ∣ last - first := by
    have equal : (start + first) % n = (start + last) % n := by
      have values := congrArg Fin.val (firstTurn.symm.trans (same.trans (round last inside)))
      simpa using values
    have gap := (Nat.modEq_iff_dvd' (Nat.add_le_add_left before.le start)).1 equal
    rwa [Nat.add_sub_add_left] at gap
  have long : n ≤ last - first := Nat.le_of_dvd (by omega) apart
  -- The other's turn is as many places behind the first as it is behind it in the round.
  have place : ((start + first) % n + (other.val + n - (start + first) % n) % n) % n =
      other.val := by
    have small : (start + first) % n < n := Nat.mod_lt _ positive
    have below := other.isLt
    rcases le_or_gt ((start + first) % n) other.val with ahead | behind
    · rw [show other.val + n - (start + first) % n = other.val - (start + first) % n + n by omega,
        Nat.add_mod_right, Nat.mod_eq_of_lt (by omega : other.val - (start + first) % n < n),
        Nat.mod_eq_of_lt (by omega)]
      omega
    · rw [Nat.mod_eq_of_lt (by omega : other.val + n - (start + first) % n < n),
        show (start + first) % n + (other.val + n - (start + first) % n) = other.val + n by omega,
        Nat.add_mod_right, Nat.mod_eq_of_lt below]
  set places := (other.val + n - (start + first) % n) % n with places_eq
  have few : places < n := Nat.mod_lt _ positive
  have some : places ≠ 0 := by
    intro none
    refine differs ?_
    rw [firstTurn, Fin.ext_iff, ← place, none]
    simp
  refine ⟨first + places, by omega, by omega, ?_⟩
  rw [round _ (by omega), Fin.ext_iff, ← place, Fin.val_ofNat, ← Nat.add_assoc, Nat.add_mod,
    Nat.mod_eq_of_lt few]

end OpenDiag
