import OpenDiag.Lib.Circular

/-!
# Slots lent in turn

A fixed number of slots is lent out in turn, and the borrower gives them back in the order in which
it got them. After `total` loans of which `count` are still out, those are the latest ones; as long
as they are fewer than the slots, the slot whose turn is next is none of them.
-/

namespace OpenDiag.Lending

variable {size : Nat} [NeZero size] {total count : Nat}

theorem ofNat_add_one (position : Nat) :
    Fin.ofNat size position + 1 = Fin.ofNat size (position + 1) := by
  apply Fin.ext
  rw [Fin.val_add]
  exact (Nat.add_mod_mod _ 1 size).trans (Nat.mod_add_mod position size 1)

/-- The slots that are out, the oldest loan first. -/
def lent (size : Nat) [NeZero size] (total count : Nat) : List (Fin size) :=
  (List.range' (total - count) count).map (Fin.ofNat size)

@[simp] theorem length_lent : (lent size total count).length = count := by
  rw [lent, List.length_map, List.length_range']

/-- A loan goes to the back. -/
theorem lent_succ (owed : count ≤ total) :
    lent size (total + 1) (count + 1) = lent size total count ++ [Fin.ofNat size total] := by
  have last : total - count + count = total := Nat.sub_add_cancel owed
  have first : total + 1 - (count + 1) = total - count := Nat.add_sub_add_right total 1 count
  rw [lent, lent, first, List.range'_concat, Nat.one_mul, last, List.map_append, List.map_cons,
    List.map_nil]

/-- The oldest loan is given back first. -/
theorem lent_eq_cons (owed : count + 1 ≤ total) :
    lent size total (count + 1) =
      Fin.ofNat size (total - (count + 1)) :: lent size total count := by
  have next : total - (count + 1) + 1 = total - count := by omega
  rw [lent, lent, List.range'_succ, List.map_cons, next]

/-- The slot whose turn is next is not out. -/
theorem next_notMem_lent (few : count < size) (owed : count ≤ total) :
    Fin.ofNat size total ∉ lent size total count := by
  intro out
  obtain ⟨loan, inside, same⟩ := List.mem_map.mp out
  have bounds := List.mem_range'_1.mp inside
  exact Circular.ofNat_ne_of_lt (by omega) (by omega) same

end OpenDiag.Lending
