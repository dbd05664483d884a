import Mathlib.Data.List.Basic

/-!
# A ring that lends what it holds

A bounded ring of items. A receiver is lent a contiguous piece at its front and gives it back; the
piece stays in the ring until then, and nothing else is lent meanwhile.
-/

namespace OpenDiag

/-- The items in the ring, the cell that the first of them is in, and how many of them are lent. -/
structure ByteRing (α : Type*) where
  cap : Nat
  tail : Nat
  items : List α
  lent : Nat
  tail_lt : tail < cap
  items_le : items.length ≤ cap
  lent_le : lent ≤ items.length

namespace ByteRing

variable {α : Type*}

/-- An empty ring. -/
def empty (cap : Nat) (positive : 0 < cap) : ByteRing α :=
  ⟨cap, 0, [], 0, positive, Nat.zero_le _, Nat.le_refl _⟩

/-- Put the data behind the items, if all of it fits. -/
def send (ring : ByteRing α) (data : List α) : Option (ByteRing α) :=
  if fits : ring.items.length + data.length ≤ ring.cap then
    some { ring with
      items := ring.items ++ data
      items_le := by simpa using fits
      lent_le := Nat.le_trans ring.lent_le (by simp) }
  else none

/-- The number of items that a receiver who wants some is lent: what is wanted and there, up to the
end of the memory. -/
def contiguous (ring : ByteRing α) (wanted : Nat) : Nat :=
  min (min ring.items.length wanted) (ring.cap - ring.tail)

/-- Lend a piece, unless one is lent already or there is none. -/
def receiveUpTo (ring : ByteRing α) (wanted : Nat) : Option (List α × ByteRing α) :=
  if wanted = 0 ∨ ring.lent ≠ 0 ∨ ring.items = [] then none
  else
    some (ring.items.take (ring.contiguous wanted), { ring with
      lent := ring.contiguous wanted
      lent_le := Nat.le_trans (Nat.min_le_left _ _) (Nat.min_le_left _ _) })

/-- Take back what was lent, and free its cells. -/
def returnItem (ring : ByteRing α) : ByteRing α where
  cap := ring.cap
  tail := (ring.tail + ring.lent) % ring.cap
  items := ring.items.drop ring.lent
  lent := 0
  tail_lt := Nat.mod_lt _ (Nat.zero_lt_of_lt ring.tail_lt)
  items_le := Nat.le_trans (by simp) ring.items_le
  lent_le := Nat.zero_le _

variable {ring ring' : ByteRing α}

@[simp] theorem empty_items (cap : Nat) (positive : 0 < cap) :
    (empty cap positive : ByteRing α).items = [] := rfl

@[simp] theorem empty_lent (cap : Nat) (positive : 0 < cap) :
    (empty cap positive : ByteRing α).lent = 0 := rfl

@[simp] theorem returnItem_lent : ring.returnItem.lent = 0 := rfl

@[simp] theorem length_returnItem :
    ring.returnItem.items.length = ring.items.length - ring.lent :=
  List.length_drop

/-- What is sent is behind what waits, and nothing of that changes hands. -/
theorem send_eq_some {data : List α} (sent : ring.send data = some ring') :
    ring'.items = ring.items ++ data ∧ ring'.lent = ring.lent := by
  unfold send at sent
  split at sent
  · cases sent
    exact ⟨rfl, rfl⟩
  · cases sent

/-- A piece that is lent is not empty, and stays in the ring. -/
theorem receiveUpTo_eq_some {wanted : Nat} {piece : List α}
    (received : ring.receiveUpTo wanted = some (piece, ring')) :
    ring.lent = 0 ∧ ring'.items = ring.items ∧ ring'.lent = piece.length ∧ 0 < piece.length := by
  unfold receiveUpTo at received
  split at received
  · cases received
  · rename_i ready
    cases received
    obtain ⟨wants, free, filled⟩ := not_or.mp ready |>.imp_right not_or.mp
    have some : 0 < ring.items.length := List.length_pos_of_ne_nil filled
    have room := ring.tail_lt
    have length : (ring.items.take (ring.contiguous wanted)).length = ring.contiguous wanted := by
      rw [List.length_take]
      exact Nat.min_eq_left (Nat.le_trans (Nat.min_le_left _ _) (Nat.min_le_left _ _))
    refine ⟨not_not.mp free, rfl, length.symm, ?_⟩
    rw [length, contiguous]
    omega

/-- A receiver who wants something gets nothing only from a ring that has lent or is empty. -/
theorem receiveUpTo_eq_none {wanted : Nat} (none : ring.receiveUpTo wanted = none)
    (wants : wanted ≠ 0) : ring.lent ≠ 0 ∨ ring.items = [] := by
  unfold receiveUpTo at none
  split at none
  · rename_i refused
    exact refused.resolve_left wants
  · cases none

end ByteRing

end OpenDiag
