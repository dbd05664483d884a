import Mathlib.Algebra.GroupWithZero.Nat
import Mathlib.Data.List.Basic

/-!
# Circular memory

A fixed number of cells addressed modulo their number. A piece that is written may straddle the
end; reading it back from where it was written gives it unchanged, and it leaves every other piece
that lies within one turn of it alone.
-/

namespace OpenDiag.Circular

variable {α : Type*} {size : Nat} [NeZero size]

/-- Memory of `size` cells. -/
abbrev Memory (α : Type*) (size : Nat) := Fin size → α

/-- Store one cell. -/
def set (memory : Memory α size) (position : Nat) (value : α) : Memory α size :=
  fun cell => if cell = Fin.ofNat size position then value else memory cell

/-- Store a piece from `position` on, cell by cell. -/
def write (memory : Memory α size) (position : Nat) : List α → Memory α size
  | [] => memory
  | value :: rest => write (set memory position value) (position + 1) rest

/-- The `count` cells from `position` on. -/
def read (memory : Memory α size) (position : Nat) : Nat → List α
  | 0 => []
  | count + 1 => memory (Fin.ofNat size position) :: read memory (position + 1) count

variable {memory : Memory α size} {position : Nat}

@[simp] theorem length_read (count : Nat) : (read memory position count).length = count := by
  induction count generalizing position with
  | zero => rfl
  | succ count ih => simp [read, ih]

theorem read_add (first second : Nat) :
    read memory position (first + second) =
      read memory position first ++ read memory (position + first) second := by
  induction first generalizing position with
  | zero => simp [read]
  | succ first ih =>
      rw [Nat.succ_add, read, read, ih, List.cons_append, Nat.add_right_comm, Nat.add_assoc]

theorem ofNat_mod (position : Nat) :
    Fin.ofNat size (position % size) = Fin.ofNat size position := by
  simp [Fin.ofNat]

/-- Only the position modulo the size matters. -/
theorem read_mod (count : Nat) : read memory (position % size) count = read memory position count := by
  induction count generalizing position with
  | zero => rfl
  | succ count ih =>
      have next : read memory (position % size + 1) count = read memory (position + 1) count := by
        rw [← ih, Nat.mod_add_mod, ih]
      rw [read, read, ofNat_mod, next]

theorem write_mod (memory : Memory α size) (position : Nat) (data : List α) :
    write memory (position % size) data = write memory position data := by
  induction data generalizing memory position with
  | nil => rfl
  | cons value rest ih =>
      have cell : set memory (position % size) value = set memory position value := by
        unfold set
        rw [ofNat_mod]
      rw [write, write, cell, ← ih, Nat.mod_add_mod, ih]

/-- Two pieces written one behind the other are one piece. -/
theorem write_append (first second : List α) :
    write (write memory position first) (position + first.length) second =
      write memory position (first ++ second) := by
  induction first generalizing memory position with
  | nil => rfl
  | cons value first ih =>
      rw [List.length_cons, Nat.add_comm first.length, ← Nat.add_assoc]
      exact ih

theorem ofNat_ne_of_lt {first second : Nat} (before : first < second)
    (turn : second < first + size) : Fin.ofNat size first ≠ Fin.ofNat size second := by
  intro same
  have congruent : first % size = second % size := congrArg Fin.val same
  have divides : size ∣ second - first :=
    Nat.dvd_of_mod_eq_zero (Nat.sub_mod_eq_zero_of_mod_eq congruent.symm)
  have := Nat.le_of_dvd (by omega) divides
  omega

/-- A cell outside the piece is not written. -/
theorem write_apply_of_ne {cell : Fin size} {data : List α}
    (apart : ∀ index < data.length, cell ≠ Fin.ofNat size (position + index)) :
    write memory position data cell = memory cell := by
  induction data generalizing memory position with
  | nil => rfl
  | cons value rest ih =>
      rw [write, ih, set, if_neg]
      · exact apart 0 (Nat.zero_lt_succ _)
      · intro index inside
        have := apart (index + 1) (Nat.succ_lt_succ inside)
        rwa [← Nat.add_assoc, Nat.add_right_comm] at this

/-- A piece reads back as it was written, wherever the memory ends. -/
theorem read_write_self (memory : Memory α size) (position : Nat) {data : List α}
    (fits : data.length ≤ size) :
    read (write memory position data) position data.length = data := by
  induction data generalizing memory position with
  | nil => rfl
  | cons value rest ih =>
      rw [List.length_cons] at fits
      rw [List.length_cons, read, write, ih _ _ (by omega), write_apply_of_ne, set, if_pos rfl]
      intro index inside
      exact ofNat_ne_of_lt (by omega) (by omega)

/-- A piece written within one turn behind another leaves it alone. -/
theorem read_write_of_disjoint (memory : Memory α size) (data : List α) {start count : Nat}
    (before : start + count ≤ position) (turn : position + data.length ≤ start + size) :
    read (write memory position data) start count = read memory start count := by
  induction count generalizing start with
  | zero => rfl
  | succ count ih =>
      rw [read, read, ih (by omega) (by omega), write_apply_of_ne]
      intro index inside
      exact ofNat_ne_of_lt (by omega) (by omega)

end OpenDiag.Circular
