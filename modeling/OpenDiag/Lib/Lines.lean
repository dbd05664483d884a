import OpenDiag.Lib.Memory

/-!
# Lines of a stream

A stream in which some symbols end a line, and the buffer of fixed size that a reader assembles
its lines in, one symbol at a time. A line that does not fit leaves the buffer, and is over-long
from then on; what the buffer holds is told by the unfinished line alone.
-/

namespace OpenDiag

variable {α : Type*}

/-! ## Lines -/

/-- The lines that end in a stream, of which the first goes on from `line`. -/
def lines (isEnd : α → Bool) (line : List α) : List α → List (List α)
  | [] => []
  | x :: xs => if isEnd x then line :: lines isEnd [] xs else lines isEnd (line ++ [x]) xs

/-- The line that is unfinished at the end of a stream. -/
def openLine (isEnd : α → Bool) (line : List α) : List α → List α
  | [] => line
  | x :: xs => if isEnd x then openLine isEnd [] xs else openLine isEnd (line ++ [x]) xs

variable {isEnd : α → Bool}

theorem lines_append (line first second : List α) :
    lines isEnd line (first ++ second) =
      lines isEnd line first ++ lines isEnd (openLine isEnd line first) second := by
  induction first generalizing line with
  | nil => rfl
  | cons x xs ih =>
      simp only [List.cons_append, lines, openLine]
      cases isEnd x with
      | true => simp only [if_true, List.cons_append, ih]
      | false => exact ih _

theorem openLine_append (line first second : List α) :
    openLine isEnd line (first ++ second) =
      openLine isEnd (openLine isEnd line first) second := by
  induction first generalizing line with
  | nil => rfl
  | cons x xs ih =>
      simp only [List.cons_append, openLine]
      cases isEnd x with
      | true => exact ih _
      | false => exact ih _

/-! ## The buffer -/

/-- A buffer with the place of the next symbol, behind which there is room for a terminator. -/
structure LineBuffer (α : Type*) (size : Nat) where
  cells : Block α size
  count : Nat
  inside : count + 1 < size

namespace LineBuffer

variable {size : Nat} (buffer : LineBuffer α size)

/-- Start over at the front, over what the cells hold. -/
def rewind : LineBuffer α size :=
  ⟨buffer.cells, 0, Nat.lt_of_le_of_lt (Nat.succ_le_succ (Nat.zero_le _)) buffer.inside⟩

/-- Put a symbol at the place and leave the place where it is. -/
def put (x : α) : LineBuffer α size :=
  { buffer with cells := buffer.cells.store buffer.count [x] }

/-- Put a symbol and go on, from the front if no room is left: the buffer and whether it wrapped. -/
def push (x : α) : LineBuffer α size × Bool :=
  if full : buffer.count + 1 = size - 1 then ((buffer.put x).rewind, true)
  else
    (⟨(buffer.put x).cells, buffer.count + 1,
      by have := buffer.inside; omega⟩, false)

/-- What has been put since the front, and the symbol at the place. -/
def text : List α :=
  buffer.cells.load 0 (buffer.count + 1)

/-- The buffer and the mark of an over-long line, as the unfinished line tells them. -/
structure Holds (spilled : Bool) (line : List α) : Prop where
  spilled_iff : spilled = true ↔ size - 1 ≤ line.length
  count : spilled = false → buffer.count = line.length
  load : spilled = false → buffer.cells.load 0 buffer.count = line

variable {buffer : LineBuffer α size} {spilled : Bool} {line : List α}

theorem holds_nil (none : buffer.count = 0) : Holds buffer false [] where
  spilled_iff := by
    have := buffer.inside
    simp only [List.length_nil, Bool.false_eq_true, false_iff]
    omega
  count _ := none
  load _ := by
    rw [none]
    exact slice_zero _ _

theorem Holds.length_lt (holds : Holds buffer false line) : line.length < size - 1 := by
  by_contra long
  exact Bool.false_ne_true (holds.spilled_iff.2 (Nat.not_lt.1 long))

/-- The line with the symbol that was put behind it. -/
theorem Holds.text_put (holds : Holds buffer false line) (x : α) :
    (buffer.put x).text = line ++ [x] := by
  have room : buffer.count + [x].length ≤ buffer.cells.cells.length := by
    rw [buffer.cells.length_cells]
    exact Nat.le_of_lt buffer.inside
  have held := holds.load rfl
  unfold Block.load slice at held
  rw [List.drop_zero] at held
  have both := take_overwrite room
  rw [held] at both
  exact both

/-- What is at the place does not count yet. -/
theorem Holds.put (holds : Holds buffer spilled line) (x : α) : Holds (buffer.put x) spilled line where
  spilled_iff := holds.spilled_iff
  count := holds.count
  load fits := by
    rw [← holds.load fits]
    exact Block.load_store_before (Nat.le_of_lt buffer.inside) (Nat.le_of_eq (Nat.zero_add _))

theorem Holds.push (holds : Holds buffer false line) (x : α) :
    Holds (buffer.push x).1 (buffer.push x).2 (line ++ [x]) := by
  have count := holds.count rfl
  have inside := buffer.inside
  have text := holds.text_put x
  unfold LineBuffer.push
  split
  · refine ⟨?_, nofun, nofun⟩
    simp only [List.length_append, List.length_singleton, true_iff]
    omega
  · refine ⟨?_, fun _ => ?_, fun _ => text⟩
    · simp only [List.length_append, List.length_singleton, Bool.false_eq_true, false_iff]
      omega
    · simpa using count

/-- Nothing is told of the cells once a line is over-long. -/
theorem Holds.more (holds : Holds buffer true line) (other : LineBuffer α size) (x : α) :
    Holds other true (line ++ [x]) := by
  have long := holds.spilled_iff.1 rfl
  refine ⟨?_, nofun, nofun⟩
  simp only [List.length_append, List.length_singleton, true_iff]
  omega

end LineBuffer

end OpenDiag
