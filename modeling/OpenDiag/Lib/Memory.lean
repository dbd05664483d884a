import Mathlib.Data.List.Basic

/-!
# Fixed-size memory as a list of cells

`slice` reads and `overwrite` copies over a range of cells; neither changes how many cells there
are. A copy that fits its target is described by what every slice reads afterwards: the copied
range reads back the source, the ranges before and after it read what they read before.
`Block` is memory whose size is part of its type.
-/

namespace OpenDiag

variable {α : Type*}

/-- The `count` cells from `start` on, fewer where the memory ends earlier. -/
def slice (cells : List α) (start count : Nat) : List α :=
  (cells.drop start).take count

/-- Copy `source` over the cells from `start` on. There are no cells past the end to write. -/
def overwrite (cells : List α) (start : Nat) (source : List α) : List α :=
  (cells.take start ++ source ++ cells.drop (start + source.length)).take cells.length

@[simp] theorem length_overwrite (cells : List α) (start : Nat) (source : List α) :
    (overwrite cells start source).length = cells.length := by
  simp only [overwrite, List.length_take, List.length_append, List.length_drop]
  omega

/-- A slice that fits has its length. -/
theorem length_slice {cells : List α} {start count : Nat} (fits : start + count ≤ cells.length) :
    (slice cells start count).length = count := by
  simp only [slice, List.length_take, List.length_drop]
  omega

@[simp] theorem slice_zero (cells : List α) (start : Nat) : slice cells start 0 = [] := by
  simp [slice]

/-- A prefix followed by the slice after it is the longer prefix. -/
theorem take_append_slice (cells : List α) (start count : Nat) :
    cells.take start ++ slice cells start count = cells.take (start + count) :=
  (List.take_add).symm

section Copy

variable {cells source : List α} {start : Nat}

/-- A copy that fits leaves the cells before and after its range in place. -/
theorem overwrite_eq (fits : start + source.length ≤ cells.length) :
    overwrite cells start source =
      cells.take start ++ source ++ cells.drop (start + source.length) := by
  refine List.take_of_length_le ?_
  simp only [List.length_append, List.length_take, List.length_drop]
  omega

/-- After a copy that fits, the prefix up to its end is the old prefix and the source. -/
theorem take_overwrite (fits : start + source.length ≤ cells.length) :
    (overwrite cells start source).take (start + source.length) =
      cells.take start ++ source := by
  rw [overwrite_eq fits]
  have length : (cells.take start ++ source).length = start + source.length := by
    simp only [List.length_append, List.length_take]
    omega
  rw [← length, List.take_left]

/-- What was written is read back. -/
theorem slice_overwrite_self (fits : start + source.length ≤ cells.length) :
    slice (overwrite cells start source) start source.length = source := by
  have length : (cells.take start).length = start := by
    rw [List.length_take]
    omega
  have prefixes := take_overwrite fits
  rw [← take_append_slice] at prefixes
  refine (List.append_inj prefixes ?_).2
  rw [List.length_take, length_overwrite, length]
  omega

/-- Cells before what was written stay. -/
theorem take_overwrite_of_le {count : Nat} (fits : start + source.length ≤ cells.length)
    (before : count ≤ start) :
    (overwrite cells start source).take count = cells.take count := by
  rw [overwrite_eq fits, List.append_assoc, List.take_append_of_le_length, List.take_take,
    Nat.min_eq_left before]
  rw [List.length_take]
  omega

/-- So does a slice before it. -/
theorem slice_overwrite_before {first count : Nat} (fits : start + source.length ≤ cells.length)
    (before : first + count ≤ start) :
    slice (overwrite cells start source) first count = slice cells first count := by
  simp only [slice, List.take_drop]
  rw [take_overwrite_of_le fits before]

/-- Copying the next slice of a message behind what has been copied of it so far. -/
theorem overwrite_resume (cells message : List α) (start : Nat) {count : Nat}
    (inside : start + count ≤ message.length) (room : message.length ≤ cells.length) :
    overwrite (message.take start ++ cells.drop start) start (slice message start count) =
      message.take (start + count) ++ cells.drop (start + count) := by
  have prefix_length : (message.take start).length = start := by
    rw [List.length_take]
    omega
  have length : (slice message start count).length = count := length_slice inside
  rw [overwrite_eq, length, List.take_left' prefix_length, take_append_slice,
    List.drop_append, prefix_length, Nat.add_sub_cancel_left, List.drop_drop,
    List.drop_eq_nil_of_le (by omega), List.nil_append]
  simp only [List.length_append, List.length_drop, prefix_length, length]
  omega

end Copy

/-- Memory of exactly `size` cells. -/
structure Block (α : Type*) (size : Nat) where
  cells : List α
  length_cells : cells.length = size
  deriving DecidableEq

namespace Block

variable {size : Nat}

/-- Every cell holds `value`. -/
def fill (size : Nat) (value : α) : Block α size :=
  ⟨List.replicate size value, List.length_replicate⟩

/-- Copy `source` into the block from `start` on. -/
def store (block : Block α size) (start : Nat) (source : List α) : Block α size :=
  ⟨overwrite block.cells start source, by rw [length_overwrite, block.length_cells]⟩

/-- The `count` cells from `start` on. -/
def load (block : Block α size) (start count : Nat) : List α :=
  slice block.cells start count

/-- The cell at `index`. -/
def read [Inhabited α] (block : Block α size) (index : Nat) : α :=
  block.cells.getD index default

theorem length_load {block : Block α size} {start count : Nat} (fits : start + count ≤ size) :
    (block.load start count).length = count :=
  length_slice (by rw [block.length_cells]; exact fits)

/-- What was stored is loaded again. -/
theorem load_store_self {block : Block α size} {start : Nat} {source : List α}
    (fits : start + source.length ≤ size) :
    (block.store start source).load start source.length = source :=
  slice_overwrite_self (by rw [block.length_cells]; exact fits)

/-- A load before the store gives what was there. -/
theorem load_store_before {block : Block α size} {start first count : Nat} {source : List α}
    (fits : start + source.length ≤ size) (before : first + count ≤ start) :
    (block.store start source).load first count = block.load first count :=
  slice_overwrite_before (by rw [block.length_cells]; exact fits) before

/-- One cell is the one-cell slice at its index. -/
theorem read_eq_of_load [Inhabited α] {block : Block α size} {index : Nat} {value : α}
    (loaded : block.load index 1 = [value]) : block.read index = value := by
  unfold load slice at loaded
  unfold read
  cases tail : block.cells.drop index with
  | nil => simp [tail] at loaded
  | cons head rest =>
      rw [tail] at loaded
      have head_eq : head = value := by simpa using loaded
      have cell : block.cells[index]? = some head := by
        have := congrArg List.head? tail
        simpa [List.head?_drop] using this
      simp [List.getD_eq_getElem?_getD, cell, head_eq]

/-- A cell is loaded alone. -/
theorem load_one_of_lt [Inhabited α] {block : Block α size} {index : Nat} (bound : index < size) :
    block.load index 1 = [block.read index] := by
  have inside : index < block.cells.length := by rw [block.length_cells]; exact bound
  unfold load slice read
  rw [List.drop_eq_getElem_cons inside, List.take_succ_cons, List.take_zero,
    List.getD_eq_getElem?_getD, List.getElem?_eq_getElem inside, Option.getD_some]

/-- A cell that was stored is read again. -/
theorem read_store_self [Inhabited α] {block : Block α size} {start : Nat} {value : α}
    (fits : start < size) : (block.store start [value]).read start = value := by
  have loaded : (block.store start [value]).load start [value].length = [value] :=
    load_store_self fits
  exact read_eq_of_load loaded

/-- Inside what was stored, a cell is the source's cell. -/
theorem read_store_inside [Inhabited α] {block : Block α size} {start index : Nat}
    {source : List α} (fits : start + source.length ≤ size) (inside : index < source.length) :
    (block.store start source).read (start + index) = source[index] := by
  have loaded : ((block.store start source).load start source.length)[index]? =
      source[index]? := by
    rw [load_store_self fits]
  rw [load, slice, List.getElem?_take_of_lt inside, List.getElem?_drop,
    List.getElem?_eq_getElem inside] at loaded
  rw [read, List.getD_eq_getElem?_getD, loaded, Option.getD_some]

/-- A cell before the store is as it was. -/
theorem read_store_of_lt [Inhabited α] {block : Block α size} {start index : Nat}
    {source : List α} (fits : start + source.length ≤ size) (before : index < start) :
    (block.store start source).read index = block.read index := by
  apply read_eq_of_load
  rw [load_store_before fits before]
  exact load_one_of_lt (by omega)

end Block

end OpenDiag
