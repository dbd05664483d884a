import Mathlib.Data.List.Basic
import Mathlib.Logic.Function.Iterate

/-!
# Shift registers and the errors they detect

A cyclic redundancy check runs the bits of a message through a register that shifts, and feeds back
a polynomial when a bit falls out. The register is linear, so two messages of one length leave it
in the same state only if their difference leaves a clear register clear. It does not if all of
the difference lies within the width of the register, nor if it is one bit, nor if it is two bits
that are closer than the period of the register.
-/

namespace OpenDiag

/-! ## Registers -/

/-- A linear register that loses nothing. The bit that goes in next is added at place 0, and the
ones behind it can be added before at the places that shift down to it. -/
structure ShiftRegister (w : Nat) where
  step : BitVec w → BitVec w
  place : Nat → Nat
  step_xor (a b : BitVec w) : step (a ^^^ b) = step a ^^^ step b
  eq_zero {a : BitVec w} : step a = 0#w → a = 0#w
  place_lt {i : Nat} : i < w → place i < w
  place_inj {i j : Nat} : i < w → j < w → place i = place j → i = j
  step_place {i : Nat} : i + 1 < w →
    step (BitVec.twoPow w (place (i + 1))) = BitVec.twoPow w (place i)

namespace ShiftRegister

variable {w : Nat} (r : ShiftRegister w)

/-- An empty register stays empty. -/
theorem step_zero : r.step 0#w = 0#w := by
  have same := r.step_xor 0#w 0#w
  rwa [BitVec.xor_self, BitVec.xor_self] at same

/-- Steps work on differences: the register is linear. -/
theorem iterate_xor (n : Nat) (a b : BitVec w) :
    r.step^[n] (a ^^^ b) = r.step^[n] a ^^^ r.step^[n] b := by
  induction n generalizing a b with
  | zero => rfl
  | succ n ih => rw [Function.iterate_succ_apply, r.step_xor, ih]; rfl

theorem iterate_zero (n : Nat) : r.step^[n] 0#w = 0#w := by
  induction n with
  | zero => rfl
  | succ n ih => rw [Function.iterate_succ_apply, r.step_zero, ih]

/-- Only an empty register is empty after some steps: a step can be undone. -/
theorem iterate_eq_zero {n : Nat} {a : BitVec w} (clear : r.step^[n] a = 0#w) : a = 0#w := by
  induction n generalizing a with
  | zero => exact clear
  | succ n ih => exact r.eq_zero (ih clear)

theorem xor_eq_zero {a b : BitVec w} : a ^^^ b = 0#w ↔ a = b := by
  refine ⟨fun clear => ?_, fun same => by rw [same, BitVec.xor_self]⟩
  rw [← BitVec.xor_zero (x := a), ← BitVec.xor_self (x := b), ← BitVec.xor_assoc, clear,
    BitVec.zero_xor]

/-- So different registers stay different. -/
theorem iterate_inj {n : Nat} {a b : BitVec w} (same : r.step^[n] a = r.step^[n] b) : a = b := by
  rw [← xor_eq_zero] at same ⊢
  rw [← r.iterate_xor] at same
  exact r.iterate_eq_zero same

/-! ## Bits that go through -/

/-- A bit at a place of the register. -/
def bitAt (i : Nat) (one : Bool) : BitVec w :=
  if one then BitVec.twoPow w (r.place i) else 0#w

/-- One bit goes in. -/
def shift (c : BitVec w) (one : Bool) : BitVec w :=
  r.step (c ^^^ r.bitAt 0 one)

/-- The register behind some bits. -/
def shifts (c : BitVec w) (bits : List Bool) : BitVec w :=
  bits.foldl r.shift c

/-- Bits are shifted in one after another. -/
theorem shifts_append (c : BitVec w) (first rest : List Bool) :
    r.shifts c (first ++ rest) = r.shifts (r.shifts c first) rest :=
  List.foldl_append

/-- A bit is placed linearly. -/
theorem bitAt_xor (i : Nat) (one one' : Bool) :
    r.bitAt i (one ^^ one') = r.bitAt i one ^^^ r.bitAt i one' := by
  cases one <;> cases one' <;> simp [bitAt]

/-- A shift works on differences. -/
theorem shift_xor (c c' : BitVec w) (one one' : Bool) :
    r.shift (c ^^^ c') (one ^^ one') = r.shift c one ^^^ r.shift c' one' := by
  rw [shift, shift, shift, ← r.step_xor, r.bitAt_xor]
  congr 1
  rw [BitVec.xor_assoc, BitVec.xor_assoc, ← BitVec.xor_assoc c', BitVec.xor_comm c',
    BitVec.xor_assoc (r.bitAt 0 one)]

/-- The difference of two messages goes through by itself. -/
theorem shifts_xor (c c' : BitVec w) {bits bits' : List Bool}
    (same : bits.length = bits'.length) :
    r.shifts (c ^^^ c') (List.zipWith xor bits bits') = r.shifts c bits ^^^ r.shifts c' bits' := by
  induction bits generalizing c c' bits' with
  | nil =>
      cases List.length_eq_zero_iff.1 same.symm
      rfl
  | cons one bits ih =>
      cases bits' with
      | nil => cases same
      | cons one' bits' =>
          rw [List.zipWith_cons_cons]
          exact (congrArg (r.shifts · _) (r.shift_xor c c' one one')).trans
            (ih _ _ (Nat.succ.inj same))

/-- Bits that are all zero. -/
theorem shifts_of_zeros (c : BitVec w) {bits : List Bool} (zeros : true ∉ bits) :
    r.shifts c bits = r.step^[bits.length] c := by
  induction bits generalizing c with
  | nil => rfl
  | cons one bits ih =>
      rw [List.mem_cons, not_or] at zeros
      cases one with
      | true => exact absurd rfl zeros.1
      | false =>
          have clear : r.shift c false = r.step c := congrArg r.step BitVec.xor_zero
          exact (congrArg (r.shifts · bits) clear).trans (ih _ zeros.2)

/-! ## Words -/

/-- The bits at their places, the first one at a given one. -/
def word (i : Nat) : List Bool → BitVec w
  | [] => 0#w
  | one :: bits => r.bitAt i one ^^^ word (i + 1) bits

/-- A step moves a word that has room. -/
theorem step_word {i : Nat} {bits : List Bool} (room : i + 1 + bits.length ≤ w) :
    r.step (r.word (i + 1) bits) = r.word i bits := by
  induction bits generalizing i with
  | nil => exact r.step_zero
  | cons one bits ih =>
      rw [List.length_cons] at room
      have bit : r.step (r.bitAt (i + 1) one) = r.bitAt i one := by
        cases one with
        | false => exact r.step_zero
        | true => exact r.step_place (by omega)
      rw [word, r.step_xor, bit, ih (by omega), word]

/-- As many bits as the register has places can be added all at once. -/
theorem shifts_eq_word (c : BitVec w) {bits : List Bool} (room : bits.length ≤ w) :
    r.shifts c bits = r.step^[bits.length] (c ^^^ r.word 0 bits) := by
  induction bits generalizing c with
  | nil => exact BitVec.xor_zero.symm
  | cons one bits ih =>
      rw [List.length_cons] at room
      have first : r.shifts c (one :: bits) = r.shifts (r.shift c one) bits := rfl
      rw [first, ih _ (by omega), List.length_cons, Function.iterate_succ_apply, word,
        ← BitVec.xor_assoc, r.step_xor, r.step_word (by omega), shift]

/-- A placed bit is at its place alone. -/
theorem getLsbD_bitAt {i j : Nat} (inside : i < w) (inside' : j < w) (one : Bool) :
    (r.bitAt i one).getLsbD (r.place j) = (one && decide (i = j)) := by
  cases one with
  | false => simp [bitAt]
  | true =>
      have apart : r.place i = r.place j ↔ i = j :=
        ⟨r.place_inj inside inside', fun same => by rw [same]⟩
      simp [bitAt, r.place_lt inside, apart]

/-- A word shows its bits from its place on. -/
theorem getLsbD_word {i j : Nat} {bits : List Bool} (room : i + bits.length ≤ w)
    (inside : j < w) :
    (r.word i bits).getLsbD (r.place j) = (decide (i ≤ j) && bits.getD (j - i) false) := by
  induction bits generalizing i with
  | nil => simp [word]
  | cons one bits ih =>
      rw [List.length_cons] at room
      rw [word, BitVec.getLsbD_xor, r.getLsbD_bitAt (by omega) inside, ih (by omega)]
      rcases Nat.lt_trichotomy i j with below | rfl | above
      · rw [decide_eq_false (by omega : ¬ i = j), decide_eq_true (by omega : i + 1 ≤ j),
          decide_eq_true (by omega : i ≤ j), show j - i = j - (i + 1) + 1 by omega,
          List.getD_cons_succ]
        simp
      · simp [show ¬ i + 1 ≤ i by omega]
      · simp [show ¬ i = j by omega, show ¬ i + 1 ≤ j by omega, show ¬ i ≤ j by omega]

/-- A word is clear only without bits in it. -/
theorem zeros_of_word_eq_zero {i : Nat} {bits : List Bool} (room : i + bits.length ≤ w)
    (clear : r.word i bits = 0#w) : true ∉ bits := by
  induction bits generalizing i with
  | nil => exact List.not_mem_nil
  | cons one bits ih =>
      rw [List.length_cons] at room
      have bit : (r.word i (one :: bits)).getLsbD (r.place i) = _ :=
        r.getLsbD_word (by simpa using room) (by omega : i < w)
      rw [clear, BitVec.getLsbD_zero, Nat.sub_self, List.getD_cons_zero,
        decide_eq_true (Nat.le_refl i), Bool.true_and] at bit
      subst bit
      rw [word, show r.bitAt i false = 0#w from rfl, BitVec.zero_xor] at clear
      simpa using ih (by omega) clear

/-! ## Errors that are detected -/

/-- An error within the width of the register. -/
theorem burst_detected {before burst after : List Bool} (quiet : true ∉ before)
    (short : burst.length ≤ w) (error : true ∈ burst) (quiet' : true ∉ after) :
    r.shifts 0#w (before ++ burst ++ after) ≠ 0#w := by
  intro undetected
  rw [shifts_append, r.shifts_of_zeros _ quiet'] at undetected
  have clear := r.iterate_eq_zero undetected
  rw [shifts_append, r.shifts_of_zeros _ quiet, r.iterate_zero, r.shifts_eq_word _ short,
    BitVec.zero_xor] at clear
  exact r.zeros_of_word_eq_zero (by omega) (r.iterate_eq_zero clear) error

/-- An error of two bits that are closer than the period of the register. -/
theorem pair_detected {before between after : List Bool} (quiet : true ∉ before)
    (quiet' : true ∉ between) (quiet'' : true ∉ after)
    (aperiodic : r.step^[between.length + 1] (r.bitAt 0 true) ≠ r.bitAt 0 true) :
    r.shifts 0#w (before ++ true :: (between ++ true :: after)) ≠ 0#w := by
  intro undetected
  have parts : before ++ true :: (between ++ true :: after) =
      before ++ ([true] ++ (between ++ ([true] ++ after))) := rfl
  rw [parts, shifts_append, r.shifts_of_zeros _ quiet, r.iterate_zero, shifts_append,
    shifts_append, shifts_append, r.shifts_of_zeros _ quiet''] at undetected
  have clear := r.iterate_eq_zero undetected
  rw [r.shifts_of_zeros _ quiet'] at clear
  have first : r.shifts 0#w [true] = r.step (r.bitAt 0 true) := congrArg r.step BitVec.zero_xor
  have second : ∀ c, r.shifts c [true] = r.step (c ^^^ r.bitAt 0 true) := fun _ => rfl
  rw [first, second, ← Function.iterate_succ_apply] at clear
  exact aperiodic (xor_eq_zero.1 (r.eq_zero clear))

/-! ## Where the errors are -/

/-- All that is set lies within a window. -/
def Confined (width : Nat) (bits : List Bool) : Prop :=
  ∃ start, ∀ k, bits[k]? = some true → start ≤ k ∧ k < start + width

/-- Errors within the width of the register leave a trace in it. -/
theorem confined_detected {bits : List Bool} (error : true ∈ bits) (confined : Confined w bits) :
    r.shifts 0#w bits ≠ 0#w := by
  obtain ⟨start, window⟩ := confined
  have parts : bits = bits.take start ++ (bits.drop start).take w ++ bits.drop (start + w) := by
    rw [List.append_assoc, ← List.drop_drop, List.take_append_drop, List.take_append_drop]
  have quiet : true ∉ bits.take start := fun member => by
    obtain ⟨k, inside, value⟩ := List.mem_iff_getElem.1 member
    rw [List.length_take] at inside
    rw [List.getElem_take] at value
    have := (window k (List.getElem?_eq_some_iff.2 ⟨by omega, value⟩)).1
    omega
  have quiet' : true ∉ bits.drop (start + w) := fun member => by
    obtain ⟨k, inside, value⟩ := List.mem_iff_getElem.1 member
    rw [List.length_drop] at inside
    rw [List.getElem_drop] at value
    have := (window (start + w + k) (List.getElem?_eq_some_iff.2 ⟨by omega, value⟩)).2
    omega
  have error' : true ∈ (bits.drop start).take w := by
    rw [parts, List.mem_append, List.mem_append] at error
    rcases error with (before | inside) | after
    · exact absurd before quiet
    · exact inside
    · exact absurd after quiet'
  rw [parts]
  exact r.burst_detected quiet (List.length_take_le _ _) error' quiet'

/-- One or two wrong bits, in less than a period. -/
theorem few_detected (room : 0 < w) {bits : List Bool}
    (few : bits.count true = 1 ∨ bits.count true = 2)
    (aperiodic : ∀ k, 0 < k → k < bits.length →
      r.step^[k] (r.bitAt 0 true) ≠ r.bitAt 0 true) : r.shifts 0#w bits ≠ 0#w := by
  have error : true ∈ bits := List.count_pos_iff.1 (by omega)
  obtain ⟨before, rest, rfl, quiet⟩ := List.eq_append_cons_of_mem error
  rw [List.count_append, List.count_cons_self, List.count_eq_zero_of_not_mem quiet] at few
  by_cases error' : true ∈ rest
  · obtain ⟨between, after, rfl, quiet'⟩ := List.eq_append_cons_of_mem error'
    rw [List.count_append, List.count_cons_self, List.count_eq_zero_of_not_mem quiet'] at few
    have quiet'' : true ∉ after := List.count_eq_zero.1 (by omega)
    refine r.pair_detected quiet quiet' quiet'' (aperiodic _ (Nat.succ_pos _) ?_)
    simp only [List.length_append, List.length_cons]
    omega
  · have parts : before ++ true :: rest = before ++ [true] ++ rest := by simp
    rw [parts]
    exact r.burst_detected quiet room List.mem_cons_self error'

end ShiftRegister

/-! ## Registers of a polynomial -/

/-- The feedback of a polynomial. -/
def feedback {w : Nat} (poly : BitVec w) (out : Bool) : BitVec w :=
  if out then poly else 0#w

/-- The feedback is linear in what falls out. -/
theorem feedback_xor {w : Nat} (poly : BitVec w) (out out' : Bool) :
    feedback poly (out ^^ out') = feedback poly out ^^^ feedback poly out' := by
  cases out <;> cases out' <;> simp [feedback]

theorem xor_xor_xor_comm {w : Nat} (a b c d : BitVec w) :
    (a ^^^ b) ^^^ (c ^^^ d) = (a ^^^ c) ^^^ (b ^^^ d) := by
  rw [BitVec.xor_assoc, BitVec.xor_assoc, ← BitVec.xor_assoc b, BitVec.xor_comm b,
    BitVec.xor_assoc c]

theorem xor_not {w : Nat} (a : BitVec w) : a ^^^ ~~~a = BitVec.allOnes w := by
  refine BitVec.eq_of_getLsbD_eq fun i inside => ?_
  cases bit : a.getLsbD i <;> simp [inside]

/-- The register that takes the most significant bit first: bits fall out at the top. -/
def ShiftRegister.high {w : Nat} (room : 0 < w) (poly : BitVec w)
    (odd : poly.getLsbD 0 = true) : ShiftRegister w where
  step c := c <<< 1 ^^^ feedback poly (c.getLsbD (w - 1))
  place i := w - 1 - i
  step_xor a b := by
    rw [BitVec.shiftLeft_xor_distrib, BitVec.getLsbD_xor, feedback_xor, xor_xor_xor_comm]
  eq_zero {a} clear := by
    have bottom := congrArg (BitVec.getLsbD · 0) clear
    cases top : a.getLsbD (w - 1) with
    | true => simp [top, feedback, odd] at bottom
    | false =>
        rw [top, show feedback poly false = 0#w from rfl, BitVec.xor_zero] at clear
        refine BitVec.eq_of_getLsbD_eq fun i inside => ?_
        by_cases last : i = w - 1
        · rw [last, top, BitVec.getLsbD_zero]
        · have bit := congrArg (BitVec.getLsbD · (i + 1)) clear
          rw [BitVec.getLsbD_shiftLeft, decide_eq_true (by omega), decide_eq_false (by omega),
            Nat.add_sub_cancel, BitVec.getLsbD_zero] at bit
          rw [BitVec.getLsbD_zero, ← bit]
          rfl
  place_lt inside := by omega
  place_inj inside inside' same := by omega
  step_place {i} inside := by
    have top : (BitVec.twoPow w (w - 1 - (i + 1))).getLsbD (w - 1) = false := by
      simp
      omega
    rw [top, show feedback poly false = 0#w from rfl, BitVec.xor_zero]
    refine BitVec.eq_of_getLsbD_eq fun j inside' => ?_
    rw [BitVec.getLsbD_shiftLeft, BitVec.getLsbD_twoPow, BitVec.getLsbD_twoPow, Bool.eq_iff_iff]
    simp only [Bool.and_eq_true, Bool.not_eq_true', decide_eq_true_eq, decide_eq_false_iff_not]
    omega

/-- The register that takes the least significant bit first: bits fall out at the bottom. -/
def ShiftRegister.low {w : Nat} (room : 0 < w) (poly : BitVec w)
    (top : poly.getLsbD (w - 1) = true) : ShiftRegister w where
  step c := c >>> 1 ^^^ feedback poly (c.getLsbD 0)
  place i := i
  step_xor a b := by
    rw [BitVec.ushiftRight_xor_distrib, BitVec.getLsbD_xor, feedback_xor, xor_xor_xor_comm]
  eq_zero {a} clear := by
    have highest := congrArg (BitVec.getLsbD · (w - 1)) clear
    cases bottom : a.getLsbD 0 with
    | true =>
        simp [bottom, feedback, top] at highest
        have := BitVec.lt_of_getLsbD highest
        omega
    | false =>
        rw [bottom, show feedback poly false = 0#w from rfl, BitVec.xor_zero] at clear
        refine BitVec.eq_of_getLsbD_eq fun i inside => ?_
        cases i with
        | zero => rw [bottom, BitVec.getLsbD_zero]
        | succ i =>
            have bit := congrArg (BitVec.getLsbD · i) clear
            rwa [BitVec.getLsbD_ushiftRight, Nat.add_comm, BitVec.getLsbD_zero,
              ← @BitVec.getLsbD_zero w (i + 1)] at bit
  place_lt inside := inside
  place_inj _ _ same := same
  step_place {i} inside := by
    have bottom : (BitVec.twoPow w (i + 1)).getLsbD 0 = false := by simp
    rw [bottom, show feedback poly false = 0#w from rfl, BitVec.xor_zero]
    refine BitVec.eq_of_getLsbD_eq fun j inside' => ?_
    rw [BitVec.getLsbD_ushiftRight, BitVec.getLsbD_twoPow, BitVec.getLsbD_twoPow, Bool.eq_iff_iff]
    simp only [Bool.and_eq_true, decide_eq_true_eq]
    omega

end OpenDiag
