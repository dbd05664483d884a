import Mathlib.Data.List.Basic

/-!
# Runs of a deterministic machine

A machine is a step function from a state and an input to the next state. `run` folds it over a
list of inputs; what one step preserves, every run preserves. Where only some inputs are allowed in
a state, an admissible run is one whose every input is allowed when it is taken; it is no longer
than a measure that every allowed step decreases.
-/

namespace OpenDiag

variable {State Input : Type*}

/-- The state after all the inputs, in order. -/
def run (step : State → Input → State) (start : State) (inputs : List Input) : State :=
  inputs.foldl step start

variable {step : State → Input → State} {start : State}

@[simp] theorem run_nil : run step start [] = start := rfl

@[simp] theorem run_cons (input : Input) (inputs : List Input) :
    run step start (input :: inputs) = run step (step start input) inputs := rfl

theorem run_append (first second : List Input) :
    run step start (first ++ second) = run step (run step start first) second :=
  List.foldl_append

/-- What holds at the start and is preserved by every step holds after every run. -/
theorem run_invariant (Invariant : State → Prop)
    (preserved : ∀ state input, Invariant state → Invariant (step state input))
    (initial : Invariant start) (inputs : List Input) : Invariant (run step start inputs) := by
  induction inputs generalizing start with
  | nil => exact initial
  | cons input inputs ih => exact ih (preserved _ _ initial)

/-! ## Machines with outputs -/

section Outputs

variable {Output Abstract : Type*} {step : State → Input → State × Output}

/-- The state after all the inputs of a machine that answers each of them. -/
def final (step : State → Input → State × Output) : State → List Input → State
  | state, [] => state
  | state, input :: inputs => final step (step state input).1 inputs

/-- The answers to all the inputs, in order. -/
def outputs (step : State → Input → State × Output) : State → List Input → List Output
  | _, [] => []
  | state, input :: inputs => (step state input).2 :: outputs step (step state input).1 inputs

/-- A machine whose every step matches one of an abstract machine answers every run as that machine
does, up to `view`, and ends in a state that represents its state. -/
theorem outputs_of_simulation {AbstractInput AbstractOutput : Type*}
    {abstractStep : Abstract → AbstractInput → Abstract × AbstractOutput}
    {Represents : State → Abstract → Prop} {input : Input → AbstractInput}
    {view : AbstractOutput → Output}
    (simulates : ∀ state abstract given, Represents state abstract →
      Represents (step state given).1 (abstractStep abstract (input given)).1 ∧
        (step state given).2 = view (abstractStep abstract (input given)).2)
    {state : State} {abstract : Abstract} (represents : Represents state abstract)
    (inputs : List Input) :
    Represents (final step state inputs) (final abstractStep abstract (inputs.map input)) ∧
      outputs step state inputs = (outputs abstractStep abstract (inputs.map input)).map view := by
  induction inputs generalizing state abstract with
  | nil => exact ⟨represents, rfl⟩
  | cons given inputs ih =>
      obtain ⟨next, answer⟩ := simulates state abstract given represents
      obtain ⟨last, answers⟩ := ih next
      exact ⟨last, by rw [outputs, answer, answers]; rfl⟩

/-- Two machines that match step by step have the same answers. -/
theorem outputs_eq_of_simulation {abstractStep : Abstract → Input → Abstract × Output}
    {Represents : State → Abstract → Prop}
    (simulates : ∀ state abstract given, Represents state abstract →
      Represents (step state given).1 (abstractStep abstract given).1 ∧
        (step state given).2 = (abstractStep abstract given).2)
    {state : State} {abstract : Abstract} (represents : Represents state abstract)
    (inputs : List Input) :
    Represents (final step state inputs) (final abstractStep abstract inputs) ∧
      outputs step state inputs = outputs abstractStep abstract inputs := by
  induction inputs generalizing state abstract with
  | nil => exact ⟨represents, rfl⟩
  | cons given inputs ih =>
      obtain ⟨next, answer⟩ := simulates state abstract given represents
      obtain ⟨last, answers⟩ := ih next
      exact ⟨last, by rw [outputs, answer, answers]; rfl⟩

end Outputs

/-! ## Admissible runs -/

section Admissible

variable {allowed : State → Input → Prop}

/-- Every input is allowed in the state it is taken in. -/
def Admissible (allowed : State → Input → Prop) (step : State → Input → State) :
    State → List Input → Prop
  | _, [] => True
  | state, input :: inputs =>
    allowed state input ∧ Admissible allowed step (step state input) inputs

instance [∀ state input, Decidable (allowed state input)] (start : State) (inputs : List Input) :
    Decidable (Admissible allowed step start inputs) := by
  induction inputs generalizing start with
  | nil => exact isTrue True.intro
  | cons input inputs ih =>
      have := ih (step start input)
      exact inferInstanceAs (Decidable (_ ∧ _))

theorem Admissible.append {first second : List Input}
    (admissible : Admissible allowed step start (first ++ second)) :
    Admissible allowed step start first ∧
      Admissible allowed step (run step start first) second := by
  induction first generalizing start with
  | nil => exact ⟨True.intro, admissible⟩
  | cons input first ih =>
      obtain ⟨head, tail⟩ := ih admissible.2
      exact ⟨⟨admissible.1, head⟩, tail⟩

/-- What holds at the start and is preserved by every allowed step holds after every admissible
run. -/
theorem Admissible.invariant {Invariant : State → Prop} {inputs : List Input}
    (admissible : Admissible allowed step start inputs)
    (preserved : ∀ state input, Invariant state → allowed state input →
      Invariant (step state input))
    (initial : Invariant start) : Invariant (run step start inputs) := by
  induction inputs generalizing start with
  | nil => exact initial
  | cons input inputs ih => exact ih admissible.2 (preserved _ _ initial admissible.1)

/-- Where an invariant makes every state good, is preserved by the allowed steps, and lets no other
step reach a good state, the runs that stay good are the admissible ones. All of it may rest on an
assumption that every step of the run meets. -/
theorem forall_good_iff_admissible_of_assumed {assumed : State → Input → Prop}
    (Invariant : State → Prop) {Good : State → Prop}
    (preserved : ∀ state input, Invariant state → assumed state input → allowed state input →
      Invariant (step state input))
    (good : ∀ state, Invariant state → Good state)
    (needed : ∀ state input, Invariant state → assumed state input → Good (step state input) →
      allowed state input)
    (initial : Invariant start) {inputs : List Input}
    (assumption : Admissible assumed step start inputs) :
    (∀ first, first <+: inputs → Good (run step start first)) ↔
      Admissible allowed step start inputs := by
  induction inputs generalizing start with
  | nil =>
      refine ⟨fun _ => True.intro, fun _ first begun => ?_⟩
      rw [List.prefix_nil.mp begun]
      exact good _ initial
  | cons input inputs ih =>
      obtain ⟨head, tail⟩ := assumption
      constructor
      · intro always
        have permitted := needed _ _ initial head (always [input] ⟨inputs, rfl⟩)
        refine ⟨permitted, (ih (preserved _ _ initial head permitted) tail).mp
          fun first begun => ?_⟩
        exact always (input :: first) ((List.cons_prefix_cons).mpr ⟨rfl, begun⟩)
      · rintro ⟨permitted, rest⟩ first begun
        rcases List.prefix_cons_iff.mp begun with rfl | ⟨later, rfl, shorter⟩
        · exact good _ initial
        · exact (ih (preserved _ _ initial head permitted) tail).mpr rest later shorter

theorem Admissible.of_forall (always : ∀ state input, allowed state input) (start : State)
    (inputs : List Input) : Admissible allowed step start inputs := by
  induction inputs generalizing start with
  | nil => exact True.intro
  | cons input inputs ih => exact ⟨always start input, ih (step start input)⟩

theorem forall_good_iff_admissible (Invariant : State → Prop) {Good : State → Prop}
    (preserved : ∀ state input, Invariant state → allowed state input →
      Invariant (step state input))
    (good : ∀ state, Invariant state → Good state)
    (needed : ∀ state input, Invariant state → Good (step state input) → allowed state input)
    (initial : Invariant start) (inputs : List Input) :
    (∀ first, first <+: inputs → Good (run step start first)) ↔
      Admissible allowed step start inputs := by
  have unconditional : Admissible (fun _ _ => True) step start inputs :=
    .of_forall (fun _ _ => True.intro) start inputs
  exact forall_good_iff_admissible_of_assumed Invariant
    (fun state input holds _ => preserved state input holds) good
    (fun state input holds _ => needed state input holds) initial unconditional

/-- A run is no longer than a measure that every allowed step decreases. -/
theorem Admissible.length_le {Invariant : State → Prop} {inputs : List Input}
    (measure : State → Nat) (admissible : Admissible allowed step start inputs)
    (preserved : ∀ state input, Invariant state → allowed state input →
      Invariant (step state input))
    (decreases : ∀ state input, Invariant state → allowed state input →
      measure (step state input) < measure state)
    (initial : Invariant start) : inputs.length ≤ measure start := by
  induction inputs generalizing start with
  | nil => exact Nat.zero_le _
  | cons input inputs ih =>
      have rest := ih admissible.2 (preserved _ _ initial admissible.1)
      have less := decreases _ _ initial admissible.1
      simp only [List.length_cons]
      omega

/-- Where every counted input of an admissible run brings a goal closer, and no other input takes it
away, a run with enough counted inputs reaches it. -/
theorem Admissible.reaches {counted : Input → Bool} {inputs : List Input}
    (admissible : Admissible allowed step start inputs) (Waiting Goal : State → Prop)
    (measure : State → Nat)
    (positive : ∀ state, Waiting state → 0 < measure state)
    (advances : ∀ state input, Waiting state → allowed state input → Goal (step state input) ∨
      Waiting (step state input) ∧
        measure (step state input) + (counted input).toNat ≤ measure state)
    (waiting : Waiting start) (enough : measure start ≤ inputs.countP counted) :
    ∃ first, first <+: inputs ∧ Goal (run step start first) := by
  induction inputs generalizing start with
  | nil => exact absurd enough (Nat.not_le_of_lt (positive _ waiting))
  | cons input inputs ih =>
      rcases advances _ _ waiting admissible.1 with reached | ⟨still, closer⟩
      · exact ⟨[input], ⟨inputs, rfl⟩, reached⟩
      · have rest : measure (step start input) ≤ inputs.countP counted := by
          have counts : (if counted input = true then 1 else 0) = (counted input).toNat := by
            cases counted input <;> rfl
          rw [List.countP_cons, counts] at enough
          omega
        obtain ⟨first, begun, reached⟩ := ih admissible.2 still rest
        exact ⟨input :: first, List.cons_prefix_cons.mpr ⟨rfl, begun⟩, reached⟩

end Admissible

end OpenDiag
