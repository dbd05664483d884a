import Mathlib.Data.List.Induction
import OpenDiag.Lib.Run

/-!
# Logs and their observers

A machine answers each input with the events that it causes. An observer sees the events one after
another and says of each, from what it has seen so far, whether it may happen. A log is obedient
when every event in it was allowed at its place; a machine whose states agree with the observer's,
step by step, has obedient logs only.
-/

namespace OpenDiag

variable {Event Watch : Type*}

/-- Every event of the log was allowed when it happened. -/
def Obedient (see : Watch → Event → Watch) (Allows : Watch → Event → Prop) (start : Watch)
    (log : List Event) : Prop :=
  ∀ earlier event later, log = earlier ++ event :: later →
    Allows (earlier.foldl see start) event

section Logs

variable {see : Watch → Event → Watch} {Allows : Watch → Event → Prop} {start : Watch}
  {log : List Event}

theorem Obedient.nil : Obedient see Allows start [] := by
  intro earlier event later split
  cases earlier <;> cases split

theorem Obedient.concat (obedient : Obedient see Allows start log) {event : Event}
    (allowed : Allows (log.foldl see start) event) :
    Obedient see Allows start (log ++ [event]) := by
  intro earlier last later split
  cases later using List.reverseRecOn with
  | nil =>
      obtain ⟨rfl, same⟩ := List.append_inj' split rfl
      cases same
      exact allowed
  | append_singleton later end_ _ =>
      rw [← List.cons_append, ← List.append_assoc] at split
      exact obedient earlier last later (List.append_inj' split rfl).1

theorem Obedient.singleton {event : Event} (allowed : Allows start event) :
    Obedient see Allows start [event] :=
  Obedient.nil.concat allowed

/-- A log that goes on as the observer allows after its first part. -/
theorem Obedient.append {events : List Event} (obedient : Obedient see Allows start log)
    (next : Obedient see Allows (log.foldl see start) events) :
    Obedient see Allows start (log ++ events) := by
  induction events using List.reverseRecOn with
  | nil => simpa using obedient
  | append_singleton events event ih =>
      have before : Obedient see Allows (log.foldl see start) events :=
        fun earlier last later split => next earlier last (later ++ [event]) (by simp [split])
      rw [← List.append_assoc]
      refine (ih before).concat ?_
      rw [List.foldl_append]
      exact next events event [] rfl

theorem obedient_cons {event : Event} {events : List Event} :
    Obedient see Allows start (event :: events) ↔
      Allows start event ∧ Obedient see Allows (see start event) events := by
  constructor
  · intro obedient
    exact ⟨obedient [] event events rfl, fun earlier later rest split =>
      obedient (event :: earlier) later rest (by rw [split, List.cons_append])⟩
  · rintro ⟨allowed, rest⟩
    exact (Obedient.singleton allowed).append rest

/-- A part of a log is obedient from where the observer is at its beginning. -/
theorem Obedient.within {earlier later : List Event}
    (obedient : Obedient see Allows start (earlier ++ log ++ later)) :
    Obedient see Allows (earlier.foldl see start) log := by
  intro before event after split
  have whole := obedient (earlier ++ before) event (after ++ later) (by simp [split])
  rwa [List.foldl_append] at whole

end Logs

section Machines

variable {State Input : Type*} {see : Watch → Event → Watch} {Allows : Watch → Event → Prop}

/-- A step of a machine that keeps the log of its events. -/
def logged (step : State → Input → State × List Event) (s : State × List Event)
    (input : Input) : State × List Event :=
  ((step s.1 input).1, s.2 ++ (step s.1 input).2)

/-- A log that has begun is kept in front. -/
theorem run_logged (step : State → Input → State × List Event) (state : State)
    (log : List Event) (inputs : List Input) :
    run (logged step) (state, log) inputs =
      ((run (logged step) (state, []) inputs).1,
        log ++ (run (logged step) (state, []) inputs).2) := by
  induction inputs generalizing state log with
  | nil => rw [run_nil, run_nil, List.append_nil]
  | cons input inputs ih =>
      rw [run_cons, run_cons, logged, logged, ih, ih _ ([] ++ _), List.nil_append,
        List.append_assoc]

/-- A machine whose every step keeps it in agreement with the observer has obedient logs. -/
theorem obedient_of_agrees {step : State → Input → State × List Event}
    {Agrees : State → Watch → Prop}
    (preserved : ∀ state watch input, Agrees state watch →
      Obedient see Allows watch (step state input).2 ∧
        Agrees (step state input).1 ((step state input).2.foldl see watch))
    {state : State} {start : Watch} (initial : Agrees state start) (inputs : List Input) :
    Obedient see Allows start (run (logged step) (state, []) inputs).2 ∧
      Agrees (run (logged step) (state, []) inputs).1
        ((run (logged step) (state, []) inputs).2.foldl see start) := by
  refine run_invariant
    (fun s : State × List Event => Obedient see Allows start s.2 ∧ Agrees s.1 (s.2.foldl see start)) ?_
    ⟨.nil, initial⟩ inputs
  rintro ⟨state, log⟩ input ⟨obedient, agrees⟩
  obtain ⟨allowed, next⟩ := preserved state _ input agrees
  refine ⟨obedient.append allowed, ?_⟩
  simp only [logged, List.foldl_append]
  exact next

/-- The same for the runs whose every input is allowed in the state it is taken in. -/
theorem Admissible.obedient {step : State → Input → State × List Event}
    {allowed : State × List Event → Input → Prop} {Agrees : State → Watch → Prop}
    {state : State} {start : Watch} {inputs : List Input}
    (admissible : Admissible allowed (logged step) (state, []) inputs)
    (preserved : ∀ state log watch input, Agrees state watch → allowed (state, log) input →
      Obedient see Allows watch (step state input).2 ∧
        Agrees (step state input).1 ((step state input).2.foldl see watch))
    (initial : Agrees state start) :
    Obedient see Allows start (run (logged step) (state, []) inputs).2 ∧
      Agrees (run (logged step) (state, []) inputs).1
        ((run (logged step) (state, []) inputs).2.foldl see start) := by
  have sound : ∀ s : State × List Event, ∀ input,
      Obedient see Allows start s.2 ∧ Agrees s.1 (s.2.foldl see start) → allowed s input →
        Obedient see Allows start (logged step s input).2 ∧
          Agrees (logged step s input).1 ((logged step s input).2.foldl see start) := by
    rintro ⟨state, log⟩ input ⟨obedient, agrees⟩ permitted
    obtain ⟨fine, next⟩ := preserved state log _ input agrees permitted
    refine ⟨obedient.append fine, ?_⟩
    simp only [logged, List.foldl_append]
    exact next
  exact admissible.invariant sound ⟨.nil, initial⟩

/-! ## Waiting -/

/-- What the inputs cost a machine, each counted in the state it is taken in. -/
def spent (step : State → Input → State × List Event) (cost : State → Input → Nat) :
    State → List Input → Nat
  | _, [] => 0
  | state, input :: inputs => cost state input + spent step cost (step state input).1 inputs

/-- The events of a run. -/
def events (step : State → Input → State × List Event) : State → List Input → List Event
  | _, [] => []
  | state, input :: inputs => (step state input).2 ++ events step (step state input).1 inputs

/-- Where every step that does not bring an awaited event pays its cost out of a measure, the event
comes before more than the measure is spent. -/
theorem spent_le {step : State → Input → State × List Event} {cost : State → Input → Nat}
    {Awaited : Event → Prop} {Waiting : State → Prop} (measure : State → Nat)
    (pays : ∀ state input, Waiting state → (∀ event ∈ (step state input).2, ¬ Awaited event) →
      Waiting (step state input).1 ∧
        cost state input + measure (step state input).1 ≤ measure state)
    {state : State} (waiting : Waiting state) (inputs : List Input)
    (missing : ∀ event ∈ events step state inputs, ¬ Awaited event) :
    spent step cost state inputs ≤ measure state := by
  induction inputs generalizing state with
  | nil => exact Nat.zero_le _
  | cons input inputs ih =>
      simp only [events, List.forall_mem_append] at missing
      obtain ⟨still, paid⟩ := pays state input waiting missing.1
      have rest := ih still missing.2
      simp only [spent]
      omega

end Machines

end OpenDiag
