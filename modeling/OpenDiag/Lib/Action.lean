import Mathlib.Tactic.TypeStar

/-!
# Programs that change a state and may stop

An action changes a state and either gives a value or stops with an error; what was changed before
it stopped stays changed. A triple says what holds of the state behind an action: of the value where
it gives one, and of the error where it stops. An invariant that every part of an action keeps is
kept by the action, however it ends.
-/

namespace OpenDiag

variable {σ ε α β : Type}

/-- From a state to a value or an error, and the state behind it. -/
def Action (σ ε α : Type) : Type :=
  σ → Except ε α × σ

namespace Action

instance : Monad (Action σ ε) where
  pure value state := (.ok value, state)
  bind act next state :=
    match act state with
    | (.ok value, state) => next value state
    | (.error err, state) => (.error err, state)

/-- The action stops. -/
def fail (err : ε) : Action σ ε α :=
  fun state => (.error err, state)

/-- A value that is read off the state. -/
def look (view : σ → α) : Action σ ε α :=
  fun state => (.ok (view state), state)

/-- The state is changed. -/
def change (update : σ → σ) : Action σ ε Unit :=
  fun state => (.ok (), update state)

/-- The state answers, and is changed. -/
def ask (exchange : σ → α × σ) : Action σ ε α :=
  fun state => (.ok (exchange state).1, (exchange state).2)

/-- The action stops where a condition holds. -/
def refuse (condition : Prop) [Decidable condition] (err : ε) : Action σ ε Unit :=
  if condition then fail err else pure ()

/-- Where the action stops, the state is changed before it does. -/
def onError (act : Action σ ε α) (update : σ → σ) : Action σ ε α :=
  fun state =>
    match act state with
    | (.ok value, state) => (.ok value, state)
    | (.error err, state) => (.error err, update state)

/-- A body for each element of a list, in order, until one asks to leave. -/
def forEach (body : β → Action σ ε Bool) : List β → Action σ ε Bool
  | [] => pure false
  | x :: xs => do
    let leave ← body x
    if leave then pure true else forEach body xs

/-- A body again and again, until it gives a value; out of fuel, the action stops where it is. -/
def again (running : ε) (body : Action σ ε (Option α)) : Nat → Action σ ε α
  | 0 => fail running
  | fuel + 1 => do
    match ← body with
    | some value => pure value
    | none => again running body fuel

/-! ## Triples -/

/-- Behind an action that starts where `P` holds, `Q` holds of its value, or `E` of its error. -/
def Triple (P : σ → Prop) (act : Action σ ε α) (Q : α → σ → Prop) (E : ε → σ → Prop) : Prop :=
  ∀ state, P state →
    match act state with
    | (.ok value, next) => Q value next
    | (.error err, next) => E err next

/-- An invariant is kept, however the action ends. -/
def Keeps (P : σ → Prop) (act : Action σ ε α) : Prop :=
  Triple P act (fun _ => P) fun _ => P

variable {P P' : σ → Prop} {act : Action σ ε α} {Q Q' : α → σ → Prop} {E E' : ε → σ → Prop}

/-- A triple asks for more and promises less, for values and errors alike. -/
theorem Triple.weaken (triple : Triple P act Q E) (pre : ∀ state, P' state → P state)
    (post : ∀ value state, Q value state → Q' value state)
    (stop : ∀ err state, E err state → E' err state) : Triple P' act Q' E' := by
  intro state before
  have behind := triple state (pre state before)
  revert behind
  rcases act state with ⟨value | err, next⟩
  · exact stop _ _
  · exact post _ _

theorem Triple.pre (triple : Triple P act Q E) (pre : ∀ state, P' state → P state) :
    Triple P' act Q E :=
  triple.weaken pre (fun _ _ => id) fun _ _ => id

theorem Triple.post (triple : Triple P act Q E)
    (post : ∀ value state, Q value state → Q' value state) : Triple P act Q' E :=
  triple.weaken (fun _ => id) post fun _ _ => id

theorem Triple.stop (triple : Triple P act Q E)
    (stop : ∀ err state, E err state → E' err state) : Triple P act Q E' :=
  triple.weaken (fun _ => id) (fun _ _ => id) stop

/-- A triple for each state on its own. -/
theorem Triple.each (triple : ∀ start, P start → Triple (fun state => state = start) act Q E) :
    Triple P act Q E :=
  fun state before => triple state before state rfl

/-- A fact that no state is about. -/
theorem Triple.known {fact : Prop} (triple : fact → Triple P act Q E) :
    Triple (fun state => P state ∧ fact) act Q E :=
  fun state before => triple before.2 state before.1

/-- A value is returned where its condition holds already. -/
theorem Triple.pure {value : α} (holds : ∀ state, P state → Q value state) :
    Triple P (Pure.pure value : Action σ ε α) Q E :=
  holds

/-- Actions are chained through the condition between them, and share their error condition. -/
theorem Triple.bind {next : α → Action σ ε β} {R : β → σ → Prop} (first : Triple P act Q E)
    (rest : ∀ value, Triple (Q value) (next value) R E) : Triple P (act >>= next) R E := by
  intro state before
  have behind := first state before
  change match (match act state with
    | (.ok value, state) => next value state
    | (.error err, state) => (.error err, state)) with
    | (.ok value, next) => R value next
    | (.error err, next) => E err next
  revert behind
  rcases act state with ⟨value | err, after⟩
  · exact id
  · exact rest _ after

/-- An action that fails promises what its error asks for, and no value. -/
theorem Triple.fail {err : ε} (holds : ∀ state, P state → E err state) :
    Triple P (Action.fail err : Action σ ε α) Q E :=
  holds

/-- The state is looked at and left alone. -/
theorem Triple.look {view : σ → α} (holds : ∀ state, P state → Q (view state) state) :
    Triple P (Action.look view : Action σ ε α) Q E :=
  holds

/-- A value is read off the state, and is known from then on. -/
theorem Triple.seen {view : σ → α} {next : α → Action σ ε β} {R : β → σ → Prop}
    (rest : ∀ value, Triple (fun state => P state ∧ view state = value) (next value) R E) :
    Triple P (Action.look view >>= next) R E :=
  Triple.bind (.look fun _ before => ⟨before, rfl⟩) rest

/-- The state is changed as the postcondition allows. -/
theorem Triple.change {update : σ → σ} {R : Unit → σ → Prop}
    (holds : ∀ state, P state → R () (update state)) :
    Triple P (Action.change update : Action σ ε Unit) R E :=
  holds

/-- An outside party is asked, and may change its part of the state. -/
theorem Triple.ask {exchange : σ → α × σ}
    (holds : ∀ state, P state → Q (exchange state).1 (exchange state).2) :
    Triple P (Action.ask exchange : Action σ ε α) Q E :=
  holds

/-- Past a refusal, its condition does not hold. -/
theorem Triple.refuse {condition : Prop} [Decidable condition] {err : ε} {R : Unit → σ → Prop}
    (stop : ∀ state, P state → condition → E err state)
    (holds : ∀ state, P state → ¬ condition → R () state) :
    Triple P (Action.refuse condition err : Action σ ε Unit) R E := by
  unfold Action.refuse
  split
  · exact fun state before => stop state before ‹_›
  · exact fun state before => holds state before ‹_›

/-- What is done after an error works on the state that the error left. -/
theorem Triple.onError {update : σ → σ} (triple : Triple P act Q E)
    (stop : ∀ err state, E err state → E' err (update state)) :
    Triple P (Action.onError act update) Q E' := by
  intro state before
  have behind := triple state before
  unfold Action.onError
  revert behind
  rcases act state with ⟨value | err, next⟩
  · exact stop _ _
  · exact id

/-- Both branches are proved under their condition. -/
theorem Triple.ite {condition : Prop} [Decidable condition] {other : Action σ ε α}
    (left : condition → Triple P act Q E) (right : ¬ condition → Triple P other Q E) :
    Triple P (if condition then act else other) Q E := by
  split
  · exact left ‹_›
  · exact right ‹_›

/-- What holds behind a turn: `P` where there is to be another, else `Q`. -/
def Turned (P : σ → Prop) (Q : α → σ → Prop) : Option α → σ → Prop
  | none => P
  | some value => Q value

/-- A loop keeps its precondition until it returns a value; out of fuel it ends with the given
error. -/
theorem Triple.again {running : ε} {body : Action σ ε (Option α)}
    (turn : Triple P body (Turned P Q) E)
    (stop : ∀ state, P state → E running state) (fuel : Nat) :
    Triple P (Action.again running body fuel) Q E := by
  induction fuel with
  | zero => exact .fail stop
  | succ fuel ih =>
      apply Triple.bind turn
      intro answer
      cases answer with
      | none => exact ih
      | some value => exact fun _ => id

/-- What holds of the elements that are left. -/
theorem Triple.forEach {P : List β → σ → Prop} {body : β → Action σ ε Bool}
    {Q : Bool → σ → Prop}
    (each : ∀ x xs, Triple (P (x :: xs)) (body x)
      (fun leave state => if leave then Q true state else P xs state) E)
    (finish : ∀ state, P [] state → Q false state) (xs : List β) :
    Triple (P xs) (Action.forEach body xs) Q E := by
  induction xs with
  | nil => exact .pure finish
  | cons x xs ih =>
      apply Triple.bind (each x xs)
      intro leave
      cases leave with
      | false => exact ih
      | true => exact .pure fun _ => id

/-! ## Invariants -/

theorem Keeps.pure (value : α) : Keeps P (Pure.pure value : Action σ ε α) :=
  fun _ => id

theorem Keeps.fail (err : ε) : Keeps P (Action.fail err : Action σ ε α) :=
  fun _ => id

theorem Keeps.look (view : σ → α) : Keeps P (Action.look view : Action σ ε α) :=
  fun _ => id

theorem Keeps.refuse (condition : Prop) [Decidable condition] (err : ε) :
    Keeps P (Action.refuse condition err : Action σ ε Unit) :=
  Triple.refuse (fun _ before _ => before) fun _ before _ => before

/-- A change keeps what it preserves of every state. -/
theorem Keeps.change {update : σ → σ} (holds : ∀ state, P state → P (update state)) :
    Keeps P (Action.change update : Action σ ε Unit) :=
  holds

theorem Keeps.ask {exchange : σ → α × σ} (holds : ∀ state, P state → P (exchange state).2) :
    Keeps P (Action.ask exchange : Action σ ε α) :=
  holds

/-- What is kept by each part is kept by the whole. -/
theorem Keeps.bind {next : α → Action σ ε β} (first : Keeps P act)
    (rest : ∀ value, Keeps P (next value)) : Keeps P (act >>= next) :=
  Triple.bind first rest

theorem Keeps.ite {condition : Prop} [Decidable condition] {other : Action σ ε α}
    (left : condition → Keeps P act) (right : ¬ condition → Keeps P other) :
    Keeps P (if condition then act else other) :=
  Triple.ite left right

/-- Two ways to go on alike. -/
theorem Keeps.join {condition : Prop} [Decidable condition] {other : Action σ ε α}
    {next : α → Action σ ε β} (left : condition → Keeps P act) (right : ¬ condition → Keeps P other)
    (rest : ∀ value, Keeps P (next value)) :
    Keeps P (if condition then act >>= next else other >>= next) :=
  .ite (fun holds => (left holds).bind rest) fun fails => (right fails).bind rest

/-- What is kept for each element is kept over the list, by induction on the list. -/
theorem Keeps.forEach {body : β → Action σ ε Bool} {xs : List β}
    (each : ∀ x ∈ xs, Keeps P (body x)) : Keeps P (Action.forEach body xs) := by
  induction xs with
  | nil => exact .pure false
  | cons x xs ih =>
      rw [List.forall_mem_cons] at each
      apply each.1.bind
      intro leave
      exact .ite (fun _ => .pure true) fun _ => ih each.2

/-- What is kept by a turn is kept by the loop, whatever the fuel. -/
theorem Keeps.again {running : ε} {body : Action σ ε (Option α)} (turn : Keeps P body)
    (fuel : Nat) : Keeps P (Action.again running body fuel) := by
  induction fuel with
  | zero => exact .fail running
  | succ fuel ih =>
      apply turn.bind
      intro answer
      cases answer with
      | none => exact ih
      | some value => exact .pure value

end Action

end OpenDiag
