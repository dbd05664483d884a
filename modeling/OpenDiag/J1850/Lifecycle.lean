import Mathlib.Algebra.GroupWithZero.Nat
import Mathlib.Data.List.Basic
import OpenDiag.Lib.Run

/-!
# The callback guard

`j1850_lifecycle.c` keeps the interrupt callbacks of a driver out while the driver is taken down. A
callback counts itself before it looks at the gate, and the task that stops the callbacks closes the
gate before it looks at the count. A step is one atomic operation of a callback or of the task, so
any number of callbacks may be between any two of theirs.
-/

namespace OpenDiag.J1850

/-- `j1850_callback_guard_t`. -/
structure CallbackGuard where
  stopping : Bool := false
  active : UInt32 := 0
  deriving DecidableEq, Repr

/-- Where a callback is, once it has counted itself: all but the last have an operation to go. -/
inductive Callback where
  /-- `j1850_callback_enter`, before the load of the gate. -/
  | entered
  /-- The gate was closed: `j1850_callback_enter`, before its decrement. -/
  | refused
  /-- `j1850_callback_enter` has returned true, and the body runs. -/
  | running
  /-- `j1850_callback_exit`, before its decrement. -/
  | leaving
  | done
  deriving DecidableEq, Repr

/-- The callback is between its increment and its decrement. -/
def Callback.counted : Callback → Bool
  | .done => false
  | _ => true

/-- Where the task is: the constructors of a call name its next operation. -/
inductive StopTask where
  | idle
  /-- `j1850_callbacks_stop`. -/
  | closeGate
  | readStart
  | loadActive (start : UInt32)
  | readNow (start : UInt32)
  | delay (start : UInt32)
  /-- `j1850_callbacks_start`. -/
  | openGate
  deriving DecidableEq, Repr

/-- `j1850_callbacks_stop`, between its store and its return. -/
def StopTask.waiting : StopTask → Bool
  | .readStart | .loadActive _ | .readNow _ | .delay _ => true
  | _ => false

/-- What `j1850_callbacks_stop` returns. -/
inductive StopResult where
  | ok
  | errTimeout
  deriving DecidableEq, Repr

/-- `pdMS_TO_TICKS(100)`, at 1000 ticks a second. -/
def stopTimeout : UInt32 := 100

/-- The guard, with all callbacks that have been called, and the task. That a stop has returned
`ESP_OK`, and that no start has opened the gate since, is a history. -/
structure Lifecycle where
  guard : CallbackGuard := {}
  callbacks : List Callback := []
  task : StopTask := .idle
  returned : Option StopResult := none
  stopped : Bool := false
  deriving DecidableEq, Repr

inductive LifecycleStep where
  /-- A callback is called, and counts itself. -/
  | call
  /-- The next operation of a callback; that of one that runs is the end of its body. -/
  | callback (i : Nat)
  /-- The task calls `j1850_callbacks_stop`. -/
  | stop
  /-- The task calls `j1850_callbacks_start`. -/
  | start
  /-- The next operation of the task, at a tick count. -/
  | task (ticks : UInt32)
  deriving DecidableEq, Repr

namespace Lifecycle

/-- `__atomic_add_fetch(&guard->active, 1)`. -/
def enter (s : Lifecycle) : Lifecycle :=
  { s with
    guard := { s.guard with active := s.guard.active + 1 }
    callbacks := s.callbacks ++ [.entered] }

/-- `__atomic_sub_fetch(&guard->active, 1)`. -/
def leave (s : Lifecycle) (i : Nat) : Lifecycle :=
  { s with
    guard := { s.guard with active := s.guard.active - 1 }
    callbacks := s.callbacks.set i .done }

/-- The next operation of a callback. -/
def callbackStep (s : Lifecycle) (i : Nat) : Lifecycle :=
  match s.callbacks[i]? with
  | some .entered =>
    { s with callbacks := s.callbacks.set i (if s.guard.stopping then .refused else .running) }
  | some .running => { s with callbacks := s.callbacks.set i .leaving }
  | some .refused => s.leave i
  | some .leaving => s.leave i
  | _ => s

/-- The next operation of the task. -/
def taskStep (s : Lifecycle) (ticks : UInt32) : Lifecycle :=
  match s.task with
  | .idle => s
  | .closeGate => { s with guard := { s.guard with stopping := true }, task := .readStart }
  | .readStart => { s with task := .loadActive ticks }
  | .loadActive start =>
    if s.guard.active ≠ 0 then { s with task := .readNow start }
    else { s with task := .idle, returned := some .ok, stopped := true }
  | .readNow start =>
    if ticks - start ≥ stopTimeout then { s with task := .idle, returned := some .errTimeout }
    else { s with task := .delay start }
  | .delay start => { s with task := .loadActive start }
  | .openGate =>
    { s with guard := { s.guard with stopping := false }, task := .idle, stopped := false }

/-- A step of a callback or of the task; a call that is under way is not begun again. -/
def step (s : Lifecycle) : LifecycleStep → Lifecycle
  | .call => s.enter
  | .callback i => s.callbackStep i
  | .stop => if s.task = .idle then { s with task := .closeGate } else s
  | .start => if s.task = .idle then { s with task := .openGate } else s
  | .task ticks => s.taskStep ticks

/-! ## The count -/

/-- The callbacks between their increment and their decrement. -/
def counted (s : Lifecycle) : Nat :=
  s.callbacks.countP Callback.counted

/-- Fewer than `2 ^ 32` callbacks are counted behind the step. -/
def Few (s : Lifecycle) (given : LifecycleStep) : Prop :=
  (s.step given).counted < 2 ^ 32

instance (s : Lifecycle) (given : LifecycleStep) : Decidable (s.Few given) :=
  inferInstanceAs (Decidable (_ < _))

/-- No callback runs its body. -/
def Quiet (s : Lifecycle) : Prop :=
  ∀ callback ∈ s.callbacks, callback ≠ .running

instance (s : Lifecycle) : Decidable s.Quiet :=
  inferInstanceAs (Decidable (∀ callback ∈ s.callbacks, callback ≠ .running))

/-- The count, in the arithmetic of its type. -/
def Counts (s : Lifecycle) : Prop :=
  s.guard.active = UInt32.ofNat s.counted

/-- What holds as long as fewer than `2 ^ 32` callbacks are counted. -/
structure Guarded (s : Lifecycle) : Prop where
  counts : s.Counts
  few : s.counted < 2 ^ 32
  /-- Only the task moves the gate. -/
  waiting : s.task.waiting = true → s.guard.stopping = true
  closed : s.stopped = true → s.guard.stopping = true
  quiet : s.stopped = true → s.Quiet

section Steps

variable {s : Lifecycle} {i : Nat}

theorem counted_set {old : Callback} (new : Callback) (here : s.callbacks[i]? = some old) :
    (s.callbacks.set i new).countP Callback.counted + (if old.counted then 1 else 0) =
      s.counted + if new.counted then 1 else 0 := by
  obtain ⟨bound, same⟩ := List.getElem?_eq_some_iff.1 here
  have among : (if old.counted then 1 else 0) ≤ s.counted := by
    split
    case isTrue counts =>
      exact List.countP_pos_iff.2 ⟨old, List.mem_of_getElem? here, counts⟩
    case isFalse => exact Nat.zero_le _
  rw [List.countP_set bound, same]
  unfold counted at among ⊢
  omega

/-- A callback goes on without a change of the count. -/
theorem Counts.goOn (counts : s.Counts) {old new : Callback}
    (here : s.callbacks[i]? = some old) (same : new.counted = old.counted) :
    Counts { s with callbacks := s.callbacks.set i new } := by
  have kept := counted_set new here
  rw [same, Nat.add_right_cancel_iff] at kept
  unfold Counts
  rw [show counted { s with callbacks := s.callbacks.set i new } = s.counted from kept]
  exact counts

theorem Counts.enter (counts : s.Counts) : Counts s.enter := by
  have more : s.enter.counted = s.counted + 1 := List.countP_append
  unfold Counts
  rw [more, UInt32.ofNat_add, ← counts]
  rfl

theorem Counts.leave (counts : s.Counts) {old : Callback} (here : s.callbacks[i]? = some old)
    (counted : old.counted = true) : Counts (s.leave i) := by
  have less : (s.leave i).counted + 1 = s.counted := by
    have both := counted_set .done here
    rw [if_pos counted] at both
    exact both
  have before : s.guard.active = UInt32.ofNat (s.leave i).counted + 1 := by
    rw [show s.guard.active = UInt32.ofNat s.counted from counts, ← less, UInt32.ofNat_add]
    rfl
  show s.guard.active - 1 = UInt32.ofNat (s.leave i).counted
  rw [before, UInt32.add_sub_cancel]

/-- Every step keeps the count, in the arithmetic of its type. -/
theorem Counts.step (counts : s.Counts) (given : LifecycleStep) : Counts (s.step given) := by
  cases given with
  | call => exact counts.enter
  | callback i =>
      show Counts (s.callbackStep i)
      unfold callbackStep
      split
      case h_1 here =>
        refine counts.goOn here ?_
        split <;> rfl
      case h_2 here => exact counts.goOn here rfl
      case h_3 here => exact counts.leave here rfl
      case h_4 here => exact counts.leave here rfl
      case h_5 => exact counts
  | stop =>
      unfold Lifecycle.step
      dsimp only
      split <;> exact counts
  | start =>
      unfold Lifecycle.step
      dsimp only
      split <;> exact counts
  | task ticks =>
      show Counts (s.taskStep ticks)
      unfold taskStep
      split
      case h_4 => split <;> exact counts
      case h_5 => split <;> exact counts
      all_goals exact counts

/-- A count of zero is that of no callback. -/
theorem Guarded.counted_eq_zero (guarded : s.Guarded) (none : s.guard.active = 0) :
    s.counted = 0 := by
  have zero : UInt32.ofNat s.counted = 0 := guarded.counts.symm.trans none
  rw [← UInt32.toNat_inj, UInt32.toNat_ofNat', Nat.mod_eq_of_lt guarded.few] at zero
  exact zero

/-! ## The gate -/

theorem quiet_of_counted (none : s.counted = 0) : s.Quiet := by
  intro callback member runs
  refine List.countP_eq_zero.1 none callback member ?_
  rw [runs]
  rfl

/-- Behind a closed gate, no callback begins its body. -/
theorem Quiet.callbackStep (quiet : s.Quiet) (closed : s.guard.stopping = true) (i : Nat) :
    (s.callbackStep i).Quiet := by
  have replaced (guard : CallbackGuard) (new : Callback) (other : new ≠ .running) :
      Quiet { s with guard, callbacks := s.callbacks.set i new } := by
    intro callback member
    rcases List.mem_or_eq_of_mem_set member with old | rfl
    · exact quiet callback old
    · exact other
  unfold Lifecycle.callbackStep
  split
  · rw [if_pos closed]
    exact replaced _ .refused nofun
  · exact replaced _ .leaving nofun
  · exact replaced _ .done nofun
  · exact replaced _ .done nofun
  · exact quiet

/-- A callback moves neither the gate nor the task. -/
theorem callbackStep_gate (s : Lifecycle) (i : Nat) :
    (s.callbackStep i).guard.stopping = s.guard.stopping ∧
      (s.callbackStep i).task = s.task ∧ (s.callbackStep i).stopped = s.stopped := by
  unfold callbackStep
  split <;> exact ⟨rfl, rfl, rfl⟩

theorem Guarded.callbackStep (guarded : s.Guarded) (i : Nat)
    (few : (s.callbackStep i).counted < 2 ^ 32) : (s.callbackStep i).Guarded := by
  obtain ⟨gate, task, stopped⟩ := callbackStep_gate s i
  refine ⟨guarded.counts.step (.callback i), few, ?_, ?_, ?_⟩
  · rw [task, gate]
    exact guarded.waiting
  · rw [stopped, gate]
    exact guarded.closed
  · rw [stopped]
    exact fun since => (guarded.quiet since).callbackStep (guarded.closed since) i

theorem Guarded.enter (guarded : s.Guarded) (few : s.enter.counted < 2 ^ 32) :
    s.enter.Guarded where
  counts := guarded.counts.enter
  few
  waiting := guarded.waiting
  closed := guarded.closed
  quiet since callback member := by
    rcases List.mem_append.1 member with old | new
    · exact guarded.quiet since callback old
    · rw [List.mem_singleton.1 new]
      exact nofun

/-- The task goes on, with the gate as it is. -/
theorem Guarded.goOn (guarded : s.Guarded) {task : StopTask} {returned : Option StopResult}
    (waiting : task.waiting = true → s.guard.stopping = true) :
    Guarded { s with task, returned } :=
  ⟨guarded.counts, guarded.few, waiting, guarded.closed, guarded.quiet⟩

theorem Guarded.taskStep (guarded : s.Guarded) (ticks : UInt32) : (s.taskStep ticks).Guarded := by
  unfold Lifecycle.taskStep
  split
  case h_1 => exact guarded
  case h_2 =>
    exact ⟨guarded.counts, guarded.few, fun _ => rfl, fun _ => rfl, guarded.quiet⟩
  case h_3 task =>
    exact guarded.goOn fun _ => guarded.waiting (by rw [task]; rfl)
  case h_4 start task =>
    have closed : s.guard.stopping = true := guarded.waiting (by rw [task]; rfl)
    split
    · exact guarded.goOn fun _ => closed
    case isFalse none =>
      -- no callback is counted, and the gate has been closed for a while
      have quiet := quiet_of_counted (guarded.counted_eq_zero (not_not.1 none))
      exact ⟨guarded.counts, guarded.few, nofun, fun _ => closed, fun _ => quiet⟩
  case h_5 start task =>
    split
    · exact guarded.goOn nofun
    · exact guarded.goOn fun _ => guarded.waiting (by rw [task]; rfl)
  case h_6 start task =>
    exact guarded.goOn fun _ => guarded.waiting (by rw [task]; rfl)
  case h_7 => exact ⟨guarded.counts, guarded.few, nofun, nofun, nofun⟩

theorem Guarded.step (guarded : s.Guarded) (given : LifecycleStep) (few : s.Few given) :
    Guarded (s.step given) := by
  cases given with
  | call => exact guarded.enter few
  | callback i => exact guarded.callbackStep i few
  | stop =>
      unfold Lifecycle.step
      dsimp only
      split
      · exact guarded.goOn nofun
      · exact guarded
  | start =>
      unfold Lifecycle.step
      dsimp only
      split
      · exact guarded.goOn nofun
      · exact guarded
  | task ticks => exact guarded.taskStep ticks

/-- While the callbacks are stopped none begins its body, whatever step comes next. -/
theorem Guarded.quiet_step (guarded : s.Guarded) (since : s.stopped = true)
    (given : LifecycleStep) : (s.step given).Quiet := by
  have quiet := guarded.quiet since
  cases given with
  | call =>
      intro callback member
      rcases List.mem_append.1 member with old | new
      · exact quiet callback old
      · rw [List.mem_singleton.1 new]
        exact nofun
  | callback i => exact quiet.callbackStep (guarded.closed since) i
  | stop =>
      unfold Lifecycle.step
      dsimp only
      split <;> exact quiet
  | start =>
      unfold Lifecycle.step
      dsimp only
      split <;> exact quiet
  | task ticks =>
      show (s.taskStep ticks).Quiet
      unfold Lifecycle.taskStep
      split
      case h_4 => split <;> exact quiet
      case h_5 => split <;> exact quiet
      all_goals exact quiet

/-- So many callbacks are called. -/
theorem run_calls (s : Lifecycle) (calls : Nat) :
    run step s (List.replicate calls .call) =
      { s with
        guard := { s.guard with active := s.guard.active + UInt32.ofNat calls }
        callbacks := s.callbacks ++ List.replicate calls .entered } := by
  induction calls generalizing s with
  | zero =>
      rw [List.replicate_zero, List.replicate_zero, run_nil, List.append_nil]
      rw [show UInt32.ofNat 0 = 0 from rfl, UInt32.add_zero]
  | succ calls ih =>
      have active : (s.step .call).guard.active + UInt32.ofNat calls =
          s.guard.active + UInt32.ofNat (calls + 1) := by
        show s.guard.active + 1 + UInt32.ofNat calls = _
        rw [Nat.add_comm calls 1, UInt32.ofNat_add, UInt32.add_assoc]
        rfl
      have callbacks : (s.step .call).callbacks ++ List.replicate calls .entered =
          s.callbacks ++ .entered :: List.replicate calls .entered :=
        List.append_assoc ..
      rw [List.replicate_succ, List.replicate_succ, run_cons, ih, active, callbacks]
      rfl

end Steps

end Lifecycle

/-- In every interleaving in which fewer than `2 ^ 32` callbacks are between their increment and
their decrement at any time, the active count is the number of these, and from a stop that has
returned `ESP_OK` to the next start no callback runs its body or begins it with its next step. -/
theorem callback_guard_is_barrier (stopping : Bool) (steps : List LifecycleStep)
    (few : Admissible Lifecycle.Few Lifecycle.step { guard := { stopping } } steps) :
    let s := run Lifecycle.step { guard := { stopping } } steps
    s.guard.active.toNat = s.counted ∧
      (s.stopped = true → s.Quiet ∧ ∀ given, (s.step given).Quiet) := by
  intro s
  have guarded : s.Guarded := by
    refine few.invariant (fun _ given before allowed => before.step given allowed) ?_
    exact ⟨rfl, Nat.two_pow_pos 32, nofun, nofun, nofun⟩
  refine ⟨?_, fun since => ⟨guarded.quiet since, guarded.quiet_step since⟩⟩
  rw [guarded.counts, UInt32.toNat_ofNat', Nat.mod_eq_of_lt guarded.few]

/-- A callback runs when the gate is closed, one is refused and is seen by the task, and the stop
returns when both are gone; the next callback is refused. -/
theorem callback_guard_is_barrier_refused :
    let s := run Lifecycle.step { guard := { stopping := false } }
      [.call, .callback 0, .stop, .task 0, .task 1, .call, .callback 1, .callback 0, .callback 0,
        .task 1, .task 2, .callback 1, .task 3, .task 3, .call, .callback 2]
    s.guard.active.toNat = s.counted ∧
      (s.stopped = true → s.Quiet ∧ ∀ given, (s.step given).Quiet) :=
  callback_guard_is_barrier false _ (by decide)

/-- As many callbacks as the count has values are called, one of them begins its body, and the task
stops them all. -/
def crowd : List LifecycleStep :=
  List.replicate (2 ^ 32) .call ++ [.callback 0, .stop, .task 0, .task 0, .task 0]

/-- The count of all of them is zero: the stop returns `ESP_OK` while a body runs. -/
theorem crowd_passes_guard :
    let s := run Lifecycle.step {} crowd
    s.returned = some .ok ∧ s.stopped = true ∧ ¬ s.Quiet ∧ s.guard.active.toNat ≠ s.counted := by
  have called : run Lifecycle.step {} (List.replicate (2 ^ 32) .call) =
      { callbacks := .entered :: List.replicate (2 ^ 32 - 1) .entered } := by
    rw [Lifecycle.run_calls, show UInt32.ofNat (2 ^ 32) = 0 by decide,
      show 2 ^ 32 = 2 ^ 32 - 1 + 1 by decide, List.replicate_succ]
    rfl
  have last (rest : List Callback) :
      run Lifecycle.step { callbacks := .entered :: rest }
        [.callback 0, .stop, .task 0, .task 0, .task 0] =
          { guard := { stopping := true }, callbacks := .running :: rest
            returned := some .ok, stopped := true } := rfl
  intro s
  have same : s = { guard := { stopping := true }
                    callbacks := .running :: List.replicate (2 ^ 32 - 1) .entered
                    returned := some .ok, stopped := true } := by
    unfold s crowd
    rw [run_append, called, last]
  rw [same]
  refine ⟨rfl, rfl, fun quiet => quiet .running List.mem_cons_self rfl, ?_⟩
  unfold Lifecycle.counted
  rw [List.countP_cons, List.countP_replicate]
  decide

end OpenDiag.J1850
