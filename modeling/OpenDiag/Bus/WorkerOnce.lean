import OpenDiag.Bus.Worker

/-!
# Exactly once

An observer of the log of a worker follows one submission at a time, from the call that hands it
over to the report of its complete result. It allows a submission to be handed to the driver once,
to be admitted only while it is not cancelled and sent only once it was admitted, to be reported
with the result that it came to and nothing of another submission's, and nothing at all after the
worker was closed. Every interleaving of the owner and the worker task is one that it allows.
-/

namespace OpenDiag.Bus

/-- The observer of a worker's log. -/
structure Watch where
  /-- The submission whose complete result was not reported yet. -/
  current : Option Request := none
  handed : Bool := false
  /-- Whether the admission asked for last was asked for after the cancellation. -/
  askedLate : Bool := false
  /-- When it was admitted. -/
  admitted : Option Time := none
  cancelled : Bool := false
  /-- When `bus_tx_end` was called last. -/
  ended : Option Time := none
  result : Option Int := none
  timingReported : Bool := false
  closed : Bool := false

def Watch.see (w : Watch) : Event → Watch
  | .submitted r => { current := some r, closed := w.closed }
  | .handed _ _ => { w with handed := true }
  | .asked => { w with askedLate := w.cancelled }
  | .admission rc timestampUs =>
    { w with admitted := if rc = 0 && w.admitted.isNone then some timestampUs else w.admitted }
  | .ended timestampUs => { w with ended := some timestampUs }
  | .finished rc => { w with result := some rc }
  | .cancelled => { w with cancelled := true }
  | .reported result =>
    if result.complete then { w with current := none } else { w with timingReported := true }
  | .closed ok => if ok then { w with closed := true } else w
  | .refused _ | .sent _ | .published | .nothing | .waited _ | .closing => w

/-- The submission is in the driver's hands. -/
structure Watch.InDriver (w : Watch) : Prop where
  handed : w.handed = true
  running : w.result = none
  submitted : w.current ≠ none
  open_ : w.closed = false

/-- An admission asked for after the cancellation is refused with `BUS_ERR_CANCELLED`. One that was
asked for before may still be refused for newer input. -/
def Watch.AllowsAdmission (w : Watch) (rc : Int) : Prop :=
  (rc = 0 ∧ w.cancelled = false) ∨ (rc = errCancelled ∧ w.cancelled = true) ∨
    (rc = errRxPending ∧ w.askedLate = false ∧ w.admitted = none ∧
      ∃ r ∈ w.current, r.checkRx = true)

/-- A complete result is all about the current submission. -/
structure Watch.Tells (w : Watch) (result : TxResult) : Prop where
  status : w.result = some result.status
  started : result.started = w.admitted.isSome
  startedUs : ∀ time ∈ w.admitted, result.startedUs = time
  endedUs : result.endedUs = w.ended.getD 0

/-- What may happen next. -/
def Watch.Allows (w : Watch) : Event → Prop
  | .submitted _ => w.current = none ∧ w.closed = false
  | .handed msg flags =>
    (∃ r ∈ w.current, msg = r.msg ∧ flags = r.flags) ∧ w.handed = false ∧ w.cancelled = false ∧
      w.result = none ∧ w.closed = false
  | .asked => w.InDriver
  | .admission rc _ => w.InDriver ∧ w.AllowsAdmission rc
  | .sent msg => w.InDriver ∧ w.admitted ≠ none ∧ ∃ r ∈ w.current, msg = r.msg
  | .ended _ => w.InDriver
  | .finished rc =>
    w.current ≠ none ∧ w.result = none ∧ w.closed = false ∧
      (w.handed = false → w.cancelled = true ∧ rc = errCancelled)
  | .published => w.result ≠ none ∧ w.closed = false
  | .cancelled => w.current ≠ none ∧ w.admitted = none ∧ w.cancelled = false
  | .reported result =>
    w.current ≠ none ∧ w.closed = false ∧
      if result.complete then w.Tells result
      else w.ended ≠ none ∧ w.timingReported = false ∧ result.status = 0
  | _ => w.closed = false

/-! ## How the machine agrees with the observer -/

/-- The worker task has the current submission and has not published its result. -/
def Task.holds : Task → Bool
  | .checkCancelled | .driver _ | .admitTx _ _ _ _ | .endFlag _ _ | .storeDone => true
  | .takeWake | .loadState | .giveDone | .loadStopping | .giveExited | .deleted => false

/-- The worker task is in `send_controlled`. -/
def Task.inDriver : Task → Bool
  | .driver _ | .admitTx _ _ _ _ | .endFlag _ _ => true
  | _ => false

/-- `bus_tx_admit` has returned 0 to the driver. -/
def Task.isAdmitted : Task → Bool
  | .driver admitted | .admitTx admitted _ _ _ | .endFlag admitted _ => admitted
  | _ => false

/-- What is known while a submission is outstanding. -/
structure Outstanding (w : Worker) (task : Task) (watch : Watch) (r : Request) : Prop where
  message : w.message = r.msg
  flags : w.flags = r.flags
  checkRx : w.control.checkRx = r.checkRx
  timing : w.timingReported = watch.timingReported
  ended : w.control.ended = watch.ended.isSome
  endedUs : (∀ admitted time, task ≠ .endFlag admitted time) →
    w.control.endedUs = watch.ended.getD 0
  active : w.control.state = .active ↔ watch.admitted.isSome = true
  cancelled : w.control.state = .cancelled ↔ watch.cancelled = true
  startedUs : ∀ time ∈ watch.admitted, w.control.startedUs = time
  handed : task ≠ .storeDone → w.state = .pending → watch.handed = task.inDriver
  unfinished : task ≠ .storeDone → w.state = .pending → watch.result = none
  finished : task = .storeDone ∨ w.state = .done → watch.result = some w.result

/-- What an admission saw when it was asked for still bounds what it can find. -/
structure Seen (control : Control) (watch : Watch) (seen : TxState) : Prop where
  active : seen = .active → control.state = .active
  cancelled : seen = .cancelled → control.state = .cancelled
  queued : seen = .queued → control.state ≠ .active ∧ watch.askedLate = false

/-- What the owner knows in the middle of a call. -/
def Owner.Knows (w : Worker) : Owner → Prop
  | .submitDone _ | .submitPrepare _ => w.state = .idle
  | .submitPending r =>
    w.state = .idle ∧ w.message = r.msg ∧ w.flags = r.flags ∧ w.timingReported = false ∧
      w.control = prepare r.rxSequence
  | .pollEnded seen => (seen = .done → w.state = .done) ∧ (seen ≠ .idle → w.state ≠ .idle)
  | .pollStarted complete =>
    w.state ≠ .idle ∧ (complete = true → w.state = .done) ∧
      (complete = false → w.control.ended = true ∧ w.timingReported = false)
  | .pollEndedUs complete started startedUs =>
    w.state ≠ .idle ∧ (complete = true → w.state = .done ∧
        started = decide (w.control.state = .active) ∧ startedUs = w.control.startedUs) ∧
      (complete = false → w.control.ended = true ∧ w.timingReported = false)
  | .pollReport result =>
    w.state ≠ .idle ∧ (result.complete = true → w.state = .done ∧ result.status = w.result ∧
        result.started = decide (w.control.state = .active) ∧
        result.startedUs = w.control.startedUs ∧ result.endedUs = w.control.endedUs) ∧
      (result.complete = false →
        w.control.ended = true ∧ w.timingReported = false ∧ result.status = 0)
  | .cancelExchange _ => w.state ≠ .idle
  | _ => True

/-- While a submission is pending, the owner knows nothing that the worker task can change. -/
theorem Owner.Knows.carry {w next : Worker} {owner : Owner} (knows : owner.Knows w)
    (pending : w.state = .pending) (busy : next.state ≠ .idle)
    (timing : next.timingReported = w.timingReported)
    (ended : w.control.ended = true → next.control.ended = true) : owner.Knows next := by
  cases owner with
  | submitDone r => simp [Owner.Knows, pending] at knows
  | submitPrepare r => simp [Owner.Knows, pending] at knows
  | submitPending r => simp [Owner.Knows, pending] at knows
  | pollEnded seen =>
      refine ⟨fun done => ?_, fun _ => busy⟩
      have published := knows.1 done
      rw [pending] at published
      cases published
  | pollStarted complete =>
      simp only [Owner.Knows, pending] at knows
      refine ⟨busy, fun complete => absurd (knows.2.1 complete) (by simp), fun incomplete => ?_⟩
      exact ⟨ended (knows.2.2 incomplete).1, timing.trans (knows.2.2 incomplete).2⟩
  | pollEndedUs complete started startedUs =>
      simp only [Owner.Knows, pending] at knows
      refine ⟨busy, fun complete => absurd (knows.2.1 complete).1 (by simp), fun incomplete => ?_⟩
      exact ⟨ended (knows.2.2 incomplete).1, timing.trans (knows.2.2 incomplete).2⟩
  | pollReport result =>
      simp only [Owner.Knows, pending] at knows
      refine ⟨busy, fun complete => absurd (knows.2.1 complete).1 (by simp), fun incomplete => ?_⟩
      exact ⟨ended (knows.2.2 incomplete).1, timing.trans (knows.2.2 incomplete).2.1,
        (knows.2.2 incomplete).2.2⟩
  | cancelExchange closing => exact busy
  | _ => trivial

/-- No call reads a semaphore or the stopping flag twice. -/
theorem Owner.Knows.signal {w : Worker} {owner : Owner} (knows : owner.Knows w)
    (wake done exited stopping : Bool) :
    owner.Knows { w with wake, done, exited, stopping } := by
  cases owner <;> exact knows

/-- The machine agrees with the observer of its log. -/
structure Agrees (m : Machine) (watch : Watch) : Prop where
  idle : watch.current = none ↔ m.worker.state = .idle
  outstanding : ∀ r ∈ watch.current, Outstanding m.worker m.task watch r
  pending : m.task.holds = true → m.worker.state = .pending
  seen : ∀ admitted seen rxSequence timestampUs,
    m.task = .admitTx admitted seen rxSequence timestampUs → Seen m.worker.control watch seen
  ending : ∀ admitted timestampUs, m.task = .endFlag admitted timestampUs →
    m.worker.control.endedUs = timestampUs
  admitted : m.task.isAdmitted = true → watch.admitted ≠ none
  exited : m.worker.exited = true ∨ watch.closed = true → m.task = .deleted
  closed : watch.closed = true ↔ m.owner = .released
  knows : m.owner.Knows m.worker

theorem agrees_init : Agrees {} {} where
  idle := by simp
  outstanding := by simp
  pending := by simp [Task.holds]
  seen := by simp
  ending := by simp
  admitted := by simp [Task.isAdmitted]
  exited := by simp
  closed := by simp
  knows := trivial

section Turns

variable {m : Machine} {watch : Watch}

theorem Agrees.open_ (agrees : Agrees m watch) (working : m.owner ≠ .released) :
    watch.closed = false := by
  rw [← Bool.not_eq_true, agrees.closed]
  exact working

theorem Agrees.knows_at (agrees : Agrees m watch) {owner : Owner} (here : m.owner = owner) :
    owner.Knows m.worker :=
  here ▸ agrees.knows

/-- The owner goes on to another operation. -/
theorem Agrees.move {owner : Owner} (agrees : Agrees m watch) (working : m.owner ≠ .released)
    (going : owner ≠ .released) (knows : owner.Knows m.worker) :
    Agrees { m with owner } watch where
  __ := agrees
  closed := iff_of_false (by simp [agrees.open_ working]) going
  knows := knows

/-- Semaphores and the stopping flag are not what the two agree on. -/
theorem Agrees.signal (agrees : Agrees m watch) (wake done stopping : Bool) :
    Agrees { m with worker := { m.worker with wake, done, stopping } } watch where
  idle := agrees.idle
  outstanding r current := { agrees.outstanding r current with }
  pending := agrees.pending
  seen := agrees.seen
  ending := agrees.ending
  admitted := agrees.admitted
  exited := agrees.exited
  closed := agrees.closed
  knows := agrees.knows.signal wake done m.worker.exited stopping

/-- An event that the observer takes no notice of. -/
theorem Agrees.unnoticed {next : Machine} {event : Event} (agrees : Agrees next watch)
    (allowed : watch.Allows event) (same : watch.see event = watch) :
    Obedient Watch.see Watch.Allows watch [event] ∧
      Agrees next ([event].foldl Watch.see watch) := by
  refine ⟨.singleton allowed, ?_⟩
  rw [List.foldl_cons, List.foldl_nil, same]
  exact agrees

/-! ### The owner's turns -/

/-- A call that begins touches nothing. -/
theorem Agrees.begin (agrees : Agrees m watch) (made : OwnerCall) :
    Obedient Watch.see Watch.Allows watch (m.begin made).2 ∧
      Agrees (m.begin made).1 ((m.begin made).2.foldl Watch.see watch) := by
  by_cases free : m.owner = .free
  · have working : m.owner ≠ .released := by simp [free]
    have open_ := agrees.open_ working
    cases made with
    | submit r =>
        simp only [Machine.begin, free]
        split
        · exact agrees.unnoticed open_ rfl
        · exact ⟨.nil, agrees.move working (by simp) trivial⟩
    | poll =>
        simp only [Machine.begin, free]
        exact ⟨.nil, agrees.move working (by simp) trivial⟩
    | cancel =>
        simp only [Machine.begin, free]
        exact ⟨.nil, agrees.move working (by simp) trivial⟩
    | wait =>
        simp only [Machine.begin, free]
        exact ⟨.nil, agrees.move working (by simp) trivial⟩
    | close =>
        simp only [Machine.begin, free]
        exact ⟨.nil, agrees.move working (by simp) trivial⟩
  · have busy : m.begin made = (m, []) := by
      unfold Machine.begin
      split <;> first | rfl | exact absurd ‹_› free
    rw [busy]
    exact ⟨.nil, agrees⟩

/-- While nothing is outstanding the worker task holds nothing. -/
theorem Agrees.holds_eq_false (agrees : Agrees m watch) (settled : m.worker.state ≠ .pending) :
    m.task.holds = false := by
  by_contra holds
  exact settled (agrees.pending (by simpa using holds))

theorem Task.inDriver_of_holds {task : Task} (settled : task.holds = false) :
    task.inDriver = false ∧ task.isAdmitted = false ∧ task ≠ .storeDone ∧
      (∀ admitted seen rxSequence timestampUs,
        task ≠ .admitTx admitted seen rxSequence timestampUs) ∧
      ∀ admitted timestampUs, task ≠ .endFlag admitted timestampUs := by
  cases task <;> simp_all [Task.holds, Task.inDriver, Task.isAdmitted]

/-- The message is copied into the worker while nothing is outstanding. -/
theorem Agrees.prepare (agrees : Agrees m watch) {r : Request}
    (preparing : m.owner = .submitPrepare r) :
    Agrees (m.ownerStep false).1 watch := by
  have idle : m.worker.state = .idle := agrees.knows_at preparing
  obtain ⟨_, still, _, outside, unended⟩ :=
    Task.inDriver_of_holds (agrees.holds_eq_false (by simp [idle]))
  have none_current := agrees.idle.mpr idle
  simp only [Machine.ownerStep, preparing]
  exact {
    idle := agrees.idle
    outstanding := by simp [none_current]
    pending := agrees.pending
    seen := fun admitted seen rxSequence timestampUs asked => absurd asked (outside _ _ _ _)
    ending := fun _ _ ending => absurd ending (unended _ _)
    admitted := by simp [still]
    exited := agrees.exited
    closed := iff_of_false (by simp [agrees.open_, preparing]) (by simp)
    knows := ⟨idle, rfl, rfl, rfl, rfl⟩ }

/-- The submission becomes outstanding. -/
theorem Agrees.submit (agrees : Agrees m watch) {r : Request}
    (submitting : m.owner = .submitPending r) :
    watch.Allows (.submitted r) ∧
      Agrees (m.ownerStep false).1 (watch.see (.submitted r)) := by
  have open_ := agrees.open_ (by simp [submitting])
  obtain ⟨idle, message, flags, timing, control⟩ := agrees.knows_at submitting
  obtain ⟨outside, still, early, unasked, unended⟩ :=
    Task.inDriver_of_holds (agrees.holds_eq_false (by simp [idle]))
  refine ⟨⟨agrees.idle.mpr idle, open_⟩, ?_⟩
  simp only [Machine.ownerStep, submitting, Watch.see]
  exact {
    idle := by simp
    outstanding := by
      simp only [Option.mem_def, Option.some.injEq]
      rintro _ rfl
      exact {
        message := message
        flags := flags
        checkRx := rfl
        timing := timing
        ended := by simp [control, Bus.prepare]
        endedUs := by simp [control, Bus.prepare]
        active := by simp [control, Bus.prepare]
        cancelled := by simp [control, Bus.prepare]
        startedUs := by simp
        handed := fun _ _ => outside.symm
        unfinished := fun _ _ => rfl
        finished := by simp [early] }
    pending := by simp
    seen := fun admitted seen rxSequence timestampUs asked => absurd asked (unasked _ _ _ _)
    ending := fun _ _ ending => absurd ending (unended _ _)
    admitted := by simp [still]
    exited := agrees.exited
    closed := iff_of_false (by simp [open_]) (by simp)
    knows := trivial }

theorem Agrees.current_isSome (agrees : Agrees m watch) (busy : m.worker.state ≠ .idle) :
    ∃ r, watch.current = some r :=
  Option.ne_none_iff_exists'.mp fun none_current => busy (agrees.idle.mp none_current)

/-- A report that is not complete leaves the submission outstanding; a complete one settles it. -/
theorem Agrees.report (agrees : Agrees m watch) {result : TxResult}
    (reporting : m.owner = .pollReport result) :
    watch.Allows (.reported result) ∧
      Agrees (m.ownerStep false).1 (watch.see (.reported result)) := by
  have open_ := agrees.open_ (by simp [reporting])
  obtain ⟨busy, complete, partial_⟩ := agrees.knows_at reporting
  obtain ⟨r, current⟩ := agrees.current_isSome busy
  have outstanding := agrees.outstanding r current
  simp only [Machine.ownerStep, reporting, Watch.see]
  cases finished : result.complete with
  | true =>
      obtain ⟨done, status, started, startedUs, endedUs⟩ := complete finished
      have settled := agrees.holds_eq_false (by simp [done])
      obtain ⟨outside, still, early, unasked, unended⟩ := Task.inDriver_of_holds settled
      refine ⟨⟨by simp [current], open_, ?_⟩, ?_⟩
      · rw [finished, if_pos rfl]
        exact {
          status := (outstanding.finished (.inr done)).trans (congrArg some status.symm)
          started := by
            rw [started, Bool.eq_iff_iff, decide_eq_true_iff]
            exact outstanding.active
          startedUs := fun time at_ => startedUs.trans (outstanding.startedUs time at_)
          endedUs := endedUs.trans (outstanding.endedUs unended) }
      · exact {
          idle := by simp
          outstanding := by simp
          pending := by simp [settled]
          seen := fun admitted seen rxSequence timestampUs asked => absurd asked (unasked _ _ _ _)
          ending := agrees.ending
          admitted := by simp [still]
          exited := agrees.exited
          closed := iff_of_false (by simp [open_]) (by simp)
          knows := trivial }
  | false =>
      obtain ⟨ended, timing, status⟩ := partial_ finished
      refine ⟨⟨by simp [current], open_, ?_⟩, ?_⟩
      · rw [finished, if_neg Bool.false_ne_true]
        refine ⟨?_, outstanding.timing ▸ timing, status⟩
        rw [outstanding.ended] at ended
        exact Option.isSome_iff_ne_none.mp ended
      · exact {
          idle := by simpa using agrees.idle
          outstanding := fun r current =>
            { agrees.outstanding r (by simpa using current) with timing := rfl }
          pending := agrees.pending
          seen := fun _ _ _ _ asked => { agrees.seen _ _ _ _ asked with }
          ending := agrees.ending
          admitted := agrees.admitted
          exited := agrees.exited
          closed := iff_of_false (by simp [open_]) (by simp)
          knows := trivial }

/-- The compare-and-exchange of a cancellation. -/
theorem Agrees.exchange (agrees : Agrees m watch) {closing : Bool}
    (cancelling : m.owner = .cancelExchange closing) :
    Obedient Watch.see Watch.Allows watch (m.ownerStep false).2 ∧
      Agrees (m.ownerStep false).1 ((m.ownerStep false).2.foldl Watch.see watch) := by
  have working : m.owner ≠ .released := by simp [cancelling]
  have going : afterCancel closing ≠ .released := by cases closing <;> simp [afterCancel]
  have knows : ∀ w, (afterCancel closing).Knows w := by cases closing <;> exact fun _ => trivial
  have busy : m.worker.state ≠ .idle := agrees.knows_at cancelling
  obtain ⟨r, current⟩ := agrees.current_isSome busy
  have outstanding := agrees.outstanding r current
  by_cases queued : m.worker.control.state = .queued
  · have cancelled : m.worker.control.cancel =
        (true, { m.worker.control with state := .cancelled }) := if_pos queued
    simp only [Machine.ownerStep, cancelling, cancelled, if_true]
    have admitted : watch.admitted = none := by
      simpa [queued] using outstanding.active
    have uncancelled : watch.cancelled = false := by
      simpa [queued] using outstanding.cancelled
    refine ⟨.singleton ⟨by simp [current], admitted, uncancelled⟩, ?_⟩
    exact {
      idle := agrees.idle
      outstanding := fun r current => { agrees.outstanding r current with
        active := by simp [Watch.see, admitted]
        cancelled := by simp [Watch.see] }
      pending := agrees.pending
      seen := fun _ _ _ _ asked => {
        active := fun seen => by simp [(agrees.seen _ _ _ _ asked).active seen] at queued
        cancelled := fun _ => rfl
        queued := fun seen => ⟨by simp, ((agrees.seen _ _ _ _ asked).queued seen).2⟩ }
      ending := agrees.ending
      admitted := agrees.admitted
      exited := agrees.exited
      closed := iff_of_false (by simp [Watch.see, agrees.open_ working]) going
      knows := knows _ }
  · have late : m.worker.control.cancel = (false, m.worker.control) := if_neg queued
    simp only [Machine.ownerStep, cancelling, late]
    exact ⟨.nil, agrees.move working going (knows _)⟩

/-- Whatever the owner does next. -/
theorem Agrees.ownerStep (agrees : Agrees m watch) (giveUp : Bool) :
    Obedient Watch.see Watch.Allows watch (m.ownerStep giveUp).2 ∧
      Agrees (m.ownerStep giveUp).1 ((m.ownerStep giveUp).2.foldl Watch.see watch) := by
  by_cases gone : m.owner = .released
  · have still : m.ownerStep giveUp = (m, []) := by simp [Machine.ownerStep, gone]
    rw [still]
    exact ⟨.nil, agrees⟩
  have open_ := agrees.open_ gone
  have go {owner : Owner} (going : owner ≠ .released) (knows : owner.Knows m.worker) :
      Obedient Watch.see Watch.Allows watch ([] : List Event) ∧
        Agrees { m with owner } watch := ⟨.nil, agrees.move gone going knows⟩
  have stop {event : Event} (allowed : watch.Allows event) (same : watch.see event = watch) :=
    (agrees.move gone (by simp) trivial : Agrees { m with owner := .free } watch).unnoticed
      allowed same
  cases here : m.owner with
  | free =>
      simp only [Machine.ownerStep, here]
      exact ⟨.nil, agrees⟩
  | submitStopping r =>
      simp only [Machine.ownerStep, here]
      split
      · exact stop open_ rfl
      · exact go (by simp) trivial
  | submitState r =>
      simp only [Machine.ownerStep, here]
      split
      · exact stop open_ rfl
      case isFalse idle => exact go (by simp) (not_not.mp idle)
  | submitDone r =>
      have idle : m.worker.state = .idle := agrees.knows_at here
      simp only [Machine.ownerStep, here]
      exact ⟨.nil, (agrees.signal m.worker.wake false m.worker.stopping).move gone (by simp) idle⟩
  | submitPrepare r =>
      have next := agrees.prepare here
      simp only [Machine.ownerStep, here] at next ⊢
      exact ⟨.nil, next⟩
  | submitPending r =>
      obtain ⟨allowed, next⟩ := agrees.submit here
      simp only [Machine.ownerStep, here] at next ⊢
      exact ⟨.singleton allowed, next⟩
  | submitWake =>
      simp only [Machine.ownerStep, here]
      exact ⟨.nil, (agrees.signal true m.worker.done m.worker.stopping).move gone (by simp)
        trivial⟩
  | pollState =>
      simp only [Machine.ownerStep, here]
      exact go (by simp) ⟨id, id⟩
  | pollEnded seen =>
      obtain ⟨done, busy⟩ := agrees.knows_at here
      simp only [Machine.ownerStep, here]
      split
      · exact stop open_ rfl
      case isFalse known =>
        simp only [Bool.or_eq_true, Bool.and_eq_true, decide_eq_true_eq, Bool.not_eq_true',
          not_or, not_and, Bool.not_eq_false, Bool.not_eq_true] at known
        refine go (by simp) ⟨busy known.1, fun complete => done (by simpa using complete), ?_⟩
        intro incomplete
        exact known.2 (by simpa using incomplete)
  | pollStarted complete =>
      obtain ⟨busy, done, timing⟩ := agrees.knows_at here
      simp only [Machine.ownerStep, here]
      exact go (by simp) ⟨busy, fun complete => ⟨done complete, rfl, rfl⟩, timing⟩
  | pollEndedUs complete started startedUs =>
      obtain ⟨busy, done, timing⟩ := agrees.knows_at here
      simp only [Machine.ownerStep, here]
      refine go (by simp) ⟨busy, fun complete => ?_, fun incomplete => ?_⟩
      · obtain ⟨done, started, startedUs⟩ := done complete
        exact ⟨done, if_pos complete, started, startedUs, rfl⟩
      · obtain ⟨ended, unreported⟩ := timing incomplete
        exact ⟨ended, unreported, by simp [show complete = false from incomplete]⟩
  | pollReport result =>
      obtain ⟨allowed, next⟩ := agrees.report here
      simp only [Machine.ownerStep, here] at next ⊢
      exact ⟨.singleton allowed, next⟩
  | cancelState closing =>
      simp only [Machine.ownerStep, here]
      split
      case isTrue pending => exact go (by simp) (by simp [Owner.Knows, pending])
      case isFalse => cases closing <;> exact go (by simp [afterCancel]) trivial
  | cancelExchange closing =>
      have next := agrees.exchange here
      simp only [Machine.ownerStep, here] at next ⊢
      exact next
  | waitState =>
      simp only [Machine.ownerStep, here]
      split
      · exact go (by simp) trivial
      · exact stop open_ rfl
  | waitDone =>
      simp only [Machine.ownerStep, here]
      split
      · exact stop open_ rfl
      · split
        · exact ⟨.nil, (agrees.signal m.worker.wake false m.worker.stopping).move gone (by simp)
            trivial⟩
        · exact ⟨.nil, agrees⟩
  | closeStopping =>
      simp only [Machine.ownerStep, here]
      have next : Agrees { m with
          worker := { m.worker with stopping := true }
          owner := .cancelState true } watch :=
        (agrees.signal m.worker.wake m.worker.done true).move gone (by simp) trivial
      exact next.unnoticed open_ rfl
  | closeWake =>
      simp only [Machine.ownerStep, here]
      exact ⟨.nil, (agrees.signal true m.worker.done m.worker.stopping).move gone (by simp)
        trivial⟩
  | closeExited =>
      simp only [Machine.ownerStep, here]
      split
      case isTrue exited =>
        refine ⟨.singleton open_, ?_⟩
        exact {
          idle := agrees.idle
          outstanding := fun r current => { agrees.outstanding r current with }
          pending := agrees.pending
          seen := fun _ _ _ _ asked => { agrees.seen _ _ _ _ asked with }
          ending := agrees.ending
          admitted := agrees.admitted
          exited := fun _ => agrees.exited (.inl exited)
          closed := by simp [Watch.see]
          knows := trivial }
      · split
        · exact stop open_ rfl
        · exact ⟨.nil, agrees⟩
  | released => exact absurd here gone

/-! ### The worker task's turns -/

/-- Until the worker task is gone, nothing was closed. -/
theorem Agrees.running (agrees : Agrees m watch) (running : m.task ≠ .deleted) :
    m.worker.exited = false ∧ watch.closed = false := by
  constructor
  · by_contra exited
    exact running (agrees.exited (.inl (by simpa using exited)))
  · by_contra closed
    exact running (agrees.exited (.inr (by simpa using closed)))

/-- The worker task goes on between two transmissions. -/
theorem Agrees.wander {task : Task} (agrees : Agrees m watch) (running : m.task ≠ .deleted)
    (resting : m.task.holds = false) (next : task.holds = false) :
    Agrees { m with task } watch := by
  obtain ⟨open_, early⟩ := agrees.running running
  obtain ⟨outside, _, unstored, _, unended⟩ := Task.inDriver_of_holds resting
  obtain ⟨outside', still, unstored', unasked, unended'⟩ := Task.inDriver_of_holds next
  exact {
    idle := agrees.idle
    outstanding := fun r current =>
      have outstanding := agrees.outstanding r current
      { outstanding with
        endedUs := fun _ => outstanding.endedUs unended
        handed := fun _ pending => (outstanding.handed unstored pending).trans
          (outside.trans outside'.symm)
        unfinished := fun _ => outstanding.unfinished unstored
        finished := fun gone => outstanding.finished (.inr (gone.resolve_left unstored')) }
    pending := by simp [next]
    seen := fun _ _ _ _ asked => absurd asked (unasked _ _ _ _)
    ending := fun _ _ ending => absurd ending (unended' _ _)
    admitted := by simp [still]
    exited := by simp [open_, early]
    closed := agrees.closed
    knows := agrees.knows }

/-- What the observer knows while the worker task holds a submission. -/
theorem Agrees.holding (agrees : Agrees m watch) (holds : m.task.holds = true) :
    ∃ r, watch.current = some r ∧ Outstanding m.worker m.task watch r ∧
      m.worker.state = .pending ∧ watch.closed = false := by
  have pending := agrees.pending holds
  obtain ⟨r, current⟩ := agrees.current_isSome (by simp [pending])
  have running : m.task ≠ .deleted := by
    intro deleted
    simp [deleted, Task.holds] at holds
  exact ⟨r, current, agrees.outstanding r current, pending, (agrees.running running).2⟩

theorem Agrees.in_driver (agrees : Agrees m watch) (inside : m.task.inDriver = true) :
    watch.InDriver ∧ ∃ r, watch.current = some r ∧ Outstanding m.worker m.task watch r ∧
      m.worker.state = .pending := by
  have holds : m.task.holds = true := by
    cases task : m.task <;> simp_all [Task.holds, Task.inDriver]
  have unstored : m.task ≠ .storeDone := by
    intro stored
    simp [stored, Task.inDriver] at inside
  obtain ⟨r, current, outstanding, pending, open_⟩ := agrees.holding holds
  exact ⟨⟨(outstanding.handed unstored pending).trans inside,
    outstanding.unfinished unstored pending, by simp [current], open_⟩, r, current, outstanding,
    pending⟩

/-- The worker task takes a pending submission up, unless it was cancelled. -/
theorem Agrees.check (agrees : Agrees m watch) (here : m.task = .checkCancelled) :
    Obedient Watch.see Watch.Allows watch m.taskStep.2 ∧
      Agrees m.taskStep.1 (m.taskStep.2.foldl Watch.see watch) := by
  obtain ⟨r, current, outstanding, pending, open_⟩ := agrees.holding (by simp [here, Task.holds])
  have running := agrees.running (by simp [here])
  have unhanded : watch.handed = false :=
    (outstanding.handed (by simp [here]) pending).trans (by simp [here, Task.inDriver])
  have unfinished : watch.result = none := outstanding.unfinished (by simp [here]) pending
  simp only [Machine.taskStep, here]
  split
  case isTrue cancelled =>
    have seen : watch.cancelled = true := outstanding.cancelled.mp (by simpa [Control.isCancelled]
      using cancelled)
    refine ⟨.singleton ⟨by simp [current], unfinished, open_, fun _ => ⟨seen, rfl⟩⟩, ?_⟩
    exact {
      idle := agrees.idle
      outstanding := fun r current =>
        have outstanding := agrees.outstanding r current
        { outstanding with
          endedUs := fun _ => outstanding.endedUs (by simp [here])
          handed := by simp
          unfinished := by simp
          finished := fun _ => rfl }
      pending := fun _ => pending
      seen := by simp
      ending := by simp
      admitted := by simp [Task.isAdmitted]
      exited := by simp [running, Watch.see]
      closed := agrees.closed
      knows := agrees.knows.carry pending (by simp [pending]) rfl id }
  case isFalse live =>
    have uncancelled : watch.cancelled = false := by
      rw [← Bool.not_eq_true, ← outstanding.cancelled]
      simpa [Control.isCancelled] using live
    refine ⟨.singleton ⟨⟨r, current, outstanding.message, outstanding.flags⟩, unhanded, uncancelled,
      unfinished, open_⟩, ?_⟩
    exact {
      idle := agrees.idle
      outstanding := fun r current =>
        have outstanding := agrees.outstanding r current
        { outstanding with
          endedUs := fun _ => outstanding.endedUs (by simp [here])
          handed := fun _ _ => rfl
          unfinished := fun _ _ => unfinished
          finished := by simp [pending] }
      pending := fun _ => pending
      seen := by simp
      ending := by simp
      admitted := by simp [Task.isAdmitted]
      exited := by simp [running, Watch.see]
      closed := agrees.closed
      knows := agrees.knows }

/-- An admission: the observer's record of it is the control's. -/
theorem Agrees.admitTx (agrees : Agrees m watch) {admitted : Bool} {seen : TxState}
    {rxSequence : UInt32} {timestampUs : Time}
    (here : m.task = .admitTx admitted seen rxSequence timestampUs) :
    Obedient Watch.see Watch.Allows watch m.taskStep.2 ∧
      Agrees m.taskStep.1 (m.taskStep.2.foldl Watch.see watch) := by
  obtain ⟨inside, r, current, outstanding, pending⟩ :=
    agrees.in_driver (by simp [here, Task.inDriver])
  have fits := agrees.seen _ _ _ _ here
  have before := agrees.admitted
  rw [here] at before
  have exited := (agrees.running (by simp [here])).1
  -- what every outcome leaves agreed, whatever it does to the state word and the start time
  have next (state : TxState) (startedUs : Time) (rc : Int)
      (active : state = .active ↔
        (watch.see (.admission rc timestampUs)).admitted.isSome = true)
      (cancelled : state = .cancelled ↔ watch.cancelled = true)
      (started : ∀ time ∈ (watch.see (.admission rc timestampUs)).admitted, startedUs = time)
      (known : rc = 0 → state = .active) :
      Agrees { m with
        worker := { m.worker with control := { m.worker.control with state, startedUs } }
        task := .driver (admitted || rc = 0) } (watch.see (.admission rc timestampUs)) := {
    idle := agrees.idle
    outstanding := fun r current =>
      have outstanding := agrees.outstanding r current
      { outstanding with
        endedUs := fun _ => outstanding.endedUs (by simp [here])
        active := active
        cancelled := cancelled
        startedUs := started
        handed := fun _ _ => inside.handed
        unfinished := fun _ _ => inside.running
        finished := by simp [pending] }
    pending := fun _ => pending
    seen := by simp
    ending := by simp
    admitted := by
      simp only [Task.isAdmitted, Bool.or_eq_true, decide_eq_true_eq]
      rintro (earlier | now)
      · simp only [Watch.see]
        split
        · simp
        · exact before earlier
      · exact Option.isSome_iff_ne_none.mp (active.mp (known now))
    exited := by simp [exited, Watch.see, inside.open_]
    closed := agrees.closed
    knows := agrees.knows.carry pending (by simp [pending]) rfl id }
  have unchanged (rc : Int) (refused : rc ≠ 0 ∨ watch.admitted.isSome = true) :
      (watch.see (.admission rc timestampUs)).admitted = watch.admitted := by
    rcases refused with refused | already
    · simp [Watch.see, refused]
    · simp [Watch.see, Option.isSome_iff_ne_none.mp already]
  cases seen with
  | cancelled =>
      have cancelled := fits.cancelled rfl
      have same := unchanged errCancelled (.inl (by simp [errCancelled]))
      simp only [Machine.taskStep, here, Control.admitSeen]
      refine ⟨.singleton ⟨inside, .inr (.inl ⟨rfl, outstanding.cancelled.mp cancelled⟩)⟩, ?_⟩
      exact next m.worker.control.state m.worker.control.startedUs errCancelled
        (same ▸ outstanding.active) outstanding.cancelled (same ▸ outstanding.startedUs)
        (by simp [errCancelled])
  | active =>
      have active := fits.active rfl
      have uncancelled : watch.cancelled = false := by
        rw [← Bool.not_eq_true, ← outstanding.cancelled, active]
        simp
      have same := unchanged 0 (.inr (outstanding.active.mp active))
      simp only [Machine.taskStep, here, Control.admitSeen]
      refine ⟨.singleton ⟨inside, .inl ⟨rfl, uncancelled⟩⟩, ?_⟩
      exact next m.worker.control.state m.worker.control.startedUs 0
        (same ▸ outstanding.active) outstanding.cancelled (same ▸ outstanding.startedUs)
        (fun _ => active)
  | queued =>
      obtain ⟨inactive, early⟩ := fits.queued rfl
      have unadmitted : watch.admitted = none := by
        simpa using inactive ∘ outstanding.active.mpr
      by_cases newer : (m.worker.control.checkRx &&
          decide (m.worker.control.rxSequence ≠ rxSequence)) = true
      · have refused : m.worker.control.admitSeen .queued rxSequence timestampUs =
            (errRxPending, m.worker.control) := if_pos newer
        have checked : r.checkRx = true := by
          rw [← outstanding.checkRx]
          exact (Bool.and_eq_true_iff.mp newer).1
        have same := unchanged errRxPending (.inl (by simp [errRxPending]))
        simp only [Machine.taskStep, here, refused]
        refine ⟨.singleton ⟨inside, .inr (.inr ⟨rfl, early, unadmitted, r, current, checked⟩)⟩, ?_⟩
        exact next m.worker.control.state m.worker.control.startedUs errRxPending
          (same ▸ outstanding.active) outstanding.cancelled (same ▸ outstanding.startedUs)
          (by simp [errRxPending])
      · by_cases queued : m.worker.control.state = .queued
        · have granted : m.worker.control.admitSeen .queued rxSequence timestampUs =
              (0, { m.worker.control with startedUs := timestampUs, state := .active }) := by
            simp only [Control.admitSeen, newer, queued, Bool.false_eq_true, if_false, if_true]
          have uncancelled : watch.cancelled = false := by
            rw [← Bool.not_eq_true, ← outstanding.cancelled, queued]
            simp
          simp only [Machine.taskStep, here, granted]
          refine ⟨.singleton ⟨inside, .inl ⟨rfl, uncancelled⟩⟩, ?_⟩
          exact next .active timestampUs 0 (by simp [Watch.see, unadmitted])
            (by simp [uncancelled]) (by simp [Watch.see, unadmitted]) (fun _ => rfl)
        · have cancelled : m.worker.control.state = .cancelled := by
            cases state : m.worker.control.state with
            | queued => exact absurd state queued
            | active => exact absurd state inactive
            | cancelled => rfl
          have refused : m.worker.control.admitSeen .queued rxSequence timestampUs =
              (errCancelled, { m.worker.control with startedUs := timestampUs }) := by
            simp only [Control.admitSeen, newer, queued, Bool.false_eq_true, if_false]
          have same := unchanged errCancelled (.inl (by simp [errCancelled]))
          simp only [Machine.taskStep, here, refused]
          refine ⟨.singleton ⟨inside, .inr (.inl ⟨rfl, outstanding.cancelled.mp cancelled⟩)⟩, ?_⟩
          exact next m.worker.control.state timestampUs errCancelled
            (same ▸ outstanding.active) outstanding.cancelled (by simp [same, unadmitted])
            (by simp [errCancelled])

/-- The end of a transmission becomes known to the owner. -/
theorem Agrees.end_ (agrees : Agrees m watch) {admitted : Bool} {timestampUs : Time}
    (here : m.task = .endFlag admitted timestampUs) :
    Obedient Watch.see Watch.Allows watch m.taskStep.2 ∧
      Agrees m.taskStep.1 (m.taskStep.2.foldl Watch.see watch) := by
  obtain ⟨inside, r, current, outstanding, pending⟩ :=
    agrees.in_driver (by simp [here, Task.inDriver])
  have before := agrees.admitted
  rw [here] at before
  have exited := (agrees.running (by simp [here])).1
  simp only [Machine.taskStep, here]
  refine ⟨.singleton inside, ?_⟩
  exact {
    idle := agrees.idle
    outstanding := fun r current =>
      have outstanding := agrees.outstanding r current
      { outstanding with
        ended := rfl
        endedUs := fun _ => agrees.ending _ _ here
        handed := fun _ _ => inside.handed
        unfinished := fun _ _ => inside.running
        finished := by simp [pending] }
    pending := fun _ => pending
    seen := by simp
    ending := by simp
    admitted := before
    exited := by simp [exited, Watch.see, inside.open_]
    closed := agrees.closed
    knows := agrees.knows.carry pending (by simp [pending]) rfl fun _ => rfl }

/-- The result is published. -/
theorem Agrees.publish (agrees : Agrees m watch) (here : m.task = .storeDone) :
    Obedient Watch.see Watch.Allows watch m.taskStep.2 ∧
      Agrees m.taskStep.1 (m.taskStep.2.foldl Watch.see watch) := by
  obtain ⟨r, current, outstanding, pending, open_⟩ := agrees.holding (by simp [here, Task.holds])
  have exited := (agrees.running (by simp [here])).1
  have result := outstanding.finished (.inl here)
  simp only [Machine.taskStep, here]
  refine ⟨.singleton ⟨by simp [result], open_⟩, ?_⟩
  exact {
    idle := by simp [Watch.see, current]
    outstanding := fun r current =>
      have outstanding := agrees.outstanding r current
      { outstanding with
        endedUs := fun _ => outstanding.endedUs (by simp [here])
        handed := by simp
        unfinished := by simp
        finished := fun _ => result }
    pending := by simp [Task.holds]
    seen := by simp
    ending := by simp
    admitted := by simp [Task.isAdmitted]
    exited := by simp [exited, Watch.see, open_]
    closed := agrees.closed
    knows := agrees.knows.carry pending (by simp) rfl id }

/-- Whatever the worker task does next. -/
theorem Agrees.taskStep (agrees : Agrees m watch) :
    Obedient Watch.see Watch.Allows watch m.taskStep.2 ∧
      Agrees m.taskStep.1 (m.taskStep.2.foldl Watch.see watch) := by
  cases here : m.task with
  | takeWake =>
      simp only [Machine.taskStep, here]
      split
      · exact ⟨.nil, (agrees.signal false m.worker.done m.worker.stopping).wander (by simp [here])
          (by simp [here, Task.holds]) rfl⟩
      · exact ⟨.nil, agrees⟩
  | loadState =>
      simp only [Machine.taskStep, here]
      split
      case isTrue pending =>
        refine ⟨.nil, ?_⟩
        exact {
          idle := agrees.idle
          outstanding := fun r current =>
            have outstanding := agrees.outstanding r current
            { outstanding with
              endedUs := fun _ => outstanding.endedUs (by simp [here])
              handed := fun _ pending => (outstanding.handed (by simp [here]) pending).trans
                (by simp [here, Task.inDriver])
              unfinished := fun _ => outstanding.unfinished (by simp [here])
              finished := by simp [pending] }
          pending := fun _ => pending
          seen := by simp
          ending := by simp
          admitted := by simp [Task.isAdmitted]
          exited := by simp [agrees.running (by simp [here])]
          closed := agrees.closed
          knows := agrees.knows }
      · exact ⟨.nil, agrees.wander (by simp [here]) (by simp [here, Task.holds]) rfl⟩
  | checkCancelled => exact agrees.check here
  | driver admitted =>
      simp only [Machine.taskStep, here]
      exact ⟨.nil, agrees⟩
  | admitTx admitted seen rxSequence timestampUs => exact agrees.admitTx here
  | endFlag admitted timestampUs => exact agrees.end_ here
  | storeDone => exact agrees.publish here
  | giveDone =>
      simp only [Machine.taskStep, here]
      exact ⟨.nil, (agrees.signal m.worker.wake true m.worker.stopping).wander (by simp [here])
        (by simp [here, Task.holds]) rfl⟩
  | loadStopping =>
      simp only [Machine.taskStep, here]
      refine ⟨.nil, agrees.wander (by simp [here]) (by simp [here, Task.holds]) ?_⟩
      split <;> rfl
  | giveExited =>
      simp only [Machine.taskStep, here]
      have gone : Agrees { m with task := .deleted } watch :=
        agrees.wander (by simp [here]) (by simp [here, Task.holds]) rfl
      exact ⟨.nil, { gone with
        outstanding := fun r current => { gone.outstanding r current with }
        exited := fun _ => rfl
        knows := agrees.knows.signal m.worker.wake m.worker.done true m.worker.stopping }⟩
  | deleted =>
      simp only [Machine.taskStep, here]
      exact ⟨.nil, agrees⟩

/-- Whatever the driver does next. -/
theorem Agrees.driverStep (agrees : Agrees m watch) (move : DriverMove) :
    Obedient Watch.see Watch.Allows watch (m.driverStep move).2 ∧
      Agrees (m.driverStep move).1 ((m.driverStep move).2.foldl Watch.see watch) := by
  by_cases driving : ∃ admitted, m.task = .driver admitted
  · obtain ⟨admitted, here⟩ := driving
    obtain ⟨inside, r, current, outstanding, pending⟩ :=
      agrees.in_driver (by simp [here, Task.inDriver])
    have before := agrees.admitted
    rw [here] at before
    have exited := (agrees.running (by simp [here])).1
    cases move with
    | admitTx rxSequence timestampUs =>
        simp only [Machine.driverStep, here]
        refine ⟨.singleton inside, ?_⟩
        exact {
          idle := agrees.idle
          outstanding := fun r current =>
            have outstanding := agrees.outstanding r current
            { outstanding with
              endedUs := fun _ => outstanding.endedUs (by simp [here])
              handed := fun _ _ => inside.handed
              unfinished := fun _ _ => inside.running
              finished := by simp [pending] }
          pending := fun _ => pending
          seen := by
            rintro _ _ _ _ ⟨rfl, rfl, rfl, rfl⟩
            refine ⟨id, id, fun queued => ⟨by simp [queued], ?_⟩⟩
            change watch.cancelled = false
            rw [← Bool.not_eq_true, ← outstanding.cancelled, queued]
            simp
          ending := by simp
          admitted := before
          exited := by simp [exited, Watch.see, inside.open_]
          closed := agrees.closed
          knows := agrees.knows }
    | transmit =>
        simp only [Machine.driverStep, here]
        cases admitted with
        | false => exact ⟨.nil, agrees⟩
        | true =>
            exact agrees.unnoticed
              ⟨inside, before rfl, r, current, outstanding.message⟩ rfl
    | finish timestampUs =>
        simp only [Machine.driverStep, here]
        refine ⟨.nil, ?_⟩
        exact {
          idle := agrees.idle
          outstanding := fun r current =>
            have outstanding := agrees.outstanding r current
            { outstanding with
              endedUs := fun outside => absurd rfl (outside _ _)
              handed := fun _ _ => inside.handed
              unfinished := fun _ _ => inside.running
              finished := by simp [pending] }
          pending := fun _ => pending
          seen := by simp
          ending := by simp
          admitted := before
          exited := by simp [exited, inside.open_]
          closed := agrees.closed
          knows := agrees.knows.carry pending (by simp [pending]) rfl id }
    | giveBack rc =>
        simp only [Machine.driverStep, here]
        refine ⟨.singleton ⟨by simp [current], inside.running, inside.open_,
          by simp [inside.handed]⟩, ?_⟩
        exact {
          idle := agrees.idle
          outstanding := fun r current =>
            have outstanding := agrees.outstanding r current
            { outstanding with
              endedUs := fun _ => outstanding.endedUs (by simp [here])
              handed := by simp
              unfinished := by simp
              finished := fun _ => rfl }
          pending := fun _ => pending
          seen := by simp
          ending := by simp
          admitted := by simp [Task.isAdmitted]
          exited := by simp [exited, Watch.see, inside.open_]
          closed := agrees.closed
          knows := agrees.knows.carry pending (by simp [pending]) rfl id }
  · have still : m.driverStep move = (m, []) := by
      unfold Machine.driverStep
      dsimp only
      split <;> first | rfl | exact absurd ⟨_, ‹_›⟩ driving
    rw [still]
    exact ⟨.nil, agrees⟩

theorem Agrees.step (agrees : Agrees m watch) (turn : Turn) :
    Obedient Watch.see Watch.Allows watch (m.step turn).2 ∧
      Agrees (m.step turn).1 ((m.step turn).2.foldl Watch.see watch) := by
  cases turn with
  | begin made => exact agrees.begin made
  | owner giveUp => exact agrees.ownerStep giveUp
  | task => exact agrees.taskStep
  | driver move => exact agrees.driverStep move

end Turns

/-! ## Progress -/

/-- What keeps the worker task from missing a submission: the token of the submission is there until
it is taken, and the task ends only once it was told to stop. -/
structure Awake (m : Machine) : Prop where
  token : m.worker.state = .pending → m.owner ≠ .submitWake →
    (m.task = .giveDone ∨ m.task = .loadStopping ∨ m.task = .takeWake) → m.worker.wake = true
  alive : m.task = .giveExited ∨ m.task = .deleted → m.worker.stopping = true

/-- A call that begins is not a submission's last operation. -/
theorem Machine.begin_keeps (m : Machine) (made : OwnerCall) :
    (m.begin made).1.worker = m.worker ∧ (m.begin made).1.task = m.task ∧
      ((m.begin made).1.owner = .submitWake ↔ m.owner = .submitWake) := by
  unfold Machine.begin
  split <;> try split
  all_goals simp_all

theorem Awake.step {m : Machine} (awake : Awake m) (turn : Turn) : Awake (m.step turn).1 := by
  obtain ⟨token, alive⟩ := awake
  cases turn with
  | begin made =>
      obtain ⟨worker, task, owner⟩ := m.begin_keeps made
      simp only [Machine.step]
      constructor
      · rw [worker, task]
        exact fun pending returned => token pending (mt owner.mpr returned)
      · rw [worker, task]
        exact alive
  | owner giveUp =>
      simp only [Machine.step]
      cases here : m.owner <;> simp only [Machine.ownerStep, here] <;> grind [Awake]
  | task =>
      simp only [Machine.step]
      cases here : m.task <;> simp only [Machine.taskStep, here] <;> grind [Awake]
  | driver move =>
      simp only [Machine.step]
      cases here : m.task <;> cases move <;> simp only [Machine.driverStep, here] <;> grind [Awake]

/-- The task's own turns before it publishes a pending result. -/
def Task.toGo : Task → Nat
  | .giveDone => 5
  | .loadStopping => 4
  | .takeWake => 3
  | .loadState => 2
  | .checkCancelled => 1
  | _ => 0

/-- A turn of the worker task outside the driver. -/
def ownTurn (m : Machine) (turn : Turn) : Nat :=
  if turn = .task && !m.task.inDriver then 1 else 0

/-- The result is published, or the owner stops the worker. -/
def Event.settles (event : Event) : Prop :=
  event = .published ∨ event = .closing

/-- A submission that was handed over waits to be published. -/
structure Machine.Waiting (m : Machine) : Prop where
  agrees : ∃ watch, Agrees m watch
  awake : Awake m
  pending : m.worker.state = .pending
  returned : m.owner ≠ .submitWake
  working : m.worker.stopping = false

theorem Machine.Waiting.owner_step {m : Machine} (waiting : m.Waiting) (giveUp : Bool)
    (missing : ∀ event ∈ (m.ownerStep giveUp).2, ¬ event.settles) :
    (m.ownerStep giveUp).1.worker.state = .pending ∧
      (m.ownerStep giveUp).1.owner ≠ .submitWake ∧
      (m.ownerStep giveUp).1.worker.stopping = false ∧
      (m.ownerStep giveUp).1.task = m.task := by
  obtain ⟨⟨watch, agrees⟩, _, pending, returned, working⟩ := waiting
  have knows := agrees.knows
  cases here : m.owner <;> rw [here] at knows returned <;>
    simp only [Machine.ownerStep, here, Event.settles, List.mem_singleton, forall_eq]
      at missing ⊢ <;>
    grind [Owner.Knows, afterCancel]

theorem Machine.Waiting.task_step {m : Machine} (waiting : m.Waiting)
    (missing : ∀ event ∈ m.taskStep.2, ¬ event.settles) :
    m.taskStep.1.worker.state = .pending ∧ m.taskStep.1.owner = m.owner ∧
      m.taskStep.1.worker.stopping = false ∧
      ownTurn m .task + m.taskStep.1.task.toGo ≤ m.task.toGo := by
  obtain ⟨_, ⟨token, alive⟩, pending, returned, working⟩ := waiting
  cases here : m.task <;> rw [here] at token alive <;>
    simp only [Machine.taskStep, ownTurn, here, Event.settles, List.mem_singleton, forall_eq]
      at missing ⊢ <;>
    grind [Task.toGo, Task.inDriver]

/-- No turn is lost: every turn of the worker task's own brings the result nearer, and no other
turn puts it off. -/
theorem Machine.Waiting.pays {m : Machine} (waiting : m.Waiting) (turn : Turn)
    (missing : ∀ event ∈ (m.step turn).2, ¬ event.settles) :
    (m.step turn).1.Waiting ∧ ownTurn m turn + (m.step turn).1.task.toGo ≤ m.task.toGo := by
  obtain ⟨watch, agrees⟩ := waiting.agrees
  have next : ∃ watch, Agrees (m.step turn).1 watch := ⟨_, (agrees.step turn).2⟩
  have awake := waiting.awake.step turn
  cases turn with
  | begin made =>
      obtain ⟨worker, task, owner⟩ := m.begin_keeps made
      refine ⟨⟨next, awake, ?_, mt owner.mp waiting.returned, ?_⟩, ?_⟩
      · exact (congrArg Worker.state worker).trans waiting.pending
      · exact (congrArg Worker.stopping worker).trans waiting.working
      · simp [Machine.step, task, ownTurn]
  | owner giveUp =>
      obtain ⟨pending, returned, working, task⟩ := waiting.owner_step giveUp missing
      refine ⟨⟨next, awake, pending, returned, working⟩, ?_⟩
      simp [Machine.step, task, ownTurn]
  | task =>
      obtain ⟨pending, owner, working, paid⟩ := waiting.task_step missing
      exact ⟨⟨next, awake, pending, owner ▸ waiting.returned, working⟩, paid⟩
  | driver move =>
      have unchanged : (m.driverStep move).1.worker.state = m.worker.state ∧
          (m.driverStep move).1.owner = m.owner ∧
          (m.driverStep move).1.worker.stopping = m.worker.stopping ∧
          (m.driverStep move).1.task.toGo ≤ m.task.toGo := by
        unfold Machine.driverStep
        dsimp only
        split <;> simp [*, Task.toGo]
      obtain ⟨state, owner, stopping, nearer⟩ := unchanged
      refine ⟨⟨next, awake, state.trans waiting.pending, owner ▸ waiting.returned,
        stopping.trans waiting.working⟩, ?_⟩
      simpa [Machine.step, ownTurn] using nearer

/-- A turn of the owner. -/
def ownerTurn (_ : Machine) : Turn → Nat
  | .owner _ => 1
  | _ => 0

/-- The owner's turns before a poll of a published result reports it. -/
def Owner.toGo : Owner → Nat
  | .pollState => 4
  | .pollEnded _ => 3
  | .pollStarted _ => 2
  | .pollEndedUs _ _ _ => 1
  | _ => 0

def Event.completes (event : Event) : Prop :=
  ∃ result, event = .reported result ∧ result.complete = true

/-- A poll of a published result. -/
structure Machine.Polling (m : Machine) : Prop where
  done : m.worker.state = .done
  settled : m.task.holds = false
  polling : m.owner = .pollState ∨ m.owner = .pollEnded .done ∨ m.owner = .pollStarted true ∨
    (∃ started startedUs, m.owner = .pollEndedUs true started startedUs) ∨
    ∃ result, m.owner = .pollReport result ∧ result.complete = true

theorem Machine.Polling.pays {m : Machine} (polls : m.Polling) (turn : Turn)
    (missing : ∀ event ∈ (m.step turn).2, ¬ event.completes) :
    (m.step turn).1.Polling ∧ ownerTurn m turn + (m.step turn).1.owner.toGo ≤ m.owner.toGo := by
  obtain ⟨done, settled, polling⟩ := polls
  cases turn with
  | begin made =>
      have busy : m.begin made = (m, []) := by
        unfold Machine.begin
        split <;> first | rfl | simp_all
      simp only [Machine.step, busy, ownerTurn]
      exact ⟨⟨done, settled, polling⟩, by omega⟩
  | owner giveUp =>
      simp only [Machine.step, ownerTurn] at missing ⊢
      rcases polling with here | here | here | ⟨started, startedUs, here⟩ | ⟨result, here, complete⟩
      · simp only [Machine.ownerStep, here, done, Owner.toGo]
        exact ⟨⟨done, settled, .inr (.inl rfl)⟩, Nat.le_refl _⟩
      · simp only [Machine.ownerStep, here, Owner.toGo]
        exact ⟨⟨done, settled, .inr (.inr (.inl rfl))⟩, Nat.le_refl _⟩
      · simp only [Machine.ownerStep, here, Owner.toGo]
        exact ⟨⟨done, settled, .inr (.inr (.inr (.inl ⟨_, _, rfl⟩)))⟩, Nat.le_refl _⟩
      · simp only [Machine.ownerStep, here, Owner.toGo]
        exact ⟨⟨done, settled, .inr (.inr (.inr (.inr ⟨_, rfl, rfl⟩)))⟩, Nat.le_refl _⟩
      · simp only [Machine.ownerStep, here, List.mem_singleton, forall_eq] at missing
        exact absurd ⟨result, rfl, complete⟩ missing
  | task =>
      have kept : m.taskStep.1.worker.state = m.worker.state ∧ m.taskStep.1.owner = m.owner ∧
          m.taskStep.1.task.holds = false := by
        cases here : m.task <;> rw [here] at settled <;>
          simp only [Machine.taskStep, here, done] <;> grind [Task.holds]
      obtain ⟨state, owner, still⟩ := kept
      simp only [Machine.step, ownerTurn, owner, Nat.zero_add, Nat.le_refl, and_true]
      exact ⟨state.trans done, still, by rwa [owner]⟩
  | driver move =>
      have outside : m.driverStep move = (m, []) := by
        unfold Machine.driverStep
        split <;> simp_all [Task.holds]
      simp only [Machine.step, outside, ownerTurn]
      exact ⟨⟨done, settled, polling⟩, by omega⟩

/-! ## Every run -/

/-- What the observer has seen of a log. -/
def watched (log : List Event) : Watch :=
  log.foldl Watch.see {}

theorem obedient_afterTurns (turns : List Turn) :
    Obedient Watch.see Watch.Allows {} (afterTurns turns).2 ∧
      Agrees (afterTurns turns).1 (watched (afterTurns turns).2) :=
  obedient_of_agrees (fun _ _ turn agrees => agrees.step turn) agrees_init turns

theorem awake_afterTurns (turns : List Turn) : Awake (afterTurns turns).1 := by
  refine run_invariant (fun s : Machine × List Event => Awake s.1) (fun s turn awake => ?_) ?_ turns
  · exact awake.step turn
  · exact ⟨by simp, by simp⟩

/-- Whatever the owner, the worker task and the driver do and in whichever order: nothing happens
that the observer does not allow, and a submission is outstanding for it exactly while the worker's
state word is not idle. A submission that was handed over is published before the worker task takes
a sixth turn of its own, unless the owner closes the worker; and a poll of a published result
reports it complete in its fifth turn. -/
theorem worker_exactly_once (turns later : List Turn) :
    let m := (afterTurns turns).1
    let log := (afterTurns turns).2
    Obedient Watch.see Watch.Allows {} log ∧
      ((watched log).current = none ↔ m.worker.state = .idle) ∧
      (m.worker.state = .pending → m.owner ≠ .submitWake → m.worker.stopping = false →
        (∀ event ∈ events Machine.step m later, ¬ event.settles) →
        spent Machine.step ownTurn m later ≤ 5) ∧
      (m.worker.state = .done → m.owner = .pollState →
        (∀ event ∈ events Machine.step m later, ¬ event.completes) →
        spent Machine.step ownerTurn m later ≤ 4) := by
  intro m log
  obtain ⟨obedient, agrees⟩ := obedient_afterTurns turns
  refine ⟨obedient, agrees.idle, fun pending returned working missing => ?_,
    fun done polling missing => ?_⟩
  · have waiting : m.Waiting := ⟨⟨_, agrees⟩, awake_afterTurns turns, pending, returned, working⟩
    have spent := spent_le (fun m => m.task.toGo)
      (fun m turn (waiting : m.Waiting) missing => waiting.pays turn missing) waiting later missing
    have most : m.task.toGo ≤ 5 := by
      cases m.task <;> simp [Task.toGo]
    exact Nat.le_trans spent most
  · have settled : m.worker.state ≠ .pending := by simp [done]
    have polls : m.Polling := ⟨done, agrees.holds_eq_false settled, .inl polling⟩
    have spent := spent_le (fun m => m.owner.toGo)
      (fun m turn (polls : m.Polling) missing => polls.pays turn missing) polls later missing
    rw [polling] at spent
    exact spent

/-- After a successful cancellation the complete result is `BUS_ERR_CANCELLED`. -/
def CancellationTold (log : List Event) : Prop :=
  ∀ earlier between later result,
    log = earlier ++ .cancelled :: (between ++ .reported result :: later) →
    (∀ r, .submitted r ∉ between) → result.complete = true → result.status = errCancelled

private def owners (count : Nat) : List Turn := List.replicate count (.owner false)
private def tasks (count : Nat) : List Turn := List.replicate count .task

/-- A message to send only if nothing was received after number 7. -/
private def checkedRequest : Request := ⟨⟨0x7e0, [0x3e]⟩, txCheckRx, 7⟩

/-- The driver has loaded the state word when the cancellation comes, and then finds newer input. -/
private def lateCancellation : List Turn :=
  [.begin (.submit checkedRequest)] ++ owners 6 ++ tasks 3 ++ [.driver (.admitTx 8 1000)] ++
    [.begin .cancel] ++ owners 2 ++ tasks 1 ++ [.driver (.giveBack errRxPending)] ++ tasks 1 ++
    [.begin .poll] ++ owners 5

/-- The worker task has not yet looked whether it is to stop when the next message is handed over
and the owner closes the worker; the close gives up before the task is gone. -/
private def closedEarly : List Turn :=
  [.begin (.submit checkedRequest)] ++ owners 6 ++ tasks 3 ++ [.driver (.giveBack 0)] ++
    tasks 1 ++ [.begin .poll] ++ owners 5 ++ [.begin (.submit checkedRequest)] ++ owners 6 ++
    [.begin .close] ++ owners 4 ++ [.owner true] ++ tasks 3

/-- A submission that was cancelled can be reported with another result, and one that was handed
over before a close that failed can stay pending with nobody left to send it. -/
theorem cancelled_reports_rx_pending :
    ¬ (∀ turns, CancellationTold (afterTurns turns).2) ∧
      ∃ turns, (afterTurns turns).1.worker.state = .pending ∧
        (afterTurns turns).1.task = .deleted ∧ (afterTurns turns).1.owner = .free := by
  constructor
  · intro told
    have wrong := told lateCancellation
      [.submitted checkedRequest, .handed checkedRequest.msg txCheckRx, .asked]
      [.admission errRxPending 1000, .finished errRxPending, .published] []
      ⟨errRxPending, true, false, 0, 0⟩ (by decide +kernel) (by simp) rfl
    exact absurd wrong (by decide)
  · exact ⟨closedEarly, by decide +kernel⟩

end OpenDiag.Bus
