import Mathlib.Data.Prod.Lex
import OpenDiag.Can
import OpenDiag.J2534.PlanMoves

/-!
# Scheduled messages do not starve each other

Every submission is of the job with the least due time, and the least number among those, of all
channels of the bus. A job that completes is moved behind the time of its submission, and so behind
every job that was due then: while a periodic job waits, every other job is submitted and completed
at most once.
-/

namespace OpenDiag.J2534

/-! ## The order of the jobs -/

/-- The rank of a job: its due time, and its number, both from a base on. -/
def rankOf (base : Time) (first : UInt32) (entry : ChannelIndex × Slot × Job) : ℕ ×ₗ ℕ :=
  toLex (elapsed base entry.2.2.dueUs, elapsed first entry.2.2.id)

section Order

variable {base : Time} {first : UInt32} {jobs : List (ChannelIndex × Slot × Job)}

theorem entryBefore_iff {entry other : ChannelIndex × Slot × Job}
    (due : Near base entry.2.2.dueUs) (due' : Near base other.2.2.dueUs)
    (id : Near first entry.2.2.id) (id' : Near first other.2.2.id) :
    entryBefore entry other = true ↔ rankOf base first entry < rankOf base first other := by
  rw [entryBefore, Job.before, Bool.or_eq_true, Bool.and_eq_true, decide_eq_true_eq,
    decide_eq_true_eq, decide_eq_true_eq, toInt32_sub_neg_iff due due', toInt32_sub_neg_iff id id',
    rankOf, rankOf, Prod.Lex.toLex_lt_toLex, ← elapsed_inj]

/-- Among times and numbers near each other, the comparison of jobs is the order of their ranks. -/
theorem follows_rankOf
    (near : ∀ entry ∈ jobs, Near base entry.2.2.dueUs ∧ Near first entry.2.2.id) :
    Follows entryBefore (rankOf base first) jobs where
  sound x member y member' before :=
    ((entryBefore_iff (near x member).1 (near y member').1 (near x member).2
      (near y member').2).1 before).le
  complete x member y member' less :=
    (entryBefore_iff (near x member).1 (near y member').1 (near x member).2
      (near y member').2).2 less

/-- Whatever the numbers are, it follows the due times. -/
theorem follows_dueUs (near : ∀ entry ∈ jobs, Near base entry.2.2.dueUs) :
    Follows entryBefore (fun entry => elapsed base entry.2.2.dueUs) jobs where
  sound x member y member' before := by
    rw [entryBefore, Job.before, Bool.or_eq_true, decide_eq_true_eq,
      toInt32_sub_neg_iff (near x member) (near y member')] at before
    rcases before with earlier | tie
    · exact earlier.le
    · rw [Bool.and_eq_true, decide_eq_true_eq] at tie
      rw [tie.1]
  complete x member y member' less := by
    rw [entryBefore, Job.before, Bool.or_eq_true, decide_eq_true_eq,
      toInt32_sub_neg_iff (near x member) (near y member')]
    exact .inl less

end Order

/-! ## Every submission -/

/-- A scheduled message is submitted that was picked first: the history ends with the pick, among
the jobs of every channel of the bus as they are then. -/
def Turn.Foremost {σ : Type*} (turn : Turn σ) (slot : Slot) : Prop :=
  let drained := (turn.core.channels turn.physical).rxDrained
  let jobs := busJobs turn.core turn.physical
  let entry := (turn.channel, slot, (turn.core.channels turn.channel).scheduler slot)
  ∃ now, turn.core.log.getLast? =
      some (.scheduled turn.physical now drained jobs turn.channel slot) ∧
    entry ∈ eligibleJobs now drained jobs ∧
    ∀ base first, (∀ other ∈ eligibleJobs now drained jobs,
        Near base other.2.2.dueUs ∧ Near first other.2.2.id) →
      ∀ other ∈ eligibleJobs now drained jobs, rankOf base first entry ≤ rankOf base first other

section Submissions

variable {σ : Type*} {vif : Vif σ}

theorem foremost_of_pick {core : Core σ} {p : ChannelIndex} {now : Time} {i : ChannelIndex}
    {slot : Slot} (foremost : Foremost core p now (some (i, slot))) :
    Turn.Foremost
      { physical := p, channel := i, slot := some slot, core := recordPick core p now i slot }
      slot := by
  obtain ⟨⟨j, other, job⟩, found, same⟩ := Option.map_eq_some_iff.1 foremost
  cases same
  have member := firstDue_mem found
  obtain ⟨scheduler, inside, own, -⟩ := mem_eligibleJobs.1 member
  obtain ⟨k, -, pair⟩ := List.mem_map.1 inside
  cases pair
  cases own
  refine ⟨now, List.getLast?_concat, member, fun base first near other eligible => ?_⟩
  exact firstDue_le (follows_rankOf near) found other eligible

theorem scanTx_slot (p : ChannelIndex) (cursor : Nat) (offsets : List Nat) (core : Core σ) :
    ∀ turn ∈ (scanTx vif p cursor offsets core).1, turn.slot = none := by
  induction offsets generalizing core with
  | nil => exact fun _ member => absurd member List.not_mem_nil
  | cons offset offsets ih =>
      rw [scanTx]
      dsimp only
      split
      · split
        · exact List.forall_mem_singleton.2 rfl
        · exact List.forall_mem_cons.2 ⟨rfl, ih _⟩
      · exact List.forall_mem_cons.2 ⟨rfl, ih _⟩

/-- Every scheduled message among the turns has been picked first. -/
def AllForemost (turns : List (Turn σ)) : Prop :=
  ∀ turn ∈ turns, ∀ slot, turn.slot = some slot → turn.Foremost slot

theorem allForemost_nil : AllForemost ([] : List (Turn σ)) :=
  fun _ member => absurd member List.not_mem_nil

theorem AllForemost.append {turns more : List (Turn σ)} (first : AllForemost turns)
    (second : AllForemost more) : AllForemost (turns ++ more) :=
  List.forall_mem_append.2 ⟨first, second⟩

theorem startTurns_foremost {core : Core σ} {p : ChannelIndex} {now : Time}
    {next : Option (ChannelIndex × Slot)} (foremost : Foremost core p now next)
    (idle : (core.channels p).pending.kind = .none) :
    AllForemost (startTurns vif core p now next).1 := by
  unfold startTurns
  extract_lets flowed
  have flowing : Still core flowed :=
    (Still.refl core).serviceFlow vif p _ fun kind => TxKind.noConfusion (idle.symm.trans kind)
  split
  · exact allForemost_nil
  · cases next with
    | none =>
        intro turn member slot scheduled
        rw [scanTx_slot p _ _ flowed turn member] at scheduled
        cases scheduled
    | some pick =>
        refine List.forall_mem_singleton.2 fun slot scheduled => ?_
        cases scheduled
        exact foremost_of_pick (flowing.foremost foremost)

theorem busTurns_foremost (core : Core σ) (p : ChannelIndex) :
    AllForemost (busTurns vif core p).1 := by
  have foremost := @prepareBus_foremost σ vif core p
  unfold busTurns
  generalize prepareBus vif core p = answer at foremost ⊢
  obtain ⟨now, next, ready⟩ := answer
  dsimp only at foremost ⊢
  split
  · exact allForemost_nil
  case isFalse free =>
    simp only [ne_eq, decide_not, Bool.or_eq_true, Bool.not_eq_true', decide_eq_false_iff_not,
      not_or, not_not] at free
    exact startTurns_foremost foremost free.1

theorem pollTurns_foremost (channels : List ChannelIndex) (core : Core σ) :
    AllForemost (pollTurns vif channels core).1 := by
  induction channels generalizing core with
  | nil => exact allForemost_nil
  | cons i rest ih =>
      rw [pollTurns]
      refine AllForemost.append ?_ (ih _)
      unfold serveTurns
      split
      · exact busTurns_foremost core i
      · exact allForemost_nil

theorem runTurns_foremost (drivers : Drivers σ) (core : Core (Station σ)) (moves : List Move) :
    AllForemost (core.runTurns drivers moves) := by
  induction moves generalizing core with
  | nil => exact allForemost_nil
  | cons move moves ih =>
      rw [Core.runTurns]
      refine AllForemost.append ?_ (ih _)
      unfold Core.turns
      split
      · split
        · exact allForemost_nil
        · exact pollTurns_foremost allChannels core
      · exact allForemost_nil

end Submissions

/-! ## Windows of a history -/

/-- A channel's slot, for the job in it. -/
abbrev JobIndex := ChannelIndex × Slot

/-- How often a job has been submitted on a bus and completed without deferral, and whether a
submission of it is under way. -/
structure Rounds where
  underWay : Bool := false
  completed : Nat := 0
  deriving DecidableEq, Repr

def Rounds.change (rounds : Rounds) : JobChange → Rounds
  | .started => { rounds with underWay := false }
  | .transmitted _ _ => rounds
  | .completed _ _ _ =>
    { underWay := false
      completed := if rounds.underWay then rounds.completed + 1 else rounds.completed }
  | .deferred => { rounds with underWay := false }

def Rounds.see (p : ChannelIndex) (job : JobIndex) (rounds : Rounds) : Event → Rounds
  | .scheduled q _ _ _ i slot =>
    if q = p ∧ (i, slot) = job then { rounds with underWay := true } else rounds
  | .job i slot change _ => if (i, slot) = job then rounds.change change else rounds
  | _ => rounds

/-- The submissions of a job on a bus that are completed without deferral in a window. -/
def completions (p : ChannelIndex) (job : JobIndex) (window : List Event) : Nat :=
  (window.foldl (Rounds.see p job) {}).completed

/-- The time of a submission of a job on a bus. -/
def Event.submitted (p : ChannelIndex) (job : JobIndex) : Event → Option Time
  | .scheduled q nowUs _ _ i slot => if q = p ∧ (i, slot) = job then some nowUs else none
  | _ => none

/-- What a change of a job says of its transmission: when it started and ended. -/
def JobChange.times : JobChange → Option (Time × Time)
  | .transmitted startedUs endedUs => some (startedUs, endedUs)
  | .completed _ startedUs endedUs => some (startedUs, endedUs)
  | _ => none

/-- What is reported of a job's transmission. -/
def Event.reported (job : JobIndex) : Event → Option (Time × Time)
  | .job i slot change _ => if (i, slot) = job then change.times else none
  | _ => none

/-- A job is started anew in its slot. -/
def Event.starts (job : JobIndex) : Event → Bool
  | .job i slot change _ => decide ((i, slot) = job) && change = .started
  | _ => false

/-- The times of an event lie within `2 ^ 31` of the base. -/
def Event.Near (base : Time) : Event → Prop
  | .scheduled _ nowUs drained jobs _ _ => OpenDiag.Near base nowUs ∧
    ∀ entry ∈ eligibleJobs nowUs drained jobs, OpenDiag.Near base entry.2.2.dueUs
  | .job _ _ change _ =>
    ∀ times ∈ change.times, OpenDiag.Near base times.1 ∧ OpenDiag.Near base times.2
  | _ => True

/-- A periodic job waits: it is due, active and not in flight when a message is submitted on its
bus, and nothing happens to it. -/
def Event.LeavesWaiting (p : ChannelIndex) (job : JobIndex) : Event → Prop
  | .scheduled q nowUs _ jobs _ _ => q = p → ∃ entry ∈ jobs, entry.1 = job.1 ∧
    (entry.2 job.2).kind = .periodic ∧ (entry.2 job.2).active = true ∧
    (entry.2 job.2).pending = false ∧ expired nowUs (entry.2 job.2).dueUs = true
  | .job i slot _ _ => (i, slot) ≠ job
  | _ => True

/-- A periodic job waits all through a window. -/
def Waits (p : ChannelIndex) (job : JobIndex) (window : List Event) : Prop :=
  ∀ event ∈ window, event.LeavesWaiting p job

/-- What is reported of a job's transmission is not from before a time. -/
def Event.ReportsAfter (base nowUs : Time) (job : JobIndex) (report : Event) : Prop :=
  ∀ times ∈ report.reported job,
    elapsed base nowUs ≤ elapsed base times.1 ∧ elapsed base nowUs ≤ elapsed base times.2

/-- What is reported of a job's transmissions in a window is not from before its submissions. -/
def Timely (base : Time) (p : ChannelIndex) (job : JobIndex) (window : List Event) : Prop :=
  window.Pairwise fun submission report =>
    ∀ nowUs ∈ submission.submitted p job, report.ReportsAfter base nowUs job

instance (base : Time) : (event : Event) → Decidable (event.Near base)
  | .scheduled _ _ _ _ _ _ => inferInstanceAs (Decidable (_ ∧ ∀ _ ∈ _, _))
  | .job _ _ change _ => Option.decidableForallMem change.times
  | .received _ _ | .enqueued _ _ | .marked _ _ | .read _ _ _ | .ended _ _ _ _ _
  | .told _ _ _ | .heard _ _ _ _ | .aged _ _ _ _ | .fed _ _ _ _ _ | .reset _ _ | .flowCompleted _ _ _
  | .flowSubmitted _ _ _ _ => .isTrue trivial

instance (p : ChannelIndex) (job : JobIndex) :
    (event : Event) → Decidable (event.LeavesWaiting p job)
  | .scheduled _ _ _ _ _ _ => inferInstanceAs (Decidable (_ → ∃ _ ∈ _, _))
  | .job _ _ _ _ => inferInstanceAs (Decidable (_ ≠ _))
  | .received _ _ | .enqueued _ _ | .marked _ _ | .read _ _ _ | .ended _ _ _ _ _
  | .told _ _ _ | .heard _ _ _ _ | .aged _ _ _ _ | .fed _ _ _ _ _ | .reset _ _ | .flowCompleted _ _ _
  | .flowSubmitted _ _ _ _ => .isTrue trivial

instance (p : ChannelIndex) (job : JobIndex) (window : List Event) :
    Decidable (Waits p job window) :=
  inferInstanceAs (Decidable (∀ event ∈ window, event.LeavesWaiting p job))

instance (base nowUs : Time) (job : JobIndex) (report : Event) :
    Decidable (report.ReportsAfter base nowUs job) :=
  Option.decidableForallMem (report.reported job)

instance (base : Time) (p : ChannelIndex) (job : JobIndex) (window : List Event) :
    Decidable (Timely base p job window) :=
  have (submission report : Event) :
      Decidable (∀ nowUs ∈ submission.submitted p job, report.ReportsAfter base nowUs job) :=
    Option.decidableForallMem (submission.submitted p job)
  inferInstanceAs (Decidable (window.Pairwise _))

section Windows

variable {base : Time} {p : ChannelIndex} {waiting other : JobIndex} {watch : Watch}
  {rounds : Rounds} {event : Event} {window : List Event}

/-- What is reported of a job in a window is not from before a time, and that time is not before the
waiting job's. -/
def Behind (base : Time) (waiting other : JobIndex) (watch : Watch) (window : List Event) : Prop :=
  ∃ nowUs, elapsed base (watch waiting).dueUs ≤ elapsed base nowUs ∧
    ∀ report ∈ window, report.ReportsAfter base nowUs other

/-- How far a job has come while another waits. Once it has been submitted, its reports move it
behind the other; once it has completed, it is there, if it is active still. -/
structure Progress (base : Time) (waiting other : JobIndex) (watch : Watch) (window : List Event)
    (rounds : Rounds) : Prop where
  few : rounds.completed ≤ 1
  behind : rounds.underWay = true ∨ rounds.completed = 1 →
    Behind base waiting other watch window
  last : rounds.completed = 1 → rounds.underWay = false
  later : rounds.underWay = true ∧ (watch other).reported = true ∨ rounds.completed = 1 →
    (watch other).active = true →
      elapsed base (watch waiting).dueUs < elapsed base (watch other).dueUs

theorem Behind.tail (behind : Behind base waiting other watch (event :: window))
    {next : Watch} (same : (next waiting).dueUs = (watch waiting).dueUs) :
    Behind base waiting other next window := by
  obtain ⟨nowUs, due, reports⟩ := behind
  exact ⟨nowUs, same ▸ due, (List.forall_mem_cons.1 reports).2⟩

/-- An event that is nothing to either job. -/
theorem Progress.skip (progress : Progress base waiting other watch (event :: window) rounds)
    {next : Watch} (due : (next waiting).dueUs = (watch waiting).dueUs)
    (same : next other = watch other) : Progress base waiting other next window rounds where
  few := progress.few
  behind := fun begun => (progress.behind begun).tail due
  last := progress.last
  later := fun come active => by
    rw [due, same] at *
    exact progress.later come active

/-- A report moves a job behind the one that waits. -/
theorem reported_later {nowUs startedUs endedUs : Time} {seen : Seen} {after : Job}
    {bound : ℕ} (bounded : bound ≤ elapsed base nowUs)
    (started : elapsed base nowUs ≤ elapsed base startedUs) (start_near : Near base startedUs)
    (ended : elapsed base nowUs ≤ elapsed base endedUs) (end_near : Near base endedUs)
    (before : seen.active = true → seen.reported = true → bound < elapsed base seen.dueUs)
    (reports : seen.Reports startedUs endedUs after) (active : after.active = true) :
    bound < elapsed base after.dueUs := by
  obtain ⟨was, ⟨least, most⟩, ⟨reported, same⟩ | moved⟩ := reports active
  · rw [same]
    exact before was reported
  · rw [moved]
    split
    · rw [elapsed_add start_near (by omega)]
      omega
    · rw [elapsed_add end_near (by omega)]
      omega

section Picks

variable {nowUs : Time} {drained : Bool} {jobs : List (ChannelIndex × Scheduler)} {i : ChannelIndex}
  {slot : Slot}

/-- At a submission, the job that waits is one of those that the pick is among. -/
theorem Waits.eligible
    (waits : Waits p waiting (.scheduled p nowUs drained jobs i slot :: window))
    (known : ∀ entry ∈ jobs, watch.Knows entry.1 entry.2) :
    ∃ job, (waiting.1, waiting.2, job) ∈ eligibleJobs nowUs drained jobs ∧
      expired nowUs job.dueUs = true ∧ job.dueUs = (watch waiting).dueUs := by
  obtain ⟨⟨j, scheduler⟩, member, rfl, periodic, active, idle, due⟩ :=
    (List.forall_mem_cons.1 waits).1 rfl
  dsimp only at periodic active idle due
  refine ⟨scheduler waiting.2, mem_eligibleJobs.2 ⟨scheduler, member, rfl, ?_⟩, due,
    (known _ member waiting.2 active).2⟩
  simp [Job.eligible, active, idle, due, periodic]

/-- A job that is picked is not behind the one that waits. -/
theorem picked_le
    (waits : Waits p waiting (.scheduled p nowUs drained jobs i slot :: window))
    (allowed : watch.Allows (.scheduled p nowUs drained jobs i slot))
    (near : (Event.scheduled p nowUs drained jobs i slot).Near base) :
    (watch (i, slot)).active = true ∧
      elapsed base (watch (i, slot)).dueUs ≤ elapsed base (watch waiting).dueUs := by
  obtain ⟨known, picked⟩ := allowed
  obtain ⟨job, member, -, due⟩ := waits.eligible known
  obtain ⟨⟨j, other, first⟩, found, same⟩ := Option.map_eq_some_iff.1 picked
  cases same
  have least := firstDue_le (follows_dueUs near.2) found _ member
  obtain ⟨scheduler, inside, rfl, eligible⟩ := mem_eligibleJobs.1 (firstDue_mem found)
  simp only [Job.eligible, Bool.and_eq_true] at eligible
  obtain ⟨active, same⟩ := known _ inside _ eligible.1.1.1
  refine ⟨active, ?_⟩
  dsimp only at least same
  rwa [same, due] at least

/-- The job that waits is due when another is picked. -/
theorem waiting_due
    (waits : Waits p waiting (.scheduled p nowUs drained jobs i slot :: window))
    (allowed : watch.Allows (.scheduled p nowUs drained jobs i slot))
    (near : (Event.scheduled p nowUs drained jobs i slot).Near base) :
    elapsed base (watch waiting).dueUs ≤ elapsed base nowUs := by
  obtain ⟨job, member, due, same⟩ := waits.eligible allowed.1
  rw [← same]
  exact (expired_iff near.1 (near.2 _ member)).1 due

end Picks

/-- A submission keeps the due times. -/
theorem dueUs_submit (watch : Watch) (job index : JobIndex) :
    (Function.update watch job (watch job).submit index).dueUs = (watch index).dueUs := by
  by_cases here : index = job
  · subst here
    rw [Function.update_self]
    rfl
  · rw [Function.update_of_ne here]

theorem Progress.scheduled {q i : ChannelIndex} {nowUs : Time} {drained : Bool}
    {jobs : List (ChannelIndex × Scheduler)} {slot : Slot}
    (progress : Progress base waiting other watch
      (.scheduled q nowUs drained jobs i slot :: window) rounds)
    (waits : Waits p waiting (.scheduled q nowUs drained jobs i slot :: window))
    (timely : Timely base p other (.scheduled q nowUs drained jobs i slot :: window))
    (near : (Event.scheduled q nowUs drained jobs i slot).Near base)
    (allowed : watch.Allows (.scheduled q nowUs drained jobs i slot)) :
    Progress base waiting other (watch.see (.scheduled q nowUs drained jobs i slot)) window
      (rounds.see p other (.scheduled q nowUs drained jobs i slot)) := by
  have due := dueUs_submit watch (i, slot) waiting
  simp only [Rounds.see, Watch.see]
  split
  case isTrue here =>
    obtain ⟨rfl, rfl⟩ := here
    obtain ⟨active, least⟩ := picked_le waits allowed near
    -- A job that has completed is behind the one that waits, and is not picked.
    have none : rounds.completed ≠ 1 := fun one =>
      absurd (progress.later (.inr one) active) (Nat.not_lt.2 least)
    refine ⟨progress.few, fun _ => ⟨nowUs, ?_, ?_⟩, fun one => absurd one none, ?_⟩
    · rw [due]
      exact waiting_due waits allowed near
    · exact fun report member =>
        (List.pairwise_cons.1 timely).1 report member nowUs (by simp [Event.submitted])
    · rintro (⟨-, reported⟩ | one)
      · rw [Function.update_self] at reported
        cases reported
      · exact absurd one none
  case isFalse =>
    by_cases same : (i, slot) = other
    · refine ⟨progress.few, fun begun => (progress.behind begun).tail due, progress.last, ?_⟩
      intro come active
      rw [due, dueUs_submit]
      rw [← same, Function.update_self] at come active
      rcases come with ⟨-, reported⟩ | one
      · cases reported
      · exact progress.later (.inr one) (same ▸ active)
    · exact progress.skip due (Function.update_of_ne (Ne.symm same) _ _)

theorem Progress.changed {change : JobChange} {after : Job}
    (progress : Progress base waiting other watch
      (.job other.1 other.2 change after :: window) rounds)
    (apart : waiting ≠ other)
    (near : (Event.job other.1 other.2 change after).Near base)
    (allowed : watch.Allows (.job other.1 other.2 change after)) (same : change ≠ .started) :
    Progress base waiting other (watch.see (.job other.1 other.2 change after)) window
      (rounds.change change) := by
  have due : (watch.see (.job other.1 other.2 change after) waiting).dueUs =
      (watch waiting).dueUs := by
    rw [Watch.see, Function.update_of_ne apart]
  have own : watch.see (.job other.1 other.2 change after) other =
      (watch other).change change after := by
    rw [Watch.see, Function.update_self]
  -- What a report makes of the job.
  have moved (startedUs endedUs : Time) (times : change.times = some (startedUs, endedUs))
      (reports : (watch other).Reports startedUs endedUs after)
      (begun : rounds.underWay = true ∨ rounds.completed = 1) (active : after.active = true) :
      elapsed base (watch waiting).dueUs < elapsed base after.dueUs := by
    obtain ⟨nowUs, bounded, reported⟩ := progress.behind begun
    obtain ⟨started, ended⟩ :=
      (List.forall_mem_cons.1 reported).1 (startedUs, endedUs) (by simp [Event.reported, times])
    obtain ⟨startNear, endNear⟩ := near (startedUs, endedUs) times
    refine reported_later bounded started startNear ended endNear ?_ reports active
    exact fun was said => progress.later (begun.imp_left fun going => ⟨going, said⟩) was
  cases change with
  | started => exact absurd rfl same
  | transmitted startedUs endedUs =>
      refine ⟨progress.few, fun begun => (progress.behind begun).tail due, progress.last, ?_⟩
      intro come active
      rw [own] at active ⊢
      rw [due]
      exact moved startedUs endedUs rfl allowed (come.imp_left And.left) active
  | completed success startedUs endedUs =>
      have begun (one : (rounds.change (.completed success startedUs endedUs)).completed = 1) :
          rounds.underWay = true ∨ rounds.completed = 1 := by
        by_cases going : rounds.underWay = true
        · exact .inl going
        · exact .inr (by simpa [Rounds.change, going] using one)
      refine ⟨?_, ?_, fun _ => rfl, ?_⟩
      · have few := progress.few
        simp only [Rounds.change]
        split
        case isTrue going =>
          have none : rounds.completed ≠ 1 := fun one =>
            Bool.noConfusion (going.symm.trans (progress.last one))
          omega
        case isFalse => exact few
      · rintro (going | one)
        · cases going
        · exact (progress.behind (begun one)).tail due
      · rintro (⟨going, -⟩ | one) active
        · cases going
        · rw [own] at active ⊢
          rw [due]
          exact moved startedUs endedUs rfl allowed (begun one) active
  | deferred =>
      refine ⟨progress.few, ?_, fun _ => rfl, ?_⟩
      · rintro (going | one)
        · cases going
        · exact (progress.behind (.inr one)).tail due
      · rintro (⟨going, -⟩ | one) active
        · cases going
        · rw [own] at active ⊢
          rw [due]
          obtain ⟨was, kept⟩ := allowed active
          rw [show ((watch other).change .deferred after).dueUs = (watch other).dueUs from kept]
          exact progress.later (.inr one) was

/-- One event of a window. -/
theorem Progress.step (progress : Progress base waiting other watch (event :: window) rounds)
    (waits : Waits p waiting (event :: window)) (timely : Timely base p other (event :: window))
    (near : event.Near base) (allowed : watch.Allows event)
    (same : event.starts other = false) :
    Progress base waiting other (watch.see event) window (rounds.see p other event) := by
  cases event with
  | scheduled q nowUs drained jobs i slot => exact progress.scheduled waits timely near allowed
  | job i slot change after =>
      have left : (i, slot) ≠ waiting := (List.forall_mem_cons.1 waits).1
      simp only [Rounds.see]
      split
      case isTrue here =>
        subst here
        refine progress.changed left.symm near allowed fun started => ?_
        simp [Event.starts, started] at same
      case isFalse elsewhere =>
        refine progress.skip ?_ (Function.update_of_ne (Ne.symm elsewhere) _ _)
        rw [Watch.see, Function.update_of_ne left.symm]
  | _ => exact progress.skip rfl rfl

/-- While a periodic job waits, another job is submitted and completed at most once. -/
theorem completed_le_one (progress : Progress base waiting other watch window rounds)
    (obedient : Obedient Watch.see Watch.Allows watch window) (waits : Waits p waiting window)
    (timely : Timely base p other window) (near : ∀ event ∈ window, event.Near base)
    (same : ∀ event ∈ window, event.starts other = false) :
    (window.foldl (Rounds.see p other) rounds).completed ≤ 1 := by
  induction window generalizing watch rounds with
  | nil => exact progress.few
  | cons event window ih =>
      obtain ⟨allowed, rest⟩ := obedient_cons.1 obedient
      rw [List.forall_mem_cons] at near same
      have next := progress.step waits timely near.1 allowed same.1
      exact ih next rest (List.forall_mem_cons.1 waits).2 (List.pairwise_cons.1 timely).2 near.2
        same.2

theorem Progress.init (watch : Watch) (window : List Event) :
    Progress base waiting other watch window {} :=
  ⟨Nat.zero_le _, by simp, by simp, by simp⟩

end Windows

/-! ## Fairness -/

section Fairness

variable {σ : Type*} (drivers : Drivers σ) (device nextId : UInt32) (env : σ)

/-- In every run, each submission of a scheduled message is of the job with the least due time and
number among all that are eligible on its bus; and all the while that a periodic job waits, every
other job is submitted and completed without deferral at most once. -/
theorem scheduled_jobs_share_bus (moves : List Move) :
    (∀ turn ∈ (Core.opened device nextId env).runTurns drivers moves, ∀ slot,
      turn.slot = some slot → turn.Foremost slot) ∧
    ∀ earlier window later,
      (run (Core.move drivers) (Core.opened device nextId env) moves).log =
        earlier ++ window ++ later →
      ∀ base p waiting other, Waits p waiting window → Timely base p other window →
        (∀ event ∈ window, event.Near base) →
        (∀ event ∈ window, event.starts other = false) →
        completions p other window ≤ 1 := by
  refine ⟨runTurns_foremost drivers _ moves, ?_⟩
  intro earlier window later split base p waiting other waits timely near same
  have obedient := obedient_opened drivers device nextId env moves
  rw [split] at obedient
  have inside : Obedient Watch.see Watch.Allows (earlier.foldl Watch.see fun _ => {}) window :=
    obedient.within
  exact completed_le_one (.init _ _) inside waits timely near same

end Fairness

/-- A CAN channel has two periodic messages, and is polled until the first has been completed. -/
def periodicMoves : List Move :=
  let start (handle : UInt32) : Move := .link (.request 2 (.startPeriodic
    { intervalMs := 5
      message := some { protocol := protocolCan, handle, data := [0, 0, 7, 0xe0, 1] } }))
  [.connect
      { device := 1, protocol := protocolCan, baudrate := 500000, connector := 1, pins := [6, 14] },
    start 1, start 2, .link .poll, .link .poll]

def periodicLog : List Event :=
  (run (Core.move Script.drivers)
    (Core.opened 1 1 { reports := [none, some { complete := true }] }) periodicMoves).log

/-- The first message is submitted and completed once while the second waits. -/
theorem scheduled_jobs_share_bus_periodic :
    completions 0 (0, ⟨0, by decide⟩) ((periodicLog.drop 2).take 3) = 1 := by
  have once : 1 ≤ completions 0 (0, ⟨0, by decide⟩) ((periodicLog.drop 2).take 3) := by
    decide +kernel
  refine Nat.le_antisymm ?_ once
  refine (scheduled_jobs_share_bus Script.drivers 1 1
    { reports := [none, some { complete := true }] }
    periodicMoves).2 (periodicLog.take 2) _ ((periodicLog.drop 2).drop 3) ?_ 0 0 (0, ⟨1, by decide⟩)
    (0, ⟨0, by decide⟩) (by decide +kernel) (by decide +kernel) (by decide +kernel)
    (by decide +kernel)
  rw [List.append_assoc, List.take_append_drop, List.take_append_drop]
  rfl

end OpenDiag.J2534
