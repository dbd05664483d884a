import OpenDiag.J2534.Objects
import OpenDiag.J2534.Requests
import OpenDiag.Lib.Least
import OpenDiag.Lib.Monitor

/-!
# The plan of the scheduled messages

What the history says of each job: whether it is active, when it is due, and whether its last
submission has been reported. Every function of the core keeps the jobs in agreement with this, so
that every submission in a history picks its job among the times that the history gives them.
-/

namespace OpenDiag.J2534

/-! ## Selection -/

/-- What `j2534_schedule_next` asks of a job. -/
def Job.eligible (job : Job) (nowUs : Time) (allowRepeat : Bool) : Bool :=
  job.active && !job.pending && expired nowUs job.dueUs && (allowRepeat || job.kind = .periodic)

/-- The jobs that may be sent, with their places. -/
def eligibleJobs (nowUs : Time) (drained : Bool) (jobs : List (ChannelIndex × Scheduler)) :
    List (ChannelIndex × Slot × Job) :=
  jobs.flatMap fun entry =>
    ((List.finRange _).filter fun slot => (entry.2 slot).eligible nowUs drained).map fun slot =>
      (entry.1, slot, entry.2 slot)

/-- What each channel proposes. -/
def proposals (nowUs : Time) (drained : Bool) (jobs : List (ChannelIndex × Scheduler)) :
    List (ChannelIndex × Slot × Job) :=
  jobs.filterMap fun entry =>
    (scheduleNext entry.2 nowUs drained).map fun slot => (entry.1, slot, entry.2 slot)

/-- The first of two jobs, with their places, is to be sent before the second. -/
def entryBefore (entry other : ChannelIndex × Slot × Job) : Bool :=
  entry.2.2.before other.2.2

/-- The first of the proposals. -/
def firstDue (nowUs : Time) (drained : Bool) (jobs : List (ChannelIndex × Scheduler)) :
    Option (ChannelIndex × Slot × Job) :=
  leastOf entryBefore (proposals nowUs drained jobs)

/-- The place of a job. -/
def place (entry : ChannelIndex × Slot × Job) : ChannelIndex × Slot :=
  (entry.1, entry.2.1)

section Selection

variable {scheduler : Scheduler} {nowUs : Time} {drained : Bool}
  {jobs : List (ChannelIndex × Scheduler)} {i : ChannelIndex} {slot : Slot} {job : Job}

/-- The eligible jobs are the jobs of the channels that may be submitted now. -/
theorem mem_eligibleJobs :
    (i, slot, job) ∈ eligibleJobs nowUs drained jobs ↔
      ∃ scheduler, (i, scheduler) ∈ jobs ∧ scheduler slot = job ∧
        job.eligible nowUs drained = true := by
  simp only [eligibleJobs, List.mem_flatMap, List.mem_map, List.mem_filter, List.mem_finRange,
    true_and, Prod.exists, Prod.mk.injEq]
  constructor
  · rintro ⟨_, scheduler, member, _, eligible, rfl, rfl, rfl⟩
    exact ⟨scheduler, member, rfl, eligible⟩
  · rintro ⟨scheduler, member, rfl, eligible⟩
    exact ⟨i, scheduler, member, slot, eligible, rfl, rfl, rfl⟩

/-- `j2534_schedule_next` finds the first of the eligible slots of a channel. -/
theorem scheduleNext_eq_leastOf (scheduler : Scheduler) (nowUs : Time) (allowRepeat : Bool) :
    scheduleNext scheduler nowUs allowRepeat =
      leastOf (fun slot other => (scheduler slot).before (scheduler other))
        ((List.finRange _).filter fun slot => (scheduler slot).eligible nowUs allowRepeat) := by
  rw [scheduleNext, leastOf, List.foldl_filter]
  congr 1
  funext next slot
  have skipped : (!(scheduler slot).active || (scheduler slot).pending ||
      !expired nowUs (scheduler slot).dueUs ||
      (!allowRepeat && decide ((scheduler slot).kind ≠ .periodic))) =
        !(scheduler slot).eligible nowUs allowRepeat := by
    simp [Job.eligible, Bool.or_assoc]
  dsimp only
  rw [skipped]
  cases (scheduler slot).eligible nowUs allowRepeat <;> cases next <;> rfl

/-- A channel proposes one of its eligible jobs. -/
theorem scheduleNext_eligible (next : scheduleNext scheduler nowUs drained = some slot) :
    (scheduler slot).eligible nowUs drained = true := by
  rw [scheduleNext_eq_leastOf] at next
  exact (List.mem_filter.1 (leastOf_mem next)).2

/-- A channel with an eligible job proposes one. -/
theorem scheduleNext_of_eligible (eligible : (scheduler slot).eligible nowUs drained = true) :
    ∃ best, scheduleNext scheduler nowUs drained = some best := by
  cases next : scheduleNext scheduler nowUs drained with
  | some best => exact ⟨best, rfl⟩
  | none =>
      rw [scheduleNext_eq_leastOf, leastOf_eq_none, List.filter_eq_nil_iff] at next
      exact absurd eligible (next slot (List.mem_finRange slot))

/-- Each channel proposes the job that comes first with it. -/
theorem mem_proposals :
    (i, slot, job) ∈ proposals nowUs drained jobs ↔
      ∃ scheduler, (i, scheduler) ∈ jobs ∧ scheduler slot = job ∧
        scheduleNext scheduler nowUs drained = some slot := by
  simp only [proposals, List.mem_filterMap, Option.map_eq_some_iff, Prod.exists, Prod.mk.injEq]
  constructor
  · rintro ⟨_, scheduler, member, _, next, rfl, rfl, rfl⟩
    exact ⟨scheduler, member, rfl, next⟩
  · rintro ⟨scheduler, member, rfl, next⟩
    exact ⟨i, scheduler, member, slot, next, rfl, rfl, rfl⟩

/-- What is proposed is eligible. -/
theorem proposals_subset : proposals nowUs drained jobs ⊆ eligibleJobs nowUs drained jobs := by
  rintro ⟨i, slot, job⟩ member
  obtain ⟨scheduler, inside, rfl, next⟩ := mem_proposals.1 member
  exact mem_eligibleJobs.2 ⟨scheduler, inside, rfl, scheduleNext_eligible next⟩

variable {first : ChannelIndex × Slot × Job}

/-- The first that is due is one of those that may be submitted. -/
theorem firstDue_mem (found : firstDue nowUs drained jobs = some first) :
    first ∈ eligibleJobs nowUs drained jobs :=
  proposals_subset (leastOf_mem found)

/-- The scan over the channels finds a job of least rank among all eligible ones, for every rank
that the comparison of jobs follows on these. -/
theorem firstDue_le {β : Type*} [LinearOrder β] {rank : ChannelIndex × Slot × Job → β}
    (follows : Follows entryBefore rank (eligibleJobs nowUs drained jobs))
    (found : firstDue nowUs drained jobs = some first) :
    ∀ other ∈ eligibleJobs nowUs drained jobs, rank first ≤ rank other := by
  rintro ⟨i, slot, job⟩ member
  obtain ⟨scheduler, inside, rfl, eligible⟩ := mem_eligibleJobs.1 member
  obtain ⟨best, next⟩ := scheduleNext_of_eligible eligible
  -- The channel's own scan, and then the scan over the proposals.
  have within : Follows entryBefore rank
      (((List.finRange _).filter fun slot => (scheduler slot).eligible nowUs drained).map
        fun slot => (i, slot, scheduler slot)) :=
    follows.mono fun entry member => List.mem_flatMap.2 ⟨(i, scheduler), inside, member⟩
  have least : rank (i, best, scheduler best) ≤ rank (i, slot, scheduler slot) :=
    within.of_map.le (by rw [← next, scheduleNext_eq_leastOf]; rfl) slot
      (List.mem_filter.2 ⟨List.mem_finRange slot, eligible⟩)
  exact ((follows.mono proposals_subset).le found _
    (mem_proposals.2 ⟨scheduler, inside, rfl, next⟩)).trans least

end Selection

/-! ## What the history says of a job -/

/-- A job, as the history shows it; `reported` is whether its last submission has been. -/
structure Seen where
  active : Bool := false
  dueUs : Time := 0
  reported : Bool := false
  deriving DecidableEq, Repr

/-- The jobs of all channels. -/
abbrev Watch := ChannelIndex × Slot → Seen

def Seen.submit (seen : Seen) : Seen :=
  { seen with reported := false }

/-- A job after a change. -/
def Seen.change (seen : Seen) (change : JobChange) (after : Job) : Seen where
  active := after.active
  dueUs := after.dueUs
  reported := match change with
    | .started => false
    | .transmitted _ _ => true
    | .completed _ _ _ => true
    | .deferred => seen.reported

def Watch.see (watch : Watch) : Event → Watch
  | .scheduled _ _ _ _ i slot => Function.update watch (i, slot) (watch (i, slot)).submit
  | .job i slot change after =>
    Function.update watch (i, slot) ((watch (i, slot)).change change after)
  | _ => watch

/-- The intervals that the core accepts, in microseconds. -/
def Paced (intervalUs : Time) : Prop :=
  5000 ≤ intervalUs.toNat ∧ intervalUs.toNat ≤ 65535000

/-- A report moves a job one interval behind its transmission, unless it has been reported. -/
def Seen.Reports (seen : Seen) (startedUs endedUs : Time) (after : Job) : Prop :=
  after.active = true → seen.active = true ∧ Paced after.intervalUs ∧
    (seen.reported = true ∧ after.dueUs = seen.dueUs ∨
      after.dueUs = (if after.kind = .periodic then startedUs else endedUs) + after.intervalUs)

/-- What a change makes of a job. -/
def Seen.Allows (seen : Seen) (after : Job) : JobChange → Prop
  | .started => True
  | .transmitted startedUs endedUs => seen.Reports startedUs endedUs after
  | .completed _ startedUs endedUs => seen.Reports startedUs endedUs after
  | .deferred => after.active = true → seen.active = true ∧ after.dueUs = seen.dueUs

/-- The times of the active jobs of a channel are those that the history gives them. -/
def Watch.Knows (watch : Watch) (i : ChannelIndex) (scheduler : Scheduler) : Prop :=
  ∀ slot, (scheduler slot).active = true →
    (watch (i, slot)).active = true ∧ (scheduler slot).dueUs = (watch (i, slot)).dueUs

/-- What the core may do: a submission is of the first job that is due, among the jobs of the
history. -/
def Watch.Allows (watch : Watch) : Event → Prop
  | .scheduled _ nowUs drained jobs i slot =>
    (∀ entry ∈ jobs, watch.Knows entry.1 entry.2) ∧
      (firstDue nowUs drained jobs).map place = some (i, slot)
  | .job i slot change after => (watch (i, slot)).Allows after change
  | _ => True

/-- An event that changes no job. -/
def Event.unplanned : Event → Bool
  | .scheduled _ _ _ _ _ _ => false
  | .job _ _ _ _ => false
  | _ => true

/-- A job is as the history shows it, if it is active. -/
structure Job.Agrees (job : Job) (seen : Seen) : Prop where
  active : job.active = true → seen.active = true
  dueUs : job.active = true → job.dueUs = seen.dueUs
  reported : job.active = true → job.transmissionEnded = true → seen.reported = true
  paced : job.active = true → Paced job.intervalUs

section Changes

variable {job : Job} {seen : Seen}

/-- Of a job that is not active, the history need not show anything. -/
theorem Job.agrees_of_inactive (inactive : job.active = false) : job.Agrees seen :=
  ⟨fun active => absurd active (by simp [inactive]), fun active => absurd active (by simp [inactive]),
    fun active => absurd active (by simp [inactive]),
    fun active => absurd active (by simp [inactive])⟩

/-- A job that is submitted waits for its report, as the history shows. -/
theorem Job.Agrees.submitted (agrees : job.Agrees seen) :
    { job with pending := true, transmissionEnded := false }.Agrees seen.submit :=
  ⟨agrees.active, agrees.dueUs, fun _ => Bool.noConfusion, agrees.paced⟩

/-- A job that is started is shown with its interval and its time. -/
theorem Job.Agrees.started {after : Job} (paced : Paced after.intervalUs)
    (current : after.transmissionEnded = false) : after.Agrees (seen.change .started after) :=
  ⟨fun active => active, fun _ => rfl, fun _ ended => absurd ended (by simp [current]), fun _ => paced⟩

/-- A job that is put off keeps its time, as the plan allows. -/
theorem Job.Agrees.defer (agrees : job.Agrees seen) :
    seen.Allows job.defer .deferred ∧ job.defer.Agrees (seen.change .deferred job.defer) :=
  ⟨fun active => ⟨agrees.active active, agrees.dueUs active⟩, fun active => active, fun _ => rfl,
    agrees.reported, agrees.paced⟩

/-- The report that a transmission has ended moves the time once. -/
theorem Job.Agrees.transmitted (agrees : job.Agrees seen) (startedUs endedUs : Time) :
    seen.Allows (job.transmitted startedUs endedUs) (.transmitted startedUs endedUs) ∧
      (job.transmitted startedUs endedUs).Agrees
        (seen.change (.transmitted startedUs endedUs) (job.transmitted startedUs endedUs)) := by
  rw [Job.transmitted]
  split
  case isTrue same =>
    rw [Bool.and_eq_true] at same
    exact ⟨fun active => ⟨agrees.active active, agrees.paced active,
      .inl ⟨agrees.reported active same.1, agrees.dueUs active⟩⟩,
      fun active => active, fun _ => rfl, fun _ _ => rfl, agrees.paced⟩
  case isFalse =>
    exact ⟨fun active => ⟨agrees.active active, agrees.paced active, .inr rfl⟩,
      fun active => active, fun _ => rfl, fun _ _ => rfl, agrees.paced⟩

/-- A transmission that is done moves the time unless it was moved before, or ends the job. -/
theorem Job.Agrees.complete (agrees : job.Agrees seen) (success : Bool) (startedUs endedUs : Time) :
    seen.Allows (job.complete success startedUs endedUs) (.completed success startedUs endedUs) ∧
      (job.complete success startedUs endedUs).Agrees
        (seen.change (.completed success startedUs endedUs)
          (job.complete success startedUs endedUs)) := by
  rw [Job.complete]
  dsimp only
  split
  · exact ⟨fun active => Bool.noConfusion active, Job.agrees_of_inactive rfl⟩
  · have ended : { job with pending := false }.Agrees seen :=
      ⟨agrees.active, agrees.dueUs, agrees.reported, agrees.paced⟩
    exact ended.transmitted startedUs endedUs

end Changes

end OpenDiag.J2534
