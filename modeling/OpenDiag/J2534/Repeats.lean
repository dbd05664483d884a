import OpenDiag.Can
import OpenDiag.J2534.Scheduler

/-!
# The verdict on a repeat

A message repeated while it is answered needs an answer between the end of its transmission and the
end of the interval after it. The answers and the report of the transmission are collected in any
order. An answer after the report is compared at once; of the answers before it the job keeps the
last, which the report is compared with.
-/

namespace OpenDiag.J2534

/-- A message given to the repeats of a channel. -/
structure Heard where
  data : List UInt8
  flags : UInt32
  timestampUs : Time
  deriving DecidableEq

/-- Messages given to a repeat, one after the other. -/
def Job.hear (job : Job) (events : List Heard) : Job :=
  events.foldl (fun job event => job.receive event.data event.flags event.timestampUs) job

/-- The time of the answer that the job keeps. -/
def Job.recorded (job : Job) : List Time :=
  if job.haveMatch then [job.matchUs] else []

/-- The times of answers. -/
def times (events : List Heard) : List Time :=
  events.map Heard.timestampUs

/-- A time is in the interval after a transmission. -/
def InWindow (endedUs intervalUs time : Time) : Prop :=
  expired time endedUs = true ∧ expired (endedUs + intervalUs) time = true

instance (endedUs intervalUs time : Time) : Decidable (InWindow endedUs intervalUs time) :=
  inferInstanceAs (Decidable (_ ∧ _))

/-! ## Answers -/

/-- What answers leave alone. -/
structure Job.Waits (job next : Job) : Prop where
  kind : next.kind = job.kind
  active : next.active = job.active
  intervalUs : next.intervalUs = job.intervalUs
  createdUs : next.createdUs = job.createdUs
  dueUs : next.dueUs = job.dueUs
  endedUs : next.endedUs = job.endedUs
  sent : next.sent = job.sent
  transmissionEnded : next.transmissionEnded = job.transmissionEnded
  matchFlags : next.matchFlags = job.matchFlags
  mask : next.mask = job.mask
  pattern : next.pattern = job.pattern

theorem Job.Waits.trans {job mid next : Job} (first : job.Waits mid) (second : mid.Waits next) :
    job.Waits next where
  kind := second.kind.trans first.kind
  active := second.active.trans first.active
  intervalUs := second.intervalUs.trans first.intervalUs
  createdUs := second.createdUs.trans first.createdUs
  dueUs := second.dueUs.trans first.dueUs
  endedUs := second.endedUs.trans first.endedUs
  sent := second.sent.trans first.sent
  transmissionEnded := second.transmissionEnded.trans first.transmissionEnded
  matchFlags := second.matchFlags.trans first.matchFlags
  mask := second.mask.trans first.mask
  pattern := second.pattern.trans first.pattern

theorem Job.Waits.refl (job : Job) : job.Waits job := by
  constructor <;> rfl

theorem Job.Waits.matches {job next : Job} (waits : job.Waits next) (data : List UInt8)
    (flags : UInt32) : next.matches data flags = job.matches data flags := by
  simp only [Job.matches, waits.mask, waits.matchFlags, waits.pattern]

/-- An active repeat of the kind that waits for answers. -/
structure Job.Whilst (job : Job) : Prop where
  kind : job.kind = .whileMatch
  active : job.active = true

theorem Job.Waits.whilst {job next : Job} (waits : job.Waits next) (whilst : job.Whilst) :
    next.Whilst :=
  ⟨waits.kind.trans whilst.kind, waits.active.trans whilst.active⟩

section Answers

variable {job : Job} (whilst : job.Whilst)
include whilst

/-- An answer since the job was created is kept, and compared with the last transmission. -/
theorem Job.receive_of_matches {data : List UInt8} {flags : UInt32} {timestampUs : Time}
    (matching : job.matches data flags = true)
    (since : expired timestampUs job.createdUs = true) :
    job.receive data flags timestampUs =
      { job with
        haveMatch := true
        matchUs := timestampUs
        matched := job.matched || (job.sent && expired timestampUs job.endedUs &&
          expired job.dueUs timestampUs) } := by
  simp [Job.receive, whilst.kind, whilst.active, matching, since]

omit whilst in
/-- An answer from before the job was created is ignored. -/
theorem Job.receive_of_earlier {data : List UInt8} {flags : UInt32} {timestampUs : Time}
    (earlier : expired timestampUs job.createdUs = false) :
    job.receive data flags timestampUs = job := by
  simp [Job.receive, earlier]

theorem Job.hear_waits {events : List Heard}
    (matching : ∀ event ∈ events, job.matches event.data event.flags = true) :
    job.Waits (job.hear events) := by
  refine List.foldlRecOn (motive := fun next => job.Waits next) _ _ (.refl job) ?_
  intro next waits event member
  refine waits.trans ?_
  have answers := (waits.matches event.data event.flags).trans (matching event member)
  cases since : expired event.timestampUs next.createdUs with
  | true =>
      rw [receive_of_matches (waits.whilst whilst) answers since]
      constructor <;> rfl
  | false =>
      rw [receive_of_earlier since]
      exact .refl next

/-- The job keeps the last answer. -/
theorem Job.recorded_hear {events : List Heard}
    (matching : ∀ event ∈ events, job.matches event.data event.flags = true) :
    (job.hear events).recorded =
      (job.recorded ++ (times events).filter (expired · job.createdUs)).getLast?.toList := by
  induction events using List.reverseRecOn with
  | nil =>
      change job.recorded = (job.recorded ++ []).getLast?.toList
      rw [List.append_nil, Job.recorded]
      split <;> rfl
  | append_singleton events event ih =>
      rw [List.forall_mem_append, List.forall_mem_singleton] at matching
      have waits := Job.hear_waits whilst matching.1
      have answers := (waits.matches event.data event.flags).trans matching.2
      have next : job.hear (events ++ [event]) =
          (job.hear events).receive event.data event.flags event.timestampUs :=
        List.foldl_concat ..
      rw [next, times, List.map_append, List.filter_append, ← List.append_assoc]
      cases since : expired event.timestampUs job.createdUs with
      | true =>
          rw [receive_of_matches (waits.whilst whilst) answers (waits.createdUs ▸ since)]
          simp [Job.recorded, since]
      | false =>
          rw [receive_of_earlier (waits.createdUs ▸ since)]
          simpa [since, times] using ih matching.1

/-- Once a transmission has been reported, an answer in its interval decides. -/
theorem Job.matched_hear {events : List Heard} (sent : job.sent = true)
    (matching : ∀ event ∈ events, job.matches event.data event.flags = true) :
    (job.hear events).matched = true ↔ job.matched = true ∨
      ∃ time ∈ (times events).filter (expired · job.createdUs),
        expired time job.endedUs = true ∧ expired job.dueUs time = true := by
  induction events using List.reverseRecOn with
  | nil => simp [Job.hear, times]
  | append_singleton events event ih =>
      rw [List.forall_mem_append, List.forall_mem_singleton] at matching
      have waits := Job.hear_waits whilst matching.1
      have answers := (waits.matches event.data event.flags).trans matching.2
      have next : job.hear (events ++ [event]) =
          (job.hear events).receive event.data event.flags event.timestampUs :=
        List.foldl_concat ..
      rw [next, times, List.map_append, List.filter_append]
      cases since : expired event.timestampUs job.createdUs with
      | true =>
          rw [receive_of_matches (waits.whilst whilst) answers (waits.createdUs ▸ since)]
          simp only [List.map_cons, List.map_nil, List.filter_cons, since, if_true, List.filter_nil,
            List.mem_append, List.mem_singleton, or_and_right, exists_or, exists_eq_left,
            Bool.or_eq_true, Bool.and_eq_true, waits.sent, sent, waits.endedUs, waits.dueUs,
            true_and, ih matching.1, times, or_assoc]
      | false =>
          rw [receive_of_earlier (waits.createdUs ▸ since)]
          simpa [since, times] using ih matching.1

end Answers

/-! ## The report -/

/-- The report of the current transmission at some position among the answers. -/
def Job.verdict (job : Job) (events : List Heard) (position : Nat) (startedUs endedUs : Time) :
    Job :=
  ((job.hear (events.take position)).transmitted startedUs endedUs).hear (events.drop position)

/-- Once it has been reported, the job goes on if it has been answered or its time is not up. -/
theorem Job.expire_active {job : Job} (whilst : job.Whilst) (sent : job.sent = true)
    (reported : job.transmissionEnded = true) (nowUs : Time) :
    (job.expire nowUs).active = true ↔
      job.matched = true ∨ expired nowUs job.dueUs = false := by
  rw [Job.expire]
  cases matched : job.matched <;> cases late : expired nowUs job.dueUs <;>
    simp [whilst.kind, whilst.active, sent, reported]

/-- Of times in order, the last before the report and all after it tell whether one is in the
interval, unless one in the interval is followed by one past it. -/
theorem last_answer_iff {base createdUs endedUs intervalUs : Time} {recorded early late : List Time}
    (one : recorded.length ≤ 1)
    (near : ∀ time ∈ [createdUs, endedUs, endedUs + intervalUs] ++ (recorded ++ (early ++ late)),
      Near base time)
    (ordered : (recorded ++ (early ++ late)).Pairwise fun time next => expired next time = true)
    (began : expired endedUs createdUs = true) :
    (((∃ time ∈ (recorded ++ early.filter (expired · createdUs)).getLast?,
          InWindow endedUs intervalUs time) ∨
        ∃ time ∈ late.filter (expired · createdUs), InWindow endedUs intervalUs time) ↔
      ∃ time ∈ recorded ++ (early ++ late), InWindow endedUs intervalUs time) ↔
    ∀ time ∈ recorded ++ early, InWindow endedUs intervalUs time →
      ∀ next ∈ early, expired (endedUs + intervalUs) next = true := by
  have order : ∀ time ∈ [createdUs, endedUs, endedUs + intervalUs] ++
      (recorded ++ (early ++ late)), ∀ next ∈ [createdUs, endedUs, endedUs + intervalUs] ++
      (recorded ++ (early ++ late)), expired time next = true ↔
        elapsed base next ≤ elapsed base time :=
    fun time member next member' => expired_iff (near time member) (near next member')
  simp only [List.mem_append, List.mem_cons, List.not_mem_nil, or_false] at order
  have began := (order _ (by simp) _ (by simp)).1 began
  have since : ∀ time ∈ recorded ++ (early ++ late),
      expired time createdUs = true ↔ elapsed base createdUs ≤ elapsed base time :=
    fun time member => order _ (.inr (by simpa using member)) _ (by simp)
  have inside : ∀ time ∈ recorded ++ (early ++ late), InWindow endedUs intervalUs time ↔
      elapsed base endedUs ≤ elapsed base time ∧
        elapsed base time ≤ elapsed base (endedUs + intervalUs) :=
    fun time member => and_congr (order _ (.inr (by simpa using member)) _ (by simp))
      (order _ (by simp) _ (.inr (by simpa using member)))
  have sorted : (recorded ++ (early ++ late)).Pairwise fun time next =>
      elapsed base time ≤ elapsed base next :=
    ordered.imp_of_mem fun member member' le =>
      (order _ (.inr (by simpa using member')) _ (.inr (by simpa using member))).1 le
  have seen : (recorded ++ early.filter (expired · createdUs)).Sublist
      (recorded ++ (early ++ late)) :=
    (List.Sublist.refl _).append (List.filter_sublist.trans (List.sublist_append_left _ _))
  have upTo : ∀ last ∈ (recorded ++ early.filter (expired · createdUs)).getLast?,
      ∀ time ∈ recorded ++ early.filter (expired · createdUs),
        elapsed base time ≤ elapsed base last := by
    intro last isLast time member
    obtain ⟨init, parts⟩ := List.getLast?_eq_some_iff.1 isLast
    have pairs := sorted.sublist seen
    rw [parts, List.pairwise_append] at pairs
    rw [parts, List.mem_append, List.mem_singleton] at member
    rcases member with member | rfl
    · exact pairs.2.2 time member last (List.mem_singleton_self _)
    · exact le_rfl
  have later : ∀ time ∈ early, ∀ next ∈ late, elapsed base time ≤ elapsed base next :=
    (List.pairwise_append.1 (List.pairwise_append.1 sorted).2.1).2.2
  have first : ∀ time ∈ recorded, ∀ next ∈ early ++ late, elapsed base time ≤ elapsed base next :=
    (List.pairwise_append.1 sorted).2.2
  constructor
  · intro decided time member within next early'
    have all : time ∈ recorded ++ (early ++ late) := by
      rw [← List.append_assoc]
      exact List.mem_append_left _ member
    have all' : next ∈ recorded ++ (early ++ late) := by simp [early']
    rw [order _ (by simp) _ (.inr (by simpa using all'))]
    by_contra past
    obtain ⟨from', until'⟩ := (inside time all).1 within
    have kept : next ∈ recorded ++ early.filter (expired · createdUs) :=
      List.mem_append_right _ (List.mem_filter.2 ⟨early', (since next all').2 (by omega)⟩)
    rcases decided.2 ⟨time, all, within⟩ with ⟨last, isLast, within'⟩ | ⟨answer, member', within'⟩
    · have := upTo last isLast next kept
      have := (inside last (seen.mem (List.mem_of_getLast? isLast))).1 within'
      omega
    · have member' := List.mem_of_mem_filter member'
      have := later next early' answer member'
      have := (inside answer (by simp [member'])).1 within'
      omega
  · intro unpassed
    constructor
    · rintro (⟨last, isLast, within⟩ | ⟨answer, member, within⟩)
      · exact ⟨last, seen.mem (List.mem_of_getLast? isLast), within⟩
      · exact ⟨answer, by simp [List.mem_of_mem_filter member], within⟩
    · rintro ⟨time, member, within⟩
      obtain ⟨from', until'⟩ := (inside time member).1 within
      have valid := (since time member).2 (by omega)
      by_cases late' : time ∈ late
      · exact .inr ⟨time, List.mem_filter.2 ⟨late', valid⟩, within⟩
      have early' : time ∈ recorded ++ early := by
        rw [← List.append_assoc, List.mem_append] at member
        exact member.resolve_right late'
      have kept : time ∈ recorded ++ early.filter (expired · createdUs) := by
        rw [List.mem_append] at early' ⊢
        exact early'.imp_right fun member => List.mem_filter.2 ⟨member, valid⟩
      obtain ⟨last, isLast⟩ : ∃ last, last ∈
          (recorded ++ early.filter (expired · createdUs)).getLast? :=
        Option.isSome_iff_exists.1 (List.getLast?_isSome.2 (List.ne_nil_of_mem kept))
      have member' := List.mem_of_getLast? isLast
      refine .inl ⟨last, isLast, (inside last (seen.mem member')).2 ⟨?_, ?_⟩⟩
      · exact from'.trans (upTo last isLast time kept)
      rcases List.mem_append.1 member' with held | answer
      · -- The answer held from before is the last: it is not after the one in the interval.
        rcases List.mem_append.1 early' with held' | answer'
        · obtain ⟨only, rfl⟩ : ∃ only, recorded = [only] :=
            List.length_eq_one_iff.1 (le_antisymm one (List.length_pos_of_mem held))
          rw [List.mem_singleton] at held held'
          rwa [held, ← held']
        · exact (first last held time (List.mem_append_left _ answer')).trans until'
      · have answer := List.mem_of_mem_filter answer
        have all' : last ∈ recorded ++ (early ++ late) := by simp [answer]
        exact (order _ (by simp) _ (.inr (by simpa using all'))).1
          (unpassed time early' within last answer)

section Report

variable {job : Job} (whilst : job.Whilst) (current : job.transmissionEnded = false)
include whilst current

theorem Job.transmitted_eq (startedUs endedUs : Time) :
    job.transmitted startedUs endedUs =
      { job with
        transmissionEnded := true
        sent := true
        endedUs
        dueUs := endedUs + job.intervalUs
        matched := job.haveMatch && expired job.matchUs endedUs &&
          expired (endedUs + job.intervalUs) job.matchUs } := by
  simp [Job.transmitted, current, whilst.kind]

theorem Job.whilst_transmitted (startedUs endedUs : Time) :
    (job.transmitted startedUs endedUs).Whilst := by
  rw [transmitted_eq whilst current]
  exact ⟨whilst.kind, whilst.active⟩

theorem Job.matches_transmitted (startedUs endedUs : Time) (data : List UInt8) (flags : UInt32) :
    (job.transmitted startedUs endedUs).matches data flags = job.matches data flags := by
  rw [transmitted_eq whilst current]
  rfl

section Verdict

variable {events : List Heard}
  (matching : ∀ event ∈ events, job.matches event.data event.flags = true) (position : Nat)
include matching

omit current in
theorem Job.early_waits : job.Waits (job.hear (events.take position)) :=
  Job.hear_waits whilst fun event member => matching event (List.mem_of_mem_take member)

theorem Job.late_matches (startedUs endedUs : Time) :
    ∀ event ∈ events.drop position,
      ((job.hear (events.take position)).transmitted startedUs endedUs).matches
        event.data event.flags = true := by
  have waits := Job.early_waits whilst matching position
  intro event member
  rw [Job.matches_transmitted (waits.whilst whilst) (waits.transmissionEnded.trans current),
    waits.matches]
  exact matching event (List.mem_of_mem_drop member)

/-- The last answer before the report decides, or any answer after it. -/
theorem Job.matched_verdict (startedUs endedUs : Time) :
    (job.verdict events position startedUs endedUs).matched = true ↔
      (∃ time ∈ (job.recorded ++ (times (events.take position)).filter
          (expired · job.createdUs)).getLast?, InWindow endedUs job.intervalUs time) ∨
        ∃ time ∈ (times (events.drop position)).filter (expired · job.createdUs),
          InWindow endedUs job.intervalUs time := by
  have waits := Job.early_waits whilst matching position
  have whilst' := waits.whilst whilst
  have current' := waits.transmissionEnded.trans current
  have recorded := Job.recorded_hear whilst
    fun event member => matching event (List.mem_of_mem_take (i := position) member)
  have reported := Job.transmitted_eq whilst' current' startedUs endedUs
  have before : (job.hear (events.take position)).haveMatch = true ∧
      InWindow endedUs job.intervalUs (job.hear (events.take position)).matchUs ↔
        ∃ time ∈ (job.recorded ++ (times (events.take position)).filter
          (expired · job.createdUs)).getLast?, InWindow endedUs job.intervalUs time := by
    have kept := congrArg List.head? recorded
    rw [Option.head?_toList] at kept
    rw [← kept, Job.recorded]
    cases (job.hear (events.take position)).haveMatch <;> simp
  rw [Job.verdict, Job.matched_hear (Job.whilst_transmitted whilst' current' _ _)
    (by rw [reported]) (Job.late_matches whilst current matching position _ _), ← before, reported]
  simp only [waits.intervalUs, waits.createdUs, Bool.and_eq_true, InWindow, and_assoc]

theorem Job.expire_verdict (startedUs endedUs nowUs : Time) :
    ((job.verdict events position startedUs endedUs).expire nowUs).active = true ↔
      (job.verdict events position startedUs endedUs).matched = true ∨
        expired nowUs (endedUs + job.intervalUs) = false := by
  have waits := Job.early_waits whilst matching position
  have whilst' := waits.whilst whilst
  have current' := waits.transmissionEnded.trans current
  have reported := Job.transmitted_eq whilst' current' startedUs endedUs
  have after := Job.hear_waits (Job.whilst_transmitted whilst' current' startedUs endedUs)
    (Job.late_matches whilst current matching position startedUs endedUs)
  have due : (job.verdict events position startedUs endedUs).dueUs = endedUs + job.intervalUs :=
    after.dueUs.trans ((congrArg Job.dueUs reported).trans
      (congrArg (endedUs + ·) waits.intervalUs))
  rw [← due]
  exact Job.expire_active (after.whilst (Job.whilst_transmitted whilst' current' _ _))
    (after.sent.trans (congrArg Job.sent reported))
    (after.transmissionEnded.trans (congrArg Job.transmissionEnded reported)) nowUs

end Verdict

/-- The verdict on a repeat is right, at whatever position among the answers the transmission is
reported, if and only if no answer in the interval after the transmission is followed, before the
report, by one past the interval. Times are within `2 ^ 31` of a base; the answer that the job
holds from before counts. -/
theorem Job.verdict_iff {base : Time} {events : List Heard} {position : Nat}
    {startedUs endedUs : Time}
    (matching : ∀ event ∈ events, job.matches event.data event.flags = true)
    (near : ∀ time ∈ [job.createdUs, endedUs, endedUs + job.intervalUs] ++ job.recorded ++
      times events, Near base time)
    (ordered : (job.recorded ++ times events).Pairwise fun time next => expired next time = true)
    (began : expired endedUs job.createdUs = true) :
    (∀ nowUs, ((job.verdict events position startedUs endedUs).expire nowUs).active = true ↔
      (job.verdict events position startedUs endedUs).matched = true ∨
        expired nowUs (endedUs + job.intervalUs) = false) ∧
    (((job.verdict events position startedUs endedUs).matched = true ↔
        ∃ time ∈ job.recorded ++ times events, InWindow endedUs job.intervalUs time) ↔
      ∀ time ∈ job.recorded ++ times (events.take position),
        InWindow endedUs job.intervalUs time →
        ∀ next ∈ times (events.take position),
          expired (endedUs + job.intervalUs) next = true) := by
  refine ⟨Job.expire_verdict whilst current matching position startedUs endedUs, ?_⟩
  rw [Job.matched_verdict whilst current matching position startedUs endedUs]
  have split : times events = times (events.take position) ++ times (events.drop position) := by
    rw [times, times, times, ← List.map_append, List.take_append_drop]
  rw [split] at near ordered ⊢
  refine last_answer_iff ?_ near ordered began
  rw [Job.recorded]
  split <;> simp

end Report

/-- A repeat under way, every 20 ms while answers begin with 0x48. -/
def pendingRepeat : Job :=
  { id := 1, kind := .whileMatch, intervalUs := 20000, active := true, pending := true
    mask := [0xff], pattern := [0x48] }

/-- One answer 1 ms after the end of the transmission, and one 2 ms past the interval. -/
def twoAnswers : List Heard :=
  [{ data := [0x48], flags := 0, timestampUs := 9000 },
    { data := [0x48], flags := 0, timestampUs := 30000 }]

theorem Job.verdict_iff_between_answers :
    (∀ nowUs, ((pendingRepeat.verdict twoAnswers 1 1000 8000).expire nowUs).active = true ↔
      (pendingRepeat.verdict twoAnswers 1 1000 8000).matched = true ∨
        expired nowUs (8000 + 20000) = false) ∧
    (((pendingRepeat.verdict twoAnswers 1 1000 8000).matched = true ↔
        ∃ time ∈ [] ++ times twoAnswers, InWindow 8000 20000 time) ↔
      ∀ time ∈ [] ++ times (twoAnswers.take 1), InWindow 8000 20000 time →
        ∀ next ∈ times (twoAnswers.take 1), expired (8000 + 20000) next = true) :=
  @Job.verdict_iff pendingRepeat ⟨rfl, rfl⟩ rfl 0 twoAnswers 1 1000 8000
    (by decide) (List.forall_iff_forall_mem.1 (by decide)) (by decide) (by decide)

/-- Reported before both answers, the repeat goes on; reported after both, it stops, since only the
second answer is compared. -/
theorem report_after_answers_stops_repeat :
    (pendingRepeat.verdict twoAnswers 0 1000 8000).matched = true ∧
      (pendingRepeat.verdict twoAnswers 2 1000 8000).matched = false ∧
      ((pendingRepeat.verdict twoAnswers 0 1000 8000).expire 30001).active = true ∧
      ((pendingRepeat.verdict twoAnswers 2 1000 8000).expire 30001).active = false := by
  decide

end OpenDiag.J2534
