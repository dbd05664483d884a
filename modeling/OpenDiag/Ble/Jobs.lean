import Mathlib.Data.List.Basic
import OpenDiag.Lib.Run

/-!
# Jobs for the host task

`ble_job_post` and `ble_job_run` of `ble_uart.c`. The button, the shell and the timers post jobs as
bits of one word, which the host task takes; an event tells it to. Each access to the word and each
operation on the event queue is a step of its own, so a post and a run may be anywhere between two
of theirs.
-/

namespace OpenDiag.Ble

/-- `BLE_JOB_ADV_REFRESH`. -/
def jobAdvRefresh : UInt32 := 1

/-- `BLE_JOB_FORGET_BONDS`. -/
def jobForgetBonds : UInt32 := 2

/-- A bit of a word of jobs. -/
def hasJob (jobs : UInt32) (bit : Nat) : Bool :=
  jobs.toBitVec.getLsbD bit

@[simp] theorem hasJob_or (jobs jobs' : UInt32) (bit : Nat) :
    hasJob (jobs ||| jobs') bit = (hasJob jobs bit || hasJob jobs' bit) :=
  BitVec.getLsbD_or

/-! ## Posts and runs -/

/-- How far a call of `ble_job_post` is: it has loaded the word, has stored it with its job, or has
put the event into the queue. -/
inductive PostPhase where
  | loaded (value : UInt32)
  | stored
  | done
  deriving DecidableEq, Repr

/-- A call of `ble_job_post`, and how often jobs had been taken when it began. -/
structure Post where
  job : UInt32
  since : Nat
  phase : PostPhase
  deriving DecidableEq, Repr

/-- How far the host task is: its event has been dequeued, `ble_job_run` has loaded the word, or it
has cleared it and does the jobs. -/
inductive HostPhase where
  | idle
  | begun
  | loaded (jobs : UInt32)
  | working (jobs : UInt32)
  deriving DecidableEq, Repr

/-- The job to forget the bonds is in a word. -/
def asksToForget (jobs : UInt32) : Bool :=
  jobs &&& jobForgetBonds ≠ 0

/-- How many runs that have the job to forget the bonds are not done yet. -/
def HostPhase.forgetting : HostPhase → Nat
  | .loaded jobs | .working jobs => if asksToForget jobs then 1 else 0
  | .idle | .begun => 0

/-- `g_pending_jobs` and `g_job_ev`, with all calls of `ble_job_post` and all jobs that were taken,
and how often the bonds were forgotten. -/
structure JobQueue where
  jobsReady : Bool := false
  pending : UInt32 := 0
  queued : Bool := false
  host : HostPhase := .idle
  posts : List Post := []
  taken : List UInt32 := []
  forgotten : Nat := 0
  deriving DecidableEq, Repr

inductive JobStep where
  /-- The host's event queue is set up. -/
  | init
  /-- A call of `ble_job_post` loads the word; before the queue is set up it is refused. -/
  | load (job : UInt32)
  | store (post : Nat)
  | put (post : Nat)
  /-- The host task dequeues the event, if there is one. -/
  | dequeue
  | take
  | clear
  /-- The rest of `ble_job_run`. -/
  | finish
  deriving DecidableEq, Repr

namespace JobQueue

/-- `g_pending_jobs |= job`, once the word was loaded. -/
def storeJob (s : JobQueue) (i : Nat) (post : Post) (value : UInt32) : JobQueue :=
  { s with pending := value ||| post.job, posts := s.posts.set i { post with phase := .stored } }

/-- `ble_npl_eventq_put`; an event that is queued already stays as it is. -/
def putEvent (s : JobQueue) (i : Nat) (post : Post) : JobQueue :=
  { s with queued := true, posts := s.posts.set i { post with phase := .done } }

/-- A step of one of the tasks; a task that is not there does nothing. -/
def step (s : JobQueue) : JobStep → JobQueue
  | .init => { s with jobsReady := true }
  | .load job =>
    if s.jobsReady then
      { s with posts := s.posts ++ [{ job, since := s.taken.length, phase := .loaded s.pending }] }
    else s
  | .store i =>
    match s.posts[i]? with
    | some post =>
      match post.phase with
      | .loaded value => s.storeJob i post value
      | _ => s
    | none => s
  | .put i =>
    match s.posts[i]? with
    | some post => if post.phase = .stored then s.putEvent i post else s
    | none => s
  | .dequeue =>
    if s.queued ∧ s.host = .idle then { s with queued := false, host := .begun } else s
  | .take =>
    if s.host = .begun then
      { s with host := .loaded s.pending, taken := s.taken ++ [s.pending] }
    else s
  | .clear =>
    match s.host with
    | .loaded jobs => { s with pending := 0, host := .working jobs }
    | _ => s
  | .finish =>
    match s.host with
    | .working jobs =>
      { s with
        host := .idle
        forgotten := if asksToForget jobs then s.forgotten + 1 else s.forgotten }
    | _ => s

/-! ## Jobs that are not lost -/

/-- A job was among those taken since the post began. -/
def Served (s : JobQueue) (post : Post) (bit : Nat) : Prop :=
  ∃ jobs ∈ s.taken.drop post.since, hasJob jobs bit = true

/-- A job is pending, and the event is queued, or was dequeued by the run that is about to take
it. -/
def Waits (s : JobQueue) (bit : Nat) : Prop :=
  hasJob s.pending bit = true ∧ (s.queued = true ∨ s.host = .begun)

/-- Each job that a completed post asked for has been taken, or waits. -/
def LosesNone (s : JobQueue) : Prop :=
  ∀ post ∈ s.posts, post.phase = .done →
    ∀ bit, hasJob post.job bit = true → s.Served post bit ∨ s.Waits bit

/-- Each run that took the job to forget the bonds has forgotten them, or is about to. -/
def CarriesOut (s : JobQueue) : Prop :=
  s.taken.countP asksToForget = s.forgotten + s.host.forgetting

/-- A post stores the word only while `ble_job_run` is not between its load and its clear, and
leaves out no bit that is pending. -/
def Undisturbed (s : JobQueue) : JobStep → Prop
  | .store i =>
    ∀ post ∈ s.posts[i]?, ∀ value, post.phase = .loaded value →
      (∀ jobs, s.host ≠ .loaded jobs) ∧
        ∀ bit, hasJob s.pending bit = true → hasJob (value ||| post.job) bit = true
  | _ => True

/-- What holds as long as the posts are undisturbed. -/
structure Kept (s : JobQueue) : Prop where
  since : ∀ post ∈ s.posts, post.since ≤ s.taken.length
  stored : ∀ post ∈ s.posts, (∀ value, post.phase ≠ .loaded value) →
    ∀ bit, hasJob post.job bit = true →
      s.Served post bit ∨ hasJob s.pending bit = true ∧ ∀ jobs, s.host ≠ .loaded jobs
  done : s.LosesNone
  carried : s.CarriesOut

theorem kept_empty : Kept {} :=
  ⟨fun _ => nofun, fun _ => nofun, fun _ => nofun, rfl⟩

section Steps

variable {s : JobQueue}

/-- The host task and the event go on, the word stays as it is. -/
theorem Kept.waiting (kept : s.Kept) {queued : Bool} {host : HostPhase} {forgotten : Nat}
    (free : ∀ jobs, host ≠ .loaded jobs)
    (told : s.queued = true ∨ s.host = .begun → queued = true ∨ host = .begun)
    (same : s.forgotten + s.host.forgetting = forgotten + host.forgetting) :
    Kept { s with queued, host, forgotten } where
  since := kept.since
  stored post member phase bit asked :=
    (kept.stored post member phase bit asked).imp_right fun waits => ⟨waits.1, free⟩
  done post member phase bit asked :=
    (kept.done post member phase bit asked).imp_right fun waits => ⟨waits.1, told waits.2⟩
  carried := kept.carried.trans same

/-- A post begins by loading the word; nothing of it is stored yet. -/
theorem Kept.load (kept : s.Kept) (job : UInt32) : Kept (s.step (.load job)) := by
  unfold step
  dsimp only
  split
  · have among : ∀ {post : Post}, (∀ value, post.phase ≠ .loaded value) →
        post ∈ s.posts ++ [{ job, since := s.taken.length, phase := .loaded s.pending }] →
        post ∈ s.posts := by
      intro post phase member
      rcases List.mem_append.1 member with old | new
      · exact old
      · rw [List.mem_singleton] at new
        exact absurd (by rw [new]) (phase s.pending)
    refine ⟨fun post member => ?_, fun post member phase => ?_, fun post member phase => ?_,
      kept.carried⟩
    · rcases List.mem_append.1 member with old | new
      · exact kept.since post old
      · rw [List.mem_singleton] at new
        subst new
        exact Nat.le_refl _
    · exact kept.stored post (among phase member) phase
    · have here := among (fun value => by rw [phase]; exact nofun) member
      exact kept.done post here phase
  · exact kept

/-- A run takes all jobs that are pending, so whatever was stored has been taken since. -/
theorem Kept.take (kept : s.Kept) : Kept (s.step .take) := by
  unfold step
  dsimp only
  split
  · rename_i begun
    have served : ∀ post ∈ s.posts, ∀ bit, hasJob post.job bit = true →
        s.Served post bit ∨ hasJob s.pending bit = true →
        Served { s with host := .loaded s.pending, taken := s.taken ++ [s.pending] } post bit := by
      intro post member bit asked before
      have since := kept.since post member
      rcases before with ⟨jobs, among, has⟩ | waits
      · refine ⟨jobs, ?_, has⟩
        rw [List.drop_append_of_le_length since]
        exact List.mem_append_left _ among
      · refine ⟨s.pending, ?_, waits⟩
        rw [List.drop_append_of_le_length since]
        exact List.mem_append_right _ (List.mem_singleton.2 rfl)
    refine ⟨fun post member => ?_, fun post member phase bit asked => ?_,
      fun post member phase bit asked => ?_, ?_⟩
    · have since := kept.since post member
      rw [List.length_append]
      omega
    · have before := kept.stored post member phase bit asked
      exact .inl (served post member bit asked (before.imp_right And.left))
    · have before := kept.done post member phase bit asked
      exact .inl (served post member bit asked (before.imp_right And.left))
    · have carried : s.taken.countP asksToForget = s.forgotten + s.host.forgetting := kept.carried
      rw [begun] at carried
      simp only [CarriesOut, HostPhase.forgetting, List.countP_append, List.countP_singleton,
        carried, Nat.add_zero]
  · exact kept

/-- A run clears the word, and every job that was in it has been taken. -/
theorem Kept.clear (kept : s.Kept) : Kept (s.step .clear) := by
  unfold step
  dsimp only
  split
  · rename_i jobs taking
    have served : ∀ post ∈ s.posts, (∀ value, post.phase ≠ .loaded value) →
        ∀ bit, hasJob post.job bit = true → s.Served post bit := by
      intro post member phase bit asked
      rcases kept.stored post member phase bit asked with served | waits
      · exact served
      · exact absurd taking (waits.2 jobs)
    refine ⟨kept.since, fun post member phase bit asked => ?_,
      fun post member phase bit asked => ?_, ?_⟩
    · exact .inl (served post member phase bit asked)
    · exact .inl (served post member (fun value => by rw [phase]; exact nofun) bit asked)
    · have carried : s.taken.countP asksToForget = s.forgotten + s.host.forgetting := kept.carried
      rw [taking] at carried
      exact carried
  · exact kept

/-- A post that is undisturbed leaves no pending bit out of what it stores. -/
theorem Kept.store (kept : s.Kept) {i : Nat} (undisturbed : s.Undisturbed (.store i)) :
    Kept (s.step (.store i)) := by
  unfold step
  dsimp only
  split
  · rename_i post here
    split
    · rename_i value loaded
      obtain ⟨free, keeps⟩ := undisturbed post here value loaded
      have member := List.mem_of_getElem? here
      have among : ∀ other ∈ s.posts.set i { post with phase := .stored },
          other ∈ s.posts ∨ other = { post with phase := .stored } := fun other =>
        List.mem_or_eq_of_mem_set
      refine ⟨fun other within => ?_, fun other within phase bit asked => ?_,
        fun other within phase bit asked => ?_, kept.carried⟩
      · rcases among other within with old | rfl
        · exact kept.since other old
        · exact kept.since post member
      · rcases among other within with old | rfl
        · refine (kept.stored other old phase bit asked).imp_right fun waits => ?_
          exact ⟨keeps bit waits.1, free⟩
        · have asked : hasJob post.job bit = true := asked
          refine .inr ⟨?_, free⟩
          simp only [storeJob, hasJob_or, asked, Bool.or_true]
      · rcases among other within with old | rfl
        · refine (kept.done other old phase bit asked).imp_right fun waits => ?_
          exact ⟨keeps bit waits.1, waits.2⟩
        · cases phase
    · exact kept
  · exact kept

/-- Once a post has put the event, its jobs wait for the run that the event tells of. -/
theorem Kept.put (kept : s.Kept) (i : Nat) : Kept (s.step (.put i)) := by
  unfold step
  dsimp only
  split
  · rename_i post here
    split
    · rename_i stored
      have member := List.mem_of_getElem? here
      have own := kept.stored post member fun value => by rw [stored]; exact nofun
      have among : ∀ other ∈ s.posts.set i { post with phase := .done },
          other ∈ s.posts ∨ other = { post with phase := .done } := fun other =>
        List.mem_or_eq_of_mem_set
      refine ⟨fun other within => ?_, fun other within phase bit asked => ?_,
        fun other within phase bit asked => ?_, kept.carried⟩
      · rcases among other within with old | rfl
        · exact kept.since other old
        · exact kept.since post member
      · rcases among other within with old | rfl
        · exact kept.stored other old phase bit asked
        · exact own bit asked
      · rcases among other within with old | rfl
        · refine (kept.done other old phase bit asked).imp_right fun waits => ?_
          exact ⟨waits.1, .inl rfl⟩
        · exact (own bit asked).imp_right fun waits => ⟨waits.1, .inl rfl⟩
    · exact kept
  · exact kept

/-- Every undisturbed step loses no job. -/
theorem Kept.step (kept : s.Kept) (given : JobStep) (undisturbed : s.Undisturbed given) :
    Kept (s.step given) := by
  cases given with
  | init => exact ⟨kept.since, kept.stored, kept.done, kept.carried⟩
  | load job => exact kept.load job
  | store i => exact kept.store undisturbed
  | put i => exact kept.put i
  | dequeue =>
      unfold JobQueue.step
      dsimp only
      split
      · rename_i free
        refine kept.waiting nofun (fun _ => .inr rfl) ?_
        rw [free.2]
        rfl
      · exact kept
  | take => exact kept.take
  | clear => exact kept.clear
  | finish =>
      unfold JobQueue.step
      dsimp only
      split
      · rename_i jobs working
        refine kept.waiting nofun (fun told => told.imp_right fun begun => ?_) ?_
        · rw [begun] at working
          cases working
        · rw [working]
          by_cases asks : asksToForget jobs = true
          · rw [if_pos asks]
            exact congrArg (s.forgotten + ·) (if_pos asks)
          · rw [if_neg asks]
            exact congrArg (s.forgotten + ·) (if_neg asks)
      · exact kept

end Steps

end JobQueue

/-- In every interleaving of posts and runs: as long as each post stores the word only while
`ble_job_run` is not between its load and its clear, and leaves out no pending bit, every job that a
completed post asked for is taken after that post began, or waits for the host task; and each run
that took the job to forget the bonds forgets them. -/
theorem jobs_kept (steps : List JobStep)
    (undisturbed : Admissible JobQueue.Undisturbed JobQueue.step {} steps) :
    let s := run JobQueue.step {} steps
    s.LosesNone ∧ s.CarriesOut := by
  have kept : (run JobQueue.step {} steps).Kept :=
    undisturbed.invariant (fun _ given kept allowed => kept.step given allowed) JobQueue.kept_empty
  exact ⟨kept.done, kept.carried⟩

theorem jobs_kept_forget :
    let s := run JobQueue.step {} [.init, .load (jobForgetBonds ||| jobAdvRefresh), .store 0,
      .put 0, .dequeue, .take, .clear, .finish]
    (s.LosesNone ∧ s.CarriesOut) ∧ s.forgotten = 1 := by
  refine ⟨jobs_kept _ ?_, by decide⟩
  refine ⟨trivial, trivial, ?_, trivial, trivial, trivial, trivial, trivial, trivial⟩
  rintro post - value -
  exact ⟨nofun, fun bit pending => absurd pending (by simp [JobQueue.step, hasJob])⟩

/-- The forget-bonds request is posted between the load and the clear of a run: the run has not seen
it, and clears it. -/
theorem forget_request_lost :
    let s := run JobQueue.step {} [.init, .load jobAdvRefresh, .store 0, .put 0, .dequeue, .take,
      .load (jobForgetBonds ||| jobAdvRefresh), .store 1, .put 1, .clear, .finish, .dequeue, .take,
      .clear, .finish]
    ¬ s.LosesNone ∧ s.forgotten = 0 ∧ s.queued = false ∧ s.host = .idle := by
  intro s
  refine ⟨fun keeps => ?_, by decide, by decide, by decide⟩
  have asked : hasJob (jobForgetBonds ||| jobAdvRefresh) 1 = true := by decide
  have member :
      { job := jobForgetBonds ||| jobAdvRefresh, since := 1, phase := .done } ∈ s.posts := by
    decide
  rcases keeps _ member rfl 1 asked with ⟨jobs, among, has⟩ | waits
  · have later : s.taken.drop 1 = [0] := by decide
    rw [later, List.mem_singleton] at among
    subst among
    exact absurd has (by decide)
  · exact absurd waits.1 (by decide)

end OpenDiag.Ble
