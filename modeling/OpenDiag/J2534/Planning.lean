import OpenDiag.J2534.PlanRuns
import OpenDiag.J2534.Upkeep

/-!
# Every run keeps to the plan

What is recorded between two states of the core is allowed at its place, and the jobs stay as the
history shows them: for a poll, a request and a connection, and so for every run.
-/

namespace OpenDiag.J2534

/-! ## The relation -/

section Relation

variable {σ : Type*} {core mid next : Core σ}

/-- The jobs are as the history shows them. -/
def Watch.Agrees (watch : Watch) (core : Core σ) : Prop :=
  ∀ i slot, ((core.channels i).scheduler slot).Agrees (watch (i, slot))

/-- What has been recorded since an earlier state is allowed, and the jobs are as it shows them. -/
def Planned (core next : Core σ) : Prop :=
  ∃ events, next.log = core.log ++ events ∧ ∀ watch : Watch, watch.Agrees core →
    Obedient Watch.see Watch.Allows watch events ∧ (events.foldl Watch.see watch).Agrees next

theorem Planned.refl (core : Core σ) : Planned core core :=
  ⟨[], (List.append_nil _).symm, fun _ agrees => ⟨.nil, agrees⟩⟩

/-- What has been planned in two parts is planned as a whole: the second goes on from what the first
shows. -/
theorem Planned.trans (first : Planned core mid) (second : Planned mid next) :
    Planned core next := by
  obtain ⟨events, log, planned⟩ := first
  obtain ⟨events', log', planned'⟩ := second
  refine ⟨events ++ events', by rw [log', log, List.append_assoc], fun watch agrees => ?_⟩
  obtain ⟨obedient, agrees⟩ := planned watch agrees
  obtain ⟨obedient', agrees'⟩ := planned' _ agrees
  rw [List.foldl_append]
  exact ⟨obedient.append obedient', agrees'⟩

/-- Other events show nothing of the jobs. -/
theorem see_of_unplanned {event : Event} (unplanned : event.unplanned = true) (watch : Watch) :
    watch.see event = watch := by
  cases event with
  | scheduled => cases unplanned
  | job => cases unplanned
  | _ => rfl

/-- Other events are allowed at any place. -/
theorem allows_of_unplanned {event : Event} (unplanned : event.unplanned = true) (watch : Watch) :
    watch.Allows event := by
  cases event with
  | scheduled => cases unplanned
  | job => cases unplanned
  | _ => trivial

theorem foldl_see_of_unplanned {events : List Event}
    (unplanned : ∀ event ∈ events, event.unplanned = true) (watch : Watch) :
    events.foldl Watch.see watch = watch := by
  induction events with
  | nil => rfl
  | cons event events ih =>
      rw [List.forall_mem_cons] at unplanned
      rw [List.foldl_cons, see_of_unplanned unplanned.1]
      exact ih unplanned.2

/-- A job that has ended is still as the history shows it. -/
theorem Job.Agrees.quieter {job after : Job} {seen : Seen} (agrees : job.Agrees seen)
    (quieter : job.Quieter after) : after.Agrees seen where
  active := fun active => agrees.active (quieter.active active)
  dueUs := fun active => (quieter.dueUs active).trans (agrees.dueUs (quieter.active active))
  reported := fun active ended =>
    agrees.reported (quieter.active active) (quieter.ended active ended)
  paced := fun active => by
    rw [quieter.intervalUs active]
    exact agrees.paced (quieter.active active)

/-- What only ends jobs is planned. -/
theorem Calm.planned (calm : Calm core next) : Planned core next := by
  obtain ⟨events, log, unplanned⟩ := calm.log
  refine ⟨events, log, fun watch agrees => ⟨?_, ?_⟩⟩
  · intro earlier event later split
    exact allows_of_unplanned (unplanned event (by simp [split])) _
  · rw [foldl_see_of_unplanned unplanned]
    exact fun i slot => (agrees i slot).quieter ((calm.calmer i).jobs slot)

/-- What is done on a poll is planned, and leaves every object in its place. -/
structure Steady (core next : Core σ) : Prop where
  planned : Planned core next
  tables : next.tables = core.tables

theorem Steady.refl (core : Core σ) : Steady core core :=
  ⟨.refl core, rfl⟩

theorem Steady.trans (first : Steady core mid) (second : Steady mid next) : Steady core next :=
  ⟨first.planned.trans second.planned, second.tables.trans first.tables⟩

/-- What only ends jobs leaves the objects in their places. -/
theorem Calm.steady (calm : Calm core next) : Steady core next :=
  ⟨calm.planned, calm.tables⟩

variable (before : Steady core mid)
include before

theorem Steady.calm (calm : Calm mid next) : Steady core next :=
  before.trans calm.steady

theorem Steady.still (still : Still mid next) : Steady core next :=
  before.calm still.calm

theorem Steady.env (env : σ) : Steady core { mid with env } :=
  before.still (.env (.refl mid) env)

/-- A channel changes where no job is submitted or moved. -/
theorem Steady.plain (i : ChannelIndex) {change : Channel → Channel}
    (calmer : (mid.channels i).Calmer (change (mid.channels i))) :
    Steady core (mid.modify i change) :=
  before.calm ((Calm.refl mid).modify i calmer)

omit before in
/-- One job has changed, as the history shows. -/
theorem agrees_modifyJob {watch : Watch} (agrees : watch.Agrees mid) (i : ChannelIndex)
    (slot : Slot) {change : Job → Job} {seen : Seen}
    (changed : (change ((mid.channels i).scheduler slot)).Agrees seen) :
    Watch.Agrees (Function.update watch (i, slot) seen) (mid.modifyJob i slot change) := by
  intro j other
  by_cases here : j = i
  · subst here
    by_cases same : other = slot
    · subst same
      simpa [Core.modifyJob, Core.modify] using changed
    · have apart : (j, other) ≠ (j, slot) := fun equal => same (congrArg Prod.snd equal)
      rw [Function.update_of_ne apart]
      simpa [Core.modifyJob, Core.modify, Function.update_of_ne same] using agrees j other
  · have apart : (j, other) ≠ (i, slot) := fun equal => here (congrArg Prod.fst equal)
    rw [Function.update_of_ne apart]
    simpa [Core.modifyJob, Core.modify, Function.update_of_ne here] using agrees j other

omit before in
/-- A change of a job that the plan allows is recorded, and the job is as the record shows. -/
theorem planned_changeJob (core : Core σ) (i : ChannelIndex) (slot : Slot) (what : JobChange)
    {change : Job → Job}
    (fits : ∀ {job seen}, job.Agrees seen →
      seen.Allows (change job) what ∧ (change job).Agrees (seen.change what (change job))) :
    Planned core (core.changeJob i slot what change) := by
  refine ⟨[_], rfl, fun watch agrees => ?_⟩
  obtain ⟨allowed, changed⟩ := fits (agrees i slot)
  exact ⟨.singleton allowed, agrees_modifyJob agrees i slot changed⟩

omit before in
/-- A job that keeps its name stays in its place. -/
theorem tables_modifyJob (core : Core σ) (i : ChannelIndex) (slot : Slot) {change : Job → Job}
    (named : ∀ job, (change job).name = job.name) :
    (core.modifyJob i slot change).tables = core.tables := by
  refine tables_modify_of_same ?_
  unfold Channel.objects
  congr 1
  funext other
  by_cases here : other = slot
  · subst here
    simpa using named _
  · simp [Function.update_of_ne here]

/-- A job stays, and changes as the history shows. -/
theorem Steady.changeJob (i : ChannelIndex) (slot : Slot) (what : JobChange) {change : Job → Job}
    (fits : ∀ {job seen}, job.Agrees seen →
      seen.Allows (change job) what ∧ (change job).Agrees (seen.change what (change job)))
    (named : ∀ job, (change job).name = job.name) :
    Steady core (mid.changeJob i slot what change) :=
  before.trans ⟨planned_changeJob mid i slot what fits, tables_modifyJob mid i slot named⟩

/-- A submission is recorded with what it was picked among. -/
theorem Steady.pick (p : ChannelIndex) (now : Time) {i : ChannelIndex} {slot : Slot}
    (picked : (firstDue now (mid.channels p).rxDrained (busJobs mid p)).map place = some (i, slot))
    (env : σ) {change : Job → Job}
    (submitted : ∀ {job seen}, job.Agrees seen → (change job).Agrees seen.submit)
    (named : ∀ job, (change job).name = job.name) :
    Steady core (({ recordPick mid p now i slot with env }).modifyJob i slot change) := by
  refine before.trans ⟨⟨[_], rfl, fun watch agrees => ⟨.singleton ⟨?_, picked⟩, ?_⟩⟩,
    tables_modifyJob { recordPick mid p now i slot with env } i slot named⟩
  · intro entry member slot active
    obtain ⟨j, _, rfl⟩ := List.mem_map.1 member
    exact ⟨(agrees j slot).active active, (agrees j slot).dueUs active⟩
  · have same : watch.Agrees { recordPick mid p now i slot with env } := agrees
    exact agrees_modifyJob same i slot (submitted (agrees i slot))

end Relation

/-! ## Transmissions -/

/-- A transmission that has ended leaves its job in its place. -/
theorem Job.transmitted_name (job : Job) (startedUs endedUs : Time) :
    (job.transmitted startedUs endedUs).name = job.name := by
  unfold Job.transmitted
  split <;> rfl

/-- So does one that is done. -/
theorem Job.complete_name (job : Job) (success : Bool) (startedUs endedUs : Time) :
    (job.complete success startedUs endedUs).name = job.name := by
  unfold Job.complete
  dsimp only
  split
  · rfl
  · exact Job.transmitted_name _ _ _

section Changes

variable {σ : Type*} {vif : Vif σ} {guard : Guard vif} {within : Matter → Bool}
  {core mid next : Core σ}

/-- A job changes as the history tells of it, or the jobs only end. -/
theorem Core.Change.steady (change : Core.Change guard within core next) : Steady core next := by
  have here : Steady core core := .refl core
  cases change with
  | call => exact here.env _
  | note noted => exact here.still ((Still.refl core).record (Event.unplanned_of_note noted))
  | touch i aside => exact here.still ((Still.refl core).modify i aside.held)
  | enqueue => exact here.still ((Still.refl core).enqueue ..)
  | lapse i change fits lapses => exact here.plain i (.of_lapses lapses rfl)
  | lose i lost fits =>
      refine Calm.steady (Calm.record ((Calm.refl core).modify i ?_) rfl)
      exact .of_lapses (scheduleReceiveLost_lapses _) rfl
  | job i slot what goes fits =>
      cases what with
      | started => exact absurd rfl goes
      | transmitted =>
          exact here.changeJob i slot _ (fun agrees => agrees.transmitted _ _)
            fun job => job.transmitted_name ..
      | completed =>
          exact here.changeJob i slot _ (fun agrees => agrees.complete _ _ _)
            fun job => job.complete_name ..
      | deferred => exact here.changeJob i slot _ Job.Agrees.defer fun _ => rfl
  | receive => exact here.still (.record (.refl core) rfl)
  | drain p => exact here.plain p ⟨fun _ => .refl _, rfl⟩
  | begin p => exact here.plain p ⟨fun _ => .refl _, rfl⟩

/-- Any number of changes, by induction on the changes. -/
theorem Core.Changes.steady (changes : Core.Changes guard within core next) : Steady core next := by
  induction changes with
  | refl => exact .refl core
  | tail _ change ih => exact ih.trans change.steady

variable (before : Steady core mid)
include before

/-- A result is collected for a job as it is for any other sender. -/
theorem Steady.collectBusTx (p : ChannelIndex) : Steady core (collectBusTx vif mid p) := by
  have walked : Core.Changes (Guard.none vif) Matter.isService mid (J2534.collectBusTx vif mid p) :=
    .collectBusTx (.refl mid) p (fun _ => rfl) fun _ => rfl
  exact before.trans walked.steady

/-- Where a transmission is refused at once, its job changes as at its end. -/
theorem Steady.submitBusTx (i : ChannelIndex) (kind : TxKind) (job handle : UInt32) (msg : BusTx)
    (busFlags : UInt32) : Steady core (submitBusTx vif mid i kind job handle msg busFlags) := by
  have walked : Core.Changes (Guard.none vif) Matter.isService mid
      (J2534.submitBusTx vif mid i kind job handle msg busFlags) :=
    .submitBusTx (.refl mid) i kind job handle msg busFlags rfl (fun _ => ⟨rfl, rfl⟩)
      fun _ _ => trivial
  exact before.trans walked.steady

/-- What is received may end jobs. -/
theorem Steady.pollRx (p : ChannelIndex) : Steady core (pollRx vif mid p) := by
  have walked : Core.Changes (Guard.none vif) Matter.isService mid (J2534.pollRx vif mid p) :=
    .pollRx (.refl mid) rfl rfl rfl rfl p
  exact before.trans walked.steady

omit before in
/-- To make the frames of a scheduled message, only the vehicle interface is asked. -/
theorem scheduledTx_env (i : ChannelIndex) (slot : Slot) :
    ∃ env, (scheduledTx vif core i slot).2 = { core with env } := by
  unfold scheduledTx
  dsimp only
  split
  · split
    · exact ⟨_, rfl⟩
    · split <;> exact ⟨_, rfl⟩
  · split <;> exact ⟨core.env, rfl⟩

/-- What has been picked is submitted. -/
theorem Steady.submitPicked (p : ChannelIndex) (now : Time) {i : ChannelIndex} {slot : Slot}
    (picked : (firstDue now (mid.channels p).rxDrained (busJobs mid p)).map place =
      some (i, slot)) :
    Steady core (submitScheduled vif (recordPick mid p now i slot) i slot) := by
  unfold submitScheduled
  extract_lets job
  obtain ⟨env, same⟩ := @scheduledTx_env σ vif (recordPick mid p now i slot) i slot
  generalize scheduledTx vif (recordPick mid p now i slot) i slot = answer at same
  obtain ⟨msg, after⟩ := answer
  dsimp only at same ⊢
  subst same
  cases msg with
  | none => exact before.pick p now picked env (fun _ => Job.agrees_of_inactive rfl) fun _ => rfl
  | some msg =>
      exact (before.pick p now picked env (fun agrees => agrees.submitted)
        fun _ => rfl).submitBusTx i _ _ _ _ _

end Changes

/-! ## The pick -/

section Pick

variable {σ : Type*} {vif : Vif σ} {core mid : Core σ} {p : ChannelIndex} {now : Time}

/-- The pick is the first of the jobs that are due on the bus. -/
def Foremost (core : Core σ) (p : ChannelIndex) (now : Time)
    (next : Option (ChannelIndex × Slot)) : Prop :=
  (firstDue now (core.channels p).rxDrained (busJobs core p)).map place = next

/-- A pick is still the first that is due after what selection does not notice. -/
theorem Still.foremost {next : Option (ChannelIndex × Slot)} (still : Still core mid)
    (foremost : Foremost core p now next) : Foremost mid p now next := by
  rw [Foremost, still.busJobs p, (still.held p).rxDrained]
  exact foremost

/-- A job with its place. -/
def entryOf (core : Core σ) (pick : ChannelIndex × Slot) : ChannelIndex × Slot × Job :=
  (pick.1, pick.2, (core.channels pick.1).scheduler pick.2)

/-- The jobs of the channels of a bus, among some. -/
def jobsOf (core : Core σ) (p : ChannelIndex) (channels : List ChannelIndex) :
    List (ChannelIndex × Scheduler) :=
  (channels.filter (onBus core p)).map fun i => (i, (core.channels i).scheduler)

/-- What has been picked from the channels that have been checked. -/
structure Checked (p : ChannelIndex) (now : Time) (core : Core σ) (done : List ChannelIndex)
    (state : Core σ × Option (ChannelIndex × Slot)) : Prop where
  calm : Calm core state.1
  drained : (state.1.channels p).rxDrained = (core.channels p).rxDrained
  first : state.2.map (entryOf state.1) =
    firstDue now (core.channels p).rxDrained (jobsOf state.1 p done)

/-- Jobs that end move no channel to another bus. -/
theorem Calm.onBus (calm : Calm core mid) (p i : ChannelIndex) :
    onBus mid p i = onBus core p i :=
  onBus_of_ids (fun j => (calm.calmer j).id) (fun j => (calm.calmer j).parent) p i

/-- Only the jobs of the channel that is checked change, and of no other is the pick. -/
theorem jobsOf_of_others {done : List ChannelIndex} {i : ChannelIndex} (calm : Calm core mid)
    (others : ∀ j ≠ i, mid.channels j = core.channels j) (fresh : i ∉ done) :
    jobsOf mid p done = jobsOf core p done := by
  have same : J2534.onBus mid p = J2534.onBus core p := funext (calm.onBus p)
  rw [jobsOf, jobsOf, same]
  refine List.map_congr_left fun j member => ?_
  have apart : j ≠ i := by
    rintro rfl
    exact fresh (List.mem_filter.1 member).1
  rw [others j apart]

/-- One more channel brings its jobs, if it is on the bus. -/
theorem jobsOf_concat (core : Core σ) (p : ChannelIndex) (done : List ChannelIndex)
    (i : ChannelIndex) :
    jobsOf core p (done ++ [i]) =
      jobsOf core p done ++
        if onBus core p i = true then [(i, (core.channels i).scheduler)] else [] := by
  rw [jobsOf, jobsOf, List.filter_append, List.map_append, List.filter_singleton]
  cases onBus core p i <;> rfl

/-- The jobs of one more channel propose one more candidate at most, and it has to come first. -/
theorem firstDue_concat (now : Time) (drained : Bool) (jobs : List (ChannelIndex × Scheduler))
    (i : ChannelIndex) (scheduler : Scheduler) :
    firstDue now drained (jobs ++ [(i, scheduler)]) =
      match scheduleNext scheduler now drained with
      | none => firstDue now drained jobs
      | some slot => keepFirst entryBefore (firstDue now drained jobs) (i, slot, scheduler slot) := by
  rw [firstDue, firstDue, proposals, List.filterMap_append]
  cases next : scheduleNext scheduler now drained with
  | none => simp [next, proposals]
  | some slot =>
      simp only [List.filterMap_cons, List.filterMap_nil, next, Option.map_some]
      rw [leastOf_concat]
      rfl

/-- A channel is checked. -/
theorem Checked.checkChannel {done : List ChannelIndex}
    {state : Core σ × Option (ChannelIndex × Slot)} (checked : Checked p now core done state)
    {i : ChannelIndex} (fresh : i ∉ done) :
    Checked p now core (done ++ [i]) (checkChannel p now state i) := by
  obtain ⟨calm, drained, first⟩ := checked
  obtain ⟨mid, next⟩ := state
  dsimp only at calm drained first
  unfold J2534.checkChannel
  dsimp -zeta only
  split
  case isTrue off =>
    rw [Bool.not_eq_true'] at off
    refine ⟨calm, drained, ?_⟩
    rw [jobsOf_concat, off]
    simpa using first
  case isFalse on =>
    rw [Bool.not_eq_true', Bool.not_eq_false] at on
    extract_lets channel aged allowed expired
    have aging : Calm mid aged ∧ (∀ j ≠ i, aged.channels j = mid.channels j) ∧
        (aged.channels p).rxDrained = (mid.channels p).rxDrained := by
      unfold aged
      split
      · refine ⟨((Calm.refl mid).modify i ⟨fun _ => .refl _, rfl⟩).record rfl,
          fun j other => by simp [Core.record, modify_channels_of_ne mid _ other], ?_⟩
        by_cases here : p = i
        · subst here
          simp [Core.record, Core.modify]
        · simp [Core.record, Core.modify, Function.update_of_ne here]
      · exact ⟨.refl mid, fun _ _ => rfl, rfl⟩
    have expiring : Calm mid expired ∧ (∀ j ≠ i, expired.channels j = mid.channels j) ∧
        (expired.channels p).rxDrained = (mid.channels p).rxDrained := by
      unfold expired
      split
      · refine ⟨aging.1.modify i (.of_lapses (scheduleExpire_lapses _ now) rfl),
          fun j other => (modify_channels_of_ne aged _ other).trans (aging.2.1 j other), ?_⟩
        rw [← aging.2.2]
        by_cases here : p = i
        · subst here
          simp [Core.modify]
        · simp [Core.modify, Function.update_of_ne here]
      · exact aging
    obtain ⟨quiet, others, same⟩ := expiring
    have permitted : allowed = (core.channels p).rxDrained := aging.2.2.trans drained
    have taken : jobsOf expired p (done ++ [i]) =
        jobsOf mid p done ++ [(i, (expired.channels i).scheduler)] := by
      rw [jobsOf_concat, jobsOf_of_others quiet others fresh, quiet.onBus, on, if_pos rfl]
    -- What was picked before is a job of a channel that has been checked already.
    have kept : next.map (entryOf expired) = next.map (entryOf mid) := by
      cases next with
      | none => rfl
      | some pick =>
          rw [Option.map_some] at first
          obtain ⟨scheduler, member, -⟩ := mem_eligibleJobs.1 (firstDue_mem first.symm)
          obtain ⟨j, checked, pair⟩ := List.mem_map.1 member
          have place : j = pick.1 := congrArg Prod.fst pair
          have apart : pick.1 ≠ i := by
            rintro rfl
            exact fresh (place ▸ (List.mem_filter.1 checked).1)
          simp only [Option.map_some, entryOf, others _ apart]
    rw [permitted]
    cases found : scheduleNext (expired.channels i).scheduler now (core.channels p).rxDrained with
    | none =>
        refine ⟨calm.trans quiet, same.trans drained, ?_⟩
        dsimp only
        rw [taken, firstDue_concat, found, kept]
        exact first
    | some slot =>
        have step : firstDue now (core.channels p).rxDrained (jobsOf expired p (done ++ [i])) =
            keepFirst entryBefore (next.map (entryOf expired)) (entryOf expired (i, slot)) := by
          rw [taken, firstDue_concat, found, kept, first]
          rfl
        cases next with
        | none => exact ⟨calm.trans quiet, same.trans drained, step.symm⟩
        | some pick =>
            rw [Option.map_some, keepFirst] at step
            dsimp only at step ⊢
            split
            case isTrue earlier =>
              rw [if_pos (by exact earlier)] at step
              exact ⟨calm.trans quiet, same.trans drained, step.symm⟩
            case isFalse later =>
              rw [if_neg (by exact later)] at step
              exact ⟨calm.trans quiet, same.trans drained, step.symm⟩

/-- Once every channel has been checked the pick is the first of all, by induction on those
checked. -/
theorem checkChannels_checked (p : ChannelIndex) (now : Time) (core : Core σ) :
    Checked p now core allChannels (allChannels.foldl (checkChannel p now) (core, none)) := by
  suffices prefixes : ∀ channels : List ChannelIndex, channels.Nodup →
      Checked p now core channels (channels.foldl (checkChannel p now) (core, none)) from
    prefixes allChannels (List.nodup_finRange _)
  intro channels
  induction channels using List.reverseRecOn with
  | nil => exact fun _ => ⟨.refl core, rfl, rfl⟩
  | append_singleton done i ih =>
      intro distinct
      rw [List.foldl_append]
      have apart := List.nodup_append.1 distinct
      exact (ih apart.1).checkChannel fun member =>
        apart.2.2 i member i (List.mem_singleton_self i) rfl

/-- The pick with which a pass begins is the first that is due. -/
theorem prepareBus_foremost (core : Core σ) (p : ChannelIndex) :
    Foremost (prepareBus vif core p).2.2 p (prepareBus vif core p).1
      (prepareBus vif core p).2.1 := by
  unfold J2534.prepareBus
  extract_lets collected received
  generalize received.now vif = timed
  dsimp only
  have checked := checkChannels_checked p timed.1 timed.2
  generalize allChannels.foldl (checkChannel p timed.1) (timed.2, none) = state at checked ⊢
  refine ((Still.refl state.1).cancelEnded vif p).foremost ?_
  rw [Foremost, checked.drained]
  have first := congrArg (Option.map place) checked.first
  rw [Option.map_map] at first
  refine first.symm.trans ?_
  cases state.2 <;> rfl

end Pick

/-! ## Polls -/

section Polls

variable {σ : Type*} {vif : Vif σ} {core mid : Core σ}

/-- In a pass at most what was picked is submitted, and it was picked among the jobs as they are. -/
theorem Steady.startTransmission (before : Steady core mid) {p : ChannelIndex} {now : Time}
    {next : Option (ChannelIndex × Slot)} (foremost : Foremost mid p now next)
    (idle : (mid.channels p).pending.kind = .none) :
    Steady core (startTransmission vif mid p now next) := by
  unfold J2534.startTransmission
  extract_lets flowed
  have flowing : Still mid flowed :=
    (Still.refl mid).serviceFlow vif p _ fun kind => TxKind.noConfusion (idle.symm.trans kind)
  split
  · exact before.still flowing
  · cases next with
    | none =>
        exact ((before.still flowing).still ((Still.refl flowed).serviceTx vif p _ _)).collectBusTx p
    | some pick =>
        exact ((before.still flowing).submitPicked p now (flowing.foremost foremost)).collectBusTx p

/-- Before the pick, results are collected, the bus is polled and jobs expire. -/
theorem Steady.prepareBus (before : Steady core mid) (p : ChannelIndex) :
    Steady core (prepareBus vif mid p).2.2 := by
  unfold J2534.prepareBus
  extract_lets collected received
  have arrived : Steady core received := (before.collectBusTx p).pollRx p
  have timed : Steady core (received.now vif).2 := arrived.env _
  generalize received.now vif = clock at timed ⊢
  dsimp only
  exact (timed.calm (checkChannels_checked p clock.1 clock.2).calm).still
    ((Still.refl _).cancelEnded vif p)

/-- A bus is serviced as planned. -/
theorem Steady.serviceBus (before : Steady core mid) (p : ChannelIndex) :
    Steady core (serviceBus vif mid p) := by
  have prepared : Steady core (J2534.prepareBus vif mid p).2.2 := before.prepareBus p
  have foremost := @prepareBus_foremost σ vif mid p
  rw [← busTurns_core]
  unfold busTurns
  generalize J2534.prepareBus vif mid p = answer at prepared foremost ⊢
  obtain ⟨now, next, ready⟩ := answer
  dsimp only at prepared foremost ⊢
  split
  · exact prepared
  case isFalse free =>
    simp only [ne_eq, decide_not, Bool.or_eq_true, Bool.not_eq_true', decide_eq_false_iff_not,
      not_or, not_not] at free
    rw [startTurns_core]
    exact prepared.startTransmission foremost free.1

/-- And so are all buses, one after another. -/
theorem Steady.corePoll (before : Steady core mid) : Steady core (corePoll vif mid) := by
  unfold J2534.corePoll
  split
  · exact before
  · refine List.foldlRecOn (motive := fun last => Steady core last) _ _ before ?_
    intro last planned i _
    split
    · exact planned.serviceBus i
    · exact planned

end Polls

end OpenDiag.J2534
