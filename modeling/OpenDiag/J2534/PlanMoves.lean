import OpenDiag.J2534.Planning

/-!
# Every run keeps to the plan

Requests and connections, beside the polls: jobs are started as the history shows, and end. What is
neither started nor stopped by a request stays in its place.
-/

namespace OpenDiag.J2534

/-! ## Requests that leave the objects alone -/

section Steady

variable {σ : Type*} {vif : Vif σ} {core mid next : Core σ} {i : ChannelIndex}

/-- A parameter of a logical channel touches no job and no object. -/
theorem setLogicalParam_calmer (channel : Channel) (param value : UInt32) :
    channel.Calmer (initReceiver (setLogicalParam channel param value)) := by
  unfold setLogicalParam
  extract_lets config
  split_ifs <;> exact ⟨fun _ => .refl _, rfl⟩

/-- A request that starts and stops nothing leaves every object in its place. -/
theorem steady_upkeep (vif : Vif σ) (core : Core σ) : Upkeep (Guard.none vif) (Steady core) where
  changes := fun steady changes => steady.trans changes.steady
  busOn := fun _ steady => steady.env _
  paramGet := fun _ _ steady => steady.env _
  paramSet := fun _ _ _ _ steady => steady.env _
  store := fun i _ _ _ _ steady => steady.plain i ⟨fun _ => .refl _, rfl⟩
  configure := fun i _ _ _ _ steady => steady.plain i (setLogicalParam_calmer _ _ _)

end Steady

/-! ## Requests that start and stop jobs -/

section Requests

variable {σ : Type*} {vif : Vif σ} {core mid next : Core σ} (before : Planned core mid)
  {i : ChannelIndex}
include before

theorem Planned.steady (steady : Steady mid next) : Planned core next :=
  before.trans steady.planned

/-- Jobs may have ended, and nothing has been recorded. -/
theorem Planned.ease (log : next.log = mid.log)
    (quieter : ∀ j slot, ((mid.channels j).scheduler slot).Quieter
      ((next.channels j).scheduler slot)) : Planned core next :=
  before.trans ⟨[], by rw [log, List.append_nil],
    fun _ agrees => ⟨.nil, fun j slot => (agrees j slot).quieter (quieter j slot)⟩⟩

/-- Jobs of one channel may end. -/
theorem Planned.modify {change : Channel → Channel}
    (quieter : ∀ slot, ((mid.channels i).scheduler slot).Quieter
      ((change (mid.channels i)).scheduler slot)) : Planned core (mid.modify i change) := by
  refine before.ease rfl fun j slot => ?_
  by_cases here : j = i
  · subst here
    rw [modify_channels_self]
    exact quieter slot
  · rw [modify_channels_of_ne mid _ here]
    exact .refl _

theorem Planned.env (env : σ) : Planned core { mid with env } :=
  before.steady (.env (.refl mid) env)

/-- An identifier is given without a job being touched. -/
theorem Planned.newId : Planned core (newId mid).2 :=
  before.ease rfl fun _ _ => .refl _

/-- A job is started. -/
theorem Planned.startJob (slot : Slot) {job : Job} (paced : Paced job.intervalUs)
    (current : job.transmissionEnded = false) :
    Planned core (mid.changeJob i slot .started fun _ => job) :=
  before.trans (planned_changeJob mid i slot .started fun _ => ⟨trivial, .started paced current⟩)

/-- A job ends at once. -/
theorem Planned.endJob (slot : Slot) : Planned core (mid.modifyJob i slot fun _ => {}) := by
  refine Planned.modify before fun other => ?_
  by_cases here : other = slot
  · subst here
    simpa using Job.quieter_of_inactive rfl
  · simpa [Function.update_of_ne here] using Job.Quieter.refl _

omit before in
/-- A job begins and ends with the request that says so. -/
theorem planned_upkeep (vif : Vif σ) (core : Core σ) :
    ObjectUpkeep (Guard.none vif) (Planned core) where
  changes := fun planned changes => planned.steady changes.steady
  busOn := fun _ planned => planned.env _
  paramGet := fun _ _ planned => planned.env _
  paramSet := fun _ _ _ _ planned => planned.env _
  store := fun _ _ _ _ _ planned => planned.modify fun _ => .refl _
  configure := fun _ param value _ _ planned =>
    planned.modify (setLogicalParam_calmer _ param value).jobs
  nextId := fun _ planned => planned.ease rfl fun _ _ => .refl _
  start := fun _ slot _ _ _ _ _ paced current planned => planned.startJob slot paced current
  clear := fun _ slot planned => planned.endJob slot
  filter := fun _ _ planned => planned.modify fun _ => .refl _

end Requests

/-! ## Connections -/

section Connections

variable {σ : Type*} {drivers : Drivers σ} {core mid : Core (Station σ)}
  (before : Planned core mid) {i : ChannelIndex}
include before

/-- The jobs of a channel that is released end with it. -/
theorem Planned.releaseChannel : Planned core (releaseChannel mid i) :=
  before.modify fun _ => Job.quieter_of_inactive rfl

/-- So do the jobs of the channels that are disconnected with it. -/
theorem Planned.disconnectChannel : Planned core (disconnectChannel drivers mid i).2 := by
  have cancelled : Planned core (cancelChannelTx drivers.vif mid i) :=
    before.steady (.still (.refl mid) ((Still.refl mid).cancelChannelTx drivers.vif i))
  unfold J2534.disconnectChannel
  extract_lets after
  split
  · dsimp only
    split
    · dsimp only
      refine Planned.releaseChannel ?_
      refine List.foldlRecOn (motive := fun last => Planned core last) _ _ (cancelled.env _) ?_
      intro last planned j _
      split
      · exact planned.releaseChannel
      · exact planned
    · exact cancelled.env _
  · exact cancelled.releaseChannel

/-- A channel is given without jobs. -/
theorem Planned.allocateChannel (logical : Bool) :
    Planned core (allocateChannel drivers mid logical).2 := by
  unfold J2534.allocateChannel
  split
  · exact before
  · dsimp only
    split
    · dsimp only
      exact (Planned.newId (before.env _)).modify fun _ => .refl _
    · exact Planned.releaseChannel (before.env _)

/-- A channel is opened, or taken back, without a job being submitted. -/
theorem Planned.openChannel (bus : Bus) (req : ConnectRequest) :
    Planned core (openChannel drivers mid i bus req).2 := by
  unfold J2534.openChannel
  extract_lets begun
  have opening : Planned core begun := before.modify fun _ => .refl _
  dsimp only
  split
  · split
    · exact opening.env _
    · exact Planned.disconnectChannel (opening.env _)
  · exact Planned.releaseChannel (opening.env _)

/-- A connection starts no job. -/
theorem Planned.connectChannel (req : ConnectRequest) :
    Planned core (connectChannel drivers mid req).2 := by
  unfold J2534.connectChannel
  split
  · exact before
  split
  · exact before
  split
  · exact before
  case h_2 bus _ _ _ =>
    split
    · exact before
    split
    · exact before
    dsimp only
    split
    · exact before.env _
    · have allocated : Planned core (J2534.allocateChannel drivers
          { mid with env := (mid.env.busy drivers bus).2 } false).2 :=
        Planned.allocateChannel (before.env _) false
      generalize J2534.allocateChannel drivers
        { mid with env := (mid.env.busy drivers bus).2 } false = answer at allocated ⊢
      obtain ⟨found, after⟩ := answer
      cases found with
      | none => exact allocated
      | some i => exact allocated.openChannel bus req

/-- Nor does a logical one. -/
theorem Planned.logicalConnect (parent : ChannelIndex) (req : LogicalRequest) :
    Planned core (logicalConnect drivers mid parent req).2 := by
  unfold J2534.logicalConnect
  extract_lets physical
  split
  · exact before
  split
  · exact before
  split
  · exact before
  split
  · exact before
  split
  · exact before
  · have allocated : Planned core (J2534.allocateChannel drivers mid true).2 :=
      before.allocateChannel true
    generalize J2534.allocateChannel drivers mid true = answer at allocated ⊢
    obtain ⟨found, after⟩ := answer
    cases found with
    | none => exact allocated
    | some i => exact allocated.modify fun _ => .refl _

/-- A move of the link. -/
theorem Planned.move (move : Move) : Planned core (mid.move drivers move) := by
  cases move <;> dsimp only [Core.move]
  case connect req =>
    unfold connect
    split
    · exact before
    · exact before.connectChannel req
  case connectLogical physical req =>
    unfold connectLogical
    split
    · exact before
    · split
      · exact before
      · split
        · exact before.logicalConnect _ req
        · exact before
  case disconnect id logical =>
    unfold disconnect
    split
    · exact before
    · split
      · exact before
      · split
        · exact before
        · exact before.disconnectChannel
  case link op =>
    cases op with
    | poll => exact before.steady (.corePoll (.refl mid))
    | request id command => exact (planned_upkeep drivers.vif core).request before id command

end Connections

/-! ## Runs -/

section Runs

variable {σ : Type*} (drivers : Drivers σ)

/-- Every run is planned, by induction on its moves. -/
theorem planned_run (core : Core (Station σ)) (moves : List Move) :
    Planned core (run (Core.move drivers) core moves) := by
  refine run_invariant (fun next => Planned core next) ?_ (.refl core) moves
  exact fun next move planned => planned.move move

/-- Every run of a device that has just been opened keeps to the plan. -/
theorem obedient_opened (device nextId : UInt32) (env : σ) (moves : List Move) :
    Obedient Watch.see Watch.Allows (fun _ => {})
      (run (Core.move drivers) (Core.opened device nextId env) moves).log := by
  obtain ⟨events, log, planned⟩ := planned_run drivers (Core.opened device nextId env) moves
  rw [log]
  exact (planned _ fun _ _ => Job.agrees_of_inactive rfl).1

end Runs

end OpenDiag.J2534
