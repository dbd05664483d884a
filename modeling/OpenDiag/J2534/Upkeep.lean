import OpenDiag.J2534.Tending

/-!
# What requests keep

A property of the core is kept by every request as soon as it is kept by what service changes and by
the few things that requests do beside: store a message that has been accepted, configure a logical
channel and give a driver a parameter, and then those that give and take the objects of a client:
start or clear a job, and set the filters.
-/

namespace OpenDiag.J2534

section Rule

variable {σ : Type*} {vif : Vif σ}

/-- `configure_logical` accepts the value of a parameter. -/
def acceptsParam (channel : Channel) (param value : UInt32) : Prop :=
  (logicalParam channel param).isSome ∧
    ¬ ((param ≤ configIsotpPadValue ∧ value > 255) ∨
      (param = configIsotpStmin ∧ value > 0x7f ∧ (value < 0xf1 ∨ value > 0xf9)) ∨
      (param ≥ configNAsMax ∧ (value = 0 ∨ value > 60000)))

/-- A property that is kept by what requests do beside giving and taking objects. -/
structure Upkeep (guard : Guard vif) (P : Core σ → Prop) : Prop where
  changes : ∀ {core next}, P core → Core.Changes guard Matter.isService core next → P next
  busOn : ∀ {core} bus, P core → P { core with env := (vif.busOn bus core.env).2 }
  paramGet : ∀ {core} bus param, P core → P { core with env := (vif.paramGet bus param core.env).2 }
  paramSet : ∀ {core} bus param value, param < busPVendorBase → P core →
    P { core with env := (vif.paramSet bus param value core.env).2 }
  store : ∀ {core next} i message, (core.channels i).id ≠ 0 →
    (validateMessage vif core i message.protocol message.txFlags message.data false).1 = .ok →
    next.channels = core.channels → P next → P (storeTx next i message)
  configure : ∀ {core} i param value, (core.channels i).parent ≠ 0 →
    acceptsParam (core.channels i) param value → P core →
    P (core.modify i fun channel => initReceiver (setLogicalParam channel param value))

/-- The same, for a property that is also kept where objects are given and taken. -/
structure ObjectUpkeep (guard : Guard vif) (P : Core σ → Prop) : Prop extends Upkeep guard P where
  nextId : ∀ {core} nextId, P core → P { core with nextId }
  start : ∀ {core next} i slot protocol job, (core.channels i).id ≠ 0 →
    (validateMessage vif core i protocol job.message.flags job.message.data true).1 = .ok →
    next.channels = core.channels → Paced job.intervalUs → job.transmissionEnded = false → P next →
    P (next.changeJob i slot .started fun _ => job)
  clear : ∀ {core} i slot, P core → P (core.modifyJob i slot fun _ => {})
  filter : ∀ {core} i filters, P core → P (core.modify i fun channel => { channel with filters })

section Requests

variable {guard : Guard vif} {P : Core σ → Prop} (upkeep : Upkeep guard P) {core : Core σ}
  (holds : P core) {i : ChannelIndex}
include upkeep holds

/-- A change of what nothing depends on. -/
theorem Upkeep.touch {change : Channel → Channel}
    (aside : (core.channels i).Aside (change (core.channels i))) : P (core.modify i change) :=
  upkeep.changes holds (.single (.touch i aside (.inr rfl)))

theorem Upkeep.now : P (core.now vif).2 :=
  upkeep.changes holds (.now (.refl core))

omit upkeep holds in
/-- A message is checked, and nothing is changed but the vehicle interface. -/
theorem validateMessage_env (core : Core σ) (i : ChannelIndex) (protocol flags : UInt32)
    (data : List UInt8) (periodic : Bool) :
    ∃ env, (validateMessage vif core i protocol flags data periodic).2 = { core with env } := by
  unfold validateMessage
  extract_lets channel
  split_ifs <;> exact ⟨_, rfl⟩

omit upkeep holds in
/-- So the channels are those that were checked. -/
theorem channels_of_validateMessage (i : ChannelIndex) (protocol flags : UInt32) (data : List UInt8)
    (periodic : Bool) :
    (validateMessage vif core i protocol flags data periodic).2.channels = core.channels := by
  obtain ⟨env, same⟩ := @validateMessage_env σ vif core i protocol flags data periodic
  rw [same]

/-- A check asks the driver for a parameter at most. -/
theorem Upkeep.validateMessage (protocol flags : UInt32) (data : List UInt8) (periodic : Bool) :
    P (validateMessage vif core i protocol flags data periodic).2 := by
  unfold J2534.validateMessage
  extract_lets channel
  split_ifs
  case pos => exact holds
  all_goals first | exact holds | exact upkeep.paramGet _ _ holds

/-- Requests discard what a poll may discard. -/
theorem Upkeep.discardScheduled (job : UInt32) : P (discardScheduled vif core i job) :=
  upkeep.changes holds (.discardScheduled (.refl core) i job)

/-- A parameter of a logical channel is set if it is known and its value accepted. -/
theorem Upkeep.configureLogical (logical : (core.channels i).parent ≠ 0) (param : UInt32)
    (value : Option UInt32) : P (configureLogical core i param value).2.2 := by
  unfold J2534.configureLogical
  extract_lets channel
  split
  · exact holds
  cases found : logicalParam channel param with
  | none => exact holds
  | some current =>
      cases value with
      | none => exact holds
      | some value =>
          have known : (logicalParam channel param).isSome := by
            rw [found]
            rfl
          dsimp only
          split
          · exact holds
          case isFalse accepted =>
            exact upkeep.configure i param value logical ⟨known, accepted⟩ holds

/-- The loopback of a channel, a parameter of its driver or one of a logical channel is set. -/
theorem Upkeep.configureChannel (param : UInt32) (value : Option UInt32) :
    P (configureChannel vif core i param value).2.2 := by
  have echoed (value : UInt32) : P (setLoopback vif core i value).2 := by
    unfold setLoopback
    extract_lets channel
    split
    · exact holds
    · exact upkeep.paramSet _ _ _ (by decide) holds
  unfold J2534.configureChannel
  extract_lets channel
  split
  case isTrue logical => exact upkeep.configureLogical holds logical param value
  split
  · split
    · exact holds
    · split
      · exact holds
      · dsimp only
        split
        · exact echoed _
        · dsimp only
          exact upkeep.touch (echoed _) ⟨rfl, id, id, id⟩
  split
  · exact holds
  case isFalse standard =>
    have below : param < busPVendorBase := UInt32.not_le.1 standard
    split
    · split
      · exact holds
      · exact holds
    · split
      · dsimp only
        split
        · exact upkeep.paramGet _ _ holds
        · exact upkeep.paramGet _ _ holds
      case h_2 value =>
        have given := upkeep.paramSet (core.channels i).bus param value below holds
        dsimp only
        split
        · dsimp only
          split
          · exact upkeep.touch given ⟨rfl, id, id, id⟩
          · exact given
        · exact given

/-- The stored message is dropped once its transmission has been cancelled. -/
theorem Upkeep.clearTxQueue : P (clearTxQueue vif core i) := by
  refine upkeep.touch (upkeep.changes holds (.cancelChannelTx (.refl core) i)) ?_
  dsimp only
  split
  · exact ⟨rfl, fun waits => absurd rfl waits, id, id⟩
  · exact ⟨rfl, fun waits => absurd rfl waits, id, id⟩

/-- A bus is polled for a request as it is in service. -/
theorem Upkeep.pollRx (p : ChannelIndex) : P (pollRx vif core p) :=
  upkeep.changes holds (.pollRx (.refl core) rfl rfl rfl rfl p)

/-- Repeats see what is polled while the queue is cleared. -/
theorem Upkeep.clearRxQueue : P (clearRxQueue vif core i) := by
  unfold J2534.clearRxQueue
  extract_lets p first second
  have polled : P first := upkeep.pollRx holds p
  have again : P second := by
    unfold second
    split
    · exact polled
    · exact upkeep.pollRx polled p
  refine upkeep.touch again ?_
  dsimp only
  split
  · exact ⟨rfl, id, id, id⟩
  · exact ⟨rfl, id, id, id⟩

/-- A bus is polled before it is switched back on. -/
theorem Upkeep.setBusOn : P (J2534.busOn vif core i).2 := by
  unfold J2534.busOn
  split
  · exact holds
  · have called := upkeep.busOn ((J2534.pollRx vif core i).channels i).bus (upkeep.pollRx holds i)
    dsimp only
    split
    · dsimp only
      exact upkeep.touch called ⟨rfl, id, id, id⟩
    · exact called

omit holds in
/-- Parameters are set one after another, up to the first that is refused. -/
theorem Upkeep.setConfig (params : List (UInt32 × UInt32)) (holds : P core) :
    P (setConfig vif i params core).2 := by
  induction params generalizing core with
  | nil => exact holds
  | cons entry rest ih =>
      have configured := upkeep.configureChannel holds (i := i) entry.1 (some entry.2)
      rw [J2534.setConfig]
      dsimp only
      split
      · exact configured
      · exact ih configured

/-- Records are taken out of the queue. -/
theorem Upkeep.readChannel : P (readChannel core i).2.2 := by
  have taken (queue : RxQueue) : P (core.modify i fun channel => { channel with queue }) :=
    upkeep.touch holds ⟨rfl, id, id, id⟩
  exact upkeep.changes (taken _) (.note (.refl _) rfl)

/-- A message is stored once it has been accepted. -/
theorem Upkeep.queueMessage (connected : (core.channels i).id ≠ 0)
    (message : Option Message) : P (queueMessage vif core i message).2 := by
  cases message with
  | none => exact holds
  | some message =>
      have checked := upkeep.validateMessage holds (i := i) message.protocol message.txFlags
        message.data false
      dsimp only [J2534.queueMessage]
      split
      · exact checked
      case isFalse valid =>
        split
        · exact checked
        · exact upkeep.store i message connected (not_not.1 valid)
            (channels_of_validateMessage i _ _ _ _) checked

end Requests

/-! ## Objects -/

section Objects

variable {guard : Guard vif} {P : Core σ → Prop} (upkeep : ObjectUpkeep guard P) {core : Core σ}
  (holds : P core) {i : ChannelIndex}
include upkeep holds

/-- A job is given up with its transmission, if there is one of its kind. -/
theorem ObjectUpkeep.stopScheduled (id : UInt32) (repeats : Bool) :
    P (stopScheduled vif core i id repeats).2 := by
  unfold J2534.stopScheduled
  split
  · exact holds
  · split
    · exact upkeep.clear i _ (upkeep.toUpkeep.discardScheduled holds id)
    · exact holds

/-- Periodic messages are given up slot by slot. -/
theorem ObjectUpkeep.clearPeriodic : P (clearPeriodic vif core i) := by
  unfold J2534.clearPeriodic
  refine List.foldlRecOn (motive := P) _ _ holds ?_
  intro last kept slot _
  dsimp only
  split
  · exact kept
  · exact upkeep.clear i slot (upkeep.toUpkeep.discardScheduled kept _)

/-- A filter takes a free place, once it has been checked. -/
theorem ObjectUpkeep.startFilter (setup : FilterSetup) : P (startFilter core i setup).2 := by
  unfold J2534.startFilter
  extract_lets channel can
  generalize (if channel.protocol = protocolPwm then 10 else 12) = most
  generalize (if can then flag29Bit else 0) = allowed
  split
  · exact holds
  split
  · exact holds
  split
  · exact holds
  split
  · exact holds
  split
  · exact holds
  · dsimp only
    exact upkeep.filter i _ (upkeep.nextId _ holds)

theorem ObjectUpkeep.stopFilter (id : UInt32) : P (stopFilter core i id).2 := by
  unfold J2534.stopFilter
  split
  · exact holds
  · dsimp only
    exact upkeep.filter i _ holds

theorem ObjectUpkeep.clearFilters : P (clearFilters core i).2 := by
  unfold J2534.clearFilters
  split
  · exact holds
  · dsimp only
    exact upkeep.filter i _ holds

variable (connected : (core.channels i).id ≠ 0)
include connected

omit upkeep holds connected in
/-- The interval of a request, in microseconds. -/
theorem paced_of_interval {intervalMs : UInt32} (valid : ¬ (intervalMs < 5 ∨ intervalMs > 65535)) :
    Paced (intervalMs * 1000) := by
  simp only [UInt32.lt_iff_toNat_lt, gt_iff_lt, UInt32.reduceToNat, not_or, not_lt] at valid
  have product : (intervalMs * 1000).toNat = intervalMs.toNat * 1000 := by
    rw [UInt32.toNat_mul]
    exact Nat.mod_eq_of_lt (by
      simp only [UInt32.reduceToNat]
      omega)
  rw [Paced, product]
  omega

/-- A periodic message takes a free slot, once its interval and its message have been checked. -/
theorem ObjectUpkeep.startPeriodic (periodic : Periodic) :
    P (startPeriodic vif core i periodic).2 := by
  unfold J2534.startPeriodic
  split
  · exact holds
  case h_2 message _ =>
    split
    · exact holds
    rename_i interval
    have checked := upkeep.toUpkeep.validateMessage holds (i := i) message.protocol message.txFlags
      message.data true
    have same : (J2534.validateMessage vif core i message.protocol message.txFlags message.data
      true).2.channels = core.channels := channels_of_validateMessage i _ _ _ _
    dsimp only
    split
    · exact checked
    case isFalse valid =>
      split
      · exact checked
      case h_2 slot _ =>
        dsimp only
        refine upkeep.start i slot message.protocol _ connected (not_not.1 valid) same
          (paced_of_interval interval) rfl ?_
        exact upkeep.toUpkeep.now (upkeep.nextId _ checked)

/-- A repeat takes a free slot, once its message, mask and pattern have been checked. -/
theorem ObjectUpkeep.startRepeat (setup : RepeatSetup) : P (startRepeat vif core i setup).2 := by
  have checked := upkeep.toUpkeep.validateMessage holds (i := i) setup.message.protocol
    setup.message.flags setup.message.data true
  have same : (J2534.validateMessage vif core i setup.message.protocol setup.message.flags
    setup.message.data true).2.channels = core.channels := channels_of_validateMessage i _ _ _ _
  unfold J2534.startRepeat
  extract_lets channel message mask pattern
  split
  · exact holds
  rename_i interval
  split
  · exact holds
  split
  · exact holds
  split
  · exact holds
  dsimp only
  split
  · exact checked
  case isFalse valid =>
    split
    · exact checked
    split
    · exact checked
    case h_2 slot _ =>
      dsimp only
      refine upkeep.start i slot message.protocol _ connected (not_not.1 valid) same
        (paced_of_interval interval) rfl ?_
      exact upkeep.nextId _ (upkeep.toUpkeep.now checked)

/-- A request on a channel. -/
theorem ObjectUpkeep.perform (command : Command) : P (perform vif core i command).2 := by
  cases command <;> dsimp only [J2534.perform]
  case read => exact upkeep.toUpkeep.readChannel holds
  case queue message => exact upkeep.toUpkeep.queueMessage holds connected message
  case startPeriodic periodic => exact upkeep.startPeriodic holds connected periodic
  case stopPeriodic id => exact upkeep.stopScheduled holds id false
  case startRepeat setup => exact upkeep.startRepeat holds connected setup
  case stopRepeat id => exact upkeep.stopScheduled holds id true
  case startFilter setup => exact upkeep.startFilter holds setup
  case stopFilter id => exact upkeep.stopFilter holds id
  case setConfig params => exact upkeep.toUpkeep.setConfig params holds
  case clearTxQueue => exact upkeep.toUpkeep.clearTxQueue holds
  case clearRxQueue => exact upkeep.toUpkeep.clearRxQueue holds
  case clearPeriodic => exact upkeep.clearPeriodic holds
  case clearFilters => exact upkeep.clearFilters holds
  case busOn => exact upkeep.toUpkeep.setBusOn holds

omit connected in
/-- A request of a client. -/
theorem ObjectUpkeep.request (id : UInt32) (command : Command) :
    P (request vif core id command).2 := by
  unfold J2534.request
  split
  · exact holds
  split
  · exact holds
  case h_2 i found =>
    split
    · refine upkeep.perform holds ?_ command
      have some := List.find?_some found
      simp only [Bool.and_eq_true, decide_eq_true_eq] at some
      rw [some.2]
      exact some.1
    · exact holds

end Objects

end Rule

/-! ## Connections -/

section Connections

variable {σ : Type*}

/-- A channel has been left as it was, or released. -/
def Channel.Spared (channel next : Channel) : Prop :=
  channel.Untouched next ∨ ({} : Channel).Untouched next

theorem Channel.Untouched.refl (channel : Channel) : channel.Untouched channel :=
  ⟨rfl, rfl, rfl, rfl, rfl⟩

/-- What is untouched twice over is untouched. -/
theorem Channel.Untouched.trans {channel mid next : Channel} (first : channel.Untouched mid)
    (second : mid.Untouched next) : channel.Untouched next where
  setup := second.setup.trans first.setup
  txLen := second.txLen.trans first.txLen
  scheduler := second.scheduler.trans first.scheduler
  flowControl := second.flowControl.trans first.flowControl
  cursor := second.cursor.trans first.cursor

theorem Channel.Spared.refl (channel : Channel) : channel.Spared channel :=
  .inl (.refl channel)

/-- A channel that is spared and then spared again is left as it was, or has been released on the
way. -/
theorem Channel.Spared.trans {channel mid next : Channel} (first : channel.Spared mid)
    (second : mid.Spared next) : channel.Spared next := by
  rcases second with same | released
  · exact first.imp (fun before => before.trans same) fun before => before.trans same
  · exact .inr released

/-- A channel that is connected after all has been left as it was. -/
theorem Channel.Spared.untouched {channel next : Channel} (spared : channel.Spared next)
    (connected : next.id ≠ 0) : channel.Untouched next := by
  rcases spared with same | released
  · exact same
  · exact absurd (congrArg Setup.id released.setup) connected

variable (core : Core σ) (i j : ChannelIndex)

/-- A change that does not touch its own channel touches no channel. -/
theorem modify_untouched {change : Channel → Channel}
    (same : (core.channels i).Untouched (change (core.channels i))) :
    (core.channels j).Untouched ((core.modify i change).channels j) := by
  by_cases here : j = i
  · subst here
    simpa [Core.modify] using same
  · simpa [Core.modify, Function.update_of_ne here] using Channel.Untouched.refl _

/-- Only the channel that is changed changes. -/
theorem modify_channels_of_ne (change : Channel → Channel) {i j : ChannelIndex} (other : j ≠ i) :
    (core.modify i change).channels j = core.channels j := by
  simp [Core.modify, Function.update_of_ne other]

theorem modify_channels_self (change : Channel → Channel) :
    (core.modify i change).channels i = change (core.channels i) := by
  simp [Core.modify]

/-- A channel is released, and the others are left as they were. -/
theorem releaseChannel_spares : (core.channels j).Spared ((releaseChannel core i).channels j) := by
  by_cases here : j = i
  · subst here
    rw [releaseChannel, modify_channels_self]
    exact .inr (.refl _)
  · rw [releaseChannel, modify_channels_of_ne core _ here]
    exact .refl _

/-- A transmission is cancelled without touching what is to be sent. -/
theorem cancelChannelTx_spares (vif : Vif σ) :
    (core.channels j).Untouched ((cancelChannelTx vif core i).channels j) := by
  unfold cancelChannelTx
  split
  · exact .refl _
  · split
    · exact .refl _
    · dsimp only
      exact modify_untouched core _ j ⟨rfl, rfl, rfl, rfl, rfl⟩

end Connections

section Connections

variable {σ : Type*} (drivers : Drivers σ) (core : Core (Station σ)) (i j : ChannelIndex)

/-- Channels are released on a disconnection, and the others are left as they were. -/
theorem disconnectChannel_spares :
    (core.channels j).Spared ((disconnectChannel drivers core i).2.channels j) := by
  have cancelled := cancelChannelTx_spares core i j drivers.vif
  unfold disconnectChannel
  extract_lets after
  split
  · dsimp only
    split
    · dsimp only
      refine Channel.Spared.trans (.inl cancelled) (Channel.Spared.trans ?_
        (releaseChannel_spares _ i j))
      refine List.foldlRecOn
        (motive := fun last : Core (Station σ) => (after.channels j).Spared (last.channels j))
        _ _ (.refl _) ?_
      intro last spared k _
      split
      · exact spared.trans (releaseChannel_spares last k j)
      · exact spared
    · exact .inl cancelled
  · exact Channel.Spared.trans (.inl cancelled) (releaseChannel_spares _ i j)

/-- A channel that is not connected is found for a connection, and is given an identifier. -/
structure Allocated (core next : Core (Station σ)) (logical : Bool) (i : ChannelIndex) : Prop where
  kind : i.isLogical = logical
  free : (core.channels i).id = 0
  own : next.channels i = { core.channels i with
    id := (newId core).1
    isoRx := { (core.channels i).isoRx with buffer := if logical then some newAssembly else none } }
  others : ∀ j ≠ i, next.channels j = core.channels j
  env : ∃ env, next.env = { core.env with env }

/-- A channel that is given is free, of the kind asked for, and has the next identifier. -/
theorem allocateChannel_some {logical : Bool} {i : ChannelIndex}
    (found : (allocateChannel drivers core logical).1 = some i) :
    Allocated core (allocateChannel drivers core logical).2 logical i := by
  unfold allocateChannel at found ⊢
  cases free : allChannels.find? fun i => i.isLogical = logical && (core.channels i).id = 0 with
  | none =>
      rw [free] at found
      cases found
  | some k =>
      simp only [free] at found ⊢
      have chosen := List.find?_some free
      rw [Bool.and_eq_true, decide_eq_true_eq, decide_eq_true_eq] at chosen
      by_cases had : (core.env.ask drivers.malloc).1 = true
      · simp only [had, if_true] at found ⊢
        cases found
        exact ⟨chosen.1, chosen.2, modify_channels_self _ _ _,
          fun j other => modify_channels_of_ne _ _ other, _, rfl⟩
      · simp only [had] at found
        cases found

/-- Where no channel is given, a free one may have been released again for want of memory. -/
theorem allocateChannel_none {logical : Bool}
    (found : (allocateChannel drivers core logical).1 = none) :
    (∀ j, (core.channels j).Spared ((allocateChannel drivers core logical).2.channels j)) ∧
      ∃ env, (allocateChannel drivers core logical).2.env = { core.env with env } := by
  unfold allocateChannel at found ⊢
  cases free : allChannels.find? fun i => i.isLogical = logical && (core.channels i).id = 0 with
  | none => exact ⟨fun _ => .refl _, core.env.env, rfl⟩
  | some k =>
      simp only [free] at found ⊢
      by_cases had : (core.env.ask drivers.malloc).1 = true
      · simp only [had, if_true] at found
        cases found
      · simp only [had]
        exact ⟨releaseChannel_spares _ k, _, rfl⟩

/-- What a connection comes to: it is refused, or a channel that was not connected is to be opened on
a bus whose group the link does not hold. -/
theorem connectChannel_cases {P : Core (Station σ) → Prop} (req : ConnectRequest)
    (refused : ∀ next env, (∀ j, (core.channels j).Spared (next.channels j)) →
      next.env = { core.env with env } → P next)
    (opened : ∀ mid i bus pins allowed,
      wiring req.protocol req.flags req.baudrate = .ok { bus, pins, allowed } →
      req.flags &&& ~~~allowed = 0 → (core.env.claim bus.group).bus = .none →
      Allocated core mid false i → P (openChannel drivers mid i bus req).2) :
    P (connectChannel drivers core req).2 := by
  have unchanged (env : σ) : P { core with env := { core.env with env } } :=
    refused _ env (fun _ => .refl _) rfl
  have same : P core := unchanged core.env.env
  unfold connectChannel
  split
  · exact same
  split
  · exact same
  split
  · exact same
  case h_2 bus pins allowed wired =>
    split
    · exact same
    case isFalse flags =>
      split
      · exact same
      dsimp only
      split
      · exact unchanged _
      case isFalse busy =>
        have idle : (core.env.claim bus.group).bus = .none := by
          by_contra held
          exact busy (by simp [Station.busy, Station.ask, held])
        have asked : ∃ env, (core.env.busy drivers bus).2 = { core.env with env } := ⟨_, rfl⟩
        obtain ⟨env, asked⟩ := asked
        rw [asked]
        have none := @allocateChannel_none σ drivers { core with env := { core.env with env } } false
        have some := @allocateChannel_some σ drivers { core with env := { core.env with env } } false
        generalize allocateChannel drivers { core with env := { core.env with env } } false =
          answer at none some
        obtain ⟨found, mid⟩ := answer
        cases found with
        | none =>
            obtain ⟨spared, env', given⟩ := none rfl
            exact refused mid env' spared given
        | some i =>
            obtain ⟨kind, free, own, others, env', given⟩ := some rfl
            exact opened mid i bus pins allowed wired (not_not.1 flags) idle
              ⟨kind, free, own, others, env', given⟩

/-- The claim is opened, tried or given up; the channels of the core are not involved. -/
theorem openChannel_spares {i j : ChannelIndex} (other : j ≠ i) (bus : Bus)
    (req : ConnectRequest) :
    (core.channels j).Spared ((openChannel drivers core i bus req).2.channels j) := by
  unfold openChannel
  extract_lets begun
  have same : begun.channels j = core.channels j := modify_channels_of_ne core _ other
  rw [← same]
  dsimp only
  split
  · split
    · exact .refl _
    · exact disconnectChannel_spares drivers
        { begun with env := (setUp drivers (begun.env.openBus drivers bus req.baudrate).2 bus
          req.protocol req.flags req.baudrate).2 } i j
  · exact releaseChannel_spares _ i j

/-- A connection spares the channels that are connected. -/
theorem connectChannel_spares (req : ConnectRequest) (connected : (core.channels j).id ≠ 0) :
    (core.channels j).Spared ((connectChannel drivers core req).2.channels j) := by
  refine connectChannel_cases drivers core req (fun next _ spared _ => spared j) ?_
  intro mid i bus _ _ _ _ _ allocated
  have other : j ≠ i := fun here => connected (here ▸ allocated.free)
  rw [← allocated.others j other]
  exact openChannel_spares drivers mid other bus req

/-- What a logical connection comes to: it is refused, or a channel that was not connected is set
up. -/
theorem logicalConnect_cases {P : Core (Station σ) → Prop} (parent : ChannelIndex)
    (req : LogicalRequest)
    (refused : ∀ next env, (∀ j, (core.channels j).Spared (next.channels j)) →
      next.env = { core.env with env } → P next)
    (opened : ∀ mid i, (core.channels parent).protocol = protocolCan →
      validDescriptor (core.channels parent) req = true → Allocated core mid true i →
      P (mid.modify i fun channel => logicalChannel (core.channels parent) channel req)) :
    P (logicalConnect drivers core parent req).2 := by
  have same : P core := refused core core.env.env (fun _ => .refl _) rfl
  unfold logicalConnect
  extract_lets physical
  split
  · exact same
  case isFalse can =>
    split
    · exact same
    split
    · exact same
    split
    · exact same
    case isFalse valid =>
      split
      · exact same
      have none := @allocateChannel_none σ drivers core true
      have some := @allocateChannel_some σ drivers core true
      generalize allocateChannel drivers core true = answer at none some
      obtain ⟨found, mid⟩ := answer
      cases found with
      | none =>
          obtain ⟨spared, env', given⟩ := none rfl
          exact refused mid env' spared given
      | some i =>
          rw [Bool.not_eq_true', Bool.not_eq_false] at valid
          exact opened mid i (not_not.1 can) valid (some rfl)

/-- A logical connection spares the channels that are connected. -/
theorem logicalConnect_spares (parent : ChannelIndex) (req : LogicalRequest)
    (connected : (core.channels j).id ≠ 0) :
    (core.channels j).Spared ((logicalConnect drivers core parent req).2.channels j) := by
  refine logicalConnect_cases drivers core parent req (fun next _ spared _ => spared j) ?_
  intro mid i _ _ allocated
  have other : j ≠ i := fun here => connected (here ▸ allocated.free)
  rw [modify_channels_of_ne mid _ other, allocated.others j other]
  exact .refl _

end Connections

end OpenDiag.J2534
