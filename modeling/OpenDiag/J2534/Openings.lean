import OpenDiag.J2534.Sendable
import OpenDiag.J2534.SingleFrames

/-!
# Channels are opened and closed

A physical channel is alone on the group of its bus, and the link holds the claim on it; so what a
connection, or its end, does to the drivers of one group leaves the others as they are. A logical
channel is set up with a configuration that the engines accept.
-/

namespace OpenDiag.J2534

/-! ## The link -/

section Link

variable {σ : Type*}

/-- What other buses depend on stays. -/
structure Station.Aside (s next : Station σ) (bus : Bus) : Prop where
  claim : ∀ group, group ≠ bus.group → next.claim group = s.claim group
  submitted : next.submitted = s.submitted
  checksumTx : bus ≠ .kline → next.checksumTx = s.checksumTx

variable {s next : Station σ} {bus : Bus}

theorem Station.Aside.refl (s : Station σ) (bus : Bus) : s.Aside s bus :=
  ⟨fun _ _ => rfl, rfl, fun _ => rfl⟩

/-- What has been submitted to other buses still fits. -/
theorem Station.Aside.fitting (aside : s.Aside next bus) (fitting : s.Fitting) : next.Fitting := by
  unfold Station.Fitting
  rw [aside.submitted]
  exact fitting

variable (before : s.Aside next bus)
include before

theorem Station.Aside.ask {α : Type*} (call : σ → α × σ) : s.Aside (next.ask call).2 bus :=
  ⟨before.claim, before.submitted, before.checksumTx⟩

/-- A claim is given to the group of the bus alone. -/
theorem Station.Aside.setClaim (claim : Claim) : s.Aside (next.setClaim bus claim) bus where
  claim := fun group other => by
    unfold Station.setClaim
    dsimp only
    rw [Function.update_of_ne other]
    exact before.claim group other
  submitted := before.submitted
  checksumTx := before.checksumTx

theorem Station.Aside.defaults :
    s.Aside (if bus = .kline then { next with checksumTx := true } else next) bus := by
  split
  case isTrue kline => exact ⟨before.claim, before.submitted, fun other => absurd kline other⟩
  case isFalse => exact before

variable (drivers : Drivers σ)

/-- A bus is brought up under its own claim. -/
theorem Station.Aside.bringUp (bitrate : UInt32) :
    s.Aside (next.bringUp drivers bus bitrate).2 bus := by
  have started := ((before.setClaim { bus }).ask (drivers.up bus bitrate)).defaults
  unfold Station.bringUp
  dsimp only at started ⊢
  generalize (if bus = .kline then
    { ((next.setClaim bus { bus }).ask (drivers.up bus bitrate)).2 with checksumTx := true }
    else ((next.setClaim bus { bus }).ask (drivers.up bus bitrate)).2) = begun at started ⊢
  split
  · exact started.setClaim _
  · dsimp only
    split
    · exact (started.ask _).setClaim _
    · exact started.ask _

/-- So it is where it is opened, and another bus of its group is taken down before. -/
theorem Station.Aside.openBus (bitrate : UInt32) :
    s.Aside (next.openBus drivers bus bitrate).2 bus := by
  unfold Station.openBus
  dsimp only
  split
  · exact before.ask _
  · split
    · exact (before.ask _).bringUp drivers bitrate
    · have down := ((before.ask (drivers.shellHolds bus)).setClaim
        { bus := (next.claim bus.group).bus }).ask (drivers.down (next.claim bus.group).bus)
      split
      · exact down.bringUp drivers bitrate
      · exact down

/-- A bus is closed under its own claim. -/
theorem Station.Aside.closeBus : s.Aside (next.closeBus drivers bus).2 bus := by
  unfold Station.closeBus
  dsimp only
  split
  · exact before.ask _
  · have down := (before.setClaim { bus := (next.claim bus.group).bus }).ask
      (drivers.down (next.claim bus.group).bus)
    dsimp only
    split
    · exact down.setClaim _
    · exact down

theorem Station.Aside.paramSet (param value : UInt32) :
    s.Aside (drivers.vif.paramSet bus param value next).2 bus := by
  unfold Drivers.vif
  dsimp only
  split
  · split
    case isTrue checksum =>
      exact ⟨before.claim, before.submitted, fun other => absurd checksum.2.1 other⟩
    case isFalse => exact before.ask _
  · exact before

theorem Station.Aside.setParams (params : List (UInt32 × UInt32)) :
    s.Aside (setParams drivers bus params next).2 bus := by
  induction params generalizing next with
  | nil => exact before
  | cons entry rest ih =>
      obtain ⟨param, value⟩ := entry
      rw [J2534.setParams]
      dsimp only
      split
      · exact ih (before.paramSet drivers param value)
      · exact before.paramSet drivers param value

/-- The parameters of a connection are given to its own bus. -/
theorem Station.Aside.setUp (protocol flags rate : UInt32) :
    s.Aside (setUp drivers next bus protocol flags rate).2 bus := by
  unfold J2534.setUp
  dsimp only
  split
  · exact before.setParams drivers _
  · exact (before.setParams drivers _).paramSet drivers _ _

end Link

/-! ## What is opened -/

section Opening

variable {σ : Type*} (drivers : Drivers σ) (s : Station σ)

/-- A bus that has been brought up has the claim of its group. -/
theorem bringUp_claim {bus : Bus} {bitrate : UInt32}
    (opened : (s.bringUp drivers bus bitrate).1 = true) :
    (s.bringUp drivers bus bitrate).2.claim bus.group = { bus, isOpen := true } := by
  unfold Station.bringUp at opened ⊢
  dsimp only at opened ⊢
  split at opened
  case isTrue up =>
    rw [if_pos up]
    exact Function.update_self ..
  case isFalse => cases opened

/-- So has one that has been opened. -/
theorem openBus_claim {bus : Bus} {bitrate : UInt32}
    (opened : (s.openBus drivers bus bitrate).1 = true) :
    (s.openBus drivers bus bitrate).2.claim bus.group = { bus, isOpen := true } := by
  unfold Station.openBus at opened ⊢
  dsimp only at opened ⊢
  split at opened
  · cases opened
  case isFalse free =>
    rw [if_neg free]
    split at opened
    case isTrue none =>
      rw [if_pos none]
      exact bringUp_claim drivers _ opened
    case isFalse held =>
      rw [if_neg held]
      split at opened
      case isTrue down =>
        rw [if_pos down]
        exact bringUp_claim drivers _ opened
      case isFalse => cases opened

/-- A claim whose driver could not be taken down stays, and is not open. -/
theorem closeBus_claim {bus : Bus} (some : bus ≠ .none) (held : (s.claim bus.group).bus = bus) :
    ((s.closeBus drivers bus).2.claim bus.group).isOpen = false ∧
      ((s.closeBus drivers bus).1 = false →
        ((s.closeBus drivers bus).2.claim bus.group).bus = bus) := by
  unfold Station.closeBus
  dsimp only
  rw [held, if_neg some]
  have closing : ((s.setClaim bus { bus }).ask (drivers.down bus)).2.claim bus.group = { bus } :=
    Function.update_self ..
  generalize (s.setClaim bus { bus }).ask (drivers.down bus) = answer at closing
  obtain ⟨down, after⟩ := answer
  cases down with
  | true =>
      have given : (after.setClaim bus {}).claim bus.group = {} := Function.update_self ..
      exact ⟨congrArg Claim.isOpen given, fun failed => nomatch failed⟩
  | false =>
      exact ⟨congrArg Claim.isOpen closing, fun _ => congrArg Claim.bus closing⟩

/-- No parameter touches a claim. -/
theorem paramSet_claim (bus : Bus) (param value : UInt32) :
    (drivers.vif.paramSet bus param value s).2.claim = s.claim := by
  unfold Drivers.vif
  dsimp only
  split
  · split <;> rfl
  · rfl

theorem setParams_claim (bus : Bus) (params : List (UInt32 × UInt32)) :
    (setParams drivers bus params s).2.claim = s.claim := by
  induction params generalizing s with
  | nil => rfl
  | cons entry rest ih =>
      obtain ⟨param, value⟩ := entry
      rw [setParams]
      dsimp only
      split
      · rw [ih, paramSet_claim]
      · rw [paramSet_claim]

/-- Nor do the parameters of a connection. -/
theorem setUp_claim (bus : Bus) (protocol flags rate : UInt32) :
    (setUp drivers s bus protocol flags rate).2.claim = s.claim := by
  unfold setUp
  dsimp only
  split
  · rw [setParams_claim]
  · rw [paramSet_claim, setParams_claim]

/-- Which buses the link has is told by the claims alone. -/
theorem owns_of_claim {next : Station σ} (same : next.claim = s.claim) (bus : Bus) :
    next.owns bus = s.owns bus := by
  unfold Station.owns
  rw [same]

/-- Only its own parameter sets whether the K-Line adds a checksum. -/
theorem paramSet_checksumTx_of_ne {bus : Bus} {param value : UInt32}
    (other : param ≠ busPChecksumTx) :
    (drivers.vif.paramSet bus param value s).2.checksumTx = s.checksumTx := by
  unfold Drivers.vif
  dsimp only
  split
  · rw [if_neg (by tauto)]
    rfl
  · rfl

/-- What a parameter that is taken makes of the checksum of the K-Line driver. -/
theorem paramSet_checksumTx {param value : UInt32} (owned : s.owns .kline = true)
    (taken : (drivers.vif.paramSet .kline param value s).1 = 0) :
    (drivers.vif.paramSet .kline param value s).2.checksumTx =
      if param = busPChecksumTx then decide (value ≠ 0) else s.checksumTx := by
  unfold Drivers.vif at taken ⊢
  dsimp only at taken ⊢
  rw [if_pos owned] at taken ⊢
  by_cases checksum : param = busPChecksumTx
  · rw [if_pos ⟨taken, rfl, checksum⟩, if_pos checksum]
  · rw [if_neg checksum, if_neg (by tauto)]
    rfl

/-- What the parameters that are all taken make of it. -/
theorem setParams_checksumTx {params : List (UInt32 × UInt32)} (owned : s.owns .kline = true)
    (taken : (setParams drivers .kline params s).1 = 0) :
    (setParams drivers .kline params s).2.checksumTx =
      params.foldl (fun checksum entry =>
        if entry.1 = busPChecksumTx then decide (entry.2 ≠ 0) else checksum) s.checksumTx := by
  induction params generalizing s with
  | nil => rfl
  | cons entry rest ih =>
      obtain ⟨param, value⟩ := entry
      rw [setParams] at taken ⊢
      dsimp only at taken ⊢
      split at taken
      case isTrue first =>
        rw [if_pos first, List.foldl_cons]
        have same := paramSet_claim drivers s .kline param value
        rw [ih _ ((owns_of_claim s same .kline).trans owned) taken,
          paramSet_checksumTx drivers s owned first]
      case isFalse failed => exact absurd taken failed

/-- A K-Line that is set up puts checksums where the flags do not disable them. -/
theorem setUp_checksumTx {protocol flags rate : UInt32} (owned : s.owns .kline = true)
    (taken : (setUp drivers s .kline protocol flags rate).1 = 0) :
    (setUp drivers s .kline protocol flags rate).2.checksumTx =
      decide (flags &&& flagChecksumDisabled = 0) := by
  have given : (setParams drivers .kline (klineParams protocol flags rate) s).1 = 0 := taken
  have checksum := setParams_checksumTx drivers s owned given
  have kept : (setUp drivers s .kline protocol flags rate).2.checksumTx =
      (setParams drivers .kline (klineParams protocol flags rate) s).2.checksumTx :=
    paramSet_checksumTx_of_ne drivers _ (by decide)
  rw [kept, checksum]
  unfold klineParams
  simp only [List.foldl_cons, List.foldl_nil]
  rw [if_neg (show busPPeriodicQuiet ≠ busPChecksumTx by decide),
    if_neg (show busPPeriodicMs ≠ busPChecksumTx by decide),
    if_neg (show busPKlineFrameMode ≠ busPChecksumTx by decide), if_pos trivial]
  by_cases enabled : flags &&& flagChecksumDisabled = 0 <;> simp [enabled]

end Opening

/-! ## Connections -/

section Connecting

variable {σ : Type*}

/-- Every protocol has a bus. -/
theorem protocolBus_ne_none (protocol : UInt32) : protocolBus protocol ≠ .none := by
  unfold protocolBus
  split_ifs <;> decide

/-- A connection is wired to the bus of its protocol. -/
theorem bus_of_wiring {protocol flags rate : UInt32} {bus : Bus} {pins : List UInt32}
    {allowed : UInt32} (wired : wiring protocol flags rate = .ok { bus, pins, allowed }) :
    bus = protocolBus protocol := by
  unfold wiring at wired
  unfold protocolBus
  split_ifs at wired ⊢ <;> cases wired <;> rfl

/-- An identifier that is given is never zero. -/
theorem newId_ne_zero (core : Core σ) : (newId core).1 ≠ 0 := by
  unfold newId
  dsimp only
  split
  · decide
  · assumption

/-- A channel that is still connected has been left as it was set up. -/
theorem Channel.Spared.stays {channel after : Channel} (spared : channel.Spared after)
    (own : after.Own) : channel.Stays after :=
  .of_setup (spared.untouched own.1).setup

variable {drivers : Drivers σ} {core mid next : Core (Station σ)} {i : ChannelIndex}

/-- Channels are spared or released, and the claims of those that are left stay. -/
theorem Core.Standing.spared (standing : core.Standing)
    (spared : ∀ j, (core.channels j).Spared (next.channels j)) (fitting : next.env.Fitting)
    (claim : ∀ j, (next.channels j).Own →
      (next.env.claim (next.channels j).bus.group).bus = (next.channels j).bus) :
    next.Standing where
  fitting
  channels := fun j => (standing.channels j).spared (spared j)
  kind := fun j physical => by
    rcases spared j with same | released
    · exact (congrArg Setup.parent same.setup).trans (standing.kind j physical)
    · exact congrArg Setup.parent released.setup
  claim
  alone := fun j k own other same => by
    have first := (spared j).stays own
    have second := (spared k).stays other
    rw [first.bus, second.bus] at same
    exact standing.alone j k (first.own own) (second.own other) same

/-- The claims of the channels that are left have not changed. -/
theorem Core.Sound.spared (sound : core.Sound)
    (spared : ∀ j, (core.channels j).Spared (next.channels j)) (fitting : next.env.Fitting)
    (claim : ∀ j, (next.channels j).Own →
      next.env.claim (next.channels j).bus.group = core.env.claim (next.channels j).bus.group)
    (checksumTx : ∀ j, (next.channels j).Own → (next.channels j).bus = .kline →
      next.env.checksumTx = core.env.checksumTx) : next.Sound where
  standing := by
    refine sound.standing.spared spared fitting fun j own => ?_
    have stays := (spared j).stays own
    rw [claim j own, stays.bus]
    exact sound.standing.claim j (stays.own own)
  checks := fun j own kline opened => by
    have stays := (spared j).stays own
    have same := claim j own
    rw [checksumTx j own kline, stays.flags]
    refine sound.checks j (stays.own own) (stays.bus ▸ kline) ?_
    unfold Station.owns at opened ⊢
    rw [kline] at same
    rwa [same] at opened

/-- Nothing but the drivers has been asked. -/
theorem Core.Sound.asked (sound : core.Sound)
    (spared : ∀ j, (core.channels j).Spared (next.channels j)) {env : σ}
    (asked : next.env = { core.env with env }) : next.Sound := by
  refine sound.spared spared ?_ (fun j _ => ?_) fun j _ _ => ?_
  · rw [asked]
    exact sound.standing.fitting
  · rw [asked]
  · rw [asked]

/-- A transmission is cancelled without a claim being touched. -/
theorem cancelChannelTx_steady (drivers : Drivers σ) (core : Core (Station σ))
    (i : ChannelIndex) : core.env.Steady (cancelChannelTx drivers.vif core i).env := by
  have here : Tended (Guard.fitting drivers) (fun _ => False) core core := .refl core
  exact (here.cancelChannelTx i).env

theorem releaseChannel_env (core : Core (Station σ)) (i : ChannelIndex) :
    (releaseChannel core i).env = core.env := rfl

theorem releaseChannel_id (core : Core (Station σ)) (i : ChannelIndex) :
    ((releaseChannel core i).channels i).id = 0 := by
  rw [releaseChannel, modify_channels_self]

/-- Channels are released without a driver being called. -/
theorem env_of_foldl_release (id : UInt32) (channels : List ChannelIndex)
    (core : Core (Station σ)) :
    (channels.foldl (fun core j =>
      if (core.channels j).parent = id then releaseChannel core j else core) core).env =
        core.env := by
  induction channels generalizing core with
  | nil => rfl
  | cons j rest ih =>
      rw [List.foldl_cons, ih]
      split <;> rfl

/-- What a disconnection comes to, on the link: a logical channel is released, and the bus of a
physical one is closed before it is. -/
theorem disconnectChannel_cases (drivers : Drivers σ) (core : Core (Station σ))
    (i : ChannelIndex) :
    let closed := (cancelChannelTx drivers.vif core i).env.closeBus drivers (core.channels i).bus
    let after := (disconnectChannel drivers core i).2
    (core.channels i).parent ≠ 0 ∧ (after.channels i).id = 0 ∧
        after.env = (cancelChannelTx drivers.vif core i).env ∨
      (core.channels i).parent = 0 ∧ after.env = closed.2 ∧
        (closed.1 = true → (after.channels i).id = 0) := by
  intro closed after
  have same := (cancelChannelTx_spares core i i drivers.vif).setup
  have parent : ((cancelChannelTx drivers.vif core i).channels i).parent =
    (core.channels i).parent := congrArg Setup.parent same
  have bus : ((cancelChannelTx drivers.vif core i).channels i).bus =
    (core.channels i).bus := congrArg Setup.bus same
  unfold after closed disconnectChannel
  extract_lets cancelled
  by_cases own : (core.channels i).parent = 0
  · rw [if_pos (parent.trans own), bus]
    refine .inr ⟨own, ?_⟩
    generalize cancelled.env.closeBus drivers (core.channels i).bus = answer
    obtain ⟨ok, env⟩ := answer
    cases ok with
    | true =>
        refine ⟨?_, fun _ => releaseChannel_id _ i⟩
        exact (releaseChannel_env _ i).trans (env_of_foldl_release _ _ _)
    | false => exact ⟨rfl, nofun⟩
  · rw [if_neg (parent ▸ own)]
    exact .inl ⟨own, releaseChannel_id _ i, rfl⟩

/-- A physical channel that goes is the only one of its group. -/
theorem disconnectChannel_sound (standing : core.Standing) (connected : (core.channels i).id ≠ 0)
    (checks : ∀ j ≠ i, core.Checks j) : (disconnectChannel drivers core i).2.Sound := by
  have spared := disconnectChannel_spares drivers core i
  have steady := cancelChannelTx_steady drivers core i
  have cases := disconnectChannel_cases drivers core i
  generalize (disconnectChannel drivers core i).2 = after at spared cases
  dsimp only at cases
  have rest (j : ChannelIndex) (own : (after.channels j).Own) (other : j ≠ i)
      (claim : after.env.claim (core.channels j).bus.group =
        core.env.claim (core.channels j).bus.group)
      (checksumTx : (core.channels j).bus = .kline →
        after.env.checksumTx = core.env.checksumTx) :
      (after.env.claim (after.channels j).bus.group).bus = (after.channels j).bus ∧
        after.Checks j := by
    have stays := (spared j).stays own
    refine ⟨?_, fun _ kline opened => ?_⟩
    · rw [stays.bus, claim]
      exact standing.claim j (stays.own own)
    · rw [stays.bus] at kline
      rw [checksumTx kline, stays.flags]
      refine checks j other (stays.own own) kline ?_
      unfold Station.owns at opened ⊢
      rw [kline] at claim
      rwa [claim] at opened
  rcases cases with ⟨_, gone, env⟩ | ⟨own, env, gone⟩
  · have goneOn (j : ChannelIndex) (left : (after.channels j).Own) :=
      rest j left (fun here => left.1 (here ▸ gone)) (by rw [env, steady.claim])
        fun _ => by rw [env, steady.checksumTx]
    refine ⟨standing.spared spared (env ▸ steady.fitting standing.fitting) fun j left =>
      (goneOn j left).1, fun j left => (goneOn j left).2 left⟩
  · have held : (core.env.claim (core.channels i).bus.group).bus = (core.channels i).bus :=
      standing.claim i ⟨connected, own⟩
    have some : (core.channels i).bus ≠ .none := by
      rw [(standing.channels i).bus connected own]
      exact protocolBus_ne_none _
    rw [← steady.claim] at held
    have aside := (Station.Aside.refl (cancelChannelTx drivers.vif core i).env
      (core.channels i).bus).closeBus drivers
    have claim := closeBus_claim drivers _ some held
    rw [← env] at aside claim
    have left (j : ChannelIndex) (own' : (after.channels j).Own) :
        (after.env.claim (after.channels j).bus.group).bus = (after.channels j).bus ∧
          after.Checks j := by
      have stays := (spared j).stays own'
      by_cases here : j = i
      · subst here
        have failed : ((cancelChannelTx drivers.vif core j).env.closeBus drivers
            (core.channels j).bus).1 = false := by
          rw [← Bool.not_eq_true]
          exact fun ok => own'.1 (gone ok)
        rw [stays.bus]
        refine ⟨claim.2 failed, fun _ kline opened => ?_⟩
        have shut := claim.1
        rw [stays.bus] at kline
        rw [kline] at shut
        simp [Station.owns, shut] at opened
      · have apart : (core.channels j).bus.group ≠ (core.channels i).bus.group := fun same =>
          here (standing.alone j i (stays.own own') ⟨connected, own⟩ same)
        refine rest j own' here ?_ fun kline => ?_
        · rw [aside.claim _ apart, steady.claim]
        · have other : (core.channels i).bus ≠ .kline := fun same =>
            apart (by rw [kline, same])
          rw [aside.checksumTx other, steady.checksumTx]
    exact ⟨standing.spared spared (aside.fitting (steady.fitting standing.fitting)) fun j own =>
      (left j own).1, fun j own => (left j own).2 own⟩

/-- No channel is connected in a group that is free. -/
theorem Core.Standing.apart (standing : core.Standing) {bus : Bus}
    (idle : (core.env.claim bus.group).bus = .none) {j : ChannelIndex}
    (own : (core.channels j).Own) : (core.channels j).bus.group ≠ bus.group := by
  intro same
  have held := standing.claim j own
  rw [same, idle, (standing.channels j).bus own.1 own.2] at held
  exact protocolBus_ne_none _ held.symm

/-- A physical channel that has been allocated, as it is opened. -/
def openedChannel (channel : Channel) (id : UInt32) (bus : Bus) (req : ConnectRequest) : Channel :=
  { channel with
    id
    isoRx := { channel.isoRx with buffer := none }
    bus
    protocol := req.protocol
    flags := req.flags
    rate := req.baudrate }

/-- A channel is opened on a bus whose group is free. -/
theorem Core.Sound.opening (sound : core.Sound) {id : UInt32} {bus : Bus} {req : ConnectRequest}
    (physical : i.isLogical = false) (free : (core.channels i).id = 0) (given : id ≠ 0)
    (opened : next.channels i = openedChannel (core.channels i) id bus req)
    (others : ∀ j ≠ i, next.channels j = core.channels j)
    (idle : (core.env.claim bus.group).bus = .none) (wired : bus = protocolBus req.protocol)
    (aside : core.env.Aside next.env bus) (claimed : (next.env.claim bus.group).bus = bus) :
    next.Standing ∧ ∀ j ≠ i, next.Checks j := by
  obtain ⟨own, empty, inactive⟩ := (sound.standing.channels i).idle free
  have apart (j : ChannelIndex) (owns : (core.channels j).Own) :
      (core.channels j).bus.group ≠ bus.group := sound.standing.apart idle owns
  have fresh : (next.channels i).Sound := by
    rw [opened]
    refine ⟨fun waits => absurd empty waits, fun slot active => ?_, fun logical => ?_, fun _ _ =>
      wired, fun none => absurd none given, (sound.standing.channels i).flow⟩
    · exact absurd active (by rw [Bool.not_eq_true]; exact inactive slot)
    · exact absurd own logical
  have bus_i : (next.channels i).bus = bus := by rw [opened]; rfl
  refine ⟨⟨aside.fitting sound.standing.fitting, fun j => ?_, fun j kind => ?_, fun j owns => ?_,
    fun j k owns other same => ?_⟩, fun j other owns kline isOpen => ?_⟩
  · by_cases here : j = i
    · subst here
      exact fresh
    · rw [others j here]
      exact sound.standing.channels j
  · by_cases here : j = i
    · subst here
      rw [opened]
      exact own
    · rw [others j here]
      exact sound.standing.kind j kind
  · by_cases here : j = i
    · subst here
      rw [bus_i]
      exact claimed
    · rw [others j here] at owns ⊢
      rw [aside.claim _ (apart j owns)]
      exact sound.standing.claim j owns
  · by_cases first : j = i
    · by_cases second : k = i
      · rw [first, second]
      · rw [others k second] at other same
        rw [first, bus_i] at same
        exact absurd same.symm (apart k other)
    · rw [others j first] at owns same
      by_cases second : k = i
      · rw [second, bus_i] at same
        exact absurd same (apart j owns)
      · rw [others k second] at other same
        exact sound.standing.alone j k owns other same
  · rw [others j other] at owns kline ⊢
    have away := apart j owns
    have notKline : bus ≠ .kline := fun same => away (by rw [kline, same])
    rw [aside.checksumTx notKline]
    refine sound.checks j owns kline ?_
    rw [kline] at away
    unfold Station.owns at isOpen ⊢
    rwa [aside.claim _ away] at isOpen

/-- A physical connection, for the channel that has been allocated. -/
theorem openChannel_sound (sound : core.Sound) {bus : Bus} {req : ConnectRequest}
    (allocated : Allocated core mid false i) (idle : (core.env.claim bus.group).bus = .none)
    (wired : bus = protocolBus req.protocol) :
    (openChannel drivers mid i bus req).2.Sound := by
  obtain ⟨env, asked⟩ := allocated.env
  have start : core.env.Aside mid.env bus := by
    rw [asked]
    exact ⟨fun _ _ => rfl, rfl, fun _ => rfl⟩
  unfold openChannel
  extract_lets begun
  have opened : begun.channels i = openedChannel (core.channels i) (newId core).1 bus req := by
    unfold begun
    rw [modify_channels_self, allocated.own]
    rfl
  have others (j : ChannelIndex) (other : j ≠ i) : begun.channels j = core.channels j :=
    (modify_channels_of_ne _ _ other).trans (allocated.others j other)
  have opening := start.openBus drivers req.baudrate
  have claimed := @openBus_claim σ drivers mid.env bus req.baudrate
  change core.env.Aside (begun.env.openBus drivers bus req.baudrate).2 bus at opening
  change (begun.env.openBus drivers bus req.baudrate).1 = true →
    (begun.env.openBus drivers bus req.baudrate).2.claim bus.group = _ at claimed
  generalize begun.env.openBus drivers bus req.baudrate = answer at opening claimed ⊢
  obtain ⟨up, station⟩ := answer
  cases up with
  | false =>
      have closed := opening.closeBus drivers
      show (releaseChannel { begun with env := (station.closeBus drivers bus).2 } i).Sound
      generalize (station.closeBus drivers bus).2 = after at closed
      have same (j : ChannelIndex)
          (own : ((releaseChannel { begun with env := after } i).channels j).Own) :
          (releaseChannel { begun with env := after } i).channels j = core.channels j := by
        have other : j ≠ i := by
          rintro rfl
          exact own.1 (releaseChannel_id _ _)
        exact (modify_channels_of_ne _ _ other).trans (others j other)
      refine sound.spared (fun j => ?_) (closed.fitting sound.standing.fitting) (fun j own => ?_)
        fun j own kline => ?_
      · by_cases here : j = i
        · subst here
          refine .inr ?_
          rw [releaseChannel, modify_channels_self]
          exact .refl _
        · rw [releaseChannel, modify_channels_of_ne _ _ here]
          exact .inl (others j here ▸ .refl _)
      · have known := same j own
        rw [known] at own ⊢
        exact closed.claim _ (sound.standing.apart idle own)
      · have known := same j own
        rw [known] at own kline
        refine closed.checksumTx fun here => sound.standing.apart idle own ?_
        rw [kline, here]
  | true =>
      have settled := opening.setUp drivers req.protocol req.flags req.baudrate
      have kept := setUp_claim drivers station bus req.protocol req.flags req.baudrate
      have owned : station.owns bus = true := by
        have some : bus ≠ .none := wired ▸ protocolBus_ne_none _
        have held : station.claim bus.group = { bus, isOpen := true } := claimed rfl
        simp [Station.owns, held, some]
      have checked (kline : bus = .kline)
          (taken : (setUp drivers station bus req.protocol req.flags req.baudrate).1 = 0) :
          (setUp drivers station bus req.protocol req.flags req.baudrate).2.checksumTx =
            decide (req.flags &&& flagChecksumDisabled = 0) := by
        rw [kline] at owned taken ⊢
        exact setUp_checksumTx drivers station owned taken
      dsimp only
      generalize setUp drivers station bus req.protocol req.flags req.baudrate = result
        at settled kept checked ⊢
      obtain ⟨rc, after⟩ := result
      have held : (after.claim bus.group).bus = bus := by
        rw [show after.claim = station.claim from kept, claimed rfl]
      have standing : Core.Standing { begun with env := after } ∧
          ∀ j ≠ i, Core.Checks { begun with env := after } j :=
        sound.opening allocated.kind allocated.free (newId_ne_zero core) opened others idle wired
          settled held
      by_cases taken : rc = 0
      · rw [if_pos rfl, if_pos taken]
        refine ⟨standing.1, fun j => ?_⟩
        by_cases here : j = i
        · subst here
          intro _ kline _
          change (begun.channels j).bus = .kline at kline
          change after.checksumTx = decide ((begun.channels j).flags &&& flagChecksumDisabled = 0)
          rw [opened] at kline ⊢
          exact checked kline taken
        · exact standing.2 j here
      · rw [if_pos rfl, if_neg taken]
        refine disconnectChannel_sound standing.1 ?_ standing.2
        change (begun.channels i).id ≠ 0
        rw [opened]
        exact newId_ne_zero core

/-- A physical connection. -/
theorem connectChannel_sound (sound : core.Sound) (req : ConnectRequest) :
    (connectChannel drivers core req).2.Sound := by
  refine connectChannel_cases drivers core req (fun next env spared asked =>
    sound.asked spared asked) ?_
  intro mid i bus pins allowed wired _ idle allocated
  exact openChannel_sound sound allocated idle (bus_of_wiring wired)

/-! ## Logical channels -/

/-- A descriptor that is accepted is one that the engines accept. -/
theorem logicalChannel_sound {parent channel : Channel} {req : LogicalRequest}
    (sound : channel.Sound) (free : channel.id = 0) {id : UInt32} {buffer : Option (List UInt8)}
    (physical : parent.id ≠ 0) (given : id ≠ 0) (valid : validDescriptor parent req = true) :
    (logicalChannel parent
      { channel with id, isoRx := { channel.isoRx with buffer } } req).Sound := by
  obtain ⟨-, empty, inactive⟩ := sound.idle free
  simp only [validDescriptor, Bool.and_eq_true, decide_eq_true_eq] at valid
  obtain ⟨⟨⟨⟨⟨-, here⟩, there⟩, -⟩, -⟩, alike⟩ := valid
  refine ⟨fun waits => absurd empty waits, fun slot active => ?_, fun _ => ?_,
    fun _ own => absurd own physical, fun none => absurd none given, sound.flow⟩
  · exact absurd active (by rw [Bool.not_eq_true]; exact inactive slot)
  · refine ⟨validId_messageId here, rfl, rfl, rfl, rfl, rfl, rfl, ?_⟩
    change decide (req.localFlags &&& flagAddr ≠ 0) = decide (req.remoteFlags &&& flagAddr ≠ 0)
    rw [and_eq_of_xor alike]

/-- The receiver of a logical channel that has been connected assembles messages of every length. -/
theorem logicalChannel_assembles {parent channel : Channel} {req : LogicalRequest}
    (new : channel.isoRx.buffer = some newAssembly) (valid : validDescriptor parent req = true) :
    Assembles (logicalChannel parent channel req).isoRx := by
  simp only [validDescriptor, Bool.and_eq_true, decide_eq_true_eq] at valid
  obtain ⟨⟨⟨⟨⟨-, here⟩, there⟩, -⟩, -⟩, -⟩ := valid
  have accepted : Isotp.validConfig (logicalConfig req) = true := by
    have ids : Isotp.validId (addressId req.remoteAddress req.remoteFlags) = true ∧
        Isotp.validId (addressId req.localAddress req.localFlags) = true :=
      ⟨validId_messageId there, validId_messageId here⟩
    have fixed : Isotp.validStmin 0 = true ∧
        Isotp.validTimeout Isotp.isotpDefaultTimeoutUs = true := by decide
    simpa [Isotp.validConfig, logicalConfig, Isotp.configDefault, fixed] using ids
  have made : (logicalChannel parent channel req).isoRx =
      { config := logicalConfig req, buffer := channel.isoRx.buffer
        capacity := Isotp.isotpMaxPayload } := by
    unfold logicalChannel
    dsimp only [initReceiver]
    rw [Isotp.rxInit, if_neg (by simp [accepted])]
  rw [made, new]
  exact ⟨⟨newAssembly, rfl, by simp [newAssembly]⟩, rfl⟩

/-- A logical connection, on a channel that is connected. -/
theorem logicalConnect_sound (sound : core.Sound) {parent : ChannelIndex}
    (connected : (core.channels parent).id ≠ 0) (req : LogicalRequest) :
    (logicalConnect drivers core parent req).2.Sound := by
  refine logicalConnect_cases drivers core parent req (fun next env spared asked =>
    sound.asked spared asked) ?_
  intro mid i _ valid allocated
  obtain ⟨env, asked⟩ := allocated.env
  have opened : (mid.modify i fun channel =>
      logicalChannel (core.channels parent) channel req).channels i =
        logicalChannel (core.channels parent) { core.channels i with
          id := (newId core).1
          isoRx := { (core.channels i).isoRx with buffer := some newAssembly } } req := by
    rw [modify_channels_self, allocated.own]
    rfl
  have others (j : ChannelIndex) (other : j ≠ i) : (mid.modify i fun channel =>
      logicalChannel (core.channels parent) channel req).channels j = core.channels j :=
    (modify_channels_of_ne _ _ other).trans (allocated.others j other)
  have same : (mid.modify i fun channel =>
      logicalChannel (core.channels parent) channel req).env = { core.env with env } := asked
  generalize (mid.modify i fun channel =>
    logicalChannel (core.channels parent) channel req) = next at opened others same ⊢
  have own (j : ChannelIndex) (own : (next.channels j).Own) :
      next.channels j = core.channels j := by
    refine others j ?_
    rintro rfl
    rw [opened] at own
    exact connected own.2
  refine ⟨⟨?_, fun j => ?_, fun j physical => ?_, fun j left => ?_, fun j k first second => ?_⟩,
    fun j => ?_⟩
  · rw [same]
    exact sound.standing.fitting
  · by_cases here : j = i
    · subst here
      rw [opened]
      exact logicalChannel_sound (sound.standing.channels j) allocated.free connected
        (newId_ne_zero core) valid
    · rw [others j here]
      exact sound.standing.channels j
  · have other : j ≠ i := by
      rintro rfl
      exact Bool.false_ne_true (physical.symm.trans allocated.kind)
    rw [others j other]
    exact sound.standing.kind j physical
  · have known := own j left
    rw [known] at left ⊢
    rw [same]
    exact sound.standing.claim j left
  · rw [own j first, own k second]
    rw [own j first] at first
    rw [own k second] at second
    exact sound.standing.alone j k first second
  · intro left
    have known := own j left
    rw [known] at left ⊢
    rw [same]
    exact sound.checks j left

/-- A channel that is found is connected. -/
theorem connected_of_found {id : UInt32} (found : findChannel core id = some i) :
    (core.channels i).id ≠ 0 := by
  have some := List.find?_some found
  rw [Bool.and_eq_true, decide_eq_true_eq, decide_eq_true_eq] at some
  rw [some.2]
  exact some.1

/-- Every disconnection keeps what holds of the core. -/
theorem disconnect_sound (sound : core.Sound) (id : UInt32) (logical : Bool) :
    (disconnect drivers core id logical).2.Sound := by
  unfold disconnect
  split
  · exact sound
  split
  · exact sound
  case h_2 i found =>
    split
    · exact sound
    · exact disconnectChannel_sound sound.standing (connected_of_found found) fun j _ =>
        sound.checks j

end Connecting

end OpenDiag.J2534
