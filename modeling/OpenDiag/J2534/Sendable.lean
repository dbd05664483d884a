import OpenDiag.J2534.Upkeep

/-!
# What a channel can send

A message is checked when it is queued or scheduled, and sent later by other functions, from other
data: its flags, the descriptor of its channel, and the parameters that the driver was given. What
the checks find is what sending needs, and every request keeps it.
-/

namespace OpenDiag.J2534

open Isotp

/-! ## Limits -/

/-- What a driver and its worker take: a frame on CAN, on J1850 the bytes with the CRC, and on the
K-Line those with the checksum. -/
def Submission.Fits (sub : Submission) : Prop :=
  match sub.bus with
  | .none => True
  | .can => sub.msg.data.length ≤ 8
  | .pwm | .vpw => sub.msg.data.length + 1 ≤ 12
  | .kline => sub.msg.data.length + (if sub.checksumTx then 1 else 0) ≤ 260

section Limits

variable {σ : Type*}

/-- Everything that has been submitted fits. -/
def Station.Fitting (s : Station σ) : Prop :=
  ∀ sub ∈ s.submitted, sub.Fits

/-- What the limits depend on stays, and what is submitted fits. -/
structure Station.Steady (s next : Station σ) : Prop where
  claim : next.claim = s.claim
  checksumTx : next.checksumTx = s.checksumTx
  fitting : s.Fitting → next.Fitting

theorem Station.Steady.refl (s : Station σ) : s.Steady s :=
  ⟨rfl, rfl, fun fits => fits⟩

/-- What is steady twice over is steady. -/
theorem Station.Steady.trans {s mid next : Station σ} (first : s.Steady mid)
    (second : mid.Steady next) : s.Steady next where
  claim := second.claim.trans first.claim
  checksumTx := second.checksumTx.trans first.checksumTx
  fitting := fun fits => second.fitting (first.fitting fits)

/-- The drivers may change as they like. -/
theorem Station.steady_env (s : Station σ) (env : σ) : s.Steady { s with env } :=
  ⟨rfl, rfl, fun fits => fits⟩

/-- A CAN frame fits every bus. -/
theorem fits_of_small {bus : Bus} {msg : BusTx} (checksumTx : Bool)
    (small : msg.data.length ≤ 8) : Submission.Fits { bus, msg, checksumTx } := by
  cases bus <;> simp only [Submission.Fits]
  · exact small
  · omega
  · omega
  · split <;> omega

variable (drivers : Drivers σ)

/-- A submission that fits leaves the claims alone and is one that fits. -/
theorem submit_steady (bus : Bus) (msg : BusTx) (flags sequence : UInt32) (s : Station σ)
    (fits : Submission.Fits { bus, msg, checksumTx := s.checksumTx }) :
    s.Steady (drivers.vif.submit bus msg flags sequence s).2 := by
  have recorded : s.Steady
      { s with submitted := s.submitted ++ [{ bus, msg, checksumTx := s.checksumTx }] } := by
    refine ⟨rfl, rfl, fun fitting sub member => ?_⟩
    rcases List.mem_append.1 member with old | new
    · exact fitting sub old
    · rw [List.mem_singleton.1 new]
      exact fits
  unfold Drivers.vif
  dsimp only
  split
  · exact recorded.trans (Station.steady_env _ _)
  · exact recorded

/-- A standard parameter leaves the claims and the checksum of the K-Line alone. -/
theorem paramSet_steady (bus : Bus) (param value : UInt32) (s : Station σ)
    (standard : param < busPVendorBase) :
    s.Steady (drivers.vif.paramSet bus param value s).2 := by
  unfold Drivers.vif
  dsimp only
  split
  · have other : param ≠ busPChecksumTx := by
      rintro rfl
      exact absurd standard (by decide)
    rw [if_neg (by tauto)]
    exact Station.steady_env _ _
  · exact .refl s

/-- What is admitted fits. -/
def Guard.fitting : Guard drivers.vif where
  Kept s s' := s.Steady s'
  Admits s bus msg := Submission.Fits { bus, msg, checksumTx := s.checksumTx }
  refl := Station.Steady.refl
  trans first second := first.trans second
  now s := s.steady_env _
  recv bus s := by
    unfold Drivers.vif
    dsimp only
    split
    · exact s.steady_env _
    · exact .refl s
  txPoll bus s := by
    unfold Drivers.vif
    dsimp only
    split
    · exact s.steady_env _
    · exact .refl s
  txCancel bus s := by
    unfold Drivers.vif
    dsimp only
    split
    · exact s.steady_env _
    · exact .refl s
  submit bus msg flags sequence s fits := submit_steady drivers bus msg flags sequence s fits
  small s _ _ small := fits_of_small s.checksumTx small
  admits {s s' bus msg} kept fits := by
    rw [kept.checksumTx]
    exact fits

end Limits

/-! ## Identifiers -/

theorem or_and_distrib (a b mask : UInt32) : (a ||| b) &&& mask = a &&& mask ||| b &&& mask :=
  UInt32.toBitVec_inj.1 BitVec.and_or_distrib_right

theorem and_eq_self_of_le {id mask : UInt32} {width : ℕ} (ones : mask.toNat = 2 ^ width - 1)
    (inside : id ≤ mask) : id &&& mask = id := by
  have below : id.toNat ≤ 2 ^ width - 1 := ones ▸ UInt32.le_iff_toNat_le.1 inside
  have positive : 0 < 2 ^ width := Nat.two_pow_pos width
  rw [← UInt32.toNat_inj, UInt32.toNat_and, ones]
  exact Nat.and_two_pow_sub_one_of_lt_two_pow (by omega)

theorem validId_of_ext {id : UInt32} (inside : id ≤ canEffMask) :
    validId (id ||| canEffFlag) = true := by
  have whole : id = id &&& canEffMask :=
    (and_eq_self_of_le (show canEffMask.toNat = 2 ^ 29 - 1 by decide) inside).symm
  have flagged : (id ||| canEffFlag) &&& canEffFlag = canEffFlag := by
    rw [or_and_distrib, whole, UInt32.and_assoc, show canEffMask &&& canEffFlag = 0 by decide,
      UInt32.and_zero, UInt32.zero_or, UInt32.and_self]
  have none : (id ||| canEffFlag) &&& ~~~(canEffMask ||| canEffFlag) = 0 := by
    rw [or_and_distrib, whole, UInt32.and_assoc,
      show canEffMask &&& ~~~(canEffMask ||| canEffFlag) = 0 by decide,
      show canEffFlag &&& ~~~(canEffMask ||| canEffFlag) = 0 by decide, UInt32.and_zero]
    rfl
  unfold validId
  dsimp only
  rw [flagged, if_pos (by decide), none]
  rfl

theorem validId_of_std {id : UInt32} (inside : id ≤ canSffMask) : validId id = true := by
  have whole : id = id &&& canSffMask :=
    (and_eq_self_of_le (show canSffMask.toNat = 2 ^ 11 - 1 by decide) inside).symm
  have plain : id &&& canEffFlag = 0 := by
    rw [whole, UInt32.and_assoc, show canSffMask &&& canEffFlag = 0 by decide, UInt32.and_zero]
  have none : id &&& ~~~(canSffMask ||| canEffFlag) = 0 := by
    rw [whole, UInt32.and_assoc, show canSffMask &&& ~~~(canSffMask ||| canEffFlag) = 0 by decide,
      UInt32.and_zero]
  unfold validId
  dsimp only
  rw [plain, if_neg (by decide), none]
  rfl

/-- The identifier of a message that was checked is valid. -/
theorem validId_messageId {data : List UInt8} {flags : UInt32}
    (valid : canIdValid data flags = true) : validId (messageId data flags) = true := by
  unfold canIdValid at valid
  rw [decide_eq_true_eq] at valid
  unfold messageId
  by_cases extended : flags &&& flag29Bit ≠ 0
  · rw [if_pos extended] at valid ⊢
    exact validId_of_ext valid
  · rw [if_neg extended] at valid ⊢
    rw [UInt32.or_zero]
    exact validId_of_std valid

/-- Where two flag words do not differ in some flags, each of these is set in both or in neither. -/
theorem and_eq_of_xor {a b flag other : UInt32} (same : (a ^^^ b) &&& (flag ||| other) = 0) :
    a &&& flag = b &&& flag := by
  refine UInt32.toBitVec_inj.1 (BitVec.eq_of_getLsbD_eq fun i bound => ?_)
  have bit := congrArg (fun word => word.toBitVec.getLsbD i) same
  simp only [UInt32.toBitVec_and, UInt32.toBitVec_xor, UInt32.toBitVec_or, BitVec.getLsbD_and,
    BitVec.getLsbD_xor, BitVec.getLsbD_or] at bit ⊢
  cases set : flag.toBitVec.getLsbD i with
  | false => rw [Bool.and_false, Bool.and_false]
  | true =>
      rw [set, Bool.true_or, Bool.and_true] at bit
      rw [Bool.and_true, Bool.and_true]
      simpa using bit

/-! ## Channels -/

/-- The bus that a protocol is spoken on. -/
def protocolBus (protocol : UInt32) : Bus :=
  if protocol = protocolCan then .can
  else if protocol = protocolPwm then .pwm
  else if protocol = protocolVpw then .vpw
  else .kline

/-- The bytes of a message fit the bus of a physical channel. -/
def Channel.Fits (channel : Channel) (data : List UInt8) : Prop :=
  match channel.bus with
  | .none => True
  | .can => data.length ≤ 12
  | .pwm | .vpw => data.length ≤ 11
  | .kline => data.length ≤ 260 - if channel.flags &&& flagChecksumDisabled ≠ 0 then 0 else 1

/-- The length of the address in front of the messages of a logical channel. -/
def Channel.address (channel : Channel) : Nat :=
  4 + channel.config.addressLength

/-- What a logical channel can begin to send. -/
structure Channel.Startable (channel : Channel) (data : List UInt8) (flags : UInt32) : Prop where
  identified : canIdValid data flags = true
  addressed : channel.address < data.length
  bounded : data.length - channel.address ≤ isotpMaxPayload
  remote : 7 - channel.config.addressLength < data.length - channel.address →
    data.take channel.address = channel.remote.take channel.address

/-- What a channel can send. -/
structure Channel.Takes (channel : Channel) (data : List UInt8) (flags : UInt32) : Prop where
  logical : channel.parent ≠ 0 → channel.Startable data flags
  own : channel.parent = 0 → channel.Fits data

/-- What a channel can send at intervals: on a logical channel, single frames. -/
structure Channel.Schedules (channel : Channel) (message : ScheduledMessage) : Prop where
  takes : channel.Takes message.data message.flags
  single : channel.parent ≠ 0 → message.data.length ≤ 11

/-- The configuration of a logical channel is one that the engines accept, with any valid
identifier to send to. -/
structure Channel.Endpoint (channel : Channel) : Prop where
  rxId : validId channel.config.rxId = true
  stmin : validStmin channel.config.stmin = true
  timeoutA : validTimeout channel.config.timeoutAUs = true
  timeoutBs : validTimeout channel.config.timeoutBsUs = true
  timeoutCr : validTimeout channel.config.timeoutCrUs = true
  txTimeoutA : validTimeout channel.txTimeoutAUs = true
  physical : channel.config.functional = false
  extended : channel.config.extendedAddress = decide (channel.remoteFlags &&& flagAddr ≠ 0)

/-- What holds of a channel by itself. -/
structure Channel.Sound (channel : Channel) : Prop where
  stored : channel.txLen ≠ 0 → channel.Takes channel.tx.data channel.tx.txFlags
  scheduled : ∀ slot, (channel.scheduler slot).active = true →
    channel.Schedules (channel.scheduler slot).message
  endpoint : channel.parent ≠ 0 → channel.Endpoint
  bus : channel.id ≠ 0 → channel.parent = 0 → channel.bus = protocolBus channel.protocol
  idle : channel.id = 0 →
    channel.parent = 0 ∧ channel.txLen = 0 ∧ ∀ slot, (channel.scheduler slot).active = false
  flow : channel.flowControl.dlc ≤ 8

/-- The channel stays where it is, and what the addresses of its messages look like. -/
structure Channel.Stays (channel next : Channel) : Prop where
  id : next.id = channel.id
  parent : next.parent = channel.parent
  protocol : next.protocol = channel.protocol
  bus : next.bus = channel.bus
  flags : next.flags = channel.flags
  address : next.config.addressLength = channel.config.addressLength
  remote : next.remote = channel.remote

section Channels

variable {channel next : Channel}

/-- A channel that is set up as it was stays. -/
theorem Channel.Stays.of_setup (same : next.setup = channel.setup) : channel.Stays next where
  id := congrArg Setup.id same
  parent := congrArg Setup.parent same
  protocol := congrArg Setup.protocol same
  bus := congrArg Setup.bus same
  flags := congrArg Setup.flags same
  address := congrArg (fun setup => setup.config.addressLength) same
  remote := congrArg Setup.remote same

/-- A message that a channel takes is taken by the channel as it stays. -/
theorem Channel.Takes.stays {data : List UInt8} {flags : UInt32}
    (takes : channel.Takes data flags) (stays : channel.Stays next) : next.Takes data flags := by
  have address : next.address = channel.address := congrArg (4 + ·) stays.address
  refine ⟨fun logical => ?_, fun own => ?_⟩
  · obtain ⟨identified, addressed, bounded, remote⟩ := takes.logical (stays.parent ▸ logical)
    refine ⟨identified, ?_, ?_, ?_⟩ <;> rw [address]
    · exact addressed
    · exact bounded
    · rw [stays.address, stays.remote]
      exact remote
  · have fits := takes.own (stays.parent ▸ own)
    unfold Channel.Fits at fits ⊢
    rw [stays.bus, stays.flags]
    exact fits

/-- So is a scheduled message. -/
theorem Channel.Schedules.stays {message : ScheduledMessage} (schedules : channel.Schedules message)
    (stays : channel.Stays next) : next.Schedules message :=
  ⟨schedules.takes.stays stays, fun logical => schedules.single (stays.parent ▸ logical)⟩

/-- An endpoint is a matter of the setup. -/
theorem Channel.Endpoint.setup (endpoint : channel.Endpoint)
    (same : next.setup = channel.setup) : next.Endpoint := by
  have config : next.config = channel.config := congrArg Setup.config same
  have timeout : next.txTimeoutAUs = channel.txTimeoutAUs := congrArg Setup.txTimeoutAUs same
  have remote : next.remoteFlags = channel.remoteFlags := congrArg Setup.remoteFlags same
  obtain ⟨rxId, stmin, timeoutA, timeoutBs, timeoutCr, txTimeoutA, physical, extended⟩ := endpoint
  refine ⟨?_, ?_, ?_, ?_, ?_, ?_, ?_, ?_⟩
  · rwa [config]
  · rwa [config]
  · rwa [config]
  · rwa [config]
  · rwa [config]
  · rwa [timeout]
  · rwa [config]
  · rwa [config, remote]

/-- What the jobs and the stored message are is kept, up to those that have ended. -/
theorem Channel.Sound.changed (sound : channel.Sound) (stays : channel.Stays next)
    (endpoint : next.parent ≠ 0 → next.Endpoint) (tx : next.tx = channel.tx)
    (waiting : next.txLen ≠ 0 → channel.txLen ≠ 0)
    (jobs : ∀ slot, (channel.scheduler slot).Abides (next.scheduler slot))
    (flow : next.flowControl.dlc ≤ 8) : next.Sound where
  stored := fun waits => by
    rw [tx]
    exact (sound.stored (waiting waits)).stays stays
  scheduled := fun slot active => by
    rw [(jobs slot).message]
    exact (sound.scheduled slot ((jobs slot).active active)).stays stays
  endpoint := endpoint
  bus := fun connected own => by
    rw [stays.bus, stays.protocol]
    exact sound.bus (stays.id ▸ connected) (stays.parent ▸ own)
  idle := fun free => by
    obtain ⟨own, empty, inactive⟩ := sound.idle (stays.id ▸ free)
    refine ⟨stays.parent.trans own, ?_, fun slot => ?_⟩
    · by_contra waits
      exact waiting waits empty
    · by_contra active
      rw [Bool.not_eq_false] at active
      exact Bool.false_ne_true ((inactive slot).symm.trans ((jobs slot).active active))
  flow := flow

/-- Service keeps what holds of a channel. -/
theorem Channel.Sound.serviced (sound : channel.Sound) (serviced : channel.Serviced next) :
    next.Sound :=
  sound.changed (.of_setup serviced.setup)
    (fun logical => (sound.endpoint (serviced.parent ▸ logical)).setup serviced.setup) serviced.tx
    serviced.waiting serviced.jobs (serviced.flow sound.flow)

/-- A job is started, or cleared. -/
theorem Channel.Sound.schedule (sound : channel.Sound) (slot : Slot) (job : Job)
    (schedules : job.active = true → channel.id ≠ 0 ∧ channel.Schedules job.message) :
    { channel with scheduler := Function.update channel.scheduler slot job }.Sound where
  stored := fun waits => (sound.stored waits).stays ⟨rfl, rfl, rfl, rfl, rfl, rfl, rfl⟩
  scheduled := by
    refine (Function.forall_update_iff channel.scheduler fun _ job => job.active = true →
      Channel.Schedules _ job.message).2 ⟨fun active => ?_, fun other _ active => ?_⟩
    · exact (schedules active).2.stays ⟨rfl, rfl, rfl, rfl, rfl, rfl, rfl⟩
    · exact (sound.scheduled other active).stays ⟨rfl, rfl, rfl, rfl, rfl, rfl, rfl⟩
  endpoint := fun logical => (sound.endpoint logical).setup rfl
  bus := sound.bus
  idle := fun free => by
    obtain ⟨own, empty, inactive⟩ := sound.idle free
    refine ⟨own, empty, (Function.forall_update_iff channel.scheduler fun _ job =>
      job.active = false).2 ⟨?_, fun other _ => inactive other⟩⟩
    by_contra active
    rw [Bool.not_eq_false] at active
    exact (schedules active).1 free
  flow := sound.flow

/-- A message is stored. -/
theorem Channel.Sound.store (sound : channel.Sound) (connected : channel.id ≠ 0) (tx : StoredTx)
    (txLen stored : Nat) (takes : channel.Takes tx.data tx.txFlags) :
    { channel with tx, txLen, stored }.Sound where
  stored := fun _ => takes.stays ⟨rfl, rfl, rfl, rfl, rfl, rfl, rfl⟩
  scheduled := fun slot active =>
    (sound.scheduled slot active).stays ⟨rfl, rfl, rfl, rfl, rfl, rfl, rfl⟩
  endpoint := fun logical =>
    let ⟨rxId, stmin, timeoutA, timeoutBs, timeoutCr, txTimeoutA, physical, extended⟩ :=
      sound.endpoint logical
    ⟨rxId, stmin, timeoutA, timeoutBs, timeoutCr, txTimeoutA, physical, extended⟩
  bus := sound.bus
  idle := fun free => absurd free connected
  flow := sound.flow

/-- A channel that is not connected. -/
theorem Channel.sound_empty : ({} : Channel).Sound where
  stored := fun waits => absurd rfl waits
  scheduled := fun _ active => absurd active Bool.false_ne_true
  endpoint := fun logical => absurd rfl logical
  bus := fun connected => absurd rfl connected
  idle := fun _ => ⟨rfl, rfl, fun _ => rfl⟩
  flow := Nat.zero_le _

/-- A channel that has been left as it was, or released, is sound. -/
theorem Channel.Sound.spared (sound : channel.Sound) (spared : channel.Spared next) :
    next.Sound := by
  rcases spared with same | released
  · exact sound.serviced same.serviced
  · exact Channel.sound_empty.serviced released.serviced

end Channels

/-! ## Checks -/

section Checks

variable {σ : Type*} {vif : Vif σ} {core : Core σ} {i : ChannelIndex} {flags : UInt32}
  {data : List UInt8} {periodic : Bool}

/-- A check that is passed has not refused. -/
theorem passed {refuses : Prop} [Decidable refuses] {refusal rest : Status}
    (error : refusal ≠ .ok) (valid : (if refuses then refusal else rest) = .ok) :
    ¬ refuses ∧ rest = .ok := by
  by_cases refused : refuses
  · rw [if_pos refused] at valid
    exact absurd valid error
  · rw [if_neg refused] at valid
    exact ⟨refused, valid⟩

/-- What the check finds on a logical channel. -/
theorem startable_of_validateCan (logical : (core.channels i).parent ≠ 0)
    (endpoint : (core.channels i).Endpoint)
    (valid : validateCan core i flags data periodic = .ok) :
    (core.channels i).Startable data flags ∧ (periodic = true → data.length ≤ 11) := by
  unfold validateCan at valid
  extract_lets channel isLogical allowed address physical at valid
  have isOne : isLogical := logical
  rw [if_pos isOne, if_neg (not_not.2 isOne)] at valid
  obtain ⟨wellFormed, valid⟩ := passed (by decide) valid
  obtain ⟨bounded, valid⟩ := passed (by decide) valid
  obtain ⟨near, valid⟩ := passed (by decide) valid
  obtain ⟨alike, -⟩ := passed (by decide) valid
  simp only [not_or, not_and_or, not_lt, not_not] at wellFormed bounded near alike
  obtain ⟨long, -, identified, -⟩ := wellFormed
  have same : address = 4 + channel.config.addressLength := by
    have flagged := and_eq_of_xor alike
    unfold address Config.addressLength
    rw [endpoint.extended, ← flagged]
    by_cases extended : flags &&& flagAddr = 0
    · simp [extended]
    · simp [extended, isOne]
  rw [same] at long bounded near
  refine ⟨⟨identified, long, bounded.1, fun several => ?_⟩, bounded.2.resolve_left ∘ not_not.2⟩
  rcases near with few | ⟨-, remote⟩
  · rw [Nat.add_sub_cancel_left] at few
    exact absurd several (Nat.not_lt.2 few)
  · exact remote

/-- What the check finds on CAN. -/
theorem length_le_of_validateCan (own : (core.channels i).parent = 0)
    (valid : validateCan core i flags data periodic = .ok) : data.length ≤ 12 := by
  unfold validateCan at valid
  extract_lets channel isLogical allowed address physical at valid
  have isNone : ¬ isLogical := not_not.2 own
  obtain ⟨-, valid⟩ := passed (by decide) valid
  rw [if_pos isNone] at valid
  by_contra long
  rw [if_neg long] at valid
  cases valid

/-- What the check finds on the K-Line. -/
theorem length_le_of_validateKline {channel : Channel}
    (valid : validateKline channel flags data periodic = .ok) :
    data.length ≤ 260 - if channel.flags &&& flagChecksumDisabled ≠ 0 then 0 else 1 := by
  unfold validateKline at valid
  extract_lets disabled at valid
  obtain ⟨wellFormed, -⟩ := passed (by decide) valid
  rw [not_or, not_or, not_lt] at wellFormed
  exact wellFormed.2.1

/-- What the check finds on a bus of the channel's own. -/
theorem fits_of_validateMessage {protocol : UInt32} (own : (core.channels i).parent = 0)
    (bus : (core.channels i).bus = protocolBus (core.channels i).protocol)
    (valid : (validateMessage vif core i protocol flags data periodic).1 = .ok) :
    (core.channels i).Fits data := by
  unfold validateMessage at valid
  extract_lets channel at valid
  unfold Channel.Fits
  rw [bus]
  unfold protocolBus
  split at valid
  · cases valid
  split at valid
  · cases valid
  split at valid
  case isTrue can =>
    rw [if_pos (can.resolve_right (not_not.2 own))]
    exact length_le_of_validateCan own valid
  case isFalse notCan =>
    rw [if_neg fun can => notCan (.inl can)]
    split at valid
    case isTrue pwm =>
      rw [if_pos pwm]
      split at valid
      · cases valid
      case isFalse short =>
        dsimp only
        omega
    case isFalse notPwm =>
      rw [if_neg notPwm]
      split at valid
      case isTrue vpw =>
        rw [if_pos vpw]
        obtain ⟨short, -⟩ := passed (by decide) valid
        rw [not_or, not_lt] at short
        exact short.2
      case isFalse notVpw =>
        rw [if_neg notVpw]
        exact length_le_of_validateKline valid

/-- A message that passes the check is one that the channel takes. -/
theorem takes_of_validateMessage {protocol : UInt32} (sound : (core.channels i).Sound)
    (connected : (core.channels i).id ≠ 0)
    (valid : (validateMessage vif core i protocol flags data periodic).1 = .ok) :
    (core.channels i).Takes data flags ∧
      (periodic = true → (core.channels i).parent ≠ 0 → data.length ≤ 11) := by
  have logically (logical : (core.channels i).parent ≠ 0) :
      (core.channels i).Startable data flags ∧ (periodic = true → data.length ≤ 11) := by
    unfold validateMessage at valid
    extract_lets channel at valid
    split at valid
    · cases valid
    split at valid
    · cases valid
    rw [if_pos (.inr logical)] at valid
    exact startable_of_validateCan logical (sound.endpoint logical) valid
  refine ⟨⟨fun logical => (logically logical).1, fun own => ?_⟩, fun often logical =>
    (logically logical).2 often⟩
  exact fits_of_validateMessage own (sound.bus connected own) valid

end Checks

/-! ## The core -/

/-- The channel is connected, and has a bus of its own. -/
def Channel.Own (channel : Channel) : Prop :=
  channel.id ≠ 0 ∧ channel.parent = 0

section Soundness

variable {σ : Type*}

/-- The checksum that the K-Line driver puts behind a message goes with the flags of the channel
that has the bus open. -/
def Core.Checks (core : Core (Station σ)) (i : ChannelIndex) : Prop :=
  (core.channels i).Own → (core.channels i).bus = .kline → core.env.owns .kline = true →
    core.env.checksumTx = decide ((core.channels i).flags &&& flagChecksumDisabled = 0)

/-- What holds of the core while a driver may still be without its parameters. -/
structure Core.Standing (core : Core (Station σ)) : Prop where
  fitting : core.env.Fitting
  channels : ∀ i, (core.channels i).Sound
  kind : ∀ i : ChannelIndex, i.isLogical = false → (core.channels i).parent = 0
  claim : ∀ i, (core.channels i).Own →
    (core.env.claim (core.channels i).bus.group).bus = (core.channels i).bus
  alone : ∀ i j, (core.channels i).Own → (core.channels j).Own →
    (core.channels i).bus.group = (core.channels j).bus.group → i = j

/-- What holds of the core between the calls of the link task. -/
structure Core.Sound (core : Core (Station σ)) : Prop where
  standing : core.Standing
  checks : ∀ i, core.Checks i

variable {drivers : Drivers σ} {core next : Core (Station σ)} {i : ChannelIndex}

theorem Channel.Stays.own {channel after : Channel} (stays : channel.Stays after)
    (own : after.Own) : channel.Own :=
  ⟨stays.id ▸ own.1, stays.parent ▸ own.2⟩

/-- The channels stay on their buses, and the claims on these. -/
theorem Core.Sound.kept (sound : core.Sound) (steady : core.env.Steady next.env)
    (stays : ∀ j, (core.channels j).Stays (next.channels j))
    (channels : ∀ j, (next.channels j).Sound) : next.Sound where
  standing :=
    { fitting := steady.fitting sound.standing.fitting
      channels
      kind := fun j physical => (stays j).parent.trans (sound.standing.kind j physical)
      claim := fun j own => by
        rw [steady.claim, (stays j).bus]
        exact sound.standing.claim j ((stays j).own own)
      alone := fun j k own other same => by
        rw [(stays j).bus, (stays k).bus] at same
        exact sound.standing.alone j k ((stays j).own own) ((stays k).own other) same }
  checks := fun j own kline opened => by
    rw [steady.checksumTx, (stays j).flags]
    refine sound.checks j ((stays j).own own) ((stays j).bus ▸ kline) ?_
    unfold Station.owns at opened ⊢
    rwa [steady.claim] at opened

/-- Service keeps what holds of the core. -/
theorem Core.Sound.tended {free : ChannelIndex → Prop} (sound : core.Sound)
    (tended : Tended (Guard.fitting drivers) free core next) : next.Sound :=
  sound.kept tended.env (fun j => .of_setup (tended.channels j).setup)
    fun j => (sound.standing.channels j).serviced (tended.channels j)

/-- One channel changes. -/
theorem Core.Sound.modify (sound : core.Sound) {change : Channel → Channel}
    (stays : (core.channels i).Stays (change (core.channels i)))
    (channel : (change (core.channels i)).Sound) : (core.modify i change).Sound := by
  refine sound.kept (.refl _) (fun j => ?_) fun j => ?_
  · by_cases here : j = i
    · subst here
      rw [modify_channels_self]
      exact stays
    · rw [modify_channels_of_ne core _ here]
      exact ⟨rfl, rfl, rfl, rfl, rfl, rfl, rfl⟩
  · by_cases here : j = i
    · subst here
      rw [modify_channels_self]
      exact channel
    · rw [modify_channels_of_ne core _ here]
      exact sound.standing.channels j

/-- So does a call that is steady. -/
theorem Core.Sound.withEnv (sound : core.Sound) {env : Station σ} (steady : core.env.Steady env) :
    { core with env }.Sound :=
  sound.kept steady (fun _ => ⟨rfl, rfl, rfl, rfl, rfl, rfl, rfl⟩) sound.standing.channels

theorem Core.Sound.recorded (sound : core.Sound) (event : Event) : (core.record event).Sound :=
  sound.kept (.refl _) (fun _ => ⟨rfl, rfl, rfl, rfl, rfl, rfl, rfl⟩) sound.standing.channels

/-! ## Requests -/

/-- A minimum separation that was accepted is a valid one. -/
theorem validStmin_of_accepted {value : UInt32} (byte : ¬ value > 255)
    (known : ¬ (value > 0x7f ∧ (value < 0xf1 ∨ value > 0xf9))) :
    validStmin value.toUInt8 = true := by
  obtain ⟨n, rfl⟩ : ∃ n : Fin 256, value = UInt32.ofNat n := by
    rw [gt_iff_lt, UInt32.not_lt, UInt32.le_iff_toNat_le] at byte
    refine ⟨⟨value.toNat, Nat.lt_succ_of_le byte⟩, ?_⟩
    rw [UInt32.ofNat_toNat]
  have all : ∀ n : Fin 256, ¬ (UInt32.ofNat n > 0x7f ∧
      (UInt32.ofNat n < 0xf1 ∨ UInt32.ofNat n > 0xf9)) →
        validStmin (UInt32.ofNat n).toUInt8 = true := by
    decide +kernel
  exact all n known

/-- A timeout that was accepted is a valid one, in microseconds. -/
theorem validTimeout_of_accepted {value : UInt32} (accepted : ¬ (value = 0 ∨ value > 60000)) :
    validTimeout (value * 1000) = true := by
  rw [not_or, gt_iff_lt, UInt32.not_lt, UInt32.le_iff_toNat_le, ← UInt32.toNat_inj] at accepted
  obtain ⟨some, bounded⟩ := accepted
  have product : (value * 1000).toNat = value.toNat * 1000 := by
    rw [UInt32.toNat_mul]
    exact Nat.mod_eq_of_lt (by
      change value.toNat ≤ 60000 at bounded
      change value.toNat * 1000 < 2 ^ 32
      omega)
  unfold validTimeout
  rw [Bool.and_eq_true, bne_iff_ne, ne_eq, ← UInt32.toNat_inj, decide_eq_true_eq,
    UInt32.le_iff_toNat_le, product]
  change ¬ value.toNat = 0 at some
  change value.toNat ≤ 60000 at bounded
  change ¬ value.toNat * 1000 = 0 ∧ value.toNat * 1000 ≤ 0x7fffffff
  omega

/-- A parameter that is accepted is one that the engines accept. -/
theorem setLogicalParam_sound {channel : Channel} (sound : channel.Sound)
    (logical : channel.parent ≠ 0) {param value : UInt32}
    (accepted : acceptsParam channel param value) :
    channel.Stays (setLogicalParam channel param value) ∧
      (setLogicalParam channel param value).Sound := by
  obtain ⟨known, accepted⟩ := accepted
  have byte (below : param ≤ configIsotpPadValue) : ¬ value > 255 :=
    fun large => accepted (.inl ⟨below, large⟩)
  have timeout (above : param ≥ configNAsMax) : validTimeout (value * 1000) = true :=
    validTimeout_of_accepted fun outside => accepted (.inr (.inr ⟨above, outside⟩))
  have keeps {config : Config} {txTimeoutAUs : Time}
      (address : config.addressLength = channel.config.addressLength)
      (endpoint : { channel with config, txTimeoutAUs }.Endpoint) :
      channel.Stays { channel with config, txTimeoutAUs } ∧
        { channel with config, txTimeoutAUs }.Sound := by
    have stays : channel.Stays { channel with config, txTimeoutAUs } :=
      ⟨rfl, rfl, rfl, rfl, rfl, address, rfl⟩
    exact ⟨stays, sound.changed stays (fun _ => endpoint) rfl (fun waits => waits)
      (fun _ => .refl _) sound.flow⟩
  obtain ⟨rxId, stmin, timeoutA, timeoutBs, timeoutCr, txTimeoutA, physical, extended⟩ :=
    sound.endpoint logical
  unfold setLogicalParam
  extract_lets config
  split
  · exact keeps rfl ⟨rxId, stmin, timeoutA, timeoutBs, timeoutCr, txTimeoutA, physical, extended⟩
  split
  case isTrue found =>
    subst found
    refine keeps rfl ⟨rxId, ?_, timeoutA, timeoutBs, timeoutCr, txTimeoutA, physical, extended⟩
    exact validStmin_of_accepted (byte (by decide)) fun unknown =>
      accepted (.inr (.inl ⟨rfl, unknown⟩))
  split
  · exact keeps rfl ⟨rxId, stmin, timeoutA, timeoutBs, timeoutCr, txTimeoutA, physical, extended⟩
  split
  · exact keeps rfl ⟨rxId, stmin, timeoutA, timeoutBs, timeoutCr, txTimeoutA, physical, extended⟩
  split
  case isTrue found =>
    subst found
    exact keeps rfl ⟨rxId, stmin, timeoutA, timeoutBs, timeoutCr, timeout (by decide),
      physical, extended⟩
  split
  case isTrue found =>
    subst found
    exact keeps rfl ⟨rxId, stmin, timeout (by decide), timeoutBs, timeoutCr, txTimeoutA,
      physical, extended⟩
  split
  case isTrue found =>
    subst found
    exact keeps rfl ⟨rxId, stmin, timeoutA, timeout (by decide), timeoutCr, txTimeoutA,
      physical, extended⟩
  case isFalse =>
    have last : param = configNCrMax := by
      by_contra other
      simp [logicalParam, *] at known
    subst last
    exact keeps rfl ⟨rxId, stmin, timeoutA, timeoutBs, timeout (by decide), txTimeoutA,
      physical, extended⟩

/-- Every request keeps what holds of the core. -/
theorem sound_upkeep : ObjectUpkeep (Guard.fitting drivers) Core.Sound where
  changes := fun {core next} sound changes => by
    have tended : Tended (Guard.fitting drivers) (fun _ => False) core next := changes.tended
    exact sound.tended tended
  nextId := fun _ sound =>
    sound.kept (.refl _) (fun _ => ⟨rfl, rfl, rfl, rfl, rfl, rfl, rfl⟩) sound.standing.channels
  busOn := fun {core} bus sound => sound.withEnv (by
    unfold Drivers.vif
    dsimp only
    split
    · exact Station.steady_env _ _
    · exact .refl _)
  paramGet := fun {core} bus param sound => sound.withEnv (by
    unfold Drivers.vif
    dsimp only
    split
    · exact Station.steady_env _ _
    · exact .refl _)
  paramSet := fun bus param value standard sound =>
    sound.withEnv (paramSet_steady drivers bus param value _ standard)
  store := fun {core next} i message connected valid same sound => by
    have own := sound.standing.channels i
    rw [same] at own
    have takes := (takes_of_validateMessage own connected valid).1
    rw [← same] at connected takes
    exact sound.modify ⟨rfl, rfl, rfl, rfl, rfl, rfl, rfl⟩
      ((sound.standing.channels i).store connected _ _ _ takes)
  start := fun {core next} i slot protocol job connected valid same _ _ sound => by
    have own := sound.standing.channels i
    rw [same] at own
    obtain ⟨takes, single⟩ := takes_of_validateMessage own connected valid
    rw [← same] at connected takes single
    have started : (next.modifyJob i slot fun _ => job).Sound :=
      sound.modify ⟨rfl, rfl, rfl, rfl, rfl, rfl, rfl⟩
        ((sound.standing.channels i).schedule slot job fun _ => ⟨connected, takes, single rfl⟩)
    exact started.recorded _
  clear := fun i slot sound =>
    sound.modify ⟨rfl, rfl, rfl, rfl, rfl, rfl, rfl⟩
      ((sound.standing.channels i).schedule slot {} fun active => absurd active Bool.false_ne_true)
  filter := fun i filters sound =>
    sound.modify ⟨rfl, rfl, rfl, rfl, rfl, rfl, rfl⟩
      ((sound.standing.channels i).changed ⟨rfl, rfl, rfl, rfl, rfl, rfl, rfl⟩
        (fun logical => ((sound.standing.channels i).endpoint logical).setup rfl) rfl
        (fun waits => waits) (fun _ => .refl _) (sound.standing.channels i).flow)
  configure := fun i param value logical accepted sound => by
    obtain ⟨stays, kept⟩ :=
      setLogicalParam_sound (sound.standing.channels i) logical accepted
    refine sound.modify ⟨stays.id, stays.parent, stays.protocol, stays.bus, stays.flags,
      stays.address, stays.remote⟩ ?_
    exact kept.changed ⟨rfl, rfl, rfl, rfl, rfl, rfl, rfl⟩
      (fun logical => (kept.endpoint logical).setup rfl) rfl (fun waits => waits)
      (fun _ => .refl _) kept.flow

end Soundness

end OpenDiag.J2534
