import OpenDiag.J2534.Openings
import OpenDiag.J2534.Turns

/-!
# What is accepted can be sent

In every state that connections, requests and polls lead to, what waits to be sent can be: on a
logical channel the engine takes it, and on a physical channel it fits the bus.
-/

namespace OpenDiag.J2534

open Isotp

/-! ## Polls -/

section Polling

variable {σ : Type*} {drivers : Drivers σ} {core : Core (Station σ)} {i : ChannelIndex}

/-- What a physical channel hands to its bus fits. -/
theorem Channel.Fits.handed {channel : Channel} {data : List UInt8} (fits : channel.Fits data)
    (flags : UInt32) {checksumTx : Bool} (checksum : channel.bus = .kline →
      checksumTx = decide (channel.flags &&& flagChecksumDisabled = 0)) :
    Submission.Fits
      { bus := channel.bus, msg := messageTx channel.bus data flags, checksumTx } := by
  unfold Channel.Fits at fits
  unfold Submission.Fits messageTx
  cases bus : channel.bus with
  | none => exact trivial
  | can =>
      rw [bus] at fits
      dsimp only at fits ⊢
      rw [if_pos rfl, List.length_drop]
      omega
  | pwm | vpw =>
      rw [bus] at fits
      exact Nat.succ_le_succ fits
  | kline =>
      rw [bus] at fits
      rw [checksum bus]
      dsimp only at fits ⊢
      rw [if_neg (by decide)]
      by_cases enabled : channel.flags &&& flagChecksumDisabled = 0
      · rw [if_neg (not_not.2 enabled)] at fits
        rw [decide_eq_true enabled, if_pos rfl]
        dsimp only
        omega
      · rw [if_pos enabled] at fits
        rw [decide_eq_false enabled, if_neg Bool.false_ne_true]
        exact fits

/-- A bus that is served takes what its channel has to send. -/
theorem Core.Sound.ready (sound : core.Sound) (physical : i.isLogical = false)
    (connected : (core.channels i).id ≠ 0) (live : channelIsLive drivers.vif core i = true) :
    Ready (Guard.fitting drivers) core i := by
  have own := sound.standing.kind i physical
  have checksum (kline : (core.channels i).bus = .kline) : core.env.checksumTx =
      decide ((core.channels i).flags &&& flagChecksumDisabled = 0) := by
    refine sound.checks i ⟨connected, own⟩ kline ?_
    rw [channelIsLive, Bool.and_eq_true, kline] at live
    exact live.2
  have channel := sound.standing.channels i
  exact ⟨fun waits => ((channel.stored waits).own own).handed _ checksum,
    fun slot active => ((channel.scheduled slot active).takes.own own).handed _ checksum⟩

variable (drivers)

/-- A turn comes in a sound state, and what has been picked can be sent at intervals. -/
structure Turn.Serves (turn : Turn (Station σ)) : Prop where
  sound : turn.core.Sound
  scheduled : ∀ slot, turn.slot = some slot → (turn.core.channels turn.channel).Schedules
    ((turn.core.channels turn.channel).scheduler slot).message

/-- The turns of a pass serve what was accepted, and the core stays sound. -/
theorem serveTurns_sound (sound : core.Sound) (i : ChannelIndex) :
    (∀ turn ∈ (serveTurns drivers.vif core i).1, turn.Serves) ∧
      (serveTurns drivers.vif core i).2.Sound := by
  unfold serveTurns
  split
  case isTrue serves =>
    simp only [Bool.and_eq_true, Bool.not_eq_true', decide_eq_true_eq] at serves
    obtain ⟨⟨physical, connected⟩, live⟩ := serves
    have here : Tended (Guard.fitting drivers) (fun _ => True) core core := .refl core
    obtain ⟨turns, tended⟩ := here.busTurns (sound.ready physical connected live) trivial
    refine ⟨fun turn member => ?_, sound.tended tended⟩
    have served := turns turn member
    refine ⟨sound.tended served.tended, fun slot picked => ?_⟩
    have active := (served.active slot picked).2
    have serviced := served.tended.channels turn.channel
    rw [(serviced.jobs slot).message]
    exact ((sound.standing.channels turn.channel).scheduled slot active).stays
      (.of_setup serviced.setup)
  case isFalse => exact ⟨List.forall_mem_nil _, sound⟩

/-- So do the turns of all passes. -/
theorem pollTurns_sound (sound : core.Sound) (channels : List ChannelIndex) :
    (∀ turn ∈ (pollTurns drivers.vif channels core).1, turn.Serves) ∧
      (pollTurns drivers.vif channels core).2.Sound := by
  induction channels generalizing core with
  | nil => exact ⟨List.forall_mem_nil _, sound⟩
  | cons i rest ih =>
      obtain ⟨turns, served⟩ := serveTurns_sound drivers sound i
      obtain ⟨more, polled⟩ := ih served
      exact ⟨List.forall_mem_append.2 ⟨turns, more⟩, polled⟩

/-- A move of the link. -/
theorem move_sound (sound : core.Sound) (move : Move) :
    (∀ turn ∈ core.turns drivers move, turn.Serves) ∧ (core.move drivers move).Sound := by
  rcases move with req | ⟨physical, req⟩ | ⟨id, logical⟩ | op
  · refine ⟨List.forall_mem_nil _, ?_⟩
    show (connect drivers core req).2.Sound
    unfold connect
    split
    · exact sound
    · exact connectChannel_sound sound req
  · refine ⟨List.forall_mem_nil _, ?_⟩
    show (connectLogical drivers core physical req).2.Sound
    unfold connectLogical
    split
    · exact sound
    split
    · exact sound
    case h_2 i found =>
      split
      · exact logicalConnect_sound sound (connected_of_found found) req
      · exact sound
  · exact ⟨List.forall_mem_nil _, disconnect_sound sound id logical⟩
  · cases op with
    | poll =>
        by_cases on : core.device = 0
        · have polled : core.move drivers (.link .poll) = core := if_pos on
          rw [polled, Core.turns, if_pos on]
          exact ⟨List.forall_mem_nil _, sound⟩
        · rw [corePoll_turns drivers core on, Core.turns, if_neg on]
          exact pollTurns_sound drivers sound allChannels
    | request id command => exact ⟨List.forall_mem_nil _, sound_upkeep.request sound id command⟩

/-- A run. -/
theorem run_sound (sound : core.Sound) (moves : List Move) :
    (∀ state ∈ core.states drivers moves, state.Sound) ∧
      ∀ turn ∈ core.runTurns drivers moves, turn.Serves := by
  induction moves generalizing core with
  | nil => exact ⟨List.forall_mem_singleton.2 sound, List.forall_mem_nil _⟩
  | cons move moves ih =>
      obtain ⟨turns, moved⟩ := move_sound drivers sound move
      obtain ⟨states, later⟩ := ih moved
      exact ⟨List.forall_mem_cons.2 ⟨sound, states⟩, List.forall_mem_append.2 ⟨turns, later⟩⟩

/-- A device that has just been opened has nothing to send. -/
theorem opened_sound (device nextId : UInt32) (env : σ) :
    (Core.opened device nextId env).Sound where
  standing :=
    { fitting := List.forall_mem_nil _
      channels := fun _ => Channel.sound_empty
      kind := fun _ _ => rfl
      claim := fun _ own => absurd rfl own.1
      alone := fun _ _ own => absurd rfl own.1 }
  checks := fun _ own => absurd rfl own.1

end Polling

/-! ## What begins -/

/-- The configuration that `poll_tx` derives from the stored message. -/
def Channel.storedConfig (channel : Channel) : Config :=
  let cfg := { messageConfig channel channel.tx.data channel.tx.txFlags with
    timeoutAUs := channel.txTimeoutAUs }
  let address := 4 + cfg.addressLength
  { cfg with functional := channel.tx.data.take address ≠ channel.remote.take address }

/-- The sender takes the configuration, and the message behind the address. -/
structure Begins (tx : Tx) (config : Config) (payload : List UInt8) : Prop where
  init : (txInit tx config).1 = .ok
  start : ∀ now, (txStart (txInit tx config).2 payload now).1 = .ok

/-- `poll_tx` begins the stored message of a logical channel. -/
structure Channel.StoredBegins (channel : Channel) : Prop where
  begins : Begins channel.isoTx channel.storedConfig (channel.tx.data.drop channel.address)
  functional : channel.storedConfig.functional = true ↔
    channel.tx.data.take channel.address ≠ channel.remote.take channel.address
  single : channel.storedConfig.functional = true →
    (channel.tx.data.drop channel.address).length ≤ 7 - channel.config.addressLength

/-- `submit_scheduled` begins a message on a logical channel, as a single frame. -/
structure Channel.ScheduledBegins (channel : Channel) (message : ScheduledMessage) : Prop where
  begins : ∀ tx, Begins tx (messageConfig channel message.data message.flags)
    (message.data.drop channel.address)
  physical : (messageConfig channel message.data message.flags).functional = false
  single : (message.data.drop channel.address).length ≤ 7 - channel.config.addressLength

section Beginning

variable {channel : Channel}

/-- The transmitter begins every message with a valid configuration and a length that it takes. -/
theorem begins_of_valid (tx : Tx) {config : Config} {payload : List UInt8}
    (valid : validConfig config = true) (some : 0 < payload.length)
    (bounded : payload.length ≤ isotpMaxPayload)
    (single : config.functional = true → payload.length ≤ 7 - config.addressLength) :
    Begins tx config payload := by
  have init : txInit tx config = (.ok, { config }) := by
    rw [txInit, valid]
    rfl
  refine ⟨congrArg Prod.fst init, fun now => ?_⟩
  rw [init, txStart, if_neg, if_neg (not_not.2 rfl)]
  simp only [Bool.or_eq_true, Bool.and_eq_true, decide_eq_true_eq]
  rintro ((empty | long) | ⟨functional, long⟩)
  · exact Nat.ne_of_gt some empty
  · exact Nat.not_lt.2 bounded long
  · exact Nat.not_lt.2 (single functional) long

/-- The configuration for a message of an endpoint is valid. -/
theorem Channel.Endpoint.messageConfig (endpoint : channel.Endpoint) {data : List UInt8}
    {flags : UInt32} (identified : canIdValid data flags = true) :
    validConfig (J2534.messageConfig channel data flags) = true := by
  simp only [validConfig, Bool.and_eq_true]
  exact ⟨⟨⟨⟨⟨validId_messageId identified, endpoint.rxId⟩, endpoint.stmin⟩, endpoint.timeoutA⟩,
    endpoint.timeoutBs⟩, endpoint.timeoutCr⟩

/-- So is the one for the message that is stored. -/
theorem Channel.Endpoint.storedConfig (endpoint : channel.Endpoint)
    (identified : canIdValid channel.tx.data channel.tx.txFlags = true) :
    validConfig channel.storedConfig = true := by
  simp only [validConfig, Bool.and_eq_true]
  exact ⟨⟨⟨⟨⟨validId_messageId identified, endpoint.rxId⟩, endpoint.stmin⟩, endpoint.txTimeoutA⟩,
    endpoint.timeoutBs⟩, endpoint.timeoutCr⟩

/-- What a logical channel has stored begins. -/
theorem Channel.Sound.storedBegins (sound : channel.Sound) (logical : channel.parent ≠ 0)
    (waits : channel.txLen ≠ 0) : channel.StoredBegins := by
  obtain ⟨identified, addressed, bounded, remote⟩ := (sound.stored waits).logical logical
  have functional : channel.storedConfig.functional = true ↔
      channel.tx.data.take channel.address ≠ channel.remote.take channel.address :=
    decide_eq_true_iff
  have single (differs : channel.storedConfig.functional = true) :
      (channel.tx.data.drop channel.address).length ≤ 7 - channel.config.addressLength := by
    rw [List.length_drop]
    exact Nat.not_lt.1 fun several => functional.1 differs (remote several)
  refine ⟨begins_of_valid _ ((sound.endpoint logical).storedConfig identified) ?_ ?_ single,
    functional, single⟩
  · rw [List.length_drop]
    exact Nat.sub_pos_of_lt addressed
  · rwa [List.length_drop]

/-- What a logical channel sends at intervals begins. -/
theorem Channel.Sound.scheduledBegins (sound : channel.Sound) (logical : channel.parent ≠ 0)
    {message : ScheduledMessage} (schedules : channel.Schedules message) :
    channel.ScheduledBegins message := by
  have startable := schedules.takes.logical logical
  have endpoint := sound.endpoint logical
  have single : (message.data.drop channel.address).length ≤ 7 - channel.config.addressLength := by
    have short := schedules.single logical
    have address := channel.config.addressLength_le
    rw [List.length_drop, Channel.address]
    omega
  refine ⟨fun tx => begins_of_valid tx (endpoint.messageConfig startable.identified) ?_ ?_
    fun _ => single, endpoint.physical, single⟩
  · rw [List.length_drop]
    exact Nat.sub_pos_of_lt startable.addressed
  · rw [List.length_drop]
    exact startable.bounded

end Beginning

/-! ## What is accepted -/

section Accepting

variable {σ : Type*} (drivers : Drivers σ)

/-- What waits to be sent can be sent: it begins on a logical channel, and what a live physical
channel would hand to its bus fits, as everything does that has been handed to a bus. -/
structure Core.Sends (core : Core (Station σ)) : Prop where
  submitted : core.env.Fitting
  stored : ∀ i, (core.channels i).parent ≠ 0 → (core.channels i).txLen ≠ 0 →
    (core.channels i).StoredBegins
  scheduled : ∀ i slot, (core.channels i).parent ≠ 0 →
    ((core.channels i).scheduler slot).active = true →
      (core.channels i).ScheduledBegins ((core.channels i).scheduler slot).message
  storedFits : ∀ i, i.isLogical = false → (core.channels i).id ≠ 0 →
    channelIsLive drivers.vif core i = true → (core.channels i).txLen ≠ 0 →
      Submission.Fits
        { bus := (core.channels i).bus
          msg := messageTx (core.channels i).bus (core.channels i).tx.data
            (core.channels i).tx.txFlags
          checksumTx := core.env.checksumTx }
  scheduledFits : ∀ i slot, i.isLogical = false → (core.channels i).id ≠ 0 →
    channelIsLive drivers.vif core i = true →
      ((core.channels i).scheduler slot).active = true →
        Submission.Fits
          { bus := (core.channels i).bus
            msg := messageTx (core.channels i).bus ((core.channels i).scheduler slot).message.data
              ((core.channels i).scheduler slot).message.flags
            checksumTx := core.env.checksumTx }

/-- A message is stored on a channel. -/
def Core.Stores (core : Core (Station σ)) (i : ChannelIndex) (message : Message) : Prop :=
  (core.channels i).txLen ≠ 0 ∧ (core.channels i).tx.data = message.data ∧
    (core.channels i).tx.txFlags = message.txFlags

/-- A message is scheduled on a channel. -/
def Core.Plans (core : Core (Station σ)) (i : ChannelIndex) (message : ScheduledMessage) : Prop :=
  ∃ slot, ((core.channels i).scheduler slot).active = true ∧
    ((core.channels i).scheduler slot).message = message

/-- What a request accepts waits to be sent, and can be. -/
structure Core.Accepts (core : Core (Station σ)) : Prop where
  queue : ∀ id message, (request drivers.vif core id (.queue message)).1 = .ok →
    (request drivers.vif core id (.queue message)).2.Sends drivers ∧
      ∃ i given, findChannel core id = some i ∧ message = some given ∧
        (request drivers.vif core id (.queue message)).2.Stores i given
  periodic : ∀ id periodic, (request drivers.vif core id (.startPeriodic periodic)).1 = .ok →
    (request drivers.vif core id (.startPeriodic periodic)).2.Sends drivers ∧
      ∃ i given, findChannel core id = some i ∧ periodic.message = some given ∧
        (request drivers.vif core id (.startPeriodic periodic)).2.Plans i
          { flags := given.txFlags, handle := given.handle, data := given.data }
  repeats : ∀ id setup, (request drivers.vif core id (.startRepeat setup)).1 = .ok →
    (request drivers.vif core id (.startRepeat setup)).2.Sends drivers ∧
      ∃ i, findChannel core id = some i ∧
        (request drivers.vif core id (.startRepeat setup)).2.Plans i
          { flags := setup.message.flags, handle := setup.message.handle
            data := setup.message.data }

/-- What a turn comes to can be sent. -/
structure Turn.Begins (turn : Turn (Station σ)) : Prop where
  sends : turn.core.Sends drivers
  scheduled : ∀ slot, turn.slot = some slot → (turn.core.channels turn.channel).parent ≠ 0 →
    (turn.core.channels turn.channel).ScheduledBegins
      ((turn.core.channels turn.channel).scheduler slot).message

variable {drivers} {core : Core (Station σ)} {i : ChannelIndex}

/-- Every message that waits in a sound core can be sent. -/
theorem Core.Sound.sends (sound : core.Sound) : core.Sends drivers where
  submitted := sound.standing.fitting
  stored := fun i logical waits => (sound.standing.channels i).storedBegins logical waits
  scheduled := fun i slot logical active =>
    (sound.standing.channels i).scheduledBegins logical
      ((sound.standing.channels i).scheduled slot active)
  storedFits := fun _ physical connected live waits =>
    (sound.ready physical connected live).stored waits
  scheduledFits := fun _ slot physical connected live active =>
    (sound.ready physical connected live).scheduled slot active

/-- A request that is accepted in the end has passed the check. -/
theorem passedOn {α : Type*} {refuses : Prop} [Decidable refuses] {refusal : Status} {value : α}
    {rest : Status × α} (error : refuses → refusal ≠ .ok)
    (accepted : (if refuses then (refusal, value) else rest).1 = .ok) :
    (if refuses then (refusal, value) else rest) = rest ∧ rest.1 = .ok := by
  by_cases refused : refuses
  · rw [if_pos refused] at accepted
    exact absurd accepted (error refused)
  · rw [if_neg refused] at accepted ⊢
    exact ⟨rfl, accepted⟩

/-- A message that was accepted is stored as it was given. -/
theorem queueMessage_stores {message : Option Message}
    (accepted : (queueMessage drivers.vif core i message).1 = .ok) :
    ∃ given, message = some given ∧ (queueMessage drivers.vif core i message).2.Stores i given := by
  unfold queueMessage at accepted ⊢
  cases message with
  | none => cases accepted
  | some given =>
      refine ⟨given, rfl, ?_⟩
      dsimp only at accepted ⊢
      generalize validateMessage drivers.vif core i given.protocol given.txFlags given.data false =
        answer at accepted ⊢
      obtain ⟨same, accepted⟩ := passedOn (fun invalid => invalid) accepted
      rw [same]
      obtain ⟨same, accepted⟩ := passedOn (fun _ => by decide) accepted
      rw [same, storeTx]
      unfold Core.Stores
      rw [modify_channels_self]
      exact ⟨Nat.ne_of_gt (Nat.add_pos_left (by decide) _), rfl, rfl⟩

/-- A job that has been started plans its message. -/
theorem plans_changeJob (slot : Slot) {job : Job} (active : job.active = true) :
    (core.changeJob i slot .started fun _ => job).Plans i job.message := by
  refine ⟨slot, ?_⟩
  simp [Core.changeJob, Core.modifyJob, Core.record, Core.modify, active]

/-- A periodic message that was accepted is planned as it was given. -/
theorem startPeriodic_plans {periodic : Periodic}
    (accepted : (startPeriodic drivers.vif core i periodic).1 = .ok) :
    ∃ given, periodic.message = some given ∧
      (startPeriodic drivers.vif core i periodic).2.Plans i
        { flags := given.txFlags, handle := given.handle, data := given.data } := by
  unfold startPeriodic at accepted ⊢
  cases message : periodic.message with
  | none =>
      rw [message] at accepted
      cases accepted
  | some given =>
      rw [message] at accepted
      refine ⟨given, rfl, ?_⟩
      dsimp only at accepted ⊢
      obtain ⟨same, accepted⟩ := passedOn (fun _ => by decide) accepted
      rw [same]
      generalize validateMessage drivers.vif core i given.protocol given.txFlags given.data true =
        answer at accepted ⊢
      obtain ⟨same, accepted⟩ := passedOn (fun invalid => invalid) accepted
      rw [same]
      cases free : scheduleAllocate (answer.2.channels i).scheduler false with
      | none =>
          rw [free] at accepted
          cases accepted
      | some slot => exact plans_changeJob slot rfl

/-- So is a repeat. -/
theorem startRepeat_plans {setup : RepeatSetup}
    (accepted : (startRepeat drivers.vif core i setup).1 = .ok) :
    (startRepeat drivers.vif core i setup).2.Plans i
      { flags := setup.message.flags, handle := setup.message.handle
        data := setup.message.data } := by
  unfold startRepeat at accepted ⊢
  dsimp only at accepted ⊢
  obtain ⟨same, accepted⟩ := passedOn (fun _ => by decide) accepted
  rw [same]
  obtain ⟨same, accepted⟩ := passedOn (fun _ => by decide) accepted
  rw [same]
  obtain ⟨same, accepted⟩ := passedOn (fun _ => by decide) accepted
  rw [same]
  obtain ⟨same, accepted⟩ := passedOn (fun _ => by decide) accepted
  rw [same]
  generalize validateMessage drivers.vif core i setup.message.protocol setup.message.flags
    setup.message.data true = answer at accepted ⊢
  obtain ⟨same, accepted⟩ := passedOn (fun invalid => invalid) accepted
  rw [same]
  obtain ⟨same, accepted⟩ := passedOn (fun invalid => invalid) accepted
  rw [same]
  cases free : scheduleAllocate (answer.2.channels i).scheduler true with
  | none =>
      rw [free] at accepted
      cases accepted
  | some slot => exact plans_changeJob slot rfl

/-- A request that is accepted has found its channel. -/
theorem request_ok {id : UInt32} {command : Command}
    (accepted : (request drivers.vif core id command).1 = .ok) :
    ∃ i, findChannel core id = some i ∧ (perform drivers.vif core i command).1 = .ok ∧
      request drivers.vif core id command = perform drivers.vif core i command := by
  unfold request at accepted ⊢
  obtain ⟨same, accepted⟩ := passedOn (fun _ => by decide) accepted
  rw [same]
  cases found : findChannel core id with
  | none =>
      rw [found] at accepted
      cases accepted
  | some i =>
      rw [found] at accepted
      dsimp only at accepted ⊢
      by_cases live : channelIsLive drivers.vif core i = true
      · rw [if_pos live] at accepted ⊢
        exact ⟨i, rfl, accepted, rfl⟩
      · rw [if_neg live] at accepted
        cases accepted

/-- Whatever a sound core accepts is stored or planned to be sent. -/
theorem Core.Sound.accepts (sound : core.Sound) : core.Accepts drivers where
  queue := fun id message accepted => by
    obtain ⟨i, found, performed, same⟩ := request_ok accepted
    obtain ⟨given, some, stored⟩ := queueMessage_stores performed
    refine ⟨(sound_upkeep.request sound id _).sends, i, given, found, some, ?_⟩
    rw [same]
    exact stored
  periodic := fun id periodic accepted => by
    obtain ⟨i, found, performed, same⟩ := request_ok accepted
    obtain ⟨given, some, planned⟩ := startPeriodic_plans performed
    refine ⟨(sound_upkeep.request sound id _).sends, i, given, found, some, ?_⟩
    rw [same]
    exact planned
  repeats := fun id setup accepted => by
    obtain ⟨i, found, performed, same⟩ := request_ok accepted
    refine ⟨(sound_upkeep.request sound id _).sends, i, found, ?_⟩
    rw [same]
    exact startRepeat_plans performed

/-- A turn that serves a message begins it. -/
theorem Turn.Serves.begins {turn : Turn (Station σ)} (serves : turn.Serves) :
    turn.Begins drivers where
  sends := serves.sound.sends
  scheduled := fun slot picked logical =>
    (serves.sound.standing.channels turn.channel).scheduledBegins logical
      (serves.scheduled slot picked)

/-- In every state of every run from an opened device on, what has been accepted can be sent, and
so can what is accepted next, and what any turn comes to. -/
theorem accepted_messages_begin (drivers : Drivers σ) (device nextId : UInt32) (env : σ)
    (moves : List Move) :
    (∀ state ∈ (Core.opened device nextId env).states drivers moves,
        state.Sends drivers ∧ state.Accepts drivers) ∧
      ∀ turn ∈ (Core.opened device nextId env).runTurns drivers moves, turn.Begins drivers := by
  obtain ⟨states, turns⟩ := run_sound drivers (opened_sound device nextId env) moves
  exact ⟨fun state member => ⟨(states state member).sends, (states state member).accepts⟩,
    fun turn member => (turns turn member).begins⟩

end Accepting

/-- A logical channel has been connected on CAN. -/
def peer : Core (Station Script) :=
  [.connect
      { device := 1, protocol := protocolCan, baudrate := 500000, connector := 1, pins := [6, 14] },
    .connectLogical 2
      { protocol := protocolIsotp, localAddress := [0, 0, 7, 0xe8]
        remoteAddress := [0, 0, 7, 0xe0] }].foldl
    (Core.move Script.drivers) (Core.opened 1 1 {})

/-- A message to all. -/
def broadcast : Periodic where
  intervalMs := 100
  message := some { protocol := protocolIsotp, data := [0, 0, 7, 0xdf, 1, 0] }

/-- What is scheduled is sent with the configuration of the channel, which is not functional, where
the address of the message is not the remote one. -/
theorem scheduled_broadcast_not_functional :
    let answer := request Script.drivers.vif peer 3 (.startPeriodic broadcast)
    let channel := answer.2.channels 3
    let job := channel.scheduler ⟨0, by decide⟩
    let message := job.message
    answer.1 = .ok ∧ job.active = true ∧ message.data.drop 4 = [1, 0] ∧
      ¬ ((messageConfig channel message.data message.flags).functional = true ↔
        message.data.take channel.address ≠ channel.remote.take channel.address) := by
  decide +kernel

end OpenDiag.J2534
