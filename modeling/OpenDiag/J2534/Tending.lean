import OpenDiag.J2534.PlanRuns
import OpenDiag.J2534.Turns

/-!
# What service leaves alone

Polling and servicing a bus change how far the channels are, never what they are set up as, and
never what a stored or scheduled message says. What is kept of the vehicle interface, and what may
be handed to it, is a parameter.
-/

namespace OpenDiag.J2534

open Isotp

/-! ## Relations -/

/-- What a channel is set up as, with its stored message. -/
structure Setup where
  id : UInt32
  parent : UInt32
  protocol : UInt32
  flags : UInt32
  bus : Bus
  tx : StoredTx
  config : Config
  remoteFlags : UInt32
  txTimeoutAUs : Time
  remote : List UInt8

def Channel.setup (channel : Channel) : Setup where
  id := channel.id
  parent := channel.parent
  protocol := channel.protocol
  flags := channel.flags
  bus := channel.bus
  tx := channel.tx
  config := channel.config
  remoteFlags := channel.remoteFlags
  txTimeoutAUs := channel.txTimeoutAUs
  remote := channel.remote

/-- The channel is set up as it was; its messages are what they were, or have ended. -/
structure Channel.Serviced (channel next : Channel) : Prop where
  setup : next.setup = channel.setup
  waiting : next.txLen ≠ 0 → channel.txLen ≠ 0
  jobs : ∀ slot, (channel.scheduler slot).Abides (next.scheduler slot)
  flow : channel.flowControl.dlc ≤ 8 → next.flowControl.dlc ≤ 8

/-- Nothing that service may change of a channel has changed. -/
structure Channel.Untouched (channel next : Channel) : Prop where
  setup : next.setup = channel.setup
  txLen : next.txLen = channel.txLen
  scheduler : next.scheduler = channel.scheduler
  flowControl : next.flowControl = channel.flowControl
  cursor : next.txCursor = channel.txCursor

/-- Every channel has been serviced at most, and only the free ones may have moved their cursor. -/
structure Tended {σ : Type*} {vif : Vif σ} (guard : Guard vif) (free : ChannelIndex → Prop)
    (core next : Core σ) : Prop where
  channels : ∀ i, (core.channels i).Serviced (next.channels i)
  cursor : ∀ i, ¬ free i → (next.channels i).txCursor = (core.channels i).txCursor
  env : guard.Kept core.env next.env

/-! ## Jobs -/

section Jobs

/-- A transmission that has ended moves the time of a job, not its message. -/
theorem Job.transmitted_abides (job : Job) (startedUs endedUs : Time) :
    job.Abides (job.transmitted startedUs endedUs) := by
  unfold Job.transmitted
  split
  · exact .refl job
  · exact ⟨rfl, fun active => active⟩

/-- A job whose transmission is done goes on with its message, or ends. -/
theorem Job.complete_abides (job : Job) (success : Bool) (startedUs endedUs : Time) :
    job.Abides (job.complete success startedUs endedUs) := by
  unfold Job.complete
  dsimp only
  split
  · exact ⟨rfl, fun active => absurd active Bool.false_ne_true⟩
  · have reported : job.Abides { job with pending := false } := ⟨rfl, fun active => active⟩
    exact reported.trans (Job.transmitted_abides ..)

/-- Whatever becomes of a transmission, its job says what it said. -/
theorem JobChange.makes_abides (what : JobChange) (job : Job) : job.Abides (what.makes job) := by
  cases what with
  | started => exact .refl job
  | transmitted => exact job.transmitted_abides ..
  | completed => exact job.complete_abides ..
  | deferred => exact ⟨rfl, fun active => active⟩

end Jobs

/-! ## Channels -/

section Channels

/-- A channel that has not been touched has been serviced at most. -/
theorem Channel.Untouched.serviced {channel next : Channel} (same : channel.Untouched next) :
    channel.Serviced next where
  setup := same.setup
  waiting := fun waits => same.txLen ▸ waits
  jobs := fun slot => by
    rw [same.scheduler]
    exact .refl _
  flow := fun short => same.flowControl ▸ short

theorem Channel.Serviced.refl (channel : Channel) : channel.Serviced channel :=
  Channel.Untouched.serviced ⟨rfl, rfl, rfl, rfl, rfl⟩

/-- Being serviced twice is being serviced: a message that waits after both waited before. -/
theorem Channel.Serviced.trans {channel mid next : Channel} (first : channel.Serviced mid)
    (second : mid.Serviced next) : channel.Serviced next where
  setup := second.setup.trans first.setup
  waiting := fun waits => first.waiting (second.waiting waits)
  jobs := fun slot => (first.jobs slot).trans (second.jobs slot)
  flow := fun short => second.flow (first.flow short)

section Same

variable {channel next : Channel} (serviced : channel.Serviced next)
include serviced

theorem Channel.Serviced.id : next.id = channel.id := congrArg Setup.id serviced.setup
theorem Channel.Serviced.parent : next.parent = channel.parent :=
  congrArg Setup.parent serviced.setup
theorem Channel.Serviced.bus : next.bus = channel.bus := congrArg Setup.bus serviced.setup
theorem Channel.Serviced.tx : next.tx = channel.tx := congrArg Setup.tx serviced.setup

end Same

/-- The scheduler has changed. -/
theorem Channel.Serviced.schedule {channel : Channel} {scheduler : Scheduler}
    (jobs : ∀ slot, (channel.scheduler slot).Abides (scheduler slot)) :
    channel.Serviced { channel with scheduler } :=
  ⟨rfl, fun waits => waits, jobs, fun short => short⟩

end Channels

/-! ## Scheduled messages -/

section Scheduled

variable {σ : Type*} {vif : Vif σ} {core : Core σ} {i : ChannelIndex}

/-- A scheduled message of a channel that stands for its own bus goes out as its client gave it. -/
theorem scheduledTx_of_own (slot : Slot) (own : (core.channels i).parent = 0) :
    (scheduledTx vif core i slot).1 = some
      (messageTx (core.channels i).bus ((core.channels i).scheduler slot).message.data
        ((core.channels i).scheduler slot).message.flags) := by
  unfold scheduledTx messageTx
  dsimp only
  rw [if_neg (not_not.2 own)]
  split <;> rfl

/-- A scheduled message of a logical channel goes out as a single frame. -/
theorem scheduledTx_length_le {slot : Slot} (logical : (core.channels i).parent ≠ 0)
    {msg : BusTx} (given : (scheduledTx vif core i slot).1 = some msg) : msg.data.length ≤ 8 := by
  unfold scheduledTx at given
  dsimp only at given
  rw [if_pos logical] at given
  split at given
  · cases given
  · split at given
    · cases given
      exact length_load_frame_le _
    · cases given

end Scheduled

/-! ## The core -/

section Tending

variable {σ : Type*} {vif : Vif σ} {guard : Guard vif} {free : ChannelIndex → Prop}
  {core mid next : Core σ}

theorem Tended.refl (core : Core σ) : Tended guard free core core :=
  ⟨fun _ => .refl _, fun _ _ => rfl, guard.refl _⟩

/-- Service can be taken in parts. -/
theorem Tended.trans (first : Tended guard free core mid) (second : Tended guard free mid next) :
    Tended guard free core next where
  channels := fun i => (first.channels i).trans (second.channels i)
  cursor := fun i fixed => (second.cursor i fixed).trans (first.cursor i fixed)
  env := guard.trans first.env second.env

variable (before : Tended guard free core mid)
include before

/-- One channel is serviced, and its cursor stays. -/
theorem Tended.modify (i : ChannelIndex) {change : Channel → Channel}
    (serviced : (mid.channels i).Serviced (change (mid.channels i)))
    (cursor : (change (mid.channels i)).txCursor = (mid.channels i).txCursor) :
    Tended guard free core (mid.modify i change) := by
  refine before.trans ⟨fun j => ?_, fun j _ => ?_, guard.refl _⟩
  · by_cases here : j = i
    · subst here
      simpa [Core.modify] using serviced
    · simpa [Core.modify, Function.update_of_ne here] using Channel.Serviced.refl _
  · by_cases here : j = i
    · subst here
      simpa [Core.modify] using cursor
    · simp [Core.modify, Function.update_of_ne here]

/-- A channel is changed where it is not serviced. -/
theorem Tended.plain (i : ChannelIndex) {change : Channel → Channel}
    (same : (mid.channels i).Untouched (change (mid.channels i))) :
    Tended guard free core (mid.modify i change) :=
  before.modify i same.serviced same.cursor

/-- A free channel moves its cursor. -/
theorem Tended.moveCursor (i : ChannelIndex) (moves : free i) (txCursor : Nat) :
    Tended guard free core (mid.modify i fun channel => { channel with txCursor }) := by
  refine before.trans ⟨fun j => ?_, fun j fixed => ?_, guard.refl _⟩
  · by_cases here : j = i
    · subst here
      have moved : (mid.channels j).Serviced { mid.channels j with txCursor } :=
        ⟨rfl, fun waits => waits, fun _ => .refl _, fun short => short⟩
      simpa [Core.modify] using moved
    · simpa [Core.modify, Function.update_of_ne here] using Channel.Serviced.refl _
  · have here : j ≠ i := fun same => fixed (same ▸ moves)
    simp [Core.modify, Function.update_of_ne here]

/-- The vehicle interface is called, and keeps what the guard asks for. -/
theorem Tended.withEnv {env : σ} (kept : guard.Kept mid.env env) :
    Tended guard free core { mid with env } :=
  before.trans ⟨fun _ => .refl _, fun _ _ => rfl, kept⟩

/-- The clock is read. -/
theorem Tended.now : Tended guard free core (mid.now vif).2 :=
  before.withEnv (guard.now _)

/-- The history says nothing of messages that wait. -/
theorem Tended.record (event : Event) : Tended guard free core (mid.record event) :=
  before.trans ⟨fun _ => .refl _, fun _ _ => rfl, guard.refl _⟩

/-- A job may end, but it does not begin and says what it said. -/
theorem Tended.modifyJob (i : ChannelIndex) (slot : Slot) {change : Job → Job}
    (abides : ((mid.channels i).scheduler slot).Abides
      (change ((mid.channels i).scheduler slot))) :
    Tended guard free core (mid.modifyJob i slot change) := by
  refine before.modify i (.schedule fun other => ?_) rfl
  by_cases here : other = slot
  · subst here
    simpa using abides
  · simpa [Function.update_of_ne here] using Job.Abides.refl _

/-! ## What service changes -/

omit before in
/-- A transmission or a reception that moves on leaves a channel what it was set up as. -/
theorem Channel.Aside.serviced {channel next : Channel} (aside : channel.Aside next) :
    channel.Serviced next where
  setup := (congrArg Channel.setup aside.same :)
  waiting := aside.waiting
  jobs := fun slot => by
    rw [aside.held.scheduler]
    exact .refl _
  flow := aside.flow

/-- What may be changed of a core that is tended to: anything that service changes. -/
def Matter.isService : Matter → Bool :=
  fun _ => true

omit before in
/-- Whatever service changes, the channels have been tended to. -/
theorem Core.Change.tended {within : Matter → Bool} (change : Core.Change guard within core next) :
    Tended guard free core next := by
  have here : Tended guard free core core := .refl core
  cases change with
  | call kept => exact here.withEnv kept
  | note => exact here.record _
  | touch i aside =>
      exact here.modify i aside.serviced (congrArg Channel.txCursor aside.same :)
  | enqueue i => exact (here.plain i ⟨rfl, rfl, rfl, rfl, rfl⟩).record _
  | lapse i change fits lapses =>
      exact here.modify i (.schedule fun slot => (lapses slot).toAbides) rfl
  | lose i =>
      have lossy : (core.channels i).Serviced
          { core.channels i with
            queue := { (core.channels i).queue with overflow := true }
            scheduler := scheduleReceiveLost (core.channels i).scheduler } :=
        ⟨rfl, id, fun slot => (scheduleReceiveLost_lapses _ slot).toAbides, id⟩
      exact (here.modify i lossy rfl).record _
  | job i slot what => exact (here.modifyJob i slot (what.makes_abides _)).record _
  | receive => exact here.record _
  | drain p => exact here.plain p ⟨rfl, rfl, rfl, rfl, rfl⟩
  | begin p => exact here.plain p ⟨rfl, rfl, rfl, rfl, rfl⟩

omit before in
/-- Any number of changes are service, by induction on the changes. -/
theorem Core.Changes.tended {within : Matter → Bool}
    (changes : Core.Changes guard within core next) : Tended guard free core next := by
  induction changes with
  | refl => exact .refl core
  | tail _ change ih => exact ih.trans change.tended

/-- Service goes on with what a poll changes. -/
theorem Tended.service (changes : Core.Changes guard Matter.isService mid next) :
    Tended guard free core next :=
  before.trans changes.tended

theorem Tended.finishBusTx (p : ChannelIndex) (result : TxResult) :
    Tended guard free core (finishBusTx vif mid p result) :=
  before.service (.finishBusTx (.refl mid) p result (fun _ => rfl) fun _ => rfl)

theorem Tended.collectBusTx (p : ChannelIndex) :
    Tended guard free core (collectBusTx vif mid p) :=
  before.service (.collectBusTx (.refl mid) p (fun _ => rfl) fun _ => rfl)

theorem Tended.cancelChannelTx (i : ChannelIndex) :
    Tended guard free core (cancelChannelTx vif mid i) :=
  before.service (.cancelChannelTx (.refl mid) i)

/-- What is received leaves what is to be sent alone. -/
theorem Tended.pollRx (p : ChannelIndex) : Tended guard free core (pollRx vif mid p) :=
  before.service (.pollRx (.refl mid) rfl rfl rfl rfl p)

/-- A stored message begins. -/
theorem Tended.startTx (i : ChannelIndex) : Tended guard free core (startTx vif mid i) :=
  before.service (.startTx (.refl mid) i)

/-- A stored message is handed over where the bus admits it. -/
theorem Tended.pollTx (i : ChannelIndex)
    (fits : (mid.channels i).parent = 0 → (mid.channels i).txLen ≠ 0 →
      guard.Admits mid.env (mid.channels i).bus
        (messageTx (mid.channels i).bus (mid.channels i).tx.data (mid.channels i).tx.txFlags)) :
    Tended guard free core (pollTx vif mid i) :=
  before.service (.pollTx (.refl mid) i rfl fits)

theorem Tended.serviceFlow (p : ChannelIndex) (sent : Nat) :
    Tended guard free core (serviceFlow vif p sent mid) :=
  before.service (.serviceFlow (.refl mid) p sent rfl fun _ _ => rfl)

/-! ## Scheduled messages -/

/-- Of a scheduled message, the frames are made. -/
theorem Tended.scheduledTx (i : ChannelIndex) (slot : Slot) :
    Tended guard free core (scheduledTx vif mid i slot).2 := by
  unfold J2534.scheduledTx
  dsimp only
  split
  · split
    · exact before.now
    · split
      · exact before.now.now
      · exact before.now.now
  · split
    · exact before
    · exact before

/-- A scheduled message is handed over, provided that its bus takes it. -/
theorem Tended.submitScheduled (i : ChannelIndex) (slot : Slot)
    (fits : (mid.channels i).parent = 0 → guard.Admits mid.env (mid.channels i).bus
      (messageTx (mid.channels i).bus ((mid.channels i).scheduler slot).message.data
        ((mid.channels i).scheduler slot).message.flags)) :
    Tended guard free core (submitScheduled vif mid i slot) := by
  have made : Tended guard free mid (J2534.scheduledTx vif mid i slot).2 :=
    (Tended.refl mid).scheduledTx i slot
  have own : (mid.channels i).parent = 0 → (J2534.scheduledTx vif mid i slot).1 = some
      (messageTx (mid.channels i).bus ((mid.channels i).scheduler slot).message.data
        ((mid.channels i).scheduler slot).message.flags) := scheduledTx_of_own slot
  have small : (mid.channels i).parent ≠ 0 → ∀ {msg : BusTx},
      (J2534.scheduledTx vif mid i slot).1 = some msg → msg.data.length ≤ 8 :=
    scheduledTx_length_le
  refine before.trans ?_
  unfold J2534.submitScheduled
  extract_lets job
  generalize J2534.scheduledTx vif mid i slot = answer at made own small
  obtain ⟨msg, after⟩ := answer
  cases msg with
  | none => exact made.modifyJob i slot ⟨rfl, fun active => absurd active Bool.false_ne_true⟩
  | some msg =>
      have started : Tended guard free mid (after.modifyJob i slot fun job =>
          { job with pending := true, transmissionEnded := false }) :=
        made.modifyJob i slot ⟨rfl, fun active => active⟩
      have serviced := started.channels i
      refine started.service (.submitBusTx (.refl _) i _ _ _ _ _ rfl (fun _ => ⟨rfl, rfl⟩) ?_)
      intro p physical
      by_cases parent : (mid.channels i).parent = 0
      · obtain rfl := physicalChannel_of_own (serviced.parent.trans parent) physical
        rw [Option.some.inj (own parent), serviced.bus]
        exact guard.admits started.env (fits parent)
      · exact guard.small _ _ _ (small parent rfl)

omit before in
/-- Service moves no channel to another bus. -/
theorem Tended.onBus (tended : Tended guard free core next) (p i : ChannelIndex) :
    onBus next p i = onBus core p i :=
  onBus_of_ids (fun j => (tended.channels j).id) (fun j => (tended.channels j).parent) p i

end Tending

/-! ## The pick -/

section Picks

variable {σ : Type*} {vif : Vif σ} {guard : Guard vif} {free : ChannelIndex → Prop}
  {core mid : Core σ} {p : ChannelIndex}

/-- A pick is an active job of a channel of the bus. -/
def Picked (core : Core σ) (p : ChannelIndex) (next : Option (ChannelIndex × Slot)) : Prop :=
  ∀ i slot, next = some (i, slot) →
    onBus core p i = true ∧ ((core.channels i).scheduler slot).active = true

/-- One channel is checked, and may be picked from. -/
theorem Tended.checkChannel (before : Tended guard free core mid)
    {next : Option (ChannelIndex × Slot)} (picked : Picked core p next) (now : Time)
    (i : ChannelIndex) :
    Tended guard free core (checkChannel p now (mid, next) i).1 ∧
      Picked core p (J2534.checkChannel p now (mid, next) i).2 := by
  unfold J2534.checkChannel
  dsimp -zeta only
  split
  · exact ⟨before, picked⟩
  case isFalse on =>
    rw [Bool.not_eq_true', Bool.not_eq_false] at on
    have own : J2534.onBus core p i = true := before.onBus p i ▸ on
    extract_lets channel aged drained expired
    have aging : Tended guard free core aged := by
      unfold aged
      split
      · exact (before.plain i ⟨rfl, rfl, rfl, rfl, rfl⟩).record _
      · exact before
    have expiring : Tended guard free core expired := by
      unfold expired
      split
      · exact aging.modify i (.schedule fun slot => (scheduleExpire_lapses _ now slot).toAbides) rfl
      · exact aging
    have active (slot : Slot)
        (found : scheduleNext (expired.channels i).scheduler now drained = some slot) :
        Picked core p (some (i, slot)) := by
      rintro _ _ ⟨⟩
      have eligible := scheduleNext_eligible found
      simp only [Job.eligible, Bool.and_eq_true] at eligible
      exact ⟨own, ((expiring.channels i).jobs slot).active eligible.1.1.1⟩
    split
    · exact ⟨expiring, picked⟩
    case h_2 slot found =>
      split
      · exact ⟨expiring, active slot found⟩
      · split
        · exact ⟨expiring, active slot found⟩
        · exact ⟨expiring, picked⟩

/-- Every channel is checked. -/
theorem Tended.checkChannels (before : Tended guard free core mid) (now : Time) :
    Tended guard free core (allChannels.foldl (J2534.checkChannel p now) (mid, none)).1 ∧
      Picked core p (allChannels.foldl (J2534.checkChannel p now) (mid, none)).2 := by
  refine List.foldlRecOn (motive := fun state : Core σ × Option (ChannelIndex × Slot) =>
    Tended guard free core state.1 ∧ Picked core p state.2) _ _ ?_ ?_
  · exact ⟨before, fun _ _ wrong => nomatch wrong⟩
  · rintro ⟨last, next⟩ ⟨tended, picked⟩ i _
    exact tended.checkChannel picked now i

/-- Before anything is sent, a bus is serviced and a scheduled message is picked from its
channels. -/
theorem Tended.prepareBus (before : Tended guard free core mid) :
    Tended guard free core (prepareBus vif mid p).2.2 ∧
      Picked core p (J2534.prepareBus vif mid p).2.1 := by
  unfold J2534.prepareBus
  extract_lets collected received
  have checked (now : Time) : _ :=
    ((before.collectBusTx p).pollRx p : Tended guard free core received).now.checkChannels
      (p := p) now
  generalize received.now vif = timed at checked ⊢
  dsimp only
  exact ⟨(checked timed.1).1.service (.cancelEnded (.refl _) p), (checked timed.1).2⟩

end Picks

/-! ## Turns -/

section Turns

variable {σ : Type*} {vif : Vif σ} {guard : Guard vif} {free : ChannelIndex → Prop}
  {core mid : Core σ} {p : ChannelIndex}

/-- What the bus of a channel admits: its stored message, and its scheduled messages. -/
structure Ready (guard : Guard vif) (core : Core σ) (p : ChannelIndex) : Prop where
  stored : (core.channels p).txLen ≠ 0 → guard.Admits core.env (core.channels p).bus
    (messageTx (core.channels p).bus (core.channels p).tx.data (core.channels p).tx.txFlags)
  scheduled : ∀ slot, ((core.channels p).scheduler slot).active = true →
    guard.Admits core.env (core.channels p).bus
      (messageTx (core.channels p).bus ((core.channels p).scheduler slot).message.data
        ((core.channels p).scheduler slot).message.flags)

/-- What was ready before is ready when it has been serviced. -/
theorem Ready.tended (ready : Ready guard core p) (tended : Tended guard free core mid) :
    Ready guard mid p where
  stored := fun waits => by
    rw [(tended.channels p).bus, (tended.channels p).tx]
    exact guard.admits tended.env (ready.stored ((tended.channels p).waiting waits))
  scheduled := fun slot active => by
    rw [(tended.channels p).bus, ((tended.channels p).jobs slot).message]
    exact guard.admits tended.env
      (ready.scheduled slot (((tended.channels p).jobs slot).active active))

/-- A channel of the bus that is no logical channel is the bus's own. -/
theorem own_of_onBus {i : ChannelIndex} (on : onBus core p i = true)
    (own : (core.channels i).parent = 0) : i = p := by
  rw [onBus, Bool.and_eq_true, decide_eq_true_eq, decide_eq_true_eq] at on
  exact physicalChannel_of_own own on.2

/-- A stored message of a channel on a bus that is ready is one that the bus takes. -/
theorem Tended.pollOnBus (before : Tended guard free core mid) (ready : Ready guard mid p)
    {i : ChannelIndex} (on : J2534.onBus mid p i = true) :
    Tended guard free core (J2534.pollTx vif mid i) :=
  before.pollTx i fun own => own_of_onBus on own ▸ ready.stored

/-- The scan for a stored message tends to the channels, at each of its turns and at its end. -/
theorem Tended.scanTx (before : Tended guard free core mid) (ready : Ready guard mid p)
    (moves : free p) (cursor : Nat) (offsets : List Nat) :
    (∀ turn ∈ (scanTx vif p cursor offsets mid).1, Tended guard free core turn.core ∧
        turn.physical = p ∧ turn.slot = none) ∧
      Tended guard free core (J2534.scanTx vif p cursor offsets mid).2 := by
  induction offsets generalizing mid with
  | nil => exact ⟨by simp [J2534.scanTx], before⟩
  | cons offset offsets ih =>
      let turn : Turn σ :=
        { physical := p, channel := Fin.ofNat _ (cursor + offset), core := mid }
      have first : Tended guard free core turn.core ∧ turn.physical = p ∧ turn.slot = none :=
        ⟨before, rfl, rfl⟩
      have scanned (state : Core σ) (tended : Tended guard free mid state) :=
        ih (before.trans tended) (ready.tended tended)
      rw [J2534.scanTx]
      dsimp only
      split
      case isTrue on =>
        have polled : Tended guard free mid (turn.after vif) :=
          (Tended.refl mid).pollOnBus ready on
        split
        · exact ⟨List.forall_mem_singleton.2 first, (before.trans polled).moveCursor p moves _⟩
        · exact ⟨List.forall_mem_cons.2 ⟨first, (scanned _ polled).1⟩, (scanned _ polled).2⟩
      · exact ⟨List.forall_mem_cons.2 ⟨first, (scanned _ (.refl mid)).1⟩,
          (scanned _ (.refl mid)).2⟩

/-- What holds of a turn of a bus: the channels have been tended to so far, and a scheduled message
was an active one. -/
structure Turn.Sound (guard : Guard vif) (free : ChannelIndex → Prop) (core : Core σ)
    (p : ChannelIndex) (turn : Turn σ) : Prop where
  tended : Tended guard free core turn.core
  physical : turn.physical = p
  active : ∀ slot, turn.slot = some slot → onBus core p turn.channel = true ∧
    ((core.channels turn.channel).scheduler slot).active = true

/-- What is sent in a pass is sent in turns, each sound, and the pass only services. -/
theorem Tended.startTurns (before : Tended guard free core mid) (ready : Ready guard core p)
    (moves : free p) (now : Time) {next : Option (ChannelIndex × Slot)}
    (picked : Picked core p next) :
    (∀ turn ∈ (startTurns vif mid p now next).1, turn.Sound guard free core p) ∧
      Tended guard free core (J2534.startTurns vif mid p now next).2 := by
  unfold J2534.startTurns
  extract_lets flowed
  have flowing : Tended guard free core flowed := before.serviceFlow p _
  split
  · exact ⟨List.forall_mem_nil _, flowing⟩
  cases next with
  | none =>
      have scanned := flowing.scanTx (ready.tended flowing) moves (flowed.channels p).txCursor
        (List.range (physicalMax + logicalMax))
      refine ⟨fun turn member => ?_, scanned.2.collectBusTx p⟩
      obtain ⟨tended, physical, stored⟩ := scanned.1 turn member
      exact ⟨tended, physical, fun slot given => nomatch stored.symm.trans given⟩
  | some pick =>
      obtain ⟨selected, slot⟩ := pick
      have recorded : Tended guard free core (recordPick flowed p now selected slot) :=
        flowing.record _
      have on := (picked selected slot rfl).1
      refine ⟨List.forall_mem_singleton.2 ⟨recorded, rfl, ?_⟩, ?_⟩
      · rintro _ ⟨⟩
        exact picked selected slot rfl
      · refine Tended.collectBusTx (recorded.submitScheduled selected slot fun own => ?_) p
        obtain rfl := own_of_onBus ((recorded.onBus p selected).trans on) own
        have serviced := recorded.channels selected
        rw [serviced.bus, (serviced.jobs slot).message]
        exact guard.admits recorded.env (ready.scheduled slot (picked selected slot rfl).2)

/-- Servicing a bus tends to the channels, at each of its turns and at its end. -/
theorem Tended.busTurns (before : Tended guard free core mid) (ready : Ready guard core p)
    (moves : free p) :
    (∀ turn ∈ (busTurns vif mid p).1, turn.Sound guard free core p) ∧
      Tended guard free core (J2534.busTurns vif mid p).2 := by
  obtain ⟨prepared, picked⟩ := before.prepareBus (p := p)
  unfold J2534.busTurns
  generalize J2534.prepareBus vif mid p = answer at prepared picked ⊢
  dsimp only
  split
  · exact ⟨List.forall_mem_nil _, prepared⟩
  · exact prepared.startTurns ready moves _ picked

end Turns

end OpenDiag.J2534
