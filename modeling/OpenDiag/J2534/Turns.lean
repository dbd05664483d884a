import OpenDiag.J2534.Connect

/-!
# Turns

The calls of `poll_tx` and `submit_scheduled`, in the order in which `service_bus` makes them. Each
is recorded with the state it is made in, and recording changes nothing.
-/

namespace OpenDiag.J2534

/-- A channel that `service_bus` comes to, for the scheduled message that it has picked or for the
stored message. -/
structure Turn (σ : Type*) where
  physical : ChannelIndex
  channel : ChannelIndex
  slot : Option Slot := none
  core : Core σ

section Code

variable {σ : Type*} (vif : Vif σ)

/-- A channel of another bus is passed over. -/
def Turn.taken (turn : Turn σ) : Bool :=
  onBus turn.core turn.physical turn.channel

/-- The state behind the call. -/
def Turn.after (turn : Turn σ) : Core σ :=
  match turn.slot with
  | none => pollTx vif turn.core turn.channel
  | some slot => submitScheduled vif turn.core turn.channel slot

/-- `serviceTx`, with its turns. -/
def scanTx (p : ChannelIndex) (cursor : Nat) : List Nat → Core σ → List (Turn σ) × Core σ
  | [], core => ([], core)
  | offset :: offsets, core =>
    let turn : Turn σ := { physical := p, channel := Fin.ofNat _ (cursor + offset), core }
    if turn.taken then
      let core := turn.after vif
      if (core.channels p).pending.kind ≠ .none then
        ([turn], core.modify p fun channel =>
          { channel with txCursor := (turn.channel.val + 1) % (physicalMax + logicalMax) })
      else
        let (turns, core) := scanTx p cursor offsets core
        (turn :: turns, core)
    else
      let (turns, core) := scanTx p cursor offsets core
      (turn :: turns, core)

/-- `startTransmission`, with its turns. -/
def startTurns (core : Core σ) (p : ChannelIndex) (now : Time)
    (next : Option (ChannelIndex × Slot)) : List (Turn σ) × Core σ :=
  let core := serviceFlow vif p logicalMax core
  if (core.channels p).pending.kind ≠ .none then ([], core)
  else
    let (turns, core) := match next with
      | some (selected, slot) =>
        let turn : Turn σ :=
          { physical := p, channel := selected, slot := some slot
            core := recordPick core p now selected slot }
        ([turn], turn.after vif)
      | none => scanTx vif p (core.channels p).txCursor
          (List.range (physicalMax + logicalMax)) core
    (turns, collectBusTx vif core p)

/-- `serviceBus`, up to where a transmission may be started: the time, the pick and the state. -/
def prepareBus (core : Core σ) (p : ChannelIndex) :
    Time × Option (ChannelIndex × Slot) × Core σ :=
  let core := collectBusTx vif core p
  let core := pollRx vif core p
  let (now, core) := core.now vif
  let (core, next) := allChannels.foldl (checkChannel p now) (core, none)
  (now, next, cancelEnded vif core p)

/-- `serviceBus`, with its turns. -/
def busTurns (core : Core σ) (p : ChannelIndex) : List (Turn σ) × Core σ :=
  let (now, next, core) := prepareBus vif core p
  if (core.channels p).pending.kind ≠ .none || (core.channels p).linkDown then ([], core)
  else startTurns vif core p now next

/-- `corePoll`, for one channel, with its turns. -/
def serveTurns (core : Core σ) (i : ChannelIndex) : List (Turn σ) × Core σ :=
  if !i.isLogical && (core.channels i).id ≠ 0 && channelIsLive vif core i then busTurns vif core i
  else ([], core)

/-- `corePoll`, for a list of channels, with its turns. -/
def pollTurns : List ChannelIndex → Core σ → List (Turn σ) × Core σ
  | [], core => ([], core)
  | i :: rest, core =>
    let (turns, core) := serveTurns vif core i
    let (more, core) := pollTurns rest core
    (turns ++ more, core)

end Code

section Recording

variable {σ : Type*} (vif : Vif σ)

/-- The turns of the scan are what it does, told one by one. -/
theorem scanTx_core (p : ChannelIndex) (cursor : Nat) (offsets : List Nat) (core : Core σ) :
    (scanTx vif p cursor offsets core).2 = serviceTx vif p cursor offsets core := by
  induction offsets generalizing core with
  | nil => rfl
  | cons offset offsets ih =>
      simp only [scanTx, serviceTx, Turn.taken, Turn.after]
      generalize Fin.ofNat (physicalMax + logicalMax) (cursor + offset) = i
      by_cases taken : onBus core p i = true
      · simp only [taken, if_true]
        by_cases done : ((pollTx vif core i).channels p).pending.kind = .none
        · simp only [ne_eq, done, not_true, if_false]
          exact ih _
        · simp only [ne_eq, done, not_false_eq_true, if_true]
      · simp only [taken, if_false, Bool.false_eq_true]
        exact ih _

/-- The turns of a pass over a bus that is free are what the pass starts. -/
theorem startTurns_core (core : Core σ) (p : ChannelIndex) (now : Time)
    (next : Option (ChannelIndex × Slot)) :
    (startTurns vif core p now next).2 = startTransmission vif core p now next := by
  unfold startTurns startTransmission
  dsimp only
  split
  · rfl
  · cases next with
    | none => rw [← scanTx_core]
    | some pick => rfl

/-- The turns of a pass are the pass, told one by one. -/
theorem busTurns_core (core : Core σ) (p : ChannelIndex) :
    (busTurns vif core p).2 = serviceBus vif core p := by
  unfold busTurns serviceBus prepareBus
  dsimp only
  generalize (allChannels.foldl (checkChannel p ((pollRx vif (collectBusTx vif core p) p).now vif).1)
    (((pollRx vif (collectBusTx vif core p) p).now vif).2, none)) = picked
  split
  · rfl
  · exact startTurns_core ..

/-- The turns of several passes are the passes over the channels that are live. -/
theorem pollTurns_core (core : Core σ) (channels : List ChannelIndex) :
    (pollTurns vif channels core).2 = channels.foldl (fun core i =>
      if !i.isLogical && (core.channels i).id ≠ 0 && channelIsLive vif core i then
        serviceBus vif core i
      else core) core := by
  induction channels generalizing core with
  | nil => rfl
  | cons i rest ih =>
      rw [List.foldl_cons, pollTurns]
      dsimp only
      rw [ih, serveTurns]
      split
      · rw [busTurns_core]
      · rfl

end Recording

/-! ## Turns of a run -/

section Moves

variable {σ : Type*} (drivers : Drivers σ)

/-- The turns of a move: those of a poll of an open device. -/
def Core.turns (core : Core (Station σ)) : Move → List (Turn (Station σ))
  | .link .poll => if core.device = 0 then [] else (pollTurns drivers.vif allChannels core).1
  | _ => []

/-- A poll of a device that is open is the turns of all its passes. -/
theorem corePoll_turns (core : Core (Station σ)) (on : core.device ≠ 0) :
    core.move drivers (.link .poll) = (pollTurns drivers.vif allChannels core).2 := by
  rw [pollTurns_core]
  exact if_neg on

/-- The states of a run: its first, and the one behind each move. -/
def Core.states : Core (Station σ) → List Move → List (Core (Station σ))
  | core, [] => [core]
  | core, move :: moves => core :: Core.states (core.move drivers move) moves

/-- The turns of a run. -/
def Core.runTurns : Core (Station σ) → List Move → List (Turn (Station σ))
  | _, [] => []
  | core, move :: moves =>
    core.turns drivers move ++ Core.runTurns (core.move drivers move) moves

end Moves

end OpenDiag.J2534
