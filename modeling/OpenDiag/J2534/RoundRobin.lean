import OpenDiag.J2534.Upkeep
import OpenDiag.Lib.RoundRobin

/-!
# Senders share a bus

The scan for a stored message goes round: it begins behind the channel whose frame was last put
under way, and what does not stay under way does not stop it. So between two turns of one channel
every other channel has a turn, whatever the bus and the client do in between.
-/

namespace OpenDiag.J2534

open Isotp

/-! ## The cursor -/

section Cursor

variable {σ : Type*} {vif : Vif σ} {p : ChannelIndex} {core mid next : Core σ}

theorem ready_none (core : Core σ) (p : ChannelIndex) : Ready (Guard.none vif) core p :=
  ⟨fun _ => trivial, fun _ _ => trivial⟩

/-- The turns of the scan for a stored message on a bus. -/
def polls (p : ChannelIndex) (turns : List (Turn σ)) : List (Turn σ) :=
  turns.filter fun turn => turn.physical = p && turn.slot.isNone

/-- The turns go round from the cursor, and the cursor goes with them. -/
structure Rotates (p : ChannelIndex) (core next : Core σ) (turns : List (Turn σ)) : Prop where
  round : GoesRound (core.channels p).txCursor ((polls p turns).map Turn.channel)
  cursor : (core.channels p).txCursor + (polls p turns).length ≡ (next.channels p).txCursor
    [MOD physicalMax + logicalMax]

theorem polls_append (turns more : List (Turn σ)) :
    polls p (turns ++ more) = polls p turns ++ polls p more :=
  List.filter_append ..

theorem Rotates.still (cursor : (next.channels p).txCursor = (core.channels p).txCursor) :
    Rotates p core next [] :=
  ⟨.nil _, by rw [cursor]; rfl⟩

theorem Rotates.trans {turns more : List (Turn σ)} (first : Rotates p core mid turns)
    (second : Rotates p mid next more) : Rotates p core next (turns ++ more) where
  round := by
    rw [polls_append, List.map_append]
    refine first.round.append (second.round.congr ?_)
    rw [List.length_map]
    exact first.cursor.symm
  cursor := by
    rw [polls_append, List.length_append, ← Nat.add_assoc]
    exact (first.cursor.add_right _).trans second.cursor

/-- Turns of which none is one of the scan. -/
theorem Rotates.other {turns : List (Turn σ)} (none : polls p turns = [])
    (cursor : (next.channels p).txCursor = (core.channels p).txCursor) :
    Rotates p core next turns := by
  refine ⟨?_, ?_⟩
  · rw [none]
    exact .nil _
  · rw [none, cursor]
    rfl

/-! ## Passes -/

/-- The scan, from one of its offsets on. -/
theorem scanTx_round (cursor k left : ℕ) (core : Core σ) :
    GoesRound (cursor + k) ((scanTx vif p cursor (List.range' k left) core).1.map Turn.channel) ∧
      (((scanTx vif p cursor (List.range' k left) core).2.channels p).txCursor =
            (core.channels p).txCursor ∧
          (scanTx vif p cursor (List.range' k left) core).1.length = left ∨
        cursor + k + (scanTx vif p cursor (List.range' k left) core).1.length ≡
          ((scanTx vif p cursor (List.range' k left) core).2.channels p).txCursor
            [MOD physicalMax + logicalMax]) := by
  induction left generalizing k core with
  | zero => exact ⟨.nil _, .inl ⟨rfl, rfl⟩⟩
  | succ left ih =>
      let turn : Turn σ := { physical := p, channel := Fin.ofNat _ (cursor + k), core }
      have goesOn (state : Core σ)
          (same : (state.channels p).txCursor = (core.channels p).txCursor) :
          GoesRound (cursor + k)
              ((turn :: (scanTx vif p cursor (List.range' (k + 1) left) state).1).map
                Turn.channel) ∧
            (((scanTx vif p cursor (List.range' (k + 1) left) state).2.channels p).txCursor =
                  (core.channels p).txCursor ∧
                (turn :: (scanTx vif p cursor (List.range' (k + 1) left) state).1).length =
                  left + 1 ∨
              cursor + k +
                  (turn :: (scanTx vif p cursor (List.range' (k + 1) left) state).1).length ≡
                ((scanTx vif p cursor (List.range' (k + 1) left) state).2.channels p).txCursor
                  [MOD physicalMax + logicalMax]) := by
        obtain ⟨round, whole | stopped⟩ := ih (k + 1) state
        · refine ⟨round.cons, .inl ⟨whole.1.trans same, ?_⟩⟩
          rw [List.length_cons, whole.2]
        · refine ⟨round.cons, .inr ?_⟩
          rw [List.length_cons, Nat.add_assoc cursor, Nat.add_comm _ 1, ← Nat.add_assoc k,
            ← Nat.add_assoc cursor]
          exact stopped
      rw [List.range'_succ, scanTx]
      dsimp only
      split
      · have polled : Tended (Guard.none vif) (fun _ => False) core (turn.after vif) :=
          (Tended.refl core).pollTx _ fun _ _ => trivial
        split
        · refine ⟨(GoesRound.nil _).cons, .inr ?_⟩
          simp only [Core.modify, Function.update_self, Fin.val_ofNat, List.length_singleton]
          exact (((Nat.mod_modEq _ _).add_right 1).symm.trans (Nat.mod_modEq _ _).symm)
        · exact goesOn _ (polled.cursor p not_false)
      · exact goesOn core rfl

theorem polls_self {turns : List (Turn σ)}
    (mine : ∀ turn ∈ turns, turn.physical = p ∧ turn.slot = none) : polls p turns = turns := by
  refine List.filter_eq_self.2 fun turn member => ?_
  obtain ⟨physical, slot⟩ := mine turn member
  simp [physical, slot]

theorem scanTx_rotates (core : Core σ) :
    Rotates p core (scanTx vif p (core.channels p).txCursor
        (List.range (physicalMax + logicalMax)) core).2
      (scanTx vif p (core.channels p).txCursor (List.range (physicalMax + logicalMax)) core).1 := by
  have here : Tended (Guard.none vif) (fun _ => True) core core := .refl core
  have mine := polls_self fun turn member =>
    ((here.scanTx (ready_none core p) trivial (core.channels p).txCursor
      (List.range (physicalMax + logicalMax))).1 turn member).2
  obtain ⟨round, cursor⟩ := @scanTx_round σ vif p (core.channels p).txCursor 0
    (physicalMax + logicalMax) core
  rw [← List.range_eq_range'] at round cursor
  refine ⟨?_, ?_⟩
  · rw [mine]
    exact round
  · rw [mine]
    rcases cursor with ⟨same, length⟩ | stopped
    · rw [same, length]
      exact Nat.add_modEq_right
    · exact stopped

theorem startTurns_rotates (core : Core σ) (now : Time) (next : Option (ChannelIndex × Slot)) :
    Rotates p core (startTurns vif core p now next).2 (startTurns vif core p now next).1 := by
  have flowing : Tended (Guard.none vif) (fun _ => False) core
      (serviceFlow vif p logicalMax core) := (Tended.refl core).serviceFlow p _
  unfold startTurns
  extract_lets flowed
  split
  · exact .still (flowing.cursor p not_false)
  have begun : Rotates p core flowed [] := .still (flowing.cursor p not_false)
  have collected (last : Core σ) : Rotates p last (collectBusTx vif last p) [] := by
    have here : Tended (Guard.none vif) (fun _ => False) last last := .refl last
    exact .still ((here.collectBusTx p).cursor p not_false)
  cases next with
  | none =>
      have scanned : Rotates p flowed _ (scanTx vif p (flowed.channels p).txCursor
          (List.range (physicalMax + logicalMax)) flowed).1 := scanTx_rotates flowed
      have whole := begun.trans (scanned.trans (collected _))
      rwa [List.nil_append, List.append_nil] at whole
  | some pick =>
      obtain ⟨selected, slot⟩ := pick
      have submitted : Tended (Guard.none vif) (fun _ => False) flowed
          (submitScheduled vif (recordPick flowed p now selected slot) selected slot) :=
        ((Tended.refl flowed).record _).submitScheduled selected slot fun _ => trivial
      have sent : Rotates p flowed
          (submitScheduled vif (recordPick flowed p now selected slot) selected slot)
          [{ physical := p, channel := selected, slot := some slot
             core := recordPick flowed p now selected slot }] :=
        .other (by simp [polls]) (submitted.cursor p not_false)
      exact begun.trans (sent.trans (collected _))

/-- A pass on the bus. -/
theorem busTurns_rotates (core : Core σ) :
    Rotates p core (busTurns vif core p).2 (busTurns vif core p).1 := by
  have here : Tended (Guard.none vif) (fun _ => False) core core := .refl core
  have prepared := (here.prepareBus (p := p)).1
  unfold busTurns
  generalize prepareBus vif core p = answer at prepared ⊢
  dsimp only
  have begun : Rotates p core answer.2.2 [] := .still (prepared.cursor p not_false)
  split
  · exact begun
  · exact begun.trans (startTurns_rotates answer.2.2 _ _)

/-- A pass on any bus. -/
theorem serveTurns_rotates (core : Core σ) (i : ChannelIndex) :
    Rotates p core (serveTurns vif core i).2 (serveTurns vif core i).1 := by
  unfold serveTurns
  split
  · by_cases here : p = i
    · subst here
      exact busTurns_rotates core
    · have before : Tended (Guard.none vif) (· = i) core core := .refl core
      have served := before.busTurns (ready_none core i) rfl
      refine .other ?_ (served.2.cursor p here)
      refine List.filter_eq_nil_iff.2 fun turn member => ?_
      have physical : turn.physical = i := (served.1 turn member).physical
      simp [physical, Ne.symm here]
  · exact .still rfl

theorem pollTurns_rotates (channels : List ChannelIndex) (core : Core σ) :
    Rotates p core (pollTurns vif channels core).2 (pollTurns vif channels core).1 := by
  induction channels generalizing core with
  | nil => exact .still rfl
  | cons i rest ih => exact (serveTurns_rotates core i).trans (ih _)

end Cursor

/-! ## What happens between the passes -/

section Requests

variable {σ : Type*} {vif : Vif σ}

theorem setLogicalParam_cursor (channel : Channel) (param value : UInt32) :
    (setLogicalParam channel param value).txCursor = channel.txCursor := by
  unfold setLogicalParam
  extract_lets config
  split_ifs <;> rfl

theorem modify_cursor {core : Core σ} {cursors : ChannelIndex → ℕ}
    (holds : ∀ j, (core.channels j).txCursor = cursors j) (i : ChannelIndex)
    {change : Channel → Channel}
    (cursor : (change (core.channels i)).txCursor = (core.channels i).txCursor) (j : ChannelIndex) :
    ((core.modify i change).channels j).txCursor = cursors j := by
  rw [← holds j]
  by_cases here : j = i
  · subst here
    simpa [Core.modify] using cursor
  · simp [Core.modify, Function.update_of_ne here]

/-- No request moves a cursor. -/
theorem cursors_upkeep (cursors : ChannelIndex → ℕ) :
    ObjectUpkeep (Guard.none vif) fun core => ∀ j, (core.channels j).txCursor = cursors j where
  changes := fun {core next} holds changes j => by
    have tended : Tended (Guard.none vif) (fun _ => False) core next := changes.tended
    exact (tended.cursor j not_false).trans (holds j)
  nextId := fun _ holds => holds
  busOn := fun _ holds => holds
  paramGet := fun _ _ holds => holds
  paramSet := fun _ _ _ _ holds => holds
  store := fun i _ _ _ _ holds => modify_cursor holds i rfl
  start := fun {_ next} i slot _ job _ _ _ _ _ holds =>
    show ∀ j, ((next.modifyJob i slot fun _ => job).channels j).txCursor = cursors j from
      modify_cursor holds i rfl
  clear := fun i _ holds => modify_cursor holds i rfl
  filter := fun i _ holds => modify_cursor holds i rfl
  configure := fun i param value _ _ holds =>
    modify_cursor holds i (setLogicalParam_cursor _ param value)

end Requests

section Moves

variable {σ : Type*} (drivers : Drivers σ) {p : ChannelIndex} (core : Core (Station σ))

/-- A connection, on a bus that stays connected. -/
theorem Rotates.spared {next : Core (Station σ)}
    (spared : (core.channels p).Spared (next.channels p)) (after : (next.channels p).id ≠ 0) :
    Rotates p core next [] :=
  .still (spared.untouched after).cursor

/-- A move of the link, on a bus that stays connected. -/
theorem turns_rotate (move : Move) (before : (core.channels p).id ≠ 0)
    (after : ((core.move drivers move).channels p).id ≠ 0) :
    Rotates p core (core.move drivers move) (core.turns drivers move) := by
  rcases move with req | ⟨physical, req⟩ | ⟨id, logical⟩ | op
  · refine .spared core ?_ after
    change (core.channels p).Spared ((connect drivers core req).2.channels p)
    unfold connect
    split
    · exact .refl _
    · exact connectChannel_spares drivers core p req before
  · refine .spared core ?_ after
    change (core.channels p).Spared ((connectLogical drivers core physical req).2.channels p)
    unfold connectLogical
    split
    · exact .refl _
    · split
      · exact .refl _
      · split
        · exact logicalConnect_spares drivers core p _ req before
        · exact .refl _
  · refine .spared core ?_ after
    change (core.channels p).Spared ((disconnect drivers core id logical).2.channels p)
    unfold disconnect
    split
    · exact .refl _
    · split
      · exact .refl _
      · split
        · exact .refl _
        · exact disconnectChannel_spares drivers core _ p
  · cases op with
    | poll =>
        by_cases on : core.device = 0
        · have polled : core.move drivers (.link .poll) = core := if_pos on
          rw [polled, Core.turns, if_pos on]
          exact .still rfl
        · rw [corePoll_turns drivers core on, Core.turns, if_neg on]
          exact pollTurns_rotates allChannels core
    | request id command =>
        refine .still ?_
        exact (cursors_upkeep fun j => (core.channels j).txCursor).request (fun _ => rfl) id
          command p

theorem Core.mem_states (moves : List Move) : core ∈ core.states drivers moves := by
  cases moves with
  | nil => exact List.mem_singleton_self _
  | cons => exact List.mem_cons_self

/-- A run, on a bus that stays connected. -/
theorem runTurns_rotate (moves : List Move)
    (connected : ∀ state ∈ core.states drivers moves, (state.channels p).id ≠ 0) :
    ∃ next, Rotates p core next (core.runTurns drivers moves) := by
  induction moves generalizing core with
  | nil => exact ⟨core, .still rfl⟩
  | cons move moves ih =>
      rw [Core.states, List.forall_mem_cons] at connected
      have behind : ((core.move drivers move).channels p).id ≠ 0 :=
        connected.2 _ (Core.mem_states drivers (core.move drivers move) moves)
      obtain ⟨next, rest⟩ := ih (core.move drivers move) connected.2
      exact ⟨next, (turns_rotate drivers core move connected.1 behind).trans rest⟩

end Moves

/-! ## Frames -/

/-- `poll_tx` has a frame to submit: any message of a physical channel, and on a logical channel
the next frame that is due, of a message that has begun or may begin. -/
def frameReady {σ : Type*} (vif : Vif σ) (core : Core σ) (i : ChannelIndex) : Bool :=
  let channel := core.channels i
  let (now, core) := core.now vif
  if channel.txLen = 0 then false
  else if channel.parent = 0 then true
  else if channel.txActive then (txNext channel.isoTx now).2.2.isSome
  else if channel.flags &&& logicalFullDuplex = 0 && channel.isoRx.state ≠ .idle then false
  else
    let (rc, sender) := beginMessage channel now
    !rc.isError && (txNext sender (core.now vif).1).2.2.isSome

section Submissions

variable {σ : Type*} (drivers : Drivers σ)

/-- A call of `poll_tx` submits a frame. -/
def Turn.submits (turn : Turn (Station σ)) : Bool :=
  turn.taken &&
    decide (turn.core.env.submitted.length < (turn.after drivers.vif).env.submitted.length)

/-- Everything is admitted, and the history of what has been submitted is kept. -/
def Guard.growing : Guard drivers.vif where
  Kept s s' := s.submitted <+: s'.submitted
  Admits _ _ _ := True
  refl _ := List.prefix_rfl
  trans first second := first.trans second
  now _ := List.prefix_rfl
  recv bus s := by
    unfold Drivers.vif
    dsimp only
    split <;> exact List.prefix_rfl
  txPoll bus s := by
    unfold Drivers.vif
    dsimp only
    split <;> exact List.prefix_rfl
  txCancel bus s := by
    unfold Drivers.vif
    dsimp only
    split <;> exact List.prefix_rfl
  submit bus msg flags sequence s _ := by
    unfold Drivers.vif
    dsimp only
    split <;> exact List.prefix_append _ _
  small _ _ _ _ := trivial
  admits _ _ := trivial

variable {drivers} {core : Core (Station σ)} {i p : ChannelIndex}

theorem submit_submits (bus : Bus) (msg : BusTx) (flags sequence : UInt32) (s : Station σ) :
    s.submitted.length < (drivers.vif.submit bus msg flags sequence s).2.submitted.length := by
  unfold Drivers.vif
  dsimp only
  split <;> simp [Station.ask]

theorem submitBusTx_submits (kind : TxKind) (job handle : UInt32) (msg : BusTx) (busFlags : UInt32)
    (physical : physicalChannel core i = some p) :
    core.env.submitted.length <
      (submitBusTx drivers.vif core i kind job handle msg busFlags).env.submitted.length := by
  unfold submitBusTx
  split
  case h_1 none => exact nomatch physical.symm.trans none
  case h_2 q _ =>
    extract_lets can pending begun
    have submitted := @submit_submits σ drivers (begun.channels q).bus msg
      (submitFlags can busFlags) (begun.channels q).rxSequence begun.env
    refine lt_of_lt_of_le submitted ?_
    generalize drivers.vif.submit (begun.channels q).bus msg (submitFlags can busFlags)
      (begun.channels q).rxSequence begun.env = answer
    have here : Tended (Guard.growing drivers) (fun _ => False) { begun with env := answer.2 }
        { begun with env := answer.2 } := .refl _
    dsimp only
    split
    · exact (here.now.now.finishBusTx q _).env.length_le
    · exact le_rfl

/-- The next frame of a message is submitted when it is due. -/
theorem nextTx_submits (on : physicalChannel core i = some p)
    (due : (txNext (core.channels i).isoTx (core.now drivers.vif).1).2.2.isSome = true) :
    core.env.submitted.length < (nextTx drivers.vif core i).env.submitted.length := by
  have here : Tended (Guard.growing drivers) (fun _ => False) core core := .refl core
  have moved : Tended (Guard.growing drivers) (fun _ => False) core
      ((core.now drivers.vif).2.modify i fun channel =>
        { channel with
          isoTx := (txNext (core.channels i).isoTx (core.now drivers.vif).1).2.1 }) :=
    here.now.plain i ⟨rfl, rfl, rfl, rfl, rfl⟩
  obtain ⟨frame, next⟩ := Option.isSome_iff_exists.1 due
  unfold nextTx
  dsimp only
  rw [show (txNext ((core.now drivers.vif).2.channels i).isoTx (core.now drivers.vif).1).2.2 =
    some frame from next]
  refine lt_of_le_of_lt moved.env.length_le (submitBusTx_submits _ _ _ _ _ (p := p) ?_)
  rw [← on]
  exact physicalChannel_of_ids (fun j => (moved.channels j).id) (fun j => (moved.channels j).parent) i

/-- What `poll_tx` has ready is submitted. -/
theorem pollTx_submits (on : physicalChannel core i = some p)
    (ready : frameReady drivers.vif core i = true) :
    core.env.submitted.length < (pollTx drivers.vif core i).env.submitted.length := by
  unfold frameReady at ready
  unfold pollTx
  extract_lets channel data flags begun
  dsimp only at ready
  by_cases empty : (core.channels i).txLen = 0
  · simp [empty] at ready
  by_cases own : (core.channels i).parent = 0
  · simp only [channel, if_neg empty, own, ne_eq, not_true, if_false]
    exact submitBusTx_submits _ _ _ _ _ on
  simp only [if_neg empty, if_neg own] at ready
  simp only [channel, if_neg empty, ne_eq, own, not_false_eq_true, if_true]
  by_cases active : (core.channels i).txActive = true
  · have same : begun = core := if_pos active
    simp only [active, if_true] at ready
    simp only [same, active, Bool.not_true, Bool.false_and, Bool.false_eq_true, if_false, if_true]
    exact nextTx_submits on ready
  · have start : begun = startTx drivers.vif core i := if_neg active
    simp only [active, Bool.false_eq_true, if_false] at ready
    by_cases receiving : ((core.channels i).flags &&& logicalFullDuplex = 0 &&
        (core.channels i).isoRx.state ≠ .idle) = true
    · rw [if_pos receiving] at ready
      cases ready
    · rw [if_neg receiving, Bool.and_eq_true, Bool.not_eq_true'] at ready
      have started : startTx drivers.vif core i =
          ((core.now drivers.vif).2.modify i fun channel =>
            { channel with
              isoTx := (beginMessage (core.channels i) (core.now drivers.vif).1).2 }).modify i
            fun channel => { channel with txActive := true } := by
        unfold startTx
        dsimp only
        rw [if_neg (by rw [Bool.not_eq_true]; exact ready.1)]
        rfl
      have kept : Tended (Guard.growing drivers) (fun _ => False) core begun := by
        rw [start]
        exact Tended.startTx (.refl core) i
      have own : begun.channels i =
          { core.channels i with
            isoTx := (beginMessage (core.channels i) (core.now drivers.vif).1).2
            txActive := true } := by
        rw [start, started]
        simp [Core.modify, Core.now]
      have clock : (begun.now drivers.vif).1 =
          ((core.now drivers.vif).2.now drivers.vif).1 := by
        rw [start, started]
        rfl
      have physical : physicalChannel begun i = some p := by
        rw [← on]
        exact physicalChannel_of_ids (fun j => (kept.channels j).id)
          (fun j => (kept.channels j).parent) i
      rw [Bool.not_eq_true] at active
      simp only [active, Bool.not_false, Bool.true_and, if_neg receiving, own, if_true]
      refine lt_of_le_of_lt kept.env.length_le (nextTx_submits physical ?_)
      rw [own, clock]
      exact ready.2

end Submissions

/-! ## Fairness -/

section Fairness

variable {σ : Type*} (drivers : Drivers σ) (core : Core (Station σ))

theorem Turn.submits_of_ready {turn : Turn (Station σ)} (stored : turn.slot = none)
    (taken : turn.taken = true) (ready : frameReady drivers.vif turn.core turn.channel = true) :
    turn.submits drivers = true := by
  have on := taken
  rw [Turn.taken, onBus, Bool.and_eq_true, decide_eq_true_eq, decide_eq_true_eq] at on
  rw [Turn.submits, taken, Bool.true_and, decide_eq_true_eq, Turn.after, stored]
  exact pollTx_submits on.2 ready

/-- The turns of the scan for stored messages on a bus, in a run. -/
def Core.scans (p : ChannelIndex) (moves : List Move) : List (Turn (Station σ)) :=
  polls p (core.runTurns drivers moves)

/-- Where the turns go round, every other channel that is ready in between submits. -/
theorem shares_of_round {start : ℕ} {turns : List (Turn (Station σ))}
    (round : GoesRound start (turns.map Turn.channel)) (stored : ∀ turn ∈ turns, turn.slot = none)
    {first last : ℕ} (before : first < last) (inside : last < turns.length)
    (same : turns[first].channel = turns[last].channel) {other : ChannelIndex}
    (differs : other ≠ turns[first].channel)
    (ready : ∀ k (between : first < k ∧ k < last), turns[k].channel = other →
      turns[k].taken = true ∧ frameReady drivers.vif turns[k].core other = true) :
    ∃ k, ∃ between : first < k ∧ k < last,
      turns[k].channel = other ∧ turns[k].submits drivers = true := by
  obtain ⟨k, later, earlier, channel⟩ := round.between before (by simpa using inside)
    (by simpa using same) (by simpa using differs)
  rw [List.getElem_map] at channel
  obtain ⟨taken, has⟩ := ready k ⟨later, earlier⟩ channel
  rw [← channel] at has
  exact ⟨k, ⟨later, earlier⟩, channel,
    Turn.submits_of_ready drivers (stored _ (List.getElem_mem _)) taken has⟩

/-- In every run on a bus that stays connected, between two turns of one channel in the scan for
stored messages, and so between two frames that `poll_tx` submits for it, every other channel has a
turn. One that is on the bus with a frame ready whenever its turn comes has submitted one. -/
theorem senders_share_bus (p : ChannelIndex) (moves : List Move)
    (connected : ∀ state ∈ core.states drivers moves, (state.channels p).id ≠ 0)
    (first last : ℕ) (before : first < last) (inside : last < (core.scans drivers p moves).length)
    (same : (core.scans drivers p moves)[first].channel =
      (core.scans drivers p moves)[last].channel)
    (other : ChannelIndex) (differs : other ≠ (core.scans drivers p moves)[first].channel)
    (ready : ∀ k (between : first < k ∧ k < last),
      (core.scans drivers p moves)[k].channel = other →
        (core.scans drivers p moves)[k].taken = true ∧
          frameReady drivers.vif (core.scans drivers p moves)[k].core other = true) :
    ∃ k, ∃ between : first < k ∧ k < last,
      (core.scans drivers p moves)[k].channel = other ∧
        (core.scans drivers p moves)[k].submits drivers = true := by
  obtain ⟨next, rotates⟩ := runTurns_rotate drivers core moves connected
  refine shares_of_round drivers rotates.round (fun turn member => ?_) before inside same differs
    ready
  rw [polls, List.mem_filter, Bool.and_eq_true] at member
  simpa using member.2.2

end Fairness

/-- A CAN channel is connected; each frame stays under way until the next poll. -/
def sharedBus : Core (Station Script) :=
  (Core.opened 1 1
    { reports := [none, some { complete := true }, none, some { complete := true }, none] }).move
    Script.drivers (.connect
      { device := 1, protocol := protocolCan, baudrate := 500000, connector := 1, pins := [6, 14] })

/-- A logical channel is connected, and both channels have messages to send. -/
def sharedMoves : List Move :=
  let queue (id protocol txFlags : UInt32) : Move :=
    .link (.request id (.queue (some { protocol, data := [0, 0, 7, 0xe0, 1], txFlags })))
  [.connectLogical 2
      { protocol := protocolIsotp, localAddress := [0, 0, 7, 0xe8]
        remoteAddress := [0, 0, 7, 0xe0], remoteFlags := flagPad },
    queue 2 protocolCan 0, queue 3 protocolIsotp flagPad, .link .poll, .link .poll,
    queue 2 protocolCan 0, .link .poll]

/-- Between the two frames of the CAN channel, the logical channel has its turn. -/
theorem senders_share_bus_logical :
    ∃ k, 0 < k ∧ k < 5 ∧
      ((sharedBus.scans Script.drivers 0 sharedMoves)[k]?.map fun turn =>
        (turn.channel, turn.submits Script.drivers)) = some (3, true) := by
  have inside : 5 < (sharedBus.scans Script.drivers 0 sharedMoves).length := by decide +kernel
  obtain ⟨k, between, channel, submits⟩ :=
    senders_share_bus Script.drivers sharedBus 0 sharedMoves (by decide +kernel) 0 5 (by decide)
      inside (by decide +kernel +revert) 3 (by decide +kernel +revert) (by
        intro k between
        obtain rfl | rfl | rfl | rfl : k = 1 ∨ k = 2 ∨ k = 3 ∨ k = 4 := by omega
        all_goals decide +kernel +revert)
  refine ⟨k, between.1, between.2, ?_⟩
  rw [List.getElem?_eq_getElem (by omega), Option.map_some, channel, submits]

end OpenDiag.J2534
