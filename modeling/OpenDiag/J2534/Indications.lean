import Mathlib.Data.List.Nodup
import OpenDiag.J2534.Walk

/-!
# One indication for each queued message

The history tells which stored messages have been ended, and by the completion of which
transmission, and which indications have been enqueued. A transmission that is still to be confirmed
belongs to the message that is stored, unless a frame has let the sender time out under it.
-/

namespace OpenDiag.J2534

open Isotp Traffic

/-- The message of a channel that an event ends. -/
def Event.ends (i : ChannelIndex) : Event → Option Nat
  | .ended j message _ _ _ => if j = i then some message else none
  | _ => none

/-- The messages of a channel that have been ended, in order. -/
def endings (log : List Event) (i : ChannelIndex) : List Nat :=
  log.filterMap (Event.ends i)

/-- What an indication says: the handle of a message, and how its transmission ended. -/
def Event.indicates (i : ChannelIndex) : Event → Option (UInt32 × UInt32)
  | .enqueued j record =>
    if j = i ∧ record.handle ≠ 0 then some (record.handle, record.status) else none
  | _ => none

/-- The indication that the end of a stored message calls for, or that of a scheduled one; no
message without a handle has one. -/
def Event.callsFor (i : ChannelIndex) : Event → Option (UInt32 × UInt32)
  | .ended j _ handle ok _ | .told j handle ok =>
    if j = i ∧ handle ≠ 0 then some (handle, if ok then flagTxSuccess else flagTxFailed) else none
  | _ => none

/-- Each indication is that of one message that has ended, and each of those with a handle has
one. -/
def Indicated (log : List Event) : Prop :=
  ∀ i, log.filterMap (Event.indicates i) = log.filterMap (Event.callsFor i)

/-- A completion ends the message that its transmission was submitted for. -/
def Event.Owned : Event → Prop
  | .ended _ message _ _ (some completion) => completion = message
  | _ => True

/-- No frame lets a sender time out that waits for the confirmation of its own. -/
def Event.punctual : Event → Bool
  | .heard _ sender nowUs _ => !(sender.state = .confirm && expired nowUs sender.deadlineUs)
  | _ => true

namespace Traffic

variable {s s' : Traffic}

/-- The transmission under way on a channel is to be confirmed to another one's message. -/
structure Owes (s : Traffic) (p i : ChannelIndex) : Prop where
  kind : (s.lanes p).pending.kind = .message ∨ (s.lanes p).pending.kind = .isotp
  discard : (s.lanes p).pending.discard = false
  confirmed : (s.lanes p).pending.confirmed = false
  id : (s.lanes i).id ≠ 0
  channel : (s.lanes p).pending.channel = (s.lanes i).id

/-- What is to be confirmed is due for the message that is stored, and each message is ended at
most once. -/
structure Ledger (s : Traffic) : Prop where
  distinct : ∀ i j, (s.lanes i).id ≠ 0 → (s.lanes i).id = (s.lanes j).id → i = j
  active : ∀ i, (s.lanes i).txActive = true → (s.lanes i).parent ≠ 0 ∧ (s.lanes i).txLen ≠ 0
  owes : ∀ p i, s.Owes p i → s.physical i = some p ∧ (s.lanes p).pending.kind.Due (s.lanes i) ∧
    (s.lanes p).pending.message = (s.lanes i).stored
  past : ∀ i, ∀ message ∈ endings s.log i, message ≤ (s.lanes i).stored
  current : ∀ i, (s.lanes i).txLen ≠ 0 → (s.lanes i).stored ∉ endings s.log i
  once : ∀ i, (endings s.log i).Nodup
  owned : ∀ event ∈ s.log, event.Owned

theorem Ledger.owner (ledger : s.Ledger) {i : ChannelIndex} (known : (s.lanes i).id ≠ 0) :
    s.owner (s.lanes i).id = some i := by
  unfold Traffic.owner
  cases found : allChannels.find? _ with
  | none =>
      have missing := List.find?_eq_none.1 found i (List.mem_finRange i)
      simp [known] at missing
  | some j =>
      have both := List.find?_some found
      simp only [Bool.and_eq_true, decide_eq_true_eq] at both
      rw [ledger.distinct i j known both.2.symm]

/-- A channel that is clear is owed nothing. -/
theorem Ledger.not_owes_of_clear (ledger : s.Ledger) {i : ChannelIndex} (clear : s.Clear i)
    (p : ChannelIndex) : ¬ s.Owes p i := by
  intro owes
  rcases clear p (ledger.owes p i owes).1 owes.channel with none | discarded
  · rcases owes.kind with kind | kind <;> rw [kind] at none <;> cases none
  · rw [owes.discard] at discarded
    cases discarded

/-- A channel with no message is owed nothing. -/
theorem Ledger.not_owes_of_empty (ledger : s.Ledger) {i : ChannelIndex}
    (empty : (s.lanes i).txLen = 0) (p : ChannelIndex) : ¬ s.Owes p i := by
  intro owes
  have due := (ledger.owes p i owes).2.1
  rcases owes.kind with kind | kind <;> rw [kind] at due
  · exact due.2 empty
  · exact (ledger.active i due.1).2 empty

theorem Owes.of_same (same : s.SamePending s') {p i : ChannelIndex} (owes : s'.Owes p i) :
    s.Owes p i := by
  obtain ⟨kind, discard, confirmed, id, channel⟩ := owes
  rw [same.2] at kind discard confirmed channel
  rw [id_of_ids same.1] at id channel
  exact ⟨kind, discard, confirmed, id, channel⟩

/-! ## Steps -/

theorem Event.owned_of_ends {event : Event} (ends : ∀ i, event.ends i = none) : event.Owned := by
  cases event with
  | ended i =>
      have none := ends i
      simp [Event.ends] at none
  | _ => exact True.intro

theorem endings_append {events : List Event} (ends : ∀ event ∈ events, ∀ i, event.ends i = none)
    (i : ChannelIndex) : endings (s.append events).log i = endings s.log i := by
  have none : events.filterMap (Event.ends i) = [] :=
    List.filterMap_eq_nil_iff.2 fun event member => ends event member i
  rw [endings, append, List.filterMap_append, none, List.append_nil, endings]

theorem Event.ends_of_indication (i : ChannelIndex) (handle : UInt32) (ok : Bool) (stamp : Stamp) :
    ∀ event ∈ indication i handle ok stamp, ∀ j, event.ends j = none := by
  intro event member j
  obtain ⟨record, rfl⟩ := mem_indication member
  rfl

/-- Events that end no message. -/
theorem Ledger.note (ledger : s.Ledger) {events : List Event}
    (ends : ∀ event ∈ events, ∀ i, event.ends i = none) :
    (s.append events).Ledger := by
  have same := endings_append (s := s) ends
  refine ⟨ledger.distinct, ledger.active, fun p i owes => ?_, ?_, ?_, ?_, ?_⟩
  · exact ledger.owes p i ⟨owes.kind, owes.discard, owes.confirmed, owes.id, owes.channel⟩
  · simpa only [same, lanes_append] using ledger.past
  · simpa only [same, lanes_append] using ledger.current
  · simpa only [same] using ledger.once
  · intro event member
    rcases List.mem_append.1 member with earlier | here
    · exact ledger.owned event earlier
    · exact Event.owned_of_ends (ends event here)

theorem Ledger.record (ledger : s.Ledger) {event : Event} (ends : ∀ i, event.ends i = none) :
    (s.record event).Ledger :=
  ledger.note (List.forall_mem_singleton.2 ends)

/-- A change of one lane. -/
theorem Ledger.put (ledger : s.Ledger) (i : ChannelIndex) {lane : Lane}
    (id : lane.id = (s.lanes i).id) (parent : lane.parent = (s.lanes i).parent)
    (pending : lane.pending = (s.lanes i).pending)
    (active : lane.txActive = true → lane.parent ≠ 0 ∧ lane.txLen ≠ 0)
    (owes : ∀ p, s.Owes p i → (s.lanes p).pending.kind.Due lane ∧ lane.stored = (s.lanes i).stored)
    (stored : (s.lanes i).stored < lane.stored ∨
      lane.stored = (s.lanes i).stored ∧ (lane.txLen ≠ 0 → (s.lanes i).txLen ≠ 0)) :
    (s.put i lane).Ledger := by
  have same : s.SamePending (s.put i lane) := .put s i id parent pending
  have lanes (j : ChannelIndex) : j = i ∧ (s.put i lane).lanes j = lane ∨
      j ≠ i ∧ (s.put i lane).lanes j = s.lanes j := by
    by_cases here : j = i
    · exact .inl ⟨here, here ▸ lanes_put_self ..⟩
    · exact .inr ⟨here, lanes_put_of_ne here ..⟩
  refine ⟨fun j k => ?_, fun j => ?_, fun p j owes' => ?_, fun j => ?_, fun j => ?_, ledger.once,
    ledger.owned⟩
  · rw [id_of_ids same.1, id_of_ids same.1]
    exact ledger.distinct j k
  · rcases lanes j with ⟨rfl, here⟩ | ⟨_, there⟩
    · rw [here]
      exact active
    · rw [there]
      exact ledger.active j
  · obtain ⟨onto, due, message⟩ := ledger.owes p j (owes'.of_same same)
    rw [physical_of_ids same.1, same.2]
    refine ⟨onto, ?_⟩
    rcases lanes j with ⟨rfl, here⟩ | ⟨_, there⟩
    · obtain ⟨due', stored'⟩ := owes p (owes'.of_same same)
      rw [here, stored']
      exact ⟨due', message⟩
    · rw [there]
      exact ⟨due, message⟩
  · intro message member
    have earlier := ledger.past j message member
    rcases lanes j with ⟨rfl, here⟩ | ⟨_, there⟩
    · rw [here]
      omega
    · rw [there]
      exact earlier
  · rcases lanes j with ⟨rfl, here⟩ | ⟨_, there⟩
    · rw [here]
      intro full member
      rcases stored with later | ⟨same, full'⟩
      · have earlier := ledger.past j _ member
        omega
      · rw [same] at member
        exact ledger.current j (full' full) member
    · rw [there]
      exact ledger.current j

/-- A change of what a lane receives. -/
theorem Ledger.receiver (ledger : s.Ledger) (i : ChannelIndex) (flowControlPending : Bool)
    (rxGeneration flowGeneration : Nat) (isoRx : Rx) :
    (s.put i { s.lanes i with
      flowControlPending, rxGeneration, flowGeneration, isoRx }).Ledger := by
  refine ledger.put i rfl rfl rfl (ledger.active i) (fun p owes => ⟨?_, rfl⟩) (.inr ⟨rfl, id⟩)
  have due := (ledger.owes p i owes).2.1
  rcases owes.kind with kind | kind <;> rw [kind] at due ⊢ <;> exact due

/-- A transmission is put under way, or taken from its channel. -/
theorem Ledger.setPending (ledger : s.Ledger) (p : ChannelIndex) {pending : PendingTx}
    (due : ∀ i, (s.setPending p pending).Owes p i →
      s.physical i = some p ∧ pending.kind.Due (s.lanes i) ∧ pending.message = (s.lanes i).stored) :
    (s.setPending p pending).Ledger := by
  have still (underWay : PendingTx) (lane : Lane) (kind : TxKind) :
      kind.Due (lane.setPending underWay) ↔ kind.Due lane := by cases kind <;> rfl
  refine ⟨fun j k => ?_, fun j => ?_, fun q j owes => ?_, fun j => ?_, fun j => ?_, ledger.once,
    ledger.owned⟩
  · rw [lanes_setPending, lanes_setPending]
    exact ledger.distinct j k
  · rw [lanes_setPending]
    exact ledger.active j
  · rw [physical_of_ids (ids_setPending ..), lanes_setPending s j, still]
    by_cases here : q = p
    · subst here
      rw [lanes_setPending, if_pos rfl]
      exact due j owes
    · have same : ((s.setPending p pending).lanes q) = s.lanes q := lanes_put_of_ne here ..
      have id := id_of_ids (ids_setPending s p pending) j
      obtain ⟨kind, discard, confirmed, known, channel⟩ := owes
      rw [same] at kind discard confirmed channel ⊢
      rw [id] at known channel
      exact ledger.owes q j ⟨kind, discard, confirmed, known, channel⟩
  · rw [lanes_setPending]
    exact ledger.past j
  · rw [lanes_setPending]
    exact ledger.current j

/-- A transmission that nothing is confirmed by. -/
theorem Ledger.setSpent (ledger : s.Ledger) (p : ChannelIndex) {pending : PendingTx}
    (spent : pending.kind ≠ .message ∧ pending.kind ≠ .isotp ∨ pending.discard = true ∨
      pending.confirmed = true) : (s.setPending p pending).Ledger := by
  refine ledger.setPending p fun i owes => absurd owes fun owes => ?_
  obtain ⟨kind, discard, confirmed, _, _⟩ := owes
  rw [lanes_setPending, if_pos rfl] at kind discard confirmed
  rcases spent with ⟨message, isotp⟩ | discarded | confirmed'
  · rcases kind with kind | kind
    · exact message kind
    · exact isotp kind
  · exact Bool.noConfusion (discarded.symm.trans discard)
  · exact Bool.noConfusion (confirmed'.symm.trans confirmed)

/-- The end of a message that has not been ended before. -/
theorem Ledger.recordEnding (ledger : s.Ledger) {i : ChannelIndex}
    (empty : (s.lanes i).txLen = 0) (fresh : (s.lanes i).stored ∉ endings s.log i)
    (handle : UInt32) (ok : Bool) (completion : Option Nat)
    (own : ∀ message, completion = some message → message = (s.lanes i).stored) :
    (s.record (.ended i (s.lanes i).stored handle ok completion)).Ledger := by
  have ended (j : ChannelIndex) :
      endings (s.record (.ended i (s.lanes i).stored handle ok completion)).log j =
        endings s.log j ++ if i = j then [(s.lanes i).stored] else [] := by
    simp only [endings, Traffic.record, append, List.filterMap_append, List.filterMap_cons, Event.ends]
    split_ifs <;> rfl
  refine ⟨ledger.distinct, ledger.active, fun p j owes => ?_, fun j message member => ?_,
    fun j full member => ?_, fun j => ?_, fun event member => ?_⟩
  · exact ledger.owes p j ⟨owes.kind, owes.discard, owes.confirmed, owes.id, owes.channel⟩
  · rw [ended] at member
    split_ifs at member with here
    · subst here
      rcases List.mem_append.1 member with earlier | last
      · exact ledger.past i message earlier
      · exact (List.mem_singleton.1 last).le
    · exact ledger.past j message (by simpa using member)
  · rw [ended] at member
    split_ifs at member with here
    · subst here
      exact full empty
    · exact ledger.current j full (by simpa using member)
  · rw [ended]
    split_ifs with here
    · subst here
      exact List.nodup_append.2 ⟨ledger.once i, List.nodup_singleton _, fun message member last
        same equal => fresh (by rwa [← List.mem_singleton.1 same, ← equal])⟩
    · simpa using ledger.once j
  · rcases List.mem_append.1 member with earlier | last
    · exact ledger.owned event earlier
    · rw [List.mem_singleton.1 last]
      cases completion with
      | none => exact True.intro
      | some message => exact own message rfl

/-- A message ends. -/
theorem Ledger.txDone (ledger : s.Ledger) (i : ChannelIndex) (full : (s.lanes i).txLen ≠ 0)
    (free : ∀ p, ¬ s.Owes p i) (ok : Bool) (completion : Option Nat) (stamp : Stamp)
    (own : ∀ message, completion = some message → message = (s.lanes i).stored) :
    (s.txDone i ok completion stamp).Ledger := by
  have emptied : (s.put i { s.lanes i with txLen := 0, txActive := false }).Ledger :=
    ledger.put i rfl rfl rfl (by simp) (fun p owes => absurd owes (free p)) (.inr ⟨rfl, by simp⟩)
  have told := emptied.note (Event.ends_of_indication i (s.lanes i).handle ok stamp)
  have ended := told.recordEnding (i := i) (by simp)
    (by simpa [endings_append (Event.ends_of_indication _ _ _ _)] using ledger.current i full)
    (s.lanes i).handle ok completion (by simpa using own)
  rw [lanes_append, lanes_put_self, Traffic.record, append_append] at ended
  exact ended

/-- A confirmation ends at most the message that its transmission was submitted for. -/
theorem Ledger.confirm (ledger : s.Ledger) (p i : ChannelIndex) (pending : PendingTx)
    (success : Bool) (time : Time) (stamp : Stamp)
    (owned : s.owner (s.lanes p).pending.channel = some i)
    (kind : (s.lanes p).pending.kind ≠ .none ∧ (s.lanes p).pending.kind ≠ .scheduled)
    (live : (s.lanes p).pending.discard = false ∧ (s.lanes p).pending.confirmed = false)
    (spent : pending.kind = .none ∨ pending.confirmed = true) :
    ((s.setPending p pending).confirm i (s.lanes p).pending success time stamp).Ledger := by
  have spent' : pending.kind ≠ .message ∧ pending.kind ≠ .isotp ∨ pending.discard = true ∨
      pending.confirmed = true :=
    spent.imp (fun none => by rw [none]; decide) .inr
  have taken : (s.setPending p pending).Ledger := ledger.setSpent p spent'
  obtain ⟨known, id⟩ := owner_some owned
  have owes (awaited : (s.lanes p).pending.kind = .message ∨ (s.lanes p).pending.kind = .isotp) :
      s.Owes p i := ⟨awaited, live.1, live.2, by rwa [id], id.symm⟩
  -- the transmission that is confirmed is the only one that the channel waits for
  have free (awaited : (s.lanes p).pending.kind = .message ∨ (s.lanes p).pending.kind = .isotp)
      (q : ChannelIndex) : ¬ (s.setPending p pending).Owes q i := by
    intro other
    have onto := (taken.owes q i other).1
    rw [physical_of_ids (ids_setPending ..), (ledger.owes p i (owes awaited)).1] at onto
    cases onto
    obtain ⟨kind, discard, confirmed, _, _⟩ := other
    rw [lanes_setPending, if_pos rfl] at kind discard confirmed
    rcases spent with none | confirmed'
    · rcases kind with kind | kind <;> exact TxKind.noConfusion (none.symm.trans kind)
    · exact Bool.noConfusion (confirmed'.symm.trans confirmed)
  have stored : ((s.setPending p pending).lanes i).stored = (s.lanes i).stored := by
    rw [lanes_setPending]
    rfl
  have txLen : ((s.setPending p pending).lanes i).txLen = (s.lanes i).txLen := by
    rw [lanes_setPending]
    rfl
  unfold Traffic.confirm
  cases awaited : (s.lanes p).pending.kind with
  | none => exact absurd awaited kind.1
  | scheduled => exact absurd awaited kind.2
  | flowControl =>
      refine Ledger.record ?_ fun _ => rfl
      unfold Lane.confirmFlow
      split
      · exact taken.receiver i ..
      · exact (put_self ..).symm ▸ taken
  | message =>
      obtain ⟨_, due, message⟩ := ledger.owes p i (owes (.inl awaited))
      rw [awaited] at due
      refine taken.txDone i (by rw [txLen]; exact due.2) (free (.inl awaited)) success _ stamp
        ?_
      rintro _ ⟨⟩
      rw [stored, message]
  | isotp =>
      obtain ⟨_, due, message⟩ := ledger.owes p i (owes (.inr awaited))
      rw [awaited] at due
      have moved : ((s.setPending p pending).put i { (s.setPending p pending).lanes i with
          isoTx := (txConfirm ((s.setPending p pending).lanes i).isoTx success time).2 }).Ledger :=
        taken.put i rfl rfl rfl (taken.active i)
          (fun q owes => absurd owes (free (.inr awaited) q)) (.inr ⟨rfl, fun full => full⟩)
      dsimp only
      split
      · refine moved.txDone i ?_ (fun q owes => free (.inr awaited) q (owes.of_same ?_)) _ _ stamp ?_
        · rw [lanes_put_self, txLen]
          exact (ledger.active i due.1).2
        · exact .put _ i rfl rfl rfl
        · rintro _ ⟨⟩
          rw [lanes_put_self, stored, message]
      · exact moved

theorem Event.ends_of_quiet {event : Event} (quiet : event.Quiet) (i : ChannelIndex) :
    event.ends i = none := by
  cases event <;> first | rfl | cases quiet

/-- Every step keeps the ledger, unless a frame lets a sender time out. -/
theorem Step.ledger (step : Step s s') (punctual : ∀ event ∈ s'.log, event.punctual)
    (ledger : s.Ledger) : s'.Ledger := by
  cases step with
  | note event quiet => exact ledger.record (Event.ends_of_quiet quiet)
  | store i handle txLen empty long =>
      refine ledger.put i rfl rfl rfl (fun active => ?_) (fun p owes => ?_)
        (.inl (Nat.lt_succ_self _))
      · exact absurd empty (ledger.active i active).2
      · exact absurd owes (ledger.not_owes_of_empty empty p)
  | forget i clear =>
      exact ledger.put i rfl rfl rfl (by simp)
        (fun p owes => absurd owes (ledger.not_owes_of_clear clear p)) (.inr ⟨rfl, by simp⟩)
  | begin i logical full =>
      refine ledger.put i rfl rfl rfl (fun _ => ⟨logical, full⟩) (fun p owes => ⟨?_, rfl⟩)
        (.inr ⟨rfl, id⟩)
      have due := (ledger.owes p i owes).2.1
      rcases owes.kind with kind | kind <;> rw [kind] at due ⊢
      · exact due
      · exact ⟨rfl, due.2⟩
  | sender i isoTx clear =>
      exact ledger.put i rfl rfl rfl (ledger.active i)
        (fun p owes => absurd owes (ledger.not_owes_of_clear clear p)) (.inr ⟨rfl, id⟩)
  | hear i frame answers now active =>
      refine Ledger.record ?_ fun _ => rfl
      refine ledger.put i rfl rfl rfl (ledger.active i) (fun p owes => ⟨?_, rfl⟩) (.inr ⟨rfl, id⟩)
      have due := (ledger.owes p i owes).2.1
      rcases owes.kind with kind | kind <;> rw [kind] at due ⊢
      · exact due
      · have heard := punctual (.heard i (s.lanes i).isoTx now answers)
          (List.mem_append_right _ (List.mem_singleton_self _))
        have fresh : expired now (s.lanes i).isoTx.deadlineUs = false := by
          simpa [Event.punctual, due.2] using heard
        exact ⟨active, by rw [txFlowControl_of_confirm due.2 fresh]; exact due.2⟩
  | fail i stamp full clear =>
      have full : (s.lanes i).txLen ≠ 0 := full.elim id fun active => (ledger.active i active).2
      refine ledger.txDone i full (fun p owes => ?_) false none stamp (by simp)
      rcases clear with clear | ⟨active, state⟩
      · exact ledger.not_owes_of_clear clear p owes
      · have due := (ledger.owes p i owes).2.1
        rcases owes.kind with kind | kind <;> rw [kind] at due
        · exact (ledger.active i active).1 due.1
        · exact state due.2
  | report i handle ok stamp =>
      rw [Traffic.report, ← append_append]
      exact (ledger.note (Event.ends_of_indication _ _ _ _)).record fun _ => rfl
  | submit i p pending onto free made due =>
      refine ledger.setPending p fun j owes => ?_
      obtain ⟨_, _, _, known, channel⟩ := owes
      rw [lanes_setPending, if_pos rfl] at channel
      rw [id_of_ids (ids_setPending ..)] at known channel
      obtain rfl : j = i := ledger.distinct j i known (channel.symm.trans made.channel)
      exact ⟨onto, due, made.message⟩
  | flow i p pending waiting onto free made kind =>
      refine Ledger.setSpent (Ledger.record ?_ fun _ => rfl) p (.inl (by rw [kind]; decide))
      exact ledger.receiver i false _ _ _
  | discard p => exact ledger.setSpent p (.inr (.inl rfl))
  | drop p idle => exact ledger.setSpent p (.inl ⟨by simp, by simp⟩)
  | settle p i pending success time stamp owned kind live spent =>
      exact ledger.confirm p i pending success time stamp owned kind live spent
  | ignore i frame answers now logical refused =>
      exact ((ledger.receiver i _ _ _ _).record fun _ => rfl).record fun _ => rfl
  | accept i frame answers now later notes rc fed segment rxGeneration logical quiet feed taken =>
      refine Ledger.note (ledger.receiver i ..) fun event member => ?_
      simp only [List.mem_append, List.mem_cons, List.not_mem_nil, or_false] at member
      rcases member with ((rfl | rfl) | noted) | rfl
      · exact fun _ => rfl
      · exact fun _ => rfl
      · exact Event.ends_of_quiet (quiet event noted)
      · exact fun _ => rfl
  | check i now => exact (ledger.receiver i _ _ _ _).record fun _ => rfl
  | reset i => exact (ledger.receiver i _ _ _ _).record fun _ => rfl
  | clear i config => exact ledger.receiver i _ _ _ _
  | configure i config idle => exact ledger.receiver i _ _ _ _

/-! ## Indications -/

theorem indicated_append {log events : List Event} (before : Indicated log)
    (now : Indicated events) : Indicated (log ++ events) := by
  intro i
  rw [List.filterMap_append, List.filterMap_append, before i, now i]

theorem indicated_of_quiet {events : List Event} (quiet : ∀ event ∈ events, event.Quiet) :
    Indicated events := by
  intro i
  have none : events.filterMap (Event.indicates i) = [] := by
    refine List.filterMap_eq_nil_iff.2 fun event member => ?_
    have noted := quiet event member
    cases event with
    | enqueued j record => exact if_neg fun both => both.2 noted
    | _ => rfl
  have none' : events.filterMap (Event.callsFor i) = [] := by
    refine List.filterMap_eq_nil_iff.2 fun event member => ?_
    have noted := quiet event member
    cases event <;> first | rfl | cases noted
  rw [none, none']

/-- The indication comes with the end of the message. -/
theorem indicated_ending (i : ChannelIndex) (handle : UInt32) (ok : Bool) (stamp : Stamp)
    {event : Event} (silent : ∀ j, event.indicates j = none)
    (calls : ∀ j, event.callsFor j = if i = j ∧ handle ≠ 0 then
      some (handle, if ok then flagTxSuccess else flagTxFailed) else none) :
    Indicated (indication i handle ok stamp ++ [event]) := by
  intro j
  have told : (indication i handle ok stamp).filterMap (Event.callsFor j) = [] := by
    refine List.filterMap_eq_nil_iff.2 fun event member => ?_
    obtain ⟨record, rfl⟩ := mem_indication member
    rfl
  rw [List.filterMap_append, List.filterMap_append, told, List.nil_append, List.filterMap_cons,
    List.filterMap_cons, silent, calls, List.filterMap_nil, List.append_nil]
  unfold indication
  by_cases some : handle ≠ 0
  · rw [if_pos some]
    rfl
  · rw [if_neg some, if_neg fun both => some both.2]
    rfl

/-- The end of a message. -/
theorem indicated_txDone (s : Traffic) (i : ChannelIndex) (ok : Bool) (completion : Option Nat)
    (stamp : Stamp) :
    ∃ events, (s.txDone i ok completion stamp).log = s.log ++ events ∧ Indicated events :=
  ⟨_, rfl, indicated_ending i _ ok stamp (fun _ => rfl) fun _ => rfl⟩

theorem indicated_single {event : Event} (silent : ∀ i, event.indicates i = none)
    (uncalled : ∀ i, event.callsFor i = none) : Indicated [event] := by
  intro i
  simp only [List.filterMap_cons, silent, uncalled, List.filterMap_nil]

/-- What a step adds to the history has an indication for each message that ends. -/
theorem Step.indicated (step : Step s s') : ∃ events, s'.log = s.log ++ events ∧ Indicated events := by
  have same (lane : Lane) (i : ChannelIndex) :
      ∃ events, (s.put i lane).log = s.log ++ events ∧ Indicated events :=
    ⟨[], (List.append_nil _).symm, fun _ => rfl⟩
  cases step with
  | note event quiet => exact ⟨_, rfl, indicated_of_quiet (List.forall_mem_singleton.2 quiet)⟩
  | hear | check | reset | flow =>
      exact ⟨_, rfl, indicated_single (fun _ => rfl) fun _ => rfl⟩
  | fail i stamp => exact indicated_txDone s i false none stamp
  | report i handle ok stamp =>
      exact ⟨_, rfl, indicated_ending i _ ok stamp (fun _ => rfl) fun _ => rfl⟩
  | settle p i pending success time stamp =>
      unfold Traffic.confirm
      split
      · exact ⟨_, rfl, indicated_single (fun _ => rfl) fun _ => rfl⟩
      · dsimp only
        split
        · exact indicated_txDone ..
        · exact ⟨[], (List.append_nil _).symm, fun _ => rfl⟩
      · exact indicated_txDone ..
  | ignore => exact ⟨_, List.append_assoc .., fun _ => rfl⟩
  | accept i frame answers now later notes rc fed segment rxGeneration logical quiet =>
      have fed : Indicated [.aged i (s.lanes i).flowControlPending (s.lanes i).isoRx now,
          .fed i (s.lanes i).flowControlPending (s.lanes i).isoRx frame answers] := fun _ => rfl
      have noted := indicated_append fed (indicated_of_quiet quiet)
      exact ⟨_, rfl, indicated_append noted fun _ => rfl⟩
  | _ => exact same _ _

theorem Steps.indicated (steps : Steps s s') (before : Indicated s.log) : Indicated s'.log := by
  induction steps with
  | refl => exact before
  | tail _ step ih =>
      obtain ⟨events, log, now⟩ := step.indicated
      exact log ▸ indicated_append ih now

end Traffic

/-! ## Runs -/

/-- A core whose channels are connected and idle, with identifiers of their own, before anything
has happened. -/
structure Core.Connected {σ : Type*} (core : Core σ) : Prop where
  distinct : ∀ i j, (core.channels i).id ≠ 0 → (core.channels i).id = (core.channels j).id → i = j
  txLen : ∀ i, (core.channels i).txLen = 0
  txActive : ∀ i, (core.channels i).txActive = false
  pending : ∀ i, (core.channels i).pending = {}
  flowControlPending : ∀ i, (core.channels i).flowControlPending = false
  receiver : ∀ i, (core.channels i).isoRx.state = .idle
  capacity : ∀ i, (core.channels i).parent ≠ 0 →
    (core.channels i).isoRx.capacity = isotpMaxPayload
  log : core.log = []

section Runs

variable {σ : Type*} {vif : Vif σ} {core : Core σ}

theorem Core.Connected.ledger (connected : core.Connected) : core.traffic.Ledger := by
  have none (i : ChannelIndex) : (core.traffic.lanes i).pending = {} := connected.pending i
  have empty (i : ChannelIndex) : endings core.traffic.log i = [] := by
    have log : core.traffic.log = [] := connected.log
    rw [log]
    rfl
  refine ⟨connected.distinct, fun i active => ?_, fun p i owes => ?_, ?_, ?_, ?_, ?_⟩
  · exact absurd (active.symm.trans (connected.txActive i)) (by decide)
  · obtain ⟨kind, _⟩ := owes
    rw [none p] at kind
    rcases kind with kind | kind <;> cases kind
  · simp [empty]
  · simp [empty]
  · simp [empty]
  · intro event member
    have log : core.traffic.log = [] := connected.log
    rw [log] at member
    cases member

/-- Whatever the link task does in any number of turns is a sequence of steps. -/
theorem run_steps (vif : Vif σ) (connected : core.Connected) (ops : List Op) :
    Traffic.Steps core.traffic (run (Core.step vif) core ops).traffic := by
  have homes (p : ChannelIndex) (known : (core.traffic.lanes p).id ≠ 0) : core.traffic.Home p :=
    ⟨known, connected.ledger.owner known⟩
  refine run_invariant (fun after => Traffic.Steps core.traffic (Core.traffic after)) ?_ .refl ops
  exact fun after op before => step_steps vif before (fun p _ known => homes p known) op

theorem Traffic.Steps.ledger {s s' : Traffic} (steps : Steps s s')
    (punctual : ∀ event ∈ s'.log, event.punctual) (ledger : s.Ledger) : s'.Ledger := by
  induction steps with
  | refl => exact ledger
  | tail _ step ih =>
      obtain ⟨events, log⟩ := step.log
      exact step.ledger punctual
        (ih fun event member => punctual event (log ▸ List.mem_append_left _ member))

/-- In a run in which no frame is given to a sender that has waited too long for the confirmation
of its own, each message that was queued is ended at most once, with one indication if it has a
handle, and by no completion of another message's transmission. -/
theorem ends_each_message_once (connected : core.Connected) (ops : List Op)
    (punctual : ∀ event ∈ (run (Core.step vif) core ops).log, event.punctual) :
    (∀ i, (endings (run (Core.step vif) core ops).log i).Nodup) ∧
      Indicated (run (Core.step vif) core ops).log ∧
      ∀ i message handle ok completion,
        .ended i message handle ok (some completion) ∈ (run (Core.step vif) core ops).log →
          completion = message := by
  have steps := run_steps vif connected ops
  have ledger := steps.ledger punctual connected.ledger
  have none : Indicated core.traffic.log := by
    have log : core.traffic.log = [] := connected.log
    rw [log]
    exact fun _ => rfl
  exact ⟨ledger.once, steps.indicated none, fun i message handle ok completion member =>
    ledger.owned _ member⟩

end Runs

/-! ## A late completion -/

theorem Script.connected (script : Script) : script.core.Connected := by
  have distinct : ∀ i j, (Script.channels i).id ≠ 0 →
      (Script.channels i).id = (Script.channels j).id → i = j := by decide
  have idle : ∀ i, (Script.channels i).txLen = 0 ∧ (Script.channels i).txActive = false ∧
      (Script.channels i).pending = {} ∧ (Script.channels i).flowControlPending = false ∧
      (Script.channels i).isoRx.state = .idle ∧ ((Script.channels i).parent ≠ 0 →
        (Script.channels i).isoRx.capacity = isotpMaxPayload) := by decide
  exact ⟨distinct, fun i => (idle i).1, fun i => (idle i).2.1, fun i => (idle i).2.2.1,
    fun i => (idle i).2.2.2.1, fun i => (idle i).2.2.2.2.1, fun i => (idle i).2.2.2.2.2, rfl⟩

/-- A message of more than one frame on the logical channel. -/
def segmentedMessage (handle : UInt32) : Message :=
  { protocol := protocolIsotp, handle, data := [0, 0, 7, 0xe0, 1, 2, 3, 4, 5, 6, 7, 8] }

/-- The peer's continue-to-send. -/
def peerFlowControl : BusMsg :=
  { data := [0x30, 0, 0, 0, 0, 0, 0, 0], len := 8, id := 0x7e8 }

/-- A message of two frames, the first of which is confirmed before the flow control arrives. -/
theorem ends_each_message_once_of_two_frames :
    (∀ i, (endings (run (Core.step Script.vif)
        { inbox := [none, some peerFlowControl]
          reports := [none, some { complete := true }, some { complete := true }] : Script }.core
        [.request 2 (.queue (some (segmentedMessage 7))), .poll, .poll, .poll]).log i).Nodup) ∧
      Indicated (run (Core.step Script.vif)
        { inbox := [none, some peerFlowControl]
          reports := [none, some { complete := true }, some { complete := true }] : Script }.core
        [.request 2 (.queue (some (segmentedMessage 7))), .poll, .poll, .poll]).log ∧
      ∀ i message handle ok completion,
        .ended i message handle ok (some completion) ∈ (run (Core.step Script.vif)
          { inbox := [none, some peerFlowControl]
            reports := [none, some { complete := true }, some { complete := true }] : Script }.core
          [.request 2 (.queue (some (segmentedMessage 7))), .poll, .poll, .poll]).log →
            completion = message :=
  ends_each_message_once (Script.connected _) _ (by decide +kernel)

/-- The first of two messages times out under its first frame, whose completion then fails the
second. -/
theorem completion_ends_later_message :
    .ended 3 2 9 false (some 1) ∈ (run (Core.step Script.vif)
      { clock := [0, 0, 0, 2000000]
        inbox := [none, some peerFlowControl]
        reports := [none, none, none, some { complete := true }] : Script }.core
      [.request 2 (.queue (some (segmentedMessage 7))), .poll, .poll,
        .request 2 (.queue (some (segmentedMessage 9))), .poll]).log := by
  decide +kernel

end OpenDiag.J2534
