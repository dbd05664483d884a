import OpenDiag.J2534.Indications

/-!
# No stale flow control

The stored flow control of a channel belongs to the reception under way, and its receiver waits for
the confirmation of just that frame; the receiver leaves this state by a timeout, a single frame and
a lost link without withdrawing the stored frame, and in no other way.
-/

namespace OpenDiag.J2534

open Isotp Traffic

/-! ## What the receiver does -/

section Receiver

variable {rx : Rx} {frame : CanFrame} {now : Time}

/-- A timeout ends a reception, or nothing happens. -/
theorem rxCheckTimeout_moves (rx : Rx) (now : Time) :
    (rxCheckTimeout rx now).2 = rx ∨
      expired now rx.deadlineUs = true ∧ (rxCheckTimeout rx now).2 = { rx with state := .idle } := by
  rcases rxCheckTimeout_cases rx now with fresh | ⟨_, late, _, _, timeout⟩
  · exact .inl (by rw [fresh])
  · exact .inr ⟨late, by rw [timeout]⟩

/-- A flow control is taken from the receiver once, and in time. -/
theorem rxFlowControl_moves (rx : Rx) (now : Time) :
    ((rxFlowControl rx now).2.2.isSome = true ∧ (rxFlowControl rx now).2.1.state = .fcConfirm) ∨
      ((rxFlowControl rx now).2.2 = none ∧ (rxFlowControl rx now).2.1 = rx ∧
        rx.state ≠ .fcReady) ∨
      ((rxFlowControl rx now).2.2 = none ∧ (rxFlowControl rx now).2.1.state = .idle ∧
        expired now rx.deadlineUs = true) := by
  unfold rxFlowControl
  rcases rxCheckTimeout_cases rx now with fresh | ⟨_, late, rc, which, timeout⟩
  · simp only [fresh, Result.isError_ok, Bool.false_or, decide_eq_true_eq]
    split
    case isTrue other => exact .inr (.inl ⟨rfl, rfl, other⟩)
    case isFalse => exact .inl ⟨rfl, rfl⟩
  · refine .inr (.inr ?_)
    rcases which with rfl | rfl <;> simp [timeout, Result.isError, Result.code, late]

theorem firstFrameSize_le (config : Config) (frame : CanFrame) :
    firstFrameSize config frame ≤ isotpMaxPayload := by
  have low := (frame.data.read (config.addressLength + 1)).toNat_lt
  have high : (frame.data.read config.addressLength &&& 0x0f).toNat ≤ 15 := by
    rw [UInt8.toNat_and]
    exact Nat.and_le_right
  unfold firstFrameSize isotpMaxPayload
  omega

theorem singleFrameSize_le (config : Config) (frame : CanFrame) :
    singleFrameSize config frame ≤ isotpMaxPayload := by
  have high : (frame.data.read config.addressLength &&& 0x0f).toNat ≤ 15 := by
    rw [UInt8.toNat_and]
    exact Nat.and_le_right
  unfold singleFrameSize isotpMaxPayload
  omega

/-- A reception that there is room for is taken in. -/
theorem rxStart_taken {size : Nat} (first : Bool) (fits : size ≤ rx.capacity) :
    0 < (rxStart rx frame now first size).1.code ∧
      (rxStart rx frame now first size).2.2.started = true ∧
      (rxStart rx frame now first size).2.1.state = if first then .fcReady else .idle := by
  unfold rxStart
  dsimp only
  rw [if_neg (not_lt.2 fits)]
  cases first <;> exact ⟨by simp [Result.code], rfl, rfl⟩

theorem rxContinue_moves (rx : Rx) (frame : CanFrame) (now : Time) :
    (rxContinue rx frame now).2.2.started = false ∧
      (0 < (rxContinue rx frame now).1.code ∨ (rxContinue rx frame now).2.1 = rx ∨
        (rxContinue rx frame now).2.1 = { rx with state := .idle }) := by
  unfold rxContinue
  dsimp only
  split_ifs <;> simp [segmentCopy, Result.code]

/-- What a frame that is not taken in does to a receiver that has room for every message. -/
theorem rxFeed_refused (room : rx.capacity = isotpMaxPayload)
    (refused : (rxFeed rx frame now).1.code ≤ 0) :
    (rxFeed rx frame now).2.1 = rx ∨
      ((rxFeed rx frame now).2.1 = { rx with state := .idle } ∧
        (rx.state = .cf ∨ expired now rx.deadlineUs = true)) := by
  rcases rxFeed_exits rx frame now with ⟨_, late, _, _, timeout⟩ | ignored | ⟨_, start⟩ |
    ⟨_, start⟩ | ⟨awaited, continues⟩
  · exact .inr ⟨by rw [timeout], .inr late⟩
  · exact .inl (by rw [ignored])
  · rw [start] at refused
    have fits := (singleFrameSize_le rx.config frame).trans room.ge
    have taken := (@rxStart_taken rx frame now _ false fits).1
    omega
  · rw [start] at refused
    have fits := (firstFrameSize_le rx.config frame).trans room.ge
    have taken := (@rxStart_taken rx frame now _ true fits).1
    omega
  · rw [continues] at refused ⊢
    rcases (rxContinue_moves rx frame now).2 with taken | same | idle
    · omega
    · exact .inl same
    · exact .inr ⟨idle, .inl awaited⟩

/-- What a frame that is taken in does: it begins a reception, or goes on with one. -/
theorem rxFeed_taken (room : rx.capacity = isotpMaxPayload)
    (taken : 0 < (rxFeed rx frame now).1.code) :
    ((rxFeed rx frame now).2.2.started = true ∧
        (acceptsSingle rx.config frame = true ∨ (rxFeed rx frame now).2.1.state = .fcReady)) ∨
      ((rxFeed rx frame now).2.2.started = false ∧ rx.state = .cf) := by
  rcases rxFeed_exits rx frame now with ⟨_, _, rc, which, timeout⟩ | ignored | ⟨single, start⟩ |
    ⟨_, start⟩ | ⟨awaited, continues⟩
  · rw [timeout] at taken
    rcases which with rfl | rfl <;> exact absurd taken (by simp [Result.code])
  · rw [ignored] at taken
    exact absurd taken (by simp [Result.code])
  · have fits := (singleFrameSize_le rx.config frame).trans room.ge
    rw [start]
    exact .inl ⟨(@rxStart_taken rx frame now _ false fits).2.1, .inl single⟩
  · have fits := (firstFrameSize_le rx.config frame).trans room.ge
    obtain ⟨_, started, ready⟩ := @rxStart_taken rx frame now _ true fits
    rw [start]
    exact .inl ⟨started, .inr ready⟩
  · rw [continues]
    exact .inr ⟨(rxContinue_moves rx frame now).1, awaited⟩

theorem rxFeed_capacity (rx : Rx) (frame : CanFrame) (now : Time) :
    (rxFeed rx frame now).2.1.capacity = rx.capacity := by
  rcases rxFeed_exits rx frame now with ⟨_, _, _, _, timeout⟩ | ignored | ⟨_, start⟩ |
    ⟨_, start⟩ | ⟨_, continues⟩
  · rw [timeout]
  · rw [ignored]
  · rw [start]
    unfold rxStart
    dsimp only
    split_ifs <;> rfl
  · rw [start]
    unfold rxStart
    dsimp only
    split_ifs <;> rfl
  · rw [continues]
    unfold rxContinue
    dsimp only
    split_ifs <;> rfl

theorem rxInit_capacity (rx : Rx) (config : Config) (room : rx.capacity = isotpMaxPayload) :
    (rxInit rx config rx.buffer isotpMaxPayload).2.capacity = isotpMaxPayload := by
  unfold rxInit
  split
  · exact room
  · rfl

theorem rxInit_idle (rx : Rx) (config : Config) (idle : rx.state = .idle) :
    (rxInit rx config rx.buffer isotpMaxPayload).2.state = .idle := by
  unfold rxInit
  split
  · exact idle
  · rfl

end Receiver

/-! ## The invariant -/

/-- No event withdraws a reception from under its stored flow control, and no generation is taken
for one that is a multiple of `2 ^ 32` away. -/
def Event.orderly : Event → Bool
  | .aged _ waiting receiver nowUs => !(waiting && expired nowUs receiver.deadlineUs)
  | .fed _ waiting receiver frame _ => !(waiting && acceptsSingle receiver.config frame)
  | .reset _ waiting => !waiting
  | .flowCompleted _ own current => !(own % 2 ^ 32 = current % 2 ^ 32 && own ≠ current)
  | _ => true

/-- A flow control is submitted for the reception that waits for its confirmation. -/
def Event.Current : Event → Prop
  | .flowSubmitted _ state own current => state = .fcConfirm ∧ own = current
  | _ => True

/-- The flow control under way is not that of a reception that has stored another one since. -/
structure Lane.Answered (lane : Lane) (pending : PendingTx) : Prop where
  generation : pending.rxGeneration ≤ lane.rxGeneration
  current : pending.rxGeneration = lane.rxGeneration → lane.flowControlPending = false ∧
    (lane.isoRx.state = .fcConfirm ∨ lane.isoRx.state = .idle)

/-- The stored flow control is that of the reception that waits for its confirmation. -/
structure Lane.Waiting (lane : Lane) : Prop where
  state : lane.flowControlPending = true → lane.isoRx.state = .fcConfirm
  generation : lane.flowControlPending = true → lane.flowGeneration = lane.rxGeneration
  capacity : lane.parent ≠ 0 → lane.isoRx.capacity = isotpMaxPayload

namespace Traffic

variable {s s' : Traffic}

/-- A flow control of a channel is under way on another one. -/
structure FlowUnderWay (s : Traffic) (p i : ChannelIndex) : Prop where
  kind : (s.lanes p).pending.kind = .flowControl
  discard : (s.lanes p).pending.discard = false
  confirmed : (s.lanes p).pending.confirmed = false
  id : (s.lanes i).id ≠ 0
  channel : (s.lanes p).pending.channel = (s.lanes i).id

structure Fresh (s : Traffic) : Prop where
  distinct : ∀ i j, (s.lanes i).id ≠ 0 → (s.lanes i).id = (s.lanes j).id → i = j
  waiting : ∀ i, (s.lanes i).Waiting
  answered : ∀ p i, s.FlowUnderWay p i →
    s.physical i = some p ∧ (s.lanes i).Answered (s.lanes p).pending
  current : ∀ event ∈ s.log, event.Current

theorem FlowUnderWay.of_same (same : s.SamePending s') {p i : ChannelIndex}
    (underWay : s'.FlowUnderWay p i) : s.FlowUnderWay p i := by
  obtain ⟨kind, discard, confirmed, id, channel⟩ := underWay
  rw [same.2] at kind discard confirmed channel
  rw [id_of_ids same.1] at id channel
  exact ⟨kind, discard, confirmed, id, channel⟩

/-! ## Steps -/

theorem Fresh.append (fresh : s.Fresh) {events : List Event}
    (current : ∀ event ∈ events, event.Current) : (s.append events).Fresh where
  distinct := fresh.distinct
  waiting := fresh.waiting
  answered := fun p i underWay => fresh.answered p i
    ⟨underWay.kind, underWay.discard, underWay.confirmed, underWay.id, underWay.channel⟩
  current := List.forall_mem_append.2 ⟨fresh.current, current⟩

theorem Fresh.record (fresh : s.Fresh) {event : Event} (current : event.Current) :
    (s.record event).Fresh :=
  fresh.append (List.forall_mem_singleton.2 current)

/-- A change of one lane. -/
theorem Fresh.put (fresh : s.Fresh) (i : ChannelIndex) {lane : Lane}
    (id : lane.id = (s.lanes i).id) (parent : lane.parent = (s.lanes i).parent)
    (pending : lane.pending = (s.lanes i).pending) (waiting : lane.Waiting)
    (answered : ∀ p, s.FlowUnderWay p i → (s.lanes i).Answered (s.lanes p).pending →
      lane.Answered (s.lanes p).pending) :
    (s.put i lane).Fresh := by
  have same : s.SamePending (s.put i lane) := .put s i id parent pending
  refine ⟨fun j k => ?_, fun j => ?_, fun p j underWay => ?_, fresh.current⟩
  · rw [id_of_ids same.1, id_of_ids same.1]
    exact fresh.distinct j k
  · by_cases here : j = i
    · subst here
      rw [lanes_put_self]
      exact waiting
    · rw [lanes_put_of_ne here]
      exact fresh.waiting j
  · obtain ⟨onto, still⟩ := fresh.answered p j (underWay.of_same same)
    rw [physical_of_ids same.1, same.2]
    refine ⟨onto, ?_⟩
    by_cases here : j = i
    · subst here
      rw [lanes_put_self]
      exact answered p (underWay.of_same same) still
    · rw [lanes_put_of_ne here]
      exact still

/-- A change of what a lane sends. -/
theorem Fresh.sender (fresh : s.Fresh) (i : ChannelIndex) (handle : UInt32) (txLen : Nat)
    (txActive : Bool) (stored : Nat) (isoTx : Tx) :
    (s.put i { s.lanes i with handle, txLen, txActive, stored, isoTx }).Fresh := by
  obtain ⟨state, generation, capacity⟩ := fresh.waiting i
  exact fresh.put i rfl rfl rfl ⟨state, generation, capacity⟩
    fun _ _ answered => ⟨answered.generation, answered.current⟩

/-- A transmission is put under way, or taken from its channel. -/
theorem Fresh.setPending (fresh : s.Fresh) (p : ChannelIndex) {pending : PendingTx}
    (answered : ∀ i, (s.setPending p pending).FlowUnderWay p i →
      s.physical i = some p ∧ (s.lanes i).Answered pending) : (s.setPending p pending).Fresh := by
  refine ⟨fun j k => ?_, fun j => ?_, fun q j underWay => ?_, fresh.current⟩
  · rw [lanes_setPending, lanes_setPending]
    exact fresh.distinct j k
  · rw [lanes_setPending]
    obtain ⟨state, generation, capacity⟩ := fresh.waiting j
    exact ⟨state, generation, capacity⟩
  · have still (underWay : PendingTx) (answered : (s.lanes j).Answered underWay) :
        ((s.setPending p pending).lanes j).Answered underWay := by
      rw [lanes_setPending]
      exact ⟨answered.generation, answered.current⟩
    rw [physical_of_ids (ids_setPending ..)]
    by_cases here : q = p
    · subst here
      rw [lanes_setPending s q, if_pos rfl]
      exact (answered j underWay).imp_right (still _)
    · have same : ((s.setPending p pending).lanes q) = s.lanes q := lanes_put_of_ne here ..
      have id := id_of_ids (ids_setPending s p pending) j
      obtain ⟨kind, discard, confirmed, known, channel⟩ := underWay
      rw [same] at kind discard confirmed channel ⊢
      rw [id] at known channel
      exact (fresh.answered q j ⟨kind, discard, confirmed, known, channel⟩).imp_right (still _)

/-- A transmission that is no flow control, or that nothing is confirmed by. -/
theorem Fresh.setSpent (fresh : s.Fresh) (p : ChannelIndex) {pending : PendingTx}
    (spent : pending.kind ≠ .flowControl ∨ pending.discard = true ∨ pending.confirmed = true) :
    (s.setPending p pending).Fresh := by
  refine fresh.setPending p fun i underWay => absurd underWay fun underWay => ?_
  obtain ⟨kind, discard, confirmed, _, _⟩ := underWay
  rw [lanes_setPending, if_pos rfl] at kind discard confirmed
  rcases spent with other | discarded | confirmed'
  · exact other kind
  · exact Bool.noConfusion (discarded.symm.trans discard)
  · exact Bool.noConfusion (confirmed'.symm.trans confirmed)

theorem Event.current_of_indication {i : ChannelIndex} {handle : UInt32} {ok : Bool}
    {stamp : Stamp} {last : Event} (current : last.Current) :
    ∀ event ∈ indication i handle ok stamp ++ [last], event.Current := by
  intro event member
  rcases List.mem_append.1 member with told | ended
  · obtain ⟨record, rfl⟩ := mem_indication told
    exact True.intro
  · exact List.mem_singleton.1 ended ▸ current

theorem Fresh.txDone (fresh : s.Fresh) (i : ChannelIndex) (ok : Bool) (completion : Option Nat)
    (stamp : Stamp) : (s.txDone i ok completion stamp).Fresh :=
  (fresh.sender i _ 0 false _ _).append (Event.current_of_indication True.intro)

/-- A reception with no stored flow control ends. -/
theorem Fresh.retire (fresh : s.Fresh) (i : ChannelIndex)
    (none : (s.lanes i).flowControlPending = false) :
    (s.put i { s.lanes i with isoRx := { (s.lanes i).isoRx with state := .idle } }).Fresh := by
  refine fresh.put i rfl rfl rfl ⟨fun waiting => ?_, (fresh.waiting i).generation,
    (fresh.waiting i).capacity⟩ fun p underWay answered => ⟨answered.generation, fun same =>
      ⟨none, .inr rfl⟩⟩
  exact Bool.noConfusion (none.symm.trans waiting)

/-- A flow control is confirmed to the reception that it was submitted for, if that goes on. -/
theorem Fresh.confirm (fresh : s.Fresh) (p i : ChannelIndex) (pending : PendingTx)
    (success : Bool) (time : Time) (stamp : Stamp)
    (owned : s.owner (s.lanes p).pending.channel = some i)
    (live : (s.lanes p).pending.discard = false ∧ (s.lanes p).pending.confirmed = false)
    (spent : pending.kind = .none ∨ pending.confirmed = true)
    (orderly : ∀ event ∈
      ((s.setPending p pending).confirm i (s.lanes p).pending success time stamp).log,
        event.orderly) :
    ((s.setPending p pending).confirm i (s.lanes p).pending success time stamp).Fresh := by
  have taken : (s.setPending p pending).Fresh :=
    fresh.setSpent p (spent.imp (fun none => by rw [none]; decide) .inr)
  unfold Traffic.confirm at orderly ⊢
  cases awaited : (s.lanes p).pending.kind with
  | isotp =>
      have moved := taken.sender i ((s.setPending p pending).lanes i).handle
        ((s.setPending p pending).lanes i).txLen ((s.setPending p pending).lanes i).txActive
        ((s.setPending p pending).lanes i).stored
        (txConfirm ((s.setPending p pending).lanes i).isoTx success time).2
      dsimp only
      split
      · exact moved.txDone i _ _ stamp
      · exact moved
  | flowControl =>
      rw [awaited] at orderly
      dsimp only at orderly ⊢
      refine Fresh.record ?_ True.intro
      obtain ⟨known, id⟩ := owner_some owned
      obtain ⟨onto, _, current⟩ :=
        fresh.answered p i ⟨awaited, live.1, live.2, by rwa [id], id.symm⟩
      have generation : ((s.setPending p pending).lanes i).rxGeneration =
          (s.lanes i).rxGeneration := by
        rw [lanes_setPending]
        rfl
      have completed := orderly (.flowCompleted i (s.lanes p).pending.rxGeneration
        ((s.setPending p pending).lanes i).rxGeneration)
          (List.mem_append_right _ (List.mem_singleton_self _))
      unfold Lane.confirmFlow
      split
      case isFalse => exact (put_self ..).symm ▸ taken
      case isTrue same =>
        have none : ((s.setPending p pending).lanes i).flowControlPending = false := by
          rw [generation] at same completed
          simp only [Event.orderly, Bool.not_eq_true', Bool.and_eq_false_iff,
            decide_eq_false_iff_not, not_not] at completed
          have equal := completed.resolve_left fun other => other same
          rw [lanes_setPending]
          exact (current equal).1
        obtain ⟨state, deadlineUs, restates⟩ :=
          rxConfirm_restates ((s.setPending p pending).lanes i).isoRx success time
        rw [restates]
        refine taken.put i rfl rfl rfl ⟨fun waiting => ?_, (taken.waiting i).generation,
          (taken.waiting i).capacity⟩ fun q underWay _ => absurd underWay fun underWay => ?_
        · exact Bool.noConfusion (none.symm.trans waiting)
        · have onto' := (taken.answered q i underWay).1
          rw [physical_of_ids (ids_setPending ..), onto] at onto'
          cases onto'
          obtain ⟨kind, discard, confirmed, _, _⟩ := underWay
          rw [lanes_setPending, if_pos rfl] at kind discard confirmed
          rcases spent with none | confirmed'
          · exact TxKind.noConfusion (none.symm.trans kind)
          · exact Bool.noConfusion (confirmed'.symm.trans confirmed)
  | _ => exact taken.txDone i _ _ stamp

/-- A frame is taken in, and a flow control that is due is stored. -/
theorem Fresh.accept (fresh : s.Fresh) (i : ChannelIndex) (frame : CanFrame) (now : Time)
    {later : Time}
    (logical : (s.lanes i).parent ≠ 0) (taken : 0 < (rxFeed (s.lanes i).isoRx frame now).1.code)
    {fed : Rx} {started : Bool} (feed : (rxFeed (s.lanes i).isoRx frame now).2.1 = fed)
    (begins : (rxFeed (s.lanes i).isoRx frame now).2.2.started = started)
    (single : (s.lanes i).flowControlPending = true →
      acceptsSingle (s.lanes i).isoRx.config frame = false)
    (punctual : (s.lanes i).flowControlPending = true → expired later fed.deadlineUs = false) :
    (s.put i { s.lanes i with
      isoRx := (rxFlowControl fed later).2.1
      rxGeneration := (s.lanes i).rxGeneration + if started then 1 else 0
      flowControlPending := (rxFlowControl fed later).2.2.isSome || (s.lanes i).flowControlPending
      flowGeneration := if (rxFlowControl fed later).2.2.isSome then
          (s.lanes i).rxGeneration + if started then 1 else 0
        else (s.lanes i).flowGeneration }).Fresh := by
  obtain ⟨state, generation, capacity⟩ := fresh.waiting i
  have moves := rxFeed_taken (capacity logical) taken
  rw [feed, begins] at moves
  have room : (rxFlowControl fed later).2.1.capacity = isotpMaxPayload := by
    obtain ⟨_, _, restates⟩ := rxFlowControl_restates fed later
    rw [restates, ← feed, rxFeed_capacity]
    exact capacity logical
  refine fresh.put i rfl rfl rfl ⟨?_, ?_, fun _ => room⟩ fun p _ answered => ?_
  · intro waiting
    rcases rxFlowControl_moves fed later with ⟨_, confirm⟩ | ⟨none, same, unready⟩ |
      ⟨none, _, late⟩
    · exact confirm
    · -- a stored flow control whose reception has not asked for another is not replaced
      have earlier : (s.lanes i).flowControlPending = true := by simpa [none] using waiting
      exfalso
      rcases moves with ⟨_, accepted | ready⟩ | ⟨_, cf⟩
      · exact Bool.noConfusion ((single earlier).symm.trans accepted)
      · exact unready ready
      · exact RxState.noConfusion (cf.symm.trans (state earlier))
    · have earlier : (s.lanes i).flowControlPending = true := by simpa [none] using waiting
      exact Bool.noConfusion ((punctual earlier).symm.trans late)
  · intro waiting
    rcases rxFlowControl_moves fed later with ⟨stored, _⟩ | ⟨none, _, unready⟩ | ⟨none, _, late⟩
    · simp only [stored, if_true]
    · have earlier : (s.lanes i).flowControlPending = true := by simpa [none] using waiting
      exfalso
      rcases moves with ⟨_, accepted | ready⟩ | ⟨_, cf⟩
      · exact Bool.noConfusion ((single earlier).symm.trans accepted)
      · exact unready ready
      · exact RxState.noConfusion (cf.symm.trans (state earlier))
    · have earlier : (s.lanes i).flowControlPending = true := by simpa [none] using waiting
      exact Bool.noConfusion ((punctual earlier).symm.trans late)
  · refine ⟨Nat.le_add_right_of_le answered.generation, fun same => ?_⟩
    have earlier := answered.generation
    dsimp only at same
    rcases moves with ⟨begun, _⟩ | ⟨continued, cf⟩
    · rw [begun, if_pos rfl] at same
      omega
    · rw [continued, if_neg (by decide), Nat.add_zero] at same
      rcases (answered.current same).2 with confirm | idle
      · exact RxState.noConfusion (cf.symm.trans confirm)
      · exact RxState.noConfusion (cf.symm.trans idle)

/-- Every orderly step keeps the stored flow controls fresh. -/
theorem Step.fresh (step : Step s s') (orderly : ∀ event ∈ s'.log, event.orderly)
    (fresh : s.Fresh) : s'.Fresh := by
  cases step with
  | note event quiet => exact fresh.record (by cases event <;> first | exact True.intro | cases quiet)
  | store i handle txLen empty long => exact fresh.sender i handle txLen _ _ _
  | forget i clear => exact fresh.sender i _ 0 false _ _
  | begin i logical full => exact fresh.sender i _ _ true _ _
  | sender i isoTx clear => exact fresh.sender i _ _ _ _ isoTx
  | hear i frame answers now active => exact (fresh.sender i _ _ _ _ _).record True.intro
  | fail i stamp full clear => exact fresh.txDone i false none stamp
  | report i handle ok stamp => exact fresh.append (Event.current_of_indication True.intro)
  | submit i p pending onto free made due =>
      refine fresh.setSpent p (.inl fun kind => ?_)
      rw [kind] at due
      exact due
  | flow i p pending waiting onto free made kind =>
      obtain ⟨state, generation, capacity⟩ := fresh.waiting i
      have emptied : (s.put i { s.lanes i with flowControlPending := false }).Fresh :=
        fresh.put i rfl rfl rfl ⟨by simp, by simp, capacity⟩ fun _ _ answered =>
          ⟨answered.generation, fun same => ⟨rfl, (answered.current same).2⟩⟩
      have submitted : Event.Current (.flowSubmitted i (s.lanes i).isoRx.state
          (s.lanes i).flowGeneration (s.lanes i).rxGeneration) :=
        ⟨state waiting, generation waiting⟩
      refine (emptied.record submitted).setPending p fun j underWay => ?_
      obtain ⟨_, _, _, known, channel⟩ := underWay
      rw [lanes_setPending, if_pos rfl] at channel
      have ids := @ids_put s i { s.lanes i with flowControlPending := false } rfl rfl
      rw [id_of_ids (ids_setPending ..), lanes_record, id_of_ids ids] at known channel
      obtain rfl : j = i := fresh.distinct j i known (channel.symm.trans made.channel)
      rw [lanes_record, lanes_put_self]
      refine ⟨(physical_of_ids ids j).trans onto, made.rxGeneration.le, fun _ => ⟨rfl, .inl ?_⟩⟩
      exact state waiting
  | discard p => exact fresh.setSpent p (.inr (.inl rfl))
  | drop p idle => exact fresh.setSpent p (.inl (by simp))
  | settle p i pending success time stamp owned kind live spent =>
      exact fresh.confirm p i pending success time stamp owned live spent orderly
  | ignore i frame answers now logical refused =>
      have aged := orderly (.aged i (s.lanes i).flowControlPending (s.lanes i).isoRx now)
        (List.mem_append_left _ (List.mem_append_right _ (List.mem_singleton_self _)))
      refine Fresh.record (Fresh.record ?_ ?_) ?_
      rotate_left
      · exact True.intro
      · exact True.intro
      rcases rxFeed_refused ((fresh.waiting i).capacity logical) refused with same | ⟨idle, why⟩
      · rw [same]
        exact (put_self s i).symm ▸ fresh
      · rw [idle]
        refine fresh.retire i (Bool.eq_false_iff.2 fun waiting => ?_)
        rcases why with cf | late
        · exact RxState.noConfusion (cf.symm.trans ((fresh.waiting i).state waiting))
        · simp [Event.orderly, waiting, late] at aged
  | accept i frame answers now later notes rc fed segment rxGeneration logical quiet feed taken
      generation =>
      subst generation
      have events := fun event member => orderly event (List.mem_append_right _ member)
      have given := events (.fed i (s.lanes i).flowControlPending (s.lanes i).isoRx frame answers)
        (by simp)
      have aged := events (.aged i (s.lanes i).flowControlPending fed later) (by simp)
      refine Fresh.append (fresh.accept i frame now logical (by rw [feed]; exact taken)
        (by rw [feed]) (by rw [feed]) (fun waiting => ?_) fun waiting => ?_) fun event member => ?_
      · simpa [Event.orderly, waiting] using given
      · simpa [Event.orderly, waiting] using aged
      · simp only [List.mem_append, List.mem_cons, List.not_mem_nil, or_false] at member
        rcases member with ((rfl | rfl) | noted) | rfl
        · exact True.intro
        · exact True.intro
        · have still := quiet event noted
          cases event <;> first | exact True.intro | cases still
        · exact True.intro
  | check i now =>
      refine Fresh.record ?_ True.intro
      have aged := orderly (.aged i (s.lanes i).flowControlPending (s.lanes i).isoRx now)
        (List.mem_append_right _ (List.mem_singleton_self _))
      rcases rxCheckTimeout_moves (s.lanes i).isoRx now with same | ⟨late, idle⟩
      · rw [same]
        exact (put_self s i).symm ▸ fresh
      · rw [idle]
        refine fresh.retire i (Bool.eq_false_iff.2 fun waiting => ?_)
        simp [Event.orderly, waiting, late] at aged
  | reset i =>
      have none := orderly (.reset i (s.lanes i).flowControlPending)
        (List.mem_append_right _ (List.mem_singleton_self _))
      exact (fresh.retire i (by simpa [Event.orderly] using none)).record True.intro
  | clear i config =>
      obtain ⟨state, generation, capacity⟩ := fresh.waiting i
      refine fresh.put i rfl rfl rfl ⟨by simp, by simp, fun logical => ?_⟩ fun p _ answered => ?_
      · exact rxInit_capacity _ config (capacity logical)
      · have earlier := answered.generation
        exact ⟨by simp only; omega, fun same => by simp only at same; omega⟩
  | configure i config idle =>
      obtain ⟨state, generation, capacity⟩ := fresh.waiting i
      have none : (s.lanes i).flowControlPending = false :=
        Bool.eq_false_iff.2 fun waiting => RxState.noConfusion (idle.symm.trans (state waiting))
      refine fresh.put i rfl rfl rfl ⟨fun waiting => ?_, generation, fun logical => ?_⟩
        fun p _ answered => ⟨answered.generation, fun _ => ⟨none, .inr (rxInit_idle _ config idle)⟩⟩
      · exact Bool.noConfusion (none.symm.trans waiting)
      · exact rxInit_capacity _ config (capacity logical)

theorem Steps.fresh (steps : Steps s s') (orderly : ∀ event ∈ s'.log, event.orderly)
    (fresh : s.Fresh) : s'.Fresh := by
  induction steps with
  | refl => exact fresh
  | tail _ step ih =>
      obtain ⟨events, log⟩ := step.log
      exact step.fresh orderly
        (ih fun event member => orderly event (log ▸ List.mem_append_left _ member))

end Traffic

/-! ## Runs -/

section Runs

variable {σ : Type*} {vif : Vif σ} {core : Core σ}

theorem Core.Connected.fresh (connected : core.Connected) : core.traffic.Fresh := by
  refine ⟨connected.distinct, fun i => ⟨fun waiting => ?_, fun waiting => ?_,
    connected.capacity i⟩, fun p i underWay => ?_, fun event member => ?_⟩
  · exact Bool.noConfusion ((connected.flowControlPending i).symm.trans waiting)
  · exact Bool.noConfusion ((connected.flowControlPending i).symm.trans waiting)
  · obtain ⟨kind, _⟩ := underWay
    have none : (core.traffic.lanes p).pending = {} := connected.pending p
    rw [none] at kind
    cases kind
  · have log : core.traffic.log = [] := connected.log
    rw [log] at member
    cases member

/-- In an orderly run, every flow control is submitted for the reception that waits for its
confirmation, and a stored flow control is always that of the current reception. -/
theorem flow_controls_are_current (connected : core.Connected) (ops : List Op)
    (orderly : ∀ event ∈ (run (Core.step vif) core ops).log, event.orderly) :
    (∀ i state own current,
      .flowSubmitted i state own current ∈ (run (Core.step vif) core ops).log →
        state = .fcConfirm ∧ own = current) ∧
      ∀ i, ((run (Core.step vif) core ops).channels i).flowControlPending = true →
        ((run (Core.step vif) core ops).channels i).isoRx.state = .fcConfirm ∧
          ((run (Core.step vif) core ops).channels i).flowGeneration =
            ((run (Core.step vif) core ops).channels i).rxGeneration := by
  have fresh := (run_steps vif connected ops).fresh orderly connected.fresh
  exact ⟨fun i state own current member => fresh.current _ member,
    fun i waiting => ⟨(fresh.waiting i).state waiting, (fresh.waiting i).generation waiting⟩⟩

end Runs

/-- The first frame of a message of ten bytes from the peer. -/
def peerFirstFrame : BusMsg :=
  { data := [0x10, 10, 1, 2, 3, 4, 5, 6], len := 8, id := 0x7e8 }

/-- A single frame from the peer. -/
def peerSingleFrame : BusMsg :=
  { data := [0x03, 1, 2, 3, 0, 0, 0, 0], len := 8, id := 0x7e8 }

/-- A first frame is answered in the same poll. -/
theorem flow_controls_are_current_after_first_frame :
    (∀ i state own current,
      .flowSubmitted i state own current ∈ (run (Core.step Script.vif)
          { inbox := [some peerFirstFrame], reports := [some { complete := true }] : Script }.core
          [.poll]).log →
        state = .fcConfirm ∧ own = current) ∧
      ∀ i, ((run (Core.step Script.vif)
          { inbox := [some peerFirstFrame], reports := [some { complete := true }] : Script }.core
          [.poll]).channels i).flowControlPending = true →
        ((run (Core.step Script.vif)
          { inbox := [some peerFirstFrame], reports := [some { complete := true }] : Script }.core
          [.poll]).channels i).isoRx.state = .fcConfirm ∧
          ((run (Core.step Script.vif)
            { inbox := [some peerFirstFrame], reports := [some { complete := true }] : Script }.core
            [.poll]).channels i).flowGeneration =
            ((run (Core.step Script.vif)
              { inbox := [some peerFirstFrame], reports := [some { complete := true }] : Script }.core
              [.poll]).channels i).rxGeneration :=
  flow_controls_are_current (Script.connected _) _ (by decide +kernel)

/-- A first and a single frame in one poll: the flow control of the message that the single frame
has replaced is still submitted. -/
theorem stale_flow_control_is_submitted :
    .flowSubmitted 3 .idle 1 2 ∈ (run (Core.step Script.vif)
      { inbox := [some peerFirstFrame, some peerSingleFrame] : Script }.core [.poll]).log := by
  decide +kernel

end OpenDiag.J2534
