import OpenDiag.J2534.Traffic

/-!
# Every run of the core is a sequence of steps

One lemma for each function of the core: what it does to the traffic is a sequence of steps. A step
says in which state it is taken, beside what it changes, so that the functions are walked through
for the steps on their own.
-/

namespace OpenDiag.J2534

open Isotp Traffic

variable {σ : Type*} (vif : Vif σ) (core : Core σ)

/-! ## Changes of one channel -/

/-- A change of one channel is a change of its lane. -/
theorem traffic_modify (i : ChannelIndex) (change : Channel → Channel) :
    (core.modify i change).traffic = core.traffic.put i (change (core.channels i)).lane := by
  simp only [Core.traffic, Core.modify, put, Traffic.mk.injEq, and_true]
  funext j
  by_cases here : j = i
  · subst here
    simp
  · simp [Function.update_of_ne here]

/-- A change of what no transmission or reception depends on. -/
theorem traffic_modify_of_lane {i : ChannelIndex} {change : Channel → Channel}
    (same : (change (core.channels i)).lane = (core.channels i).lane) :
    (core.modify i change).traffic = core.traffic := by
  rw [traffic_modify, same]
  exact put_self ..

variable {core} in
/-- A change beside what is under way leaves it under way. -/
theorem modify_samePending {s : Traffic} {i : ChannelIndex} {change : Channel → Channel}
    (before : s.SamePending core.traffic)
    (apart : ∀ channel, (change channel).id = channel.id ∧ (change channel).parent = channel.parent ∧
      (change channel).pending = channel.pending) :
    s.SamePending (core.modify i change).traffic := by
  obtain ⟨id, parent, pending⟩ := apart (core.channels i)
  rw [traffic_modify]
  exact before.trans (.put _ _ id parent pending)

@[simp] theorem traffic_record (event : Event) :
    (core.record event).traffic = core.traffic.record event := rfl

@[simp] theorem traffic_modifyJob (i : ChannelIndex) (slot : Slot) (change : Job → Job) :
    (core.modifyJob i slot change).traffic = core.traffic :=
  traffic_modify_of_lane core rfl

/-- What the client is given to read is in the history, and in no lane. -/
theorem enqueue_traffic (i : ChannelIndex) (handle status : UInt32) (timestamp : Time)
    (data : List UInt8) (indication : Bool) :
    (enqueue core i handle status timestamp data indication).traffic =
      core.traffic.record (.enqueued i
        { protocol := (core.channels i).protocol, handle, status, timestamp, data, indication }) := by
  rw [enqueue, traffic_record, traffic_modify_of_lane core rfl]

/-- A record without a handle is a note. -/
theorem enqueue_noted (i : ChannelIndex) (status : UInt32) (timestamp : Time) (data : List UInt8)
    (indication : Bool) :
    core.traffic.Noted (enqueue core i 0 status timestamp data indication).traffic := by
  rw [enqueue_traffic]
  exact .single _ rfl

/-- An echo is a record for the client without a handle. -/
theorem echoCan_noted (p : ChannelIndex) (frame : CanFrame) (timestamp : Time) :
    core.traffic.Noted (echoCan core p frame timestamp).traffic := by
  unfold echoCan
  split
  · exact .refl _
  · extract_lets data flags
    split
    · exact enqueue_noted ..
    · exact .refl _

/-! ## The end of a transmission -/

/-- What an indication of a channel says that is made now. -/
def Core.stamp (i : ChannelIndex) : Stamp where
  protocol := (core.channels i).protocol
  timestamp := (core.now vif).1

/-- `tx_done` enqueues its indication, if any, and ends the message. -/
theorem txDone_traffic (i : ChannelIndex) (ok : Bool) (completion : Option Nat) :
    (txDone vif core i ok completion).traffic =
      core.traffic.txDone i ok completion (core.stamp vif i) := by
  have done (mid : Core σ) (notes : List Event)
      (same : mid.traffic = core.traffic.append notes)
      (told : notes = indication i (core.channels i).tx.handle ok (core.stamp vif i)) :
      ((mid.modify i fun channel => { channel with txLen := 0, txActive := false }).record
          (.ended i (mid.channels i).stored (core.channels i).tx.handle ok completion)).traffic =
        core.traffic.txDone i ok completion (core.stamp vif i) := by
    have lane : (mid.channels i).lane = (core.channels i).lane :=
      congrArg (Traffic.lanes · i) same
    have stored : (mid.channels i).stored = (core.channels i).stored := congrArg Lane.stored lane
    have after : ({ mid.channels i with txLen := 0, txActive := false } : Channel).lane =
        { (core.channels i).lane with txLen := 0, txActive := false } :=
      congrArg (fun lane : Lane => { lane with txLen := 0, txActive := false }) lane
    rw [traffic_record, traffic_modify, after, stored, same, told]
    simp only [Traffic.txDone, append, Traffic.record, put, List.append_assoc]
    rfl
  dsimp only [txDone]
  split
  case isTrue some => exact done _ _ (enqueue_traffic (core.now vif).2 ..) (if_pos some).symm
  case isFalse none =>
    refine done core [] ?_ (if_neg none).symm
    rw [append, List.append_nil]

/-- `confirm_protocol_tx` confirms, with the indication of the message that it ends. -/
theorem confirmProtocolTx_traffic (i : ChannelIndex) (pending : PendingTx) (success : Bool)
    (timestamp : Time) :
    (confirmProtocolTx vif core i pending success timestamp).traffic =
      core.traffic.confirm i pending success timestamp (core.stamp vif i) := by
  unfold confirmProtocolTx Traffic.confirm
  cases kind : pending.kind with
  | flowControl =>
      dsimp only
      rw [Lane.confirmFlow, put_record]
      split
      · rw [traffic_modify, if_pos ‹_›]
        rfl
      · rw [traffic_record, if_neg ‹_›]
        exact (put_self ..).symm
  | isotp =>
      have moved := traffic_modify core i fun channel =>
        { channel with isoTx := (txConfirm (core.channels i).isoTx success timestamp).2 }
      have stamp : (core.modify i fun channel => { channel with
          isoTx := (txConfirm (core.channels i).isoTx success timestamp).2 }).stamp vif i =
            core.stamp vif i := by
        simp [Core.stamp, Core.modify, Core.now]
      dsimp only
      split
      case isTrue finished =>
        refine Eq.trans ?_ (if_pos finished).symm
        rw [txDone_traffic, stamp, moved]
        rfl
      case isFalse finished =>
        refine Eq.trans ?_ (if_neg finished).symm
        rw [moved]
        rfl
  | _ => exact txDone_traffic ..

omit vif in
/-- Jobs are left out of the traffic; that one changes is noted. -/
theorem changeJob_noted (i : ChannelIndex) (slot : Slot) (what : JobChange)
    (change : Job → Job) : core.traffic.Noted (core.changeJob i slot what change).traffic := by
  unfold Core.changeJob
  rw [traffic_record, traffic_modifyJob]
  exact .single _ True.intro

/-- So is the end of its transmission. -/
theorem finishJob_noted (i : ChannelIndex) (pending : PendingTx) (result : TxResult) :
    core.traffic.Noted (finishJob vif core i pending result).traffic := by
  unfold finishJob
  extract_lets success
  split
  · exact .refl _
  · dsimp only
    have timed : core.traffic =
        (if success then (result.startedUs, core) else core.now vif).2.traffic := by
      split <;> rfl
    rw [timed]
    generalize (if success then (result.startedUs, core) else core.now vif) = started
    split <;> exact changeJob_noted ..

/-- The end of a scheduled message is noted, and may be reported. -/
theorem finishScheduled_steps (i : ChannelIndex) (pending : PendingTx) (result : TxResult) :
    Steps core.traffic (finishScheduled vif core i pending result).traffic := by
  refine (finishJob_noted vif core i pending result).steps.trans ?_
  unfold finishScheduled
  extract_lets core
  split
  case isTrue reports =>
    have asked : pending.handle ≠ 0 := by
      simpa using (Bool.and_eq_true_iff.1 reports).2
    rw [traffic_record, enqueue_traffic]
    have step := Step.report core.traffic i pending.handle (result.status = 0)
      ⟨(core.channels i).protocol, result.endedUs⟩ asked
    rw [Traffic.report, indication, if_pos asked] at step
    simp only [Traffic.record, append, List.append_assoc, decide_eq_true_eq] at step ⊢
    exact .single step
  case isFalse => exact .refl

/-- Nothing is under way any more, and at most an echo is noted. -/
theorem takePending_noted (p : ChannelIndex) (result : TxResult) :
    (core.traffic.setPending p {}).Noted (takePending core p result).traffic := by
  have taken : (core.modify p fun channel => { channel with pending := {} }).traffic =
      core.traffic.setPending p {} := traffic_modify ..
  rw [← taken]
  unfold takePending
  extract_lets pending core
  split
  · exact echoCan_noted ..
  · exact .refl _

variable {core} {s : Traffic} (before : Steps s core.traffic)
include before

/-- A transmission completes: it is taken from its channel and, if somebody waits for it, is
confirmed. -/
theorem finishBusTx_steps (p : ChannelIndex) (result : TxResult)
    (under : (core.channels p).pending.kind ≠ .none) :
    Steps s (finishBusTx vif core p result).traffic := by
  refine before.trans ?_
  have taken := takePending_noted core p result
  unfold finishBusTx
  extract_lets pending owner after
  cases owned : owner with
  | none => exact .head (.drop _ p (.inr (.inr (.inr owned)))) taken.steps
  | some i =>
    dsimp only
    split
    case isTrue scheduled =>
      exact .head (.drop _ p (.inl scheduled)) (taken.steps.trans (finishScheduled_steps ..))
    case isFalse unscheduled =>
      split
      case isTrue finished =>
        refine .head (.drop _ p ?_) taken.steps
        rcases Bool.or_eq_true_iff.1 finished with discard | confirmed
        · exact .inr (.inl discard)
        · exact .inr (.inr (.inl confirmed))
      case isFalse live =>
        have confirmed := confirmProtocolTx_traffic vif (after.now vif).2 i pending
          (result.status = 0) (after.now vif).1
        obtain ⟨mid, earlier, noted⟩ := taken.of_setPending
        have after' : (after.now vif).2.traffic = mid.setPending p {} := noted
        rw [Bool.or_eq_true, not_or, Bool.not_eq_true, Bool.not_eq_true] at live
        have same : (mid.lanes p).pending = pending :=
          congrArg Lane.pending (congrFun earlier.lanes p)
        have owned' : mid.owner (mid.lanes p).pending.channel = some i := by
          rw [owner_of_ids earlier.ids, same]
          exact owned
        have step := Step.settle mid p i {} (result.status = 0) (after.now vif).1
          ((after.now vif).2.stamp vif i) owned'
          (by rw [same]; exact ⟨under, unscheduled⟩) (by rw [same]; exact live) (.inl rfl)
        rw [same] at step
        rw [confirmed, after']
        exact earlier.steps.tail step

/-- A result confirms what is under way, or fails it. -/
theorem collectResult_steps (p : ChannelIndex) (result : TxResult)
    (under : (core.channels p).pending.kind ≠ .none) :
    Steps s (collectResult vif core p result).traffic := by
  unfold collectResult
  extract_lets pending
  split
  · exact finishBusTx_steps vif before p result under
  · split
    case isTrue early =>
      cases owned : findChannel core pending.channel with
      | none => exact before
      | some i =>
        dsimp only
        split
        · exact before
        case isFalse live =>
          have confirmed := confirmProtocolTx_traffic vif core i pending true result.endedUs
          simp only [Bool.and_eq_true, Bool.not_eq_true', Bool.or_eq_true, decide_eq_true_eq]
            at early
          rw [Bool.not_eq_true] at live
          have kind : pending.kind ≠ .none ∧ pending.kind ≠ .scheduled := by
            rcases early.2 with kind | kind <;> simp [kind]
          have step := Step.settle core.traffic p i { pending with confirmed := true } true
            result.endedUs (core.stamp vif i) owned kind ⟨early.1, live⟩ (.inr rfl)
          have underWay : (core.traffic.lanes p).pending = pending := rfl
          rw [← confirm_setPending, underWay] at step
          have kept : ((confirmProtocolTx vif core i pending true result.endedUs).channels p).pending =
              pending := by
            have kept := congrArg (fun s => (s.lanes p).pending) confirmed
            exact kept.trans (pending_confirm ..)
          rw [traffic_modify, kept]
          rw [← confirmed] at step
          exact before.tail step
    · split
      · cases findChannel core pending.channel with
        | none => exact before
        | some i =>
          dsimp only
          split
          · exact before
          · exact before.trans (changeJob_noted ..).steps
      · exact before

/-- So does a result that the driver is asked for. -/
theorem collectBusTx_steps (p : ChannelIndex) : Steps s (collectBusTx vif core p).traffic := by
  unfold collectBusTx
  split
  · exact before
  case isFalse under =>
    dsimp only
    split
    · exact before
    · refine collectResult_steps vif ?_ p _ under
      exact before

/-! ## Submission -/

omit before in
/-- A transmission is put under way, and may complete at once. -/
theorem submitBusTx_steps (i : ChannelIndex) (kind : TxKind) (job handle : UInt32) (msg : BusTx)
    (busFlags : UInt32) (given : kind ≠ .none)
    (submitted : ∀ p pending, physicalChannel core i = some p →
      pending.From (core.traffic.lanes i) → pending.kind = kind →
      Steps s (core.traffic.setPending p pending))
    (lost : physicalChannel core i = none → Steps s core.traffic) :
    Steps s (submitBusTx vif core i kind job handle msg busFlags).traffic := by
  unfold submitBusTx
  cases onto : physicalChannel core i with
  | none => exact lost onto
  | some p =>
      have begun := submitted p (pendingFor (core.channels i) kind job handle msg
        ((core.channels p).bus = .can)) onto ⟨rfl, rfl, rfl, rfl, rfl⟩ rfl
      have traffic (pending : PendingTx) :
          (core.modify p fun channel => { channel with pending }).traffic =
            core.traffic.setPending p pending := traffic_modify ..
      rw [← traffic] at begun
      dsimp only
      split
      · refine finishBusTx_steps vif ?_ p _ ?_
        · exact begun
        · simpa [Core.now, Core.modify, pendingFor] using given
      · exact begun

/-! ## Messages -/

/-- A stored message fails. -/
theorem txDone_steps (i : ChannelIndex)
    (full : (core.channels i).txLen ≠ 0 ∨ (core.channels i).txActive = true)
    (clear : core.traffic.Clear i ∨
      ((core.channels i).txActive = true ∧ (core.channels i).isoTx.state ≠ .confirm)) :
    Steps s (txDone vif core i false none).traffic := by
  rw [txDone_traffic]
  exact before.tail (.fail _ i _ full clear)

omit before in
/-- The end of a message leaves alone what is under way. -/
theorem txDone_samePending (before : s.SamePending core.traffic) (i : ChannelIndex) (ok : Bool)
    (completion : Option Nat) : s.SamePending (txDone vif core i ok completion).traffic := by
  rw [txDone_traffic]
  exact before.trans (.txDone ..)

omit before in
/-- So does its beginning. -/
theorem startTx_samePending (i : ChannelIndex) :
    core.traffic.SamePending (startTx vif core i).traffic := by
  unfold startTx
  dsimp only
  split
  · refine txDone_samePending vif ?_ i false none
    refine modify_samePending ?_ ?_
    · exact .refl _
    · exact fun _ => ⟨rfl, rfl, rfl⟩
  · refine modify_samePending ?_ ?_
    · refine modify_samePending ?_ ?_
      · exact .refl _
      · exact fun _ => ⟨rfl, rfl, rfl⟩
    · exact fun _ => ⟨rfl, rfl, rfl⟩

/-- A stored message begins where nothing is under way, or ends at once. -/
theorem startTx_steps (i : ChannelIndex) (logical : (core.channels i).parent ≠ 0)
    (full : (core.channels i).txLen ≠ 0) (free : core.traffic.Free i) :
    Steps s (startTx vif core i).traffic := by
  have moved (isoTx : Tx) :
      Steps s (core.modify i fun channel => { channel with isoTx }).traffic := by
    rw [traffic_modify]
    exact before.tail (.sender _ i isoTx free.clear)
  unfold startTx
  dsimp only
  split
  · refine txDone_steps vif ?_ i ?_ ?_
    · exact moved _
    · simpa [Core.modify] using .inl full
    · rw [traffic_modify]
      exact .inl (free.clear.of_same (.put _ _ rfl rfl rfl))
  · rw [traffic_modify]
    refine (moved _).tail (.begin _ i ?_ ?_)
    · simpa [traffic_modify] using logical
    · simpa [traffic_modify] using full

/-- The next frame of a message is put under way, or the message fails. -/
theorem nextTx_steps (i : ChannelIndex) (active : (core.channels i).txActive = true)
    (free : core.traffic.Free i) : Steps s (nextTx vif core i).traffic := by
  have moved (isoTx : Tx) :
      Steps s (core.modify i fun channel => { channel with isoTx }).traffic := by
    rw [traffic_modify]
    exact before.tail (.sender _ i isoTx free.clear)
  have still (isoTx : Tx) :
      (core.modify i fun channel => { channel with isoTx }).traffic.Free i := by
    rw [traffic_modify]
    exact free.of_same (.put _ _ rfl rfl rfl)
  unfold nextTx
  dsimp only
  split
  case h_1 frame due =>
    refine submitBusTx_steps vif i .isotp 0 0 _ 0 (by decide) ?_ fun _ => moved _
    intro p pending onto made kind
    refine (moved _).tail (.submit _ i p pending onto (still _ p onto) made ?_)
    rw [kind]
    exact ⟨by simpa [traffic_modify] using active,
      by simpa [traffic_modify] using txNext_state due⟩
  case h_2 =>
    split
    · refine txDone_steps vif ?_ i ?_ ?_
      · exact moved _
      · exact .inr (by simpa [Core.modify, Core.now] using active)
      · exact .inl (still _).clear
    · exact moved _

/-- A stored message begins, and its next frame goes out. -/
theorem pollTx_steps (i : ChannelIndex) (free : core.traffic.Free i) :
    Steps s (pollTx vif core i).traffic := by
  unfold pollTx
  dsimp only
  split
  · exact before
  case isFalse full =>
    split
    case isTrue logical =>
      split
      · exact before
      · have next {mid : Core σ} (began : Steps s mid.traffic) (free : mid.traffic.Free i) :
            Steps s (if (mid.channels i).txActive then nextTx vif mid i else mid).traffic := by
          split
          · exact nextTx_steps vif began i ‹_› free
          · exact began
        by_cases active : (core.channels i).txActive = true
        · simp only [active, if_true]
          exact nextTx_steps vif before i active free
        · simp only [active]
          exact next (startTx_steps vif before i logical full free)
            (free.of_same (startTx_samePending ..))
    case isFalse physical =>
      refine submitBusTx_steps vif i .message 0 0 _ _ (by decide) ?_ fun _ => before
      intro p pending onto made kind
      refine before.tail (.submit _ i p pending onto (free p onto) made ?_)
      rw [kind]
      exact ⟨not_not.1 physical, full⟩

/-! ## Scheduled messages and flow controls -/

omit before in
/-- To make the frames of a scheduled message, only the vehicle interface is asked. -/
theorem scheduledTx_core (i : ChannelIndex) (slot : Slot) :
    (scheduledTx vif core i slot).2.channels = core.channels ∧
      (scheduledTx vif core i slot).2.log = core.log := by
  unfold scheduledTx
  dsimp only
  split_ifs
  · exact ⟨rfl, rfl⟩
  · split <;> exact ⟨rfl, rfl⟩
  · exact ⟨rfl, rfl⟩
  · exact ⟨rfl, rfl⟩

/-- A scheduled message is put under way where nothing is. -/
theorem submitScheduled_steps (i : ChannelIndex) (slot : Slot) (free : core.traffic.Free i) :
    Steps s (submitScheduled vif core i slot).traffic := by
  obtain ⟨channels, log⟩ := @scheduledTx_core _ vif core i slot
  have same : (scheduledTx vif core i slot).2.traffic = core.traffic := by
    simp only [Core.traffic, channels, log]
  unfold submitScheduled
  dsimp only
  split
  · rw [traffic_modifyJob, same]
    exact before
  case h_2 msg _ =>
    refine submitBusTx_steps vif i .scheduled _ _ msg _ (by decide) ?_ fun _ => ?_
    · intro p pending onto made kind
      have onto : core.traffic.physical i = some p := by
        rw [← same, ← traffic_modifyJob]
        exact onto
      rw [traffic_modifyJob, same] at made ⊢
      exact before.tail (.submit _ i p pending onto (free p onto) made (kind ▸ True.intro))
    · rw [traffic_modifyJob, same]
      exact before

/-- The flow control that is stored is put under way for the reception that it was made for. -/
theorem submitFlow_steps (i : ChannelIndex) (waiting : (core.channels i).flowControlPending = true)
    {p : ChannelIndex} (onto : physicalChannel core i = some p)
    (free : (core.channels p).pending.kind = .none) :
    Steps s (submitFlow vif core i).traffic := by
  unfold submitFlow submitCan
  dsimp only
  have taken : ((core.modify i fun channel => { channel with flowControlPending := false }).record
      (.flowSubmitted i (core.channels i).isoRx.state (core.channels i).flowGeneration
        (core.channels i).rxGeneration)).traffic =
      (core.traffic.put i { core.traffic.lanes i with flowControlPending := false }).record
        (.flowSubmitted i (core.channels i).isoRx.state (core.channels i).flowGeneration
          (core.channels i).rxGeneration) := by
    rw [traffic_record, traffic_modify]
    rfl
  have still : physicalChannel ((core.modify i fun channel =>
      { channel with flowControlPending := false }).record (.flowSubmitted i
        (core.channels i).isoRx.state (core.channels i).flowGeneration
        (core.channels i).rxGeneration)) i = some p := by
    have same := physical_of_ids (@ids_put core.traffic i
      { core.traffic.lanes i with flowControlPending := false } rfl rfl) i
    exact (congrArg (Traffic.physical · i) taken).trans (same.trans onto)
  refine submitBusTx_steps vif i .flowControl 0 0 _ 0 (by decide) ?_ fun lost => ?_
  · intro q pending onto' made kind
    obtain rfl : q = p := Option.some.inj (onto'.symm.trans still)
    rw [taken] at made ⊢
    refine before.tail (.flow _ i q pending waiting onto free ?_ kind)
    rw [lanes_record, lanes_put_self] at made
    exact ⟨made.channel, made.message, made.rxGeneration, made.discard, made.confirmed⟩
  · rw [still] at lost
    cases lost

/-! ## Reception -/

/-- A flow control is heard, and may fail the message that waits for it. -/
theorem hearFrame_steps (i : ChannelIndex) (frame : CanFrame) (answers : Option Nat)
    (active : (core.channels i).txActive = true) :
    Steps s (hearFrame vif core i frame answers).traffic := by
  have heard := before.tail (.hear _ i frame answers (core.now vif).1 active)
  unfold hearFrame
  dsimp only
  rw [put_record, ← put_record] at heard
  have same : ((((core.now vif).2.modify i fun channel => { channel with
      isoTx := (txFlowControl (core.channels i).isoTx frame (core.now vif).1).2 }).record
        (.heard i (core.channels i).isoTx (core.now vif).1 answers))).traffic =
      (core.traffic.put i { core.traffic.lanes i with
        isoTx := (txFlowControl (core.channels i).isoTx frame (core.now vif).1).2 }).record
          (.heard i (core.channels i).isoTx (core.now vif).1 answers) := by
    rw [traffic_record, traffic_modify]
    rfl
  split
  case isTrue failed =>
    refine txDone_steps vif ?_ i ?_ ?_
    · exact same ▸ heard
    · exact .inr (by simpa [Core.modify, Core.record, Core.now] using active)
    · refine .inr ⟨by simpa [Core.modify, Core.record, Core.now] using active, ?_⟩
      have idle := txFlowControl_state failed
      simp only [Core.record, Core.modify, Function.update_self]
      exact fun confirm => TxState.noConfusion (idle.symm.trans confirm)
  case isFalse => exact same ▸ heard

omit before in
variable (core) in
/-- Repeats are left out of the traffic. -/
theorem scheduleComplete_traffic (i : ChannelIndex) (data : List UInt8) (flags : UInt32)
    (timestamp : Time) : (scheduleComplete core i data flags timestamp).traffic = core.traffic := by
  unfold scheduleComplete
  extract_lets channel see first
  have same (core : Core σ) (peer : ChannelIndex) : (see core peer).traffic = core.traffic :=
    traffic_modify_of_lane core rfl
  split
  · refine List.foldlRecOn (motive := fun after => Core.traffic after = core.traffic) _ _ (same ..) ?_
    intro after kept peer _
    dsimp only
    split
    · exact (same ..).trans kept
    · exact kept
  · exact same ..

omit before in
variable (core) in
/-- A reception begins with the next number, and its indication is noted. -/
theorem beginReception_noted (i : ChannelIndex) (frame : CanFrame) (segment : Segment)
    (timestamp : Time) :
    (core.traffic.put i { core.traffic.lanes i with
      rxGeneration := (core.channels i).rxGeneration + if segment.started then 1 else 0 }).Noted
        (beginReception core i frame segment timestamp).traffic := by
  unfold beginReception
  extract_lets channel
  cases segment.started with
  | false => exact (put_self core.traffic i).symm ▸ Noted.refl _
  | true =>
      have begun := traffic_modify core i fun channel =>
        { channel with rxGeneration := channel.rxGeneration + 1 }
      rw [if_pos rfl, if_pos rfl]
      split
      · exact begun ▸ Noted.refl _
      · exact (show Noted _ _ from begun ▸ Noted.refl _).trans (enqueue_noted ..)

omit before in
variable (core) in
/-- A segment that has been taken in begins a reception or not; the rest are notes. -/
theorem deliverSegment_noted (i : ChannelIndex) (frame : CanFrame) (segment : Segment)
    (timestamp : Time) :
    (core.traffic.put i { core.traffic.lanes i with
      rxGeneration := (core.channels i).rxGeneration + if segment.started then 1 else 0 }).Noted
        (deliverSegment core i frame segment timestamp).traffic := by
  refine (beginReception_noted core i frame segment timestamp).trans ?_
  unfold deliverSegment
  extract_lets channel begun data after
  split
  · rw [← scheduleComplete_traffic begun i data channel.localFlags timestamp]
    exact enqueue_noted ..
  · exact .refl _

omit before in
/-- The flow control of the reception under way is stored, if the receiver has one ready. -/
theorem storeFlowControl_traffic (i : ChannelIndex) :
    (storeFlowControl vif core i).traffic =
      let lane := core.traffic.lanes i
      let flow := rxFlowControl lane.isoRx (core.now vif).1
      (core.traffic.put i { lane with
        isoRx := flow.2.1
        flowControlPending := flow.2.2.isSome || lane.flowControlPending
        flowGeneration := if flow.2.2.isSome then lane.rxGeneration else lane.flowGeneration }).record
          (.aged i lane.flowControlPending lane.isoRx (core.now vif).1) := by
  obtain ⟨rc, isoRx, frame, flow⟩ : ∃ rc isoRx frame,
      rxFlowControl (core.traffic.lanes i).isoRx (core.now vif).1 = (rc, isoRx, frame) :=
    ⟨_, _, _, rfl⟩
  have flow' : rxFlowControl ((core.now vif).2.channels i).isoRx (core.now vif).1 =
      (rc, isoRx, frame) := flow
  unfold storeFlowControl
  dsimp only
  rw [flow, flow', put_record]
  cases frame <;> exact traffic_modify ..

omit before in
/-- A frame that the receiver takes in is one step, up to the flow control that it asks for. -/
theorem acceptFrame_step (i : ChannelIndex) (frame : CanFrame) (timestamp now : Time)
    (answers : Option Nat) {rc : Result} {fed : Rx} {segment : Segment} (taken : 0 < rc.code)
    (logical : (s.lanes i).parent ≠ 0)
    (feed : rxFeed (s.lanes i).isoRx frame now = (rc, fed, segment))
    (moved : core.traffic = ((s.put i { s.lanes i with isoRx := fed }).record
      (.aged i (s.lanes i).flowControlPending (s.lanes i).isoRx now)).record
        (.fed i (s.lanes i).flowControlPending (s.lanes i).isoRx frame answers)) :
    Step s (storeFlowControl vif (deliverSegment core i frame segment timestamp) i).traffic := by
  obtain ⟨notes, quiet, delivered⟩ := deliverSegment_noted core i frame segment timestamp
  rw [storeFlowControl_traffic]
  generalize (Core.now vif (deliverSegment core i frame segment timestamp)).1 = later
  have lane : (core.channels i).lane = { s.lanes i with isoRx := fed } := by
    have lane : core.traffic.lanes i = _ := congrArg (Traffic.lanes · i) moved
    rwa [lanes_record, lanes_record, lanes_put_self] at lane
  have generation : (core.channels i).rxGeneration = (s.lanes i).rxGeneration :=
    congrArg Lane.rxGeneration lane
  rw [generation, moved] at delivered
  rw [delivered]
  convert Step.accept s i frame answers now later notes rc fed segment _ logical quiet feed taken
    rfl using 1
  simp only [put, Traffic.record, append, Function.update_self, Function.update_idem,
    List.append_assoc]
  rfl

/-- The receiver checks its timeout, takes the frame and stores its flow control. -/
theorem feedFrame_steps (i : ChannelIndex) (frame : CanFrame) (timestamp : Time)
    (answers : Option Nat) (logical : (s.lanes i).parent ≠ 0) :
    Steps s (feedFrame vif core i frame timestamp answers).traffic := by
  have logical : (core.traffic.lanes i).parent ≠ 0 := by
    rwa [parent_of_ids (Steps.ids before)]
  unfold feedFrame
  dsimp only
  split
  case isTrue refused =>
    rw [traffic_modify]
    exact before.tail (.ignore _ i frame answers (core.now vif).1 logical refused)
  case isFalse taken =>
    refine before.tail (acceptFrame_step vif i frame timestamp (core.now vif).1 answers
      (not_le.1 taken) logical rfl ?_)
    rw [traffic_modify]
    rfl

/-- A frame is heard by the transmitter and fed to the receiver. -/
theorem logicalReceive_steps (i : ChannelIndex) (frame : CanFrame) (timestamp : Time)
    (answers : Option Nat) (logical : (s.lanes i).parent ≠ 0) :
    Steps s (logicalReceive vif core i frame timestamp answers).traffic := by
  unfold logicalReceive
  dsimp only
  split
  · have heard := hearFrame_steps vif before i frame answers ‹_›
    split
    · exact heard
    · exact feedFrame_steps vif heard i frame timestamp answers logical
  · exact feedFrame_steps vif before i frame timestamp answers logical

omit before in
variable (core) in
/-- The transmission under way on the bus of a channel is cancelled when it is the channel's. -/
theorem cancelChannelTx_cases (i : ChannelIndex) :
    ((cancelChannelTx vif core i).traffic = core.traffic ∧ core.traffic.Clear i) ∨
      ∃ p, core.traffic.physical i = some p ∧ (cancelChannelTx vif core i).traffic =
        core.traffic.setPending p { (core.traffic.lanes p).pending with discard := true } := by
  unfold cancelChannelTx
  cases physical : physicalChannel core i with
  | none =>
      refine .inl ⟨rfl, fun q onto => ?_⟩
      cases onto.symm.trans physical
  | some p =>
      dsimp only
      split
      case isTrue other =>
        refine .inl ⟨rfl, fun q onto owned => ?_⟩
        obtain rfl : q = p := Option.some.inj (onto.symm.trans physical)
        exact absurd owned other
      case isFalse =>
        have discarded := traffic_modify core p fun channel =>
          { channel with pending := { channel.pending with discard := true } }
        exact .inr ⟨p, physical, discarded⟩

/-- A transmission that is cancelled is discarded with its result. -/
theorem cancelChannelTx_steps (i : ChannelIndex) :
    Steps s (cancelChannelTx vif core i).traffic := by
  rcases cancelChannelTx_cases vif core i with ⟨same, _⟩ | ⟨p, _, discarded⟩
  · exact same ▸ before
  · exact discarded ▸ before.tail (.discard _ p)

omit before in
/-- Once the transmission of a channel is cancelled, it will not be confirmed. -/
theorem cancelChannelTx_clear (i : ChannelIndex) :
    (cancelChannelTx vif core i).traffic.Clear i := by
  rcases cancelChannelTx_cases vif core i with ⟨same, clear⟩ | ⟨p, onto, discarded⟩
  · exact same ▸ clear
  · rw [discarded]
    intro q onto' _
    rw [physical_of_ids (ids_setPending ..)] at onto'
    obtain rfl : q = p := Option.some.inj (onto'.symm.trans onto)
    rw [lanes_setPending, if_pos rfl]
    exact .inr rfl

/-- A logical channel is set back once nothing of it will be confirmed. -/
theorem resetLogical_steps (i : ChannelIndex) (clear : core.traffic.Clear i) :
    Steps s (resetLogical core i).traffic := by
  unfold resetLogical
  split
  · have idle := before.tail (.sender _ i (txInit (core.channels i).isoTx (core.channels i).config).2
      clear)
    have reset := idle.tail (.reset _ i)
    rw [lanes_put_self, put_put] at reset
    rw [traffic_record, traffic_modify]
    exact reset
  · exact before

/-- A link that goes down cancels, fails and resets, in this order. -/
theorem linkDown_steps (i : ChannelIndex) (timestamp : Time) :
    Steps s (linkDown vif core i timestamp).traffic := by
  unfold linkDown
  extract_lets stopped cancelled dropped
  have quiet : Steps s stopped.traffic := by
    rw [traffic_modify_of_lane core rfl]
    exact before
  have cancels : Steps s cancelled.traffic := cancelChannelTx_steps vif quiet i
  have clear : cancelled.traffic.Clear i := cancelChannelTx_clear vif i
  have drops : Steps s dropped.traffic ∧ dropped.traffic.Clear i := by
    simp only [dropped]
    split
    case isTrue full =>
      exact ⟨txDone_steps vif cancels i (.inl full) (.inl clear),
        clear.of_same (txDone_samePending vif (.refl _) i false none)⟩
    case isFalse => exact ⟨cancels, clear⟩
  exact (resetLogical_steps drops.1 i drops.2).trans (enqueue_noted ..).steps

/-- A loss is noted. -/
theorem markLoss_steps (i : ChannelIndex) (lost : Nat) :
    Steps s (markLoss core i lost).traffic := by
  rw [markLoss, traffic_record, traffic_modify_of_lane core rfl]
  exact before.tail (.note _ _ True.intro)

/-- A record that is delivered is noted. -/
theorem deliverRecord_steps (p : ChannelIndex) (msg : BusMsg) (data : List UInt8)
    (flags : UInt32) : Steps s (deliverRecord core p msg data flags).traffic := by
  unfold deliverRecord
  extract_lets seen status
  have quiet : Steps s seen.traffic := by
    simp only [seen]
    split
    · exact before
    · rw [traffic_modify_of_lane core rfl]
      exact before
  split
  · exact quiet.trans (enqueue_noted ..).steps
  · exact quiet

/-- A frame goes to each of the logical channels in turn, and to the client. -/
theorem receiveCan_steps (p : ChannelIndex) (known : (s.lanes p).id ≠ 0) (msg : BusMsg) :
    Steps s (receiveCan vif core p msg).traffic := by
  have id : (core.channels p).id = (s.lanes p).id := id_of_ids (Steps.ids before) p
  unfold receiveCan
  extract_lets channel flags
  split
  · exact before
  · refine deliverRecord_steps ?_ p msg _ flags
    refine List.foldlRecOn (motive := fun core => Steps s (Core.traffic core)) _ _ before ?_
    intro core before i _
    split
    case isTrue child =>
      refine logicalReceive_steps vif before i _ msg.timestampUs msg.answers ?_
      rw [← parent_of_ids (Steps.ids before)]
      exact fun none => known (id.symm.trans (child.symm.trans none))
    case isFalse => exact before

/-- A message of a byte bus is noted as it is delivered. -/
theorem receiveBytes_steps (p : ChannelIndex) (msg : BusMsg) :
    Steps s (receiveBytes core p msg).traffic := by
  unfold receiveBytes
  extract_lets checked len
  split
  · exact before
  · split
    · exact before
    · exact deliverRecord_steps before p msg _ 0

/-- A record of the bus is served, whichever flags it carries. -/
theorem receiveRecord_steps (p : ChannelIndex) (known : (s.lanes p).id ≠ 0) (msg : BusMsg) :
    Steps s (receiveRecord vif core p msg).traffic := by
  unfold receiveRecord
  extract_lets taken collected counted id lost marked
  have noted : Steps s taken.traffic := before.tail (.note _ _ True.intro)
  have counts : Steps s counted.traffic := by
    rw [traffic_modify_of_lane collected rfl]
    exact collectBusTx_steps vif noted p
  split
  · refine List.foldlRecOn (motive := fun core => Steps s (Core.traffic core)) _ _ ?_ ?_
    · rw [traffic_modify_of_lane counted rfl]
      exact counts
    · intro core before i _
      split
      · exact linkDown_steps vif before i msg.timestampUs
      · exact before
  · have marks : Steps s marked.traffic := by
      simp only [marked]
      split
      · refine List.foldlRecOn (motive := fun core => Steps s (Core.traffic core)) _ _
          (markLoss_steps counts p msg.lost) ?_
        intro core before i _
        split
        · exact markLoss_steps before i msg.lost
        · exact before
      · exact counts
    split_ifs
    · exact marks
    · exact marks.trans (enqueue_noted ..).steps
    · exact marks.trans (enqueue_noted ..).steps
    · exact receiveCan_steps vif marks p known msg
    · exact receiveBytes_steps marks p msg

/-- Records are served one after another, by induction on the burst. -/
theorem pollBurst_steps (p : ChannelIndex) (known : (s.lanes p).id ≠ 0) (burst : Nat) :
    Steps s (pollBurst vif p burst core).traffic := by
  induction burst generalizing core with
  | zero => exact before
  | succ burst ih =>
      unfold pollBurst
      dsimp only
      split
      · rw [traffic_modify_of_lane _ rfl]
        exact before
      · refine ih ?_
        refine receiveRecord_steps vif ?_ p known _
        exact before

theorem pollRx_steps (p : ChannelIndex) (known : (s.lanes p).id ≠ 0) :
    Steps s (pollRx vif core p).traffic := by
  refine pollBurst_steps vif ?_ p known 32
  rw [traffic_modify_of_lane _ rfl]
  exact before

/-! ## Service -/

/-- The channel is found by its identifier. -/
def Traffic.Home (s : Traffic) (p : ChannelIndex) : Prop :=
  (s.lanes p).id ≠ 0 ∧ s.owner (s.lanes p).id = some p

omit before in
/-- A channel stands for its own bus as long as nothing is connected or disconnected. -/
theorem Traffic.Home.of_ids {s s' : Traffic} {p : ChannelIndex} (home : s.Home p)
    (same : s'.ids = s.ids) : s'.Home p := by
  rw [Home, id_of_ids same, owner_of_ids same]
  exact home

/-- The check of a channel may age its reception, and picks at most. -/
theorem checkChannel_steps (p : ChannelIndex) (now : Time)
    (next : Option (ChannelIndex × Slot)) (i : ChannelIndex) :
    Steps s (checkChannel p now (core, next) i).1.traffic := by
  dsimp -zeta only [checkChannel]
  split
  · exact before
  · extract_lets channel checked drained expired
    have checks : Steps s checked.traffic := by
      simp only [checked]
      split
      · rw [traffic_record, traffic_modify]
        exact before.tail (.check _ i now)
      · exact before
    have expires : Steps s expired.traffic := by
      simp only [expired]
      split
      · rw [traffic_modify_of_lane checked rfl]
        exact checks
      · exact checks
    split
    · exact expires
    · split
      · exact expires
      · split <;> exact expires

omit before in
/-- The next scheduled message is one of a channel on the bus. -/
theorem checkChannel_next (p : ChannelIndex) (now : Time)
    (next : Option (ChannelIndex × Slot)) (i : ChannelIndex)
    (onto : ∀ j slot, next = some (j, slot) → s.physical j = some p)
    (same : core.traffic.ids = s.ids) (j : ChannelIndex) (slot : Slot)
    (chosen : (checkChannel p now (core, next) i).2 = some (j, slot)) :
    s.physical j = some p := by
  dsimp -zeta only [checkChannel] at chosen
  split at chosen
  · exact onto j slot chosen
  case isFalse here =>
    extract_lets channel checked drained expired at chosen
    have here : s.physical i = some p := by
      simp only [onBus, Bool.not_eq_true', Bool.not_eq_false, Bool.and_eq_true,
        decide_eq_true_eq] at here
      exact (physical_of_ids same i).symm.trans here.2
    split at chosen
    · exact onto j slot chosen
    · split at chosen
      · cases chosen
        exact here
      · split at chosen
        · cases chosen
          exact here
        · exact onto j slot chosen

omit before in
/-- The flow control that is submitted first is one of a channel on the bus. -/
theorem nextFlow_waiting (p i : ChannelIndex) (chosen : nextFlow core p = some i) :
    (core.channels i).parent = (core.channels p).id ∧
      (core.channels i).flowControlPending = true := by
  have all : ∀ i, nextFlow core p = some i → (core.channels i).parent = (core.channels p).id ∧
      (core.channels i).flowControlPending = true := by
    unfold nextFlow
    refine List.foldlRecOn (motive := fun flow => ∀ i, flow = some i →
      (core.channels i).parent = (core.channels p).id ∧
        (core.channels i).flowControlPending = true) _ _ (by simp) ?_
    intro flow earlier j _ i chosen
    extract_lets channel at chosen
    split at chosen
    case isTrue waiting =>
      rw [Bool.and_eq_true, decide_eq_true_eq] at waiting
      split at chosen
      · cases chosen
        exact waiting
      · split at chosen
        · cases chosen
          exact waiting
        · exact earlier i chosen
    case isFalse => exact earlier i chosen
  exact all i chosen

/-- Flow controls go out one after another, as long as nothing is under way in between. -/
theorem serviceFlow_steps (p : ChannelIndex) (home : s.Home p)
    (free : (core.channels p).pending.kind = .none) (sent : Nat) :
    Steps s (serviceFlow vif p sent core).traffic := by
  induction sent generalizing core with
  | zero => exact before
  | succ sent ih =>
      unfold serviceFlow
      split
      · exact before
      case h_2 i chosen =>
        obtain ⟨parent, waiting⟩ := nextFlow_waiting p i chosen
        have home := home.of_ids (Steps.ids before)
        have onto : physicalChannel core i = some p := by
          unfold physicalChannel
          rw [if_pos (by rw [parent]; exact home.1), parent]
          exact home.2
        have collected := collectBusTx_steps vif (submitFlow_steps vif before i waiting onto free) p
        extract_lets after
        split
        · exact collected
        case isFalse still => exact ih collected (not_not.1 still)

omit before in
/-- Where nothing is under way on a bus, each of its channels is free. -/
theorem free_of_onBus {p i : ChannelIndex} (here : onBus core p i = true)
    (free : (core.channels p).pending.kind = .none) : core.traffic.Free i := by
  intro q onto
  simp only [onBus, Bool.and_eq_true, decide_eq_true_eq] at here
  obtain rfl : q = p := Option.some.inj (onto.symm.trans here.2)
  exact free

/-- Stored messages are looked for in turn until one is put under way. -/
theorem serviceTx_steps (p : ChannelIndex) (cursor : Nat) (offsets : List Nat)
    (free : (core.channels p).pending.kind = .none) :
    Steps s (serviceTx vif p cursor offsets core).traffic := by
  induction offsets generalizing core with
  | nil => exact before
  | cons offset offsets ih =>
      unfold serviceTx
      extract_lets i after
      split
      case isTrue here =>
        have polled := pollTx_steps vif before i (free_of_onBus here free)
        split
        · rw [traffic_modify_of_lane after rfl]
          exact polled
        case isFalse still => exact ih polled (not_not.1 still)
      case isFalse => exact ih before free

/-- A pass sends flow controls first, then what was picked or what is stored. -/
theorem startTransmission_steps (p : ChannelIndex) (home : s.Home p)
    (free : (core.channels p).pending.kind = .none) (now : Time)
    (next : Option (ChannelIndex × Slot))
    (onto : ∀ i slot, next = some (i, slot) → s.physical i = some p) :
    Steps s (startTransmission vif core p now next).traffic := by
  unfold startTransmission
  extract_lets flowed sent
  have flows : Steps s flowed.traffic := serviceFlow_steps vif before p home free logicalMax
  split
  · exact flows
  case isFalse still =>
    refine collectBusTx_steps vif ?_ p
    simp only [sent]
    split
    case h_1 _ i slot =>
      have quiet : Event.Quiet (.scheduled p now (flowed.channels p).rxDrained
        (busJobs flowed p) i slot) := True.intro
      have picked : Steps s (recordPick flowed p now i slot).traffic :=
        flows.trans (Noted.single flowed.traffic quiet).steps
      refine submitScheduled_steps vif picked i slot fun q onto' => ?_
      rw [physical_of_ids (Steps.ids picked), onto i slot rfl] at onto'
      cases onto'
      exact not_not.1 still
    case h_2 => exact serviceTx_steps vif flows p _ _ (not_not.1 still)

omit before in
/-- To cancel what a job has given up, only the driver is told. -/
theorem cancelEnded_traffic (p : ChannelIndex) :
    (cancelEnded vif core p).traffic = core.traffic := by
  unfold cancelEnded
  extract_lets pending active
  split
  · rfl
  · split <;> rfl

/-- The checks of all channels age their receptions; the pick is on the bus. -/
theorem checkChannels_steps (p : ChannelIndex) (now : Time) :
    Steps s (allChannels.foldl (checkChannel p now) (core, none)).1.traffic ∧
      ∀ j slot, (allChannels.foldl (checkChannel p now) (core, none)).2 = some (j, slot) →
        s.physical j = some p := by
  refine List.foldlRecOn (motive := fun state => Steps s (Core.traffic (Prod.fst state)) ∧
    ∀ j slot, Prod.snd state = some (j, slot) → s.physical j = some p) _ _
      ⟨before, by simp⟩ ?_
  rintro ⟨core, next⟩ ⟨before, onto⟩ i _
  exact ⟨checkChannel_steps before p now next i, fun j slot chosen =>
    checkChannel_next p now next i onto (Steps.ids before) j slot chosen⟩

/-- A bus is serviced. -/
theorem serviceBus_steps (p : ChannelIndex) (home : s.Home p) :
    Steps s (serviceBus vif core p).traffic := by
  have polled := pollRx_steps vif (collectBusTx_steps vif before p) p home.1
  unfold serviceBus
  extract_lets collected polledCore
  obtain ⟨checks, onto⟩ := @checkChannels_steps _ (polledCore.now vif).2 s polled p
    (polledCore.now vif).1
  dsimp only
  have checked := checks
  rw [← cancelEnded_traffic vif p] at checks
  split
  · exact checks
  case isFalse still =>
    rw [Bool.or_eq_true, not_or, decide_eq_true_eq, not_not] at still
    exact startTransmission_steps vif checks p home still.1 _ _ onto

/-- All buses are serviced one after another. -/
theorem corePoll_steps (homes : ∀ p, ¬ p.isLogical → (s.lanes p).id ≠ 0 → s.Home p) :
    Steps s (corePoll vif core).traffic := by
  unfold corePoll
  split
  · exact before
  · refine List.foldlRecOn (motive := fun core => Steps s (Core.traffic core)) _ _ before ?_
    intro core before p _
    split
    case isTrue live =>
      refine serviceBus_steps vif before p (homes p ?_ ?_)
      · simp only [Bool.and_eq_true, Bool.not_eq_true'] at live
        simpa using live.1.1
      · simp only [Bool.and_eq_true, decide_eq_true_eq] at live
        rw [← id_of_ids (Steps.ids before) p]
        exact live.1.2
    case isFalse => exact before

/-! ## Requests -/

omit before in
/-- Both ends of a request are reached by steps. -/
theorem ite_steps {condition : Prop} [Decidable condition] {first second : Status × Core σ}
    (one : Steps s first.2.traffic) (other : Steps s second.2.traffic) :
    Steps s (if condition then first else second).2.traffic := by
  split
  · exact one
  · exact other

/-- A message is stored where none is. -/
theorem storeTx_steps (i : ChannelIndex) (message : Message)
    (empty : (core.channels i).txLen = 0) : Steps s (storeTx core i message).traffic := by
  rw [storeTx, traffic_modify]
  exact before.tail (.store _ i message.handle _ empty (by simp [msgHeader]))

/-- What is under way is cancelled, and the stored message is dropped without an indication. -/
theorem clearTxQueue_steps (i : ChannelIndex) : Steps s (clearTxQueue vif core i).traffic := by
  have forgotten := (cancelChannelTx_steps vif before i).tail
    (.forget _ i (cancelChannelTx_clear vif i))
  have clear := @cancelChannelTx_clear _ vif core i
  rw [clearTxQueue, traffic_modify]
  generalize cancelChannelTx vif core i = cancelled at *
  dsimp only
  split
  · have idle := forgotten.tail (.sender _ i
      (txInit (cancelled.channels i).isoTx (cancelled.channels i).config).2
      (clear.of_same (.put _ _ rfl rfl rfl)))
    rw [put_put, lanes_put_self] at idle
    exact idle
  · exact forgotten

omit before in
/-- The channel of a bus is connected if one of its channels is. -/
theorem known_of_physical {i q : ChannelIndex} (same : core.traffic.ids = s.ids)
    (known : (s.lanes i).id ≠ 0) (onto : physicalChannel core i = some q) : (s.lanes q).id ≠ 0 := by
  rw [← id_of_ids same] at known ⊢
  unfold physicalChannel at onto
  split at onto
  · obtain ⟨given, id⟩ := @owner_some core.traffic _ _ onto
    rwa [id]
  · cases onto
    exact known

/-- The buses of a channel are polled before its queue is emptied. -/
theorem clearRxQueue_steps (i : ChannelIndex) (known : (s.lanes i).id ≠ 0) :
    Steps s (clearRxQueue vif core i).traffic := by
  unfold clearRxQueue
  extract_lets p first second
  have known : (s.lanes p).id ≠ 0 := by
    simp only [p]
    cases onto : physicalChannel core i with
    | none => exact known
    | some q => exact known_of_physical (Steps.ids before) known onto
  have polled : Steps s second.traffic := by
    have polled := pollRx_steps vif before p known
    simp only [second]
    split
    · exact polled
    · exact pollRx_steps vif polled p known
  rw [traffic_modify]
  dsimp only
  split
  · exact polled.tail (.clear _ i (second.channels i).config)
  · exact (put_self second.traffic i).symm ▸ polled

omit before in
/-- A parameter is in no lane. -/
theorem setLogicalParam_lane (channel : Channel) (param value : UInt32) :
    (setLogicalParam channel param value).lane = channel.lane := by
  unfold setLogicalParam
  extract_lets config
  split_ifs <;> rfl

omit before in
/-- The receiver is set back to its idle state with its parameters. -/
theorem initReceiver_lane (channel : Channel) :
    (initReceiver channel).lane = { channel.lane with
      isoRx := (rxInit channel.lane.isoRx channel.config channel.lane.isoRx.buffer
        isotpMaxPayload).2 } := rfl

/-- A parameter of a logical channel resets its receiver. -/
theorem configureLogical_steps (i : ChannelIndex) (param value : UInt32) :
    Steps s (configureLogical core i param (some value)).2.2.traffic := by
  unfold configureLogical
  extract_lets channel
  split
  · exact before
  case isFalse free =>
    split
    · exact before
    · exact before
    · split
      · exact before
      · dsimp only
        rw [traffic_modify]
        have idle : (core.channels i).isoRx.state = .idle := by
          by_contra busy
          exact free ⟨rfl, .inr busy⟩
        rw [initReceiver_lane, setLogicalParam_lane]
        exact before.tail (.configure core.traffic i _ idle)

omit before in
/-- A message that is checked moves nothing. -/
theorem validateMessage_channels (i : ChannelIndex) (protocol flags : UInt32) (data : List UInt8)
    (periodic : Bool) :
    (validateMessage vif core i protocol flags data periodic).2.channels = core.channels ∧
      (validateMessage vif core i protocol flags data periodic).2.traffic = core.traffic := by
  unfold validateMessage
  extract_lets channel
  split_ifs <;> exact ⟨rfl, rfl⟩

/-- A message that is accepted is stored where none is. -/
theorem queueMessage_steps (i : ChannelIndex) (message : Option Message) :
    Steps s (queueMessage vif core i message).2.traffic := by
  unfold queueMessage
  split
  · exact before
  case h_2 message =>
    obtain ⟨channels, same⟩ := @validateMessage_channels _ vif core i message.protocol
      message.txFlags message.data false
    have validated := same ▸ before
    dsimp only
    split_ifs
    · exact validated
    · exact validated
    case neg empty => exact storeTx_steps validated i message (not_not.1 empty)

/-- A parameter is given to the driver, or to a logical channel. -/
theorem configureChannel_steps (i : ChannelIndex) (param value : UInt32) :
    Steps s (configureChannel vif core i param (some value)).2.2.traffic := by
  have loopback : (setLoopback vif core i value).2.traffic = core.traffic := by
    unfold setLoopback
    extract_lets channel
    split <;> rfl
  unfold configureChannel
  extract_lets channel
  split
  · exact configureLogical_steps before i param value
  · split
    · dsimp only
      split
      · exact before
      · split
        · exact loopback ▸ before
        · dsimp only
          rw [traffic_modify_of_lane _ rfl]
          exact loopback ▸ before
    · dsimp only
      split_ifs
      all_goals first
        | exact before
        | dsimp only
          rw [traffic_modify_of_lane _ rfl]
          exact before

/-- Parameters are given one after another. -/
theorem setConfig_steps (i : ChannelIndex) (params : List (UInt32 × UInt32)) :
    Steps s (setConfig vif i params core).2.traffic := by
  induction params generalizing core with
  | nil => exact before
  | cons param params ih =>
      have configured := configureChannel_steps vif before i param.1 param.2
      unfold setConfig
      dsimp only
      split
      · exact configured
      · exact ih configured

theorem startPeriodic_steps (i : ChannelIndex) (periodic : Periodic) :
    Steps s (startPeriodic vif core i periodic).2.traffic := by
  unfold startPeriodic
  split
  · exact before
  case h_2 message _ =>
    have same := (@validateMessage_channels _ vif core i message.protocol message.txFlags
      message.data true).2
    have validated := same ▸ before
    split
    · exact before
    · dsimp only
      split
      · exact validated
      · split
        · exact validated
        · dsimp only
          refine Relation.ReflTransGen.trans ?_ (changeJob_noted ..).steps
          exact validated

theorem startRepeat_steps (i : ChannelIndex) (setup : RepeatSetup) :
    Steps s (startRepeat vif core i setup).2.traffic := by
  unfold startRepeat
  extract_lets channel message mask pattern
  have same := (@validateMessage_channels _ vif core i message.protocol message.flags message.data
    true).2
  have validated := same ▸ before
  refine ite_steps before (ite_steps before (ite_steps before (ite_steps before ?_)))
  refine ite_steps validated (ite_steps validated ?_)
  split
  · exact validated
  · dsimp only
    refine Relation.ReflTransGen.trans ?_ (changeJob_noted ..).steps
    exact validated

/-- The transmission of a job that is given up is discarded with its result. -/
theorem discardScheduled_steps (i : ChannelIndex) (job : UInt32) :
    Steps s (discardScheduled vif core i job).traffic := by
  unfold discardScheduled
  split
  · exact before
  case h_2 p _ =>
    extract_lets pending cancelled
    split
    · have discarded := traffic_modify core p fun channel =>
        { channel with pending := { channel.pending with discard := true } }
      exact (show Steps s cancelled.traffic from discarded ▸ before.tail (.discard _ p))
    · exact before

theorem stopScheduled_steps (i : ChannelIndex) (id : UInt32) (repeats : Bool) :
    Steps s (stopScheduled vif core i id repeats).2.traffic := by
  unfold stopScheduled
  split
  · exact before
  · split
    · dsimp only
      rw [traffic_modifyJob]
      exact discardScheduled_steps vif before i id
    · exact before

theorem startFilter_steps (i : ChannelIndex) (setup : FilterSetup) :
    Steps s (startFilter core i setup).2.traffic := by
  unfold startFilter
  extract_lets channel can
  refine ite_steps before (ite_steps before (ite_steps before (ite_steps before ?_)))
  split
  · exact before
  · dsimp only
    rw [traffic_modify_of_lane _ rfl]
    exact before

theorem stopFilter_steps (i : ChannelIndex) (id : UInt32) :
    Steps s (stopFilter core i id).2.traffic := by
  unfold stopFilter
  split
  · exact before
  · dsimp only
    rw [traffic_modify_of_lane _ rfl]
    exact before

theorem clearPeriodic_steps (i : ChannelIndex) : Steps s (clearPeriodic vif core i).traffic := by
  unfold clearPeriodic
  refine List.foldlRecOn (motive := fun core => Steps s (Core.traffic core)) _ _ before ?_
  intro core before slot _
  dsimp only
  split
  · exact before
  · rw [traffic_modifyJob]
    exact discardScheduled_steps vif before i _

theorem clearFilters_steps (i : ChannelIndex) : Steps s (clearFilters core i).2.traffic := by
  unfold clearFilters
  split
  · exact before
  · dsimp only
    rw [traffic_modify_of_lane _ rfl]
    exact before

/-- Every request on a channel is a sequence of steps. -/
theorem perform_steps (i : ChannelIndex) (known : (s.lanes i).id ≠ 0) (command : Command) :
    Steps s (perform vif core i command).2.traffic := by
  cases command with
  | read =>
      simp only [perform, readChannel, traffic_record]
      rw [traffic_modify_of_lane _ rfl]
      exact before.tail (.note _ _ True.intro)
  | queue message => exact queueMessage_steps vif before i message
  | startPeriodic periodic => exact startPeriodic_steps vif before i periodic
  | stopPeriodic id => exact stopScheduled_steps vif before i id false
  | startRepeat setup => exact startRepeat_steps vif before i setup
  | stopRepeat id => exact stopScheduled_steps vif before i id true
  | startFilter setup => exact startFilter_steps before i setup
  | stopFilter id => exact stopFilter_steps before i id
  | setConfig params => exact setConfig_steps vif before i params
  | clearTxQueue => exact clearTxQueue_steps vif before i
  | clearRxQueue => exact clearRxQueue_steps vif before i known
  | clearPeriodic =>
      have cleared := clearPeriodic_steps vif before i
      simp only [perform]
      exact cleared
  | clearFilters =>
      rw [perform]
      exact clearFilters_steps before i
  | busOn =>
      have polled := pollRx_steps vif before i known
      simp only [perform, busOn]
      split
      · exact before
      · split
        · dsimp only
          rw [traffic_modify_of_lane _ rfl]
          exact polled
        · exact polled

/-- Whatever the link task does is a sequence of steps. -/
theorem step_steps (homes : ∀ p, ¬ p.isLogical → (s.lanes p).id ≠ 0 → s.Home p) (op : Op) :
    Steps s (core.step vif op).traffic := by
  cases op with
  | poll => exact corePoll_steps vif before homes
  | request id command =>
      simp only [Core.step, request]
      split
      · exact before
      · split
        · exact before
        case h_2 i found =>
          split
          · refine perform_steps vif before i ?_ command
            rw [← id_of_ids (Steps.ids before)]
            obtain ⟨known, same⟩ := @owner_some core.traffic _ _ found
            rwa [same]
          · exact before

end OpenDiag.J2534
