import OpenDiag.J2534.FlowControl

/-!
# Single frames

A message that fits one frame is complete when the frame is there. A receiver takes it in whatever
reception it replaces, except that it looks at the deadline of that reception first: where the
deadline has passed, the frame ends with it.
-/

namespace OpenDiag.J2534

open Isotp Traffic

/-! ## The receiver -/

/-- The receiver assembles messages of every length in a buffer of its own. -/
structure Assembles (rx : Rx) : Prop where
  buffer : ∃ memory, rx.buffer = some memory ∧ isotpMaxPayload ≤ memory.length
  capacity : rx.capacity = isotpMaxPayload

section Receiver

variable {rx : Rx} {frame : CanFrame} {now : Time}

theorem Assembles.restated (assembles : Assembles rx) {next : Rx} (state : RxState)
    (deadlineUs : Time) (moved : next = { rx with state, deadlineUs }) : Assembles next := by
  subst moved
  exact ⟨assembles.buffer, assembles.capacity⟩

theorem Assembles.checkTimeout (assembles : Assembles rx) (now : Time) :
    Assembles (rxCheckTimeout rx now).2 := by
  obtain ⟨state, deadlineUs, moved⟩ := rxCheckTimeout_restates rx now
  exact assembles.restated state deadlineUs moved

theorem Assembles.flowControl (assembles : Assembles rx) (now : Time) :
    Assembles (rxFlowControl rx now).2.1 := by
  obtain ⟨state, deadlineUs, moved⟩ := rxFlowControl_restates rx now
  exact assembles.restated state deadlineUs moved

theorem Assembles.confirm (assembles : Assembles rx) (success : Bool) (now : Time) :
    Assembles (rxConfirm rx success now).2 := by
  obtain ⟨state, deadlineUs, moved⟩ := rxConfirm_restates rx success now
  exact assembles.restated state deadlineUs moved

theorem Assembles.init (assembles : Assembles rx) (config : Config) :
    Assembles (rxInit rx config rx.buffer isotpMaxPayload).2 := by
  unfold rxInit
  split
  · exact assembles
  · exact ⟨assembles.buffer, rfl⟩

/-- A frame is written into the buffer, whose extent stays. -/
theorem rxFeed_buffer (rx : Rx) (frame : CanFrame) (now : Time) :
    (rxFeed rx frame now).2.1.buffer = rx.buffer ∨
      ∃ start data, (rxFeed rx frame now).2.1.buffer = rx.buffer.map (overwrite · start data) := by
  rcases rxFeed_exits rx frame now with ⟨_, _, _, _, timeout⟩ | ignored | ⟨_, start⟩ |
    ⟨_, start⟩ | ⟨_, continues⟩
  · exact .inl (by rw [timeout])
  · exact .inl (by rw [ignored])
  · rw [start]
    unfold rxStart
    dsimp only
    split_ifs <;> first | exact .inl rfl | exact .inr ⟨_, _, rfl⟩
  · rw [start]
    unfold rxStart
    dsimp only
    split_ifs <;> first | exact .inl rfl | exact .inr ⟨_, _, rfl⟩
  · rw [continues]
    unfold rxContinue
    dsimp only
    split_ifs <;> first | exact .inl rfl | exact .inr ⟨_, _, rfl⟩

theorem Assembles.feed (assembles : Assembles rx) (frame : CanFrame) (now : Time) :
    Assembles (rxFeed rx frame now).2.1 := by
  obtain ⟨memory, buffer, room⟩ := assembles.buffer
  refine ⟨?_, (rxFeed_capacity rx frame now).trans assembles.capacity⟩
  rcases rxFeed_buffer rx frame now with same | ⟨start, data, written⟩
  · exact ⟨memory, same.trans buffer, room⟩
  · exact ⟨overwrite memory start data, by rw [written, buffer]; rfl,
      by rwa [length_overwrite]⟩

/-- The payload of a single frame. -/
def singleFramePayload (config : Config) (frame : CanFrame) : List UInt8 :=
  frame.data.load (config.addressLength + 1) (singleFrameSize config frame)

theorem length_singleFramePayload (single : acceptsSingle rx.config frame = true) :
    (singleFramePayload rx.config frame).length = singleFrameSize rx.config frame := by
  simp only [acceptsSingle, matchesFrame, Bool.and_eq_true, decide_eq_true_eq] at single
  exact Block.length_load (by omega)

/-- While no deadline has passed, a single frame is a message. -/
theorem rxFeed_single_complete (assembles : Assembles rx)
    (single : acceptsSingle rx.config frame = true)
    (punctual : (rxCheckTimeout rx now).1 = .ok) :
    ∃ fed segment memory, rxFeed rx frame now = (.complete, fed, segment) ∧
      segment.started = true ∧ segment.complete = true ∧
      segment.paddingError = decide (frame.dlc < 8) ∧ fed.buffer = some memory ∧
      memory.take segment.total = singleFramePayload rx.config frame := by
  have length := length_singleFramePayload single
  obtain ⟨memory, buffer, room⟩ := assembles.buffer
  have small := singleFrameSize_le rx.config frame
  have fits : ¬ singleFrameSize rx.config frame > rx.capacity :=
    not_lt.mpr ((singleFrameSize_le _ _).trans assembles.capacity.ge)
  simp only [acceptsSingle, Bool.and_eq_true, decide_eq_true_eq, ne_eq] at single
  obtain ⟨⟨⟨addressed, kind⟩, some⟩, inside⟩ := single
  have started : rxFeed rx frame now =
      rxStart rx frame now false (singleFrameSize rx.config frame) := by
    unfold rxFeed
    rw [rxCheckTimeout_of_ok punctual]
    simp [addressed, kind, some, inside]
  rw [started]
  unfold rxStart
  simp only [if_neg fits]
  refine ⟨_, _, overwrite memory 0 (singleFramePayload rx.config frame), rfl, rfl, ?_, rfl, ?_, ?_⟩
  · rw [singleFramePayload] at length
    simp [length]
  · simp [buffer, singleFramePayload]
  · have taken : (overwrite memory 0 (singleFramePayload rx.config frame)).take
        (0 + (singleFramePayload rx.config frame).length) =
          memory.take 0 ++ singleFramePayload rx.config frame := take_overwrite (by omega)
    simpa [segmentCopy, length] using taken

/-- After the deadline it is not looked at. -/
theorem rxFeed_single_late (late : (rxCheckTimeout rx now).1 ≠ .ok) :
    (rxFeed rx frame now).1.code < 0 := by
  rcases rxCheckTimeout_cases rx now with fresh | ⟨_, _, rc, which, timeout⟩
  · exact absurd (congrArg Prod.fst fresh) late
  · unfold rxFeed
    rcases which with rfl | rfl <;> simp [timeout, Result.isError, Result.code]

end Receiver

/-! ## Every state -/

/-- The receivers of all logical channels assemble. -/
def Traffic.Assembling (s : Traffic) : Prop :=
  ∀ i, (s.lanes i).parent ≠ 0 → Assembles (s.lanes i).isoRx

namespace Traffic

variable {s s' : Traffic}

/-- Where each channel's receiver is what it was, nothing changes. -/
theorem Assembling.put (assembling : s.Assembling) (i : ChannelIndex) {lane : Lane}
    (parent : lane.parent = (s.lanes i).parent)
    (kept : Assembles (s.lanes i).isoRx → Assembles lane.isoRx) : (s.put i lane).Assembling := by
  intro j logical
  by_cases here : j = i
  · subst here
    rw [lanes_put_self] at logical ⊢
    exact kept (assembling j (parent ▸ logical))
  · rw [lanes_put_of_ne here] at logical ⊢
    exact assembling j logical

theorem Assembling.setPending (assembling : s.Assembling) (p : ChannelIndex)
    (pending : PendingTx) : (s.setPending p pending).Assembling :=
  assembling.put p rfl id

theorem Assembling.record (assembling : s.Assembling) (event : Event) :
    (s.record event).Assembling :=
  assembling

theorem Assembling.txDone (assembling : s.Assembling) (i : ChannelIndex) (ok : Bool)
    (completion : Option Nat) (stamp : Stamp) : (s.txDone i ok completion stamp).Assembling :=
  assembling.put i rfl id

theorem Assembling.confirm (assembling : s.Assembling) (i : ChannelIndex) (pending : PendingTx)
    (success : Bool) (time : Time) (stamp : Stamp) :
    (s.confirm i pending success time stamp).Assembling := by
  unfold Traffic.confirm
  split
  · apply Assembling.record
    apply assembling.put i
    · unfold Lane.confirmFlow
      split <;> rfl
    · intro kept
      unfold Lane.confirmFlow
      split
      · exact kept.confirm success time
      · exact kept
  · dsimp only
    split
    · apply Assembling.txDone
      exact assembling.put i rfl id
    · exact assembling.put i rfl id
  · exact assembling.txDone i success _ stamp

theorem Assembling.step (assembling : s.Assembling) (step : Step s s') : s'.Assembling := by
  cases step with
  | note event => exact assembling.record event
  | store i | forget i | begin i | sender i => exact assembling.put i rfl id
  | hear i =>
      apply Assembling.record
      exact assembling.put i rfl id
  | fail i stamp => exact assembling.txDone i false none stamp
  | report => exact assembling
  | submit i p pending => exact assembling.setPending p pending
  | flow i p pending =>
      apply Assembling.setPending
      apply Assembling.record
      exact assembling.put i rfl id
  | discard p | drop p => exact assembling.setPending p _
  | settle p i pending success time stamp =>
      exact (assembling.setPending p pending).confirm i _ success time stamp
  | ignore i frame answers now =>
      apply Assembling.record
      apply Assembling.record
      exact assembling.put i rfl fun kept => kept.feed frame now
  | accept i frame answers now later notes rc fed segment rxGeneration logical quiet feed =>
      refine assembling.put i rfl fun kept => Assembles.flowControl ?_ later
      have fresh := kept.feed frame now
      rwa [feed] at fresh
  | check i now =>
      apply Assembling.record
      exact assembling.put i rfl fun kept => kept.checkTimeout now
  | reset i =>
      apply Assembling.record
      exact assembling.put i rfl fun kept => ⟨kept.buffer, kept.capacity⟩
  | clear i config | configure i config =>
      exact assembling.put i rfl fun kept => kept.init config

theorem Assembling.steps (assembling : s.Assembling) (steps : Steps s s') : s'.Assembling := by
  induction steps with
  | refl => exact assembling
  | tail _ step ih => exact ih.step step

end Traffic

/-! ## Delivery -/

/-- The record of a message that is a single frame. -/
def singleFrameRecord (channel : Channel) (frame : CanFrame) (timestamp : Time) : Record where
  protocol := channel.protocol
  handle := 0
  status := channel.localFlags ||| if frame.dlc < 8 then flagPadding else 0
  timestamp := timestamp
  data := messageAddress channel frame ++ singleFramePayload channel.isoRx.config frame
  indication := false

/-- `enqueue_rx`, given a record. -/
def RxQueue.offer (queue : RxQueue) (record : Record) : RxQueue :=
  enqueueRx queue record.protocol record.handle record.status record.timestamp record.data
    record.indication

section Delivery

variable {σ : Type*} {vif : Vif σ} {core after : Core σ} {i : ChannelIndex} {frame : CanFrame}
  {timestamp : Time} {answers : Option Nat} {record : Record}

/-- `enqueue_rx` was called with the record: it follows what waits, or sets the overflow where it
does not fit. At most an indication has come before it. -/
def Delivered (before after : Core σ) (i : ChannelIndex) (record : Record) : Prop :=
  (∃ events, after.log = before.log ++ events ∧ .enqueued i record ∈ events) ∧
    ((after.channels i).queue = (before.channels i).queue.offer record ∨
      ∃ indication : Record, indication.indication = true ∧
        (after.channels i).queue = ((before.channels i).queue.offer indication).offer record)

/-- The time at which `logical_receive` gives the frame to the receiver. -/
def receiveTime (vif : Vif σ) (core : Core σ) (i : ChannelIndex) (frame : CanFrame)
    (answers : Option Nat) : Time :=
  (Core.now vif (if (core.channels i).txActive then hearFrame vif core i frame answers else core)).1

/-- No reception is under way, or its deadline has not passed. -/
def Punctual (rx : Rx) (now : Time) : Prop :=
  rx.state = .idle ∨ expired now rx.deadlineUs = false

theorem punctual_iff {rx : Rx} {now : Time} :
    Punctual rx now ↔ (rxCheckTimeout rx now).1 = .ok := by
  unfold Punctual rxCheckTimeout
  cases rx.state <;> cases expired now rx.deadlineUs <;> simp

/-! ### The sender -/

/-- What `isotp_tx_flow_control` leaves of the channel, and what it tells the client. -/
theorem hearFrame_keeps (vif : Vif σ) (core : Core σ) (i : ChannelIndex) (frame : CanFrame)
    (answers : Option Nat) :
    ∃ isoTx txLen txActive queue,
      (hearFrame vif core i frame answers).channels i =
        { core.channels i with isoTx, txLen, txActive, queue } ∧
      (∃ events, (hearFrame vif core i frame answers).log = core.log ++ events ∧
        ∀ record : Record, .enqueued i record ∈ events → record.indication = true) ∧
      (queue = (core.channels i).queue ∨ ∃ indication : Record, indication.indication = true ∧
        queue = (core.channels i).queue.offer indication) := by
  obtain ⟨now, core', read⟩ : ∃ now core', core.now vif = (now, core') := ⟨_, _, rfl⟩
  have same : core'.channels = core.channels ∧ core'.log = core.log := by
    cases read
    exact ⟨rfl, rfl⟩
  unfold hearFrame
  rw [read]
  dsimp only
  split
  · unfold txDone
    dsimp only
    split
    · simp only [Core.now, enqueue, Core.modify, Core.record, Function.update_self, same]
      refine ⟨_, _, _, _, rfl, ⟨_, by simp only [List.append_assoc]; rfl, ?_⟩,
        .inr ⟨⟨_, _, _, _, _, true⟩, rfl, rfl⟩⟩
      intro record member
      simp at member
      simp [member]
    · simp only [Core.modify, Core.record, Function.update_self, same]
      refine ⟨_, _, _, _, rfl, ⟨_, by simp only [List.append_assoc]; rfl, ?_⟩, .inl rfl⟩
      intro record member
      simp at member
  · simp only [Core.modify, Core.record, Function.update_self, same]
    refine ⟨_, _, _, _, rfl, ⟨_, rfl, ?_⟩, .inl rfl⟩
    intro record member
    simp at member

/-! ### The receiver -/

/-- `logical_receive` looks at a frame from `isotp_rx_feed` on, where its deadline has passed. -/
theorem feedFrame_late (timestamp : Time) (answers : Option Nat)
    (late : (rxCheckTimeout (core.channels i).isoRx (core.now vif).1).1 ≠ .ok) :
    ∃ events, (feedFrame vif core i frame timestamp answers).log = core.log ++ events ∧
      ∀ record : Record, .enqueued i record ∉ events := by
  have refused : (rxFeed (core.channels i).isoRx frame (core.now vif).1).1.code < 0 :=
    rxFeed_single_late late
  unfold feedFrame
  dsimp only
  split
  · refine ⟨_, List.append_assoc .., ?_⟩
    intro record member
    simp at member
  · rename_i taken
    exact absurd (Int.le_of_lt refused) taken

theorem scheduleComplete_keeps (core : Core σ) (i : ChannelIndex) (data : List UInt8)
    (flags : UInt32) (timestamp : Time) (j : ChannelIndex) :
    ∃ scheduler, (scheduleComplete core i data flags timestamp).channels j =
      { core.channels j with scheduler } := by
  unfold scheduleComplete
  extract_lets channel see first
  have seen (core : Core σ) (peer : ChannelIndex) :
      ∃ scheduler, (see core peer).channels j = { core.channels j with scheduler } := by
    by_cases here : j = peer
    · subst here
      exact ⟨_, Function.update_self ..⟩
    · exact ⟨(core.channels j).scheduler, Function.update_of_ne here ..⟩
  split
  · refine List.foldlRecOn (motive := fun after : Core σ => ∃ scheduler,
      after.channels j = { core.channels j with scheduler }) _ _ (seen core i) ?_
    intro after ⟨scheduler, kept⟩ peer _
    dsimp only
    split
    · obtain ⟨next, more⟩ := seen after peer
      exact ⟨next, by rw [more, kept]⟩
    · exact ⟨scheduler, kept⟩
  · exact seen core i

theorem storeFlowControl_keeps (vif : Vif σ) (core : Core σ) (i : ChannelIndex) :
    ((storeFlowControl vif core i).channels i).queue = (core.channels i).queue ∧
      ∃ events, (storeFlowControl vif core i).log = core.log ++ events := by
  unfold storeFlowControl
  dsimp only
  split <;> exact ⟨by simp [Core.modify]; rfl, _, rfl⟩

/-- A message that is complete at its beginning is delivered and nothing else. -/
theorem deliverSegment_complete {segment : Segment} (started : segment.started = true)
    (complete : segment.complete = true)
    (made : record =
      { protocol := (core.channels i).protocol
        handle := 0
        status := (core.channels i).localFlags ||| if segment.paddingError then flagPadding else 0
        timestamp := timestamp
        data := messageAddress (core.channels i) frame ++
          ((core.channels i).isoRx.buffer.getD []).take segment.total
        indication := false }) :
    (deliverSegment core i frame segment timestamp).log = core.log ++ [.enqueued i record] ∧
      ((deliverSegment core i frame segment timestamp).channels i).queue =
        (core.channels i).queue.offer record := by
  subst made
  unfold deliverSegment beginReception
  simp only [started, complete, if_true]
  generalize messageAddress (core.channels i) frame ++
    ((core.channels i).isoRx.buffer.getD []).take segment.total = data
  have log := congrArg Traffic.log (scheduleComplete_traffic
    (core.modify i fun channel => { channel with rxGeneration := channel.rxGeneration + 1 })
    i data (core.channels i).localFlags timestamp)
  obtain ⟨scheduler, kept⟩ := scheduleComplete_keeps
    (core.modify i fun channel => { channel with rxGeneration := channel.rxGeneration + 1 })
    i data (core.channels i).localFlags timestamp i
  simp only [Core.modify, Function.update_self] at kept
  simp only [enqueue, Core.record, Core.modify, Function.update_self, kept, Core.traffic] at log ⊢
  exact ⟨by rw [log], rfl⟩

/-- While no deadline has passed, the frame's message is handed to the client's queue. -/
theorem feedFrame_delivers (timestamp : Time) (answers : Option Nat)
    (assembles : Assembles (core.channels i).isoRx)
    (single : acceptsSingle (core.channels i).isoRx.config frame = true)
    (punctual : (rxCheckTimeout (core.channels i).isoRx (core.now vif).1).1 = .ok) :
    let record := singleFrameRecord (core.channels i) frame timestamp
    (∃ events, (feedFrame vif core i frame timestamp answers).log = core.log ++ events ∧
      .enqueued i record ∈ events) ∧
      ((feedFrame vif core i frame timestamp answers).channels i).queue =
        (core.channels i).queue.offer record := by
  obtain ⟨fed, segment, memory, feed, started, complete, padding, buffer, taken⟩ :=
    rxFeed_single_complete assembles single punctual
  intro record
  obtain ⟨now, core', read⟩ : ∃ now core', core.now vif = (now, core') := ⟨_, _, rfl⟩
  have same : core'.channels = core.channels ∧ core'.log = core.log := by
    cases read
    exact ⟨rfl, rfl⟩
  rw [read] at feed
  unfold feedFrame
  rw [read]
  simp only [same, feed]
  rw [if_neg (by decide)]
  generalize Event.aged i (core.channels i).flowControlPending (core.channels i).isoRx now = aged
  generalize Event.fed i (core.channels i).flowControlPending (core.channels i).isoRx frame
    answers = given
  generalize held : (((core'.record aged).record given).modify i fun channel =>
    { channel with isoRx := fed }) = holding
  have channel : holding.channels i = { core.channels i with isoRx := fed } := by
    rw [← held, ← same.1]
    exact Function.update_self ..
  obtain ⟨log, queue⟩ : (deliverSegment holding i frame segment timestamp).log =
      holding.log ++ [.enqueued i record] ∧
        ((deliverSegment holding i frame segment timestamp).channels i).queue =
          (holding.channels i).queue.offer record := by
    apply deliverSegment_complete started complete
    rw [channel, padding, buffer]
    simp [record, singleFrameRecord, messageAddress, taken]
  obtain ⟨kept, events, more⟩ :=
    storeFlowControl_keeps vif (deliverSegment holding i frame segment timestamp) i
  rw [kept, queue, more, log, channel, ← held]
  simp only [Core.modify, Core.record, same.2]
  exact ⟨⟨[aged, given, .enqueued i record] ++ events, by simp, by simp⟩, by trivial⟩

/-- Whoever transmits in full duplex, or does not transmit, is given the frame. -/
theorem logicalReceive_feeds
    (duplex : (core.channels i).txActive = false ∨ (core.channels i).flags &&& logicalFullDuplex ≠ 0) :
    logicalReceive vif core i frame timestamp answers =
      feedFrame vif (if (core.channels i).txActive then hearFrame vif core i frame answers else core)
        i frame timestamp answers := by
  unfold logicalReceive
  split
  case isTrue active =>
    obtain ⟨_, _, _, _, same, _⟩ := hearFrame_keeps vif core i frame answers
    have full := duplex.resolve_left (by simp [active])
    dsimp only
    rw [same, if_neg full]
  case isFalse => rfl

end Delivery

/-! ## Every frame -/

section Frames

variable {σ : Type*} {vif : Vif σ} {start core : Core σ}

/-- In every state that the core reaches, also between two messages of one poll: a single frame for
a logical channel that does not transmit in half duplex is delivered, if and only if the reception
that it finds has not timed out. -/
theorem single_frame_delivered_iff
    (assembling : ∀ i, (start.channels i).parent ≠ 0 → Assembles (start.channels i).isoRx)
    (reached : Traffic.Steps start.traffic core.traffic) (i : ChannelIndex)
    (logical : (core.channels i).parent ≠ 0)
    (duplex : (core.channels i).txActive = false ∨ (core.channels i).flags &&& logicalFullDuplex ≠ 0)
    (frame : CanFrame) (single : acceptsSingle (core.channels i).isoRx.config frame = true)
    (timestamp : Time) (answers : Option Nat) :
    Delivered core (logicalReceive vif core i frame timestamp answers) i
        (singleFrameRecord (core.channels i) frame timestamp) ↔
      Punctual (core.channels i).isoRx (receiveTime vif core i frame answers) := by
  have assembles : Assembles (core.channels i).isoRx :=
    Assembling.steps (s := start.traffic) assembling reached i logical
  rw [logicalReceive_feeds duplex, punctual_iff, receiveTime]
  generalize heard : (if (core.channels i).txActive then hearFrame vif core i frame answers
    else core) = given
  obtain ⟨isoTx, txLen, txActive, queue, same, ⟨events, log, told⟩, before⟩ : ∃ isoTx txLen txActive
      queue, given.channels i = { core.channels i with isoTx, txLen, txActive, queue } ∧
      (∃ events, given.log = core.log ++ events ∧
        ∀ record : Record, .enqueued i record ∈ events → record.indication = true) ∧
      (queue = (core.channels i).queue ∨ ∃ indication : Record, indication.indication = true ∧
        queue = (core.channels i).queue.offer indication) := by
    rw [← heard]
    split
    · exact hearFrame_keeps vif core i frame answers
    · exact ⟨_, _, _, _, rfl, ⟨[], by simp, nofun⟩, .inl rfl⟩
  have receiver : (given.channels i).isoRx = (core.channels i).isoRx := by rw [same]
  rw [← receiver] at assembles single ⊢
  constructor
  · rintro ⟨⟨all, split, member⟩, _⟩
    by_contra late
    obtain ⟨more, after, silent⟩ := feedFrame_late timestamp answers late
    rw [after, log, List.append_assoc] at split
    rw [← List.append_cancel_left split, List.mem_append] at member
    rcases member with earlier | later
    · exact absurd (told _ earlier) nofun
    · exact silent _ later
  · intro punctual
    have made : singleFrameRecord (given.channels i) frame timestamp =
        singleFrameRecord (core.channels i) frame timestamp := by
      rw [same]
      rfl
    obtain ⟨⟨more, after, member⟩, delivered⟩ :=
      feedFrame_delivers timestamp answers assembles single punctual
    rw [made] at member delivered
    refine ⟨⟨events ++ more, by rw [after, log, List.append_assoc],
      List.mem_append_right _ member⟩, ?_⟩
    rw [delivered, same]
    rcases before with none | ⟨indication, told, first⟩
    · exact .inl (by rw [none])
    · exact .inr ⟨indication, told, by rw [first]⟩

end Frames

/-- The scripted core, whose receivers have their buffers. -/
def Script.assembling (script : Script) : Core Script :=
  { script.core with channels := fun i =>
      { Script.channels i with isoRx := { (Script.channels i).isoRx with
          buffer := some (List.replicate isotpMaxPayload 0) } } }

theorem Script.assembles (script : Script) (i : ChannelIndex)
    (logical : (script.assembling.channels i).parent ≠ 0) :
    Assembles (script.assembling.channels i).isoRx := by
  refine ⟨⟨_, rfl, by simp⟩, ?_⟩
  simp only [Script.assembling, Script.channels] at logical ⊢
  split
  · rename_i first
    simp [first] at logical
  · split <;> rfl

/-- A single frame of three bytes from the peer. -/
private def threeBytes : CanFrame :=
  { id := 0x7e8, dlc := 8, data := (Block.fill 8 0).store 0 [3, 1, 2, 3] }

theorem single_frame_delivered_when_idle :
    Delivered (Script.assembling {})
      (logicalReceive Script.vif (Script.assembling {}) 3 threeBytes 0 none) 3
      (singleFrameRecord ((Script.assembling {}).channels 3) threeBytes 0) :=
  (single_frame_delivered_iff (Script.assembles {}) .refl 3 (by decide)
    (.inl rfl) threeBytes (by decide +kernel) 0 none).mpr (.inl rfl)

/-- A first frame was answered two seconds ago, and no consecutive frame has come: the next message
of the peer is lost, though it is complete. -/
theorem single_frame_swallowed :
    let core := run (Core.step Script.vif) (Script.assembling
      { clock := [0, 0, 0, 2000000], inbox := [some peerFirstFrame] }) [.poll]
    acceptsSingle (core.channels 3).isoRx.config threeBytes = true ∧
      (core.channels 3).txActive = false ∧
      ¬ Delivered core (logicalReceive Script.vif core 3 threeBytes 2000000 none) 3
        (singleFrameRecord (core.channels 3) threeBytes 2000000) := by
  refine ⟨by decide +kernel, by decide +kernel, ?_⟩
  rintro ⟨⟨events, log, member⟩, _⟩
  have told := log ▸ List.mem_append_right _ member
  exact absurd told (by decide +kernel)

end OpenDiag.J2534
