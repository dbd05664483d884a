import OpenDiag.J2534.Changes

/-!
# Messages on a byte bus

`poll_rx` on a bus other than CAN enqueues the payload of every message that the filters admit,
except where a status flag makes it report an indication in the payload's place.
-/

namespace OpenDiag.J2534

/-! ## Histories -/

/-- The data message that an event enqueues on a channel. -/
def Event.data (p : ChannelIndex) : Event → Option Record
  | .enqueued i record => if i = p ∧ record.indication = false then some record else none
  | _ => none

/-- The message that an event takes from the bus of a channel. -/
def Event.taken (p : ChannelIndex) : Event → Option BusMsg
  | .received i msg => if i = p then some msg else none
  | _ => none

/-- What an event does to the queue of a channel. -/
def Event.fill (p : ChannelIndex) (queue : RxQueue) : Event → RxQueue
  | .enqueued i record =>
    if i = p then
      enqueueRx queue record.protocol record.handle record.status record.timestamp record.data
        record.indication
    else queue
  | .marked i _ => if i = p then { queue with overflow := true } else queue
  | _ => queue

/-- What the channel does with a message on a byte bus when no flag displaces it: its payload,
without the checksum, if that is good and the filters admit it. -/
def owedRecord (channel : Channel) (msg : BusMsg) : Option Record :=
  let checked := channel.flags &&& flagChecksumDisabled = 0
  let len := if checked then msg.len - 1 else msg.len
  let data := msg.data.take len
  let status := if msg.has busRxTxMsgType then flagTxMsg else 0
  if (checked ∧ msg.has busRxBadChecksum) ∨ len = 0 ∨
      ¬ filterAccepts channel.filters data status then none
  else
    some
      { protocol := channel.protocol, handle := 0, status, timestamp := msg.timestampUs, data
        indication := false }

/-- A flag that `poll_rx` takes for an event without a payload. -/
def BusMsg.displaced (msg : BusMsg) : Bool :=
  msg.has busRxLinkDown || msg.has busRxBreak || msg.has busRxStartOfMsg

/-- What `poll_rx` enqueues for a message. -/
def deliveredRecord (channel : Channel) (msg : BusMsg) : Option Record :=
  if msg.displaced then none else owedRecord channel msg

/-- The fields of a channel that decide what becomes of a message. -/
structure Channel.SameSetup (channel next : Channel) : Prop where
  protocol : next.protocol = channel.protocol
  flags : next.flags = channel.flags
  filters : next.filters = channel.filters
  bus : next.bus = channel.bus

/-- What is owed for a message depends on the setup alone. -/
theorem Channel.SameSetup.owed {channel next : Channel} (same : channel.SameSetup next)
    (msg : BusMsg) : owedRecord next msg = owedRecord channel msg := by
  simp only [owedRecord, same.protocol, same.flags, same.filters]

section Histories

variable {σ : Type*}

/-- What has happened on a byte bus since an earlier state: the messages taken from it, and the
payloads delivered. -/
structure Yields (p : ChannelIndex) (core next : Core σ) (taken : List BusMsg)
    (data : List Record) : Prop where
  same : (core.channels p).SameSetup (next.channels p)
  log : ∃ events, next.log = core.log ++ events ∧ events.filterMap (Event.taken p) = taken ∧
    events.filterMap (Event.data p) = data ∧
    (next.channels p).queue = events.foldl (Event.fill p) (core.channels p).queue

/-- The payloads that are delivered are those of the messages that are taken, in order. -/
def Delivers (p : ChannelIndex) (core next : Core σ) : Prop :=
  ∃ taken, Yields p core next taken (taken.filterMap (deliveredRecord (core.channels p)))

variable {p : ChannelIndex} {core mid next : Core σ} {msgs msgs' : List BusMsg}
  {records records' : List Record}

theorem Channel.SameSetup.trans {channel mid next : Channel} (first : channel.SameSetup mid)
    (second : mid.SameSetup next) : channel.SameSetup next where
  protocol := second.protocol.trans first.protocol
  flags := second.flags.trans first.flags
  filters := second.filters.trans first.filters
  bus := second.bus.trans first.bus

theorem Yields.refl (p : ChannelIndex) (core : Core σ) : Yields p core core [] [] :=
  ⟨⟨rfl, rfl, rfl, rfl⟩, [], (List.append_nil _).symm, rfl, rfl, rfl⟩

/-- What is taken and delivered in two parts adds up, and so does the queue. -/
theorem Yields.trans (first : Yields p core mid msgs records)
    (second : Yields p mid next msgs' records') :
    Yields p core next (msgs ++ msgs') (records ++ records') := by
  obtain ⟨same, events, log, rfl, rfl, queue⟩ := first
  obtain ⟨same', events', log', rfl, rfl, queue'⟩ := second
  exact ⟨same.trans same', events ++ events', by rw [log', log, List.append_assoc],
    List.filterMap_append, List.filterMap_append, by rw [queue', queue, List.foldl_append]⟩

/-- Messages taken in two parts are delivered in order. -/
theorem Delivers.trans (first : Delivers p core mid) (second : Delivers p mid next) :
    Delivers p core next := by
  obtain ⟨taken, first⟩ := first
  obtain ⟨taken', second⟩ := second
  have delivered : deliveredRecord (mid.channels p) = deliveredRecord (core.channels p) := by
    funext msg
    rw [deliveredRecord, deliveredRecord, first.same.owed]
  rw [delivered] at second
  exact ⟨taken ++ taken', by simpa only [List.filterMap_append] using first.trans second⟩

/-- An event that is recorded with its effect on the queue. -/
theorem Yields.event (before : Yields p core mid msgs records) (next : Core σ) (event : Event)
    (same : (mid.channels p).SameSetup (next.channels p)) (log : next.log = mid.log ++ [event])
    (queue : (next.channels p).queue = event.fill p (mid.channels p).queue) :
    Yields p core next (msgs ++ (event.taken p).toList) (records ++ (event.data p).toList) := by
  refine before.trans ⟨same, [event], log, ?_, ?_, queue⟩
  · cases taken : event.taken p <;> simp [taken]
  · cases data : event.data p <;> simp [data]

/-- A channel is changed beside its setup, and the others not at all. -/
theorem sameSetup_modify (core : Core σ) (p i : ChannelIndex) (change : Channel → Channel)
    (same : (core.channels i).SameSetup (change (core.channels i))) :
    (core.channels p).SameSetup ((core.modify i change).channels p) := by
  by_cases here : p = i
  · subst here
    simpa [Core.modify] using same
  · simpa [Core.modify, Function.update_of_ne here] using
      (⟨rfl, rfl, rfl, rfl⟩ : (core.channels p).SameSetup (core.channels p))

/-! ## Functions that take and deliver nothing -/

/-- A change that leaves the queue of a channel alone. -/
structure Channel.Kept (channel next : Channel) : Prop extends channel.SameSetup next where
  queue : next.queue = channel.queue

/-- A transmission or a reception that moves on leaves the queue to the messages of the bus. -/
theorem Channel.Aside.kept {channel next : Channel} (aside : channel.Aside next)
    (queue : next.queue = channel.queue) : channel.Kept next where
  protocol := (congrArg Channel.protocol aside.same :)
  flags := (congrArg Channel.flags aside.same :)
  filters := (congrArg Channel.filters aside.same :)
  bus := (congrArg Channel.bus aside.same :)
  queue := queue

section Quiet

variable (before : Yields p core mid msgs records)
include before

/-- An event is recorded that takes and delivers nothing, and leaves the queue alone. -/
theorem Yields.record {event : Event} (quiet : event.taken p = none ∧ event.data p = none)
    (still : ∀ queue, event.fill p queue = queue) :
    Yields p core (mid.record event) msgs records := by
  simpa [quiet] using before.event (mid.record event) event ⟨rfl, rfl, rfl, rfl⟩ rfl
    (still _).symm

/-- A channel is changed beside its queue. -/
theorem Yields.modify (i : ChannelIndex) {change : Channel → Channel}
    (kept : (mid.channels i).Kept (change (mid.channels i))) :
    Yields p core (mid.modify i change) msgs records := by
  have queue : ((mid.modify i change).channels p).queue = (mid.channels p).queue := by
    by_cases here : p = i
    · subst here
      simpa [Core.modify] using kept.queue
    · simp [Core.modify, Function.update_of_ne here]
  obtain ⟨same, events, log, taken, data, filled⟩ := before
  exact ⟨same.trans (sameSetup_modify mid p i change kept.toSameSetup), events, log, taken, data,
    queue.trans filled⟩

/-- The queue is filled from the history, not from the vehicle interface. -/
theorem Yields.env (env : σ) : Yields p core { mid with env } msgs records :=
  ⟨before.same, before.log⟩

/-- `enqueue_rx`. -/
theorem Yields.enqueued (i : ChannelIndex) (handle status : UInt32) (timestamp : Time)
    (data : List UInt8) (indication : Bool) :
    Yields p core (enqueue mid i handle status timestamp data indication) msgs
      (records ++ (Event.data p (.enqueued i
        { protocol := (mid.channels i).protocol, handle, status, timestamp, data
          indication })).toList) := by
  have fill := before.event (J2534.enqueue mid i handle status timestamp data indication)
    (.enqueued i
      { protocol := (mid.channels i).protocol, handle, status, timestamp, data, indication })
  simp only [Event.taken, Option.toList_none, List.append_nil] at fill
  refine fill ?_ rfl ?_
  · exact sameSetup_modify mid p i (fun channel => { channel with
      queue := enqueueRx channel.queue (mid.channels i).protocol handle status timestamp data
        indication }) ⟨rfl, rfl, rfl, rfl⟩
  by_cases here : p = i
  · subst here
    simp [enqueue, Core.record, Core.modify, Event.fill]
  · simp [enqueue, Core.record, Core.modify, Event.fill, Function.update_of_ne here, Ne.symm here]

/-- An indication is no message of the bus, though it takes a place in the queue. -/
theorem Yields.enqueue (i : ChannelIndex) (handle status : UInt32) (timestamp : Time)
    (data : List UInt8) :
    Yields p core (enqueue mid i handle status timestamp data true) msgs records := by
  simpa [Event.data] using before.enqueued i handle status timestamp data true

/-- A job changes without anything taken or delivered. -/
theorem Yields.changeJob (i : ChannelIndex) (slot : Slot) (what : JobChange)
    (change : Job → Job) : Yields p core (mid.changeJob i slot what change) msgs records := by
  have changed : Yields p core (mid.modifyJob i slot change) msgs records :=
    before.modify i ⟨⟨rfl, rfl, rfl, rfl⟩, rfl⟩
  exact changed.record ⟨rfl, rfl⟩ fun _ => rfl

/-- A loss is marked in the queue. -/
theorem Yields.markLoss (i : ChannelIndex) (lost : Nat) :
    Yields p core (markLoss mid i lost) msgs records := by
  have marked := before.event (J2534.markLoss mid i lost) (.marked i lost)
  simp only [Event.taken, Event.data, Option.toList_none, List.append_nil] at marked
  refine marked ?_ rfl ?_
  · exact sameSetup_modify mid p i (fun channel => { channel with
      queue := { channel.queue with overflow := true }
      scheduler := scheduleReceiveLost channel.scheduler }) ⟨rfl, rfl, rfl, rfl⟩
  by_cases here : p = i
  · subst here
    simp [J2534.markLoss, Core.record, Core.modify, Event.fill]
  · simp [J2534.markLoss, Core.record, Core.modify, Event.fill, Function.update_of_ne here,
      Ne.symm here]

end Quiet

/-- What may be changed of a core while nothing is taken from a bus and no message is delivered. -/
def Matter.isSilent : Matter → Bool
  | .lapse | .job => true
  | _ => false

section Silence

variable {vif : Vif σ} {guard : Guard vif}

/-- A change in silence takes and delivers nothing, and the queue is filled as recorded. -/
theorem Core.Change.yields (change : Core.Change guard Matter.isSilent core next)
    (p : ChannelIndex) : Yields p core next [] [] := by
  have here : Yields p core core [] [] := .refl p core
  cases change with
  | call => exact here.env _
  | @note event noted =>
      refine here.record ?_ fun _ => ?_
      · cases event <;> first | exact ⟨rfl, rfl⟩ | cases noted
      · cases event <;> first | rfl | cases noted
  | touch i aside queue => exact here.modify i (aside.kept (queue.resolve_right Bool.false_ne_true))
  | enqueue i handle status timestamp data indication told =>
      cases indication with
      | true => exact here.enqueue ..
      | false => cases told rfl
  | lapse i => exact here.modify i ⟨⟨rfl, rfl, rfl, rfl⟩, rfl⟩
  | lose i lost => exact here.markLoss i lost
  | job i slot what => exact here.changeJob i slot what _
  | receive _ _ fits => cases fits
  | drain _ _ fits => cases fits
  | begin q => exact here.modify q ⟨⟨rfl, rfl, rfl, rfl⟩, rfl⟩

/-- Any number of changes in silence, by induction on the changes. -/
theorem Core.Changes.yields (changes : Core.Changes guard Matter.isSilent core next)
    (p : ChannelIndex) : Yields p core next [] [] := by
  induction changes with
  | refl => exact .refl p core
  | tail _ change ih => exact ih.trans (change.yields p)

/-- What happens in silence adds nothing to what has been taken and delivered. -/
theorem Yields.silent (before : Yields p core mid msgs records)
    (changes : Core.Changes (Guard.none vif) Matter.isSilent mid next) :
    Yields p core next msgs records := by
  simpa using before.trans (changes.yields p)

end Silence

/-! ## Messages -/

section Messages

variable (before : Yields p core mid msgs records)
include before

/-- A payload is delivered if a filter passes it, with the status of an echo if it is one. -/
theorem Yields.deliverRecord (msg : BusMsg) (data : List UInt8) :
    Yields p core (deliverRecord mid p msg data 0) msgs
      (records ++
        if filterAccepts (mid.channels p).filters data
            (if msg.has busRxTxMsgType then flagTxMsg else 0) then
          [{ protocol := (mid.channels p).protocol, handle := 0
             status := if msg.has busRxTxMsgType then flagTxMsg else 0
             timestamp := msg.timestampUs, data, indication := false }]
        else []) := by
  have deliver {last : Core σ} (seen : Yields p core last msgs records)
      (same : (mid.channels p).SameSetup (last.channels p)) (status : UInt32) :
      Yields p core
        (if filterAccepts (last.channels p).filters data status then
          J2534.enqueue last p 0 status msg.timestampUs data false
        else last) msgs
        (records ++ if filterAccepts (mid.channels p).filters data status then
          [{ protocol := (mid.channels p).protocol, handle := 0, status
             timestamp := msg.timestampUs, data, indication := false }]
        else []) := by
    rw [same.filters]
    split
    · simpa [Event.data, same.protocol] using seen.enqueued p 0 status msg.timestampUs data false
    · simpa using seen
  unfold J2534.deliverRecord
  by_cases sent : msg.has busRxTxMsgType = true
  · simp only [sent, if_true, UInt32.zero_or]
    exact deliver before ⟨rfl, rfl, rfl, rfl⟩ flagTxMsg
  · simp only [sent, Bool.false_eq_true, if_false]
    refine deliver ?_ ?_ 0
    · refine before.modify p ?_
      exact ⟨⟨rfl, rfl, rfl, rfl⟩, rfl⟩
    · refine sameSetup_modify mid p p _ ?_
      exact ⟨rfl, rfl, rfl, rfl⟩

/-- A message on a byte bus is delivered as it is owed. -/
theorem Yields.receiveBytes (msg : BusMsg) :
    Yields p core (receiveBytes mid p msg) msgs
      (records ++ (owedRecord (core.channels p) msg).toList) := by
  rw [← before.same.owed]
  unfold J2534.receiveBytes owedRecord
  extract_lets checked len data status
  by_cases bad : checked ∧ msg.has busRxBadChecksum
  · simpa [bad] using before
  by_cases empty : len = 0
  · simpa [empty] using before
  · have full : ¬ (checked ∧ msg.len = 0) := fun ⟨here, zero⟩ => empty (by simp [len, here, zero])
    have passes : (decide checked && (decide (msg.len = 0) || msg.has busRxBadChecksum)) = false := by
      simp only [Bool.and_eq_false_iff, Bool.or_eq_false_iff, decide_eq_false_iff_not]
      by_cases here : checked
      · exact .inr ⟨fun zero => full ⟨here, zero⟩, by simpa [here] using bad⟩
      · exact .inl here
    have delivered := before.deliverRecord msg data
    simp only [bad, empty, passes, false_or, ↓reduceIte, Bool.false_eq_true]
    split
    case isTrue refused => simpa [status, refused] using delivered
    case isFalse admitted => simpa [status, not_not.1 admitted] using delivered

end Messages

variable (vif : Vif σ)

theorem Delivers.refl (p : ChannelIndex) (core : Core σ) : Delivers p core core :=
  ⟨[], .refl p core⟩

end Histories

end OpenDiag.J2534
