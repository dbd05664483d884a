import OpenDiag.J2534.Transmit

/-!
# Polling

`service_bus`: what has arrived is taken from the bus, up to 32 messages at a time, and given to
the physical channel and to the logical channels on it; then at most one transmission is started,
of a stored flow control, a scheduled message or a stored message, in this order.
-/

namespace OpenDiag.J2534

open Isotp

section Code

variable {σ : Type*} (vif : Vif σ)

/-! ## Reception on a logical channel -/

/-- `logical_receive`, for a channel that transmits. -/
def hearFrame (core : Core σ) (i : ChannelIndex) (frame : CanFrame) (answers : Option Nat) :
    Core σ :=
  let (now, core) := core.now vif
  let sender := (core.channels i).isoTx
  let (rc, isoTx) := txFlowControl sender frame now
  let core := (core.modify i fun channel => { channel with isoTx }).record
    (.heard i sender now answers)
  if rc.isError then txDone vif core i false none else core

/-- `logical_receive`, where a message is complete: the repeats of the channel see it, and those of
its legacy peers. -/
def scheduleComplete (core : Core σ) (i : ChannelIndex) (data : List UInt8) (flags : UInt32)
    (timestamp : Time) : Core σ :=
  let channel := core.channels i
  let see (core : Core σ) (peer : ChannelIndex) : Core σ := core.modify peer fun channel =>
    { channel with scheduler := scheduleReceive channel.scheduler data flags timestamp }
  let core := see core i
  if channel.legacyChannel then
    logicalChannels.foldl (fun core peer =>
      let other := core.channels peer
      if peer ≠ i && other.id ≠ 0 && other.legacyChannel && other.parent = channel.parent then
        see core peer
      else core) core
  else core

/-- `logical_receive`, for the address in front of the data. -/
def messageAddress (channel : Channel) (frame : CanFrame) : List UInt8 :=
  putBe32 (frame.id &&& canEffMask) ++
    if channel.config.extendedAddress then [frame.data.read 0] else []

/-- `logical_receive`, where a segment begins a message. -/
def beginReception (core : Core σ) (i : ChannelIndex) (frame : CanFrame) (segment : Segment)
    (timestamp : Time) : Core σ :=
  let channel := core.channels i
  if segment.started then
    let core := core.modify i fun channel =>
      { channel with rxGeneration := channel.rxGeneration + 1 }
    if segment.complete then core
    else
      enqueue core i 0 (channel.localFlags ||| flagStart) timestamp (messageAddress channel frame)
        true
  else core

/-- `logical_receive`, where a segment has been taken in: the beginning of a message is reported
and, when the segment is the last, the message is delivered. -/
def deliverSegment (core : Core σ) (i : ChannelIndex) (frame : CanFrame) (segment : Segment)
    (timestamp : Time) : Core σ :=
  let channel := core.channels i
  let core := beginReception core i frame segment timestamp
  if segment.complete then
    let data := messageAddress channel frame ++ (channel.isoRx.buffer.getD []).take segment.total
    let core := scheduleComplete core i data channel.localFlags timestamp
    enqueue core i 0 (channel.localFlags ||| if segment.paddingError then flagPadding else 0)
      timestamp data false
  else core

/-- `logical_receive`, at its end: a flow control that is due is stored. -/
def storeFlowControl (core : Core σ) (i : ChannelIndex) : Core σ :=
  let (now, core) := core.now vif
  let channel := core.channels i
  let core := core.record (.aged i channel.flowControlPending channel.isoRx now)
  match rxFlowControl channel.isoRx now with
  | (_, isoRx, none) => core.modify i fun channel => { channel with isoRx }
  | (_, isoRx, some flowControl) => core.modify i fun channel =>
    { channel with
      isoRx, flowControl
      flowControlPending := true
      flowGeneration := channel.rxGeneration }

/-- `logical_receive`, from `isotp_rx_feed` on. -/
def feedFrame (core : Core σ) (i : ChannelIndex) (frame : CanFrame) (timestamp : Time)
    (answers : Option Nat) : Core σ :=
  let (now, core) := core.now vif
  let channel := core.channels i
  let core := (core.record (.aged i channel.flowControlPending channel.isoRx now)).record
    (.fed i channel.flowControlPending channel.isoRx frame answers)
  let (rc, isoRx, segment) := rxFeed channel.isoRx frame now
  let core := core.modify i fun channel => { channel with isoRx }
  if rc.code ≤ 0 then core
  else storeFlowControl vif (deliverSegment core i frame segment timestamp) i

def logicalReceive (core : Core σ) (i : ChannelIndex) (frame : CanFrame) (timestamp : Time)
    (answers : Option Nat) : Core σ :=
  if (core.channels i).txActive then
    let core := hearFrame vif core i frame answers
    if (core.channels i).flags &&& logicalFullDuplex = 0 then core
    else feedFrame vif core i frame timestamp answers
  else feedFrame vif core i frame timestamp answers

/-! ## Reception -/

/-- `poll_rx`, where a lost link resets the sender and the receiver of a logical channel. -/
def resetLogical (core : Core σ) (i : ChannelIndex) : Core σ :=
  if (core.channels i).parent ≠ 0 then
    (core.modify i fun channel => { channel with
      isoTx := (txInit channel.isoTx channel.config).2
      isoRx := { channel.isoRx with state := .idle } }).record
        (.reset i (core.channels i).flowControlPending)
  else core

/-- `poll_rx`, for one of the channels that a lost link affects. -/
def linkDown (core : Core σ) (i : ChannelIndex) (timestamp : Time) : Core σ :=
  let core := core.modify i fun channel =>
    { channel with scheduler := scheduleReceiveLost channel.scheduler }
  let core := cancelChannelTx vif core i
  let core := if (core.channels i).txLen ≠ 0 then txDone vif core i false none else core
  enqueue (resetLogical core i) i 0 flagError timestamp [1, 0, 0, 0] true

/-- `poll_rx`, for one of the channels that a loss affects. -/
def markLoss (core : Core σ) (i : ChannelIndex) (lost : Nat) : Core σ :=
  (core.modify i fun channel => { channel with
    queue := { channel.queue with overflow := true }
    scheduler := scheduleReceiveLost channel.scheduler }).record (.marked i lost)

/-- `poll_rx`, where a message is given to the channel itself. -/
def deliverRecord (core : Core σ) (p : ChannelIndex) (msg : BusMsg) (data : List UInt8)
    (flags : UInt32) : Core σ :=
  let core := if msg.has busRxTxMsgType then core
    else core.modify p fun channel =>
      { channel with scheduler := scheduleReceive channel.scheduler data flags msg.timestampUs }
  let flags := if msg.has busRxTxMsgType then flags ||| flagTxMsg else flags
  if filterAccepts (core.channels p).filters data flags then
    enqueue core p 0 flags msg.timestampUs data false
  else core

/-- `poll_rx`, for a message on CAN that is data. -/
def receiveCan (core : Core σ) (p : ChannelIndex) (msg : BusMsg) : Core σ :=
  let channel := core.channels p
  let flags := if msg.id &&& canEffFlag ≠ 0 then flag29Bit else 0
  if msg.id &&& canRtrFlag ≠ 0 || msg.len > 8 || !canFlagsMatch channel flags then core
  else
    let data := msg.data.take msg.len
    let frame : CanFrame := { id := msg.id, dlc := msg.len, data := (Block.fill 8 0).store 0 data }
    let core := logicalChannels.foldl (fun core i =>
      if (core.channels i).parent = channel.id then
        logicalReceive vif core i frame msg.timestampUs msg.answers
      else core) core
    deliverRecord core p msg (putBe32 (msg.id &&& canEffMask) ++ data) flags

/-- `poll_rx`, for a message on a byte bus that is data; the checksum is taken off. -/
def receiveBytes (core : Core σ) (p : ChannelIndex) (msg : BusMsg) : Core σ :=
  let checked := (core.channels p).flags &&& flagChecksumDisabled = 0
  if checked && (msg.len = 0 || msg.has busRxBadChecksum) then core
  else
    let len := if checked then msg.len - 1 else msg.len
    if len = 0 then core else deliverRecord core p msg (msg.data.take len) 0

/-- `poll_rx`, for one message. -/
def receiveRecord (core : Core σ) (p : ChannelIndex) (msg : BusMsg) : Core σ :=
  let core := core.record (.received p msg)
  let core := collectBusTx vif core p
  let core := core.modify p fun channel => { channel with
    rxSequence := if (msg.sequence - channel.rxSequence).toInt32 > 0 then msg.sequence
      else channel.rxSequence }
  let id := (core.channels p).id
  if msg.has busRxLinkDown then
    let core := core.modify p fun channel => { channel with linkDown := true }
    allChannels.foldl (fun core i =>
      if i = p ∨ (core.channels i).parent = id then linkDown vif core i msg.timestampUs
      else core) core
  else
    let core := if msg.has busRxBufferOverflow then
        logicalChannels.foldl (fun core i =>
          if (core.channels i).parent = id then markLoss core i msg.lost else core)
          (markLoss core p msg.lost)
      else core
    if msg.len = 0 && msg.has busRxBufferOverflow then core
    else if msg.has busRxBreak then
      enqueue core p 0 flagBreak msg.timestampUs [] true
    else if msg.has busRxStartOfMsg then
      enqueue core p 0 flagStart msg.timestampUs [] true
    else if (core.channels p).protocol = protocolCan then receiveCan vif core p msg
    else receiveBytes core p msg

/-- The loop of `poll_rx`. -/
def pollBurst (p : ChannelIndex) : Nat → Core σ → Core σ
  | 0, core => core
  | burst + 1, core =>
    let (msg, env) := vif.recv (core.channels p).bus core.env
    let core := { core with env }
    match msg with
    | none => core.modify p fun channel => { channel with rxDrained := true }
    | some msg => pollBurst p burst (receiveRecord vif core p msg)

def pollRx (core : Core σ) (p : ChannelIndex) : Core σ :=
  pollBurst vif p 32 (core.modify p fun channel => { channel with rxDrained := false })

/-! ## Service -/

/-- A channel of this physical channel. -/
def onBus (core : Core σ) (p i : ChannelIndex) : Bool :=
  (core.channels i).id ≠ 0 && physicalChannel core i = some p

/-- `service_bus`, where the deadlines of one channel are checked and its next scheduled message is
compared with the best so far. -/
def checkChannel (p : ChannelIndex) (now : Time)
    (state : Core σ × Option (ChannelIndex × Slot)) (i : ChannelIndex) :
    Core σ × Option (ChannelIndex × Slot) :=
  let (core, next) := state
  if !onBus core p i then (core, next)
  else
    let channel := core.channels i
    let core := if channel.parent ≠ 0 then
        (core.modify i fun channel =>
          { channel with isoRx := (rxCheckTimeout channel.isoRx now).2 }).record
            (.aged i channel.flowControlPending channel.isoRx now)
      else core
    let drained := (core.channels p).rxDrained
    let core := if drained then
        core.modify i fun channel =>
          { channel with scheduler := scheduleExpire channel.scheduler now }
      else core
    match scheduleNext (core.channels i).scheduler now drained with
    | none => (core, next)
    | some slot =>
      match next with
      | none => (core, some (i, slot))
      | some (selected, best) =>
        if ((core.channels i).scheduler slot).before ((core.channels selected).scheduler best) then
          (core, some (i, slot))
        else (core, next)

/-- `service_bus`, where a scheduled message under way is cancelled once its job has ended. -/
def cancelEnded (core : Core σ) (p : ChannelIndex) : Core σ :=
  let pending := (core.channels p).pending
  if pending.kind ≠ .scheduled then core
  else
    let active := match findChannel core pending.channel with
      | none => false
      | some owner =>
        match scheduleFind (core.channels owner).scheduler pending.job with
        | none => false
        | some slot => ((core.channels owner).scheduler slot).active
    if active then core
    else { core with env := vif.txCancel (core.channels p).bus core.env }

/-- `service_bus`, where the stored flow control with the earliest deadline is chosen. -/
def nextFlow (core : Core σ) (p : ChannelIndex) : Option ChannelIndex :=
  logicalChannels.foldl (fun flow i =>
    let channel := core.channels i
    if channel.parent = (core.channels p).id && channel.flowControlPending then
      match flow with
      | none => some i
      | some first =>
        if (channel.isoRx.deadlineUs - (core.channels first).isoRx.deadlineUs).toInt32 < 0 then
          some i
        else flow
    else flow) none

/-- `service_bus`, where a stored flow control is submitted. -/
def submitFlow (core : Core σ) (i : ChannelIndex) : Core σ :=
  let channel := core.channels i
  let core := (core.modify i fun channel => { channel with flowControlPending := false }).record
    (.flowSubmitted i channel.isoRx.state channel.flowGeneration channel.rxGeneration)
  submitCan vif core i .flowControl channel.flowControl

/-- `service_bus`, where flow controls are submitted until one is under way. -/
def serviceFlow (p : ChannelIndex) : Nat → Core σ → Core σ
  | 0, core => core
  | sent + 1, core =>
    match nextFlow core p with
    | none => core
    | some i =>
      let core := collectBusTx vif (submitFlow vif core i) p
      if (core.channels p).pending.kind ≠ .none then core else serviceFlow p sent core

/-- `service_bus`, where the channels are asked in turn for their messages. -/
def serviceTx (p : ChannelIndex) (cursor : Nat) : List Nat → Core σ → Core σ
  | [], core => core
  | offset :: offsets, core =>
    let i : ChannelIndex := Fin.ofNat _ (cursor + offset)
    if onBus core p i then
      let core := pollTx vif core i
      if (core.channels p).pending.kind ≠ .none then
        core.modify p fun channel =>
          { channel with txCursor := (i.val + 1) % (physicalMax + logicalMax) }
      else serviceTx p cursor offsets core
    else serviceTx p cursor offsets core

/-- The jobs of every channel of a bus. -/
def busJobs (core : Core σ) (p : ChannelIndex) : List (ChannelIndex × Scheduler) :=
  (allChannels.filter (onBus core p)).map fun i => (i, (core.channels i).scheduler)

/-- A scheduled message is picked; recorded with what it was picked among. -/
def recordPick (core : Core σ) (p : ChannelIndex) (now : Time) (i : ChannelIndex) (slot : Slot) :
    Core σ :=
  core.record (.scheduled p now (core.channels p).rxDrained (busJobs core p) i slot)

/-- `service_bus`, where a transmission may be started. -/
def startTransmission (core : Core σ) (p : ChannelIndex) (now : Time)
    (next : Option (ChannelIndex × Slot)) : Core σ :=
  let core := serviceFlow vif p logicalMax core
  if (core.channels p).pending.kind ≠ .none then core
  else
    let core := match next with
      | some (selected, slot) =>
        submitScheduled vif (recordPick core p now selected slot) selected slot
      | none => serviceTx vif p (core.channels p).txCursor
          (List.range (physicalMax + logicalMax)) core
    collectBusTx vif core p

def serviceBus (core : Core σ) (p : ChannelIndex) : Core σ :=
  let core := collectBusTx vif core p
  let core := pollRx vif core p
  let (now, core) := core.now vif
  let (core, next) := allChannels.foldl (checkChannel p now) (core, none)
  let core := cancelEnded vif core p
  if (core.channels p).pending.kind ≠ .none || (core.channels p).linkDown then core
  else startTransmission vif core p now next

/-- `j2534_core_poll`. -/
def corePoll (core : Core σ) : Core σ :=
  if core.device = 0 then core
  else
    allChannels.foldl (fun core i =>
      if !i.isLogical && (core.channels i).id ≠ 0 && channelIsLive vif core i then
        serviceBus vif core i
      else core) core

end Code

end OpenDiag.J2534
