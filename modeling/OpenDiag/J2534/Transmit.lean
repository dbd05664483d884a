import OpenDiag.J2534.Core

/-!
# Transmission

A physical channel has one transmission under way. `collect_bus_tx` takes its result, early when
only the timing is known, and `finish_bus_tx` gives it to what it was submitted for: a message, a
frame of a segmented message, a flow control or a scheduled message.
-/

namespace OpenDiag.J2534

open Isotp

section Code

variable {σ : Type*} (vif : Vif σ)

/-- A change of one job of a channel's scheduler. -/
def Core.modifyJob (core : Core σ) (i : ChannelIndex) (slot : Slot) (change : Job → Job) : Core σ :=
  core.modify i fun channel => { channel with
    scheduler := Function.update channel.scheduler slot (change (channel.scheduler slot)) }

/-- The same, recorded. -/
def Core.changeJob (core : Core σ) (i : ChannelIndex) (slot : Slot) (what : JobChange)
    (change : Job → Job) : Core σ :=
  (core.modifyJob i slot change).record
    (.job i slot what (change ((core.channels i).scheduler slot)))

def confirmProtocolTx (core : Core σ) (i : ChannelIndex) (pending : PendingTx) (success : Bool)
    (timestamp : Time) : Core σ :=
  match pending.kind with
  | .flowControl =>
    let channel := core.channels i
    let core := core.record (.flowCompleted i pending.rxGeneration channel.rxGeneration)
    if pending.rxGeneration % 2 ^ 32 = channel.rxGeneration % 2 ^ 32 then
      core.modify i fun channel =>
        { channel with isoRx := (rxConfirm channel.isoRx success timestamp).2 }
    else core
  | .isotp =>
    let (rc, isoTx) := txConfirm (core.channels i).isoTx success timestamp
    let core := core.modify i fun channel => { channel with isoTx }
    if rc.isError || isoTx.state = .idle then txDone vif core i (!rc.isError) (some pending.message)
    else core
  | _ => txDone vif core i success (some pending.message)

/-- The scheduled message is given back to its job when the bus has not sent it. -/
def deferred (pending : PendingTx) (result : TxResult) : Bool :=
  result.status = busErrRxPending || (result.status = busErrCancelled && pending.discard)

/-- `finish_bus_tx`, for the job of a scheduled message. -/
def finishJob (core : Core σ) (i : ChannelIndex) (pending : PendingTx) (result : TxResult) :
    Core σ :=
  let success := result.status = 0
  match scheduleFind (core.channels i).scheduler pending.job with
  | none => core
  | some slot =>
    let (start, core) := if success then (result.startedUs, core) else core.now vif
    let ended := if success then result.endedUs else start
    if deferred pending result then core.changeJob i slot .deferred Job.defer
    else core.changeJob i slot (.completed success start ended) fun job =>
      job.complete success start ended

/-- `finish_bus_tx`, for a scheduled message. -/
def finishScheduled (core : Core σ) (i : ChannelIndex) (pending : PendingTx) (result : TxResult) :
    Core σ :=
  let core := finishJob vif core i pending result
  if !pending.discard && !deferred pending result && result.status ≠ busErrCancelled &&
      pending.handle ≠ 0 then
    (enqueue core i pending.handle (if result.status = 0 then flagTxSuccess else flagTxFailed)
      result.endedUs [] true).record (.told i pending.handle (result.status = 0))
  else core

/-- `finish_bus_tx`, at its start: the transmission is taken from its channel, and echoed. -/
def takePending (core : Core σ) (physical : ChannelIndex) (result : TxResult) : Core σ :=
  let pending := (core.channels physical).pending
  let core := core.modify physical fun channel => { channel with pending := {} }
  if result.status = 0 ∧ (core.channels physical).bus = .can then
    echoCan core physical pending.frame result.endedUs
  else core

def finishBusTx (core : Core σ) (physical : ChannelIndex) (result : TxResult) : Core σ :=
  let pending := (core.channels physical).pending
  let owner := findChannel core pending.channel
  let core := takePending core physical result
  match owner with
  | none => core
  | some i =>
    if pending.kind = .scheduled then finishScheduled vif core i pending result
    else if pending.discard || pending.confirmed then core
    else
      let (now, core) := core.now vif
      confirmProtocolTx vif core i pending (result.status = 0) now

/-- `collect_bus_tx`, when a result has been taken. -/
def collectResult (core : Core σ) (physical : ChannelIndex) (result : TxResult) : Core σ :=
  let pending := (core.channels physical).pending
  if result.complete then finishBusTx vif core physical result
  else if !pending.discard && (pending.kind = .isotp || pending.kind = .flowControl) then
    match findChannel core pending.channel with
    | none => core
    | some i =>
      if pending.confirmed then core
      else
        let core := confirmProtocolTx vif core i pending true result.endedUs
        core.modify physical fun channel =>
          { channel with pending := { channel.pending with confirmed := true } }
  else if pending.kind = .scheduled then
    match findChannel core pending.channel with
    | none => core
    | some i =>
      match scheduleFind (core.channels i).scheduler pending.job with
      | none => core
      | some slot =>
        core.changeJob i slot (.transmitted result.startedUs result.endedUs) fun job =>
          job.transmitted result.startedUs result.endedUs
  else core

def collectBusTx (core : Core σ) (physical : ChannelIndex) : Core σ :=
  if (core.channels physical).pending.kind = .none then core
  else
    let (result, env) := vif.txPoll (core.channels physical).bus core.env
    let core := { core with env }
    match result with
    | none => core
    | some result => collectResult vif core physical result

/-- `submit_bus_tx`, for the transmission that it puts under way. -/
def pendingFor (channel : Channel) (kind : TxKind) (job handle : UInt32) (msg : BusTx)
    (can : Bool) : PendingTx where
  kind
  channel := channel.id
  job
  handle
  rxGeneration := channel.rxGeneration
  frame := if can then
      { id := msg.id, dlc := msg.data.length, data := (Block.fill 8 0).store 0 msg.data }
    else default
  message := channel.stored

/-- `submit_bus_tx`, for the flags: a transmission on CAN is reported when its frame is sent. -/
def submitFlags (can : Bool) (busFlags : UInt32) : UInt32 :=
  if can then busFlags ||| busTxWaitDone else busFlags

def submitBusTx (core : Core σ) (i : ChannelIndex) (kind : TxKind) (job handle : UInt32)
    (msg : BusTx) (busFlags : UInt32) : Core σ :=
  match physicalChannel core i with
  | none => core
  | some physical =>
    let can := (core.channels physical).bus = .can
    let pending := pendingFor (core.channels i) kind job handle msg can
    let core := core.modify physical fun channel => { channel with pending }
    let (rc, env) := vif.submit (core.channels physical).bus msg (submitFlags can busFlags)
      (core.channels physical).rxSequence core.env
    let core := { core with env }
    if rc ≠ 0 then
      let (startedUs, core) := core.now vif
      let (endedUs, core) := core.now vif
      finishBusTx vif core physical { status := rc, complete := true, startedUs, endedUs }
    else core

def submitCan (core : Core σ) (i : ChannelIndex) (kind : TxKind) (frame : CanFrame) : Core σ :=
  submitBusTx vif core i kind 0 0 { id := frame.id, data := frame.data.load 0 frame.dlc } 0

/-- The configuration that a message is sent with. -/
def messageConfig (channel : Channel) (data : List UInt8) (flags : UInt32) : Config :=
  { channel.config with
    txId := be32 data ||| if flags &&& flag29Bit ≠ 0 then canEffFlag else 0
    txAddress := if flags &&& flagAddr ≠ 0 then data.getD 4 0 else 0
    pad := flags &&& flagPad ≠ 0 }

/-- The identifier that a message is sent with. -/
def messageId (data : List UInt8) (flags : UInt32) : UInt32 :=
  be32 data ||| if flags &&& flag29Bit ≠ 0 then canEffFlag else 0

/-- `poll_tx`, for the sender of a logical channel that begins its message. -/
def beginMessage (channel : Channel) (now : Time) : Result × Tx :=
  let data := channel.tx.data
  let cfg := { messageConfig channel data channel.tx.txFlags with
    timeoutAUs := channel.txTimeoutAUs }
  let address := 4 + cfg.addressLength
  let cfg := { cfg with functional := data.take address ≠ channel.remote.take address }
  txStart (txInit channel.isoTx cfg).2 (data.drop address) now

/-- `poll_tx`, where a logical channel begins its message. -/
def startTx (core : Core σ) (i : ChannelIndex) : Core σ :=
  let (now, core) := core.now vif
  let (rc, isoTx) := beginMessage (core.channels i) now
  let core := core.modify i fun channel => { channel with isoTx }
  if rc.isError then txDone vif core i false none
  else core.modify i fun channel => { channel with txActive := true }

/-- `poll_tx`, where a logical channel sends its next frame. -/
def nextTx (core : Core σ) (i : ChannelIndex) : Core σ :=
  let (now, core) := core.now vif
  let (rc, isoTx, frame) := txNext (core.channels i).isoTx now
  let core := core.modify i fun channel => { channel with isoTx }
  match frame with
  | some frame => submitCan vif core i .isotp frame
  | none => if rc.isError then txDone vif core i false none else core

def pollTx (core : Core σ) (i : ChannelIndex) : Core σ :=
  let channel := core.channels i
  let data := channel.tx.data
  let flags := channel.tx.txFlags
  if channel.txLen = 0 then core
  else if channel.parent ≠ 0 then
    if !channel.txActive && channel.flags &&& logicalFullDuplex = 0 &&
        channel.isoRx.state ≠ .idle then core
    else
      let core := if channel.txActive then core else startTx vif core i
      if (core.channels i).txActive then nextTx vif core i else core
  else
    let msg : BusTx := if channel.bus = .can then
        { id := messageId data flags, data := data.drop 4 }
      else { data }
    submitBusTx vif core i .message 0 0 msg
      (if flags &&& flagWaitP3 ≠ 0 then busTxWaitP3MinOnly else 0)

/-- `submit_scheduled`, for the message: on a logical channel it is a single frame. -/
def scheduledTx (core : Core σ) (i : ChannelIndex) (slot : Slot) : Option BusTx × Core σ :=
  let channel := core.channels i
  let data := (channel.scheduler slot).message.data
  let flags := (channel.scheduler slot).message.flags
  if channel.parent ≠ 0 then
    let cfg := messageConfig channel data flags
    let isoTx := (txInit { config := cfg } cfg).2
    let (now, core) := core.now vif
    let (rc, isoTx) := txStart isoTx (data.drop (4 + cfg.addressLength)) now
    if rc.isError then (none, core)
    else
      let (now, core) := core.now vif
      match (txNext isoTx now).2.2 with
      | some frame => (some { id := frame.id, data := frame.data.load 0 frame.dlc }, core)
      | none => (none, core)
  else if channel.bus = .can then
    (some { id := messageId data flags, data := data.drop 4 }, core)
  else (some { data }, core)

def submitScheduled (core : Core σ) (i : ChannelIndex) (slot : Slot) : Core σ :=
  let job := (core.channels i).scheduler slot
  let (msg, core) := scheduledTx vif core i slot
  match msg with
  | none => core.modifyJob i slot fun job => { job with active := false }
  | some msg =>
    let busFlags := (if job.message.flags &&& flagWaitP3 ≠ 0 then busTxWaitP3MinOnly else 0) |||
      (if job.kind ≠ .periodic then busTxCheckRx else 0)
    let core := core.modifyJob i slot fun job =>
      { job with pending := true, transmissionEnded := false }
    submitBusTx vif core i .scheduled job.id job.message.handle msg busFlags

end Code

end OpenDiag.J2534
