import OpenDiag.J2534.Poll

/-!
# Requests

The requests of a client that act on a connected channel, and the runs of the core: requests and
polls in any order.
-/

namespace OpenDiag.J2534

open Isotp

/-! ## Messages -/

section Code

variable {σ : Type*} (vif : Vif σ)

/-- `validate_message`, on CAN and on logical channels. -/
def validateCan (core : Core σ) (i : ChannelIndex) (flags : UInt32) (data : List UInt8)
    (periodic : Bool) : Status :=
  let channel := core.channels i
  let logical := channel.parent ≠ 0
  let allowed := flag29Bit ||| if logical then flagAddr ||| flagPad else 0
  let address := if logical ∧ flags &&& flagAddr ≠ 0 then 5 else 4
  let physical := core.channels ((physicalChannel core i).getD i)
  if data.length < address + (if logical then 1 else 0) ∨ flags &&& ~~~allowed ≠ 0 ∨
      ¬ canIdValid data flags ∨ ¬ canFlagsMatch physical flags then .msg
  else if ¬ logical then if data.length ≤ 12 then .ok else .msg
  else if data.length - address > isotpMaxPayload ∨ (periodic ∧ data.length > 11) then .msg
  else if data.length - address > 7 - (address - 4) ∧
      (flags ≠ channel.remoteFlags ∨ data.take address ≠ channel.remote.take address) then
    .msgNotAllowed
  else if (flags ^^^ channel.remoteFlags) &&& (flagAddr ||| flag29Bit) ≠ 0 then .msgNotAllowed
  else .ok

/-- `validate_message`, on the K-Line. -/
def validateKline (channel : Channel) (flags : UInt32) (data : List UInt8) (periodic : Bool) :
    Status :=
  let disabled := channel.flags &&& flagChecksumDisabled ≠ 0
  if flags &&& ~~~flagWaitP3 ≠ 0 ∨ data.length > 260 - (if disabled then 0 else 1) ∨
      (periodic ∧ data.length > 12) then .msg
  else if channel.protocol = protocolIso14230 then
    let first := data.getD 0 0
    let header := if first &&& 0xc0 ≠ 0 then 3 else 1
    let body := (first &&& 63).toNat
    let extra := if disabled then 1 else 0
    if first &&& 0xc0 = 0x40 ∧ first ≠ 0x48 ∧ first ≠ 0x68 then .msg
    else if body = 0 then
      if data.length ≤ header then .msg
      else
        let body := (data.getD header 0).toNat
        if body = 0 ∨ data.length ≠ header + 1 + body + extra then .msg else .ok
    else if data.length ≠ header + body + extra then .msg
    else .ok
  else .ok

/-- `BUS_P_NODE_ADDRESS`. -/
def busPNodeAddress : UInt32 := 0x04

def validateMessage (core : Core σ) (i : ChannelIndex) (protocol flags : UInt32)
    (data : List UInt8) (periodic : Bool) : Status × Core σ :=
  let channel := core.channels i
  if protocol ≠ channel.protocol then (.msgProtocol, core)
  else if data.length = 0 ∨ data.length > dataMax then (.msg, core)
  else if channel.protocol = protocolCan ∨ channel.parent ≠ 0 then
    (validateCan core i flags data periodic, core)
  else if channel.protocol = protocolPwm then
    if flags ≠ 0 ∨ data.length > 10 ∨ data.length < 3 then (.msg, core)
    else
      let (node, env) := vif.paramGet channel.bus busPNodeAddress core.env
      (if node.toOption ≠ some (data.getD 2 0).toUInt32 then .msg else .ok, { core with env })
  else if channel.protocol = protocolVpw then
    (if flags ≠ 0 ∨ data.length > 11 then .msg else .ok, core)
  else (validateKline channel flags data periodic, core)

def storeTx (core : Core σ) (i : ChannelIndex) (message : Message) : Core σ :=
  core.modify i fun channel => { channel with
    tx :=
      { protocol := message.protocol
        handle := message.handle
        txFlags := message.txFlags
        data := message.data }
    txLen := msgHeader + message.data.length
    stored := channel.stored + 1 }

def queueMessage (core : Core σ) (i : ChannelIndex) (message : Option Message) :
    Status × Core σ :=
  match message with
  | none => (.msg, core)
  | some message =>
    let (rc, core) := validateMessage vif core i message.protocol message.txFlags message.data false
    if rc ≠ .ok then (rc, core)
    else if (core.channels i).txLen ≠ 0 then (.full, core)
    else (.ok, storeTx core i message)

/-- `read_message`, on a channel. -/
def readChannel (core : Core σ) (i : ChannelIndex) : Status × Option Message × Core σ :=
  let (queue, status, message) := readMessage (core.channels i).queue
  (status, message,
    (core.modify i fun channel => { channel with queue }).record (.read i status message))

/-! ## Scheduled messages -/

/-- `opendiag_Periodic`. -/
structure Periodic where
  intervalMs : UInt32 := 0
  message : Option Message := none
  deriving DecidableEq, Repr

def startPeriodic (core : Core σ) (i : ChannelIndex) (periodic : Periodic) : Status × Core σ :=
  match periodic.message with
  | none => (.msg, core)
  | some message =>
    if periodic.intervalMs < 5 ∨ periodic.intervalMs > 65535 then (.interval, core)
    else
      let (rc, core) :=
        validateMessage vif core i message.protocol message.txFlags message.data true
      if rc ≠ .ok then (rc, core)
      else
        match scheduleAllocate (core.channels i).scheduler false with
        | none => (.limit, core)
        | some slot =>
          let (id, core) := newId core
          let (dueUs, core) := core.now vif
          (.ok, core.changeJob i slot .started fun _ =>
            { id, dueUs
              kind := .periodic
              intervalUs := periodic.intervalMs * 1000
              active := true
              message :=
                { flags := message.txFlags, handle := message.handle, data := message.data } })

/-- `j2534_repeat_message_t`; its length is that of its data. -/
structure RepeatMessage where
  protocol : UInt32 := 0
  flags : UInt32 := 0
  handle : UInt32 := 0
  data : List UInt8 := []
  deriving DecidableEq, Repr

/-- `j2534_repeat_setup_t`. -/
structure RepeatSetup where
  intervalMs : UInt32 := 0
  condition : UInt32 := 0
  message : RepeatMessage := {}
  mask : RepeatMessage := {}
  pattern : RepeatMessage := {}
  deriving DecidableEq, Repr

/-- `sizeof(message->data)` of a repeat. -/
def repeatDataMax : Nat := 12

/-- `j2534_core_repeat_start`, on the mask. -/
def validateMask (core : Core σ) (i : ChannelIndex) (mask : RepeatMessage) : Status :=
  let channel := core.channels i
  let logical := channel.parent ≠ 0
  let physical := core.channels ((physicalChannel core i).getD i)
  let matchFlags := if logical then flagAddr ||| flag29Bit ||| flagPad
    else if channel.bus = .can then flag29Bit
    else if channel.bus = .kline then flagWaitP3
    else 0
  let maxMatch := if logical then 11
    else if channel.protocol = protocolPwm then 10
    else if channel.protocol = protocolVpw then 11
    else 12
  if mask.flags &&& ~~~matchFlags ≠ 0 then .flags
  else if channel.bus = .can ∧ ¬ canFlagsMatch physical mask.flags then .flags
  else if logical ∧ (mask.flags &&& flagAddr ≠ 0) ≠ (channel.config.extendedAddress = true) then
    .flags
  else if mask.data.length > maxMatch then .msg
  else .ok

def startRepeat (core : Core σ) (i : ChannelIndex) (setup : RepeatSetup) : Status × Core σ :=
  let channel := core.channels i
  let message := setup.message
  let mask := setup.mask
  let pattern := setup.pattern
  if setup.intervalMs < 5 ∨ setup.intervalMs > 65535 then (.interval, core)
  else if setup.condition > 1 then (.value, core)
  else if message.data.length > repeatDataMax ∨ mask.data.length > repeatDataMax ∨
      mask.data.length = 0 ∨ mask.data.length ≠ pattern.data.length ∨
      mask.flags ≠ pattern.flags then (.msg, core)
  else if mask.protocol ≠ channel.protocol ∨ pattern.protocol ≠ channel.protocol then
    (.msgProtocol, core)
  else
    let (rc, core) := validateMessage vif core i message.protocol message.flags message.data true
    if rc ≠ .ok then (rc, core)
    else if validateMask core i mask ≠ .ok then (validateMask core i mask, core)
    else
      match scheduleAllocate (core.channels i).scheduler true with
      | none => (.limit, core)
      | some slot =>
        let (now, core) := core.now vif
        let (id, core) := newId core
        (.ok, core.changeJob i slot .started fun _ =>
          { id
            kind := if setup.condition ≠ 0 then .whileMatch else .untilMatch
            intervalUs := setup.intervalMs * 1000
            dueUs := now
            createdUs := now
            active := true
            message := { flags := message.flags, handle := message.handle, data := message.data }
            matchFlags := mask.flags &&& (flagAddr ||| flag29Bit)
            mask := mask.data
            pattern := pattern.data })

/-- A scheduled message under way is cancelled when its job is. -/
def discardScheduled (core : Core σ) (i : ChannelIndex) (job : UInt32) : Core σ :=
  match physicalChannel core i with
  | none => core
  | some physical =>
    let pending := (core.channels physical).pending
    if pending.kind = .scheduled ∧ pending.job = job then
      let core := core.modify physical fun channel =>
        { channel with pending := { channel.pending with discard := true } }
      { core with env := vif.txCancel (core.channels physical).bus core.env }
    else core

def stopScheduled (core : Core σ) (i : ChannelIndex) (id : UInt32) (repeats : Bool) :
    Status × Core σ :=
  match scheduleFind (core.channels i).scheduler id with
  | none => (.msgId, core)
  | some slot =>
    if ((core.channels i).scheduler slot).kind ≠ .periodic ↔ repeats then
      (.ok, (discardScheduled vif core i id).modifyJob i slot fun _ => {})
    else (.msgId, core)

/-! ## Filters -/

/-- `opendiag_Filter`, without its channel. -/
structure FilterSetup where
  type : UInt32 := 0
  flags : UInt32 := 0
  mask : List UInt8 := []
  pattern : List UInt8 := []
  deriving DecidableEq, Repr

def startFilter (core : Core σ) (i : ChannelIndex) (setup : FilterSetup) : Status × Core σ :=
  let channel := core.channels i
  let can := channel.protocol = protocolCan
  if channel.parent ≠ 0 then (.filterType, core)
  else if setup.type ≠ filterPass ∧ setup.type ≠ filterBlock then (.filterType, core)
  else if setup.mask.length = 0 ∨
      setup.mask.length > (if channel.protocol = protocolPwm then 10 else 12) ∨
      setup.pattern.length ≠ setup.mask.length then (.msg, core)
  else if setup.flags &&& ~~~(if can then flag29Bit else 0) ≠ 0 ∨
      (can ∧ ¬ canFlagsMatch channel setup.flags) then (.msg, core)
  else
    match channel.filters.findIdx? fun entry => entry.id = 0 with
    | none => (.limit, core)
    | some slot =>
      let (id, core) := newId core
      (.ok, core.modify i fun channel => { channel with
        filters := channel.filters.set slot
          { id, type := setup.type, flags := setup.flags
            mask := setup.mask, pattern := setup.pattern } })

def stopFilter (core : Core σ) (i : ChannelIndex) (id : UInt32) : Status × Core σ :=
  match (core.channels i).filters.findIdx? fun entry => entry.id ≠ 0 ∧ entry.id = id with
  | none => (.filterId, core)
  | some slot =>
    (.ok, core.modify i fun channel => { channel with filters := channel.filters.set slot {} })

/-! ## Configuration -/

def configIsotpBlockSize : UInt32 := 0x1e
def configIsotpStmin : UInt32 := 0x1f
def configIsotpWaitLimit : UInt32 := 0x25
def configIsotpPadValue : UInt32 := 0x2b
def configNAsMax : UInt32 := 0x2c
def configNArMax : UInt32 := 0x2d
def configNBsMax : UInt32 := 0x2e
def configNCrMax : UInt32 := 0x2f

/-- `configure_logical`, where the value of a parameter is looked up. -/
def logicalParam (channel : Channel) (param : UInt32) : Option UInt32 :=
  if param = configIsotpBlockSize then some channel.config.blockSize.toUInt32
  else if param = configIsotpStmin then some channel.config.stmin.toUInt32
  else if param = configIsotpWaitLimit then some channel.config.waitLimit.toUInt32
  else if param = configIsotpPadValue then some channel.config.padValue.toUInt32
  else if param = configNAsMax then some (channel.txTimeoutAUs / 1000)
  else if param = configNArMax then some (channel.config.timeoutAUs / 1000)
  else if param = configNBsMax then some (channel.config.timeoutBsUs / 1000)
  else if param = configNCrMax then some (channel.config.timeoutCrUs / 1000)
  else none

/-- `configure_logical`, where a parameter is given its value. -/
def setLogicalParam (channel : Channel) (param value : UInt32) : Channel :=
  let config := channel.config
  if param = configIsotpBlockSize then
    { channel with config := { config with blockSize := value.toUInt8 } }
  else if param = configIsotpStmin then
    { channel with config := { config with stmin := value.toUInt8 } }
  else if param = configIsotpWaitLimit then
    { channel with config := { config with waitLimit := value.toUInt8 } }
  else if param = configIsotpPadValue then
    { channel with config := { config with padValue := value.toUInt8 } }
  else if param = configNAsMax then { channel with txTimeoutAUs := value * 1000 }
  else if param = configNArMax then
    { channel with config := { config with timeoutAUs := value * 1000 } }
  else if param = configNBsMax then
    { channel with config := { config with timeoutBsUs := value * 1000 } }
  else { channel with config := { config with timeoutCrUs := value * 1000 } }

/-- `isotp_rx_init`, as the core calls it; the buffer is the channel's own. -/
def initReceiver (channel : Channel) : Channel :=
  { channel with
    isoRx := (rxInit channel.isoRx channel.config channel.isoRx.buffer isotpMaxPayload).2 }

def configureLogical (core : Core σ) (i : ChannelIndex) (param : UInt32) (value : Option UInt32) :
    Status × UInt32 × Core σ :=
  let channel := core.channels i
  if value.isSome ∧ (channel.txLen ≠ 0 ∨ channel.isoRx.state ≠ .idle) then (.conflict, 0, core)
  else
    match logicalParam channel param, value with
    | none, _ => (.param, 0, core)
    | some current, none => (.ok, current, core)
    | some _, some value =>
      if (param ≤ configIsotpPadValue ∧ value > 255) ∨
          (param = configIsotpStmin ∧ value > 0x7f ∧ (value < 0xf1 ∨ value > 0xf9)) ∨
          (param ≥ configNAsMax ∧ (value = 0 ∨ value > 60000)) then (.value, value, core)
      else
        (.ok, value, core.modify i fun channel => initReceiver (setLogicalParam channel param value))

def busPDataRate : UInt32 := 0x01
def busPLoopback : UInt32 := 0x31
def busPVendorBase : UInt32 := 0x10000
def busErrUnsupported : Int := -9

/-- `configure_channel`, for the driver's part of the loopback: CAN has none. -/
def setLoopback (core : Core σ) (i : ChannelIndex) (value : UInt32) : Int × Core σ :=
  let channel := core.channels i
  if channel.bus = .can then (0, core)
  else
    let (rc, env) := vif.paramSet channel.bus busPLoopback value core.env
    (rc, { core with env })

/-- `configure_channel`; without a value, the parameter is read. -/
def configureChannel (core : Core σ) (i : ChannelIndex) (param : UInt32) (value : Option UInt32) :
    Status × UInt32 × Core σ :=
  let channel := core.channels i
  if channel.parent ≠ 0 then configureLogical core i param value
  else if param = busPLoopback then
    match value with
    | none => (.ok, channel.echo, core)
    | some value =>
      if value > 1 then (.value, value, core)
      else
        let (rc, core) := setLoopback vif core i value
        if rc ≠ 0 then (.value, value, core)
        else (.ok, value, core.modify i fun channel => { channel with echo := value })
  else if param ≥ busPVendorBase then (.param, 0, core)
  else if param = busPDataRate ∧ channel.bus = .can then
    match value with
    | none => (.ok, channel.rate, core)
    | some value => (if value = channel.rate then .ok else .value, value, core)
  else
    match value with
    | none =>
      let (current, env) := vif.paramGet channel.bus param core.env
      match current with
      | .ok current => (.ok, current, { core with env })
      | .error rc =>
        (if rc = busErrUnsupported then .param else .value, 0, { core with env })
    | some value =>
      let (rc, env) := vif.paramSet channel.bus param value core.env
      let core := { core with env }
      if rc = 0 then
        (.ok, value, if param = busPDataRate then
            core.modify i fun channel => { channel with rate := value }
          else core)
      else (if rc = busErrUnsupported then .param else .value, value, core)

/-- `ioctl_request`, for `SET_CONFIG`: the first parameter that is refused ends it. -/
def setConfig (i : ChannelIndex) : List (UInt32 × UInt32) → Core σ → Status × Core σ
  | [], core => (.ok, core)
  | (param, value) :: rest, core =>
    let (rc, _, core) := configureChannel vif core i param (some value)
    if rc ≠ .ok then (rc, core) else setConfig i rest core

/-! ## Queues -/

def clearTxQueue (core : Core σ) (i : ChannelIndex) : Core σ :=
  (cancelChannelTx vif core i).modify i fun channel =>
    let channel := { channel with txLen := 0, txActive := false }
    if channel.parent ≠ 0 then
      { channel with isoTx := (txInit channel.isoTx channel.config).2 }
    else channel

/-- Repeat conditions still observe what is removed from the queue. -/
def clearRxQueue (core : Core σ) (i : ChannelIndex) : Core σ :=
  let p := (physicalChannel core i).getD i
  let core := pollRx vif core p
  let core := if (core.channels p).rxDrained then core else pollRx vif core p
  core.modify i fun channel =>
    let channel := { channel with
      queue := { channel.queue with rxHead := 0, rxUsed := 0, overflow := false } }
    if channel.parent ≠ 0 then
      initReceiver { channel with
        rxGeneration := channel.rxGeneration + 1
        flowControlPending := false }
    else channel

def clearPeriodic (core : Core σ) (i : ChannelIndex) : Core σ :=
  (List.finRange (2 * scheduleSlots)).foldl (fun core slot =>
    let id := ((core.channels i).scheduler slot).id
    if Slot.isRepeat slot || id = 0 then core
    else (discardScheduled vif core i id).modifyJob i slot fun _ => {}) core

def clearFilters (core : Core σ) (i : ChannelIndex) : Status × Core σ :=
  if (core.channels i).parent ≠ 0 then (.ioctl, core)
  else
    (.ok, core.modify i fun channel => { channel with filters := List.replicate filterMax {} })

def busOn (core : Core σ) (i : ChannelIndex) : Status × Core σ :=
  if (core.channels i).protocol ≠ protocolCan then (.ioctl, core)
  else
    let core := pollRx vif core i
    let (up, env) := vif.busOn (core.channels i).bus core.env
    let core := { core with env }
    if up then (.ok, core.modify i fun channel => { channel with linkDown := false })
    else (.init, core)

/-! ## Runs -/

end Code

/-- The requests on a connected channel. -/
inductive Command where
  | read
  | queue (message : Option Message)
  | startPeriodic (periodic : Periodic)
  | stopPeriodic (id : UInt32)
  | startRepeat (setup : RepeatSetup)
  | stopRepeat (id : UInt32)
  | startFilter (setup : FilterSetup)
  | stopFilter (id : UInt32)
  | setConfig (params : List (UInt32 × UInt32))
  | clearTxQueue
  | clearRxQueue
  | clearPeriodic
  | clearFilters
  | busOn
  deriving DecidableEq, Repr

section Runs

variable {σ : Type*} (vif : Vif σ)

/-- A request on a channel that is live. -/
def perform (core : Core σ) (i : ChannelIndex) : Command → Status × Core σ
  | .read => let (status, _, core) := readChannel core i; (status, core)
  | .queue message => queueMessage vif core i message
  | .startPeriodic periodic => startPeriodic vif core i periodic
  | .stopPeriodic id => stopScheduled vif core i id false
  | .startRepeat setup => startRepeat vif core i setup
  | .stopRepeat id => stopScheduled vif core i id true
  | .startFilter setup => startFilter core i setup
  | .stopFilter id => stopFilter core i id
  | .setConfig params => setConfig vif i params core
  | .clearTxQueue => (.ok, clearTxQueue vif core i)
  | .clearRxQueue => (.ok, clearRxQueue vif core i)
  | .clearPeriodic => (.ok, clearPeriodic vif core i)
  | .clearFilters => clearFilters core i
  | .busOn => busOn vif core i

/-- `dispatch_request`, for the requests on a channel. -/
def request (core : Core σ) (id : UInt32) (command : Command) : Status × Core σ :=
  if core.device = 0 then (.notOpen, core)
  else
    match findChannel core id with
    | none => (.channel, core)
    | some i => if channelIsLive vif core i then perform vif core i command else (.channel, core)

/-- What the link task does with the core: it polls, or serves a request. -/
inductive Op where
  | poll
  | request (id : UInt32) (command : Command)
  deriving DecidableEq, Repr

def Core.step (core : Core σ) : Op → Core σ
  | .poll => corePoll vif core
  | .request id command => (request vif core id command).2

end Runs

/-! ## A scripted vehicle interface -/

/-- What the calls into the vehicle interface answer, in order; a script that has ended answers
with nothing. -/
structure Script where
  clock : List Time := []
  inbox : List (Option BusMsg) := []
  reports : List (Option TxResult) := []
  deriving DecidableEq

/-- The vehicle interface that follows a script. Every bus is open, and takes every transmission
and every parameter. -/
def Script.vif : Vif Script where
  now script := (script.clock.headD 0, { script with clock := script.clock.tail })
  isOpen _ _ := true
  recv _ script := (script.inbox.head?.join, { script with inbox := script.inbox.tail })
  submit _ _ _ _ script := (0, script)
  txPoll _ script := (script.reports.head?.join, { script with reports := script.reports.tail })
  txCancel _ script := script
  busOn _ script := (true, script)
  paramGet _ _ script := (.error busErrUnsupported, script)
  paramSet _ _ _ script := (0, script)

/-- A CAN channel with a logical channel on it, whose peers answer each other's identifiers. -/
def Script.channels (i : ChannelIndex) : Channel :=
  if i.val = 0 then { id := 1, protocol := protocolCan, bus := .can, rate := 500000 }
  else if i.val = physicalMax then
    { id := 2, parent := 1, protocol := protocolIsotp, bus := .can
      config := configDefault 0x7e0 0x7e8
      txTimeoutAUs := isotpDefaultTimeoutUs
      remote := [0, 0, 7, 0xe0]
      isoRx :=
        { config := configDefault 0x7e0 0x7e8, buffer := some [], capacity := isotpMaxPayload }
      isoTx := { config := configDefault 0x7e0 0x7e8 } }
  else { isoRx := { config := configDefault 0 0, buffer := none, capacity := isotpMaxPayload } }

/-- An open device with these channels. -/
def Script.core (script : Script) : Core Script :=
  { channels := Script.channels, device := 1, env := script }

end OpenDiag.J2534
