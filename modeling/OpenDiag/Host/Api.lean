import OpenDiag.Host.Read
import OpenDiag.J2534.Connect

/-!
# The host's handles

The calls of `api.cpp` that open and close channels, and that start, stop and clear what belongs to
one. The host keeps a handle for each and the firmware an object; every call is one request to the
firmware at most. The device stays open, and every exchange with the firmware completes.
-/

namespace OpenDiag.Host

open J2534

/-! ## Tables -/

/-- A `std::map` from handles. -/
abbrev Handles (α : Type*) := UInt32 → Option α

def Handles.insert {α : Type*} (handles : Handles α) (handle : UInt32) (value : α) : Handles α :=
  Function.update handles handle (some value)

def Handles.erase {α : Type*} (handles : Handles α) (handle : UInt32) : Handles α :=
  Function.update handles handle none

/-- `Channel`. -/
structure HostChannel where
  remote : UInt32
  protocol : UInt32
  parent : UInt32 := 0
  filters : Handles UInt32 := fun _ => none
  periodic : Handles UInt32 := fun _ => none
  repeats : Handles UInt32 := fun _ => none

/-- `opendiag_ProtocolLimit`. -/
structure ProtocolLimit where
  protocol : UInt32
  maxRepeatData : Nat
  deriving DecidableEq, Repr

/-- `Device`; of its capabilities, what limits repeats. -/
structure HostDevice where
  id : UInt32
  remote : UInt32
  repeatPerChannel : UInt32 := 0
  protocols : List ProtocolLimit := []
  disconnected : Bool := false
  channels : Handles HostChannel := fun _ => none

/-- `device` and `nextHandle`, and the firmware at the other end of the link. -/
structure Session (σ : Type*) where
  device : HostDevice
  nextHandle : UInt32
  core : Core (Station σ)

/-! ## Arguments -/

/-- `RESOURCE_STRUCT`. -/
structure Resources where
  connector : UInt32 := 0
  numOfResources : Nat := 0
  resourceList : Option (List UInt32) := none
  deriving DecidableEq, Repr

/-- `ISO15765_CHANNEL_DESCRIPTOR`; each address has five bytes. -/
structure Descriptor where
  localTxFlags : UInt32 := 0
  remoteTxFlags : UInt32 := 0
  localAddress : List UInt8 := []
  remoteAddress : List UInt8 := []
  deriving DecidableEq, Repr

/-- `REPEAT_MSG_SETUP`: the message, its mask and its pattern. -/
structure RepeatMsgSetup where
  timeInterval : UInt32 := 0
  condition : UInt32 := 0
  message : PassthruMsg := {}
  mask : PassthruMsg := {}
  pattern : PassthruMsg := {}
  deriving DecidableEq, Repr

/-- What `clearChannelIoctl` asks for; the lookup table of a driver is not a part of the core. -/
inductive Clearing where
  | txQueue
  | rxQueue
  | periodicMsgs
  | msgFilters
  | busOn
  deriving DecidableEq, Repr

def Clearing.command : Clearing → Command
  | .txQueue => .clearTxQueue
  | .rxQueue => .clearRxQueue
  | .periodicMsgs => .clearPeriodic
  | .msgFilters => .clearFilters
  | .busOn => .busOn

def errNotSupported : UInt32 := 0x01
def errInvalidChannelId : UInt32 := 0x02
def errInvalidMsgId : UInt32 := 0x0d
def errPinNotSupported : UInt32 := 0x13
def errMsgProtocolId : UInt32 := 0x15
def errInvalidFilterId : UInt32 := 0x16
def errNullRequired : UInt32 := 0x1c
def errLogChanNotAllowed : UInt32 := 0x24

/-- `sizeof(opendiag_Message.data.bytes)`. -/
def messageDataMax : Nat := 4128

/-- `encodeMessage`. -/
def encodeMessage (input : PassthruMsg) (channel : HostChannel) : Except UInt32 Message :=
  if input.protocolId ≠ channel.protocol then .error errMsgProtocolId
  else
    match input.dataBuffer with
    | none => .error errNullParameter
    | some data =>
      if input.dataLength = 0 ∨ input.dataLength > input.dataBufferSize ∨
          input.dataLength > messageDataMax then .error errInvalidMsg
      else
        .ok
          { protocol := input.protocolId
            handle := input.msgHandle
            txFlags := input.txFlags
            data := data.take input.dataLength }

/-- `encodeRepeatMessage`. -/
def encodeRepeatMessage (source : PassthruMsg) (channel : HostChannel) (maximum : Nat) :
    Except UInt32 RepeatMessage :=
  if source.protocolId ≠ channel.protocol then .error errMsgProtocolId
  else
    match source.dataBuffer with
    | none => .error errNullParameter
    | some data =>
      if source.dataLength = 0 ∨ source.dataLength > source.dataBufferSize ∨
          source.dataLength > maximum ∨ source.dataLength > repeatDataMax then
        .error errInvalidMsg
      else
        .ok
          { protocol := source.protocolId
            flags := source.txFlags
            handle := source.msgHandle
            data := data.take source.dataLength }

/-! ## Requests -/

/-- What the firmware answers to a request: the status, and the identifier of what it has opened or
started, the last one given. -/
def reply {σ : Type*} (drivers : Drivers σ) (core : Core (Station σ)) : Move → UInt32 × UInt32
  | .connect req =>
    match (connect drivers core req).1 with
    | .ok id => (0, id)
    | .error err => (err.code, 0)
  | .connectLogical physical req =>
    match (connectLogical drivers core physical req).1 with
    | .ok id => (0, id)
    | .error err => (err.code, 0)
  | .disconnect id logical => ((disconnect drivers core id logical).1.code, 0)
  | .link (.request id command) =>
    ((request drivers.vif core id command).1.code,
      (request drivers.vif core id command).2.nextId)
  | .link .poll => (0, 0)

section Calls

variable {σ : Type*} (drivers : Drivers σ)

/-- `rpc`, for an exchange that completes. -/
def Session.rpc (s : Session σ) (req : Move) : UInt32 × UInt32 × Session σ :=
  let (status, id) := reply drivers s.core req
  let s := { s with core := s.core.move drivers req }
  if status = errDeviceNotOpen ∨ status = errInvalidDeviceId then
    (errDeviceNotConnected, 0, { s with device := { s.device with disconnected := true } })
  else (status, id, s)

def Session.newHandle (s : Session σ) : UInt32 × Session σ :=
  let nextHandle := if s.nextHandle + 1 = 0 then 1 else s.nextHandle + 1
  (nextHandle, { s with nextHandle })

/-- `checkDevice`. -/
def Session.checkDevice (s : Session σ) : UInt32 :=
  if s.device.disconnected then errDeviceNotConnected else statusNoError

/-- `checkChannel`. -/
def Session.checkChannel (s : Session σ) (id : UInt32) : Except UInt32 HostChannel :=
  if s.checkDevice ≠ statusNoError then .error s.checkDevice
  else
    match s.device.channels id with
    | none => .error errInvalidChannelId
    | some channel => .ok channel

/-- A channel, behind a change. -/
def Session.setChannel (s : Session σ) (id : UInt32) (channel : HostChannel) : Session σ :=
  { s with device := { s.device with channels := s.device.channels.insert id channel } }

/-! ## Channels -/

/-- `PassThruConnect`, up to its request. -/
def Session.connectRequest (s : Session σ) (id protocol flags baud : UInt32)
    (resources : Resources) (channelId : Bool) : Except UInt32 ConnectRequest :=
  if s.checkDevice ≠ statusNoError then .error s.checkDevice
  else if id ≠ s.device.id then .error errInvalidDeviceId
  else
    match resources.resourceList with
    | none => .error errNullParameter
    | some pins =>
      if channelId = false then .error errNullParameter
      else if resources.numOfResources > 2 ∨ resources.numOfResources = 0 then
        .error errPinNotSupported
      else
        .ok
          { device := s.device.remote
            protocol, flags
            baudrate := baud
            connector := resources.connector
            pins := pins.take resources.numOfResources }

/-- `PassThruConnect`. Where the caller gives a place for an output, the flag is set. -/
def passThruConnect (s : Session σ) (id protocol flags baud : UInt32) (resources : Resources)
    (channelId : Bool) : UInt32 × Session σ :=
  match s.connectRequest id protocol flags baud resources channelId with
  | .error status => (status, s)
  | .ok req =>
    let (status, remote, s) := s.rpc drivers (.connect req)
    if status ≠ statusNoError then (status, s)
    else
      let (handle, s) := s.newHandle
      (statusNoError, s.setChannel handle { remote, protocol })

/-- `PassThruLogicalConnect`. -/
def passThruLogicalConnect (s : Session σ) (physical protocol flags : UInt32)
    (descriptor : Option Descriptor) (channelId legacyChannel : Bool) : UInt32 × Session σ :=
  match s.checkChannel physical with
  | .error status => (status, s)
  | .ok parent =>
    match descriptor with
    | none => (errNullParameter, s)
    | some desc =>
      if channelId = false then (errNullParameter, s)
      else if parent.parent ≠ 0 ∨ parent.protocol ≠ protocolCan ∨ protocol ≠ protocolIsotp then
        (errLogChanNotAllowed, s)
      else
        let (status, remote, s) := s.rpc drivers (.connectLogical parent.remote
          { protocol, flags, legacyChannel
            localFlags := desc.localTxFlags
            remoteFlags := desc.remoteTxFlags
            localAddress := desc.localAddress.take (addressSize desc.localTxFlags)
            remoteAddress := desc.remoteAddress.take (addressSize desc.remoteTxFlags) })
        if status ≠ statusNoError then (status, s)
        else
          let (handle, s) := s.newHandle
          (statusNoError, s.setChannel handle { remote, protocol, parent := physical })

/-- `disconnectChannel`, where the handles of a channel and of those on it are given up. -/
def dropChannel (channels : Handles HostChannel) (id : UInt32) : Handles HostChannel :=
  fun handle =>
  match channels handle with
  | none => none
  | some channel => if handle = id ∨ channel.parent = id then none else some channel

def disconnectChannel (s : Session σ) (id : UInt32) (logical : Bool) : UInt32 × Session σ :=
  match s.checkChannel id with
  | .error status => (status, s)
  | .ok channel =>
    if decide (channel.parent ≠ 0) ≠ logical then (errInvalidChannelId, s)
    else
      let (status, _, s) := s.rpc drivers (.disconnect channel.remote logical)
      (status, if status = statusNoError then
          { s with device := { s.device with channels := dropChannel s.device.channels id } }
        else s)

/-! ## Filters and scheduled messages -/

/-- `PassThruStartPeriodicMsg`. -/
def passThruStartPeriodicMsg (s : Session σ) (id : UInt32) (message : Option PassthruMsg)
    (messageId : Bool) (interval : UInt32) : UInt32 × Session σ :=
  match s.checkChannel id with
  | .error status => (status, s)
  | .ok channel =>
    match message with
    | none => (errNullParameter, s)
    | some message =>
      if messageId = false then (errNullParameter, s)
      else
        match encodeMessage message channel with
        | .error status => (status, s)
        | .ok encoded =>
          let (status, remote, s) := s.rpc drivers (.link (.request channel.remote
            (.startPeriodic { intervalMs := interval, message := some encoded })))
          if status ≠ statusNoError then (status, s)
          else
            let (handle, s) := s.newHandle
            (statusNoError, s.setChannel id
              { channel with periodic := channel.periodic.insert handle remote })

/-- `stopObject`. -/
def stopObject (s : Session σ) (id objectId : UInt32) (filter : Bool) : UInt32 × Session σ :=
  match s.checkChannel id with
  | .error status => (status, s)
  | .ok channel =>
    match (if filter then channel.filters else channel.periodic) objectId with
    | none => (if filter then errInvalidFilterId else errInvalidMsgId, s)
    | some object =>
      let (status, _, s) := s.rpc drivers (.link (.request channel.remote
        (if filter then .stopFilter object else .stopPeriodic object)))
      if status ≠ statusNoError then (status, s)
      else
        (status, s.setChannel id
          (if filter then { channel with filters := channel.filters.erase objectId }
          else { channel with periodic := channel.periodic.erase objectId }))

/-- `PassThruStartMsgFilter`. -/
def passThruStartMsgFilter (s : Session σ) (id type : UInt32) (mask pattern : Option PassthruMsg)
    (filterId : Bool) : UInt32 × Session σ :=
  match s.checkChannel id with
  | .error status => (status, s)
  | .ok channel =>
    match mask, pattern with
    | some mask, some pattern =>
      match mask.dataBuffer, pattern.dataBuffer with
      | some maskData, some patternData =>
        if filterId = false then (errNullParameter, s)
        else if mask.protocolId ≠ channel.protocol ∨ pattern.protocolId ≠ channel.protocol then
          (errMsgProtocolId, s)
        else if mask.dataLength ≠ pattern.dataLength ∨ mask.txFlags ≠ pattern.txFlags ∨
            mask.dataLength = 0 ∨ mask.dataLength > 12 ∨
            mask.dataLength > mask.dataBufferSize ∨
            pattern.dataLength > pattern.dataBufferSize then (errInvalidMsg, s)
        else
          let (status, remote, s) := s.rpc drivers (.link (.request channel.remote (.startFilter
            { type
              flags := mask.txFlags
              mask := maskData.take mask.dataLength
              pattern := patternData.take mask.dataLength })))
          if status ≠ statusNoError then (status, s)
          else
            let (handle, s) := s.newHandle
            (statusNoError, s.setChannel id
              { channel with filters := channel.filters.insert handle remote })
      | _, _ => (errNullParameter, s)
    | _, _ => (errNullParameter, s)

/-- `clearChannelIoctl`. -/
def clearChannelIoctl (s : Session σ) (id : UInt32) (clearing : Clearing) (input output : Bool) :
    UInt32 × Session σ :=
  match s.checkChannel id with
  | .error status => (status, s)
  | .ok channel =>
    if input ∨ output then (errNullRequired, s)
    else
      let (status, _, s) := s.rpc drivers (.link (.request channel.remote clearing.command))
      if status ≠ statusNoError then (status, s)
      else
        match clearing with
        | .msgFilters => (status, s.setChannel id { channel with filters := fun _ => none })
        | .periodicMsgs => (status, s.setChannel id { channel with periodic := fun _ => none })
        | _ => (status, s)

/-- `protocolLimit`. -/
def protocolLimit (device : HostDevice) (protocol : UInt32) : Option ProtocolLimit :=
  device.protocols.find? fun limit => limit.protocol = protocol

/-- `repeatIoctl`, where repeats are not supported. -/
def maxRepeatData (device : HostDevice) (channel : HostChannel) : Except UInt32 Nat :=
  match protocolLimit device channel.protocol with
  | none => .error errNotSupported
  | some limit =>
    if device.repeatPerChannel = 0 ∨ limit.maxRepeatData = 0 then .error errNotSupported
    else .ok limit.maxRepeatData

/-- `repeatIoctl`, where the three messages are encoded in turn. -/
def encodeSetup (setup : RepeatMsgSetup) (channel : HostChannel) (maximum : Nat) :
    Except UInt32 RepeatSetup := do
  let message ← encodeRepeatMessage setup.message channel maximum
  let mask ← encodeRepeatMessage setup.mask channel maximum
  let pattern ← encodeRepeatMessage setup.pattern channel maximum
  return { intervalMs := setup.timeInterval, condition := setup.condition, message, mask, pattern }

/-- `repeatIoctl`, for `START_REPEAT_MESSAGE`. A place is reserved for the handle before there is
anything to name. -/
def startRepeatIoctl (s : Session σ) (id : UInt32) (input : Option RepeatMsgSetup) (output : Bool) :
    UInt32 × Session σ :=
  match s.checkChannel id with
  | .error status => (status, s)
  | .ok channel =>
    match input with
    | none => (errNullParameter, s)
    | some setup =>
      if output = false then (errNullParameter, s)
      else
        match maxRepeatData s.device channel with
        | .error status => (status, s)
        | .ok maximum =>
          match encodeSetup setup channel maximum with
          | .error status => (status, s)
          | .ok encoded =>
            let (handle, s) := s.newHandle
            let reserved := channel.repeats.insert handle 0
            let (status, remote, s) := s.rpc drivers
              (.link (.request channel.remote (.startRepeat encoded)))
            if status ≠ statusNoError then
              (status, s.setChannel id { channel with repeats := reserved.erase handle })
            else
              (statusNoError, s.setChannel id
                { channel with repeats := reserved.insert handle remote })

/-- `repeatIoctl`, for `STOP_REPEAT_MESSAGE`. -/
def stopRepeatIoctl (s : Session σ) (id : UInt32) (input : Option UInt32) (output : Bool) :
    UInt32 × Session σ :=
  match s.checkChannel id with
  | .error status => (status, s)
  | .ok channel =>
    match input with
    | none => (errNullParameter, s)
    | some handle =>
      if output then (errNullRequired, s)
      else
        match maxRepeatData s.device channel with
        | .error status => (status, s)
        | .ok _ =>
          match channel.repeats handle with
          | none => (errInvalidMsgId, s)
          | some object =>
            let (status, _, s) := s.rpc drivers
              (.link (.request channel.remote (.stopRepeat object)))
            if status ≠ statusNoError then (status, s)
            else (status, s.setChannel id { channel with repeats := channel.repeats.erase handle })

/-! ## Runs -/

end Calls

/-- The calls, and the polls of the firmware between them. -/
inductive Call where
  | connect (id protocol flags baud : UInt32) (resources : Resources) (channelId : Bool)
  | logicalConnect (physical protocol flags : UInt32) (descriptor : Option Descriptor)
      (channelId legacyChannel : Bool)
  | disconnect (id : UInt32) (logical : Bool)
  | startPeriodicMsg (id : UInt32) (message : Option PassthruMsg) (messageId : Bool)
      (interval : UInt32)
  | stopObject (id objectId : UInt32) (filter : Bool)
  | startMsgFilter (id type : UInt32) (mask pattern : Option PassthruMsg) (filterId : Bool)
  | clear (id : UInt32) (clearing : Clearing) (input output : Bool)
  | startRepeat (id : UInt32) (input : Option RepeatMsgSetup) (output : Bool)
  | stopRepeat (id : UInt32) (input : Option UInt32) (output : Bool)
  | poll
  deriving DecidableEq, Repr

section Runs

variable {σ : Type*} (drivers : Drivers σ)

def Session.call (s : Session σ) : Call → UInt32 × Session σ
  | .connect id protocol flags baud resources channelId =>
    passThruConnect drivers s id protocol flags baud resources channelId
  | .logicalConnect physical protocol flags descriptor channelId legacyChannel =>
    passThruLogicalConnect drivers s physical protocol flags descriptor channelId legacyChannel
  | .disconnect id logical => disconnectChannel drivers s id logical
  | .startPeriodicMsg id message messageId interval =>
    passThruStartPeriodicMsg drivers s id message messageId interval
  | .stopObject id objectId filter => stopObject drivers s id objectId filter
  | .startMsgFilter id type mask pattern filterId =>
    passThruStartMsgFilter drivers s id type mask pattern filterId
  | .clear id clearing input output => clearChannelIoctl drivers s id clearing input output
  | .startRepeat id input output => startRepeatIoctl drivers s id input output
  | .stopRepeat id input output => stopRepeatIoctl drivers s id input output
  | .poll => (statusNoError, { s with core := s.core.move drivers (.link .poll) })

def Session.step (s : Session σ) (call : Call) : Session σ :=
  (s.call drivers call).2

/-- `PassThruOpen`, on a firmware that has just started: the device has been given an identifier on
either side. -/
def Session.opened (handle nextId repeatPerChannel : UInt32) (protocols : List ProtocolLimit)
    (env : σ) : Session σ :=
  let remote := if nextId + 1 = 0 then 1 else nextId + 1
  let id := if handle + 1 = 0 then 1 else handle + 1
  { device := { id, remote, repeatPerChannel, protocols }
    nextHandle := id
    core := Core.opened remote remote env }

end Runs

end OpenDiag.Host
