import OpenDiag.Legacy.Calls

/-!
# The 04.04 library

The calls of `legacy.cpp` on filters and on messages that are repeated, and the table of channels
that all calls go through. Five-baud and fast initialization, the lookup tables, and what only asks
for values change nothing here.
-/

namespace OpenDiag.Legacy

open OpenDiag.Action

/-! ## Filters -/

/-- `PassThruStartMsgFilter`: two conversations share an address. -/
def IsoEndpoint.clashes (existing peer : IsoEndpoint) : Bool :=
  let length := addressSize peer.flow
  existing.flow.txFlags &&& addressFlags = peer.flow.txFlags &&& addressFlags ∧
    (existing.pattern.data.load 0 length = peer.pattern.data.load 0 length ∨
      existing.flow.data.load 0 length = peer.flow.data.load 0 length ∨
      existing.pattern.data.load 0 length = peer.flow.data.load 0 length ∨
      existing.flow.data.load 0 length = peer.pattern.data.load 0 length)

/-- `PassThruStartMsgFilter`: two conversations are the same. -/
def IsoEndpoint.same (existing peer : IsoEndpoint) : Bool :=
  let length := addressSize peer.flow
  existing.flow.txFlags &&& addressFlags = peer.flow.txFlags &&& addressFlags ∧
    existing.flow.txFlags = peer.flow.txFlags ∧ existing.pattern.txFlags = peer.pattern.txFlags ∧
    existing.flow.data.load 0 length = peer.flow.data.load 0 length ∧
    existing.pattern.data.load 0 length = peer.pattern.data.load 0 length

/-- `PassThruStartMsgFilter`, for the endpoints that are kept: the first that is the same, unless
one before it clashes. -/
def keptEndpoint (peer : IsoEndpoint) : List (Handle × IsoEndpoint) → Except UInt32 (Option Handle)
  | [] => .ok none
  | (handle, existing) :: rest =>
    if existing.same peer then .ok (some handle)
    else if existing.clashes peer then .error errNotUnique
    else keptEndpoint peer rest

/-- `native::ISO15765_CHANNEL_DESCRIPTOR` of a filter. -/
def descriptor (pattern flow : PassthruMsg) : Descriptor where
  localTxFlags := pattern.txFlags &&& addressFlags
  remoteTxFlags := flow.txFlags
  localAddress := pattern.data.load 0 pattern.dataSize
  remoteAddress := flow.data.load 0 flow.dataSize

section Calls

variable {ν : Type} (backend : Backend ν)

/-- `setNativeConfig`. -/
def setNativeConfig (endpoint parameter : Handle) (value : UInt32) :
    Action (Scene ν) Exit Unit := do
  let reply ← native backend (.setConfig endpoint parameter value)
  translate reply.status

/-- `PassThruStartMsgFilter`, where a new endpoint could not be configured. -/
def abandon (endpoint : Handle) (scene : Scene ν) : Scene ν :=
  let (reply, after) := backend (.logicalDisconnect endpoint) scene.native
  { scene with
    native := after
    abandoned :=
      if reply.status = statusNoError then scene.abandoned else endpoint :: scene.abandoned }

/-- `PassThruStartMsgFilter`, for a conversation that has no endpoint. -/
def connectEndpoint (pattern flow : PassthruMsg) : Action (Scene ν) Exit Handle := do
  let channel ← look Scene.channel
  let reply ← native backend (.logicalConnect channel.physical (descriptor pattern flow))
  translate reply.status
  change fun scene => { scene with abandoned := scene.abandoned.filter (· ≠ reply.handle) }
  let _ ← onError
    (forEach (fun config : Handle × UInt32 => do
        setNativeConfig backend reply.handle config.1 config.2
        pure false) channel.isoConfig.entries)
    (abandon backend reply.handle)
  alter fun channel =>
    { channel with
      logicalEndpoints := channel.logicalEndpoints.insert reply.handle ⟨pattern, flow⟩ }
  pure reply.handle

/-- `PassThruStartMsgFilter`, for the endpoint of a conversation. What one that is kept received
without a filter stays hidden. -/
def acquireEndpoint (pattern flow : PassthruMsg) : Action (Scene ν) Exit Handle := do
  releaseUnusedEndpoints backend
  let channel ← look Scene.channel
  match keptEndpoint ⟨pattern, flow⟩ channel.logicalEndpoints.entries with
  | .error status => fail (.status status)
  | .ok kept =>
    if kept.getD 0 ≠ 0 then do
      let reply ← native backend (.clear (kept.getD 0) .rxBuffer)
      translate reply.status
      pure (kept.getD 0)
    else connectEndpoint backend pattern flow

/-- `PassThruStartMsgFilter`, for what it checks of a flow control filter. -/
def flowControlStatus (channel : Channel) (type : UInt32) (mask pattern : PassthruMsg)
    (flow : Option PassthruMsg) : Except UInt32 PassthruMsg :=
  if type ≠ flowControlFilter then .error errInvalidFilterId
  else
    match flow with
    | none => .error errNullParameter
    | some flow =>
      if flow.protocolId ≠ iso15765 then .error errMsgProtocolId
      else if flow.dataSize ≠ mask.dataSize ∨ flow.txFlags ≠ mask.txFlags ∨
          mask.dataSize ≠ addressSize mask then .error errInvalidMsg
      else if mask.txFlags &&& ~~~(addressFlags ||| iso15765FramePad) ≠ 0 then
        .error errInvalidFlags
      else if (mask.data.load 0 mask.dataSize).any (· ≠ 0xff) then .error errNotSupported
      else if channel.filters.entries.any fun entry => entry.2.peer.clashes ⟨pattern, flow⟩ then
        .error errNotUnique
      else .ok flow

/-- `PassThruStartMsgFilter`, for the filter and what stands behind it. -/
def makeFilter (type : UInt32) (mask pattern : PassthruMsg) (flow : Option PassthruMsg) :
    Action (Scene ν) Exit Filter := do
  let channel ← look Scene.channel
  if channel.protocol ≠ iso15765 then do
    refuse (type ≠ passFilter ∧ type ≠ blockFilter) (.status errInvalidFilterId)
    let plain (message : PassthruMsg) : NativeMsg :=
      let encoded := encodeMessage message channel.protocol 0
      if channel.protocol = iso9141 ∨ channel.protocol = iso14230 then
        { encoded with txFlags := encoded.txFlags &&& ~~~waitP3MinOnly }
      else encoded
    let reply ← native backend (.startMsgFilter channel.physical type (plain mask) (plain pattern))
    translate reply.status
    pure { type, nativeId := reply.handle, endpoint := channel.physical, pattern }
  else
    match flowControlStatus channel type mask pattern flow with
    | .error status => fail (.status status)
    | .ok flow => do
      let endpoint ← acquireEndpoint backend pattern flow
      pure { type, endpoint, pattern, flow }

/-- `PassThruStartMsgFilter`. -/
def startMsgFilter (type : UInt32) (mask pattern : PassthruMsg) (flow : Option PassthruMsg) :
    Action (Scene ν) Exit Unit := do
  let channel ← look Scene.channel
  refuse (mask.protocolId ≠ channel.protocol ∨ pattern.protocolId ≠ channel.protocol)
    (.status errMsgProtocolId)
  refuse (mask.dataSize = 0 ∨ mask.dataSize > 12 ∨ mask.dataSize ≠ pattern.dataSize ∨
    mask.txFlags ≠ pattern.txFlags) (.status errInvalidMsg)
  let filter ← makeFilter backend type mask pattern flow
  let handle ← allocateId
  alter fun channel => { channel with filters := channel.filters.insert handle filter }

/-- `drainEndpoint`. -/
def drainEndpoint (endpoint : Handle) : Nat → Action (Scene ν) Exit Unit
  | 0 => alter fun channel => { channel with overflow := true }
  | turns + 1 => do
    let received ← readNative backend endpoint
    let overflow ← look fun scene => scene.channel.overflow
    if received = false then pure ()
    else if overflow = true then pure ()
    else drainEndpoint endpoint turns

/-- `PassThruStopMsgFilter`, for what stands behind the filter. -/
def endFilter (filter : Filter) : Action (Scene ν) Exit Unit :=
  if filter.type = flowControlFilter then do
    drainEndpoint backend filter.endpoint maxRxMessages
    let needed ← look fun scene => endpointNeededByTransmissions scene.channel filter.endpoint
    if needed then pure ()
    else do
      let reply ← native backend (.logicalDisconnect filter.endpoint)
      translate reply.status
      alter fun channel =>
        { channel with logicalEndpoints := channel.logicalEndpoints.erase filter.endpoint }
  else do
    let physical ← look fun scene => scene.channel.physical
    let reply ← native backend (.stopMsgFilter physical filter.nativeId)
    translate reply.status

/-- `PassThruStopMsgFilter`. -/
def stopMsgFilter (filterId : Handle) : Action (Scene ν) Exit Unit := do
  match ← look fun scene => scene.channel.filters.find? filterId with
  | none => fail (.status errInvalidFilterId)
  | some filter => do
    endFilter backend filter
    alter fun channel => { channel with filters := channel.filters.erase filterId }

/-! ## Messages that are repeated -/

/-- `PassThruStartPeriodicMsg`. -/
def startPeriodicMsg (message : PassthruMsg) (interval : UInt32) : Action (Scene ν) Exit Unit := do
  let protocol ← look fun scene => scene.channel.protocol
  refuse (protocol = iso15765 ∧ message.dataSize > 11) (.status errInvalidMsg)
  let token ← allocateId
  let (endpoint, encoded) ← route message token
  checkTransmissionCapacity backend
  let reply ← native backend (.startPeriodicMsg endpoint encoded interval)
  translate reply.status
  alter fun channel =>
    { channel with
      transmissions := channel.transmissions.insert token
        { message, endpoint, kind := .periodic, nativeId := reply.handle } }

/-- A transmission of some kind. -/
def findTransmission (token : Handle) (kind : TransmissionKind) :
    Action (Scene ν) Exit Transmission := do
  match ← look fun scene => scene.channel.transmissions.find? token with
  | none => fail (.status errInvalidMsgId)
  | some transmission => do
    refuse (transmission.kind ≠ kind) (.status errInvalidMsgId)
    pure transmission

/-- `PassThruStopPeriodicMsg`. -/
def stopPeriodicMsg (messageId : Handle) : Action (Scene ν) Exit Unit := do
  let transmission ← findTransmission messageId .periodic
  let reply ← native backend (.stopPeriodicMsg transmission.endpoint transmission.nativeId)
  translate reply.status
  change (forget messageId)
  releaseUnusedEndpoints backend

/-- `REPEAT_MSG_SETUP`: the message, its mask and its pattern. -/
structure RepeatMsgSetup where
  timeInterval : UInt32
  condition : UInt32
  message : PassthruMsg
  mask : PassthruMsg
  pattern : PassthruMsg

/-- `repeatIoctl`: how many messages a channel may repeat. -/
def repeatCapacity : Action (Scene ν) Exit Nat := do
  let protocol ← look fun scene => scene.channel.protocol
  let reply ← native backend
    (.maxRepeatMessaging (if protocol = iso15765 then iso15765Logical else protocol))
  translate reply.status
  refuse (reply.value = 0) (.status errNotSupported)
  pure reply.value.toNat

/-- `repeatIoctl`: what is checked of a message. -/
def repeatStatus (channel : Channel) (message : PassthruMsg) : UInt32 :=
  if message.protocolId ≠ channel.protocol then errMsgProtocolId
  else if message.dataSize = 0 ∨ message.dataSize > 12 then errInvalidMsg
  else statusNoError

/-- `repeatIoctl`: a flag that is not allowed is an invalid message. -/
def repeatError (status : UInt32) : UInt32 :=
  if status = errInvalidFlags then errInvalidMsg else status

/-- `repeatIoctl`, for `START_REPEAT_MESSAGE`, behind its checks. -/
def handRepeat (setup : RepeatMsgSetup) (token endpoint : Handle) (messages : List NativeMsg) :
    Action (Scene ν) Exit Unit := do
  -- an entry that is there is kept
  alter fun channel =>
    if channel.transmissions.contains token then channel
    else
      { channel with
        transmissions := channel.transmissions.insert token
          { message := setup.message, endpoint, kind := .repeated } }
  let reply ← native backend
    (.startRepeat endpoint ⟨setup.timeInterval, setup.condition, messages⟩)
  if reply.status = statusNoError then
    change (amend token fun transmission => { transmission with nativeId := reply.handle })
  else do
    change (forget token)
    change fun scene =>
      { scene with
        disconnected := scene.disconnected || decide (reply.status = errDeviceNotConnected) }
    fail (.status (repeatError (translation reply.status)))

/-- `repeatIoctl`, for `START_REPEAT_MESSAGE`. -/
def startRepeat (setup : RepeatMsgSetup) : Action (Scene ν) Exit Unit := do
  let capacity ← repeatCapacity backend
  let channel ← look Scene.channel
  let _ ← forEach (fun message => do
      refuse (repeatStatus channel message ≠ statusNoError)
        (.status (repeatStatus channel message))
      pure false) [setup.message, setup.mask, setup.pattern]
  let token ← allocateId
  match routeMessage channel setup.message token with
  | .error status => fail (.status (repeatError status))
  | .ok (endpoint, encoded) => do
    refuse (channel.protocol = iso15765 ∧ endpoint = channel.physical) (.status errNoFlowControl)
    let protocol := if channel.protocol = iso15765 then iso15765Logical else channel.protocol
    refuse ((channel.transmissions.entries.countP fun entry => entry.2.kind = .repeated) ≥ capacity)
      (.status errExceededLimit)
    checkTransmissionCapacity backend
    handRepeat backend setup token endpoint
      [encoded, encodeMessage setup.mask protocol 0, encodeMessage setup.pattern protocol 0]

/-- `repeatIoctl`, for `STOP_REPEAT_MESSAGE`. -/
def stopRepeat (token : Handle) : Action (Scene ν) Exit Unit := do
  let _ ← repeatCapacity backend
  let transmission ← findTransmission token .repeated
  let reply ← native backend (.stopRepeat transmission.endpoint transmission.nativeId)
  translate reply.status
  change (forget token)
  releaseUnusedEndpoints backend

/-! ## Settings -/

def loopbackParameter : Handle := 0x03
def dataRate : Handle := 0x01
def bsTx : Handle := 0x22
def stminTx : Handle := 0x23
def j1962Pins : Handle := 0x8001

/-- `configurationIoctl`: the pins of a channel. -/
def pins (channel : Channel) : UInt32 :=
  if channel.protocol = can ∨ channel.protocol = iso15765 then 0x060e
  else if channel.protocol = j1850Pwm then 0x020a
  else if channel.protocol = j1850Vpw then 0x0200
  else if channel.flags &&& iso9141KLineOnly ≠ 0 then 0x0700
  else 0x070f

/-- `configurationIoctl`, for a parameter that every endpoint has. -/
def setIsoConfig (parameter : Handle) (value : UInt32) : Action (Scene ν) Exit Unit := do
  refuse (value > 255 ∨ (parameter = iso15765Stmin ∧ value > 0x7f ∧ (value < 0xf1 ∨ value > 0xf9)))
    (.status errInvalidIoctlValue)
  let entries ← look fun scene => scene.channel.logicalEndpoints.entries
  let _ ← forEach (fun entry : Handle × IsoEndpoint => do
      setNativeConfig backend entry.1 parameter value
      pure false) entries
  alter fun channel => { channel with isoConfig := channel.isoConfig.insert parameter value }

/-- `configurationIoctl`, for `SET_CONFIG` of one parameter. -/
def setConfig (config : Handle × UInt32) : Action (Scene ν) Exit Bool := do
  let (parameter, value) := config
  let channel ← look Scene.channel
  if parameter = loopbackParameter then do
    refuse (value > 1) (.status errInvalidIoctlValue)
    alter fun channel => { channel with loopback := decide (value ≠ 0) }
    pure false
  else if parameter = j1962Pins then do
    refuse (value ≠ pins channel) (.status errNotSupported)
    pure false
  else if channel.protocol = iso15765 ∧ channel.isoConfig.contains parameter then do
    setIsoConfig backend parameter value
    pure false
  else if channel.protocol = iso15765 ∧ (parameter = bsTx ∨ parameter = stminTx) then do
    refuse (value ≠ 0xffff) (.status errNotSupported)
    pure false
  else do
    refuse (channel.protocol = iso15765 ∧ parameter ≠ dataRate) (.status errInvalidIoctlValue)
    setNativeConfig backend channel.physical parameter value
    pure false

/-- `configurationIoctl`, for `SET_CONFIG`. -/
def setConfigs (configs : List (Handle × UInt32)) : Action (Scene ν) Exit Unit := do
  let _ ← forEach (setConfig backend) configs
  pure ()

/-! ## Clearing -/

/-- `clearIoctl`, for the filters; each is stopped by a call of its own. -/
def clearFilters (fuel : Nat) : Action (Scene ν) Exit Unit :=
  again .running (do
    match ← look fun scene => scene.channel.filters.entries with
    | [] => pure (some ())
    | (filterId, _) :: _ => do
      probe backend
      stopMsgFilter backend filterId
      pure none) fuel

/-- `clearIoctl`: what is left of a transmission. -/
def Clearing.spares (clearing : Clearing) (transmission : Transmission) : Bool :=
  ¬ (clearing = .periodicMsgs ∧ transmission.kind = .periodic ∨
    clearing = .txBuffer ∧ transmission.kind = .once)

/-- `clearIoctl`: what it does to the channel. -/
def cleared (clearing : Clearing) (channel : Channel) : Channel :=
  let channel :=
    if clearing = .rxBuffer then
      { channel with received := [], receiveBytes := 0, overflow := false, receiveError := 0 }
    else channel
  { channel with transmissions := channel.transmissions.filter clearing.spares }

/-- `clearIoctl`. -/
def clear (clearing : Clearing) : Action (Scene ν) Exit Unit := do
  let targets ← look fun scene => endpoints scene.channel
  let _ ← forEach (fun endpoint => do
      let reply ← native backend (.clear endpoint clearing)
      translate reply.status
      pure false) targets
  alter (cleared clearing)
  releaseUnusedEndpoints backend

end Calls

/-! ## The library -/

/-- What the library keeps from call to call. -/
structure Library (ν : Type) where
  disconnected : Bool := false
  nextId : Handle := 0x400000
  channels : OrderedMap Handle Channel := .empty
  native : ν
  abandoned : List Handle := []

/-- A call. -/
inductive Call where
  | connect (protocol flags baudrate : UInt32)
  | disconnect (id : Handle)
  | readMsgs (id : Handle) (requested : Nat) (timeout : UInt32)
  | writeMsgs (id : Handle) (messages : List PassthruMsg) (timeout : UInt32)
  | startMsgFilter (id : Handle) (type : UInt32) (mask pattern : PassthruMsg)
    (flow : Option PassthruMsg)
  | stopMsgFilter (id filterId : Handle)
  | startPeriodicMsg (id : Handle) (message : PassthruMsg) (interval : UInt32)
  | stopPeriodicMsg (id messageId : Handle)
  | startRepeat (id : Handle) (setup : RepeatMsgSetup)
  | stopRepeat (id token : Handle)
  | setConfigs (id : Handle) (configs : List (Handle × UInt32))
  | clear (id : Handle) (clearing : Clearing)
  | clearFilters (id : Handle)

section Library

variable {ν : Type} (backend : Backend ν)

/-- `PassThruConnect`: the native protocol and the pins of a channel. -/
def resources (protocol flags : UInt32) : Option (UInt32 × List Nat) :=
  if protocol = can ∨ protocol = iso15765 then some (can, [6, 14])
  else if protocol = j1850Pwm then some (protocol, [2, 10])
  else if protocol = j1850Vpw then some (protocol, [2])
  else if protocol = iso9141 ∨ protocol = iso14230 then
    some (protocol, if flags &&& iso9141KLineOnly = 0 then [7, 15] else [7])
  else none

/-- `PassThruConnect`; the handle of the new channel is the last identifier. -/
def Library.connect (s : Library ν) (protocol flags baudrate : UInt32) :
    Except Exit Unit × Library ν :=
  match resources protocol flags with
  | none => (.error (.status errInvalidProtocolId), s)
  | some (nativeProtocol, pins) =>
    let (reply, after) := backend (.connect nativeProtocol flags baudrate pins) s.native
    let s := { s with native := after }
    -- a conflict is reported without `translate`
    if reply.status = errResourceConflict then (.error (.status errInvalidProtocolId), s)
    else if reply.status ≠ statusNoError then
      (.error (.status (translation reply.status)),
        { s with disconnected := s.disconnected || decide (reply.status = errDeviceNotConnected) })
    else
      let handle := following s.nextId
      (.ok (),
        { s with
          nextId := handle
          channels :=
            s.channels.insert handle { physical := reply.handle, protocol, flags, baudrate } })

/-- `findChannel`, and what a call does with the channel. -/
def Library.onChannel (s : Library ν) (id : Handle) (act : Action (Scene ν) Exit Unit) :
    Except Exit Unit × Library ν :=
  if s.disconnected then (.error (.status errDeviceNotConnected), s)
  else
    match s.channels.find? id with
    | none => (.error (.status errInvalidChannelId), s)
    | some channel =>
      let (result, scene) := (probe backend >>= fun _ => act)
        { channel, disconnected := s.disconnected, nextId := s.nextId, native := s.native,
          abandoned := s.abandoned }
      (result,
        { disconnected := scene.disconnected
          nextId := scene.nextId
          channels := s.channels.insert id scene.channel
          native := scene.native
          abandoned := scene.abandoned })

/-- `PassThruDisconnect`, for the native channel. -/
def disconnectNative : Action (Scene ν) Exit Unit := do
  let physical ← look fun scene => scene.channel.physical
  let reply ← native backend (.disconnect physical)
  translate reply.status

/-- `PassThruDisconnect`. -/
def Library.disconnect (s : Library ν) (id : Handle) : Except Exit Unit × Library ν :=
  match s.onChannel backend id (disconnectNative backend) with
  | (.ok _, next) => (.ok (), { next with channels := next.channels.erase id })
  | (.error exit, next) => (.error exit, next)

/-- A call; of one that waits, `fuel` turns of a loop. -/
def Library.call (fuel : Nat) (s : Library ν) : Call → Except Exit Unit × Library ν
  | .connect protocol flags baudrate => s.connect backend protocol flags baudrate
  | .disconnect id => s.disconnect backend id
  | .readMsgs id requested timeout =>
    s.onChannel backend id (readMsgs backend requested timeout fuel)
  | .writeMsgs id messages timeout =>
    s.onChannel backend id (writeMsgs backend messages timeout fuel)
  | .startMsgFilter id type mask pattern flow =>
    s.onChannel backend id (startMsgFilter backend type mask pattern flow)
  | .stopMsgFilter id filterId => s.onChannel backend id (stopMsgFilter backend filterId)
  | .startPeriodicMsg id message interval =>
    s.onChannel backend id (startPeriodicMsg backend message interval)
  | .stopPeriodicMsg id messageId => s.onChannel backend id (stopPeriodicMsg backend messageId)
  | .startRepeat id setup => s.onChannel backend id (startRepeat backend setup)
  | .stopRepeat id token => s.onChannel backend id (stopRepeat backend token)
  | .setConfigs id configs => s.onChannel backend id (setConfigs backend configs)
  | .clear id clearing => s.onChannel backend id (clear backend clearing)
  | .clearFilters id => s.onChannel backend id (clearFilters backend fuel)

/-- The library behind a call. -/
def Library.step (s : Library ν) (call : Nat × Call) : Library ν :=
  (s.call backend call.1 call.2).2

end Library

end OpenDiag.Legacy
