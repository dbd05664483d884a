import OpenDiag.Legacy.Channel
import OpenDiag.Lib.Action
import OpenDiag.Lib.Run

/-!
# Calls of the 04.04 library

The calls of `legacy.cpp` that make, use and end channels, filters and transmissions. The native
library answers one request after the other; a call that waits asks again until it has what it waits
for or its time is over. The device stays open.
-/

namespace OpenDiag.Legacy

open OpenDiag.Action

/-! ## The native library -/

/-- `native::ISO15765_CHANNEL_DESCRIPTOR`. -/
structure Descriptor where
  localTxFlags : UInt32
  remoteTxFlags : UInt32
  localAddress : List UInt8
  remoteAddress : List UInt8
  deriving DecidableEq, Repr

/-- What `clearIoctl` clears in the native library. -/
inductive Clearing where
  | txBuffer
  | rxBuffer
  | periodicMsgs
  deriving DecidableEq, Repr

/-- `native::REPEAT_MSG_SETUP`. -/
structure NativeSetup where
  timeInterval : UInt32
  condition : UInt32
  messages : List NativeMsg
  deriving DecidableEq, Repr

/-- The entries of `Backend` that are used, and the clock of the platform. -/
inductive Request where
  | milliseconds
  | connect (protocol flags baudrate : UInt32) (pins : List Nat)
  | disconnect (channel : Handle)
  | logicalConnect (physical : Handle) (descriptor : Descriptor)
  | logicalDisconnect (channel : Handle)
  | readMsgs (channel : Handle) (count : Nat)
  | select (channels : List Handle)
  | queueMsgs (channel : Handle) (message : NativeMsg)
  | startPeriodicMsg (channel : Handle) (message : NativeMsg) (interval : UInt32)
  | stopPeriodicMsg (channel id : Handle)
  | startMsgFilter (channel : Handle) (type : UInt32) (mask pattern : NativeMsg)
  | stopMsgFilter (channel id : Handle)
  | setConfig (channel parameter : Handle) (value : UInt32)
  | clear (channel : Handle) (clearing : Clearing)
  | maxRepeatMessaging (protocol : UInt32)
  | startRepeat (channel : Handle) (setup : NativeSetup)
  | stopRepeat (channel id : Handle)
  deriving DecidableEq, Repr

/-- What an entry gives: its status, and what else it returns. -/
structure Reply where
  status : UInt32 := statusNoError
  handle : Handle := 0
  value : UInt32 := 0
  message : Option NativeMsg := none
  ready : List Handle := []
  deriving DecidableEq, Repr

/-- `Backend`. -/
abbrev Backend (ν : Type) := Request → ν → Reply × ν

/-! ## States -/

/-- Why a call ends: with a status, or not yet. -/
inductive Exit where
  | status (code : UInt32)
  | running
  deriving DecidableEq, Repr

/-- What a call on a channel works on: the channel, what it writes for the caller, and the rest of
the library. Nothing reads `abandoned`: it has the logical channels that could not be given back,
until the native library gives their handles to others. -/
structure Scene (ν : Type) where
  channel : Channel
  count : Nat := 0
  messages : List PassthruMsg := []
  disconnected : Bool
  nextId : Handle
  native : ν
  abandoned : List Handle

section Calls

variable {ν : Type} (backend : Backend ν)

/-- A call of the native library. -/
def native (req : Request) : Action (Scene ν) Exit Reply :=
  ask fun scene =>
    let (reply, after) := backend req scene.native
    (reply, { scene with native := after })

/-- The channel is changed. -/
def alter (update : Channel → Channel) : Action (Scene ν) Exit Unit :=
  change fun scene => { scene with channel := update scene.channel }

/-- The status that a native one becomes. -/
def translation (status : UInt32) : UInt32 :=
  if status = 0x1b then errInvalidDeviceId
  else if status = 0x1c ∨ status = 0x1e then errInvalidIoctlValue
  else if status = 0x1d then errInvalidFilterId
  else if status = 0x1f ∨ status = 0x20 then errPinInvalid
  else if status = 0x21 then errFailed
  else if status = 0x22 then errDeviceNotConnected
  else if status = 0x23 ∨ status = 0x27 then errInvalidMsg
  else if status = 0x24 ∨ status = 0x25 then errNotSupported
  else if status = 0x26 then errFailed
  else if status ≤ errInvalidDeviceId then status
  else errFailed

/-- `translate`, where the call returns what is not zero. -/
def translate (status : UInt32) : Action (Scene ν) Exit Unit :=
  if status = statusNoError then pure ()
  else do
    change fun scene =>
      { scene with disconnected := scene.disconnected || decide (status = errDeviceNotConnected) }
    fail (.status (translation status))

/-- `allocateId`. -/
def following (nextId : Handle) : Handle :=
  let next := (nextId + 1) % 2 ^ 32
  if next = 0 then 1 else next

/-- `allocateId`. -/
def allocateId : Action (Scene ν) Exit Handle :=
  ask fun scene => (following scene.nextId, { scene with nextId := following scene.nextId })

/-- Whether `timeout` milliseconds have passed since `start`. -/
def elapsed (start timeout : UInt32) : Action (Scene ν) Exit Bool := do
  let reply ← native backend .milliseconds
  pure (decide (reply.value - start ≥ timeout))

/-- `findChannel`, for a channel that is there. -/
def probe : Action (Scene ν) Exit Unit := do
  let disconnected ← look Scene.disconnected
  refuse (disconnected = true) (.status errDeviceNotConnected)
  let physical ← look fun scene => scene.channel.physical
  let reply ← native backend (.readMsgs physical 0)
  translate reply.status

/-! ## Receiving -/

/-- `releaseUnusedEndpoints`, for one of them. -/
def releaseEndpoint (endpoint : Handle) : Action (Scene ν) Exit Bool := do
  let needed ← look fun scene =>
    endpointHasFilter scene.channel endpoint || endpointNeededByTransmissions scene.channel endpoint
  if needed then pure false
  else do
    let reply ← native backend (.logicalDisconnect endpoint)
    translate reply.status
    alter fun channel =>
      { channel with logicalEndpoints := channel.logicalEndpoints.erase endpoint }
    pure false

/-- `releaseUnusedEndpoints`. -/
def releaseUnusedEndpoints : Action (Scene ν) Exit Unit := do
  let entries ← look fun scene => scene.channel.logicalEndpoints.entries
  let _ ← forEach (releaseEndpoint backend) (entries.map Prod.fst)
  pure ()

/-- `readNative`, where there is a message. -/
def takeNative (endpoint : Handle) (message : NativeMsg) : Action (Scene ν) Exit Bool := do
  alter fun channel =>
    { receiveNative channel endpoint message with lastReadEndpoint := endpoint }
  releaseUnusedEndpoints backend
  look fun scene =>
    decide (endpoint = scene.channel.physical) || scene.channel.logicalEndpoints.contains endpoint

/-- `readNative`: whether a message was received. -/
def readNative (endpoint : Handle) : Action (Scene ν) Exit Bool := do
  let reply ← native backend (.readMsgs endpoint 1)
  if reply.status = errBufferEmpty then pure false
  else do
    if reply.status = errBufferOverflow then
      alter fun channel => { channel with overflow := true }
    else translate reply.status
    match reply.message with
    | none => pure false
    | some message => takeNative backend endpoint message

/-- `pump`, for one endpoint: whether the call is over. -/
def drain (wanted : Nat) (start timeout : UInt32) (endpoint : Handle) :
    Nat → Action (Scene ν) Exit Bool
  | 0 => pure false
  | turns + 1 => do
    let late ← if timeout = 0 then pure false else elapsed backend start timeout
    if late then pure true
    else do
      let received ← readNative backend endpoint
      let channel ← look Scene.channel
      if wanted ≠ 0 ∧ (channel.received.length ≥ wanted ∨ channel.overflow = true ∨
          channel.receiveError ≠ 0) then pure true
      else if wanted = 0 ∧ channel.transmissions.size < maxTxMessages then pure true
      else if received = false then pure false
      else drain wanted start timeout endpoint turns

/-- `pump`: the endpoints that are ready, from the one behind the last that was read. -/
def rotated (last : Handle) (ready : List Handle) : List Handle :=
  if last ∈ ready then
    ready.drop (ready.idxOf last + 1) ++ ready.take (ready.idxOf last + 1)
  else ready

/-- `pump`, for the endpoints that are ready. -/
def drainAll (wanted : Nat) (start timeout : UInt32) (ready : List Handle) :
    Action (Scene ν) Exit Unit := do
  let last ← look fun scene => scene.channel.lastReadEndpoint
  let _ ← forEach (fun endpoint => drain backend wanted start timeout endpoint 32)
    (rotated last ready)
  pure ()

/-- `pump`. -/
def pump (wanted : Nat) (start timeout : UInt32) : Action (Scene ν) Exit Unit := do
  let ready ← look fun scene => endpoints scene.channel
  if ready.length > 1 then do
    let reply ← native backend (.select ready)
    if reply.status = errBufferEmpty then pure ()
    else do
      translate reply.status
      drainAll backend wanted start timeout reply.ready
  else drainAll backend wanted start timeout ready

/-- The messages of the queue that a reader still wants. -/
def takeReceived (requested : Nat) (scene : Scene ν) : Scene ν :=
  let taken := scene.channel.received.take (requested - scene.messages.length)
  { scene with
    messages := scene.messages ++ taken
    channel := { scene.channel with
      received := scene.channel.received.drop taken.length
      receiveBytes :=
        scene.channel.receiveBytes - (taken.map fun message => message.dataSize + 24).sum } }

/-- `PassThruReadMsgs`, for one turn of its loop. -/
def readTurn (requested : Nat) (start timeout : UInt32) (pumped : Bool) :
    Action (Scene ν) Exit (Option Unit) := do
  change (takeReceived requested)
  let scene ← look id
  if scene.channel.overflow = true then do
    alter fun channel => { channel with overflow := false }
    fail (.status errBufferOverflow)
  else if scene.channel.receiveError ≠ 0 then do
    alter fun channel => { channel with receiveError := 0 }
    fail (.status scene.channel.receiveError)
  else if scene.messages.length = requested then pure (some ())
  else do
    let late ← if pumped = false then pure false
      else if timeout = 0 then pure true
      else elapsed backend start timeout
    if late then do
      refuse (scene.messages = []) (.status errBufferEmpty)
      refuse (timeout ≠ 0) (.status errTimeout)
      pure (some ())
    else do
      pump backend (requested - scene.messages.length) start timeout
      pure none

/-- `PassThruReadMsgs`. -/
def readMsgs (requested : Nat) (timeout : UInt32) (fuel : Nat) : Action (Scene ν) Exit Unit :=
  if requested = 0 then pure ()
  else do
    let reply ← native backend .milliseconds
    match ← readTurn backend requested reply.value timeout false with
    | some () => pure ()
    | none => again .running (readTurn backend requested reply.value timeout true) fuel

/-! ## Sending -/

/-- `routeMessage`, where the call returns what is not zero. -/
def route (message : PassthruMsg) (handle : Handle) :
    Action (Scene ν) Exit (Handle × NativeMsg) := do
  match ← look fun scene => routeMessage scene.channel message handle with
  | .ok routed => pure routed
  | .error status => fail (.status status)

/-- `checkTransmissionCapacity`. -/
def checkTransmissionCapacity : Action (Scene ν) Exit Unit := do
  let used ← look fun scene => scene.channel.transmissions.size
  if used < maxTxMessages then pure ()
  else do
    pump backend 0 0 0
    let used ← look fun scene => scene.channel.transmissions.size
    refuse (¬ used < maxTxMessages) (.status errBufferFull)

/-- A transmission is forgotten. -/
def forget (token : Handle) (scene : Scene ν) : Scene ν :=
  { scene with channel := { scene.channel with
    transmissions := scene.channel.transmissions.erase token } }

/-- `channel->transmissions[token]`, changed. -/
def amend (token : Handle) (update : Transmission → Transmission) (scene : Scene ν) : Scene ν :=
  { scene with channel := { scene.channel with
    transmissions := scene.channel.transmissions.insert token
      (update ((scene.channel.transmissions.find? token).getD {})) } }

/-- `PassThruWriteMsgs`, for one turn of the loop that hands a message over. -/
def queueTurn (start timeout : UInt32) (token endpoint : Handle) (encoded : NativeMsg) :
    Action (Scene ν) Exit (Option Unit) := do
  let reply ← native backend (.queueMsgs endpoint encoded)
  if reply.status ≠ errBufferFull ∨ timeout = 0 then
    if reply.status ≠ statusNoError then do
      change (forget token)
      translate reply.status
      pure (some ())
    else pure (some ())
  else do
    let late ← elapsed backend start timeout
    if late then do
      change (forget token)
      fail (.status errTimeout)
    else do
      onError (pump backend 0 start timeout) (forget token)
      pure none

/-- `PassThruWriteMsgs`, for one turn of the loop that waits for a message to be sent. -/
def awaitTurn (start timeout : UInt32) (token endpoint : Handle) :
    Action (Scene ν) Exit (Option Unit) := do
  let _ ← onError (readNative backend endpoint)
    (amend token fun pending => { pending with waiting := false })
  change (amend token id)
  let pending ← look fun scene => (scene.channel.transmissions.find? token).getD {}
  if pending.complete = true then do
    change (forget token)
    refuse (pending.failed = true) (.status errFailed)
    pure (some ())
  else do
    let late ← elapsed backend start timeout
    if late then do
      change (amend token fun pending => { pending with waiting := false })
      fail (.status errTimeout)
    else pure none

/-- `PassThruWriteMsgs`, for one message. -/
def writeMessage (requested : Nat) (start timeout : UInt32) (fuel : Nat) (message : PassthruMsg) :
    Action (Scene ν) Exit Bool := do
  let token ← allocateId
  let (endpoint, encoded) ← route message token
  checkTransmissionCapacity backend
  alter fun channel =>
    { channel with
      transmissions := channel.transmissions.insert token
        { message, endpoint, waiting := decide (timeout ≠ 0) } }
  again .running (queueTurn backend start timeout token endpoint encoded) fuel
  if timeout = 0 then do
    change fun scene => { scene with count := scene.count + 1 }
    pure false
  else do
    again .running (awaitTurn backend start timeout token endpoint) fuel
    change fun scene => { scene with count := scene.count + 1 }
    let count ← look Scene.count
    let late ← if count < requested then elapsed backend start timeout else pure false
    refuse (late = true) (.status errTimeout)
    pure false

/-- `PassThruWriteMsgs`. -/
def writeMsgs (messages : List PassthruMsg) (timeout : UInt32) (fuel : Nat) :
    Action (Scene ν) Exit Unit := do
  let reply ← native backend .milliseconds
  let _ ← forEach (writeMessage backend messages.length reply.value timeout fuel) messages
  pure ()

end Calls

end OpenDiag.Legacy
