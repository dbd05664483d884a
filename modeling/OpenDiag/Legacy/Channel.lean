import Mathlib.Algebra.GroupWithZero.Nat
import OpenDiag.Lib.Memory
import OpenDiag.Lib.OrderedMap

/-!
# Channels of the 04.04 library

`legacy.cpp` offers the 04.04 calls on top of a native library that has the 05.00 ones. A 04.04
channel of ISO 15765 is a physical channel of the native library and a logical one for each peer
that a flow control filter names; the channel keeps a queue of what was received from all of them,
and what it has sent and not yet heard of.
-/

namespace OpenDiag.Legacy

/-- The identifiers of both libraries. -/
abbrev Handle := Nat

def maxRxBytes : Nat := 65536
def maxRxMessages : Nat := 256
def maxTxMessages : Nat := 256

def statusNoError : UInt32 := 0x00
def errNotSupported : UInt32 := 0x01
def errInvalidChannelId : UInt32 := 0x02
def errInvalidProtocolId : UInt32 := 0x03
def errNullParameter : UInt32 := 0x04
def errInvalidIoctlValue : UInt32 := 0x05
def errInvalidFlags : UInt32 := 0x06
def errFailed : UInt32 := 0x07
def errDeviceNotConnected : UInt32 := 0x08
def errTimeout : UInt32 := 0x09
def errInvalidMsg : UInt32 := 0x0a
def errExceededLimit : UInt32 := 0x0c
def errInvalidMsgId : UInt32 := 0x0d
def errBufferEmpty : UInt32 := 0x10
def errBufferFull : UInt32 := 0x11
def errBufferOverflow : UInt32 := 0x12
def errPinInvalid : UInt32 := 0x13
def errResourceConflict : UInt32 := 0x14
def errMsgProtocolId : UInt32 := 0x15
def errInvalidFilterId : UInt32 := 0x16
def errNoFlowControl : UInt32 := 0x17
def errNotUnique : UInt32 := 0x18
def errInvalidDeviceId : UInt32 := 0x1a

def j1850Vpw : UInt32 := 1
def j1850Pwm : UInt32 := 2
def iso9141 : UInt32 := 3
def iso14230 : UInt32 := 4
def can : UInt32 := 5
def iso15765 : UInt32 := 6
def iso15765Logical : UInt32 := 0x200

def passFilter : UInt32 := 1
def blockFilter : UInt32 := 2
def flowControlFilter : UInt32 := 3

def txMsgType : UInt32 := 0x001
def startOfMessage : UInt32 := 0x002
def rxBreak : UInt32 := 0x004
def txIndication : UInt32 := 0x008
def txIndicationSuccess : UInt32 := 0x008
def rxError : UInt32 := 0x020
def bufferOverflow : UInt32 := 0x040
def txFailed : UInt32 := 0x200

def iso15765FramePad : UInt32 := 0x0040
def iso15765AddrType : UInt32 := 0x0080
def can29BitId : UInt32 := 0x0100
def waitP3MinOnly : UInt32 := 0x0200
def canIdBoth : UInt32 := 0x0800
def iso9141KLineOnly : UInt32 := 0x1000
def addressFlags : UInt32 := can29BitId ||| iso15765AddrType

def iso15765Bs : Handle := 0x1e
def iso15765Stmin : Handle := 0x1f
def iso15765WftMax : Handle := 0x25

/-! ## Messages -/

/-- `sizeof(PASSTHRU_MSG.Data)`. -/
def dataMax : Nat := 4128

/-- `PASSTHRU_MSG`. -/
structure PassthruMsg where
  protocolId : UInt32 := 0
  rxStatus : UInt32 := 0
  txFlags : UInt32 := 0
  timestamp : UInt32 := 0
  dataSize : Nat := 0
  extraDataIndex : Nat := 0
  data : Block UInt8 dataMax := Block.fill dataMax 0
  deriving DecidableEq

/-- `native::PASSTHRU_MSG`, with the bytes that its buffer has. -/
structure NativeMsg where
  protocolId : UInt32 := 0
  msgHandle : Handle := 0
  rxStatus : UInt32 := 0
  txFlags : UInt32 := 0
  timestamp : UInt32 := 0
  extraDataIndex : Nat := 0
  data : List UInt8 := []
  deriving DecidableEq, Repr

/-- `addressSize`. -/
def addressSize (message : PassthruMsg) : Nat :=
  if message.txFlags &&& iso15765AddrType ≠ 0 then 5 else 4

/-- The address at the beginning of a message. -/
def PassthruMsg.address (message : PassthruMsg) : List UInt8 :=
  message.data.load 0 (addressSize message)

/-- `encodeMessage`. -/
def encodeMessage (message : PassthruMsg) (protocol : UInt32) (handle : Handle) : NativeMsg where
  protocolId := protocol
  msgHandle := handle
  txFlags := message.txFlags
  data := message.data.load 0 message.dataSize

/-! ## Channels -/

/-- `IsoEndpoint`: the addresses of a conversation, of what is received and of what is sent. -/
structure IsoEndpoint where
  pattern : PassthruMsg
  flow : PassthruMsg
  deriving DecidableEq

/-- `Filter`. -/
structure Filter where
  type : UInt32
  nativeId : Handle := 0
  endpoint : Handle := 0
  pattern : PassthruMsg
  flow : PassthruMsg := {}
  deriving DecidableEq

/-- The addresses of a filter. -/
def Filter.peer (filter : Filter) : IsoEndpoint :=
  ⟨filter.pattern, filter.flow⟩

/-- `TransmissionKind`. -/
inductive TransmissionKind where
  | once
  | periodic
  | repeated
  deriving DecidableEq, Repr

/-- `Transmission`. -/
structure Transmission where
  message : PassthruMsg := {}
  endpoint : Handle := 0
  waiting : Bool := false
  complete : Bool := false
  failed : Bool := false
  kind : TransmissionKind := .once
  nativeId : Handle := 0
  deriving DecidableEq

/-- `Channel`. -/
structure Channel where
  physical : Handle
  protocol : UInt32
  flags : UInt32 := 0
  baudrate : UInt32 := 0
  loopback : Bool := false
  overflow : Bool := false
  receiveError : UInt32 := 0
  receiveBytes : Nat := 0
  lastReadEndpoint : Handle := 0
  received : List PassthruMsg := []
  filters : OrderedMap Handle Filter := .empty
  logicalEndpoints : OrderedMap Handle IsoEndpoint := .empty
  transmissions : OrderedMap Handle Transmission := .empty
  isoConfig : OrderedMap Handle UInt32 :=
    ((OrderedMap.empty.insert iso15765Bs 0).insert iso15765Stmin 0).insert iso15765WftMax 0

/-- `endpointHasFilter`. -/
def endpointHasFilter (channel : Channel) (endpoint : Handle) : Bool :=
  channel.filters.entries.any fun entry => entry.2.endpoint = endpoint

/-- `endpointNeededByTransmissions`: the conditions of a repeated message are about every peer. -/
def endpointNeededByTransmissions (channel : Channel) (endpoint : Handle) : Bool :=
  channel.transmissions.entries.any fun entry =>
    entry.2.endpoint = endpoint ∨ channel.protocol = iso15765 ∧ entry.2.kind = .repeated

/-- `endpoints`. -/
def endpoints (channel : Channel) : List Handle :=
  channel.physical :: channel.logicalEndpoints.entries.map Prod.fst

/-! ## Receiving -/

/-- `enqueue`. -/
def enqueue (channel : Channel) (message : PassthruMsg) : Channel :=
  let bytes := message.dataSize + 24
  if channel.received.length ≥ maxRxMessages ∨ channel.receiveBytes + bytes > maxRxBytes then
    { channel with overflow := true }
  else
    { channel with
      received := channel.received ++ [message]
      receiveBytes := channel.receiveBytes + bytes }

/-- `transmitIndications`. -/
def transmitIndications (channel : Channel) (transmission : Transmission) (timestamp : UInt32) :
    Channel :=
  let original := transmission.message
  let channel :=
    if channel.protocol = iso15765 then
      enqueue channel
        { protocolId := iso15765
          rxStatus := txMsgType ||| txIndication ||| (original.txFlags &&& addressFlags)
          timestamp
          dataSize := addressSize original
          data := (Block.fill dataMax 0).store 0 original.address }
    else channel
  if channel.loopback then
    enqueue channel
      { original with
        rxStatus := txMsgType ||| (original.txFlags &&& addressFlags)
        timestamp
        extraDataIndex := original.dataSize }
  else channel

/-- `receiveNative`: what the caller hears of a transmission. -/
def report (channel : Channel) (transmission : Transmission) (timestamp : UInt32) : Channel :=
  if !transmission.failed then transmitIndications channel transmission timestamp
  else if !transmission.waiting then { channel with receiveError := errFailed }
  else channel

/-- `receiveNative`, for a message about a transmission. -/
def receiveIndication (channel : Channel) (message : NativeMsg) : Channel :=
  match channel.transmissions.find? message.msgHandle with
  | none => channel
  | some transmission =>
    let transmission :=
      { transmission with complete := true, failed := message.rxStatus &&& txFailed ≠ 0 }
    let channel := { channel with
      transmissions := channel.transmissions.insert message.msgHandle transmission }
    let channel := report channel transmission message.timestamp
    if !transmission.waiting ∧ transmission.kind = .once then
      { channel with transmissions := channel.transmissions.erase message.msgHandle }
    else channel

/-- `receiveNative`. -/
def receiveNative (channel : Channel) (endpoint : Handle) (message : NativeMsg) : Channel :=
  let channel :=
    if message.rxStatus &&& bufferOverflow ≠ 0 then { channel with overflow := true } else channel
  if message.rxStatus &&& (txIndicationSuccess ||| txFailed) ≠ 0 then
    receiveIndication channel message
  else if message.rxStatus &&& rxError ≠ 0 then { channel with receiveError := errFailed }
  else if message.rxStatus &&& txMsgType ≠ 0 then channel
  else if channel.protocol = iso15765 ∧
      (message.protocolId ≠ iso15765Logical ∨ ¬ endpointHasFilter channel endpoint) then channel
  else
    let rxStatus := message.rxStatus &&& 0x19f
    enqueue channel
      { protocolId := channel.protocol
        rxStatus
        timestamp := message.timestamp
        dataSize := message.data.length
        extraDataIndex :=
          if rxStatus &&& (startOfMessage ||| rxBreak) ≠ 0 then 0 else message.extraDataIndex
        data := (Block.fill dataMax 0).store 0 message.data }

/-! ## Sending -/

/-- `validateMessage`. -/
def validateMessage (channel : Channel) (message : PassthruMsg) : UInt32 :=
  if message.protocolId ≠ channel.protocol then errMsgProtocolId
  else if message.dataSize = 0 ∨ message.dataSize > dataMax then errInvalidMsg
  else if channel.protocol = can ∨ channel.protocol = iso15765 then
    if message.dataSize < 4 then errInvalidMsg
    else if channel.protocol = iso15765 ∧ (message.dataSize ≤ addressSize message ∨
        message.dataSize > addressSize message + 4095) then errInvalidMsg
    else if channel.protocol ≠ iso15765 ∧ message.dataSize > 12 then errInvalidMsg
    else
      let allowed :=
        if channel.protocol = iso15765 then can29BitId ||| (iso15765AddrType ||| iso15765FramePad)
        else can29BitId
      if message.txFlags &&& ~~~allowed ≠ 0 then errInvalidFlags
      else if channel.flags &&& canIdBoth = 0 ∧
          (message.txFlags ^^^ channel.flags) &&& can29BitId ≠ 0 then errInvalidMsg
      else statusNoError
  else statusNoError

/-- A filter says where a message goes. -/
def Filter.routes (filter : Filter) (message : PassthruMsg) : Bool :=
  filter.type = flowControlFilter ∧
    filter.flow.txFlags &&& addressFlags = message.txFlags &&& addressFlags ∧
    filter.flow.data.load 0 (addressSize message) = message.address

/-- `routeMessage`, for a message that no filter routes: the frame of one that fits into it. -/
def singleFrame (message : PassthruMsg) (handle : Handle) : NativeMsg :=
  let headerBytes := addressSize message
  let payload := message.data.load headerBytes (message.dataSize - headerBytes)
  let frame := message.address ++ UInt8.ofNat payload.length :: payload
  { protocolId := can
    msgHandle := handle
    txFlags := message.txFlags &&& can29BitId
    data :=
      if message.txFlags &&& iso15765FramePad ≠ 0 then
        frame ++ List.replicate (12 - frame.length) 0
      else frame }

/-- `routeMessage`: the native channel that a message is sent on, and the message as it is sent. -/
def routeMessage (channel : Channel) (message : PassthruMsg) (handle : Handle) :
    Except UInt32 (Handle × NativeMsg) :=
  let status := validateMessage channel message
  if status ≠ statusNoError then .error status
  else
    let nativeMessage := encodeMessage message channel.protocol handle
    if channel.protocol ≠ iso15765 then .ok (channel.physical, nativeMessage)
    else
      match channel.filters.entries.find? fun entry => entry.2.routes message with
      | some (_, filter) =>
        .ok (filter.endpoint, { nativeMessage with protocolId := iso15765Logical })
      | none =>
        let headerBytes := addressSize message
        if message.dataSize - headerBytes > 11 - headerBytes then .error errNoFlowControl
        else .ok (channel.physical, singleFrame message handle)

end OpenDiag.Legacy
