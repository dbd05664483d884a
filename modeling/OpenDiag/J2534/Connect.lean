import OpenDiag.J2534.Requests

/-!
# Connections

`connect_channel`, `logical_connect` and `disconnect_channel`, with the part of `vif.c` that they
stand on: the claims that the link holds of the bus groups. What the drivers, the heap, the pins and
the shell answer is left open.
-/

namespace OpenDiag.J2534

open Isotp

/-! ## The claims of the link -/

/-- `bus_group`: the J1850 buses share one, which goes by the name of the first. -/
def Bus.group : Bus → Bus
  | .vpw => .pwm
  | bus => bus

/-- An element of `g.claim` that the link owns; without a bus, it owns none. -/
structure Claim where
  bus : Bus := .none
  isOpen : Bool := false
  deriving DecidableEq, Repr

/-- What is handed to `vif_bus_submit`, and whether the K-Line driver puts a checksum behind it. -/
structure Submission where
  bus : Bus
  msg : BusTx
  checksumTx : Bool
  deriving DecidableEq, Repr

/-- The claims of the link over the drivers, and `g.cfg.checksum_tx` of the K-Line driver; the
submissions are a history. -/
structure Station (σ : Type*) where
  env : σ
  claim : Bus → Claim := fun _ => {}
  checksumTx : Bool := true
  submitted : List Submission := []

/-- What answers under the claims: the drivers of open buses, `malloc` for the buffers of a channel,
`vif_any_pin_active`, whether the shell holds the group of a bus, and `bus_driver_up` and
`bus_driver_down`. Whether a bus is open is not asked of them. -/
structure Drivers (σ : Type*) where
  calls : Vif σ
  malloc : σ → Bool × σ
  anyPinActive : σ → Bool × σ
  shellHolds : Bus → σ → Bool × σ
  up : Bus → UInt32 → σ → Bool × σ
  down : Bus → σ → Bool × σ

def busPChecksumRx : UInt32 := busPVendorBase
def busPChecksumTx : UInt32 := busPVendorBase + 1
def busPDuplicateMs : UInt32 := busPVendorBase + 3
def busPPeriodicMs : UInt32 := busPVendorBase + 4
def busPPeriodicQuiet : UInt32 := busPVendorBase + 5
def busPKLineOnly : UInt32 := busPVendorBase + 10
def busPKlineFrameMode : UInt32 := busPVendorBase + 11

/-- `VIF_ERR_NO_CLAIM`. -/
def vifErrNoClaim : Int := -3

section Claims

variable {σ : Type*}

/-- A call of a driver. -/
def Station.ask {α : Type*} (s : Station σ) (call : σ → α × σ) : α × Station σ :=
  let (answer, env) := call s.env
  (answer, { s with env })

def Station.setClaim (s : Station σ) (bus : Bus) (claim : Claim) : Station σ :=
  { s with claim := Function.update s.claim bus.group claim }

/-- `bus_owned_by`, and `vif_bus_is_open`. -/
def Station.owns (s : Station σ) (bus : Bus) : Bool :=
  bus ≠ .none && (s.claim bus.group).bus = bus && (s.claim bus.group).isOpen

variable (drivers : Drivers σ)

/-- The vehicle interface of the link. -/
def Drivers.vif : Vif (Station σ) where
  now s := s.ask drivers.calls.now
  isOpen bus s := s.owns bus
  recv bus s := if s.owns bus then s.ask (drivers.calls.recv bus) else (none, s)
  submit bus msg flags sequence s :=
    let s : Station σ :=
      { s with submitted := s.submitted ++ [{ bus, msg, checksumTx := s.checksumTx }] }
    if s.owns bus then s.ask (drivers.calls.submit bus msg flags sequence) else (vifErrNoClaim, s)
  txPoll bus s := if s.owns bus then s.ask (drivers.calls.txPoll bus) else (none, s)
  txCancel bus s := if s.owns bus then { s with env := drivers.calls.txCancel bus s.env } else s
  busOn bus s := if s.owns bus then s.ask (drivers.calls.busOn bus) else (false, s)
  paramGet bus param s :=
    if s.owns bus then s.ask (drivers.calls.paramGet bus param) else (.error vifErrNoClaim, s)
  paramSet bus param value s :=
    if s.owns bus then
      let (rc, s) := s.ask (drivers.calls.paramSet bus param value)
      (rc, if rc = 0 ∧ bus = .kline ∧ param = busPChecksumTx then
          { s with checksumTx := value ≠ 0 }
        else s)
    else (vifErrNoClaim, s)

/-- `vif_bus_open`, once the link has the claim: what was open before is taken down, and the K-Line
driver starts from its defaults. -/
def Station.bringUp (s : Station σ) (bus : Bus) (bitrate : UInt32) : Bool × Station σ :=
  let s := s.setClaim bus { bus }
  let (ok, s) := s.ask (drivers.up bus bitrate)
  let s := if bus = .kline then { s with checksumTx := true } else s
  if ok then (true, s.setClaim bus { bus, isOpen := true })
  else
    let (cleaned, s) := s.ask (drivers.down bus)
    (false, if cleaned then s.setClaim bus {} else s)

def Station.openBus (s : Station σ) (bus : Bus) (bitrate : UInt32) : Bool × Station σ :=
  let (held, s) := s.ask (drivers.shellHolds bus)
  if held then (false, s)
  else
    let old := (s.claim bus.group).bus
    if old = .none then s.bringUp drivers bus bitrate
    else
      let (ok, s) := (s.setClaim bus { bus := old }).ask (drivers.down old)
      if ok then s.bringUp drivers bus bitrate else (false, s)

/-- `vif_bus_close`: the claim is given up once the driver is down. -/
def Station.closeBus (s : Station σ) (bus : Bus) : Bool × Station σ :=
  let held := (s.claim bus.group).bus
  if held = .none then
    let (shell, s) := s.ask (drivers.shellHolds bus)
    (!shell, s)
  else
    let (ok, s) := (s.setClaim bus { bus := held }).ask (drivers.down held)
    (ok, if ok then s.setClaim bus {} else s)

/-- `connect_channel`, where nothing may be in the way of a bus. -/
def Station.busy (s : Station σ) (bus : Bus) : Bool × Station σ :=
  let (pin, s) := s.ask drivers.anyPinActive
  let (shell, s) := s.ask (drivers.shellHolds bus)
  (pin || (s.claim bus.group).bus ≠ .none || shell, s)

end Claims

/-! ## Physical channels -/

/-- Why a connection is refused. -/
inductive ConnectError where
  | channel
  | protocol
  | value
  | flags
  | limit
  | pin
  | conflict
  | notUnique
  | baud
  | device
  | notOpen
  | logical
  | descriptor
  deriving DecidableEq, Repr

def ConnectError.code : ConnectError → UInt32
  | .channel => 2
  | .protocol => 3
  | .value => 5
  | .flags => 6
  | .limit => 12
  | .pin => 19
  | .conflict => 20
  | .notUnique => 24
  | .baud => 25
  | .device => 26
  | .notOpen => 27
  | .logical => 36
  | .descriptor => 39

/-- `opendiag_Connect`. -/
structure ConnectRequest where
  device : UInt32 := 0
  protocol : UInt32 := 0
  flags : UInt32 := 0
  baudrate : UInt32 := 0
  connector : UInt32 := 0
  pins : List UInt32 := []
  deriving DecidableEq, Repr

def flagKOnly : UInt32 := 4096
def klineBaudMin : UInt32 := 1200
def klineBaudHwMax : UInt32 := 15625
def klineFrameIso9141 : UInt32 := 1
def klineFrameIso14230 : UInt32 := 2

/-- What `connect_channel` looks up for a protocol: the bus, the pins and the flags allowed. -/
structure Wiring where
  bus : Bus
  pins : List UInt32
  allowed : UInt32 := 0
  deriving DecidableEq, Repr

def wiring (protocol flags rate : UInt32) : Except ConnectError Wiring :=
  if protocol = protocolCan then
    if rate ≠ 50000 ∧ rate ≠ 125000 ∧ rate ≠ 250000 ∧ rate ≠ 500000 ∧ rate ≠ 1000000 then
      .error .baud
    else .ok { bus := .can, pins := [6, 14], allowed := flag29Bit ||| flagCanBoth }
  else if protocol = protocolPwm then
    if rate ≠ 41600 then .error .baud else .ok { bus := .pwm, pins := [2, 10] }
  else if protocol = protocolVpw then
    if rate ≠ 10400 then .error .baud else .ok { bus := .vpw, pins := [2] }
  else if protocol = protocolIso9141 ∨ protocol = protocolIso14230 then
    if rate < klineBaudMin ∨ rate > klineBaudHwMax then .error .baud
    else
      .ok
        { bus := .kline
          pins := if flags &&& flagKOnly ≠ 0 then [7] else [7, 15]
          allowed := flagChecksumDisabled ||| flagKOnly }
  else .error .protocol

/-- The parameters that `connect_channel` gives the K-Line driver. -/
def klineParams (protocol flags rate : UInt32) : List (UInt32 × UInt32) :=
  let checked := if flags &&& flagChecksumDisabled = 0 then 1 else 0
  [(busPKLineOnly, if flags &&& flagKOnly ≠ 0 then 1 else 0),
    (busPDataRate, rate),
    (busPChecksumRx, checked),
    (busPChecksumTx, checked),
    (busPKlineFrameMode,
      if protocol = protocolIso9141 then klineFrameIso9141 else klineFrameIso14230),
    (busPPeriodicMs, 0),
    (busPPeriodicQuiet, 0)]

section Code

variable {σ : Type*}

def releaseChannel (core : Core σ) (i : ChannelIndex) : Core σ :=
  core.modify i fun _ => {}

/-- The `assembly` of a logical channel, new: room for a payload and for what stands before it. -/
def newAssembly : List UInt8 :=
  List.replicate (isotpMaxPayload + 5) 0

variable (drivers : Drivers σ) (core : Core (Station σ))

/-- `allocate_channel`; a logical channel has a buffer to receive in. -/
def allocateChannel (logical : Bool) : Option ChannelIndex × Core (Station σ) :=
  match allChannels.find? fun i => i.isLogical = logical && (core.channels i).id = 0 with
  | none => (none, core)
  | some i =>
    let (had, env) := core.env.ask drivers.malloc
    let core := { core with env }
    if had then
      let (id, core) := newId core
      (some i, core.modify i fun channel =>
        { channel with
          id
          isoRx := { channel.isoRx with buffer := if logical then some newAssembly else none } })
    else (none, releaseChannel core i)

def disconnectChannel (i : ChannelIndex) : Status × Core (Station σ) :=
  let core := cancelChannelTx drivers.vif core i
  if (core.channels i).parent = 0 then
    let (ok, env) := core.env.closeBus drivers (core.channels i).bus
    let core := { core with env }
    if ok then
      let id := (core.channels i).id
      (.ok, releaseChannel (allChannels.foldl (fun core j =>
        if (core.channels j).parent = id then releaseChannel core j else core) core) i)
    else (.failed, core)
  else (.ok, releaseChannel core i)

/-- A run of `vif_bus_param_set` that ends with the first failure. -/
def setParams (bus : Bus) : List (UInt32 × UInt32) → Station σ → Int × Station σ
  | [], s => (0, s)
  | (param, value) :: rest, s =>
    let (rc, s) := drivers.vif.paramSet bus param value s
    if rc = 0 then setParams bus rest s else (rc, s)

/-- `connect_channel`, where the driver of the bus that has been opened is given its parameters. -/
def setUp (s : Station σ) (bus : Bus) (protocol flags rate : UInt32) : Int × Station σ :=
  let params := if bus = .kline then klineParams protocol flags rate else []
  let (rc, s) := setParams drivers bus params s
  (rc, if bus = .can then s else (drivers.vif.paramSet bus busPDuplicateMs 0 s).2)

/-- `connect_channel`, for the channel that has been allocated. A claim that could not be given up
stays, for the next teardown. -/
def openChannel (i : ChannelIndex) (bus : Bus) (req : ConnectRequest) :
    Except ConnectError UInt32 × Core (Station σ) :=
  let core := core.modify i fun channel =>
    { channel with
      bus, protocol := req.protocol, flags := req.flags, rate := req.baudrate }
  let (opened, env) := core.env.openBus drivers bus req.baudrate
  if opened then
    let (rc, env) := setUp drivers env bus req.protocol req.flags req.baudrate
    let core := { core with env }
    if rc = 0 then (.ok (core.channels i).id, core)
    else (.error .value, (disconnectChannel drivers core i).2)
  else (.error .conflict, releaseChannel { core with env := (env.closeBus drivers bus).2 } i)

def connectChannel (req : ConnectRequest) : Except ConnectError UInt32 × Core (Station σ) :=
  if req.device ≠ core.device then (.error .device, core)
  else if req.connector ≠ 1 then (.error .pin, core)
  else
    match wiring req.protocol req.flags req.baudrate with
    | .error err => (.error err, core)
    | .ok { bus, pins, allowed } =>
      if req.flags &&& ~~~allowed ≠ 0 then (.error .flags, core)
      else if req.pins ≠ pins then (.error .pin, core)
      else
        let (busy, env) := core.env.busy drivers bus
        let core := { core with env }
        if busy then (.error .conflict, core)
        else
          match allocateChannel drivers core false with
          | (none, core) => (.error .limit, core)
          | (some i, core) => openChannel drivers core i bus req

end Code

/-! ## Logical channels -/

/-- `opendiag_LogicalConnect`, without its channel. -/
structure LogicalRequest where
  protocol : UInt32 := 0
  flags : UInt32 := 0
  localFlags : UInt32 := 0
  remoteFlags : UInt32 := 0
  localAddress : List UInt8 := []
  remoteAddress : List UInt8 := []
  legacyChannel : Bool := false
  deriving DecidableEq, Repr

/-- The length of an address of these flags. -/
def addressSize (flags : UInt32) : Nat :=
  if flags &&& flagAddr ≠ 0 then 5 else 4

/-- The identifier of an address of these flags. -/
def addressId (address : List UInt8) (flags : UInt32) : UInt32 :=
  be32 address ||| if flags &&& flag29Bit ≠ 0 then canEffFlag else 0

/-- `channel->local`, which the receiver's identifier and address are made of. -/
def localAddress (channel : Channel) : List UInt8 :=
  putBe32 (channel.config.rxId &&& canEffMask) ++ [channel.config.rxAddress]

/-- `logical_connect`, on the descriptor. -/
def validDescriptor (parent : Channel) (req : LogicalRequest) : Bool :=
  req.localAddress.length = addressSize req.localFlags &&
    req.remoteAddress.length = addressSize req.remoteFlags &&
    req.localFlags &&& ~~~(flag29Bit ||| flagAddr) = 0 &&
    req.remoteFlags &&& ~~~(flag29Bit ||| flagAddr ||| flagPad) = 0 &&
    canIdValid req.localAddress req.localFlags &&
    canIdValid req.remoteAddress req.remoteFlags &&
    canFlagsMatch parent req.localFlags &&
    canFlagsMatch parent req.remoteFlags &&
    (req.localFlags ^^^ req.remoteFlags) &&& (flagAddr ||| flag29Bit) = 0

/-- The configuration of a logical channel. -/
def logicalConfig (req : LogicalRequest) : Config :=
  { configDefault (addressId req.remoteAddress req.remoteFlags)
      (addressId req.localAddress req.localFlags) with
    extendedAddress := req.localFlags &&& flagAddr ≠ 0
    rxAddress := req.localAddress.getD 4 0
    txAddress := req.remoteAddress.getD 4 0
    pad := req.remoteFlags &&& flagPad ≠ 0 }

/-- `logical_connect`, for the channel that has been allocated. -/
def logicalChannel (parent channel : Channel) (req : LogicalRequest) : Channel :=
  let channel := { channel with
    parent := parent.id
    bus := parent.bus
    protocol := protocolIsotp
    flags := req.flags
    localFlags := req.localFlags
    remoteFlags := req.remoteFlags
    txTimeoutAUs := isotpDefaultTimeoutUs
    remote := (List.range 5).map fun k => req.remoteAddress.getD k 0
    config := logicalConfig req
    legacyChannel := req.legacyChannel }
  let channel := initReceiver channel
  { channel with isoTx := (txInit channel.isoTx channel.config).2 }

section Code

variable {σ : Type*} (drivers : Drivers σ) (core : Core (Station σ))

def logicalConnect (parent : ChannelIndex) (req : LogicalRequest) :
    Except ConnectError UInt32 × Core (Station σ) :=
  let physical := core.channels parent
  if physical.protocol ≠ protocolCan then (.error .logical, core)
  else if req.protocol ≠ protocolIsotp then (.error .protocol, core)
  else if req.flags &&& ~~~logicalFullDuplex ≠ 0 then (.error .flags, core)
  else if !validDescriptor physical req then (.error .descriptor, core)
  else if logicalChannels.any fun i =>
      (core.channels i).parent = physical.id && (core.channels i).localFlags = req.localFlags &&
        (localAddress (core.channels i)).take (addressSize req.localFlags) = req.localAddress then
    (.error .notUnique, core)
  else
    match allocateChannel drivers core true with
    | (none, core) => (.error .limit, core)
    | (some i, core) =>
      let core := core.modify i fun channel => logicalChannel physical channel req
      (.ok (core.channels i).id, core)

/-! ## Runs -/

/-- `dispatch_channel_request`, for both disconnections. -/
def disconnect (id : UInt32) (logical : Bool) : Status × Core (Station σ) :=
  if core.device = 0 then (.notOpen, core)
  else
    match findChannel core id with
    | none => (.channel, core)
    | some i =>
      if logical ≠ decide ((core.channels i).parent ≠ 0) then (.channel, core)
      else disconnectChannel drivers core i

/-- `dispatch_request`, for a connection. -/
def connect (req : ConnectRequest) : Except ConnectError UInt32 × Core (Station σ) :=
  if core.device = 0 then (.error .notOpen, core) else connectChannel drivers core req

/-- `dispatch_channel_request`, for a logical connection. -/
def connectLogical (physical : UInt32) (req : LogicalRequest) :
    Except ConnectError UInt32 × Core (Station σ) :=
  if core.device = 0 then (.error .notOpen, core)
  else
    match findChannel core physical with
    | none => (.error .channel, core)
    | some i =>
      if channelIsLive drivers.vif core i then logicalConnect drivers core i req
      else (.error .channel, core)

end Code

/-- What the link task does with the core, connections included. -/
inductive Move where
  | connect (req : ConnectRequest)
  | connectLogical (physical : UInt32) (req : LogicalRequest)
  | disconnect (id : UInt32) (logical : Bool)
  | link (op : Op)
  deriving DecidableEq, Repr

section Moves

variable {σ : Type*} (drivers : Drivers σ)

def Core.move (core : Core (Station σ)) : Move → Core (Station σ)
  | .connect req => (connect drivers core req).2
  | .connectLogical physical req => (connectLogical drivers core physical req).2
  | .disconnect id logical => (disconnect drivers core id logical).2
  | .link op => core.step drivers.vif op

/-- A device that has just been opened. -/
def Core.opened (device nextId : UInt32) (env : σ) : Core (Station σ) where
  device
  nextId
  env := { env }

end Moves

/-- Drivers that follow a script; the pins, the shell and the heap are in nothing's way. -/
def Script.drivers : Drivers Script where
  calls := Script.vif
  malloc script := (true, script)
  anyPinActive script := (false, script)
  shellHolds _ script := (false, script)
  up _ _ script := (true, script)
  down _ script := (true, script)

end OpenDiag.J2534
