import Mathlib.Logic.Function.Basic
import OpenDiag.Isotp.Receive
import OpenDiag.Isotp.Send
import OpenDiag.J2534.RxQueue
import OpenDiag.J2534.Scheduler

/-!
# The state of the J2534 core

The channels of `j2534.c` and what they are made of, the calls that the core makes into the vehicle
interface, and the operations on one channel that everything else is written with. The core keeps a
history beside its state: what it took from the bus and what it did to the messages, receptions and
flow controls that the claims about it are about.
-/

namespace OpenDiag.J2534

open Isotp

/-! ## The vehicle interface -/

/-- `vif_bus_t`. -/
inductive Bus where
  | none
  | can
  | pwm
  | vpw
  | kline
  deriving DecidableEq, Repr

/-! The status flags of a received message. -/

def busRxTxMsgType : UInt16 := 1
def busRxBreak : UInt16 := 2
def busRxStartOfMsg : UInt16 := 4
def busRxBufferOverflow : UInt16 := 8
def busRxBadChecksum : UInt16 := 16
def busRxLinkDown : UInt16 := 128

/-! The flags of a transmission. -/

def busTxWaitP3MinOnly : UInt32 := 2
def busTxWaitDone : UInt32 := 4
def busTxCheckRx : UInt32 := 16

/-! The results of a transmission that the core tells apart. -/

def busErrCancelled : Int := -13
def busErrRxPending : Int := -14

/-- A received `bus_msg_t`. On a remote frame the length is a length code, with no data behind it.
The last two fields are histories that no code reads: the transmission that the peer answers with
the message, and the number of messages that the driver had lost before it. -/
structure BusMsg where
  data : List UInt8 := []
  len : Nat := 0
  status : UInt16 := 0
  timestampUs : Time := 0
  sequence : UInt32 := 0
  id : UInt32 := 0
  answers : Option Nat := none
  lost : Nat := 0
  deriving DecidableEq, Repr

/-- Whether a status flag is set. -/
def BusMsg.has (msg : BusMsg) (flag : UInt16) : Bool :=
  msg.status &&& flag ≠ 0

/-- A `bus_msg_t` to transmit. -/
structure BusTx where
  id : UInt32 := 0
  data : List UInt8 := []
  deriving DecidableEq, Repr

/-- `bus_tx_result_t`. -/
structure TxResult where
  status : Int := 0
  complete : Bool := false
  startedUs : Time := 0
  endedUs : Time := 0
  deriving DecidableEq, Repr

/-- The vehicle interface, as the core calls it. A negative result of the receive call is `none`, and
a parameter that is not read has an error. -/
structure Vif (σ : Type*) where
  now : σ → Time × σ
  isOpen : Bus → σ → Bool
  recv : Bus → σ → Option BusMsg × σ
  submit : Bus → BusTx → UInt32 → UInt32 → σ → Int × σ
  txPoll : Bus → σ → Option TxResult × σ
  txCancel : Bus → σ → σ
  busOn : Bus → σ → Bool × σ
  paramGet : Bus → UInt32 → σ → Except Int UInt32 × σ
  paramSet : Bus → UInt32 → UInt32 → σ → Int × σ

/-! ## Channels -/

def physicalMax : Nat := 3
def logicalMax : Nat := 2
instance : NeZero (physicalMax + logicalMax) := ⟨by decide⟩

def filterMax : Nat := 10
def dataMax : Nat := 4128

/-- The index of a channel: the physical channels come first. -/
abbrev ChannelIndex := Fin (physicalMax + logicalMax)

def ChannelIndex.isLogical (i : ChannelIndex) : Bool :=
  decide (physicalMax ≤ i.val)

/-- All channels, in order. -/
def allChannels : List ChannelIndex :=
  List.finRange _

/-- The logical channels, in order. -/
def logicalChannels : List ChannelIndex :=
  allChannels.filter ChannelIndex.isLogical

/-- `filter_t`; its length is that of its mask. -/
structure Filter where
  id : UInt32 := 0
  type : UInt32 := 0
  flags : UInt32 := 0
  mask : List UInt8 := []
  pattern : List UInt8 := []
  deriving DecidableEq, Repr

def filterPass : UInt32 := 1
def filterBlock : UInt32 := 2
def logicalFullDuplex : UInt32 := 1

/-- `tx_kind_t`. -/
inductive TxKind where
  | none
  | message
  | isotp
  | flowControl
  | scheduled
  deriving DecidableEq, Repr

/-- `pending_tx_t`. The generation is the counter before it wraps; `message` is a history: the
number of the stored message that the transmission is for. -/
structure PendingTx where
  kind : TxKind := .none
  channel : UInt32 := 0
  job : UInt32 := 0
  handle : UInt32 := 0
  discard : Bool := false
  confirmed : Bool := false
  rxGeneration : Nat := 0
  frame : CanFrame := default
  message : Nat := 0
  deriving DecidableEq

/-- The fields of the stored message in `channel_t.tx`. -/
structure StoredTx where
  protocol : UInt32 := 0
  handle : UInt32 := 0
  txFlags : UInt32 := 0
  data : List UInt8 := []
  deriving DecidableEq, Repr

/-- `channel_t`. The generation is the counter before it wraps. The last two fields are histories:
the number of messages stored so far, and the generation of the stored flow control. -/
structure Channel where
  id : UInt32 := 0
  parent : UInt32 := 0
  protocol : UInt32 := 0
  flags : UInt32 := 0
  rate : UInt32 := 0
  echo : UInt32 := 0
  bus : Bus := .none
  queue : RxQueue := {}
  tx : StoredTx := {}
  txLen : Nat := 0
  txActive : Bool := false
  linkDown : Bool := false
  filters : List Filter := List.replicate filterMax {}
  scheduler : Scheduler := fun _ => {}
  pending : PendingTx := {}
  rxSequence : UInt32 := 0
  txCursor : Nat := 0
  rxDrained : Bool := false
  flowControlPending : Bool := false
  rxGeneration : Nat := 0
  flowControl : CanFrame := default
  config : Config := configDefault 0 0
  isoRx : Rx := { config := configDefault 0 0, buffer := none, capacity := 0 }
  isoTx : Tx := { config := configDefault 0 0 }
  localFlags : UInt32 := 0
  remoteFlags : UInt32 := 0
  legacyChannel : Bool := false
  txTimeoutAUs : Time := 0
  remote : List UInt8 := []
  stored : Nat := 0
  flowGeneration : Nat := 0

/-- What changes a scheduled message behind its start. -/
inductive JobChange where
  | started
  | transmitted (startedUs endedUs : Time)
  | completed (success : Bool) (startedUs endedUs : Time)
  | deferred
  deriving DecidableEq, Repr

/-- What the core's history records. -/
inductive Event where
  /-- `poll_rx` was given a message. -/
  | received (channel : ChannelIndex) (msg : BusMsg)
  /-- `enqueue_rx` was called. -/
  | enqueued (channel : ChannelIndex) (record : Record)
  /-- `poll_rx` marked a loss. -/
  | marked (channel : ChannelIndex) (lost : Nat)
  /-- A message was read. -/
  | read (channel : ChannelIndex) (status : Status) (message : Option Message)
  /-- `tx_done` ended a stored message, because of the completion of the transmission that was
  submitted for one. -/
  | ended (channel : ChannelIndex) (message : Nat) (handle : UInt32) (ok : Bool)
      (completion : Option Nat)
  /-- `finish_bus_tx` told how the transmission of a scheduled message ended. -/
  | told (channel : ChannelIndex) (handle : UInt32) (ok : Bool)
  /-- A frame was given to the sender of a channel that transmits. -/
  | heard (channel : ChannelIndex) (sender : Tx) (nowUs : Time) (answers : Option Nat)
  /-- The deadline of a reception was checked, with a flow control stored or not. -/
  | aged (channel : ChannelIndex) (waiting : Bool) (receiver : Rx) (nowUs : Time)
  /-- A frame was given to a receiver, with a flow control stored or not. -/
  | fed (channel : ChannelIndex) (waiting : Bool) (receiver : Rx) (frame : CanFrame)
      (answers : Option Nat)
  /-- A receiver was reset because the link went down, with a flow control stored or not. -/
  | reset (channel : ChannelIndex) (waiting : Bool)
  /-- A flow control of one generation completed while the channel was in another. -/
  | flowCompleted (channel : ChannelIndex) (own current : Nat)
  /-- A stored flow control was submitted. -/
  | flowSubmitted (channel : ChannelIndex) (state : RxState) (own current : Nat)
  /-- A scheduled message was picked, among the jobs of every channel of the bus. -/
  | scheduled (physical : ChannelIndex) (nowUs : Time) (drained : Bool)
      (jobs : List (ChannelIndex × Scheduler)) (channel : ChannelIndex) (slot : Slot)
  /-- A job was changed, and is this behind it. -/
  | job (channel : ChannelIndex) (slot : Slot) (change : JobChange) (after : Job)
  deriving DecidableEq

/-- The core: `channels`, `device`, `next_id`, the vehicle interface, and the history. -/
structure Core (σ : Type*) where
  channels : ChannelIndex → Channel := fun _ => {}
  device : UInt32 := 0
  nextId : UInt32 := 1
  env : σ
  log : List Event := []

section Code

variable {σ : Type*}

/-- Change one channel. -/
def Core.modify (core : Core σ) (i : ChannelIndex) (change : Channel → Channel) : Core σ :=
  { core with channels := Function.update core.channels i (change (core.channels i)) }

/-- Record an event. -/
def Core.record (core : Core σ) (event : Event) : Core σ :=
  { core with log := core.log ++ [event] }

/-- `now_us`. -/
def Core.now (vif : Vif σ) (core : Core σ) : Time × Core σ :=
  let (time, env) := vif.now core.env
  (time, { core with env })

def newId (core : Core σ) : UInt32 × Core σ :=
  let nextId := if core.nextId + 1 = 0 then 1 else core.nextId + 1
  (nextId, { core with nextId })

def be32 (data : List UInt8) : UInt32 :=
  (data.getD 0 0).toUInt32 <<< 24 ||| (data.getD 1 0).toUInt32 <<< 16 |||
    (data.getD 2 0).toUInt32 <<< 8 ||| (data.getD 3 0).toUInt32

def putBe32 (value : UInt32) : List UInt8 :=
  [(value >>> 24).toUInt8, (value >>> 16).toUInt8, (value >>> 8).toUInt8, value.toUInt8]

def findChannel (core : Core σ) (id : UInt32) : Option ChannelIndex :=
  allChannels.find? fun i => id ≠ 0 && (core.channels i).id = id

def physicalChannel (core : Core σ) (i : ChannelIndex) : Option ChannelIndex :=
  if (core.channels i).parent ≠ 0 then findChannel core (core.channels i).parent else some i

def channelIsLive (vif : Vif σ) (core : Core σ) (i : ChannelIndex) : Bool :=
  (physicalChannel core i).isSome && vif.isOpen (core.channels i).bus core.env

/-! ## The queue of a channel -/

/-- `enqueue_rx`. -/
def enqueue (core : Core σ) (i : ChannelIndex) (handle status : UInt32) (timestamp : Time)
    (data : List UInt8) (indication : Bool) : Core σ :=
  let protocol := (core.channels i).protocol
  (core.modify i fun channel => { channel with
    queue := enqueueRx channel.queue protocol handle status timestamp data indication }).record
      (.enqueued i { protocol, handle, status, timestamp, data, indication })

/-- `filter_accepts`, for one filter: it does not apply, passes or blocks. -/
def Filter.verdict (filter : Filter) (data : List UInt8) (flags : UInt32) : Option Bool :=
  if filter.id = 0 || filter.mask.length > data.length ||
      (filter.flags ^^^ flags) &&& flag29Bit ≠ 0 then none
  else if (List.range filter.mask.length).all fun j =>
      data.getD j 0 &&& filter.mask.getD j 0 = filter.pattern.getD j 0 &&& filter.mask.getD j 0 then
    some (filter.type ≠ filterBlock)
  else none

/-- `filter_accepts`: a filter that blocks ends the loop. -/
def filterAccepts (filters : List Filter) (data : List UInt8) (flags : UInt32) : Bool :=
  let verdicts := filters.filterMap fun filter => filter.verdict data flags
  !verdicts.contains false && verdicts.contains true

def canFlagsMatch (channel : Channel) (flags : UInt32) : Bool :=
  channel.flags &&& flagCanBoth ≠ 0 || (channel.flags ^^^ flags) &&& flag29Bit = 0

def canIdValid (data : List UInt8) (flags : UInt32) : Bool :=
  be32 data ≤ if flags &&& flag29Bit ≠ 0 then canEffMask else canSffMask

/-- `echo_can`. -/
def echoCan (core : Core σ) (physical : ChannelIndex) (frame : CanFrame) (timestamp : Time) :
    Core σ :=
  if (core.channels physical).echo = 0 then core
  else
    let data := putBe32 (frame.id &&& canEffMask) ++ frame.data.load 0 frame.dlc
    let flags := if frame.id &&& canEffFlag ≠ 0 then flag29Bit else 0
    if filterAccepts (core.channels physical).filters data flags then
      enqueue core physical 0 (flags ||| flagTxMsg) timestamp data false
    else core

/-- `cancel_channel_tx`. -/
def cancelChannelTx (vif : Vif σ) (core : Core σ) (i : ChannelIndex) : Core σ :=
  match physicalChannel core i with
  | none => core
  | some physical =>
    if (core.channels physical).pending.channel ≠ (core.channels i).id then core
    else
      let core := core.modify physical fun channel =>
        { channel with pending := { channel.pending with discard := true } }
      { core with env := vif.txCancel (core.channels physical).bus core.env }

/-- `tx_done`; `completion` is a history, see `Event.ended`. -/
def txDone (vif : Vif σ) (core : Core σ) (i : ChannelIndex) (ok : Bool) (completion : Option Nat) :
    Core σ :=
  let handle := (core.channels i).tx.handle
  let core := if handle ≠ 0 then
      let (now, core) := core.now vif
      enqueue core i handle (if ok then flagTxSuccess else flagTxFailed) now [] true
    else core
  (core.modify i fun channel => { channel with txLen := 0, txActive := false }).record
    (.ended i (core.channels i).stored handle ok completion)

end Code

end OpenDiag.J2534
