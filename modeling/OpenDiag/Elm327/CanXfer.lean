import Mathlib.Data.Fintype.Basic
import OpenDiag.Elm327.Command
import OpenDiag.Elm327.Timing
import OpenDiag.Isotp.Receive
import OpenDiag.Isotp.Send
import OpenDiag.Lib.Run

/-!
# A request on CAN and its replies

`elm327_can_protocol_xfer`: a request is sent, and until the time for replies is over or all that
were asked for have come, each frame in the range of the replies is followed by one of eight ISO-TP
receivers, answered by a flow control if that is due, and printed.

What each round of the loop receives, and its readings of the clock, are inputs; how long it waits
for a frame is left out, and so is how a line is laid out.
-/

namespace OpenDiag.Elm327

open Isotp

/-! ## Timers -/

/-- `Timer` of `timer.c`, in milliseconds of the tick count. -/
structure Timer where
  startMs : UInt32
  timeoutMs : UInt32
  deriving DecidableEq, Repr

/-- `Timer_is_expired`. -/
def Timer.isExpired (timer : Timer) (currentMs : UInt32) : Bool :=
  currentMs - timer.startMs ≥ timer.timeoutMs

/-- `Timer_elapsed_ms`. -/
def Timer.elapsedMs (timer : Timer) (currentMs : UInt32) : UInt32 :=
  currentMs - timer.startMs

/-! ## Settings and addresses -/

/-- `elm327_ctx_t`, as far as a request on CAN reads it. -/
structure CanCtx where
  protocol : Protocol
  headerId : UInt32
  canAutoFormat : Bool
  showHeader : Bool
  timing : Ctx
  deriving DecidableEq, Repr

/-- `elm327_can_is_11bit`. -/
def canIs11Bit (protocol : Protocol) : Bool :=
  protocol = .can11Bit250K || protocol = .can11Bit500K

/-- `elm327_can_reply_id_ok`. -/
def canReplyIdOk (protocol : Protocol) (id : UInt32) : Bool :=
  let extended := id &&& canEffFlag != 0
  if id &&& canRtrFlag != 0 then false
  else if canIs11Bit protocol then !extended && id &&& 0x7F8 == 0x7E8
  else extended && id &&& canEffMask &&& 0x03FFFF00 == 0x00DAF100

/-- `elm327_can_flow_control_id`. -/
def canFlowControlId (protocol : Protocol) (replyId : UInt32) : UInt32 :=
  if canIs11Bit protocol then (replyId &&& canSffMask) - 8
  else (0x18DA0000 : UInt32) ||| ((replyId &&& 0xFF) <<< 8) ||| 0xF1 ||| canEffFlag

/-- `ELM327_CAN_PRIORITY_MASK`. -/
def canPriorityMask : UInt32 := 0x1C000000

/-- What of an identifier is the transport address. -/
def addressMask (protocol : Protocol) : UInt32 :=
  if canIs11Bit protocol then 0xFFFFFFFF else ~~~canPriorityMask

namespace CanCtx

/-- Whether the request goes to all. -/
def multicast (e : CanCtx) : Bool :=
  if canIs11Bit e.protocol then e.headerId == 0x7DF
  else e.headerId &&& addressMask e.protocol == 0x00DB33F1

/-- The identifier of the request. -/
def txId (e : CanCtx) : UInt32 :=
  if e.protocol = .can29Bit250K ∨ e.protocol = .can29Bit500K ∨ e.protocol = .canSaeJ1939 then
    e.headerId ||| canEffFlag
  else e.headerId

/-- The configuration of the transport that formats the request. -/
def requestConfig (e : CanCtx) : Config :=
  { configDefault e.txId e.txId with
    functional := e.multicast
    pad := e.protocol ≠ .canSaeJ1939 }

/-- The frame of the request: nothing where the bytes do not fit one. -/
def requestFrame (e : CanCtx) (frame : List UInt8) : Option CanFrame :=
  let padded (f : CanFrame) : CanFrame :=
    if e.protocol ≠ .canSaeJ1939 then { f with dlc := 8 } else f
  if e.canAutoFormat then
    if frame.length > 7 then none
    else
      let (rc, transport) := txInit { config := e.requestConfig } e.requestConfig
      if rc.isError then none
      else
        let (rc, transport) := txStart transport frame 0
        if rc.isError then none
        else (txNext transport 0).2.2.map padded
  else if frame.length > 8 then none
  else some (padded { id := e.txId, dlc := frame.length, data := (Block.fill 8 0).store 0 frame })

end CanCtx

/-! ## The loop -/

/-- What a request leads to. -/
inductive CanEvent where
  | request (frame : CanFrame)
  | flowControl (frame : CanFrame)
  /-- `elm327_print_can_frame`. -/
  | print (id : UInt32) (dlc : Nat) (data : Block UInt8 8)
  /-- A question mark for a message that was broken off. -/
  | replaced
  deriving DecidableEq

/-- What a round of the loop meets. -/
structure Turn where
  /-- The clock at the top of the loop, and where the timer is asked whether it is expired. -/
  topMs : UInt32
  expiryMs : UInt32
  /-- What `can_frame_recv` returns, and the clock behind it. -/
  rx : Option CanFrame
  rxMs : UInt32
  /-- Whether `can_frame_send_confirmed` succeeds, and the clock behind it. -/
  confirmed : Bool
  confirmedMs : UInt32
  /-- The clock for the latency, and where the timer is started. -/
  latencyMs : UInt32
  restartMs : UInt32
  deriving DecidableEq

/-- A receiver as the `streams` are initialised. -/
def zeroRx : Rx where
  config :=
    { txId := 0, rxId := 0, rxMask := 0, extendedAddress := false, txAddress := 0, rxAddress := 0
      functional := false, pad := false, padValue := 0, blockSize := 0, stmin := 0, waitLimit := 0
      timeoutAUs := 0, timeoutBsUs := 0, timeoutCrUs := 0 }
  buffer := none
  capacity := 0

/-- The variables of the loop, with the timing. -/
structure Xfer where
  timing : Ctx
  streams : Fin 8 → Rx := fun _ => zeroRx
  frameCounter : Nat := 0
  responsePending : Bool := false
  sinceRequest : Timer
  timer : Timer

/-- The loop goes on, or the function has returned. -/
inductive XferState where
  | running (x : Xfer)
  | ended (rc : Int) (x : Xfer)

/-- `elm327_collection_window`. -/
def Ctx.collectionWindow (e : Ctx) : Nat :=
  let window := e.timing.windowMs
  if e.adaptiveTiming ≠ 0 then
    let target := e.latencyMargin e.timing.watch.latencyMs
    if target > window then target else window
  else window

namespace Xfer

/-- The time since the request, in microseconds. -/
def nowUs (x : Xfer) (currentMs : UInt32) : Time :=
  x.sinceRequest.elapsedMs currentMs * 1000

/-- Whether a reception is active. -/
def active (x : Xfer) : Bool :=
  (List.finRange 8).any fun i => (x.streams i).state ≠ .idle

/-- The receiver that is active for the sender of an identifier. -/
def streamFor (x : Xfer) (protocol : Protocol) (id : UInt32) : Option (Fin 8) :=
  (List.finRange 8).reverse.find? fun i =>
    (x.streams i).state ≠ .idle && ((x.streams i).config.rxId ^^^ id) &&& addressMask protocol == 0

/-- The first receiver that is idle. -/
def freeStream (x : Xfer) : Option (Fin 8) :=
  (List.finRange 8).find? fun i => (x.streams i).state = .idle

/-- The configuration of a receiver for an identifier. -/
def replyConfig (protocol : Protocol) (id : UInt32) : Config :=
  { configDefault (canFlowControlId protocol id) id with rxMask := addressMask protocol }

/-- The receiver for a frame, and what it is set to. -/
def select (x : Xfer) (protocol : Protocol) (id : UInt32) : Option (Fin 8 × Rx) :=
  match x.streamFor protocol id with
  | some i => some (i, x.streams i)
  | none =>
    x.freeStream.map fun i =>
      (i, (rxInit (x.streams i) (replyConfig protocol id) none isotpMaxPayload).2)

/-- A receiver is changed. -/
def setStream (x : Xfer) (i : Fin 8) (stream : Rx) : Xfer :=
  { x with streams := Function.update x.streams i stream }

/-- The end of a round, once the receiver has taken the frame. -/
def display (e : CanCtx) (numFrame : Int) (x : Xfer) (turn : Turn) (rx : CanFrame)
    (segment : Segment) : XferState × List CanEvent :=
  let dlc :=
    if e.canAutoFormat && !e.showHeader && !segment.started then 1 + segment.length else rx.dlc
  let latencyMs := x.sinceRequest.elapsedMs turn.latencyMs
  let pending := segment.started && segment.complete && segment.length == 3 &&
    segment.data.getD 0 0 == 0x7F && segment.data.getD 2 0 == 0x78
  let x := { x with
    timing := x.timing.timingReply latencyMs.toNat pending
    frameCounter := x.frameCounter + 1 }
  let state : XferState :=
    if pending then
      .running { x with
        timer := ⟨turn.restartMs, UInt32.ofNat responsePendingMs⟩
        responsePending := true }
    else if numFrame > 0 ∧ (x.frameCounter : Int) ≥ numFrame then .ended 0 x
    else if !e.multicast && segment.complete then .ended 0 x
    else if !x.responsePending then
      .running { x with timer := ⟨turn.restartMs, UInt32.ofNat x.timing.collectionWindow⟩ }
    else .running x
  (state, [.print rx.id dlc rx.data])

/-- The rest of a round, once a receiver has been found. -/
def receive (e : CanCtx) (numFrame : Int) (x : Xfer) (turn : Turn) (rx : CanFrame) (i : Fin 8)
    (stream : Rx) : XferState × List CanEvent :=
  let now := x.nowUs turn.rxMs
  let (ret, stream, segment) := rxFeed stream rx now
  if ret.isError then (.ended (-2) (x.setStream i stream), [])
  else if ret.code = 0 then (.running (x.setStream i stream), [])
  else
    let replaced := if segment.replaced then [.replaced] else []
    let (ret, stream, fc) := rxFlowControl stream now
    if ret.isError then (.ended (-2) (x.setStream i stream), replaced)
    else
      match fc with
      | none =>
        let (state, events) := (x.setStream i stream).display e numFrame turn rx segment
        (state, replaced ++ events)
      | some fc =>
        let (ret, stream) := rxConfirm stream turn.confirmed (x.nowUs turn.confirmedMs)
        if ret.isError then (.ended (-2) (x.setStream i stream), replaced ++ [.flowControl fc])
        else
          let (state, events) := (x.setStream i stream).display e numFrame turn rx segment
          (state, replaced ++ [.flowControl fc] ++ events)

/-- A round of the loop. -/
def round (e : CanCtx) (numFrame : Int) (x : Xfer) (turn : Turn) : XferState × List CanEvent :=
  let now := x.nowUs turn.topMs
  if (List.finRange 8).any fun i => (rxCheckTimeout (x.streams i) now).1.isError then
    (.ended (-2) x, [])
  else
    let x := { x with streams := fun i => (rxCheckTimeout (x.streams i) now).2 }
    if !x.active && x.timer.isExpired turn.expiryMs then
      let incomplete := decide (numFrame > 0 ∧ (x.frameCounter : Int) < numFrame)
      let timing := { x.timing with timing := { x.timing.timing with incomplete } }
      (.ended (if x.frameCounter ≠ 0 then 0 else -1) { x with timing }, [])
    else
      match turn.rx with
      | none => (.running x, [])
      | some rx =>
        if rx.dlc = 0 || rx.dlc > 8 || !canReplyIdOk e.protocol rx.id then (.running x, [])
        else if !e.multicast &&
            (canFlowControlId e.protocol rx.id ^^^ e.txId) &&& addressMask e.protocol != 0 then
          (.running x, [])
        else if !e.canAutoFormat && rx.dlc ≥ 3 && rx.data.read 0 >>> 4 == 3 then
          (.ended 0 x, [.print rx.id rx.dlc rx.data])
        else
          match x.select e.protocol rx.id with
          | none => (.ended (-2) x, [])
          | some (i, stream) => x.receive e numFrame turn rx i stream

end Xfer

/-- A round of the loop, while it goes on. -/
def XferState.step (e : CanCtx) (numFrame : Int) : XferState → Turn → XferState × List CanEvent
  | .running x, turn => x.round e numFrame turn
  | .ended rc x, _ => (.ended rc x, [])

/-- What `elm327_can_protocol_xfer` meets before the loop: whether the bus is open or opens, whether
the request is sent, and its readings of the clock. -/
structure Link where
  opened : Bool
  sent : Bool
  windowUs : Int
  sentUs : Int
  startMs : UInt32
  timerMs : UInt32
  deriving DecidableEq, Repr

/-- The loop's variables when it begins. -/
def CanCtx.begun (e : CanCtx) (link : Link) (numFrame : Int) : Xfer :=
  let timing := e.timing.timingBegin link.windowUs link.sentUs numFrame
  { timing
    sinceRequest := ⟨link.startMs, 0⟩
    timer := ⟨link.timerMs, UInt32.ofNat timing.timing.windowMs⟩ }

/-- `elm327_can_protocol_xfer`, over so many rounds of its loop. -/
def canProtocolXfer (e : CanCtx) (link : Link) (frame : List UInt8) (numFrame : Int)
    (turns : List Turn) : XferState × List CanEvent :=
  let x := e.begun link numFrame
  if !link.opened then (.ended (-2) { x with timing := e.timing }, [])
  else
    match e.requestFrame frame with
    | none => (.ended (-2) { x with timing := e.timing }, [])
    | some request =>
      if !link.sent then (.ended (-2) { x with timing := e.timing }, [.request request])
      else if numFrame = 0 || !e.timing.responses then (.ended 0 x, [.request request])
      else
        let step := XferState.step e numFrame
        (final step (.running x) turns, .request request :: (outputs step (.running x) turns).flatten)

end OpenDiag.Elm327
