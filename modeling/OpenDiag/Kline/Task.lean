import Mathlib.Data.List.Basic
import OpenDiag.Kline.Codec

/-!
# The K-Line task

The receive side of the K-Line driver's task, and the state it shares with the transmit side: the
cursor over the UART's bytes, the message under assembly, the transmission whose echo is awaited and
the receive queue.

The task meets the rest of the system where it looks at the UART, its events or the clock. A moment
is what happens up to such a look: time passes, bytes reach the driver's ring, and events are queued.
The world is the list of the moments to come; when it is used up, a microsecond passes up to each
look and no event is queued. The wire holds the bytes that have not reached the ring yet, with the
times at which they do; a byte does not overtake those before it.
-/

namespace OpenDiag.Kline

/-- `uart_event_t`; `other` stands for the types that the task ignores. -/
inductive UartEvent where
  | data (size : Nat)
  | fifoOvf
  | bufferFull
  | lineBreak
  | frameErr
  | parityErr
  | other
  deriving DecidableEq, Repr

/-- What happens until the task looks again. -/
structure Moment where
  elapsed : Nat := 1
  /-- The events that the task takes at this look, in case it looks at the events. -/
  events : List UartEvent := []
  /-- At this look the ring hands over no more than this many bytes and one. -/
  batch : Nat := 63
  /-- By so much a wait that starts at this look falls short of its time. -/
  cut : Nat := 0
  /-- `uart_write_bytes` does not take the byte. -/
  refuses : Bool := false
  /-- `uart_wait_tx_done` does not see the byte leave. -/
  stuck : Bool := false
  deriving DecidableEq, Repr

/-- `BUS_KLINE_FRAME_*`. -/
inductive FrameMode where
  | discovery
  | iso9141
  | iso14230
  deriving DecidableEq, Repr

/-- The parameters of `kline_cfg_t` that the receive side and a transmission read. -/
structure Cfg where
  p1Max : Nat := 40
  p4Min : Nat := 10
  frameMode : FrameMode := .discovery
  checksumRx : Bool := true
  periodicQuiet : Bool := true
  deriving DecidableEq, Repr

/-- The counters of `bus_stats_t` that they count. -/
structure Stats where
  rxMsgs : Nat := 0
  rxBytes : Nat := 0
  rxBadChecksum : Nat := 0
  rxShort : Nat := 0
  rxTooLong : Nat := 0
  rxDropped : Nat := 0
  rxOverrun : Nat := 0
  rxBreak : Nat := 0
  rxFrameErr : Nat := 0
  rxSuppressed : Nat := 0
  txBytes : Nat := 0
  txEchoOk : Nat := 0
  txEchoMissing : Nat := 0
  txEchoBad : Nat := 0
  lastP2Us : Int := 0
  lastP1MaxUs : Int := 0
  deriving DecidableEq, Repr

/-- `kline_frame_t`. -/
structure Frame where
  data : List UInt8 := []
  status : UInt16 := 0
  startUs : Int := 0
  endUs : Int := 0
  sequence : UInt32 := 0
  deriving DecidableEq, Repr

/-- `kline_tx_t`. -/
structure Tx where
  data : List UInt8
  sent : Nat := 0
  echoed : Nat := 0
  announced : Nat := 0
  failed : Bool := false
  deriving DecidableEq, Repr

/-- `bus_rx_epoch_t`. -/
structure RxEpoch where
  sequence : UInt32 := 0
  lostSequence : UInt32 := 0
  deriving DecidableEq, Repr

/-- The driver's static state `g`, with the UART driver's ring and the world. -/
structure Task where
  cfg : Cfg := {}
  world : List Moment := []
  clock : Int := 0
  wire : List (Int × UInt8) := []
  ring : List UInt8 := []
  /-- `uart_pending`, from its position to its length. -/
  uartPending : List UInt8 := []
  uartPendingUs : Int := 0
  asmBuf : List UInt8 := []
  asmStartUs : Int := 0
  asmLastUs : Int := 0
  rxInvalid : Bool := false
  rxInvalidLastUs : Int := 0
  lastBusUs : Int := 0
  txEndUs : Int := 0
  p2Pending : Bool := false
  txAnswered : Bool := false
  suppressUntilUs : Int := 0
  pendingStatus : UInt16 := 0
  uartTxUnresolved : Bool := false
  tx : Option Tx := none
  rxEpoch : RxEpoch := {}
  rxQ : List Frame := []
  stats : Stats := {}
  /-- So many receive errors were taken while a part of an echo was outstanding. The driver does not
  count them. -/
  faults : Nat := 0
  deriving DecidableEq, Repr

/-- `BUS_RX_BREAK`. -/
def rxBreakFlag : UInt16 := 0x2

/-- `BUS_RX_BUFFER_OVERFLOW`. -/
def rxBufferOverflow : UInt16 := 0x8

/-- `BUS_RX_BAD_CHECKSUM`. -/
def rxBadChecksumFlag : UInt16 := 0x10

/-- `BUS_RX_PERIODIC_REPLY`. -/
def rxPeriodicReply : UInt16 := 0x20

/-- `KLINE_RX_QUEUE`. -/
def rxQueueSize : Nat := 8

/-- `KLINE_MIN_MSG`. -/
def minMsg : Nat := 3

/-- `P_TO_US`. -/
def pToUs (value : Nat) : Int := value * 500

/-! ## The world -/

/-- What is due has reached the ring. -/
def Task.arrive (g : Task) : Task :=
  { g with
    ring := g.ring ++ (g.wire.takeWhile (·.1 ≤ g.clock)).map (·.2)
    wire := g.wire.dropWhile (·.1 ≤ g.clock) }

/-- The task looks: a moment passes. -/
def Task.observe (g : Task) : Moment × Task :=
  match g.world with
  | [] => ({}, { g with clock := g.clock + 1 }.arrive)
  | moment :: world => (moment, { g with world, clock := g.clock + moment.elapsed }.arrive)

/-- `now_us`. -/
def Task.nowUs (g : Task) : Int × Task :=
  let g := g.observe.2
  (g.clock, g)

/-- `uart_read_bytes` without a wait. -/
def Task.readBytes (g : Task) (length : Nat) : List UInt8 × Task :=
  let (moment, g) := g.observe
  let count := min length (moment.batch + 1)
  (g.ring.take count, { g with ring := g.ring.drop count })

/-- `uart_read_bytes` for one byte, which waits for it. -/
def Task.waitByte (g : Task) (wait : Nat) : List UInt8 × Task :=
  let (moment, g) := g.observe
  let wait := max 1 (wait - moment.cut)
  match g.ring with
  | byte :: ring => ([byte], { g with ring })
  | [] =>
    match g.wire with
    | (time, byte) :: wire =>
      if time ≤ g.clock + wait then ([byte], { g with clock := time, wire })
      else ([], { g with clock := g.clock + wait })
    | [] => ([], { g with clock := g.clock + wait })

/-! ## The cursor -/

/-- `rx_discard`. -/
def Task.rxDiscard (g : Task) : Task :=
  { g with ring := [], uartPending := [], asmBuf := [], rxInvalid := false }

/-- `uart_fill`, with its wait in microseconds. -/
def Task.uartFill (g : Task) (wait : Nat) : Bool × Task :=
  if !g.uartPending.isEmpty then (true, g)
  else
    let (bytes, g) := g.readBytes 64
    let (bytes, g) := if bytes.isEmpty && wait != 0 then g.waitByte wait else (bytes, g)
    if bytes.isEmpty then (false, g)
    else
      let (now, g) := g.nowUs
      (true, { g with uartPending := bytes, uartPendingUs := now })

/-- `tx_read_echo`, for at most so many bytes. -/
def Task.readEcho : Nat → Task → Task
  | 0, g => g
  | count + 1, g =>
    match g.tx with
    | none => g
    | some tx =>
      if tx.failed then g
      else
        let (filled, g) := g.uartFill 0
        if !filled then g
        else
          match g.uartPending with
          | [] => g
          | byte :: rest =>
            let g := { g with uartPending := rest, lastBusUs := g.uartPendingUs }
            if tx.data[tx.echoed]? ≠ some byte then
              { g with
                tx := some { tx with failed := true }
                stats := { g.stats with txEchoBad := g.stats.txEchoBad + 1 } }
            else
              Task.readEcho count
                { g with
                  tx := some { tx with echoed := tx.echoed + 1 }
                  stats := { g.stats with txEchoOk := g.stats.txEchoOk + 1 } }

/-- `tx_read_echo`. -/
def Task.txReadEcho (g : Task) (limit : Nat) : Task :=
  match g.tx with
  | none => g
  | some tx => g.readEcho (limit - tx.echoed)

/-! ## Events -/

/-- `rx_fault`. -/
def Task.rxFault (g : Task) : Task :=
  let failed := g.tx.map fun tx =>
    if tx.echoed < tx.data.length then { tx with failed := true } else tx
  let (now, g) := { g with tx := failed }.nowUs
  { g with asmBuf := [], rxInvalid := true, rxInvalidLastUs := now }

/-- `bus_rx_next`. -/
def RxEpoch.next (epoch : RxEpoch) : UInt32 × RxEpoch :=
  let sequence := if epoch.sequence + 1 = 0 then 1 else epoch.sequence + 1
  (sequence, { epoch with sequence })

/-- `bus_rx_lost`. -/
def RxEpoch.lost (epoch : RxEpoch) (sequence : UInt32) : RxEpoch :=
  if epoch.lostSequence = 0 ∨ (sequence - epoch.lostSequence).toInt32 > 0 then
    { epoch with lostSequence := sequence }
  else epoch

/-- A receive error is taken. -/
def Task.noteFault (g : Task) : Task :=
  { g with faults := g.faults + if g.tx.any (fun tx => tx.echoed < tx.data.length) then 1 else 0 }

/-- `uart_event`. -/
def Task.uartEvent (g : Task) : UartEvent → Task
  | .data size =>
    match g.tx with
    | none => g
    | some tx =>
      let announced := tx.announced + min size (tx.data.length - tx.announced)
      { g with tx := some { tx with announced } }.txReadEcho (min announced tx.sent)
  | .fifoOvf | .bufferFull =>
    let (sequence, epoch) := g.rxEpoch.next
    { g with
      stats := { g.stats with rxOverrun := g.stats.rxOverrun + 1 }
      rxEpoch := epoch.lost sequence
      pendingStatus := g.pendingStatus ||| rxBufferOverflow }.noteFault.rxDiscard.rxFault
  | .lineBreak =>
    { g with
      stats := { g.stats with rxBreak := g.stats.rxBreak + 1 }
      pendingStatus := g.pendingStatus ||| rxBreakFlag }
  | .frameErr | .parityErr =>
    { g with stats := { g.stats with rxFrameErr := g.stats.rxFrameErr + 1 } }.noteFault.rxFault
  | .other => g

/-- `uart_events`: the events taken at one look. -/
def Task.uartEvents (g : Task) : Task :=
  let (moment, g) := g.observe
  moment.events.foldl Task.uartEvent g

/-- `uart_receive`; there is a byte when the cursor is not empty. -/
def Task.uartReceive (g : Task) (wait : Nat) : Task :=
  (g.uartEvents.uartFill wait).2.uartEvents

/-! ## Assembly -/

/-- `asm_push`. -/
def Task.asmPush (g : Task) (byte : UInt8) (time : Int) : Task :=
  let g :=
    if g.asmBuf.isEmpty then { g with asmStartUs := time }
    else if time - g.asmLastUs > g.stats.lastP1MaxUs then
      { g with stats := { g.stats with lastP1MaxUs := time - g.asmLastUs } }
    else g
  let g :=
    if g.asmBuf.length < maxMsg then { g with asmBuf := g.asmBuf ++ [byte] }
    else
      { g with
        stats := { g.stats with rxTooLong := g.stats.rxTooLong + 1 }
        asmStartUs := time
        asmBuf := [byte] }
  { g with asmLastUs := time }

/-- `kline_frame_ok`. -/
def frameOk (buf : List UInt8) : Bool :=
  if buf.length < minMsg ∨ maxMsg < buf.length then false
  else buf.getLast? == some (checksum buf.dropLast)

/-- The message is whole by its length, before any gap. -/
def Task.asmWhole (g : Task) : Bool :=
  g.cfg.frameMode != .iso9141 &&
    ((msgLen g.asmBuf != 0 && g.asmBuf.length == msgLen g.asmBuf &&
        (g.cfg.frameMode == .iso14230 || (g.cfg.checksumRx && frameOk g.asmBuf))) ||
      (g.cfg.frameMode == .discovery && g.cfg.checksumRx &&
        (g.asmBuf.head?.any isCarbFmt) && g.asmBuf.length == carbMaxMsg && frameOk g.asmBuf))

/-- `asm_complete`, from its label `validate`. -/
def Task.asmValidate (g : Task) : Option Frame × Task :=
  let checksumOk :=
    if g.cfg.frameMode = .iso9141 then
      2 ≤ g.asmBuf.length && g.asmBuf.getLast? == some (checksum g.asmBuf.dropLast)
    else frameOk g.asmBuf
  let bad := (g.cfg.checksumRx || g.cfg.frameMode == .discovery) && !checksumOk
  let g :=
    if bad then { g with stats := { g.stats with rxBadChecksum := g.stats.rxBadChecksum + 1 } }
    else g
  if bad && g.cfg.checksumRx then (none, { g with asmBuf := [] })
  else
    (some
        { data := g.asmBuf
          status := if bad then rxBadChecksumFlag else 0
          startUs := g.asmStartUs
          endUs := g.asmLastUs },
      { g with asmBuf := [] })

/-- `asm_complete`. -/
def Task.asmComplete (g : Task) (gapElapsed : Bool) : Option Frame × Task :=
  if g.asmBuf.isEmpty then (none, g)
  else if g.asmWhole then g.asmValidate
  else if !gapElapsed then (none, g)
  else
    let least :=
      if g.cfg.frameMode = .iso9141 then (if g.cfg.checksumRx then 2 else 1) else minMsg
    if g.asmBuf.length < least then
      (none,
        { g with
          stats := { g.stats with rxShort := g.stats.rxShort + 1 }
          asmBuf := [] })
    else g.asmValidate

/-- The body of `rx_drain`'s loop, for one byte. -/
def Task.drainByte (g : Task) (byte : UInt8) : Option Frame × Task :=
  let g :=
    { g with
      stats := { g.stats with rxBytes := g.stats.rxBytes + 1 }
      lastBusUs := g.uartPendingUs }
  if g.rxInvalid then
    let gap := g.uartPendingUs - g.rxInvalidLastUs ≥ pToUs g.cfg.p1Max
    let g := { g with rxInvalidLastUs := max g.rxInvalidLastUs g.uartPendingUs }
    if !gap then (none, g)
    else ({ g with rxInvalid := false }.asmPush byte g.uartPendingUs).asmComplete false
  else (g.asmPush byte g.uartPendingUs).asmComplete false

/-- The bytes that the loop can still meet. -/
def Task.stream (g : Task) : List UInt8 :=
  g.uartPending ++ g.ring ++ g.wire.map (·.2)

/-- `rx_drain`'s loop. Every round takes a byte off the stream. -/
def Task.drainLoop : Nat → Task → Option Frame × Task
  | 0, g => (none, g)
  | rounds + 1, g =>
    let g := g.uartReceive 0
    match g.uartPending with
    | [] => (none, g)
    | byte :: rest =>
      match { g with uartPending := rest }.drainByte byte with
      | (some frame, g) => (some frame, g)
      | (none, g) => Task.drainLoop rounds g

/-- `rx_drain`. -/
def Task.rxDrain (g : Task) : Option Frame × Task :=
  if g.uartTxUnresolved then (none, g.rxDiscard)
  else g.drainLoop (g.stream.length + 1)

/-! ## Delivery -/

/-- `publish`, from its look at the clock. -/
def Task.deliver (g : Task) (frame : Frame) : Task :=
  let (now, g) := g.nowUs
  let suppressed := now < g.suppressUntilUs
  let g :=
    if suppressed then { g with stats := { g.stats with rxSuppressed := g.stats.rxSuppressed + 1 } }
    else g
  if suppressed ∧ g.cfg.periodicQuiet then g
  else
    let frame :=
      if suppressed then { frame with status := frame.status ||| rxPeriodicReply } else frame
    let (sequence, epoch) := g.rxEpoch.next
    if rxQueueSize ≤ g.rxQ.length then
      { g with
        rxEpoch := epoch.lost sequence
        stats := { g.stats with rxDropped := g.stats.rxDropped + 1 }
        pendingStatus := g.pendingStatus ||| rxBufferOverflow }
    else
      { g with
        rxEpoch := epoch
        rxQ := g.rxQ ++ [{ frame with sequence }]
        stats := { g.stats with rxMsgs := g.stats.rxMsgs + 1 } }

/-- `publish`. -/
def Task.publish (g : Task) (frame : Frame) : Task :=
  let g :=
    if g.p2Pending then
      { g with
        stats := { g.stats with lastP2Us := frame.startUs - g.txEndUs }
        p2Pending := false }
    else g
  { g with txAnswered := true, pendingStatus := 0 }.deliver
    { frame with status := frame.status ||| g.pendingStatus }

end OpenDiag.Kline
