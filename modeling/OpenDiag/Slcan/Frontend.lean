import OpenDiag.Lib.Lines
import OpenDiag.Lib.Run
import OpenDiag.Slcan.Codec

/-!
# The SLCAN front-end

`slcan.c`: lines are assembled from the bytes of the client and run as commands, received frames
are forwarded as lines, and everything that is said is batched in one buffer.
-/

namespace OpenDiag.Slcan

/-- `SLCAN_CMD_MAX`. -/
def cmdMax : Nat := 32

/-- `SLCAN_RX_BURST`. -/
def rxBurst : Nat := 32

/-- `SLCAN_TX_BUF`. -/
def txBuf : Nat := 512

/-- The link's CAN bus as the front-end calls it, over whatever state the bus has. -/
structure CanPort (σ : Type*) where
  /-- `vif_bus_is_open`. -/
  isOpen : σ → Bool
  /-- `vif_bus_current` is the CAN bus. -/
  isCurrent : σ → Bool
  /-- `vif_bus_open` with a bit rate, and whether it succeeds. -/
  openBus : σ → UInt32 → σ × Bool
  /-- `vif_bus_close`, and whether it succeeds. -/
  closeBus : σ → σ × Bool
  /-- `can_frame_send`, and whether it succeeds. -/
  send : σ → CanFrame → σ × Bool
  /-- `can_frame_recv` without a wait. -/
  recv : σ → σ × Option CanFrame

/-- `txbuf` and `txlen`. -/
structure TxBatch where
  cells : Block UInt8 txBuf
  len : Nat
  fits : len ≤ txBuf

/-- What is composed. -/
def TxBatch.bytes (tx : TxBatch) : List UInt8 :=
  tx.cells.load 0 tx.len

def TxBatch.empty (tx : TxBatch) : TxBatch :=
  ⟨tx.cells, 0, Nat.zero_le _⟩

def TxBatch.add (tx : TxBatch) (text : List UInt8) (room : text.length ≤ txBuf - tx.len) :
    TxBatch :=
  ⟨tx.cells.store tx.len text, tx.len + text.length, by have := tx.fits; omega⟩

/-- `slcan_ctx_t`, with the bus and with what has been written to the link. -/
structure Ctx (σ : Type*) where
  bitrate : UInt32
  cmd : LineBuffer UInt8 cmdMax
  discard : Bool
  tx : TxBatch
  bus : σ
  writes : List (List UInt8) := []

variable {σ : Type*}

/-- `slcan_fe_start`. -/
def Ctx.start (bus : σ) : Ctx σ :=
  { bitrate := 500000
    cmd := ⟨.fill cmdMax 0, 0, by decide⟩
    discard := false
    tx := ⟨.fill txBuf 0, 0, by decide⟩
    bus }

namespace Ctx

/-! ## Output -/

/-- `slcan_flush`. -/
def flush (c : Ctx σ) : Ctx σ :=
  if c.tx.len = 0 then c else { c with tx := c.tx.empty, writes := c.writes ++ [c.tx.bytes] }

/-- A flush empties the buffer. -/
theorem len_flush (c : Ctx σ) : c.flush.tx.len = 0 := by
  unfold flush
  split
  · assumption
  · rfl

/-- `slcan_write`. -/
def write (c : Ctx σ) (text : List UInt8) : Ctx σ :=
  if long : text.length > txBuf then c
  else if full : text.length > txBuf - c.tx.len then
    { c.flush with tx := c.flush.tx.add text (by rw [len_flush]; omega) }
  else { c with tx := c.tx.add text (by omega) }

/-- The answer to a line. -/
def verdict (ok : Bool) : List UInt8 :=
  [if ok then ascii '\r' else 7]

/-- `slcan_ack`. -/
def ack (c : Ctx σ) : Ctx σ := c.write (verdict true)

/-- `slcan_nack`. -/
def nack (c : Ctx σ) : Ctx σ := c.write (verdict false)

/-- `slcan_reply_str`. -/
def replyStr (c : Ctx σ) (text : String) : Ctx σ := c.write (text.toList.map ascii)

/-! ## Commands -/

/-- `slcan_bitrate`. -/
def bitrateOf (digit : UInt8) : UInt32 :=
  if digit = ascii '2' then 50000
  else if digit = ascii '4' then 125000
  else if digit = ascii '5' then 250000
  else if digit = ascii '6' then 500000
  else if digit = ascii '8' then 1000000
  else 0

variable (port : CanPort σ)

/-- `slcan_send_frame`. -/
def sendFrame (c : Ctx σ) (buf : List UInt8) (rtr ext : Bool) : Ctx σ :=
  if !port.isOpen c.bus then c.nack
  else
    match parseFrame buf rtr ext with
    | none => c.nack
    | some frame =>
      let (bus, sent) := port.send c.bus frame
      if sent then { c with bus }.ack else { c with bus }.nack

/-- `slcan_open_bus`. -/
def openBus (c : Ctx σ) : Ctx σ :=
  if port.isOpen c.bus then c.ack
  else
    let (bus, opened) := port.openBus c.bus c.bitrate
    if opened then { c with bus }.ack else { c with bus }.nack

/-- `slcan_close_bus`. -/
def closeBus (c : Ctx σ) : Ctx σ :=
  if port.isCurrent c.bus then
    let (bus, closed) := port.closeBus c.bus
    if closed then { c with bus }.ack else { c with bus }.nack
  else c.ack

/-- The arm of `slcan_parse_command` for a bit rate. -/
def setBitrate (c : Ctx σ) (digit : UInt8) : Ctx σ :=
  let rate := bitrateOf digit
  if rate = 0 then c.nack
  else
    let c := { c with bitrate := rate }
    if port.isOpen c.bus then
      let (bus, opened) := port.openBus c.bus rate
      if opened then { c with bus }.ack else { c with bus }.nack
    else c.ack

/-- `slcan_parse_command`. -/
def parseCommand (c : Ctx σ) (buf : List UInt8) : Ctx σ :=
  let letter := buf.getD 0 0
  if letter = ascii 'O' then c.openBus port
  else if letter = ascii 'C' then c.closeBus port
  else
    match letterKind letter with
    | some (rtr, ext) => c.sendFrame port buf rtr ext
    | none =>
      if letter = ascii 'S' then c.setBitrate port (buf.getD 1 0)
      else if letter = ascii 'M' ∨ letter = ascii 'm' then c.ack
      else if letter = ascii 'F' then (c.replyStr "F00").ack
      else if letter = ascii 'V' then (c.replyStr "V-082021").ack
      else if letter = ascii 'N' then (c.replyStr "N2208").ack
      else c.nack

/-! ## Input and received frames -/

/-- One round of `slcan_fe_feed`. -/
def feedByte (c : Ctx σ) (val : UInt8) : Ctx σ :=
  if val = ascii '\r' then
    let c :=
      if c.discard then { c with discard := false }.nack
      else if c.cmd.count > 0 then
        let c := { c with cmd := c.cmd.put 0 }
        c.parseCommand port c.cmd.text
      else c
    { c with cmd := c.cmd.rewind }.flush
  else if c.discard then c
  else
    let (cmd, wrapped) := c.cmd.push val
    if wrapped then { c with cmd, discard := true } else { c with cmd }

/-- `slcan_fe_feed`. -/
def feed (c : Ctx σ) (data : List UInt8) : Ctx σ :=
  data.foldl (feedByte port) c

/-- The loop of `slcan_fe_poll`, with so many frames left to forward; how many it forwards. -/
def forward (c : Ctx σ) : Nat → Ctx σ × Nat
  | 0 => (c, 0)
  | left + 1 =>
    match port.recv c.bus with
    | (bus, none) => ({ c with bus }, 0)
    | (bus, some frame) =>
      let (c, forwarded) := ({ c with bus }.write (printFrame frame)).forward left
      (c, forwarded + 1)

/-- `slcan_fe_poll`. -/
def poll (c : Ctx σ) : Ctx σ :=
  if !port.isOpen c.bus then c
  else
    let (c, forwarded) := c.forward port rxBurst
    if forwarded > 0 then c.flush else c

end Ctx

/-- What the link task calls. -/
inductive Call where
  | feed (data : List UInt8)
  | poll
  deriving DecidableEq, Repr

/-- The bytes of the client that a call brings. -/
def Call.data : Call → List UInt8
  | .feed data => data
  | .poll => []

def Ctx.step (port : CanPort σ) (c : Ctx σ) : Call → Ctx σ
  | .feed data => c.feed port data
  | .poll => c.poll port

end OpenDiag.Slcan
