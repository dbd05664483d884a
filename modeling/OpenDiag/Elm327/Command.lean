import OpenDiag.Utility

/-!
# Commands of the ELM327 interpreter

`elm327_parse_command`: a line is an AT command or a request in hexadecimal digits, and every line
ends with a prompt. What the commands and the exchanges do is left to the rest of the interpreter.
-/

namespace OpenDiag.Elm327

/-- `enum elm327_protocol`. -/
inductive Protocol where
  | auto
  | j1850Pwm
  | j1850Vpw
  | iso9141
  | iso14230Kwp5Baud
  | iso14230KwpFast
  | can11Bit500K
  | can29Bit500K
  | can11Bit250K
  | can29Bit250K
  | canSaeJ1939
  | canUser1
  | canUser2
  deriving DecidableEq, Repr

/-- `elm327_is_kwp`. -/
def Protocol.isKwp (proto : Protocol) : Bool :=
  proto = .iso14230Kwp5Baud || proto = .iso14230KwpFast

/-- Text of the source as bytes. -/
def str (text : String) : List UInt8 :=
  text.toList.map ascii

/-- What a request starts: a search, which leaves out a protocol, or an exchange on a bus. -/
inductive Exchange where
  | search (skip : Protocol)
  | j1850Pwm
  | j1850Vpw
  | kline
  | can
  deriving DecidableEq, Repr

/-- What a line leads to. -/
inductive Event where
  /-- A byte that is sent back. -/
  | echo (val : UInt8)
  /-- The marker of `ble_uart_trace_note` for a command. -/
  | note (cmd : List UInt8)
  /-- Text for the client. -/
  | text (bytes : List UInt8)
  /-- A request with its frame count, which is -1 if it has none. -/
  | exchange (which : Exchange) (frame : List UInt8) (numFrame : Int)
  deriving DecidableEq, Repr

/-- The rest of the interpreter, over whatever state it has: some of its settings, and the functions
that a command calls, with the texts that they send. -/
structure Interpreter (σ : Type*) where
  echo : σ → Bool
  protocol : σ → Protocol
  autoFallback : σ → Bool
  responses : σ → Bool
  /-- `elm327_observe_late_replies`. -/
  observeLateReplies : σ → σ
  /-- The watch over late replies becomes inactive. -/
  stopWatch : σ → σ
  /-- The marker of a fallback and the protocol to search first are cleared. -/
  clearFallback : σ → σ
  /-- `elm327_timing_finish`. -/
  timingFinish : σ → σ
  /-- `elm327_at_command_handler`. -/
  atCommandHandler : σ → List UInt8 → σ × List (List UInt8)
  /-- `elm327_search_protocol_xfer` and the transfers on the buses, with their results. -/
  xfer : Exchange → σ → List UInt8 → Int → σ × Int × List (List UInt8)

/-- What the transfer of a protocol is, where it has one. -/
def Protocol.exchange? : Protocol → Option Exchange
  | .auto => some (.search .auto)
  | .j1850Pwm => some .j1850Pwm
  | .j1850Vpw => some .j1850Vpw
  | .iso9141 | .iso14230Kwp5Baud | .iso14230KwpFast => some .kline
  | .can29Bit500K | .can29Bit250K | .can11Bit500K | .can11Bit250K => some .can
  | .canSaeJ1939 | .canUser1 | .canUser2 => none

namespace Interpreter

variable {σ : Type*} (i : Interpreter σ)

/-- A transfer with what it leads to; a search says so first. -/
def start (which : Exchange) (s : σ) (frame : List UInt8) (numFrame : Int) :
    σ × Int × List Event :=
  let (s, rc, texts) := i.xfer which s frame numFrame
  let searching := match which with
    | .search _ => [.text (str "SEARCHING...\r")]
    | _ => []
  (s, rc, searching ++ .exchange which frame numFrame :: texts.map .text)

/-- The transfer of the selected protocol. -/
def transfer (s : σ) (frame : List UInt8) (numFrame : Int) : σ × Int × List Event :=
  match (i.protocol s).exchange? with
  | some which => i.start which s frame numFrame
  | none => (s, -2, [])

/-- The search for another protocol, if a transfer failed and a fallback is set. -/
def fallBack (frame : List UInt8) (numFrame : Int) :
    σ × Int × List Event → σ × Int × List Event
  | (s, rc, events) =>
    if rc < 0 ∧ rc ≠ -3 ∧ i.autoFallback s then
      let (s', rc, searched) :=
        i.start (.search (i.protocol s)) (i.clearFallback s) frame numFrame
      (s', rc, events ++ searched)
    else (s, rc, events)

/-- How a transfer ended. -/
def report (rc : Int) : List Event :=
  if rc = -1 then [.text (str "NO DATA\r")]
  else if rc = -3 then []
  else if rc < 0 then [.text (str "?\r")]
  else []

/-- The arm of `elm327_parse_command` for a request that was read. -/
def request (s : σ) (frame : List UInt8) (numFrame : Int) : σ × List Event :=
  let (s, rc, events) := i.fallBack frame numFrame (i.transfer s frame numFrame)
  let s :=
    if i.responses s ∧ numFrame ≠ 0 ∧ (rc = 0 ∨ rc = -1) then i.timingFinish s
    else i.stopWatch s
  (s, events ++ report rc)

/-- What `elm327_parse_command` does with a string before the prompt. -/
def answer (s : σ) (cmd : List UInt8) : σ × List Event :=
  if cmd.getD 0 0 = ascii 'A' ∧ cmd.getD 1 0 = ascii 'T' then
    let (s, texts) := i.atCommandHandler s (cmd.drop 2)
    (s, texts.map .text)
  else
    let len := cmd.length
    let numFrame := if len % 2 = 1 then hexCharToInt (cmd.getD (len - 1) 0) else -1
    let len := if len % 2 = 1 then len - 1 else len
    if len > 16 then (s, [.text (str "?\r")])
    else
      let (frameLen, frame) := hexStringToU8Array cmd len 8
      if frameLen ≤ 0 then (s, [.text (str "?\r")]) else i.request s frame numFrame

/-- `elm327_parse_command`. -/
def parseCommand (s : σ) (buf : List UInt8) : σ × List Event :=
  let cmd := cString buf
  let (s, events) := i.answer (i.stopWatch (i.observeLateReplies s)) cmd
  (s, .note cmd :: events ++ [.text (str "\r>")])

end Interpreter

/-- An interpreter without a vehicle, which can turn its echo on and off. -/
def benchInterpreter (selected : Protocol) : Interpreter Bool where
  echo := id
  protocol _ := selected
  autoFallback _ := false
  responses _ := true
  observeLateReplies := id
  stopWatch := id
  clearFallback := id
  timingFinish := id
  atCommandHandler echo cmd :=
    if cmd = str "E0" then (false, [str "OK\r"])
    else if cmd = str "E1" then (true, [str "OK\r"])
    else (echo, [str "?\r"])
  xfer _ echo _ _ := (echo, -1, [])

end OpenDiag.Elm327
