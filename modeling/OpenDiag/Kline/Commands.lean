import Mathlib.Data.Fintype.Basic
import OpenDiag.Kline.Codec
import OpenDiag.Lib.Run

/-!
# How a caller hands a command to the K-Line task

`run_cmd`, its callers, the commands of `kline_task`, `kline_open` and `kline_close` of `kline.c`.
The callers share one request, one queue of one command and one semaphore with the task, and a
mutex keeps them apart; a caller may stop waiting while the task still has its command. A turn is
one read or write of what is shared. The vehicle interface opens and closes the driver when no call
is inside. A ticket stands for a command together with what its caller wrote for it, and the log is
a history; no code reads either.
-/

namespace OpenDiag.Kline.Commands

/-! ## The driver -/

def errTimeout : Int := -1
def errNotReady : Int := -3

/-- `BUS_TX_NO_CHECKSUM`. -/
def txNoChecksum : UInt32 := 1

/-- `KLINE_INIT_ADDR_OBD`. -/
def initAddrObd : UInt8 := 0x33

/-- `kline_cmd_t`. -/
inductive Cmd where
  | tx
  | fiveBaud
  | fastInit
  | stopComm
  deriving DecidableEq, Repr

def Cmd.initializes : Cmd → Bool
  | .fiveBaud | .fastInit => true
  | .tx | .stopComm => false

/-- `req`, `req_flags`, and whether there is a `req_control`. -/
structure Request where
  data : List UInt8 := []
  flags : UInt32 := 0
  controlled : Bool := false
  deriving DecidableEq, Repr

/-- `bus_init_t`. -/
structure BusInit where
  address : UInt8 := 0
  msg : List UInt8 := []
  rawResponse : Bool := false
  noResponse : Bool := false
  txFlags : UInt32 := 0
  key : UInt8 × UInt8 := (0, 0)
  reply : List UInt8 := []
  replyTimestampUs : UInt32 := 0
  deriving DecidableEq, Repr

/-- What an initialization writes to what its caller gave. -/
structure InitResult where
  key : UInt8 × UInt8 := (0, 0)
  reply : List UInt8 := []
  replyTimestampUs : UInt32 := 0
  deriving DecidableEq, Repr

def BusInit.store (io : BusInit) (result : InitResult) : BusInit :=
  { io with
    key := result.key, reply := result.reply, replyTimestampUs := result.replyTimestampUs }

/-- `frame_for_tx`. -/
def frameForTx (checksumTx : Bool) (data : List UInt8) (flags : UInt32) : Option (List UInt8) :=
  let add := checksumTx && flags &&& txNoChecksum = 0
  if data.length = 0 ∨ data.length + (if add then 1 else 0) > maxMsg then none
  else some (if add then data ++ [checksum data] else data)

/-- The two flags of `g.cfg` that a command is framed and driven by. -/
inductive Param where
  | checksumTx
  | kLineOnly
  deriving DecidableEq, Repr

/-- Their values. What else `g.cfg` holds is left out, as it is also written while a command runs. -/
structure Params where
  checksumTx : Bool := true
  kLineOnly : Bool := true
  deriving DecidableEq, Repr

inductive Call where
  /-- `kline_tx_controlled`, with a control or without. -/
  | tx (data : List UInt8) (flags : UInt32) (controlled : Bool)
  /-- `kline_ioctl`, for `BUS_IOCTL_FIVE_BAUD_INIT` or `BUS_IOCTL_FAST_INIT`. -/
  | init (fiveBaud : Bool) (io : BusInit)
  /-- `kline_ioctl`, for `BUS_IOCTL_STOP_COMM`. -/
  | stopComm
  /-- `kline_set_param`. -/
  | setParam (param : Param) (value : Bool)
  deriving DecidableEq, Repr

/-- What the task finds for a command. -/
inductive Payload where
  | message (req : Request)
  | init (io : BusInit)
  | nothing
  deriving DecidableEq, Repr

/-- What a caller asks with: of an initialization, all but its result. -/
def Payload.asked : Payload → Payload
  | .init io => .init (io.store {})
  | other => other

structure Ticket where
  number : Nat
  cmd : Cmd
  payload : Payload
  /-- The caller waits without a limit. -/
  patient : Bool
  deriving DecidableEq, Repr

/-- What `run_cmd` returns: the result of the task, or an error of its own. -/
inductive Answer where
  | result (rc : Int)
  | failed (rc : Int)
  deriving DecidableEq, Repr

/-- Where the caller that has the mutex is: each constructor names its next operation. -/
inductive Stage where
  /-- `command_blocked`, after the mutex is taken. -/
  | locked (call : Call)
  /-- It was not blocked: what is shared is written. -/
  | granted (call : Call)
  /-- The mutex is given back, and nothing was asked of the task. -/
  | refused
  /-- `run_cmd` reads `command_blocked`. -/
  | begin (ticket : Ticket)
  /-- `pending_inits` goes up. -/
  | count (ticket : Ticket)
  | send (ticket : Ticket)
  /-- The queue was full, and `pending_inits` goes down. -/
  | undo (ticket : Ticket)
  | wait (ticket : Ticket)
  /-- The wait was in vain, and `command_timed_out` is set. -/
  | expired (ticket : Ticket)
  /-- `g.result` is read. -/
  | took (ticket : Ticket)
  /-- `run_cmd` has returned, and an initialization is copied out. -/
  | ended (ticket : Ticket) (answer : Answer)
  | leave (ticket : Ticket) (answer : Answer) (out : Option BusInit)
  deriving DecidableEq, Repr

/-- Who has `api_lock`. -/
inductive Lock (T : Type*) where
  | free
  | caller (c : T) (stage : Stage)
  /-- `kline_close` waits for the task to exit. -/
  | closing
  deriving DecidableEq, Repr

/-- Where a caller is before it has the mutex. -/
inductive Position where
  | idle
  /-- `g.started` was set. -/
  | entered (call : Call)
  /-- `kline_ioctl` has found nothing that is in its way. -/
  | passed (call : Call)
  | inside
  deriving DecidableEq, Repr

/-- Where the task is. -/
inductive Task where
  | gone
  /-- At the top of its loop, or in `rx_service`. -/
  | loop
  | running (ticket : Ticket)
  /-- `g.result` is written; `pending_inits` is next. -/
  | stored (ticket : Ticket)
  /-- `cmd_done` is next. -/
  | told (ticket : Ticket)
  deriving DecidableEq, Repr

inductive Event where
  | started (ticket : Ticket) (found : Payload)
  | finished (ticket : Ticket) (found : Payload) (rc : Int) (io : BusInit)
  | answered (ticket : Ticket) (answer : Answer) (out : Option BusInit)
  deriving DecidableEq, Repr

structure State (T : Type*) where
  started : Bool := false
  uartInstalled : Bool := false
  /-- The queues and the semaphores are there. -/
  resources : Bool := false
  /-- `g.task` is not null. -/
  handle : Bool := false
  stopRequested : Bool := false
  lock : Lock T := .free
  position : T → Position := fun _ => .idle
  task : Task := .gone
  cmdQ : Option Ticket := none
  cmdDone : Bool := false
  exited : Bool := false
  pendingInits : Int := 0
  commandPending : Bool := false
  commandTimedOut : Bool := false
  uartTxUnresolved : Bool := false
  /-- `g.cmd`. -/
  cmd : Ticket := ⟨0, .tx, .nothing, false⟩
  req : Request := {}
  reqInit : BusInit := {}
  result : Int := 0
  params : Params := {}
  tickets : Nat := 0
  log : List Event := []

section Code

variable {T : Type*}

def State.commandBlocked (s : State T) : Bool :=
  s.commandTimedOut || s.uartTxUnresolved

/-- What the task would find for a command. -/
def State.found (s : State T) : Cmd → Payload
  | .tx => .message s.req
  | .fiveBaud | .fastInit => .init s.reqInit
  | .stopComm => .nothing

/-- The caller that has the mutex goes on. -/
def State.hold (s : State T) (c : T) (stage : Stage) : State T :=
  { s with lock := .caller c stage }

/-- `run_cmd` is called; the shared request has been written. -/
def State.hand (s : State T) (c : T) (cmd : Cmd) (patient : Bool) : State T :=
  { s with
    tickets := s.tickets + 1
    lock := .caller c (.begin { number := s.tickets, cmd, payload := s.found cmd, patient }) }

/-- `kline_set_param`, where nothing is in its way. -/
def State.setParam (s : State T) (param : Param) (value : Bool) : State T :=
  match param with
  | .checksumTx => { s with params := { s.params with checksumTx := value } }
  | .kLineOnly =>
    if s.params.kLineOnly ≠ value ∧ s.pendingInits ≠ 0 then s
    else { s with params := { s.params with kLineOnly := value } }

variable [DecidableEq T]

def State.moveTo (s : State T) (c : T) (position : Position) : State T :=
  { s with position := Function.update s.position c position }

/-- The mutex is given back. -/
def State.release (s : State T) (c : T) : State T :=
  { s with lock := .free, position := Function.update s.position c .idle }

/-- A caller before it has the mutex. -/
def State.enter (s : State T) (c : T) : State T :=
  let lock (call : Call) : State T :=
    match s.lock with
    | .free =>
      { s with lock := .caller c (.locked call), position := Function.update s.position c .inside }
    | _ => s
  match s.position c with
  | .idle | .inside => s
  | .entered call =>
    match call with
    | .tx .. | .setParam .. => lock call
    | .init .. | .stopComm =>
      if s.commandBlocked || s.pendingInits ≠ 0 then s.moveTo c .idle
      else s.moveTo c (.passed call)
  | .passed call => lock call

/-- The next operation of the caller that has the mutex. -/
def State.proceed (s : State T) (c : T) : Stage → State T
  | .locked .stopComm => s.hand c .stopComm false
  | .locked call => s.hold c (if s.commandBlocked then .refused else .granted call)
  | .granted (.tx data flags controlled) =>
    match frameForTx s.params.checksumTx data flags with
    | none => s.hold c .refused
    | some framed =>
      { s with req := { data := framed, flags, controlled } }.hand c .tx controlled
  | .granted (.init fiveBaud io) =>
    { s with
      reqInit := { io with address := if io.address = 0 then initAddrObd else io.address } }.hand c
        (if fiveBaud then .fiveBaud else .fastInit) false
  | .granted (.setParam param value) => (s.setParam param value).hold c .refused
  | .granted .stopComm | .refused => s.release c
  | .begin ticket =>
    s.hold c
      (if s.commandBlocked then .ended ticket (.failed errNotReady)
        else if ticket.cmd.initializes then .count ticket
        else .send ticket)
  | .count ticket => { s with pendingInits := s.pendingInits + 1 }.hold c (.send ticket)
  | .send ticket =>
    match s.cmdQ with
    | none => { s with cmdQ := some ticket }.hold c (.wait ticket)
    | some _ =>
      s.hold c
        (if ticket.cmd.initializes then .undo ticket else .ended ticket (.failed errNotReady))
  | .undo ticket =>
    { s with pendingInits := s.pendingInits - 1 }.hold c (.ended ticket (.failed errNotReady))
  | .wait ticket => if s.cmdDone then { s with cmdDone := false }.hold c (.took ticket) else s
  | .expired ticket =>
    { s with commandTimedOut := true }.hold c (.ended ticket (.failed errTimeout))
  | .took ticket => s.hold c (.ended ticket (.result s.result))
  | .ended ticket answer =>
    s.hold c (.leave ticket answer
      (if ticket.cmd.initializes && !s.commandTimedOut then some s.reqInit else none))
  | .leave ticket answer out =>
    { s with log := s.log ++ [Event.answered ticket answer out] }.release c

/-- How `kline_open` ends: with the task, with everything released, or with a UART driver that could
not be deleted. -/
inductive Opening where
  | up
  | down
  | stuck
  deriving DecidableEq, Repr

inductive Turn (T : Type*) where
  | call (c : T) (call : Call)
  | enter (c : T)
  | proceed
  /-- The time for which a caller waits is over. -/
  | expire
  /-- `receive_event` finds a command, whatever the task is at. -/
  | receive
  | dispatch
  /-- The UART does not get rid of a byte. -/
  | stall
  /-- An initialization writes its result to what its caller gave. -/
  | work (result : InitResult)
  | finish (rc : Int)
  | tell
  /-- The task sees that it is to stop. -/
  | stop
  | open (opening : Opening)
  /-- `kline_close`, and whether the UART driver can be deleted. -/
  | close (clean : Bool)
  | reap (clean : Bool)
  | giveUp
  deriving DecidableEq, Repr

/-- `kline_release`. -/
def State.releaseResources (s : State T) (clean : Bool) : State T :=
  if s.uartInstalled && !clean then s
  else
    { s with
      uartInstalled := false, resources := false, cmdQ := none, cmdDone := false, exited := false }

/-- `kline_open`, before it installs anything. -/
def State.reset (s : State T) : State T :=
  { s with
    stopRequested := false, params := {}, pendingInits := 0, commandPending := false
    commandTimedOut := false, uartTxUnresolved := false, cmdQ := none, cmdDone := false
    exited := false }

variable [Fintype T]

/-- No call is inside the driver. -/
def State.AtRest (s : State T) : Prop :=
  s.lock = .free ∧ ∀ c, s.position c = .idle

instance (s : State T) : Decidable s.AtRest :=
  inferInstanceAs (Decidable (s.lock = .free ∧ ∀ c, s.position c = .idle))

def State.step (s : State T) : Turn T → State T
  | .call c call =>
    if s.position c = .idle ∧ s.started then s.moveTo c (.entered call) else s
  | .enter c => s.enter c
  | .proceed =>
    match s.lock with
    | .caller c stage => s.proceed c stage
    | _ => s
  | .expire =>
    match s.lock with
    | .caller c (.wait ticket) => if ticket.patient then s else s.hold c (.expired ticket)
    | _ => s
  | .receive =>
    match s.task, s.cmdQ with
    | .gone, _ | _, none => s
    | _, some ticket => { s with cmdQ := none, cmd := ticket, commandPending := true }
  | .dispatch =>
    if s.task = .loop ∧ s.commandPending then
      { s with
        commandPending := false
        task := .running s.cmd
        log := s.log ++ [.started s.cmd (s.found s.cmd.cmd)] }
    else s
  | .stall => if s.task = .gone then s else { s with uartTxUnresolved := true }
  | .work result =>
    match s.task with
    | .running ticket =>
      if ticket.cmd.initializes then { s with reqInit := s.reqInit.store result } else s
    | _ => s
  | .finish rc =>
    match s.task with
    | .running ticket =>
      { s with
        result := rc
        task := .stored ticket
        log := s.log ++ [.finished ticket (s.found ticket.cmd) rc s.reqInit] }
    | _ => s
  | .tell =>
    match s.task with
    | .stored ticket =>
      { s with
        pendingInits := if ticket.cmd.initializes then s.pendingInits - 1 else s.pendingInits
        task := .told ticket }
    | .told _ => { s with cmdDone := true, task := .loop }
    | _ => s
  | .stop =>
    if s.task = .loop ∧ s.stopRequested then { s with task := .gone, exited := true } else s
  | .open opening =>
    if s.AtRest ∧ ¬ s.started ∧ ¬ s.handle ∧ ¬ s.uartInstalled then
      match opening with
      | .up =>
        { s.reset with
          started := true, uartInstalled := true, resources := true, handle := true, task := .loop }
      | .down => { s.reset with resources := false }
      | .stuck => { s.reset with uartInstalled := true }
    else s
  | .close clean =>
    if s.AtRest then
      if s.handle then { s with started := false, stopRequested := true, lock := .closing }
      else { s with started := false }.releaseResources clean
    else s
  | .reap clean =>
    if s.lock = .closing ∧ s.exited then
      { s with exited := false, handle := false, lock := .free }.releaseResources clean
    else s
  | .giveUp => if s.lock = .closing then { s with lock := .free } else s

end Code

end OpenDiag.Kline.Commands
