import OpenDiag.Can
import OpenDiag.Lib.Lending
import OpenDiag.Lib.Monitor

/-!
# The frames lent to the CAN driver

`can_send` and `can_ops_send_controlled` in `can_bus.c`, with the abort of a transmission and the
openings and teardowns of the bus. The driver keeps the pointer that `twai_node_transmit` gives it:
one frame is in the hardware and up to `CAN_TX_QUEUE_LEN` wait behind it, and the driver reads a
frame through its pointer when the hardware takes it and once more whenever a bus-off recovery
restarts it. So the frames live in a pool of slots that are reused in turn. A turn is one operation
of the sender or one action of the driver, in any order; whether the driver accepts a frame, how a
frame ends and whether a wait times out is its choice. The bus is opened and torn down while nothing
is being sent: the vehicle interface joins the worker before it closes the bus.
-/

namespace OpenDiag.Can

def errTxFailed : Int := -5
def errTxAborted : Int := -12

/-- `CAN_TX_QUEUE_LEN`. -/
def txQueueLen : Nat := 4

/-- `CAN_TX_POOL_LEN`. -/
abbrev txPoolLen : Nat := txQueueLen + 2

/-! ## Frames -/

/-- What the bus carries of a frame. -/
structure WireFrame where
  id : UInt32
  extended : Bool
  remote : Bool
  lengthCode : Nat
  data : List UInt8
  deriving DecidableEq, Repr

/-- The header and the length of a `twai_frame_t`. -/
structure TwaiHeader where
  id : UInt32 := 0
  ide : Bool := false
  rtr : Bool := false
  dlc : Nat := 0
  bufferLen : Nat := 0
  deriving DecidableEq

/-- A slot of `tx_pool`, with its bytes of `tx_pool_data`. -/
structure Slot where
  msg : TwaiHeader := {}
  data : Block UInt8 8 := Block.fill 8 0
  deriving DecidableEq

/-- The frame that the driver makes of a slot. The length code of a data frame follows from the
length of its buffer. -/
def Slot.wire (slot : Slot) : WireFrame where
  id := slot.msg.id
  extended := slot.msg.ide
  remote := slot.msg.rtr
  lengthCode := if slot.msg.rtr then slot.msg.dlc else slot.msg.bufferLen
  data := if slot.msg.rtr then [] else slot.data.load 0 slot.msg.bufferLen

def isExtended (id : UInt32) : Bool := id &&& canEffFlag ≠ 0
def isRemote (id : UInt32) : Bool := id &&& canRtrFlag ≠ 0

/-- `canid` in `can_send`. -/
def bareId (id : UInt32) : UInt32 :=
  if isExtended id then id &&& canEffMask else id &&& canSffMask

/-- What a client asks the bus to carry. -/
def wireOf (frame : CanFrame) : WireFrame where
  id := bareId frame.id
  extended := isExtended frame.id
  remote := isRemote frame.id
  lengthCode := min frame.dlc 8
  data := if isRemote frame.id then [] else frame.data.load 0 (min frame.dlc 8)

/-- The frame that `can_ops_send_controlled` makes of a message. -/
def frameOf (id : UInt32) (len : Nat) (data : List UInt8) : CanFrame where
  id
  dlc := len % 256
  data := if isRemote id then Block.fill 8 0 else (Block.fill 8 0).store 0 (data.take (min len 8))

/-- `memset` of a slot's header. -/
def Slot.erase (slot : Slot) : Slot :=
  { slot with msg := {} }

/-- The header and the bytes that `can_send` puts into an erased slot. -/
def Slot.fill (slot : Slot) (frame : CanFrame) : Slot :=
  let copyLen := min frame.dlc 8
  let msg := { slot.msg with
    id := bareId frame.id, ide := isExtended frame.id, rtr := isRemote frame.id }
  if isRemote frame.id then { slot with msg := { msg with dlc := copyLen, bufferLen := 0 } }
  else
    { msg := { msg with bufferLen := copyLen }
      data := slot.data.store 0 (frame.data.load 0 copyLen) }

/-- A slot that has been filled shows its frame on the wire. -/
theorem Slot.wire_fill (slot : Slot) (frame : CanFrame) : (slot.fill frame).wire = wireOf frame := by
  have length : (frame.data.load 0 (min frame.dlc 8)).length = min frame.dlc 8 :=
    Block.length_load (by omega)
  cases remote : isRemote frame.id with
  | true => simp [fill, wire, wireOf, remote]
  | false =>
      have stored : (slot.data.store 0 (frame.data.load 0 (min frame.dlc 8))).load 0
          (frame.data.load 0 (min frame.dlc 8)).length = frame.data.load 0 (min frame.dlc 8) :=
        Block.load_store_self (by omega)
      rw [length] at stored
      simp [fill, wire, wireOf, remote, stored]

/-! ## The sender and the driver -/

/-- A transmission under way: `wait` is whether it is controlled or has `BUS_TX_WAIT_DONE`, and
`failures` the `tx_failed` from before it was handed over. -/
structure Call where
  frame : CanFrame
  wait : Bool
  failures : UInt32
  deriving DecidableEq

/-- Where the sender is: each constructor names its next operation. -/
inductive Sender where
  | idle
  /-- The load of `tx_failed`. -/
  | load (frame : CanFrame) (wait : Bool)
  /-- The guard of `can_send` and its `memset`. -/
  | erase (call : Call)
  | fill (call : Call)
  /-- `twai_node_transmit`. -/
  | transmit (call : Call)
  /-- The step of `tx_pool_next`. -/
  | advance (call : Call)
  /-- `twai_node_transmit_wait_all_done`, with its timeout. -/
  | waitDone (call : Call)
  /-- The same without one. -/
  | waitAgain (call : Call)
  /-- The comparison of `tx_failed`. -/
  | compare (call : Call)
  deriving DecidableEq

inductive TxEvent where
  /-- `can_setup` has got as far as a new node. -/
  | opened
  | began
  /-- The driver has accepted a frame. -/
  | accepted (frame : CanFrame)
  /-- A frame has left the hardware, on the bus or not. -/
  | completed (frame : WireFrame) (ok : Bool)
  /-- `can_ops_send_controlled` has returned. -/
  | returned (frame : CanFrame) (wait : Bool) (rc : Int)
  deriving DecidableEq

structure TxNode where
  txPool : Circular.Memory Slot txPoolLen := fun _ => {}
  txPoolNext : Fin txPoolLen := 0
  /-- The pointer in the hardware and the frame that was read through it. -/
  hardware : Option (Fin txPoolLen × WireFrame) := none
  /-- The pointers behind it. -/
  txQueue : List (Fin txPoolLen) := []
  canStarted : Bool := true
  /-- `can_node` is not null. -/
  canNode : Bool := true
  txFailed : UInt32 := 0
  sender : Sender := .idle

/-- The slot at `tx_pool_next` is written. -/
def TxNode.write (n : TxNode) (slot : Slot) : TxNode :=
  { n with txPool := Function.update n.txPool n.txPoolNext slot }

/-- The driver reads the frame behind a pointer. -/
def TxNode.mount (n : TxNode) (slot : Fin txPoolLen) : TxNode :=
  { n with hardware := some (slot, (n.txPool slot).wire) }

/-- The driver is given a pointer, if it has room for it. -/
def TxNode.handOver (n : TxNode) (slot : Fin txPoolLen) : Option TxNode :=
  match n.hardware with
  | none => some (n.mount slot)
  | some _ =>
    if n.txQueue.length < txQueueLen then some { n with txQueue := n.txQueue ++ [slot] } else none

/-- Nothing is in the hardware, so nothing waits for it either. -/
def TxNode.allDone (n : TxNode) : Bool :=
  n.hardware.isNone

/-- The sender's next operation; `ok` is what the driver answers where it is asked. -/
def TxNode.operate (n : TxNode) (ok : Bool) : TxNode × List TxEvent :=
  match n.sender with
  | .idle => (n, [])
  | .load frame wait =>
    ({ n with sender := .erase { frame, wait, failures := n.txFailed } }, [.began])
  | .erase call =>
    if n.canStarted && n.canNode then
      ({ n.write (n.txPool n.txPoolNext).erase with sender := .fill call }, [])
    else ({ n with sender := .idle }, [.returned call.frame call.wait errTxFailed])
  | .fill call =>
    ({ n.write ((n.txPool n.txPoolNext).fill call.frame) with sender := .transmit call }, [])
  | .transmit call =>
    match if ok then n.handOver n.txPoolNext else none with
    | some n => ({ n with sender := .advance call }, [.accepted call.frame])
    | none => ({ n with sender := .idle }, [.returned call.frame call.wait errTxFailed])
  | .advance call =>
    let n := { n with txPoolNext := n.txPoolNext + 1 }
    if call.wait then ({ n with sender := .waitDone call }, [])
    else ({ n with sender := .idle }, [.returned call.frame call.wait 0])
  | .waitDone call =>
    if n.allDone && ok then ({ n with sender := .compare call }, [])
    else ({ n with sender := .waitAgain call }, [])
  | .waitAgain call =>
    if n.allDone && ok then ({ n with sender := .compare call }, [])
    else
      ({ n with canStarted := false, sender := .idle },
        [.returned call.frame call.wait errTxAborted])
  | .compare call =>
    ({ n with sender := .idle },
      [.returned call.frame call.wait (if n.txFailed = call.failures then 0 else errTxFailed)])

/-- `can_tx_done`; the hardware then takes the next frame. -/
def TxNode.finish (n : TxNode) (ok : Bool) : TxNode × List TxEvent :=
  match n.hardware with
  | none => (n, [])
  | some (_, frame) =>
    let n := { n with txFailed := if ok then n.txFailed else n.txFailed + 1 }
    match n.txQueue with
    | [] => ({ n with hardware := none }, [.completed frame ok])
    | slot :: rest => ({ n with txQueue := rest }.mount slot, [.completed frame ok])

/-- `can_bus_teardown`; a node that is deleted holds no frame. -/
def TxNode.teardown (n : TxNode) (ok : Bool) : TxNode :=
  match n.sender with
  | .idle =>
    if ok then { n with canStarted := false, canNode := false, hardware := none, txQueue := [] }
    else { n with canStarted := false }
  | _ => n

/-- `can_setup`, from where it resets the pool; an opening that fails is torn down. -/
def TxNode.setup (n : TxNode) (ok : Bool) : TxNode × List TxEvent :=
  match n.sender with
  | .idle =>
    if n.canNode then (n, [])
    else ({ n with txPoolNext := 0, txFailed := 0, canNode := ok, canStarted := ok }, [.opened])
  | _ => (n, [])

/-- A recovery restarts the frame in the hardware. -/
def TxNode.restart (n : TxNode) : TxNode :=
  match n.hardware with
  | none => n
  | some (slot, _) => n.mount slot

inductive TxTurn where
  /-- A client sends a message; `admission` is the answer of `bus_tx_admit`. -/
  | send (id : UInt32) (len : Nat) (data : List UInt8) (wait : Bool) (admission : Int)
  | operate (ok : Bool)
  | finish (ok : Bool)
  | restart
  /-- A node that was disabled forgets its frames. -/
  | drop
  | teardown (ok : Bool)
  | setup (ok : Bool)
  deriving DecidableEq

def TxNode.send (n : TxNode) (frame : CanFrame) (wait : Bool) (admission : Int) :
    TxNode × List TxEvent :=
  match n.sender with
  | .idle =>
    if admission ≠ 0 then (n, [.returned frame wait admission])
    else ({ n with sender := .load frame wait }, [])
  | _ => (n, [])

def TxNode.step (n : TxNode) : TxTurn → TxNode × List TxEvent
  | .send id len data wait admission => n.send (frameOf id len data) wait admission
  | .operate ok => n.operate ok
  | .finish ok => n.finish ok
  | .restart => (n.restart, [])
  | .drop => if n.canStarted then (n, []) else ({ n with hardware := none, txQueue := [] }, [])
  | .teardown ok => (n.teardown ok, [])
  | .setup ok => n.setup ok

/-! ## The bus as an observer sees it -/

/-- What was accepted since the bus was opened, and what has left the hardware. -/
structure Watch where
  accepted : List WireFrame := []
  completed : List (WireFrame × Bool) := []

def Watch.see (w : Watch) : TxEvent → Watch
  | .opened => {}
  | .began => w
  | .accepted frame => { w with accepted := w.accepted ++ [wireOf frame] }
  | .completed frame ok => { w with completed := w.completed ++ [(frame, ok)] }
  | .returned _ _ _ => w

/-- The frame that leaves the hardware is the next of those accepted. A transmission that returns 0
is the last one accepted, and if it waits, everything accepted has left the hardware, this frame on
the bus. -/
def Watch.Allows (w : Watch) : TxEvent → Prop
  | .opened => True
  | .began => True
  | .accepted _ => True
  | .completed frame _ => w.accepted[w.completed.length]? = some frame
  | .returned frame wait rc => rc = 0 →
      w.accepted.getLast? = some (wireOf frame) ∧
        (wait = true → w.completed.map Prod.fst = w.accepted ∧
          w.completed.getLast? = some (wireOf frame, true))

/-- The pointers that the driver holds, in the order of their frames. -/
def TxNode.pointers (n : TxNode) : List (Fin txPoolLen) :=
  n.hardware.toList.map Prod.fst ++ n.txQueue

/-- The frames behind them. -/
def TxNode.inFlight (n : TxNode) : List WireFrame :=
  n.pointers.map fun slot => (n.txPool slot).wire

/-- The slot for the frame behind those accepted. -/
def TxNode.turn (n : TxNode) : Fin txPoolLen :=
  match n.sender with
  | .advance _ => n.txPoolNext + 1
  | _ => n.txPoolNext

/-- The failures since the transmission began are counted; with what is in flight, no more than
`most` frames can fail. -/
def TxNode.Counted (n : TxNode) (w : Watch) (call : Call) (least most : Nat) : Prop :=
  ∃ earlier since, w.completed = earlier ++ since ∧
    n.txFailed = call.failures + UInt32.ofNat (since.countP fun frame => !frame.2) ∧
    least ≤ since.length + n.pointers.length ∧ since.length + n.pointers.length ≤ most

/-- The frame of the transmission is the last one accepted. -/
def TxNode.Handed (n : TxNode) (w : Watch) (call : Call) : Prop :=
  n.canStarted = true ∧ n.Counted w call 1 txPoolLen ∧
    w.accepted.getLast? = some (wireOf call.frame)

/-- What the sender has done so far. -/
def TxNode.Sending (n : TxNode) (w : Watch) : Sender → Prop
  | .idle => True
  | .load _ _ => True
  | .erase call => n.Counted w call 0 (txQueueLen + 1)
  | .fill call => n.canStarted = true ∧ n.Counted w call 0 (txQueueLen + 1)
  | .transmit call => n.canStarted = true ∧ n.Counted w call 0 (txQueueLen + 1) ∧
      (n.txPool n.txPoolNext).wire = wireOf call.frame
  | .advance call => n.Handed w call
  | .waitDone call => n.Handed w call
  | .waitAgain call => n.Handed w call
  | .compare call => n.Handed w call ∧ n.hardware = none

/-- The node agrees with the observer: the frames in flight are those accepted and not completed,
and their slots are the ones lent last. -/
structure TxNode.Agrees (n : TxNode) (w : Watch) : Prop where
  loaded : ∀ mounted ∈ n.hardware, mounted.2 = (n.txPool mounted.1).wire
  empty : n.hardware = none → n.txQueue = []
  room : n.txQueue.length ≤ txQueueLen
  begun : w.completed.map Prod.fst ++ n.inFlight <+: w.accepted
  whole : n.canStarted = true → w.completed.map Prod.fst ++ n.inFlight = w.accepted
  lent : n.canStarted = true →
    n.pointers = Lending.lent txPoolLen w.accepted.length n.pointers.length
  next : n.turn = Fin.ofNat txPoolLen w.accepted.length
  sending : n.Sending w n.sender
  gone : n.canNode = false → n.canStarted = false ∧ n.hardware = none

variable {n : TxNode} {w : Watch}

theorem TxNode.Agrees.start : ({} : TxNode).Agrees {} where
  loaded := by intro mounted there; cases there
  empty _ := rfl
  room := Nat.zero_le _
  begun := List.prefix_rfl
  whole _ := rfl
  lent _ := rfl
  next := rfl
  sending := True.intro
  gone closed := by cases closed

/-- There is never more in flight than the queue and the hardware hold. -/
theorem TxNode.Agrees.length_pointers (agrees : n.Agrees w) :
    n.pointers.length ≤ txQueueLen + 1 := by
  have room := agrees.room
  rw [pointers, List.length_append, List.length_map, Nat.add_comm txQueueLen]
  exact Nat.add_le_add (Option.length_toList_le) room

/-- Nothing is in flight that was not accepted. -/
theorem TxNode.Agrees.owed (agrees : n.Agrees w) (started : n.canStarted = true) :
    n.pointers.length ≤ w.accepted.length := by
  rw [← agrees.whole started]
  simp only [inFlight, List.length_append, List.length_map]
  exact Nat.le_add_left _ _

/-- The slot that is written is not in the hands of the driver. -/
theorem TxNode.Agrees.next_notMem (agrees : n.Agrees w) (started : n.canStarted = true)
    (turn : n.turn = n.txPoolNext) : n.txPoolNext ∉ n.pointers := by
  have few : n.pointers.length < txPoolLen := Nat.lt_succ_of_le agrees.length_pointers
  have owed := agrees.owed started
  rw [agrees.lent started, ← turn, agrees.next]
  exact Lending.next_notMem_lent few owed

/-! ## What the sender does -/

section Sender

variable {call : Call} {sender : Sender}

theorem TxNode.Agrees.become (agrees : n.Agrees w) (turn : { n with sender }.turn = n.turn)
    (sending : { n with sender }.Sending w sender) : { n with sender }.Agrees w :=
  { agrees with next := turn.trans agrees.next, sending }

theorem TxNode.txPool_write_self (slot : Slot) : (n.write slot).txPool n.txPoolNext = slot :=
  Function.update_self ..

theorem TxNode.txPool_write_of_ne {held : Fin txPoolLen} (other : held ≠ n.txPoolNext)
    (slot : Slot) : (n.write slot).txPool held = n.txPool held :=
  Function.update_of_ne other _ _

/-- A slot that is not in flight is filled without touching what is. -/
theorem TxNode.inFlight_write (out : n.txPoolNext ∉ n.pointers) (slot : Slot) :
    (n.write slot).inFlight = n.inFlight := by
  refine List.map_congr_left fun held there => ?_
  have other : held ≠ n.txPoolNext := by
    rintro rfl
    exact out there
  exact congrArg Slot.wire (txPool_write_of_ne other slot)

/-- Writing the slot whose turn it is leaves the frames in flight alone. -/
theorem TxNode.Agrees.write (agrees : n.Agrees w) (started : n.canStarted = true)
    (turn : n.turn = n.txPoolNext) (slot : Slot)
    (same : { n.write slot with sender }.turn = n.txPoolNext)
    (sending : { n.write slot with sender }.Sending w sender) :
    { n.write slot with sender }.Agrees w := by
  have out := agrees.next_notMem started turn
  have flight := inFlight_write out slot
  refine ⟨fun mounted there => ?_, agrees.empty, agrees.room, ?_, fun _ => ?_, agrees.lent,
    same.trans (turn.symm.trans agrees.next), sending, agrees.gone⟩
  · have other : mounted.1 ≠ n.txPoolNext := by
      intro next
      have hardware : n.hardware = some mounted := there
      apply out
      simp [pointers, hardware, next]
    exact (agrees.loaded mounted there).trans
      (congrArg Slot.wire (txPool_write_of_ne other slot)).symm
  · exact flight.symm ▸ agrees.begun
  · exact flight.symm ▸ agrees.whole started

/-- The driver takes a pointer behind those it holds. -/
theorem TxNode.handOver_cases {slot : Fin txPoolLen} {next : TxNode}
    (taken : n.handOver slot = some next) (empty : n.hardware = none → n.txQueue = [])
    (room : n.txQueue.length ≤ txQueueLen) (loaded : ∀ mounted ∈ n.hardware,
      mounted.2 = (n.txPool mounted.1).wire) :
    ∃ hardware txQueue, next = { n with hardware, txQueue } ∧
      next.pointers = n.pointers ++ [slot] ∧ hardware.isSome ∧ txQueue.length ≤ txQueueLen ∧
      ∀ mounted ∈ hardware, mounted.2 = (n.txPool mounted.1).wire := by
  unfold handOver at taken
  cases mounted : n.hardware with
  | none =>
      rw [mounted] at taken
      cases taken
      refine ⟨_, n.txQueue, rfl, ?_, rfl, room, fun mounted there => ?_⟩
      · simp [pointers, mount, mounted, empty mounted]
      · cases there
        rfl
  | some held =>
      rw [mounted] at taken
      simp only at taken
      split at taken
      case isFalse => cases taken
      case isTrue free =>
        cases taken
        refine ⟨some held, n.txQueue ++ [slot], rfl, by simp [pointers, mounted], rfl, ?_,
          mounted ▸ loaded⟩
        rw [List.length_append]
        exact free

/-- The frame that was filled in is accepted. -/
theorem TxNode.Agrees.accept {next : TxNode} (agrees : n.Agrees w)
    (phase : n.sender = .transmit call) (taken : n.handOver n.txPoolNext = some next) :
    { next with sender := .advance call }.Agrees (w.see (.accepted call.frame)) := by
  have sending := agrees.sending
  rw [phase] at sending
  obtain ⟨started, ⟨earlier, since, split, failures, _, bound⟩, written⟩ := sending
  have turn : n.turn = n.txPoolNext := by rw [turn, phase]
  obtain ⟨hardware, txQueue, rfl, pointers, some, room, loaded⟩ :=
    handOver_cases taken agrees.empty agrees.room agrees.loaded
  have flight : ({ n with hardware, txQueue }).inFlight = n.inFlight ++ [wireOf call.frame] := by
    rw [inFlight, pointers, List.map_append, List.map_cons, written]
    rfl
  have count : ({ n with hardware, txQueue }).pointers.length = n.pointers.length + 1 := by
    rw [pointers, List.length_append]
    rfl
  have total : (w.accepted ++ [wireOf call.frame]).length = w.accepted.length + 1 :=
    List.length_append
  have whole : w.completed.map Prod.fst ++ ({ n with hardware, txQueue }).inFlight =
      w.accepted ++ [wireOf call.frame] := by
    rw [flight, ← List.append_assoc, agrees.whole started]
  have lent : ({ n with hardware, txQueue }).pointers = Lending.lent txPoolLen
      (w.accepted ++ [wireOf call.frame]).length
      ({ n with hardware, txQueue }).pointers.length := by
    rw [count, total, Lending.lent_succ (agrees.owed started), ← agrees.lent started, pointers,
      ← agrees.next, turn]
  have next : n.txPoolNext + 1 =
      Fin.ofNat txPoolLen (w.accepted ++ [wireOf call.frame]).length := by
    rw [total, ← turn, agrees.next]
    exact Lending.ofNat_add_one _
  refine ⟨loaded, fun none => ?_, room, whole ▸ List.prefix_rfl, fun _ => whole, fun _ => lent, next,
    ⟨started, ⟨earlier, since, split, failures, ?_, ?_⟩, List.getLast?_concat⟩, fun gone => ?_⟩
  · rw [show hardware = Option.none from none] at some
    cases some
  · change 1 ≤ since.length + ({ n with hardware, txQueue }).pointers.length
    omega
  · change since.length + ({ n with hardware, txQueue }).pointers.length ≤ txQueueLen + 2
    omega
  · have closed := (agrees.gone gone).1
    rw [started] at closed
    cases closed

/-- Where no failure was counted, everything that left the hardware since got onto the bus. -/
theorem TxNode.Counted.last_ok (counted : n.Counted w call 1 txPoolLen)
    (drained : n.hardware = none) (empty : n.txQueue = []) (same : n.txFailed = call.failures) :
    ∃ frame, w.completed.getLast? = some (frame, true) := by
  obtain ⟨earlier, since, split, failures, least, most⟩ := counted
  have none : n.pointers = [] := by simp [pointers, drained, empty]
  rw [none, List.length_nil, Nat.add_zero] at least most
  have few : since.countP (fun frame => !frame.2) < 2 ^ 32 :=
    Nat.lt_of_le_of_lt (Nat.le_trans List.countP_le_length most) (by decide)
  have zero : UInt32.ofNat (since.countP fun frame => !frame.2) = 0 := by
    rw [same] at failures
    exact UInt32.left_eq_add.mp failures
  have good : since.countP (fun frame => !frame.2) = 0 := by
    have := congrArg UInt32.toNat zero
    rwa [UInt32.toNat_ofNat', Nat.mod_eq_of_lt few] at this
  have some : since ≠ [] := List.ne_nil_of_length_pos least
  have last := List.countP_eq_zero.mp good _ (List.getLast_mem some)
  refine ⟨(since.getLast some).1, ?_⟩
  rw [split, List.getLast?_append_of_ne_nil _ some, List.getLast?_eq_getLast_of_ne_nil some]
  exact congrArg Option.some (Prod.ext rfl (by simpa using last))

/-- A transmission that waited and found no failure has got its frame onto the bus. -/
theorem TxNode.Agrees.compare (agrees : n.Agrees w) (handed : n.Handed w call)
    (drained : n.hardware = none) (same : n.txFailed = call.failures) :
    w.completed.map Prod.fst = w.accepted ∧
      w.completed.getLast? = some (wireOf call.frame, true) := by
  obtain ⟨started, counted, last⟩ := handed
  have empty := agrees.empty drained
  have whole := agrees.whole started
  have none : n.inFlight = [] := by simp [inFlight, pointers, drained, empty]
  rw [none, List.append_nil] at whole
  obtain ⟨frame, sent⟩ := counted.last_ok drained empty same
  refine ⟨whole, ?_⟩
  rw [← whole, List.getLast?_map, sent] at last
  cases last
  exact sent

/-- An operation of the sender is allowed, and the node is as the history shows. -/
theorem TxNode.Agrees.operate (agrees : n.Agrees w) (ok : Bool) :
    Obedient Watch.see Watch.Allows w (n.operate ok).2 ∧
      (n.operate ok).1.Agrees ((n.operate ok).2.foldl Watch.see w) := by
  have sending := agrees.sending
  have next := agrees.next
  cases phase : n.sender with
  | idle =>
      simp only [TxNode.operate, phase]
      exact ⟨.nil, agrees⟩
  | load frame wait =>
      simp only [TxNode.operate, phase]
      refine ⟨.singleton True.intro, agrees.become (by simp [turn, phase]) ?_⟩
      exact ⟨w.completed, [], (List.append_nil _).symm, (UInt32.add_zero _).symm, Nat.zero_le _,
        Nat.le_trans (Nat.le_of_eq (Nat.zero_add _)) agrees.length_pointers⟩
  | erase call =>
      rw [phase] at sending
      have turn : n.turn = n.txPoolNext := by rw [turn, phase]
      simp only [TxNode.operate, phase]
      split
      case isTrue open' =>
        have started := (Bool.and_eq_true_iff.1 open').1
        exact ⟨.nil, agrees.write started turn _ rfl ⟨started, sending⟩⟩
      case isFalse stopped =>
        exact ⟨.singleton fun zero => absurd zero (by decide), agrees.become turn.symm True.intro⟩
  | fill call =>
      rw [phase] at sending
      obtain ⟨started, counted⟩ := sending
      have turn : n.turn = n.txPoolNext := by rw [turn, phase]
      simp only [TxNode.operate, phase]
      refine ⟨.nil, agrees.write started turn _ rfl ⟨started, counted, ?_⟩⟩
      exact (congrArg Slot.wire (txPool_write_self _)).trans (Slot.wire_fill _ _)
  | transmit call =>
      have turn : n.turn = n.txPoolNext := by rw [turn, phase]
      simp only [TxNode.operate, phase]
      split
      case h_1 next taken =>
        cases ok with
        | false => cases taken
        | true => exact ⟨.singleton True.intro, agrees.accept phase taken⟩
      case h_2 =>
        exact ⟨.singleton fun zero => absurd zero (by decide), agrees.become turn.symm True.intro⟩
  | advance call =>
      rw [phase] at sending
      rw [turn, phase] at next
      simp only [TxNode.operate, phase]
      split
      case isTrue waiting => exact ⟨.nil, { agrees with next, sending }⟩
      case isFalse done =>
        refine ⟨.singleton fun _ => ⟨sending.2.2, fun wait => absurd wait done⟩, ?_⟩
        exact { agrees with next, sending := True.intro }
  | waitDone call =>
      rw [phase] at sending
      have turn : n.turn = n.txPoolNext := by rw [turn, phase]
      simp only [TxNode.operate, phase]
      split
      case isTrue drained =>
        refine ⟨.nil, agrees.become turn.symm ⟨sending, ?_⟩⟩
        simpa [allDone] using (Bool.and_eq_true_iff.mp drained).1
      case isFalse late => exact ⟨.nil, agrees.become turn.symm sending⟩
  | waitAgain call =>
      rw [phase] at sending
      have turn : n.turn = n.txPoolNext := by rw [turn, phase]
      simp only [TxNode.operate, phase]
      split
      case isTrue drained =>
        refine ⟨.nil, agrees.become turn.symm ⟨sending, ?_⟩⟩
        simpa [allDone] using (Bool.and_eq_true_iff.mp drained).1
      case isFalse late =>
        refine ⟨.singleton fun zero => absurd zero (by decide), ?_⟩
        refine ⟨agrees.loaded, agrees.empty, agrees.room, agrees.begun, fun off => ?_,
          fun off => ?_, turn.symm.trans next, True.intro, fun gone => ⟨rfl, (agrees.gone gone).2⟩⟩
        · cases off
        · cases off
  | compare call =>
      rw [phase] at sending
      have turn : n.turn = n.txPoolNext := by rw [turn, phase]
      simp only [TxNode.operate, phase]
      refine ⟨.singleton fun zero => ?_, agrees.become turn.symm True.intro⟩
      have same : n.txFailed = call.failures := by
        by_contra differ
        rw [if_neg differ] at zero
        exact absurd zero (by decide)
      have sent := agrees.compare sending.1 sending.2 same
      exact ⟨sending.1.2.2, fun _ => sent⟩

end Sender

/-! ## What the driver does -/

section Driver

variable {call : Call} {slot : Fin txPoolLen} {frame : WireFrame}

/-- The frame in the hardware is the first in flight. -/
theorem TxNode.pointers_of_hardware (mounted : n.hardware = some (slot, frame)) :
    n.pointers = slot :: n.txQueue := by
  rw [pointers, mounted]
  rfl

/-- The oldest frame in flight is the one in the hardware. -/
theorem TxNode.Agrees.inFlight (agrees : n.Agrees w) (mounted : n.hardware = some (slot, frame)) :
    n.inFlight = frame :: n.txQueue.map fun slot => (n.txPool slot).wire := by
  rw [TxNode.inFlight, pointers_of_hardware mounted, List.map_cons, ← agrees.loaded _ mounted]

/-- The hardware is done with its frame: the next one is mounted, if there is one. -/
theorem TxNode.finish_cases (mounted : n.hardware = some (slot, frame)) (ok : Bool) :
    ∃ hardware txQueue, n.finish ok =
        ({ n with
          hardware, txQueue, txFailed := if ok then n.txFailed else n.txFailed + 1 },
          [.completed frame ok]) ∧
      (hardware.toList.map Prod.fst ++ txQueue = n.txQueue) ∧
      txQueue.length ≤ n.txQueue.length ∧ (hardware = none → txQueue = []) ∧
      ∀ held ∈ hardware, held.2 = (n.txPool held.1).wire := by
  simp only [finish, mounted]
  cases waiting : n.txQueue with
  | nil =>
      refine ⟨none, [], rfl, rfl, Nat.le_refl _, fun _ => rfl, fun held there => ?_⟩
      cases there
  | cons first rest =>
      refine ⟨_, rest, rfl, rfl, Nat.le_succ _, fun none => ?_, fun held there => ?_⟩
      · cases none
      · cases there
        rfl

theorem TxNode.Counted.finish {least most : Nat} {hardware : Option (Fin txPoolLen × WireFrame)}
    {txQueue : List (Fin txPoolLen)} (counted : n.Counted w call least most)
    (mounted : n.hardware = some (slot, frame))
    (rest : hardware.toList.map Prod.fst ++ txQueue = n.txQueue) (ok : Bool) :
    { n with hardware, txQueue, txFailed := if ok then n.txFailed else n.txFailed + 1 }.Counted
      (w.see (.completed frame ok)) call least most := by
  obtain ⟨earlier, since, split, failures, lower, upper⟩ := counted
  have fewer : n.pointers.length = (hardware.toList.map Prod.fst ++ txQueue).length + 1 := by
    rw [pointers_of_hardware mounted, rest, List.length_cons]
  have longer : (since ++ [(frame, ok)]).length = since.length + 1 := List.length_append
  refine ⟨earlier, since ++ [(frame, ok)], ?_, ?_, ?_, ?_⟩
  · rw [← List.append_assoc, ← split]
    rfl
  · rw [List.countP_append, failures]
    cases ok with
    | true => rfl
    | false =>
        change call.failures + _ + 1 = call.failures + UInt32.ofNat (_ + 1)
        rw [UInt32.ofNat_add, ← UInt32.add_assoc]
        rfl
  · change least ≤ _ + (hardware.toList.map Prod.fst ++ txQueue).length
    omega
  · change _ + (hardware.toList.map Prod.fst ++ txQueue).length ≤ most
    omega

/-- A frame that is done leaves the hardware, and the next one is mounted. -/
theorem TxNode.Agrees.finish (agrees : n.Agrees w) (ok : Bool) :
    Obedient Watch.see Watch.Allows w (n.finish ok).2 ∧
      (n.finish ok).1.Agrees ((n.finish ok).2.foldl Watch.see w) := by
  cases mounted : n.hardware with
  | none =>
      simp only [TxNode.finish, mounted]
      exact ⟨.nil, agrees⟩
  | some held =>
      obtain ⟨slot, frame⟩ := held
      obtain ⟨hardware, txQueue, step, rest, shorter, empty, loaded⟩ := finish_cases mounted ok
      have flight := agrees.inFlight mounted
      have pointers := pointers_of_hardware mounted
      have moved : (w.completed ++ [(frame, ok)]).map Prod.fst ++
          (hardware.toList.map Prod.fst ++ txQueue).map (fun slot => (n.txPool slot).wire) =
            w.completed.map Prod.fst ++ n.inFlight := by
        rw [flight, rest, List.map_append, List.append_assoc]
        rfl
      rw [step]
      refine ⟨.singleton ?_, loaded, empty, Nat.le_trans shorter agrees.room, ?_, fun started => ?_,
        fun started => ?_, agrees.next, ?_, fun gone => ?_⟩
      · obtain ⟨later, whole⟩ := agrees.begun
        change w.accepted[w.completed.length]? = some frame
        rw [← whole, flight, List.append_assoc, List.getElem?_append_right (by simp)]
        simp
      · exact moved.symm ▸ agrees.begun
      · exact moved.trans (agrees.whole started)
      · have lent := agrees.lent started
        have owed := agrees.owed started
        rw [pointers, List.length_cons] at lent owed
        rw [Lending.lent_eq_cons owed, ← rest] at lent
        exact (List.cons.inj lent).2
      · have sending := agrees.sending
        change TxNode.Sending _ _ n.sender
        cases phase : n.sender with
        | idle => exact True.intro
        | load frame wait => exact True.intro
        | erase call =>
            rw [phase] at sending
            exact sending.finish mounted rest ok
        | fill call =>
            rw [phase] at sending
            exact ⟨sending.1, sending.2.finish mounted rest ok⟩
        | transmit call =>
            rw [phase] at sending
            exact ⟨sending.1, sending.2.1.finish mounted rest ok, sending.2.2⟩
        | advance call =>
            rw [phase] at sending
            exact ⟨sending.1, sending.2.1.finish mounted rest ok, sending.2.2⟩
        | waitDone call =>
            rw [phase] at sending
            exact ⟨sending.1, sending.2.1.finish mounted rest ok, sending.2.2⟩
        | waitAgain call =>
            rw [phase] at sending
            exact ⟨sending.1, sending.2.1.finish mounted rest ok, sending.2.2⟩
        | compare call =>
            rw [phase] at sending
            rw [sending.2] at mounted
            cases mounted
      · have none := (agrees.gone gone).2
        rw [mounted] at none
        cases none

/-- A frame that is restarted is the one that was started. -/
theorem TxNode.Agrees.restart (agrees : n.Agrees w) : n.restart = n := by
  unfold TxNode.restart
  cases mounted : n.hardware with
  | none => rfl
  | some held =>
      have same : ((held.1, (n.txPool held.1).wire) : Fin txPoolLen × WireFrame) = held :=
        Prod.ext rfl (agrees.loaded held mounted).symm
      simp only [mount, same, ← mounted]

/-- A bus that is closed drops what was in flight. -/
theorem TxNode.Agrees.drop (agrees : n.Agrees w) (off : n.canStarted = false) :
    { n with hardware := none, txQueue := [] }.Agrees w := by
  have begun : w.completed.map Prod.fst <+: w.accepted :=
    (List.prefix_append _ _).trans agrees.begun
  refine ⟨fun held there => ?_, fun _ => rfl, Nat.zero_le _, ?_, fun started => ?_,
    fun started => ?_, agrees.next, ?_, fun _ => ⟨off, rfl⟩⟩
  · cases there
  · exact (List.append_nil _).symm ▸ begun
  · rw [off] at started
    cases started
  · rw [off] at started
    cases started
  · have sending := agrees.sending
    change TxNode.Sending _ _ n.sender
    cases phase : n.sender with
    | idle => exact True.intro
    | load frame wait => exact True.intro
    | erase call =>
        rw [phase] at sending
        obtain ⟨earlier, since, split, failures, _, most⟩ := sending
        exact ⟨earlier, since, split, failures, Nat.zero_le _,
          Nat.le_trans (Nat.add_le_add_left (Nat.zero_le _) _) most⟩
    | fill call =>
        rw [phase] at sending
        exact absurd (off.symm.trans sending.1) Bool.false_ne_true
    | transmit call =>
        rw [phase] at sending
        exact absurd (off.symm.trans sending.1) Bool.false_ne_true
    | advance call =>
        rw [phase] at sending
        exact absurd (off.symm.trans sending.1) Bool.false_ne_true
    | waitDone call =>
        rw [phase] at sending
        exact absurd (off.symm.trans sending.1) Bool.false_ne_true
    | waitAgain call =>
        rw [phase] at sending
        exact absurd (off.symm.trans sending.1) Bool.false_ne_true
    | compare call =>
        rw [phase] at sending
        exact absurd (off.symm.trans sending.1.1) Bool.false_ne_true

/-- A bus that is torn down lets nothing out; the node may be left behind. -/
theorem TxNode.Agrees.teardown (agrees : n.Agrees w) (ok : Bool) : (n.teardown ok).Agrees w := by
  unfold TxNode.teardown
  split
  case h_2 => exact agrees
  case h_1 phase =>
    have stopped : { n with canStarted := false }.Agrees w := by
      have next := agrees.next
      rw [turn, phase] at next
      refine ⟨agrees.loaded, agrees.empty, agrees.room, agrees.begun, fun started => ?_,
        fun started => ?_, ?_, ?_, fun gone => ⟨rfl, (agrees.gone gone).2⟩⟩
      · cases started
      · cases started
      · rw [turn, phase]
        exact next
      · rw [phase]
        exact True.intro
    split
    case isFalse => exact stopped
    case isTrue =>
      have dropped := stopped.drop rfl
      exact { dropped with gone := fun _ => ⟨rfl, rfl⟩ }

/-- A bus that is opened begins anew. -/
theorem TxNode.Agrees.setup (agrees : n.Agrees w) (ok : Bool) :
    Obedient Watch.see Watch.Allows w (n.setup ok).2 ∧
      (n.setup ok).1.Agrees ((n.setup ok).2.foldl Watch.see w) := by
  unfold TxNode.setup
  split
  case h_2 => exact ⟨.nil, agrees⟩
  case h_1 phase =>
    split
    case isTrue => exact ⟨.nil, agrees⟩
    case isFalse closed =>
      have none := (agrees.gone (Bool.eq_false_iff.2 closed)).2
      have empty := agrees.empty none
      have pointers :
          { n with txPoolNext := 0, txFailed := 0, canNode := ok, canStarted := ok }.pointers = [] := by
        simp only [TxNode.pointers, none, empty]
        rfl
      refine ⟨.singleton True.intro, fun held there => ?_, fun _ => empty, ?_, ?_, fun _ => ?_,
        fun _ => ?_, ?_, ?_, fun gone => ⟨gone, none⟩⟩
      · rw [none] at there
        cases there
      · rw [empty]
        exact Nat.zero_le _
      · rw [TxNode.inFlight, pointers]
        exact List.prefix_rfl
      · rw [TxNode.inFlight, pointers]
        rfl
      · rw [pointers]
        rfl
      · rw [turn, phase]
        rfl
      · rw [phase]
        exact True.intro

end Driver

/-! ## Every run -/

/-- Every turn is allowed, and the node is as the history shows. -/
theorem TxNode.Agrees.step (agrees : n.Agrees w) (turn : TxTurn) :
    Obedient Watch.see Watch.Allows w (n.step turn).2 ∧
      (n.step turn).1.Agrees ((n.step turn).2.foldl Watch.see w) := by
  cases turn with
  | send id len data wait admission =>
      simp only [TxNode.step, send]
      split
      case h_1 phase =>
        split
        case isTrue refused => exact ⟨.singleton fun zero => absurd zero refused, agrees⟩
        case isFalse => exact ⟨.nil, agrees.become (by rw [turn, turn, phase]) True.intro⟩
      case h_2 => exact ⟨.nil, agrees⟩
  | operate ok => exact agrees.operate ok
  | finish ok => exact agrees.finish ok
  | restart =>
      simp only [TxNode.step, agrees.restart]
      exact ⟨.nil, agrees⟩
  | drop =>
      simp only [TxNode.step]
      split
      case isTrue => exact ⟨.nil, agrees⟩
      case isFalse off => exact ⟨.nil, agrees.drop (Bool.eq_false_iff.mpr off)⟩
  | teardown ok => exact ⟨.nil, agrees.teardown ok⟩
  | setup ok => exact agrees.setup ok

/-- Since the bus was last opened, the frames that leave the hardware are the frames accepted,
unchanged and in order, although the pool reuses their slots; and a transmission that returns 0 was
accepted, and if it waits, everything accepted has left the hardware and its frame has got onto the
bus. -/
theorem pool_carries_frames (turns : List TxTurn) :
    Obedient Watch.see Watch.Allows {} (run (logged TxNode.step) ({}, []) turns).2 := by
  have preserved : ∀ (n : TxNode) (w : Watch) (turn : TxTurn), n.Agrees w →
      Obedient Watch.see Watch.Allows w (n.step turn).2 ∧
        (n.step turn).1.Agrees ((n.step turn).2.foldl Watch.see w) :=
    fun _ _ turn agrees => agrees.step turn
  exact (obedient_of_agrees preserved .start turns).1

end OpenDiag.Can
