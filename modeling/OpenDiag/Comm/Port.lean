import Mathlib.Algebra.GroupWithZero.Nat
import OpenDiag.Lib.ByteRing
import OpenDiag.Lib.Run

/-!
# A port of the communication interface

The receive side of one registered port of `comm_iface.c`: the ring that the transport's calls fill
and the session's task empties, and the count beside it. The ring has a lock of its own, so that
each of its calls is one step; the port's lock protects everything else, and a call that holds it
takes several steps of the ring.
-/

namespace OpenDiag.Comm

/-- `port_t`, its receive side. -/
structure Port where
  rxStream : ByteRing UInt8
  rxDropped : UInt32 := 0
  rxDiscarded : UInt32 := 0
  rxPending : Nat := 0
  muted : Bool := false

/-- Who holds the lock, and what it has done so far. -/
inductive Holder where
  | none
  /-- `comm_port_rx` has sent so many bytes. -/
  | rx (length : Nat)
  /-- `rx_stream_drain`, for `comm_port_client_gone`, has dropped so many bytes. -/
  | drain (dropped : UInt32)
  /-- `rx_stream_drain` has been lent so many more. -/
  | drained (dropped : UInt32) (size : Nat)
  deriving DecidableEq, Repr

/-- Where the task is that calls `comm_port_read`. -/
inductive Reader where
  | idle
  /-- It copies the bytes that it was lent. -/
  | copying (size : Nat)
  /-- It has returned them, and waits for the lock. -/
  | accounting (size : Nat)
  deriving DecidableEq, Repr

/-- The port, its lock and its reader. The last field is a history that no code reads: whether the
count was set to zero since the reader took its bytes. -/
structure Machine where
  port : Port
  holder : Holder := .none
  reader : Reader := .idle
  resetSince : Bool := false

/-- The next thing to happen. -/
inductive Turn where
  /-- `comm_port_rx` takes the lock and sends the data. -/
  | rx (data : List UInt8)
  /-- `comm_port_rx` counts what it sent. -/
  | count
  /-- `comm_port_client_gone` takes the lock. -/
  | gone
  /-- `rx_stream_drain` asks for the rest. -/
  | drain
  /-- `rx_stream_drain` returns what it got. -/
  | discard
  /-- `comm_port_client_ready`. -/
  | ready
  /-- `comm_port_read` asks for bytes. -/
  | take (length : Nat)
  /-- `comm_port_read` returns what it copied. -/
  | giveBack
  /-- `comm_port_read` accounts for it. -/
  | account
  deriving DecidableEq, Repr

/-- `SIZE_MAX`. -/
def sizeMax : Nat := 2 ^ 32 - 1

/-- One step. A turn whose party is elsewhere, or waits for the lock, changes nothing. -/
def Machine.step (m : Machine) : Turn → Machine
  | .rx data =>
    if m.holder = .none ∧ data ≠ [] then
      match m.port.rxStream.send data with
      | some rxStream =>
        { m with port := { m.port with rxStream }, holder := .rx data.length }
      | none => { m with port := { m.port with rxDropped := m.port.rxDropped + 1 } }
    else m
  | .count =>
    match m.holder with
    | .rx length =>
      { m with
        port := { m.port with rxPending := m.port.rxPending + length }
        holder := .none }
    | _ => m
  | .gone => if m.holder = .none then { m with holder := .drain 0 } else m
  | .drain =>
    match m.holder with
    | .drain dropped =>
      match m.port.rxStream.receiveUpTo sizeMax with
      | some (item, rxStream) =>
        { m with port := { m.port with rxStream }, holder := .drained dropped item.length }
      | none =>
        { m with
          port := { m.port with
            rxDiscarded := m.port.rxDiscarded + dropped
            rxPending := 0
            muted := true }
          holder := .none
          resetSince := decide (m.reader ≠ .idle) }
    | _ => m
  | .discard =>
    match m.holder with
    | .drained dropped size =>
      { m with
        port := { m.port with rxStream := m.port.rxStream.returnItem }
        holder := .drain (dropped + UInt32.ofNat size) }
    | _ => m
  | .ready =>
    if m.holder = .none then { m with port := { m.port with muted := false } } else m
  | .take length =>
    match m.reader with
    | .idle =>
      match m.port.rxStream.receiveUpTo length with
      | some (item, rxStream) =>
        { m with
          port := { m.port with rxStream }
          reader := .copying item.length
          resetSince := false }
      | none => m
    | _ => m
  | .giveBack =>
    match m.reader with
    | .copying size =>
      { m with
        port := { m.port with rxStream := m.port.rxStream.returnItem }
        reader := .accounting size }
    | _ => m
  | .account =>
    match m.reader with
    | .accounting size =>
      if m.holder = .none then
        { m with
          port := { m.port with
            rxPending := m.port.rxPending -
              if size < m.port.rxPending then size else m.port.rxPending }
          reader := .idle
          resetSince := false }
      else m
    | _ => m

/-- A port that was just registered. -/
def Machine.registered (rxBufSize : Nat) (positive : 0 < rxBufSize) : Machine :=
  { port := { rxStream := ByteRing.empty rxBufSize positive } }

end OpenDiag.Comm
