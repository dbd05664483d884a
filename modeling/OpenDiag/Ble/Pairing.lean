import Mathlib.Data.List.Nodup

/-!
# Pairing over Bluetooth

The pairing window, the bonds and the event handler of `ble_uart.c`, which decide together which
phone may bond and write. NimBLE is the environment: it has at most one connection, delivers
`CONNECT` first, stores a new bond before its `ENC_CHANGE`, and admits writes on an encrypted link
only. The store can be read, and a connection is found while it is there. Whoever the advertisement
would have kept away may connect as well.
-/

namespace OpenDiag.Ble

variable {α : Type*} [DecidableEq α]

/-! ## The bond store -/

/-- The record of a bonded peer. -/
structure Bond (α : Type*) where
  peer : α
  irkPresent : Bool
  deriving DecidableEq, Repr

/-- The bonds from the oldest to the newest, one for each peer. -/
structure BondStore (α : Type*) where
  bonds : List (Bond α)
  distinct : (bonds.map Bond.peer).Nodup

namespace BondStore

def peers (store : BondStore α) : List α :=
  store.bonds.map Bond.peer

def empty : BondStore α := ⟨[], List.nodup_nil⟩

/-- `ble_store_util_delete_peer`. -/
def deletePeer (store : BondStore α) (peer : α) : BondStore α where
  bonds := store.bonds.filter (·.peer ≠ peer)
  distinct := (List.filter_sublist.map Bond.peer).nodup store.distinct

/-- A peer that is deleted is gone, and the others stay. -/
theorem mem_peers_deletePeer {store : BondStore α} {peer other : α} :
    other ∈ (store.deletePeer peer).peers ↔ other ∈ store.peers ∧ other ≠ peer := by
  simp only [peers, deletePeer, List.mem_map, List.mem_filter, decide_eq_true_eq]
  constructor
  · rintro ⟨bond, ⟨stored, kept⟩, rfl⟩
    exact ⟨⟨bond, stored, rfl⟩, kept⟩
  · rintro ⟨⟨bond, stored, rfl⟩, kept⟩
    exact ⟨bond, ⟨stored, kept⟩, rfl⟩

/-- The oldest bond is dropped when the store is full (`ble_store_util_status_rr`). -/
def makeRoom (store : BondStore α) (capacity : Nat) : BondStore α :=
  if capacity ≤ store.bonds.length then
    { bonds := store.bonds.tail
      distinct := ((List.tail_sublist _).map Bond.peer).nodup store.distinct }
  else store

omit [DecidableEq α] in
/-- To make room, peers are deleted and none is added. -/
theorem makeRoom_peers_subset (store : BondStore α) (capacity : Nat) :
    (store.makeRoom capacity).peers ⊆ store.peers := by
  unfold makeRoom
  split
  · exact ((List.tail_sublist _).map Bond.peer).subset
  · exact List.Subset.refl _

/-- A new bond is stored. -/
def put (store : BondStore α) (capacity : Nat) (bond : Bond α) : BondStore α where
  bonds := ((store.deletePeer bond.peer).makeRoom capacity).bonds ++ [bond]
  distinct := by
    rw [List.map_append, List.map_singleton]
    refine ((store.deletePeer bond.peer).makeRoom capacity).distinct.append
      (List.nodup_singleton _) ?_
    rw [List.disjoint_singleton]
    exact fun stored => (mem_peers_deletePeer.mp (makeRoom_peers_subset _ _ stored)).2 rfl

/-- A bond is put with its own peer, and others may have made room. -/
theorem put_subset (store : BondStore α) (capacity : Nat) (bond : Bond α) :
    (store.put capacity bond).peers ⊆ bond.peer :: store.peers := by
  intro other stored
  unfold peers put at stored
  rw [List.map_append, List.map_singleton, List.mem_append, List.mem_singleton] at stored
  rcases stored with old | rfl
  · have kept := makeRoom_peers_subset _ _ old
    exact List.mem_cons_of_mem _ (mem_peers_deletePeer.mp kept).1
  · exact List.mem_cons_self ..

/-- `count_peer_irks` over the store. -/
def withIrk (store : BondStore α) : Nat :=
  store.bonds.countP Bond.irkPresent

end BondStore

/-! ## The handler -/

/-- `BLE_PAIRING_WINDOW_MS`, in microseconds. -/
def pairingWindowUs : Nat := 60000 * 1000

/-- `BLE_RX_FLAT_MAX`. -/
def rxFlatMax : Nat := 512

/-- The connection, as NimBLE has it, and what is to be told of its history: who was bonded when it
came up, whether the pairing window has been open, whether the peer has bonded, and whether the last
`ENC_CHANGE` came after that. -/
structure Connection (α : Type*) where
  handle : Nat
  peer : α
  encrypted : Bool := false
  bondedBefore : List α
  windowSeen : Bool
  bonded : Bool := false
  judged : Bool := false

/-- The state of `ble_uart.c`. A deadline that is not set is 0, a handle that is 0xffff is none. -/
structure Adapter (α : Type*) where
  now : Nat := 0
  windowUntilUs : Nat := 0
  bondCount : Nat := 0
  bondsResolvable : Bool := false
  bondChanged : Bool := false
  bondsAtConnect : Nat := 0
  latchedConn : Option Nat := none
  pairingAllowed : Bool := false
  evictedConn : Option Nat := none
  forgetPending : Bool := false
  store : BondStore α
  connection : Option (Connection α) := none

namespace Adapter

/-- `ble_pair_policy_window_open`. -/
def windowOpen (s : Adapter α) : Bool :=
  s.windowUntilUs ≠ 0 ∧ s.now < s.windowUntilUs

/-- `ble_uart_open_pairing_window`. -/
def openWindow (s : Adapter α) : Adapter α :=
  { s with
    windowUntilUs := s.now + pairingWindowUs
    connection := s.connection.map ({ · with windowSeen := true }) }

/-- `ble_pair_policy_close_window`. -/
def closeWindow (s : Adapter α) : Adapter α :=
  { s with windowUntilUs := 0 }

/-- `bond_state_refresh`. -/
def refreshBonds (s : Adapter α) : Adapter α :=
  { s with
    bondCount := s.store.bonds.length
    bondsResolvable := 0 < s.store.bonds.length ∧ s.store.bonds.length ≤ s.store.withIrk }

/-- `ble_pair_policy_latch`. -/
def latch (s : Adapter α) (handle : Nat) : Adapter α :=
  if s.latchedConn = some handle then s
  else
    { s with
      latchedConn := some handle
      bondChanged := false
      bondsAtConnect := s.store.bonds.length
      pairingAllowed := s.windowOpen }

/-- `ble_pair_policy_unlatch`. -/
def unlatch (s : Adapter α) (handle : Nat) : Adapter α :=
  if s.latchedConn = some handle then { s with latchedConn := none } else s

/-- `ble_pair_policy_may_bond`. -/
def mayBond (s : Adapter α) : Bool :=
  s.pairingAllowed || s.windowOpen

/-- `BLE_GAP_EVENT_CONNECT`. -/
def connect (s : Adapter α) (handle : Nat) (peer : α) : Adapter α :=
  let s := { s with connection := some {
    handle, peer, bondedBefore := s.store.peers, windowSeen := s.windowOpen } }
  let s := s.latch handle
  if ¬ s.mayBond ∧ s.bondsResolvable ∧ peer ∉ s.store.peers then
    { s with evictedConn := some handle }
  else s

/-- `BLE_GAP_EVENT_DISCONNECT`. -/
def disconnect (s : Adapter α) (c : Connection α) : Adapter α :=
  let s := { s with
    connection := none
    evictedConn := if s.evictedConn = some c.handle then none else s.evictedConn }
  (s.unlatch c.handle).refreshBonds

/-- `BLE_GAP_EVENT_ENC_CHANGE`, when the link is encrypted. `ble_gap_unpair` and what is done when
it fails both take the bond away and end the connection. -/
def encChange (s : Adapter α) (c : Connection α) : Adapter α :=
  let s := { s with connection := some { c with encrypted := true, judged := true } }
  let s := s.latch c.handle
  let more := s.store.bonds.length > s.bondsAtConnect
  if more ∧ ¬ s.mayBond then
    refreshBonds { s with evictedConn := some c.handle, store := s.store.deletePeer c.peer }
  else if more ∨ s.bondChanged then s.closeWindow.refreshBonds
  else s

/-- `BLE_GAP_EVENT_REPEAT_PAIRING`. -/
def repeatPairing (s : Adapter α) (c : Connection α) : Adapter α :=
  let s := s.latch c.handle
  if ¬ s.mayBond then s
  else { s with bondChanged := true, store := s.store.deletePeer c.peer }

/-- The security manager of NimBLE stores the new bond of its peer. -/
def bond (capacity : Nat) (s : Adapter α) (c : Connection α) (irkPresent : Bool) : Adapter α :=
  { s with
    store := s.store.put capacity { peer := c.peer, irkPresent }
    connection := some { c with bonded := true, judged := false } }

/-- `ble_job_run`. -/
def runJobs (s : Adapter α) : Adapter α :=
  refreshBonds { s with
    forgetPending := false
    store := if s.forgetPending then .empty else s.store }

/-- What becomes of a write. -/
inductive Access where
  | insufficientAuthen
  | invalidLength
  | unlikely
  /-- Given to the data or to the control callback. -/
  | delivered
  deriving DecidableEq, Repr

/-- `gatt_svr_access_cb`, for a write of `length` bytes; `flattens` says that its chain can be
read. -/
def access (s : Adapter α) (handle length : Nat) (flattens : Bool) : Access :=
  if s.evictedConn = some handle then .insufficientAuthen
  else if length > rxFlatMax then .invalidLength
  else if ¬ flattens then .unlikely
  else .delivered

end Adapter

/-! ## Runs -/

inductive Input (α : Type*) where
  | connect (handle : Nat) (peer : α)
  | disconnect
  /-- The security manager stores the peer's bond. -/
  | bond (irkPresent : Bool)
  /-- `ENC_CHANGE` with the status 0; with any other nothing is done. -/
  | encChange
  | repeatPairing
  | openWindow
  /-- The timer of the pairing window. -/
  | windowExpired
  | wait (us : Nat)
  /-- `ble_uart_forget_bonds`. -/
  | forgetBonds
  /-- The posted work, on the host task. -/
  | jobs

/-- Whether NimBLE does it: there is one connection at a time, a bond is stored for a peer that has
none, pairing is repeated by one that has, and a link is encrypted with a bond that was there when
it came up or has been stored since. -/
def Adapter.step (capacity : Nat) (s : Adapter α) : Input α → Adapter α
  | .connect handle peer => s.connection.elim (s.connect handle peer) fun _ => s
  | .disconnect => s.connection.elim s s.disconnect
  | .bond irkPresent =>
    s.connection.elim s fun c =>
      if c.peer ∉ s.store.peers then s.bond capacity c irkPresent else s
  | .encChange =>
    s.connection.elim s fun c =>
      if c.peer ∈ c.bondedBefore ∨ c.bonded then s.encChange c else s
  | .repeatPairing =>
    s.connection.elim s fun c => if c.peer ∈ s.store.peers then s.repeatPairing c else s
  | .openWindow => s.openWindow
  | .windowExpired => s.closeWindow
  | .wait us => { s with now := s.now + us }
  | .forgetBonds => { s with forgetPending := true }
  | .jobs => s.runJobs

/-- The adapter when the stack is up, with the bonds that were kept. -/
def Adapter.booted (store : BondStore α) : Adapter α :=
  Adapter.refreshBonds { store }

end OpenDiag.Ble
