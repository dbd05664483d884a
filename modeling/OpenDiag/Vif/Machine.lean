import OpenDiag.Vif.Kline
import OpenDiag.Vif.Pins

/-!
# Bus claims and their owners

`vif_bus_open`, `vif_bus_close`, `vif_bus_release_all` and `vif_owner_service` of `vif.c`, and the
K-Line-only parameter, as a machine. A step of a thread is one critical section or one blocking call
of a driver or of the transmit worker; the pin calls and the steps of a calibration come between
them as they like. What a blocking call meets is an input.
-/

namespace OpenDiag.Vif

/-- `vif_bus_t`; `VIF_BUS_NONE` is `none`. -/
inductive Bus where
  | can
  | kline
  | j1850Pwm
  | j1850Vpw
  deriving DecidableEq, Repr

/-- `vif_res_t`. -/
inductive Res where
  | can
  | kline
  | j1850
  deriving DecidableEq, Repr

/-- `bus_group`. -/
def Bus.group : Bus → Res
  | .can => .can
  | .kline => .kline
  | .j1850Pwm | .j1850Vpw => .j1850

/-- The groups in the order `vif_bus_release_all` walks them. -/
def Res.all : List Res := [.can, .kline, .j1850]

/-- An element of `g.claim`; of the worker, whether there is one. -/
structure Claim where
  bus : Option Bus := none
  isOpen : Bool := false
  lLineReserved : Bool := false
  bitrate : Nat := 0
  owner : Owner := .link
  txWorker : Bool := false
  deriving DecidableEq, Repr

/-- A task of the system: an owner's own, or another one. -/
inductive Thread where
  | task (owner : Owner)
  | other
  deriving DecidableEq, Repr

/-- What follows a successful or failed `bus_driver_down`. -/
inductive Resume where
  /-- In `vif_bus_open`, for the bus that was there before. -/
  | reopen (bus : Bus) (bitrate : Nat)
  /-- In `vif_bus_open`, for the bus that did not start. -/
  | abandon
  | close
  /-- In `vif_bus_release_all`, called by the service pass with the recovery flag it took. -/
  | release (rest : List Res) (failed : Bool) (service : Option Bool)
  deriving DecidableEq, Repr

/-- Where a thread is: each constructor names its next operation. -/
inductive Pc where
  | idle
  /-- `bus_tx_worker_close` of `bus_driver_down`. -/
  | worker (bus : Bus) (resume : Resume)
  /-- `ops->close` of `bus_driver_down`. -/
  | driver (bus : Bus) (resume : Resume)
  /-- The second critical section of `vif_bus_open`. -/
  | install (bus : Bus) (bitrate : Nat)
  /-- `bus_driver_up`. -/
  | up (bus : Bus)
  /-- The last critical section of `vif_bus_open`, behind a successful start. -/
  | publish (bus : Bus)
  /-- The critical section that clears the claim. -/
  | clear (res : Res) (resume : Resume)
  /-- The loop of `vif_bus_release_all`. -/
  | release (rest : List Res) (failed : Bool) (service : Option Bool)
  /-- `vif_pin_release_all` of the service pass. -/
  | unpin (failed recover : Bool)
  /-- The service pass puts its requests back. -/
  | rearm (recover : Bool)
  /-- `bus_tx_worker_wait` of `vif_bus_param_set`, then the first critical section of
  `kline_set_only_with_pin_claim`. -/
  | reserve (value : Bool)
  /-- `ops->set_param`. -/
  | setOnly (value wasReserved : Bool)
  /-- Its last critical section. -/
  | keep (value wasReserved ok : Bool)
  deriving DecidableEq, Repr

/-- The call a thread is in, and for which owner. -/
structure Frame where
  owner : Owner := .link
  pc : Pc := .idle
  deriving DecidableEq, Repr

/-- The state of `vif.c`, of the drivers under it and of the tasks above it. -/
structure State where
  /-- `g.task`, which names an owner's own task once it is set. -/
  task : Owner → Bool := fun _ => false
  recoverReq : Owner → Bool := fun _ => false
  releaseReq : Owner → Bool := fun _ => false
  claim : Res → Claim := fun _ => {}
  pins : Pins := {}
  /-- The drivers that are up, or may be after a call that failed. -/
  up : Bus → Bool := fun _ => false
  kline : Kline := {}
  frame : Thread → Frame := fun _ => {}
  /-- The owner inside `vif_calibrate_hs`. -/
  calibration : Option (Owner × Stage) := none

/-- What can be seen of the calls. -/
inductive Event where
  | workerClosed (thread : Thread) (owner : Owner) (bus : Bus) (ok : Bool)
  | driverOpened (thread : Thread) (owner : Owner) (bus : Bus) (ok : Bool)
  | driverClosed (thread : Thread) (owner : Owner) (bus : Bus) (ok : Bool)
  | pin (event : PinEvent)
  | returned (thread : Thread) (owner : Owner) (err : Err)
  deriving DecidableEq, Repr

def State.setClaim (s : State) (r : Res) (c : Claim) : State :=
  { s with claim := Function.update s.claim r c }

def State.goto (s : State) (t : Thread) (owner : Owner) (pc : Pc) : State :=
  { s with frame := Function.update s.frame t { owner, pc } }

section Fields

variable (s : State) (r : Res) (c : Claim) (t : Thread) (owner : Owner) (pc : Pc)

@[simp] theorem State.setClaim_claim : (s.setClaim r c).claim = Function.update s.claim r c := rfl
@[simp] theorem State.setClaim_frame : (s.setClaim r c).frame = s.frame := rfl
@[simp] theorem State.setClaim_up : (s.setClaim r c).up = s.up := rfl
@[simp] theorem State.setClaim_task : (s.setClaim r c).task = s.task := rfl
@[simp] theorem State.setClaim_pins : (s.setClaim r c).pins = s.pins := rfl
@[simp] theorem State.setClaim_kline : (s.setClaim r c).kline = s.kline := rfl
@[simp] theorem State.setClaim_calibration : (s.setClaim r c).calibration = s.calibration := rfl

@[simp] theorem State.goto_claim : (s.goto t owner pc).claim = s.claim := rfl
@[simp] theorem State.goto_frame :
    (s.goto t owner pc).frame = Function.update s.frame t { owner, pc } := rfl
@[simp] theorem State.goto_up : (s.goto t owner pc).up = s.up := rfl
@[simp] theorem State.goto_task : (s.goto t owner pc).task = s.task := rfl
@[simp] theorem State.goto_pins : (s.goto t owner pc).pins = s.pins := rfl
@[simp] theorem State.goto_kline : (s.goto t owner pc).kline = s.kline := rfl
@[simp] theorem State.goto_calibration : (s.goto t owner pc).calibration = s.calibration := rfl

end Fields

/-- `on_owner_thread`. -/
def State.onOwnerThread (s : State) (t : Thread) (owner : Owner) : Bool :=
  s.task owner && t = .task owner

/-! ## The calls -/

inductive Call where
  | open (owner : Owner) (bus : Option Bus) (bitrate : Nat)
  | close (owner : Owner) (bus : Option Bus)
  | releaseAll (owner : Owner)
  | service (owner : Owner)
  /-- `vif_bus_param_set(BUS_P_K_LINE_ONLY)` on the K-Line. -/
  | setOnly (owner : Owner) (value : Bool)
  deriving DecidableEq, Repr

/-- `vif_bus_open` up to its first blocking call. -/
def State.beginOpen (s : State) (t : Thread) (owner : Owner) (bus : Bus) (bitrate : Nat) :
    State × List Event :=
  let c := s.claim bus.group
  if !s.onOwnerThread t owner then (s, [.returned t owner .invalidState])
  else if c.bus ≠ none ∧ c.owner ≠ owner then (s, [.returned t owner .invalidState])
  else
    match c.bus with
    | none =>
      ((s.setClaim bus.group { c with isOpen := false, bus := some bus, owner }).goto t owner
        (.install bus bitrate), [])
    | some old =>
      ((s.setClaim bus.group { c with isOpen := false }).goto t owner
        (.worker old (.reopen bus bitrate)), [])

/-- `vif_bus_close` up to its first blocking call. -/
def State.beginClose (s : State) (t : Thread) (owner : Owner) (bus : Bus) : State × List Event :=
  let c := s.claim bus.group
  if !s.onOwnerThread t owner then (s, [.returned t owner .invalidState])
  else
    match c.bus with
    | none => (s, [.returned t owner .ok])
    | some held =>
      if c.owner ≠ owner then (s, [.returned t owner .invalidState])
      else
        ((s.setClaim bus.group { c with isOpen := false }).goto t owner (.worker held .close), [])

/-- The first critical section of `vif_owner_service`, with the test before it. -/
def State.beginService (s : State) (t : Thread) (owner : Owner) : State × List Event :=
  if !s.onOwnerThread t owner then (s, [])
  else if !s.recoverReq owner && !s.releaseReq owner then (s, [])
  else
    ({ s with
      recoverReq := Function.update s.recoverReq owner false
      releaseReq := Function.update s.releaseReq owner false }.goto t owner
        (.release Res.all false (some (s.recoverReq owner))), [])

/-- A call begins. -/
def State.begin (s : State) (t : Thread) : Call → State × List Event
  | .open owner none _ => (s, [.returned t owner .invalidArg])
  | .open owner (some bus) bitrate => s.beginOpen t owner bus bitrate
  | .close owner none => (s, [.returned t owner .invalidArg])
  | .close owner (some bus) => s.beginClose t owner bus
  | .releaseAll owner =>
    if !s.onOwnerThread t owner then
      ({ s with releaseReq := Function.update s.releaseReq owner true },
        [.returned t owner .ok])
    else (s.goto t owner (.release Res.all false none), [])
  | .service owner => s.beginService t owner
  | .setOnly owner value =>
    let c := s.claim .kline
    if s.onOwnerThread t owner ∧ c.bus = some .kline ∧ c.owner = owner ∧ c.isOpen then
      (s.goto t owner (.reserve value), [])
    else (s, [.returned t owner .noClaim])

/-! ## The drivers -/

/-- What a driver answers; the K-Line driver decides by its own state. -/
def State.driverCall (s : State) (bus : Bus) (g : Grant) (call : Kline → Grant → KlineCall) :
    KlineCall :=
  if bus = .kline then call s.kline g else ⟨s.kline, g.driverOk, false⟩

theorem State.driverCall_kline (s : State) (g : Grant) (call : Kline → Grant → KlineCall) :
    s.driverCall .kline g call = call s.kline g := rfl

theorem State.driverCall_of_ne {bus : Bus} (s : State) (other : bus ≠ .kline) (g : Grant)
    (call : Kline → Grant → KlineCall) :
    s.driverCall bus g call = ⟨s.kline, g.driverOk, false⟩ := if_neg other

/-- The state behind a driver call. -/
def State.afterDriver (s : State) (bus : Bus) (c : KlineCall) (up : Bool) : State :=
  { s with
    kline := c.after
    up := Function.update s.up bus up
    pins := if c.cutsPin15 then { s.pins with board := s.pins.board.setLsState 15 false }
      else s.pins }

section Fields

variable (s : State) (bus : Bus) (c : KlineCall) (up : Bool)

@[simp] theorem State.afterDriver_claim : (s.afterDriver bus c up).claim = s.claim := rfl
@[simp] theorem State.afterDriver_frame : (s.afterDriver bus c up).frame = s.frame := rfl
@[simp] theorem State.afterDriver_up :
    (s.afterDriver bus c up).up = Function.update s.up bus up := rfl
@[simp] theorem State.afterDriver_task : (s.afterDriver bus c up).task = s.task := rfl
@[simp] theorem State.afterDriver_kline : (s.afterDriver bus c up).kline = c.after := rfl
@[simp] theorem State.afterDriver_lsPin :
    (s.afterDriver bus c up).pins.lsPin = s.pins.lsPin := by
  unfold State.afterDriver
  split <;> rfl
@[simp] theorem State.afterDriver_calibration :
    (s.afterDriver bus c up).calibration = s.calibration := rfl

end Fields

/-- The K-Line driver has switched pin 15 off. -/
def KlineCall.events (c : KlineCall) (owner : Owner) : List Event :=
  if c.cutsPin15 then [.pin (.off owner .low 15)] else []

/-- `bus_driver_down` has failed. -/
def State.downFailed (s : State) (t : Thread) (owner : Owner) : Resume → State × List Event
  | .release rest _ service => (s.goto t owner (.release rest true service), [])
  | _ => (s.goto t owner .idle, [.returned t owner .failed])

/-- `bus_driver_down` has succeeded. -/
def State.downDone (s : State) (t : Thread) (owner : Owner) (bus : Bus) : Resume → State
  | .reopen next bitrate => s.goto t owner (.install next bitrate)
  | resume => s.goto t owner (.clear bus.group resume)

/-! ## The turns of a thread -/

/-- One critical section or one blocking call of the thread's call. -/
def State.turn (s : State) (t : Thread) (g : Grant) : State × List Event :=
  let owner := (s.frame t).owner
  match (s.frame t).pc with
  | .idle => (s, [])
  | .worker bus resume =>
    let c := s.claim bus.group
    if c.txWorker && !g.workerExits then
      let (s, events) := s.downFailed t owner resume
      (s, .workerClosed t owner bus false :: events)
    else
      ((s.setClaim bus.group { c with txWorker := false }).goto t owner (.driver bus resume),
        [.workerClosed t owner bus true])
  | .driver bus resume =>
    let answer := s.driverCall bus g Kline.close
    let s := s.afterDriver bus answer (!answer.ok && g.leftUp)
    let seen := answer.events owner ++ [.driverClosed t owner bus answer.ok]
    if answer.ok then (s.downDone t owner bus resume, seen)
    else
      let (s, events) := s.downFailed t owner resume
      (s, seen ++ events)
  | .install bus bitrate =>
    ((s.setClaim bus.group
      { s.claim bus.group with bus := some bus, lLineReserved := false, bitrate, owner }).goto t
        owner (.up bus), [])
  | .up bus =>
    let answer := s.driverCall bus g Kline.open
    let s := s.afterDriver bus answer (answer.ok || g.leftUp)
    (s.goto t owner (if answer.ok then .publish bus else .worker bus .abandon),
      answer.events owner ++ [.driverOpened t owner bus answer.ok])
  | .publish bus =>
    ((s.setClaim bus.group { s.claim bus.group with isOpen := true }).goto t owner .idle,
      [.returned t owner .ok])
  | .clear r resume =>
    let s := s.setClaim r {}
    match resume with
    | .reopen _ _ | .abandon => (s.goto t owner .idle, [.returned t owner .failed])
    | .close => (s.goto t owner .idle, [.returned t owner .ok])
    | .release rest failed service => (s.goto t owner (.release rest failed service), [])
  | .release [] failed none =>
    (s.goto t owner .idle, [.returned t owner (if failed then .failed else .ok)])
  | .release [] failed (some recover) => (s.goto t owner (.unpin failed recover), [])
  | .release (r :: rest) failed service =>
    let c := s.claim r
    match c.bus with
    | none => (s.goto t owner (.release rest failed service), [])
    | some held =>
      if c.owner ≠ owner then (s.goto t owner (.release rest failed service), [])
      else
        ((s.setClaim r { c with isOpen := false }).goto t owner
          (.worker held (.release rest failed service)), [])
  | .unpin failed recover =>
    let (pins, events) := s.pins.releaseAll owner
    ({ s with pins }.goto t owner (if failed then .rearm recover else .idle), events.map .pin)
  | .rearm recover =>
    ({ s with
      releaseReq := Function.update s.releaseReq owner true
      recoverReq := Function.update s.recoverReq owner (s.recoverReq owner || recover) }.goto t
        owner .idle, [])
  | .reserve value =>
    let c := s.claim .kline
    if c.txWorker && !g.workerExits then (s.goto t owner .idle, [.returned t owner .failed])
    else if value = false ∧ (s.pins.lsPin = some 15 ∨ s.pins.pinsCalibrating) then
      (s.goto t owner .idle, [.returned t owner .busBusy])
    else
      ((s.setClaim .kline { c with lLineReserved := c.lLineReserved || !value }).goto t owner
        (.setOnly value c.lLineReserved), [])
  | .setOnly value wasReserved =>
    let answer := s.kline.setOnly value g
    ((s.afterDriver .kline answer (s.up .kline)).goto t owner (.keep value wasReserved answer.ok),
      answer.events owner)
  | .keep value wasReserved ok =>
    ((s.setClaim .kline
      { s.claim .kline with lLineReserved := if ok then !value else wasReserved }).goto t owner
        .idle, [.returned t owner (if ok then .ok else .failed)])

/-! ## The system -/

inductive Input where
  /-- `vif_link_start` or `vif_shell_bind` names an owner's task. -/
  | bind (owner : Owner)
  | call (thread : Thread) (made : Call)
  | turn (thread : Thread) (grant : Grant)
  /-- `vif_bus_submit` finds or creates the transmit worker of a bus. -/
  | submit (owner : Owner) (bus : Bus)
  /-- `vif_recover_all`. -/
  | recoverAll
  | pinSet (owner : Owner) (obdPin : Nat) (mode : PinMode) (mv : Nat)
  /-- `vif_pin_release_all`, by the owner's task or by another that resets the link. -/
  | pinReleaseAll (thread : Thread) (owner : Owner)
  | calibrate (owner : Owner)
  /-- The next step of the calibration that is under way. -/
  | calibrateTurn
  deriving DecidableEq, Repr

/-- The owner's task is in no call. -/
def State.free (s : State) (owner : Owner) : Bool :=
  (s.frame (.task owner)).pc = .idle && (s.calibration.map Prod.fst) ≠ some owner

/-- A thread can let the owner's pins go: it is in no call, and they are not being calibrated. -/
def State.canRelease (s : State) (t : Thread) (owner : Owner) : Bool :=
  (s.frame t).pc = .idle && (s.calibration.map fun running => Thread.task running.1) ≠ some t &&
    (s.calibration.map Prod.fst) ≠ some owner

/-- A thread can begin the call: it is in none, or in a calibration that polls the console. -/
def State.canCall (s : State) (t : Thread) (made : Call) : Bool :=
  (s.frame t).pc = .idle &&
    match s.calibration with
    | none => true
    | some (owner, stage) => t ≠ .task owner || stage.prompts && made = .service .shell

/-- A step of the system. One that its task cannot take leaves everything as it is. -/
def State.step (hwLsObd9 : Bool) (s : State) : Input → State × List Event
  | .bind owner => ({ s with task := Function.update s.task owner true }, [])
  | .call t made => if s.canCall t made then s.begin t made else (s, [])
  | .turn t g => s.turn t g
  | .submit owner bus =>
    let c := s.claim bus.group
    if s.free owner ∧ s.task owner ∧ c.bus = some bus ∧ c.owner = owner ∧ c.isOpen then
      (s.setClaim bus.group { c with txWorker := true }, [])
    else (s, [])
  | .recoverAll => ({ s with recoverReq := fun _ => true }, [])
  | .pinSet owner obdPin m mv =>
    if s.free owner then
      let (pins, events, err) :=
        s.pins.set hwLsObd9 (s.claim .kline).lLineReserved owner obdPin m mv
      ({ s with pins }, events.map .pin ++ [.returned (.task owner) owner err])
    else (s, [])
  | .pinReleaseAll t owner =>
    if s.canRelease t owner then
      let (pins, events) := s.pins.releaseAll owner
      ({ s with pins }, events.map .pin ++ [.returned t owner .ok])
    else (s, [])
  | .calibrate owner =>
    if s.free owner then
      match s.pins.claimForCalibration (s.claim .kline).lLineReserved owner with
      | (pins, events, .ok) =>
        ({ s with pins, calibration := some (owner, .reset) }, events.map .pin)
      | (pins, events, err) =>
        ({ s with pins }, events.map .pin ++ [.returned (.task owner) owner err])
    else (s, [])
  | .calibrateTurn =>
    match s.calibration with
    | none => (s, [])
    | some (owner, stage) =>
      if (s.frame (.task owner)).pc = .idle then
        let (pins, events) := s.pins.calibrateStep hwLsObd9 owner stage
        ({ s with pins, calibration := stage.next.map (owner, ·) }, events.map .pin)
      else (s, [])

end OpenDiag.Vif
