import OpenDiag.Vif.Machine

/-!
# The front-end of the link

`vif_link_service` with `vif_owner_service` and `link_apply_frontend`: requests come from any task
at any time, and the link task carries them out, one critical section, one driver call or one call
of the front-end at a time. What the drivers and the front-ends answer is an input. Every front-end
has a `start` and a `stop`, and the default one is there before the task.
-/

namespace OpenDiag.Vif

/-- What the link task does next. -/
inductive LinkPc (F : Type*) where
  /-- Outside `vif_link_service`. -/
  | idle
  /-- `vif_owner_service` releases the buses of these groups. -/
  | releasing (recover : Bool) (left : List Res) (failed : Bool)
  /-- It sets its flags again. -/
  | flagging (recover : Bool)
  /-- It asks for the default front-end. -/
  | puttingBack
  /-- `vif_link_service` looks for a switch. -/
  | checking
  /-- `link_apply_frontend` stops the front-end that is installed. -/
  | stopping (next : Option F)
  /-- It releases the pins. -/
  | unpinning (next prev : Option F)
  /-- It releases the buses of these groups. -/
  | closing (next prev : Option F) (left : List Res) (failed : Bool)
  /-- `vif_link_service` asks for the switch again. -/
  | queueing (next : Option F)
  /-- `link_apply_frontend` starts the front-end that was asked for. -/
  | starting (fe : F) (prev : Option F)
  /-- It starts the one that was installed. -/
  | restoring (prev : F)
  deriving DecidableEq, Repr

/-- `g.link` with the requests to the link owner, the buses and the pins that it has claimed, and
the place of its task. -/
structure Link (F : Type*) where
  fe : Option F := none
  feNext : Option F := none
  feSwitch : Bool := false
  recoverReq : Bool := false
  releaseReq : Bool := false
  claim : Res → Option Bus := fun _ => none
  pins : List Nat := []
  pc : LinkPc F := .idle

/-- What the driver or the front-end answers that is called next: whether a bus closes, whether the
front-end accepts, and the claims that the front-end's code leaves behind. -/
structure Answer where
  closes : Bool := true
  accepts : Bool := true
  claim : Res → Option Bus := fun _ => none
  pins : List Nat := []

/-- What can be seen of the link. -/
inductive LinkEvent (F : Type*) where
  /-- `vif_link_set_frontend`. -/
  | asked (fe : Option F)
  /-- A switch is taken up. -/
  | attempt (fe : Option F)
  /-- A switch is put off. -/
  | queued
  | stop (fe : F)
  /-- `asked` when the front-end was asked for and is not put back; `bare` when the link has no
  claim and no pin. -/
  | start (fe : F) (asked accepted bare : Bool)
  deriving DecidableEq, Repr

inductive LinkInput (F : Type*) where
  | setFrontend (fe : Option F)
  | linkDown
  | recoverAll
  /-- `vif_bus_release_all` from another task. -/
  | release
  /-- `vif_pin_release_all` from another task. -/
  | releasePins
  /-- The front-end's own code, between two passes. -/
  | client (claim : Res → Option Bus) (pins : List Nat)
  /-- The link task goes on. -/
  | turn (answer : Answer)

section Turns

variable {F : Type*}

/-- `vif_link_set_frontend`. -/
def Link.setFrontend (s : Link F) (fe : Option F) : Link F × List (LinkEvent F) :=
  ({ s with feNext := fe, feSwitch := true }, [.asked fe])

/-- The link owner has no claim and no pin. -/
def Link.bare (s : Link F) : Bool :=
  (Res.all.all fun r => s.claim r = none) && s.pins.isEmpty

/-- One turn of the loop of `vif_bus_release_all`, and whether it has closed what was there. -/
def Link.closeBus (s : Link F) (r : Res) (closes : Bool) : Link F × Bool :=
  if s.claim r = none then (s, true)
  else if closes then ({ s with claim := Function.update s.claim r none }, true)
  else (s, false)

/-- `frontend_start`, with the place to go on when the front-end refuses. -/
def Link.frontendStart (s : Link F) (fe : F) (asked : Bool) (answer : Answer)
    (refused : LinkPc F) : Link F × List (LinkEvent F) :=
  let after := { s with claim := answer.claim, pins := answer.pins }
  (if answer.accepts then { after with fe := some fe, pc := .idle }
    else { after with pc := refused },
    [.start fe asked answer.accepts s.bare])

/-- The next step of `vif_link_service`. The tests that it makes without the lock only save the
lock. -/
def Link.turn (default : F) (s : Link F) (answer : Answer) : Link F × List (LinkEvent F) :=
  match s.pc with
  | .idle =>
    if s.recoverReq ∨ s.releaseReq then
      ({ s with
        recoverReq := false
        releaseReq := false
        pc := .releasing s.recoverReq Res.all false }, [])
    else ({ s with pc := .checking }, [])
  | .releasing recover (r :: left) failed =>
    let (s, closed) := s.closeBus r answer.closes
    ({ s with pc := .releasing recover left (failed || !closed) }, [])
  | .releasing recover [] failed =>
    ({ s with
      pins := []
      pc := if failed then .flagging recover else if recover then .puttingBack else .checking }, [])
  | .flagging recover =>
    ({ s with releaseReq := true, recoverReq := s.recoverReq || recover, pc := .checking }, [])
  | .puttingBack =>
    let (s, events) := s.setFrontend (some default)
    ({ s with pc := .checking }, events)
  | .checking =>
    if s.feSwitch then
      ({ s with feSwitch := false, pc := .stopping s.feNext }, [.attempt s.feNext])
    else ({ s with pc := .idle }, [])
  | .stopping next =>
    match s.fe with
    | none => ({ s with pc := .unpinning next none }, [])
    | some prev =>
      ({ s with
        fe := none
        claim := answer.claim
        pins := answer.pins
        pc := .unpinning next (some prev) }, [.stop prev])
  | .unpinning next prev => ({ s with pins := [], pc := .closing next prev Res.all false }, [])
  | .closing next prev (r :: left) failed =>
    let (s, closed) := s.closeBus r answer.closes
    ({ s with pc := .closing next prev left (failed || !closed) }, [])
  | .closing next _ [] true => ({ s with pc := .queueing next }, [])
  | .closing none _ [] false => ({ s with pc := .idle }, [])
  | .closing (some fe) prev [] false => ({ s with pc := .starting fe prev }, [])
  | .queueing next =>
    if s.feSwitch then ({ s with pc := .idle }, [])
    else ({ s with feNext := next, feSwitch := true, pc := .idle }, [.queued])
  | .starting fe prev => s.frontendStart fe true answer (prev.elim .idle .restoring)
  | .restoring prev => s.frontendStart prev false answer .idle

def Link.step (default : F) (s : Link F) : LinkInput F → Link F × List (LinkEvent F)
  | .setFrontend fe => s.setFrontend fe
  | .linkDown => s.setFrontend (some default)
  | .recoverAll => ({ s with recoverReq := true }, [])
  | .release => ({ s with releaseReq := true }, [])
  | .releasePins => ({ s with pins := [] }, [])
  | .client claim pins =>
    match s.pc with
    | .idle => ({ s with claim, pins }, [])
    | _ => (s, [])
  | .turn answer => s.turn default answer

/-- What `vif_link_start` leaves: its task is about to make its first pass. -/
def Link.started (default : F) : Link F :=
  { feNext := some default, feSwitch := true }

end Turns

end OpenDiag.Vif
