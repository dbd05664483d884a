import OpenDiag.Lib.Run
import OpenDiag.Vif.Machine

/-!
# The programming voltage

`PassThruSetProgrammingVoltage` of the driver, `set_programming_voltage` of the core and
`vif_pin_set` under it. The driver remembers that a pin is driven, the core which one, and the pins
themselves who drives what.
-/

namespace OpenDiag.J2534

open OpenDiag.Vif (Pins Owner PinMode Err highPins lowPins)

/-! ## The core -/

/-- The codes that the calls of this module return. -/
inductive VoltageStatus where
  | ok
  | nullParameter
  | value
  | failed
  | notConnected
  | pin
  | device
  | voltageInUse
  | pinInUse
  | nullRequired
  deriving DecidableEq, Repr

def pinOff : UInt32 := 0xffffffff
def shortToGround : UInt32 := 0xfffffffe

/-- The pins that `set_programming_voltage` knows. -/
def voltagePins : List Nat := [6, 9, 11, 12, 13, 14, 15]

/-- `opendiag_Voltage`. -/
structure VoltageRequest where
  device : UInt32
  connector : UInt32
  pin : UInt32
  millivolts : UInt32
  deriving DecidableEq, Repr

/-- What the rest of the firmware says when the request is served: the buses that `vif_bus_info`
reports, and whether the K-Line claim has the L line. -/
structure Surroundings where
  claims : List Vif.Bus := []
  lLineReserved : Bool := false
  deriving DecidableEq, Repr

/-- `device` and `voltage_pin` of the core, and the pins of `vif.c`. -/
structure VoltageCore where
  device : UInt32
  voltagePin : Option Nat := none
  pins : Pins := {}

/-- A claimed bus uses the pin. -/
def Surroundings.uses (around : Surroundings) (pin : Nat) : Bool :=
  around.claims.any fun bus =>
    (bus = .can ∧ (pin = 6 ∨ pin = 14)) ∨ (bus = .kline ∧ pin = 15)

/-- `set_programming_voltage`. -/
def setProgrammingVoltage (hwLsObd9 : Bool) (core : VoltageCore) (around : Surroundings)
    (req : VoltageRequest) : VoltageCore × VoltageStatus :=
  let pin := req.pin.toNat
  let pinSet (m : PinMode) (mv : Nat) :=
    core.pins.set hwLsObd9 around.lLineReserved .link pin m mv
  if req.device ≠ core.device then (core, .device)
  else if req.connector ≠ 1 then (core, .pin)
  else if pin ∉ voltagePins then (core, .pin)
  else if req.millivolts = pinOff then
    let (pins, _, err) := pinSet .off 0
    if err ≠ .ok then ({ core with pins }, .pinInUse)
    else
      ({ core with
        pins, voltagePin := if core.voltagePin = some pin then none else core.voltagePin }, .ok)
  else if around.uses pin then (core, .pinInUse)
  else if req.millivolts = shortToGround then
    if ¬ (pin = 15 ∨ (hwLsObd9 ∧ pin = 9)) then (core, .value)
    else
      let (pins, _, err) := pinSet .ground 0
      ({ core with pins }, if err ≠ .ok then .pinInUse else .ok)
  else if pin = 15 ∨ req.millivolts < 5000 ∨ req.millivolts > 20000 then (core, .value)
  else if core.voltagePin ≠ none ∧ core.voltagePin ≠ some pin then (core, .voltageInUse)
  else
    let (pins, _, err) := pinSet .voltage req.millivolts.toNat
    if err ≠ .ok then ({ core with pins }, .pinInUse)
    else ({ core with pins, voltagePin := some pin }, .ok)

/-! ## The driver -/

/-- The open device of the driver, and the core that it talks to. -/
structure Session where
  id : UInt32
  remote : UInt32
  disconnected : Bool := false
  programmingVoltage : Bool := false
  core : VoltageCore

/-- A call of `PassThruSetProgrammingVoltage`: its arguments, whether the link is alive, and what
the rest of the firmware is doing. -/
structure VoltageCall where
  id : UInt32
  connector : UInt32 := 1
  numOfResources : UInt32 := 1
  /-- Where the pointer of the resources points to; none for a null pointer. -/
  resource : Option UInt32
  voltage : UInt32
  alive : Bool := true
  around : Surroundings := {}
  deriving DecidableEq, Repr

/-- `checkDevice`, for a device that is open. -/
def Session.checkDevice (s : Session) (alive : Bool) (id : UInt32) : Session × VoltageStatus :=
  if s.disconnected then (s, .notConnected)
  else if ¬ alive then ({ s with disconnected := true }, .notConnected)
  else if id ≠ s.id then (s, .device)
  else (s, .ok)

/-- `rpc`, when it completes with a status. -/
def Session.answered (s : Session) (status : VoltageStatus) : Session × VoltageStatus :=
  if status = .device then ({ s with disconnected := true }, .notConnected) else (s, status)

/-- `PassThruSetProgrammingVoltage`, with the request served by the core. -/
def passThruSetProgrammingVoltage (hwLsObd9 : Bool) (s : Session) (call : VoltageCall) :
    Session × VoltageStatus :=
  let (s, status) := s.checkDevice call.alive call.id
  if status ≠ .ok then (s, status)
  else
    match call.resource with
    | none => (s, .nullParameter)
    | some pin =>
      if call.numOfResources ≠ 1 then (s, .pin)
      else
        let (core, status) := setProgrammingVoltage hwLsObd9 s.core call.around
          { device := s.remote, connector := call.connector, pin, millivolts := call.voltage }
        let (s, status) := { s with core }.answered status
        if status = .ok ∧ call.voltage ≠ shortToGround then
          ({ s with programmingVoltage := call.voltage ≠ pinOff }, status)
        else (s, status)

/-- The session after a call. -/
def Session.call (hwLsObd9 : Bool) (s : Session) (call : VoltageCall) : Session :=
  (passThruSetProgrammingVoltage hwLsObd9 s call).1

/-- `readVoltageIoctl` for `READ_PROG_VOLTAGE`, and `read_voltage` of the core; `vsense` is what the
board measures, and `input` and `output` say that these pointers are not null. -/
def readProgVoltage (s : Session) (id : UInt32) (alive input output : Bool) (vsense : Int) :
    Except VoltageStatus Nat :=
  match s.checkDevice alive id with
  | (s, .ok) =>
    if ¬ output then .error .nullParameter
    else if input then .error .nullRequired
    else if s.remote ≠ s.core.device then .error .notConnected
    else if vsense < 0 then .error .failed
    else .ok (if s.programmingVoltage then vsense.toNat else 0)
  | (_, status) => .error status

/-! ## Agreement -/

/-- The high-side pin that the link drives. -/
def drivenByLink (p : Pins) : Option Nat :=
  if p.hsOwner = .link then p.hsPin else none

/-- The three layers agree. -/
structure Session.Agree (s : Session) : Prop where
  flag : s.programmingVoltage = true ↔ s.core.voltagePin ≠ none
  pin : s.core.voltagePin = drivenByLink s.core.pins

/-- The call asks, in proper form, that a pin be switched off that nobody else drives. -/
structure Releases (s : Session) (call : VoltageCall) (pin : UInt32) : Prop where
  connected : s.disconnected = false
  alive : call.alive = true
  id : call.id = s.id
  remote : s.remote = s.core.device
  resource : call.resource = some pin
  single : call.numOfResources = 1
  connector : call.connector = 1
  known : pin.toNat ∈ voltagePins
  off : call.voltage = pinOff
  high : ¬ (s.core.pins.hsPin = some pin.toNat ∧ s.core.pins.hsOwner ≠ .link)
  low : ¬ (s.core.pins.lsPin = some pin.toNat ∧ s.core.pins.lsOwner ≠ .link)

/-- What is switched off is the driven pin, unless there is none. -/
def NamesDriven (s : Session) (call : VoltageCall) : Prop :=
  ∀ pin, Releases s call pin →
    s.core.voltagePin = none ∨ s.core.voltagePin = some pin.toNat

/-! ## The pins under a request of the link -/

section Pins

variable {hwLsObd9 lLineReserved : Bool} {p : Pins} {pin : Nat}

theorem drivenByLink_of_hsRelease (other : p.hsPin = some pin) :
    drivenByLink (p.hsRelease .link).1 = none := by
  unfold drivenByLink Pins.hsRelease
  rw [other]
  simp only [ite_self]

theorem drivenByLink_lsRelease : drivenByLink (p.lsRelease .link).1 = drivenByLink p := by
  unfold Pins.lsRelease
  split
  · exact rfl
  · exact rfl

/-- A pin is switched off unless another owner drives it, and then the link does not drive it. -/
theorem set_off (known : pin ∈ voltagePins) :
    let answer := p.set hwLsObd9 lLineReserved .link pin .off 0
    (answer.2.2 = .ok ↔ ¬ (p.hsPin = some pin ∧ p.hsOwner ≠ .link) ∧
      ¬ (p.lsPin = some pin ∧ p.lsOwner ≠ .link)) ∧
    (answer.2.2 ≠ .ok → answer.1 = p) ∧
    (answer.2.2 = .ok → drivenByLink answer.1 =
      if drivenByLink p = some pin then none else drivenByLink p) := by
  have driver : ¬ (pin ∉ highPins ∧ pin ∉ lowPins hwLsObd9) := by
    unfold lowPins
    simp only [voltagePins, List.mem_cons, List.not_mem_nil, or_false] at known
    rcases known with rfl | rfl | rfl | rfl | rfl | rfl | rfl <;> cases hwLsObd9 <;> decide
  unfold Pins.set
  simp only [if_neg driver, reduceCtorEq, false_and, or_self, if_false]
  split
  · rename_i other
    refine ⟨⟨nofun, fun free => ?_⟩, fun _ => rfl, nofun⟩
    exact absurd (not_or.mpr free) (not_not.mpr other)
  · rename_i free
    refine ⟨⟨fun _ => not_or.mp free, fun _ => rfl⟩, fun refused => absurd rfl refused, ?_⟩
    intro _
    by_cases high : p.hsPin = some pin
    · have mine : p.hsOwner = .link := not_not.mp fun other => free (.inl ⟨high, other⟩)
      have driven : drivenByLink p = some pin := (if_pos mine).trans high
      have released := drivenByLink_of_hsRelease high
      simp only [if_pos high, if_pos driven]
      split
      · exact drivenByLink_lsRelease.trans released
      · exact released
    · have spared : drivenByLink p ≠ some pin := by
        unfold drivenByLink
        split
        · exact high
        · exact nofun
      simp only [if_neg high, if_neg spared]
      split
      · exact drivenByLink_lsRelease
      · exact rfl

theorem set_ground :
    let answer := p.set hwLsObd9 lLineReserved .link pin .ground 0
    (answer.2.2 ≠ .ok → answer.1 = p) ∧ drivenByLink answer.1 = drivenByLink p := by
  unfold Pins.set
  dsimp only
  split_ifs
  iterate 5 exact ⟨fun _ => rfl, rfl⟩
  exact ⟨fun refused => absurd rfl refused, rfl⟩

theorem set_voltage (mv : Nat) :
    let answer := p.set hwLsObd9 lLineReserved .link pin .voltage mv
    (answer.2.2 ≠ .ok → answer.1 = p) ∧
      (answer.2.2 = .ok → drivenByLink answer.1 = some pin) := by
  unfold Pins.set
  dsimp only
  split_ifs
  iterate 4 exact ⟨fun _ => rfl, nofun⟩
  exact ⟨fun refused => absurd rfl refused, fun _ => if_pos rfl⟩

end Pins

/-! ## What a request does -/

section Request

variable {hwLsObd9 : Bool} {core : VoltageCore} {around : Surroundings} {req : VoltageRequest}

/-- A request is refused and changes nothing, or it switches its pin off, or it grounds it, or it
drives it. -/
inductive Served (core : VoltageCore) (req : VoltageRequest) :
    VoltageCore × VoltageStatus → Prop where
  | refused {status : VoltageStatus} (fails : status ≠ .ok) : Served core req (core, status)
  | off {after : VoltageCore} (asked : req.millivolts = pinOff)
      (pin : after.voltagePin =
        if core.voltagePin = some req.pin.toNat then none else core.voltagePin)
      (driven : drivenByLink after.pins = if drivenByLink core.pins = some req.pin.toNat then none
        else drivenByLink core.pins) : Served core req (after, .ok)
  | ground {after : VoltageCore} (asked : req.millivolts = shortToGround)
      (pin : after.voltagePin = core.voltagePin)
      (driven : drivenByLink after.pins = drivenByLink core.pins) : Served core req (after, .ok)
  | voltage {after : VoltageCore} (notOff : req.millivolts ≠ pinOff)
      (notGround : req.millivolts ≠ shortToGround)
      (pin : after.voltagePin = some req.pin.toNat)
      (driven : drivenByLink after.pins = some req.pin.toNat) : Served core req (after, .ok)

/-- The core is in no other way. -/
theorem served : Served core req (setProgrammingVoltage hwLsObd9 core around req) := by
  unfold setProgrammingVoltage
  dsimp only
  split
  · exact .refused nofun
  split
  · exact .refused nofun
  split
  · exact .refused nofun
  rename_i known
  split
  · rename_i asked
    obtain ⟨_, kept, driven⟩ :=
      @set_off hwLsObd9 around.lLineReserved core.pins _ (not_not.mp known)
    split
    · rename_i fails
      rw [kept fails]
      exact .refused nofun
    · rename_i taken
      exact .off asked rfl (driven (not_not.mp taken))
  split
  · exact .refused nofun
  rename_i notOff _
  split
  · rename_i asked
    obtain ⟨kept, driven⟩ := @set_ground hwLsObd9 around.lLineReserved core.pins req.pin.toNat
    split
    · exact .refused nofun
    split
    · rename_i fails
      rw [kept fails]
      exact .refused nofun
    · exact .ground asked rfl driven
  rename_i notGround
  split
  · exact .refused nofun
  split
  · exact .refused nofun
  · obtain ⟨kept, driven⟩ := @set_voltage hwLsObd9 around.lLineReserved core.pins req.pin.toNat
      req.millivolts.toNat
    split
    · rename_i fails
      rw [kept fails]
      exact .refused nofun
    · rename_i taken
      exact .voltage notOff notGround rfl (driven (not_not.mp taken))

/-- A pin is switched off exactly when nobody else drives it. -/
theorem setProgrammingVoltage_off_iff (off : req.millivolts = pinOff) :
    (setProgrammingVoltage hwLsObd9 core around req).2 = .ok ↔
      req.device = core.device ∧ req.connector = 1 ∧ req.pin.toNat ∈ voltagePins ∧
      ¬ (core.pins.hsPin = some req.pin.toNat ∧ core.pins.hsOwner ≠ .link) ∧
      ¬ (core.pins.lsPin = some req.pin.toNat ∧ core.pins.lsOwner ≠ .link) := by
  unfold setProgrammingVoltage
  dsimp only
  split
  · rename_i other
    exact ⟨nofun, fun fits => absurd fits.1 other⟩
  split
  · rename_i other
    exact ⟨nofun, fun fits => absurd fits.2.1 other⟩
  split
  · rename_i other
    exact ⟨nofun, fun fits => absurd fits.2.2.1 other⟩
  · rename_i device connector known
    have accepted := (@set_off hwLsObd9 around.lLineReserved core.pins _ (not_not.mp known)).1
    have proper := And.intro (not_not.mp device) (And.intro (not_not.mp connector)
      (not_not.mp known))
    split
    · rename_i fails
      exact ⟨nofun, fun fits => absurd (accepted.mpr fits.2.2.2) fails⟩
    · rename_i taken
      exact ⟨fun _ => ⟨proper.1, proper.2.1, proper.2.2, accepted.mp (not_not.mp taken)⟩,
        fun _ => rfl⟩

end Request

/-! ## The session -/

section Calls

variable {hwLsObd9 : Bool} {s : Session} {call : VoltageCall}

/-- The request that the driver makes of a call. -/
def Session.request (s : Session) (call : VoltageCall) (pin : UInt32) : VoltageRequest :=
  { device := s.remote, connector := call.connector, pin, millivolts := call.voltage }

/-- The check passes and changes nothing, or it fails and touches neither the core nor the flag. -/
theorem checkDevice_cases (s : Session) (alive : Bool) (id : UInt32) :
    (s.checkDevice alive id = (s, .ok) ∧ s.disconnected = false ∧ alive = true ∧ id = s.id) ∨
    ∃ after status, s.checkDevice alive id = (after, status) ∧ status ≠ .ok ∧
      after.core = s.core ∧ after.programmingVoltage = s.programmingVoltage := by
  unfold Session.checkDevice
  split
  · exact .inr ⟨_, _, rfl, nofun, rfl, rfl⟩
  split
  · exact .inr ⟨_, _, rfl, nofun, rfl, rfl⟩
  split
  · exact .inr ⟨_, _, rfl, nofun, rfl, rfl⟩
  · rename_i connected alive id
    exact .inl ⟨rfl, Bool.eq_false_iff.mpr connected, not_not.mp alive, not_not.mp id⟩

/-- An answer changes neither the core nor the flag, and is the status unless the device is lost. -/
theorem answered_cases (s : Session) (status : VoltageStatus) :
    (s.answered status).1.core = s.core ∧
      (s.answered status).1.programmingVoltage = s.programmingVoltage ∧
      ((s.answered status).2 = .ok ↔ status = .ok) := by
  unfold Session.answered
  split
  · rename_i lost
    exact ⟨rfl, rfl, nofun, fun taken => nomatch lost.symm.trans taken⟩
  · exact ⟨rfl, rfl, Iff.rfl⟩

/-- A call leaves the core and the flag alone, or the core has taken its request. -/
theorem call_cases (hwLsObd9 : Bool) (s : Session) (call : VoltageCall) :
    let after := s.call hwLsObd9 call
    (after.core = s.core ∧ after.programmingVoltage = s.programmingVoltage) ∨
    ∃ pin, (s.disconnected = false ∧ call.alive = true ∧ call.id = s.id ∧
        call.resource = some pin ∧ call.numOfResources = 1) ∧
      setProgrammingVoltage hwLsObd9 s.core call.around (s.request call pin) = (after.core, .ok) ∧
      after.programmingVoltage =
        if call.voltage ≠ shortToGround then decide (call.voltage ≠ pinOff)
        else s.programmingVoltage := by
  unfold Session.call passThruSetProgrammingVoltage
  rcases checkDevice_cases s call.alive call.id with
    ⟨checked, connected, alive, id⟩ | ⟨lost, status, checked, fails, core, flag⟩
  case inr =>
    rw [checked]
    dsimp only
    rw [if_pos fails]
    exact .inl ⟨core, flag⟩
  rw [checked]
  dsimp only
  rw [if_neg (not_not.mpr rfl)]
  cases resource : call.resource with
  | none => exact .inl ⟨rfl, rfl⟩
  | some pin =>
      dsimp only
      split
      · exact .inl ⟨rfl, rfl⟩
      rename_i single
      have outcome := @served hwLsObd9 s.core call.around (s.request call pin)
      unfold Session.request at outcome ⊢
      generalize given : setProgrammingVoltage hwLsObd9 s.core call.around _ = answer at outcome ⊢
      obtain ⟨core, flag, taken⟩ := answered_cases { s with core := answer.1 } answer.2
      split
      · rename_i both
        have taken := taken.mp both.1
        refine .inr ⟨pin, ⟨connected, alive, id, rfl, not_not.mp single⟩, ?_, ?_⟩
        · rw [given]
          exact Prod.ext core.symm taken
        · rw [if_pos both.2]
      · rename_i neither
        by_cases accepted : answer.2 = .ok
        · have grounded : ¬ call.voltage ≠ shortToGround :=
            fun other => neither ⟨taken.mpr accepted, other⟩
          refine .inr ⟨pin, ⟨connected, alive, id, rfl, not_not.mp single⟩, ?_, ?_⟩
          · rw [given]
            exact Prod.ext core.symm accepted
          · rw [if_neg grounded]
            exact flag
        · cases outcome with
          | refused fails => exact .inl ⟨core, flag⟩
          | off | ground | voltage => exact absurd rfl accepted

/-- A pin that nobody else drives is switched off. -/
theorem call_of_releases {pin : UInt32} (releases : Releases s call pin) :
    (s.call hwLsObd9 call).programmingVoltage = false ∧
      (s.call hwLsObd9 call).core.voltagePin =
        if s.core.voltagePin = some pin.toNat then none else s.core.voltagePin := by
  have accepted := (@setProgrammingVoltage_off_iff hwLsObd9 s.core call.around
    (s.request call pin) releases.off).mpr ⟨releases.remote, releases.connector, releases.known,
      releases.high, releases.low⟩
  have outcome := @served hwLsObd9 s.core call.around (s.request call pin)
  have checked : s.checkDevice call.alive call.id = (s, .ok) := by
    unfold Session.checkDevice
    rw [releases.connected, releases.alive, releases.id]
    simp
  have named : call.voltage ≠ shortToGround := by
    rw [releases.off]
    decide
  unfold Session.call passThruSetProgrammingVoltage
  rw [checked, releases.resource]
  dsimp only
  rw [if_neg (not_not.mpr rfl), if_neg (not_not.mpr releases.single)]
  unfold Session.request at accepted outcome
  generalize setProgrammingVoltage hwLsObd9 s.core call.around _ = answer at accepted outcome ⊢
  obtain ⟨core, _, taken⟩ := answered_cases { s with core := answer.1 } answer.2
  rw [if_pos ⟨taken.mpr accepted, named⟩]
  refine ⟨decide_eq_false (not_not.mpr releases.off), ?_⟩
  rw [core]
  cases outcome with
  | refused fails => exact absurd accepted fails
  | off asked kept driven => exact kept
  | ground asked => exact absurd asked named
  | voltage notOff => exact absurd releases.off notOff

/-- A call that names the driven pin keeps the layers in agreement. -/
theorem Session.Agree.kept (agree : s.Agree) (names : NamesDriven s call) :
    (s.call hwLsObd9 call).Agree := by
  rcases call_cases hwLsObd9 s call with ⟨same, flag⟩ | ⟨pin, proper, given, flag⟩
  · refine ⟨?_, ?_⟩
    · rw [flag, same]
      exact agree.flag
    · rw [same]
      exact agree.pin
  · have outcome := @served hwLsObd9 s.core call.around (s.request call pin)
    rw [given] at outcome
    generalize taken : ((s.call hwLsObd9 call).core, VoltageStatus.ok) = answer at outcome
    cases outcome with
    | refused fails => exact absurd (congrArg Prod.snd taken).symm fails
    | off asked kept driven =>
        obtain rfl := congrArg Prod.fst taken
        have accepted := (setProgrammingVoltage_off_iff asked).mp (congrArg Prod.snd given)
        obtain ⟨remote, connector, known, high, low⟩ := accepted
        obtain ⟨connected, alive, id, resource, single⟩ := proper
        have named := names pin ⟨connected, alive, id, remote, resource, single, connector, known,
          asked, high, low⟩
        have off : call.voltage = pinOff := asked
        have unset : (s.call hwLsObd9 call).core.voltagePin = none := by
          rw [kept]
          rcases named with none | same
          · rw [none]
            exact ite_self _
          · exact if_pos same
        refine ⟨?_, ?_⟩
        · rw [flag, unset, off, if_pos (by decide)]
          decide
        · rw [kept, driven, agree.pin]
    | ground asked kept driven =>
        obtain rfl := congrArg Prod.fst taken
        have grounded : ¬ call.voltage ≠ shortToGround := not_not.mpr asked
        rw [if_neg grounded] at flag
        refine ⟨?_, ?_⟩
        · rw [flag, kept]
          exact agree.flag
        · rw [kept, driven]
          exact agree.pin
    | voltage notOff notGround kept driven =>
        obtain rfl := congrArg Prod.fst taken
        have asked : call.voltage ≠ shortToGround := notGround
        rw [if_pos asked] at flag
        refine ⟨?_, ?_⟩
        · rw [flag, kept]
          exact ⟨fun _ => nofun, fun _ => decide_eq_true notOff⟩
        · rw [kept, driven]

/-- What the driver reads of the programming voltage is zero only when the link drives no pin. -/
def ReadsTruly (s : Session) : Prop :=
  ∀ id alive input output vsense, 0 < vsense →
    readProgVoltage s id alive input output vsense = .ok 0 → drivenByLink s.core.pins = none

theorem Session.Agree.reads (agree : s.Agree) : ReadsTruly s := by
  intro id alive input output vsense measured read
  have unset : s.programmingVoltage = false := by
    unfold readProgVoltage at read
    rcases checkDevice_cases s alive id with ⟨checked, _⟩ | ⟨lost, status, checked, fails, _⟩
    · rw [checked] at read
      dsimp only at read
      iterate 4
        split at read
        · exact nomatch read
      rcases Bool.eq_false_or_eq_true s.programmingVoltage with set | unset
      · rw [if_pos set] at read
        have zero : vsense.toNat = 0 := Except.ok.inj read
        omega
      · exact unset
    · rw [checked] at read
      split at read
      · rename_i same
        cases same
        exact absurd rfl fails
      · exact nomatch read
  rw [← agree.pin]
  by_contra driven
  rw [agree.flag.mpr driven] at unset
  exact nomatch unset

end Calls

/-- From any session whose layers agree: they agree after every call, and a programming voltage that
is read as zero is one that the link does not drive, exactly when no call switches off, while a pin
is driven, a pin that is not it. -/
theorem voltage_layers_agree_iff (hwLsObd9 : Bool) (start : Session) (agree : start.Agree)
    (calls : List VoltageCall) :
    (∀ first, first <+: calls →
      (run (Session.call hwLsObd9) start first).Agree ∧
        ReadsTruly (run (Session.call hwLsObd9) start first)) ↔
    Admissible NamesDriven (Session.call hwLsObd9) start calls := by
  refine @forall_good_iff_admissible _ _ (Session.call hwLsObd9) start NamesDriven Session.Agree
    (fun s => s.Agree ∧ ReadsTruly s) ?_ ?_ ?_ agree calls
  · exact fun s call agree names => agree.kept names
  · exact fun s agree => ⟨agree, agree.reads⟩
  intro s call agree good pin releases
  obtain ⟨flag, kept⟩ := @call_of_releases hwLsObd9 s call pin releases
  by_cases named : s.core.voltagePin = some pin.toNat
  · exact .inr named
  · rw [if_neg named] at kept
    left
    by_contra driven
    rw [← kept] at driven
    have set := good.1.flag.mpr driven
    rw [flag] at set
    exact nomatch set

/-- A session that has just been opened. -/
def opened : Session := { id := 1, remote := 2, core := { device := 2 } }

/-- A pin is driven, and switched off. -/
theorem voltage_layers_agree_in_turn :
    let calls : List VoltageCall :=
      [{ id := 1, resource := some 9, voltage := 18000 },
        { id := 1, resource := some 9, voltage := pinOff }]
    ∀ first, first <+: calls → (run (Session.call false) opened first).Agree ∧
      ReadsTruly (run (Session.call false) opened first) := by
  intro calls
  refine (voltage_layers_agree_iff false opened ⟨by decide, rfl⟩ calls).mpr ⟨?_, ?_, True.intro⟩
  · intro pin releases
    exact absurd releases.off (by decide)
  · intro pin releases
    obtain rfl : 9 = pin := Option.some.inj releases.resource
    exact .inr (by decide)

/-- Another pin is switched off while one is driven at 18 V: the driver reads no voltage, the core
and the pins still have it. -/
theorem voltage_hidden_by_other_pin :
    let after := run (Session.call false) opened
      [{ id := 1, resource := some 9, voltage := 18000 },
        { id := 1, resource := some 11, voltage := pinOff }]
    ¬ after.Agree ∧ readProgVoltage after 1 true false true 18000 = .ok 0 ∧
      drivenByLink after.core.pins = some 9 := by
  refine ⟨fun agree => ?_, by decide, by decide⟩
  exact absurd (agree.flag.mpr (by decide)) (by decide)

end OpenDiag.J2534
