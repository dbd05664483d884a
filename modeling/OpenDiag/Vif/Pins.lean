import Mathlib.Data.List.Basic
import Mathlib.Logic.Function.Basic

/-!
# The connector pins

The pin half of `vif.c` and the board functions under it: `vif_pin_set`, `vif_pin_release_all`, the
claim a calibration takes and drops, and `board_hs_ls_reset_state`. Each is one critical section or
one call of the board, so each is one function here. What is done to the drivers is reported as
events, which name the owner on whose behalf it is done.
-/

namespace OpenDiag.Vif

/-- `vif_owner_t`. -/
inductive Owner where
  | link
  | shell
  deriving DecidableEq, Repr

/-- What the calls of `vif.h` return, as far as they make a difference; `failed` stands for what a
driver or a worker reports. -/
inductive Err where
  | ok
  | invalidArg
  | invalidState
  | noClaim
  | busBusy
  | failed
  deriving DecidableEq, Repr

/-- `vif_pin_mode_t`. -/
inductive PinMode where
  | off
  | voltage
  | ground
  deriving DecidableEq, Repr

inductive Side where
  | high
  | low
  deriving DecidableEq, Repr

/-- What is done to the drivers. -/
inductive PinEvent where
  | on (owner : Owner) (side : Side) (pin : Nat)
  | off (owner : Owner) (side : Side) (pin : Nat)
  /-- The rail that feeds the high side is switched or set. -/
  | rail (owner : Owner)
  deriving DecidableEq, Repr

/-! ## The board -/

/-- `enum hs_pin`. -/
def highPins : List Nat := [6, 9, 11, 12, 13, 14]

/-- `enum ls_pin`; pin 9 is there when the board is built with `OPENDIAG_HW_LS_OBD_9`. -/
def lowPins (hwLsObd9 : Bool) : List Nat :=
  if hwLsObd9 then [9, 15] else [15]

/-- What the boost rail was last set to. -/
inductive Rail where
  | voltage (mv : Nat)
  | duty (duty : Nat)
  deriving DecidableEq, Repr

/-- The drivers that are switched on, by the connector pin they drive. -/
structure Board where
  hs : Nat → Bool := fun _ => false
  ls : Nat → Bool := fun _ => false
  boost : Bool := false
  rail : Rail := .duty 0

/-- `board_set_hs_state`. -/
def Board.setHsState (b : Board) (pin : Nat) (state : Bool) : Board :=
  { b with hs := Function.update b.hs pin state }

/-- `board_set_ls_state`. -/
def Board.setLsState (b : Board) (pin : Nat) (state : Bool) : Board :=
  { b with ls := Function.update b.ls pin state }

/-- `board_set_hs_boost_en` behind or before a setting of the rail. -/
def Board.setRail (b : Board) (boost : Bool) (rail : Rail) : Board :=
  { b with boost, rail }

/-- `board_hs_ls_reset_state`. -/
def Board.resetState (hwLsObd9 : Bool) (b : Board) : Board :=
  { hs := fun pin => b.hs pin && pin ∉ highPins
    ls := fun pin => b.ls pin && pin ∉ lowPins hwLsObd9
    boost := false
    rail := .duty 0 }

/-- What `board_hs_ls_reset_state` does to the drivers. -/
def resetEvents (hwLsObd9 : Bool) (owner : Owner) : List PinEvent :=
  .rail owner :: (highPins.map (.off owner .high) ++ (lowPins hwLsObd9).map (.off owner .low))

/-! ## The bookkeeping -/

/-- The pin fields of the `vif.c` state, and the board. A pin field that is -1 is `none`. -/
structure Pins where
  hsPin : Option Nat := none
  lsPin : Option Nat := none
  hsOwner : Owner := .link
  lsOwner : Owner := .link
  pinsCalibrating : Bool := false
  board : Board := {}

/-- `hs_release_locked`, on behalf of `owner`. -/
def Pins.hsRelease (p : Pins) (owner : Owner) : Pins × List PinEvent :=
  match p.hsPin with
  | none => (p, [])
  | some pin =>
    ({ p with
      hsPin := none
      board := (p.board.setHsState pin false).setRail false (.voltage 0) },
      [.off owner .high pin, .rail owner])

/-- `ls_release_locked`, on behalf of `owner`. -/
def Pins.lsRelease (p : Pins) (owner : Owner) : Pins × List PinEvent :=
  match p.lsPin with
  | none => (p, [])
  | some pin =>
    ({ p with lsPin := none, board := p.board.setLsState pin false }, [.off owner .low pin])

/-- `vif_pin_set`; `lLineReserved` is the flag of the K-Line claim. -/
def Pins.set (hwLsObd9 lLineReserved : Bool) (p : Pins) (owner : Owner) (obdPin : Nat)
    (m : PinMode) (mv : Nat) : Pins × List PinEvent × Err :=
  let highSide := obdPin ∈ highPins
  let lowSide := obdPin ∈ lowPins hwLsObd9
  if ¬ highSide ∧ ¬ lowSide then (p, [], .invalidArg)
  else if (m = .voltage ∧ ¬ highSide) ∨ (m = .ground ∧ ¬ lowSide) then (p, [], .invalidArg)
  else
    match m with
    | .off =>
      if (p.hsPin = some obdPin ∧ p.hsOwner ≠ owner) ∨
          (p.lsPin = some obdPin ∧ p.lsOwner ≠ owner) then
        (p, [], .invalidState)
      else
        let (p, first) := if p.hsPin = some obdPin then p.hsRelease owner else (p, [])
        let (p, second) := if p.lsPin = some obdPin then p.lsRelease owner else (p, [])
        (p, first ++ second, .ok)
    | .voltage =>
      if p.lsPin = some obdPin then (p, [], .invalidState)
      else if p.hsPin ≠ none ∧ (p.hsPin ≠ some obdPin ∨ p.hsOwner ≠ owner) then
        (p, [], .invalidState)
      else
        ({ p with
          hsPin := some obdPin
          hsOwner := owner
          board := (p.board.setRail true (.voltage mv)).setHsState obdPin true },
          [.rail owner, .on owner .high obdPin], .ok)
    | .ground =>
      if obdPin = 15 ∧ lLineReserved then (p, [], .invalidState)
      else if p.hsPin = some obdPin then (p, [], .invalidState)
      else if p.lsPin ≠ none ∧ (p.lsPin ≠ some obdPin ∨ p.lsOwner ≠ owner) then
        (p, [], .invalidState)
      else
        ({ p with
          lsPin := some obdPin
          lsOwner := owner
          board := p.board.setLsState obdPin true },
          [.on owner .low obdPin], .ok)

/-- `vif_pin_release_all`. -/
def Pins.releaseAll (p : Pins) (owner : Owner) : Pins × List PinEvent :=
  let (p, first) := if p.hsPin ≠ none ∧ p.hsOwner = owner then p.hsRelease owner else (p, [])
  let (p, second) := if p.lsPin ≠ none ∧ p.lsOwner = owner then p.lsRelease owner else (p, [])
  (p, first ++ second)

/-! ## Calibration -/

/-- `VIF_CAL_HS_PIN`, which `board_calibrate_hs` drives. -/
def calHsPin : Nat := 12

def hsCalLowDuty : Nat := 400

def hsCalHighDuty : Nat := 3800

/-- `pins_claim_for_calibration`. -/
def Pins.claimForCalibration (lLineReserved : Bool) (p : Pins) (owner : Owner) :
    Pins × List PinEvent × Err :=
  if lLineReserved ∨ p.pinsCalibrating then (p, [], .invalidState)
  else if (p.hsPin ≠ none ∧ p.hsOwner ≠ owner) ∨ (p.lsPin ≠ none ∧ p.lsOwner ≠ owner) then
    (p, [], .invalidState)
  else
    let (p, first) := p.hsRelease owner
    let (p, second) := p.lsRelease owner
    ({ p with hsOwner := owner, hsPin := some calHsPin, pinsCalibrating := true },
      first ++ second, .ok)

/-- `pins_drop_after_calibration`. -/
def Pins.dropAfterCalibration (p : Pins) (owner : Owner) : Pins :=
  if p.hsPin ≠ none ∧ p.hsOwner = owner then { p with pinsCalibrating := false, hsPin := none }
  else { p with pinsCalibrating := false }

/-- Where `vif_calibrate_hs` is: each constructor names what the board procedure does next. -/
inductive Stage where
  /-- The first `board_hs_ls_reset_state`. -/
  | reset
  | driveLow
  /-- Waiting for the first reading, then the higher duty. -/
  | driveHigh
  /-- Waiting for the second reading, then the last `board_hs_ls_reset_state`. -/
  | restore
  /-- Asking whether to keep the result, then `pins_drop_after_calibration`. -/
  | drop
  deriving DecidableEq, Repr

/-- The procedure waits for a line from the console, whose idle poll serves the shell's requests. -/
def Stage.prompts : Stage → Bool
  | .reset | .driveLow => false
  | .driveHigh | .restore | .drop => true

/-- One step of `board_calibrate_hs`, or the end of `vif_calibrate_hs`. -/
def Pins.calibrateStep (hwLsObd9 : Bool) (p : Pins) (owner : Owner) :
    Stage → Pins × List PinEvent
  | .reset =>
    ({ p with board := p.board.resetState hwLsObd9 }, resetEvents hwLsObd9 owner)
  | .driveLow =>
    ({ p with board := (p.board.setRail true (.duty hsCalLowDuty)).setHsState calHsPin true },
      [.rail owner, .on owner .high calHsPin])
  | .driveHigh =>
    ({ p with board := p.board.setRail p.board.boost (.duty hsCalHighDuty) }, [.rail owner])
  | .restore =>
    ({ p with board := p.board.resetState hwLsObd9 }, resetEvents hwLsObd9 owner)
  | .drop => (p.dropAfterCalibration owner, [])

/-- The stage after this one; none after the last. -/
def Stage.next : Stage → Option Stage
  | .reset => some .driveLow
  | .driveLow => some .driveHigh
  | .driveHigh => some .restore
  | .restore => some .drop
  | .drop => none

end OpenDiag.Vif
