import OpenDiag.Lib.Monitor
import OpenDiag.Vif.Pins

/-!
# The pin bookkeeping and the drivers

What is switched on is seen from the events alone: who switched a driver on, until it is switched
off. The bookkeeping says the same, with two exceptions while a calibration runs: it claims its pin
before it drives it and after it has switched it off. Every pin call keeps that, and touches only
what its owner switched on; a step of the calibration does where nobody else holds a pin.
-/

namespace OpenDiag.Vif

/-! ## Who switched a driver on -/

/-- The owner that switched a driver on, where it is on. -/
abbrev Switches := Side → Nat → Option Owner

def Switches.put (w : Switches) (side : Side) (pin : Nat) (by_ : Option Owner) : Switches :=
  fun side' pin' => if side' = side ∧ pin' = pin then by_ else w side' pin'

def Switches.see (w : Switches) : PinEvent → Switches
  | .on owner side pin => w.put side pin (some owner)
  | .off _ side pin => w.put side pin none
  | .rail _ => w

/-- A driver that is on, and the rail of a high side driver that is on, belong to the owner that
switched it on. -/
def Switches.Allows (w : Switches) : PinEvent → Prop
  | .on owner side pin | .off owner side pin => w side pin = none ∨ w side pin = some owner
  | .rail owner => ∀ pin, w .high pin = none ∨ w .high pin = some owner

/-- The pin events are such as their owners may cause. -/
abbrev Switches.Legal (w : Switches) (events : List PinEvent) : Prop :=
  Obedient Switches.see Switches.Allows w events

theorem Switches.legal_nil (w : Switches) : w.Legal [] := Obedient.nil

section Offs

variable {w : Switches} {owner : Owner} {side : Side} {pins : List Nat}

theorem Switches.foldl_off :
    (pins.map (PinEvent.off owner side)).foldl Switches.see w =
      fun side' pin => if side' = side ∧ pin ∈ pins then none else w side' pin := by
  induction pins generalizing w with
  | nil => simp
  | cons pin pins ih =>
      simp only [List.map_cons, List.foldl_cons, ih]
      funext side' pin'
      simp only [Switches.see, Switches.put, List.mem_cons]
      grind

theorem Switches.legal_off (own : ∀ pin, w side pin = none ∨ w side pin = some owner) :
    w.Legal (pins.map (PinEvent.off owner side)) := by
  induction pins generalizing w with
  | nil => exact w.legal_nil
  | cons pin pins ih =>
      refine obedient_cons.2 ⟨own pin, ih fun pin' => ?_⟩
      simp only [Switches.see, Switches.put]
      split
      · exact .inl rfl
      · exact own pin'

/-- A reset of every driver is legal where all that is on is the owner's. -/
theorem Switches.legal_reset {hwLsObd9 : Bool}
    (own : ∀ side pin, w side pin = none ∨ w side pin = some owner) :
    w.Legal (resetEvents hwLsObd9 owner) := by
  refine obedient_cons.2 ⟨own .high, (Switches.legal_off (own .high)).append ?_⟩
  refine Switches.legal_off fun pin => ?_
  simp only [Switches.foldl_off, reduceCtorEq, false_and, if_false]
  exact own .low pin

theorem Switches.foldl_reset {hwLsObd9 : Bool} :
    (resetEvents hwLsObd9 owner).foldl Switches.see w = fun side pin =>
      match side with
      | .high => if pin ∈ highPins then none else w .high pin
      | .low => if pin ∈ lowPins hwLsObd9 then none else w .low pin := by
  funext side pin
  simp only [resetEvents, List.foldl_cons, List.foldl_append, Switches.foldl_off, Switches.see]
  cases side <;> simp

end Offs

/-! ## What the bookkeeping says -/

/-- The calibration that is under way. -/
abbrev Calibration := Option (Owner × Stage)

/-- Who drives which pin, by the bookkeeping. -/
def Pins.driven (p : Pins) (cal : Calibration) : Switches
  | .low, pin => if p.lsPin = some pin then some p.lsOwner else none
  | .high, pin =>
    match cal with
    | some (_, .reset) | some (_, .driveLow) => none
    | some (owner, .drop) =>
      if p.hsPin = some pin ∧ p.hsOwner ≠ owner then some p.hsOwner else none
    | none | some (_, .driveHigh) | some (_, .restore) =>
      if p.hsPin = some pin then some p.hsOwner else none

/-- The bookkeeping, the drivers and those who switched them on agree. -/
structure Pins.Agree (hwLsObd9 : Bool) (p : Pins) (cal : Calibration) (w : Switches) : Prop where
  driven : ∀ side pin, w side pin = p.driven cal side pin
  hs : ∀ pin, p.board.hs pin = (w .high pin).isSome
  ls : ∀ pin, p.board.ls pin = (w .low pin).isSome
  calibrating : p.pinsCalibrating = cal.isSome
  early : ∀ owner stage, cal = some (owner, stage) → stage.prompts = false →
    p.hsPin = some calHsPin ∧ p.hsOwner = owner
  highValid : ∀ pin, p.hsPin = some pin → pin ∈ highPins
  lowValid : ∀ pin, p.lsPin = some pin → pin ∈ lowPins hwLsObd9
  apart : ∀ pin, p.hsPin = some pin → p.lsPin ≠ some pin

/-- An operation is legal and keeps the agreement. -/
def Pins.Keeps (hwLsObd9 : Bool) (w : Switches) (p' : Pins) (cal' : Calibration)
    (events : List PinEvent) : Prop :=
  w.Legal events ∧ p'.Agree hwLsObd9 cal' (events.foldl Switches.see w)

section Agreement

variable {hwLsObd9 : Bool} {p : Pins} {cal : Calibration} {w : Switches}

theorem Pins.Agree.keeps (agree : p.Agree hwLsObd9 cal w) : Pins.Keeps hwLsObd9 w p cal [] :=
  ⟨w.legal_nil, agree⟩

/-- One operation after another. -/
theorem Pins.Keeps.append {p' : Pins} {cal' : Calibration} {first second : List PinEvent}
    {p'' : Pins} {cal'' : Calibration} (one : Pins.Keeps hwLsObd9 w p' cal' first)
    (two : p'.Agree hwLsObd9 cal' (first.foldl Switches.see w) →
      Pins.Keeps hwLsObd9 (first.foldl Switches.see w) p'' cal'' second) :
    Pins.Keeps hwLsObd9 w p'' cal'' (first ++ second) := by
  obtain ⟨legal, agree⟩ := two one.2
  refine ⟨one.1.append legal, ?_⟩
  rw [List.foldl_append]
  exact agree

/-- The calibration has claimed its pin and not driven it yet. -/
def Calibration.early : Calibration → Bool
  | none => false
  | some (_, stage) => !stage.prompts

theorem Pins.Agree.hsRelease (agree : p.Agree hwLsObd9 cal w) {owner : Owner}
    (own : p.hsPin ≠ none → p.hsOwner = owner) (late : cal.early = false) :
    Pins.Keeps hwLsObd9 w (p.hsRelease owner).1 cal (p.hsRelease owner).2 := by
  obtain ⟨driven, hs, ls, calibrating, early, highValid, lowValid, apart⟩ := agree
  unfold Pins.hsRelease
  cases claimed : p.hsPin with
  | none => exact ⟨w.legal_nil, driven, hs, ls, calibrating, early, highValid, lowValid, apart⟩
  | some pin =>
      have mine := own (by simp [claimed])
      have high : ∀ pin', w .high pin' = none ∨ (pin' = pin ∧ w .high pin' = some owner) := by
        intro pin'
        rw [driven]
        unfold Pins.driven
        grind
      refine ⟨?_, ?_⟩
      · refine obedient_cons.2 ⟨?_, obedient_cons.2 ⟨?_, Obedient.nil⟩⟩
        · exact (high pin).imp_right And.right
        · intro pin'
          simp only [Switches.see, Switches.put]
          grind
      · refine ⟨?_, ?_, ?_, calibrating, ?_, ?_, lowValid, ?_⟩
        · intro side pin'
          simp only [List.foldl_cons, List.foldl_nil, Switches.see, Switches.put]
          cases side <;> unfold Pins.driven <;> grind [Pins.driven]
        · intro pin'
          simp only [List.foldl_cons, List.foldl_nil, Switches.see, Switches.put, Board.setRail,
            Board.setHsState, Function.update_apply]
          grind
        · intro pin'
          simpa [Switches.see, Switches.put, Board.setRail, Board.setHsState] using ls pin'
        · intro o stage here prompts
          simp [here, Calibration.early, prompts] at late
        · simp
        · simp

theorem Pins.Agree.lsRelease (agree : p.Agree hwLsObd9 cal w) {owner : Owner}
    (own : p.lsPin ≠ none → p.lsOwner = owner) :
    Pins.Keeps hwLsObd9 w (p.lsRelease owner).1 cal (p.lsRelease owner).2 := by
  obtain ⟨driven, hs, ls, calibrating, early, highValid, lowValid, apart⟩ := agree
  unfold Pins.lsRelease
  cases claimed : p.lsPin with
  | none => exact ⟨w.legal_nil, driven, hs, ls, calibrating, early, highValid, lowValid, apart⟩
  | some pin =>
      have mine := own (by simp [claimed])
      refine ⟨?_, ?_⟩
      · refine obedient_cons.2 ⟨?_, Obedient.nil⟩
        show w .low pin = none ∨ w .low pin = some owner
        rw [driven]
        simp [Pins.driven, claimed, mine]
      · refine ⟨?_, ?_, ?_, calibrating, early, highValid, ?_, ?_⟩
        · intro side pin'
          simp only [List.foldl_cons, List.foldl_nil, Switches.see, Switches.put]
          cases side
          · simpa [Pins.driven] using driven .high pin'
          · have := driven .low pin'
            simp only [Pins.driven, claimed] at this ⊢
            grind
        · intro pin'
          simpa [Switches.see, Switches.put, Board.setLsState] using hs pin'
        · intro pin'
          simp only [List.foldl_cons, List.foldl_nil, Switches.see, Switches.put,
            Board.setLsState, Function.update_apply]
          grind
        · simp
        · simp

/-- Another owner's claim on the calibration pin keeps a release away from it. -/
theorem Pins.Agree.late (agree : p.Agree hwLsObd9 cal w) {owner : Owner}
    (outside : ∀ stage, cal = some (owner, stage) → stage.prompts = true)
    (own : p.hsOwner = owner) : cal.early = false := by
  cases here : cal with
  | none => rfl
  | some running =>
      obtain ⟨o, stage⟩ := running
      cases prompts : stage.prompts with
      | true => simp [Calibration.early, prompts]
      | false =>
          obtain ⟨_, owns⟩ := agree.early o stage here prompts
          have same : o = owner := owns.symm.trans own
          subst same
          rw [outside stage here] at prompts
          cases prompts

theorem Pins.Agree.releaseHs (agree : p.Agree hwLsObd9 cal w) {owner : Owner}
    (outside : ∀ stage, cal = some (owner, stage) → stage.prompts = true)
    {release : Prop} [Decidable release] (own : release → p.hsOwner = owner) :
    Pins.Keeps hwLsObd9 w (if release then p.hsRelease owner else (p, [])).1 cal
      (if release then p.hsRelease owner else (p, [])).2 := by
  split
  · rename_i here
    exact agree.hsRelease (fun _ => own here) (agree.late outside (own here))
  · exact agree.keeps

theorem Pins.Agree.releaseLs (agree : p.Agree hwLsObd9 cal w) {owner : Owner}
    {release : Prop} [Decidable release] (own : release → p.lsOwner = owner) :
    Pins.Keeps hwLsObd9 w (if release then p.lsRelease owner else (p, [])).1 cal
      (if release then p.lsRelease owner else (p, [])).2 := by
  split
  · rename_i here
    exact agree.lsRelease fun _ => own here
  · exact agree.keeps

/-- A release of the high side leaves the low side fields alone. -/
theorem Pins.hsRelease_ls (owner : Owner) :
    (p.hsRelease owner).1.lsPin = p.lsPin ∧ (p.hsRelease owner).1.lsOwner = p.lsOwner := by
  unfold Pins.hsRelease
  split <;> exact ⟨rfl, rfl⟩

theorem Pins.Agree.releaseAll (agree : p.Agree hwLsObd9 cal w) {owner : Owner}
    (outside : ∀ stage, cal = some (owner, stage) → stage.prompts = true) :
    Pins.Keeps hwLsObd9 w (p.releaseAll owner).1 cal (p.releaseAll owner).2 := by
  unfold Pins.releaseAll
  refine (agree.releaseHs outside fun here => here.2).append fun next => ?_
  exact next.releaseLs fun here => here.2

/-- The high side bookkeeping where the calibration has its pin switched on or given back. -/
theorem Pins.driven_high (late : cal.early = false) (pin : Nat) :
    p.driven cal .high pin =
      if p.hsPin = some pin ∧ cal ≠ some (p.hsOwner, .drop) then some p.hsOwner else none := by
  rcases cal with _ | ⟨o, _ | _ | _ | _ | _⟩ <;>
    simp_all [Pins.driven, Calibration.early, Stage.prompts]
  grind

/-- The high side driver is switched on for an owner that may have it. -/
theorem Pins.Agree.energize (agree : p.Agree hwLsObd9 cal w) {owner : Owner} {obdPin mv : Nat}
    (outside : ∀ o stage, cal = some (o, stage) → o ≠ owner) (highSide : obdPin ∈ highPins)
    (ungrounded : p.lsPin ≠ some obdPin)
    (mine : p.hsPin = none ∨ p.hsPin = some obdPin ∧ p.hsOwner = owner) :
    Pins.Keeps hwLsObd9 w
      { p with
        hsPin := some obdPin
        hsOwner := owner
        board := (p.board.setRail true (.voltage mv)).setHsState obdPin true }
      cal [.rail owner, .on owner .high obdPin] := by
  have late : cal.early = false := by
    rcases mine with free | ⟨_, owns⟩
    · cases here : cal.early with
      | false => rfl
      | true =>
          rcases cal with _ | ⟨o, stage⟩
          · cases here
          · have claimed := (agree.early o stage rfl (by simpa [Calibration.early] using here)).1
            rw [free] at claimed
            cases claimed
    · exact agree.late (fun stage here => absurd rfl (outside owner stage here)) owns
  obtain ⟨driven, hs, ls, calibrating, early, highValid, lowValid, apart⟩ := agree
  have high : ∀ pin, w .high pin = none ∨ pin = obdPin ∧ w .high pin = some owner := by
    intro pin
    rw [driven, Pins.driven_high late]
    grind
  refine ⟨?_, ?_⟩
  · refine obedient_cons.2 ⟨fun pin => (high pin).imp_right And.right, obedient_cons.2 ⟨?_, .nil⟩⟩
    exact (high obdPin).imp_right And.right
  · refine ⟨?_, ?_, ?_, calibrating, ?_, ?_, lowValid, ?_⟩
    · intro side pin
      simp only [List.foldl_cons, List.foldl_nil, Switches.see, Switches.put]
      cases side
      · rw [Pins.driven_high late]
        have := high pin
        grind
      · simpa [Pins.driven] using driven .low pin
    · intro pin
      simp only [List.foldl_cons, List.foldl_nil, Switches.see, Switches.put, Board.setRail,
        Board.setHsState, Function.update_apply]
      grind
    · intro pin
      simpa [Switches.see, Switches.put, Board.setRail, Board.setHsState] using ls pin
    · intro o stage here prompts
      simp [here, Calibration.early, prompts] at late
    · grind
    · grind

/-- The low side driver is switched on for an owner that may have it. -/
theorem Pins.Agree.pullDown (agree : p.Agree hwLsObd9 cal w) {owner : Owner} {obdPin : Nat}
    (lowSide : obdPin ∈ lowPins hwLsObd9) (unfed : p.hsPin ≠ some obdPin)
    (mine : p.lsPin = none ∨ p.lsPin = some obdPin ∧ p.lsOwner = owner) :
    Pins.Keeps hwLsObd9 w
      { p with
        lsPin := some obdPin
        lsOwner := owner
        board := p.board.setLsState obdPin true }
      cal [.on owner .low obdPin] := by
  obtain ⟨driven, hs, ls, calibrating, early, highValid, lowValid, apart⟩ := agree
  have low : ∀ pin, w .low pin = none ∨ pin = obdPin ∧ w .low pin = some owner := by
    intro pin
    rw [driven]
    simp only [Pins.driven]
    grind
  refine ⟨obedient_cons.2 ⟨(low obdPin).imp_right And.right, .nil⟩, ?_⟩
  refine ⟨?_, ?_, ?_, calibrating, early, highValid, ?_, ?_⟩
  · intro side pin
    simp only [List.foldl_cons, List.foldl_nil, Switches.see, Switches.put]
    cases side
    · simpa [Pins.driven] using driven .high pin
    · have := low pin
      simp only [Pins.driven]
      grind
  · intro pin
    simpa [Switches.see, Switches.put, Board.setLsState] using hs pin
  · intro pin
    simp only [List.foldl_cons, List.foldl_nil, Switches.see, Switches.put, Board.setLsState,
      Function.update_apply]
    grind
  · grind
  · grind

/-- `vif_pin_set` of an owner whose task is not in the calibration. -/
theorem Pins.Agree.set (agree : p.Agree hwLsObd9 cal w) {owner : Owner} (reserved : Bool)
    (obdPin : Nat) (m : PinMode) (mv : Nat)
    (outside : ∀ o stage, cal = some (o, stage) → o ≠ owner) :
    Pins.Keeps hwLsObd9 w (p.set hwLsObd9 reserved owner obdPin m mv).1 cal
      (p.set hwLsObd9 reserved owner obdPin m mv).2.1 := by
  have none_ : Pins.Keeps hwLsObd9 w p cal [] := agree.keeps
  obtain ⟨driven, hs, ls, calibrating, early, highValid, lowValid, apart⟩ := agree
  unfold Pins.set
  simp only
  split
  · exact none_
  · rename_i known
    split
    · exact none_
    · rename_i fits
      cases m with
      | off =>
          simp only
          split
          · exact none_
          · rename_i own
            rw [not_or, not_and, not_and, not_not, not_not] at own
            refine (none_.2.releaseHs ?_ own.1).append fun next => ?_
            · exact fun stage here => absurd rfl (outside owner stage here)
            · refine next.releaseLs ?_
              intro here
              split at here
              · rw [(Pins.hsRelease_ls owner).1] at here
                rw [if_pos (by assumption), (Pins.hsRelease_ls owner).2]
                exact own.2 here
              · rw [if_neg (by assumption)]
                exact own.2 here
      | voltage =>
          simp only
          split
          · exact none_
          · rename_i ungrounded
            split
            · exact none_
            · rename_i mine
              exact none_.2.energize outside (by grind) ungrounded (by grind)
      | ground =>
          simp only
          split
          · exact none_
          · split
            · exact none_
            · rename_i unfed
              split
              · exact none_
              · rename_i mine
                exact none_.2.pullDown (by grind) unfed (by grind)

/-- A driver that is off, switched off once more. -/
theorem Pins.Agree.cut (agree : p.Agree hwLsObd9 cal w) {owner : Owner} {pin : Nat}
    (off : p.lsPin ≠ some pin) :
    Pins.Keeps hwLsObd9 w { p with board := p.board.setLsState pin false } cal
      [.off owner .low pin] := by
  obtain ⟨driven, hs, ls, calibrating, early, highValid, lowValid, apart⟩ := agree
  have low : w .low pin = none := by
    rw [driven]
    simp [Pins.driven, off]
  have same : w.put .low pin none = w := by
    funext side pin'
    simp only [Switches.put]
    grind
  refine ⟨obedient_cons.2 ⟨.inl low, .nil⟩, ?_⟩
  simp only [List.foldl_cons, List.foldl_nil, Switches.see, same]
  refine ⟨driven, hs, ?_, calibrating, early, highValid, lowValid, apart⟩
  intro pin'
  simp only [Board.setLsState, Function.update_apply]
  grind

/-! ### Calibration -/

theorem Pins.Agree.claimForCalibration (agree : p.Agree hwLsObd9 none w) {owner : Owner}
    {reserved : Bool} {p' : Pins} {events : List PinEvent}
    (claims : p.claimForCalibration reserved owner = (p', events, .ok)) :
    Pins.Keeps hwLsObd9 w p' (some (owner, .reset)) events := by
  unfold Pins.claimForCalibration at claims
  split at claims
  · cases claims
  · split at claims
    · cases claims
    · rename_i own
      simp only [Prod.mk.injEq, and_true] at claims
      obtain ⟨rfl, rfl⟩ := claims
      have ownHs : p.hsPin ≠ none → p.hsOwner = owner := by grind
      have ownLs : (p.hsRelease owner).1.lsPin ≠ none → (p.hsRelease owner).1.lsOwner = owner := by
        rw [(Pins.hsRelease_ls owner).1, (Pins.hsRelease_ls owner).2]
        grind
      obtain ⟨legal, free⟩ :=
        (agree.hsRelease ownHs rfl).append fun next => next.lsRelease ownLs
      have noHs : (p.hsRelease owner).1.hsPin = none := by
        unfold Pins.hsRelease
        split
        · assumption
        · rfl
      have noPins : ((p.hsRelease owner).1.lsRelease owner).1.hsPin = none ∧
          ((p.hsRelease owner).1.lsRelease owner).1.lsPin = none := by
        unfold Pins.lsRelease
        split
        · exact ⟨noHs, by assumption⟩
        · exact ⟨noHs, rfl⟩
      obtain ⟨driven, hs, ls, calibrating, early, highValid, lowValid, apart⟩ := free
      refine ⟨legal, ?_, hs, ls, rfl, ?_, ?_, lowValid, ?_⟩
      · intro side pin
        rw [driven]
        cases side <;> simp [Pins.driven, noPins]
      · rintro o stage ⟨⟩ _
        exact ⟨rfl, rfl⟩
      · rintro pin ⟨⟩
        decide
      · simp [noPins]

/-- Nobody else holds a driver that the stage touches. -/
def Stage.Alone (p : Pins) (owner : Owner) : Stage → Prop
  | .reset | .restore => p.lsPin = none ∧ (p.hsPin = none ∨ p.hsOwner = owner)
  | .driveHigh => p.hsPin = none ∨ p.hsOwner = owner
  | .driveLow | .drop => True

instance (p : Pins) (owner : Owner) (stage : Stage) : Decidable (stage.Alone p owner) := by
  cases stage <;> unfold Stage.Alone <;> infer_instance

/-- A reset where nobody else holds a driver leaves everything off. -/
theorem Pins.Agree.resetState (agree : p.Agree hwLsObd9 cal w) {owner : Owner}
    (noLow : p.lsPin = none) (own : ∀ pin, w .high pin = none ∨ w .high pin = some owner) :
    w.Legal (resetEvents hwLsObd9 owner) ∧
      (∀ side pin, (resetEvents hwLsObd9 owner).foldl Switches.see w side pin = none) ∧
      (∀ pin, (p.board.resetState hwLsObd9).hs pin = false) ∧
      (∀ pin, (p.board.resetState hwLsObd9).ls pin = false) := by
  obtain ⟨driven, hs, ls, calibrating, early, highValid, lowValid, apart⟩ := agree
  have low : ∀ pin, w .low pin = none := by
    intro pin
    simp [driven, Pins.driven, noLow]
  have high : ∀ pin, pin ∉ highPins → w .high pin = none := by
    intro pin unknown
    rw [driven]
    unfold Pins.driven
    grind
  refine ⟨?_, ?_, ?_, ?_⟩
  · refine Switches.legal_reset fun side pin => ?_
    cases side
    · exact own pin
    · exact .inl (low pin)
  · intro side pin
    rw [Switches.foldl_reset]
    cases side <;> grind
  · intro pin
    simp only [Board.resetState, hs]
    by_cases known : pin ∈ highPins
    · simp [known]
    · simp [high pin known]
  · intro pin
    simp [Board.resetState, ls, low]

/-- A step of the calibration where nobody else holds a driver that it touches. -/
theorem Pins.Agree.calibrateStep {owner : Owner} {stage : Stage}
    (agree : p.Agree hwLsObd9 (some (owner, stage)) w) (alone : stage.Alone p owner) :
    Pins.Keeps hwLsObd9 w (p.calibrateStep hwLsObd9 owner stage).1
      (stage.next.map (owner, ·)) (p.calibrateStep hwLsObd9 owner stage).2 := by
  cases stage with
  | reset =>
      obtain ⟨noLow, _⟩ := alone
      have off : ∀ pin, w .high pin = none := fun pin => agree.driven .high pin
      obtain ⟨legal, silent, hs, ls⟩ := agree.resetState noLow fun pin => .inl (off pin)
      obtain ⟨claimed, owns⟩ := agree.early owner .reset rfl rfl
      refine ⟨legal, ?_, ?_, ?_, agree.calibrating, ?_, agree.highValid, agree.lowValid,
        agree.apart⟩
      · intro side pin
        rw [Pins.calibrateStep, silent]
        cases side
        · rfl
        · simp [Pins.driven, noLow]
      · exact fun pin => by rw [Pins.calibrateStep, silent, hs]; rfl
      · exact fun pin => by rw [Pins.calibrateStep, silent, ls]; rfl
      · rintro o stage ⟨⟩ _
        exact ⟨claimed, owns⟩
  | driveLow =>
      have off : ∀ pin, w .high pin = none := fun pin => agree.driven .high pin
      obtain ⟨claimed, owns⟩ := agree.early owner .driveLow rfl rfl
      obtain ⟨driven, hs, ls, calibrating, early, highValid, lowValid, apart⟩ := agree
      refine ⟨?_, ?_, ?_, ?_, calibrating, ?_, highValid, lowValid, apart⟩
      · exact obedient_cons.2 ⟨fun pin => .inl (off pin), obedient_cons.2 ⟨.inl (off _), .nil⟩⟩
      · intro side pin
        simp only [Pins.calibrateStep, List.foldl_cons, List.foldl_nil, Switches.see, Switches.put]
        cases side
        · simp only [Stage.next, Option.map_some, Pins.driven, claimed, owns, off]
          grind
        · simpa [Pins.driven] using driven .low pin
      · intro pin
        simp only [Pins.calibrateStep, List.foldl_cons, List.foldl_nil, Switches.see, Switches.put,
          Board.setRail, Board.setHsState, Function.update_apply]
        grind
      · intro pin
        simpa [Pins.calibrateStep, Switches.see, Switches.put, Board.setRail, Board.setHsState]
          using ls pin
      · rintro o stage ⟨⟩ prompts
        cases prompts
  | driveHigh =>
      obtain ⟨driven, hs, ls, calibrating, early, highValid, lowValid, apart⟩ := agree
      refine ⟨obedient_cons.2 ⟨?_, .nil⟩, ?_, hs, ls, calibrating, ?_, highValid, lowValid, apart⟩
      · intro pin
        rw [driven]
        simp only [Pins.driven]
        simp only [Stage.Alone] at alone
        grind
      · intro side pin
        have := driven side pin
        cases side <;> exact this
      · rintro o stage ⟨⟩ prompts
        cases prompts
  | restore =>
      obtain ⟨noLow, own⟩ := alone
      have mine : ∀ pin, w .high pin = none ∨ w .high pin = some owner := by
        intro pin
        rw [agree.driven]
        simp only [Pins.driven]
        grind
      obtain ⟨legal, silent, hs, ls⟩ := agree.resetState noLow mine
      refine ⟨legal, ?_, ?_, ?_, agree.calibrating, ?_, agree.highValid, agree.lowValid,
        agree.apart⟩
      · intro side pin
        rw [Pins.calibrateStep, silent]
        cases side
        · simp only [Stage.next, Option.map_some, Pins.driven]
          grind
        · simp [Pins.driven, noLow]
      · exact fun pin => by rw [Pins.calibrateStep, silent, hs]; rfl
      · exact fun pin => by rw [Pins.calibrateStep, silent, ls]; rfl
      · rintro o stage ⟨⟩ prompts
        cases prompts
  | drop =>
      obtain ⟨driven, hs, ls, calibrating, early, highValid, lowValid, apart⟩ := agree
      simp only [Pins.calibrateStep, Pins.dropAfterCalibration]
      split
      · rename_i own
        refine ⟨.nil, ?_, hs, ls, rfl, ?_, ?_, lowValid, ?_⟩
        · intro side pin
          have := driven side pin
          cases side
          · simp only [Pins.driven, Stage.next, List.foldl_nil] at this ⊢
            grind
          · exact this
        · rintro o stage ⟨⟩
        · simp
        · simp
      · rename_i own
        refine ⟨.nil, ?_, hs, ls, rfl, ?_, highValid, lowValid, apart⟩
        · intro side pin
          have := driven side pin
          cases side
          · simp only [Pins.driven, Stage.next, List.foldl_nil, Option.map_none] at this ⊢
            grind
          · exact this
        · rintro o stage ⟨⟩

end Agreement

end OpenDiag.Vif
