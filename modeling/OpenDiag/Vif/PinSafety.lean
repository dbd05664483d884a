import OpenDiag.Vif.Claims
import OpenDiag.Vif.PinOps

/-!
# The pins over every run

The K-Line driver writes pin 15 low when it is closed and when its parameter changes. It does so
only while the L-line is reserved, for it takes the pin for its own only then; that rests on who
works on the K-Line claim, and in which order. With that, the bookkeeping agrees with the drivers
in every run whose calibrations and first K-Line closes find no other owner's pin in their way.
-/

namespace OpenDiag.Vif

/-! ## The K-Line claim and its driver -/

/-- The K-Line driver is down, by where its thread is. -/
def Pc.Between : Pc → Prop
  | .install bus _ | .up bus => bus = .kline
  | .clear r _ => r = .kline
  | _ => False

/-- What is known within a change of the parameter. -/
def ParamHolds (s : State) : Pc → Prop
  | .setOnly value wasReserved =>
    (s.kline.Loose → wasReserved = true) ∧
      (s.claim .kline).lLineReserved = (wasReserved || !value)
  | .keep value wasReserved ok =>
    (s.claim .kline).lLineReserved = (wasReserved || !value) ∧
      (ok = true → s.kline.kLineOnly = value) ∧
      (ok = false → s.kline.Loose → wasReserved = true)
  | _ => True

structure KlineInv (s : State) : Prop where
  sound : s.kline.Idle ∨ s.kline.configured = true
  free : (s.claim .kline).bus = none → s.kline.Idle
  between : ∀ t, (s.frame t).pc.Between → s.kline.Idle
  tied : (s.claim .kline).bus ≠ none → (∀ t, ¬ (s.frame t).pc.Between) → s.kline.Loose →
    (s.claim .kline).lLineReserved = true
  param : ∀ t, ParamHolds s (s.frame t).pc
  reserved : (s.claim .kline).lLineReserved = true → s.pins.lsPin ≠ some 15

/-- The K-Line is alone in its group. -/
theorem Bus.group_eq_kline {bus : Bus} : bus.group = .kline ↔ bus = .kline := by
  cases bus <;> simp [Bus.group]

/-- A thread that finds the K-Line driver down holds the group of the K-Line. -/
theorem Pc.Between.group {pc : Pc} (between : pc.Between) : pc.group = some .kline := by
  cases pc <;> simp_all [Pc.Between, Pc.group, Bus.group]

section Steps

variable {s s' : State} {w : Watch} {t : Thread}

/-- A thread of another group is within no change of the parameter. -/
theorem ParamHolds.elsewhere {pc : Pc} (other : pc.group ≠ some .kline) : ParamHolds s pc := by
  cases pc <;> simp_all [ParamHolds, Pc.group]

/-- A step of the only thread that works on the K-Line claim. -/
theorem KlineInv.next (alone : ∀ t', t' ≠ t → (s.frame t').pc.group ≠ some .kline)
    (others : ∀ t', t' ≠ t → s'.frame t' = s.frame t')
    (sound : s'.kline.Idle ∨ s'.kline.configured = true)
    (free : (s'.claim .kline).bus = none → s'.kline.Idle)
    (between : (s'.frame t).pc.Between → s'.kline.Idle)
    (tied : ¬ (s'.frame t).pc.Between → (s'.claim .kline).bus ≠ none → s'.kline.Loose →
      (s'.claim .kline).lLineReserved = true)
    (param : ParamHolds s' (s'.frame t).pc)
    (reserved : (s'.claim .kline).lLineReserved = true → s'.pins.lsPin ≠ some 15) :
    KlineInv s' where
  sound := sound
  free := free
  between t' here := by
    by_cases same : t' = t
    · subst same
      exact between here
    · rw [others t' same] at here
      exact absurd here.group (alone t' same)
  tied held apart := tied (apart t) held
  param t' := by
    by_cases same : t' = t
    · subst same
      exact param
    · rw [others t' same]
      exact .elsewhere (alone t' same)
  reserved := reserved

/-- A step that leaves the K-Line driver and what its claim says of pin 15. -/
theorem KlineInv.keep (inv : KlineInv s) (kline : s'.kline = s.kline)
    (bus : (s'.claim .kline).bus = (s.claim .kline).bus)
    (lLine : (s'.claim .kline).lLineReserved = (s.claim .kline).lLineReserved)
    (lsPin : s'.pins.lsPin = some 15 →
      s.pins.lsPin = some 15 ∨ (s.claim .kline).lLineReserved = false)
    (others : ∀ t', t' ≠ t → s'.frame t' = s.frame t')
    (before : ¬ (s.frame t).pc.Between) (after : ¬ (s'.frame t).pc.Between)
    (param : ParamHolds s' (s'.frame t).pc) : KlineInv s' where
  sound := by
    rw [kline]
    exact inv.sound
  free := by
    rw [kline, bus]
    exact inv.free
  between t' here := by
    rw [kline]
    by_cases same : t' = t
    · subst same
      exact absurd here after
    · rw [others t' same] at here
      exact inv.between t' here
  tied := by
    rw [kline, bus, lLine]
    intro held apart
    refine inv.tied held fun t' => ?_
    by_cases same : t' = t
    · subst same
      exact before
    · rw [← others t' same]
      exact apart t'
  param t' := by
    by_cases same : t' = t
    · subst same
      exact param
    · rw [others t' same]
      have here := inv.param t'
      unfold ParamHolds at here ⊢
      rw [kline, lLine]
      exact here
  reserved := by
    rw [lLine]
    intro reserved here
    rcases lsPin here with before | free
    · exact inv.reserved reserved before
    · rw [reserved] at free
      cases free

/-- The next operation of a thread, where driver and claim say the same of pin 15. -/
theorem KlineInv.goOn (inv : KlineInv s) {owner : Owner} {pc : Pc} (kline : s'.kline = s.kline)
    (bus : (s'.claim .kline).bus = (s.claim .kline).bus)
    (lLine : (s'.claim .kline).lLineReserved = (s.claim .kline).lLineReserved)
    (pins : s'.pins.lsPin = s.pins.lsPin)
    (frame : s'.frame = Function.update s.frame t ⟨owner, pc⟩)
    (before : ¬ (s.frame t).pc.Between) (after : ¬ pc.Between)
    (param : ParamHolds s' pc) : KlineInv s' := by
  refine inv.keep kline bus lLine ?_ ?_ before ?_ ?_ (t := t)
  · rw [pins]
    exact .inl
  · exact fun t' other => by rw [frame, Function.update_of_ne other]
  · rw [frame, Function.update_self]
    exact after
  · rw [frame, Function.update_self]
    exact param

/-- `bus_driver_down` has failed, where driver and claim say the same of pin 15. -/
theorem KlineInv.downFailed (inv : KlineInv s) {resume : Resume} {owner : Owner}
    (kline : s'.kline = s.kline) (claim : s'.claim = s.claim)
    (pins : s'.pins.lsPin = s.pins.lsPin) (frame : s'.frame = s.frame)
    (before : ¬ (s.frame t).pc.Between) : KlineInv (s'.downFailed t owner resume).1 := by
  have claims : (s'.downFailed t owner resume).1.claim = s.claim := by
    cases resume <;> exact claim
  cases resume <;>
    exact inv.goOn kline (by rw [claims]) (by rw [claims]) pins
      (congrArg (Function.update · t _) frame) before id trivial

/-- A field that a group's claim keeps is kept in every claim. -/
theorem setClaim_kline {α : Type} (field : Claim → α) {r : Res} {c : Claim}
    (same : field c = field (s.claim r)) :
    field (Function.update s.claim r c .kline) = field (s.claim .kline) := by
  by_cases here : Res.kline = r
  · rw [← here] at same
    rw [here, Function.update_self, ← here, same]
  · rw [Function.update_of_ne here]

/-- `bus_tx_worker_close` leaves the driver of the K-Line alone. -/
theorem KlineInv.workerTurn (inv : KlineInv s) {bus : Bus} {resume : Resume}
    (here : (s.frame t).pc = .worker bus resume) (g : Grant) : KlineInv (s.turn t g).1 := by
  have before : ¬ (s.frame t).pc.Between := by
    rw [here]
    exact id
  simp only [State.turn, here]
  split
  · exact inv.downFailed rfl rfl rfl rfl before
  · exact inv.goOn rfl (setClaim_kline Claim.bus rfl) (setClaim_kline Claim.lLineReserved rfl) rfl
      rfl before id trivial

/-- `ops->close` leaves the driver of the K-Line idle, or the claim standing. -/
theorem KlineInv.driverTurn (kinv : KlineInv s) (inv : Inv s w) {bus : Bus} {resume : Resume}
    (here : (s.frame t).pc = .driver bus resume) (g : Grant) : KlineInv (s.turn t g).1 := by
  have before : ¬ (s.frame t).pc.Between := by
    rw [here]
    exact id
  have holds := inv.holds t
  rw [here] at holds
  obtain ⟨claimed, owns, shut, fits⟩ := holds
  have bound := inv.bound t (by rw [here]; exact Pc.noConfusion)
  by_cases kline : bus = .kline
  · subst kline
    have alone := inv.alone bound.1 (r := .kline) fun _ => owns
    have held : (s.claim .kline).bus ≠ none := by
      have claimed : (s.claim .kline).bus = some .kline := claimed
      simp [claimed]
    have apart : ∀ t', ¬ (s.frame t').pc.Between := by
      intro t' between
      by_cases same : t' = t
      · subst same
        exact before between
      · exact alone t' same between.group
    have tied := kinv.tied held apart
    simp only [State.turn, here]
    generalize given : s.driverCall .kline g Kline.close = answer
    rw [State.driverCall_kline] at given
    subst given
    split
    · rename_i ok
      have idle := Kline.close_idle kinv.sound ok
      refine KlineInv.next (t := t) alone ?_ (.inl ?_) (fun _ => ?_) (fun _ => ?_) ?_ ?_ ?_
      · intro t' other
        cases resume <;> exact Function.update_of_ne other ..
      · cases resume <;> exact idle
      · cases resume <;> exact idle
      · cases resume <;> exact idle
      · intro notBetween
        refine absurd ?_ notBetween
        cases resume with
        | reopen next bitrate =>
            have next : next = .kline := Bus.group_eq_kline.1 fits
            simpa [State.downDone, Pc.Between] using next
        | abandon | close | release _ _ _ => simp [State.downDone, Pc.Between, Bus.group]
      · cases resume <;> simp [State.downDone, ParamHolds]
      · cases resume <;> simpa [State.downDone] using kinv.reserved
    · rename_i failing
      have loose : (s.kline.close g).after.Loose ↔ s.kline.Loose := Kline.close_loose
      refine KlineInv.next (t := t) alone ?_ ?_ ?_ ?_ (fun _ _ => ?_) ?_ ?_
      · intro t' other
        cases resume <;> exact Function.update_of_ne other ..
      · cases resume <;> exact Kline.close_sound kinv.sound
      · intro free
        cases resume <;> exact absurd free held
      · intro between
        cases resume <;> simp [State.downFailed, Pc.Between] at between
      · intro now
        cases resume <;> exact tied (loose.1 now)
      · cases resume <;> simp [State.downFailed, ParamHolds]
      · cases resume <;> simpa [State.downFailed] using kinv.reserved
  · have other : bus.group ≠ .kline := fun same => kline (Bus.group_eq_kline.1 same)
    simp only [State.turn, here]
    generalize given : s.driverCall bus g Kline.close = answer
    rw [s.driverCall_of_ne kline] at given
    subst given
    split
    · cases resume with
      | reopen next bitrate =>
          refine kinv.goOn rfl rfl rfl (by simp [State.downDone]) rfl before ?_ trivial
          rintro rfl
          exact other fits.symm
      | abandon | close | release _ _ _ =>
          exact kinv.goOn rfl rfl rfl (by simp [State.downDone]) rfl before other trivial
    · exact kinv.downFailed rfl rfl (by simp) rfl before

/-- A new claim finds the driver of the K-Line down. -/
theorem KlineInv.installTurn (kinv : KlineInv s) (inv : Inv s w) {bus : Bus} {bitrate : Nat}
    (here : (s.frame t).pc = .install bus bitrate) (g : Grant) : KlineInv (s.turn t g).1 := by
  have holds := inv.holds t
  rw [here] at holds
  obtain ⟨claimed, owns, shut, down⟩ := holds
  have bound := inv.bound t (by rw [here]; exact Pc.noConfusion)
  simp only [State.turn, here]
  by_cases kline : bus = .kline
  · subst kline
    have idle := kinv.between t (by rw [here]; exact (rfl : Bus.kline = .kline))
    refine KlineInv.next (t := t) (inv.alone bound.1 fun _ => owns) ?_ kinv.sound (fun _ => idle)
      (fun _ => idle) ?_ ?_ ?_
    · exact fun t' other => Function.update_of_ne other ..
    · exact fun notBetween => absurd (by simp [Pc.Between]) notBetween
    · simp [ParamHolds]
    · simp [Bus.group]
  · have other : bus.group ≠ .kline := fun same => kline (Bus.group_eq_kline.1 same)
    refine kinv.goOn rfl ?_ ?_ rfl rfl ?_ kline trivial
    · simp [Function.update_of_ne other.symm]
    · simp [Function.update_of_ne other.symm]
    · rw [here]
      exact kline

/-- The driver starts with the K-Line alone, so it is not loose under the new claim. -/
theorem KlineInv.upTurn (kinv : KlineInv s) (inv : Inv s w) {bus : Bus}
    (here : (s.frame t).pc = .up bus) (g : Grant) : KlineInv (s.turn t g).1 := by
  have holds := inv.holds t
  rw [here] at holds
  obtain ⟨claimed, owns, shut, down⟩ := holds
  have bound := inv.bound t (by rw [here]; exact Pc.noConfusion)
  by_cases kline : bus = .kline
  · subst kline
    have idle := kinv.between t (by rw [here]; exact (rfl : Bus.kline = .kline))
    obtain ⟨tight, _⟩ := Kline.open_of_idle (g := g) idle
    simp only [State.turn, here]
    generalize given : s.driverCall .kline g Kline.open = answer
    rw [State.driverCall_kline] at given
    subst given
    have claimed : (s.claim .kline).bus = some .kline := claimed
    refine KlineInv.next (t := t) (inv.alone bound.1 fun _ => owns) ?_
      (Kline.open_sound kinv.sound) ?_ ?_ ?_ ?_ ?_
    · exact fun t' other => Function.update_of_ne other ..
    · intro free
      simp [claimed] at free
    · intro between
      revert between
      cases (s.kline.open g).ok <;> simp [Pc.Between]
    · intro _ _ loose
      exact absurd loose tight
    · cases (s.kline.open g).ok <;> simp [ParamHolds]
    · simpa using kinv.reserved
  · simp only [State.turn, here]
    generalize given : s.driverCall bus g Kline.open = answer
    rw [s.driverCall_of_ne kline] at given
    subst given
    refine kinv.goOn rfl rfl rfl (by simp) rfl ?_ ?_ ?_
    · rw [here]
      exact kline
    · cases g.driverOk <;> exact id
    · cases g.driverOk <;> exact trivial

/-- A claim is cleared once its driver is down. -/
theorem KlineInv.clearTurn (kinv : KlineInv s) (inv : Inv s w) {r : Res} {resume : Resume}
    (here : (s.frame t).pc = .clear r resume) (g : Grant) : KlineInv (s.turn t g).1 := by
  have holds := inv.holds t
  rw [here] at holds
  obtain ⟨claimed, owns, shut, down⟩ := holds
  have bound := inv.bound t (by rw [here]; exact Pc.noConfusion)
  simp only [State.turn, here]
  by_cases kline : r = .kline
  · subst kline
    have idle := kinv.between t (by rw [here]; exact (rfl : Res.kline = .kline))
    have alone := inv.alone bound.1 (r := .kline) fun _ => owns
    cases resume
    all_goals
      refine KlineInv.next (t := t) alone ?_ kinv.sound (fun _ => idle) (fun _ => idle) ?_ ?_ ?_
      · exact fun t' other => Function.update_of_ne other ..
      · intro _ held
        simp at held
      · simp [ParamHolds]
      · simp
  · have before : ¬ (s.frame t).pc.Between := by
      rw [here]
      exact kline
    cases resume
    all_goals
      refine kinv.goOn rfl ?_ ?_ rfl rfl before id trivial
      · simp [Function.update_of_ne (Ne.symm kline)]
      · simp [Function.update_of_ne (Ne.symm kline)]

/-- The loop of `vif_bus_release_all` touches no driver by itself. -/
theorem KlineInv.releaseTurn (kinv : KlineInv s) {rest : List Res} {failed : Bool}
    {service : Option Bool} (here : (s.frame t).pc = .release rest failed service) (g : Grant) :
    KlineInv (s.turn t g).1 := by
  have before : ¬ (s.frame t).pc.Between := by
    rw [here]
    exact id
  have pass : ∀ pc, ¬ pc.Between → (∀ s, ParamHolds s pc) →
      KlineInv (s.goto t (s.frame t).owner pc) :=
    fun pc after param => kinv.goOn rfl rfl rfl rfl rfl before after (param _)
  simp only [State.turn, here]
  cases rest with
  | nil => cases service <;> exact pass _ id fun _ => trivial
  | cons r rest =>
      simp only
      cases claimed : (s.claim r).bus with
      | none => exact pass _ id fun _ => trivial
      | some held =>
          simp only
          split
          · exact pass _ id fun _ => trivial
          · exact kinv.goOn rfl (setClaim_kline Claim.bus claimed.symm)
              (setClaim_kline Claim.lLineReserved rfl) rfl rfl before id trivial

/-- A release of pins gives no pin to anybody. -/
theorem Pins.releaseAll_lsPin (p : Pins) (owner : Owner) (pin : Nat)
    (after : (p.releaseAll owner).1.lsPin = some pin) : p.lsPin = some pin := by
  simp only [Pins.releaseAll, Pins.lsRelease, Pins.hsRelease] at after
  grind

/-- The L-line is reserved before the parameter sets it free and given back afterwards. -/
theorem KlineInv.paramTurn (kinv : KlineInv s) (inv : Inv s w)
    (here : (s.frame t).pc.group = some .kline)
    (which : (∃ value, (s.frame t).pc = .reserve value) ∨
      (∃ value was, (s.frame t).pc = .setOnly value was) ∨
      ∃ value was ok, (s.frame t).pc = .keep value was ok) (g : Grant) :
    KlineInv (s.turn t g).1 := by
  obtain ⟨claimed, owns⟩ := (inv.holds t).owns here
  have busy : (s.frame t).pc ≠ .idle := by
    intro idle
    rw [idle] at here
    cases here
  have bound := inv.bound t busy
  have alone := inv.alone bound.1 (r := .kline) fun _ => owns
  have before : ¬ (s.frame t).pc.Between := by
    rcases which with ⟨_, at_⟩ | ⟨_, _, at_⟩ | ⟨_, _, _, at_⟩ <;> rw [at_] <;> exact id
  have apart : ∀ t', ¬ (s.frame t').pc.Between := by
    intro t' between
    by_cases same : t' = t
    · subst same
      exact before between
    · exact alone t' same between.group
  have tied := kinv.tied claimed apart
  have param := kinv.param t
  rcases which with ⟨value, at_⟩ | ⟨value, was, at_⟩ | ⟨value, was, ok, at_⟩
  · simp only [State.turn, at_]
    split
    · exact kinv.goOn rfl rfl rfl rfl rfl before id trivial
    · split
      · exact kinv.goOn rfl rfl rfl rfl rfl before id trivial
      · rename_i clear
        refine KlineInv.next (t := t) alone ?_ kinv.sound ?_ ?_ ?_ ?_ ?_
        · exact fun t' other => Function.update_of_ne other ..
        · intro free
          simp [claimed] at free
        · simp [Pc.Between]
        · intro _ _ loose
          simp [tied loose]
        · simp only [State.goto_frame, Function.update_self, ParamHolds, State.goto_claim,
            State.setClaim_claim, and_true]
          exact tied
        · simp only [State.goto_claim, State.setClaim_claim, Function.update_self, State.goto_pins,
            State.setClaim_pins, Bool.or_eq_true, Bool.not_eq_true']
          intro reserved
          have := kinv.reserved
          grind
  · rw [at_] at param
    obtain ⟨was_, reserved⟩ := param
    simp only [State.turn, at_]
    refine KlineInv.next (t := t) alone ?_ (Kline.setOnly_sound kinv.sound) ?_ ?_ ?_ ?_ ?_
    · exact fun t' other => Function.update_of_ne other ..
    · intro free
      simp [claimed] at free
    · simp [Pc.Between]
    · intro _ _ loose
      simp only [State.goto_claim, State.afterDriver_claim]
      cases ok : (s.kline.setOnly value g).ok with
      | true =>
          have same := Kline.setOnly_ok ok
          simp only [State.goto_kline, State.afterDriver_kline, Kline.Loose] at loose
          rw [reserved, ← same, loose.1]
          simp
      | false =>
          simp only [State.goto_kline, State.afterDriver_kline, Kline.setOnly_failed ok] at loose
          exact tied loose
    · simp only [State.goto_frame, Function.update_self, ParamHolds]
      refine ⟨reserved, Kline.setOnly_ok, ?_⟩
      intro failed loose
      simp only [State.goto_kline, State.afterDriver_kline, Kline.setOnly_failed failed] at loose
      exact was_ loose
    · simpa using kinv.reserved
  · rw [at_] at param
    obtain ⟨reserved, done, kept⟩ := param
    simp only [State.turn, at_]
    refine KlineInv.next (t := t) alone ?_ kinv.sound ?_ ?_ ?_ ?_ ?_
    · exact fun t' other => Function.update_of_ne other ..
    · intro free
      simp [claimed] at free
    · simp [Pc.Between]
    · intro _ _ (loose : s.kline.Loose)
      simp only [State.goto_claim, State.setClaim_claim, Function.update_self]
      cases ok with
      | true => simp [← done rfl, loose.1]
      | false => exact kept rfl loose
    · simp [ParamHolds]
    · simp only [State.goto_claim, State.setClaim_claim, Function.update_self, State.goto_pins,
        State.setClaim_pins]
      intro still
      refine kinv.reserved ?_
      rw [reserved]
      cases ok with
      | true => simpa using Or.inr still
      | false => simpa using Or.inl still

/-- Every turn keeps the claim and the driver of the K-Line in step, case by case. -/
theorem KlineInv.turn (kinv : KlineInv s) (inv : Inv s w) (t : Thread) (g : Grant) :
    KlineInv (s.turn t g).1 := by
  cases here : (s.frame t).pc with
  | idle =>
      simp only [State.turn, here]
      exact kinv
  | worker bus resume => exact kinv.workerTurn here g
  | driver bus resume => exact kinv.driverTurn inv here g
  | install bus bitrate => exact kinv.installTurn inv here g
  | up bus => exact kinv.upTurn inv here g
  | publish bus =>
      simp only [State.turn, here]
      exact kinv.goOn rfl (setClaim_kline Claim.bus rfl) (setClaim_kline Claim.lLineReserved rfl)
        rfl rfl (by rw [here]; exact id) id trivial
  | clear r resume => exact kinv.clearTurn inv here g
  | release rest failed service => exact kinv.releaseTurn here g
  | unpin failed recover =>
      simp only [State.turn, here]
      refine kinv.keep (t := t) rfl rfl rfl ?_ ?_ (by rw [here]; exact id) ?_ ?_
      · exact fun after => .inl (s.pins.releaseAll_lsPin _ _ after)
      · exact fun t' other => Function.update_of_ne other ..
      · cases failed <;> simp [Pc.Between]
      · cases failed <;> simp [ParamHolds]
  | rearm recover =>
      simp only [State.turn, here]
      exact kinv.goOn rfl rfl rfl rfl rfl (by rw [here]; exact id) id trivial
  | reserve value => exact kinv.paramTurn inv (by rw [here]; rfl) (.inl ⟨value, here⟩) g
  | setOnly value was =>
      exact kinv.paramTurn inv (by rw [here]; rfl) (.inr (.inl ⟨value, was, here⟩)) g
  | keep value was ok =>
      exact kinv.paramTurn inv (by rw [here]; rfl) (.inr (.inr ⟨value, was, ok, here⟩)) g

/-- A step outside the calls and the K-Line driver. -/
theorem KlineInv.same (inv : KlineInv s) (kline : s'.kline = s.kline)
    (bus : (s'.claim .kline).bus = (s.claim .kline).bus)
    (lLine : (s'.claim .kline).lLineReserved = (s.claim .kline).lLineReserved)
    (frame : s'.frame = s.frame)
    (lsPin : s'.pins.lsPin = some 15 →
      s.pins.lsPin = some 15 ∨ (s.claim .kline).lLineReserved = false) : KlineInv s' where
  sound := by
    rw [kline]
    exact inv.sound
  free := by
    rw [kline, bus]
    exact inv.free
  between := by
    rw [kline, frame]
    exact inv.between
  tied := by
    rw [kline, bus, lLine, frame]
    exact inv.tied
  param t := by
    have here := inv.param t
    rw [frame]
    unfold ParamHolds at here ⊢
    rw [kline, lLine]
    exact here
  reserved := by
    rw [lLine]
    intro reserved here
    rcases lsPin here with before | free
    · exact inv.reserved reserved before
    · rw [reserved] at free
      cases free

/-- A call that begins has not touched the driver yet. -/
theorem KlineInv.begin (kinv : KlineInv s) (inv : Inv s w) (idle : (s.frame t).pc = .idle)
    (made : Call) : KlineInv (s.begin t made).1 := by
  have before : ¬ (s.frame t).pc.Between := by
    rw [idle]
    exact id
  cases made with
  | «open» owner bus bitrate =>
      cases bus with
      | none => exact kinv
      | some bus =>
          simp only [State.begin, State.beginOpen]
          split
          · exact kinv
          · rename_i here
            have bound := State.onOwnerThread_iff.1 (by simpa using here)
            split
            · exact kinv
            · cases old : (s.claim bus.group).bus with
              | some held =>
                  exact kinv.goOn rfl (setClaim_kline Claim.bus old.symm)
                    (setClaim_kline Claim.lLineReserved rfl) rfl rfl before id trivial
              | none =>
                  by_cases kline : bus = .kline
                  · subst kline
                    have rest := kinv.free old
                    refine KlineInv.next (t := t)
                      (inv.alone bound.1 fun held => absurd old held) ?_ kinv.sound
                      (fun _ => rest) (fun _ => rest) ?_ ?_ ?_
                    · exact fun t' other => Function.update_of_ne other ..
                    · exact fun notBetween => absurd (by simp [Pc.Between]) notBetween
                    · simp [ParamHolds]
                    · simpa [Bus.group] using kinv.reserved
                  · have other : bus.group ≠ .kline :=
                      fun same => kline (Bus.group_eq_kline.1 same)
                    refine kinv.goOn rfl ?_ (setClaim_kline Claim.lLineReserved rfl) rfl rfl before
                      kline trivial
                    simp [Function.update_of_ne other.symm]
  | close owner bus =>
      cases bus with
      | none => exact kinv
      | some bus =>
          simp only [State.begin, State.beginClose]
          split
          · exact kinv
          · cases old : (s.claim bus.group).bus with
            | none => exact kinv
            | some held =>
                simp only
                split
                · exact kinv
                · exact kinv.goOn rfl (setClaim_kline Claim.bus old.symm)
                    (setClaim_kline Claim.lLineReserved rfl) rfl rfl before id trivial
  | releaseAll owner =>
      simp only [State.begin]
      split
      · exact kinv.same rfl rfl rfl rfl .inl
      · exact kinv.goOn rfl rfl rfl rfl rfl before id trivial
  | service owner =>
      simp only [State.begin, State.beginService]
      split
      · exact kinv
      · split
        · exact kinv
        · exact kinv.goOn rfl rfl rfl rfl rfl before id trivial
  | setOnly owner value =>
      simp only [State.begin]
      split
      · exact kinv.goOn rfl rfl rfl rfl rfl before id trivial
      · exact kinv

/-- A pin is set to ground by `vif_pin_set` alone, and pin 15 only while the L-line is free. -/
theorem Pins.set_lsPin {hwLsObd9 reserved : Bool} {p : Pins} {owner : Owner} {obdPin : Nat}
    {m : PinMode} {mv : Nat}
    (after : (p.set hwLsObd9 reserved owner obdPin m mv).1.lsPin = some 15) :
    p.lsPin = some 15 ∨ reserved = false := by
  cases m <;> simp only [Pins.set, Pins.lsRelease, Pins.hsRelease] at after <;> grind

theorem Pins.claimForCalibration_lsPin {reserved : Bool} {p : Pins} {owner : Owner}
    (after : (p.claimForCalibration reserved owner).1.lsPin = some 15) : p.lsPin = some 15 := by
  simp only [Pins.claimForCalibration, Pins.lsRelease, Pins.hsRelease] at after
  grind

/-- A calibration drives pins, and leaves the low side alone. -/
theorem Pins.calibrateStep_lsPin {hwLsObd9 : Bool} {p : Pins} {owner : Owner} {stage : Stage} :
    (p.calibrateStep hwLsObd9 owner stage).1.lsPin = p.lsPin := by
  cases stage <;> simp only [Pins.calibrateStep, Pins.dropAfterCalibration]
  split <;> rfl

/-- Only one calibration runs at a time. -/
theorem Pins.claimForCalibration_ok {reserved : Bool} {p p' : Pins} {owner : Owner}
    {events : List PinEvent} (claims : p.claimForCalibration reserved owner = (p', events, .ok)) :
    p.pinsCalibrating = false := by
  simp only [Pins.claimForCalibration] at claims
  grind

/-- A calibration that is refused has touched no pin. -/
theorem Pins.claimForCalibration_refused {reserved : Bool} {p p' : Pins} {owner : Owner}
    {events : List PinEvent} {err : Err}
    (claims : p.claimForCalibration reserved owner = (p', events, err))
    (failed : err = .ok → False) : p' = p ∧ events = [] := by
  simp only [Pins.claimForCalibration] at claims
  grind

/-- So does every input. -/
theorem KlineInv.step (kinv : KlineInv s) (inv : Inv s w) (hwLsObd9 : Bool) (input : Input) :
    KlineInv (s.step hwLsObd9 input).1 := by
  cases input with
  | bind owner => exact kinv.same rfl rfl rfl rfl .inl
  | call t made =>
      simp only [State.step]
      split
      · rename_i can
        simp only [State.canCall, Bool.and_eq_true, decide_eq_true_eq] at can
        exact kinv.begin inv can.1 made
      · exact kinv
  | turn t g => exact kinv.turn inv t g
  | submit owner bus =>
      simp only [State.step]
      split
      · exact kinv.same rfl (setClaim_kline Claim.bus rfl)
          (setClaim_kline Claim.lLineReserved rfl) rfl .inl
      · exact kinv
  | recoverAll => exact kinv.same rfl rfl rfl rfl .inl
  | pinSet owner obdPin m mv =>
      simp only [State.step]
      split
      · exact kinv.same rfl rfl rfl rfl Pins.set_lsPin
      · exact kinv
  | pinReleaseAll t owner =>
      simp only [State.step]
      split
      · exact kinv.same rfl rfl rfl rfl fun after => .inl (s.pins.releaseAll_lsPin _ _ after)
      · exact kinv
  | calibrate owner =>
      have claims := @Pins.claimForCalibration_lsPin (s.claim .kline).lLineReserved s.pins owner
      simp only [State.step]
      split
      · split
        · rename_i eq
          rw [eq] at claims
          exact kinv.same rfl rfl rfl rfl fun after => .inl (claims after)
        · rename_i eq
          rw [eq] at claims
          exact kinv.same rfl rfl rfl rfl fun after => .inl (claims after)
      · exact kinv
  | calibrateTurn =>
      simp only [State.step]
      split
      · exact kinv
      · split
        · exact kinv.same rfl rfl rfl rfl fun after => .inl (by rw [← after, Pins.calibrateStep_lsPin])
        · exact kinv

theorem KlineInv.initial : KlineInv {} where
  sound := .inl ⟨rfl, rfl, rfl⟩
  free _ := ⟨rfl, rfl, rfl⟩
  between _ here := here.elim
  tied held := absurd rfl held
  param _ := trivial
  reserved reserved := nomatch reserved

end Steps

/-! ## The pins -/

/-- The pin events of a log. -/
def pinEvents (log : List Event) : List PinEvent :=
  log.filterMap fun
    | .pin event => some event
    | _ => none

@[simp] theorem pinEvents_append (first second : List Event) :
    pinEvents (first ++ second) = pinEvents first ++ pinEvents second :=
  List.filterMap_append

@[simp] theorem pinEvents_pin (events : List PinEvent) : pinEvents (events.map .pin) = events := by
  simp [pinEvents, List.filterMap_map]

/-- The step switches off no pin that another owner holds. -/
def State.Undisturbed (s : State) : Input → Prop
  | .calibrateTurn =>
    match s.calibration with
    | some (owner, stage) => (s.frame (.task owner)).pc = .idle → stage.Alone s.pins owner
    | none => True
  | .turn t _ =>
    match (s.frame t).pc with
    -- The driver is closed after an open that got one of its locks and not the other.
    | .driver .kline _ =>
      s.kline.apiLock = true → s.kline.dataLock = false → s.pins.lsPin ≠ some 15
    | _ => True
  | _ => True

instance (s : State) (input : Input) : Decidable (s.Undisturbed input) := by
  unfold State.Undisturbed
  split
  · split <;> infer_instance
  · split <;> infer_instance
  · infer_instance

/-- A calibration that does not wait for the console has its task to itself. -/
def State.Quiet (s : State) : Prop :=
  ∀ owner stage, s.calibration = some (owner, stage) → stage.prompts = false →
    (s.frame (.task owner)).pc = .idle

section Pins

variable {hwLsObd9 : Bool} {s : State} {w : Switches} {seen : Watch} {t : Thread}

/-- A turn of a thread is its own, and no calibration's. -/
theorem State.turn_others (g : Grant) :
    (s.turn t g).1.calibration = s.calibration ∧
      ∀ t', t' ≠ t → (s.turn t g).1.frame t' = s.frame t' := by
  cases here : (s.frame t).pc with
  | idle => simp [State.turn, here]
  | worker bus resume =>
      simp only [State.turn, here]
      split
      · cases resume <;> exact ⟨rfl, fun t' other => Function.update_of_ne other ..⟩
      · exact ⟨rfl, fun t' other => Function.update_of_ne other ..⟩
  | driver bus resume =>
      simp only [State.turn, here]
      split <;> cases resume <;> exact ⟨rfl, fun t' other => Function.update_of_ne other ..⟩
  | install bus bitrate | up bus | publish bus | rearm recover | unpin failed recover
  | setOnly value was | keep value was ok =>
      simp only [State.turn, here]
      exact ⟨rfl, fun t' other => Function.update_of_ne other ..⟩
  | clear r resume =>
      simp only [State.turn, here]
      cases resume <;> exact ⟨rfl, fun t' other => Function.update_of_ne other ..⟩
  | release rest failed service =>
      simp only [State.turn, here]
      cases rest with
      | nil => cases service <;> exact ⟨rfl, fun t' other => Function.update_of_ne other ..⟩
      | cons r rest =>
          simp only
          split
          · exact ⟨rfl, fun t' other => Function.update_of_ne other ..⟩
          · split <;> exact ⟨rfl, fun t' other => Function.update_of_ne other ..⟩
  | reserve value =>
      simp only [State.turn, here]
      split
      · exact ⟨rfl, fun t' other => Function.update_of_ne other ..⟩
      · split <;> exact ⟨rfl, fun t' other => Function.update_of_ne other ..⟩

/-- What the K-Line driver does to pin 15. -/
theorem Pins.Agree.afterDriver {s' : State} {cal : Calibration} {log : List Event}
    (agree : s.pins.Agree hwLsObd9 cal w) {c : KlineCall}
    (safe : c.cutsPin15 = true → s.pins.lsPin ≠ some 15) (bus : Bus) (up : Bool) (owner : Owner)
    (pins : s'.pins = (s.afterDriver bus c up).pins)
    (events : pinEvents log = pinEvents (c.events owner)) :
    Pins.Keeps hwLsObd9 w s'.pins cal (pinEvents log) := by
  rw [pins, events]
  unfold State.afterDriver KlineCall.events
  split
  · rename_i cuts
    exact agree.cut (safe cuts)
  · exact agree.keeps

/-- A turn of a call keeps the bookkeeping of the pins true, if it is undisturbed. -/
theorem Pins.Agree.turn (agree : s.pins.Agree hwLsObd9 s.calibration w) (kinv : KlineInv s)
    (inv : Inv s seen) (quiet : s.Quiet) {g : Grant} (undisturbed : s.Undisturbed (.turn t g)) :
    Pins.Keeps hwLsObd9 w (s.turn t g).1.pins s.calibration (pinEvents (s.turn t g).2) := by
  cases here : (s.frame t).pc with
  | idle =>
      simp only [State.turn, here]
      exact agree.keeps
  | worker bus resume =>
      simp only [State.turn, here]
      split
      · cases resume <;> exact agree.keeps
      · exact agree.keeps
  | install bus bitrate | publish bus | rearm recover | keep value was ok =>
      simp only [State.turn, here]
      exact agree.keeps
  | clear r resume =>
      simp only [State.turn, here]
      cases resume <;> exact agree.keeps
  | release rest failed service =>
      simp only [State.turn, here]
      cases rest with
      | nil => cases service <;> exact agree.keeps
      | cons r rest =>
          simp only
          split
          · exact agree.keeps
          · split <;> exact agree.keeps
  | reserve value =>
      simp only [State.turn, here]
      split
      · exact agree.keeps
      · split <;> exact agree.keeps
  | unpin failed recover =>
      have bound := (inv.bound t (by rw [here]; exact Pc.noConfusion)).1
      simp only [State.turn, here, pinEvents_pin]
      refine agree.releaseAll fun stage running => ?_
      cases prompts : stage.prompts with
      | true => rfl
      | false =>
          have idle := quiet _ stage running prompts
          rw [← bound, here] at idle
          cases idle
  | up bus =>
      simp only [State.turn, here]
      have uncut : (s.driverCall bus g Kline.open).cutsPin15 = false := by
        by_cases kline : bus = .kline
        · subst kline
          have idle := kinv.between t (by rw [here]; exact (rfl : Bus.kline = .kline))
          exact (Kline.open_of_idle idle).2
        · rw [s.driverCall_of_ne kline]
      generalize s.driverCall bus g Kline.open = answer at uncut ⊢
      refine agree.afterDriver ?_ bus (answer.ok || g.leftUp) (s.frame t).owner rfl ?_
      · rw [uncut]
        exact fun cuts => absurd cuts Bool.false_ne_true
      · exact (pinEvents_append ..).trans (List.append_nil _)
  | driver bus resume =>
      have safe : (s.driverCall bus g Kline.close).cutsPin15 = true → s.pins.lsPin ≠ some 15 := by
        intro cuts
        by_cases kline : bus = .kline
        · subst kline
          obtain ⟨apiLock, kLineOnly⟩ := Kline.close_cuts cuts
          cases dataLock : s.kline.dataLock with
          | false =>
              simp only [State.Undisturbed, here] at undisturbed
              exact undisturbed apiLock dataLock
          | true =>
              have holds := inv.holds t
              rw [here] at holds
              have claimed : (s.claim .kline).bus = some .kline := holds.1
              have owns : (s.claim .kline).owner = (s.frame t).owner := holds.2.1
              have bound := (inv.bound t (by rw [here]; exact Pc.noConfusion)).1
              refine kinv.reserved (kinv.tied (by simp [claimed]) ?_ ⟨kLineOnly, ?_⟩)
              · intro t' between
                by_cases same : t' = t
                · subst same
                  rw [here] at between
                  exact between
                · exact inv.alone bound (fun _ => owns) t' same between.group
              · simp [Kline.configured, apiLock, dataLock]
        · rw [s.driverCall_of_ne kline] at cuts
          cases cuts
      simp only [State.turn, here]
      generalize s.driverCall bus g Kline.close = answer at safe ⊢
      split
      · cases resume <;> exact agree.afterDriver safe bus (!answer.ok && g.leftUp)
          (s.frame t).owner rfl ((pinEvents_append ..).trans (List.append_nil _))
      · refine agree.afterDriver safe bus (!answer.ok && g.leftUp) (s.frame t).owner ?_ ?_
        · cases resume <;> rfl
        · simp only [pinEvents_append, List.append_assoc]
          cases resume <;> exact List.append_nil _
  | setOnly value was =>
      simp only [State.turn, here]
      refine agree.afterDriver (fun cuts => ?_) .kline (s.up .kline) _ rfl rfl
      have param := kinv.param t
      rw [here] at param
      obtain ⟨was_, reserved⟩ := param
      refine kinv.reserved ?_
      rw [reserved]
      rcases Kline.setOnly_cuts kinv.sound cuts with enabling | loose
      · simp [enabling]
      · simp [was_ loose]

/-- A call that begins touches no pin and no other call. -/
theorem State.begin_others (made : Call) :
    (s.begin t made).1.calibration = s.calibration ∧ (s.begin t made).1.pins = s.pins ∧
      pinEvents (s.begin t made).2 = [] ∧
      ∀ t', t' ≠ t → (s.begin t made).1.frame t' = s.frame t' := by
  have silent : ∀ owner err, pinEvents [Event.returned t owner err] = [] := fun _ _ => rfl
  cases made with
  | «open» owner bus bitrate =>
      cases bus with
      | none => exact ⟨rfl, rfl, rfl, fun _ _ => rfl⟩
      | some bus =>
          simp only [State.begin, State.beginOpen]
          split
          · exact ⟨rfl, rfl, rfl, fun _ _ => rfl⟩
          · split
            · exact ⟨rfl, rfl, rfl, fun _ _ => rfl⟩
            · split <;> exact ⟨rfl, rfl, rfl, fun t' other => Function.update_of_ne other ..⟩
  | close owner bus =>
      cases bus with
      | none => exact ⟨rfl, rfl, rfl, fun _ _ => rfl⟩
      | some bus =>
          simp only [State.begin, State.beginClose]
          split
          · exact ⟨rfl, rfl, rfl, fun _ _ => rfl⟩
          · split
            · exact ⟨rfl, rfl, rfl, fun _ _ => rfl⟩
            · split
              · exact ⟨rfl, rfl, rfl, fun _ _ => rfl⟩
              · exact ⟨rfl, rfl, rfl, fun t' other => Function.update_of_ne other ..⟩
  | releaseAll owner =>
      simp only [State.begin]
      split
      · exact ⟨rfl, rfl, rfl, fun _ _ => rfl⟩
      · exact ⟨rfl, rfl, rfl, fun t' other => Function.update_of_ne other ..⟩
  | service owner =>
      simp only [State.begin, State.beginService]
      split
      · exact ⟨rfl, rfl, rfl, fun _ _ => rfl⟩
      · split
        · exact ⟨rfl, rfl, rfl, fun _ _ => rfl⟩
        · exact ⟨rfl, rfl, rfl, fun t' other => Function.update_of_ne other ..⟩
  | setOnly owner value =>
      simp only [State.begin]
      split
      · exact ⟨rfl, rfl, rfl, fun t' other => Function.update_of_ne other ..⟩
      · exact ⟨rfl, rfl, rfl, fun _ _ => rfl⟩

/-- The owner of a free task is in no calibration. -/
theorem State.outside_of_free {owner : Owner} (free : s.free owner = true) :
    (s.frame (.task owner)).pc = .idle ∧
      ∀ o stage, s.calibration = some (o, stage) → o ≠ owner := by
  simp only [State.free, Bool.and_eq_true, decide_eq_true_eq] at free
  refine ⟨free.1, ?_⟩
  rintro o stage running rfl
  exact free.2 (by rw [running]; rfl)

/-- A calibration keeps its task to itself over every input, unless it waits for the console. -/
theorem State.Quiet.step (quiet : s.Quiet) (input : Input) : (s.step hwLsObd9 input).1.Quiet := by
  cases input with
  | bind owner | recoverAll => exact quiet
  | call t made =>
      simp only [State.step]
      split
      · rename_i can
        obtain ⟨cal, _, _, others⟩ := s.begin_others made (t := t)
        intro owner stage running prompts
        rw [cal] at running
        have here : Thread.task owner ≠ t := by
          rintro rfl
          simp [State.canCall, running, prompts] at can
        rw [others _ here]
        exact quiet owner stage running prompts
      · exact quiet
  | turn t g =>
      simp only [State.step]
      obtain ⟨cal, others⟩ := s.turn_others g (t := t)
      intro owner stage running prompts
      rw [cal] at running
      have idle := quiet owner stage running prompts
      by_cases here : Thread.task owner = t
      · subst here
        simp only [State.turn, idle]
      · rw [others _ here]
        exact idle
  | submit owner bus | pinSet owner obdPin m mv | pinReleaseAll t owner =>
      simp only [State.step]
      split <;> exact quiet
  | calibrate owner =>
      simp only [State.step]
      split
      · rename_i free
        obtain ⟨idle, _⟩ := s.outside_of_free free
        split
        · rintro o stage ⟨⟩ _
          exact idle
        · exact quiet
      · exact quiet
  | calibrateTurn =>
      simp only [State.step]
      split
      · exact quiet
      · rename_i owner stage running
        split
        · rename_i idle
          intro o stage' next _
          simp only [Option.map_eq_some_iff, Prod.mk.injEq] at next
          obtain ⟨_, _, rfl, _⟩ := next
          exact idle
        · exact quiet

/-- Every undisturbed input keeps the bookkeeping true. -/
theorem Pins.Agree.step (agree : s.pins.Agree hwLsObd9 s.calibration w) (kinv : KlineInv s)
    (inv : Inv s seen) (quiet : s.Quiet) {input : Input} (undisturbed : s.Undisturbed input) :
    Pins.Keeps hwLsObd9 w (s.step hwLsObd9 input).1.pins (s.step hwLsObd9 input).1.calibration
      (pinEvents (s.step hwLsObd9 input).2) := by
  have returned : ∀ (events : List PinEvent) t owner err,
      pinEvents (events.map Event.pin ++ [Event.returned t owner err]) = events := by
    intro events t owner err
    rw [pinEvents_append, pinEvents_pin]
    exact List.append_nil _
  cases input with
  | bind owner | recoverAll => exact agree.keeps
  | call t made =>
      simp only [State.step]
      split
      · obtain ⟨cal, pins, events, _⟩ := s.begin_others made (t := t)
        rw [cal, pins, events]
        exact agree.keeps
      · exact agree.keeps
  | turn t g =>
      rw [State.step, (s.turn_others g).1]
      exact agree.turn kinv inv quiet undisturbed
  | submit owner bus =>
      simp only [State.step]
      split <;> exact agree.keeps
  | pinSet owner obdPin m mv =>
      simp only [State.step]
      split
      · rename_i free
        rw [returned]
        exact agree.set _ obdPin m mv (s.outside_of_free free).2
      · exact agree.keeps
  | pinReleaseAll t owner =>
      simp only [State.step]
      split
      · rename_i may
        rw [returned]
        refine agree.releaseAll fun stage running => ?_
        have apart := (Bool.and_eq_true_iff.1 may).2
        rw [running, decide_eq_true_iff] at apart
        exact absurd rfl apart
      · exact agree.keeps
  | calibrate owner =>
      simp only [State.step]
      split
      · split
        · rename_i pins events claims
          have idle : s.calibration = none := by
            have calm := Pins.claimForCalibration_ok claims
            rw [agree.calibrating, Option.isSome_eq_false_iff, Option.isNone_iff_eq_none] at calm
            exact calm
          rw [idle] at agree
          rw [pinEvents_pin]
          exact agree.claimForCalibration claims
        · rename_i pins events err failed claims
          obtain ⟨rfl, rfl⟩ := Pins.claimForCalibration_refused claims failed
          exact agree.keeps
      · exact agree.keeps
  | calibrateTurn =>
      simp only [State.step]
      split
      · exact agree.keeps
      · rename_i owner stage running
        split
        · rename_i idle
          rw [running] at agree
          simp only [State.Undisturbed, running] at undisturbed
          rw [pinEvents_pin]
          exact agree.calibrateStep (undisturbed idle)
        · exact agree.keeps

end Pins

/-! ## Every run -/

/-- The bookkeeping and the hardware say the same, and nobody's pin is touched by another. -/
structure PinsTrue (s : State) (log : List Event) : Prop where
  high : s.calibration = none → ∀ pin, s.pins.board.hs pin = true ↔ s.pins.hsPin = some pin
  low : s.calibration = none → ∀ pin, s.pins.board.ls pin = true ↔ s.pins.lsPin = some pin
  apart : ∀ pin, ¬ (s.pins.board.hs pin = true ∧ s.pins.board.ls pin = true)
  reserved : (s.claim .kline).lLineReserved = true → s.pins.lsPin ≠ some 15
  owners : Switches.Legal (fun _ _ => none) (pinEvents log)

section Runs

variable {hwLsObd9 : Bool} {s : State} {w : Switches}

theorem Pins.Agree.initial : Pins.Agree hwLsObd9 {} none fun _ _ => none where
  driven side _ := by cases side <;> rfl
  hs _ := rfl
  ls _ := rfl
  calibrating := rfl
  early _ _ running := nomatch running
  highValid _ claimed := nomatch claimed
  lowValid _ claimed := nomatch claimed
  apart _ claimed := nomatch claimed

/-- What the bookkeeping says of the pins is what was last switched. -/
theorem Pins.Agree.true (agree : s.pins.Agree hwLsObd9 s.calibration w) (kinv : KlineInv s)
    {log : List Event} (legal : Switches.Legal (fun _ _ => none) (pinEvents log)) :
    PinsTrue s log where
  high calm pin := by
    rw [agree.hs, agree.driven, calm]
    simp only [Pins.driven]
    split <;> simp_all
  low _ pin := by
    rw [agree.ls, agree.driven]
    simp only [Pins.driven]
    split <;> simp_all
  apart pin both := by
    obtain ⟨high, low⟩ := both
    rw [agree.hs, agree.driven] at high
    rw [agree.ls, agree.driven] at low
    have hs : s.pins.hsPin = some pin := by
      unfold Pins.driven at high
      grind
    have ls : s.pins.lsPin = some pin := by
      unfold Pins.driven at low
      grind
    exact agree.apart pin hs ls
  reserved := kinv.reserved
  owners := legal

/-- What every undisturbed step keeps. -/
structure PinSafe (hwLsObd9 : Bool) (s : State × List Event) : Prop where
  claims : Inv s.1 (s.2.foldl Watch.see {})
  kline : KlineInv s.1
  quiet : s.1.Quiet
  legal : Switches.Legal (fun _ _ => none) (pinEvents s.2)
  agree : s.1.pins.Agree hwLsObd9 s.1.calibration
    ((pinEvents s.2).foldl Switches.see fun _ _ => none)

/-- Safety is kept by every undisturbed input, with the history of what was switched. -/
theorem PinSafe.step {s : State × List Event} (safe : PinSafe hwLsObd9 s) {input : Input}
    (undisturbed : s.1.Undisturbed input) :
    PinSafe hwLsObd9 (logged (State.step hwLsObd9) s input) := by
  obtain ⟨s, log⟩ := s
  obtain ⟨claims, kline, quiet, legal, agree⟩ := safe
  obtain ⟨permitted, next⟩ := agree.step kline claims quiet undisturbed
  constructor <;> simp only [logged, List.foldl_append, pinEvents_append]
  · exact claims.step hwLsObd9 input
  · exact kline.step claims hwLsObd9 input
  · exact quiet.step input
  · exact legal.append permitted
  · exact next

/-- Pin bookkeeping matches the hardware in every run that nothing disturbs. -/
theorem pins_true (hwLsObd9 : Bool) (inputs : List Input)
    (undisturbed : Admissible (fun s input => State.Undisturbed s.1 input)
      (logged (State.step hwLsObd9)) ({}, []) inputs) :
    PinsTrue (run (logged (State.step hwLsObd9)) ({}, []) inputs).1
      (run (logged (State.step hwLsObd9)) ({}, []) inputs).2 := by
  have safe : PinSafe hwLsObd9 (run (logged (State.step hwLsObd9)) ({}, []) inputs) :=
    undisturbed.invariant (fun _ _ safe allowed => safe.step allowed)
      ⟨.initial, .initial, nofun, .nil, .initial⟩
  exact safe.agree.true safe.kline safe.legal

/-- The shell calibrates while the link has nothing switched on, then the link feeds a pin. -/
theorem pins_true_after_calibration :
    let inputs := [.calibrate .shell, .calibrateTurn, .calibrateTurn, .calibrateTurn,
      .calibrateTurn, .calibrateTurn, .pinSet .link 13 .voltage 18000]
    let s := run (logged (State.step false)) ({}, []) inputs
    PinsTrue s.1 s.2 ∧ s.1.pins.hsPin = some 13 ∧ s.1.pins.board.hs 13 = true :=
  ⟨pins_true false _ (by decide +kernel), by decide +kernel, by decide +kernel⟩

/-- The link pulls pin 15 to ground while the shell calibrates; the end of the calibration switches
it off and the bookkeeping still names it. -/
theorem pins_untrue_after_calibration : ¬ ∀ inputs : List Input,
    PinsTrue (run (logged (State.step false)) ({}, []) inputs).1
      (run (logged (State.step false)) ({}, []) inputs).2 := by
  intro claim
  have here := claim [.calibrate .shell, .calibrateTurn, .calibrateTurn,
    .pinSet .link 15 .ground 0, .calibrateTurn, .calibrateTurn, .calibrateTurn]
  have off := (here.low (by decide +kernel) 15).2 (by decide +kernel)
  revert off
  decide +kernel

end Runs

end OpenDiag.Vif
