import OpenDiag.Lib.Monitor
import OpenDiag.Vif.Machine

/-!
# What a claim says

A group is worked on by the thread of the owner that holds its claim and by no other: a thread
enters a call only on its own owner's behalf, and every critical section before a blocking call has
put the claim there. So while a driver of the group is up, or may be, the claim names it; and a
claim that is open names a driver that was opened for its owner.
-/

namespace OpenDiag.Vif

/-! ## What was done to the drivers -/

/-- The standing of the drivers, from what can be seen. -/
structure Watch where
  /-- The owner for whom a driver was opened, until it is closed. -/
  opened : Bus → Option Owner := fun _ => none
  /-- The owner whose last close in the group failed. -/
  stuck : Res → Option Owner := fun _ => none

/-- The standing after one more event. A close that was tried counts as one. -/
def Watch.see (w : Watch) : Event → Watch
  | .workerClosed _ owner bus ok =>
    if ok then w else { w with stuck := Function.update w.stuck bus.group (some owner) }
  | .driverOpened _ owner bus ok =>
    { w with opened := Function.update w.opened bus (if ok then some owner else none) }
  | .driverClosed _ owner bus ok =>
    { opened := Function.update w.opened bus none
      stuck := Function.update w.stuck bus.group (if ok then none else some owner) }
  | .pin _ | .returned _ _ _ => w

/-- An event that opens, closes or tries to open or close a driver. -/
def Event.Driver (t : Thread) (owner : Owner) (bus : Bus) : Event → Prop
  | .driverOpened t' owner' bus' _ => t' = t ∧ owner' = owner ∧ bus' = bus
  | .driverClosed t' owner' bus' _ => t' = t ∧ owner' = owner ∧ bus' = bus
  | _ => False

/-- What is switched says nothing of the claims. -/
theorem foldl_see_pin (w : Watch) (events : List PinEvent) :
    (events.map Event.pin).foldl Watch.see w = w := by
  induction events with
  | nil => rfl
  | cons event events ih => exact ih

/-- Nor does what a driver switches. -/
@[simp] theorem foldl_see_events (w : Watch) (c : KlineCall) (owner : Owner) :
    (c.events owner).foldl Watch.see w = w := by
  unfold KlineCall.events
  split <;> rfl

/-! ## The invariant -/

/-- The group a thread works on. -/
def Pc.group : Pc → Option Res
  | .idle | .release _ _ _ | .unpin _ _ | .rearm _ => none
  | .worker bus _ | .driver bus _ | .install bus _ | .up bus | .publish bus => some bus.group
  | .clear r _ => some r
  | .reserve _ | .setOnly _ _ | .keep _ _ _ => some .kline

/-- A bus is opened in the place of another one of its group. -/
def Resume.Fits (bus : Bus) : Resume → Prop
  | .reopen next _ => next.group = bus.group
  | _ => True

/-- No driver of the group is up. -/
def State.Down (s : State) (r : Res) : Prop :=
  ∀ bus : Bus, bus.group = r → s.up bus = false

/-- What a thread has established before its next operation. -/
def Holds (s : State) (w : Watch) (owner : Owner) : Pc → Prop
  | .worker bus resume | .driver bus resume =>
    (s.claim bus.group).bus = some bus ∧ (s.claim bus.group).owner = owner ∧
      (s.claim bus.group).isOpen = false ∧ resume.Fits bus
  | .install bus _ =>
    (s.claim bus.group).bus ≠ none ∧ (s.claim bus.group).owner = owner ∧
      (s.claim bus.group).isOpen = false ∧ s.Down bus.group
  | .up bus =>
    (s.claim bus.group).bus = some bus ∧ (s.claim bus.group).owner = owner ∧
      (s.claim bus.group).isOpen = false ∧ s.Down bus.group
  | .publish bus =>
    (s.claim bus.group).bus = some bus ∧ (s.claim bus.group).owner = owner ∧
      w.opened bus = some owner
  | .clear r _ =>
    (s.claim r).bus ≠ none ∧ (s.claim r).owner = owner ∧ (s.claim r).isOpen = false ∧
      s.Down r ∧ w.stuck r = none
  | .reserve _ | .setOnly _ _ | .keep _ _ _ =>
    (s.claim .kline).bus = some .kline ∧ (s.claim .kline).owner = owner ∧
      (s.claim .kline).isOpen = true
  | .idle | .release _ _ _ | .unpin _ _ | .rearm _ => True

/-- What the claim of a group says of its drivers. -/
structure GroupInv (s : State) (w : Watch) (r : Res) : Prop where
  grouped : ∀ bus, (s.claim r).bus = some bus → bus.group = r
  claimed : ∀ bus : Bus, bus.group = r → s.up bus = true → (s.claim r).bus = some bus
  truthful : (s.claim r).isOpen = true →
    ∃ bus, (s.claim r).bus = some bus ∧ w.opened bus = some (s.claim r).owner
  kept : ∀ owner, w.stuck r = some owner →
    (s.claim r).bus ≠ none ∧ (s.claim r).owner = owner

structure Inv (s : State) (w : Watch) : Prop where
  bound : ∀ t, (s.frame t).pc ≠ .idle →
    t = .task (s.frame t).owner ∧ s.task (s.frame t).owner = true
  holds : ∀ t, Holds s w (s.frame t).owner (s.frame t).pc
  group : ∀ r, GroupInv s w r

/-- At the start nothing is claimed. -/
theorem Inv.initial : Inv {} {} where
  bound _ busy := absurd rfl busy
  holds _ := trivial
  group _ := {
    grouped := by intro bus here; cases here
    claimed := by intro bus _ up; cases up
    truthful := by intro isOpen; cases isOpen
    kept := by intro owner stuck; cases stuck }

section Steps

variable {s s' : State} {w w' : Watch} {t : Thread} {r : Res} {owner : Owner} {pc : Pc}

/-- Who works on a group holds its claim. -/
theorem Holds.owns (holds : Holds s w owner pc) (here : pc.group = some r) :
    (s.claim r).bus ≠ none ∧ (s.claim r).owner = owner := by
  cases pc <;> simp only [Pc.group, Option.some.injEq, reduceCtorEq] at here <;> subst here <;>
    simp only [Holds] at holds <;> grind

/-- A thread that holds a group, or finds it free, works on it alone. -/
theorem Inv.alone (inv : Inv s w) (mine : t = .task owner)
    (held : (s.claim r).bus ≠ none → (s.claim r).owner = owner) :
    ∀ t', t' ≠ t → (s.frame t').pc.group ≠ some r := by
  intro t' other here
  obtain ⟨claimed, owns⟩ := (inv.holds t').owns here
  have busy : (s.frame t').pc ≠ .idle := by
    intro idle
    rw [idle] at here
    cases here
  refine other ((inv.bound t' busy).1.trans ?_)
  rw [mine, ← owns, held claimed]

/-- Nothing is changed outside a group. -/
structure SameOutside (s : State) (w : Watch) (s' : State) (w' : Watch) (r : Res) : Prop where
  claim : ∀ q, q ≠ r → s'.claim q = s.claim q
  stuck : ∀ q, q ≠ r → w'.stuck q = w.stuck q
  up : ∀ bus : Bus, bus.group ≠ r → s'.up bus = s.up bus
  opened : ∀ bus : Bus, bus.group ≠ r → w'.opened bus = w.opened bus

/-- A call still holds what it held after a turn of another group. -/
theorem Holds.outside (holds : Holds s w owner pc) (outside : SameOutside s w s' w' r)
    (elsewhere : pc.group ≠ some r) : Holds s' w' owner pc := by
  obtain ⟨claim, stuck, up, opened⟩ := outside
  cases pc <;> simp only [Pc.group, ne_eq, Option.some.injEq] at elsewhere <;>
    simp only [Holds, State.Down] at holds ⊢ <;> grind

/-- A group that a turn does not touch stays as it was. -/
theorem GroupInv.outside {q : Res} (inv : GroupInv s w q) (outside : SameOutside s w s' w' r)
    (elsewhere : q ≠ r) : GroupInv s' w' q where
  grouped := by
    rw [outside.claim q elsewhere]
    exact inv.grouped
  claimed bus here := by
    rw [outside.claim q elsewhere, outside.up bus (here ▸ elsewhere)]
    exact inv.claimed bus here
  truthful := by
    rw [outside.claim q elsewhere]
    intro isOpen
    obtain ⟨bus, here, opened⟩ := inv.truthful isOpen
    refine ⟨bus, here, ?_⟩
    rw [outside.opened bus (inv.grouped bus here ▸ elsewhere), opened]
  kept := by
    rw [outside.claim q elsewhere, outside.stuck q elsewhere]
    exact inv.kept

/-- A thread works on a group alone; what it leaves of the group and of itself is all that has to
be looked at. -/
theorem Inv.next (inv : Inv s w) (outside : SameOutside s w s' w' r)
    (others : ∀ t', t' ≠ t → s'.frame t' = s.frame t') (task : s'.task = s.task)
    (alone : ∀ t', t' ≠ t → (s.frame t').pc.group ≠ some r)
    (bound : (s'.frame t).pc ≠ .idle →
      t = .task (s'.frame t).owner ∧ s.task (s'.frame t).owner = true)
    (holds : Holds s' w' (s'.frame t).owner (s'.frame t).pc)
    (group : GroupInv s' w' r) : Inv s' w' where
  bound t' := by
    by_cases same : t' = t
    · subst same
      rw [task]
      exact bound
    · rw [others t' same, task]
      exact inv.bound t'
  holds t' := by
    by_cases same : t' = t
    · subst same
      exact holds
    · rw [others t' same]
      exact (inv.holds t').outside outside (alone t' same)
  group q := by
    by_cases same : q = r
    · subst same
      exact group
    · exact (inv.group q).outside outside same

/-- The next operation of a thread that works on a group. -/
theorem Inv.move (inv : Inv s w) (here : (s.frame t).pc.group = some r)
    (outside : SameOutside s w s' w' r)
    (frame : s'.frame = Function.update s.frame t ⟨(s.frame t).owner, pc⟩)
    (task : s'.task = s.task) (holds : Holds s' w' (s.frame t).owner pc)
    (group : GroupInv s' w' r) : Inv s' w' := by
  have busy : (s.frame t).pc ≠ .idle := by
    intro idle
    rw [idle] at here
    cases here
  obtain ⟨mine, bound⟩ := inv.bound t busy
  obtain ⟨_, owns⟩ := (inv.holds t).owns here
  refine inv.next outside ?_ task (inv.alone mine fun _ => owns) ?_ ?_ group
  · intro t' other
    rw [frame, Function.update_of_ne other]
  · intro _
    rw [frame, Function.update_self]
    exact ⟨mine, bound⟩
  · rw [frame, Function.update_self]
    exact holds

/-- A step that leaves claims and drivers alone. -/
theorem Inv.stay (inv : Inv s w) (claim : s'.claim = s.claim) (up : s'.up = s.up)
    (task : ∀ owner, s.task owner = true → s'.task owner = true)
    (others : ∀ t', t' ≠ t → s'.frame t' = s.frame t')
    (bound : (s'.frame t).pc ≠ .idle →
      t = .task (s'.frame t).owner ∧ s'.task (s'.frame t).owner = true)
    (holds : Holds s w (s'.frame t).owner (s'.frame t).pc) : Inv s' w where
  bound t' busy := by
    by_cases same : t' = t
    · subst same
      exact bound busy
    · rw [others t' same] at busy ⊢
      exact ⟨(inv.bound t' busy).1, task _ (inv.bound t' busy).2⟩
  holds t' := by
    have same : Holds s w (s'.frame t').owner (s'.frame t').pc := by
      by_cases same : t' = t
      · subst same
        exact holds
      · rw [others t' same]
        exact inv.holds t'
    unfold Holds State.Down at same ⊢
    rw [claim, up]
    exact same
  group r := by
    obtain ⟨grouped, claimed, truthful, kept⟩ := inv.group r
    constructor <;> rw [claim]
    · exact grouped
    · rw [up]
      exact claimed
    · exact truthful
    · exact kept

end Steps

/-! ## One turn of a thread -/

section Turns

variable {s : State} {w : Watch} {t : Thread}

/-- The call goes on without the group, or returns. -/
theorem State.downFailed_eq (s : State) (t : Thread) (owner : Owner) (resume : Resume) :
    ∃ pc events, s.downFailed t owner resume = (s.goto t owner pc, events) ∧
      (∀ s w, Holds s w owner pc) ∧ ∀ w, events.foldl Watch.see w = w := by
  cases resume <;> exact ⟨_, _, rfl, fun _ _ => trivial, fun _ => rfl⟩

/-- `bus_tx_worker_close` is called under the claim of its bus. -/
theorem Inv.workerTurn (inv : Inv s w) {bus : Bus} {resume : Resume}
    (here : (s.frame t).pc = .worker bus resume) (g : Grant) :
    Inv (s.turn t g).1 ((s.turn t g).2.foldl Watch.see w) := by
  have mine : (s.frame t).pc.group = some bus.group := by rw [here]; rfl
  have holds := inv.holds t
  obtain ⟨grouped, up, truthful, kept⟩ := inv.group bus.group
  rw [here] at holds
  obtain ⟨claimed, owns, shut, fits⟩ := holds
  simp only [State.turn, here]
  split
  · obtain ⟨pc, events, failed, free, silent⟩ :=
      s.downFailed_eq t (s.frame t).owner resume
    rw [failed]
    simp only [List.foldl_cons, silent]
    refine inv.move mine ?_ rfl rfl (free _ _) ?_
    · constructor <;> intro x other <;> simp [Watch.see, other]
    · constructor <;> simp [Watch.see] <;> grind
  · refine inv.move mine ?_ rfl rfl ?_ ?_
    · constructor <;> intro x other <;> simp [Watch.see, other]
    · simp only [Holds, State.goto_claim, State.setClaim_claim, Function.update_self]
      exact ⟨claimed, owns, shut, fits⟩
    · constructor <;> simp [Watch.see] <;> grind

/-- No other driver of a claimed group is up. -/
theorem GroupInv.down {bus : Bus} (inv : GroupInv s w bus.group)
    (claimed : (s.claim bus.group).bus = some bus) :
    ∀ other : Bus, other.group = bus.group → other ≠ bus → s.up other = false := by
  intro other same differs
  by_contra up
  have names := inv.claimed other same (by simpa using up)
  rw [claimed, Option.some.injEq] at names
  exact differs names.symm

/-- `ops->close` is called under the claim of its bus. -/
theorem Inv.driverTurn (inv : Inv s w) {bus : Bus} {resume : Resume}
    (here : (s.frame t).pc = .driver bus resume) (g : Grant) :
    Inv (s.turn t g).1 ((s.turn t g).2.foldl Watch.see w) := by
  have mine : (s.frame t).pc.group = some bus.group := by rw [here]; rfl
  have holds := inv.holds t
  have down := (inv.group bus.group).down
  obtain ⟨grouped, up, truthful, kept⟩ := inv.group bus.group
  rw [here] at holds
  obtain ⟨claimed, owns, shut, fits⟩ := holds
  replace down := down claimed
  have held : (s.claim bus.group).bus ≠ none := by simp [claimed]
  simp only [State.turn, here]
  generalize s.driverCall bus g Kline.close = answer
  split
  · rename_i ok
    have silent : (answer.events (s.frame t).owner ++
        [Event.driverClosed t (s.frame t).owner bus answer.ok]).foldl Watch.see w =
          w.see (.driverClosed t (s.frame t).owner bus true) := by
      simp [ok]
    rw [silent, ok]
    have quiet : ∀ other : Bus, other.group = bus.group →
        Function.update s.up bus false other = false := by
      intro other same
      by_cases it : other = bus
      · subst it; simp
      · rw [Function.update_of_ne it]
        exact down other same it
    have group : GroupInv (s.afterDriver bus answer false)
        (w.see (.driverClosed t (s.frame t).owner bus true)) bus.group := by
      constructor <;> simp [Watch.see] <;> grind
    have outside : SameOutside s w (s.afterDriver bus answer false)
        (w.see (.driverClosed t (s.frame t).owner bus true)) bus.group := by
      constructor <;> intro x other <;> simp [Watch.see, other]
      · exact Function.update_of_ne (by rintro rfl; exact other rfl) ..
      · exact Function.update_of_ne (by rintro rfl; exact other rfl) ..
    cases resume with
    | reopen next bitrate =>
        have fits : next.group = bus.group := fits
        refine inv.move mine ⟨outside.1, outside.2, outside.3, outside.4⟩ rfl rfl ?_
          ⟨group.1, group.2, group.3, group.4⟩
        show (s.claim next.group).bus ≠ none ∧ (s.claim next.group).owner = _ ∧ _ ∧ _
        rw [fits]
        exact ⟨held, owns, shut, quiet⟩
    | abandon | close | release _ _ _ =>
        exact inv.move mine ⟨outside.1, outside.2, outside.3, outside.4⟩ rfl rfl
          ⟨held, owns, shut, quiet, by simp [Watch.see]⟩ ⟨group.1, group.2, group.3, group.4⟩
  · rename_i failing
    obtain ⟨pc, events, failed, free, silent⟩ :=
      (s.afterDriver bus answer (!answer.ok && g.leftUp)).downFailed_eq t (s.frame t).owner resume
    rw [failed]
    simp only [List.foldl_append, foldl_see_events, List.foldl_cons, List.foldl_nil, silent]
    refine inv.move mine ?_ rfl rfl (free _ _) ?_
    · constructor <;> intro x other <;> simp [Watch.see, other]
      · exact Function.update_of_ne (by rintro rfl; exact other rfl) ..
      · exact Function.update_of_ne (by rintro rfl; exact other rfl) ..
    · constructor <;> simp [Watch.see, failing] <;> grind

/-- A claim is taken in the second critical section, while its group is held. -/
theorem Inv.installTurn (inv : Inv s w) {bus : Bus} {bitrate : Nat}
    (here : (s.frame t).pc = .install bus bitrate) (g : Grant) :
    Inv (s.turn t g).1 ((s.turn t g).2.foldl Watch.see w) := by
  have mine : (s.frame t).pc.group = some bus.group := by rw [here]; rfl
  have holds := inv.holds t
  obtain ⟨grouped, up, truthful, kept⟩ := inv.group bus.group
  rw [here] at holds
  obtain ⟨claimed, owns, shut, down⟩ := holds
  simp only [State.turn, here]
  refine inv.move mine ?_ rfl rfl ?_ ?_
  · constructor <;> intro x other <;> simp [other]
  · simp only [Holds, State.goto_claim, State.setClaim_claim, Function.update_self]
    exact ⟨trivial, trivial, shut, down⟩
  · constructor <;> simp <;> grind [State.Down]

/-- `ops->open` is called under the claim of its bus. -/
theorem Inv.upTurn (inv : Inv s w) {bus : Bus} (here : (s.frame t).pc = .up bus) (g : Grant) :
    Inv (s.turn t g).1 ((s.turn t g).2.foldl Watch.see w) := by
  have mine : (s.frame t).pc.group = some bus.group := by rw [here]; rfl
  have holds := inv.holds t
  obtain ⟨grouped, up, truthful, kept⟩ := inv.group bus.group
  rw [here] at holds
  obtain ⟨claimed, owns, shut, down⟩ := holds
  simp only [State.turn, here]
  generalize s.driverCall bus g Kline.open = answer
  simp only [List.foldl_append, foldl_see_events, List.foldl_cons, List.foldl_nil]
  refine inv.move mine ?_ rfl rfl ?_ ?_
  · constructor <;> intro x other <;> simp [Watch.see]
    · exact Function.update_of_ne (by rintro rfl; exact other rfl) ..
    · exact Function.update_of_ne (by rintro rfl; exact other rfl) ..
  · cases ok : answer.ok with
    | true => exact ⟨claimed, owns, by simp [Watch.see]⟩
    | false => exact ⟨claimed, owns, shut, trivial⟩
  · constructor <;> simp [Watch.see] <;> grind [State.Down]

/-- A claim is opened once its driver is up. -/
theorem Inv.publishTurn (inv : Inv s w) {bus : Bus} (here : (s.frame t).pc = .publish bus)
    (g : Grant) : Inv (s.turn t g).1 ((s.turn t g).2.foldl Watch.see w) := by
  have mine : (s.frame t).pc.group = some bus.group := by rw [here]; rfl
  have holds := inv.holds t
  obtain ⟨grouped, up, truthful, kept⟩ := inv.group bus.group
  rw [here] at holds
  obtain ⟨claimed, owns, opened⟩ := holds
  simp only [State.turn, here]
  refine inv.move mine ?_ rfl rfl trivial ?_
  · constructor <;> intro x other <;> simp [Watch.see, other]
  · constructor <;> simp [Watch.see] <;> grind

/-- A claim is cleared once its driver is down. -/
theorem Inv.clearTurn (inv : Inv s w) {r : Res} {resume : Resume}
    (here : (s.frame t).pc = .clear r resume) (g : Grant) :
    Inv (s.turn t g).1 ((s.turn t g).2.foldl Watch.see w) := by
  have mine : (s.frame t).pc.group = some r := by rw [here]; rfl
  have holds := inv.holds t
  obtain ⟨grouped, up, truthful, kept⟩ := inv.group r
  rw [here] at holds
  obtain ⟨claimed, owns, shut, down, unstuck⟩ := holds
  simp only [State.turn, here]
  cases resume
  all_goals
    refine inv.move mine ?_ rfl rfl trivial ?_
    · constructor <;> intro x other <;> simp [Watch.see, other]
    · constructor <;> simp [Watch.see, unstuck]
      exact down

/-- The claims of an owner are shut one after another. -/
theorem Inv.releaseTurn (inv : Inv s w) {rest : List Res} {failed : Bool}
    {service : Option Bool} (here : (s.frame t).pc = .release rest failed service) (g : Grant) :
    Inv (s.turn t g).1 ((s.turn t g).2.foldl Watch.see w) := by
  have bound := inv.bound t (by rw [here]; exact Pc.noConfusion)
  have stay : ∀ pc, Holds s w (s.frame t).owner pc → Inv (s.goto t (s.frame t).owner pc) w := by
    intro pc free
    refine inv.stay (t := t) rfl rfl (fun _ same => same) ?_ ?_ ?_
    · exact fun t' other => Function.update_of_ne other ..
    · simpa using fun _ => bound
    · simpa using free
  simp only [State.turn, here]
  match rest, service with
  | [], none => exact stay _ trivial
  | [], some _ => exact stay _ trivial
  | r :: rest, service =>
      simp only
      cases claimed : (s.claim r).bus with
      | none => exact stay _ trivial
      | some held =>
          simp only
          split
          · exact stay _ trivial
          · rename_i owns
            rw [not_not] at owns
            obtain ⟨grouped, up, truthful, kept⟩ := inv.group r
            have same := grouped held claimed
            subst same
            refine inv.next (t := t) (r := held.group) ?_ ?_ rfl
              (inv.alone bound.1 fun _ => owns) ?_ ?_ ?_
            · constructor <;> intro x other <;> simp [other]
            · exact fun t' other => Function.update_of_ne other ..
            · simpa using bound
            · simp [Holds, owns, Resume.Fits]
            · constructor <;> simp <;> grind

/-- A turn that leaves claims and drivers as they are, up to the L-line. -/
theorem Inv.klineTurn (inv : Inv s w) {s' : State} {pc : Pc} {reserved : Bool}
    (here : (s.frame t).pc.group = some .kline)
    (claim : s'.claim = Function.update s.claim .kline
      { s.claim .kline with lLineReserved := reserved })
    (up : s'.up = s.up) (task : s'.task = s.task)
    (frame : s'.frame = Function.update s.frame t ⟨(s.frame t).owner, pc⟩)
    (holds : Holds s' w (s.frame t).owner pc) : Inv s' w := by
  obtain ⟨grouped, claimed, truthful, kept⟩ := inv.group .kline
  refine inv.move here ?_ frame task holds ?_
  · constructor <;> intro x other <;> simp [claim, up, other]
  · constructor <;> rw [claim] <;> simp only [Function.update_self, up]
    · exact grouped
    · exact claimed
    · exact truthful
    · exact kept

/-- Every turn keeps the claims truthful, case by case. -/
theorem Inv.turn (inv : Inv s w) (t : Thread) (g : Grant) :
    Inv (s.turn t g).1 ((s.turn t g).2.foldl Watch.see w) := by
  have holds := inv.holds t
  have bound := inv.bound t
  cases here : (s.frame t).pc with
  | idle =>
      simp only [State.turn, here]
      exact inv
  | worker bus resume => exact inv.workerTurn here g
  | driver bus resume => exact inv.driverTurn here g
  | install bus bitrate => exact inv.installTurn here g
  | up bus => exact inv.upTurn here g
  | publish bus => exact inv.publishTurn here g
  | clear r resume => exact inv.clearTurn here g
  | release rest failed service => exact inv.releaseTurn here g
  | unpin failed recover =>
      rw [here] at bound
      simp only [State.turn, here, foldl_see_pin]
      refine inv.stay (t := t) rfl rfl (fun _ same => same) ?_ ?_ ?_
      · exact fun t' other => Function.update_of_ne other ..
      · simpa using fun _ => bound Pc.noConfusion
      · cases failed <;> simp [Holds]
  | rearm recover =>
      simp only [State.turn, here]
      refine inv.stay (t := t) rfl rfl (fun _ same => same) ?_ ?_ ?_
      · exact fun t' other => Function.update_of_ne other ..
      · simp
      · simp [Holds]
  | reserve value =>
      have mine : (s.frame t).pc.group = some .kline := by rw [here]; rfl
      rw [here] at holds bound
      simp only [State.turn, here]
      have back : ∀ err, Inv (s.goto t (s.frame t).owner .idle)
          ([Event.returned t (s.frame t).owner err].foldl Watch.see w) := by
        intro err
        refine inv.stay (t := t) rfl rfl (fun _ same => same) ?_ ?_ ?_
        · exact fun t' other => Function.update_of_ne other ..
        · simp
        · simp [Holds]
      split
      · exact back _
      · split
        · exact back _
        · refine inv.klineTurn mine rfl rfl rfl rfl ?_
          simpa [Holds] using holds
  | setOnly value wasReserved =>
      have mine : (s.frame t).pc.group = some .kline := by rw [here]; rfl
      rw [here] at holds
      simp only [State.turn, here, foldl_see_events]
      exact inv.klineTurn mine (Function.update_eq_self ..).symm (Function.update_eq_self ..) rfl
        rfl holds
  | keep value wasReserved ok =>
      have mine : (s.frame t).pc.group = some .kline := by rw [here]; rfl
      simp only [State.turn, here]
      exact inv.klineTurn mine rfl rfl rfl rfl trivial

end Turns

/-! ## Steps of the system -/

section Steps

variable {s s' : State} {w : Watch} {t : Thread}

/-- What does not touch a claim, a bus or a call keeps them truthful. -/
theorem Inv.same (inv : Inv s w) (claim : s'.claim = s.claim) (up : s'.up = s.up)
    (frame : s'.frame = s.frame) (task : ∀ owner, s.task owner = true → s'.task owner = true) :
    Inv s' w := by
  refine inv.stay (t := .other) claim up task (fun t' _ => by rw [frame]) ?_ ?_
  · rw [frame]
    exact fun busy => ⟨(inv.bound .other busy).1, task _ (inv.bound .other busy).2⟩
  · rw [frame]
    exact inv.holds .other

/-- A call of an owner is made by its own task. -/
theorem State.onOwnerThread_iff {owner : Owner} :
    s.onOwnerThread t owner = true ↔ t = .task owner ∧ s.task owner = true := by
  simp [State.onOwnerThread, and_comm]

/-- `vif_bus_open` holds a group from its first critical section on. -/
theorem Inv.beginOpen (inv : Inv s w) {owner : Owner} {bus : Bus} {bitrate : Nat} :
    Inv (s.beginOpen t owner bus bitrate).1
      ((s.beginOpen t owner bus bitrate).2.foldl Watch.see w) := by
  obtain ⟨grouped, claimed, truthful, kept⟩ := inv.group bus.group
  unfold State.beginOpen
  simp only
  split
  · exact inv
  · rename_i here
    have bound := State.onOwnerThread_iff.1 (by simpa using here)
    split
    · exact inv
    · rename_i free
      have owns : (s.claim bus.group).bus ≠ none → (s.claim bus.group).owner = owner := by
        simpa using free
      cases old : (s.claim bus.group).bus with
      | none =>
          refine inv.next (t := t) (r := bus.group) ?_ ?_ rfl (inv.alone bound.1 owns) ?_ ?_ ?_
          · constructor <;> intro x other <;> simp [other]
          · exact fun t' other => Function.update_of_ne other ..
          · simpa using bound
          · simp only [State.goto_frame, Function.update_self, Holds, State.Down]
            simp
            grind
          · constructor <;> simp <;> grind
      | some held =>
          have same := grouped held old
          refine inv.next (t := t) (r := bus.group) ?_ ?_ rfl (inv.alone bound.1 owns) ?_ ?_ ?_
          · constructor <;> intro x other <;> simp [other]
          · exact fun t' other => Function.update_of_ne other ..
          · simpa using bound
          · simp [Holds, same, old, owns, Resume.Fits]
          · constructor <;> simp <;> grind

/-- So does `vif_bus_close`. -/
theorem Inv.beginClose (inv : Inv s w) {owner : Owner} {bus : Bus} :
    Inv (s.beginClose t owner bus).1 ((s.beginClose t owner bus).2.foldl Watch.see w) := by
  obtain ⟨grouped, claimed, truthful, kept⟩ := inv.group bus.group
  unfold State.beginClose
  simp only
  split
  · exact inv
  · rename_i here
    have bound := State.onOwnerThread_iff.1 (by simpa using here)
    cases old : (s.claim bus.group).bus with
    | none => exact inv
    | some held =>
        simp only
        split
        · exact inv
        · rename_i owns
          rw [not_not] at owns
          have same := grouped held old
          refine inv.next (t := t) (r := bus.group) ?_ ?_ rfl
            (inv.alone bound.1 fun _ => owns) ?_ ?_ ?_
          · constructor <;> intro x other <;> simp [other]
          · exact fun t' other => Function.update_of_ne other ..
          · simpa using bound
          · simp [Holds, same, owns, Resume.Fits]
          · constructor <;> simp <;> grind

/-- A call that takes nothing at first. -/
theorem Inv.enter (inv : Inv s w) {owner : Owner} {pc : Pc} (claim : s'.claim = s.claim)
    (up : s'.up = s.up) (task : s'.task = s.task)
    (frame : s'.frame = Function.update s.frame t ⟨owner, pc⟩)
    (here : s.onOwnerThread t owner = true) (holds : Holds s w owner pc) : Inv s' w := by
  refine inv.stay (t := t) claim up (by rw [task]; exact fun _ same => same) ?_ ?_ ?_
  · exact fun t' other => by rw [frame, Function.update_of_ne other]
  · rw [frame, task, Function.update_self]
    exact fun _ => State.onOwnerThread_iff.1 here
  · rw [frame, Function.update_self]
    exact holds

/-- Every call begins with the claims truthful. -/
theorem Inv.begin (inv : Inv s w) (t : Thread) (made : Call) :
    Inv (s.begin t made).1 ((s.begin t made).2.foldl Watch.see w) := by
  cases made with
  | «open» owner bus bitrate =>
      cases bus with
      | none => exact inv
      | some bus => exact inv.beginOpen
  | close owner bus =>
      cases bus with
      | none => exact inv
      | some bus => exact inv.beginClose
  | releaseAll owner =>
      simp only [State.begin]
      split
      · exact inv.same rfl rfl rfl fun _ same => same
      · rename_i here
        exact inv.enter rfl rfl rfl rfl (by simpa using here) trivial
  | service owner =>
      simp only [State.begin, State.beginService]
      split
      · exact inv
      · rename_i here
        split
        · exact inv
        · exact inv.enter rfl rfl rfl rfl (by simpa using here) trivial
  | setOnly owner value =>
      simp only [State.begin]
      split
      · rename_i here
        exact inv.enter rfl rfl rfl rfl here.1 here.2
      · exact inv

/-- Every input keeps the claims truthful. -/
theorem Inv.step (inv : Inv s w) (hwLsObd9 : Bool) (input : Input) :
    Inv (s.step hwLsObd9 input).1 ((s.step hwLsObd9 input).2.foldl Watch.see w) := by
  cases input with
  | bind owner =>
      refine inv.same rfl rfl rfl ?_
      intro other bound
      by_cases same : other = owner
      · subst same; exact Function.update_self ..
      · exact (Function.update_of_ne same ..).trans bound
  | call t made =>
      simp only [State.step]
      split
      · exact inv.begin t made
      · exact inv
  | turn t g => exact inv.turn t g
  | submit owner bus =>
      simp only [State.step]
      split
      · rename_i here
        obtain ⟨free, bound, claims, owns, isOpen⟩ := here
        obtain ⟨grouped, claimed, truthful, kept⟩ := inv.group bus.group
        have idle : (s.frame (.task owner)).pc = .idle := by
          simp only [State.free, Bool.and_eq_true, decide_eq_true_eq] at free
          exact free.1
        refine inv.next (t := .task owner) (r := bus.group) ?_ (fun _ _ => rfl) rfl
          (inv.alone rfl fun _ => owns) ?_ ?_ ?_
        · constructor <;> intro x other <;> simp [other]
        · exact fun busy => absurd idle busy
        · simp [Holds, idle]
        · constructor <;> simp <;> grind
      · exact inv
  | recoverAll => exact inv.same rfl rfl rfl fun _ same => same
  | pinSet owner obdPin m mv =>
      simp only [State.step]
      split
      · rw [List.foldl_append, foldl_see_pin]
        exact inv.same rfl rfl rfl fun _ same => same
      · exact inv
  | pinReleaseAll t owner =>
      simp only [State.step]
      split
      · rw [List.foldl_append, foldl_see_pin]
        exact inv.same rfl rfl rfl fun _ same => same
      · exact inv
  | calibrate owner =>
      simp only [State.step]
      split
      · split
        · rw [foldl_see_pin]
          exact inv.same rfl rfl rfl fun _ same => same
        · rw [List.foldl_append, foldl_see_pin]
          exact inv.same rfl rfl rfl fun _ same => same
      · exact inv
  | calibrateTurn =>
      simp only [State.step]
      split
      · exact inv
      · split
        · rw [foldl_see_pin]
          exact inv.same rfl rfl rfl fun _ same => same
        · exact inv

end Steps

/-! ## Every run -/

section Runs

variable {s : State} {w : Watch}

/-- A driver is touched at two places of a call. -/
theorem State.turn_driver {t t' : Thread} {g : Grant} {owner : Owner} {bus : Bus} {event : Event}
    (happens : event ∈ (s.turn t g).2) (driver : event.Driver t' owner bus) :
    t' = t ∧ owner = (s.frame t).owner ∧ (s.frame t).pc.group = some bus.group := by
  have pins : ∀ c : KlineCall, ∀ o, event ∈ c.events o → False := by
    intro c o here
    unfold KlineCall.events at here
    split at here <;> simp_all [Event.Driver]
  have failing : ∀ (s : State) o resume, event ∈ (s.downFailed t o resume).2 → False := by
    intro s o resume here
    cases resume <;> simp_all [State.downFailed, Event.Driver]
  cases here : (s.frame t).pc <;> simp only [State.turn, here] at happens
  case driver b resume =>
      split at happens <;> simp only [List.mem_append, List.mem_singleton] at happens <;>
        grind [Event.Driver, Pc.group]
  case up b =>
      simp only [List.mem_append, List.mem_singleton] at happens
      grind [Event.Driver, Pc.group]
  case release rest failed service =>
      grind [Event.Driver]
  all_goals grind [Event.Driver]

/-- No call begins with a call of a driver. -/
theorem State.begin_driver {t t' : Thread} {made : Call} {owner : Owner} {bus : Bus}
    {event : Event} (happens : event ∈ (s.begin t made).2) : ¬ event.Driver t' owner bus := by
  have returned : ∀ o err, event ∈ [Event.returned t o err] → ¬ event.Driver t' owner bus := by
    rintro o err here
    rw [List.mem_singleton.1 here]
    exact id
  cases made with
  | «open» o b bitrate =>
      cases b <;> grind [State.begin, State.beginOpen]
  | close o b =>
      cases b <;> grind [State.begin, State.beginClose]
  | releaseAll o => grind [State.begin]
  | service o => grind [State.begin, State.beginService]
  | setOnly o value => grind [State.begin]

/-- A driver is called by the call that holds its group. -/
theorem State.step_driver {hwLsObd9 : Bool} {input : Input} {t : Thread} {owner : Owner}
    {bus : Bus} {event : Event} (happens : event ∈ (s.step hwLsObd9 input).2)
    (driver : event.Driver t owner bus) :
    owner = (s.frame t).owner ∧ (s.frame t).pc.group = some bus.group := by
  have pins : ∀ events : List PinEvent, event ∉ events.map Event.pin := by
    intro events here
    obtain ⟨_, _, rfl⟩ := List.mem_map.1 here
    exact driver
  cases input with
  | turn t' g =>
      obtain ⟨rfl, here⟩ := State.turn_driver happens driver
      exact here
  | call t' made =>
      simp only [State.step] at happens
      split at happens
      · exact absurd driver (State.begin_driver happens)
      · cases happens
  | bind _ | submit _ _ | recoverAll | pinSet _ _ _ _ | pinReleaseAll _ _ | calibrate _
  | calibrateTurn => grind [State.step, Event.Driver]

/-- What the claims say of the drivers and promise to their owners. -/
structure ClaimsTruthful (hwLsObd9 : Bool) (s : State) (w : Watch) : Prop where
  exclusive : ∀ b c : Bus, s.up b = true → s.up c = true → b.group = c.group → b = c
  truthful : ∀ r, (s.claim r).isOpen = true →
    ∃ bus, (s.claim r).bus = some bus ∧ w.opened bus = some (s.claim r).owner
  /-- The group of a bus is closed to the owner that does not hold it. -/
  refused : ∀ t owner (bus : Bus) bitrate, (s.claim bus.group).bus ≠ none →
    (s.claim bus.group).owner ≠ owner →
      ∀ made ∈ [Call.open owner (some bus) bitrate, Call.close owner (some bus)],
        s.canCall t made = true →
          s.step hwLsObd9 (.call t made) = (s, [.returned t owner .invalidState])
  kept : ∀ r owner, w.stuck r = some owner →
    (s.claim r).bus ≠ none ∧ (s.claim r).owner = owner
  /-- A driver is touched by the task of the owner that holds its group. -/
  held : ∀ input t owner bus, ∀ event ∈ (s.step hwLsObd9 input).2, event.Driver t owner bus →
    t = .task owner ∧ s.task owner = true ∧ (s.claim bus.group).bus ≠ none ∧
      (s.claim bus.group).owner = owner

/-- Claims that are kept so are truthful. -/
theorem Inv.truthful (inv : Inv s w) (hwLsObd9 : Bool) : ClaimsTruthful hwLsObd9 s w where
  exclusive b c upB upC same := by
    have namesB := (inv.group b.group).claimed b rfl upB
    have namesC := (inv.group b.group).claimed c same.symm upC
    rw [namesB, Option.some.injEq] at namesC
    exact namesC
  truthful r := (inv.group r).truthful
  refused t owner bus bitrate held other made here can := by
    simp only [List.mem_cons, List.not_mem_nil, or_false] at here
    rcases here with rfl | rfl
    · have taken : (s.claim bus.group).bus ≠ none ∧ (s.claim bus.group).owner ≠ owner :=
        ⟨held, other⟩
      simp only [State.step, can, if_true, State.begin, State.beginOpen, if_pos taken]
      split <;> rfl
    · simp only [State.step, can, if_true, State.begin, State.beginClose]
      split
      · rfl
      · cases names : (s.claim bus.group).bus with
        | none => exact absurd names held
        | some old => rfl
  kept r := (inv.group r).kept
  held input t owner bus event happens driver := by
    obtain ⟨rfl, here⟩ := State.step_driver happens driver
    have busy : (s.frame t).pc ≠ .idle := by
      intro idle
      rw [idle] at here
      cases here
    obtain ⟨claimed, owns⟩ := (inv.holds t).owns here
    exact ⟨(inv.bound t busy).1, (inv.bound t busy).2, claimed, owns⟩

/-- Bus claims are exclusive and truthful in every run. -/
theorem claims_truthful (hwLsObd9 : Bool) (inputs : List Input) :
    ClaimsTruthful hwLsObd9 (run (logged (State.step hwLsObd9)) ({}, []) inputs).1
      ((run (logged (State.step hwLsObd9)) ({}, []) inputs).2.foldl Watch.see {}) := by
  have preserved : ∀ (s : State × List Event) input, Inv s.1 (s.2.foldl Watch.see {}) →
      Inv (logged (State.step hwLsObd9) s input).1
        ((logged (State.step hwLsObd9) s input).2.foldl Watch.see {}) := by
    rintro ⟨s, log⟩ input inv
    simp only [logged, List.foldl_append]
    exact inv.step hwLsObd9 input
  exact (run_invariant _ preserved Inv.initial inputs).truthful hwLsObd9

/-- A release that another task asks for is carried out by the owner's own, in its service pass. -/
example :
    let opening : List Input := [.bind .link, .call (.task .link) (.open .link (some .can) 500000),
      .turn (.task .link) {}, .turn (.task .link) {}, .turn (.task .link) {}]
    let asked := run (logged (State.step false)) ({}, []) (opening ++ [
      .call .other (.releaseAll .link)])
    let served := run (logged (State.step false)) asked ([
      .call (.task .link) (.service .link), .turn (.task .link) {}, .turn (.task .link) {},
      .turn (.task .link) {}, .turn (.task .link) {}])
    (asked.1.claim .can).isOpen = true ∧ asked.1.up .can = true ∧ asked.1.releaseReq .link = true ∧
      served.1.claim .can = {} ∧ served.1.up .can = false := by
  decide +kernel

end Runs

end OpenDiag.Vif
