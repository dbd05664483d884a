import OpenDiag.Lib.Monitor
import OpenDiag.Vif.Frontend

/-!
# Front-end switches

What an observer of the link sees: a front-end is started where none is installed, and stopped where
it is; and what becomes of a switch that is refused.
-/

namespace OpenDiag.Vif

variable {F : Type*}

/-- What the events say of the link. -/
structure LinkWatch (F : Type*) where
  installed : Option F := none
  /-- What the last request names. -/
  requested : Option F
  /-- The front-end that was tried last of those asked for. -/
  tried : Option F := none
  /-- The last switch was put off, and nothing was asked for since. -/
  retry : Bool := false
  /-- What was installed when the switch was first attempted. -/
  owed : Option F := none
  /-- Those that have refused to start in this attempt. -/
  refusals : List F := []

def LinkWatch.see (w : LinkWatch F) : LinkEvent F → LinkWatch F
  | .asked fe => { w with requested := fe, retry := false }
  | .attempt _ =>
    { w with owed := if w.retry then w.owed else w.installed, retry := false, refusals := [] }
  | .queued => { w with retry := true }
  | .stop _ => { w with installed := none }
  | .start fe asked accepted _ =>
    { w with
      installed := if accepted then some fe else w.installed
      tried := if asked then some fe else w.tried
      refusals := if accepted then w.refusals else w.refusals ++ [fe] }

/-- A front-end is stopped when it is the one that is installed, and started when none is; the link
has no claims left when a front-end that was asked for is started. -/
def LinkWatch.Allows (w : LinkWatch F) : LinkEvent F → Prop
  | .stop fe => w.installed = some fe
  | .start _ asked _ bare => w.installed = none ∧ (asked = true → bare = true)
  | .asked _ | .attempt _ | .queued => True

/-- The first request is that of `vif_link_start`. -/
def LinkWatch.started (default : F) : LinkWatch F :=
  { requested := some default }

/-! ## The claims of the link -/

section Claims

variable {s : Link F} {r : Res} {closes : Bool}

theorem Res.mem_all (r : Res) : r ∈ Res.all := by
  cases r <;> decide

theorem Link.bare_iff : s.bare = true ↔ (∀ r, s.claim r = none) ∧ s.pins = [] := by
  unfold Link.bare
  rw [Bool.and_eq_true, List.all_eq_true, List.isEmpty_iff]
  refine and_congr_left' ⟨fun all r => of_decide_eq_true (all r r.mem_all), ?_⟩
  exact fun all r _ => decide_eq_true (all r)

/-- A turn of the loop touches one claim, and says whether it has gone. -/
theorem Link.closeBus_spec (s : Link F) (r : Res) (closes : Bool) :
    ∃ claim, (s.closeBus r closes).1 = { s with claim } ∧
      (∀ other, s.claim other = none → claim other = none) ∧
      ((s.closeBus r closes).2 = true → claim r = none) := by
  unfold Link.closeBus
  split
  · rename_i free
    exact ⟨s.claim, rfl, fun _ none => none, fun _ => free⟩
  split
  · refine ⟨_, rfl, fun other none => ?_, fun _ => Function.update_self ..⟩
    by_cases same : other = r
    · rw [same]
      exact Function.update_self ..
    · rw [Function.update_of_ne same]
      exact none
  · exact ⟨s.claim, rfl, fun _ none => none, nofun⟩

end Claims

/-! ## Clean switches -/

/-- Nothing is being switched: unless something is asked for, what was asked for last was tried. -/
def Link.Done (s : Link F) (w : LinkWatch F) : Prop :=
  s.feSwitch = false → ∀ fe, w.requested = some fe → w.tried = some fe

/-- This is being switched to: unless something is asked for, it was asked for last. -/
def Link.Takes (s : Link F) (w : LinkWatch F) (next : Option F) : Prop :=
  s.feSwitch = false → w.requested = next

/-- What is known where the task is. -/
def Link.Place (s : Link F) (w : LinkWatch F) : LinkPc F → Prop
  | .idle | .releasing .. | .flagging _ | .puttingBack | .checking => s.Done w
  | .stopping next => s.Takes w next
  | .unpinning next _ | .queueing next => s.fe = none ∧ s.Takes w next
  | .closing next _ left failed => (s.fe = none ∧ s.Takes w next) ∧ s.pins = [] ∧
    (failed = false → ∀ r, r ∉ left → s.claim r = none)
  | .starting fe _ => (s.fe = none ∧ s.Takes w (some fe)) ∧ s.bare = true
  | .restoring _ => s.fe = none ∧ s.Done w

/-- The link is as the observer sees it. -/
structure Link.Agrees (s : Link F) (w : LinkWatch F) : Prop where
  installed : w.installed = s.fe
  next : s.feSwitch = true → s.feNext = w.requested
  place : s.Place w s.pc

/-- The event is allowed, and the link is as the observer then sees it. -/
def Followed (w : LinkWatch F) (answer : Link F × List (LinkEvent F)) : Prop :=
  Obedient LinkWatch.see LinkWatch.Allows w answer.2 ∧
    answer.1.Agrees (answer.2.foldl LinkWatch.see w)

section Steps

variable {default : F} {s : Link F} {w : LinkWatch F}

theorem Link.Agrees.silent {s : Link F} (agrees : s.Agrees w) : Followed w (s, []) :=
  ⟨.nil, agrees⟩

/-- A request may come anywhere. -/
theorem Link.Agrees.setFrontend (agrees : s.Agrees w) (fe : Option F) :
    Followed w (s.setFrontend fe) := by
  refine ⟨.singleton trivial, agrees.installed, fun _ => rfl, ?_⟩
  have place := agrees.place
  change Link.Place _ _ s.pc
  cases pc : s.pc with
  | idle | releasing | flagging | puttingBack | checking | stopping => exact nofun
  | unpinning | queueing =>
      rw [pc] at place
      exact ⟨place.1, nofun⟩
  | closing | starting =>
      rw [pc] at place
      exact ⟨⟨place.1.1, nofun⟩, place.2⟩
  | restoring =>
      rw [pc] at place
      exact ⟨place.1, nofun⟩

/-- The flags of the link owner are no part of what is known. -/
theorem Link.Agrees.flags (agrees : s.Agrees w) (recoverReq releaseReq : Bool) :
    ({ s with recoverReq, releaseReq } : Link F).Agrees w := by
  refine ⟨agrees.installed, agrees.next, ?_⟩
  have place := agrees.place
  change Link.Place _ _ s.pc
  cases pc : s.pc <;> rw [pc] at place <;> exact place

/-- Pins may be released anywhere. -/
theorem Link.Agrees.releasePins (agrees : s.Agrees w) :
    ({ s with pins := [] } : Link F).Agrees w := by
  refine ⟨agrees.installed, agrees.next, ?_⟩
  have place := agrees.place
  change Link.Place _ _ s.pc
  cases pc : s.pc with
  | idle | releasing | flagging | puttingBack | checking | stopping | unpinning | queueing
  | restoring =>
      rw [pc] at place
      exact place
  | closing =>
      rw [pc] at place
      exact ⟨place.1, rfl, place.2.2⟩
  | starting =>
      rw [pc] at place
      exact ⟨place.1, Link.bare_iff.mpr ⟨(Link.bare_iff.mp place.2).1, rfl⟩⟩

/-- A start is allowed where nothing is installed. -/
theorem Link.frontendStart_allowed {fe : F} {asked : Bool} {answer : Answer} {refused : LinkPc F}
    (agrees : s.Agrees w) (empty : s.fe = none) (bare : asked = true → s.bare = true) :
    Obedient LinkWatch.see LinkWatch.Allows w (s.frontendStart fe asked answer refused).2 :=
  .singleton ⟨agrees.installed.trans empty, bare⟩

/-- One step of `vif_link_service`. -/
theorem Link.Agrees.turn (agrees : s.Agrees w) (answer : Answer) :
    Followed w (s.turn default answer) := by
  obtain ⟨installed, next, place⟩ := agrees
  unfold Link.turn
  cases pc : s.pc with
  | idle =>
      rw [pc] at place
      dsimp only
      split
      · exact ⟨.nil, installed, next, place⟩
      · exact ⟨.nil, installed, next, place⟩
  | releasing recover left failed =>
      rw [pc] at place
      cases left with
      | nil =>
          refine ⟨.nil, installed, next, ?_⟩
          cases failed <;> cases recover <;> exact place
      | cons r left =>
          obtain ⟨claim, same, _⟩ := s.closeBus_spec r answer.closes
          dsimp only
          rw [same]
          exact ⟨.nil, installed, next, place⟩
  | flagging recover =>
      rw [pc] at place
      exact ⟨.nil, installed, next, place⟩
  | puttingBack => exact ⟨.singleton trivial, installed, fun _ => rfl, nofun⟩
  | checking =>
      rw [pc] at place
      dsimp only
      split
      · rename_i switching
        exact ⟨.singleton trivial, installed, nofun, fun _ => (next switching).symm⟩
      · exact ⟨.nil, installed, next, place⟩
  | stopping next' =>
      rw [pc] at place
      dsimp only
      cases fe : s.fe with
      | none => exact ⟨.nil, installed.trans fe, next, rfl, place⟩
      | some prev => exact ⟨.singleton (installed.trans fe), rfl, next, rfl, place⟩
  | unpinning next' prev =>
      rw [pc] at place
      exact ⟨.nil, installed, next, place, rfl, fun _ r out => absurd r.mem_all out⟩
  | closing next' prev left failed =>
      rw [pc] at place
      obtain ⟨taken, pins, closed⟩ := place
      cases left with
      | nil =>
          cases failed with
          | true => exact ⟨.nil, installed, next, taken⟩
          | false =>
              cases next' with
              | none => exact ⟨.nil, installed, next, fun idle fe named =>
                  nomatch (taken.2 idle).symm.trans named⟩
              | some fe =>
                  refine ⟨.nil, installed, next, taken, Link.bare_iff.mpr ⟨fun r => ?_, pins⟩⟩
                  exact closed rfl r List.not_mem_nil
      | cons r left =>
          obtain ⟨claim, same, kept, gone⟩ := s.closeBus_spec r answer.closes
          dsimp only
          rw [same]
          refine ⟨.nil, installed, next, taken, pins, fun none other out => ?_⟩
          rw [Bool.or_eq_false_iff, Bool.not_eq_false'] at none
          by_cases first : other = r
          · rw [first]
            exact gone none.2
          · exact kept other (closed none.1 other fun among =>
              (List.mem_cons.mp among).elim first out)
  | queueing next' =>
      rw [pc] at place
      dsimp only
      split
      · rename_i switching
        exact ⟨.nil, installed, next, fun idle => nomatch switching.symm.trans idle⟩
      · rename_i idle
        refine ⟨.singleton trivial, installed, fun _ => ?_, nofun⟩
        exact (place.2 (Bool.eq_false_iff.mpr idle)).symm
  | starting fe prev =>
      rw [pc] at place
      obtain ⟨⟨empty, taken⟩, bare⟩ := place
      have tried : s.Done { w with tried := some fe } :=
        fun idle named same => same.symm.trans (taken idle) ▸ rfl
      refine ⟨Link.frontendStart_allowed ⟨installed, next, ?_⟩ empty fun _ => bare, ?_⟩
      · rw [pc]
        exact ⟨⟨empty, taken⟩, bare⟩
      · unfold Link.frontendStart
        cases answer.accepts with
        | true => exact ⟨rfl, next, tried⟩
        | false =>
            refine ⟨installed, next, ?_⟩
            cases prev with
            | none => exact tried
            | some prev => exact ⟨empty, tried⟩
  | restoring prev =>
      rw [pc] at place
      obtain ⟨empty, done⟩ := place
      refine ⟨Link.frontendStart_allowed ⟨installed, next, ?_⟩ empty nofun, ?_⟩
      · rw [pc]
        exact ⟨empty, done⟩
      · unfold Link.frontendStart
        cases answer.accepts with
        | true => exact ⟨rfl, next, done⟩
        | false => exact ⟨installed, next, done⟩

/-- Every step of the link. -/
theorem Link.Agrees.step (agrees : s.Agrees w) (input : LinkInput F) :
    Followed w (s.step default input) := by
  cases input with
  | setFrontend fe => exact agrees.setFrontend fe
  | linkDown => exact agrees.setFrontend (some default)
  | recoverAll => exact (agrees.flags true s.releaseReq).silent
  | release => exact (agrees.flags s.recoverReq true).silent
  | releasePins => exact agrees.releasePins.silent
  | turn answer => exact agrees.turn answer
  | client claim pins =>
      obtain ⟨installed, next, place⟩ := agrees
      unfold Link.step
      cases pc : s.pc with
      | idle =>
          rw [pc] at place
          exact ⟨.nil, installed, next, place⟩
      | _ => exact ⟨.nil, installed, next, place⟩

end Steps

theorem Link.agrees_started (default : F) :
    (Link.started default).Agrees (LinkWatch.started default) :=
  ⟨rfl, fun _ => rfl, nofun⟩

/-- A run of the link from its first pass on, with its events. -/
def Link.run (default : F) (inputs : List (LinkInput F)) : Link F × List (LinkEvent F) :=
  OpenDiag.run (logged (Link.step default)) (Link.started default, []) inputs

/-- What an observer has seen of a run. -/
def LinkWatch.of (default : F) (log : List (LinkEvent F)) : LinkWatch F :=
  log.foldl LinkWatch.see (LinkWatch.started default)

/-- Those that this switch is about have refused to start: the front-end that was asked for, and the
one that was installed when the switch was first attempted, if there was one. -/
def LinkWatch.Excused (w : LinkWatch F) : Prop :=
  (∀ fe, w.requested = some fe → fe ∈ w.refusals) ∧ ∀ fe, w.owed = some fe → fe ∈ w.refusals

/-- Nothing is left to be done and no front-end is installed only when they have refused. -/
def Link.Served (s : Link F) (w : LinkWatch F) : Prop :=
  s.pc = .idle → s.feSwitch = false → s.fe ≠ none ∨ w.Excused

/-- Any input but the request for no front-end. -/
def LinkInput.Names (input : LinkInput F) : Prop :=
  input ≠ .setFrontend none

/-- The front-end asked for does not refuse where the one to go back to is forgotten: where it is
not at hand, none was installed when the switch was first attempted, or the same, or something newer
is asked for. -/
def Remembers (default : F) (s : Link F × List (LinkEvent F)) (input : LinkInput F) : Prop :=
  ∀ fe answer, s.1.pc = .starting fe none → input = .turn answer → answer.accepts = false →
    s.1.feSwitch = false → ∀ owed, (LinkWatch.of default s.2).owed = some owed → owed = fe

/-- What is known of the front-end to go back to. -/
def Link.Prospect (s : Link F) (w : LinkWatch F) : LinkPc F → Prop
  | .idle | .releasing .. | .flagging _ | .puttingBack | .checking =>
    s.feSwitch = false → s.fe ≠ none ∨ w.Excused
  | .stopping next => next ≠ none ∧ w.retry = false ∧ w.refusals = [] ∧
    (s.fe = none ∨ w.owed = s.fe)
  | .unpinning next prev | .closing next prev _ _ => next ≠ none ∧ w.retry = false ∧
    w.refusals = [] ∧ (prev = none ∨ w.owed = prev)
  | .queueing next => next ≠ none
  | .starting _ prev => w.retry = false ∧ w.refusals = [] ∧ (prev = none ∨ w.owed = prev)
  | .restoring prev => w.retry = false ∧ w.owed = some prev ∧
    (s.feSwitch = false → ∀ fe, w.requested = some fe → fe ∈ w.refusals)

/-- The link is as the observer sees it, and it is known what to go back to. -/
structure Link.Expects (s : Link F) (w : LinkWatch F) : Prop where
  agrees : s.Agrees w
  named : s.feSwitch = true → s.feNext ≠ none
  retry : w.retry = true → s.fe = none
  prospect : s.Prospect w s.pc

section Steps

variable {default : F} {s : Link F} {w : LinkWatch F}

theorem Link.Expects.served (expects : s.Expects w) : s.Served w := by
  intro idle
  have prospect := expects.prospect
  rw [idle] at prospect
  exact prospect

/-- A request that names a front-end may come anywhere. -/
theorem Link.Expects.setFrontend (expects : s.Expects w) {fe : Option F} (named : fe ≠ none) :
    (s.setFrontend fe).1.Expects (w.see (.asked fe)) := by
  refine ⟨(expects.agrees.setFrontend fe).2, fun _ => named, nofun, ?_⟩
  have prospect := expects.prospect
  change Link.Prospect _ _ s.pc
  cases pc : s.pc with
  | idle | releasing | flagging | puttingBack | checking => exact nofun
  | stopping | unpinning | closing =>
      rw [pc] at prospect
      exact ⟨prospect.1, rfl, prospect.2.2⟩
  | queueing =>
      rw [pc] at prospect
      exact prospect
  | starting =>
      rw [pc] at prospect
      exact ⟨rfl, prospect.2⟩
  | restoring =>
      rw [pc] at prospect
      exact ⟨rfl, prospect.2.1, nofun⟩

/-- Flags and claims are no part of the prospect. -/
theorem Link.Expects.claims (expects : s.Expects w) {recoverReq releaseReq : Bool}
    {claim : Res → Option Bus} {pins : List Nat}
    (agrees : ({ s with recoverReq, releaseReq, claim, pins } : Link F).Agrees w) :
    ({ s with recoverReq, releaseReq, claim, pins } : Link F).Expects w := by
  refine ⟨agrees, expects.named, expects.retry, ?_⟩
  have prospect := expects.prospect
  change Link.Prospect _ _ s.pc
  cases pc : s.pc <;> rw [pc] at prospect <;> exact prospect

/-- One step of `vif_link_service`, when what to go back to is not forgotten. -/
theorem Link.Expects.turn (expects : s.Expects w) (answer : Answer)
    (remembers : ∀ fe, s.pc = .starting fe none → answer.accepts = false → s.feSwitch = false →
      ∀ owed, w.owed = some owed → owed = fe) :
    (s.turn default answer).1.Expects ((s.turn default answer).2.foldl LinkWatch.see w) := by
  have agrees := (@Link.Agrees.turn _ default _ _ expects.agrees answer).2
  suffices rest : ((s.turn default answer).1.feSwitch = true →
        (s.turn default answer).1.feNext ≠ none) ∧
      (((s.turn default answer).2.foldl LinkWatch.see w).retry = true →
        (s.turn default answer).1.fe = none) ∧
      (s.turn default answer).1.Prospect ((s.turn default answer).2.foldl LinkWatch.see w)
        (s.turn default answer).1.pc from ⟨agrees, rest.1, rest.2.1, rest.2.2⟩
  obtain ⟨installed, next, place⟩ := expects.agrees
  obtain ⟨_, named, retry, prospect⟩ := expects
  clear agrees
  unfold Link.turn
  cases pc : s.pc with
  | idle =>
      rw [pc] at prospect
      dsimp only
      split
      · exact ⟨named, retry, prospect⟩
      · exact ⟨named, retry, prospect⟩
  | releasing recover left failed =>
      rw [pc] at prospect
      cases left with
      | nil =>
          refine ⟨named, retry, ?_⟩
          cases failed <;> cases recover <;> exact prospect
      | cons r left =>
          obtain ⟨claim, same, _⟩ := s.closeBus_spec r answer.closes
          dsimp only
          rw [same]
          exact ⟨named, retry, prospect⟩
  | flagging recover =>
      rw [pc] at prospect
      exact ⟨named, retry, prospect⟩
  | puttingBack => exact ⟨fun _ => nofun, nofun, nofun⟩
  | checking =>
      rw [pc] at prospect
      dsimp only
      split
      · rename_i switching
        refine ⟨nofun, nofun, named switching, rfl, rfl, ?_⟩
        cases put : w.retry with
        | true => exact .inl (retry put)
        | false =>
            right
            simp only [List.foldl_cons, List.foldl_nil, LinkWatch.see, put]
            exact installed
      · exact ⟨named, retry, prospect⟩
  | stopping next' =>
      rw [pc] at prospect
      obtain ⟨some, fresh, silent, owed⟩ := prospect
      dsimp only
      cases fe : s.fe with
      | none => exact ⟨named, fun _ => rfl, some, fresh, silent, .inl rfl⟩
      | some prev =>
          refine ⟨named, fun _ => rfl, some, fresh, silent, .inr ?_⟩
          rcases owed with none | same
          · exact nomatch fe.symm.trans none
          · exact same.trans fe
  | unpinning next' prev =>
      rw [pc] at prospect
      exact ⟨named, retry, prospect⟩
  | closing next' prev left failed =>
      rw [pc] at prospect place
      obtain ⟨some, fresh, silent, owed⟩ := prospect
      cases left with
      | nil =>
          cases failed with
          | true => exact ⟨named, retry, some⟩
          | false =>
              cases next' with
              | none => exact absurd rfl some
              | some fe => exact ⟨named, retry, fresh, silent, owed⟩
      | cons r left =>
          obtain ⟨claim, same, _⟩ := s.closeBus_spec r answer.closes
          dsimp only
          rw [same]
          exact ⟨named, retry, some, fresh, silent, owed⟩
  | queueing next' =>
      rw [pc] at prospect place
      dsimp only
      split
      · rename_i switching
        exact ⟨named, retry, fun idle => nomatch switching.symm.trans idle⟩
      · exact ⟨fun _ => prospect, fun _ => place.1, nofun⟩
  | starting fe prev =>
      rw [pc] at prospect place
      obtain ⟨fresh, silent, owed⟩ := prospect
      obtain ⟨⟨empty, taken⟩, _⟩ := place
      unfold Link.frontendStart
      dsimp only
      cases accepts : answer.accepts with
      | true =>
          have kept (put : w.retry = true) : False := nomatch fresh.symm.trans put
          exact ⟨named, fun put => (kept put).elim, fun _ => .inl nofun⟩
      | false =>
          have refused : fe ∈ w.refusals ++ [fe] :=
            List.mem_append_right _ (List.mem_singleton_self _)
          have asked : s.feSwitch = false → ∀ other, w.requested = some other →
              other ∈ w.refusals ++ [fe] := by
            intro idle other same
            obtain rfl := Option.some.inj (same.symm.trans (taken idle))
            exact refused
          refine ⟨named, retry, ?_⟩
          cases prev with
          | none =>
              refine fun idle => .inr ⟨asked idle, fun other same => ?_⟩
              rw [remembers fe pc accepts idle other same]
              exact refused
          | some prev =>
              exact ⟨fresh, owed.resolve_left nofun, asked⟩
  | restoring prev =>
      rw [pc] at prospect place
      obtain ⟨fresh, owed, asked⟩ := prospect
      unfold Link.frontendStart
      dsimp only
      cases accepts : answer.accepts with
      | true =>
          have kept (put : w.retry = true) : False := nomatch fresh.symm.trans put
          exact ⟨named, fun put => (kept put).elim, fun _ => .inl nofun⟩
      | false =>
          refine ⟨named, retry, fun idle => .inr ⟨fun fe same => ?_, fun fe same => ?_⟩⟩
          · exact List.mem_append_left _ (asked idle fe same)
          · obtain rfl := Option.some.inj (same.symm.trans owed)
            exact List.mem_append_right _ (List.mem_singleton_self _)

/-- The front-end's own code runs between two passes. -/
theorem Link.step_client (default : F) (s : Link F) (claim : Res → Option Bus) (pins : List Nat) :
    s.step default (.client claim pins) = ({ s with claim, pins }, []) ∨
      s.step default (.client claim pins) = (s, []) := by
  unfold Link.step
  dsimp only
  split
  · exact .inl rfl
  · exact .inr rfl

/-- Every step of the link in which a request names a front-end. -/
theorem Link.Expects.step {log : List (LinkEvent F)}
    (expects : s.Expects (LinkWatch.of default log)) (input : LinkInput F) (names : input.Names)
    (remembers : Remembers default (s, log) input) :
    (logged (Link.step default) (s, log) input).1.Expects
      (LinkWatch.of default (logged (Link.step default) (s, log) input).2) := by
  unfold LinkWatch.of at expects ⊢
  rw [logged, List.foldl_append]
  have agrees := (@Link.Agrees.step _ default _ _ expects.agrees input).2
  cases input with
  | setFrontend fe => exact expects.setFrontend fun none => names (congrArg _ none)
  | linkDown => exact expects.setFrontend (Option.some_ne_none _)
  | recoverAll | release | releasePins => exact expects.claims agrees
  | turn answer =>
      exact expects.turn answer fun fe pc refused idle =>
        remembers fe answer pc rfl refused idle
  | client claim pins =>
      rcases Link.step_client default s claim pins with same | same
      · rw [same] at agrees ⊢
        exact expects.claims agrees
      · rw [same]
        exact expects

end Steps

theorem Link.expects_started (default : F) :
    (Link.started default).Expects (LinkWatch.started default) :=
  ⟨Link.agrees_started default, fun _ => nofun, nofun, nofun⟩

/-- An input that asks for a front-end or for nothing. -/
abbrev NamingInput (F : Type*) :=
  { input : LinkInput F // input.Names }

/-- A step of the link with its events, for such an input. -/
def Link.namingStep (default : F) (s : Link F × List (LinkEvent F)) (input : NamingInput F) :
    Link F × List (LinkEvent F) :=
  logged (Link.step default) s input.1

/-- Whenever a pass leaves nothing to be done, a front-end is installed, unless the one asked for
and the one to go back to have both refused: this is so throughout a run exactly when no front-end
that is asked for refuses, with nothing newer asked for, where another one was installed when the
switch was first attempted and a teardown has failed since. -/
theorem link_not_mute_iff (default : F) (inputs : List (NamingInput F)) :
    (∀ first, first <+: inputs →
      let after := run (Link.namingStep default) (Link.started default, []) first
      after.1.Served (LinkWatch.of default after.2)) ↔
    Admissible (fun s input => Remembers default s input.1) (Link.namingStep default)
      (Link.started default, []) inputs := by
  refine @forall_good_iff_admissible _ _ (Link.namingStep default) (Link.started default, [])
    (fun s input => Remembers default s input.1)
    (fun s => s.1.Expects (LinkWatch.of default s.2))
    (fun s => s.1.Served (LinkWatch.of default s.2)) ?_ ?_ ?_ (Link.expects_started default) inputs
  · exact fun s input expects remembers => expects.step input.1 input.2 remembers
  · exact fun s expects => expects.served
  · rintro ⟨s, log⟩ ⟨input, names⟩ expects served fe answer pc rfl refused idle owed same
    have prospect := expects.prospect
    have place := expects.agrees.place
    dsimp only at pc prospect place
    rw [pc] at prospect place
    have step : s.turn default answer =
        ({ s with claim := answer.claim, pins := answer.pins, pc := .idle },
          [.start fe true false s.bare]) := by
      unfold Link.turn
      simp only [pc, Link.frontendStart, refused]
      rfl
    have after : Link.namingStep default (s, log) ⟨.turn answer, names⟩ =
        ((s.turn default answer).1, log ++ (s.turn default answer).2) := rfl
    rw [after, step] at served
    dsimp only [LinkWatch.of] at served
    rw [List.foldl_append] at served
    rcases served rfl idle with some | excused
    · exact absurd place.1.1 some
    · have refusal := excused.2 owed same
      have silent : ((LinkWatch.of default log).refusals ++ [fe]) = [fe] := by
        rw [prospect.2.1, List.nil_append]
      change owed ∈ (LinkWatch.of default log).refusals ++ [fe] at refusal
      rw [silent] at refusal
      exact List.mem_singleton.mp refusal

/-- A first teardown fails after the default front-end has stopped; the second one succeeds, but the
front-end that was asked for refuses: nothing is installed, and the default front-end has not been
tried. -/
theorem mute_after_failed_teardown :
    let held : Res → Option Bus := fun r => if r = .can then some .can else none
    let inputs : List (LinkInput Nat) := List.replicate 9 (.turn {}) ++ [.setFrontend (some 1)] ++
      List.replicate 9 (.turn { claim := held, closes := false }) ++
      List.replicate 9 (.turn { accepts := false })
    let s := (Link.run 0 inputs).1
    let w := LinkWatch.of 0 (Link.run 0 inputs).2
    ¬ s.Served w ∧ s.fe = none ∧ w.requested = some 1 ∧ w.owed = some 0 ∧ w.refusals = [1] := by
  intro held inputs s w
  have ended : (s.pc = .idle ∧ s.feSwitch = false) ∧ s.fe = none ∧ w.requested = some 1 ∧
      w.owed = some 0 ∧ w.refusals = [1] := by decide
  refine ⟨fun served => ?_, ended.2⟩
  obtain ⟨⟨idle, done⟩, empty, _, owed, refusals⟩ := ended
  rcases served idle done with some | excused
  · exact some empty
  · have refused := excused.2 0 owed
    rw [refusals] at refused
    exact absurd refused (by decide)

end OpenDiag.Vif
