import Mathlib.Data.List.Basic
import Mathlib.Logic.Function.Basic
import OpenDiag.Lib.Run

/-!
# Which transport has the link

`main.c` and `link.h`: the one data link follows whichever transport has a client, and the first one
wins. Each transport reports its clients from a task of its own, and the shell's task can name the
holder. These tasks share the port of the link and the flags of the transports, and nothing keeps
one out while another is under way, so a turn is one read or write of theirs. `vif_link_down` only
posts the restart of the front-end; the link task carries it out when it comes round. The last
fields of the state are histories that no code reads.
-/

namespace OpenDiag.Comm

/-- `link_transport_t`, `LINK_NONE` apart. -/
inductive Transport where
  | usb
  | ble
  deriving DecidableEq, Repr

/-- The tasks that call into `main.c`; `main` is the one that sets the links up and then runs the
shell. -/
inductive Agent where
  | usb
  | ble
  | main
  deriving DecidableEq, Repr

/-- The task that reports the clients of a transport. -/
def Transport.agent : Transport → Agent
  | .usb => .usb
  | .ble => .ble

def Transport.other : Transport → Transport
  | .usb => .ble
  | .ble => .usb

/-- Where a task is: each constructor names its next operation. -/
inductive Call where
  | idle
  /-- `link_try_bind` reads the port. -/
  | tryBind (t : Transport)
  /-- It has found the link free. -/
  | setPort (t : Transport)
  /-- `link_release` reads the port. -/
  | release (t : Transport)
  /-- `vif_link_down`, in `link_hand_back` or, for the transport that is to have the link, if any,
  in `link_set`. -/
  | down (held : Transport) (want : Option Transport) (request : Bool)
  /-- The link is taken off the transport. -/
  | free (held : Transport) (want : Option Transport) (request : Bool)
  /-- `link_offer_elsewhere` reads the flag of the other transport. -/
  | offer (freed : Transport)
  /-- `link_set` reads the port. -/
  | request (want : Option Transport)
  /-- `link_set` gives the link to the transport that was named. -/
  | grant (t : Transport)
  /-- The end of `links_setup` reads the flag of USB, and then that of BLE. -/
  | setup
  | setupBle
  deriving DecidableEq, Repr

structure Link where
  port : Option Transport := none
  connected : Transport → Bool
  calls : Agent → Call
  /-- `g_session_open` in `ble_uart.c`: the client of BLE was reported. -/
  sessionOpen : Bool := false
  /-- `fe_switch` in `vif.c`. -/
  feSwitch : Bool := true
  /-- `vif_link_service` has taken the request, and has yet to apply it. -/
  applying : Bool := false
  /-- The last transport that had the link was cut off. -/
  cutOff : Bool := true
  /-- No front-end is installed that was there when the last holder was cut off. -/
  restarted : Bool := true
  /-- A transport got the link when the last one was not cut off, or with a front-end from before
  that was going to stay. -/
  leaked : Bool := false
  /-- The holder was named by a request. -/
  named : Bool := false
  /-- The transport was let go by a request since its client came. -/
  letGo : Transport → Bool := fun _ => false
  /-- The last client of BLE left without being reported. -/
  leftUnseen : Bool := false

/-- The restart of the front-end is done, or it is on its way. -/
def Link.renewed (l : Link) : Bool :=
  l.restarted || l.feSwitch || l.applying

/-- `vif_link_start` has posted the first front-end, the callbacks are set, and the flags are about
to be read; transports may have clients already. -/
def Link.boot (connected : Transport → Bool) : Link where
  connected
  calls agent := if agent = .main then .setup else .idle

/-- A task goes on to its next operation. -/
def Link.goTo (l : Link) (agent : Agent) (call : Call) : Link :=
  { l with calls := Function.update l.calls agent call }

/-- `vif_link_set_port` for a transport. -/
def Link.give (l : Link) (t : Transport) (named : Bool) : Link :=
  { l with port := some t, cutOff := false, leaked := l.leaked || !(l.cutOff && l.renewed), named }

/-- The next operation of a task. -/
def Link.operate (l : Link) (agent : Agent) : Link :=
  match l.calls agent with
  | .idle => l
  | .tryBind t => l.goTo agent (if l.port = none then .setPort t else .idle)
  | .setPort t => (l.give t false).goTo agent .idle
  | .release t => l.goTo agent (if l.port = some t then .down t none false else .idle)
  | .down held want request =>
    { l with feSwitch := true, cutOff := true, restarted := false }.goTo agent
      (.free held want request)
  | .free held want request =>
    { l with
      port := none
      letGo := if request then Function.update l.letGo held true else l.letGo }.goTo agent
        (match want with
          | some t => .grant t
          | none => .offer held)
  | .offer freed =>
    l.goTo agent (if l.connected freed.other then .tryBind freed.other else .idle)
  | .request want =>
    if l.port = want then l.goTo agent .idle
    else
      match l.port, want with
      | some held, want => l.goTo agent (.down held want true)
      | none, some t => l.goTo agent (.grant t)
      | none, none => l.goTo agent .idle
  | .grant t => (l.give t true).goTo agent .idle
  | .setup => l.goTo agent (if l.connected .usb then .tryBind .usb else .setupBle)
  | .setupBle => l.goTo agent (if l.connected .ble then .tryBind .ble else .idle)

inductive LinkTurn where
  /-- A client comes, or leaves: the transport's task sets its flag and calls back. -/
  | connect (t : Transport)
  | disconnect (t : Transport)
  /-- The shell's `link` command. -/
  | request (want : Option Transport)
  | operate (agent : Agent)
  /-- `vif_link_set_frontend` for any other reason. -/
  | setFrontend
  /-- `vif_link_service` takes the request to switch the front-end. -/
  | takeSwitch
  /-- `link_apply_frontend`; `ok` says whether the claims could be released. -/
  | applySwitch (ok : Bool)
  deriving DecidableEq, Repr

/-- The end of `tinyusb_cdc_line_state_cb`, and `gap_event_handler` for a connection. -/
def Link.connect (l : Link) (t : Transport) : Link :=
  { l with
    connected := Function.update l.connected t true
    sessionOpen := l.sessionOpen || t == Transport.ble
    letGo := Function.update l.letGo t false
    leftUnseen := l.leftUnseen && t != Transport.ble }.goTo t.agent (.tryBind t)

/-- A client that was not reported leaves. -/
def Link.leave (l : Link) : Link :=
  { l with
    connected := Function.update l.connected .ble false
    leftUnseen := l.leftUnseen || l.connected .ble }

/-- The same for a client that leaves. A client of BLE that came before the callback was set opened
no session, and nobody hears of its leaving. -/
def Link.disconnect (l : Link) (t : Transport) : Link :=
  if t = .ble ∧ l.sessionOpen = false then l.leave
  else
    { l with
      connected := Function.update l.connected t false
      sessionOpen := l.sessionOpen && t != Transport.ble }.goTo t.agent (.release t)

def Link.step (l : Link) : LinkTurn → Link
  | .connect t => if l.calls t.agent = .idle then l.connect t else l
  | .disconnect t => if l.calls t.agent = .idle then l.disconnect t else l
  | .request want => if l.calls .main = .idle then l.goTo .main (.request want) else l
  | .operate agent => l.operate agent
  | .setFrontend => { l with feSwitch := true }
  | .takeSwitch =>
    if l.feSwitch && !l.applying then { l with feSwitch := false, applying := true } else l
  | .applySwitch ok =>
    -- Where the teardown fails, the link is left with no front-end, and the request is put back.
    if l.applying then
      { l with feSwitch := l.feSwitch || !ok, applying := false, restarted := true }
    else l

/-- No task is under way. -/
def Link.AtRest (l : Link) : Prop :=
  ∀ agent, l.calls agent = .idle

/-! ## No client is left waiting -/

/-- The call will look at the flag of a transport before it leaves the link free. -/
def Call.Covers (t : Transport) : Call → Prop
  | .idle => False
  | .tryBind _ => True
  | .setPort _ => True
  | .release _ => False
  | .down held want _ => want ≠ none ∨ t ≠ held
  | .free held want _ => want ≠ none ∨ t ≠ held
  | .offer freed => t ≠ freed
  | .request _ => False
  | .grant _ => True
  | .setup => True
  | .setupBle => t = .ble

/-- The call takes the link off a transport whose client has left. -/
def Call.Leaves (t : Transport) : Call → Prop
  | .release held => held = t
  | .down held want _ => want = none ∧ held = t
  | .free held want _ => want = none ∧ held = t
  | .offer freed => freed = t
  | _ => False

/-- A free link and a client that waits are a matter of a call that is under way. -/
structure Link.Attended (l : Link) : Prop where
  covered : l.port = none → ∀ t, l.connected t = true → ∃ agent, (l.calls agent).Covers t
  gone : ∀ agent t, (l.calls agent).Leaves t → agent = t.agent ∧ l.connected t = false
  asks : ∀ agent, l.calls agent ≠ .request none

variable {l : Link} {agent : Agent} {call : Call}

/-- A task moves on; where the link is free, its new call covers what its old one did. -/
theorem Link.Attended.move (attended : l.Attended) {next : Link} (calls : next.calls = l.calls)
    (covers : next.port = none → ∀ t, next.connected t = true →
      call.Covers t ∨ l.port = none ∧ l.connected t = true ∧ ¬ (l.calls agent).Covers t)
    (leaves : ∀ t, call.Leaves t → agent = t.agent ∧ next.connected t = false)
    (others : ∀ t, t.agent ≠ agent → l.connected t = false → next.connected t = false)
    (asks : call ≠ .request none) : (next.goTo agent call).Attended where
  covered free t waits := by
    rcases covers free t waits with covered | ⟨before, waited, uncovered⟩
    · refine ⟨agent, ?_⟩
      change Call.Covers t (Function.update next.calls agent call agent)
      rw [Function.update_self]
      exact covered
    · obtain ⟨other, covered⟩ := attended.covered before t waited
      have apart : other ≠ agent := by
        rintro rfl
        exact uncovered covered
      refine ⟨other, ?_⟩
      change Call.Covers t (Function.update next.calls agent call other)
      rw [Function.update_of_ne apart, calls]
      exact covered
  gone other t leaving := by
    change Call.Leaves t (Function.update next.calls agent call other) at leaving
    change other = t.agent ∧ next.connected t = false
    by_cases which : other = agent
    · rw [which, Function.update_self] at leaving
      exact which ▸ leaves t leaving
    · rw [Function.update_of_ne which, calls] at leaving
      obtain ⟨own, away⟩ := attended.gone other t leaving
      exact ⟨own, others t (own ▸ which) away⟩
  asks other := by
    change Function.update next.calls agent call other ≠ _
    by_cases which : other = agent
    · rw [which, Function.update_self]
      exact asks
    · rw [Function.update_of_ne which, calls]
      exact attended.asks other

/-- The same, where no client comes or leaves. -/
theorem Link.Attended.goTo (attended : l.Attended) {next : Link}
    (same : next.connected = l.connected) (calls : next.calls = l.calls)
    (covers : next.port = none → ∀ t, l.connected t = true →
      call.Covers t ∨ l.port = none ∧ ¬ (l.calls agent).Covers t)
    (leaves : ∀ t, call.Leaves t → agent = t.agent ∧ l.connected t = false)
    (asks : call ≠ .request none) : (next.goTo agent call).Attended := by
  refine attended.move calls (fun free t waits => ?_) (same ▸ leaves) (fun t _ away => same ▸ away)
    asks
  rw [same] at waits
  exact (covers free t waits).imp_right fun rest => ⟨rest.1, waits, rest.2⟩

theorem Link.Attended.operate (attended : l.Attended) (agent : Agent) :
    (l.operate agent).Attended := by
  unfold Link.operate
  cases here : l.calls agent with
  | idle => exact attended
  | tryBind t =>
      refine attended.goTo rfl rfl (fun free t' _ => Or.inl ?_) ?_ ?_
      · rw [if_pos free]
        exact True.intro
      · intro t' leaving
        split at leaving <;> exact leaving.elim
      · split <;> simp
  | setPort t =>
      exact attended.goTo rfl rfl (fun free => by cases free) (fun t' leaving => leaving.elim)
        (by simp)
  | release t =>
      have gone := attended.gone agent t (by rw [here]; exact rfl)
      refine attended.goTo rfl rfl (fun free t' _ => Or.inr ⟨free, ?_⟩) ?_ ?_
      · rw [here]
        exact id
      · intro t' leaving
        split at leaving
        · obtain ⟨_, rfl⟩ := leaving
          exact gone
        · exact leaving.elim
      · split <;> simp
  | down held want request =>
      refine attended.goTo rfl rfl (fun free t' _ => ?_) ?_ (by simp)
      · by_cases covered : (Call.free held want request).Covers t'
        · exact Or.inl covered
        · exact Or.inr ⟨free, by rw [here]; exact covered⟩
      · intro t' leaving
        exact attended.gone agent t' (by rw [here]; exact leaving)
  | free held want request =>
      cases want with
      | some t =>
          exact attended.goTo rfl rfl (fun _ _ _ => Or.inl True.intro)
            (fun t' leaving => leaving.elim) (by simp)
      | none =>
          have gone := attended.gone agent held (by rw [here]; exact ⟨rfl, rfl⟩)
          refine attended.goTo rfl rfl (fun _ t' waits => Or.inl ?_) ?_ (by simp)
          · rintro rfl
            exact Bool.false_ne_true (gone.2.symm.trans waits)
          · rintro t' rfl
            exact gone
  | offer freed =>
      have gone := attended.gone agent freed (by rw [here]; exact rfl)
      refine attended.goTo rfl rfl (fun free t' waits => ?_) ?_ ?_
      · have other : t' = freed.other := by
          have apart : t' ≠ freed := by
            rintro rfl
            exact Bool.false_ne_true (gone.2.symm.trans waits)
          revert apart
          cases t' <;> cases freed <;> simp [Transport.other]
        rw [← other, if_pos waits]
        exact Or.inl True.intro
      · intro t' leaving
        split at leaving <;> exact leaving.elim
      · split <;> simp
  | request want =>
      have asks := attended.asks agent
      rw [here] at asks
      have uncovered : ∀ t, ¬ (l.calls agent).Covers t := by
        rw [here]
        exact fun _ => id
      have later : ∀ call : Call, call ≠ .request none → (∀ t, ¬ call.Leaves t) →
          (l.goTo agent call).Attended := fun call asks stays =>
        attended.goTo rfl rfl (fun free t _ => Or.inr ⟨free, uncovered t⟩)
          (fun t leaving => (stays t leaving).elim) asks
      cases want with
      | none => exact absurd rfl asks
      | some t =>
          simp only
          split
          case isTrue => exact later .idle (by simp) (fun _ => id)
          case isFalse =>
            cases held : l.port with
            | none => exact later (.grant t) (by simp) (fun _ => id)
            | some holder =>
                exact later (.down holder (some t) true) (by simp) fun _ leaving => nomatch leaving.1
  | grant t =>
      exact attended.goTo rfl rfl (fun free => by cases free) (fun t' leaving => leaving.elim)
        (by simp)
  | setup =>
      refine attended.goTo rfl rfl (fun _ t waits => Or.inl ?_) ?_ ?_
      · split
        · exact True.intro
        case isFalse away =>
          cases t with
          | usb => exact absurd waits away
          | ble => exact rfl
      · intro t leaving
        split at leaving <;> exact leaving.elim
      · split <;> simp
  | setupBle =>
      refine attended.goTo rfl rfl (fun free t waits => ?_) ?_ ?_
      · cases t with
        | usb =>
            refine Or.inr ⟨free, ?_⟩
            rw [here]
            exact fun same => by cases same
        | ble =>
            rw [if_pos waits]
            exact Or.inl True.intro
      · intro t leaving
        split at leaving <;> exact leaving.elim
      · split <;> simp

theorem Transport.agent_ne {t t' : Transport} (apart : t.agent ≠ t'.agent) : t ≠ t' := by
  rintro rfl
  exact apart rfl

/-- A client comes, and its transport's task will look for the link. -/
theorem Link.Attended.connect (attended : l.Attended) (t : Transport) : (l.connect t).Attended := by
  refine attended.move rfl (fun _ _ _ => Or.inl True.intro) (fun t' leaving => leaving.elim)
    (fun t' apart away => ?_) (by simp)
  exact (Function.update_of_ne (Transport.agent_ne apart) _ _).trans away

/-- A client that leaves unreported waits no more. -/
theorem Link.Attended.leave (attended : l.Attended) : l.leave.Attended where
  covered free t waits := by
    refine attended.covered free t ?_
    change Function.update l.connected .ble false t = true at waits
    cases t with
    | usb => exact waits
    | ble => exact absurd ((Function.update_self ..).symm.trans waits) Bool.false_ne_true
  gone agent t leaving := by
    obtain ⟨own, away⟩ := attended.gone agent t leaving
    refine ⟨own, ?_⟩
    change Function.update l.connected .ble false t = false
    cases t with
    | usb => exact away
    | ble => exact Function.update_self ..
  asks := attended.asks

/-- A client leaves, and its transport's task will let the link go, unless it never heard of it. -/
theorem Link.Attended.disconnect (attended : l.Attended) {t : Transport}
    (idle : l.calls t.agent = .idle) : (l.disconnect t).Attended := by
  unfold Link.disconnect
  split
  case isTrue => exact attended.leave
  refine attended.move rfl (fun free t' waits => Or.inr ⟨free, ?_, ?_⟩) ?_
    (fun t' apart away => ?_) (by simp)
  · by_cases same : t' = t
    · rw [same] at waits
      exact absurd ((Function.update_self ..).symm.trans waits) Bool.false_ne_true
    · exact (Function.update_of_ne same _ _).symm.trans waits
  · rw [idle]
    exact id
  · rintro t' rfl
    exact ⟨rfl, Function.update_self ..⟩
  · exact (Function.update_of_ne (Transport.agent_ne apart) _ _).trans away

theorem Link.Attended.step (attended : l.Attended) {turn : LinkTurn}
    (keeps : turn ≠ .request none) : (l.step turn).Attended := by
  cases turn with
  | connect t =>
      simp only [Link.step]
      split
      case isTrue => exact attended.connect t
      case isFalse => exact attended
  | disconnect t =>
      simp only [Link.step]
      split
      case isTrue idle => exact attended.disconnect idle
      case isFalse => exact attended
  | request want =>
      simp only [Link.step]
      split
      case isTrue idle =>
        refine attended.goTo rfl rfl (fun free t _ => Or.inr ⟨free, ?_⟩)
          (fun _ leaving => leaving.elim) fun same => keeps (by cases same; rfl)
        rw [idle]
        exact id
      case isFalse => exact attended
  | operate agent => exact attended.operate agent
  | setFrontend => exact { attended with }
  | takeSwitch =>
      simp only [Link.step]
      split
      · exact { attended with }
      · exact attended
  | applySwitch ok =>
      simp only [Link.step]
      split
      · exact { attended with }
      · exact attended

theorem Link.Attended.boot (connected : Transport → Bool) : (Link.boot connected).Attended where
  covered _ t _ := ⟨.main, True.intro⟩
  gone agent t leaving := by
    cases agent <;> exact leaving.elim
  asks agent := by
    cases agent <;> simp [Link.boot]

/-- However the callbacks of the transports, the set-up and the requests for a transport
interleave: when no task is under way and the link is free, no transport has a client. -/
theorem free_link_unwanted (connected : Transport → Bool) (turns : List LinkTurn)
    (keeps : Admissible (fun _ turn => turn ≠ .request none) Link.step (Link.boot connected) turns)
    (rest : (run Link.step (Link.boot connected) turns).AtRest)
    (free : (run Link.step (Link.boot connected) turns).port = none) (t : Transport) :
    (run Link.step (Link.boot connected) turns).connected t = false := by
  have attended : (run Link.step (Link.boot connected) turns).Attended :=
    keeps.invariant (fun _ _ attended keeps => attended.step keeps) (.boot connected)
  by_contra waits
  obtain ⟨agent, covered⟩ := attended.covered free t (by simpa using waits)
  rw [rest agent] at covered
  exact covered

/-- BLE comes and leaves while the task of USB hands the link back. -/
def crossingTurns : List LinkTurn :=
  [.operate .main, .operate .main, .connect .usb, .operate .usb, .operate .usb, .connect .ble,
    .disconnect .usb, .operate .usb, .operate .ble, .operate .usb, .operate .usb, .disconnect .ble,
    .operate .usb, .operate .ble]

theorem crossing_unwanted :
    (run Link.step (Link.boot fun _ => false) crossingTurns).connected .ble = false := by
  refine free_link_unwanted (fun _ => false) crossingTurns (by decide) (fun agent => ?_) rfl .ble
  cases agent with
  | usb => rfl
  | ble => rfl
  | main => rfl

/-! ## One call at a time -/

/-- The transport has a client, or had one that left without being reported. -/
def Link.Kept (l : Link) (t : Transport) : Prop :=
  l.connected t = true ∨ t = .ble ∧ l.leftUnseen = true

/-- The last holder of a free link was cut off, and only clients that were let go want it; a holder
has a client, or had one that left unreported, or was named. -/
def Link.Settled (l : Link) : Prop :=
  (l.port = none → l.cutOff = true ∧ ∀ t, l.connected t = true → l.letGo t = true) ∧
    ∀ t, l.port = some t → l.Kept t ∨ l.named = true

/-- The link is free, and its last holder was cut off. -/
def Link.Free (l : Link) : Prop :=
  l.port = none ∧ l.cutOff = true

/-- What the only call that is under way has done so far. -/
def Link.Doing (l : Link) : Call → Prop
  | .idle => l.Settled
  | .tryBind t => l.Kept t ∧ (l.port = none → l.cutOff = true) ∧
      ∀ t, l.port = some t → l.Kept t ∨ l.named = true
  | .setPort t => l.Free ∧ l.Kept t
  | .release t => l.connected t = false ∧
      (l.port = none → l.cutOff = true ∧ ∀ t, l.connected t = true → l.letGo t = true) ∧
        ∀ t', l.port = some t' → t' ≠ t → l.Kept t' ∨ l.named = true
  | .down held want request => l.port = some held ∧
      (want = none → request = false → l.connected held = false)
  | .free held want request => l.port = some held ∧ l.cutOff = true ∧
      (want = none → request = false → l.connected held = false)
  | .offer freed => l.Free ∧ (l.connected freed = true → l.letGo freed = true)
  | .request _ => l.Settled
  | .grant _ => l.Free
  | .setup => l.Free
  | .setupBle => l.Free ∧ l.connected .usb = false

/-- At most one task is under way, every holder was cut off before the next, and the front-end that
was there at the last cut does not stay. -/
structure Link.Sequential (l : Link) (agent : Agent) : Prop where
  others : ∀ other, other ≠ agent → l.calls other = .idle
  doing : l.Doing (l.calls agent)
  renewed : l.renewed = true
  sealed : l.leaked = false

/-- A call begins only when no task is under way. The link task serves the front-end whenever it
comes round, and a client that was not reported leaves without a call. -/
def Link.Alone (l : Link) : LinkTurn → Prop
  | .connect _ => l.AtRest
  | .disconnect t => l.AtRest ∨ t = .ble ∧ l.sessionOpen = false
  | .request _ => l.AtRest
  | .operate _ => True
  | .setFrontend => True
  | .takeSwitch => True
  | .applySwitch _ => True

theorem Link.Sequential.goTo (sequential : l.Sequential agent) {next : Link}
    (calls : next.calls = l.calls) (doing : (next.goTo agent call).Doing call)
    (renewed : next.renewed = true) (sealed : next.leaked = false) :
    (next.goTo agent call).Sequential agent where
  others other apart := by
    change Function.update next.calls agent call other = .idle
    rw [Function.update_of_ne apart, calls]
    exact sequential.others other apart
  doing := by
    change Link.Doing _ (Function.update next.calls agent call agent)
    rw [Function.update_self]
    exact doing
  renewed := renewed
  sealed := sealed

/-- A transport gets a free link. -/
theorem Link.Sequential.give (sequential : l.Sequential agent) (free : l.Free) {t : Transport}
    {named : Bool} (holds : l.Kept t ∨ named = true) :
    ((l.give t named).goTo agent .idle).Sequential agent := by
  refine sequential.goTo rfl ⟨fun none => ?_, fun t' same => ?_⟩ sequential.renewed ?_
  · cases none
  · cases same
    exact holds
  · change (l.leaked || !(l.cutOff && l.renewed)) = false
    rw [sequential.sealed, free.2, sequential.renewed]
    rfl

theorem Link.Sequential.operate (sequential : l.Sequential agent) :
    (l.operate agent).Sequential agent := by
  have doing := sequential.doing
  have renewed := sequential.renewed
  unfold Link.operate
  cases here : l.calls agent with
  | idle => exact sequential
  | tryBind t =>
      rw [here] at doing
      obtain ⟨waits, cut, holds⟩ := doing
      refine sequential.goTo rfl ?_ renewed sequential.sealed
      split
      case isTrue free => exact ⟨⟨free, cut free⟩, waits⟩
      case isFalse held => exact ⟨fun free => absurd free held, holds⟩
  | setPort t =>
      rw [here] at doing
      exact sequential.give doing.1 (Or.inl doing.2)
  | release t =>
      rw [here] at doing
      obtain ⟨away, free, holds⟩ := doing
      refine sequential.goTo rfl ?_ renewed sequential.sealed
      split
      case isTrue held => exact ⟨held, fun _ _ => away⟩
      case isFalse other =>
        refine ⟨free, fun t' held => holds t' held ?_⟩
        rintro rfl
        exact other held
  | down held want request =>
      rw [here] at doing
      exact sequential.goTo rfl ⟨doing.1, rfl, doing.2⟩ rfl sequential.sealed
  | free held want request =>
      rw [here] at doing
      refine sequential.goTo rfl ?_ renewed sequential.sealed
      cases want with
      | some t => exact ⟨rfl, doing.2.1⟩
      | none =>
          refine ⟨⟨rfl, doing.2.1⟩, fun waits => ?_⟩
          cases request with
          | true => exact Function.update_self ..
          | false => exact absurd ((doing.2.2 rfl rfl).symm.trans waits) Bool.false_ne_true
  | offer freed =>
      rw [here] at doing
      obtain ⟨free, letGo⟩ := doing
      refine sequential.goTo rfl ?_ renewed sequential.sealed
      split
      case isTrue waits =>
        exact ⟨Or.inl waits, fun _ => free.2,
          fun t held => absurd (free.1.symm.trans held) (by simp)⟩
      case isFalse away =>
        refine ⟨fun _ => ⟨free.2, fun t waits => ?_⟩,
          fun t held => absurd (free.1.symm.trans held) (by simp)⟩
        have same : t = freed := by
          by_contra apart
          have other : t = freed.other := by
            revert apart
            cases t <;> cases freed <;> simp [Transport.other]
          exact away (other ▸ waits)
        exact same ▸ letGo (same ▸ waits)
  | request want =>
      rw [here] at doing
      simp only
      split
      case isTrue => exact sequential.goTo rfl doing renewed sequential.sealed
      case isFalse other =>
        cases held : l.port with
        | some holder =>
            exact sequential.goTo rfl ⟨held, fun _ request => nomatch request⟩ renewed
              sequential.sealed
        | none =>
            cases want with
            | some t => exact sequential.goTo rfl ⟨held, (doing.1 held).1⟩ renewed sequential.sealed
            | none => exact absurd held other
  | grant t =>
      rw [here] at doing
      exact sequential.give doing (Or.inr rfl)
  | setup =>
      rw [here] at doing
      refine sequential.goTo rfl ?_ renewed sequential.sealed
      split
      case isTrue waits =>
        exact ⟨Or.inl waits, fun _ => doing.2,
          fun t held => absurd (doing.1.symm.trans held) (by simp)⟩
      case isFalse away => exact ⟨doing, Bool.eq_false_iff.mpr away⟩
  | setupBle =>
      rw [here] at doing
      refine sequential.goTo rfl ?_ renewed sequential.sealed
      split
      case isTrue waits =>
        exact ⟨Or.inl waits, fun _ => doing.1.2,
          fun t held => absurd (doing.1.1.symm.trans held) (by simp)⟩
      case isFalse away =>
        refine ⟨fun _ => ⟨doing.1.2, fun t waits => ?_⟩,
          fun t held => absurd (doing.1.1.symm.trans held) (by simp)⟩
        cases t with
        | usb => exact absurd (doing.2.symm.trans waits) Bool.false_ne_true
        | ble => exact absurd waits away

theorem Link.Sequential.settled (sequential : l.Sequential agent) (rest : l.AtRest) :
    l.Settled := by
  have doing := sequential.doing
  rw [rest agent] at doing
  exact doing

/-- A call that begins alone. -/
theorem Link.Sequential.begin (sequential : l.Sequential agent) (rest : l.AtRest) {next : Link}
    {caller : Agent} (calls : next.calls = l.calls)
    (doing : (next.goTo caller call).Doing call) (renewed : next.renewed = l.renewed)
    (sealed : next.leaked = l.leaked) : (next.goTo caller call).Sequential caller := by
  have alone : l.Sequential caller :=
    ⟨fun other _ => rest other, by rw [rest caller]; exact sequential.settled rest,
      sequential.renewed, sequential.sealed⟩
  exact alone.goTo calls doing (renewed.trans sequential.renewed)
    (sealed.trans sequential.sealed)

/-- The link task leaves what the calls go by as it is. -/
theorem Link.Sequential.serve (sequential : l.Sequential agent)
    (feSwitch applying restarted : Bool)
    (renewed : { l with feSwitch, applying, restarted }.renewed = true) :
    { l with feSwitch, applying, restarted }.Sequential agent where
  others := sequential.others
  doing := by
    have doing := sequential.doing
    change Link.Doing _ (l.calls agent)
    cases here : l.calls agent <;> rw [here] at doing <;> exact doing
  renewed := renewed
  sealed := sequential.sealed

/-! ### Clients that come and leave -/

theorem Link.connected_of_leave {t : Transport} (waits : l.leave.connected t = true) :
    l.connected t = true := by
  change Function.update l.connected .ble false t = true at waits
  cases t with
  | usb => exact waits
  | ble => exact absurd ((Function.update_self ..).symm.trans waits) Bool.false_ne_true

theorem Link.leave_connected {t : Transport} (away : l.connected t = false) :
    l.leave.connected t = false :=
  Bool.eq_false_iff.mpr fun waits =>
    Bool.false_ne_true (away.symm.trans (connected_of_leave waits))

/-- A client that leaves unreported is kept. -/
theorem Link.Kept.leave {t : Transport} (kept : l.Kept t) : l.leave.Kept t := by
  have unseen : l.leave.leftUnseen = (l.leftUnseen || l.connected .ble) := rfl
  rcases kept with waits | ⟨same, left⟩
  · cases t with
    | usb => exact Or.inl waits
    | ble => exact Or.inr ⟨rfl, by rw [unseen, waits, Bool.or_true]⟩
  · exact Or.inr ⟨same, by rw [unseen, left, Bool.true_or]⟩

theorem Link.Settled.leave (settled : l.Settled) : l.leave.Settled :=
  ⟨fun free => ⟨(settled.1 free).1, fun t waits => (settled.1 free).2 t (connected_of_leave waits)⟩,
    fun t held => (settled.2 t held).imp_left Kept.leave⟩

/-- A client that was not reported may leave during any call. -/
theorem Link.Sequential.leave (sequential : l.Sequential agent) : l.leave.Sequential agent where
  others := sequential.others
  doing := by
    have doing := sequential.doing
    change Link.Doing _ (l.calls agent)
    cases here : l.calls agent with
    | idle => rw [here] at doing; exact Settled.leave doing
    | tryBind t =>
        rw [here] at doing
        exact ⟨doing.1.leave, doing.2.1, fun t held => (doing.2.2 t held).imp_left Kept.leave⟩
    | setPort t => rw [here] at doing; exact ⟨doing.1, doing.2.leave⟩
    | release t =>
        rw [here] at doing
        obtain ⟨away, free, holds⟩ := doing
        exact ⟨leave_connected away,
          fun none => ⟨(free none).1, fun t waits => (free none).2 t (connected_of_leave waits)⟩,
          fun t held apart => (holds t held apart).imp_left Kept.leave⟩
    | down held want request =>
        rw [here] at doing
        exact ⟨doing.1, fun none asked => leave_connected (doing.2 none asked)⟩
    | free held want request =>
        rw [here] at doing
        exact ⟨doing.1, doing.2.1, fun none asked => leave_connected (doing.2.2 none asked)⟩
    | offer freed =>
        rw [here] at doing
        exact ⟨doing.1, fun waits => doing.2 (connected_of_leave waits)⟩
    | request want => rw [here] at doing; exact Settled.leave doing
    | grant t => rw [here] at doing; exact doing
    | setup => rw [here] at doing; exact doing
    | setupBle => rw [here] at doing; exact ⟨doing.1, leave_connected doing.2⟩
  renewed := sequential.renewed
  sealed := sequential.sealed

theorem Link.Sequential.connect (sequential : l.Sequential agent) (rest : l.AtRest)
    (t : Transport) : (l.connect t).Sequential t.agent := by
  obtain ⟨free, holds⟩ := sequential.settled rest
  have there : (l.connect t).Kept t := Or.inl (Function.update_self ..)
  refine sequential.begin rest rfl ⟨there, fun none => (free none).1, fun t' held => ?_⟩ rfl rfl
  by_cases same : t' = t
  · exact Or.inl (same ▸ there)
  · refine (holds t' held).imp_left fun kept => ?_
    rcases kept with waits | ⟨ble, left⟩
    · exact Or.inl ((Function.update_of_ne same _ _).trans waits)
    · refine Or.inr ⟨ble, ?_⟩
      have apart : t ≠ .ble := fun other => same (ble.trans other.symm)
      change (l.leftUnseen && t != Transport.ble) = true
      rw [left, bne_iff_ne.mpr apart]
      rfl

theorem Link.Sequential.disconnect (sequential : l.Sequential agent) (rest : l.AtRest)
    (t : Transport) : ∃ next, (l.disconnect t).Sequential next := by
  obtain ⟨free, holds⟩ := sequential.settled rest
  unfold Link.disconnect
  split
  case isTrue => exact ⟨agent, sequential.leave⟩
  case isFalse =>
    refine ⟨t.agent, sequential.begin rest rfl ⟨Function.update_self .., fun none => ⟨(free none).1,
      fun t' waits => ?_⟩, fun t' held apart => ?_⟩ rfl rfl⟩
    · by_cases same : t' = t
      · rw [same] at waits
        exact absurd ((Function.update_self ..).symm.trans waits) Bool.false_ne_true
      · exact (free none).2 t' ((Function.update_of_ne same _ _).symm.trans waits)
    · exact (holds t' held).imp_left fun kept =>
        kept.imp_left (Function.update_of_ne apart _ _).trans

theorem Link.Sequential.step (sequential : l.Sequential agent) {turn : LinkTurn}
    (alone : l.Alone turn) : ∃ next, (l.step turn).Sequential next := by
  have renewed := sequential.renewed
  unfold Link.renewed at renewed
  cases turn with
  | connect t =>
      simp only [Link.step]
      rw [if_pos (alone t.agent)]
      exact ⟨t.agent, sequential.connect alone t⟩
  | disconnect t =>
      simp only [Link.step]
      split
      case isFalse => exact ⟨agent, sequential⟩
      case isTrue =>
        rcases alone with rest | unseen
        · exact sequential.disconnect rest t
        · rw [Link.disconnect, if_pos unseen]
          exact ⟨agent, sequential.leave⟩
  | request want =>
      simp only [Link.step]
      rw [if_pos (alone .main)]
      exact ⟨.main, sequential.begin alone rfl (sequential.settled alone) rfl rfl⟩
  | operate caller =>
      by_cases same : caller = agent
      · exact ⟨agent, same ▸ sequential.operate⟩
      · refine ⟨agent, ?_⟩
        have idle := sequential.others caller same
        simp only [Link.step, Link.operate, idle]
        exact sequential
  | setFrontend =>
      exact ⟨agent, sequential.serve true l.applying l.restarted
        (by simp only [Link.renewed, Bool.or_true, Bool.true_or])⟩
  | takeSwitch =>
      simp only [Link.step]
      split
      · exact ⟨agent, sequential.serve false true l.restarted (Bool.or_true _)⟩
      · exact ⟨agent, sequential⟩
  | applySwitch ok =>
      simp only [Link.step]
      split
      · exact ⟨agent, sequential.serve (l.feSwitch || !ok) false true rfl⟩
      · exact ⟨agent, sequential⟩

end OpenDiag.Comm
