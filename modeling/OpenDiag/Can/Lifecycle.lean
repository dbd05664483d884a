import Mathlib.Algebra.GroupWithZero.Nat
import Mathlib.Data.List.Basic
import OpenDiag.Lib.Run

/-!
# The life of the CAN driver

`can_setup`, `can_bus_teardown`, `can_bus_task` and `can_state_change` in `can_bus.c`: the task that
opens and closes the bus, the worker that recovers the controller, and the interrupt that wakes the
worker when the bus throws the controller off. A turn is one operation of a task that another can
see, or one interrupt, in any order; whether an allocation or a call of the driver succeeds, and
whether a wait ends early, is chosen at each turn. Next to every handle stands the number of its
objects that exist.
-/

namespace OpenDiag.Can

/-- The errors of the modelled calls; `fail` is any that the driver reports. -/
inductive EspErr where
  | ok
  | noMem
  | invalidArg
  | invalidState
  | timeout
  | fail
  deriving DecidableEq, Repr

/-- The errors of a setup that has something to take down. -/
inductive Failure where
  | noMem
  | fail
  deriving DecidableEq, Repr

def Failure.err : Failure → EspErr
  | .noMem => .noMem
  | .fail => .fail

/-- Where `can_bus_task` is. -/
inductive Worker where
  /-- The condition of its loop. -/
  | check
  /-- `ulTaskNotifyTake`. -/
  | take
  /-- The second look at `task_should_exit`. -/
  | recheck
  /-- `twai_node_get_info`. -/
  | info
  /-- `twai_node_recover`. -/
  | recover
  /-- `xSemaphoreGive`, after which the task deletes itself. -/
  | give
  deriving DecidableEq, Repr

/-- Where the task that opens and closes the bus is: each constructor names its next operation.
While the bus is taken down, `why` is the error of the setup that failed, if it was one. -/
inductive Owner where
  | idle
  /-- The queue and the semaphore are created. -/
  | allocate
  /-- `task_should_exit` is cleared. -/
  | allow
  /-- `twai_new_node_onchip`. -/
  | newNode
  /-- `twai_node_register_event_callbacks`. -/
  | register
  /-- `xTaskCreate`. -/
  | createTask
  /-- `twai_node_enable`. -/
  | enable
  /-- The transceiver is let onto the bus. -/
  | drive
  /-- `can_started` is set. -/
  | start
  /-- `can_bus_teardown` clears `can_started`. -/
  | stopSends (why : Option Failure)
  | silence (why : Option Failure)
  /-- `can_bus_stop_task` sets `task_should_exit`. -/
  | forbid (why : Option Failure)
  | await (why : Option Failure)
  /-- `can_bus_release` reads the state of the node. -/
  | status (why : Option Failure)
  | disable (why : Option Failure)
  | deleteNode (why : Option Failure)
  | deleteSemaphore (why : Option Failure)
  | deleteQueue (why : Option Failure)
  deriving DecidableEq, Repr

/-- How a call ended. -/
inductive Outcome where
  | setup (err : EspErr)
  /-- `can_setup` failed, and so did its cleanup. -/
  | setupIncomplete (err : EspErr)
  | teardown (err : EspErr)
  deriving DecidableEq, Repr

structure Driver where
  canNode : Bool := false
  nodes : Nat := 0
  rxFrameQueue : Bool := false
  queues : Nat := 0
  taskExitSemaphore : Bool := false
  semaphores : Nat := 0
  /-- The semaphore has been given. -/
  given : Bool := false
  canBusTaskHandle : Bool := false
  worker : Option Worker := none
  /-- The notification of the worker. -/
  notified : Bool := false
  taskShouldExit : Bool := false
  canStarted : Bool := false
  /-- `PIN_CAN0_SILENT`. -/
  silent : Bool := true
  manualRecovery : Bool := false
  linkDownPending : Bool := false
  /-- The node is enabled. -/
  enabled : Bool := false
  /-- The bus has thrown the node off. -/
  busOff : Bool := false
  /-- The recovery has been asked for. -/
  recovering : Bool := false
  owner : Owner := .idle
  outcome : Option Outcome := none
  deriving DecidableEq, Repr

/-! ## The worker -/

/-- The worker's next operation; `ok` is what the driver answers where it is asked, and where the
worker waits, that it goes on waiting. -/
def Driver.work (d : Driver) (ok : Bool) : Driver :=
  match d.worker with
  | none => d
  | some .check => { d with worker := some (if d.taskShouldExit then .give else .take) }
  | some .take =>
    if d.notified then { d with notified := false, worker := some .recheck }
    else { d with worker := some (if ok then .take else .check) }
  | some .recheck => { d with worker := some (if d.taskShouldExit then .give else .info) }
  | some .info =>
    { d with
      worker := some
        (if ok && (d.busOff || !d.enabled) && !d.manualRecovery then .recover else .check) }
  | some .recover => { d with recovering := ok && d.busOff || d.recovering, worker := some .check }
  | some .give => { d with given := true, worker := none }

/-! ## The interrupt -/

/-- `can_state_change` across the edge of a bus-off. -/
def Driver.wake (d : Driver) : Driver :=
  { d with notified := d.notified || (!d.taskShouldExit && d.canBusTaskHandle) }

/-- The bus throws an enabled node off. -/
def Driver.fall (d : Driver) : Driver :=
  if d.enabled && !d.busOff then
    { d with
      busOff := true, recovering := false
      linkDownPending := d.manualRecovery || d.linkDownPending }.wake
  else d

/-- A recovery that was asked for is over. -/
def Driver.rise (d : Driver) : Driver :=
  if d.enabled && d.busOff && d.recovering then { d with busOff := false, recovering := false }.wake
  else d

/-! ## The task that opens and closes the bus -/

/-- The rates that `can_setup` accepts. -/
def supportedRate (baudRate : Nat) : Bool :=
  baudRate ∈ [1000000, 500000, 250000, 125000, 50000]

/-- The call is over. -/
def Driver.finish (d : Driver) (outcome : Outcome) : Driver :=
  { d with owner := .idle, outcome := some outcome }

/-- `can_bus_teardown` is over, for itself or for the setup that failed. -/
def Driver.tornDown (d : Driver) (why : Option Failure) (err : EspErr) : Driver :=
  match why with
  | none => d.finish (.teardown err)
  | some first => d.finish (if err = .ok then .setup first.err else .setupIncomplete first.err)

/-- The beginning of `can_setup`. -/
def Driver.setup (d : Driver) (baudRate : Nat) (manual : Bool) : Driver :=
  if d.canBusTaskHandle || d.canNode || d.rxFrameQueue || d.taskExitSemaphore then
    d.finish (.setup .invalidState)
  else if !supportedRate baudRate then d.finish (.setup .invalidArg)
  else
    { d with
      manualRecovery := manual, linkDownPending := false, owner := .allocate, outcome := none }

/-- The owner's next operation; `ok` and `more` are what the driver and the system answer. -/
def Driver.own (d : Driver) (ok more : Bool) : Driver :=
  match d.owner with
  | .idle => d
  | .allocate =>
    { d with
      rxFrameQueue := ok, queues := d.queues + ok.toNat
      taskExitSemaphore := more, semaphores := d.semaphores + more.toNat, given := false
      owner := if ok && more then .allow else .stopSends (some .noMem) }
  | .allow => { d with taskShouldExit := false, owner := .newNode }
  | .newNode =>
    { d with
      canNode := ok, nodes := d.nodes + ok.toNat, enabled := false, busOff := false
      recovering := false, owner := if ok then .register else .stopSends (some .fail) }
  | .register => { d with owner := if ok then .createTask else .stopSends (some .fail) }
  | .createTask =>
    if ok then
      { d with
        canBusTaskHandle := true, worker := some .check, notified := false, owner := .enable }
    else { d with canBusTaskHandle := false, owner := .stopSends (some .noMem) }
  | .enable =>
    if ok then { d with enabled := true, owner := .drive }
    else { d with owner := .stopSends (some .fail) }
  | .drive => { d with silent := false, owner := .start }
  | .start => { d with canStarted := true }.finish (.setup .ok)
  | .stopSends why => { d with canStarted := false, owner := .silence why }
  | .silence why => { d with silent := true, owner := .forbid why }
  | .forbid why =>
    { d with
      taskShouldExit := true, owner := if d.canBusTaskHandle then .await why else .status why }
  | .await why =>
    if d.given then { d with given := false, canBusTaskHandle := false, owner := .status why }
    else if ok then d
    else d.tornDown why .timeout
  | .status why =>
    if d.canNode then
      if !ok then d.tornDown why .fail
      else if d.busOff || !d.enabled then { d with owner := .deleteNode why }
      else { d with owner := .disable why }
    else { d with owner := .deleteSemaphore why }
  | .disable why =>
    -- A node that the bus has thrown off in the meantime refuses, and is deleted all the same.
    if d.busOff then { d with owner := .deleteNode why }
    else if ok then { d with enabled := false, owner := .deleteNode why }
    else d.tornDown why .fail
  | .deleteNode why =>
    if ok then
      { d with
        canNode := false, nodes := d.nodes - 1, enabled := false, busOff := false
        recovering := false, owner := .deleteSemaphore why }
    else d.tornDown why .fail
  | .deleteSemaphore why =>
    { d with
      taskExitSemaphore := false, semaphores := d.semaphores - d.taskExitSemaphore.toNat
      owner := .deleteQueue why }
  | .deleteQueue why =>
    { d with
      rxFrameQueue := false, queues := d.queues - d.rxFrameQueue.toNat }.tornDown why .ok

inductive LifeTurn where
  | setup (baudRate : Nat) (manual : Bool)
  | teardown
  /-- The abort of a controlled transmission: the node is disabled, unless the bus has thrown it
  off, and closed later. -/
  | abort (ok : Bool)
  | own (ok more : Bool)
  | work (ok : Bool)
  | fall
  | rise
  deriving DecidableEq, Repr

def Driver.step (d : Driver) : LifeTurn → Driver
  | .setup baudRate manual => if d.owner = .idle then d.setup baudRate manual else d
  | .teardown =>
    if d.owner = .idle then { d with owner := .stopSends none, outcome := none } else d
  | .abort ok =>
    if d.owner = .idle && d.canStarted then
      { d with
        canStarted := false, silent := true, enabled := d.enabled && (!ok || d.busOff) }
    else d
  | .own ok more => d.own ok more
  | .work ok => d.work ok
  | .fall => d.fall
  | .rise => d.rise

/-! ## What exists when -/

def Driver.Closed (d : Driver) : Prop :=
  d.canNode = false ∧ d.rxFrameQueue = false ∧ d.taskExitSemaphore = false ∧
    d.canBusTaskHandle = false

def Driver.Opened (d : Driver) : Prop :=
  d.canNode = true ∧ d.rxFrameQueue = true ∧ d.taskExitSemaphore = true ∧
    d.canBusTaskHandle = true ∧ d.taskShouldExit = false

/-- Something could not be taken down: no setup goes past its guard. -/
def Driver.Left (d : Driver) : Prop :=
  d.canBusTaskHandle = true ∨ d.canNode = true

/-- Nothing is sent, and the transceiver stays off the bus. -/
def Driver.Quiet (d : Driver) : Prop :=
  d.canStarted = false ∧ d.silent = true

/-- What the owner has done so far. -/
def Driver.Phase (d : Driver) : Owner → Prop
  | .idle => d.canStarted = !d.silent ∧
      (d.Closed ∧ d.Quiet ∨ d.Opened ∨ d.Left ∧ d.Quiet)
  | .allocate => d.Closed ∧ d.Quiet
  | .allow => d.canNode = false ∧ d.rxFrameQueue = true ∧ d.taskExitSemaphore = true ∧
      d.canBusTaskHandle = false ∧ d.Quiet
  | .newNode => d.canNode = false ∧ d.rxFrameQueue = true ∧ d.taskExitSemaphore = true ∧
      d.canBusTaskHandle = false ∧ d.taskShouldExit = false ∧ d.Quiet
  | .register | .createTask => d.canNode = true ∧ d.rxFrameQueue = true ∧
      d.taskExitSemaphore = true ∧ d.canBusTaskHandle = false ∧ d.taskShouldExit = false ∧
      d.enabled = false ∧ d.Quiet
  | .enable => d.Opened ∧ d.enabled = false ∧ d.Quiet
  | .drive => d.Opened ∧ d.Quiet
  | .start => d.Opened ∧ d.canStarted = false ∧ d.silent = false
  | .stopSends _ => d.canStarted = !d.silent ∧ (d.canStarted = true → d.Opened)
  | .silence _ => d.canStarted = false ∧ (d.silent = false → d.Opened)
  | .forbid _ => d.Quiet
  | .await _ => d.canBusTaskHandle = true ∧ d.taskShouldExit = true ∧ d.Quiet
  | .status _ => d.canBusTaskHandle = false ∧ d.taskShouldExit = true ∧ d.Quiet
  | .disable _ | .deleteNode _ => d.canNode = true ∧ d.canBusTaskHandle = false ∧
      d.taskShouldExit = true ∧ d.Quiet
  | .deleteSemaphore _ => d.canNode = false ∧ d.canBusTaskHandle = false ∧ d.Quiet
  | .deleteQueue _ => d.canNode = false ∧ d.canBusTaskHandle = false ∧
      d.taskExitSemaphore = false ∧ d.Quiet

/-- What the outcome of the last call says about the driver. -/
def Driver.Meets (d : Driver) : Outcome → Prop
  | .setup .ok => d.Opened
  | .setup .invalidState => d.Opened ∨ d.Left ∧ d.Quiet
  | .setup _ => d.Closed ∧ d.Quiet
  | .setupIncomplete _ => d.Left ∧ d.Quiet
  | .teardown .ok => d.Closed ∧ d.Quiet
  | .teardown _ => d.Left ∧ d.Quiet

/-- The objects are those that the handles name, and the worker is there as long as anything may
refer to it. -/
structure Driver.Sound (d : Driver) : Prop where
  nodes : d.nodes = d.canNode.toNat
  queues : d.queues = d.rxFrameQueue.toNat
  semaphores : d.semaphores = d.taskExitSemaphore.toNat
  worker : d.worker.isSome = true → d.canBusTaskHandle = true
  handle : d.canBusTaskHandle = true → d.canNode = true ∧ d.taskExitSemaphore = true ∧
    (d.worker = none → d.given = true)
  given : d.given = true → d.canBusTaskHandle = true ∧ d.worker = none ∧ d.taskShouldExit = true
  leaving : d.worker = some .give → d.taskShouldExit = true
  enabled : d.enabled = true → d.canNode = true ∧ (d.canBusTaskHandle = true ∨ d.taskShouldExit = true)
  off : d.busOff = true → d.enabled = true
  phase : d.Phase d.owner
  outcome : ∀ outcome ∈ d.outcome, d.owner = .idle ∧ d.Meets outcome

variable {d : Driver}

/-- The worker goes on. -/
theorem Driver.Sound.become (sound : d.Sound) {before : Worker} (here : d.worker = some before)
    (worker : Worker) (leaving : worker = .give → d.taskShouldExit = true)
    (notified recovering : Bool) :
    { d with worker := some worker, notified, recovering }.Sound where
  nodes := sound.nodes
  queues := sound.queues
  semaphores := sound.semaphores
  worker _ := sound.worker (here ▸ rfl)
  handle held := ⟨(sound.handle held).1, (sound.handle held).2.1, fun gone => by cases gone⟩
  given gave := by
    have gone := (sound.given gave).2.1
    rw [here] at gone
    cases gone
  leaving same := leaving (Option.some.inj same)
  enabled := sound.enabled
  off := sound.off
  phase := sound.phase
  outcome := sound.outcome

/-- The worker leaves. -/
theorem Driver.Sound.leave (sound : d.Sound) (here : d.worker = some .give) :
    { d with given := true, worker := none }.Sound where
  nodes := sound.nodes
  queues := sound.queues
  semaphores := sound.semaphores
  worker gone := by cases gone
  handle held := ⟨(sound.handle held).1, (sound.handle held).2.1, fun _ => rfl⟩
  given _ := ⟨sound.worker (here ▸ rfl), rfl, sound.leaving here⟩
  leaving gone := by cases gone
  enabled := sound.enabled
  off := sound.off
  phase := sound.phase
  outcome := sound.outcome

/-- An operation of the worker keeps the driver sound. -/
theorem Driver.Sound.work (sound : d.Sound) (ok : Bool) : (d.work ok).Sound := by
  unfold Driver.work
  split
  case h_1 => exact sound
  case h_2 here =>
    refine sound.become here _ (fun leaves => ?_) d.notified d.recovering
    by_contra stay
    rw [if_neg stay] at leaves
    cases leaves
  case h_3 here =>
    split
    case isTrue => exact sound.become here .recheck (fun leaves => by cases leaves) false d.recovering
    case isFalse =>
      refine sound.become here _ (fun leaves => ?_) d.notified d.recovering
      cases ok <;> cases leaves
  case h_4 here =>
    refine sound.become here _ (fun leaves => ?_) d.notified d.recovering
    by_contra stay
    rw [if_neg stay] at leaves
    cases leaves
  case h_5 here =>
    refine sound.become here _ (fun leaves => ?_) d.notified d.recovering
    split at leaves <;> cases leaves
  case h_6 here => exact sound.become here .check (fun leaves => by cases leaves) d.notified _
  case h_7 here => exact sound.leave here

/-- The interrupt wakes the worker, and notes that the link is down. -/
theorem Driver.Sound.wake (sound : d.Sound) (on : d.enabled = true)
    (busOff recovering linkDownPending : Bool) :
    { d with busOff, recovering, linkDownPending }.wake.Sound :=
  { sound with off := fun _ => on }

theorem Driver.Sound.fall (sound : d.Sound) : d.fall.Sound := by
  unfold Driver.fall
  split
  case isTrue up => exact sound.wake (Bool.and_eq_true_iff.mp up).1 true false _
  case isFalse => exact sound

theorem Driver.Sound.rise (sound : d.Sound) : d.rise.Sound := by
  unfold Driver.rise
  split
  case isTrue up =>
    have on := (Bool.and_eq_true_iff.mp (Bool.and_eq_true_iff.mp up).1).1
    exact sound.wake on false false d.linkDownPending
  case isFalse => exact sound

/-! ## The task that opens and closes the bus -/

/-- A call that is under way has no outcome yet. -/
theorem Driver.Sound.outcome_of_busy (sound : d.Sound) (busy : d.owner ≠ .idle)
    {claim : Outcome → Prop} : ∀ outcome ∈ d.outcome, claim outcome :=
  fun outcome there => absurd (sound.outcome outcome there).1 busy

theorem Driver.Sound.worker_none (sound : d.Sound) (free : d.canBusTaskHandle = false) :
    d.worker = none := by
  cases here : d.worker with
  | none => rfl
  | some worker =>
      have held := sound.worker (here ▸ rfl)
      rw [free] at held
      cases held

theorem Driver.Sound.given_false (sound : d.Sound) (free : d.canBusTaskHandle = false) :
    d.given = false := by
  cases gave : d.given with
  | false => rfl
  | true =>
      have held := (sound.given gave).1
      rw [free] at held
      cases held

/-- The owner goes on to an operation, without anything changing that another can see. -/
theorem Driver.Sound.goTo (sound : d.Sound) (busy : d.owner ≠ .idle) (owner : Owner)
    (phase : { d with owner }.Phase owner) : { d with owner }.Sound :=
  { sound with
    phase
    outcome := sound.outcome_of_busy busy }

/-- A call is over. -/
theorem Driver.Sound.finish (sound : d.Sound) (outcome : Outcome)
    (phase : (d.finish outcome).Phase .idle) (meets : (d.finish outcome).Meets outcome) :
    (d.finish outcome).Sound :=
  { sound with
    phase
    outcome := fun last there => by
      cases there
      exact ⟨rfl, meets⟩ }

/-- The bus is taken down, or what is left of it still is in the way of a setup. -/
theorem Driver.Sound.tornDown (sound : d.Sound) (why : Option Failure) (err : EspErr)
    (quiet : d.Quiet) (left : err ≠ .ok → d.Left) (closed : err = .ok → d.Closed) :
    (d.tornDown why err).Sound := by
  have started : d.canStarted = !d.silent := by rw [quiet.1, quiet.2]; rfl
  have phase : d.Closed ∧ d.Quiet ∨ d.Opened ∨ d.Left ∧ d.Quiet := by
    by_cases ok : err = .ok
    · exact Or.inl ⟨closed ok, quiet⟩
    · exact Or.inr (Or.inr ⟨left ok, quiet⟩)
  cases why with
  | none =>
      refine sound.finish _ ⟨started, phase⟩ ?_
      cases err with
      | ok => exact ⟨closed rfl, quiet⟩
      | noMem => exact ⟨left (by decide), quiet⟩
      | invalidArg => exact ⟨left (by decide), quiet⟩
      | invalidState => exact ⟨left (by decide), quiet⟩
      | timeout => exact ⟨left (by decide), quiet⟩
      | fail => exact ⟨left (by decide), quiet⟩
  | some first =>
      refine sound.finish _ ⟨started, phase⟩ ?_
      split
      case isTrue ok => cases first <;> exact ⟨closed ok, quiet⟩
      case isFalse failed => exact ⟨left failed, quiet⟩

/-- So does a setup that begins, or is refused. -/
theorem Driver.Sound.setup (sound : d.Sound) (idle : d.owner = .idle) (baudRate : Nat)
    (manual : Bool) : (d.setup baudRate manual).Sound := by
  have phase := sound.phase
  rw [idle] at phase
  obtain ⟨started, state⟩ := phase
  unfold Driver.setup
  split
  case isTrue open_ =>
    refine sound.finish _ ⟨started, state⟩ ?_
    rcases state with ⟨⟨node, queue, semaphore, task⟩, _⟩ | rest
    · rw [node, queue, semaphore, task] at open_
      cases open_
    · exact rest
  case isFalse free =>
    simp only [Bool.or_eq_true, not_or, Bool.not_eq_true] at free
    obtain ⟨⟨⟨task, node⟩, queue⟩, semaphore⟩ := free
    have closed : d.Closed := ⟨node, queue, semaphore, task⟩
    have quiet : d.Quiet := by
      rcases state with ⟨_, quiet⟩ | ⟨up, _⟩ | ⟨_, quiet⟩
      · exact quiet
      · rw [node] at up
        cases up
      · exact quiet
    split
    case isTrue => exact sound.finish _ ⟨started, Or.inl ⟨closed, quiet⟩⟩ ⟨closed, quiet⟩
    case isFalse =>
      exact { sound with
        phase := ⟨closed, quiet⟩
        outcome := fun outcome there => by cases there }

/-- A driver that is quiet may stop its sends. -/
theorem Driver.Quiet.stopSends {why : Option Failure} (quiet : d.Quiet) :
    d.Phase (.stopSends why) := by
  refine ⟨by rw [quiet.1, quiet.2]; rfl, fun on => ?_⟩
  rw [quiet.1] at on
  cases on

/-- An operation of the owner while there is no worker: the objects follow the handles. -/
theorem Driver.Sound.without_worker (sound : d.Sound) (busy : d.owner ≠ .idle) {next : Driver}
    (outcome : next.outcome = d.outcome)
    (free : next.canBusTaskHandle = false) (gone : next.worker = none) (gave : next.given = false)
    (nodes : next.nodes = next.canNode.toNat) (queues : next.queues = next.rxFrameQueue.toNat)
    (semaphores : next.semaphores = next.taskExitSemaphore.toNat)
    (enabled : next.enabled = true → next.canNode = true ∧ next.taskShouldExit = true)
    (off : next.busOff = true → next.enabled = true) (phase : next.Phase next.owner) :
    next.Sound where
  nodes := nodes
  queues := queues
  semaphores := semaphores
  worker there := by
    rw [gone] at there
    cases there
  handle held := by
    rw [free] at held
    cases held
  given held := by
    rw [gave] at held
    cases held
  leaving there := by
    rw [gone] at there
    cases there
  enabled on := ⟨(enabled on).1, Or.inr (enabled on).2⟩
  off := off
  phase := phase
  outcome := outcome ▸ sound.outcome_of_busy busy

/-- Where the owner is tells how far the driver is. -/
theorem Driver.Sound.phase_at (sound : d.Sound) {owner : Owner} (here : d.owner = owner) :
    d.Phase owner :=
  here ▸ sound.phase

section Stages

variable {why : Option Failure}

/-- The queue and the semaphore are counted as they come. -/
theorem Driver.Sound.own_allocate (sound : d.Sound) (here : d.owner = .allocate)
    (ok more : Bool) : (d.own ok more).Sound := by
  obtain ⟨⟨node, queue, semaphore, task⟩, quiet⟩ := sound.phase_at here
  have queues := sound.queues
  have semaphores := sound.semaphores
  rw [queue] at queues
  rw [semaphore] at semaphores
  simp only [Driver.own, here]
  refine sound.without_worker (by simp [here]) rfl task (sound.worker_none task) rfl
    sound.nodes ?_ ?_ (fun on => ?_) sound.off ?_
  · change d.queues + ok.toNat = ok.toNat
    rw [queues, Bool.toNat_false, Nat.zero_add]
  · change d.semaphores + more.toNat = more.toNat
    rw [semaphores, Bool.toNat_false, Nat.zero_add]
  · have up := (sound.enabled on).1
    rw [node] at up
    cases up
  · cases ok <;> cases more
    · exact Quiet.stopSends ⟨quiet.1, quiet.2⟩
    · exact Quiet.stopSends ⟨quiet.1, quiet.2⟩
    · exact Quiet.stopSends ⟨quiet.1, quiet.2⟩
    · exact ⟨node, rfl, rfl, task, quiet⟩

theorem Driver.Sound.own_allow (sound : d.Sound) (here : d.owner = .allow)
    (ok more : Bool) : (d.own ok more).Sound := by
  obtain ⟨node, queue, semaphore, task, quiet⟩ := sound.phase_at here
  simp only [Driver.own, here]
  refine sound.without_worker (by simp [here]) rfl task (sound.worker_none task)
    (sound.given_false task) sound.nodes sound.queues sound.semaphores (fun on => ?_) sound.off
    ⟨node, queue, semaphore, task, rfl, quiet⟩
  have up := (sound.enabled on).1
  rw [node] at up
  cases up

/-- A node is counted where there was none. -/
theorem Driver.Sound.own_newNode (sound : d.Sound) (here : d.owner = .newNode)
    (ok more : Bool) : (d.own ok more).Sound := by
  obtain ⟨node, queue, semaphore, task, exit, quiet⟩ := sound.phase_at here
  have nodes := sound.nodes
  rw [node] at nodes
  simp only [Driver.own, here]
  refine sound.without_worker (by simp [here]) rfl task (sound.worker_none task)
    (sound.given_false task) ?_ sound.queues sound.semaphores (fun on => nomatch on)
    (fun thrown => nomatch thrown) ?_
  · change d.nodes + ok.toNat = ok.toNat
    rw [nodes, Bool.toNat_false, Nat.zero_add]
  · cases ok
    · exact Quiet.stopSends ⟨quiet.1, quiet.2⟩
    · exact ⟨rfl, queue, semaphore, task, exit, rfl, quiet⟩

theorem Driver.Sound.own_register (sound : d.Sound) (here : d.owner = .register)
    (ok more : Bool) : (d.own ok more).Sound := by
  have phase := sound.phase_at here
  simp only [Driver.own, here]
  refine sound.goTo (by simp [here]) _ ?_
  cases ok
  · exact Quiet.stopSends phase.2.2.2.2.2.2
  · exact phase

/-- The worker comes with its handle. -/
theorem Driver.Sound.own_createTask (sound : d.Sound) (here : d.owner = .createTask)
    (ok more : Bool) : (d.own ok more).Sound := by
  obtain ⟨node, queue, semaphore, task, exit, off, quiet⟩ := sound.phase_at here
  simp only [Driver.own, here]
  split
  case isTrue =>
    exact { sound with
      worker := fun _ => rfl
      handle := fun _ => ⟨node, semaphore, fun gone => by cases gone⟩
      given := fun gave => by
        change d.given = true at gave
        rw [sound.given_false task] at gave
        cases gave
      leaving := fun there => by cases there
      enabled := fun on => ⟨(sound.enabled on).1, Or.inl rfl⟩
      phase := ⟨⟨node, queue, semaphore, rfl, exit⟩, off, quiet⟩
      outcome := sound.outcome_of_busy (by simp [here]) }
  case isFalse =>
    refine sound.without_worker (by simp [here]) rfl rfl (sound.worker_none task)
      (sound.given_false task) sound.nodes sound.queues sound.semaphores (fun on => ?_)
      sound.off (Quiet.stopSends quiet)
    change d.enabled = true at on
    rw [off] at on
    cases on

/-- A node is enabled only with its worker there. -/
theorem Driver.Sound.own_enable (sound : d.Sound) (here : d.owner = .enable)
    (ok more : Bool) : (d.own ok more).Sound := by
  obtain ⟨⟨node, queue, semaphore, task, exit⟩, _, quiet⟩ := sound.phase_at here
  simp only [Driver.own, here]
  split
  case isTrue =>
    exact { sound with
      enabled := fun _ => ⟨node, Or.inl task⟩
      off := fun _ => rfl
      phase := ⟨⟨node, queue, semaphore, task, exit⟩, quiet⟩
      outcome := sound.outcome_of_busy (by simp [here]) }
  case isFalse => exact sound.goTo (by simp [here]) _ (Quiet.stopSends quiet)

theorem Driver.Sound.own_drive (sound : d.Sound) (here : d.owner = .drive)
    (ok more : Bool) : (d.own ok more).Sound := by
  have phase := sound.phase_at here
  simp only [Driver.own, here]
  exact { sound with
    phase := ⟨phase.1, phase.2.1, rfl⟩
    outcome := sound.outcome_of_busy (by simp [here]) }

theorem Driver.Sound.own_start (sound : d.Sound) (here : d.owner = .start)
    (ok more : Bool) : (d.own ok more).Sound := by
  obtain ⟨opened, _, driven⟩ := sound.phase_at here
  have started : { d with canStarted := true, owner := .idle }.Sound :=
    { sound with
      phase := ⟨by rw [driven]; rfl, Or.inr (Or.inl opened)⟩
      outcome := sound.outcome_of_busy (by simp [here]) }
  simp only [Driver.own, here]
  exact started.finish _ started.phase opened

theorem Driver.Sound.own_stopSends (sound : d.Sound) (here : d.owner = .stopSends why)
    (ok more : Bool) : (d.own ok more).Sound := by
  have phase := sound.phase_at here
  simp only [Driver.own, here]
  exact { sound with
    phase := ⟨rfl, fun driven => phase.2 (by rw [phase.1, driven]; rfl)⟩
    outcome := sound.outcome_of_busy (by simp [here]) }

theorem Driver.Sound.own_silence (sound : d.Sound) (here : d.owner = .silence why)
    (ok more : Bool) : (d.own ok more).Sound := by
  have phase := sound.phase_at here
  simp only [Driver.own, here]
  exact { sound with
    phase := ⟨phase.1, rfl⟩
    outcome := sound.outcome_of_busy (by simp [here]) }

/-- From here on the worker leaves when it next looks. -/
theorem Driver.Sound.own_forbid (sound : d.Sound) (here : d.owner = .forbid why)
    (ok more : Bool) : (d.own ok more).Sound := by
  have phase := sound.phase_at here
  simp only [Driver.own, here]
  exact { sound with
    given := fun gave => ⟨(sound.given gave).1, (sound.given gave).2.1, rfl⟩
    leaving := fun _ => rfl
    enabled := fun on => ⟨(sound.enabled on).1, Or.inr rfl⟩
    phase := by
      cases held : d.canBusTaskHandle with
      | true => exact ⟨rfl, rfl, phase⟩
      | false => exact ⟨rfl, rfl, phase⟩
    outcome := sound.outcome_of_busy (by simp [here]) }

/-- The handle goes once the worker has said that it is gone. -/
theorem Driver.Sound.own_await (sound : d.Sound) (here : d.owner = .await why)
    (ok more : Bool) : (d.own ok more).Sound := by
  obtain ⟨held, exit, quiet⟩ := sound.phase_at here
  simp only [Driver.own, here]
  split
  case isTrue gave =>
    exact sound.without_worker (by simp [here]) rfl rfl (sound.given gave).2.1 rfl sound.nodes
      sound.queues sound.semaphores (fun on => ⟨(sound.enabled on).1, exit⟩) sound.off
      ⟨rfl, exit, quiet⟩
  case isFalse =>
    split
    case isTrue => exact sound
    case isFalse =>
      exact sound.tornDown why .timeout quiet (fun _ => Or.inl held) (fun ok => by cases ok)

/-- Only a node that is there is asked for its state. -/
theorem Driver.Sound.own_status (sound : d.Sound) (here : d.owner = .status why)
    (ok more : Bool) : (d.own ok more).Sound := by
  obtain ⟨free, exit, quiet⟩ := sound.phase_at here
  simp only [Driver.own, here]
  split
  case isTrue node =>
    split
    case isTrue =>
      exact sound.tornDown why .fail quiet (fun _ => Or.inr node) (fun ok => by cases ok)
    case isFalse =>
      split
      case isTrue =>
        exact sound.goTo (by simp [here]) (.deleteNode why) ⟨node, free, exit, quiet⟩
      case isFalse =>
        exact sound.goTo (by simp [here]) (.disable why) ⟨node, free, exit, quiet⟩
  case isFalse missing =>
    exact sound.goTo (by simp [here]) (.deleteSemaphore why)
      ⟨Bool.eq_false_iff.mpr missing, free, quiet⟩

theorem Driver.Sound.own_disable (sound : d.Sound) (here : d.owner = .disable why)
    (ok more : Bool) : (d.own ok more).Sound := by
  obtain ⟨node, free, exit, quiet⟩ := sound.phase_at here
  simp only [Driver.own, here]
  split
  case isTrue =>
    exact sound.goTo (by simp [here]) (.deleteNode why) ⟨node, free, exit, quiet⟩
  case isFalse holding =>
    split
    case isTrue =>
      exact sound.without_worker (by simp [here]) rfl free (sound.worker_none free)
        (sound.given_false free) sound.nodes sound.queues sound.semaphores
        (fun on => nomatch on) (fun thrown => absurd thrown holding) ⟨node, free, exit, quiet⟩
    case isFalse =>
      exact sound.tornDown why .fail quiet (fun _ => Or.inr node) (fun ok => by cases ok)

theorem Driver.Sound.own_deleteNode (sound : d.Sound) (here : d.owner = .deleteNode why)
    (ok more : Bool) : (d.own ok more).Sound := by
  obtain ⟨node, free, exit, quiet⟩ := sound.phase_at here
  have nodes := sound.nodes
  simp only [Driver.own, here]
  split
  case isTrue =>
    refine sound.without_worker (by simp [here]) rfl free (sound.worker_none free)
      (sound.given_false free) ?_ sound.queues sound.semaphores (fun on => nomatch on)
      (fun thrown => nomatch thrown) ⟨rfl, free, quiet⟩
    change d.nodes - 1 = 0
    rw [nodes, node]
    rfl
  case isFalse =>
    exact sound.tornDown why .fail quiet (fun _ => Or.inr node) (fun ok => by cases ok)

theorem Driver.Sound.own_deleteSemaphore (sound : d.Sound) (here : d.owner = .deleteSemaphore why)
    (ok more : Bool) : (d.own ok more).Sound := by
  obtain ⟨node, free, quiet⟩ := sound.phase_at here
  simp only [Driver.own, here]
  refine sound.without_worker (by simp [here]) rfl free (sound.worker_none free)
    (sound.given_false free) sound.nodes sound.queues ?_ (fun on => ?_) sound.off
    ⟨node, free, rfl, quiet⟩
  · change d.semaphores - d.taskExitSemaphore.toNat = 0
    rw [sound.semaphores, Nat.sub_self]
  · have up := (sound.enabled on).1
    rw [node] at up
    cases up

/-- With the queue everything is gone. -/
theorem Driver.Sound.own_deleteQueue (sound : d.Sound) (here : d.owner = .deleteQueue why)
    (ok more : Bool) : (d.own ok more).Sound := by
  obtain ⟨node, free, semaphore, quiet⟩ := sound.phase_at here
  have emptied : { d with
      rxFrameQueue := false, queues := d.queues - d.rxFrameQueue.toNat }.Sound := by
    refine { sound with
      queues := ?_, phase := ?_, outcome := sound.outcome_of_busy (by simp [here]) }
    · change d.queues - d.rxFrameQueue.toNat = 0
      rw [sound.queues, Nat.sub_self]
    · change Driver.Phase _ d.owner
      rw [here]
      exact ⟨node, free, semaphore, quiet⟩
  simp only [Driver.own, here]
  exact emptied.tornDown why .ok quiet (fun failed => absurd rfl failed)
    (fun _ => ⟨node, rfl, semaphore, free⟩)

end Stages

/-- Every operation of the owner keeps the driver sound, stage by stage. -/
theorem Driver.Sound.own (sound : d.Sound) (ok more : Bool) : (d.own ok more).Sound := by
  cases here : d.owner with
  | idle =>
      simp only [Driver.own, here]
      exact sound
  | allocate => exact sound.own_allocate here ok more
  | allow => exact sound.own_allow here ok more
  | newNode => exact sound.own_newNode here ok more
  | register => exact sound.own_register here ok more
  | createTask => exact sound.own_createTask here ok more
  | enable => exact sound.own_enable here ok more
  | drive => exact sound.own_drive here ok more
  | start => exact sound.own_start here ok more
  | stopSends why => exact sound.own_stopSends here ok more
  | silence why => exact sound.own_silence here ok more
  | forbid why => exact sound.own_forbid here ok more
  | await why => exact sound.own_await here ok more
  | status why => exact sound.own_status here ok more
  | disable why => exact sound.own_disable here ok more
  | deleteNode why => exact sound.own_deleteNode here ok more
  | deleteSemaphore why => exact sound.own_deleteSemaphore here ok more
  | deleteQueue why => exact sound.own_deleteQueue here ok more

/-! ## Every run -/

/-- An owner that is at rest on a bus that is started has it open. -/
theorem Driver.Sound.opened (sound : d.Sound) (idle : d.owner = .idle)
    (started : d.canStarted = true) : d.Opened := by
  have phase := sound.phase
  rw [idle] at phase
  rcases phase.2 with ⟨_, quiet⟩ | opened | ⟨_, quiet⟩
  · exact absurd (quiet.1.symm.trans started) Bool.false_ne_true
  · exact opened
  · exact absurd (quiet.1.symm.trans started) Bool.false_ne_true

/-- An abort silences an open bus. -/
theorem Driver.Sound.abort (sound : d.Sound) (idle : d.owner = .idle)
    (started : d.canStarted = true) (ok : Bool) :
    { d with
      canStarted := false, silent := true, enabled := d.enabled && (!ok || d.busOff) }.Sound := by
  have opened := sound.opened idle started
  refine { sound with
    enabled := fun on => ?_, off := fun thrown => ?_, phase := ?_, outcome := fun last there => ?_ }
  · exact sound.enabled (Bool.and_eq_true_iff.mp on).1
  · change d.busOff = true at thrown
    rw [sound.off thrown, thrown, Bool.or_true]
    rfl
  · change Driver.Phase _ d.owner
    rw [idle]
    exact ⟨rfl, Or.inr (Or.inl opened)⟩
  · refine ⟨idle, ?_⟩
    have meets := (sound.outcome last there).2
    have held : d.Closed → False := fun closed => Bool.false_ne_true (closed.1.symm.trans opened.1)
    cases last with
    | setup err =>
        cases err with
        | ok => exact meets
        | invalidState => exact Or.inl opened
        | noMem => exact (held meets.1).elim
        | invalidArg => exact (held meets.1).elim
        | timeout => exact (held meets.1).elim
        | fail => exact (held meets.1).elim
    | setupIncomplete err => exact ⟨meets.1, rfl, rfl⟩
    | teardown err =>
        cases err with
        | ok => exact (held meets.1).elim
        | invalidState => exact ⟨meets.1, rfl, rfl⟩
        | noMem => exact ⟨meets.1, rfl, rfl⟩
        | invalidArg => exact ⟨meets.1, rfl, rfl⟩
        | timeout => exact ⟨meets.1, rfl, rfl⟩
        | fail => exact ⟨meets.1, rfl, rfl⟩

/-- Every turn keeps the driver sound. -/
theorem Driver.Sound.step (sound : d.Sound) (turn : LifeTurn) : (d.step turn).Sound := by
  cases turn with
  | setup baudRate manual =>
      simp only [Driver.step]
      split
      case isTrue idle => exact sound.setup idle baudRate manual
      case isFalse => exact sound
  | teardown =>
      simp only [Driver.step]
      split
      case isTrue idle =>
        have phase := sound.phase
        rw [idle] at phase
        exact { sound with
          phase := ⟨phase.1, fun started => sound.opened idle started⟩
          outcome := fun last there => by cases there }
      case isFalse => exact sound
  | abort ok =>
      simp only [Driver.step]
      split
      case isTrue may =>
        have both := Bool.and_eq_true_iff.mp may
        exact sound.abort (of_decide_eq_true both.1) both.2 ok
      case isFalse => exact sound
  | own ok more => exact sound.own ok more
  | work ok => exact sound.work ok
  | fall => exact sound.fall
  | rise => exact sound.rise

/-- What the rest of the firmware may rely on. -/
structure Driver.Safe (d : Driver) : Prop where
  /-- No object exists without its handle, and no handle without its object. -/
  objects : d.nodes = d.canNode.toNat ∧ d.queues = d.rxFrameQueue.toNat ∧
    d.semaphores = d.taskExitSemaphore.toNat
  /-- The node and the semaphore outlive the worker. -/
  worker : d.worker.isSome = true → d.nodes = 1 ∧ d.semaphores = 1
  /-- The interrupt notifies no task that has deleted itself. -/
  interrupt : d.canBusTaskHandle = true → d.taskShouldExit = false → d.worker.isSome = true
  /-- The transceiver is let onto the bus only while everything is there. -/
  driven : d.silent = false → d.Opened
  /-- Frames are sent only then. -/
  started : d.canStarted = true → d.Opened
  outcome : ∀ outcome ∈ d.outcome, d.Meets outcome

/-- Whoever is on the bus, or may send, has everything. -/
theorem Driver.Sound.opened_of_loud (sound : d.Sound)
    (loud : d.silent = false ∨ d.canStarted = true) : d.Opened := by
  have phase := sound.phase
  have unquiet : ¬ d.Quiet := by
    rintro ⟨stopped, silent⟩
    rcases loud with driven | started
    · exact Bool.false_ne_true (driven.symm.trans silent)
    · exact Bool.false_ne_true (stopped.symm.trans started)
  have both (same : d.canStarted = !d.silent) : d.canStarted = true := by
    rcases loud with driven | started
    · rw [same, driven]
      rfl
    · exact started
  cases here : d.owner with
  | idle =>
      rw [here] at phase
      exact sound.opened here (both phase.1)
  | start => rw [here] at phase; exact phase.1
  | stopSends why =>
      rw [here] at phase
      exact phase.2 (both phase.1)
  | silence why =>
      rw [here] at phase
      rcases loud with driven | started
      · exact phase.2 driven
      · exact (Bool.false_ne_true (phase.1.symm.trans started)).elim
  | allocate => rw [here] at phase; exact (unquiet phase.2).elim
  | allow => rw [here] at phase; exact (unquiet phase.2.2.2.2).elim
  | newNode => rw [here] at phase; exact (unquiet phase.2.2.2.2.2).elim
  | register => rw [here] at phase; exact (unquiet phase.2.2.2.2.2.2).elim
  | createTask => rw [here] at phase; exact (unquiet phase.2.2.2.2.2.2).elim
  | enable => rw [here] at phase; exact (unquiet phase.2.2).elim
  | drive => rw [here] at phase; exact (unquiet phase.2).elim
  | forbid why => rw [here] at phase; exact (unquiet phase).elim
  | await why => rw [here] at phase; exact (unquiet phase.2.2).elim
  | status why => rw [here] at phase; exact (unquiet phase.2.2).elim
  | disable why => rw [here] at phase; exact (unquiet phase.2.2.2).elim
  | deleteNode why => rw [here] at phase; exact (unquiet phase.2.2.2).elim
  | deleteSemaphore why => rw [here] at phase; exact (unquiet phase.2.2).elim
  | deleteQueue why => rw [here] at phase; exact (unquiet phase.2.2.2).elim

/-- What is sound is safe. -/
theorem Driver.Sound.safe (sound : d.Sound) : d.Safe where
  objects := ⟨sound.nodes, sound.queues, sound.semaphores⟩
  worker there := by
    obtain ⟨node, semaphore, _⟩ := sound.handle (sound.worker there)
    rw [sound.nodes, sound.semaphores, node, semaphore]
    exact ⟨rfl, rfl⟩
  interrupt held allowed := by
    cases here : d.worker with
    | some worker => rfl
    | none =>
        have exit := (sound.given ((sound.handle held).2.2 here)).2.2
        exact absurd (allowed.symm.trans exit) Bool.false_ne_true
  driven driven := sound.opened_of_loud (Or.inl driven)
  started started := sound.opened_of_loud (Or.inr started)
  outcome last there := (sound.outcome last there).2

/-- Every run keeps the driver sound, by induction on its turns. -/
theorem Driver.sound_run (turns : List LifeTurn) : (run Driver.step {} turns).Sound := by
  refine run_invariant Driver.Sound (fun d turn sound => sound.step turn) ?_ turns
  refine ⟨rfl, rfl, rfl, fun there => ?_, fun held => ?_, fun gave => ?_, fun there => ?_,
    fun on => ?_, fun thrown => ?_, ⟨rfl, Or.inl ⟨⟨rfl, rfl, rfl, rfl⟩, rfl, rfl⟩⟩,
    fun last there => ?_⟩
  · cases there
  · cases held
  · cases gave
  · cases there
  · cases on
  · cases thrown
  · cases there

/-- However setups, teardowns, aborts, the worker and the interrupt interleave, and whatever fails:
nothing leaks, the worker and the interrupt touch only what exists, the transceiver drives the bus
only while everything is up, and a call that returned has left what its result says. -/
theorem driver_safe (turns : List LifeTurn) : (run Driver.step {} turns).Safe :=
  (Driver.sound_run turns).safe

/-! ## No bus-off is missed -/

/-- The worker has yet to see that the bus has thrown the controller off. -/
def Driver.Unseen (d : Driver) : Prop :=
  d.notified = true ∨ d.worker = some .recheck ∨ d.worker = some .info ∨ d.worker = some .recover

/-- A controller that is off, and that nobody else is to recover. -/
def Driver.Thrown (d : Driver) : Prop :=
  d.enabled = true ∧ d.busOff = true ∧ d.recovering = false ∧ d.manualRecovery = false ∧
    d.taskShouldExit = false

/-- The driver answers the worker. -/
def Driver.Answers (d : Driver) (turn : LifeTurn) : Prop :=
  turn = .work false → d.worker ≠ some .info ∧ d.worker ≠ some .recover

instance (d : Driver) (turn : LifeTurn) : Decidable (d.Answers turn) :=
  inferInstanceAs (Decidable (_ → _))

/-- A turn that changes nothing of what the worker has to see. -/
theorem Driver.unseen_of_same {next : Driver} (unseen : d.Thrown → d.Unseen)
    (notified : next.notified = d.notified) (worker : next.worker = d.worker)
    (thrown : next.Thrown → d.Thrown) : next.Thrown → next.Unseen := by
  intro now
  unfold Unseen
  rw [notified, worker]
  exact unseen (thrown now)

/-- An enabled node has its worker, unless the worker is to leave. -/
theorem Driver.Sound.held_of_enabled (sound : d.Sound) (on : d.enabled = true)
    (allowed : d.taskShouldExit = false) : d.canBusTaskHandle = true := by
  rcases (sound.enabled on).2 with held | exit
  · exact held
  · exact absurd (allowed.symm.trans exit) Bool.false_ne_true

/-- No operation of the owner hides a bus-off from the worker. -/
theorem Driver.Sound.unseen_own (sound : d.Sound) (unseen : d.Thrown → d.Unseen)
    (ok more : Bool) : (d.own ok more).Thrown → (d.own ok more).Unseen := by
  have phase := sound.phase
  cases here : d.owner with
  | allow =>
      rw [here] at phase
      simp only [Driver.own, here]
      intro thrown
      have node := (sound.enabled thrown.1).1
      exact absurd (phase.1.symm.trans node) Bool.false_ne_true
  | newNode =>
      simp only [Driver.own, here]
      intro thrown
      cases thrown.1
  | createTask =>
      rw [here] at phase
      simp only [Driver.own, here]
      have off := phase.2.2.2.2.2.1
      split
      · exact fun thrown => absurd (off.symm.trans thrown.1) Bool.false_ne_true
      · exact fun thrown => absurd (off.symm.trans thrown.1) Bool.false_ne_true
  | enable =>
      rw [here] at phase
      simp only [Driver.own, here]
      split
      · exact fun thrown =>
          absurd (phase.2.1.symm.trans (sound.off thrown.2.1)) Bool.false_ne_true
      · exact unseen_of_same unseen rfl rfl id
  | disable why =>
      simp only [Driver.own, here]
      split
      · exact unseen_of_same unseen rfl rfl id
      · split
        · exact fun thrown => nomatch thrown.1
        · cases why <;> exact unseen_of_same unseen rfl rfl id
  | deleteNode why =>
      simp only [Driver.own, here]
      split
      · exact fun thrown => nomatch thrown.1
      · cases why <;> exact unseen_of_same unseen rfl rfl id
  | forbid why =>
      simp only [Driver.own, here]
      exact fun thrown => nomatch thrown.2.2.2.2
  | await why =>
      simp only [Driver.own, here]
      split
      · exact unseen_of_same unseen rfl rfl id
      · split
        · exact unseen
        · cases why <;> exact unseen_of_same unseen rfl rfl id
  | status why =>
      simp only [Driver.own, here]
      split
      · split
        · cases why <;> exact unseen_of_same unseen rfl rfl id
        · split <;> exact unseen_of_same unseen rfl rfl id
      · exact unseen_of_same unseen rfl rfl id
  | deleteQueue why =>
      simp only [Driver.own, here]
      cases why <;> exact unseen_of_same unseen rfl rfl id
  | idle => simpa only [Driver.own, here] using unseen
  | allocate =>
      simp only [Driver.own, here]
      exact unseen_of_same unseen rfl rfl id
  | register =>
      simp only [Driver.own, here]
      exact unseen_of_same unseen rfl rfl id
  | drive =>
      simp only [Driver.own, here]
      exact unseen_of_same unseen rfl rfl id
  | start =>
      simp only [Driver.own, here]
      exact unseen_of_same unseen rfl rfl id
  | stopSends why =>
      simp only [Driver.own, here]
      exact unseen_of_same unseen rfl rfl id
  | silence why =>
      simp only [Driver.own, here]
      exact unseen_of_same unseen rfl rfl id
  | deleteSemaphore why =>
      simp only [Driver.own, here]
      exact unseen_of_same unseen rfl rfl id

theorem Driver.Sound.unseen_work (sound : d.Sound) (unseen : d.Thrown → d.Unseen) {ok : Bool}
    (answers : d.Answers (.work ok)) : (d.work ok).Thrown → (d.work ok).Unseen := by
  cases here : d.worker with
  | none => simpa only [Driver.work, here] using unseen
  | some worker =>
      cases worker with
      | check =>
          simp only [Driver.work, here]
          intro thrown
          rcases unseen thrown with notified | there | there | there
          · exact Or.inl notified
          all_goals
            rw [here] at there
            cases there
      | take =>
          simp only [Driver.work, here]
          split
          case isTrue => exact fun _ => Or.inr (Or.inl rfl)
          case isFalse quiet =>
            intro thrown
            rcases unseen thrown with notified | there | there | there
            · exact absurd notified quiet
            all_goals
              rw [here] at there
              cases there
      | recheck =>
          simp only [Driver.work, here]
          intro thrown
          have allowed : d.taskShouldExit = false := thrown.2.2.2.2
          refine Or.inr (Or.inr (Or.inl ?_))
          rw [allowed]
          rfl
      | info =>
          simp only [Driver.work, here]
          intro thrown
          have off : d.busOff = true := thrown.2.1
          have automatic : d.manualRecovery = false := thrown.2.2.2.1
          cases ok with
          | false => exact absurd here (answers rfl).1
          | true =>
              refine Or.inr (Or.inr (Or.inr ?_))
              rw [off, automatic]
              rfl
      | recover =>
          simp only [Driver.work, here]
          intro thrown
          have off : d.busOff = true := thrown.2.1
          have waiting : (ok && d.busOff || d.recovering) = false := thrown.2.2.1
          cases ok with
          | false => exact absurd here (answers rfl).2
          | true =>
              rw [off] at waiting
              cases waiting
      | give =>
          simp only [Driver.work, here]
          intro thrown
          have allowed : d.taskShouldExit = false := thrown.2.2.2.2
          exact absurd (allowed.symm.trans (sound.leaving here)) Bool.false_ne_true

theorem Driver.Sound.unseen_step (sound : d.Sound) (unseen : d.Thrown → d.Unseen) {turn : LifeTurn}
    (answers : d.Answers turn) : (d.step turn).Thrown → (d.step turn).Unseen := by
  cases turn with
  | setup baudRate manual =>
      simp only [Driver.step]
      split
      case isFalse => exact unseen
      case isTrue =>
        unfold Driver.setup
        split
        case isTrue => exact unseen_of_same unseen rfl rfl id
        case isFalse free =>
          split
          case isTrue => exact unseen_of_same unseen rfl rfl id
          case isFalse =>
            intro thrown
            have node : d.canNode = true := (sound.enabled thrown.1).1
            rw [node, Bool.or_true, Bool.true_or] at free
            exact absurd rfl free
  | teardown =>
      simp only [Driver.step]
      split
      · exact unseen_of_same unseen rfl rfl id
      · exact unseen
  | abort ok =>
      simp only [Driver.step]
      split
      · exact unseen_of_same unseen rfl rfl fun thrown =>
          ⟨(Bool.and_eq_true_iff.mp thrown.1).1, thrown.2⟩
      · exact unseen
  | own ok more => exact sound.unseen_own unseen ok more
  | work ok => exact sound.unseen_work unseen answers
  | fall =>
      simp only [Driver.step, Driver.fall]
      split
      · intro thrown
        have allowed : d.taskShouldExit = false := thrown.2.2.2.2
        have held := sound.held_of_enabled thrown.1 allowed
        refine Or.inl ?_
        change (d.notified || (!d.taskShouldExit && d.canBusTaskHandle)) = true
        rw [allowed, held]
        exact Bool.or_true _
      · exact unseen
  | rise =>
      simp only [Driver.step, Driver.rise]
      split
      · exact fun thrown => nomatch thrown.2.1
      · exact unseen

/-- How many operations the worker has left until it has asked for the recovery. -/
def Driver.toRecover (d : Driver) : Nat :=
  match d.worker with
  | some .check => 5
  | some .take => 4
  | some .recheck => 3
  | some .info => 2
  | _ => 1

/-- Each operation of the worker brings the recovery of a controller that was thrown off closer. -/
theorem Driver.Sound.work_thrown (sound : d.Sound) (thrown : d.Thrown) (unseen : d.Unseen)
    {ok : Bool} (answers : d.Answers (.work ok)) :
    (d.work ok).recovering = true ∨
      (d.work ok).Thrown ∧ (d.work ok).toRecover + 1 ≤ d.toRecover := by
  obtain ⟨on, off, waiting, automatic, allowed⟩ := thrown
  have held := sound.held_of_enabled on allowed
  cases here : d.worker with
  | none =>
      have there := sound.safe.interrupt held allowed
      rw [here] at there
      cases there
  | some worker =>
      cases worker with
      | check =>
          refine Or.inr ?_
          simp only [Driver.work, here, allowed]
          exact ⟨⟨on, off, waiting, automatic, rfl⟩, by simp [toRecover, here]⟩
      | take =>
          have notified : d.notified = true := by
            rcases unseen with notified | there | there | there
            · exact notified
            all_goals
              rw [here] at there
              cases there
          refine Or.inr ?_
          simp only [Driver.work, here, notified]
          exact ⟨⟨on, off, waiting, automatic, allowed⟩, by simp [toRecover, here]⟩
      | recheck =>
          refine Or.inr ?_
          simp only [Driver.work, here, allowed]
          exact ⟨⟨on, off, waiting, automatic, rfl⟩, by simp [toRecover, here]⟩
      | info =>
          cases ok with
          | false => exact absurd here (answers rfl).1
          | true =>
              refine Or.inr ?_
              simp only [Driver.work, here, off, automatic]
              exact ⟨⟨on, rfl, waiting, rfl, allowed⟩, by simp [toRecover, here]⟩
      | recover =>
          cases ok with
          | false => exact absurd here (answers rfl).2
          | true =>
              refine Or.inl ?_
              simp only [Driver.work, here, off]
              rfl
      | give => exact absurd (allowed.symm.trans (sound.leaving here)) Bool.false_ne_true

/-- The owner is about to ask the worker to leave: the bus is being closed. -/
def Driver.closes (d : Driver) : LifeTurn → Bool
  | .own _ _ =>
    match d.owner with
    | .forbid _ => true
    | _ => false
  | _ => false

/-- The owner of a node that is enabled, and whose worker stays, has nothing to do with either. -/
theorem Driver.Sound.thrown_own (sound : d.Sound) (thrown : d.Thrown) {ok more : Bool}
    (stays : d.closes (.own ok more) = false) :
    (d.own ok more).Thrown ∧ (d.own ok more).worker = d.worker := by
  have node := (sound.enabled thrown.1).1
  have missing {claim : Prop} (none : d.canNode = false) : claim :=
    absurd (none.symm.trans node) Bool.false_ne_true
  have disabled {claim : Prop} (off : d.enabled = false) : claim :=
    absurd (off.symm.trans thrown.1) Bool.false_ne_true
  have leaves {claim : Prop} (exit : d.taskShouldExit = true) : claim :=
    absurd (thrown.2.2.2.2.symm.trans exit) Bool.false_ne_true
  cases here : d.owner with
  | idle =>
      simp only [Driver.own, here, and_true]
      exact thrown
  | drive =>
      simp only [Driver.own, here, and_true]
      exact thrown
  | start =>
      simp only [Driver.own, here]
      exact ⟨thrown, rfl⟩
  | stopSends why =>
      simp only [Driver.own, here, and_true]
      exact thrown
  | silence why =>
      simp only [Driver.own, here, and_true]
      exact thrown
  | forbid why =>
      simp only [Driver.closes, here] at stays
      cases stays
  | allocate => exact missing (sound.phase_at here).1.1
  | allow => exact missing (sound.phase_at here).1
  | newNode => exact missing (sound.phase_at here).1
  | register => exact disabled (sound.phase_at here).2.2.2.2.2.1
  | createTask => exact disabled (sound.phase_at here).2.2.2.2.2.1
  | enable => exact disabled (sound.phase_at here).2.1
  | await why => exact leaves (sound.phase_at here).2.1
  | status why => exact leaves (sound.phase_at here).2.1
  | disable why => exact leaves (sound.phase_at here).2.2.1
  | deleteNode why => exact leaves (sound.phase_at here).2.2.1
  | deleteSemaphore why => exact missing (sound.phase_at here).1
  | deleteQueue why => exact missing (sound.phase_at here).1

def LifeTurn.works : LifeTurn → Bool
  | .work _ => true
  | _ => false

/-- Whoever else takes a turn leaves a controller that was thrown off, and its worker, as they
are. -/
theorem Driver.Sound.thrown_step (sound : d.Sound) (thrown : d.Thrown) {turn : LifeTurn}
    (other : turn.works = false) (stays : d.closes turn = false) :
    (d.step turn).Thrown ∧ (d.step turn).worker = d.worker := by
  obtain ⟨on, off, waiting, automatic, allowed⟩ := thrown
  cases turn with
  | work ok => cases other
  | own ok more => exact sound.thrown_own ⟨on, off, waiting, automatic, allowed⟩ stays
  | setup baudRate manual =>
      have held := sound.held_of_enabled on allowed
      simp only [Driver.step, Driver.setup, held, Bool.true_or, if_true]
      split
      · exact ⟨⟨on, off, waiting, automatic, allowed⟩, rfl⟩
      · exact ⟨⟨on, off, waiting, automatic, allowed⟩, rfl⟩
  | teardown =>
      simp only [Driver.step]
      split
      · exact ⟨⟨on, off, waiting, automatic, allowed⟩, rfl⟩
      · exact ⟨⟨on, off, waiting, automatic, allowed⟩, rfl⟩
  | abort ok =>
      -- A node that is off is not disabled.
      have still : (d.enabled && (!ok || d.busOff)) = true := by rw [on, off, Bool.or_true]; rfl
      simp only [Driver.step]
      split
      · exact ⟨⟨still, off, waiting, automatic, allowed⟩, rfl⟩
      · exact ⟨⟨on, off, waiting, automatic, allowed⟩, rfl⟩
  | fall =>
      have down : (d.enabled && !d.busOff) = false := by rw [off, Bool.not_true, Bool.and_false]
      simp only [Driver.step, Driver.fall, down]
      exact ⟨⟨on, off, waiting, automatic, allowed⟩, rfl⟩
  | rise =>
      have unasked : (d.enabled && d.busOff && d.recovering) = false := by
        rw [waiting, Bool.and_false]
      simp only [Driver.step, Driver.rise, unasked]
      exact ⟨⟨on, off, waiting, automatic, allowed⟩, rfl⟩

/-- The worker has its eye on the controller. -/
def Driver.Tended (d : Driver) : Prop :=
  d.Sound ∧ (d.Thrown → d.Unseen)

/-- In every run, a controller that was thrown off is one that the worker has yet to see. -/
theorem Driver.tended_run {turns : List LifeTurn}
    (answers : Admissible Driver.Answers Driver.step {} turns) :
    (run Driver.step {} turns).Tended := by
  have preserved : ∀ (d : Driver) (turn : LifeTurn), d.Tended → d.Answers turn →
      (d.step turn).Tended :=
    fun d turn tended answered => ⟨tended.1.step turn, tended.1.unseen_step tended.2 answered⟩
  exact answers.invariant preserved ⟨Driver.sound_run [], fun thrown => nomatch thrown.1⟩

/-- The driver answers the worker, and the bus is not being closed. -/
def Driver.Stays (d : Driver) (turn : LifeTurn) : Prop :=
  d.Answers turn ∧ d.closes turn = false

instance (d : Driver) (turn : LifeTurn) : Decidable (d.Stays turn) :=
  inferInstanceAs (Decidable (_ ∧ _))

/-- A turn asks for the recovery, or leaves the worker no farther from it, and closer if it is the
worker's own. -/
theorem Driver.Tended.advances (tended : d.Tended) (thrown : d.Thrown) {turn : LifeTurn}
    (stays : d.Stays turn) :
    (d.step turn).recovering = true ∨ ((d.step turn).Tended ∧ (d.step turn).Thrown) ∧
      (d.step turn).toRecover + turn.works.toNat ≤ d.toRecover := by
  have next : (d.step turn).Tended :=
    ⟨tended.1.step turn, tended.1.unseen_step tended.2 stays.1⟩
  cases works : turn.works with
  | false =>
      obtain ⟨still, worker⟩ := tended.1.thrown_step thrown works stays.2
      refine Or.inr ⟨⟨next, still⟩, ?_⟩
      rw [toRecover, worker]
      exact Nat.le_refl _
  | true =>
      cases turn with
      | work ok =>
          rcases tended.1.work_thrown thrown (tended.2 thrown) stays.1 with asked | ⟨still, closer⟩
          · exact Or.inl asked
          · exact Or.inr ⟨⟨next, still⟩, closer⟩
      | setup baudRate manual => cases works
      | teardown => cases works
      | abort ok => cases works
      | own ok more => cases works
      | fall => cases works
      | rise => cases works

/-- A controller that the bus has thrown off is recovered: however the tasks and the interrupts
interleave before and after, and however notifications merge, five operations of the worker do not
pass without its being asked for, as long as the driver answers the worker and the bus is not
closed. -/
theorem bus_off_recovered (turns later : List LifeTurn)
    (answers : Admissible Driver.Answers Driver.step {} turns)
    (thrown : (run Driver.step {} turns).Thrown)
    (stays : Admissible Driver.Stays Driver.step (run Driver.step {} turns) later)
    (five : 5 ≤ later.countP LifeTurn.works) :
    ∃ first, first <+: later ∧
      (run Driver.step (run Driver.step {} turns) first).recovering = true := by
  have near (d : Driver) : 0 < d.toRecover ∧ d.toRecover ≤ 5 := by
    unfold Driver.toRecover
    split <;> decide
  exact stays.reaches (fun d => d.Tended ∧ d.Thrown) (fun d => d.recovering = true)
    Driver.toRecover (fun d _ => (near d).1)
    (fun _ _ waiting permitted => waiting.1.advances waiting.2 permitted)
    ⟨Driver.tended_run answers, thrown⟩ (Nat.le_trans (near _).2 five)

/-- A bus that is opened, and is thrown off while the worker goes to sleep. -/
def thrownTurns : List LifeTurn :=
  .setup 500000 false :: List.replicate 8 (.own true true) ++ [.work true, .fall]

/-- Another setup is refused, a controlled transmission is aborted and a teardown begins while the
worker works. -/
def recoveringTurns : List LifeTurn :=
  [.setup 250000 true, .work true, .own true true, .abort true, .work false, .fall, .work true,
    .teardown, .work true, .own true true, .rise, .work true]

theorem thrown_recovers :
    (run Driver.step {} thrownTurns).Thrown ∧
      ∃ first, first <+: recoveringTurns ∧
        (run Driver.step (run Driver.step {} thrownTurns) first).recovering = true := by
  have thrown : (run Driver.step {} thrownTurns).Thrown := by
    refine ⟨?_, ?_, ?_, ?_, ?_⟩ <;> decide
  exact ⟨thrown,
    bus_off_recovered thrownTurns recoveringTurns (by decide) thrown (by decide) (by decide)⟩

end OpenDiag.Can
