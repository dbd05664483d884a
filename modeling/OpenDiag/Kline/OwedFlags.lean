import OpenDiag.Kline.Task
import OpenDiag.Lib.Monitor

/-!
# Status flags owed to the next message

A lost byte or a break on the line is reported in the status of the next message that is delivered.
`publish` moves the pending flags into a message before it knows whether the message is delivered:
a message that is suppressed takes them along, and one that is dropped leaves a loss behind, but
no break.
-/

namespace OpenDiag.Kline

/-- The flags that are owed to the next message. -/
def owedFlags : UInt16 := rxBufferOverflow ||| rxBreakFlag

/-- The owed flags among those of a status. -/
def owed (status : UInt16) : UInt16 := status &&& owedFlags

theorem owed_or (first second : UInt16) : owed (first ||| second) = owed first ||| owed second := by
  apply UInt16.eq_of_toBitVec_eq
  simp only [owed, UInt16.toBitVec_and, UInt16.toBitVec_or]
  ext i bound
  simp only [BitVec.getElem_and, BitVec.getElem_or]
  cases first.toBitVec[i] <;> cases second.toBitVec[i] <;> simp

/-- A message as it leaves the assembly: its status has none of the owed flags. -/
abbrev Assembled := { frame : Frame // owed frame.status = 0 }

/-! ## What happens between two transmissions -/

/-- How `publish` ends. -/
inductive Outcome where
  | suppressed
  | dropped
  | delivered
  deriving DecidableEq, Repr

/-- How `publish` would end now. -/
def Task.outcome (g : Task) : Outcome :=
  if g.nowUs.1 < g.suppressUntilUs ∧ g.cfg.periodicQuiet then .suppressed
  else if rxQueueSize ≤ g.rxQ.length then .dropped
  else .delivered

/-- A delivered message: the flags it carries, and those raised since the one before. -/
structure Delivery where
  carried : UInt16
  raised : UInt16
  deriving DecidableEq, Repr

/-- The task with what is owed, by what has happened. -/
structure Owing where
  task : Task
  raised : UInt16 := 0
  deliveries : List Delivery := []
  deriving DecidableEq, Repr

inductive RxTurn where
  | event (event : UartEvent)
  | publish (frame : Assembled)
  /-- The front end takes messages out of the queue. -/
  | take (count : Nat)

/-- The flag that an event raises. -/
def UartEvent.raises : UartEvent → UInt16
  | .fifoOvf | .bufferFull => rxBufferOverflow
  | .lineBreak => rxBreakFlag
  | _ => 0

/-- One turn. A message that is dropped is a loss to be reported. -/
def Owing.step (s : Owing) : RxTurn → Owing
  | .event event =>
    { s with task := s.task.uartEvent event, raised := s.raised ||| event.raises }
  | .publish frame =>
    let task := s.task.publish frame
    match s.task.outcome with
    | .suppressed => { s with task }
    | .dropped => { s with task, raised := s.raised ||| rxBufferOverflow }
    | .delivered =>
      { task
        raised := 0
        deliveries := s.deliveries ++
          (task.rxQ.getLast?.map fun frame => ⟨owed frame.status, s.raised⟩).toList }
  | .take count => { s with task := { s.task with rxQ := s.task.rxQ.drop count } }

/-- At an initialisation or a transmission nothing is owed. -/
def Owing.start (g : Task) : Owing := { task := { g with pendingStatus := 0 } }

/-- Every message so far carried what was owed to it, and the next one would. -/
def Owing.Faithful (s : Owing) : Prop :=
  (∀ delivery ∈ s.deliveries, delivery.carried = delivery.raised) ∧
    owed s.task.pendingStatus = s.raised

/-- A message that is suppressed finds no flag pending, and one that is dropped no break. -/
def Owing.Allows (s : Owing) : RxTurn → Prop
  | .publish _ =>
    (s.task.outcome = .suppressed → owed s.task.pendingStatus = 0) ∧
      (s.task.outcome = .dropped → s.task.pendingStatus &&& rxBreakFlag = 0)
  | _ => True

/-! ## Reading bytes leaves the flags alone -/

namespace Task

variable {g later : Task}

theorem observe_pendingStatus : g.observe.2.pendingStatus = g.pendingStatus := by
  unfold observe
  cases g.world <;> rfl

theorem uartFill_pendingStatus : (g.uartFill 0).2.pendingStatus = g.pendingStatus := by
  unfold uartFill
  by_cases cursor : g.uartPending.isEmpty
  · simp only [cursor, Bool.not_true, Bool.false_eq_true, if_false, bne_self_eq_false,
      Bool.and_false]
    by_cases none : (g.readBytes 64).1.isEmpty
    · rw [if_pos none]
      exact observe_pendingStatus
    · rw [if_neg none]
      exact observe_pendingStatus.trans observe_pendingStatus
  · simp only [cursor, Bool.not_false, if_true]

theorem readEcho_pendingStatus (count : Nat) (g : Task) :
    (g.readEcho count).pendingStatus = g.pendingStatus := by
  induction count generalizing g with
  | zero => rfl
  | succ count ih =>
      have filled : (g.uartFill 0).2.pendingStatus = g.pendingStatus := uartFill_pendingStatus
      rw [readEcho]
      split
      · rfl
      · split
        · rfl
        · dsimp only
          split
          · exact filled
          · split
            · exact filled
            · split
              · exact filled
              · exact (ih _).trans filled

theorem rxFault_pendingStatus : g.rxFault.pendingStatus = g.pendingStatus :=
  @observe_pendingStatus { g with tx := _ }

/-- An event raises its flag and no other. -/
theorem uartEvent_pendingStatus (event : UartEvent) :
    (g.uartEvent event).pendingStatus = g.pendingStatus ||| event.raises := by
  cases event with
  | data size =>
      change _ = g.pendingStatus ||| 0
      rw [UInt16.or_zero, uartEvent]
      split
      · rfl
      · unfold txReadEcho
        exact readEcho_pendingStatus _ _
  | fifoOvf => exact rxFault_pendingStatus
  | bufferFull => exact rxFault_pendingStatus
  | lineBreak => rfl
  | frameErr => exact rxFault_pendingStatus.trans UInt16.or_zero.symm
  | parityErr => exact rxFault_pendingStatus.trans UInt16.or_zero.symm
  | other => exact UInt16.or_zero.symm

/-! ## The three ends of a publication -/

theorem outcome_eq (world : later.world = g.world) (clock : later.clock = g.clock)
    (limit : later.suppressUntilUs = g.suppressUntilUs) (cfg : later.cfg = g.cfg)
    (queue : later.rxQ = g.rxQ) : later.outcome = g.outcome := by
  have now : later.nowUs.1 = g.nowUs.1 := by
    unfold nowUs observe
    rw [world]
    cases g.world with
    | nil => exact congrArg (· + 1) clock
    | cons moment world => exact congrArg (· + (moment.elapsed : Int)) clock
  rw [outcome, outcome, now, limit, cfg, queue]

/-- What the part of `publish` behind its look at the clock makes of the flags and of the queue. -/
theorem deliver_spec (g : Task) (frame : Frame) :
    match g.outcome with
    | .suppressed => (g.deliver frame).pendingStatus = g.pendingStatus
    | .dropped => (g.deliver frame).pendingStatus = g.pendingStatus ||| rxBufferOverflow
    | .delivered =>
      (g.deliver frame).pendingStatus = g.pendingStatus ∧
        ∃ last, (g.deliver frame).rxQ.getLast? = some last ∧ owed last.status = owed frame.status := by
  have looked : g.nowUs.2.pendingStatus = g.pendingStatus := observe_pendingStatus
  have kept : g.nowUs.2.suppressUntilUs = g.suppressUntilUs ∧ g.nowUs.2.cfg = g.cfg ∧
      g.nowUs.2.rxQ = g.rxQ := by
    unfold nowUs observe
    cases g.world <;> exact ⟨rfl, rfl, rfl⟩
  unfold outcome
  rw [← kept.1, ← kept.2.1, ← kept.2.2, ← looked]
  unfold deliver
  generalize g.nowUs = answer
  obtain ⟨now, later⟩ := answer
  by_cases suppressed : now < later.suppressUntilUs
  · by_cases quiet : later.cfg.periodicQuiet = true
    · simp only [suppressed, quiet, and_self, if_true]
    · by_cases full : rxQueueSize ≤ later.rxQ.length
      · simp only [suppressed, quiet, full, and_false, if_true, if_false, Bool.false_eq_true]
      · simp only [suppressed, quiet, full, and_false, if_true, if_false, Bool.false_eq_true]
        refine ⟨trivial, _, List.getLast?_concat, ?_⟩
        dsimp only
        rw [owed_or, show owed rxPeriodicReply = 0 by decide, UInt16.or_zero]
  · by_cases full : rxQueueSize ≤ later.rxQ.length
    · simp only [suppressed, full, false_and, if_true, if_false]
    · simp only [suppressed, full, false_and, if_false]
      exact ⟨trivial, _, List.getLast?_concat, rfl⟩

/-- What `publish` makes of the flags and of the queue. -/
theorem publish_spec (g : Task) (frame : Frame) :
    match g.outcome with
    | .suppressed => (g.publish frame).pendingStatus = 0
    | .dropped => (g.publish frame).pendingStatus = rxBufferOverflow
    | .delivered =>
      (g.publish frame).pendingStatus = 0 ∧
        ∃ last, (g.publish frame).rxQ.getLast? = some last ∧
          owed last.status = owed frame.status ||| owed g.pendingStatus := by
  unfold publish
  extract_lets stats later
  have same : { later with txAnswered := true, pendingStatus := 0 }.outcome = g.outcome := by
    apply outcome_eq
    all_goals
      unfold later
      cases g.p2Pending <;> rfl
  have flags : later.pendingStatus = g.pendingStatus := by
    unfold later
    cases g.p2Pending <;> rfl
  have spec := deliver_spec { later with txAnswered := true, pendingStatus := 0 }
    { frame with status := frame.status ||| later.pendingStatus }
  rw [same] at spec
  rw [flags, ← owed_or] at *
  cases ends : g.outcome with
  | suppressed =>
      rw [ends] at spec
      exact spec
  | dropped =>
      rw [ends] at spec
      exact spec.trans (UInt16.zero_or)
  | delivered =>
      rw [ends] at spec
      exact spec

end Task

/-- A message that is dropped leaves a loss behind: nothing else may have been pending. -/
theorem dropped_iff (status : UInt16) :
    owed rxBufferOverflow = owed status ||| rxBufferOverflow ↔ status &&& rxBreakFlag = 0 := by
  have masked : owed status = owed (status &&& 0xf) := by
    rw [owed, owed, UInt16.and_assoc, show 0xf &&& owedFlags = owedFlags by decide]
  have broken : status &&& rxBreakFlag = status &&& 0xf &&& rxBreakFlag := by
    rw [UInt16.and_assoc, show 0xf &&& rxBreakFlag = rxBreakFlag by decide]
  have small : (status &&& 0xf).toNat ≤ 15 := by
    rw [UInt16.toNat_and]
    exact Nat.and_le_right
  have all : ∀ low : Fin 16,
      owed rxBufferOverflow = owed (UInt16.ofNat low) ||| rxBufferOverflow ↔
        UInt16.ofNat low &&& rxBreakFlag = 0 := by decide
  have low := all ⟨(status &&& 0xf).toNat, Nat.lt_succ_of_le small⟩
  rw [UInt16.ofNat_toNat] at low
  rw [masked, broken]
  exact low

/-! ## Runs -/

section Runs

variable {s : Owing}

theorem Owing.step_of_event (event : UartEvent) (faithful : s.Faithful) :
    (s.step (.event event)).Faithful := by
  refine ⟨faithful.1, ?_⟩
  have mask : owed event.raises = event.raises := by
    cases event with
    | data size => exact UInt16.zero_and
    | _ => decide
  change owed (s.task.uartEvent event).pendingStatus = s.raised ||| event.raises
  rw [Task.uartEvent_pendingStatus, owed_or, mask, faithful.2]

theorem Owing.step_of_publish (frame : Assembled) (faithful : s.Faithful) :
    (s.step (.publish frame)).Faithful ↔ s.Allows (.publish frame) := by
  have spec := Task.publish_spec s.task frame.val
  unfold Owing.Faithful Owing.Allows Owing.step
  cases ends : s.task.outcome with
  | suppressed =>
      rw [ends] at spec
      simp only [spec, ← faithful.2, reduceCtorEq, false_implies, and_true, true_implies]
      rw [show owed 0 = 0 from UInt16.zero_and, eq_comm]
      exact and_iff_right faithful.1
  | dropped =>
      rw [ends] at spec
      simp only [spec, ← faithful.2, reduceCtorEq, false_implies, true_and, true_implies]
      rw [dropped_iff]
      exact and_iff_right faithful.1
  | delivered =>
      rw [ends] at spec
      obtain ⟨flags, last, queued, carried⟩ := spec
      simp only [flags, queued, reduceCtorEq, false_implies, and_self, iff_true, Option.map_some,
        Option.toList_some]
      refine ⟨fun delivery member => ?_, UInt16.zero_and⟩
      rcases List.mem_append.mp member with old | new
      · exact faithful.1 delivery old
      · rw [List.mem_singleton.mp new, carried, frame.property, UInt16.zero_or]
        exact faithful.2

theorem Owing.step_faithful (turn : RxTurn) (faithful : s.Faithful) :
    (s.step turn).Faithful ↔ s.Allows turn := by
  cases turn with
  | event event => exact iff_of_true (step_of_event event faithful) trivial
  | publish frame => exact step_of_publish frame faithful
  | take count => exact iff_of_true faithful trivial

end Runs

/-- In every run, each message delivered carries exactly the flags raised since the one before, and
so would the next one, exactly as long as no message is suppressed while a flag is pending and none
is dropped while a break is. -/
theorem owed_flags_delivered_iff (g : Task) (turns : List RxTurn) :
    (∀ first, first <+: turns → (run Owing.step (.start g) first).Faithful) ↔
      Admissible Owing.Allows Owing.step (.start g) turns := by
  apply forall_good_iff_admissible Owing.Faithful
  · exact fun s turn faithful allowed => (s.step_faithful turn faithful).mpr allowed
  · exact fun s faithful => faithful
  · exact fun s turn faithful next => (s.step_faithful turn faithful).mp next
  · exact ⟨List.forall_mem_nil _, UInt16.zero_and⟩

/-- A break is pending as a message is suppressed: the next message does not carry it. -/
theorem break_lost_by_suppressed_message :
    let reply : Assembled := ⟨{}, by decide⟩
    let s := run Owing.step (.start { world := [{}, { elapsed := 9 }], suppressUntilUs := 10 })
      [.event .lineBreak, .publish reply, .publish reply]
    s.deliveries = [⟨0, rxBreakFlag⟩] := by
  decide

end OpenDiag.Kline
