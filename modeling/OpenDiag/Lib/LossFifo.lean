import Mathlib.Algebra.GroupWithZero.Nat
import OpenDiag.Lib.Run

/-!
# A bounded FIFO that reports its losses

Items of different sizes wait in order for a reader. One that does not fit is lost, and so is what
an outside party marks as lost. A loss is reported once: with the next item that is accepted, or,
when the reader finds the queue empty first, in place of an item. A loss episode is what is lost
between two reports or acceptances.
-/

namespace OpenDiag.LossFifo

variable {α : Type*}

/-- The items that wait, each with the report it carries, and whether a loss is yet to report. -/
structure Fifo (α : Type*) where
  items : List (α × Bool) := []
  lost : Bool := false

/-- What can be asked of the queue. -/
inductive Op (α : Type*) where
  | offer (item : α)
  | mark
  | take

/-- What came of it. -/
inductive Event (α : Type*) where
  | accepted (item : α) (report : Bool)
  | dropped
  | marked
  | taken (item : α) (report : Bool)
  | lossReported
  | empty

/-- How much of the capacity the waiting items use. -/
def Fifo.used (size : α → Nat) (fifo : Fifo α) : Nat :=
  (fifo.items.map fun entry => size entry.1).sum

def Fifo.step (size : α → Nat) (capacity : Nat) (fifo : Fifo α) : Op α → Fifo α × Event α
  | .offer item =>
    if size item > capacity - fifo.used size then ({ fifo with lost := true }, .dropped)
    else
      ({ items := fifo.items ++ [(item, fifo.lost)], lost := false }, .accepted item fifo.lost)
  | .mark => ({ fifo with lost := true }, .marked)
  | .take =>
    match fifo.items with
    | (item, report) :: items => ({ fifo with items }, .taken item report)
    | [] =>
      if fifo.lost then ({ fifo with lost := false }, .lossReported) else (fifo, .empty)

/-- The items accepted, in order, with the reports they carry. -/
def accepted : List (Event α) → List (α × Bool)
  | [] => []
  | .accepted item report :: events => (item, report) :: accepted events
  | _ :: events => accepted events

/-- The items taken, in order, with the reports they carried. -/
def taken : List (Event α) → List (α × Bool)
  | [] => []
  | .taken item report :: events => (item, report) :: taken events
  | _ :: events => taken events

/-- The number of reports made: with an accepted item, or instead of one. -/
def reports : List (Event α) → Nat
  | [] => 0
  | .accepted _ true :: events => reports events + 1
  | .lossReported :: events => reports events + 1
  | _ :: events => reports events

/-- The number of loss episodes, given whether one is under way. -/
def episodes : Bool → List (Event α) → Nat
  | _, [] => 0
  | true, .dropped :: events => episodes true events
  | true, .marked :: events => episodes true events
  | false, .dropped :: events => episodes true events + 1
  | false, .marked :: events => episodes true events + 1
  | _, .accepted _ _ :: events => episodes false events
  | _, .lossReported :: events => episodes false events
  | underWay, .taken _ _ :: events => episodes underWay events
  | underWay, .empty :: events => episodes underWay events

/-- Every episode is reported by the first acceptance or empty read after it, and nothing else is
reported. -/
def Timely : Bool → List (Event α) → Prop
  | _, [] => True
  | _, .dropped :: events => Timely true events
  | _, .marked :: events => Timely true events
  | underWay, .accepted _ report :: events => report = underWay ∧ Timely false events
  | underWay, .lossReported :: events => underWay = true ∧ Timely false events
  | underWay, .empty :: events => underWay = false ∧ Timely underWay events
  | underWay, .taken _ _ :: events => Timely underWay events

/-- Whether a loss is yet to report after the events. -/
def pending : Bool → List (Event α) → Bool
  | underWay, [] => underWay
  | _, .dropped :: events => pending true events
  | _, .marked :: events => pending true events
  | _, .accepted _ _ :: events => pending false events
  | _, .lossReported :: events => pending false events
  | underWay, .empty :: events => pending underWay events
  | underWay, .taken _ _ :: events => pending underWay events

/-- Timely reports are exactly as many as the episodes that are over. -/
theorem reports_of_timely {underWay : Bool} {events : List (Event α)}
    (timely : Timely underWay events) :
    reports events + (pending underWay events).toNat = episodes underWay events + underWay.toNat := by
  induction events generalizing underWay with
  | nil => simp [reports, pending, episodes]
  | cons event events ih =>
      cases event with
      | accepted item report =>
          obtain ⟨rfl, rest⟩ := timely
          have := ih rest
          cases report <;> simp [reports, pending, episodes] at this ⊢ <;> omega
      | dropped =>
          have := ih timely
          cases underWay <;> simp [reports, pending, episodes] at this ⊢ <;> omega
      | marked =>
          have := ih timely
          cases underWay <;> simp [reports, pending, episodes] at this ⊢ <;> omega
      | taken item report => exact ih timely
      | lossReported =>
          obtain ⟨rfl, rest⟩ := timely
          have := ih rest
          simp [reports, pending, episodes] at this ⊢
          omega
      | empty =>
          have := ih timely.2
          simpa [reports, pending, episodes] using this

/-- A step loses something, accepts an item with the report that is due, hands one out, or tells an
empty queue's reader what there is to tell. -/
theorem Fifo.step_cases (size : α → Nat) (capacity : Nat) (fifo : Fifo α) (op : Op α) :
    (∃ event, (event = .dropped ∨ event = .marked) ∧
      fifo.step size capacity op = ({ fifo with lost := true }, event)) ∨
    (∃ item, fifo.step size capacity op =
      ({ items := fifo.items ++ [(item, fifo.lost)], lost := false }, .accepted item fifo.lost)) ∨
    (∃ item report items, fifo.items = (item, report) :: items ∧
      fifo.step size capacity op = ({ fifo with items }, .taken item report)) ∨
    (fifo.items = [] ∧ fifo.lost = true ∧
      fifo.step size capacity op = ({ fifo with lost := false }, .lossReported)) ∨
    (fifo.items = [] ∧ fifo.lost = false ∧ fifo.step size capacity op = (fifo, .empty)) := by
  cases op with
  | offer item =>
      dsimp only [step]
      split
      · exact Or.inl ⟨_, Or.inl rfl, rfl⟩
      · exact Or.inr (Or.inl ⟨item, rfl⟩)
  | mark => exact Or.inl ⟨_, Or.inr rfl, rfl⟩
  | take =>
      refine Or.inr (Or.inr ?_)
      dsimp only [step]
      split
      case h_1 item report items waiting => exact Or.inl ⟨item, report, items, waiting, rfl⟩
      case h_2 none =>
        cases lost : fifo.lost with
        | true => exact Or.inr (Or.inl ⟨none, rfl, by simp⟩)
        | false => exact Or.inr (Or.inr ⟨none, rfl, by simp⟩)

/-- Every run reports in time. -/
theorem Fifo.timely (size : α → Nat) (capacity : Nat) (fifo : Fifo α) (ops : List (Op α)) :
    Timely fifo.lost (outputs (Fifo.step size capacity) fifo ops) ∧
      pending fifo.lost (outputs (Fifo.step size capacity) fifo ops) =
        (final (Fifo.step size capacity) fifo ops).lost := by
  induction ops generalizing fifo with
  | nil => exact ⟨True.intro, rfl⟩
  | cons op ops ih =>
      have rest := ih (fifo.step size capacity op).1
      rw [outputs, final]
      rcases fifo.step_cases size capacity op with ⟨event, rfl | rfl, step⟩ | ⟨item, step⟩ |
        ⟨item, report, items, _, step⟩ | ⟨_, lost, step⟩ | ⟨_, kept, step⟩ <;>
        rw [step] at rest ⊢
      · exact rest
      · exact rest
      · exact ⟨⟨rfl, rest.1⟩, rest.2⟩
      · exact rest
      · exact ⟨⟨lost, rest.1⟩, rest.2⟩
      · exact ⟨⟨kept, rest.1⟩, rest.2⟩

/-- What was accepted has been taken, in order, or still waits. -/
theorem Fifo.accepted_eq (size : α → Nat) (capacity : Nat) (fifo : Fifo α) (ops : List (Op α)) :
    fifo.items ++ accepted (outputs (Fifo.step size capacity) fifo ops) =
      taken (outputs (Fifo.step size capacity) fifo ops) ++
        (final (Fifo.step size capacity) fifo ops).items := by
  induction ops generalizing fifo with
  | nil => simp [outputs, final, accepted, taken]
  | cons op ops ih =>
      have rest := ih (fifo.step size capacity op).1
      rw [outputs, final]
      rcases fifo.step_cases size capacity op with ⟨event, rfl | rfl, step⟩ | ⟨item, step⟩ |
        ⟨item, report, items, waiting, step⟩ | ⟨_, _, step⟩ | ⟨_, _, step⟩ <;>
        rw [step] at rest ⊢
      · exact rest
      · exact rest
      · rw [List.append_assoc] at rest
        exact rest
      · rw [waiting]
        exact congrArg _ rest
      · exact rest
      · exact rest

end OpenDiag.LossFifo
