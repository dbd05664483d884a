import Mathlib.Algebra.GroupWithZero.Nat
import OpenDiag.Bus.Epoch

/-!
# A repeat never overtakes what was received

The ledger of a bus numbers the records without wrapping and knows which of them are still on their
way: held by the producer, in the queue, or lost and not accounted for. As long as the sequences
that are around at one time stay within `2 ^ 31` of each other, the wrapped sequences of the code
are those of the ledger, and an admission whose sequence was read when the ledger stood at some
number is one of a transmission that was submitted with nothing on its way.
-/

namespace OpenDiag.Bus

/-- What the ledger was when the transmission was submitted. -/
structure Snapshot where
  count : Nat
  seen : Nat
  unsettled : List Nat

structure Ledger where
  /-- How often the epoch was counted up. -/
  count : Nat := 0
  holding : Option Nat := none
  queued : List Nat := []
  lost : List Nat := []
  /-- The newest number that `poll_rx` was told of. -/
  seen : Nat := 0
  submission : Option Snapshot := none
  /-- The count when the driver read the epoch last. -/
  read : Nat := 0

/-- The records that are neither processed nor accounted for as a loss. -/
def Ledger.unsettled (l : Ledger) : List Nat :=
  l.holding.toList ++ l.queued ++ l.lost

def Ledger.see (l : Ledger) : RxEvent → Ledger
  | .counted => { l with count := l.count + 1 }
  | .produced => { l with holding := some l.count }
  | .enqueued => { l with holding := none, queued := l.queued ++ l.holding.toList }
  | .lost => { l with holding := none, lost := l.lost ++ l.holding.toList }
  | .processed => { l with queued := l.queued.tail, seen := max l.seen (l.queued.headD 0) }
  | .accounted => { l with lost := [], seen := max l.seen (l.lost.getLastD 0) }
  | .submitted => { l with submission := some ⟨l.count, l.seen, l.unsettled⟩ }
  | .read => { l with read := l.count }
  | .admitted => l

/-- A transmission is admitted only if every record that was produced before the driver read the
epoch had been processed or accounted for before the transmission was submitted. -/
def Ledger.Allows (l : Ledger) : RxEvent → Prop
  | .enqueued | .lost => l.holding ≠ none
  | .processed => l.queued ≠ []
  | .accounted => l.lost ≠ []
  | .admitted => ∃ submission ∈ l.submission, l.read = submission.count ∧ submission.unsettled = []
  | _ => True

/-! ## Sequences and numbers -/

theorem newer_iff {count new old : Nat} (new_le : new ≤ count) (old_le : old ≤ count)
    (near : count - new < 2 ^ 31) (old_near : count - old < 2 ^ 31) :
    newer (.ofNat new) (.ofNat old) = true ↔ old < new := by
  have sign : ∀ x : UInt32, 0 < x.toInt32 ↔ 0 < x.toNat ∧ x.toNat < 2 ^ 31 := by
    intro x
    have value : x.toInt32.toInt = x.toBitVec.toInt := rfl
    have bits : x.toBitVec.toNat = x.toNat := rfl
    have small := x.toNat_lt
    rw [Int32.lt_iff_toInt_lt, value, BitVec.toInt_eq_toNat_cond, bits]
    split <;> simp <;> omega
  rw [newer, decide_eq_true_iff, gt_iff_lt, sign, UInt32.toNat_sub, UInt32.toNat_ofNat',
    UInt32.toNat_ofNat']
  omega

/-- Numbers within a window are told apart by their sequences. -/
theorem ofNat_inj {count number : Nat} (le : number ≤ count) (near : count - number < 2 ^ 31)
    (same : UInt32.ofNat count = UInt32.ofNat number) : count = number := by
  have values := congrArg UInt32.toNat same
  rw [UInt32.toNat_ofNat', UInt32.toNat_ofNat'] at values
  omega

/-- A number that was in the window and whose sequence still is stays in it. -/
theorem near_succ {count number : Nat} (le : number ≤ count) (near : count - number < 2 ^ 31)
    (within : UInt32.ofNat (count + 1) - UInt32.ofNat number < 0x80000000) :
    count + 1 - number < 2 ^ 31 := by
  rw [UInt32.lt_iff_toNat_lt, UInt32.toNat_sub, UInt32.toNat_ofNat', UInt32.toNat_ofNat'] at within
  simp only [UInt32.reduceToNat] at within
  omega

/-! ## The bus and its ledger -/

/-- The number that the loss word holds the sequence of. -/
def Ledger.lostSequence (l : Ledger) : UInt32 :=
  match l.lost.getLast? with
  | none => 0
  | some number => .ofNat number

/-- The numbers whose sequences are around, the producer's apart. -/
def Ledger.around (l : Ledger) (sending : Bool) : List Nat :=
  l.seen :: l.queued ++ (if sending then (l.submission.map Snapshot.seen).toList else []) ++
    l.lost.getLast?.toList

/-- Where the producer stands. -/
def Producer.Fits (m : RxBus) (l : Ledger) : Producer → Prop
  | .idle => l.holding = none ∧ (l.count ∈ l.queued ∨ l.count ∈ l.lost ∨ l.seen = l.count)
  | .again => l.holding = none ∧ m.epoch.sequence = 0
  | .record sequence | .loadLost sequence =>
    l.holding = some l.count ∧ sequence = .ofNat l.count ∧ sequence ≠ 0
  | .swapLost sequence previous =>
    l.holding = some l.count ∧ sequence = .ofNat l.count ∧ sequence ≠ 0 ∧
      (previous = 0 ∨ ∃ number < l.count, previous = .ofNat number ∧ l.count - number < 2 ^ 31)

/-- Where the producer stands depends on nothing else. -/
theorem Producer.Fits.carry {m next : RxBus} {l other : Ledger} {producer : Producer}
    (fits : producer.Fits m l) (sequence : next.epoch.sequence = m.epoch.sequence)
    (count : other.count = l.count) (holding : other.holding = l.holding)
    (newest : (l.count ∈ l.queued ∨ l.count ∈ l.lost ∨ l.seen = l.count) →
      (other.count ∈ other.queued ∨ other.count ∈ other.lost ∨ other.seen = other.count)) :
    producer.Fits next other := by
  cases producer with
  | idle => exact ⟨holding.trans fits.1, newest fits.2⟩
  | again => exact ⟨holding.trans fits.1, sequence.trans fits.2⟩
  | _ =>
      simp only [Producer.Fits, count, holding] at fits ⊢
      exact fits

/-- What the producer holds is the newest number. -/
theorem Producer.Fits.holds {m : RxBus} {l : Ledger} {producer : Producer}
    (fits : producer.Fits m l) {number : Nat} (held : l.holding = some number) :
    number = l.count := by
  cases producer with
  | idle => cases held.symm.trans fits.1
  | again => cases held.symm.trans fits.1
  | _ => exact Option.some.inj (held.symm.trans fits.1)

/-- The transmission under way is that of the last submission. -/
structure Sending (m : RxBus) (l : Ledger) (control : Control) (submission : Snapshot) : Prop where
  current : l.submission = some submission
  checkRx : control.checkRx = true
  rxSequence : control.rxSequence = .ofNat submission.seen
  uncancelled : control.state ≠ .cancelled
  seen_le : submission.seen ≤ submission.count
  count_le : submission.count ≤ l.count
  settled : submission.seen = submission.count → submission.unsettled = []
  read : ∀ sequence ∈ m.read,
    sequence = .ofNat l.read ∧ submission.count ≤ l.read ∧ l.read ≤ l.count

/-- The bus agrees with the ledger of its log. -/
structure Tallies (m : RxBus) (l : Ledger) : Prop where
  count : m.epoch.sequence = .ofNat l.count
  queue : m.queue = l.queued.map UInt32.ofNat
  lostWord : m.epoch.lostSequence = l.lostSequence
  lostNonzero : ∀ number ∈ l.lost, UInt32.ofNat number ≠ 0
  lostSorted : l.lost.Pairwise (· < ·)
  rxSequence : m.rxSequence = .ofNat l.seen
  producer : m.producer.Fits m l
  near : ∀ number ∈ l.around m.tx.isSome, l.count - number < 2 ^ 31
  settled_le : ∀ number ∈ l.seen :: l.queued ++ l.lost,
    number ≤ l.count ∧ (l.holding ≠ none → number < l.count)
  looking : ∀ burst, m.consumer = .takeLoss burst → ∀ number ∈ l.queued, l.seen < number
  polling : ∀ burst, m.consumer = .receive burst ∨ m.consumer = .takeLoss burst →
    m.rxDrained = false
  drained : m.rxDrained = true → ∀ number ∈ l.unsettled, l.seen < number
  sending : ∀ control ∈ m.tx, ∃ submission, Sending m l control submission

theorem tallies_init : Tallies {} {} where
  count := rfl
  queue := rfl
  lostWord := rfl
  lostNonzero := by simp
  lostSorted := by simp
  rxSequence := rfl
  producer := ⟨rfl, .inr (.inr rfl)⟩
  near := by simp [Ledger.around]
  settled_le := by simp
  looking := by simp
  polling := by simp
  drained := by simp
  sending := by simp

section Turns

variable {m : RxBus} {l : Ledger}

/-- The sequences that are around are those of the numbers that are. -/
theorem Tallies.sequences (tallies : Tallies m l) :
    m.sequences = (l.around m.tx.isSome).map UInt32.ofNat := by
  have lost : (if m.epoch.lostSequence = 0 then [] else [m.epoch.lostSequence]) =
      l.lost.getLast?.toList.map UInt32.ofNat := by
    rw [tallies.lostWord, Ledger.lostSequence]
    cases last : l.lost.getLast? with
    | none => rfl
    | some number =>
        exact if_neg (tallies.lostNonzero number (List.mem_of_getLast? last))
  have sending : m.tx.toList.map Control.rxSequence =
      (if m.tx.isSome then (l.submission.map Snapshot.seen).toList else []).map UInt32.ofNat := by
    cases tx : m.tx with
    | none => rfl
    | some control =>
        obtain ⟨submission, sending⟩ := tallies.sending control tx
        simp [sending.current, sending.rxSequence]
  simp only [RxBus.sequences, Ledger.around, lost, sending, tallies.queue, tallies.rxSequence,
    List.map_append, List.map_cons]

/-- Every number around was counted. -/
theorem Tallies.around_le (tallies : Tallies m l) {number : Nat}
    (here : number ∈ l.around m.tx.isSome) : number ≤ l.count := by
  have settled := tallies.settled_le
  simp only [Ledger.around, List.mem_append, Option.mem_toList] at here
  rcases here with (here | here) | here
  · exact (settled number (List.mem_append_left _ here)).1
  · cases tx : m.tx with
    | none => simp [tx] at here
    | some control =>
        obtain ⟨submission, sending⟩ := tallies.sending control tx
        simp only [tx, Option.isSome_some, if_true, sending.current, Option.map_some,
          Option.toList_some, List.mem_singleton] at here
        rw [here]
        exact Nat.le_trans sending.seen_le sending.count_le
  · exact (settled number (List.mem_append_right _ (List.mem_of_getLast? here))).1

/-- The epoch is counted up while the producer holds nothing. -/
theorem Tallies.count_up (tallies : Tallies m l) (free : l.holding = none)
    (within : m.count.Within) {producer : Producer} {holding : Option Nat}
    (held : holding = none ∨ holding = some (l.count + 1))
    (fits : producer.Fits m.count { l with count := l.count + 1, holding }) :
    Tallies { m.count with producer } { l with count := l.count + 1, holding } := by
  have near : ∀ number ∈ l.around m.tx.isSome, l.count + 1 - number < 2 ^ 31 := by
    intro number here
    refine near_succ (tallies.around_le here) (tallies.near number here) ?_
    have inside := within (.ofNat number) (by
      change _ ∈ m.sequences
      rw [tallies.sequences]
      exact List.mem_map_of_mem here)
    simp only [RxBus.count, tallies.count] at inside
    rwa [UInt32.ofNat_add]
  exact {
    count := by
      rw [UInt32.ofNat_add, ← tallies.count]
      rfl
    queue := tallies.queue
    lostWord := tallies.lostWord
    lostNonzero := tallies.lostNonzero
    lostSorted := tallies.lostSorted
    rxSequence := tallies.rxSequence
    producer := fits.carry rfl rfl rfl id
    near := near
    settled_le := fun number here =>
      have le := (tallies.settled_le number here).1
      ⟨Nat.le_succ_of_le le, fun _ => Nat.lt_succ_of_le le⟩
    looking := tallies.looking
    polling := tallies.polling
    drained := fun drained number here => by
      have seen_le := (tallies.settled_le l.seen (by simp)).1
      simp only [Ledger.unsettled, List.append_assoc, List.mem_append, Option.mem_toList] at here
      rcases here with here | here
      · rcases held with rfl | rfl
        · cases here
        · cases here
          exact Nat.lt_succ_of_le seen_le
      · exact tallies.drained drained number (by simp [Ledger.unsettled, free, here])
    sending := fun control sent => by
      obtain ⟨submission, sending⟩ := tallies.sending control sent
      exact ⟨submission, { sending with
        count_le := Nat.le_succ_of_le sending.count_le
        read := fun sequence read => by
          obtain ⟨same, after, le⟩ := sending.read sequence read
          exact ⟨same, after, Nat.le_succ_of_le le⟩ }⟩ }

/-- What the producer holds is newer than everything that is settled or on its way. -/
theorem Tallies.held (tallies : Tallies m l) (holding : l.holding = some l.count) :
    ∀ number ∈ l.seen :: l.queued ++ l.lost, number < l.count :=
  fun number here => (tallies.settled_le number here).2 (by simp [holding])

/-- The producer puts its record into the queue. -/
theorem Tallies.enqueue (tallies : Tallies m l) {sequence : UInt32}
    (here : m.producer = .record sequence) :
    l.Allows .enqueued ∧
      Tallies { m with queue := m.queue ++ [sequence], producer := .idle } (l.see .enqueued) := by
  have fits := tallies.producer
  rw [here] at fits
  obtain ⟨holding, same, _⟩ := fits
  have held := tallies.held holding
  refine ⟨by simp [Ledger.Allows, holding], ?_⟩
  simp only [Ledger.see, holding, Option.toList_some]
  exact {
    count := tallies.count
    queue := by simp [tallies.queue, same]
    lostWord := tallies.lostWord
    lostNonzero := tallies.lostNonzero
    lostSorted := tallies.lostSorted
    rxSequence := tallies.rxSequence
    producer := ⟨rfl, .inl (by simp)⟩
    near := fun number around => by
      simp only [Ledger.around, List.cons_append, List.append_assoc, List.mem_cons,
        List.mem_append] at around
      change l.count - number < 2 ^ 31
      by_cases newest : number = l.count
      · omega
      · refine tallies.near number ?_
        simp only [Ledger.around, List.cons_append, List.append_assoc, List.mem_cons,
          List.mem_append]
        tauto
    settled_le := fun number around => by
      simp only [List.cons_append, List.append_assoc, List.mem_cons, List.mem_append,
        List.not_mem_nil, false_or] at around
      refine ⟨?_, by simp⟩
      rcases around with rfl | queued | rfl | lost
      · exact (tallies.settled_le _ (by simp)).1
      · exact (tallies.settled_le number (by simp [queued])).1
      · exact Nat.le_refl _
      · exact (tallies.settled_le number (by simp [lost])).1
    looking := fun burst looking number queued => by
      rcases List.mem_append.mp queued with queued | newest
      · exact tallies.looking burst looking number queued
      · rw [List.mem_singleton.mp newest]
        exact held _ (by simp)
    polling := tallies.polling
    drained := fun drained number unsettled => by
      refine tallies.drained drained number ?_
      simp only [Ledger.unsettled, holding, Option.toList_some, Option.toList_none,
        List.nil_append, List.mem_append, List.mem_singleton] at unsettled ⊢
      tauto
    sending := fun control sent => by
      obtain ⟨submission, sending⟩ := tallies.sending control sent
      exact ⟨submission, { sending with }⟩ }

/-- The loss is entered: the loss word holds its sequence now. -/
theorem Tallies.lose (tallies : Tallies m l) {sequence previous : UInt32}
    (here : m.producer = .swapLost sequence previous) :
    l.Allows .lost ∧
      Tallies { m with
        epoch := { m.epoch with lostSequence := sequence }
        producer := .idle } (l.see .lost) := by
  have fits := tallies.producer
  rw [here] at fits
  obtain ⟨holding, same, nonzero, _⟩ := fits
  have held := tallies.held holding
  refine ⟨by simp [Ledger.Allows, holding], ?_⟩
  simp only [Ledger.see, holding, Option.toList_some]
  exact {
    count := tallies.count
    queue := tallies.queue
    lostWord := by simp [Ledger.lostSequence, same]
    lostNonzero := fun number lost => by
      rcases List.mem_append.mp lost with lost | newest
      · exact tallies.lostNonzero number lost
      · rw [List.mem_singleton.mp newest, ← same]
        exact nonzero
    lostSorted := by
      rw [List.pairwise_append]
      refine ⟨tallies.lostSorted, by simp, fun number lost last newest => ?_⟩
      rw [List.mem_singleton.mp newest]
      exact held number (by simp [lost])
    rxSequence := tallies.rxSequence
    producer := ⟨rfl, .inr (.inl (by simp))⟩
    near := fun number around => by
      simp only [Ledger.around, List.getLast?_append, List.getLast?_singleton,
        Option.some_or, Option.toList_some, List.cons_append, List.append_assoc, List.mem_cons,
        List.mem_append, List.not_mem_nil, or_false] at around
      change l.count - number < 2 ^ 31
      by_cases newest : number = l.count
      · omega
      · refine tallies.near number ?_
        simp only [Ledger.around, List.cons_append, List.append_assoc, List.mem_cons,
          List.mem_append]
        tauto
    settled_le := fun number around => by
      simp only [List.cons_append, List.mem_cons, List.mem_append, List.not_mem_nil,
        or_false] at around
      refine ⟨?_, by simp⟩
      rcases around with rfl | queued | lost | rfl
      · exact (tallies.settled_le _ (by simp)).1
      · exact (tallies.settled_le number (by simp [queued])).1
      · exact (tallies.settled_le number (by simp [lost])).1
      · exact Nat.le_refl _
    looking := tallies.looking
    polling := tallies.polling
    drained := fun drained number unsettled => by
      refine tallies.drained drained number ?_
      simp only [Ledger.unsettled, holding, Option.toList_some, Option.toList_none,
        List.nil_append, List.mem_append, List.mem_singleton] at unsettled ⊢
      tauto
    sending := fun control sent => by
      obtain ⟨submission, sending⟩ := tallies.sending control sent
      exact ⟨submission, { sending with }⟩ }

/-- What the loss word holds is older than what the producer holds. -/
theorem Tallies.lostWord_older (tallies : Tallies m l) (holding : l.holding = some l.count) :
    m.epoch.lostSequence = 0 ∨ ∃ number < l.count,
      m.epoch.lostSequence = .ofNat number ∧ l.count - number < 2 ^ 31 := by
  rw [tallies.lostWord, Ledger.lostSequence]
  cases last : l.lost.getLast? with
  | none => exact .inl rfl
  | some number =>
      refine .inr ⟨number, tallies.held holding number ?_, rfl, tallies.near number ?_⟩
      · exact List.mem_append_right _ (List.mem_of_getLast? last)
      · simp [Ledger.around, last]

/-- The producer goes on without an effect that the ledger would see. -/
theorem Tallies.proceed (tallies : Tallies m l) {producer : Producer}
    (fits : producer.Fits m l) : Tallies { m with producer } l where
  __ := tallies
  producer := fits.carry rfl rfl rfl id
  sending := fun control sent => by
    obtain ⟨submission, sending⟩ := tallies.sending control sent
    exact ⟨submission, { sending with }⟩

/-- Whatever the producer does next. -/
theorem Tallies.produce (tallies : Tallies m l) (keep : Bool)
    (within : (m.produce keep).1.Within) :
    Obedient Ledger.see Ledger.Allows l (m.produce keep).2 ∧
      Tallies (m.produce keep).1 ((m.produce keep).2.foldl Ledger.see l) := by
  have fits := tallies.producer
  have next : UInt32.ofNat (l.count + 1) = m.epoch.sequence + 1 := by
    rw [UInt32.ofNat_add, tallies.count]
    rfl
  have two {first second : RxEvent} (one : l.Allows first) (two : (l.see first).Allows second) :
      Obedient Ledger.see Ledger.Allows l [first, second] :=
    (Obedient.singleton one).concat two
  cases here : m.producer with
  | idle =>
      rw [here] at fits
      obtain ⟨free, _⟩ := fits
      simp only [RxBus.produce, here] at within ⊢
      split
      case isTrue zero =>
        rw [if_pos zero] at within
        exact ⟨.singleton trivial, tallies.count_up free within (.inl free) ⟨free, zero⟩⟩
      case isFalse nonzero =>
        rw [if_neg nonzero] at within
        exact ⟨two trivial trivial,
          tallies.count_up free within (.inr rfl) ⟨rfl, next.symm, nonzero⟩⟩
  | again =>
      rw [here] at fits
      obtain ⟨free, zero⟩ := fits
      simp only [RxBus.produce, here] at within ⊢
      refine ⟨two trivial trivial,
        tallies.count_up free within (.inr rfl) ⟨rfl, next.symm, ?_⟩⟩
      rw [zero]
      decide
  | record sequence =>
      rw [here] at fits
      cases keep with
      | true =>
          obtain ⟨allowed, enqueued⟩ := tallies.enqueue here
          simp only [RxBus.produce, here, if_true]
          exact ⟨.singleton allowed, enqueued⟩
      | false =>
          simp only [RxBus.produce, here, Bool.false_eq_true, if_false]
          exact ⟨.nil, tallies.proceed fits⟩
  | loadLost sequence =>
      rw [here] at fits
      obtain ⟨holding, same, nonzero⟩ := fits
      simp only [RxBus.produce, here]
      exact ⟨.nil, tallies.proceed ⟨holding, same, nonzero, tallies.lostWord_older holding⟩⟩
  | swapLost sequence previous =>
      rw [here] at fits
      obtain ⟨holding, same, nonzero, older⟩ := fits
      have worse : (previous = 0 || newer sequence previous) = true := by
        rw [Bool.or_eq_true, decide_eq_true_iff]
        rcases older with zero | ⟨number, older, rfl, near⟩
        · exact .inl zero
        · right
          rw [same, newer_iff (Nat.le_refl _) (Nat.le_of_lt older) (by omega) near]
          exact older
      simp only [RxBus.produce, here, worse, if_true]
      split
      · obtain ⟨allowed, lost⟩ := tallies.lose here
        exact ⟨.singleton allowed, lost⟩
      · exact ⟨.nil, tallies.proceed ⟨holding, same, nonzero, tallies.lostWord_older holding⟩⟩

/-! ### The consumer -/

/-- `poll_rx` keeps the newer of two sequences, and so the larger of two numbers. -/
theorem Tallies.newest (tallies : Tallies m l) {number : Nat} (le : number ≤ l.count)
    (near : l.count - number < 2 ^ 31) :
    (if newer (.ofNat number) m.rxSequence then .ofNat number else m.rxSequence) =
      UInt32.ofNat (max l.seen number) := by
  have seen_le := (tallies.settled_le l.seen (by simp)).1
  have seen_near := tallies.near l.seen (by simp [Ledger.around])
  rw [tallies.rxSequence]
  by_cases newest : l.seen < number
  · rw [if_pos ((newer_iff le seen_le near seen_near).mpr newest),
      Nat.max_eq_right (Nat.le_of_lt newest)]
  · rw [if_neg (mt (newer_iff le seen_le near seen_near).mp newest),
      Nat.max_eq_left (Nat.not_lt.mp newest)]

theorem note_consumer (m : RxBus) (sequence : UInt32) (burst : Nat) :
    (m.note sequence burst).consumer = .service ∨
      ∃ left, (m.note sequence burst).consumer = .receive left := by
  simp only [RxBus.note]
  split
  · exact .inl rfl
  · exact .inr ⟨_, rfl⟩

/-- The oldest record in the queue is processed. -/
theorem Tallies.process (tallies : Tallies m l) {burst : Nat} {sequence : UInt32}
    {queue : List UInt32} (here : m.consumer = .receive burst)
    (waiting : m.queue = sequence :: queue) :
    l.Allows .processed ∧
      Tallies ({ m with queue }.note sequence burst) (l.see .processed) := by
  obtain ⟨number, queued, split, rfl, rfl⟩ :
      ∃ number queued, l.queued = number :: queued ∧ UInt32.ofNat number = sequence ∧
        queued.map UInt32.ofNat = queue := by
    rw [tallies.queue] at waiting
    exact List.map_eq_cons_iff.mp waiting
  have settled_le := tallies.settled_le
  have near := tallies.near
  rw [split] at settled_le
  simp only [Ledger.around, split] at near
  have le := settled_le number (by simp)
  have seen_le := settled_le l.seen (by simp)
  have undrained : m.rxDrained = false := tallies.polling burst (.inl here)
  refine ⟨by simp [Ledger.Allows, split], ?_⟩
  have consumer := note_consumer { m with queue := queued.map UInt32.ofNat } (.ofNat number) burst
  simp only [Ledger.see, split, List.tail_cons, List.headD_cons]
  exact {
    count := tallies.count
    queue := rfl
    lostWord := tallies.lostWord
    lostNonzero := tallies.lostNonzero
    lostSorted := tallies.lostSorted
    rxSequence := tallies.newest le.1 (near number (by simp))
    producer := tallies.producer.carry rfl rfl rfl fun newest => by
      rw [split, List.mem_cons] at newest
      rcases newest with (same | queued) | lost | seen
      · exact .inr (.inr (by simp only [same]; omega))
      · exact .inl queued
      · exact .inr (.inl lost)
      · exact .inr (.inr (by simp only [seen]; omega))
    near := fun other around => by
      change l.count - other < 2 ^ 31
      have known := near l.seen (by simp)
      have taken := near number (by simp)
      simp only [Ledger.around, List.cons_append, List.append_assoc, List.mem_cons,
        List.mem_append] at around
      rcases around with rfl | queued | rest
      · omega
      · exact near other (by simp [queued])
      · refine near other ?_
        simp only [List.cons_append, List.append_assoc, List.mem_cons, List.mem_append]
        exact .inr (.inr (.inr rest))
    settled_le := fun other around => by
      simp only [List.cons_append, List.mem_cons, List.mem_append] at around
      rcases around with rfl | queued | lost
      · exact ⟨Nat.max_le.mpr ⟨seen_le.1, le.1⟩, fun held =>
          Nat.max_lt.mpr ⟨seen_le.2 held, le.2 held⟩⟩
      · exact settled_le other (by simp [queued])
      · exact settled_le other (by simp [lost])
    looking := fun left looking => by
      rcases consumer with service | ⟨_, receive⟩
      · rw [service] at looking
        cases looking
      · rw [receive] at looking
        cases looking
    polling := fun _ _ => undrained
    drained := fun drained => absurd (drained.symm.trans undrained) (by simp)
    sending := fun control sent => by
      obtain ⟨submission, sending⟩ := tallies.sending control sent
      exact ⟨submission, { sending with }⟩ }

/-- The last of the lost numbers is the largest. -/
theorem Tallies.lost_le (tallies : Tallies m l) {last : Nat} (newest : l.lost.getLast? = some last) :
    ∀ number ∈ l.lost, number ≤ last := by
  obtain ⟨earlier, split⟩ := List.getLast?_eq_some_iff.mp newest
  have sorted := tallies.lostSorted
  rw [split] at sorted ⊢
  intro number lost
  rcases List.mem_append.mp lost with lost | same
  · exact Nat.le_of_lt ((List.pairwise_append.mp sorted).2.2 number lost last (by simp))
  · exact Nat.le_of_eq (List.mem_singleton.mp same)

/-- Everything on its way was counted. -/
theorem Tallies.unsettled_le (tallies : Tallies m l) {number : Nat}
    (unsettled : number ∈ l.unsettled) : number ≤ l.count := by
  simp only [Ledger.unsettled, List.append_assoc, List.mem_append, Option.mem_toList] at unsettled
  rcases unsettled with held | settled
  · exact Nat.le_of_eq (tallies.producer.holds held)
  · refine (tallies.settled_le number ?_).1
    rw [List.cons_append, List.mem_cons, List.mem_append]
    exact .inr settled

/-- The losses are accounted for. -/
theorem Tallies.account (tallies : Tallies m l) {burst : Nat}
    (here : m.consumer = .takeLoss burst) (some_lost : m.epoch.lostSequence ≠ 0) :
    l.Allows .accounted ∧
      Tallies ({ m with epoch := { m.epoch with lostSequence := 0 } }.note
        m.epoch.lostSequence burst) (l.see .accounted) := by
  have undrained : m.rxDrained = false := tallies.polling burst (.inr here)
  obtain ⟨last, newest⟩ : ∃ last, l.lost.getLast? = some last := by
    rw [tallies.lostWord, Ledger.lostSequence] at some_lost
    cases last : l.lost.getLast? with
    | none => simp [last] at some_lost
    | some number => exact ⟨number, rfl⟩
  have word : m.epoch.lostSequence = .ofNat last := by
    rw [tallies.lostWord, Ledger.lostSequence, newest]
  have member := List.mem_of_getLast? newest
  have value : l.lost.getLastD 0 = last := by
    rw [List.getLastD_eq_getLast?, newest, Option.getD_some]
  have near := tallies.near
  have le := tallies.settled_le last (by simp [member])
  have seen_le := tallies.settled_le l.seen (by simp)
  have last_near := near last (by simp [Ledger.around, newest])
  have consumer := note_consumer { m with epoch := { m.epoch with lostSequence := 0 } }
    m.epoch.lostSequence burst
  refine ⟨List.ne_nil_of_mem member, ?_⟩
  simp only [Ledger.see, value]
  exact {
    count := tallies.count
    queue := tallies.queue
    lostWord := rfl
    lostNonzero := by simp
    lostSorted := by simp
    rxSequence := by
      rw [word]
      exact tallies.newest le.1 last_near
    producer := tallies.producer.carry rfl rfl rfl fun known => by
      rcases known with queued | lost | seen
      · exact .inl queued
      · have := tallies.lost_le newest _ lost
        exact .inr (.inr (by dsimp only; omega))
      · exact .inr (.inr (by dsimp only; omega))
    near := fun other around => by
      change l.count - other < 2 ^ 31
      have known := near l.seen (by simp [Ledger.around])
      simp only [Ledger.around, List.getLast?_nil, Option.toList_none, List.append_nil,
        List.cons_append, List.mem_cons, List.mem_append] at around
      rcases around with rfl | queued | sent
      · omega
      · exact near other (by simp [Ledger.around, queued])
      · refine near other ?_
        simp only [Ledger.around, List.cons_append, List.append_assoc, List.mem_cons,
          List.mem_append]
        exact .inr (.inr (.inl sent))
    settled_le := fun other around => by
      simp only [List.append_nil, List.mem_cons] at around
      rcases around with rfl | queued
      · exact ⟨Nat.max_le.mpr ⟨seen_le.1, le.1⟩, fun held =>
          Nat.max_lt.mpr ⟨seen_le.2 held, le.2 held⟩⟩
      · exact tallies.settled_le other (by simp [queued])
    looking := fun left looking => by
      rcases consumer with service | ⟨_, receive⟩
      · rw [service] at looking
        cases looking
      · rw [receive] at looking
        cases looking
    polling := fun _ _ => undrained
    drained := fun drained => absurd (drained.symm.trans undrained) (by simp)
    sending := fun control sent => by
      obtain ⟨submission, sending⟩ := tallies.sending control sent
      exact ⟨submission, { sending with }⟩ }

/-- The consumer goes on without an effect that the ledger would see. -/
theorem Tallies.turn (tallies : Tallies m l) {consumer : Consumer} {rxDrained : Bool}
    (looking : ∀ burst, consumer = .takeLoss burst → ∀ number ∈ l.queued, l.seen < number)
    (polling : ∀ burst, consumer = .receive burst ∨ consumer = .takeLoss burst →
      rxDrained = false)
    (drained : rxDrained = true → ∀ number ∈ l.unsettled, l.seen < number) :
    Tallies { m with consumer, rxDrained } l where
  __ := tallies
  producer := tallies.producer.carry rfl rfl rfl id
  looking := looking
  polling := polling
  drained := drained
  sending := fun control sent => by
    obtain ⟨submission, sending⟩ := tallies.sending control sent
    exact ⟨submission, { sending with }⟩

theorem Tallies.lost_eq_nil (tallies : Tallies m l) (none_lost : m.epoch.lostSequence = 0) :
    l.lost = [] := by
  rw [tallies.lostWord, Ledger.lostSequence] at none_lost
  cases last : l.lost.getLast? with
  | none => exact List.getLast?_eq_none_iff.mp last
  | some other =>
      rw [last] at none_lost
      exact absurd none_lost (tallies.lostNonzero other (List.mem_of_getLast? last))

/-- The bus is drained: whatever is on its way is newer than what `poll_rx` was told of. -/
theorem Tallies.drain (tallies : Tallies m l) {burst : Nat} (here : m.consumer = .takeLoss burst)
    (none_lost : m.epoch.lostSequence = 0) {number : Nat} (unsettled : number ∈ l.unsettled) :
    l.seen < number := by
  have lost := tallies.lost_eq_nil none_lost
  simp only [Ledger.unsettled, lost, List.append_nil, List.mem_append, Option.mem_toList]
    at unsettled
  rcases unsettled with held | queued
  · rw [tallies.producer.holds held]
    exact (tallies.settled_le l.seen (by simp)).2 (by simp [Option.mem_def.mp held])
  · exact tallies.looking burst here number queued

/-- Whatever the consumer does next. -/
theorem Tallies.consume (tallies : Tallies m l) :
    Obedient Ledger.see Ledger.Allows l m.consume.2 ∧
      Tallies m.consume.1 (m.consume.2.foldl Ledger.see l) := by
  cases here : m.consumer with
  | idle =>
      simp only [RxBus.consume, here]
      exact ⟨.nil, tallies.turn (by simp) (by simp) (by simp)⟩
  | receive burst =>
      have undrained := tallies.polling burst (.inl here)
      simp only [RxBus.consume, here]
      split
      case h_1 sequence queue waiting =>
        obtain ⟨allowed, next⟩ := tallies.process here waiting
        exact ⟨.singleton allowed, next⟩
      case h_2 empty =>
        have queued : l.queued = [] := by
          rw [tallies.queue] at empty
          exact List.map_eq_nil_iff.mp empty
        exact ⟨.nil, tallies.turn (by simp [queued]) (fun _ _ => undrained) tallies.drained⟩
  | takeLoss burst =>
      simp only [RxBus.consume, here]
      split
      case isTrue none_lost =>
        have same : { m.epoch with lostSequence := 0 } = m.epoch := by
          rw [← none_lost]
        rw [same]
        exact ⟨.nil, tallies.turn (by simp) (by simp)
          fun _ number unsettled => tallies.drain here none_lost unsettled⟩
      case isFalse some_lost =>
        obtain ⟨allowed, next⟩ := tallies.account here some_lost
        exact ⟨.singleton allowed, next⟩
  | service =>
      simp only [RxBus.consume, here]
      exact ⟨.nil, tallies.turn (by simp) (by simp) tallies.drained⟩

/-! ### The transmission -/

/-- A transmission is submitted with everything settled, if its sequence is that of the epoch. -/
theorem Tallies.submit (tallies : Tallies m l) :
    Obedient Ledger.see Ledger.Allows l m.submit.2 ∧
      Tallies m.submit.1 (m.submit.2.foldl Ledger.see l) := by
  by_cases ready : (m.consumer = .service && m.rxDrained && m.tx.isNone) = true
  · obtain ⟨⟨_, drained⟩, free⟩ : (_ ∧ m.rxDrained = true) ∧ m.tx.isNone = true := by
      simpa only [Bool.and_eq_true] using ready
    have none_sent : m.tx = none := Option.isNone_iff_eq_none.mp free
    have seen_le := (tallies.settled_le l.seen (by simp)).1
    have submitted : m.submit = ({ m with
        consumer := .idle
        read := none
        tx := some { prepare m.rxSequence with checkRx := true } }, [.submitted]) :=
      if_pos ready
    rw [submitted]
    refine ⟨.singleton trivial, ?_⟩
    exact {
      count := tallies.count
      queue := tallies.queue
      lostWord := tallies.lostWord
      lostNonzero := tallies.lostNonzero
      lostSorted := tallies.lostSorted
      rxSequence := tallies.rxSequence
      producer := tallies.producer.carry rfl rfl rfl id
      near := fun number around => by
        refine tallies.near number ?_
        simp only [Ledger.around, List.foldl_cons, List.foldl_nil, Ledger.see, Option.isSome_some,
          if_true, Option.map_some, Option.toList_some, List.cons_append, List.append_assoc,
          List.mem_cons, List.mem_append, List.not_mem_nil] at around ⊢
        tauto
      settled_le := tallies.settled_le
      looking := by simp
      polling := by simp
      drained := tallies.drained
      sending := fun control sent => by
        obtain rfl := Option.some.inj sent
        refine ⟨⟨l.count, l.seen, l.unsettled⟩, ?_⟩
        exact {
          current := rfl
          checkRx := rfl
          rxSequence := tallies.rxSequence
          uncancelled := by simp [prepare]
          seen_le := seen_le
          count_le := Nat.le_refl _
          settled := fun (newest : l.seen = l.count) => by
            refine List.eq_nil_iff_forall_not_mem.mpr fun number unsettled => ?_
            have after := tallies.drained drained number unsettled
            have le := tallies.unsettled_le unsettled
            omega
          read := by simp } }
  · have refused : m.submit = (m, []) := if_neg ready
    rw [refused]
    exact ⟨.nil, tallies⟩

theorem Tallies.readEpoch (tallies : Tallies m l) :
    Obedient Ledger.see Ledger.Allows l m.readEpoch.2 ∧
      Tallies m.readEpoch.1 (m.readEpoch.2.foldl Ledger.see l) := by
  unfold RxBus.readEpoch
  split
  · refine ⟨.singleton trivial, { tallies with
      producer := tallies.producer.carry rfl rfl rfl id
      sending := fun control sent => ?_ }⟩
    obtain ⟨submission, sending⟩ := tallies.sending control sent
    refine ⟨submission, { sending with read := fun sequence read => ?_ }⟩
    obtain rfl := Option.some.inj read
    exact ⟨tallies.count, sending.count_le, Nat.le_refl _⟩
  · exact ⟨.nil, tallies⟩

/-- An admission compares the sequence read with that of the submission; within the window they are
the same only if the numbers are. -/
theorem Sending.admitted {control : Control} {submission : Snapshot} {sequence : UInt32}
    (sending : Sending m l control submission) (read : m.read = some sequence)
    (near : l.count - submission.seen < 2 ^ 31) (same : control.rxSequence = sequence) :
    l.Allows .admitted := by
  obtain ⟨value, after, le⟩ := sending.read sequence read
  have seen_le := sending.seen_le
  have read_seen : l.read = submission.seen := by
    refine ofNat_inj (by omega) (by omega) ?_
    rw [← value, ← same, sending.rxSequence]
  have nothing_newer : submission.seen = submission.count := by omega
  exact ⟨submission, sending.current, read_seen.trans nothing_newer,
    sending.settled nothing_newer⟩

/-- What an admission does to a control that is not cancelled. -/
theorem Control.admit_cases {control : Control} (uncancelled : control.state ≠ .cancelled)
    (checked : control.checkRx = true) (sequence : UInt32) (timestampUs : Time) :
    control.admitTx sequence timestampUs = (errRxPending, control) ∨
      (control.state = .active ∧ control.admitTx sequence timestampUs = (0, control)) ∨
      (control.state = .queued ∧ control.rxSequence = sequence ∧
        control.admitTx sequence timestampUs =
          (0, { control with startedUs := timestampUs, state := .active })) := by
  cases state : control.state with
  | cancelled => exact absurd state uncancelled
  | active => exact .inr (.inl ⟨rfl, by simp [admitTx, admitSeen, state]⟩)
  | queued =>
      by_cases same : control.rxSequence = sequence
      · exact .inr (.inr ⟨rfl, same, by simp [admitTx, admitSeen, state, same]⟩)
      · exact .inl (by simp [admitTx, admitSeen, state, same, checked])

theorem Tallies.askAdmission (tallies : Tallies m l) (timestampUs : Time) :
    Obedient Ledger.see Ledger.Allows l (m.askAdmission timestampUs).2 ∧
      Tallies (m.askAdmission timestampUs).1
        ((m.askAdmission timestampUs).2.foldl Ledger.see l) := by
  cases sent : m.tx with
  | none =>
      simp only [RxBus.askAdmission, sent]
      exact ⟨.nil, tallies⟩
  | some control =>
      cases read : m.read with
      | none =>
          simp only [RxBus.askAdmission, sent, read]
          exact ⟨.nil, tallies⟩
      | some sequence =>
          obtain ⟨submission, sending⟩ := tallies.sending control sent
          have near := tallies.near submission.seen (by
            simp [Ledger.around, sent, sending.current])
          -- the control that is left is the same but for the state word and the start time
          have next (state : TxState) (startedUs : Time) (live : state ≠ .cancelled) :
              Tallies { m with tx := some { control with state, startedUs }, read := none } l := {
            tallies with
            producer := tallies.producer.carry rfl rfl rfl id
            near := fun number around => tallies.near number (by rwa [sent])
            sending := fun other same => by
              obtain rfl := Option.some.inj same
              exact ⟨submission, { sending with uncancelled := live, read := by simp }⟩ }
          simp only [RxBus.askAdmission, sent, read]
          rcases Control.admit_cases sending.uncancelled sending.checkRx sequence timestampUs with
            refused | ⟨active, again⟩ | ⟨queued, same, granted⟩
          · simp only [refused]
            exact ⟨.nil, next control.state control.startedUs sending.uncancelled⟩
          · simp only [again, active]
            exact ⟨.nil, next control.state control.startedUs sending.uncancelled⟩
          · simp only [granted, queued]
            exact ⟨.singleton (sending.admitted read near same),
              next .active timestampUs (by simp)⟩

theorem Tallies.finish (tallies : Tallies m l) :
    Tallies { m with tx := none, read := none } l where
  __ := tallies
  producer := tallies.producer.carry rfl rfl rfl id
  near := fun number around => by
    refine tallies.near number ?_
    simp only [Ledger.around, Option.isSome_none, Bool.false_eq_true, if_false, List.append_nil,
      List.mem_append] at around ⊢
    exact around.imp_left .inl
  sending := by simp

theorem Tallies.step (tallies : Tallies m l) (turn : RxTurn)
    (within : (m.step turn).1.Within) :
    Obedient Ledger.see Ledger.Allows l (m.step turn).2 ∧
      Tallies (m.step turn).1 ((m.step turn).2.foldl Ledger.see l) := by
  cases turn with
  | produce keep => exact tallies.produce keep within
  | consume => exact tallies.consume
  | submit => exact tallies.submit
  | read => exact tallies.readEpoch
  | admitTx timestampUs => exact tallies.askAdmission timestampUs
  | finish => exact ⟨.nil, tallies.finish⟩

end Turns

/-! ## Every run -/

def ledgerOf (log : List RxEvent) : Ledger :=
  log.foldl Ledger.see {}

section Runs

variable {m : RxBus} {l : Ledger}

/-- With the queue and the loss word empty and nothing being produced, `poll_rx` was told of the
newest number. -/
theorem Tallies.caught_up (tallies : Tallies m l) (empty : m.queue = [])
    (none_lost : m.epoch.lostSequence = 0) (idle : m.producer = .idle) :
    m.rxSequence = m.epoch.sequence ∧ l.unsettled = [] := by
  have queued : l.queued = [] := by
    rw [tallies.queue] at empty
    exact List.map_eq_nil_iff.mp empty
  have lost := tallies.lost_eq_nil none_lost
  have fits := tallies.producer
  rw [idle] at fits
  obtain ⟨free, newest⟩ := fits
  rw [queued, lost] at newest
  have seen : l.seen = l.count := by simpa using newest
  refine ⟨?_, by simp [Ledger.unsettled, free, queued, lost]⟩
  rw [tallies.rxSequence, tallies.count, seen]

/-- A service of a bus that has nothing to give submits its repeat, and the driver is admitted. -/
theorem service_admits (empty : m.queue = []) (none_lost : m.epoch.lostSequence = 0)
    (same : m.rxSequence = m.epoch.sequence) (ready : m.consumer = .idle) (free : m.tx = none)
    (timestampUs : Time) :
    events RxBus.step m [.consume, .consume, .consume, .submit, .read, .admitTx timestampUs] =
      [.submitted, .read, .admitted] := by
  simp [events, RxBus.step, RxBus.consume, RxBus.submit, RxBus.readEpoch, RxBus.askAdmission,
    empty, none_lost, same, ready, free, Control.admitTx, Control.admitSeen, prepare]

/-- In every run whose sequences stay within the window, whatever the order of production, draining,
submissions and admissions: a repeat is admitted only if every record that was produced before the
driver read the epoch had been processed or accounted for before the repeat was submitted. When the
queue and the loss word are empty and nothing is being produced, `poll_rx` knows the epoch's
sequence, so that the next repeat is admitted. -/
theorem no_overtaking (turns : List RxTurn) (within : WithinWindow turns) :
    let m := (rxAfter turns).1
    let log := (rxAfter turns).2
    Obedient Ledger.see Ledger.Allows {} log ∧
      (m.queue = [] → m.epoch.lostSequence = 0 → m.producer = .idle →
        m.rxSequence = m.epoch.sequence ∧ (ledgerOf log).unsettled = [] ∧
          (m.consumer = .idle → m.tx = none → ∀ timestampUs,
            events RxBus.step m
              [.consume, .consume, .consume, .submit, .read, .admitTx timestampUs] =
                [.submitted, .read, .admitted])) := by
  intro m log
  obtain ⟨obedient, tallies⟩ := within.obedient
    (fun _ _ _ turn tallies within => Tallies.step tallies turn within) tallies_init
  refine ⟨obedient, fun empty none_lost idle => ?_⟩
  obtain ⟨same, settled⟩ := tallies.caught_up empty none_lost idle
  exact ⟨same, settled, fun ready free timestampUs =>
    service_admits empty none_lost same ready free timestampUs⟩

instance (turns : List RxTurn) : Decidable (WithinWindow turns) :=
  inferInstanceAs (Decidable (Admissible _ _ _ _))

/-- One record is queued and one lost; both are drained before a repeat is admitted. -/
private def drainedTurns : List RxTurn :=
  [.produce true, .produce true, .produce false, .produce false, .produce false, .produce false,
    .consume, .consume, .consume, .consume, .consume, .consume, .submit, .read, .admitTx 1000]

theorem no_overtaking_after_loss :
    Obedient Ledger.see Ledger.Allows {} (rxAfter drainedTurns).2 ∧
      (rxAfter drainedTurns).2.getLast? = some .admitted :=
  ⟨(no_overtaking drainedTurns (by decide +kernel)).1, by decide +kernel⟩

/-- Every record that was produced before the admission had been settled before the submission. -/
def AdmitsSettled (log : List RxEvent) : Prop :=
  ∀ earlier later, log = earlier ++ .admitted :: later →
    ∃ submission ∈ (ledgerOf earlier).submission,
      (ledgerOf earlier).count = submission.count ∧ submission.unsettled = []

/-- A record can arrive between the driver's read of the epoch and the admission. -/
theorem record_before_admission :
    ¬ ∀ turns, WithinWindow turns → AdmitsSettled (rxAfter turns).2 := by
  intro settled
  obtain ⟨submission, current, same, _⟩ := settled
    [.consume, .consume, .consume, .submit, .read, .produce true, .produce true, .admitTx 1000]
    (by decide +kernel) [.submitted, .read, .counted, .produced, .enqueued] []
    (by decide +kernel)
  obtain rfl : (⟨0, 0, []⟩ : Snapshot) = submission := Option.some.inj current
  exact absurd same (by decide)

end Runs

end OpenDiag.Bus
