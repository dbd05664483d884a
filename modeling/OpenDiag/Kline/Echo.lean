import OpenDiag.Kline.Framing
import OpenDiag.Kline.Transmit

/-!
# The echo of a transmission

What is received from the transmit boundary on is the echo and, behind it, the response. While
`tx_once` runs, the bytes it has taken off the cursor are the first bytes of the message, and the
rest is still there, unless a receive error came in between. The invariant is kept by every look at
the UART, by every event and by both places that read the echo; from it follow the outcome of the
transmission and what it leaves for the receive side.
-/

namespace OpenDiag.Kline

/-! ## Looks -/

/-- Only time has passed, and bytes have moved towards the cursor. -/
structure Task.Looked (g later : Task) : Prop where
  same : later =
    { g with
      world := later.world
      clock := later.clock
      wire := later.wire
      ring := later.ring
      uartPending := later.uartPending
      uartPendingUs := later.uartPendingUs }
  stream : later.stream = g.stream
  clock : g.clock ≤ later.clock
  world : later.world <:+ g.world
  wire : later.wire <:+ g.wire

namespace Task

variable {g later last : Task}

theorem Looked.refl (g : Task) : g.Looked g :=
  ⟨rfl, rfl, Int.le_refl _, List.suffix_refl _, List.suffix_refl _⟩

/-- Two looks are a longer one. -/
theorem Looked.trans (first : g.Looked later) (second : later.Looked last) : g.Looked last where
  same := by
    have same := second.same
    rw [first.same] at same
    exact same
  stream := second.stream.trans first.stream
  clock := Int.le_trans first.clock second.clock
  world := List.IsSuffix.trans second.world first.world
  wire := List.IsSuffix.trans second.wire first.wire

theorem Looked.txEndUs (looked : g.Looked later) : later.txEndUs = g.txEndUs := by
  rw [looked.same]

/-- Time passes, and what is due has reached the ring. -/
theorem arrive_looked (g : Task) {time : Int} (order : g.clock ≤ time) {world : List Moment}
    (shorter : world <:+ g.world) : g.Looked { g with world, clock := time }.arrive := by
  refine ⟨rfl, ?_, order, shorter, List.dropWhile_suffix _⟩
  simp only [stream, arrive, List.append_assoc, ← List.map_append,
    List.takeWhile_append_dropWhile]

/-- An observation is a look. -/
theorem observe_looked (g : Task) : g.Looked g.observe.2 := by
  unfold observe
  cases next : g.world with
  | nil =>
      have looked := arrive_looked g (by omega : g.clock ≤ g.clock + 1) (List.suffix_refl g.world)
      rw [next] at looked
      exact looked
  | cons moment world =>
      exact arrive_looked g (by omega) (by rw [next]; exact List.suffix_cons moment world)

/-- The byte at the wire's head is not due. -/
def HeadLate (g : Task) : Prop :=
  ∀ byte ∈ g.wire.head?, g.clock < byte.1

/-- What has arrived is no longer on the wire, so the next byte is late. -/
theorem arrive_headLate (g : Task) : g.arrive.HeadLate := by
  intro byte member
  have late := List.head?_dropWhile_not (fun byte : Int × UInt8 => decide (byte.1 ≤ g.clock)) g.wire
  simp only [arrive] at member
  rw [Option.mem_def.mp member] at late
  exact Int.not_le.mp (of_decide_eq_false late)

theorem observe_headLate (g : Task) : g.observe.2.HeadLate := by
  unfold observe
  cases g.world with
  | nil => exact arrive_headLate _
  | cons moment world => exact arrive_headLate _

/-- There is nothing to read at this time. -/
structure Dry (g : Task) : Prop where
  uartPending : g.uartPending = []
  ring : g.ring = []
  wire : g.HeadLate

/-- What `uart_read_bytes` hands over goes to the empty cursor. When it hands over nothing there is
nothing to read. -/
theorem readBytes_looked (g : Task) (empty : g.uartPending = []) :
    g.Looked { (g.readBytes 64).2 with uartPending := (g.readBytes 64).1 } ∧
      ((g.readBytes 64).1 = [] → (g.readBytes 64).2.Dry) := by
  have looked := observe_looked g
  have pending := (observe_uartPending g).trans empty
  constructor
  · refine ⟨?_, ?_, looked.clock, looked.world, looked.wire⟩
    · unfold readBytes
      simp only
      rw [looked.same]
    · rw [← looked.stream]
      simp only [stream, readBytes, List.take_append_drop, pending, List.nil_append]
  · intro none
    have ring : g.observe.2.ring = [] := by
      simp only [readBytes, List.take_eq_nil_iff] at none
      rcases none with count | ring
      · omega
      · exact ring
    refine ⟨pending, ?_, observe_headLate g⟩
    simp only [readBytes, ring, List.drop_nil]

/-- What a wait for a byte hands over goes to the empty cursor; a wait in vain takes time. -/
theorem waitByte_looked (g : Task) (wait : Nat) (empty : g.uartPending = []) :
    g.Looked { (g.waitByte wait).2 with uartPending := (g.waitByte wait).1 } ∧
      ((g.waitByte wait).1 = [] → g.clock < (g.waitByte wait).2.clock) := by
  have looked := observe_looked g
  have pending := (observe_uartPending g).trans empty
  have late := observe_headLate g
  unfold waitByte
  simp only
  cases ring : g.observe.2.ring with
  | cons byte rest =>
      refine ⟨looked.trans ⟨rfl, ?_, Int.le_refl _, List.suffix_refl _, List.suffix_refl _⟩,
        fun none => absurd none (List.cons_ne_nil _ _)⟩
      simp only [stream, pending, ring]
      rfl
  | nil =>
      cases wire : g.observe.2.wire with
      | nil =>
          refine ⟨looked.trans ⟨?_, ?_, ?_, List.suffix_refl _, ?_⟩, fun _ => ?_⟩
          · rfl
          · simp only [stream, pending, ring, wire]
          · simp only
            omega
          · simp only [wire]
            exact List.suffix_refl _
          · have order := looked.clock
            simp only
            omega
      | cons byte rest =>
          obtain ⟨time, byte⟩ := byte
          have after := late (time, byte) (by rw [wire]; rfl)
          simp only at after
          by_cases due : time ≤ g.observe.2.clock + (max 1 (wait - g.observe.1.cut) : Nat)
          · simp only [due, if_true]
            refine ⟨looked.trans ⟨?_, ?_, ?_, List.suffix_refl _, ?_⟩,
              fun none => absurd none (List.cons_ne_nil _ _)⟩
            · rfl
            · simp only [stream, pending, ring, wire]
              rfl
            · exact Int.le_of_lt after
            · rw [wire]
              exact List.suffix_cons _ _
          · simp only [due, if_false]
            refine ⟨looked.trans ⟨?_, ?_, ?_, List.suffix_refl _, ?_⟩, fun _ => ?_⟩
            · rfl
            · simp only [stream, pending, ring, wire]
            · simp only
              omega
            · simp only [wire]
              exact List.suffix_refl _
            · have order := looked.clock
              omega

/-- To wait for a byte touches nothing that was read before. -/
theorem waitByte_uartPending (g : Task) (wait : Nat) :
    (g.waitByte wait).2.uartPending = g.uartPending := by
  rw [← observe_uartPending g]
  unfold waitByte
  simp only
  split
  · rfl
  · split
    · split <;> rfl
    · rfl

/-- The bytes of a batch are in the cursor; then the clock is read. -/
theorem nowUs_looked (g : Task) (bytes : List UInt8) :
    { g with uartPending := bytes }.Looked
      { g.nowUs.2 with uartPending := bytes, uartPendingUs := g.nowUs.1 } := by
  have looked := observe_looked { g with uartPending := bytes }
  have same : { g.observe.2 with uartPending := bytes } =
      ({ g with uartPending := bytes } : Task).observe.2 := by
    unfold observe
    cases g.world <;> rfl
  rw [← same] at looked
  exact looked.trans ⟨rfl, rfl, Int.le_refl _, List.suffix_refl _, List.suffix_refl _⟩

/-- What a fill with this wait leaves. -/
structure Filled (g : Task) (wait : Nat) (filled : Bool) (later : Task) : Prop where
  looked : g.Looked later
  filled_iff : filled = true ↔ later.uartPending ≠ []
  /-- The cursor is empty only if there is nothing to read, or the wait took time. -/
  empty : later.uartPending = [] → (wait = 0 → later.Dry) ∧ (wait ≠ 0 → g.clock < later.clock)

theorem Filled.of_bytes {wait : Nat} {bytes : List UInt8}
    (looked : g.Looked { later with uartPending := bytes })
    (empty : bytes = [] → later.uartPending = [] ∧
      (wait = 0 → later.Dry) ∧ (wait ≠ 0 → g.clock < later.clock)) :
    let answer :=
      if bytes.isEmpty then (false, later)
      else
        let (now, g) := later.nowUs
        (true, { g with uartPending := bytes, uartPendingUs := now })
    g.Filled wait answer.1 answer.2 := by
  cases bytes with
  | nil =>
      obtain ⟨pending, outcome⟩ := empty rfl
      have same : { later with uartPending := [] } = later := by rw [← pending]
      rw [same] at looked
      exact ⟨looked, ⟨fun wrong => absurd wrong Bool.false_ne_true,
        fun wrong => absurd pending wrong⟩, fun _ => outcome⟩
  | cons byte bytes =>
      exact ⟨looked.trans (nowUs_looked later _), ⟨fun _ => List.cons_ne_nil _ _, fun _ => rfl⟩,
        fun none => absurd none (List.cons_ne_nil _ _)⟩

/-- A fill reads what has come, or waits for it. -/
theorem uartFill_filled (g : Task) (wait : Nat) :
    g.Filled wait (g.uartFill wait).1 (g.uartFill wait).2 := by
  cases pending : g.uartPending with
  | cons byte rest =>
      have same : g.uartFill wait = (true, g) := by
        rw [uartFill, pending]
        rfl
      rw [same]
      exact ⟨Looked.refl g, ⟨fun _ => by rw [pending]; exact List.cons_ne_nil _ _, fun _ => rfl⟩,
        fun none => absurd none (by rw [pending]; exact List.cons_ne_nil _ _)⟩
  | nil =>
      obtain ⟨read, dry⟩ := readBytes_looked g pending
      unfold uartFill
      simp only [pending, List.isEmpty_nil, Bool.not_true, Bool.false_eq_true, if_false]
      by_cases waits : (g.readBytes 64).1 = [] ∧ wait ≠ 0
      · obtain ⟨none, time⟩ := waits
        have looked : g.Looked (g.readBytes 64).2 := by
          rwa [none, ← (dry none).uartPending] at read
        obtain ⟨waited, passed⟩ := waitByte_looked (g.readBytes 64).2 wait (dry none).uartPending
        simp only [none, List.isEmpty_nil, bne_iff_ne.mpr time, Bool.and_self, if_true]
        refine Filled.of_bytes (looked.trans waited) fun vain => ?_
        refine ⟨(waitByte_uartPending _ wait).trans (dry none).uartPending,
          fun zero => absurd zero time, fun _ => ?_⟩
        exact Int.lt_of_le_of_lt looked.clock (passed vain)
      · have asIs : ((g.readBytes 64).1.isEmpty && wait != 0) = false := by
          rw [Bool.and_eq_false_iff, List.isEmpty_eq_false_iff, bne_eq_false_iff_eq]
          by_cases none : (g.readBytes 64).1 = []
          · exact Or.inr (Decidable.not_not.mp fun time => waits ⟨none, time⟩)
          · exact Or.inl none
        simp only [asIs, Bool.false_eq_true, if_false]
        refine Filled.of_bytes read fun none => ?_
        exact ⟨(dry none).uartPending, fun _ => dry none, fun time => absurd ⟨none, time⟩ waits⟩

/-- Where bytes are left from before, nothing is read. -/
theorem uartFill_of_pending {wait : Nat} (some : g.uartPending ≠ []) : (g.uartFill wait).2 = g := by
  rw [uartFill, if_pos]
  rw [Bool.not_eq_true', List.isEmpty_eq_false_iff]
  exact some

end Task

/-! ## The invariant -/

/-- The receive errors taken so far. -/
def Task.errors (g : Task) : Nat :=
  g.stats.rxOverrun + g.stats.rxFrameErr

/-- Where the transmission `tx` stands that began in the state `start`. -/
structure Task.Echoing (start g : Task) (tx : Tx) : Prop where
  current : g.tx = some tx
  echoed_le : tx.echoed ≤ tx.sent
  sent_le : tx.sent ≤ tx.data.length
  announced_le : tx.announced ≤ tx.data.length
  txEchoOk : g.stats.txEchoOk = start.stats.txEchoOk + tx.echoed
  uartTxUnresolved : g.uartTxUnresolved = start.uartTxUnresolved
  world : g.world <:+ start.world
  wire : g.wire <:+ start.wire
  errors : start.errors ≤ g.errors
  faults : start.faults ≤ g.faults
  /-- An error while a part of the echo is outstanding fails the transmission. -/
  clean : tx.failed = false → g.faults = start.faults ∧
    (tx.echoed < tx.data.length → g.errors = start.errors)
  /-- What was read is the message. -/
  sound : tx.failed = false → tx.data.take tx.echoed <+: start.stream
  /-- What was not read is still there. -/
  held : tx.failed = false → g.errors = start.errors →
    tx.data.take tx.echoed ++ g.stream = start.stream ∧ g.asmBuf = [] ∧ g.rxInvalid = false
  failure : tx.failed = true → start.faults < g.faults ∨ ¬tx.data <+: start.stream

/-- What steps of the same transmission keep. -/
structure Task.Onward (g : Task) (tx : Tx) (later : Task) (after : Tx) : Prop where
  data : after.data = tx.data
  sent : after.sent = tx.sent
  echoed : tx.echoed ≤ after.echoed
  failed : tx.failed = true → after.failed = true
  clock : g.clock ≤ later.clock
  txEndUs : later.txEndUs = g.txEndUs
  /-- A byte in the cursor stays there while echo is outstanding. -/
  uartPending : tx.echoed < tx.sent → g.uartPending ≠ [] →
    later.uartPending ≠ [] ∨ tx.echoed < after.echoed ∨ after.failed = true

/-- The transmission goes on from `g` to `later`. -/
def Task.Advances (start g : Task) (tx : Tx) (later : Task) : Prop :=
  ∃ after, start.Echoing later after ∧ g.Onward tx later after

namespace Task

variable {start g later last : Task} {tx : Tx} {byte : UInt8} {rest : List UInt8}

theorem Onward.refl (g : Task) (tx : Tx) : g.Onward tx g tx :=
  ⟨rfl, rfl, Nat.le_refl _, id, Int.le_refl _, rfl, fun _ => Or.inl⟩

/-- What goes onward twice goes onward. -/
theorem Onward.trans {after final : Tx} (first : g.Onward tx later after)
    (second : later.Onward after last final) : g.Onward tx last final where
  data := second.data.trans first.data
  sent := second.sent.trans first.sent
  echoed := Nat.le_trans first.echoed second.echoed
  failed := second.failed ∘ first.failed
  clock := Int.le_trans first.clock second.clock
  txEndUs := second.txEndUs.trans first.txEndUs
  uartPending outstanding some := by
    by_cases more : tx.echoed < final.echoed
    · exact Or.inr (Or.inl more)
    · rcases first.uartPending outstanding some with kept | read | failed
      · have same : after.echoed = tx.echoed :=
          Nat.le_antisymm (Nat.le_trans second.echoed (Nat.not_lt.mp more)) first.echoed
        have still := second.uartPending (by rw [same, first.sent]; exact outstanding) kept
        rwa [same] at still
      · exact absurd (Nat.lt_of_lt_of_le read second.echoed) more
      · exact Or.inr (Or.inr (second.failed failed))

/-- Two advances are one, if the second goes on from wherever the first ends. -/
theorem Advances.trans (first : start.Advances g tx later)
    (second : ∀ after, start.Echoing later after → g.Onward tx later after →
      start.Advances later after last) : start.Advances g tx last := by
  obtain ⟨after, echoing, onward⟩ := first
  obtain ⟨final, done, further⟩ := second after echoing onward
  exact ⟨final, done, onward.trans further⟩

/-- Looking changes nothing. -/
theorem Echoing.looked (echoing : start.Echoing g tx) (looked : g.Looked later) :
    start.Echoing later tx := by
  obtain ⟨current, echoed, sent, announced, count, resolved, world, wire, errors, faults, clean,
    sound, held, failure⟩ := echoing
  have stream := looked.stream
  have world' := List.IsSuffix.trans looked.world world
  have wire' := List.IsSuffix.trans looked.wire wire
  rw [looked.same] at stream ⊢
  exact ⟨current, echoed, sent, announced, count, resolved, world', wire', errors, faults, clean,
    sound, fun live same => by rw [stream]; exact held live same, failure⟩

/-- A look moves the transmission nowhere. -/
theorem Looked.advances (looked : g.Looked later) (echoing : start.Echoing g tx)
    (cursor : g.uartPending ≠ [] → later.uartPending ≠ []) : start.Advances g tx later := by
  exact ⟨tx, echoing.looked looked, rfl, rfl, Nat.le_refl _, id, looked.clock, looked.txEndUs,
    fun _ some => Or.inl (cursor some)⟩

theorem observe_advances (echoing : start.Echoing g tx) : start.Advances g tx g.observe.2 :=
  (observe_looked g).advances echoing fun some => by rwa [observe_uartPending]

/-- No error came before a part of the echo that is outstanding: the next byte is the next one of
what was received. -/
theorem Echoing.next (echoing : start.Echoing g tx) (live : tx.failed = false)
    (outstanding : tx.echoed < tx.sent) (cursor : g.uartPending = byte :: rest) :
    g.errors = start.errors ∧
      tx.data.take tx.echoed ++ byte :: (rest ++ g.ring ++ g.wire.map (·.2)) = start.stream := by
  have same := (echoing.clean live).2 (Nat.lt_of_lt_of_le outstanding echoing.sent_le)
  have held := (echoing.held live same).1
  rw [stream, cursor] at held
  exact ⟨same, held⟩

/-- A byte that is the next of the echo is taken as such. -/
theorem Echoing.take_same (echoing : start.Echoing g tx) (live : tx.failed = false)
    (outstanding : tx.echoed < tx.sent) (cursor : g.uartPending = byte :: rest)
    (same : tx.data[tx.echoed]? = some byte) :
    start.Echoing
      { g with
        uartPending := rest
        lastBusUs := g.uartPendingUs
        tx := some { tx with echoed := tx.echoed + 1 }
        stats := { g.stats with txEchoOk := g.stats.txEchoOk + 1 } }
      { tx with echoed := tx.echoed + 1 } := by
  obtain ⟨quiet, held⟩ := echoing.next live outstanding cursor
  have longer : tx.data.take (tx.echoed + 1) = tx.data.take tx.echoed ++ [byte] := by
    rw [List.take_add_one, same, Option.toList_some]
  have split : tx.data.take (tx.echoed + 1) ++ (rest ++ g.ring ++ g.wire.map (·.2)) =
      start.stream := by
    rw [longer, List.append_assoc, List.singleton_append]
    exact held
  refine ⟨rfl, outstanding, echoing.sent_le, echoing.announced_le, ?_, echoing.uartTxUnresolved,
    echoing.world, echoing.wire, echoing.errors, echoing.faults, fun _ => ?_, fun _ => ?_,
    fun _ errors => ?_, fun failed => ?_⟩
  · simp only [echoing.txEchoOk]
    omega
  · exact ⟨(echoing.clean live).1, fun _ => quiet⟩
  · exact ⟨_, split⟩
  · exact ⟨split, (echoing.held live quiet).2⟩
  · rw [live] at failed
    cases failed

/-- Any other byte fails the transmission. -/
theorem Echoing.take_other (echoing : start.Echoing g tx) (live : tx.failed = false)
    (outstanding : tx.echoed < tx.sent) (cursor : g.uartPending = byte :: rest)
    (other : tx.data[tx.echoed]? ≠ some byte) :
    start.Echoing
      { g with
        uartPending := rest
        lastBusUs := g.uartPendingUs
        tx := some { tx with failed := true }
        stats := { g.stats with txEchoBad := g.stats.txEchoBad + 1 } }
      { tx with failed := true } := by
  obtain ⟨quiet, held⟩ := echoing.next live outstanding cursor
  have bound := Nat.lt_of_lt_of_le outstanding echoing.sent_le
  refine ⟨rfl, echoing.echoed_le, echoing.sent_le, echoing.announced_le, echoing.txEchoOk,
    echoing.uartTxUnresolved, echoing.world, echoing.wire, echoing.errors, echoing.faults,
    (fun live => nomatch live), (fun live => nomatch live), (fun live => nomatch live),
    fun _ => Or.inr fun whole => other ?_⟩
  -- the byte stands where the message has another
  have there : start.stream[tx.echoed]? = some byte := by
    rw [← held, List.getElem?_append_right (List.length_take_le _ _), List.length_take,
      Nat.min_eq_left (Nat.le_of_lt bound), Nat.sub_self, List.getElem?_cons_zero]
  obtain ⟨reply, received⟩ := whole
  rw [← received, List.getElem?_append_left bound] at there
  exact there

/-- Reading the echo reads as many bytes as it may, or there is nothing to read, or the transmission
has failed. -/
theorem readEcho_advances (count : Nat) (echoing : start.Echoing g tx)
    (room : tx.echoed + count ≤ tx.sent) :
    ∃ after, start.Echoing (g.readEcho count) after ∧ g.Onward tx (g.readEcho count) after ∧
      (after.failed = true ∨ after.echoed = tx.echoed + count ∨ (g.readEcho count).Dry) ∧
      (g.uartPending ≠ [] → 0 < count → tx.echoed < after.echoed ∨ after.failed = true) := by
  induction count generalizing g tx with
  | zero =>
      exact ⟨tx, echoing, Onward.refl g tx, Or.inr (Or.inl rfl), fun _ more =>
        absurd more (Nat.lt_irrefl 0)⟩
  | succ count ih =>
      unfold readEcho
      simp only [echoing.current]
      rcases Bool.eq_false_or_eq_true tx.failed with failed | live
      · rw [if_pos failed]
        exact ⟨tx, echoing, Onward.refl g tx, Or.inl failed, fun _ _ => Or.inr failed⟩
      · rw [if_neg (Bool.eq_false_iff.mp live)]
        have filled := uartFill_filled g 0
        have ready := echoing.looked filled.looked
        have kept : g.uartPending ≠ [] → (g.uartFill 0).2.uartPending ≠ [] := fun some => by
          rwa [uartFill_of_pending some]
        generalize g.uartFill 0 = answer at filled ready kept
        obtain ⟨some, later⟩ := answer
        have boundary : later.txEndUs = g.txEndUs := by
          have same := filled.looked.same
          simp only at same
          rw [same]
        cases cursor : later.uartPending with
        | nil =>
            have none : some = false :=
              Bool.eq_false_iff.mpr fun wrong => filled.filled_iff.mp wrong cursor
            simp only [none, Bool.not_false, if_true]
            exact ⟨tx, ready, ⟨rfl, rfl, Nat.le_refl _, id, filled.looked.clock, boundary,
              fun _ some => absurd cursor (kept some)⟩,
              Or.inr (Or.inr ((filled.empty cursor).1 rfl)), fun some => absurd cursor (kept some)⟩
        | cons byte rest =>
            have some : some = true :=
              filled.filled_iff.mpr (by rw [cursor]; exact List.cons_ne_nil _ _)
            simp only [some, Bool.not_true, Bool.false_eq_true, if_false]
            have outstanding : tx.echoed < tx.sent := by omega
            by_cases same : tx.data[tx.echoed]? = Option.some byte
            · simp only [same, ne_eq, not_true_eq_false, if_false]
              obtain ⟨after, echoing', onward, outcome, _⟩ :=
                ih (ready.take_same live outstanding cursor same) (by simp only; omega)
              have more : tx.echoed < after.echoed := onward.echoed
              refine ⟨after, echoing', ⟨onward.data, onward.sent, Nat.le_of_lt more,
                fun failed => ?_, Int.le_trans filled.looked.clock onward.clock,
                onward.txEndUs.trans boundary, fun _ _ => Or.inr (Or.inl more)⟩, ?_,
                fun _ _ => Or.inl more⟩
              · rw [live] at failed
                cases failed
              · refine outcome.imp_right (Or.imp_left fun all => ?_)
                rw [all]
                simp only
                omega
            · simp only [same, ne_eq, not_false_eq_true, if_true]
              exact ⟨_, ready.take_other live outstanding cursor same, ⟨rfl, rfl, Nat.le_refl _,
                fun _ => rfl, filled.looked.clock, boundary, fun _ _ => Or.inr (Or.inr rfl)⟩,
                Or.inl rfl, fun _ _ => Or.inr rfl⟩

/-- The echo is read up to a limit, or to its first other byte. -/
theorem txReadEcho_advances (limit : Nat) (echoing : start.Echoing g tx) (bound : limit ≤ tx.sent) :
    start.Advances g tx (g.txReadEcho limit) := by
  have room : tx.echoed + (limit - tx.echoed) ≤ tx.sent := by
    have echoed := echoing.echoed_le
    omega
  obtain ⟨after, echoing', onward, _⟩ := readEcho_advances _ echoing room
  rw [txReadEcho, echoing.current]
  exact ⟨after, echoing', onward⟩

/-- A data notification raises the number of bytes announced. -/
theorem Echoing.announce (echoing : start.Echoing g tx) (announced : Nat)
    (bound : announced ≤ tx.data.length) :
    start.Advances g tx { g with tx := some { tx with announced } } :=
  ⟨{ tx with announced },
    ⟨rfl, echoing.echoed_le, echoing.sent_le, bound, echoing.txEchoOk, echoing.uartTxUnresolved,
      echoing.world, echoing.wire, echoing.errors, echoing.faults, echoing.clean, echoing.sound,
      echoing.held, echoing.failure⟩,
    rfl, rfl, Nat.le_refl _, id, Int.le_refl _, rfl, fun _ => Or.inl⟩

/-- What a receive error does to the state, up to `rx_fault`. -/
structure Faulty (g : Task) (tx : Tx) (later : Task) : Prop where
  current : later.tx = some tx
  txEchoOk : later.stats.txEchoOk = g.stats.txEchoOk
  uartTxUnresolved : later.uartTxUnresolved = g.uartTxUnresolved
  world : later.world = g.world
  wire : later.wire = g.wire
  clock : later.clock = g.clock
  txEndUs : later.txEndUs = g.txEndUs
  errors : later.errors = g.errors + 1
  faults : later.faults = g.faults + if tx.echoed < tx.data.length then 1 else 0

/-- `rx_fault` fails a transmission whose echo is outstanding, looks at the clock and drops what is
under assembly. -/
theorem rxFault_eq (current : g.tx = some tx) :
    ∃ last, Looked
        { g with
          tx := some (if tx.echoed < tx.data.length then { tx with failed := true } else tx) } last ∧
      g.rxFault = { last with asmBuf := [], rxInvalid := true, rxInvalidLastUs := last.clock } := by
  refine ⟨_, observe_looked _, ?_⟩
  rw [rxFault, current]
  rfl

/-- A receive error drops what was under assembly and may fail the transmission. -/
theorem rxFault_advances (echoing : start.Echoing g tx) (faulty : g.Faulty tx later) :
    start.Advances g tx later.rxFault := by
  have more := echoing.errors
  obtain ⟨last, ⟨same, -, clock, world, wire⟩, done⟩ := rxFault_eq faulty.current
  have errors : last.errors = g.errors + 1 := by rw [same]; exact faulty.errors
  have faults : last.faults = g.faults + if tx.echoed < tx.data.length then 1 else 0 := by
    rw [same]
    exact faulty.faults
  have lost : last.errors ≠ start.errors := by omega
  have txEchoOk : last.stats.txEchoOk = g.stats.txEchoOk := by rw [same]; exact faulty.txEchoOk
  have resolved : last.uartTxUnresolved = g.uartTxUnresolved := by
    rw [same]
    exact faulty.uartTxUnresolved
  have world' : last.world <:+ start.world :=
    List.IsSuffix.trans (faulty.world ▸ world) echoing.world
  have wire' : last.wire <:+ start.wire := List.IsSuffix.trans (faulty.wire ▸ wire) echoing.wire
  have errors' : start.errors ≤ last.errors := by omega
  have counts : last.stats.txEchoOk = start.stats.txEchoOk + tx.echoed :=
    txEchoOk.trans echoing.txEchoOk
  have clock' : g.clock ≤ last.clock := faulty.clock ▸ clock
  have txEndUs : last.txEndUs = g.txEndUs := by rw [same]; exact faulty.txEndUs
  have older := echoing.faults
  rw [done]
  by_cases outstanding : tx.echoed < tx.data.length
  · rw [if_pos outstanding] at same faults
    refine ⟨{ tx with failed := true }, ⟨by rw [same], echoing.echoed_le, echoing.sent_le,
      echoing.announced_le, counts, resolved.trans echoing.uartTxUnresolved, world', wire', errors',
      by simp only; omega, (fun live => nomatch live), (fun live => nomatch live),
      (fun live => nomatch live), fun _ => Or.inl (by simp only; omega)⟩, rfl, rfl, Nat.le_refl _,
      fun _ => rfl, clock', txEndUs, fun _ _ => Or.inr (Or.inr rfl)⟩
  · rw [if_neg outstanding] at same faults
    refine ⟨tx, ⟨by rw [same], echoing.echoed_le, echoing.sent_le,
      echoing.announced_le, counts, resolved.trans echoing.uartTxUnresolved, world', wire', errors',
      by simp only; omega, fun live => ⟨faults.trans (echoing.clean live).1, fun still =>
      absurd still outstanding⟩, echoing.sound, fun _ same => absurd same lost, fun failed => ?_⟩,
      rfl, rfl, Nat.le_refl _, id, clock', txEndUs, fun still => ?_⟩
    · rw [show (_ : Task).faults = g.faults from faults]
      exact echoing.failure failed
    · exact absurd (Nat.lt_of_lt_of_le still echoing.sent_le) outstanding

/-- A fault is counted while the echo is outstanding. -/
theorem noteFault_faults (current : g.tx = some tx) :
    g.noteFault.faults = g.faults + if tx.echoed < tx.data.length then 1 else 0 := by
  rw [noteFault, current, Option.any_some]
  simp only [decide_eq_true_eq]

/-- An overrun is a receive error. -/
theorem overrun_faulty (current : g.tx = some tx) (epoch : RxEpoch) (flags : UInt16) :
    g.Faulty tx
      { g with
        stats := { g.stats with rxOverrun := g.stats.rxOverrun + 1 }
        rxEpoch := epoch
        pendingStatus := flags }.noteFault.rxDiscard where
  current := current
  txEchoOk := rfl
  uartTxUnresolved := rfl
  world := rfl
  wire := rfl
  clock := rfl
  txEndUs := rfl
  errors := Nat.add_right_comm _ _ _
  faults := noteFault_faults current

theorem frameErr_faulty (current : g.tx = some tx) :
    g.Faulty tx
      { g with
        stats := { g.stats with rxFrameErr := g.stats.rxFrameErr + 1 } }.noteFault where
  current := current
  txEchoOk := rfl
  uartTxUnresolved := rfl
  world := rfl
  wire := rfl
  clock := rfl
  txEndUs := rfl
  errors := rfl
  faults := noteFault_faults current

/-- Every event of the driver is an error or lets bytes be read. -/
theorem uartEvent_advances (event : UartEvent) (echoing : start.Echoing g tx) :
    start.Advances g tx (g.uartEvent event) := by
  cases event with
  | data size =>
      unfold uartEvent
      simp only [echoing.current]
      have announced :
          tx.announced + min size (tx.data.length - tx.announced) ≤ tx.data.length := by
        have bound := echoing.announced_le
        omega
      refine (echoing.announce _ announced).trans fun after echoing' onward => ?_
      refine txReadEcho_advances _ echoing' ?_
      rw [onward.sent]
      exact Nat.min_le_right _ _
  | fifoOvf => exact rxFault_advances echoing (overrun_faulty echoing.current _ _)
  | bufferFull => exact rxFault_advances echoing (overrun_faulty echoing.current _ _)
  | lineBreak =>
      exact ⟨tx, ⟨echoing.current, echoing.echoed_le, echoing.sent_le, echoing.announced_le,
        echoing.txEchoOk, echoing.uartTxUnresolved, echoing.world, echoing.wire, echoing.errors,
        echoing.faults, echoing.clean, echoing.sound, echoing.held, echoing.failure⟩,
        rfl, rfl, Nat.le_refl _, id, Int.le_refl _, rfl, fun _ => Or.inl⟩
  | frameErr => exact rxFault_advances echoing (frameErr_faulty echoing.current)
  | parityErr => exact rxFault_advances echoing (frameErr_faulty echoing.current)
  | other => exact ⟨tx, echoing, Onward.refl g tx⟩

/-- So are any events, one after another. -/
theorem foldl_uartEvent_advances (events : List UartEvent) (echoing : start.Echoing g tx) :
    start.Advances g tx (events.foldl uartEvent g) := by
  induction events generalizing g tx with
  | nil => exact ⟨tx, echoing, Onward.refl g tx⟩
  | cons event events ih =>
      exact (uartEvent_advances event echoing).trans fun after echoing' _ => ih echoing'

theorem uartEvents_advances (echoing : start.Echoing g tx) :
    start.Advances g tx g.uartEvents :=
  (observe_advances echoing).trans fun _ echoing' _ =>
    foldl_uartEvent_advances g.observe.1.events echoing'

/-! ## Collecting -/

/-- What `tx_collect_echo` comes back with. -/
structure Collected (start g : Task) (tx : Tx) (wait : Nat) (rc : Int) (later : Task) (after : Tx) :
    Prop where
  echoing : start.Echoing later after
  onward : g.Onward tx later after
  rc_eq : rc = if after.failed then errEcho else 0
  /-- When it comes back without having read all that was sent, there is nothing to read. -/
  dry : after.failed = false → after.echoed < after.sent → later.Dry
  /-- A wait takes time, or reads on. -/
  progress : wait ≠ 0 → tx.echoed < tx.sent →
    after.failed = true ∨ tx.echoed < after.echoed ∨ g.clock < later.clock

/-- The echo is collected, a wait at a time. -/
theorem txCollectEcho_collected (echoing : start.Echoing g tx) (wait : Nat) :
    ∃ after, start.Collected g tx wait (g.txCollectEcho wait).1 (g.txCollectEcho wait).2 after := by
  obtain ⟨seen, echoing', onward⟩ := uartEvents_advances echoing
  unfold txCollectEcho
  simp only [echoing'.current, Option.any_some]
  by_cases waits : seen.failed = false ∧ seen.echoed < seen.sent
  · obtain ⟨live, outstanding⟩ := waits
    simp only [live, outstanding, Bool.not_false, Bool.true_and, decide_true, if_true]
    have filled := uartFill_filled g.uartEvents wait
    obtain ⟨mid, between, onward'⟩ := uartEvents_advances (echoing'.looked filled.looked)
    have bound := between.echoed_le
    obtain ⟨after, done, onward'', outcome, reading⟩ :=
      readEcho_advances (mid.sent - mid.echoed) between (by omega)
    simp only [between.current, Option.map_some, Option.getD_some, txReadEcho, done.current,
      Option.any_some]
    have fill : g.uartEvents.Onward seen (g.uartEvents.uartFill wait).2 seen := by
      refine ⟨rfl, rfl, Nat.le_refl _, id, filled.looked.clock, filled.looked.txEndUs,
        fun _ some => Or.inl ?_⟩
      rwa [uartFill_of_pending some]
    have early := onward.trans fill
    refine ⟨after, done, (early.trans onward').trans onward'', rfl, fun live more => ?_,
      fun time unread => ?_⟩
    · rcases outcome with failed | all | dry
      · rw [live] at failed
        cases failed
      · have sent := onward''.sent
        omega
      · exact dry
    · have read := onward.echoed
      have further := onward'.echoed
      have last := onward''.echoed
      by_cases none : (g.uartEvents.uartFill wait).2.uartPending = []
      · have passed := (filled.empty none).2 time
        have before := onward.clock
        have behind := Int.le_trans onward'.clock onward''.clock
        omega
      · rcases onward'.uartPending outstanding none with kept | more | failed
        · by_cases left : mid.echoed < mid.sent
          · rcases reading kept (by omega) with more | failed
            · omega
            · exact Or.inl failed
          · have sent := onward'.sent
            omega
        · omega
        · exact Or.inl (onward''.failed failed)
  · have skip : (!seen.failed && decide (seen.echoed < seen.sent)) = false := by
      rw [Bool.and_eq_false_iff, Bool.not_eq_false', decide_eq_false_iff_not]
      by_cases failed : seen.failed = true
      · exact Or.inl failed
      · exact Or.inr fun outstanding => waits ⟨Bool.eq_false_iff.mpr failed, outstanding⟩
    simp only [skip, Bool.false_eq_true, if_false, echoing'.current, Option.any_some]
    refine ⟨seen, echoing', onward, rfl, fun live outstanding => absurd ⟨live, outstanding⟩ waits,
      fun _ outstanding => ?_⟩
    rcases Bool.eq_false_or_eq_true seen.failed with failed | live
    · exact Or.inl failed
    · have more := mt (And.intro live) waits
      have sent := onward.sent
      omega

/-- An echo that fails is told so, and has failed the transmission. -/
theorem Collected.fails {wait : Nat} {rc : Int} {after : Tx}
    (collected : start.Collected g tx wait rc later after) (bad : rc ≠ 0) :
    rc = errEcho ∧ after.failed = true := by
  have same := collected.rc_eq
  rcases Bool.eq_false_or_eq_true after.failed with failed | live
  · rw [failed, if_pos rfl] at same
    exact ⟨same, failed⟩
  · rw [live, if_neg Bool.false_ne_true] at same
    exact absurd same bad

/-- An echo that is told to be good has not. -/
theorem Collected.live {wait : Nat} {rc : Int} {after : Tx}
    (collected : start.Collected g tx wait rc later after) (good : rc = 0) :
    after.failed = false := by
  have same := collected.rc_eq
  rcases Bool.eq_false_or_eq_true after.failed with failed | live
  · rw [failed, if_pos rfl, good] at same
    cases same
  · exact live

/-! ## Sending -/

/-- `uart_write_bytes` and `uart_wait_tx_done` succeed. -/
def Writes (g : Task) : Prop :=
  ∀ moment ∈ g.world, moment.refuses = false ∧ moment.stuck = false

instance (g : Task) : Decidable g.Writes :=
  inferInstanceAs (Decidable (∀ moment ∈ g.world, moment.refuses = false ∧ moment.stuck = false))

/-- Where every write succeeds, the next one does. -/
theorem Writes.observe (writes : start.Writes) (echoing : start.Echoing g tx) :
    g.observe.1.refuses = false ∧ g.observe.1.stuck = false := by
  unfold Task.observe
  cases next : g.world with
  | nil => exact ⟨rfl, rfl⟩
  | cons moment world =>
      exact writes moment (echoing.world.subset (by rw [next]; exact List.mem_cons_self ..))

/-- To wait for a time is to look at the clock. -/
theorem delayUntil_looked (g : Task) (time : Int) : g.Looked (g.delayUntil time) :=
  (observe_looked g).trans
    (arrive_looked g.observe.2 (Int.le_max_left _ _) (List.suffix_refl g.observe.2.world))

/-- A byte has left the UART. -/
theorem Echoing.wrote (echoing : start.Echoing g tx) (more : tx.sent < tx.data.length) (now : Int) :
    start.Echoing
      { g with
        txEndUs := now
        lastBusUs := now
        tx := g.tx.map fun tx => { tx with sent := tx.sent + 1 }
        stats := { g.stats with txBytes := g.stats.txBytes + 1 } }
      { tx with sent := tx.sent + 1 } :=
  ⟨by rw [echoing.current]; rfl, Nat.le_succ_of_le echoing.echoed_le, more, echoing.announced_le,
    echoing.txEchoOk, echoing.uartTxUnresolved, echoing.world, echoing.wire, echoing.errors,
    echoing.faults, echoing.clean, echoing.sound, echoing.held, echoing.failure⟩

/-- The bytes are all sent, unless the transmission fails before. -/
theorem sendBytes_echoing (writes : start.Writes) (rest : List UInt8) (g : Task) (tx : Tx)
    (echoing : start.Echoing g tx) (left : tx.sent + rest.length = tx.data.length) :
    ∃ rc after, (g.sendBytes rest).1 = some rc ∧ start.Echoing (g.sendBytes rest).2 after ∧
      after.data = tx.data ∧
      ((rc = 0 ∧ after.sent = after.data.length) ∨ (rc = errEcho ∧ after.failed = true)) := by
  induction rest generalizing g tx with
  | nil => exact ⟨0, tx, rfl, echoing, rfl, Or.inl ⟨rfl, left⟩⟩
  | cons byte rest ih =>
      obtain ⟨after, collected⟩ := txCollectEcho_collected echoing 0
      unfold sendBytes
      generalize g.txCollectEcho 0 = answer at collected
      obtain ⟨rc, later⟩ := answer
      simp only at collected ⊢
      by_cases bad : rc ≠ 0
      · rw [if_pos bad]
        exact ⟨rc, after, rfl, collected.echoing, collected.onward.data,
          Or.inr (collected.fails bad)⟩
      · rw [if_neg bad]
        have ready := collected.echoing
        have accepted := (writes.observe ready).1
        have written := ready.looked (observe_looked later)
        have left' := (writes.observe written).2
        have waited := written.looked (observe_looked later.observe.2)
        have seen := waited.looked (observe_looked later.observe.2.observe.2)
        simp only [accepted, left', Bool.false_eq_true, if_false, nowUs]
        have sent := collected.onward.sent
        have data := collected.onward.data
        rw [List.length_cons] at left
        have wrote := seen.wrote (by rw [sent, data]; omega)
          later.observe.2.observe.2.observe.2.clock
        have length : after.sent + 1 + rest.length = after.data.length := by
          rw [sent, data]
          omega
        have goOn : ∀ next, Task.Echoing start next { after with sent := after.sent + 1 } →
            ∃ rc last, (next.sendBytes rest).1 = some rc ∧
              start.Echoing (next.sendBytes rest).2 last ∧ last.data = tx.data ∧
              ((rc = 0 ∧ last.sent = last.data.length) ∨ (rc = errEcho ∧ last.failed = true)) := by
          intro next echoing
          obtain ⟨rc, last, answer, done, same, outcome⟩ := ih next _ echoing length
          exact ⟨rc, last, answer, done, same.trans data, outcome⟩
        by_cases final : rest.isEmpty
        · rw [if_pos final]
          exact goOn _ wrote
        · rw [if_neg final]
          exact goOn _ (wrote.looked (delayUntil_looked _ _))

/-! ## Finishing -/

/-- No two looks are further apart. -/
def Within (g : Task) (margin : Nat) : Prop :=
  1 ≤ margin ∧ ∀ moment ∈ g.world, moment.elapsed ≤ margin

instance (g : Task) (margin : Nat) : Decidable (g.Within margin) :=
  inferInstanceAs (Decidable (1 ≤ margin ∧ ∀ moment ∈ g.world, moment.elapsed ≤ margin))

/-- A look takes no longer than the margin. -/
theorem Within.observe {margin : Nat} (within : start.Within margin)
    (echoing : start.Echoing g tx) : g.observe.2.clock ≤ g.clock + margin := by
  obtain ⟨one, apart⟩ := within
  unfold Task.observe
  cases next : g.world with
  | nil =>
      simp only [arrive]
      omega
  | cons moment world =>
      have bound := apart moment (echoing.world.subset (by rw [next]; exact List.mem_cons_self ..))
      simp only [arrive]
      omega

/-- The byte of the echo that the transmission awaits reaches the ring too late for the deadline, or
so shortly before that the task does not look at the ring in between. -/
def Overdue (start : Task) (deadline : Int) (tx : Tx) : Prop :=
  tx.echoed < tx.data.length ∧
    ∀ margin, start.Within margin → ∀ byte, start.wire[tx.echoed]? = some byte →
      deadline < byte.1 + margin

/-- Where the task has nothing to read, the byte awaited is not due. -/
theorem Echoing.awaited (echoing : start.Echoing g tx) (live : tx.failed = false)
    (outstanding : tx.echoed < tx.data.length) (dry : g.Dry)
    (fresh : start.stream = start.wire.map (·.2)) {byte : Int × UInt8}
    (next : start.wire[tx.echoed]? = some byte) : g.clock < byte.1 := by
  have held := (echoing.held live ((echoing.clean live).2 outstanding)).1
  rw [fresh, stream, dry.uartPending, dry.ring, List.nil_append, List.nil_append] at held
  have length := congrArg List.length held
  rw [List.length_append, List.length_take, Nat.min_eq_left (Nat.le_of_lt outstanding),
    List.length_map, List.length_map] at length
  have left : g.wire = start.wire.drop tx.echoed := by
    have same := List.suffix_iff_eq_drop.mp echoing.wire
    rwa [show start.wire.length - g.wire.length = tx.echoed by omega] at same
  apply dry.wire byte
  rw [left, List.head?_drop, next]
  rfl

/-- The loop ends: the echo is read, the transmission has failed, or the deadline has passed. -/
theorem finishLoop_echoing (fresh : start.stream = start.wire.map (·.2)) (deadline : Int)
    (rounds : Nat) (g : Task) (tx : Tx) (echoing : start.Echoing g tx)
    (sent : tx.sent = tx.data.length)
    (enough : (tx.sent - tx.echoed) + (deadline - g.clock).toNat < rounds) :
    ∃ rc later after, g.finishLoop deadline rounds = some (rc, later) ∧
      start.Echoing later after ∧ after.data = tx.data ∧ later.txEndUs = g.txEndUs ∧
      ((rc = 0 ∧ after.failed = false ∧ after.echoed = after.data.length) ∨
        (rc = errEcho ∧ (after.failed = true ∨ start.Overdue deadline after))) := by
  induction rounds generalizing g tx with
  | zero => exact absurd enough (Nat.not_lt_zero _)
  | succ rounds ih =>
      obtain ⟨after, collected⟩ := txCollectEcho_collected echoing 0
      unfold finishLoop
      generalize g.txCollectEcho 0 = answer at collected
      obtain ⟨rc, later⟩ := answer
      simp only at collected
      have onward := collected.onward
      have ready := collected.echoing
      simp only [ready.current, Option.any_some, decide_eq_true_eq]
      by_cases done : rc ≠ 0 ∨ after.echoed = after.sent
      · rw [if_pos done]
        refine ⟨rc, later, after, rfl, ready, onward.data, onward.txEndUs, ?_⟩
        by_cases bad : rc ≠ 0
        · exact Or.inr ((collected.fails bad).imp_right Or.inl)
        · have good := Decidable.not_not.mp bad
          refine Or.inl ⟨good, collected.live good, ?_⟩
          rw [onward.data, ← sent, ← onward.sent]
          exact done.resolve_left bad
      · rw [if_neg done]
        obtain ⟨good, unread⟩ := not_or.mp done
        have live := collected.live (Decidable.not_not.mp good)
        have outstanding : after.echoed < after.sent := Nat.lt_of_le_of_ne ready.echoed_le unread
        have looked := observe_looked later
        have seen := ready.looked looked
        rw [show later.nowUs = (later.observe.2.clock, later.observe.2) from rfl]
        by_cases late : deadline - later.observe.2.clock ≤ 0
        · rw [if_pos late]
          refine ⟨errEcho, _, after, rfl, ?_, onward.data, ?_, Or.inr ⟨rfl, Or.inr ⟨?_, ?_⟩⟩⟩
          · exact ⟨seen.current, seen.echoed_le, seen.sent_le, seen.announced_le, seen.txEchoOk,
              seen.uartTxUnresolved, seen.world, seen.wire, seen.errors, seen.faults, seen.clean,
              seen.sound, seen.held, seen.failure⟩
          · exact looked.txEndUs.trans onward.txEndUs
          · exact Nat.lt_of_lt_of_le outstanding ready.sent_le
          · intro margin within byte next
            have due := ready.awaited live (Nat.lt_of_lt_of_le outstanding ready.sent_le)
              (collected.dry live outstanding) fresh next
            have soon := within.observe ready
            omega
        · rw [if_neg late]
          obtain ⟨next, again⟩ :=
            txCollectEcho_collected seen (ticksUs (deadline - later.observe.2.clock))
          generalize later.observe.2.txCollectEcho _ = answer at again
          obtain ⟨rc, last⟩ := answer
          simp only at again ⊢
          have further := again.onward
          have same : next.data = tx.data := further.data.trans onward.data
          have boundary : last.txEndUs = g.txEndUs :=
            (further.txEndUs.trans looked.txEndUs).trans onward.txEndUs
          by_cases bad : rc ≠ 0
          · rw [if_pos bad]
            exact ⟨rc, last, next, rfl, again.echoing, same, boundary,
              Or.inr ((again.fails bad).imp_right Or.inl)⟩
          · rw [if_neg bad]
            have live := again.live (Decidable.not_not.mp bad)
            have total : next.sent = tx.sent := further.sent.trans onward.sent
            have fewer : (next.sent - next.echoed) + (deadline - last.clock).toNat < rounds := by
              have waits : ticksUs (deadline - later.observe.2.clock) ≠ 0 := by
                unfold ticksUs
                omega
              have read := onward.echoed
              have more := further.echoed
              have bound := again.echoing.echoed_le
              have passed := further.clock
              have before := Int.le_trans onward.clock looked.clock
              rcases again.progress waits outstanding with failed | reads | time
              · rw [live] at failed
                cases failed
              · omega
              · omega
            obtain ⟨rc, final, tx', answer, done, data, ended, outcome⟩ :=
              ih last next again.echoing (by rw [same, total]; exact sent) fewer
            exact ⟨rc, final, tx', answer, done, data.trans same, ended.trans boundary, outcome⟩

/-! ## The outcome -/

/-- At the transmit boundary nothing is received that the transmission has to account for. -/
theorem txBegin_echoing (g : Task) (buf : List UInt8) (clearRxQueue : Bool) :
    let start := g.txBegin buf clearRxQueue
    start.Echoing start { data := buf } ∧ start.stream = start.wire.map (·.2) :=
  ⟨⟨rfl, Nat.le_refl _, Nat.zero_le _, Nat.zero_le _, rfl, rfl, List.suffix_refl _,
    List.suffix_refl _, Nat.le_refl _, Nat.le_refl _, fun _ => ⟨rfl, fun _ => rfl⟩,
    fun _ => List.nil_prefix, fun _ _ => ⟨rfl, rfl, rfl⟩, fun wrong => nomatch wrong⟩, rfl⟩

/-- How a transmission ends whose writes succeed: its echo is read, or it has failed, or the
deadline has passed. -/
inductive Ended (start : Task) (rc : Int) (later : Task) (tx : Tx) : Prop where
  | ok (good : rc = 0) (live : tx.failed = false) (read : tx.echoed = tx.data.length)
  | failed (bad : rc = errEcho) (failed : tx.failed = true)
  | late (bad : rc = errEcho) (overdue : start.Overdue (later.txEndUs + uartTimeoutUs) tx)

/-- The state after `tx_once`, from the one in which its echo is settled. -/
def settle (g : Task) (rc : Int) : Task :=
  let g := { g with tx := none }
  let g := if rc ≠ 0 then g.rxDiscard else g
  { g with p2Pending := rc == 0, txAnswered := false }

/-- A transmission ends: all its echo has been read, it has failed, or its time is over. -/
theorem txOnce_ended (g : Task) (buf : List UInt8) (clearRxQueue : Bool)
    (writes : (g.txBegin buf clearRxQueue).Writes) :
    let start := g.txBegin buf clearRxQueue
    ∃ rc later tx, g.txOnce buf clearRxQueue = some (rc, later.settle rc) ∧
      start.Echoing later tx ∧ tx.data = buf ∧ start.Ended rc later tx := by
  intro start
  obtain ⟨begun, fresh⟩ := txBegin_echoing g buf clearRxQueue
  obtain ⟨rc, tx, answer, echoing, data, outcome⟩ :=
    sendBytes_echoing writes buf start _ begun (Nat.zero_add _)
  unfold txOnce
  rw [show g.txBegin buf clearRxQueue = start from rfl]
  generalize start.sendBytes buf = sent at answer echoing
  obtain ⟨_, later⟩ := sent
  simp only at answer echoing
  subst answer
  rcases outcome with ⟨rfl, all⟩ | ⟨rfl, failed⟩
  · obtain ⟨rc, last, after, done, echoing', same, ended, outcome⟩ :=
      finishLoop_echoing fresh (later.txEndUs + uartTimeoutUs)
        ((later.tx.map fun tx => tx.sent - tx.echoed).getD 0 +
          (later.txEndUs + uartTimeoutUs - later.clock).toNat + 1) later tx echoing all
        (by rw [echoing.current, Option.map_some, Option.getD_some]; omega)
    refine ⟨rc, last, after, ?_, echoing', same.trans data, ?_⟩
    · simp only [if_true, txFinishEcho, done]
      rfl
    · rcases outcome with ⟨good, live, read⟩ | ⟨bad, failed | overdue⟩
      · exact .ok good live read
      · exact .failed bad failed
      · exact .late bad (by rw [ended]; exact overdue)
  · exact ⟨errEcho, later, tx, rfl, echoing, data, .failed rfl failed⟩

/-- After a failure nothing is left of what was received. -/
theorem settle_bad (later : Task) :
    (later.settle errEcho).uartPending = [] ∧ (later.settle errEcho).ring = [] ∧
      (later.settle errEcho).asmBuf = [] :=
  ⟨rfl, rfl, rfl⟩

/-- To settle counts nothing. -/
theorem settle_kept (later : Task) (rc : Int) :
    (later.settle rc).errors = later.errors ∧ (later.settle rc).faults = later.faults ∧
      (later.settle rc).txEndUs = later.txEndUs ∧ (later.settle rc).stats = later.stats ∧
      (later.settle rc).uartTxUnresolved = later.uartTxUnresolved := by
  unfold settle
  by_cases bad : rc ≠ 0
  · simp only [if_pos bad]
    exact ⟨rfl, rfl, rfl, rfl, rfl⟩
  · simp only [if_neg bad]
    exact ⟨rfl, trivial, trivial, trivial, trivial⟩

/-- An echo that is the message and comes in time is read, unless a receive error is taken. -/
theorem Ended.reads {rc : Int} (ended : start.Ended rc later tx) (echoing : start.Echoing later tx)
    (fresh : start.stream = start.wire.map (·.2)) (whole : tx.data <+: start.stream) {margin : Nat}
    (within : start.Within margin)
    (inTime : ∀ byte ∈ start.wire.take tx.data.length,
      byte.1 + margin ≤ later.txEndUs + uartTimeoutUs)
    (clean : later.faults = start.faults) :
    rc = 0 ∧ tx.failed = false ∧ tx.echoed = tx.data.length := by
  cases ended with
  | ok good live read => exact ⟨good, live, read⟩
  | failed bad failed =>
      rcases echoing.failure failed with fault | differs
      · omega
      · exact absurd whole differs
  | late bad overdue =>
      obtain ⟨outstanding, tooLate⟩ := overdue
      have bound : tx.echoed < start.wire.length := by
        have longer := whole.length_le
        rw [fresh, List.length_map] at longer
        omega
      have next := List.getElem?_eq_getElem bound
      have soon := inTime start.wire[tx.echoed] (by
        rw [List.mem_take_iff_getElem]
        exact ⟨tx.echoed, by omega, rfl⟩)
      have after := tooLate margin within _ next
      omega

end Task

/-- The accounting of the echo, for writes that succeed. When what is received from the transmit
boundary on is the message and a response, each byte of the echo reaches the ring before the
deadline by more than the time between two looks, and no receive error is taken while a part of the
echo is outstanding, `tx_once` succeeds and has consumed as many bytes as it sent; the response is
then all there, unless a receive error was taken at all. When the echo differs, or a receive error
is taken while a part of it is outstanding, `tx_once` reports the echo and leaves nothing that was
received. -/
theorem txOnce_accounts_for_echo (g : Task) (buf : List UInt8) (clearRxQueue : Bool)
    (writes : (g.txBegin buf clearRxQueue).Writes) :
    let start := g.txBegin buf clearRxQueue
    ∃ rc after, g.txOnce buf clearRxQueue = some (rc, after) ∧
      (∀ response margin, start.stream = buf ++ response → start.Within margin →
        (∀ byte ∈ start.wire.take buf.length, byte.1 + margin ≤ after.txEndUs + uartTimeoutUs) →
        after.faults = start.faults →
        rc = 0 ∧ after.stats.txEchoOk = start.stats.txEchoOk + buf.length ∧
          (after.errors = start.errors →
            after.stream = response ∧ after.asmBuf = [] ∧ after.rxInvalid = false ∧
              after.uartTxUnresolved = start.uartTxUnresolved)) ∧
      (¬buf <+: start.stream ∨ start.faults < after.faults →
        rc = errEcho ∧ after.uartPending = [] ∧ after.ring = [] ∧ after.asmBuf = []) := by
  intro start
  obtain ⟨rc, later, tx, answer, echoing, rfl, ended⟩ := g.txOnce_ended buf clearRxQueue writes
  obtain ⟨errors, faults, txEndUs, stats, resolved⟩ := later.settle_kept rc
  refine ⟨rc, later.settle rc, answer, fun response margin received within inTime clean => ?_,
    fun broken => ?_⟩
  · rw [txEndUs] at inTime
    rw [faults] at clean
    obtain ⟨rfl, live, read⟩ := ended.reads echoing (g.txBegin_echoing _ clearRxQueue).2
      ⟨response, received.symm⟩ within inTime clean
    refine ⟨rfl, ?_, fun quiet => ?_⟩
    · rw [stats, ← read]
      exact echoing.txEchoOk
    · rw [errors] at quiet
      obtain ⟨held, asmBuf, valid⟩ := echoing.held live quiet
      rw [read, List.take_length, show (g.txBegin _ clearRxQueue).stream = _ from received,
        List.append_cancel_left_eq] at held
      exact ⟨held, asmBuf, valid, resolved.trans echoing.uartTxUnresolved⟩
  · rw [faults] at broken
    have bad : rc = errEcho := by
      cases ended with
      | ok good live read =>
          have sound := echoing.sound live
          rw [read, List.take_length] at sound
          have clean := (echoing.clean live).1
          rcases broken with differs | fault
          · exact absurd sound differs
          · exact absurd (clean ▸ fault) (Nat.lt_irrefl _)
      | failed bad failed => exact bad
      | late bad overdue => exact bad
    rw [bad]
    exact ⟨rfl, later.settle_bad⟩

/-- Three bytes whose echo comes in three batches, the last together with the first of two bytes of
an answer. -/
def answeredApart : Task :=
  { wire := [(1000, 0x68), (6500, 0x6a), (11500, 0xf1), (11500, 0x48), (40000, 0x6b)]
    world := List.replicate 8 {} ++ [{ events := [.data 1] }] }

theorem txOnce_accounts_for_answered :
    ∃ after, answeredApart.txOnce [0x68, 0x6a, 0xf1] false = some (0, after) ∧
      after.stream = [0x48, 0x6b] := by
  obtain ⟨rc, after, answer, reply, _⟩ :=
    txOnce_accounts_for_echo answeredApart [0x68, 0x6a, 0xf1] false (by decide)
  have seen : (answeredApart.txOnce [0x68, 0x6a, 0xf1] false).all (fun answer =>
      answer.2.txEndUs = 10019 ∧ answer.2.faults = 0 ∧ answer.2.errors = 0) = true := by
    decide +kernel
  rw [answer, Option.all_some, decide_eq_true_iff] at seen
  obtain ⟨txEndUs, faults, errors⟩ := seen
  obtain ⟨rfl, _, held⟩ := reply [0x48, 0x6b] 1 (by decide) (by decide)
    (by rw [txEndUs]; decide) faults
  exact ⟨after, answer, (held errors).1⟩

/-- A byte whose echo and answer come in one batch, with the events of the look that finds them. -/
def answered (events : List UartEvent) : Task :=
  { wire := [(6, 0x10), (6, 0x50)], world := [{}, {}, {}, {}, {}, { events }] }

/-- A byte whose echo comes a microsecond before the deadline, between two looks. -/
def overslept : Task :=
  { wire := [(100004, 0x10)],
    world := [{}, {}, {}, {}, {}, {}, {}, {}, {}, { elapsed := 100000 }] }

/-- An overflow that is taken with the whole echo consumed, in the same round of events, drops the
response; and an echo that comes before the deadline is not read when the task looks at the clock
only after it. -/
theorem txOnce_drops_reply_or_misses_echo :
    let g := answered [.data 2, .fifoOvf]
    ((g.txBegin [0x10] false).Writes ∧ (g.txBegin [0x10] false).stream = [0x10] ++ [0x50] ∧
        (g.txOnce [0x10] false).any fun (rc, after) =>
          rc = 0 ∧ after.faults = g.faults ∧ after.stream = []) ∧
      (overslept.txBegin [0x10] false).Writes ∧
      (overslept.txBegin [0x10] false).stream = [0x10] ++ [] ∧
        (overslept.txOnce [0x10] false).any fun (rc, after) =>
          rc = errEcho ∧ after.errors = overslept.errors ∧
            (100004 : Int) < after.txEndUs + uartTimeoutUs := by
  decide +kernel

end OpenDiag.Kline
