import OpenDiag.Kline.Task

/-!
# Messages back to back

In the ISO 14230 frame mode the format byte, or a separate length byte, says where a message ends.
A well-formed message is whole at its last byte and at no earlier one, so that draining the UART
delivers the messages of a stream one by one, whatever the batches are.
-/

namespace OpenDiag.Kline

/-! ## Well-formed messages -/

/-- The messages of ISO 14230, the exception mode apart: a format byte, two address bytes unless it
says that there are none, the length in the format byte or in a byte of its own, the data and the
checksum. -/
inductive WellFormed : List UInt8 → Prop where
  | short (fmt : UInt8) (address data : List UInt8) (plain : isCarbFmt fmt = false)
      (addressed : address.length + 1 = headerLen fmt) (some : data ≠ [])
      (counted : (fmt &&& 0x3f).toNat = data.length) :
      WellFormed (fmt :: address ++ data ++ [checksum (fmt :: address ++ data)])
  | long (fmt length : UInt8) (address data : List UInt8) (plain : isCarbFmt fmt = false)
      (addressed : address.length + 1 = headerLen fmt) (some : data ≠ [])
      (separate : (fmt &&& 0x3f).toNat = 0) (counted : length.toNat = data.length) :
      WellFormed
        (fmt :: address ++ length :: data ++ [checksum (fmt :: address ++ length :: data)])

/-- A header is one byte long at least, and three at most. -/
theorem headerLen_pos (fmt : UInt8) : 1 ≤ headerLen fmt ∧ headerLen fmt ≤ 3 := by
  rw [headerLen_eq]
  by_cases none : fmt &&& 0xc0 = 0
  · simp [none]
  · simp [none]

theorem msgLen_append_short {fmt : UInt8} (rest : List UInt8) (plain : isCarbFmt fmt = false)
    (counted : (fmt &&& 0x3f).toNat ≠ 0) :
    msgLen (fmt :: rest) = headerLen fmt + (fmt &&& 0x3f).toNat + 1 := by
  rw [msgLen_cons fmt rest plain, if_neg counted]

/-- The length byte is not in yet. -/
theorem msgLen_early {fmt : UInt8} {rest : List UInt8} (plain : isCarbFmt fmt = false)
    (separate : (fmt &&& 0x3f).toNat = 0) (early : rest.length < headerLen fmt) :
    msgLen (fmt :: rest) = 0 := by
  rw [msgLen_cons fmt rest plain, if_pos separate, if_pos (Or.inl early)]

theorem msgLen_long {fmt length : UInt8} {rest : List UInt8} (plain : isCarbFmt fmt = false)
    (separate : (fmt &&& 0x3f).toNat = 0) (there : rest[headerLen fmt - 1]? = some length)
    (counted : length.toNat ≠ 0) :
    msgLen (fmt :: rest) = headerLen fmt + length.toNat + 2 := by
  have positive := headerLen_pos fmt
  have value : (fmt :: rest).getD (headerLen fmt) 0 = length := by
    obtain ⟨header, same⟩ := Nat.exists_eq_add_of_le' positive.1
    rw [same, List.getD_cons_succ, List.getD_eq_getElem?_getD]
    rw [same, Nat.add_sub_cancel] at there
    rw [there, Option.getD_some]
  have bound : headerLen fmt - 1 < rest.length := by
    obtain ⟨bound, _⟩ := List.getElem?_eq_some_iff.mp there
    exact bound
  rw [msgLen_cons fmt rest plain, if_pos separate, value, if_neg (by omega)]

/-- A well-formed message is as long as the driver takes it for, once it can tell, and it can tell
before the end. -/
theorem WellFormed.msgLen_begun {message : List UInt8} (wellFormed : WellFormed message)
    {first : List UInt8} (begun : first <+: message) (some : first ≠ []) :
    (msgLen first = 0 ∧ first.length < message.length) ∨ msgLen first = message.length := by
  cases wellFormed with
  | short fmt address data plain addressed filled counted =>
      have positive := List.length_pos_iff.mpr filled
      rw [List.append_assoc, List.cons_append] at begun ⊢
      rcases List.prefix_cons_iff.mp begun with rfl | ⟨rest, rfl, _⟩
      · exact absurd rfl some
      · right
        rw [msgLen_append_short rest plain (by omega), List.length_cons, List.length_append,
          List.length_append, List.length_singleton]
        omega
  | long fmt length address data plain addressed filled separate counted =>
      have positive := List.length_pos_iff.mpr filled
      rw [List.append_assoc, List.cons_append] at begun ⊢
      rcases List.prefix_cons_iff.mp begun with rfl | ⟨rest, rfl, shorter⟩
      · exact absurd rfl some
      · by_cases early : rest.length < headerLen fmt
        · refine Or.inl ⟨msgLen_early plain separate early, ?_⟩
          simp only [List.length_cons, List.length_append, List.length_nil]
          omega
        · right
          have there : rest[headerLen fmt - 1]? = Option.some length := by
            obtain ⟨tail, whole⟩ := shorter
            have found := congrArg (·[address.length]?) whole
            simp only [List.getElem?_append_left (by omega : address.length < rest.length),
              List.getElem?_append_right (Nat.le_refl _), Nat.sub_self, List.cons_append,
              List.getElem?_cons_zero] at found
            rw [← addressed, Nat.add_sub_cancel]
            exact found
          rw [msgLen_long plain separate there (by omega)]
          simp only [List.length_cons, List.length_append, List.length_nil]
          omega

/-- A well-formed message is as long as its header says. -/
theorem WellFormed.msgLen_self {message : List UInt8} (wellFormed : WellFormed message) :
    msgLen message = message.length := by
  have some : message ≠ [] := by
    cases wellFormed <;> exact List.cons_ne_nil _ _
  rcases wellFormed.msgLen_begun (List.prefix_refl message) some with ⟨_, shorter⟩ | whole
  · exact absurd shorter (Nat.lt_irrefl _)
  · exact whole

/-- A body with its checksum is a frame. -/
theorem frameOk_append {body : List UInt8} (low : 2 ≤ body.length) (high : body.length ≤ 259) :
    frameOk (body ++ [checksum body]) = true := by
  rw [frameOk, if_neg (by rw [List.length_append, List.length_singleton, minMsg, maxMsg]; omega),
    List.getLast?_append_of_ne_nil _ (List.cons_ne_nil _ _), List.dropLast_concat,
    List.getLast?_singleton]
  exact beq_self_eq_true _

theorem WellFormed.length_pos {message : List UInt8} (wellFormed : WellFormed message) :
    0 < message.length := by
  cases wellFormed <;> exact Nat.succ_pos _

/-- Its length is within the driver's bounds and its checksum is right. -/
theorem WellFormed.frameOk {message : List UInt8} (wellFormed : WellFormed message) :
    frameOk message = true := by
  cases wellFormed with
  | short fmt address data plain addressed filled counted =>
      have positive := List.length_pos_iff.mpr filled
      have header := headerLen_pos fmt
      have counter : (fmt &&& 0x3f).toNat ≤ 0x3f := by
        rw [UInt8.toNat_and]
        exact Nat.and_le_right
      apply frameOk_append <;> simp only [List.length_cons, List.length_append] <;> omega
  | long fmt length address data plain addressed filled separate counted =>
      have positive := List.length_pos_iff.mpr filled
      have header := headerLen_pos fmt
      have counter := length.toNat_lt
      apply frameOk_append <;> simp only [List.length_cons, List.length_append] <;> omega

/-- A well-formed message fits the assembly buffer. -/
theorem WellFormed.length_le {message : List UInt8} (wellFormed : WellFormed message) :
    message.length ≤ maxMsg := by
  have ok := wellFormed.frameOk
  by_contra long
  rw [Kline.frameOk, if_pos (Or.inr (Nat.not_le.mp long))] at ok
  cases ok

/-! ## Receiving leaves the assembly alone -/

/-- The event is no receive error. -/
def UartEvent.calm : UartEvent → Bool
  | .data _ | .lineBreak | .other => true
  | .fifoOvf | .bufferFull | .frameErr | .parityErr => false

/-- No receive error is to come. -/
def Task.Calm (g : Task) : Prop :=
  ∀ moment ∈ g.world, ∀ event ∈ moment.events, event.calm = true

instance (g : Task) : Decidable g.Calm :=
  inferInstanceAs (Decidable (∀ moment ∈ g.world, ∀ event ∈ moment.events, event.calm = true))

/-- So many microseconds, and a look for each byte, empty the wire. -/
def wireAhead (clock : Int) : List (Int × UInt8) → Nat
  | [] => 0
  | (time, _) :: wire => (time - clock).toNat + 1 + wireAhead clock wire

theorem wireAhead_mono {clock later : Int} (order : clock ≤ later) (wire : List (Int × UInt8)) :
    wireAhead later wire ≤ wireAhead clock wire := by
  induction wire with
  | nil => exact Nat.le_refl _
  | cons byte wire ih =>
      unfold wireAhead
      omega

theorem wireAhead_dropWhile (clock : Int) (due : Int × UInt8 → Bool) (wire : List (Int × UInt8)) :
    wireAhead clock (wire.dropWhile due) ≤ wireAhead clock wire := by
  induction wire with
  | nil => exact Nat.le_refl _
  | cons byte wire ih =>
      rw [List.dropWhile_cons]
      split
      · exact Nat.le_trans ih (Nat.le_add_left _ _)
      · exact Nat.le_refl _

/-- So many looks meet the end of the world and of the wire. -/
def Task.ahead (g : Task) : Nat :=
  g.world.length + wireAhead g.clock g.wire

/-- The framing side of the state is as before, and no byte has come or gone. -/
structure Task.Kept (g later : Task) : Prop where
  cfg : later.cfg = g.cfg
  asmBuf : later.asmBuf = g.asmBuf
  rxInvalid : later.rxInvalid = g.rxInvalid
  tx : later.tx = g.tx
  uartTxUnresolved : later.uartTxUnresolved = g.uartTxUnresolved
  rxShort : later.stats.rxShort = g.stats.rxShort
  rxTooLong : later.stats.rxTooLong = g.stats.rxTooLong
  rxBadChecksum : later.stats.rxBadChecksum = g.stats.rxBadChecksum
  stream : later.stream = g.stream
  world : later.world <:+ g.world
  ahead : later.ahead ≤ g.ahead

namespace Task

variable {g later last : Task}

theorem Kept.refl (g : Task) : g.Kept g :=
  ⟨rfl, rfl, rfl, rfl, rfl, rfl, rfl, rfl, rfl, List.suffix_refl _, Nat.le_refl _⟩

/-- What is kept twice over is kept. -/
theorem Kept.trans (first : g.Kept later) (second : later.Kept last) : g.Kept last where
  cfg := second.cfg.trans first.cfg
  asmBuf := second.asmBuf.trans first.asmBuf
  rxInvalid := second.rxInvalid.trans first.rxInvalid
  tx := second.tx.trans first.tx
  uartTxUnresolved := second.uartTxUnresolved.trans first.uartTxUnresolved
  rxShort := second.rxShort.trans first.rxShort
  rxTooLong := second.rxTooLong.trans first.rxTooLong
  rxBadChecksum := second.rxBadChecksum.trans first.rxBadChecksum
  stream := second.stream.trans first.stream
  world := List.IsSuffix.trans second.world first.world
  ahead := Nat.le_trans second.ahead first.ahead

/-- Where nothing disturbs the line, nothing does later. -/
theorem Calm.kept (calm : g.Calm) (kept : g.Kept later) : later.Calm :=
  fun moment member => calm moment (kept.world.subset member)

/-- Time passes, and the bytes that are due leave the wire for the ring. -/
theorem arrive_kept (g : Task) {time : Int} (order : g.clock ≤ time) (world : List Moment)
    (shorter : world <:+ g.world) : g.Kept { g with world, clock := time }.arrive := by
  refine ⟨rfl, rfl, rfl, rfl, rfl, rfl, rfl, rfl, ?_, shorter, ?_⟩
  · simp only [stream, arrive, List.append_assoc, ← List.map_append,
      List.takeWhile_append_dropWhile]
  · exact Nat.add_le_add shorter.length_le
      (Nat.le_trans (wireAhead_dropWhile _ _ _) (wireAhead_mono order _))

/-- A look at the world leaves what was read as it is. -/
theorem observe_kept (g : Task) : g.Kept g.observe.2 := by
  unfold observe
  cases next : g.world with
  | nil =>
      have kept := arrive_kept g (by omega : g.clock ≤ g.clock + 1) g.world (List.suffix_refl _)
      rw [next] at kept
      exact kept
  | cons moment world =>
      exact arrive_kept g (by omega) world (by rw [next]; exact List.suffix_cons moment world)

/-- Every look brings the end nearer, until it is met. -/
theorem observe_ahead (g : Task) : (g.world = [] ∧ g.wire = []) ∨ g.observe.2.ahead < g.ahead := by
  unfold observe
  cases next : g.world with
  | nil =>
      cases bytes : g.wire with
      | nil => exact Or.inl ⟨rfl, rfl⟩
      | cons byte wire =>
          right
          simp only [ahead, arrive, next, bytes, List.dropWhile_cons, List.length_nil]
          split
          · have fewer := Nat.le_trans
              (wireAhead_dropWhile (g.clock + 1) (fun byte => decide (byte.1 ≤ g.clock + 1)) wire)
              (wireAhead_mono (by omega : g.clock ≤ g.clock + 1) wire)
            rw [wireAhead.eq_2]
            omega
          · rename_i late
            have fewer := wireAhead_mono (by omega : g.clock ≤ g.clock + 1) wire
            simp only [decide_eq_true_eq] at late
            unfold wireAhead
            omega
  | cons moment world =>
      right
      have fewer := Nat.le_trans
        (wireAhead_dropWhile (g.clock + moment.elapsed)
          (fun byte => decide (byte.1 ≤ g.clock + moment.elapsed)) g.wire)
        (wireAhead_mono (by omega : g.clock ≤ g.clock + moment.elapsed) g.wire)
      simp only [ahead, arrive, next, List.length_cons]
      omega

theorem observe_uartPending (g : Task) : g.observe.2.uartPending = g.uartPending := by
  unfold observe
  cases g.world <;> rfl

/-- The bytes read leave the ring for the cursor; there are none only if the ring is empty. -/
theorem readBytes_kept (g : Task) (empty : g.uartPending = []) :
    g.Kept { (g.readBytes 64).2 with uartPending := (g.readBytes 64).1 } ∧
      ((g.readBytes 64).1 = [] → (g.readBytes 64).2.ring = []) := by
  have looked := observe_kept g
  constructor
  · refine ⟨looked.cfg, looked.asmBuf, looked.rxInvalid, looked.tx, looked.uartTxUnresolved,
      looked.rxShort, looked.rxTooLong, looked.rxBadChecksum, ?_, looked.world, looked.ahead⟩
    rw [← looked.stream]
    simp only [stream, readBytes, List.take_append_drop, observe_uartPending, empty,
      List.nil_append]
  · intro none
    simp only [readBytes, List.take_eq_nil_iff] at none ⊢
    rcases none with count | ring
    · omega
    · rw [ring, List.drop_nil]

theorem uartFill_kept (g : Task) : g.Kept (g.uartFill 0).2 := by
  unfold uartFill
  cases pending : g.uartPending with
  | cons byte rest => exact Kept.refl g
  | nil =>
      have read := (readBytes_kept g pending).1
      have cursor : (g.readBytes 64).2.uartPending = [] := by
        rw [readBytes, observe_uartPending, pending]
      simp only [List.isEmpty_nil, Bool.not_true, Bool.false_eq_true, if_false, bne_self_eq_false,
        Bool.and_false]
      by_cases none : (g.readBytes 64).1 = []
      · rw [if_pos (List.isEmpty_iff.mpr none)]
        rw [none] at read
        have same : { (g.readBytes 64).2 with uartPending := [] } = (g.readBytes 64).2 := by
          rw [← cursor]
        rwa [same] at read
      · rw [if_neg (fun empty => none (List.isEmpty_iff.mp empty))]
        have looked := observe_kept { (g.readBytes 64).2 with uartPending := (g.readBytes 64).1 }
        refine Kept.trans read (Kept.trans looked ?_)
        unfold nowUs observe
        cases (g.readBytes 64).2.world <;>
          exact ⟨rfl, rfl, rfl, rfl, rfl, rfl, rfl, rfl, rfl, List.suffix_refl _, Nat.le_refl _⟩

/-- The cursor is empty after a fill only if the ring was. -/
theorem uartFill_empty (g : Task) (empty : (g.uartFill 0).2.uartPending = []) :
    (g.uartFill 0).2.ring = [] := by
  unfold uartFill at empty ⊢
  cases pending : g.uartPending with
  | cons byte rest =>
      simp only [pending, List.isEmpty_cons, Bool.not_false, if_true, reduceCtorEq] at empty
  | nil =>
      have read := (readBytes_kept g pending).2
      simp only [pending, List.isEmpty_nil, Bool.not_true, Bool.false_eq_true, if_false,
        bne_self_eq_false, Bool.and_false] at empty ⊢
      by_cases none : (g.readBytes 64).1 = []
      · rw [if_pos (List.isEmpty_iff.mpr none)]
        exact read none
      · rw [if_neg (fun empty => none (List.isEmpty_iff.mp empty))] at empty
        exact absurd empty none

/-- An event that disturbs nothing leaves it too. -/
theorem uartEvent_kept (g : Task) (idle : g.tx = none) {event : UartEvent}
    (calm : event.calm = true) : g.Kept (g.uartEvent event) := by
  cases event with
  | data size =>
      rw [uartEvent, idle]
      exact Kept.refl g
  | lineBreak => exact ⟨rfl, rfl, rfl, rfl, rfl, rfl, rfl, rfl, rfl, List.suffix_refl _, Nat.le_refl _⟩
  | other => exact Kept.refl g
  | fifoOvf => cases calm
  | bufferFull => cases calm
  | frameErr => cases calm
  | parityErr => cases calm

/-- So do any, one after another. -/
theorem foldl_uartEvent_kept {events : List UartEvent}
    (calm : ∀ event ∈ events, event.calm = true) {g : Task} (idle : g.tx = none) :
    g.Kept (events.foldl uartEvent g) := by
  induction events generalizing g with
  | nil => exact Kept.refl g
  | cons event events ih =>
      have stepped := uartEvent_kept g idle (calm event (List.mem_cons_self ..))
      exact stepped.trans (ih (fun later member => calm later (List.mem_cons_of_mem _ member))
        (stepped.tx.trans idle))

theorem Calm.observe (calm : g.Calm) : ∀ event ∈ g.observe.1.events, event.calm = true := by
  unfold Task.observe
  cases next : g.world with
  | nil => exact fun event member => by cases member
  | cons moment world => exact calm moment (by rw [next]; exact List.mem_cons_self ..)

theorem uartEvents_kept (g : Task) (idle : g.tx = none) (calm : g.Calm) :
    g.Kept g.uartEvents := by
  have looked := observe_kept g
  exact looked.trans (foldl_uartEvent_kept calm.observe (looked.tx.trans idle))

/-- A look at the driver leaves less ahead, until all has come. -/
theorem uartEvents_ahead (g : Task) (idle : g.tx = none) (calm : g.Calm) :
    (g.world = [] ∧ g.wire = []) ∨ g.uartEvents.ahead < g.ahead := by
  have looked := observe_kept g
  have folded := foldl_uartEvent_kept calm.observe (looked.tx.trans idle)
  exact (observe_ahead g).imp id fun nearer => Nat.lt_of_le_of_lt folded.ahead nearer

/-- To read without waiting leaves it in order. -/
theorem uartReceive_kept (g : Task) (idle : g.tx = none) (calm : g.Calm) :
    g.Kept (g.uartReceive 0) := by
  have first := uartEvents_kept g idle calm
  have filled := first.trans (uartFill_kept g.uartEvents)
  exact filled.trans (uartEvents_kept _ (filled.tx.trans idle) (calm.kept filled))

theorem uartEvents_still (g : Task) (done : g.world = [] ∧ g.wire = []) :
    g.uartEvents = { g with clock := g.clock + 1 } := by
  rw [uartEvents, observe, done.1]
  simp only [arrive, done.2, List.takeWhile_nil, List.dropWhile_nil, List.map_nil,
    List.append_nil, List.foldl_nil]

theorem Kept.still (kept : g.Kept later) (done : g.world = [] ∧ g.wire = []) :
    later.world = [] ∧ later.wire = [] := by
  have none := kept.ahead
  rw [Task.ahead, Task.ahead, done.1, done.2, List.length_nil] at none
  unfold wireAhead at none
  cases bytes : later.wire with
  | nil => exact ⟨List.length_eq_zero_iff.mp (by omega), rfl⟩
  | cons byte wire =>
      rw [bytes] at none
      simp only at none
      omega

/-- A receive that leaves no byte has met the end of the stream or brings it nearer. -/
theorem uartReceive_empty (g : Task) (idle : g.tx = none) (calm : g.Calm)
    (empty : (g.uartReceive 0).uartPending = []) :
    (g.uartReceive 0).stream = [] ∨ (g.uartReceive 0).ahead < g.ahead := by
  have first := uartEvents_kept g idle calm
  have fill := uartFill_kept g.uartEvents
  have filled := first.trans fill
  have last := uartEvents_kept _ (filled.tx.trans idle) (calm.kept filled)
  rcases uartEvents_ahead g idle calm with done | nearer
  · left
    have still := filled.still done
    rw [uartReceive, uartEvents_still _ still] at empty ⊢
    rw [stream, show ({ (g.uartEvents.uartFill 0).2 with clock := _ } : Task).uartPending = [] from
      empty, uartFill_empty _ empty, still.2]
    rfl
  · exact Or.inr (Nat.lt_of_le_of_lt (Nat.le_trans last.ahead fill.ahead) nearer)

end Task

/-! ## One byte -/

namespace Task

variable {g : Task} {message : List UInt8} {byte : UInt8}

/-- In the frame mode with checksums, between faults and transmissions. -/
structure Ready (g : Task) : Prop where
  mode : g.cfg.frameMode = .iso14230
  checksum : g.cfg.checksumRx = true
  valid : g.rxInvalid = false
  idle : g.tx = none
  resolved : g.uartTxUnresolved = false
  calm : g.Calm

/-- The task is still ready after it. -/
theorem Ready.kept {later : Task} (ready : g.Ready) (kept : g.Kept later) : later.Ready where
  mode := by rw [kept.cfg, ready.mode]
  checksum := by rw [kept.cfg, ready.checksum]
  valid := kept.rxInvalid.trans ready.valid
  idle := kept.tx.trans ready.idle
  resolved := kept.uartTxUnresolved.trans ready.resolved
  calm := ready.calm.kept kept

/-- A byte for which there is room is pushed, and nothing else is touched. -/
theorem asmPush_kept (room : g.asmBuf.length < maxMsg) (time : Int) :
    { g with asmBuf := g.asmBuf ++ [byte] }.Kept (g.asmPush byte time) := by
  unfold asmPush
  by_cases empty : g.asmBuf.isEmpty
  · simp only [empty, room, if_true]
    exact ⟨rfl, rfl, rfl, rfl, rfl, rfl, rfl, rfl, rfl, List.suffix_refl _, Nat.le_refl _⟩
  · by_cases gap : time - g.asmLastUs > g.stats.lastP1MaxUs
    · simp only [empty, gap, room, if_true, if_false, Bool.false_eq_true]
      exact ⟨rfl, rfl, rfl, rfl, rfl, rfl, rfl, rfl, rfl, List.suffix_refl _, Nat.le_refl _⟩
    · simp only [empty, gap, room, if_true, if_false, Bool.false_eq_true]
      exact ⟨rfl, rfl, rfl, rfl, rfl, rfl, rfl, rfl, rfl, List.suffix_refl _, Nat.le_refl _⟩

/-- In the frame mode a message is whole when its length says so. -/
theorem asmWhole_iff (mode : g.cfg.frameMode = .iso14230) :
    g.asmWhole = true ↔ msgLen g.asmBuf ≠ 0 ∧ g.asmBuf.length = msgLen g.asmBuf := by
  simp [asmWhole, mode]

/-- A message that has only begun is not complete. -/
theorem asmComplete_early (mode : g.cfg.frameMode = .iso14230)
    (wellFormed : WellFormed message) (begun : g.asmBuf <+: message)
    (short : g.asmBuf.length < message.length) : g.asmComplete false = (none, g) := by
  by_cases empty : g.asmBuf.isEmpty
  · rw [asmComplete, if_pos empty]
  · have some : g.asmBuf ≠ [] := fun nil => empty (List.isEmpty_iff.mpr nil)
    have early : ¬g.asmWhole = true := by
      rw [asmWhole_iff mode]
      rintro ⟨known, same⟩
      rcases wellFormed.msgLen_begun begun some with ⟨zero, _⟩ | whole
      · exact known zero
      · omega
    rw [asmComplete, if_neg empty, if_neg early, if_pos (by rfl)]

/-- A message that is whole is complete, and the assembly is empty again. -/
theorem asmComplete_of_whole (mode : g.cfg.frameMode = .iso14230)
    (wellFormed : WellFormed message) (whole : g.asmBuf = message) :
    ∃ frame, frame.data = message ∧
      g.asmComplete false = (some frame, { g with asmBuf := [] }) := by
  have length := wellFormed.msgLen_self
  have ok := wellFormed.frameOk
  have some : message ≠ [] := by
    rintro rfl
    cases ok
  rw [← whole] at length ok some
  have done : g.asmWhole = true := by
    rw [asmWhole_iff mode, length]
    exact ⟨fun zero => some (List.length_eq_zero_iff.mp zero), rfl⟩
  have good : g.asmValidate =
      (Option.some ⟨g.asmBuf, 0, g.asmStartUs, g.asmLastUs, 0⟩, { g with asmBuf := [] }) := by
    simp [asmValidate, mode, ok]
  refine ⟨⟨g.asmBuf, 0, g.asmStartUs, g.asmLastUs, 0⟩, whole, ?_⟩
  rw [asmComplete, if_neg (fun empty => some (List.isEmpty_iff.mp empty)), if_pos done, good]

/-- A byte that does not complete its message is added to it. -/
theorem drainByte_early (ready : g.Ready) (wellFormed : WellFormed message)
    (begun : g.asmBuf ++ [byte] <+: message)
    (short : (g.asmBuf ++ [byte]).length < message.length) (bound : message.length ≤ maxMsg) :
    (g.drainByte byte).1 = none ∧
      { g with asmBuf := g.asmBuf ++ [byte] }.Kept (g.drainByte byte).2 := by
  have room : g.asmBuf.length < maxMsg := by
    rw [List.length_append, List.length_singleton] at short
    omega
  have pushed := @asmPush_kept
    { g with
      stats := { g.stats with rxBytes := g.stats.rxBytes + 1 }
      lastBusUs := g.uartPendingUs } byte room g.uartPendingUs
  rw [drainByte, if_neg (by rw [ready.valid]; exact Bool.false_ne_true)]
  rw [asmComplete_early (by rw [pushed.cfg]; exact ready.mode) wellFormed
    (by rw [pushed.asmBuf]; exact begun) (by rw [pushed.asmBuf]; exact short)]
  exact ⟨rfl, pushed.cfg, pushed.asmBuf, pushed.rxInvalid, pushed.tx, pushed.uartTxUnresolved,
    pushed.rxShort, pushed.rxTooLong, pushed.rxBadChecksum, pushed.stream, pushed.world,
    pushed.ahead⟩

/-- The byte that completes its message delivers it. -/
theorem drainByte_of_whole (ready : g.Ready) (wellFormed : WellFormed message)
    (whole : g.asmBuf ++ [byte] = message) (bound : message.length ≤ maxMsg) :
    (∃ frame, frame.data = message ∧ (g.drainByte byte).1 = some frame) ∧
      { g with asmBuf := [] }.Kept (g.drainByte byte).2 := by
  have room : g.asmBuf.length < maxMsg := by
    rw [← whole, List.length_append, List.length_singleton] at bound
    omega
  have pushed := @asmPush_kept
    { g with
      stats := { g.stats with rxBytes := g.stats.rxBytes + 1 }
      lastBusUs := g.uartPendingUs } byte room g.uartPendingUs
  rw [drainByte, if_neg (by rw [ready.valid]; exact Bool.false_ne_true)]
  obtain ⟨frame, data, completed⟩ := asmComplete_of_whole (by rw [pushed.cfg]; exact ready.mode)
    wellFormed (by rw [pushed.asmBuf]; exact whole)
  rw [completed]
  exact ⟨⟨frame, data, rfl⟩, pushed.cfg, rfl, pushed.rxInvalid, pushed.tx,
    pushed.uartTxUnresolved, pushed.rxShort, pushed.rxTooLong, pushed.rxBadChecksum, pushed.stream,
    pushed.world, pushed.ahead⟩

/-- The messages that the assembled bytes and the stream make up; the first is not whole yet. -/
structure Holds (g : Task) (messages : List (List UInt8)) : Prop where
  bytes : g.asmBuf ++ g.stream = messages.flatten
  begun : ∀ message ∈ messages.head?, g.asmBuf.length < message.length

/-- The messages on the line are still those that were sent. -/
theorem Holds.kept {later : Task} {messages : List (List UInt8)} (holds : g.Holds messages)
    (kept : g.Kept later) : later.Holds messages where
  bytes := by rw [kept.asmBuf, kept.stream, holds.bytes]
  begun := by
    rw [kept.asmBuf]
    exact holds.begun

/-- A stream that has run out holds no message. -/
theorem Holds.exhausted {messages : List (List UInt8)} (holds : g.Holds messages)
    (done : g.stream = []) : messages = [] := by
  cases messages with
  | nil => rfl
  | cons message messages =>
      have bytes := holds.bytes
      have begun := holds.begun message rfl
      rw [done, List.append_nil, List.flatten_cons] at bytes
      rw [bytes, List.length_append] at begun
      omega

end Task

/-! ## Draining -/

namespace Task

variable {g : Task}

/-- What a round takes off the cursor either delivers the first message or is added to it. -/
theorem Holds.drainByte {messages : List (List UInt8)} (ready : g.Ready) (holds : g.Holds messages)
    (wellFormed : ∀ message ∈ messages, WellFormed message)
    (bounded : ∀ message ∈ messages, message.length ≤ maxMsg) {byte : UInt8} {rest : List UInt8}
    (cursor : g.uartPending = byte :: rest) :
    let answer := { g with uartPending := rest }.drainByte byte
    answer.2.Ready ∧ answer.2.stats.rxShort = g.stats.rxShort ∧
      answer.2.stats.rxTooLong = g.stats.rxTooLong ∧
      answer.2.stats.rxBadChecksum = g.stats.rxBadChecksum ∧
      answer.2.ahead ≤ g.ahead ∧ answer.2.stream.length + 1 = g.stream.length ∧
      ((answer.1 = none ∧ answer.2.Holds messages) ∨
        ∃ message later frame, messages = message :: later ∧ answer.1 = some frame ∧
          frame.data = message ∧ answer.2.Holds later) := by
  have taken : g.stream = byte :: { g with uartPending := rest }.stream := by
    rw [stream, cursor]
    rfl
  have ready' : { g with uartPending := rest }.Ready :=
    ⟨ready.mode, ready.checksum, ready.valid, ready.idle, ready.resolved, ready.calm⟩
  have bytes := holds.bytes
  rw [taken] at bytes
  cases messages with
  | nil => exact absurd (List.append_eq_nil_iff.mp bytes).2 (List.cons_ne_nil _ _)
  | cons message messages =>
      have good := wellFormed message (List.mem_cons_self ..)
      have bound := bounded message (List.mem_cons_self ..)
      have begun := holds.begun message rfl
      rw [List.append_cons, List.flatten_cons] at bytes
      have longer : (g.asmBuf ++ [byte]).length ≤ message.length := by
        rw [List.length_append, List.length_singleton]
        omega
      have first : g.asmBuf ++ [byte] <+: message :=
        List.prefix_of_prefix_length_le ⟨_, bytes⟩ (List.prefix_append _ _) longer
      by_cases whole : g.asmBuf ++ [byte] = message
      · obtain ⟨⟨frame, data, delivered⟩, kept⟩ := drainByte_of_whole ready' good whole bound
        rw [whole, List.append_cancel_left_eq] at bytes
        have ready'' : { g with uartPending := rest, asmBuf := [] }.Ready :=
          ⟨ready.mode, ready.checksum, ready.valid, ready.idle, ready.resolved, ready.calm⟩
        refine ⟨ready''.kept kept, kept.rxShort, kept.rxTooLong, kept.rxBadChecksum, kept.ahead,
          by rw [taken, kept.stream]; rfl, Or.inr ⟨message, messages, frame, rfl, delivered, data,
          ?_, fun next member => ?_⟩⟩
        · rw [kept.asmBuf, kept.stream]
          exact bytes
        · have filled := (wellFormed next (List.mem_cons_of_mem _ (List.mem_of_mem_head? member)))
          rw [kept.asmBuf]
          exact filled.length_pos
      · have short : (g.asmBuf ++ [byte]).length < message.length :=
          Nat.lt_of_le_of_ne longer fun same => whole (first.eq_of_length same)
        obtain ⟨delivered, kept⟩ := drainByte_early ready' good first short bound
        have ready'' : { g with uartPending := rest, asmBuf := g.asmBuf ++ [byte] }.Ready :=
          ⟨ready.mode, ready.checksum, ready.valid, ready.idle, ready.resolved, ready.calm⟩
        refine ⟨ready''.kept kept, kept.rxShort, kept.rxTooLong, kept.rxBadChecksum, kept.ahead,
          by rw [taken, kept.stream]; rfl, Or.inl ⟨delivered, ?_, fun next member => ?_⟩⟩
        · rw [kept.asmBuf, kept.stream]
          exact bytes
        · cases member
          rw [kept.asmBuf]
          exact short

/-- What a drain leaves: the messages that are not delivered yet, and no error counted. -/
structure Drained (g later : Task) (messages : List (List UInt8)) : Prop where
  ready : later.Ready
  holds : later.Holds messages
  rxShort : later.stats.rxShort = g.stats.rxShort
  rxTooLong : later.stats.rxTooLong = g.stats.rxTooLong
  rxBadChecksum : later.stats.rxBadChecksum = g.stats.rxBadChecksum
  ahead : later.ahead ≤ g.ahead

/-- What is drained in two parts is drained. -/
theorem Drained.trans {later last : Task} {messages others : List (List UInt8)}
    (first : g.Drained later others) (second : later.Drained last messages) :
    g.Drained last messages where
  ready := second.ready
  holds := second.holds
  rxShort := second.rxShort.trans first.rxShort
  rxTooLong := second.rxTooLong.trans first.rxTooLong
  rxBadChecksum := second.rxBadChecksum.trans first.rxBadChecksum
  ahead := Nat.le_trans second.ahead first.ahead

theorem Drained.of_kept {later : Task} {messages : List (List UInt8)} (ready : g.Ready)
    (holds : g.Holds messages) (kept : g.Kept later) : g.Drained later messages :=
  ⟨ready.kept kept, holds.kept kept, kept.rxShort, kept.rxTooLong, kept.rxBadChecksum, kept.ahead⟩

/-- `rx_drain`'s loop delivers the next message, or it has met the end of the bytes that were there;
then the stream is used up or a moment is. -/
theorem drainLoop_holds {messages : List (List UInt8)}
    (wellFormed : ∀ message ∈ messages, WellFormed message)
    (bounded : ∀ message ∈ messages, message.length ≤ maxMsg) (rounds : Nat) (g : Task)
    (ready : g.Ready) (holds : g.Holds messages) (enough : g.stream.length < rounds) :
    let answer := g.drainLoop rounds
    (answer.1 = none ∧ g.Drained answer.2 messages ∧
        (answer.2.stream = [] ∨ answer.2.ahead < g.ahead)) ∨
      ∃ message later frame, messages = message :: later ∧ answer.1 = some frame ∧
        frame.data = message ∧ g.Drained answer.2 later := by
  induction rounds generalizing g with
  | zero => exact absurd enough (Nat.not_lt_zero _)
  | succ rounds ih =>
      have received := uartReceive_kept g ready.idle ready.calm
      have drained := Drained.of_kept ready holds received
      cases cursor : (g.uartReceive 0).uartPending with
      | nil =>
          have stop : g.drainLoop (rounds + 1) = (none, g.uartReceive 0) := by
            rw [drainLoop]
            simp only [cursor]
          rw [stop]
          exact Or.inl ⟨rfl, drained, uartReceive_empty g ready.idle ready.calm cursor⟩
      | cons byte rest =>
          have step := drained.holds.drainByte drained.ready wellFormed bounded cursor
          generalize taken : { g.uartReceive 0 with uartPending := rest }.drainByte byte = answer
            at step
          obtain ⟨delivered, after⟩ := answer
          obtain ⟨ready', short, long, bad, ahead, shorter, outcome⟩ := step
          rcases outcome with ⟨rfl, more⟩ | ⟨message, later, frame, rfl, rfl, data, rest⟩
          · have next : g.drainLoop (rounds + 1) = after.drainLoop rounds := by
              rw [drainLoop]
              simp only [cursor, taken]
            have so := drained.trans ⟨ready', more, short, long, bad, ahead⟩
            rw [received.stream] at shorter
            simp only at shorter
            rw [next]
            rcases ih after ready' more (by omega) with
              ⟨none, kept, ended⟩ | ⟨message, later, frame, same, some, data, kept⟩
            · refine Or.inl ⟨none, so.trans kept, ended.imp id fun fewer => ?_⟩
              exact Nat.lt_of_lt_of_le fewer so.ahead
            · exact Or.inr ⟨message, later, frame, same, some, data, so.trans kept⟩
          · have next : g.drainLoop (rounds + 1) = (some frame, after) := by
              rw [drainLoop]
              simp only [cursor, taken]
            rw [next]
            exact Or.inr ⟨message, later, frame, rfl, rfl, data,
              drained.trans ⟨ready', rest, short, long, bad, ahead⟩⟩

/-- So many calls of `rx_drain`: the frames that they deliver, in order. -/
def drainFrames : Nat → Task → List Frame × Task
  | 0, g => ([], g)
  | calls + 1, g =>
    let answer := g.rxDrain
    let rest := drainFrames calls answer.2
    (answer.1.toList ++ rest.1, rest.2)

/-- A drain is its loop with fuel for every byte. -/
theorem rxDrain_eq (ready : g.Ready) : g.rxDrain = g.drainLoop (g.stream.length + 1) := by
  rw [rxDrain, if_neg (by rw [ready.resolved]; exact Bool.false_ne_true)]

/-- The calls deliver the messages from the first on; all of them once there were calls enough to
meet the end of the stream. -/
theorem drainFrames_holds {messages : List (List UInt8)}
    (wellFormed : ∀ message ∈ messages, WellFormed message) (calls : Nat) (g : Task)
    (ready : g.Ready) (holds : g.Holds messages) :
    ∃ rest, messages = (g.drainFrames calls).1.map (·.data) ++ rest ∧
      g.Drained (g.drainFrames calls).2 rest ∧
      (messages.length + g.ahead < calls → rest = []) := by
  induction calls generalizing g messages with
  | zero =>
      exact ⟨messages, rfl, Drained.of_kept ready holds (Kept.refl g), fun more => by omega⟩
  | succ calls ih =>
      have bounded := fun message member => (wellFormed message member).length_le
      rw [drainFrames, rxDrain_eq ready]
      rcases drainLoop_holds wellFormed bounded _ g ready holds (Nat.lt_succ_self _) with
        ⟨none, drained, ended⟩ | ⟨message, later, frame, rfl, some, data, drained⟩
      · obtain ⟨rest, same, after, all⟩ := ih wellFormed _ drained.ready drained.holds
        refine ⟨rest, by rw [none]; exact same, drained.trans after, fun enough => ?_⟩
        rcases ended with done | fewer
        · obtain rfl := drained.holds.exhausted done
          exact (List.append_eq_nil_iff.mp same.symm).2
        · exact all (by omega)
      · obtain ⟨rest, same, after, all⟩ := ih
          (fun next member => wellFormed next (List.mem_cons_of_mem _ member)) _ drained.ready
          drained.holds
        refine ⟨rest, ?_, drained.trans after, fun enough => all ?_⟩
        · rw [some, Option.toList_some, List.map_append, List.map_singleton, data,
            List.append_assoc, ← same]
          rfl
        · have shrunk := drained.ahead
          rw [List.length_cons] at enough
          omega

end Task

/-- Draining the UART splits a stream of messages into its messages, whatever the batches, and
counts no error: what is delivered is always the first messages of the stream, and all of them once
the calls have met its end. -/
theorem rxDrain_splits_stream (g : Task) (ready : g.Ready) (empty : g.asmBuf = [])
    (messages : List (List UInt8)) (wellFormed : ∀ message ∈ messages, WellFormed message)
    (stream : g.stream = messages.flatten) (calls : Nat) :
    let answer := g.drainFrames calls
    answer.1.map (·.data) <+: messages ∧
      (messages.length + g.ahead < calls → answer.1.map (·.data) = messages) ∧
      answer.2.stats.rxShort = g.stats.rxShort ∧
      answer.2.stats.rxTooLong = g.stats.rxTooLong ∧
      answer.2.stats.rxBadChecksum = g.stats.rxBadChecksum := by
  have holds : g.Holds messages := by
    refine ⟨by rw [empty, stream, List.nil_append], fun message member => ?_⟩
    rw [empty]
    exact (wellFormed message (List.mem_of_mem_head? member)).length_pos
  obtain ⟨rest, same, drained, all⟩ := Task.drainFrames_holds wellFormed calls g ready holds
  refine ⟨⟨rest, same.symm⟩, fun enough => ?_, drained.rxShort, drained.rxTooLong,
    drained.rxBadChecksum⟩
  rw [all enough, List.append_nil] at same
  exact same.symm

/-- A message of one data byte, without addresses. -/
def testerPresent : List UInt8 := [0x01, 0x3e, 0x3f]

theorem testerPresent_wellFormed : WellFormed testerPresent :=
  .short 0x01 [] [0x3e] rfl rfl (List.cons_ne_nil _ _) rfl

/-- Two messages whose border is within a batch. -/
theorem rxDrain_splits_two :
    let g : Task :=
      { cfg := { frameMode := .iso14230 }
        ring := [0x01, 0x3e]
        wire := [(2, 0x3f), (2, 0x01), (9, 0x3e), (9, 0x3f)]
        world := [{ batch := 0 }, { events := [.data 4] }] }
    (g.drainFrames 40).1.map (·.data) = [testerPresent, testerPresent] :=
  (rxDrain_splits_stream
    { cfg := { frameMode := .iso14230 }
      ring := [0x01, 0x3e]
      wire := [(2, 0x3f), (2, 0x01), (9, 0x3e), (9, 0x3f)]
      world := [{ batch := 0 }, { events := [.data 4] }] }
    ⟨rfl, rfl, rfl, rfl, rfl, by decide⟩ rfl [testerPresent, testerPresent]
    (by
      intro message member
      obtain rfl : message = testerPresent := by simpa using member
      exact testerPresent_wellFormed)
    (by decide) 40).2.1 (by decide)

/-- After a receive error the assembly buffer is empty too, and the first message is passed over:
the driver waits for a gap. -/
theorem rxDrain_passes_over_after_fault :
    let g := { ({ cfg := { frameMode := .iso14230 } } : Task).uartEvent .frameErr with
      ring := testerPresent }
    g.cfg.frameMode = .iso14230 ∧ g.cfg.checksumRx = true ∧ g.asmBuf = [] ∧
      g.stream = testerPresent ∧ (g.drainFrames 3).1 = [] ∧ (g.drainFrames 3).2.stream = [] := by
  decide

end OpenDiag.Kline
