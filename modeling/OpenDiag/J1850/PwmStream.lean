import Mathlib.Algebra.GroupWithZero.Nat
import OpenDiag.J1850.PwmCodec
import OpenDiag.J1850.PwmQuick

/-!
# The streaming decoder of PWM

`j1850_pwm_stream_pulse` gets an active phase when it is over, with its distance from the rising edge
before. It has the bytes that the capture decoder reads from the same pulses, and it keeps the CRC in
a register: a frame is good when the register is at a fixed residue.
-/

namespace OpenDiag.J1850

/-! ## The residue of a good frame -/

/-- `J1850_CRC_RESIDUE`. -/
def crcResidue : UInt8 := 0xC4

/-- The residue is reached by the complement of the register, and by no other byte. -/
theorem crcByte_residue_iff (crc byte : UInt8) : crcByte crc byte = crcResidue ↔ byte = ~~~crc := by
  have all : ∀ n : Fin 256, (crcByte 0 (UInt8.ofNat n) = crcResidue) = (UInt8.ofNat n = ~~~0) := by
    decide +kernel
  have sum : ∀ sum : UInt8, crcByte 0 sum = crcResidue ↔ sum = ~~~0 := by
    intro sum
    simpa using all ⟨sum.toNat, sum.toNat_lt⟩
  have same : crcByte crc byte = crcByte 0 (crc ^^^ byte) := by
    simp only [crcByte, UInt8.zero_xor]
  rw [same, sum]
  constructor
  · intro full
    have back : crc ^^^ (crc ^^^ byte) = crc ^^^ ~~~0 := by rw [full]
    rw [← UInt8.xor_assoc, UInt8.xor_self, UInt8.zero_xor, UInt8.xor_not, UInt8.xor_zero] at back
    exact back
  · rintro rfl
    rw [UInt8.xor_not, UInt8.xor_self]

theorem foldl_crcByte_residue_iff {data : List UInt8} (two : 2 ≤ data.length) :
    data.foldl crcByte 0xFF = crcResidue ↔ crcCheck data = true := by
  rcases data.eq_nil_or_concat with rfl | ⟨body, last, rfl⟩
  · exact absurd two (by decide)
  · rw [List.concat_eq_append, List.foldl_append, List.foldl_cons, List.foldl_nil,
      crcByte_residue_iff, crcCheck, List.getLastD_concat, List.dropLast_concat, crc,
      Bool.and_eq_true,
      decide_eq_true_eq, decide_eq_true_eq]
    rw [List.concat_eq_append] at two
    exact ⟨fun last => ⟨two, last⟩, And.right⟩

end OpenDiag.J1850

namespace OpenDiag.J1850.Pwm

/-! ## The stream -/

/-- `j1850_pwm_stream_t`. -/
structure Stream where
  data : List UInt8 := List.replicate maxFrame 0
  size : data.length = maxFrame := by rfl
  len : Nat := 0
  bits : Nat := 0
  byte : UInt8 := 0
  crc : UInt8 := 0
  valid : Bool := false
  first : Bool := false

/-- An active phase that is over, and its distance from the rising edge before. -/
structure Completed where
  activeUs : Nat
  edgeUs : Nat
  deriving DecidableEq, Repr

/-- The widths of a start of frame. -/
def Completed.IsSof (pulse : Completed) : Prop :=
  pulse.activeUs ≥ tp7RxMin ∧ pulse.activeUs ≤ tp7RxMax

instance (pulse : Completed) : Decidable pulse.IsSof :=
  inferInstanceAs (Decidable (_ ∧ _))

/-- The width and the distance of a bit; the first one has its own distance. -/
def Completed.InWindows (pulse : Completed) (first : Bool) : Prop :=
  pulse.activeUs ≥ tp1RxMin ∧ pulse.activeUs ≤ tp2RxMax ∧
    pulse.edgeUs ≥ (if first then tp4RxMin else tp3RxMin) ∧
    pulse.edgeUs ≤ (if first then tp4RxMax else tp3RxMax)

instance (pulse : Completed) (first : Bool) : Decidable (pulse.InWindows first) :=
  inferInstanceAs (Decidable (_ ∧ _))

/-- The value of a bit. -/
def Completed.one (pulse : Completed) : Bool :=
  pulse.activeUs < bitSplit

/-- `j1850_pwm_stream_pulse`. -/
def Stream.pulse (s : Stream) (pulse : Completed) : Stream × Bool :=
  if pulse.IsSof then
    ({ s with len := 0, bits := 0, byte := 0, crc := 0xFF, valid := true, first := true }, false)
  else if !s.valid then (s, false)
  else if ¬pulse.InWindows s.first ∨ s.len ≥ maxFrame then ({ s with valid := false }, false)
  else
    let byte := shiftIn s.byte (pulse.activeUs < bitSplit)
    let bits := (s.bits + 1) % 2 ^ 8
    if bits ≠ 8 then ({ s with first := false, byte, bits }, false)
    else
      let crc := crcByte s.crc byte
      let len := s.len + 1
      ({ s with
          data := s.data.set s.len byte
          size := by rw [List.length_set, s.size]
          len, crc, byte := 0, bits := 0, first := false },
        len ≥ 4 ∧ len < maxFrame ∧ crc = crcResidue)

/-- Pulses one after the other, with what is returned for the last one. -/
def Stream.run (s : Stream) (pulses : List Completed) : Stream × Bool :=
  pulses.foldl (fun state pulse => state.1.pulse pulse) (s, false)

/-! ## One pulse -/

/-- What the stream has after a start of frame and these bits: those of twelve bytes at most. -/
structure Stream.Got (s : Stream) (bits : List Bool) : Prop where
  len : s.len = (bits.take (8 * maxFrame)).length / 8
  whole : s.data.take s.len = octets (bits.take (8 * maxFrame))
  going : bits.length ≤ 8 * maxFrame → s.valid = true ∧ s.first = bits.isEmpty ∧
    Shifted s.data s.len s.bits s.byte bits ∧ s.crc = (octets bits).foldl crcByte 0xFF
  stopped : 8 * maxFrame < bits.length → s.valid = false

/-- The boundary of a byte where the frame could be answered. -/
def Stream.Answerable (s : Stream) (bits : List Bool) : Prop :=
  bits.length % 8 = 0 ∧ 4 ≤ s.len ∧ s.len < maxFrame ∧ crcCheck (s.data.take s.len) = true

/-- The state and what was returned, after a start of frame and these bits. -/
structure Follows (state : Stream × Bool) (bits : List Bool) : Prop where
  got : state.1.Got bits
  answer : state.2 = true ↔ state.1.Answerable bits

/-- A bit is shorter than a start of frame. -/
theorem Completed.InWindows.not_sof {pulse : Completed} {first : Bool}
    (inside : pulse.InWindows first) : ¬pulse.IsSof := by
  intro sof
  exact absurd inside.2.1 (Nat.not_le.mpr (Nat.lt_of_lt_of_le (by decide) sof.1))

theorem Stream.pulse_sof (s : Stream) {pulse : Completed} (sof : pulse.IsSof) :
    Follows (s.pulse pulse) [] := by
  rw [Stream.pulse, if_pos sof]
  refine ⟨⟨rfl, rfl, fun _ => ⟨rfl, rfl, Shifted.empty _, rfl⟩, (fun wrong => nomatch wrong)⟩, ?_⟩
  exact ⟨(fun wrong => nomatch wrong), fun wrong => absurd wrong.2.1 (show ¬4 ≤ 0 by decide)⟩

section Pulse

variable {s : Stream} {bits : List Bool} {pulse : Completed}

/-- Twelve bytes are too many to answer. -/
theorem Stream.Got.not_answerable (got : s.Got bits) (long : 8 * maxFrame ≤ bits.length)
    (more : List Bool) : ¬s.Answerable more := by
  intro answerable
  have len := got.len
  rw [List.length_take_of_le long] at len
  have few := answerable.2.2.1
  rw [len] at few
  exact absurd few (by decide)

/-- What is held of a longer train. -/
theorem take_append_of_long (long : 8 * maxFrame ≤ bits.length) (one : Bool) :
    (bits ++ [one]).take (8 * maxFrame) = bits.take (8 * maxFrame) := by
  rw [List.take_append_of_le_length long]

/-- The bit that does not fit any more ends the reception. -/
theorem Stream.Got.pulse_full (got : s.Got bits) (inside : pulse.InWindows bits.isEmpty)
    (full : bits.length = 8 * maxFrame) : Follows (s.pulse pulse) (bits ++ [pulse.one]) := by
  obtain ⟨valid, _, shifted, _⟩ := got.going (Nat.le_of_eq full)
  have len : s.len ≥ maxFrame := by
    rw [shifted.length, full]
    decide
  rw [Stream.pulse, if_neg inside.not_sof,
    if_neg (by simp [valid]), if_pos (Or.inr len)]
  have long := Nat.le_of_eq full.symm
  refine ⟨⟨?_, ?_, fun short => ?_, fun _ => rfl⟩, (fun wrong => nomatch wrong),
    fun answerable => absurd answerable (got.not_answerable long _)⟩
  · rw [take_append_of_long long]
    exact got.len
  · rw [take_append_of_long long]
    exact got.whole
  · rw [List.length_append, List.length_singleton] at short
    exact absurd short (by omega)

/-- What follows is not looked at. -/
theorem Stream.Got.pulse_stopped (got : s.Got bits) (inside : pulse.InWindows bits.isEmpty)
    (long : 8 * maxFrame < bits.length) : Follows (s.pulse pulse) (bits ++ [pulse.one]) := by
  rw [Stream.pulse, if_neg inside.not_sof,
    if_pos (by rw [got.stopped long]; rfl)]
  have long' := Nat.le_of_lt long
  refine ⟨⟨?_, ?_, fun short => ?_, fun _ => got.stopped long⟩, (fun wrong => nomatch wrong),
    fun answerable => absurd answerable (got.not_answerable long' _)⟩
  · rw [take_append_of_long long']
    exact got.len
  · rw [take_append_of_long long']
    exact got.whole
  · rw [List.length_append, List.length_singleton] at short
    exact absurd short (by omega)

/-- A bit that there is room for. -/
theorem Stream.Got.pulse_room (got : s.Got bits) (inside : pulse.InWindows bits.isEmpty)
    (room : bits.length < 8 * maxFrame) : Follows (s.pulse pulse) (bits ++ [pulse.one]) := by
  obtain ⟨valid, first, shifted, register⟩ := got.going (Nat.le_of_lt room)
  have length := shifted.length
  have count := shifted.count
  have less : s.len < maxFrame := by
    rw [length]
    exact Nat.div_lt_of_lt_mul room
  have size := s.size
  have longer : (bits ++ [pulse.one]).length = bits.length + 1 := by
    rw [List.length_append, List.length_singleton]
  have fits : (bits ++ [pulse.one]).take (8 * maxFrame) = bits ++ [pulse.one] :=
    List.take_of_length_le (by omega)
  have begun : (bits ++ [pulse.one]).isEmpty = false := by
    rw [List.isEmpty_eq_false_iff]
    exact List.append_ne_nil_of_right_ne_nil _ (List.cons_ne_nil _ _)
  have window : ¬(¬pulse.InWindows s.first ∨ s.len ≥ maxFrame) := by
    rw [first]
    rintro (outside | wrong)
    · exact outside inside
    · exact absurd less (Nat.not_lt.mpr wrong)
  rw [Stream.pulse, if_neg inside.not_sof,
    if_neg (by simp [valid]), if_neg window]
  extract_lets byte next sum len
  have small : next = s.bits + 1 := Nat.mod_eq_of_lt (by omega)
  have short : ¬8 * maxFrame < (bits ++ [pulse.one]).length := by omega
  by_cases last : s.bits + 1 = 8
  · rw [if_neg (by rw [small]; exact not_not.mpr last)]
    have done := shifted.last pulse.one last (by omega)
    have total : sum = (octets (bits ++ [pulse.one])).foldl crcByte 0xFF := by
      rw [← done.whole, take_set_succ (by omega), List.foldl_append, shifted.whole, ← register]
      rfl
    refine ⟨⟨?_, ?_, fun _ => ⟨valid, begun.symm, done, total⟩, fun wrong => absurd wrong short⟩, ?_⟩
    · rw [fits]
      exact done.length
    · rw [fits]
      exact done.whole
    · have bytes : (s.data.set s.len byte).take len = octets (bits ++ [pulse.one]) := done.whole
      have check : 2 ≤ len → (sum = crcResidue ↔
          crcCheck ((s.data.set s.len byte).take len) = true) := by
        intro two
        rw [total, bytes]
        refine foldl_crcByte_residue_iff ?_
        rw [← bytes, List.length_take_of_le (by rw [List.length_set]; omega)]
        exact two
      rw [decide_eq_true_eq]
      constructor
      · rintro ⟨four, few, good⟩
        exact ⟨by omega, four, few, (check (by omega)).mp good⟩
      · rintro ⟨_, four, few, good⟩
        exact ⟨four, few, (check (Nat.le_trans (by decide) four)).mpr good⟩
  · rw [if_pos (by rw [small]; exact last)]
    have more := shifted.more pulse.one last
    refine ⟨⟨?_, ?_, fun _ => ⟨valid, begun.symm, ?_, ?_⟩, fun wrong => absurd wrong short⟩,
      (fun wrong => nomatch wrong), fun answerable => ?_⟩
    · rw [fits]
      exact more.length
    · rw [fits]
      exact more.whole
    · rw [small]
      exact more
    · rw [← more.whole, shifted.whole]
      exact register
    · have boundary := answerable.1
      omega

end Pulse

/-! ## A train of pulses -/

/-- Pulses in the windows of bits, the first one at the distance of a first bit. -/
def Accepted : Bool → List Completed → Prop
  | _, [] => True
  | first, pulse :: pulses => pulse.InWindows first ∧ Accepted false pulses

instance Accepted.decidable : ∀ (first : Bool) (pulses : List Completed),
    Decidable (Accepted first pulses)
  | _, [] => .isTrue trivial
  | first, pulse :: pulses =>
    have := Accepted.decidable false pulses
    inferInstanceAs (Decidable (pulse.InWindows first ∧ Accepted false pulses))

/-- A pulse in its windows follows the bits before. -/
theorem Stream.Got.pulse {s : Stream} {bits : List Bool} {pulse : Completed} (got : s.Got bits)
    (inside : pulse.InWindows bits.isEmpty) : Follows (s.pulse pulse) (bits ++ [pulse.one]) := by
  rcases Nat.lt_trichotomy bits.length (8 * maxFrame) with room | full | long
  · exact got.pulse_room inside room
  · exact got.pulse_full inside full
  · exact got.pulse_stopped inside long

theorem Follows.pulses {state : Stream × Bool} {bits : List Bool} (follows : Follows state bits)
    {pulses : List Completed} (accepted : Accepted bits.isEmpty pulses) :
    Follows (pulses.foldl (fun state pulse => state.1.pulse pulse) state)
      (bits ++ pulses.map Completed.one) := by
  induction pulses generalizing state bits with
  | nil => rwa [List.map_nil, List.append_nil]
  | cons pulse pulses ih =>
      obtain ⟨inside, rest⟩ := accepted
      have next := follows.got.pulse inside
      rw [List.foldl_cons, List.map_cons, List.append_cons]
      refine ih next ?_
      rwa [List.isEmpty_eq_false_iff.mpr (List.append_ne_nil_of_right_ne_nil _
        (List.cons_ne_nil _ _))]

/-- A start of frame and the pulses after it. -/
theorem Stream.run_follows (s : Stream) {sof : Completed} (opened : sof.IsSof)
    {pulses : List Completed} (accepted : Accepted true pulses) :
    Follows (s.run (sof :: pulses)) (pulses.map Completed.one) :=
  (s.pulse_sof opened).pulses accepted

/-! ## What ends a reception -/

/-- Without a start of frame nothing is received. -/
theorem Stream.run_invalid {state : Stream × Bool} (closed : state.1.valid = false)
    (answer : state.2 = false) {pulses : List Completed} (others : ∀ pulse ∈ pulses, ¬pulse.IsSof) :
    (pulses.foldl (fun state pulse => state.1.pulse pulse) state).2 = false := by
  induction pulses generalizing state with
  | nil => exact answer
  | cons pulse pulses ih =>
      rw [List.forall_mem_cons] at others
      have stays : state.1.pulse pulse = (state.1, false) := by
        rw [Stream.pulse, if_neg others.1, if_pos (by rw [closed]; rfl)]
      rw [List.foldl_cons, stays]
      exact ih closed rfl others.2

/-- A pulse outside its windows ends the reception. -/
theorem Stream.Got.pulse_outside {s : Stream} {bits : List Bool} {pulse : Completed}
    (got : s.Got bits) (outside : ¬pulse.InWindows bits.isEmpty) (other : ¬pulse.IsSof) :
    (s.pulse pulse).1.valid = false ∧ (s.pulse pulse).2 = false := by
  rw [Stream.pulse, if_neg other]
  by_cases short : bits.length ≤ 8 * maxFrame
  · obtain ⟨valid, first, _⟩ := got.going short
    rw [if_neg (by simp [valid]), if_pos (Or.inl (by rwa [first]))]
    exact ⟨rfl, rfl⟩
  · have closed := got.stopped (Nat.not_le.mp short)
    rw [if_pos (by rw [closed]; rfl)]
    exact ⟨closed, rfl⟩

/-! ## The capture decoder on the same pulses -/

/-- The pulses of a capture after an active phase. -/
def train (prevActive : Nat) : List Completed → List Pulse
  | [] => []
  | pulse :: pulses =>
    ⟨passive, pulse.edgeUs - prevActive⟩ :: ⟨active, pulse.activeUs⟩ :: train pulse.activeUs pulses

theorem takeBit_inside {us : Nat} (least : tp1RxMin ≤ us) (most : us ≤ tp2RxMax) (rx : Rx)
    (nbits : Nat) :
    takeBit rx nbits false us =
      match rx.data.pushBit nbits (us < bitSplit) with
      | none => .error { rx with status := .tooLong }
      | some (data, nbits) => .ok ({ rx with data, lastActiveUs := us }, nbits, false) := by
  have bit : classifyActive us = if us < bitSplit then .one else .zero := by
    rw [classifyActive, if_pos ⟨least, most⟩]
  have value : decide (classifyActive us = .one) = decide (us < bitSplit) := by
    rw [bit]
    by_cases early : us < bitSplit <;> simp [early]
  unfold takeBit
  extract_lets sort measured
  rw [if_neg (by
    rw [show sort = _ from bit]
    rintro ⟨differs, differs'⟩
    split at differs
    · exact differs rfl
    · rw [if_neg ‹_›] at differs'
      exact differs' rfl)]
  simp only [measured, sort, value, Rx.pushBit, Bool.false_eq_true, if_false]
  cases rx.data.pushBit nbits (decide (us < bitSplit)) <;> rfl

/-- An interval within its windows is a cell. -/
theorem takeCell_inside {pulse : Completed} {first : Bool} (inside : pulse.InWindows first)
    (rx : Rx) (nbits : Nat) :
    takeCell rx nbits false first pulse.edgeUs pulse.activeUs =
      takeBit rx nbits false pulse.activeUs := by
  obtain ⟨_, _, least, most⟩ := inside
  have bounds : tp3RxMax = 27 ∧ tp4RxMin = 42 ∧ tp4RxMax = 54 ∧ tp5RxMin = 63 :=
    ⟨rfl, rfl, rfl, rfl⟩
  cases first with
  | true =>
      rw [if_pos rfl] at least most
      rw [takeCell, if_neg (by omega), if_pos rfl, if_neg (by omega)]
  | false =>
      rw [if_neg Bool.false_ne_true] at least most
      rw [takeCell, if_neg (by omega), if_neg Bool.false_ne_true, if_neg (by omega),
        if_neg (by omega)]

/-- The active phase before a gap is shorter than the gap. -/
theorem Completed.InWindows.lt {pulse : Completed} {first : Bool} (inside : pulse.InWindows first)
    {prevActive : Nat} (before : prevActive ≤ if first then tp7RxMax else tp2RxMax) :
    prevActive < pulse.edgeUs := by
  obtain ⟨_, _, least, _⟩ := inside
  have bounds : tp2RxMax = 18 ∧ tp3RxMin = 21 ∧ tp7RxMax = 34 ∧ tp4RxMin = 42 :=
    ⟨rfl, rfl, rfl, rfl⟩
  cases first <;> simp only [Bool.false_eq_true, if_true, if_false] at before least <;> omega

/-- The capture decoder gets the bits of the pulses, those of twelve bytes at most. -/
theorem decodeBody_accepted {ending : List Pulse}
    (ended : ending = [] ∨ ∃ us, ending = [⟨passive, us⟩]) (pulses : List Completed) {first : Bool}
    (accepted : Accepted first pulses) {prevActive : Nat}
    (before : prevActive ≤ if first then tp7RxMax else tp2RxMax) {rx : Rx} {nbits : Nat}
    {bits : List Bool} (has : rx.data.Has nbits bits) :
    ∃ nbits', (decodeBody rx nbits false first prevActive (train prevActive pulses ++ ending)).data.Has
      nbits' ((bits ++ pulses.map Completed.one).take (8 * maxFrame)) := by
  induction pulses generalizing first prevActive rx nbits bits with
  | nil =>
      refine ⟨nbits, ?_⟩
      rw [List.map_nil, List.append_nil, List.take_of_length_le has.room]
      have stop : decodeBody rx nbits false first prevActive (train prevActive [] ++ ending) =
          finish rx nbits := by
        rcases ended with rfl | ⟨us, rfl⟩
        · rfl
        · change decodeBody rx nbits false first prevActive [⟨passive, us⟩] = _
          unfold decodeBody
          split
          · rfl
          · rfl
      rw [stop, (finish_kept rx nbits).data]
      exact has
  | cons pulse pulses ih =>
      obtain ⟨inside, rest⟩ := accepted
      have shorter := inside.lt before
      have active : pulse.activeUs ≠ 0 := fun none =>
        absurd inside.1 (by rw [none]; decide)
      rw [train, List.cons_append, List.cons_append, decodeBody, if_neg (by dsimp only; omega),
        if_neg (fun differs => differs rfl), if_neg active]
      dsimp only
      rw [Nat.add_sub_cancel' (Nat.le_of_lt shorter), takeCell_inside inside,
        takeBit_inside inside.1 inside.2.1]
      by_cases room : bits.length < 8 * maxFrame
      · obtain ⟨field, nbits', pushed, has'⟩ := has.pushBit room (pulse.activeUs < bitSplit)
        rw [pushed]
        rw [List.map_cons, List.append_cons]
        exact ih rest inside.2.1 has'
      · have full := Nat.le_antisymm has.room (Nat.not_lt.mp room)
        rw [has.pushBit_none full]
        refine ⟨nbits, ?_⟩
        rw [List.take_append_of_le_length (Nat.le_of_eq full.symm), ← full, List.take_length]
        exact has

theorem decodePulses_sof {sof : Completed} (opened : sof.IsSof) (rest : List Pulse) :
    decodePulses (⟨active, sof.activeUs⟩ :: rest) =
      decodeBody { status := .ok, lastActiveUs := sof.activeUs } 0 false true sof.activeUs rest := by
  obtain ⟨least, most⟩ := opened
  have bounds : tp2RxMax = 18 ∧ tp7RxMin = 27 := ⟨rfl, rfl⟩
  have sort : classifyActive sof.activeUs = .sof := by
    rw [classifyActive, if_neg (by omega), if_pos ⟨least, most⟩]
  rw [decodePulses, if_neg (by dsimp only; omega), if_neg (fun differs => differs rfl)]
  simp only [sort]

/-- The streaming decoder has, after every pulse, the bytes that the capture decoder reads from the
same pulses, and finds those that could be answered; a pulse outside its windows ends the reception
until the next start of frame. -/
theorem stream_agrees (s : Stream) (sof : Completed) (opened : sof.IsSof)
    (pulses : List Completed) (accepted : Accepted true pulses) :
    (∀ (sym : List Symbol) (idle ending : List Pulse), (∀ pulse ∈ idle, pulse.level = passive) →
      (ending = [] ∨ ∃ us, ending = [⟨passive, us⟩]) →
      captured sym = idle ++ ⟨active, sof.activeUs⟩ :: train sof.activeUs pulses ++ ending →
      (s.run (sof :: pulses)).1.len = (decode sym).data.len ∧
        (s.run (sof :: pulses)).1.data.take (s.run (sof :: pulses)).1.len =
          (decode sym).data.bytes.take (decode sym).data.len) ∧
      ((s.run (sof :: pulses)).2 = true ↔
        pulses.length % 8 = 0 ∧ 4 ≤ (s.run (sof :: pulses)).1.len ∧
          (s.run (sof :: pulses)).1.len < maxFrame ∧
          crcCheck ((s.run (sof :: pulses)).1.data.take (s.run (sof :: pulses)).1.len) = true) ∧
      ∀ (outside : Completed) (others : List Completed), ¬outside.InWindows pulses.isEmpty →
        (∀ pulse ∈ outside :: others, ¬pulse.IsSof) →
        (s.run (sof :: pulses ++ outside :: others)).2 = false := by
  have follows := s.run_follows opened accepted
  refine ⟨fun sym idle ending quiet ended capture => ?_, ?_, fun outside others out none => ?_⟩
  · have timed : ∀ pulse ∈ idle, pulse.us ≠ 0 := by
      intro pulse member
      have kept : pulse ∈ captured sym := by
        rw [capture, List.append_assoc]
        exact List.mem_append_left _ member
      simpa using List.all_eq_true.1 List.all_takeWhile pulse kept
    have result : decode sym =
        decodeBody { status := .ok, lastActiveUs := sof.activeUs } 0 false true sof.activeUs
          (train sof.activeUs pulses ++ ending) := by
      rw [decode, ← decodePulses_takeWhile]
      change decodePulses (captured sym) = _
      rw [capture, List.append_assoc, decodePulses_idle quiet timed]
      exact decodePulses_sof opened _
    have none : ({ status := .ok, lastActiveUs := sof.activeUs } : Rx).data.Has 0 [] :=
      Field.Has.empty
    obtain ⟨nbits, has⟩ := decodeBody_accepted ended pulses accepted opened.2 none
    rw [result, has.whole, has.len]
    exact ⟨follows.got.len, follows.got.whole⟩
  · rw [follows.answer, Stream.Answerable, List.length_map]
  · rw [List.forall_mem_cons] at none
    have ends := follows.got.pulse_outside (by rwa [List.isEmpty_map]) none.1
    rw [Stream.run, List.foldl_append, List.foldl_cons]
    exact Stream.run_invalid ends.1 ends.2 none.2

/-- The pulses of a frame at their nominal widths. -/
def framePulses (data : List UInt8) : List Completed :=
  (frameBits data).zipIdx.map fun bit =>
    { activeUs := (bitCell bit.1).duration0, edgeUs := if bit.2 = 0 then tp4Nom else tp3Nom }

/-- A request that is to be answered. -/
def request : List UInt8 :=
  [0x61, 0x6A, 0xF1, crc [0x61, 0x6A, 0xF1]]

theorem stream_agrees_request :
    (({} : Stream).run (⟨tp7Nom, 0⟩ :: framePulses request)).1.len =
        (decode (cells request)).data.len ∧
      ((({} : Stream).run (⟨tp7Nom, 0⟩ :: framePulses request)).2 = true ↔
        (framePulses request).length % 8 = 0 ∧
          4 ≤ (({} : Stream).run (⟨tp7Nom, 0⟩ :: framePulses request)).1.len ∧
          (({} : Stream).run (⟨tp7Nom, 0⟩ :: framePulses request)).1.len < maxFrame ∧
          crcCheck ((({} : Stream).run (⟨tp7Nom, 0⟩ :: framePulses request)).1.data.take
            (({} : Stream).run (⟨tp7Nom, 0⟩ :: framePulses request)).1.len) = true) ∧
      (({} : Stream).run (⟨tp7Nom, 0⟩ :: framePulses request ++ [⟨tp1Nom, tp4Nom⟩])).2 = false := by
  have agrees := stream_agrees {} ⟨tp7Nom, 0⟩ (by decide) (framePulses request) (by decide +kernel)
  refine ⟨?_, agrees.2.1, agrees.2.2 _ [] (by decide +kernel) (by decide)⟩
  refine (agrees.1 (cells request) [] [⟨passive, tp3Nom - tp1Nom⟩] (by decide) ?_ ?_).1
  · exact Or.inr ⟨_, rfl⟩
  · decide +kernel

end OpenDiag.J1850.Pwm
