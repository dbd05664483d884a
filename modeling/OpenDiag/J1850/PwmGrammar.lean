import Mathlib.Data.List.Induction
import OpenDiag.J1850.Bits
import OpenDiag.J1850.PwmCodec

/-!
# The language of PWM captures

A grammar of the captures that are a frame, with or without a response, and of those that are a
response alone. A cell is the interval between two rising edges, so that a width counts twice: an
active phase tells a bit by itself, and together with the passive phase behind it the place of the
next one. The decoder takes the captures of the grammar, and no others; it returns their bytes, and
the widths that it reports are those of the response.
-/

namespace OpenDiag.J1850.Pwm

/-! ## The grammar -/

/-- The active phases of bits. -/
def bitWindow : Nat × Nat := (tp1RxMin, tp2RxMax)

/-- The gap between the rising edges of two bits. -/
def cellWindow : Nat × Nat := (tp3RxMin, tp3RxMax)

/-- The gap between the rising edges of a start of frame and the first bit. -/
def sofWindow : Nat × Nat := (tp4RxMin, tp4RxMax)

/-- The gap before a response: an end of data that is not yet the end of the frame. -/
def eodWindow : Nat × Nat := (tp4RxMin, tp5RxMin - 1)

/-- The bit that an active phase tells. -/
def isOne (us : Nat) : Bool :=
  us < bitSplit

/-- The bytes that some active phases tell. -/
def told (widths : List Nat) : List UInt8 :=
  octets (widths.map isOne)

/-- They tell whole bytes, as many as a field holds. -/
structure Whole (widths : List Nat) : Prop where
  whole : widths.length % 8 = 0
  short : widths.length ≤ 8 * maxFrame

/-- A train of cells behind an active phase, from the widths of their own active phases. The level
of the pulse that ends an interval is not looked at. -/
inductive Carries : Nat → List Nat → List Pulse → Prop where
  | nil (before : Nat) : Carries before [] []
  | cons {before fall us : Nat} {level : Level} {widths : List Nat} {run : List Pulse}
    (gap : Within cellWindow (before + fall)) (phase : Within bitWindow us)
    (rest : Carries us widths run) :
    Carries before (us :: widths) (⟨passive, fall⟩ :: ⟨level, us⟩ :: run)

/-- A train of cells whose first bit is at a gap of its own. -/
inductive Begins : Nat → Nat → List Nat → List Pulse → Prop where
  | intro {before fall us : Nat} {level : Level} {widths : List Nat} {run : List Pulse}
    (phase : Within bitWindow us) (rest : Carries us widths run) :
    Begins (before + fall) before (us :: widths) (⟨passive, fall⟩ :: ⟨level, us⟩ :: run)

/-- The capture ends behind an active phase, or the next rising edge is late. -/
inductive Closing (least last : Nat) : List Pulse → Prop where
  | capture : Closing least last []
  | fall (us : Nat) : Closing least last [⟨passive, us⟩]
  | late {fall us : Nat} {level : Level} (rest : List Pulse) (gap : least ≤ last + fall) :
    Closing least last (⟨passive, fall⟩ :: ⟨level, us⟩ :: rest)

/-- What is behind the data of a frame: the gap before the response and its active phases. -/
inductive DataEnd (last : Nat) : List Pulse → Option Nat → List Nat → Prop where
  | closing {rest : List Pulse} (closing : Closing tp5RxMin last rest) : DataEnd last rest none []
  | response {gap : Nat} {widths : List Nat} {run rest : List Pulse} (late : Within eodWindow gap)
    (begins : Begins gap last widths run) (whole : Whole widths)
    (closing : Closing tp4RxMin (widths.getLastD last) rest) :
    DataEnd last (run ++ rest) (some gap) widths

/-- A start of frame, whole bytes, and what is behind them. -/
inductive FrameTrain : List Pulse → List Nat → Option Nat → List Nat → Prop where
  | intro {idle run rest : List Pulse} {us first : Nat} {widths answer : List Nat} {gap : Option Nat}
    (quiet : ∀ pulse ∈ idle, pulse.level = passive) (sof : Within (tp7RxMin, tp7RxMax) us)
    (placed : Within sofWindow first) (begins : Begins first us widths run) (whole : Whole widths)
    (ended : DataEnd (widths.getLastD us) rest gap answer) :
    FrameTrain (idle ++ ⟨active, us⟩ :: (run ++ rest)) widths gap answer

/-- A frame has two bytes at least, the last of which is the CRC of the others. -/
structure IsFrame (train : List Pulse) (widths : List Nat) (gap : Option Nat) (answer : List Nat) :
    Prop where
  train : FrameTrain train widths gap answer
  two : 2 ≤ (told widths).length
  checked : (told widths).getLastD 0 = crc (told widths).dropLast

/-- Whole bytes that begin with the capture, one at least, and what ends them. -/
inductive IsResponse : List Pulse → List Nat → Prop where
  | intro {idle run rest : List Pulse} {us : Nat} {widths : List Nat}
    (quiet : ∀ pulse ∈ idle, pulse.level = passive) (phase : Within bitWindow us)
    (carries : Carries us widths run) (whole : Whole (us :: widths))
    (closing : Closing tp4RxMin ((us :: widths).getLastD 0) rest) :
    IsResponse (idle ++ ⟨active, us⟩ :: (run ++ rest)) (us :: widths)

/-! ## Widths -/

/-- A range of widths: of none it is zero. -/
structure Spans (least most : Nat) (widths : List Nat) : Prop where
  none : widths = [] → least = 0 ∧ most = 0
  low : widths ≠ [] → least ∈ widths
  high : widths ≠ [] → most ∈ widths
  between : ∀ us ∈ widths, least ≤ us ∧ us ≤ most

/-- The ranges that are reported are those of some active phases. -/
structure Measures (rx : Rx) (widths : List Nat) : Prop where
  ones : Spans rx.ifrOneMinUs rx.ifrOneMaxUs (widths.filter isOne)
  zeros : Spans rx.ifrZeroMinUs rx.ifrZeroMaxUs (widths.filter fun us => !isOne us)

theorem Spans.empty : Spans 0 0 [] :=
  ⟨fun _ => ⟨rfl, rfl⟩, fun wrong => absurd rfl wrong, fun wrong => absurd rfl wrong, nofun⟩

/-- A width widens the range. -/
theorem Spans.widen {least most : Nat} {widths : List Nat} (spans : Spans least most widths)
    (us : Nat) (timed : ∀ width ∈ widths ++ [us], width ≠ 0) :
    Spans (if least = 0 ∨ us < least then us else least) (if us > most then us else most)
      (widths ++ [us]) := by
  refine ⟨fun wrong => ?_, fun _ => ?_, fun _ => ?_, ?_⟩
  · cases List.append_ne_nil_of_right_ne_nil widths (List.cons_ne_nil us []) wrong
  · split
    · exact List.mem_append_right _ List.mem_cons_self
    · rename_i kept
      apply List.mem_append_left
      apply spans.low
      rintro rfl
      exact kept (.inl (spans.none rfl).1)
  · split
    · exact List.mem_append_right _ List.mem_cons_self
    · rename_i kept
      apply List.mem_append_left
      apply spans.high
      rintro rfl
      have zero := (spans.none rfl).2
      have here := timed us List.mem_cons_self
      omega
  · intro width member
    rcases List.mem_append.1 member with before | here
    · have inside := spans.between width before
      have lowest := spans.low (List.ne_nil_of_mem before)
      have positive := timed least (List.mem_append_left _ lowest)
      split <;> split <;> omega
    · obtain rfl := List.mem_singleton.1 here
      split <;> split <;> omega

/-! ## The field that is received -/

def Rx.field (rx : Rx) (inIfr : Bool) : Field :=
  if inIfr then rx.ifr else rx.data

def Rx.withField (rx : Rx) (inIfr : Bool) (field : Field) : Rx :=
  if inIfr then { rx with ifr := field } else { rx with data := field }

/-- What else is recorded of the active phase of a bit. -/
def Rx.note (inIfr : Bool) (rx : Rx) (us : Nat) : Rx :=
  { (if inIfr then rx.measure (isOne us) us else rx) with lastActiveUs := us }

@[simp] theorem field_withField (rx : Rx) (inIfr : Bool) (field : Field) :
    (rx.withField inIfr field).field inIfr = field := by
  cases inIfr <;> rfl

@[simp] theorem withField_withField (rx : Rx) (inIfr : Bool) (field field' : Field) :
    (rx.withField inIfr field).withField inIfr field' = rx.withField inIfr field' := by
  cases inIfr <;> rfl

@[simp] theorem withField_field (rx : Rx) (inIfr : Bool) :
    rx.withField inIfr (rx.field inIfr) = rx := by
  cases inIfr <;> rfl

theorem measure_withField (rx : Rx) (inIfr one : Bool) (field : Field) (us : Nat) :
    (rx.withField inIfr field).measure one us = (rx.measure one us).withField inIfr field := by
  cases inIfr <;> cases one <;> rfl

@[simp] theorem note_withField (rx : Rx) (inIfr : Bool) (field : Field) (us : Nat) :
    (rx.withField inIfr field).note inIfr us = (rx.note inIfr us).withField inIfr field := by
  cases inIfr with
  | false => rfl
  | true =>
      rw [Rx.note, if_pos rfl, measure_withField]
      rfl

@[simp] theorem field_note (rx : Rx) (inIfr : Bool) (us : Nat) :
    (rx.note inIfr us).field inIfr = rx.field inIfr := by
  cases inIfr with
  | false => rfl
  | true =>
      unfold Rx.note Rx.measure
      cases isOne us <;> rfl

theorem noted_withField (rx : Rx) (inIfr : Bool) (field : Field) (widths : List Nat) :
    widths.foldl (Rx.note inIfr) (rx.withField inIfr field) =
      (widths.foldl (Rx.note inIfr) rx).withField inIfr field := by
  induction widths generalizing rx with
  | nil => rfl
  | cons us widths ih => rw [List.foldl_cons, note_withField, ih, List.foldl_cons]

/-- What a response does not touch. -/
structure Rx.Same (rx next : Rx) : Prop where
  status : next.status = rx.status
  data : next.data = rx.data
  eod : next.eod = rx.eod
  eodGapUs : next.eodGapUs = rx.eodGapUs

theorem same_noted (rx : Rx) (inIfr : Bool) (widths : List Nat) :
    rx.Same (widths.foldl (Rx.note inIfr) rx) := by
  induction widths generalizing rx with
  | nil => exact ⟨rfl, rfl, rfl, rfl⟩
  | cons us widths ih =>
      obtain ⟨status, data, eod, gap⟩ := ih (rx.note inIfr us)
      have here : rx.Same (rx.note inIfr us) := by
        unfold Rx.note Rx.measure
        cases inIfr <;> cases isOne us <;> exact ⟨rfl, rfl, rfl, rfl⟩
      exact ⟨status.trans here.status, data.trans here.data, eod.trans here.eod,
        gap.trans here.eodGapUs⟩

theorem noted_data (rx : Rx) (widths : List Nat) :
    widths.foldl (Rx.note false) rx =
      { rx with lastActiveUs := widths.getLastD rx.lastActiveUs } := by
  induction widths generalizing rx with
  | nil => rfl
  | cons us widths ih =>
      rw [List.foldl_cons, ih]
      cases widths <;> rfl

theorem lastActiveUs_noted (rx : Rx) (inIfr : Bool) (widths : List Nat) :
    (widths.foldl (Rx.note inIfr) rx).lastActiveUs = widths.getLastD rx.lastActiveUs := by
  induction widths generalizing rx with
  | nil => rfl
  | cons us widths ih =>
      rw [List.foldl_cons, ih]
      cases widths <;> rfl

/-- A receiver that measured nothing before. -/
theorem measures_noted {rx : Rx} (none : Measures rx []) (widths : List Nat)
    (timed : ∀ us ∈ widths, us ≠ 0) : Measures (widths.foldl (Rx.note true) rx) widths := by
  induction widths using List.reverseRecOn with
  | nil => exact none
  | append_singleton widths us ih =>
      have before := ih fun width member => timed width (List.mem_append_left _ member)
      have further (kind : Nat → Bool) : ∀ width ∈ widths.filter kind ++ [us], width ≠ 0 := by
        intro width member
        apply timed
        rw [List.mem_append] at member ⊢
        exact member.imp List.mem_of_mem_filter id
      rw [List.foldl_append]
      generalize widths.foldl (Rx.note true) rx = next at before
      cases bit : isOne us with
      | true =>
          refine ⟨?_, ?_⟩
          · simpa [Rx.note, Rx.measure, bit] using before.ones.widen us (further _)
          · simpa [Rx.note, Rx.measure, bit] using before.zeros
      | false =>
          refine ⟨?_, ?_⟩
          · simpa [Rx.note, Rx.measure, bit] using before.ones
          · simpa [Rx.note, Rx.measure, bit] using before.zeros.widen us (further _)

/-! ## One cell -/

theorem pushBit_eq (rx : Rx) (inIfr : Bool) (nbits : Nat) (one : Bool) :
    rx.pushBit inIfr nbits one =
      ((rx.field inIfr).pushBit nbits one).map fun (field, nbits) =>
        (rx.withField inIfr field, nbits) := by
  cases inIfr <;> rfl

theorem classifyActive_within {us : Nat} (phase : Within bitWindow us) :
    classifyActive us = if isOne us then .one else .zero := by
  rw [classifyActive, if_pos ⟨phase.1, phase.2⟩]
  unfold isOne
  by_cases early : us < bitSplit
  · rw [if_pos early, if_pos (decide_eq_true early)]
  · rw [if_neg early, if_neg (by rw [decide_eq_false early]; decide)]

/-- The active phase of a bit. -/
theorem takeBit_within {us : Nat} (phase : Within bitWindow us) (rx : Rx) (nbits : Nat)
    (inIfr : Bool) :
    (∃ field nbits', (rx.field inIfr).pushBit nbits (isOne us) = some (field, nbits') ∧
        takeBit rx nbits inIfr us = .ok ((rx.note inIfr us).withField inIfr field, nbits', inIfr)) ∨
      (rx.field inIfr).pushBit nbits (isOne us) = none ∧
        ∃ last, takeBit rx nbits inIfr us = .error last ∧ last.status = .tooLong := by
  have sort := classifyActive_within phase
  have value : decide (classifyActive us = .one) = isOne us := by
    rw [sort]
    cases isOne us <;> rfl
  have bit : ¬ (classifyActive us ≠ .one ∧ classifyActive us ≠ .zero) := by
    rw [sort]
    cases isOne us <;> decide
  have measured : ((if inIfr then rx.measure (isOne us) us else rx).field inIfr) =
      rx.field inIfr := field_note rx inIfr us
  unfold takeBit
  dsimp only
  rw [if_neg bit, value, pushBit_eq, measured]
  cases pushed : (rx.field inIfr).pushBit nbits (isOne us) with
  | none => exact .inr ⟨rfl, _, rfl, rfl⟩
  | some next =>
      refine .inl ⟨next.1, next.2, rfl, ?_⟩
      cases inIfr <;> rfl

/-- An active phase is a bit, and the decoder goes on behind it. -/
def Rx.takes (rx : Rx) (nbits : Nat) (inIfr : Bool) (us : Nat) (rest : List Pulse) : Rx :=
  match takeBit rx nbits inIfr us with
  | .error last => last
  | .ok (rx, nbits, inIfr) => decodeBody rx nbits inIfr false us rest

section Cell

variable {rx : Rx} {nbits before fall us : Nat} {level : Level} {inIfr afterSof : Bool}

/-- The decoder on an interval. -/
theorem decodeBody_interval (fell : fall ≠ 0) (rose : us ≠ 0) (rest : List Pulse) :
    decodeBody rx nbits inIfr afterSof before (⟨passive, fall⟩ :: ⟨level, us⟩ :: rest) =
      match takeCell rx nbits inIfr afterSof (before + fall) us with
      | .error last => last
      | .ok (rx, nbits, inIfr) => decodeBody rx nbits inIfr false us rest := by
  rw [decodeBody, if_neg fell, if_neg (fun differs => differs rfl)]
  exact if_neg rose

theorem decodeBody_cell (gap : Within cellWindow (before + fall)) (fell : fall ≠ 0) (rose : us ≠ 0)
    (rest : List Pulse) :
    decodeBody rx nbits inIfr false before (⟨passive, fall⟩ :: ⟨level, us⟩ :: rest) =
      rx.takes nbits inIfr us rest := by
  obtain ⟨least, most⟩ := gap
  have bounds : cellWindow = (tp3RxMin, tp3RxMax) ∧ tp3RxMax = 27 ∧ tp4RxMin = 42 ∧ tp5RxMin = 63 :=
    ⟨rfl, rfl, rfl, rfl⟩
  rw [bounds.1] at least most
  dsimp only at least most
  rw [decodeBody_interval fell rose, takeCell, if_neg (by omega), if_neg Bool.false_ne_true,
    if_neg (by omega), if_neg (by omega)]
  rfl

theorem decodeBody_first (gap : Within sofWindow (before + fall)) (fell : fall ≠ 0) (rose : us ≠ 0)
    (rest : List Pulse) :
    decodeBody rx nbits inIfr true before (⟨passive, fall⟩ :: ⟨level, us⟩ :: rest) =
      rx.takes nbits inIfr us rest := by
  obtain ⟨least, most⟩ := gap
  have bounds : sofWindow = (tp4RxMin, tp4RxMax) ∧ tp4RxMax = 54 ∧ tp5RxMin = 63 :=
    ⟨rfl, rfl, rfl⟩
  rw [bounds.1] at least most
  dsimp only at least most
  rw [decodeBody_interval fell rose, takeCell, if_neg (by omega), if_pos rfl, if_neg (by omega)]
  rfl

theorem decodeBody_eod (gap : Within eodWindow (before + fall)) (fell : fall ≠ 0) (rose : us ≠ 0)
    (rest : List Pulse) :
    decodeBody rx 0 false false before (⟨passive, fall⟩ :: ⟨level, us⟩ :: rest) =
      Rx.takes { rx with eod := true, eodGapUs := before + fall } 0 true us rest := by
  obtain ⟨least, most⟩ := gap
  have bounds : eodWindow = (tp4RxMin, tp5RxMin - 1) ∧ tp5RxMin = 63 := ⟨rfl, rfl⟩
  rw [bounds.1] at least most
  dsimp only at least most
  rw [decodeBody_interval fell rose, takeCell, if_neg (by omega), if_neg Bool.false_ne_true,
    if_pos (by omega), if_neg Bool.false_ne_true, if_neg (fun wrong => wrong rfl)]
  rfl

/-- What closes a field. -/
theorem decodeBody_closing {train : List Pulse}
    (closing : Closing (if inIfr then tp4RxMin else tp5RxMin) before train)
    (timed : ∀ pulse ∈ train, pulse.us ≠ 0) :
    decodeBody rx nbits inIfr false before train = finish rx nbits := by
  cases closing with
  | capture => rfl
  | fall us =>
      rw [decodeBody, if_neg (timed _ List.mem_cons_self), if_neg (fun differs => differs rfl)]
  | @late fall us level rest gap =>
      rw [decodeBody_interval (timed _ List.mem_cons_self)
        (timed _ (List.mem_cons_of_mem _ List.mem_cons_self)), takeCell]
      have bounds : tp4RxMin = 42 ∧ tp5RxMin = 63 := ⟨rfl, rfl⟩
      by_cases ended : before + fall ≥ tp5RxMin
      · rw [if_pos ended]
      · cases inIfr with
        | false => exact absurd gap ended
        | true =>
            rw [if_pos rfl] at gap
            rw [if_neg ended, if_neg Bool.false_ne_true, if_pos gap, if_pos rfl]

end Cell

/-! ## Trains of cells -/

section Run

variable {rx : Rx} {inIfr : Bool} {nbits : Nat} {bits : List Bool}

/-- A bit for which there is room. -/
theorem takes_bit {us : Nat} (phase : Within bitWindow us) (has : (rx.field inIfr).Has nbits bits)
    (room : bits.length < 8 * maxFrame) (rest : List Pulse) :
    ∃ field nbits', field.Has nbits' (bits ++ [isOne us]) ∧
      rx.takes nbits inIfr us rest =
        decodeBody ((rx.note inIfr us).withField inIfr field) nbits' inIfr false us rest := by
  obtain ⟨field, nbits', pushed, has'⟩ := has.pushBit room (isOne us)
  rcases takeBit_within phase rx nbits inIfr with ⟨_, _, pushed', taken⟩ | ⟨none, -⟩
  · cases pushed.symm.trans pushed'
    refine ⟨field, nbits', has', ?_⟩
    rw [Rx.takes, taken]
  · cases pushed.symm.trans none

theorem takes_full {us : Nat} (phase : Within bitWindow us) (has : (rx.field inIfr).Has nbits bits)
    (full : bits.length = 8 * maxFrame) (rest : List Pulse) :
    (rx.takes nbits inIfr us rest).status = .tooLong := by
  have none := has.pushBit_none full (isOne us)
  rcases takeBit_within phase rx nbits inIfr with ⟨_, _, pushed, -⟩ | ⟨-, last, taken, long⟩
  · cases none.symm.trans pushed
  · rw [Rx.takes, taken]
    exact long

/-- The decoder on a train of cells: the bits of twelve bytes fit into the field. -/
theorem decodeBody_run {before : Nat} {widths : List Nat} {run : List Pulse}
    (carries : Carries before widths run) (has : (rx.field inIfr).Has nbits bits)
    (room : bits.length + widths.length ≤ 8 * maxFrame) (timed : ∀ pulse ∈ run, pulse.us ≠ 0)
    (rest : List Pulse) :
    ∃ field nbits', field.Has nbits' (bits ++ widths.map isOne) ∧
      decodeBody rx nbits inIfr false before (run ++ rest) =
        decodeBody ((widths.foldl (Rx.note inIfr) rx).withField inIfr field) nbits' inIfr false
          (widths.getLastD before) rest := by
  induction carries generalizing rx nbits bits with
  | nil before =>
      refine ⟨rx.field inIfr, nbits, by rwa [List.map_nil, List.append_nil], ?_⟩
      rw [List.foldl_nil, withField_field]
      rfl
  | @cons before fall us level widths run gap phase carries ih =>
      rw [List.length_cons] at room
      rw [List.forall_mem_cons, List.forall_mem_cons] at timed
      obtain ⟨fell, rose, timed⟩ := timed
      obtain ⟨field, nbits', has', taken⟩ := takes_bit phase has (by omega) (run ++ rest)
      have next : (((rx.note inIfr us).withField inIfr field).field inIfr).Has nbits'
          (bits ++ [isOne us]) := by
        rwa [field_withField]
      obtain ⟨last, count, has'', done⟩ := ih next (by
        rw [List.length_append, List.length_singleton]
        omega) timed
      refine ⟨last, count, by rwa [List.append_assoc] at has'', ?_⟩
      rw [List.cons_append, List.cons_append, decodeBody_cell gap fell rose, taken, done,
        noted_withField, withField_withField]
      cases widths <;> rfl

/-- More bits than those of twelve bytes do not. -/
theorem decodeBody_run_full {before : Nat} {widths : List Nat} {run : List Pulse}
    (carries : Carries before widths run) (has : (rx.field inIfr).Has nbits bits)
    (full : 8 * maxFrame < bits.length + widths.length) (timed : ∀ pulse ∈ run, pulse.us ≠ 0)
    (rest : List Pulse) :
    (decodeBody rx nbits inIfr false before (run ++ rest)).status = .tooLong := by
  induction carries generalizing rx nbits bits with
  | nil before => exact absurd full (Nat.not_lt.2 has.room)
  | @cons before fall us level widths run gap phase carries ih =>
      rw [List.length_cons] at full
      rw [List.forall_mem_cons, List.forall_mem_cons] at timed
      obtain ⟨fell, rose, timed⟩ := timed
      rw [List.cons_append, List.cons_append, decodeBody_cell gap fell rose]
      by_cases room : bits.length < 8 * maxFrame
      · obtain ⟨field, nbits', has', taken⟩ := takes_bit phase has room (run ++ rest)
        rw [taken]
        apply ih _ _ timed
        · exact bits ++ [isOne us]
        · rwa [field_withField]
        · rw [List.length_append, List.length_singleton]
          omega
      · exact takes_full phase has (Nat.le_antisymm has.room (Nat.not_lt.1 room)) _

end Run

/-- A train does not begin with the cell of a bit. -/
def Stops (before : Nat) : List Pulse → Prop
  | fall :: rise :: _ =>
    fall.level = passive → Within cellWindow (before + fall.us) → ¬ Within bitWindow rise.us
  | _ => True

/-- Every train is a run of cells and a rest that does not begin with one. -/
theorem exists_carries (before : Nat) : ∀ train : List Pulse,
    ∃ widths run rest, train = run ++ rest ∧ Carries before widths run ∧
      Stops (widths.getLastD before) rest
  | [] => ⟨[], [], [], rfl, .nil before, trivial⟩
  | [fall] => ⟨[], [], [fall], rfl, .nil before, trivial⟩
  | fall :: rise :: train => by
      by_cases cell : fall.level = passive ∧ Within cellWindow (before + fall.us) ∧
          Within bitWindow rise.us
      · obtain ⟨level, gap, phase⟩ := cell
        obtain ⟨widths, run, rest, rfl, carries, stops⟩ := exists_carries rise.us train
        obtain ⟨fallLevel, fallUs⟩ := fall
        obtain rfl : fallLevel = passive := level
        refine ⟨rise.us :: widths, ⟨passive, fallUs⟩ :: rise :: run, rest, rfl,
          .cons gap phase carries, ?_⟩
        cases widths <;> exact stops
      · refine ⟨[], [], fall :: rise :: train, rfl, .nil before, ?_⟩
        intro level gap phase
        exact cell ⟨level, gap, phase⟩

/-! ## Soundness -/

/-- There is neither a frame nor a response. -/
def Rx.Failed (rx : Rx) : Prop :=
  rx.status ≠ .ok ∧ rx.status ≠ .ifrOnly

theorem failed_of_status (status : RxStatus) {rx : Rx} (reported : rx.status = status)
    (bad : status ≠ .ok ∧ status ≠ .ifrOnly) : rx.Failed := by
  rwa [Rx.Failed, reported]

/-- A byte that is begun is no frame. -/
theorem finish_begun (rx : Rx) {nbits : Nat} (begun : nbits ≠ 0) : (finish rx nbits).Failed := by
  rw [finish, if_pos begun]
  exact failed_of_status .framing rfl (by decide)

theorem finish_empty {rx : Rx} (ok : rx.status = .ok) (none : rx.data.len = 0) (nbits : Nat) :
    (finish rx nbits).Failed := by
  by_cases begun : nbits ≠ 0
  · exact finish_begun rx begun
  · rw [finish, if_neg begun, if_neg (by rw [ok]; decide), if_pos (by rw [none]; decide)]
    exact failed_of_status .short rfl (by decide)

/-- An active phase that is not one of a bit. -/
theorem takes_outside {us : Nat} (outside : ¬ Within bitWindow us) (rx : Rx) (nbits : Nat)
    (inIfr : Bool) (rest : List Pulse) : (rx.takes nbits inIfr us rest).Failed := by
  have other : ¬ (us ≥ tp1RxMin ∧ us ≤ tp2RxMax) := fun inside => outside inside
  have sort : classifyActive us ≠ .one ∧ classifyActive us ≠ .zero := by
    unfold classifyActive
    rw [if_neg other]
    split
    · exact ⟨by decide, by decide⟩
    · split
      · exact ⟨by decide, by decide⟩
      · exact ⟨by decide, by decide⟩
  have taken : takeBit rx nbits inIfr us =
      .error { rx with
        status := if classifyActive us = .invalid then .badSymbol else .badTiming } := by
    unfold takeBit
    dsimp only
    rw [if_pos sort]
  rw [Rx.takes, taken]
  dsimp only
  by_cases invalid : classifyActive us = .invalid
  · rw [if_pos invalid]
    exact failed_of_status .badSymbol rfl (by decide)
  · rw [if_neg invalid]
    exact failed_of_status .badTiming rfl (by decide)

/-- What ends a field. -/
inductive Ends (rx : Rx) (nbits : Nat) (inIfr : Bool) (before : Nat) : List Pulse → Rx → Prop where
  | closed {train : List Pulse}
    (closing : Closing (if inIfr then tp4RxMin else tp5RxMin) before train) :
    Ends rx nbits inIfr before train (finish rx nbits)
  | answered {fall us : Nat} {level : Level} (rest : List Pulse) (data : inIfr = false)
    (whole : nbits = 0) (gap : Within eodWindow (before + fall)) (phase : Within bitWindow us) :
    Ends rx nbits inIfr before (⟨passive, fall⟩ :: ⟨level, us⟩ :: rest)
      (Rx.takes { rx with eod := true, eodGapUs := before + fall } 0 true us rest)
  | failed {train : List Pulse} {last : Rx} (failed : last.Failed) :
    Ends rx nbits inIfr before train last

/-- What is not a cell ends a field. -/
theorem decodeBody_stops (rx : Rx) (nbits : Nat) (inIfr : Bool) {before : Nat} {train : List Pulse}
    (stops : Stops before train) (timed : ∀ pulse ∈ train, pulse.us ≠ 0) :
    Ends rx nbits inIfr before train (decodeBody rx nbits inIfr false before train) := by
  have bounds : tp3RxMin = 21 ∧ tp3RxMax = 27 ∧ tp4RxMin = 42 ∧ tp5RxMin = 63 :=
    ⟨rfl, rfl, rfl, rfl⟩
  match train with
  | [] => exact .closed .capture
  | [⟨level, fall⟩] =>
      by_cases passive' : level = passive
      · subst passive'
        have closing : Closing (if inIfr then tp4RxMin else tp5RxMin) before [⟨passive, fall⟩] :=
          .fall fall
        rw [decodeBody_closing closing timed]
        exact .closed closing
      · rw [decodeBody, if_neg (timed _ List.mem_cons_self), if_pos passive']
        exact .failed (failed_of_status .badSymbol rfl (by decide))
  | ⟨fallLevel, fall⟩ :: ⟨level, us⟩ :: rest =>
      have fell : fall ≠ 0 := timed _ List.mem_cons_self
      have rose : us ≠ 0 := timed _ (List.mem_cons_of_mem _ List.mem_cons_self)
      by_cases passive' : fallLevel = passive
      · subst passive'
        by_cases closed : (if inIfr then tp4RxMin else tp5RxMin) ≤ before + fall
        · have closing : Closing (if inIfr then tp4RxMin else tp5RxMin) before
              (⟨passive, fall⟩ :: ⟨level, us⟩ :: rest) := .late rest closed
          rw [decodeBody_closing closing timed]
          exact .closed closing
        · by_cases late : tp4RxMin ≤ before + fall
          · cases inIfr with
            | true => exact absurd late closed
            | false =>
                rw [if_neg Bool.false_ne_true] at closed
                by_cases whole : nbits = 0
                · subst whole
                  have gap : Within eodWindow (before + fall) := ⟨late, by
                    change before + fall ≤ tp5RxMin - 1
                    omega⟩
                  rw [decodeBody_eod gap fell rose]
                  by_cases phase : Within bitWindow us
                  · exact .answered rest rfl rfl gap phase
                  · exact .failed (takes_outside phase _ _ _ _)
                · rw [decodeBody_interval fell rose, takeCell, if_neg closed,
                    if_neg Bool.false_ne_true, if_pos late, if_neg Bool.false_ne_true, if_pos whole]
                  exact .failed (failed_of_status .framing rfl (by decide))
          · by_cases gap : Within cellWindow (before + fall)
            · rw [decodeBody_cell gap fell rose]
              exact .failed (takes_outside (stops rfl gap) _ _ _ _)
            · have outside : before + fall < tp3RxMin ∨ before + fall > tp3RxMax := by
                by_contra inside
                rw [not_or, Nat.not_lt, Nat.not_lt] at inside
                exact gap inside
              rw [decodeBody_interval fell rose, takeCell, if_neg (by omega),
                if_neg Bool.false_ne_true, if_neg late, if_pos outside]
              exact .failed (failed_of_status .badTiming rfl (by decide))
      · rw [decodeBody, if_neg fell, if_pos passive']
        exact .failed (failed_of_status .badSymbol rfl (by decide))

/-- A train of cells and what ends it, or no frame. -/
theorem decodeBody_sound {rx : Rx} {inIfr : Bool} {nbits : Nat} {bits : List Bool}
    (has : (rx.field inIfr).Has nbits bits) (before : Nat) {train : List Pulse}
    (timed : ∀ pulse ∈ train, pulse.us ≠ 0) :
    (decodeBody rx nbits inIfr false before train).Failed ∨
      ∃ widths run rest next, train = run ++ rest ∧ Carries before widths run ∧
        bits.length + widths.length ≤ 8 * maxFrame ∧ (inIfr = false → next.ifr = rx.ifr) ∧
        Ends next ((bits.length + widths.length) % 8) inIfr (widths.getLastD before) rest
          (decodeBody rx nbits inIfr false before train) := by
  obtain ⟨widths, run, rest, rfl, carries, stops⟩ := exists_carries before train
  have timedRun : ∀ pulse ∈ run, pulse.us ≠ 0 := fun pulse member =>
    timed pulse (List.mem_append_left _ member)
  by_cases room : bits.length + widths.length ≤ 8 * maxFrame
  · right
    obtain ⟨field, nbits', has', read⟩ := decodeBody_run carries has room timedRun rest
    have count : nbits' = (bits.length + widths.length) % 8 := by
      rw [has'.count, List.length_append, List.length_map]
    refine ⟨widths, run, rest, (widths.foldl (Rx.note inIfr) rx).withField inIfr field, rfl,
      carries, room, fun data => ?_, ?_⟩
    · subst data
      rw [noted_data]
      rfl
    · rw [read, count]
      exact decodeBody_stops _ _ _ stops fun pulse member =>
        timed pulse (List.mem_append_right _ member)
  · left
    exact failed_of_status .tooLong
      (decodeBody_run_full carries has (Nat.not_le.1 room) timedRun rest) (by decide)

/-- The cells of a response, from the bit at its beginning. -/
theorem decodeBody_answer {rx : Rx} {nbits : Nat} {one : Bool}
    (has : (rx.field true).Has nbits [one])
    (us : Nat) {train : List Pulse} (timed : ∀ pulse ∈ train, pulse.us ≠ 0) :
    (decodeBody rx nbits true false us train).Failed ∨
      ∃ widths run rest, train = run ++ rest ∧ Carries us widths run ∧ Whole (us :: widths) ∧
        Closing tp4RxMin (widths.getLastD us) rest := by
  rcases decodeBody_sound has us timed with
    failed | ⟨widths, run, rest, next, rfl, carries, room, -, ends⟩
  · exact .inl failed
  · rw [List.length_singleton, Nat.add_comm] at room ends
    generalize decodeBody rx nbits true false us (run ++ rest) = last at ends
    cases ends with
    | closed closing =>
        by_cases whole : (widths.length + 1) % 8 = 0
        · exact .inr ⟨widths, run, rest, rfl, carries, ⟨whole, room⟩, closing⟩
        · exact .inl (finish_begun next whole)
    | answered rest data => cases data
    | failed failed => exact .inl failed

/-- The cells of the data, from the first bit on, and what is behind them. -/
theorem decodeBody_data {rx : Rx} {nbits : Nat} {one : Bool}
    (has : (rx.field false).Has nbits [one]) (ifr : rx.ifr = {}) (us : Nat) {train : List Pulse}
    (timed : ∀ pulse ∈ train, pulse.us ≠ 0) :
    (decodeBody rx nbits false false us train).Failed ∨
      ∃ widths run rest gap answer, train = run ++ rest ∧ Carries us widths run ∧
        Whole (us :: widths) ∧ DataEnd (widths.getLastD us) rest gap answer := by
  rcases decodeBody_sound has us timed with failed | ⟨widths, run, rest, next, rfl, carries, room,
    kept, ends⟩
  · exact .inl failed
  · rw [List.length_singleton, Nat.add_comm] at room ends
    have later : ∀ pulse ∈ rest, pulse.us ≠ 0 := fun pulse member =>
      timed pulse (List.mem_append_right _ member)
    generalize decodeBody rx nbits false false us (run ++ rest) = last at ends
    cases ends with
    | closed closing =>
        by_cases whole : (widths.length + 1) % 8 = 0
        · exact .inr ⟨widths, run, rest, none, [], rfl, carries, ⟨whole, room⟩, .closing closing⟩
        · exact .inl (finish_begun next whole)
    | @answered fall width level rest _ whole gap phase =>
        have empty : (({ next with eod := true, eodGapUs := widths.getLastD us + fall } : Rx).field
            true).Has 0 [] := by
          change next.ifr.Has 0 []
          rw [kept rfl, ifr]
          exact .empty
        obtain ⟨field, count, has', taken⟩ := takes_bit phase empty (by decide) rest
        have held : ((Rx.withField (Rx.note true { next with
            eod := true, eodGapUs := widths.getLastD us + fall } width) true field).field true).Has
            count [isOne width] := by
          rwa [field_withField]
        rw [taken]
        rcases decodeBody_answer held width (fun pulse member =>
          later pulse (List.mem_cons_of_mem _ (List.mem_cons_of_mem _ member))) with
          failed | ⟨more, run', rest', rfl, carries', whole', closing⟩
        · exact .inl failed
        · right
          refine ⟨widths, run, _, some (widths.getLastD us + fall), width :: more, rfl, carries,
            ⟨whole, room⟩, .response gap (.intro phase carries') whole' ?_⟩
          cases more <;> exact closing
    | failed failed => exact .inl failed

/-- A frame behind a start of frame. -/
theorem decodeBody_frame {us : Nat} {train : List Pulse} (timed : ∀ pulse ∈ train, pulse.us ≠ 0)
    {rx : Rx} (ok : rx.status = .ok) (data : rx.data = {}) (ifr : rx.ifr = {}) :
    (decodeBody rx 0 false true us train).Failed ∨
      ∃ widths run rest first gap answer, train = run ++ rest ∧ Within sofWindow first ∧
        Begins first us widths run ∧ Whole widths ∧
          DataEnd (widths.getLastD us) rest gap answer := by
  have none : rx.data.len = 0 := by rw [data]
  match train with
  | [] => exact .inl (finish_empty ok none 0)
  | [⟨level, fall⟩] =>
      left
      rw [decodeBody, if_neg (timed _ List.mem_cons_self)]
      split
      · exact failed_of_status .badSymbol rfl (by decide)
      · exact finish_empty ok none 0
  | ⟨fallLevel, fall⟩ :: ⟨level, width⟩ :: train =>
      have fell : fall ≠ 0 := timed _ List.mem_cons_self
      have rose : width ≠ 0 := timed _ (List.mem_cons_of_mem _ List.mem_cons_self)
      by_cases passive' : fallLevel = passive
      · subst passive'
        by_cases placed : Within sofWindow (us + fall)
        · rw [decodeBody_first placed fell rose]
          by_cases phase : Within bitWindow width
          · have empty : (rx.field false).Has 0 [] := by
              rw [show rx.field false = {} from data]
              exact .empty
            obtain ⟨field, nbits, has, taken⟩ := takes_bit phase empty (by decide) train
            have held : (((rx.note false width).withField false field).field false).Has nbits
                [isOne width] := by
              rwa [field_withField]
            rw [taken]
            rcases decodeBody_data held ifr width (fun pulse member =>
              timed pulse (List.mem_cons_of_mem _ (List.mem_cons_of_mem _ member))) with
              failed | ⟨widths, run, rest, gap, answer, rfl, carries, whole, ended⟩
            · exact .inl failed
            · right
              refine ⟨width :: widths, _, rest, us + fall, gap, answer, rfl, placed,
                .intro phase carries, whole, ?_⟩
              cases widths <;> exact ended
          · exact .inl (takes_outside phase _ _ _ _)
        · left
          rw [decodeBody_interval fell rose, takeCell]
          by_cases ended : us + fall ≥ tp5RxMin
          · rw [if_pos ended]
            exact finish_empty ok none 0
          · have outside : us + fall < tp4RxMin ∨ us + fall > tp4RxMax := by
              by_contra inside
              rw [not_or, Nat.not_lt, Nat.not_lt] at inside
              exact placed inside
            rw [if_neg ended, if_pos rfl, if_pos outside]
            exact failed_of_status .badTiming rfl (by decide)
      · left
        rw [decodeBody, if_neg fell, if_pos passive']
        exact failed_of_status .badSymbol rfl (by decide)

/-! ## The opening pulse -/

theorem classifyActive_sof {us : Nat} :
    classifyActive us = .sof ↔ Within (tp7RxMin, tp7RxMax) us := by
  have bounds : tp2RxMax = 18 ∧ tp7RxMin = 27 := ⟨rfl, rfl⟩
  unfold classifyActive
  constructor
  · intro sof
    split at sof
    · split at sof <;> cases sof
    · split at sof
      · assumption
      · split at sof <;> cases sof
  · rintro ⟨least, most⟩
    dsimp only at least most
    rw [if_neg (by omega), if_pos ⟨least, most⟩]

theorem within_of_bit {us : Nat} (bit : classifyActive us = .one ∨ classifyActive us = .zero) :
    Within bitWindow us := by
  by_contra outside
  have other : ¬ (us ≥ tp1RxMin ∧ us ≤ tp2RxMax) := outside
  unfold classifyActive at bit
  rw [if_neg other] at bit
  split at bit
  · rcases bit with wrong | wrong <;> cases wrong
  · split at bit
    · rcases bit with wrong | wrong <;> cases wrong
    · rcases bit with wrong | wrong <;> cases wrong

theorem decodePulses_start {us : Nat} (sof : Within (tp7RxMin, tp7RxMax) us) (rest : List Pulse) :
    decodePulses (⟨active, us⟩ :: rest) =
      decodeBody { status := .ok, lastActiveUs := us } 0 false true us rest := by
  have timed : us ≠ 0 := Nat.ne_of_gt (Nat.lt_of_lt_of_le (by decide) sof.1)
  rw [decodePulses, if_neg timed, if_neg (fun differs => differs rfl), classifyActive_sof.2 sof]

/-- The first bit of a response alone: its width is not among those that are measured. -/
theorem decodePulses_bit {us : Nat} (phase : Within bitWindow us) (rest : List Pulse) :
    ∃ field : Field, field.Has 1 [isOne us] ∧ decodePulses (⟨active, us⟩ :: rest) =
      decodeBody { status := .ifrOnly, ifr := field, lastActiveUs := us } 1 true false us rest := by
  have timed : us ≠ 0 := Nat.ne_of_gt (Nat.lt_of_lt_of_le (by decide) phase.1)
  obtain ⟨field, nbits, pushed, has⟩ := Field.Has.empty.pushBit (by decide) (isOne us)
  obtain rfl : nbits = 1 := has.count
  refine ⟨field, has, ?_⟩
  rw [decodePulses, if_neg timed, if_neg (fun differs => differs rfl), classifyActive_within phase]
  cases bit : isOne us with
  | true =>
      rw [bit] at pushed
      rw [if_pos rfl]
      simp only [Rx.pushBit, if_true, pushed, decide_true, Option.map_some, Option.getD_some]
  | false =>
      rw [bit] at pushed
      rw [if_neg Bool.false_ne_true]
      simp only [Rx.pushBit, if_true, pushed, reduceCtorEq, decide_false, Option.map_some,
        Option.getD_some]

/-- A capture that is taken is one of the grammar. -/
theorem decodePulses_sound {train : List Pulse} (timed : ∀ pulse ∈ train, pulse.us ≠ 0) :
    (decodePulses train).Failed ∨ (∃ widths gap answer, FrameTrain train widths gap answer) ∨
      ∃ widths, IsResponse train widths := by
  induction train with
  | nil => exact .inl (failed_of_status .empty rfl (by decide))
  | cons pulse train ih =>
      rw [List.forall_mem_cons] at timed
      obtain ⟨level, us⟩ := pulse
      by_cases idle : level ≠ active
      · rw [decodePulses, if_neg timed.1, if_pos idle]
        have quiet : level = passive := by
          cases level
          · rfl
          · exact absurd rfl idle
        have further {rest : List Pulse} (before : ∀ pulse ∈ rest, pulse.level = passive) :
            ∀ pulse ∈ ⟨level, us⟩ :: rest, pulse.level = passive :=
          List.forall_mem_cons.2 ⟨quiet, before⟩
        rcases ih timed.2 with failed | ⟨widths, gap, answer, frame⟩ | ⟨widths, response⟩
        · exact .inl failed
        · obtain ⟨before, sof, placed, begins, whole, ended⟩ := frame
          exact .inr (.inl ⟨_, _, _, .intro (further before) sof placed begins whole ended⟩)
        · obtain ⟨before, phase, carries, whole, closing⟩ := response
          exact .inr (.inr ⟨_, .intro (further before) phase carries whole closing⟩)
      · obtain rfl := not_not.1 idle
        have quiet : ∀ pulse ∈ ([] : List Pulse), pulse.level = passive :=
          fun _ member => absurd member List.not_mem_nil
        by_cases phase : Within bitWindow us
        · obtain ⟨field, has, read⟩ := decodePulses_bit phase train
          have held : (Rx.field { status := .ifrOnly, ifr := field, lastActiveUs := us } true).Has 1
              [isOne us] := has
          rw [read]
          rcases decodeBody_answer held us timed.2 with
            failed | ⟨widths, run, rest, rfl, carries, whole, closing⟩
          · exact .inl failed
          · right
            right
            refine ⟨us :: widths, .intro quiet phase carries whole ?_⟩
            cases widths <;> exact closing
        · by_cases sof : Within (tp7RxMin, tp7RxMax) us
          · rw [decodePulses_start sof]
            have opened : ({ status := .ok, lastActiveUs := us } : Rx).data = {} := rfl
            rcases decodeBody_frame timed.2 rfl opened rfl with
              failed | ⟨widths, run, rest, first, gap, answer, rfl, placed, begins, whole, ended⟩
            · exact .inl failed
            · exact .inr (.inl ⟨widths, gap, answer, .intro quiet sof placed begins whole ended⟩)
          · left
            rw [decodePulses, if_neg timed.1, if_neg idle]
            cases sort : classifyActive us with
            | one => exact absurd (within_of_bit (.inl sort)) phase
            | zero => exact absurd (within_of_bit (.inr sort)) phase
            | sof => exact absurd (classifyActive_sof.1 sort) sof
            | brk => exact failed_of_status .break rfl (by decide)
            | invalid => exact failed_of_status .noSof rfl (by decide)

/-! ## Completeness -/

/-- A field that got whole bytes. -/
theorem Field.Has.told {field : Field} {nbits : Nat} {widths : List Nat}
    (has : field.Has nbits (widths.map isOne)) (whole : Whole widths) :
    nbits = 0 ∧ field.Holds (told widths) := by
  obtain rfl : nbits = 0 := by
    rw [has.count, List.length_map]
    exact whole.whole
  exact ⟨rfl, has.holds⟩

/-- The decoder on whole bytes. -/
theorem takes_run {us : Nat} {widths : List Nat} {run : List Pulse} (phase : Within bitWindow us)
    (carries : Carries us widths run) (whole : Whole (us :: widths)) {rx : Rx} {inIfr : Bool}
    (empty : rx.field inIfr = {}) (timed : ∀ pulse ∈ run, pulse.us ≠ 0) (rest : List Pulse) :
    ∃ field : Field, field.Holds (told (us :: widths)) ∧
      rx.takes 0 inIfr us (run ++ rest) =
        decodeBody (((us :: widths).foldl (Rx.note inIfr) rx).withField inIfr field) 0 inIfr false
          (widths.getLastD us) rest := by
  have has : (rx.field inIfr).Has 0 [] := by
    rw [empty]
    exact .empty
  obtain ⟨first, nbits, has', taken⟩ := takes_bit phase has (by decide) (run ++ rest)
  have held : (((rx.note inIfr us).withField inIfr first).field inIfr).Has nbits [isOne us] := by
    rwa [field_withField]
  have room := whole.short
  rw [List.length_cons, Nat.add_comm] at room
  obtain ⟨field, count, has'', read⟩ := decodeBody_run carries held room timed rest
  obtain ⟨rfl, holds⟩ := Field.Has.told has'' whole
  refine ⟨field, holds, ?_⟩
  rw [taken, read, noted_withField, withField_withField]
  rfl

/-- What is reported of a capture. -/
structure Rx.Reports (rx : Rx) (data : List UInt8) (gap : Option Nat) (ifr : List UInt8) (last : Nat)
    (measured : List Nat) : Prop where
  data : rx.data.Holds data
  ifr : rx.ifr.Holds ifr
  eod : rx.eod = gap.isSome
  eodGapUs : rx.eodGapUs = gap.getD 0
  lastActiveUs : rx.lastActiveUs = last
  measures : Measures rx measured

theorem Carries.timed {before : Nat} {widths : List Nat} {run : List Pulse}
    (carries : Carries before widths run) : ∀ us ∈ widths, us ≠ 0 := by
  induction carries with
  | nil => exact fun _ member => nomatch member
  | cons gap phase rest ih =>
      exact List.forall_mem_cons.2 ⟨Nat.ne_of_gt (Nat.lt_of_lt_of_le (by decide) phase.1), ih⟩

theorem Begins.timed {first before : Nat} {widths : List Nat} {run : List Pulse}
    (begins : Begins first before widths run) : ∀ us ∈ widths, us ≠ 0 := by
  cases begins with
  | intro phase rest =>
      exact List.forall_mem_cons.2
        ⟨Nat.ne_of_gt (Nat.lt_of_lt_of_le (by decide) phase.1), rest.timed⟩

/-- The decoder behind the data of a frame. -/
theorem decodeBody_dataEnd {last : Nat} {train : List Pulse} {gap : Option Nat} {answer : List Nat}
    (ended : DataEnd last train gap answer) (timed : ∀ pulse ∈ train, pulse.us ≠ 0) {rx : Rx}
    {data : List UInt8} (ok : rx.status = .ok) (ifr : rx.ifr = {})
    (reports : rx.Reports data none [] last []) :
    ∃ next : Rx, next.status = .ok ∧
      next.Reports data gap (told answer) (answer.getLastD last) answer ∧
      decodeBody rx 0 false false last train = finish next 0 := by
  cases ended with
  | closing closing =>
      refine ⟨rx, ok, reports, ?_⟩
      apply decodeBody_closing _ timed
      exact closing
  | @response gap widths run rest late begins whole closing =>
      have widthsTimed := begins.timed
      cases begins with
      | @intro _ fall us level widths run phase carries =>
          rw [List.cons_append, List.cons_append, List.forall_mem_cons, List.forall_mem_cons,
            List.forall_mem_append] at timed
          obtain ⟨fell, rose, timedRun, timedRest⟩ := timed
          have empty : (({ rx with eod := true, eodGapUs := last + fall } : Rx).field true) = {} :=
            ifr
          obtain ⟨field, holds, taken⟩ := takes_run phase carries whole empty timedRun rest
          have same :=
            same_noted { rx with eod := true, eodGapUs := last + fall } true (us :: widths)
          have lastUs :=
            lastActiveUs_noted { rx with eod := true, eodGapUs := last + fall } true (us :: widths)
          have measured : Measures { rx with eod := true, eodGapUs := last + fall } [] :=
            ⟨reports.measures.ones, reports.measures.zeros⟩
          have measures := measures_noted measured (us :: widths) widthsTimed
          rw [List.cons_append, List.cons_append, decodeBody_eod late fell rose, taken]
          generalize (us :: widths).foldl (Rx.note true)
            { rx with eod := true, eodGapUs := last + fall } = next at same lastUs measures
          refine ⟨next.withField true field, same.status.trans ok, ⟨?_, holds, same.eod,
            same.eodGapUs, ?_, measures.ones, measures.zeros⟩, ?_⟩
          · change next.data.Holds data
            rw [same.data]
            exact reports.data
          · change next.lastActiveUs = _
            rw [lastUs]
            cases widths <;> rfl
          · apply decodeBody_closing _ timedRest
            cases widths <;> exact closing

theorem decodePulses_frame {train : List Pulse} {widths answer : List Nat} {gap : Option Nat}
    (frame : FrameTrain train widths gap answer) (timed : ∀ pulse ∈ train, pulse.us ≠ 0) :
    ∃ rx : Rx, rx.status = .ok ∧
      rx.Reports (told widths) gap (told answer) ((widths ++ answer).getLastD 0) answer ∧
      decodePulses train = finish rx 0 := by
  cases frame with
  | @intro idle run rest us first widths answer gap quiet sof placed begins whole ended =>
      rw [List.forall_mem_append, List.forall_mem_cons, List.forall_mem_append] at timed
      obtain ⟨timedIdle, -, timedRun, timedRest⟩ := timed
      rw [decodePulses_idle quiet timedIdle, decodePulses_start sof]
      cases begins with
      | @intro _ fall width level widths run phase carries =>
          rw [List.forall_mem_cons, List.forall_mem_cons] at timedRun
          obtain ⟨fell, rose, timedRun⟩ := timedRun
          have empty : ({ status := .ok, lastActiveUs := us } : Rx).field false = {} := rfl
          obtain ⟨field, holds, taken⟩ := takes_run phase carries whole empty timedRun rest
          simp only [List.cons_append]
          rw [decodeBody_first placed fell rose, taken, noted_data]
          have reports : (Rx.withField { status := .ok, lastActiveUs := widths.getLastD width } false
              field).Reports (told (width :: widths)) none [] (widths.getLastD width) [] :=
            ⟨holds, .empty, rfl, rfl, rfl, .empty, .empty⟩
          have behind : DataEnd (widths.getLastD width) rest gap answer := by
            cases widths <;> exact ended
          obtain ⟨next, ok, reports', read⟩ := decodeBody_dataEnd behind timedRest rfl rfl reports
          have lastUs : answer.getLastD (widths.getLastD width) =
              (width :: (widths ++ answer)).getLastD 0 := by
            rw [List.getLastD_cons]
            simp only [List.getLastD_eq_getLast?, List.getLast?_append]
            cases answer.getLast? <;> rfl
          rw [← lastUs]
          refine ⟨next, ok, reports', ?_⟩
          rw [← read]
          cases widths <;> rfl

theorem decodePulses_response {train : List Pulse} {widths : List Nat}
    (response : IsResponse train widths) (timed : ∀ pulse ∈ train, pulse.us ≠ 0) :
    ∃ rx : Rx, rx.status = .ifrOnly ∧
      rx.Reports [] none (told widths) (widths.getLastD 0) widths.tail ∧
      decodePulses train = finish rx 0 := by
  cases response with
  | @intro idle run rest us widths quiet phase carries whole closing =>
      rw [List.forall_mem_append, List.forall_mem_cons, List.forall_mem_append] at timed
      obtain ⟨timedIdle, -, timedRun, timedRest⟩ := timed
      obtain ⟨first, has, opened⟩ := decodePulses_bit phase (run ++ rest)
      have held : (Rx.field { status := .ifrOnly, ifr := first, lastActiveUs := us } true).Has 1
          [isOne us] := has
      have room := whole.short
      rw [List.length_cons, Nat.add_comm] at room
      obtain ⟨field, nbits, has', read⟩ := decodeBody_run carries held room timedRun rest
      obtain ⟨rfl, holds⟩ := Field.Has.told has' whole
      rw [decodePulses_idle quiet timedIdle, opened, read]
      have same := same_noted { status := .ifrOnly, ifr := first, lastActiveUs := us } true widths
      have lastUs :=
        lastActiveUs_noted { status := .ifrOnly, ifr := first, lastActiveUs := us } true widths
      have none : Measures { status := .ifrOnly, ifr := first, lastActiveUs := us } [] :=
        ⟨.empty, .empty⟩
      have measures := measures_noted none widths carries.timed
      generalize widths.foldl (Rx.note true)
        { status := .ifrOnly, ifr := first, lastActiveUs := us } = next at same lastUs measures
      refine ⟨next.withField true field, same.status, ⟨?_, holds, same.eod, same.eodGapUs, ?_,
        measures.ones, measures.zeros⟩, ?_⟩
      · change next.data.Holds []
        rw [same.data]
        exact .empty
      · change next.lastActiveUs = _
        rw [lastUs]
        cases widths <;> rfl
      · apply decodeBody_closing _ timedRest
        cases widths <;> exact closing

/-! ## What is returned -/

/-- Of whole bytes, those of a frame are returned. -/
theorem finish_received {rx : Rx} {data : List UInt8} (ok : rx.status = .ok)
    (holds : rx.data.Holds data) :
    (finish rx 0).status ≠ .ifrOnly ∧
      ((finish rx 0).status = .ok ↔ 2 ≤ data.length ∧ data.getLastD 0 = crc data.dropLast) ∧
      ∃ status, finish rx 0 = { rx with status } := by
  rw [finish, if_neg (fun wrong => wrong rfl), if_neg (by rw [ok]; decide), holds.bytes, holds.len]
  by_cases two : data.length < 2
  · rw [if_pos two]
    refine ⟨show RxStatus.short ≠ .ifrOnly by decide, ⟨fun wrong => ?_, fun frame => ?_⟩, _, rfl⟩
    · cases (show RxStatus.short = .ok from wrong)
    · exact absurd frame.1 (Nat.not_le.2 two)
  · rw [if_neg two]
    have long := Nat.not_lt.1 two
    by_cases checked : data.getLastD 0 = crc data.dropLast
    · have good : crcCheck data = true := by
        rw [crcCheck, decide_eq_true long, decide_eq_true checked]
        rfl
      rw [good]
      exact ⟨by rw [if_neg (by decide), ok]; decide, ⟨fun _ => ⟨long, checked⟩, fun _ => ok⟩,
        rx.status, rfl⟩
    · have bad : crcCheck data = false := by
        rw [crcCheck, decide_eq_false checked, Bool.and_false]
      rw [bad]
      refine ⟨show RxStatus.badCrc ≠ .ifrOnly by decide, ⟨fun wrong => ?_, fun frame => ?_⟩, _, rfl⟩
      · cases (show RxStatus.badCrc = .ok from wrong)
      · exact absurd frame.2 checked

/-- Of whole bytes, those of a response alone are returned. -/
theorem finish_responded {rx : Rx} (alone : rx.status = .ifrOnly) (some : rx.ifr.len ≠ 0) :
    finish rx 0 = rx := by
  rw [finish, if_neg (fun wrong => wrong rfl), if_pos alone, if_neg some]

theorem Rx.Reports.status {rx : Rx} {data ifr : List UInt8} {gap : Option Nat} {last : Nat}
    {measured : List Nat} (reports : rx.Reports data gap ifr last measured) (status : RxStatus) :
    ({ rx with status } : Rx).Reports data gap ifr last measured :=
  ⟨reports.data, reports.ifr, reports.eod, reports.eodGapUs, reports.lastActiveUs,
    reports.measures.ones, reports.measures.zeros⟩

theorem IsResponse.told_ne {train : List Pulse} {widths : List Nat}
    (response : IsResponse train widths) : (told widths).length ≠ 0 := by
  cases response with
  | intro quiet phase carries whole closing =>
      have eight := whole.whole
      rw [List.length_cons] at eight
      rw [told, length_octets, List.length_map, List.length_cons]
      omega

/-! ## The language -/

/-- The decoder takes the frames and the responses of the grammar, and no other captures. It returns
their bytes, the gap before a response and the width of the last active phase, and the ranges that
it reports are those of the bits of the response. -/
theorem capture_language (sym : List Symbol) :
    ((decode sym).status = .ok ↔
        ∃ widths gap answer, IsFrame (captured sym) widths gap answer) ∧
      (∀ widths gap answer, IsFrame (captured sym) widths gap answer →
        (decode sym).Reports (told widths) gap (told answer) ((widths ++ answer).getLastD 0)
          answer) ∧
      ((decode sym).status = .ifrOnly ↔ ∃ widths, IsResponse (captured sym) widths) ∧
      ∀ widths, IsResponse (captured sym) widths →
        (decode sym).Reports [] none (told widths) (widths.getLastD 0) widths.tail := by
  have timed : ∀ pulse ∈ captured sym, pulse.us ≠ 0 := by
    intro pulse member
    simpa using List.all_eq_true.1 List.all_takeWhile pulse member
  have read : decode sym = decodePulses (captured sym) := (decodePulses_takeWhile _).symm
  have responds : ∀ widths, IsResponse (captured sym) widths →
      (decodePulses (captured sym)).status = .ifrOnly ∧
        (decodePulses (captured sym)).Reports [] none (told widths) (widths.getLastD 0)
          widths.tail := by
    intro widths response
    obtain ⟨rx, alone, reports, done⟩ := decodePulses_response response timed
    have some : rx.ifr.len ≠ 0 := by
      rw [reports.ifr.len]
      exact response.told_ne
    rw [done, finish_responded alone some]
    exact ⟨alone, reports⟩
  rw [read]
  refine ⟨⟨fun ok => ?_, ?_⟩, ?_, ⟨fun alone => ?_, ?_⟩, fun widths response =>
    (responds widths response).2⟩
  · rcases decodePulses_sound timed with failed | ⟨widths, gap, answer, frame⟩ | ⟨widths, response⟩
    · exact absurd ok failed.1
    · obtain ⟨rx, started, reports, done⟩ := decodePulses_frame frame timed
      rw [done] at ok
      obtain ⟨two, checked⟩ := (finish_received started reports.data).2.1.1 ok
      exact ⟨widths, gap, answer, frame, two, checked⟩
    · rw [(responds widths response).1] at ok
      cases ok
  · rintro ⟨widths, gap, answer, frame, two, checked⟩
    obtain ⟨rx, started, reports, done⟩ := decodePulses_frame frame timed
    rw [done]
    exact (finish_received started reports.data).2.1.2 ⟨two, checked⟩
  · intro widths gap answer frame
    obtain ⟨rx, started, reports, done⟩ := decodePulses_frame frame.train timed
    obtain ⟨_, _, status, fields⟩ := finish_received started reports.data
    rw [done, fields]
    exact reports.status status
  · rcases decodePulses_sound timed with failed | ⟨widths, gap, answer, frame⟩ | ⟨widths, response⟩
    · exact absurd alone failed.2
    · obtain ⟨rx, started, reports, done⟩ := decodePulses_frame frame timed
      rw [done] at alone
      exact absurd alone (finish_received started reports.data).1
    · exact ⟨widths, response⟩
  · rintro ⟨widths, response⟩
    exact (responds widths response).1

end OpenDiag.J1850.Pwm
