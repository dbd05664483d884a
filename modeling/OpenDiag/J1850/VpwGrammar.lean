import OpenDiag.J1850.Bits
import OpenDiag.J1850.VpwCodec

/-!
# The language of VPW captures

A grammar of the pulse trains that are a frame, with or without a response, and of those that are
a response alone. The decoder takes those trains, and no others, and it returns their bytes.
-/

namespace OpenDiag.J1850.Vpw

/-! ## The grammar -/

/-- The class that carries a bit at a level. -/
def bitClass (level : Level) (one : Bool) : Width :=
  if level = active then if one then .short else .long
  else if one then .long else .short

/-- A train of pulses that carry bits, at levels that alternate. -/
inductive Carries : Level → List Bool → List Pulse → Prop where
  | nil (level : Level) : Carries level [] []
  | cons {level : Level} {one : Bool} {bits : List Bool} {us : Nat} {run : List Pulse}
    (width : (bitClass level one).Holds us) (rest : Carries (!level) bits run) :
    Carries level (one :: bits) (⟨level, us⟩ :: run)

/-- A response ends with the capture or with a passive pulse of at least an end of data. -/
inductive Closing : List Pulse → Prop where
  | capture : Closing []
  | pulse {us : Nat} (rest : List Pulse) (width : tv3RxMin ≤ us) : Closing (⟨passive, us⟩ :: rest)

/-- A normalization bit: a long one, or a short one. -/
def Normalization (long : Bool) (us : Nat) : Prop :=
  (if long then Width.long else Width.short).Holds us

/-- What is behind the data of a frame: whether there is an end of data, and the normalization bit and
the bytes of a response. -/
inductive DataEnd : List Pulse → Bool → Option Bool → List UInt8 → Prop where
  | capture : DataEnd [] false none []
  | eof {us : Nat} (rest : List Pulse) (width : tv3RxMax < us) :
    DataEnd (⟨passive, us⟩ :: rest) false none []
  | eod {us : Nat} (width : Width.tv3.Holds us) : DataEnd [⟨passive, us⟩] true none []
  | response {us nbUs : Nat} {long : Bool} {ifr : List UInt8} {run rest : List Pulse}
    (width : Width.tv3.Holds us) (nb : Normalization long nbUs)
    (carries : Carries passive (frameBits ifr) run) (short : ifr.length ≤ maxFrame)
    (closing : Closing rest) :
    DataEnd (⟨passive, us⟩ :: ⟨active, nbUs⟩ :: (run ++ rest)) true (some long) ifr

/-- A start of frame, whole bytes, and what is behind them. -/
inductive FrameTrain : List Pulse → List UInt8 → Bool → Option Bool → List UInt8 → Prop where
  | intro {idle run rest : List Pulse} {us : Nat} {data ifr : List UInt8} {eod : Bool}
    {nb : Option Bool} (quiet : ∀ pulse ∈ idle, pulse.level = passive) (sof : Width.tv3.Holds us)
    (carries : Carries passive (frameBits data) run) (short : data.length ≤ maxFrame)
    (ended : DataEnd rest eod nb ifr) :
    FrameTrain (idle ++ ⟨active, us⟩ :: (run ++ rest)) data eod nb ifr

/-- A frame has two bytes at least, the last of which is the CRC of the others. -/
structure IsFrame (train : List Pulse) (data : List UInt8) (eod : Bool) (nb : Option Bool)
    (ifr : List UInt8) : Prop where
  train : FrameTrain train data eod nb ifr
  two : 2 ≤ data.length
  checked : data.getLastD 0 = crc data.dropLast

/-- A normalization bit, whole bytes, and what ends them. -/
inductive ResponseTrain : List Pulse → Bool → List UInt8 → Prop where
  | intro {idle run rest : List Pulse} {us : Nat} {long : Bool} {ifr : List UInt8}
    (quiet : ∀ pulse ∈ idle, pulse.level = passive) (nb : Normalization long us)
    (carries : Carries passive (frameBits ifr) run) (short : ifr.length ≤ maxFrame)
    (closing : Closing rest) : ResponseTrain (idle ++ ⟨active, us⟩ :: (run ++ rest)) long ifr

/-- A response alone has a byte at least. -/
structure IsResponse (train : List Pulse) (long : Bool) (ifr : List UInt8) : Prop where
  train : ResponseTrain train long ifr
  one : 1 ≤ ifr.length

/-! ## Widths -/

theorem bitValue_bitClass (level : Level) (one : Bool) :
    bitValue level (bitClass level one) = one := by
  cases level <;> cases one <;> rfl

theorem bitClass_bitValue (level : Level) {width : Width} (bit : width = .short ∨ width = .long) :
    bitClass level (bitValue level width) = width := by
  rcases bit with rfl | rfl <;> cases level <;> rfl

theorem bitClass_bit (level : Level) (one : Bool) :
    bitClass level one = .short ∨ bitClass level one = .long := by
  cases level <;> cases one
  · exact Or.inl rfl
  · exact Or.inr rfl
  · exact Or.inr rfl
  · exact Or.inl rfl

/-- A width of a class, whose window has no zero, is in its window. -/
theorem holds_classify {us : Nat} (valid : classify us ≠ .invalid) (finite : classify us ≠ .tv4) :
    (classify us).Holds us := by
  have bounds : tv1RxMax = 96 ∧ tv2RxMin = 97 ∧ tv2RxMax = 163 ∧ tv3RxMin = 164 :=
    ⟨rfl, rfl, rfl, rfl⟩
  unfold classify at *
  split
  · rename_i low
    rw [if_pos low] at valid
    exact absurd rfl valid
  · rename_i low
    rw [if_neg low] at finite
    split
    · exact ⟨by omega, by omega⟩
    · split
      · exact ⟨by omega, by omega⟩
      · split
        · exact ⟨by omega, by omega⟩
        · rename_i a b c
          rw [if_neg a, if_neg b, if_neg c] at finite
          exact absurd rfl finite

theorem classify_of_lt {us : Nat} (late : tv3RxMax < us) : classify us = .tv4 := by
  have bounds : tv1RxMin = 35 ∧ tv1RxMax = 96 ∧ tv2RxMax = 163 ∧ tv3RxMax = 239 :=
    ⟨rfl, rfl, rfl, rfl⟩
  rw [classify, if_neg (by omega), if_neg (by omega), if_neg (by omega), if_neg (by omega)]

theorem lt_of_classify {us : Nat} (late : classify us = .tv4) : tv3RxMax < us := by
  unfold classify at late
  split at late
  · cases late
  · split at late
    · cases late
    · split at late
      · cases late
      · split at late
        · cases late
        · rename_i above
          exact Nat.not_le.mp above

/-- A width of at least an end of data. -/
theorem classify_of_le {us : Nat} (long : tv3RxMin ≤ us) :
    classify us = .tv3 ∨ classify us = .tv4 := by
  by_cases late : tv3RxMax < us
  · exact Or.inr (classify_of_lt late)
  · have inside : Width.tv3.Holds us := ⟨long, Nat.not_lt.mp late⟩
    exact Or.inl inside.classify

theorem Width.Holds.ne_zero {us : Nat} {width : Width} (holds : width.Holds us) : us ≠ 0 := by
  rintro rfl
  have invalid : Vpw.classify 0 = .invalid := rfl
  rw [holds.classify] at invalid
  rw [invalid] at holds
  exact holds

/-! ## The field that is received -/

def Rx.field (rx : Rx) (inIfr : Bool) : Field :=
  if inIfr then rx.ifr else rx.data

def Rx.withField (rx : Rx) (inIfr : Bool) (field : Field) : Rx :=
  if inIfr then { rx with ifr := field } else { rx with data := field }

@[simp] theorem field_withField (rx : Rx) (inIfr : Bool) (field : Field) :
    (rx.withField inIfr field).field inIfr = field := by
  cases inIfr <;> rfl

@[simp] theorem withField_withField (rx : Rx) (inIfr : Bool) (field field' : Field) :
    (rx.withField inIfr field).withField inIfr field' = rx.withField inIfr field' := by
  cases inIfr <;> rfl

@[simp] theorem withField_field (rx : Rx) (inIfr : Bool) :
    rx.withField inIfr (rx.field inIfr) = rx := by
  cases inIfr <;> rfl

theorem pushBit_eq (rx : Rx) (inIfr : Bool) (nbits : Nat) (one : Bool) :
    rx.pushBit inIfr nbits one =
      ((rx.field inIfr).pushBit nbits one).map fun (field, nbits) =>
        (rx.withField inIfr field, nbits) := by
  cases inIfr <;> rfl

/-- The decoder on the pulse of a bit. -/
theorem decodeBody_bit {level : Level} {one : Bool} {us : Nat}
    (width : (bitClass level one).Holds us) (rx : Rx) (nbits : Nat) (inIfr : Bool)
    (rest : List Pulse) :
    decodeBody rx nbits inIfr false level (⟨level, us⟩ :: rest) =
      match (rx.field inIfr).pushBit nbits one with
      | none => { rx with status := .tooLong }
      | some (field, nbits) =>
        decodeBody (rx.withField inIfr field) nbits inIfr false (!level) rest := by
  have value : bitValue level (classify us) = one := by
    rw [width.classify, bitValue_bitClass]
  rw [decodeBody, if_neg width.ne_zero, if_neg (fun differs => differs rfl)]
  rcases bitClass_bit level one with bit | bit
  · have class_ : classify us = .short := width.classify.trans bit
    rw [class_] at value
    simp only [class_, value, pushBit_eq, Bool.false_eq_true, if_false]
    cases (rx.field inIfr).pushBit nbits one <;> rfl
  · have class_ : classify us = .long := width.classify.trans bit
    rw [class_] at value
    simp only [class_, value, pushBit_eq, Bool.false_eq_true, if_false]
    cases (rx.field inIfr).pushBit nbits one <;> rfl

/-- The decoder on a train of bits: those of twelve bytes fit into the field. -/
theorem decodeBody_run {level : Level} {bits : List Bool} {run : List Pulse}
    (carries : Carries level bits run) {rx : Rx} {inIfr : Bool} {nbits : Nat} {before : List Bool}
    (has : (rx.field inIfr).Has nbits before) (room : before.length + bits.length ≤ 8 * maxFrame)
    (rest : List Pulse) :
    ∃ field nbits', field.Has nbits' (before ++ bits) ∧
      decodeBody rx nbits inIfr false level (run ++ rest) =
        decodeBody (rx.withField inIfr field) nbits' inIfr false (not^[bits.length] level) rest := by
  induction carries generalizing rx nbits before with
  | nil level =>
      refine ⟨rx.field inIfr, nbits, by rwa [List.append_nil], ?_⟩
      rw [withField_field]
      rfl
  | @cons level one bits us run width _ ih =>
      rw [List.length_cons] at room
      obtain ⟨field, nbits', pushed, has'⟩ := has.pushBit (by omega) one
      have next : ((rx.withField inIfr field).field inIfr).Has nbits' (before ++ [one]) := by
        rwa [field_withField]
      obtain ⟨last, nbits'', has'', done⟩ := ih next (by
        rw [List.length_append, List.length_singleton]
        omega)
      refine ⟨last, nbits'', by rwa [List.append_cons], ?_⟩
      rw [List.cons_append, decodeBody_bit width, pushed]
      dsimp only
      rw [done, withField_withField]
      rfl

/-- More bits than those of twelve bytes do not. -/
theorem decodeBody_run_full {level : Level} {bits : List Bool} {run : List Pulse}
    (carries : Carries level bits run) {rx : Rx} {inIfr : Bool} {nbits : Nat} {before : List Bool}
    (has : (rx.field inIfr).Has nbits before) (full : 8 * maxFrame < before.length + bits.length)
    (rest : List Pulse) :
    (decodeBody rx nbits inIfr false level (run ++ rest)).status = .tooLong := by
  induction carries generalizing rx nbits before with
  | nil level => exact absurd full (Nat.not_lt.mpr has.room)
  | @cons level one bits us run width _ ih =>
      rw [List.length_cons] at full
      rw [List.cons_append, decodeBody_bit width]
      by_cases room : before.length < 8 * maxFrame
      · obtain ⟨field, nbits', pushed, has'⟩ := has.pushBit room one
        have next : ((rx.withField inIfr field).field inIfr).Has nbits' (before ++ [one]) := by
          rwa [field_withField]
        rw [pushed]
        refine ih next ?_
        rw [List.length_append, List.length_singleton]
        omega
      · rw [has.pushBit_none (Nat.le_antisymm has.room (Nat.not_lt.mp room))]

/-- A train does not begin with a bit at this level. -/
def Stops (level : Level) (train : List Pulse) : Prop :=
  ∀ pulse ∈ train.head?, pulse.level = level → classify pulse.us ≠ .short ∧ classify pulse.us ≠ .long

/-- Every train is a run of bits and a rest that does not begin with one. -/
theorem exists_carries (level : Level) (train : List Pulse) :
    ∃ bits run rest, train = run ++ rest ∧ Carries level bits run ∧
      Stops (not^[bits.length] level) rest := by
  induction train generalizing level with
  | nil => exact ⟨[], [], [], rfl, .nil level, fun _ wrong => nomatch wrong⟩
  | cons pulse train ih =>
      by_cases bit : pulse.level = level ∧ (classify pulse.us = .short ∨ classify pulse.us = .long)
      · obtain ⟨same, bit⟩ := bit
        obtain ⟨bits, run, rest, split, carries, stops⟩ := ih (!level)
        obtain ⟨pulseLevel, us⟩ := pulse
        subst same
        dsimp only at bit
        refine ⟨bitValue pulseLevel (classify us) :: bits, ⟨pulseLevel, us⟩ :: run, rest, ?_,
          .cons ?_ carries,
          stops⟩
        · rw [split]
          rfl
        · rw [bitClass_bitValue pulseLevel bit]
          rcases bit with bit | bit
          · exact holds_classify (by rw [bit]; decide) (by rw [bit]; decide)
          · exact holds_classify (by rw [bit]; decide) (by rw [bit]; decide)
      · refine ⟨[], [], pulse :: train, rfl, .nil level, ?_⟩
        rintro first head same
        cases head
        exact not_or.mp fun wrong => bit ⟨same, wrong⟩

/-! ## Soundness -/

/-- There is neither a frame nor a response. -/
def Rx.Failed (rx : Rx) : Prop :=
  rx.status ≠ .ok ∧ rx.status ≠ .ifrOnly

theorem failed_of_status (status : RxStatus) {rx : Rx} (reported : rx.status = status)
    (bad : status ≠ .ok ∧ status ≠ .ifrOnly) : rx.Failed := by
  rwa [Rx.Failed, reported]

/-- What ends a field. -/
inductive Ends (rx : Rx) (nbits : Nat) (inIfr : Bool) : Level → List Pulse → Rx → Prop where
  | capture (level : Level) : Ends rx nbits inIfr level [] (finish rx nbits)
  | eof {us : Nat} (rest : List Pulse) (width : tv3RxMax < us) :
    Ends rx nbits inIfr passive (⟨passive, us⟩ :: rest) (finish rx nbits)
  | second {us : Nat} (rest : List Pulse) (ifr : inIfr = true) (width : Width.tv3.Holds us) :
    Ends rx nbits inIfr passive (⟨passive, us⟩ :: rest) (finish rx nbits)
  | eod {us : Nat} (rest : List Pulse) (data : inIfr = false) (whole : nbits = 0)
    (width : Width.tv3.Holds us) :
    Ends rx nbits inIfr passive (⟨passive, us⟩ :: rest)
      (decodeBody { rx with eod := true } 0 true true active rest)
  | failed {level : Level} {train : List Pulse} {last : Rx} (failed : last.Failed) :
    Ends rx nbits inIfr level train last

/-- What is not a bit ends a field. -/
theorem decodeBody_stops (rx : Rx) (nbits : Nat) (inIfr : Bool) {level : Level} {train : List Pulse}
    (stops : Stops level train) (timed : ∀ pulse ∈ train, pulse.us ≠ 0) :
    Ends rx nbits inIfr level train (decodeBody rx nbits inIfr false level train) := by
  cases train with
  | nil => exact .capture level
  | cons pulse rest =>
      obtain ⟨pulseLevel, us⟩ := pulse
      rw [decodeBody, if_neg (timed _ List.mem_cons_self)]
      by_cases same : pulseLevel = level
      · subst same
        have bit := stops _ rfl rfl
        rw [if_neg (fun differs => differs rfl)]
        cases sort : classify us with
        | invalid => exact .failed (failed_of_status .badSymbol rfl (by decide))
        | short => exact absurd sort bit.1
        | long => exact absurd sort bit.2
        | tv3 =>
            have width : Width.tv3.Holds us := by
              rw [← sort]
              exact holds_classify (by rw [sort]; decide) (by rw [sort]; decide)
            cases pulseLevel with
            | true => exact .failed (failed_of_status .badSymbol rfl (by decide))
            | false =>
                cases inIfr with
                | true => exact .second rest rfl width
                | false =>
                    by_cases whole : nbits = 0
                    · subst whole
                      exact .eod rest rfl rfl width
                    · simp only [active, Bool.false_eq_true, if_false, if_pos whole]
                      exact .failed (failed_of_status .framing rfl (by decide))
        | tv4 =>
            cases pulseLevel with
            | true => exact .failed (failed_of_status .break rfl (by decide))
            | false => exact .eof rest (lt_of_classify sort)
      · rw [if_pos same]
        exact .failed (failed_of_status .badSymbol rfl (by decide))

/-- After bits that are no whole bytes there is no result. -/
theorem finish_failed (rx : Rx) {nbits : Nat} (part : nbits ≠ 0) : (finish rx nbits).Failed := by
  rw [finish, if_pos part]
  exact failed_of_status .framing rfl (by decide)

/-- At a byte boundary whole bytes were received. -/
theorem whole_of_has {field : Field} {bits : List Bool} (has : field.Has 0 bits) :
    frameBits (octets bits) = bits ∧ (octets bits).length ≤ maxFrame := by
  refine ⟨frameBits_octets_of_whole has.count.symm, ?_⟩
  rw [length_octets]
  have room := has.room
  omega

/-- The bytes of a response, and what ends it. -/
theorem decodeBody_response (rx : Rx) (none : rx.ifr = {}) {train : List Pulse}
    (timed : ∀ pulse ∈ train, pulse.us ≠ 0) :
    (∃ ifr run rest field, train = run ++ rest ∧ Carries passive (frameBits ifr) run ∧
        ifr.length ≤ maxFrame ∧ Closing rest ∧ field.Holds ifr ∧
        decodeBody rx 0 true false passive train = finish { rx with ifr := field } 0) ∨
      (decodeBody rx 0 true false passive train).Failed := by
  obtain ⟨bits, run, rest, rfl, carries, stops⟩ := exists_carries passive train
  have has : (rx.field true).Has 0 [] := by
    rw [show rx.field true = rx.ifr from rfl, none]
    exact Field.Has.empty
  by_cases room : ([] : List Bool).length + bits.length ≤ 8 * maxFrame
  · obtain ⟨field, nbits, has, done⟩ := decodeBody_run carries has room rest
    have ends := decodeBody_stops (rx.withField true field) nbits true stops fun pulse member =>
      timed pulse (List.mem_append_right _ member)
    rw [List.nil_append] at has
    rw [done]
    by_cases part : nbits = 0
    · subst part
      obtain ⟨whole, short⟩ := whole_of_has has
      have closed : ∀ rest, Closing rest → ∀ last, last = finish { rx with ifr := field } 0 →
          (∃ ifr run' rest' field, run ++ rest = run' ++ rest' ∧ Carries passive (frameBits ifr) run' ∧
            ifr.length ≤ maxFrame ∧ Closing rest' ∧ field.Holds ifr ∧
            last = finish { rx with ifr := field } 0) := by
        rintro rest closing last rfl
        refine ⟨octets bits, run, rest, field, rfl, ?_, short, closing, has.holds, rfl⟩
        rwa [whole]
      revert ends
      generalize not^[bits.length] passive = level
      generalize decodeBody (rx.withField true field) 0 true false level rest = last
      rintro (_ | ⟨rest, late⟩ | ⟨rest, _, width⟩ | ⟨rest, wrong⟩ | failed)
      · exact Or.inl (closed [] .capture _ rfl)
      · exact Or.inl (closed _ (.pulse rest (Nat.le_of_lt (Nat.lt_of_le_of_lt (by decide) late))) _ rfl)
      · exact Or.inl (closed _ (.pulse rest width.1) _ rfl)
      · cases wrong
      · exact Or.inr failed
    · right
      revert ends
      generalize not^[bits.length] passive = level
      generalize decodeBody (rx.withField true field) nbits true false level rest = last
      rintro (_ | _ | _ | ⟨_, wrong⟩ | failed)
      · exact finish_failed _ part
      · exact finish_failed _ part
      · exact finish_failed _ part
      · cases wrong
      · exact failed
  · refine Or.inr (failed_of_status .tooLong ?_ (by decide))
    exact decodeBody_run_full carries has (Nat.not_le.mp room) rest

/-- What is received of a frame. -/
def received (data : Field) (eod : Bool) (nb : Option Bool) (ifr : Field) : Rx :=
  { status := .ok, data, ifr, eod, nb := nb.isSome, nbLong := nb.getD false }

/-- The classes of a normalization bit. -/
theorem normalization_iff {long : Bool} {us : Nat} :
    Normalization long us ↔ classify us = if long then .long else .short := by
  constructor
  · exact Width.Holds.classify
  · intro sort
    rw [Normalization, ← sort]
    cases long
    · exact holds_classify (by rw [sort]; decide) (by rw [sort]; decide)
    · exact holds_classify (by rw [sort]; decide) (by rw [sort]; decide)

/-- What follows an end of data: nothing, or a response. -/
theorem decodeBody_eod (data : Field) {train : List Pulse} (timed : ∀ pulse ∈ train, pulse.us ≠ 0)
    {us : Nat} (width : Width.tv3.Holds us) :
    (∃ nb ifr field, DataEnd (⟨passive, us⟩ :: train) true nb ifr ∧ field.Holds ifr ∧
        decodeBody (received data true none {}) 0 true true active train =
          finish (received data true nb field) 0) ∨
      (decodeBody (received data true none {}) 0 true true active train).Failed := by
  cases train with
  | nil => exact Or.inl ⟨none, [], {}, .eod width, Field.Holds.empty, rfl⟩
  | cons pulse train =>
      obtain ⟨level, nbUs⟩ := pulse
      rw [List.forall_mem_cons] at timed
      rw [decodeBody, if_neg timed.1]
      by_cases same : level = active
      · subst same
        rw [if_neg (fun differs => differs rfl)]
        have answered : ∀ long, classify nbUs = (if long then .long else .short) →
            (∃ nb ifr field, DataEnd (⟨passive, us⟩ :: ⟨active, nbUs⟩ :: train) true nb ifr ∧
                field.Holds ifr ∧
                decodeBody (received data true (some long) {}) 0 true false passive train =
                  finish (received data true nb field) 0) ∨
              (decodeBody (received data true (some long) {}) 0 true false passive train).Failed := by
          intro long sort
          rcases decodeBody_response (received data true (some long) {}) rfl timed.2 with
            ⟨ifr, run, rest, field, rfl, carries, short, closing, holds, done⟩ | failed
          · exact Or.inl ⟨some long, ifr, field,
              .response width (normalization_iff.mpr sort) carries short closing, holds, done⟩
          · exact Or.inr failed
        cases sort : classify nbUs with
        | invalid => exact Or.inr (failed_of_status .badSymbol rfl (by decide))
        | short => exact answered false sort
        | long => exact answered true sort
        | tv3 => exact Or.inr (failed_of_status .badSymbol rfl (by decide))
        | tv4 => exact Or.inr (failed_of_status .break rfl (by decide))
      · rw [if_pos same]
        exact Or.inr (failed_of_status .badSymbol rfl (by decide))

/-- The bytes of a frame, and what is behind them. -/
theorem decodeBody_data {train : List Pulse} (timed : ∀ pulse ∈ train, pulse.us ≠ 0) :
    (∃ data run rest eod nb ifr field ifrField, train = run ++ rest ∧
        Carries passive (frameBits data) run ∧ data.length ≤ maxFrame ∧ DataEnd rest eod nb ifr ∧
        field.Holds data ∧ ifrField.Holds ifr ∧
        decodeBody { status := .ok } 0 false false passive train =
          finish (received field eod nb ifrField) 0) ∨
      (decodeBody { status := .ok } 0 false false passive train).Failed := by
  obtain ⟨bits, run, rest, rfl, carries, stops⟩ := exists_carries passive train
  have has : (({ status := .ok } : Rx).field false).Has 0 [] := Field.Has.empty
  have timed' : ∀ pulse ∈ rest, pulse.us ≠ 0 := fun pulse member =>
    timed pulse (List.mem_append_right _ member)
  by_cases room : ([] : List Bool).length + bits.length ≤ 8 * maxFrame
  · obtain ⟨field, nbits, has, done⟩ := decodeBody_run carries has room rest
    rw [List.nil_append] at has
    have ends := decodeBody_stops (({ status := .ok } : Rx).withField false field) nbits false stops
      timed'
    rw [done]
    by_cases part : nbits = 0
    · subst part
      obtain ⟨whole, short⟩ := whole_of_has has
      have holds := has.holds
      rw [← whole] at carries
      revert ends timed'
      generalize not^[bits.length] passive = level
      generalize
        decodeBody (({ status := .ok } : Rx).withField false field) 0 false false level rest = last
      rintro timed' (_ | ⟨rest, late⟩ | ⟨rest, wrong⟩ | ⟨rest, _, _, width⟩ | failed)
      · exact Or.inl ⟨octets bits, run, [], false, none, [], field, {}, rfl, carries, short, .capture,
          holds, Field.Holds.empty, rfl⟩
      · exact Or.inl ⟨octets bits, run, _, false, none, [], field, {}, rfl, carries, short,
          .eof rest late, holds, Field.Holds.empty, rfl⟩
      · cases wrong
      · rw [List.forall_mem_cons] at timed'
        rcases decodeBody_eod field timed'.2 width with
          ⟨nb, ifr, ifrField, ended, ifrHolds, done⟩ | failed
        · exact Or.inl ⟨octets bits, run, _, true, nb, ifr, field, ifrField, rfl, carries, short, ended,
            holds, ifrHolds, done⟩
        · exact Or.inr failed
      · exact Or.inr failed
    · right
      revert ends
      generalize not^[bits.length] passive = level
      generalize decodeBody (({ status := .ok } : Rx).withField false field) nbits false false level
        rest = last
      rintro (_ | _ | ⟨_, wrong⟩ | ⟨_, _, whole⟩ | failed)
      · exact finish_failed _ part
      · exact finish_failed _ part
      · cases wrong
      · exact absurd whole part
      · exact failed
  · refine Or.inr (failed_of_status .tooLong ?_ (by decide))
    exact decodeBody_run_full carries has (Nat.not_le.mp room) rest

/-- What is received of a response alone. -/
def responded (long : Bool) (ifr : Field) : Rx :=
  { status := .ifrOnly, ifr, nb := true, nbLong := long }

theorem FrameTrain.idle {train : List Pulse} {data ifr : List UInt8} {eod : Bool}
    {nb : Option Bool} (frame : FrameTrain train data eod nb ifr) {pulse : Pulse}
    (quiet : pulse.level = passive) : FrameTrain (pulse :: train) data eod nb ifr := by
  obtain ⟨quiet', sof, carries, short, ended⟩ := frame
  exact .intro (List.forall_mem_cons.mpr ⟨quiet, quiet'⟩) sof carries short ended

theorem ResponseTrain.idle {train : List Pulse} {long : Bool} {ifr : List UInt8}
    (response : ResponseTrain train long ifr) {pulse : Pulse} (quiet : pulse.level = passive) :
    ResponseTrain (pulse :: train) long ifr := by
  obtain ⟨quiet', nb, carries, short, closing⟩ := response
  exact .intro (List.forall_mem_cons.mpr ⟨quiet, quiet'⟩) nb carries short closing

/-- Without idle pulses. -/
theorem FrameTrain.start {run rest : List Pulse} {us : Nat} {data ifr : List UInt8} {eod : Bool}
    {nb : Option Bool} (sof : Width.tv3.Holds us) (carries : Carries passive (frameBits data) run)
    (short : data.length ≤ maxFrame) (ended : DataEnd rest eod nb ifr) :
    FrameTrain (⟨active, us⟩ :: (run ++ rest)) data eod nb ifr :=
  .intro (List.forall_mem_nil fun pulse : Pulse => pulse.level = passive) sof carries short ended

theorem ResponseTrain.start {run rest : List Pulse} {us : Nat} {long : Bool} {ifr : List UInt8}
    (nb : Normalization long us) (carries : Carries passive (frameBits ifr) run)
    (short : ifr.length ≤ maxFrame) (closing : Closing rest) :
    ResponseTrain (⟨active, us⟩ :: (run ++ rest)) long ifr :=
  .intro (List.forall_mem_nil fun pulse : Pulse => pulse.level = passive) nb carries short closing

/-- What the decoder takes is in the language of whole bytes. -/
theorem decodePulses_sound {train : List Pulse} (timed : ∀ pulse ∈ train, pulse.us ≠ 0) :
    (∃ data eod nb ifr field ifrField, FrameTrain train data eod nb ifr ∧ field.Holds data ∧
        ifrField.Holds ifr ∧ decodePulses train = finish (received field eod nb ifrField) 0) ∨
      (∃ long ifr field, ResponseTrain train long ifr ∧ field.Holds ifr ∧
        decodePulses train = finish (responded long field) 0) ∨
      (decodePulses train).Failed := by
  induction train with
  | nil => exact Or.inr (Or.inr (failed_of_status .empty rfl (by decide)))
  | cons pulse train ih =>
      rw [List.forall_mem_cons] at timed
      rw [decodePulses, if_neg timed.1]
      by_cases idle : pulse.level ≠ active
      · have quiet : pulse.level = passive := Bool.eq_false_of_not_eq_true idle
        rw [if_pos idle]
        rcases ih timed.2 with
          ⟨data, eod, nb, ifr, field, ifrField, frame, rest⟩ |
          ⟨long, ifr, field, response, rest⟩ | failed
        · exact Or.inl ⟨data, eod, nb, ifr, field, ifrField, frame.idle quiet, rest⟩
        · exact Or.inr (Or.inl ⟨long, ifr, field, response.idle quiet, rest⟩)
        · exact Or.inr (Or.inr failed)
      · obtain ⟨level, us⟩ := pulse
        obtain rfl : level = active := not_not.mp idle
        rw [if_neg idle]
        have answered : ∀ long, classify us = (if long then .long else .short) →
            (∃ nb ifr field, ResponseTrain (⟨active, us⟩ :: train) nb ifr ∧ field.Holds ifr ∧
              decodeBody (responded long {}) 0 true false passive train =
                finish (responded nb field) 0) ∨
              (decodeBody (responded long {}) 0 true false passive train).Failed := by
          intro long sort
          rcases decodeBody_response (responded long {}) rfl timed.2 with
            ⟨ifr, run, rest, field, rfl, carries, short, closing, holds, done⟩ | failed
          · exact Or.inl ⟨long, ifr, field,
              .start (normalization_iff.mpr sort) carries short closing, holds, done⟩
          · exact Or.inr failed
        cases sort : classify us with
        | invalid => exact Or.inr (Or.inr (failed_of_status .noSof rfl (by decide)))
        | short => exact Or.inr (answered false sort)
        | long => exact Or.inr (answered true sort)
        | tv3 =>
            have sof : Width.tv3.Holds us := by
              rw [← sort]
              exact holds_classify (by rw [sort]; decide) (by rw [sort]; decide)
            rcases decodeBody_data timed.2 with
              ⟨data, run, rest, eod, nb, ifr, field, ifrField, rfl, carries, short, ended, holds,
                ifrHolds,
                done⟩ | failed
            · exact Or.inl ⟨data, eod, nb, ifr, field, ifrField, .start sof carries short ended, holds,
                ifrHolds, done⟩
            · exact Or.inr (Or.inr failed)
        | tv4 => exact Or.inr (Or.inr (failed_of_status .break rfl (by decide)))

/-! ## Completeness -/

theorem not_iterate_frameBits (data : List UInt8) (level : Level) :
    not^[(frameBits data).length] level = level := by
  rw [length_frameBits, not_iterate, if_pos (by omega)]

/-- The decoder on whole bytes. -/
theorem decodeBody_bytes {data : List UInt8} {run : List Pulse}
    (carries : Carries passive (frameBits data) run) (short : data.length ≤ maxFrame) {rx : Rx}
    {inIfr : Bool} (none : rx.field inIfr = {}) (rest : List Pulse) :
    ∃ field : Field, field.Holds data ∧
      decodeBody rx 0 inIfr false passive (run ++ rest) =
        decodeBody (rx.withField inIfr field) 0 inIfr false passive rest := by
  have has : (rx.field inIfr).Has 0 [] := by
    rw [none]
    exact Field.Has.empty
  obtain ⟨field, nbits, has, done⟩ := decodeBody_run carries has (by
    rw [List.length_nil, length_frameBits]
    omega) rest
  rw [List.nil_append] at has
  have whole : nbits = 0 := by
    have count := has.count
    rw [length_frameBits] at count
    omega
  subst whole
  have holds := has.holds
  rw [octets_frameBits] at holds
  rw [not_iterate_frameBits] at done
  exact ⟨field, holds, done⟩

theorem decodeBody_closing {rest : List Pulse} (closing : Closing rest) (rx : Rx) :
    decodeBody rx 0 true false passive rest = finish rx 0 := by
  cases closing with
  | capture => rfl
  | @pulse us rest width =>
      have nonzero : us ≠ 0 := fun zero => absurd width (by rw [zero]; decide)
      rw [decodeBody, if_neg nonzero, if_neg (fun differs => differs rfl)]
      rcases classify_of_le width with sort | sort
      · simp only [sort]
        rfl
      · simp only [sort]
        rfl

theorem decodeBody_normalization {long : Bool} {us : Nat} (nb : Normalization long us) (rx : Rx)
    (rest : List Pulse) :
    decodeBody rx 0 true true active (⟨active, us⟩ :: rest) =
      decodeBody { rx with nb := true, nbLong := long } 0 true false passive rest := by
  rw [decodeBody, if_neg nb.ne_zero, if_neg (fun differs => differs rfl)]
  have sort := normalization_iff.mp nb
  cases long with
  | false =>
      simp only [sort, Bool.false_eq_true, if_false, if_true]
      rfl
  | true =>
      simp only [sort, if_true]
      rfl

/-- The decoder on what is behind the data. -/
theorem decodeBody_dataEnd {rest : List Pulse} {eod : Bool} {nb : Option Bool} {ifr : List UInt8}
    (ended : DataEnd rest eod nb ifr) (data : Field) :
    ∃ field : Field, field.Holds ifr ∧
      decodeBody (received data false none {}) 0 false false passive rest =
        finish (received data eod nb field) 0 := by
  cases ended with
  | capture => exact ⟨{}, Field.Holds.empty, rfl⟩
  | @eof us rest width =>
      have nonzero : us ≠ 0 := fun zero => absurd width (by rw [zero]; decide)
      refine ⟨{}, Field.Holds.empty, ?_⟩
      rw [decodeBody, if_neg nonzero, if_neg (fun differs => differs rfl)]
      simp only [classify_of_lt width]
      rfl
  | eod width =>
      refine ⟨{}, Field.Holds.empty, ?_⟩
      rw [decodeBody, if_neg width.ne_zero, if_neg (fun differs => differs rfl)]
      simp only [width.classify]
      rfl
  | @response us nbUs long ifr run rest width nb carries short closing =>
      have opened : decodeBody (received data false none {}) 0 false false passive
          (⟨passive, us⟩ :: ⟨active, nbUs⟩ :: (run ++ rest)) =
            decodeBody (received data true none {}) 0 true true active
              (⟨active, nbUs⟩ :: (run ++ rest)) := by
        rw [decodeBody, if_neg width.ne_zero, if_neg (fun differs => differs rfl)]
        simp only [width.classify]
        rfl
      have none : (received data true (some long) {}).field true = {} := rfl
      obtain ⟨field, holds, done⟩ := decodeBody_bytes carries short none rest
      refine ⟨field, holds, ?_⟩
      rw [opened, decodeBody_normalization nb]
      exact done.trans (decodeBody_closing closing _)

/-- The decoder on a train of the language. -/
theorem decodePulses_frame {train : List Pulse} {data ifr : List UInt8} {eod : Bool}
    {nb : Option Bool} (frame : FrameTrain train data eod nb ifr)
    (timed : ∀ pulse ∈ train, pulse.us ≠ 0) :
    ∃ field ifrField : Field, field.Holds data ∧ ifrField.Holds ifr ∧
      decodePulses train = finish (received field eod nb ifrField) 0 := by
  cases frame with
  | @intro idle run rest us data ifr eod nb quiet sof carries short ended =>
      have timed' : ∀ pulse ∈ idle, pulse.us ≠ 0 := fun pulse member =>
        timed pulse (List.mem_append_left _ member)
      have none : ({ status := .ok } : Rx).field false = {} := rfl
      obtain ⟨field, holds, read⟩ := decodeBody_bytes carries short none rest
      obtain ⟨ifrField, ifrHolds, done⟩ := decodeBody_dataEnd ended field
      refine ⟨field, ifrField, holds, ifrHolds, ?_⟩
      rw [decodePulses_idle quiet timed', decodePulses, if_neg sof.ne_zero,
        if_neg (fun differs => differs rfl)]
      simp only [sof.classify]
      exact read.trans done

theorem decodePulses_response {train : List Pulse} {long : Bool} {ifr : List UInt8}
    (response : ResponseTrain train long ifr) (timed : ∀ pulse ∈ train, pulse.us ≠ 0) :
    ∃ field : Field, field.Holds ifr ∧
      decodePulses train = finish (responded long field) 0 := by
  cases response with
  | @intro idle run rest us long ifr quiet nb carries short closing =>
      have timed' : ∀ pulse ∈ idle, pulse.us ≠ 0 := fun pulse member =>
        timed pulse (List.mem_append_left _ member)
      have none : (responded long {}).field true = {} := rfl
      obtain ⟨field, holds, read⟩ := decodeBody_bytes carries short none rest
      have opened : decodePulses (idle ++ ⟨active, us⟩ :: (run ++ rest)) =
          decodeBody (responded long {}) 0 true false passive (run ++ rest) := by
        rw [decodePulses_idle quiet timed', decodePulses, if_neg nb.ne_zero,
          if_neg (fun differs => differs rfl)]
        have sort := normalization_iff.mp nb
        cases long with
        | false =>
            simp only [sort, Bool.false_eq_true, if_false]
            rfl
        | true =>
            simp only [sort, if_true]
            rfl
      exact ⟨field, holds, opened.trans (read.trans (decodeBody_closing closing _))⟩

/-! ## What is returned -/

/-- Of whole bytes, those of a frame are returned. -/
theorem finish_received {data : List UInt8} {field : Field} (holds : field.Holds data) (eod : Bool)
    (nb : Option Bool) (ifr : Field) :
    (finish (received field eod nb ifr) 0).status ≠ .ifrOnly ∧
      ((finish (received field eod nb ifr) 0).status = .ok ↔
        2 ≤ data.length ∧ data.getLastD 0 = crc data.dropLast) ∧
      ∃ status, finish (received field eod nb ifr) 0 = { received field eod nb ifr with status } := by
  have bytes : (received field eod nb ifr).data.bytes.take (received field eod nb ifr).data.len =
      data := holds.bytes
  have len : (received field eod nb ifr).data.len = data.length := holds.len
  have whole : (received field eod nb ifr).status ≠ .ifrOnly :=
    show RxStatus.ok ≠ .ifrOnly by decide
  rw [finish, if_neg (fun wrong => wrong rfl), if_neg whole, bytes, len]
  by_cases two : data.length < 2
  · rw [if_pos two]
    refine ⟨show RxStatus.short ≠ .ifrOnly by decide, ⟨fun wrong => ?_, fun frame => ?_⟩, _, rfl⟩
    · exact absurd (show RxStatus.short = .ok from wrong) (by decide)
    · exact absurd frame.1 (Nat.not_le.mpr two)
  · rw [if_neg two]
    have long := Nat.not_lt.mp two
    by_cases checked : data.getLastD 0 = crc data.dropLast
    · have good : crcCheck data = true := by
        rw [crcCheck, decide_eq_true long, decide_eq_true checked]
        rfl
      rw [good]
      exact ⟨whole, ⟨fun _ => ⟨long, checked⟩, fun _ => rfl⟩, .ok, rfl⟩
    · have bad : crcCheck data = false := by
        rw [crcCheck, decide_eq_false checked, Bool.and_false]
      rw [bad]
      refine ⟨show RxStatus.badCrc ≠ .ifrOnly by decide, ⟨fun wrong => ?_, fun frame => ?_⟩, .badCrc,
        rfl⟩
      · exact absurd (show RxStatus.badCrc = .ok from wrong) (by decide)
      · exact absurd frame.2 checked

/-- Of whole bytes, those of a response alone are returned. -/
theorem finish_responded {ifr : List UInt8} {field : Field} (holds : field.Holds ifr) (long : Bool) :
    (finish (responded long field) 0).status ≠ .ok ∧
      ((finish (responded long field) 0).status = .ifrOnly ↔ 1 ≤ ifr.length) ∧
      ∃ status, finish (responded long field) 0 = { responded long field with status } := by
  have len : (responded long field).ifr.len = ifr.length := holds.len
  have alone : (responded long field).status = .ifrOnly := rfl
  rw [finish, if_neg (fun wrong => wrong rfl), if_pos alone, len]
  by_cases none : ifr.length = 0
  · rw [if_pos none]
    refine ⟨show RxStatus.empty ≠ .ok by decide, ⟨fun wrong => ?_, fun one => ?_⟩, _, rfl⟩
    · exact absurd (show RxStatus.empty = .ifrOnly from wrong) (by decide)
    · exact absurd none (Nat.ne_of_gt one)
  · rw [if_neg none]
    exact ⟨show RxStatus.ifrOnly ≠ .ok by decide,
      ⟨fun _ => Nat.pos_of_ne_zero none, fun _ => rfl⟩, .ifrOnly,
      rfl⟩

/-! ## What is written -/

/-- A field that began empty: nothing behind its twelve bytes was written, and there is room for the
rest of a byte that is begun. -/
structure Inside (start field : Field) (nbits : Nat) : Prop where
  len : field.len ≤ maxFrame
  begun : nbits ≠ 0 → field.len < maxFrame
  behind : field.bytes.drop maxFrame = start.bytes.drop maxFrame

theorem Inside.pushBit {start field next : Field} {nbits nbits' : Nat}
    (inside : Inside start field nbits) {one : Bool}
    (pushed : field.pushBit nbits one = some (next, nbits')) : Inside start next nbits' := by
  rw [Field.pushBit] at pushed
  by_cases full : nbits = 0 ∧ field.len ≥ maxFrame
  · rw [if_pos full] at pushed
    cases pushed
  · have room : field.len < maxFrame := by
      by_cases first : nbits = 0
      · exact Nat.not_le.mp fun long => full ⟨first, long⟩
      · exact inside.begun first
    rw [if_neg full] at pushed
    extract_lets cleared written at pushed
    have kept : written.drop maxFrame = start.bytes.drop maxFrame := by
      rw [← inside.behind]
      refine List.ext_getElem? fun i => ?_
      have other : field.len ≠ maxFrame + i := by omega
      have same : cleared[maxFrame + i]? = field.bytes[maxFrame + i]? := by
        simp only [cleared]
        split
        · rw [List.getElem?_set_ne other]
        · rfl
      rw [List.getElem?_drop, List.getElem?_drop, ← same]
      simp only [written]
      split
      · rw [List.getElem?_modify]
        simp only [if_neg other, Option.map_eq_map, Option.map_id_fun', id]
      · rfl
    by_cases last : nbits + 1 = 8
    · rw [if_pos last] at pushed
      cases pushed
      exact ⟨room, fun wrong => absurd rfl wrong, kept⟩
    · rw [if_neg last] at pushed
      cases pushed
      exact ⟨inside.len, fun _ => room, kept⟩

/-- Neither field has more than its twelve bytes, and nothing behind them was written. -/
structure Contained (start rx : Rx) : Prop where
  dataLen : rx.data.len ≤ maxFrame
  ifrLen : rx.ifr.len ≤ maxFrame
  data : rx.data.bytes.drop maxFrame = start.data.bytes.drop maxFrame
  ifr : rx.ifr.bytes.drop maxFrame = start.ifr.bytes.drop maxFrame

/-- The fields during a reception. -/
structure Receiving (start rx : Rx) (nbits : Nat) (inIfr : Bool) : Prop where
  data : Inside start.data rx.data (if inIfr then 0 else nbits)
  ifr : Inside start.ifr rx.ifr (if inIfr then nbits else 0)

section Writes

variable {start rx : Rx} {nbits : Nat} {inIfr : Bool}

/-- What else is recorded changes no field. -/
theorem Receiving.contained (receiving : Receiving start rx nbits inIfr) {last : Rx}
    (data : last.data = rx.data) (ifr : last.ifr = rx.ifr) : Contained start last := by
  refine ⟨?_, ?_, ?_, ?_⟩
  · rw [data]
    exact receiving.data.len
  · rw [ifr]
    exact receiving.ifr.len
  · rw [data]
    exact receiving.data.behind
  · rw [ifr]
    exact receiving.ifr.behind

theorem Receiving.finish (receiving : Receiving start rx nbits inIfr) :
    Contained start (Vpw.finish rx nbits) := by
  unfold Vpw.finish
  split
  · exact receiving.contained rfl rfl
  · split
    · split
      · exact receiving.contained rfl rfl
      · exact receiving.contained rfl rfl
    · split
      · exact receiving.contained rfl rfl
      · split
        · exact receiving.contained rfl rfl
        · exact receiving.contained rfl rfl

theorem Receiving.pushBit (receiving : Receiving start rx nbits inIfr) {one : Bool} {next : Rx}
    {nbits' : Nat} (pushed : rx.pushBit inIfr nbits one = some (next, nbits')) :
    Receiving start next nbits' inIfr := by
  rw [pushBit_eq, Option.map_eq_some_iff] at pushed
  obtain ⟨⟨field, count⟩, pushed, same⟩ := pushed
  cases same
  cases inIfr with
  | true => exact ⟨receiving.data, receiving.ifr.pushBit pushed⟩
  | false => exact ⟨receiving.data.pushBit pushed, receiving.ifr⟩

theorem decodeBody_contained (train : List Pulse) (needNb : Bool) (expect : Level)
    (receiving : Receiving start rx nbits inIfr) :
    Contained start (decodeBody rx nbits inIfr needNb expect train) := by
  induction train generalizing rx nbits inIfr needNb expect with
  | nil => exact receiving.finish
  | cons pulse train ih =>
      rw [decodeBody]
      split
      · exact receiving.finish
      · split
        · exact receiving.contained rfl rfl
        · cases sort : classify pulse.us with
          | invalid => exact receiving.contained rfl rfl
          | tv4 =>
              dsimp only
              split
              · exact receiving.contained rfl rfl
              · exact receiving.finish
          | tv3 =>
              dsimp only
              split
              · exact receiving.contained rfl rfl
              · split
                · exact receiving.finish
                · rename_i data
                  split
                  · exact receiving.contained rfl rfl
                  · rename_i whole
                    obtain rfl : nbits = 0 := not_not.mp whole
                    obtain rfl : inIfr = false := Bool.eq_false_of_not_eq_true data
                    exact ih true (!expect) ⟨receiving.data, receiving.ifr⟩
          | short =>
              dsimp only
              split
              · exact ih false (!expect) ⟨receiving.data, receiving.ifr⟩
              · split
                · exact receiving.contained rfl rfl
                · rename_i pushed
                  exact ih false (!expect) (receiving.pushBit pushed)
          | long =>
              dsimp only
              split
              · exact ih false (!expect) ⟨receiving.data, receiving.ifr⟩
              · split
                · exact receiving.contained rfl rfl
                · rename_i pushed
                  exact ih false (!expect) (receiving.pushBit pushed)

end Writes

theorem decodePulses_contained (train : List Pulse) : Contained {} (decodePulses train) := by
  have empty : ∀ status nb nbLong inIfr,
      Receiving {} { status, nb, nbLong } 0 inIfr := by
    intro status nb nbLong inIfr
    have field : ∀ nbits, nbits = 0 → Inside {} {} nbits := fun nbits none =>
      ⟨Nat.zero_le _, fun wrong => absurd none wrong, rfl⟩
    cases inIfr with
    | true => exact ⟨field _ rfl, field _ rfl⟩
    | false => exact ⟨field _ rfl, field _ rfl⟩
  induction train with
  | nil => exact (empty .empty false false false).contained rfl rfl
  | cons pulse train ih =>
      rw [decodePulses]
      split
      · exact (empty .empty false false false).contained rfl rfl
      · split
        · exact ih
        · cases classify pulse.us with
          | invalid => exact (empty .noSof false false false).contained rfl rfl
          | tv4 => exact (empty .break false false false).contained rfl rfl
          | tv3 => exact decodeBody_contained train false passive (empty .ok false false false)
          | short => exact decodeBody_contained train false passive (empty .ifrOnly true false true)
          | long => exact decodeBody_contained train false passive (empty .ifrOnly true true true)

/-! ## The language -/

/-- The decoder takes the frames and the responses of the grammar, and no other captures; it returns
their bytes, and it writes no more than the twelve bytes of a field. -/
theorem decode_language (sym : List Symbol) :
    ((decode sym).status = .ok ↔ ∃ data eod nb ifr, IsFrame (captured sym) data eod nb ifr) ∧
      (∀ data eod nb ifr, IsFrame (captured sym) data eod nb ifr →
        (decode sym).data.Holds data ∧ (decode sym).ifr.Holds ifr ∧ (decode sym).eod = eod ∧
          (decode sym).nb = nb.isSome ∧ (decode sym).nbLong = nb.getD false) ∧
      ((decode sym).status = .ifrOnly ↔ ∃ long ifr, IsResponse (captured sym) long ifr) ∧
      (∀ long ifr, IsResponse (captured sym) long ifr →
        (decode sym).ifr.Holds ifr ∧ (decode sym).data.Holds [] ∧ (decode sym).eod = false ∧
          (decode sym).nb = true ∧ (decode sym).nbLong = long) ∧
      Contained {} (decode sym) ∧
      ∀ (rx : Rx) (inIfr needNb : Bool) (expect : Level) (train : List Pulse), rx.data.len = 0 →
        rx.ifr.len = 0 → Contained rx (decodeBody rx 0 inIfr needNb expect train) := by
  have timed : ∀ pulse ∈ captured sym, pulse.us ≠ 0 := by
    intro pulse member
    simpa using List.all_eq_true.1 List.all_takeWhile pulse member
  have read : decode sym = decodePulses (captured sym) := (decodePulses_takeWhile _).symm
  rw [read]
  refine ⟨⟨fun ok => ?_, ?_⟩, ?_, ⟨fun alone => ?_, ?_⟩, ?_, decodePulses_contained _, ?_⟩
  · rcases decodePulses_sound timed with
      ⟨data, eod, nb, ifr, field, ifrField, frame, holds, _, done⟩ |
        ⟨long, ifr, field, _, holds, done⟩ | failed
    · rw [done] at ok
      obtain ⟨two, checked⟩ := (finish_received holds eod nb ifrField).2.1.mp ok
      exact ⟨data, eod, nb, ifr, frame, two, checked⟩
    · rw [done] at ok
      exact absurd ok (finish_responded holds long).1
    · exact absurd ok failed.1
  · rintro ⟨data, eod, nb, ifr, frame, two, checked⟩
    obtain ⟨field, ifrField, holds, _, done⟩ := decodePulses_frame frame timed
    rw [done]
    exact (finish_received holds eod nb ifrField).2.1.mpr ⟨two, checked⟩
  · intro data eod nb ifr frame
    obtain ⟨field, ifrField, holds, ifrHolds, done⟩ := decodePulses_frame frame.train timed
    obtain ⟨_, _, status, fields⟩ := finish_received holds eod nb ifrField
    rw [done, fields]
    exact ⟨holds, ifrHolds, rfl, rfl, rfl⟩
  · rcases decodePulses_sound timed with
      ⟨data, eod, nb, ifr, field, ifrField, _, holds, _, done⟩ |
        ⟨long, ifr, field, response, holds, done⟩ | failed
    · rw [done] at alone
      exact absurd alone (finish_received holds eod nb ifrField).1
    · rw [done] at alone
      exact ⟨long, ifr, response, (finish_responded holds long).2.1.mp alone⟩
    · exact absurd alone failed.2
  · rintro ⟨long, ifr, response, one⟩
    obtain ⟨field, holds, done⟩ := decodePulses_response response timed
    rw [done]
    exact (finish_responded holds long).2.1.mpr one
  · intro long ifr response
    obtain ⟨field, holds, done⟩ := decodePulses_response response.train timed
    obtain ⟨_, _, status, fields⟩ := finish_responded holds long
    rw [done, fields]
    exact ⟨holds, Field.Holds.empty, rfl, rfl, rfl⟩
  · intro rx inIfr needNb expect train data ifr
    have field : ∀ field : Field, field.len = 0 → ∀ nbits, nbits = 0 → Inside field field nbits :=
      fun field none nbits first =>
        ⟨Nat.le_trans (Nat.le_of_eq none) (Nat.zero_le _), fun wrong => absurd first wrong, rfl⟩
    refine decodeBody_contained train needNb expect ⟨field _ data _ ?_, field _ ifr _ ?_⟩
    · split <;> rfl
    · split <;> rfl

end OpenDiag.J1850.Vpw
