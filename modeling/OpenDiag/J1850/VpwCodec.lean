import Mathlib.Algebra.Group.Nat.Even
import Mathlib.Logic.Function.Iterate
import Mathlib.Tactic.IntervalCases
import OpenDiag.J1850.Vpw

/-!
# VPW decoding undoes encoding

The pulses that the encoder writes, one for each bit with alternating levels, and what the decoder
makes of them when every width has moved within the window of its class.
-/

namespace OpenDiag.J1850.Vpw

/-! ## The pulses of a frame -/

/-- The pulses of bits, the first at a level. -/
def bitPulses : Level → List Bool → List Pulse
  | _, [] => []
  | level, one :: bits => ⟨level, bitWidth level one⟩ :: bitPulses (!level) bits

/-- The pulses of a frame before the end of data. -/
def framePulses (data : List UInt8) : List Pulse :=
  ⟨active, txTv3Active⟩ :: bitPulses passive (frameBits data)

/-- The pulses of a frame. -/
def train (data : List UInt8) : List Pulse :=
  framePulses data ++ [⟨passive, txTv3Passive⟩]

@[simp] theorem length_bitPulses (level : Level) (bits : List Bool) :
    (bitPulses level bits).length = bits.length := by
  induction bits generalizing level with
  | nil => rfl
  | cons one bits ih => rw [bitPulses, List.length_cons, ih, List.length_cons]

@[simp] theorem length_train (data : List UInt8) :
    (train data).length = pulseCount data.length := by
  simp [train, framePulses, pulseCount]
  omega

theorem getElem?_bitPulses (level : Level) (bits : List Bool) (k : Nat) :
    (bitPulses level bits)[k]? = bits[k]?.map fun one =>
      ⟨not^[k] level, bitWidth (not^[k] level) one⟩ := by
  induction bits generalizing level k with
  | nil => rfl
  | cons one bits ih =>
      cases k with
      | zero => rfl
      | succ k => simp [bitPulses, ih]

theorem getElem?_frameBits (data : List UInt8) (k : Nat) :
    (frameBits data)[k]? = data[k / 8]?.map fun byte =>
      decide (byte >>> UInt8.ofNat (7 - k % 8) &&& 1 ≠ 0) := by
  induction data generalizing k with
  | nil => rfl
  | cons byte data ih =>
      rw [frameBits_cons]
      by_cases first : k < 8
      · rw [List.getElem?_append_left first, Nat.div_eq_of_lt first, Nat.mod_eq_of_lt first]
        interval_cases k <;> rfl
      · obtain ⟨j, rfl⟩ := Nat.exists_eq_add_of_le' (not_lt.1 first)
        rw [List.getElem?_append_right (by simp), length_msbFirst, Nat.add_sub_cancel, ih,
          Nat.add_div_right _ (by decide), Nat.add_mod_right, List.getElem?_cons_succ]

theorem not_iterate (k : Nat) (level : Level) :
    not^[k] level = if k % 2 = 0 then level else !level := by
  rcases Nat.even_or_odd k with even | odd
  · rw [Bool.involutive_not.iterate_even even, if_pos (Nat.even_iff.1 even), id]
  · rw [Bool.involutive_not.iterate_odd odd, if_neg (by simp [Nat.odd_iff.1 odd])]

/-- `j1850_vpw_pulse_at` works out the pulses of the frame. -/
theorem pulseAt_eq (data : List UInt8) (full : data.length ≠ 0) (short : data.length ≤ maxFrame)
    (k : Nat) : pulseAt data k = (train data)[k]? := by
  have size : (framePulses data).length = 1 + 8 * data.length := by
    simp [framePulses]
    omega
  unfold pulseAt
  by_cases past : k ≥ pulseCount data.length
  · rw [if_pos (.inr (.inr past)), eq_comm, List.getElem?_eq_none_iff, length_train]
    exact past
  rw [if_neg (by simp only [not_or]; exact ⟨full, by omega, past⟩)]
  rw [pulseCount] at past
  rw [train]
  by_cases last : k = pulseCount data.length - 1
  · rw [pulseCount] at last
    rw [if_neg (by omega), pulseCount, if_pos last, List.getElem?_append_right (by omega),
      show k - (framePulses data).length = 0 by omega, List.getElem?_cons_zero]
  rw [List.getElem?_append_left (by rw [pulseCount] at last; omega), framePulses]
  rw [pulseCount] at last
  cases k with
  | zero => rfl
  | succ k =>
      have inside : k / 8 < data.length := by omega
      rw [if_neg k.succ_ne_zero, pulseCount, if_neg last, List.getElem?_cons_succ,
        getElem?_bitPulses, getElem?_frameBits, List.getElem?_eq_getElem inside, not_iterate]
      simp only [Nat.add_sub_cancel, List.getD_eq_getElem?_getD, List.getElem?_eq_getElem inside,
        Option.getD_some, Option.map_some]
      rcases Nat.mod_two_eq_zero_or_one k with even | odd
      · simp [even, show (k + 1) % 2 = 1 by omega, bitWidth, passive, active]
      · simp [odd, show (k + 1) % 2 = 0 by omega, bitWidth, passive, active]

/-! ## Encoding -/

theorem pulses_putPulse (out : List Symbol) (i us : Nat) :
    pulses (putPulse out i us) = (pulses out).set i ⟨i % 2 = 0, us⟩ := by
  induction out generalizing i with
  | nil => simp [putPulse, pulses]
  | cons s out ih =>
      rcases i with _ | _ | i
      · rfl
      · rfl
      · have next : putPulse (s :: out) (i + 2) us = s :: putPulse out i us := by
          simp [putPulse, List.modify_succ_cons]
        rw [next, pulses_cons, pulses_cons, ih, List.set_cons_succ, List.set_cons_succ,
          Nat.add_assoc, Nat.add_mod_right]

@[simp] theorem length_putPulse (out : List Symbol) (i us : Nat) :
    (putPulse out i us).length = out.length := by
  simp [putPulse]

/-- A pulse is written behind those that are there. -/
theorem take_pulses_putPulse {out : List Symbol} {written : List Pulse} {i : Nat} (us : Nat)
    (done : (pulses out).take i = written) (room : i < 2 * out.length) :
    (pulses (putPulse out i us)).take (i + 1) = written ++ [⟨i % 2 = 0, us⟩] := by
  rw [pulses_putPulse, take_set_succ (by simpa using room), done]

theorem encodeBits {out : List Symbol} {written : List Pulse} {i : Nat}
    (done : (pulses out).take i = written) {bits : List Bool}
    (room : i + bits.length ≤ 2 * out.length) :
    (bits.foldl encodeBit (i, out)).1 = i + bits.length ∧
      (bits.foldl encodeBit (i, out)).2.length = out.length ∧
      (pulses (bits.foldl encodeBit (i, out)).2).take (i + bits.length) =
        written ++ bitPulses (i % 2 = 0) bits := by
  induction bits generalizing out written i with
  | nil => simpa [bitPulses] using done
  | cons one bits ih =>
      rw [List.length_cons] at room
      have next := take_pulses_putPulse (bitWidth (i % 2 = 0) one) done (by omega)
      obtain ⟨index, size, pulses⟩ := ih next (by simp; omega)
      rw [List.foldl_cons, encodeBit]
      refine ⟨by rw [index, List.length_cons]; omega, by rw [size, length_putPulse], ?_⟩
      have level : decide ((i + 1) % 2 = 0) = !decide (i % 2 = 0) := by
        rcases Nat.mod_two_eq_zero_or_one i with even | odd
        · simp [even, show (i + 1) % 2 = 1 by omega]
        · simp [odd, show (i + 1) % 2 = 0 by omega]
      rw [List.length_cons, show i + (bits.length + 1) = i + 1 + bits.length by omega, pulses,
        level, bitPulses, List.append_assoc, List.singleton_append]

/-- The encoder writes the pulses of the frame. -/
theorem pulses_encode {data : List UInt8} {out : List Symbol} (full : data.length ≠ 0)
    (short : data.length ≤ maxFrame) (room : 4 * data.length + 1 ≤ out.length) :
    pulses ((encode data out).2.take (encode data out).1) = train data := by
  have begun : (pulses (putPulse out 0 txTv3Active)).take 1 = [⟨active, txTv3Active⟩] :=
    take_pulses_putPulse txTv3Active List.take_zero (by omega)
  have fits : 1 + (frameBits data).length ≤ 2 * (putPulse out 0 txTv3Active).length := by
    simp
    omega
  obtain ⟨index, size, sent⟩ := encodeBits begun fits
  rw [encode, if_neg (by omega)]
  generalize (frameBits data).foldl encodeBit (1, putPulse out 0 txTv3Active) = last at *
  obtain ⟨i, last⟩ := last
  rw [length_putPulse] at size
  rw [length_frameBits] at index sent
  dsimp only at index size sent ⊢
  subst index
  have ended := take_pulses_putPulse txTv3Passive sent (by omega)
  rw [pulses_take, show 2 * ((1 + 8 * data.length + 1) / 2) = 1 + 8 * data.length + 1 by omega,
    ended, train, framePulses]
  simp [passive, show (1 + 8 * data.length) % 2 = 1 by omega]

/-! ## Jitter -/

/-- The receive window of a class. -/
def Width.Holds (us : Nat) : Width → Prop
  | .short => tv1RxMin ≤ us ∧ us ≤ tv1RxMax
  | .long => tv2RxMin ≤ us ∧ us ≤ tv2RxMax
  | .tv3 => tv3RxMin ≤ us ∧ us ≤ tv3RxMax
  | _ => False

/-- A pulse is received at its level, with a width in the window of the class of the one sent. -/
def Jitter (sent received : Pulse) : Prop :=
  received.level = sent.level ∧
    ∃ width ∈ [Width.short, .long, .tv3], width.Holds sent.us ∧ width.Holds received.us

instance (us : Nat) : DecidablePred (Width.Holds us)
  | .short | .long | .tv3 => inferInstanceAs (Decidable (_ ∧ _))
  | .invalid | .tv4 => inferInstanceAs (Decidable False)

instance (sent received : Pulse) : Decidable (Jitter sent received) :=
  inferInstanceAs (Decidable (_ ∧ _))

theorem Width.Holds.classify {us : Nat} {width : Width} (holds : width.Holds us) :
    classify us = width := by
  have short : tv1RxMin = 35 ∧ tv1RxMax = 96 := ⟨rfl, rfl⟩
  have long : tv2RxMin = 97 ∧ tv2RxMax = 163 := ⟨rfl, rfl⟩
  have tv3 : tv3RxMin = 164 ∧ tv3RxMax = 239 := ⟨rfl, rfl⟩
  unfold Vpw.classify
  cases width with
  | short =>
      obtain ⟨least, most⟩ := holds
      rw [if_neg (by omega), if_pos most]
  | long =>
      obtain ⟨least, most⟩ := holds
      rw [if_neg (by omega), if_neg (by omega), if_pos most]
  | tv3 =>
      obtain ⟨least, most⟩ := holds
      rw [if_neg (by omega), if_neg (by omega), if_neg (by omega), if_pos most]
  | _ => exact holds.elim

theorem Jitter.classify {sent received : Pulse} (jitter : Jitter sent received) :
    classify received.us = classify sent.us ∧ received.us ≠ 0 := by
  obtain ⟨_, width, _, sent, received⟩ := jitter
  refine ⟨received.classify.trans sent.classify.symm, ?_⟩
  rintro zero
  rw [zero] at received
  cases width <;> simp [Width.Holds, tv1RxMin, tv2RxMin, tv3RxMin] at received

/-! ## Decoding -/

/-- What is left of a decoder's state when pulses of bits have been read. -/
theorem decodeBody_bits {bits : List Bool} {level : Level} {received tail : List Pulse}
    (jitter : List.Forall₂ Jitter (bitPulses level bits) received) {rx : Rx} {nbits nbits' : Nat}
    {data : Field} (pushed : rx.data.pushBits nbits bits = some (data, nbits')) :
    decodeBody rx nbits false false level (received ++ tail) =
      decodeBody { rx with data } nbits' false false (not^[bits.length] level) tail := by
  induction bits generalizing level received rx nbits with
  | nil =>
      cases jitter
      cases pushed
      rfl
  | cons one bits ih =>
      rw [bitPulses] at jitter
      cases jitter with
      | cons first rest =>
        rename_i pulse received
        obtain ⟨width, nonzero⟩ := first.classify
        rw [Field.pushBits, Option.bind_eq_bind, Option.bind_eq_some_iff] at pushed
        obtain ⟨⟨field, nbits''⟩, push, pushed⟩ := pushed
        have value : bitValue pulse.level (classify pulse.us) = one := by
          rw [width, first.1]
          cases level <;> cases one <;> rfl
        have bit : classify pulse.us = .short ∨ classify pulse.us = .long := by
          rw [width]
          cases level <;> cases one <;> simp [bitWidth, active] <;> decide
        rw [List.cons_append, decodeBody, if_neg nonzero, if_neg (not_not.2 first.1)]
        have pushed' : rx.pushBit false nbits (bitValue pulse.level (classify pulse.us)) =
            some ({ rx with data := field }, nbits'') := by
          rw [value, Rx.pushBit, if_neg (by simp), push]
          rfl
        rcases bit with short | long
        · simp only [short] at pushed' ⊢
          rw [if_neg (by simp), pushed']
          exact ih rest pushed
        · simp only [long] at pushed' ⊢
          rw [if_neg (by simp), pushed']
          exact ih rest pushed

/-- The decoder reads no pulse from the end marker on. -/
theorem decodeBody_takeWhile (rx : Rx) (nbits : Nat) (inIfr needNb : Bool) (expect : Level)
    (train : List Pulse) :
    decodeBody rx nbits inIfr needNb expect (train.takeWhile fun pulse => pulse.us ≠ 0) =
      decodeBody rx nbits inIfr needNb expect train := by
  induction train generalizing rx nbits inIfr needNb expect with
  | nil => rfl
  | cons pulse train ih =>
      by_cases zero : pulse.us = 0
      · simp [zero, decodeBody]
      · rw [List.takeWhile_cons_of_pos (by simpa using zero), decodeBody, decodeBody]
        simp only [ih]

theorem decodePulses_takeWhile (train : List Pulse) :
    decodePulses (train.takeWhile fun pulse => pulse.us ≠ 0) = decodePulses train := by
  induction train with
  | nil => rfl
  | cons pulse train ih =>
      by_cases zero : pulse.us = 0
      · simp [zero, decodePulses]
      · rw [List.takeWhile_cons_of_pos (by simpa using zero), decodePulses, decodePulses]
        simp only [ih, decodeBody_takeWhile]

/-- Passive pulses before the frame are idle. -/
theorem decodePulses_idle {idle : List Pulse} (quiet : ∀ pulse ∈ idle, pulse.level = passive)
    (timed : ∀ pulse ∈ idle, pulse.us ≠ 0) (train : List Pulse) :
    decodePulses (idle ++ train) = decodePulses train := by
  induction idle with
  | nil => rfl
  | cons pulse idle ih =>
      rw [List.forall_mem_cons] at quiet timed
      rw [List.cons_append, decodePulses, if_neg timed.1, if_pos (by simp [quiet.1, passive, active]),
        ih quiet.2 timed.2]

/-- The end of a frame: the capture ends, or a passive pulse of at least an end of data. -/
theorem decodeBody_ending {ending : List Pulse}
    (ended : ending = [] ∨ ∃ us, tv3RxMin ≤ us ∧ ending = [⟨passive, us⟩]) (rx : Rx) :
    ∃ eod, decodeBody rx 0 false false passive ending = finish { rx with eod } 0 := by
  rcases ended with rfl | ⟨us, long, rfl⟩
  · exact ⟨rx.eod, rfl⟩
  have bounds : tv1RxMin = 35 ∧ tv1RxMax = 96 ∧ tv2RxMax = 163 ∧ tv3RxMin = 164 :=
    ⟨rfl, rfl, rfl, rfl⟩
  have width : classify us = .tv3 ∨ classify us = .tv4 := by
    rw [classify, if_neg (by omega), if_neg (by omega), if_neg (by omega)]
    split
    · exact .inl rfl
    · exact .inr rfl
  rw [decodeBody, if_neg (by dsimp only; omega), if_neg (not_not.2 rfl)]
  rcases width with tv3 | tv4
  · simp only [tv3]
    exact ⟨true, rfl⟩
  · simp only [tv4]
    exact ⟨rx.eod, rfl⟩

/-- Whatever the widths within the windows of their classes, the decoder returns the frame. -/
theorem decode_encode_of_jittered {data : List UInt8} (two : 2 ≤ data.length)
    (short : data.length ≤ maxFrame)
    (checked : data.getLastD 0 = crc data.dropLast) {out : List Symbol}
    (room : 4 * data.length + 1 ≤ out.length) {sym : List Symbol}
    {idle received ending : List Pulse}
    (jitter : List.Forall₂ Jitter
      (pulses ((encode data out).2.take (encode data out).1)).dropLast received)
    (quiet : ∀ pulse ∈ idle, pulse.level = passive)
    (ended : ending = [] ∨ ∃ us, tv3RxMin ≤ us ∧ ending = [⟨passive, us⟩])
    (capture : captured sym = idle ++ (received ++ ending)) :
    (decode sym).status = .ok ∧ (decode sym).data.len = data.length ∧
      (decode sym).data.bytes.take data.length = data ∧ (decode sym).ifr.len = 0 := by
  have timed : ∀ pulse ∈ idle, pulse.us ≠ 0 := by
    intro pulse member
    have kept : pulse ∈ captured sym := capture ▸ List.mem_append_left _ member
    simpa using List.all_eq_true.1 List.all_takeWhile pulse kept
  rw [pulses_encode (by omega) short room, train, List.dropLast_concat, framePulses] at jitter
  cases jitter with
  | cons first rest =>
    rename_i sof received
    obtain ⟨width, nonzero⟩ := first.classify
    have room : ([] : List UInt8).length + data.length ≤ maxFrame := by simpa using short
    obtain ⟨field, pushed, holds⟩ := Field.Holds.empty.pushBits room
    have start : decode sym = decodeBody { status := .ok } 0 false false passive
        (received ++ ending) := by
      have sofWidth : classify sof.us = .tv3 := width
      rw [decode, ← decodePulses_takeWhile]
      change decodePulses (captured sym) = _
      rw [capture, decodePulses_idle quiet timed, List.cons_append, decodePulses, if_neg nonzero,
        if_neg (by simp [first.1])]
      simp only [sofWidth]
    have level : not^[(frameBits data).length] passive = passive := by
      rw [length_frameBits, not_iterate, if_pos (by omega)]
    obtain ⟨eod, last⟩ := decodeBody_ending ended { status := .ok, data := field }
    have size : field.len = data.length := by simpa using holds.len
    have bytes : field.bytes.take data.length = data := by simpa [size] using holds.bytes
    have good : crcCheck data = true := by
      rw [crcCheck, checked]
      simp [two]
    have result : decode sym = { status := .ok, data := field, eod } := by
      rw [start, decodeBody_bits rest pushed, level, last]
      simp [finish, size, bytes, good, Nat.not_lt.2 two]
    rw [result]
    exact ⟨rfl, size, bytes, rfl⟩

/-- A frame of two bytes. -/
def shortFrame : List UInt8 :=
  [0x48, crc [0x48]]

/-- The capture of the frame after an idle pulse, with short and long pulses at the ends of their
windows that are closest to each other. -/
def shortCapture : List Symbol :=
  let widths := (framePulses shortFrame).map fun pulse =>
    if pulse.us = tv1Nom then tv1RxMax else if pulse.us = tv2Nom then tv2RxMin else tv3RxMin
  let late := widths.drop 1
  { duration0 := 1000, level0 := passive, duration1 := tv3RxMin, level1 := active } ::
    (List.range 8).map fun i =>
      { duration0 := late.getD (2 * i) 0, level0 := passive
        duration1 := late.getD (2 * i + 1) 0, level1 := active }

theorem decode_encode_shifted :
    (decode shortCapture).status = .ok ∧ (decode shortCapture).data.len = shortFrame.length ∧
      (decode shortCapture).data.bytes.take shortFrame.length = shortFrame ∧
      (decode shortCapture).ifr.len = 0 :=
  @decode_encode_of_jittered shortFrame (by decide) (by decide) (by decide) (List.replicate 9 {})
    (by decide)
    shortCapture [⟨passive, 1000⟩] ((captured shortCapture).drop 1) [] (by decide +kernel)
    (by decide) (.inl rfl) (by decide +kernel)

end OpenDiag.J1850.Vpw
