import Mathlib.Data.List.Forall2
import OpenDiag.J1850.Pwm

/-!
# PWM decoding undoes encoding

The cells that the encoder writes, and what the decoder makes of them when every edge has moved
within the windows of the active phases and of the gaps between rising edges.
-/

namespace OpenDiag.J1850.Pwm

/-! ## Encoding -/

/-- The cells of a frame. -/
def cells (data : List UInt8) : List Symbol :=
  sofCell :: (frameBits data).map bitCell

theorem take_put {state : Nat × List Symbol} (room : state.1 < state.2.length) (s : Symbol) :
    (put state s).2.take (put state s).1 = state.2.take state.1 ++ [s] :=
  take_set_succ room s

theorem encodeBits {state : Nat × List Symbol} {bits : List Bool}
    (room : state.1 + bits.length ≤ state.2.length) :
    (bits.foldl (fun state one => put state (bitCell one)) state).2.take
        (bits.foldl (fun state one => put state (bitCell one)) state).1 =
      state.2.take state.1 ++ bits.map bitCell := by
  induction bits generalizing state with
  | nil => simp
  | cons one bits ih =>
      rw [List.length_cons] at room
      rw [List.foldl_cons, ih (by simp [put]; omega), take_put (by omega), List.map_cons,
        List.append_assoc, List.singleton_append]

/-- The encoder writes the cells of the frame. -/
theorem take_encode {data : List UInt8} {out : List Symbol} (full : data.length ≠ 0)
    (short : data.length ≤ maxFrame) (room : data.length * 8 + 1 ≤ out.length) :
    (encode data true out).2.take (encode data true out).1 = cells data := by
  rw [encode, if_neg (by rw [if_pos rfl]; omega), if_pos rfl, encodeBits (by simp [put]; omega),
    take_put (by dsimp only; omega), cells]
  rfl

/-! ## Jitter -/

/-- A width is in a window. -/
def Within (window : Nat × Nat) (us : Nat) : Prop :=
  window.1 ≤ us ∧ us ≤ window.2

instance (window : Nat × Nat) (us : Nat) : Decidable (Within window us) :=
  inferInstanceAs (Decidable (_ ∧ _))

/-- The windows of active phases: of ones, of zeros and of a start of frame. -/
def activeWindows : List (Nat × Nat) :=
  [(tp1RxMin, tp1RxMax), (tp2RxMin, tp2RxMax), (tp7RxMin, tp7RxMax)]

/-- The windows of the gaps between rising edges: of a bit and after a start of frame. -/
def gapWindows : List (Nat × Nat) :=
  [(tp3RxMin, tp3RxMax), (tp4RxMin, tp4RxMax)]

/-- The active phase of a cell is received in the window of the one sent. -/
def ActiveJitter (sent received : Symbol) : Prop :=
  received.level0 = active ∧ received.level1 = passive ∧
    ∃ window ∈ activeWindows, Within window sent.duration0 ∧ Within window received.duration0

/-- The gap to the next rising edge is received in the window of the one sent. -/
def GapJitter (sent received : Symbol) : Prop :=
  ∃ window ∈ gapWindows, Within window (sent.duration0 + sent.duration1) ∧
    Within window (received.duration0 + received.duration1)

instance (sent received : Symbol) : Decidable (ActiveJitter sent received) :=
  inferInstanceAs (Decidable (_ ∧ _))

instance (sent received : Symbol) : Decidable (GapJitter sent received) :=
  inferInstanceAs (Decidable (∃ _ ∈ _, _))

theorem classifyActive_of_bit {us : Nat} (least : 4 ≤ us) (most : us ≤ 18) :
    classifyActive us = if us < 11 then .one else .zero := by
  rw [classifyActive, if_pos ⟨least, most⟩]
  rfl

/-- An active phase received for a bit. -/
theorem ActiveJitter.bit {one : Bool} {received : Symbol}
    (jitter : ActiveJitter (bitCell one) received) :
    4 ≤ received.duration0 ∧ received.duration0 ≤ 18 ∧
      classifyActive received.duration0 = if one then .one else .zero := by
  obtain ⟨_, _, window, member, ⟨from', until'⟩, least, most⟩ := jitter
  simp only [activeWindows, List.mem_cons, List.not_mem_nil, or_false] at member
  rcases member with rfl | rfl | rfl
  all_goals dsimp only [tp1RxMin, tp1RxMax, tp2RxMin, tp2RxMax, tp7RxMin, tp7RxMax] at *
  · have sent : one = true := by
      cases one
      · exact absurd until' (by decide)
      · rfl
    refine ⟨by omega, by omega, ?_⟩
    rw [classifyActive_of_bit least (by omega), if_pos (by omega), sent]
    rfl
  · have sent : one = false := by
      cases one
      · rfl
      · exact absurd from' (by decide)
    refine ⟨by omega, by omega, ?_⟩
    rw [classifyActive_of_bit (by omega) most, if_neg (by omega), sent]
    rfl
  · cases one
    · exact absurd from' (by decide)
    · exact absurd from' (by decide)

/-- The active phase received for a start of frame. -/
theorem ActiveJitter.sof {received : Symbol} (jitter : ActiveJitter sofCell received) :
    27 ≤ received.duration0 ∧ received.duration0 ≤ 34 ∧
      classifyActive received.duration0 = .sof := by
  obtain ⟨_, _, window, member, ⟨from', until'⟩, least, most⟩ := jitter
  simp only [activeWindows, List.mem_cons, List.not_mem_nil, or_false] at member
  rcases member with rfl | rfl | rfl
  · exact absurd until' (by decide)
  · exact absurd until' (by decide)
  · dsimp only [tp7RxMin, tp7RxMax] at least most
    have late : tp2RxMax = 18 := rfl
    exact ⟨least, most, by rw [classifyActive, if_neg (by omega), if_pos ⟨least, most⟩]⟩

/-- The gap received after a bit. -/
theorem GapJitter.bit {one : Bool} {received : Symbol} (jitter : GapJitter (bitCell one) received) :
    21 ≤ received.duration0 + received.duration1 ∧
      received.duration0 + received.duration1 ≤ 27 := by
  obtain ⟨window, member, ⟨from', until'⟩, least, most⟩ := jitter
  simp only [gapWindows, List.mem_cons, List.not_mem_nil, or_false] at member
  rcases member with rfl | rfl
  · exact ⟨least, most⟩
  · cases one
    · exact absurd from' (by decide)
    · exact absurd from' (by decide)

/-- The gap received after a start of frame. -/
theorem GapJitter.sof {received : Symbol} (jitter : GapJitter sofCell received) :
    42 ≤ received.duration0 + received.duration1 ∧
      received.duration0 + received.duration1 ≤ 54 := by
  obtain ⟨window, member, ⟨from', until'⟩, least, most⟩ := jitter
  simp only [gapWindows, List.mem_cons, List.not_mem_nil, or_false] at member
  rcases member with rfl | rfl
  · exact absurd until' (by decide)
  · exact ⟨least, most⟩

/-! ## Decoding -/

/-- The decoder reads no pulse from the end marker on. -/
theorem decodeBody_takeWhile (rx : Rx) (nbits : Nat) (inIfr afterSof : Bool) (prevActive : Nat) :
    ∀ train : List Pulse,
      decodeBody rx nbits inIfr afterSof prevActive (train.takeWhile fun pulse => pulse.us ≠ 0) =
        decodeBody rx nbits inIfr afterSof prevActive train
  | [] => rfl
  | [fall] => by
      by_cases zero : fall.us = 0 <;> simp [decodeBody, zero]
  | fall :: rise :: rest => by
      by_cases zero : fall.us = 0
      · simp [decodeBody, zero]
      by_cases zero' : rise.us = 0
      · simp [decodeBody, zero, zero']
      rw [List.takeWhile_cons_of_pos (by simpa using zero),
        List.takeWhile_cons_of_pos (by simpa using zero'), decodeBody, decodeBody]
      cases takeCell rx nbits inIfr afterSof (prevActive + fall.us) rise.us with
      | error rx => rfl
      | ok next => simp only [decodeBody_takeWhile _ _ _ _ _ rest]

theorem decodePulses_takeWhile (train : List Pulse) :
    decodePulses (train.takeWhile fun pulse => pulse.us ≠ 0) = decodePulses train := by
  induction train with
  | nil => rfl
  | cons pulse train ih =>
      by_cases zero : pulse.us = 0
      · simp [zero, decodePulses]
      · rw [List.takeWhile_cons_of_pos (by simpa using zero), decodePulses, decodePulses]
        simp only [ih, decodeBody_takeWhile]

/-- Passive pulses before the frame are idle. -/
theorem decodePulses_idle {idle : List Pulse} (quiet : ∀ pulse ∈ idle, pulse.level = passive)
    (timed : ∀ pulse ∈ idle, pulse.us ≠ 0) (train : List Pulse) :
    decodePulses (idle ++ train) = decodePulses train := by
  induction idle with
  | nil => rfl
  | cons pulse idle ih =>
      rw [List.forall_mem_cons] at quiet timed
      rw [List.cons_append, decodePulses, if_neg timed.1,
        if_pos (by simp [quiet.1, passive, active]), ih quiet.2 timed.2]

/-- The pulses of cells after the active phase of the first, without the last passive phase. -/
def cellTail (first : Symbol) : List Symbol → List Pulse
  | [] => []
  | next :: cells => ⟨passive, first.duration1⟩ :: ⟨active, next.duration0⟩ :: cellTail next cells

theorem dropLast_pulses {first : Symbol} {cells : List Symbol}
    (levels : ∀ s ∈ first :: cells, s.level0 = active ∧ s.level1 = passive) :
    (pulses (first :: cells)).dropLast = ⟨active, first.duration0⟩ :: cellTail first cells := by
  induction cells generalizing first with
  | nil => simp [pulses, cellTail, (levels first (List.mem_singleton_self _)).1]
  | cons next cells ih =>
      rw [List.forall_mem_cons] at levels
      rw [pulses_cons, List.dropLast_cons_of_ne_nil (by simp),
        List.dropLast_cons_of_ne_nil (by simp [pulses]), ih levels.2, cellTail, levels.1.1,
        levels.1.2]

theorem levels_of_jitter {sent received : List Symbol}
    (jitter : List.Forall₂ ActiveJitter sent received) :
    ∀ s ∈ received, s.level0 = active ∧ s.level1 = passive := by
  induction jitter with
  | nil => simp
  | cons first _ ih => exact List.forall_mem_cons.2 ⟨⟨first.1, first.2.1⟩, ih⟩

/-- What the decoder has before an interval: a start of frame, or a bit. -/
inductive Begun : Bool → Symbol → Symbol → Prop where
  | sof {received : Symbol} (jitter : ActiveJitter sofCell received) : Begun true sofCell received
  | bit {one : Bool} {received : Symbol} (jitter : ActiveJitter (bitCell one) received) :
    Begun false (bitCell one) received

/-- An interval within its window is a cell. -/
theorem takeCell_of_gap {afterSof : Bool} {sent received : Symbol}
    (begun : Begun afterSof sent received) (gap : GapJitter sent received) (rx : Rx)
    (nbits us : Nat) :
    received.duration1 ≠ 0 ∧
      takeCell rx nbits false afterSof (received.duration0 + received.duration1) us =
        takeBit rx nbits false us := by
  have bounds : tp3RxMin = 21 ∧ tp3RxMax = 27 ∧ tp4RxMin = 42 ∧ tp4RxMax = 54 ∧ tp5RxMin = 63 :=
    ⟨rfl, rfl, rfl, rfl, rfl⟩
  cases begun with
  | sof jitter =>
      obtain ⟨_, most, _⟩ := jitter.sof
      obtain ⟨least, short⟩ := gap.sof
      refine ⟨by omega, ?_⟩
      rw [takeCell, if_neg (by omega), if_pos rfl, if_neg (by omega)]
  | bit jitter =>
      obtain ⟨_, most, _⟩ := jitter.bit
      obtain ⟨least, short⟩ := gap.bit
      refine ⟨by omega, ?_⟩
      rw [takeCell, if_neg (by omega), if_neg (by simp), if_neg (by omega), if_neg (by omega)]

/-- The active phase of a bit. -/
theorem takeBit_of_jitter {one : Bool} {received : Symbol}
    (jitter : ActiveJitter (bitCell one) received) {rx : Rx} {nbits nbits' : Nat} {data : Field}
    (push : rx.data.pushBit nbits one = some (data, nbits')) :
    takeBit rx nbits false received.duration0 =
      .ok ({ rx with data, lastActiveUs := received.duration0 }, nbits', false) := by
  obtain ⟨_, _, value⟩ := jitter.bit
  have pushed : rx.pushBit false nbits one = some ({ rx with data }, nbits') := by
    rw [Rx.pushBit, if_neg (by simp), push]
    rfl
  unfold takeBit
  cases one <;> simp [value, pushed]

theorem decodeBody_bits {bits : List Bool} {afterSof : Bool} {sent first : Symbol}
    {received : List Symbol} {ending : List Pulse} (begun : Begun afterSof sent first)
    (jitter : List.Forall₂ ActiveJitter (bits.map bitCell) received)
    (gaps : List.Forall₂ GapJitter (sent :: bits.map bitCell).dropLast (first :: received).dropLast)
    (ended : ending = [] ∨ ∃ us, ending = [⟨passive, us⟩]) {rx : Rx} {nbits nbits' : Nat}
    {data : Field} (pushed : rx.data.pushBits nbits bits = some (data, nbits')) :
    ∃ lastActiveUs,
      decodeBody rx nbits false afterSof first.duration0 (cellTail first received ++ ending) =
        finish { rx with data, lastActiveUs } nbits' := by
  induction bits generalizing afterSof sent first received rx nbits with
  | nil =>
      cases jitter
      cases pushed
      refine ⟨rx.lastActiveUs, ?_⟩
      rcases ended with rfl | ⟨us, rfl⟩
      · rfl
      · simp [cellTail, decodeBody]
  | cons one bits ih =>
      rw [List.map_cons] at jitter gaps
      cases jitter with
      | cons here rest =>
        rename_i next received
        rw [List.dropLast_cons_cons, List.dropLast_cons_cons] at gaps
        cases gaps with
        | cons gap gaps =>
          rw [Field.pushBits, Option.bind_eq_bind, Option.bind_eq_some_iff] at pushed
          obtain ⟨⟨field, nbits''⟩, push, pushed⟩ := pushed
          obtain ⟨nonzero, cell⟩ := takeCell_of_gap begun gap rx nbits next.duration0
          obtain ⟨least, _, _⟩ := here.bit
          obtain ⟨lastActiveUs, last⟩ := @ih false (bitCell one) next received (.bit here) rest gaps
            { rx with data := field, lastActiveUs := next.duration0 } nbits'' pushed
          refine ⟨lastActiveUs, ?_⟩
          rw [cellTail, List.cons_append, List.cons_append, decodeBody, if_neg nonzero,
            if_neg (by simp), if_neg (by dsimp only; omega)]
          dsimp only
          rw [cell, takeBit_of_jitter here push]
          exact last

/-- However the edges move within the windows, the decoder returns the frame. -/
theorem decode_encode_of_moved {data : List UInt8} (two : 2 ≤ data.length)
    (short : data.length ≤ maxFrame)
    (checked : data.getLastD 0 = crc data.dropLast) {out : List Symbol}
    (room : data.length * 8 + 1 ≤ out.length) {received sym : List Symbol}
    {idle ending : List Pulse}
    (actives : List.Forall₂ ActiveJitter
      ((encode data true out).2.take (encode data true out).1) received)
    (gaps : List.Forall₂ GapJitter
      ((encode data true out).2.take (encode data true out).1).dropLast received.dropLast)
    (quiet : ∀ pulse ∈ idle, pulse.level = passive)
    (ended : ending = [] ∨ ∃ us, ending = [⟨passive, us⟩])
    (capture : captured sym = idle ++ ((pulses received).dropLast ++ ending)) :
    (decode sym).status = .ok ∧ (decode sym).data.len = data.length ∧
      (decode sym).data.bytes.take data.length = data ∧ (decode sym).ifr.len = 0 ∧
      (decode sym).eod = false := by
  have timed : ∀ pulse ∈ idle, pulse.us ≠ 0 := by
    intro pulse member
    have kept : pulse ∈ captured sym := capture ▸ List.mem_append_left _ member
    simpa using List.all_eq_true.1 List.all_takeWhile pulse kept
  rw [take_encode (by omega) short room, cells] at actives gaps
  cases actives with
  | cons sof bits =>
    rename_i first received
    have levels := levels_of_jitter (.cons sof bits)
    obtain ⟨least, _, start⟩ := sof.sof
    have room : ([] : List UInt8).length + data.length ≤ maxFrame := by simpa using short
    obtain ⟨field, pushed, holds⟩ := Field.Holds.empty.pushBits room
    obtain ⟨lastActiveUs, last⟩ := @decodeBody_bits _ _ _ first received ending (.sof sof) bits gaps
      ended { status := .ok, lastActiveUs := first.duration0 } 0 0 field pushed
    have size : field.len = data.length := by simpa using holds.len
    have bytes : field.bytes.take data.length = data := by simpa [size] using holds.bytes
    have good : crcCheck data = true := by
      rw [crcCheck, checked]
      simp [two]
    have result : decode sym = { status := .ok, data := field, lastActiveUs } := by
      rw [decode, ← decodePulses_takeWhile]
      change decodePulses (captured sym) = _
      rw [capture, decodePulses_idle quiet timed, dropLast_pulses levels, List.cons_append,
        decodePulses, if_neg (by dsimp only; omega), if_neg (by simp)]
      simp only [start]
      rw [last]
      simp [finish, size, bytes, good, Nat.not_lt.2 two]
    rw [result]
    exact ⟨rfl, size, bytes, rfl, rfl⟩

/-- A frame of two bytes. -/
def shortFrame : List UInt8 :=
  [0x48, crc [0x48]]

/-- The cells of the frame, with the longest active phases and the shortest gaps. -/
def shortCapture : List Symbol :=
  (cells shortFrame).map fun s =>
    if s.duration0 = txTp7 then cell tp7RxMax tp4RxMin
    else if s.duration0 = txTp2 then cell tp2RxMax tp3RxMin
    else cell tp1RxMax tp3RxMin

theorem decode_encode_late_falls :
    (decode shortCapture).status = .ok ∧ (decode shortCapture).data.len = shortFrame.length ∧
      (decode shortCapture).data.bytes.take shortFrame.length = shortFrame ∧
      (decode shortCapture).ifr.len = 0 ∧ (decode shortCapture).eod = false :=
  @decode_encode_of_moved shortFrame (by decide) (by decide) (by decide) (List.replicate 17 {})
    (by decide)
    shortCapture shortCapture [] [(pulses shortCapture).getLastD ⟨active, 0⟩] (by decide +kernel)
    (by decide +kernel) (by decide) (.inr ⟨3, by decide +kernel⟩) (by decide +kernel)

end OpenDiag.J1850.Pwm
