import OpenDiag.J1850.Bits
import OpenDiag.J1850.Pwm

/-!
# The quick decoder of PWM captures

`j1850_pwm_quick_decode` looks at words instead of pulses: at the width of each active phase and at
one sum for the end of data. It reads the data of every capture that the decoder takes for a frame.
-/

namespace OpenDiag.J1850.Pwm

/-! ## The quick decoder -/

/-- The local variables of `j1850_pwm_quick_decode`, with the caller's array. -/
structure Quick where
  out : List UInt8
  len : Nat := 0
  nbits : Nat := 0
  acc : UInt8 := 0
  deriving DecidableEq, Repr

/-- A bit; there is no result when the caller's array does not hold the byte it makes up. -/
def Quick.push (quick : Quick) (cap : Nat) (one : Bool) : Option Quick :=
  let acc := shiftIn quick.acc one
  if quick.nbits + 1 = 8 then
    if quick.len ≥ cap then none
    else some { out := quick.out.set quick.len acc, len := quick.len + 1 }
  else some { quick with nbits := quick.nbits + 1, acc }

/-- What is returned, with the caller's array. -/
def Quick.result (quick : Quick) : Nat × List UInt8 :=
  (if quick.nbits ≠ 0 then 0 else quick.len, quick.out)

/-- `j1850_pwm_quick_decode`, from the word after the start of frame on. -/
def quickBody (cap : Nat) (quick : Quick) : List Symbol → Nat × List UInt8
  | [] => quick.result
  | s :: rest =>
    if s.duration0 = 0 then quick.result
    else
      match quick.push cap (s.duration0 < bitSplit) with
      | none => (0, quick.out)
      | some quick =>
        if s.duration0 + s.duration1 ≥ tp4RxMin then quick.result else quickBody cap quick rest

/-- `j1850_pwm_quick_decode`. -/
def quickDecode (sym : List Symbol) (out : List UInt8) (cap : Nat) : Nat × List UInt8 :=
  if cap = 0 then (0, out)
  else
    match sym.dropWhile fun s => s.level0 ≠ active ∧ s.duration0 ≠ 0 with
    | [] => (0, out)
    | s :: rest =>
      if classifyActive s.duration0 ≠ .sof then (0, out) else quickBody cap { out } rest

/-! ## The response does not touch the data -/

/-- The data stays, and an error is not taken back. -/
structure Rx.Kept (rx later : Rx) : Prop where
  data : later.data = rx.data
  status : later.status = .ok → rx.status = .ok

theorem finish_kept (rx : Rx) (nbits : Nat) : rx.Kept (finish rx nbits) := by
  unfold finish
  split
  · exact ⟨rfl, fun wrong => nomatch wrong⟩
  · split
    · split
      · exact ⟨rfl, fun wrong => nomatch wrong⟩
      · exact ⟨rfl, id⟩
    · split
      · exact ⟨rfl, fun wrong => nomatch wrong⟩
      · split
        · exact ⟨rfl, fun wrong => nomatch wrong⟩
        · exact ⟨rfl, id⟩

theorem measure_kept (rx : Rx) (one : Bool) (us : Nat) : rx.Kept (rx.measure one us) := by
  unfold Rx.measure
  extract_lets
  split <;> exact ⟨rfl, id⟩

/-- What is taken for a response leaves the data alone. -/
def KeepsData (rx : Rx) : Except Rx (Rx × Nat × Bool) → Prop
  | .error later => rx.Kept later
  | .ok (later, _, inIfr) => rx.Kept later ∧ inIfr = true

theorem takeBit_ifr (rx : Rx) (nbits us : Nat) : KeepsData rx (takeBit rx nbits true us) := by
  unfold takeBit
  extract_lets s measured
  split
  · refine ⟨rfl, ?_⟩
    dsimp only
    split <;> exact fun wrong => nomatch wrong
  · have same : rx.Kept measured := measure_kept ..
    simp only [Rx.pushBit, if_true]
    cases measured.ifr.pushBit nbits (decide (s = .one)) with
    | none => exact ⟨same.data, fun wrong => nomatch wrong⟩
    | some next => exact ⟨⟨same.data, same.status⟩, rfl⟩

theorem takeCell_ifr (rx : Rx) (nbits : Nat) (afterSof : Bool) (edgeGap us : Nat) :
    KeepsData rx (takeCell rx nbits true afterSof edgeGap us) := by
  unfold takeCell
  split
  · exact finish_kept rx nbits
  · split
    · split
      · exact ⟨rfl, fun wrong => nomatch wrong⟩
      · exact takeBit_ifr rx nbits us
    · split
      · exact finish_kept rx nbits
      · split
        · exact ⟨rfl, fun wrong => nomatch wrong⟩
        · exact takeBit_ifr rx nbits us

theorem decodeBody_ifr (rx : Rx) (nbits : Nat) (afterSof : Bool) (prevActive : Nat)
    (train : List Pulse) : rx.Kept (decodeBody rx nbits true afterSof prevActive train) := by
  match train with
  | [] => exact finish_kept rx nbits
  | [fall] =>
      unfold decodeBody
      split
      · exact finish_kept rx nbits
      · split
        · exact ⟨rfl, fun wrong => nomatch wrong⟩
        · exact finish_kept rx nbits
  | fall :: rise :: rest =>
      unfold decodeBody
      split
      · exact finish_kept rx nbits
      · split
        · exact ⟨rfl, fun wrong => nomatch wrong⟩
        · split
          · exact finish_kept rx nbits
          · have kept := takeCell_ifr rx nbits afterSof (prevActive + fall.us) rise.us
            cases taken : takeCell rx nbits true afterSof (prevActive + fall.us) rise.us with
            | error later =>
                rw [taken] at kept
                exact kept
            | ok next =>
                obtain ⟨later, nbits', inIfr⟩ := next
                rw [taken] at kept
                obtain ⟨same, rfl⟩ := kept
                have further := decodeBody_ifr later nbits' false rise.us rest
                exact ⟨further.data.trans same.data, fun ok => same.status (further.status ok)⟩

/-- An interval that ends the data: there are whole bytes, which stay, or there is an error. -/
theorem takeCell_late (rx : Rx) (nbits us : Nat) {edgeGap : Nat} (late : edgeGap ≥ tp4RxMin) :
    takeCell rx nbits false false edgeGap us = .error (finish rx nbits) ∨
      takeCell rx nbits false false edgeGap us = .error { rx with status := .framing } ∨
      nbits = 0 ∧ KeepsData rx (takeCell rx nbits false false edgeGap us) := by
  unfold takeCell
  split
  · exact Or.inl rfl
  · simp only [Bool.false_eq_true, if_false]
    split
    · exact Or.inr (Or.inl rfl)
    · rename_i whole
      have kept := takeBit_ifr { rx with eod := true, eodGapUs := edgeGap } nbits us
      refine Or.inr (Or.inr ⟨not_not.mp whole, ?_⟩)
      revert kept
      cases takeBit { rx with eod := true, eodGapUs := edgeGap } nbits true us with
      | error later => exact fun kept => ⟨kept.data, kept.status⟩
      | ok next => exact fun kept => ⟨⟨kept.1.data, kept.1.status⟩, kept.2⟩

/-! ## Both decoders -/

/-- Both decoders have got the same bits, and the caller's array holds a frame. -/
structure Paired (rx : Rx) (nbits : Nat) (quick : Quick) (cap : Nat) (bits : List Bool) : Prop where
  full : rx.data.Has nbits bits
  shifted : Shifted quick.out quick.len quick.nbits quick.acc bits
  cap : maxFrame ≤ cap
  size : maxFrame ≤ quick.out.length

/-- The quick decoder returns the data that the decoder has. -/
def Agrees (rx : Rx) (answer : Nat × List UInt8) : Prop :=
  answer.1 = rx.data.len ∧ answer.2.take answer.1 = rx.data.bytes.take rx.data.len

section Both

variable {rx : Rx} {nbits cap : Nat} {quick : Quick} {bits : List Bool}

theorem finish_ok (ok : (finish rx nbits).status = .ok) : nbits = 0 := by
  by_contra some
  rw [finish, if_pos some] at ok
  cases ok

/-- At a byte boundary both have the same bytes. -/
theorem Paired.result {later : Rx} (paired : Paired rx nbits quick cap bits) (whole : nbits = 0)
    (same : later.data = rx.data) : Agrees later quick.result := by
  have count := paired.full.count
  have none : ¬quick.nbits ≠ 0 := by
    have register := paired.shifted.count
    omega
  have len : quick.len = rx.data.len := paired.shifted.length.trans paired.full.len.symm
  rw [Agrees, Quick.result, if_neg none, same]
  refine ⟨len, ?_⟩
  rw [paired.shifted.whole, paired.full.whole]

theorem Paired.finish (paired : Paired rx nbits quick cap bits)
    (ok : (finish rx nbits).status = .ok) : Agrees (Pwm.finish rx nbits) quick.result :=
  paired.result (finish_ok ok) (finish_kept rx nbits).data

/-- A width in the windows of the bits is read alike. -/
theorem classifyActive_bit {us : Nat} (bit : classifyActive us = .one ∨ classifyActive us = .zero) :
    (classifyActive us = .one) = (us < bitSplit) := by
  unfold classifyActive at bit ⊢
  split at bit
  · rename_i window
    rw [if_pos window]
    split
    · rename_i early
      exact propext ⟨fun _ => early, fun _ => rfl⟩
    · rename_i late
      exact propext ⟨(fun wrong => nomatch wrong), fun early => absurd early late⟩
  · split at bit
    · rcases bit with wrong | wrong <;> cases wrong
    · split at bit
      · rcases bit with wrong | wrong <;> cases wrong
      · rcases bit with wrong | wrong <;> cases wrong

/-- A cell of the data: both get its bit, unless the decoder gives up. -/
theorem Paired.push (paired : Paired rx nbits quick cap bits) (us : Nat) :
    (∃ later, takeBit rx nbits false us = .error later ∧ later.status ≠ .ok) ∨
      ∃ later nbits' quick', takeBit rx nbits false us = .ok (later, nbits', false) ∧
        quick.push cap (us < bitSplit) = some quick' ∧
        Paired later nbits' quick' cap (bits ++ [decide (us < bitSplit)]) := by
  unfold takeBit
  extract_lets s measured
  by_cases bit : s ≠ .one ∧ s ≠ .zero
  · rw [if_pos bit]
    refine Or.inl ⟨_, rfl, ?_⟩
    dsimp only
    split <;> exact fun wrong => nomatch wrong
  · rw [if_neg bit]
    have value : decide (s = .one) = decide (us < bitSplit) := by
      refine decide_eq_decide.mpr (iff_of_eq (classifyActive_bit ?_))
      by_contra none
      exact bit (not_or.mp none)
    simp only [measured, value, Rx.pushBit, Bool.false_eq_true, if_false]
    by_cases room : bits.length < 8 * maxFrame
    · right
      obtain ⟨field, nbits', pushed, has⟩ := paired.full.pushBit room (decide (us < bitSplit))
      have inside : quick.len < maxFrame := by
        rw [paired.shifted.length]
        exact Nat.div_lt_of_lt_mul room
      have wide := paired.cap
      have size := paired.size
      rw [pushed]
      refine ⟨{ rx with data := field, lastActiveUs := us }, nbits', ?_⟩
      unfold Quick.push
      extract_lets acc
      by_cases last : quick.nbits + 1 = 8
      · rw [if_pos last, if_neg (by omega)]
        exact ⟨_, rfl, rfl, has, paired.shifted.last _ last (by omega), wide, by
          rw [List.length_set]
          exact size⟩
      · rw [if_neg last]
        exact ⟨_, rfl, rfl, has, paired.shifted.more _ last, wide, size⟩
    · left
      have full := Nat.le_antisymm paired.full.room (Nat.not_lt.mp room)
      rw [paired.full.pushBit_none full]
      exact ⟨_, rfl, fun wrong => nomatch wrong⟩

end Both

/-- From the active phase of a word on. -/
theorem decodeBody_agrees (cap : Nat) (rest : List Symbol) (w : Symbol) (rx : Rx) (nbits : Nat)
    (quick : Quick) (bits : List Bool) (paired : Paired rx nbits quick cap bits)
    (marked : ∀ s ∈ (w :: rest).dropLast, s.duration0 ≠ 0 ∧ s.duration1 ≠ 0)
    (ok : (decodeBody rx nbits false false w.duration0
      (⟨w.level1, w.duration1⟩ :: pulses rest)).status = .ok) :
    Agrees (decodeBody rx nbits false false w.duration0 (⟨w.level1, w.duration1⟩ :: pulses rest))
      (if w.duration0 + w.duration1 ≥ tp4RxMin then quick.result else quickBody cap quick rest) := by
  induction rest generalizing w rx nbits quick bits with
  | nil =>
      have stop : (if w.duration0 + w.duration1 ≥ tp4RxMin then quick.result
          else quickBody cap quick []) = quick.result := by
        split <;> rfl
      rw [stop]
      change (decodeBody rx nbits false false w.duration0 [⟨w.level1, w.duration1⟩]).status = _ at ok
      change Agrees (decodeBody rx nbits false false w.duration0 [⟨w.level1, w.duration1⟩]) _
      unfold decodeBody at ok ⊢
      split at ok
      · rename_i ended
        rw [if_pos ended]
        exact paired.finish ok
      · rename_i goes
        rw [if_neg goes]
        split at ok
        · cases ok
        · rename_i level
          rw [if_neg level]
          exact paired.finish ok
  | cons next rest ih =>
      rw [List.dropLast_cons_cons, List.forall_mem_cons] at marked
      obtain ⟨⟨_, timed⟩, marked⟩ := marked
      rw [pulses_cons, decodeBody, if_neg timed] at ok ⊢
      split at ok
      · cases ok
      · rename_i level
        rw [if_neg level]
        split at ok
        · -- the capture ends behind the passive phase
          rename_i ended
          rw [if_pos ended]
          have stop : (if w.duration0 + w.duration1 ≥ tp4RxMin then quick.result
              else quickBody cap quick (next :: rest)) = quick.result := by
            rw [quickBody, if_pos ended]
            split <;> rfl
          rw [stop]
          exact paired.finish ok
        · rename_i goes
          rw [if_neg goes]
          by_cases long : w.duration0 + w.duration1 ≥ tp4RxMin
          · rw [if_pos long]
            rcases takeCell_late rx nbits next.duration0 long with cell | cell | ⟨whole, kept⟩
            · rw [cell] at ok ⊢
              exact paired.finish ok
            · rw [cell] at ok
              cases ok
            · revert ok kept
              cases takeCell rx nbits false false (w.duration0 + w.duration1) next.duration0 with
              | error later => exact fun _ kept => paired.result whole kept.data
              | ok state =>
                  obtain ⟨later, nbits', inIfr⟩ := state
                  rintro _ ⟨kept, rfl⟩
                  exact paired.result whole ((decodeBody_ifr ..).data.trans kept.data)
          · rw [if_neg long, quickBody, if_neg goes]
            have early : ¬w.duration0 + w.duration1 ≥ tp5RxMin := fun wide =>
              long (Nat.le_trans (by decide) wide)
            rw [takeCell, if_neg early, if_neg Bool.false_ne_true, if_neg long] at ok ⊢
            by_cases window : w.duration0 + w.duration1 < tp3RxMin ∨
                w.duration0 + w.duration1 > tp3RxMax
            · rw [if_pos window] at ok
              cases ok
            · rw [if_neg window] at ok ⊢
              rcases paired.push next.duration0 with
                ⟨later, refused, bad⟩ | ⟨later, nbits', quick', taken, pushed, paired'⟩
              · rw [refused] at ok
                exact absurd ok bad
              · rw [taken] at ok ⊢
                rw [pushed]
                exact ih next later nbits' quick' _ paired' marked ok

/-- Only what opens with a start of frame is a frame. -/
theorem sof_of_ok {us : Nat} {rest : List Pulse}
    (ok : (decodePulses (⟨active, us⟩ :: rest)).status = .ok) :
    us ≠ 0 ∧ classifyActive us = .sof ∧
      decodePulses (⟨active, us⟩ :: rest) =
        decodeBody { status := .ok, lastActiveUs := us } 0 false true us rest := by
  rw [decodePulses] at ok ⊢
  by_cases zero : us = 0
  · rw [if_pos zero] at ok
    cases ok
  · rw [if_neg zero, if_neg (fun differs => differs rfl)] at ok ⊢
    refine ⟨zero, ?_⟩
    cases sort : classifyActive us with
    | sof => exact ⟨rfl, rfl⟩
    | brk =>
        simp only [sort] at ok
        cases ok
    | invalid =>
        simp only [sort] at ok
        cases ok
    | one =>
        simp only [sort] at ok
        exact nomatch (show RxStatus.ifrOnly = .ok from (decodeBody_ifr ..).status ok)
    | zero =>
        simp only [sort] at ok
        exact nomatch (show RxStatus.ifrOnly = .ok from (decodeBody_ifr ..).status ok)

/-- A frame is not empty. -/
theorem finish_none (rx : Rx) (none : rx.data.len = 0) (ok : (finish rx 0).status = .ok) : False := by
  rw [finish, if_neg (fun wrong => wrong rfl)] at ok
  split at ok
  · rename_i ifr
    split at ok
    · cases ok
    · cases ifr.symm.trans ok
  · rw [if_pos (by rw [none]; decide)] at ok
    cases ok

/-- From the active phase of the start of frame on. -/
theorem decodeSof_agrees (cap : Nat) (out : List UInt8) (frame : maxFrame ≤ cap)
    (inside : cap ≤ out.length) (first : Symbol) (rest : List Symbol)
    (marked : ∀ s ∈ (first :: rest).dropLast, s.duration0 ≠ 0 ∧ s.duration1 ≠ 0)
    (ok : (decodeBody { status := .ok, lastActiveUs := first.duration0 } 0 false true first.duration0
      (⟨first.level1, first.duration1⟩ :: pulses rest)).status = .ok) :
    Agrees (decodeBody { status := .ok, lastActiveUs := first.duration0 } 0 false true first.duration0
      (⟨first.level1, first.duration1⟩ :: pulses rest)) (quickBody cap { out } rest) := by
  cases rest with
  | nil =>
      exfalso
      change (decodeBody _ 0 false true first.duration0
        [⟨first.level1, first.duration1⟩]).status = _ at ok
      unfold decodeBody at ok
      split at ok
      · exact finish_none _ rfl ok
      · split at ok
        · cases ok
        · exact finish_none _ rfl ok
  | cons next rest =>
      rw [List.dropLast_cons_cons, List.forall_mem_cons] at marked
      obtain ⟨⟨_, timed⟩, marked⟩ := marked
      rw [pulses_cons, decodeBody, if_neg timed] at ok ⊢
      split at ok
      · cases ok
      · rename_i passive
        rw [if_neg passive]
        split at ok
        · exact (finish_none _ rfl ok).elim
        · rename_i goes
          rw [if_neg goes, quickBody, if_neg goes]
          by_cases gap : first.duration0 + first.duration1 ≥ tp5RxMin
          · rw [takeCell, if_pos gap] at ok
            exact (finish_none _ rfl ok).elim
          · rw [takeCell, if_neg gap, if_pos rfl] at ok ⊢
            by_cases window : first.duration0 + first.duration1 < tp4RxMin ∨
                first.duration0 + first.duration1 > tp4RxMax
            · rw [if_pos window] at ok
              cases ok
            · rw [if_neg window] at ok ⊢
              have paired : Paired { status := .ok, lastActiveUs := first.duration0 } 0 { out } cap
                  [] := ⟨Field.Has.empty, Shifted.empty out, frame, Nat.le_trans frame inside⟩
              rcases paired.push next.duration0 with
                ⟨later, refused, bad⟩ | ⟨later, nbits', quick', taken, pushed, paired'⟩
              · rw [refused] at ok
                exact absurd ok bad
              · rw [taken] at ok ⊢
                rw [pushed]
                exact decodeBody_agrees cap rest next later nbits' quick' _ paired' marked ok

/-- The quick decoder returns the data of every capture that the decoder takes for a frame. -/
theorem quickDecode_agrees (sym : List Symbol) (opens : ∃ s ∈ sym.head?, s.level0 = active)
    (marked : ∀ s ∈ sym.dropLast, s.duration0 ≠ 0 ∧ s.duration1 ≠ 0)
    (ok : (decode sym).status = .ok) (out : List UInt8) (cap : Nat) (frame : maxFrame ≤ cap)
    (inside : cap ≤ out.length) :
    (quickDecode sym out cap).1 = (decode sym).data.len ∧
      (quickDecode sym out cap).2.take (quickDecode sym out cap).1 =
        (decode sym).data.bytes.take (decode sym).data.len := by
  obtain ⟨first, head, level⟩ := opens
  cases sym with
  | nil => cases head
  | cons s rest =>
      cases head
      rw [decode, pulses_cons, level] at ok ⊢
      obtain ⟨zero, sof, opened⟩ := sof_of_ok ok
      have start : quickDecode (first :: rest) out cap = quickBody cap { out } rest := by
        rw [quickDecode, if_neg (Nat.ne_of_gt (Nat.lt_of_lt_of_le (by decide) frame)),
          List.dropWhile_cons_of_neg (by simp [level])]
        exact if_neg (fun differs => differs sof)
      rw [start, opened]
      rw [opened] at ok
      exact decodeSof_agrees cap out frame inside first rest marked ok

/-- A frame of two bytes, the end of its data, a response of one byte, and the end marker. -/
def answeredCapture : List Symbol :=
  sofCell :: (frameBits [0x48, crc [0x48]]).dropLast.map bitCell ++
    cell txTp2 tp4Nom :: (frameBits [0x10]).dropLast.map bitCell ++
      [{ bitCell false with duration1 := 0 }]

theorem quickDecode_agrees_answered :
    (quickDecode answeredCapture (List.replicate 12 0) 12).1 = (decode answeredCapture).data.len ∧
      (quickDecode answeredCapture (List.replicate 12 0) 12).2.take
          (quickDecode answeredCapture (List.replicate 12 0) 12).1 =
        (decode answeredCapture).data.bytes.take (decode answeredCapture).data.len :=
  quickDecode_agrees answeredCapture ⟨sofCell, rfl, rfl⟩ (by decide +kernel) (by decide +kernel)
    (List.replicate 12 0) 12 (by decide) (by decide)

end OpenDiag.J1850.Pwm
