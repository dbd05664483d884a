import OpenDiag.J1850.Common
import OpenDiag.Lib.Crc

/-!
# Errors that the J1850 CRC detects

`j1850_crc` runs the bits of a frame through a register of eight bits, as they are sent. A frame is
accepted if the register is left in one state by all of it, CRC included, so what a changed frame
leaves there depends on the changed bits only.
-/

namespace OpenDiag.J1850

/-! ## The register -/

/-- The register of x⁸ + x⁴ + x³ + x² + 1. -/
def crcRegister : ShiftRegister 8 :=
  .high (by decide) 0x1D#8 rfl

/-- `j1850_crc`, for one bit. -/
def crcStep (crc : UInt8) : UInt8 :=
  if crc &&& 0x80 ≠ 0 then (crc <<< 1) ^^^ 0x1D else crc <<< 1

theorem crcStep_toBitVec (crc : UInt8) :
    (crcStep crc).toBitVec = crcRegister.step crc.toBitVec := by
  have all : ∀ n : Fin 256,
      (crcStep (UInt8.ofNat n)).toBitVec = crcRegister.step (UInt8.ofNat n).toBitVec := by
    decide +kernel
  simpa using all ⟨crc.toNat, crc.toNat_lt⟩

theorem crcStep_iterate (n : Nat) (crc : UInt8) :
    (crcStep^[n] crc).toBitVec = crcRegister.step^[n] crc.toBitVec := by
  induction n generalizing crc with
  | zero => rfl
  | succ n ih =>
      rw [Function.iterate_succ_apply, Function.iterate_succ_apply, ih, crcStep_toBitVec]

theorem crcByte_eq (crc byte : UInt8) : crcByte crc byte = crcStep^[8] (crc ^^^ byte) := rfl

/-- The bits of a byte are the byte. -/
theorem word_msbFirst (byte : UInt8) : crcRegister.word 0 (msbFirst byte) = byte.toBitVec := by
  have all : ∀ n : Fin 256,
      crcRegister.word 0 (msbFirst (UInt8.ofNat n)) = (UInt8.ofNat n).toBitVec := by
    decide +kernel
  simpa using all ⟨byte.toNat, byte.toNat_lt⟩

theorem crcByte_toBitVec (crc byte : UInt8) :
    (crcByte crc byte).toBitVec = crcRegister.shifts crc.toBitVec (msbFirst byte) := by
  have whole : (msbFirst byte).length ≤ 8 := Nat.le_refl 8
  rw [crcByte_eq, crcStep_iterate, crcRegister.shifts_eq_word _ whole, word_msbFirst]
  rfl

/-- The CRC runs the bits of a frame through the register. -/
theorem foldl_crcByte (crc : UInt8) (data : List UInt8) :
    (data.foldl crcByte crc).toBitVec = crcRegister.shifts crc.toBitVec (frameBits data) := by
  induction data generalizing crc with
  | nil => rfl
  | cons byte data ih =>
      rw [List.foldl_cons, ih, crcByte_toBitVec, frameBits_cons, crcRegister.shifts_append]

/-! ## Accepted frames -/

theorem crcByte_inj {crc byte byte' : UInt8} (same : crcByte crc byte = crcByte crc byte') :
    byte = byte' := by
  have states := congrArg UInt8.toBitVec same
  rw [crcByte_eq, crcByte_eq, crcStep_iterate, crcStep_iterate] at states
  have sums : crc ^^^ byte = crc ^^^ byte' := UInt8.toBitVec_inj.1 (crcRegister.iterate_inj states)
  simpa using sums

/-- The state in which an accepted frame leaves the register. -/
theorem crcByte_complement (crc : UInt8) : crcByte crc (~~~crc) = crcByte 0xFF 0 := by
  have sum : crc ^^^ ~~~crc = 0xFF ^^^ 0 := UInt8.toBitVec_inj.1 (xor_not crc.toBitVec)
  rw [crcByte_eq, crcByte_eq, sum]

theorem crcCheck_iff {data : List UInt8} (size : 2 ≤ data.length) :
    crcCheck data = true ↔ data.foldl crcByte 0xFF = crcByte 0xFF 0 := by
  have some : data ≠ [] := List.ne_nil_of_length_pos (by omega)
  obtain ⟨body, last, rfl⟩ := List.eq_nil_or_concat data |>.resolve_left some
  rw [crcCheck, decide_eq_true size, Bool.true_and, decide_eq_true_iff]
  simp only [List.concat_eq_append, List.getLastD_concat, List.dropLast_concat, List.foldl_append,
    List.foldl_cons, List.foldl_nil, crc]
  rw [← crcByte_complement (body.foldl crcByte 0xFF)]
  exact ⟨fun accepted => by rw [accepted], crcByte_inj⟩

/-! ## Errors -/

/-- Which bits of a frame are flipped in another one. -/
def flips (data data' : List UInt8) : List Bool :=
  List.zipWith xor (frameBits data) (frameBits data')

@[simp] theorem length_flips {data data' : List UInt8} (same : data'.length = data.length) :
    (flips data data').length = 8 * data.length := by
  rw [flips, List.length_zipWith, length_frameBits, length_frameBits, same, Nat.min_self]

/-- A frame that is accepted although it differs from an accepted one has an error that the register
does not detect. -/
theorem undetected {data data' : List UInt8} (size : 2 ≤ data.length)
    (same : data'.length = data.length) (accepted : crcCheck data = true)
    (accepted' : crcCheck data' = true) : crcRegister.shifts 0#8 (flips data data') = 0#8 := by
  have bits : (frameBits data).length = (frameBits data').length := by
    rw [length_frameBits, length_frameBits, same]
  have apart := crcRegister.shifts_xor (0xFF : UInt8).toBitVec (0xFF : UInt8).toBitVec bits
  rw [BitVec.xor_self, ← foldl_crcByte, ← foldl_crcByte, (crcCheck_iff size).1 accepted,
    (crcCheck_iff (same ▸ size)).1 accepted', BitVec.xor_self] at apart
  exact apart

/-- The period of the register is longer than a frame. -/
theorem crcRegister_aperiodic (k : Nat) (later : 0 < k) (short : k < 8 * maxFrame) :
    crcRegister.step^[k] (crcRegister.bitAt 0 true) ≠ crcRegister.bitAt 0 true := by
  have all : ∀ k : Fin (8 * maxFrame), 0 < k.val →
      crcRegister.step^[k.val] (crcRegister.bitAt 0 true) ≠ crcRegister.bitAt 0 true := by
    decide +kernel
  exact all ⟨k, short⟩ later

/-- An accepted frame is not accepted any more with one or two bits flipped, nor with some bits
flipped that lie within eight consecutive ones. -/
theorem crcCheck_detects (data data' : List UInt8) (size : 2 ≤ data.length)
    (short : data.length ≤ maxFrame) (accepted : crcCheck data = true)
    (same : data'.length = data.length) :
    ((flips data data').count true = 1 ∨ (flips data data').count true = 2 →
        crcCheck data' = false) ∧
      (true ∈ flips data data' → ShiftRegister.Confined 8 (flips data data') →
        crcCheck data' = false) := by
  constructor
  · intro few
    by_contra missed
    have clear := undetected size same accepted (eq_true_of_ne_false missed)
    refine crcRegister.few_detected (by decide) few (fun k later inside => ?_) clear
    rw [length_flips same] at inside
    exact crcRegister_aperiodic k later (by omega)
  · intro error confined
    by_contra missed
    have clear := undetected size same accepted (eq_true_of_ne_false missed)
    exact crcRegister.confined_detected error confined clear

theorem crcCheck_detects_flip : crcCheck [0x68, 0x6B, 0xF1, 0x01, 0x00, 0x17] = false :=
  (crcCheck_detects [0x68, 0x6A, 0xF1, 0x01, 0x00, 0x17] [0x68, 0x6B, 0xF1, 0x01, 0x00, 0x17]
    (by decide) (by decide) (by decide +kernel) rfl).1 (.inl (by decide +kernel))

end OpenDiag.J1850
