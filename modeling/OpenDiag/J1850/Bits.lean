import OpenDiag.J1850.Common

/-!
# Trains of bits

A receiver gets the bits of a frame one by one. What it has at any time is the bytes that are whole
and the bits of the next one; a field holds no more than twelve bytes.
-/

namespace OpenDiag.J1850

/-! ## Whole bytes -/

/-- Bits in a byte, the first one at the top. -/
def packed (bits : List Bool) : UInt8 :=
  bits.zipIdx.foldl (fun sum bit => sum ||| placed bit.2 bit.1) 0

/-- One more bit is put at its place. -/
theorem packed_append (bits : List Bool) (one : Bool) :
    packed (bits ++ [one]) = packed bits ||| placed bits.length one := by
  rw [packed, List.zipIdx_append, List.foldl_append, Nat.zero_add]
  rfl

/-- A byte is packed from its own bits. -/
theorem packed_msbFirst (byte : UInt8) : packed (msbFirst byte) = byte :=
  placed_msbFirst byte

/-- Eight bits are read back from the byte that they are packed into. -/
theorem msbFirst_packed (b₇ b₆ b₅ b₄ b₃ b₂ b₁ b₀ : Bool) :
    msbFirst (packed [b₇, b₆, b₅, b₄, b₃, b₂, b₁, b₀]) = [b₇, b₆, b₅, b₄, b₃, b₂, b₁, b₀] := by
  revert b₇ b₆ b₅ b₄ b₃ b₂ b₁ b₀
  decide +kernel

/-- The bytes that are whole. -/
def octets : List Bool → List UInt8
  | b₇ :: b₆ :: b₅ :: b₄ :: b₃ :: b₂ :: b₁ :: b₀ :: bits =>
    packed [b₇, b₆, b₅, b₄, b₃, b₂, b₁, b₀] :: octets bits
  | _ => []

/-- The bits of the byte that is not. -/
def pending (bits : List Bool) : List Bool :=
  bits.drop (8 * (bits.length / 8))

@[simp] theorem length_pending (bits : List Bool) : (pending bits).length = bits.length % 8 := by
  rw [pending, List.length_drop]
  omega

/-- A list that does not begin with eight elements is shorter. -/
theorem length_lt_of_no_octet {bits : List Bool}
    (none : ∀ (b₇ b₆ b₅ b₄ b₃ b₂ b₁ b₀ : Bool) (rest : List Bool),
      bits = b₇ :: b₆ :: b₅ :: b₄ :: b₃ :: b₂ :: b₁ :: b₀ :: rest → False) : bits.length < 8 := by
  match bits with
  | [] | [_] | [_, _] | [_, _, _] | [_, _, _, _] | [_, _, _, _, _] | [_, _, _, _, _, _]
  | [_, _, _, _, _, _, _] => simp
  | b₇ :: b₆ :: b₅ :: b₄ :: b₃ :: b₂ :: b₁ :: b₀ :: rest => exact (none _ _ _ _ _ _ _ _ _ rfl).elim

/-- Less than eight bits make no byte. -/
theorem octets_of_short {bits : List Bool} (short : bits.length < 8) : octets bits = [] := by
  unfold octets
  split
  · simp only [List.length_cons] at short
    omega
  · rfl

@[simp] theorem length_octets (bits : List Bool) : (octets bits).length = bits.length / 8 := by
  induction bits using octets.induct with
  | case1 b₇ b₆ b₅ b₄ b₃ b₂ b₁ b₀ bits ih =>
      simp only [octets, List.length_cons, ih]
      omega
  | case2 bits none =>
      have short := length_lt_of_no_octet none
      rw [octets_of_short short, Nat.div_eq_of_lt short]
      rfl

/-- The bits of the whole bytes, and those that are left. -/
theorem frameBits_octets (bits : List Bool) : frameBits (octets bits) ++ pending bits = bits := by
  induction bits using octets.induct with
  | case1 b₇ b₆ b₅ b₄ b₃ b₂ b₁ b₀ bits ih =>
      have further :
          pending (b₇ :: b₆ :: b₅ :: b₄ :: b₃ :: b₂ :: b₁ :: b₀ :: bits) = pending bits := by
        simp only [pending, List.length_cons]
        rw [show 8 * ((bits.length + 1 + 1 + 1 + 1 + 1 + 1 + 1 + 1) / 8) =
          8 * (bits.length / 8) + 8 by omega]
        rfl
      rw [octets, frameBits_cons, msbFirst_packed, further, List.append_assoc, ih]
      rfl
  | case2 bits none =>
      have short := length_lt_of_no_octet none
      rw [octets_of_short short, pending, Nat.div_eq_of_lt short]
      rfl

/-- A train of whole bytes is the train of its bytes. -/
theorem frameBits_octets_of_whole {bits : List Bool} (whole : bits.length % 8 = 0) :
    frameBits (octets bits) = bits := by
  have all := frameBits_octets bits
  rwa [List.length_eq_zero_iff.mp ((length_pending bits).trans whole), List.append_nil] at all

/-- The bytes of a frame are read back before whatever bits follow. -/
theorem octets_frameBits_append (data : List UInt8) (bits : List Bool) :
    octets (frameBits data ++ bits) = data ++ octets bits := by
  induction data with
  | nil => rfl
  | cons byte data ih =>
      rw [frameBits_cons, List.append_assoc, List.cons_append, ← ih]
      conv => rhs; rw [← packed_msbFirst byte]
      rfl

@[simp] theorem octets_frameBits (data : List UInt8) : octets (frameBits data) = data := by
  have all := octets_frameBits_append data []
  rwa [List.append_nil, show octets [] = [] from rfl, List.append_nil] at all

/-- One more bit makes up a byte, or it does not. -/
theorem octets_append (bits : List Bool) (one : Bool) :
    octets (bits ++ [one]) =
      if bits.length % 8 = 7 then octets bits ++ [packed (pending bits ++ [one])]
      else octets bits := by
  conv => lhs; rw [← frameBits_octets bits, List.append_assoc, octets_frameBits_append]
  have left := length_pending bits
  generalize pending bits = rest at left
  split
  · rename_i last
    match rest, left.trans last with
    | [_, _, _, _, _, _, _], _ => rfl
  · rename_i more
    have none : octets (rest ++ [one]) = [] := by
      apply octets_of_short
      rw [List.length_append, List.length_singleton, left]
      omega
    rw [none, List.append_nil]

/-- One more bit is pending, unless it completes a byte. -/
theorem pending_append (bits : List Bool) (one : Bool) :
    pending (bits ++ [one]) = if bits.length % 8 = 7 then [] else pending bits ++ [one] := by
  unfold pending
  rw [List.length_append, List.length_singleton]
  split
  · rw [List.drop_eq_nil_iff, List.length_append, List.length_singleton]
    omega
  · rw [show (bits.length + 1) / 8 = bits.length / 8 by omega,
      List.drop_append_of_le_length (by omega)]

/-! ## A field and its bits -/

/-- The field and the bit count of a receiver that got these bits. -/
structure Field.Has (field : Field) (nbits : Nat) (bits : List Bool) : Prop where
  len : field.len = bits.length / 8
  count : nbits = bits.length % 8
  size : field.bytes.length = maxFrame
  room : bits.length ≤ 8 * maxFrame
  whole : field.bytes.take field.len = octets bits
  begun : nbits ≠ 0 → field.bytes[field.len]? = some (packed (pending bits))

theorem Field.Has.empty : ({} : Field).Has 0 [] :=
  ⟨rfl, rfl, rfl, Nat.zero_le _, rfl, fun wrong => absurd rfl wrong⟩

/-- A field with some bits holds the bytes that they complete. -/
theorem Field.Has.holds {field : Field} {bits : List Bool} (has : field.Has 0 bits) :
    field.Holds (octets bits) :=
  ⟨has.len.trans (length_octets bits).symm, has.size, has.whole⟩

/-- There is room for one more byte as long as the bits do not fill the frame. -/
theorem Field.Has.len_lt {field : Field} {nbits : Nat} {bits : List Bool}
    (has : field.Has nbits bits) (room : bits.length < 8 * maxFrame) : field.len < maxFrame := by
  rw [has.len]
  exact Nat.div_lt_of_lt_mul room

/-- The field as it is before a bit is added to the byte at its end. -/
theorem Field.Has.pushBit_eq {field : Field} {nbits : Nat} {bits : List Bool}
    (has : field.Has nbits bits) (room : bits.length < 8 * maxFrame) (one : Bool) :
    field.pushBit nbits one =
      some (if nbits + 1 = 8 then
          ({ bytes := field.bytes.set field.len (packed (pending bits ++ [one]))
             len := field.len + 1 }, 0)
        else
          ({ field with bytes := field.bytes.set field.len (packed (pending bits ++ [one])) },
            nbits + 1)) := by
  have inside := has.len_lt room
  have counted : nbits = (pending bits).length := has.count.trans (length_pending bits).symm
  rw [packed_append, ← counted]
  by_cases first : nbits = 0
  · have none : pending bits = [] := List.length_eq_zero_iff.mp (counted.symm.trans first)
    rw [first, pushBit_first field inside, none]
    rfl
  · have there := has.begun first
    have same : field.bytes.set field.len (packed (pending bits)) = field.bytes := by
      refine List.ext_getElem? fun i => ?_
      by_cases here : field.len = i
      · rw [← here, List.getElem?_set_self (by rw [has.size]; exact inside), there]
      · rw [List.getElem?_set_ne here]
    have push := pushBit_set field.bytes field.len nbits first (packed (pending bits)) one
    rw [same] at push
    rw [push]

/-- A full field takes no more. -/
theorem Field.Has.pushBit_none {field : Field} {nbits : Nat} {bits : List Bool}
    (has : field.Has nbits bits) (full : bits.length = 8 * maxFrame) (one : Bool) :
    field.pushBit nbits one = none := by
  have len := has.len
  have count := has.count
  rw [full] at len count
  rw [pushBit, if_pos ⟨count, Nat.le_of_eq len.symm⟩]

/-- A bit that is pushed is one of the bits of the field, and there is room for it. -/
theorem Field.Has.pushBit {field : Field} {nbits : Nat} {bits : List Bool}
    (has : field.Has nbits bits) (room : bits.length < 8 * maxFrame) (one : Bool) :
    ∃ next nbits', field.pushBit nbits one = some (next, nbits') ∧
      next.Has nbits' (bits ++ [one]) := by
  have inside := has.len_lt room
  have count := has.count
  have len := has.len
  have longer : (bits ++ [one]).length = bits.length + 1 := by
    rw [List.length_append, List.length_singleton]
  rw [has.pushBit_eq room]
  by_cases last : nbits + 1 = 8
  · rw [if_pos last]
    refine ⟨_, _, rfl, by rw [longer]; dsimp only; omega, by rw [longer]; omega,
      (List.length_set ..).trans has.size, by rw [longer]; exact room, ?_,
      fun wrong => absurd rfl wrong⟩
    rw [octets_append, if_pos (by omega), take_set_succ (by rw [has.size]; exact inside), has.whole]
  · rw [if_neg last]
    refine ⟨_, _, rfl, by rw [longer]; dsimp only; omega, by rw [longer]; omega,
      (List.length_set ..).trans has.size, by rw [longer]; exact room, ?_, fun _ => ?_⟩
    · rw [octets_append, if_neg (by omega), List.take_set_of_le (Nat.le_refl _), has.whole]
    · rw [pending_append, if_neg (by omega), List.getElem?_set_self]
      rw [has.size]
      exact inside

/-! ## A shift register -/

/-- A bit moves in at the bottom of a byte. -/
def shiftIn (byte : UInt8) (one : Bool) : UInt8 :=
  byte <<< 1 ||| if one then 1 else 0

/-- Bits that are shifted in, the highest first, make up their byte. -/
theorem foldl_shiftIn (b₇ b₆ b₅ b₄ b₃ b₂ b₁ b₀ : Bool) :
    [b₇, b₆, b₅, b₄, b₃, b₂, b₁, b₀].foldl shiftIn 0 = packed [b₇, b₆, b₅, b₄, b₃, b₂, b₁, b₀] := by
  revert b₇ b₆ b₅ b₄ b₃ b₂ b₁ b₀
  decide +kernel

/-- The array, its length, the bit count and the register of a receiver that got these bits. -/
structure Shifted (bytes : List UInt8) (len nbits : Nat) (register : UInt8) (bits : List Bool) :
    Prop where
  length : len = bits.length / 8
  count : nbits = bits.length % 8
  whole : bytes.take len = octets bits
  left : register = (pending bits).foldl shiftIn 0

theorem Shifted.empty (bytes : List UInt8) : Shifted bytes 0 0 0 [] :=
  ⟨rfl, rfl, rfl, rfl⟩

section Shift

variable {bytes : List UInt8} {len nbits : Nat} {register : UInt8} {bits : List Bool}

/-- A bit is shifted in before the byte is complete. -/
theorem Shifted.more (shifted : Shifted bytes len nbits register bits) (one : Bool)
    (early : nbits + 1 ≠ 8) :
    Shifted bytes len (nbits + 1) (shiftIn register one) (bits ++ [one]) := by
  have count := shifted.count
  have length := shifted.length
  refine ⟨?_, ?_, ?_, ?_⟩
  · rw [List.length_append, List.length_singleton]
    omega
  · rw [List.length_append, List.length_singleton]
    omega
  · rw [octets_append, if_neg (by omega), shifted.whole]
  · rw [pending_append, if_neg (by omega), List.foldl_append, ← shifted.left]
    rfl

/-- The last bit of a byte: the register goes to the array. -/
theorem Shifted.last (shifted : Shifted bytes len nbits register bits) (one : Bool)
    (last : nbits + 1 = 8) (room : len < bytes.length) :
    Shifted (bytes.set len (shiftIn register one)) (len + 1) 0 0 (bits ++ [one]) := by
  have count := shifted.count
  have length := shifted.length
  have byte : shiftIn register one = packed (pending bits ++ [one]) := by
    have left := length_pending bits
    rw [shifted.left]
    generalize pending bits = rest at left
    match rest, left.trans (show bits.length % 8 = 7 by omega) with
    | [b₇, b₆, b₅, b₄, b₃, b₂, b₁], _ => exact foldl_shiftIn b₇ b₆ b₅ b₄ b₃ b₂ b₁ one
  refine ⟨?_, ?_, ?_, ?_⟩
  · rw [List.length_append, List.length_singleton]
    omega
  · rw [List.length_append, List.length_singleton]
    omega
  · rw [octets_append, if_pos (by omega), take_set_succ room, shifted.whole, byte]
  · rw [pending_append, if_pos (by omega)]
    rfl

end Shift

end OpenDiag.J1850
