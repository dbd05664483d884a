import Mathlib.Data.List.TakeWhile
import Mathlib.Tactic.IntervalCases

/-!
# Text and hexadecimal digits

`utility.c`: the conversions from hexadecimal text. Text is bytes, as the source's `char` arrays
are.
-/

namespace OpenDiag

/-- A character of the source as a byte. -/
def ascii (c : Char) : UInt8 :=
  UInt8.ofNat c.toNat

/-- `strlen` and what it counts: the characters before the terminator. -/
def cString (buf : List UInt8) : List UInt8 :=
  buf.takeWhile (· ≠ 0)

/-- A text without a terminator is read to its end. -/
theorem cString_of_no_nul {text : List UInt8} (plain : 0 ∉ text) : cString text = text := by
  refine List.takeWhile_eq_self_iff.2 fun c member => decide_eq_true fun nul => ?_
  exact plain (nul ▸ member)

/-- `hex_char_to_int`: -1 where the character is not a digit. -/
def hexCharToInt (c : UInt8) : Int :=
  if ascii '0' ≤ c ∧ c ≤ ascii '9' then (c - ascii '0').toNat
  else if ascii 'a' ≤ c ∧ c ≤ ascii 'f' then (c - ascii 'a' + 10).toNat
  else if ascii 'A' ≤ c ∧ c ≤ ascii 'F' then (c - ascii 'A' + 10).toNat
  else -1

/-- A hexadecimal digit. -/
def isHex (c : UInt8) : Bool :=
  0 ≤ hexCharToInt c

/-- What is no digit is told by a negative value. -/
theorem hexCharToInt_of_not_isHex {c : UInt8} (other : isHex c = false) : hexCharToInt c = -1 := by
  have all : ∀ n : Fin 256, isHex (UInt8.ofNat n) = false → hexCharToInt (UInt8.ofNat n) = -1 := by
    decide +kernel
  simpa using all ⟨c.toNat, c.toNat_lt⟩ (by simpa using other)

/-- The byte of two digits. -/
def hexByte (high low : Int) : UInt8 :=
  (UInt8.ofNat high.toNat <<< 4) ||| UInt8.ofNat low.toNat

/-- The loop of `hex_string_to_u8_array` with `len` characters left: the count or -1, and the bytes
that were written. -/
def hexLoop (hex out : List UInt8) : Nat → Int × List UInt8
  | 0 | 1 => (out.length, out)
  | len + 2 =>
    let high := hexCharToInt (hex.getD 0 0)
    if high < 0 then (-1, out)
    else
      let low := hexCharToInt (hex.getD 1 0)
      if low < 0 then (-1, out) else hexLoop (hex.drop 2) (out ++ [hexByte high low]) len

/-- `hex_string_to_u8_array`. -/
def hexStringToU8Array (hex : List UInt8) (len size : Nat) : Int × List UInt8 :=
  if len / 2 > size then (-2, []) else hexLoop hex [] len

/-- `hex_string_to_u32_be`, digit by digit. -/
def hexDigits (val : UInt32) : List UInt8 → Option UInt32
  | [] => some val
  | c :: hex =>
    let nibble := hexCharToInt c
    if nibble < 0 then none else hexDigits ((val <<< 4) ||| UInt32.ofNat nibble.toNat) hex

/-- `hex_string_to_u32_be`: nothing where it fails. -/
def hexStringToU32Be (hex : List UInt8) (len : Nat) : Option UInt32 :=
  if len > 8 then none else hexDigits 0 (hex.take len)

/-! ## Digits that are written -/

/-- The digits that the source writes, `0123456789ABCDEF`. -/
def hexval (n : Nat) : UInt8 :=
  (['0', '1', '2', '3', '4', '5', '6', '7', '8', '9', 'A', 'B', 'C', 'D', 'E', 'F'].map ascii).getD
    n 0

/-- A digit is read as it was printed. -/
theorem hexCharToInt_hexval {n : Nat} (digit : n < 16) : hexCharToInt (hexval n) = n := by
  have all : ∀ n : Fin 16, hexCharToInt (hexval n) = n.val := by decide +kernel
  exact all ⟨n, digit⟩

/-- No digit ends a text. -/
theorem hexval_ne_zero {n : Nat} (digit : n < 16) : hexval n ≠ 0 := by
  have all : ∀ n : Fin 16, hexval n ≠ 0 := by decide +kernel
  exact all ⟨n, digit⟩

/-- The two digits of a byte. -/
def hexPair (byte : UInt8) : List UInt8 :=
  [hexval (byte >>> 4).toNat, hexval (byte &&& 0xF).toNat]

theorem toNat_high (byte : UInt8) : (byte >>> 4).toNat < 16 := by
  have all : ∀ n : Fin 256, (UInt8.ofNat n >>> 4).toNat < 16 := by decide +kernel
  simpa using all ⟨byte.toNat, byte.toNat_lt⟩

theorem toNat_low (byte : UInt8) : (byte &&& 0xF).toNat < 16 := by
  have all : ∀ n : Fin 256, (UInt8.ofNat n &&& 0xF).toNat < 16 := by decide +kernel
  simpa using all ⟨byte.toNat, byte.toNat_lt⟩

/-- A byte is put together from its halves. -/
theorem hexByte_halves (byte : UInt8) :
    hexByte (byte >>> 4).toNat (byte &&& 0xF).toNat = byte := by
  have all : ∀ n : Fin 256, hexByte (UInt8.ofNat n >>> 4).toNat (UInt8.ofNat n &&& 0xF).toNat =
      UInt8.ofNat n := by
    decide +kernel
  simpa using all ⟨byte.toNat, byte.toNat_lt⟩

/-- Printed bytes are read back, whatever follows them. -/
theorem hexLoop_hexPair (out data rest : List UInt8) :
    hexLoop (data.flatMap hexPair ++ rest) out (2 * data.length) =
      (((out ++ data).length : Int), out ++ data) := by
  induction data generalizing out with
  | nil => simp [hexLoop]
  | cons byte data ih =>
      have high := hexCharToInt_hexval (toNat_high byte)
      have low := hexCharToInt_hexval (toNat_low byte)
      rw [List.length_cons, Nat.mul_succ, hexLoop]
      simp only [List.flatMap_cons, hexPair, List.cons_append, List.nil_append,
        List.getD_cons_zero, List.getD_cons_succ, high, low, List.drop_succ_cons, List.drop_zero,
        hexByte_halves]
      rw [if_neg (by omega), if_neg (by omega), ih, List.append_assoc, List.singleton_append]

/-- Bytes that were written as digits are read back. -/
theorem hexStringToU8Array_hexPair {data : List UInt8} {size : Nat} (room : data.length ≤ size)
    (rest : List UInt8) :
    hexStringToU8Array (data.flatMap hexPair ++ rest) (2 * data.length) size =
      ((data.length : Int), data) := by
  rw [hexStringToU8Array, if_neg (by omega), hexLoop_hexPair]
  rfl

/-! ## What is read -/

/-- Digits in pairs as bytes. -/
def hexBytes : List UInt8 → List UInt8
  | high :: low :: hex => hexByte (hexCharToInt high) (hexCharToInt low) :: hexBytes hex
  | _ => []

/-- Two digits make a byte, and an odd one is left over. -/
theorem length_hexBytes (hex : List UInt8) : (hexBytes hex).length = hex.length / 2 := by
  induction hex using hexBytes.induct with
  | case1 high low hex ih =>
      simp only [hexBytes, List.length_cons, ih]
      omega
  | case2 hex short =>
      match hex, short with
      | [], _ => rfl
      | [_], _ => simp [hexBytes]
      | _ :: _ :: _, short => exact (short _ _ _ rfl).elim

/-- The loop reads all of an even number of characters exactly if they are digits. -/
theorem hexLoop_eq {hex : List UInt8} (even : hex.length % 2 = 0) (rest out : List UInt8) :
    (hex.all isHex = true →
      hexLoop (hex ++ rest) out hex.length =
        (((out ++ hexBytes hex).length : Int), out ++ hexBytes hex)) ∧
      (hex.all isHex = false → (hexLoop (hex ++ rest) out hex.length).1 = -1) := by
  induction hex using hexBytes.induct generalizing out with
  | case1 high low hex ih =>
      simp only [List.length_cons] at even ⊢
      have ih := ih (by omega) (out ++ [hexByte (hexCharToInt high) (hexCharToInt low)])
      simp only [List.cons_append, hexLoop, List.getD_cons_zero, List.getD_cons_succ,
        List.drop_succ_cons, List.drop_zero, List.all_cons, isHex]
      by_cases digit : hexCharToInt high < 0
      · simp [digit]
      by_cases digit' : hexCharToInt low < 0
      · simp [digit, digit']
      · simp only [digit, digit', if_false, show 0 ≤ hexCharToInt high by omega,
          show 0 ≤ hexCharToInt low by omega, decide_true, Bool.true_and, hexBytes]
        exact ⟨fun all => by rw [ih.1 all]; simp, ih.2⟩
  | case2 hex short =>
      match hex, short with
      | [], _ => simp [hexLoop, hexBytes]
      | [_], _ => simp at even
      | _ :: _ :: _, short => exact (short _ _ _ rfl).elim

end OpenDiag
