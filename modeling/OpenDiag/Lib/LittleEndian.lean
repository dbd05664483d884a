import Mathlib.Data.List.Basic
import Mathlib.Tactic.IntervalCases

/-!
# Little-endian integer fields

Sixteen- and thirty-two-bit integers as bytes, least significant byte first, and back.
-/

namespace OpenDiag

/-- The four bytes of a 32-bit integer, least significant first. -/
def put32 (value : UInt32) : List UInt8 :=
  [value.toUInt8, (value >>> 8).toUInt8, (value >>> 16).toUInt8, (value >>> 24).toUInt8]

/-- The 32-bit integer in the first four bytes, least significant first. -/
def get32 (bytes : List UInt8) : UInt32 :=
  (bytes.getD 0 0).toUInt32 ||| (bytes.getD 1 0).toUInt32 <<< 8 |||
    (bytes.getD 2 0).toUInt32 <<< 16 ||| (bytes.getD 3 0).toUInt32 <<< 24

/-- The two bytes of a 16-bit integer, least significant first. -/
def put16 (value : UInt16) : List UInt8 :=
  [value.toUInt8, (value >>> 8).toUInt8]

/-- The 16-bit integer in the first two bytes, least significant first. -/
def get16 (bytes : List UInt8) : UInt16 :=
  (bytes.getD 0 0).toUInt16 ||| (bytes.getD 1 0).toUInt16 <<< 8

@[simp] theorem length_put32 (value : UInt32) : (put32 value).length = 4 := rfl

@[simp] theorem length_put16 (value : UInt16) : (put16 value).length = 2 := rfl

theorem get32_put32_append (value : UInt32) (rest : List UInt8) :
    get32 (put32 value ++ rest) = value := by
  apply UInt32.toBitVec_inj.mp
  ext index bound
  simp [get32, put32, -UInt32.toUInt32_toUInt8]
  interval_cases index <;> simp

@[simp] theorem get32_put32 (value : UInt32) : get32 (put32 value) = value := by
  simpa using get32_put32_append value []

theorem get16_put16_append (value : UInt16) (rest : List UInt8) :
    get16 (put16 value ++ rest) = value := by
  apply UInt16.toBitVec_inj.mp
  ext index bound
  simp [get16, put16, -UInt16.toUInt16_toUInt8]
  interval_cases index <;> simp

@[simp] theorem get16_put16 (value : UInt16) : get16 (put16 value) = value := by
  simpa using get16_put16_append value []

end OpenDiag
