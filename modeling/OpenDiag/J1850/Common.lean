import Mathlib.Data.List.Basic
import OpenDiag.Lib.Memory

/-!
# Symbols, pulses and bytes of SAE J1850

What both modulations share: the symbol words of the peripheral, each of two timed pulses, the CRC
of `j1850_common.c`, and the field of a received frame that `push_bit` fills bit by bit.
-/

namespace OpenDiag.J1850

/-- `J1850_MAX_FRAME`. -/
def maxFrame : Nat := 12

/-! ## Pulses -/

/-- The level of the bus: `true` is active. -/
abbrev Level := Bool

def active : Level := true
def passive : Level := false

/-- `rmt_symbol_word_t`. -/
structure Symbol where
  duration0 : Nat := 0
  level0 : Level := passive
  duration1 : Nat := 0
  level1 : Level := passive
  deriving DecidableEq, Repr

/-- A level and a width in microseconds. -/
structure Pulse where
  level : Level
  us : Nat
  deriving DecidableEq, Repr

/-- The two pulses of each symbol, in order, which `pulse_next` walks. -/
def pulses (sym : List Symbol) : List Pulse :=
  sym.flatMap fun s => [⟨s.level0, s.duration0⟩, ⟨s.level1, s.duration1⟩]

/-- The pulses of a capture: a duration of zero is the peripheral's end marker. -/
def captured (sym : List Symbol) : List Pulse :=
  (pulses sym).takeWhile fun pulse => pulse.us ≠ 0

@[simp] theorem pulses_cons (s : Symbol) (sym : List Symbol) :
    pulses (s :: sym) = ⟨s.level0, s.duration0⟩ :: ⟨s.level1, s.duration1⟩ :: pulses sym := rfl

@[simp] theorem length_pulses (sym : List Symbol) : (pulses sym).length = 2 * sym.length := by
  induction sym with
  | nil => rfl
  | cons s sym ih => simp [ih]; omega

/-- The first symbols are the first pulses, two to a symbol. -/
theorem pulses_take (sym : List Symbol) (n : Nat) :
    pulses (sym.take n) = (pulses sym).take (2 * n) := by
  induction sym generalizing n with
  | nil => simp [pulses]
  | cons s sym ih =>
      cases n with
      | zero => rfl
      | succ n => rw [List.take_succ_cons, pulses_cons, pulses_cons, ih, Nat.mul_succ]; rfl

/-- One of the two pulses of a symbol word. -/
def Symbol.half (s : Symbol) (i : Nat) : Pulse :=
  if i = 0 then ⟨s.level0, s.duration0⟩ else ⟨s.level1, s.duration1⟩

/-- A pulse is a half of its symbol. -/
theorem getElem?_pulses (sym : List Symbol) (k : Nat) :
    (pulses sym)[k]? = sym[k / 2]?.map fun s => s.half (k % 2) := by
  induction sym generalizing k with
  | nil => rfl
  | cons s sym ih =>
      match k with
      | 0 => rfl
      | 1 => rfl
      | k + 2 =>
        rw [pulses_cons, List.getElem?_cons_succ, List.getElem?_cons_succ, ih,
          Nat.add_div_right _ (by decide), List.getElem?_cons_succ, Nat.add_mod_right]

/-- An element written behind the first ones of a list. -/
theorem take_set_succ {α : Type*} {xs : List α} {n : Nat} (room : n < xs.length) (x : α) :
    (xs.set n x).take (n + 1) = xs.take n ++ [x] := by
  rw [List.take_succ_eq_append_getElem (by simpa using room), List.getElem_set_self,
    List.take_set_of_le (Nat.le_refl n)]

/-! ## Bytes and bits -/

/-- The bits of a byte, most significant first. -/
def msbFirst (byte : UInt8) : List Bool :=
  [7, 6, 5, 4, 3, 2, 1, 0].map fun bit => byte >>> bit &&& 1 ≠ 0

/-- The bits of a frame, in the order they are sent. -/
def frameBits (data : List UInt8) : List Bool :=
  data.flatMap msbFirst

@[simp] theorem length_msbFirst (byte : UInt8) : (msbFirst byte).length = 8 := rfl

@[simp] theorem frameBits_cons (byte : UInt8) (data : List UInt8) :
    frameBits (byte :: data) = msbFirst byte ++ frameBits data := rfl

@[simp] theorem length_frameBits (data : List UInt8) :
    (frameBits data).length = 8 * data.length := by
  induction data with
  | nil => rfl
  | cons byte data ih => simp [ih]; omega

/-! ## The CRC -/

/-- `j1850_crc`, for one byte. -/
def crcByte (crc byte : UInt8) : UInt8 :=
  (List.range 8).foldl (fun crc _ =>
    if crc &&& 0x80 ≠ 0 then (crc <<< 1) ^^^ 0x1D else crc <<< 1) (crc ^^^ byte)

def crc (data : List UInt8) : UInt8 :=
  ~~~(data.foldl crcByte 0xFF)

def crcCheck (data : List UInt8) : Bool :=
  decide (2 ≤ data.length) && data.getLastD 0 = crc data.dropLast

/-! ## The field of a received frame -/

/-- A field of a received frame and its length in bytes. -/
structure Field where
  bytes : List UInt8 := List.replicate maxFrame 0
  len : Nat := 0
  deriving DecidableEq, Repr

/-- `push_bit`: appends one bit, unless the field is full. -/
def Field.pushBit (field : Field) (nbits : Nat) (one : Bool) : Option (Field × Nat) :=
  if nbits = 0 ∧ field.len ≥ maxFrame then none
  else
    let bytes := if nbits = 0 then field.bytes.set field.len 0 else field.bytes
    let bytes := if one then
        bytes.modify field.len (· ||| (1 <<< (UInt8.ofNat (7 - nbits))))
      else bytes
    if nbits + 1 = 8 then some ({ bytes, len := field.len + 1 }, 0)
    else some ({ field with bytes }, nbits + 1)

/-- Bits appended one after the other. -/
def Field.pushBits (field : Field) (nbits : Nat) : List Bool → Option (Field × Nat)
  | [] => some (field, nbits)
  | one :: bits => do
    let (field, nbits) ← field.pushBit nbits one
    field.pushBits nbits bits

/-- A field holds some bytes. -/
structure Field.Holds (field : Field) (data : List UInt8) : Prop where
  len : field.len = data.length
  size : field.bytes.length = maxFrame
  bytes : field.bytes.take field.len = data

theorem Field.Holds.empty : ({} : Field).Holds [] :=
  ⟨rfl, rfl, rfl⟩

/-- Bits are pushed one after another, up to the first that does not fit. -/
theorem Field.pushBits_append (field : Field) (nbits : Nat) (first rest : List Bool) :
    field.pushBits nbits (first ++ rest) =
      (field.pushBits nbits first).bind fun (field, nbits) => field.pushBits nbits rest := by
  induction first generalizing field nbits with
  | nil => rfl
  | cons one first ih =>
      simp only [List.cons_append, pushBits, Option.bind_eq_bind]
      cases field.pushBit nbits one with
      | none => rfl
      | some next => exact ih ..

/-- A bit of a byte, in its place. -/
def placed (nbits : Nat) (one : Bool) : UInt8 :=
  if one then 1 <<< UInt8.ofNat (7 - nbits) else 0

/-- The bits of a byte at their places add up to the byte. -/
theorem placed_msbFirst (byte : UInt8) :
    (msbFirst byte).zipIdx.foldl (fun sum bit => sum ||| placed bit.2 bit.1) 0 = byte := by
  have all : ∀ n : Fin 256, (msbFirst (UInt8.ofNat n)).zipIdx.foldl
      (fun sum bit => sum ||| placed bit.2 bit.1) 0 = UInt8.ofNat n := by decide +kernel
  simpa using all ⟨byte.toNat, byte.toNat_lt⟩

/-- A byte that has just been set is modified where it is. -/
theorem modify_set (bytes : List UInt8) (len : Nat) (sum : UInt8) (change : UInt8 → UInt8) :
    (bytes.set len sum).modify len change = bytes.set len (change sum) := by
  refine List.ext_getElem? fun i => ?_
  rw [List.getElem?_modify, List.getElem?_set, List.getElem?_set]
  by_cases here : len = i
  · by_cases inside : i < bytes.length <;> simp [here, inside]
  · simp [here]

/-- A bit appended to a byte that is begun. -/
theorem Field.pushBit_set (bytes : List UInt8) (len nbits : Nat) (begun : nbits ≠ 0) (sum : UInt8)
    (one : Bool) :
    ({ bytes := bytes.set len sum, len } : Field).pushBit nbits one =
      some (if nbits + 1 = 8 then ({ bytes := bytes.set len (sum ||| placed nbits one)
                                     len := len + 1 }, 0)
        else ({ bytes := bytes.set len (sum ||| placed nbits one), len }, nbits + 1)) := by
  cases one
  · by_cases last : nbits + 1 = 8 <;> simp [pushBit, begun, placed, last]
  · by_cases last : nbits + 1 = 8 <;> simp [pushBit, begun, placed, last, modify_set]

/-- The first bit of a byte. -/
theorem Field.pushBit_first (field : Field) (room : field.len < maxFrame) (one : Bool) :
    field.pushBit 0 one =
      some ({ bytes := field.bytes.set field.len (0 ||| placed 0 one), len := field.len }, 1) := by
  have unfilled : ¬ field.len ≥ maxFrame := by omega
  cases one
  · simp [pushBit, unfilled, placed]
  · simp [pushBit, unfilled, placed, modify_set]

/-- The bits of a byte make up the byte. -/
theorem Field.pushBits_msbFirst (field : Field) (room : field.len < maxFrame) (byte : UInt8) :
    field.pushBits 0 (msbFirst byte) =
      some ({ bytes := field.bytes.set field.len byte, len := field.len + 1 }, 0) := by
  have sum := placed_msbFirst byte
  simp only [msbFirst, List.map_cons, List.map_nil, List.zipIdx_cons, List.zipIdx_nil,
    List.foldl_cons, List.foldl_nil, Nat.reduceAdd] at sum
  simp only [msbFirst, List.map_cons, List.map_nil, pushBits, pushBit_first field room,
    Option.bind_eq_bind, Option.bind_some, pushBit_set, Nat.reduceAdd, Nat.reduceEqDiff,
    ne_eq, not_false_eq_true, if_true, if_false, Nat.one_ne_zero, sum]

/-- The bits of a frame are appended to what a field holds. -/
theorem Field.Holds.pushBits {field : Field} {before : List UInt8} (holds : field.Holds before)
    {data : List UInt8} (room : before.length + data.length ≤ maxFrame) :
    ∃ next, field.pushBits 0 (frameBits data) = some (next, 0) ∧ next.Holds (before ++ data) := by
  induction data generalizing field before with
  | nil => exact ⟨field, rfl, by rwa [List.append_nil]⟩
  | cons byte data ih =>
      rw [List.length_cons] at room
      have unfilled : field.len < maxFrame := by rw [holds.len]; omega
      have next : Field.Holds { bytes := field.bytes.set field.len byte, len := field.len + 1 }
          (before ++ [byte]) := by
        refine ⟨by simp [holds.len], by simpa using holds.size, ?_⟩
        have inside : field.len < field.bytes.length := holds.size.symm ▸ unfilled
        rw [take_set_succ inside, holds.bytes]
      obtain ⟨last, pushed, filled⟩ := ih next (by simp; omega)
      refine ⟨last, ?_, by simpa using filled⟩
      rw [frameBits_cons, pushBits_append, pushBits_msbFirst field unfilled]
      exact pushed

end OpenDiag.J1850
