import Mathlib.Tactic.IntervalCases
import OpenDiag.Elm327.Command
import OpenDiag.Kline.Codec

/-!
# Requests on the byte buses

`elm327_build_bus_request` lays out a request for the J1850 buses and the K-Line, and
`elm327_header_len` says how many bytes stand in front of the data of a frame. For KWP both have to
agree with the grammar by which the K-Line driver tells where a message ends.
-/

namespace OpenDiag.Elm327

/-! ## The code -/

/-- `J1850_HDR_H_BIT`. -/
def j1850HdrHBit : UInt8 := 0x10

/-- `elm327_header_len`. -/
def headerLen (proto : Protocol) : List UInt8 → Nat
  | [] => 3
  | fmt :: rest =>
    if (proto = .j1850Pwm ∨ proto = .j1850Vpw) ∧ fmt &&& j1850HdrHBit ≠ 0 then 1
    else if proto.isKwp then
      let hdr := Kline.headerLen fmt
      if fmt &&& 0x3F = 0 ∧ rest.length + 1 > hdr then hdr + 1 else hdr
    else 3

/-- `elm327_build_bus_request`: nothing where the request does not fit. -/
def buildBusRequest (proto : Protocol) (headerId : UInt32) (data : List UInt8) (cap : Nat) :
    List UInt8 :=
  let fmt := (headerId >>> 16).toUInt8
  let target := (headerId >>> 8).toUInt8
  let source := headerId.toUInt8
  if data.length = 0 ∨ data.length > 0x3F then []
  else if !proto.isKwp then
    if data.length + 3 > cap then [] else [fmt, target, source] ++ data
  else if data.length + 4 > cap then []
  else if fmt &&& 0x3F ≠ 0 then
    [(fmt &&& 0xC0) ||| (UInt8.ofNat data.length &&& 0x3F), target, source] ++ data
  else [fmt &&& 0xC0, target, source, UInt8.ofNat data.length] ++ data

/-! ## The format byte -/

/-- The low bits of a completed format byte are the length. -/
theorem formatByte_length (fmt len : UInt8) :
    ((fmt &&& 0xC0) ||| (len &&& 0x3F)) &&& 0x3F = len &&& 0x3F := by
  apply UInt8.toBitVec_inj.mp
  ext i bound
  simp
  interval_cases i <;> simp

/-- Its high bits are those of the format byte that the client set. -/
theorem formatByte_mode (fmt len : UInt8) :
    ((fmt &&& 0xC0) ||| (len &&& 0x3F)) &&& 0xC0 = fmt &&& 0xC0 := by
  apply UInt8.toBitVec_inj.mp
  ext i bound
  simp
  interval_cases i <;> simp

/-- A format byte with a target and a source behind it. -/
def Addressed (fmt : UInt8) : Prop :=
  Kline.addrMode fmt = .physical ∨ Kline.addrMode fmt = .functional

/-- A format byte with address bits is no CARB format, and begins a header of three bytes. -/
theorem Addressed.mode {fmt byte : UInt8} (addressed : Addressed fmt)
    (same : byte &&& 0xC0 = fmt &&& 0xC0) :
    Kline.isCarbFmt byte = false ∧ Kline.headerLen byte = 3 := by
  have some : fmt &&& 0xC0 ≠ 0 := fun none => by
    have mode := (Kline.addrMode_eq_none fmt).2 none
    rw [Addressed, mode] at addressed
    rcases addressed with wrong | wrong <;> cases wrong
  have plain : Kline.isCarbFmt fmt = false := by
    rcases addressed with mode | mode <;> simp [Kline.isCarbFmt, mode]
  constructor
  · by_contra carb
    rw [Bool.not_eq_false, Kline.isCarbFmt_iff, same, ← Kline.isCarbFmt_iff, plain] at carb
    cases carb
  · rw [Kline.headerLen_eq, same, if_neg some]

/-! ## Requests of KWP -/

section Kwp

variable {proto : Protocol} {fmt : UInt8}

/-- The data of a message with a length in its format byte. -/
structure InFormat (fmt : UInt8) (length : Nat) : Prop where
  plain : Kline.isCarbFmt fmt = false
  header : Kline.headerLen fmt = 3
  low : fmt &&& 0x3F = UInt8.ofNat length
  some : 0 < length
  short : length ≤ 0x3F

/-- The length that a format byte holds, as a number. -/
theorem InFormat.toNat {length : Nat} (form : InFormat fmt length) :
    (fmt &&& 0x3F).toNat = length := by
  have short := form.short
  rw [form.low, UInt8.toNat_ofNat_of_lt' (by omega : length < 256)]

/-- The framer takes a message with its length in the format byte for just as long as it is. -/
theorem InFormat.msgLen {length : Nat} (form : InFormat fmt length) (rest : List UInt8) :
    Kline.msgLen (fmt :: rest) = 3 + length + 1 := by
  have some := form.some
  rw [Kline.msgLen_cons fmt rest form.plain, form.toNat, if_neg (by omega), form.header]

/-- The reader of replies takes three bytes of it for the header. -/
theorem InFormat.headerLen {length : Nat} (form : InFormat fmt length) (kwp : proto.isKwp = true)
    (rest : List UInt8) : headerLen proto (fmt :: rest) = 3 := by
  have some := form.some
  have low : fmt &&& 0x3F ≠ 0 := fun none => by
    have zero := form.toNat
    rw [none] at zero
    exact absurd zero (by simp; omega)
  unfold Elm327.headerLen
  cases proto <;> simp [Protocol.isKwp] at kwp ⊢ <;> simp [low, form.header]

/-- The data of a message with a length byte of its own. -/
structure Separate (fmt : UInt8) : Prop where
  plain : Kline.isCarbFmt fmt = false
  header : Kline.headerLen fmt = 3
  low : fmt &&& 0x3F = 0

/-- Without a length byte the framer waits. -/
theorem Separate.msgLen_short (form : Separate fmt) {rest : List UInt8} (short : rest.length < 3) :
    Kline.msgLen (fmt :: rest) = 0 := by
  rw [Kline.msgLen_cons fmt rest form.plain, form.low, if_pos (show UInt8.toNat 0 = 0 from rfl),
    form.header, if_pos (.inl short)]

/-- The framer takes a message with a length byte for just as long as it is. -/
theorem Separate.msgLen (form : Separate fmt) (target source : UInt8) {length : Nat}
    (some : 0 < length) (short : length ≤ 0x3F) (rest : List UInt8) :
    Kline.msgLen (fmt :: target :: source :: UInt8.ofNat length :: rest) = 4 + length + 1 := by
  have value : (UInt8.ofNat length).toNat = length :=
    UInt8.toNat_ofNat_of_lt' (by omega : length < 256)
  rw [Kline.msgLen_cons _ _ form.plain, form.low, if_pos (show UInt8.toNat 0 = 0 from rfl),
    form.header]
  simp only [List.length_cons, List.getD_cons_succ, List.getD_cons_zero, value]
  rw [if_neg (by omega)]
  omega

/-- The reader of replies takes four bytes of it for the header. -/
theorem Separate.headerLen (form : Separate fmt) (kwp : proto.isKwp = true) {rest : List UInt8}
    (long : 3 ≤ rest.length) : headerLen proto (fmt :: rest) = 4 := by
  unfold Elm327.headerLen
  cases proto <;> simp [Protocol.isKwp] at kwp ⊢ <;> simp [form.low, form.header] <;> omega

/-- What the K-Line driver and the interpreter make of a message. -/
structure Delimited (proto : Protocol) (message data : List UInt8) : Prop where
  length : Kline.msgLen message = message.length
  earlier : ∀ k < message.length,
    Kline.msgLen (message.take k) = 0 ∨ k < Kline.msgLen (message.take k)
  stripped : (message.drop (headerLen proto message)).dropLast = data

/-- A message with its length in the format byte is taken apart as it was put together. -/
theorem InFormat.delimited (kwp : proto.isKwp = true) {data : List UInt8}
    (form : InFormat fmt data.length) (target source sum : UInt8) :
    Delimited proto ([fmt, target, source] ++ data ++ [sum]) data where
  length := by
    refine (form.msgLen _).trans ?_
    simp
    omega
  earlier k inside := by
    cases k with
    | zero => exact .inl rfl
    | succ k =>
        refine .inr ?_
        simp only [List.cons_append, List.take_succ_cons, form.msgLen]
        simp at inside
        omega
  stripped := by
    have header : Elm327.headerLen proto ([fmt, target, source] ++ data ++ [sum]) = 3 :=
      form.headerLen kwp _
    rw [header]
    simp

/-- So is a message with a length byte. -/
theorem Separate.delimited (kwp : proto.isKwp = true) (form : Separate fmt) {data : List UInt8}
    (some : 0 < data.length) (short : data.length ≤ 0x3F) (target source sum : UInt8) :
    Delimited proto ([fmt, target, source, UInt8.ofNat data.length] ++ data ++ [sum]) data where
  length := by
    refine (form.msgLen target source some short _).trans ?_
    simp
    omega
  earlier k inside := by
    simp only [List.length_append, List.length_cons, List.length_nil] at inside
    match k with
    | 0 => exact .inl rfl
    | 1 => exact .inl (form.msgLen_short (by simp))
    | 2 => exact .inl (form.msgLen_short (by simp))
    | 3 => exact .inl (form.msgLen_short (by simp))
    | k + 4 =>
      refine .inr ?_
      simp only [List.cons_append, List.take_succ_cons, form.msgLen target source some short]
      omega
  stripped := by
    have header :
        Elm327.headerLen proto
          ([fmt, target, source, UInt8.ofNat data.length] ++ data ++ [sum]) = 4 :=
      form.headerLen kwp (by simp)
    rw [header]
    simp

end Kwp

/-- With KWP and an address in the header, a request and its checksum make up a message that ends
where the K-Line grammar says, not earlier, and whose data are those that were to be sent. -/
theorem kwp_request_agrees (proto : Protocol) (kwp : proto.isKwp = true) (headerId : UInt32)
    (addressed : Addressed (headerId >>> 16).toUInt8) (data : List UInt8) (cap : Nat)
    (some : 1 ≤ data.length) (short : data.length ≤ 63) (fits : data.length + 4 ≤ cap) :
    let request := buildBusRequest proto headerId data cap
    let message := request ++ [Kline.checksum request]
    Kline.msgLen message = message.length ∧
      (∀ k < message.length,
        Kline.msgLen (message.take k) = 0 ∨ k < Kline.msgLen (message.take k)) ∧
      (message.drop (headerLen proto message)).dropLast = data := by
  intro request message
  have full : ¬ (data.length = 0 ∨ data.length > 0x3F) := by omega
  have room : ¬ data.length + 4 > cap := by omega
  have delimited : Delimited proto message data := by
    by_cases separate : (headerId >>> 16).toUInt8 &&& 0x3F = 0
    · have built : request = [(headerId >>> 16).toUInt8 &&& 0xC0, (headerId >>> 8).toUInt8,
          headerId.toUInt8, UInt8.ofNat data.length] ++ data := by
        simp only [request, buildBusRequest, if_neg full, kwp, Bool.not_true, Bool.false_eq_true,
          if_false, if_neg room, ne_eq, separate, not_true_eq_false]
      have mode := addressed.mode (formatByte_mode (headerId >>> 16).toUInt8 0)
      have low := formatByte_length (headerId >>> 16).toUInt8 0
      rw [UInt8.zero_and, UInt8.or_zero] at mode low
      simp only [message, built]
      exact Separate.delimited kwp ⟨mode.1, mode.2, low⟩ some short _ _ _
    · have built : request = [((headerId >>> 16).toUInt8 &&& 0xC0) |||
          (UInt8.ofNat data.length &&& 0x3F), (headerId >>> 8).toUInt8, headerId.toUInt8] ++
          data := by
        simp only [request, buildBusRequest, if_neg full, kwp, Bool.not_true, Bool.false_eq_true,
          if_false, if_neg room, ne_eq, separate, not_false_eq_true, if_true]
      have mode := addressed.mode
        (formatByte_mode (headerId >>> 16).toUInt8 (UInt8.ofNat data.length))
      have low := formatByte_length (headerId >>> 16).toUInt8 (UInt8.ofNat data.length)
      have whole : UInt8.ofNat data.length &&& 0x3F = UInt8.ofNat data.length := by
        have all : ∀ n : Fin 64, UInt8.ofNat n &&& 0x3F = UInt8.ofNat n := by decide +kernel
        exact all ⟨data.length, by omega⟩
      simp only [message, built]
      exact InFormat.delimited kwp ⟨mode.1, mode.2, low.trans whole, some, short⟩ _ _ _
  exact ⟨delimited.length, delimited.earlier, delimited.stripped⟩

theorem kwp_request_agrees_start :
    let message := [0xC2, 0x33, 0xF1, 0x01, 0x0C, 0xF3]
    Kline.msgLen message = 6 ∧
      (message.drop (headerLen .iso14230KwpFast message)).dropLast = [0x01, 0x0C] := by
  have agrees := kwp_request_agrees .iso14230KwpFast rfl 0xC233F1 (.inr (by decide)) [0x01, 0x0C]
    260 (by decide) (by decide) (by decide)
  exact ⟨agrees.1, agrees.2.2⟩

end OpenDiag.Elm327
