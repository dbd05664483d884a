import Mathlib.Data.List.Basic

/-!
# The K-Line codec

The format byte of an ISO 14230 message and what it says of the message's length, as
`kline_codec.c` reads them, and the checksum.
-/

namespace OpenDiag.Kline

/-- `kline_addr_mode_t`. -/
inductive AddrMode where
  | none
  | carb
  | physical
  | functional
  deriving DecidableEq, Repr

/-- `KLINE_FMT_CARB_REQ`. -/
def fmtCarbReq : UInt8 := 0x68

/-- `KLINE_FMT_CARB_RESP`. -/
def fmtCarbResp : UInt8 := 0x48

/-- `KLINE_MAX_MSG`. -/
def maxMsg : Nat := 260

/-- `KLINE_CARB_MAX_MSG`. -/
def carbMaxMsg : Nat := 11

/-- `kline_addr_mode`. -/
def addrMode (fmt : UInt8) : AddrMode :=
  if (fmt >>> 6) &&& 3 = 0 then .none
  else if (fmt >>> 6) &&& 3 = 1 then .carb
  else if (fmt >>> 6) &&& 3 = 2 then .physical
  else .functional

/-- `kline_is_carb_fmt`. -/
def isCarbFmt (fmt : UInt8) : Bool :=
  addrMode fmt = .carb

/-- `kline_header_len`. -/
def headerLen (fmt : UInt8) : Nat :=
  match addrMode fmt with
  | .physical | .functional => 3
  | .carb => 3
  | .none => 1

/-- `kline_msg_len`: zero where the bytes do not determine the length. -/
def msgLen (buf : List UInt8) : Nat :=
  match buf with
  | [] => 0
  | fmt :: _ =>
    if isCarbFmt fmt then 0
    else
      let hdr := if addrMode fmt = .none then 1 else 3
      let data := (fmt &&& 0x3f).toNat
      if data = 0 then
        if buf.length < hdr + 1 then 0
        else
          let data := (buf.getD hdr 0).toNat
          if data = 0 then 0 else hdr + 1 + data + 1
      else hdr + data + 1

/-- `kline_checksum`. -/
def checksum (data : List UInt8) : UInt8 :=
  data.foldl (· + ·) 0

/-! ## The format byte -/

theorem forall_byte {P : UInt8 → Prop} (all : ∀ value : Fin 256, P (.ofFin value)) (byte : UInt8) :
    P byte :=
  all byte.toFin

/-- The top two bits are clear where no address follows. -/
theorem addrMode_eq_none (fmt : UInt8) : addrMode fmt = .none ↔ fmt &&& 0xc0 = 0 := by
  revert fmt
  apply forall_byte
  decide +kernel

/-- The exception mode is that of the top two bits 01. -/
theorem isCarbFmt_iff (fmt : UInt8) : isCarbFmt fmt = true ↔ fmt &&& 0xc0 = 0x40 := by
  revert fmt
  apply forall_byte
  decide +kernel

/-- Without the exception mode, `kline_msg_len` and `kline_header_len` agree on the header. -/
theorem headerLen_eq (fmt : UInt8) :
    headerLen fmt = if fmt &&& 0xc0 = 0 then 1 else 3 := by
  have plain := addrMode_eq_none fmt
  unfold headerLen
  cases mode : addrMode fmt <;> simp [mode] at plain ⊢ <;> simp [plain]

/-- What `kline_msg_len` declares on a message with a header of its own. -/
theorem msgLen_cons (fmt : UInt8) (rest : List UInt8) (plain : isCarbFmt fmt = false) :
    msgLen (fmt :: rest) =
      if (fmt &&& 63).toNat = 0 then
        if rest.length < headerLen fmt ∨ ((fmt :: rest).getD (headerLen fmt) 0).toNat = 0 then 0
        else headerLen fmt + ((fmt :: rest).getD (headerLen fmt) 0).toNat + 2
      else headerLen fmt + (fmt &&& 63).toNat + 1 := by
  have header : (if addrMode fmt = .none then 1 else 3) = headerLen fmt := by
    simp only [headerLen_eq, addrMode_eq_none]
  simp only [msgLen, plain, header, List.length_cons, Nat.add_lt_add_iff_right]
  by_cases separate : (fmt &&& 63).toNat = 0
  · by_cases missing : rest.length < headerLen fmt
    · simp [separate, missing]
    · by_cases none : ((fmt :: rest).getD (headerLen fmt) 0).toNat = 0
      · simp only [separate, missing, none]
        simp
      · simp only [separate, missing, none]
        simp
        omega
  · simp only [Bool.false_eq_true, if_false, if_neg separate]

/-- The exception mode declares no length. -/
theorem msgLen_carb (fmt : UInt8) (rest : List UInt8) (carb : isCarbFmt fmt = true) :
    msgLen (fmt :: rest) = 0 := by
  simp [msgLen, carb]

end OpenDiag.Kline
