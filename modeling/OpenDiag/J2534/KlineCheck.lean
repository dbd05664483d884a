import OpenDiag.Kline.Codec
import OpenDiag.J2534.Requests

/-!
# The transmit check and the K-Line grammar

`validate_message` and `kline_msg_len` read the same header independently. They agree on every
format byte whose length is encoded. On the two bytes of the exception mode the check goes on to
read six length bits that are not there.
-/

namespace OpenDiag.J2534

open Kline

/-! ## The grammar -/

/-- What goes on the wire: the checksum follows the data unless the client computes it. -/
def onWire (disabled : Bool) (data : List UInt8) : List UInt8 :=
  if disabled then data else data ++ [checksum data]

/-- The frame is a message: it has the length that it declares or, in the exception mode, three
header bytes, one to seven data bytes and the checksum. -/
def GrammarAccepts (frame : List UInt8) : Prop :=
  if frame.getD 0 0 = fmtCarbReq ∨ frame.getD 0 0 = fmtCarbResp then
    3 + 1 + 1 ≤ frame.length ∧ frame.length ≤ carbMaxMsg
  else frame.length = msgLen frame

/-- Where the frame is of the exception mode, the grammar refuses it, and so does its length when
the low six bits of its first byte are taken for one. -/
def EncodedElsewhere (frame : List UInt8) : Prop :=
  frame.getD 0 0 = fmtCarbReq ∨ frame.getD 0 0 = fmtCarbResp →
    ¬ (3 + 1 + 1 ≤ frame.length ∧ frame.length ≤ carbMaxMsg) ∧
      frame.length ≠ 3 + (frame.getD 0 0 &&& 63).toNat + 1

instance (frame : List UInt8) : Decidable (GrammarAccepts frame) := by
  unfold GrammarAccepts
  infer_instance

section Frames

variable {fmt : UInt8} {rest : List UInt8} {disabled : Bool}

theorem length_onWire (disabled : Bool) (data : List UInt8) :
    (onWire disabled data).length = data.length + if disabled then 0 else 1 := by
  cases disabled <;> simp [onWire]

theorem getD_onWire (disabled : Bool) {data : List UInt8} {n : Nat} (inside : n < data.length) :
    (onWire disabled data).getD n 0 = data.getD n 0 := by
  cases disabled with
  | true => rfl
  | false =>
      simp only [onWire, Bool.false_eq_true, if_false, List.getD_eq_getElem?_getD]
      rw [List.getElem?_append_left inside]

theorem onWire_cons : onWire disabled (fmt :: rest) =
    fmt :: (onWire disabled (fmt :: rest)).tail := by
  cases disabled <;> rfl

theorem carb_of_listed (listed : fmt = fmtCarbReq ∨ fmt = fmtCarbResp) :
    isCarbFmt fmt = true ∧ (fmt &&& 63).toNat ≠ 0 ∧ (fmt &&& 0xc0 ≠ 0) := by
  rcases listed with rfl | rfl <;> decide

/-- The length that the header declares, read from the data alone. -/
def declared (fmt : UInt8) (data : List UInt8) : Nat :=
  if (fmt &&& 63).toNat = 0 then
    if data.length ≤ headerLen fmt ∨ (data.getD (headerLen fmt) 0).toNat = 0 then 0
    else headerLen fmt + (data.getD (headerLen fmt) 0).toNat + 2
  else headerLen fmt + (fmt &&& 63).toNat + 1

theorem headerLen_le (fmt : UInt8) : headerLen fmt ≤ 3 := by
  rw [headerLen_eq]
  split <;> omega

/-- No message is longer than the standard allows. -/
theorem declared_le (data : List UInt8) : declared fmt data ≤ maxMsg := by
  have header := headerLen_le fmt
  have body : (data.getD (headerLen fmt) 0).toNat < 256 := UInt8.toNat_lt _
  have bits : (fmt &&& 63).toNat ≤ 63 := by
    rw [UInt8.toNat_and]
    exact Nat.and_le_right
  unfold declared maxMsg
  split
  · split <;> omega
  · omega

/-- `kline_msg_len` of the frame is what the data declares. Where the data has no length byte the
checksum takes its place, but the frame is then shorter than any length. -/
theorem length_eq_msgLen (plain : isCarbFmt fmt = false) :
    (onWire disabled (fmt :: rest)).length = msgLen (onWire disabled (fmt :: rest)) ↔
      (onWire disabled (fmt :: rest)).length = declared fmt (fmt :: rest) := by
  have long := length_onWire disabled (fmt :: rest)
  have few : (if disabled = true then 0 else 1) ≤ 1 := by split <;> omega
  have declares := msgLen_cons fmt (onWire disabled (fmt :: rest)).tail plain
  rw [← onWire_cons, List.length_tail] at declares
  rw [declares]
  unfold declared
  by_cases separate : (fmt &&& 63).toNat = 0
  · simp only [if_pos separate, List.length_cons] at long ⊢
    by_cases short : rest.length + 1 ≤ headerLen fmt
    · rw [if_pos (Or.inl short)]
      split <;> omega
    · have same : (onWire disabled (fmt :: rest)).getD (headerLen fmt) 0 =
          (fmt :: rest).getD (headerLen fmt) 0 := getD_onWire disabled (by simpa using short)
      have fits : ¬ (onWire disabled (fmt :: rest)).length - 1 < headerLen fmt := by omega
      simp only [same, fits, short, false_or]
  · simp only [if_neg separate]

end Frames

/-! ## The check -/

section Check

variable {σ : Type*} {vif : Vif σ} {fmt : UInt8} {rest : List UInt8}

theorem msg_else_eq_ok {c : Prop} [Decidable c] {rc : Status} :
    (if c then .msg else rc) = Status.ok ↔ ¬ c ∧ rc = .ok := by
  split <;> simp_all

/-- The check asks for the length that the data declares, and reads one in the exception mode
too. -/
theorem validateKline_iff {channel : Channel} (iso : channel.protocol = protocolIso14230)
    (long : rest.length + 1 ≤ 260) :
    validateKline channel 0 (fmt :: rest) false = .ok ↔
      (isCarbFmt fmt = true → fmt = fmtCarbReq ∨ fmt = fmtCarbResp) ∧
      (onWire (channel.flags &&& flagChecksumDisabled ≠ 0) (fmt :: rest)).length =
        declared fmt (fmt :: rest) := by
  have most : declared fmt (fmt :: rest) ≤ maxMsg := declared_le _
  have header : (if fmt &&& 0xc0 ≠ 0 then 3 else 1) = headerLen fmt := by
    rw [headerLen_eq, ite_not]
  have refused : (fmt &&& 0xc0 = 0x40 ∧ fmt ≠ 0x48 ∧ fmt ≠ 0x68) ↔
      ¬ (isCarbFmt fmt = true → fmt = fmtCarbReq ∨ fmt = fmtCarbResp) := by
    rw [isCarbFmt_iff, fmtCarbReq, fmtCarbResp]
    tauto
  have flags : (0 : UInt32) &&& ~~~flagWaitP3 = 0 := by decide
  rw [length_onWire]
  unfold validateKline
  simp only [iso, flags, List.getD_cons_zero, List.length_cons, header, refused,
    decide_eq_true_eq, msg_else_eq_ok, if_true, not_not]
  simp only [declared, List.length_cons, maxMsg] at most ⊢
  generalize (isCarbFmt fmt = true → fmt = fmtCarbReq ∨ fmt = fmtCarbResp) = Known
  generalize (fmt &&& 63).toNat = bits at most ⊢
  generalize ((fmt :: rest).getD (headerLen fmt) 0).toNat = body at most ⊢
  by_cases separate : bits = 0
  · simp only [if_pos separate] at most ⊢
    by_cases short : rest.length + 1 ≤ headerLen fmt
    · simp [short]
    · by_cases none : body = 0
      · simp [none]
      · simp only [short, none, or_self, if_false] at most
        simp only [short, none, or_self, if_false, false_or, msg_else_eq_ok, not_not]
        by_cases known : Known <;> simp only [known] <;> split <;> simp <;> omega
  · simp only [if_neg separate] at most ⊢
    by_cases known : Known <;> simp only [known] <;> split <;> simp <;> omega

/-- On an ISO 14230 channel the check of a message without flags is that of its length. -/
theorem validateMessage_iff {core : Core σ} {i : ChannelIndex}
    (iso : (core.channels i).protocol = protocolIso14230) (physical : (core.channels i).parent = 0)
    (long : rest.length + 1 ≤ 260) :
    (validateMessage vif core i protocolIso14230 0 (fmt :: rest) false).1 = .ok ↔
      (isCarbFmt fmt = true → fmt = fmtCarbReq ∨ fmt = fmtCarbResp) ∧
      (onWire ((core.channels i).flags &&& flagChecksumDisabled ≠ 0) (fmt :: rest)).length =
        declared fmt (fmt :: rest) := by
  have fits : ¬ ((fmt :: rest).length = 0 ∨ (fmt :: rest).length > dataMax) := by
    simp only [List.length_cons, dataMax]
    omega
  have kline : protocolIso14230 ≠ protocolCan ∧ protocolIso14230 ≠ protocolPwm ∧
      protocolIso14230 ≠ protocolVpw := by decide
  rw [← validateKline_iff iso long]
  unfold validateMessage
  simp only [iso, physical, fits, kline, ne_eq, not_true_eq_false, if_false, or_self]

/-- Outside the exception mode the grammar asks for the length that the data declares. -/
theorem grammarAccepts_iff {disabled : Bool} (unlisted : ¬ (fmt = fmtCarbReq ∨ fmt = fmtCarbResp)) :
    GrammarAccepts (onWire disabled (fmt :: rest)) ↔
      isCarbFmt fmt = false ∧
        (onWire disabled (fmt :: rest)).length = declared fmt (fmt :: rest) := by
  have first : (onWire disabled (fmt :: rest)).getD 0 0 = fmt := getD_onWire disabled (by simp)
  unfold GrammarAccepts
  rw [first, if_neg unlisted]
  cases carb : isCarbFmt fmt with
  | true =>
      rw [onWire_cons, msgLen_carb _ _ carb]
      simp
  | false =>
      rw [length_eq_msgLen carb]
      simp

/-- On an ISO 14230 channel the transmit check of one to 260 bytes agrees with the grammar of the
frame that they become, unless that frame is one of the exception mode which only one of the two
lets pass. -/
theorem check_agrees_with_grammar (vif : Vif σ) (core : Core σ) (i : ChannelIndex)
    (data : List UInt8)
    (iso : (core.channels i).protocol = protocolIso14230) (physical : (core.channels i).parent = 0)
    (some : 1 ≤ data.length) (long : data.length ≤ 260) :
    let frame := onWire ((core.channels i).flags &&& flagChecksumDisabled ≠ 0) data
    ((validateMessage vif core i protocolIso14230 0 data false).1 = .ok ↔ GrammarAccepts frame) ↔
      EncodedElsewhere frame := by
  obtain _ | ⟨fmt, rest⟩ := data
  · simp at some
  dsimp only
  rw [validateMessage_iff iso physical long]
  generalize decide ((core.channels i).flags &&& flagChecksumDisabled ≠ 0) = disabled
  have first : (onWire disabled (fmt :: rest)).getD 0 0 = fmt := getD_onWire disabled (by simp)
  by_cases listed : fmt = fmtCarbReq ∨ fmt = fmtCarbResp
  · -- The check asks for the length of the six bits, which is above the grammar's bound.
    obtain ⟨carb, bits, address⟩ := carb_of_listed listed
    have length : declared fmt (fmt :: rest) = 3 + (fmt &&& 63).toNat + 1 := by
      rw [declared, if_neg bits, headerLen_eq, if_neg address]
    have most : carbMaxMsg < 3 + (fmt &&& 63).toNat + 1 := by
      rcases listed with rfl | rfl <;> decide
    unfold GrammarAccepts EncodedElsewhere
    rw [first, if_pos listed, length]
    simp only [listed, carb, forall_const, true_and]
    omega
  · have same : (isCarbFmt fmt = true → fmt = fmtCarbReq ∨ fmt = fmtCarbResp) ↔
        isCarbFmt fmt = false := by
      simp only [listed, imp_false, Bool.not_eq_true]
    rw [grammarAccepts_iff listed, same]
    unfold EncodedElsewhere
    rw [first]
    simp only [listed, false_implies]

/-- A channel with the protocol of ISO 14230, whose driver adds the checksum. -/
private def isoChannel : Core Script :=
  { channels := fun _ => { id := 1, protocol := protocolIso14230, bus := .kline }, env := {} }

theorem check_agrees_with_grammar_keyword :
    (validateMessage Script.vif isoChannel 0 protocolIso14230 0 [0x81, 0x11, 0xf1, 0x81] false).1 =
        .ok ∧
      GrammarAccepts (onWire false [0x81, 0x11, 0xf1, 0x81]) :=
  have accepted : (validateMessage Script.vif isoChannel 0 protocolIso14230 0
      [0x81, 0x11, 0xf1, 0x81] false).1 = .ok := by decide +kernel
  have agrees := check_agrees_with_grammar Script.vif isoChannel 0
    [0x81, 0x11, 0xf1, 0x81] rfl rfl (by decide) (by decide)
  ⟨accepted, (agrees.2 (by unfold EncodedElsewhere; decide +kernel)).1 accepted⟩

/-- The request of the current powertrain data that every tester sends is refused, and a request
that no module takes for one is accepted. -/
theorem carb_request_refused :
    ¬ ((validateMessage Script.vif isoChannel 0 protocolIso14230 0 [0x68, 0x6a, 0xf1, 0x01, 0x00]
        false).1 = .ok ↔ GrammarAccepts (onWire false [0x68, 0x6a, 0xf1, 0x01, 0x00])) ∧
      ¬ ((validateMessage Script.vif isoChannel 0 protocolIso14230 0
        [0x48, 0x6b, 0x10, 1, 2, 3, 4, 5, 6, 7, 8] false).1 = .ok ↔
          GrammarAccepts (onWire false [0x48, 0x6b, 0x10, 1, 2, 3, 4, 5, 6, 7, 8])) := by
  decide +kernel

end Check

end OpenDiag.J2534
