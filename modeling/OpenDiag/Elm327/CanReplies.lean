import Mathlib.Data.Fintype.Card
import Mathlib.Tactic.IntervalCases
import OpenDiag.Elm327.CanXfer

/-!
# The replies of several ECUs

Up to eight ECUs answer a functional request, each with messages of its own, in any order of their
frames. Each frame of a message is printed when it comes, each first frame is answered by a flow
control to its sender, and the loop does not end inside of a message.
-/

namespace OpenDiag.Elm327

open Isotp

/-! ## What the ECUs send -/

/-- What is left of a message after its first frame, and the next sequence number. -/
structure Sending where
  left : Nat
  sequence : UInt8
  deriving DecidableEq, Repr

/-- The messages that are in progress, by the identifiers of the replies. -/
abbrev Progress := UInt32 → Option Sending

/-- The kind of an ISO-TP frame. -/
def pciType (f : CanFrame) : UInt8 := f.data.read 0 >>> 4

/-- The length of a single frame, or the sequence number of a consecutive one. -/
def pciLow (f : CanFrame) : UInt8 := f.data.read 0 &&& 0x0F

/-- The length in a first frame. -/
def firstLength (f : CanFrame) : Nat := (pciLow f).toNat * 256 + (f.data.read 1).toNat

/-- The identifier of a request to the one ECU that replies with an identifier: 7E0 for 7E8 and so
on, or 18DAxxF1 for 18DAF1xx. -/
def physicalId (protocol : Protocol) (id : UInt32) : UInt32 :=
  if canIs11Bit protocol then 0x7E0 ||| (id &&& 7)
  else (0x98DA00F1 : UInt32) ||| ((id &&& 0xFF) <<< 8)

/-- The flow control for an identifier: go on, without blocks or separation. -/
def grant (protocol : Protocol) (id : UInt32) : CanFrame :=
  { id := physicalId protocol id, dlc := 8, data := (Block.fill 8 0).store 0 [0x30, 0, 0] }

/-- A frame of an ECU, by what it has in progress. -/
inductive Proper (p : Progress) (f : CanFrame) : Prop
  | flowControl (type : pciType f = 3)
  | stray (idle : p f.id = none) (type : pciType f = 2)
  | single (idle : p f.id = none) (type : pciType f = 0) (some : pciLow f ≠ 0)
      (whole : (pciLow f).toNat + 1 ≤ f.dlc)
  | first (idle : p f.id = none) (type : pciType f = 1) (full : f.dlc = 8)
      (several : 7 < firstLength f)
  | consecutive (s : Sending) (sending : p f.id = some s) (type : pciType f = 2)
      (next : pciLow f = s.sequence) (whole : min 7 s.left + 1 ≤ f.dlc)

/-- How many bytes of a frame are shown. -/
def CanCtx.shown (e : CanCtx) (f : CanFrame) (carried : Nat) : Nat :=
  if e.showHeader then f.dlc else 1 + carried

/-- What a frame of an ECU makes of its messages, and what it is answered and printed as. -/
def arrive (e : CanCtx) (p : Progress) (f : CanFrame) : Progress × List CanEvent :=
  match p f.id with
  | none =>
    if pciType f = 0 then (p, [.print f.id f.dlc f.data])
    else if pciType f = 1 then
      (Function.update p f.id (some ⟨firstLength f - 6, 1⟩),
        [.flowControl (grant e.protocol f.id), .print f.id f.dlc f.data])
    else (p, [])
  | some s =>
    if pciType f = 2 then
      (Function.update p f.id
          (if s.left ≤ 7 then none else some ⟨s.left - 7, (s.sequence + 1) &&& 0x0F⟩),
        [.print f.id (e.shown f (min 7 s.left)) f.data])
    else (p, [])

/-- What comes in a round: nothing, a frame that is no reply, or a frame of an ECU. -/
def arriveAny (e : CanCtx) (p : Progress) : Option CanFrame → Progress × List CanEvent
  | none => (p, [])
  | some f => if canReplyIdOk e.protocol f.id then arrive e p f else (p, [])

/-- The frames of all rounds are those of ECUs that send messages, between other frames. -/
def Traffic (e : CanCtx) (ecus : Finset UInt32) : Progress → List (Option CanFrame) → Prop
  | _, [] => True
  | p, rx :: more =>
    (∀ f ∈ rx, canReplyIdOk e.protocol f.id = true → f.id ∈ ecus ∧ 0 < f.dlc ∧ f.dlc ≤ 8 ∧
      Proper p f) ∧
      Traffic e ecus (arriveAny e p rx).1 more

/-- Up to eight ECUs, each with its reply identifier, whose addresses differ. -/
structure Ecus (protocol : Protocol) (ecus : Finset UInt32) : Prop where
  few : ecus.card ≤ 8
  reply : ∀ id ∈ ecus, canReplyIdOk protocol id = true
  valid : ∀ id ∈ ecus, validId id = true
  apart : ∀ id ∈ ecus, ∀ other ∈ ecus, (id ^^^ other) &&& addressMask protocol = 0 → id = other

/-! ## Identifiers -/

theorem toNat_and_lt (id mask : UInt32) : (id &&& mask).toNat < mask.toNat + 1 := by
  rw [UInt32.toNat_and]
  exact Nat.lt_succ_of_le Nat.and_le_right

/-- The identifiers of flow controls, by what tells one ECU from another. -/
theorem canFlowControlId_eq {protocol : Protocol} {id : UInt32}
    (reply : canReplyIdOk protocol id = true) :
    canFlowControlId protocol id = physicalId protocol id := by
  unfold canReplyIdOk at reply
  unfold canFlowControlId physicalId
  cases short : canIs11Bit protocol with
  | true =>
      have low : id &&& 0x7F8 = 0x7E8 := by
        rw [short] at reply
        simp at reply
        exact reply.2.2
      have parts : id &&& canSffMask = 0x7E8 ||| (id &&& 7) := by
        rw [← low]
        apply UInt32.toBitVec_inj.mp
        ext i bound
        simp [canSffMask]
        interval_cases i <;> simp
      have all : ∀ n : Fin 8, ((0x7E8 : UInt32) ||| UInt32.ofNat n) - 8 =
          (0x7E0 : UInt32) ||| UInt32.ofNat n := by
        decide +kernel
      have this := all ⟨(id &&& 7).toNat, toNat_and_lt id 7⟩
      rw [UInt32.ofNat_toNat, ← parts] at this
      exact this
  | false =>
      have all : ∀ n : Fin 256, ((0x18DA0000 : UInt32) ||| (UInt32.ofNat n <<< 8)) |||
          (0xF1 : UInt32) ||| canEffFlag = (0x98DA00F1 : UInt32) ||| (UInt32.ofNat n <<< 8) := by
        decide +kernel
      have this := all ⟨(id &&& 0xFF).toNat, toNat_and_lt id 0xFF⟩
      rw [UInt32.ofNat_toNat] at this
      exact this

theorem validId_physicalId (protocol : Protocol) (id : UInt32) :
    validId (physicalId protocol id) = true := by
  unfold physicalId
  cases canIs11Bit protocol with
  | true =>
      have all : ∀ n : Fin 8, validId ((0x7E0 : UInt32) ||| UInt32.ofNat n) = true := by
        decide +kernel
      have this := all ⟨(id &&& 7).toNat, toNat_and_lt id 7⟩
      rw [UInt32.ofNat_toNat] at this
      exact this
  | false =>
      have all : ∀ n : Fin 256, validId ((0x98DA00F1 : UInt32) ||| (UInt32.ofNat n <<< 8)) =
          true := by
        decide +kernel
      have this := all ⟨(id &&& 0xFF).toNat, toNat_and_lt id 0xFF⟩
      rw [UInt32.ofNat_toNat] at this
      exact this

theorem validConfig_replyConfig {protocol : Protocol} {id : UInt32}
    (reply : canReplyIdOk protocol id = true) (valid : validId id = true) :
    validConfig (Xfer.replyConfig protocol id) = true :=
  validConfig_configDefault (canFlowControlId_eq reply ▸ validId_physicalId protocol id) valid

/-! ## A receiver and its ECU -/

section Receiver

variable {protocol : Protocol} {rx : Rx} {f : CanFrame} {now : Time}

/-- A receiver for an identifier, which keeps nothing of what it receives. -/
structure For (protocol : Protocol) (id : UInt32) (rx : Rx) : Prop where
  config : rx.config = Xfer.replyConfig protocol id
  buffer : rx.buffer = none
  capacity : rx.capacity = isotpMaxPayload

/-- A receiver that awaits what is left of a message. -/
structure Awaits (s : Sending) (rx : Rx) : Prop where
  state : rx.state = .cf
  left : rx.offset + s.left = rx.total
  some : 0 < s.left
  sequence : rx.sequence = s.sequence

theorem For.matches (rxFor : For protocol f.id rx) (valid : validId f.id = true)
    (some : 0 < f.dlc) (dlc : f.dlc ≤ 8) : matchesFrame rx.config f = true := by
  have long : f.dlc > 0 := some
  rw [rxFor.config]
  simp [matchesFrame, Xfer.replyConfig, configDefault, Config.addressLength, valid, dlc, long]

/-- What the receiver makes of a frame that it neither starts with nor awaits. -/
theorem rxFeed_ignored (rxFor : For protocol f.id rx) (valid : validId f.id = true)
    (some : 0 < f.dlc) (dlc : f.dlc ≤ 8) (punctual : (rxCheckTimeout rx now).1 = .ok)
    (other : pciType f = 3 ∨ pciType f = 2 ∧ rx.state = .idle) :
    rxFeed rx f now = (.ignored, rx, {}) := by
  have matching := rxFor.matches valid some dlc
  have type : frameType rx.config f = pciType f := by
    rw [rxFor.config]
    rfl
  unfold rxFeed
  rw [rxCheckTimeout_of_ok punctual]
  simp only [matching, type]
  rcases other with grants | ⟨stray, idle⟩
  · simp [grants]
  · simp [stray, idle]

theorem firstLength_le (f : CanFrame) : firstLength f ≤ isotpMaxPayload := by
  have low : (pciLow f).toNat ≤ 15 := by
    rw [pciLow, UInt8.toNat_and]
    exact Nat.and_le_right
  have byte := (f.data.read 1).toNat_lt
  unfold firstLength isotpMaxPayload
  omega

theorem rxCheckTimeout_of_idle (idle : rx.state = .idle) (now : Time) :
    rxCheckTimeout rx now = (.ok, rx) := by
  unfold rxCheckTimeout
  rw [idle]
  rfl

/-- A single frame is a message. -/
theorem rxFeed_single_for (rxFor : For protocol f.id rx) (valid : validId f.id = true)
    (dlc : f.dlc ≤ 8) (idle : rx.state = .idle) (type : pciType f = 0)
    (some : pciLow f ≠ 0) (whole : (pciLow f).toNat + 1 ≤ f.dlc) (now : Time) :
    ∃ rx' segment, rxFeed rx f now = (.complete, rx', segment) ∧ For protocol f.id rx' ∧
      rx'.state = .idle ∧ segment.started = true ∧ segment.replaced = false := by
  have matching := rxFor.matches valid (by omega) dlc
  have address : rx.config.addressLength = 0 := by
    rw [rxFor.config]
    rfl
  have kind : frameType rx.config f = 0 := by rw [frameType, address, ← type, pciType]
  have size : singleFrameSize rx.config f = (pciLow f).toNat := by
    rw [singleFrameSize, address, pciLow]
  have length : (pciLow f).toNat ≠ 0 := fun zero => some (UInt8.toNat_inj.1 zero)
  have room : ¬ (pciLow f).toNat > rx.capacity := by
    have low : (pciLow f).toNat ≤ 15 := by
      rw [pciLow, UInt8.toNat_and]
      exact Nat.and_le_right
    rw [rxFor.capacity, isotpMaxPayload]
    omega
  have fed : rxFeed rx f now = rxStart rx f now false (pciLow f).toNat := by
    unfold rxFeed
    rw [rxCheckTimeout_of_idle idle]
    simp only [matching, kind, size, address]
    rw [if_neg (by decide), if_neg (by decide), if_pos trivial, if_neg]
    simp only [Bool.or_eq_true, decide_eq_true_eq, not_or]
    omega
  rw [fed]
  unfold rxStart
  dsimp only
  rw [if_neg room, if_pos (by decide), idle]
  exact ⟨_, _, rfl, ⟨rxFor.config, by simp [rxFor.buffer], rxFor.capacity⟩, rfl, rfl,
    rfl⟩

/-- A first frame is followed by a flow control. -/
theorem rxFeed_first_for (rxFor : For protocol f.id rx) (valid : validId f.id = true)
    (idle : rx.state = .idle) (type : pciType f = 1) (full : f.dlc = 8)
    (several : 7 < firstLength f) (now : Time) :
    ∃ rx' segment, rxFeed rx f now = (.frame, rx', segment) ∧ For protocol f.id rx' ∧
      rx'.state = .fcReady ∧ rx'.deadlineUs = now + isotpDefaultTimeoutUs ∧
      rx'.flowStatus = 0 ∧ rx'.offset + (firstLength f - 6) = rx'.total ∧ rx'.sequence = 1 ∧
      segment.started = true ∧ segment.replaced = false := by
  have matching := rxFor.matches valid (by omega) (Nat.le_of_eq full)
  have address : rx.config.addressLength = 0 := by
    rw [rxFor.config]
    rfl
  have kind : frameType rx.config f = 1 := by rw [frameType, address, ← type, pciType]
  have size : firstFrameSize rx.config f = firstLength f := by
    rw [firstFrameSize, address, firstLength, pciLow]
  have physical : rx.config.functional = false := by
    rw [rxFor.config]
    rfl
  have room : ¬ firstLength f > rx.capacity := by
    have := firstLength_le f
    rw [rxFor.capacity]
    omega
  have fed : rxFeed rx f now = rxStart rx f now true (firstLength f) := by
    unfold rxFeed
    rw [rxCheckTimeout_of_idle idle]
    simp only [matching, kind, size, address, physical, full]
    rw [if_neg (by decide), if_neg (by decide), if_neg (by decide), if_pos trivial, if_neg]
    simp only [Bool.or_eq_true, decide_eq_true_eq, not_or]
    exact ⟨⟨Bool.false_ne_true, by simp⟩, by omega⟩
  have carried : (f.data.load (0 + 2) (6 - 0)).length = 6 := Block.length_load (by omega)
  rw [fed]
  unfold rxStart
  dsimp only
  rw [if_neg room, if_neg (by decide), idle, address]
  refine ⟨_, _, rfl, ⟨rxFor.config, by simp [rxFor.buffer], rxFor.capacity⟩, rfl,
    ?_, rfl, ?_, rfl, rfl, rfl⟩
  · simp only [rxFor.config]
    rfl
  · simp only [carried]
    omega

/-- A consecutive frame goes on with the message, and its last one completes it. -/
theorem rxFeed_consecutive_for {s : Sending} (rxFor : For protocol f.id rx) (awaits : Awaits s rx)
    (valid : validId f.id = true) (dlc : f.dlc ≤ 8) (type : pciType f = 2)
    (next : pciLow f = s.sequence) (whole : min 7 s.left + 1 ≤ f.dlc)
    (punctual : (rxCheckTimeout rx now).1 = .ok) :
    ∃ ret rx' segment, rxFeed rx f now = (ret, rx', segment) ∧ For protocol f.id rx' ∧
      segment.started = false ∧ segment.replaced = false ∧ segment.length = min 7 s.left ∧
      if s.left ≤ 7 then ret = .complete ∧ rx'.state = .idle
      else ret = .frame ∧ Awaits ⟨s.left - 7, (s.sequence + 1) &&& 0x0F⟩ rx' ∧
        rx'.deadlineUs = now + isotpDefaultTimeoutUs := by
  have matching := rxFor.matches valid (by omega) dlc
  have address : rx.config.addressLength = 0 := by
    rw [rxFor.config]
    rfl
  have kind : frameType rx.config f = 2 := by rw [frameType, address, ← type, pciType]
  have unlimited : rx.config.blockSize = 0 := by
    rw [rxFor.config]
    rfl
  obtain ⟨state, left, some, sequence⟩ := awaits
  have size : (if rx.total - rx.offset < 7 - 0 then rx.total - rx.offset else 7 - 0) =
      min 7 s.left := by
    rw [Nat.min_def]
    split <;> split <;> omega
  have carried : (f.data.load (0 + 1) (min 7 s.left)).length = min 7 s.left :=
    Block.length_load (by omega)
  have fed : rxFeed rx f now = rxContinue rx f now := by
    unfold rxFeed
    rw [rxCheckTimeout_of_ok punctual]
    simp only [matching, kind, state]
    rw [if_neg (by decide), if_neg (by decide), if_neg (by decide), if_neg (by decide),
      if_neg (by decide)]
  have low : f.data.read 0 &&& 0x0f = rx.sequence := by rw [sequence, ← next, pciLow]
  rw [fed]
  unfold rxContinue
  dsimp only
  rw [address, size, if_neg (by omega), low, if_neg (by simp)]
  by_cases last : s.left ≤ 7
  · have complete : (rx.offset + min 7 s.left == rx.total) = true := by
      rw [Nat.min_eq_right last, left]
      exact beq_self_eq_true _
    simp only [segmentCopy, carried, complete, if_true]
    refine ⟨_, _, _, rfl, ⟨rxFor.config, by simp [rxFor.buffer], rxFor.capacity⟩, rfl, rfl, rfl, ?_⟩
    rw [if_pos last]
    exact ⟨rfl, rfl⟩
  · have complete : (rx.offset + min 7 s.left == rx.total) = false := by
      rw [beq_eq_false_iff_ne, Nat.min_eq_left (by omega)]
      omega
    simp only [segmentCopy, carried, complete, Bool.false_eq_true, if_false, unlimited, ne_eq,
      not_true_eq_false]
    refine ⟨_, _, _, rfl, ⟨rxFor.config, by simp [rxFor.buffer], rxFor.capacity⟩, rfl, rfl, rfl, ?_⟩
    rw [if_neg last]
    refine ⟨rfl, ⟨state, ?_, Nat.sub_pos_of_lt (Nat.not_le.1 last), ?_⟩, ?_⟩
    · dsimp only
      omega
    · dsimp only
      rw [sequence]
    · dsimp only
      rw [rxFor.config]
      rfl

theorem not_expired_timeout (now : Time) : expired now (now + isotpDefaultTimeoutUs) = false := by
  have behind : now - (now + isotpDefaultTimeoutUs) = 0xFFF0BDC0 := by
    unfold isotpDefaultTimeoutUs
    grind
  rw [expired, behind]
  rfl

theorem rxCheckTimeout_of_punctual
    (punctual : rx.state ≠ .idle → expired now rx.deadlineUs = false) :
    rxCheckTimeout rx now = (.ok, rx) := by
  by_cases idle : rx.state = .idle
  · exact rxCheckTimeout_of_idle idle now
  · unfold rxCheckTimeout
    rw [punctual idle, if_pos (by simp)]

/-- A flow control that was sent in time lets its ECU go on. -/
theorem rxConfirm_of_punctual (asked : rx.state = .fcConfirm) (status : rx.flowStatus = 0)
    (punctual : expired now rx.deadlineUs = false) :
    rxConfirm rx true now =
      (.ok, { rx with state := .cf, deadlineUs := now + rx.config.timeoutCrUs }) := by
  have fresh := rxCheckTimeout_of_punctual fun _ : rx.state ≠ .idle => punctual
  have granted : ¬ rx.flowStatus = 2 := by
    rw [status]
    decide
  unfold rxConfirm
  rw [if_neg fun other => other asked, fresh]
  dsimp only
  rw [if_neg (by decide), if_neg (by simp [granted])]

/-- The flow control for a first frame, and its confirmation in time. -/
theorem flowControl_for {id : UInt32} (reply : canReplyIdOk protocol id = true)
    (rxFor : For protocol id rx) (ready : rx.state = .fcReady)
    (deadline : rx.deadlineUs = now + isotpDefaultTimeoutUs) (status : rx.flowStatus = 0)
    {later : Time} (punctual : expired later (now + isotpDefaultTimeoutUs) = false) :
    ∃ rx' rx'', rxFlowControl rx now = (.frame, rx', some (grant protocol id)) ∧
      rxConfirm rx' true later = (.ok, rx'') ∧ For protocol id rx'' ∧ rx''.state = .cf ∧
      rx''.offset = rx.offset ∧ rx''.total = rx.total ∧ rx''.sequence = rx.sequence := by
  have fresh : rxCheckTimeout rx now = (.ok, rx) := by
    unfold rxCheckTimeout
    rw [ready, deadline, not_expired_timeout]
    rfl
  have frame : flowControlFrame rx = grant protocol id := by
    unfold flowControlFrame grant
    rw [rxFor.config, status, ← canFlowControlId_eq reply]
    rfl
  have timeout : rx.config.timeoutAUs = isotpDefaultTimeoutUs := by
    rw [rxFor.config]
    rfl
  refine ⟨{ rx with state := .fcConfirm, deadlineUs := now + isotpDefaultTimeoutUs },
    { rx with state := .cf, deadlineUs := later + rx.config.timeoutCrUs }, ?_, ?_,
    ⟨rxFor.config, rxFor.buffer, rxFor.capacity⟩, rfl, rfl, rfl, rfl⟩
  · unfold rxFlowControl
    rw [fresh]
    simp only [ready, frame, timeout]
    rfl
  · exact rxConfirm_of_punctual rfl status punctual

end Receiver

/-! ## The receivers and the ECUs -/

/-- Each active receiver awaits what its ECU has in progress, and each ECU that has something in
progress has one receiver. -/
structure Tracks (protocol : Protocol) (ecus : Finset UInt32) (p : Progress)
    (streams : Fin 8 → Rx) : Prop where
  owned : ∀ i, (streams i).state ≠ .idle →
    (streams i).config.rxId ∈ ecus ∧ For protocol (streams i).config.rxId (streams i) ∧
      ∃ s, p (streams i).config.rxId = some s ∧ Awaits s (streams i)
  served : ∀ id s, p id = some s → ∃ i, (streams i).state ≠ .idle ∧ (streams i).config.rxId = id
  apart : ∀ i j, (streams i).state ≠ .idle → (streams j).state ≠ .idle →
    (streams i).config.rxId = (streams j).config.rxId → i = j

section Slots

variable {protocol : Protocol} {ecus : Finset UInt32} {p : Progress} {streams : Fin 8 → Rx}

theorem tracks_zero : Tracks protocol ecus (fun _ => none) fun _ => zeroRx :=
  ⟨fun _ busy => absurd rfl busy, fun _ _ => nofun, fun _ _ busy => absurd rfl busy⟩

/-- A receiver that an identifier may have: the one it has, or a free one. -/
def MayHave (p : Progress) (streams : Fin 8 → Rx) (i : Fin 8) (id : UInt32) : Prop :=
  (streams i).state = .idle ∧ p id = none ∨
    (streams i).state ≠ .idle ∧ (streams i).config.rxId = id

/-- What a receiver is for: nothing, or what is left of a message. -/
def Fits (protocol : Protocol) (id : UInt32) (rx : Rx) : Option Sending → Prop
  | none => rx.state = .idle
  | some s => For protocol id rx ∧ Awaits s rx

theorem For.rxId {id : UInt32} {rx : Rx} (rxFor : For protocol id rx) : rx.config.rxId = id := by
  rw [rxFor.config]
  rfl

/-- An ECU goes on, and its receiver with it. -/
theorem Tracks.set (tracks : Tracks protocol ecus p streams) {i : Fin 8} {id : UInt32}
    (member : id ∈ ecus) (may : MayHave p streams i id) {rx : Rx} (next : Option Sending)
    (fits : Fits protocol id rx next) :
    Tracks protocol ecus (Function.update p id next) (Function.update streams i rx) := by
  obtain ⟨owned, served, apart⟩ := tracks
  -- no other receiver is active for the identifier
  have others : ∀ j, j ≠ i → (streams j).state ≠ .idle → (streams j).config.rxId ≠ id := by
    rintro j other busy rfl
    rcases may with ⟨-, none⟩ | ⟨active, same⟩
    · obtain ⟨-, -, s, sending, -⟩ := owned j busy
      rw [none] at sending
      cases sending
    · exact other (apart j i busy active same.symm)
  have busy_new : rx.state ≠ .idle → ∃ s, next = some s ∧ For protocol id rx ∧ Awaits s rx := by
    intro busy
    cases next with
    | none => exact absurd fits busy
    | some s => exact ⟨s, rfl, fits⟩
  refine ⟨fun j busy => ?_, fun id' s sending => ?_, fun j k busy busy' same => ?_⟩
  · by_cases here : j = i
    · subst here
      rw [Function.update_self] at busy ⊢
      obtain ⟨s, rfl, rxFor, awaits⟩ := busy_new busy
      rw [rxFor.rxId, Function.update_self]
      exact ⟨member, rxFor, s, rfl, awaits⟩
    · rw [Function.update_of_ne here] at busy ⊢
      rw [Function.update_of_ne (others j here busy)]
      exact owned j busy
  · by_cases here : id' = id
    · subst here
      rw [Function.update_self] at sending
      rw [sending] at fits
      refine ⟨i, ?_, ?_⟩
      · rw [Function.update_self, fits.2.state]
        decide
      · rw [Function.update_self, fits.1.rxId]
    · rw [Function.update_of_ne here] at sending
      obtain ⟨j, busy, same⟩ := served id' s sending
      have other : j ≠ i := by
        rintro rfl
        rcases may with ⟨idle, -⟩ | ⟨-, mine⟩
        · exact busy idle
        · exact here (same.symm.trans mine)
      exact ⟨j, by rw [Function.update_of_ne other]; exact busy,
        by rw [Function.update_of_ne other]; exact same⟩
  · by_cases here : j = i
    · by_cases here' : k = i
      · rw [here, here']
      · subst here
        rw [Function.update_self] at busy same
        rw [Function.update_of_ne here'] at busy' same
        obtain ⟨s, rfl, rxFor, -⟩ := busy_new busy
        exact absurd (same.symm.trans rxFor.rxId) (others k here' busy')
    · rw [Function.update_of_ne here] at busy same
      by_cases here' : k = i
      · subst here'
        rw [Function.update_self] at busy' same
        obtain ⟨s, rfl, rxFor, -⟩ := busy_new busy'
        exact absurd (same.trans rxFor.rxId) (others j here busy)
      · rw [Function.update_of_ne here'] at busy' same
        exact apart j k busy busy' same

/-- An ECU without a message in progress leaves a receiver free. -/
theorem Tracks.exists_idle (tracks : Tracks protocol ecus p streams) (few : ecus.card ≤ 8)
    {id : UInt32} (member : id ∈ ecus) (none : p id = none) :
    ∃ i, (streams i).state = .idle := by
  by_contra all
  have busy : ∀ i, (streams i).state ≠ .idle := fun i idle => all ⟨i, idle⟩
  have maps : Set.MapsTo (fun i => (streams i).config.rxId) (Finset.univ : Finset (Fin 8))
      (ecus.erase id) := by
    intro i _
    obtain ⟨among, -, s, sending, -⟩ := tracks.owned i (busy i)
    refine Finset.mem_erase.2 ⟨fun same => ?_, among⟩
    exact nomatch sending.symm.trans ((congrArg p same).trans none)
  have injective : Set.InjOn (fun i => (streams i).config.rxId) (Finset.univ : Finset (Fin 8)) :=
    fun i _ j _ same => tracks.apart i j (busy i) (busy j) same
  have count := Finset.card_le_card_of_injOn _ maps injective
  rw [Finset.card_univ, Fintype.card_fin, Finset.card_erase_of_mem member] at count
  omega

/-! ## The receiver for a frame -/

/-- A search finds what alone has a property. -/
theorem find?_of_unique {α : Type*} {l : List α} {q : α → Bool} {a : α} (member : a ∈ l)
    (holds : q a = true) (unique : ∀ b, q b = true → b = a) : l.find? q = some a := by
  cases found : l.find? q with
  | none => exact absurd holds (List.find?_eq_none.1 found a member)
  | some b => rw [unique b (List.find?_some found)]

variable {x : Xfer} {f : CanFrame}

theorem Tracks.select_sending (tracks : Tracks protocol ecus p x.streams)
    (known : Ecus protocol ecus) (member : f.id ∈ ecus) {s : Sending} (sending : p f.id = some s) :
    ∃ i, x.select protocol f.id = some (i, x.streams i) ∧ MayHave p x.streams i f.id ∧
      For protocol f.id (x.streams i) ∧ Awaits s (x.streams i) := by
  obtain ⟨i, busy, same⟩ := tracks.served f.id s sending
  obtain ⟨-, rxFor, s', sending', awaits⟩ := tracks.owned i busy
  rw [same] at rxFor sending'
  obtain rfl : s' = s := Option.some.inj (sending'.symm.trans sending)
  have found : x.streamFor protocol f.id = some i := by
    apply find?_of_unique
    · exact List.mem_reverse.2 (List.mem_finRange i)
    · simp [busy, same]
    · intro j active
      simp only [Bool.and_eq_true, decide_eq_true_eq, beq_iff_eq, ne_eq] at active
      obtain ⟨among, -⟩ := tracks.owned j active.1
      exact tracks.apart j i active.1 busy
        ((known.apart _ among _ member active.2).trans same.symm)
  refine ⟨i, ?_, .inr ⟨busy, same⟩, rxFor, awaits⟩
  rw [Xfer.select, found]

theorem Tracks.select_idle (tracks : Tracks protocol ecus p x.streams)
    (known : Ecus protocol ecus) (member : f.id ∈ ecus) (none : p f.id = none) :
    ∃ i rx, x.select protocol f.id = some (i, rx) ∧ MayHave p x.streams i f.id ∧
      For protocol f.id rx ∧ rx.state = .idle := by
  have unowned : x.streamFor protocol f.id = Option.none := by
    refine List.find?_eq_none.2 fun j _ active => ?_
    simp only [Bool.and_eq_true, decide_eq_true_eq, beq_iff_eq, ne_eq] at active
    obtain ⟨among, -, s, sending, -⟩ := tracks.owned j active.1
    rw [known.apart _ among _ member active.2, none] at sending
    cases sending
  obtain ⟨j, idle⟩ := tracks.exists_idle known.few member none
  cases free : x.freeStream with
  | none =>
      exact absurd (decide_eq_true idle) (List.find?_eq_none.1 free j (List.mem_finRange j))
  | some i =>
      have idle : (x.streams i).state = .idle := by
        unfold Xfer.freeStream at free
        simpa using List.find?_some free
      have valid := validConfig_replyConfig (known.reply _ member) (known.valid _ member)
      have init : rxInit (x.streams i) (Xfer.replyConfig protocol f.id) .none isotpMaxPayload =
          (.ok, ⟨Xfer.replyConfig protocol f.id, .none, isotpMaxPayload, .idle, 0, 0, 0, 0, 0, 0,
            false⟩) := by
        rw [rxInit, valid]
        rfl
      refine ⟨i, (rxInit (x.streams i) (Xfer.replyConfig protocol f.id) .none
        isotpMaxPayload).2, ?_, .inl ⟨idle, none⟩, ?_, ?_⟩
      · rw [Xfer.select, unowned, free]
        rfl
      · rw [init]
        exact ⟨rfl, rfl, rfl⟩
      · rw [init]

end Slots

/-! ## A round of the loop -/

/-- No deadline passes in a round, and a flow control is confirmed in time. -/
structure Xfer.Punctual (x : Xfer) (turn : Turn) : Prop where
  top : ∀ i, (x.streams i).state ≠ .idle →
    expired (x.nowUs turn.topMs) (x.streams i).deadlineUs = false
  received : ∀ i, (x.streams i).state ≠ .idle →
    expired (x.nowUs turn.rxMs) (x.streams i).deadlineUs = false
  confirmed : expired (x.nowUs turn.confirmedMs) (x.nowUs turn.rxMs + isotpDefaultTimeoutUs) = false
  sent : turn.confirmed = true

/-- A functional request with automatic formatting, for which no number of frames is asked. -/
structure CanCtx.Functional (e : CanCtx) (numFrame : Int) : Prop where
  multicast : e.multicast = true
  formats : e.canAutoFormat = true
  unbounded : numFrame < 0

section Round

variable {e : CanCtx} {numFrame : Int} {ecus : Finset UInt32} {p : Progress} {x : Xfer}
  {turn : Turn} {f : CanFrame}

/-- What is printed ends no loop that waits for more. -/
theorem display_spec (functional : e.Functional numFrame) (x : Xfer) (turn : Turn) (f : CanFrame)
    (segment : Segment) :
    ∃ x', x.display e numFrame turn f segment =
      (.running x', [.print f.id
        (if segment.started then f.dlc else e.shown f segment.length) f.data]) ∧
      x'.streams = x.streams := by
  have shown : (if e.canAutoFormat && !e.showHeader && !segment.started then 1 + segment.length
      else f.dlc) = if segment.started then f.dlc else e.shown f segment.length := by
    unfold CanCtx.shown
    rw [functional.formats]
    cases e.showHeader <;> cases segment.started <;> rfl
  have unbounded := functional.unbounded
  unfold Xfer.display
  dsimp only
  rw [shown, functional.multicast]
  split
  · exact ⟨_, rfl, rfl⟩
  rw [if_neg fun bounded => by omega, if_neg (by simp)]
  split
  · exact ⟨_, rfl, rfl⟩
  · exact ⟨_, rfl, rfl⟩

/-- A frame that is taken and needs no flow control. -/
theorem receive_taken (functional : e.Functional numFrame) {i : Fin 8} {stream stream' : Rx}
    {ret : Result} {segment : Segment}
    (fed : rxFeed stream f (x.nowUs turn.rxMs) = (ret, stream', segment))
    (taken : ret = .complete ∨ ret = .frame) (whole : segment.replaced = false)
    (ready : stream'.state ≠ .fcReady)
    (punctual : rxCheckTimeout stream' (x.nowUs turn.rxMs) = (.ok, stream')) :
    ∃ x', x.receive e numFrame turn f i stream = (.running x', [.print f.id
        (if segment.started then f.dlc else e.shown f segment.length) f.data]) ∧
      x'.streams = Function.update x.streams i stream' := by
  have quiet : rxFlowControl stream' (x.nowUs turn.rxMs) = (.ok, stream', none) := by
    unfold rxFlowControl
    rw [punctual]
    simp [ready]
  obtain ⟨x', printed, streams⟩ :=
    display_spec functional (x.setStream i stream') turn f segment
  refine ⟨x', ?_, streams⟩
  unfold Xfer.receive
  dsimp only
  rw [fed]
  rcases taken with rfl | rfl
  · dsimp only
    rw [if_neg (by decide), if_neg (by decide), whole, quiet]
    dsimp only
    rw [if_neg (by decide), printed]
    rfl
  · dsimp only
    rw [if_neg (by decide), if_neg (by decide), whole, quiet]
    dsimp only
    rw [if_neg (by decide), printed]
    rfl

theorem receive_ignored {i : Fin 8} {stream : Rx}
    (fed : rxFeed stream f (x.nowUs turn.rxMs) = (.ignored, stream, {})) :
    x.receive e numFrame turn f i stream = (.running (x.setStream i stream), []) := by
  unfold Xfer.receive
  dsimp only
  rw [fed]
  rfl

/-- A first frame is answered before it is printed. -/
theorem receive_first (functional : e.Functional numFrame) (punctual : x.Punctual turn)
    (reply : canReplyIdOk e.protocol f.id = true) {i : Fin 8} {stream : Rx}
    (rxFor : For e.protocol f.id stream) (valid : validId f.id = true)
    (idle : stream.state = .idle) (type : pciType f = 1) (full : f.dlc = 8)
    (several : 7 < firstLength f) :
    ∃ x' stream', x.receive e numFrame turn f i stream =
        (.running x', [.flowControl (grant e.protocol f.id), .print f.id f.dlc f.data]) ∧
      x'.streams = Function.update x.streams i stream' ∧
      For e.protocol f.id stream' ∧ Awaits ⟨firstLength f - 6, 1⟩ stream' := by
  obtain ⟨begun, segment, fed, begunFor, ready, deadline, status, left, sequence, started, whole⟩ :=
    rxFeed_first_for rxFor valid idle type full several (x.nowUs turn.rxMs)
  obtain ⟨asked, granted, fc, confirm, grantedFor, state, offset, total, sequence'⟩ :=
    flowControl_for reply begunFor ready deadline status punctual.confirmed
  obtain ⟨x', printed, streams⟩ :=
    display_spec functional (x.setStream i granted) turn f segment
  refine ⟨x', granted, ?_, streams, grantedFor, state, ?_, ?_, sequence'.trans sequence⟩
  · unfold Xfer.receive
    dsimp only
    rw [fed]
    dsimp only
    rw [if_neg (by decide), if_neg (by decide), whole, fc]
    dsimp only
    rw [if_neg (by decide), punctual.sent, confirm]
    dsimp only
    rw [if_neg (by decide), printed, started]
    rfl
  · rw [offset, total]
    exact left
  · exact Nat.sub_pos_of_lt (by omega)

/-- What a frame of an ECU comes to. -/
def Handled (e : CanCtx) (numFrame : Int) (ecus : Finset UInt32) (p : Progress) (x : Xfer)
    (turn : Turn) (f : CanFrame) : Prop :=
  ∃ i stream x', x.select e.protocol f.id = some (i, stream) ∧
    x.receive e numFrame turn f i stream = (.running x', (arrive e p f).2) ∧
    Tracks e.protocol ecus (arrive e p f).1 x'.streams

theorem update_none (none : p f.id = none) : Function.update p f.id .none = p := by
  rw [← none]
  exact Function.update_eq_self _ _

section Idle

variable (known : Ecus e.protocol ecus) (tracks : Tracks e.protocol ecus p x.streams)
  (member : f.id ∈ ecus)

include known tracks member

/-- An ECU without a message in progress sends a frame that starts none. -/
theorem handled_ignored (some : 0 < f.dlc) (dlc : f.dlc ≤ 8) (none : p f.id = none)
    (type : pciType f = 3 ∨ pciType f = 2) : Handled e numFrame ecus p x turn f := by
  obtain ⟨i, rx, selected, may, rxFor, idle⟩ := tracks.select_idle known member none
  have fed : rxFeed rx f (x.nowUs turn.rxMs) = (.ignored, rx, {}) :=
    rxFeed_ignored rxFor (known.valid _ member) some dlc
      (by rw [rxCheckTimeout_of_idle idle]) (type.imp_right fun stray => ⟨stray, idle⟩)
  have answer : arrive e p f = (p, []) := by
    rw [arrive, none]
    rcases type with type | type <;> rw [type] <;> rfl
  have kept := tracks.set member may .none idle
  rw [update_none none] at kept
  refine ⟨i, rx, x.setStream i rx, selected, ?_, ?_⟩
  · rw [answer]
    exact receive_ignored fed
  · rw [answer]
    exact kept

theorem handled_single (functional : e.Functional numFrame) (dlc : f.dlc ≤ 8)
    (none : p f.id = none) (type : pciType f = 0) (some : pciLow f ≠ 0)
    (whole : (pciLow f).toNat + 1 ≤ f.dlc) : Handled e numFrame ecus p x turn f := by
  obtain ⟨i, rx, selected, may, rxFor, idle⟩ := tracks.select_idle known member none
  obtain ⟨rx', segment, fed, -, idle', started, replaced⟩ :=
    rxFeed_single_for rxFor (known.valid _ member) dlc idle type some whole (x.nowUs turn.rxMs)
  obtain ⟨x', received, streams⟩ := receive_taken (i := i) functional fed (.inl rfl) replaced
    (by rw [idle']; decide) (rxCheckTimeout_of_idle idle' _)
  have answer : arrive e p f = (p, [.print f.id f.dlc f.data]) := by
    rw [arrive, none]
    simp only [type, if_true]
  have kept := tracks.set member may .none idle'
  rw [update_none none] at kept
  rw [if_pos started] at received
  refine ⟨i, rx, x', selected, ?_, ?_⟩
  · rw [answer]
    exact received
  · rw [answer, streams]
    exact kept

theorem handled_first (functional : e.Functional numFrame) (punctual : x.Punctual turn)
    (none : p f.id = none) (type : pciType f = 1) (full : f.dlc = 8)
    (several : 7 < firstLength f) : Handled e numFrame ecus p x turn f := by
  obtain ⟨i, rx, selected, may, rxFor, idle⟩ := tracks.select_idle known member none
  obtain ⟨x', stream', received, streams, rxFor', awaits⟩ :=
    receive_first (i := i) functional punctual (known.reply _ member) rxFor
      (known.valid _ member) idle type full several
  have answer : arrive e p f = (Function.update p f.id (some ⟨firstLength f - 6, 1⟩),
      [.flowControl (grant e.protocol f.id), .print f.id f.dlc f.data]) := by
    rw [arrive, none]
    simp only [type]
    rfl
  have kept := tracks.set member may (some _) ⟨rxFor', awaits⟩
  refine ⟨i, rx, x', selected, ?_, ?_⟩
  · rw [answer]
    exact received
  · rw [answer, streams]
    exact kept

/-- A flow control while a message is in progress. -/
theorem handled_grant (punctual : x.Punctual turn) (some : 0 < f.dlc) (dlc : f.dlc ≤ 8)
    {s : Sending} (sending : p f.id = .some s) (type : pciType f = 3) :
    Handled e numFrame ecus p x turn f := by
  obtain ⟨i, selected, -, rxFor, -⟩ := tracks.select_sending known member sending
  have fed : rxFeed (x.streams i) f (x.nowUs turn.rxMs) = (.ignored, x.streams i, {}) :=
    rxFeed_ignored rxFor (known.valid _ member) some dlc
      (by rw [rxCheckTimeout_of_punctual (punctual.received i)]) (.inl type)
  have answer : arrive e p f = (p, []) := by
    rw [arrive, sending]
    simp only [type]
    rfl
  refine ⟨i, x.streams i, x.setStream i (x.streams i), selected, ?_, ?_⟩
  · rw [answer]
    exact receive_ignored fed
  · rw [answer, Xfer.setStream, Function.update_eq_self]
    exact tracks

theorem handled_consecutive (functional : e.Functional numFrame) (punctual : x.Punctual turn)
    (dlc : f.dlc ≤ 8) {s : Sending} (sending : p f.id = some s) (type : pciType f = 2)
    (next : pciLow f = s.sequence) (whole : min 7 s.left + 1 ≤ f.dlc) :
    Handled e numFrame ecus p x turn f := by
  obtain ⟨i, selected, may, rxFor, awaits⟩ := tracks.select_sending known member sending
  obtain ⟨ret, rx', segment, fed, rxFor', started, replaced, length, after⟩ :=
    rxFeed_consecutive_for rxFor awaits (known.valid _ member) dlc type next whole
      (by rw [rxCheckTimeout_of_punctual (punctual.received i)])
  have answer : arrive e p f = (Function.update p f.id
      (if s.left ≤ 7 then none else some ⟨s.left - 7, (s.sequence + 1) &&& 0x0F⟩),
      [.print f.id (e.shown f (min 7 s.left)) f.data]) := by
    rw [arrive, sending]
    simp only [type]
    rfl
  have shown : (if segment.started then f.dlc else e.shown f segment.length) =
      e.shown f (min 7 s.left) := by
    rw [started, length]
    rfl
  rw [Handled, answer]
  by_cases last : s.left ≤ 7
  · rw [if_pos last] at after ⊢
    obtain ⟨rfl, idle⟩ := after
    obtain ⟨x', received, streams⟩ := receive_taken (i := i) functional fed (.inl rfl) replaced
      (by rw [idle]; decide) (rxCheckTimeout_of_idle idle _)
    rw [shown] at received
    exact ⟨i, x.streams i, x', selected, received, streams ▸ tracks.set member may none idle⟩
  · rw [if_neg last] at after ⊢
    obtain ⟨rfl, awaits', deadline⟩ := after
    have fresh : rxCheckTimeout rx' (x.nowUs turn.rxMs) = (.ok, rx') :=
      rxCheckTimeout_of_punctual fun _ => by rw [deadline]; exact not_expired_timeout _
    obtain ⟨x', received, streams⟩ := receive_taken (i := i) functional fed (.inr rfl) replaced
      (by rw [awaits'.state]; decide) fresh
    rw [shown] at received
    exact ⟨i, x.streams i, x', selected, received,
      streams ▸ tracks.set member may (some _) ⟨rxFor', awaits'⟩⟩

/-- Each frame of an ECU is handled as it arrives. -/
theorem handled_of_proper (functional : e.Functional numFrame) (punctual : x.Punctual turn)
    (some : 0 < f.dlc) (dlc : f.dlc ≤ 8) (proper : Proper p f) :
    Handled e numFrame ecus p x turn f := by
  cases proper with
  | flowControl type =>
      cases sending : p f.id with
      | none => exact handled_ignored known tracks member some dlc sending (.inl type)
      | some s => exact handled_grant known tracks member punctual some dlc sending type
  | stray idle type => exact handled_ignored known tracks member some dlc idle (.inr type)
  | single idle type some' whole =>
      exact handled_single known tracks member functional dlc idle type some' whole
  | first idle type full several =>
      exact handled_first known tracks member functional punctual idle type full several
  | consecutive s sending type next whole =>
      exact handled_consecutive known tracks member functional punctual dlc sending type next whole

end Idle

theorem idle_of_inactive (inactive : x.active = false) (i : Fin 8) :
    (x.streams i).state = .idle := by
  by_contra busy
  have active : x.active = true :=
    List.any_eq_true.2 ⟨i, List.mem_finRange i, decide_eq_true busy⟩
  rw [inactive] at active
  cases active

/-- Where no receiver is active, no ECU has a message in progress. -/
theorem Tracks.none_of_idle (tracks : Tracks e.protocol ecus p x.streams)
    (idle : ∀ i, (x.streams i).state = .idle) : p = fun _ => none := by
  funext id
  cases sending : p id with
  | none => rfl
  | some s =>
      obtain ⟨i, busy, -⟩ := tracks.served id s sending
      exact absurd (idle i) busy

/-- A round goes on with what has arrived, or it ends while no reception is active. -/
theorem round_spec (known : Ecus e.protocol ecus) (functional : e.Functional numFrame)
    (tracks : Tracks e.protocol ecus p x.streams) (punctual : x.Punctual turn)
    (proper : ∀ f ∈ turn.rx, canReplyIdOk e.protocol f.id = true → f.id ∈ ecus ∧ 0 < f.dlc ∧
      f.dlc ≤ 8 ∧ Proper p f) :
    (∃ x', x.round e numFrame turn = (.running x', (arriveAny e p turn.rx).2) ∧
      Tracks e.protocol ecus (arriveAny e p turn.rx).1 x'.streams) ∨
      ∃ rc x', x.round e numFrame turn = (.ended rc x', []) ∧ (rc = 0 ∨ rc = -1) ∧
        (∀ i, (x'.streams i).state = .idle) ∧ p = fun _ => none := by
  have fresh (i : Fin 8) : rxCheckTimeout (x.streams i) (x.nowUs turn.topMs) =
      (.ok, x.streams i) := rxCheckTimeout_of_punctual (punctual.top i)
  unfold Xfer.round
  dsimp only
  simp only [fresh]
  rw [if_neg (by simp)]
  by_cases overdue : (!x.active && x.timer.isExpired turn.expiryMs) = true
  · have inactive : x.active = false := by
      cases active : x.active with
      | false => rfl
      | true => simp [active] at overdue
    have idle := idle_of_inactive inactive
    rw [if_pos overdue]
    refine .inr ⟨_, _, rfl, ?_, idle, tracks.none_of_idle idle⟩
    split
    · exact .inl rfl
    · exact .inr rfl
  · rw [if_neg overdue]
    left
    cases received : turn.rx with
    | none => exact ⟨x, rfl, tracks⟩
    | some f =>
        rw [received] at proper
        dsimp only [arriveAny]
        cases reply : canReplyIdOk e.protocol f.id with
        | false =>
            rw [if_pos (by simp), if_neg Bool.false_ne_true]
            exact ⟨x, rfl, tracks⟩
        | true =>
            obtain ⟨member, some, dlc, proper⟩ := proper f rfl reply
            obtain ⟨i, stream, x', selected, handled, kept⟩ := handled_of_proper known tracks
              member functional punctual some dlc proper
            rw [if_neg (by simp; omega), functional.multicast, if_neg (by simp),
              functional.formats, if_neg (by simp), if_pos rfl, selected]
            exact ⟨x', handled, kept⟩

end Round

/-! ## A whole request -/

/-- The request is one of the protocols of ISO 15765-4. -/
def isIso15765 (protocol : Protocol) : Bool :=
  protocol = .can11Bit500K || protocol = .can29Bit500K || protocol = .can11Bit250K ||
    protocol = .can29Bit250K

/-- What the arrivals are answered and printed as, and what is in progress after them. -/
def answers (e : CanCtx) (p : Progress) (arrivals : List (Option CanFrame)) : List CanEvent :=
  (outputs (arriveAny e) p arrivals).flatten

def inProgress (e : CanCtx) (p : Progress) (arrivals : List (Option CanFrame)) : Progress :=
  final (arriveAny e) p arrivals

/-- While the loop goes on, no deadline passes. -/
def XferState.Punctual : XferState → Turn → Prop
  | .running x, turn => x.Punctual turn
  | .ended _ _, _ => True

/-- What the loop comes to: it goes on and has seen every round, or it has returned without an error
while no reception is active. -/
def XferState.Sound (seen : Progress) (later : List Turn) : XferState → Prop
  | .running _ => later = []
  | .ended rc x => (rc = 0 ∨ rc = -1) ∧ (∀ i, (x.streams i).state = .idle) ∧ seen = fun _ => none

section Request

variable {e : CanCtx} {numFrame : Int} {ecus : Finset UInt32}

theorem step_ended (e : CanCtx) (numFrame : Int) (rc : Int) (x : Xfer) (turns : List Turn) :
    final (XferState.step e numFrame) (.ended rc x) turns = .ended rc x ∧
      (outputs (XferState.step e numFrame) (.ended rc x) turns).flatten = [] := by
  induction turns with
  | nil => exact ⟨rfl, rfl⟩
  | cons turn turns ih => exact ih

theorem run_spec (known : Ecus e.protocol ecus) (functional : e.Functional numFrame) {p : Progress}
    {x : Xfer} (tracks : Tracks e.protocol ecus p x.streams) (turns : List Turn)
    (traffic : Traffic e ecus p (turns.map Turn.rx))
    (punctual : Admissible XferState.Punctual
      (fun s turn => (XferState.step e numFrame s turn).1) (.running x) turns) :
    ∃ seen later, turns = seen ++ later ∧
      (outputs (XferState.step e numFrame) (.running x) turns).flatten =
        answers e p (seen.map Turn.rx) ∧
      (final (XferState.step e numFrame) (.running x) turns).Sound
        (inProgress e p (seen.map Turn.rx)) later := by
  induction turns generalizing p x with
  | nil => exact ⟨[], [], rfl, rfl, rfl⟩
  | cons turn turns ih =>
      obtain ⟨proper, traffic⟩ := traffic
      obtain ⟨here, punctual⟩ := punctual
      rcases round_spec known functional tracks here proper with
        ⟨x', round, kept⟩ | ⟨rc, x', round, code, idle, none⟩
      · have step : XferState.step e numFrame (.running x) turn =
          (.running x', (arriveAny e p turn.rx).2) := round
        dsimp only at punctual
        rw [step] at punctual
        obtain ⟨seen, later, rfl, events, sound⟩ := ih kept traffic punctual
        refine ⟨turn :: seen, later, rfl, ?_, ?_⟩
        · rw [outputs, step, List.flatten_cons, events]
          rfl
        · rw [final, step]
          exact sound
      · have step : XferState.step e numFrame (.running x) turn = (.ended rc x', []) := round
        obtain ⟨last, silent⟩ := step_ended e numFrame rc x' turns
        refine ⟨[], turn :: turns, rfl, ?_, ?_⟩
        · rw [outputs, step, List.flatten_cons, silent]
          rfl
        · rw [final, step, last]
          exact ⟨code, idle, none⟩

theorem isIso15765_cases {protocol : Protocol} (iso : isIso15765 protocol = true) :
    (canIs11Bit protocol = true ∧ protocol ≠ .can29Bit250K ∧ protocol ≠ .can29Bit500K ∨
      canIs11Bit protocol = false ∧ (protocol = .can29Bit250K ∨ protocol = .can29Bit500K)) ∧
      protocol ≠ .canSaeJ1939 := by
  cases protocol <;> revert iso <;> decide

/-- The identifier of a functional request. -/
theorem validId_txId (protocol : isIso15765 e.protocol = true) (multicast : e.multicast = true) :
    validId e.txId = true := by
  obtain ⟨kinds, other⟩ := isIso15765_cases protocol
  unfold CanCtx.multicast at multicast
  unfold CanCtx.txId
  rcases kinds with ⟨short, low, high⟩ | ⟨long, either⟩
  · rw [short, if_pos rfl, beq_iff_eq] at multicast
    rw [if_neg (by simp [low, high, other]), multicast]
    rfl
  · rw [long, if_neg Bool.false_ne_true, addressMask, long, if_neg Bool.false_ne_true,
      beq_iff_eq] at multicast
    have flagged : (e.headerId ||| canEffFlag) &&& canEffFlag = canEffFlag := by
      apply UInt32.toBitVec_inj.mp
      ext i bound
      simp [canEffFlag]
      interval_cases i <;> simp
    have rest : (e.headerId ||| canEffFlag) &&& ~~~(canEffMask ||| canEffFlag) =
        (e.headerId &&& ~~~canPriorityMask) &&& 0x60000000 := by
      apply UInt32.toBitVec_inj.mp
      ext i bound
      simp [canEffFlag, canEffMask, canPriorityMask]
      interval_cases i <;> simp
    have extended : (canEffFlag != 0) = true := by decide
    rw [if_pos (by tauto)]
    unfold validId
    dsimp only
    rw [flagged, if_pos extended, rest, multicast]
    rfl

/-- A payload that fits a single frame is one. -/
theorem txNext_single {c : Config} {frame : List UInt8} (plain : c.addressLength = 0)
    (timeout : c.timeoutAUs = isotpDefaultTimeoutUs) (some : 0 < frame.length)
    (short : frame.length ≤ 7) :
    ∃ tx, txStart { config := c } frame 0 = (.ok, tx) ∧
      ∃ request, (txNext tx 0).2.2 = .some request := by
  have length : (decide (frame.length = 0) || decide (frame.length > isotpMaxPayload) ||
      (c.functional && decide (frame.length > 7 - c.addressLength))) = false := by
    rw [plain, decide_eq_false (by omega : ¬ frame.length = 0),
      decide_eq_false (by unfold isotpMaxPayload; omega : ¬ frame.length > isotpMaxPayload),
      decide_eq_false (by omega : ¬ frame.length > 7 - 0), Bool.and_false]
    rfl
  unfold txStart
  rw [if_neg (by rw [length]; decide), if_neg fun busy => busy rfl]
  refine ⟨_, rfl, ?_⟩
  have fresh : expired 0 ((0 : Time) + isotpDefaultTimeoutUs) = false := by decide
  unfold txNext txCheckTimeout
  simp only [timeout, fresh]
  exact ⟨_, rfl⟩

/-- A functional request of up to seven bytes is one frame. -/
theorem requestFrame_spec (protocol : isIso15765 e.protocol = true)
    (functional : e.Functional numFrame) {frame : List UInt8} (some : 0 < frame.length)
    (short : frame.length ≤ 7) : ∃ request, e.requestFrame frame = .some request := by
  have valid := validId_txId protocol functional.multicast
  have accepted : validConfig e.requestConfig = true := validConfig_configDefault valid valid
  obtain ⟨tx, started, request, next⟩ :=
    txNext_single (c := e.requestConfig) rfl rfl some short
  have init : txInit { config := e.requestConfig } e.requestConfig =
      (.ok, { config := e.requestConfig }) := by
    rw [txInit, accepted]
    rfl
  unfold CanCtx.requestFrame
  dsimp only
  rw [functional.formats, if_pos rfl, if_neg (Nat.not_lt.2 short), init]
  dsimp only
  rw [if_neg (by decide), started]
  dsimp only
  rw [if_neg (by decide), next]
  exact ⟨_, rfl⟩

end Request

/-- A functional request of up to seven bytes under a protocol of ISO 15765-4, with automatic
formatting and with responses on, for which no number of frames is asked. Up to eight ECUs send
messages in any order of their frames, between other frames; all is sent and confirmed, and no
deadline passes. Then each frame of a message is printed when it comes, each first frame is answered
by one flow control to its sender, nothing else is printed or sent, and the function returns only
while no reception is active, and no error. -/
theorem replies_kept_apart (e : CanCtx) {numFrame : Int} (protocol : isIso15765 e.protocol = true)
    (functional : e.Functional numFrame) (responses : e.timing.responses = true) {link : Link}
    (opened : link.opened = true) (sent : link.sent = true) {data : List UInt8}
    (some : 0 < data.length) (short : data.length ≤ 7) {ecus : Finset UInt32}
    (known : Ecus e.protocol ecus) (turns : List Turn)
    (traffic : Traffic e ecus (fun _ => none) (turns.map Turn.rx))
    (punctual : Admissible XferState.Punctual
      (fun s turn => (XferState.step e numFrame s turn).1) (.running (e.begun link numFrame)) turns) :
    ∃ request seen later, e.requestFrame data = .some request ∧ turns = seen ++ later ∧
      (canProtocolXfer e link data numFrame turns).2 =
        .request request :: answers e (fun _ => none) (seen.map Turn.rx) ∧
      (canProtocolXfer e link data numFrame turns).1.Sound
        (inProgress e (fun _ => none) (seen.map Turn.rx)) later := by
  obtain ⟨request, built⟩ := requestFrame_spec protocol functional some short
  have tracks : Tracks e.protocol ecus (fun _ => none) (e.begun link numFrame).streams :=
    tracks_zero
  obtain ⟨seen, later, all, events, sound⟩ := run_spec known functional tracks turns traffic punctual
  have unbounded := functional.unbounded
  have goes : canProtocolXfer e link data numFrame turns =
      (final (XferState.step e numFrame) (.running (e.begun link numFrame)) turns,
        .request request ::
          (outputs (XferState.step e numFrame) (.running (e.begun link numFrame)) turns).flatten) := by
    unfold canProtocolXfer
    dsimp only
    rw [opened, built]
    dsimp only
    rw [if_neg (by decide), sent, if_neg (by decide), responses, if_neg (by simp; omega)]
  rw [goes]
  exact ⟨request, seen, later, built, all, congrArg _ events, sound⟩

/-! ## Two ECUs -/

/-- The settings after a protocol has been selected, and a bus that takes all that is sent. -/
def selectedCan : CanCtx where
  protocol := .can11Bit500K
  headerId := 0x7DF
  canAutoFormat := true
  showHeader := false
  timing := { timeout := 200, adaptiveTiming := 1 }

def openLink : Link := ⟨true, true, 0, 0, 0, 0⟩

/-- A round at once, with a frame of eight bytes. -/
def roundAtOnce (id : UInt32) (bytes : List UInt8) : Turn where
  topMs := 0
  expiryMs := 0
  rx := some { id, dlc := 8, data := (Block.fill 8 0).store 0 bytes }
  rxMs := 0
  confirmed := true
  confirmedMs := 0
  latencyMs := 0
  restartMs := 0

/-- A message of ten bytes, with a reply of another ECU inside. -/
def twoReplies : List Turn :=
  [roundAtOnce 0x7E8 [0x10, 10, 0x49, 2, 1, 0x31, 0x32, 0x33],
    roundAtOnce 0x7E9 [3, 0x7F, 9, 0x12],
    roundAtOnce 0x7E8 [0x21, 0x34, 0x35, 0x36, 0x37]]

instance (x : Xfer) (turn : Turn) : Decidable (x.Punctual turn) :=
  decidable_of_iff
    ((∀ i, (x.streams i).state ≠ .idle →
        expired (x.nowUs turn.topMs) (x.streams i).deadlineUs = false) ∧
      (∀ i, (x.streams i).state ≠ .idle →
        expired (x.nowUs turn.rxMs) (x.streams i).deadlineUs = false) ∧
      expired (x.nowUs turn.confirmedMs) (x.nowUs turn.rxMs + isotpDefaultTimeoutUs) = false ∧
      turn.confirmed = true)
    ⟨fun ⟨top, received, confirmed, sent⟩ => ⟨top, received, confirmed, sent⟩,
      fun punctual => ⟨punctual.top, punctual.received, punctual.confirmed, punctual.sent⟩⟩

instance : ∀ (state : XferState) (turn : Turn), Decidable (state.Punctual turn)
  | .running x, turn => inferInstanceAs (Decidable (x.Punctual turn))
  | .ended _ _, _ => isTrue True.intro

theorem replies_kept_apart_two :
    ∃ request seen later, selectedCan.requestFrame [9, 2] = .some request ∧
      twoReplies = seen ++ later ∧
      (canProtocolXfer selectedCan openLink [9, 2] (-1) twoReplies).2 =
        .request request :: answers selectedCan (fun _ => none) (seen.map Turn.rx) ∧
      (canProtocolXfer selectedCan openLink [9, 2] (-1) twoReplies).1.Sound
        (inProgress selectedCan (fun _ => none) (seen.map Turn.rx)) later := by
  have pair {id : UInt32} (member : id ∈ ({0x7E8, 0x7E9} : Finset UInt32)) :
      id = 0x7E8 ∨ id = 0x7E9 := by
    simpa using member
  have known : Ecus selectedCan.protocol {0x7E8, 0x7E9} := by
    refine ⟨Finset.card_le_two.trans (by decide), fun id member => ?_, fun id member => ?_,
      fun id member other among same => ?_⟩
    · rcases pair member with rfl | rfl <;> rfl
    · rcases pair member with rfl | rfl <;> rfl
    · rcases pair member with rfl | rfl
      · rcases pair among with rfl | rfl
        · rfl
        · exact absurd same (by decide)
      · rcases pair among with rfl | rfl
        · exact absurd same (by decide)
        · rfl
  have traffic : Traffic selectedCan {0x7E8, 0x7E9} (fun _ => none)
      (twoReplies.map Turn.rx) := by
    refine ⟨fun f member _ => ?_, fun f member _ => ?_, fun f member _ => ?_, True.intro⟩
    · cases member
      exact ⟨by decide, by decide, by decide, .first rfl (by decide) rfl (by decide)⟩
    · cases member
      exact ⟨by decide, by decide, by decide,
        .single (by decide) (by decide) (by decide) (by decide)⟩
    · cases member
      exact ⟨by decide, by decide, by decide,
        .consecutive ⟨4, 1⟩ (by decide) (by decide) (by decide) (by decide)⟩
  have functional : selectedCan.Functional (-1) := ⟨rfl, rfl, by decide⟩
  have punctual : Admissible XferState.Punctual
      (fun s turn => (XferState.step selectedCan (-1) s turn).1)
      (.running (selectedCan.begun openLink (-1))) twoReplies := by
    decide +kernel
  exact replies_kept_apart selectedCan rfl functional rfl rfl rfl (by decide) (by decide) known
    twoReplies traffic punctual

/-- A functional request of eight bytes is refused. -/
theorem eight_bytes_refused :
    isIso15765 selectedCan.protocol = true ∧ selectedCan.Functional (-1) ∧
      selectedCan.timing.responses = true ∧
      ∃ x, canProtocolXfer selectedCan openLink [1, 2, 3, 4, 5, 6, 7, 8] (-1) [] =
        (.ended (-2) x, []) :=
  ⟨rfl, ⟨rfl, rfl, by decide⟩, rfl, _, rfl⟩

end OpenDiag.Elm327
