import OpenDiag.J1850.Common

/-!
# J1850 VPW symbol coding

`j1850_vpw_codec.c`: each bit is one pulse, whose width and level make up its value, and the levels
alternate. A frame begins with an active start of frame and ends with a passive end of data.
-/

namespace OpenDiag.J1850.Vpw

/-! ## Timing -/

def tv1Nom : Nat := 64
def tv2Nom : Nat := 128
def tv3Nom : Nat := 200

def tv1RxMin : Nat := 35
def tv1RxMax : Nat := 96
def tv2RxMin : Nat := 97
def tv2RxMax : Nat := 163
def tv3RxMin : Nat := 164
def tv3RxMax : Nat := 239

/-- `J1850_VPW_TX_TRIM_US`. -/
def txTrimUs : Nat := 0

def txTv1Active : Nat := tv1Nom - txTrimUs
def txTv2Active : Nat := tv2Nom - txTrimUs
def txTv3Active : Nat := tv3Nom - txTrimUs
def txTv1Passive : Nat := tv1Nom + txTrimUs
def txTv2Passive : Nat := tv2Nom + txTrimUs
def txTv3Passive : Nat := tv3Nom + txTrimUs

/-! ## Encoding -/

/-- `put_pulse`: an even index is the active half of a symbol word. -/
def putPulse (out : List Symbol) (i us : Nat) : List Symbol :=
  out.modify (i / 2) fun s =>
    if i % 2 = 1 then { s with level1 := passive, duration1 := us }
    else { s with level0 := active, duration0 := us }

/-- The width that a bit is sent with at a level. -/
def bitWidth (level : Level) (one : Bool) : Nat :=
  if level = active then if one then txTv1Active else txTv2Active
  else if one then txTv2Passive else txTv1Passive

/-- `j1850_vpw_encode`, for one bit. -/
def encodeBit (state : Nat × List Symbol) (one : Bool) : Nat × List Symbol :=
  let (i, out) := state
  (i + 1, putPulse out i (bitWidth (i % 2 = 0) one))

/-- `j1850_vpw_encode`: the number of symbols written, and the array with them. -/
def encode (data : List UInt8) (out : List Symbol) : Nat × List Symbol :=
  if data.length = 0 ∨ data.length > maxFrame ∨ out.length < 4 * data.length + 1 then (0, out)
  else
    let (i, out) := (frameBits data).foldl encodeBit (1, putPulse out 0 txTv3Active)
    ((i + 1) / 2, putPulse out i txTv3Passive)

/-! ## Contention -/

/-- `J1850_VPW_PULSE_COUNT`. -/
def pulseCount (len : Nat) : Nat :=
  2 + 8 * len

/-- `j1850_vpw_pulse_at`. -/
def pulseAt (data : List UInt8) (k : Nat) : Option Pulse :=
  if data.length = 0 ∨ data.length > maxFrame ∨ k ≥ pulseCount data.length then none
  else if k = 0 then some ⟨active, txTv3Active⟩
  else if k = pulseCount data.length - 1 then some ⟨passive, txTv3Passive⟩
  else
    let bit := k - 1
    let one := data.getD (bit / 8) 0 >>> UInt8.ofNat (7 - bit % 8) &&& 1 ≠ 0
    if k % 2 = 0 then some ⟨active, if one then txTv1Active else txTv2Active⟩
    else some ⟨passive, if one then txTv2Passive else txTv1Passive⟩

/-- `j1850_vpw_watch_offsets`; there is room for all of them. -/
def watchOffsets (pulse : Pulse) (headUs tailUs : Nat) : List Nat :=
  if pulse.level ≠ passive ∨ pulse.us ≤ tailUs then []
  else
    let last := pulse.us - tailUs
    (if headUs < last then [headUs] else []) ++
      if tv1Nom + headUs < last then [tv1Nom + headUs] else []

/-! ## Decoding -/

/-- `j1850_vpw_rx_status_t`. -/
inductive RxStatus where
  | ok
  | ifrOnly
  | break
  | empty
  | noSof
  | badSymbol
  | framing
  | tooLong
  | short
  | badCrc
  deriving DecidableEq, Repr

/-- `j1850_vpw_rx_t`. -/
structure Rx where
  status : RxStatus := .empty
  data : Field := {}
  ifr : Field := {}
  eod : Bool := false
  nb : Bool := false
  nbLong : Bool := false
  deriving DecidableEq, Repr

/-- `width_t`. -/
inductive Width where
  | invalid
  | short
  | long
  | tv3
  | tv4
  deriving DecidableEq, Repr

def classify (us : Nat) : Width :=
  if us < tv1RxMin then .invalid
  else if us ≤ tv1RxMax then .short
  else if us ≤ tv2RxMax then .long
  else if us ≤ tv3RxMax then .tv3
  else .tv4

def bitValue (level : Level) (width : Width) : Bool :=
  if level = active then width = .short else width = .long

/-- `push_bit`, for the field that is being received. -/
def Rx.pushBit (rx : Rx) (inIfr : Bool) (nbits : Nat) (one : Bool) : Option (Rx × Nat) :=
  if inIfr then (rx.ifr.pushBit nbits one).map fun (ifr, nbits) => ({ rx with ifr }, nbits)
  else (rx.data.pushBit nbits one).map fun (data, nbits) => ({ rx with data }, nbits)

/-- `j1850_vpw_decode`, where the frame has ended. -/
def finish (rx : Rx) (nbits : Nat) : Rx :=
  if nbits ≠ 0 then { rx with status := .framing }
  else if rx.status = .ifrOnly then
    if rx.ifr.len = 0 then { rx with status := .empty } else rx
  else if rx.data.len < 2 then { rx with status := .short }
  else if !crcCheck (rx.data.bytes.take rx.data.len) then { rx with status := .badCrc }
  else rx

/-- `j1850_vpw_decode`, from the pulse after the first active one on. -/
def decodeBody (rx : Rx) (nbits : Nat) (inIfr needNb : Bool) (expect : Level) : List Pulse → Rx
  | [] => finish rx nbits
  | pulse :: rest =>
    if pulse.us = 0 then finish rx nbits
    else if pulse.level ≠ expect then { rx with status := .badSymbol }
    else
      let width := classify pulse.us
      match width with
      | .invalid => { rx with status := .badSymbol }
      | .tv4 =>
        if pulse.level = active then { rx with status := .break } else finish rx nbits
      | .tv3 =>
        if pulse.level = active then { rx with status := .badSymbol }
        else if inIfr then finish rx nbits
        else if nbits ≠ 0 then { rx with status := .framing }
        else decodeBody { rx with eod := true } nbits true true (!expect) rest
      | _ =>
        if needNb then
          decodeBody { rx with nb := true, nbLong := width = .long } nbits inIfr false (!expect)
            rest
        else
          match rx.pushBit inIfr nbits (bitValue pulse.level width) with
          | none => { rx with status := .tooLong }
          | some (rx, nbits) => decodeBody rx nbits inIfr false (!expect) rest

/-- `j1850_vpw_decode`, from the first pulse on: the passive ones before the first active one are
idle. -/
def decodePulses : List Pulse → Rx
  | [] => {}
  | pulse :: rest =>
    if pulse.us = 0 then {}
    else if pulse.level ≠ active then decodePulses rest
    else
      let width := classify pulse.us
      match width with
      | .tv3 => decodeBody { status := .ok } 0 false false passive rest
      | .tv4 => { status := .break }
      | .invalid => { status := .noSof }
      | _ => decodeBody { status := .ifrOnly, nb := true, nbLong := width = .long } 0 true false
          passive rest

/-- `j1850_vpw_decode`. -/
def decode (sym : List Symbol) : Rx :=
  decodePulses (pulses sym)

end OpenDiag.J1850.Vpw
