import OpenDiag.J1850.Common

/-!
# J1850 PWM symbol coding

`j1850_pwm_codec.c`: a bit is a cell that begins with a rising edge, and the width of its active
phase carries the value. Cells are measured from rising edge to rising edge.
-/

namespace OpenDiag.J1850.Pwm

/-! ## Timing -/

def tp1Nom : Nat := 7
def tp2Nom : Nat := 15
def tp3Nom : Nat := 24
def tp4Nom : Nat := 48
def tp7Nom : Nat := 31

def tp1RxMin : Nat := 4
def tp1RxMax : Nat := 10
def tp2RxMin : Nat := 12
def tp2RxMax : Nat := 18
def tp3RxMin : Nat := 21
def tp3RxMax : Nat := 27
def tp4RxMin : Nat := 42
def tp4RxMax : Nat := 54
def tp5RxMin : Nat := 63
def tp7RxMin : Nat := 27
def tp7RxMax : Nat := 34
def tp8RxMin : Nat := 35
def tp8RxMax : Nat := 43

/-- `J1850_PWM_BIT_SPLIT`. -/
def bitSplit : Nat := (tp1Nom + tp2Nom) / 2

/-- `J1850_PWM_TX_TRIM_US`. -/
def txTrimUs : Nat := 0

def txTp1 : Nat := tp1Nom - txTrimUs
def txTp2 : Nat := tp2Nom - txTrimUs
def txTp7 : Nat := tp7Nom - txTrimUs

/-! ## Encoding -/

/-- `put_cell`. -/
def cell (activeUs cellUs : Nat) : Symbol where
  level0 := active
  duration0 := activeUs
  level1 := passive
  duration1 := cellUs - activeUs

/-- The cell of a start of frame. -/
def sofCell : Symbol :=
  cell txTp7 tp4Nom

/-- The cell of a bit. -/
def bitCell (one : Bool) : Symbol :=
  cell (if one then txTp1 else txTp2) tp3Nom

/-- A symbol is written behind those that are there. -/
def put (state : Nat × List Symbol) (s : Symbol) : Nat × List Symbol :=
  (state.1 + 1, state.2.set state.1 s)

/-- `j1850_pwm_encode`: the number of symbols written, and the array with them. -/
def encode (data : List UInt8) (withSof : Bool) (out : List Symbol) : Nat × List Symbol :=
  if data.length = 0 ∨ data.length > maxFrame ∨
      out.length < data.length * 8 + if withSof then 1 else 0 then (0, out)
  else
    (frameBits data).foldl (fun state one => put state (bitCell one))
      (if withSof then put (0, out) sofCell else (0, out))

/-! ## Decoding -/

/-- `j1850_pwm_rx_status_t`. -/
inductive RxStatus where
  | ok
  | ifrOnly
  | break
  | empty
  | noSof
  | badSymbol
  | badTiming
  | framing
  | tooLong
  | short
  | badCrc
  deriving DecidableEq, Repr

/-- `j1850_pwm_rx_t`. -/
structure Rx where
  status : RxStatus := .empty
  data : Field := {}
  ifr : Field := {}
  ifrOneMinUs : Nat := 0
  ifrOneMaxUs : Nat := 0
  ifrZeroMinUs : Nat := 0
  ifrZeroMaxUs : Nat := 0
  eod : Bool := false
  eodGapUs : Nat := 0
  lastActiveUs : Nat := 0
  deriving DecidableEq, Repr

/-- `active_sym_t`. -/
inductive ActiveSym where
  | one
  | zero
  | sof
  | brk
  | invalid
  deriving DecidableEq, Repr

def classifyActive (us : Nat) : ActiveSym :=
  if us ≥ tp1RxMin ∧ us ≤ tp2RxMax then if us < bitSplit then .one else .zero
  else if us ≥ tp7RxMin ∧ us ≤ tp7RxMax then .sof
  else if us ≥ tp8RxMin ∧ us ≤ tp8RxMax then .brk
  else .invalid

/-- `push_bit`, for the field that is being received. -/
def Rx.pushBit (rx : Rx) (inIfr : Bool) (nbits : Nat) (one : Bool) : Option (Rx × Nat) :=
  if inIfr then (rx.ifr.pushBit nbits one).map fun (ifr, nbits) => ({ rx with ifr }, nbits)
  else (rx.data.pushBit nbits one).map fun (data, nbits) => ({ rx with data }, nbits)

/-- `j1850_pwm_decode`, where the frame has ended. -/
def finish (rx : Rx) (nbits : Nat) : Rx :=
  if nbits ≠ 0 then { rx with status := .framing }
  else if rx.status = .ifrOnly then
    if rx.ifr.len = 0 then { rx with status := .empty } else rx
  else if rx.data.len < 2 then { rx with status := .short }
  else if !crcCheck (rx.data.bytes.take rx.data.len) then { rx with status := .badCrc }
  else rx

/-- `j1850_pwm_decode`, for the widths of the bits in a response. -/
def Rx.measure (rx : Rx) (one : Bool) (us : Nat) : Rx :=
  let least (minimum : Nat) := if minimum = 0 ∨ us < minimum then us else minimum
  let most (maximum : Nat) := if us > maximum then us else maximum
  if one then
    { rx with ifrOneMinUs := least rx.ifrOneMinUs, ifrOneMaxUs := most rx.ifrOneMaxUs }
  else { rx with ifrZeroMinUs := least rx.ifrZeroMinUs, ifrZeroMaxUs := most rx.ifrZeroMaxUs }

/-- `j1850_pwm_decode`, where an interval is a cell: the active phase that ends it is a bit. The
result is what is returned, or the receiver with its number of bits and its field. -/
def takeBit (rx : Rx) (nbits : Nat) (inIfr : Bool) (us : Nat) : Except Rx (Rx × Nat × Bool) :=
  let s := classifyActive us
  if s ≠ .one ∧ s ≠ .zero then
    .error { rx with status := if s = .invalid then .badSymbol else .badTiming }
  else
    let rx := if inIfr then rx.measure (s = .one) us else rx
    match rx.pushBit inIfr nbits (s = .one) with
    | none => .error { rx with status := .tooLong }
    | some (rx, nbits) => .ok ({ rx with lastActiveUs := us }, nbits, inIfr)

/-- `j1850_pwm_decode`, for one interval from rising edge to rising edge and the active phase that
follows. -/
def takeCell (rx : Rx) (nbits : Nat) (inIfr afterSof : Bool) (edgeGap us : Nat) :
    Except Rx (Rx × Nat × Bool) :=
  if edgeGap ≥ tp5RxMin then .error (finish rx nbits)
  else if afterSof then
    if edgeGap < tp4RxMin ∨ edgeGap > tp4RxMax then .error { rx with status := .badTiming }
    else takeBit rx nbits inIfr us
  else if edgeGap ≥ tp4RxMin then
    if inIfr then .error (finish rx nbits)
    else if nbits ≠ 0 then .error { rx with status := .framing }
    else takeBit { rx with eod := true, eodGapUs := edgeGap } nbits true us
  else if edgeGap < tp3RxMin ∨ edgeGap > tp3RxMax then .error { rx with status := .badTiming }
  else takeBit rx nbits inIfr us

/-- `j1850_pwm_decode`, from the pulse after an active phase on. -/
def decodeBody (rx : Rx) (nbits : Nat) (inIfr afterSof : Bool) (prevActive : Nat) :
    List Pulse → Rx
  | [] => finish rx nbits
  | [fall] =>
    if fall.us = 0 then finish rx nbits
    else if fall.level ≠ passive then { rx with status := .badSymbol }
    else finish rx nbits
  | fall :: rise :: rest =>
    if fall.us = 0 then finish rx nbits
    else if fall.level ≠ passive then { rx with status := .badSymbol }
    else if rise.us = 0 then finish rx nbits
    else
      match takeCell rx nbits inIfr afterSof (prevActive + fall.us) rise.us with
      | .error rx => rx
      | .ok (rx, nbits, inIfr) => decodeBody rx nbits inIfr false rise.us rest

/-- `j1850_pwm_decode`, from the first pulse on: the passive ones before the first active one are
idle. -/
def decodePulses : List Pulse → Rx
  | [] => {}
  | pulse :: rest =>
    if pulse.us = 0 then {}
    else if pulse.level ≠ active then decodePulses rest
    else
      match classifyActive pulse.us with
      | .sof => decodeBody { status := .ok, lastActiveUs := pulse.us } 0 false true pulse.us rest
      | .brk => { status := .break }
      | .invalid => { status := .noSof }
      | s =>
        let rx : Rx := { status := .ifrOnly }
        let (rx, nbits) := (rx.pushBit true 0 (s = .one)).getD (rx, 0)
        decodeBody { rx with lastActiveUs := pulse.us } nbits true false pulse.us rest

/-- `j1850_pwm_decode`. -/
def decode (sym : List Symbol) : Rx :=
  decodePulses (pulses sym)

end OpenDiag.J1850.Pwm
