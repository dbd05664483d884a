import OpenDiag.Can

/-!
# ISO-TP configurations, results and addressing

The parts of `isotp.c` that the receiver and the sender share: the configuration and its validity,
the result codes, the test that a frame is addressed to this endpoint, and the frame that every
outgoing frame starts from.
-/

namespace OpenDiag.Isotp

/-- `isotp_result_t`. `ok` is the plain `0` that the functions return for "nothing to report"; it
has the numeric value of `ISOTP_IGNORED` but is not returned under that name. -/
inductive Result where
  | ok
  | ignored
  | frame
  | complete
  | errArgument
  | errBusy
  | errSequence
  | errOverflow
  | errTimeoutA
  | errTimeoutBs
  | errTimeoutCr
  | errFlowStatus
  | errWaitLimit
  | errSend
  deriving DecidableEq, Repr

/-- The value of a result as the C `int`. -/
def Result.code : Result → Int
  | .ok => 0
  | .ignored => 0
  | .frame => 1
  | .complete => 2
  | .errArgument => -1
  | .errBusy => -2
  | .errSequence => -3
  | .errOverflow => -4
  | .errTimeoutA => -5
  | .errTimeoutBs => -6
  | .errTimeoutCr => -7
  | .errFlowStatus => -8
  | .errWaitLimit => -9
  | .errSend => -10

/-- `rc < 0`. -/
def Result.isError (rc : Result) : Bool :=
  decide (rc.code < 0)

@[simp] theorem Result.isError_ok : Result.isError .ok = false := rfl

def isotpMaxPayload : Nat := 4095
def isotpDefaultTimeoutUs : Time := 1000000

/-- `isotp_config_t`. -/
structure Config where
  txId : UInt32
  rxId : UInt32
  rxMask : UInt32
  extendedAddress : Bool
  txAddress : UInt8
  rxAddress : UInt8
  functional : Bool
  pad : Bool
  padValue : UInt8
  blockSize : UInt8
  stmin : UInt8
  waitLimit : UInt8
  timeoutAUs : Time
  timeoutBsUs : Time
  timeoutCrUs : Time
  deriving DecidableEq, Repr

/-- The number of address bytes in front of the protocol control information. -/
def Config.addressLength (c : Config) : Nat :=
  if c.extendedAddress then 1 else 0

theorem Config.addressLength_le (c : Config) : c.addressLength ≤ 1 := by
  unfold Config.addressLength
  split <;> omega

def validId (id : UInt32) : Bool :=
  let mask := if id &&& canEffFlag != 0 then canEffMask else canSffMask
  id &&& ~~~(mask ||| canEffFlag) == 0

def validStmin (value : UInt8) : Bool :=
  value ≤ 0x7f || (0xf1 ≤ value && value ≤ 0xf9)

/-- A timer value that `valid_config` accepts: nonzero and at most `INT32_MAX`. -/
def validTimeout (timeout : Time) : Bool :=
  timeout != 0 && timeout ≤ 0x7fffffff

def validConfig (c : Config) : Bool :=
  validId c.txId && validId c.rxId && validStmin c.stmin &&
    validTimeout c.timeoutAUs && validTimeout c.timeoutBsUs && validTimeout c.timeoutCrUs

/-- `matches`: the frame is addressed to this endpoint and has room for control information. -/
def matchesFrame (c : Config) (f : CanFrame) : Bool :=
  validId f.id && f.dlc ≤ 8 && f.dlc > c.addressLength &&
    (f.id ^^^ c.rxId) &&& (c.rxMask ||| canEffFlag) == 0 &&
    (!c.extendedAddress || f.data.read 0 == c.rxAddress)

/-- `prepare`: the padding and the address that every outgoing frame starts from. -/
def prepare (c : Config) : CanFrame :=
  let data := Block.fill 8 c.padValue
  { id := c.txId
    dlc := 0
    data := if c.extendedAddress then data.store 0 [c.txAddress] else data }

def configDefault (txId rxId : UInt32) : Config where
  txId := txId
  rxId := rxId
  rxMask := 0xffffffff
  extendedAddress := false
  txAddress := 0
  rxAddress := 0
  functional := false
  pad := true
  padValue := 0
  blockSize := 0
  stmin := 0
  waitLimit := 255
  timeoutAUs := isotpDefaultTimeoutUs
  timeoutBsUs := isotpDefaultTimeoutUs
  timeoutCrUs := isotpDefaultTimeoutUs

def stminUs (value : UInt8) : Time :=
  if value ≤ 0x7f then value.toUInt32 * 1000
  else if 0xf1 ≤ value && value ≤ 0xf9 then (value.toUInt32 - 0xf0) * 100
  -- reserved values stand for the longest separation
  else 127000

/-- Milliseconds up to 127, tenths of a millisecond from 0xf1 to 0xf9, and else the longest
separation. -/
theorem toNat_stminUs (value : UInt8) :
    (stminUs value).toNat =
      if value.toNat ≤ 127 then value.toNat * 1000
      else if 0xf1 ≤ value.toNat ∧ value.toNat ≤ 0xf9 then (value.toNat - 0xf0) * 100
      else 127000 := by
  have all : ∀ value : BitVec 8, (stminUs ⟨value⟩).toNat =
      if value.toNat ≤ 127 then value.toNat * 1000
      else if 0xf1 ≤ value.toNat ∧ value.toNat ≤ 0xf9 then (value.toNat - 0xf0) * 100
      else 127000 := by decide +kernel
  exact all value.toBitVec

/-- The defaults pass the check that the engines make, for any two valid identifiers. -/
theorem validConfig_configDefault {txId rxId : UInt32} (tx : validId txId = true)
    (rx : validId rxId = true) : validConfig (configDefault txId rxId) = true := by
  simp [validConfig, configDefault, tx, rx, validStmin, validTimeout, isotpDefaultTimeoutUs]

end OpenDiag.Isotp
