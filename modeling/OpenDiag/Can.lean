import Mathlib.Algebra.GroupWithZero.Nat
import OpenDiag.Lib.Memory

/-!
# Classic CAN frames and microsecond time

`can_frame.h`: identifiers carry the extended-format and remote-request flags in their top bits,
and the eight data bytes are always there whatever the length code says. Times are monotonic
microseconds modulo `2 ^ 32`; `expired` compares two of them by the sign of their difference. Among
times that lie within `2 ^ 31` of a common base, this is the order of the time elapsed since the
base.
-/

namespace OpenDiag

/-- Monotonic microseconds, modulo `2 ^ 32`. -/
abbrev Time := UInt32

/-- `(int32_t)(now - deadline) >= 0`: `now` is at or after `deadline`. -/
def expired (now deadline : Time) : Bool :=
  decide (now - deadline < 0x80000000)

def canEffFlag : UInt32 := 0x80000000
def canRtrFlag : UInt32 := 0x40000000
def canEffMask : UInt32 := 0x1FFFFFFF
def canSffMask : UInt32 := 0x7FF

/-- `struct can_frame`. -/
structure CanFrame where
  id : UInt32
  dlc : Nat
  data : Block UInt8 8
  deriving DecidableEq

instance : Inhabited CanFrame := ⟨⟨0, 0, Block.fill 8 0⟩⟩

theorem expired_self (now : Time) : expired now now = true := by
  simp [expired]

/-- A deadline has not passed one microsecond before it. -/
theorem expired_before (deadline : Time) : expired (deadline - 1) deadline = false := by
  have behind : deadline - 1 - deadline = 0xffffffff := by grind
  rw [expired, behind]
  rfl

/-! ## Times near each other -/

/-- The microseconds from `base` to a time. -/
def elapsed (base time : Time) : Nat :=
  (time - base).toNat

/-- A time is less than `2 ^ 31` microseconds after `base`. -/
def Near (base time : Time) : Prop :=
  elapsed base time < 2 ^ 31

instance (base time : Time) : Decidable (Near base time) :=
  inferInstanceAs (Decidable (_ < _))

variable {base time next : Time}

/-- Differences of times are differences of what has elapsed, modulo the counter. -/
theorem elapsed_sub (base time next : Time) :
    (time - next).toNat = (2 ^ 32 + elapsed base time - elapsed base next) % 2 ^ 32 := by
  simp only [elapsed, UInt32.toNat_sub]
  have := base.toNat_lt
  have := time.toNat_lt
  have := next.toNat_lt
  omega

/-- A time that is not too far off is reached by adding, without wrapping. -/
theorem elapsed_add (near : Near base time) (short : next.toNat < 2 ^ 31) :
    elapsed base (time + next) = elapsed base time + next.toNat := by
  simp only [Near, elapsed, UInt32.toNat_sub, UInt32.toNat_add] at *
  have := base.toNat_lt
  have := time.toNat_lt
  omega

/-- Of two times near the same base, one has expired at the other exactly if it is not later. -/
theorem expired_iff (near : Near base time) (next_near : Near base next) :
    expired time next = true ↔ elapsed base next ≤ elapsed base time := by
  have apart := elapsed_sub base time next
  simp only [Near] at near next_near
  rw [expired, decide_eq_true_iff, UInt32.lt_iff_toNat_lt, apart]
  simp only [UInt32.reduceToNat]
  omega

/-- The signed difference tells the earlier of two near times. -/
theorem toInt32_sub_neg_iff (near : Near base time) (next_near : Near base next) :
    (time - next).toInt32 < 0 ↔ elapsed base time < elapsed base next := by
  have apart := elapsed_sub base time next
  simp only [Near] at near next_near
  have sign : (time - next).toInt32 < 0 ↔ 2 ^ 31 ≤ (time - next).toNat := by
    rw [Int32.lt_iff_toInt_lt]
    exact (BitVec.toInt_neg_iff (x := (time - next).toBitVec)).trans (by
      rw [UInt32.toNat_toBitVec]
      omega)
  rw [sign, apart]
  omega

/-- A time is told by what has elapsed since a base. -/
theorem elapsed_inj : elapsed base time = elapsed base next ↔ time = next := by
  rw [elapsed, elapsed, UInt32.toNat_inj, UInt32.sub_left_inj]

end OpenDiag
