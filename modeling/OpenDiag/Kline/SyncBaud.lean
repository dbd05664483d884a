import Mathlib.Algebra.Order.Archimedean.Real.Basic
import Mathlib.Algebra.Order.Round
import Mathlib.Tactic.Linarith
import Mathlib.Tactic.FieldSimp
import OpenDiag.Kline.Codec

/-!
# The rate of a synchronisation character

The ECU answers a 5 baud address with `$55`, whose ten edges are one bit time apart.
`kline_sync_baud_from_edges` takes the rate from the first and the last of them and refuses the
pattern when one of the nine intervals is not close to their mean. The edges are timestamps of a
32-bit counter, so that only their differences mean anything.
-/

namespace OpenDiag.Kline

/-- `KLINE_SYNC_EDGE_COUNT`. -/
def syncEdgeCount : Nat := 10

/-- `SYNC_RATE_MARGIN_PCT` below `KLINE_BAUD_MIN`. -/
def minBaud : UInt32 := 1200 * (100 - 6) / 100

/-- `SYNC_RATE_MARGIN_PCT` above `KLINE_BAUD_MAX`. -/
def maxBaud : UInt32 := 10400 * (100 + 6) / 100

/-- `span`: from the first edge to the last. -/
def syncSpan (edges : List UInt32) : UInt32 :=
  edges.getD (syncEdgeCount - 1) 0 - edges.getD 0 0

/-- `mean`: the ninth part of the span, rounded. -/
def syncMean (span : UInt32) : UInt32 := (span + (10 - 1) / 2) / (10 - 1)

/-- `interval`: from one edge to the next. -/
def syncInterval (edges : List UInt32) (i : Nat) : UInt32 :=
  edges.getD i 0 - edges.getD (i - 1) 0

/-- The nine intervals. -/
def syncIntervals (edges : List UInt32) : List Nat :=
  (List.range' 1 9).map fun i => (syncInterval edges i).toNat

/-- The interval is within `SYNC_INTERVAL_TOLERANCE_PCT` of the mean. -/
def intervalOk (interval mean : UInt32) : Bool :=
  let scaled := interval.toUInt64 * 100
  !(scaled < mean.toUInt64 * (100 - 20) || scaled > mean.toUInt64 * (100 + 20))

/-- `baud`: nine bits in a span of microseconds, rounded. -/
def syncRate (span : UInt32) : UInt32 :=
  ((9000000 + (span / 2).toUInt64) / span.toUInt64).toUInt32

/-- `kline_sync_baud_from_edges`; a null pointer is a list without edges. -/
def syncBaudFromEdges (edges : List UInt32) : UInt32 :=
  if edges.length < syncEdgeCount then 0
  else
    let span := syncSpan edges
    if span = 0 then 0
    else
      let mean := syncMean span
      if mean = 0 then 0
      else if (List.range' 1 9).all fun i => intervalOk (syncInterval edges i) mean then
        let baud := syncRate span
        if minBaud ≤ baud ∧ baud ≤ maxBaud then baud else 0
      else 0

/-! ## The same estimate in exact arithmetic -/

/-- A value that a word of the width can hold. -/
def inWidth (width value : Nat) : Option Nat :=
  if value < 2 ^ width then some value else none

/-- A quotient, of a divisor that is not zero. -/
def quotient (dividend divisor : Nat) : Option Nat :=
  if divisor = 0 then none else some (dividend / divisor)

/-- `intervalOk` over the naturals. -/
def intervalOkExact (interval mean : Nat) : Option Bool := do
  let scaled ← inWidth 64 (interval * 100)
  let low ← inWidth 64 (mean * (100 - 20))
  let high ← inWidth 64 (mean * (100 + 20))
  pure !(scaled < low || scaled > high)

/-- The estimate over the naturals, which stops at the first step whose value its word cannot hold
and at a zero divisor. Differences of timestamps are taken modulo the counter. -/
def syncBaudExact (edges : List UInt32) : Option Nat :=
  if edges.length < syncEdgeCount then some 0
  else
    let span := (syncSpan edges).toNat
    if span = 0 then some 0
    else do
      let rounded ← inWidth 32 (span + 9 / 2)
      let mean ← quotient rounded 9
      if mean = 0 then pure 0
      else
        let ok ← (List.range' 1 9).allM fun i =>
          intervalOkExact (syncInterval edges i).toNat mean
        if ok then
          let scaled ← inWidth 64 (9000000 + span / 2)
          let baud ← quotient scaled span
          let baud ← inWidth 32 baud
          pure (if 1128 ≤ baud ∧ baud ≤ 11024 then baud else 0)
        else pure 0

/-! ## The words hold their values -/

theorem intervalOk_iff (interval mean : UInt32) :
    intervalOk interval mean = true ↔
      80 * mean.toNat ≤ 100 * interval.toNat ∧ 100 * interval.toNat ≤ 120 * mean.toNat := by
  have narrow := interval.toNat_lt
  have bounded := mean.toNat_lt
  simp only [intervalOk, Bool.not_eq_true', Bool.or_eq_false_iff, decide_eq_false_iff_not,
    UInt64.not_lt, gt_iff_lt, UInt64.le_iff_toNat_le, UInt64.toNat_mul, UInt32.toNat_toUInt64]
  have low : (100 - 20 : UInt64).toNat = 80 := rfl
  have high : (100 + 20 : UInt64).toNat = 120 := rfl
  have hundred : (100 : UInt64).toNat = 100 := rfl
  rw [low, high, hundred, Nat.mod_eq_of_lt (by omega : mean.toNat * 80 < 2 ^ 64),
    Nat.mod_eq_of_lt (by omega : interval.toNat * 100 < 2 ^ 64),
    Nat.mod_eq_of_lt (by omega : mean.toNat * 120 < 2 ^ 64)]
  omega

theorem syncMean_toNat {span : UInt32} (room : span.toNat + 4 < 2 ^ 32) :
    (syncMean span).toNat = (span.toNat + 4) / 9 := by
  simp only [syncMean, UInt32.toNat_div, UInt32.toNat_add]
  rw [show (((10 - 1 : UInt32).toNat) / (2 : UInt32).toNat) = 4 from rfl,
    show (10 - 1 : UInt32).toNat = 9 from rfl, Nat.mod_eq_of_lt room]

/-- Near the end of the counter's range the rounding wraps, and the mean is zero. -/
theorem syncMean_eq_zero {span : UInt32} (full : 2 ^ 32 ≤ span.toNat + 4) : syncMean span = 0 := by
  have narrow := span.toNat_lt
  apply UInt32.toNat_inj.mp
  simp only [syncMean, UInt32.toNat_div, UInt32.toNat_add]
  rw [show (((10 - 1 : UInt32).toNat) / (2 : UInt32).toNat) = 4 from rfl,
    show (10 - 1 : UInt32).toNat = 9 from rfl, show (0 : UInt32).toNat = 0 from rfl]
  omega

theorem syncRate_toNat {span : UInt32} (positive : span ≠ 0) :
    (syncRate span).toNat = (9000000 + span.toNat / 2) / span.toNat := by
  have narrow := span.toNat_lt
  have nonzero : 0 < span.toNat :=
    Nat.pos_of_ne_zero fun zero => positive (UInt32.toNat_inj.mp zero)
  have small : (9000000 + span.toNat / 2) / span.toNat < 2 ^ 32 :=
    lt_of_le_of_lt (Nat.div_le_self _ _) (by omega)
  simp only [syncRate, UInt64.toNat_toUInt32, UInt64.toNat_div, UInt64.toNat_add,
    UInt32.toNat_toUInt64, UInt32.toNat_div]
  rw [show (9000000 : UInt64).toNat = 9000000 from rfl, show (2 : UInt32).toNat = 2 from rfl,
    Nat.mod_eq_of_lt (by omega : 9000000 + span.toNat / 2 < 2 ^ 64), Nat.mod_eq_of_lt small]

theorem intervalOkExact_eq (interval mean : UInt32) :
    intervalOkExact interval.toNat mean.toNat = some (intervalOk interval mean) := by
  have narrow := interval.toNat_lt
  have bounded := mean.toNat_lt
  rw [intervalOkExact, inWidth, inWidth, inWidth, if_pos (by omega), if_pos (by omega),
    if_pos (by omega)]
  apply congrArg some
  apply Bool.eq_iff_iff.mpr
  rw [intervalOk_iff]
  simp only [Bool.not_eq_true', Bool.or_eq_false_iff, decide_eq_false_iff_not]
  omega

/-! ## What the estimate is -/

/-- The estimate is not zero exactly when all of its guards pass, and then it is the rate. -/
theorem syncBaudFromEdges_ne_zero {edges : List UInt32} (found : syncBaudFromEdges edges ≠ 0) :
    syncSpan edges ≠ 0 ∧ syncMean (syncSpan edges) ≠ 0 ∧
      (∀ i ∈ List.range' 1 9,
        intervalOk (syncInterval edges i) (syncMean (syncSpan edges)) = true) ∧
      minBaud ≤ syncRate (syncSpan edges) ∧ syncRate (syncSpan edges) ≤ maxBaud ∧
      syncBaudFromEdges edges = syncRate (syncSpan edges) := by
  unfold syncBaudFromEdges at found ⊢
  by_cases short : edges.length < syncEdgeCount
  · simp only [short, if_true, ne_eq, not_true_eq_false] at found
  by_cases still : syncSpan edges = 0
  · simp only [short, still, if_true, if_false, ne_eq, not_true_eq_false] at found
  by_cases mean : syncMean (syncSpan edges) = 0
  · simp only [short, still, mean, if_true, if_false, ne_eq, not_true_eq_false] at found
  by_cases even : (List.range' 1 9).all fun i =>
      intervalOk (syncInterval edges i) (syncMean (syncSpan edges))
  · simp only [short, still, mean, even, if_true, if_false] at found ⊢
    by_cases range : minBaud ≤ syncRate (syncSpan edges) ∧ syncRate (syncSpan edges) ≤ maxBaud
    · exact ⟨still, mean, List.all_eq_true.mp even, range.1, range.2, if_pos range⟩
    · exact absurd (if_neg range) found
  · simp only [short, still, mean, even, if_false, ne_eq, not_true_eq_false,
      Bool.false_eq_true] at found

/-- Where every guard passes, the estimate is the rate. -/
theorem syncBaudFromEdges_eq {edges : List UInt32} (long : syncEdgeCount ≤ edges.length)
    (moved : syncSpan edges ≠ 0) (mean : syncMean (syncSpan edges) ≠ 0)
    (even : ∀ i ∈ List.range' 1 9,
      intervalOk (syncInterval edges i) (syncMean (syncSpan edges)) = true)
    (range : minBaud ≤ syncRate (syncSpan edges) ∧ syncRate (syncSpan edges) ≤ maxBaud) :
    syncBaudFromEdges edges = syncRate (syncSpan edges) := by
  rw [syncBaudFromEdges, if_neg (by omega)]
  simp only [moved, mean, List.all_eq_true.mpr even, if_false, if_true, range, and_self]

/-- As long as the rounding of the mean does not wrap, no step does. -/
theorem syncBaudExact_eq {edges : List UInt32} (room : (syncSpan edges).toNat + 4 < 2 ^ 32) :
    syncBaudExact edges = some (syncBaudFromEdges edges).toNat := by
  unfold syncBaudExact syncBaudFromEdges
  by_cases short : edges.length < syncEdgeCount
  · rw [if_pos short, if_pos short]
    rfl
  rw [if_neg short, if_neg short]
  by_cases still : syncSpan edges = 0
  · simp only [still, if_true, UInt32.toNat_zero]
  have positive : (syncSpan edges).toNat ≠ 0 := fun zero => still (UInt32.toNat_inj.mp zero)
  have mean := syncMean_toNat room
  simp only [positive, still, if_false, inWidth, quotient]
  rw [if_pos (by omega)]
  simp only [Option.bind_eq_bind, Option.bind_some, if_neg (by decide : ¬(9 = 0))]
  rw [show 9 / 2 = 4 from rfl, ← mean]
  by_cases absent : syncMean (syncSpan edges) = 0
  · simp only [absent, UInt32.toNat_zero, if_true, Option.pure_def]
  have present : (syncMean (syncSpan edges)).toNat ≠ 0 :=
    fun zero => absent (UInt32.toNat_inj.mp zero)
  rw [if_neg present, if_neg absent]
  simp only [intervalOkExact_eq]
  rw [show (List.range' 1 9).allM (fun i =>
      some (intervalOk (syncInterval edges i) (syncMean (syncSpan edges)))) = _
    from List.allM_pure]
  simp only [Option.pure_def, Option.bind_some]
  by_cases even : (List.range' 1 9).all fun i =>
      intervalOk (syncInterval edges i) (syncMean (syncSpan edges))
  · have rate := syncRate_toNat still
    have narrow := (syncRate (syncSpan edges)).toNat_lt
    have bounded := (syncSpan edges).toNat_lt
    simp only [even, if_true]
    rw [if_pos (by omega)]
    simp only [Option.bind_some]
    rw [← rate, if_pos narrow, Option.bind_some]
    apply congrArg Option.some
    have low : minBaud.toNat = 1128 := rfl
    have high : maxBaud.toNat = 11024 := rfl
    simp only [UInt32.le_iff_toNat_le, low, high, apply_ite UInt32.toNat, UInt32.toNat_zero]
  · simp only [even, if_false, Bool.false_eq_true, UInt32.toNat_zero]

/-! ## A constant added to every edge -/

theorem getD_map_add {edges : List UInt32} {i : Nat} (present : i < edges.length)
    (shift : UInt32) : (edges.map (· + shift)).getD i 0 = edges.getD i 0 + shift := by
  rw [List.getD_eq_getElem?_getD, List.getD_eq_getElem?_getD, List.getElem?_map,
    List.getElem?_eq_getElem present, Option.map_some, Option.getD_some, Option.getD_some]

theorem add_sub_add (first second shift : UInt32) :
    first + shift - (second + shift) = first - second := by
  grind

/-- Only differences of edges are looked at. -/
theorem syncBaudFromEdges_map_add (edges : List UInt32) (shift : UInt32) :
    syncBaudFromEdges (edges.map (· + shift)) = syncBaudFromEdges edges := by
  unfold syncBaudFromEdges
  rw [List.length_map]
  by_cases short : edges.length < syncEdgeCount
  · rw [if_pos short, if_pos short]
  have long : 10 ≤ edges.length := Nat.not_lt.mp short
  have span : syncSpan (edges.map (· + shift)) = syncSpan edges := by
    rw [syncSpan, getD_map_add (by rw [syncEdgeCount]; omega), getD_map_add (by omega),
      add_sub_add, syncSpan]
  have intervals : ∀ mean, ((List.range' 1 9).all fun i =>
      intervalOk (syncInterval (edges.map (· + shift)) i) mean) =
        (List.range' 1 9).all fun i => intervalOk (syncInterval edges i) mean := by
    intro mean
    rw [Bool.eq_iff_iff, List.all_eq_true, List.all_eq_true]
    apply forall₂_congr
    intro i member
    have bound := List.mem_range'_1.mp member
    rw [syncInterval, getD_map_add (by omega), getD_map_add (by omega), add_sub_add, syncInterval]
  rw [if_neg short, if_neg short, span]
  simp only [intervals]

/-! ## Sums of intervals -/

/-- A difference of timestamps is their distance, up to wraps of the counter. -/
theorem toNat_sub_eq (first second : UInt32) :
    ∃ wraps : ℤ, ((first - second).toNat : ℤ) = first.toNat - second.toNat + 2 ^ 32 * wraps := by
  have narrow := first.toNat_lt
  have bounded := second.toNat_lt
  rw [UInt32.toNat_sub]
  by_cases order : second.toNat ≤ first.toNat
  · exact ⟨0, by omega⟩
  · exact ⟨1, by omega⟩

/-- The differences of neighbouring timestamps add up to the whole difference, up to wraps. -/
theorem sum_differences (time : Nat → UInt32) (count : Nat) :
    ∃ wraps : ℤ,
      (((List.range' 1 count).map fun i => (time i - time (i - 1)).toNat).sum : ℤ) =
        ((time count).toNat : ℤ) - (time 0).toNat + 2 ^ 32 * wraps := by
  induction count with
  | zero => exact ⟨0, by simp⟩
  | succ count ih =>
      obtain ⟨before, sum⟩ := ih
      obtain ⟨wraps, step⟩ := toNat_sub_eq (time (count + 1)) (time count)
      refine ⟨before + wraps, ?_⟩
      rw [List.range'_1_concat, List.map_append, List.sum_append, List.map_singleton,
        List.sum_singleton, Nat.add_comm 1 count, Nat.add_sub_cancel, Nat.cast_add, sum, step]
      ring

/-- What one multiple of both sides bounds, every list of bounded summands keeps. -/
theorem sum_bounds {values : List Nat} {low high factor : Nat}
    (bounded : ∀ value ∈ values, low ≤ factor * value ∧ factor * value ≤ high) :
    low * values.length ≤ factor * values.sum ∧ factor * values.sum ≤ high * values.length := by
  induction values with
  | nil => simp
  | cons value values ih =>
      have first := bounded value (List.mem_cons_self ..)
      have rest := ih fun other member => bounded other (List.mem_cons_of_mem _ member)
      rw [List.length_cons, List.sum_cons, Nat.mul_add, Nat.mul_add, Nat.mul_add]
      omega

/-- Intervals close to a mean that did not wrap add up to the span without a wrap. -/
theorem sum_syncInterval {edges : List UInt32} (room : (syncSpan edges).toNat + 4 < 2 ^ 32)
    (even : ∀ i ∈ List.range' 1 9,
      intervalOk (syncInterval edges i) (syncMean (syncSpan edges)) = true) :
    (syncIntervals edges).sum = (syncSpan edges).toNat := by
  obtain ⟨wraps, sum⟩ := sum_differences (fun i => edges.getD i 0) 9
  obtain ⟨other, span⟩ := toNat_sub_eq (edges.getD 9 0) (edges.getD 0 0)
  have total : ((syncIntervals edges).sum : ℤ) =
      (syncSpan edges).toNat + 2 ^ 32 * (wraps - other) := by
    have expanded : ((syncSpan edges).toNat : ℤ) = _ := span
    have summed : ((syncIntervals edges).sum : ℤ) = _ := sum
    rw [expanded, summed]
    ring
  have length : (syncIntervals edges).length = 9 := by
    rw [syncIntervals, List.length_map, List.length_range']
  have bounds : 80 * (syncMean (syncSpan edges)).toNat * (syncIntervals edges).length ≤
        100 * (syncIntervals edges).sum ∧
      100 * (syncIntervals edges).sum ≤
        120 * (syncMean (syncSpan edges)).toNat * (syncIntervals edges).length := by
    apply sum_bounds
    intro value member
    obtain ⟨i, listed, rfl⟩ := List.mem_map.mp member
    exact (intervalOk_iff _ _).mp (even i listed)
  rw [syncMean_toNat room, length] at bounds
  omega

/-! ## Rounded quotients -/

/-- Adding half of the divisor rounds the quotient. -/
theorem add_half_div_eq_round (dividend : Nat) {divisor : Nat} (positive : 0 < divisor) :
    (((dividend + divisor / 2) / divisor : Nat) : ℤ) = round ((dividend : ℝ) / divisor) := by
  symm
  rw [round_eq_iff, Set.mem_Ico]
  have below := Nat.div_mul_le_self (dividend + divisor / 2) divisor
  have above := Nat.lt_div_mul_add (a := dividend + divisor / 2) positive
  generalize (dividend + divisor / 2) / divisor = found at below above
  have low : 2 * found * divisor ≤ 2 * dividend + divisor := by
    have := Nat.div_mul_le_self divisor 2
    nlinarith
  have high : 2 * dividend < (2 * found + 1) * divisor := by
    have := Nat.lt_div_mul_add (a := divisor) (Nat.zero_lt_two)
    have expand : (2 * found + 1) * divisor = 2 * (found * divisor) + divisor := by ring
    omega
  have whole : (0 : ℝ) < divisor := by exact_mod_cast positive
  constructor
  · rw [le_div_iff₀ whole]
    have : (2 * found * divisor : ℝ) ≤ 2 * dividend + divisor := by exact_mod_cast low
    push_cast
    linarith
  · rw [div_lt_iff₀ whole]
    have : (2 * dividend : ℝ) < (2 * found + 1) * divisor := by exact_mod_cast high
    push_cast
    linarith

/-! ## Soundness -/

/-- What a rate that is not zero says of the edges it was taken from. -/
structure SyncSound (edges : List UInt32) : Prop where
  range : 1128 ≤ (syncBaudFromEdges edges).toNat ∧ (syncBaudFromEdges edges).toNat ≤ 11024
  even : ∀ interval ∈ syncIntervals edges,
    80 * round ((syncIntervals edges).sum / 9 : ℝ) ≤ 100 * (interval : ℤ) ∧
      100 * (interval : ℤ) ≤ 120 * round ((syncIntervals edges).sum / 9 : ℝ)
  sum : (syncIntervals edges).sum = (syncSpan edges).toNat
  rate : ((syncBaudFromEdges edges).toNat : ℤ) = round (9000000 / (syncSpan edges).toNat : ℝ)

theorem syncSound {edges : List UInt32} (found : syncBaudFromEdges edges ≠ 0) :
    SyncSound edges := by
  obtain ⟨moved, mean, even, low, high, rate⟩ := syncBaudFromEdges_ne_zero found
  have room : (syncSpan edges).toNat + 4 < 2 ^ 32 := by
    by_contra full
    exact mean (syncMean_eq_zero (Nat.not_lt.mp full))
  have sum := sum_syncInterval room even
  have rounded : round ((syncIntervals edges).sum / 9 : ℝ) = (syncMean (syncSpan edges)).toNat := by
    have half := add_half_div_eq_round (syncSpan edges).toNat (by decide : 0 < 9)
    rw [sum, syncMean_toNat room]
    exact_mod_cast half.symm
  refine ⟨?_, fun interval member => ?_, sum, ?_⟩
  · rw [rate]
    exact ⟨UInt32.le_iff_toNat_le.mp low, UInt32.le_iff_toNat_le.mp high⟩
  · obtain ⟨i, listed, rfl⟩ := List.mem_map.mp member
    rw [rounded]
    have bounds := (intervalOk_iff _ _).mp (even i listed)
    omega
  · have positive : 0 < (syncSpan edges).toNat :=
      Nat.pos_of_ne_zero fun zero => moved (UInt32.toNat_inj.mp zero)
    have half := add_half_div_eq_round 9000000 positive
    rw [rate, syncRate_toNat moved]
    exact_mod_cast half

/-! ## Tolerance -/

/-- The counter's value at a time in microseconds. -/
def counterAt (time : ℤ) : UInt32 := UInt32.ofNat (time % 2 ^ 32).toNat

theorem counterAt_sub {later earlier : ℤ} (order : earlier ≤ later)
    (near : later - earlier < 2 ^ 32) :
    ((counterAt later - counterAt earlier).toNat : ℤ) = later - earlier := by
  have first : (counterAt later).toNat = (later % 2 ^ 32).toNat := by
    rw [counterAt, UInt32.toNat_ofNat']
    omega
  have second : (counterAt earlier).toNat = (earlier % 2 ^ 32).toNat := by
    rw [counterAt, UInt32.toNat_ofNat']
    omega
  rw [UInt32.toNat_sub, first, second]
  omega

/-- The counter's values at ten times. -/
def edgesAt (time : Fin 10 → ℤ) : List UInt32 := List.ofFn fun i => counterAt (time i)

theorem getD_edgesAt (time : Fin 10 → ℤ) {i : Nat} (bound : i < 10) :
    (edgesAt time).getD i 0 = counterAt (time ⟨i, bound⟩) := by
  rw [edgesAt, List.getD_eq_getElem?_getD, List.getElem?_ofFn, dif_pos bound, Option.getD_some]

section Jitter

variable {bit start : ℝ} {time : Fin 10 → ℤ}

/-- Two edges are as far apart as their bits, up to a sixth of a bit. -/
theorem distance_of_jitter
    (jitter : ∀ i, |(time i : ℝ) - (start + (i : ℕ) * bit)| ≤ bit / 12) (i j : Fin 10) :
    ((j : ℕ) - (i : ℕ) : ℝ) * bit - bit / 6 ≤ (time j - time i : ℤ) ∧
      ((time j - time i : ℤ) : ℝ) ≤ ((j : ℕ) - (i : ℕ) : ℝ) * bit + bit / 6 := by
  obtain ⟨lower, upper⟩ := abs_le.mp (jitter i)
  obtain ⟨low, high⟩ := abs_le.mp (jitter j)
  push_cast
  constructor <;> linarith

theorem span_of_jitter (slow : 96 ≤ bit) (fast : bit ≤ 834)
    (jitter : ∀ i, |(time i : ℝ) - (start + (i : ℕ) * bit)| ≤ bit / 12) :
    ((syncSpan (edgesAt time)).toNat : ℤ) = time 9 - time 0 ∧
      848 ≤ (syncSpan (edgesAt time)).toNat ∧ (syncSpan (edgesAt time)).toNat ≤ 7645 := by
  obtain ⟨low, high⟩ := distance_of_jitter jitter 0 9
  have nine : (((9 : Fin 10) : ℕ) : ℝ) = 9 := rfl
  have zero : (((0 : Fin 10) : ℕ) : ℝ) = 0 := Nat.cast_zero
  rw [nine, zero] at low high
  have lower : (848 : ℝ) ≤ (time 9 - time 0 : ℤ) := by linarith
  have upper : ((time 9 - time 0 : ℤ) : ℝ) ≤ 7645 := by linarith
  have least : 848 ≤ time 9 - time 0 := by exact_mod_cast lower
  have most : time 9 - time 0 ≤ 7645 := by exact_mod_cast upper
  have exact : ((syncSpan (edgesAt time)).toNat : ℤ) = time 9 - time 0 := by
    rw [syncSpan, getD_edgesAt time (by decide), getD_edgesAt time (by decide)]
    exact counterAt_sub (by change time 0 ≤ time 9; omega) (by change time 9 - time 0 < _; omega)
  omega

theorem even_of_jitter (slow : 96 ≤ bit) (fast : bit ≤ 834)
    (jitter : ∀ i, |(time i : ℝ) - (start + (i : ℕ) * bit)| ≤ bit / 12) {i : Nat}
    (listed : i ∈ List.range' 1 9) :
    intervalOk (syncInterval (edgesAt time) i) (syncMean (syncSpan (edgesAt time))) = true := by
  have bound := List.mem_range'_1.mp listed
  obtain ⟨span, least, most⟩ := span_of_jitter slow fast jitter
  obtain ⟨low, high⟩ := distance_of_jitter jitter ⟨i - 1, by omega⟩ ⟨i, by omega⟩
  obtain ⟨lower, upper⟩ := distance_of_jitter jitter 0 9
  have nine : (((9 : Fin 10) : ℕ) : ℝ) = 9 := rfl
  have zero : (((0 : Fin 10) : ℕ) : ℝ) = 0 := Nat.cast_zero
  have step : ((i : ℝ) - ((i - 1 : ℕ) : ℝ)) = 1 := by
    rw [Nat.cast_sub bound.1]
    push_cast
    ring
  rw [nine, zero, ← span] at lower upper
  simp only [step] at low high
  have interval : ((syncInterval (edgesAt time) i).toNat : ℤ) =
      time ⟨i, by omega⟩ - time ⟨i - 1, by omega⟩ := by
    have forward : (0 : ℝ) ≤ (time ⟨i, by omega⟩ - time ⟨i - 1, by omega⟩ : ℤ) := by linarith
    have near : ((time ⟨i, by omega⟩ - time ⟨i - 1, by omega⟩ : ℤ) : ℝ) ≤ 973 := by linarith
    have least : 0 ≤ time ⟨i, by omega⟩ - time ⟨i - 1, by omega⟩ := by exact_mod_cast forward
    have most : time ⟨i, by omega⟩ - time ⟨i - 1, by omega⟩ ≤ 973 := by exact_mod_cast near
    rw [syncInterval, getD_edgesAt time (by omega), getD_edgesAt time (by omega)]
    exact counterAt_sub (by omega) (by omega)
  rw [← interval] at low high
  -- Both bounds leave room for the rounding of the mean from 48 microseconds on.
  have below : (80 * ((syncSpan (edgesAt time)).toNat + 4) : ℝ) ≤
      900 * (syncInterval (edgesAt time) i).toNat := by
    push_cast at low upper
    linarith
  have above : (900 * (syncInterval (edgesAt time) i).toNat : ℝ) ≤
      120 * ((syncSpan (edgesAt time)).toNat - 4) := by
    push_cast at high lower
    linarith
  have lowest : 80 * ((syncSpan (edgesAt time)).toNat + 4) ≤
      900 * (syncInterval (edgesAt time) i).toNat := by exact_mod_cast below
  have highest : 900 * (syncInterval (edgesAt time) i).toNat + 480 ≤
      120 * (syncSpan (edgesAt time)).toNat := by
    have shifted : (900 * (syncInterval (edgesAt time) i).toNat + 480 : ℝ) ≤
        120 * (syncSpan (edgesAt time)).toNat := by linarith
    exact_mod_cast shifted
  rw [intervalOk_iff, syncMean_toNat (by omega)]
  omega

/-- A pattern whose edges are displaced by no more than a twelfth of a bit is accepted. -/
theorem syncBaud_of_jitter (slow : 96 ≤ bit) (fast : bit ≤ 834)
    (jitter : ∀ i, |(time i : ℝ) - (start + (i : ℕ) * bit)| ≤ bit / 12) :
    syncBaudFromEdges (edgesAt time) ≠ 0 ∧
      ((syncBaudFromEdges (edgesAt time)).toNat : ℤ) =
        round (9000000 / (time 9 - time 0 : ℤ) : ℝ) := by
  obtain ⟨span, least, most⟩ := span_of_jitter slow fast jitter
  have moved : syncSpan (edgesAt time) ≠ 0 := by
    intro still
    rw [still, UInt32.toNat_zero] at least
    omega
  have mean : syncMean (syncSpan (edgesAt time)) ≠ 0 := by
    intro none
    have value := syncMean_toNat (by omega : (syncSpan (edgesAt time)).toNat + 4 < 2 ^ 32)
    rw [none, UInt32.toNat_zero] at value
    omega
  have rate := syncRate_toNat moved
  have low : 1128 ≤ (syncRate (syncSpan (edgesAt time))).toNat := by
    rw [rate, Nat.le_div_iff_mul_le (by omega)]
    omega
  have high : (syncRate (syncSpan (edgesAt time))).toNat ≤ 11024 := by
    rw [rate, Nat.div_le_iff_le_mul_add_pred (by omega)]
    omega
  have found : syncBaudFromEdges (edgesAt time) = syncRate (syncSpan (edgesAt time)) :=
    syncBaudFromEdges_eq (by rw [edgesAt, List.length_ofFn]; rfl) moved mean
      (fun i listed => even_of_jitter slow fast jitter listed)
      ⟨UInt32.le_iff_toNat_le.mpr low, UInt32.le_iff_toNat_le.mpr high⟩
  have nonzero : syncBaudFromEdges (edgesAt time) ≠ 0 := by
    intro zero
    rw [← found, zero, UInt32.toNat_zero] at low
    omega
  refine ⟨nonzero, ?_⟩
  have exact := (syncSound nonzero).rate
  rw [exact, ← span, Int.cast_natCast]

end Jitter

/-! ## The estimate as a whole -/

/-- The only step whose value its word may not hold is the rounding of the mean, and then the
estimate is zero. -/
theorem syncBaud_steps {edges : List UInt32} (long : syncEdgeCount ≤ edges.length) :
    (syncBaudExact edges = some (syncBaudFromEdges edges).toNat ↔
        (syncSpan edges).toNat + 4 < 2 ^ 32) ∧
      (2 ^ 32 ≤ (syncSpan edges).toNat + 4 → syncBaudFromEdges edges = 0) := by
  have wrapped : 2 ^ 32 ≤ (syncSpan edges).toNat + 4 → syncBaudFromEdges edges = 0 := by
    intro full
    by_contra found
    exact (syncBaudFromEdges_ne_zero found).2.1 (syncMean_eq_zero full)
  refine ⟨⟨fun exact => ?_, syncBaudExact_eq⟩, wrapped⟩
  by_contra full
  have moved : (syncSpan edges).toNat ≠ 0 := by omega
  rw [syncBaudExact, if_neg (Nat.not_lt.mpr long)] at exact
  simp only [moved, if_false, inWidth, show 9 / 2 = 4 from rfl, full, Option.bind_eq_bind,
    Option.bind_none, reduceCtorEq] at exact

/-- The estimate does not depend on where the counter stands; what it accepts is an even pattern at
a rate in range, and every pattern with little jitter is accepted at its own rate; and no step
divides by zero or overflows, but for the rounding of the mean of a span that fills the counter,
whose estimate is zero all the same. -/
theorem syncBaud_sound_and_tolerant (edges : Fin 10 → UInt32) :
    (∀ shift, syncBaudFromEdges (List.ofFn fun i => edges i + shift) =
        syncBaudFromEdges (List.ofFn edges)) ∧
      (syncBaudFromEdges (List.ofFn edges) ≠ 0 → SyncSound (List.ofFn edges)) ∧
      (∀ (bit start : ℝ) (time : Fin 10 → ℤ), 96 ≤ bit → bit ≤ 834 →
        (∀ i, |(time i : ℝ) - (start + (i : ℕ) * bit)| ≤ bit / 12) →
        (∀ i, edges i = counterAt (time i)) →
        syncBaudFromEdges (List.ofFn edges) ≠ 0 ∧
          ((syncBaudFromEdges (List.ofFn edges)).toNat : ℤ) =
            round (9000000 / (time 9 - time 0 : ℤ) : ℝ)) ∧
      (syncBaudExact (List.ofFn edges) = some (syncBaudFromEdges (List.ofFn edges)).toNat ↔
        (syncSpan (List.ofFn edges)).toNat + 4 < 2 ^ 32) ∧
      (2 ^ 32 ≤ (syncSpan (List.ofFn edges)).toNat + 4 →
        syncBaudFromEdges (List.ofFn edges) = 0) := by
  have steps := @syncBaud_steps (List.ofFn edges) (by rw [List.length_ofFn]; rfl)
  refine ⟨fun shift => ?_, syncSound, fun bit start time slow fast jitter same => ?_, steps⟩
  · rw [← syncBaudFromEdges_map_add (List.ofFn edges) shift, List.map_ofFn]
    rfl
  · obtain rfl : edges = fun i => counterAt (time i) := funext same
    exact syncBaud_of_jitter slow fast jitter

/-- The rounding of the mean overflows its word when the edges are a whole turn of the counter
apart. -/
theorem syncBaud_rounding_wraps :
    let edges : List UInt32 := [0, 0, 0, 0, 0, 0, 0, 0, 0, 0xffffffff]
    syncBaudExact edges = none ∧ syncBaudFromEdges edges = 0 := by
  decide

end OpenDiag.Kline
