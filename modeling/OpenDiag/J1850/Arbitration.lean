import OpenDiag.J1850.VpwCodec

/-!
# Arbitration on the VPW bus

The bus is active while any node drives it so. Each node drives the pulses of its frame and samples
the bus during its own passive pulses, at the offsets of `j1850_vpw_watch_offsets`; a node that
finds the bus active leaves it for good. Of two frames that begin together, the one with a zero at
the first different bit goes through undamaged.
-/

namespace OpenDiag.J1850.Vpw

/-! ## The bus -/

/-- `TX_WATCH_GUARD_US`. -/
def txWatchGuardUs : Nat := 12

/-- `TX_SYNC_SLACK_US`. -/
def txSyncSlackUs : Nat := 8

/-- `TX_WATCH_TAIL_US`. -/
def txWatchTailUs : Nat := txWatchGuardUs + txSyncSlackUs

/-- The pulses of a frame, each as `j1850_vpw_pulse_at` gives it. -/
def sentPulses (data : List UInt8) : List Pulse :=
  (List.range (pulseCount data.length)).filterMap (pulseAt data)

/-- The level that pulses drive, from the moment they begin. -/
def wave : List Pulse → Nat → Level
  | [], _ => passive
  | pulse :: train, t => if t < pulse.us then pulse.level else wave train (t - pulse.us)

/-- The length of pulses. -/
def duration (train : List Pulse) : Nat :=
  (train.map Pulse.us).sum

/-- When the pulses that begin at a time are watched, as `mon_schedule` walks them. -/
def checks : Nat → List Pulse → List Nat
  | _, [] => []
  | start, pulse :: train =>
    (watchOffsets pulse txWatchGuardUs txWatchTailUs).map (start + ·) ++
      checks (start + pulse.us) train

/-- A node that sends a frame, or has left the bus. -/
structure Node where
  train : List Pulse
  lost : Bool := false
  deriving DecidableEq

/-- A node that begins a frame. -/
def Node.sending (data : List UInt8) : Node where
  train := sentPulses data

def Node.drives (node : Node) (t : Nat) : Level :=
  !node.lost && wave node.train t

/-- `watch_alarm`: a sample that finds the bus active ends the transmission. -/
def Node.watch (node : Node) (t : Nat) (bus : Level) : Node :=
  if t ∈ checks 0 node.train ∧ bus = active then { node with lost := true } else node

/-- Two nodes on one bus, before what happens at a time. -/
def contend (first second : Node) : Nat → Node × Node
  | 0 => (first, second)
  | t + 1 =>
    let (first, second) := contend first second t
    let bus := first.drives t || second.drives t
    (first.watch t bus, second.watch t bus)

/-- The level of the bus at a time. -/
def busAt (first second : Node) (t : Nat) : Level :=
  (contend first second t).1.drives t || (contend first second t).2.drives t

/-! ## Pulses one after the other -/

theorem filterMap_range_getElem? {α : Type*} (xs : List α) :
    ((List.range xs.length).filterMap fun k => xs[k]?) = xs := by
  induction xs with
  | nil => rfl
  | cons x xs ih =>
      rw [List.length_cons, List.range_succ_eq_map, List.filterMap_cons, List.filterMap_map]
      simpa [Function.comp_def] using ih

theorem sentPulses_eq {data : List UInt8} (full : data.length ≠ 0)
    (short : data.length ≤ maxFrame) : sentPulses data = train data := by
  have pulse : pulseAt data = fun k => (train data)[k]? := funext (pulseAt_eq data full short)
  rw [sentPulses, pulse, ← length_train, filterMap_range_getElem?]

@[simp] theorem duration_cons (pulse : Pulse) (train : List Pulse) :
    duration (pulse :: train) = pulse.us + duration train := by
  simp [duration]

theorem wave_append (before after : List Pulse) (t : Nat) :
    wave (before ++ after) t =
      if t < duration before then wave before t else wave after (t - duration before) := by
  induction before generalizing t with
  | nil => simp [duration]
  | cons pulse before ih =>
      rw [List.cons_append, wave, wave, duration_cons, ih]
      by_cases early : t < pulse.us
      · rw [if_pos early, if_pos (by omega), if_pos early]
      · rw [if_neg early, if_neg early, Nat.sub_sub]
        by_cases inside : t - pulse.us < duration before
        · rw [if_pos inside, if_pos (by omega)]
        · rw [if_neg inside, if_neg (by omega)]

theorem checks_append (start : Nat) (before after : List Pulse) :
    checks start (before ++ after) =
      checks start before ++ checks (start + duration before) after := by
  induction before generalizing start with
  | nil => simp [checks, duration]
  | cons pulse before ih =>
      rw [List.cons_append, checks, checks, ih, duration_cons, List.append_assoc, Nat.add_assoc]

/-- A pulse is watched while it is passive, between the margins. -/
theorem of_mem_watchOffsets {pulse : Pulse} {offset : Nat}
    (member : offset ∈ watchOffsets pulse txWatchGuardUs txWatchTailUs) :
    pulse.level = passive ∧ txWatchGuardUs ≤ offset ∧ offset + txWatchTailUs < pulse.us := by
  unfold watchOffsets at member
  split at member
  · cases member
  · rename_i watched
    rw [not_or, not_not] at watched
    dsimp only at member
    rw [List.mem_append] at member
    refine ⟨watched.1, ?_⟩
    rcases member with member | member
    · split at member
      · rw [List.mem_singleton] at member
        omega
      · cases member
    · split at member
      · rw [List.mem_singleton] at member
        omega
      · cases member

theorem le_of_mem_checks {start t : Nat} {train : List Pulse} (member : t ∈ checks start train) :
    start + txWatchGuardUs ≤ t := by
  induction train generalizing start with
  | nil => cases member
  | cons pulse train ih =>
      rw [checks, List.mem_append, List.mem_map] at member
      rcases member with ⟨offset, member, rfl⟩ | member
      · have := (of_mem_watchOffsets member).2.1
        omega
      · have := ih member
        omega

/-- A node samples the bus only while it drives it passive, and before its frame ends. -/
theorem wave_of_mem_checks {start t : Nat} {train : List Pulse}
    (member : t ∈ checks start train) :
    t - start < duration train ∧ wave train (t - start) = passive := by
  induction train generalizing start with
  | nil => cases member
  | cons pulse train ih =>
      have later := le_of_mem_checks member
      rw [checks, List.mem_append, List.mem_map] at member
      rw [duration_cons, wave]
      rcases member with ⟨offset, member, rfl⟩ | member
      · obtain ⟨level, _, inside⟩ := of_mem_watchOffsets member
        rw [Nat.add_sub_cancel_left, if_pos (by omega)]
        exact ⟨by omega, level⟩
      · obtain ⟨inside, level⟩ := ih member
        have after := le_of_mem_checks member
        rw [if_neg (by omega), Nat.sub_sub]
        exact ⟨by omega, level⟩

/-! ## Two nodes -/

/-- Why one of two nodes gets through: until the other leaves, which it does at a time when it
samples the bus and finds it active for the first time, it drives nothing else. -/
structure Yields (win lose : List Pulse) (left : Nat) : Prop where
  covered : ∀ t ≤ left, wave lose t = active → wave win t = active
  quiet : ∀ t ∈ checks 0 lose, t < left → wave win t = passive
  watched : left ∈ checks 0 lose
  found : wave win left = active

section Yields

variable {win lose : List Pulse} {left : Nat} (yields : Yields win lose left)
include yields

theorem drives_of_yields (t : Nat) :
    (Node.drives { train := win } t || Node.drives { train := lose, lost := left < t } t) =
      wave win t := by
  by_cases gone : left < t
  · simp [Node.drives, gone]
  · simp only [Node.drives, gone, decide_false, Bool.not_false, Bool.true_and]
    cases driven : wave lose t with
    | false => exact Bool.or_false _
    | true => rw [yields.covered t (not_lt.1 gone) driven]; rfl

/-- The first node stays on the bus, and the second one until it finds the bus active. -/
theorem contend_of_yields (t : Nat) :
    contend { train := win } { train := lose } t =
      ({ train := win }, { train := lose, lost := left < t }) := by
  induction t with
  | zero => simp [contend]
  | succ t ih =>
      have stays : Node.watch { train := win } t (wave win t) = { train := win } := by
        refine if_neg fun found => ?_
        have own := (wave_of_mem_checks found.1).2
        rw [Nat.sub_zero, found.2] at own
        cases own
      have leaves : Node.watch { train := lose, lost := left < t } t (wave win t) =
          { train := lose, lost := left < t + 1 } := by
        rw [Node.watch]
        rcases Nat.lt_trichotomy t left with early | rfl | late
        · have unfound : ¬ (t ∈ checks 0 lose ∧ wave win t = active) := by
            rintro ⟨member, found⟩
            rw [yields.quiet t member early] at found
            cases found
          rw [if_neg unfound]
          simp [show ¬ left < t by omega, show ¬ left < t + 1 by omega]
        · rw [if_pos ⟨yields.watched, yields.found⟩]
          simp
        · simp [late, show left < t + 1 by omega]
      rw [contend, ih]
      dsimp only
      rw [drives_of_yields yields, stays, leaves]

/-- The bus carries what the first node drives. -/
theorem busAt_of_yields (t : Nat) :
    busAt { train := win } { train := lose } t = wave win t := by
  rw [busAt, contend_of_yields yields]
  exact drives_of_yields yields t

end Yields

/-- It does not matter which node is named first. -/
theorem contend_swap (first second : Node) (t : Nat) :
    contend second first t = (contend first second t).swap := by
  induction t with
  | zero => rfl
  | succ t ih =>
      rw [contend, contend, ih]
      simp only [Prod.fst_swap, Prod.snd_swap, Prod.swap_prod_mk]
      rw [Bool.or_comm]

theorem busAt_swap (first second : Node) (t : Nat) :
    busAt second first t = busAt first second t := by
  rw [busAt, busAt, contend_swap, Prod.fst_swap, Prod.snd_swap, Bool.or_comm]

/-! ## The first different bit -/

/-- Two frames are the same up to a bit, and differ there. -/
structure FirstDifference (win lose : List UInt8) (bit : Nat) : Prop where
  same : (frameBits win).take bit = (frameBits lose).take bit
  zero : (frameBits win)[bit]? = some false
  one : (frameBits lose)[bit]? = some true

/-- Two lists, neither a prefix of the other, differ somewhere for the first time. -/
theorem exists_first_difference {α : Type*} [DecidableEq α] {xs ys : List α} (left : ¬ xs <+: ys)
    (right : ¬ ys <+: xs) :
    ∃ before x y after after', xs = before ++ x :: after ∧ ys = before ++ y :: after' ∧ x ≠ y := by
  induction xs generalizing ys with
  | nil => exact absurd List.nil_prefix left
  | cons x xs ih =>
      cases ys with
      | nil => exact absurd List.nil_prefix right
      | cons y ys =>
          by_cases same : x = y
          · subst same
            rw [List.prefix_cons_inj] at left right
            obtain ⟨before, x', y', after, after', rfl, rfl, apart⟩ := ih left right
            exact ⟨x :: before, x', y', after, after', rfl, rfl, apart⟩
          · exact ⟨[], x, y, xs, ys, rfl, rfl, same⟩

theorem msbFirst_injective : Function.Injective msbFirst := by
  intro byte byte' same
  rw [← placed_msbFirst byte, ← placed_msbFirst byte', same]

theorem exists_firstDifference {a b : List UInt8} (left : ¬ a <+: b) (right : ¬ b <+: a) :
    ∃ bit, FirstDifference a b bit ∨ FirstDifference b a bit := by
  obtain ⟨before, x, y, after, after', rfl, rfl, apart⟩ := exists_first_difference left right
  have bits : ¬ msbFirst x <+: msbFirst y := fun within =>
    apart (msbFirst_injective (within.eq_of_length rfl))
  have bits' : ¬ msbFirst y <+: msbFirst x := fun within =>
    apart (msbFirst_injective (within.eq_of_length rfl)).symm
  obtain ⟨upTo, one, one', rest, rest', here, here', apart'⟩ := exists_first_difference bits bits'
  have frame : frameBits (before ++ x :: after) =
      (frameBits before ++ upTo) ++ one :: (rest ++ frameBits after) := by
    simp [frameBits, here]
  have frame' : frameBits (before ++ y :: after') =
      (frameBits before ++ upTo) ++ one' :: (rest' ++ frameBits after') := by
    simp [frameBits, here']
  refine ⟨(frameBits before ++ upTo).length, ?_⟩
  cases one with
  | false =>
      have set : one' = true := by simpa using apart'.symm
      exact .inl ⟨by rw [frame, frame', List.take_left, List.take_left],
        by rw [frame]; simp, by rw [frame', set]; simp⟩
  | true =>
      have clear : one' = false := by simpa using apart'.symm
      exact .inr ⟨by rw [frame, frame', List.take_left, List.take_left],
        by rw [frame', clear]; simp, by rw [frame]; simp⟩

theorem FirstDifference.split {win lose : List UInt8} {bit : Nat}
    (first : FirstDifference win lose bit) :
    ∃ before after after', before.length = bit ∧ frameBits win = before ++ false :: after ∧
      frameBits lose = before ++ true :: after' := by
  obtain ⟨inside, zero⟩ := List.getElem?_eq_some_iff.1 first.zero
  obtain ⟨inside', one⟩ := List.getElem?_eq_some_iff.1 first.one
  refine ⟨(frameBits win).take bit, (frameBits win).drop (bit + 1),
    (frameBits lose).drop (bit + 1), by rw [List.length_take]; omega, ?_, ?_⟩
  · rw [← zero, List.getElem_cons_drop, List.take_append_drop]
  · rw [first.same, ← one, List.getElem_cons_drop, List.take_append_drop]

/-! ## Where the pulses part -/

theorem checks_add (delay start : Nat) (train : List Pulse) :
    checks (delay + start) train = (checks start train).map (delay + ·) := by
  induction train generalizing start with
  | nil => rfl
  | cons pulse train ih =>
      rw [checks, checks, List.map_append, List.map_map, Nat.add_assoc, ih]
      simp [Function.comp_def, Nat.add_assoc]

/-- Pulses that both send first. -/
theorem Yields.append {win lose : List Pulse} {left : Nat} (yields : Yields win lose left)
    (common : List Pulse) :
    Yields (common ++ win) (common ++ lose) (duration common + left) where
  covered t early := by
    rw [wave_append, wave_append]
    split
    · exact id
    · exact yields.covered _ (by omega)
  quiet t member early := by
    rw [checks_append, Nat.zero_add, ← Nat.add_zero (duration common), checks_add,
      List.mem_append, List.mem_map] at member
    rw [wave_append]
    rcases member with member | ⟨t, member, rfl⟩
    · obtain ⟨inside, level⟩ := wave_of_mem_checks member
      rw [Nat.sub_zero] at inside level
      rwa [if_pos inside]
    · rw [if_neg (by omega), Nat.add_sub_cancel_left]
      exact yields.quiet t member (by omega)
  watched := by
    rw [checks_append, Nat.zero_add, ← Nat.add_zero (duration common), checks_add,
      Nat.add_zero]
    exact List.mem_append_right _ (List.mem_map_of_mem yields.watched)
  found := by
    rw [wave_append, if_neg (by omega), Nat.add_sub_cancel_left]
    exact yields.found

/-- Every passive pulse is watched once the guard has passed. -/
theorem guard_mem_watchOffsets {width : Nat} (long : 64 ≤ width) :
    txWatchGuardUs ∈ watchOffsets ⟨passive, width⟩ txWatchGuardUs txWatchTailUs := by
  have margins : txWatchGuardUs = 12 ∧ txWatchTailUs = 20 := ⟨rfl, rfl⟩
  rw [watchOffsets, if_neg (by simp only [ne_eq, not_true, false_or]; omega)]
  exact List.mem_append_left _ (by
    rw [if_pos (by dsimp only; omega)]
    exact List.mem_singleton_self _)

/-- A passive zero ends before a passive one: its sender drives the next bit active while the other
still watches. -/
theorem yields_of_passive {width : Nat} (long : 64 ≤ width) (win lose : List Pulse) :
    Yields (⟨passive, txTv1Passive⟩ :: ⟨active, width⟩ :: win) (⟨passive, txTv2Passive⟩ :: lose)
      (tv1Nom + txWatchGuardUs) where
  covered t early driven := by
    rw [wave, if_pos (Nat.lt_of_le_of_lt early (by decide))] at driven
    cases driven
  quiet t member early := by
    have offsets : watchOffsets ⟨passive, txTv2Passive⟩ txWatchGuardUs txWatchTailUs =
        [txWatchGuardUs, tv1Nom + txWatchGuardUs] := by decide
    rw [checks, offsets, List.map_cons, List.map_singleton, List.mem_append, List.mem_cons,
      List.mem_singleton, Nat.zero_add, Nat.zero_add] at member
    rcases member with (rfl | rfl) | member
    · rw [wave, if_pos (by decide)]
    · exact absurd early (Nat.lt_irrefl _)
    · have late := le_of_mem_checks member
      have width : txTv2Passive = 128 := rfl
      have short : tv1Nom = 64 := rfl
      dsimp only at late
      omega
  watched := by
    rw [checks]
    exact List.mem_append_left _ (by decide)
  found := by
    rw [wave, if_neg (by decide), wave, if_pos (Nat.lt_of_lt_of_le (by decide) long)]

/-- An active zero outlasts an active one: its sender still drives it while the other watches its
next bit. -/
theorem yields_of_active {width : Nat} (long : 64 ≤ width) (win lose : List Pulse) :
    Yields (⟨active, txTv2Active⟩ :: win) (⟨active, txTv1Active⟩ :: ⟨passive, width⟩ :: lose)
      (tv1Nom + txWatchGuardUs) where
  covered t early driven := by
    rw [wave, if_pos (Nat.lt_of_le_of_lt early (by decide))]
  quiet t member early := by
    have late : txTv1Active + txWatchGuardUs ≤ t := by
      rw [checks] at member
      exact le_of_mem_checks (by simpa [watchOffsets, active, passive] using member)
    exact absurd early (Nat.not_lt.2 late)
  watched := by
    have offset := guard_mem_watchOffsets long
    rw [checks, checks]
    exact List.mem_append_right _ (List.mem_append_left _ (List.mem_map.2 ⟨_, offset, by decide⟩))
  found := by
    rw [wave, if_pos (by decide)]

/-! ## Two frames -/

theorem bitPulses_append (level : Level) (bits bits' : List Bool) :
    bitPulses level (bits ++ bits') =
      bitPulses level bits ++ bitPulses (not^[bits.length] level) bits' := by
  induction bits generalizing level with
  | nil => rfl
  | cons one bits ih =>
      rw [List.cons_append, bitPulses, bitPulses, ih, List.cons_append]
      rfl

/-- The pulses of a frame up to a bit, of the bit, and after it. -/
theorem train_split {data : List UInt8} {before after : List Bool} {one : Bool}
    (split : frameBits data = before ++ one :: after) :
    train data = (⟨active, txTv3Active⟩ :: bitPulses passive before) ++
      (⟨not^[before.length] passive, bitWidth (not^[before.length] passive) one⟩ ::
        (bitPulses (!(not^[before.length] passive)) after ++ [⟨passive, txTv3Passive⟩])) := by
  rw [train, framePulses, split, bitPulses_append, bitPulses]
  simp

/-- The outcome of the arbitration between two frames that differ at a bit: the bus carries one of
them from start to end, its sender never finds the bus active while it watches it, and the other
finds it active for the first time in the passive pulse of the bit or in the one after it. -/
structure Arbitrated (first second : Node) (win lose : List UInt8) (bit : Nat) : Prop where
  carried : ∀ t, busAt first second t = wave (sentPulses win) t
  kept : ∀ t ∈ checks 0 (sentPulses win), busAt first second t = passive
  detected : ∃ k us offset, (k = bit + 1 ∨ k = bit + 2) ∧
    pulseAt lose k = some ⟨passive, us⟩ ∧
    offset ∈ watchOffsets ⟨passive, us⟩ txWatchGuardUs txWatchTailUs ∧ offset < us ∧
    busAt first second (duration ((sentPulses lose).take k) + offset) = active ∧
    ∀ t ∈ checks 0 (sentPulses lose), t < duration ((sentPulses lose).take k) + offset →
      busAt first second t = passive

theorem arbitrated_of_yields {win lose : List UInt8} {bit left : Nat}
    (yields : Yields (sentPulses win) (sentPulses lose) left) {k us offset : Nat}
    (near : k = bit + 1 ∨ k = bit + 2) (pulse : pulseAt lose k = some ⟨passive, us⟩)
    (watched : offset ∈ watchOffsets ⟨passive, us⟩ txWatchGuardUs txWatchTailUs)
    (time : left = duration ((sentPulses lose).take k) + offset) :
    Arbitrated (.sending win) (.sending lose) win lose bit where
  carried := busAt_of_yields yields
  kept t member := by
    rw [Node.sending, Node.sending, busAt_of_yields yields]
    exact (wave_of_mem_checks member).2
  detected := by
    have inside := (of_mem_watchOffsets watched).2.2
    refine ⟨k, us, offset, near, pulse, watched, Nat.lt_of_le_of_lt (Nat.le_add_right _ _) inside,
      ?_, ?_⟩
    · rw [← time, Node.sending, Node.sending, busAt_of_yields yields]
      exact yields.found
    · intro t member early
      rw [Node.sending, Node.sending, busAt_of_yields yields]
      exact yields.quiet t member (time ▸ early)

theorem bitWidth_bounds (level : Level) (one : Bool) :
    64 ≤ bitWidth level one := by
  cases level <;> cases one <;> decide

theorem arbitrated_of_difference {win lose : List UInt8} {bit : Nat}
    (full : win.length ≠ 0) (short : win.length ≤ maxFrame) (full' : lose.length ≠ 0)
    (short' : lose.length ≤ maxFrame) (first : FirstDifference win lose bit) :
    Arbitrated (.sending win) (.sending lose) win lose bit := by
  obtain ⟨before, after, after', size, zero, one⟩ := first.split
  have winTrain := (sentPulses_eq full short).trans (train_split zero)
  have loseTrain := (sentPulses_eq full' short').trans (train_split one)
  have pulses (k : Nat) : pulseAt lose k = (sentPulses lose)[k]? := by
    rw [pulseAt_eq lose full' short', sentPulses_eq full' short']
  have common : (⟨active, txTv3Active⟩ :: bitPulses passive before).length = bit + 1 := by
    simp [size]
  generalize ⟨active, txTv3Active⟩ :: bitPulses passive before = both at *
  rcases Nat.mod_two_eq_zero_or_one before.length with even | odd
  · -- The bit is passive, and the one after it active.
    have level : not^[before.length] passive = passive := by rw [not_iterate, if_pos even]
    rw [level] at winTrain loseTrain
    cases after with
    | nil =>
        have whole := congrArg List.length zero
        simp at whole
        omega
    | cons next after =>
        have yields : Yields (sentPulses win) (sentPulses lose)
            (duration both + (tv1Nom + txWatchGuardUs)) := by
          rw [winTrain, loseTrain]
          exact (yields_of_passive (bitWidth_bounds active next) _ _).append both
        have pulse : pulseAt lose (bit + 1) = some ⟨passive, txTv2Passive⟩ := by
          rw [pulses, loseTrain, List.getElem?_append_right (by omega), common, Nat.sub_self]
          rfl
        have time : duration both + (tv1Nom + txWatchGuardUs) =
            duration ((sentPulses lose).take (bit + 1)) + (tv1Nom + txWatchGuardUs) := by
          rw [loseTrain, ← common, List.take_left]
        exact arbitrated_of_yields yields (.inl rfl) pulse (by decide) time
  · -- The bit is active, and the one after it passive.
    have level : not^[before.length] passive = active := by
      rw [not_iterate, if_neg (by omega)]
      rfl
    rw [level] at winTrain loseTrain
    obtain ⟨width, rest, long, tail⟩ : ∃ width rest, 64 ≤ width ∧
        bitPulses passive after' ++ [⟨passive, txTv3Passive⟩] = ⟨passive, width⟩ :: rest := by
      cases after' with
      | nil => exact ⟨txTv3Passive, [], by decide, rfl⟩
      | cons next after' => exact ⟨bitWidth passive next, _, bitWidth_bounds _ _, rfl⟩
    have lost : sentPulses lose =
        (both ++ [⟨active, txTv1Active⟩]) ++ ⟨passive, width⟩ :: rest := by
      rw [loseTrain, ← tail, List.append_assoc]
      rfl
    have yields : Yields (sentPulses win) (sentPulses lose)
        (duration both + (tv1Nom + txWatchGuardUs)) := by
      rw [winTrain, lost, List.append_assoc]
      exact (yields_of_active long _ rest).append both
    have pulse : pulseAt lose (bit + 2) = some ⟨passive, width⟩ := by
      rw [pulses, lost, List.getElem?_append_right (by simp; omega), List.length_append, common]
      simp
    have time : duration both + (tv1Nom + txWatchGuardUs) =
        duration ((sentPulses lose).take (bit + 2)) + txWatchGuardUs := by
      rw [lost, List.take_left' (by simp [common]), ← Nat.add_assoc]
      simp [duration, txTv1Active, txTrimUs]
    exact arbitrated_of_yields yields (.inr rfl) pulse (guard_mem_watchOffsets long) time

theorem Arbitrated.swap {first second : Node} {win lose : List UInt8} {bit : Nat}
    (arbitrated : Arbitrated first second win lose bit) : Arbitrated second first win lose bit := by
  have same : busAt second first = busAt first second := funext (busAt_swap first second)
  obtain ⟨carried, kept, detected⟩ := arbitrated
  exact ⟨by rwa [same], by rwa [same], by rwa [same]⟩

/-- Of two frames that begin together, neither a prefix of the other, the one with a zero at the
first different bit goes through undamaged. -/
theorem arbitration {a b : List UInt8} (full : 1 ≤ a.length) (short : a.length ≤ maxFrame)
    (full' : 1 ≤ b.length) (short' : b.length ≤ maxFrame) (left : ¬ a <+: b) (right : ¬ b <+: a) :
    ∃ win lose bit, (win = a ∧ lose = b ∨ win = b ∧ lose = a) ∧ FirstDifference win lose bit ∧
      Arbitrated (.sending a) (.sending b) win lose bit := by
  obtain ⟨bit, first | first⟩ := exists_firstDifference left right
  · exact ⟨a, b, bit, .inl ⟨rfl, rfl⟩, first,
      arbitrated_of_difference (by omega) short (by omega) short' first⟩
  · exact ⟨b, a, bit, .inr ⟨rfl, rfl⟩, first,
      (arbitrated_of_difference (by omega) short' (by omega) short first).swap⟩

theorem arbitration_of_headers :
    ∃ win lose bit, (win = [0x48, 0x6b] ∧ lose = [0x68, 0x6a] ∨
        win = [0x68, 0x6a] ∧ lose = [0x48, 0x6b]) ∧ FirstDifference win lose bit ∧
      Arbitrated (.sending [0x48, 0x6b]) (.sending [0x68, 0x6a]) win lose bit :=
  arbitration (by decide) (by decide) (by decide) (by decide) (by decide) (by decide)

end OpenDiag.J1850.Vpw
