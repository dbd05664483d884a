import OpenDiag.J1850.Arbitration
import OpenDiag.Lib.Run

/-!
# The contention monitor

`mon_start`, `mon_schedule` and `watch_alarm` of `j1850_vpw.c`. A node that sends a frame sets a
timer for each moment at which it watches a pulse. The pulses come from `j1850_vpw_pulse_at`, never
from the encoded array; both have the same pulses, so the monitor places each of them where the
transmitter begins it.
-/

namespace OpenDiag.J1850.Vpw

/-! ## The monitor -/

/-- What `gptimer_get_raw_count` and `gptimer_set_alarm_action` answer. -/
structure GpTimer (τ : Type*) where
  rawCount : τ → Option Nat × τ
  setAlarm : Nat → τ → Bool × τ

/-- `g.mon`; the offsets are those in use, `n_offs` of them. -/
structure Monitor where
  enabled : Bool := true
  running : Bool := false
  lost : Bool := false
  frame : List UInt8 := []
  pulse : Nat := 0
  pulseStart : Nat := 0
  pulseEnd : Nat := 0
  offs : List Nat := []
  nextOff : Nat := 0
  injectAt : Nat := 0
  checks : Nat := 0
  deriving DecidableEq, Repr

/-- The pulse that begins now is the one to watch. -/
def Monitor.watchPulse (mon : Monitor) (pulse : Pulse) : Monitor :=
  { mon with
    offs := watchOffsets pulse txWatchGuardUs txWatchTailUs
    nextOff := 0
    pulseEnd := mon.pulseStart + pulse.us - txWatchTailUs }

/-- `mon_schedule`, where the checks of a pulse are done: whether there is a next pulse. -/
def Monitor.advance (mon : Monitor) : Bool × Monitor :=
  match pulseAt mon.frame mon.pulse with
  | none => (false, mon)
  | some pulse =>
    let mon := { mon with pulseStart := mon.pulseStart + pulse.us, pulse := mon.pulse + 1 }
    match pulseAt mon.frame mon.pulse with
    | none => (false, mon)
    | some pulse => (true, mon.watchPulse pulse)

section Schedule

variable {τ : Type*}

theorem lt_of_pulseAt {data : List UInt8} {k : Nat} {pulse : Pulse}
    (found : pulseAt data k = some pulse) : k < pulseCount data.length := by
  by_contra past
  rw [pulseAt, if_pos (.inr (.inr (not_lt.1 past)))] at found
  cases found

theorem Monitor.advance_true {mon next : Monitor} (more : mon.advance = (true, next)) :
    ∃ pulse after, pulseAt mon.frame mon.pulse = some pulse ∧
      pulseAt mon.frame (mon.pulse + 1) = some after ∧
      next = Monitor.watchPulse
        { mon with pulseStart := mon.pulseStart + pulse.us, pulse := mon.pulse + 1 } after := by
  unfold advance at more
  cases found : pulseAt mon.frame mon.pulse with
  | none => simp [found] at more
  | some pulse =>
      cases found' : pulseAt mon.frame (mon.pulse + 1) with
      | none => simp [found, found'] at more
      | some after =>
          simp only [found, found', Prod.mk.injEq, true_and] at more
          exact ⟨pulse, after, rfl, rfl, more.symm⟩

/-- `mon_schedule`. -/
def Monitor.schedule (timer : GpTimer τ) (mon : Monitor) (env : τ) : Bool × Monitor × τ :=
  if next : mon.nextOff < mon.offs.length then
    let moment := mon.pulseStart + mon.offs[mon.nextOff]
    let mon' := { mon with nextOff := mon.nextOff + 1 }
    match timer.rawCount env with
    | (some now, env) =>
      -- missed it
      if now ≥ moment then mon'.schedule timer env
      else
        let (set, env) := timer.setAlarm moment env
        (set, mon', env)
    | (none, env) =>
      let (set, env) := timer.setAlarm moment env
      (set, mon', env)
  else
    match more : mon.advance with
    | (false, mon) => (false, mon, env)
    | (true, mon') => mon'.schedule timer env
termination_by (pulseCount mon.frame.length - mon.pulse, mon.offs.length - mon.nextOff)
decreasing_by
  · exact Prod.Lex.right _ (by omega)
  · obtain ⟨pulse, after, found, -, rfl⟩ := Monitor.advance_true more
    exact Prod.Lex.left _ _ (Nat.sub_lt_sub_left (lt_of_pulseAt found) (Nat.lt_succ_self _))

/-- `watch_alarm`, from the level of the bus. -/
def Monitor.watchAlarm (timer : GpTimer τ) (state : Monitor × τ) (bus : Level) : Monitor × τ :=
  let (mon, env) := state
  if !mon.running then (mon, env)
  else
    let mon := { mon with checks := mon.checks + 1 }
    if mon.injectAt ≠ 0 ∧ mon.checks = mon.injectAt then
      ({ mon with injectAt := 0, lost := true }, env)
    else
      match timer.rawCount env with
      | (none, env) => (mon.schedule timer env).2
      | (some now, env) =>
        if now ≥ mon.pulseEnd then (mon.schedule timer env).2
        else if bus = active then ({ mon with lost := true }, env)
        else (mon.schedule timer env).2

/-- `mon_start`: the edge that ends the start of frame lies between the last moment at which the bus
was known to be active and the first at which it was known to be passive. -/
def Monitor.start (timer : GpTimer τ) (mon : Monitor) (frame : List UInt8) (activeAt fall : Nat)
    (env : τ) : Monitor × τ :=
  let mon := { mon with lost := false }
  if !mon.enabled ∨ frame.length = 0 ∨ frame.length > maxFrame then (mon, env)
  else
    let mon := { mon with frame, pulseStart := fall }
    if fall - activeAt > txSyncSlackUs then (mon, env)
    else
      let mon := { mon with pulse := 1, offs := [], nextOff := 0, checks := 0, running := true }
      match pulseAt mon.frame 1 with
      | none => (mon.schedule timer env).2
      | some pulse => ((mon.watchPulse pulse).schedule timer env).2

/-- The monitor of a frame after some alarms. -/
def Monitor.watched (timer : GpTimer τ) (idle : Monitor) (frame : List UInt8) (activeAt fall : Nat)
    (env : τ) (samples : List Level) : Monitor × τ :=
  run (Monitor.watchAlarm timer) (idle.start timer frame activeAt fall env) samples

end Schedule

/-! ## The pulses of the encoder -/

/-- The number of symbol words that the encoder writes. -/
theorem encode_fst {data : List UInt8} {out : List Symbol} (full : data.length ≠ 0)
    (short : data.length ≤ maxFrame) (room : 4 * data.length + 1 ≤ out.length) :
    (encode data out).1 = 4 * data.length + 1 := by
  have begun : (pulses (putPulse out 0 txTv3Active)).take 1 = [⟨active, txTv3Active⟩] :=
    take_pulses_putPulse txTv3Active List.take_zero (by omega)
  have fits : 1 + (frameBits data).length ≤ 2 * (putPulse out 0 txTv3Active).length := by
    rw [length_frameBits, length_putPulse]
    omega
  have index := (encodeBits begun fits).1
  rw [length_frameBits] at index
  rw [encode, if_neg (by omega)]
  dsimp only
  rw [index]
  omega

/-- The pulse that is worked out is the one in the symbol words. -/
theorem pulseAt_eq_half {data : List UInt8} {out : List Symbol} (full : data.length ≠ 0)
    (short : data.length ≤ maxFrame) (room : 4 * data.length + 1 ≤ out.length) {k : Nat}
    (inside : k < 2 + 8 * data.length) :
    pulseAt data k = (encode data out).2[k / 2]?.map fun s => s.half (k % 2) := by
  have written := encode_fst full short room
  rw [pulseAt_eq data full short, ← pulses_encode full short room, written, pulses_take,
    List.getElem?_take_of_lt (by omega), getElem?_pulses]

theorem isSome_pulseAt {data : List UInt8} (full : data.length ≠ 0)
    (short : data.length ≤ maxFrame) (k : Nat) :
    (pulseAt data k).isSome ↔ k < 2 + 8 * data.length := by
  rw [pulseAt_eq data full short, isSome_getElem?, length_train, pulseCount]

/-! ## Where the monitor places a pulse -/

/-- The widths of the pulses before one, together. -/
def widthBefore (data : List UInt8) (k : Nat) : Nat :=
  duration ((List.range k).filterMap (pulseAt data))

theorem widthBefore_succ {data : List UInt8} {k : Nat} {pulse : Pulse}
    (found : pulseAt data k = some pulse) :
    widthBefore data (k + 1) = widthBefore data k + pulse.us := by
  simp [widthBefore, List.range_succ, duration, found]

theorem widthBefore_mono (data : List UInt8) {j k : Nat} (before : j ≤ k) :
    widthBefore data j ≤ widthBefore data k := by
  induction before with
  | refl => exact Nat.le_refl _
  | step _ ih =>
      refine ih.trans ?_
      simp [widthBefore, List.range_succ, duration]

/-- The pulse that a monitor watches begins where the widths of those before it add up to. -/
structure Monitor.Placed (data : List UInt8) (fall : Nat) (mon : Monitor) : Prop where
  frame : mon.frame = data
  placed : mon.pulseStart + widthBefore data 1 = fall + widthBefore data mon.pulse

section Placed

variable {τ : Type*} {data : List UInt8} {fall : Nat} {mon : Monitor}

theorem Monitor.Placed.next (placed : mon.Placed data fall) {pulse : Pulse}
    (found : pulseAt mon.frame mon.pulse = some pulse) :
    Monitor.Placed data fall
      { mon with pulseStart := mon.pulseStart + pulse.us, pulse := mon.pulse + 1 } := by
  refine ⟨placed.frame, ?_⟩
  have before := placed.placed
  rw [placed.frame] at found
  dsimp only
  rw [widthBefore_succ found]
  omega

theorem Monitor.Placed.advance (placed : mon.Placed data fall) :
    mon.advance.2.Placed data fall := by
  unfold Monitor.advance
  cases found : pulseAt mon.frame mon.pulse with
  | none => exact placed
  | some pulse =>
      have next := placed.next found
      cases found' : pulseAt mon.frame (mon.pulse + 1) with
      | none => simpa only [found'] using next
      | some after => simpa only [found'] using ⟨next.frame, next.placed⟩

theorem Monitor.Placed.schedule (timer : GpTimer τ) (placed : mon.Placed data fall) (env : τ) :
    (mon.schedule timer env).2.1.Placed data fall := by
  fun_induction Monitor.schedule timer mon env with
  | case1 mon env pending moment mon' now env' count late ih =>
      exact ih ⟨placed.frame, placed.placed⟩
  | case2 | case3 => exact ⟨placed.frame, placed.placed⟩
  | case4 mon env done next ended =>
      have next := placed.advance
      rwa [ended] at next
  | case5 mon env done next more ih =>
      have next := placed.advance
      rw [more] at next
      exact ih next

theorem Monitor.Placed.watchAlarm (timer : GpTimer τ) (bus : Level) (env : τ)
    (placed : mon.running = true → mon.Placed data fall) :
    (Monitor.watchAlarm timer (mon, env) bus).1.running = true →
      (Monitor.watchAlarm timer (mon, env) bus).1.Placed data fall := by
  unfold Monitor.watchAlarm
  by_cases running : mon.running = true
  · have here : Monitor.Placed data fall { mon with checks := mon.checks + 1 } :=
      ⟨(placed running).frame, (placed running).placed⟩
    intro _
    dsimp only
    rw [if_neg (by simp [running])]
    split
    · exact ⟨here.frame, here.placed⟩
    · split
      · exact here.schedule timer _
      · split
        · exact here.schedule timer _
        · split
          · exact ⟨here.frame, here.placed⟩
          · exact here.schedule timer _
  · simpa only [running, Bool.not_false, if_true] using placed

theorem Monitor.placed_start (timer : GpTimer τ) (idle : mon.running = false) (activeAt : Nat)
    (env : τ) :
    (mon.start timer data activeAt fall env).1.running = true →
      (mon.start timer data activeAt fall env).1.Placed data fall := by
  unfold Monitor.start
  dsimp only
  split
  · exact fun running => absurd running (by simp [idle])
  · split
    · exact fun running => absurd running (by simp [idle])
    · intro _
      split
      · refine Monitor.Placed.schedule timer ?_ env
        exact ⟨rfl, rfl⟩
      · refine Monitor.Placed.schedule timer ?_ env
        exact ⟨rfl, rfl⟩

/-- However late its alarms come and whatever it samples, a running monitor has the pulse that it
watches where the widths of those before it add up to. -/
theorem Monitor.placed_watched (timer : GpTimer τ) (idle : mon.running = false) (activeAt : Nat)
    (env : τ) (samples : List Level)
    (running : (mon.watched timer data activeAt fall env samples).1.running = true) :
    (mon.watched timer data activeAt fall env samples).1.Placed data fall :=
  run_invariant (fun state : Monitor × τ => state.1.running = true → state.1.Placed data fall)
    (fun state bus placed => Placed.watchAlarm timer bus state.2 placed)
    (placed_start timer idle activeAt env) samples running

end Placed

/-! ## What the monitor watches -/

section Alarms

variable {τ : Type*}

/-- A timer that keeps the moments it was set for. -/
def GpTimer.logged (timer : GpTimer τ) : GpTimer (τ × List Nat) where
  rawCount := fun (env, log) =>
    let (count, env) := timer.rawCount env
    (count, env, log)
  setAlarm := fun moment (env, log) =>
    let (set, env) := timer.setAlarm moment env
    (set, env, log ++ [moment])

/-- The moments at which a monitor has yet to look. -/
def Monitor.pending (mon : Monitor) : List Nat :=
  (mon.offs.drop mon.nextOff).map (mon.pulseStart + ·) ++
    Vpw.checks (mon.pulseStart + ((pulseAt mon.frame mon.pulse).map Pulse.us).getD 0)
      ((sentPulses mon.frame).drop (mon.pulse + 1))

theorem getElem?_sentPulses {data : List UInt8} {k : Nat} {pulse : Pulse}
    (found : pulseAt data k = some pulse) (j : Nat) : (sentPulses data)[j]? = pulseAt data j := by
  have fits : ¬ (data.length = 0 ∨ data.length > maxFrame ∨ k ≥ pulseCount data.length) :=
    fun unfit => by rw [pulseAt, if_pos unfit] at found; cases found
  simp only [not_or, not_lt] at fits
  rw [sentPulses_eq fits.1 fits.2.1, pulseAt_eq data fits.1 fits.2.1]

/-- Going on to the next pulse skips no moment. -/
theorem Monitor.pending_advance {mon : Monitor} (done : mon.offs.length ≤ mon.nextOff) :
    mon.advance.2.pending = mon.pending := by
  unfold advance
  cases found : pulseAt mon.frame mon.pulse with
  | none => rfl
  | some pulse =>
      have here : mon.pending = Vpw.checks (mon.pulseStart + pulse.us)
          ((sentPulses mon.frame).drop (mon.pulse + 1)) := by
        rw [pending, List.drop_eq_nil_of_le done, found]
        rfl
      have next := getElem?_sentPulses found (mon.pulse + 1)
      cases found' : pulseAt mon.frame (mon.pulse + 1) with
      | none =>
          rw [found'] at next
          have beyond := List.getElem?_eq_none_iff.1 next
          rw [here, List.drop_eq_nil_of_le beyond]
          simp [found', pending, List.drop_eq_nil_of_le done,
            List.drop_eq_nil_of_le (Nat.le_succ_of_le beyond), Vpw.checks]
      | some after =>
          rw [found'] at next
          obtain ⟨inside, value⟩ := List.getElem?_eq_some_iff.1 next
          rw [here, List.drop_eq_getElem_cons inside, value, Vpw.checks]
          simp [found', pending, watchPulse]

theorem Monitor.pending_next {mon : Monitor} (next : mon.nextOff < mon.offs.length) :
    mon.pending = (mon.pulseStart + mon.offs[mon.nextOff]) ::
      Monitor.pending { mon with nextOff := mon.nextOff + 1 } := by
  rw [pending, List.drop_eq_getElem_cons next]
  rfl

/-- What was set and what is yet to come are moments of a list, in its order. -/
def Monitor.Within (moments : List Nat) (mon : Monitor) (log : List Nat) : Prop :=
  (log ++ mon.pending).Sublist moments

theorem Monitor.Within.skip {moments log : List Nat} {mon : Monitor}
    (within : mon.Within moments log) (next : mon.nextOff < mon.offs.length) :
    Monitor.Within moments { mon with nextOff := mon.nextOff + 1 } log := by
  rw [Within, pending_next next] at within
  exact ((List.sublist_cons_self ..).append_left log).trans within

theorem Monitor.Within.set {moments log : List Nat} {mon : Monitor}
    (within : mon.Within moments log) (next : mon.nextOff < mon.offs.length) :
    Monitor.Within moments { mon with nextOff := mon.nextOff + 1 }
      (log ++ [mon.pulseStart + mon.offs[mon.nextOff]]) := by
  rw [Within, pending_next next] at within
  rw [Within, List.append_assoc]
  exact within

/-- The alarms that are set are moments to look at, in their order. -/
theorem Monitor.Within.schedule {moments : List Nat} {mon : Monitor} {state : τ × List Nat}
    (timer : GpTimer τ) (within : mon.Within moments state.2) :
    (mon.schedule timer.logged state).2.1.Within moments
      (mon.schedule timer.logged state).2.2.2 := by
  fun_induction Monitor.schedule timer.logged mon state with
  | case1 mon state next moment mon' now state' count late ih =>
      have log : state'.2 = state.2 := congrArg (fun answer => answer.2.2) count.symm
      rw [← log] at within
      exact ih (within.skip next)
  | case2 mon state next moment mon' now state' count soon set state'' armed =>
      have log : state'.2 = state.2 := congrArg (fun answer => answer.2.2) count.symm
      have log' : state''.2 = state'.2 ++ [moment] :=
        congrArg (fun answer => answer.2.2) armed.symm
      rw [← log] at within
      rw [log']
      exact within.set next
  | case3 mon state next moment mon' state' count set state'' armed =>
      have log : state'.2 = state.2 := congrArg (fun answer => answer.2.2) count.symm
      have log' : state''.2 = state'.2 ++ [moment] :=
        congrArg (fun answer => answer.2.2) armed.symm
      rw [← log] at within
      rw [log']
      exact within.set next
  | case4 mon state done next ended =>
      have same := pending_advance (not_lt.1 done)
      rw [ended] at same
      rw [Within, same]
      exact within
  | case5 mon state done next more ih =>
      have same := pending_advance (not_lt.1 done)
      rw [more] at same
      refine ih ?_
      rw [Within, same]
      exact within

theorem Monitor.Within.watchAlarm {moments : List Nat} {mon : Monitor} {state : τ × List Nat}
    (timer : GpTimer τ) (bus : Level) (within : mon.Within moments state.2) :
    (Monitor.watchAlarm timer.logged (mon, state) bus).1.Within moments
      (Monitor.watchAlarm timer.logged (mon, state) bus).2.2 := by
  have here : Monitor.Within moments { mon with checks := mon.checks + 1 } state.2 := within
  unfold Monitor.watchAlarm
  dsimp only
  split
  · exact within
  · split
    · exact within
    · split
      · rename_i state' count
        have log : state'.2 = state.2 := congrArg (fun answer => answer.2.2) count.symm
        rw [← log] at here
        exact here.schedule timer
      · rename_i now state' count
        have log : state'.2 = state.2 := congrArg (fun answer => answer.2.2) count.symm
        rw [← log] at here
        split
        · exact here.schedule timer
        · split
          · exact here
          · exact here.schedule timer

/-- A monitor that runs is within the moments, and so is in any case what it has set. -/
structure Monitor.Guided (moments : List Nat) (state : Monitor × τ × List Nat) : Prop where
  within : state.1.running = true → state.1.Within moments state.2.2
  log : state.2.2.Sublist moments

theorem Monitor.Within.guided {moments : List Nat} {state : Monitor × τ × List Nat}
    (within : state.1.Within moments state.2.2) : Guided moments state :=
  ⟨fun _ => within, (List.sublist_append_left ..).trans within⟩

theorem Monitor.Guided.watchAlarm {moments : List Nat} {state : Monitor × τ × List Nat}
    (timer : GpTimer τ) (bus : Level) (guided : Guided moments state) :
    Guided moments (Monitor.watchAlarm timer.logged state bus) := by
  by_cases running : state.1.running = true
  · exact ((guided.within running).watchAlarm timer bus).guided
  · have stays : Monitor.watchAlarm timer.logged state bus = state := by
      simp [Monitor.watchAlarm, running]
    rwa [stays]

theorem Monitor.pending_first {mon : Monitor} {data : List UInt8} {pulse : Pulse}
    (frame : mon.frame = data) (first : mon.pulse = 1) (found : pulseAt data 1 = some pulse) :
    (mon.watchPulse pulse).pending = Vpw.checks mon.pulseStart ((sentPulses data).drop 1) := by
  have value := getElem?_sentPulses found 1
  rw [found] at value
  obtain ⟨inside, value⟩ := List.getElem?_eq_some_iff.1 value
  rw [List.drop_eq_getElem_cons inside, value, Vpw.checks]
  simp [pending, watchPulse, frame, first, found]

theorem Monitor.guided_start (timer : GpTimer τ) {idle : Monitor} {data : List UInt8}
    (activeAt fall : Nat) (env : τ) (stopped : idle.running = false) :
    Guided (Vpw.checks fall ((sentPulses data).drop 1))
      (idle.start timer.logged data activeAt fall (env, [])) := by
  unfold Monitor.start
  dsimp only
  split
  · exact ⟨fun running => absurd running (by simp [stopped]), List.nil_sublist _⟩
  · rename_i fits
    split
    · exact ⟨fun running => absurd running (by simp [stopped]), List.nil_sublist _⟩
    · split
      · rename_i missing
        simp only [not_or, not_lt] at fits
        have inside := (isSome_pulseAt fits.2.1 fits.2.2 1).2 (by omega)
        rw [missing] at inside
        cases inside
      · rename_i pulse found
        refine Within.guided (Within.schedule timer ?_)
        rw [Within, List.nil_append, pending_first rfl rfl found]

/-- The alarms that a monitor sets for a frame are among the moments at which its pulses are
watched, each at most once and in their order. -/
theorem Monitor.alarms_sublist_checks (timer : GpTimer τ) {idle : Monitor} (data : List UInt8)
    (activeAt fall : Nat) (env : τ) (samples : List Level) (stopped : idle.running = false) :
    (idle.watched timer.logged data activeAt fall (env, []) samples).2.2.Sublist
      (Vpw.checks fall ((sentPulses data).drop 1)) :=
  (run_invariant (Guided (Vpw.checks fall ((sentPulses data).drop 1)))
    (fun _ bus guided => guided.watchAlarm timer bus)
    (guided_start timer activeAt fall env stopped) samples).log

/-- A timer that counts each time it is read, and that takes every alarm. -/
def countingTimer : GpTimer Nat where
  rawCount := fun now => (some (now + 400), now + 400)
  setAlarm := fun _ now => (true, now)

theorem Monitor.alarms_sublist_checks_request :
    (({} : Monitor).watched countingTimer.logged [0x68, 0x6A, 0xF1, 0x01, 0x17] 0 200 (0, [])
        [active, active, passive]).2.2.Sublist
      (Vpw.checks 200 ((sentPulses [0x68, 0x6A, 0xF1, 0x01, 0x17]).drop 1)) :=
  alarms_sublist_checks countingTimer [0x68, 0x6A, 0xF1, 0x01, 0x17] 0 200 0
    [active, active, passive] rfl

end Alarms

/-! ## Alarms in time -/

/-- The pulses with an odd index are passive, and wide enough to be watched. -/
theorem pulseAt_passive {data : List UInt8} {k : Nat} (full : data.length ≠ 0)
    (short : data.length ≤ maxFrame) (odd : k % 2 = 1) (inside : k < pulseCount data.length) :
    ∃ us, 64 ≤ us ∧ pulseAt data k = some ⟨passive, us⟩ := by
  unfold pulseAt
  rw [if_neg (by omega), if_neg (by omega)]
  split
  · exact ⟨txTv3Passive, by decide, rfl⟩
  · dsimp only
    rw [if_neg (by omega)]
    refine ⟨_, ?_, rfl⟩
    split <;> decide

theorem pulseAt_active {data : List UInt8} {k : Nat} (full : data.length ≠ 0)
    (short : data.length ≤ maxFrame) (even : k % 2 = 0) (inside : k < pulseCount data.length) :
    ∃ us, pulseAt data k = some ⟨active, us⟩ := by
  unfold pulseAt
  rw [if_neg (by omega)]
  split
  · exact ⟨_, rfl⟩
  · have last : k ≠ pulseCount data.length - 1 := by
      unfold pulseCount
      omega
    dsimp only
    rw [if_neg last, if_pos even]
    exact ⟨_, rfl⟩

/-- A passive pulse is watched once or twice, first after the guard. -/
theorem watchOffsets_passive {us : Nat} (long : 64 ≤ us) :
    watchOffsets ⟨passive, us⟩ txWatchGuardUs txWatchTailUs =
      txWatchGuardUs ::
        if tv1Nom + txWatchGuardUs < us - txWatchTailUs then [tv1Nom + txWatchGuardUs] else [] := by
  have margins : txWatchGuardUs = 12 ∧ txWatchTailUs = 20 := ⟨rfl, rfl⟩
  rw [watchOffsets, if_neg (by simp only [ne_eq, not_true, false_or]; omega)]
  dsimp only
  rw [if_pos (by omega)]
  rfl

section Prompt

variable {τ : Type*}

/-- Whenever the timer is read, less than the guard has passed since the last alarm it was set
for. -/
structure GpTimer.Prompt (timer : GpTimer τ) (alarm : τ → Nat) : Prop where
  soon : ∀ env now, (timer.rawCount env).1 = some now → now < alarm env + txWatchGuardUs
  keeps : ∀ env, alarm (timer.rawCount env).2 = alarm env
  sets : ∀ moment env, alarm (timer.setAlarm moment env).2 = moment

variable {timer : GpTimer τ} {alarm : τ → Nat} {data : List UInt8} {mon : Monitor} {env : τ}

/-- A monitor that is set for a moment of a passive pulse. -/
structure Monitor.Armed (alarm : τ → Nat) (data : List UInt8) (k : Nat)
    (state : Monitor × τ) : Prop where
  running : state.1.running = true
  kept : state.1.lost = false
  free : state.1.injectAt = 0
  frame : state.1.frame = data
  pulse : state.1.pulse = k
  watched : ∃ us, 64 ≤ us ∧ pulseAt data k = some ⟨passive, us⟩ ∧
    state.1.offs = watchOffsets ⟨passive, us⟩ txWatchGuardUs txWatchTailUs
  alarm : ∃ i, state.1.nextOff = i + 1 ∧
    ∃ inside : i < state.1.offs.length, alarm state.2 = state.1.pulseStart + state.1.offs[i]

/-- A moment that is far enough ahead is not missed. -/
theorem Monitor.schedule_set (prompt : timer.Prompt alarm) (mon : Monitor) (env : τ)
    (next : mon.nextOff < mon.offs.length)
    (ahead : alarm env + txWatchGuardUs ≤ mon.pulseStart + mon.offs[mon.nextOff]) :
    (mon.schedule timer env).2.1 = { mon with nextOff := mon.nextOff + 1 } ∧
      alarm (mon.schedule timer env).2.2 = mon.pulseStart + mon.offs[mon.nextOff] := by
  rw [schedule, dif_pos next]
  dsimp only
  split
  · rename_i now env' count
    have soon := prompt.soon env now (by rw [count])
    rw [if_neg (by omega)]
    exact ⟨rfl, prompt.sets _ _⟩
  · exact ⟨rfl, prompt.sets _ _⟩

/-- The checks of a pulse are done, and there is a next one. -/
theorem Monitor.schedule_advance (mon : Monitor) {pulse after : Pulse}
    (done : mon.offs.length ≤ mon.nextOff)
    (found : pulseAt mon.frame mon.pulse = some pulse)
    (found' : pulseAt mon.frame (mon.pulse + 1) = some after) :
    mon.schedule timer env = Monitor.schedule timer
      (Monitor.watchPulse
        { mon with pulseStart := mon.pulseStart + pulse.us, pulse := mon.pulse + 1 } after) env := by
  have more : mon.advance = (true, Monitor.watchPulse
      { mon with pulseStart := mon.pulseStart + pulse.us, pulse := mon.pulse + 1 } after) := by
    unfold advance
    simp only [found, found']
  rw [schedule, dif_neg (not_lt.2 done)]
  split
  · rename_i ended
    rw [more] at ended
    cases ended
  · rename_i mon' goes
    rw [more] at goes
    cases goes
    rfl

/-- The first moment of a pulse that begins no sooner than the last alarm. -/
theorem Monitor.armed_first (prompt : timer.Prompt alarm) {k us : Nat} (long : 64 ≤ us)
    (found : pulseAt data k = some ⟨passive, us⟩) (running : mon.running = true)
    (kept : mon.lost = false) (free : mon.injectAt = 0) (frame : mon.frame = data)
    (pulse : mon.pulse = k) (ahead : alarm env ≤ mon.pulseStart) :
    Armed alarm data k ((mon.watchPulse ⟨passive, us⟩).schedule timer env).2 := by
  have offs : (mon.watchPulse ⟨passive, us⟩).offs =
      txWatchGuardUs ::
        if tv1Nom + txWatchGuardUs < us - txWatchTailUs then [tv1Nom + txWatchGuardUs] else [] :=
    watchOffsets_passive long
  have next : (mon.watchPulse ⟨passive, us⟩).nextOff <
      (mon.watchPulse ⟨passive, us⟩).offs.length := by
    rw [offs]
    exact Nat.succ_pos _
  have first : (mon.watchPulse ⟨passive, us⟩).offs[(mon.watchPulse ⟨passive, us⟩).nextOff] =
      txWatchGuardUs := by
    simp only [offs]
    rfl
  obtain ⟨set, told⟩ := schedule_set prompt _ env next (by
    rw [first]
    exact Nat.add_le_add_right ahead _)
  refine ⟨?_, ?_, ?_, ?_, ?_, ⟨us, long, found, ?_⟩, 0, ?_, ?_⟩
  · rw [set]; exact running
  · rw [set]; exact kept
  · rw [set]; exact free
  · rw [set]; exact frame
  · rw [set]; exact pulse
  · rw [set]; rfl
  · rw [set]; rfl
  · simp only [set]
    exact ⟨next, told⟩

/-- An alarm that finds the bus passive has the next moment set. -/
theorem Monitor.Armed.watchAlarm {k : Nat} {state : Monitor × τ}
    (armed : Armed alarm data k state) (prompt : timer.Prompt alarm) :
    ∃ env, alarm env = alarm state.2 ∧
      Monitor.watchAlarm timer state passive =
        (Monitor.schedule timer { state.1 with checks := state.1.checks + 1 } env).2 := by
  obtain ⟨mon, env⟩ := state
  have running : mon.running = true := armed.running
  have free : mon.injectAt = 0 := armed.free
  unfold Monitor.watchAlarm
  dsimp only
  rw [if_neg (by simp [running]), if_neg (by simp [free])]
  cases count : timer.rawCount env with
  | mk now env' =>
      have same : alarm env' = alarm env := by rw [← prompt.keeps env, count]
      refine ⟨env', same, ?_⟩
      cases now with
      | none => rfl
      | some now => exact ite_self _

/-- There is one more moment at which the pulse is watched. -/
theorem Monitor.Armed.again {k : Nat} {state : Monitor × τ} (armed : Armed alarm data k state)
    (prompt : timer.Prompt alarm) (more : state.1.nextOff < state.1.offs.length) :
    Armed alarm data k (Monitor.watchAlarm timer state passive) ∧
      (Monitor.watchAlarm timer state passive).1.offs = state.1.offs ∧
      (Monitor.watchAlarm timer state passive).1.nextOff = state.1.nextOff + 1 := by
  obtain ⟨env, same, goes⟩ := armed.watchAlarm prompt
  obtain ⟨us, long, found, offs⟩ := armed.watched
  obtain ⟨i, next, inside, told⟩ := armed.alarm
  have apart : state.1.offs[i] + txWatchGuardUs ≤ state.1.offs[state.1.nextOff] := by
    have value := offs.trans (watchOffsets_passive long)
    simp only [next] at more ⊢
    by_cases twice : tv1Nom + txWatchGuardUs < us - txWatchTailUs
    · rw [if_pos twice] at value
      simp only [value, List.length_cons, List.length_nil] at more ⊢
      have first : i = 0 := by omega
      subst first
      exact (by decide : txWatchGuardUs + txWatchGuardUs ≤ tv1Nom + txWatchGuardUs)
    · rw [if_neg twice] at value
      rw [value, List.length_singleton] at more
      omega
  obtain ⟨set, told'⟩ := schedule_set prompt { state.1 with checks := state.1.checks + 1 } env
    more (by
      rw [same, told, Nat.add_assoc]
      exact Nat.add_le_add_left apart _)
  rw [goes]
  refine ⟨⟨?_, ?_, ?_, ?_, ?_, ⟨us, long, found, ?_⟩, state.1.nextOff, ?_, ?_⟩, ?_, ?_⟩
  · rw [set]; exact armed.running
  · rw [set]; exact armed.kept
  · rw [set]; exact armed.free
  · rw [set]; exact armed.frame
  · rw [set]; exact armed.pulse
  · rw [set]; exact offs
  · rw [set]
  · simp only [set]
    exact ⟨more, told'⟩
  · rw [set]
  · rw [set]

/-- The pulse has been watched for the last time: the active one after it is passed over, and the
next passive one is watched. -/
theorem Monitor.Armed.beyond {k : Nat} {state : Monitor × τ} (armed : Armed alarm data k state)
    (prompt : timer.Prompt alarm) (done : state.1.offs.length ≤ state.1.nextOff)
    (full : data.length ≠ 0) (short : data.length ≤ maxFrame) (odd : k % 2 = 1)
    (inside : k + 2 < pulseCount data.length) :
    Armed alarm data (k + 2) (Monitor.watchAlarm timer state passive) := by
  obtain ⟨env, same, goes⟩ := armed.watchAlarm prompt
  obtain ⟨us, long, found, offs⟩ := armed.watched
  obtain ⟨i, next, within, told⟩ := armed.alarm
  obtain ⟨us', found'⟩ := pulseAt_active full short (k := k + 1) (by omega) (by omega)
  obtain ⟨us'', long'', found''⟩ := pulseAt_passive full short (k := k + 2) (by omega) inside
  have early : state.1.offs[i] + txWatchTailUs < us := by
    have member := List.getElem_mem within
    simp only [offs] at member ⊢
    exact (of_mem_watchOffsets member).2.2
  rw [goes, schedule_advance { state.1 with checks := state.1.checks + 1 } done
    (by rw [armed.frame, armed.pulse]; exact found)
    (by rw [armed.frame, armed.pulse]; exact found'), schedule_advance _ (Nat.zero_le _)
    (by dsimp only [watchPulse]; rw [armed.frame, armed.pulse]; exact found')
    (by dsimp only [watchPulse]; rw [armed.frame, armed.pulse]; exact found'')]
  refine armed_first prompt long'' found'' armed.running armed.kept armed.free armed.frame ?_ ?_
  · dsimp only [watchPulse]
    rw [armed.pulse]
  · dsimp only [watchPulse]
    omega

/-- In time, the monitor comes to the next passive pulse. -/
theorem Monitor.Armed.next {k : Nat} {state : Monitor × τ} (armed : Armed alarm data k state)
    (prompt : timer.Prompt alarm) (full : data.length ≠ 0) (short : data.length ≤ maxFrame)
    (odd : k % 2 = 1) (inside : k + 2 < pulseCount data.length) :
    ∃ n, Armed alarm data (k + 2)
      (run (Monitor.watchAlarm timer) state (List.replicate n passive)) := by
  -- on the moments of the pulse that are left
  induction left : state.1.offs.length - state.1.nextOff generalizing state with
  | zero => exact ⟨1, armed.beyond prompt (by omega) full short odd inside⟩
  | succ left ih =>
      obtain ⟨armed', offs, nextOff⟩ := armed.again prompt (by omega)
      obtain ⟨n, comes⟩ := ih armed' (by rw [offs, nextOff]; omega)
      exact ⟨n + 1, comes⟩

theorem Monitor.armed_start (prompt : timer.Prompt alarm) {idle : Monitor} {activeAt fall : Nat}
    (full : data.length ≠ 0) (short : data.length ≤ maxFrame) (enabled : idle.enabled = true)
    (free : idle.injectAt = 0) (synced : fall - activeAt ≤ txSyncSlackUs)
    (ahead : alarm env ≤ fall) :
    Armed alarm data 1 (idle.start timer data activeAt fall env) := by
  obtain ⟨us, long, found⟩ := pulseAt_passive full short (k := 1) rfl (by unfold pulseCount; omega)
  unfold Monitor.start
  dsimp only
  rw [if_neg (by simp only [enabled, Bool.not_true, Bool.false_eq_true, false_or]; omega),
    if_neg (by omega), found]
  exact armed_first prompt long found rfl rfl free rfl rfl ahead

/-- Each passive pulse of a frame is watched in some run whose alarms are in time. -/
theorem Monitor.armed_watched (prompt : timer.Prompt alarm) {idle : Monitor} {activeAt fall : Nat}
    (full : data.length ≠ 0) (short : data.length ≤ maxFrame) (enabled : idle.enabled = true)
    (free : idle.injectAt = 0) (synced : fall - activeAt ≤ txSyncSlackUs)
    (ahead : alarm env ≤ fall) {j : Nat} (inside : 2 * j + 1 < pulseCount data.length) :
    ∃ n, Armed alarm data (2 * j + 1)
      (idle.watched timer data activeAt fall env (List.replicate n passive)) := by
  induction j with
  | zero => exact ⟨0, armed_start prompt full short enabled free synced ahead⟩
  | succ j ih =>
      obtain ⟨n, armed⟩ := ih (by omega)
      obtain ⟨m, comes⟩ := armed.next prompt full short (by omega) inside
      refine ⟨n + m, ?_⟩
      rw [watched, List.replicate_add, run_append]
      exact comes

end Prompt

/-- A monitor has a pulse of a frame begin at a moment: the one that it watches, or the active one
before, which it passed over. -/
def Monitor.Begins (mon : Monitor) (data : List UInt8) (k moment : Nat) : Prop :=
  mon.pulse = k ∧ mon.pulseStart = moment ∨
    ∃ us, pulseAt data k = some ⟨active, us⟩ ∧ mon.pulse = k + 1 ∧
      mon.pulseStart = moment + us

/-- As long as its alarms are in time and find the bus passive, the monitor comes to every pulse
of its frame. -/
theorem Monitor.begins_watched {τ : Type*} {timer : GpTimer τ} {alarm : τ → Nat} {env : τ}
    {data : List UInt8} {idle : Monitor} {activeAt fall : Nat} (prompt : timer.Prompt alarm)
    (full : data.length ≠ 0) (short : data.length ≤ maxFrame) (stopped : idle.running = false)
    (enabled : idle.enabled = true) (free : idle.injectAt = 0)
    (synced : fall - activeAt ≤ txSyncSlackUs) (ahead : alarm env ≤ fall) {k : Nat}
    (begun : 1 ≤ k) (inside : k < 2 + 8 * data.length) :
    ∃ n mon moment,
      (idle.watched timer data activeAt fall env (List.replicate n passive)).1 = mon ∧
        mon.running = true ∧ mon.lost = false ∧ mon.Begins data k moment ∧
        moment + widthBefore data 1 = fall + widthBefore data k := by
  rcases Nat.mod_two_eq_zero_or_one k with even | odd
  · obtain ⟨us, found⟩ := pulseAt_active full short even inside
    obtain ⟨n, armed⟩ := armed_watched prompt full short enabled free synced ahead
      (j := k / 2) (by unfold pulseCount; omega)
    have placed := placed_watched timer stopped activeAt env _ armed.running
    have here := armed.pulse.trans (by omega : 2 * (k / 2) + 1 = k + 1)
    have start := placed.placed
    rw [here, widthBefore_succ found] at start
    have first := widthBefore_mono data begun
    dsimp only at start
    have wide : us ≤ (idle.watched timer data activeAt fall env
        (List.replicate n passive)).1.pulseStart := by omega
    refine ⟨n, _, _ - us, rfl, armed.running, armed.kept, .inr ⟨us, found, here,
      (Nat.sub_add_cancel wide).symm⟩, ?_⟩
    omega
  · obtain ⟨n, armed⟩ := armed_watched prompt full short enabled free synced ahead
      (j := k / 2) (by unfold pulseCount; omega)
    have placed := placed_watched timer stopped activeAt env _ armed.running
    have here := armed.pulse.trans (by omega : 2 * (k / 2) + 1 = k)
    refine ⟨n, _, _, rfl, armed.running, armed.kept, .inl ⟨here, rfl⟩, ?_⟩
    rw [← here]
    exact placed.placed

/-! ## The monitor and the encoder -/

/-- The pulses that are worked out from the bytes are those in the encoder's symbol words. A monitor
that runs has the one that it watches where the transmitter begins it, however late its alarms come;
in time, it comes to each of them. -/
theorem pulseAt_agrees (data : List UInt8) (full : data.length ≠ 0)
    (short : data.length ≤ maxFrame) :
    (∀ k, (pulseAt data k).isSome ↔ k < 2 + 8 * data.length) ∧
      (∀ out : List Symbol, 4 * data.length + 1 ≤ out.length →
        (encode data out).1 = 4 * data.length + 1 ∧
        ∀ k < 2 + 8 * data.length,
          pulseAt data k = (encode data out).2[k / 2]?.map fun s => s.half (k % 2)) ∧
      (∀ {τ : Type} (timer : GpTimer τ) (idle : Monitor) (activeAt fall : Nat) (env : τ)
        (samples : List Level), idle.running = false →
        ∀ mon, (idle.watched timer data activeAt fall env samples).1 = mon →
          mon.running = true →
          mon.pulseStart + widthBefore data 1 = fall + widthBefore data mon.pulse) ∧
      ∀ {τ : Type} (timer : GpTimer τ) (alarm : τ → Nat), timer.Prompt alarm →
        ∀ (idle : Monitor) (activeAt fall : Nat) (env : τ), idle.running = false →
          idle.enabled = true → idle.injectAt = 0 → fall - activeAt ≤ txSyncSlackUs →
          alarm env ≤ fall → ∀ k, 1 ≤ k → k < 2 + 8 * data.length →
            ∃ n mon moment,
              (idle.watched timer data activeAt fall env (List.replicate n passive)).1 = mon ∧
                mon.running = true ∧ mon.lost = false ∧ mon.Begins data k moment ∧
                moment + widthBefore data 1 = fall + widthBefore data k := by
  refine ⟨isSome_pulseAt full short, fun out room => ⟨encode_fst full short room, ?_⟩, ?_, ?_⟩
  · exact fun k inside => pulseAt_eq_half full short room inside
  · rintro τ timer idle activeAt fall env samples stopped mon rfl running
    exact (Monitor.placed_watched timer stopped activeAt env samples running).placed
  · intro τ timer alarm prompt idle activeAt fall env stopped enabled free synced ahead k begun
      inside
    exact Monitor.begins_watched prompt full short stopped enabled free synced ahead begun inside

/-- A timer whose count is that of its last alarm. -/
def exactTimer : GpTimer Nat where
  rawCount := fun now => (some now, now)
  setAlarm := fun moment _ => (true, moment)

theorem exactTimer_prompt : exactTimer.Prompt id where
  soon env now count := by
    cases count
    exact Nat.lt_add_of_pos_right (by decide)
  keeps _ := rfl
  sets _ _ := rfl

theorem pulseAt_agrees_request :
    (∀ k, (pulseAt [0x68, 0x6A, 0xF1, 0x01, 0x17] k).isSome ↔ k < 42) ∧
      (encode [0x68, 0x6A, 0xF1, 0x01, 0x17] (List.replicate 49 {})).1 = 21 ∧
      ∃ n mon, (({} : Monitor).watched exactTimer [0x68, 0x6A, 0xF1, 0x01, 0x17] 196 200 0
          (List.replicate n passive)).1 = mon ∧
        mon.running = true ∧ mon.pulse = 41 ∧
        mon.pulseStart + widthBefore [0x68, 0x6A, 0xF1, 0x01, 0x17] 1 =
          200 + widthBefore [0x68, 0x6A, 0xF1, 0x01, 0x17] 41 := by
  have agrees := pulseAt_agrees [0x68, 0x6A, 0xF1, 0x01, 0x17] (by decide) (by decide)
  refine ⟨agrees.1, (agrees.2.1 (List.replicate 49 {}) (by decide)).1, ?_⟩
  obtain ⟨n, mon, moment, comes, running, -, begins, -⟩ :=
    agrees.2.2.2 exactTimer id exactTimer_prompt {} 196 200 0 rfl rfl rfl (by decide) (by decide)
      41 (by decide) (by decide)
  have placed := agrees.2.2.1 exactTimer {} 196 200 0 _ rfl mon comes running
  rcases begins with ⟨here, -⟩ | ⟨us, found, here, -⟩
  · rw [here] at placed
    exact ⟨n, mon, comes, running, here, placed⟩
  · have last : pulseAt [0x68, 0x6A, 0xF1, 0x01, 0x17] 41 = some ⟨passive, txTv3Passive⟩ := by
      decide
    rw [last] at found
    cases found

end OpenDiag.J1850.Vpw
