import OpenDiag.Elm327.Timing
import OpenDiag.Lib.Window

/-!
# Bounds of adaptive timing

The estimate is never below the target that the history asks for, and the target never below a
latency in the history, up to the limit. Recording keeps this by its update, backing off only raises
the estimate, and nothing else touches it.
-/

namespace OpenDiag.Elm327

/-! ## The target -/

section Target

variable {e later : Ctx}

theorem peak_mono (samples : List Nat) (peak : Nat) :
    peak ≤ samples.foldl (fun peak sample => if sample > peak then sample else peak) peak := by
  induction samples generalizing peak with
  | nil => exact Nat.le_refl _
  | cons sample samples ih =>
      rw [List.foldl_cons]
      refine Nat.le_trans ?_ (ih _)
      split <;> omega

theorem le_peak {sample : Nat} {samples : List Nat} (member : sample ∈ samples) (peak : Nat) :
    sample ≤ samples.foldl (fun peak sample => if sample > peak then sample else peak) peak := by
  induction samples generalizing peak with
  | nil => cases member
  | cons first samples ih =>
      rw [List.foldl_cons]
      rcases List.mem_cons.mp member with rfl | later
      · refine Nat.le_trans ?_ (peak_mono samples _)
        split <;> omega
      · exact ih later _

/-- The margin covers the latency, up to the limit. -/
theorem latencyMargin_ge (e : Ctx) (latencyMs : Nat) :
    min e.timeoutLimit latencyMs ≤ e.latencyMargin latencyMs := by
  unfold Ctx.latencyMargin
  extract_lets limit aggressive minimum divisor target raised
  have covers : min limit latencyMs ≤ target := by
    simp only [target]
    split
    · exact Nat.le_trans (Nat.min_le_right _ _) (Nat.le_add_right _ _)
    · exact Nat.min_le_left _ _
  have kept : target ≤ raised := by
    simp only [raised]
    split <;> omega
  split <;> omega

/-- There is a target as soon as there is a sample; it lies between the margin of the peak and the
limit. -/
theorem timingTarget_of_sample (some : 0 < e.timing.count) :
    ∃ target, e.timingTarget = Option.some target ∧ target ≤ e.timeoutLimit ∧
      ∀ sample ∈ e.timing.samples.take e.timing.count, min e.timeoutLimit sample ≤ target := by
  unfold Ctx.timingTarget
  extract_lets samples sum peak mean total deviation target margin raised limit
  rw [if_neg (Nat.ne_of_gt some)]
  refine ⟨_, rfl, by split <;> omega, fun sample member => ?_⟩
  have covered := latencyMargin_ge e peak
  have below : sample ≤ peak := le_peak member 0
  have kept : margin ≤ raised := by
    simp only [raised]
    split <;> omega
  split <;> omega

theorem timingTarget_of_no_sample (none : e.timing.count = 0) : e.timingTarget = Option.none := by
  unfold Ctx.timingTarget
  simp only [none, if_true]

/-- An update never takes the estimate below the target. -/
theorem timingUpdate_spec {target : Nat} (found : e.timingTarget = some target)
    (small : e.timeoutLimit < 2 ^ 16) (bounded : e.timing.estimateMs ≤ e.timeoutLimit)
    (within : target ≤ e.timeoutLimit) (allowShrink : Bool) :
    ∃ estimateMs, e.timingUpdate allowShrink =
        some { e with timing := { e.timing with estimateMs } } ∧
      target ≤ estimateMs ∧ estimateMs ≤ e.timeoutLimit := by
  unfold Ctx.timingUpdate
  rw [found, Option.bind_eq_bind, Option.bind_some]
  extract_lets estimate
  have stored : ∀ value, value ≤ e.timeoutLimit → value % 2 ^ 16 = value := fun value bound =>
    Nat.mod_eq_of_lt (Nat.lt_of_le_of_lt bound small)
  by_cases raise : estimate = 0 ∨ target > estimate
  · rw [if_pos raise]
    exact ⟨_, rfl, by rw [stored target within]; exact ⟨Nat.le_refl _, within⟩⟩
  · rw [if_neg raise]
    obtain ⟨_, above⟩ := not_or.mp raise
    cases allowShrink with
    | false => exact ⟨estimate, rfl, Nat.not_lt.mp above, bounded⟩
    | true =>
        -- an eighth of the distance, rounded up, is at most the distance
        have step : (estimate - target + 7) / 8 ≤ estimate - target := by omega
        have lower : estimate - (estimate - target + 7) / 8 ≤ e.timeoutLimit :=
          Nat.le_trans (Nat.sub_le _ _) bounded
        exact ⟨_, rfl, by rw [stored _ lower]; omega⟩

end Target

/-! ## The invariant -/

/-- The sample that is stored for a latency. -/
def stored (limit latencyMs : Nat) : Nat :=
  if latencyMs < limit then latencyMs else limit

/-- The history and the estimate learned from it, for this limit and mode. -/
structure Ctx.Learned (limit mode : Nat) (e : Ctx) : Prop where
  timeout : e.timeout = limit
  adaptiveTiming : e.adaptiveTiming = mode
  inSearch : e.inSearch = false
  shows : Window.Shows timingSamples e.timing.samples e.timing.next e.timing.count
    (e.recorded.map (stored limit))
  bounded : e.timing.estimateMs ≤ limit
  target : ∀ target ∈ e.timingTarget, target ≤ e.timing.estimateMs
  sample : e.timing.watch.sample < timingSamples

/-- The exchange that is watched has no slot yet, or the slot of the latest latency. -/
def Ctx.Watching (e : Ctx) : Prop :=
  e.timing.watch.sample = -1 ∨ ∃ latest older, e.recorded = latest :: older ∧
    e.timing.watch.sample = (older.length % timingSamples : Nat)

variable {limit mode : Nat} {e : Ctx}

theorem Ctx.Learned.timeoutLimit (learned : e.Learned limit mode) : e.timeoutLimit = limit := by
  rw [Ctx.timeoutLimit, learned.inSearch, learned.timeout, if_neg (fun both => nomatch both.1)]

/-- The latency of the exchange is in the history; the estimate is not updated yet. -/
structure Ctx.Stored (limit mode : Nat) (e : Ctx) : Prop where
  timeout : e.timeout = limit
  adaptiveTiming : e.adaptiveTiming = mode
  inSearch : e.inSearch = false
  shows : Window.Shows timingSamples e.timing.samples e.timing.next e.timing.count
    (e.recorded.map (stored limit))
  bounded : e.timing.estimateMs ≤ limit
  some : 0 < e.timing.count
  slot : ∃ latest older, e.recorded = latest :: older ∧
    e.timing.watch.sample = (older.length % timingSamples : Nat)

/-- The latency of the exchange joins the history, or amends its latest latency. -/
theorem storeLatency_spec (learned : e.Learned limit mode) (watching : e.Watching) :
    ∃ later, e.storeLatency = some later ∧ later.Stored limit mode := by
  have shows := learned.shows
  have length := shows.length
  have counted := shows.count_eq
  have next := shows.next_eq
  have within := Nat.mod_lt e.recorded.length (by decide : 0 < timingSamples)
  rw [List.length_map] at counted next
  unfold Ctx.storeLatency
  rw [learned.timeoutLimit]
  rcases watching with fresh | ⟨latest, older, recorded, sample⟩
  · have full : (if e.timing.count < timingSamples then e.timing.count + 1 else e.timing.count) =
        min timingSamples (e.timing.count + 1) := by
      split <;> omega
    have pushed := shows.push (by decide) (stored limit e.timing.watch.latencyMs)
    rw [← full] at pushed
    have slot : ((e.timing.next : Int)).toNat = e.timing.next := Int.toNat_natCast _
    have there : ¬e.timing.samples.length ≤ e.timing.next := by omega
    simp only [fresh, Int.reduceNeg, Int.reduceLT, if_true, slot, there, if_false]
    refine ⟨_, rfl, learned.timeout, learned.adaptiveTiming, learned.inSearch, pushed,
      learned.bounded, ?_, _, _, rfl, by rw [next]⟩
    simp only
    split <;> omega
  · rw [recorded, List.map_cons] at shows
    have amended := shows.amend (stored limit e.timing.watch.latencyMs)
    rw [List.length_map] at amended
    have old : ¬e.timing.watch.sample < 0 := by omega
    have slot : e.timing.watch.sample.toNat = older.length % timingSamples := by omega
    have there : ¬e.timing.samples.length ≤ older.length % timingSamples := by
      have within := Nat.mod_lt older.length (by decide : 0 < timingSamples)
      omega
    simp only [old, if_false, slot, there, recorded, List.tail_cons]
    refine ⟨_, rfl, learned.timeout, learned.adaptiveTiming, learned.inSearch, amended,
      learned.bounded, ?_, _, _, rfl, sample⟩
    rw [counted, recorded, List.length_cons]
    have some : 0 < timingSamples := by decide
    omega

theorem recordLatency_spec (learned : e.Learned limit mode) (watching : e.Watching)
    (small : limit < 2 ^ 16) (allowShrink : Bool) :
    ∃ later, e.recordLatency allowShrink = some later ∧ later.Learned limit mode ∧
      later.Watching := by
  obtain ⟨mid, stored, done⟩ := storeLatency_spec learned watching
  obtain ⟨target, found, within, _⟩ := timingTarget_of_sample done.some
  have same : mid.timeoutLimit = limit := by
    rw [Ctx.timeoutLimit, done.inSearch, done.timeout, if_neg (fun both => nomatch both.1)]
  rw [← same] at small
  obtain ⟨estimateMs, updated, above, bounded⟩ := timingUpdate_spec found small
    (same ▸ done.bounded) within allowShrink
  refine ⟨{ mid with timing := { mid.timing with estimateMs } }, ?_, ⟨done.timeout,
    done.adaptiveTiming, done.inSearch, done.shows, same ▸ bounded, fun aim member => ?_, ?_⟩,
    Or.inr done.slot⟩
  · rw [Ctx.recordLatency, stored, Option.bind_eq_bind, Option.bind_some]
    exact updated
  · have only : aim = target := Option.some.inj ((Option.mem_def.mp member).symm.trans found)
    rw [only]
    exact above
  · obtain ⟨latest, older, _, slot⟩ := done.slot
    have bound := Nat.mod_lt older.length (by decide : 0 < timingSamples)
    simp only [slot]
    omega

/-- The watch may change, but for its slot. -/
theorem Ctx.Learned.rewatch (learned : e.Learned limit mode) {watch : ReplyWatch}
    (sample : watch.sample < timingSamples) :
    { e with timing := { e.timing with watch } }.Learned limit mode :=
  ⟨learned.timeout, learned.adaptiveTiming, learned.inSearch, learned.shows, learned.bounded,
    learned.target, sample⟩

/-- A reply changes the times of the watch. -/
theorem timingReply_eq (e : Ctx) (latencyMs : Nat) (pending : Bool) :
    ∃ latencyMs' deadlineMs, e.timingReply latencyMs pending =
      { e with
        timing := { e.timing with
          watch := { e.timing.watch with latencyMs := latencyMs', deadlineMs } } } := by
  unfold Ctx.timingReply
  extract_lets watch latencyMs longest waitMs deadlineMs extended
  have times : ∃ latencyMs' deadlineMs', extended =
      { watch with latencyMs := latencyMs', deadlineMs := deadlineMs' } := by
    simp only [extended, longest]
    split <;> split <;> exact ⟨_, _, rfl⟩
  obtain ⟨latencyMs', deadlineMs', same⟩ := times
  exact ⟨latencyMs', deadlineMs', by rw [same]⟩

theorem timingReply_spec (learned : e.Learned limit mode) (watching : e.Watching)
    (latencyMs : Nat) (pending : Bool) :
    (e.timingReply latencyMs pending).Learned limit mode ∧
      (e.timingReply latencyMs pending).Watching := by
  obtain ⟨_, _, same⟩ := timingReply_eq e latencyMs pending
  rw [same]
  exact ⟨learned.rewatch learned.sample, watching⟩

/-- Backing off only raises the estimate. -/
theorem timingBackoff_spec (learned : e.Learned limit mode) (watching : e.Watching)
    (small : limit < 2 ^ 16) :
    e.timingBackoff.Learned limit mode ∧ e.timingBackoff.Watching := by
  unfold Ctx.timingBackoff
  extract_lets bound wider capped
  have within : capped ≤ limit := by
    have same := learned.timeoutLimit
    simp only [capped, bound]
    split <;> omega
  split
  · rename_i higher
    rw [Nat.mod_eq_of_lt (Nat.lt_of_le_of_lt within small)]
    exact ⟨⟨learned.timeout, learned.adaptiveTiming, learned.inSearch, learned.shows, within,
      fun target member => Nat.le_trans (learned.target target member) (Nat.le_of_lt higher),
      learned.sample⟩, watching⟩
  · exact ⟨learned, watching⟩

theorem timingFinish_spec (learned : e.Learned limit mode) (watching : e.Watching)
    (small : limit < 2 ^ 16) (now : Int) :
    ∃ later, e.timingFinish now = some later ∧ later.Learned limit mode ∧ later.Watching := by
  unfold Ctx.timingFinish
  split
  · exact ⟨e, rfl, learned, watching⟩
  · have seen : { e with timing := { e.timing with lastExchangeUs := now } }.Learned limit mode :=
      ⟨learned.timeout, learned.adaptiveTiming, learned.inSearch, learned.shows, learned.bounded,
        learned.target, learned.sample⟩
    have still : { e with timing := { e.timing with lastExchangeUs := now } }.Watching := watching
    have closes : ∀ mid : Ctx, mid.Learned limit mode → mid.Watching →
        ∃ later, (if mid.timing.watch.latencyMs = 0 ∨ mid.timing.incomplete = true then
            some mid.timingBackoff else some mid) = some later ∧
          later.Learned limit mode ∧ later.Watching := by
      intro mid learned watching
      split
      · exact ⟨_, rfl, timingBackoff_spec learned watching small⟩
      · exact ⟨mid, rfl, learned, watching⟩
    by_cases answered : e.timing.watch.latencyMs ≠ 0
    · obtain ⟨mid, recorded, learned', watching'⟩ := recordLatency_spec seen still small true
      simp only [if_pos answered, recorded, Option.bind_eq_bind, Option.bind_some]
      exact closes mid learned' watching'
    · simp only [if_neg answered, Option.bind_eq_bind, Option.bind_some]
      exact closes _ seen still

/-! ## Late replies -/

theorem observeLateReply_spec (learned : e.Learned limit mode) (watching : e.Watching)
    (small : limit < 2 ^ 16) (timestamp : UInt32) (kind : ReplyKind) :
    ∃ later, e.observeLateReply timestamp kind = some later ∧ later.Learned limit mode ∧
      later.Watching := by
  unfold Ctx.observeLateReply
  extract_lets elapsedUs latencyMs
  split
  · exact ⟨e, rfl, learned, watching⟩
  · split
    · exact ⟨e, rfl, learned, watching⟩
    · obtain ⟨learned', watching'⟩ :=
        timingReply_spec learned watching latencyMs.toNat (kind == .pending)
      exact recordLatency_spec learned' watching' small false

theorem foldlM_observeLateReply_spec (small : limit < 2 ^ 16)
    (messages : List (UInt32 × ReplyKind)) (learned : e.Learned limit mode)
    (watching : e.Watching) :
    ∃ later, messages.foldlM (fun e (timestamp, kind) => e.observeLateReply timestamp kind) e =
        some later ∧ later.Learned limit mode ∧ later.Watching := by
  induction messages generalizing e with
  | nil => exact ⟨e, rfl, learned, watching⟩
  | cons message messages ih =>
      obtain ⟨timestamp, kind⟩ := message
      obtain ⟨mid, observed, learned', watching'⟩ :=
        observeLateReply_spec learned watching small timestamp kind
      rw [List.foldlM_cons]
      dsimp only
      rw [observed, Option.bind_eq_bind, Option.bind_some]
      exact ih learned' watching'

/-- Between two commands: what is learned is sound, and the watch, if it is on, too. -/
structure Ctx.Sound (limit mode : Nat) (e : Ctx) : Prop where
  learned : e.Learned limit mode
  watching : e.timing.watch.active = true → e.Watching

theorem Ctx.Learned.unwatch (learned : e.Learned limit mode) : e.unwatch.Sound limit mode :=
  ⟨learned.rewatch learned.sample, fun active => nomatch active⟩

theorem observeLateReplies_spec (sound : e.Sound limit mode) (small : limit < 2 ^ 16)
    (late : Late) :
    ∃ later, e.observeLateReplies late = some later ∧ later.Sound limit mode := by
  unfold Ctx.observeLateReplies
  by_cases active : e.timing.watch.active = true
  · rw [active, Bool.not_true, if_neg Bool.false_ne_true]
    split
    · exact ⟨_, rfl, sound.learned.unwatch⟩
    · obtain ⟨mid, observed, learned, watching⟩ := foldlM_observeLateReply_spec small
        (late.messages.take 16) sound.learned (sound.watching active)
      rw [observed, Option.bind_eq_bind, Option.bind_some]
      split
      · exact ⟨_, rfl, learned.unwatch⟩
      · exact ⟨mid, rfl, learned, fun _ => watching⟩
  · rw [Bool.eq_false_iff.mpr active, Bool.not_false, if_pos rfl]
    exact ⟨e, rfl, sound⟩

/-! ## Commands -/

theorem timingBegin_spec (learned : e.Learned limit mode) (windowUs sentUs numFrame : Int) :
    (e.timingBegin windowUs sentUs numFrame).Learned limit mode ∧
      (e.timingBegin windowUs sentUs numFrame).Watching :=
  ⟨⟨learned.timeout, learned.adaptiveTiming, learned.inSearch, learned.shows, learned.bounded,
    learned.target, (by decide : (-1 : Int) < timingSamples)⟩, Or.inl rfl⟩

theorem foldl_timingReply_spec (replies : List (UInt32 × Bool)) (learned : e.Learned limit mode)
    (watching : e.Watching) :
    let later := replies.foldl
      (fun e (latencyMs, pending) => e.timingReply latencyMs.toNat pending) e
    later.Learned limit mode ∧ later.Watching := by
  induction replies generalizing e with
  | nil => exact ⟨learned, watching⟩
  | cons reply replies ih =>
      obtain ⟨learned', watching'⟩ := timingReply_spec learned watching reply.1.toNat reply.2
      exact ih learned' watching'

theorem Ctx.Learned.incomplete (learned : e.Learned limit mode) (incomplete : Bool) :
    { e with timing := { e.timing with incomplete } }.Learned limit mode :=
  ⟨learned.timeout, learned.adaptiveTiming, learned.inSearch, learned.shows, learned.bounded,
    learned.target, learned.sample⟩

theorem request_spec (learned : e.Learned limit mode) (small : limit < 2 ^ 16) (numFrame : Int)
    (transfer : Transfer) :
    ∃ later, e.request numFrame transfer = some later ∧ later.Sound limit mode := by
  cases transfer with
  | refused => exact ⟨_, rfl, learned.unwatch⟩
  | sent windowUs sentUs replies ending =>
      obtain ⟨begun, watching⟩ := timingBegin_spec learned windowUs sentUs numFrame
      obtain ⟨heard, watching'⟩ := foldl_timingReply_spec replies begun watching
      unfold Ctx.request
      dsimp only
      split
      · exact ⟨_, rfl, begun.unwatch⟩
      · have finishes : ∀ mid : Ctx, mid.Learned limit mode → mid.Watching → ∀ now, ∃ later,
            mid.timingFinish now = some later ∧ later.Sound limit mode := by
          intro mid learned watching now
          obtain ⟨later, finished, learned', watching'⟩ :=
            timingFinish_spec learned watching small now
          exact ⟨later, finished, learned', fun _ => watching'⟩
        cases ending with
        | failed => exact ⟨_, rfl, heard.unwatch⟩
        | answered now => exact finishes _ heard watching' now
        | ranOut now =>
            have counted :=
              heard.incomplete (0 < numFrame ∧ (replies.length : Int) < numFrame)
            exact finishes _ counted watching' now

/-! ## What is recorded of an exchange -/

/-- The watch keeps the largest latency, and a reply takes a millisecond at least. -/
theorem timingReply_latency (e : Ctx) (latencyMs : Nat) (pending : Bool) :
    (e.timingReply latencyMs pending).timing.watch.latencyMs =
      max e.timing.watch.latencyMs (max 1 latencyMs) := by
  have atLeast : (if latencyMs = 0 then 1 else latencyMs) = max 1 latencyMs := by
    split <;> omega
  unfold Ctx.timingReply
  extract_lets watch later longest waitMs deadlineMs extended
  have kept : extended.latencyMs = longest.latencyMs := by
    simp only [extended]
    split <;> rfl
  change extended.latencyMs = max watch.latencyMs (max 1 latencyMs)
  rw [kept, ← atLeast]
  change (if later > watch.latencyMs then { watch with latencyMs := later } else watch).latencyMs =
    max watch.latencyMs later
  split
  · exact (Nat.max_eq_right (Nat.le_of_lt ‹_›)).symm
  · exact (Nat.max_eq_left (Nat.le_of_not_lt ‹_›)).symm

/-- A latency is recorded ahead of the others, or in the place of the exchange's earlier one. -/
theorem recordLatency_recorded {later : Ctx} {allowShrink : Bool}
    (done : e.recordLatency allowShrink = some later) :
    later.recorded = e.timing.watch.latencyMs ::
        (if e.timing.watch.sample < 0 then e.recorded else e.recorded.tail) ∧
      later.timing.watch.latencyMs = e.timing.watch.latencyMs := by
  obtain ⟨mid, stored, updated⟩ := Option.bind_eq_some_iff.1 done
  have kept : later.recorded = mid.recorded ∧
      later.timing.watch.latencyMs = mid.timing.watch.latencyMs := by
    obtain ⟨target, -, updated⟩ := Option.bind_eq_some_iff.1 updated
    dsimp only at updated
    split at updated
    · cases updated; exact ⟨rfl, rfl⟩
    · split at updated
      · cases updated; exact ⟨rfl, rfl⟩
      · cases updated; exact ⟨rfl, rfl⟩
  rw [kept.1, kept.2]
  unfold Ctx.storeLatency at stored
  by_cases fresh : e.timing.watch.sample < 0
  · simp only [fresh, if_true] at stored
    split at stored <;> cases stored
    simp [fresh]
  · simp only [fresh, if_false] at stored
    split at stored <;> cases stored
    simp [fresh]

theorem timingBackoff_recorded (e : Ctx) : e.timingBackoff.recorded = e.recorded := by
  unfold Ctx.timingBackoff
  extract_lets limit wider capped
  split <;> rfl

/-- The largest latency of some replies and of those before them. -/
def longest (most : Nat) (replies : List (UInt32 × Bool)) : Nat :=
  replies.foldl (fun most reply => max most (max 1 reply.1.toNat)) most

theorem le_longest (most : Nat) (replies : List (UInt32 × Bool)) : most ≤ longest most replies := by
  induction replies generalizing most with
  | nil => exact Nat.le_refl _
  | cons reply replies ih => exact Nat.le_trans (Nat.le_max_left _ _) (ih _)

/-- Some reply takes a millisecond at least. -/
theorem longest_ne_zero {replies : List (UInt32 × Bool)} (answered : replies ≠ []) :
    longest 0 replies ≠ 0 := by
  cases replies with
  | nil => exact absurd rfl answered
  | cons reply replies =>
      have later := le_longest (max 0 (max 1 reply.1.toNat)) replies
      change longest (max 0 (max 1 reply.1.toNat)) replies ≠ 0
      omega

/-- The replies of an exchange leave the largest latency in the watch, and nothing recorded. -/
theorem foldl_timingReply_latency (replies : List (UInt32 × Bool)) (e : Ctx) :
    let heard := replies.foldl
      (fun e (latencyMs, pending) => e.timingReply latencyMs.toNat pending) e
    heard.timing.watch.latencyMs = longest e.timing.watch.latencyMs replies ∧
      heard.timing.watch.sample = e.timing.watch.sample ∧ heard.recorded = e.recorded ∧
      heard.adaptiveTiming = e.adaptiveTiming := by
  induction replies generalizing e with
  | nil => exact ⟨rfl, rfl, rfl, rfl⟩
  | cons reply replies ih =>
      obtain ⟨latency, sample, recorded, mode⟩ := ih (e.timingReply reply.1.toNat reply.2)
      obtain ⟨_, _, same⟩ := timingReply_eq e reply.1.toNat reply.2
      rw [timingReply_latency] at latency
      refine ⟨latency, sample.trans ?_, recorded.trans ?_, mode.trans ?_⟩ <;> rw [same]

/-- The end of an exchange that was answered records the latency of its watch. -/
theorem timingFinish_recorded {later : Ctx} {now : Int} (adaptive : e.adaptiveTiming ≠ 0)
    (answered : e.timing.watch.latencyMs ≠ 0) (fresh : e.timing.watch.sample = -1)
    {incomplete : Bool}
    (finished : { e with timing := { e.timing with incomplete } }.timingFinish now = some later) :
    later.recorded = e.timing.watch.latencyMs :: e.recorded := by
  unfold Ctx.timingFinish at finished
  simp only [if_neg adaptive, ne_eq, answered, not_false_eq_true, if_true] at finished
  obtain ⟨done, stored, closed⟩ := Option.bind_eq_some_iff.1 finished
  have ahead := (recordLatency_recorded stored).1
  simp only [fresh, Int.reduceNeg, Int.reduceLT, if_true] at ahead
  have kept : later.recorded = done.recorded := by
    split at closed <;> cases closed
    · exact timingBackoff_recorded done
    · rfl
  exact kept.trans ahead

/-- An exchange that was answered records the largest latency of its replies, ahead of those of the
exchanges before it. -/
theorem request_recorded (learned : e.Learned limit mode) (small : limit < 2 ^ 16)
    (adaptive : e.adaptiveTiming ≠ 0) (listens : e.responses = true) {numFrame : Int}
    (asks : numFrame ≠ 0) (windowUs sentUs : Int) {replies : List (UInt32 × Bool)}
    (answered : replies ≠ []) {ending : Ending} (ended : ending ≠ .failed) :
    ∃ later, e.request numFrame (.sent windowUs sentUs replies ending) = some later ∧
      later.recorded = longest 0 replies :: e.recorded := by
  obtain ⟨later, requested, _⟩ :=
    request_spec learned small numFrame (.sent windowUs sentUs replies ending)
  refine ⟨later, requested, ?_⟩
  obtain ⟨latency, sample, recorded, mode⟩ :=
    foldl_timingReply_latency replies (e.timingBegin windowUs sentUs numFrame)
  change _ = longest 0 replies at latency
  have some := latency ▸ longest_ne_zero answered
  have goesOn : ¬(numFrame = 0 ∨ (!(e.timingBegin windowUs sentUs numFrame).responses) = true) := by
    change ¬(numFrame = 0 ∨ (!e.responses) = true)
    simp [asks, listens]
  unfold Ctx.request at requested
  dsimp only at requested
  rw [if_neg goesOn] at requested
  change later.recorded = longest 0 replies :: (e.timingBegin windowUs sentUs numFrame).recorded
  rw [← latency, ← recorded]
  cases ending with
  | failed => exact absurd rfl ended
  | answered now => exact timingFinish_recorded (mode ▸ adaptive) some sample requested
  | ranOut now => exact timingFinish_recorded (mode ▸ adaptive) some sample requested

/-- Timing that has learned nothing. -/
theorem Ctx.cleared_sound (timeout : e.timeout = limit) (adaptiveTiming : e.adaptiveTiming = mode)
    (inSearch : e.inSearch = false) :
    { e with timing := {}, recorded := [] }.Sound limit mode :=
  ⟨⟨timeout, adaptiveTiming, inSearch, .empty rfl, Nat.zero_le _,
    (fun target member => nomatch (timingTarget_of_no_sample rfl).symm.trans member),
    (by decide : (0 : Int) < timingSamples)⟩, fun active => nomatch active⟩

theorem step_spec (sound : e.Sound limit mode) (small : limit < 2 ^ 16) (input : Input) :
    ∃ later, e.step input = some later ∧ later.Sound limit mode := by
  cases input with
  | poll late => exact observeLateReplies_spec sound small late
  | request late numFrame transfer =>
      obtain ⟨mid, observed, sound'⟩ := observeLateReplies_spec sound small late
      rw [Ctx.step, observed, Option.bind_eq_bind, Option.bind_some]
      exact request_spec sound'.learned.unwatch.learned small numFrame transfer
  | other late responses can =>
      obtain ⟨mid, observed, sound'⟩ := observeLateReplies_spec sound small late
      rw [Ctx.step, observed, Option.bind_eq_bind, Option.bind_some]
      obtain ⟨learned, watching⟩ := sound'.learned.unwatch
      exact ⟨_, rfl, ⟨learned.timeout, learned.adaptiveTiming, learned.inSearch, learned.shows,
        learned.bounded, learned.target, learned.sample⟩, watching⟩
  | sameMode late =>
      obtain ⟨mid, observed, sound'⟩ := observeLateReplies_spec sound small late
      rw [Ctx.step, observed, Option.bind_eq_bind, Option.bind_some]
      have learned := sound'.learned
      exact ⟨_, rfl, Ctx.cleared_sound learned.timeout learned.adaptiveTiming learned.inSearch⟩

theorem steps_spec (sound : e.Sound limit mode) (small : limit < 2 ^ 16) (inputs : List Input) :
    ∃ later, inputs.foldlM Ctx.step e = some later ∧ later.Sound limit mode := by
  induction inputs generalizing e with
  | nil => exact ⟨e, rfl, sound⟩
  | cons input inputs ih =>
      obtain ⟨mid, stepped, sound'⟩ := step_spec sound small input
      rw [List.foldlM_cons, stepped, Option.bind_eq_bind, Option.bind_some]
      exact ih sound'

/-! ## The bounds -/

/-- A share of less than the whole. -/
theorem widening_le (room : Nat) (idle : Int) (some : 0 < idle) (bound : idle < 4000) :
    ((room * idle).tdiv (adaptiveIdleFullMs - adaptiveIdleStartMs)).toNat ≤ room := by
  have whole : adaptiveIdleFullMs - adaptiveIdleStartMs = 4000 := rfl
  have positive : 0 ≤ (room : Int) * idle := Int.mul_nonneg (by omega) (by omega)
  have most : (room : Int) * idle ≤ room * 4000 :=
    Int.mul_le_mul_of_nonneg_left (by omega) (by omega)
  rw [whole, Int.tdiv_eq_ediv_of_nonneg positive]
  omega

/-- The window lies between the estimate and the limit. -/
theorem replyWindow_bounds (e : Ctx) (now : Int) :
    e.replyWindow now ≤ e.timeoutLimit ∧
      min e.timeoutLimit e.timing.estimateMs ≤ e.replyWindow now := by
  unfold Ctx.replyWindow
  extract_lets limit window capped idleMs
  have within : capped ≤ limit ∧ min limit window ≤ capped := by
    simp only [capped]
    split <;> omega
  split
  · exact ⟨Nat.le_refl _, Nat.min_le_left _ _⟩
  · split
    · exact within
    · split
      · exact ⟨Nat.le_refl _, Nat.min_le_left _ _⟩
      · split
        · rename_i notFull started
          have start : adaptiveIdleStartMs = 1000 := rfl
          have full : adaptiveIdleFullMs = 5000 := rfl
          have share := widening_le (limit - capped) (idleMs - adaptiveIdleStartMs) (by omega)
            (by omega)
          have below := within.1
          have above := within.2
          omega
        · exact within

/-- An update of a state whose limit fits its storage stays above the target. -/
theorem timingUpdate_above {target : Nat} {later : Ctx} {allowShrink : Bool}
    (learned : e.Learned limit mode) (small : limit < 2 ^ 16)
    (found : e.timingTarget = some target) (updated : e.timingUpdate allowShrink = some later) :
    target ≤ later.timing.estimateMs := by
  have some : 0 < e.timing.count := by
    refine Nat.pos_of_ne_zero fun none => ?_
    rw [timingTarget_of_no_sample none] at found
    cases found
  have same := learned.timeoutLimit
  obtain ⟨aim, found', within, _⟩ := timingTarget_of_sample some
  obtain ⟨estimateMs, updated', above, _⟩ := timingUpdate_spec found' (same ▸ small)
    (same ▸ learned.bounded) within allowShrink
  rw [found] at found'
  rw [updated] at updated'
  cases found'
  cases updated'
  exact above

/-- The latest latencies are covered by the estimate. -/
theorem Ctx.Learned.covers (learned : e.Learned limit mode) {latencyMs : Nat}
    (recent : latencyMs ∈ e.recorded.take timingSamples) :
    min limit latencyMs ≤ e.timing.estimateMs := by
  have member : stored limit latencyMs ∈ (e.recorded.map (stored limit)).take timingSamples := by
    rw [← List.map_take]
    exact List.mem_map_of_mem recent
  have slot := learned.shows.mem member
  have some : 0 < e.timing.count := by
    refine Nat.pos_of_ne_zero fun none => ?_
    rw [none, List.take_zero] at slot
    cases slot
  obtain ⟨target, found, _, covered⟩ := timingTarget_of_sample some
  have above := learned.target target found
  have sample := covered _ slot
  rw [learned.timeoutLimit] at sample
  unfold stored at sample
  split at sample <;> omega

/-- For every AT ST value and every adaptive mode, whatever the interpreter meets: no step is
undefined, the reply window keeps to the limit and covers the latest latencies, and the estimate is
at its target or above. -/
theorem timing_stays_in_bounds (st : UInt8) (mode : Nat) (inputs : List Input) :
    ∃ e, inputs.foldlM Ctx.step { timeout := stTimeout st, adaptiveTiming := mode } = some e ∧
      (∀ now, e.replyWindow now ≤ stTimeout st) ∧
      (∀ now, ∀ latencyMs ∈ e.recorded.take timingSamples,
        min (stTimeout st) latencyMs ≤ e.replyWindow now) ∧
      (∀ target ∈ e.timingTarget, target ≤ e.timing.estimateMs ∧
        ∀ allowShrink, ∀ later ∈ e.timingUpdate allowShrink, target ≤ later.timing.estimateMs) ∧
      e.timing.watch.sample < timingSamples ∧ e.timing.next < timingSamples := by
  have small : stTimeout st < 2 ^ 16 := by
    have byte := st.toNat_lt
    unfold stTimeout defaultTimeoutMs
    split <;> omega
  have start : Ctx.Sound (stTimeout st) mode { timeout := stTimeout st, adaptiveTiming := mode } :=
    Ctx.cleared_sound (e := { timeout := stTimeout st, adaptiveTiming := mode }) rfl rfl rfl
  obtain ⟨e, reached, learned, _⟩ := steps_spec start small inputs
  have limit := learned.timeoutLimit
  refine ⟨e, reached, fun now => ?_, fun now latencyMs recent => ?_, fun target found => ?_,
    learned.sample, learned.shows.next_lt (by decide)⟩
  · rw [← limit]
    exact (replyWindow_bounds e now).1
  · have covered := learned.covers recent
    have bounds := (replyWindow_bounds e now).2
    rw [limit] at bounds
    omega
  · exact ⟨learned.target target found, fun allowShrink later updated =>
      timingUpdate_above learned small found updated⟩

end OpenDiag.Elm327
