import Mathlib.Algebra.Group.Int.Defs
import Mathlib.Algebra.GroupWithZero.Nat
import Mathlib.Data.List.Basic

/-!
# Adaptive timing of the ELM327 interpreter

How long the interpreter waits for replies: the history of reply latencies, the estimate learned
from it and the watch over one exchange. A division by zero, or a history slot that does not exist,
is undefined in the source; here a step that would come to it has no outcome.

What an exchange meets on its bus, and the readings of the clock, are inputs.
-/

namespace OpenDiag.Elm327

/-- `ELM327_TIMING_SAMPLES`. -/
def timingSamples : Nat := 16

/-- `ELM327_SEARCH_MIN_MS`. -/
def searchMinMs : Nat := 200

/-- `ELM327_RESPONSE_PENDING_MS`. -/
def responsePendingMs : Nat := 3000

/-- `ELM327_ADAPTIVE_MIN_AT1_MS`. -/
def adaptiveMinAt1Ms : Nat := 30

/-- `ELM327_ADAPTIVE_MIN_AT2_MS`. -/
def adaptiveMinAt2Ms : Nat := 20

/-- `ELM327_ADAPTIVE_IDLE_START_MS`. -/
def adaptiveIdleStartMs : Int := 1000

/-- `ELM327_ADAPTIVE_IDLE_FULL_MS`. -/
def adaptiveIdleFullMs : Int := 5000

/-- `DEFAULT_TIMEOUT_MS`. -/
def defaultTimeoutMs : Nat := 200

/-- `elm327_reply_watch_t`, but for the request. -/
structure ReplyWatch where
  active : Bool := false
  sentUs : Int := 0
  deadlineMs : Nat := 0
  latencyMs : Nat := 0
  sample : Int := 0
  deriving DecidableEq, Repr

/-- `elm327_timing_t`. -/
structure Timing where
  estimateMs : Nat := 0
  samples : List Nat := List.replicate timingSamples 0
  count : Nat := 0
  next : Nat := 0
  lastExchangeUs : Int := 0
  windowMs : Nat := 0
  incomplete : Bool := false
  watch : ReplyWatch := {}
  deriving DecidableEq, Repr

/-- `elm327_ctx_t`, as far as timing reads it. -/
structure Ctx where
  timeout : Nat
  adaptiveTiming : Nat
  responses : Bool := true
  /-- `elm327_bus` is `VIF_BUS_CAN`. -/
  can : Bool := true
  inSearch : Bool := false
  timing : Timing := {}
  /-- The latencies recorded, one for each exchange, the latest first. The interpreter does not keep
  them. -/
  recorded : List Nat := []
  deriving DecidableEq, Repr

/-- `elm327_reply_kind_t`. -/
inductive ReplyKind where
  | none
  | normal
  | pending
  deriving DecidableEq, Repr

/-! ## Windows -/

/-- `elm327_timeout_limit`. -/
def Ctx.timeoutLimit (e : Ctx) : Nat :=
  if e.inSearch ∧ e.timeout < searchMinMs then searchMinMs else e.timeout

/-- `elm327_reply_window`. -/
def Ctx.replyWindow (e : Ctx) (now : Int) : Nat :=
  let limit := e.timeoutLimit
  let window := e.timing.estimateMs
  if e.adaptiveTiming = 0 ∨ window = 0 ∨ e.inSearch then limit
  else
    let window := if window > limit then limit else window
    if e.timing.lastExchangeUs = 0 then window
    else
      let idleMs := (now - e.timing.lastExchangeUs).tdiv 1000
      if idleMs ≥ adaptiveIdleFullMs then limit
      else if idleMs > adaptiveIdleStartMs then
        window + (((limit - window : Nat) * (idleMs - adaptiveIdleStartMs)).tdiv
          (adaptiveIdleFullMs - adaptiveIdleStartMs)).toNat
      else window

/-- `elm327_latency_margin`. -/
def Ctx.latencyMargin (e : Ctx) (latencyMs : Nat) : Nat :=
  let limit := e.timeoutLimit
  let aggressive := e.adaptiveTiming = 2
  let minimum := if aggressive then adaptiveMinAt2Ms else adaptiveMinAt1Ms
  let divisor := if aggressive then 4 else 2
  let target :=
    if latencyMs < limit then latencyMs + (latencyMs + divisor - 1) / divisor else limit
  let target := if target < minimum then minimum else target
  if target < limit then target else limit

/-- `elm327_timing_target`. -/
def Ctx.timingTarget (e : Ctx) : Option Nat :=
  let samples := e.timing.samples.take e.timing.count
  let sum := samples.foldl (· + ·) 0
  let peak := samples.foldl (fun peak sample => if sample > peak then sample else peak) 0
  if e.timing.count = 0 then none
  else
    let mean := (sum + e.timing.count - 1) / e.timing.count
    let deviation := samples.foldl
      (fun deviation sample =>
        deviation + if sample > mean then sample - mean else mean - sample) 0
    let deviation := (deviation + e.timing.count - 1) / e.timing.count
    let target := mean + 4 + deviation * if e.adaptiveTiming = 2 then 2 else 4
    let margin := e.latencyMargin peak
    let target := if target < margin then margin else target
    let limit := e.timeoutLimit
    some (if target < limit then target else limit)

/-- `elm327_timing_update`. -/
def Ctx.timingUpdate (e : Ctx) (allowShrink : Bool) : Option Ctx := do
  let target ← e.timingTarget
  let estimate := e.timing.estimateMs
  if estimate = 0 ∨ target > estimate then
    some { e with timing := { e.timing with estimateMs := target % 2 ^ 16 } }
  else if allowShrink then
    some { e with
      timing := { e.timing with estimateMs := (estimate - (estimate - target + 7) / 8) % 2 ^ 16 } }
  else some e

/-! ## One exchange -/

/-- `elm327_timing_begin`, with its two readings of the clock. -/
def Ctx.timingBegin (e : Ctx) (windowUs sentUs : Int) (numFrame : Int) : Ctx :=
  { e with
    timing := { e.timing with
      windowMs := e.replyWindow windowUs
      incomplete := false
      watch :=
        { sentUs
          deadlineMs := e.timeoutLimit
          sample := -1
          active := e.adaptiveTiming != 0 && e.responses && numFrame != 0 } } }

/-- `elm327_timing_reply`. -/
def Ctx.timingReply (e : Ctx) (latencyMs : Nat) (pending : Bool) : Ctx :=
  let watch := e.timing.watch
  let latencyMs := if latencyMs = 0 then 1 else latencyMs
  let watch := if latencyMs > watch.latencyMs then { watch with latencyMs } else watch
  let waitMs := if pending && e.can then responsePendingMs else e.timeoutLimit
  let deadlineMs := (latencyMs + waitMs) % 2 ^ 32
  let watch := if deadlineMs > watch.deadlineMs then { watch with deadlineMs } else watch
  { e with timing := { e.timing with watch } }

/-- `elm327_record_latency`, up to its update of the estimate. -/
def Ctx.storeLatency (e : Ctx) : Option Ctx :=
  let timing := e.timing
  let watch := timing.watch
  let limit := e.timeoutLimit
  let latencyMs := watch.latencyMs
  let fresh := watch.sample < 0
  let timing :=
    if fresh then
      { timing with
        watch := { watch with sample := timing.next }
        next := (timing.next + 1) % timingSamples
        count := if timing.count < timingSamples then timing.count + 1 else timing.count }
    else timing
  let slot := timing.watch.sample.toNat
  if timing.samples.length ≤ slot then none
  else
    some { e with
      timing := { timing with
        samples := timing.samples.set slot (if latencyMs < limit then latencyMs else limit) }
      recorded := latencyMs :: if fresh then e.recorded else e.recorded.tail }

/-- `elm327_record_latency`. -/
def Ctx.recordLatency (e : Ctx) (allowShrink : Bool) : Option Ctx := do
  (← e.storeLatency).timingUpdate allowShrink

/-- `elm327_timing_backoff`. -/
def Ctx.timingBackoff (e : Ctx) : Ctx :=
  let limit := e.timeoutLimit
  let wider := e.timing.windowMs * 2
  let wider := if wider > limit then limit else wider
  if wider > e.timing.estimateMs then
    { e with timing := { e.timing with estimateMs := wider % 2 ^ 16 } }
  else e

/-- `elm327_timing_finish`. -/
def Ctx.timingFinish (e : Ctx) (now : Int) : Option Ctx :=
  if e.adaptiveTiming = 0 then some e
  else do
    let e := { e with timing := { e.timing with lastExchangeUs := now } }
    let e ← if e.timing.watch.latencyMs ≠ 0 then e.recordLatency true else some e
    if e.timing.watch.latencyMs = 0 ∨ e.timing.incomplete then some e.timingBackoff else some e

/-- The watch is given up. -/
def Ctx.unwatch (e : Ctx) : Ctx :=
  { e with timing := { e.timing with watch := { e.timing.watch with active := false } } }

/-! ## Late replies -/

/-- What `elm327_observe_late_replies` meets: its readings of the clock before and after, and the
messages, each with its timestamp and with what `elm327_late_reply_kind` makes of it. -/
structure Late where
  now : Int
  messages : List (UInt32 × ReplyKind)
  later : Int
  deriving DecidableEq, Repr

/-- The loop's body. -/
def Ctx.observeLateReply (e : Ctx) (timestamp : UInt32) (kind : ReplyKind) : Option Ctx :=
  let elapsedUs := timestamp - UInt32.ofInt e.timing.watch.sentUs
  let latencyMs := elapsedUs / 1000 + if elapsedUs % 1000 ≠ 0 then 1 else 0
  if latencyMs = 0 ∨ latencyMs.toNat > e.timing.watch.deadlineMs then some e
  else if kind = .none then some e
  else (e.timingReply latencyMs.toNat (kind == .pending)).recordLatency false

/-- `elm327_observe_late_replies`. -/
def Ctx.observeLateReplies (e : Ctx) (late : Late) : Option Ctx :=
  if !e.timing.watch.active then some e
  else if late.now - e.timing.watch.sentUs > 2 ^ 32 - 1 then some e.unwatch
  else do
    let e ← (late.messages.take 16).foldlM
      (fun e (timestamp, kind) => e.observeLateReply timestamp kind) e
    if late.later - e.timing.watch.sentUs ≥ e.timing.watch.deadlineMs * 1000 then some e.unwatch
    else some e

/-! ## Commands -/

/-- How the wait for replies ends: on an error, with the replies that were asked for, or at the end
of the window. The interpreter then reads the clock. -/
inductive Ending where
  | failed
  | answered (now : Int)
  | ranOut (now : Int)
  deriving DecidableEq, Repr

/-- What a request meets on its bus. Each reply comes with its latency and with whether the loop
takes it for a response-pending notice. -/
inductive Transfer where
  | refused
  | sent (windowUs sentUs : Int) (replies : List (UInt32 × Bool)) (ending : Ending)
  deriving DecidableEq, Repr

/-- A request in `elm327_parse_command`: its transfer, and what becomes of the timing. -/
def Ctx.request (e : Ctx) (numFrame : Int) : Transfer → Option Ctx
  | .refused => some e.unwatch
  | .sent windowUs sentUs replies ending =>
    let e := e.timingBegin windowUs sentUs numFrame
    if numFrame = 0 ∨ !e.responses then some e.unwatch
    else
      let e := replies.foldl (fun e (latencyMs, pending) => e.timingReply latencyMs.toNat pending) e
      match ending with
      | .failed => some e.unwatch
      | .answered now => e.timingFinish now
      | .ranOut now =>
        { e with
          timing := { e.timing with
            incomplete := 0 < numFrame ∧ (replies.length : Int) < numFrame } }.timingFinish now

/-- What comes to the interpreter. -/
inductive Input where
  /-- `elm327_fe_poll`. -/
  | poll (late : Late)
  /-- A request, with the number of frames it asks for. -/
  | request (late : Late) (numFrame : Int) (transfer : Transfer)
  /-- Any other command that leaves AT ST and the adaptive mode alone; it may switch responses or
  the bus. -/
  | other (late : Late) (responses can : Bool)
  /-- AT0, AT1 or AT2, for the mode that is set already. -/
  | sameMode (late : Late)
  deriving DecidableEq, Repr

/-- `elm327_fe_poll` and `elm327_parse_command`. -/
def Ctx.step (e : Ctx) : Input → Option Ctx
  | .poll late => e.observeLateReplies late
  | .request late numFrame transfer => do
    (← e.observeLateReplies late).unwatch.request numFrame transfer
  | .other late responses can => do
    some { (← e.observeLateReplies late).unwatch with responses, can }
  | .sameMode late => do
    some { ← e.observeLateReplies late with timing := {}, recorded := [] }

/-- AT ST: the reply timeout. -/
def stTimeout (val : UInt8) : Nat :=
  if val ≠ 0 then val.toNat * 4 else defaultTimeoutMs

end OpenDiag.Elm327
