import Mathlib.Algebra.GroupWithZero.Nat
import OpenDiag.Isotp.Receive
import OpenDiag.Lib.Run

/-!
# The receiver on hostile traffic

An observer of the receiver keeps the segments handed out since the last one marked `started`, and
whether the latest reception was refused for capacity. `Safe` ties both to the receiver's state:
the segments are contiguous from offset zero, a reception in progress has copied exactly those
bytes into the buffer, and a refused one never awaits consecutive frames. Every call preserves it,
whatever frame, time or confirmation the call is given.
-/

namespace OpenDiag.Isotp

/-- One call of the receiver's interface. -/
inductive RxCall where
  | feed (f : CanFrame) (nowUs : Time)
  | flowControl (nowUs : Time)
  | confirm (success : Bool) (nowUs : Time)
  | checkTimeout (nowUs : Time)

/-- What a caller has seen of the current reception. -/
structure RxHistory where
  segments : List Segment := []
  refused : Bool := false

/-- A receiver together with what its caller has seen. -/
structure ObservedRx where
  rx : Rx
  history : RxHistory := {}

/-- A segment is handed out with `ISOTP_FRAME` and with `ISOTP_COMPLETE`. -/
def handsOut (rc : Result) : Prop :=
  rc = .frame ∨ rc = .complete

instance (rc : Result) : Decidable (handsOut rc) := inferInstanceAs (Decidable (_ ∨ _))

def RxHistory.observe (h : RxHistory) (rc : Result) (s : Segment) : RxHistory :=
  if handsOut rc then
    if s.started then { segments := [s] } else { h with segments := h.segments ++ [s] }
  else if rc = .errOverflow then { h with refused := true }
  else h

def ObservedRx.call (o : ObservedRx) : RxCall → ObservedRx
  | .feed f nowUs =>
    let out := rxFeed o.rx f nowUs
    { rx := out.2.1, history := o.history.observe out.1 out.2.2 }
  | .flowControl nowUs => { o with rx := (rxFlowControl o.rx nowUs).2.1 }
  | .confirm success nowUs => { o with rx := (rxConfirm o.rx success nowUs).2 }
  | .checkTimeout nowUs => { o with rx := (rxCheckTimeout o.rx nowUs).2 }

/-- The segments follow one another from `offset` on, without gaps, inside `total`. -/
def Contiguous (total : Nat) : Nat → List Segment → Prop
  | _, [] => True
  | offset, s :: rest =>
    s.offset = offset ∧ s.total = total ∧ s.data.length = s.length ∧
      offset + s.length ≤ total ∧ Contiguous total (offset + s.length) rest

/-- The bytes of the segments, in order. -/
def segmentBytes (segments : List Segment) : List UInt8 :=
  segments.flatMap Segment.data

/-- The sum of the segments' lengths. -/
def segmentLength (segments : List Segment) : Nat :=
  (segments.map Segment.length).sum

theorem Contiguous.concat {total offset : Nat} {segments : List Segment} {s : Segment}
    (contiguous : Contiguous total offset segments)
    (next : s.offset = offset + segmentLength segments) (same : s.total = total)
    (length : s.data.length = s.length) (inside : s.offset + s.length ≤ total) :
    Contiguous total offset (segments ++ [s]) := by
  induction segments generalizing offset with
  | nil =>
      simp only [segmentLength, List.map_nil, List.sum_nil, Nat.add_zero] at next
      exact ⟨next, same, length, next ▸ inside, True.intro⟩
  | cons head rest ih =>
      obtain ⟨at_offset, head_total, head_length, head_inside, following⟩ := contiguous
      refine ⟨at_offset, head_total, head_length, head_inside, ih following ?_⟩
      rw [next]
      simp only [segmentLength, List.map_cons, List.sum_cons]
      omega

theorem segmentLength_concat (segments : List Segment) (s : Segment) :
    segmentLength (segments ++ [s]) = segmentLength segments + s.length := by
  simp [segmentLength]

theorem segmentBytes_concat (segments : List Segment) (s : Segment) :
    segmentBytes (segments ++ [s]) = segmentBytes segments ++ s.data := by
  simp [segmentBytes]

/-- The segments are what the receiver has copied of the message it is assembling. -/
structure Assembling (rx : Rx) (segments : List Segment) : Prop where
  fits : rx.total ≤ rx.capacity
  inside : rx.offset ≤ rx.total
  contiguous : Contiguous rx.total 0 segments
  length : segmentLength segments = rx.offset
  copied : ∀ memory ∈ rx.buffer, memory.take rx.offset = segmentBytes segments

/-- The invariant of an observed receiver. -/
structure Safe (o : ObservedRx) : Prop where
  room : ∀ memory ∈ o.rx.buffer, o.rx.capacity ≤ memory.length
  contiguous : ∃ total ≤ o.rx.capacity, Contiguous total 0 o.history.segments
  accepted : o.history.refused = false → o.rx.state ≠ .idle →
    Assembling o.rx o.history.segments ∧ o.rx.flowStatus ≠ 2
  refused : o.history.refused = true → o.rx.state ≠ .cf ∧ (o.rx.state ≠ .idle → o.rx.flowStatus = 2)

/-! ## The copy -/

section Copy

variable {rx : Rx} {s : Segment} {data : List UInt8} {segments : List Segment}

/-- A copy that stays inside the message extends what has been assembled by its segment. -/
theorem Assembling.copy (assembling : Assembling rx segments)
    (room : ∀ memory ∈ rx.buffer, rx.capacity ≤ memory.length)
    (inside : rx.offset + data.length ≤ rx.total) :
    Assembling (segmentCopy rx s data).1 (segments ++ [(segmentCopy rx s data).2]) where
  fits := assembling.fits
  inside := inside
  contiguous := assembling.contiguous.concat
    (by rw [Nat.zero_add]; exact assembling.length.symm) rfl rfl inside
  length := by
    rw [segmentLength_concat, assembling.length]
    rfl
  copied := by
    intro memory member
    simp only [segmentCopy, Option.mem_def, Option.map_eq_some_iff] at member
    obtain ⟨before, held, rfl⟩ := member
    have fits : rx.offset + data.length ≤ before.length :=
      Nat.le_trans inside (Nat.le_trans assembling.fits (room before held))
    rw [segmentBytes_concat, ← assembling.copied before held]
    exact take_overwrite fits

/-- Assembling looks only at the message's extent and the buffer. -/
theorem Assembling.congr {other : Rx} (assembling : Assembling rx segments)
    (total : other.total = rx.total) (offset : other.offset = rx.offset)
    (capacity : other.capacity = rx.capacity) (buffer : other.buffer = rx.buffer) :
    Assembling other segments where
  fits := by rw [total, capacity]; exact assembling.fits
  inside := by rw [offset, total]; exact assembling.inside
  contiguous := by rw [total]; exact assembling.contiguous
  length := by rw [offset]; exact assembling.length
  copied := by rw [buffer, offset]; exact assembling.copied

/-- A reception that has just started has assembled nothing yet. -/
theorem Assembling.nil (offset : rx.offset = 0) (fits : rx.total ≤ rx.capacity) :
    Assembling rx [] where
  fits := fits
  inside := by omega
  contiguous := True.intro
  length := offset.symm
  copied _ _ := by simp [offset, segmentBytes]

end Copy

/-! ## What a frame does -/

/-- The call handed out a segment, having copied it into the buffer as the next piece of the
message after `earlier`. -/
structure Copied (before : Rx) (out : Result × Rx × Segment) (earlier : List Segment) : Prop where
  handed : handsOut out.1
  assembling : Assembling out.2.1 (earlier ++ [out.2.2])
  capacity : out.2.1.capacity = before.capacity
  buffer : out.2.1.buffer = before.buffer.map (overwrite · out.2.2.offset out.2.2.data)
  whole : out.1 = .complete → out.2.1.offset = out.2.1.total
  granted : out.2.1.state ≠ .idle → out.2.1.flowStatus ≠ 2

/-- The call copied nothing, and the message it refused can only be answered with status 2. -/
structure Refused (before : Rx) (out : Result × Rx × Segment) : Prop where
  overflow : out.1 = .errOverflow
  capacity : out.2.1.capacity = before.capacity
  buffer : out.2.1.buffer = before.buffer
  never : out.2.1.state ≠ .cf
  status : out.2.1.state ≠ .idle → out.2.1.flowStatus = 2

section Frame

variable {rx : Rx} (f : CanFrame) (nowUs : Time) {size : Nat}

theorem rxStart_single (room : ∀ memory ∈ rx.buffer, rx.capacity ≤ memory.length)
    (inFrame : rx.config.addressLength + 1 + size ≤ 8) :
    Refused rx (rxStart rx f nowUs false size) ∨
      Copied rx (rxStart rx f nowUs false size) [] ∧
        (rxStart rx f nowUs false size).2.2.started = true := by
  unfold rxStart
  dsimp only
  split
  · exact Or.inl ⟨rfl, rfl, rfl, nofun, fun running => absurd rfl running⟩
  case isFalse fits =>
    have length : (f.data.load (rx.config.addressLength + 1) size).length = size :=
      Block.length_load inFrame
    have assembling : Assembling { rx with
        state := .idle, offset := 0, total := size, paddingError := decide (f.dlc < 8) } [] :=
      .nil rfl (Nat.le_of_not_lt fits)
    refine Or.inr ⟨⟨Or.inr rfl, assembling.copy room ?_, rfl, rfl, fun _ => ?_,
      fun running => absurd rfl running⟩, rfl⟩
    · rw [length]
      exact Nat.le_of_eq (Nat.zero_add _)
    · exact (Nat.zero_add _).trans length

theorem rxStart_first (room : ∀ memory ∈ rx.buffer, rx.capacity ≤ memory.length)
    (several : 7 - rx.config.addressLength < size) :
    Refused rx (rxStart rx f nowUs true size) ∨
      Copied rx (rxStart rx f nowUs true size) [] ∧
        (rxStart rx f nowUs true size).2.2.started = true := by
  have address := rx.config.addressLength_le
  unfold rxStart
  dsimp only
  split
  · exact Or.inl ⟨rfl, rfl, rfl, nofun, fun _ => rfl⟩
  case isFalse fits =>
    have length : (f.data.load (rx.config.addressLength + 2)
        (6 - rx.config.addressLength)).length = 6 - rx.config.addressLength :=
      Block.length_load (by omega)
    have assembling : Assembling { rx with
        offset := 0, total := size, paddingError := decide (f.dlc < 8), sequence := 1,
        blockCount := 0, flowStatus := 0, state := .fcReady,
        deadlineUs := nowUs + rx.config.timeoutAUs } [] :=
      .nil rfl (Nat.le_of_not_lt fits)
    refine Or.inr ⟨⟨Or.inl rfl, assembling.copy room ?_, rfl, rfl, nofun,
      fun _ => show (0 : UInt8) ≠ 2 by decide⟩, rfl⟩
    rw [length]
    simp only
    omega

/-- A consecutive frame is ignored, aborts the reception, or is the next piece of it. -/
theorem rxContinue_cases {segments : List Segment} (assembling : Assembling rx segments)
    (room : ∀ memory ∈ rx.buffer, rx.capacity ≤ memory.length) (granted : rx.flowStatus ≠ 2) :
    rxContinue rx f nowUs = (.ignored, rx, {}) ∨
      rxContinue rx f nowUs = (.errSequence, { rx with state := .idle }, {}) ∨
      Copied rx (rxContinue rx f nowUs) segments ∧
        (rxContinue rx f nowUs).2.2.started = false := by
  have address := rx.config.addressLength_le
  have inside := assembling.inside
  unfold rxContinue
  dsimp only
  generalize sized : (if rx.total - rx.offset < 7 - rx.config.addressLength then
    rx.total - rx.offset else 7 - rx.config.addressLength) = count
  have bounds : count ≤ rx.total - rx.offset ∧ rx.config.addressLength + 1 + count ≤ 8 := by
    rw [← sized]
    split <;> omega
  split
  · exact Or.inl rfl
  split
  · exact Or.inr (Or.inl rfl)
  refine Or.inr (Or.inr ?_)
  have length : (f.data.load (rx.config.addressLength + 1) count).length = count :=
    Block.length_load bounds.2
  have padded : Assembling { rx with paddingError := rx.paddingError || decide (f.dlc < 8) }
      segments := assembling.congr rfl rfl rfl rfl
  have within : rx.offset + (f.data.load (rx.config.addressLength + 1) count).length ≤ rx.total := by
    rw [length]
    omega
  have next := padded.copy (s := {}) room within
  split
  case isTrue complete =>
    exact ⟨⟨Or.inr rfl, next.congr rfl rfl rfl rfl, rfl, rfl,
      fun _ => by simpa [segmentCopy] using complete,
      fun running => absurd rfl running⟩, rfl⟩
  case isFalse more =>
    split
    · split
      · exact ⟨⟨Or.inl rfl, next.congr rfl rfl rfl rfl, rfl, rfl, nofun,
          fun _ => granted⟩, rfl⟩
      · exact ⟨⟨Or.inl rfl, next.congr rfl rfl rfl rfl, rfl, rfl, nofun,
          fun _ => granted⟩, rfl⟩
    · exact ⟨⟨Or.inl rfl, next.congr rfl rfl rfl rfl, rfl, rfl, nofun,
        fun _ => granted⟩, rfl⟩

end Frame

/-! ## One call -/

section Step

variable {o : ObservedRx}

/-- A new state and deadline are safe unless they revive an aborted reception or make a refused
one await consecutive frames. -/
theorem Safe.restate (safe : Safe o) (state : RxState) (deadlineUs : Time)
    (live : state ≠ .idle → o.rx.state ≠ .idle)
    (awaiting : state = .cf → o.rx.flowStatus ≠ 2) :
    Safe { o with rx := { o.rx with state, deadlineUs } } where
  room := safe.room
  contiguous := safe.contiguous
  accepted accepted running := by
    obtain ⟨assembling, granted⟩ := safe.accepted accepted (live running)
    exact ⟨assembling.congr rfl rfl rfl rfl, granted⟩
  refused refused := by
    obtain ⟨_, status⟩ := safe.refused refused
    have settled (running : state ≠ .idle) : o.rx.flowStatus = 2 := status (live running)
    exact ⟨fun (cf : state = .cf) => awaiting cf (settled (by rw [cf]; decide)), settled⟩

theorem Safe.abort (safe : Safe o) : Safe { o with rx := { o.rx with state := .idle } } :=
  safe.restate .idle o.rx.deadlineUs (fun running => absurd rfl running) (fun cf => by cases cf)

theorem Safe.checkTimeout (safe : Safe o) (nowUs : Time) :
    Safe { o with rx := (rxCheckTimeout o.rx nowUs).2 } := by
  rcases rxCheckTimeout_cases o.rx nowUs with fresh | ⟨_, _, rc, _, timeout⟩
  · rw [fresh]
    exact safe
  · rw [timeout]
    exact safe.abort

theorem Safe.flowControl (safe : Safe o) (nowUs : Time) :
    Safe { o with rx := (rxFlowControl o.rx nowUs).2.1 } := by
  unfold rxFlowControl
  rcases rxCheckTimeout_cases o.rx nowUs with fresh | ⟨_, _, rc, which, timeout⟩
  · simp only [fresh]
    split
    · exact safe
    case isFalse ready =>
      simp only [Bool.or_eq_true, decide_eq_true_eq, not_or, not_not] at ready
      exact safe.restate _ _ (fun _ => by rw [ready.2]; decide) (fun cf => by cases cf)
  · rcases which with rfl | rfl <;> simp only [timeout] <;> exact safe.abort

theorem Safe.confirm (safe : Safe o) (success : Bool) (nowUs : Time) :
    Safe { o with rx := (rxConfirm o.rx success nowUs).2 } := by
  unfold rxConfirm
  split
  · exact safe
  case isFalse confirming =>
    rw [not_not] at confirming
    rcases rxCheckTimeout_cases o.rx nowUs with fresh | ⟨_, _, rc, which, timeout⟩
    · simp only [fresh, show Result.isError .ok = false from rfl, Bool.false_eq_true, if_false]
      split
      · exact safe.abort
      case isFalse granted =>
        simp only [Bool.or_eq_true, decide_eq_true_eq, not_or] at granted
        exact safe.restate _ _ (fun _ => by rw [confirming]; decide) (fun _ => granted.2)
    · rcases which with rfl | rfl <;> simp only [timeout] <;> exact safe.abort

/-- The segments seen before a frame that belongs to the same message. -/
def RxHistory.earlier (h : RxHistory) (s : Segment) : List Segment :=
  if s.started then [] else h.segments

theorem RxHistory.observe_of_handsOut (h : RxHistory) {rc : Result} {s : Segment}
    (handed : handsOut rc) (continues : s.started = false → h.refused = false) :
    h.observe rc s = { segments := h.earlier s ++ [s], refused := false } := by
  unfold observe earlier
  rw [if_pos handed]
  cases started : s.started with
  | true => simp
  | false => simp [continues started]

/-- A frame either leaves the buffer alone or copies the segment it hands out. -/
theorem Safe.feed_cases (safe : Safe o) (f : CanFrame) (nowUs : Time) :
    ((rxFeed o.rx f nowUs).1 = .ignored ∧ (rxFeed o.rx f nowUs).2.1 = o.rx) ∨
      ((rxFeed o.rx f nowUs).1.isError = true ∧ (rxFeed o.rx f nowUs).1 ≠ .errOverflow ∧
        (rxFeed o.rx f nowUs).2.1 = { o.rx with state := .idle }) ∨
      Refused o.rx (rxFeed o.rx f nowUs) ∨
      (Copied o.rx (rxFeed o.rx f nowUs) (o.history.earlier (rxFeed o.rx f nowUs).2.2) ∧
        ((rxFeed o.rx f nowUs).2.2.started = false → o.history.refused = false)) := by
  rcases rxFeed_cases o.rx f nowUs with ⟨_, _, rc, which, timeout⟩ | ignored |
    ⟨size, _, inFrame, single⟩ | ⟨size, several, first⟩ | ⟨awaited, next⟩
  · refine Or.inr (Or.inl ?_)
    rw [timeout]
    rcases which with rfl | rfl <;> exact ⟨rfl, nofun, rfl⟩
  · exact Or.inl ⟨by rw [ignored], by rw [ignored]⟩
  · rw [single]
    rcases rxStart_single f nowUs safe.room inFrame with refused | ⟨copied, started⟩
    · exact Or.inr (Or.inr (Or.inl refused))
    · refine Or.inr (Or.inr (Or.inr ⟨?_, fun continues => ?_⟩))
      · rw [RxHistory.earlier, if_pos started]
        exact copied
      · rw [started] at continues
        cases continues
  · rw [first]
    rcases rxStart_first f nowUs safe.room several with refused | ⟨copied, started⟩
    · exact Or.inr (Or.inr (Or.inl refused))
    · refine Or.inr (Or.inr (Or.inr ⟨?_, fun continues => ?_⟩))
      · rw [RxHistory.earlier, if_pos started]
        exact copied
      · rw [started] at continues
        cases continues
  · have accepted : o.history.refused = false := by
      cases refused : o.history.refused with
      | false => rfl
      | true => exact absurd awaited (safe.refused refused).1
    obtain ⟨assembling, granted⟩ := safe.accepted accepted (by rw [awaited]; decide)
    rw [next]
    rcases rxContinue_cases f nowUs assembling safe.room granted with
      ignored | sequence | ⟨copied, continues⟩
    · exact Or.inl ⟨by rw [ignored], by rw [ignored]⟩
    · refine Or.inr (Or.inl ?_)
      rw [sequence]
      exact ⟨rfl, nofun, rfl⟩
    · refine Or.inr (Or.inr (Or.inr ⟨?_, fun _ => accepted⟩))
      rw [RxHistory.earlier, if_neg (by rw [continues]; decide)]
      exact copied

theorem Safe.feed (safe : Safe o) (f : CanFrame) (nowUs : Time) :
    Safe (o.call (.feed f nowUs)) := by
  have cases := safe.feed_cases f nowUs
  simp only [ObservedRx.call]
  generalize rxFeed o.rx f nowUs = out at cases
  obtain ⟨rc, rx, s⟩ := out
  dsimp only at cases ⊢
  rcases cases with ⟨rfl, rfl⟩ | ⟨error, fits, rfl⟩ | refused | ⟨copied, continues⟩
  · exact safe
  · have kept : o.history.observe rc s = o.history := by
      unfold RxHistory.observe
      rw [if_neg, if_neg fits]
      rintro (rfl | rfl) <;> cases error
    rw [kept]
    exact safe.abort
  · obtain ⟨rfl, capacity, buffer, never, status⟩ := refused
    dsimp only at capacity buffer never status
    have observed : o.history.observe .errOverflow s = { o.history with refused := true } := rfl
    rw [observed]
    refine ⟨?_, ?_, nofun, fun _ => ⟨never, status⟩⟩
    · rw [buffer, capacity]
      exact safe.room
    · rw [capacity]
      exact safe.contiguous
  · rw [RxHistory.observe_of_handsOut _ copied.handed continues]
    refine ⟨?_, ⟨_, ?_, copied.assembling.contiguous⟩,
      fun _ running => ⟨copied.assembling, copied.granted running⟩, nofun⟩
    · have buffer := copied.buffer
      have capacity := copied.capacity
      dsimp only at buffer capacity
      intro memory member
      rw [buffer, Option.mem_def, Option.map_eq_some_iff] at member
      obtain ⟨old, held, rfl⟩ := member
      rw [length_overwrite, capacity]
      exact safe.room old held
    · exact copied.assembling.fits

theorem Safe.call (safe : Safe o) (call : RxCall) : Safe (o.call call) := by
  cases call with
  | feed f nowUs => exact safe.feed f nowUs
  | flowControl nowUs => exact safe.flowControl nowUs
  | confirm success nowUs => exact safe.confirm success nowUs
  | checkTimeout nowUs => exact safe.checkTimeout nowUs

end Step

/-! ## Every run -/

/-- A receiver as `isotp_rx_init` leaves it. -/
def initialRx (config : Config) (buffer : Option (List UInt8)) (capacity : Nat) : Rx :=
  { config, buffer, capacity }

theorem rxInit_eq (rx : Rx) {config : Config} (valid : validConfig config = true)
    (buffer : Option (List UInt8)) (capacity : Nat) :
    rxInit rx config buffer capacity = (.ok, initialRx config buffer capacity) := by
  simp [rxInit, valid, initialRx]

theorem rxInit_ok {rx next : Rx} {config : Config} {buffer : Option (List UInt8)} {capacity : Nat}
    (init : rxInit rx config buffer capacity = (.ok, next)) :
    next = initialRx config buffer capacity := by
  unfold rxInit at init
  split at init
  · cases init
  · exact (congrArg Prod.snd init).symm

theorem Safe.initial (config : Config) {buffer : Option (List UInt8)} {capacity : Nat}
    (room : ∀ memory ∈ buffer, capacity ≤ memory.length) :
    Safe { rx := initialRx config buffer capacity } where
  room := room
  contiguous := ⟨0, Nat.zero_le _, True.intro⟩
  accepted _ running := absurd rfl running
  refused := nofun

/-- Only a frame can touch anything but the state and its deadline. -/
theorem ObservedRx.call_restates (o : ObservedRx) {call : RxCall}
    (silent : ∀ f nowUs, call ≠ .feed f nowUs) :
    ∃ state deadlineUs, (o.call call).rx = { o.rx with state, deadlineUs } := by
  cases call with
  | feed f nowUs => exact absurd rfl (silent f nowUs)
  | flowControl nowUs => exact rxFlowControl_restates o.rx nowUs
  | confirm success nowUs => exact rxConfirm_restates o.rx success nowUs
  | checkTimeout nowUs => exact rxCheckTimeout_restates o.rx nowUs

/-- No call changes the capacity that bounds every copy. -/
theorem Safe.call_capacity {o : ObservedRx} (safe : Safe o) (call : RxCall) :
    (o.call call).rx.capacity = o.rx.capacity := by
  by_cases silent : ∀ f nowUs, call ≠ .feed f nowUs
  · obtain ⟨state, deadlineUs, restated⟩ := o.call_restates silent
    rw [restated]
  · simp only [not_forall, not_not] at silent
    obtain ⟨f, nowUs, rfl⟩ := silent
    simp only [ObservedRx.call]
    rcases safe.feed_cases f nowUs with ⟨_, same⟩ | ⟨_, _, aborted⟩ | refused | ⟨copied, _⟩
    · rw [same]
    · rw [aborted]
    · exact refused.capacity
    · exact copied.capacity

/-- The receiver of any run of the interface is safe, and still has its capacity. -/
theorem Safe.run (config : Config) {buffer : Option (List UInt8)} {capacity : Nat}
    (room : ∀ memory ∈ buffer, capacity ≤ memory.length) (calls : List RxCall) :
    let o := OpenDiag.run ObservedRx.call { rx := initialRx config buffer capacity } calls
    Safe o ∧ o.rx.capacity = capacity :=
  run_invariant (fun o => Safe o ∧ o.rx.capacity = capacity)
    (fun _ call safe => ⟨safe.1.call call, (safe.1.call_capacity call).trans safe.2⟩)
    ⟨Safe.initial config room, rfl⟩ calls

theorem Contiguous.bounds {total offset : Nat} {segments : List Segment} {s : Segment}
    (contiguous : Contiguous total offset segments) (member : s ∈ segments) :
    s.offset + s.length ≤ s.total ∧ s.total = total ∧ s.data.length = s.length := by
  induction segments generalizing offset with
  | nil => cases member
  | cons head rest ih =>
      obtain ⟨at_offset, head_total, head_length, head_inside, following⟩ := contiguous
      rcases List.mem_cons.mp member with rfl | later
      · exact ⟨by rw [at_offset, head_total]; exact head_inside, head_total, head_length⟩
      · exact ih following later

/-- **The receiver is safe on hostile traffic.** After any calls with any frames at any times: the
segments handed out since the last `started` one are contiguous from offset zero inside a total
that fits the capacity; a reception refused for capacity does not await consecutive frames; only a
frame is copied; and whatever frame comes next, it is copied, if at all, inside its message and the
capacity, it completes a message only when the buffer begins with exactly the bytes handed out, and
it changes nothing if it is ignored. -/
theorem rx_safe_on_hostile_traffic {rx₀ rx : Rx} {config : Config} {buffer : Option (List UInt8)}
    {capacity : Nat} (init : rxInit rx₀ config buffer capacity = (.ok, rx))
    (room : ∀ memory ∈ buffer, capacity ≤ memory.length) (calls : List RxCall) :
    let o := run ObservedRx.call { rx } calls
    (∃ total ≤ capacity, Contiguous total 0 o.history.segments) ∧
    (o.history.refused = true → o.rx.state ≠ .cf) ∧
    (∀ call : RxCall, (∀ f nowUs, call ≠ .feed f nowUs) →
      (o.call call).rx.buffer = o.rx.buffer) ∧
    ∀ (f : CanFrame) (nowUs : Time),
      let out := rxFeed o.rx f nowUs
      let s := out.2.2
      let next := o.call (.feed f nowUs)
      (¬ handsOut out.1 → out.2.1.buffer = o.rx.buffer) ∧
      (handsOut out.1 → s.data.length = s.length ∧ s.offset + s.length ≤ s.total ∧
        s.total ≤ capacity ∧ out.2.1.buffer = o.rx.buffer.map (overwrite · s.offset s.data)) ∧
      (out.1 = .complete → segmentLength next.history.segments = out.2.1.total ∧
        ∀ memory ∈ out.2.1.buffer,
          memory.take out.2.1.total = segmentBytes next.history.segments) ∧
      (out.1 = .errOverflow → next.history.refused = true) ∧
      (out.1 = .ignored → out.2.1 = o.rx) := by
  intro o
  obtain rfl := rxInit_ok init
  obtain ⟨safe, held⟩ : Safe o ∧ o.rx.capacity = capacity := Safe.run config room calls
  refine ⟨held ▸ safe.contiguous, fun refused => (safe.refused refused).1,
    fun call silent => ?_, fun f nowUs => ?_⟩
  · obtain ⟨state, deadlineUs, restated⟩ := o.call_restates silent
    rw [restated]
  have cases := safe.feed_cases f nowUs
  simp only [ObservedRx.call]
  generalize rxFeed o.rx f nowUs = out at cases
  obtain ⟨rc, next, s⟩ := out
  dsimp only at cases ⊢
  rcases cases with ⟨rfl, rfl⟩ | ⟨error, fits, rfl⟩ | refused | ⟨copied, continues⟩
  · exact ⟨fun _ => rfl, nofun, nofun, nofun, fun _ => rfl⟩
  · refine ⟨fun _ => rfl, ?_, ?_, fun overflow => absurd overflow fits, ?_⟩
    · rintro (rfl | rfl) <;> cases error
    · rintro rfl
      cases error
    · rintro rfl
      cases error
  · obtain ⟨rfl, _, same, _, _⟩ := refused
    exact ⟨fun _ => same, nofun, nofun, fun _ => rfl, nofun⟩
  · have assembling := copied.assembling
    have capacity_eq := copied.capacity
    have whole := copied.whole
    have handed := copied.handed
    rw [RxHistory.observe_of_handsOut _ handed continues]
    dsimp only at assembling capacity_eq whole handed ⊢
    obtain ⟨inside, total, length⟩ := assembling.contiguous.bounds
      (List.mem_append_right _ (List.mem_singleton_self s))
    refine ⟨fun silent => absurd handed silent, fun _ => ⟨length, inside, ?_, copied.buffer⟩,
      fun complete => ⟨?_, ?_⟩, ?_, ?_⟩
    · rw [total, ← held, ← capacity_eq]
      exact assembling.fits
    · rw [assembling.length, whole complete]
    · rw [← whole complete]
      exact assembling.copied
    · rintro rfl
      rcases handed with handed | handed <;> cases handed
    · rintro rfl
      rcases handed with handed | handed <;> cases handed

/-- A single frame that fits replaces a multi-frame reception and completes with its own bytes. -/
theorem rx_safe_on_replacing_frame :
    let config := configDefault 0x7e0 0x7e8
    let frame (bytes : List UInt8) : CanFrame := ⟨0x7e8, 8, (Block.fill 8 0).store 0 bytes⟩
    let first := frame [0x10, 20, 1, 2, 3, 4, 5, 6]
    let single := frame [3, 0x41, 0, 0x12]
    let o := run ObservedRx.call { rx := initialRx config (some (List.replicate 32 0xcc)) 24 }
      [.feed first 0, .flowControl 1, .confirm true 2]
    (rxFeed o.rx single 3).1 = .complete ∧
      segmentLength (o.call (.feed single 3)).history.segments = 3 := by
  intro config frame first single o
  have completes : (rxFeed o.rx single 3).1 = .complete := by decide
  have total : (rxFeed o.rx single 3).2.1.total = 3 := by decide
  have init : rxInit (initialRx config none 0) config (some (List.replicate 32 0xcc)) 24 =
      (.ok, initialRx config (some (List.replicate 32 0xcc)) 24) := by decide
  have safe := rx_safe_on_hostile_traffic init (by decide)
    [.feed first 0, .flowControl 1, .confirm true 2]
  exact ⟨completes, ((safe.2.2.2 single 3).2.2.1 completes).1.trans total⟩

end OpenDiag.Isotp
