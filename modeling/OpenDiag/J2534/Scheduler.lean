import Mathlib.Data.Fintype.Basic
import OpenDiag.Can

/-!
# Scheduled messages

`j2534_scheduler.c`: periodic messages, and messages repeated until or while an answer that matches
keeps arriving. Each channel has ten slots of each.
-/

namespace OpenDiag.J2534

def scheduleSlots : Nat := 10

/-- `j2534_schedule_kind_t`. -/
inductive ScheduleKind where
  | periodic
  | untilMatch
  | whileMatch
  deriving DecidableEq, Repr

/-- `j2534_scheduled_message_t`; its length is that of its data. -/
structure ScheduledMessage where
  flags : UInt32 := 0
  handle : UInt32 := 0
  data : List UInt8 := []
  deriving DecidableEq, Repr

/-- `j2534_schedule_job_t`; the match's length is that of its mask. -/
structure Job where
  id : UInt32 := 0
  kind : ScheduleKind := .periodic
  intervalUs : Time := 0
  dueUs : Time := 0
  endedUs : Time := 0
  createdUs : Time := 0
  matchUs : Time := 0
  active : Bool := false
  pending : Bool := false
  transmissionEnded : Bool := false
  sent : Bool := false
  matched : Bool := false
  haveMatch : Bool := false
  message : ScheduledMessage := {}
  matchFlags : UInt32 := 0
  mask : List UInt8 := []
  pattern : List UInt8 := []
  deriving DecidableEq, Repr

/-- The index of a slot: the periodic messages come first, the repeats after them. -/
abbrev Slot := Fin (2 * scheduleSlots)

/-- `j2534_scheduler_t`. -/
abbrev Scheduler := Slot → Job

def Slot.isRepeat (slot : Slot) : Bool :=
  decide (scheduleSlots ≤ slot.val)

def scheduleFind (scheduler : Scheduler) (id : UInt32) : Option Slot :=
  (List.finRange _).find? fun slot => id ≠ 0 && (scheduler slot).id = id

/-- `j2534_schedule_allocate`: a free slot among those of its kind. -/
def scheduleAllocate (scheduler : Scheduler) (repeats : Bool) : Option Slot :=
  (List.finRange _).find? fun slot =>
    Slot.isRepeat slot = repeats && (scheduler slot).id = 0

/-- The first of two jobs is to be sent before the second. -/
def Job.before (job next : Job) : Bool :=
  (job.dueUs - next.dueUs).toInt32 < 0 ||
    (job.dueUs = next.dueUs && (job.id - next.id).toInt32 < 0)

def scheduleNext (scheduler : Scheduler) (nowUs : Time) (allowRepeat : Bool) : Option Slot :=
  (List.finRange _).foldl (fun next slot =>
    let job := scheduler slot
    if !job.active || job.pending || !expired nowUs job.dueUs ||
        (!allowRepeat && job.kind ≠ .periodic) then next
    else
      match next with
      | none => some slot
      | some chosen => if job.before (scheduler chosen) then some slot else next) none

/-- `matches`. -/
def Job.matches (job : Job) (data : List UInt8) (flags : UInt32) : Bool :=
  decide (job.mask.length ≤ data.length) && flags = job.matchFlags &&
    (List.range job.mask.length).all fun i =>
      data.getD i 0 &&& job.mask.getD i 0 = job.pattern.getD i 0

/-- `j2534_schedule_receive`, for one repeat. -/
def Job.receive (job : Job) (data : List UInt8) (flags : UInt32) (timestampUs : Time) : Job :=
  if !job.active || !expired timestampUs job.createdUs then job
  else
    let matching := job.matches data flags
    if (job.kind = .untilMatch && matching) || (job.kind = .whileMatch && !matching) then
      { job with active := false }
    else if matching then
      { job with
        haveMatch := true
        matchUs := timestampUs
        matched := job.matched || (job.sent && expired timestampUs job.endedUs &&
          expired job.dueUs timestampUs) }
    else job

def scheduleReceive (scheduler : Scheduler) (data : List UInt8) (flags : UInt32)
    (timestampUs : Time) : Scheduler := fun slot =>
  if slot.isRepeat then (scheduler slot).receive data flags timestampUs else scheduler slot

/-- `j2534_schedule_expire`, for one repeat. -/
def Job.expire (job : Job) (nowUs : Time) : Job :=
  if job.active && job.kind = .whileMatch && job.sent &&
      (!job.pending || job.transmissionEnded) && !job.matched && expired nowUs job.dueUs then
    { job with active := false }
  else job

def scheduleExpire (scheduler : Scheduler) (nowUs : Time) : Scheduler := fun slot =>
  if slot.isRepeat then (scheduler slot).expire nowUs else scheduler slot

/-- `j2534_schedule_transmitted`. -/
def Job.transmitted (job : Job) (startedUs endedUs : Time) : Job :=
  if job.transmissionEnded && job.endedUs = endedUs then job
  else
    let dueUs := (if job.kind = .periodic then startedUs else endedUs) + job.intervalUs
    { job with
      transmissionEnded := true
      sent := true
      endedUs
      dueUs
      matched := job.haveMatch && expired job.matchUs endedUs && expired dueUs job.matchUs }

/-- `j2534_schedule_defer`. -/
def Job.defer (job : Job) : Job :=
  { job with pending := false }

/-- `j2534_schedule_complete`. -/
def Job.complete (job : Job) (success : Bool) (startedUs endedUs : Time) : Job :=
  let job := { job with pending := false }
  if !success && job.kind ≠ .periodic then { job with active := false }
  else job.transmitted startedUs endedUs

def scheduleReceiveLost (scheduler : Scheduler) : Scheduler := fun slot =>
  if slot.isRepeat then { scheduler slot with active := false } else scheduler slot

end OpenDiag.J2534
