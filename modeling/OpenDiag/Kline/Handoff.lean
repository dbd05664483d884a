import OpenDiag.Kline.Commands

/-!
# What the callers and the K-Line task may rely on

A caller writes the shared request while nothing is with the task, waits for the result of its own
command, and is refused once a command was given up, until the driver is opened anew. What carries
this is the phase of the command that was handed over last, which the queue, the task and the
semaphore show between them.
-/

namespace OpenDiag.Kline.Commands

/-! ## Where a command is -/

/-- Where the command is that was handed over last, as long as the task has not answered it or its
answer has not been taken. -/
inductive Phase where
  | clear
  | queued (ticket : Ticket)
  | pending (ticket : Ticket)
  | running (ticket : Ticket)
  | stored (ticket : Ticket)
  | told (ticket : Ticket)
  | given (ticket : Ticket)

def Phase.ticket : Phase → Option Ticket
  | .clear => none
  | .queued t | .pending t | .running t | .stored t | .told t | .given t => some t

def Phase.queue : Phase → Option Ticket
  | .queued t => some t
  | _ => none

def Phase.picked : Phase → Option Ticket
  | .pending t => some t
  | _ => none

/-- The commands that the task has not begun. -/
def Phase.ahead : Phase → Option Ticket
  | .queued t | .pending t => some t
  | _ => none

/-- The commands that the task is done with. -/
def Phase.finished : Phase → Option Ticket
  | .stored t | .told t | .given t => some t
  | _ => none

/-- What the task is at, unless it waits or is gone. -/
def Phase.work : Phase → Option Task
  | .running t => some (.running t)
  | .stored t => some (.stored t)
  | .told t => some (.told t)
  | _ => none

def Phase.token : Phase → Bool
  | .given _ => true
  | _ => false

/-- What `pending_inits` counts for a command. -/
def Phase.inits : Phase → Int
  | .queued t | .pending t | .running t | .stored t => if t.cmd.initializes then 1 else 0
  | _ => 0

def Task.work : Task → Option Task
  | .gone | .loop => none
  | busy => some busy

def Stage.ticket : Stage → Option Ticket
  | .locked _ | .granted _ | .refused => none
  | .begin t | .count t | .send t | .undo t | .wait t | .expired t | .took t | .ended t _
  | .leave t _ _ => some t

/-- The command that is yet to be sent. -/
def Stage.unsent : Stage → Option Ticket
  | .begin t | .count t | .send t => some t
  | _ => none

/-- What `pending_inits` counts for a command that is yet to be sent. -/
def Stage.inits : Stage → Int
  | .send t => if t.cmd.initializes then 1 else 0
  | _ => 0

def Lock.stage {T : Type*} : Lock T → Option Stage
  | .caller _ stage => some stage
  | .free | .closing => none

def Event.startedNumber : Event → Option Nat
  | .started t _ => some t.number
  | _ => none

def Event.answeredNumber : Event → Option Nat
  | .answered t _ _ => some t.number
  | _ => none

section Invariant

variable {T : Type*}

/-- What is shared shows where the command is; the queue and the semaphore, while they are there. -/
structure State.Shows (s : State T) (p : Phase) : Prop where
  queue : s.resources = true → s.cmdQ = p.queue
  picked : (if s.commandPending then some s.cmd else none) = p.picked
  work : s.task.work = p.work
  token : s.resources = true → s.cmdDone = p.token

/-- A result that a caller may be told, and the initialization that it is told with. -/
def Recorded (log : List Event) (ticket : Ticket) (rc : Int) (io : BusInit) : Prop :=
  ∃ found, Event.finished ticket found rc io ∈ log

/-- What a caller with the mutex knows of the command that was handed over. Where nobody has stopped
waiting, there is none but its own. -/
def Stage.Fits (s : State T) (p : Phase) : Stage → Prop
  | .locked _ | .refused => s.commandTimedOut = false → p = .clear
  | .granted _ => s.commandTimedOut = false ∧ p = .clear
  | .begin t => s.commandTimedOut = false → p = .clear ∧ s.found t.cmd = t.payload
  | .count t => (s.commandTimedOut = false ∧ p = .clear ∧ s.found t.cmd = t.payload) ∧
      t.cmd.initializes = true
  | .send t => s.commandTimedOut = false ∧ p = .clear ∧ s.found t.cmd = t.payload
  | .undo _ => False
  | .wait t | .expired t => s.commandTimedOut = false ∧ p.ticket = some t
  | .took t => s.commandTimedOut = false ∧ p = .clear ∧ Recorded s.log t s.result s.reqInit
  | .ended t answer => (s.commandTimedOut = false → p = .clear) ∧ ∀ rc, answer = .result rc →
      s.commandTimedOut = false ∧ Recorded s.log t rc s.reqInit
  | .leave t answer out => (s.commandTimedOut = false → p = .clear) ∧ ∀ rc, answer = .result rc →
      ∃ io, Recorded s.log t rc io ∧ (t.cmd.initializes = true → out = some io)

def Lock.Fits (s : State T) (p : Phase) : Lock T → Prop
  | .caller _ stage => stage.Fits s p
  | .free | .closing => s.commandTimedOut = false → p = .clear

/-- What the log says of the commands that were handed over: each was begun once at most, as its
caller wrote it, and what its caller was told is what the task made of it. -/
structure Truthful (log : List Event) : Prop where
  own : ∀ t found, Event.started t found ∈ log → found = t.payload
  once : (log.filterMap Event.startedNumber).Nodup
  unchanged : ∀ t found rc io, Event.finished t found rc io ∈ log →
    found.asked = t.payload.asked ∧ (t.cmd.initializes = false → found = t.payload)
  results : ∀ t rc out, Event.answered t (.result rc) out ∈ log →
    ∃ found io, Event.finished t found rc io ∈ log ∧ (t.cmd.initializes = true → out = some io)
  answers : (log.filterMap Event.answeredNumber).Nodup

/-- Who may be inside the driver, and what is there when the task is. -/
structure Lives (started handle resources : Bool) (task : Task) (exited : Bool) (lock : Lock T)
    (position : T → Position) : Prop where
  shut : started = false → ∀ c, position c = .idle
  holder : ∀ c stage, lock = .caller c stage → position c = .inside
  closing : lock = .closing → started = false
  up : started = true → handle = true ∧ resources = true
  gone : handle = false → task = .gone
  exited : exited = true → task = .gone
  alive : task ≠ .gone → resources = true

def State.Lives (s : State T) : Prop :=
  Commands.Lives s.started s.handle s.resources s.task s.exited s.lock s.position

/-- No number is on two tickets that are yet to be begun, or to be answered. -/
structure Numbered (stage : Option Stage) (ahead : Option Ticket) (tickets : Nat)
    (log : List Event) : Prop where
  unsent : ∀ t, stage.bind Stage.unsent = some t →
    t.number < tickets ∧ t.number ∉ log.filterMap Event.startedNumber
  waiting : ∀ t, ahead = some t →
    t.number < tickets ∧ t.number ∉ log.filterMap Event.startedNumber
  apart : ∀ t, stage.bind Stage.unsent = some t → ∀ t', ahead = some t' → t.number ≠ t'.number
  unanswered : ∀ t, stage.bind Stage.ticket = some t →
    t.number < tickets ∧ t.number ∉ log.filterMap Event.answeredNumber
  numbers : ∀ n, n ∈ log.filterMap Event.startedNumber ∨ n ∈ log.filterMap Event.answeredNumber →
    n < tickets

/-- What every turn keeps, with the command in a phase. -/
structure State.Sound (s : State T) (p : Phase) : Prop where
  shows : s.Shows p
  lives : s.Lives
  fits : s.lock.Fits s p
  written : ∀ t, p.ahead = some t → s.found t.cmd = t.payload
  kept : ∀ t, p = .running t → (s.found t.cmd).asked = t.payload.asked ∧
    (t.cmd.initializes = false → s.found t.cmd = t.payload)
  recorded : ∀ t, p.finished = some t → Recorded s.log t s.result s.reqInit
  inits : s.pendingInits = p.inits + (s.lock.stage.map Stage.inits).getD 0
  numbered : Numbered s.lock.stage p.ahead s.tickets s.log
  truthful : Truthful s.log

theorem sound_start : ({} : State T).Sound .clear where
  shows := ⟨fun _ => rfl, rfl, rfl, fun _ => rfl⟩
  lives := ⟨fun _ _ => rfl, by simp, by simp, by simp, fun _ => rfl, by simp,
    fun there => absurd rfl there⟩
  fits := fun _ => rfl
  written := by simp [Phase.ahead]
  kept := by simp
  recorded := by simp [Phase.finished]
  inits := rfl
  numbered := ⟨by simp [Lock.stage], by simp [Phase.ahead], by simp [Lock.stage],
    by simp [Lock.stage], by simp⟩
  truthful := ⟨by simp, by simp, by simp, by simp, by simp⟩

section Parts

variable {started handle resources exited : Bool} {task : Task} {lock : Lock T}
  {position : T → Position} {c : T} {stage next : Stage}

theorem Lives.hold
    (lives : Lives started handle resources task exited (.caller c stage) position) :
    Lives started handle resources task exited (.caller c next) position :=
  { lives with
    holder := by
      intro other later here
      obtain ⟨rfl, -⟩ := Lock.caller.inj here
      exact lives.holder c stage rfl
    closing := nofun }

theorem Lives.isUp
    (lives : Lives started handle resources task exited (.caller c stage) position) :
    started = true := by
  by_contra down
  have inside := lives.holder c stage rfl
  rw [lives.shut (Bool.eq_false_iff.2 down) c] at inside
  cases inside

theorem Lives.release [DecidableEq T]
    (lives : Lives started handle resources task exited (.caller c stage) position) :
    Lives started handle resources task exited .free (Function.update position c .idle) :=
  { lives with
    shut := by
      intro down
      rw [lives.isUp] at down
      cases down
    holder := by
      intro other later here
      cases here
    closing := by
      intro here
      cases here }

/-- The task goes on with a command. -/
theorem Lives.busy (lives : Lives started handle resources task exited lock position)
    (there : task ≠ .gone) (next : Task) :
    Lives started handle resources next exited lock position :=
  { lives with
    gone := fun none => absurd (lives.gone none) there
    exited := fun done => absurd (lives.exited done) there
    alive := fun _ => lives.alive there }

variable {ahead : Option Ticket} {tickets : Nat} {log : List Event}

theorem Numbered.hold (numbered : Numbered (some stage) ahead tickets log)
    (unsent : ∀ t, next.unsent = some t → stage.unsent = some t)
    (ticket : ∀ t, next.ticket = some t → stage.ticket = some t) :
    Numbered (some next) ahead tickets log :=
  { numbered with
    unsent := fun t here => numbered.unsent t (unsent t here)
    apart := fun t here => numbered.apart t (unsent t here)
    unanswered := fun t here => numbered.unanswered t (ticket t here) }

theorem Numbered.release {stage : Option Stage} (numbered : Numbered stage ahead tickets log) :
    Numbered none ahead tickets log :=
  { numbered with
    unsent := nofun
    apart := nofun
    unanswered := nofun }

end Parts

variable {s : State T} {p : Phase} {c : T} {stage : Stage}

theorem State.Sound.livesAs (sound : s.Sound p) (held : s.lock = .caller c stage) :
    Commands.Lives s.started s.handle s.resources s.task s.exited (.caller c stage) s.position :=
  held ▸ sound.lives

theorem State.Sound.numberedAs (sound : s.Sound p) (held : s.lock = .caller c stage) :
    Numbered (some stage) p.ahead s.tickets s.log := by
  have numbered := sound.numbered
  rwa [held] at numbered

theorem State.Sound.fitsAs (sound : s.Sound p) (held : s.lock = .caller c stage) :
    stage.Fits s p := by
  have fits := sound.fits
  rwa [held] at fits

theorem State.Sound.initsAs (sound : s.Sound p) (held : s.lock = .caller c stage) :
    s.pendingInits = p.inits + stage.inits := by
  have inits := sound.inits
  rwa [held] at inits

/-- A caller that has the mutex goes on to another stage. -/
theorem State.Sound.hold (sound : s.Sound p) (held : s.lock = .caller c stage) {next : Stage}
    (fits : next.Fits s p) (inits : next.inits = stage.inits)
    (unsent : ∀ t, next.unsent = some t → stage.unsent = some t)
    (ticket : ∀ t, next.ticket = some t → stage.ticket = some t) : (s.hold c next).Sound p :=
  { sound with
    shows := ⟨sound.shows.queue, sound.shows.picked, sound.shows.work, sound.shows.token⟩
    lives := (sound.livesAs held).hold
    fits := by
      change next.Fits (s.hold c next) p
      cases next <;> exact fits
    inits := by
      change s.pendingInits = p.inits + next.inits
      rw [inits]
      exact sound.initsAs held
    numbered := (sound.numberedAs held).hold unsent ticket }

theorem State.Sound.resources (sound : s.Sound p) (held : s.lock = .caller c stage) :
    s.resources = true :=
  (sound.lives.up (sound.livesAs held).isUp).2

/-! ## The caller that has the mutex -/

/-- The mutex is given back, where no command is left that is waited for. -/
theorem State.Sound.release [DecidableEq T] (sound : s.Sound p) (held : s.lock = .caller c stage)
    (fits : s.commandTimedOut = false → p = .clear) (inits : stage.inits = 0) :
    (s.release c).Sound p :=
  { sound with
    shows := ⟨sound.shows.queue, sound.shows.picked, sound.shows.work, sound.shows.token⟩
    lives := (sound.livesAs held).release
    fits := fits
    inits := by
      have before := sound.initsAs held
      rw [inits] at before
      exact before
    numbered := sound.numbered.release }

theorem Numbered.hand {cmd : Cmd} {payload : Payload} {patient : Bool} {ahead : Option Ticket}
    {stage : Option Stage} {tickets : Nat} {log : List Event}
    (numbered : Numbered stage ahead tickets log) :
    Numbered (some (.begin ⟨tickets, cmd, payload, patient⟩)) ahead (tickets + 1) log where
  unsent t here := by
    obtain rfl := Option.some.inj here
    exact ⟨Nat.lt_succ_self _, fun known => Nat.lt_irrefl _ (numbered.numbers _ (.inl known))⟩
  waiting t here := by
    obtain ⟨below, new⟩ := numbered.waiting t here
    exact ⟨Nat.lt_succ_of_lt below, new⟩
  apart t here t' ahead := by
    obtain rfl := Option.some.inj here
    exact Nat.ne_of_gt (numbered.waiting t' ahead).1
  unanswered t here := by
    obtain rfl := Option.some.inj here
    exact ⟨Nat.lt_succ_self _, fun known => Nat.lt_irrefl _ (numbered.numbers _ (.inr known))⟩
  numbers n known := Nat.lt_succ_of_lt (numbered.numbers n known)

/-- A command is put on a ticket. -/
theorem State.Sound.hand (sound : s.Sound p) (held : s.lock = .caller c stage)
    (fits : s.commandTimedOut = false → p = .clear) (inits : stage.inits = 0) (cmd : Cmd)
    (patient : Bool) : (s.hand c cmd patient).Sound p :=
  { sound with
    shows := ⟨sound.shows.queue, sound.shows.picked, sound.shows.work, sound.shows.token⟩
    lives := (sound.livesAs held).hold
    fits := fun live => ⟨fits live, rfl⟩
    inits := by
      change s.pendingInits = p.inits + 0
      rw [← inits]
      exact sound.initsAs held
    numbered := sound.numbered.hand }

/-- What no command is with may be written. -/
theorem State.Sound.write (sound : s.Sound .clear) (held : s.lock = .caller c stage)
    (apart : ∀ req io params,
      stage.Fits { s with req := req, reqInit := io, params := params } .clear) (req : Request)
    (io : BusInit) (params : Params) :
    ({ s with req := req, reqInit := io, params := params } : State T).Sound .clear :=
  { sound with
    shows := ⟨sound.shows.queue, sound.shows.picked, sound.shows.work, sound.shows.token⟩
    lives := sound.lives
    fits := by
      change Lock.Fits _ _ s.lock
      rw [held]
      exact apart req io params
    written := nofun
    kept := nofun
    recorded := nofun }

theorem State.live (s : State T) (free : s.commandBlocked ≠ true) : s.commandTimedOut = false := by
  rw [State.commandBlocked, ne_eq, Bool.or_eq_true, not_or] at free
  exact Bool.eq_false_iff.2 free.1

/-- `pending_inits` goes up. -/
theorem State.Sound.count {t : Ticket} (sound : s.Sound p) (held : s.lock = .caller c (.count t)) :
    ({ s with pendingInits := s.pendingInits + 1 }.hold c (.send t)).Sound p := by
  have fits := sound.fitsAs held
  exact { sound with
    shows := ⟨sound.shows.queue, sound.shows.picked, sound.shows.work, sound.shows.token⟩
    lives := (sound.livesAs held).hold
    fits := fits.1
    inits := by
      change s.pendingInits + 1 = p.inits + (Stage.send t).inits
      rw [sound.initsAs held, Stage.inits, if_pos fits.2]
      exact congrArg (· + 1) (Int.add_zero _)
    numbered := (sound.numberedAs held).hold (fun _ here => here) fun _ here => here }

/-- The command is in the queue. -/
theorem State.Sound.send {t : Ticket} (sound : s.Sound .clear)
    (held : s.lock = .caller c (.send t)) (live : s.commandTimedOut = false)
    (found : s.found t.cmd = t.payload) :
    ({ s with cmdQ := some t }.hold c (.wait t)).Sound (.queued t) :=
  have sent : ∀ t', (Stage.wait t).unsent = some t' → (Stage.send t).unsent = some t' := nofun
  { sound with
    shows := ⟨fun _ => rfl, sound.shows.picked, sound.shows.work, sound.shows.token⟩
    lives := (sound.livesAs held).hold
    fits := ⟨live, rfl⟩
    written := by
      intro t' here
      obtain rfl := Option.some.inj here
      exact found
    kept := nofun
    recorded := nofun
    inits := by
      change s.pendingInits = _
      rw [sound.initsAs held]
      exact Int.add_comm _ _
    numbered := { (sound.numberedAs held).hold sent fun _ here => here with
      waiting := by
        intro t' here
        obtain rfl := Option.some.inj here
        exact (sound.numberedAs held).unsent _ rfl
      apart := nofun } }

/-- The caller takes the semaphore. -/
theorem State.Sound.take {t : Ticket} (sound : s.Sound (.given t))
    (held : s.lock = .caller c (.wait t)) (live : s.commandTimedOut = false) :
    ({ s with cmdDone := false }.hold c (.took t)).Sound .clear :=
  { sound with
    shows := ⟨sound.shows.queue, sound.shows.picked, sound.shows.work, fun _ => rfl⟩
    lives := (sound.livesAs held).hold
    fits := ⟨live, rfl, sound.recorded t rfl⟩
    written := nofun
    kept := nofun
    recorded := nofun
    inits := sound.initsAs held
    numbered := (sound.numberedAs held).hold nofun fun _ here => here }

/-- Nobody waits for the command any more. -/
theorem State.Sound.expire {t : Ticket} (sound : s.Sound p)
    (held : s.lock = .caller c (.expired t)) :
    ({ s with commandTimedOut := true }.hold c (.ended t (.failed errTimeout))).Sound p :=
  { sound with
    shows := ⟨sound.shows.queue, sound.shows.picked, sound.shows.work, sound.shows.token⟩
    lives := (sound.livesAs held).hold
    fits := ⟨nofun, nofun⟩
    inits := sound.initsAs held
    numbered := (sound.numberedAs held).hold nofun fun _ here => here }

theorem Truthful.answer {log : List Event} (truthful : Truthful log) {t : Ticket} {answer : Answer}
    {out : Option BusInit} (new : t.number ∉ log.filterMap Event.answeredNumber)
    (known : ∀ rc, answer = .result rc →
      ∃ io, Recorded log t rc io ∧ (t.cmd.initializes = true → out = some io)) :
    Truthful (log ++ [.answered t answer out]) where
  own t' found here := by
    rcases List.mem_append.1 here with before | now
    · exact truthful.own t' found before
    · cases List.mem_singleton.1 now
  once := by
    rw [List.filterMap_append]
    exact (List.append_nil _).symm ▸ truthful.once
  unchanged t' found rc io here := by
    rcases List.mem_append.1 here with before | now
    · exact truthful.unchanged t' found rc io before
    · cases List.mem_singleton.1 now
  results t' rc out' here := by
    rcases List.mem_append.1 here with before | now
    · obtain ⟨found, io, finished, same⟩ := truthful.results t' rc out' before
      exact ⟨found, io, List.mem_append_left _ finished, same⟩
    · cases List.mem_singleton.1 now
      obtain ⟨io, ⟨found, finished⟩, same⟩ := known rc rfl
      exact ⟨found, io, List.mem_append_left _ finished, same⟩
  answers := by
    rw [List.filterMap_append]
    refine List.nodup_append.2 ⟨truthful.answers, List.nodup_singleton _, ?_⟩
    rintro n before m now rfl
    obtain rfl : n = t.number := List.mem_singleton.1 now
    exact new before

/-- What the log says of the numbers, once an answer is added. -/
theorem Numbered.answer {t : Ticket} {answer : Answer} {out : Option BusInit}
    {ahead : Option Ticket} {tickets : Nat} {log : List Event}
    (numbered : Numbered (some (.leave t answer out)) ahead tickets log) :
    Numbered none ahead tickets (log ++ [.answered t answer out]) := by
  have started : (log ++ [Event.answered t answer out]).filterMap Event.startedNumber =
      log.filterMap Event.startedNumber := by
    rw [List.filterMap_append]
    exact List.append_nil _
  refine ⟨nofun, ?_, nofun, nofun, fun n known => ?_⟩
  · rw [started]
    exact numbered.waiting
  · rw [started, List.filterMap_append] at known
    rcases known with known | known
    · exact numbered.numbers n (.inl known)
    · rcases List.mem_append.1 known with before | now
      · exact numbered.numbers n (.inr before)
      · obtain rfl : n = t.number := List.mem_singleton.1 now
        exact (numbered.unanswered t rfl).1

/-- The call returns to its caller. -/
theorem State.Sound.leave [DecidableEq T] {t : Ticket} {answer : Answer} {out : Option BusInit}
    (sound : s.Sound p) (held : s.lock = .caller c (.leave t answer out)) :
    ({ s with log := s.log ++ [Event.answered t answer out] }.release c).Sound p := by
  have fits := sound.fitsAs held
  have numbered := sound.numberedAs held
  have released := sound.release held fits.1 rfl
  exact { released with
    shows := ⟨released.shows.queue, released.shows.picked, released.shows.work,
      released.shows.token⟩
    lives := released.lives
    fits := fits.1
    recorded := by
      intro t' done
      obtain ⟨found, finished⟩ := sound.recorded t' done
      exact ⟨found, List.mem_append_left _ finished⟩
    numbered := numbered.answer
    truthful := sound.truthful.answer (numbered.unanswered t rfl).2 fits.2 }

theorem State.Sound.setParam (sound : s.Sound .clear) {call : Call}
    (held : s.lock = .caller c (.granted call)) (live : s.commandTimedOut = false) (param : Param)
    (value : Bool) :
    (s.setParam param value).Sound .clear ∧
      (s.setParam param value).lock = .caller c (.granted call) ∧
      (s.setParam param value).commandTimedOut = false := by
  have written : ∀ params : Params,
      ({ s with params := params } : State T).Sound .clear ∧ s.lock = .caller c (.granted call) ∧
        s.commandTimedOut = false :=
    fun params => ⟨sound.write held (fun _ _ _ => ⟨live, rfl⟩) s.req s.reqInit params, held, live⟩
  cases param with
  | checksumTx => exact written _
  | kLineOnly =>
      unfold State.setParam
      dsimp only
      split
      · exact ⟨sound, held, live⟩
      · exact written _

/-- Whatever the caller with the mutex does next. -/
theorem State.Sound.proceed [DecidableEq T] (sound : s.Sound p)
    (held : s.lock = .caller c stage) : ∃ p', (s.proceed c stage).Sound p' := by
  have fits := sound.fitsAs held
  cases stage with
  | locked call =>
      have checked : (s.hold c (if s.commandBlocked then .refused else .granted call)).Sound p := by
        by_cases blocked : s.commandBlocked = true
        · rw [if_pos blocked]
          exact sound.hold held fits rfl (fun t here => by cases here) fun t here => by cases here
        · rw [if_neg blocked]
          have live := s.live blocked
          exact sound.hold held ⟨live, fits live⟩ rfl (fun t here => by cases here)
            fun t here => by cases here
      cases call with
      | stopComm => exact ⟨p, sound.hand held fits rfl .stopComm false⟩
      | tx data flags controlled => exact ⟨p, checked⟩
      | init fiveBaud io => exact ⟨p, checked⟩
      | setParam param value => exact ⟨p, checked⟩
  | granted call =>
      obtain ⟨live, rfl⟩ := fits
      refine ⟨.clear, ?_⟩
      have refused : (s.hold c .refused).Sound .clear :=
        sound.hold held (fun _ => rfl) rfl (fun t here => by cases here) fun t here => by cases here
      cases call with
      | stopComm => exact sound.release held (fun _ => rfl) rfl
      | tx data flags controlled =>
          unfold State.proceed
          dsimp only
          split
          · exact refused
          case h_2 framed _ =>
            have written := sound.write held (fun _ _ _ => ⟨live, rfl⟩)
              { data := framed, flags, controlled } s.reqInit s.params
            exact written.hand held (fun _ => rfl) rfl .tx controlled
      | init fiveBaud io =>
          have written := sound.write held (fun _ _ _ => ⟨live, rfl⟩) s.req
            { io with address := if io.address = 0 then initAddrObd else io.address } s.params
          exact written.hand held (fun _ => rfl) rfl _ false
      | setParam param value =>
          obtain ⟨set, still, alive⟩ := sound.setParam held live param value
          exact set.hold still (fun _ => rfl) rfl (fun t here => by cases here)
            fun t here => by cases here
  | refused => exact ⟨p, sound.release held fits rfl⟩
  | begin t =>
      refine ⟨p, ?_⟩
      unfold State.proceed
      dsimp only
      by_cases blocked : s.commandBlocked = true
      · rw [if_pos blocked]
        exact sound.hold held ⟨fun live => (fits live).1, nofun⟩ rfl (fun t here => by cases here)
          fun _ here => here
      · rw [if_neg blocked]
        have live := s.live blocked
        obtain ⟨clear, found⟩ := fits live
        by_cases initializes : t.cmd.initializes = true
        · rw [if_pos initializes]
          exact sound.hold held ⟨⟨live, clear, found⟩, initializes⟩ rfl (fun _ here => here)
            fun _ here => here
        · rw [if_neg initializes]
          exact sound.hold held ⟨live, clear, found⟩ (if_neg initializes) (fun _ here => here)
            fun _ here => here
  | count t => exact ⟨p, sound.count held⟩
  | send t =>
      obtain ⟨live, rfl, found⟩ := fits
      refine ⟨.queued t, ?_⟩
      have empty : s.cmdQ = none := sound.shows.queue (sound.resources held)
      unfold State.proceed
      dsimp only
      rw [empty]
      exact sound.send held live found
  | undo t => exact fits.elim
  | wait t =>
      obtain ⟨live, mine⟩ := fits
      unfold State.proceed
      dsimp only
      split
      case isTrue done =>
        have token := sound.shows.token (sound.resources held)
        rw [done] at token
        cases p with
        | given t' =>
            obtain rfl := Option.some.inj mine
            exact ⟨.clear, sound.take held live⟩
        | clear | queued _ | pending _ | running _ | stored _ | told _ => cases token
      case isFalse => exact ⟨p, sound⟩
  | expired t => exact ⟨p, sound.expire held⟩
  | took t =>
      obtain ⟨live, rfl, recorded⟩ := fits
      refine ⟨.clear, sound.hold held ⟨fun _ => rfl, ?_⟩ rfl (fun t here => by cases here)
        fun _ here => here⟩
      rintro rc same
      cases same
      exact ⟨live, recorded⟩
  | ended t answer =>
      refine ⟨p, sound.hold held ⟨fits.1, ?_⟩ rfl (fun t here => by cases here)
        fun _ here => here⟩
      intro rc same
      obtain ⟨live, recorded⟩ := fits.2 rc same
      exact ⟨s.reqInit, recorded, fun initializes => by rw [initializes, live]; rfl⟩
  | leave t answer out => exact ⟨p, sound.leave held⟩

/-! ## The task -/

/-- What the task does to a command that is under way is nothing to the caller that has the mutex,
which waits for it or is not concerned with it. -/
theorem Lock.Fits.task {lock : Lock T} {next : State T} {p' : Phase} (fits : lock.Fits s p)
    (busy : p ≠ .clear) (same : p'.ticket = p.ticket)
    (timedOut : next.commandTimedOut = s.commandTimedOut) (log : s.log ⊆ next.log) :
    lock.Fits next p' := by
  have orphan : (s.commandTimedOut = false → p = .clear) →
      next.commandTimedOut = false → p' = .clear := by
    intro clear live
    rw [timedOut] at live
    exact absurd (clear live) busy
  cases lock with
  | free => exact orphan fits
  | closing => exact orphan fits
  | caller c stage =>
      cases stage with
      | locked call => exact orphan fits
      | refused => exact orphan fits
      | granted call => exact absurd fits.2 busy
      | begin t =>
          intro live
          rw [timedOut] at live
          exact absurd (fits live).1 busy
      | count t => exact absurd fits.1.2.1 busy
      | send t => exact absurd fits.2.1 busy
      | undo t => exact fits.elim
      | wait t => exact ⟨timedOut.trans fits.1, same.trans fits.2⟩
      | expired t => exact ⟨timedOut.trans fits.1, same.trans fits.2⟩
      | took t => exact absurd fits.2.1 busy
      | ended t answer =>
          refine ⟨orphan fits.1, fun rc result => ?_⟩
          exact absurd (fits.1 (fits.2 rc result).1) busy
      | leave t answer out =>
          refine ⟨orphan fits.1, fun rc result => ?_⟩
          obtain ⟨io, ⟨found, finished⟩, copied⟩ := fits.2 rc result
          exact ⟨io, ⟨found, log finished⟩, copied⟩

theorem Phase.eq_queued {t : Ticket} (queue : p.queue = some t) : p = .queued t := by
  cases p with
  | queued t' => rw [Option.some.inj queue]
  | clear | pending _ | running _ | stored _ | told _ | given _ => cases queue

theorem Phase.eq_pending {t : Ticket} (picked : p.picked = some t) : p = .pending t := by
  cases p with
  | pending t' => rw [Option.some.inj picked]
  | clear | queued _ | running _ | stored _ | told _ | given _ => cases picked

theorem State.Shows.running (shows : s.Shows p) {t : Ticket} (task : s.task = .running t) :
    p = .running t := by
  have work := shows.work
  rw [task] at work
  cases p with
  | running t' => cases work; rfl
  | clear | queued _ | pending _ | stored _ | told _ | given _ => cases work

theorem State.Shows.stored (shows : s.Shows p) {t : Ticket} (task : s.task = .stored t) :
    p = .stored t := by
  have work := shows.work
  rw [task] at work
  cases p with
  | stored t' => cases work; rfl
  | clear | queued _ | pending _ | running _ | told _ | given _ => cases work

theorem State.Shows.told (shows : s.Shows p) {t : Ticket} (task : s.task = .told t) :
    p = .told t := by
  have work := shows.work
  rw [task] at work
  cases p with
  | told t' => cases work; rfl
  | clear | queued _ | pending _ | running _ | stored _ | given _ => cases work

/-- The task receives the command from the queue. -/
theorem State.Sound.receive {t : Ticket} (sound : s.Sound (.queued t)) :
    ({ s with cmdQ := none, cmd := t, commandPending := true } : State T).Sound (.pending t) :=
  { sound with
    shows := ⟨fun _ => rfl, rfl, sound.shows.work, sound.shows.token⟩
    lives := sound.lives
    fits := sound.fits.task nofun rfl rfl fun _ here => here
    kept := nofun
    recorded := nofun }

theorem Truthful.start {log : List Event} (truthful : Truthful log) {t : Ticket}
    (new : t.number ∉ log.filterMap Event.startedNumber) :
    Truthful (log ++ [.started t t.payload]) where
  own t' found here := by
    rcases List.mem_append.1 here with before | now
    · exact truthful.own t' found before
    · cases List.mem_singleton.1 now
      rfl
  once := by
    rw [List.filterMap_append]
    refine List.nodup_append.2 ⟨truthful.once, List.nodup_singleton _, ?_⟩
    rintro n before m now rfl
    obtain rfl : n = t.number := List.mem_singleton.1 now
    exact new before
  unchanged t' found rc io here := by
    rcases List.mem_append.1 here with before | now
    · exact truthful.unchanged t' found rc io before
    · cases List.mem_singleton.1 now
  results t' rc out here := by
    rcases List.mem_append.1 here with before | now
    · obtain ⟨found, io, finished, same⟩ := truthful.results t' rc out before
      exact ⟨found, io, List.mem_append_left _ finished, same⟩
    · cases List.mem_singleton.1 now
  answers := by
    rw [List.filterMap_append]
    exact (List.append_nil _).symm ▸ truthful.answers

theorem Numbered.start {t : Ticket} {found : Payload} {stage : Option Stage} {tickets : Nat}
    {log : List Event} (numbered : Numbered stage (some t) tickets log) :
    Numbered stage none tickets (log ++ [.started t found]) := by
  have answered : (log ++ [Event.started t found]).filterMap Event.answeredNumber =
      log.filterMap Event.answeredNumber := by
    rw [List.filterMap_append]
    exact List.append_nil _
  refine ⟨fun t' here => ?_, nofun, fun _ _ _ here => (nomatch here), ?_, fun n known => ?_⟩
  · obtain ⟨less, unknown⟩ := numbered.unsent t' here
    refine ⟨less, fun known => ?_⟩
    rw [List.filterMap_append] at known
    rcases List.mem_append.1 known with before | now
    · exact unknown before
    · exact numbered.apart t' here t rfl (List.mem_singleton.1 now)
  · rw [answered]
    exact numbered.unanswered
  · rw [answered, List.filterMap_append] at known
    rcases known with known | known
    · rcases List.mem_append.1 known with before | now
      · exact numbered.numbers n (.inl before)
      · obtain rfl : n = t.number := List.mem_singleton.1 now
        exact (numbered.waiting t rfl).1
    · exact numbered.numbers n (.inr known)

/-- The task begins with the command that it has received. -/
theorem State.Sound.dispatch (sound : s.Sound (.pending s.cmd)) (idle : s.task = .loop) :
    ({ s with
      commandPending := false
      task := .running s.cmd
      log := s.log ++ [.started s.cmd (s.found s.cmd.cmd)] } : State T).Sound (.running s.cmd) := by
  have written : s.found s.cmd.cmd = s.cmd.payload := sound.written s.cmd rfl
  have there : s.task ≠ .gone := by
    rw [idle]
    exact nofun
  exact { sound with
    shows := ⟨sound.shows.queue, rfl, rfl, sound.shows.token⟩
    lives := sound.lives.busy there _
    fits := sound.fits.task nofun rfl rfl (List.subset_append_left _ _)
    written := nofun
    kept := by
      intro t here
      cases here
      exact ⟨congrArg Payload.asked written, fun _ => written⟩
    recorded := nofun
    numbered := sound.numbered.start
    truthful := by
      change Truthful (s.log ++ [Event.started s.cmd (s.found s.cmd.cmd)])
      rw [written]
      exact sound.truthful.start (sound.numbered.waiting s.cmd rfl).2 }

/-- The result of an initialization is no part of what its caller asked with. -/
theorem State.asked_store (s : State T) (result : InitResult) (cmd : Cmd) :
    (({ s with reqInit := s.reqInit.store result } : State T).found cmd).asked =
      (s.found cmd).asked := by
  cases cmd <;> rfl

/-- An initialization writes its result to what its caller gave. -/
theorem State.Sound.work {t : Ticket} (sound : s.Sound (.running t))
    (initializes : t.cmd.initializes = true) (result : InitResult) :
    ({ s with reqInit := s.reqInit.store result } : State T).Sound (.running t) :=
  { sound with
    shows := ⟨sound.shows.queue, sound.shows.picked, sound.shows.work, sound.shows.token⟩
    lives := sound.lives
    fits := sound.fits.task nofun rfl rfl fun _ here => here
    written := nofun
    kept := by
      intro t' here
      cases here
      refine ⟨(s.asked_store result t.cmd).trans (sound.kept t rfl).1, fun plain => ?_⟩
      rw [initializes] at plain
      cases plain
    recorded := nofun }

theorem Truthful.finish {log : List Event} (truthful : Truthful log) {t : Ticket} {found : Payload}
    {rc : Int} {io : BusInit} (kept : found.asked = t.payload.asked ∧
      (t.cmd.initializes = false → found = t.payload)) :
    Truthful (log ++ [.finished t found rc io]) where
  own t' found' here := by
    rcases List.mem_append.1 here with before | now
    · exact truthful.own t' found' before
    · cases List.mem_singleton.1 now
  once := by
    rw [List.filterMap_append]
    exact (List.append_nil _).symm ▸ truthful.once
  unchanged t' found' rc' io' here := by
    rcases List.mem_append.1 here with before | now
    · exact truthful.unchanged t' found' rc' io' before
    · cases List.mem_singleton.1 now
      exact kept
  results t' rc' out here := by
    rcases List.mem_append.1 here with before | now
    · obtain ⟨found', io', finished, same⟩ := truthful.results t' rc' out before
      exact ⟨found', io', List.mem_append_left _ finished, same⟩
    · cases List.mem_singleton.1 now
  answers := by
    rw [List.filterMap_append]
    exact (List.append_nil _).symm ▸ truthful.answers

theorem Numbered.finish {t : Ticket} {found : Payload} {rc : Int} {io : BusInit}
    {stage : Option Stage} {ahead : Option Ticket} {tickets : Nat} {log : List Event}
    (numbered : Numbered stage ahead tickets log) :
    Numbered stage ahead tickets (log ++ [.finished t found rc io]) := by
  have started : (log ++ [Event.finished t found rc io]).filterMap Event.startedNumber =
      log.filterMap Event.startedNumber := by
    rw [List.filterMap_append]
    exact List.append_nil _
  have answered : (log ++ [Event.finished t found rc io]).filterMap Event.answeredNumber =
      log.filterMap Event.answeredNumber := by
    rw [List.filterMap_append]
    exact List.append_nil _
  refine ⟨?_, ?_, numbered.apart, ?_, ?_⟩
  · rw [started]
    exact numbered.unsent
  · rw [started]
    exact numbered.waiting
  · rw [answered]
    exact numbered.unanswered
  · rw [started, answered]
    exact numbered.numbers

/-- The task has the result of its command. -/
theorem State.Sound.finish {t : Ticket} (sound : s.Sound (.running t)) (task : s.task = .running t)
    (rc : Int) :
    ({ s with
      result := rc
      task := .stored t
      log := s.log ++ [.finished t (s.found t.cmd) rc s.reqInit] } : State T).Sound
        (.stored t) := by
  have there : s.task ≠ .gone := by
    rw [task]
    exact nofun
  exact { sound with
    shows := ⟨sound.shows.queue, sound.shows.picked, rfl, sound.shows.token⟩
    lives := sound.lives.busy there _
    fits := sound.fits.task nofun rfl rfl (List.subset_append_left _ _)
    written := nofun
    kept := nofun
    recorded := by
      intro t' here
      obtain rfl := Option.some.inj here
      exact ⟨_, List.mem_append_right _ (List.mem_singleton_self _)⟩
    numbered := sound.numbered.finish
    truthful := sound.truthful.finish (sound.kept t rfl) }

/-- The initialization is counted no more. -/
theorem State.Sound.tell {t : Ticket} (sound : s.Sound (.stored t)) (task : s.task = .stored t) :
    ({ s with
      pendingInits := if t.cmd.initializes then s.pendingInits - 1 else s.pendingInits
      task := .told t } : State T).Sound (.told t) := by
  have there : s.task ≠ .gone := by
    rw [task]
    exact nofun
  exact { sound with
    shows := ⟨sound.shows.queue, sound.shows.picked, rfl, sound.shows.token⟩
    lives := sound.lives.busy there _
    fits := sound.fits.task nofun rfl rfl fun _ here => here
    written := nofun
    kept := nofun
    inits := by
      have before := sound.inits
      simp only [Phase.inits] at before ⊢
      rw [before]
      split
      · omega
      · rfl
    numbered := sound.numbered }

/-- The task gives the semaphore. -/
theorem State.Sound.give {t : Ticket} (sound : s.Sound (.told t)) (task : s.task = .told t) :
    ({ s with cmdDone := true, task := .loop } : State T).Sound (.given t) := by
  have there : s.task ≠ .gone := by
    rw [task]
    exact nofun
  exact { sound with
    shows := ⟨sound.shows.queue, sound.shows.picked, rfl, fun _ => rfl⟩
    lives := sound.lives.busy there _
    fits := sound.fits.task nofun rfl rfl fun _ here => here
    written := nofun
    kept := nofun
    numbered := sound.numbered }

/-- The task exits. -/
theorem State.Sound.stop (sound : s.Sound p) (task : s.task = .loop) :
    ({ s with task := .gone, exited := true } : State T).Sound p :=
  { sound with
    shows := ⟨sound.shows.queue, sound.shows.picked, by
      have work := sound.shows.work
      rw [task] at work
      exact work, sound.shows.token⟩
    lives := { sound.lives with
      gone := fun _ => rfl
      exited := fun _ => rfl
      alive := fun there => absurd rfl there } }

theorem State.Sound.stall (sound : s.Sound p) :
    ({ s with uartTxUnresolved := true } : State T).Sound p :=
  { sound with
    shows := ⟨sound.shows.queue, sound.shows.picked, sound.shows.work, sound.shows.token⟩
    lives := sound.lives }

/-! ## What is shared -/

/-- No command is with the task, or on its way to it. -/
def State.Unused (s : State T) : Prop :=
  s.task = .gone ∨ s.task = .loop ∧ s.cmdQ = none ∧ s.commandPending = false

theorem State.Sound.unused (sound : s.Sound .clear) : s.Unused := by
  have work := sound.shows.work
  cases task : s.task with
  | gone => exact .inl task
  | loop =>
      have there : s.resources = true := sound.lives.alive (by rw [task]; exact nofun)
      refine .inr ⟨task, sound.shows.queue there, ?_⟩
      have picked := sound.shows.picked
      by_contra pending
      rw [if_pos (Bool.eq_true_of_not_eq_false pending)] at picked
      cases picked
  | running t | stored t | told t =>
      rw [task] at work
      cases work

theorem Phase.inits_eq (p : Phase) :
    p.inits = 0 ∨ p.inits = 1 ∧ ∃ t, p.ticket = some t ∧ t.cmd.initializes = true := by
  cases p with
  | clear | told _ | given _ => exact .inl rfl
  | queued t | pending t | running t | stored t =>
      by_cases initializes : t.cmd.initializes = true
      · exact .inr ⟨if_pos initializes, t, rfl, initializes⟩
      · exact .inl (if_neg initializes)

theorem Lock.inits_eq (lock : Lock T) :
    (lock.stage.map Stage.inits).getD 0 = 0 ∨ (lock.stage.map Stage.inits).getD 0 = 1 ∧
      ∃ c t, lock = .caller c (.send t) ∧ t.cmd.initializes = true := by
  cases lock with
  | free | closing => exact .inl rfl
  | caller c stage =>
      cases stage with
      | send t =>
          by_cases initializes : t.cmd.initializes = true
          · exact .inr ⟨if_pos initializes, c, t, rfl, initializes⟩
          · exact .inl (if_neg initializes)
      | locked _ | granted _ | refused | begin _ | count _ | undo _ | wait _ | expired _ | took _
      | ended _ _ | leave _ _ _ => exact .inl rfl

/-- A command that is under way, and that nobody has given up, is waited for. -/
theorem Lock.Fits.waits {lock : Lock T} (fits : lock.Fits s p) (busy : p ≠ .clear)
    (live : s.commandTimedOut = false) :
    ∃ c stage, lock = .caller c stage ∧ stage.ticket = p.ticket := by
  cases lock with
  | free => exact absurd (fits live) busy
  | closing => exact absurd (fits live) busy
  | caller c stage =>
      refine ⟨c, stage, rfl, ?_⟩
      cases stage with
      | locked _ => exact absurd (fits live) busy
      | refused => exact absurd (fits live) busy
      | granted _ => exact absurd fits.2 busy
      | begin _ => exact absurd (fits live).1 busy
      | count _ => exact absurd fits.1.2.1 busy
      | send _ => exact absurd fits.2.1 busy
      | undo _ => exact fits.elim
      | wait _ => exact fits.2.symm
      | expired _ => exact fits.2.symm
      | took _ => exact absurd fits.2.1 busy
      | ended _ _ => exact absurd (fits.1 live) busy
      | leave _ _ _ => exact absurd (fits.1 live) busy

/-- The command is about to be sent, waits for the task, or is with it. -/
def State.UnderWay (s : State T) (t : Ticket) : Prop :=
  (∃ c, s.lock = .caller c (.send t)) ∨ s.cmdQ = some t ∨
    (s.commandPending = true ∧ s.cmd = t) ∨ s.task = .running t ∨ s.task = .stored t

/-- The command that is counted in a phase can be seen, as long as the queue is there. -/
theorem State.Shows.underWay (shows : s.Shows p) (there : s.resources = true) (some : p.inits ≠ 0) :
    ∃ t, s.UnderWay t ∧ t.cmd.initializes = true := by
  have counts {t : Ticket} (counted : (if t.cmd.initializes = true then (1 : Int) else 0) ≠ 0) :
      t.cmd.initializes = true := by
    by_contra plain
    exact counted (if_neg plain)
  cases p with
  | clear | told _ | given _ => exact absurd rfl some
  | queued t => exact ⟨t, .inr (.inl (shows.queue there)), counts some⟩
  | pending t =>
      have picked := shows.picked
      split at picked
      case isTrue pending =>
        exact ⟨t, .inr (.inr (.inl ⟨pending, Option.some.inj picked⟩)), counts some⟩
      case isFalse => cases picked
  | running t =>
      have work := shows.work
      refine ⟨t, .inr (.inr (.inr (.inl ?_))), counts some⟩
      cases task : s.task <;> rw [task] at work <;> cases work
      rfl
  | stored t =>
      have work := shows.work
      refine ⟨t, .inr (.inr (.inr (.inr ?_))), counts some⟩
      cases task : s.task <;> rw [task] at work <;> cases work
      rfl

/-- At most one initialization is counted. It is under way while the queue is there, and its caller
has the mutex as long as nobody has given one up. -/
theorem State.Sound.counted (sound : s.Sound p) :
    (0 ≤ s.pendingInits ∧ s.pendingInits ≤ 1) ∧
      (s.pendingInits ≠ 0 → s.resources = true →
        ∃ t, s.UnderWay t ∧ t.cmd.initializes = true) ∧
      (s.pendingInits ≠ 0 → s.commandTimedOut = false → ∃ c stage t,
        s.lock = .caller c stage ∧ stage.ticket = some t ∧ t.cmd.initializes = true) := by
  have inits := sound.inits
  have fits := sound.fits
  rcases p.inits_eq with none | ⟨one, t, here, initializes⟩
  · rcases s.lock.inits_eq with none' | ⟨one, c, t, held, initializes⟩
    · rw [none, none'] at inits
      rw [inits]
      exact ⟨by decide, fun some => absurd rfl some, fun some => absurd rfl some⟩
    · rw [none, one] at inits
      rw [inits]
      exact ⟨by decide, fun _ _ => ⟨t, .inl ⟨c, held⟩, initializes⟩,
        fun _ _ => ⟨c, _, t, held, rfl, initializes⟩⟩
  · have busy : p ≠ .clear := by
      rintro rfl
      cases here
    rcases s.lock.inits_eq with none | ⟨-, c, t', held, -⟩
    · rw [one, none] at inits
      rw [inits]
      refine ⟨by decide, fun _ there => ?_, fun _ live => ?_⟩
      · exact sound.shows.underWay there (by rw [one]; decide)
      · obtain ⟨c, stage, held, same⟩ := fits.waits busy live
        exact ⟨c, stage, t, held, same.trans here, initializes⟩
    · rw [held] at fits
      exact absurd fits.2.1 busy

theorem State.Sound.deleted (sound : s.Sound p) (none : s.resources = false) :
    s.task = .gone ∧ ∀ c, s.position c = .idle := by
  constructor
  · by_contra there
    rw [sound.lives.alive there] at none
    cases none
  · apply sound.lives.shut
    by_contra started
    rw [(sound.lives.up (Bool.eq_true_of_not_eq_false started)).2] at none
    cases none

/-! ## The callers outside, and the driver's life -/

variable [DecidableEq T]

theorem Lives.moveTo {started handle resources exited : Bool} {task : Task} {lock : Lock T}
    {position : T → Position} (lives : Lives started handle resources task exited lock position)
    {next : Position} (outside : position c ≠ .inside) (up : started = true ∨ next = .idle) :
    Lives started handle resources task exited lock (Function.update position c next) :=
  { lives with
    shut := by
      intro down other
      by_cases here : other = c
      · subst here
        rw [Function.update_self]
        rcases up with up | idle
        · rw [down] at up
          cases up
        · exact idle
      · rw [Function.update_of_ne here]
        exact lives.shut down other
    holder := by
      intro other stage held
      have inside := lives.holder other stage held
      have apart : other ≠ c := by
        rintro rfl
        exact outside inside
      rw [Function.update_of_ne apart]
      exact inside }

theorem State.Sound.moveTo (sound : s.Sound p) {position : Position}
    (outside : s.position c ≠ .inside) (up : s.started = true ∨ position = .idle) :
    (s.moveTo c position).Sound p :=
  { sound with
    shows := ⟨sound.shows.queue, sound.shows.picked, sound.shows.work, sound.shows.token⟩
    lives := sound.lives.moveTo outside up }

theorem Lives.lock {started handle resources exited : Bool} {task : Task} {position : T → Position}
    (lives : Lives started handle resources task exited .free position) (up : started = true) :
    Lives started handle resources task exited (.caller c stage)
      (Function.update position c .inside) :=
  { lives with
    shut := by
      intro down
      rw [down] at up
      cases up
    holder := by
      intro other stage held
      obtain ⟨rfl, -⟩ := Lock.caller.inj held
      exact Function.update_self ..
    closing := by
      intro here
      cases here }

/-- A caller takes the mutex. -/
theorem State.Sound.lock (sound : s.Sound p) (free : s.lock = .free) (call : Call)
    (up : s.started = true) :
    ({ s with
      lock := .caller c (.locked call)
      position := Function.update s.position c .inside } : State T).Sound p := by
  have fits := sound.fits
  have inits := sound.inits
  have lives := sound.lives
  rw [free] at fits inits
  rw [State.Lives, free] at lives
  exact { sound with
    shows := ⟨sound.shows.queue, sound.shows.picked, sound.shows.work, sound.shows.token⟩
    lives := lives.lock up
    fits := fits
    inits := inits
    numbered := { sound.numbered.release with
      unsent := by
        intro t here
        cases here
      apart := by
        intro t here
        cases here
      unanswered := by
        intro t here
        cases here } }

/-- Whatever a caller without the mutex does next. -/
theorem State.Sound.enter (sound : s.Sound p) (c : T) : (s.enter c).Sound p := by
  have up : s.position c ≠ .idle → s.started = true := by
    intro busy
    by_contra down
    exact busy (sound.lives.shut (Bool.eq_false_iff.2 down) c)
  unfold State.enter
  extract_lets lock
  have locked : ∀ call, s.started = true → (lock call).Sound p := by
    intro call started
    dsimp only [lock]
    split
    case h_1 free => exact sound.lock free call started
    case h_2 => exact sound
  split
  case h_1 => exact sound
  case h_2 => exact sound
  case h_3 call here =>
    have started := up (by rw [here]; exact nofun)
    have outside : s.position c ≠ .inside := by
      rw [here]
      exact nofun
    split
    · exact locked _ started
    · exact locked _ started
    · split
      · exact sound.moveTo outside (.inr rfl)
      · exact sound.moveTo outside (.inl started)
    · split
      · exact sound.moveTo outside (.inr rfl)
      · exact sound.moveTo outside (.inl started)
  case h_4 call here => exact locked call (up (by rw [here]; exact nofun))

omit [DecidableEq T] in
/-- `kline_release`, where the task is gone. -/
theorem State.Sound.releaseResources (sound : s.Sound p) (gone : s.task = .gone)
    (down : s.started = false) (clean : Bool) : (s.releaseResources clean).Sound p := by
  unfold State.releaseResources
  split
  · exact sound
  · exact { sound with
      shows := ⟨nofun, sound.shows.picked, sound.shows.work, nofun⟩
      lives := { sound.lives with
        up := by
          intro started
          rw [down] at started
          cases started
        exited := nofun
        alive := fun there => absurd gone there } }

omit [DecidableEq T] in
/-- The mutex changes hands between the closing of the driver and nobody. -/
theorem State.Sound.unlocked (sound : s.Sound p) {lock : Lock T}
    (before : s.lock = .free ∨ s.lock = .closing) (after : lock = .free ∨ lock = .closing)
    (down : s.started = false) : ({ s with lock := lock } : State T).Sound p := by
  have idle : s.lock.stage = none := by
    rcases before with here | here
    · rw [here]
      rfl
    · rw [here]
      rfl
  have later : lock.stage = none := by
    rcases after with rfl | rfl
    · rfl
    · rfl
  have clear : s.commandTimedOut = false → p = .clear := by
    have fits := sound.fits
    rcases before with here | here
    · rw [here] at fits
      exact fits
    · rw [here] at fits
      exact fits
  exact { sound with
    shows := ⟨sound.shows.queue, sound.shows.picked, sound.shows.work, sound.shows.token⟩
    lives := { sound.lives with
      holder := by
        intro c stage held
        change lock = _ at held
        rw [held] at later
        cases later
      closing := fun _ => down }
    fits := by
      rcases after with rfl | rfl
      · exact clear
      · exact clear
    inits := by
      change s.pendingInits = p.inits + (lock.stage.map Stage.inits).getD 0
      rw [sound.inits, idle, later]
    numbered := by
      change Numbered lock.stage _ _ _
      rw [later]
      exact sound.numbered.release }

omit [DecidableEq T] in
/-- The task is told to stop. -/
theorem State.Sound.request (sound : s.Sound p) :
    ({ s with stopRequested := true } : State T).Sound p :=
  { sound with
    shows := ⟨sound.shows.queue, sound.shows.picked, sound.shows.work, sound.shows.token⟩
    lives := sound.lives }

omit [DecidableEq T] in
/-- The task has exited, and the driver knows. -/
theorem State.Sound.reap (sound : s.Sound p) (gone : s.task = .gone) (down : s.started = false) :
    ({ s with exited := false, handle := false } : State T).Sound p :=
  { sound with
    shows := ⟨sound.shows.queue, sound.shows.picked, sound.shows.work, sound.shows.token⟩
    lives := { sound.lives with
      up := by
        intro started
        rw [down] at started
        cases started
      gone := fun _ => gone
      exited := nofun } }

variable [Fintype T]

/-- `kline_open`. -/
theorem State.Sound.open (sound : s.Sound p) (rest : s.AtRest) (handle : ¬ s.handle)
    (opening : Opening) (down : ¬ s.started) : ∃ p', (s.step (.open opening)).Sound p' := by
  unfold State.step
  dsimp only
  split
  case isFalse => exact ⟨p, sound⟩
  case isTrue =>
    have gone := sound.lives.gone (Bool.eq_false_iff.2 handle)
    have idle : s.lock.stage = none := by
      rw [rest.1]
      rfl
    have clear : ∀ next : State T, Lock.Fits next .clear s.lock := by
      intro next
      rw [rest.1]
      exact fun _ => rfl
    have reset : s.reset.Sound .clear :=
      { sound with
        shows := ⟨fun _ => rfl, rfl, by
          change s.task.work = none
          rw [gone]
          rfl, fun _ => rfl⟩
        lives := { sound.lives with exited := nofun }
        fits := clear _
        written := nofun
        kept := nofun
        recorded := nofun
        inits := by
          change 0 = Phase.inits .clear + (s.lock.stage.map Stage.inits).getD 0
          rw [idle]
          rfl
        numbered := { sound.numbered with
          waiting := nofun
          apart := fun _ _ _ none => by cases none } }
    refine ⟨.clear, ?_⟩
    cases opening with
    | up =>
        exact { reset with
          shows := ⟨fun _ => rfl, rfl, rfl, fun _ => rfl⟩
          lives := { sound.lives with
            shut := nofun
            closing := by
              intro here
              change s.lock = .closing at here
              rw [rest.1] at here
              cases here
            up := fun _ => ⟨rfl, rfl⟩
            gone := nofun
            exited := nofun
            alive := fun _ => rfl }
          fits := clear _ }
    | down =>
        exact { reset with
          shows := ⟨nofun, reset.shows.picked, reset.shows.work, nofun⟩
          lives := { reset.lives with
            up := fun started => absurd started down
            alive := fun there => absurd gone there }
          fits := clear _ }
    | stuck =>
        exact { reset with
          shows := ⟨reset.shows.queue, reset.shows.picked, reset.shows.work, reset.shows.token⟩
          lives := reset.lives
          fits := clear _ }

omit [DecidableEq T] [Fintype T] in
theorem State.Sound.shutDown (sound : s.Sound p) (rest : ∀ c, s.position c = .idle) :
    ({ s with started := false } : State T).Sound p :=
  { sound with
    shows := ⟨sound.shows.queue, sound.shows.picked, sound.shows.work, sound.shows.token⟩
    lives := { sound.lives with
      shut := fun _ => rest
      closing := fun _ => rfl
      up := nofun } }

/-- Every turn keeps what is said of the driver. -/
theorem State.Sound.step (sound : s.Sound p) (turn : Turn T) :
    ∃ p', (s.step turn).Sound p' := by
  cases turn with
  | call c call =>
      unfold State.step
      dsimp only
      split
      case isTrue idle =>
        exact ⟨p, sound.moveTo (by rw [idle.1]; exact nofun) (.inl idle.2)⟩
      case isFalse => exact ⟨p, sound⟩
  | enter c => exact ⟨p, sound.enter c⟩
  | proceed =>
      unfold State.step
      dsimp only
      split
      case h_1 c stage held => exact sound.proceed held
      case h_2 => exact ⟨p, sound⟩
  | expire =>
      unfold State.step
      dsimp only
      split
      case h_1 c t held =>
        split
        · exact ⟨p, sound⟩
        · have fits := sound.fits
          rw [held] at fits
          exact ⟨p, sound.hold held fits rfl (fun t here => by cases here) fun _ here => here⟩
      case h_2 => exact ⟨p, sound⟩
  | receive =>
      unfold State.step
      dsimp only
      split
      case h_1 => exact ⟨p, sound⟩
      case h_2 => exact ⟨p, sound⟩
      case h_3 t queue alive =>
        obtain rfl := Phase.eq_queued ((sound.shows.queue (sound.lives.alive alive)).symm.trans queue)
        exact ⟨_, sound.receive⟩
  | dispatch =>
      unfold State.step
      dsimp only
      split
      case isTrue both =>
        have picked := sound.shows.picked
        rw [if_pos both.2] at picked
        obtain rfl := Phase.eq_pending picked.symm
        exact ⟨_, sound.dispatch both.1⟩
      case isFalse => exact ⟨p, sound⟩
  | stall =>
      unfold State.step
      dsimp only
      split
      · exact ⟨p, sound⟩
      · exact ⟨p, sound.stall⟩
  | work result =>
      unfold State.step
      dsimp only
      split
      case h_1 t task =>
        split
        case isTrue initializes =>
          obtain rfl := sound.shows.running task
          exact ⟨_, sound.work initializes result⟩
        case isFalse => exact ⟨p, sound⟩
      case h_2 => exact ⟨p, sound⟩
  | finish rc =>
      unfold State.step
      dsimp only
      split
      case h_1 t task =>
        obtain rfl := sound.shows.running task
        exact ⟨_, sound.finish task rc⟩
      case h_2 => exact ⟨p, sound⟩
  | tell =>
      unfold State.step
      dsimp only
      split
      case h_1 t task =>
        obtain rfl := sound.shows.stored task
        exact ⟨_, sound.tell task⟩
      case h_2 t task =>
        obtain rfl := sound.shows.told task
        exact ⟨_, sound.give task⟩
      case h_3 => exact ⟨p, sound⟩
  | stop =>
      unfold State.step
      dsimp only
      split
      case isTrue both => exact ⟨p, sound.stop both.1⟩
      case isFalse => exact ⟨p, sound⟩
  | «open» opening =>
      by_cases may : s.AtRest ∧ ¬ s.started ∧ ¬ s.handle ∧ ¬ s.uartInstalled
      · exact sound.open may.1 may.2.2.1 opening may.2.1
      · unfold State.step
        dsimp only
        rw [if_neg may]
        exact ⟨p, sound⟩
  | close clean =>
      unfold State.step
      dsimp only
      split
      case isTrue rest =>
        have shut : ({ s with started := false } : State T).Sound p := sound.shutDown rest.2
        split
        · have closing : ({ s with started := false, lock := .closing } : State T).Sound p :=
            shut.unlocked (.inl rest.1) (.inr rfl) rfl
          exact ⟨p, closing.request⟩
        case isFalse none =>
          exact ⟨p, shut.releaseResources (sound.lives.gone (Bool.eq_false_iff.2 none)) rfl clean⟩
      case isFalse => exact ⟨p, sound⟩
  | reap clean =>
      unfold State.step
      dsimp only
      split
      case isTrue both =>
        have down := sound.lives.closing both.1
        have unlocked : ({ s with lock := .free } : State T).Sound p :=
          sound.unlocked (.inr both.1) (.inl rfl) down
        exact ⟨p, (unlocked.reap (sound.lives.exited both.2) down).releaseResources
          (sound.lives.exited both.2) down clean⟩
      case isFalse => exact ⟨p, sound⟩
  | giveUp =>
      unfold State.step
      dsimp only
      split
      case isTrue closing =>
        exact ⟨p, sound.unlocked (.inr closing) (.inl rfl) (sound.lives.closing closing)⟩
      case isFalse => exact ⟨p, sound⟩

end Invariant

/-! ## Runs -/

section Runs

variable {T : Type*} [DecidableEq T] [Fintype T]

theorem run_sound (turns : List (Turn T)) :
    ∃ p, (run State.step ({} : State T) turns).Sound p := by
  apply run_invariant fun s : State T => ∃ p, s.Sound p
  · rintro s turn ⟨p, sound⟩
    exact sound.step turn
  · exact ⟨.clear, sound_start⟩

/-- What the callers and the task share is left alone while it is in use. -/
structure State.Guarded (s : State T) : Prop where
  inits : 0 ≤ s.pendingInits ∧ s.pendingInits ≤ 1
  counted : s.pendingInits ≠ 0 → s.resources = true → ∃ t, s.UnderWay t ∧ t.cmd.initializes = true
  waited : s.pendingInits ≠ 0 → s.commandTimedOut = false → ∃ c stage t,
    s.lock = .caller c stage ∧ stage.ticket = some t ∧ t.cmd.initializes = true
  deleted : s.resources = false → s.task = .gone ∧ ∀ c, s.position c = .idle
  written : ∀ turn, (s.step turn).req ≠ s.req ∨ (s.step turn).params ≠ s.params → s.Unused
  initialized : ∀ turn, (s.step turn).reqInit ≠ s.reqInit →
    s.Unused ∨ ∃ t, s.task = .running t ∧ t.cmd.initializes = true

variable {s : State T} {p : Phase}

/-- What a caller writes for the task, and the flags of its commands. -/
def State.shared (s : State T) : Request × Params × BusInit :=
  (s.req, s.params, s.reqInit)

omit [Fintype T] in
theorem shared_enter (s : State T) (c : T) : (s.enter c).shared = s.shared := by
  unfold State.enter
  extract_lets lock
  have same : ∀ call, (lock call).shared = s.shared := by
    intro call
    dsimp only [lock]
    split
    · rfl
    · rfl
  split
  · rfl
  · rfl
  · split
    · exact same _
    · exact same _
    · split <;> rfl
    · split <;> rfl
  · exact same _

omit [Fintype T] in
/-- Of the stages of a caller, one writes what is shared. -/
theorem shared_proceed (s : State T) (c : T) {stage : Stage}
    (other : ∀ call, stage ≠ .granted call) : (s.proceed c stage).shared = s.shared := by
  cases stage with
  | granted call => exact absurd rfl (other call)
  | locked call => cases call <;> rfl
  | send t =>
      unfold State.proceed
      dsimp only
      split <;> rfl
  | wait t =>
      unfold State.proceed
      dsimp only
      split <;> rfl
  | refused | begin _ | count _ | undo _ | expired _ | took _ | ended _ _ | leave _ _ _ => rfl

omit [DecidableEq T] [Fintype T] in
theorem shared_releaseResources (s : State T) (clean : Bool) :
    (s.releaseResources clean).shared = s.shared := by
  unfold State.releaseResources
  split <;> rfl

/-- Who may write what is shared: the caller that was not blocked, `kline_open` without a task, and
the task to its own initialization. -/
theorem shared_step (s : State T) (turn : Turn T) :
    (s.step turn).shared = s.shared ∨ (∃ c call, s.lock = .caller c (.granted call)) ∨
      s.handle = false ∨ ∃ t io, s.task = .running t ∧ t.cmd.initializes = true ∧
        (s.step turn).shared = (s.req, s.params, io) := by
  cases turn with
  | call c call =>
      left
      unfold State.step
      dsimp only
      split <;> rfl
  | enter c => exact .inl (shared_enter s c)
  | proceed =>
      unfold State.step
      dsimp only
      split
      case h_1 c stage held =>
        by_cases other : ∃ call, stage = .granted call
        · obtain ⟨call, rfl⟩ := other
          exact .inr (.inl ⟨c, call, held⟩)
        · exact .inl (shared_proceed s c fun call here => other ⟨call, here⟩)
      case h_2 => exact .inl rfl
  | expire =>
      left
      unfold State.step
      dsimp only
      split
      · split <;> rfl
      · rfl
  | receive =>
      left
      unfold State.step
      dsimp only
      split <;> rfl
  | dispatch =>
      left
      unfold State.step
      dsimp only
      split <;> rfl
  | stall =>
      left
      unfold State.step
      dsimp only
      split <;> rfl
  | work result =>
      unfold State.step
      dsimp only
      split
      case h_1 t task =>
        split
        case isTrue initializes => exact .inr (.inr (.inr ⟨t, _, task, initializes, rfl⟩))
        case isFalse => exact .inl rfl
      case h_2 => exact .inl rfl
  | finish rc =>
      left
      unfold State.step
      dsimp only
      split <;> rfl
  | tell =>
      left
      unfold State.step
      dsimp only
      split <;> rfl
  | stop =>
      left
      unfold State.step
      dsimp only
      split <;> rfl
  | «open» opening =>
      unfold State.step
      dsimp only
      split
      case isTrue may => exact .inr (.inr (.inl (Bool.eq_false_iff.2 may.2.2.1)))
      case isFalse => exact .inl rfl
  | close clean =>
      left
      unfold State.step
      dsimp only
      split
      · split
        · rfl
        · exact shared_releaseResources _ clean
      · rfl
  | reap clean =>
      left
      unfold State.step
      dsimp only
      split
      · exact shared_releaseResources _ clean
      · rfl
  | giveUp =>
      left
      unfold State.step
      dsimp only
      split <;> rfl

omit [DecidableEq T] [Fintype T] in
theorem State.Sound.granted {c : T} {call : Call} (sound : s.Sound p)
    (held : s.lock = .caller c (.granted call)) : s.Unused := by
  have fits := sound.fits
  rw [held] at fits
  obtain ⟨-, rfl⟩ := fits
  exact sound.unused

/-- In every state that the callers, the task and the openings of the driver reach: what a caller
has written for the task, and the two flags of its commands, are only written where no command is
with the task; the initialization that is counted is under way while the queue is there; and where
the queues are deleted, the task is gone and no call is inside. -/
theorem shared_state_guarded (turns : List (Turn T)) :
    (run State.step ({} : State T) turns).Guarded := by
  obtain ⟨p, sound⟩ := run_sound turns
  generalize run State.step ({} : State T) turns = s at sound
  have parts : ∀ {next : State T}, next.shared = s.shared →
      next.req = s.req ∧ next.params = s.params ∧ next.reqInit = s.reqInit := by
    intro next same
    simpa [State.shared] using same
  refine ⟨sound.counted.1, sound.counted.2.1, sound.counted.2.2, sound.deleted,
    fun turn changed => ?_, fun turn changed => ?_⟩
  · rcases shared_step s turn with same | ⟨c, call, held⟩ | none | ⟨t, io, -, -, same⟩
    · have kept := parts same
      rcases changed with changed | changed
      · exact absurd kept.1 changed
      · exact absurd kept.2.1 changed
    · exact sound.granted held
    · exact .inl (sound.lives.gone none)
    · have kept : (s.step turn).req = s.req ∧ (s.step turn).params = s.params := by
        simp only [State.shared, Prod.mk.injEq] at same
        exact ⟨same.1, same.2.1⟩
      rcases changed with changed | changed
      · exact absurd kept.1 changed
      · exact absurd kept.2 changed
  · rcases shared_step s turn with same | ⟨c, call, held⟩ | none | ⟨t, io, task, initializes, -⟩
    · exact absurd (parts same).2.2 changed
    · exact .inl (sound.granted held)
    · exact .inl (.inl (sound.lives.gone none))
    · exact .inr ⟨t, task, initializes⟩

end Runs

end OpenDiag.Kline.Commands
