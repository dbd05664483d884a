import OpenDiag.Elm327.Command
import OpenDiag.Lib.Lines
import OpenDiag.Lib.Run

/-!
# Lines of the ELM327 interpreter

`elm327_feed_byte` assembles the lines of the client in one buffer, keeps the last command in
another, and dispatches at each carriage return. The session below has neither of the buffers.
Commands that reset the interpreter or select another front-end are left out.
-/

namespace OpenDiag.Elm327

/-- The size of `cmdbuf` and of `lastcmd`. -/
def cmdSize : Nat := 32

/-- `elm327_line_t`, and what the rest of the interpreter has. -/
structure Assembler (σ : Type*) where
  cmd : LineBuffer UInt8 cmdSize
  lastcmd : Block UInt8 cmdSize
  overflow : Bool
  rest : σ

/-- The line as `elm327_fe_start` leaves it. -/
def Assembler.start {σ : Type*} (rest : σ) : Assembler σ :=
  ⟨⟨.fill cmdSize 0, 0, by decide⟩, .fill cmdSize 0, false, rest⟩

/-- What is stripped. -/
def isBlank (val : UInt8) : Bool :=
  val = ascii ' ' || val = ascii '\n' || val = ascii '\t' || val = 0

/-- Letters are upper case. -/
def upper (val : UInt8) : UInt8 :=
  if ascii 'a' ≤ val ∧ val ≤ ascii 'z' then val - 0x20 else val

namespace Interpreter

variable {σ : Type*} (i : Interpreter σ)

/-- The arm of `elm327_feed_byte` for the end of a line. -/
def endLine (e : Assembler σ) : Assembler σ × List Event :=
  let cmd := e.cmd.put 0
  let (e, events) :=
    if e.overflow then (e, [.text (str "?\r\r>")])
    else if cmd.count = 0 then
      let (rest, events) := i.parseCommand e.rest e.lastcmd.cells
      ({ e with rest }, events)
    else
      let (rest, events) := i.parseCommand e.rest cmd.cells.cells
      ({ e with rest, lastcmd := e.lastcmd.store 0 cmd.text }, events)
  ({ e with cmd := cmd.rewind, overflow := false }, events)

/-- `elm327_feed_byte`. -/
def feedByte (e : Assembler σ) (val : UInt8) : Assembler σ × List Event :=
  let echoed := if i.echo e.rest then [.echo val] else []
  if isBlank val then (e, echoed)
  else
    let val := upper val
    if val = ascii '\r' then
      let (e, events) := i.endLine { e with cmd := e.cmd.put val }
      (e, echoed ++ events)
    else
      let (cmd, wrapped) := e.cmd.push val
      (if wrapped then { e with cmd, overflow := true } else { e with cmd }, echoed)

/-- `elm327_fe_feed`. -/
def feed (e : Assembler σ) (data : List UInt8) : Assembler σ × List Event :=
  (final i.feedByte e data, (outputs i.feedByte e data).flatten)

end Interpreter

/-! ## The session -/

/-- What a client and the interpreter share: the unfinished line and the last command. -/
structure Session (σ : Type*) where
  line : List UInt8
  last : List UInt8
  rest : σ

/-- What a byte adds to its line, if it is not stripped. -/
def kept (val : UInt8) : Option UInt8 :=
  if isBlank val then none else some (upper val)

/-- The command that is dispatched for a line. -/
def command (last line : List UInt8) : List UInt8 :=
  if line = [] then last else line

namespace Session

variable {σ : Type*} (i : Interpreter σ)

/-- The end of a line. -/
def endLine (s : Session σ) : Session σ × List Event :=
  if cmdSize - 1 ≤ s.line.length then ({ s with line := [] }, [.text (str "?\r\r>")])
  else
    let cmd := command s.last s.line
    let (rest, events) := i.parseCommand s.rest cmd
    (⟨[], cmd, rest⟩, events)

/-- A byte of the client. -/
def feedByte (s : Session σ) (val : UInt8) : Session σ × List Event :=
  let echoed := if i.echo s.rest then [.echo val] else []
  match kept val with
  | none => (s, echoed)
  | some val =>
    if val = ascii '\r' then ((s.endLine i).1, echoed ++ (s.endLine i).2)
    else ({ s with line := s.line ++ [val] }, echoed)

/-- A chunk of bytes. -/
def feed (s : Session σ) (data : List UInt8) : Session σ × List Event :=
  (final (feedByte i) s data, (outputs (feedByte i) s data).flatten)

end Session

/-! ## The interpreter keeps the session -/

section Simulation

variable {σ : Type*} {i : Interpreter σ} {e : Assembler σ} {s : Session σ}

/-- The buffers hold the unfinished line and the last command. -/
structure Keeps (e : Assembler σ) (s : Session σ) : Prop where
  line : e.cmd.Holds e.overflow s.line
  plain : 0 ∉ s.line
  last : cString e.lastcmd.cells = s.last
  rest : e.rest = s.rest

/-- Text is read to its terminator. -/
theorem cString_append_nul {text : List UInt8} (plain : 0 ∉ text) (more : List UInt8) :
    cString (text ++ 0 :: more) = text := by
  have before : ∀ c ∈ text, (fun c : UInt8 => decide (c ≠ 0)) c = true := fun c member =>
    decide_eq_true fun nul => plain (nul ▸ member)
  rw [cString, List.takeWhile_append_of_pos before]
  exact List.append_nil text

theorem keeps_start (rest : σ) : Keeps (Assembler.start rest) ⟨[], [], rest⟩ :=
  ⟨LineBuffer.holds_nil rfl, nofun, rfl, rfl⟩

/-- A line is parsed as the text before its terminator. -/
theorem parseCommand_congr {buf cmd : List UInt8} (same : cString buf = cmd) (plain : 0 ∉ cmd)
    (rest : σ) : i.parseCommand rest buf = i.parseCommand rest cmd := by
  unfold Interpreter.parseCommand
  rw [same, cString_of_no_nul plain]

theorem zero_not_mem_cString (buf : List UInt8) : 0 ∉ cString buf := by
  intro member
  simpa using List.mem_takeWhile_imp member

/-- The text of a line is at the front of its buffer. -/
theorem Keeps.cString_put (keeps : Keeps e s) (fits : e.overflow = false) :
    (e.cmd.put 0).text = s.line ++ [0] ∧ cString (e.cmd.put 0).cells.cells = s.line := by
  have holds := keeps.line
  rw [fits] at holds
  have text := holds.text_put 0
  refine ⟨text, ?_⟩
  have front : (e.cmd.put 0).cells.cells.take (e.cmd.count + 1) = s.line ++ [0] := text
  rw [← List.take_append_drop (e.cmd.count + 1) (e.cmd.put 0).cells.cells, front,
    List.append_assoc]
  exact cString_append_nul keeps.plain _

/-- A character that is put into the buffer is put at the end of the line. -/
theorem Keeps.put (keeps : Keeps e s) (val : UInt8) : Keeps { e with cmd := e.cmd.put val } s :=
  ⟨keeps.line.put val, keeps.plain, keeps.last, keeps.rest⟩

/-- The state at the start of a line. -/
theorem keeps_fresh {cmd : LineBuffer UInt8 cmdSize} {lastcmd : Block UInt8 cmdSize}
    {last : List UInt8} (same : cString lastcmd.cells = last) (rest : σ) :
    Keeps ⟨cmd.rewind, lastcmd, false, rest⟩ ⟨[], last, rest⟩ :=
  ⟨LineBuffer.holds_nil rfl, nofun, same, rfl⟩

/-- What `memcpy` keeps of a command. -/
theorem cString_store (lastcmd : Block UInt8 cmdSize) {line : List UInt8} (plain : 0 ∉ line)
    (fits : line.length < cmdSize - 1) :
    cString (lastcmd.store 0 (line ++ [0])).cells = line := by
  have room : 0 + (line ++ [0]).length ≤ lastcmd.cells.length := by
    rw [lastcmd.length_cells, List.length_append, List.length_singleton, cmdSize]
    rw [cmdSize] at fits
    omega
  change cString (overwrite lastcmd.cells 0 (line ++ [0])) = line
  rw [overwrite_eq room, List.take_zero, List.nil_append, List.append_assoc]
  exact cString_append_nul plain _

/-- The end of a line is handled as the session handles it. -/
theorem Keeps.endLine (keeps : Keeps e s) :
    Keeps (i.endLine e).1 (s.endLine i).1 ∧ (i.endLine e).2 = (s.endLine i).2 := by
  have put := keeps.cString_put
  obtain ⟨cmd, lastcmd, overflow, rest⟩ := e
  obtain ⟨line, last, rest'⟩ := s
  obtain ⟨holds, plain, same, rfl⟩ := keeps
  unfold Interpreter.endLine Session.endLine
  dsimp only at holds plain same put ⊢
  cases overflow with
  | true =>
      rw [if_pos (holds.spilled_iff.1 rfl)]
      exact ⟨keeps_fresh same rest, rfl⟩
  | false =>
      obtain ⟨text, whole⟩ := put rfl
      have fits := holds.length_lt
      have count : (cmd.put 0).count = line.length := holds.count rfl
      rw [if_neg (Nat.not_le.2 fits), if_neg Bool.false_ne_true, count, text]
      by_cases empty : line = []
      · have again := parseCommand_congr (i := i) same (same ▸ zero_not_mem_cString _) rest
        rw [if_pos (by rw [empty]; rfl), command, if_pos empty, again]
        exact ⟨keeps_fresh same _, rfl⟩
      · have alone := parseCommand_congr (i := i) whole plain rest
        have stored := cString_store lastcmd plain fits
        rw [if_neg fun none => empty (List.length_eq_zero_iff.1 none), command, if_neg empty,
          alone]
        exact ⟨keeps_fresh stored _, rfl⟩

theorem kept_ne_zero {val kept' : UInt8} (keep : kept val = some kept') : kept' ≠ 0 := by
  have all : ∀ n : Fin 256, kept (UInt8.ofNat n) ≠ some 0 := by decide +kernel
  rintro rfl
  exact absurd keep (by simpa using all ⟨val.toNat, val.toNat_lt⟩)

/-- A character does to the buffers what it does to the session. -/
theorem Keeps.feedByte (keeps : Keeps e s) (val : UInt8) :
    Keeps (i.feedByte e val).1 (s.feedByte i val).1 ∧
      (i.feedByte e val).2 = (s.feedByte i val).2 := by
  unfold Interpreter.feedByte Session.feedByte
  rw [keeps.rest]
  cases keep : kept val with
  | none =>
      have blank : isBlank val = true := by
        by_contra some
        simp [kept, some] at keep
      rw [if_pos blank]
      exact ⟨keeps, rfl⟩
  | some val' =>
      have blank : isBlank val = false ∧ upper val = val' := by
        cases blank : isBlank val with
        | true => simp [kept, blank] at keep
        | false => simpa [kept, blank] using keep
      obtain ⟨blank, rfl⟩ := blank
      rw [blank, if_neg Bool.false_ne_true]
      dsimp only
      by_cases ends : upper val = ascii '\r'
      · rw [if_pos ends, if_pos ends]
        obtain ⟨after, events⟩ := (keeps.put (upper val)).endLine (i := i)
        rw [keeps.rest] at after events
        exact ⟨after, congrArg _ events⟩
      · rw [if_neg ends, if_neg ends]
        refine ⟨?_, rfl⟩
        have plain : 0 ∉ s.line ++ [upper val] := by
          rw [List.mem_append, List.mem_singleton]
          rintro (zero | zero)
          · exact keeps.plain zero
          · exact kept_ne_zero keep zero.symm
        obtain ⟨cmd, lastcmd, overflow, rest⟩ := e
        obtain ⟨holds, -, same, rfl⟩ := keeps
        dsimp only at holds ⊢
        cases overflow with
        | true =>
            have spilled := holds.more (cmd.push (upper val)).1 (upper val)
            split
            · exact ⟨spilled, plain, same, rfl⟩
            · exact ⟨spilled, plain, same, rfl⟩
        | false =>
            have pushed := holds.push (upper val)
            split
            · rename_i wrapped
              rw [wrapped] at pushed
              exact ⟨pushed, plain, same, rfl⟩
            · rename_i wrapped
              rw [Bool.not_eq_true] at wrapped
              rw [wrapped] at pushed
              exact ⟨pushed, plain, same, rfl⟩

/-- So do any characters, by induction on them. -/
theorem Keeps.feed (keeps : Keeps e s) (data : List UInt8) :
    Keeps (i.feed e data).1 (s.feed i data).1 ∧ (i.feed e data).2 = (s.feed i data).2 := by
  have simulates (e : Assembler σ) (s : Session σ) (val : UInt8) (keeps : Keeps e s) :
      Keeps (i.feedByte e val).1 (s.feedByte i val).1 ∧
        (i.feedByte e val).2 = (s.feedByte i val).2 :=
    keeps.feedByte val
  obtain ⟨last, events⟩ := outputs_eq_of_simulation simulates keeps data
  exact ⟨last, congrArg List.flatten events⟩

end Simulation

/-! ## What a stream of bytes leads to -/

/-- The text that is sent, but for the echo. -/
def Event.text? : Event → Option (List UInt8)
  | .text bytes => some bytes
  | _ => none

def Event.note? : Event → Option (List UInt8)
  | .note cmd => some cmd
  | _ => none

/-- How many prompts are sent. -/
def prompts (events : List Event) : Nat :=
  (events.filterMap Event.text?).flatten.count (ascii '>')

/-- The commands that are dispatched. -/
def dispatched (events : List Event) : List (List UInt8) :=
  events.filterMap Event.note?

/-- The commands of lines, and the last of them. -/
def commands (last : List UInt8) : List (List UInt8) → List (List UInt8) × List UInt8
  | [] => ([], last)
  | line :: lines =>
    if cmdSize - 1 ≤ line.length then commands last lines
    else
      let cmd := command last line
      (cmd :: (commands cmd lines).1, (commands cmd lines).2)

/-- What the interpreter calls writes no prompt. -/
structure Interpreter.Quiet {σ : Type*} (i : Interpreter σ) : Prop where
  atCommand : ∀ s cmd, ∀ text ∈ (i.atCommandHandler s cmd).2, ascii '>' ∉ text
  xfer : ∀ which s frame numFrame, ∀ text ∈ (i.xfer which s frame numFrame).2.2, ascii '>' ∉ text

theorem prompts_append (first second : List Event) :
    prompts (first ++ second) = prompts first + prompts second := by
  simp only [prompts, List.filterMap_append, List.flatten_append, List.count_append]

theorem dispatched_append (first second : List Event) :
    dispatched (first ++ second) = dispatched first ++ dispatched second :=
  List.filterMap_append

/-- Commands are read off the lines one by one, and only the last line is carried over. -/
theorem commands_append (last : List UInt8) (first second : List (List UInt8)) :
    commands last (first ++ second) =
      ((commands last first).1 ++ (commands (commands last first).2 second).1,
        (commands (commands last first).2 second).2) := by
  induction first generalizing last with
  | nil => rfl
  | cons line first ih =>
      rw [List.cons_append, commands, commands]
      split
      · exact ih last
      · dsimp only
        rw [ih]
        rfl

/-- An event between the marker of a command and its prompt. -/
def Event.Inner : Event → Prop
  | .echo _ | .exchange .. => True
  | .note _ => False
  | .text bytes => ascii '>' ∉ bytes

/-- What a command says while it runs is no prompt. -/
theorem prompts_of_inner {events : List Event} (inner : ∀ event ∈ events, event.Inner) :
    prompts events = 0 := by
  rw [prompts, List.count_eq_zero, List.mem_flatten]
  rintro ⟨bytes, text, prompt⟩
  obtain ⟨event, member, same⟩ := List.mem_filterMap.1 text
  have plain := inner event member
  cases event with
  | text bytes' =>
      cases same
      exact plain prompt
  | echo _ | note _ | exchange _ _ _ => cases same

/-- Nor does it dispatch another. -/
theorem dispatched_of_inner {events : List Event} (inner : ∀ event ∈ events, event.Inner) :
    dispatched events = [] := by
  refine List.filterMap_eq_nil_iff.2 fun event member => ?_
  have plain := inner event member
  cases event with
  | note _ => exact plain.elim
  | echo _ | text _ | exchange _ _ _ => rfl

namespace Interpreter

variable {σ : Type*} {i : Interpreter σ}

/-- An exchange says nothing but what belongs to its command. -/
theorem Quiet.start (quiet : i.Quiet) (which : Exchange) (s : σ) (frame : List UInt8)
    (numFrame : Int) : ∀ event ∈ (i.start which s frame numFrame).2.2, event.Inner := by
  intro event member
  rcases List.mem_append.1 member with searching | member
  · cases which with
    | search skip =>
        rw [List.mem_singleton.1 searching]
        exact of_decide_eq_false rfl
    | j1850Pwm | j1850Vpw | kline | can => cases searching
  · rcases List.mem_cons.1 member with rfl | sent
    · exact True.intro
    · obtain ⟨text, among, rfl⟩ := List.mem_map.1 sent
      exact quiet.xfer which s frame numFrame text among

/-- A transfer says nothing else, whichever exchange it takes. -/
theorem Quiet.transfer (quiet : i.Quiet) (s : σ) (frame : List UInt8) (numFrame : Int) :
    ∀ event ∈ (i.transfer s frame numFrame).2.2, event.Inner := by
  unfold Interpreter.transfer
  cases (i.protocol s).exchange? with
  | some which => exact quiet.start which s frame numFrame
  | none => exact nofun

theorem Quiet.fallBack (quiet : i.Quiet) (frame : List UInt8) (numFrame : Int)
    {result : σ × Int × List Event} (inner : ∀ event ∈ result.2.2, event.Inner) :
    ∀ event ∈ (i.fallBack frame numFrame result).2.2, event.Inner := by
  obtain ⟨s, rc, events⟩ := result
  rw [Interpreter.fallBack]
  split
  · exact List.forall_mem_append.2 ⟨inner, quiet.start _ _ frame numFrame⟩
  · exact inner

theorem report_inner (rc : Int) : ∀ event ∈ report rc, event.Inner := by
  unfold report
  intro event member
  split at member
  · rw [List.mem_singleton.1 member]
    exact of_decide_eq_false rfl
  split at member
  · cases member
  split at member
  · rw [List.mem_singleton.1 member]
    exact of_decide_eq_false rfl
  · cases member

/-- An answer has nothing but lines of its own command in it, so its prompt is left to the line. -/
theorem Quiet.answer (quiet : i.Quiet) (s : σ) (cmd : List UInt8) :
    ∀ event ∈ (i.answer s cmd).2, event.Inner := by
  have refused : ∀ event ∈ [Event.text (str "?\r")], event.Inner := by
    intro event member
    rw [List.mem_singleton.1 member]
    exact of_decide_eq_false rfl
  unfold Interpreter.answer
  split
  · intro event member
    obtain ⟨text, among, rfl⟩ := List.mem_map.1 member
    exact quiet.atCommand s _ text among
  · dsimp only
    generalize (if cmd.length % 2 = 1 then hexCharToInt _ else -1) = numFrame
    generalize (if cmd.length % 2 = 1 then _ else _) = len
    split
    · exact refused
    split
    · exact refused
    · exact List.forall_mem_append.2
        ⟨quiet.fallBack _ numFrame (quiet.transfer s _ numFrame), report_inner _⟩

/-- A command has one marker and one prompt. -/
theorem Quiet.parseCommand (quiet : i.Quiet) (s : σ) {cmd : List UInt8} (plain : 0 ∉ cmd) :
    prompts (i.parseCommand s cmd).2 = 1 ∧ dispatched (i.parseCommand s cmd).2 = [cmd] := by
  have inner := quiet.answer (i.stopWatch (i.observeLateReplies s)) cmd
  unfold Interpreter.parseCommand
  rw [cString_of_no_nul plain]
  dsimp only
  constructor
  · rw [prompts_append, ← List.singleton_append, prompts_append, prompts_of_inner inner]
    rfl
  · rw [dispatched_append, ← List.singleton_append, dispatched_append, dispatched_of_inner inner]
    rfl

end Interpreter

/-! ## Prompts and dispatches of a session -/

section Session

variable {σ : Type*} {i : Interpreter σ}

/-- Where a line ends. -/
def isReturn (val : UInt8) : Bool :=
  val = ascii '\r'

/-- The lines of a stream that goes on from an unfinished line, once it is stripped. -/
def keptLines (line data : List UInt8) : List (List UInt8) :=
  lines isReturn line (data.filterMap kept)

/-- The prompts and the markers are those of the bytes. -/
structure Accounts (s : Session σ) (data : List UInt8) (events : List Event) (s' : Session σ) :
    Prop where
  prompts : prompts events = data.count (ascii '\r')
  dispatched : dispatched events = (commands s.last (keptLines s.line data)).1
  line : s'.line = openLine isReturn s.line (data.filterMap kept)
  last : s'.last = (commands s.last (keptLines s.line data)).2
  plain : 0 ∉ s'.line ∧ 0 ∉ s'.last

/-- Two parts of a stream are accounted for together. -/
theorem Accounts.trans {s s' s'' : Session σ} {data data' : List UInt8}
    {events events' : List Event} (first : Accounts s data events s')
    (second : Accounts s' data' events' s'') :
    Accounts s (data ++ data') (events ++ events') s'' where
  prompts := by rw [prompts_append, first.prompts, second.prompts, List.count_append]
  dispatched := by
    rw [dispatched_append, first.dispatched, second.dispatched, first.line, first.last, keptLines,
      keptLines, keptLines, List.filterMap_append, lines_append, commands_append]
  line := by rw [second.line, first.line, List.filterMap_append, openLine_append]
  last := by
    rw [second.last, first.line, first.last, keptLines, keptLines, keptLines,
      List.filterMap_append, lines_append, commands_append]
  plain := second.plain

/-- An echo is neither a prompt nor a dispatch. -/
theorem echo_inner (echo : Bool) (val : UInt8) :
    ∀ event ∈ (if echo then [Event.echo val] else []), event.Inner := by
  cases echo with
  | true => exact fun event member => by rw [List.mem_singleton.1 member]; exact True.intro
  | false => exact nofun

theorem kept_return : kept (ascii '\r') = some (ascii '\r') := by
  decide

/-- Only a return is kept as the end of a line. -/
theorem eq_return_of_kept {val : UInt8} (keep : kept val = some (ascii '\r')) :
    val = ascii '\r' := by
  have all : ∀ n : Fin 256, kept (UInt8.ofNat n) = some (ascii '\r') →
      UInt8.ofNat n = ascii '\r' := by
    decide +kernel
  simpa using all ⟨val.toNat, val.toNat_lt⟩ (by simpa using keep)

/-- The end of a line. -/
theorem accounts_endLine (quiet : i.Quiet) (s : Session σ) (line : 0 ∉ s.line)
    (last : 0 ∉ s.last) :
    prompts (s.endLine i).2 = 1 ∧
      dispatched (s.endLine i).2 = (commands s.last [s.line]).1 ∧ (s.endLine i).1.line = [] ∧
      (s.endLine i).1.last = (commands s.last [s.line]).2 ∧ 0 ∉ (s.endLine i).1.last := by
  unfold Session.endLine commands
  split
  · exact ⟨rfl, rfl, rfl, rfl, last⟩
  · have plain : 0 ∉ command s.last s.line := by
      unfold command
      split
      · exact last
      · exact line
    obtain ⟨prompt, note⟩ := quiet.parseCommand s.rest plain
    exact ⟨prompt, note, rfl, rfl, plain⟩

/-- One character is accounted for: it is kept, dropped, or ends a line with one prompt. -/
theorem accounts_feedByte (quiet : i.Quiet) (s : Session σ) (line : 0 ∉ s.line)
    (last : 0 ∉ s.last) (val : UInt8) :
    Accounts s [val] (s.feedByte i val).2 (s.feedByte i val).1 := by
  have echoed := echo_inner (i.echo s.rest) val
  have silent := prompts_of_inner echoed
  have unmarked := dispatched_of_inner echoed
  unfold Session.feedByte
  cases keep : kept val with
  | none =>
      have other : val ≠ ascii '\r' := by
        rintro rfl
        rw [kept_return] at keep
        cases keep
      have none : [val].filterMap kept = [] := by
        rw [List.filterMap_cons_none keep, List.filterMap_nil]
      refine ⟨?_, ?_, ?_, ?_, line, last⟩
      · rw [silent, List.count_singleton, if_neg (by simpa using other)]
      · rw [unmarked, keptLines, none]
        rfl
      · rw [none]
        rfl
      · rw [keptLines, none]
        rfl
  | some val' =>
      have one : [val].filterMap kept = [val'] := by
        rw [List.filterMap_cons_some keep, List.filterMap_nil]
      dsimp only
      by_cases ends : val' = ascii '\r'
      · rw [ends] at keep one
        obtain rfl := eq_return_of_kept keep
        obtain ⟨prompt, note, line', last', plain⟩ := accounts_endLine quiet s line last
        have completed : keptLines s.line [ascii '\r'] = [s.line] := by
          rw [keptLines, one]
          rfl
        rw [if_pos ends]
        refine ⟨?_, ?_, ?_, ?_, ?_, plain⟩
        · rw [prompts_append, silent, prompt]
          rfl
        · rw [dispatched_append, unmarked, note, completed]
          rfl
        · rw [one]
          exact line'
        · rw [completed]
          exact last'
        · rw [line']
          exact nofun
      · have other : val ≠ ascii '\r' := by
          rintro rfl
          rw [kept_return] at keep
          exact ends (Option.some.inj keep).symm
        have goes : isReturn val' = false := decide_eq_false ends
        have completed : keptLines s.line [val] = [] := by
          rw [keptLines, one, lines, if_neg (by rw [goes]; decide), lines]
        rw [if_neg ends]
        refine ⟨?_, ?_, ?_, ?_, ?_, last⟩
        · rw [silent, List.count_singleton, if_neg (by simpa using other)]
        · rw [unmarked, completed]
          rfl
        · rw [one, openLine, goes, if_neg Bool.false_ne_true]
          rfl
        · rw [completed]
          rfl
        · rw [List.mem_append, List.mem_singleton]
          rintro (zero | zero)
          · exact line zero
          · exact kept_ne_zero keep zero.symm

/-- A step at a time. -/
theorem accounts_outputs {Input : Type*} {step : Session σ → Input → Session σ × List Event}
    (bytes : Input → List UInt8)
    (each : ∀ s given, 0 ∉ s.line → 0 ∉ s.last →
      Accounts s (bytes given) (step s given).2 (step s given).1)
    {s : Session σ} (line : 0 ∉ s.line) (last : 0 ∉ s.last) (inputs : List Input) :
    Accounts s (inputs.flatMap bytes) (outputs step s inputs).flatten (final step s inputs) := by
  induction inputs generalizing s with
  | nil => exact ⟨rfl, rfl, rfl, rfl, line, last⟩
  | cons given inputs ih =>
      have first := each s given line last
      exact first.trans (ih first.plain.1 first.plain.2)

/-- So is every stream, by induction on its characters. -/
theorem accounts_feed (quiet : i.Quiet) (s : Session σ) (data : List UInt8) (line : 0 ∉ s.line)
    (last : 0 ∉ s.last) : Accounts s data (s.feed i data).2 (s.feed i data).1 := by
  have accounts := accounts_outputs (fun val => [val])
    (fun s val line last => accounts_feedByte (i := i) quiet s line last val) line last data
  rw [List.flatMap_singleton'] at accounts
  exact accounts

end Session

/-- The front-end of a client that sends its bytes in chunks. -/
def Interpreter.serve {σ : Type*} (i : Interpreter σ) (rest : σ) (chunks : List (List UInt8)) :
    Assembler σ × List Event :=
  (final i.feed (Assembler.start rest) chunks, (outputs i.feed (Assembler.start rest) chunks).flatten)

/-- What the session says of the same bytes. -/
def Session.serve {σ : Type*} (i : Interpreter σ) (rest : σ) (chunks : List (List UInt8)) :
    List Event :=
  (outputs (Session.feed i) ⟨[], [], rest⟩ chunks).flatten

/-- Whatever bytes a client sends, in whatever chunks: all that it is sent is what the session says,
with one prompt for each carriage return, and the dispatched commands are those of the lines. The
place in the buffer stays inside. -/
theorem one_prompt_a_line {σ : Type*} (i : Interpreter σ) (quiet : i.Quiet) (rest : σ)
    (chunks : List (List UInt8)) :
    (i.serve rest chunks).2 = Session.serve i rest chunks ∧
      prompts (i.serve rest chunks).2 = chunks.flatten.count (ascii '\r') ∧
      dispatched (i.serve rest chunks).2 = (commands [] (keptLines [] chunks.flatten)).1 ∧
      (i.serve rest chunks).1.cmd.count < cmdSize := by
  have simulates (e : Assembler σ) (s : Session σ) (data : List UInt8) (keeps : Keeps e s) :
      Keeps (i.feed e data).1 (s.feed i data).1 ∧ (i.feed e data).2 = (s.feed i data).2 :=
    keeps.feed data
  obtain ⟨-, events⟩ := outputs_eq_of_simulation simulates (keeps_start rest) chunks
  have same : (i.serve rest chunks).2 = Session.serve i rest chunks := congrArg List.flatten events
  have started : 0 ∉ (⟨[], [], rest⟩ : Session σ).line := nofun
  have accounts := accounts_outputs id
    (fun s data line last => accounts_feed (i := i) quiet s data line last) started started chunks
  rw [List.flatMap_id] at accounts
  refine ⟨same, ?_, ?_, ?_⟩
  · rw [same]
    exact accounts.prompts
  · rw [same]
    exact accounts.dispatched
  · exact Nat.lt_of_succ_lt (i.serve rest chunks).1.cmd.inside

/-- A command in two chunks, a request, a line that is too long for the buffer, and an empty one,
which repeats the request. -/
def benchChunks : List (List UInt8) :=
  [str "at e", str "0\r01 00\r\n", List.replicate 40 (ascii '0'), str "\r", str "\r"]

theorem one_prompt_a_line_bench :
    let i := benchInterpreter .can11Bit500K
    let chunks := benchChunks
    (i.serve true chunks).2 = Session.serve i true chunks ∧
      prompts (i.serve true chunks).2 = 4 ∧
      dispatched (i.serve true chunks).2 =
        [str "ATE0", str "0100", str "0100"] ∧
      (i.serve true chunks).1.cmd.count < cmdSize := by
  have quiet : (benchInterpreter .can11Bit500K).Quiet := by
    refine ⟨fun echo cmd text member => ?_, fun _ _ _ _ => nofun⟩
    unfold benchInterpreter at member
    dsimp only at member
    split at member
    · rw [List.mem_singleton.1 member]
      decide
    split at member
    · rw [List.mem_singleton.1 member]
      decide
    · rw [List.mem_singleton.1 member]
      decide
  exact one_prompt_a_line _ quiet true benchChunks

end OpenDiag.Elm327
