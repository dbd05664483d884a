import OpenDiag.Slcan.Frontend

/-!
# One answer for each line

What an SLCAN client is told: each non-empty line has one answer, the frames that are received come
between the answers, and the link is given all of it in order. The session below has neither of the
buffers; a line that is too long for the one it would be assembled in is refused.
-/

namespace OpenDiag.Slcan

variable {σ : Type*} {port : CanPort σ}

/-! ## Output -/

namespace Ctx

/-- What has been said: what was written to the link, and what is composed. -/
def said (c : Ctx σ) : List UInt8 :=
  c.writes.flatten ++ c.tx.bytes

/-- The same front-end, but for what it says. -/
structure Says (c : Ctx σ) (text : List UInt8) (c' : Ctx σ) : Prop where
  said : c'.said = c.said ++ text
  cmd : c'.cmd = c.cmd
  discard : c'.discard = c.discard
  bitrate : c'.bitrate = c.bitrate
  bus : c'.bus = c.bus

/-- What is said in two parts is said in order. -/
theorem Says.trans {c c' c'' : Ctx σ} {text text' : List UInt8} (first : c.Says text c')
    (second : c'.Says text' c'') : c.Says (text ++ text') c'' where
  said := by rw [second.said, first.said, List.append_assoc]
  cmd := second.cmd.trans first.cmd
  discard := second.discard.trans first.discard
  bitrate := second.bitrate.trans first.bitrate
  bus := second.bus.trans first.bus

theorem bytes_empty (tx : TxBatch) : tx.empty.bytes = [] :=
  slice_zero tx.cells.cells 0

/-- An empty batch says nothing. -/
theorem bytes_of_len {tx : TxBatch} (none : tx.len = 0) : tx.bytes = [] := by
  rw [TxBatch.bytes, none]
  exact slice_zero _ _

/-- A text that has room is added at the end. -/
theorem bytes_add (tx : TxBatch) (text : List UInt8) (room : text.length ≤ txBuf - tx.len) :
    (tx.add text room).bytes = tx.bytes ++ text := by
  have fits := tx.fits
  have inside : tx.len + text.length ≤ tx.cells.cells.length := by
    rw [tx.cells.length_cells]
    omega
  exact take_overwrite inside

/-- A flush says nothing new. -/
theorem says_flush (c : Ctx σ) : c.Says [] c.flush := by
  unfold flush
  split
  · exact ⟨(List.append_nil _).symm, rfl, rfl, rfl, rfl⟩
  · refine ⟨?_, rfl, rfl, rfl, rfl⟩
    simp only [said, bytes_empty, List.flatten_append, List.flatten_cons, List.flatten_nil,
      List.append_nil]

/-- Nothing is lost where the buffer is full. -/
theorem says_write (c : Ctx σ) {text : List UInt8} (short : text.length ≤ txBuf) :
    c.Says text (c.write text) := by
  unfold write
  rw [dif_neg (by omega)]
  split
  · obtain ⟨said, cmd, discard, bitrate, bus⟩ := c.says_flush
    refine ⟨?_, cmd, discard, bitrate, bus⟩
    rw [List.append_nil] at said
    rw [Ctx.said, bytes_add, ← List.append_assoc, ← said]
    rfl
  · refine ⟨?_, rfl, rfl, rfl, rfl⟩
    rw [Ctx.said, bytes_add, ← List.append_assoc]
    rfl

theorem says_verdict (c : Ctx σ) (ok : Bool) : c.Says (verdict ok) (c.write (verdict ok)) :=
  c.says_write (by rw [verdict, List.length_singleton, txBuf]; omega)

/-- A frame that is printed fits a line. -/
theorem length_printFrame_le (frame : CanFrame) : (printFrame frame).length ≤ lineMax := by
  have data : ((frame.data.load 0 (min frame.dlc 8)).flatMap hexPair).length ≤ 16 := by
    rw [length_flatMap_hexPair, Block.length_load (by omega)]
    omega
  have ids (id : UInt32) (shifts : List UInt32) : (printId id shifts).length = shifts.length :=
    List.length_map _
  unfold printFrame lineMax
  simp only [List.length_append]
  split <;> split <;> simp only [List.length_cons, List.length_nil, ids] <;> omega

theorem says_printFrame (c : Ctx σ) (frame : CanFrame) :
    c.Says (printFrame frame) (c.write (printFrame frame)) :=
  c.says_write (Nat.le_trans (length_printFrame_le frame) (by decide))

/-! ## The answer to a command -/

/-- What comes before the answer. -/
def info (line : List UInt8) : List UInt8 :=
  let letter := line.getD 0 0
  if letter = ascii 'F' then "F00".toList.map ascii
  else if letter = ascii 'V' then "V-082021".toList.map ascii
  else if letter = ascii 'N' then "N2208".toList.map ascii
  else []

/-- What a command makes of a bus and a bit rate, and what it says: `before` and an answer. -/
def Settles (command : Ctx σ → Ctx σ) (bus : σ) (bitrate : UInt32) (before : List UInt8) : Prop :=
  ∃ bus' bitrate' ok, ∀ c : Ctx σ, c.bus = bus → c.bitrate = bitrate →
    Says { c with bus := bus', bitrate := bitrate' } (before ++ verdict ok) (command c)

variable {bus : σ} {bitrate : UInt32}

theorem settles_verdict (ok : Bool) :
    Settles (fun c : Ctx σ => c.write (verdict ok)) bus bitrate [] := by
  refine ⟨bus, bitrate, ok, ?_⟩
  rintro c rfl rfl
  exact c.says_verdict ok

/-- A command that answers by whether a call of the bus succeeds. -/
theorem settles_call (result : σ × Bool) (bitrate' : UInt32) :
    Settles (fun c : Ctx σ =>
      if result.2 then { c with bus := result.1, bitrate := bitrate' }.ack
      else { c with bus := result.1, bitrate := bitrate' }.nack) bus bitrate [] := by
  refine ⟨result.1, bitrate', result.2, fun c _ _ => ?_⟩
  dsimp only
  cases result.2 with
  | true => exact says_verdict _ true
  | false => exact says_verdict _ false

/-- A reply is its text with the mark that it was done. -/
theorem settles_reply (text : String) (short : text.length ≤ txBuf) :
    Settles (fun c : Ctx σ => (c.replyStr text).ack) bus bitrate (text.toList.map ascii) := by
  refine ⟨bus, bitrate, true, ?_⟩
  rintro c rfl rfl
  exact (c.says_write (by rw [List.length_map]; exact short)).trans (says_verdict _ true)

/-- Two commands that do the same where the bus and the bit rate are the given ones. -/
theorem Settles.congr {command command' : Ctx σ → Ctx σ} {before : List UInt8}
    (settles : Settles command bus bitrate before)
    (same : ∀ c : Ctx σ, c.bus = bus → c.bitrate = bitrate → command' c = command c) :
    Settles command' bus bitrate before := by
  obtain ⟨bus', bitrate', ok, told⟩ := settles
  exact ⟨bus', bitrate', ok, fun c at' rate => same c at' rate ▸ told c at' rate⟩

/-- A frame that is sent says nothing beyond its verdict. -/
theorem settles_sendFrame (buf : List UInt8) (rtr ext : Bool) :
    Settles (fun c => c.sendFrame port buf rtr ext) bus bitrate [] := by
  cases isOpen : port.isOpen bus with
  | false =>
      apply (settles_verdict false).congr
      rintro c rfl rfl
      rw [sendFrame, isOpen]
      rfl
  | true =>
      cases parsed : parseFrame buf rtr ext with
      | none =>
          apply (settles_verdict false).congr
          rintro c rfl rfl
          rw [sendFrame, isOpen, parsed]
          rfl
      | some frame =>
          apply (settles_call (port.send bus frame) bitrate).congr
          rintro c rfl rfl
          rw [sendFrame, isOpen, parsed]
          rfl

/-- An opening of the bus says nothing beyond its verdict. -/
theorem settles_openBus : Settles (fun c => c.openBus port) bus bitrate [] := by
  cases isOpen : port.isOpen bus with
  | true =>
      apply (settles_verdict true).congr
      rintro c rfl rfl
      rw [openBus, isOpen]
      rfl
  | false =>
      apply (settles_call (port.openBus bus bitrate) bitrate).congr
      rintro c rfl rfl
      rw [openBus, isOpen]
      rfl

theorem settles_closeBus : Settles (fun c => c.closeBus port) bus bitrate [] := by
  cases current : port.isCurrent bus with
  | false =>
      apply (settles_verdict true).congr
      rintro c rfl rfl
      rw [closeBus, current]
      rfl
  | true =>
      apply (settles_call (port.closeBus bus) bitrate).congr
      rintro c rfl rfl
      rw [closeBus, current]
      rfl

theorem settles_setBitrate (digit : UInt8) :
    Settles (fun c => c.setBitrate port digit) bus bitrate [] := by
  by_cases refused : bitrateOf digit = 0
  · apply (settles_verdict false).congr
    rintro c rfl rfl
    rw [setBitrate, if_pos refused]
    rfl
  · cases isOpen : port.isOpen bus with
    | false =>
        apply (settles_call (bus, true) (bitrateOf digit)).congr
        rintro c rfl rfl
        rw [setBitrate, if_neg refused]
        simp only [isOpen]
        rfl
    | true =>
        apply (settles_call (port.openBus bus (bitrateOf digit)) (bitrateOf digit)).congr
        rintro c rfl rfl
        rw [setBitrate, if_neg refused]
        simp only [isOpen]
        rfl

/-- A command has one answer, which the reply text comes before. -/
theorem settles_parseCommand (port : CanPort σ) (bus : σ) (bitrate : UInt32) (buf : List UInt8) :
    Settles (fun c => c.parseCommand port buf) bus bitrate (info buf) := by
  unfold parseCommand info
  generalize buf.getD 0 0 = letter
  by_cases text : letter = ascii 'F' ∨ letter = ascii 'V' ∨ letter = ascii 'N'
  · rcases text with rfl | rfl | rfl
    · exact settles_reply "F00" (by decide)
    · exact settles_reply "V-082021" (by decide)
    · exact settles_reply "N2208" (by decide)
  · rw [not_or, not_or] at text
    obtain ⟨status, version, serial⟩ := text
    simp only [if_neg status, if_neg version, if_neg serial]
    by_cases opens : letter = ascii 'O'
    · simp only [if_pos opens]
      exact settles_openBus
    by_cases closes : letter = ascii 'C'
    · simp only [if_neg opens, if_pos closes]
      exact settles_closeBus
    simp only [if_neg opens, if_neg closes]
    cases letterKind letter with
    | some kind => exact settles_sendFrame buf kind.1 kind.2
    | none =>
        by_cases rate : letter = ascii 'S'
        · simp only [if_pos rate]
          exact settles_setBitrate _
        by_cases filter : letter = ascii 'M' ∨ letter = ascii 'm'
        · simp only [if_neg rate, if_pos filter]
          exact settles_verdict true
        · simp only [if_neg rate, if_neg filter]
          exact settles_verdict false

end Ctx

/-! ## The session -/

/-- What a client and the front-end share: the bus, the bit rate and the unfinished line. -/
structure Session (σ : Type*) where
  bus : σ
  bitrate : UInt32
  line : List UInt8

/-- Something that is said: what a line is answered, or a frame. -/
inductive Reply where
  | answer (line text : List UInt8)
  | frame (frame : CanFrame)
  deriving DecidableEq

def Reply.text : Reply → List UInt8
  | .answer _ text => text
  | .frame received => printFrame received

/-- The line that is answered. -/
def Reply.line? : Reply → Option (List UInt8)
  | .answer line _ => some line
  | .frame _ => none

namespace Session

/-- What a command makes of the bus and the bit rate, and what it says when nothing else is
composed. -/
def command (port : CanPort σ) (s : Session σ) : Session σ × List UInt8 :=
  let c := Ctx.parseCommand port { Ctx.start s.bus with bitrate := s.bitrate } (s.line ++ [0])
  (⟨c.bus, c.bitrate, []⟩, c.said)

/-- A byte of the client. -/
def feedByte (port : CanPort σ) (s : Session σ) (val : UInt8) : Session σ × List Reply :=
  if val = ascii '\r' then
    if s.line = [] then (s, [])
    else if cmdMax - 1 ≤ s.line.length then
      ({ s with line := [] }, [.answer s.line (Ctx.verdict false)])
    else ((s.command port).1, [.answer s.line (s.command port).2])
  else ({ s with line := s.line ++ [val] }, [])

/-- The frames that are received, at most so many, and what that makes of the bus. -/
def received (port : CanPort σ) (bus : σ) : Nat → σ × List CanFrame
  | 0 => (bus, [])
  | left + 1 =>
    match port.recv bus with
    | (bus, none) => (bus, [])
    | (bus, some frame) => ((received port bus left).1, frame :: (received port bus left).2)

/-- A call of the link task. -/
def step (port : CanPort σ) (s : Session σ) : Call → Session σ × List Reply
  | .feed data => (final (feedByte port) s data, (outputs (feedByte port) s data).flatten)
  | .poll =>
    if port.isOpen s.bus then
      ({ s with bus := (received port s.bus rxBurst).1 },
        (received port s.bus rxBurst).2.map .frame)
    else (s, [])

/-- All that is said in a run. -/
def replies (port : CanPort σ) (s : Session σ) (calls : List Call) : List Reply :=
  (outputs (step port) s calls).flatten

end Session

/-! ## The front-end keeps the session -/

/-- Between the calls nothing is composed, and the buffer holds the unfinished line. -/
structure Keeps (c : Ctx σ) (s : Session σ) : Prop where
  bus : c.bus = s.bus
  bitrate : c.bitrate = s.bitrate
  line : c.cmd.Holds c.discard s.line
  none : c.tx.len = 0

/-- What a call of the front-end and the session both do. -/
structure Answered (c : Ctx σ) (replies : List Reply) (c' : Ctx σ) (s' : Session σ) : Prop where
  keeps : Keeps c' s'
  writes : c'.writes.flatten = c.writes.flatten ++ replies.flatMap Reply.text

theorem keeps_start (bus : σ) : Keeps (Ctx.start bus) ⟨bus, 500000, []⟩ :=
  ⟨rfl, rfl, LineBuffer.holds_nil rfl, rfl⟩

/-- A command says with what is composed what it says alone. -/
theorem parseCommand_eq (port : CanPort σ) {c : Ctx σ} {s : Session σ} (bus : c.bus = s.bus)
    (bitrate : c.bitrate = s.bitrate) :
    let c' := c.parseCommand port (s.line ++ [0])
    c'.said = c.said ++ (s.command port).2 ∧ c'.bus = (s.command port).1.bus ∧
      c'.bitrate = (s.command port).1.bitrate ∧ c'.cmd = c.cmd ∧ c'.discard = c.discard := by
  obtain ⟨bus', bitrate', ok, told⟩ :=
    Ctx.settles_parseCommand port s.bus s.bitrate (s.line ++ [0])
  have here := told c bus bitrate
  have alone := told { Ctx.start s.bus with bitrate := s.bitrate } rfl rfl
  have fresh : Ctx.said { Ctx.start s.bus with bus := bus', bitrate := bitrate' } = [] := rfl
  have text : (s.command port).2 = Ctx.info (s.line ++ [0]) ++ Ctx.verdict ok := by
    rw [← List.nil_append (_ ++ _), ← fresh]
    exact alone.said
  refine ⟨?_, ?_, ?_, here.cmd, here.discard⟩
  · rw [text]
    exact here.said
  · exact here.bus.trans alone.bus.symm
  · exact here.bitrate.trans alone.bitrate.symm

section Steps

variable {c : Ctx σ} {s : Session σ}

theorem said_of_len {c : Ctx σ} (none : c.tx.len = 0) : c.said = c.writes.flatten := by
  rw [Ctx.said, Ctx.bytes_of_len none, List.append_nil]

/-- Where something has been said and the buffer is flushed. -/
theorem writes_flush {d : Ctx σ} {text : List UInt8} (keeps : Keeps c s)
    (said : d.said = c.said ++ text) : d.flush.writes.flatten = c.writes.flatten ++ text := by
  rw [← said_of_len d.len_flush, d.says_flush.said, List.append_nil, said,
    said_of_len keeps.none]

/-- The end of a line, once it has been answered. -/
theorem Keeps.ended {d : Ctx σ} {s' : Session σ} {replies : List Reply} (keeps : Keeps c s)
    (said : d.said = c.said ++ replies.flatMap Reply.text) (bus : d.bus = s'.bus)
    (bitrate : d.bitrate = s'.bitrate) (discard : d.discard = false) (line : s'.line = []) :
    Answered c replies { d with cmd := d.cmd.rewind }.flush s' := by
  have flushed := Ctx.says_flush { d with cmd := d.cmd.rewind }
  refine ⟨⟨flushed.bus.trans bus, flushed.bitrate.trans bitrate, ?_, Ctx.len_flush _⟩,
    writes_flush keeps said⟩
  rw [flushed.cmd, flushed.discard, line]
  exact discard ▸ LineBuffer.holds_nil rfl

/-- A byte that does not end the line says nothing. -/
theorem Keeps.went_on (keeps : Keeps c s) {cmd : LineBuffer UInt8 cmdMax} {discard : Bool}
    {line : List UInt8} (holds : cmd.Holds discard line) :
    Answered c [] { c with cmd, discard } { s with line } :=
  ⟨⟨keeps.bus, keeps.bitrate, holds, keeps.none⟩, (List.append_nil _).symm⟩

/-- A character does to the buffers what it does to the session. -/
theorem Keeps.feedByte (keeps : Keeps c s) (port : CanPort σ) (val : UInt8) :
    Answered c (s.feedByte port val).2 (c.feedByte port val) (s.feedByte port val).1 := by
  obtain ⟨bus, bitrate, holds, none⟩ := id keeps
  unfold Ctx.feedByte Session.feedByte
  by_cases ends : val = ascii '\r'
  · rw [if_pos ends, if_pos ends]
    cases discard : c.discard with
    | true =>
        rw [discard] at holds
        have long := holds.spilled_iff.1 rfl
        have some : s.line ≠ [] := fun empty => absurd (empty ▸ long) (by decide)
        rw [if_pos rfl, if_neg some, if_pos long]
        have answer := Ctx.says_verdict { c with discard := false } false
        refine keeps.ended ?_ (answer.bus.trans bus) (answer.bitrate.trans bitrate)
          answer.discard rfl
        rw [List.flatMap_singleton]
        exact answer.said
    | false =>
        rw [discard] at holds
        have fits := holds.length_lt
        have count := holds.count rfl
        rw [if_neg Bool.false_ne_true]
        by_cases empty : s.line = []
        · rw [if_pos empty, if_neg (by rw [count, empty]; decide)]
          exact keeps.ended (List.append_nil _).symm bus bitrate discard empty
        · have some := List.length_pos_iff.2 empty
          rw [if_neg empty, if_neg (Nat.not_le.2 fits), if_pos (by rw [count]; exact some)]
          obtain ⟨said, bus', bitrate', -, discard'⟩ := parseCommand_eq port
            (c := { c with cmd := c.cmd.put 0, discard := false }) bus bitrate
          dsimp only
          rw [holds.text_put 0]
          refine keeps.ended ?_ bus' bitrate' discard' rfl
          rw [List.flatMap_singleton]
          exact said
  · rw [if_neg ends, if_neg ends]
    cases discard : c.discard with
    | true =>
        rw [discard] at holds
        rw [if_pos rfl]
        have := keeps.went_on (holds.more c.cmd val)
        rw [← discard] at this
        exact this
    | false =>
        rw [discard] at holds
        rw [if_neg Bool.false_ne_true]
        have pushed := keeps.went_on (holds.push val)
        dsimp only
        split
        · rename_i wrapped
          rw [wrapped] at pushed
          exact pushed
        · rename_i wrapped
          rw [Bool.not_eq_true] at wrapped
          rw [wrapped] at pushed
          exact pushed

/-- One after the other. -/
theorem Answered.trans {c' c'' : Ctx σ} {s' s'' : Session σ} {replies replies' : List Reply}
    (first : Answered c replies c' s') (second : Answered c' replies' c'' s'') :
    Answered c (replies ++ replies') c'' s'' :=
  ⟨second.keeps, by
    rw [second.writes, first.writes, List.append_assoc, List.flatMap_append]⟩

/-- So do any characters, by induction on them. -/
theorem Keeps.feed (keeps : Keeps c s) (port : CanPort σ) (data : List UInt8) :
    Answered c (s.step port (.feed data)).2 (c.feed port data)
      (s.step port (.feed data)).1 := by
  induction data generalizing c s with
  | nil => exact ⟨keeps, (List.append_nil _).symm⟩
  | cons val data ih =>
      have first := keeps.feedByte port val
      exact first.trans (ih first.keeps)

/-- What the loop of `slcan_fe_poll` has said. -/
theorem forward_eq (port : CanPort σ) (c : Ctx σ) (left : Nat) :
    (c.forward port left).2 = (Session.received port c.bus left).2.length ∧
      Ctx.Says { c with bus := (Session.received port c.bus left).1 }
        ((Session.received port c.bus left).2.flatMap printFrame) (c.forward port left).1 := by
  induction left generalizing c with
  | zero => exact ⟨rfl, (List.append_nil _).symm, rfl, rfl, rfl, rfl⟩
  | succ left ih =>
      unfold Ctx.forward Session.received
      rcases port.recv c.bus with ⟨bus, _ | frame⟩
      · exact ⟨rfl, (List.append_nil _).symm, rfl, rfl, rfl, rfl⟩
      · have printed := Ctx.says_printFrame { c with bus } frame
        obtain ⟨count, told⟩ := ih (Ctx.write { c with bus } (printFrame frame))
        rw [printed.bus] at count told
        refine ⟨congrArg (· + 1) count, ?_, told.cmd.trans printed.cmd,
          told.discard.trans printed.discard, told.bitrate.trans printed.bitrate, told.bus⟩
        rw [List.flatMap_cons, ← List.append_assoc]
        exact told.said.trans (congrArg (· ++ _) printed.said)

/-- Where no frame is forwarded nothing but the bus changes. -/
theorem forward_of_none {c : Ctx σ} {left : Nat} (none : (c.forward port left).2 = 0) :
    (c.forward port left).1 = { c with bus := (Session.received port c.bus left).1 } ∧
      (Session.received port c.bus left).2 = [] := by
  cases left with
  | zero => exact ⟨rfl, rfl⟩
  | succ left =>
      unfold Ctx.forward at none ⊢
      unfold Session.received
      generalize port.recv c.bus = result at none ⊢
      rcases result with ⟨bus, _ | frame⟩
      · exact ⟨rfl, rfl⟩
      · exact absurd none (Nat.succ_ne_zero _)

/-- A poll prints the frames that the bus has received. -/
theorem Keeps.poll (keeps : Keeps c s) (port : CanPort σ) :
    Answered c (s.step port .poll).2 (c.poll port) (s.step port .poll).1 := by
  unfold Ctx.poll Session.step
  dsimp only
  rw [keeps.bus]
  cases port.isOpen s.bus with
  | false => exact ⟨keeps, (List.append_nil _).symm⟩
  | true =>
      obtain ⟨count, told⟩ := forward_eq port c rxBurst
      rw [keeps.bus] at count told
      have text : ((Session.received port s.bus rxBurst).2.map Reply.frame).flatMap Reply.text =
          (Session.received port s.bus rxBurst).2.flatMap printFrame := List.flatMap_map ..
      have said : (c.forward port rxBurst).1.said = c.said ++
          ((Session.received port s.bus rxBurst).2.map Reply.frame).flatMap Reply.text := by
        rw [text]
        exact told.said
      have line := keeps.line
      rw [← told.cmd, ← told.discard] at line
      have bitrate := told.bitrate.trans keeps.bitrate
      rw [Bool.not_true, if_neg Bool.false_ne_true, if_pos rfl]
      dsimp only
      split
      · have flushed := (c.forward port rxBurst).1.says_flush
        refine ⟨⟨flushed.bus.trans told.bus, flushed.bitrate.trans bitrate, ?_,
          Ctx.len_flush _⟩, writes_flush keeps said⟩
        rw [flushed.cmd, flushed.discard]
        exact line
      · rename_i few
        obtain ⟨same, frames⟩ := forward_of_none (Nat.eq_zero_of_not_pos few)
        rw [keeps.bus] at same frames
        rw [same, frames]
        exact ⟨⟨rfl, keeps.bitrate, keeps.line, keeps.none⟩, (List.append_nil _).symm⟩

/-- Every call does to the buffers what it does to the session. -/
theorem Keeps.step (keeps : Keeps c s) (port : CanPort σ) (call : Call) :
    Answered c (s.step port call).2 (c.step port call) (s.step port call).1 := by
  cases call with
  | feed data => exact keeps.feed port data
  | poll => exact keeps.poll port

/-- So does every run, by induction on its calls. -/
theorem Keeps.run (keeps : Keeps c s) (port : CanPort σ) (calls : List Call) :
    Answered c (s.replies port calls) (run (Ctx.step port) c calls)
      (final (Session.step port) s calls) := by
  induction calls generalizing c s with
  | nil => exact ⟨keeps, (List.append_nil _).symm⟩
  | cons call calls ih =>
      have first := keeps.step port call
      exact first.trans (ih first.keeps)

end Steps

/-! ## The answers of a session -/

/-- The lines that are answered in a byte, or in a call. -/
def answered (replies : List Reply) : List (List UInt8) :=
  replies.filterMap Reply.line?

/-- An over-long line is refused; another has one answer, which the reply text comes before. -/
def Reply.Proper : Reply → Prop
  | .answer line text =>
    if cmdMax - 1 ≤ line.length then text = Ctx.verdict false
    else ∃ ok, text = Ctx.info line ++ Ctx.verdict ok
  | .frame _ => True

namespace Session

variable {s : Session σ}

/-- The lines that end in a stream, but for the empty ones. -/
def commandLines (line data : List UInt8) : List (List UInt8) :=
  (lines (· = ascii '\r') line data).filter (· ≠ [])

/-- A line is read to its terminator. -/
theorem info_append_nul {line : List UInt8} (some : line ≠ []) :
    Ctx.info (line ++ [0]) = Ctx.info line := by
  cases line with
  | nil => exact absurd rfl some
  | cons letter line => rfl

/-- A command answers with its information and a verdict. -/
theorem command_text (s : Session σ) (some : s.line ≠ []) :
    ∃ ok, (s.command port).2 = Ctx.info s.line ++ Ctx.verdict ok := by
  obtain ⟨bus', bitrate', ok, told⟩ :=
    Ctx.settles_parseCommand port s.bus s.bitrate (s.line ++ [0])
  refine ⟨ok, ?_⟩
  rw [← info_append_nul some, ← List.nil_append (_ ++ _)]
  exact (told { Ctx.start s.bus with bitrate := s.bitrate } rfl rfl).said

/-- The replies answer the lines that end among the bytes. -/
structure Accounts (s : Session σ) (data : List UInt8) (replies : List Reply) (s' : Session σ) :
    Prop where
  answered : answered replies = commandLines s.line data
  line : s'.line = openLine (· = ascii '\r') s.line data
  proper : ∀ reply ∈ replies, reply.Proper

/-- Two parts of a stream are accounted for together. -/
theorem Accounts.trans {s' s'' : Session σ} {data data' : List UInt8}
    {replies replies' : List Reply} (first : Accounts s data replies s')
    (second : Accounts s' data' replies' s'') :
    Accounts s (data ++ data') (replies ++ replies') s'' where
  answered := by
    have later := second.answered
    rw [first.line] at later
    rw [commandLines, lines_append, List.filter_append]
    exact List.filterMap_append.trans (congrArg₂ _ first.answered later)
  line := by rw [openLine_append, ← first.line, second.line]
  proper reply member := by
    rcases List.mem_append.1 member with before | after
    · exact first.proper reply before
    · exact second.proper reply after

/-- One character is accounted for: it is kept, dropped, or ends a line with one answer. -/
theorem accounts_feedByte (port : CanPort σ) (s : Session σ) (val : UInt8) :
    Accounts s [val] (s.feedByte port val).2 (s.feedByte port val).1 := by
  unfold feedByte
  by_cases ends : val = ascii '\r'
  · have completed : lines (· = ascii '\r') s.line [val] = [s.line] := by
      rw [lines, lines, if_pos (decide_eq_true ends)]
    have opened : openLine (· = ascii '\r') s.line [val] = [] := by
      rw [openLine, openLine, if_pos (decide_eq_true ends)]
    rw [if_pos ends]
    split
    · rename_i empty
      refine ⟨?_, empty.trans opened.symm, fun _ member => absurd member List.not_mem_nil⟩
      rw [commandLines, completed, empty]
      rfl
    · rename_i some
      have kept : commandLines s.line [val] = [s.line] := by
        rw [commandLines, completed, List.filter_singleton, decide_eq_true some]
        rfl
      split
      · rename_i long
        refine ⟨kept.symm, opened.symm, fun reply member => ?_⟩
        rw [List.mem_singleton.1 member, Reply.Proper, if_pos long]
      · rename_i short
        refine ⟨kept.symm, opened.symm, fun reply member => ?_⟩
        rw [List.mem_singleton.1 member, Reply.Proper, if_neg short]
        exact command_text s some
  · have completed : lines (· = ascii '\r') s.line [val] = [] := by
      rw [lines, if_neg (by simpa using ends), lines]
    have opened : openLine (· = ascii '\r') s.line [val] = s.line ++ [val] := by
      rw [openLine, if_neg (by simpa using ends), openLine]
    rw [if_neg ends]
    refine ⟨?_, opened.symm, fun _ member => absurd member List.not_mem_nil⟩
    rw [commandLines, completed]
    rfl

/-- So are any characters, by induction on them. -/
theorem accounts_feed (port : CanPort σ) (s : Session σ) (data : List UInt8) :
    Accounts s data (s.step port (.feed data)).2 (s.step port (.feed data)).1 := by
  induction data generalizing s with
  | nil => exact ⟨rfl, rfl, nofun⟩
  | cons val data ih => exact (accounts_feedByte port s val).trans (ih _)

/-- Every call accounts for its characters. -/
theorem accounts_step (port : CanPort σ) (s : Session σ) (call : Call) :
    Accounts s call.data (s.step port call).2 (s.step port call).1 := by
  cases call with
  | feed data => exact accounts_feed port s data
  | poll =>
      unfold step
      dsimp only
      split
      · refine ⟨?_, rfl, fun reply member => ?_⟩
        · rw [answered, List.filterMap_map]
          exact List.filterMap_eq_nil_iff.2 fun _ _ => rfl
        · obtain ⟨frame, -, rfl⟩ := List.mem_map.1 member
          exact True.intro
      · exact ⟨rfl, rfl, nofun⟩

/-- So does every run, by induction on its calls. -/
theorem accounts_run (port : CanPort σ) (s : Session σ) (calls : List Call) :
    Accounts s (calls.flatMap Call.data) (s.replies port calls)
      (final (step port) s calls) := by
  induction calls generalizing s with
  | nil => exact ⟨rfl, rfl, nofun⟩
  | cons call calls ih => exact (accounts_step port s call).trans (ih _)

end Session

/-- Whatever a client sends, in whatever pieces and with whatever frames in between: the buffers
keep their bounds, the link is given all that the session says and nothing else, in order, and each
line that is not empty has its one answer. -/
theorem one_answer_a_line (port : CanPort σ) (bus : σ) (calls : List Call) :
    let c := run (Ctx.step port) (Ctx.start bus) calls
    let replies := Session.replies port ⟨bus, 500000, []⟩ calls
    c.cmd.count < cmdMax ∧ c.tx.len ≤ txBuf ∧
      c.writes.flatten = replies.flatMap Reply.text ∧
      answered replies = Session.commandLines [] (calls.flatMap Call.data) ∧
      ∀ reply ∈ replies, reply.Proper := by
  intro c replies
  have kept := (keeps_start bus).run port calls
  have accounts := Session.accounts_run port ⟨bus, 500000, []⟩ calls
  exact ⟨Nat.lt_of_succ_lt c.cmd.inside, c.tx.fits, kept.writes, accounts.answered,
    accounts.proper⟩

end OpenDiag.Slcan
