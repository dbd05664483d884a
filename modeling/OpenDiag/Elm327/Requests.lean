import OpenDiag.Elm327.Command

/-!
# What a line of digits starts

A line that is no AT command starts a transfer if it is a request in hexadecimal digits, with a
last digit for the count of frames if their number is odd. Anything else is refused, but for one
kind of line: where the character in the place of the count is not a digit, the request before it
is taken to have no count.
-/

namespace OpenDiag.Elm327

/-- A transfer that is started, with its bytes and its frame count. -/
def Event.exchange? : Event → Option (Exchange × List UInt8 × Int)
  | .exchange which frame numFrame => some (which, frame, numFrame)
  | _ => none

/-- The transfers that are started. -/
def exchanges (events : List Event) : List (Exchange × List UInt8 × Int) :=
  events.filterMap Event.exchange?

/-- The request that a line is, with its count of frames, which is -1 where it has none. -/
def requestOf (line : List UInt8) : Option (List UInt8 × Int) :=
  if line.all isHex ∧ 2 ≤ line.length ∧ line.length ≤ 17 then
    if line.length % 2 = 0 then some (hexBytes line, -1)
    else some (hexBytes line.dropLast, hexCharToInt (line.getLastD 0))
  else none

/-- The digits of a request with another character behind them. -/
def BadCount (line : List UInt8) : Prop :=
  line.length % 2 = 1 ∧ 2 ≤ line.length ∧ line.length ≤ 17 ∧ line.dropLast.all isHex ∧
    isHex (line.getLastD 0) = false

instance (line : List UInt8) : Decidable (BadCount line) :=
  inferInstanceAs (Decidable (_ ∧ _))

section Answers

variable {σ : Type*} {i : Interpreter σ} {s : σ}

/-- What is done with an even number of characters. -/
theorem read_eq {hex : List UInt8} (even : hex.length % 2 = 0) (rest : List UInt8)
    (numFrame : Int) :
    (if hex.length > 16 then (s, [.text (str "?\r")])
      else
        let (frameLen, frame) := hexStringToU8Array (hex ++ rest) hex.length 8
        if frameLen ≤ 0 then (s, [.text (str "?\r")]) else i.request s frame numFrame) =
      if hex.all isHex ∧ 2 ≤ hex.length ∧ hex.length ≤ 16 then
        i.request s (hexBytes hex) numFrame
      else (s, [.text (str "?\r")]) := by
  by_cases long : hex.length > 16
  · rw [if_pos long, if_neg (by omega)]
  rw [if_neg long, hexStringToU8Array, if_neg (by omega)]
  obtain ⟨digits, other⟩ := hexLoop_eq even rest []
  cases all : hex.all isHex with
  | true =>
      have count := length_hexBytes hex
      rw [digits all]
      dsimp only
      rw [List.nil_append]
      by_cases some : 2 ≤ hex.length
      · rw [if_neg (by omega), if_pos ⟨rfl, some, by omega⟩]
      · rw [if_pos (by omega), if_neg (by omega)]
  | false =>
      dsimp only
      rw [other all, if_pos (by decide), if_neg (by simp)]

theorem isCommand_iff (line : List UInt8) :
    (line.getD 0 0 = ascii 'A' ∧ line.getD 1 0 = ascii 'T') ↔ str "AT" <+: line := by
  have text : str "AT" = [ascii 'A', ascii 'T'] := rfl
  rw [text]
  match line with
  | [] => exact ⟨fun both => absurd both.1 (by decide), fun begun => nomatch List.prefix_nil.1 begun⟩
  | [first] =>
      have none : (0 : UInt8) ≠ ascii 'T' := by decide
      refine ⟨fun both => absurd both.2 none, fun begun => ?_⟩
      exact absurd begun.length_le (Nat.not_succ_le_self 1)
  | first :: second :: rest =>
      rw [List.cons_prefix_cons, List.cons_prefix_cons, eq_comm, @eq_comm _ (ascii 'T')]
      exact ⟨fun both => ⟨both.1, both.2, List.nil_prefix⟩, fun both => ⟨both.1, both.2.1⟩⟩

/-- What a line that is no AT command is answered. -/
theorem answer_eq {line : List UInt8} (request : ¬ str "AT" <+: line) :
    i.answer s line =
      match requestOf line with
      | some (frame, numFrame) => i.request s frame numFrame
      | none =>
        if BadCount line then i.request s (hexBytes line.dropLast) (-1)
        else (s, [.text (str "?\r")]) := by
  unfold Interpreter.answer
  rw [if_neg fun both => request ((isCommand_iff line).1 both)]
  unfold requestOf
  rcases Nat.mod_two_eq_zero_or_one line.length with even | odd
  · have read := read_eq (i := i) (s := s) even [] (-1)
    rw [List.append_nil] at read
    have sound : ¬ BadCount line := fun bad => absurd (even.symm.trans bad.1) (by decide)
    simp only [even, Nat.zero_ne_one, if_false, if_neg sound, if_true]
    refine read.trans ?_
    by_cases digits : line.all isHex ∧ 2 ≤ line.length ∧ line.length ≤ 16
    · rw [if_pos digits, if_pos ⟨digits.1, digits.2.1, by omega⟩]
    · rw [if_neg digits, if_neg fun read => digits ⟨read.1, read.2.1, by omega⟩]
  · rcases List.eq_nil_or_concat line with rfl | ⟨hex, last, rfl⟩
    · cases odd
    rw [List.concat_eq_append] at odd ⊢
    have length : (hex ++ [last]).length = hex.length + 1 := List.length_append
    have even : hex.length % 2 = 0 := by omega
    have read := read_eq (i := i) (s := s) even [last] (hexCharToInt last)
    have count : (hex ++ [last]).getD hex.length 0 = last := by
      rw [List.getD_eq_getElem?_getD, List.getElem?_concat_length, Option.getD_some]
    have all : (hex ++ [last]).all isHex = (hex.all isHex && isHex last) := by
      rw [List.all_append, List.all_cons, List.all_nil, Bool.and_true]
    rw [length] at odd
    simp only [length, odd, if_true, Nat.add_sub_cancel, count, BadCount, List.dropLast_concat,
      List.getLastD_concat, all, Bool.and_eq_true, Nat.one_ne_zero, if_false]
    refine read.trans ?_
    by_cases digits : hex.all isHex ∧ 2 ≤ hex.length ∧ hex.length ≤ 16
    · rw [if_pos digits]
      cases tail : isHex last with
      | true => rw [if_pos ⟨⟨digits.1, rfl⟩, by omega, by omega⟩]
      | false =>
          have bad : True ∧ 2 ≤ hex.length + 1 ∧ hex.length + 1 ≤ 17 ∧ hex.all isHex = true ∧
              false = false := ⟨trivial, by omega, by omega, digits.1, rfl⟩
          rw [if_neg fun read => absurd read.1.2 Bool.false_ne_true, if_pos bad,
            hexCharToInt_of_not_isHex tail]
    · rw [if_neg digits, if_neg fun read => digits ⟨read.1.1, by omega, by omega⟩,
        if_neg fun bad => digits ⟨bad.2.2.2.1, by omega, by omega⟩]

/-! ## Transfers -/

theorem exchanges_append (first second : List Event) :
    exchanges (first ++ second) = exchanges first ++ exchanges second :=
  List.filterMap_append

theorem exchanges_texts (texts : List (List UInt8)) : exchanges (texts.map .text) = [] := by
  rw [exchanges, List.filterMap_map]
  exact List.filterMap_eq_nil_iff.2 fun _ _ => rfl

theorem exchanges_start (which : Exchange) (s : σ) (frame : List UInt8) (numFrame : Int) :
    exchanges (i.start which s frame numFrame).2.2 = [(which, frame, numFrame)] := by
  have texts := exchanges_texts (i.xfer which s frame numFrame).2.2
  have started : exchanges (.exchange which frame numFrame ::
      (i.xfer which s frame numFrame).2.2.map .text) = [(which, frame, numFrame)] :=
    congrArg (List.cons _) texts
  unfold Interpreter.start
  rw [exchanges_append]
  cases which with
  | search _ | j1850Pwm | j1850Vpw | kline | can => exact started

theorem exchanges_report (rc : Int) : exchanges (Interpreter.report rc) = [] := by
  unfold Interpreter.report
  split
  · rfl
  split
  · rfl
  split
  · rfl
  · rfl

/-- The state in which a command is run. -/
def Interpreter.atDispatch (i : Interpreter σ) (s : σ) : σ :=
  i.stopWatch (i.observeLateReplies s)

/-- The settings name something to start: the transfer of the selected protocol, or a search. -/
def Interpreter.CanStart (i : Interpreter σ) (s : σ) : Prop :=
  (i.protocol s).exchange?.isSome ∨ i.autoFallback s

/-- A request starts transfers of just that request. -/
theorem exchanges_request (s : σ) (frame : List UInt8) (numFrame : Int) :
    (exchanges (i.request s frame numFrame).2 ≠ [] ↔ i.CanStart s) ∧
      (∀ started ∈ exchanges (i.request s frame numFrame).2, started.2 = (frame, numFrame)) ∧
      (exchanges (i.request s frame numFrame).2 = [] →
        (i.request s frame numFrame).2 = [.text (str "?\r")]) := by
  unfold Interpreter.request Interpreter.CanStart
  dsimp only
  rw [exchanges_append, exchanges_report, List.append_nil]
  have searched (tried : Protocol) (s : σ) : ∀ started ∈
      exchanges (i.start (.search tried) s frame numFrame).2.2,
      started.2 = (frame, numFrame) := by
    intro started member
    rw [exchanges_start, List.mem_singleton] at member
    rw [member]
  unfold Interpreter.transfer
  cases (i.protocol s).exchange? with
  | some which =>
      have first := exchanges_start (i := i) which s frame numFrame
      dsimp only
      generalize i.start which s frame numFrame = result at first ⊢
      obtain ⟨s', rc, events⟩ := result
      dsimp only at first
      rw [Interpreter.fallBack]
      split
      · rw [exchanges_append, first]
        refine ⟨⟨fun _ => .inl rfl, fun _ => nofun⟩, fun started member => ?_, nofun⟩
        rcases List.mem_append.1 member with begun | again
        · rw [List.mem_singleton.1 begun]
        · exact searched _ _ started again
      · rw [first]
        refine ⟨⟨fun _ => .inl rfl, fun _ => nofun⟩, fun started member => ?_, nofun⟩
        rw [List.mem_singleton.1 member]
  | none =>
      dsimp only
      rw [Interpreter.fallBack]
      cases fallback : i.autoFallback s with
      | true =>
          rw [if_pos ⟨by decide, by decide, rfl⟩]
          dsimp only
          rw [List.nil_append]
          refine ⟨⟨fun _ => .inr rfl, fun _ => ?_⟩, searched _ _, fun none => ?_⟩
          · rw [exchanges_start]
            exact nofun
          · rw [exchanges_start] at none
            cases none
      | false =>
          rw [if_neg fun both => absurd both.2.2 Bool.false_ne_true]
          exact ⟨⟨fun some => absurd rfl some, fun either => by simp at either⟩, nofun,
            fun _ => rfl⟩

end Answers

/-- For each line that is no AT command and not a request with another character in the place of
its count: transfers are started exactly if the line is a request and there is something to start,
they are of just that request, and where none is started the line is refused. -/
theorem requests_start_transfers {σ : Type*} (i : Interpreter σ) (s : σ) {line : List UInt8}
    (plain : 0 ∉ line) (request : ¬ str "AT" <+: line) (sound : ¬ BadCount line) :
    let events := (i.parseCommand s line).2
    (exchanges events ≠ [] ↔ (requestOf line).isSome ∧ i.CanStart (i.atDispatch s)) ∧
      (∀ started ∈ exchanges events, requestOf line = some started.2) ∧
      (exchanges events = [] → events = [.note line, .text (str "?\r"), .text (str "\r>")]) := by
  intro events
  have answered := answer_eq (i := i) (s := i.atDispatch s) request
  have shape : events = .note line :: (i.answer (i.atDispatch s) line).2 ++
      [.text (str "\r>")] := by
    change (i.parseCommand s line).2 = _
    unfold Interpreter.parseCommand
    rw [cString_of_no_nul plain]
    rfl
  have same : exchanges events = exchanges (i.answer (i.atDispatch s) line).2 := by
    rw [shape, exchanges_append]
    exact List.append_nil _
  rw [same, shape, answered]
  cases requestOf line with
  | none =>
      dsimp only
      rw [if_neg sound]
      exact ⟨⟨fun some => absurd rfl some, fun both => nomatch both.1⟩, nofun, fun _ => rfl⟩
  | some read =>
      obtain ⟨starts, carried, refused⟩ :=
        exchanges_request (i := i) (i.atDispatch s) read.1 read.2
      refine ⟨starts.trans ⟨fun can => ⟨rfl, can⟩, fun both => both.2⟩,
        fun started member => congrArg some (carried started member).symm, fun none => ?_⟩
      dsimp only
      rw [refused none]
      rfl

theorem requests_start_transfers_bench :
    let i := benchInterpreter .can11Bit500K
    let events := (i.parseCommand true (str "01001")).2
    (exchanges events ≠ [] ↔
        (requestOf (str "01001")).isSome ∧ i.CanStart (i.atDispatch true)) ∧
      (∀ started ∈ exchanges events, requestOf (str "01001") = some started.2) ∧
      (exchanges events = [] →
        events = [.note (str "01001"), .text (str "?\r"), .text (str "\r>")]) :=
  requests_start_transfers (benchInterpreter .can11Bit500K) true (by decide) (by decide) (by decide)

/-- A request starts nothing where the selected protocol has no bus, and a line that is none
because of its last character starts a transfer. -/
theorem requests_start_others :
    ((requestOf (str "0100")).isSome = true ∧
      exchanges ((benchInterpreter .canSaeJ1939).parseCommand true (str "0100")).2 = []) ∧
      (requestOf (str "0100G")).isSome = false ∧
      exchanges ((benchInterpreter .can11Bit500K).parseCommand true (str "0100G")).2 =
        [(.can, [1, 0], -1)] := by
  decide +kernel

end OpenDiag.Elm327
