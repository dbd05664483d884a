import OpenDiag.J2534.RxQueue
import OpenDiag.Lib.Memory

/-!
# Reading messages on the host

`PassThruReadMsgs` asks the firmware for one message after another and keeps what it gets aside
until it knows how the call ends; only then are the caller's messages filled in. The firmware has
given up a message as soon as it is in a reply. Three of the loop's exits return without the
copy-out, and what was kept aside by then is lost.
-/

namespace OpenDiag.Host

open J2534

/-! The status codes that the call can return of its own. -/

def statusNoError : UInt32 := 0x00
def errNullParameter : UInt32 := 0x04
def errIoctlValueNotSupported : UInt32 := 0x05
def errDeviceNotConnected : UInt32 := 0x08
def errTimeout : UInt32 := 0x09
def errInvalidMsg : UInt32 := 0x0a
def errExceededLimit : UInt32 := 0x0c
def errBufferEmpty : UInt32 := 0x10
def errBufferOverflow : UInt32 := 0x12
def errInvalidDeviceId : UInt32 := 0x1a
def errDeviceNotOpen : UInt32 := 0x1b
def errBufferTooSmall : UInt32 := 0x23

/-- `BUFFER_OVERFLOW` in a message's status. -/
def bufferOverflow : UInt32 := 0x40

/-- `sizeof(PASSTHRU_MSG)`: eight packed 32-bit fields and a pointer. -/
def passthruMsgSize (pointerSize : Nat) : Nat := 32 + pointerSize

/-- `PASSTHRU_MSG`; `none` is a null data pointer. -/
structure PassthruMsg where
  protocolId : UInt32 := 0
  msgHandle : UInt32 := 0
  rxStatus : UInt32 := 0
  txFlags : UInt32 := 0
  timestamp : UInt32 := 0
  dataLength : Nat := 0
  extraDataIndex : Nat := 0
  dataBuffer : Option (List UInt8) := none
  dataBufferSize : Nat := 0
  deriving DecidableEq, Repr

/-- The fields of `opendiag_Response` that a read looks at. -/
structure Response where
  status : UInt32 := 0
  hasMessage : Bool := false
  count : UInt32 := 0
  message : Message := {}
  deriving DecidableEq, Repr

/-- `copyMessage`: whether the whole message fitted, and the message filled in. -/
def copyMessage (input : Message) (output : PassthruMsg) : Bool × PassthruMsg :=
  let count := min input.data.length output.dataBufferSize
  (count == input.data.length,
    { output with
      protocolId := input.protocol
      msgHandle := input.handle
      rxStatus := input.rxStatus
      txFlags := input.txFlags
      timestamp := input.timestampUs
      dataLength := count
      extraDataIndex := min input.extraDataIndex.toNat count
      dataBuffer := output.dataBuffer.map (overwrite · 0 (input.data.take count)) })

/-- A message that fits is copied whole, with all its fields, and the rest of the caller's buffer is
left alone. -/
theorem copyMessage_of_fit {input : Message} {output : PassthruMsg} {buffer : List UInt8}
    (given : output.dataBuffer = some buffer) (size : output.dataBufferSize ≤ buffer.length)
    (fits : input.data.length ≤ output.dataBufferSize) :
    copyMessage input output = (true,
      { protocolId := input.protocol
        msgHandle := input.handle
        rxStatus := input.rxStatus
        txFlags := input.txFlags
        timestamp := input.timestampUs
        dataLength := input.data.length
        extraDataIndex := min input.extraDataIndex.toNat input.data.length
        dataBuffer := some (input.data ++ buffer.drop input.data.length)
        dataBufferSize := output.dataBufferSize }) := by
  have room : 0 + input.data.length ≤ buffer.length := by omega
  have copied : overwrite buffer 0 input.data = input.data ++ buffer.drop input.data.length := by
    rw [overwrite_eq room, List.take_zero, List.nil_append, Nat.zero_add]
  simp only [copyMessage, Nat.min_eq_left fits, List.take_length, given, Option.map_some, copied,
    BEq.rfl]

/-- `rpc`; `none` is an exchange that threw. A broken session leaves no response. -/
def rpc : Option Response → UInt32 × Response
  | none => (errDeviceNotConnected, {})
  | some response =>
    if response.status = errDeviceNotOpen || response.status = errInvalidDeviceId then
      (errDeviceNotConnected, {})
    else (response.status, response)

/-- One turn of the loop: what the exchange brings, and what the clock reads after it. -/
structure Turn where
  reply : Option Response
  milliseconds : UInt32
  deriving DecidableEq, Repr

/-- The caller's arguments, the status of the channel, and the clock at the start. The array holds
at least the messages it is said to hold. -/
structure ReadCall where
  pointerSize : Nat := 4
  checkChannel : UInt32 := statusNoError
  messages : Option (List PassthruMsg)
  requested : Option Nat
  timeout : UInt32
  start : UInt32 := 0
  room : ∀ slots ∈ messages, ∀ count ∈ requested, count ≤ slots.length

/-- How the loop ends: with the messages kept aside, for the copy-out, or by returning at once. -/
inductive Exit where
  | finish (status : UInt32) (collected : List Message)
  | giveUp (status : UInt32) (messages : List PassthruMsg)
  deriving DecidableEq, Repr

/-- One turn of the loop: it ends the loop, or goes on with what is kept aside then. -/
def readTurn (messages : List PassthruMsg) (requested : Nat) (timeout start : UInt32)
    (collected : List Message) (turn : Turn) : Exit ⊕ List Message :=
  let (status, response) := rpc turn.reply
  let late := decide (timeout ≤ turn.milliseconds - start)
  if status = errBufferEmpty then
    if timeout = 0 || late then
      .inl (.finish (if collected.isEmpty then errBufferEmpty
        else if timeout ≠ 0 then errTimeout else statusNoError) collected)
    else .inr collected
  else if status ≠ 0 then .inl (.giveUp status messages)
  else if !response.hasMessage || response.count ≠ 1 then .inl (.giveUp errInvalidMsg messages)
  else
    let slot := messages.getD collected.length {}
    if response.message.data.length > slot.dataBufferSize then
      .inl (.giveUp errBufferTooSmall
        (messages.set collected.length (copyMessage response.message slot).2))
    else
      let collected := collected ++ [response.message]
      if response.message.rxStatus &&& bufferOverflow ≠ 0 then
        .inl (.finish errBufferOverflow collected)
      else if timeout ≠ 0 && late && collected.length < requested then
        .inl (.finish errTimeout collected)
      else .inr collected

/-- The loop of `PassThruReadMsgs` on the turns to come, and the turns it leaves; `none` while the
turns do not end it. -/
def readLoop (messages : List PassthruMsg) (requested : Nat) (timeout start : UInt32) :
    List Message → List Turn → Option (Exit × List Turn)
  | collected, turns =>
    if requested ≤ collected.length then some (.finish statusNoError collected, turns)
    else match turns with
    | [] => none
    | turn :: rest =>
      match readTurn messages requested timeout start collected turn with
      | .inl exit => some (exit, rest)
      | .inr collected => readLoop messages requested timeout start collected rest

/-- The copy-out. -/
def copyOut : List PassthruMsg → List Message → List PassthruMsg
  | slot :: slots, message :: messages => (copyMessage message slot).2 :: copyOut slots messages
  | slots, _ => slots

/-- What the caller sees. -/
structure ReadResult where
  status : UInt32
  count : Option Nat
  messages : Option (List PassthruMsg)
  deriving DecidableEq, Repr

/-- `PassThruReadMsgs`: what the caller sees, and the turns the call leaves; `none` while the turns
do not end it. -/
def passThruReadMsgs (call : ReadCall) (turns : List Turn) : Option (ReadResult × List Turn) :=
  match call.requested with
  | none => some (⟨errNullParameter, none, call.messages⟩, turns)
  | some requested =>
    let refuse (status : UInt32) := some (⟨status, some 0, call.messages⟩, turns)
    if call.checkChannel ≠ statusNoError then refuse call.checkChannel
    else match call.messages with
    | none => refuse errNullParameter
    | some messages =>
      if call.timeout > 30000 then refuse errIoctlValueNotSupported
      else if requested > 0xffffffff / passthruMsgSize call.pointerSize then refuse errExceededLimit
      else if (messages.take requested).any (·.dataBuffer.isNone) then refuse errNullParameter
      else if requested = 0 then refuse statusNoError
      else
        (readLoop messages requested call.timeout call.start [] turns).map fun (exit, rest) =>
          match exit with
          | .giveUp status messages => (⟨status, some 0, some messages⟩, rest)
          | .finish status collected =>
            (⟨status, some collected.length, some (copyOut messages collected)⟩, rest)

/-! ## What the caller is owed -/

/-- The message that a turn takes out of the firmware's queue. -/
def Turn.message (turn : Turn) : Option Message :=
  let (status, response) := rpc turn.reply
  if status = 0 && response.hasMessage && response.count = 1 then some response.message else none

/-- The messages that the turns take out of the firmware's queue, in order. -/
def dequeued (turns : List Turn) : List Message :=
  turns.filterMap Turn.message

/-- The caller's array with the messages copied into it in order, up to the first that does not
fit, which is truncated; and how many fitted. -/
def delivered : List PassthruMsg → List Message → Nat × List PassthruMsg
  | slot :: slots, message :: messages =>
    if message.data.length ≤ slot.dataBufferSize then
      ((delivered slots messages).1 + 1,
        (copyMessage message slot).2 :: (delivered slots messages).2)
    else (0, (copyMessage message slot).2 :: slots)
  | slots, _ => (0, slots)

/-- Every message that the call took out of the firmware's queue is delivered to the caller. -/
def Conserves (call : ReadCall) (turns : List Turn) (result : ReadResult) : Prop :=
  (∀ count ∈ result.count,
    count = (delivered (call.messages.getD []) (dequeued turns)).1) ∧
  ∀ slots ∈ result.messages, slots = (delivered (call.messages.getD []) (dequeued turns)).2

instance (call : ReadCall) (turns : List Turn) (result : ReadResult) :
    Decidable (Conserves call turns result) :=
  inferInstanceAs (Decidable (_ ∧ _))

/-- A turn that the loop returns from at once when it has kept `kept` messages aside: an error
status, a reply without a message, or a message larger than its buffer. -/
def Turn.fails (messages : List PassthruMsg) (kept : Nat) (turn : Turn) : Bool :=
  let (status, response) := rpc turn.reply
  status ≠ errBufferEmpty &&
    (status ≠ 0 || !response.hasMessage || response.count ≠ 1 ||
      decide (response.message.data.length > (messages.getD kept {}).dataBufferSize))

/-- The last turn fails when an earlier one has brought a message. -/
def FailsAfterMessage (messages : List PassthruMsg) (turns : List Turn) : Prop :=
  ∃ before last, turns = before ++ [last] ∧ dequeued before ≠ [] ∧
    last.fails messages (dequeued before).length = true

/-! ## The loop -/

section Loop

variable {messages : List PassthruMsg} {requested : Nat} {timeout start : UInt32}

/-- The messages fit the caller's buffers from index `first` on. -/
def FitFrom (messages : List PassthruMsg) : Nat → List Message → Prop
  | _, [] => True
  | first, message :: rest =>
    message.data.length ≤ (messages.getD first {}).dataBufferSize ∧
      FitFrom messages (first + 1) rest

/-- One turn ends the loop without the copy-out, or keeps its message, if it brings one, aside and
then ends the loop or goes on. -/
theorem readTurn_cases (messages : List PassthruMsg) (requested : Nat) (timeout start : UInt32)
    (collected : List Message) (turn : Turn) :
    (turn.fails messages collected.length = true ∧ ∃ status,
      readTurn messages requested timeout start collected turn =
        .inl (.giveUp status (match turn.message with
          | some message => messages.set collected.length
              (copyMessage message (messages.getD collected.length {})).2
          | none => messages))) ∨
    (turn.fails messages collected.length = false ∧
      FitFrom messages collected.length turn.message.toList ∧
      ((∃ status, readTurn messages requested timeout start collected turn =
          .inl (.finish status (collected ++ turn.message.toList))) ∨
        readTurn messages requested timeout start collected turn =
          .inr (collected ++ turn.message.toList))) := by
  unfold readTurn Turn.fails Turn.message
  generalize rpc turn.reply = pair
  obtain ⟨status, response⟩ := pair
  dsimp only
  by_cases empty : status = errBufferEmpty
  · have quiet : ¬ errBufferEmpty = 0 := by decide
    refine Or.inr ⟨by simp [empty], by simp [empty, quiet, FitFrom], ?_⟩
    simp only [empty, quiet, if_true, decide_false, Bool.false_and, Bool.false_eq_true, if_false,
      Option.toList_none, List.append_nil]
    split
    · exact Or.inl ⟨_, rfl⟩
    · exact Or.inr rfl
  by_cases failed : status ≠ 0
  · exact Or.inl ⟨by simp [failed, empty], status, by simp [failed, empty]⟩
  rw [not_not] at failed
  subst failed
  have answered : ¬ (0 : UInt32) = errBufferEmpty := by decide
  by_cases held : response.hasMessage = true
  case neg => exact Or.inl ⟨by simp [held, answered], errInvalidMsg, by simp [held, answered]⟩
  by_cases single : response.count = 1
  case neg => exact Or.inl ⟨by simp [single, answered], errInvalidMsg, by simp [single, answered]⟩
  by_cases large : response.message.data.length >
      (messages.getD collected.length {}).dataBufferSize
  · refine Or.inl ⟨by simp only [large]; simp [answered], errBufferTooSmall, ?_⟩
    simp only [held, single, large, answered]
    simp
  · refine Or.inr ⟨by simp only [large, held, single]; simp, ?_, ?_⟩
    · simp only [held, single]
      exact ⟨Nat.le_of_not_lt large, trivial⟩
    · simp only [held, single, large, answered]
      simp only [Bool.not_true, ne_eq, not_true_eq_false, decide_false, Bool.or_false,
        Bool.false_eq_true, if_false, decide_true, Bool.and_self, if_true, Option.toList_some]
      split
      · exact Or.inl ⟨_, rfl⟩
      · split
        · exact Or.inl ⟨_, rfl⟩
        · exact Or.inr rfl

theorem dequeued_concat (turns : List Turn) (turn : Turn) :
    dequeued (turns ++ [turn]) = dequeued turns ++ turn.message.toList := by
  cases brought : turn.message <;> simp [dequeued, brought]

theorem FitFrom.append {first : Nat} {before after : List Message}
    (fit : FitFrom messages first before)
    (rest : FitFrom messages (first + before.length) after) :
    FitFrom messages first (before ++ after) := by
  induction before generalizing first with
  | nil => exact rest
  | cons message before ih =>
      refine ⟨fit.1, ih fit.2 ?_⟩
      rw [List.length_cons, Nat.add_comm before.length, ← Nat.add_assoc] at rest
      exact rest

/-- The turns end the loop for the copy-out of all their messages, with none failing at the end; or
the last of them fails and ends the loop at once. -/
inductive Ended (messages : List PassthruMsg) (requested : Nat) (turns : List Turn) : Exit → Prop
  | finish (status : UInt32) (fit : FitFrom messages 0 (dequeued turns))
      (short : (dequeued turns).length ≤ requested)
      (served : ∀ before last, turns = before ++ [last] →
        last.fails messages (dequeued before).length = false) :
      Ended messages requested turns (.finish status (dequeued turns))
  | giveUp (status : UInt32) (before : List Turn) (last : Turn) (split : turns = before ++ [last])
      (fit : FitFrom messages 0 (dequeued before))
      (fails : last.fails messages (dequeued before).length = true) :
      Ended messages requested turns (.giveUp status (match last.message with
        | some message => messages.set (dequeued before).length
            (copyMessage message (messages.getD (dequeued before).length {})).2
        | none => messages))

theorem readLoop_ended (earlier : List Turn) {turns : List Turn} {exit : Exit}
    (ends : readLoop messages requested timeout start (dequeued earlier) turns = some (exit, []))
    (fit : FitFrom messages 0 (dequeued earlier)) (short : (dequeued earlier).length ≤ requested)
    (served : ∀ before last, earlier = before ++ [last] →
      last.fails messages (dequeued before).length = false) :
    Ended messages requested (earlier ++ turns) exit := by
  induction turns generalizing earlier with
  | nil =>
      unfold readLoop at ends
      split at ends
      · cases ends
        rw [List.append_nil]
        exact .finish _ fit short served
      · cases ends
  | cons turn rest ih =>
      unfold readLoop at ends
      split at ends
      · cases ends
      case isFalse more =>
      have longer : (dequeued (earlier ++ [turn])).length ≤ requested := by
        have one : turn.message.toList.length ≤ 1 := by cases turn.message <;> simp
        rw [dequeued_concat, List.length_append]
        omega
      have split_last : ∀ before last, earlier ++ [turn] = before ++ [last] →
          before = earlier ∧ last = turn := by
        intro before last same
        obtain ⟨front, back⟩ := List.append_inj' same rfl
        exact ⟨front.symm, (List.singleton_inj.mp back).symm⟩
      rcases readTurn_cases messages requested timeout start (dequeued earlier) turn with
        ⟨fails, status, gaveUp⟩ | ⟨passes, fits, ⟨status, finished⟩ | next⟩
      · simp only [gaveUp, Option.some.injEq, Prod.mk.injEq] at ends
        obtain ⟨rfl, rfl⟩ := ends
        exact .giveUp status earlier turn rfl fit fails
      · simp only [finished, Option.some.injEq, Prod.mk.injEq] at ends
        obtain ⟨rfl, rfl⟩ := ends
        rw [← dequeued_concat]
        refine .finish status ?_ longer fun before last same => ?_
        · rw [dequeued_concat]
          exact fit.append (by rw [Nat.zero_add]; exact fits)
        · obtain ⟨rfl, rfl⟩ := split_last before last same
          exact passes
      · simp only [next] at ends
        rw [← dequeued_concat] at ends
        have ended := ih (earlier ++ [turn]) ends (by
          rw [dequeued_concat]
          exact fit.append (by rw [Nat.zero_add]; exact fits)) longer fun before last same => by
            obtain ⟨rfl, rfl⟩ := split_last before last same
            exact passes
        rw [List.append_assoc] at ended
        exact ended

/-- A turn that brings a message fails only if the message is larger than its buffer. -/
theorem Turn.large_of_fails {turn : Turn} {message : Message} {kept : Nat}
    (brings : turn.message = some message) (fails : turn.fails messages kept = true) :
    message.data.length > (messages.getD kept {}).dataBufferSize := by
  unfold Turn.message at brings
  unfold Turn.fails at fails
  generalize rpc turn.reply = answer at brings fails
  obtain ⟨status, response⟩ := answer
  dsimp only at brings fails
  split at brings
  case isTrue answered =>
    simp only [Bool.and_eq_true, decide_eq_true_eq] at answered
    obtain ⟨⟨succeeded, held⟩, single⟩ := answered
    obtain rfl := Option.some.inj brings
    simp only [succeeded, held, single, ne_eq, not_true_eq_false, decide_false, Bool.not_true,
      Bool.or_self, Bool.false_or, Bool.and_eq_true, decide_eq_true_eq] at fails
    exact fails.2
  case isFalse => cases brings

/-! ## The copy-out delivers -/

/-- Messages that fit are all delivered by the copy-out. -/
theorem delivered_of_fit {slots : List PassthruMsg} {first : Nat} {collected : List Message}
    (fit : FitFrom messages first collected) (tail : slots = messages.drop first)
    (room : collected.length ≤ slots.length) :
    delivered slots collected = (collected.length, copyOut slots collected) := by
  induction collected generalizing slots first with
  | nil => cases slots <;> rfl
  | cons message collected ih =>
      cases slots with
      | nil => simp at room
      | cons slot slots =>
          have here : messages.getD first {} = slot := by
            have := congrArg List.head? tail
            rw [List.head?_cons, List.head?_drop] at this
            rw [List.getD_eq_getElem?_getD, ← this, Option.getD_some]
          have rest := ih fit.2 (by
            have := congrArg List.tail tail
            rwa [List.tail_cons, List.tail_drop] at this)
            (Nat.le_of_succ_le_succ room)
          have fits := fit.1
          rw [here] at fits
          simp [delivered, fits, rest, copyOut]

/-- Once the first message fits, something is delivered. -/
theorem delivered_pos {message : Message} (collected : List Message)
    (fit : FitFrom messages 0 [message]) (room : 0 < messages.length) :
    0 < (delivered messages (message :: collected)).1 := by
  cases messages with
  | nil => simp at room
  | cons slot slots =>
      have fits : message.data.length ≤ slot.dataBufferSize := fit.1
      simp [delivered, fits]

end Loop

/-- A call that its turns end refused before the first turn, or ran the loop over all of them. -/
theorem passThruReadMsgs_cases {call : ReadCall} {turns : List Turn} {result : ReadResult}
    (ends : passThruReadMsgs call turns = some (result, [])) :
    (turns = [] ∧ (∀ count ∈ result.count, count = 0) ∧ result.messages = call.messages) ∨
    ∃ messages requested exit, call.messages = some messages ∧ 0 < requested ∧
      requested ≤ messages.length ∧ Ended messages requested turns exit ∧
      result = match exit with
        | .giveUp status messages => ⟨status, some 0, some messages⟩
        | .finish status collected =>
          ⟨status, some collected.length, some (copyOut messages collected)⟩ := by
  unfold passThruReadMsgs at ends
  cases asked : call.requested with
  | none =>
      simp only [asked, Option.some.injEq, Prod.mk.injEq] at ends
      obtain ⟨rfl, rfl⟩ := ends
      exact Or.inl ⟨rfl, nofun, rfl⟩
  | some requested =>
      have refused (status : UInt32) (same : some ((⟨status, some 0, call.messages⟩ : ReadResult),
          turns) = some (result, [])) : turns = [] ∧ (∀ count ∈ result.count, count = 0) ∧
            result.messages = call.messages := by
        simp only [Option.some.injEq, Prod.mk.injEq] at same
        obtain ⟨rfl, rfl⟩ := same
        exact ⟨rfl, fun count held => (Option.some.inj held).symm, rfl⟩
      simp only [asked] at ends
      split at ends
      · exact Or.inl (refused _ ends)
      cases given : call.messages with
      | none =>
          rw [given] at refused
          simp only [given] at ends
          exact Or.inl (refused _ ends)
      | some messages =>
          rw [given] at refused
          simp only [given] at ends
          split at ends
          · exact Or.inl (refused _ ends)
          split at ends
          · exact Or.inl (refused _ ends)
          split at ends
          · exact Or.inl (refused _ ends)
          split at ends
          · exact Or.inl (refused _ ends)
          case isFalse asking =>
          rw [Option.map_eq_some_iff] at ends
          obtain ⟨⟨exit, rest⟩, looped, same⟩ := ends
          have taken : rest = [] := by
            cases exit <;> exact (Prod.mk.inj same).2
          rw [taken] at looped same
          have ended := readLoop_ended [] looped True.intro (Nat.zero_le _)
            (fun before last same => by simp at same)
          refine Or.inr ⟨messages, requested, exit, rfl, Nat.pos_of_ne_zero asking,
            call.room messages given requested asked, ended, ?_⟩
          cases exit <;> exact (Prod.mk.inj same).1.symm

/-- **The host read conserves messages exactly when no reply fails after a message.** For every
call that its turns end: everything the call took out of the firmware's queue is delivered, in
order and counted, with at most the message that does not fit truncated, if and only if it is not
the case that the last turn fails (with an error status, a reply without a message, or a message
larger than its buffer) when an earlier turn has brought a message. -/
theorem passThruReadMsgs_conserves_iff {call : ReadCall} {turns : List Turn} {result : ReadResult}
    (ends : passThruReadMsgs call turns = some (result, [])) :
    Conserves call turns result ↔ ¬ FailsAfterMessage (call.messages.getD []) turns := by
  rcases passThruReadMsgs_cases ends with ⟨rfl, count, messages⟩ |
    ⟨messages, requested, exit, given, asking, room, ended, rfl⟩
  · have nothing (slots : List PassthruMsg) : delivered slots (dequeued []) = (0, slots) := by
      cases slots <;> rfl
    refine iff_of_true ⟨?_, ?_⟩ ?_
    · rw [nothing]
      exact count
    · rw [nothing, messages]
      rintro slots given
      rw [Option.mem_def.mp given, Option.getD_some]
    · rintro ⟨before, last, split, _⟩
      simp at split
  rw [given, Option.getD_some]
  cases ended with
  | finish status fit short served =>
      have all := delivered_of_fit fit rfl (Nat.le_trans short room)
      rw [List.drop_zero] at all
      refine iff_of_true ⟨?_, ?_⟩ ?_
      · rw [given, Option.getD_some, all]
        rintro count ⟨⟩
        rfl
      · rw [given, Option.getD_some, all]
        rintro slots ⟨⟩
        rfl
      · rintro ⟨before, last, split, _, fails⟩
        rw [served before last split] at fails
        cases fails
  | giveUp status before last split fit fails =>
      have unique : FailsAfterMessage messages turns ↔ dequeued before ≠ [] := by
        constructor
        · rintro ⟨front, other, same, brought, _⟩
          obtain ⟨rfl, _⟩ := List.append_inj' (split.symm.trans same) rfl
          exact brought
        · exact fun brought => ⟨before, last, split, brought, fails⟩
      rw [unique, not_not]
      have taken : dequeued turns = dequeued before ++ last.message.toList := by
        rw [split, dequeued_concat]
      have nonempty : 0 < messages.length := Nat.lt_of_lt_of_le asking room
      cases brought : dequeued before with
      | nil =>
          rw [brought, List.nil_append] at taken
          rw [brought] at fails
          refine iff_of_true ?_ rfl
          unfold Conserves
          rw [given, Option.getD_some, taken]
          cases carried : last.message with
          | none =>
              have untouched : delivered messages ([] : List Message) = (0, messages) := by
                cases messages <;> rfl
              rw [Option.toList_none, untouched]
              exact ⟨fun count held => (Option.some.inj held).symm,
                fun slots held => (Option.some.inj held).symm⟩
          | some message =>
              have large := Turn.large_of_fails carried fails
              cases messages with
              | nil => simp at nonempty
              | cons slot slots =>
                  have truncated : ¬ message.data.length ≤ slot.dataBufferSize :=
                    Nat.not_le_of_lt large
                  simp only [Option.toList_some, delivered, truncated, if_false]
                  exact ⟨fun count held => (Option.some.inj held).symm,
                    fun slots held => (Option.some.inj held).symm⟩
      | cons message earlier =>
          rw [brought] at taken fit
          refine iff_of_false ?_ (by simp)
          rintro ⟨count, _⟩
          have some_delivered := delivered_pos (earlier ++ last.message.toList)
            ⟨fit.1, True.intro⟩ nonempty
          have none_counted := count 0 rfl
          rw [given, Option.getD_some, taken, List.cons_append] at none_counted
          omega

/-- The firmware's reply to a read. -/
def readReply : Status × Option Message → Response
  | (status, none) => { status := status.code }
  | (status, some message) => { status := status.code, hasMessage := true, count := 1, message }

/-- A burst whose last message reports the overflow is delivered whole. -/
theorem passThruReadMsgs_conserves_overflow_bit :
    let slot : PassthruMsg := { dataBuffer := some [0, 0, 0, 0], dataBufferSize := 4 }
    let call : ReadCall :=
      { messages := some [slot, slot, slot], requested := some 3, timeout := 0, room := by simp }
    let turns : List Turn :=
      [⟨some (readReply (.ok, some { rxStatus := 0, data := [1, 2] })), 0⟩,
        ⟨some (readReply (.ok, some { rxStatus := 0x40, data := [3] })), 1⟩]
    ∃ result, passThruReadMsgs call turns = some (result, []) ∧ result.count = some 2 ∧
      Conserves call turns result := by
  intro slot call turns
  have ends : (passThruReadMsgs call turns).map (fun ended => (ended.1.count, ended.2)) =
      some (some 2, []) := by decide
  obtain ⟨⟨result, rest⟩, ended, counted⟩ := Option.map_eq_some_iff.mp ends
  obtain ⟨count, rfl⟩ := Prod.mk.inj counted
  refine ⟨result, ended, count, (passThruReadMsgs_conserves_iff ended).mpr ?_⟩
  rintro ⟨before, last, split, _, fails⟩
  obtain ⟨front, back⟩ := List.append_inj' (show [_] ++ [_] = before ++ [last] from split) rfl
  obtain rfl := front
  obtain rfl := List.singleton_inj.mp back
  revert fails
  decide

/-- A message whose successor was lost is read and then dropped when the emptied queue reports the
loss as a status. -/
theorem passThruReadMsgs_loses_message :
    let record : Record := ⟨5, 0, 0, 1000, [0, 0, 7, 0xe8, 1], false⟩
    let replies := (outputs RxQueue.step {} [.enqueue record, .mark, .read, .read]).filterMap id
    let turns : List Turn := replies.map fun reply => ⟨some (readReply reply), 0⟩
    let slot : PassthruMsg := { dataBuffer := some [0, 0, 0, 0, 0], dataBufferSize := 5 }
    let call : ReadCall :=
      { messages := some [slot, slot], requested := some 2, timeout := 0, room := by simp }
    dequeued turns = [record.message false] ∧
      passThruReadMsgs call turns = some (⟨errBufferOverflow, some 0, some [slot, slot]⟩, []) ∧
      ¬ Conserves call turns ⟨errBufferOverflow, some 0, some [slot, slot]⟩ := by
  decide

end OpenDiag.Host
