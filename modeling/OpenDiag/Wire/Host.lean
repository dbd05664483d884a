import OpenDiag.Wire.Firmware

/-!
# The host's end of the wire

`link.cpp`: a request goes out in fragments, each of which the firmware answers; the rest of the
response is then fetched. The two ends are joined by a channel that loses nothing and keeps the
order, but may cut what the host writes into pieces that reach the firmware at times of its own.
The host waits for the bytes it reads as long as it takes; only bytes that never come end in the
exception of the deadline.
-/

namespace OpenDiag.Wire

/-- What the host throws. -/
inductive LinkError
  | encoding
  | deadline
  | header
  | crc
  | acknowledgement
  | fragments
  | decoding
  deriving DecidableEq, Repr

/-- A byte channel to the firmware. What the host writes is cut into the calls of `feed`, and each
call comes at the time of the clock. -/
structure Channel where
  cut : Nat → List UInt8 → List (List UInt8)
  clock : Nat → Time
  lossless : ∀ call bytes, (cut call bytes).flatten = bytes

/-- The host's sequence counter, the firmware, and the calls of `feed` so far. -/
structure Link (κ : Type) where
  sequence : UInt32 := 0
  firmware : Firmware κ
  feeds : Nat := 0

/-- The host's code: it throws, or goes on with another state. -/
abbrev LinkM (κ : Type) := EStateM LinkError (Link κ)

/-- The generated code for the messages, and the tag of a request's command. -/
structure Codec (ρ α : Type) where
  whichCommand : ρ → UInt8
  encode : ρ → Option (List UInt8)
  decode : List UInt8 → Option α

/-- What `receive` returns of a frame. -/
structure Fragment where
  flags : UInt16 := 0
  offset : Nat := 0
  data : List UInt8 := []
  deriving DecidableEq, Repr

section Code

variable {κ ρ α : Type} (coreRequest : UInt8 → List UInt8 → κ → List UInt8 × κ)
  (channel : Channel)

/-- A piece of what the host wrote reaches the firmware. -/
def Link.feed (link : Link κ) (piece : List UInt8) : Link κ :=
  { link with
    firmware := Wire.feed coreRequest link.firmware piece (channel.clock link.feeds)
    feeds := link.feeds + 1 }

/-- `stream_.write`. -/
def write (bytes : List UInt8) : LinkM κ Unit :=
  modify fun link => (channel.cut link.feeds bytes).foldl (Link.feed coreRequest channel) link

/-- `stream_.read`. -/
def read (count : Nat) : LinkM κ (List UInt8) := do
  let link ← get
  let bytes := link.firmware.written
  set { link with firmware := { link.firmware with written := bytes.drop count } }
  if bytes.length < count then throw .deadline
  return bytes.take count

def send (operation : UInt8) (flags : UInt16) (offset : Nat) (data : List UInt8) :
    LinkM κ Unit := do
  write coreRequest channel (frameBytes operation flags (← get).sequence offset data)

def receive (operation : UInt8) : LinkM κ Fragment := do
  let header ← read wireHeaderSize
  let size := (get16 (header.drop 14)).toNat
  if header.take 4 ≠ wireMagic ∨ header.getD 4 0 ≠ wireVersion ∨ header.getD 5 0 ≠ operation ∨
      get32 (header.drop 8) ≠ (← get).sequence ∨ size > fragmentMax then
    throw .header
  let frame := header ++ (← read (size + wireCrcSize))
  if get32 (frame.drop (wireHeaderSize + size)) ≠ crc32 ((frame.drop 4).take (12 + size)) then
    throw .crc
  return {
    flags := get16 (frame.drop 6)
    offset := (get16 (frame.drop 12)).toNat
    data := (frame.drop wireHeaderSize).take size }

/-- The loop over the request. Every turn sends at least one byte. -/
def sendRequest (operation : UInt8) (encoded : List UInt8) :
    Nat → Nat → Fragment → LinkM κ Fragment
  | 0, _, got => return got
  | fuel + 1, offset, got =>
    if offset < encoded.length then do
      let data := fragmentAt encoded offset
      let more := offset + data.length < encoded.length
      send coreRequest channel operation (if more then wireMore else 0) offset data
      let got ← receive operation
      let offset := offset + data.length
      if more ∧ (got.flags ≠ wireResponse ||| wireAck ∨ got.offset ≠ offset ∨ got.data ≠ []) then
        throw .acknowledgement
      sendRequest operation encoded fuel offset got
    else return got

/-- The loop over the response. Every turn but the last brings at least one byte. -/
def fetchResponse (operation : UInt8) : Nat → List UInt8 → Fragment → LinkM κ (List UInt8)
  | 0, _, _ => throw .fragments
  | fuel + 1, decoded, got => do
    let finalFragment := got.flags = wireResponse
    let moreFragments := got.flags = wireResponse ||| wireMore
    if ¬ (finalFragment ∨ moreFragments) ∨ got.offset ≠ decoded.length ∨
        decoded.length + got.data.length > rpcMax ∨ (moreFragments ∧ got.data = []) then
      throw .fragments
    let decoded := decoded ++ got.data
    if finalFragment then return decoded
    send coreRequest channel operation wireFetch decoded.length []
    let got ← receive operation
    fetchResponse operation fuel decoded got

/-- `Link::rpc`. -/
def rpc (codec : Codec ρ α) (request : ρ) : LinkM κ α := do
  if codec.whichCommand request = 0 then throw .encoding
  let some encoded := codec.encode request | throw .encoding
  modify fun link => { link with sequence := link.sequence + 1 }
  let operation := codec.whichCommand request - 1
  let got ← sendRequest coreRequest channel operation encoded encoded.length 0 {}
  let decoded ← fetchResponse coreRequest channel operation (rpcMax + 1) [] got
  let some response := codec.decode decoded | throw .decoding
  return response

/-! ## What the firmware is fed -/

variable {coreRequest channel}

/-- After an action that succeeds the next one goes on from its state. -/
theorem bind_of_ok {β γ : Type} {action : LinkM κ β} {next : β → LinkM κ γ} {link link' : Link κ}
    {result : β} (ends : action link = .ok result link') :
    (action >>= next) link = next result link' := by
  simp only [bind, EStateM.bind, ends]

/-- An action that does the same on two links goes on the same. -/
theorem bind_of_eq {β γ : Type} {action : LinkM κ β} {next : β → LinkM κ γ} {link link' : Link κ}
    (same : action link = action link') : (action >>= next) link = (action >>= next) link' := by
  simp only [bind, EStateM.bind, same]

theorem get_apply (link : Link κ) : (get : LinkM κ (Link κ)) link = .ok link link := rfl

theorem set_apply (link link' : Link κ) : (set link' : LinkM κ Unit) link = .ok () link' := rfl

/-- A write feeds the device piece by piece, as the channel cuts it. -/
theorem write_apply (bytes : List UInt8) (link : Link κ) :
    write coreRequest channel bytes link =
      .ok () ((channel.cut link.feeds bytes).foldl (Link.feed coreRequest channel) link) :=
  rfl

/-- No two consecutive calls of `feed` from this one on are further apart than the timeout. -/
def Channel.PromptFrom (channel : Channel) (first : Nat) : Prop :=
  ∀ call, first ≤ call → channel.clock (call + 1) - channel.clock call ≤ wireTimeoutUs

/-- The next call of `feed` comes in time. -/
def Link.InTime (channel : Channel) (link : Link κ) : Prop :=
  channel.clock link.feeds - link.firmware.wire.lastInputUs ≤ wireTimeoutUs

/-- A call that comes in time feeds the bytes. -/
theorem Link.feed_of_inTime {link : Link κ} {piece : List UInt8} (inTime : link.InTime channel) :
    link.feed coreRequest channel piece =
      { link with
        firmware := (piece.foldl (feedByte coreRequest) link.firmware).stamp
          (channel.clock link.feeds)
        feeds := link.feeds + 1 } := by
  have kept : ¬ channel.clock link.feeds - link.firmware.wire.lastInputUs > wireTimeoutUs :=
    UInt32.not_lt.mpr inTime
  rw [Link.feed, Wire.feed, if_neg kept]
  exact congrArg (fun fw => { link with firmware := fw, feeds := link.feeds + 1 })
    (foldl_feedByte_stamp coreRequest link.firmware piece _)

/-- Pieces that come in time feed their bytes, however they are cut. -/
theorem Link.foldl_feed_of_inTime {link : Link κ} {pieces : List (List UInt8)}
    (prompt : channel.PromptFrom link.feeds) (inTime : link.InTime channel) :
    ∃ time, pieces.foldl (Link.feed coreRequest channel) link =
        { link with
          firmware := (pieces.flatten.foldl (feedByte coreRequest) link.firmware).stamp time
          feeds := link.feeds + pieces.length } ∧
      channel.clock (link.feeds + pieces.length) - time ≤ wireTimeoutUs := by
  induction pieces generalizing link with
  | nil => exact ⟨link.firmware.wire.lastInputUs, rfl, inTime⟩
  | cons piece pieces ih =>
      have fed : link.feed coreRequest channel piece = _ := Link.feed_of_inTime inTime
      have prompt' : channel.PromptFrom (link.feeds + 1) := fun call later =>
        prompt call (Nat.le_of_succ_le later)
      obtain ⟨time, rest, next⟩ := @ih _ prompt' (show Link.InTime channel
        { link with
          firmware := (piece.foldl (feedByte coreRequest) link.firmware).stamp
            (channel.clock link.feeds)
          feeds := link.feeds + 1 } from prompt link.feeds (Nat.le_refl _))
      have count : link.feeds + 1 + pieces.length = link.feeds + (pieces.length + 1) := by omega
      refine ⟨time, ?_, by rw [List.length_cons, ← count]; exact next⟩
      rw [List.foldl_cons, fed, rest, foldl_feedByte_stamp, stamp_stamp, List.flatten_cons,
        List.foldl_append, List.length_cons, ← count]

/-- Between the exchanges no part of a frame is held, and no byte is on its way. -/
structure Link.Rests (link : Link κ) : Prop where
  frame : link.firmware.wire.frame = []
  written : link.firmware.written = []

/-- The link between two exchanges, with the next frame in time. -/
structure Link.Live (channel : Channel) (link : Link κ) : Prop extends link.Rests where
  prompt : channel.PromptFrom link.feeds
  inTime : link.InTime channel

/-- A first call that comes late drops what is left of before. This is the link as such a call
finds it then. -/
def Link.awake (channel : Channel) (link : Link κ) : Link κ :=
  if channel.clock link.feeds - link.firmware.wire.lastInputUs > wireTimeoutUs then
    { link with firmware := { link.firmware with wire := { link.firmware.wire with
        frame := []
        assemblingRequest := false
        lastInputUs := channel.clock link.feeds } } }
  else link

section Awake

variable {link : Link κ}

/-- A link that has been woken has had its input just now. -/
theorem Link.awake_inTime : (link.awake channel).InTime channel := by
  unfold Link.awake Link.InTime
  split
  · rw [UInt32.sub_self]
    decide
  · exact UInt32.not_lt.mp ‹_›

/-- A link that is in time is fed as if it had just been woken. -/
theorem Link.feed_awake {piece : List UInt8} :
    (link.awake channel).feed coreRequest channel piece = link.feed coreRequest channel piece := by
  unfold Link.awake
  split
  case isTrue late =>
      have fresh : ¬ channel.clock link.feeds - channel.clock link.feeds > wireTimeoutUs := by
        rw [UInt32.sub_self]
        decide
      simp only [Link.feed, Wire.feed, fresh, late, if_true, if_false]
  case isFalse => rfl

/-- What is written first wakes the link. -/
theorem write_awake {bytes : List UInt8} (nonempty : bytes ≠ []) :
    write coreRequest channel bytes (link.awake channel) = write coreRequest channel bytes link := by
  have same : (link.awake channel).feeds = link.feeds := by
    unfold Link.awake
    split <;> rfl
  have pieces := channel.lossless link.feeds bytes
  rw [write_apply, write_apply, same]
  cases cut : channel.cut link.feeds bytes with
  | nil =>
      rw [cut] at pieces
      exact absurd pieces.symm nonempty
  | cons piece pieces => rw [List.foldl_cons, List.foldl_cons, Link.feed_awake]

@[simp] theorem Link.awake_sequence : (link.awake channel).sequence = link.sequence := by
  unfold Link.awake
  split <;> rfl

@[simp] theorem Link.awake_core : (link.awake channel).firmware.core = link.firmware.core := by
  unfold Link.awake
  split <;> rfl

@[simp] theorem Link.awake_calls : (link.awake channel).firmware.calls = link.firmware.calls := by
  unfold Link.awake
  split <;> rfl

@[simp] theorem Link.awake_refused :
    (link.awake channel).firmware.refused = link.firmware.refused := by
  unfold Link.awake
  split <;> rfl

/-- So a frame is sent to it as if it had just been woken. -/
theorem send_awake {operation : UInt8} {flags : UInt16} {offset : Nat} {data : List UInt8} :
    send coreRequest channel operation flags offset data (link.awake channel) =
      send coreRequest channel operation flags offset data link := by
  change write coreRequest channel
    (frameBytes operation flags (link.awake channel).sequence offset data) (link.awake channel) = _
  rw [Link.awake_sequence, write_awake frameBytes_ne_nil]
  rfl

/-- A link that rests is woken by a prompt channel. -/
theorem Link.live_awake (rests : link.Rests) (prompt : channel.PromptFrom link.feeds) :
    (link.awake channel).Live channel := by
  refine ⟨?_, ?_, Link.awake_inTime⟩
  · unfold Link.awake
    split
    · exact ⟨rfl, rests.written⟩
    · exact rests
  · unfold Link.awake
    split <;> exact prompt

end Awake

/-- A frame that the host writes is processed, and nothing of it is left. -/
theorem write_of_live {link : Link κ} {operation : UInt8} {flags : UInt16} {sequence : UInt32}
    {offset : Nat} {data : List UInt8} (live : link.Live channel) (fits : data.length ≤ fragmentMax) :
    ∃ link' time, write coreRequest channel (frameBytes operation flags sequence offset data) link =
        .ok () link' ∧
      link'.firmware = ((processFrame coreRequest
        (link.firmware.hold (frameBytes operation flags sequence offset data))).hold []).stamp time ∧
      link'.sequence = link.sequence ∧ channel.PromptFrom link'.feeds ∧ link'.InTime channel := by
  let bytes := frameBytes operation flags sequence offset data
  obtain ⟨time, fed, inTime⟩ := @Link.foldl_feed_of_inTime _ coreRequest _ _
    (channel.cut link.feeds bytes) live.prompt live.inTime
  rw [channel.lossless, foldl_feedByte_of_frame fits frameBytes_ne_nil (by rw [live.frame]; rfl)] at fed
  refine ⟨_, time, congrArg (EStateM.Result.ok ()) fed, rfl, rfl, ?_, inTime⟩
  exact fun call later => live.prompt call (Nat.le_trans (Nat.le_add_right _ _) later)

/-- Bytes that have come are read. -/
theorem read_of_le {link : Link κ} {count : Nat} (come : count ≤ link.firmware.written.length) :
    read count link = .ok (link.firmware.written.take count)
      { link with
        firmware := { link.firmware with written := link.firmware.written.drop count } } := by
  have enough : ¬ link.firmware.written.length < count := Nat.not_lt_of_le come
  simp only [read, bind, EStateM.bind, get_apply, set_apply, enough, if_false, pure, EStateM.pure]

/-- A frame that is all there is to read is received. -/
theorem receive_of_written {link : Link κ} {operation : UInt8} {flags : UInt16} {offset : Nat}
    {data : List UInt8}
    (written : link.firmware.written = frameBytes operation flags link.sequence offset data)
    (near : offset < 65536) (fits : data.length ≤ fragmentMax) :
    receive operation link = .ok ⟨flags, offset, data⟩
      { link with firmware := { link.firmware with written := [] } } := by
  let frame := frameBytes operation flags link.sequence offset data
  have length : frame.length = wireHeaderSize + data.length + wireCrcSize := length_frameBytes
  have header : read wireHeaderSize link = .ok (frame.take wireHeaderSize)
      { link with firmware := { link.firmware with written := frame.drop wireHeaderSize } } := by
    rw [read_of_le (by rw [written, length_frameBytes]; omega), written]
  have rest : read (data.length + wireCrcSize)
      { link with firmware := { link.firmware with written := frame.drop wireHeaderSize } } =
      .ok (frame.drop wireHeaderSize)
        { link with firmware := { link.firmware with written := [] } } := by
    have tail : (frame.drop wireHeaderSize).length = data.length + wireCrcSize := by
      rw [List.length_drop]
      omega
    rw [read_of_le (by simp only; omega)]
    simp only [List.take_of_length_le (Nat.le_of_eq tail),
      List.drop_of_length_le (Nat.le_of_eq tail)]
  have size : (get16 ((frame.take wireHeaderSize).drop 14)).toNat = data.length :=
    (header_of_begun (List.take_prefix _ frame)
      (by rw [List.length_take, length]; omega) fits).2
  have sequence : get32 ((frame.take wireHeaderSize).drop 8) = link.sequence :=
    get32_put32_append _ _
  have known : ¬ ((frame.take wireHeaderSize).take 4 ≠ wireMagic ∨
      (frame.take wireHeaderSize).getD 4 0 ≠ wireVersion ∨
      (frame.take wireHeaderSize).getD 5 0 ≠ operation ∨
      get32 ((frame.take wireHeaderSize).drop 8) ≠ link.sequence ∨ data.length > fragmentMax) := by
    rintro (wrong | wrong | wrong | wrong | wrong)
    · exact wrong rfl
    · exact wrong rfl
    · exact wrong rfl
    · exact wrong sequence
    · omega
  have crc : ¬ get32 (frame.drop (wireHeaderSize + data.length)) ≠
      crc32 ((frame.drop 4).take (12 + data.length)) := fun differs => differs frameBytes_crc
  rw [receive, bind_of_ok header]
  dsimp only
  rw [size]
  simp only [bind, EStateM.bind, get_apply, known, if_false, rest, List.take_append_drop, crc]
  rw [show get16 (frame.drop 6) = flags from frameBytes_flags,
    show (get16 (frame.drop 12)).toNat = offset from frameBytes_offset near,
    show (frame.drop wireHeaderSize).take data.length = data from frameBytes_payload]
  rfl

end Code

end OpenDiag.Wire
