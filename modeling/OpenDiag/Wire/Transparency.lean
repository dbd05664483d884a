import OpenDiag.Wire.Host

/-!
# The wire is transparent

An RPC hands the core exactly the encoded request, once, and the decoder exactly the core's
response, as long as no two calls of `feed` of the RPC are more than the wire's timeout apart. The
timeout is there to drop a frame or a request that was broken off, and it cannot tell one that is
only slow: a pause inside a frame makes the firmware ignore it.
-/

namespace OpenDiag.Wire

section Exchange

variable {κ ρ α : Type} {coreRequest : UInt8 → List UInt8 → κ → List UInt8 × κ}
  {channel : Channel} {operation : UInt8} {link : Link κ}

/-- A frame that the firmware answers with one frame is a whole exchange. -/
theorem exchange {flags : UInt16} {offset : Nat} {data : List UInt8} {answered : Firmware κ}
    {reply : Fragment} (live : link.Live channel) (fits : data.length ≤ fragmentMax)
    (answers : processFrame coreRequest
      (link.firmware.hold (frameBytes operation flags link.sequence offset data)) = answered)
    (written : answered.written =
      frameBytes operation reply.flags link.sequence reply.offset reply.data)
    (near : reply.offset < 65536) (small : reply.data.length ≤ fragmentMax) :
    ∃ sent link' time,
      send coreRequest channel operation flags offset data link = .ok () sent ∧
      receive operation sent = .ok reply link' ∧ link'.Live channel ∧
      link'.sequence = link.sequence ∧
      link'.firmware = { (answered.hold []).stamp time with written := [] } := by
  obtain ⟨sent, time, wrote, firmware, sequence, prompt, inTime⟩ :=
    @write_of_live _ coreRequest channel link operation flags link.sequence offset data live fits
  rw [answers] at firmware
  have come : sent.firmware.written =
      frameBytes operation reply.flags sent.sequence reply.offset reply.data := by
    rw [firmware, sequence]
    exact written
  refine ⟨sent, _, time, wrote, receive_of_written come near small, ?_, sequence, ?_⟩
  · refine ⟨⟨?_, rfl⟩, prompt, inTime⟩
    rw [firmware]
    rfl
  · rw [firmware]

/-- A fragment of the request that is not the last is acknowledged. -/
theorem exchange_of_more {request data : List UInt8} (live : link.Live channel)
    (expects : link.firmware.Expects operation link.sequence request)
    (nonempty : data ≠ []) (small : data.length ≤ fragmentMax)
    (room : request.length + data.length ≤ rpcMax) :
    ∃ sent link', send coreRequest channel operation wireMore request.length data link =
        .ok () sent ∧
      receive operation sent =
        .ok ⟨wireResponse ||| wireAck, request.length + data.length, []⟩ link' ∧
      link'.Live channel ∧ link'.sequence = link.sequence ∧
      link'.firmware.Assembles operation link.sequence (request ++ data) ∧
      link'.firmware.core = link.firmware.core ∧ link'.firmware.calls = link.firmware.calls ∧
      link'.firmware.refused = link.firmware.refused := by
  let held := link.firmware.hold
    (frameBytes operation wireMore link.sequence request.length data)
  have expects : held.Expects operation link.sequence request := expects.hold _
  have assembles := begun_assembles expects
  have answers := @processFrame_of_request _ coreRequest held operation wireMore link.sequence
    data request rfl (.inl rfl) expects nonempty small room
  have acknowledged : ((held.begun operation link.sequence request).taken coreRequest wireMore
      (request ++ data)).written =
      frameBytes operation (wireResponse ||| wireAck) link.sequence
        (request.length + data.length) [] :=
    calc ((held.begun operation link.sequence request).taken coreRequest wireMore
          (request ++ data)).written
        = (held.begun operation link.sequence request).written ++
            frameBytes (held.begun operation link.sequence request).wire.operation
              (wireResponse ||| wireAck) (held.begun operation link.sequence request).wire.sequence
              (request ++ data).length [] := rfl
      _ = frameBytes operation (wireResponse ||| wireAck) link.sequence
            (request.length + data.length) [] := by
          rw [begun_written, assembles.operation, assembles.sequence, List.length_append,
            show held.written = [] from live.written, List.nil_append]
  have near : request.length + data.length < 65536 := by simp only [rpcMax] at room; omega
  obtain ⟨sent, link', time, wrote, received, live', sequence, firmware⟩ :=
    @exchange _ _ _ _ _ _ _ _ _ ⟨wireResponse ||| wireAck, request.length + data.length, []⟩
      live small answers acknowledged near (Nat.zero_le _)
  refine ⟨sent, link', wrote, received, live', sequence, ?_, ?_, ?_, ?_⟩
  · rw [firmware]
    exact ⟨assembles.assembling, assembles.sequence, assembles.operation, rfl⟩
  · rw [firmware]
    exact begun_core
  · rw [firmware]
    exact begun_calls
  · rw [firmware]
    exact begun_refused

/-- What `receive` returns of the fragment of a response. -/
def responseAt (response : List UInt8) (offset : Nat) : Fragment :=
  let data := fragmentAt response offset
  ⟨wireResponse ||| if offset + data.length < response.length then wireMore else 0, offset, data⟩

/-- The last fragment of the request calls the core and is answered with the first fragment of the
response. -/
theorem exchange_of_last {request data response : List UInt8} {core : κ}
    (live : link.Live channel)
    (expects : link.firmware.Expects operation link.sequence request)
    (nonempty : data ≠ []) (small : data.length ≤ fragmentMax)
    (room : request.length + data.length ≤ rpcMax)
    (calls : coreRequest operation (request ++ data) link.firmware.core = (response, core)) :
    ∃ sent link', send coreRequest channel operation 0 request.length data link =
        .ok () sent ∧
      receive operation sent = .ok (responseAt response 0) link' ∧
      link'.Live channel ∧ link'.sequence = link.sequence ∧
      link'.firmware.Serves operation link.sequence response ∧
      link'.firmware.core = core ∧
      link'.firmware.calls = link.firmware.calls ++ [(operation, request ++ data)] ∧
      link'.firmware.refused = link.firmware.refused := by
  let held := link.firmware.hold (frameBytes operation 0 link.sequence request.length data)
  have expects : held.Expects operation link.sequence request := expects.hold _
  have assembles := begun_assembles expects
  have answers := @processFrame_of_request _ coreRequest held operation 0 link.sequence
    data request rfl (.inr rfl) expects nonempty small room
  have called : coreRequest (held.begun operation link.sequence request).wire.operation
      (request ++ data) (held.begun operation link.sequence request).core = (response, core) := by
    rw [assembles.operation, begun_core]
    exact calls
  rw [taken_of_last called, begun_calls, begun_written, assembles.operation, assembles.sequence,
    show held.written = [] from live.written, List.nil_append] at answers
  obtain ⟨sent, link', time, wrote, received, live', sequence, firmware⟩ :=
    @exchange _ _ _ _ _ _ _ _ _ (responseAt response 0) live small answers rfl
      (Nat.zero_lt_succ _) length_fragmentAt_le
  refine ⟨sent, link', wrote, received, live', sequence, ?_, ?_, ?_, ?_⟩
  · rw [firmware]
    exact ⟨rfl, assembles.sequence, assembles.operation, rfl⟩
  · rw [firmware]
    rfl
  · rw [firmware]
    rfl
  · rw [firmware]
    exact begun_refused

/-- A fetch is answered with the fragment it asks for. -/
theorem exchange_of_fetch {response : List UInt8} {offset : Nat} (live : link.Live channel)
    (serves : link.firmware.Serves operation link.sequence response)
    (within : offset ≤ response.length) (fits : response.length ≤ rpcMax) :
    ∃ sent link', send coreRequest channel operation wireFetch offset [] link = .ok () sent ∧
      receive operation sent = .ok (responseAt response offset) link' ∧
      link'.Live channel ∧ link'.sequence = link.sequence ∧
      link'.firmware.Serves operation link.sequence response ∧
      link'.firmware.core = link.firmware.core ∧ link'.firmware.calls = link.firmware.calls ∧
      link'.firmware.refused = link.firmware.refused := by
  let held := link.firmware.hold (frameBytes operation wireFetch link.sequence offset [])
  have near : offset < 65536 := by simp only [rpcMax] at fits; omega
  have answers := @processFrame_of_fetch _ coreRequest held operation link.sequence offset response
    rfl ⟨serves.ready, serves.sequence, serves.operation, serves.response⟩ within near
  rw [show held.written = [] from live.written, List.nil_append] at answers
  obtain ⟨sent, link', time, wrote, received, live', sequence, firmware⟩ :=
    @exchange _ _ _ _ _ _ _ _ _ (responseAt response offset) live (Nat.zero_le _) answers rfl
      near length_fragmentAt_le
  refine ⟨sent, link', wrote, received, live', sequence, ?_, ?_, ?_, ?_⟩
  · rw [firmware]
    exact ⟨serves.ready, serves.sequence, serves.operation, serves.response⟩
  all_goals
    rw [firmware]
    rfl

/-! ## The loops -/

/-- What a request leaves behind: the core was called with it, once, no frame was refused, and the
response is there to be fetched. -/
structure Link.Answered (channel : Channel) (operation : UInt8) (request response : List UInt8)
    (core : κ) (link link' : Link κ) : Prop where
  live : link'.Live channel
  sequence : link'.sequence = link.sequence
  serves : link'.firmware.Serves operation link.sequence response
  core : link'.firmware.core = core
  calls : link'.firmware.calls = link.firmware.calls ++ [(operation, request)]
  refused : link'.firmware.refused = link.firmware.refused

theorem sendRequest_of_sent {encoded : List UInt8} {fuel offset : Nat} {got : Fragment}
    (sent : encoded.length ≤ offset) :
    sendRequest coreRequest channel operation encoded fuel offset got link = .ok got link := by
  cases fuel with
  | zero => rfl
  | succ fuel =>
      rw [sendRequest, if_neg (Nat.not_lt_of_le sent)]
      rfl

/-- The loop over the request, from any of its fragments on. -/
theorem sendRequest_of_live {encoded response : List UInt8} {core : κ} (fuel : Nat)
    {offset : Nat} {got : Fragment} (live : link.Live channel)
    (expects : link.firmware.Expects operation link.sequence (encoded.take offset))
    (left : offset < encoded.length) (enough : encoded.length ≤ offset + fuel)
    (fits : encoded.length ≤ rpcMax)
    (calls : coreRequest operation encoded link.firmware.core = (response, core)) :
    ∃ link', sendRequest coreRequest channel operation encoded fuel offset got link =
        .ok (responseAt response 0) link' ∧
      link.Answered channel operation encoded response core link' := by
  induction fuel generalizing offset got link with
  | zero => omega
  | succ fuel ih =>
      have size := @length_fragmentAt encoded offset
      have nonempty := fragmentAt_ne_nil left
      have positive := List.length_pos_of_ne_nil nonempty
      have before : (encoded.take offset).length = offset := List.length_take_of_le left.le
      have joined := @take_append_fragmentAt encoded offset
      have room : (encoded.take offset).length + (fragmentAt encoded offset).length ≤ rpcMax := by
        omega
      rw [sendRequest, if_pos left]
      by_cases more : offset + (fragmentAt encoded offset).length < encoded.length
      · obtain ⟨sent, link', wrote, received, live', sequence, assembles, core', calls',
          refused⟩ := exchange_of_more live expects nonempty length_fragmentAt_le room
        rw [before] at wrote received
        rw [joined, ← sequence] at assembles
        obtain ⟨link'', rest, answered⟩ := ih live' (.inr assembles) more (by omega)
          (by rw [core']; exact calls)
        refine ⟨link'', ?_, ⟨answered.live, answered.sequence.trans sequence, ?_, answered.core,
          ?_, answered.refused.trans refused⟩⟩
        · simp only [more, if_true]
          rw [bind_of_ok wrote, bind_of_ok received]
          simpa only [ne_eq, not_true_eq_false, or_self, and_false, if_false] using rest
        · rw [← sequence]
          exact answered.serves
        · rw [answered.calls, calls']
      · have whole : encoded.take offset ++ fragmentAt encoded offset = encoded := by
          rw [joined, List.take_of_length_le (Nat.le_of_not_lt more)]
        have called : coreRequest operation (encoded.take offset ++ fragmentAt encoded offset)
            link.firmware.core = (response, core) := by
          rw [whole]
          exact calls
        obtain ⟨sent, link', wrote, received, live', sequence, serves, core', calls',
          refused⟩ := exchange_of_last live expects nonempty length_fragmentAt_le room called
        rw [before] at wrote
        rw [whole] at calls'
        refine ⟨link', ?_, live', sequence, serves, core', calls', refused⟩
        simp only [more, if_false]
        rw [bind_of_ok wrote, bind_of_ok received]
        simpa only [false_and, if_false] using sendRequest_of_sent (Nat.le_of_not_lt more)

/-- The loop over the response, from any of its fragments on. -/
theorem fetchResponse_of_serves {response : List UInt8} (fuel : Nat) {offset : Nat}
    (live : link.Live channel) (serves : link.firmware.Serves operation link.sequence response)
    (within : offset ≤ response.length) (enough : response.length < offset + fuel)
    (fits : response.length ≤ rpcMax) :
    ∃ link', fetchResponse coreRequest channel operation fuel (response.take offset)
        (responseAt response offset) link = .ok response link' ∧
      link'.Rests ∧ link'.firmware.core = link.firmware.core ∧
      link'.firmware.calls = link.firmware.calls ∧
      link'.firmware.refused = link.firmware.refused := by
  induction fuel generalizing offset link with
  | zero => omega
  | succ fuel ih =>
      have size := @length_fragmentAt response offset
      have before : (response.take offset).length = offset := List.length_take_of_le within
      have joined := @take_append_fragmentAt response offset
      have room : ¬ offset + (fragmentAt response offset).length > rpcMax := by omega
      by_cases more : offset + (fragmentAt response offset).length < response.length
      · have nonempty : fragmentAt response offset ≠ [] := fragmentAt_ne_nil (by omega)
        have positive := List.length_pos_of_ne_nil nonempty
        obtain ⟨sent, link', wrote, received, live', sequence, serves', core', calls',
          refused⟩ := @exchange_of_fetch _ coreRequest _ _ _ _ _ live serves more.le fits
        rw [← sequence] at serves'
        obtain ⟨link'', rest, rests, core'', calls'', refused''⟩ :=
          ih live' serves' more.le (by omega)
        refine ⟨link'', ?_, rests, core''.trans core', calls''.trans calls',
          refused''.trans refused⟩
        have notFinal : ¬ wireResponse ||| wireMore = wireResponse := by decide
        rw [fetchResponse]
        simp only [responseAt, more, if_true, notFinal, before, ne_eq, not_true_eq_false, or_true,
          false_or, room, nonempty, and_false, if_false, joined, List.length_take_of_le more.le]
        rw [bind_of_ok wrote, bind_of_ok received]
        exact rest
      · have whole : response.take offset ++ fragmentAt response offset = response := by
          rw [joined, List.take_of_length_le (Nat.le_of_not_lt more)]
        have final : wireResponse ||| 0 = wireResponse := by decide
        have notMore : ¬ wireResponse = wireResponse ||| wireMore := by decide
        refine ⟨link, ?_, live.toRests, rfl, rfl, rfl⟩
        rw [fetchResponse]
        simp only [responseAt, more, if_false, final, notMore, true_or, not_true_eq_false, before,
          ne_eq, room, false_and, or_self, if_true, whole]
        rfl

/-- The first frame of a request wakes the link. -/
theorem sendRequest_awake {encoded : List UInt8} {got : Fragment} (nonempty : encoded ≠ []) :
    sendRequest coreRequest channel operation encoded encoded.length 0 got (link.awake channel) =
      sendRequest coreRequest channel operation encoded encoded.length 0 got link := by
  have positive := List.length_pos_of_ne_nil nonempty
  obtain ⟨fuel, length⟩ := Nat.exists_eq_succ_of_ne_zero positive.ne'
  rw [length, sendRequest, if_pos positive]
  exact bind_of_eq send_awake

/-! ## The claim -/

/-- **An RPC is transparent.** Whatever the core is and whatever it holds: if the encoded request
and the core's response are no longer than an RPC may be, the core is called exactly once, with the
operation and the encoded request, no frame is refused, the host throws nothing and decodes exactly
the response. -/
theorem rpc_transparent {codec : Codec ρ α} {request : ρ} {reply : α}
    {encoded response : List UInt8} {core : κ} (rests : link.Rests)
    (prompt : channel.PromptFrom link.feeds) (command : codec.whichCommand request ≠ 0)
    (encodes : codec.encode request = some encoded) (nonempty : encoded ≠ [])
    (fits : encoded.length ≤ rpcMax)
    (calls : coreRequest (codec.whichCommand request - 1) encoded link.firmware.core =
      (response, core))
    (short : response.length ≤ rpcMax) (decodes : codec.decode response = some reply) :
    ∃ link', rpc coreRequest channel codec request link = .ok reply link' ∧
      link'.Rests ∧ link'.firmware.core = core ∧
      link'.firmware.calls =
        link.firmware.calls ++ [(codec.whichCommand request - 1, encoded)] ∧
      link'.firmware.refused = link.firmware.refused := by
  let counted : Link κ := { link with sequence := link.sequence + 1 }
  have rests : counted.Rests := ⟨rests.frame, rests.written⟩
  have positive := List.length_pos_of_ne_nil nonempty
  have called : coreRequest (codec.whichCommand request - 1) encoded
      (counted.awake channel).firmware.core = (response, core) := by
    rw [Link.awake_core]
    exact calls
  obtain ⟨asked, sent, answered⟩ := @sendRequest_of_live _ coreRequest _ _ _ _ _ _ encoded.length
    0 {} (counted.live_awake rests prompt) (.inl rfl) positive (by omega) fits called
  rw [sendRequest_awake nonempty] at sent
  have serves := answered.serves
  rw [← answered.sequence] at serves
  obtain ⟨link', fetched, rests', core', calls', refused⟩ :=
    @fetchResponse_of_serves _ coreRequest _ _ _ _ (rpcMax + 1) 0 answered.live serves
      (Nat.zero_le _) (by omega) short
  refine ⟨link', ?_, rests', core'.trans answered.core, ?_, ?_⟩
  · have counts : (modify fun link => { link with sequence := link.sequence + 1 } : LinkM κ PUnit)
        link = .ok () counted := rfl
    rw [rpc]
    simp only [command, encodes, if_false]
    rw [List.take_zero] at fetched
    rw [bind_of_ok counts, bind_of_ok sent, bind_of_ok fetched, decodes]
    rfl
  · rw [calls', answered.calls, Link.awake_calls]
  · rw [refused, answered.refused, Link.awake_refused]

end Exchange

/-- A core that answers every request with its bytes. -/
def echo (_ : UInt8) (request : List UInt8) (count : Nat) : List UInt8 × Nat :=
  (request, count + 1)

/-- Messages that are their own encoding, and all have the same command. -/
def plain : Codec (List UInt8) (List UInt8) where
  whichCommand _ := 16
  encode := some
  decode := some

/-- A channel that delivers what is written in one piece, at once. -/
def direct : Channel where
  cut _ bytes := [bytes]
  clock _ := 0
  lossless := by simp

/-- A request of two fragments, with a response whose last fragment is full. -/
theorem rpc_transparent_echo :
    let request := List.replicate 384 7
    ∃ link', rpc echo direct plain request { firmware := { core := 0 } } = .ok request link' ∧
      link'.Rests ∧ link'.firmware.core = 1 ∧ link'.firmware.calls = [] ++ [(15, request)] ∧
      link'.firmware.refused = [] := by
  intro request
  have fits : request.length ≤ rpcMax := by rw [List.length_replicate]; decide
  have prompt : direct.PromptFrom 0 := fun _ _ => (by decide : (0 : Time) - 0 ≤ wireTimeoutUs)
  have encodes : plain.encode request = some request := rfl
  have nonempty : request ≠ [] := List.cons_ne_nil _ _
  have operation : plain.whichCommand request - 1 = 15 := by decide
  obtain ⟨link', returns, rests, core, calls, refused⟩ :=
    @rpc_transparent _ _ _ echo direct { firmware := { core := 0 } } plain request request request
      request 1 ⟨rfl, rfl⟩ prompt (by decide) encodes nonempty fits rfl fits rfl
  rw [operation] at calls
  exact ⟨link', returns, rests, core, calls, refused⟩

/-- Three seconds between two pieces of a frame: nothing is lost, but the firmware ignores the
frame, and the host waits for its answer until the deadline. -/
theorem rpc_ignores_slow_frame :
    let slow : Channel :=
      { cut := fun _ bytes => [bytes.take 10, bytes.drop 10]
        clock := fun call => 3000000 * UInt32.ofNat call
        lossless := by simp }
    let link : Link Nat := { firmware := { core := 0 } }
    link.Rests ∧
      ∃ link', rpc echo slow plain [1] link = .error .deadline link' ∧
        link'.firmware.calls = [] := by
  intro slow link
  refine ⟨⟨rfl, rfl⟩, ?_⟩
  have ends : (match rpc echo slow plain [1] link with
      | .ok _ _ => none
      | .error error link' => some (error, link'.firmware.calls)) = some (.deadline, []) := by
    decide +kernel
  cases thrown : rpc echo slow plain [1] link with
  | ok reply link' => simp [thrown] at ends
  | error error link' =>
      rw [thrown] at ends
      obtain ⟨rfl, calls⟩ := Prod.mk.inj (Option.some.inj ends)
      exact ⟨link', rfl, calls⟩

end OpenDiag.Wire
