import OpenDiag.Legacy.Mirrors

/-!
# Where messages go

A message of ISO 15765 goes to the one native channel of the peer that it is addressed to, or,
without a filter for the peer, as a single frame of CAN.
-/

namespace OpenDiag.Legacy

/-- A message is addressed to a peer. -/
def IsoEndpoint.Meets (peer : IsoEndpoint) (message : PassthruMsg) : Prop :=
  peer.flow.txFlags &&& addressFlags = message.txFlags &&& addressFlags ∧
    peer.flow.data.load 0 (addressSize message) = message.address

/-- A filter routes the messages that meet its peer. -/
theorem Filter.routes_iff {filter : Filter} {message : PassthruMsg} :
    filter.routes message = true ↔
      filter.type = flowControlFilter ∧ filter.peer.Meets message :=
  decide_eq_true_iff

/-- The same conversation, with the same peer. -/
theorem IsoEndpoint.Meets.of_same {peer existing : IsoEndpoint} {message : PassthruMsg}
    (meets : peer.Meets message) (same : existing.same peer = true) : existing.Meets message := by
  obtain ⟨flags, -, -, flow, -⟩ := IsoEndpoint.same_iff.1 same
  refine ⟨flags.trans meets.1, ?_⟩
  rw [← addressSize_congr meets.1, flow, addressSize_congr meets.1]
  exact meets.2

/-- Two conversations with one peer clash. -/
theorem IsoEndpoint.Meets.clashes {peer other : IsoEndpoint} {message : PassthruMsg}
    (meets : peer.Meets message) (meets' : other.Meets message) : peer.clashes other = true := by
  refine IsoEndpoint.clashes_iff.2 ⟨meets.1.trans meets'.1.symm, .inr (.inl ?_)⟩
  rw [addressSize_congr meets'.1]
  exact meets.2.trans meets'.2.symm

/-- No two native channels are for one peer. -/
theorem Channel.Stands.endpoint_unique {channel : Channel} {t : Table} (stands : channel.Stands t)
    {message : PassthruMsg} {h h' : Handle} {peer peer' : IsoEndpoint}
    (here : (h, peer) ∈ channel.logicalEndpoints) (here' : (h', peer') ∈ channel.logicalEndpoints)
    (meets : peer.Meets message) (meets' : peer'.Meets message) : h' = h := by
  by_contra differs
  have clashes := meets.clashes meets'
  rw [stands.apart h peer h' peer' here here' (Ne.symm differs)] at clashes
  cases clashes

/-- A message that goes to the native channel of its peer, as it is: a filter of the channel is for
that peer, and has this native channel. -/
def Channel.Delivers (channel : Channel) (message : PassthruMsg) (endpoint : Handle)
    (encoded : NativeMsg) : Prop :=
  (∃ k filter, (k, filter) ∈ channel.filters ∧ filter.peer.Meets message ∧
      filter.endpoint = endpoint) ∧
    (∃ peer, (endpoint, peer) ∈ channel.logicalEndpoints ∧ peer.Meets message) ∧
    (∀ h peer, (h, peer) ∈ channel.logicalEndpoints → peer.Meets message → h = endpoint) ∧
    encoded.protocolId = iso15765Logical ∧
    encoded.data = message.data.load 0 message.dataSize

/-- A message that goes out as a single frame, since no filter is for its peer. -/
def Channel.Frames (channel : Channel) (message : PassthruMsg) (endpoint : Handle)
    (encoded : NativeMsg) : Prop :=
  endpoint = channel.physical ∧
    (∀ k filter, (k, filter) ∈ channel.filters → ¬ filter.peer.Meets message) ∧
    encoded.protocolId = can ∧
    ∃ payload pad, payload ≠ [] ∧ payload.length ≤ 11 - addressSize message ∧
      message.data.load 0 message.dataSize = message.address ++ payload ∧
      encoded.data =
        message.address ++ UInt8.ofNat payload.length :: payload ++ List.replicate pad 0 ∧
      encoded.data.length ≤ 12

/-- A block is loaded in two parts. -/
theorem load_append {block : Block UInt8 dataMax} {first count : Nat} (inside : first ≤ count) :
    block.load 0 first ++ block.load first (count - first) = block.load 0 count := by
  have whole := take_append_slice block.cells first (count - first)
  rw [Nat.add_sub_cancel' inside] at whole
  exact whole

/-- What becomes of a message: without a filter for its peer, one that no frame holds is refused. -/
def Channel.Routed (channel : Channel) (message : PassthruMsg) :
    Except UInt32 (Handle × NativeMsg) → Prop
  | .ok (endpoint, encoded) =>
    channel.Delivers message endpoint encoded ∨ channel.Frames message endpoint encoded
  | .error status =>
    status = errNoFlowControl ∧ message.dataSize > 11 ∧
      ∀ k filter, (k, filter) ∈ channel.filters → ¬ filter.peer.Meets message

theorem validateMessage_ok {channel : Channel} {message : PassthruMsg}
    (iso : channel.protocol = iso15765)
    (valid : validateMessage channel message = statusNoError) :
    addressSize message < message.dataSize ∧ message.dataSize ≤ dataMax := by
  unfold validateMessage at valid
  rw [iso] at valid
  split at valid
  · cases valid
  split at valid
  · cases valid
  rename_i sized
  rw [if_pos (.inr rfl)] at valid
  split at valid
  · cases valid
  split at valid
  · cases valid
  rename_i long
  rw [not_or, Nat.not_lt] at sized
  refine ⟨?_, sized.2⟩
  by_contra short
  exact long ⟨rfl, .inl (Nat.not_lt.1 short)⟩

/-- An address is four bytes long, or five with an extension. -/
theorem addressSize_cases (message : PassthruMsg) :
    addressSize message = 5 ∨ addressSize message = 4 := by
  unfold addressSize
  split
  · exact .inl rfl
  · exact .inr rfl

/-- A short message that no filter routes goes out as a single frame on the physical channel. -/
theorem singleFrame_frames {channel : Channel} {message : PassthruMsg} (handle : Handle)
    (none : ∀ k filter, (k, filter) ∈ channel.filters → ¬ filter.peer.Meets message)
    (some : addressSize message < message.dataSize) (bound : message.dataSize ≤ dataMax)
    (short : message.dataSize - addressSize message ≤ 11 - addressSize message) :
    channel.Frames message channel.physical (singleFrame message handle) := by
  have size := addressSize_cases message
  have header : message.address.length = addressSize message :=
    Block.length_load (by omega)
  have length : (message.data.load (addressSize message)
      (message.dataSize - addressSize message)).length =
        message.dataSize - addressSize message :=
    Block.length_load (by omega)
  refine ⟨rfl, none, rfl, message.data.load (addressSize message)
    (message.dataSize - addressSize message),
    if message.txFlags &&& iso15765FramePad ≠ 0 then 11 - message.dataSize else 0, ?_, ?_,
    (load_append (Nat.le_of_lt some)).symm, ?_, ?_⟩
  · apply List.ne_nil_of_length_pos
    rw [length]
    omega
  · rw [length]
    exact short
  · unfold singleFrame
    dsimp only
    split
    · rw [List.length_append, List.length_cons, header, length]
      congr 2
      omega
    · rw [List.replicate_zero, List.append_nil]
  · unfold singleFrame
    dsimp only
    split
    · rw [List.length_append, List.length_replicate, List.length_append, List.length_cons, header,
        length]
      omega
    · rw [List.length_append, List.length_cons, header, length]
      omega

/-- Every message is routed to its peer, framed, or refused, as its filters and its length say. -/
theorem Channel.Stands.routed {channel : Channel} {t : Table} (stands : channel.Stands t)
    (iso : channel.protocol = iso15765) {message : PassthruMsg}
    (valid : validateMessage channel message = statusNoError) (handle : Handle) :
    channel.Routed message (routeMessage channel message handle) := by
  obtain ⟨some, bound⟩ := validateMessage_ok iso valid
  have control : ∀ k filter, (k, filter) ∈ channel.filters → filter.type = flowControlFilter := by
    intro k filter here
    rcases stands.filters k filter here with ⟨-, other, -⟩ | ⟨type, -⟩
    · exact absurd iso other
    · exact type
  unfold routeMessage
  dsimp only
  rw [if_neg (not_not.2 valid), if_neg (not_not.2 iso)]
  split
  · rename_i k filter found
    have here : (k, filter) ∈ channel.filters := List.mem_of_find?_eq_some found
    have routes : filter.routes message = true := by simpa using List.find?_some found
    have meets := (Filter.routes_iff.1 routes).2
    rcases stands.filters k filter here with ⟨-, other, -⟩ | ⟨-, -, peer, stood, same⟩
    · exact absurd iso other
    refine .inl ⟨⟨k, filter, here, meets, rfl⟩, ⟨peer, stood, meets.of_same same⟩, ?_, rfl, rfl⟩
    intro h peer' here' meets'
    exact stands.endpoint_unique stood here' (meets.of_same same) meets'
  · rename_i found
    have none : ∀ k filter, (k, filter) ∈ channel.filters → ¬ filter.peer.Meets message := by
      intro k filter here meets
      exact List.find?_eq_none.1 found (k, filter) here
        (Filter.routes_iff.2 ⟨control k filter here, meets⟩)
    split
    · rename_i long
      have size := addressSize_cases message
      exact ⟨rfl, by omega, none⟩
    · rename_i short
      exact .inr (singleFrame_frames handle none some bound (Nat.not_lt.1 short))

end OpenDiag.Legacy
