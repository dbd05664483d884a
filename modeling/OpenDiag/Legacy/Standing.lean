import OpenDiag.Legacy.Library

/-!
# What a channel stands on

A channel of the library stands on native channels: the physical one, and a logical one for each
conversation that a filter or a transmission still needs. What is received changes none of that, and
the queue that it goes to has room for what is in it.
-/

namespace OpenDiag.Legacy

/-! ## The queue -/

/-- A queue that is counted and within its bounds. -/
structure Queued (received : List PassthruMsg) (bytes : Nat) : Prop where
  counted : bytes = (received.map fun message => message.dataSize + 24).sum
  messages : received.length ≤ maxRxMessages
  bounded : bytes ≤ maxRxBytes

theorem Queued.empty : Queued [] 0 :=
  ⟨rfl, Nat.zero_le _, Nat.zero_le _⟩

/-- A message that is added is counted, and one that would go beyond a bound is refused. -/
theorem Queued.enqueue {channel : Channel} (queued : Queued channel.received channel.receiveBytes)
    (message : PassthruMsg) :
    Queued (enqueue channel message).received (enqueue channel message).receiveBytes := by
  unfold Legacy.enqueue
  dsimp only
  split
  · exact queued
  · rename_i room
    rw [not_or, ge_iff_le, Nat.not_le, Nat.not_lt] at room
    refine ⟨?_, ?_, room.2⟩
    · rw [List.map_append, List.sum_append, ← queued.counted]
      rfl
    · rw [List.length_append]
      exact room.1

/-- Messages that are taken are taken off the count. -/
theorem Queued.take {received : List PassthruMsg} {bytes : Nat} (queued : Queued received bytes)
    (count : Nat) :
    Queued (received.drop (received.take count).length)
      (bytes - ((received.take count).map fun message => message.dataSize + 24).sum) := by
  have parts : received.take count ++ received.drop count = received := List.take_append_drop _ _
  have whole := queued.counted
  rw [← parts, List.map_append, List.sum_append] at whole
  have same : received.drop (received.take count).length = received.drop count := by
    rw [List.length_take]
    rcases Nat.le_total count received.length with few | many
    · rw [Nat.min_eq_left few]
    · rw [Nat.min_eq_right many, List.drop_length, List.drop_eq_nil_of_le many]
  rw [same]
  refine ⟨by omega, ?_, ?_⟩
  · rw [List.length_drop]
    exact le_trans (Nat.sub_le _ _) queued.messages
  · exact le_trans (Nat.sub_le _ _) queued.bounded

/-! ## What receiving changes -/

/-- What reading leaves: some transmissions are gone, and none that a call waits for. -/
structure Channel.Reads (before after : Channel) : Prop where
  physical : after.physical = before.physical
  protocol : after.protocol = before.protocol
  filters : after.filters = before.filters
  queued : Queued before.received before.receiveBytes →
    Queued after.received after.receiveBytes
  size : after.transmissions.size ≤ before.transmissions.size
  older : ∀ token x, (token, x) ∈ after.transmissions →
    ∃ x', (token, x') ∈ before.transmissions ∧ x'.endpoint = x.endpoint
  waiting : ∀ token x, (token, x) ∈ before.transmissions → x.waiting = true →
    ∃ x', (token, x') ∈ after.transmissions ∧ x'.endpoint = x.endpoint ∧ x'.waiting = true

theorem Channel.Reads.refl (channel : Channel) : channel.Reads channel :=
  ⟨rfl, rfl, rfl, id, le_refl _, fun _ x here => ⟨x, here, rfl⟩,
    fun _ x here waits => ⟨x, here, rfl, waits⟩⟩

/-- What is read in two parts is read as a whole. -/
theorem Channel.Reads.trans {before between after : Channel} (first : before.Reads between)
    (second : between.Reads after) : before.Reads after where
  physical := second.physical.trans first.physical
  protocol := second.protocol.trans first.protocol
  filters := second.filters.trans first.filters
  queued := fun queued => second.queued (first.queued queued)
  size := le_trans second.size first.size
  older := by
    intro token x here
    obtain ⟨x', here', same'⟩ := second.older token x here
    obtain ⟨x'', here'', same''⟩ := first.older token x' here'
    exact ⟨x'', here'', same''.trans same'⟩
  waiting := by
    intro token x here waits
    obtain ⟨x', here', same', waits'⟩ := first.waiting token x here waits
    obtain ⟨x'', here'', same'', waits''⟩ := second.waiting token x' here' waits'
    exact ⟨x'', here'', same''.trans same', waits''⟩

/-- What receiving a message leaves: no endpoint is released. -/
structure Channel.Hears (before after : Channel) : Prop extends before.Reads after where
  endpoints : after.logicalEndpoints = before.logicalEndpoints

section Hears

variable {before between after : Channel}

theorem Channel.Hears.refl (channel : Channel) : channel.Hears channel :=
  { Channel.Reads.refl channel with endpoints := rfl }

/-- What is heard in two parts is heard as a whole. -/
theorem Channel.Hears.trans (first : before.Hears between) (second : between.Hears after) :
    before.Hears after :=
  { first.toReads.trans second.toReads with endpoints := second.endpoints.trans first.endpoints }

/-- A message is heard when it is put into the queue. -/
theorem hears_enqueue (channel : Channel) (message : PassthruMsg) :
    channel.Hears (enqueue channel message) := by
  have queued : Queued channel.received channel.receiveBytes →
      Queued (enqueue channel message).received (enqueue channel message).receiveBytes :=
    fun queued => queued.enqueue message
  unfold enqueue at queued ⊢
  dsimp only at queued ⊢
  split at queued
  · rename_i full
    rw [if_pos full]
    exact { Channel.Hears.refl channel with queued }
  · rename_i room
    rw [if_neg room]
    exact { Channel.Hears.refl channel with queued }

/-- The indications of a transmission are heard one after another. -/
theorem hears_transmitIndications (channel : Channel) (transmission : Transmission)
    (timestamp : UInt32) : channel.Hears (transmitIndications channel transmission timestamp) := by
  unfold transmitIndications
  dsimp only
  split
  · split
    · exact (hears_enqueue _ _).trans (hears_enqueue _ _)
    · exact hears_enqueue _ _
  · split
    · exact hears_enqueue _ _
    · exact .refl channel

/-- The queue of received messages is kept apart from what is sent. -/
theorem transmissions_enqueue (channel : Channel) (message : PassthruMsg) :
    (enqueue channel message).transmissions = channel.transmissions := by
  unfold enqueue
  dsimp only
  split
  · rfl
  · rfl

theorem transmissions_transmitIndications (channel : Channel) (transmission : Transmission)
    (timestamp : UInt32) :
    (transmitIndications channel transmission timestamp).transmissions =
      channel.transmissions := by
  unfold transmitIndications
  dsimp only
  split
  · split
    · rw [transmissions_enqueue, transmissions_enqueue]
    · rw [transmissions_enqueue]
  · split
    · rw [transmissions_enqueue]
    · rfl

/-- The entry of a transmission is set to one that waits alike. -/
theorem hears_insert {channel : Channel} {token : Handle} {x x' : Transmission}
    (here : (token, x) ∈ channel.transmissions) (endpoint : x'.endpoint = x.endpoint)
    (waiting : x'.waiting = x.waiting) :
    channel.Hears { channel with transmissions := channel.transmissions.insert token x' } :=
  { Channel.Hears.refl channel with
    size := OrderedMap.size_insert_le_of_mem here
    older := by
      intro token' y member
      rcases OrderedMap.mem_insert.1 member with ⟨rfl, rfl⟩ | ⟨-, member⟩
      · exact ⟨x, here, endpoint.symm⟩
      · exact ⟨y, member, rfl⟩
    waiting := by
      intro token' y member waits
      by_cases same : token' = token
      · subst same
        obtain rfl := OrderedMap.unique member here
        exact ⟨x', OrderedMap.mem_insert_self, endpoint, waiting.trans waits⟩
      · exact ⟨y, OrderedMap.mem_insert.2 (.inr ⟨same, member⟩), rfl, waits⟩ }

/-- A transmission that no call waits for is forgotten. -/
theorem hears_erase {channel : Channel} {token : Handle}
    (free : ∀ x, (token, x) ∈ channel.transmissions → x.waiting = false) :
    channel.Hears { channel with transmissions := channel.transmissions.erase token } :=
  { Channel.Hears.refl channel with
    size := OrderedMap.size_erase_le
    older := fun token' y member => ⟨y, (OrderedMap.mem_erase.1 member).2, rfl⟩
    waiting := by
      intro token' y member waits
      refine ⟨y, OrderedMap.mem_erase.2 ⟨?_, member⟩, rfl, waits⟩
      rintro rfl
      rw [free y member] at waits
      cases waits }

/-- What the caller hears of a transmission releases no endpoint. -/
theorem hears_report (channel : Channel) (transmission : Transmission) (timestamp : UInt32) :
    channel.Hears (report channel transmission timestamp) := by
  unfold report
  split
  · exact hears_transmitIndications _ _ _
  · split
    · exact { Channel.Hears.refl channel with }
    · exact .refl channel

/-- A report takes nothing off the list of what is sent. -/
theorem transmissions_report (channel : Channel) (transmission : Transmission)
    (timestamp : UInt32) :
    (report channel transmission timestamp).transmissions = channel.transmissions := by
  unfold report
  split
  · exact transmissions_transmitIndications _ _ _
  · split
    · rfl
    · rfl

/-- A message about a transmission is heard, and may take the transmission off the list. -/
theorem hears_receiveIndication (channel : Channel) (message : NativeMsg) :
    channel.Hears (receiveIndication channel message) := by
  unfold receiveIndication
  split
  · exact .refl channel
  · rename_i x found
    extract_lets x' marked told
    have inserted : channel.Hears marked :=
      hears_insert (OrderedMap.find?_eq_some_iff.1 found) rfl rfl
    have hears : channel.Hears told := inserted.trans (hears_report _ _ _)
    split
    · rename_i last
      apply hears.trans
      apply hears_erase
      intro y member
      rw [show told.transmissions = _ from transmissions_report _ _ _] at member
      rw [OrderedMap.unique member OrderedMap.mem_insert_self]
      exact Bool.eq_false_iff.2 (by simpa using last.1)
    · exact hears

/-- Receiving keeps everything but the queue, and what nobody waits for. -/
theorem hears_receiveNative (channel : Channel) (endpoint : Handle) (message : NativeMsg) :
    channel.Hears (receiveNative channel endpoint message) := by
  unfold receiveNative
  dsimp only
  generalize marked : (if message.rxStatus &&& bufferOverflow ≠ 0 then
    { channel with overflow := true } else channel) = next
  have hears : channel.Hears next := by
    rw [← marked]
    split
    · exact { Channel.Hears.refl channel with }
    · exact .refl channel
  split
  · exact hears.trans (hears_receiveIndication _ _)
  · split
    · exact { hears with }
    · split
      · exact hears
      · split
        · exact hears
        · exact hears.trans (hears_enqueue _ _)

end Hears

end OpenDiag.Legacy
