import OpenDiag.Legacy.Sending

/-!
# Filters of the 04.04 library

A flow control filter makes a conversation, and the library opens a logical channel for it unless
one is kept. No two filters of a channel clash, so that the endpoint of a filter that is stopped
belongs to no other.
-/

namespace OpenDiag.Legacy

open OpenDiag.Action

/-! ## Conversations -/

/-- How long an address is depends on the flags alone. -/
theorem addressSize_congr {message message' : PassthruMsg}
    (same : message.txFlags &&& addressFlags = message'.txFlags &&& addressFlags) :
    addressSize message = addressSize message' := by
  have read : ∀ flags : UInt32, flags &&& iso15765AddrType =
      flags &&& addressFlags &&& iso15765AddrType := by
    intro flags
    rw [UInt32.and_assoc]
    rfl
  unfold addressSize
  rw [read message.txFlags, read message'.txFlags, same]

namespace IsoEndpoint

variable {peer peer' existing : IsoEndpoint}

/-- Two peers clash if they share an address in the same kind of addressing. -/
theorem clashes_iff : existing.clashes peer = true ↔
    existing.flow.txFlags &&& addressFlags = peer.flow.txFlags &&& addressFlags ∧
      (existing.pattern.data.load 0 (addressSize peer.flow) =
          peer.pattern.data.load 0 (addressSize peer.flow) ∨
        existing.flow.data.load 0 (addressSize peer.flow) =
          peer.flow.data.load 0 (addressSize peer.flow) ∨
        existing.pattern.data.load 0 (addressSize peer.flow) =
          peer.flow.data.load 0 (addressSize peer.flow) ∨
        existing.flow.data.load 0 (addressSize peer.flow) =
          peer.pattern.data.load 0 (addressSize peer.flow)) :=
  decide_eq_true_iff

/-- A clash is mutual. -/
theorem clashes_symm (clashes : peer.clashes peer' = true) : peer'.clashes peer = true := by
  obtain ⟨flags, shared⟩ := clashes_iff.1 clashes
  rw [← addressSize_congr flags] at shared
  refine clashes_iff.2 ⟨flags.symm, ?_⟩
  rcases shared with pattern | flow | crossed | crossed
  · exact .inl pattern.symm
  · exact .inr (.inl flow.symm)
  · exact .inr (.inr (.inr crossed.symm))
  · exact .inr (.inr (.inl crossed.symm))

theorem clashes_comm (peer peer' : IsoEndpoint) : peer.clashes peer' = peer'.clashes peer :=
  Bool.eq_iff_iff.2 ⟨clashes_symm, clashes_symm⟩

/-- Two peers are the same if both addresses and all flags are. -/
theorem same_iff : existing.same peer = true ↔
    existing.flow.txFlags &&& addressFlags = peer.flow.txFlags &&& addressFlags ∧
      existing.flow.txFlags = peer.flow.txFlags ∧ existing.pattern.txFlags = peer.pattern.txFlags ∧
      existing.flow.data.load 0 (addressSize peer.flow) =
        peer.flow.data.load 0 (addressSize peer.flow) ∧
      existing.pattern.data.load 0 (addressSize peer.flow) =
        peer.pattern.data.load 0 (addressSize peer.flow) :=
  decide_eq_true_iff

theorem same_refl (peer : IsoEndpoint) : peer.same peer = true :=
  same_iff.2 ⟨rfl, rfl, rfl, rfl, rfl⟩

/-- Two conversations that are the same as a third clash. -/
theorem clashes_of_same (same : existing.same peer = true) (same' : existing.same peer' = true) :
    peer.clashes peer' = true := by
  obtain ⟨flags, -, -, flow, -⟩ := same_iff.1 same
  obtain ⟨flags', -, -, flow', -⟩ := same_iff.1 same'
  have flags'' := flags.symm.trans flags'
  rw [addressSize_congr flags''] at flow
  exact clashes_iff.2 ⟨flags'', .inr (.inl (flow.symm.trans flow'))⟩

end IsoEndpoint

section Kept

variable {peer : IsoEndpoint} {entries : List (Handle × IsoEndpoint)} {kept : Option Handle}

/-- An endpoint that is kept is the same; where none is, none clashes. -/
theorem keptEndpoint_spec (found : keptEndpoint peer entries = .ok kept) :
    match kept with
    | some h => ∃ existing, (h, existing) ∈ entries ∧ existing.same peer = true
    | none => ∀ entry ∈ entries, entry.2.clashes peer = false := by
  induction entries with
  | nil =>
      cases found
      exact fun entry member => (List.not_mem_nil member).elim
  | cons entry entries ih =>
      obtain ⟨h, existing⟩ := entry
      unfold keptEndpoint at found
      split at found
      · rename_i same
        cases found
        exact ⟨existing, List.mem_cons_self, same⟩
      · split at found
        · cases found
        · rename_i apart
          have rest := ih found
          revert rest
          cases kept with
          | some h' =>
              rintro ⟨existing', member, same⟩
              exact ⟨existing', List.mem_cons_of_mem _ member, same⟩
          | none =>
              intro rest
              exact List.forall_mem_cons.2 ⟨Bool.eq_false_iff.2 apart, rest⟩

end Kept

/-! ## Channels -/

/-- Only the channels that are used matter. -/
theorem Channel.Stands.congr {channel : Channel} {t t' : Table} (stands : channel.Stands t)
    (same : ∀ h, channel.Uses h → t' h = t h) : channel.Stands t' :=
  { stands with
    physical := (same _ (.inl rfl)).trans stands.physical
    endpoints := fun h peer here =>
      ⟨(stands.endpoints h peer here).1,
        (same h (.inr ⟨peer, here⟩)).trans (stands.endpoints h peer here).2⟩ }

/-- A channel was opened, and it is not one of those that are used. -/
theorem Channel.Stands.opened {channel : Channel} {t : Table} (stands : channel.Stands t)
    {handle : Handle} (free : t handle = none) (opened : Option NativeChannel) :
    channel.Stands (Function.update t handle opened) := by
  apply stands.congr
  intro h uses
  apply Function.update_of_ne
  rintro rfl
  exact stands.uses uses free

/-- A logical channel is put on record. -/
theorem Channel.Stands.join {channel : Channel} {t : Table} (stands : channel.Stands t)
    {handle : Handle} {peer : IsoEndpoint} (used : handle ≠ 0)
    (open' : t handle = some (.logical channel.physical))
    (new : ∀ peer, (handle, peer) ∉ channel.logicalEndpoints)
    (apart : ∀ h existing, (h, existing) ∈ channel.logicalEndpoints →
      existing.clashes peer = false) :
    ({ channel with
      logicalEndpoints := channel.logicalEndpoints.insert handle peer } : Channel).Stands t :=
  have stays : ∀ {h existing}, (h, existing) ∈ channel.logicalEndpoints →
      (h, existing) ∈ channel.logicalEndpoints.insert handle peer := by
    intro h existing here
    refine OrderedMap.mem_insert.2 (.inr ⟨?_, here⟩)
    rintro rfl
    exact new existing here
  { stands with
    endpoints := by
      intro h existing member
      rcases OrderedMap.mem_insert.1 member with ⟨rfl, -⟩ | ⟨-, member⟩
      · exact ⟨used, open'⟩
      · exact stands.endpoints h existing member
    filters := by
      intro k filter member
      rcases stands.filters k filter member with plain | ⟨type, protocol, existing, stood, same⟩
      · exact .inl plain
      · exact .inr ⟨type, protocol, existing, stays stood, same⟩
    transmissions := by
      intro token x member
      rcases stands.transmissions token x member with physical | ⟨existing, stood⟩
      · exact .inl physical
      · exact .inr ⟨existing, stays stood⟩
    apart := by
      intro h existing h' existing' member member' differs
      rcases OrderedMap.mem_insert.1 member with ⟨rfl, rfl⟩ | ⟨-, here⟩
      · rcases OrderedMap.mem_insert.1 member' with ⟨rfl, -⟩ | ⟨-, here'⟩
        · exact absurd rfl differs
        · rw [IsoEndpoint.clashes_comm]
          exact apart h' existing' here'
      · rcases OrderedMap.mem_insert.1 member' with ⟨rfl, rfl⟩ | ⟨-, here'⟩
        · exact apart h existing here
        · exact stands.apart h existing h' existing' here here' differs }

/-- What stands behind a filter. -/
def Channel.Backs (channel : Channel) (filter : Filter) : Prop :=
  filter.type ≠ flowControlFilter ∧ channel.protocol ≠ iso15765 ∧
      filter.endpoint = channel.physical ∨
    filter.type = flowControlFilter ∧ channel.protocol = iso15765 ∧
      (∃ peer, (filter.endpoint, peer) ∈ channel.logicalEndpoints ∧ peer.same filter.peer = true) ∧
      ∀ k filter', (k, filter') ∈ channel.filters → filter'.peer.clashes filter.peer = false

/-- A filter is made. -/
theorem Channel.Stands.filter {channel : Channel} {t : Table} (stands : channel.Stands t)
    {handle : Handle} {filter : Filter} (backs : channel.Backs filter) :
    ({ channel with filters := channel.filters.insert handle filter } : Channel).Stands t :=
  { stands with
    filters := by
      intro k filter' member
      rcases OrderedMap.mem_insert.1 member with ⟨-, rfl⟩ | ⟨-, member⟩
      · rcases backs with plain | ⟨type, protocol, stood, -⟩
        · exact .inl plain
        · exact .inr ⟨type, protocol, stood⟩
      · exact stands.filters k filter' member
    unique := by
      intro protocol k filter₁ k' filter₂ member member' differs
      have apart : ∀ k filter', (k, filter') ∈ channel.filters →
          filter'.peer.clashes filter.peer = false := by
        rcases backs with ⟨-, other, -⟩ | ⟨-, -, -, apart⟩
        · exact absurd protocol other
        · exact apart
      rcases OrderedMap.mem_insert.1 member with ⟨rfl, rfl⟩ | ⟨-, here⟩
      · rcases OrderedMap.mem_insert.1 member' with ⟨rfl, -⟩ | ⟨-, here'⟩
        · exact absurd rfl differs
        · rw [IsoEndpoint.clashes_comm]
          exact apart k' filter₂ here'
      · rcases OrderedMap.mem_insert.1 member' with ⟨rfl, rfl⟩ | ⟨-, here'⟩
        · exact apart k filter₁ here
        · exact stands.unique protocol k filter₁ k' filter₂ here here' differs }

/-- Some filters are gone. -/
theorem Channel.Stands.unfilter {channel : Channel} {t : Table} (stands : channel.Stands t)
    (filters : OrderedMap Handle Filter) (left : ∀ entry ∈ filters, entry ∈ channel.filters) :
    ({ channel with filters } : Channel).Stands t :=
  { stands with
    filters := fun k filter member => stands.filters k filter (left _ member)
    unique := fun protocol k filter k' filter' member member' =>
      stands.unique protocol k filter k' filter' (left _ member) (left _ member') }

/-- The endpoint of a flow control filter belongs to no other filter. -/
theorem Channel.Stands.endpoint_ne {channel : Channel} {t : Table} (stands : channel.Stands t)
    {k k' : Handle} {filter filter' : Filter} (here : (k, filter) ∈ channel.filters)
    (here' : (k', filter') ∈ channel.filters) (differs : k' ≠ k)
    (type : filter.type = flowControlFilter) : filter'.endpoint ≠ filter.endpoint := by
  intro shared
  rcases stands.filters k filter here with ⟨other, -, -⟩ | ⟨-, protocol, peer, stood, same⟩
  · exact other type
  rcases stands.filters k' filter' here' with ⟨-, other, -⟩ | ⟨-, -, peer', stood', same'⟩
  · exact other protocol
  rw [shared] at stood'
  obtain rfl := OrderedMap.unique stood stood'
  have clashes := IsoEndpoint.clashes_of_same same' same
  rw [stands.unique protocol k' filter' k filter here' here differs] at clashes
  cases clashes

/-! ## The endpoint of a conversation -/

section Calls

variable {ν : Type} {backend : Backend ν} {table : ν → Table} {fine : ν → Prop} {origin : Origin}
  {start : Channel}

/-- A logical channel was opened for a channel that does not have it on record. -/
structure Scene.Owes (table : ν → Table) (fine : ν → Prop) (origin : Origin) (channel : Channel)
    (endpoint : Handle) (scene : Scene ν) : Prop where
  sound :
    ({ scene with abandoned := endpoint :: scene.abandoned } : Scene ν).Sound table fine origin
  same : scene.channel = channel
  used : endpoint ≠ 0
  open' : table scene.native endpoint = some (.logical channel.physical)
  new : ∀ peer, (endpoint, peer) ∉ channel.logicalEndpoints
  given : ∀ h ∈ origin.abandoned, ∀ other, origin.table h = some (.logical other) →
    other ≠ origin.physical → h ∈ scene.abandoned

/-- A logical channel was opened. -/
theorem Scene.Sound.owes {scene : Scene ν} (sound : scene.Sound table fine origin) {handle : Handle}
    (used : handle ≠ 0) (free : table scene.native handle = none) {after : ν}
    (joined : table after = Function.update (table scene.native) handle
      (some (.logical scene.channel.physical))) (good : fine after) :
    ({ scene with native := after } : Scene ν).Owes table fine origin scene.channel handle where
  sound :=
    { fine := good
      physical := sound.physical
      stands := by
        change scene.channel.Stands (table after)
        rw [joined]
        exact sound.stands.opened free _
      near := by
        change origin.Near (table after)
        rw [joined, sound.physical]
        intro h
        by_cases same : h = handle
        · subst same
          rw [Function.update_self]
          rcases sound.near h with unchanged | ⟨before, -⟩
          · exact .inr ⟨.inl (unchanged.symm.trans free), .inr rfl⟩
          · exact .inr ⟨before, .inr rfl⟩
        · rw [Function.update_of_ne same]
          exact sound.near h
      recorded := by
        change ∀ h, table after h = _ → _
        rw [joined]
        intro h open'
        by_cases same : h = handle
        · subst same
          exact .inr List.mem_cons_self
        · rw [Function.update_of_ne same] at open'
          rcases sound.recorded h open' with recorded | given
          · exact .inl recorded
          · exact .inr (List.mem_cons_of_mem _ given)
      abandoned := fun h member other logical apart =>
        List.mem_cons_of_mem _ (sound.abandoned h member other logical apart) }
  same := rfl
  used := used
  open' := by
    change table after handle = _
    rw [joined, Function.update_self]
  new := by
    intro peer here
    exact sound.stands.uses (.inr ⟨peer, here⟩) free
  given := sound.abandoned

/-- The handle of what was opened names no channel any more that was given up. -/
theorem Scene.Owes.renew {scene : Scene ν} {channel : Channel} {endpoint : Handle}
    (owes : scene.Owes table fine origin channel endpoint) :
    ({ scene with abandoned := scene.abandoned.filter (· ≠ endpoint) } : Scene ν).Owes table fine
      origin channel endpoint := by
  obtain ⟨sound, rfl, used, open', new, given⟩ := owes
  have others : ∀ h, h ∈ endpoint :: scene.abandoned →
      h ∈ endpoint :: scene.abandoned.filter (· ≠ endpoint) := by
    intro h member
    by_cases same : h = endpoint
    · exact List.mem_cons.2 (.inl same)
    · exact List.mem_cons.2 (.inr (List.mem_filter.2
        ⟨(List.mem_cons.1 member).resolve_left same, decide_eq_true same⟩))
  refine ⟨{ sound with
    recorded := fun h logical => (sound.recorded h logical).imp_right (others h)
    abandoned := fun h member other logical apart =>
      others h (sound.abandoned h member other logical apart) }, rfl, used, open', new,
    fun h member other logical apart => List.mem_filter.2
      ⟨given h member other logical apart, decide_eq_true ?_⟩⟩
  -- A logical channel of another physical one was not opened by this call.
  rintro rfl
  have own : table scene.native h = some (.logical origin.physical) :=
    open'.trans (congrArg (some ∘ NativeChannel.logical) sound.physical)
  have before : origin.table h = none ∨ origin.table h = some (.logical origin.physical) := by
    rcases sound.near h with same | ⟨before, -⟩
    · exact .inr (same.symm.trans own)
    · exact before
  rw [logical] at before
  rcases before with before | before
  · cases before
  · exact apart (NativeChannel.logical.inj (Option.some.inj before))

/-- What was opened is put on record. -/
theorem Scene.Owes.join {scene : Scene ν} {channel : Channel} {endpoint : Handle}
    (owes : scene.Owes table fine origin channel endpoint) {peer : IsoEndpoint}
    (apart : ∀ h existing, (h, existing) ∈ channel.logicalEndpoints →
      existing.clashes peer = false) :
    ({ scene with channel := { scene.channel with
        logicalEndpoints := scene.channel.logicalEndpoints.insert endpoint peer } } :
      Scene ν).Sound table fine origin := by
  obtain ⟨sound, rfl, used, open', new, given⟩ := owes
  have stands := sound.stands.join used open' new apart
  refine ⟨sound.fine, sound.physical, stands, sound.near, ?_, given⟩
  intro h logical
  rcases sound.recorded h logical with ⟨existing, here⟩ | given
  · refine .inl ⟨existing, OrderedMap.mem_insert.2 (.inr ⟨?_, here⟩)⟩
    rintro rfl
    exact new existing here
  · rcases List.mem_cons.1 given with rfl | given
    · exact .inl ⟨peer, OrderedMap.mem_insert_self⟩
    · exact .inr given

/-- An endpoint that is owed is still owed after a call that keeps the table. -/
theorem Scene.Owes.native {scene : Scene ν} {channel : Channel} {endpoint : Handle}
    (owes : scene.Owes table fine origin channel endpoint) {after : ν}
    (same : table after = table scene.native) (good : fine after) :
    ({ scene with native := after } : Scene ν).Owes table fine origin channel endpoint :=
  { owes with
    sound := owes.sound.native same good
    open' := by
      change table after endpoint = _
      rw [same]
      exact owes.open' }

variable (keeps : backend.Keeps table fine)

include keeps

/-- What was opened is closed again, or given up. -/
theorem Scene.Owes.abandon {scene : Scene ν} {channel : Channel} {endpoint : Handle}
    (owes : scene.Owes table fine origin channel endpoint) :
    (Legacy.abandon backend endpoint scene).Sound table fine origin := by
  have open' := owes.open'
  have good := keeps.stays scene.native (.logicalDisconnect endpoint) owes.sound.fine (by
    intro handle member
    rw [List.mem_singleton.1 member, open']
    exact Option.some_ne_none _)
  unfold Legacy.abandon
  dsimp only
  split
  · rename_i ok
    have parted := keeps.parted _ _ ok
    obtain ⟨sound, rfl, used, -, new, given⟩ := owes
    have stands : scene.channel.Stands
        (Function.update (table scene.native) endpoint none) := by
      apply sound.stands.congr
      intro h uses
      apply Function.update_of_ne
      rintro rfl
      rcases uses with physical | ⟨peer, here⟩
      · have other : table scene.native scene.channel.physical = some .physical :=
          sound.stands.physical
        rw [show h = scene.channel.physical from physical, other] at open'
        cases open'
      · exact new peer here
    refine ⟨good, sound.physical, ?_, ?_, ?_, given⟩
    · change scene.channel.Stands (table _)
      rw [parted]
      exact stands
    · rw [parted]
      intro h
      by_cases same : h = endpoint
      · subst same
        rw [Function.update_self]
        rcases sound.near h with unchanged | ⟨before, -⟩
        · rw [show table scene.native h = _ from open', sound.physical] at unchanged
          exact .inr ⟨.inr unchanged.symm, .inl rfl⟩
        · exact .inr ⟨before, .inl rfl⟩
      · rw [Function.update_of_ne same]
        exact sound.near h
    · rw [parted]
      intro h logical
      have differs : h ≠ endpoint := by
        rintro rfl
        rw [Function.update_self] at logical
        cases logical
      rw [Function.update_of_ne differs] at logical
      rcases sound.recorded h logical with recorded | member
      · exact .inl recorded
      · rcases List.mem_cons.1 member with rfl | member
        · exact absurd rfl differs
        · exact .inr member
  · rename_i bad
    exact owes.sound.native (keeps.refused _ _ bad) good

/-- An endpoint is connected for a peer that clashes with none, or nothing is. -/
theorem connectEndpoint_sound (pattern flow : PassthruMsg)
    (apart : ∀ h existing, (h, existing) ∈ start.logicalEndpoints →
      existing.clashes ⟨pattern, flow⟩ = false) :
    Triple (fun scene => scene.Sound table fine origin ∧ scene.channel = start)
      (connectEndpoint backend pattern flow)
      (fun endpoint scene => scene.Sound table fine origin ∧
        scene.channel = { start with
          logicalEndpoints := start.logicalEndpoints.insert endpoint ⟨pattern, flow⟩ })
      (fun _ => Scene.Sound table fine origin) := by
  apply Triple.seen
  intro channel
  apply Triple.bind (Q := fun reply scene =>
    (reply.status ≠ statusNoError → scene.Sound table fine origin) ∧
    (reply.status = statusNoError → scene.Owes table fine origin start reply.handle))
  · apply Triple.ask
    rintro scene ⟨⟨sound, rfl⟩, rfl⟩
    have good := keeps.stays scene.native
      (.logicalConnect scene.channel.physical (descriptor pattern flow)) sound.fine (by
        intro handle member
        rw [List.mem_singleton.1 member]
        exact sound.stands.uses (.inl rfl))
    refine ⟨fun bad => sound.native (keeps.refused _ _ bad) good, fun ok => ?_⟩
    obtain ⟨used, free, joined⟩ := keeps.joined _ _ _ ok
    exact sound.owes used free joined good
  intro reply
  apply Triple.bind
  · apply translate_cases
    exact fun scene behind bad _ => { behind.1 bad with }
  intro _
  apply Triple.bind (Q := fun _ => Scene.Owes table fine origin start reply.handle)
  · apply Triple.change
    exact fun scene behind => (behind.1.2 behind.2).renew
  intro _
  apply Triple.bind (Q := fun _ => Scene.Owes table fine origin start reply.handle)
  · apply Triple.onError (E := fun _ => Scene.Owes table fine origin start reply.handle)
    · apply Triple.pre (P := Scene.Owes table fine origin start reply.handle)
      · apply Keeps.forEach
        rintro ⟨parameter, value⟩ -
        apply Keeps.bind _ fun _ => .pure false
        apply Keeps.bind
        · apply native_passes keeps rfl
          · intro scene owes handle member
            rw [List.mem_singleton.1 member, owes.open']
            exact Option.some_ne_none _
          · exact fun scene owes => owes.sound.fine
          · exact fun scene after owes same good => owes.native same good
        · intro answer
          apply translate_keeps
          exact fun scene flag owes => { owes with sound := { owes.sound with } }
      · exact fun scene owes => owes
    · exact fun _ scene owes => owes.abandon keeps
  intro _
  apply Triple.bind (Q := fun _ scene => scene.Sound table fine origin ∧
    scene.channel = { start with
      logicalEndpoints := start.logicalEndpoints.insert reply.handle ⟨pattern, flow⟩ })
  · apply Triple.change
    intro scene owes
    have same := owes.same
    refine ⟨owes.join apart, ?_⟩
    dsimp only
    rw [same]
  · exact fun _ => .pure fun _ => id

/-- The endpoint of a conversation is one that is kept, or a new one. -/
theorem acquireEndpoint_sound (pattern flow : PassthruMsg) :
    Triple (Scene.Serves table fine origin start) (acquireEndpoint backend pattern flow)
      (fun endpoint scene => scene.Sound table fine origin ∧
        scene.channel.filters = start.filters ∧ scene.channel.protocol = start.protocol ∧
        ∃ peer, (endpoint, peer) ∈ scene.channel.logicalEndpoints ∧
          peer.same ⟨pattern, flow⟩ = true)
      (fun _ => Scene.Sound table fine origin) := by
  apply Triple.bind
  · exact (releaseUnusedEndpoints_serves keeps).stop fun _ _ => And.left
  intro _
  apply Triple.seen
  intro channel
  split
  · exact .fail fun scene before => before.1.1
  rename_i kept found
  have spec := keptEndpoint_spec found
  split
  · rename_i used
    cases kept with
    | none => exact absurd rfl used
    | some endpoint =>
        obtain ⟨existing, here, same⟩ := spec
        apply Triple.bind (Q := fun _ scene =>
          scene.Serves table fine origin start ∧ scene.channel = channel)
        · apply Triple.stop (native_passes keeps rfl ?_ ?_ ?_) fun _ _ before => before.1.1
          · rintro scene ⟨serves, rfl⟩ handle member
            rw [List.mem_singleton.1 member]
            exact serves.1.stands.uses (.inr ⟨existing, here⟩)
          · exact fun scene before => before.1.1.fine
          · exact fun scene after before unchanged good =>
              ⟨⟨before.1.1.native unchanged good, before.1.2⟩, before.2⟩
        intro reply
        apply Triple.bind
        · exact (translate_keeps (fun _ _ before =>
            ⟨⟨{ before.1.1 with }, before.1.2⟩, before.2⟩) reply.status).stop
              fun _ _ before => before.1.1
        intro _
        apply Triple.pure
        rintro scene ⟨⟨sound, reads⟩, rfl⟩
        exact ⟨sound, reads.filters, reads.protocol, existing, here, same⟩
  · rename_i unused
    cases kept with
    | some endpoint =>
        obtain ⟨existing, here, -⟩ := spec
        rintro scene ⟨serves, rfl⟩
        exact absurd (serves.1.stands.endpoints endpoint existing here).1 unused
    | none =>
        apply Triple.pre (P := fun scene => (scene.Sound table fine origin ∧
          scene.channel = channel) ∧ start.Reads channel)
        · apply Triple.known
          intro reads
          apply (connectEndpoint_sound keeps pattern flow
            fun h existing here => spec (h, existing) here).post
          rintro endpoint scene ⟨sound, same⟩
          refine ⟨sound, ?_, ?_, ⟨pattern, flow⟩, ?_, IsoEndpoint.same_refl _⟩
          · rw [same]
            exact reads.filters
          · rw [same]
            exact reads.protocol
          · rw [same]
            exact OrderedMap.mem_insert_self
        · rintro scene ⟨⟨sound, reads⟩, rfl⟩
          exact ⟨⟨sound, rfl⟩, reads⟩

/-! ## Starting a filter -/

omit keeps in
/-- A flow control filter that is accepted clashes with no filter. -/
theorem flowControlStatus_ok {channel : Channel} {type : UInt32} {mask pattern flow : PassthruMsg}
    {given : Option PassthruMsg}
    (ok : flowControlStatus channel type mask pattern given = .ok flow) :
    type = flowControlFilter ∧ ∀ k filter, (k, filter) ∈ channel.filters →
      filter.peer.clashes ⟨pattern, flow⟩ = false := by
  unfold flowControlStatus at ok
  split at ok
  · cases ok
  rename_i type'
  refine ⟨not_not.1 type', ?_⟩
  cases given with
  | none => cases ok
  | some flow' =>
      dsimp only at ok
      iterate 4
        split at ok
        · cases ok
      split at ok
      · cases ok
      · rename_i apart
        cases ok
        intro k filter here
        have none := List.any_eq_false.1 (Bool.eq_false_iff.2 apart) (k, filter) here
        exact Bool.eq_false_iff.2 none

/-- A filter is made with an endpoint behind it. -/
theorem makeFilter_sound (type : UInt32) (mask pattern : PassthruMsg) (flow : Option PassthruMsg) :
    Triple (Scene.Serves table fine origin start) (makeFilter backend type mask pattern flow)
      (fun filter scene => scene.Sound table fine origin ∧ scene.channel.Backs filter)
      (fun _ => Scene.Sound table fine origin) := by
  apply Triple.seen
  intro channel
  split
  · rename_i plain
    apply Triple.bind (Q := fun _ scene =>
      (scene.Serves table fine origin start ∧ scene.channel = channel) ∧
        type ≠ flowControlFilter)
    · apply Triple.refuse
      · exact fun scene before _ => before.1.1
      · rintro scene before kind
        refine ⟨before, ?_⟩
        rintro rfl
        exact kind (by decide)
    intro _
    apply Triple.known
    intro other
    apply Triple.bind (Q := fun _ scene =>
      scene.Serves table fine origin start ∧ scene.channel = channel)
    · apply Triple.stop (native_passes keeps rfl ?_ ?_ ?_) fun _ _ before => before.1.1
      · rintro scene ⟨serves, rfl⟩ handle member
        rw [List.mem_singleton.1 member]
        exact serves.1.stands.uses (.inl rfl)
      · exact fun scene before => before.1.1.fine
      · exact fun scene after before unchanged good =>
          ⟨⟨before.1.1.native unchanged good, before.1.2⟩, before.2⟩
    intro reply
    apply Triple.bind
    · exact (translate_keeps (fun _ _ before =>
        ⟨⟨{ before.1.1 with }, before.1.2⟩, before.2⟩) reply.status).stop
          fun _ _ before => before.1.1
    intro _
    apply Triple.pure
    rintro scene ⟨serves, rfl⟩
    exact ⟨serves.1, .inl ⟨other, plain, rfl⟩⟩
  · rename_i iso
    split
    · exact .fail fun scene before => before.1.1
    · rename_i flow' ok
      obtain ⟨type', apart⟩ := flowControlStatus_ok ok
      apply Triple.bind (Q := fun endpoint scene => scene.Sound table fine origin ∧
        scene.channel.Backs { type, endpoint, pattern, flow := flow' })
      · apply Triple.each
        rintro scene ⟨⟨sound, -⟩, rfl⟩
        have acquires : Triple (Scene.Serves table fine origin scene.channel) _ _ _ :=
          acquireEndpoint_sound keeps pattern flow'
        apply (acquires.post ?_).pre
        · rintro _ rfl
          exact ⟨sound, .refl _⟩
        · rintro endpoint next ⟨sound, filters, protocol, peer, here, same⟩
          refine ⟨sound, .inr ⟨type', ?_, ⟨peer, here, same⟩, ?_⟩⟩
          · rw [protocol]
            exact not_not.1 iso
          · rw [filters]
            exact apart
      · exact fun _ => .pure fun _ => id

/-- A filter is set with its endpoint, or given up again. -/
theorem startMsgFilter_sound (type : UInt32) (mask pattern : PassthruMsg)
    (flow : Option PassthruMsg) :
    Keeps (Scene.Sound table fine origin) (startMsgFilter backend type mask pattern flow) := by
  apply (Keeps.look _).bind
  intro channel
  apply (Keeps.refuse _ _).bind
  intro _
  apply (Keeps.refuse _ _).bind
  intro _
  apply Triple.bind (Q := fun filter scene =>
    scene.Sound table fine origin ∧ scene.channel.Backs filter)
  · apply keeps_started
    exact fun start => makeFilter_sound keeps type mask pattern flow
  intro filter
  apply Triple.bind (Q := fun _ scene =>
    scene.Sound table fine origin ∧ scene.channel.Backs filter)
  · exact .ask fun scene before => ⟨{ before.1 with }, before.2⟩
  intro handle
  apply Triple.change
  rintro scene ⟨sound, backs⟩
  exact sound.channel rfl rfl (sound.stands.filter backs)

/-! ## Stopping a filter -/

/-- An endpoint is read before it is released. -/
theorem drainEndpoint_serves (endpoint : Handle) (turns : Nat) :
    Keeps (Scene.Serves table fine origin start) (drainEndpoint backend endpoint turns) := by
  induction turns with
  | zero => exact .change fun scene serves => serves.hears { Channel.Hears.refl scene.channel with }
  | succ turns ih =>
      apply (readNative_serves keeps endpoint).bind
      intro received
      apply (Keeps.look _).bind
      intro overflow
      apply Keeps.ite (fun _ => .pure ())
      intro _
      exact .ite (fun _ => .pure ()) fun _ => ih

/-- The state without a filter. -/
def Scene.unfiltered (scene : Scene ν) (filterId : Handle) : Scene ν :=
  { scene with channel := { scene.channel with
    filters := scene.channel.filters.erase filterId } }

omit keeps in
/-- A filter that is taken off leaves the others with their endpoints. -/
theorem Scene.Sound.unfiltered {scene : Scene ν} (sound : scene.Sound table fine origin)
    (filterId : Handle) : (scene.unfiltered filterId).Sound table fine origin := by
  have stands := sound.stands.unfilter (scene.channel.filters.erase filterId)
    fun _ member => (OrderedMap.mem_erase.1 member).2
  exact sound.channel rfl rfl stands

/-- The endpoint of a filter is released with it, unless a transmission needs it. -/
theorem endFilter_sound {filterId : Handle} {filter : Filter}
    (here : (filterId, filter) ∈ start.filters) :
    Triple (Scene.Serves table fine origin start) (endFilter backend filter)
      (fun _ scene => (scene.unfiltered filterId).Sound table fine origin)
      (fun _ => Scene.Sound table fine origin) := by
  apply Triple.ite
  · intro type
    apply Triple.bind
    · exact (drainEndpoint_serves keeps filter.endpoint maxRxMessages).stop fun _ _ => And.left
    intro _
    apply Triple.seen
    intro needed
    split
    · exact .pure fun scene before => before.1.1.unfiltered filterId
    rename_i idle
    apply Triple.bind (Q := fun reply scene =>
      (reply.status ≠ statusNoError → scene.Sound table fine origin) ∧
      (reply.status = statusNoError →
        (Scene.unfiltered { scene with channel := { scene.channel with
            logicalEndpoints := scene.channel.logicalEndpoints.erase filter.endpoint } }
          filterId).Sound table fine origin))
    · apply Triple.ask
      rintro scene ⟨⟨sound, reads⟩, rfl⟩
      have stood : (filterId, filter) ∈ scene.channel.filters := by
        rw [reads.filters]
        exact here
      obtain ⟨other, -, -⟩ | ⟨-, -, peer, recorded, -⟩ := sound.stands.filters filterId filter stood
      · exact absurd type other
      have good := keeps.stays _ (.logicalDisconnect filter.endpoint) sound.fine (by
        intro handle member
        rw [List.mem_singleton.1 member]
        exact sound.stands.uses (.inr ⟨peer, recorded⟩))
      refine ⟨fun bad => sound.native (keeps.refused _ _ bad) good, fun ok => ?_⟩
      apply sound.part recorded (fun _ member => (OrderedMap.mem_erase.1 member).2) ?_
        (fun _ _ => endpointNeeded_eq_false (Bool.eq_false_iff.2 idle)) (keeps.parted _ _ ok) good
      intro k filter' member
      obtain ⟨differs, member⟩ := OrderedMap.mem_erase.1 member
      exact sound.stands.endpoint_ne stood member differs type
    intro reply
    apply Triple.bind
    · exact translate_cases fun scene behind bad _ => { behind.1 bad with }
    intro _
    exact .change fun scene behind => behind.1.2 behind.2
  · intro _
    apply Triple.seen
    intro physical
    apply Triple.bind (Q := fun _ => Scene.Sound table fine origin)
    · apply Triple.weaken (native_passes (P := fun scene =>
        scene.Serves table fine origin start ∧ scene.channel.physical = physical) keeps rfl
        ?_ ?_ ?_) (fun _ => id) (fun _ _ before => before.1.1) fun _ _ before => before.1.1
      · rintro scene ⟨serves, rfl⟩ handle member
        rw [List.mem_singleton.1 member]
        exact serves.1.stands.uses (.inl rfl)
      · exact fun scene before => before.1.1.fine
      · exact fun scene after before unchanged good =>
          ⟨⟨before.1.1.native unchanged good, before.1.2⟩, before.2⟩
    intro reply
    exact (translate_sound reply.status).post fun _ scene sound => sound.unfiltered filterId

/-- A filter is removed, or stays as it was. -/
theorem stopMsgFilter_sound (filterId : Handle) :
    Keeps (Scene.Sound table fine origin) (stopMsgFilter backend filterId) := by
  apply keeps_started
  intro start
  apply Triple.seen
  intro found
  cases found with
  | none => exact .fail fun scene before => before.1.1
  | some filter =>
      apply Triple.bind (Q := fun _ scene => (scene.unfiltered filterId).Sound table fine origin)
      · apply Triple.pre (P := fun scene =>
          scene.Serves table fine origin start ∧ (filterId, filter) ∈ start.filters)
        · exact .known fun here => endFilter_sound keeps here
        · rintro scene ⟨serves, found⟩
          refine ⟨serves, ?_⟩
          rw [← serves.2.filters]
          exact OrderedMap.find?_eq_some_iff.1 found
      · exact fun _ => .change fun _ => id

/-- A probe asks whether the device is there. -/
theorem probe_sound : Keeps (Scene.Sound table fine origin) (probe backend) := by
  apply (Keeps.look _).bind
  intro disconnected
  apply (Keeps.refuse _ _).bind
  intro _
  apply (Keeps.look _).bind
  intro physical
  apply Keeps.bind (native_sound keeps rfl fun _ _ _ member => (List.not_mem_nil member).elim)
  exact fun reply => translate_sound reply.status

/-- Filters are removed one after another. -/
theorem clearFilters_sound (fuel : Nat) :
    Keeps (Scene.Sound table fine origin) (clearFilters backend fuel) := by
  apply Keeps.again
  apply (Keeps.look _).bind
  intro entries
  split
  · exact .pure _
  · apply (probe_sound keeps).bind
    intro _
    exact (stopMsgFilter_sound keeps _).bind fun _ => .pure _

/-! ## Settings -/

/-- A request about a native channel that is used, in a state where nothing else changed. -/
theorem native_known {channel : Channel} {handle : Handle} (uses : channel.Uses handle)
    {req : Request} (passes : req.passes = true) (named : req.names = [handle]) :
    Keeps (fun scene => scene.Sound table fine origin ∧ scene.channel = channel)
      (native backend req) := by
  apply native_passes keeps passes
  · rintro scene ⟨sound, rfl⟩ handle' member
    rw [named] at member
    rw [List.mem_singleton.1 member]
    exact sound.stands.uses uses
  · exact fun scene before => before.1.fine
  · exact fun scene after before unchanged good => ⟨before.1.native unchanged good, before.2⟩

/-- A parameter is given to a channel that the library has. -/
theorem setNativeConfig_known {channel : Channel} {handle : Handle} (uses : channel.Uses handle)
    (parameter : Handle) (value : UInt32) :
    Keeps (fun scene => scene.Sound table fine origin ∧ scene.channel = channel)
      (setNativeConfig backend handle parameter value) := by
  apply (native_known keeps uses rfl rfl).bind
  intro reply
  exact translate_keeps (fun _ _ before => ⟨{ before.1 with }, before.2⟩) reply.status

/-- A parameter is given to every endpoint. -/
theorem setIsoConfig_sound (parameter : Handle) (value : UInt32) :
    Keeps (Scene.Sound table fine origin) (setIsoConfig backend parameter value) := by
  apply (Keeps.refuse _ _).bind
  intro _
  apply Triple.each
  intro scene sound
  apply Triple.seen
  intro entries
  apply Triple.bind (Q := fun _ => Scene.Sound table fine origin)
  · apply Triple.pre (P := fun next => (next.Sound table fine origin ∧
      next.channel = scene.channel) ∧ scene.channel.logicalEndpoints.entries = entries)
    · apply Triple.known
      rintro rfl
      apply Triple.weaken (Keeps.forEach ?_) (fun _ => id) (fun _ _ => And.left)
        fun _ _ => And.left
      rintro ⟨handle, peer⟩ here
      apply Keeps.bind _ fun _ => .pure false
      exact setNativeConfig_known keeps (.inr ⟨peer, here⟩) parameter value
    · rintro _ ⟨rfl, same⟩
      exact ⟨⟨sound, rfl⟩, same⟩
  · exact fun _ => .change fun next sound => sound.channel rfl rfl { sound.stands with }

theorem setConfig_sound (config : Handle × UInt32) :
    Keeps (Scene.Sound table fine origin) (setConfig backend config) := by
  obtain ⟨parameter, value⟩ := config
  apply Triple.each
  intro scene sound
  apply Triple.seen
  intro channel
  apply Triple.pre (P := fun next => next.Sound table fine origin ∧ next.channel = channel)
  · split
    · apply Triple.pre (P := Scene.Sound table fine origin) _ fun _ => And.left
      apply (Keeps.refuse _ _).bind
      intro _
      apply Keeps.bind _ fun _ => .pure false
      exact .change fun next sound => sound.channel rfl rfl { sound.stands with }
    split
    · apply Triple.pre (P := Scene.Sound table fine origin) _ fun _ => And.left
      exact (Keeps.refuse _ _).bind fun _ => .pure false
    split
    · apply Triple.pre (P := Scene.Sound table fine origin) _ fun _ => And.left
      exact (setIsoConfig_sound keeps parameter value).bind fun _ => .pure false
    split
    · apply Triple.pre (P := Scene.Sound table fine origin) _ fun _ => And.left
      exact (Keeps.refuse _ _).bind fun _ => .pure false
    have kept : Keeps (fun next => next.Sound table fine origin ∧ next.channel = channel) (do
        refuse (channel.protocol = iso15765 ∧ parameter ≠ dataRate) (.status errInvalidIoctlValue)
        setNativeConfig backend channel.physical parameter value
        pure false) := by
      apply (Keeps.refuse _ _).bind
      intro _
      apply Keeps.bind _ fun _ => .pure false
      exact setNativeConfig_known keeps (.inl rfl) parameter value
    exact kept.weaken (fun _ => id) (fun _ _ => And.left) fun _ _ => And.left
  · rintro _ ⟨rfl, same⟩
    exact ⟨sound, same⟩

/-- Parameters are given one after another. -/
theorem setConfigs_sound (configs : List (Handle × UInt32)) :
    Keeps (Scene.Sound table fine origin) (setConfigs backend configs) := by
  apply Keeps.bind _ fun _ => .pure ()
  exact .forEach fun config _ => setConfig_sound keeps config

/-! ## Clearing -/

omit keeps in
/-- What is cleared of a channel holds no endpoint. -/
theorem Channel.Stands.cleared {channel : Channel} {t : Table} (stands : channel.Stands t)
    (clearing : Clearing) : (cleared clearing channel).Stands t := by
  have fewer : ∀ c : Channel, c.Stands t →
      ({ c with transmissions := c.transmissions.filter clearing.spares } : Channel).Stands t :=
    fun c stands => stands.untransmit (c.transmissions.filter clearing.spares)
      (fun _ member => (OrderedMap.mem_filter.1 member).1) OrderedMap.size_filter_le
  unfold Legacy.cleared
  dsimp only
  split
  · exact fewer _ { stands with queued := .empty }
  · exact fewer _ stands

/-- A queue is cleared with the library and then with the channel. -/
theorem clear_sound (clearing : Clearing) :
    Keeps (Scene.Sound table fine origin) (clear backend clearing) := by
  apply Triple.each
  intro scene sound
  apply Triple.seen
  intro targets
  apply Triple.bind (Q := fun _ => Scene.Sound table fine origin)
  · apply Triple.pre (P := fun next => (next.Sound table fine origin ∧
      next.channel = scene.channel) ∧ endpoints scene.channel = targets)
    · apply Triple.known
      rintro rfl
      apply Triple.weaken (Keeps.forEach ?_) (fun _ => id) (fun _ _ => And.left)
        fun _ _ => And.left
      intro handle member
      have uses : scene.channel.Uses handle := by
        rcases List.mem_cons.1 member with rfl | member
        · exact .inl rfl
        · obtain ⟨⟨_, peer⟩, here, rfl⟩ := List.mem_map.1 member
          exact .inr ⟨peer, here⟩
      apply (native_known keeps uses rfl rfl).bind
      intro reply
      apply Keeps.bind _ fun _ => .pure false
      exact translate_keeps (fun _ _ before => ⟨{ before.1 with }, before.2⟩) reply.status
    · rintro _ ⟨rfl, same⟩
      exact ⟨⟨sound, rfl⟩, same⟩
  intro _
  apply Keeps.bind
  · apply Keeps.change
    intro next sound
    apply sound.channel _ _ (sound.stands.cleared clearing)
    · unfold cleared
      dsimp only
      split <;> rfl
    · unfold cleared
      dsimp only
      split <;> rfl
  · exact fun _ => releaseUnusedEndpoints_sound keeps

end Calls

end OpenDiag.Legacy
