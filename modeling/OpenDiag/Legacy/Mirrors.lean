import OpenDiag.Legacy.Filtering

/-!
# Both libraries have the same channels

Behind every call, whatever the native library answers, the channels that are open there are those
that the 04.04 library has on record, or has given up because they could not be closed. A request
that is not about reading never names a channel that is closed.
-/

namespace OpenDiag.Legacy

open OpenDiag.Action

variable {ν : Type}

/-- The native library has the channels that are on record, and no others but what was given up. -/
structure Library.Mirrors (s : Library ν) (table : ν → Table) : Prop where
  stands : ∀ id channel, (id, channel) ∈ s.channels → channel.Stands (table s.native)
  distinct : ∀ id channel id' channel', (id, channel) ∈ s.channels → (id', channel') ∈ s.channels →
    id ≠ id' → channel.physical ≠ channel'.physical
  physical : ∀ h, table s.native h = some .physical →
    ∃ id channel, (id, channel) ∈ s.channels ∧ channel.physical = h
  logical : ∀ h parent, table s.native h = some (.logical parent) → h ∈ s.abandoned ∨
    ∃ id channel peer, (id, channel) ∈ s.channels ∧ channel.physical = parent ∧
      (h, peer) ∈ channel.logicalEndpoints

/-- Both libraries agree, and the native one is fine. -/
structure Library.Sound (table : ν → Table) (fine : ν → Prop) (s : Library ν) : Prop where
  mirrors : s.Mirrors table
  fine : fine s.native

section Steps

variable {backend : Backend ν} {table : ν → Table} {fine : ν → Prop} {s : Library ν}

/-- Where a call on a channel starts. -/
def Library.origin (s : Library ν) (table : ν → Table) (channel : Channel) : Origin :=
  ⟨channel.physical, table s.native, s.abandoned⟩

/-- What a call on a channel works on. -/
def Library.scene (s : Library ν) (channel : Channel) : Scene ν :=
  { channel, disconnected := s.disconnected, nextId := s.nextId, native := s.native,
    abandoned := s.abandoned }

/-- The library behind a call on a channel. -/
def Library.resume (s : Library ν) (id : Handle) (scene : Scene ν) : Library ν :=
  { disconnected := scene.disconnected
    nextId := scene.nextId
    channels := s.channels.insert id scene.channel
    native := scene.native
    abandoned := scene.abandoned }

theorem Library.Sound.scene (sound : s.Sound table fine) {id : Handle} {channel : Channel}
    (here : (id, channel) ∈ s.channels) :
    (s.scene channel).Sound table fine (s.origin table channel) where
  fine := sound.fine
  physical := rfl
  stands := sound.mirrors.stands id channel here
  near := fun _ => .inl rfl
  recorded := by
    intro h logical
    rcases sound.mirrors.logical h _ logical with
      given | ⟨id', channel', peer, here', same, recorded⟩
    · exact .inr given
    · by_cases other : id = id'
      · subst other
        obtain rfl := OrderedMap.unique here here'
        exact .inl ⟨peer, recorded⟩
      · exact absurd same.symm (sound.mirrors.distinct id channel id' channel' here here' other)
  abandoned := fun _ given _ _ _ => given

/-- What another channel uses is left alone. -/
theorem Origin.Near.other {origin : Origin} {t : Table} (near : origin.Near t) {channel : Channel}
    (stands : channel.Stands origin.table) (apart : channel.physical ≠ origin.physical) :
    channel.Stands t := by
  apply stands.congr
  intro h uses
  rcases near h with same | ⟨before, -⟩
  · exact same
  · rcases uses with rfl | ⟨peer, here⟩
    · rw [stands.physical] at before
      rcases before with before | before
      · cases before
      · cases before
    · rw [(stands.endpoints h peer here).2] at before
      rcases before with before | before
      · cases before
      · exact absurd (NativeChannel.logical.inj (Option.some.inj before)) apart

theorem Library.Sound.resume (sound : s.Sound table fine) {id : Handle} {channel : Channel}
    (here : (id, channel) ∈ s.channels) {scene : Scene ν}
    (after : scene.Sound table fine (s.origin table channel)) :
    (s.resume id scene).Sound table fine where
  fine := after.fine
  mirrors :=
    have others : ∀ {id' channel'}, id' ≠ id → (id', channel') ∈ s.channels →
        channel'.physical ≠ channel.physical := fun differs here' =>
      sound.mirrors.distinct _ _ _ _ here' here differs
    { stands := by
        intro id' channel' member
        rcases OrderedMap.mem_insert.1 member with ⟨-, rfl⟩ | ⟨differs, member⟩
        · exact after.stands
        · exact after.near.other (sound.mirrors.stands id' channel' member) (others differs member)
      distinct := by
        intro id₁ channel₁ id₂ channel₂ member member' differs
        rcases OrderedMap.mem_insert.1 member with ⟨rfl, rfl⟩ | ⟨other, first⟩
        · rcases OrderedMap.mem_insert.1 member' with ⟨rfl, -⟩ | ⟨other, second⟩
          · exact absurd rfl differs
          · rw [after.physical]
            exact (others other second).symm
        · rcases OrderedMap.mem_insert.1 member' with ⟨rfl, rfl⟩ | ⟨-, second⟩
          · rw [after.physical]
            exact others other first
          · exact sound.mirrors.distinct id₁ channel₁ id₂ channel₂ first second differs
      physical := by
        intro h open'
        rcases after.near h with same | ⟨-, now⟩
        · obtain ⟨id', channel', member, named⟩ := sound.mirrors.physical h (same.symm.trans open')
          by_cases other : id' = id
          · subst other
            obtain rfl := OrderedMap.unique here member
            exact ⟨id', scene.channel, OrderedMap.mem_insert_self, after.physical.trans named⟩
          · exact ⟨id', channel', OrderedMap.mem_insert.2 (.inr ⟨other, member⟩), named⟩
        · rw [show table scene.native h = _ from open'] at now
          rcases now with now | now
          · cases now
          · cases now
      logical := by
        intro h parent open'
        by_cases own : parent = channel.physical
        · subst own
          rcases after.recorded h open' with ⟨peer, recorded⟩ | given
          · exact .inr ⟨id, scene.channel, peer, OrderedMap.mem_insert_self, after.physical,
              recorded⟩
          · exact .inl given
        · rcases after.near h with same | ⟨-, now⟩
          · rcases sound.mirrors.logical h parent (same.symm.trans open') with
              given | ⟨id', channel', peer, member, named, recorded⟩
            · exact .inl (after.abandoned h given parent (same.symm.trans open') own)
            · have other : id' ≠ id := by
                rintro rfl
                obtain rfl := OrderedMap.unique here member
                exact own named.symm
              exact .inr ⟨id', channel', peer, OrderedMap.mem_insert.2 (.inr ⟨other, member⟩),
                named, recorded⟩
          · rw [show table scene.native h = _ from open'] at now
            rcases now with now | now
            · cases now
            · exact absurd (NativeChannel.logical.inj (Option.some.inj now)) own }

variable (keeps : backend.Keeps table fine)

include keeps

omit keeps in
/-- What holds behind a call on a channel: of what the action leaves, where it gives a value. -/
def Library.Answered (s : Library ν) (table : ν → Table) (fine : ν → Prop) (id : Handle)
    (Q : Channel → Scene ν → Prop) : Except Exit Unit × Library ν → Prop
  | (.ok _, next) =>
    ∃ channel scene, (id, channel) ∈ s.channels ∧ Q channel scene ∧ next = s.resume id scene
  | (.error _, next) => next.Sound table fine

/-- A call on a channel. -/
theorem Library.Sound.answers (sound : s.Sound table fine) (id : Handle)
    {act : Action (Scene ν) Exit Unit} {Q : Channel → Scene ν → Prop}
    (triple : ∀ channel, Triple (Scene.Sound table fine (s.origin table channel)) act
      (fun _ => Q channel) fun _ => Scene.Sound table fine (s.origin table channel)) :
    s.Answered table fine id Q (s.onChannel backend id act) := by
  unfold Library.onChannel
  split
  · exact sound
  · split
    · exact sound
    · rename_i channel found
      have here := OrderedMap.find?_eq_some_iff.1 found
      have behind := Triple.bind (probe_sound keeps) (fun _ => triple channel) _ (sound.scene here)
      change s.Answered table fine id Q
        (((probe backend >>= fun _ => act) (s.scene channel)).1,
          s.resume id ((probe backend >>= fun _ => act) (s.scene channel)).2)
      revert behind
      rcases (probe backend >>= fun _ => act) (s.scene channel) with ⟨exit | value, scene⟩
      · exact sound.resume here
      · exact fun behind => ⟨channel, scene, here, behind, rfl⟩

/-- A call on a channel that keeps it sound. -/
theorem Library.Sound.onChannel (sound : s.Sound table fine) (id : Handle)
    {act : Action (Scene ν) Exit Unit}
    (kept : ∀ origin, Keeps (Scene.Sound table fine origin) act) :
    (s.onChannel backend id act).2.Sound table fine := by
  have behind := sound.answers keeps id fun channel => kept (s.origin table channel)
  revert behind
  rcases s.onChannel backend id act with ⟨exit | value, next⟩
  · exact fun next => next
  · rintro ⟨channel, scene, here, after, rfl⟩
    exact sound.resume here after

/-! ## Opening and closing -/

/-- The identifier of the next channel is not in use. -/
def Library.Fresh (s : Library ν) (call : Nat × Call) : Prop :=
  match call.2 with
  | .connect .. => s.channels.contains (following s.nextId) = false
  | _ => True

omit keeps in
/-- A channel that has just been opened. -/
theorem Channel.Stands.fresh {t : Table} {handle : Handle} (open' : t handle = some .physical)
    (protocol flags baudrate : UInt32) :
    ({ physical := handle, protocol, flags, baudrate } : Channel).Stands t where
  physical := open'
  endpoints := fun _ _ here => absurd here (OrderedMap.not_mem_empty _)
  filters := fun _ _ here => absurd here (OrderedMap.not_mem_empty _)
  transmissions := fun _ _ here => absurd here (OrderedMap.not_mem_empty _)
  apart := fun _ _ _ _ here => absurd here (OrderedMap.not_mem_empty _)
  unique := fun _ _ _ _ _ here => absurd here (OrderedMap.not_mem_empty _)
  queued := .empty
  capacity := Nat.zero_le _

omit keeps in
/-- A physical channel was opened. -/
theorem Library.Mirrors.connected (mirrors : s.Mirrors table) {channel : Channel} {id : Handle}
    (new : s.channels.contains id = false) (free : table s.native channel.physical = none)
    {after : ν} (opened : table after = Function.update (table s.native) channel.physical
      (some .physical))
    (stands : channel.Stands (table after)) :
    ({ s with
      nextId := id
      channels := s.channels.insert id channel
      native := after } : Library ν).Mirrors table := by
  have other : ∀ {id' channel'}, (id', channel') ∈ s.channels → id' ≠ id := by
    rintro id' channel' member rfl
    rw [OrderedMap.contains_iff.2 ⟨channel', member⟩] at new
    cases new
  have apart : ∀ {id' channel'}, (id', channel') ∈ s.channels →
      channel'.physical ≠ channel.physical := by
    intro id' channel' member same
    rw [← same, (mirrors.stands id' channel' member).physical] at free
    cases free
  refine ⟨?_, ?_, ?_, ?_⟩
  · intro id' channel' member
    rcases OrderedMap.mem_insert.1 member with ⟨-, rfl⟩ | ⟨-, member⟩
    · exact stands
    · change channel'.Stands (table after)
      rw [opened]
      exact (mirrors.stands id' channel' member).opened free _
  · intro id₁ channel₁ id₂ channel₂ member member' differs
    rcases OrderedMap.mem_insert.1 member with ⟨rfl, rfl⟩ | ⟨-, first⟩
    · rcases OrderedMap.mem_insert.1 member' with ⟨rfl, -⟩ | ⟨-, second⟩
      · exact absurd rfl differs
      · exact (apart second).symm
    · rcases OrderedMap.mem_insert.1 member' with ⟨rfl, rfl⟩ | ⟨-, second⟩
      · exact apart first
      · exact mirrors.distinct id₁ channel₁ id₂ channel₂ first second differs
  · intro h open'
    change table after h = _ at open'
    rw [opened] at open'
    by_cases own : h = channel.physical
    · exact ⟨id, channel, OrderedMap.mem_insert_self, own.symm⟩
    · rw [Function.update_of_ne own] at open'
      obtain ⟨id', channel', member, named⟩ := mirrors.physical h open'
      exact ⟨id', channel', OrderedMap.mem_insert.2 (.inr ⟨other member, member⟩), named⟩
  · intro h parent open'
    change table after h = _ at open'
    rw [opened] at open'
    have own : h ≠ channel.physical := by
      rintro rfl
      rw [Function.update_self] at open'
      cases open'
    rw [Function.update_of_ne own] at open'
    rcases mirrors.logical h parent open' with
      given | ⟨id', channel', peer, member, named, recorded⟩
    · exact .inl given
    · exact .inr ⟨id', channel', peer, OrderedMap.mem_insert.2 (.inr ⟨other member, member⟩), named,
        recorded⟩

omit keeps in
/-- The native library went on, with the same table. -/
theorem Library.Sound.unchanged (sound : s.Sound table fine) {after : ν} {flag : Bool}
    (same : table after = table s.native) (good : fine after) :
    ({ s with native := after, disconnected := flag } : Library ν).Sound table fine := by
  obtain ⟨⟨stands, distinct, physical, logical⟩, -⟩ := sound
  refine ⟨⟨?_, distinct, ?_, ?_⟩, good⟩
  · change ∀ id (channel : Channel), _ → channel.Stands (table after)
    rw [same]
    exact stands
  · change ∀ h, table after h = _ → _
    rw [same]
    exact physical
  · change ∀ h parent, table after h = _ → _
    rw [same]
    exact logical

theorem Library.Sound.connect (sound : s.Sound table fine) (protocol flags baudrate : UInt32)
    (new : s.channels.contains (following s.nextId) = false) :
    (s.connect backend protocol flags baudrate).2.Sound table fine := by
  unfold Library.connect
  split
  · exact sound
  · rename_i nativeProtocol pins _
    have good := keeps.stays s.native (.connect nativeProtocol flags baudrate pins) sound.fine
      fun _ member => (List.not_mem_nil member).elim
    dsimp only
    split
    · rename_i conflict
      have bad : (backend (.connect nativeProtocol flags baudrate pins) s.native).1.status ≠
          statusNoError := by
        rw [conflict]
        decide
      exact sound.unchanged (keeps.refused _ _ bad) good
    · split
      · rename_i bad
        exact sound.unchanged (keeps.refused _ _ bad) good
      · rename_i ok
        obtain ⟨free, opened⟩ := keeps.connected _ _ _ _ _ (not_not.1 ok)
        have stands : Channel.Stands _ _ :=
          .fresh ((congrFun opened _).trans (Function.update_self ..)) protocol flags baudrate
        exact ⟨sound.mirrors.connected new free opened stands, good⟩

/-- The physical channel of a call is closed, with the logical ones on it. -/
structure Scene.Closed (table : ν → Table) (fine : ν → Prop) (origin : Origin) (scene : Scene ν) :
    Prop where
  fine : fine scene.native
  gone : ∀ h, table scene.native h =
    if h = origin.physical ∨ origin.table h = some (.logical origin.physical) then none
    else origin.table h
  abandoned : ∀ h ∈ origin.abandoned, ∀ other, origin.table h = some (.logical other) →
    other ≠ origin.physical → h ∈ scene.abandoned

theorem disconnectNative_closes (origin : Origin) :
    Triple (Scene.Sound table fine origin) (disconnectNative backend)
      (fun _ => Scene.Closed table fine origin) (fun _ => Scene.Sound table fine origin) := by
  apply Triple.seen
  intro physical
  apply Triple.bind (Q := fun reply scene =>
    (reply.status ≠ statusNoError → scene.Sound table fine origin) ∧
    (reply.status = statusNoError → scene.Closed table fine origin))
  · apply Triple.ask
    rintro scene ⟨sound, rfl⟩
    have good := keeps.stays scene.native (.disconnect scene.channel.physical) sound.fine (by
      intro handle member
      rw [List.mem_singleton.1 member]
      exact sound.stands.uses (.inl rfl))
    refine ⟨fun bad => sound.native (keeps.refused _ _ bad) good, fun ok => ?_⟩
    refine ⟨good, fun h => ?_, sound.abandoned⟩
    rw [keeps.disconnected _ _ ok, sound.physical]
    dsimp only
    rcases sound.near h with same | ⟨before, now⟩
    · rw [same]
    · have closed : (if h = origin.physical ∨
          table scene.native h = some (.logical origin.physical) then none
          else table scene.native h) = none := by
        rcases now with now | now
        · rw [now]
          split <;> rfl
        · exact if_pos (.inr now)
      rw [closed]
      rcases before with before | before
      · rw [before]
        split <;> rfl
      · exact (if_pos (.inr before)).symm
  intro reply
  apply (translate_cases ?_).post
  · exact fun _ scene behind => behind.1.2 behind.2
  · exact fun scene behind bad _ => { behind.1 bad with }

omit keeps in
/-- A channel was closed. -/
theorem Library.Sound.closed (sound : s.Sound table fine) {id : Handle} {channel : Channel}
    (here : (id, channel) ∈ s.channels) {scene : Scene ν}
    (closed : scene.Closed table fine (s.origin table channel)) :
    ({ s.resume id scene with
      channels := (s.resume id scene).channels.erase id } : Library ν).Sound table fine := by
  have other : ∀ {id' channel'}, (id', channel') ∈ (s.resume id scene).channels.erase id →
      id' ≠ id ∧ (id', channel') ∈ s.channels := by
    intro id' channel' member
    obtain ⟨differs, member⟩ := OrderedMap.mem_erase.1 member
    rcases OrderedMap.mem_insert.1 member with ⟨same, -⟩ | ⟨-, member⟩
    · exact absurd same differs
    · exact ⟨differs, member⟩
  have stays : ∀ {id' channel'}, (id', channel') ∈ s.channels → id' ≠ id →
      (id', channel') ∈ (s.resume id scene).channels.erase id := fun member differs =>
    OrderedMap.mem_erase.2 ⟨differs, OrderedMap.mem_insert.2 (.inr ⟨differs, member⟩)⟩
  have before : ∀ {h entry}, table scene.native h = some entry →
      table s.native h = some entry ∧ h ≠ channel.physical ∧
        table s.native h ≠ some (.logical channel.physical) := by
    intro h entry open'
    rw [closed.gone] at open'
    split at open'
    · cases open'
    · rename_i spared
      rw [not_or] at spared
      exact ⟨open', spared⟩
  refine ⟨⟨?_, ?_, ?_, ?_⟩, closed.fine⟩
  · intro id' channel' member
    obtain ⟨differs, member⟩ := other member
    have apart := sound.mirrors.distinct _ _ _ _ member here differs
    have stands := sound.mirrors.stands id' channel' member
    apply stands.congr
    intro h uses
    change table scene.native h = _
    rw [closed.gone]
    apply if_neg
    rintro (same | logical)
    · rcases uses with rfl | ⟨peer, recorded⟩
      · exact apart same
      · have open' := (stands.endpoints h peer recorded).2
        have other : table s.native h = some .physical := by
          rw [same]
          exact (sound.mirrors.stands id channel here).physical
        rw [other] at open'
        cases open'
    · rcases uses with rfl | ⟨peer, recorded⟩
      · rw [show (s.origin table channel).table channel'.physical = _ from stands.physical]
          at logical
        cases logical
      · rw [show (s.origin table channel).table h = _ from (stands.endpoints h peer recorded).2]
          at logical
        exact apart (NativeChannel.logical.inj (Option.some.inj logical))
  · intro id₁ channel₁ id₂ channel₂ member member'
    exact sound.mirrors.distinct _ _ _ _ (other member).2 (other member').2
  · intro h open'
    obtain ⟨open', differs, -⟩ := before open'
    obtain ⟨id', channel', member, named⟩ := sound.mirrors.physical h open'
    refine ⟨id', channel', stays member ?_, named⟩
    rintro rfl
    obtain rfl := OrderedMap.unique here member
    exact differs named.symm
  · intro h parent now
    obtain ⟨open', -, spared⟩ := before now
    rcases sound.mirrors.logical h parent open' with
      given | ⟨id', channel', peer, member, named, recorded⟩
    · refine .inl (closed.abandoned h given parent open' ?_)
      rintro rfl
      exact spared open'
    · refine .inr ⟨id', channel', peer, stays member ?_, named, recorded⟩
      rintro rfl
      obtain rfl := OrderedMap.unique here member
      rw [← named] at open'
      exact spared open'

theorem Library.Sound.disconnect (sound : s.Sound table fine) (id : Handle) :
    (s.disconnect backend id).2.Sound table fine := by
  have behind := sound.answers keeps id fun channel =>
    disconnectNative_closes keeps (s.origin table channel)
  unfold Library.disconnect
  revert behind
  rcases s.onChannel backend id (disconnectNative backend) with ⟨exit | value, next⟩
  · exact fun next => next
  · rintro ⟨channel, scene, here, closed, rfl⟩
    exact sound.closed here closed

/-- Every call keeps both libraries the same. -/
theorem Library.Sound.step (sound : s.Sound table fine) (call : Nat × Call) (fresh : s.Fresh call) :
    (s.step backend call).Sound table fine := by
  obtain ⟨fuel, call⟩ := call
  cases call with
  | connect protocol flags baudrate => exact sound.connect keeps protocol flags baudrate fresh
  | disconnect id => exact sound.disconnect keeps id
  | readMsgs id requested timeout =>
      exact sound.onChannel keeps id fun _ =>
        keeps_sound fun _ => readMsgs_serves keeps requested timeout fuel
  | writeMsgs id messages timeout =>
      exact sound.onChannel keeps id fun _ => writeMsgs_sound keeps messages timeout fuel
  | startMsgFilter id type mask pattern flow =>
      exact sound.onChannel keeps id fun _ => startMsgFilter_sound keeps type mask pattern flow
  | stopMsgFilter id filterId =>
      exact sound.onChannel keeps id fun _ => stopMsgFilter_sound keeps filterId
  | startPeriodicMsg id message interval =>
      exact sound.onChannel keeps id fun _ => startPeriodicMsg_sound keeps message interval
  | stopPeriodicMsg id messageId =>
      exact sound.onChannel keeps id fun _ => stopPeriodicMsg_sound keeps messageId
  | startRepeat id setup => exact sound.onChannel keeps id fun _ => startRepeat_sound keeps setup
  | stopRepeat id token => exact sound.onChannel keeps id fun _ => stopRepeat_sound keeps token
  | setConfigs id configs => exact sound.onChannel keeps id fun _ => setConfigs_sound keeps configs
  | clear id clearing => exact sound.onChannel keeps id fun _ => clear_sound keeps clearing
  | clearFilters id => exact sound.onChannel keeps id fun _ => clearFilters_sound keeps fuel

end Steps

/-! ## Runs -/

theorem Library.sound_start {table : ν → Table} {fine : ν → Prop} {start : ν}
    (closed : ∀ h, table start h = none) (good : fine start) :
    ({ native := start } : Library ν).Sound table fine where
  fine := good
  mirrors :=
    { stands := fun _ _ here => absurd here (OrderedMap.not_mem_empty _)
      distinct := fun _ _ _ _ here => absurd here (OrderedMap.not_mem_empty _)
      physical := fun h open' => absurd (open'.symm.trans (closed h)) (Option.some_ne_none _)
      logical := fun h _ open' => absurd (open'.symm.trans (closed h)) (Option.some_ne_none _) }

/-- Behind every run of calls, whatever the native library answers: it has the channels that are on
record, and no others but what was given up; each stands, with its filters and transmissions, on
channels that are open; and every request that does not read was about channels that were open. -/
theorem library_mirrors_native (backend : Backend ν) (table : ν → Table)
    (keeps : backend.Keeps table fun _ => True) (start : ν) (closed : ∀ h, table start h = none)
    (calls : List (Nat × Call))
    (fresh : Admissible Library.Fresh (Library.step (backend.watched table))
      { native := (start, true) } calls) :
    let s := run (Library.step (backend.watched table)) { native := (start, true) } calls
    s.Mirrors (fun state => table state.1) ∧ s.native.2 = true := by
  have kept : ∀ (s : Library (ν × Bool)) (call : Nat × Call),
      s.Sound (fun state => table state.1) (fun state => state.2 = true) → s.Fresh call →
        (s.step (backend.watched table) call).Sound (fun state => table state.1)
          fun state => state.2 = true :=
    fun s call sound fresh => sound.step keeps.watched call fresh
  have sound := fresh.invariant kept (Library.sound_start closed rfl)
  exact ⟨sound.mirrors, sound.fine⟩

/-- A native library that opens what it is asked to, and never has a message. -/
def quietBackend : Backend (Handle × Table)
  | .connect .., (last, table) =>
    if table (last + 1) = none then
      ({ handle := last + 1 }, last + 1, Function.update table (last + 1) (some .physical))
    else ({ status := errExceededLimit }, last, table)
  | .logicalConnect physical _, (last, table) =>
    if table (last + 1) = none then
      ({ handle := last + 1 }, last + 1,
        Function.update table (last + 1) (some (.logical physical)))
    else ({ status := errExceededLimit }, last, table)
  | .disconnect channel, (last, table) =>
    ({}, last, fun handle =>
      if handle = channel ∨ table handle = some (.logical channel) then none else table handle)
  | .logicalDisconnect channel, (last, table) => ({}, last, Function.update table channel none)
  | .readMsgs _ count, state => ({ status := if count = 0 then statusNoError else errBufferEmpty },
      state)
  | .select _, state => ({ status := errBufferEmpty }, state)
  | _, state => ({}, state)

theorem quietBackend_keeps : quietBackend.Keeps Prod.snd fun _ => True where
  connected := by
    rintro ⟨last, table⟩ protocol flags baudrate pins ok
    unfold quietBackend at ok ⊢
    dsimp only at ok ⊢
    split at ok
    · rename_i free
      rw [if_pos free]
      exact ⟨free, rfl⟩
    · cases ok
  joined := by
    rintro ⟨last, table⟩ physical descriptor ok
    unfold quietBackend at ok ⊢
    dsimp only at ok ⊢
    split at ok
    · rename_i free
      rw [if_pos free]
      exact ⟨Nat.succ_ne_zero last, free, rfl⟩
    · cases ok
  disconnected := fun _ _ _ => rfl
  parted := fun _ _ _ => rfl
  refused := by
    rintro ⟨last, table⟩ req bad
    cases req with
    | connect protocol flags baudrate pins =>
        unfold quietBackend at bad ⊢
        dsimp only at bad ⊢
        split at bad
        · exact absurd rfl bad
        · rename_i taken
          rw [if_neg taken]
    | logicalConnect physical descriptor =>
        unfold quietBackend at bad ⊢
        dsimp only at bad ⊢
        split at bad
        · exact absurd rfl bad
        · rename_i taken
          rw [if_neg taken]
    | disconnect channel => exact absurd rfl bad
    | logicalDisconnect channel => exact absurd rfl bad
    | _ => rfl
  passed := by
    rintro ⟨last, table⟩ req passes
    cases req with
    | connect => cases passes
    | disconnect => cases passes
    | logicalConnect => cases passes
    | logicalDisconnect => cases passes
    | _ => rfl
  stays := fun _ _ _ _ => True.intro

/-- A CAN identifier, as the beginning of a message. -/
def address (id : List UInt8) : PassthruMsg :=
  { protocolId := iso15765, dataSize := 4, data := (Block.fill dataMax 0).store 0 id }

/-- A channel with a filter sends a message, loses the filter and is closed. -/
def filterCalls : List (Nat × Call) :=
  [(0, .connect iso15765 0 500000),
    (0, .startMsgFilter 0x400001 flowControlFilter (address [0xff, 0xff, 0xff, 0xff])
      (address [0, 0, 7, 0xe8]) (some (address [0, 0, 7, 0xe0]))),
    (8, .writeMsgs 0x400001 [{ address [0, 0, 7, 0xe0, 1, 0] with dataSize := 6 }] 0),
    (0, .stopMsgFilter 0x400001 0x400002), (0, .disconnect 0x400001)]

theorem library_mirrors_quiet :
    let s := run (Library.step (quietBackend.watched Prod.snd))
      { native := ((0, fun _ => none), true) } filterCalls
    s.Mirrors (fun state => state.1.2) ∧ s.native.2 = true :=
  library_mirrors_native quietBackend Prod.snd quietBackend_keeps (0, fun _ => none)
    (fun _ => rfl) filterCalls ⟨rfl, True.intro, True.intro, True.intro, True.intro, True.intro⟩

end OpenDiag.Legacy
