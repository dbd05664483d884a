import Mathlib.Logic.Function.Basic
import OpenDiag.Legacy.Standing

/-!
# The endpoints of the 04.04 library

The native library has a table of the channels that are open. The 04.04 library keeps, for each
channel of its own, the logical channels that it opened; both have the same ones after every call,
whatever the native library answers.
-/

namespace OpenDiag.Legacy

open OpenDiag.Action

/-! ## The table of the native library -/

/-- A channel that is open: a physical one, or a logical one on it. -/
inductive NativeChannel where
  | physical
  | logical (parent : Handle)
  deriving DecidableEq, Repr

/-- The channels that are open. -/
abbrev Table := Handle → Option NativeChannel

/-- The channels that a request is about, unless it reads from one. -/
def Request.names : Request → List Handle
  | .disconnect channel | .logicalConnect channel _ | .logicalDisconnect channel
  | .queueMsgs channel _ | .startPeriodicMsg channel _ _ | .stopPeriodicMsg channel _
  | .startMsgFilter channel _ _ _ | .stopMsgFilter channel _ | .setConfig channel _ _
  | .clear channel _ | .startRepeat channel _ | .stopRepeat channel _ => [channel]
  | .select channels => channels
  | .milliseconds | .connect .. | .readMsgs .. | .maxRepeatMessaging _ => []

/-- The request neither opens nor closes a channel. -/
def Request.passes : Request → Bool
  | .connect .. | .disconnect _ | .logicalConnect .. | .logicalDisconnect _ => false
  | _ => true

section Backend

variable {ν : Type}

/-- A native library that keeps a table: it opens and closes what it says it does, and a new channel
has a handle that is not in use. `fine` is kept by the requests that are about open channels. -/
structure Backend.Keeps (backend : Backend ν) (table : ν → Table) (fine : ν → Prop) : Prop where
  connected : ∀ n protocol flags baudrate pins,
    (backend (.connect protocol flags baudrate pins) n).1.status = statusNoError →
      table n (backend (.connect protocol flags baudrate pins) n).1.handle = none ∧
        table (backend (.connect protocol flags baudrate pins) n).2 =
          Function.update (table n) (backend (.connect protocol flags baudrate pins) n).1.handle
            (some .physical)
  joined : ∀ n physical descriptor,
    (backend (.logicalConnect physical descriptor) n).1.status = statusNoError →
      (backend (.logicalConnect physical descriptor) n).1.handle ≠ 0 ∧
        table n (backend (.logicalConnect physical descriptor) n).1.handle = none ∧
        table (backend (.logicalConnect physical descriptor) n).2 =
          Function.update (table n) (backend (.logicalConnect physical descriptor) n).1.handle
            (some (.logical physical))
  disconnected : ∀ n channel, (backend (.disconnect channel) n).1.status = statusNoError →
    table (backend (.disconnect channel) n).2 = fun handle =>
      if handle = channel ∨ table n handle = some (.logical channel) then none else table n handle
  parted : ∀ n channel, (backend (.logicalDisconnect channel) n).1.status = statusNoError →
    table (backend (.logicalDisconnect channel) n).2 = Function.update (table n) channel none
  refused : ∀ n req, (backend req n).1.status ≠ statusNoError →
    table (backend req n).2 = table n
  passed : ∀ n req, req.passes = true → table (backend req n).2 = table n
  stays : ∀ n req, fine n → (∀ handle ∈ req.names, table n handle ≠ none) →
    fine (backend req n).2

/-- The library, with a note of whether every request was about open channels. -/
def Backend.watched (backend : Backend ν) (table : ν → Table) : Backend (ν × Bool) :=
  fun req state =>
    ((backend req state.1).1, (backend req state.1).2,
      state.2 && req.names.all fun handle => (table state.1 handle).isSome)

/-- A library that is watched keeps the same. -/
theorem Backend.Keeps.watched {backend : Backend ν} {table : ν → Table} {fine : ν → Prop}
    (keeps : backend.Keeps table fine) :
    (backend.watched table).Keeps (fun state => table state.1) fun state => state.2 = true where
  connected := fun n => keeps.connected n.1
  joined := fun n => keeps.joined n.1
  disconnected := fun n => keeps.disconnected n.1
  parted := fun n => keeps.parted n.1
  refused := fun n => keeps.refused n.1
  passed := fun n => keeps.passed n.1
  stays := by
    intro n req good open'
    change (n.2 && _) = true
    rw [good, Bool.true_and, List.all_eq_true]
    intro handle member
    exact Option.isSome_iff_ne_none.2 (open' handle member)

end Backend

/-! ## What a channel stands on -/

/-- A channel stands on channels that are open, each conversation on one of its own. -/
structure Channel.Stands (channel : Channel) (table : Table) : Prop where
  physical : table channel.physical = some .physical
  endpoints : ∀ h peer, (h, peer) ∈ channel.logicalEndpoints →
    h ≠ 0 ∧ table h = some (.logical channel.physical)
  filters : ∀ k filter, (k, filter) ∈ channel.filters →
    filter.type ≠ flowControlFilter ∧ channel.protocol ≠ iso15765 ∧
        filter.endpoint = channel.physical ∨
      filter.type = flowControlFilter ∧ channel.protocol = iso15765 ∧
        ∃ peer, (filter.endpoint, peer) ∈ channel.logicalEndpoints ∧ peer.same filter.peer = true
  transmissions : ∀ token x, (token, x) ∈ channel.transmissions →
    x.endpoint = channel.physical ∨ ∃ peer, (x.endpoint, peer) ∈ channel.logicalEndpoints
  apart : ∀ h peer h' peer', (h, peer) ∈ channel.logicalEndpoints →
    (h', peer') ∈ channel.logicalEndpoints → h ≠ h' → peer.clashes peer' = false
  unique : channel.protocol = iso15765 → ∀ k filter k' filter', (k, filter) ∈ channel.filters →
    (k', filter') ∈ channel.filters → k ≠ k' → filter.peer.clashes filter'.peer = false
  queued : Queued channel.received channel.receiveBytes
  capacity : channel.transmissions.size ≤ maxTxMessages

/-- A native channel that a channel uses. -/
def Channel.Uses (channel : Channel) (endpoint : Handle) : Prop :=
  endpoint = channel.physical ∨ ∃ peer, (endpoint, peer) ∈ channel.logicalEndpoints

/-- An endpoint that is in use is one that the library has. -/
theorem Channel.Stands.uses {channel : Channel} {table : Table} (stands : channel.Stands table)
    {endpoint : Handle} (uses : channel.Uses endpoint) : table endpoint ≠ none := by
  rcases uses with rfl | ⟨peer, here⟩
  · rw [stands.physical]
    exact Option.some_ne_none _
  · rw [(stands.endpoints endpoint peer here).2]
    exact Option.some_ne_none _

/-- Receiving keeps what a channel stands on. -/
theorem Channel.Stands.hears {before after : Channel} {table : Table} (stands : before.Stands table)
    (hears : before.Hears after) : after.Stands table where
  physical := by
    rw [hears.physical]
    exact stands.physical
  endpoints := by
    rw [hears.physical, hears.endpoints]
    exact stands.endpoints
  filters := by
    rw [hears.physical, hears.protocol, hears.filters, hears.endpoints]
    exact stands.filters
  transmissions := by
    intro token x here
    obtain ⟨x', here', same⟩ := hears.older token x here
    rw [hears.physical, hears.endpoints, ← same]
    exact stands.transmissions token x' here'
  apart := by
    rw [hears.endpoints]
    exact stands.apart
  unique := by
    rw [hears.protocol, hears.filters]
    exact stands.unique
  queued := hears.queued stands.queued
  capacity := le_trans hears.size stands.capacity

/-- An endpoint without a filter is named by none. -/
theorem endpointHasFilter_eq_false {channel : Channel} {endpoint : Handle}
    (none : endpointHasFilter channel endpoint = false) {k : Handle} {filter : Filter}
    (here : (k, filter) ∈ channel.filters) : filter.endpoint ≠ endpoint := by
  have all := List.any_eq_false.1 none (k, filter) here
  simpa using all

/-- An endpoint that is not needed is waited for by no transmission. -/
theorem endpointNeeded_eq_false {channel : Channel} {endpoint : Handle}
    (none : endpointNeededByTransmissions channel endpoint = false) {token : Handle}
    {x : Transmission} (here : (token, x) ∈ channel.transmissions) : x.endpoint ≠ endpoint := by
  have all := List.any_eq_false.1 none (token, x) here
  intro same
  exact all (decide_eq_true (.inl same))

/-- A logical channel that nothing needs is closed. -/
theorem Channel.Stands.part {channel : Channel} {table : Table} (stands : channel.Stands table)
    {endpoint : Handle} {peer : IsoEndpoint} (here : (endpoint, peer) ∈ channel.logicalEndpoints)
    {filters : OrderedMap Handle Filter} (left : ∀ entry ∈ filters, entry ∈ channel.filters)
    (free : ∀ k filter, (k, filter) ∈ filters → filter.endpoint ≠ endpoint)
    (idle : ∀ token x, (token, x) ∈ channel.transmissions → x.endpoint ≠ endpoint) :
    ({ channel with
      filters := filters
      logicalEndpoints := channel.logicalEndpoints.erase endpoint } : Channel).Stands
      (Function.update table endpoint none) where
  physical := by
    have open' := (stands.endpoints endpoint peer here).2
    have other : channel.physical ≠ endpoint := by
      rintro same
      rw [← same, stands.physical] at open'
      cases open'
    change Function.update table endpoint none channel.physical = _
    rw [Function.update_of_ne other]
    exact stands.physical
  endpoints := by
    intro h peer' member
    obtain ⟨differs, member⟩ := OrderedMap.mem_erase.1 member
    obtain ⟨some', open'⟩ := stands.endpoints h peer' member
    refine ⟨some', ?_⟩
    rw [Function.update_of_ne differs]
    exact open'
  filters := by
    intro k filter member
    rcases stands.filters k filter (left _ member) with plain | ⟨type, protocol, peer', stood, same⟩
    · exact .inl plain
    · exact .inr ⟨type, protocol, peer', OrderedMap.mem_erase.2 ⟨free k filter member, stood⟩, same⟩
  transmissions := by
    intro token x member
    rcases stands.transmissions token x member with physical | ⟨peer', stood⟩
    · exact .inl physical
    · exact .inr ⟨peer', OrderedMap.mem_erase.2 ⟨idle token x member, stood⟩⟩
  apart := by
    intro h peer' h' peer'' member member'
    exact stands.apart h peer' h' peer'' (OrderedMap.mem_erase.1 member).2
      (OrderedMap.mem_erase.1 member').2
  unique := fun protocol k filter k' filter' member member' =>
    stands.unique protocol k filter k' filter' (left _ member) (left _ member')
  queued := stands.queued
  capacity := stands.capacity

/-! ## What a call keeps -/

/-- Where a call started: the physical channel, the table and the channels that were given up. -/
structure Origin where
  physical : Handle
  table : Table
  abandoned : List Handle

/-- Nothing else changed in the table than logical channels of this physical one. -/
def Origin.Near (origin : Origin) (table : Table) : Prop :=
  ∀ h, table h = origin.table h ∨
    (origin.table h = none ∨ origin.table h = some (.logical origin.physical)) ∧
      (table h = none ∨ table h = some (.logical origin.physical))

section Scenes

variable {ν : Type} {backend : Backend ν} {table : ν → Table} {fine : ν → Prop} {origin : Origin}

/-- The channel stands, the table changed only where it may, and the channel has all of its logical
channels on record. -/
structure Scene.Sound (table : ν → Table) (fine : ν → Prop) (origin : Origin) (scene : Scene ν) :
    Prop where
  fine : fine scene.native
  physical : scene.channel.physical = origin.physical
  stands : scene.channel.Stands (table scene.native)
  near : origin.Near (table scene.native)
  recorded : ∀ h, table scene.native h = some (.logical origin.physical) →
    (∃ peer, (h, peer) ∈ scene.channel.logicalEndpoints) ∨ h ∈ scene.abandoned
  abandoned : ∀ h ∈ origin.abandoned, ∀ other, origin.table h = some (.logical other) →
    other ≠ origin.physical → h ∈ scene.abandoned

/-- A sound state behind some reading. -/
def Scene.Serves (table : ν → Table) (fine : ν → Prop) (origin : Origin) (start : Channel)
    (scene : Scene ν) : Prop :=
  scene.Sound table fine origin ∧ start.Reads scene.channel

variable {start : Channel}

/-- The native library went on, with the same table. -/
theorem Scene.Sound.native {scene : Scene ν} (sound : scene.Sound table fine origin) {after : ν}
    (same : table after = table scene.native) (good : fine after) :
    ({ scene with native := after } : Scene ν).Sound table fine origin where
  fine := good
  physical := sound.physical
  stands := by
    change scene.channel.Stands (table after)
    rw [same]
    exact sound.stands
  near := by
    change origin.Near (table after)
    rw [same]
    exact sound.near
  recorded := by
    change ∀ h, table after h = _ → _
    rw [same]
    exact sound.recorded
  abandoned := sound.abandoned

/-- The channel changed, and it still stands. -/
theorem Scene.Sound.channel {scene : Scene ν} (sound : scene.Sound table fine origin)
    {after : Channel} (physical : after.physical = scene.channel.physical)
    (endpoints : after.logicalEndpoints = scene.channel.logicalEndpoints)
    (stands : after.Stands (table scene.native)) :
    ({ scene with channel := after } : Scene ν).Sound table fine origin where
  fine := sound.fine
  physical := physical.trans sound.physical
  stands := stands
  near := sound.near
  recorded := by
    change ∀ h, _ → (∃ peer, (h, peer) ∈ after.logicalEndpoints) ∨ _
    rw [endpoints]
    exact sound.recorded
  abandoned := sound.abandoned

/-- A logical channel that nothing needs was closed. -/
theorem Scene.Sound.part {scene : Scene ν} (sound : scene.Sound table fine origin)
    {endpoint : Handle} {peer : IsoEndpoint}
    (here : (endpoint, peer) ∈ scene.channel.logicalEndpoints)
    {filters : OrderedMap Handle Filter} (left : ∀ entry ∈ filters, entry ∈ scene.channel.filters)
    (free : ∀ k filter, (k, filter) ∈ filters → filter.endpoint ≠ endpoint)
    (idle : ∀ token x, (token, x) ∈ scene.channel.transmissions → x.endpoint ≠ endpoint)
    {after : ν} (parted : table after = Function.update (table scene.native) endpoint none)
    (good : fine after) :
    ({ scene with
      native := after
      channel := { scene.channel with
        filters := filters
        logicalEndpoints := scene.channel.logicalEndpoints.erase endpoint } } : Scene ν).Sound
      table fine origin where
  fine := good
  physical := sound.physical
  stands := by
    change Channel.Stands _ (table after)
    rw [parted]
    exact sound.stands.part here left free idle
  near := by
    change origin.Near (table after)
    rw [parted]
    intro h
    by_cases same : h = endpoint
    · subst same
      right
      have open' := (sound.stands.endpoints h peer here).2
      rw [sound.physical] at open'
      refine ⟨?_, .inl (Function.update_self ..)⟩
      rcases sound.near h with unchanged | ⟨before, -⟩
      · exact .inr (unchanged.symm.trans open')
      · exact before
    · rw [Function.update_of_ne same]
      exact sound.near h
  recorded := by
    change ∀ h, table after h = _ → _
    rw [parted]
    intro h open'
    have differs : h ≠ endpoint := by
      rintro rfl
      rw [Function.update_self] at open'
      cases open'
    rw [Function.update_of_ne differs] at open'
    rcases sound.recorded h open' with ⟨peer', member⟩ | given
    · exact .inl ⟨peer', OrderedMap.mem_erase.2 ⟨differs, member⟩⟩
    · exact .inr given
  abandoned := sound.abandoned

/-- A channel that has heard something is still served. -/
theorem Scene.Serves.hears {scene : Scene ν} (serves : scene.Serves table fine origin start)
    {after : Channel} (hears : scene.channel.Hears after) :
    ({ scene with channel := after } : Scene ν).Serves table fine origin start :=
  ⟨serves.1.channel hears.physical hears.endpoints (serves.1.stands.hears hears),
    serves.2.trans hears.toReads⟩

variable (keeps : backend.Keeps table fine)

include keeps

/-- A request that opens and closes nothing. -/
theorem native_passes {P : Scene ν → Prop} {req : Request} (passes : req.passes = true)
    (named : ∀ scene, P scene → ∀ handle ∈ req.names, table scene.native handle ≠ none)
    (good : ∀ scene, P scene → fine scene.native)
    (frame : ∀ scene after, P scene → table after = table scene.native → fine after →
      P { scene with native := after }) :
    Keeps P (native backend req) := by
  apply Triple.ask
  intro scene before
  exact frame scene _ before (keeps.passed _ req passes)
    (keeps.stays _ req (good scene before) (named scene before))

/-- A request that opens and closes nothing, and is about channels that are used. -/
theorem native_serves {req : Request} (passes : req.passes = true)
    (named : ∀ scene : Scene ν, scene.Serves table fine origin start →
      ∀ handle ∈ req.names, scene.channel.Uses handle) :
    Keeps (Scene.Serves table fine origin start) (native backend req) := by
  apply native_passes keeps passes
  · exact fun scene serves handle member =>
      serves.1.stands.uses (named scene serves handle member)
  · exact fun scene serves => serves.1.fine
  · exact fun scene after serves same good => ⟨serves.1.native same good, serves.2⟩

omit keeps in
/-- What a lost device changes nothing of. -/
theorem translate_keeps {P : Scene ν → Prop}
    (frame : ∀ scene flag, P scene → P { scene with disconnected := flag }) (status : UInt32) :
    Keeps P (translate status : Action (Scene ν) Exit Unit) := by
  apply Keeps.ite
  · exact fun _ => .pure ()
  · intro _
    apply Keeps.bind
    · exact .change fun scene before => frame scene _ before
    · exact fun _ => .fail _

omit keeps in
/-- The error of a call is told without anything being touched. -/
theorem translate_serves (status : UInt32) :
    Keeps (Scene.Serves table fine origin start) (translate status : Action (Scene ν) Exit Unit) :=
  translate_keeps (fun _ _ serves => ⟨{ serves.1 with }, serves.2⟩) status

/-- To see whether time is up, only the clock is read. -/
theorem elapsed_serves (begin' timeout : UInt32) :
    Keeps (Scene.Serves table fine origin start) (elapsed backend begin' timeout) := by
  apply Keeps.bind (native_serves keeps rfl fun _ _ _ member => (List.not_mem_nil member).elim)
  exact fun _ => .pure _

omit keeps in
/-- A status that is reported, or what it stands for. -/
theorem translate_cases {P : Scene ν → Prop} {status : UInt32} {E : Exit → Scene ν → Prop}
    (stop : ∀ scene, P scene → status ≠ statusNoError → ∀ exit,
      E exit { scene with
        disconnected := scene.disconnected || decide (status = errDeviceNotConnected) }) :
    Triple P (translate status : Action (Scene ν) Exit Unit)
      (fun _ scene => P scene ∧ status = statusNoError) E := by
  apply Triple.ite
  · exact fun ok => .pure fun scene before => ⟨before, ok⟩
  · intro bad
    apply Triple.bind (Q := fun _ scene => ∀ exit, E exit scene)
    · exact .change fun scene before exit => stop scene before bad exit
    · exact fun _ => .fail fun scene before => before _

/-- One endpoint on record: it is released, or it is needed; the others stay. -/
theorem releaseEndpoint_serves {endpoint : Handle} {rest : List Handle} (apart : endpoint ∉ rest) :
    Triple
      (fun scene => scene.Serves table fine origin start ∧
        ∀ h ∈ endpoint :: rest, ∃ peer, (h, peer) ∈ scene.channel.logicalEndpoints)
      (releaseEndpoint backend endpoint)
      (fun _ scene => scene.Serves table fine origin start ∧
        ∀ h ∈ rest, ∃ peer, (h, peer) ∈ scene.channel.logicalEndpoints)
      (fun _ => Scene.Serves table fine origin start) := by
  unfold releaseEndpoint
  apply Triple.seen
  intro needed
  cases needed with
  | true =>
      exact .pure fun scene before =>
        ⟨before.1.1, fun h member => before.1.2 h (List.mem_cons_of_mem _ member)⟩
  | false =>
      apply Triple.bind (Q := fun reply scene =>
        (reply.status ≠ statusNoError → scene.Serves table fine origin start) ∧
        (reply.status = statusNoError →
          ({ scene with channel := { scene.channel with
              logicalEndpoints := scene.channel.logicalEndpoints.erase endpoint } } :
            Scene ν).Serves table fine origin start ∧
          ∀ h ∈ rest, ∃ peer, (h, peer) ∈ scene.channel.logicalEndpoints.erase endpoint))
      · apply Triple.ask
        rintro scene ⟨⟨serves, recorded⟩, free⟩
        rw [Bool.or_eq_false_iff] at free
        obtain ⟨peer, here⟩ := recorded endpoint List.mem_cons_self
        have good := keeps.stays _ (.logicalDisconnect endpoint) serves.1.fine (by
          intro handle member
          rw [List.mem_singleton.1 member]
          exact serves.1.stands.uses (.inr ⟨peer, here⟩))
        refine ⟨fun bad => ?_, fun ok => ⟨⟨?_, ?_⟩, ?_⟩⟩
        · exact ⟨serves.1.native (keeps.refused _ _ bad) good, serves.2⟩
        · exact serves.1.part here (fun _ => id)
            (fun _ _ => endpointHasFilter_eq_false free.1)
            (fun _ _ => endpointNeeded_eq_false free.2) (keeps.parted _ _ ok) good
        · exact { serves.2 with }
        · intro h member
          obtain ⟨peer', stands⟩ := recorded h (List.mem_cons_of_mem _ member)
          refine ⟨peer', OrderedMap.mem_erase.2 ⟨?_, stands⟩⟩
          rintro rfl
          exact apart member
      · intro reply
        apply Triple.bind
        · apply translate_cases
          exact fun scene behind bad _ => ⟨{ (behind.1 bad).1 with }, (behind.1 bad).2⟩
        · intro _
          apply Triple.bind (Q := fun _ scene => scene.Serves table fine origin start ∧
            ∀ h ∈ rest, ∃ peer, (h, peer) ∈ scene.channel.logicalEndpoints)
          · exact .change fun scene behind => behind.1.2 behind.2
          · exact fun _ => .pure fun _ => id

/-- Endpoints are released that neither a filter nor a transmission needs. -/
theorem releaseUnusedEndpoints_serves :
    Keeps (Scene.Serves table fine origin start) (releaseUnusedEndpoints backend) := by
  apply Triple.seen
  intro entries
  apply Triple.bind (Q := fun _ => Scene.Serves table fine origin start)
  · apply Triple.pre (Triple.forEach (P := fun rest scene =>
      (scene.Serves table fine origin start ∧
        ∀ h ∈ rest, ∃ peer, (h, peer) ∈ scene.channel.logicalEndpoints) ∧ rest.Nodup) ?_ ?_ _)
    · rintro scene ⟨serves, rfl⟩
      refine ⟨⟨serves, fun h member => ?_⟩, OrderedMap.nodup_keys _⟩
      obtain ⟨⟨_, peer⟩, here, rfl⟩ := List.mem_map.1 member
      exact ⟨peer, here⟩
    · intro endpoint rest scene ⟨before, nodup⟩
      rw [List.nodup_cons] at nodup
      have behind := releaseEndpoint_serves keeps nodup.1 scene before
      revert behind
      rcases releaseEndpoint backend endpoint scene with ⟨exit | leave, next⟩
      · exact id
      · intro behind
        cases leave with
        | true => exact behind.1
        | false => exact ⟨behind, nodup.2⟩
    · exact fun scene before => before.1.1
  · exact fun _ => .pure fun _ => id

/-- A message is taken from an endpoint and heard. -/
theorem takeNative_serves (endpoint : Handle) (message : NativeMsg) :
    Keeps (Scene.Serves table fine origin start) (takeNative backend endpoint message) := by
  apply Keeps.bind
  · apply Keeps.change
    intro scene serves
    exact serves.hears { hears_receiveNative scene.channel endpoint message with }
  · intro _
    exact (releaseUnusedEndpoints_serves keeps).bind fun _ => .look _

/-- An endpoint is read, and what it gave is heard. -/
theorem readNative_serves (endpoint : Handle) :
    Keeps (Scene.Serves table fine origin start) (readNative backend endpoint) := by
  apply Keeps.bind (native_serves keeps rfl fun _ _ _ member => (List.not_mem_nil member).elim)
  intro reply
  apply Keeps.ite (fun _ => .pure false)
  intro _
  apply Keeps.join
  · exact fun _ => .change fun scene serves =>
      serves.hears { Channel.Hears.refl scene.channel with }
  · exact fun _ => translate_serves reply.status
  · intro _
    split
    · exact .pure false
    · exact takeNative_serves keeps endpoint _

/-- An endpoint is read until it has no more, or enough has come. -/
theorem drain_serves (wanted : Nat) (begin' timeout : UInt32) (endpoint : Handle) (turns : Nat) :
    Keeps (Scene.Serves table fine origin start)
      (drain backend wanted begin' timeout endpoint turns) := by
  induction turns with
  | zero => exact .pure false
  | succ turns ih =>
      unfold drain
      apply Keeps.join (fun _ => .pure false) fun _ => elapsed_serves keeps begin' timeout
      intro late
      apply Keeps.ite (fun _ => .pure true)
      intro _
      apply (readNative_serves keeps endpoint).bind
      intro received
      apply (Keeps.look Scene.channel).bind
      intro channel
      apply Keeps.ite (fun _ => .pure true)
      intro _
      apply Keeps.ite (fun _ => .pure true)
      intro _
      exact .ite (fun _ => .pure false) fun _ => ih

/-- Endpoints are drained one after another. -/
theorem drainAll_serves (wanted : Nat) (begin' timeout : UInt32) (ready : List Handle) :
    Keeps (Scene.Serves table fine origin start)
      (drainAll backend wanted begin' timeout ready) := by
  apply (Keeps.look _).bind
  intro last
  apply Keeps.bind
  · exact .forEach fun endpoint _ => drain_serves keeps wanted begin' timeout endpoint 32
  · exact fun _ => .pure ()

/-- All endpoints that are ready are drained. -/
theorem pump_serves (wanted : Nat) (begin' timeout : UInt32) :
    Keeps (Scene.Serves table fine origin start) (pump backend wanted begin' timeout) := by
  apply Triple.seen
  intro ready
  split
  · apply Triple.bind (Q := fun _ => Scene.Serves table fine origin start)
    · apply Triple.weaken (native_passes (P := fun scene =>
        scene.Serves table fine origin start ∧ endpoints scene.channel = ready) keeps rfl
        ?_ ?_ ?_) (fun _ => id) (fun _ _ => And.left) fun _ _ => And.left
      · rintro scene ⟨serves, rfl⟩ handle member
        rcases List.mem_cons.1 member with rfl | member
        · exact serves.1.stands.uses (.inl rfl)
        · obtain ⟨⟨_, peer⟩, here, rfl⟩ := List.mem_map.1 member
          exact serves.1.stands.uses (.inr ⟨peer, here⟩)
      · exact fun scene before => before.1.1.fine
      · exact fun scene after before same good =>
          ⟨⟨before.1.1.native same good, before.1.2⟩, before.2⟩
    · intro reply
      apply Keeps.ite (fun _ => .pure ())
      intro _
      exact (translate_serves reply.status).bind fun _ => drainAll_serves keeps _ _ _ _
  · exact (drainAll_serves keeps wanted begin' timeout ready).pre fun _ => And.left

omit keeps in
/-- What has been received is handed to the caller. -/
theorem takeReceived_serves (requested : Nat) {scene : Scene ν}
    (serves : scene.Serves table fine origin start) :
    (takeReceived requested scene).Serves table fine origin start := by
  have hears : scene.channel.Hears (takeReceived requested scene).channel :=
    { Channel.Hears.refl scene.channel with
      queued := fun queued => queued.take (requested - scene.messages.length) }
  have next := serves.hears hears
  exact ⟨{ next.1 with }, next.2⟩

/-- A turn of reading pumps, and hands over what there is. -/
theorem readTurn_serves (requested : Nat) (begin' timeout : UInt32) (pumped : Bool) :
    Keeps (Scene.Serves table fine origin start)
      (readTurn backend requested begin' timeout pumped) := by
  apply Keeps.bind (Keeps.change fun scene => takeReceived_serves requested)
  intro _
  apply (Keeps.look id).bind
  intro seen
  split
  · apply Keeps.bind
    · exact .change fun scene serves => serves.hears { Channel.Hears.refl scene.channel with }
    · exact fun _ => .fail _
  split
  · apply Keeps.bind
    · exact .change fun scene serves => serves.hears { Channel.Hears.refl scene.channel with }
    · exact fun _ => .fail _
  apply Keeps.ite (fun _ => .pure _)
  intro _
  have rest : ∀ late : Bool, Keeps (Scene.Serves table fine origin start)
      (if late = true then (do
        refuse (seen.messages = []) (.status errBufferEmpty)
        refuse (timeout ≠ 0) (.status errTimeout)
        pure (some ()))
      else (do
        pump backend (requested - seen.messages.length) begin' timeout
        pure none) : Action (Scene ν) Exit (Option Unit)) := by
    intro late
    apply Keeps.ite
    · intro _
      apply (Keeps.refuse _ _).bind
      intro _
      exact (Keeps.refuse _ _).bind fun _ => .pure _
    · exact fun _ => (pump_serves keeps _ _ _).bind fun _ => .pure _
  apply Keeps.ite
  · exact fun _ => (Keeps.pure false).bind rest
  · exact fun _ => .join (fun _ => .pure true) (fun _ => elapsed_serves keeps begin' timeout) rest

/-- Messages are read turn by turn, however long the caller waits. -/
theorem readMsgs_serves (requested : Nat) (timeout : UInt32) (fuel : Nat) :
    Keeps (Scene.Serves table fine origin start) (readMsgs backend requested timeout fuel) := by
  apply Keeps.ite (fun _ => .pure ())
  intro _
  apply Keeps.bind (native_serves keeps rfl fun _ _ _ member => (List.not_mem_nil member).elim)
  intro reply
  apply (readTurn_serves keeps requested reply.value timeout false).bind
  intro finished
  split
  · exact .pure ()
  · exact .again (readTurn_serves keeps requested reply.value timeout true) fuel

end Scenes

end OpenDiag.Legacy
