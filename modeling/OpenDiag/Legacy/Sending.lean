import OpenDiag.Legacy.Endpoints

/-!
# Sending through the 04.04 library

A message goes to an endpoint that its channel uses, and while it waits to be sent the endpoint is
not released. Every call that sends keeps what the channel stands on, also where it stops.
-/

namespace OpenDiag.Legacy

open OpenDiag.Action

section Sending

variable {ν : Type} {backend : Backend ν} {table : ν → Table} {fine : ν → Prop} {origin : Origin}
  {start : Channel}

/-! ## Reading, and being sound -/

/-- An action in a sound state, with the channel that it starts with. -/
theorem keeps_started {α : Type} {act : Action (Scene ν) Exit α} {Q : α → Scene ν → Prop}
    {E : Exit → Scene ν → Prop}
    (triple : ∀ start, Triple (Scene.Serves table fine origin start) act Q E) :
    Triple (Scene.Sound table fine origin) act Q E := by
  apply Triple.each
  intro scene sound
  apply (triple scene.channel).pre
  rintro _ rfl
  exact ⟨sound, .refl _⟩

/-- What reads keeps a sound state sound. -/
theorem keeps_sound {α : Type} {act : Action (Scene ν) Exit α}
    (serves : ∀ start, Keeps (Scene.Serves table fine origin start) act) :
    Keeps (Scene.Sound table fine origin) act := by
  apply keeps_started
  exact fun start => (serves start).weaken (fun _ => id) (fun _ _ => And.left) fun _ _ => And.left

/-- A handle is given without a transmission being touched. -/
theorem allocateId_serves :
    Keeps (Scene.Serves table fine origin start) (allocateId : Action (Scene ν) Exit Handle) :=
  .ask fun _ serves => ⟨{ serves.1 with }, serves.2⟩

/-! ## Where a message goes -/

/-- A native channel that messages are sent on: the physical one, or that of a filter. -/
def Channel.Routes (channel : Channel) (endpoint : Handle) : Prop :=
  endpoint = channel.physical ∨
    ∃ k filter, (k, filter) ∈ channel.filters ∧ filter.endpoint = endpoint

/-- An endpoint that messages are routed to is in use. -/
theorem Channel.Stands.uses_of_routes {channel : Channel} {t : Table} (stands : channel.Stands t)
    {endpoint : Handle} (routes : channel.Routes endpoint) : channel.Uses endpoint := by
  rcases routes with physical | ⟨k, filter, here, rfl⟩
  · exact .inl physical
  · rcases stands.filters k filter here with ⟨-, -, physical⟩ | ⟨-, -, peer, stood, -⟩
    · exact .inl physical
    · exact .inr ⟨peer, stood⟩

/-- Reading releases no endpoint that messages are routed to. -/
theorem Channel.Reads.routes {before after : Channel} (reads : before.Reads after)
    {endpoint : Handle} (routes : before.Routes endpoint) : after.Routes endpoint := by
  unfold Routes
  rw [reads.physical, reads.filters]
  exact routes

/-- A message is routed to an endpoint of its channel. -/
theorem routeMessage_routes {channel : Channel} {message : PassthruMsg} {handle endpoint : Handle}
    {encoded : NativeMsg} (routed : routeMessage channel message handle = .ok (endpoint, encoded)) :
    channel.Routes endpoint := by
  unfold routeMessage at routed
  dsimp only at routed
  split at routed
  · cases routed
  · split at routed
    · cases routed
      exact .inl rfl
    · split at routed
      · rename_i k filter found
        cases routed
        exact .inr ⟨k, filter, List.mem_of_find?_eq_some found, rfl⟩
      · split at routed
        · cases routed
        · cases routed
          exact .inl rfl

/-- A message is routed, or refused, without a transmission being touched. -/
theorem route_serves (message : PassthruMsg) (handle : Handle) :
    Triple (Scene.Serves table fine origin start)
      (route message handle : Action (Scene ν) Exit (Handle × NativeMsg))
      (fun routed scene => scene.Serves table fine origin start ∧ start.Routes routed.1)
      (fun _ => Scene.Serves table fine origin start) := by
  apply Triple.seen
  intro answer
  cases answer with
  | error status => exact .fail fun scene before => before.1
  | ok routed =>
      apply Triple.pure
      rintro scene ⟨serves, same⟩
      refine ⟨serves, ?_⟩
      have routes := routeMessage_routes same
      unfold Channel.Routes at routes
      rw [serves.2.physical, serves.2.filters] at routes
      exact routes

/-! ## Transmissions -/

/-- A transmission is noted, of an endpoint that is used. -/
theorem Channel.Stands.transmit {channel : Channel} {t : Table} (stands : channel.Stands t)
    (token : Handle) (x : Transmission) (uses : channel.Uses x.endpoint)
    (room : (channel.transmissions.insert token x).size ≤ maxTxMessages) :
    ({ channel with transmissions := channel.transmissions.insert token x } : Channel).Stands t :=
  { stands with
    transmissions := by
      intro token' y member
      rcases OrderedMap.mem_insert.1 member with ⟨-, rfl⟩ | ⟨-, member⟩
      · exact uses
      · exact stands.transmissions token' y member
    capacity := room }

/-- Some transmissions are forgotten. -/
theorem Channel.Stands.untransmit {channel : Channel} {t : Table} (stands : channel.Stands t)
    (transmissions : OrderedMap Handle Transmission)
    (left : ∀ entry ∈ transmissions, entry ∈ channel.transmissions)
    (fewer : transmissions.size ≤ channel.transmissions.size) :
    ({ channel with transmissions } : Channel).Stands t :=
  { stands with
    transmissions := fun token x member => stands.transmissions token x (left _ member)
    capacity := le_trans fewer stands.capacity }

/-- A transmission that is forgotten leaves the others as they stand. -/
theorem Scene.Sound.forget {scene : Scene ν} (sound : scene.Sound table fine origin)
    (token : Handle) : (forget token scene).Sound table fine origin := by
  have stands := sound.stands.untransmit (scene.channel.transmissions.erase token)
    (fun _ member => (OrderedMap.mem_erase.1 member).2) OrderedMap.size_erase_le
  exact sound.channel rfl rfl stands

/-- A transmission is on record, on its endpoint. -/
def Channel.Sends (channel : Channel) (token endpoint : Handle) (waiting : Bool) : Prop :=
  ∃ x, (token, x) ∈ channel.transmissions ∧ x.endpoint = endpoint ∧ x.waiting = waiting

/-- A sound state with a transmission on record. -/
def Scene.Holds (table : ν → Table) (fine : ν → Prop) (origin : Origin) (token endpoint : Handle)
    (waiting : Bool) (scene : Scene ν) : Prop :=
  scene.Sound table fine origin ∧ scene.channel.Sends token endpoint waiting

variable {token endpoint : Handle} {waiting : Bool}

/-- A transmission that is held uses its endpoint. -/
theorem Scene.Holds.uses {scene : Scene ν}
    (holds : scene.Holds table fine origin token endpoint waiting) :
    scene.channel.Uses endpoint := by
  obtain ⟨sound, x, here, rfl, -⟩ := holds
  exact sound.stands.transmissions token x here

/-- A transmission that is on record is changed, and stays on its endpoint. -/
theorem Scene.Holds.amend {scene : Scene ν}
    (holds : scene.Holds table fine origin token endpoint waiting)
    (update : Transmission → Transmission) {waiting' : Bool}
    (endpoint_update : ∀ x, (update x).endpoint = x.endpoint)
    (waiting_update : ∀ x, x.waiting = waiting → (update x).waiting = waiting') :
    (amend token update scene).Holds table fine origin token endpoint waiting' := by
  obtain ⟨sound, x, here, rfl, waits⟩ := holds
  have found : (scene.channel.transmissions.find? token).getD {} = x := by
    rw [OrderedMap.find?_eq_some_iff.2 here]
    rfl
  unfold Legacy.amend
  rw [found]
  refine ⟨sound.channel rfl rfl (sound.stands.transmit token (update x) ?_ ?_), update x, ?_, ?_,
    ?_⟩
  · rw [endpoint_update]
    exact sound.stands.transmissions token x here
  · exact le_trans (OrderedMap.size_insert_le_of_mem here) sound.stands.capacity
  · exact OrderedMap.mem_insert_self
  · exact endpoint_update x
  · exact waiting_update x waits

/-- The call does not wait for its transmission any more. -/
theorem Scene.Holds.unwait {scene : Scene ν}
    (holds : scene.Holds table fine origin token endpoint waiting) :
    (Legacy.amend token (fun pending => { pending with waiting := false }) scene).Sound table fine
      origin := by
  have amended : Scene.Holds table fine origin token endpoint false _ :=
    holds.amend (fun pending => { pending with waiting := false }) (fun _ => rfl) fun _ _ => rfl
  exact amended.1

/-- What reads keeps a transmission that a call waits for. -/
theorem keeps_holds {α : Type} {act : Action (Scene ν) Exit α}
    (serves : ∀ start, Keeps (Scene.Serves table fine origin start) act) :
    Keeps (Scene.Holds table fine origin token endpoint true) act := by
  apply Triple.each
  rintro scene ⟨sound, x, here, same, waits⟩
  have sends : ∀ after : Scene ν, after.Serves table fine origin scene.channel →
      after.Holds table fine origin token endpoint true := by
    intro after behind
    obtain ⟨x', here', same', waits'⟩ := behind.2.waiting token x here waits
    exact ⟨behind.1, x', here', same'.trans same, waits'⟩
  apply (serves scene.channel).weaken
  · rintro _ rfl
    exact ⟨sound, .refl _⟩
  · exact fun _ => sends
  · exact fun _ => sends

variable (keeps : backend.Keeps table fine)

include keeps

/-- A request about a channel that is used, in a sound state. -/
theorem native_sound {req : Request} (passes : req.passes = true)
    (named : ∀ scene : Scene ν, scene.Sound table fine origin →
      ∀ handle ∈ req.names, scene.channel.Uses handle) :
    Keeps (Scene.Sound table fine origin) (native backend req) := by
  apply native_passes keeps passes
  · exact fun scene sound handle member => sound.stands.uses (named scene sound handle member)
  · exact fun scene sound => sound.fine
  · exact fun scene after sound same good => sound.native same good

/-- Past the check there is room for one more transmission. -/
theorem checkTransmissionCapacity_serves :
    Triple (Scene.Serves table fine origin start) (checkTransmissionCapacity backend)
      (fun _ scene => scene.Serves table fine origin start ∧
        scene.channel.transmissions.size < maxTxMessages)
      (fun _ => Scene.Serves table fine origin start) := by
  apply Triple.seen
  intro used
  split
  · rename_i room
    apply Triple.pure
    rintro scene ⟨serves, rfl⟩
    exact ⟨serves, room⟩
  · apply Triple.bind ((pump_serves keeps 0 0 0).pre fun _ => And.left)
    intro _
    apply Triple.seen
    intro used
    apply Triple.refuse
    · exact fun scene before _ => before.1
    · rintro scene ⟨serves, rfl⟩ room
      exact ⟨serves, not_not.1 room⟩

/-- A turn of queueing holds its transmission until the device has taken it. -/
theorem queueTurn_holds (begin' timeout : UInt32) (encoded : NativeMsg) :
    Triple (Scene.Holds table fine origin token endpoint (decide (timeout ≠ 0)))
      (queueTurn backend begin' timeout token endpoint encoded)
      (Turned (Scene.Holds table fine origin token endpoint (decide (timeout ≠ 0)))
        fun _ => Scene.Holds table fine origin token endpoint (decide (timeout ≠ 0)))
      (fun _ => Scene.Sound table fine origin) := by
  apply Triple.bind
  · apply Triple.weaken (native_passes (P := Scene.Holds table fine origin token endpoint
      (decide (timeout ≠ 0))) keeps rfl ?_ ?_ ?_) (fun _ => id) (fun _ _ => id)
      fun _ _ => And.left
    · intro scene holds handle member
      rw [List.mem_singleton.1 member]
      exact holds.1.stands.uses holds.uses
    · exact fun scene holds => holds.1.fine
    · exact fun scene after holds same good => ⟨holds.1.native same good, holds.2⟩
  intro reply
  split
  · split
    · rename_i bad
      apply Triple.bind (Q := fun _ => Scene.Sound table fine origin)
      · exact .change fun scene holds => holds.1.forget token
      intro _
      apply Triple.bind
      · exact translate_cases fun scene sound _ _ => { sound with }
      · exact fun _ => .pure fun scene behind => absurd behind.2 bad
    · exact .pure fun _ => id
  · rename_i waits
    have timed : decide (timeout ≠ 0) = true := decide_eq_true fun zero => waits (.inr zero)
    rw [timed]
    apply Triple.bind (Q := fun _ => Scene.Holds table fine origin token endpoint true)
    · exact (keeps_holds fun _ => elapsed_serves keeps begin' timeout).stop fun _ _ => And.left
    intro late
    split
    · apply Triple.bind (Q := fun _ => Scene.Sound table fine origin)
      · exact .change fun scene holds => holds.1.forget token
      · exact fun _ => .fail fun _ => id
    · apply Triple.bind (Q := fun _ => Scene.Holds table fine origin token endpoint true)
      · exact (keeps_holds fun _ => pump_serves keeps 0 begin' timeout).onError
          fun _ scene holds => holds.1.forget token
      · exact fun _ => .pure fun _ => id

/-- A turn of waiting holds its transmission until the device has reported it. -/
theorem awaitTurn_holds (begin' timeout : UInt32) :
    Triple (Scene.Holds table fine origin token endpoint true)
      (awaitTurn backend begin' timeout token endpoint)
      (Turned (Scene.Holds table fine origin token endpoint true)
        fun _ => Scene.Sound table fine origin)
      (fun _ => Scene.Sound table fine origin) := by
  apply Triple.bind
  · exact (keeps_holds fun _ => readNative_serves keeps endpoint).onError
      fun _ scene holds => holds.unwait
  intro _
  apply Triple.bind (Q := fun _ => Scene.Holds table fine origin token endpoint true)
  · exact .change fun scene holds => holds.amend id (fun _ => rfl) fun _ => id
  intro _
  apply Triple.bind (Q := fun _ => Scene.Holds table fine origin token endpoint true)
  · exact .look fun _ => id
  intro pending
  split
  · apply Triple.bind (Q := fun _ => Scene.Sound table fine origin)
    · exact .change fun scene holds => holds.1.forget token
    intro _
    apply Triple.bind (Q := fun _ => Scene.Sound table fine origin)
    · exact Keeps.refuse _ _
    · exact fun _ => .pure fun _ => id
  · apply Triple.bind (Q := fun _ => Scene.Holds table fine origin token endpoint true)
    · exact (keeps_holds fun _ => elapsed_serves keeps begin' timeout).stop fun _ _ => And.left
    intro late
    split
    · apply Triple.bind (Q := fun _ => Scene.Sound table fine origin)
      · exact .change fun scene holds => holds.unwait
      · exact fun _ => .fail fun _ => id
    · exact .pure fun _ => id

/-! ## The calls that send -/

/-- A message is written without another being dropped, however it ends. -/
theorem writeMessage_sound (requested : Nat) (begin' timeout : UInt32) (fuel : Nat)
    (message : PassthruMsg) :
    Keeps (Scene.Sound table fine origin)
      (writeMessage backend requested begin' timeout fuel message) := by
  apply keeps_started
  intro start
  apply Triple.bind
  · exact allocateId_serves.stop fun _ _ => And.left
  intro token
  apply Triple.bind
  · exact (route_serves message token).stop fun _ _ => And.left
  rintro ⟨endpoint, encoded⟩
  apply Triple.known
  intro routes
  apply Triple.bind
  · exact (checkTransmissionCapacity_serves keeps).stop fun _ _ => And.left
  intro _
  apply Triple.bind
    (Q := fun _ => Scene.Holds table fine origin token endpoint (decide (timeout ≠ 0)))
  · apply Triple.change
    rintro scene ⟨serves, room⟩
    have uses := serves.1.stands.uses_of_routes (serves.2.routes routes)
    have stands := serves.1.stands.transmit token
      { message, endpoint, waiting := decide (timeout ≠ 0) } uses
      (le_trans OrderedMap.size_insert_le room)
    exact ⟨serves.1.channel rfl rfl stands, _, OrderedMap.mem_insert_self, rfl, rfl⟩
  intro _
  apply Triple.bind
    (Q := fun _ => Scene.Holds table fine origin token endpoint (decide (timeout ≠ 0)))
  · exact .again (queueTurn_holds keeps begin' timeout encoded) (fun _ holds => holds.1) fuel
  intro _
  split
  · apply Triple.bind (Q := fun _ => Scene.Sound table fine origin)
    · exact .change fun scene holds => { holds.1 with }
    · exact fun _ => .pure fun _ => id
  · rename_i some
    rw [decide_eq_true some]
    apply Triple.bind (Q := fun _ => Scene.Sound table fine origin)
    · exact .again (awaitTurn_holds keeps begin' timeout) (fun _ holds => holds.1) fuel
    intro _
    apply Triple.bind (Q := fun _ => Scene.Sound table fine origin)
    · exact .change fun scene sound => { sound with }
    intro _
    apply (Keeps.look Scene.count).bind
    intro count
    apply Keeps.join
    · exact fun _ => keeps_sound fun _ => elapsed_serves keeps begin' timeout
    · exact fun _ => .pure false
    · exact fun _ => (Keeps.refuse _ _).bind fun _ => .pure false

/-- So are several, one after another. -/
theorem writeMsgs_sound (messages : List PassthruMsg) (timeout : UInt32) (fuel : Nat) :
    Keeps (Scene.Sound table fine origin) (writeMsgs backend messages timeout fuel) := by
  apply Keeps.bind (native_sound keeps rfl fun _ _ _ member => (List.not_mem_nil member).elim)
  intro reply
  apply Keeps.bind
  · exact .forEach fun message _ =>
      writeMessage_sound keeps messages.length reply.value timeout fuel message
  · exact fun _ => .pure ()

/-! ## Messages that are repeated -/

/-- A request about a channel that is used, where there is room for a transmission. -/
theorem native_room {req : Request} (passes : req.passes = true) (routes : start.Routes endpoint)
    (named : req.names = [endpoint]) :
    Keeps (fun scene => scene.Serves table fine origin start ∧
      scene.channel.transmissions.size < maxTxMessages) (native backend req) := by
  apply native_passes keeps passes
  · rintro scene ⟨serves, -⟩ handle member
    rw [named] at member
    rw [List.mem_singleton.1 member]
    exact serves.1.stands.uses (serves.1.stands.uses_of_routes (serves.2.routes routes))
  · exact fun scene before => before.1.1.fine
  · exact fun scene after before same good =>
      ⟨⟨before.1.1.native same good, before.1.2⟩, before.2⟩

/-- A periodic message is started, or refused, beside the others. -/
theorem startPeriodicMsg_sound (message : PassthruMsg) (interval : UInt32) :
    Keeps (Scene.Sound table fine origin) (startPeriodicMsg backend message interval) := by
  apply keeps_started
  intro start
  apply Triple.bind
  · exact (Keeps.look _).stop fun _ _ => And.left
  intro protocol
  apply Triple.bind
  · exact (Keeps.refuse _ _).stop fun _ _ => And.left
  intro _
  apply Triple.bind
  · exact allocateId_serves.stop fun _ _ => And.left
  intro token
  apply Triple.bind
  · exact (route_serves message token).stop fun _ _ => And.left
  rintro ⟨endpoint, encoded⟩
  apply Triple.known
  intro routes
  apply Triple.bind
  · exact (checkTransmissionCapacity_serves keeps).stop fun _ _ => And.left
  intro _
  apply Triple.bind
  · exact (native_room keeps rfl routes rfl).stop fun _ _ before => before.1.1
  intro reply
  apply Triple.bind
  · exact translate_cases fun scene before _ _ => { before.1.1 with }
  intro _
  apply Triple.change
  rintro scene ⟨⟨serves, room⟩, -⟩
  have uses := serves.1.stands.uses_of_routes (serves.2.routes routes)
  have stands := serves.1.stands.transmit token
    { message, endpoint, kind := .periodic, nativeId := reply.handle } uses
    (le_trans OrderedMap.size_insert_le room)
  exact serves.1.channel rfl rfl stands

omit keeps in
theorem findTransmission_sound (token : Handle) (kind : TransmissionKind) :
    Triple (Scene.Sound table fine origin)
      (findTransmission token kind : Action (Scene ν) Exit Transmission)
      (fun x scene => scene.Sound table fine origin ∧ scene.channel.Uses x.endpoint)
      (fun _ => Scene.Sound table fine origin) := by
  apply Triple.seen
  intro found
  cases found with
  | none => exact .fail fun scene before => before.1
  | some x =>
      apply Triple.bind (Q := fun _ scene => scene.Sound table fine origin ∧
        scene.channel.Uses x.endpoint)
      · apply Triple.refuse
        · exact fun scene before _ => before.1
        · rintro scene ⟨sound, found⟩ -
          exact ⟨sound, sound.stands.transmissions token x (OrderedMap.find?_eq_some_iff.1 found)⟩
      · exact fun _ => .pure fun _ => id

/-- A request about the endpoint of a transmission. -/
theorem native_uses {req : Request} (passes : req.passes = true) (named : req.names = [endpoint]) :
    Triple (fun scene => scene.Sound table fine origin ∧ scene.channel.Uses endpoint)
      (native backend req) (fun _ => Scene.Sound table fine origin)
      (fun _ => Scene.Sound table fine origin) := by
  apply Triple.weaken (native_passes (P := fun scene =>
    scene.Sound table fine origin ∧ scene.channel.Uses endpoint) keeps passes ?_ ?_ ?_)
    (fun _ => id) (fun _ _ => And.left) fun _ _ => And.left
  · rintro scene ⟨sound, uses⟩ handle member
    rw [named] at member
    rw [List.mem_singleton.1 member]
    exact sound.stands.uses uses
  · exact fun scene before => before.1.fine
  · exact fun scene after before same good => ⟨before.1.native same good, before.2⟩

omit keeps in
theorem translate_sound (status : UInt32) :
    Keeps (Scene.Sound table fine origin) (translate status : Action (Scene ν) Exit Unit) :=
  keeps_sound fun _ => translate_serves status

theorem releaseUnusedEndpoints_sound :
    Keeps (Scene.Sound table fine origin) (releaseUnusedEndpoints backend) :=
  keeps_sound fun _ => releaseUnusedEndpoints_serves keeps

theorem stopPeriodicMsg_sound (messageId : Handle) :
    Keeps (Scene.Sound table fine origin) (stopPeriodicMsg backend messageId) := by
  apply Triple.bind (findTransmission_sound messageId .periodic)
  intro x
  apply Triple.bind (native_uses keeps rfl rfl)
  intro reply
  apply (translate_sound reply.status).bind
  intro _
  apply (Keeps.change fun scene sound => sound.forget messageId).bind
  exact fun _ => releaseUnusedEndpoints_sound keeps

theorem repeatCapacity_sound :
    Keeps (Scene.Sound table fine origin) (repeatCapacity backend) := by
  apply (Keeps.look _).bind
  intro protocol
  apply Keeps.bind (native_sound keeps rfl fun _ _ _ member => (List.not_mem_nil member).elim)
  intro reply
  apply (translate_sound reply.status).bind
  intro _
  exact (Keeps.refuse _ _).bind fun _ => .pure _

theorem handRepeat_sound (setup : RepeatMsgSetup) (messages : List NativeMsg)
    (routes : start.Routes endpoint) :
    Triple
      (fun scene => scene.Serves table fine origin start ∧
        scene.channel.transmissions.size < maxTxMessages)
      (handRepeat backend setup token endpoint messages)
      (fun _ => Scene.Sound table fine origin) (fun _ => Scene.Sound table fine origin) := by
  apply Triple.bind (Q := fun _ scene =>
    (∃ e w, scene.Holds table fine origin token e w) ∧ scene.channel.Uses endpoint)
  · apply Triple.change
    rintro scene ⟨serves, room⟩
    have uses := serves.1.stands.uses_of_routes (serves.2.routes routes)
    dsimp only
    split
    · rename_i there
      obtain ⟨x, here⟩ := OrderedMap.contains_iff.1 there
      exact ⟨⟨_, _, serves.1, x, here, rfl, rfl⟩, uses⟩
    · have stands := serves.1.stands.transmit token
        { message := setup.message, endpoint, kind := .repeated } uses
        (le_trans OrderedMap.size_insert_le room)
      exact ⟨⟨_, _, serves.1.channel rfl rfl stands, _, OrderedMap.mem_insert_self, rfl, rfl⟩, uses⟩
  intro _
  apply Triple.bind (Q := fun _ scene => ∃ e w, scene.Holds table fine origin token e w)
  · apply Triple.weaken (native_passes (P := fun scene =>
      (∃ e w, scene.Holds table fine origin token e w) ∧ scene.channel.Uses endpoint) keeps rfl
      ?_ ?_ ?_) (fun _ => id) (fun _ _ => And.left) ?_
    · rintro scene ⟨⟨e, w, holds⟩, uses⟩ handle member
      rw [List.mem_singleton.1 member]
      exact holds.1.stands.uses uses
    · rintro scene ⟨⟨e, w, holds⟩, -⟩
      exact holds.1.fine
    · rintro scene after ⟨⟨e, w, holds⟩, uses⟩ same good
      exact ⟨⟨e, w, holds.1.native same good, holds.2⟩, uses⟩
    · rintro _ scene ⟨⟨e, w, holds⟩, -⟩
      exact holds.1
  intro reply
  split
  · apply Triple.change
    rintro scene ⟨e, w, holds⟩
    have amended : Scene.Holds table fine origin token e w _ :=
      holds.amend (fun x => { x with nativeId := reply.handle }) (fun _ => rfl) fun _ => id
    exact amended.1
  · apply Triple.bind (Q := fun _ => Scene.Sound table fine origin)
    · rintro scene ⟨e, w, holds⟩
      exact holds.1.forget token
    intro _
    apply Keeps.bind
    · exact .change fun scene sound => { sound with }
    · exact fun _ => .fail _

theorem startRepeat_sound (setup : RepeatMsgSetup) :
    Keeps (Scene.Sound table fine origin) (startRepeat backend setup) := by
  apply (repeatCapacity_sound keeps).bind
  intro capacity
  apply keeps_started
  intro start
  apply Triple.seen
  intro channel
  apply Triple.bind (Q := fun _ scene =>
    scene.Serves table fine origin start ∧ scene.channel = channel)
  · apply Triple.stop (E := fun _ scene =>
      scene.Serves table fine origin start ∧ scene.channel = channel)
    · exact Keeps.forEach fun _ _ => (Keeps.refuse _ _).bind fun _ => .pure false
    · exact fun _ _ before => before.1.1
  intro _
  apply Triple.bind (Q := fun _ scene =>
    scene.Serves table fine origin start ∧ scene.channel = channel)
  · exact .ask fun scene before => ⟨⟨{ before.1.1 with }, before.1.2⟩, before.2⟩
  intro token
  split
  · exact .fail fun scene before => before.1.1
  · rename_i endpoint encoded routed
    apply Triple.bind (Q := fun _ scene =>
      scene.Serves table fine origin start ∧ start.Routes endpoint)
    · apply Triple.refuse
      · exact fun scene before _ => before.1.1
      · rintro scene ⟨serves, rfl⟩ -
        refine ⟨serves, ?_⟩
        have routes := routeMessage_routes routed
        unfold Channel.Routes at routes
        rw [serves.2.physical, serves.2.filters] at routes
        exact routes
    intro _
    apply Triple.known
    intro routes
    apply Triple.bind
    · exact (Keeps.refuse _ _).stop fun _ _ => And.left
    intro _
    apply Triple.bind
    · exact (checkTransmissionCapacity_serves keeps).stop fun _ _ => And.left
    intro _
    exact handRepeat_sound keeps setup _ routes

theorem stopRepeat_sound (messageId : Handle) :
    Keeps (Scene.Sound table fine origin) (stopRepeat backend messageId) := by
  apply (repeatCapacity_sound keeps).bind
  intro capacity
  apply Triple.bind (findTransmission_sound messageId .repeated)
  intro x
  apply Triple.bind (native_uses keeps rfl rfl)
  intro reply
  apply (translate_sound reply.status).bind
  intro _
  apply (Keeps.change fun scene sound => sound.forget messageId).bind
  exact fun _ => releaseUnusedEndpoints_sound keeps

end Sending

end OpenDiag.Legacy
