import OpenDiag.Host.Handles

/-!
# Every run keeps the handles in step

What each call does on the host is done on the firmware, or on neither side: a request that is
refused leaves the objects alone, and so does the host. The one exception is a connection that the
firmware takes back with a driver that does not come down.
-/

namespace OpenDiag.Host

open J2534

section Requests

variable {σ : Type*} {drivers : Drivers σ} {s next : Session σ}

/-- The tables of both sides, and the counters. -/
def Session.Linked (s : Session σ) : Prop :=
  Host.Linked s.device.channels s.nextHandle s.core.tables

/-- No counter has come back behind itself. -/
def Session.Grows (s next : Session σ) : Prop :=
  s.nextHandle ≤ next.nextHandle ∧ s.core.nextId ≤ next.core.nextId

/-- The sides stay in step, as long as the counters last. -/
def Session.Follows (s next : Session σ) : Prop :=
  s.Linked → s.Grows next → next.Linked

theorem Session.Follows.refl (s : Session σ) : s.Follows s :=
  fun linked _ => linked

/-- A request has been answered: it has been served, with an effect on the objects of the firmware,
or refused. The tables of the host are as before, and the last handle is `top`. -/
structure Session.Asked (s : Session σ) (top : UInt32) (answer : UInt32 × UInt32 × Session σ)
    (effect : UInt32 → Tables → Prop) : Prop where
  channels : answer.2.2.device.channels = s.device.channels
  nextHandle : answer.2.2.nextHandle = top
  tables : answer.1 = statusNoError ∧ effect answer.2.1 answer.2.2.core.tables ∨
    answer.1 ≠ statusNoError ∧ s.core.tables.Untouched answer.2.2.core.tables

/-- A reply is passed on: on success with its effect, and otherwise without any. -/
theorem rpc_asked {req : Move} {effect : UInt32 → Tables → Prop}
    (served : (reply drivers s.core req).1 = 0 →
      effect (reply drivers s.core req).2 (s.core.move drivers req).tables)
    (refused : (reply drivers s.core req).1 ≠ 0 →
      s.core.tables.Untouched (s.core.move drivers req).tables) :
    s.Asked s.nextHandle (s.rpc drivers req) effect := by
  unfold Session.rpc
  generalize reply drivers s.core req = answer at served refused ⊢
  obtain ⟨status, id⟩ := answer
  dsimp only at served refused ⊢
  split
  case isTrue lost =>
    refine ⟨rfl, rfl, .inr ⟨by simp [errDeviceNotConnected, statusNoError], refused ?_⟩⟩
    rintro rfl
    rcases lost with lost | lost <;> simp [errDeviceNotOpen, errInvalidDeviceId] at lost
  case isFalse kept =>
    refine ⟨rfl, rfl, ?_⟩
    by_cases ok : status = 0
    · exact .inl ⟨ok, served ok⟩
    · exact .inr ⟨ok, refused ok⟩

/-- Only success is told by zero. -/
theorem code_eq_zero (status : Status) : status.code = 0 ↔ status = .ok := by
  cases status <;> decide

/-- Every refusal of a connection is told as an error. -/
theorem connectError_code_ne_zero (err : ConnectError) : err.code ≠ 0 := by
  cases err <;> decide

/-- The firmware has performed a request on a channel. -/
def Performs (tables : Tables) (remote : UInt32) (command : Command) (id : UInt32)
    (next : Tables) : Prop :=
  id = next.nextId ∧ ∃ i, tables.channelIds i = some remote ∧ tables.Performed i command next

/-- A request on a channel has its effect on the objects exactly if it is told so. -/
theorem request_asked (drivers : Drivers σ) (s : Session σ) (remote : UInt32) (command : Command) :
    s.Asked s.nextHandle (s.rpc drivers (.link (.request remote command)))
      (Performs s.core.tables remote command) := by
  have answered := request_answered drivers.vif s.core remote command
  apply rpc_asked
  · intro ok
    rcases answered with ⟨-, i, some, own, performed⟩ | ⟨failed, -⟩
    · exact ⟨rfl, i, named_eq_some.2 ⟨own, some⟩, performed⟩
    · exact (failed ((code_eq_zero _).1 ok)).elim
  · intro failed
    rcases answered with ⟨ok, -⟩ | ⟨-, same⟩
    · exact (failed ((code_eq_zero _).2 ok)).elim
    · exact .inl same

/-- A disconnection gives up what it names exactly if it is told so. -/
theorem disconnect_asked (drivers : Drivers σ) (s : Session σ) (remote : UInt32) (logical : Bool) :
    s.Asked s.nextHandle (s.rpc drivers (.disconnect remote logical)) fun _ next =>
      ∃ i, s.core.tables.channelIds i = some remote ∧ next =
        if (s.core.tables.channels i).parent = 0 then s.core.tables.drop i
        else s.core.tables.put i .none := by
  have answered := disconnect_answered drivers s.core remote logical
  apply rpc_asked
  · intro ok
    rcases answered with ⟨-, i, some, own, served⟩ | ⟨failed, -⟩
    · exact ⟨i, named_eq_some.2 ⟨own, some⟩, served⟩
    · exact (failed ((code_eq_zero _).1 ok)).elim
  · intro failed
    rcases answered with ⟨ok, -⟩ | ⟨-, same⟩
    · exact (failed ((code_eq_zero _).2 ok)).elim
    · exact .inl same

/-- A logical channel is there under the next identifier exactly if it is told so. -/
theorem connectLogical_asked (drivers : Drivers σ) (neat : s.core.tables.Neat)
    (physical : UInt32) (req : LogicalRequest) :
    s.Asked s.nextHandle (s.rpc drivers (.connectLogical physical req)) fun id next =>
      id = s.core.tables.fresh ∧ s.core.tables.Stacked physical next := by
  have outcome := connectLogical_outcome drivers neat physical req
  apply rpc_asked
  · dsimp only [reply, Core.move]
    cases answer : (connectLogical drivers s.core physical req).1 with
    | ok id =>
        rw [answer] at outcome
        exact fun _ => outcome.2
    | error err => exact fun ok => (connectError_code_ne_zero err ok).elim
  · dsimp only [reply, Core.move]
    cases answer : (connectLogical drivers s.core physical req).1 with
    | ok id => exact fun failed => (failed rfl).elim
    | error err =>
        rw [answer] at outcome
        exact fun _ => outcome

/-- So is a channel, as long as no driver sticks. -/
theorem connect_asked (drivers : Drivers σ) (neat : s.core.tables.Neat)
    (childless : s.core.nextId ≤ s.core.tables.fresh →
      ∀ j, (s.core.tables.channels j).parent ≠ s.core.tables.fresh)
    {req : ConnectRequest} (loose : connectSticks drivers s.core req = false)
    (grows : s.core.nextId ≤ (connect drivers s.core req).2.nextId) :
    s.Asked s.nextHandle (s.rpc drivers (.connect req)) fun id next =>
      id = s.core.tables.fresh ∧ s.core.tables.Connected req.protocol next := by
  have outcome := connect_outcome drivers neat childless req grows
  rw [loose] at outcome
  apply rpc_asked
  · dsimp only [reply, Core.move]
    cases answer : (connect drivers s.core req).1 with
    | ok id =>
        rw [answer] at outcome
        exact fun _ => outcome.2
    | error err => exact fun ok => (connectError_code_ne_zero err ok).elim
  · dsimp only [reply, Core.move]
    cases answer : (connect drivers s.core req).1 with
    | ok id => exact fun failed => (failed rfl).elim
    | error err =>
        rw [answer] at outcome
        exact fun _ => outcome

/-! ## Calls on a channel -/

/-- A request that was refused leaves the sides in step. -/
theorem Session.Asked.refused {top : UInt32} {answer : UInt32 × UInt32 × Session σ}
    {effect : UInt32 → Tables → Prop} (asked : s.Asked top answer effect)
    (failed : answer.1 ≠ statusNoError) (linked : s.Linked)
    (channels : next.device.channels = s.device.channels)
    (core : next.core = answer.2.2.core) (grows : s.Grows next) : next.Linked := by
  have untouched := (asked.tables.resolve_left fun served => failed served.1).2
  rw [← core] at untouched
  rw [Session.Linked, channels]
  refine linked.raise grows.1 grows.2 ?_
  rcases untouched with same | spent
  · rw [same]
  · rw [spent]
    rfl

/-- A channel that is checked is one that the host has. -/
theorem checkChannel_eq_ok {id : UInt32} {channel : HostChannel}
    (checked : s.checkChannel id = .ok channel) : s.device.channels id = some channel := by
  unfold Session.checkChannel at checked
  split at checked
  · cases checked
  · split at checked
    · cases checked
    case h_2 known =>
      rw [known, Except.ok.inj checked]

/-- A request has been served, and the host has changed its channel alike. -/
theorem Session.Asked.served {top : UInt32}
    {answer : UInt32 × UInt32 × Session σ} {id : UInt32}
    {command : Command} {channel : HostChannel}
    (asked : s.Asked top answer (Performs s.core.tables channel.remote command))
    (ok : answer.1 = statusNoError) (linked : s.Linked)
    (here : s.device.channels id = some channel) (channel' : HostChannel)
    (same : channel'.remote = channel.remote ∧ channel'.parent = channel.parent)
    (channels : next.device.channels = s.device.channels.insert id channel')
    (core : next.core = answer.2.2.core) (grows : s.Grows next)
    (matched : ∀ objects objects' : Objects,
      channel.Linked objects s.nextHandle s.core.nextId →
      command.Changes s.core.tables.fresh objects objects' →
      answer.2.1 = next.core.nextId →
      next.core.nextId = (if command.gives then s.core.tables.fresh else s.core.nextId) →
      channel'.Linked objects' next.nextHandle next.core.nextId) : next.Linked := by
  obtain ⟨given, i, there, objects, changes, tables⟩ :=
    (asked.tables.resolve_right fun failed => failed.1 ok).2
  rw [← core] at given tables
  have before : (if command.gives then s.core.tables.advance else s.core.tables).channels =
      s.core.tables.channels := by
    split <;> rfl
  rw [before] at changes
  have after : next.core.tables.channels = (s.core.tables.put i objects).channels := by
    rw [tables, Tables.put, before]
    rfl
  have nextId : next.core.nextId =
      if command.gives then s.core.tables.fresh else s.core.nextId := by
    have same := congrArg Tables.nextId tables
    split at same
    case isTrue gives => rwa [if_pos gives]
    case isFalse keeps => rwa [if_neg keeps]
  have each := (linked.each id channel i here there).2
  rw [Session.Linked, channels]
  exact linked.change here there same changes.same grows.1 grows.2 after
    (matched _ objects each changes given nextId)

/-- A new identifier is above the last one, unless the counter has come back. -/
theorem lt_fresh {last : UInt32} (grows : s.core.nextId ≤ last)
    (given : last = s.core.tables.fresh) : s.core.nextId < last := by
  rw [given] at grows ⊢
  exact lt_following grows

/-- An identifier that is given is never zero. -/
theorem fresh_ne_zero (tables : Tables) : tables.fresh ≠ 0 :=
  following_ne_zero tables.nextId

/-- The next handle is above the last one, as long as the counter grows. -/
theorem following_handle (grows : s.Grows next)
    (handle : next.nextHandle = following s.nextHandle) :
    s.nextHandle < following s.nextHandle := by
  apply lt_following
  rw [← handle]
  exact grows.1

/-- Something has been started on both sides: a new handle names it by its new identifier. -/
theorem Session.Asked.started {top : UInt32}
    {answer : UInt32 × UInt32 × Session σ} {id : UInt32}
    {command : Command} {channel : HostChannel}
    (asked : s.Asked top answer (Performs s.core.tables channel.remote command))
    (ok : answer.1 = statusNoError) (linked : s.Linked)
    (here : s.device.channels id = some channel) (channel' : HostChannel)
    (same : channel'.remote = channel.remote ∧ channel'.parent = channel.parent)
    (channels : next.device.channels = s.device.channels.insert id channel')
    (core : next.core = answer.2.2.core) (grows : s.Grows next) (gives : command.gives = true)
    (handle : next.nextHandle = following s.nextHandle)
    (matched : ∀ objects objects' : Objects,
      channel.Linked objects s.nextHandle s.core.nextId →
      s.nextHandle < following s.nextHandle → s.core.nextId < answer.2.1 → answer.2.1 ≠ 0 →
      command.Changes answer.2.1 objects objects' →
      channel'.Linked objects' (following s.nextHandle) answer.2.1) : next.Linked := by
  refine asked.served ok linked here channel' same channels core grows ?_
  intro objects objects' each changes given nextId
  rw [if_pos gives] at nextId
  have above := following_handle grows handle
  have later := lt_fresh grows.2 nextId
  rw [handle, ← given]
  rw [given.trans nextId] at matched ⊢
  rw [nextId] at later
  exact matched objects objects' each above later (fresh_ne_zero _) changes

/-- Something has been stopped on both sides. -/
theorem Session.Asked.stopped {top : UInt32}
    {answer : UInt32 × UInt32 × Session σ} {id : UInt32}
    {command : Command} {channel : HostChannel}
    (asked : s.Asked top answer (Performs s.core.tables channel.remote command))
    (ok : answer.1 = statusNoError) (linked : s.Linked)
    (here : s.device.channels id = some channel) (channel' : HostChannel)
    (same : channel'.remote = channel.remote ∧ channel'.parent = channel.parent)
    (channels : next.device.channels = s.device.channels.insert id channel')
    (core : next.core = answer.2.2.core) (grows : s.Grows next)
    (matched : ∀ objects objects' : Objects,
      channel.Linked objects s.nextHandle s.core.nextId →
      command.Changes s.core.tables.fresh objects objects' →
      channel'.Linked objects' s.nextHandle s.core.nextId) : next.Linked := by
  refine asked.served ok linked here channel' same channels core grows ?_
  intro objects objects' each changes _ _
  exact (matched objects objects' each changes).raise grows.1 grows.2

/-- A periodic message is named once it has been started. -/
theorem passThruStartPeriodicMsg_follows (id : UInt32) (message : Option PassthruMsg)
    (messageId : Bool) (interval : UInt32) :
    s.Follows (passThruStartPeriodicMsg drivers s id message messageId interval).2 := by
  unfold passThruStartPeriodicMsg
  split
  · exact .refl s
  case h_2 channel checked =>
    have here := checkChannel_eq_ok checked
    split
    · exact .refl s
    split
    · exact .refl s
    split
    · exact .refl s
    case h_2 encoded _ =>
      have asked := request_asked drivers s channel.remote
        (.startPeriodic { intervalMs := interval, message := some encoded })
      generalize s.rpc drivers _ = answer at asked ⊢
      obtain ⟨status, remote, after⟩ := answer
      have handle : after.nextHandle = s.nextHandle := asked.nextHandle
      intro linked grows
      dsimp only at grows ⊢
      split at grows
      case isTrue failed =>
        rw [if_pos failed]
        exact asked.refused failed linked asked.channels rfl grows
      case isFalse ok =>
        rw [if_neg ok]
        dsimp only
        refine asked.started (not_not.1 ok) linked here
          ({ channel with
            periodic := channel.periodic.insert (following s.nextHandle) remote }) ⟨rfl, rfl⟩
          ?_ rfl grows rfl ?_ ?_
        · have channels : after.device.channels = s.device.channels := asked.channels
          dsimp only [Session.setChannel, Session.newHandle]
          rw [channels, handle]
          rfl
        · exact congrArg following handle
        · intro objects objects' each above later some changes
          exact each.started above later some changes

/-- A name is struck once its object has been stopped. -/
theorem stopObject_follows (id objectId : UInt32) (filter : Bool) :
    s.Follows (stopObject drivers s id objectId filter).2 := by
  unfold stopObject
  split
  · exact .refl s
  case h_2 channel checked =>
    have here := checkChannel_eq_ok checked
    split
    · exact .refl s
    case h_2 object known =>
      have asked := request_asked drivers s channel.remote
        (if filter then .stopFilter object else .stopPeriodic object)
      generalize s.rpc drivers _ = answer at asked ⊢
      obtain ⟨status, remote, after⟩ := answer
      have channels : after.device.channels = s.device.channels := asked.channels
      intro linked grows
      dsimp only at grows ⊢
      split at grows
      case isTrue failed =>
        rw [if_pos failed]
        exact asked.refused failed linked channels rfl grows
      case isFalse ok =>
        rw [if_neg ok]
        cases filter with
        | true =>
            refine asked.stopped (not_not.1 ok) linked here
              ({ channel with filters := channel.filters.erase objectId }) ⟨rfl, rfl⟩
              (by rw [← channels]; rfl) rfl grows ?_
            intro objects objects' each changes
            exact each.filterStopped known changes
        | false =>
            refine asked.stopped (not_not.1 ok) linked here
              ({ channel with periodic := channel.periodic.erase objectId }) ⟨rfl, rfl⟩
              (by rw [← channels]; rfl) rfl grows ?_
            intro objects objects' each changes
            exact each.stopped false known changes

/-- A filter is named once it has been set. -/
theorem passThruStartMsgFilter_follows (id type : UInt32) (mask pattern : Option PassthruMsg)
    (filterId : Bool) :
    s.Follows (passThruStartMsgFilter drivers s id type mask pattern filterId).2 := by
  unfold passThruStartMsgFilter
  split
  · exact .refl s
  case h_2 channel checked =>
    have here := checkChannel_eq_ok checked
    split
    case h_2 => exact .refl s
    split
    case h_2 => exact .refl s
    split
    · exact .refl s
    split
    · exact .refl s
    split
    · exact .refl s
    case h_1 mask pattern _ _ maskData patternData _ _ _ _ _ =>
      have asked := request_asked drivers s channel.remote (.startFilter
        { type
          flags := mask.txFlags
          mask := maskData.take mask.dataLength
          pattern := patternData.take mask.dataLength })
      generalize s.rpc drivers _ = answer at asked ⊢
      obtain ⟨status, remote, after⟩ := answer
      have handle : after.nextHandle = s.nextHandle := asked.nextHandle
      intro linked grows
      dsimp only at grows ⊢
      split at grows
      case isTrue failed =>
        rw [if_pos failed]
        exact asked.refused failed linked asked.channels rfl grows
      case isFalse ok =>
        rw [if_neg ok]
        dsimp only
        refine asked.started (not_not.1 ok) linked here
          ({ channel with
            filters := channel.filters.insert (following s.nextHandle) remote }) ⟨rfl, rfl⟩
          ?_ rfl grows rfl ?_ ?_
        · have channels : after.device.channels = s.device.channels := asked.channels
          dsimp only [Session.setChannel, Session.newHandle]
          rw [channels, handle]
          rfl
        · exact congrArg following handle
        · intro objects objects' each above later some changes
          exact each.filterStarted above later some changes

/-- The names of a channel are struck as its objects are cleared. -/
theorem clearChannelIoctl_follows (id : UInt32) (clearing : Clearing) (input output : Bool) :
    s.Follows (clearChannelIoctl drivers s id clearing input output).2 := by
  unfold clearChannelIoctl
  split
  · exact .refl s
  case h_2 channel checked =>
    have here := checkChannel_eq_ok checked
    split
    · exact .refl s
    have asked := request_asked drivers s channel.remote clearing.command
    generalize s.rpc drivers _ = answer at asked ⊢
    obtain ⟨status, remote, after⟩ := answer
    have channels : after.device.channels = s.device.channels := asked.channels
    intro linked grows
    dsimp only at grows ⊢
    split at grows
    case isTrue failed =>
      rw [if_pos failed]
      exact asked.refused failed linked channels rfl grows
    case isFalse ok =>
      rw [if_neg ok]
      -- What the host has no table of is kept as it was.
      have kept (same : ∀ fresh objects objects',
          clearing.command.Changes fresh objects objects' → objects' = objects)
          (grows : s.Grows after) : after.Linked := by
        refine asked.stopped (not_not.1 ok) linked here channel ⟨rfl, rfl⟩ ?_ rfl
          grows ?_
        · rw [channels, Handles.insert, ← here, Function.update_eq_self]
        · intro objects objects' each changes
          rw [same _ _ _ changes]
          exact each
      cases clearing with
      | txQueue => exact kept (fun _ _ _ changes => changes) grows
      | rxQueue => exact kept (fun _ _ _ changes => changes) grows
      | busOn => exact kept (fun _ _ _ changes => changes) grows
      | msgFilters =>
          refine asked.stopped (not_not.1 ok) linked here
            ({ channel with filters := fun _ => none }) ⟨rfl, rfl⟩
            (by rw [← channels]; rfl) rfl grows ?_
          rintro objects _ each rfl
          exact each.clearFilters
      | periodicMsgs =>
          refine asked.stopped (not_not.1 ok) linked here
            ({ channel with periodic := fun _ => none }) ⟨rfl, rfl⟩
            (by rw [← channels]; rfl) rfl grows ?_
          rintro objects _ each rfl
          exact each.clearPeriodic

/-- The place that is reserved for a handle leaves no trace where the request is refused. -/
theorem reserved_erase {names : Handles UInt32} {handle : UInt32} (unused : names handle = none) :
    (names.insert handle 0).erase handle = names := by
  rw [Handles.erase, Handles.insert, Function.update_idem, ← unused, Function.update_eq_self]

/-- A name that was reserved is filled in. -/
theorem reserved_insert (names : Handles UInt32) (handle id : UInt32) :
    (names.insert handle 0).insert handle id = names.insert handle id := by
  rw [Handles.insert, Handles.insert, Function.update_idem]
  rfl

/-- A repeat is named before it is started, and the name is struck if it is refused. -/
theorem startRepeatIoctl_follows (id : UInt32) (input : Option RepeatMsgSetup) (output : Bool) :
    s.Follows (startRepeatIoctl drivers s id input output).2 := by
  unfold startRepeatIoctl
  split
  · exact .refl s
  case h_2 channel checked =>
    have here := checkChannel_eq_ok checked
    split
    · exact .refl s
    split
    · exact .refl s
    split
    · exact .refl s
    split
    · exact .refl s
    case h_2 encoded _ =>
      dsimp only
      have asked := request_asked drivers s.newHandle.2 channel.remote
        (.startRepeat encoded)
      generalize s.newHandle.2.rpc drivers _ = answer at asked ⊢
      obtain ⟨status, remote, after⟩ := answer
      have asked : s.Asked (following s.nextHandle) (status, remote, after)
          (Performs s.core.tables channel.remote (.startRepeat encoded)) :=
        ⟨asked.channels, asked.nextHandle, asked.tables⟩
      have channels : after.device.channels = s.device.channels := asked.channels
      intro linked grows
      dsimp only at grows ⊢
      split at grows
      case isTrue failed =>
        rw [if_pos failed]
        obtain ⟨i, there⟩ := Host.Linked.found linked here
        have above : s.nextHandle < following s.nextHandle :=
          following_handle grows asked.nextHandle
        have unused := (((linked.each id channel i here there).2).jobs true).unused above
        have reserved : (channel.repeats.insert s.newHandle.1 0).erase s.newHandle.1 =
            channel.repeats := reserved_erase unused
        refine asked.refused failed linked ?_ rfl grows
        dsimp only [Session.setChannel]
        rw [reserved, channels, Handles.insert, ← here, Function.update_eq_self]
      case isFalse ok =>
        rw [if_neg ok]
        refine asked.started (not_not.1 ok) linked here
          ({ channel with
            repeats := channel.repeats.insert (following s.nextHandle) remote }) ⟨rfl, rfl⟩
          ?_ rfl grows rfl asked.nextHandle ?_
        · dsimp only [Session.setChannel]
          rw [reserved_insert, channels]
          rfl
        · intro objects objects' each above later some changes
          exact each.started above later some changes

/-- The name of a repeat is struck once it has been stopped. -/
theorem stopRepeatIoctl_follows (id : UInt32) (input : Option UInt32) (output : Bool) :
    s.Follows (stopRepeatIoctl drivers s id input output).2 := by
  unfold stopRepeatIoctl
  split
  · exact .refl s
  case h_2 channel checked =>
    have here := checkChannel_eq_ok checked
    split
    · exact .refl s
    split
    · exact .refl s
    split
    · exact .refl s
    split
    · exact .refl s
    case h_2 handle _ _ _ _ _ object known =>
      have asked := request_asked drivers s channel.remote
        (.stopRepeat object)
      generalize s.rpc drivers _ = answer at asked ⊢
      obtain ⟨status, remote, after⟩ := answer
      have channels : after.device.channels = s.device.channels := asked.channels
      intro linked grows
      dsimp only at grows ⊢
      split at grows
      case isTrue failed =>
        rw [if_pos failed]
        exact asked.refused failed linked channels rfl grows
      case isFalse ok =>
        rw [if_neg ok]
        refine asked.stopped (not_not.1 ok) linked here
          ({ channel with repeats := channel.repeats.erase handle }) ⟨rfl, rfl⟩
          (by rw [← channels]; rfl) rfl grows ?_
        intro objects objects' each changes
        exact each.stopped true known changes

/-! ## Channels -/

/-- A poll of the core leaves every object in its place. -/
theorem poll_follows : s.Follows { s with core := s.core.move drivers (.link .poll) } := by
  intro linked grows
  have polled : Steady s.core (s.core.move drivers (.link .poll)) := .corePoll (.refl s.core)
  refine linked.raise grows.1 grows.2 ?_
  dsimp only
  rw [polled.tables]

/-- A channel is struck with those on it, once it has been disconnected. -/
theorem disconnectChannel_follows (id : UInt32) (logical : Bool) :
    s.Follows (disconnectChannel drivers s id logical).2 := by
  unfold disconnectChannel
  split
  · exact .refl s
  case h_2 channel checked =>
    have here := checkChannel_eq_ok checked
    split
    · exact .refl s
    have asked := disconnect_asked drivers s channel.remote logical
    generalize s.rpc drivers _ = answer at asked ⊢
    obtain ⟨status, remote, after⟩ := answer
    have channels : after.device.channels = s.device.channels := asked.channels
    intro linked grows
    dsimp only at grows ⊢
    split at grows
    case isFalse failed =>
      rw [if_neg failed]
      exact asked.refused failed linked channels rfl grows
    case isTrue ok =>
      rw [if_pos ok]
      obtain ⟨i, there, tables⟩ := (asked.tables.resolve_right fun failed => failed.1 ok).2
      have dropped : after.core.tables = s.core.tables.drop i := by
        by_cases physical : (s.core.tables.channels i).parent = 0
        · rwa [if_pos physical] at tables
        · rw [if_neg physical] at tables
          rw [Host.Linked.drop_of_logical linked here there physical]
          exact tables
      rw [Session.Linked]
      dsimp only
      rw [channels]
      refine Host.Linked.raise (Host.Linked.dropped linked here there) grows.1 grows.2 ?_
      rw [dropped]

/-- A call moves the core, whether its reply is read or not. -/
theorem rpc_core (drivers : Drivers σ) (s : Session σ) (req : Move) :
    (s.rpc drivers req).2.2.core = s.core.move drivers req := by
  unfold Session.rpc
  generalize reply drivers s.core req = answer
  obtain ⟨status, id⟩ := answer
  dsimp only
  split <;> rfl

/-- No channel stands on one that is yet to be connected. -/
theorem childless_fresh (linked : s.Linked) (grows : s.core.nextId ≤ s.core.tables.fresh)
    (j : ChannelIndex) : (s.core.tables.channels j).parent ≠ s.core.tables.fresh := by
  intro child
  have used : (s.core.tables.channels j).id ≠ 0 := by
    intro free
    rw [linked.neat j free] at child
    exact fresh_ne_zero _ child.symm
  obtain ⟨handle, channel, here, there⟩ := Host.Linked.owner linked used
  rcases (linked.each handle channel j here there).1 with
    ⟨-, physical⟩ | ⟨-, -, parent, known, remote, -⟩
  · exact fresh_ne_zero _ (child.symm.trans physical)
  · refine linked.kept.new (lt_following grows) channel.parent ?_
    rw [remotes_of_some known, remote, child]
    rfl

/-- A channel has been connected on both sides: a new handle names it by its new identifier. -/
theorem Session.connected {after : Session σ} {i : ChannelIndex} {channel : HostChannel}
    {objects : Objects} (linked : s.Linked)
    (channels : after.device.channels = s.device.channels)
    (handle : after.nextHandle = s.nextHandle) (free : (s.core.tables.channels i).id = 0)
    (tables : after.core.tables = s.core.tables.advance.put i objects)
    (given : objects.id = s.core.tables.fresh) (remote : channel.remote = s.core.tables.fresh)
    (parent : SameParent s.device.channels channel objects)
    (matched : ∀ top last, channel.Linked objects top last)
    (grows : s.Grows (after.newHandle.2.setChannel after.newHandle.1 channel)) :
    (after.newHandle.2.setChannel after.newHandle.1 channel).Linked := by
  have nextId : after.core.tables.nextId = s.core.tables.fresh := by
    rw [tables]
    rfl
  have next : (after.newHandle.2.setChannel after.newHandle.1 channel).nextHandle =
      following s.nextHandle := congrArg following handle
  have above := following_handle grows next
  have later : s.core.tables.nextId < after.core.tables.nextId :=
    lt_fresh grows.2 nextId
  have same : (after.newHandle.2.setChannel after.newHandle.1 channel).device.channels =
      s.device.channels.insert (following s.nextHandle) channel := by
    rw [← channels, ← handle]
    rfl
  rw [Session.Linked, same, next]
  change Host.Linked _ _ after.core.tables
  refine Host.Linked.connected linked above later free (given.trans nextId.symm)
    (remote.trans nextId.symm) ?_ ?_ parent (matched _ _)
  · rw [nextId]
    exact fresh_ne_zero _
  · rw [tables]
    rfl

/-- A logical channel is named once it has been connected. -/
theorem passThruLogicalConnect_follows (physical protocol flags : UInt32)
    (descriptor : Option Descriptor) (channelId legacyChannel : Bool) :
    s.Follows (passThruLogicalConnect drivers s physical protocol flags descriptor channelId
      legacyChannel).2 := by
  unfold passThruLogicalConnect
  split
  · exact .refl s
  case h_2 parent checked =>
    have here := checkChannel_eq_ok checked
    split
    · exact .refl s
    case h_2 desc =>
    split
    · exact .refl s
    split
    · exact .refl s
    case isFalse allowed =>
      simp only [not_or, not_not] at allowed
      obtain ⟨top, -, isotp⟩ := allowed
      subst isotp
      intro linked
      have asked := connectLogical_asked drivers linked.neat parent.remote
        { protocol := protocolIsotp, flags, legacyChannel
          localFlags := desc.localTxFlags
          remoteFlags := desc.remoteTxFlags
          localAddress := desc.localAddress.take (addressSize desc.localTxFlags)
          remoteAddress := desc.remoteAddress.take (addressSize desc.remoteTxFlags) }
      generalize s.rpc drivers _ = answer at asked ⊢
      obtain ⟨status, remote, after⟩ := answer
      have channels : after.device.channels = s.device.channels := asked.channels
      intro grows
      dsimp only at grows ⊢
      split at grows
      case isTrue failed =>
        rw [if_pos failed]
        exact asked.refused failed linked channels rfl grows
      case isFalse ok =>
        rw [if_neg ok]
        obtain ⟨given, i, free, tables⟩ :=
          (asked.tables.resolve_right fun failed => failed.1 (not_not.1 ok)).2
        obtain ⟨j, there⟩ := Host.Linked.found linked here
        have stands := (linked.kept.stamped physical _ (remotes_of_some here)).1
        exact Session.connected linked channels asked.nextHandle free tables rfl given
          (.inr ⟨stands, (named_eq_some.1 there).2, parent, here, rfl, top⟩)
          (HostChannel.linked_new _ _ _ _ _) grows

/-- A connection asks for the protocol that its caller named. -/
theorem connectRequest_protocol {id protocol flags baud : UInt32} {resources : Resources}
    {channelId : Bool} {req : ConnectRequest}
    (made : s.connectRequest id protocol flags baud resources channelId = .ok req) :
    req.protocol = protocol := by
  unfold Session.connectRequest at made
  split at made
  · cases made
  split at made
  · cases made
  split at made
  · cases made
  split at made
  · cases made
  split at made
  · cases made
  · rw [← Except.ok.inj made]

/-- A channel is named once it has been connected, as long as no driver sticks. -/
theorem passThruConnect_follows (id protocol flags baud : UInt32) (resources : Resources)
    (channelId : Bool)
    (loose : ∀ req, s.connectRequest id protocol flags baud resources channelId = .ok req →
      connectSticks drivers s.core req = false) :
    s.Follows (passThruConnect drivers s id protocol flags baud resources channelId).2 := by
  unfold passThruConnect
  split
  · exact .refl s
  case h_2 req made =>
    intro linked
    have asked := connect_asked drivers linked.neat (childless_fresh linked)
      (loose req made)
    have moved := rpc_core drivers s (.connect req)
    generalize s.rpc drivers (.connect req) = answer at asked moved ⊢
    obtain ⟨status, remote, after⟩ := answer
    intro grows
    dsimp only at grows moved ⊢
    have grown : s.core.nextId ≤ after.core.nextId := by
      split at grows
      · exact grows.2
      · exact grows.2
    have asked := asked (by rw [moved] at grown; exact grown)
    have channels : after.device.channels = s.device.channels := asked.channels
    split at grows
    case isTrue failed =>
      rw [if_pos failed]
      exact asked.refused failed linked channels rfl grows
    case isFalse ok =>
      rw [if_neg ok]
      obtain ⟨given, i, free, tables⟩ :=
        (asked.tables.resolve_right fun failed => failed.1 (not_not.1 ok)).2
      rw [connectRequest_protocol made] at tables
      exact Session.connected linked channels asked.nextHandle free tables rfl given
        (.inl ⟨rfl, rfl⟩) (HostChannel.linked_new _ _ _ _ _) grows

/-- A call that was refused is told as an error, and the host keeps its names. -/
theorem rpc_refused {req : Move} (failed : (reply drivers s.core req).1 ≠ 0) :
    (s.rpc drivers req).1 ≠ statusNoError ∧
      (s.rpc drivers req).2.2.device.channels = s.device.channels := by
  unfold Session.rpc
  generalize reply drivers s.core req = answer at failed ⊢
  obtain ⟨status, id⟩ := answer
  dsimp only at failed ⊢
  split
  · exact ⟨by simp [errDeviceNotConnected, statusNoError], rfl⟩
  · exact ⟨failed, rfl⟩

/-- A connection that sticks is a channel of the firmware that the host has no handle of. -/
theorem not_mirrored_of_sticks {id protocol flags baud : UInt32} {resources : Resources}
    {channelId : Bool} {req : ConnectRequest} (linked : s.Linked)
    (made : s.connectRequest id protocol flags baud resources channelId = .ok req)
    (sticks : connectSticks drivers s.core req = true)
    (grows : s.Grows (passThruConnect drivers s id protocol flags baud resources channelId).2) :
    ¬ (passThruConnect drivers s id protocol flags baud resources channelId).2.Mirrored := by
  have outcome := connect_outcome drivers linked.neat (childless_fresh linked) req
  rw [sticks] at outcome
  have moved := rpc_core drivers s (.connect req)
  have refused := @rpc_refused σ drivers s (.connect req)
  unfold passThruConnect at grows ⊢
  rw [made] at grows ⊢
  dsimp only at grows ⊢
  generalize s.rpc drivers (.connect req) = given at moved refused grows ⊢
  obtain ⟨status, remote, after⟩ := given
  dsimp only at moved refused grows ⊢
  have later : s.core.nextId ≤ (connect drivers s.core req).2.nextId := by
    have same : after.core = (connect drivers s.core req).2 := moved
    rw [← same]
    split at grows
    · exact grows.2
    · exact grows.2
  have outcome := outcome later
  dsimp only [reply] at refused
  cases answer : (connect drivers s.core req).1 with
  | ok id =>
      rw [answer] at outcome
      cases outcome.1
  | error err =>
      rw [answer] at outcome refused
      obtain ⟨i, free, tables⟩ : s.core.tables.Connected req.protocol _ := outcome
      obtain ⟨failed, channels⟩ := refused (connectError_code_ne_zero err)
      rw [if_pos failed]
      intro mirrored
      have same : after.core = (connect drivers s.core req).2 := moved
      have there : after.core.tables.channelIds i = some s.core.tables.fresh := by
        rw [same, tables, Tables.channelIds, Tables.put_channels_self]
        exact named_of_ne (fresh_ne_zero _)
      obtain ⟨handle, named⟩ := mirrored.channels.exists_left there
      dsimp only at named
      rw [channels] at named
      refine linked.kept.new (lt_following ?_) handle named
      have nextId : (connect drivers s.core req).2.nextId = s.core.tables.fresh :=
        congrArg Tables.nextId tables
      rw [nextId] at later
      exact later

end Requests

/-! ## Runs -/

section Runs

variable {σ : Type*} (drivers : Drivers σ) {s : Session σ}

/-- A call that ends in a connection that sticks: a driver that has come up refuses a parameter,
and does not come down as the firmware takes the connection back. -/
def Session.sticks (s : Session σ) : Call → Bool
  | .connect id protocol flags baud resources channelId =>
    match s.connectRequest id protocol flags baud resources channelId with
    | .error _ => false
    | .ok req => connectSticks drivers s.core req
  | _ => false

/-- A call that does not wrap a counter. -/
def Session.Lasts (s : Session σ) (call : Call) : Prop :=
  s.Grows (s.step drivers call)

/-- Only a connection whose driver sticks leaves a channel that the host does not know of. -/
theorem connect_of_sticks {call : Call} (sticks : s.sticks drivers call = true) :
    ∃ id protocol flags baud resources channelId req,
      call = .connect id protocol flags baud resources channelId ∧
      s.connectRequest id protocol flags baud resources channelId = .ok req ∧
      connectSticks drivers s.core req = true := by
  cases call with
  | connect id protocol flags baud resources channelId =>
      unfold Session.sticks at sticks
      dsimp only at sticks
      split at sticks
      · cases sticks
      case h_2 req made =>
        exact ⟨id, protocol, flags, baud, resources, channelId, req, rfl, made, sticks⟩
  | _ => cases sticks

/-- Every call follows the core, unless its connection sticks. -/
theorem step_follows {call : Call} (loose : s.sticks drivers call = false) :
    s.Follows (s.step drivers call) := by
  cases call with
  | connect id protocol flags baud resources channelId =>
      refine passThruConnect_follows id protocol flags baud resources channelId fun req made => ?_
      unfold Session.sticks at loose
      dsimp only at loose
      rw [made] at loose
      exact loose
  | logicalConnect physical protocol flags descriptor channelId legacyChannel =>
      exact passThruLogicalConnect_follows physical protocol flags descriptor channelId
        legacyChannel
  | disconnect id logical => exact disconnectChannel_follows id logical
  | startPeriodicMsg id message messageId interval =>
      exact passThruStartPeriodicMsg_follows id message messageId interval
  | stopObject id objectId filter => exact stopObject_follows id objectId filter
  | startMsgFilter id type mask pattern filterId =>
      exact passThruStartMsgFilter_follows id type mask pattern filterId
  | clear id clearing input output => exact clearChannelIoctl_follows id clearing input output
  | startRepeat id input output => exact startRepeatIoctl_follows id input output
  | stopRepeat id input output => exact stopRepeatIoctl_follows id input output
  | poll => exact poll_follows

/-- Names that are linked to their objects mirror them. -/
theorem Session.Linked.mirrored (linked : s.Linked) : s.Mirrored where
  channels := linked.kept.mirrors
  each handle channel i here there := by
    obtain ⟨parent, each⟩ := linked.each handle channel i here there
    exact ⟨parent, each.mirrored⟩

/-- A session begins without names and without objects. -/
theorem linked_opened (handle nextId repeatPerChannel : UInt32) (protocols : List ProtocolLimit)
    (env : σ) : (Session.opened handle nextId repeatPerChannel protocols env).Linked where
  kept := .empty
  neat _ _ := rfl
  each _ _ _ here := by cases here

instance (s : Session σ) (call : Call) : Decidable (s.Lasts drivers call) :=
  inferInstanceAs (Decidable (_ ∧ _))

/-- The handles of the host mirror the objects of the firmware throughout a run if and only if no
connection of it sticks, as long as the counters last. -/
theorem handles_mirror_objects_iff (handle nextId repeatPerChannel : UInt32)
    (protocols : List ProtocolLimit) (env : σ) {calls : List Call}
    (lasts : Admissible (Session.Lasts drivers) (Session.step drivers)
      (Session.opened handle nextId repeatPerChannel protocols env) calls) :
    (∀ first, first <+: calls → (run (Session.step drivers)
      (Session.opened handle nextId repeatPerChannel protocols env) first).Mirrored) ↔
      Admissible (fun s call => s.sticks drivers call = false) (Session.step drivers)
        (Session.opened handle nextId repeatPerChannel protocols env) calls := by
  refine forall_good_iff_admissible_of_assumed Session.Linked ?_ ?_ ?_
    (linked_opened handle nextId repeatPerChannel protocols env) lasts
  · intro s call linked grows loose
    exact step_follows drivers loose linked grows
  · exact fun s linked => linked.mirrored
  · intro s call linked grows mirrored
    cases sticks : s.sticks drivers call with
    | false => rfl
    | true =>
        obtain ⟨id, protocol, flags, baud, resources, channelId, req, rfl, made, stuck⟩ :=
          connect_of_sticks drivers sticks
        exact (not_mirrored_of_sticks linked made stuck grows mirrored).elim

end Runs

/-! ## Two runs -/

/-- A client that connects to CAN, starts a filter, a periodic message and a repeat, opens a logical
channel, clears the periodic messages, stops the filter and disconnects with all that is left. -/
def canCalls : List Call :=
  let frame : PassthruMsg :=
    { protocolId := protocolCan, dataLength := 6, dataBufferSize := 6
      dataBuffer := some [0, 0, 7, 0xe0, 1, 2] }
  let mask : PassthruMsg :=
    { protocolId := protocolCan, dataLength := 4, dataBufferSize := 4
      dataBuffer := some [0, 0, 7, 0xff] }
  [.connect 1 protocolCan 0 500000
      { connector := 1, numOfResources := 2, resourceList := some [6, 14] } true,
    .startMsgFilter 2 1 (some mask) (some mask) true,
    .startPeriodicMsg 2 (some frame) true 100,
    .poll,
    .startRepeat 2
      (some { timeInterval := 100, condition := 0, message := frame, mask, pattern := mask }) true,
    .logicalConnect 2 protocolIsotp 0
      (some { localAddress := [0, 0, 7, 0xe8, 0], remoteAddress := [0, 0, 7, 0xe0, 0] }) true false,
    .clear 2 .periodicMsgs false false,
    .stopObject 2 3 true,
    .disconnect 2 false]

/-- The session of a device with repeats on CAN. -/
def canSession : Session Script :=
  Session.opened 0 0 10 [{ protocol := protocolCan, maxRepeatData := 12 }] {}

theorem canCalls_mirrored :
    Admissible (Session.Lasts Script.drivers) (Session.step Script.drivers) canSession canCalls ∧
      ∀ first, first <+: canCalls →
        (run (Session.step Script.drivers) canSession first).Mirrored := by
  have lasts : Admissible (Session.Lasts Script.drivers) (Session.step Script.drivers)
      canSession canCalls := by decide
  exact ⟨lasts, (handles_mirror_objects_iff Script.drivers 0 0 10
    [{ protocol := protocolCan, maxRepeatData := 12 }] {} lasts).2 (by decide)⟩

/-- Drivers that come up, refuse every parameter, and do not come down. -/
def stubborn : Drivers Script :=
  { Script.drivers with
    calls := { Script.vif with paramSet := fun _ _ _ script => (-1, script) }
    down := fun _ script => (false, script) }

/-- A connection to a K-Line. -/
def klineCall : Call :=
  .connect 1 protocolIso9141 0 10400
    { connector := 1, numOfResources := 2, resourceList := some [7, 15] } true

/-- The firmware keeps a channel that it has refused to the host. -/
theorem kline_not_mirrored :
    Admissible (Session.Lasts stubborn) (Session.step stubborn) (Session.opened 0 0 0 [] {})
        [klineCall] ∧
      ¬ (run (Session.step stubborn) (Session.opened 0 0 0 [] {}) [klineCall]).Mirrored :=
  ⟨by decide, not_mirrored_of_sticks (linked_opened 0 0 0 [] ({} : Script)) rfl (by decide)
    ⟨by decide, by decide⟩⟩

end OpenDiag.Host
