import Mathlib.Data.List.Perm.Subperm
import OpenDiag.Ble.Pairing
import OpenDiag.Lib.Run

/-!
# Who is admitted

A peer is uninvited when it was not bonded as it connected and the pairing window has not been open
since. The code judges it by the number of bonds, which tells the truth as long as no bond is lost.
-/

namespace OpenDiag.Ble

variable {α : Type*}

/-- Members of a list and one more are more than the list only when they are all of them. -/
theorem length_lt_iff {bonds before : List α} {peer : α} (distinct : bonds.Nodup)
    (distinctBefore : before.Nodup) (new : peer ∉ before) (among : bonds ⊆ peer :: before) :
    before.length < bonds.length ↔ peer ∈ bonds ∧ before ⊆ bonds := by
  constructor
  · intro more
    have same : bonds.Perm (peer :: before) :=
      (List.subperm_of_subset distinct among).perm_of_length_le more
    refine ⟨same.mem_iff.mpr (List.mem_cons_self ..), fun other old => ?_⟩
    exact same.mem_iff.mpr (List.mem_cons_of_mem _ old)
  · rintro ⟨stored, kept⟩
    have whole : (peer :: before).Nodup := List.nodup_cons.mpr ⟨new, distinctBefore⟩
    exact (List.subperm_of_subset whole (List.cons_subset.mpr ⟨stored, kept⟩)).length_le

/-! ## The invariant -/

/-- Nobody has invited the peer. -/
structure Connection.Uninvited (c : Connection α) : Prop where
  new : c.peer ∉ c.bondedBefore
  closed : c.windowSeen = false

/-- Its writes are refused from its encryption on, and once that has been judged its bond is not in
the store. -/
structure Adapter.Refuses (s : Adapter α) (c : Connection α) : Prop where
  writes : c.encrypted = true → ∀ length flattens, s.access c.handle length flattens ≠ .delivered
  bond : c.judged = true → c.peer ∉ s.store.peers

/-- An uninvited phone never gets in. -/
def Adapter.Safe (s : Adapter α) : Prop :=
  ∀ c, s.connection = some c → c.Uninvited → s.Refuses c

/-- When the encryption of an uninvited peer is judged, its bond is in the store and none of those
that were there before is lost, or its bond is not there and the peer has already been evicted. -/
structure Adapter.Tells (s : Adapter α) (c : Connection α) : Prop where
  stored : c.peer ∈ s.store.peers → c.bondedBefore ⊆ s.store.peers
  evicted : c.peer ∉ s.store.peers → s.evictedConn = some c.handle

/-- The number of bonds tells the truth where it is asked of an uninvited peer. -/
def Truthful (s : Adapter α) (input : Input α) : Prop :=
  input = .encChange → ∀ c, s.connection = some c → c.Uninvited → c.bonded = true → s.Tells c

/-- What the policy has noted of an uninvited peer. -/
structure Adapter.Notes (s : Adapter α) (c : Connection α) : Prop where
  forbidden : s.mayBond = false
  counted : s.bondsAtConnect = c.bondedBefore.length
  distinct : c.bondedBefore.Nodup
  among : s.store.peers ⊆ c.peer :: c.bondedBefore
  evicted : c.encrypted = true → s.evictedConn = some c.handle
  gone : c.judged = true → c.peer ∉ s.store.peers

/-- The connection is the one that is latched, and only it can be evicted. -/
structure Adapter.Orderly (s : Adapter α) : Prop where
  latched : s.latchedConn = s.connection.map Connection.handle
  evicted : s.evictedConn = none ∨ s.evictedConn = s.latchedConn
  notes : ∀ c, s.connection = some c → c.Uninvited → s.Notes c

section Adapters

variable {s : Adapter α} {c : Connection α}

theorem Adapter.Orderly.safe (orderly : s.Orderly) : s.Safe := by
  intro c here uninvited
  have notes := orderly.notes c here uninvited
  refine ⟨fun encrypted length flattens => ?_, notes.gone⟩
  unfold Adapter.access
  rw [if_pos (notes.evicted encrypted)]
  exact nofun

/-- A window that is not open stays so until it is opened. -/
theorem Adapter.windowOpen_later (shut : s.windowOpen = false) (us : Nat) :
    ({ s with now := s.now + us } : Adapter α).windowOpen = false := by
  unfold Adapter.windowOpen at shut ⊢
  rw [decide_eq_false_iff_not] at shut ⊢
  exact fun opened => shut ⟨opened.1, Nat.lt_of_le_of_lt (Nat.le_add_right _ _) opened.2⟩

theorem Adapter.mayBond_eq_false :
    s.mayBond = false ↔ s.pairingAllowed = false ∧ s.windowOpen = false :=
  Bool.or_eq_false_iff

/-- The connection is latched once. -/
theorem Adapter.Orderly.latch (orderly : s.Orderly) (here : s.connection = some c) :
    s.latch c.handle = s := by
  unfold Adapter.latch
  rw [orderly.latched, here, Option.map_some, if_pos rfl]

/-- An orderly adapter whose bonds, clock or window change. -/
theorem Adapter.Orderly.restore (orderly : s.Orderly) {after : Adapter α}
    (latched : after.latchedConn = s.latchedConn) (evicted : after.evictedConn = s.evictedConn)
    (connection : after.connection = s.connection)
    (notes : ∀ c, s.Notes c → after.Notes c) : after.Orderly := by
  refine ⟨?_, ?_, ?_⟩
  · rw [latched, connection]
    exact orderly.latched
  · rw [evicted, latched]
    exact orderly.evicted
  · rw [connection]
    exact fun c here uninvited => notes c (orderly.notes c here uninvited)

/-- A connection that goes on. -/
theorem Adapter.Orderly.goOn (orderly : s.Orderly) (here : s.connection = some c)
    {after : Adapter α} {next : Connection α} (there : after.connection = some next)
    (same : next.handle = c.handle) (latched : after.latchedConn = s.latchedConn)
    (evicted : after.evictedConn = s.evictedConn ∨ after.evictedConn = some c.handle)
    (notes : next.Uninvited → after.Notes next) : after.Orderly := by
  have own : s.latchedConn = some c.handle := by rw [orderly.latched, here, Option.map_some]
  refine ⟨?_, ?_, ?_⟩
  · rw [latched, own, there, Option.map_some, same]
  · rw [latched]
    rcases evicted with kept | new
    · rw [kept]
      exact orderly.evicted
    · exact .inr (new.trans own.symm)
  · intro other connected uninvited
    obtain rfl := Option.some.inj (there.symm.trans connected)
    exact notes uninvited

/-- Without a connection nothing is latched, and nobody evicted. -/
theorem Adapter.Orderly.idle (orderly : s.Orderly) (alone : s.connection = none) :
    s.latchedConn = none ∧ s.evictedConn = none := by
  have unlatched : s.latchedConn = none := by rw [orderly.latched, alone, Option.map_none]
  exact ⟨unlatched, orderly.evicted.elim (fun none => none) (·.trans unlatched)⟩

/-- A closed window forbids as before. -/
theorem Adapter.Notes.closeWindow (notes : s.Notes c) : s.closeWindow.Notes c := by
  have allowed := (Adapter.mayBond_eq_false.mp notes.forbidden).1
  refine { notes with forbidden := ?_ }
  exact Adapter.mayBond_eq_false.mpr ⟨allowed, decide_eq_false fun opened => opened.1 rfl⟩

theorem Adapter.Notes.wait (notes : s.Notes c) (us : Nat) :
    ({ s with now := s.now + us } : Adapter α).Notes c := by
  obtain ⟨allowed, shut⟩ := Adapter.mayBond_eq_false.mp notes.forbidden
  exact { notes with
    forbidden := Adapter.mayBond_eq_false.mpr ⟨allowed, Adapter.windowOpen_later shut us⟩ }

/-- Bonds that are lost, of a peer that has not been judged or for good. -/
theorem Adapter.Notes.runJobs (notes : s.Notes c) : s.runJobs.Notes c := by
  have fewer : s.runJobs.store.peers ⊆ s.store.peers := by
    unfold Adapter.runJobs Adapter.refreshBonds
    dsimp only
    split
    · exact List.nil_subset _
    · exact List.Subset.refl _
  exact { notes with
    among := List.Subset.trans fewer notes.among
    gone := fun judged stored => notes.gone judged (fewer stored) }

theorem Adapter.Orderly.openWindow (orderly : s.Orderly) : s.openWindow.Orderly := by
  refine ⟨?_, orderly.evicted, ?_⟩
  · change s.latchedConn = (s.connection.map _).map Connection.handle
    rw [Option.map_map]
    exact orderly.latched
  · intro c here uninvited
    obtain ⟨before, _, rfl⟩ := Option.map_eq_some_iff.mp here
    exact nomatch uninvited.closed

theorem Adapter.Orderly.disconnect (orderly : s.Orderly) (here : s.connection = some c) :
    (s.disconnect c).Orderly := by
  have own : s.latchedConn = some c.handle := by rw [orderly.latched, here, Option.map_some]
  have unevicted : (if s.evictedConn = some c.handle then none else s.evictedConn) = none := by
    split
    · exact rfl
    · rename_i other
      exact orderly.evicted.resolve_right fun same => other (same.trans own)
  unfold Adapter.disconnect Adapter.unlatch
  dsimp only
  rw [if_pos own]
  exact ⟨rfl, .inl unevicted, nofun⟩

/-- What happens on a connection keeps an adapter orderly when it does so there. -/
theorem Adapter.Orderly.elim (orderly : s.Orderly) {act : Connection α → Adapter α}
    (keeps : ∀ c, s.connection = some c → (act c).Orderly) : (s.connection.elim s act).Orderly := by
  generalize given : s.connection = connection at keeps
  cases connection with
  | none => exact orderly
  | some c => exact keeps c rfl

/-- There is no connection yet. -/
theorem Adapter.orderly_booted (store : BondStore α) : (Adapter.booted store).Orderly := by
  have alone : (Adapter.booted store).connection = none := rfl
  exact ⟨rfl, .inl rfl, fun c here => nomatch alone.symm.trans here⟩

end Adapters

section Steps

variable [DecidableEq α] {s : Adapter α} {c : Connection α}

/-- A new connection is latched, and evicted or not. -/
theorem Adapter.connect_eq (unlatched : s.latchedConn = none) (handle : Nat) (peer : α) :
    ∃ evicted, (evicted = s.evictedConn ∨ evicted = some handle) ∧
      s.connect handle peer = { s with
        connection := some {
          handle, peer, bondedBefore := s.store.peers, windowSeen := s.windowOpen }
        latchedConn := some handle
        bondChanged := false
        bondsAtConnect := s.store.bonds.length
        pairingAllowed := s.windowOpen
        evictedConn := evicted } := by
  have fresh : ¬ s.latchedConn = some handle := by
    rw [unlatched]
    exact nofun
  unfold Adapter.connect Adapter.latch
  dsimp only
  rw [if_neg fresh]
  split
  · exact ⟨some handle, .inr rfl, rfl⟩
  · exact ⟨s.evictedConn, .inl rfl, rfl⟩

theorem Adapter.Orderly.connect (orderly : s.Orderly) (alone : s.connection = none) (handle : Nat)
    (peer : α) : (s.connect handle peer).Orderly := by
  obtain ⟨unlatched, unevicted⟩ := orderly.idle alone
  obtain ⟨evicted, cause, same⟩ := Adapter.connect_eq unlatched handle peer
  rw [same]
  refine ⟨rfl, ?_, ?_⟩
  · rcases cause with kept | new
    · exact .inl (kept.trans unevicted)
    · exact .inr new
  · rintro c here uninvited
    obtain rfl := Option.some.inj here
    have shut : s.windowOpen = false := uninvited.closed
    exact {
      forbidden := Adapter.mayBond_eq_false.mpr ⟨shut, shut⟩
      counted := (List.length_map _).symm
      distinct := s.store.distinct
      among := List.subset_cons_self _ _
      evicted := nofun
      gone := nofun }

/-- The connection goes on with a new bond. -/
theorem Adapter.Orderly.bond (orderly : s.Orderly) (here : s.connection = some c) (capacity : Nat)
    (irkPresent : Bool) : (s.bond capacity c irkPresent).Orderly := by
  refine orderly.goOn here rfl rfl rfl (.inl rfl) fun uninvited => ?_
  have notes := orderly.notes c here ⟨uninvited.new, uninvited.closed⟩
  exact {
    forbidden := notes.forbidden
    counted := notes.counted
    distinct := notes.distinct
    among := List.Subset.trans (BondStore.put_subset ..)
      (List.cons_subset.mpr ⟨List.mem_cons_self .., notes.among⟩)
    evicted := notes.evicted
    gone := nofun }

/-- Nobody who is not invited pairs again. -/
theorem Adapter.Orderly.repeatPairing (orderly : s.Orderly) (here : s.connection = some c) :
    (s.repeatPairing c).Orderly := by
  unfold Adapter.repeatPairing
  rw [orderly.latch here]
  dsimp only
  split
  · exact orderly
  · rename_i allowed
    refine orderly.goOn here here rfl rfl (.inl rfl) fun uninvited => ?_
    have notes := orderly.notes c here uninvited
    exact absurd (Bool.eq_false_iff.mp notes.forbidden) allowed

/-- What `ENC_CHANGE` leaves alone. -/
theorem Adapter.encChange_keeps (orderly : s.Orderly) (here : s.connection = some c) :
    (s.encChange c).connection = some { c with encrypted := true, judged := true } ∧
      (s.encChange c).latchedConn = s.latchedConn ∧
      ((s.encChange c).evictedConn = s.evictedConn ∨
        (s.encChange c).evictedConn = some c.handle) := by
  have own : s.latchedConn = some c.handle := by rw [orderly.latched, here, Option.map_some]
  unfold Adapter.encChange Adapter.latch
  dsimp only
  rw [if_pos own]
  split
  · exact ⟨rfl, rfl, .inr rfl⟩
  split
  · exact ⟨rfl, rfl, .inl rfl⟩
  · exact ⟨rfl, rfl, .inl rfl⟩

/-- An uninvited peer is evicted, and its bond taken away, exactly when it has a bond and none of
those that were there before is lost. -/
theorem Adapter.encChange_of_uninvited (orderly : s.Orderly) (here : s.connection = some c)
    (uninvited : c.Uninvited) :
    (s.encChange c).mayBond = false ∧ (s.encChange c).bondsAtConnect = s.bondsAtConnect ∧
      if c.peer ∈ s.store.peers ∧ c.bondedBefore ⊆ s.store.peers then
        (s.encChange c).evictedConn = some c.handle ∧
          (s.encChange c).store = s.store.deletePeer c.peer
      else (s.encChange c).evictedConn = s.evictedConn ∧ (s.encChange c).store = s.store := by
  have own : s.latchedConn = some c.handle := by rw [orderly.latched, here, Option.map_some]
  have notes := orderly.notes c here uninvited
  have grown : s.store.bonds.length > s.bondsAtConnect ↔
      c.peer ∈ s.store.peers ∧ c.bondedBefore ⊆ s.store.peers := by
    rw [notes.counted, ← List.length_map Bond.peer]
    exact length_lt_iff s.store.distinct notes.distinct uninvited.new notes.among
  have allowed := (Adapter.mayBond_eq_false.mp notes.forbidden).1
  have forbidden : ¬ s.mayBond = true := Bool.eq_false_iff.mp notes.forbidden
  unfold Adapter.encChange Adapter.latch
  dsimp only
  rw [if_pos own]
  by_cases told : c.peer ∈ s.store.peers ∧ c.bondedBefore ⊆ s.store.peers
  · rw [if_pos ⟨grown.mpr told, forbidden⟩, if_pos told]
    exact ⟨notes.forbidden, rfl, rfl, rfl⟩
  · rw [if_neg fun both => told (grown.mp both.1), if_neg told]
    split
    · refine ⟨Adapter.mayBond_eq_false.mpr ⟨allowed, ?_⟩, rfl, rfl, rfl⟩
      exact decide_eq_false fun opened => opened.1 rfl
    · exact ⟨notes.forbidden, rfl, rfl, rfl⟩

/-- Where the number of bonds tells the truth, the peer is judged as it should be. -/
theorem Adapter.Orderly.encChange (orderly : s.Orderly) (here : s.connection = some c)
    (tells : c.Uninvited → s.Tells c) : (s.encChange c).Orderly := by
  obtain ⟨there, latched, evicted⟩ := Adapter.encChange_keeps orderly here
  refine orderly.goOn here there rfl latched evicted fun uninvited => ?_
  have was : c.Uninvited := ⟨uninvited.new, uninvited.closed⟩
  have notes := orderly.notes c here was
  obtain ⟨forbidden, counted, judged⟩ := Adapter.encChange_of_uninvited orderly here was
  obtain ⟨stored, absent⟩ := tells was
  by_cases bonded : c.peer ∈ s.store.peers
  · rw [if_pos ⟨bonded, stored bonded⟩] at judged
    have fewer : (s.encChange c).store.peers ⊆ s.store.peers := by
      rw [judged.2]
      exact fun other among => (BondStore.mem_peers_deletePeer.mp among).1
    refine ⟨forbidden, counted.trans notes.counted, notes.distinct,
      List.Subset.trans fewer notes.among,
      fun _ => judged.1, fun _ among => ?_⟩
    rw [judged.2] at among
    exact (BondStore.mem_peers_deletePeer.mp among).2 rfl
  · rw [if_neg fun both => bonded both.1] at judged
    refine ⟨forbidden, counted.trans notes.counted, notes.distinct, ?_, ?_, fun _ => ?_⟩
    · rw [judged.2]
      exact notes.among
    · exact fun _ => judged.1.trans (absent bonded)
    · rw [judged.2]
      exact bonded

/-- Where it does not, the peer is let in, or its bond is left in the store. -/
theorem Adapter.tells_of_safe (orderly : s.Orderly) (here : s.connection = some c)
    (uninvited : c.Uninvited) (safe : (s.encChange c).Safe) : s.Tells c := by
  obtain ⟨there, _, _⟩ := Adapter.encChange_keeps orderly here
  obtain ⟨writes, gone⟩ := safe _ there ⟨uninvited.new, uninvited.closed⟩
  obtain ⟨_, _, judged⟩ := Adapter.encChange_of_uninvited orderly here uninvited
  refine ⟨fun bonded => ?_, fun absent => ?_⟩
  · by_contra lost
    rw [if_neg fun both => lost both.2] at judged
    have removed := gone rfl
    rw [judged.2] at removed
    exact removed bonded
  · rw [if_neg fun both => absent both.1] at judged
    by_contra free
    rw [← judged.1] at free
    apply writes rfl 0 true
    unfold Adapter.access
    rw [if_neg free]
    exact rfl

/-- Every step keeps an adapter orderly while the number of bonds tells the truth. -/
theorem Adapter.Orderly.step (orderly : s.Orderly) (capacity : Nat) (input : Input α)
    (truthful : Truthful s input) : (s.step capacity input).Orderly := by
  cases input with
  | connect handle peer =>
      unfold Adapter.step
      generalize given : s.connection = connection
      cases connection with
      | none => exact orderly.connect given handle peer
      | some c => exact orderly
  | disconnect => exact orderly.elim fun c here => orderly.disconnect here
  | bond irkPresent =>
      refine orderly.elim fun c here => ?_
      split
      · exact orderly.bond here capacity irkPresent
      · exact orderly
  | encChange =>
      refine orderly.elim fun c here => ?_
      split
      · rename_i pairs
        refine orderly.encChange here fun uninvited => truthful rfl c here uninvited ?_
        exact pairs.resolve_left uninvited.new
      · exact orderly
  | repeatPairing =>
      refine orderly.elim fun c here => ?_
      split
      · exact orderly.repeatPairing here
      · exact orderly
  | openWindow => exact orderly.openWindow
  | windowExpired => exact orderly.restore rfl rfl rfl fun _ notes => notes.closeWindow
  | wait us => exact orderly.restore rfl rfl rfl fun _ notes => notes.wait us
  | forgetBonds => exact orderly.restore rfl rfl rfl fun _ notes => { notes with }
  | jobs => exact orderly.restore rfl rfl rfl fun _ notes => notes.runJobs

end Steps

/-- Whatever bonds there are, whoever connects, and whatever becomes of the pairing window and the
bonds: an uninvited phone never gets in exactly when, each time the encryption of an uninvited peer
is judged, its bond is in the store with all those that were there when it connected, or its bond is
not in the store and the peer was evicted before. -/
theorem uninvited_never_admitted_iff [DecidableEq α] (capacity : Nat) (store : BondStore α)
    (inputs : List (Input α)) :
    (∀ first, first <+: inputs → (run (Adapter.step capacity) (.booted store) first).Safe) ↔
      Admissible Truthful (Adapter.step capacity) (.booted store) inputs := by
  refine forall_good_iff_admissible Adapter.Orderly ?_ ?_ ?_ (Adapter.orderly_booted store)
    inputs
  · exact fun s input orderly truthful => orderly.step capacity input truthful
  · exact fun s orderly => orderly.safe
  · rintro s _ orderly safe rfl c here uninvited bonded
    have step : s.step capacity .encChange = s.encChange c := by
      unfold Adapter.step
      rw [here]
      exact if_pos (.inr bonded)
    rw [step] at safe
    exact Adapter.tells_of_safe orderly here uninvited safe

/-- The store is full, and one of its bonds has no identity key: a stranger connects while the
window is closed, its bond displaces the oldest one, and it is let in. -/
theorem stranger_admitted_by_full_store :
    let store : BondStore Nat :=
      { bonds := (List.range 8).map fun peer => { peer, irkPresent := peer ≠ 0 }
        distinct := by decide }
    let after := run (Adapter.step 8) (.booted store) [.connect 1 8, .bond true, .encChange]
    ¬ after.Safe ∧ after.access 1 20 true = .delivered ∧ 8 ∈ after.store.peers := by
  intro store after
  have delivered : after.access 1 20 true = .delivered := by decide
  have there : after.connection = some {
      handle := 1, peer := 8, encrypted := true, bondedBefore := List.range 8
      windowSeen := false, bonded := true, judged := true } := by rfl
  refine ⟨fun safe => ?_, delivered, by decide⟩
  exact (safe _ there ⟨by decide, rfl⟩).writes rfl 20 true delivered

end OpenDiag.Ble
