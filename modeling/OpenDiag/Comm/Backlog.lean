import OpenDiag.Comm.Port

/-!
# The backlog of a port

What `comm_port_rx_pending` reports is what waits in the ring, as long as no client leaves while a
read is under way. One that does sets the count to zero behind the reader's back, and the reader
then subtracts bytes that are no longer in it.
-/

namespace OpenDiag.Comm

/-- While no call holds the lock and no read is in flight, the count is the number of bytes in the
ring. -/
def Machine.Exact (m : Machine) : Prop :=
  m.holder = .none → m.reader = .idle → m.port.rxPending = m.port.rxStream.items.length

/-- When a read accounts for its bytes, the count still has them in it, or the ring is empty. -/
def Machine.Accounts (m : Machine) : Turn → Prop
  | .account =>
    match m.reader with
    | .accounting _ =>
      m.holder = .none → m.resetSince = false ∨ m.port.rxStream.items = []
    | _ => True
  | _ => True

instance (m : Machine) (turn : Turn) : Decidable (m.Accounts turn) := by
  unfold Machine.Accounts
  split
  · split <;> infer_instance
  · infer_instance

/-- The bytes that were sent and are not counted yet. -/
def Holder.uncounted : Holder → Nat
  | .rx length => length
  | _ => 0

/-- Whether the count is about to be set to zero. -/
def Holder.resets : Holder → Bool
  | .drain _ | .drained _ _ => true
  | _ => false

/-- The bytes that the reader copies, still in the ring. -/
def Reader.copied : Reader → Nat
  | .copying size => size
  | _ => 0

/-- The bytes that the reader has yet to subtract. -/
def Reader.owed : Reader → Nat
  | .idle => 0
  | .copying size | .accounting size => size

/-- The bytes that the drain was lent. -/
def Holder.drained? : Holder → Nat
  | .drained _ size => size
  | _ => 0

/-- The count, against the bytes that nobody has taken and those that the reader owes. -/
structure Machine.Counted (m : Machine) : Prop where
  lent : m.port.rxStream.lent = m.reader.copied + m.holder.drained?
  apart : ∀ dropped size, m.holder = .drained dropped size → m.reader.copied = 0 ∧ 0 < size
  positive : m.reader ≠ .idle → 0 < m.reader.owed
  idle : m.reader = .idle → m.resetSince = false
  counted : m.holder.resets = false → m.resetSince = false →
    m.port.rxPending + m.holder.uncounted + m.reader.copied =
      m.port.rxStream.items.length + m.reader.owed
  reset : m.holder.resets = false → m.resetSince = true →
    m.port.rxPending + m.holder.uncounted + m.reader.copied ≤ m.port.rxStream.items.length

section Steps

variable {m : Machine}

/-- A new port holds nothing and counts nothing. -/
theorem registered_counted (rxBufSize : Nat) (positive : 0 < rxBufSize) :
    (Machine.registered rxBufSize positive).Counted where
  lent := rfl
  apart := nofun
  positive := fun reading => absurd rfl reading
  idle := fun _ => rfl
  counted := fun _ _ => rfl
  reset := nofun

/-- Nothing is in flight while the reader is idle. -/
theorem Machine.Counted.exact (counted : m.Counted) : m.Exact := by
  intro free idle
  have equal := counted.counted (by simp [free, Holder.resets]) (counted.idle idle)
  simpa [free, idle, Holder.uncounted, Reader.copied, Reader.owed] using equal

/-! ### The transport -/

/-- Bytes that come in are stored first, and counted in a step of their own. -/
theorem Machine.Counted.rx (counted : m.Counted) (data : List UInt8) :
    (m.step (.rx data)).Counted := by
  obtain ⟨lent, apart, positive, idle, equal, reset⟩ := counted
  dsimp only [step]
  split
  · rename_i free
    rw [free.1] at lent equal reset
    split
    · rename_i rxStream sent
      obtain ⟨items, same⟩ := ByteRing.send_eq_some sent
      refine ⟨?_, nofun, positive, idle, ?_, ?_⟩
      · simpa [Holder.drained?, same] using lent
      · intro _ kept
        have := equal rfl kept
        simp only [Holder.uncounted, items, List.length_append] at this ⊢
        omega
      · intro _ gone
        have := reset rfl gone
        simp only [Holder.uncounted, items, List.length_append] at this ⊢
        omega
    · rw [← free.1] at lent equal reset
      exact ⟨lent, apart, positive, idle, equal, reset⟩
  · exact ⟨lent, apart, positive, idle, equal, reset⟩

theorem Machine.Counted.count (counted : m.Counted) : (m.step .count).Counted := by
  dsimp only [step]
  split
  · rename_i length holding
    obtain ⟨lent, apart, positive, idle, equal, reset⟩ := counted
    rw [holding] at lent equal reset
    exact ⟨lent, nofun, positive, idle, fun _ => equal rfl, fun _ => reset rfl⟩
  · exact counted

/-! ### The client -/

/-- While a client goes, the count is about to be reset. -/
theorem Machine.Counted.gone (counted : m.Counted) : (m.step .gone).Counted := by
  dsimp only [step]
  split
  · rename_i free
    obtain ⟨lent, apart, positive, idle, equal, reset⟩ := counted
    rw [free] at lent
    exact ⟨lent, nofun, positive, idle, nofun, nofun⟩
  · exact counted

theorem Machine.Counted.ready (counted : m.Counted) : (m.step .ready).Counted := by
  dsimp only [step]
  split
  · obtain ⟨lent, apart, positive, idle, equal, reset⟩ := counted
    exact ⟨lent, apart, positive, idle, equal, reset⟩
  · exact counted

theorem Machine.Counted.discard (counted : m.Counted) : (m.step .discard).Counted := by
  dsimp only [step]
  split
  · rename_i dropped size holding
    obtain ⟨lent, apart, positive, idle, equal, reset⟩ := counted
    have none := (apart dropped size holding).1
    exact ⟨by simp [none, Holder.drained?], nofun, positive, idle, nofun, nofun⟩
  · exact counted

/-- The drain ends on a ring that is empty, unless the reader was lent a part of it. -/
theorem Machine.Counted.drain (counted : m.Counted) : (m.step .drain).Counted := by
  dsimp only [step]
  split
  · rename_i dropped holding
    obtain ⟨lent, apart, positive, idle, equal, reset⟩ := counted
    rw [holding] at lent
    split
    · rename_i item rxStream received
      obtain ⟨free, items, length, some⟩ := ByteRing.receiveUpTo_eq_some received
      have none : m.reader.copied = 0 := by
        rw [free] at lent
        simpa [Holder.drained?] using lent.symm
      refine ⟨by simp [length, none, Holder.drained?], ?_, positive, idle, nofun, nofun⟩
      rintro _ _ ⟨⟩
      exact ⟨none, some⟩
    · rename_i ended
      have left := ByteRing.receiveUpTo_eq_none ended (by decide)
      rw [lent] at left
      refine ⟨lent, nofun, positive, ?_, ?_, ?_⟩
      · intro reading
        exact decide_eq_false (not_not.mpr reading)
      · intro _ kept
        have reading : m.reader = .idle := by simpa using kept
        have nothing : m.port.rxStream.items = [] := left.resolve_left (by
          simp [reading, Reader.copied, Holder.drained?])
        simp [reading, nothing, Holder.uncounted, Reader.copied, Reader.owed]
      · intro _ _
        have within := m.port.rxStream.lent_le
        simp only [Holder.uncounted, Holder.drained?] at lent ⊢
        omega
  · exact counted

/-! ### The reader -/

/-- Bytes that are copied are owed to the count until the read accounts for them. -/
theorem Machine.Counted.take (counted : m.Counted) (length : Nat) :
    (m.step (.take length)).Counted := by
  dsimp only [step]
  split
  · rename_i reading
    split
    · rename_i item rxStream received
      obtain ⟨lent, apart, positive, idle, equal, reset⟩ := counted
      obtain ⟨free, items, same, some⟩ := ByteRing.receiveUpTo_eq_some received
      have none : m.holder.drained? = 0 := by omega
      refine ⟨by simp [same, none, Reader.copied], ?_, fun _ => some, nofun, ?_, nofun⟩
      · intro dropped size holding
        have held := (apart dropped size holding).2
        rw [show m.holder.drained? = size by rw [show m.holder = _ from holding]; rfl] at none
        omega
      · intro kept _
        have := equal kept (idle reading)
        simp only [reading, Reader.copied, Reader.owed, items] at this ⊢
        omega
    · exact counted
  · exact counted

theorem Machine.Counted.giveBack (counted : m.Counted) : (m.step .giveBack).Counted := by
  dsimp only [step]
  split
  · rename_i size reading
    obtain ⟨lent, apart, positive, idle, equal, reset⟩ := counted
    have some : 0 < size := by simpa [reading, Reader.owed] using positive (by simp [reading])
    have away : ∀ dropped size, m.holder ≠ .drained dropped size := by
      intro dropped other holding
      have none := (apart dropped other holding).1
      simp only [reading, Reader.copied] at none
      omega
    have held : m.holder.drained? = 0 := by
      cases holding : m.holder with
      | drained dropped size => exact absurd holding (away dropped size)
      | none | rx _ | drain _ => rfl
    simp only [reading, Reader.copied, Reader.owed, held, Nat.add_zero] at lent equal reset
    have within := m.port.rxStream.lent_le
    refine ⟨by simp [held, Reader.copied], fun dropped size holding => absurd holding (away _ _),
      fun _ => some, fun wrong => absurd wrong (by simp), ?_, ?_⟩
    · intro kept clean
      have := equal kept clean
      simp only [Reader.copied, Reader.owed, ByteRing.length_returnItem, lent]
      omega
    · intro kept gone
      have := reset kept gone
      simp only [Reader.copied, ByteRing.length_returnItem, lent]
      omega
  · exact counted

/-- A read accounts for its bytes while the count still has them in it, or once the ring is
empty. -/
theorem Machine.Counted.account (counted : m.Counted) (accounts : m.Accounts .account) :
    (m.step .account).Counted := by
  dsimp only [step]
  split
  · rename_i size reading
    split
    · rename_i free
      obtain ⟨lent, apart, positive, idle, equal, reset⟩ := counted
      simp only [reading, free, Holder.uncounted, Holder.resets, Reader.copied, Reader.owed,
        forall_const] at lent equal reset
      have settled : m.port.rxPending -
          (if size < m.port.rxPending then size else m.port.rxPending) =
            m.port.rxStream.items.length := by
        cases gone : m.resetSince with
        | false =>
            have := equal gone
            split <;> omega
        | true =>
            simp only [Machine.Accounts, reading] at accounts
            have nothing := (accounts free).resolve_left (by simp [gone])
            have := reset gone
            rw [nothing, List.length_nil] at this ⊢
            split <;> omega
      refine ⟨by simpa [free, Reader.copied] using lent, ?_, fun reading => absurd rfl reading,
        fun _ => rfl, fun _ _ => ?_, fun _ gone => absurd gone Bool.false_ne_true⟩
      · intro dropped size holding
        exact absurd (free.symm.trans holding) (by simp)
      · simpa [free, Holder.uncounted, Reader.copied, Reader.owed] using settled
    · exact counted
  · exact counted

/-- Every step keeps the count exact, case by case. -/
theorem Machine.Counted.step (counted : m.Counted) (turn : Turn) (accounts : m.Accounts turn) :
    (m.step turn).Counted := by
  cases turn with
  | rx data => exact counted.rx data
  | count => exact counted.count
  | gone => exact counted.gone
  | drain => exact counted.drain
  | discard => exact counted.discard
  | ready => exact counted.ready
  | take length => exact counted.take length
  | giveBack => exact counted.giveBack
  | account => exact counted.account accounts

/-- A read that subtracts bytes which the count has lost leaves it short of the ring. -/
theorem Machine.Counted.accounts_of_exact (counted : m.Counted) (turn : Turn)
    (equal : (m.step turn).Exact) : m.Accounts turn := by
  cases turn with
  | account =>
      dsimp only [Machine.Accounts]
      split
      case h_2 => exact True.intro
      rename_i size reading
      intro free
      by_contra lost
      obtain ⟨gone, left⟩ := not_or.mp lost
      have behind := counted.reset (by simp [free, Holder.resets]) (by simpa using gone)
      have owed := counted.positive (by simp [reading])
      have some : 0 < m.port.rxStream.items.length := List.length_pos_of_ne_nil left
      simp only [Machine.step, reading, free, if_true] at equal
      have same := equal rfl rfl
      simp only [free, reading, Holder.uncounted, Reader.copied, Reader.owed] at behind owed same
      split at same <;> omega
  | _ => exact True.intro

end Steps

/-! ## Every run -/

/-- In every interleaving of the transport's calls and one reader, the count is exact whenever no
call is under way, if and only if no read accounts for bytes that a client which left took out of
the count, while others have arrived. -/
theorem backlog_exact_iff (rxBufSize : Nat) (positive : 0 < rxBufSize) (turns : List Turn) :
    (∀ first, first <+: turns →
      (run Machine.step (Machine.registered rxBufSize positive) first).Exact) ↔
      Admissible Machine.Accounts Machine.step (Machine.registered rxBufSize positive) turns :=
  forall_good_iff_admissible Machine.Counted
    (fun _ turn counted accounts => counted.step turn accounts)
    (fun _ counted => counted.exact)
    (fun _ turn counted equal => counted.accounts_of_exact turn equal)
    (registered_counted rxBufSize positive) turns

/-- A client leaves between two reads, with bytes waiting. -/
theorem backlog_exact_after_departure :
    (run Machine.step (Machine.registered 16 (by decide))
      [.rx [1, 2, 3], .count, .take 2, .giveBack, .account, .gone, .drain, .discard, .drain, .ready,
        .rx [4], .count]).Exact :=
  (backlog_exact_iff 16 (by decide) _).mpr (by decide) _ List.prefix_rfl

/-- A reader has taken the only byte when the client leaves, and two bytes of the next one arrive
before it accounts for it: the count is then one behind. -/
theorem backlog_short :
    ¬ ∀ turns first, first <+: turns →
      (run Machine.step (Machine.registered 16 (by decide)) first).Exact := by
  intro exact_
  have wrong := exact_
    [.rx [1], .count, .take 1, .giveBack, .gone, .drain, .rx [2, 3], .count, .account] _
    List.prefix_rfl rfl rfl
  exact absurd wrong (by decide)

end OpenDiag.Comm
