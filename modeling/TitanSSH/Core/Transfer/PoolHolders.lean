import TitanSSH.Core.Transfer.PoolAccounting

namespace TitanSSH

namespace TransferPool

open Interleaving

/-! The slots of an open pool that its users hold.  A slot may outlive its user,
so the pool can hold more busy slots than there are users. -/

structure Slotted (pool : TransferPool) (seqs : ℕ → Option ℕ) : Prop where
  exclusive : Exclusive seqs
  held : ∀ thread seq, seqs thread = some seq → seq ∈ pool.state.busySeqs
  issued : ∀ seq ∈ pool.state.connections.domain, seq < pool.nextSeq
  bounded : pool.state.connections.size ≤ maxTransferConnectionsPerSession

variable {pool next : TransferPool} {seqs : ℕ → Option ℕ}
variable {thread seq : ℕ} {choice : Choice} {before after : Phase}
variable {events : List Event}

namespace Slotted

theorem of_newCyclic (idleTimeout : ℕ) (free : ∀ thread, seqs thread = none) :
    Slotted (newCyclic idleTimeout) seqs where
  exclusive := by
    intro first second key holds
    simp [free] at holds
  held := by
    intro thread seq holds
    simp [free] at holds
  issued := by
    intro seq member
    obtain ⟨slot, found⟩ := FiniteMap.mem_iff.mp member
    simp [newCyclic, PoolState.empty] at found
  bounded := by simp [newCyclic, PoolState.empty]

theorem narrow (slotted : Slotted pool seqs)
    (busy : pool.state.busySeqs ⊆ next.state.busySeqs)
    (domain : next.state.connections.domain ⊆ pool.state.connections.domain)
    (sameSeq : next.nextSeq = pool.nextSeq) : Slotted next seqs where
  exclusive := slotted.exclusive
  held := fun thread seq holds => busy (slotted.held thread seq holds)
  issued := by
    intro seq member
    rw [sameSeq]
    exact slotted.issued seq (domain member)
  bounded := (Finset.card_le_card domain).trans slotted.bounded

theorem congr (slotted : Slotted pool seqs)
    (sameConnections : next.state.connections = pool.state.connections)
    (sameSeq : next.nextSeq = pool.nextSeq) : Slotted next seqs := by
  refine slotted.narrow ?_ ?_ sameSeq
  · simp only [PoolState.busySeqs, sameConnections]
    exact subset_rfl
  · rw [sameConnections]

theorem turn (slotted : Slotted pool seqs) (choice : Choice) :
    Slotted (pool.turn choice) seqs := by
  refine slotted.narrow (by rw [turn_busySeqs]) ?_ rfl
  intro seq member
  obtain ⟨slot, found⟩ := FiniteMap.mem_iff.mp member
  exact FiniteMap.mem_iff.mpr ⟨slot, PoolState.lookup_of_swept found⟩

theorem release (slotted : Slotted pool seqs) (thread : ℕ) :
    Slotted pool (Function.update seqs thread none) where
  exclusive := slotted.exclusive.release thread
  held := by
    intro other seq holds
    rcases of_update_eq_some holds with ⟨-, nothing⟩ | ⟨-, holds⟩
    · cases nothing
    · exact slotted.held other seq holds
  issued := slotted.issued
  bounded := slotted.bounded

theorem claim (slotted : Slotted pool seqs)
    (free : seq ∉ pool.state.busySeqs)
    (taken : next.state.busySeqs = insert seq pool.state.busySeqs)
    (issued : ∀ seq ∈ next.state.connections.domain, seq < next.nextSeq)
    (bounded : next.state.connections.size ≤ maxTransferConnectionsPerSession)
    (thread : ℕ) : Slotted next (Function.update seqs thread (some seq)) where
  exclusive := slotted.exclusive.claim
    (fun other holds => free (slotted.held other seq holds)) thread
  held := by
    intro other number holds
    rw [taken, Finset.mem_insert]
    rcases of_update_eq_some holds with ⟨-, same⟩ | ⟨-, holds⟩
    · exact .inl (Option.some.inj same).symm
    · exact .inr (slotted.held other number holds)
  issued := issued
  bounded := bounded

theorem free (slotted : Slotted pool seqs) (own : seqs thread = some seq)
    (freed : next.state.busySeqs = pool.state.busySeqs.erase seq)
    (domain : next.state.connections.domain ⊆ pool.state.connections.domain)
    (sameSeq : next.nextSeq = pool.nextSeq) :
    Slotted next (Function.update seqs thread none) where
  exclusive := slotted.exclusive.release thread
  held := by
    intro other number holds
    rcases of_update_eq_some holds with ⟨-, nothing⟩ | ⟨different, holds⟩
    · cases nothing
    · rw [freed]
      refine Finset.mem_erase.mpr ⟨?_, slotted.held other number holds⟩
      rintro rfl
      exact different (slotted.exclusive other thread number holds own)
  issued := by
    intro number member
    rw [sameSeq]
    exact slotted.issued number (domain member)
  bounded := (Finset.card_le_card domain).trans slotted.bounded

end Slotted

theorem domain_removeSlot_subset (state : PoolState) (seq : ℕ) :
    (state.removeSlot seq).connections.domain ⊆ state.connections.domain := by
  intro number member
  obtain ⟨slot, found⟩ := FiniteMap.mem_iff.mp member
  exact FiniteMap.mem_iff.mpr ⟨slot, (PoolState.lookup_of_removed found).2⟩

theorem domain_setSlot_of_mem {state : PoolState} {slot : ConnectionSlot}
    (member : seq ∈ state.connections.domain) :
    (state.setSlot seq slot).connections.domain = state.connections.domain := by
  simp only [PoolState.setSlot, FiniteMap.domain_insert]
  exact Finset.insert_eq_of_mem member

/-- Every step of an open pool keeps the slots of its users. -/
theorem Move.slotted (move : Move thread choice pool before next after events)
    (slotted : Slotted pool seqs) (own : seqs thread = before.seq?)
    (isOpen : next.state.closed = false) :
    Slotted next (Function.update seqs thread after.seq?) := by
  have unmoved : before.seq? = after.seq? →
      Function.update seqs thread after.seq? = seqs := by
    intro same
    rw [← same, ← own, Function.update_eq_self]
  have swept := slotted.turn choice
  cases move with
  | queued isOpen blocked =>
      rw [unmoved rfl]
      exact swept.congr rfl rfl
  | @reused _ seq _ lastUsed _ isOpen admitted least idle =>
      have present : seq ∈ (pool.turn choice).state.connections.domain :=
        FiniteMap.mem_iff.mpr ⟨_, idle⟩
      have taken := @PoolState.busySeqs_setSlot_busy
        (pool.turn choice).state seq ⟨none, lastUsed⟩ rfl
      refine swept.claim ?_ taken ?_ ?_ thread
      · rw [PoolState.mem_busySeqs]
        rintro ⟨slot, found, busy⟩
        obtain rfl := Option.some.inj (found.symm.trans idle)
        cases busy
      · intro number member
        rw [domain_setSlot_of_mem present] at member
        exact swept.issued number member
      · change Finset.card _ ≤ _
        rw [domain_setSlot_of_mem present]
        exact swept.bounded
  | reserved isOpen admitted noIdle room =>
      have absent : pool.nextSeq ∉
          (pool.turn choice).state.connections.domain :=
        fun member => (swept.issued _ member).ne rfl
      have taken := @PoolState.busySeqs_setSlot_busy
        (pool.turn choice).state pool.nextSeq
        ⟨none, (pool.turn choice).clock⟩ rfl
      refine swept.claim ?_ taken ?_ ?_ thread
      · exact fun busy => absent (PoolState.busySeqs_subset busy)
      · intro number member
        simp only [PoolState.setSlot, FiniteMap.domain_insert,
          Finset.mem_insert] at member
        rcases member with rfl | earlier
        · exact Nat.lt_succ_self _
        · exact Nat.lt_succ_of_lt (swept.issued number earlier)
      · have small : (pool.turn choice).state.connections.size <
            maxTransferConnectionsPerSession := by
          simpa [PoolState.isFull] using room
        have unfilled : (pool.turn choice).state.connections.lookup
            pool.nextSeq = none := by
          rw [← Option.not_isSome_iff_eq_none, Option.isSome_iff_exists]
          exact fun found => absent (FiniteMap.mem_iff.mpr found)
        simp only [PoolState.setSlot]
        rw [FiniteMap.size_insert_of_notMem unfilled]
        omega
  | connectedLate isClosed => simp [PoolState.removeSlot, isClosed] at isOpen
  | connected isOpen success =>
      rw [unmoved rfl]
      exact slotted.congr rfl rfl
  | @connectFailed seq _ isOpen failure =>
      have freed : Slotted { pool with state := pool.state.removeSlot seq } _ :=
        slotted.free own PoolState.busySeqs_removeSlot
          (domain_removeSlot_subset _ _) rfl
      exact freed.congr wakeNextWaiter_connections wakeNextWaiter_nextSeq
  | @discarded checkout useless =>
      have freed : Slotted
          { pool with state := pool.state.removeSlot checkout.seq } _ :=
        slotted.free own PoolState.busySeqs_removeSlot
          (domain_removeSlot_subset _ _) rfl
      exact freed.congr wakeNextWaiter_connections wakeNextWaiter_nextSeq
  | @checkedIn checkout isOpen healthy =>
      have present : checkout.seq ∈ pool.state.connections.domain :=
        PoolState.busySeqs_subset (slotted.held thread _ own)
      have freed : Slotted { pool.tick choice with
          state := pool.state.setSlot checkout.seq
            ⟨some checkout.transport, (pool.tick choice).clock⟩ } _ :=
        slotted.free own (PoolState.busySeqs_setSlot_idle rfl)
          (domain_setSlot_of_mem present).subset rfl
      apply freed.congr <;> simp
  | cancelledWaiter =>
      rw [unmoved rfl]
      apply slotted.congr <;> simp
  | closed => simp [close_eq] at isOpen
  | reaperSwept due isOpen more =>
      rw [unmoved rfl]
      exact swept
  | reaperDone due isOpen none =>
      rw [unmoved rfl]
      exact swept.congr rfl rfl
  | _ =>
      rw [unmoved rfl]
      exact slotted.congr rfl rfl

theorem Move.stays_open (move : Move thread choice pool before next after events)
    (wasOpen : pool.state.closed = false) (aside : before ≠ .close) :
    next.state.closed = false := by
  cases move with
  | closed => exact absurd rfl aside
  | _ => simpa [PoolState.removeSlot, PoolState.setSlot] using wasOpen

end TransferPool

end TitanSSH
