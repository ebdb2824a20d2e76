import TitanSSH.Core.Transfer.PoolSteps

namespace TitanSSH

namespace TransferPool

open Interleaving

/-! Slots and the checkouts they stand for.  Who holds what is read off the
threads; the pool's side is the state behind its lock. -/

def Phase.seq? : Phase → Option ℕ
  | .connecting seq => some seq
  | .holding held => some held.seq
  | _ => none

def Phase.transport? : Phase → Option ℕ
  | .holding held => some held.transport
  | _ => none

structure Accounted (pool : TransferPool) (seqs transports : ℕ → Option ℕ) :
    Prop where
  seqsExclusive : Exclusive seqs
  transportsExclusive : Exclusive transports
  seqsIssued : ∀ {thread seq}, seqs thread = some seq → seq < pool.nextSeq
  transportsIssued : ∀ {thread transport},
    transports thread = some transport → transport < pool.transports
  slotsIssued : ∀ {seq slot}, pool.state.connections.lookup seq = some slot →
    seq < pool.nextSeq
  idleIssued : ∀ {seq transport lastUsed},
    pool.state.connections.lookup seq = some ⟨some transport, lastUsed⟩ →
      transport < pool.transports
  idleDistinct : ∀ {seq other transport lastUsed otherUsed},
    pool.state.connections.lookup seq = some ⟨some transport, lastUsed⟩ →
    pool.state.connections.lookup other = some ⟨some transport, otherUsed⟩ →
      seq = other
  idleUnheld : ∀ {seq transport lastUsed thread},
    pool.state.connections.lookup seq = some ⟨some transport, lastUsed⟩ →
      transports thread ≠ some transport
  busy : pool.state.closed = false → ∀ seq,
    seq ∈ pool.state.busySeqs ↔ ∃ thread, seqs thread = some seq
  bounded : pool.state.connections.size ≤ maxTransferConnectionsPerSession
  emptied : pool.state.closed = true → pool.state.connections = .empty

namespace Accounted

variable {pool next : TransferPool} {seqs transports : ℕ → Option ℕ}
variable {thread seq transport lastUsed : ℕ} {choice : Choice}

theorem of_newCyclic (idleTimeout : ℕ) :
    Accounted (newCyclic idleTimeout) (fun _ => none) (fun _ => none) where
  seqsExclusive := by intro _ _ _ holds; simp at holds
  transportsExclusive := by intro _ _ _ holds; simp at holds
  seqsIssued := by intro _ _ holds; simp at holds
  transportsIssued := by intro _ _ holds; simp at holds
  slotsIssued := by intro _ _ found; simp [newCyclic, PoolState.empty] at found
  idleIssued := by intro _ _ _ found; simp [newCyclic, PoolState.empty] at found
  idleDistinct := by
    intro _ _ _ _ _ found
    simp [newCyclic, PoolState.empty] at found
  idleUnheld := by intro _ _ _ _ _ holds; simp at holds
  busy := by
    intro _ seq
    simp [PoolState.mem_busySeqs, newCyclic, PoolState.empty]
  bounded := by simp [newCyclic, PoolState.empty]
  emptied := by intro closed; simp [newCyclic, PoolState.empty] at closed

/-- Losing idle slots, and touching nothing else of the slots, keeps them
accounted for. -/
theorem narrow (accounted : Accounted pool seqs transports)
    (slots : ∀ seq slot, next.state.connections.lookup seq = some slot →
      pool.state.connections.lookup seq = some slot)
    (sameBusy : next.state.busySeqs = pool.state.busySeqs)
    (sameClosed : next.state.closed = pool.state.closed)
    (sameSeq : next.nextSeq = pool.nextSeq)
    (sameTransports : next.transports = pool.transports) :
    Accounted next seqs transports where
  seqsExclusive := accounted.seqsExclusive
  transportsExclusive := accounted.transportsExclusive
  seqsIssued holds := sameSeq ▸ accounted.seqsIssued holds
  transportsIssued holds := sameTransports ▸ accounted.transportsIssued holds
  slotsIssued found := sameSeq ▸ accounted.slotsIssued (slots _ _ found)
  idleIssued found := sameTransports ▸ accounted.idleIssued (slots _ _ found)
  idleDistinct found otherFound :=
    accounted.idleDistinct (slots _ _ found) (slots _ _ otherFound)
  idleUnheld found := accounted.idleUnheld (slots _ _ found)
  busy isOpen seq := by
    rw [sameBusy]
    exact accounted.busy (sameClosed ▸ isOpen) seq
  bounded := by
    refine le_trans (Finset.card_le_card fun seq member => ?_) accounted.bounded
    obtain ⟨slot, found⟩ := FiniteMap.mem_iff.mp member
    exact FiniteMap.mem_iff.mpr ⟨slot, slots _ _ found⟩
  emptied isClosed := by
    ext seq slot
    have empty := accounted.emptied (sameClosed ▸ isClosed)
    simp only [FiniteMap.lookup_empty, reduceCtorEq, iff_false]
    intro found
    simpa [empty] using slots _ _ found

theorem turn (accounted : Accounted pool seqs transports) (choice : Choice) :
    Accounted (pool.turn choice) seqs transports :=
  accounted.narrow (fun _ _ => PoolState.lookup_of_swept) turn_busySeqs rfl rfl
    rfl

theorem congr (accounted : Accounted pool seqs transports)
    (sameConnections : next.state.connections = pool.state.connections)
    (sameClosed : next.state.closed = pool.state.closed)
    (sameSeq : next.nextSeq = pool.nextSeq)
    (sameTransports : next.transports = pool.transports) :
    Accounted next seqs transports := by
  refine accounted.narrow (fun _ _ => by rw [sameConnections]; exact id) ?_
    sameClosed sameSeq sameTransports
  simp only [PoolState.busySeqs, sameConnections]

theorem reuse (accounted : Accounted pool seqs transports)
    (isOpen : pool.state.closed = false) (free : seqs thread = none)
    (idle : pool.state.connections.lookup seq =
      some ⟨some transport, lastUsed⟩) :
    Accounted { pool with state := pool.state.setSlot seq ⟨none, lastUsed⟩ }
      (Function.update seqs thread (some seq))
      (Function.update transports thread (some transport)) where
  seqsExclusive := by
    refine accounted.seqsExclusive.claim (fun other holds => ?_) thread
    obtain ⟨slot, found, busy⟩ := PoolState.mem_busySeqs.mp
      ((accounted.busy isOpen seq).mpr ⟨other, holds⟩)
    simp [found] at idle
    simp [idle] at busy
  transportsExclusive :=
    accounted.transportsExclusive.claim (fun _ => accounted.idleUnheld idle)
      thread
  seqsIssued := by
    intro other held holds
    rcases of_update_eq_some holds with ⟨-, same⟩ | ⟨-, holds⟩
    · exact Option.some.inj same ▸ accounted.slotsIssued idle
    · exact accounted.seqsIssued holds
  transportsIssued := by
    intro other held holds
    rcases of_update_eq_some holds with ⟨-, same⟩ | ⟨-, holds⟩
    · exact Option.some.inj same ▸ accounted.idleIssued idle
    · exact accounted.transportsIssued holds
  slotsIssued := by
    intro other slot found
    rw [PoolState.lookup_setSlot] at found
    split at found
    · next same => exact lt_of_eq_of_lt same (accounted.slotsIssued idle)
    · exact accounted.slotsIssued found
  idleIssued := by
    intro other held used found
    rw [PoolState.lookup_setSlot] at found
    split at found
    · simp at found
    · exact accounted.idleIssued found
  idleDistinct := by
    intro first second held firstUsed secondUsed firstFound secondFound
    rw [PoolState.lookup_setSlot] at firstFound secondFound
    split at firstFound
    · simp at firstFound
    split at secondFound
    · simp at secondFound
    exact accounted.idleDistinct firstFound secondFound
  idleUnheld := by
    intro other held used holder found holds
    rw [PoolState.lookup_setSlot] at found
    split at found
    · simp at found
    next different =>
    rcases of_update_eq_some holds with ⟨-, same⟩ | ⟨-, holds⟩
    · obtain rfl := Option.some.inj same
      exact different (accounted.idleDistinct found idle)
    · exact accounted.idleUnheld found holds
  busy := by
    intro _ wanted
    rw [PoolState.busySeqs_setSlot_busy rfl, Finset.mem_insert,
      accounted.busy isOpen, held_after_claim free]
  bounded := by
    refine le_trans (le_of_eq ?_) accounted.bounded
    exact FiniteMap.size_insert_of_mem idle _
  emptied := by
    intro isClosed
    simp [PoolState.setSlot, isOpen] at isClosed

theorem reserve (accounted : Accounted pool seqs transports)
    (isOpen : pool.state.closed = false) (free : seqs thread = none)
    (room : pool.state.isFull = false) (used : ℕ) :
    Accounted
      { pool with
        state := pool.state.setSlot pool.nextSeq ⟨none, used⟩
        nextSeq := pool.nextSeq + 1 }
      (Function.update seqs thread (some pool.nextSeq)) transports where
  seqsExclusive := by
    refine accounted.seqsExclusive.claim (fun other holds => ?_) thread
    exact (accounted.seqsIssued holds).ne rfl
  transportsExclusive := accounted.transportsExclusive
  seqsIssued := by
    intro other held holds
    rcases of_update_eq_some holds with ⟨-, same⟩ | ⟨-, holds⟩
    · exact Option.some.inj same ▸ Nat.lt_succ_self _
    · exact Nat.lt_succ_of_lt (accounted.seqsIssued holds)
  transportsIssued := accounted.transportsIssued
  slotsIssued := by
    intro other slot found
    rw [PoolState.lookup_setSlot] at found
    split at found
    · next same => exact same ▸ Nat.lt_succ_self _
    · exact Nat.lt_succ_of_lt (accounted.slotsIssued found)
  idleIssued := by
    intro other held used found
    rw [PoolState.lookup_setSlot] at found
    split at found
    · simp at found
    · exact accounted.idleIssued found
  idleDistinct := by
    intro first second held firstUsed secondUsed firstFound secondFound
    rw [PoolState.lookup_setSlot] at firstFound secondFound
    split at firstFound
    · simp at firstFound
    split at secondFound
    · simp at secondFound
    exact accounted.idleDistinct firstFound secondFound
  idleUnheld := by
    intro other held used holder found
    rw [PoolState.lookup_setSlot] at found
    split at found
    · simp at found
    · exact accounted.idleUnheld found
  busy := by
    intro _ wanted
    rw [PoolState.busySeqs_setSlot_busy rfl, Finset.mem_insert,
      accounted.busy isOpen, held_after_claim free]
  bounded := by
    have absent : pool.state.connections.lookup pool.nextSeq = none := by
      by_contra present
      obtain ⟨slot, found⟩ := Option.ne_none_iff_exists'.mp present
      exact (accounted.slotsIssued found).ne rfl
    have below := of_decide_eq_false room
    rw [PoolState.setSlot, FiniteMap.size_insert_of_notMem absent]
    omega
  emptied := by
    intro isClosed
    simp [PoolState.setSlot, isOpen] at isClosed

theorem connected (accounted : Accounted pool seqs transports)
    (thread : ℕ) :
    Accounted { pool with transports := pool.transports + 1 } seqs
      (Function.update transports thread (some pool.transports)) where
  seqsExclusive := accounted.seqsExclusive
  transportsExclusive := by
    refine accounted.transportsExclusive.claim (fun other holds => ?_) thread
    exact (accounted.transportsIssued holds).ne rfl
  seqsIssued := accounted.seqsIssued
  transportsIssued := by
    intro other held holds
    rcases of_update_eq_some holds with ⟨-, same⟩ | ⟨-, holds⟩
    · exact Option.some.inj same ▸ Nat.lt_succ_self _
    · exact Nat.lt_succ_of_lt (accounted.transportsIssued holds)
  slotsIssued := accounted.slotsIssued
  idleIssued found := Nat.lt_succ_of_lt (accounted.idleIssued found)
  idleDistinct := accounted.idleDistinct
  idleUnheld := by
    intro other held used holder found holds
    rcases of_update_eq_some holds with ⟨-, same⟩ | ⟨-, holds⟩
    · exact (accounted.idleIssued found).ne (Option.some.inj same).symm
    · exact accounted.idleUnheld found holds
  busy := accounted.busy
  bounded := accounted.bounded
  emptied := accounted.emptied

theorem remove (accounted : Accounted pool seqs transports)
    (owned : seqs thread = some seq) :
    Accounted { pool with state := pool.state.removeSlot seq }
      (Function.update seqs thread none)
      (Function.update transports thread none) where
  seqsExclusive := accounted.seqsExclusive.release thread
  transportsExclusive := accounted.transportsExclusive.release thread
  seqsIssued := by
    intro other held holds
    rcases of_update_eq_some holds with ⟨-, nothing⟩ | ⟨-, holds⟩
    · cases nothing
    · exact accounted.seqsIssued holds
  transportsIssued := by
    intro other held holds
    rcases of_update_eq_some holds with ⟨-, nothing⟩ | ⟨-, holds⟩
    · cases nothing
    · exact accounted.transportsIssued holds
  slotsIssued found :=
    accounted.slotsIssued (PoolState.lookup_of_removed found).2
  idleIssued found := accounted.idleIssued (PoolState.lookup_of_removed found).2
  idleDistinct found otherFound :=
    accounted.idleDistinct (PoolState.lookup_of_removed found).2
      (PoolState.lookup_of_removed otherFound).2
  idleUnheld := by
    intro other held used holder found holds
    rcases of_update_eq_some holds with ⟨-, nothing⟩ | ⟨-, holds⟩
    · cases nothing
    · exact accounted.idleUnheld (PoolState.lookup_of_removed found).2 holds
  busy := by
    intro isOpen wanted
    rw [PoolState.busySeqs_removeSlot, Finset.mem_erase,
      accounted.busy isOpen, accounted.seqsExclusive.held_after_release owned]
  bounded := le_trans PoolState.size_removeSlot_le accounted.bounded
  emptied := by
    intro isClosed
    simp [PoolState.removeSlot, accounted.emptied isClosed]

theorem restock (accounted : Accounted pool seqs transports)
    (isOpen : pool.state.closed = false) (owned : seqs thread = some seq)
    (held : transports thread = some transport) (used : ℕ) :
    Accounted
      { pool with state := pool.state.setSlot seq ⟨some transport, used⟩ }
      (Function.update seqs thread none)
      (Function.update transports thread none) where
  seqsExclusive := accounted.seqsExclusive.release thread
  transportsExclusive := accounted.transportsExclusive.release thread
  seqsIssued := by
    intro other key holds
    rcases of_update_eq_some holds with ⟨-, nothing⟩ | ⟨-, holds⟩
    · cases nothing
    · exact accounted.seqsIssued holds
  transportsIssued := by
    intro other key holds
    rcases of_update_eq_some holds with ⟨-, nothing⟩ | ⟨-, holds⟩
    · cases nothing
    · exact accounted.transportsIssued holds
  slotsIssued := by
    intro other slot found
    rw [PoolState.lookup_setSlot] at found
    split at found
    · next same => exact lt_of_eq_of_lt same (accounted.seqsIssued owned)
    · exact accounted.slotsIssued found
  idleIssued := by
    intro other key lastUsed found
    rw [PoolState.lookup_setSlot] at found
    split at found
    · simp only [Option.some.injEq, ConnectionSlot.mk.injEq] at found
      exact found.1 ▸ accounted.transportsIssued held
    · exact accounted.idleIssued found
  idleDistinct := by
    intro first second key firstUsed secondUsed firstFound secondFound
    rw [PoolState.lookup_setSlot] at firstFound secondFound
    split at firstFound <;> split at secondFound
    · next firstSame secondSame => exact firstSame.trans secondSame.symm
    · simp only [Option.some.injEq, ConnectionSlot.mk.injEq] at firstFound
      exact absurd (firstFound.1 ▸ held) (accounted.idleUnheld secondFound)
    · simp only [Option.some.injEq, ConnectionSlot.mk.injEq] at secondFound
      exact absurd (secondFound.1 ▸ held) (accounted.idleUnheld firstFound)
    · exact accounted.idleDistinct firstFound secondFound
  idleUnheld := by
    intro other key lastUsed holder found holds
    rcases of_update_eq_some holds with ⟨-, nothing⟩ | ⟨different, holds⟩
    · cases nothing
    rw [PoolState.lookup_setSlot] at found
    split at found
    · simp only [Option.some.injEq, ConnectionSlot.mk.injEq] at found
      exact different (accounted.transportsExclusive holder thread key holds
        (found.1 ▸ held))
    · exact accounted.idleUnheld found holds
  busy := by
    intro _ wanted
    rw [PoolState.busySeqs_setSlot_idle rfl, Finset.mem_erase,
      accounted.busy isOpen, accounted.seqsExclusive.held_after_release owned]
  bounded := by
    obtain ⟨slot, found, -⟩ := PoolState.mem_busySeqs.mp
      ((accounted.busy isOpen seq).mpr ⟨thread, owned⟩)
    refine le_trans (le_of_eq ?_) accounted.bounded
    exact FiniteMap.size_insert_of_mem found _
  emptied := by
    intro isClosed
    simp [PoolState.setSlot, isOpen] at isClosed

theorem cleared (accounted : Accounted pool seqs transports)
    (isClosed : next.state.closed = true)
    (empty : next.state.connections = .empty)
    (sameSeq : next.nextSeq = pool.nextSeq)
    (sameTransports : next.transports = pool.transports) :
    Accounted next seqs transports where
  seqsExclusive := accounted.seqsExclusive
  transportsExclusive := accounted.transportsExclusive
  seqsIssued holds := sameSeq ▸ accounted.seqsIssued holds
  transportsIssued holds := sameTransports ▸ accounted.transportsIssued holds
  slotsIssued found := by simp [empty] at found
  idleIssued found := by simp [empty] at found
  idleDistinct found := by simp [empty] at found
  idleUnheld found := by simp [empty] at found
  busy isOpen := by simp [isClosed] at isOpen
  bounded := by simp [empty]
  emptied _ := empty

end Accounted

/-! Every step keeps the slots accounted for. -/

variable {thread : ℕ} {choice : Choice} {pool next : TransferPool}
variable {before after : Phase} {events : List Event}
variable {seqs transports : ℕ → Option ℕ}

theorem Move.accounted (move : Move thread choice pool before next after events)
    (accounted : Accounted pool seqs transports)
    (ownSeq : seqs thread = before.seq?)
    (ownTransport : transports thread = before.transport?) :
    Accounted next (Function.update seqs thread after.seq?)
      (Function.update transports thread after.transport?) := by
  have unmoved : before.seq? = after.seq? →
      Function.update seqs thread after.seq? = seqs := by
    intro same
    rw [← same, ← ownSeq, Function.update_eq_self]
  have unheld : before.transport? = after.transport? →
      Function.update transports thread after.transport? = transports := by
    intro same
    rw [← same, ← ownTransport, Function.update_eq_self]
  cases move with
  | called =>
      rw [unmoved rfl, unheld rfl]
      exact accounted.congr rfl rfl rfl rfl
  | refused isClosed =>
      rw [unmoved rfl, unheld rfl]
      exact accounted
  | queued isOpen blocked =>
      rw [unmoved rfl, unheld rfl]
      exact (accounted.turn choice).congr rfl rfl rfl rfl
  | reused isOpen admitted least idle =>
      exact (accounted.turn choice).reuse isOpen ownSeq idle
  | reserved isOpen admitted noIdle room =>
      rw [unheld rfl]
      exact (accounted.turn choice).reserve isOpen ownSeq room _
  | woken signaled kept =>
      rw [unmoved rfl, unheld rfl]
      exact accounted.congr rfl rfl rfl rfl
  | withdrawn signaled cancelled =>
      rw [unmoved rfl, unheld rfl]
      exact accounted.congr rfl rfl rfl rfl
  | connectedLate isClosed => exact accounted.remove ownSeq
  | connected isOpen success =>
      rw [unmoved rfl]
      exact accounted.connected thread
  | connectFailed isOpen failure =>
      exact (accounted.remove ownSeq).congr wakeNextWaiter_connections
        wakeNextWaiter_closed wakeNextWaiter_nextSeq wakeNextWaiter_transports
  | discarded useless =>
      exact (accounted.remove ownSeq).congr wakeNextWaiter_connections
        wakeNextWaiter_closed wakeNextWaiter_nextSeq wakeNextWaiter_transports
  | checkedIn isOpen healthy =>
      have ticked : Accounted (pool.tick choice) seqs transports :=
        accounted.congr rfl rfl rfl rfl
      apply (ticked.restock isOpen ownSeq ownTransport
        (pool.tick choice).clock).congr <;> simp
  | cancelledWaiter =>
      rw [unmoved rfl, unheld rfl]
      apply accounted.congr <;> simp
  | closed =>
      rw [unmoved rfl, unheld rfl, close_eq]
      exact accounted.cleared rfl rfl rfl rfl
  | reaperStarted spawned =>
      rw [unmoved rfl, unheld rfl]
      exact accounted.congr rfl rfl rfl rfl
  | reaperIdle useless =>
      rw [unmoved rfl, unheld rfl]
      exact accounted.congr rfl rfl rfl rfl
  | reaperScheduled isOpen next =>
      rw [unmoved rfl, unheld rfl]
      exact accounted.congr rfl rfl rfl rfl
  | reaperRefused due isClosed =>
      rw [unmoved rfl, unheld rfl]
      exact accounted.congr rfl rfl rfl rfl
  | reaperSwept due isOpen more =>
      rw [unmoved rfl, unheld rfl]
      exact accounted.turn choice
  | reaperDone due isOpen none =>
      rw [unmoved rfl, unheld rfl]
      exact (accounted.turn choice).congr rfl rfl rfl rfl

theorem Move.closed_mono
    (move : Move thread choice pool before next after events)
    (isClosed : pool.state.closed = true) : next.state.closed = true := by
  cases move with
  | closed => rw [close_eq]
  | _ => simpa [PoolState.removeSlot, PoolState.setSlot] using isClosed

/-- The slots of a configuration, with what its threads hold. -/
def Balanced (config : Config TransferPool Phase) : Prop :=
  Accounted config.shared (config.holdings Phase.seq?)
    (config.holdings Phase.transport?)

theorem balanced_initial (idleTimeout : ℕ) : Balanced (initial idleTimeout) :=
  Accounted.of_newCyclic idleTimeout

theorem balanced_step {config next : Config TransferPool Phase}
    {action : ThreadAction Phase Choice} (balanced : Balanced config)
    (stepped : program.machine.step config action = some (next, events)) :
    Balanced next := by
  rcases Program.machine_step_cases stepped with
    ⟨thread, start, -, free, admitted, rfl, -⟩ |
    ⟨thread, choice, current, shared, phase, -, running, moved, rfl⟩
  · have nothing : start.seq? = none ∧ start.transport? = none := by
      cases start <;> simp_all [program, Phase.seq?, Phase.transport?]
    unfold Balanced
    rw [Config.holdings_unchanged _ (by simp [Config.holdings, free, nothing.1]),
      Config.holdings_unchanged _ (by simp [Config.holdings, free, nothing.2])]
    exact balanced
  · unfold Balanced
    rw [Config.holdings_update _ config.shared,
      Config.holdings_update _ config.shared]
    exact (step_move moved).accounted balanced
      (Config.holdings_of_running running _)
      (Config.holdings_of_running running _)

theorem balanced {start config : Config TransferPool Phase}
    {actions : List (ThreadAction Phase Choice)} {log : List Event}
    (initially : Balanced start)
    (run : program.machine.Run start actions log config) : Balanced config :=
  run.always Balanced initially balanced_step

theorem closed_run {start config : Config TransferPool Phase}
    {actions : List (ThreadAction Phase Choice)} {log : List Event}
    (initially : start.shared.state.closed = true)
    (run : program.machine.Run start actions log config) :
    config.shared.state.closed = true := by
  refine run.always (fun config => config.shared.state.closed = true)
    initially ?_
  intro config action next events isClosed stepped
  rcases Program.machine_step_cases stepped with
    ⟨thread, start, -, -, -, rfl, -⟩ |
    ⟨thread, choice, current, shared, phase, -, -, moved, rfl⟩
  · exact isClosed
  · exact (step_move moved).closed_mono isClosed

theorem stepEntering_closed (thread : ℕ) (choice : Choice) (queueSeq : ℕ)
    (firstAttempt : Bool) (isClosed : pool.state.closed = true) :
    step thread choice pool (.entering queueSeq firstAttempt) =
      some (pool, .failed .closed, [.failed thread .closed]) := by
  simp [step, stepEntering, isClosed, fail]

/-- The slots of every reachable pool are those of the connections that are
being made, that are held, or that wait for a checkout; a closed pool stays
closed and empty, and turns every later entry away. -/
theorem slot_accounting {idleTimeout : ℕ}
    {config : Config TransferPool Phase}
    {actions : List (ThreadAction Phase Choice)} {log : List Event}
    (run : program.machine.Run (initial idleTimeout) actions log config) :
    (config.shared.state.closed = false →
      config.shared.state.connections.size ≤
        maxTransferConnectionsPerSession ∧
      (∀ seq, seq ∈ config.shared.state.busySeqs ↔
        ∃ thread, config.holdings Phase.seq? thread = some seq) ∧
      Exclusive (config.holdings Phase.seq?) ∧
      Exclusive (config.holdings Phase.transport?) ∧
      (∀ seq transport lastUsed thread,
        config.shared.state.connections.lookup seq =
            some ⟨some transport, lastUsed⟩ →
          config.holdings Phase.transport? thread ≠ some transport) ∧
      ∀ now, (config.shared.state.sweepExpiredLocked
        config.shared.idleTimeout now).busySeqs =
          config.shared.state.busySeqs) ∧
    (config.shared.state.closed = true →
      ∀ more late later, program.machine.Run config more late later →
        later.shared.state.closed = true ∧
        later.shared.state.connections = .empty ∧
        ∀ thread choice queueSeq firstAttempt,
          step thread choice later.shared (.entering queueSeq firstAttempt) =
            some (later.shared, .failed .closed, [.failed thread .closed])) := by
  have accounted := balanced (balanced_initial idleTimeout) run
  constructor
  · intro isOpen
    exact ⟨accounted.bounded, accounted.busy isOpen, accounted.seqsExclusive,
      accounted.transportsExclusive,
      fun _ _ _ _ found => accounted.idleUnheld found,
      fun _ => PoolState.busySeqs_sweep⟩
  · intro isClosed more late later remaining
    have stillClosed := closed_run isClosed remaining
    exact ⟨stillClosed, (balanced accounted remaining).emptied stillClosed,
      fun thread choice queueSeq firstAttempt =>
        stepEntering_closed thread choice queueSeq firstAttempt stillClosed⟩

/-- One checkout holds a connection and another has given its own back. -/
def handoverRun : List (ThreadAction Phase Choice) :=
  [.spawn 0 (.checkout 0), .advance 0 {}, .advance 0 {}, .advance 0 {},
    .spawn 1 (.checkout 1), .advance 1 {}, .advance 1 {}, .advance 1 {},
    .advance 0 {}]

theorem slot_accounting_handover :
    ∃ config log later late,
      program.machine.Run (initial transferIdleTimeout) handoverRun log config ∧
      (∀ seq, seq ∈ config.shared.state.busySeqs ↔
        ∃ thread, config.holdings Phase.seq? thread = some seq) ∧
      program.machine.Run config [.spawn 2 .close, .advance 2 {}] late later ∧
      later.shared.state.connections = .empty := by
  have executed : ∃ config log later late,
      program.machine.Run (initial transferIdleTimeout) handoverRun log config ∧
      config.shared.state.closed = false ∧
      program.machine.Run config [.spawn 2 .close, .advance 2 {}] late later ∧
      later.shared.state.closed = true :=
    ⟨_, _, _, _, Machine.run_of_execute rfl, rfl, Machine.run_of_execute rfl,
      rfl⟩
  obtain ⟨config, log, later, late, run, isOpen, remaining, isClosed⟩ := executed
  refine ⟨config, log, later, late, run,
    ((slot_accounting run).1 isOpen).2.1, remaining, ?_⟩
  exact ((slot_accounting (run.trans remaining)).2 isClosed _ _ _ .refl).2.1

end TransferPool

end TitanSSH
