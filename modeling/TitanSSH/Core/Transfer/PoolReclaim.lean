import TitanSSH.Core.Transfer.PoolAccounting

namespace TitanSSH

/-! Which connections are given up for their idleness, and who sees to it. -/

namespace PoolState

variable {state after : PoolState} {seq base lastUsed idleTimeout now : ℕ}

/-- An idle slot, and a slot of a smaller number beside it. -/
def IdleExtra (state : PoolState) (seq lastUsed : ℕ) : Prop :=
  (∃ transport, state.connections.lookup seq =
    some ⟨some transport, lastUsed⟩) ∧
  ∃ other ∈ state.connections, other < seq

theorem baseSeq_eq_some :
    state.baseSeq = some base ↔
      base ∈ state.connections ∧
        ∀ other ∈ state.connections, base ≤ other := by
  have everyKey : ∀ key, key ∈ state.connections.keysWhere (fun _ _ => true) ↔
      key ∈ state.connections := by
    intro key
    simp [FiniteMap.mem_iff]
  unfold baseSeq FiniteMap.first?
  rw [FiniteMap.least?_eq_some]
  simp only [everyKey]

theorem baseSeq_eq_none (none : state.baseSeq = none) (key : ℕ) :
    key ∉ state.connections := by
  intro member
  obtain ⟨slot, found⟩ := FiniteMap.mem_iff.mp member
  have empty := FiniteMap.first?_eq_none.mp none
  have listed : key ∈ state.connections.keysWhere fun _ _ => true :=
    FiniteMap.mem_keysWhere.mpr ⟨slot, found, rfl⟩
  rw [empty] at listed
  cases listed

theorem ne_base_iff (least : state.baseSeq = some base)
    (member : seq ∈ state.connections) :
    seq ≠ base ↔ ∃ other ∈ state.connections, other < seq := by
  obtain ⟨present, below⟩ := baseSeq_eq_some.mp least
  constructor
  · intro different
    exact ⟨base, present, lt_of_le_of_ne (below seq member) different.symm⟩
  · rintro ⟨other, otherMember, smaller⟩ rfl
    exact absurd (below other otherMember) smaller.not_ge

theorem idleExtra_iff (least : state.baseSeq = some base) :
    state.IdleExtra seq lastUsed ↔
      ∃ slot, state.connections.lookup seq = some slot ∧ seq ≠ base ∧
        slot.transport.isSome = true ∧ slot.lastUsed = lastUsed := by
  constructor
  · rintro ⟨⟨transport, found⟩, smaller⟩
    have member := FiniteMap.mem_iff.mpr ⟨_, found⟩
    exact ⟨_, found, (ne_base_iff least member).mpr smaller, rfl, rfl⟩
  · rintro ⟨⟨transport, _⟩, found, different, idle, rfl⟩
    obtain ⟨transport, rfl⟩ := Option.isSome_iff_exists.mp idle
    have member := FiniteMap.mem_iff.mpr ⟨_, found⟩
    exact ⟨⟨transport, found⟩, (ne_base_iff least member).mp different⟩

theorem IdleExtra.mem (extra : state.IdleExtra seq lastUsed) :
    seq ∈ state.connections := by
  obtain ⟨⟨transport, found⟩, -⟩ := extra
  exact FiniteMap.mem_iff.mpr ⟨_, found⟩

theorem hasIdleExtra_iff :
    state.hasIdleExtra = true ↔ ∃ seq lastUsed, state.IdleExtra seq lastUsed := by
  unfold hasIdleExtra
  cases least : state.baseSeq with
  | none =>
      constructor
      · nofun
      · rintro ⟨seq, lastUsed, extra⟩
        exact absurd extra.mem (baseSeq_eq_none least seq)
  | some base =>
      simp only [FiniteMap.any_eq_true, idleExtra_iff least, Bool.and_eq_true,
        bne_iff_ne]
      constructor
      · rintro ⟨seq, slot, found, different, idle⟩
        exact ⟨seq, slot.lastUsed, slot, found, different, idle, rfl⟩
      · rintro ⟨seq, lastUsed, slot, found, different, idle, -⟩
        exact ⟨seq, slot, found, different, idle⟩

theorem mem_expired :
    seq ∈ state.expired idleTimeout now ↔
      ∃ lastUsed, state.IdleExtra seq lastUsed ∧
        idleTimeout ≤ now - lastUsed := by
  unfold expired
  cases least : state.baseSeq with
  | none =>
      constructor
      · nofun
      · rintro ⟨lastUsed, extra, -⟩
        exact absurd extra.mem (baseSeq_eq_none least seq)
  | some base =>
      simp only [FiniteMap.mem_keysWhere, idleExtra_iff least, Bool.and_eq_true,
        bne_iff_ne, isIdleExpired, decide_eq_true_eq]
      constructor
      · rintro ⟨slot, found, ⟨different, idle⟩, late⟩
        exact ⟨slot.lastUsed, ⟨slot, found, different, idle, rfl⟩, late⟩
      · rintro ⟨lastUsed, ⟨slot, found, different, idle, rfl⟩, late⟩
        exact ⟨slot, found, ⟨different, idle⟩, late⟩

theorem earliestIdleExpiry_eq_none
    (none : state.earliestIdleExpiry idleTimeout = none) :
    state.hasIdleExtra = false := by
  rw [Bool.eq_false_iff]
  intro extra
  obtain ⟨seq, lastUsed, extra⟩ := hasIdleExtra_iff.mp extra
  unfold earliestIdleExpiry at none
  cases least : state.baseSeq with
  | none => exact baseSeq_eq_none least seq extra.mem
  | some base =>
      obtain ⟨slot, found, different, idle, rfl⟩ := (idleExtra_iff least).mp extra
      simp only [least, FiniteMap.least?_eq_none] at none
      have collected : slot.lastUsed + idleTimeout ∈
          (state.connections.collect fun seq slot =>
            if seq ≠ base ∧ slot.transport.isSome then
              some (slot.lastUsed + idleTimeout)
            else Option.none) :=
        FiniteMap.mem_collect.mpr
          ⟨seq, slot, found, if_pos ⟨different, idle⟩⟩
      rw [none] at collected
      cases collected

theorem hasIdleExtra_mono
    (idle : ∀ seq transport lastUsed,
      after.connections.lookup seq = some ⟨some transport, lastUsed⟩ →
      state.connections.lookup seq = some ⟨some transport, lastUsed⟩ ∧
      ∀ other ∈ after.connections, other < seq → other ∈ state.connections)
    (extra : after.hasIdleExtra = true) : state.hasIdleExtra = true := by
  obtain ⟨seq, lastUsed, ⟨transport, found⟩, other, member, smaller⟩ :=
    hasIdleExtra_iff.mp extra
  obtain ⟨before, kept⟩ := idle seq transport lastUsed found
  exact hasIdleExtra_iff.mpr
    ⟨seq, lastUsed, ⟨transport, before⟩, other, kept other member smaller,
      smaller⟩

theorem mem_sweep {now : ℕ} :
    seq ∈ (state.sweepExpiredLocked idleTimeout now).connections ↔
      seq ∈ state.connections ∧ seq ∉ state.expired idleTimeout now := by
  simp only [FiniteMap.mem_iff, sweepExpiredLocked,
    FiniteMap.lookup_retain_eq_some, decide_eq_true_eq, exists_and_right]

theorem mem_setSlot {slot : ConnectionSlot} {other : ℕ} :
    other ∈ (state.setSlot seq slot).connections ↔
      other = seq ∨ other ∈ state.connections := by
  rw [FiniteMap.mem_iff, FiniteMap.mem_iff, lookup_setSlot]
  split <;> simp_all

theorem mem_removeSlot {other : ℕ} :
    other ∈ (state.removeSlot seq).connections ↔
      other ≠ seq ∧ other ∈ state.connections := by
  simp only [FiniteMap.mem_iff, removeSlot, FiniteMap.lookup_erase_eq_some,
    exists_and_left]

end PoolState

namespace TransferPool

open Interleaving

variable {thread : ℕ} {choice : Choice} {pool next : TransferPool}
variable {before after : Phase} {events log : List Event}
variable {seq transport lastUsed idleTimeout : ℕ}

/-! What one step does to the idle slots. -/

theorem Move.same_timeout
    (move : Move thread choice pool before next after events) :
    next.idleTimeout = pool.idleTimeout := by
  have woken : ∀ pool : TransferPool,
      pool.wakeNextWaiter.idleTimeout = pool.idleTimeout := by
    intro pool
    unfold wakeNextWaiter
    split <;> rfl
  have reaped : ∀ pool : TransferPool,
      pool.ensureReaperLocked.idleTimeout = pool.idleTimeout := by
    intro pool
    unfold ensureReaperLocked
    split <;> rfl
  cases move with
  | connectFailed isOpen failure => exact woken _
  | discarded useless => exact woken _
  | checkedIn isOpen healthy => exact (reaped _).trans (woken _)
  | cancelledWaiter =>
      unfold cancelWaiter
      split <;> rfl
  | closed => rw [close_eq]
  | _ => rfl

@[simp] theorem wakeNextWaiter_clock : pool.wakeNextWaiter.clock = pool.clock := by
  unfold wakeNextWaiter
  split <;> rfl

@[simp] theorem ensureReaperLocked_clock :
    pool.ensureReaperLocked.clock = pool.clock := by
  unfold ensureReaperLocked
  split <;> rfl

theorem Move.clock_le
    (move : Move thread choice pool before next after events) :
    pool.clock ≤ next.clock := by
  cases move with
  | connectFailed isOpen failure => simp
  | discarded useless => simp
  | checkedIn isOpen healthy => simp [tick]
  | cancelledWaiter =>
      unfold cancelWaiter
      split <;> exact Nat.le_refl _
  | closed => rw [close_eq]
  | _ => first | exact Nat.le_refl _ | exact Nat.le_add_right _ _

/-- The event returns a connection to the slot, or drops the slot for it. -/
def Event.Returns (seq : ℕ) : Event → Prop
  | .checkedIn _ checkout _ => checkout.seq = seq
  | _ => False

/-- An idle slot was idle before, or has just been given back. -/
theorem Move.idle_origin
    (move : Move thread choice pool before next after events)
    (idle : next.state.connections.lookup seq =
      some ⟨some transport, lastUsed⟩) :
    (pool.state.connections.lookup seq = some ⟨some transport, lastUsed⟩ ∧
      ∀ event ∈ events, ¬ event.Returns seq) ∨
    (events = [.checkedIn thread ⟨seq, transport⟩ true] ∧
      next.clock = lastUsed) := by
  have swept : (pool.turn choice).state.connections.lookup seq =
      some ⟨some transport, lastUsed⟩ →
      pool.state.connections.lookup seq = some ⟨some transport, lastUsed⟩ :=
    PoolState.lookup_of_swept
  cases move with
  | queued isOpen blocked =>
      exact .inl ⟨swept idle, by simp [sweepEvent, Event.Returns]⟩
  | reused isOpen admitted least found =>
      rw [PoolState.lookup_setSlot] at idle
      split at idle
      · cases idle
      · exact .inl ⟨swept idle, by simp [sweepEvent, Event.Returns]⟩
  | reserved isOpen admitted noIdle room =>
      rw [PoolState.lookup_setSlot] at idle
      split at idle
      · cases idle
      · exact .inl ⟨swept idle, by simp [sweepEvent, Event.Returns]⟩
  | connectedLate isClosed =>
      exact .inl ⟨(PoolState.lookup_of_removed idle).2, by simp [Event.Returns]⟩
  | connectFailed isOpen failure =>
      rw [wakeNextWaiter_connections] at idle
      exact .inl ⟨(PoolState.lookup_of_removed idle).2, by simp [Event.Returns]⟩
  | @discarded checkout useless =>
      rw [wakeNextWaiter_connections] at idle
      obtain ⟨different, found⟩ := PoolState.lookup_of_removed idle
      exact .inl ⟨found, by simpa [Event.Returns] using different.symm⟩
  | @checkedIn checkout isOpen healthy =>
      rw [ensureReaperLocked_connections, wakeNextWaiter_connections] at idle
      change (pool.state.setSlot checkout.seq _).connections.lookup seq = _ at idle
      rw [PoolState.lookup_setSlot] at idle
      split at idle
      · next same =>
          obtain ⟨other, carried⟩ := checkout
          obtain rfl : seq = other := same
          simp only [Option.some.injEq, ConnectionSlot.mk.injEq] at idle
          obtain ⟨rfl, rfl⟩ := idle
          exact .inr ⟨by rw [healthy], by simp⟩
      · next different =>
          exact .inl ⟨idle, by simpa [Event.Returns] using Ne.symm different⟩
  | cancelledWaiter =>
      rw [cancelWaiter_connections] at idle
      exact .inl ⟨idle, by simp⟩
  | closed =>
      rw [close_eq] at idle
      cases idle
  | reaperSwept due isOpen more =>
      exact .inl ⟨swept idle, by simp [sweepEvent, Event.Returns]⟩
  | reaperDone due isOpen none =>
      exact .inl ⟨swept idle, by simp [sweepEvent, Event.Returns]⟩
  | _ => exact .inl ⟨idle, by simp [Event.Returns]⟩

/-- A sweep takes the expired idle extras, and no other slot goes with them. -/
theorem Move.swept
    (move : Move thread choice pool before next after events)
    (issued : ∀ seq ∈ pool.state.connections, seq < pool.nextSeq)
    {removed : Finset ℕ} {now : ℕ} (sweeps : .swept removed now ∈ events) :
    now = next.clock ∧ removed = pool.state.expired pool.idleTimeout now ∧
      ∀ seq ∈ pool.state.connections,
        seq ∈ next.state.connections ↔ seq ∉ removed := by
  have turned : ∀ seq ∈ pool.state.connections,
      seq ∈ (pool.turn choice).state.connections ↔
        seq ∉ pool.state.expired pool.idleTimeout (pool.tick choice).clock :=
    fun seq member => PoolState.mem_sweep.trans (and_iff_right member)
  cases move with
  | queued isOpen blocked =>
      simp only [sweepEvent, List.mem_cons, Event.swept.injEq, reduceCtorEq,
        List.not_mem_nil, or_false] at sweeps
      obtain ⟨rfl, rfl⟩ := sweeps
      exact ⟨rfl, rfl, turned⟩
  | reused isOpen admitted least found =>
      simp only [sweepEvent, List.mem_cons, Event.swept.injEq, reduceCtorEq,
        List.not_mem_nil, or_false] at sweeps
      obtain ⟨rfl, rfl⟩ := sweeps
      refine ⟨rfl, rfl, fun seq member => PoolState.mem_setSlot.trans ?_⟩
      refine (or_iff_right_of_imp ?_).trans (turned seq member)
      rintro rfl
      exact FiniteMap.mem_iff.mpr ⟨_, found⟩
  | reserved isOpen admitted noIdle room =>
      simp only [sweepEvent, List.mem_cons, Event.swept.injEq, reduceCtorEq,
        List.not_mem_nil, or_false] at sweeps
      obtain ⟨rfl, rfl⟩ := sweeps
      refine ⟨rfl, rfl, fun seq member => PoolState.mem_setSlot.trans ?_⟩
      exact (or_iff_right (issued seq member).ne).trans (turned seq member)
  | reaperSwept due isOpen more =>
      simp only [sweepEvent, List.mem_singleton, Event.swept.injEq] at sweeps
      obtain ⟨rfl, rfl⟩ := sweeps
      exact ⟨rfl, rfl, turned⟩
  | reaperDone due isOpen none =>
      simp only [sweepEvent, List.mem_singleton, Event.swept.injEq] at sweeps
      obtain ⟨rfl, rfl⟩ := sweeps
      exact ⟨rfl, rfl, turned⟩
  | _ => simp at sweeps

/-- While the pool is open, an idle slot is lost to a sweep only. -/
theorem Move.lost
    (move : Move thread choice pool before next after events)
    (stillOpen : next.state.closed = false)
    (busy : pool.state.closed = false → ∀ seq, before.seq? = some seq →
      seq ∈ pool.state.busySeqs)
    (idle : pool.state.connections.lookup seq =
      some ⟨some transport, lastUsed⟩)
    (gone : seq ∉ next.state.connections) :
    ∃ removed now, .swept removed now ∈ events := by
  have present := FiniteMap.mem_iff.mpr ⟨_, idle⟩
  have unheld : pool.state.closed = false → before.seq? ≠ some seq := by
    intro isOpen holds
    obtain ⟨slot, found, none⟩ :=
      PoolState.mem_busySeqs.mp (busy isOpen seq holds)
    obtain rfl := Option.some.inj (idle.symm.trans found)
    cases none
  cases move with
  | queued isOpen blocked => exact ⟨_, _, List.mem_cons_self⟩
  | reused isOpen admitted least found => exact ⟨_, _, List.mem_cons_self⟩
  | reserved isOpen admitted noIdle room => exact ⟨_, _, List.mem_cons_self⟩
  | reaperSwept due isOpen more => exact ⟨_, _, List.mem_cons_self⟩
  | reaperDone due isOpen none => exact ⟨_, _, List.mem_cons_self⟩
  | connectedLate isClosed =>
      change pool.state.closed = false at stillOpen
      rw [isClosed] at stillOpen
      cases stillOpen
  | connectFailed isOpen failure =>
      rw [wakeNextWaiter_connections, PoolState.mem_removeSlot, not_and_or]
        at gone
      refine absurd present (gone.resolve_left fun same => ?_)
      exact unheld isOpen (congrArg some (not_not.mp same).symm)
  | discarded useless =>
      rw [wakeNextWaiter_closed] at stillOpen
      rw [wakeNextWaiter_connections, PoolState.mem_removeSlot, not_and_or]
        at gone
      refine absurd present (gone.resolve_left fun same => ?_)
      exact unheld stillOpen (congrArg some (not_not.mp same).symm)
  | checkedIn isOpen healthy =>
      rw [ensureReaperLocked_connections, wakeNextWaiter_connections] at gone
      exact absurd (PoolState.mem_setSlot.mpr (.inr present)) gone
  | cancelledWaiter =>
      rw [cancelWaiter_connections] at gone
      exact absurd present gone
  | closed => simp [close_eq] at stillOpen
  | _ => exact absurd present gone

/-! The reaper. -/

@[simp] theorem wakeNextWaiter_reaperRunning :
    pool.wakeNextWaiter.state.reaperRunning = pool.state.reaperRunning := by
  unfold wakeNextWaiter
  split <;> rfl

@[simp] theorem wakeNextWaiter_reapers :
    pool.wakeNextWaiter.reapers = pool.reapers := by
  unfold wakeNextWaiter
  split <;> rfl

theorem hasIdleExtra_congr {state other : PoolState}
    (same : state.connections = other.connections) :
    state.hasIdleExtra = other.hasIdleExtra := by
  unfold PoolState.hasIdleExtra PoolState.baseSeq
  rw [same]

theorem ensureReaperLocked_covers
    (extra : pool.ensureReaperLocked.state.hasIdleExtra = true) :
    pool.ensureReaperLocked.state.reaperRunning = true := by
  rw [hasIdleExtra_congr ensureReaperLocked_connections] at extra
  unfold ensureReaperLocked
  split
  · next settled => simpa [extra] using settled
  · rfl

theorem turn_hasIdleExtra
    (extra : (pool.turn choice).state.hasIdleExtra = true) :
    pool.state.hasIdleExtra = true := by
  refine PoolState.hasIdleExtra_mono ?_ extra
  intro seq transport lastUsed found
  exact ⟨PoolState.lookup_of_swept found, fun other member _ =>
    (PoolState.mem_sweep.mp member).1⟩

theorem removeSlot_hasIdleExtra {state : PoolState}
    (extra : (state.removeSlot seq).hasIdleExtra = true) :
    state.hasIdleExtra = true := by
  refine PoolState.hasIdleExtra_mono ?_ extra
  intro other transport lastUsed found
  exact ⟨(PoolState.lookup_of_removed found).2, fun another member _ =>
    (PoolState.mem_removeSlot.mp member).2⟩

/-- To make a slot busy makes no other slot an idle extra, unless it is new and
the smallest. -/
theorem setSlot_hasIdleExtra {state : PoolState} {slot : ConnectionSlot}
    (busy : slot.transport = none)
    (known : seq ∈ state.connections ∨ ∀ other ∈ state.connections, other < seq)
    (extra : (state.setSlot seq slot).hasIdleExtra = true) :
    state.hasIdleExtra = true := by
  refine PoolState.hasIdleExtra_mono ?_ extra
  intro other transport lastUsed found
  rw [PoolState.lookup_setSlot] at found
  split at found
  · obtain rfl := Option.some.inj found
    cases busy
  · refine ⟨found, fun another member smaller => ?_⟩
    cases PoolState.mem_setSlot.mp member with
    | inl same =>
        cases known with
        | inl present => exact same ▸ present
        | inr greatest =>
            have below := greatest other (FiniteMap.mem_iff.mpr ⟨_, found⟩)
            omega
    | inr present => exact present

/-- An open pool with an idle extra has its reaper running. -/
def Reaped (pool : TransferPool) : Prop :=
  pool.state.closed = false → pool.state.hasIdleExtra = true →
    pool.state.reaperRunning = true

theorem Move.reaped
    (move : Move thread choice pool before next after events)
    (issued : ∀ seq ∈ pool.state.connections, seq < pool.nextSeq)
    (covered : pool.Reaped) : next.Reaped := by
  intro stillOpen extra
  cases move with
  | queued isOpen blocked => exact covered isOpen (turn_hasIdleExtra extra)
  | reused isOpen admitted least found =>
      refine covered isOpen (turn_hasIdleExtra (setSlot_hasIdleExtra rfl ?_ extra))
      exact .inl (FiniteMap.mem_iff.mpr ⟨_, found⟩)
  | reserved isOpen admitted noIdle room =>
      refine covered isOpen (turn_hasIdleExtra (setSlot_hasIdleExtra rfl ?_ extra))
      exact .inr fun other member => issued other (PoolState.mem_sweep.mp member).1
  | connectedLate isClosed =>
      change pool.state.closed = false at stillOpen
      rw [isClosed] at stillOpen
      cases stillOpen
  | connectFailed isOpen failure =>
      rw [hasIdleExtra_congr wakeNextWaiter_connections] at extra
      rw [wakeNextWaiter_reaperRunning]
      exact covered isOpen (removeSlot_hasIdleExtra extra)
  | discarded useless =>
      rw [wakeNextWaiter_closed] at stillOpen
      rw [hasIdleExtra_congr wakeNextWaiter_connections] at extra
      rw [wakeNextWaiter_reaperRunning]
      exact covered stillOpen (removeSlot_hasIdleExtra extra)
  | checkedIn isOpen healthy => exact ensureReaperLocked_covers extra
  | @cancelledWaiter queueSeq =>
      rw [cancelWaiter_closed] at stillOpen
      rw [hasIdleExtra_congr (cancelWaiter_connections queueSeq)] at extra
      have running := covered stillOpen extra
      unfold cancelWaiter
      split <;> exact running
  | closed => simp [close_eq] at stillOpen
  | reaperIdle useless =>
      cases useless with
      | inl isClosed =>
          change pool.state.closed = false at stillOpen
          rw [isClosed] at stillOpen
          cases stillOpen
      | inr none =>
          have nothing := PoolState.earliestIdleExpiry_eq_none none
          change pool.state.hasIdleExtra = true at extra
          rw [nothing] at extra
          cases extra
  | reaperRefused due isClosed =>
      change pool.state.closed = false at stillOpen
      rw [isClosed] at stillOpen
      cases stillOpen
  | reaperSwept due isOpen more => exact covered isOpen (turn_hasIdleExtra more)
  | reaperDone due isOpen none =>
      change (pool.turn choice).state.hasIdleExtra = true at extra
      rw [none] at extra
      cases extra
  | _ => exact covered stillOpen extra

/-- The thread runs `reaper_loop`. -/
def Phase.reaping : Phase → Bool
  | .reaperChecking | .reaperSleeping _ => true
  | _ => false

/-- How a step bears on the reaper: not at all, or it spawns it, starts it or
stops it. -/
inductive Reaping (pool next : TransferPool) : Bool → Bool → Prop
  | kept {reaps : Bool} (reapers : next.reapers = pool.reapers)
      (running : next.state.reaperRunning = pool.state.reaperRunning) :
      Reaping pool next reaps reaps
  | spawned (idle : pool.state.reaperRunning = false)
      (reapers : next.reapers = pool.reapers + 1)
      (running : next.state.reaperRunning = true) :
      Reaping pool next false false
  | started (reapers : pool.reapers = next.reapers + 1)
      (running : next.state.reaperRunning = pool.state.reaperRunning) :
      Reaping pool next false true
  | stopped (reapers : next.reapers = pool.reapers)
      (running : next.state.reaperRunning = false) :
      Reaping pool next true false

theorem ensureReaperLocked_reaping (pool : TransferPool) :
    Reaping pool pool.ensureReaperLocked false false := by
  unfold ensureReaperLocked
  split
  · exact .kept rfl rfl
  · next needed =>
      rw [Bool.not_eq_true, Bool.or_eq_false_iff] at needed
      exact .spawned needed.1 rfl rfl

theorem Move.reaping
    (move : Move thread choice pool before next after events) :
    Reaping pool next before.reaping after.reaping := by
  cases move with
  | connectFailed isOpen failure => exact .kept (by simp) (by simp [PoolState.removeSlot])
  | discarded useless => exact .kept (by simp) (by simp [PoolState.removeSlot])
  | @checkedIn checkout isOpen healthy =>
      have reaping := ensureReaperLocked_reaping
        ({ pool.tick choice with
            state := pool.state.setSlot checkout.seq
              ⟨some checkout.transport, (pool.tick choice).clock⟩ } :
          TransferPool).wakeNextWaiter
      cases reaping with
      | kept reapers running =>
          exact .kept (reapers.trans (by simp [tick]))
            (running.trans (by simp [PoolState.setSlot]))
      | spawned idle reapers running =>
          refine .spawned ?_ (reapers.trans (by simp [tick])) running
          simpa [PoolState.setSlot] using idle
  | cancelledWaiter =>
      unfold cancelWaiter
      split <;> exact .kept rfl rfl
  | closed => exact .kept (by rw [close_eq]) (by rw [close_eq])
  | reaperStarted spawned => exact .started (Nat.succ_pred spawned).symm rfl
  | reaperIdle useless => exact .stopped rfl rfl
  | reaperRefused due isClosed => exact .stopped rfl rfl
  | reaperDone due isOpen none => exact .stopped rfl rfl
  | _ => exact .kept rfl rfl

/-- The threads of a configuration that run `reaper_loop`. -/
def reaperThreads (threads : ℕ → Option Phase) : Set ℕ :=
  {thread | ∃ phase, threads thread = some phase ∧ phase.reaping = true}

theorem reaperThreads_update (threads : ℕ → Option Phase) (thread : ℕ)
    (phase : Phase) :
    reaperThreads (Function.update threads thread (some phase)) =
      if phase.reaping then insert thread (reaperThreads threads)
      else reaperThreads threads \ {thread} := by
  ext other
  rcases eq_or_ne other thread with rfl | different
  · simp only [reaperThreads, Set.mem_ofPred_eq, Function.update_self,
      Option.some.injEq, exists_eq_left']
    split <;> simp_all
  · simp only [reaperThreads, Set.mem_ofPred_eq,
      Function.update_of_ne different]
    split <;> simp [different]

/-- The one reaper there is: spawned and not yet started, or a thread. -/
def Sole (reapers : ℕ) (threads : Set ℕ) : Prop :=
  (reapers = 1 ∧ threads = ∅) ∨ (reapers = 0 ∧ ∃ thread, threads = {thread})

/-- The flag tells whether there is a reaper, and there is never a second one. -/
structure Attended (pool : TransferPool) (threads : Set ℕ) : Prop where
  running : pool.state.reaperRunning = true → Sole pool.reapers threads
  stopped : pool.state.reaperRunning = false →
    pool.reapers = 0 ∧ threads = ∅

theorem Attended.of_thread {threads : Set ℕ} (attended : Attended pool threads)
    (reaps : thread ∈ threads) :
    pool.state.reaperRunning = true ∧ pool.reapers = 0 ∧ threads = {thread} := by
  cases running : pool.state.reaperRunning with
  | false =>
      rw [(attended.stopped running).2] at reaps
      cases reaps
  | true =>
      rcases attended.running running with ⟨-, none⟩ | ⟨waiting, only, rfl⟩
      · rw [none] at reaps
        cases reaps
      · rw [Set.mem_singleton_iff.mp reaps]
        exact ⟨rfl, waiting, rfl⟩

theorem Attended.step {threads : ℕ → Option Phase}
    (attended : Attended pool (reaperThreads threads))
    (current : threads thread = some before)
    (reaping : Reaping pool next before.reaping after.reaping) :
    Attended next
      (reaperThreads (Function.update threads thread (some after))) := by
  have own : thread ∈ reaperThreads threads ↔ before.reaping = true := by
    simp [reaperThreads, current]
  rw [reaperThreads_update]
  generalize before.reaping = reaped at reaping own
  generalize after.reaping = reaps at reaping
  cases reaping with
  | kept reapers running =>
      have same : (if reaped = true then insert thread (reaperThreads threads)
          else reaperThreads threads \ {thread}) = reaperThreads threads := by
        split
        · next holds => exact Set.insert_eq_of_mem (own.mpr holds)
        · next idle =>
            refine Set.sdiff_singleton_eq_self ?_
            rw [own]
            exact idle
      rw [same]
      refine ⟨fun holds => ?_, fun holds => ?_⟩
      · rw [reapers]
        exact attended.running (running ▸ holds)
      · rw [reapers]
        exact attended.stopped (running ▸ holds)
  | spawned idle reapers running =>
      obtain ⟨none, empty⟩ := attended.stopped idle
      refine ⟨fun _ => .inl ⟨by omega, ?_⟩, fun holds => ?_⟩
      · rw [if_neg Bool.false_ne_true, empty, Set.empty_sdiff]
      · rw [running] at holds
        cases holds
  | started reapers running =>
      have flag : pool.state.reaperRunning = true := by
        by_contra idle
        have none := (attended.stopped (Bool.eq_false_iff.mpr idle)).1
        omega
      refine ⟨fun _ => ?_, fun holds => ?_⟩
      · rcases attended.running flag with ⟨waiting, empty⟩ | ⟨none, -⟩
        · refine .inr ⟨by omega, thread, ?_⟩
          rw [if_pos rfl, empty, insert_empty_eq]
        · omega
      · rw [running, flag] at holds
        cases holds
  | stopped reapers running =>
      obtain ⟨-, none, single⟩ := attended.of_thread (own.mpr rfl)
      refine ⟨fun holds => ?_, fun _ => ⟨reapers.trans none, ?_⟩⟩
      · rw [running] at holds
        cases holds
      · rw [if_neg Bool.false_ne_true, single, Set.sdiff_self]

/-- What holds of a pool and of the threads around it in every run. -/
structure Reclaims (idleTimeout : ℕ) (config : Config TransferPool Phase) :
    Prop where
  balanced : Balanced config
  reaped : config.shared.Reaped
  attended : Attended config.shared (reaperThreads config.threads)
  timeout : config.shared.idleTimeout = idleTimeout

theorem Balanced.issued {config : Config TransferPool Phase}
    (balanced : Balanced config) :
    ∀ seq ∈ config.shared.state.connections, seq < config.shared.nextSeq := by
  intro seq member
  obtain ⟨slot, found⟩ := FiniteMap.mem_iff.mp member
  exact Accounted.slotsIssued balanced found

theorem Balanced.held {config : Config TransferPool Phase}
    (balanced : Balanced config)
    (running : config.threads thread = some before) :
    config.shared.state.closed = false → ∀ seq, before.seq? = some seq →
      seq ∈ config.shared.state.busySeqs := by
  intro isOpen seq holds
  exact (Accounted.busy balanced isOpen seq).mpr
    ⟨thread, (Config.holdings_of_running running Phase.seq?).trans holds⟩

theorem Reclaims.step {config final : Config TransferPool Phase}
    {action : ThreadAction Phase Choice}
    (reclaims : Reclaims idleTimeout config)
    (stepped : program.machine.step config action = some (final, events)) :
    Reclaims idleTimeout final := by
  have balanced := balanced_step reclaims.balanced stepped
  rcases Program.machine_step_cases stepped with
    ⟨thread, start, -, free, admitted, rfl, rfl⟩ |
    ⟨thread, choice, current, shared, after, -, running, moved, rfl⟩
  · refine ⟨balanced, reclaims.reaped, ?_, reclaims.timeout⟩
    have idle : start.reaping = false := by
      cases start <;> first | rfl | simp [program] at admitted
    have absent : thread ∉ reaperThreads config.threads := by
      rintro ⟨phase, found, -⟩
      rw [free] at found
      cases found
    rw [reaperThreads_update, idle, if_neg Bool.false_ne_true,
      Set.sdiff_singleton_eq_self absent]
    exact reclaims.attended
  · have move := step_move moved
    exact ⟨balanced, move.reaped reclaims.balanced.issued reclaims.reaped,
      reclaims.attended.step running move.reaping,
      move.same_timeout.trans reclaims.timeout⟩

theorem initial_reclaims (idleTimeout : ℕ) :
    Reclaims idleTimeout (initial idleTimeout) where
  balanced := balanced_initial idleTimeout
  reaped := by
    intro _ extra
    obtain ⟨seq, lastUsed, idle⟩ := PoolState.hasIdleExtra_iff.mp extra
    obtain ⟨⟨transport, found⟩, -⟩ := idle
    cases found
  attended := by
    refine ⟨nofun, fun _ => ⟨rfl, ?_⟩⟩
    rw [Set.eq_empty_iff_forall_notMem]
    rintro thread ⟨phase, found, -⟩
    cases found
  timeout := rfl

theorem reclaims {config : Config TransferPool Phase}
    {actions : List (ThreadAction Phase Choice)}
    (run : program.machine.Run (initial idleTimeout) actions log config) :
    Reclaims idleTimeout config :=
  run.always (Reclaims idleTimeout) (initial_reclaims idleTimeout) Reclaims.step

/-- A sweep takes what has expired, and nothing else leaves the pool with it. -/
theorem Reclaims.swept {config final : Config TransferPool Phase}
    {action : ThreadAction Phase Choice} {removed : Finset ℕ} {now : ℕ}
    (reclaims : Reclaims idleTimeout config)
    (stepped : program.machine.step config action = some (final, events))
    (swept : .swept removed now ∈ events) :
    now = final.shared.clock ∧
    removed = config.shared.state.expired idleTimeout now ∧
    ∀ seq ∈ config.shared.state.connections,
      seq ∈ final.shared.state.connections ↔ seq ∉ removed := by
  rcases Program.machine_step_cases stepped with
    ⟨thread, start, -, free, admitted, rfl, rfl⟩ |
    ⟨thread, choice, current, shared, after, -, running, moved, rfl⟩
  · cases start <;> simp [program] at swept
  · rw [← reclaims.timeout]
    exact (step_move moved).swept reclaims.balanced.issued swept

theorem Reclaims.lost {config final : Config TransferPool Phase}
    {action : ThreadAction Phase Choice} {transport lastUsed : ℕ}
    (reclaims : Reclaims idleTimeout config)
    (stepped : program.machine.step config action = some (final, events))
    (stillOpen : final.shared.state.closed = false)
    (idle : config.shared.state.connections.lookup seq =
      some ⟨some transport, lastUsed⟩)
    (gone : seq ∉ final.shared.state.connections) :
    ∃ removed now, .swept removed now ∈ events ∧ seq ∈ removed := by
  have member := FiniteMap.mem_iff.mpr ⟨_, idle⟩
  have lost : ∃ removed now, Event.swept removed now ∈ events := by
    rcases Program.machine_step_cases stepped with
      ⟨thread, start, -, free, admitted, rfl, rfl⟩ |
      ⟨thread, choice, current, shared, after, -, running, moved, rfl⟩
    · exact absurd member gone
    · exact (step_move moved).lost stillOpen
        (reclaims.balanced.held running) idle gone
  obtain ⟨removed, now, swept⟩ := lost
  obtain ⟨-, -, taken⟩ := reclaims.swept stepped swept
  refine ⟨removed, now, swept, ?_⟩
  by_contra spared
  exact gone ((taken seq member).mpr spared)

/-! Since when a slot is idle. -/

/-- The last return of the connection of a slot was at this time. -/
def LastCheckin (idleTimeout : ℕ) (actions : List (ThreadAction Phase Choice))
    (log : List Event) (seq time : ℕ) : Prop :=
  ∃ early thread choice later before after transport config next,
    actions = early ++ .advance thread choice :: later ∧
    log = before ++ .checkedIn thread ⟨seq, transport⟩ true :: after ∧
    program.machine.Run (initial idleTimeout) early before config ∧
    program.machine.step config (.advance thread choice) =
      some (next, [.checkedIn thread ⟨seq, transport⟩ true]) ∧
    next.shared.clock = time ∧ ∀ event ∈ after, ¬ event.Returns seq

theorem LastCheckin.append {actions : List (ThreadAction Phase Choice)}
    {time : ℕ} (last : LastCheckin idleTimeout actions log seq time)
    (action : ThreadAction Phase Choice)
    (others : ∀ event ∈ events, ¬ event.Returns seq) :
    LastCheckin idleTimeout (actions ++ [action]) (log ++ events) seq time := by
  obtain ⟨early, thread, choice, later, before, after, transport, config, next,
    rfl, rfl, run, stepped, clock, silent⟩ := last
  refine ⟨early, thread, choice, later ++ [action], before, after ++ events,
    transport, config, next, by simp, by simp, run, stepped, clock, ?_⟩
  intro event member
  cases List.mem_append.mp member with
  | inl old => exact silent event old
  | inr new => exact others event new

theorem opened_silent (thread : ℕ) (start : Phase) :
    ∀ event ∈ program.opened thread start, ¬ event.Returns seq := by
  intro event member
  cases start with
  | checkout queueSeq =>
      rw [List.mem_singleton.mp member]
      exact id
  | _ => cases member

theorem idle_since {config : Config TransferPool Phase}
    {actions : List (ThreadAction Phase Choice)}
    (run : program.machine.Run (initial idleTimeout) actions log config)
    (idle : config.shared.state.connections.lookup seq =
      some ⟨some transport, lastUsed⟩) :
    LastCheckin idleTimeout actions log seq lastUsed ∧
      lastUsed ≤ config.shared.clock := by
  induction run with
  | refl => cases idle
  | snoc earlier stepped induction =>
      have whole := stepped
      rcases Program.machine_step_cases stepped with
        ⟨thread, start, rfl, free, admitted, rfl, rfl⟩ |
        ⟨thread, choice, current, shared, after, rfl, running, moved, rfl⟩
      · obtain ⟨last, past⟩ := induction idle
        exact ⟨last.append _ (opened_silent thread start), past⟩
      · have move := step_move moved
        cases move.idle_origin idle with
        | inl kept =>
            obtain ⟨last, past⟩ := induction kept.1
            exact ⟨last.append _ kept.2, past.trans move.clock_le⟩
        | inr returned =>
            obtain ⟨rfl, clock⟩ := returned
            refine ⟨⟨_, thread, choice, [], _, [], transport, _, _, rfl, rfl,
              earlier, whole, clock, nofun⟩, ?_⟩
            exact clock.ge

/-- Sweeps take the idle slots whose time is up, except the smallest of the pool,
and an idle slot is lost to nothing else; and while there is one beside the
smallest, one reaper is at work. -/
theorem idle_reclamation {config : Config TransferPool Phase}
    {actions : List (ThreadAction Phase Choice)}
    (run : program.machine.Run (initial idleTimeout) actions log config) :
    (∀ seq transport lastUsed, config.shared.state.connections.lookup seq =
        some ⟨some transport, lastUsed⟩ →
      LastCheckin idleTimeout actions log seq lastUsed ∧
        lastUsed ≤ config.shared.clock) ∧
    (∀ action next events,
      program.machine.step config action = some (next, events) →
      ∀ removed now, .swept removed now ∈ events →
        now = next.shared.clock ∧
        (∀ seq, seq ∈ removed ↔ ∃ transport lastUsed,
          config.shared.state.connections.lookup seq =
            some ⟨some transport, lastUsed⟩ ∧
          (∃ other ∈ config.shared.state.connections, other < seq) ∧
          idleTimeout ≤ now - lastUsed) ∧
        ∀ seq ∈ config.shared.state.connections,
          seq ∈ next.shared.state.connections ↔ seq ∉ removed) ∧
    (∀ action next events,
      program.machine.step config action = some (next, events) →
      next.shared.state.closed = false → ∀ seq transport lastUsed,
        config.shared.state.connections.lookup seq =
          some ⟨some transport, lastUsed⟩ →
        seq ∉ next.shared.state.connections →
          ∃ removed now, .swept removed now ∈ events ∧ seq ∈ removed) ∧
    (config.shared.state.closed = false →
      (∃ seq transport lastUsed, config.shared.state.connections.lookup seq =
          some ⟨some transport, lastUsed⟩ ∧
        ∃ other ∈ config.shared.state.connections, other < seq) →
      config.shared.state.reaperRunning = true ∧
        ((config.shared.reapers = 1 ∧ reaperThreads config.threads = ∅) ∨
          (config.shared.reapers = 0 ∧
            ∃ thread, reaperThreads config.threads = {thread}))) := by
  have reclaims := reclaims run
  refine ⟨fun seq transport lastUsed idle => idle_since run idle, ?_, ?_, ?_⟩
  · intro action next events stepped removed now swept
    obtain ⟨clock, rfl, taken⟩ := reclaims.swept stepped swept
    refine ⟨clock, fun seq => ?_, taken⟩
    rw [PoolState.mem_expired]
    constructor
    · rintro ⟨lastUsed, ⟨⟨transport, found⟩, smaller⟩, late⟩
      exact ⟨transport, lastUsed, found, smaller, late⟩
    · rintro ⟨transport, lastUsed, found, smaller, late⟩
      exact ⟨lastUsed, ⟨⟨transport, found⟩, smaller⟩, late⟩
  · intro action next events stepped stillOpen seq transport lastUsed idle gone
    exact reclaims.lost stepped stillOpen idle gone
  · rintro isOpen ⟨seq, transport, lastUsed, found, smaller⟩
    have extra := PoolState.hasIdleExtra_iff.mpr
      ⟨seq, lastUsed, ⟨transport, found⟩, smaller⟩
    have flag := reclaims.reaped isOpen extra
    exact ⟨flag, reclaims.attended.running flag⟩

/-- Two connections that have both been given back, and the reaper asleep. -/
def restingPool : List (ThreadAction Phase Choice) :=
  (List.range 2).flatMap (fun thread =>
    [.spawn thread (.checkout thread), .advance thread {}, .advance thread {},
      .advance thread {}]) ++
  [.advance 0 {}, .advance 1 {}, .spawn 2 .reaperSpawned, .advance 2 {},
    .advance 2 {}]

theorem idle_reclamation_resting :
    ∃ log config next,
      program.machine.Run (initial transferIdleTimeout) restingPool log config ∧
      reaperThreads config.threads = {2} ∧
      program.machine.step config
          (.advance 2 { elapsed := transferIdleTimeout }) =
        some (next, [.swept {1} transferIdleTimeout]) ∧
      ∃ lastUsed, LastCheckin transferIdleTimeout restingPool log 1 lastUsed ∧
        transferIdleTimeout ≤ transferIdleTimeout - lastUsed := by
  have executed : ∃ log config next,
      program.machine.Run (initial transferIdleTimeout) restingPool log config ∧
      config.shared.state.closed = false ∧
      config.shared.state.connections.lookup 0 = some ⟨some 0, 0⟩ ∧
      config.threads 2 = some (.reaperSleeping 1000000000) ∧
      program.machine.step config
          (.advance 2 { elapsed := transferIdleTimeout }) =
        some (next, [.swept {1} transferIdleTimeout]) :=
    ⟨_, _, _, Machine.run_of_execute rfl, rfl, rfl, rfl, rfl⟩
  obtain ⟨log, config, next, run, isOpen, base, asleep, stepped⟩ := executed
  obtain ⟨since, sweeps, -, attended⟩ := idle_reclamation run
  obtain ⟨-, expired, -⟩ := sweeps _ next _ stepped _ _ List.mem_cons_self
  obtain ⟨transport, lastUsed, idle, smaller, late⟩ :=
    (expired 1).mp (Finset.mem_singleton_self 1)
  have reaps : 2 ∈ reaperThreads config.threads := ⟨_, asleep, rfl⟩
  refine ⟨log, config, next, run, ?_, stepped, lastUsed,
    (since 1 transport lastUsed idle).1, late⟩
  obtain ⟨-, ⟨-, none⟩ | ⟨-, only, single⟩⟩ :=
    attended isOpen ⟨1, transport, lastUsed, idle, smaller⟩
  · rw [none] at reaps
    cases reaps
  · rw [single] at reaps ⊢
    rw [Set.mem_singleton_iff.mp reaps]

end TransferPool

end TitanSSH
