import TitanSSH.Core.Transfer.Pool

namespace TitanSSH

/-! What the operations under the pool's lock do to the slots. -/

namespace PoolState

variable {state : PoolState} {seq other idleTimeout now : ℕ}
variable {slot : ConnectionSlot}

theorem mem_busySeqs :
    seq ∈ state.busySeqs ↔
      ∃ slot, state.connections.lookup seq = some slot ∧
        slot.transport = none := by
  simp [busySeqs]

theorem busySeqs_subset : state.busySeqs ⊆ state.connections.domain :=
  state.connections.keysWhere_subset _

theorem idle_of_mem_expired (member : seq ∈ state.expired idleTimeout now) :
    ∃ slot, state.connections.lookup seq = some slot ∧
      slot.transport.isSome = true := by
  unfold expired at member
  cases base : state.baseSeq with
  | none => simp [base] at member
  | some least =>
      rw [base, FiniteMap.mem_keysWhere] at member
      obtain ⟨slot, found, holds⟩ := member
      simp only [Bool.and_eq_true] at holds
      exact ⟨slot, found, holds.1.2⟩

theorem lookup_of_swept
    (found : (state.sweepExpiredLocked idleTimeout now).connections.lookup seq =
      some slot) : state.connections.lookup seq = some slot :=
  (FiniteMap.lookup_retain_eq_some.mp found).1

theorem lookup_sweep_of_busy
    (found : state.connections.lookup seq = some slot)
    (busy : slot.transport = none) :
    (state.sweepExpiredLocked idleTimeout now).connections.lookup seq =
      some slot := by
  refine FiniteMap.lookup_retain_eq_some.mpr ⟨found, ?_⟩
  rw [decide_eq_true_eq]
  intro member
  obtain ⟨idle, idleFound, idleHolds⟩ := idle_of_mem_expired member
  obtain rfl := Option.some.inj (found.symm.trans idleFound)
  simp [busy] at idleHolds

@[simp] theorem busySeqs_sweep :
    (state.sweepExpiredLocked idleTimeout now).busySeqs = state.busySeqs := by
  ext seq
  rw [mem_busySeqs, mem_busySeqs]
  constructor
  · rintro ⟨slot, found, busy⟩
    exact ⟨slot, lookup_of_swept found, busy⟩
  · rintro ⟨slot, found, busy⟩
    exact ⟨slot, lookup_sweep_of_busy found busy, busy⟩

theorem lookup_setSlot :
    (state.setSlot seq slot).connections.lookup other =
      if other = seq then some slot else state.connections.lookup other :=
  FiniteMap.lookup_insert _ _ _ _

theorem busySeqs_setSlot_busy (busy : slot.transport = none) :
    (state.setSlot seq slot).busySeqs = insert seq state.busySeqs := by
  ext other
  rw [Finset.mem_insert, mem_busySeqs, mem_busySeqs, lookup_setSlot]
  split <;> simp_all

theorem busySeqs_setSlot_idle (idle : slot.transport.isSome = true) :
    (state.setSlot seq slot).busySeqs = state.busySeqs.erase seq := by
  ext other
  rw [Finset.mem_erase, mem_busySeqs, mem_busySeqs, lookup_setSlot]
  split <;> simp_all [Option.isSome_iff_ne_none]

theorem lookup_of_removed
    (found : (state.removeSlot seq).connections.lookup other = some slot) :
    other ≠ seq ∧ state.connections.lookup other = some slot :=
  FiniteMap.lookup_erase_eq_some.mp found

@[simp] theorem busySeqs_removeSlot :
    (state.removeSlot seq).busySeqs = state.busySeqs.erase seq := by
  ext other
  rw [Finset.mem_erase, mem_busySeqs, mem_busySeqs]
  simp [removeSlot, FiniteMap.lookup_erase_eq_some, and_assoc]

theorem size_removeSlot_le :
    (state.removeSlot seq).connections.size ≤ state.connections.size :=
  FiniteMap.size_erase_le _ _

theorem lookup_idleMinSeq (found : state.idleMinSeq = some seq) :
    ∃ transport lastUsed,
      state.connections.lookup seq = some ⟨some transport, lastUsed⟩ := by
  obtain ⟨⟨transport, lastUsed⟩, present, idle⟩ :=
    FiniteMap.first?_eq_some found
  obtain ⟨transport, rfl⟩ := Option.isSome_iff_exists.mp idle
  exact ⟨transport, lastUsed, present⟩

theorem busySeqs_of_none_idle (none : state.idleMinSeq = none) :
    state.busySeqs = state.connections.domain := by
  refine busySeqs_subset.antisymm fun seq member => mem_busySeqs.mpr ?_
  obtain ⟨slot, found⟩ := FiniteMap.mem_iff.mp member
  refine ⟨slot, found, ?_⟩
  by_contra held
  have idle : seq ∈ state.connections.keysWhere fun _ slot =>
      slot.transport.isSome :=
    FiniteMap.mem_keysWhere.mpr
      ⟨slot, found, Option.isSome_iff_ne_none.mpr held⟩
  rw [FiniteMap.first?_eq_none.mp none] at idle
  simp at idle

theorem exhausted (none : state.idleMinSeq = none)
    (full : state.isFull = true) :
    maxTransferConnectionsPerSession ≤ state.busySeqs.card := by
  rw [busySeqs_of_none_idle none]
  exact of_decide_eq_true full

end PoolState

namespace TransferPool

variable {pool : TransferPool} {choice : Choice}

@[simp] theorem tick_state : (pool.tick choice).state = pool.state := rfl

@[simp] theorem setWaiters_wakes (waiters : List Waiter) :
    (pool.setWaiters waiters).wakes = pool.wakes := rfl

@[simp] theorem setWaiters_closed (waiters : List Waiter) :
    (pool.setWaiters waiters).state.closed = pool.state.closed := rfl

theorem wakeNextWaiter_cases (pool : TransferPool) :
    (pool.state.waiters = [] ∧ pool.wakeNextWaiter = pool) ∨
    ∃ before waiter after, pool.state.waiters = before ++ waiter :: after ∧
      (∀ other ∈ pool.state.waiters, waiter.queueSeq ≤ other.queueSeq) ∧
      pool.wakeNextWaiter =
        (pool.setWaiters (before ++ after)).signalWaiter waiter.wake := by
  unfold wakeNextWaiter
  cases least : pool.state.waiters.argmin (·.queueSeq) with
  | none => exact .inl ⟨List.argmin_eq_none.mp least, rfl⟩
  | some waiter =>
      right
      obtain ⟨before, after, -, split, erased⟩ :=
        List.exists_erase_eq (List.argmin_mem least)
      refine ⟨before, waiter, after, split,
        fun other member => List.le_of_mem_argmin member least, ?_⟩
      simp only [erased]

@[simp] theorem wakeNextWaiter_connections :
    pool.wakeNextWaiter.state.connections = pool.state.connections := by
  unfold wakeNextWaiter
  split <;> rfl

@[simp] theorem wakeNextWaiter_closed :
    pool.wakeNextWaiter.state.closed = pool.state.closed := by
  unfold wakeNextWaiter
  split <;> rfl

@[simp] theorem wakeNextWaiter_nextSeq :
    pool.wakeNextWaiter.nextSeq = pool.nextSeq := by
  unfold wakeNextWaiter
  split <;> rfl

@[simp] theorem wakeNextWaiter_transports :
    pool.wakeNextWaiter.transports = pool.transports := by
  unfold wakeNextWaiter
  split <;> rfl

@[simp] theorem ensureReaperLocked_connections :
    pool.ensureReaperLocked.state.connections = pool.state.connections := by
  unfold ensureReaperLocked
  split <;> rfl

@[simp] theorem ensureReaperLocked_waiters :
    pool.ensureReaperLocked.state.waiters = pool.state.waiters := by
  unfold ensureReaperLocked
  split <;> rfl

@[simp] theorem ensureReaperLocked_closed :
    pool.ensureReaperLocked.state.closed = pool.state.closed := by
  unfold ensureReaperLocked
  split <;> rfl

@[simp] theorem ensureReaperLocked_wakes :
    pool.ensureReaperLocked.wakes = pool.wakes := by
  unfold ensureReaperLocked
  split <;> rfl

@[simp] theorem ensureReaperLocked_nextSeq :
    pool.ensureReaperLocked.nextSeq = pool.nextSeq := by
  unfold ensureReaperLocked
  split <;> rfl

@[simp] theorem ensureReaperLocked_transports :
    pool.ensureReaperLocked.transports = pool.transports := by
  unfold ensureReaperLocked
  split <;> rfl

/-- A cancellation takes out the first waiter of its number, if there is one. -/
theorem cancelWaiter_cases (pool : TransferPool) (queueSeq : ℕ) :
    ((∀ waiter ∈ pool.state.waiters, waiter.queueSeq ≠ queueSeq) ∧
      pool.cancelWaiter queueSeq = pool) ∨
    ∃ before waiter after, pool.state.waiters = before ++ waiter :: after ∧
      waiter.queueSeq = queueSeq ∧
      pool.cancelWaiter queueSeq =
        ((pool.setWaiters (before ++ after)).markCancelled
          waiter.wake).signalWaiter waiter.wake := by
  unfold cancelWaiter
  cases found : pool.state.waiters.find? (·.queueSeq == queueSeq) with
  | none =>
      refine .inl ⟨fun waiter member => ?_, rfl⟩
      simpa using List.find?_eq_none.mp found waiter member
  | some waiter =>
      right
      obtain ⟨named, before, after, split, earlier⟩ :=
        List.find?_eq_some_iff_append.mp found
      have erased : pool.state.waiters.eraseP (·.queueSeq == queueSeq) =
          before ++ after := by
        rw [split, List.eraseP_append_right _ (by simpa using earlier)]
        simp [named]
      exact ⟨before, waiter, after, split, by simpa using named, by
        simp only [erased]⟩

@[simp] theorem cancelWaiter_connections (queueSeq : ℕ) :
    (pool.cancelWaiter queueSeq).state.connections = pool.state.connections := by
  unfold cancelWaiter
  split <;> rfl

@[simp] theorem cancelWaiter_closed (queueSeq : ℕ) :
    (pool.cancelWaiter queueSeq).state.closed = pool.state.closed := by
  unfold cancelWaiter
  split <;> rfl

@[simp] theorem cancelWaiter_nextSeq (queueSeq : ℕ) :
    (pool.cancelWaiter queueSeq).nextSeq = pool.nextSeq := by
  unfold cancelWaiter
  split <;> rfl

@[simp] theorem cancelWaiter_transports (queueSeq : ℕ) :
    (pool.cancelWaiter queueSeq).transports = pool.transports := by
  unfold cancelWaiter
  split <;> rfl

theorem foldl_signalWaiter (wakes : List ℕ) (pool : TransferPool) :
    wakes.foldl signalWaiter pool =
      { pool with
        wakes := fun wake =>
          if wake ∈ wakes then { pool.wakes wake with signaled := true }
          else pool.wakes wake } := by
  induction wakes generalizing pool with
  | nil => simp
  | cons first rest induction =>
      rw [List.foldl_cons, induction]
      simp only [signalWaiter, TransferPool.mk.injEq, true_and, and_true]
      funext wake
      rcases eq_or_ne wake first with rfl | different
      · simp
      · simp [different]

theorem close_eq (pool : TransferPool) :
    pool.close =
      { pool with
        state := { pool.state with
          closed := true, connections := .empty, waiters := [] }
        wakes := fun wake =>
          if wake ∈ pool.state.waiters.map (·.wake) then
            { pool.wakes wake with signaled := true }
          else pool.wakes wake } :=
  foldl_signalWaiter _ _

/-! Everything one step of a thread can do. -/

/-- The pool as a checkout finds it once the expired connections are gone. -/
def turn (pool : TransferPool) (choice : Choice) : TransferPool :=
  (pool.tick choice).sweep

@[simp] theorem turn_waiters :
    (pool.turn choice).state.waiters = pool.state.waiters := rfl

@[simp] theorem turn_closed :
    (pool.turn choice).state.closed = pool.state.closed := rfl

@[simp] theorem turn_wakes : (pool.turn choice).wakes = pool.wakes := rfl

@[simp] theorem turn_busySeqs :
    (pool.turn choice).state.busySeqs = pool.state.busySeqs :=
  PoolState.busySeqs_sweep

/-- A checkout that enters has to wait: behind others when it is new, or for a
slot when none is idle and none can be added. -/
def Blocked (pool : TransferPool) (firstAttempt : Bool) : Prop :=
  (firstAttempt = true ∧ pool.state.waiters ≠ []) ∨
  (pool.state.idleMinSeq = none ∧ pool.state.isFull = true)

instance (firstAttempt : Bool) : Decidable (pool.Blocked firstAttempt) :=
  inferInstanceAs (Decidable (_ ∨ _))

inductive Move (thread : ℕ) (choice : Choice) (pool : TransferPool) :
    Phase → TransferPool → Phase → List Event → Prop
  | called {queueSeq : ℕ} :
      Move thread choice pool (.checkout queueSeq)
        { pool with wakes := Function.update pool.wakes thread ⟨false, false⟩ }
        (.entering queueSeq true) []
  | refused {queueSeq : ℕ} {firstAttempt : Bool}
      (isClosed : pool.state.closed = true) :
      Move thread choice pool (.entering queueSeq firstAttempt) pool
        (.failed .closed) [.failed thread .closed]
  | queued {queueSeq : ℕ} {firstAttempt : Bool}
      (isOpen : pool.state.closed = false)
      (blocked : (pool.turn choice).Blocked firstAttempt) :
      Move thread choice pool (.entering queueSeq firstAttempt)
        ((pool.turn choice).setWaiters
          (pool.state.waiters ++ [⟨queueSeq, thread⟩]))
        (.waiting queueSeq)
        [(pool.tick choice).sweepEvent, .queued thread queueSeq]
  | reused {queueSeq seq transport lastUsed : ℕ} {firstAttempt : Bool}
      (isOpen : pool.state.closed = false)
      (admitted : ¬ (pool.turn choice).Blocked firstAttempt)
      (least : (pool.turn choice).state.idleMinSeq = some seq)
      (idle : (pool.turn choice).state.connections.lookup seq =
        some ⟨some transport, lastUsed⟩) :
      Move thread choice pool (.entering queueSeq firstAttempt)
        { pool.turn choice with
          state := (pool.turn choice).state.setSlot seq ⟨none, lastUsed⟩ }
        (.holding ⟨seq, transport⟩)
        [(pool.tick choice).sweepEvent, .obtained thread ⟨seq, transport⟩]
  | reserved {queueSeq : ℕ} {firstAttempt : Bool}
      (isOpen : pool.state.closed = false)
      (admitted : ¬ (pool.turn choice).Blocked firstAttempt)
      (noIdle : (pool.turn choice).state.idleMinSeq = none)
      (room : (pool.turn choice).state.isFull = false) :
      Move thread choice pool (.entering queueSeq firstAttempt)
        { pool.turn choice with
          state := (pool.turn choice).state.setSlot pool.nextSeq
            ⟨none, (pool.turn choice).clock⟩
          nextSeq := pool.nextSeq + 1 }
        (.connecting pool.nextSeq)
        [(pool.tick choice).sweepEvent, .reserved thread pool.nextSeq]
  | woken {queueSeq : ℕ} (signaled : (pool.wakes thread).signaled = true)
      (kept : (pool.wakes thread).cancelled = false) :
      Move thread choice pool (.waiting queueSeq)
        { pool with
          wakes := Function.update pool.wakes thread
            { pool.wakes thread with signaled := false } }
        (.entering queueSeq false) []
  | withdrawn {queueSeq : ℕ} (signaled : (pool.wakes thread).signaled = true)
      (cancelled : (pool.wakes thread).cancelled = true) :
      Move thread choice pool (.waiting queueSeq)
        { pool with
          wakes := Function.update pool.wakes thread
            { pool.wakes thread with signaled := false } }
        (.failed .cancelled) [.failed thread .cancelled]
  | connectedLate {seq : ℕ} (isClosed : pool.state.closed = true) :
      Move thread choice pool (.connecting seq)
        { pool with state := pool.state.removeSlot seq }
        (.failed .closed) [.failed thread .closed]
  | connected {seq : ℕ} (isOpen : pool.state.closed = false)
      (success : choice.connectError = none) :
      Move thread choice pool (.connecting seq)
        { pool with transports := pool.transports + 1 }
        (.holding ⟨seq, pool.transports⟩)
        [.obtained thread ⟨seq, pool.transports⟩]
  | connectFailed {seq : ℕ} {error : AppError}
      (isOpen : pool.state.closed = false)
      (failure : choice.connectError = some error) :
      Move thread choice pool (.connecting seq)
        ({ pool with state := pool.state.removeSlot seq } :
          TransferPool).wakeNextWaiter
        (.failed (.connect error)) [.failed thread (.connect error)]
  | discarded {checkout : TransferCheckout}
      (useless : pool.state.closed = true ∨ choice.healthy = false) :
      Move thread choice pool (.holding checkout)
        ({ pool with state := pool.state.removeSlot checkout.seq } :
          TransferPool).wakeNextWaiter
        .returned [.checkedIn thread checkout choice.healthy]
  | checkedIn {checkout : TransferCheckout}
      (isOpen : pool.state.closed = false)
      (healthy : choice.healthy = true) :
      Move thread choice pool (.holding checkout)
        ({ pool.tick choice with
            state := pool.state.setSlot checkout.seq
              ⟨some checkout.transport, (pool.tick choice).clock⟩ } :
          TransferPool).wakeNextWaiter.ensureReaperLocked
        .returned [.checkedIn thread checkout choice.healthy]
  | cancelledWaiter {queueSeq : ℕ} :
      Move thread choice pool (.cancelWaiter queueSeq)
        (pool.cancelWaiter queueSeq) .finished []
  | closed : Move thread choice pool .close pool.close .finished [.closed]
  | reaperStarted (spawned : pool.reapers ≠ 0) :
      Move thread choice pool .reaperSpawned
        { pool with reapers := pool.reapers - 1 } .reaperChecking []
  | reaperIdle
      (useless : pool.state.closed = true ∨
        pool.state.earliestIdleExpiry pool.idleTimeout = none) :
      Move thread choice pool .reaperChecking
        { pool with state := { pool.state with reaperRunning := false } }
        .finished []
  | reaperScheduled {earliest : ℕ} (isOpen : pool.state.closed = false)
      (next : pool.state.earliestIdleExpiry pool.idleTimeout = some earliest) :
      Move thread choice pool .reaperChecking (pool.tick choice)
        (.reaperSleeping ((pool.tick choice).clock +
          min (earliest - (pool.tick choice).clock) maxSleep)) []
  | reaperRefused {wakeAt : ℕ} (due : wakeAt ≤ (pool.tick choice).clock)
      (isClosed : pool.state.closed = true) :
      Move thread choice pool (.reaperSleeping wakeAt)
        { pool.tick choice with
          state := { pool.state with reaperRunning := false } }
        .finished []
  | reaperSwept {wakeAt : ℕ} (due : wakeAt ≤ (pool.tick choice).clock)
      (isOpen : pool.state.closed = false)
      (more : (pool.turn choice).state.hasIdleExtra = true) :
      Move thread choice pool (.reaperSleeping wakeAt) (pool.turn choice)
        .reaperChecking [(pool.tick choice).sweepEvent]
  | reaperDone {wakeAt : ℕ} (due : wakeAt ≤ (pool.tick choice).clock)
      (isOpen : pool.state.closed = false)
      (none : (pool.turn choice).state.hasIdleExtra = false) :
      Move thread choice pool (.reaperSleeping wakeAt)
        { pool.turn choice with
          state := { (pool.turn choice).state with reaperRunning := false } }
        .finished [(pool.tick choice).sweepEvent]

variable {thread queueSeq seq wakeAt : ℕ} {firstAttempt : Bool}
variable {phase : Phase} {next : TransferPool} {after : Phase}
variable {events : List Event}

theorem stepEntering_move
    (stepped : stepEntering thread choice pool queueSeq firstAttempt =
      (next, after, events)) :
    Move thread choice pool (.entering queueSeq firstAttempt) next after
      events := by
  cases isClosed : pool.state.closed with
  | true =>
      simp only [stepEntering, isClosed, if_true, fail, List.nil_append,
        Prod.mk.injEq] at stepped
      obtain ⟨rfl, rfl, rfl⟩ := stepped
      exact .refused isClosed
  | false =>
      simp only [stepEntering, isClosed, Bool.false_eq_true, if_false] at stepped
      change stepAdmit thread (pool.turn choice) queueSeq firstAttempt _ = _
        at stepped
      unfold stepAdmit at stepped
      by_cases behind : firstAttempt = true ∧ pool.state.waiters ≠ []
      · rw [if_pos (by simpa using behind)] at stepped
        simp only [enqueue, Prod.mk.injEq] at stepped
        obtain ⟨rfl, rfl, rfl⟩ := stepped
        exact .queued isClosed (.inl behind)
      · rw [if_neg (by simpa using behind)] at stepped
        cases least : (pool.turn choice).state.idleMinSeq with
        | some seq =>
            obtain ⟨transport, lastUsed, idle⟩ :=
              PoolState.lookup_idleMinSeq least
            simp only [least, takeIdle, idle, Prod.mk.injEq] at stepped
            obtain ⟨rfl, rfl, rfl⟩ := stepped
            refine .reused isClosed ?_ least idle
            rintro (blocked | ⟨none, -⟩)
            · exact behind blocked
            · simp [least] at none
        | none =>
            cases full : (pool.turn choice).state.isFull with
            | true =>
                simp only [least, full, if_true, enqueue, Prod.mk.injEq]
                  at stepped
                obtain ⟨rfl, rfl, rfl⟩ := stepped
                exact .queued isClosed (.inr ⟨least, full⟩)
            | false =>
                simp only [least, full, Bool.false_eq_true, if_false, reserve,
                  Prod.mk.injEq] at stepped
                obtain ⟨rfl, rfl, rfl⟩ := stepped
                refine .reserved isClosed ?_ least full
                rintro (blocked | ⟨-, isFull⟩)
                · exact behind blocked
                · simp [full] at isFull

theorem stepWaiting_move
    (stepped : stepWaiting thread pool queueSeq = some (next, after, events)) :
    Move thread choice pool (.waiting queueSeq) next after events := by
  unfold stepWaiting at stepped
  cases signaled : (pool.wakes thread).signaled with
  | false => simp [signaled] at stepped
  | true =>
      cases cancelled : (pool.wakes thread).cancelled with
      | true =>
          simp only [signaled, cancelled, if_true, fail, List.nil_append,
            Option.some.injEq, Prod.mk.injEq] at stepped
          obtain ⟨rfl, rfl, rfl⟩ := stepped
          simpa [cancelled] using
            @Move.withdrawn thread choice pool queueSeq signaled cancelled
      | false =>
          simp only [signaled, cancelled, if_true, Bool.false_eq_true, if_false,
            Option.some.injEq, Prod.mk.injEq] at stepped
          obtain ⟨rfl, rfl, rfl⟩ := stepped
          simpa [cancelled] using
            @Move.woken thread choice pool queueSeq signaled cancelled

theorem stepConnecting_move
    (stepped : stepConnecting thread choice pool seq = (next, after, events)) :
    Move thread choice pool (.connecting seq) next after events := by
  unfold stepConnecting at stepped
  cases isClosed : pool.state.closed with
  | true =>
      simp only [isClosed, if_true, fail, List.nil_append, Prod.mk.injEq]
        at stepped
      obtain ⟨rfl, rfl, rfl⟩ := stepped
      exact .connectedLate isClosed
  | false =>
      cases result : choice.connectError with
      | none =>
          simp only [isClosed, result, Bool.false_eq_true, if_false,
            Prod.mk.injEq] at stepped
          obtain ⟨rfl, rfl, rfl⟩ := stepped
          exact .connected isClosed result
      | some error =>
          simp only [isClosed, result, Bool.false_eq_true, if_false, fail,
            List.nil_append, Prod.mk.injEq] at stepped
          obtain ⟨rfl, rfl, rfl⟩ := stepped
          exact .connectFailed isClosed result

theorem stepHolding_move {checkout : TransferCheckout}
    (stepped : stepHolding thread choice pool checkout =
      (next, after, events)) :
    Move thread choice pool (.holding checkout) next after events := by
  simp only [stepHolding, Prod.mk.injEq] at stepped
  obtain ⟨rfl, rfl, rfl⟩ := stepped
  unfold checkin
  split
  · next useless =>
      refine .discarded ?_
      simpa [Bool.or_eq_true] using useless
  · next useful =>
      simp only [Bool.or_eq_true, not_or, Bool.not_eq_true,
        Bool.not_eq_false'] at useful
      exact .checkedIn useful.1 useful.2

theorem stepReaperChecking_move
    (stepped : stepReaperChecking choice pool = (next, after, events)) :
    Move thread choice pool .reaperChecking next after events := by
  unfold stepReaperChecking at stepped
  cases isClosed : pool.state.closed with
  | true =>
      simp only [isClosed, if_true] at stepped
      simp only [stopReaper, Prod.mk.injEq] at stepped
      obtain ⟨rfl, rfl, rfl⟩ := stepped
      exact .reaperIdle (.inl isClosed)
  | false =>
      cases expiry : pool.state.earliestIdleExpiry pool.idleTimeout with
      | none =>
          simp only [isClosed, expiry, Bool.false_eq_true, if_false] at stepped
          simp only [stopReaper, Prod.mk.injEq] at stepped
          obtain ⟨rfl, rfl, rfl⟩ := stepped
          exact .reaperIdle (.inr expiry)
      | some earliest =>
          simp only [isClosed, expiry, Bool.false_eq_true, if_false,
            Prod.mk.injEq] at stepped
          obtain ⟨rfl, rfl, rfl⟩ := stepped
          exact .reaperScheduled isClosed expiry

theorem stepReaperSleeping_move
    (stepped : stepReaperSleeping choice pool wakeAt =
      some (next, after, events)) :
    Move thread choice pool (.reaperSleeping wakeAt) next after events := by
  unfold stepReaperSleeping at stepped
  by_cases early : (pool.tick choice).clock < wakeAt
  · simp [early] at stepped
  have due := Nat.le_of_not_lt early
  cases isClosed : pool.state.closed with
  | true =>
      simp only [early, isClosed, if_true, if_false] at stepped
      simp only [stopReaper, tick_state, Option.some.injEq, Prod.mk.injEq]
        at stepped
      obtain ⟨rfl, rfl, rfl⟩ := stepped
      exact .reaperRefused due isClosed
  | false =>
      cases more : (pool.turn choice).state.hasIdleExtra with
      | true =>
          have sweptMore := more
          unfold turn at sweptMore
          simp only [early, isClosed, sweptMore, if_true, Bool.false_eq_true,
            if_false, Option.some.injEq, Prod.mk.injEq] at stepped
          obtain ⟨rfl, rfl, rfl⟩ := stepped
          exact .reaperSwept due isClosed more
      | false =>
          have sweptNone := more
          unfold turn at sweptNone
          simp only [early, isClosed, sweptNone, Bool.false_eq_true,
            if_false, Option.some.injEq, Prod.mk.injEq] at stepped
          obtain ⟨rfl, rfl, rfl⟩ := stepped
          exact .reaperDone due isClosed more

theorem step_move
    (stepped : step thread choice pool phase = some (next, after, events)) :
    Move thread choice pool phase next after events := by
  cases phase with
  | checkout queueSeq =>
      simp only [step, stepCheckout, Option.some.injEq, Prod.mk.injEq] at stepped
      obtain ⟨rfl, rfl, rfl⟩ := stepped
      exact .called
  | entering queueSeq firstAttempt =>
      exact stepEntering_move (Option.some.inj stepped)
  | waiting queueSeq => exact stepWaiting_move stepped
  | connecting seq => exact stepConnecting_move (Option.some.inj stepped)
  | holding checkout => exact stepHolding_move (Option.some.inj stepped)
  | cancelWaiter queueSeq =>
      simp only [step, Option.some.injEq, Prod.mk.injEq] at stepped
      obtain ⟨rfl, rfl, rfl⟩ := stepped
      exact .cancelledWaiter
  | close =>
      simp only [step, Option.some.injEq, Prod.mk.injEq] at stepped
      obtain ⟨rfl, rfl, rfl⟩ := stepped
      exact .closed
  | reaperSpawned =>
      by_cases unspawned : pool.reapers = 0
      · simp [step, unspawned] at stepped
      · simp only [step, unspawned, if_false, Option.some.injEq, Prod.mk.injEq]
          at stepped
        obtain ⟨rfl, rfl, rfl⟩ := stepped
        exact .reaperStarted unspawned
  | reaperChecking => exact stepReaperChecking_move (Option.some.inj stepped)
  | reaperSleeping wakeAt => exact stepReaperSleeping_move stepped
  | failed error => simp [step] at stepped
  | returned => simp [step] at stepped
  | finished => simp [step] at stepped

end TransferPool

end TitanSSH
