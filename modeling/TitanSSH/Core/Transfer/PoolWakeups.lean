import Mathlib.Data.Set.Card
import TitanSSH.Core.Transfer.PoolAccounting

namespace TitanSSH

namespace TransferPool

open Interleaving

/-! The queue and the wakes of its waiters.  A thread sleeps while its waiter is
queued; whoever takes the waiter out signals it. -/

structure Wakeful (waiters : List Waiter) (closed : Bool)
    (wakes : ℕ → WaiterWake) (threads : ℕ → Option Phase) : Prop where
  queued : ∀ {waiter}, waiter ∈ waiters →
    threads waiter.wake = some (.waiting waiter.queueSeq) ∧
      wakes waiter.wake = ⟨false, false⟩
  distinct : (waiters.map (·.wake)).Nodup
  waiting : ∀ {thread queueSeq}, threads thread = some (.waiting queueSeq) →
    (wakes thread).signaled = true ∨ ⟨queueSeq, thread⟩ ∈ waiters
  entering : ∀ {thread queueSeq firstAttempt},
    threads thread = some (.entering queueSeq firstAttempt) →
      wakes thread = ⟨false, false⟩
  drained : closed = true → waiters = []

namespace Wakeful

variable {waiters before rest : List Waiter} {closed : Bool}
variable {wakes next : ℕ → WaiterWake} {threads : ℕ → Option Phase}
variable {thread queueSeq : ℕ} {phase after : Phase} {waiter : Waiter}

theorem absent (wakeful : Wakeful waiters closed wakes threads)
    (awake : ∀ queueSeq, threads thread ≠ some (.waiting queueSeq))
    (member : waiter ∈ waiters) : waiter.wake ≠ thread := by
  rintro rfl
  exact awake _ (wakeful.queued member).1

theorem absent_of_signaled (wakeful : Wakeful waiters closed wakes threads)
    (signaled : (wakes thread).signaled = true) (member : waiter ∈ waiters) :
    waiter.wake ≠ thread := by
  rintro rfl
  simp [(wakeful.queued member).2] at signaled

theorem leave (wakeful : Wakeful waiters closed wakes threads)
    (away : ∀ waiter ∈ waiters, waiter.wake ≠ thread)
    (others : ∀ other, other ≠ thread → next other = wakes other)
    (notWaiting : ∀ queueSeq, after ≠ .waiting queueSeq)
    (notEntering : ∀ queueSeq firstAttempt,
      after ≠ .entering queueSeq firstAttempt) :
    Wakeful waiters closed next
      (Function.update threads thread (some after)) where
  queued member := by
    rw [Function.update_of_ne (away _ member), others _ (away _ member)]
    exact wakeful.queued member
  distinct := wakeful.distinct
  waiting {other _} found := by
    rcases of_update_eq_some found with ⟨-, same⟩ | ⟨different, found⟩
    · exact absurd (Option.some.inj same) (notWaiting _)
    · rw [others other different]
      exact wakeful.waiting found
  entering {other _ _} found := by
    rcases of_update_eq_some found with ⟨-, same⟩ | ⟨different, found⟩
    · exact absurd (Option.some.inj same) (notEntering _ _)
    · rw [others other different]
      exact wakeful.entering found
  drained := wakeful.drained

theorem enter (wakeful : Wakeful waiters closed wakes threads)
    (away : ∀ waiter ∈ waiters, waiter.wake ≠ thread)
    (others : ∀ other, other ≠ thread → next other = wakes other)
    (fresh : next thread = ⟨false, false⟩) (firstAttempt : Bool) :
    Wakeful waiters closed next
      (Function.update threads thread
        (some (.entering queueSeq firstAttempt))) where
  queued member := by
    rw [Function.update_of_ne (away _ member), others _ (away _ member)]
    exact wakeful.queued member
  distinct := wakeful.distinct
  waiting {other _} found := by
    rcases of_update_eq_some found with ⟨-, same⟩ | ⟨different, found⟩
    · cases same
    · rw [others other different]
      exact wakeful.waiting found
  entering {other _ _} found := by
    rcases of_update_eq_some found with ⟨rfl, -⟩ | ⟨different, found⟩
    · exact fresh
    · rw [others other different]
      exact wakeful.entering found
  drained := wakeful.drained

theorem enqueue (wakeful : Wakeful waiters false wakes threads)
    {firstAttempt : Bool}
    (current : threads thread = some (.entering queueSeq firstAttempt)) :
    Wakeful (waiters ++ [⟨queueSeq, thread⟩]) false wakes
      (Function.update threads thread (some (.waiting queueSeq))) where
  queued {waiter} member := by
    cases List.mem_append.mp member with
    | inl old =>
        rw [Function.update_of_ne (wakeful.absent (by simp [current]) old)]
        exact wakeful.queued old
    | inr new =>
        obtain rfl := List.mem_singleton.mp new
        exact ⟨Function.update_self _ _ _, wakeful.entering current⟩
  distinct := by
    rw [List.map_append, List.nodup_append]
    refine ⟨wakeful.distinct, by simp, ?_⟩
    intro wake old other new
    obtain ⟨waiter, member, rfl⟩ := List.mem_map.mp old
    obtain rfl : other = thread := by simpa using new
    exact wakeful.absent (by simp [current]) member
  waiting {other _} found := by
    rcases of_update_eq_some found with ⟨rfl, same⟩ | ⟨-, found⟩
    · obtain rfl := Phase.waiting.inj (Option.some.inj same)
      exact .inr (by simp)
    · cases wakeful.waiting found with
      | inl signaled => exact .inl signaled
      | inr member => exact .inr (List.mem_append_left _ member)
  entering {other _ _} found := by
    rcases of_update_eq_some found with ⟨-, same⟩ | ⟨-, found⟩
    · cases same
    · exact wakeful.entering found
  drained isClosed := by cases isClosed

/-- A waiter is taken out of the queue and signalled. -/
theorem dequeue
    (wakeful : Wakeful (before ++ waiter :: rest) closed wakes threads)
    (cancelled : Bool) :
    Wakeful (before ++ rest) closed
      (Function.update wakes waiter.wake ⟨true, cancelled⟩) threads where
  queued {other} member := by
    have old : other ∈ before ++ waiter :: rest := by
      cases List.mem_append.mp member with
      | inl member => exact List.mem_append_left _ member
      | inr member =>
          exact List.mem_append_right _ (List.mem_cons_of_mem _ member)
    have different : other.wake ≠ waiter.wake := by
      intro same
      have distinct := wakeful.distinct
      rw [List.map_append, List.map_cons, List.nodup_middle,
        List.nodup_cons, ← List.map_append] at distinct
      exact distinct.1 (same ▸ List.mem_map_of_mem member)
    rw [Function.update_of_ne different]
    exact wakeful.queued old
  distinct := by
    have distinct := wakeful.distinct
    rw [List.map_append, List.map_cons, List.nodup_middle, List.nodup_cons,
      ← List.map_append] at distinct
    exact distinct.2
  waiting {other queueSeq} found := by
    rcases eq_or_ne other waiter.wake with rfl | different
    · exact .inl (by simp)
    · rw [Function.update_of_ne different]
      cases wakeful.waiting found with
      | inl signaled => exact .inl signaled
      | inr member =>
          refine .inr ?_
          cases List.mem_append.mp member with
          | inl member => exact List.mem_append_left _ member
          | inr member =>
              cases List.mem_cons.mp member with
              | inl same => exact absurd (congrArg Waiter.wake same) different
              | inr member => exact List.mem_append_right _ member
  entering {other _ _} found := by
    have different : other ≠ waiter.wake := by
      rintro rfl
      rw [(wakeful.queued (by simp)).1] at found
      cases found
    rw [Function.update_of_ne different]
    exact wakeful.entering found
  drained isClosed := by
    simpa using wakeful.drained isClosed

theorem drain (wakeful : Wakeful waiters closed wakes threads) :
    Wakeful [] true
      (fun wake =>
        if wake ∈ waiters.map (·.wake) then
          { wakes wake with signaled := true }
        else wakes wake) threads where
  queued member := by cases member
  distinct := List.nodup_nil
  waiting {other queueSeq} found := by
    refine .inl ?_
    cases wakeful.waiting found with
    | inl signaled => split <;> simp [signaled]
    | inr member => rw [if_pos (List.mem_map_of_mem member)]
  entering {other queueSeq firstAttempt} found := by
    have notQueued : other ∉ waiters.map (·.wake) := by
      intro member
      obtain ⟨waiter, inQueue, rfl⟩ := List.mem_map.mp member
      rw [(wakeful.queued inQueue).1] at found
      cases found
    rw [if_neg notQueued]
    exact wakeful.entering found
  drained _ := rfl

end Wakeful

/-! The threads that have been signalled and have not entered again, and those
of them that are going to: a cancelled waiter returns without entering. -/

def Phase.signalled (wake : WaiterWake) : Phase → Bool
  | .waiting _ => wake.signaled
  | .entering _ firstAttempt => !firstAttempt
  | _ => false

def Phase.claims (wake : WaiterWake) : Phase → Bool
  | .waiting _ => wake.signaled && !wake.cancelled
  | .entering _ firstAttempt => !firstAttempt
  | _ => false

def signalled (wakes : ℕ → WaiterWake) (threads : ℕ → Option Phase) : Set ℕ :=
  {thread | (threads thread).any (Phase.signalled (wakes thread)) = true}

def claiming (wakes : ℕ → WaiterWake) (threads : ℕ → Option Phase) : Set ℕ :=
  {thread | (threads thread).any (Phase.claims (wakes thread)) = true}

theorem claiming_subset (wakes : ℕ → WaiterWake)
    (threads : ℕ → Option Phase) :
    claiming wakes threads ⊆ signalled wakes threads := by
  intro thread member
  simp only [claiming, signalled, Set.mem_ofPred_eq] at member ⊢
  cases running : threads thread with
  | none => simp [running] at member
  | some phase =>
      cases phase <;> simp_all [Phase.claims, Phase.signalled]

theorem signalled_finite {wakes : ℕ → WaiterWake}
    {threads : ℕ → Option Phase}
    (finite : {thread | threads thread ≠ none}.Finite) :
    (signalled wakes threads).Finite := by
  refine finite.subset fun thread member none => ?_
  simp [signalled, none] at member

/-- The claims of those whose number is ahead. -/
def Phase.claimsWhere (ahead : ℕ → Bool) (wake : WaiterWake) : Phase → Bool
  | .waiting queueSeq => wake.signaled && !wake.cancelled && ahead queueSeq
  | .entering queueSeq firstAttempt => !firstAttempt && ahead queueSeq
  | _ => false

def claimingWhere (ahead : ℕ → Bool) (wakes : ℕ → WaiterWake)
    (threads : ℕ → Option Phase) : Set ℕ :=
  {thread |
    (threads thread).any (Phase.claimsWhere ahead (wakes thread)) = true}

section Claims

variable {ahead : ℕ → Bool}
variable {wakes next : ℕ → WaiterWake} {threads : ℕ → Option Phase}
variable {thread : ℕ} {before after : Phase}

theorem claimsWhere_true (wake : WaiterWake) :
    Phase.claimsWhere (fun _ => true) wake = Phase.claims wake := by
  funext phase
  cases phase <;> simp [Phase.claimsWhere, Phase.claims]

theorem claimingWhere_true :
    claimingWhere (fun _ => true) wakes threads = claiming wakes threads := by
  ext thread
  simp [claimingWhere, claiming, claimsWhere_true]

theorem claimingWhere_subset :
    claimingWhere ahead wakes threads ⊆ claiming wakes threads := by
  intro thread member
  simp only [claimingWhere, claiming, Set.mem_ofPred_eq] at member ⊢
  cases running : threads thread with
  | none => simp [running] at member
  | some phase =>
      cases phase <;> simp_all [Phase.claims, Phase.claimsWhere]

theorem claimingWhere_advance
    (others : ∀ other, other ≠ thread → next other = wakes other)
    (running : (threads thread).any (Phase.claimsWhere ahead (wakes thread)) =
      after.claimsWhere ahead (next thread)) :
    claimingWhere ahead next (Function.update threads thread (some after)) =
      claimingWhere ahead wakes threads := by
  ext other
  simp only [claimingWhere, Set.mem_ofPred_eq]
  rcases eq_or_ne other thread with rfl | different
  · rw [Function.update_self, running, Option.any_some]
  · rw [Function.update_of_ne different, others other different]

theorem claimingWhere_claimed
    (others : ∀ other, other ≠ thread → next other = wakes other)
    (done : after.claimsWhere ahead (next thread) = false) :
    claimingWhere ahead next (Function.update threads thread (some after)) =
      claimingWhere ahead wakes threads \ {thread} := by
  ext other
  simp only [claimingWhere, Set.mem_ofPred_eq, Set.mem_sdiff,
    Set.mem_singleton_iff]
  rcases eq_or_ne other thread with rfl | different
  · simp [done]
  · simp [others other different, different]

theorem claimingWhere_signal {waiter : Waiter}
    (asleep : threads waiter.wake = some (.waiting waiter.queueSeq))
    (first : ahead waiter.queueSeq = true) :
    claimingWhere ahead (Function.update wakes waiter.wake ⟨true, false⟩)
        threads =
      insert waiter.wake (claimingWhere ahead wakes threads) := by
  ext other
  simp only [claimingWhere, Set.mem_ofPred_eq, Set.mem_insert_iff]
  rcases eq_or_ne other waiter.wake with rfl | different
  · simp [asleep, first, Phase.claimsWhere]
  · simp [different]

theorem claimingWhere_withdraw {waiter : Waiter}
    (asleep : threads waiter.wake = some (.waiting waiter.queueSeq))
    (unsignalled : wakes waiter.wake = ⟨false, false⟩) :
    claimingWhere ahead (Function.update wakes waiter.wake ⟨true, true⟩)
        threads = claimingWhere ahead wakes threads := by
  ext other
  simp only [claimingWhere, Set.mem_ofPred_eq]
  rcases eq_or_ne other waiter.wake with rfl | different
  · simp [asleep, unsignalled, Phase.claimsWhere]
  · simp [different]

end Claims

/-! What the operations under the lock do to the queue. -/

section Operations

variable {pool : TransferPool} {threads : ℕ → Option Phase}

def Attentive (pool : TransferPool) (threads : ℕ → Option Phase) : Prop :=
  Wakeful pool.state.waiters pool.state.closed pool.wakes threads

/-- The phases that the queue and the wakes speak of. -/
def Phase.queueing : Phase → Bool
  | .waiting _ | .entering _ _ => true
  | _ => false

theorem Attentive.congr {others : ℕ → Option Phase}
    (attentive : Attentive pool threads)
    (same : ∀ thread, (others thread).filter Phase.queueing =
      (threads thread).filter Phase.queueing) : Attentive pool others := by
  have seen : ∀ {thread phase}, phase.queueing = true →
      (others thread = some phase ↔ threads thread = some phase) := by
    intro thread phase queueing
    have here := congrArg (· = some phase) (same thread)
    simpa [Option.filter_eq_some_iff, queueing] using here
  constructor
  · intro waiter member
    obtain ⟨asleep, unsignalled⟩ := attentive.queued member
    exact ⟨(seen rfl).mpr asleep, unsignalled⟩
  · exact attentive.distinct
  · exact fun found => attentive.waiting ((seen rfl).mp found)
  · exact fun found => attentive.entering ((seen rfl).mp found)
  · exact attentive.drained

theorem Attentive.signal {before rest : List Waiter} {waiter : Waiter}
    (attentive : Attentive pool threads)
    (split : pool.state.waiters = before ++ waiter :: rest) :
    Attentive ((pool.setWaiters (before ++ rest)).signalWaiter waiter.wake)
      threads := by
  have unsignalled : pool.wakes waiter.wake = ⟨false, false⟩ :=
    (attentive.queued (by simp [split])).2
  unfold Attentive at attentive ⊢
  rw [split] at attentive
  simpa [signalWaiter, setWaiters, unsignalled] using attentive.dequeue false

theorem Attentive.wakeNext (attentive : Attentive pool threads) :
    Attentive pool.wakeNextWaiter threads := by
  rcases pool.wakeNextWaiter_cases with
    ⟨-, same⟩ | ⟨before, waiter, rest, split, -, woken⟩
  · rw [same]
    exact attentive
  · rw [woken]
    exact attentive.signal split

theorem Attentive.cancel (attentive : Attentive pool threads)
    (queueSeq : ℕ) : Attentive (pool.cancelWaiter queueSeq) threads := by
  rcases pool.cancelWaiter_cases queueSeq with
    ⟨-, same⟩ | ⟨before, waiter, rest, split, -, cancelled⟩
  · rw [same]
    exact attentive
  · rw [cancelled]
    unfold Attentive at attentive ⊢
    rw [split] at attentive
    simpa [signalWaiter, setWaiters, markCancelled] using attentive.dequeue true

theorem Attentive.proceed {thread : ℕ} {before after : Phase}
    (attentive : Attentive pool threads)
    (current : threads thread = some before)
    (awake : ∀ queueSeq, before ≠ .waiting queueSeq)
    (notWaiting : ∀ queueSeq, after ≠ .waiting queueSeq)
    (notEntering : ∀ queueSeq firstAttempt,
      after ≠ .entering queueSeq firstAttempt) :
    Attentive pool (Function.update threads thread (some after)) := by
  refine Wakeful.leave attentive (fun _ member => ?_) (fun _ _ => rfl)
    notWaiting notEntering
  exact attentive.absent (by simpa [current] using awake) member

end Operations

section Steps

variable {thread : ℕ} {choice : Choice} {pool next : TransferPool}
variable {before after : Phase} {events : List Event}
variable {threads : ℕ → Option Phase}

/-- Every step keeps the queue and the wakes in order. -/
theorem Move.attentive
    (move : Move thread choice pool before next after events)
    (attentive : Attentive pool threads)
    (current : threads thread = some before) :
    Attentive next (Function.update threads thread (some after)) := by
  cases move with
  | called =>
      refine Wakeful.enter attentive
        (fun _ member => attentive.absent (by simp [current]) member)
        (fun other different => Function.update_of_ne different _ _) ?_ true
      exact Function.update_self _ _ _
  | queued isOpen blocked =>
      unfold Attentive at attentive ⊢
      rw [isOpen] at attentive
      have entered := attentive.enqueue current
      rwa [← isOpen] at entered
  | woken signaled kept =>
      refine Wakeful.enter attentive
        (fun _ member => attentive.absent_of_signaled signaled member)
        (fun other different => Function.update_of_ne different _ _) ?_ false
      simp [kept]
  | withdrawn signaled cancelled =>
      exact Wakeful.leave attentive
        (fun _ member => attentive.absent_of_signaled signaled member)
        (fun other different => Function.update_of_ne different _ _)
        (by simp) (by simp)
  | @connectFailed seq _ isOpen failure =>
      have removed :
          Attentive { pool with state := pool.state.removeSlot seq } threads :=
        attentive
      exact removed.wakeNext.proceed current (by simp) (by simp) (by simp)
  | @discarded checkout useless =>
      have removed : Attentive
          { pool with state := pool.state.removeSlot checkout.seq } threads :=
        attentive
      exact removed.wakeNext.proceed current (by simp) (by simp) (by simp)
  | @checkedIn checkout isOpen healthy =>
      have restocked : Attentive
          { pool.tick choice with
            state := pool.state.setSlot checkout.seq
              ⟨some checkout.transport, (pool.tick choice).clock⟩ } threads :=
        attentive
      have woken := @Attentive.proceed _ _ _ _ .returned restocked.wakeNext
        current (by simp) (by simp) (by simp)
      unfold Attentive at woken ⊢
      simpa using woken
  | cancelledWaiter =>
      exact (attentive.cancel _).proceed current (by simp) (by simp) (by simp)
  | closed =>
      unfold Attentive
      rw [close_eq]
      exact Wakeful.leave attentive.drain (by simp) (fun _ _ => rfl)
        (by simp) (by simp)
  | _ => exact attentive.proceed current (by simp) (by simp) (by simp)

theorem signaled_signalWaiter (wake : ℕ) {other : ℕ}
    (signaled : (pool.wakes other).signaled = true) :
    ((pool.signalWaiter wake).wakes other).signaled = true := by
  rcases eq_or_ne other wake with rfl | different
  · simp [signalWaiter]
  · simpa [signalWaiter, different] using signaled

theorem signaled_wakeNextWaiter {other : ℕ}
    (signaled : (pool.wakes other).signaled = true) :
    (pool.wakeNextWaiter.wakes other).signaled = true := by
  rcases pool.wakeNextWaiter_cases with
    ⟨-, same⟩ | ⟨before, waiter, rest, -, -, woken⟩
  · rwa [same]
  · rw [woken]
    exact signaled_signalWaiter _ signaled

theorem signaled_cancelWaiter (queueSeq : ℕ) {other : ℕ}
    (signaled : (pool.wakes other).signaled = true) :
    ((pool.cancelWaiter queueSeq).wakes other).signaled = true := by
  rcases pool.cancelWaiter_cases queueSeq with
    ⟨-, same⟩ | ⟨before, waiter, rest, -, -, cancelled⟩
  · rwa [same]
  · rw [cancelled]
    apply signaled_signalWaiter
    rcases eq_or_ne other waiter.wake with rfl | different
    · simpa [markCancelled] using signaled
    · simpa [markCancelled, different] using signaled

theorem Move.signaled
    (move : Move thread choice pool before next after events) {other : ℕ}
    (different : other ≠ thread)
    (signaled : (pool.wakes other).signaled = true) :
    (next.wakes other).signaled = true := by
  cases move with
  | called => simpa [different] using signaled
  | woken mine kept => simpa [different] using signaled
  | withdrawn mine cancelled => simpa [different] using signaled
  | connectFailed isOpen failure => exact signaled_wakeNextWaiter signaled
  | discarded useless => exact signaled_wakeNextWaiter signaled
  | checkedIn isOpen healthy =>
      rw [ensureReaperLocked_wakes]
      exact signaled_wakeNextWaiter signaled
  | cancelledWaiter => exact signaled_cancelWaiter _ signaled
  | closed =>
      simp only [close_eq]
      split
      · rfl
      · exact signaled
  | _ => exact signaled

@[simp] theorem cancelled_signalWaiter (wake other : ℕ) :
    ((pool.signalWaiter wake).wakes other).cancelled =
      (pool.wakes other).cancelled := by
  rcases eq_or_ne other wake with rfl | different
  · simp [signalWaiter]
  · simp [signalWaiter, different]

@[simp] theorem cancelled_wakeNextWaiter (other : ℕ) :
    (pool.wakeNextWaiter.wakes other).cancelled =
      (pool.wakes other).cancelled := by
  rcases pool.wakeNextWaiter_cases with
    ⟨-, same⟩ | ⟨before, waiter, rest, -, -, woken⟩
  · rw [same]
  · rw [woken, cancelled_signalWaiter, setWaiters_wakes]

theorem cancelled_cancelWaiter (queueSeq : ℕ) {other : ℕ}
    (cancelled : (pool.wakes other).cancelled = true) :
    ((pool.cancelWaiter queueSeq).wakes other).cancelled = true := by
  rcases pool.cancelWaiter_cases queueSeq with
    ⟨-, same⟩ | ⟨before, waiter, rest, -, -, withdrawn⟩
  · rwa [same]
  · rw [withdrawn, cancelled_signalWaiter]
    rcases eq_or_ne other waiter.wake with rfl | different
    · simp [markCancelled]
    · simpa [markCancelled, different] using cancelled

theorem Move.cancelled
    (move : Move thread choice pool before next after events) {other : ℕ}
    (different : other ≠ thread)
    (cancelled : (pool.wakes other).cancelled = true) :
    (next.wakes other).cancelled = true := by
  cases move with
  | called => simpa [different] using cancelled
  | woken signaled kept => simpa [different] using cancelled
  | withdrawn signaled mine => simpa [different] using cancelled
  | connectFailed isOpen failure => simpa using cancelled
  | discarded useless => simpa using cancelled
  | checkedIn isOpen healthy =>
      rw [ensureReaperLocked_wakes, cancelled_wakeNextWaiter]
      exact cancelled
  | cancelledWaiter => exact cancelled_cancelWaiter _ cancelled
  | closed =>
      simp only [close_eq]
      split <;> exact cancelled
  | _ => exact cancelled

end Steps

/-! While anyone sleeps in the queue of an open pool, the capacity that is left
is no more than what signalled threads are going to claim. -/

def Covered (pool : TransferPool) (threads : ℕ → Option Phase) : Prop :=
  pool.state.closed = false → pool.state.waiters ≠ [] →
    maxTransferConnectionsPerSession - pool.state.busySeqs.card ≤
      (claiming pool.wakes threads).ncard

/-- The same bound on those ahead alone. -/
def CoveredFor (ahead : ℕ → Bool) (pool : TransferPool)
    (threads : ℕ → Option Phase) : Prop :=
  pool.state.closed = false →
    maxTransferConnectionsPerSession - pool.state.busySeqs.card ≤
      (claimingWhere ahead pool.wakes threads).ncard

section Coverage

variable {ahead : ℕ → Bool}
variable {pool next : TransferPool} {threads : ℕ → Option Phase}
variable {thread seq : ℕ} {choice : Choice} {before after : Phase}
variable {events : List Event} {seqs transports : ℕ → Option ℕ}

theorem CoveredFor.advance (covered : CoveredFor ahead pool threads)
    (sameClosed : next.state.closed = pool.state.closed)
    (sameBusy : next.state.busySeqs = pool.state.busySeqs)
    (others : ∀ other, other ≠ thread → next.wakes other = pool.wakes other)
    (running : (threads thread).any
        (Phase.claimsWhere ahead (pool.wakes thread)) =
      after.claimsWhere ahead (next.wakes thread)) :
    CoveredFor ahead next (Function.update threads thread (some after)) := by
  intro isOpen
  rw [sameBusy, claimingWhere_advance others running]
  exact covered (sameClosed ▸ isOpen)

theorem CoveredFor.claim (covered : CoveredFor ahead pool threads) (seq : ℕ)
    (sameClosed : next.state.closed = pool.state.closed)
    (sameWakes : next.wakes = pool.wakes)
    (taken : next.state.busySeqs = insert seq pool.state.busySeqs)
    (free : seq ∉ pool.state.busySeqs)
    (done : after.claimsWhere ahead (next.wakes thread) = false) :
    CoveredFor ahead next (Function.update threads thread (some after)) := by
  intro isOpen
  have bound := covered (sameClosed ▸ isOpen)
  have left := Set.pred_ncard_le_ncard_sdiff_singleton
    (claimingWhere ahead pool.wakes threads) thread
  rw [taken, Finset.card_insert_of_notMem free,
    claimingWhere_claimed (fun other _ => congrFun sameWakes other) done]
  omega

theorem CoveredFor.release (covered : CoveredFor ahead pool threads)
    (attentive : Attentive pool threads)
    (finite : (claiming pool.wakes threads).Finite)
    (first : ∀ waiter ∈ pool.state.waiters,
      (∀ other ∈ pool.state.waiters, waiter.queueSeq ≤ other.queueSeq) →
        ahead waiter.queueSeq = true)
    (waiting : pool.state.waiters ≠ [])
    (sameClosed : next.state.closed = pool.state.closed)
    (sameWaiters : next.state.waiters = pool.state.waiters)
    (sameWakes : next.wakes = pool.wakes)
    (freed : next.state.busySeqs = pool.state.busySeqs.erase seq)
    (busy : pool.state.closed = false → seq ∈ pool.state.busySeqs) :
    CoveredFor ahead next.wakeNextWaiter threads := by
  intro isOpen
  rw [wakeNextWaiter_closed, sameClosed] at isOpen
  rcases next.wakeNextWaiter_cases with
    ⟨empty, same⟩ | ⟨earlier, waiter, rest, split, least, woken⟩
  · rw [sameWaiters] at empty
    exact absurd empty waiting
  · rw [sameWaiters] at split least
    have member : waiter ∈ pool.state.waiters := by simp [split]
    obtain ⟨asleep, unsignalled⟩ := attentive.queued member
    have bound := covered isOpen
    have fresh : waiter.wake ∉ claimingWhere ahead pool.wakes threads := by
      simp [claimingWhere, asleep, unsignalled, Phase.claimsWhere]
    have wakes : next.wakeNextWaiter.wakes =
        Function.update pool.wakes waiter.wake ⟨true, false⟩ := by
      rw [woken]
      simp [signalWaiter, setWaiters, sameWakes, unsignalled]
    have busySeqs : next.wakeNextWaiter.state.busySeqs =
        pool.state.busySeqs.erase seq := by
      simpa [PoolState.busySeqs] using freed
    have positive : 0 < pool.state.busySeqs.card :=
      Finset.card_pos.mpr ⟨seq, busy isOpen⟩
    rw [wakes, claimingWhere_signal asleep (first waiter member least),
      Set.ncard_insert_of_notMem fresh (finite.subset claimingWhere_subset),
      busySeqs, Finset.card_erase_of_mem (busy isOpen)]
    omega

theorem CoveredFor.cancel (covered : CoveredFor ahead pool threads)
    (attentive : Attentive pool threads) (queueSeq : ℕ) :
    CoveredFor ahead (pool.cancelWaiter queueSeq) threads := by
  rcases pool.cancelWaiter_cases queueSeq with
    ⟨-, same⟩ | ⟨earlier, waiter, rest, split, -, cancelled⟩
  · rw [same]
    exact covered
  · intro isOpen
    obtain ⟨asleep, unsignalled⟩ :=
      attentive.queued (show waiter ∈ pool.state.waiters by simp [split])
    have bound := covered (by simpa using isOpen)
    rw [cancelled]
    simpa [signalWaiter, setWaiters, markCancelled, PoolState.busySeqs,
      claimingWhere_withdraw asleep unsignalled] using bound

theorem CoveredFor.of_closed (isClosed : pool.state.closed = true) :
    CoveredFor ahead pool threads := by
  intro isOpen
  simp [isClosed] at isOpen

/-- Every step keeps the capacity covered by those ahead, as long as the first
in line is one of them. -/
theorem Move.coveredFor
    (move : Move thread choice pool before next after events)
    (accounted : Accounted pool seqs transports)
    (ownSeq : seqs thread = before.seq?)
    (attentive : Attentive pool threads)
    (finite : (claiming pool.wakes threads).Finite)
    (first : ∀ waiter ∈ pool.state.waiters,
      (∀ other ∈ pool.state.waiters, waiter.queueSeq ≤ other.queueSeq) →
        ahead waiter.queueSeq = true)
    (waiting : pool.state.waiters ≠ [])
    (covered : CoveredFor ahead pool threads)
    (current : threads thread = some before) :
    CoveredFor ahead next (Function.update threads thread (some after)) := by
  have ownBusy : ∀ seq, before.seq? = some seq →
      pool.state.closed = false → seq ∈ pool.state.busySeqs := by
    intro seq own isOpen
    exact (accounted.busy isOpen seq).mpr ⟨thread, ownSeq.trans own⟩
  have swept : (pool.turn choice).state.busySeqs = pool.state.busySeqs :=
    turn_busySeqs
  cases move with
  | called =>
      exact covered.advance rfl rfl
        (fun other different => Function.update_of_ne different _ _)
        (by simp [current, Phase.claimsWhere])
  | refused isClosed => exact .of_closed isClosed
  | @queued queueSeq firstAttempt isOpen blocked =>
      rcases blocked with ⟨rfl, behind⟩ | ⟨noIdle, full⟩
      · exact covered.advance rfl turn_busySeqs (fun _ _ => rfl)
          (by simp [current, attentive.entering current, Phase.claimsWhere])
      · intro _
        have none := PoolState.exhausted noIdle full
        have left : maxTransferConnectionsPerSession -
            (pool.turn choice).state.busySeqs.card = 0 := by omega
        exact le_of_eq_of_le left (Nat.zero_le _)
  | woken signaled kept =>
      exact covered.advance rfl rfl
        (fun other different => Function.update_of_ne different _ _)
        (by simp [current, Phase.claimsWhere, signaled, kept])
  | withdrawn signaled cancelled =>
      exact covered.advance rfl rfl
        (fun other different => Function.update_of_ne different _ _)
        (by simp [current, Phase.claimsWhere, cancelled])
  | connectedLate isClosed => exact .of_closed isClosed
  | connected isOpen success =>
      exact covered.advance rfl rfl (fun _ _ => rfl)
        (by simp [current, Phase.claimsWhere])
  | cancelledWaiter =>
      exact (covered.cancel attentive _).advance rfl rfl (fun _ _ => rfl)
        (by simp [current, Phase.claimsWhere])
  | closed => exact .of_closed (by rw [close_eq])
  | reaperSwept due isOpen more =>
      exact covered.advance rfl turn_busySeqs (fun _ _ => rfl)
        (by simp [current, Phase.claimsWhere])
  | reaperDone due isOpen none =>
      exact covered.advance rfl turn_busySeqs (fun _ _ => rfl)
        (by simp [current, Phase.claimsWhere])
  | @reused _ seq _ _ _ isOpen admitted least idle =>
      refine covered.claim seq rfl rfl ?_ ?_ rfl
      · rw [← swept]
        apply PoolState.busySeqs_setSlot_busy
        rfl
      · rw [← swept, PoolState.mem_busySeqs]
        rintro ⟨slot, found, busy⟩
        obtain rfl := Option.some.inj (found.symm.trans idle)
        cases busy
  | reserved isOpen admitted noIdle room =>
      refine covered.claim pool.nextSeq rfl rfl ?_ ?_ rfl
      · rw [← swept]
        apply PoolState.busySeqs_setSlot_busy
        rfl
      · rw [PoolState.mem_busySeqs]
        rintro ⟨slot, found, -⟩
        exact (accounted.slotsIssued found).ne rfl
  | @connectFailed seq _ isOpen failure =>
      have released : CoveredFor ahead
          ({ pool with state := pool.state.removeSlot seq } :
            TransferPool).wakeNextWaiter threads :=
        covered.release attentive finite first waiting rfl rfl rfl
          PoolState.busySeqs_removeSlot (ownBusy seq rfl)
      exact released.advance rfl rfl (fun _ _ => rfl)
        (by simp [current, Phase.claimsWhere])
  | @discarded checkout useless =>
      have released : CoveredFor ahead
          ({ pool with state := pool.state.removeSlot checkout.seq } :
            TransferPool).wakeNextWaiter threads :=
        covered.release attentive finite first waiting rfl rfl rfl
          PoolState.busySeqs_removeSlot (ownBusy _ rfl)
      exact released.advance rfl rfl (fun _ _ => rfl)
        (by simp [current, Phase.claimsWhere])
  | @checkedIn checkout isOpen healthy =>
      have released : CoveredFor ahead
          ({ pool.tick choice with
              state := pool.state.setSlot checkout.seq
                ⟨some checkout.transport, (pool.tick choice).clock⟩ } :
            TransferPool).wakeNextWaiter threads :=
        covered.release attentive finite first waiting rfl rfl rfl
          (PoolState.busySeqs_setSlot_idle rfl) (ownBusy _ rfl)
      exact released.advance ensureReaperLocked_closed
        (by simp [PoolState.busySeqs])
        (fun _ _ => by rw [ensureReaperLocked_wakes])
        (by simp [current, Phase.claimsWhere])
  | _ =>
      exact covered.advance rfl rfl (fun _ _ => rfl)
        (by simp [current, Phase.claimsWhere])

theorem Move.first_queued
    (move : Move thread choice pool before next after events)
    (empty : pool.state.waiters = []) (isOpen : next.state.closed = false) :
    next.state.waiters = [] ∨
      maxTransferConnectionsPerSession ≤ next.state.busySeqs.card := by
  have unwoken : ∀ other : TransferPool, other.state.waiters = [] →
      other.wakeNextWaiter.state.waiters = [] := by
    intro other nobody
    rcases other.wakeNextWaiter_cases with
      ⟨-, same⟩ | ⟨earlier, waiter, rest, split, -, -⟩
    · rw [same, nobody]
    · simp [nobody] at split
  cases move with
  | queued isOpen blocked =>
      rcases blocked with ⟨-, behind⟩ | ⟨noIdle, full⟩
      · exact absurd empty behind
      · exact .inr (PoolState.exhausted noIdle full)
  | connectFailed isOpen failure => exact .inl (unwoken _ empty)
  | discarded useless => exact .inl (unwoken _ empty)
  | checkedIn isOpen healthy =>
      rw [ensureReaperLocked_waiters]
      exact .inl (unwoken _ empty)
  | @cancelledWaiter queueSeq =>
      rcases pool.cancelWaiter_cases queueSeq with
        ⟨-, same⟩ | ⟨earlier, waiter, rest, split, -, -⟩
      · exact .inl (by rw [same, empty])
      · simp [empty] at split
  | closed => simp [close_eq] at isOpen
  | _ => exact .inl empty

theorem Move.covered
    (move : Move thread choice pool before next after events)
    (accounted : Accounted pool seqs transports)
    (ownSeq : seqs thread = before.seq?)
    (attentive : Attentive pool threads)
    (finite : (claiming pool.wakes threads).Finite)
    (covered : Covered pool threads)
    (current : threads thread = some before) :
    Covered next (Function.update threads thread (some after)) := by
  intro isOpen waiting
  by_cases empty : pool.state.waiters = []
  · cases move.first_queued empty isOpen with
    | inl nobody => exact absurd nobody waiting
    | inr none => omega
  · have coveredAll : CoveredFor (fun _ => true) pool threads := by
      intro wasOpen
      rw [claimingWhere_true]
      exact covered wasOpen empty
    have kept := move.coveredFor accounted ownSeq attentive finite
      (fun _ _ _ => rfl) empty coveredAll current isOpen
    rwa [claimingWhere_true] at kept

end Coverage

structure Vigilant (config : Config TransferPool Phase) : Prop where
  balanced : Balanced config
  attentive : Attentive config.shared config.threads
  finite : {thread | config.threads thread ≠ none}.Finite
  covered : Covered config.shared config.threads

theorem vigilant_initial (idleTimeout : ℕ) :
    Vigilant (initial idleTimeout) where
  balanced := balanced_initial idleTimeout
  attentive := by
    constructor <;> simp [initial, newCyclic, PoolState.empty]
  finite := by simp [initial]
  covered := by
    intro _ waiting
    simp [initial, newCyclic, PoolState.empty] at waiting

theorem Vigilant.step {config next : Config TransferPool Phase}
    {action : ThreadAction Phase Choice} {events : List Event}
    (vigilant : Vigilant config)
    (stepped : program.machine.step config action = some (next, events)) :
    Vigilant next := by
  have claimed : (claiming config.shared.wakes config.threads).Finite :=
    (signalled_finite vigilant.finite).subset (claiming_subset _ _)
  refine ⟨balanced_step vigilant.balanced stepped, ?_,
    Program.spawned_finite vigilant.finite stepped, ?_⟩ <;>
  rcases Program.machine_step_cases stepped with
    ⟨thread, start, -, free, admitted, rfl, -⟩ |
    ⟨thread, choice, current, shared, phase, -, running, moved, rfl⟩
  · have outside : (∀ queueSeq, start ≠ .waiting queueSeq) ∧
        ∀ queueSeq firstAttempt, start ≠ .entering queueSeq firstAttempt := by
      cases start <;> simp_all [program]
    exact Wakeful.leave vigilant.attentive
      (fun _ member => vigilant.attentive.absent (by simp [free]) member)
      (fun _ _ => rfl) outside.1 outside.2
  · exact (step_move moved).attentive vigilant.attentive running
  · intro isOpen waiting
    have coveredAll :
        CoveredFor (fun _ => true) config.shared config.threads := by
      intro wasOpen
      rw [claimingWhere_true]
      exact vigilant.covered wasOpen waiting
    have unclaimed : (config.threads thread).any
        (Phase.claimsWhere (fun _ => true) (config.shared.wakes thread)) =
        start.claimsWhere (fun _ => true) (config.shared.wakes thread) := by
      cases start <;> simp_all [program, Phase.claimsWhere]
    have kept := coveredAll.advance rfl rfl (fun _ _ => rfl) unclaimed isOpen
    rwa [claimingWhere_true] at kept
  · exact (step_move moved).covered vigilant.balanced
      (Config.holdings_of_running running _) vigilant.attentive claimed
      vigilant.covered running

theorem vigilant {start config : Config TransferPool Phase}
    {actions : List (ThreadAction Phase Choice)} {log : List Event}
    (initially : Vigilant start)
    (run : program.machine.Run start actions log config) : Vigilant config :=
  run.always Vigilant initially Vigilant.step

/-- In an open pool with sleepers, what is left of the capacity is spoken for
by threads that were signalled and are about to enter; a closed pool has
signalled everyone. -/
theorem no_lost_wakeup {idleTimeout : ℕ} {config : Config TransferPool Phase}
    {actions : List (ThreadAction Phase Choice)} {log : List Event}
    (run : program.machine.Run (initial idleTimeout) actions log config) :
    (config.shared.state.closed = false → config.shared.state.waiters ≠ [] →
      maxTransferConnectionsPerSession - config.shared.state.busySeqs.card ≤
        (claiming config.shared.wakes config.threads).ncard ∧
      (claiming config.shared.wakes config.threads).ncard ≤
        (signalled config.shared.wakes config.threads).ncard) ∧
    (config.shared.state.closed = true →
      config.shared.state.waiters = [] ∧
      ∀ thread queueSeq,
        config.threads thread = some (.waiting queueSeq) →
          (config.shared.wakes thread).signaled = true) := by
  have vigilant := vigilant (vigilant_initial idleTimeout) run
  refine ⟨fun isOpen waiting => ⟨vigilant.covered isOpen waiting,
    Set.ncard_le_ncard (claiming_subset _ _)
      (signalled_finite vigilant.finite)⟩, fun isClosed => ?_⟩
  have empty := vigilant.attentive.drained isClosed
  refine ⟨empty, fun thread queueSeq asleep => ?_⟩
  simpa [empty] using vigilant.attentive.waiting asleep

/-- Five checkouts hold every slot, two more wait, and one is given back. -/
def crowdedRun : List (ThreadAction Phase Choice) :=
  (List.range 5).flatMap (fun thread =>
    [.spawn thread (.checkout thread), .advance thread {}, .advance thread {},
      .advance thread {}]) ++
  [.spawn 5 (.checkout 5), .advance 5 {}, .advance 5 {},
    .spawn 6 (.checkout 6), .advance 6 {}, .advance 6 {}, .advance 0 {}]

theorem no_lost_wakeup_crowded :
    ∃ config log,
      program.machine.Run (initial transferIdleTimeout) crowdedRun log config ∧
      config.shared.state.waiters = [⟨6, 6⟩] ∧
      maxTransferConnectionsPerSession - config.shared.state.busySeqs.card ≤
        (claiming config.shared.wakes config.threads).ncard := by
  have executed : ∃ config log,
      program.machine.Run (initial transferIdleTimeout) crowdedRun log config ∧
      config.shared.state.waiters = [⟨6, 6⟩] ∧
      config.shared.state.closed = false :=
    ⟨_, _, Machine.run_of_execute rfl, rfl, rfl⟩
  obtain ⟨config, log, run, waiting, isOpen⟩ := executed
  exact ⟨config, log, run, waiting,
    ((no_lost_wakeup run).1 isOpen (by simp [waiting])).1⟩

end TransferPool

end TitanSSH
