import TitanSSH.Core.Transfer.PoolWakeups
import TitanSSH.Library.GuardedRuns

namespace TitanSSH

namespace TransferPool

open Interleaving

/-! The order in which the waiters of a pool are served. -/

def Returned (log : List Event) (thread : ℕ) : Prop :=
  (∃ checkout, .obtained thread checkout ∈ log) ∨
  ∃ error, .failed thread error ∈ log

/-- A queued checkout that has been woken: its thread is on the way back to the
lock, or connects. -/
def recalled (config : Config TransferPool Phase) (thread : ℕ) : Bool :=
  match config.threads thread with
  | some (.waiting _) => (config.shared.wakes thread).signaled
  | some (.entering _ firstAttempt) => !firstAttempt
  | some (.connecting _) => true
  | _ => false

/-- A checkout finds a slot only when nobody with a smaller number has been
woken and is still to return. -/
def inTurn (past : List Event) (config : Config TransferPool Phase) :
    ThreadAction Phase Choice → Bool
  | .spawn _ _ => true
  | .advance thread choice =>
      match config.threads thread with
      | some (.entering queueSeq firstAttempt) =>
          config.shared.state.closed ||
          decide ((config.shared.turn choice).Blocked firstAttempt) ||
          past.all fun
            | .queued other ahead =>
                !(decide (ahead < queueSeq) && recalled config other)
            | _ => true
      | _ => true

/-! What the log says about where a thread is. -/

section Traces

variable {thread other queueSeq : ℕ} {choice : Choice}
variable {pool next : TransferPool} {before after : Phase}
variable {log events : List Event} {phase : Option Phase}

structure Traced (log : List Event) (thread : ℕ) (phase : Option Phase) :
    Prop where
  queued : ∀ queueSeq, phase = some (.waiting queueSeq) ∨
    phase = some (.entering queueSeq false) → .queued thread queueSeq ∈ log
  pending : ∀ queueSeq, .queued thread queueSeq ∈ log → Returned log thread ∨
    phase = some (.waiting queueSeq) ∨
    phase = some (.entering queueSeq false) ∨
    ∃ seq, phase = some (.connecting seq)
  obtained : ∀ checkout, .obtained thread checkout ∈ log →
    phase = some (.holding checkout) ∨ phase = some .returned

theorem Returned.append (returned : Returned log thread)
    (events : List Event) : Returned (log ++ events) thread := by
  rcases returned with ⟨checkout, obtained⟩ | ⟨error, failed⟩
  · exact .inl ⟨checkout, List.mem_append_left _ obtained⟩
  · exact .inr ⟨error, List.mem_append_left _ failed⟩

theorem Returned.now_failed {error : CheckoutError} :
    Returned (log ++ [.failed thread error]) thread :=
  .inr ⟨error, List.mem_append_right _ (List.mem_singleton_self _)⟩

theorem Move.own_events
    (move : Move thread choice pool before next after events) :
    (∀ other queueSeq, .queued other queueSeq ∈ events →
      other = thread ∧ after = .waiting queueSeq) ∧
    (∀ other checkout, .obtained other checkout ∈ events →
      other = thread ∧ after = .holding checkout) ∧
    ∀ other error, .failed other error ∈ events → other = thread := by
  cases move <;> simp [sweepEvent]

theorem Traced.aside (traced : Traced log thread phase)
    (unqueued : ∀ queueSeq, .queued thread queueSeq ∉ events)
    (unobtained : ∀ checkout, .obtained thread checkout ∉ events) :
    Traced (log ++ events) thread phase := by
  constructor
  · intro queueSeq found
    exact List.mem_append_left _ (traced.queued queueSeq found)
  · intro queueSeq member
    cases List.mem_append.mp member with
    | inl earlier =>
        exact (traced.pending queueSeq earlier).imp_left (·.append events)
    | inr now => exact absurd now (unqueued queueSeq)
  · intro checkout member
    cases List.mem_append.mp member with
    | inl earlier => exact traced.obtained checkout earlier
    | inr now => exact absurd now (unobtained checkout)

theorem Traced.spawn {start : Phase} (traced : Traced log thread none)
    (admitted : program.admits start = true) :
    Traced log thread (some start) := by
  constructor
  · intro queueSeq found
    cases start <;> simp_all [program]
  · intro queueSeq member
    exact (traced.pending queueSeq member).imp_right (by simp)
  · intro checkout member
    simpa using traced.obtained checkout member

theorem Traced.step (traced : Traced log thread (some before))
    (move : Move thread choice pool before next after events) :
    Traced (log ++ events) thread (some after) := by
  obtain ⟨queues, obtains, -⟩ := move.own_events
  constructor
  · intro number found
    cases move with
    | queued isOpen blocked =>
        obtain rfl : _ = number := by simpa using found
        simp
    | woken signaled kept =>
        obtain rfl : _ = number := by simpa using found
        exact List.mem_append_left _ (traced.queued _ (.inl rfl))
    | _ => simp at found
  · intro number member
    cases List.mem_append.mp member with
    | inl earlier =>
        rcases traced.pending number earlier with
          returned | asleep | entering | ⟨seq, connecting⟩
        · exact .inl (returned.append events)
        · cases asleep
          cases move with
          | woken signaled kept => exact .inr (.inr (.inl rfl))
          | withdrawn signaled cancelled => exact .inl .now_failed
        · cases entering
          cases move with
          | refused isClosed => exact .inl .now_failed
          | queued isOpen blocked => exact .inr (.inl rfl)
          | reused isOpen admitted least idle =>
              exact .inl (.inl ⟨_, List.mem_append_right _
                (List.mem_cons_of_mem _ (List.mem_singleton_self _))⟩)
          | reserved isOpen admitted noIdle room =>
              exact .inr (.inr (.inr ⟨_, rfl⟩))
        · cases connecting
          cases move with
          | connectedLate isClosed => exact .inl .now_failed
          | connected isOpen success =>
              exact .inl (.inl ⟨_, List.mem_append_right _
                (List.mem_singleton_self _)⟩)
          | connectFailed isOpen failure => exact .inl .now_failed
    | inr now => exact .inr (.inl (congrArg some (queues thread number now).2))
  · intro checkout member
    cases List.mem_append.mp member with
    | inl earlier =>
        cases traced.obtained checkout earlier with
        | inl holding =>
            cases holding
            cases move with
            | discarded useless => exact .inr rfl
            | checkedIn isOpen healthy => exact .inr rfl
        | inr done =>
            cases done
            cases move
    | inr now => exact .inl (congrArg some (obtains thread checkout now).2)

def Logged (log : List Event) (config : Config TransferPool Phase) : Prop :=
  ∀ thread, Traced log thread (config.threads thread)

theorem Logged.step {config final : Config TransferPool Phase}
    {action : ThreadAction Phase Choice} (logged : Logged log config)
    (stepped : program.machine.step config action = some (final, events)) :
    Logged (log ++ events) final := by
  intro another
  rcases Program.machine_step_cases stepped with
    ⟨thread, start, -, free, admitted, rfl, rfl⟩ |
    ⟨thread, choice, current, shared, phase, -, running, moved, rfl⟩
  · have aside := @Traced.aside another log (program.opened thread start)
      (config.threads another) (logged another)
      (by cases start <;> simp [program]) (by cases start <;> simp [program])
    simp only
    rcases eq_or_ne another thread with rfl | different
    · rw [Function.update_self]
      rw [free] at aside
      exact aside.spawn admitted
    · rw [Function.update_of_ne different]
      exact aside
  · have move := step_move moved
    obtain ⟨queues, obtains, -⟩ := move.own_events
    simp only
    rcases eq_or_ne another thread with rfl | different
    · rw [Function.update_self]
      have traced := logged another
      rw [running] at traced
      exact traced.step move
    · rw [Function.update_of_ne different]
      exact (logged another).aside
        (fun queueSeq now => different (queues another queueSeq now).1)
        (fun checkout now => different (obtains another checkout now).1)

theorem logged_initial (idleTimeout : ℕ) : Logged [] (initial idleTimeout) := by
  intro thread
  constructor <;> simp [initial]

end Traces

/-! What a step does to the queue and to the claims. -/

section Queue

variable {thread other : ℕ} {choice : Choice}
variable {pool next : TransferPool} {before after : Phase}
variable {events : List Event} {threads : ℕ → Option Phase}

theorem busySeqs_lt_of_admitted {state : PoolState}
    (bounded : state.connections.size ≤ maxTransferConnectionsPerSession)
    (admitted : ¬(state.idleMinSeq = none ∧ state.isFull = true)) :
    state.busySeqs.card < maxTransferConnectionsPerSession := by
  cases least : state.idleMinSeq with
  | none =>
      have room : ¬state.isFull = true := fun full => admitted ⟨least, full⟩
      have small : state.connections.size < maxTransferConnectionsPerSession := by
        simpa [PoolState.isFull] using room
      exact (Finset.card_le_card PoolState.busySeqs_subset).trans_lt small
  | some seq =>
      obtain ⟨transport, lastUsed, idle⟩ := PoolState.lookup_idleMinSeq least
      have strict : state.busySeqs ⊂ state.connections.domain := by
        refine Finset.ssubset_iff_of_subset PoolState.busySeqs_subset |>.mpr ?_
        refine ⟨seq, FiniteMap.mem_iff.mpr ⟨_, idle⟩, ?_⟩
        rw [PoolState.mem_busySeqs]
        rintro ⟨slot, found, busy⟩
        obtain rfl := Option.some.inj (found.symm.trans idle)
        cases busy
      exact (Finset.card_lt_card strict).trans_le bounded

theorem mem_wakeNextWaiter {waiter : Waiter}
    (member : waiter ∈ pool.wakeNextWaiter.state.waiters) :
    waiter ∈ pool.state.waiters := by
  rcases pool.wakeNextWaiter_cases with
    ⟨-, same⟩ | ⟨earlier, woken, rest, split, -, signalled⟩
  · rwa [same] at member
  · rw [signalled] at member
    have inside : waiter ∈ earlier ++ rest := member
    rw [split]
    simp only [List.mem_append, List.mem_cons] at inside ⊢
    exact inside.imp_right .inr

theorem mem_cancelWaiter {queueSeq : ℕ} {waiter : Waiter}
    (member : waiter ∈ (pool.cancelWaiter queueSeq).state.waiters) :
    waiter ∈ pool.state.waiters := by
  rcases pool.cancelWaiter_cases queueSeq with
    ⟨-, same⟩ | ⟨earlier, found, rest, split, -, cancelled⟩
  · rwa [same] at member
  · rw [cancelled] at member
    have inside : waiter ∈ earlier ++ rest := member
    rw [split]
    simp only [List.mem_append, List.mem_cons] at inside ⊢
    exact inside.imp_right .inr

/-- Nobody is in the queue who was not, but a checkout that has just found
itself blocked. -/
theorem Move.waiter_before
    (move : Move thread choice pool before next after events)
    {waiter : Waiter} (member : waiter ∈ next.state.waiters) :
    waiter ∈ pool.state.waiters ∨
    ∃ firstAttempt, before = .entering waiter.queueSeq firstAttempt ∧
      waiter.wake = thread ∧ next.state = { (pool.turn choice).state with
        waiters := pool.state.waiters ++ [waiter] } ∧
      (pool.turn choice).Blocked firstAttempt := by
  cases move with
  | queued isOpen blocked =>
      cases List.mem_append.mp member with
      | inl earlier => exact .inl earlier
      | inr now =>
          obtain rfl := List.mem_singleton.mp now
          exact .inr ⟨_, rfl, rfl, rfl, blocked⟩
  | connectFailed isOpen failure =>
      have earlier := mem_wakeNextWaiter member
      exact .inl earlier
  | discarded useless =>
      have earlier := mem_wakeNextWaiter member
      exact .inl earlier
  | checkedIn isOpen healthy =>
      rw [ensureReaperLocked_waiters] at member
      have earlier := mem_wakeNextWaiter member
      exact .inl earlier
  | cancelledWaiter => exact .inl (mem_cancelWaiter member)
  | closed =>
      rw [close_eq] at member
      cases member
  | _ => exact .inl member

theorem wakeNextWaiter_wakes (other : ℕ) :
    pool.wakeNextWaiter.wakes other = pool.wakes other ∨
    ∃ waiter ∈ pool.state.waiters, waiter.wake = other ∧
      ∀ another ∈ pool.state.waiters, waiter.queueSeq ≤ another.queueSeq := by
  rcases pool.wakeNextWaiter_cases with
    ⟨-, same⟩ | ⟨earlier, waiter, rest, split, least, woken⟩
  · exact .inl (by rw [same])
  · rcases eq_or_ne other waiter.wake with rfl | different
    · exact .inr ⟨waiter, by simp [split], rfl, least⟩
    · refine .inl ?_
      rw [woken]
      simp [signalWaiter, different]

/-- A thread that claims a slot did so before, or it is the first in line and
has just been woken. -/
theorem Move.claims_before
    (move : Move thread choice pool before next after events)
    (attentive : Attentive pool threads)
    (current : threads thread = some before)
    (isOpen : next.state.closed = false)
    (claims : other ∈ claiming next.wakes
      (Function.update threads thread (some after))) :
    other ∈ claiming pool.wakes threads ∨
    ∃ waiter ∈ pool.state.waiters, waiter.wake = other ∧
      ∀ another ∈ pool.state.waiters, waiter.queueSeq ≤ another.queueSeq := by
  simp only [claiming, Set.mem_ofPred_eq] at claims ⊢
  rcases eq_or_ne other thread with rfl | different
  · rw [Function.update_self, Option.any_some] at claims
    rw [current, Option.any_some]
    cases move with
    | queued isOpen blocked =>
        simp [Phase.claims, attentive.entering current] at claims
    | woken signaled kept => simp [Phase.claims, signaled, kept]
    | _ => simp [Phase.claims] at claims
  · rw [Function.update_of_ne different] at claims
    have unchanged : next.wakes other = pool.wakes other ∨
        (next.wakes other).cancelled = true ∧ (∃ queueSeq,
          threads other = some (.waiting queueSeq)) ∨
        ∃ waiter ∈ pool.state.waiters, waiter.wake = other ∧
          ∀ another ∈ pool.state.waiters,
            waiter.queueSeq ≤ another.queueSeq := by
      cases move with
      | called => exact .inl (Function.update_of_ne different _ _)
      | woken signaled kept => exact .inl (Function.update_of_ne different _ _)
      | withdrawn signaled cancelled =>
          exact .inl (Function.update_of_ne different _ _)
      | connectFailed isOpen failure =>
          exact (wakeNextWaiter_wakes other).imp_right .inr
      | discarded useless => exact (wakeNextWaiter_wakes other).imp_right .inr
      | checkedIn isOpen healthy =>
          rw [ensureReaperLocked_wakes]
          exact (wakeNextWaiter_wakes other).imp_right .inr
      | @cancelledWaiter queueSeq =>
          rcases pool.cancelWaiter_cases queueSeq with
            ⟨-, same⟩ | ⟨earlier, waiter, rest, split, -, cancelled⟩
          · exact .inl (by rw [same])
          · rcases eq_or_ne other waiter.wake with rfl | apart
            · refine .inr (.inl ⟨?_, waiter.queueSeq,
                (attentive.queued (by simp [split])).1⟩)
              rw [cancelled]
              simp [signalWaiter, markCancelled]
            · refine .inl ?_
              rw [cancelled]
              simp [signalWaiter, markCancelled, apart]
      | closed => simp [close_eq] at isOpen
      | _ => exact .inl rfl
    rcases unchanged with same | ⟨cancelled, queueSeq, asleep⟩ | woken
    · rw [same] at claims
      exact .inl claims
    · simp [asleep, Phase.claims, cancelled] at claims
    · exact .inr woken

end Queue

/-! A checkout that arrived behind a waiter. -/

section Order

variable {first second early late : ℕ}
variable {log events : List Event} {config final : Config TransferPool Phase}

def aheadOf (early number : ℕ) : Bool := decide (number ≤ early)

/-- The second checkout has found no slot; and when both have been woken and the
first is back in the queue, all that is left goes to those before the first. -/
structure Trailing (first early second late : ℕ) (log : List Event)
    (config : Config TransferPool Phase) : Prop where
  unobtained : ∀ checkout, .obtained second checkout ∉ log
  phase : (∃ firstAttempt,
      config.threads second = some (.entering late firstAttempt)) ∨
    config.threads second = some (.waiting late) ∨
    ∃ error, config.threads second = some (.failed error)
  covered : second ∈ claiming config.shared.wakes config.threads →
    ⟨early, first⟩ ∈ config.shared.state.waiters →
      CoveredFor (aheadOf early) config.shared config.threads

theorem inTurn_spec {choice : Choice} {firstAttempt : Bool}
    (entering : config.threads second = some (.entering late firstAttempt))
    (isOpen : config.shared.state.closed = false)
    (admitted : ¬(config.shared.turn choice).Blocked firstAttempt)
    (allowed : inTurn log config (.advance second choice) = true)
    {other number : ℕ} (queued : .queued other number ∈ log)
    (ahead : number < late) : recalled config other = false := by
  simp only [inTurn, entering, isOpen, admitted, decide_false, Bool.or_self,
    Bool.false_or, List.all_eq_true] at allowed
  simpa [ahead] using allowed _ queued

/-- Let in, it would overtake somebody who has been woken. -/
theorem Trailing.blocked {choice : Choice} {firstAttempt : Bool}
    (trailing : Trailing first early second late log config)
    (vigilant : Vigilant config) (logged : Logged log config)
    (queued : .queued first early ∈ log) (unreturned : ¬Returned log first)
    (ahead : early < late)
    (entering : config.threads second = some (.entering late firstAttempt))
    (isOpen : config.shared.state.closed = false)
    (allowed : inTurn log config (.advance second choice) = true) :
    (config.shared.turn choice).Blocked firstAttempt := by
  by_contra admitted
  have settled := @inTurn_spec second late log config choice firstAttempt
    entering isOpen admitted allowed
  have waiting : ⟨early, first⟩ ∈ config.shared.state.waiters := by
    have unrecalled := settled queued ahead
    rcases (logged first).pending early queued with
      returned | asleep | entered | ⟨seq, connecting⟩
    · exact absurd returned unreturned
    · simp only [recalled, asleep] at unrecalled
      simpa [unrecalled] using vigilant.attentive.waiting asleep
    · simp [recalled, entered] at unrecalled
    · simp [recalled, connecting] at unrecalled
  cases firstAttempt with
  | true => exact admitted (.inl ⟨rfl, List.ne_nil_of_mem waiting⟩)
  | false =>
      have claims : second ∈ claiming config.shared.wakes config.threads := by
        simp [claiming, entering, Phase.claims]
      have bound := trailing.covered claims waiting isOpen
      have room := busySeqs_lt_of_admitted
        (vigilant.balanced.turn choice).bounded
        (fun full => admitted (.inr full))
      rw [turn_busySeqs] at room
      have somebody : (claimingWhere (aheadOf early) config.shared.wakes
          config.threads).ncard ≠ 0 := by omega
      obtain ⟨other, member⟩ := Set.nonempty_of_ncard_ne_zero somebody
      simp only [claimingWhere, Set.mem_ofPred_eq] at member
      cases running : config.threads other with
      | none => simp [running] at member
      | some phase =>
          rw [running, Option.any_some] at member
          cases phase with
          | waiting number =>
              simp only [Phase.claimsWhere, aheadOf, Bool.and_eq_true,
                decide_eq_true_eq] at member
              have unrecalled := settled
                ((logged other).queued number (.inl running)) (by omega)
              simp [recalled, running, member.1.1] at unrecalled
          | entering number again =>
              simp only [Phase.claimsWhere, aheadOf, Bool.and_eq_true,
                Bool.not_eq_true', decide_eq_true_eq] at member
              obtain ⟨rfl, small⟩ := member
              have unrecalled := settled
                ((logged other).queued number (.inr running)) (by omega)
              simp [recalled, running] at unrecalled
          | _ => simp [Phase.claimsWhere] at member

theorem Trailing.running (trailing : Trailing first early second late log config) :
    config.threads second ≠ none := by
  rcases trailing.phase with ⟨again, entering⟩ | asleep | ⟨error, failed⟩
  · simp [entering]
  · simp [asleep]
  · simp [failed]

theorem Trailing.spawn {thread : ℕ} {start : Phase}
    (trailing : Trailing first early second late log config)
    (free : config.threads thread = none)
    (admitted : program.admits start = true) :
    Trailing first early second late (log ++ program.opened thread start)
      ⟨config.shared, Function.update config.threads thread (some start)⟩ := by
  have different : second ≠ thread := by
    rintro rfl
    exact trailing.running free
  have unclaimed : (config.threads thread).any
      (Phase.claimsWhere (aheadOf early) (config.shared.wakes thread)) =
      start.claimsWhere (aheadOf early) (config.shared.wakes thread) := by
    cases start <;> simp_all [program, Phase.claimsWhere]
  constructor
  · intro checkout member
    cases List.mem_append.mp member with
    | inl earlier => exact trailing.unobtained checkout earlier
    | inr now => cases start <;> simp [program] at now
  · simpa [Function.update_of_ne different] using trailing.phase
  · intro claims waiting
    have before : second ∈ claiming config.shared.wakes config.threads := by
      simpa [claiming, Function.update_of_ne different] using claims
    exact (trailing.covered before waiting).advance rfl rfl (fun _ _ => rfl)
      unclaimed

/-- The first is back in the queue: what is left goes to those before it. -/
theorem Trailing.covered_step {thread : ℕ} {choice : Choice} {current after : Phase}
    {next : TransferPool}
    (trailing : Trailing first early second late log config)
    (vigilant : Vigilant config) (logged : Logged log config)
    (queued : .queued first early ∈ log) (unreturned : ¬Returned log first)
    (ahead : early < late)
    (running : config.threads thread = some current)
    (move : Move thread choice config.shared current next after events)
    (claims : second ∈ claiming next.wakes
      (Function.update config.threads thread (some after)))
    (waiting : ⟨early, first⟩ ∈ next.state.waiters) :
    CoveredFor (aheadOf early) next
      (Function.update config.threads thread (some after)) := by
  intro isOpen
  rcases move.waiter_before waiting with
    before | ⟨firstAttempt, rfl, same, state, blocked⟩
  · have claimed : second ∈ claiming config.shared.wakes config.threads := by
      rcases move.claims_before vigilant.attentive running isOpen claims with
        already | ⟨waiter, member, own, least⟩
      · exact already
      · have asleep := (vigilant.attentive.queued member).1
        have number : waiter.queueSeq = late := by
          rw [own] at asleep
          rcases trailing.phase with ⟨again, entering⟩ | sleeping | ⟨error, failed⟩
          · simp [asleep] at entering
          · simpa [asleep] using sleeping
          · simp [asleep] at failed
        have smallest : waiter.queueSeq ≤ early := least _ before
        omega
    have finite : (claiming config.shared.wakes config.threads).Finite :=
      (signalled_finite vigilant.finite).subset (claiming_subset _ _)
    refine move.coveredFor vigilant.balanced ?_ vigilant.attentive finite ?_
      (List.ne_nil_of_mem before) (trailing.covered claimed before) running
      isOpen
    · exact Config.holdings_of_running running _
    · intro waiter member least
      have smallest : waiter.queueSeq ≤ early := least _ before
      simpa [aheadOf] using smallest
  · subst same
    rcases blocked with ⟨rfl, -⟩ | ⟨noIdle, full⟩
    · rcases (logged first).pending early queued with
        returned | asleep | entered | ⟨seq, connecting⟩
      · exact absurd returned unreturned
      · simp [asleep] at running
      · simp [entered] at running
      · simp [connecting] at running
    · have none := PoolState.exhausted noIdle full
      have busySeqs : next.state.busySeqs =
          (config.shared.turn choice).state.busySeqs := by
        rw [state]
        rfl
      rw [busySeqs]
      omega

theorem Trailing.step {action : ThreadAction Phase Choice}
    (trailing : Trailing first early second late log config)
    (vigilant : Vigilant config) (logged : Logged log config)
    (queued : .queued first early ∈ log)
    (unreturned : ¬Returned log first) (ahead : early < late)
    (allowed : inTurn log config action = true)
    (stepped : program.machine.step config action = some (final, events)) :
    Trailing first early second late (log ++ events) final := by
  rcases Program.machine_step_cases stepped with
    ⟨thread, start, -, free, admitted, rfl, rfl⟩ |
    ⟨thread, choice, current, shared, phase, rfl, running, moved, rfl⟩
  · exact trailing.spawn free admitted
  · have move := step_move moved
    have covered := fun claims waiting => @Trailing.covered_step first second
      early late log events config thread choice current phase shared trailing
      vigilant logged queued unreturned ahead running move claims waiting
    rcases eq_or_ne second thread with rfl | different
    · have blocked : ∀ {firstAttempt},
          current = .entering late firstAttempt →
          config.shared.state.closed = false →
          (config.shared.turn choice).Blocked firstAttempt := by
        rintro firstAttempt rfl isOpen
        exact trailing.blocked vigilant logged queued unreturned ahead running
          isOpen allowed
      have own : (∃ again, current = .entering late again) ∨
          current = .waiting late ∨ ∃ error, current = .failed error := by
        simpa [running] using trailing.phase
      have unobtained : (∀ checkout, phase ≠ .holding checkout) →
          ∀ checkout, .obtained second checkout ∉ log ++ events := by
        intro empty checkout member
        obtain ⟨-, obtains, -⟩ := move.own_events
        cases List.mem_append.mp member with
        | inl earlier => exact trailing.unobtained checkout earlier
        | inr now => exact empty checkout (obtains second checkout now).2
      rcases own with ⟨again, rfl⟩ | rfl | ⟨error, rfl⟩
      · cases move with
        | refused isClosed =>
            exact ⟨unobtained nofun,
              .inr (.inr ⟨_, Function.update_self _ _ _⟩), covered⟩
        | queued isOpen behind =>
            exact ⟨unobtained nofun, .inr (.inl (Function.update_self _ _ _)),
              covered⟩
        | reused isOpen entered least idle =>
            exact absurd (blocked rfl isOpen) entered
        | reserved isOpen entered noIdle room =>
            exact absurd (blocked rfl isOpen) entered
      · cases move with
        | woken signaled kept =>
            exact ⟨unobtained nofun, .inl ⟨_, Function.update_self _ _ _⟩,
              covered⟩
        | withdrawn signaled cancelled =>
            exact ⟨unobtained nofun,
              .inr (.inr ⟨_, Function.update_self _ _ _⟩), covered⟩
      · cases move
    · obtain ⟨-, obtains, -⟩ := move.own_events
      refine ⟨?_, ?_, covered⟩
      · intro checkout member
        cases List.mem_append.mp member with
        | inl earlier => exact trailing.unobtained checkout earlier
        | inr now => exact different (obtains second checkout now).1
      · simpa [Function.update_of_ne different] using trailing.phase

/-- As long as every checkout takes its slot in turn, a checkout that finds a
waiter with a smaller number as it arrives obtains no connection before the
checkout of that waiter has returned. -/
theorem served_in_order {idleTimeout : ℕ}
    {actions laterActions : List (ThreadAction Phase Choice)}
    {later : List Event} {checkout : TransferCheckout}
    (run : program.machine.Run (initial idleTimeout) actions log config)
    (queued : .queued first early ∈ log)
    (arriving : config.threads second = some (.entering late true))
    (ahead : early < late)
    (continued : program.machine.RunWhere inTurn log config laterActions later
      final)
    (obtained : .obtained second checkout ∈ log ++ later) :
    Returned (log ++ later) first := by
  have start : Vigilant config :=
    vigilant (vigilant_initial idleTimeout) run
  have logged : Logged log config := by
    apply run.invariant (logged_initial idleTimeout)
    intro past state action next stepEvents logged stepped
    exact logged.step stepped
  have arrived : Trailing first early second late log config := by
    refine ⟨?_, .inl ⟨_, arriving⟩, ?_⟩
    · intro another member
      simpa [arriving] using (logged second).obtained another member
    · intro claims
      simp [claiming, arriving, Phase.claims] at claims
  have carried := continued.invariant
    (fun past state => Vigilant state ∧ Logged past state ∧
      .queued first early ∈ past ∧
      (Returned past first ∨ Trailing first early second late past state))
    ⟨start, logged, queued, .inr arrived⟩ (by
      rintro past state action next stepEvents
        ⟨vigilant, logged, waiting, served⟩ allowed stepped
      refine ⟨vigilant.step stepped, logged.step stepped,
        List.mem_append_left _ waiting, ?_⟩
      by_cases returned : Returned past first
      · exact .inl (returned.append stepEvents)
      · exact .inr ((served.resolve_left returned).step vigilant logged waiting
          returned ahead allowed stepped))
  cases carried.2.2.2 with
  | inl returned => exact returned
  | inr trailing => exact absurd obtained (trailing.unobtained checkout)

/-- Five checkouts hold every slot and a sixth waits; the seventh has been
called. -/
def fullPool : List (ThreadAction Phase Choice) :=
  (List.range 5).flatMap (fun thread =>
    [.spawn thread (.checkout thread), .advance thread {}, .advance thread {},
      .advance thread {}]) ++
  [.spawn 5 (.checkout 5), .advance 5 {}, .advance 5 {},
    .spawn 6 (.checkout 6), .advance 6 {}]

theorem served_in_order_full :
    ∃ log config later final checkout,
      program.machine.Run (initial transferIdleTimeout) fullPool log config ∧
      program.machine.RunWhere inTurn log config
        [.advance 6 {}, .advance 0 {}, .advance 5 {}, .advance 5 {},
          .advance 1 {}, .advance 6 {}, .advance 6 {}] later final ∧
      .obtained 6 checkout ∈ log ++ later ∧ Returned (log ++ later) 5 := by
  have executed : ∃ log config later final checkout,
      program.machine.Run (initial transferIdleTimeout) fullPool log config ∧
      program.machine.RunWhere inTurn log config
        [.advance 6 {}, .advance 0 {}, .advance 5 {}, .advance 5 {},
          .advance 1 {}, .advance 6 {}, .advance 6 {}] later final ∧
      .obtained 6 checkout ∈ log ++ later ∧ .queued 5 5 ∈ log ∧
      config.threads 6 = some (.entering 6 true) :=
    ⟨_, _, _, _, _, Machine.run_of_execute rfl,
      Machine.runWhere_of_executeWhere rfl,
      List.mem_iff_getElem?.mpr ⟨31, rfl⟩, List.mem_iff_getElem?.mpr ⟨22, rfl⟩,
      rfl⟩
  obtain ⟨log, config, later, final, checkout, run, continued, obtained, queued,
    arriving⟩ := executed
  exact ⟨log, config, later, final, checkout, run, continued, obtained,
    served_in_order run queued arriving (by decide) continued obtained⟩

/-- A connection is given back and wakes the sixth, but the seventh is at the
lock first and takes it. -/
theorem newcomer_takes_released_slot :
    ∃ log config later final checkout,
      program.machine.Run (initial transferIdleTimeout)
        (fullPool ++ [.advance 0 {}]) log config ∧
      .queued 5 5 ∈ log ∧ config.threads 5 = some (.waiting 5) ∧
      config.threads 6 = some (.entering 6 true) ∧
      program.machine.Run config [.advance 6 {}] later final ∧
      final.shared.state.closed = false ∧
      .obtained 6 checkout ∈ log ++ later ∧ ¬Returned (log ++ later) 5 := by
  have executed : ∃ log config later final checkout,
      program.machine.Run (initial transferIdleTimeout)
        (fullPool ++ [.advance 0 {}]) log config ∧
      .queued 5 5 ∈ log ∧ config.threads 5 = some (.waiting 5) ∧
      config.threads 6 = some (.entering 6 true) ∧
      program.machine.Run config [.advance 6 {}] later final ∧
      final.shared.state.closed = false ∧
      .obtained 6 checkout ∈ log ++ later ∧
      (log ++ later).all (fun
        | .obtained 5 _ | .failed 5 _ => false
        | _ => true) = true :=
    ⟨_, _, _, _, _, Machine.run_of_execute rfl,
      List.mem_iff_getElem?.mpr ⟨22, rfl⟩, rfl, rfl, Machine.run_of_execute rfl,
      rfl, List.mem_iff_getElem?.mpr ⟨26, rfl⟩, rfl⟩
  obtain ⟨log, config, later, final, checkout, run, queued, waiting, arriving,
    continued, isOpen, obtained, silent⟩ := executed
  refine ⟨log, config, later, final, checkout, run, queued, waiting, arriving,
    continued, isOpen, obtained, ?_⟩
  rw [List.all_eq_true] at silent
  rintro (⟨another, member⟩ | ⟨error, member⟩)
  · simpa using silent _ member
  · simpa using silent _ member

end Order

end TransferPool

end TitanSSH
