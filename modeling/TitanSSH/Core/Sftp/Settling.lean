import TitanSSH.Core.Sftp.PoolRefinement
import TitanSSH.Library.Settling

namespace TitanSSH

open Interleaving

namespace TransferPool

variable {thread : ℕ} {choice : Choice} {pool next : TransferPool}
variable {phase after : Phase} {events : List Event}

/-- A step of any thread in this phase, the closing one apart, signals at most
one waiter, and in the other phases none. -/
def Phase.wakes : Phase → ℕ
  | .connecting _ | .holding _ | .cancelWaiter _ => 1
  | _ => 0

theorem wakeNextWaiter_others (pool : TransferPool) :
    ∃ woken, ∀ other, other ≠ woken →
      pool.wakeNextWaiter.wakes other = pool.wakes other := by
  rcases pool.wakeNextWaiter_cases with
    ⟨-, same⟩ | ⟨before, waiter, rest, -, -, same⟩
  · exact ⟨0, fun other _ => by rw [same]⟩
  · refine ⟨waiter.wake, fun other different => ?_⟩
    simp [same, signalWaiter, different]

theorem cancelWaiter_others (pool : TransferPool) (queueSeq : ℕ) :
    ∃ woken, ∀ other, other ≠ woken →
      (pool.cancelWaiter queueSeq).wakes other = pool.wakes other := by
  rcases pool.cancelWaiter_cases queueSeq with
    ⟨-, same⟩ | ⟨before, waiter, rest, -, -, same⟩
  · exact ⟨0, fun other _ => by rw [same]⟩
  · refine ⟨waiter.wake, fun other different => ?_⟩
    simp [same, signalWaiter, markCancelled, different]

theorem Move.wakes_others
    (move : Move thread choice pool phase next after events)
    (aside : phase ≠ .close) :
    ∃ woken : Finset ℕ, woken.card ≤ phase.wakes ∧
      ∀ other, other ∉ woken → other ≠ thread →
        next.wakes other = pool.wakes other := by
  have single : ∀ reached : TransferPool, (∃ woken, ∀ other, other ≠ woken →
      reached.wakes other = pool.wakes other) → ∃ woken : Finset ℕ,
        woken.card ≤ 1 ∧ ∀ other, other ∉ woken → other ≠ thread →
          reached.wakes other = pool.wakes other := by
    rintro reached ⟨woken, others⟩
    exact ⟨{woken}, le_of_eq (Finset.card_singleton _), fun other absent _ =>
      others other (by simpa using absent)⟩
  cases move with
  | called => exact ⟨∅, le_rfl, fun other _ different => by simp [different]⟩
  | woken mine kept =>
      exact ⟨∅, le_rfl, fun other _ different => by simp [different]⟩
  | withdrawn mine cancelled =>
      exact ⟨∅, le_rfl, fun other _ different => by simp [different]⟩
  | connectedLate isClosed => exact ⟨∅, Nat.zero_le _, fun _ _ _ => rfl⟩
  | connected isOpen success => exact ⟨∅, Nat.zero_le _, fun _ _ _ => rfl⟩
  | connectFailed isOpen failure => exact single _ (wakeNextWaiter_others _)
  | discarded useless => exact single _ (wakeNextWaiter_others _)
  | checkedIn isOpen healthy =>
      refine single _ ?_
      simp only [ensureReaperLocked_wakes]
      exact wakeNextWaiter_others _
  | cancelledWaiter => exact single _ (cancelWaiter_others _ _)
  | closed => exact absurd rfl aside
  | _ => exact ⟨∅, le_rfl, fun _ _ _ => rfl⟩

end TransferPool

namespace Sftp

/-! What the threads of the service still have to do, told by their phases.  A
worker that queues is counted as ready to go once more for each signal. -/

def poolEffort : TransferPool.Phase → ℕ
  | .checkout _ => 22
  | .entering _ _ => 21
  | .waiting _ => 20
  | .connecting _ => 19
  | _ => 0

def Continuation.effort : Continuation → ℕ
  | .ended _ => 0
  | .dropPermit _ => 1
  | .fail _ _ => 4
  | .transfer _ _ => 10
  | .cleanup _ remaining => 1 + 5 * remaining.card

def TransitionTurn.effort : TransitionTurn → ℕ
  | .emit => 1
  | .removeToken => 2
  | .lookup => 3
  | .registry => 4

/-- The steps that a thread can take on its own; the number of threads stands
for the tasks that a cleanup can find, and for those it can wake up. -/
def Phase.effort (threads : ℕ) : Phase → ℕ
  | .called (.registerSession _) => 1 + 2 * threads
  | .called (.enqueueDownload ..) | .called (.enqueueUpload ..) => 29
  | .called (.cancelTask _) => 6
  | .called (.cleanupSession _) => 4 + 7 * threads
  | .called (.clearTerminalTasks _) => 1
  | .checkTarget _ => 28
  | .statLookup _ => 27
  | .stat _ => 26
  | .insertTask _ => 25
  | .registerEntry _ => 24
  | .work _ => 23
  | .checkout _ phase => poolEffort phase
  | .permit _ _ => 16
  | .permitted _ _ => 15
  | .transfer _ _ => 10
  | .release .. => 9
  | .checkin .. => 8
  | .transition turn _ next => turn.effort + next.effort
  | .dropPermit _ => 1
  | .cancelScan _ remaining => 5 + remaining.card
  | .cancelToken .. => 4
  | .cancelWaiter .. => 3
  | .cancelFallback _ => 1
  | .closePool _ => 3 + 7 * threads
  | .collect _ => 2 + 5 * threads
  | .cancelActive _ remaining => 1 + 5 * remaining.card
  | .ended _ | .reaper _ _ | .returned => 0

/-- What the shared state adds to it: a signal, and the sessions that a
cancellation is going to look through. -/
def Phase.extra (shared : SftpShared) (thread : ℕ) : Phase → ℕ
  | .checkout job (.waiting _) =>
      if ((shared.pool job.sessionId).wakes thread).signaled then 2 else 0
  | .called (.cancelTask _) => shared.handles.card
  | _ => 0

/-- How many threads a step of a thread in this phase can give more to do. -/
def Phase.wakes (threads : ℕ) : Phase → ℕ
  | .checkout _ phase => phase.wakes
  | .checkin .. | .cancelWaiter .. => 1
  | .closePool _ | .called (.registerSession _) => threads
  | _ => 0

def weigh (threads : ℕ) (shared : SftpShared) (thread : ℕ) (phase : Phase) :
    ℕ :=
  phase.effort threads + phase.extra shared thread

variable {thread : ℕ} {choice : Choice} {shared next : SftpShared}
variable {phase after : Phase} {events log : List Event}
variable {job : TransferJob} {taskId sessionId : String}

/-! What a step gives the other threads to do. -/

theorem Phase.extra_le {other : ℕ} {current : Phase}
    (handles : next.handles.card ≤ shared.handles.card)
    (wakes : ∀ sessionId, (next.pool sessionId).wakes other =
      (shared.pool sessionId).wakes other) :
    current.extra next other ≤ current.extra shared other := by
  unfold extra
  split
  · rw [wakes]
  · exact handles
  · exact le_rfl

theorem Phase.extra_le_two {other : ℕ} {current : Phase}
    (handles : next.handles.card ≤ shared.handles.card) :
    current.extra next other ≤ current.extra shared other + 2 := by
  unfold extra
  split
  · split <;> omega
  · omega
  · exact Nat.zero_le _

theorem wakes_setPool {pool reached : TransferPool} {other : ℕ}
    (same : shared.pool sessionId = pool)
    (kept : reached.wakes other = pool.wakes other) (session : String) :
    ((shared.setPool sessionId reached).pool session).wakes other =
      (shared.pool session).wakes other := by
  rw [SftpShared.pool_setPool]
  split
  · next here => rw [here, same, kept]
  · rfl

theorem Move.others {threads : Finset ℕ}
    (move : Move thread choice shared phase next after events)
    (plain : phase.Plain) :
    ∃ woken : Finset ℕ, woken.card ≤ phase.wakes threads.card ∧
      ∀ other ∈ threads, other ≠ thread → ∀ current : Phase,
        current.extra next other ≤
          current.extra shared other + if other ∈ woken then 2 else 0 := by
  have nobody : next.handles.card ≤ shared.handles.card →
      (∀ other, other ≠ thread → ∀ sessionId,
        (next.pool sessionId).wakes other =
          (shared.pool sessionId).wakes other) →
      ∃ woken : Finset ℕ, woken.card ≤ phase.wakes threads.card ∧
        ∀ other ∈ threads, other ≠ thread → ∀ current : Phase,
          current.extra next other ≤
            current.extra shared other + if other ∈ woken then 2 else 0 := by
    intro handles wakes
    exact ⟨∅, Nat.zero_le _, fun other _ different current =>
      Nat.le_add_right_of_le
        (Phase.extra_le handles (wakes other different))⟩
  have some : ∀ {reached : TransferPool} {session : String},
      next = shared.setPool session reached →
      (∃ woken : Finset ℕ, woken.card ≤ phase.wakes threads.card ∧
        ∀ other, other ∉ woken → other ≠ thread →
          reached.wakes other = (shared.pool session).wakes other) →
      ∃ woken : Finset ℕ, woken.card ≤ phase.wakes threads.card ∧
        ∀ other ∈ threads, other ≠ thread → ∀ current : Phase,
          current.extra next other ≤
            current.extra shared other + if other ∈ woken then 2 else 0 := by
    rintro reached session rfl ⟨woken, few, others⟩
    refine ⟨woken, few, fun other _ different current => ?_⟩
    split
    · exact Phase.extra_le_two le_rfl
    · next unwoken =>
        exact Phase.extra_le le_rfl
          (wakes_setPool rfl (others other unwoken different))
  cases move with
  | @registered session fresh =>
      refine ⟨threads, le_rfl, fun other member _ current => ?_⟩
      rw [if_pos member]
      unfold Phase.extra
      split
      · split <;> omega
      · have grown := Finset.card_insert_le session shared.handles
        simp only
        omega
      · exact Nat.zero_le _
  | @enqueued task =>
      refine nobody le_rfl fun other _ session => ?_
      rcases eq_or_ne session task.sessionId with rfl | different
      · simp [SftpShared.setHandle, SftpShared.pool]
      · simp [SftpShared.setHandle, SftpShared.pool, different]
  | @pooled job start finish pool logged step =>
      refine some rfl (step.wakes_others ?_)
      rintro rfl
      exact plain
  | @checkedIn job held healthy conclusion =>
      have step : TransferPool.Move thread
          { choice.pool with healthy := healthy } (shared.pool job.sessionId)
          (.holding held)
          ((shared.pool job.sessionId).checkin choice.pool held healthy)
          .returned [.checkedIn thread held healthy] :=
        TransferPool.stepHolding_move rfl
      exact some rfl (step.wakes_others (by rintro ⟨⟩))
  | @waiterCancelled taskId session queueSeq =>
      have step : TransferPool.Move thread {} (shared.pool session)
          (.cancelWaiter queueSeq)
          ((shared.pool session).cancelWaiter queueSeq) .finished [] :=
        .cancelledWaiter
      exact some rfl (step.wakes_others (by rintro ⟨⟩))
  | @cleanupStarted session present =>
      exact nobody (Finset.card_le_card (Finset.erase_subset _ _))
        fun _ _ _ => rfl
  | @poolClosed session =>
      refine ⟨threads, le_rfl, fun other member _ current => ?_⟩
      rw [if_pos member]
      exact Phase.extra_le_two le_rfl
  | @tokenRemoved change continuation =>
      exact nobody le_rfl fun other _ session => by simp
  | @reaped session start finish pool logged step =>
      refine nobody le_rfl fun other different session => ?_
      have none : start.wakes = 0 := by
        cases start <;> first | rfl | exact plain.elim
      obtain ⟨woken, few, others⟩ := step.wakes_others (by
        rintro rfl
        exact plain)
      rw [none] at few
      refine wakes_setPool rfl (others other ?_ different) session
      rw [Finset.card_eq_zero.mp (Nat.le_zero.mp few)]
      exact Finset.notMem_empty _
  | _ => exact nobody le_rfl fun _ _ _ => rfl

/-! What a step leaves its own thread to do. -/

theorem weigh_transition (threads : ℕ) (turn : TransitionTurn)
    (change : SftpTaskStatusEvent) (continuation : Continuation) :
    weigh threads shared thread (.transition turn change continuation) =
      turn.effort + continuation.effort := rfl

theorem resume_weigh (threads : ℕ) (continuation : Continuation) :
    weigh threads shared thread (resume continuation) = continuation.effort := by
  cases continuation <;> rfl

theorem concluding_weigh (threads : ℕ) (conclusion : Conclusion) :
    weigh threads shared thread (concluding job conclusion) ≤ 5 := by
  obtain ⟨status, error, permitted⟩ := conclusion
  cases permitted
  · exact (by decide : 4 + 0 + 0 ≤ 5)
  · exact (by decide : 4 + 1 + 0 ≤ 5)

theorem afterPoolStep_weigh {threads : ℕ} {start finish : TransferPool.Phase}
    {pool : TransferPool} {logged : List TransferPool.Event}
    (move : TransferPool.Move thread choice.pool (shared.pool job.sessionId)
      start pool finish logged) (checking : checkingOut start)
    (unsignalled : ∀ queueSeq firstAttempt, start = .entering queueSeq
      firstAttempt →
        ((shared.pool job.sessionId).wakes thread).signaled = false) :
    weigh threads (shared.setPool job.sessionId pool) thread
        (afterPoolStep job finish) + 1 + 2 * start.wakes ≤
      weigh threads shared thread (.checkout job start) := by
  cases move with
  | called => exact le_rfl
  | refused isClosed => exact (by decide : 0 + 1 + 2 * 0 ≤ 21)
  | @queued queueSeq firstAttempt isOpen blocked =>
      have quiet := unsignalled queueSeq firstAttempt rfl
      simp [weigh, afterPoolStep, Phase.effort, Phase.extra, poolEffort,
        TransferPool.Phase.wakes, TransferPool.turn, TransferPool.sweep,
        TransferPool.tick, TransferPool.setWaiters, quiet]
  | reused isOpen admitted least idle =>
      exact (by decide : 16 + 1 + 2 * 0 ≤ 21)
  | reserved isOpen admitted noIdle room =>
      exact (by decide : 19 + 1 + 2 * 0 ≤ 21)
  | woken signaled kept =>
      simp [weigh, afterPoolStep, Phase.effort, Phase.extra, poolEffort,
        TransferPool.Phase.wakes, signaled]
  | withdrawn signaled cancelled =>
      simp [weigh, afterPoolStep, afterFailure, Phase.effort, Phase.extra,
        poolEffort, TransferPool.Phase.wakes, TransitionTurn.effort,
        Continuation.effort, signaled]
  | connectedLate isClosed => exact (by decide : 0 + 1 + 2 * 1 ≤ 19)
  | connected isOpen success => exact (by decide : 16 + 1 + 2 * 1 ≤ 19)
  | connectFailed isOpen failure => exact (by decide : 8 + 1 + 2 * 1 ≤ 19)
  | _ => exact checking.elim

def Phase.isReaper : Phase → Bool
  | .reaper _ _ => true
  | _ => false

theorem stepCancelScan_weigh {threads : ℕ} {remaining : Finset String}
    (stepped : stepCancelScan choice shared taskId remaining =
      some (next, after, events)) :
    weigh threads next thread after + 1 ≤ 5 + remaining.card := by
  unfold stepCancelScan at stepped
  split at stepped
  · simp only [Option.some.injEq, Prod.mk.injEq] at stepped
    obtain ⟨rfl, rfl, rfl⟩ := stepped
    simp only [weigh, Phase.effort, Phase.extra]
    omega
  · split at stepped
    · next member =>
        have fewer := Finset.card_erase_add_one member
        split at stepped <;>
        · simp only [Option.some.injEq, Prod.mk.injEq] at stepped
          obtain ⟨rfl, rfl, rfl⟩ := stepped
          simp only [weigh, Phase.effort, Phase.extra]
          omega
    · cases stepped

/-- A step leaves its thread less to do, by more than it gives to others. -/
theorem Move.spends {threads : ℕ}
    (move : Move thread choice shared phase next after events)
    (plain : phase.Plain) (calls : phase.isReaper = false)
    (scans : ∀ taskId remaining, phase ≠ .cancelScan taskId remaining)
    (unsignalled : ∀ job queueSeq firstAttempt,
      phase = .checkout job (.entering queueSeq firstAttempt) →
        ((shared.pool job.sessionId).wakes thread).signaled = false)
    (active : ∀ sessionId, (activeTasks shared sessionId).card ≤ threads) :
    weigh threads next thread after + 1 + 2 * phase.wakes threads ≤
      weigh threads shared thread phase := by
  cases move with
  | registered fresh =>
      simp only [weigh, Phase.effort, Phase.extra, Phase.wakes]
      omega
  | refused error asking =>
      cases phase with
      | called call =>
          cases call <;> first
            | exact (by decide : 0 + 1 + 2 * 0 ≤ 29)
            | simp [Phase.asking] at asking
      | checkTarget request => exact (by decide : 0 + 1 + 2 * 0 ≤ 28)
      | statLookup request => exact (by decide : 0 + 1 + 2 * 0 ≤ 27)
      | stat request => exact (by decide : 0 + 1 + 2 * 0 ≤ 26)
      | _ => simp [Phase.asking] at asking
  | @accepted call request asking present =>
      cases call <;> first
        | exact (by decide : 28 + 1 + 2 * 0 ≤ 29)
        | simp [Phase.asking] at asking
  | @unoccupied request free =>
      unfold afterCheck
      split
      · exact (by decide : 27 + 1 + 2 * 0 ≤ 28)
      · exact (by decide : 25 + 1 + 2 * 0 ≤ 28)
  | orphaned absent => exact (by decide : 8 + 1 + 2 * 0 ≤ 23)
  | panicked panic => exact (by decide : 8 + 1 + 2 * 1 ≤ 19)
  | @pooled job start finish pool logged step =>
      exact afterPoolStep_weigh step plain fun queueSeq firstAttempt same =>
        unsignalled job queueSeq firstAttempt (by rw [same])
  | @dropped job held healthy conclusion absent =>
      exact Nat.add_le_add_right (concluding_weigh threads conclusion) 1 |>.trans
        (by decide : 5 + 1 ≤ 9)
  | @checkedIn job held healthy conclusion =>
      exact Nat.add_le_add_right (concluding_weigh threads conclusion) 3 |>.trans
        (by decide : 5 + 3 ≤ 8)
  | @rejected change continuation illegal =>
      rw [resume_weigh, weigh_transition]
      simp only [TransitionTurn.effort, Phase.wakes]
      omega
  | @taken change continuation tasks task applied =>
      simp only [weigh, Phase.effort, Phase.extra, Phase.wakes]
      split <;> simp only [TransitionTurn.effort] <;> omega
  | @tokenLookup change continuation =>
      simp only [weigh, Phase.effort, Phase.extra, Phase.wakes]
      split <;> simp only [TransitionTurn.effort] <;> omega
  | @tokenRemoved change continuation =>
      simp only [weigh, Phase.effort, Phase.extra, Phase.wakes,
        TransitionTurn.effort]
      omega
  | @emitted change continuation =>
      rw [resume_weigh, weigh_transition]
      simp only [TransitionTurn.effort, Phase.wakes]
      omega
  | scanStarted =>
      simp only [weigh, Phase.effort, Phase.extra, Phase.wakes]
      omega
  | scanned => exact absurd rfl (scans _ _)
  | scanMissed missing => exact absurd rfl (scans _ _)
  | scanFound found => exact absurd rfl (scans _ _)
  | cleanupStarted present =>
      simp only [weigh, Phase.effort, Phase.extra, Phase.wakes]
      omega
  | cleanupIdle absent =>
      simp only [weigh, Phase.effort, Phase.extra, Phase.wakes]
      omega
  | poolClosed =>
      simp only [weigh, Phase.effort, Phase.extra, Phase.wakes]
      omega
  | @collected sessionId =>
      have few := active sessionId
      simp only [weigh, Phase.effort, Phase.extra, Phase.wakes]
      omega
  | purged =>
      simp only [weigh, Phase.effort, Phase.extra, Phase.wakes]
      omega
  | @activeCancelled sessionId taskId remaining member =>
      have fewer := Finset.card_erase_add_one member
      simp only [weigh, Phase.effort, Phase.extra, Phase.wakes,
        TransitionTurn.effort, Continuation.effort]
      omega
  | reaped step => cases calls
  | _ =>
      simp [weigh, Phase.effort, Phase.extra, Phase.wakes, poolEffort,
        TransitionTurn.effort, Continuation.effort]

/-! Runs in which no call begins any more. -/

/-- The threads of calls and of their workers. -/
def caller (config : Config SftpShared Phase) (thread : ℕ) : Bool :=
  (config.threads thread).any (!·.isReaper)

/-- Calls go on and no new one begins; reapers come and go. -/
def settling (log : List Event) (config : Config SftpShared Phase)
    (action : ThreadAction Phase Choice) : Bool :=
  connectorReturns log config action &&
    match action with
    | .spawn _ start => start.isReaper
    | .advance _ _ => true

/-- The action is a step of one of the threads that were calls at that time. -/
def advances (config : Config SftpShared Phase) :
    ThreadAction Phase Choice → Bool
  | .spawn _ _ => false
  | .advance thread _ => caller config thread

theorem Move.isReaper
    (move : Move thread choice shared phase next after events) :
    after.isReaper = phase.isReaper := by
  cases move with
  | refused error asking =>
      cases phase <;> first | rfl | simp [Phase.asking] at asking
  | @unoccupied request free =>
      unfold afterCheck
      split <;> rfl
  | @pooled job start finish pool logged step =>
      cases finish with
      | failed error => cases error <;> rfl
      | _ => rfl
  | @dropped job held healthy conclusion absent =>
      obtain ⟨status, error, permitted⟩ := conclusion
      cases permitted <;> rfl
  | @checkedIn job held healthy conclusion =>
      obtain ⟨status, error, permitted⟩ := conclusion
      cases permitted <;> rfl
  | @rejected change continuation illegal => cases continuation <;> rfl
  | @emitted change continuation => cases continuation <;> rfl
  | _ => rfl

/-- The callers of a configuration are among these threads, and the reapers are
not. -/
def Called (threads : Finset ℕ) (config : Config SftpShared Phase) : Prop :=
  ∀ thread, caller config thread = true ↔ thread ∈ threads

theorem Called.running {threads : Finset ℕ} {config : Config SftpShared Phase}
    (called : Called threads config)
    (running : config.threads thread = some phase) :
    phase.isReaper = false ↔ thread ∈ threads := by
  rw [← called thread, caller, running]
  simp

theorem Called.step {threads : Finset ℕ} {config final : Config SftpShared Phase}
    {action : ThreadAction Phase Choice} (called : Called threads config)
    (permitted : settling log config action = true)
    (stepped : service.machine.step config action = some (final, events)) :
    Called threads final := by
  intro other
  rw [← called other]
  rcases Program.machine_step_cases stepped with
    ⟨thread, start, rfl, free, admitted, rfl, rfl⟩ |
    ⟨thread, choice, current, shared, after, -, running, moved, rfl⟩ <;>
  rcases eq_or_ne other thread with rfl | different
  · have reaps : start.isReaper = true := by
      simpa [settling, connectorReturns] using permitted
    simp [caller, free, reaps]
  · simp [caller, different]
  · simp [caller, running, (step_move moved).isReaper]
  · simp [caller, different]

theorem activeTasks_card_le {threads : Finset ℕ}
    {config : Config SftpShared Phase} (staffed : Staffed config)
    (called : Called threads config) (sessionId : String) :
    (activeTasks config.shared sessionId).card ≤ threads.card := by
  have workers : ∀ taskId ∈ activeTasks config.shared sessionId,
      ∃ worker ∈ threads, config.holdings Phase.task? worker = some taskId := by
    intro taskId member
    obtain ⟨entry, found⟩ := mem_activeTasks member
    obtain ⟨worker, holds⟩ := staffed.tokens sessionId taskId entry found
    obtain ⟨phase, running, employed⟩ := Option.bind_eq_some_iff.mp holds
    refine ⟨worker, (called.running running).mp ?_, ?_⟩
    · cases phase <;> first | rfl | cases employed
    · exact (Config.holdings_of_running running _).trans
        (Phase.task?_of_job employed)
  choose! worker counted holds using workers
  refine Finset.card_le_card_of_injOn worker counted ?_
  intro first firstMember second secondMember same
  have mine := holds first firstMember
  rw [same, holds second secondMember] at mine
  exact (Option.some.inj mine).symm

/-- What bounds the steps of the callers: their weight, which no step raises. -/
theorem weight_step {threads : Finset ℕ} {config final : Config SftpShared Phase}
    {action : ThreadAction Phase Choice} (queueing : Queueing config)
    (plain : ∀ thread phase, config.threads thread = some phase → phase.Plain)
    (called : Called threads config)
    (permitted : settling log config action = true)
    (stepped : service.machine.step config action = some (final, events)) :
    final.weight threads (weigh threads.card) +
        (if advances config action then 1 else 0) ≤
      config.weight threads (weigh threads.card) := by
  rcases Program.machine_step_cases stepped with
    ⟨thread, start, rfl, free, admitted, rfl, rfl⟩ |
    ⟨thread, choice, current, shared, after, rfl, running, moved, rfl⟩
  · refine Config.weight_aside ?_ fun _ _ _ _ => le_rfl
    rw [← called thread, caller, free]
    exact Bool.false_ne_true
  · have move := step_move moved
    have own := plain thread current running
    obtain ⟨woken, few, others⟩ := @Move.others _ _ _ _ _ _ _ threads move own
    have lighter : ∀ other ∈ threads, other ≠ thread → ∀ waiting,
        config.threads other = some waiting →
          weigh threads.card shared other waiting ≤
            weigh threads.card config.shared other waiting +
              if other ∈ woken then 2 else 0 := by
      intro other member different waiting _
      rw [weigh, weigh, Nat.add_assoc]
      exact Nat.add_le_add_left (others other member different waiting) _
    cases calls : current.isReaper with
    | true =>
        have outside : thread ∉ threads := by
          rw [← called.running running, calls]
          simp
        have none : woken = ∅ := by
          cases current <;> first
            | exact Finset.card_eq_zero.mp (Nat.le_zero.mp few)
            | cases calls
        have uncounted : caller config thread = false := by
          simp [caller, running, calls]
        simp only [advances, uncounted, Bool.false_eq_true, if_false]
        refine Config.weight_aside outside fun other member waiting found => ?_
        have different : other ≠ thread := by
          rintro rfl
          exact outside member
        simpa [none] using lighter other member different waiting found
    | false =>
        have counted := (called.running running).mp calls
        have isCaller : caller config thread = true := (called thread).mpr counted
        simp only [advances, isCaller, if_true]
        refine Config.weight_advance counted running ?_ lighter
        have spent : weigh threads.card shared thread after + 1 +
            2 * current.wakes threads.card ≤
              weigh threads.card config.shared thread current := by
          by_cases scans : ∃ taskId remaining,
              current = .cancelScan taskId remaining
          · obtain ⟨taskId, remaining, rfl⟩ := scans
            exact stepCancelScan_weigh moved
          · refine move.spends own calls (fun taskId remaining same =>
              scans ⟨taskId, remaining, same⟩) ?_
              (activeTasks_card_le queueing.orderly.staffed called)
            rintro job queueSeq firstAttempt rfl
            have known := queueing.orderly.staffed.concerned thread _
              job.sessionId running (.inr (.inr ⟨job, rfl, rfl⟩))
            have unsignalled := (queueing.attentive known).entering
              ((Config.holdings_of_running running _).trans (if_pos rfl))
            rw [unsignalled]
        omega

theorem Limited.step {config final : Config SftpShared Phase}
    {action : ThreadAction Phase Choice} (limited : Limited config)
    (orderly : Orderly config) (closing : Closing log config)
    (stepped : service.machine.step config action = some (final, events)) :
    Limited final := by
  rcases Program.machine_step_cases stepped with
    ⟨thread, start, -, free, admitted, rfl, -⟩ |
    ⟨thread, choice, current, shared, after, -, running, moved, rfl⟩
  · exact limited.spawn free admitted
  · exact limited.advance orderly closing running (step_move moved)

/-- What holds of every run, for what follows. -/
structure Governed (log : List Event) (config : Config SftpShared Phase) :
    Prop where
  hosting : Hosting log config
  limited : Limited config
  finite : {thread | config.threads thread ≠ none}.Finite

theorem Governed.step {config final : Config SftpShared Phase}
    {action : ThreadAction Phase Choice} (governed : Governed log config)
    (permitted : connectorReturns log config action = true)
    (stepped : service.machine.step config action = some (final, events)) :
    Governed (log ++ events) final where
  hosting := governed.hosting.step permitted stepped
  limited := governed.limited.step governed.hosting.queueing.orderly
    governed.hosting.closing stepped
  finite := Program.spawned_finite governed.finite stepped

theorem initial_governed : Governed [] initial where
  hosting := initial_hosting
  limited := initial_limited
  finite := by simp [initial]

theorem connectorReturns_of_settling {config : Config SftpShared Phase}
    {action : ThreadAction Phase Choice}
    (permitted : settling log config action = true) :
    connectorReturns log config action = true := by
  simp only [settling, Bool.and_eq_true] at permitted
  exact permitted.1

/-- Once no call begins any more, the calls and their workers have only so many
steps left, whatever the order in which they take them. -/
theorem steps_bounded {config : Config SftpShared Phase}
    (governed : Governed log config) :
    ∃ bound, ∀ {more later final},
      service.machine.RunWhere settling log config more later final →
        more.countP (advances config) ≤ bound := by
  have finite : {thread | caller config thread = true}.Finite := by
    refine governed.finite.subset fun thread calls none => ?_
    simp [caller, none] at calls
  have called : Called finite.toFinset config := by
    intro thread
    simp
  refine ⟨config.weight finite.toFinset (weigh finite.toFinset.card), ?_⟩
  intro more later final run
  suffices spent : more.countP (advances config) +
      final.weight finite.toFinset (weigh finite.toFinset.card) ≤
        config.weight finite.toFinset (weigh finite.toFinset.card) from
    Nat.le_of_add_right_le spent
  refine @Machine.RunWhere.countP_le _ _ _ _ _ _ _ _ _ _
    (fun config => config.weight finite.toFinset (weigh finite.toFinset.card))
    (advances config) run
    (fun log final => Governed log final ∧ Called finite.toFinset final)
    ⟨governed, called⟩ ?_ ?_
  · rintro past state action next logged ⟨governed, called⟩ permitted stepped
    exact ⟨governed.step (connectorReturns_of_settling permitted) stepped,
      called.step permitted stepped⟩
  · rintro past state action next logged ⟨governed, still⟩ permitted stepped
    have same : advances config action = advances state action := by
      cases action with
      | spawn thread start => rfl
      | advance thread choice =>
          rw [Bool.eq_iff_iff]
          exact (called thread).trans (still thread).symm
    rw [same]
    exact weight_step governed.hosting.queueing governed.limited.plain still
      permitted stepped

end Sftp

end TitanSSH
