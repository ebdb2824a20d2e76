import TitanSSH.Core.Sftp.Withdrawal
import TitanSSH.Core.Transfer.PoolWakeups

namespace TitanSSH

open Interleaving

namespace SftpShared

variable {shared : SftpShared} {sessionId other : String}

@[simp] theorem pool_setPool (pool : TransferPool) :
    (shared.setPool sessionId pool).pool other =
      if other = sessionId then pool else shared.pool other := by
  rcases eq_or_ne other sessionId with rfl | different
  · simp [setPool, setHandle, SftpShared.pool]
  · simp [setPool, setHandle, SftpShared.pool, different]

@[simp] theorem pool_setTokens (tokens : FiniteMap String CancelEntry) :
    (shared.setTokens sessionId tokens).pool other = shared.pool other := by
  rcases eq_or_ne other sessionId with rfl | different
  · simp [setTokens, setHandle, SftpShared.pool]
  · simp [setTokens, setHandle, SftpShared.pool, different]

/-- A registered session whose pool has been closed. -/
def Shut (shared : SftpShared) (sessionId : String) : Prop :=
  sessionId ∈ shared.registered ∧ (shared.pool sessionId).state.closed = true

end SftpShared

namespace Sftp

/-! The pool of a session, as the threads of the service use it. -/

/-- Where a thread stands in the pool of a session. -/
def Phase.inPool (sessionId : String) : Phase → Option TransferPool.Phase
  | .checkout job phase =>
      if job.sessionId = sessionId then some phase else none
  | .reaper session phase => if session = sessionId then some phase else none
  | _ => none

/-- A step of the service is a step of the pool, or none at all. -/
inductive PoolUse (thread : ℕ) (before after : Option TransferPool.Phase)
    (pool : TransferPool) : TransferPool → Prop
  | aside (left : before.filter TransferPool.Phase.queueing = none)
      (arrived : after.filter TransferPool.Phase.queueing = none) :
      PoolUse thread before after pool pool
  | moved {choice : TransferPool.Choice} {start finish : TransferPool.Phase}
      {next : TransferPool} {events : List TransferPool.Event}
      (move : TransferPool.Move thread choice pool start next finish events)
      (seen : (some start).filter TransferPool.Phase.queueing =
        before.filter TransferPool.Phase.queueing)
      (shown : after.filter TransferPool.Phase.queueing =
        (some finish).filter TransferPool.Phase.queueing) :
      PoolUse thread before after pool next

section Use

variable {thread : ℕ} {before after : Option TransferPool.Phase}
variable {pool next : TransferPool}

theorem PoolUse.attentive {threads : ℕ → Option TransferPool.Phase}
    (use : PoolUse thread before after pool next)
    (attentive : TransferPool.Attentive pool threads)
    (current : threads thread = before) :
    TransferPool.Attentive next (Function.update threads thread after) := by
  cases use with
  | aside left arrived =>
      refine attentive.congr fun other => ?_
      rcases eq_or_ne other thread with rfl | different
      · rw [Function.update_self, arrived, current, left]
      · rw [Function.update_of_ne different]
  | @moved choice start finish _ events move seen shown =>
      have placed : TransferPool.Attentive pool
          (Function.update threads thread (some start)) := by
        refine attentive.congr fun other => ?_
        rcases eq_or_ne other thread with rfl | different
        · rw [Function.update_self, seen, current]
        · rw [Function.update_of_ne different]
      refine (move.attentive placed (Function.update_self _ _ _)).congr
        fun other => ?_
      rw [Function.update_idem]
      rcases eq_or_ne other thread with rfl | different
      · rw [Function.update_self, Function.update_self, shown]
      · rw [Function.update_of_ne different, Function.update_of_ne different]

theorem PoolUse.signaled (use : PoolUse thread before after pool next)
    {other : ℕ} (different : other ≠ thread)
    (signaled : (pool.wakes other).signaled = true) :
    (next.wakes other).signaled = true := by
  cases use with
  | aside left arrived => exact signaled
  | moved move seen shown => exact move.signaled different signaled

theorem PoolUse.cancelled (use : PoolUse thread before after pool next)
    {other : ℕ} (different : other ≠ thread)
    (cancelled : (pool.wakes other).cancelled = true) :
    (next.wakes other).cancelled = true := by
  cases use with
  | aside left arrived => exact cancelled
  | moved move seen shown => exact move.cancelled different cancelled

theorem PoolUse.closed (use : PoolUse thread before after pool next)
    (isClosed : pool.state.closed = true) : next.state.closed = true := by
  cases use with
  | aside left arrived => exact isClosed
  | moved move seen shown => exact move.closed_mono isClosed

end Use

variable {thread : ℕ} {choice : Choice} {shared next : SftpShared}
variable {phase after : Phase} {events log : List Event}
variable {job : TransferJob} {taskId sessionId : String}

theorem afterPoolStep_queueing (reached : TransferPool.Phase) :
    ((afterPoolStep job reached).inPool job.sessionId).filter
        TransferPool.Phase.queueing =
      (some reached).filter TransferPool.Phase.queueing := by
  cases reached with
  | failed error => cases error <;> rfl
  | holding held => rfl
  | _ => simp [afterPoolStep, Phase.inPool]

theorem afterPoolStep_elsewhere (reached : TransferPool.Phase)
    (different : job.sessionId ≠ sessionId) :
    (afterPoolStep job reached).inPool sessionId = none := by
  cases reached with
  | failed error => cases error <;> rfl
  | holding held => rfl
  | _ => simp [afterPoolStep, Phase.inPool, different]

theorem resume_inPool (continuation : Continuation) :
    (resume continuation).inPool sessionId = none := by
  cases continuation <;> rfl

theorem Move.poolUse
    (move : Move thread choice shared phase next after events)
    (known : sessionId ∈ shared.registered) :
    PoolUse thread (phase.inPool sessionId) (after.inPool sessionId)
      (shared.pool sessionId) (next.pool sessionId) := by
  cases move with
  | @registered other fresh =>
      have different : sessionId ≠ other := by
        rintro rfl
        exact fresh known
      simp only [SftpShared.pool, Function.update_of_ne different]
      exact .aside rfl rfl
  | refused error asking =>
      refine .aside ?_ rfl
      cases phase <;> first | rfl | simp [Phase.asking] at asking
  | @unoccupied request free =>
      refine .aside rfl ?_
      unfold afterCheck
      split <;> rfl
  | @enqueued task =>
      have same : (shared.setHandle task.sessionId
          { shared.arcs task.sessionId with
            cancelTokens := (shared.arcs task.sessionId).cancelTokens.insert
              task.taskId ⟨(shared.arcs task.sessionId).enqueueSeq⟩
            enqueueSeq := (shared.arcs task.sessionId).enqueueSeq + 1 }).pool
          sessionId = shared.pool sessionId := by
        rcases eq_or_ne sessionId task.sessionId with rfl | different
        · simp [SftpShared.setHandle, SftpShared.pool]
        · simp [SftpShared.setHandle, SftpShared.pool, different]
      rw [same]
      exact .aside rfl rfl
  | @started job present =>
      refine .aside rfl ?_
      simp only [Phase.inPool]
      split <;> rfl
  | @panicked job seq text panic =>
      refine .aside ?_ rfl
      simp only [Phase.inPool]
      split <;> rfl
  | @pooled job start finish pool logged move =>
      rw [SftpShared.pool_setPool]
      rcases eq_or_ne job.sessionId sessionId with rfl | different
      · rw [if_pos rfl]
        refine .moved move ?_ (afterPoolStep_queueing finish)
        simp [Phase.inPool]
      · rw [if_neg different.symm]
        refine .aside ?_ ?_
        · simp [Phase.inPool, different]
        · rw [afterPoolStep_elsewhere finish different]
          rfl
  | @dropped job checkout healthy conclusion absent => exact .aside rfl rfl
  | @checkedIn job checkout healthy conclusion =>
      rw [SftpShared.pool_setPool]
      split
      · next same =>
          subst same
          refine @PoolUse.moved thread _ _ _ { choice.pool with healthy := healthy }
            (.holding checkout) .returned _ _
            (TransferPool.stepHolding_move rfl) rfl rfl
      · exact .aside rfl rfl
  | rejected illegal =>
      refine .aside rfl ?_
      rw [resume_inPool]
      rfl
  | tokenRemoved =>
      rw [SftpShared.pool_setTokens]
      exact .aside rfl rfl
  | emitted =>
      refine .aside rfl ?_
      rw [resume_inPool]
      rfl
  | @waiterCancelled taskId other queueSeq =>
      rw [SftpShared.pool_setPool]
      split
      · next same =>
          subst same
          exact @PoolUse.moved thread _ _ _ choice.pool (.cancelWaiter queueSeq)
            .finished _ _ .cancelledWaiter rfl rfl
      · exact .aside rfl rfl
  | poolClosed =>
      rw [SftpShared.pool_setPool]
      split
      · next same =>
          subst same
          exact @PoolUse.moved thread _ _ _ choice.pool .close .finished _ _
            .closed rfl rfl
      · exact .aside rfl rfl
  | @reaped other start finish pool logged move =>
      rw [SftpShared.pool_setPool]
      rcases eq_or_ne other sessionId with rfl | different
      · rw [if_pos rfl]
        refine .moved move ?_ ?_ <;> simp [Phase.inPool]
      · rw [if_neg different.symm]
        refine .aside ?_ ?_ <;> simp [Phase.inPool, different]
  | _ => exact .aside rfl rfl

/-! What the phases say of the queue numbers they carry, and of the closing of
a session. -/

def Employed (config : Config SftpShared Phase) (job : TransferJob) : Prop :=
  ∃ worker, config.holdings Phase.job? worker = some job

def reaping : TransferPool.Phase → Prop
  | .reaperSpawned | .reaperChecking | .reaperSleeping _ | .finished => True
  | _ => False

def Phase.Accords (config : Config SftpShared Phase) : Phase → Prop
  | .checkout job (.checkout queueSeq) | .checkout job (.entering queueSeq _)
  | .checkout job (.waiting queueSeq) => queueSeq = job.queueSeq
  | .reaper _ phase => reaping phase
  | .cancelToken taskId sessionId queueSeq
  | .cancelWaiter taskId sessionId queueSeq =>
      Employed config ⟨queueSeq, taskId, sessionId⟩
  | .closePool sessionId => sessionId ∈ config.shared.registered
  | .collect sessionId => config.shared.Shut sessionId
  | .cancelActive sessionId remaining =>
      config.shared.Shut sessionId ∧ ∀ taskId ∈ remaining, ∃ queueSeq,
        Employed config ⟨queueSeq, taskId, sessionId⟩
  | .transition _ change (.cleanup sessionId remaining) =>
      config.shared.Shut sessionId ∧ ∀ taskId ∈ insert change.taskId remaining,
        ∃ queueSeq, Employed config ⟨queueSeq, taskId, sessionId⟩
  | _ => True

theorem Phase.Accords.mono {config final : Config SftpShared Phase}
    (registered : config.shared.registered ⊆ final.shared.registered)
    (shut : ∀ {sessionId}, config.shared.Shut sessionId →
      final.shared.Shut sessionId)
    (employed : ∀ {job}, Employed config job → Employed final job)
    (accords : phase.Accords config) : phase.Accords final := by
  cases phase with
  | checkout job phase => cases phase <;> exact accords
  | cancelToken taskId sessionId queueSeq => exact employed accords
  | cancelWaiter taskId sessionId queueSeq => exact employed accords
  | closePool sessionId => exact registered accords
  | collect sessionId => exact shut accords
  | cancelActive sessionId remaining =>
      refine ⟨shut accords.1, fun taskId member => ?_⟩
      obtain ⟨queueSeq, works⟩ := accords.2 taskId member
      exact ⟨queueSeq, employed works⟩
  | transition turn change continuation =>
      cases continuation with
      | cleanup sessionId remaining =>
          refine ⟨shut accords.1, fun taskId member => ?_⟩
          obtain ⟨queueSeq, works⟩ := accords.2 taskId member
          exact ⟨queueSeq, employed works⟩
      | _ => trivial
  | reaper sessionId phase => exact accords
  | _ => trivial

theorem Move.shut
    (move : Move thread choice shared phase next after events)
    (shut : shared.Shut sessionId) : next.Shut sessionId :=
  ⟨move.registered_subset shut.1, (move.poolUse shut.1).closed shut.2⟩

theorem Move.employment {config : Config SftpShared Phase} {worker : ℕ}
    (move : Move thread choice config.shared phase next after events)
    (running : config.threads thread = some phase)
    (holds : config.holdings Phase.job? worker = some job) :
    (⟨next, Function.update config.threads thread (some after)⟩ :
      Config SftpShared Phase).holdings Phase.job? worker = some job := by
  rw [config.holdings_advance]
  rcases eq_or_ne worker thread with rfl | different
  · rw [Config.holdings_of_running running] at holds
    rw [Function.update_self]
    cases move.employs with
    | kept same before entry request => rw [same, holds]
    | inserted fresh => cases holds
    | enqueued => cases holds
  · rwa [Function.update_of_ne different]

theorem Employed.advance {config : Config SftpShared Phase}
    (employed : Employed config job)
    (move : Move thread choice config.shared phase next after events)
    (running : config.threads thread = some phase) :
    Employed ⟨next, Function.update config.threads thread (some after)⟩ job := by
  obtain ⟨worker, holds⟩ := employed
  exact ⟨worker, move.employment running holds⟩

theorem pooled_accords {config final : Config SftpShared Phase}
    {pool reached : TransferPool} {start finish : TransferPool.Phase}
    {logged : List TransferPool.Event}
    (move : TransferPool.Move thread choice.pool pool start reached finish
      logged)
    (accords : (Phase.checkout job start).Accords config) :
    (afterPoolStep job finish).Accords final := by
  cases move with
  | called => exact accords
  | queued isOpen blocked => exact accords
  | woken signaled kept => exact accords
  | _ => trivial

theorem reaped_accords {pool reached : TransferPool}
    {start finish : TransferPool.Phase} {logged : List TransferPool.Event}
    (move : TransferPool.Move thread choice.pool pool start reached finish
      logged)
    (accords : reaping start) : reaping finish := by
  cases move <;> trivial

theorem accords_turn {config : Config SftpShared Phase}
    {turn other : TransitionTurn} {change : SftpTaskStatusEvent}
    {continuation : Continuation}
    (accords : (Phase.transition turn change continuation).Accords config) :
    (Phase.transition other change continuation).Accords config := by
  cases continuation <;> exact accords

theorem resume_accords {config : Config SftpShared Phase}
    {turn : TransitionTurn} {change : SftpTaskStatusEvent}
    {continuation : Continuation}
    (accords : (Phase.transition turn change continuation).Accords config) :
    (resume continuation).Accords config := by
  cases continuation with
  | cleanup sessionId remaining =>
      exact ⟨accords.1, fun taskId member =>
        accords.2 taskId (Finset.mem_insert_of_mem member)⟩
  | _ => trivial

theorem mem_activeTasks (member : taskId ∈ activeTasks shared sessionId) :
    ∃ entry, (shared.arcs sessionId).cancelTokens.lookup taskId =
      some entry := by
  obtain ⟨entry, found, -⟩ := FiniteMap.mem_keysWhere.mp member
  exact ⟨entry, found⟩

/-- What the phase of the thread says before the step, it says of the state
after it; so it is enough to look at the phases with the state fixed. -/
theorem Move.accords {config final : Config SftpShared Phase}
    (move : Move thread choice config.shared phase next after events)
    (arrived : final.shared = next)
    (staffed : Staffed config) (before : phase.Accords config)
    (accords : phase.Accords final)
    (employed : ∀ {job}, Employed config job → Employed final job) :
    after.Accords final := by
  cases move with
  | @unoccupied request free =>
      unfold afterCheck
      split <;> trivial
  | started present => exact rfl
  | pooled step => exact pooled_accords step before
  | dropped absent =>
      unfold concluding
      split <;> trivial
  | checkedIn =>
      unfold concluding
      split <;> trivial
  | rejected illegal => exact resume_accords accords
  | taken applied => exact accords_turn accords
  | tokenLookup => exact accords_turn accords
  | tokenRemoved => exact accords_turn accords
  | emitted => exact resume_accords accords
  | scanFound found => exact employed (staffed.tokens _ _ _ found)
  | tokenCancelled => exact accords
  | cleanupStarted present =>
      simp only [Phase.Accords, arrived]
      exact staffed.handles present
  | poolClosed =>
      refine ⟨?_, ?_⟩
      · rw [arrived]
        exact before
      · rw [arrived, SftpShared.pool_setPool, if_pos rfl,
          TransferPool.close_eq]
  | collected =>
      refine ⟨accords, fun taskId member => ?_⟩
      obtain ⟨entry, found⟩ := mem_activeTasks member
      exact ⟨entry.queueSeq, employed (staffed.tokens _ _ _ found)⟩
  | @activeCancelled sessionId taskId remaining member =>
      refine ⟨accords.1, fun other present => accords.2 other ?_⟩
      rcases Finset.mem_insert.mp present with rfl | kept
      · exact member
      · exact Finset.mem_of_mem_erase kept
  | reaped step => exact reaped_accords step before
  | _ => trivial

/-! A task that is over before its worker has a connection is one that the
closing of its session has cancelled. -/

/-- The thread has a task for which it has not been to the pool yet. -/
def Phase.Arriving (taskId sessionId : String) : Phase → Prop
  | .registerEntry task => task.taskId = taskId ∧ task.sessionId = sessionId
  | .work job | .checkout job _ =>
      job.taskId = taskId ∧ job.sessionId = sessionId
  | _ => False

def Terminal (shared : SftpShared) (taskId : String) : Prop :=
  ∃ task, shared.tasks.lookup taskId = some task ∧
    task.status.isTerminal = true

theorem Phase.Arriving.task (arriving : phase.Arriving taskId sessionId) :
    phase.task? = some taskId := by
  cases phase with
  | registerEntry task => exact congrArg some arriving.1
  | work job => exact congrArg some arriving.1
  | checkout job phase => exact congrArg some arriving.1
  | _ => exact arriving.elim

theorem Phase.Arriving.concerns (arriving : phase.Arriving taskId sessionId) :
    phase.Concerns sessionId := by
  cases phase with
  | registerEntry task => exact .inr (.inl ⟨task, rfl, arriving.2⟩)
  | work job => exact .inr (.inr ⟨job, rfl, arriving.2⟩)
  | checkout job phase => exact .inr (.inr ⟨job, rfl, arriving.2⟩)
  | _ => exact arriving.elim

theorem Phase.Arriving.session (arriving : phase.Arriving taskId sessionId)
    (employed : phase.job? = some job) : job.sessionId = sessionId := by
  cases phase with
  | registerEntry task => cases employed
  | work held =>
      obtain rfl := Option.some.inj employed
      exact arriving.2
  | checkout held phase =>
      obtain rfl := Option.some.inj employed
      exact arriving.2
  | _ => exact arriving.elim

theorem Move.arrives
    (move : Move thread choice shared phase next after events)
    (arriving : after.Arriving taskId sessionId) :
    phase.Arriving taskId sessionId ∨
      taskId ∉ shared.issued ∧ ¬Terminal next taskId := by
  cases move with
  | @inserted request fresh =>
      obtain ⟨rfl, -⟩ := arriving
      refine .inr ⟨fresh, ?_⟩
      rintro ⟨task, found, terminal⟩
      obtain rfl := Option.some.inj
        ((FiniteMap.lookup_insert_self _ _ _).symm.trans found)
      cases terminal
  | enqueued => exact .inl arriving
  | started present => exact .inl arriving
  | @pooled job start finish pool logged step =>
      cases finish with
      | failed error => cases error <;> exact arriving.elim
      | holding held => exact arriving.elim
      | _ => exact .inl arriving
  | @unoccupied request free =>
      unfold afterCheck at arriving
      split at arriving <;> exact arriving.elim
  | @rejected change continuation illegal =>
      cases continuation <;> exact arriving.elim
  | @emitted change continuation =>
      cases continuation <;> exact arriving.elim
  | _ => exact arriving.elim

theorem Move.terminal
    (move : Move thread choice shared phase next after events)
    (terminal : Terminal next taskId) :
    Terminal shared taskId ∨ ∃ change continuation,
      phase = .transition .registry change continuation ∧
        change.taskId = taskId ∧ change.status.isTerminal = true := by
  obtain ⟨task, found, isTerminal⟩ := terminal
  cases move with
  | inserted fresh =>
      rw [FiniteMap.lookup_insert] at found
      split at found
      · obtain rfl := Option.some.inj found
        cases isTerminal
      · exact .inl ⟨task, found, isTerminal⟩
  | taken applied =>
      rcases applied.origin found with ⟨rfl, rfl⟩ | ⟨-, before⟩
      · exact .inr ⟨_, _, rfl, rfl, isTerminal⟩
      · exact .inl ⟨task, before, isTerminal⟩
  | purged =>
      exact .inl ⟨task, (TaskRegistry.lookup_purge.mp found).1, isTerminal⟩
  | cleared =>
      exact .inl
        ⟨task, (TaskRegistry.lookup_clearTerminal.mp found).1, isTerminal⟩
  | _ => exact .inl ⟨task, found, isTerminal⟩

structure Queueing (config : Config SftpShared Phase) : Prop where
  orderly : Orderly config
  accords : ∀ thread phase, config.threads thread = some phase →
    phase.Accords config
  attentive : ∀ {sessionId}, sessionId ∈ config.shared.registered →
    TransferPool.Attentive (config.shared.pool sessionId)
      (config.holdings (Phase.inPool sessionId))
  closing : ∀ {thread phase taskId sessionId},
    config.threads thread = some phase →
      phase.Arriving taskId sessionId → Terminal config.shared taskId →
        (config.shared.pool sessionId).state.closed = true

theorem Queueing.ended {config : Config SftpShared Phase}
    (queueing : Queueing config) {worker : ℕ} {current : Phase}
    {turn : TransitionTurn} {change : SftpTaskStatusEvent}
    {continuation : Continuation}
    (running : config.threads thread =
      some (.transition turn change continuation))
    (found : config.threads worker = some current)
    (different : worker ≠ thread)
    (arriving : current.Arriving change.taskId sessionId) :
    (config.shared.pool sessionId).state.closed = true := by
  have staffed := queueing.orderly.staffed
  have follows := queueing.orderly.coherent thread _ running
  have mine : config.holdings Phase.task? worker = some change.taskId :=
    (Config.holdings_of_running found _).trans arriving.task
  have apart : ∀ job, continuation.job? = some job →
      change.taskId ≠ job.taskId := by
    intro job employed same
    apply different
    refine staffed.oneEach worker thread change.taskId mine ?_
    rw [Config.holdings_of_running running, same]
    exact Phase.task?_of_job employed
  cases continuation with
  | fail job error => exact absurd follows.1 (apart job rfl)
  | transfer job checkout => exact absurd follows.1 (apart job rfl)
  | dropPermit job => exact absurd follows (apart job rfl)
  | ended job => exact absurd follows (apart job rfl)
  | cleanup session remaining =>
      obtain ⟨⟨-, isClosed⟩, members⟩ := queueing.accords thread _ running
      obtain ⟨queueSeq, other, holds⟩ :=
        members change.taskId (Finset.mem_insert_self _ _)
      obtain ⟨phase, present, employed⟩ := Option.bind_eq_some_iff.mp holds
      obtain rfl : other = worker := by
        refine staffed.oneEach other worker change.taskId ?_ mine
        rw [Config.holdings_of_running present]
        exact Phase.task?_of_job employed
      obtain rfl := Option.some.inj (present.symm.trans found)
      obtain rfl : session = sessionId := arriving.session employed
      exact isClosed

theorem attentive_new {threads : ℕ → Option TransferPool.Phase}
    (idle : ∀ thread,
      (threads thread).filter TransferPool.Phase.queueing = none) :
    TransferPool.Attentive SftpHandle.new.transferPool threads := by
  have nobody : TransferPool.Attentive SftpHandle.new.transferPool
      fun _ => none := by
    constructor <;> simp [SftpHandle.new, TransferPool.newCyclic,
      PoolState.empty]
  exact nobody.congr fun thread => (idle thread).trans rfl

theorem Queueing.unregistered {config : Config SftpShared Phase}
    (queueing : Queueing config)
    (unknown : sessionId ∉ config.shared.registered) (thread : ℕ) :
    (config.holdings (Phase.inPool sessionId) thread).filter
      TransferPool.Phase.queueing = none := by
  cases found : config.threads thread with
  | none => simp [Config.holdings, found]
  | some phase =>
      rw [Config.holdings_of_running found]
      cases phase with
      | checkout job phase =>
          have different : job.sessionId ≠ sessionId := by
            rintro rfl
            exact unknown (queueing.orderly.staffed.concerned thread _ _ found
              (.inr (.inr ⟨job, rfl, rfl⟩)))
          simp [Phase.inPool, different]
      | reaper session phase =>
          have accords : reaping phase := queueing.accords thread _ found
          simp only [Phase.inPool]
          split
          · cases phase <;> first | rfl | exact accords.elim
          · rfl
      | _ => rfl

theorem Queueing.spawn {config : Config SftpShared Phase}
    (queueing : Queueing config) {start : Phase}
    (free : config.threads thread = none)
    (admitted : service.admits start = true)
    (orderly : Orderly ⟨config.shared,
      Function.update config.threads thread (some start)⟩) :
    Queueing ⟨config.shared,
      Function.update config.threads thread (some start)⟩ := by
  have idle : start.job? = none ∧ (∀ taskId sessionId,
      ¬start.Arriving taskId sessionId) ∧ (∀ sessionId,
      (start.inPool sessionId).filter TransferPool.Phase.queueing = none) ∧
      ∀ config, start.Accords config := by
    cases start with
    | called call => exact ⟨rfl, fun _ _ => id, fun _ => rfl, fun _ => trivial⟩
    | reaper session phase =>
        cases phase with
        | reaperSpawned =>
            refine ⟨rfl, fun _ _ => id, fun sessionId => ?_, fun _ => trivial⟩
            simp only [Phase.inPool]
            split <;> rfl
        | _ => simp [service] at admitted
    | _ => simp [service] at admitted
  obtain ⟨jobless, unarrived, outside, accords⟩ := idle
  have sameJobs : (⟨config.shared,
      Function.update config.threads thread (some start)⟩ :
        Config SftpShared Phase).holdings Phase.job? =
      config.holdings Phase.job? :=
    Config.holdings_unchanged config.shared
      (by simp [Config.holdings, free, jobless])
  have kept : ∀ phase : Phase, phase.Accords config → phase.Accords
      ⟨config.shared, Function.update config.threads thread (some start)⟩ :=
    fun _ accords => accords.mono
      (Finset.Subset.refl config.shared.registered) id
      fun works => by rwa [Employed, sameJobs]
  refine ⟨orderly, ?_, ?_, ?_⟩
  · exact everywhere_update (accords _) fun other current _ found =>
      kept _ (queueing.accords other current found)
  · intro sessionId known
    rw [config.holdings_advance]
    refine (queueing.attentive known).congr fun other => ?_
    rcases eq_or_ne other thread with rfl | different
    · rw [Function.update_self, outside]
      simp [Config.holdings, free]
    · rw [Function.update_of_ne different]
  · intro other phase taskId sessionId found arriving terminal
    rcases of_update_eq_some found with ⟨-, same⟩ | ⟨-, before⟩
    · obtain rfl := Option.some.inj same
      exact absurd arriving (unarrived _ _)
    · exact queueing.closing before arriving terminal

theorem Queueing.advance {config : Config SftpShared Phase}
    (queueing : Queueing config)
    (move : Move thread choice config.shared phase next after events)
    (running : config.threads thread = some phase)
    (orderly : Orderly
      ⟨next, Function.update config.threads thread (some after)⟩) :
    Queueing ⟨next, Function.update config.threads thread (some after)⟩ := by
  have staffed := queueing.orderly.staffed
  have employed : ∀ {job}, Employed config job → Employed
      ⟨next, Function.update config.threads thread (some after)⟩ job :=
    fun works => works.advance move running
  have kept : ∀ phase : Phase, phase.Accords config → phase.Accords
      ⟨next, Function.update config.threads thread (some after)⟩ :=
    fun _ accords => accords.mono move.registered_subset move.shut employed
  refine ⟨orderly, ?_, ?_, ?_⟩
  · have before := queueing.accords thread phase running
    exact everywhere_update
      (move.accords rfl staffed before (kept _ before) employed)
      fun other current _ found => kept _ (queueing.accords other current found)
  · intro sessionId known
    rw [config.holdings_advance]
    by_cases before : sessionId ∈ config.shared.registered
    · exact (move.poolUse before).attentive (queueing.attentive before)
        (Config.holdings_of_running running _)
    · have idle := queueing.unregistered before
      cases move with
      | @registered other fresh =>
          obtain rfl | known := Finset.mem_insert.mp known
          · simp only [SftpShared.pool, Function.update_self]
            refine attentive_new fun other => ?_
            rcases eq_or_ne other thread with rfl | different
            · rw [Function.update_self]
              rfl
            · rw [Function.update_of_ne different]
              exact idle other
          · exact absurd known before
      | _ => exact absurd known before
  · intro other current taskId sessionId found arriving terminal
    have closed : sessionId ∈ config.shared.registered →
        (config.shared.pool sessionId).state.closed = true →
          (next.pool sessionId).state.closed = true :=
      fun known => (move.poolUse known).closed
    rcases of_update_eq_some found with ⟨rfl, same⟩ | ⟨different, before⟩
    · obtain rfl := Option.some.inj same
      rcases move.arrives arriving with earlier | ⟨-, live⟩
      · rcases move.terminal terminal with was | ⟨change, continuation, rfl, -, -⟩
        · exact closed (staffed.concerned other phase _ running earlier.concerns)
            (queueing.closing running earlier was)
        · exact earlier.elim
      · exact absurd terminal live
    · have known := staffed.concerned other current _ before arriving.concerns
      rcases move.terminal terminal with
        was | ⟨change, continuation, rfl, rfl, -⟩
      · exact closed known (queueing.closing before arriving was)
      · exact closed known
          (queueing.ended running before different arriving)

theorem Queueing.step {config final : Config SftpShared Phase}
    {action : ThreadAction Phase Choice} (queueing : Queueing config)
    (stepped : service.machine.step config action = some (final, events)) :
    Queueing final := by
  have orderly := queueing.orderly.step stepped
  rcases Program.machine_step_cases stepped with
    ⟨thread, start, -, free, admitted, rfl, rfl⟩ |
    ⟨thread, choice, current, shared, after, -, running, moved, rfl⟩
  · exact queueing.spawn free admitted orderly
  · exact queueing.advance (step_move moved) running orderly

theorem initial_queueing : Queueing initial where
  orderly := initial_orderly
  accords := by
    intro thread phase found
    cases found
  attentive := by
    intro sessionId known
    cases known
  closing := by
    intro thread phase taskId sessionId found
    cases found

/-! A cancellation that has returned. -/

/-- The worker sleeps in the queue of its session with the job. -/
def Queued (config : Config SftpShared Phase) (worker : ℕ)
    (job : TransferJob) : Prop :=
  config.holdings Phase.job? worker = some job ∧
    ⟨job.queueSeq, worker⟩ ∈ (config.shared.pool job.sessionId).state.waiters

instance (config : Config SftpShared Phase) (worker : ℕ) (job : TransferJob) :
    Decidable (Queued config worker job) :=
  inferInstanceAs (Decidable (_ ∧ _))

/-- The worker of the task need not queue when it enters the pool, unless it was
in the queue before. -/
def findsRoom (before : Config SftpShared Phase) (taskId : String)
    (_ : List Event) (config : Config SftpShared Phase) :
    ThreadAction Phase Choice → Bool
  | .spawn _ _ => true
  | .advance thread choice =>
      match config.threads thread with
      | some (.checkout job (.entering _ firstAttempt)) =>
          job.taskId != taskId || decide (Queued before thread job) ||
            (config.shared.pool job.sessionId).state.closed ||
            !decide (((config.shared.pool job.sessionId).turn
              choice.pool).Blocked firstAttempt)
      | _ => true

/-- The worker is done with the pool, or wakes up only to leave it. -/
def Dismissed (config : Config SftpShared Phase) (worker : ℕ)
    (job : TransferJob) : Prop :=
  config.holdings Phase.job? worker = some job ∧
    ∀ phase, config.threads worker = some phase →
      phase.Arriving job.taskId job.sessionId →
        (∃ queueSeq, phase = .checkout job (.waiting queueSeq)) ∧
          ((config.shared.pool job.sessionId).wakes worker).cancelled = true

/-- Whoever still sleeps for the task has been signalled, and whoever slept in
the queue before has been sent away. -/
structure Roused (before config : Config SftpShared Phase)
    (taskId : String) : Prop where
  signalled : ∀ worker phase, config.threads worker = some phase →
    ∀ job queueSeq, phase = .checkout job (.waiting queueSeq) →
      job.taskId = taskId →
        ((config.shared.pool job.sessionId).wakes worker).signaled = true
  dismissed : ∀ worker job, Queued before worker job → job.taskId = taskId →
    Dismissed config worker job

theorem Move.dismissed {queueSeq : ℕ}
    (move : Move thread choice shared phase next after events)
    (waiting : phase = .checkout job (.waiting queueSeq))
    (cancelled : ((shared.pool job.sessionId).wakes thread).cancelled = true) :
    ¬after.Arriving taskId sessionId := by
  intro arriving
  subst waiting
  cases move with
  | refused error asking => exact arriving.elim
  | pooled step =>
      cases step with
      | woken signaled kept =>
          rw [cancelled] at kept
          cases kept
      | withdrawn signaled mine => exact arriving.elim

theorem Dismissed.step {config final : Config SftpShared Phase}
    {action : ThreadAction Phase Choice} {worker : ℕ}
    (dismissed : Dismissed config worker job) (queueing : Queueing config)
    (stepped : service.machine.step config action = some (final, events)) :
    Dismissed final worker job := by
  obtain ⟨holds, sleeps⟩ := dismissed
  have staffed := queueing.orderly.staffed
  rcases Program.machine_step_cases stepped with
    ⟨thread, start, -, free, admitted, rfl, rfl⟩ |
    ⟨thread, choice, current, shared, after, -, running, moved, rfl⟩
  · have different : worker ≠ thread := by
      rintro rfl
      simp [Config.holdings, free] at holds
    refine ⟨?_, fun phase found => sleeps phase ?_⟩
    · simpa [Config.holdings, different] using holds
    · simpa [different] using found
  · have move := step_move moved
    have issued : job.taskId ∈ config.shared.issued := by
      obtain ⟨phase, present, employed⟩ := Option.bind_eq_some_iff.mp holds
      exact staffed.issued worker _ ((Config.holdings_of_running present _).trans
        (Phase.task?_of_job employed))
    refine ⟨move.employment running holds, fun phase found arriving => ?_⟩
    rcases eq_or_ne worker thread with rfl | different
    · obtain rfl : after = phase := by simpa using found
      rcases move.arrives arriving with earlier | ⟨fresh, -⟩
      · obtain ⟨⟨queueSeq, rfl⟩, cancelled⟩ := sleeps current running earlier
        exact absurd arriving (move.dismissed rfl cancelled)
      · exact absurd issued fresh
    · have unmoved : config.threads worker = some phase := by
        simpa [different] using found
      obtain ⟨asleep, cancelled⟩ := sleeps phase unmoved arriving
      have known := staffed.known holds
      exact ⟨asleep, (move.poolUse known).cancelled different cancelled⟩

theorem Move.waits {queueSeq : ℕ}
    (move : Move thread choice shared phase next after events)
    (waiting : after = .checkout job (.waiting queueSeq)) :
    ∃ firstAttempt, phase = .checkout job (.entering queueSeq firstAttempt) ∧
      (shared.pool job.sessionId).state.closed = false ∧
      ((shared.pool job.sessionId).turn choice.pool).Blocked firstAttempt := by
  cases move with
  | @pooled other start finish pool logged step =>
      cases finish with
      | failed error => cases error <;> cases waiting
      | waiting seq =>
          cases waiting
          cases step with
          | queued isOpen blocked => exact ⟨_, rfl, isOpen, blocked⟩
      | _ => cases waiting
  | @unoccupied request free =>
      unfold afterCheck at waiting
      split at waiting <;> cases waiting
  | @rejected change continuation illegal => cases continuation <;> cases waiting
  | @emitted change continuation => cases continuation <;> cases waiting
  | _ => cases waiting

theorem Roused.step {before config final : Config SftpShared Phase}
    {action : ThreadAction Phase Choice} (roused : Roused before config taskId)
    (queueing : Queueing config)
    (permitted : findsRoom before taskId log config action = true)
    (stepped : service.machine.step config action = some (final, events)) :
    Roused before final taskId := by
  refine ⟨?_, fun worker job queued same =>
    (roused.dismissed worker job queued same).step queueing stepped⟩
  rcases Program.machine_step_cases stepped with
    ⟨thread, start, -, free, admitted, rfl, rfl⟩ |
    ⟨thread, choice, current, shared, after, rfl, running, moved, rfl⟩
  · refine everywhere_update ?_ fun other phase _ found =>
      roused.signalled other phase found
    rintro job queueSeq rfl
    simp [service] at admitted
  · have move := step_move moved
    refine everywhere_update ?_ ?_
    · intro job queueSeq waiting same
      obtain ⟨firstAttempt, rfl, isOpen, blocked⟩ := move.waits waiting
      have queued : Queued before thread job := by
        simpa [findsRoom, running, same, isOpen, blocked] using permitted
      obtain ⟨⟨_, asleep⟩, -⟩ :=
        (roused.dismissed thread job queued same).2 _ running ⟨rfl, rfl⟩
      cases asleep
    · rintro other phase different found job queueSeq rfl same
      have known := queueing.orderly.staffed.concerned other _ job.sessionId
        found (.inr (.inr ⟨job, rfl, rfl⟩))
      exact (move.poolUse known).signaled different
        (roused.signalled other _ found job queueSeq rfl same)

theorem Queueing.waiter {config : Config SftpShared Phase}
    (queueing : Queueing config)
    (known : sessionId ∈ config.shared.registered) {waiter : Waiter}
    (member : waiter ∈ (config.shared.pool sessionId).state.waiters) :
    ∃ job, config.threads waiter.wake =
        some (.checkout job (.waiting job.queueSeq)) ∧
      job.sessionId = sessionId ∧ waiter.queueSeq = job.queueSeq ∧
      ((config.shared.pool sessionId).wakes waiter.wake).signaled = false := by
  obtain ⟨asleep, unsignalled⟩ := (queueing.attentive known).queued member
  obtain ⟨phase, found, stands⟩ := Option.bind_eq_some_iff.mp asleep
  have accords := queueing.accords _ phase found
  cases phase with
  | checkout job phase =>
      simp only [Phase.inPool] at stands
      split at stands
      · next same =>
          obtain rfl := Option.some.inj stands
          have seq : waiter.queueSeq = job.queueSeq := accords
          exact ⟨job, seq ▸ found, same, seq, by rw [unsignalled]⟩
      · cases stands
  | reaper session phase =>
      simp only [Phase.inPool] at stands
      split at stands
      · obtain rfl := Option.some.inj stands
        exact accords.elim
      · cases stands
  | _ => cases stands

theorem Queueing.wake_eq {config : Config SftpShared Phase}
    (queueing : Queueing config) {worker : ℕ}
    (holds : config.holdings Phase.job? worker = some job) {waiter : Waiter}
    (member : waiter ∈ (config.shared.pool job.sessionId).state.waiters)
    (named : waiter.queueSeq = job.queueSeq) : waiter.wake = worker := by
  have staffed := queueing.orderly.staffed
  obtain ⟨other, found, session, itsSeq, -⟩ :=
    queueing.waiter (staffed.known holds) member
  have place : other.place = job.place :=
    Prod.ext session (itsSeq.symm.trans named)
  obtain ⟨current, running, employed⟩ := Option.bind_eq_some_iff.mp holds
  refine staffed.places _ _ job.place ?_ ?_
  · rw [Config.holdings_of_running found]
    exact congrArg some place
  · rw [Config.holdings_of_running running]
    exact Phase.place?_of_job employed

theorem Queueing.unqueued {config before : Config SftpShared Phase}
    (queueing : Queueing config) (roused : Roused before config taskId)
    {worker : ℕ} (holds : config.holdings Phase.job? worker = some job)
    (same : job.taskId = taskId) {waiter : Waiter}
    (member : waiter ∈ (config.shared.pool job.sessionId).state.waiters) :
    waiter.queueSeq ≠ job.queueSeq := by
  intro named
  obtain ⟨other, found, session, -, unsignalled⟩ :=
    queueing.waiter (queueing.orderly.staffed.known holds) member
  obtain rfl := queueing.wake_eq holds member named
  have mine : config.holdings Phase.job? waiter.wake = some other :=
    Config.holdings_of_running found _
  obtain rfl := Option.some.inj (mine.symm.trans holds)
  rw [roused.signalled _ _ found other _ rfl same] at unsignalled
  cases unsignalled

theorem Queueing.sleeps {config : Config SftpShared Phase}
    (queueing : Queueing config) {worker queueSeq : ℕ}
    (found : config.threads worker = some (.checkout job (.waiting queueSeq))) :
    ((config.shared.pool job.sessionId).wakes worker).signaled = true ∨
      ⟨queueSeq, worker⟩ ∈ (config.shared.pool job.sessionId).state.waiters := by
  have known := queueing.orderly.staffed.concerned worker _ job.sessionId found
    (.inr (.inr ⟨job, rfl, rfl⟩))
  apply (queueing.attentive known).waiting
  rw [Config.holdings_of_running found]
  simp [Phase.inPool]

/-- A cancellation comes to the pool with the place of its task in the queue. -/
theorem Queueing.aimed {config : Config SftpShared Phase}
    (queueing : Queueing config) {worker queueSeq : ℕ}
    (running : config.threads thread =
      some (.cancelWaiter taskId sessionId queueSeq))
    (holds : config.holdings Phase.job? worker = some job)
    (same : job.taskId = taskId) :
    queueSeq = job.queueSeq ∧ sessionId = job.sessionId := by
  obtain ⟨owner, owns⟩ := queueing.accords thread _ running
  obtain ⟨phase, present, employed⟩ := Option.bind_eq_some_iff.mp owns
  obtain ⟨current, found, working⟩ := Option.bind_eq_some_iff.mp holds
  obtain rfl : owner = worker := by
    refine queueing.orderly.staffed.oneEach owner worker taskId ?_ ?_
    · rw [Config.holdings_of_running present]
      exact Phase.task?_of_job employed
    · rw [Config.holdings_of_running found, ← same]
      exact Phase.task?_of_job working
  obtain rfl := Option.some.inj (holds.symm.trans owns)
  exact ⟨rfl, rfl⟩

/-- While a worker is on its way to a connection, only the closing of its session
has a cancellation find the task at its end. -/
theorem Queueing.drained {config : Config SftpShared Phase}
    (queueing : Queueing config) {worker queueSeq : ℕ}
    (found : config.threads worker = some (.checkout job (.waiting queueSeq)))
    (terminal : Terminal config.shared job.taskId) :
    (config.shared.pool job.sessionId).state.waiters = [] := by
  have known := queueing.orderly.staffed.concerned worker _ job.sessionId found
    (.inr (.inr ⟨job, rfl, rfl⟩))
  exact (queueing.attentive known).drained
    (queueing.closing found ⟨rfl, rfl⟩ terminal)

/-- What a cancellation leaves in the pool of a worker that sleeps for the task:
the worker is not in the queue, and if it was, it has been sent away. -/
theorem Queueing.withdraws {config : Config SftpShared Phase}
    (queueing : Queueing config) {worker queueSeq : ℕ}
    (running : config.threads thread = some phase)
    (asleep : config.threads worker = some (.checkout job (.waiting queueSeq)))
    (cancels : (∃ sessionId queueSeq,
        phase = .cancelWaiter job.taskId sessionId queueSeq ∧
        next = config.shared.setPool sessionId
          ((config.shared.pool sessionId).cancelWaiter queueSeq)) ∨
      (next = config.shared ∧ Terminal config.shared job.taskId)) :
    ⟨queueSeq, worker⟩ ∉ (next.pool job.sessionId).state.waiters ∧
      (⟨queueSeq, worker⟩ ∈ (config.shared.pool job.sessionId).state.waiters →
        ((next.pool job.sessionId).wakes worker).cancelled = true) := by
  rcases cancels with ⟨sessionId, seq, rfl, rfl⟩ | ⟨rfl, terminal⟩
  · have holds : config.holdings Phase.job? worker = some job :=
      Config.holdings_of_running asleep _
    obtain ⟨rfl, rfl⟩ := queueing.aimed running holds rfl
    obtain rfl : queueSeq = job.queueSeq := queueing.accords worker _ asleep
    simp only [SftpShared.pool_setPool, if_true]
    rcases TransferPool.cancelWaiter_cases (config.shared.pool job.sessionId)
        job.queueSeq with
      ⟨missing, unchanged⟩ | ⟨before, waiter, rest, split, named, removed⟩
    · rw [unchanged]
      have absent : ⟨job.queueSeq, worker⟩ ∉
          (config.shared.pool job.sessionId).state.waiters :=
        fun member => missing _ member rfl
      exact ⟨absent, fun member => absurd member absent⟩
    · have present : waiter ∈
          (config.shared.pool job.sessionId).state.waiters := by
        simp [split]
      obtain rfl := queueing.wake_eq holds present named
      have known := queueing.orderly.staffed.known holds
      have distinct := (queueing.attentive known).distinct
      rw [split, List.map_append, List.map_cons, List.nodup_middle,
        List.nodup_cons, ← List.map_append] at distinct
      rw [removed]
      refine ⟨fun member => ?_, fun _ => by simp [TransferPool.markCancelled]⟩
      exact distinct.1 (List.mem_map.mpr ⟨_, member, rfl⟩)
  · rw [queueing.drained asleep terminal]
    exact ⟨List.not_mem_nil, fun member => absurd member List.not_mem_nil⟩

theorem roused_of_cancelled {config cancelled : Config SftpShared Phase}
    {action : ThreadAction Phase Choice} {canceller : ℕ}
    (queueing : Queueing config)
    (stepped : service.machine.step config action = some (cancelled, events))
    (returned : .cancelReturned canceller taskId (.ok ()) ∈ events) :
    Roused config cancelled taskId := by
  have queueingAfter := queueing.step stepped
  have staffed := queueing.orderly.staffed
  rcases Program.machine_step_cases stepped with
    ⟨thread, start, -, -, -, -, rfl⟩ |
    ⟨thread, choice, current, shared, after, -, running, moved, rfl⟩
  · cases returned
  have move := step_move moved
  obtain ⟨rfl, cancels⟩ := move.cancelReturned_inv returned
  constructor
  · rintro worker _ found job queueSeq rfl rfl
    have asleep : config.threads worker =
        some (.checkout job (.waiting queueSeq)) := by
      rcases of_update_eq_some found with ⟨-, mine⟩ | ⟨-, before⟩
      · cases mine
      · exact before
    exact (queueingAfter.sleeps found).resolve_right
      (queueing.withdraws running asleep cancels).1
  · rintro worker job ⟨holds, member⟩ rfl
    have kept := move.employment running holds
    refine ⟨kept, fun phase found arriving => ?_⟩
    have different : worker ≠ thread := by
      rintro rfl
      simp [Config.holdings, Phase.job?] at kept
    have unmoved : config.threads worker = some phase := by
      simpa [different] using found
    obtain ⟨other, asleep, -, -, -⟩ :=
      queueing.waiter (staffed.known holds) member
    obtain rfl := Option.some.inj (unmoved.symm.trans asleep)
    obtain rfl : other = job :=
      Option.some.inj ((Config.holdings_of_running asleep _).symm.trans holds)
    exact ⟨⟨_, rfl⟩, (queueing.withdraws running asleep cancels).2 member⟩

theorem enqueued_employed {config : Config SftpShared Phase}
    {actions : List (ThreadAction Phase Choice)} {worker : ℕ}
    (run : service.machine.Run initial actions log config)
    (enqueued : .enqueued worker job ∈ log) :
    config.holdings Phase.job? worker = some job := by
  refine @Machine.Run.invariant _ _ _ _ initial
    (fun log config => .enqueued worker job ∈ log →
      config.holdings Phase.job? worker = some job) nofun ?_ _ _ _ run enqueued
  intro log config action next events before stepped logged
  rcases Program.machine_step_cases stepped with
    ⟨thread, start, -, free, admitted, rfl, rfl⟩ |
    ⟨thread, choice, current, shared, after, -, running, moved, rfl⟩
  · have holds := before (by simpa [service] using logged)
    rw [config.holdings_advance, Function.update_of_ne]
    · exact holds
    · rintro rfl
      simp [Config.holdings, free] at holds
  · have move := step_move moved
    cases List.mem_append.mp logged with
    | inl earlier => exact move.employment running (before earlier)
    | inr now =>
        cases move with
        | enqueued =>
            obtain ⟨rfl, rfl⟩ := Event.enqueued.inj (List.mem_singleton.mp now)
            rw [config.holdings_advance, Function.update_self]
            rfl
        | _ => simp at now

/-- Once the cancellation of a task has returned, no waiter of its number is in
the queue: a worker that was there leaves the pool, and any other is assumed to
find room whenever it enters. -/
theorem cancelled_not_queued {config cancelled final : Config SftpShared Phase}
    {actions more : List (ThreadAction Phase Choice)} {later : List Event}
    {action : ThreadAction Phase Choice} {canceller worker : ℕ}
    (run : service.machine.Run initial actions log config)
    (stepped : service.machine.step config action = some (cancelled, events))
    (returned : .cancelReturned canceller taskId (.ok ()) ∈ events)
    (continued : service.machine.RunWhere (findsRoom config taskId)
      (log ++ events)
      cancelled more later final)
    (enqueued : .enqueued worker job ∈ log ++ events ++ later)
    (same : job.taskId = taskId) :
    ∀ waiter ∈ (final.shared.pool job.sessionId).state.waiters,
      waiter.queueSeq ≠ job.queueSeq := by
  have queueing := run.always Queueing initial_queueing Queueing.step
  have kept := continued.invariant
    (fun _ current => Queueing current ∧ Roused config current taskId)
    ⟨queueing.step stepped, roused_of_cancelled queueing stepped returned⟩ ?_
  · intro waiter member
    have holds := enqueued_employed
      ((run.snoc stepped).trans continued.run) enqueued
    exact kept.1.unqueued kept.2 holds same member
  · rintro past current action next logged ⟨queueing, roused⟩ permitted moved
    exact ⟨queueing.step moved, roused.step queueing permitted moved⟩

/-- Five uploads of a session that have a connection each. -/
def busySession : List (ThreadAction Phase Choice) :=
  [.spawn 0 (.called (.registerSession "session")), .advance 0 {}] ++
  [(1, "/a", "1"), (2, "/b", "2"), (3, "/c", "3"), (4, "/d", "4"),
    (5, "/e", "5")].flatMap fun (thread, file, uuid) =>
      [.spawn thread (.called (.enqueueUpload "session" file "/srv")),
        .advance thread {}, .advance thread {}, .advance thread { uuid := uuid }] ++
      List.replicate 5 (.advance thread {})

/-- A sixth upload, whose worker goes through that many steps, and its
cancellation up to the last one. -/
def cancelledSixth (steps : ℕ) : List (ThreadAction Phase Choice) :=
  busySession ++
  [.spawn 6 (.called (.enqueueUpload "session" "/f" "/srv")), .advance 6 {},
    .advance 6 {}, .advance 6 { uuid := "6" }, .advance 6 {}] ++
  List.replicate steps (.advance 6 {}) ++
  [.spawn 7 (.called (.cancelTask "6")), .advance 7 {},
    .advance 7 { sessionId := "session" }, .advance 7 {}]

/-- The worker has not come to the pool yet; then it queues. -/
theorem cancelled_sixth_queues :
    ∃ config cancelled final log later,
      service.machine.Run initial (cancelledSixth 0) log config ∧
      service.machine.step config (.advance 7 {}) =
        some (cancelled, [.cancelReturned 7 "6" (.ok ())]) ∧
      service.machine.Run cancelled (List.replicate 3 (.advance 6 {})) later
        final ∧
      .enqueued 6 ⟨5, "6", "session"⟩ ∈ log ∧
      (final.shared.pool "session").state.waiters = [⟨5, 6⟩] ∧
      (final.shared.tasks.lookup "6").map (·.status) = some .pending := by
  refine ⟨_, _, _, _, _, Machine.run_of_execute rfl, rfl,
    Machine.run_of_execute rfl, ?_, rfl, rfl⟩
  exact List.mem_of_getLast? rfl

/-- The worker is in the queue; the cancellation wakes it up. -/
theorem cancelled_not_queued_waiting :
    ∃ config past cancelled later final,
      service.machine.RunWhere (findsRoom config "6") past cancelled
        (List.replicate 5 (.advance 6 {})) later final ∧
      .emitted ⟨"6", "session", .cancelled, none⟩ ∈ later ∧
      ∀ waiter ∈ (final.shared.pool "session").state.waiters,
        waiter.queueSeq ≠ 5 := by
  have executed : ∃ config cancelled final log later,
      service.machine.Run initial (cancelledSixth 3) log config ∧
      service.machine.step config (.advance 7 {}) =
        some (cancelled, [.cancelReturned 7 "6" (.ok ())]) ∧
      service.machine.RunWhere (findsRoom config "6")
        (log ++ [.cancelReturned 7 "6" (.ok ())]) cancelled
        (List.replicate 5 (.advance 6 {})) later final ∧
      .enqueued 6 ⟨5, "6", "session"⟩ ∈ log ∧
      .emitted ⟨"6", "session", .cancelled, none⟩ ∈ later := by
    refine ⟨_, _, _, _, _, Machine.run_of_execute rfl, rfl,
      Machine.runWhere_of_executeWhere rfl, ?_, ?_⟩
    · exact List.mem_of_mem_dropLast (List.mem_of_mem_dropLast
        (List.mem_of_getLast? rfl))
    · exact List.mem_of_getLast? rfl
  obtain ⟨config, cancelled, final, log, later, run, stepped, continued,
    enqueued, told⟩ := executed
  exact ⟨config, _, cancelled, later, final, continued, told,
    @cancelled_not_queued _ _ ⟨5, "6", "session"⟩ _ _ _ _ _ _ _ _ 7 6 run stepped
      (List.mem_singleton_self _) continued
      (List.mem_append_left _ (List.mem_append_left _ enqueued)) rfl⟩

end Sftp

end TitanSSH
