import TitanSSH.Core.Sftp.Jobs
import TitanSSH.Library.GuardedRuns

namespace TitanSSH

open Interleaving

namespace Sftp

/-! What the cancellation of a pending transfer keeps its worker from doing. -/

/-- The change that precedes a continuation. -/
def Continuation.Follows (change : SftpTaskStatusEvent) : Continuation → Prop
  | .fail job _ | .transfer job _ =>
      change.taskId = job.taskId ∧ change.status = .running
  | .dropPermit job | .ended job => change.taskId = job.taskId
  | .cleanup _ _ => change.status = .cancelled

def Phase.Coherent (shared : SftpShared) : Phase → Prop
  | .transition _ change next => next.Follows change
  | .cancelToken taskId _ _ => taskId ∈ shared.issued
  | .cancelWaiter taskId _ _ =>
      taskId ∈ shared.issued ∧ shared.cancelled taskId = true
  | _ => True

def Coherent (config : Config SftpShared Phase) : Prop :=
  ∀ thread phase, config.threads thread = some phase →
    phase.Coherent config.shared

/-- The thread is about to ask the registry for `Running`. -/
def Phase.Starting (taskId : String) : Phase → Prop
  | .transition .registry change _ =>
      change.taskId = taskId ∧ change.status = .running
  | _ => False

/-- The thread has asked for `Running` and goes on accordingly. -/
def Phase.Started (taskId : String) : Phase → Prop
  | .transfer job _ => job.taskId = taskId
  | .release job _ _ conclusion | .checkin job _ _ conclusion =>
      job.taskId = taskId ∧ conclusion.status ≠ .cancelled
  | .transition turn change _ =>
      change.taskId = taskId ∧ change.status ≠ .cancelled ∧
        (turn = .registry → change.status ≠ .running)
  | _ => False

/-- The thread asks for nothing but `Cancelled`. -/
def Phase.Spares (taskId : String) : Phase → Prop
  | .transfer job _ => job.taskId ≠ taskId
  | .release job _ _ conclusion | .checkin job _ _ conclusion =>
      job.taskId = taskId → conclusion.status = .cancelled
  | .transition _ change _ =>
      change.taskId = taskId → change.status = .cancelled
  | _ => True

variable {thread : ℕ} {choice : Choice} {shared next : SftpShared}
variable {phase after : Phase} {events log : List Event}
variable {job : TransferJob} {taskId sessionId : String}

theorem spares_or (phase : Phase) (taskId : String) :
    phase.Spares taskId ∨ phase.Starting taskId ∨ phase.Started taskId := by
  cases phase with
  | transition turn change continuation =>
      by_cases same : change.taskId = taskId
      · by_cases cancelled : change.status = .cancelled
        · exact .inl fun _ => cancelled
        · by_cases starting : turn = .registry ∧ change.status = .running
          · obtain ⟨rfl, running⟩ := starting
            exact .inr (.inl ⟨same, running⟩)
          · exact .inr (.inr ⟨same, cancelled, fun registry running =>
              starting ⟨registry, running⟩⟩)
      · exact .inl fun named => absurd named same
  | transfer job checkout => exact (ne_or_eq _ _).imp_right .inr
  | release job checkout healthy conclusion =>
      by_cases spared : job.taskId = taskId → conclusion.status = .cancelled
      · exact .inl spared
      · exact .inr (.inr (Classical.not_imp.mp spared))
  | checkin job checkout healthy conclusion =>
      by_cases spared : job.taskId = taskId → conclusion.status = .cancelled
      · exact .inl spared
      · exact .inr (.inr (Classical.not_imp.mp spared))
  | _ => exact .inl trivial

theorem Phase.Started.task (coherent : phase.Coherent shared)
    (started : phase.Started taskId) : phase.task? = some taskId := by
  cases phase with
  | transfer job checkout => exact congrArg some started
  | release job checkout healthy conclusion => exact congrArg some started.1
  | checkin job checkout healthy conclusion => exact congrArg some started.1
  | transition turn change continuation =>
      obtain ⟨rfl, uncancelled, -⟩ := started
      cases continuation with
      | fail job error => exact congrArg some coherent.1.symm
      | transfer job checkout => exact congrArg some coherent.1.symm
      | dropPermit job => exact congrArg some (Eq.symm coherent)
      | ended job => exact congrArg some (Eq.symm coherent)
      | cleanup session remaining => exact absurd coherent uncancelled
  | _ => exact started.elim

/-! Coherence, from step to step. -/

theorem Move.cancelled
    (move : Move thread choice shared phase next after events)
    (issued : taskId ∈ shared.issued)
    (cancelled : shared.cancelled taskId = true) :
    next.cancelled taskId = true := by
  cases move with
  | inserted fresh =>
      have different : taskId ≠ choice.uuid := by
        rintro rfl
        exact fresh issued
      simpa [different] using cancelled
  | @tokenCancelled other session queueSeq =>
      rcases eq_or_ne taskId other with rfl | different
      · simp [SftpShared.cancelToken]
      · simpa [SftpShared.cancelToken, different] using cancelled
  | @activeCancelled session other remaining member =>
      rcases eq_or_ne taskId other with rfl | different
      · simp [SftpShared.cancelToken]
      · simpa [SftpShared.cancelToken, different] using cancelled
  | _ => exact cancelled

theorem Phase.Coherent.mono {other : Phase}
    (move : Move thread choice shared phase next after events)
    (coherent : other.Coherent shared) : other.Coherent next := by
  cases other with
  | transition turn change continuation => exact coherent
  | cancelToken taskId session queueSeq => exact move.issued coherent
  | cancelWaiter taskId session queueSeq =>
      exact ⟨move.issued coherent.1, move.cancelled coherent.1 coherent.2⟩
  | _ => trivial

theorem afterPoolStep_coherent (phase : TransferPool.Phase) :
    (afterPoolStep job phase).Coherent shared := by
  cases phase with
  | failed error =>
      cases error with
      | connect error => exact ⟨rfl, rfl⟩
      | cancelled => rfl
      | closed => trivial
  | _ => trivial

theorem concluding_coherent (conclusion : Conclusion) :
    (concluding job conclusion).Coherent shared := by
  obtain ⟨status, error, permitted⟩ := conclusion
  cases permitted <;> rfl

theorem resume_coherent (continuation : Continuation) :
    (resume continuation).Coherent shared := by
  cases continuation with
  | fail job error => rfl
  | _ => trivial

theorem Move.coherent
    (move : Move thread choice shared phase next after events)
    (coherent : phase.Coherent shared)
    (tokens : ∀ sessionId taskId entry,
      (shared.arcs sessionId).cancelTokens.lookup taskId = some entry →
        taskId ∈ shared.issued) : after.Coherent next := by
  cases move with
  | orphaned absent => exact ⟨rfl, rfl⟩
  | panicked panic => exact ⟨rfl, rfl⟩
  | pooled move => exact afterPoolStep_coherent _
  | starting kept => exact ⟨rfl, rfl⟩
  | dropped absent => exact concluding_coherent _
  | checkedIn => exact concluding_coherent _
  | rejected illegal => exact resume_coherent _
  | taken applied => exact coherent
  | tokenLookup => exact coherent
  | tokenRemoved => exact coherent
  | emitted => exact resume_coherent _
  | scanFound found => exact tokens _ _ _ found
  | tokenCancelled => exact ⟨coherent, Function.update_self _ _ _⟩
  | activeCancelled member => rfl
  | refused error asking => trivial
  | @unoccupied request free =>
      unfold afterCheck
      split <;> trivial
  | _ => trivial

theorem Staffed.token_issued {config : Config SftpShared Phase}
    (staffed : Staffed config) {entry : CancelEntry}
    (found : (config.shared.arcs sessionId).cancelTokens.lookup taskId =
      some entry) : taskId ∈ config.shared.issued := by
  obtain ⟨worker, holds⟩ := staffed.tokens sessionId taskId entry found
  obtain ⟨current, running, employed⟩ := Option.bind_eq_some_iff.mp holds
  exact staffed.issued worker taskId
    ((Config.holdings_of_running running _).trans (Phase.task?_of_job employed))

theorem Move.pending
    (move : Move thread choice shared phase next after events)
    (issued : taskId ∈ shared.issued) {task : TransferTask}
    (found : next.tasks.lookup taskId = some task)
    (pending : task.status = .pending) :
    ∃ earlier, shared.tasks.lookup taskId = some earlier ∧
      earlier.status = .pending := by
  cases move with
  | inserted fresh =>
      have different : taskId ≠ choice.uuid := by
        rintro rfl
        exact fresh issued
      rw [FiniteMap.lookup_insert_of_ne _ _ different] at found
      exact ⟨task, found, pending⟩
  | taken applied =>
      rcases applied.origin found with ⟨rfl, rfl⟩ | ⟨-, before⟩
      · exact absurd pending (SftpTaskStatus.legal_not_pending applied.isLegal)
      · exact ⟨task, before, pending⟩
  | purged => exact ⟨task, (TaskRegistry.lookup_purge.mp found).1, pending⟩
  | cleared =>
      exact ⟨task, (TaskRegistry.lookup_clearTerminal.mp found).1, pending⟩
  | _ => exact ⟨task, found, pending⟩

def NotPending (shared : SftpShared) (taskId : String) : Prop :=
  ∀ task, shared.tasks.lookup taskId = some task → task.status ≠ .pending

def isPending (shared : SftpShared) (taskId : String) : Bool :=
  (shared.tasks.lookup taskId).any (·.status == .pending)

theorem notPending_of_isPending (decided : isPending shared taskId = false) :
    NotPending shared taskId := by
  intro task found pending
  simp [isPending, found, pending] at decided

theorem NotPending.step (decided : NotPending shared taskId)
    (move : Move thread choice shared phase next after events)
    (issued : taskId ∈ shared.issued) : NotPending next taskId := by
  intro task found pending
  obtain ⟨earlier, before, was⟩ := move.pending issued found pending
  exact decided earlier before was

theorem notPending_of_refused {change : SftpTaskStatusEvent}
    (refused : shared.tasks.applyStatus change = none)
    (running : change.status = .running) :
    NotPending shared change.taskId := by
  intro task found pending
  simp [TaskRegistry.applyStatus, found, pending, running,
    SftpTaskStatus.legal] at refused

theorem resume_started {change : SftpTaskStatusEvent}
    {continuation : Continuation} (follows : continuation.Follows change)
    (started : (resume continuation).Started taskId) :
    change.taskId = taskId ∧ change.status = .running := by
  cases continuation with
  | fail job error =>
      obtain ⟨same, running⟩ := follows
      exact ⟨same.trans started.1, running⟩
  | transfer job checkout =>
      obtain ⟨same, running⟩ := follows
      exact ⟨same.trans started, running⟩
  | _ => exact started.elim

/-- A thread that comes to have asked for `Running` finds the task no longer
pending. -/
theorem Move.decides
    (move : Move thread choice shared phase next after events)
    (coherent : phase.Coherent shared)
    (before : phase.Started taskId → NotPending shared taskId)
    (started : after.Started taskId) : NotPending next taskId := by
  cases move with
  | orphaned absent => exact absurd rfl (started.2.2 rfl)
  | panicked panic => exact absurd rfl (started.2.2 rfl)
  | starting kept => exact absurd rfl (started.2.2 rfl)
  | @pooled job phase reached pool logged move =>
      cases reached with
      | failed error =>
          cases error with
          | connect error => exact absurd rfl (started.2.2 rfl)
          | cancelled => exact absurd rfl started.2.1
          | closed => exact started.elim
      | _ => exact started.elim
  | withdrawnWaiting cancelled => exact absurd rfl started.2
  | withdrawnPermitted cancelled => exact absurd rfl started.2
  | concluded => exact before started.1
  | released present => exact before started
  | dropped absent => exact before ⟨started.1, started.2.1⟩
  | checkedIn => exact before ⟨started.1, started.2.1⟩
  | rejected illegal =>
      obtain ⟨rfl, running⟩ := resume_started coherent started
      exact notPending_of_refused illegal running
  | taken applied =>
      intro task found pending
      obtain ⟨rfl, -⟩ := started
      rcases applied.origin found with ⟨-, rfl⟩ | ⟨different, -⟩
      · exact SftpTaskStatus.legal_not_pending applied.isLegal pending
      · exact different rfl
  | tokenLookup => exact before ⟨started.1, started.2.1, nofun⟩
  | tokenRemoved => exact before ⟨started.1, started.2.1, nofun⟩
  | emitted =>
      obtain ⟨rfl, running⟩ := resume_started coherent started
      exact before ⟨rfl, by simp [running], nofun⟩
  | activeCancelled member => exact absurd rfl started.2.1
  | refused error asking => exact started.elim
  | @unoccupied request free =>
      unfold afterCheck at started
      split at started <;> exact started.elim
  | _ => exact started.elim

/-- What holds of the workers in every run. -/
structure Orderly (config : Config SftpShared Phase) : Prop where
  staffed : Staffed config
  coherent : Coherent config
  started : ∀ thread phase taskId, config.threads thread = some phase →
    phase.Started taskId → NotPending config.shared taskId

theorem Orderly.step {config final : Config SftpShared Phase}
    {action : ThreadAction Phase Choice} (orderly : Orderly config)
    (stepped : service.machine.step config action = some (final, events)) :
    Orderly final := by
  have staffed := orderly.staffed.step stepped
  rcases Program.machine_step_cases stepped with
    ⟨thread, start, -, free, admitted, rfl, rfl⟩ |
    ⟨thread, choice, current, shared, after, -, running, moved, rfl⟩
  · refine ⟨staffed, ?_, ?_⟩
    · refine everywhere_update ?_ fun other phase _ found =>
        orderly.coherent other phase found
      cases start <;> trivial
    · intro other phase taskId found started
      rcases of_update_eq_some found with ⟨-, same⟩ | ⟨-, before⟩
      · obtain rfl := Option.some.inj same
        cases start <;> first | exact started.elim | simp [service] at admitted
      · exact orderly.started other phase taskId before started
  · have move := step_move moved
    refine ⟨staffed, ?_, ?_⟩
    · refine everywhere_update ?_ fun other phase _ found =>
        (orderly.coherent other phase found).mono move
      exact move.coherent (orderly.coherent _ current running)
        fun _ _ _ => orderly.staffed.token_issued
    · intro other phase taskId found started
      rcases of_update_eq_some found with ⟨rfl, same⟩ | ⟨-, before⟩
      · obtain rfl := Option.some.inj same
        exact move.decides (orderly.coherent _ current running)
          (orderly.started _ current taskId running) started
      · have task := started.task (orderly.coherent other phase before)
        exact (orderly.started other phase taskId before started).step move
          (orderly.staffed.issued other taskId
            ((Config.holdings_of_running before _).trans task))

theorem initial_orderly : Orderly initial where
  staffed := initial_staffed
  coherent := by
    intro thread phase found
    cases found
  started := by
    intro thread phase taskId found
    cases found

/-! After the cancellation. -/

/-- While the task is pending, its worker finds its session and comes to a
connection. -/
def checkoutSucceeds (taskId : String) (_ : List Event)
    (config : Config SftpShared Phase) : ThreadAction Phase Choice → Bool
  | .spawn _ _ => true
  | .advance thread choice =>
      !isPending config.shared taskId ||
        match config.threads thread with
        | some (.work job) =>
            job.taskId != taskId ||
              decide (job.sessionId ∈ config.shared.handles)
        | some (.checkout job (.connecting _)) =>
            job.taskId != taskId || choice.joinError.isNone &&
              ((config.shared.pool job.sessionId).state.closed ||
                choice.pool.connectError.isNone)
        | _ => true

structure Withdrawn (config : Config SftpShared Phase) (taskId : String) :
    Prop where
  orderly : Orderly config
  issued : taskId ∈ config.shared.issued
  token : config.shared.cancelled taskId = true
  status : ∀ task, config.shared.tasks.lookup taskId = some task →
    task.status = .pending ∨ task.status = .cancelled
  spared : NotPending config.shared taskId ∨
    ∀ thread phase, config.threads thread = some phase → phase.Spares taskId

theorem resume_spares {change : SftpTaskStatusEvent}
    {continuation : Continuation} (follows : continuation.Follows change)
    (spares : change.taskId = taskId → change.status = .cancelled) :
    (resume continuation).Spares taskId := by
  cases continuation with
  | fail job error =>
      obtain ⟨same, running⟩ := follows
      intro named
      have cancelled := spares (same.trans named)
      rw [running] at cancelled
      cases cancelled
  | transfer job checkout =>
      obtain ⟨same, running⟩ := follows
      intro named
      have cancelled := spares (same.trans named)
      rw [running] at cancelled
      cases cancelled
  | _ => trivial

theorem connected_of_allowed {config : Config SftpShared Phase} {seq : ℕ}
    (pending : isPending config.shared job.taskId = true)
    (permitted : checkoutSucceeds job.taskId log config (.advance thread choice)
      = true)
    (running : config.threads thread = some (.checkout job (.connecting seq))) :
    choice.joinError = none ∧
      ((config.shared.pool job.sessionId).state.closed = true ∨
        choice.pool.connectError = none) := by
  simpa [checkoutSucceeds, pending, running] using permitted

theorem Move.spares {config : Config SftpShared Phase}
    (move : Move thread choice config.shared phase next after events)
    (running : config.threads thread = some phase)
    (pending : isPending config.shared taskId = true)
    (permitted : checkoutSucceeds taskId log config (.advance thread choice) =
      true)
    (coherent : phase.Coherent config.shared)
    (token : config.shared.cancelled taskId = true)
    (spares : phase.Spares taskId) : after.Spares taskId := by
  cases move with
  | @orphaned job absent =>
      intro same
      obtain rfl : job.taskId = taskId := same
      simp [checkoutSucceeds, pending, running, absent] at permitted
  | @panicked job seq text panic =>
      intro same
      obtain rfl : job.taskId = taskId := same
      have connected := (connected_of_allowed pending permitted running).1
      rw [panic] at connected
      cases connected
  | @pooled job _ reached pool logged move =>
      cases reached with
      | failed error =>
          cases error with
          | connect error =>
              intro same
              obtain rfl : job.taskId = taskId := same
              cases move with
              | connectFailed isOpen failure =>
                  rcases (connected_of_allowed pending permitted running).2
                    with isClosed | success
                  · simp [isOpen] at isClosed
                  · simp [failure] at success
          | cancelled => exact fun _ => rfl
          | closed => trivial
      | _ => trivial
  | @starting job checkout kept =>
      intro same
      obtain rfl : job.taskId = taskId := same
      simp [kept] at token
  | withdrawnWaiting cancelled => exact fun _ => rfl
  | withdrawnPermitted cancelled => exact fun _ => rfl
  | concluded => exact fun same => absurd same spares
  | released present => exact spares
  | dropped absent => exact spares
  | checkedIn => exact spares
  | rejected illegal => exact resume_spares coherent spares
  | taken applied => exact spares
  | tokenLookup => exact spares
  | tokenRemoved => exact spares
  | emitted => exact resume_spares coherent spares
  | activeCancelled member => exact fun _ => rfl
  | refused error asking => trivial
  | @unoccupied request free =>
      unfold afterCheck
      split <;> trivial
  | _ => trivial

theorem Withdrawn.applied_cancelled {config : Config SftpShared Phase}
    (withdrawn : Withdrawn config taskId)
    (running : config.threads thread = some phase)
    {turn : TransitionTurn} {change : SftpTaskStatusEvent}
    {continuation : Continuation} {tasks : TaskRegistry} {task : TransferTask}
    (asking : phase = .transition turn change continuation)
    (applied : TaskRegistry.Applied config.shared.tasks tasks change task)
    (same : change.taskId = taskId) : change.status = .cancelled := by
  subst same
  cases withdrawn.spared with
  | inl decided =>
      cases withdrawn.status task applied.found with
      | inl pending => exact absurd pending (decided task applied.found)
      | inr cancelled =>
          have legal := applied.isLegal
          simp [cancelled, SftpTaskStatus.legal] at legal
  | inr spared =>
      have spares := spared thread phase running
      rw [asking] at spares
      exact spares rfl

theorem Withdrawn.taken {config : Config SftpShared Phase}
    {change : SftpTaskStatusEvent} (withdrawn : Withdrawn config taskId)
    (move : Move thread choice config.shared phase next after events)
    (running : config.threads thread = some phase)
    (logged : .taken change ∈ events) (same : change.taskId = taskId) :
    change.status = .cancelled := by
  cases move with
  | taken applied =>
      obtain rfl := Event.taken.inj (List.mem_singleton.mp logged)
      exact withdrawn.applied_cancelled running rfl applied same
  | _ => simp at logged

theorem Withdrawn.next_status {config : Config SftpShared Phase}
    (withdrawn : Withdrawn config taskId)
    (move : Move thread choice config.shared phase next after events)
    (running : config.threads thread = some phase)
    {task : TransferTask} (found : next.tasks.lookup taskId = some task) :
    task.status = .pending ∨ task.status = .cancelled := by
  have status := withdrawn.status
  cases move with
  | inserted fresh =>
      have different : taskId ≠ choice.uuid := by
        rintro rfl
        exact fresh withdrawn.issued
      rw [FiniteMap.lookup_insert_of_ne _ _ different] at found
      exact status task found
  | taken applied =>
      rcases applied.origin found with ⟨same, rfl⟩ | ⟨-, before⟩
      · exact .inr (withdrawn.applied_cancelled running rfl applied same.symm)
      · exact status task before
  | purged => exact status task (TaskRegistry.lookup_purge.mp found).1
  | cleared => exact status task (TaskRegistry.lookup_clearTerminal.mp found).1
  | _ => exact status task found

theorem Withdrawn.step {config final : Config SftpShared Phase}
    {action : ThreadAction Phase Choice} (withdrawn : Withdrawn config taskId)
    (permitted : checkoutSucceeds taskId log config action = true)
    (stepped : service.machine.step config action = some (final, events)) :
    Withdrawn final taskId ∧ ∀ change, .taken change ∈ events →
      change.taskId = taskId → change.status = .cancelled := by
  have orderly := withdrawn.orderly.step stepped
  rcases Program.machine_step_cases stepped with
    ⟨thread, start, rfl, free, admitted, rfl, rfl⟩ |
    ⟨thread, choice, current, shared, after, rfl, running, moved, rfl⟩
  · refine ⟨⟨orderly, withdrawn.issued, withdrawn.token, withdrawn.status,
      withdrawn.spared.imp_right fun spared => ?_⟩, by simp [service]⟩
    refine everywhere_update ?_ fun other phase _ found =>
      spared other phase found
    cases start <;> trivial
  · have move := step_move moved
    refine ⟨⟨orderly, move.issued withdrawn.issued,
      move.cancelled withdrawn.issued withdrawn.token,
      fun task found => withdrawn.next_status move running found, ?_⟩,
      fun change => withdrawn.taken move running⟩
    cases withdrawn.spared with
    | inl decided => exact .inl (decided.step move withdrawn.issued)
    | inr spared =>
        cases pending : isPending config.shared taskId with
        | false =>
            exact .inl ((notPending_of_isPending pending).step move
              withdrawn.issued)
        | true =>
            refine .inr (everywhere_update ?_ fun other phase _ found =>
              spared other phase found)
            exact move.spares running pending permitted
              (withdrawn.orderly.coherent _ current running) withdrawn.token
              (spared _ current running)

theorem Move.cancelReturned_inv {canceller : ℕ}
    (move : Move thread choice shared phase next after events)
    (returned : .cancelReturned canceller taskId (.ok ()) ∈ events) :
    after = .returned ∧
      ((∃ sessionId queueSeq, phase = .cancelWaiter taskId sessionId queueSeq ∧
        next = shared.setPool sessionId
          ((shared.pool sessionId).cancelWaiter queueSeq)) ∨
      (next = shared ∧ ∃ task, shared.tasks.lookup taskId = some task ∧
        task.status.isTerminal = true)) := by
  cases move with
  | waiterCancelled =>
      obtain ⟨-, rfl, -⟩ :=
        Event.cancelReturned.inj (List.mem_singleton.mp returned)
      exact ⟨rfl, .inl ⟨_, _, rfl, rfl⟩⟩
  | cancelledLate found terminal =>
      obtain ⟨-, rfl, -⟩ :=
        Event.cancelReturned.inj (List.mem_singleton.mp returned)
      exact ⟨rfl, .inr ⟨rfl, _, found, terminal⟩⟩
  | cancelledUnknown error =>
      obtain ⟨-, -, impossible⟩ :=
        Event.cancelReturned.inj (List.mem_singleton.mp returned)
      cases impossible
  | _ => simp at returned

theorem withdrawn_of_cancelled {config cancelled : Config SftpShared Phase}
    {action : ThreadAction Phase Choice} {canceller : ℕ} {task : TransferTask}
    (orderly : Orderly config)
    (stepped : service.machine.step config action = some (cancelled, events))
    (returned : .cancelReturned canceller taskId (.ok ()) ∈ events)
    (found : config.shared.tasks.lookup taskId = some task)
    (pending : task.status = .pending)
    (unstarted : ∀ thread phase, config.threads thread = some phase →
      ¬phase.Starting taskId) : Withdrawn cancelled taskId := by
  have orderlyAfter := orderly.step stepped
  rcases Program.machine_step_cases stepped with
    ⟨thread, start, -, -, -, -, rfl⟩ |
    ⟨thread, choice, current, shared, after, -, running, moved, rfl⟩
  · cases returned
  · obtain ⟨rfl, ⟨sessionId, queueSeq, rfl, rfl⟩ | ⟨-, late, lateFound, terminal⟩⟩ :=
      (step_move moved).cancelReturned_inv returned
    · have named := orderly.coherent thread _ running
      refine ⟨orderlyAfter, named.1, named.2, ?_, .inr ?_⟩
      · intro other present
        obtain rfl := Option.some.inj (found.symm.trans present)
        exact .inl pending
      · refine everywhere_update trivial fun other phase _ present => ?_
        rcases spares_or phase taskId with spares | starting | started
        · exact spares
        · exact absurd starting (unstarted other phase present)
        · exact absurd pending
            (orderly.started other phase taskId present started task found)
    · obtain rfl := Option.some.inj (found.symm.trans lateFound)
      simp [pending, SftpTaskStatus.isTerminal] at terminal

/-- A pending task whose cancellation has returned is never taken to anything
but `Cancelled`, if its worker was not about to start it and comes to a
connection. -/
theorem cancelled_pending_final {config cancelled final : Config SftpShared Phase}
    {actions more : List (ThreadAction Phase Choice)} {later : List Event}
    {action : ThreadAction Phase Choice} {canceller : ℕ} {task : TransferTask}
    (run : service.machine.Run initial actions log config)
    (stepped : service.machine.step config action = some (cancelled, events))
    (returned : .cancelReturned canceller taskId (.ok ()) ∈ events)
    (found : config.shared.tasks.lookup taskId = some task)
    (pending : task.status = .pending)
    (unstarted : ∀ thread phase, config.threads thread = some phase →
      ¬phase.Starting taskId)
    (continued : service.machine.RunWhere (checkoutSucceeds taskId)
      (log ++ events) cancelled more later final) :
    (∀ change, .taken change ∈ later → change.taskId = taskId →
      change.status = .cancelled) ∧
    ∀ task, final.shared.tasks.lookup taskId = some task →
      task.status = .pending ∨ task.status = .cancelled := by
  have orderly := run.always Orderly initial_orderly Orderly.step
  have kept := continued.invariant
    (fun past config => Withdrawn config taskId ∧ ∃ rest,
      past = log ++ events ++ rest ∧ ∀ change, .taken change ∈ rest →
        change.taskId = taskId → change.status = .cancelled)
    ⟨withdrawn_of_cancelled orderly stepped returned found pending unstarted,
      [], by simp, by simp⟩ ?_
  · obtain ⟨withdrawn, rest, same, quiet⟩ := kept
    obtain rfl := List.append_cancel_left same
    exact ⟨quiet, withdrawn.status⟩
  · rintro past config action next logged ⟨withdrawn, rest, rfl, quiet⟩ permitted
      moved
    obtain ⟨still, taken⟩ := withdrawn.step permitted moved
    refine ⟨still, rest ++ logged, by simp, fun change member => ?_⟩
    cases List.mem_append.mp member with
    | inl before => exact quiet change before
    | inr now => exact taken change now

/-- An upload whose worker goes through that many steps, and its cancellation
up to the last one. -/
def cancelledUpload (steps : ℕ) : List (ThreadAction Phase Choice) :=
  [.spawn 0 (.called (.registerSession "session")), .advance 0 {},
    .spawn 1 (.called (.enqueueUpload "session" "/home/a" "/srv")),
    .advance 1 {}, .advance 1 {}, .advance 1 { uuid := "task" },
    .advance 1 {}] ++
  List.replicate steps (.advance 1 {}) ++
  [.spawn 2 (.called (.cancelTask "task")), .advance 2 {},
    .advance 2 { sessionId := "session" }, .advance 2 {}]

/-- After six steps the worker has made its last check. -/
theorem cancelled_upload_runs :
    ∃ config cancelled final log,
      service.machine.Run initial (cancelledUpload 6) log config ∧
      (config.shared.tasks.lookup "task").map (·.status) = some .pending ∧
      service.machine.step config (.advance 2 {}) =
        some (cancelled, [.cancelReturned 2 "task" (.ok ())]) ∧
      service.machine.step cancelled (.advance 1 {}) =
        some (final, [.taken ⟨"task", "session", .running, none⟩]) ∧
      (final.shared.tasks.lookup "task").map (·.status) = some .running :=
  ⟨_, _, _, _, Machine.run_of_execute rfl, rfl, rfl, rfl, rfl⟩

/-- A worker that has not begun finds a connection, and gives it back. -/
def withdrawnUpload : List (ThreadAction Phase Choice) :=
  List.replicate 4 (.advance 1 {}) ++
  .advance 1 { acquire := false } :: List.replicate 6 (.advance 1 {})

theorem cancelled_pending_final_withdrawn :
    ∃ past cancelled later final,
      service.machine.RunWhere (checkoutSucceeds "task") past cancelled
        withdrawnUpload later final ∧
      .emitted ⟨"task", "session", .cancelled, none⟩ ∈ later ∧
      (∀ change, .taken change ∈ later → change.taskId = "task" →
        change.status = .cancelled) ∧
      ∀ task, final.shared.tasks.lookup "task" = some task →
        task.status = .pending ∨ task.status = .cancelled := by
  have executed : ∃ config cancelled final log later task,
      service.machine.Run initial (cancelledUpload 0) log config ∧
      service.machine.step config (.advance 2 {}) =
        some (cancelled, [.cancelReturned 2 "task" (.ok ())]) ∧
      config.shared.tasks.lookup "task" = some task ∧
      task.status = .pending ∧
      (∀ thread phase, config.threads thread = some phase →
        ¬phase.Starting "task") ∧
      service.machine.RunWhere (checkoutSucceeds "task")
        (log ++ [.cancelReturned 2 "task" (.ok ())]) cancelled withdrawnUpload
        later final ∧
      .emitted ⟨"task", "session", .cancelled, none⟩ ∈ later := by
    refine ⟨_, _, _, _, _, _, Machine.run_of_execute rfl, rfl, rfl, rfl, ?_,
      Machine.runWhere_of_executeWhere rfl, ?_⟩
    · rintro (_ | _ | _ | thread) phase found <;> cases found <;> exact id
    · exact List.mem_of_getLast? rfl
  obtain ⟨config, cancelled, final, log, later, task, run, stepped, found,
    pending, unstarted, continued, announced⟩ := executed
  exact ⟨_, cancelled, later, final, continued, announced,
    cancelled_pending_final run stepped (List.mem_singleton_self _) found pending
      unstarted continued⟩

end Sftp

end TitanSSH
