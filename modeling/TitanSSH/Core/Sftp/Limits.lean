import TitanSSH.Core.Sftp.Cleanup
import TitanSSH.Core.Sftp.Queueing
import TitanSSH.Core.Transfer.PoolHolders

namespace TitanSSH

open Interleaving

namespace Sftp

/-! Which connection slots and permits the workers of running tasks hold. -/

/-- The slot of the session's pool that a worker holds. -/
def Phase.slot? (sessionId : String) : Phase → Option ℕ
  | .checkout job phase =>
      if job.sessionId = sessionId then phase.seq? else none
  | .permit job held | .permitted job held | .transfer job held
  | .release job held _ _ | .checkin job held _ _
  | .transition _ _ (.transfer job held) =>
      if job.sessionId = sessionId then some held.seq else none
  | _ => none

def Continuation.hasPermit : Continuation → Bool
  | .transfer _ _ | .dropPermit _ => true
  | _ => false

/-- The worker holds a permit. -/
def Phase.hasPermit : Phase → Bool
  | .permitted _ _ | .transfer _ _ | .dropPermit _ => true
  | .release _ _ _ conclusion | .checkin _ _ _ conclusion =>
      conclusion.permitted
  | .transition _ _ next => next.hasPermit
  | _ => false

/-- A worker without a connection takes its task through Running to Failed, the
state machine having no other way there. -/
def Phase.Fails (taskId : String) : Phase → Prop
  | .transition _ _ (.fail job _) => job.taskId = taskId
  | .transition _ change (.ended job) =>
      job.taskId = taskId ∧ change.status = .failed
  | _ => False

/-- The worker has given its connection back and still has its permit. -/
def Phase.GaveBack (taskId : String) : Phase → Prop
  | .transition _ _ (.dropPermit job) => job.taskId = taskId
  | _ => False

/-- Where the worker of a running task can be. -/
def Phase.Runs (taskId : String) : Phase → Prop
  | .transfer job _ => job.taskId = taskId
  | .release job _ _ conclusion | .checkin job _ _ conclusion =>
      job.taskId = taskId ∧ conclusion.permitted = true
  | .transition .emit _ (.fail job _) | .transition .emit _ (.transfer job _)
  | .transition .registry _ (.dropPermit job) => job.taskId = taskId
  | .transition .registry change (.ended job) =>
      job.taskId = taskId ∧ change.status = .failed
  | _ => False

def checkingOut : TransferPool.Phase → Prop
  | .checkout _ | .entering _ _ | .waiting _ | .connecting _ => True
  | _ => False

/-- What the phases are made of in every run. -/
def Phase.Plain : Phase → Prop
  | .checkout _ phase => checkingOut phase
  | .reaper _ phase => reaping phase
  | .release _ _ _ conclusion | .checkin _ _ _ conclusion =>
      conclusion.status.isTerminal = true
  | .transition _ change (.dropPermit _) | .transition _ change (.ended _) =>
      change.status.isTerminal = true
  | _ => True

def Phase.named? (phase : Phase) : Option (String × String) :=
  match phase.entry? with
  | some task => some (task.taskId, task.sessionId)
  | none => phase.job?.map fun job => (job.taskId, job.sessionId)

variable {thread : ℕ} {choice : Choice} {shared next : SftpShared}
variable {phase after : Phase} {events log : List Event}
variable {job : TransferJob} {taskId sessionId : String}

theorem Phase.Runs.employed (runs : phase.Runs taskId) :
    ∃ job, phase.job? = some job ∧ job.taskId = taskId := by
  cases phase with
  | transfer job held => exact ⟨job, rfl, runs⟩
  | release job held healthy conclusion => exact ⟨job, rfl, runs.1⟩
  | checkin job held healthy conclusion => exact ⟨job, rfl, runs.1⟩
  | transition turn change continuation =>
      cases turn <;> cases continuation <;>
        first | exact runs.elim | exact ⟨_, rfl, runs⟩ | exact ⟨_, rfl, runs.1⟩
  | _ => exact runs.elim

theorem Phase.Runs.permit (runs : phase.Runs taskId)
    (provided : ¬phase.Fails taskId) : phase.hasPermit = true := by
  cases phase with
  | transfer job held => rfl
  | release job held healthy conclusion => exact runs.2
  | checkin job held healthy conclusion => exact runs.2
  | transition turn change continuation =>
      cases turn <;> cases continuation <;>
        first | exact runs.elim | exact absurd runs provided | rfl
  | _ => exact runs.elim

theorem Phase.Runs.slot (runs : phase.Runs taskId)
    (provided : ¬phase.Fails taskId) (keeps : ¬phase.GaveBack taskId)
    (employed : phase.job? = some job) :
    ∃ seq, phase.slot? job.sessionId = some seq := by
  cases phase with
  | transfer own held =>
      obtain rfl := Option.some.inj employed
      exact ⟨held.seq, if_pos rfl⟩
  | release own held healthy conclusion =>
      obtain rfl := Option.some.inj employed
      exact ⟨held.seq, if_pos rfl⟩
  | checkin own held healthy conclusion =>
      obtain rfl := Option.some.inj employed
      exact ⟨held.seq, if_pos rfl⟩
  | transition turn change continuation =>
      cases continuation with
      | transfer own held =>
          obtain rfl := Option.some.inj employed
          exact ⟨held.seq, if_pos rfl⟩
      | dropPermit own =>
          cases turn <;> first | exact runs.elim | exact absurd runs keeps
      | _ =>
          cases turn <;> first | exact runs.elim | exact absurd runs provided
  | _ => exact runs.elim

/-! The phases from step to step. -/

theorem concluding_plain {conclusion : Conclusion}
    (terminal : conclusion.status.isTerminal = true) :
    (concluding job conclusion).Plain := by
  unfold concluding
  split <;> exact terminal

theorem conclude_terminal (choice : Choice) :
    (conclude choice).1.status.isTerminal = true := by
  unfold conclude
  split
  · rfl
  · split <;> rfl

theorem conclude_permitted (choice : Choice) :
    (conclude choice).1.permitted = true := by
  unfold conclude
  split
  · rfl
  · split <;> rfl

theorem resume_plain (continuation : Continuation) :
    (resume continuation).Plain := by
  cases continuation <;> trivial

theorem Move.plain (move : Move thread choice shared phase next after events)
    (plain : phase.Plain) : after.Plain := by
  cases move with
  | @unoccupied request free =>
      unfold afterCheck
      split <;> trivial
  | @pooled job start finish pool logged step =>
      cases step <;> trivial
  | concluded => exact conclude_terminal choice
  | released present => exact plain
  | dropped absent => exact concluding_plain plain
  | checkedIn => exact concluding_plain plain
  | rejected illegal => exact resume_plain _
  | @taken change continuation tasks task applied =>
      cases continuation <;> trivial
  | @tokenLookup change continuation =>
      cases continuation <;> trivial
  | @tokenRemoved change continuation =>
      cases continuation <;> trivial
  | emitted => exact resume_plain _
  | reaped step => exact reaped_accords step plain
  | _ => trivial

theorem Move.permits (move : Move thread choice shared phase next after events) :
    (next.permits = shared.permits ∧ after.hasPermit = phase.hasPermit) ∨
    (phase.hasPermit = false ∧ after.hasPermit = true ∧
      shared.permits = next.permits + 1) ∨
    (phase.hasPermit = true ∧ after.hasPermit = false ∧
      next.permits = shared.permits + 1) := by
  cases move with
  | acquired available =>
      exact .inr (.inl ⟨rfl, rfl, (Nat.sub_one_add_one available).symm⟩)
  | permitDropped => exact .inr (.inr ⟨rfl, rfl, rfl⟩)
  | refused error asking =>
      refine .inl ⟨rfl, ?_⟩
      cases phase <;> first | rfl | simp [Phase.asking] at asking
  | @unoccupied request free =>
      refine .inl ⟨rfl, ?_⟩
      unfold afterCheck
      split <;> rfl
  | @pooled job start finish pool logged step =>
      refine .inl ⟨rfl, ?_⟩
      cases finish with
      | failed error => cases error <;> rfl
      | _ => rfl
  | concluded => exact .inl ⟨rfl, conclude_permitted choice⟩
  | @dropped job held healthy conclusion absent =>
      refine .inl ⟨rfl, ?_⟩
      obtain ⟨status, error, permitted⟩ := conclusion
      cases permitted <;> rfl
  | @checkedIn job held healthy conclusion =>
      refine .inl ⟨rfl, ?_⟩
      obtain ⟨status, error, permitted⟩ := conclusion
      cases permitted <;> rfl
  | @rejected change continuation illegal =>
      refine .inl ⟨rfl, ?_⟩
      cases continuation <;> rfl
  | @emitted change continuation =>
      refine .inl ⟨rfl, ?_⟩
      cases continuation <;> rfl
  | _ => exact .inl ⟨rfl, rfl⟩

/-! The slots of a session that is open. -/

theorem afterPoolStep_slot? (reached : TransferPool.Phase) :
    (afterPoolStep job reached).slot? sessionId =
      if job.sessionId = sessionId then reached.seq? else none := by
  cases reached with
  | failed error => cases error <;> simp [afterPoolStep, afterFailure, failJob,
      Phase.slot?, TransferPool.Phase.seq?]
  | _ => rfl

theorem concluding_slot? (conclusion : Conclusion) :
    (concluding job conclusion).slot? sessionId = none := by
  obtain ⟨status, error, permitted⟩ := conclusion
  cases permitted <;> rfl

theorem resume_slot? {turn : TransitionTurn} {change : SftpTaskStatusEvent}
    (continuation : Continuation) :
    (resume continuation).slot? sessionId =
      (Phase.transition turn change continuation).slot? sessionId := by
  cases continuation <;> rfl

theorem Phase.slot?_job {seq : ℕ} (holds : phase.slot? sessionId = some seq) :
    ∃ job, phase.job? = some job ∧ job.sessionId = sessionId := by
  cases phase with
  | transition turn change continuation =>
      cases continuation with
      | transfer job held =>
          simp only [slot?, Option.ite_none_right_eq_some] at holds
          exact ⟨job, rfl, holds.1⟩
      | _ => cases holds
  | checkout job phase =>
      simp only [slot?, Option.ite_none_right_eq_some] at holds
      exact ⟨job, rfl, holds.1⟩
  | permit job held =>
      simp only [slot?, Option.ite_none_right_eq_some] at holds
      exact ⟨job, rfl, holds.1⟩
  | permitted job held =>
      simp only [slot?, Option.ite_none_right_eq_some] at holds
      exact ⟨job, rfl, holds.1⟩
  | transfer job held =>
      simp only [slot?, Option.ite_none_right_eq_some] at holds
      exact ⟨job, rfl, holds.1⟩
  | release job held healthy conclusion =>
      simp only [slot?, Option.ite_none_right_eq_some] at holds
      exact ⟨job, rfl, holds.1⟩
  | checkin job held healthy conclusion =>
      simp only [slot?, Option.ite_none_right_eq_some] at holds
      exact ⟨job, rfl, holds.1⟩
  | _ => cases holds

/-- The pool of an open session, with the slots that the workers hold. -/
def Served (shared : SftpShared) (sessionId : String) (seqs : ℕ → Option ℕ) :
    Prop :=
  (shared.pool sessionId).state.closed = false ∧
    (shared.pool sessionId).Slotted seqs

theorem Served.of_pool {pool : TransferPool} {seqs : ℕ → Option ℕ}
    (same : next.pool sessionId = pool) (isOpen : pool.state.closed = false)
    (slotted : pool.Slotted seqs) : Served next sessionId seqs := by
  unfold Served
  rw [same]
  exact ⟨isOpen, slotted⟩

theorem Move.served {seqs : ℕ → Option ℕ}
    (move : Move thread choice shared phase next after events)
    (served : Served shared sessionId seqs) (plain : phase.Plain)
    (own : seqs thread = phase.slot? sessionId)
    (present : sessionId ∈ shared.handles)
    (known : sessionId ∈ shared.registered) (closes : ¬phase.Closes sessionId) :
    Served next sessionId
      (Function.update seqs thread (after.slot? sessionId)) := by
  obtain ⟨isOpen, slotted⟩ := served
  have unmoved : after.slot? sessionId = phase.slot? sessionId →
      Function.update seqs thread (after.slot? sessionId) = seqs := by
    intro same
    rw [same, ← own, Function.update_eq_self]
  have aside : next.pool sessionId = shared.pool sessionId →
      after.slot? sessionId = phase.slot? sessionId →
        Served next sessionId
          (Function.update seqs thread (after.slot? sessionId)) := by
    intro same kept
    rw [unmoved kept]
    exact .of_pool same isOpen slotted
  cases move with
  | @registered other fresh =>
      refine aside ?_ rfl
      have different : sessionId ≠ other := by
        rintro rfl
        exact fresh known
      simp [SftpShared.pool, different]
  | refused error asking =>
      refine aside rfl ?_
      cases phase <;> first | rfl | simp [Phase.asking] at asking
  | @unoccupied request free =>
      refine aside rfl ?_
      unfold afterCheck
      split <;> rfl
  | @enqueued task =>
      refine aside ?_ rfl
      rcases eq_or_ne sessionId task.sessionId with rfl | different
      · simp [SftpShared.setHandle, SftpShared.pool]
      · simp [SftpShared.setHandle, SftpShared.pool, different]
  | @started job present =>
      refine aside rfl ?_
      simp [Phase.slot?, TransferPool.Phase.seq?]
  | panicked panic => exact .of_pool rfl isOpen (slotted.release thread)
  | @pooled job start finish pool logged step =>
      rcases eq_or_ne job.sessionId sessionId with rfl | different
      · have aside : start ≠ .close := by
          rintro rfl
          exact plain
        have stays := step.stays_open isOpen aside
        rw [afterPoolStep_slot?, if_pos rfl]
        refine .of_pool (by simp) stays (step.slotted slotted ?_ stays)
        simpa [Phase.slot?] using own
      · refine aside (by simp [different.symm]) ?_
        rw [afterPoolStep_slot?, if_neg different]
        simp [Phase.slot?, different]
  | @dropped job held healthy conclusion absent =>
      refine aside rfl ?_
      have different : job.sessionId ≠ sessionId := by
        rintro rfl
        exact absent present
      rw [concluding_slot?]
      simp [Phase.slot?, different]
  | @checkedIn job held healthy conclusion =>
      rw [concluding_slot?]
      rcases eq_or_ne job.sessionId sessionId with rfl | different
      · have step : TransferPool.Move thread
            { choice.pool with healthy := healthy } (shared.pool job.sessionId)
            (.holding held)
            ((shared.pool job.sessionId).checkin choice.pool held healthy)
            .returned [.checkedIn thread held healthy] :=
          TransferPool.stepHolding_move rfl
        have stays := step.stays_open isOpen (by rintro ⟨⟩)
        refine .of_pool (by simp) stays (step.slotted slotted ?_ stays)
        simpa [Phase.slot?, TransferPool.Phase.seq?] using own
      · rw [← concluding_slot? conclusion]
        refine aside (by simp [different.symm]) ?_
        rw [concluding_slot?]
        simp [Phase.slot?, different]
  | rejected illegal => exact aside rfl (resume_slot? _)
  | @taken change continuation tasks task applied =>
      refine aside rfl ?_
      cases continuation <;> rfl
  | @tokenLookup change continuation =>
      refine aside rfl ?_
      cases continuation <;> rfl
  | @tokenRemoved change continuation =>
      refine aside (by simp) ?_
      cases continuation <;> rfl
  | emitted => exact aside rfl (resume_slot? _)
  | @waiterCancelled taskId other queueSeq =>
      rw [unmoved rfl]
      rcases eq_or_ne other sessionId with rfl | different
      · refine .of_pool ((SftpShared.pool_setPool _).trans (if_pos rfl))
          (by simpa using isOpen) ?_
        apply slotted.congr <;> simp
      · exact .of_pool (by simp [different.symm]) isOpen slotted
  | @poolClosed other =>
      have different : sessionId ≠ other := Ne.symm closes
      exact aside (by simp [different]) rfl
  | @reaped other start finish pool logged step =>
      rw [unmoved rfl]
      rcases eq_or_ne other sessionId with rfl | different
      · have aside : start ≠ .close := by
          rintro rfl
          exact plain
        have stays := step.stays_open isOpen aside
        have idle : seqs thread = start.seq? := by
          rw [own]
          cases start <;> first | rfl | exact plain.elim
        have kept := step.slotted slotted idle stays
        have idleAfter : finish.seq? = none := by
          have still := reaped_accords step plain
          cases finish <;> first | rfl | exact still.elim
        rw [idleAfter, Function.update_eq_self_iff.mpr own.symm] at kept
        exact .of_pool (by simp) stays kept
      · exact .of_pool (by simp [different.symm]) isOpen slotted
  | _ => exact aside rfl rfl

theorem Move.opens
    (move : Move thread choice shared phase next after events)
    (absent : sessionId ∉ shared.handles) (present : sessionId ∈ next.handles) :
    sessionId ∉ shared.registered ∧ after = .returned ∧
      next.pool sessionId = .newCyclic transferIdleTimeout := by
  cases move with
  | @registered other fresh =>
      obtain rfl : sessionId = other :=
        (Finset.mem_insert.mp present).resolve_right absent
      exact ⟨fresh, rfl, by simp [SftpShared.pool, SftpHandle.new]⟩
  | cleanupStarted _ => exact absurd (Finset.mem_of_mem_erase present) absent
  | _ => exact absurd present absent

/-! The tasks of the registry and their workers. -/

/-- Where a task of the registry comes from: it was there before and has kept its
status, a worker has given it another one, or it is new. -/
theorem Move.task_source
    (move : Move thread choice shared phase next after events)
    {task : TransferTask} (found : next.tasks.lookup taskId = some task) :
    (∃ earlier, shared.tasks.lookup taskId = some earlier ∧
      earlier.sessionId = task.sessionId ∧
      (earlier.status = task.status ∨ ∃ change continuation,
        phase = .transition .registry change continuation ∧
        after = .transition
          (if change.status.isTerminal then .lookup else .emit) change
            continuation ∧
        change.taskId = taskId ∧ change.status = task.status)) ∨
    (taskId ∉ shared.issued ∧ after = .registerEntry task ∧
      task.taskId = taskId ∧ task.status = .pending) := by
  cases move with
  | inserted fresh =>
      rw [FiniteMap.lookup_insert] at found
      split at found
      · next same =>
          obtain rfl := Option.some.inj found
          exact .inr ⟨same ▸ fresh, rfl, same.symm, rfl⟩
      · exact .inl ⟨task, found, rfl, .inl rfl⟩
  | @taken change continuation tasks old applied =>
      rcases applied.origin found with ⟨rfl, rfl⟩ | ⟨-, before⟩
      · exact .inl ⟨old, applied.found, rfl,
          .inr ⟨change, continuation, rfl, rfl, rfl, rfl⟩⟩
      · exact .inl ⟨task, before, rfl, .inl rfl⟩
  | purged =>
      exact .inl ⟨task, (TaskRegistry.lookup_purge.mp found).1, rfl, .inl rfl⟩
  | cleared =>
      exact .inl
        ⟨task, (TaskRegistry.lookup_clearTerminal.mp found).1, rfl, .inl rfl⟩
  | _ => exact .inl ⟨task, found, rfl, .inl rfl⟩

/-- The registry agrees with the thread about the session of its task. -/
def Phase.Matches (shared : SftpShared) (phase : Phase) : Prop :=
  ∀ taskId sessionId task, phase.named? = some (taskId, sessionId) →
    shared.tasks.lookup taskId = some task → task.sessionId = sessionId

theorem Phase.task?_of_named
    (named : phase.named? = some (taskId, sessionId)) :
    phase.task? = some taskId := by
  unfold named? at named
  unfold task?
  cases entry : phase.entry? with
  | some task =>
      simp only [entry, Option.some.injEq, Prod.mk.injEq] at named
      exact congrArg some named.1
  | none =>
      simp only [entry, Option.map_eq_some_iff, Prod.mk.injEq] at named ⊢
      obtain ⟨job, employed, same, -⟩ := named
      exact ⟨job, employed, same⟩

theorem Phase.Matches.mono {other : Phase}
    (move : Move thread choice shared phase next after events)
    (known : ∀ taskId, other.task? = some taskId → taskId ∈ shared.issued)
    (agrees : other.Matches shared) : other.Matches next := by
  intro taskId sessionId task named found
  have issued := known taskId (task?_of_named named)
  rcases move.task_source found with ⟨earlier, before, same, -⟩ | ⟨fresh, -⟩
  · exact same ▸ agrees taskId sessionId earlier named before
  · exact absurd issued fresh

theorem Move.named_kept
    (move : Move thread choice shared phase next after events)
    (named : after.named? = some (taskId, sessionId)) :
    phase.named? = some (taskId, sessionId) ∨
      taskId = choice.uuid ∧ choice.uuid ∉ shared.issued ∧
        ∃ request, after = .registerEntry (newTask choice request) ∧
          request.sessionId = sessionId := by
  cases move.employs with
  | kept job before entry request =>
      left
      simp only [Phase.named?, entry, before, job] at named ⊢
      exact named
  | inserted fresh =>
      obtain ⟨rfl, rfl⟩ := Prod.mk.inj (Option.some.inj named)
      exact .inr ⟨rfl, fresh, _, rfl, rfl⟩
  | enqueued => exact .inl named

/-- Of a task that runs after a step, either the worker is the same as before, or
the step has brought it there. -/
theorem Move.runs
    (move : Move thread choice shared phase next after events)
    (coherent : phase.Coherent shared) (plain : phase.Plain)
    {task : TransferTask} (found : next.tasks.lookup taskId = some task)
    (running : task.status = .running) (runs : phase.Runs taskId) :
    after.Runs taskId := by
  have accepted : ∀ change : SftpTaskStatusEvent, change.taskId = taskId →
      change.status.isTerminal = true →
        next.tasks.applyStatus change ≠ none := by
    rintro change rfl terminal refused
    simp only [TaskRegistry.applyStatus, found, running] at refused
    cases status : change.status <;>
      simp [status, SftpTaskStatus.legal, SftpTaskStatus.isTerminal]
        at refused terminal
  cases move with
  | concluded => exact ⟨runs, conclude_permitted choice⟩
  | released present => exact runs
  | @dropped job held healthy conclusion absent =>
      obtain ⟨rfl, permitted⟩ := runs
      simp only [concluding, permitted, if_true]
      rfl
  | @checkedIn job held healthy conclusion =>
      obtain ⟨rfl, permitted⟩ := runs
      simp only [concluding, permitted, if_true]
      rfl
  | @rejected change continuation illegal =>
      cases continuation with
      | dropPermit job =>
          exact absurd illegal (accepted change (coherent.trans runs) plain)
      | ended job =>
          exact absurd illegal (accepted change (coherent.trans runs.1) plain)
      | _ => exact runs.elim
  | @taken change continuation tasks old applied =>
      have named : change.taskId = taskId ∧ change.status.isTerminal = true := by
        cases continuation with
        | dropPermit job => exact ⟨coherent.trans runs, plain⟩
        | ended job => exact ⟨coherent.trans runs.1, plain⟩
        | _ => exact runs.elim
      obtain ⟨rfl, terminal⟩ := named
      rcases applied.origin found with ⟨-, rfl⟩ | ⟨different, -⟩
      · have started : change.status = .running := running
        rw [started] at terminal
        cases terminal
      · exact absurd rfl different
  | @emitted change continuation =>
      cases continuation with
      | fail job error => exact ⟨runs, rfl⟩
      | transfer job held => exact runs
      | _ => exact runs.elim
  | refused error asking =>
      cases phase <;> first | exact runs.elim | simp [Phase.asking] at asking
  | @tokenLookup change continuation =>
      cases continuation <;> exact runs.elim
  | @tokenRemoved change continuation =>
      cases continuation <;> exact runs.elim
  | _ => exact runs.elim

theorem starts_running {change : SftpTaskStatusEvent}
    {continuation : Continuation}
    (coherent : (Phase.transition .registry change continuation).Coherent shared)
    (plain : (Phase.transition .registry change continuation).Plain)
    (running : change.status = .running) :
    (Phase.transition .emit change continuation).Runs change.taskId := by
  cases continuation with
  | fail job error => exact coherent.1.symm
  | transfer job held => exact coherent.1.symm
  | dropPermit job =>
      simp [Phase.Plain, running, SftpTaskStatus.isTerminal] at plain
  | ended job =>
      simp [Phase.Plain, running, SftpTaskStatus.isTerminal] at plain
  | cleanup sessionId remaining =>
      have cancelled : change.status = .cancelled := coherent
      rw [running] at cancelled
      cases cancelled

/-! The limits in every run. -/

/-- The threads that hold a permit. -/
def permitHolders (config : Config SftpShared Phase) : Set ℕ :=
  {thread | ∃ phase, config.threads thread = some phase ∧
    phase.hasPermit = true}

theorem permitHolders_update {config : Config SftpShared Phase}
    {final : SftpShared} :
    permitHolders ⟨final, Function.update config.threads thread (some after)⟩ =
      if after.hasPermit then insert thread (permitHolders config)
      else permitHolders config \ {thread} := by
  ext other
  unfold permitHolders
  rcases eq_or_ne other thread with rfl | different
  · cases has : after.hasPermit <;> simp [has]
  · cases has : after.hasPermit <;> simp [different]

theorem mem_permitHolders {config : Config SftpShared Phase}
    (running : config.threads thread = some phase) :
    thread ∈ permitHolders config ↔ phase.hasPermit = true := by
  simp [permitHolders, running]

/-- The permits that are held and those that are left. -/
def Permitted (config : Config SftpShared Phase) : Prop :=
  (permitHolders config).Finite ∧
    (permitHolders config).ncard + config.shared.permits = maxConcurrentTransfers

theorem Permitted.advance {config : Config SftpShared Phase}
    (permitted : Permitted config)
    (running : config.threads thread = some phase)
    (move : Move thread choice config.shared phase next after events) :
    Permitted ⟨next, Function.update config.threads thread (some after)⟩ := by
  obtain ⟨finite, total⟩ := permitted
  have member := mem_permitHolders running
  unfold Permitted
  rw [permitHolders_update]
  rcases move.permits with ⟨same, kept⟩ | ⟨without, has, fewer⟩ |
    ⟨had, without, more⟩
  · have unchanged : (if after.hasPermit then insert thread (permitHolders config)
        else permitHolders config \ {thread}) = permitHolders config := by
      rw [kept]
      split
      · next has => exact Set.insert_eq_of_mem (member.mpr has)
      · next lacks =>
          exact Set.sdiff_singleton_eq_self fun held => lacks (member.mp held)
    rw [unchanged]
    exact ⟨finite, same ▸ total⟩
  · have absent : thread ∉ permitHolders config := by
      rw [member, without]
      exact Bool.false_ne_true
    rw [if_pos has]
    refine ⟨finite.insert thread, ?_⟩
    rw [Set.ncard_insert_of_notMem absent finite]
    simp only
    omega
  · have present : thread ∈ permitHolders config := member.mpr had
    have counted := Set.ncard_sdiff_singleton_add_one present finite
    rw [if_neg (by simp [without])]
    refine ⟨finite.sdiff, ?_⟩
    simp only
    omega

theorem Permitted.spawn {config : Config SftpShared Phase} {start : Phase}
    (permitted : Permitted config) (free : config.threads thread = none)
    (admitted : service.admits start = true) :
    Permitted ⟨config.shared,
      Function.update config.threads thread (some start)⟩ := by
  have without : start.hasPermit = false := by
    cases start <;> first | rfl | simp [service] at admitted
  have absent : thread ∉ permitHolders config := by
    simp [permitHolders, free]
  unfold Permitted
  rw [permitHolders_update, if_neg (by simp [without]),
    Set.sdiff_singleton_eq_self absent]
  exact permitted

/-- What bounds the running tasks. -/
structure Limited (config : Config SftpShared Phase) : Prop where
  plain : ∀ thread phase, config.threads thread = some phase → phase.Plain
  served : ∀ sessionId ∈ config.shared.handles,
    Served config.shared sessionId (config.holdings (Phase.slot? sessionId))
  permits : Permitted config
  agreed : ∀ thread phase, config.threads thread = some phase →
    phase.Matches config.shared
  worked : ∀ taskId task, config.shared.tasks.lookup taskId = some task →
    task.status = .running → ∃ thread phase,
      config.threads thread = some phase ∧ phase.Runs taskId

theorem Limited.spawn {config : Config SftpShared Phase} {start : Phase}
    (limited : Limited config) (free : config.threads thread = none)
    (admitted : service.admits start = true) :
    Limited ⟨config.shared,
      Function.update config.threads thread (some start)⟩ := by
  constructor
  · refine everywhere_update ?_ fun other phase _ found =>
      limited.plain other phase found
    cases start <;> first | trivial | simp [service] at admitted
    case reaper sessionId phase =>
      cases phase <;> trivial
  · intro sessionId present
    have nothing : start.slot? sessionId = none := by
      cases start <;> first | rfl | simp [service] at admitted
    rw [Config.holdings_unchanged config.shared
      (by simp [Config.holdings, free, nothing])]
    exact limited.served sessionId present
  · exact limited.permits.spawn free admitted
  · refine everywhere_update ?_ fun other phase _ found =>
      limited.agreed other phase found
    intro taskId sessionId task named
    have idle : start.named? = none := by
      cases start <;> first | rfl | simp [service] at admitted
    rw [idle] at named
    cases named
  · intro taskId task found running
    obtain ⟨worker, phase, present, runs⟩ :=
      limited.worked taskId task found running
    refine ⟨worker, phase, (Function.update_of_ne ?_ _ _).trans present, runs⟩
    rintro rfl
    cases free.symm.trans present

theorem Limited.advance {config : Config SftpShared Phase}
    (limited : Limited config) (orderly : Orderly config)
    (closing : Closing log config)
    (running : config.threads thread = some phase)
    (move : Move thread choice config.shared phase next after events) :
    Limited ⟨next, Function.update config.threads thread (some after)⟩ := by
  have coherent := orderly.coherent thread phase running
  have plain := limited.plain thread phase running
  constructor
  · exact everywhere_update (move.plain plain) fun other phase _ found =>
      limited.plain other phase found
  · intro sessionId present
    rw [config.holdings_advance]
    by_cases before : sessionId ∈ config.shared.handles
    · refine move.served (limited.served sessionId before) plain
        (Config.holdings_of_running running _) before
        (orderly.staffed.handles before) ?_
      intro closes
      exact (closing.closes thread phase running sessionId closes).2 before
    · obtain ⟨fresh, rfl, opened⟩ := move.opens before present
      refine .of_pool opened rfl ?_
      refine TransferPool.Slotted.of_newCyclic _ fun other => ?_
      rcases eq_or_ne other thread with rfl | different
      · exact Function.update_self _ _ _
      · rw [Function.update_of_ne different]
        by_contra holds
        obtain ⟨seq, held⟩ := Option.ne_none_iff_exists'.mp holds
        obtain ⟨current, found, slot⟩ := Option.bind_eq_some_iff.mp held
        obtain ⟨job, employed, session⟩ := Phase.slot?_job slot
        exact fresh (orderly.staffed.concerned other current sessionId found
          (.inr (.inr ⟨job, employed, session⟩)))
  · exact limited.permits.advance running move
  · refine everywhere_update ?_ fun other phase _ found => ?_
    · intro taskId sessionId task named found
      rcases move.named_kept named with before | ⟨rfl, fresh, request, rfl, same⟩
      · refine (limited.agreed thread phase running).mono move ?_ taskId
          sessionId task before found
        exact fun taskId holds => orderly.staffed.issued thread taskId
          ((Config.holdings_of_running running _).trans holds)
      · rcases move.task_source found with ⟨earlier, before, -⟩ | ⟨-, entered, -⟩
        · exact absurd (orderly.staffed.tasks _ _ before) fresh
        · obtain rfl := Phase.registerEntry.inj entered
          exact same
    · refine (limited.agreed other phase found).mono move ?_
      exact fun taskId holds => orderly.staffed.issued other taskId
        ((Config.holdings_of_running found _).trans holds)
  · intro taskId task found isRunning
    rcases move.task_source found with
      ⟨earlier, before, -, kept | ⟨change, continuation, rfl, rfl, rfl, same⟩⟩ |
      ⟨-, -, -, pending⟩
    · obtain ⟨worker, current, present, runs⟩ :=
        limited.worked taskId earlier before (kept.trans isRunning)
      rcases eq_or_ne worker thread with rfl | different
      · obtain rfl := Option.some.inj (running.symm.trans present)
        exact ⟨worker, after, Function.update_self _ _ _,
          move.runs coherent plain found isRunning runs⟩
      · exact ⟨worker, current,
          (Function.update_of_ne different _ _).trans present, runs⟩
    · have started : change.status = .running := same.trans isRunning
      refine ⟨thread, _, Function.update_self _ _ _, ?_⟩
      rw [if_neg (by simp [started, SftpTaskStatus.isTerminal])]
      exact starts_running coherent plain started
    · rw [isRunning] at pending
      cases pending

theorem initial_limited : Limited initial where
  plain := by
    intro thread phase found
    cases found
  served := by
    intro sessionId present
    simp [initial, SftpShared.empty] at present
  permits := by
    have nobody : permitHolders initial = ∅ := by
      simp [permitHolders, initial]
    unfold Permitted
    rw [nobody]
    exact ⟨Set.finite_empty, by simp [initial, SftpShared.empty]⟩
  agreed := by
    intro thread phase found
    cases found
  worked := by
    intro taskId task found
    simp [initial, SftpShared.empty] at found

theorem limited {config : Config SftpShared Phase}
    {actions : List (ThreadAction Phase Choice)}
    (run : service.machine.Run initial actions log config) :
    Staffed config ∧ Limited config := by
  have kept : (Orderly config ∧ Closing log config) ∧ Limited config := by
    refine @Machine.Run.invariant _ _ _ _ initial
      (fun log config => (Orderly config ∧ Closing log config) ∧ Limited config)
      ⟨⟨initial_orderly, initial_closing⟩, initial_limited⟩ ?_ _ _ _ run
    rintro log config action next events ⟨⟨orderly, closing⟩, limited⟩ stepped
    refine ⟨⟨orderly.step stepped, closing.step orderly.staffed stepped⟩, ?_⟩
    rcases Program.machine_step_cases stepped with
      ⟨thread, start, -, free, admitted, rfl, -⟩ |
      ⟨thread, choice, current, shared, after, -, running, moved, rfl⟩
    · exact limited.spawn free admitted
    · exact limited.advance orderly closing running (step_move moved)
  exact ⟨kept.1.1.staffed, kept.2⟩

/-! The limits themselves. -/

def running (shared : SftpShared) : Finset String :=
  shared.tasks.keysWhere fun _ task => task.status == .running

def runningIn (shared : SftpShared) (sessionId : String) : Finset String :=
  shared.tasks.keysWhere fun _ task =>
    task.sessionId == sessionId && task.status == .running

/-- The task is on its way to Failed for want of a connection. -/
def Failing (config : Config SftpShared Phase) (taskId : String) : Prop :=
  ∃ thread phase, config.threads thread = some phase ∧ phase.Fails taskId

/-- The task is about to end, and its connection is back in the pool. -/
def GivenBack (config : Config SftpShared Phase) (taskId : String) : Prop :=
  ∃ thread phase, config.threads thread = some phase ∧ phase.GaveBack taskId

structure WithinLimits (config : Config SftpShared Phase) : Prop where
  total : ∀ tasks ⊆ running config.shared,
    (∀ taskId ∈ tasks, ¬Failing config taskId) →
      tasks.card ≤ maxConcurrentTransfers
  perSession : ∀ sessionId ∈ config.shared.handles,
    ∀ tasks ⊆ runningIn config.shared sessionId,
      (∀ taskId ∈ tasks, ¬Failing config taskId ∧ ¬GivenBack config taskId) →
        tasks.card ≤ maxTransferConnectionsPerSession
  permits : Permitted config
  provided : ∀ taskId task, config.shared.tasks.lookup taskId = some task →
    task.status = .running → ¬Failing config taskId →
      ∃ worker ∈ permitHolders config,
        config.holdings Phase.task? worker = some taskId ∧
        (task.sessionId ∈ config.shared.handles → ¬GivenBack config taskId →
          ∃ seq ∈ (config.shared.pool task.sessionId).state.busySeqs,
            ∀ other, config.holdings (Phase.slot? task.sessionId) other =
              some seq ↔ other = worker)

theorem mem_running : taskId ∈ running shared ↔
    ∃ task, shared.tasks.lookup taskId = some task ∧ task.status = .running := by
  simp [running]

theorem mem_runningIn : taskId ∈ runningIn shared sessionId ↔
    ∃ task, shared.tasks.lookup taskId = some task ∧
      task.sessionId = sessionId ∧ task.status = .running := by
  simp [runningIn]

theorem Phase.named?_of_job (employed : phase.job? = some job) :
    phase.named? = some (job.taskId, job.sessionId) := by
  cases phase with
  | registerEntry task => cases employed
  | _ => simp only [Phase.named?, Phase.entry?, employed, Option.map_some]

theorem Limited.provided {config : Config SftpShared Phase}
    (limited : Limited config) {task : TransferTask}
    (found : config.shared.tasks.lookup taskId = some task)
    (isRunning : task.status = .running) (fed : ¬Failing config taskId) :
    ∃ worker ∈ permitHolders config,
      config.holdings Phase.task? worker = some taskId ∧
      (task.sessionId ∈ config.shared.handles → ¬GivenBack config taskId →
        ∃ seq ∈ (config.shared.pool task.sessionId).state.busySeqs,
          ∀ other, config.holdings (Phase.slot? task.sessionId) other =
            some seq ↔ other = worker) := by
  obtain ⟨worker, phase, present, runs⟩ :=
    limited.worked taskId task found isRunning
  obtain ⟨job, employed, rfl⟩ := runs.employed
  have permit := runs.permit fun fails => fed ⟨worker, phase, present, fails⟩
  refine ⟨worker, ⟨phase, present, permit⟩, ?_, fun opened keeps => ?_⟩
  · exact (Config.holdings_of_running present _).trans (Phase.task?_of_job employed)
  · have session := limited.agreed worker phase present _ _ task
      (Phase.named?_of_job employed) found
    obtain ⟨seq, slot⟩ := runs.slot
      (fun fails => fed ⟨worker, phase, present, fails⟩)
      (fun gave => keeps ⟨worker, phase, present, gave⟩) employed
    rw [← session] at slot
    have holds : config.holdings (Phase.slot? task.sessionId) worker =
        some seq := (Config.holdings_of_running present _).trans slot
    obtain ⟨-, slotted⟩ := limited.served task.sessionId opened
    refine ⟨seq, slotted.held worker seq holds, fun other => ⟨?_, ?_⟩⟩
    · exact fun also => slotted.exclusive other worker seq also holds
    · rintro rfl
      exact holds

/-- In every run at most twenty tasks run, each with a permit, and at most five
of an open session, each with a connection slot of its own, if those are left out
that are failing for want of a connection and, of the session, those that have
given theirs back. -/
theorem transfers_limited {config : Config SftpShared Phase}
    {actions : List (ThreadAction Phase Choice)}
    (run : service.machine.Run initial actions log config) :
    WithinLimits config := by
  obtain ⟨staffed, limited⟩ := limited run
  refine ⟨?_, ?_, limited.permits, fun _ _ => limited.provided⟩
  · intro tasks among fed
    have served : ∀ taskId ∈ tasks, ∃ worker, worker ∈ permitHolders config ∧
        config.holdings Phase.task? worker = some taskId := by
      intro taskId member
      obtain ⟨task, found, isRunning⟩ := mem_running.mp (among member)
      obtain ⟨worker, holder, works, -⟩ :=
        limited.provided found isRunning (fed taskId member)
      exact ⟨worker, holder, works⟩
    choose! worker holder works using served
    obtain ⟨finite, total⟩ := limited.permits
    have fewer : tasks.card ≤ finite.toFinset.card := by
      refine Finset.card_le_card_of_injOn worker ?_ ?_
      · intro taskId member
        simpa using holder taskId member
      · intro first firstMember second secondMember same
        have firstWorks := works first firstMember
        rw [same, works second secondMember] at firstWorks
        exact (Option.some.inj firstWorks).symm
    rw [Set.ncard_eq_toFinset_card _ finite] at total
    omega
  · intro sessionId opened tasks among fed
    have served : ∀ taskId ∈ tasks, ∃ seq worker,
        seq ∈ (config.shared.pool sessionId).state.busySeqs ∧
        config.holdings (Phase.slot? sessionId) worker = some seq ∧
        config.holdings Phase.task? worker = some taskId := by
      intro taskId member
      obtain ⟨task, found, rfl, isRunning⟩ := mem_runningIn.mp (among member)
      obtain ⟨worker, -, works, slot⟩ :=
        limited.provided found isRunning (fed taskId member).1
      obtain ⟨seq, busy, holds⟩ := slot opened (fed taskId member).2
      exact ⟨seq, worker, busy, (holds worker).mpr rfl, works⟩
    choose! seq worker busy holds works using served
    obtain ⟨-, slotted⟩ := limited.served sessionId opened
    calc tasks.card
        ≤ (config.shared.pool sessionId).state.busySeqs.card := by
          refine Finset.card_le_card_of_injOn seq busy ?_
          intro first firstMember second secondMember same
          have firstHolds := holds first firstMember
          rw [same] at firstHolds
          have sameWorker := slotted.exclusive _ _ _ firstHolds
            (holds second secondMember)
          have firstWorks := works first firstMember
          rw [sameWorker, works second secondMember] at firstWorks
          exact (Option.some.inj firstWorks).symm
      _ ≤ (config.shared.pool sessionId).state.connections.size :=
          Finset.card_le_card PoolState.busySeqs_subset
      _ ≤ maxTransferConnectionsPerSession := slotted.bounded

/-- A download whose worker goes on through these choices. -/
def downloadTo (path : String) (thread : ℕ) (choices : List Choice) :
    List (ThreadAction Phase Choice) :=
  .spawn thread (.called (.enqueueDownload "session" "/file" path)) ::
  List.replicate 4 (.advance thread {}) ++
  .advance thread { uuid := path } ::
    choices.map (ThreadAction.advance thread)

def unreachable : AppError :=
  ⟨.sshConnectionError, "unreachable"⟩

/-- Twenty-one downloads of a session whose host cannot be reached. -/
def failingDownloads : List (ThreadAction Phase Choice) :=
  [.spawn 0 (.called (.registerSession "session")), .advance 0 {}] ++
  (["/a", "/b", "/c", "/d", "/e", "/f", "/g", "/h", "/i", "/j", "/k", "/l",
    "/m", "/n", "/o", "/p", "/q", "/r", "/s", "/t", "/u"].zipIdx 1).flatMap
    fun (path, thread) => downloadTo path thread
      [{}, {}, {}, {}, { pool := { connectError := some unreachable } }, {}]

/-- Five downloads run, the first of them gives its connection back, and a sixth
one runs on it. -/
def exchangedDownloads : List (ThreadAction Phase Choice) :=
  [.spawn 0 (.called (.registerSession "session")), .advance 0 {}] ++
  (["/a", "/b", "/c", "/d", "/e"].zipIdx 1).flatMap
    (fun (path, thread) => downloadTo path thread (List.replicate 9 {})) ++
  List.replicate 3 (.advance 1 {}) ++
  downloadTo "/f" 6 (List.replicate 7 {})

theorem run_decided {actions : List (ThreadAction Phase Choice)}
    (holds : Config SftpShared Phase → Prop) [DecidablePred holds]
    (decided : (service.machine.execute initial actions).map
      (fun outcome => decide (holds outcome.1)) = some true) :
    ∃ config log, service.machine.Run initial actions log config ∧
      holds config := by
  obtain ⟨⟨config, log⟩, executed, checked⟩ :=
    Option.map_eq_some_iff.mp decided
  exact ⟨config, log, Machine.run_of_execute executed,
    of_decide_eq_true checked⟩

/-- Tasks come to Running without a connection and without a permit, and they
keep it when their connection is another's. -/
theorem running_exceeds_limits :
    (∃ config log,
      service.machine.Run initial failingDownloads log config ∧
      "session" ∈ config.shared.handles ∧
      (runningIn config.shared "session").card = 21 ∧
      (config.shared.pool "session").state.busySeqs = ∅ ∧
      config.shared.permits = 20) ∧
    ∃ config log,
      service.machine.Run initial exchangedDownloads log config ∧
      "session" ∈ config.shared.handles ∧
      (runningIn config.shared "session").card = 6 ∧
      (config.shared.pool "session").state.busySeqs.card = 5 ∧
      config.shared.permits = 14 := by
  constructor
  · apply run_decided fun config =>
      "session" ∈ config.shared.handles ∧
      (runningIn config.shared "session").card = 21 ∧
      (config.shared.pool "session").state.busySeqs = ∅ ∧
      config.shared.permits = 20
    decide +kernel
  · apply run_decided fun config =>
      "session" ∈ config.shared.handles ∧
      (runningIn config.shared "session").card = 6 ∧
      (config.shared.pool "session").state.busySeqs.card = 5 ∧
      config.shared.permits = 14
    decide +kernel

theorem transfers_limited_exchanged :
    ∃ config log,
      service.machine.Run initial exchangedDownloads log config ∧
      (runningIn config.shared "session").card = 6 ∧ WithinLimits config := by
  obtain ⟨config, log, run, six⟩ : ∃ config log,
      service.machine.Run initial exchangedDownloads log config ∧
      (runningIn config.shared "session").card = 6 := by
    apply run_decided fun config =>
      (runningIn config.shared "session").card = 6
    decide +kernel
  exact ⟨config, log, run, six, transfers_limited run⟩

end Sftp

end TitanSSH
