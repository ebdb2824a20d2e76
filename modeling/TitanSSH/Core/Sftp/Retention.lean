import TitanSSH.Core.Sftp.Jobs
import TitanSSH.Library.Greatest

namespace TitanSSH

open Greatest Interleaving

namespace TaskRegistry

/-! What an eviction leaves of the finished tasks of a session. -/

variable {tasks next : TaskRegistry} {sessionId taskId : String}
variable {task : TransferTask} {createdAt : ℤ}
variable {change : SftpTaskStatusEvent}

/-- The tasks of a session in a terminal status. -/
def finished (tasks : TaskRegistry) (sessionId : String) : Finset String :=
  tasks.keysWhere fun _ task =>
    task.sessionId == sessionId && task.status.isTerminal

theorem mem_terminalTasks :
    toLex (createdAt, taskId) ∈ tasks.terminalTasks sessionId ↔
      ∃ task, tasks.lookup taskId = some task ∧ task.sessionId = sessionId ∧
        task.status.isTerminal = true ∧ task.createdAt = createdAt := by
  unfold terminalTasks
  rw [FiniteMap.mem_collect]
  constructor
  · rintro ⟨other, task, found, holds⟩
    split at holds
    · next isFinished =>
        obtain ⟨rfl, rfl⟩ := Prod.mk.inj (toLex_inj.mp (Option.some.inj holds))
        simp only [Bool.and_eq_true, beq_iff_eq] at isFinished
        exact ⟨task, found, isFinished.1, isFinished.2, rfl⟩
    · cases holds
  · rintro ⟨task, found, rfl, terminal, rfl⟩
    exact ⟨taskId, task, found, by simp [terminal]⟩

theorem card_terminalTasks (tasks : TaskRegistry) (sessionId : String) :
    (tasks.terminalTasks sessionId).card = (tasks.finished sessionId).card := by
  have image : (tasks.terminalTasks sessionId).image (fun entry => (ofLex entry).2) =
      tasks.finished sessionId := by
    ext taskId
    rw [Finset.mem_image, finished, FiniteMap.mem_keysWhere]
    constructor
    · rintro ⟨⟨createdAt, other⟩, member, rfl⟩
      obtain ⟨task, found, own, terminal, -⟩ := mem_terminalTasks.mp member
      exact ⟨task, found, by simp [own, terminal]⟩
    · rintro ⟨task, found, holds⟩
      simp only [Bool.and_eq_true, beq_iff_eq] at holds
      exact ⟨toLex (task.createdAt, taskId),
        mem_terminalTasks.mpr ⟨task, found, holds.1, holds.2, rfl⟩, rfl⟩
  rw [← image, Finset.card_image_of_injOn]
  rintro ⟨early, first⟩ firstMember ⟨late, second⟩ secondMember same
  obtain rfl : first = second := same
  obtain ⟨task, found, -, -, rfl⟩ := mem_terminalTasks.mp firstMember
  obtain ⟨other, again, -, -, rfl⟩ := mem_terminalTasks.mp secondMember
  rw [Option.some.inj (found.symm.trans again)]

theorem mem_evicted :
    taskId ∈ tasks.evicted sessionId ↔
      ∃ createdAt, toLex (createdAt, taskId) ∈ tasks.terminalTasks sessionId ∧
        toLex (createdAt, taskId) ∉
          greatest maxTerminalTasksPerSession (tasks.terminalTasks sessionId) := by
  unfold evicted
  split
  · next few =>
      rw [greatest_eq_self few]
      constructor
      · nofun
      · rintro ⟨createdAt, member, absent⟩
        exact absurd member absent
  · constructor
    · intro member
      obtain ⟨⟨createdAt, other⟩, dropped, rfl⟩ := List.mem_map.mp member
      exact ⟨createdAt, mem_drop_sort.mp dropped⟩
    · rintro ⟨createdAt, old⟩
      exact List.mem_map.mpr ⟨_, mem_drop_sort.mpr old, rfl⟩

theorem terminalTasks_evict (tasks : TaskRegistry) (sessionId : String) :
    (tasks.evictOldTerminalTasks sessionId).terminalTasks sessionId =
      greatest maxTerminalTasksPerSession (tasks.terminalTasks sessionId) := by
  ext ⟨createdAt, taskId⟩
  constructor
  · intro member
    obtain ⟨task, kept, own, terminal, rfl⟩ := mem_terminalTasks.mp member
    obtain ⟨found, survives⟩ := FiniteMap.lookup_retain_eq_some.mp kept
    have old := mem_terminalTasks.mpr ⟨task, found, own, terminal, rfl⟩
    by_contra absent
    exact of_decide_eq_true survives
      (mem_evicted.mpr ⟨task.createdAt, old, absent⟩)
  · intro member
    obtain ⟨task, found, own, terminal, rfl⟩ :=
      mem_terminalTasks.mp (greatest_subset member)
    refine mem_terminalTasks.mpr ⟨task, FiniteMap.lookup_retain_eq_some.mpr
      ⟨found, decide_eq_true ?_⟩, own, terminal, rfl⟩
    intro isEvicted
    obtain ⟨createdAt, old, absent⟩ := mem_evicted.mp isEvicted
    obtain ⟨other, again, -, -, rfl⟩ := mem_terminalTasks.mp old
    rw [Option.some.inj (again.symm.trans found)] at absent
    exact absent member

theorem lookup_kept_of_other (found : tasks.lookup taskId = some task)
    (elsewhere : task.sessionId ≠ sessionId) :
    (tasks.evictOldTerminalTasks sessionId).lookup taskId = some task := by
  refine FiniteMap.lookup_retain_eq_some.mpr ⟨found, decide_eq_true ?_⟩
  intro isEvicted
  obtain ⟨createdAt, old, -⟩ := mem_evicted.mp isEvicted
  obtain ⟨other, again, own, -, -⟩ := mem_terminalTasks.mp old
  exact elsewhere (Option.some.inj (found.symm.trans again) ▸ own)

theorem applyStatus_eq (accepted : tasks.applyStatus change = some next) :
    ∃ task, tasks.lookup change.taskId = some task ∧
      task.status.legal change.status = true ∧
      next = if change.status.isTerminal then
          evictOldTerminalTasks (tasks.insert change.taskId
            { task with status := change.status, error := change.error })
            change.sessionId
        else tasks.insert change.taskId
          { task with status := change.status, error := change.error } := by
  unfold applyStatus at accepted
  cases found : tasks.lookup change.taskId with
  | none => simp [found] at accepted
  | some task =>
      cases isLegal : task.status.legal change.status with
      | false => simp [found, isLegal] at accepted
      | true =>
          simp only [found, isLegal, if_true, Option.some.injEq] at accepted
          exact ⟨task, rfl, isLegal, accepted.symm⟩

theorem terminalTasks_insert {before : TransferTask}
    (found : tasks.lookup taskId = some before)
    (live : before.status.isTerminal = false)
    (terminal : task.status.isTerminal = true)
    (own : task.sessionId = sessionId) :
    terminalTasks (tasks.insert taskId task) sessionId =
      insert (toLex (task.createdAt, taskId))
        (tasks.terminalTasks sessionId) := by
  ext ⟨createdAt, other⟩
  change toLex (createdAt, other) ∈ _ ↔ toLex (createdAt, other) ∈ _
  rw [mem_terminalTasks, Finset.mem_insert]
  rcases eq_or_ne other taskId with rfl | different
  · have absent : toLex (createdAt, other) ∉ tasks.terminalTasks sessionId := by
      intro member
      obtain ⟨old, again, -, finished, -⟩ := mem_terminalTasks.mp member
      rw [← Option.some.inj (found.symm.trans again), live] at finished
      cases finished
    simp only [FiniteMap.lookup_insert_self, Option.some.injEq]
    constructor
    · rintro ⟨_, rfl, -, -, rfl⟩
      exact .inl rfl
    · rintro (same | old)
      · obtain ⟨rfl, -⟩ := Prod.mk.inj (toLex_inj.mp same)
        exact ⟨task, rfl, own, terminal, rfl⟩
      · exact absurd old absent
  · rw [FiniteMap.lookup_insert_of_ne _ _ different]
    constructor
    · intro holds
      exact .inr (mem_terminalTasks.mpr holds)
    · rintro (same | old)
      · exact absurd (Prod.mk.inj (toLex_inj.mp same)).2 different
      · exact mem_terminalTasks.mp old

theorem mem_finished :
    taskId ∈ tasks.finished sessionId ↔
      ∃ task, tasks.lookup taskId = some task ∧ task.sessionId = sessionId ∧
        task.status.isTerminal = true := by
  simp [finished]

theorem finished_retain_subset (tasks : TaskRegistry)
    (keep : String → TransferTask → Bool) (sessionId : String) :
    finished (tasks.retain keep) sessionId ⊆ tasks.finished sessionId := by
  intro taskId member
  obtain ⟨task, kept, holds⟩ := mem_finished.mp member
  exact mem_finished.mpr
    ⟨task, (FiniteMap.lookup_retain_eq_some.mp kept).1, holds⟩

theorem finished_insert_subset (live : task.status.isTerminal = false) :
    finished (tasks.insert taskId task) sessionId ⊆
      tasks.finished sessionId := by
  intro other member
  obtain ⟨found, inserted, own, terminal⟩ := mem_finished.mp member
  rw [FiniteMap.lookup_insert] at inserted
  split at inserted
  · obtain rfl := Option.some.inj inserted
    rw [live] at terminal
    cases terminal
  · exact mem_finished.mpr ⟨found, inserted, own, terminal⟩

theorem Applied.finished_subset (applied : Applied tasks next change task)
    (spared : task.sessionId = sessionId →
      change.status.isTerminal = false) :
    next.finished sessionId ⊆ tasks.finished sessionId := by
  intro taskId member
  obtain ⟨other, found, own, terminal⟩ := mem_finished.mp member
  cases applied.origin found with
  | inl changed =>
      obtain ⟨rfl, rfl⟩ := changed
      rw [spared own] at terminal
      cases terminal
  | inr before => exact mem_finished.mpr ⟨other, before.2, own, terminal⟩

theorem terminalTasks_applyStatus
    (accepted : tasks.applyStatus change = some next)
    (found : tasks.lookup change.taskId = some task)
    (own : task.sessionId = change.sessionId)
    (terminal : change.status.isTerminal = true) :
    next.terminalTasks change.sessionId =
      greatest maxTerminalTasksPerSession
        (insert (toLex (task.createdAt, change.taskId))
          (tasks.terminalTasks change.sessionId)) := by
  obtain ⟨before, present, isLegal, rfl⟩ := applyStatus_eq accepted
  obtain rfl := Option.some.inj (found.symm.trans present)
  rw [if_pos terminal, terminalTasks_evict]
  exact congrArg _ (terminalTasks_insert found
    (SftpTaskStatus.legal_live isLegal) terminal own)

/-- The bound on the finished tasks of every session. -/
def Bounded (tasks : TaskRegistry) : Prop :=
  ∀ sessionId, (tasks.finished sessionId).card ≤ maxTerminalTasksPerSession

theorem Bounded.retain (bounded : tasks.Bounded)
    (keep : String → TransferTask → Bool) :
    Bounded (FiniteMap.retain tasks keep) := fun sessionId =>
  (Finset.card_le_card (finished_retain_subset tasks keep sessionId)).trans
    (bounded sessionId)

theorem Bounded.insert (bounded : tasks.Bounded)
    (live : task.status.isTerminal = false) :
    Bounded (FiniteMap.insert tasks taskId task) := fun sessionId =>
  (Finset.card_le_card (finished_insert_subset live)).trans
    (bounded sessionId)

theorem Bounded.applyStatus (bounded : tasks.Bounded)
    (accepted : tasks.applyStatus change = some next)
    (own : ∀ task, tasks.lookup change.taskId = some task →
      task.sessionId = change.sessionId) : next.Bounded := by
  intro sessionId
  obtain ⟨task, applied⟩ := applied accepted
  by_cases ended : change.status.isTerminal = true ∧ sessionId = change.sessionId
  · obtain ⟨terminal, rfl⟩ := ended
    rw [← card_terminalTasks, terminalTasks_applyStatus accepted applied.found
      (own task applied.found) terminal, card_greatest]
    exact Nat.min_le_left _ _
  · refine (Finset.card_le_card (applied.finished_subset ?_)).trans
      (bounded sessionId)
    intro same
    rw [own task applied.found] at same
    exact Bool.eq_false_iff.mpr fun terminal => ended ⟨terminal, same.symm⟩

end TaskRegistry

namespace Sftp

/-! Whoever asks for a change of a task names the session of that task. -/

/-- The task is out, and of the session. -/
def Owned (shared : SftpShared) (taskId sessionId : String) : Prop :=
  taskId ∈ shared.issued ∧
    ∀ task, shared.tasks.lookup taskId = some task →
      task.sessionId = sessionId

def TransferJob.Names (taskId sessionId : String) (job : TransferJob) : Prop :=
  job.taskId = taskId ∧ job.sessionId = sessionId

def Continuation.Names (taskId sessionId : String) : Continuation → Prop
  | .cleanup session remaining => taskId ∈ remaining ∧ session = sessionId
  | .fail job _ | .transfer job _ | .dropPermit job | .ended job =>
      job.Names taskId sessionId

/-- The tasks a thread knows, each with the session it takes it to be of. -/
def Phase.Names (taskId sessionId : String) : Phase → Prop
  | .registerEntry task =>
      task.taskId = taskId ∧ task.sessionId = sessionId
  | .transition _ change next =>
      (change.taskId = taskId ∧ change.sessionId = sessionId) ∨
        next.Names taskId sessionId
  | .cancelActive session remaining =>
      taskId ∈ remaining ∧ session = sessionId
  | .work job | .checkout job _ | .permit job _ | .permitted job _ =>
      job.Names taskId sessionId
  | .transfer job _ | .release job _ _ _ | .checkin job _ _ _ =>
      job.Names taskId sessionId
  | .dropPermit job | .ended job => job.Names taskId sessionId
  | _ => False

variable {thread : ℕ} {choice : Choice} {shared next : SftpShared}
variable {phase after : Phase} {events log : List Event}
variable {job : TransferJob} {taskId sessionId : String}

theorem Phase.names_of_job (employed : phase.job? = some job) :
    phase.Names job.taskId job.sessionId := by
  cases phase with
  | transition turn change next =>
      cases next with
      | cleanup session remaining => cases employed
      | _ =>
          obtain rfl := Option.some.inj employed
          exact .inr ⟨rfl, rfl⟩
  | _ =>
      first
      | obtain rfl := Option.some.inj employed
        exact ⟨rfl, rfl⟩
      | cases employed

theorem resume_names {continuation : Continuation}
    (named : (resume continuation).Names taskId sessionId) :
    continuation.Names taskId sessionId := by
  cases continuation with
  | fail job error =>
      cases named with
      | inl own => exact own
      | inr own => exact own
  | _ => exact named

theorem concluding_names {conclusion : Conclusion}
    (named : (concluding job conclusion).Names taskId sessionId) :
    job.Names taskId sessionId := by
  obtain ⟨status, error, permitted⟩ := conclusion
  cases permitted <;> cases named with
  | inl own => exact own
  | inr own => exact own

theorem failJob_names {error : AppError}
    (named : (failJob job error).Names taskId sessionId) :
    job.Names taskId sessionId := by
  cases named with
  | inl own => exact own
  | inr own => exact own

theorem afterPoolStep_names {reached : TransferPool.Phase}
    (named : (afterPoolStep job reached).Names taskId sessionId) :
    job.Names taskId sessionId := by
  cases reached with
  | failed error =>
      cases error with
      | connect error => exact failJob_names named
      | cancelled =>
          cases named with
          | inl own => exact own
          | inr own => exact own
      | closed => exact named
  | _ => exact named

/-- How a thread comes to know a task. -/
theorem Move.names
    (move : Move thread choice shared phase next after events)
    (named : after.Names taskId sessionId) :
    phase.Names taskId sessionId ∨ Owned next taskId sessionId ∨
      ∃ entry, (shared.arcs sessionId).cancelTokens.lookup taskId =
        some entry := by
  cases move with
  | refused error asking => exact named.elim
  | @unoccupied request free =>
      unfold afterCheck at named
      split at named <;> exact named.elim
  | @inserted request fresh =>
      obtain ⟨rfl, rfl⟩ := named
      refine .inr (.inl ⟨Finset.mem_insert_self _ _, ?_⟩)
      intro task found
      rw [show (newTask choice request).taskId = choice.uuid from rfl,
        FiniteMap.lookup_insert_self] at found
      exact Option.some.inj found ▸ rfl
  | enqueued => exact .inl named
  | orphaned absent => exact .inl (failJob_names named)
  | panicked panic => exact .inl (failJob_names named)
  | pooled move => exact .inl (afterPoolStep_names named)
  | starting kept =>
      cases named with
      | inl own => exact .inl own
      | inr own => exact .inl own
  | dropped absent => exact .inl (concluding_names named)
  | checkedIn => exact .inl (concluding_names named)
  | rejected illegal => exact .inl (.inr (resume_names named))
  | emitted => exact .inl (.inr (resume_names named))
  | collected =>
      obtain ⟨member, rfl⟩ := named
      obtain ⟨entry, found, -⟩ := FiniteMap.mem_keysWhere.mp member
      exact .inr (.inr ⟨entry, found⟩)
  | activeCancelled member =>
      left
      cases named with
      | inl own =>
          obtain ⟨rfl, rfl⟩ := own
          exact ⟨member, rfl⟩
      | inr others => exact ⟨Finset.mem_of_mem_erase others.1, others.2⟩
  | _ => first | exact .inl named | exact named.elim

theorem Move.owned (move : Move thread choice shared phase next after events)
    (owned : Owned shared taskId sessionId) : Owned next taskId sessionId := by
  refine ⟨move.issued owned.1, fun task found => ?_⟩
  cases move with
  | inserted fresh =>
      have different : taskId ≠ choice.uuid := by
        rintro rfl
        exact fresh owned.1
      rw [FiniteMap.lookup_insert_of_ne _ _ different] at found
      exact owned.2 task found
  | @taken change continuation tasks earlier applied =>
      cases applied.origin found with
      | inl own =>
          obtain ⟨rfl, rfl⟩ := own
          exact owned.2 earlier applied.found
      | inr before => exact owned.2 task before.2
  | purged => exact owned.2 task (TaskRegistry.lookup_purge.mp found).1
  | cleared =>
      exact owned.2 task (TaskRegistry.lookup_clearTerminal.mp found).1
  | _ => exact owned.2 task found

/-- What holds of the registry and of those who change it in every run. -/
structure Retained (config : Config SftpShared Phase) : Prop where
  staffed : Staffed config
  named : ∀ thread phase taskId sessionId,
    config.threads thread = some phase → phase.Names taskId sessionId →
      Owned config.shared taskId sessionId
  bounded : config.shared.tasks.Bounded

theorem Retained.change {config : Config SftpShared Phase}
    (retained : Retained config) {turn : TransitionTurn}
    {change : SftpTaskStatusEvent} {continuation : Continuation}
    (running : config.threads thread =
      some (.transition turn change continuation)) {task : TransferTask}
    (found : config.shared.tasks.lookup change.taskId = some task) :
    task.sessionId = change.sessionId :=
  (retained.named thread _ _ _ running (.inl ⟨rfl, rfl⟩)).2 task found

theorem Retained.token_owned {config : Config SftpShared Phase}
    (retained : Retained config) {entry : CancelEntry}
    (found : (config.shared.arcs sessionId).cancelTokens.lookup taskId =
      some entry) : Owned config.shared taskId sessionId := by
  obtain ⟨worker, holds⟩ := retained.staffed.tokens sessionId taskId entry found
  obtain ⟨current, running, employed⟩ := Option.bind_eq_some_iff.mp holds
  exact retained.named worker current taskId sessionId running
    (Phase.names_of_job employed)

theorem registry_step {change : SftpTaskStatusEvent}
    {continuation : Continuation}
    (moved : step thread choice shared
      (.transition .registry change continuation) =
        some (next, after, events)) :
    (shared.tasks.applyStatus change = none ∧ next = shared ∧ events = []) ∨
    ∃ tasks, shared.tasks.applyStatus change = some tasks ∧
      next = { shared with tasks := tasks } ∧ events = [.taken change] := by
  simp only [step, stepTransition, Option.some.injEq] at moved
  cases accepted : shared.tasks.applyStatus change with
  | none =>
      rw [accepted] at moved
      obtain ⟨rfl, -, rfl⟩ := moved
      exact .inl ⟨rfl, rfl, rfl⟩
  | some tasks =>
      rw [accepted] at moved
      obtain ⟨rfl, -, rfl⟩ := moved
      exact .inr ⟨tasks, rfl, rfl, rfl⟩

theorem Retained.bounded_step {config : Config SftpShared Phase}
    (retained : Retained config)
    (running : config.threads thread = some phase)
    (moved : step thread choice config.shared phase =
      some (next, after, events)) : next.tasks.Bounded := by
  have move := step_move moved
  have bounded := retained.bounded
  cases move with
  | inserted fresh => exact bounded.insert rfl
  | taken applied =>
      cases registry_step moved with
      | inl refused =>
          rw [refused.2.1]
          exact bounded
      | inr accepted =>
          obtain ⟨tasks, applied, same, -⟩ := accepted
          rw [same]
          exact bounded.applyStatus applied fun task found =>
            retained.change running found
  | purged => exact bounded.retain _
  | cleared => exact bounded.retain _
  | _ => exact bounded

theorem Retained.step {config final : Config SftpShared Phase}
    {action : ThreadAction Phase Choice} (retained : Retained config)
    (stepped : service.machine.step config action = some (final, events)) :
    Retained final := by
  have staffed := retained.staffed.step stepped
  rcases Program.machine_step_cases stepped with
    ⟨thread, start, -, free, admitted, rfl, rfl⟩ |
    ⟨thread, choice, current, shared, after, -, running, moved, rfl⟩
  · refine ⟨staffed, ?_, retained.bounded⟩
    intro other phase taskId sessionId found named
    rcases of_update_eq_some found with ⟨-, same⟩ | ⟨-, before⟩
    · obtain rfl := Option.some.inj same
      cases start <;> first | exact named.elim | simp [service] at admitted
    · exact retained.named other phase taskId sessionId before named
  · have move := step_move moved
    refine ⟨staffed, ?_, retained.bounded_step running moved⟩
    intro other phase taskId sessionId found named
    rcases of_update_eq_some found with ⟨-, same⟩ | ⟨-, before⟩
    · obtain rfl := Option.some.inj same
      rcases move.names named with known | owned | ⟨entry, token⟩
      · exact move.owned
          (retained.named _ current taskId sessionId running known)
      · exact owned
      · exact move.owned (retained.token_owned token)
    · exact move.owned
        (retained.named other phase taskId sessionId before named)

theorem initial_retained : Retained initial where
  staffed := initial_staffed
  named := by
    intro thread phase taskId sessionId found
    cases found
  bounded := by
    intro sessionId
    exact Nat.zero_le _

theorem retained {config : Config SftpShared Phase}
    {actions : List (ThreadAction Phase Choice)}
    (run : service.machine.Run initial actions log config) : Retained config :=
  run.always Retained initial_retained Retained.step

/-- What an accepted change leaves in the registry. -/
structure Accepted (before after : TaskRegistry) (change : SftpTaskStatusEvent)
    (task : TransferTask) : Prop where
  found : before.lookup change.taskId = some task
  own : task.sessionId = change.sessionId
  isLegal : task.status.legal change.status = true
  newest : change.status.isTerminal = true →
    after.terminalTasks change.sessionId =
      greatest maxTerminalTasksPerSession
        (insert (toLex (task.createdAt, change.taskId))
          (before.terminalTasks change.sessionId))
  origin : ∀ taskId other, after.lookup taskId = some other →
    (taskId = change.taskId ∧
      other = { task with status := change.status, error := change.error }) ∨
    (taskId ≠ change.taskId ∧ before.lookup taskId = some other)
  kept : ∀ taskId other, taskId ≠ change.taskId →
    before.lookup taskId = some other →
    other.status.isTerminal = false ∨ other.sessionId ≠ change.sessionId →
      after.lookup taskId = some other

theorem accepted_change {before after : TaskRegistry}
    {change : SftpTaskStatusEvent}
    (accepted : before.applyStatus change = some after)
    (own : ∀ task, before.lookup change.taskId = some task →
      task.sessionId = change.sessionId) :
    ∃ task, Accepted before after change task := by
  obtain ⟨task, applied⟩ := TaskRegistry.applied accepted
  refine ⟨task, applied.found, own task applied.found, applied.isLegal, ?_,
    fun _ _ => applied.origin, ?_⟩
  · intro terminal
    exact TaskRegistry.terminalTasks_applyStatus accepted applied.found
      (own task applied.found) terminal
  · intro taskId other different found spared
    cases spared with
    | inl live => exact applied.live different found live
    | inr elsewhere =>
        obtain ⟨again, present, -, changed⟩ := TaskRegistry.applyStatus_eq accepted
        have inserted := (FiniteMap.lookup_insert_of_ne before
          { again with status := change.status, error := change.error }
          different).trans found
        rw [changed]
        split
        · exact TaskRegistry.lookup_kept_of_other inserted elsewhere
        · exact inserted

/-- Every session keeps at most a hundred finished tasks, and a change that
ends a task keeps the newest of them. -/
theorem retention {config : Config SftpShared Phase}
    {actions : List (ThreadAction Phase Choice)}
    (run : service.machine.Run initial actions log config) :
    (∀ sessionId, (config.shared.tasks.finished sessionId).card ≤ 100) ∧
    ∀ thread choice change continuation next events,
      config.threads thread =
        some (.transition .registry change continuation) →
      service.machine.step config (.advance thread choice) =
        some (next, events) →
      (events = [] ∧ next.shared = config.shared) ∨
      (events = [.taken change] ∧
        next.shared = { config.shared with tasks := next.shared.tasks } ∧
        ∃ task, Accepted config.shared.tasks next.shared.tasks change task) := by
  have holds := retained run
  refine ⟨holds.bounded, ?_⟩
  intro thread choice change continuation next events running stepped
  rcases Program.machine_step_cases stepped with
    ⟨other, start, acted, -⟩ |
    ⟨other, chosen, current, shared, after, acted, found, moved, rfl⟩
  · cases acted
  · cases acted
    obtain rfl := Option.some.inj (found.symm.trans running)
    cases @registry_step thread choice _ _ _ _ _ _ moved with
    | inl refused => exact .inl ⟨refused.2.2, refused.2.1⟩
    | inr accepted =>
        obtain ⟨tasks, accepted, rfl, rfl⟩ := accepted
        refine .inr ⟨rfl, rfl, accepted_change accepted ?_⟩
        exact fun task present => holds.change running present

def uploadOf (thread : ℕ) (sessionId taskId : String) :
    List (ThreadAction Phase Choice) :=
  [.spawn thread (.called (.enqueueUpload sessionId "/home/a" taskId)),
    .advance thread {}, .advance thread {},
    .advance thread { uuid := taskId, now := thread }, .advance thread {}]

def cleanupOf (thread : ℕ) (sessionId : String) :
    List (ThreadAction Phase Choice) :=
  [.spawn thread (.called (.cleanupSession sessionId)), .advance thread {},
    .advance thread {}, .advance thread {}]

/-- Two sessions close while their uploads wait.  The cleanup of one has
cancelled its upload, that of the other one of two, and is about to cancel the
second. -/
def abandonedUploads : List (ThreadAction Phase Choice) :=
  [.spawn 0 (.called (.registerSession "left")), .advance 0 {},
    .spawn 1 (.called (.registerSession "right")), .advance 1 {}] ++
  uploadOf 2 "left" "first" ++ uploadOf 3 "right" "third" ++
  uploadOf 4 "left" "second" ++
  cleanupOf 5 "right" ++ .advance 5 { taskId := "third" } ::
    List.replicate 3 (.advance 5 {}) ++
  cleanupOf 6 "left" ++ .advance 6 { taskId := "first" } ::
    List.replicate 3 (.advance 6 {}) ++
  [.advance 6 { taskId := "second" }]

theorem retention_of_abandoned :
    ∃ config log next task third,
      service.machine.Run initial abandonedUploads log config ∧
      (∀ sessionId,
        (config.shared.tasks.finished sessionId).card ≤ 100) ∧
      config.shared.tasks.finished "left" = {"first"} ∧
      config.shared.tasks.lookup "third" = some third ∧
      third.status = .cancelled ∧
      service.machine.step config (.advance 6 {}) =
        some (next, [.taken ⟨"second", "left", .cancelled, none⟩]) ∧
      Accepted config.shared.tasks next.shared.tasks
        ⟨"second", "left", .cancelled, none⟩ task ∧
      next.shared.tasks.lookup "third" = some third := by
  have executed : ∃ config log next continuation third,
      service.machine.Run initial abandonedUploads log config ∧
      config.shared.tasks.finished "left" = {"first"} ∧
      config.shared.tasks.lookup "third" = some third ∧
      third.status = .cancelled ∧ third.sessionId = "right" ∧
      config.threads 6 = some (.transition .registry
        ⟨"second", "left", .cancelled, none⟩ continuation) ∧
      service.machine.step config (.advance 6 {}) =
        some (next, [.taken ⟨"second", "left", .cancelled, none⟩]) :=
    ⟨_, _, _, _, _, Machine.run_of_execute rfl, rfl, rfl, rfl, rfl, rfl, rfl⟩
  obtain ⟨config, log, next, continuation, third, run, finished, found,
    cancelled, right, running, stepped⟩ := executed
  obtain ⟨bounded, changes⟩ := retention run
  cases changes 6 {} _ continuation next _ running stepped with
  | inl refused => cases refused.1
  | inr taken =>
      obtain ⟨-, -, task, accepted⟩ := taken
      have elsewhere : third.sessionId ≠ "left" := by rw [right]; decide
      have kept := accepted.kept "third" third (by decide) found (.inr elsewhere)
      exact ⟨config, log, next, task, third, run, bounded, finished, found,
        cancelled, stepped, accepted, kept⟩

end Sftp

end TitanSSH
