import Mathlib.Data.Finset.Sort
import Mathlib.Data.Prod.Lex
import Mathlib.Data.String.Basic
import TitanSSH.Library.FiniteMap
import TitanSSH.Models.Sftp

namespace TitanSSH

/-! The task registry and what happens under its lock. -/

abbrev TaskRegistry := FiniteMap String TransferTask

def maxTerminalTasksPerSession : ℕ := 100

namespace SftpTaskStatus

def isTerminal : SftpTaskStatus → Bool
  | done | failed | cancelled => true
  | pending | running => false

def legal : SftpTaskStatus → SftpTaskStatus → Bool
  | pending, running | pending, cancelled => true
  | running, done | running, failed | running, cancelled => true
  | _, _ => false

theorem legal_live {before after : SftpTaskStatus}
    (isLegal : legal before after = true) : before.isTerminal = false := by
  cases before <;> cases after <;> simp_all [legal, isTerminal]

theorem legal_not_pending {before after : SftpTaskStatus}
    (isLegal : legal before after = true) : after ≠ pending := by
  rintro rfl
  cases before <;> simp [legal] at isLegal

end SftpTaskStatus

/-- Where a transfer puts its file. -/
def TransferTask.target (task : TransferTask) : String :=
  match task.transferType with
  | .upload => task.remotePath
  | .download => task.localPath

namespace TaskRegistry

def occupies (sessionId : String) (transferType : TransferType)
    (target : String) (task : TransferTask) : Bool :=
  task.sessionId == sessionId && task.transferType == transferType &&
    !task.status.isTerminal && task.target == target

def occupied (tasks : TaskRegistry) (sessionId : String)
    (transferType : TransferType) (target : String) : Bool :=
  tasks.any fun _ task => occupies sessionId transferType target task

/-- The terminal tasks of a session, by age. -/
def terminalTasks (tasks : TaskRegistry) (sessionId : String) :
    Finset (ℤ ×ₗ String) :=
  tasks.collect fun taskId task =>
    if task.sessionId == sessionId && task.status.isTerminal then
      some (toLex (task.createdAt, taskId))
    else none

/-- The newest hundred stay; of the same age, those with the greater ids. -/
def evicted (tasks : TaskRegistry) (sessionId : String) : List String :=
  if (tasks.terminalTasks sessionId).card ≤ maxTerminalTasksPerSession then []
  else
    (((tasks.terminalTasks sessionId).sort (· ≥ ·)).drop
      maxTerminalTasksPerSession).map fun entry => (ofLex entry).2

def evictOldTerminalTasks (tasks : TaskRegistry) (sessionId : String) :
    TaskRegistry :=
  tasks.retain fun taskId _ => decide (taskId ∉ tasks.evicted sessionId)

/-- The critical section of `transition_task`; nothing when it refuses. -/
def applyStatus (tasks : TaskRegistry) (change : SftpTaskStatusEvent) :
    Option TaskRegistry :=
  match tasks.lookup change.taskId with
  | none => none
  | some task =>
      if task.status.legal change.status then
        let updated := tasks.insert change.taskId
          { task with status := change.status, error := change.error }
        some (if change.status.isTerminal then
            evictOldTerminalTasks updated change.sessionId
          else updated)
      else none

def clearTerminal (tasks : TaskRegistry) (sessionId : String) : TaskRegistry :=
  tasks.retain fun _ task =>
    task.sessionId != sessionId || !task.status.isTerminal

def purge (tasks : TaskRegistry) (sessionId : String) : TaskRegistry :=
  tasks.retain fun _ task => task.sessionId != sessionId

def snapshot (tasks : TaskRegistry) (sessionId : String) : List TransferTask :=
  let ages : Finset (ℤ ×ₗ String) := tasks.collect fun taskId task =>
    if task.sessionId == sessionId then some (toLex (task.createdAt, taskId))
    else none
  (ages.sort (· ≥ ·)).filterMap fun entry => tasks.lookup (ofLex entry).2

/-! What these do to single tasks. -/

variable {tasks next : TaskRegistry} {sessionId taskId target : String}
variable {transferType : TransferType} {task : TransferTask}

theorem occupied_iff :
    tasks.occupied sessionId transferType target = true ↔
      ∃ taskId task, tasks.lookup taskId = some task ∧
        occupies sessionId transferType target task = true :=
  FiniteMap.any_eq_true

theorem occupies_iff :
    occupies sessionId transferType target task = true ↔
      task.sessionId = sessionId ∧ task.transferType = transferType ∧
        task.status.isTerminal = false ∧ task.target = target := by
  simp [occupies, and_assoc]

theorem lookup_of_kept
    (found : (tasks.evictOldTerminalTasks sessionId).lookup taskId =
      some task) : tasks.lookup taskId = some task :=
  (FiniteMap.lookup_retain_eq_some.mp found).1

theorem terminal_of_evicted (member : taskId ∈ tasks.evicted sessionId)
    (found : tasks.lookup taskId = some task) :
    task.status.isTerminal = true := by
  unfold evicted at member
  split at member
  · cases member
  · obtain ⟨entry, dropped, named⟩ := List.mem_map.mp member
    obtain ⟨other, value, otherFound, holds⟩ := FiniteMap.mem_collect.mp
      ((Finset.mem_sort _).mp (List.mem_of_mem_drop dropped))
    split at holds
    · next isTerminal =>
        obtain rfl := Option.some.inj holds
        obtain rfl : other = taskId := named
        obtain rfl := Option.some.inj (otherFound.symm.trans found)
        simp only [Bool.and_eq_true] at isTerminal
        exact isTerminal.2
    · cases holds

theorem lookup_kept_of_live (found : tasks.lookup taskId = some task)
    (live : task.status.isTerminal = false) :
    (tasks.evictOldTerminalTasks sessionId).lookup taskId = some task := by
  refine FiniteMap.lookup_retain_eq_some.mpr ⟨found, ?_⟩
  rw [decide_eq_true_eq]
  intro member
  simp [terminal_of_evicted member found] at live

/-- What an accepted change of status does to the registry. -/
structure Applied (tasks next : TaskRegistry) (change : SftpTaskStatusEvent)
    (task : TransferTask) : Prop where
  found : tasks.lookup change.taskId = some task
  isLegal : task.status.legal change.status = true
  origin : ∀ {taskId other}, next.lookup taskId = some other →
    (taskId = change.taskId ∧
      other = { task with status := change.status, error := change.error }) ∨
    (taskId ≠ change.taskId ∧ tasks.lookup taskId = some other)
  live : ∀ {taskId other}, taskId ≠ change.taskId →
    tasks.lookup taskId = some other → other.status.isTerminal = false →
      next.lookup taskId = some other
  running : change.status.isTerminal = false →
    next.lookup change.taskId =
      some { task with status := change.status, error := change.error }

theorem applied {change : SftpTaskStatusEvent}
    (accepted : tasks.applyStatus change = some next) :
    ∃ task, Applied tasks next change task := by
  unfold applyStatus at accepted
  cases found : tasks.lookup change.taskId with
  | none => simp [found] at accepted
  | some task =>
      cases isLegal : task.status.legal change.status with
      | false => simp [found, isLegal] at accepted
      | true =>
          simp only [found, isLegal, if_true, Option.some.injEq] at accepted
          refine ⟨task, found, isLegal, ?_, ?_, ?_⟩
          · intro taskId other present
            have inserted : (tasks.insert change.taskId
                { task with status := change.status, error := change.error }
                ).lookup taskId = some other := by
              rw [← accepted] at present
              split at present
              · exact lookup_of_kept present
              · exact present
            rw [FiniteMap.lookup_insert] at inserted
            split at inserted
            · next same => exact .inl ⟨same, (Option.some.inj inserted).symm⟩
            · next different => exact .inr ⟨different, inserted⟩
          · intro taskId other different present live
            have inserted : (tasks.insert change.taskId
                { task with status := change.status, error := change.error }
                ).lookup taskId = some other := by
              rw [FiniteMap.lookup_insert_of_ne _ _ different]
              exact present
            rw [← accepted]
            split
            · exact lookup_kept_of_live inserted live
            · exact inserted
          · intro live
            rw [← accepted, if_neg (by simp [live])]
            exact FiniteMap.lookup_insert_self _ _ _

theorem lookup_purge :
    (tasks.purge sessionId).lookup taskId = some task ↔
      tasks.lookup taskId = some task ∧ task.sessionId ≠ sessionId := by
  simp [purge]

theorem lookup_clearTerminal :
    (tasks.clearTerminal sessionId).lookup taskId = some task ↔
      tasks.lookup taskId = some task ∧
        (task.sessionId ≠ sessionId ∨ task.status.isTerminal = false) := by
  simp [clearTerminal]

theorem snapshot_eq_nil :
    tasks.snapshot sessionId = [] ↔
      ∀ taskId task, tasks.lookup taskId = some task →
        task.sessionId ≠ sessionId := by
  unfold snapshot
  rw [List.filterMap_eq_nil_iff]
  constructor
  · intro missing taskId task found same
    have member : toLex (task.createdAt, taskId) ∈
        (tasks.collect fun taskId task =>
          if task.sessionId == sessionId then
            some (toLex (task.createdAt, taskId))
          else none) :=
      FiniteMap.mem_collect.mpr ⟨taskId, task, found, by simp [same]⟩
    have absent := missing _ ((Finset.mem_sort _).mpr member)
    simp [found] at absent
  · intro others entry member
    obtain ⟨taskId, task, found, holds⟩ :=
      FiniteMap.mem_collect.mp ((Finset.mem_sort _).mp member)
    simp [others taskId task found] at holds

theorem snapshot_eq_singleton (found : tasks.lookup taskId = some task)
    (own : task.sessionId = sessionId)
    (alone : ∀ other, other ≠ taskId → tasks.lookup other = none) :
    tasks.snapshot sessionId = [task] := by
  have ages : (tasks.collect fun taskId task =>
      if task.sessionId == sessionId then some (toLex (task.createdAt, taskId))
      else none) = {toLex (task.createdAt, taskId)} := by
    ext entry
    rw [FiniteMap.mem_collect, Finset.mem_singleton]
    constructor
    · rintro ⟨other, another, present, same⟩
      rcases eq_or_ne other taskId with rfl | different
      · obtain rfl := Option.some.inj (found.symm.trans present)
        simpa [own, eq_comm] using same
      · rw [alone other different] at present
        cases present
    · rintro rfl
      exact ⟨taskId, task, found, by simp [own]⟩
  simp only [snapshot, ages, Finset.sort_singleton]
  simp [found]

end TaskRegistry

end TitanSSH
