import TitanSSH.Core.Sftp.Steps
import TitanSSH.Library.GuardedRuns
import TitanSSH.Library.Outbox

namespace TitanSSH

open Interleaving

/-! The statuses that the registry takes for a task, and the events that tell of
them. -/

namespace SftpTaskStatus

/-- Where the changes lead from a status, if each of them is legal. -/
def follow : SftpTaskStatus → List SftpTaskStatusEvent → Option SftpTaskStatus
  | status, [] => some status
  | status, change :: rest =>
      if status.legal change.status then follow change.status rest else none

variable {status final : SftpTaskStatus}
variable {first second : List SftpTaskStatusEvent}

theorem follow_append (status : SftpTaskStatus)
    (first second : List SftpTaskStatusEvent) :
    status.follow (first ++ second) =
      (status.follow first).bind (·.follow second) := by
  induction first generalizing status with
  | nil => rfl
  | cons change rest induction =>
      simp only [List.cons_append, follow]
      split
      · exact induction change.status
      · rfl

theorem follow_terminal (terminal : status.isTerminal = true)
    (followed : status.follow second = some final) : second = [] := by
  cases second with
  | nil => rfl
  | cons change rest =>
      unfold follow at followed
      split at followed
      · next isLegal => simp [legal_live isLegal] at terminal
      · cases followed

theorem follow_live (followed : status.follow first = some final)
    (live : final.isTerminal = false) :
    ∀ change ∈ first, change.status.isTerminal = false := by
  induction first generalizing status with
  | nil => simp
  | cons change rest induction =>
      unfold follow at followed
      split at followed
      · intro other member
        rcases List.mem_cons.mp member with rfl | later
        · by_contra terminal
          rw [Bool.not_eq_false] at terminal
          obtain rfl := follow_terminal terminal followed
          obtain rfl := Option.some.inj followed
          simp [terminal] at live
        · exact induction followed other later
      · cases followed

theorem follow_ended (followed : status.follow first = some final)
    {change : SftpTaskStatusEvent} (member : change ∈ first)
    (terminal : change.status.isTerminal = true) :
    first.filter (·.status.isTerminal) = [change] := by
  induction first generalizing status with
  | nil => cases member
  | cons head rest induction =>
      unfold follow at followed
      split at followed
      · rcases List.mem_cons.mp member with rfl | later
        · obtain rfl := follow_terminal terminal followed
          simp [terminal]
        · have live : head.status.isTerminal = false := by
            by_contra ended
            rw [Bool.not_eq_false] at ended
            obtain rfl := follow_terminal ended followed
            cases later
          rw [List.filter_cons_of_neg (by simp [live])]
          exact induction followed later
      · cases followed

theorem follow_getLast (followed : status.follow first = some final) :
    final = (first.getLast?.map (·.status)).getD status := by
  induction first generalizing status with
  | nil => exact (Option.some.inj followed).symm
  | cons change rest induction =>
      unfold follow at followed
      split at followed
      · rw [induction followed, List.getLast?_cons]
        cases rest.getLast? <;> rfl
      · cases followed

end SftpTaskStatus

namespace Sftp

def Event.takes (counts : SftpTaskStatusEvent → Bool) :
    Event → Option SftpTaskStatusEvent
  | .taken change => if counts change then some change else none
  | _ => none

def Event.emits (counts : SftpTaskStatusEvent → Bool) :
    Event → Option SftpTaskStatusEvent
  | .emitted change => if counts change then some change else none
  | _ => none

/-- The changes of a kind that the registry has taken. -/
def taken (counts : SftpTaskStatusEvent → Bool) (log : List Event) :
    List SftpTaskStatusEvent :=
  log.filterMap (Event.takes counts)

/-- The changes of a kind that have been told to the frontend. -/
def emitted (counts : SftpTaskStatusEvent → Bool) (log : List Event) :
    List SftpTaskStatusEvent :=
  log.filterMap (Event.emits counts)

def ofTask (taskId : String) (change : SftpTaskStatusEvent) : Bool :=
  change.taskId == taskId

/-- The change that a thread has made and not yet told. -/
def Phase.due : Phase → Option SftpTaskStatusEvent
  | .transition .registry _ _ => none
  | .transition _ change _ => some change
  | _ => none

/-- What a step has to do with the changes of status. -/
inductive Announces (phase after : Phase) : List Event → Prop
  | quiet {events : List Event} (untaken : ∀ change, .taken change ∉ events)
      (untold : ∀ change, .emitted change ∉ events)
      (same : after.due = phase.due) : Announces phase after events
  | taken {change : SftpTaskStatusEvent} (idle : phase.due = none)
      (due : after.due = some change) : Announces phase after [.taken change]
  | emitted {change : SftpTaskStatusEvent} (due : phase.due = some change)
      (idle : after.due = none) : Announces phase after [.emitted change]

variable {thread : ℕ} {choice : Choice} {shared next : SftpShared}
variable {phase after : Phase} {events log : List Event}
variable {counts : SftpTaskStatusEvent → Bool} {taskId : String}

@[simp] theorem resume_due (continuation : Continuation) :
    (resume continuation).due = none := by
  cases continuation <;> rfl

@[simp] theorem afterPoolStep_due (job : TransferJob)
    (phase : TransferPool.Phase) : (afterPoolStep job phase).due = none := by
  cases phase with
  | failed error => cases error <;> rfl
  | _ => rfl

theorem Move.announces
    (move : Move thread choice shared phase next after events) :
    Announces phase after events := by
  cases move with
  | taken applied =>
      refine .taken rfl ?_
      split <;> rfl
  | emitted => exact .emitted rfl (resume_due _)
  | rejected illegal => exact .quiet (by simp) (by simp) (resume_due _)
  | tokenLookup =>
      refine .quiet (by simp) (by simp) ?_
      split <;> rfl
  | pooled move => exact .quiet (by simp) (by simp) (afterPoolStep_due _ _)
  | reaped move => exact .quiet (by simp) (by simp) rfl
  | @unoccupied request free =>
      refine .quiet (by simp) (by simp) ?_
      unfold afterCheck
      split <;> rfl
  | refused error asking =>
      refine .quiet (by simp) (by simp) ?_
      cases phase <;> first | rfl | simp [Phase.asking] at asking
  | _ => exact .quiet (by simp) (by simp) rfl

theorem taken_append (first second : List Event) :
    taken counts (first ++ second) = taken counts first ++ taken counts second :=
  List.filterMap_append

theorem emitted_append (first second : List Event) :
    emitted counts (first ++ second) =
      emitted counts first ++ emitted counts second :=
  List.filterMap_append

theorem taken_quiet (untaken : ∀ change, .taken change ∉ events) :
    taken counts events = [] := by
  rw [taken, List.filterMap_eq_nil_iff]
  intro event member
  cases event with
  | taken change => exact absurd member (untaken change)
  | _ => rfl

theorem emitted_quiet (untold : ∀ change, .emitted change ∉ events) :
    emitted counts events = [] := by
  rw [emitted, List.filterMap_eq_nil_iff]
  intro event member
  cases event with
  | emitted change => exact absurd member (untold change)
  | _ => rfl

theorem taken_taken (change : SftpTaskStatusEvent) :
    taken counts [.taken change] = (some change).toList.filter counts := by
  cases counted : counts change <;> simp [taken, Event.takes, counted]

theorem emitted_emitted (change : SftpTaskStatusEvent) :
    emitted counts [.emitted change] = (some change).toList.filter counts := by
  cases counted : counts change <;> simp [emitted, Event.emits, counted]

theorem emitted_taken (change : SftpTaskStatusEvent) :
    emitted counts [.taken change] = [] := rfl

theorem taken_emitted (change : SftpTaskStatusEvent) :
    taken counts [.emitted change] = [] := rfl

/-- The changes of a kind that threads have made and not yet told. -/
def dueChanges (counts : SftpTaskStatusEvent → Bool)
    (config : Config SftpShared Phase) : ℕ → Option SftpTaskStatusEvent :=
  config.holdings fun phase => phase.due.filter counts

/-- Every change of a kind is told, but for one that a thread is telling. -/
def Announced (counts : SftpTaskStatusEvent → Bool) (log : List Event)
    (config : Config SftpShared Phase) : Prop :=
  Outbox.Balanced (dueChanges counts config) (taken counts log)
    (emitted counts log)

theorem dueChanges_update {config : Config SftpShared Phase}
    (thread : ℕ) (shared : SftpShared) (phase : Phase) :
    dueChanges counts
        ⟨shared, Function.update config.threads thread (some phase)⟩ =
      Function.update (dueChanges counts config) thread
        (phase.due.filter counts) :=
  config.holdings_advance shared _ thread phase

theorem Announced.step {config final : Config SftpShared Phase}
    {action : ThreadAction Phase Choice}
    (announced : Announced counts log config)
    (stepped : service.machine.step config action = some (final, events))
    (apart : ∀ change, .taken change ∈ events → counts change = true →
      taken counts log = emitted counts log) :
    Announced counts (log ++ events) final := by
  unfold Announced at *
  rw [taken_append, emitted_append]
  rcases Program.machine_step_cases stepped with
    ⟨thread, start, -, free, admitted, rfl, rfl⟩ |
    ⟨thread, choice, current, shared, phase, -, running, moved, rfl⟩
  · have idle : start.due = none := by
      cases start <;> first | rfl | simp [service] at admitted
    have holds : dueChanges counts config thread = none := by
      simp [dueChanges, Config.holdings, free]
    rw [dueChanges_update, idle, Option.filter_none, ← holds,
      Function.update_eq_self]
    simpa [taken, emitted, service] using announced
  · have holds : dueChanges counts config thread =
        current.due.filter counts := by
      simp [dueChanges, Config.holdings, running]
    rw [dueChanges_update]
    cases (step_move moved).announces with
    | quiet untaken untold same =>
        rw [same, ← holds, Function.update_eq_self, taken_quiet untaken,
          emitted_quiet untold, List.append_nil, List.append_nil]
        exact announced
    | @taken change idle due =>
        rw [idle, Option.filter_none] at holds
        rw [due, taken_taken, emitted_taken, List.append_nil]
        rw [Option.filter_some]
        cases counted : counts change with
        | true =>
            simpa [counted] using
              announced.record (apart change (by simp) counted) thread change
        | false =>
            rw [if_neg (by simp), ← holds, Function.update_eq_self]
            simpa [counted] using announced
    | @emitted change due idle =>
        rw [due, Option.filter_some] at holds
        rw [idle, emitted_emitted, taken_emitted, List.append_nil,
          Option.filter_none]
        cases counted : counts change with
        | true =>
            simpa [counted] using
              announced.deliver (holds.trans (by simp [counted]))
        | false =>
            rw [if_neg (by simp [counted])] at holds
            rw [← holds, Function.update_eq_self]
            simpa [counted] using announced

/-! The registry itself. -/

/-- The registry has a task where the changes taken so far lead. -/
structure Followed (log : List Event) (shared : SftpShared) (taskId : String) :
    Prop where
  fresh : taskId ∉ shared.issued →
    shared.tasks.lookup taskId = none ∧ taken (ofTask taskId) log = []
  path : ∃ status,
    SftpTaskStatus.pending.follow (taken (ofTask taskId) log) = some status ∧
    ∀ task, shared.tasks.lookup taskId = some task → task.status = status

theorem Followed.quiet (followed : Followed log shared taskId)
    (issued : shared.issued ⊆ next.issued)
    (kept : ∀ task, next.tasks.lookup taskId = some task →
      shared.tasks.lookup taskId = some task)
    (untaken : taken (ofTask taskId) events = []) :
    Followed (log ++ events) next taskId := by
  have same : taken (ofTask taskId) (log ++ events) =
      taken (ofTask taskId) log := by
    rw [taken_append, untaken, List.append_nil]
  refine ⟨fun fresh => ?_, ?_⟩
  · obtain ⟨missing, none⟩ := followed.fresh fun member => fresh (issued member)
    refine ⟨Option.eq_none_iff_forall_ne_some.mpr fun task found => ?_,
      same.trans none⟩
    cases missing.symm.trans (kept task found)
  · obtain ⟨status, path, current⟩ := followed.path
    rw [same]
    exact ⟨status, path, fun task found => current task (kept task found)⟩

theorem Followed.inserted (followed : Followed log shared choice.uuid)
    (fresh : choice.uuid ∉ shared.issued) (request : TransferRequest) :
    Followed (log ++ [.inserted thread (newTask choice request)])
      { shared with
        tasks := shared.tasks.insert choice.uuid (newTask choice request)
        cancelled := Function.update shared.cancelled choice.uuid false
        issued := insert choice.uuid shared.issued } choice.uuid := by
  have same : taken (ofTask choice.uuid)
      (log ++ [.inserted thread (newTask choice request)]) = [] := by
    rw [taken_append, (followed.fresh fresh).2]
    rfl
  refine ⟨fun absent => absurd (Finset.mem_insert_self _ _) absent, ?_⟩
  refine ⟨.pending, by rw [same]; rfl, fun task found => ?_⟩
  rw [FiniteMap.lookup_insert_self] at found
  obtain rfl := Option.some.inj found
  rfl

theorem Followed.changed {change : SftpTaskStatusEvent} {tasks : TaskRegistry}
    {task : TransferTask} (followed : Followed log shared change.taskId)
    (applied : TaskRegistry.Applied shared.tasks tasks change task) :
    Followed (log ++ [.taken change]) { shared with tasks := tasks }
      change.taskId := by
  have present := applied.found
  have extended : taken (ofTask change.taskId) (log ++ [.taken change]) =
      taken (ofTask change.taskId) log ++ [change] := by
    rw [taken_append, taken_taken]
    simp [ofTask]
  constructor
  · intro fresh
    cases (followed.fresh fresh).1.symm.trans present
  · obtain ⟨status, path, current⟩ := followed.path
    obtain rfl := current task present
    refine ⟨change.status, ?_, fun other found => ?_⟩
    · rw [extended, SftpTaskStatus.follow_append, path]
      simp [SftpTaskStatus.follow, applied.isLegal]
    · rcases applied.origin found with ⟨-, rfl⟩ | ⟨different, -⟩
      · rfl
      · exact absurd rfl different

theorem Move.followed
    (move : Move thread choice shared phase next after events)
    (followed : Followed log shared taskId) :
    Followed (log ++ events) next taskId := by
  cases move with
  | @inserted request fresh =>
      rcases eq_or_ne taskId choice.uuid with rfl | different
      · exact followed.inserted fresh request
      · refine followed.quiet (Finset.subset_insert _ _) ?_ rfl
        intro task found
        rwa [FiniteMap.lookup_insert_of_ne _ _ different] at found
  | @taken change _ tasks task applied =>
      rcases eq_or_ne taskId change.taskId with rfl | different
      · exact followed.changed applied
      · refine followed.quiet (Finset.Subset.refl _) ?_ ?_
        · intro other found
          rcases applied.origin found with ⟨same, -⟩ | ⟨-, before⟩
          · exact absurd same different
          · exact before
        · rw [taken_taken]
          simp [ofTask, different.symm]
  | purged =>
      refine followed.quiet (Finset.Subset.refl _) ?_ rfl
      exact fun task found => (TaskRegistry.lookup_purge.mp found).1
  | cleared =>
      refine followed.quiet (Finset.Subset.refl _) ?_ rfl
      exact fun task found => (TaskRegistry.lookup_clearTerminal.mp found).1
  | _ =>
      exact followed.quiet (Finset.Subset.refl _) (fun _ found => found)
        (taken_quiet (by simp))

theorem followed_step {config final : Config SftpShared Phase}
    {action : ThreadAction Phase Choice}
    (followed : Followed log config.shared taskId)
    (stepped : service.machine.step config action = some (final, events)) :
    Followed (log ++ events) final.shared taskId := by
  rcases Program.machine_step_cases stepped with
    ⟨thread, start, -, -, -, rfl, rfl⟩ |
    ⟨thread, choice, current, shared, phase, -, -, moved, rfl⟩
  · exact followed.quiet (Finset.Subset.refl _) (fun _ found => found) rfl
  · exact (step_move moved).followed followed

theorem initial_followed (taskId : String) :
    Followed [] initial.shared taskId where
  fresh _ := ⟨rfl, rfl⟩
  path := ⟨.pending, rfl, fun task found => by cases found⟩

theorem initial_announced : Announced counts [] initial :=
  .settled (fun _ => rfl) rfl

/-- The registry takes a status of a task only once the events of all its
earlier ones have been emitted. -/
def oneAtATime (past : List Event) (config : Config SftpShared Phase) :
    ThreadAction Phase Choice → Bool
  | .spawn _ _ => true
  | .advance thread _ =>
      match config.threads thread with
      | some (.transition .registry change _) =>
          (config.shared.tasks.applyStatus change).isNone ||
            taken (ofTask change.taskId) past ==
              emitted (ofTask change.taskId) past
      | _ => true

theorem Move.taken_inv {change : SftpTaskStatusEvent}
    (move : Move thread choice shared phase next after events)
    (logged : .taken change ∈ events) :
    ∃ continuation, phase = .transition .registry change continuation ∧
      shared.tasks.applyStatus change ≠ none := by
  cases move with
  | taken applied =>
      obtain rfl := Event.taken.inj (List.mem_singleton.mp logged)
      refine ⟨_, rfl, ?_⟩
      simp [TaskRegistry.applyStatus, applied.found, applied.isLegal]
  | _ => simp at logged

theorem taken_apart {config final : Config SftpShared Phase}
    {action : ThreadAction Phase Choice} {change : SftpTaskStatusEvent}
    (permitted : oneAtATime log config action = true)
    (stepped : service.machine.step config action = some (final, events))
    (logged : .taken change ∈ events) :
    taken (ofTask change.taskId) log = emitted (ofTask change.taskId) log := by
  rcases Program.machine_step_cases stepped with
    ⟨thread, start, -, -, -, -, rfl⟩ |
    ⟨thread, choice, current, shared, phase, rfl, running, moved, -⟩
  · cases logged
  · obtain ⟨continuation, rfl, accepted⟩ := (step_move moved).taken_inv logged
    simp only [oneAtATime, running, Bool.or_eq_true, Option.isNone_iff_eq_none,
      beq_iff_eq] at permitted
    exact permitted.resolve_left accepted

/-- The events of a task tell its history in the registry. -/
structure Retold (log : List Event) (config : Config SftpShared Phase)
    (taskId : String) : Prop where
  inOrder : emitted (ofTask taskId) log <+: taken (ofTask taskId) log
  legal : (SftpTaskStatus.pending.follow (taken (ofTask taskId) log)).isSome
  complete : (∀ thread, dueChanges (ofTask taskId) config thread = none) →
    emitted (ofTask taskId) log = taken (ofTask taskId) log
  ended : ∀ before change after,
    emitted (ofTask taskId) log = before ++ change :: after →
      change.status.isTerminal = true → after = []
  current : (∀ thread, dueChanges (ofTask taskId) config thread = none) →
    ∀ task, config.shared.tasks.lookup taskId = some task →
      task.status =
        ((emitted (ofTask taskId) log).getLast?.map (·.status)).getD .pending

theorem Announced.retold {config : Config SftpShared Phase}
    (announced : Announced (ofTask taskId) log config)
    (followed : Followed log config.shared taskId) :
    Retold log config taskId := by
  obtain ⟨status, path, current⟩ := followed.path
  have inOrder := announced.delivered_first
  refine ⟨inOrder, by rw [path]; rfl,
    fun idle => (announced.delivered_all idle).symm, ?_, ?_⟩
  · rintro before change after split terminal
    obtain ⟨rest, whole⟩ := inOrder
    rw [split, List.append_assoc, List.cons_append] at whole
    rw [← whole, SftpTaskStatus.follow_append, Option.bind_eq_some_iff] at path
    obtain ⟨middle, -, tail⟩ := path
    unfold SftpTaskStatus.follow at tail
    split at tail
    · have nothing := SftpTaskStatus.follow_terminal terminal tail
      exact (List.append_eq_nil_iff.mp nothing).1
    · cases tail
  · intro idle task found
    rw [current task found, ← announced.delivered_all idle]
    exact SftpTaskStatus.follow_getLast path

/-- While the transitions of a task do not overlap, its events are the statuses
that the registry takes for it, in that order. -/
theorem status_events_retell {config : Config SftpShared Phase}
    {actions : List (ThreadAction Phase Choice)}
    (run : service.machine.RunWhere oneAtATime [] initial actions log config)
    (taskId : String) : Retold log config taskId := by
  have kept := run.invariant
    (fun log config => Announced (ofTask taskId) log config ∧
      Followed log config.shared taskId)
    ⟨initial_announced, initial_followed taskId⟩ ?_
  · exact kept.1.retold kept.2
  · rintro log config action next events ⟨announced, followed⟩ permitted stepped
    refine ⟨announced.step stepped ?_, followed_step followed stepped⟩
    intro change logged counted
    obtain rfl : change.taskId = taskId := by simpa [ofTask] using counted
    exact taken_apart permitted stepped logged

/-- An upload that has been taken as running, and not yet announced as such. -/
def runningUpload : List (ThreadAction Phase Choice) :=
  [.spawn 0 (.called (.registerSession "session")), .advance 0 {},
    .spawn 1 (.called (.enqueueUpload "session" "/home/a" "/srv")),
    .advance 1 {}, .advance 1 {}, .advance 1 { uuid := "task" },
    .advance 1 {}, .advance 1 {}, .advance 1 {}, .advance 1 {}, .advance 1 {},
    .advance 1 {}, .advance 1 {}, .advance 1 {}]

/-- The session is closed; its cleanup announces the cancellation of the upload,
and only then does the worker announce that it runs. -/
def overtakenUpload : List (ThreadAction Phase Choice) :=
  runningUpload ++
  [.spawn 2 (.called (.cleanupSession "session")), .advance 2 {}, .advance 2 {},
    .advance 2 {}, .advance 2 { taskId := "task" }, .advance 2 {},
    .advance 2 {}, .advance 2 {}, .advance 1 {}]

theorem overtaken_upload_told_running_last :
    ∃ config log,
      service.machine.Run initial overtakenUpload log config ∧
      taken (ofTask "task") log = [⟨"task", "session", .running, none⟩,
        ⟨"task", "session", .cancelled, none⟩] ∧
      emitted (ofTask "task") log = [⟨"task", "session", .cancelled, none⟩,
        ⟨"task", "session", .running, none⟩] :=
  ⟨_, _, Machine.run_of_execute rfl, rfl, rfl⟩

/-- The same closing, after the worker has announced that the upload runs. -/
def closedUpload : List (ThreadAction Phase Choice) :=
  runningUpload ++
  [.advance 1 {}, .spawn 2 (.called (.cleanupSession "session")),
    .advance 2 {}, .advance 2 {}, .advance 2 {},
    .advance 2 { taskId := "task" }, .advance 2 {}, .advance 2 {},
    .advance 2 {}]

theorem status_events_retell_closed :
    ∃ config log,
      service.machine.RunWhere oneAtATime [] initial closedUpload log config ∧
      emitted (ofTask "task") log = [⟨"task", "session", .running, none⟩,
        ⟨"task", "session", .cancelled, none⟩] ∧
      Retold log config "task" := by
  have executed : ∃ config log,
      service.machine.RunWhere oneAtATime [] initial closedUpload log config ∧
      emitted (ofTask "task") log = [⟨"task", "session", .running, none⟩,
        ⟨"task", "session", .cancelled, none⟩] :=
    ⟨_, _, Machine.runWhere_of_executeWhere rfl, rfl⟩
  obtain ⟨config, log, run, told⟩ := executed
  exact ⟨config, log, run, told, status_events_retell run "task"⟩

end Sftp

end TitanSSH
