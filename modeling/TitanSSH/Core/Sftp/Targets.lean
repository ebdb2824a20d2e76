import TitanSSH.Core.Sftp.Steps
import TitanSSH.Library.GuardedRuns

namespace TitanSSH

open Interleaving

/-! Which transfers are under way for a target. -/

namespace TaskRegistry

variable {tasks next : TaskRegistry}

/-- No two transfers of a session and a direction are under way for one target. -/
structure TargetsExclusive (tasks : TaskRegistry) : Prop where
  unique : ∀ {first second one other},
    tasks.lookup first = some one → tasks.lookup second = some other →
    one.sessionId = other.sessionId → one.transferType = other.transferType →
    one.status.isTerminal = false → other.status.isTerminal = false →
    one.target = other.target → first = second

theorem TargetsExclusive.narrow (exclusive : TargetsExclusive tasks)
    (kept : ∀ taskId task, next.lookup taskId = some task →
      tasks.lookup taskId = some task) : TargetsExclusive next where
  unique firstFound secondFound :=
    exclusive.unique (kept _ _ firstFound) (kept _ _ secondFound)

theorem TargetsExclusive.insert {task : TransferTask}
    (exclusive : TargetsExclusive tasks) (taskId : String)
    (free : tasks.occupied task.sessionId task.transferType task.target =
      false) : TargetsExclusive (FiniteMap.insert tasks taskId task) := by
  have unshared : ∀ {second other}, tasks.lookup second = some other →
      other.sessionId = task.sessionId →
      other.transferType = task.transferType →
      other.status.isTerminal = false → other.target ≠ task.target := by
    intro second other found sameSession sameType live sameTarget
    have busy := occupied_iff.mpr ⟨second, other, found,
      occupies_iff.mpr ⟨sameSession, sameType, live, sameTarget⟩⟩
    simp [free] at busy
  refine ⟨fun {first second one other} firstFound secondFound sameSession
    sameType firstLive secondLive sameTarget => ?_⟩
  rw [FiniteMap.lookup_insert] at firstFound secondFound
  split at firstFound <;> split at secondFound
  · next firstSame secondSame => exact firstSame.trans secondSame.symm
  · obtain rfl := Option.some.inj firstFound
    exact absurd sameTarget.symm
      (unshared secondFound sameSession.symm sameType.symm secondLive)
  · obtain rfl := Option.some.inj secondFound
    exact absurd sameTarget (unshared firstFound sameSession sameType firstLive)
  · exact exclusive.unique firstFound secondFound sameSession sameType firstLive
      secondLive sameTarget

/-- A task that is under way was so, for the same target, before any change of
status. -/
theorem Applied.underway {change : SftpTaskStatusEvent}
    {task other : TransferTask} {taskId : String}
    (applied : Applied tasks next change task)
    (found : next.lookup taskId = some other) :
    ∃ earlier, tasks.lookup taskId = some earlier ∧
      earlier.sessionId = other.sessionId ∧
      earlier.transferType = other.transferType ∧
      earlier.target = other.target ∧
      (other.status.isTerminal = false →
        earlier.status.isTerminal = false) := by
  rcases applied.origin found with ⟨rfl, rfl⟩ | ⟨-, unchanged⟩
  · exact ⟨task, applied.found, rfl, rfl, rfl,
      fun _ => SftpTaskStatus.legal_live applied.isLegal⟩
  · exact ⟨other, unchanged, rfl, rfl, rfl, id⟩

theorem TargetsExclusive.apply {change : SftpTaskStatusEvent}
    {task : TransferTask} (exclusive : TargetsExclusive tasks)
    (applied : Applied tasks next change task) : TargetsExclusive next := by
  refine ⟨fun {first second one other} firstFound secondFound sameSession
    sameType firstLive secondLive sameTarget => ?_⟩
  obtain ⟨earlier, earlierFound, session, type, target, wasLive⟩ :=
    applied.underway firstFound
  obtain ⟨previous, previousFound, session', type', target', wasLive'⟩ :=
    applied.underway secondFound
  exact exclusive.unique earlierFound previousFound
    (session.trans (sameSession.trans session'.symm))
    (type.trans (sameType.trans type'.symm)) (wasLive firstLive)
    (wasLive' secondLive) (target.trans (sameTarget.trans target'.symm))

end TaskRegistry

namespace Sftp

variable {thread : ℕ} {choice : Choice} {shared next : SftpShared}
variable {phase after : Phase} {events : List Event}

/-! Calls that overlap: each has made its check, and none has inserted its task
yet. -/

def Phase.checked? : Phase → Option TransferRequest
  | .statLookup request | .stat request | .insertTask request => some request
  | _ => none

def TransferRequest.rivals (request other : TransferRequest) : Bool :=
  request.sessionId == other.sessionId &&
    request.transferType == other.transferType && request.target == other.target

/-- A task is about to be inserted while another call has already checked the
same target. -/
def overtakes (_ : SftpShared) (own other : Phase) : Bool :=
  match own with
  | .insertTask request => other.checked?.any request.rivals
  | _ => false

def Free (tasks : TaskRegistry) (request : TransferRequest) : Prop :=
  tasks.occupied request.sessionId request.transferType request.target = false

theorem Free.of_origin {tasks later : TaskRegistry} {request : TransferRequest}
    (free : Free tasks request)
    (origin : ∀ taskId task, later.lookup taskId = some task →
      task.status.isTerminal = false →
      TaskRegistry.occupies request.sessionId request.transferType
        request.target task = true →
      tasks.occupied request.sessionId request.transferType request.target =
        true) : Free later request := by
  unfold Free at free ⊢
  rw [Bool.eq_false_iff]
  intro occupied
  obtain ⟨taskId, task, found, occupies⟩ := TaskRegistry.occupied_iff.mp occupied
  have live := (TaskRegistry.occupies_iff.mp occupies).2.2.1
  rw [origin taskId task found live occupies] at free
  cases free

theorem Move.free {request : TransferRequest}
    (move : Move thread choice shared phase next after events)
    (apart : ∀ other, phase = .insertTask other → other.rivals request = false)
    (free : Free shared.tasks request) : Free next.tasks request := by
  cases move with
  | @inserted other fresh =>
      refine free.of_origin fun taskId task found _ occupies => ?_
      obtain ⟨session, type, -, target⟩ := TaskRegistry.occupies_iff.mp occupies
      rcases eq_or_ne taskId choice.uuid with rfl | different
      · rw [FiniteMap.lookup_insert_self] at found
        obtain rfl := Option.some.inj found
        have rivals : other.rivals request = true := by
          have own : other.target = request.target := target
          simp only [TransferRequest.rivals, Bool.and_eq_true, beq_iff_eq]
          exact ⟨⟨session, type⟩, own⟩
        rw [apart other rfl] at rivals
        cases rivals
      · rw [FiniteMap.lookup_insert_of_ne _ _ different] at found
        exact TaskRegistry.occupied_iff.mpr ⟨taskId, task, found, occupies⟩
  | taken applied =>
      refine free.of_origin fun taskId task found live occupies => ?_
      obtain ⟨session, type, -, target⟩ := TaskRegistry.occupies_iff.mp occupies
      obtain ⟨earlier, before, session', type', target', wasLive⟩ :=
        applied.underway found
      refine TaskRegistry.occupied_iff.mpr ⟨taskId, earlier, before, ?_⟩
      exact TaskRegistry.occupies_iff.mpr ⟨session'.trans session,
        type'.trans type, wasLive live, target'.trans target⟩
  | purged =>
      refine free.of_origin fun taskId task found _ occupies => ?_
      exact TaskRegistry.occupied_iff.mpr
        ⟨taskId, task, (TaskRegistry.lookup_purge.mp found).1, occupies⟩
  | cleared =>
      refine free.of_origin fun taskId task found _ occupies => ?_
      exact TaskRegistry.occupied_iff.mpr
        ⟨taskId, task, (TaskRegistry.lookup_clearTerminal.mp found).1, occupies⟩
  | _ => exact free

/-- The check makes sure of a free target, and the call keeps to that target. -/
theorem Move.checked {request : TransferRequest}
    (move : Move thread choice shared phase next after events)
    (checked : after.checked? = some request)
    (own : ∀ earlier, phase.checked? = some earlier →
      Free shared.tasks earlier) : Free next.tasks request := by
  cases move with
  | @unoccupied asked free =>
      obtain rfl : asked = request := by
        unfold afterCheck at checked
        split at checked <;> exact Option.some.inj checked
      exact free
  | statFound present => exact own request checked
  | @sized asked size =>
      obtain rfl := Option.some.inj checked
      have free : Free shared.tasks asked := own asked rfl
      exact free
  | @pooled job start finish pool logged step =>
      cases finish with
      | failed error => cases error <;> cases checked
      | _ => cases checked
  | @rejected change continuation illegal => cases continuation <;> cases checked
  | @emitted change continuation => cases continuation <;> cases checked
  | _ => cases checked

theorem Move.targetsExclusive
    (move : Move thread choice shared phase next after events)
    (exclusive : shared.tasks.TargetsExclusive)
    (free : ∀ request, phase.checked? = some request →
      Free shared.tasks request) : next.tasks.TargetsExclusive := by
  cases move with
  | @inserted request fresh =>
      refine exclusive.insert choice.uuid ?_
      have unoccupied := free request rfl
      unfold Free TransferRequest.target at unoccupied
      unfold TransferTask.target
      exact unoccupied
  | taken applied => exact exclusive.apply applied
  | purged =>
      exact exclusive.narrow fun _ _ found =>
        (TaskRegistry.lookup_purge.mp found).1
  | cleared =>
      exact exclusive.narrow fun _ _ found =>
        (TaskRegistry.lookup_clearTerminal.mp found).1
  | _ => exact exclusive

structure Guarded (config : Config SftpShared Phase) : Prop where
  exclusive : config.shared.tasks.TargetsExclusive
  checked : ∀ thread phase, config.threads thread = some phase →
    ∀ request, phase.checked? = some request → Free config.shared.tasks request

theorem Guarded.step {config final : Config SftpShared Phase}
    {log : List Event} {action : ThreadAction Phase Choice}
    (guarded : Guarded config)
    (apart : Program.Apart overtakes log config action)
    (stepped : service.machine.step config action = some (final, events)) :
    Guarded final := by
  rcases Program.machine_step_cases stepped with
    ⟨thread, start, -, -, admitted, rfl, -⟩ |
    ⟨thread, choice, current, shared, phase, rfl, running, moved, rfl⟩
  · refine ⟨guarded.exclusive, everywhere_update ?_ fun other phase _ found =>
      guarded.checked other phase found⟩
    intro request checked
    cases start with
    | called call => cases checked
    | reaper sessionId phase => cases checked
    | _ => simp [service] at admitted
  · have move := step_move moved
    have own := guarded.checked thread current running
    refine ⟨move.targetsExclusive guarded.exclusive own, everywhere_update
      (fun request checked => move.checked checked own) ?_⟩
    intro other waiting different found request checked
    refine move.free ?_ (guarded.checked other waiting found request checked)
    rintro inserting rfl
    have unopposed := apart _ other waiting running different found
    simpa [overtakes, checked] using unopposed

theorem stepCheckTarget_occupied (thread : ℕ) (choice : Choice)
    {request : TransferRequest}
    (occupied : shared.tasks.occupied request.sessionId request.transferType
      request.target = true) :
    step thread choice shared (.checkTarget request) =
      some (shared, .returned,
        [.refused thread ⟨.sftpTargetBusy, request.target⟩]) := by
  simp [step, stepCheckTarget, occupied, refuse]

/-- While no task is inserted between the check of another request for its
target and that request's own insertion, every target has at most one transfer
under way, and a request that finds its target occupied is refused. -/
theorem targets_exclusive {config : Config SftpShared Phase}
    {actions : List (ThreadAction Phase Choice)} {log : List Event}
    (run : service.machine.RunUnder (Program.Apart overtakes) [] initial actions
      log config) :
    config.shared.tasks.TargetsExclusive ∧
    ∀ thread choice request,
      config.shared.tasks.occupied request.sessionId request.transferType
        request.target = true →
      step thread choice config.shared (.checkTarget request) =
        some (config.shared, .returned,
          [.refused thread ⟨.sftpTargetBusy, request.target⟩]) := by
  refine ⟨?_, fun thread choice _ occupied =>
    stepCheckTarget_occupied thread choice occupied⟩
  have guarded : Guarded config := by
    refine run.invariant (fun _ config => Guarded config) ?_ ?_
    · refine ⟨⟨fun {first second one other} found => ?_⟩, ?_⟩
      · simp [initial, SftpShared.empty] at found
      · intro thread phase found
        cases found
    · exact fun guarded apart stepped => guarded.step apart stepped
  exact guarded.exclusive

/-- A session and a download that is still waiting for the size of its file. -/
def pendingDownload : List (ThreadAction Phase Choice) :=
  [.spawn 0 (.called (.registerSession "session")), .advance 0 {},
    .spawn 1 (.called (.enqueueDownload "session" "/srv/a" "/home/a")),
    .advance 1 {}, .advance 1 {}, .advance 1 {}]

/-- A second request is checked before the first one inserts its task. -/
def overlappingDownloads : List (ThreadAction Phase Choice) :=
  pendingDownload ++
  [.spawn 2 (.called (.enqueueDownload "session" "/srv/b" "/home/a")),
    .advance 2 {}, .advance 2 {}, .advance 2 {}, .advance 1 {},
    .advance 1 { uuid := "first" }, .advance 2 {},
    .advance 2 { uuid := "second" }]

theorem overlapping_downloads_share_target :
    ∃ config log first second,
      service.machine.Run initial overlappingDownloads log config ∧
      config.shared.tasks.lookup "first" = some first ∧
      config.shared.tasks.lookup "second" = some second ∧
      first.sessionId = second.sessionId ∧
      first.transferType = .download ∧ second.transferType = .download ∧
      first.status = .pending ∧ second.status = .pending ∧
      first.localPath = second.localPath :=
  ⟨_, _, _, _, Machine.run_of_execute rfl, rfl, rfl, rfl, rfl, rfl, rfl, rfl,
    rfl⟩

/-- A download to another place overlaps with the first one, and a request for
the place of the first one comes after that has inserted its task. -/
def successiveDownloads : List (ThreadAction Phase Choice) :=
  pendingDownload ++
  [.spawn 2 (.called (.enqueueDownload "session" "/srv/b" "/home/b")),
    .advance 2 {}, .advance 2 {}, .advance 2 {}, .advance 1 {},
    .advance 1 { uuid := "first" }, .advance 2 {},
    .advance 2 { uuid := "second" },
    .spawn 3 (.called (.enqueueDownload "session" "/srv/b" "/home/a")),
    .advance 3 {}]

theorem targets_exclusive_successive :
    ∃ config log request,
      service.machine.RunUnder (Program.Apart overtakes) [] initial
        successiveDownloads log config ∧
      config.threads 3 = some (.checkTarget request) ∧
      config.shared.tasks.TargetsExclusive ∧
      step 3 {} config.shared (.checkTarget request) =
        some (config.shared, .returned,
          [.refused 3 ⟨.sftpTargetBusy, "/home/a"⟩]) := by
  have executed : ∃ config log request,
      service.machine.RunWhere (Program.apartIn [0, 1, 2, 3] overtakes) []
        initial successiveDownloads log config ∧
      config.threads 3 = some (.checkTarget request) ∧
      request.target = "/home/a" ∧
      config.shared.tasks.occupied request.sessionId request.transferType
        request.target = true :=
    ⟨_, _, _, Machine.runWhere_of_executeWhere rfl, rfl, rfl, rfl⟩
  obtain ⟨config, log, request, run, checking, target, occupied⟩ := executed
  have apart := (Program.runUnder_of_apartIn run fun _ _ => rfl).1
  obtain ⟨exclusive, refused⟩ := targets_exclusive apart
  refine ⟨config, log, request, apart, checking, exclusive, ?_⟩
  rw [← target]
  exact refused 3 {} request occupied

end Sftp

end TitanSSH
