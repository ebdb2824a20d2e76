import TitanSSH.Library.FiniteMap
import TitanSSH.Library.Interleaving
import TitanSSH.Models.Host
import TitanSSH.Models.Monitor

namespace TitanSSH

open Interleaving

/-! The monitoring service: the calls that start and stop it, the teardown of a
session, and the worker that each started task leaves behind, as threads over the
shared registries. -/

structure MonitorTaskHandle where
  taskInfo : TaskInfo
  deriving DecidableEq

/-- What the threads share.  A task id is issued once, so it names the shutdown
flag of its task also for the worker that keeps it after the task is removed. -/
structure MonitorShared (Usage : Type) where
  sessions : FiniteMap String HostConfig
  opened : Finset String
  tasks : FiniteMap String MonitorTaskHandle
  snapshots : FiniteMap String (MonitorSnapshot Usage)
  shutdown : String → Bool
  issued : Finset String

namespace Monitor

variable {Usage : Type}

inductive Call
  | openSession (host : HostConfig)
  | startMonitoring (sessionId : String)
  | stopMonitoring (taskId : String)
  | closeSession (sessionId : String)

structure MonitorJob where
  sessionId : String
  taskId : String

/-- Where the worker of a task stands; a transition names what comes after it. -/
inductive MonitorTurn (Usage : Type)
  | transit (status : TaskStatus) (message : Option String)
      (next : MonitorTurn Usage)
  | emit (status : TaskStatus) (message : Option String)
      (next : MonitorTurn Usage)
  | entering
  | connecting
  | checking
  | collecting
  | storing (snapshot : MonitorSnapshot Usage)
  | pushing (snapshot : MonitorSnapshot Usage)
  | resting
  | ended

inductive Phase (Usage : Type)
  | called (call : Call)
  | verifying (sessionId : String) (host : HostConfig)
  | loading (sessionId : String) (host : HostConfig)
  | registering (sessionId : String)
  | announcing (job : MonitorJob)
  | working (job : MonitorJob) (turn : MonitorTurn Usage)
  | stoppingTasks (sessionId : String)
  | droppingSnapshot (sessionId : String)
  | closing (sessionId : String)
  | returned

inductive Event (Usage : Type)
  | opened (sessionId : String)
  | registered (taskId sessionId : String)
  | refused (thread : ℕ) (error : AppError)
  | taskStatus (event : TaskStatusEvent)
  | stored (snapshot : MonitorSnapshot Usage)
  | pushed (snapshot : MonitorSnapshot Usage)
  | tasksStopped (sessionId : String)
  | snapshotDropped (sessionId : String)
  | closed (sessionId : String)
  deriving DecidableEq

/-- What a step cannot determine itself: fresh ids, the time, the secure store, the
remote side, and whether an event can be emitted. -/
structure Choice (Usage : Type) where
  uuid : String := ""
  now : ℤ := 0
  credential : String → Except AppError String := fun _ => .ok ""
  connectError : Option AppError := none
  collected : Except AppError (MonitorSnapshot Usage) := .error ⟨.ioError, ""⟩
  pushError : Option String := none

abbrev Outcome (Usage : Type) :=
  MonitorShared Usage × Phase Usage × List (Event Usage)

def empty : MonitorShared Usage :=
  ⟨.empty, ∅, .empty, .empty, fun _ => false, ∅⟩

def sessionNotFound (sessionId : String) : AppError :=
  ⟨.sessionNotFound, sessionId⟩

def refuse (thread : ℕ) (shared : MonitorShared Usage) (error : AppError) :
    Outcome Usage :=
  (shared, .returned, [.refused thread error])

/-! `start_monitoring`: the command looks the session up twice, the service then
loads the credentials and registers the task. -/

def stepStart (thread : ℕ) (shared : MonitorShared Usage) (sessionId : String) :
    Outcome Usage :=
  match shared.sessions.lookup sessionId with
  | some host => (shared, .verifying sessionId host, [])
  | none => refuse thread shared (sessionNotFound sessionId)

def stepVerifying (thread : ℕ) (shared : MonitorShared Usage)
    (sessionId : String) (host : HostConfig) : Outcome Usage :=
  match shared.sessions.lookup sessionId with
  | some _ => (shared, .loading sessionId host, [])
  | none => refuse thread shared (sessionNotFound sessionId)

def stepLoading (thread : ℕ) (choice : Choice Usage)
    (shared : MonitorShared Usage) (sessionId : String) (host : HostConfig) :
    Outcome Usage :=
  match host.credentials choice.credential with
  | .ok _ => (shared, .registering sessionId, [])
  | .error error => refuse thread shared error

def newTask (choice : Choice Usage) (sessionId : String) : MonitorTaskHandle :=
  ⟨{ taskId := choice.uuid
     taskType := "monitor"
     sessionId := some sessionId
     status := .pending
     createdAt := choice.now }⟩

def register (shared : MonitorShared Usage) (choice : Choice Usage)
    (sessionId : String) : MonitorShared Usage :=
  { shared with
    tasks := shared.tasks.insert choice.uuid (newTask choice sessionId)
    shutdown := Function.update shared.shutdown choice.uuid false
    issued := insert choice.uuid shared.issued }

def stepRegistering (choice : Choice Usage) (shared : MonitorShared Usage)
    (sessionId : String) : Option (Outcome Usage) :=
  if choice.uuid ∈ shared.issued then none
  else
    some (register shared choice sessionId,
      .announcing ⟨sessionId, choice.uuid⟩,
      [.registered choice.uuid sessionId])

def taskStatusEvent (taskId : String) (status : TaskStatus)
    (message : Option String) : TaskStatusEvent :=
  ⟨taskId, status, message.map fun detail => ⟨"MonitorError", some detail⟩⟩

/-! `transition_task_status` and the worker. -/

def isLegal : TaskStatus → TaskStatus → Bool
  | .pending, .running | .running, .done | .running, .failed => true
  | _, _ => false

/-- The registry after the transition, unless it is refused. -/
def transitionTaskStatus (tasks : FiniteMap String MonitorTaskHandle)
    (taskId : String) (status : TaskStatus) :
    Option (FiniteMap String MonitorTaskHandle) :=
  match tasks.lookup taskId with
  | none => none
  | some handle =>
      if isLegal handle.taskInfo.status status then
        some (tasks.insert taskId
          ⟨{ handle.taskInfo with status := status }⟩)
      else none

/-- The worker ends: nothing happens if its task has failed or is gone. -/
def finish : MonitorTurn Usage :=
  .transit .done none .ended

def collectFailed (error : AppError) : MonitorTurn Usage :=
  .transit .failed (some ("监控采集失败: " ++ error.toString)) finish

def pushFailed (error : String) : MonitorTurn Usage :=
  .transit .failed (some ("监控快照推送失败: " ++ error)) .resting

def stepTransit (shared : MonitorShared Usage) (job : MonitorJob)
    (status : TaskStatus) (message : Option String) (next : MonitorTurn Usage) :
    MonitorShared Usage × MonitorTurn Usage × List (Event Usage) :=
  match transitionTaskStatus shared.tasks job.taskId status with
  | some tasks =>
      ({ shared with tasks := tasks }, .emit status message next, [])
  | none => (shared, next, [])

def store (shared : MonitorShared Usage) (sessionId : String)
    (snapshot : MonitorSnapshot Usage) : MonitorShared Usage :=
  { shared with snapshots := shared.snapshots.insert sessionId snapshot }

def stepWorking (choice : Choice Usage) (shared : MonitorShared Usage)
    (job : MonitorJob) :
    MonitorTurn Usage →
      Option (MonitorShared Usage × MonitorTurn Usage × List (Event Usage))
  | .transit status message next =>
      some (stepTransit shared job status message next)
  | .emit status message next =>
      some (shared, next,
        [.taskStatus (taskStatusEvent job.taskId status message)])
  | .entering =>
      some (shared, if shared.shutdown job.taskId then finish else .connecting,
        [])
  | .connecting =>
      match choice.connectError with
      | none => some (shared, .checking, [])
      | some error => some (shared, collectFailed error, [])
  | .checking =>
      some (shared, if shared.shutdown job.taskId then finish else .collecting,
        [])
  | .collecting =>
      match choice.collected with
      | .ok snapshot =>
          some (shared, .storing { snapshot with sessionId := job.sessionId },
            [])
      | .error error => some (shared, collectFailed error, [])
  | .storing snapshot =>
      some (store shared job.sessionId snapshot, .pushing snapshot,
        [.stored snapshot])
  | .pushing snapshot =>
      match choice.pushError with
      | none => some (shared, .resting, [.pushed snapshot])
      | some error => some (shared, pushFailed error, [])
  | .resting => some (shared, .checking, [])
  | .ended => none

/-! Stopping one task, and closing a session with all of its tasks. -/

def stopMonitoring (shared : MonitorShared Usage) (taskId : String) :
    MonitorShared Usage :=
  match shared.tasks.lookup taskId with
  | none => shared
  | some _ =>
      { shared with
        tasks := shared.tasks.erase taskId
        shutdown := Function.update shared.shutdown taskId true }

def isOf (sessionId : String) (handle : MonitorTaskHandle) : Bool :=
  handle.taskInfo.sessionId == some sessionId

/-- `stop_session` up to the first of its two locks. -/
def stopTasks (shared : MonitorShared Usage) (sessionId : String) :
    MonitorShared Usage :=
  { shared with
    tasks := shared.tasks.retain fun _ handle => !isOf sessionId handle
    shutdown := fun taskId =>
      (shared.tasks.lookup taskId).any (isOf sessionId) ||
        shared.shutdown taskId }

def dropSnapshot (shared : MonitorShared Usage) (sessionId : String) :
    MonitorShared Usage :=
  { shared with snapshots := shared.snapshots.erase sessionId }

def getMonitorStatus (shared : MonitorShared Usage) (sessionId : String) :
    Option (MonitorSnapshot Usage) :=
  shared.snapshots.lookup sessionId

def stepClose (thread : ℕ) (shared : MonitorShared Usage) (sessionId : String) :
    Outcome Usage :=
  match shared.sessions.lookup sessionId with
  | some _ =>
      ({ shared with sessions := shared.sessions.erase sessionId },
        .stoppingTasks sessionId, [])
  | none => refuse thread shared (sessionNotFound sessionId)

def stepOpen (choice : Choice Usage) (shared : MonitorShared Usage)
    (host : HostConfig) : Option (Outcome Usage) :=
  if choice.uuid ∈ shared.opened then none
  else
    some ({ shared with
      sessions := shared.sessions.insert choice.uuid host
      opened := insert choice.uuid shared.opened },
      .returned, [.opened choice.uuid])

def stepCall (thread : ℕ) (choice : Choice Usage)
    (shared : MonitorShared Usage) : Call → Option (Outcome Usage)
  | .openSession host => stepOpen choice shared host
  | .startMonitoring sessionId => some (stepStart thread shared sessionId)
  | .stopMonitoring taskId =>
      some (stopMonitoring shared taskId, .returned, [])
  | .closeSession sessionId => some (stepClose thread shared sessionId)

def step (thread : ℕ) (choice : Choice Usage) (shared : MonitorShared Usage) :
    Phase Usage → Option (Outcome Usage)
  | .called call => stepCall thread choice shared call
  | .verifying sessionId host =>
      some (stepVerifying thread shared sessionId host)
  | .loading sessionId host =>
      some (stepLoading thread choice shared sessionId host)
  | .registering sessionId => stepRegistering choice shared sessionId
  | .announcing job =>
      some (shared, .working job (.transit .running none .entering),
        [.taskStatus (taskStatusEvent job.taskId .pending none)])
  | .working job turn =>
      match stepWorking choice shared job turn with
      | some (next, after, events) => some (next, .working job after, events)
      | none => none
  | .stoppingTasks sessionId =>
      some (stopTasks shared sessionId, .droppingSnapshot sessionId,
        [.tasksStopped sessionId])
  | .droppingSnapshot sessionId =>
      some (dropSnapshot shared sessionId, .closing sessionId,
        [.snapshotDropped sessionId])
  | .closing sessionId => some (shared, .returned, [.closed sessionId])
  | .returned => none

def program (Usage : Type) :
    Program (MonitorShared Usage) (Phase Usage) (Choice Usage) (Event Usage) where
  admits
    | .called _ => true
    | _ => false
  opened _ _ := []
  step := step

def initial : Config (MonitorShared Usage) (Phase Usage) :=
  ⟨empty, fun _ => none⟩

end Monitor

end TitanSSH
