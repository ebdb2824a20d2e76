import TitanSSH.Library.GuardedRuns
import TitanSSH.Stores.SftpView

namespace TitanSSH

open Interleaving

namespace TransferQueue

/-! The window's queue of transfers beside the registry of tasks.  Between the two
are status events that have not been delivered and calls that have not been
answered. -/

/-- A call of the window that waits for its answer; what the registry has already
put into the answer stands in it. -/
inductive Call
  | snapshot (sessionId : String) (startedAt : ℤ)
  | collected (sessionId : String) (startedAt : ℤ) (tasks : List TransferTask)
  | enqueued (parentTaskId : Option String) (task : TransferTask)
  | cleared (sessionId : String)

structure State where
  registry : TaskRegistry
  issued : KeyedStore String String
  stream : List SftpTaskStatusEvent
  calls : List Call
  store : SftpState

inductive Event
  | emitted (event : SftpTaskStatusEvent)
  | delivered (event : SftpTaskStatusEvent)
  | published (store : SftpState)

/-- The events of a task are delivered in the order in which the registry changed;
progress may be reported at any time, and any call may fail. -/
inductive Action
  | enqueue (parentTaskId : Option String) (task : TransferTask)
  | change (taskId : String) (status : SftpTaskStatus)
      (error : Option AppErrorInfo)
  | clearTerminal (sessionId : String)
  | purge (sessionId : String)
  | requestSnapshot (sessionId : String) (startedAt : ℤ)
  | collect (index : ℕ)
  | respond (index : ℕ)
  | fail (index : ℕ) (error : AppErrorInfo)
  | refuseEnqueue (sessionId : String) (parentTaskId : Option String)
      (error : AppErrorInfo)
  | refuseCancel (sessionId taskId : String) (error : AppErrorInfo)
  | deliver (taskId : String)
  | progress (event : SftpProgressEvent)
  | clearSession (sessionId : String)

abbrev Outcome := State × List Event

def initial : State :=
  ⟨.empty, fun _ => none, [], [], .initial⟩

def publish (state : State) (operation : Published → Published) : Outcome :=
  ({ state with store := (operation (.unchanged state.store)).state },
    (operation (.unchanged state.store)).states.map .published)

def answered (state : State) (index : ℕ) : State :=
  { state with calls := state.calls.eraseIdx index }

def stepEnqueue (state : State) (parentTaskId : Option String)
    (task : TransferTask) : Option Outcome :=
  if task.status = .pending ∧ state.issued task.taskId = none then
    some ({ state with
      registry := state.registry.insert task.taskId task
      issued := state.issued.insert task.taskId task.sessionId
      calls := state.calls ++ [.enqueued parentTaskId task] }, [])
  else none

/-- `transition_task`; its callers name the session of the task. -/
def stepChange (state : State) (taskId : String) (status : SftpTaskStatus)
    (error : Option AppErrorInfo) : Option Outcome :=
  match state.registry.lookup taskId with
  | none => none
  | some task =>
      match state.registry.applyStatus
          ⟨taskId, task.sessionId, status, error⟩ with
      | none => none
      | some registry =>
          some ({ state with
            registry := registry
            stream := state.stream ++ [⟨taskId, task.sessionId, status, error⟩] },
            [.emitted ⟨taskId, task.sessionId, status, error⟩])

def stepCollect (state : State) (index : ℕ) : Option Outcome :=
  match state.calls[index]? with
  | some (.snapshot sessionId startedAt) =>
      some ({ state with
        calls := state.calls.set index
          (.collected sessionId startedAt (state.registry.snapshot sessionId)) },
        [])
  | _ => none

def stepRespond (state : State) (index : ℕ) : Option Outcome :=
  match state.calls[index]? with
  | some (.collected sessionId startedAt tasks) =>
      some (publish (answered state index)
        (SftpState.loadTaskSnapshot sessionId startedAt tasks))
  | some (.enqueued parentTaskId task) =>
      some (publish (answered state index)
        (SftpState.enqueued task.sessionId parentTaskId task))
  | some (.cleared sessionId) =>
      some (publish (answered state index)
        (SftpState.terminalTasksCleared sessionId))
  | _ => none

def stepFail (state : State) (index : ℕ) (error : AppErrorInfo) :
    Option Outcome :=
  match state.calls[index]? with
  | some (.snapshot sessionId _) | some (.collected sessionId _ _) =>
      some (publish (answered state index)
        (SftpState.snapshotFailed sessionId error))
  | some (.enqueued parentTaskId task) =>
      some (publish (answered state index)
        (SftpState.enqueueFailed task.sessionId parentTaskId error))
  | some (.cleared sessionId) =>
      some (publish (answered state index)
        (SftpState.clearFailed sessionId error))
  | none => none

def next? (state : State) (taskId : String) : Option SftpTaskStatusEvent :=
  state.stream.find? fun event => event.taskId == taskId

def stepDeliver (state : State) (taskId : String) : Option Outcome :=
  match next? state taskId with
  | none => none
  | some event =>
      match publish { state with
          stream := state.stream.eraseP fun event => event.taskId == taskId }
          (SftpState.applyTaskStatus event) with
      | (next, events) => some (next, .delivered event :: events)

def step (state : State) : Action → Option Outcome
  | .enqueue parentTaskId task => stepEnqueue state parentTaskId task
  | .change taskId status error => stepChange state taskId status error
  | .clearTerminal sessionId =>
      some ({ state with
        registry := state.registry.clearTerminal sessionId
        calls := state.calls ++ [.cleared sessionId] }, [])
  | .purge sessionId =>
      some ({ state with registry := state.registry.purge sessionId }, [])
  | .requestSnapshot sessionId startedAt =>
      some ({ state with
        calls := state.calls ++ [.snapshot sessionId startedAt] }, [])
  | .collect index => stepCollect state index
  | .respond index => stepRespond state index
  | .fail index error => stepFail state index error
  | .refuseEnqueue sessionId parentTaskId error =>
      some (publish state
        (SftpState.enqueueFailed sessionId parentTaskId error))
  | .refuseCancel sessionId taskId error =>
      some (publish state (SftpState.cancelFailed sessionId taskId error))
  | .deliver taskId => stepDeliver state taskId
  | .progress event => some (publish state (SftpState.applyProgress event))
  | .clearSession sessionId =>
      some (publish state (SftpState.clearSession sessionId))

def machine : Machine State Action Event where
  step := step

/-! What a log says of one task. -/

def emittedOf (taskId : String) (log : List Event) : List SftpTaskStatus :=
  log.filterMap fun
    | .emitted event =>
        if event.taskId = taskId then some event.status else none
    | _ => none

def deliveredOf (taskId : String) (log : List Event) : List SftpTaskStatus :=
  log.filterMap fun
    | .delivered event =>
        if event.taskId = taskId then some event.status else none
    | _ => none

def streamOf (taskId : String) (stream : List SftpTaskStatusEvent) :
    List SftpTaskStatus :=
  stream.filterMap fun event =>
    if event.taskId = taskId then some event.status else none

def latest (statuses : List SftpTaskStatus) : SftpTaskStatus :=
  statuses.getLastD .pending

def ended (status : Option SftpTaskStatus) : Bool :=
  status.any SftpTaskStatus.isTerminal

def finished (sessionId taskId : String) (log : List Event) : Bool :=
  log.any fun
    | .published store => ended (store.status? sessionId taskId)
    | _ => false

/-- An event of the task has come since the task was last shown. -/
def missed (sessionId taskId : String) (log : List Event) : Bool :=
  log.foldl (fun missed event =>
    match event with
    | .emitted _ => missed
    | .delivered event => missed || event.taskId == taskId
    | .published store => missed && (store.status? sessionId taskId).isNone)
    false

end TransferQueue

def SftpTaskStatus.rank : SftpTaskStatus → ℕ
  | pending => 0
  | running => 1
  | done | failed | cancelled => 2

namespace TransferQueue

/-- A status from elsewhere fits the events: nothing later has been delivered,
unless an event is still to come or has come since the task was last shown; it does
not revive a task; and it is not over ahead of such events that say it is not. -/
def fits (past : List Event) (state : State) (sessionId taskId : String)
    (status : SftpTaskStatus) : Bool :=
  (missed sessionId taskId past ||
    !(streamOf taskId state.stream).isEmpty ||
    decide ((latest (deliveredOf taskId past)).rank ≤ status.rank)) &&
  (status.isTerminal || !finished sessionId taskId past) &&
  (!status.isTerminal ||
    ((streamOf taskId state.stream).all SftpTaskStatus.isTerminal &&
      (!missed sessionId taskId past ||
        (latest (deliveredOf taskId past)).isTerminal)))

def isProtected (state : State) (sessionId : String) (startedAt : ℤ)
    (taskId : String) : Bool :=
  (state.store.task? sessionId taskId).any
    fun task => decide (startedAt ≤ task.createdAt)

/-- Snapshots and accepted transfers fit the events wherever they are taken over,
and no session is cleared. -/
def timely (past : List Event) (state : State) : Action → Bool
  | .respond index =>
      match state.calls[index]? with
      | some (.collected sessionId startedAt tasks) =>
          tasks.all fun task =>
            isProtected state sessionId startedAt task.taskId ||
              fits past state sessionId task.taskId task.status
      | some (.enqueued _ task) =>
          fits past state task.sessionId task.taskId task.status
      | _ => true
  | .clearSession _ => false
  | _ => true

end TransferQueue

end TitanSSH
