import TitanSSH.Library.KeyedStore
import TitanSSH.Library.Window
import TitanSSH.Models.Monitor

namespace TitanSSH

/-! The monitoring store of the window.  What a call does after its `await` is a
function of its own. -/

structure NetworkTrendSample where
  timestamp : ℤ
  receiveBytesPerSecond : Option ℕ
  transmitBytesPerSecond : Option ℕ
  deriving DecidableEq

/-- A task with the last error that an event told of it. -/
structure MonitorTask where
  taskInfo : TaskInfo
  error : Option AppErrorInfo
  deriving DecidableEq

structure MonitorState (Usage : Type) where
  snapshots : KeyedStore String (MonitorSnapshot Usage)
  selectedInterfaces : KeyedStore String String
  networkTrends : KeyedStore String (List NetworkTrendSample)
  tasks : KeyedStore String MonitorTask
  sessionTaskMap : KeyedStore String String
  pendingTaskEvents : KeyedStore String TaskStatusEvent

def trendWindowMillis : ℤ := 60000

variable {Usage : Type}

namespace MonitorSnapshot

def interface? (snapshot : MonitorSnapshot Usage) (name : String) :
    Option NetworkInterface :=
  if snapshot.network.available then
    snapshot.network.interfaces.find? (·.name == name)
  else none

def sample (snapshot : MonitorSnapshot Usage) (selected : String) :
    NetworkTrendSample where
  timestamp := snapshot.timestamp
  receiveBytesPerSecond :=
    (snapshot.interface? selected).bind (·.receiveBytesPerSecond)
  transmitBytesPerSecond :=
    (snapshot.interface? selected).bind (·.transmitBytesPerSecond)

def offers (snapshot : MonitorSnapshot Usage) (name : String) : Bool :=
  snapshot.network.interfaces.any (·.name == name)

end MonitorSnapshot

namespace MonitorState

def empty : MonitorState Usage :=
  ⟨fun _ => none, fun _ => none, fun _ => none, fun _ => none, fun _ => none,
    fun _ => none⟩

/-- The selection and the trend that a snapshot leaves, before its own sample. -/
def reselect (snapshot : MonitorSnapshot Usage) (selected : Option String)
    (trend : Option (List NetworkTrendSample)) :
    Option String × Option (List NetworkTrendSample) :=
  if snapshot.network.available then
    match snapshot.network.interfaces with
    | [] => (none, none)
    | first :: _ =>
        let nextSelected :=
          if selected.any snapshot.offers then selected else some first.name
        (nextSelected, if nextSelected = selected then trend else none)
  else (selected, trend)

def isRecent (sample latest : NetworkTrendSample) : Bool :=
  decide (latest.timestamp - trendWindowMillis ≤ sample.timestamp)

/-- The empty text counts as no selection. -/
def extendTrend (snapshot : MonitorSnapshot Usage) (selected : Option String)
    (trend : Option (List NetworkTrendSample)) :
    Option (List NetworkTrendSample) :=
  match selected.filter (· ≠ "") with
  | none => trend
  | some name =>
      some (Window.push isRecent (trend.getD []) (snapshot.sample name))

def applySnapshot (snapshot : MonitorSnapshot Usage)
    (state : MonitorState Usage) : MonitorState Usage :=
  let (selected, trend) := reselect snapshot
    (state.selectedInterfaces snapshot.sessionId)
    (state.networkTrends snapshot.sessionId)
  { state with
    snapshots := state.snapshots.insert snapshot.sessionId snapshot
    selectedInterfaces := Function.update state.selectedInterfaces
      snapshot.sessionId selected
    networkTrends := Function.update state.networkTrends snapshot.sessionId
      (extendTrend snapshot selected trend) }

def selectNetworkInterface (sessionId interfaceName : String)
    (state : MonitorState Usage) : MonitorState Usage :=
  match state.snapshots sessionId with
  | none => state
  | some snapshot =>
      if !snapshot.network.available || !snapshot.offers interfaceName then
        state
      else if state.selectedInterfaces sessionId = some interfaceName then state
      else
        { state with
          selectedInterfaces :=
            state.selectedInterfaces.insert sessionId interfaceName
          networkTrends := state.networkTrends.erase sessionId }

def applyTaskStatus (event : TaskStatusEvent) (state : MonitorState Usage) :
    MonitorState Usage :=
  match state.tasks event.taskId with
  | none =>
      { state with
        pendingTaskEvents := state.pendingTaskEvents.insert event.taskId event }
  | some task =>
      { state with
        tasks := state.tasks.insert event.taskId
          ⟨{ task.taskInfo with status := event.status }, event.error⟩ }

/-- `get_monitor_status` has been answered. -/
def fetchSnapshot (response : Except AppErrorInfo (MonitorSnapshot Usage))
    (state : MonitorState Usage) : MonitorState Usage :=
  match response with
  | .error _ => state
  | .ok snapshot => state.applySnapshot snapshot

def startMonitoring (sessionId : String) (response : Except AppErrorInfo TaskInfo)
    (state : MonitorState Usage) : MonitorState Usage :=
  match response with
  | .error _ => state
  | .ok task =>
      { state with
        tasks := state.tasks.insert task.taskId
          (match state.pendingTaskEvents task.taskId with
            | none => ⟨task, none⟩
            | some buffered =>
                ⟨{ task with status := buffered.status }, buffered.error⟩)
        sessionTaskMap := state.sessionTaskMap.insert sessionId task.taskId
        pendingTaskEvents := state.pendingTaskEvents.erase task.taskId }

def stopMonitoring (sessionId : String) (response : Except AppErrorInfo Unit)
    (state : MonitorState Usage) : MonitorState Usage :=
  match response with
  | .error _ => state
  | .ok () =>
      { state with sessionTaskMap := state.sessionTaskMap.erase sessionId }

def clearSession (sessionId : String) (state : MonitorState Usage) :
    MonitorState Usage :=
  { state with
    sessionTaskMap := state.sessionTaskMap.erase sessionId
    snapshots := state.snapshots.erase sessionId
    tasks :=
      match (state.sessionTaskMap sessionId).filter (· ≠ "") with
      | none => state.tasks
      | some taskId => state.tasks.erase taskId
    selectedInterfaces := state.selectedInterfaces.erase sessionId
    networkTrends := state.networkTrends.erase sessionId }

end MonitorState

/-- What can happen to the store: its calls, what their `await`s give, and the
events of the service. -/
inductive MonitorAction (Usage : Type)
  | applySnapshot (snapshot : MonitorSnapshot Usage)
  | selectNetworkInterface (sessionId interfaceName : String)
  | applyTaskStatus (event : TaskStatusEvent)
  | fetchSnapshot (response : Except AppErrorInfo (MonitorSnapshot Usage))
  | startMonitoring (sessionId : String) (response : Except AppErrorInfo TaskInfo)
  | stopMonitoring (sessionId : String) (response : Except AppErrorInfo Unit)
  | clearSession (sessionId : String)

namespace MonitorState

def perform (state : MonitorState Usage) :
    MonitorAction Usage → MonitorState Usage
  | .applySnapshot snapshot => state.applySnapshot snapshot
  | .selectNetworkInterface sessionId interfaceName =>
      state.selectNetworkInterface sessionId interfaceName
  | .applyTaskStatus event => state.applyTaskStatus event
  | .fetchSnapshot response => state.fetchSnapshot response
  | .startMonitoring sessionId response =>
      state.startMonitoring sessionId response
  | .stopMonitoring sessionId response => state.stopMonitoring sessionId response
  | .clearSession sessionId => state.clearSession sessionId

def performAll (actions : List (MonitorAction Usage)) : MonitorState Usage :=
  actions.foldl perform empty

end MonitorState

end TitanSSH
