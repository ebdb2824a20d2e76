import TitanSSH.Library.Interleaving
import TitanSSH.Stores.Monitor
import TitanSSH.Stores.Session
import TitanSSH.Stores.Sftp

namespace TitanSSH

open Interleaving

namespace Workspace

/-! The three stores of the window together, with the calls of the backend that wait
for their answers.  Answers and events come in any order. -/

/-- A call of the backend, with what is needed once it has been answered. -/
inductive Call
  | openSession (hostId : String)
  | closeSession (sessionId : String)
  | decide (answer : HostKeyAnswer) (sessionId : String)
  | taskSnapshot (sessionId : String) (startedAt : ℤ)
  | transfer (sessionId : String) (parentTaskId : Option String)
  | cancelTask (taskId sessionId : String)
  | clearTerminalTasks (sessionId : String)
  | startMonitoring (sessionId : String)
  | stopMonitoring (sessionId : String)
  | monitorStatus (sessionId : String)
  deriving DecidableEq

def Call.Reply (Usage : Type) : Call → Type
  | openSession _ => SessionInfo
  | closeSession _ => Unit
  | decide _ _ => Unit
  | taskSnapshot _ _ => List TransferTask
  | transfer _ _ => TransferTask
  | cancelTask _ _ => Unit
  | clearTerminalTasks _ => Unit
  | startMonitoring _ => TaskInfo
  | stopMonitoring _ => Unit
  | monitorStatus _ => MonitorSnapshot Usage

structure State (Usage : Type) where
  session : SessionState
  sftp : SftpState
  monitor : MonitorState Usage
  calls : List Call
  listings : List DirRequest

inductive Event
  | removed (sessionId : String)

/-- What the user does, the answers of the backend, and its events. -/
inductive Action (Usage : Type)
  | invoke (call : Call)
  | listDir (sessionId path : String)
  | ensureState (sessionId : String)
  | toggleSelect (sessionId path : String)
  | selectNetworkInterface (sessionId interfaceName : String)
  | setActiveView (activeView : Option String)
  | removeSessionProjection (sessionId : String)
  | answer (call : Call) (outcome : Except AppErrorInfo (call.Reply Usage))
      (now : ℤ)
  | listed (request : DirRequest)
      (outcome : Except AppErrorInfo (Option (List RemoteEntry)))
  | sessionStatus (payload : SessionStatusEvent)
  | sessionProgress (payload : SessionProgressEvent)
  | hostIdentityChallenge (payload : HostIdentityChallenge)
  | monitorSnapshot (snapshot : MonitorSnapshot Usage)
  | taskStatus (event : TaskStatusEvent)
  | sftpProgress (event : SftpProgressEvent)
  | sftpTaskStatus (event : SftpTaskStatusEvent)

variable {Usage : Type}

abbrev Outcome (Usage : Type) := State Usage × List Event

def initial : State Usage :=
  ⟨.empty, .initial, .empty, [], []⟩

namespace State

/-- The store of transfers goes on, asking for directories on the way. -/
def operate (state : State Usage) (operation : SftpOperation) : State Usage :=
  let next := operation.perform (.unchanged state.sftp)
  { state with
    sftp := next.state
    listings := state.listings ++ next.requests }

def perform (state : State Usage) (action : MonitorAction Usage) :
    State Usage :=
  { state with monitor := state.monitor.perform action }

def invoke (state : State Usage) (call : Call) : State Usage :=
  { state with calls := state.calls ++ [call] }

def withSession (state : State Usage) (session : SessionState) : State Usage :=
  { state with session := session }

def removeSessionProjection (state : State Usage) (sessionId : String) :
    State Usage :=
  let removed := state.session.removeSessionProjection sessionId
  ((state.withSession removed).perform (.clearSession sessionId)).operate
    (.clearSession sessionId)

/-- `openSession`, once the backend has opened the session. -/
def opened (state : State Usage) (session : SessionInfo) (now : ℤ) :
    State Usage :=
  let started := (state.withSession (state.session.openSession session)).operate
    (.listDir session.sessionId "/")
  (started.invoke (.taskSnapshot session.sessionId now)).invoke
    (.startMonitoring session.sessionId)

end State

/-- The rest of a call, once the backend has answered. -/
def continued (state : State Usage) : (call : Call) →
    Except AppErrorInfo (call.Reply Usage) → ℤ → Outcome Usage
  | .openSession _, .ok session, now => (state.opened session now, [])
  | .openSession _, .error _, _ => (state, [])
  | .closeSession sessionId, .ok _, _ =>
      (state.removeSessionProjection sessionId, [.removed sessionId])
  | .closeSession _, .error _, _ => (state, [])
  | .decide .reject sessionId, .ok _, _ =>
      (state.removeSessionProjection sessionId, [.removed sessionId])
  | .decide .reject sessionId, .error error, _ =>
      (state.withSession (state.session.rejectHostIdentity sessionId
        (.error error)), [])
  | .decide .accept sessionId, outcome, _ =>
      (state.withSession (state.session.acceptHostIdentity sessionId outcome),
        [])
  | .decide .acceptAndSave sessionId, outcome, _ =>
      (state.withSession (state.session.acceptAndSaveHostIdentity sessionId
        outcome), [])
  | .taskSnapshot sessionId startedAt, .ok tasks, _ =>
      (state.operate (.loadTaskSnapshot sessionId startedAt tasks), [])
  | .taskSnapshot sessionId _, .error error, _ =>
      (state.operate (.snapshotFailed sessionId error), [])
  | .transfer sessionId parentTaskId, .ok task, _ =>
      (state.operate (.enqueued sessionId parentTaskId task), [])
  | .transfer sessionId parentTaskId, .error error, _ =>
      (state.operate (.enqueueFailed sessionId parentTaskId error), [])
  | .cancelTask _ _, .ok _, _ => (state, [])
  | .cancelTask taskId sessionId, .error error, _ =>
      (state.operate (.cancelFailed sessionId taskId error), [])
  | .clearTerminalTasks sessionId, .ok _, _ =>
      (state.operate (.terminalTasksCleared sessionId), [])
  | .clearTerminalTasks sessionId, .error error, _ =>
      (state.operate (.clearFailed sessionId error), [])
  | .startMonitoring sessionId, outcome, _ =>
      (state.perform (.startMonitoring sessionId outcome), [])
  | .stopMonitoring sessionId, outcome, _ =>
      (state.perform (.stopMonitoring sessionId outcome), [])
  | .monitorStatus _, outcome, _ => (state.perform (.fetchSnapshot outcome), [])

/-- A decision needs a card to decide on, and to stop the monitoring there has to be
a task of the session. -/
def canInvoke (state : State Usage) : Call → Bool
  | .decide _ sessionId =>
      (state.session.hostKeyChallenges.lookup sessionId).isSome
  | .stopMonitoring sessionId =>
      (state.monitor.sessionTaskMap sessionId).any fun taskId => taskId ≠ ""
  | _ => true

def listed (request : DirRequest) :
    Except AppErrorInfo (Option (List RemoteEntry)) → SftpOperation
  | .ok entries => .listed request entries
  | .error error => .listFailed request error

def step (state : State Usage) : Action Usage → Option (Outcome Usage)
  | .invoke call =>
      if canInvoke state call then some (state.invoke call, []) else none
  | .listDir sessionId path =>
      some (state.operate (.listDir sessionId path), [])
  | .ensureState sessionId => some (state.operate (.ensureState sessionId), [])
  | .toggleSelect sessionId path =>
      some (state.operate (.toggleSelect sessionId path), [])
  | .selectNetworkInterface sessionId interfaceName =>
      some (state.perform (.selectNetworkInterface sessionId interfaceName), [])
  | .setActiveView activeView =>
      some (state.withSession (state.session.setActiveView activeView), [])
  | .removeSessionProjection sessionId =>
      some (state.removeSessionProjection sessionId, [.removed sessionId])
  | .answer call outcome now =>
      if call ∈ state.calls then
        some (continued { state with calls := state.calls.erase call } call
          outcome now)
      else none
  | .listed request outcome =>
      if request ∈ state.listings then
        some ({ state with listings := state.listings.erase request }.operate
          (listed request outcome), [])
      else none
  | .sessionStatus payload =>
      some (state.withSession (state.session.applySessionStatus payload), [])
  | .sessionProgress payload =>
      some (state.withSession (state.session.applySessionProgress payload), [])
  | .hostIdentityChallenge payload =>
      some (state.withSession
        (state.session.applyHostIdentityChallenge payload), [])
  | .monitorSnapshot snapshot =>
      some (state.perform (.applySnapshot snapshot), [])
  | .taskStatus event => some (state.perform (.applyTaskStatus event), [])
  | .sftpProgress event => some (state.operate (.applyProgress event), [])
  | .sftpTaskStatus event => some (state.operate (.applyTaskStatus event), [])

def machine : Machine (State Usage) (Action Usage) Event where
  step := step

end Workspace

end TitanSSH
