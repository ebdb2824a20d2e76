import Mathlib.Data.Finset.Basic
import TitanSSH.Core.Sftp.Tasks
import TitanSSH.Library.KeyedStore

namespace TitanSSH

/-! The store of files and their transfers of the window.  What a call does after its
`await` is a function of its own.  Every `set` publishes a state to those who watch
the store. -/

structure SftpSessionState where
  currentPath : String
  entries : List RemoteEntry
  selectedPaths : Finset String
  loading : Bool
  error : Option AppErrorInfo
  tasks : KeyedStore String TransferTask
  taskActionErrors : KeyedStore String AppErrorInfo
  dirRequestSeq : ℕ

def SftpSessionState.empty : SftpSessionState :=
  ⟨"/", [], ∅, false, none, fun _ => none, fun _ => none, 0⟩

/-- The cache of events holds one event a task, in the order of their keys. -/
structure SftpState where
  sessionStates : KeyedStore String SftpSessionState
  pendingTaskEvents : List SftpTaskStatusEvent
  closedSessions : Finset String

/-- A call of `sftp_list_dir` that waits for its answer. -/
structure DirRequest where
  sessionId : String
  path : String
  requestSeq : ℕ
  deriving DecidableEq

/-- The state, the states published on the way to it, and the directories asked for
on the way. -/
structure Published where
  state : SftpState
  states : List SftpState
  requests : List DirRequest

namespace Published

def unchanged (state : SftpState) : Published :=
  ⟨state, [], []⟩

def set (published : Published) (updater : SftpState → SftpState) : Published :=
  { published with
    state := updater published.state
    states := published.states ++ [updater published.state] }

def invoke (published : Published) (request : DirRequest) : Published :=
  { published with requests := published.requests ++ [request] }

end Published

namespace SftpState

def initial : SftpState :=
  ⟨fun _ => none, [], ∅⟩

def updateSession (state : SftpState) (sessionId : String)
    (update : SftpSessionState → SftpSessionState) : SftpState :=
  { state with
    sessionStates := state.sessionStates.insert sessionId
      (update ((state.sessionStates sessionId).getD .empty)) }

/-- What an update of the session starts from. -/
def sessionState (state : SftpState) (sessionId : String) : SftpSessionState :=
  (state.sessionStates sessionId).getD .empty

def task? (state : SftpState) (sessionId taskId : String) :
    Option TransferTask :=
  (state.sessionStates sessionId).bind fun session => session.tasks taskId

/-- The empty text counts as no id. -/
def given (parentTaskId : Option String) : Option String :=
  parentTaskId.filter fun taskId => taskId ≠ ""

def clearActionError (taskActionErrors : KeyedStore String AppErrorInfo)
    (parentTaskId : Option String) : KeyedStore String AppErrorInfo :=
  match given parentTaskId with
  | none => taskActionErrors
  | some taskId => taskActionErrors.erase taskId

def recordStartError (state : SftpState) (sessionId : String)
    (parentTaskId : Option String) (error : AppErrorInfo) : SftpState :=
  state.updateSession sessionId fun session =>
    match given parentTaskId with
    | some taskId =>
        { session with
          taskActionErrors := session.taskActionErrors.insert taskId error }
    | none => { session with error := some error }

/-- A session that is opened again is not marked as closed any more. -/
def ensureState (sessionId : String) (published : Published) : Published :=
  match published.state.sessionStates sessionId with
  | some _ => published
  | none => published.set fun state =>
      { state with
        sessionStates := state.sessionStates.insert sessionId .empty
        closedSessions := state.closedSessions.erase sessionId }

/-! `listDir`. -/

def requesting (session : SftpSessionState) : SftpSessionState :=
  { session with
    dirRequestSeq := session.dirRequestSeq + 1, loading := true, error := none }

def startDirRequest (sessionId : String) (published : Published) :
    ℕ × Published :=
  ((published.state.sessionState sessionId).dirRequestSeq + 1,
    published.set fun state => state.updateSession sessionId requesting)

def listDir (sessionId path : String) (published : Published) : Published :=
  match startDirRequest sessionId published with
  | (requestSeq, started) => started.invoke ⟨sessionId, path, requestSeq⟩

theorem state_listDir (sessionId path : String) (published : Published) :
    (listDir sessionId path published).state =
      published.state.updateSession sessionId requesting := rfl

/-- An answer that is no array counts as an empty directory. -/
def showListing (request : DirRequest) (entries : Option (List RemoteEntry))
    (session : SftpSessionState) : SftpSessionState :=
  if session.dirRequestSeq ≠ request.requestSeq then session
  else
    { session with
      entries := entries.getD []
      currentPath := request.path
      selectedPaths := ∅
      loading := false }

def listed (request : DirRequest) (entries : Option (List RemoteEntry))
    (published : Published) : Published :=
  published.set fun state =>
    state.updateSession request.sessionId (showListing request entries)

def showListError (request : DirRequest) (error : AppErrorInfo)
    (session : SftpSessionState) : SftpSessionState :=
  if session.dirRequestSeq ≠ request.requestSeq then session
  else { session with error := some error, loading := false }

def listFailed (request : DirRequest) (error : AppErrorInfo)
    (published : Published) : Published :=
  published.set fun state =>
    state.updateSession request.sessionId (showListError request error)

/-! The cache of events whose tasks are not known yet. -/

def cached? (state : SftpState) (taskId : String) : Option SftpTaskStatusEvent :=
  state.pendingTaskEvents.find? fun event => event.taskId == taskId

def cache (state : SftpState) (event : SftpTaskStatusEvent) : SftpState :=
  { state with
    pendingTaskEvents :=
      if (state.cached? event.taskId).isSome then
        state.pendingTaskEvents.map fun old =>
          if old.taskId = event.taskId then event else old
      else state.pendingTaskEvents ++ [event] }

def uncache (state : SftpState) (taskId : String) : SftpState :=
  { state with
    pendingTaskEvents := state.pendingTaskEvents.filter
      fun event => event.taskId ≠ taskId }

def reopen (state : SftpState) (sessionId : String) : SftpState :=
  { state with closedSessions := state.closedSessions.erase sessionId }

/-! `applyTaskStatus` and `applyBufferedTaskStatus`. -/

def withStatus (task : TransferTask) (event : SftpTaskStatusEvent) :
    TransferTask :=
  { task with
    status := event.status
    error := event.error
    transferredBytes :=
      if event.status = .done then task.totalBytes else task.transferredBytes }

def showStatus (state : SftpState) (event : SftpTaskStatusEvent)
    (task : TransferTask) : SftpState :=
  state.updateSession event.sessionId fun session =>
    { session with
      tasks := session.tasks.insert event.taskId (withStatus task event)
      taskActionErrors :=
        if event.status.isTerminal then
          session.taskActionErrors.erase event.taskId
        else session.taskActionErrors }

/-- A finished upload has its target directory listed again if the user was there. -/
def refreshTarget (event : SftpTaskStatusEvent) (task : TransferTask)
    (currentPath : String) (published : Published) : Published :=
  if event.status = .done ∧ task.transferType = .upload then
    let targetDir := uploadTargetDir task.remotePath task.fileName
    if currentPath = targetDir then listDir event.sessionId targetDir published
    else published
  else published

def applyTaskStatus (event : SftpTaskStatusEvent) (published : Published) :
    Published :=
  if event.sessionId ∈ published.state.closedSessions then published
  else
    match published.state.task? event.sessionId event.taskId with
    | none => published.set fun state => state.cache event
    | some task =>
        refreshTarget event task
          (published.state.sessionState event.sessionId).currentPath
          (published.set fun state => state.showStatus event task)

def applyBufferedTaskStatus (taskId : String) (published : Published) :
    Published :=
  match published.state.cached? taskId with
  | none => published
  | some event =>
      applyTaskStatus event (published.set fun state => state.uncache taskId)

/-! `loadTaskSnapshot`, `download` and `upload`. -/

/-- Local tasks that were enqueued after the request started stay as they are. -/
def merge (startedAt : ℤ) (snapshot : List TransferTask)
    (tasks : KeyedStore String TransferTask) : KeyedStore String TransferTask :=
  fun taskId =>
    match tasks taskId with
    | some task =>
        if startedAt ≤ task.createdAt then some task
        else snapshot.reverse.find? fun other => other.taskId == taskId
    | none => snapshot.reverse.find? fun other => other.taskId == taskId

def mergeSnapshot (startedAt : ℤ) (snapshot : List TransferTask)
    (session : SftpSessionState) : SftpSessionState :=
  { session with tasks := merge startedAt snapshot session.tasks }

/-- The session is open again, if it had been closed. -/
def reopenSession (sessionId : String) (published : Published) : Published :=
  if sessionId ∈ published.state.closedSessions then
    published.set fun state => state.reopen sessionId
  else published

def applyAllBuffered (sessionId : String) (published : Published) : Published :=
  (published.state.pendingTaskEvents.filter
    fun event => event.sessionId = sessionId).foldl
      (fun published event => applyBufferedTaskStatus event.taskId published)
      published

def loadTaskSnapshot (sessionId : String) (startedAt : ℤ)
    (snapshot : List TransferTask) (published : Published) : Published :=
  applyAllBuffered sessionId <| reopenSession sessionId <|
    published.set fun state =>
      state.updateSession sessionId (mergeSnapshot startedAt snapshot)

def snapshotFailed (sessionId : String) (error : AppErrorInfo)
    (published : Published) : Published :=
  published.set fun state => state.updateSession sessionId fun session =>
    { session with error := some error }

def addTask (parentTaskId : Option String) (task : TransferTask)
    (session : SftpSessionState) : SftpSessionState :=
  { session with
    tasks := session.tasks.insert task.taskId task
    taskActionErrors := clearActionError session.taskActionErrors parentTaskId }

/-- A download or an upload has been accepted. -/
def enqueued (sessionId : String) (parentTaskId : Option String)
    (task : TransferTask) (published : Published) : Published :=
  applyBufferedTaskStatus task.taskId <|
    published.set fun state =>
      state.updateSession sessionId (addTask parentTaskId task)

/-- The `await` of a download or an upload has failed. -/
def enqueueFailed (sessionId : String) (parentTaskId : Option String)
    (error : AppErrorInfo) (published : Published) : Published :=
  published.set fun state =>
    state.recordStartError sessionId parentTaskId error

/-! The other calls. -/

def cancelFailed (sessionId taskId : String) (error : AppErrorInfo)
    (published : Published) : Published :=
  published.set fun state => state.updateSession sessionId fun session =>
    { session with
      taskActionErrors := session.taskActionErrors.insert taskId error }

def isFinished (tasks : KeyedStore String TransferTask) (taskId : String) :
    Bool :=
  (tasks taskId).any fun task => task.status.isTerminal

def dropFinished (session : SftpSessionState) : SftpSessionState :=
  { session with
    tasks := fun taskId =>
      if isFinished session.tasks taskId then none else session.tasks taskId
    taskActionErrors := fun taskId =>
      if isFinished session.tasks taskId then none
      else session.taskActionErrors taskId }

def terminalTasksCleared (sessionId : String) (published : Published) :
    Published :=
  published.set fun state => state.updateSession sessionId dropFinished

def clearFailed (sessionId : String) (error : AppErrorInfo)
    (published : Published) : Published :=
  published.set fun state => state.updateSession sessionId fun session =>
    { session with error := some error }

def toggleSelect (sessionId path : String) (published : Published) : Published :=
  published.set fun state => state.updateSession sessionId fun session =>
    { session with
      selectedPaths :=
        if path ∈ session.selectedPaths then session.selectedPaths.erase path
        else insert path session.selectedPaths }

def clearSession (sessionId : String) (published : Published) : Published :=
  published.set fun state =>
    { state with
      sessionStates := state.sessionStates.erase sessionId
      pendingTaskEvents := state.pendingTaskEvents.filter
        fun event => event.sessionId ≠ sessionId
      closedSessions := insert sessionId state.closedSessions }

def showProgress (state : SftpState) (event : SftpProgressEvent)
    (task : TransferTask) : SftpState :=
  state.updateSession event.sessionId fun session =>
    { session with
      tasks := session.tasks.insert event.taskId
        { task with
          transferredBytes := event.transferredBytes
          speedBps := event.speedBps } }

def applyProgress (event : SftpProgressEvent) (published : Published) :
    Published :=
  match published.state.task? event.sessionId event.taskId with
  | none => published
  | some task =>
      if task.status.isTerminal then published
      else published.set fun state => state.showProgress event task

end SftpState

/-! Everything that can happen to the store: the calls, the answers to them, and the
events. -/

inductive SftpOperation
  | ensureState (sessionId : String)
  | listDir (sessionId path : String)
  | listed (request : DirRequest) (entries : Option (List RemoteEntry))
  | listFailed (request : DirRequest) (error : AppErrorInfo)
  | loadTaskSnapshot (sessionId : String) (startedAt : ℤ)
      (snapshot : List TransferTask)
  | snapshotFailed (sessionId : String) (error : AppErrorInfo)
  | enqueued (sessionId : String) (parentTaskId : Option String)
      (task : TransferTask)
  | enqueueFailed (sessionId : String) (parentTaskId : Option String)
      (error : AppErrorInfo)
  | cancelFailed (sessionId taskId : String) (error : AppErrorInfo)
  | terminalTasksCleared (sessionId : String)
  | clearFailed (sessionId : String) (error : AppErrorInfo)
  | toggleSelect (sessionId path : String)
  | clearSession (sessionId : String)
  | applyProgress (event : SftpProgressEvent)
  | applyTaskStatus (event : SftpTaskStatusEvent)
  | applyBufferedTaskStatus (taskId : String)

namespace SftpOperation

def perform : SftpOperation → Published → Published
  | ensureState sessionId => SftpState.ensureState sessionId
  | listDir sessionId path => SftpState.listDir sessionId path
  | listed request entries => SftpState.listed request entries
  | listFailed request error => SftpState.listFailed request error
  | loadTaskSnapshot sessionId startedAt snapshot =>
      SftpState.loadTaskSnapshot sessionId startedAt snapshot
  | snapshotFailed sessionId error => SftpState.snapshotFailed sessionId error
  | enqueued sessionId parentTaskId task =>
      SftpState.enqueued sessionId parentTaskId task
  | enqueueFailed sessionId parentTaskId error =>
      SftpState.enqueueFailed sessionId parentTaskId error
  | cancelFailed sessionId taskId error =>
      SftpState.cancelFailed sessionId taskId error
  | terminalTasksCleared sessionId => SftpState.terminalTasksCleared sessionId
  | clearFailed sessionId error => SftpState.clearFailed sessionId error
  | toggleSelect sessionId path => SftpState.toggleSelect sessionId path
  | clearSession sessionId => SftpState.clearSession sessionId
  | applyProgress event => SftpState.applyProgress event
  | applyTaskStatus event => SftpState.applyTaskStatus event
  | applyBufferedTaskStatus taskId => SftpState.applyBufferedTaskStatus taskId

end SftpOperation

end TitanSSH
