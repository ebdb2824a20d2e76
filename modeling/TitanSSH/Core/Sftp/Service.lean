import TitanSSH.Core.Sftp.Tasks
import TitanSSH.Core.Transfer.Pool
import TitanSSH.Core.Transfer.Staging

namespace TitanSSH

/-! The file transfer service: its calls, and the worker that each accepted
transfer leaves behind, as threads over the shared registries. -/

def maxConcurrentTransfers : ℕ := 20

/-- A cancel token is named by the task it was made for. -/
structure CancelEntry where
  queueSeq : ℕ

structure SftpHandle where
  transferPool : TransferPool
  cancelTokens : FiniteMap String CancelEntry
  enqueueSeq : ℕ

def SftpHandle.new : SftpHandle :=
  ⟨.newCyclic transferIdleTimeout, .empty, 0⟩

/-- What the threads share.  A session id is registered once, so it names its
handle also for those who keep it after its removal from `handles`. -/
structure SftpShared where
  handles : Finset String
  registered : Finset String
  arcs : String → SftpHandle
  tasks : TaskRegistry
  cancelled : String → Bool
  permits : ℕ
  issued : Finset String

namespace SftpShared

def empty : SftpShared :=
  ⟨∅, ∅, fun _ => .new, .empty, fun _ => false, maxConcurrentTransfers, ∅⟩

def setHandle (shared : SftpShared) (sessionId : String) (handle : SftpHandle) :
    SftpShared :=
  { shared with arcs := Function.update shared.arcs sessionId handle }

def pool (shared : SftpShared) (sessionId : String) : TransferPool :=
  (shared.arcs sessionId).transferPool

def setPool (shared : SftpShared) (sessionId : String) (pool : TransferPool) :
    SftpShared :=
  shared.setHandle sessionId
    { shared.arcs sessionId with transferPool := pool }

def setTokens (shared : SftpShared) (sessionId : String)
    (cancelTokens : FiniteMap String CancelEntry) : SftpShared :=
  shared.setHandle sessionId
    { shared.arcs sessionId with cancelTokens := cancelTokens }

def cancelToken (shared : SftpShared) (taskId : String) : SftpShared :=
  { shared with cancelled := Function.update shared.cancelled taskId true }

end SftpShared

namespace Sftp

inductive Call
  | registerSession (sessionId : String)
  | enqueueDownload (sessionId remotePath localPath : String)
  | enqueueUpload (sessionId localPath remotePath : String)
  | cancelTask (taskId : String)
  | cleanupSession (sessionId : String)
  | clearTerminalTasks (sessionId : String)
  deriving DecidableEq

/-- A validated request; the size of a download is not known from the start. -/
structure TransferRequest where
  sessionId : String
  transferType : TransferType
  remotePath : String
  localPath : String
  fileName : String
  totalBytes : ℕ
  deriving DecidableEq

def TransferRequest.target (request : TransferRequest) : String :=
  match request.transferType with
  | .upload => request.remotePath
  | .download => request.localPath

/-- What the worker of a task knows of it. -/
structure TransferJob where
  queueSeq : ℕ
  taskId : String
  sessionId : String
  deriving DecidableEq

/-- The sections of `transition_task`. -/
inductive TransitionTurn
  | registry
  | lookup
  | removeToken
  | emit
  deriving DecidableEq

/-- Where a thread goes on after `transition_task`. -/
inductive Continuation
  | fail (job : TransferJob) (error : AppErrorInfo)
  | transfer (job : TransferJob) (checkout : TransferCheckout)
  | dropPermit (job : TransferJob)
  | ended (job : TransferJob)
  | cleanup (sessionId : String) (remaining : Finset String)

/-- How a worker that gives its connection back goes on. -/
structure Conclusion where
  status : SftpTaskStatus
  error : Option AppErrorInfo
  permitted : Bool
  deriving DecidableEq

inductive Phase
  | called (call : Call)
  | checkTarget (request : TransferRequest)
  | statLookup (request : TransferRequest)
  | stat (request : TransferRequest)
  | insertTask (request : TransferRequest)
  | registerEntry (task : TransferTask)
  | work (job : TransferJob)
  | checkout (job : TransferJob) (phase : TransferPool.Phase)
  | permit (job : TransferJob) (checkout : TransferCheckout)
  | permitted (job : TransferJob) (checkout : TransferCheckout)
  | transfer (job : TransferJob) (checkout : TransferCheckout)
  | release (job : TransferJob) (checkout : TransferCheckout) (healthy : Bool)
      (conclusion : Conclusion)
  | checkin (job : TransferJob) (checkout : TransferCheckout) (healthy : Bool)
      (conclusion : Conclusion)
  | transition (turn : TransitionTurn) (change : SftpTaskStatusEvent)
      (next : Continuation)
  | dropPermit (job : TransferJob)
  | ended (job : TransferJob)
  | cancelScan (taskId : String) (remaining : Finset String)
  | cancelToken (taskId sessionId : String) (queueSeq : ℕ)
  | cancelWaiter (taskId sessionId : String) (queueSeq : ℕ)
  | cancelFallback (taskId : String)
  | closePool (sessionId : String)
  | collect (sessionId : String)
  | cancelActive (sessionId : String) (remaining : Finset String)
  | reaper (sessionId : String) (phase : TransferPool.Phase)
  | returned

inductive Event
  | registered (sessionId : String)
  | inserted (thread : ℕ) (task : TransferTask)
  | enqueued (thread : ℕ) (job : TransferJob)
  | refused (thread : ℕ) (error : AppError)
  | taken (change : SftpTaskStatusEvent)
  | emitted (change : SftpTaskStatusEvent)
  | cancelReturned (thread : ℕ) (taskId : String)
      (result : Except AppError Unit)
  | cleanupStarted (thread : ℕ) (sessionId : String)
  | cleanedUp (thread : ℕ) (sessionId : String)
  | pool (sessionId : String) (event : TransferPool.Event)

/-- What a step cannot determine itself: the file system, the remote side, fresh
ids, the time, the order in which hash maps are walked, which branch of a
`select!` is taken, and whether a blocking task panics. -/
structure Choice where
  pool : TransferPool.Choice := {}
  pathExists : Bool := true
  localSize : ℕ := 0
  fileSize : Except AppError ℕ := .ok 0
  uuid : String := ""
  now : ℤ := 0
  sessionId : String := ""
  taskId : String := ""
  acquire : Bool := true
  joinError : Option String := none
  outcome : TransferOutcome := .done

abbrev Outcome := SftpShared × Phase × List Event

def missingSession (sessionId : String) : AppError :=
  ⟨.sftpChannelError, "session " ++ sessionId ++ " 不存在"⟩

def isConnectionFailure (error : AppError) : Bool :=
  error.kind == .sftpChannelError || error.kind == .sshConnectionError

def refuse (thread : ℕ) (shared : SftpShared) (error : AppError) : Outcome :=
  (shared, .returned, [.refused thread error])

/-! `enqueue_download` and `enqueue_upload`. -/

def fileNameOr (path : String) : String :=
  ((Path.fileName? path.toList).map String.ofList).getD path

def validateDownload (pathExists : Bool) (localPath : String) :
    Option AppError :=
  match Path.parent? localPath.toList with
  | none => some ⟨.sftpTransferError, "本地路径无效"⟩
  | some parent =>
      if !pathExists then
        some ⟨.sftpTransferError, "本地目录不存在: " ++ String.ofList parent⟩
      else if (Path.fileName? localPath.toList).isNone then
        some ⟨.sftpTransferError, "本地路径无效"⟩
      else none

def fullRemotePath (remotePath fileName : String) : String :=
  if remotePath.toList.getLast? = some '/' then remotePath ++ fileName
  else remotePath ++ "/" ++ fileName

def accept (thread : ℕ) (shared : SftpShared) (request : TransferRequest) :
    Outcome :=
  if request.sessionId ∈ shared.handles then (shared, .checkTarget request, [])
  else refuse thread shared (missingSession request.sessionId)

def stepEnqueueDownload (thread : ℕ) (choice : Choice) (shared : SftpShared)
    (sessionId remotePath localPath : String) : Outcome :=
  match validateDownload choice.pathExists localPath with
  | some error => refuse thread shared error
  | none =>
      accept thread shared
        ⟨sessionId, .download, remotePath, localPath, fileNameOr remotePath, 0⟩

def stepEnqueueUpload (thread : ℕ) (choice : Choice) (shared : SftpShared)
    (sessionId localPath remotePath : String) : Outcome :=
  if !choice.pathExists then
    refuse thread shared
      ⟨.sftpTransferError, "本地文件不存在: " ++ localPath⟩
  else
    accept thread shared
      ⟨sessionId, .upload, fullRemotePath remotePath (fileNameOr localPath),
        localPath, fileNameOr localPath, choice.localSize⟩

/-- A download asks for the size of its file first. -/
def afterCheck (request : TransferRequest) : Phase :=
  match request.transferType with
  | .download => .statLookup request
  | .upload => .insertTask request

def stepCheckTarget (thread : ℕ) (shared : SftpShared)
    (request : TransferRequest) : Outcome :=
  if shared.tasks.occupied request.sessionId request.transferType
      request.target then
    refuse thread shared ⟨.sftpTargetBusy, request.target⟩
  else (shared, afterCheck request, [])

def stepStatLookup (thread : ℕ) (shared : SftpShared)
    (request : TransferRequest) : Outcome :=
  if request.sessionId ∈ shared.handles then (shared, .stat request, [])
  else refuse thread shared (missingSession request.sessionId)

def stepStat (thread : ℕ) (choice : Choice) (shared : SftpShared)
    (request : TransferRequest) : Outcome :=
  match choice.fileSize with
  | .error error => refuse thread shared error
  | .ok size => (shared, .insertTask { request with totalBytes := size }, [])

def newTask (choice : Choice) (request : TransferRequest) : TransferTask where
  taskId := choice.uuid
  sessionId := request.sessionId
  transferType := request.transferType
  remotePath := request.remotePath
  localPath := request.localPath
  fileName := request.fileName
  totalBytes := request.totalBytes
  transferredBytes := 0
  speedBps := 0
  status := .pending
  error := none
  createdAt := choice.now

def stepInsertTask (thread : ℕ) (choice : Choice) (shared : SftpShared)
    (request : TransferRequest) : Option Outcome :=
  if choice.uuid ∈ shared.issued then none
  else
    let task := newTask choice request
    some ({ shared with
        tasks := shared.tasks.insert task.taskId task
        cancelled := Function.update shared.cancelled task.taskId false
        issued := insert task.taskId shared.issued },
      .registerEntry task, [.inserted thread task])

/-- `register_cancel_entry`; then the call returns and leaves its worker. -/
def stepRegisterEntry (thread : ℕ) (shared : SftpShared)
    (task : TransferTask) : Outcome :=
  let handle := shared.arcs task.sessionId
  let job : TransferJob := ⟨handle.enqueueSeq, task.taskId, task.sessionId⟩
  (shared.setHandle task.sessionId
      { handle with
        cancelTokens := handle.cancelTokens.insert task.taskId
          ⟨handle.enqueueSeq⟩
        enqueueSeq := handle.enqueueSeq + 1 },
    .work job, [.enqueued thread job])

/-! The worker. -/

def change (job : TransferJob) (status : SftpTaskStatus)
    (error : Option AppErrorInfo) : SftpTaskStatusEvent :=
  ⟨job.taskId, job.sessionId, status, error⟩

def failJob (job : TransferJob) (error : AppError) : Phase :=
  .transition .registry (change job .running none) (.fail job error.toInfo)

/-- Where the worker goes on after a checkout that failed. -/
def afterFailure (job : TransferJob) : CheckoutError → Phase
  | .cancelled =>
      .transition .registry (change job .cancelled none) (.ended job)
  | .closed => .ended job
  | .connect error => failJob job error

def stepWork (shared : SftpShared) (job : TransferJob) : Outcome :=
  if job.sessionId ∈ shared.handles then
    (shared, .checkout job (.checkout job.queueSeq), [])
  else (shared, failJob job (missingSession job.sessionId), [])

def afterPoolStep (job : TransferJob) : TransferPool.Phase → Phase
  | .holding held => .permit job held
  | .failed error => afterFailure job error
  | phase => .checkout job phase

def stepPool (thread : ℕ) (choice : Choice) (shared : SftpShared)
    (sessionId : String) (phase : TransferPool.Phase)
    (next : TransferPool.Phase → Phase) : Option Outcome :=
  match TransferPool.step thread choice.pool (shared.pool sessionId) phase with
  | none => none
  | some (pool, after, events) =>
      some (shared.setPool sessionId pool, next after,
        events.map (.pool sessionId))

/-- A panic of the connector is the one way in which the blocking task of a
checkout fails to return. -/
def stepCheckout (thread : ℕ) (choice : Choice) (shared : SftpShared)
    (job : TransferJob) (phase : TransferPool.Phase) : Option Outcome :=
  match phase, choice.joinError with
  | .connecting _, some text =>
      some (shared, failJob job ⟨.sftpTransferError, text⟩, [])
  | _, _ =>
      stepPool thread choice shared job.sessionId phase (afterPoolStep job)

def withdrawn (permitted : Bool) : Conclusion :=
  ⟨.cancelled, none, permitted⟩

def stepPermit (choice : Choice) (shared : SftpShared) (job : TransferJob)
    (checkout : TransferCheckout) : Option Outcome :=
  if choice.acquire then
    if shared.permits = 0 then none
    else
      some ({ shared with permits := shared.permits - 1 },
        .permitted job checkout, [])
  else if shared.cancelled job.taskId then
    some (shared, .release job checkout true (withdrawn false), [])
  else none

def stepPermitted (shared : SftpShared) (job : TransferJob)
    (checkout : TransferCheckout) : Outcome :=
  if shared.cancelled job.taskId then
    (shared, .release job checkout true (withdrawn true), [])
  else
    (shared, .transition .registry (change job .running none)
      (.transfer job checkout), [])

/-- How a transfer ends, and whether its connection is still of use. -/
def conclude (choice : Choice) : Conclusion × Bool :=
  match choice.joinError with
  | some text =>
      (⟨.failed, some (AppError.toInfo ⟨.sftpTransferError, text⟩), true⟩,
        false)
  | none =>
      match choice.outcome with
      | .done => (⟨.done, none, true⟩, true)
      | .cancelled cleanup =>
          (⟨.cancelled, cleanup.map AppError.toInfo, true⟩, true)
      | .failed error =>
          (⟨.failed, some error.toInfo, true⟩, !isConnectionFailure error)

def stepTransfer (choice : Choice) (shared : SftpShared) (job : TransferJob)
    (checkout : TransferCheckout) : Outcome :=
  (shared, .release job checkout (conclude choice).2 (conclude choice).1, [])

def concluding (job : TransferJob) (conclusion : Conclusion) : Phase :=
  .transition .registry (change job conclusion.status conclusion.error)
    (if conclusion.permitted then .dropPermit job else .ended job)

/-- `release_transfer_connection`: a session that is gone keeps nothing. -/
def stepRelease (shared : SftpShared) (job : TransferJob)
    (checkout : TransferCheckout) (healthy : Bool)
    (conclusion : Conclusion) : Outcome :=
  if job.sessionId ∈ shared.handles then
    (shared, .checkin job checkout healthy conclusion, [])
  else (shared, concluding job conclusion, [])

def stepCheckin (thread : ℕ) (choice : Choice) (shared : SftpShared)
    (job : TransferJob) (checkout : TransferCheckout) (healthy : Bool)
    (conclusion : Conclusion) : Outcome :=
  (shared.setPool job.sessionId
      ((shared.pool job.sessionId).checkin choice.pool checkout healthy),
    concluding job conclusion,
    [.pool job.sessionId (.checkedIn thread checkout healthy)])

/-! `transition_task`. -/

def resume : Continuation → Phase
  | .fail job error =>
      .transition .registry (change job .failed (some error)) (.ended job)
  | .transfer job checkout => .transfer job checkout
  | .dropPermit job => .dropPermit job
  | .ended job => .ended job
  | .cleanup sessionId remaining => .cancelActive sessionId remaining

def stepTransition (shared : SftpShared) (turn : TransitionTurn)
    (change : SftpTaskStatusEvent) (next : Continuation) : Outcome :=
  match turn with
  | .registry =>
      match shared.tasks.applyStatus change with
      | none => (shared, resume next, [])
      | some tasks =>
          ({ shared with tasks := tasks },
            .transition (if change.status.isTerminal then .lookup else .emit)
              change next, [.taken change])
  | .lookup =>
      (shared, .transition
        (if change.sessionId ∈ shared.handles then .removeToken else .emit)
        change next, [])
  | .removeToken =>
      (shared.setTokens change.sessionId
          ((shared.arcs change.sessionId).cancelTokens.erase change.taskId),
        .transition .emit change next, [])
  | .emit => (shared, resume next, [.emitted change])

/-! `cancel_task`. -/

def stepCancelScan (choice : Choice) (shared : SftpShared) (taskId : String)
    (remaining : Finset String) : Option Outcome :=
  if remaining = ∅ then some (shared, .cancelFallback taskId, [])
  else if choice.sessionId ∈ remaining then
    match (shared.arcs choice.sessionId).cancelTokens.lookup taskId with
    | none =>
        some (shared, .cancelScan taskId (remaining.erase choice.sessionId), [])
    | some entry =>
        some (shared, .cancelToken taskId choice.sessionId entry.queueSeq, [])
  else none

def stepCancelWaiter (thread : ℕ) (shared : SftpShared)
    (taskId sessionId : String) (queueSeq : ℕ) : Outcome :=
  (shared.setPool sessionId ((shared.pool sessionId).cancelWaiter queueSeq),
    .returned, [.cancelReturned thread taskId (.ok ())])

def stepCancelFallback (thread : ℕ) (shared : SftpShared) (taskId : String) :
    Outcome :=
  if (shared.tasks.lookup taskId).any (·.status.isTerminal) then
    (shared, .returned, [.cancelReturned thread taskId (.ok ())])
  else
    (shared, .returned,
      [.cancelReturned thread taskId (.error ⟨.sftpTaskNotFound, taskId⟩)])

/-! `cleanup_session`. -/

def stepCleanup (thread : ℕ) (shared : SftpShared) (sessionId : String) :
    Outcome :=
  if sessionId ∈ shared.handles then
    ({ shared with handles := shared.handles.erase sessionId },
      .closePool sessionId, [.cleanupStarted thread sessionId])
  else (shared, .returned, [])

def stepClosePool (shared : SftpShared) (sessionId : String) : Outcome :=
  (shared.setPool sessionId (shared.pool sessionId).close, .collect sessionId,
    [.pool sessionId .closed])

/-- The tasks of a handle that the registry still has under way. -/
def activeTasks (shared : SftpShared) (sessionId : String) : Finset String :=
  (shared.arcs sessionId).cancelTokens.keysWhere fun taskId _ =>
    (shared.tasks.lookup taskId).any (!·.status.isTerminal)

def stepCollect (shared : SftpShared) (sessionId : String) : Outcome :=
  (shared, .cancelActive sessionId (activeTasks shared sessionId), [])

def stepCancelActive (thread : ℕ) (choice : Choice) (shared : SftpShared)
    (sessionId : String) (remaining : Finset String) : Option Outcome :=
  if remaining = ∅ then
    some ({ shared with tasks := shared.tasks.purge sessionId }, .returned,
      [.cleanedUp thread sessionId])
  else if choice.taskId ∈ remaining then
    some (shared.cancelToken choice.taskId,
      .transition .registry ⟨choice.taskId, sessionId, .cancelled, none⟩
        (.cleanup sessionId (remaining.erase choice.taskId)), [])
  else none

def stepRegister (shared : SftpShared) (sessionId : String) : Option Outcome :=
  if sessionId ∈ shared.registered then none
  else
    some ({ shared with
        handles := insert sessionId shared.handles
        registered := insert sessionId shared.registered
        arcs := Function.update shared.arcs sessionId .new },
      .returned, [.registered sessionId])

def stepCall (thread : ℕ) (choice : Choice) (shared : SftpShared) :
    Call → Option Outcome
  | .registerSession sessionId => stepRegister shared sessionId
  | .enqueueDownload sessionId remotePath localPath =>
      some (stepEnqueueDownload thread choice shared sessionId remotePath
        localPath)
  | .enqueueUpload sessionId localPath remotePath =>
      some (stepEnqueueUpload thread choice shared sessionId localPath
        remotePath)
  | .cancelTask taskId =>
      some (shared, .cancelScan taskId shared.handles, [])
  | .cleanupSession sessionId => some (stepCleanup thread shared sessionId)
  | .clearTerminalTasks sessionId =>
      some ({ shared with tasks := shared.tasks.clearTerminal sessionId },
        .returned, [])

def step (thread : ℕ) (choice : Choice) (shared : SftpShared) :
    Phase → Option Outcome
  | .called call => stepCall thread choice shared call
  | .checkTarget request => some (stepCheckTarget thread shared request)
  | .statLookup request => some (stepStatLookup thread shared request)
  | .stat request => some (stepStat thread choice shared request)
  | .insertTask request => stepInsertTask thread choice shared request
  | .registerEntry task => some (stepRegisterEntry thread shared task)
  | .work job => some (stepWork shared job)
  | .checkout job phase => stepCheckout thread choice shared job phase
  | .permit job checkout => stepPermit choice shared job checkout
  | .permitted job checkout => some (stepPermitted shared job checkout)
  | .transfer job checkout => some (stepTransfer choice shared job checkout)
  | .release job checkout healthy conclusion =>
      some (stepRelease shared job checkout healthy conclusion)
  | .checkin job checkout healthy conclusion =>
      some (stepCheckin thread choice shared job checkout healthy conclusion)
  | .transition turn change next =>
      some (stepTransition shared turn change next)
  | .dropPermit job =>
      some ({ shared with permits := shared.permits + 1 }, .ended job, [])
  | .ended _ => none
  | .cancelScan taskId remaining =>
      stepCancelScan choice shared taskId remaining
  | .cancelToken taskId sessionId queueSeq =>
      some (shared.cancelToken taskId,
        .cancelWaiter taskId sessionId queueSeq, [])
  | .cancelWaiter taskId sessionId queueSeq =>
      some (stepCancelWaiter thread shared taskId sessionId queueSeq)
  | .cancelFallback taskId => some (stepCancelFallback thread shared taskId)
  | .closePool sessionId => some (stepClosePool shared sessionId)
  | .collect sessionId => some (stepCollect shared sessionId)
  | .cancelActive sessionId remaining =>
      stepCancelActive thread choice shared sessionId remaining
  | .reaper sessionId phase =>
      stepPool thread choice shared sessionId phase (.reaper sessionId)
  | .returned => none

/-- The calls of the service and the reaper threads of its pools. -/
def service : Interleaving.Program SftpShared Phase Choice Event where
  admits
    | .called _ => true
    | .reaper _ .reaperSpawned => true
    | _ => false
  opened _ _ := []
  step := step

def initial : Interleaving.Config SftpShared Phase :=
  ⟨.empty, fun _ => none⟩

end Sftp

end TitanSSH
