import TitanSSH.Core.Sftp.Service
import TitanSSH.Core.Transfer.PoolSteps

namespace TitanSSH

namespace Sftp

/-! Everything one step of a thread of the service can do. -/

/-- A call whose task is not in the registry yet. -/
def Phase.asking : Phase → Bool
  | .called (.enqueueDownload ..) | .called (.enqueueUpload ..) => true
  | .checkTarget _ | .statLookup _ | .stat _ => true
  | _ => false

def jobOf (shared : SftpShared) (task : TransferTask) : TransferJob :=
  ⟨(shared.arcs task.sessionId).enqueueSeq, task.taskId, task.sessionId⟩

inductive Move (thread : ℕ) (choice : Choice) (shared : SftpShared) :
    Phase → SftpShared → Phase → List Event → Prop
  | registered {sessionId : String} (fresh : sessionId ∉ shared.registered) :
      Move thread choice shared (.called (.registerSession sessionId))
        { shared with
          handles := insert sessionId shared.handles
          registered := insert sessionId shared.registered
          arcs := Function.update shared.arcs sessionId .new }
        .returned [.registered sessionId]
  | refused {phase : Phase} (error : AppError) (asking : phase.asking = true) :
      Move thread choice shared phase shared .returned [.refused thread error]
  | accepted {call : Call} {request : TransferRequest}
      (asking : Phase.asking (.called call) = true)
      (present : request.sessionId ∈ shared.handles) :
      Move thread choice shared (.called call) shared (.checkTarget request) []
  | unoccupied {request : TransferRequest}
      (free : shared.tasks.occupied request.sessionId request.transferType
        request.target = false) :
      Move thread choice shared (.checkTarget request) shared
        (afterCheck request) []
  | statFound {request : TransferRequest}
      (present : request.sessionId ∈ shared.handles) :
      Move thread choice shared (.statLookup request) shared (.stat request) []
  | sized {request : TransferRequest} (size : ℕ) :
      Move thread choice shared (.stat request) shared
        (.insertTask { request with totalBytes := size }) []
  | inserted {request : TransferRequest}
      (fresh : choice.uuid ∉ shared.issued) :
      Move thread choice shared (.insertTask request)
        { shared with
          tasks := shared.tasks.insert choice.uuid (newTask choice request)
          cancelled := Function.update shared.cancelled choice.uuid false
          issued := insert choice.uuid shared.issued }
        (.registerEntry (newTask choice request))
        [.inserted thread (newTask choice request)]
  | enqueued {task : TransferTask} :
      Move thread choice shared (.registerEntry task)
        (shared.setHandle task.sessionId
          { shared.arcs task.sessionId with
            cancelTokens := (shared.arcs task.sessionId).cancelTokens.insert
              task.taskId ⟨(shared.arcs task.sessionId).enqueueSeq⟩
            enqueueSeq := (shared.arcs task.sessionId).enqueueSeq + 1 })
        (.work (jobOf shared task)) [.enqueued thread (jobOf shared task)]
  | started {job : TransferJob} (present : job.sessionId ∈ shared.handles) :
      Move thread choice shared (.work job) shared
        (.checkout job (.checkout job.queueSeq)) []
  | orphaned {job : TransferJob} (absent : job.sessionId ∉ shared.handles) :
      Move thread choice shared (.work job) shared
        (failJob job (missingSession job.sessionId)) []
  | panicked {job : TransferJob} {seq : ℕ} {text : String}
      (panic : choice.joinError = some text) :
      Move thread choice shared (.checkout job (.connecting seq)) shared
        (failJob job ⟨.sftpTransferError, text⟩) []
  | pooled {job : TransferJob} {phase after : TransferPool.Phase}
      {pool : TransferPool} {events : List TransferPool.Event}
      (move : TransferPool.Move thread choice.pool (shared.pool job.sessionId)
        phase pool after events) :
      Move thread choice shared (.checkout job phase)
        (shared.setPool job.sessionId pool) (afterPoolStep job after)
        (events.map (.pool job.sessionId))
  | acquired {job : TransferJob} {checkout : TransferCheckout}
      (available : shared.permits ≠ 0) :
      Move thread choice shared (.permit job checkout)
        { shared with permits := shared.permits - 1 }
        (.permitted job checkout) []
  | withdrawnWaiting {job : TransferJob} {checkout : TransferCheckout}
      (cancelled : shared.cancelled job.taskId = true) :
      Move thread choice shared (.permit job checkout) shared
        (.release job checkout true (withdrawn false)) []
  | withdrawnPermitted {job : TransferJob} {checkout : TransferCheckout}
      (cancelled : shared.cancelled job.taskId = true) :
      Move thread choice shared (.permitted job checkout) shared
        (.release job checkout true (withdrawn true)) []
  | starting {job : TransferJob} {checkout : TransferCheckout}
      (kept : shared.cancelled job.taskId = false) :
      Move thread choice shared (.permitted job checkout) shared
        (.transition .registry (change job .running none)
          (.transfer job checkout)) []
  | concluded {job : TransferJob} {checkout : TransferCheckout} :
      Move thread choice shared (.transfer job checkout) shared
        (.release job checkout (conclude choice).2 (conclude choice).1) []
  | released {job : TransferJob} {checkout : TransferCheckout} {healthy : Bool}
      {conclusion : Conclusion} (present : job.sessionId ∈ shared.handles) :
      Move thread choice shared (.release job checkout healthy conclusion)
        shared (.checkin job checkout healthy conclusion) []
  | dropped {job : TransferJob} {checkout : TransferCheckout} {healthy : Bool}
      {conclusion : Conclusion} (absent : job.sessionId ∉ shared.handles) :
      Move thread choice shared (.release job checkout healthy conclusion)
        shared (concluding job conclusion) []
  | checkedIn {job : TransferJob} {checkout : TransferCheckout}
      {healthy : Bool} {conclusion : Conclusion} :
      Move thread choice shared (.checkin job checkout healthy conclusion)
        (shared.setPool job.sessionId
          ((shared.pool job.sessionId).checkin choice.pool checkout healthy))
        (concluding job conclusion)
        [.pool job.sessionId (.checkedIn thread checkout healthy)]
  | rejected {change : SftpTaskStatusEvent} {next : Continuation}
      (illegal : shared.tasks.applyStatus change = none) :
      Move thread choice shared (.transition .registry change next) shared
        (resume next) []
  | taken {change : SftpTaskStatusEvent} {next : Continuation}
      {tasks : TaskRegistry} {task : TransferTask}
      (applied : TaskRegistry.Applied shared.tasks tasks change task) :
      Move thread choice shared (.transition .registry change next)
        { shared with tasks := tasks }
        (.transition (if change.status.isTerminal then .lookup else .emit)
          change next) [.taken change]
  | tokenLookup {change : SftpTaskStatusEvent} {next : Continuation} :
      Move thread choice shared (.transition .lookup change next) shared
        (.transition
          (if change.sessionId ∈ shared.handles then .removeToken else .emit)
          change next) []
  | tokenRemoved {change : SftpTaskStatusEvent} {next : Continuation} :
      Move thread choice shared (.transition .removeToken change next)
        (shared.setTokens change.sessionId
          ((shared.arcs change.sessionId).cancelTokens.erase change.taskId))
        (.transition .emit change next) []
  | emitted {change : SftpTaskStatusEvent} {next : Continuation} :
      Move thread choice shared (.transition .emit change next) shared
        (resume next) [.emitted change]
  | permitDropped {job : TransferJob} :
      Move thread choice shared (.dropPermit job)
        { shared with permits := shared.permits + 1 } (.ended job) []
  | scanStarted {taskId : String} :
      Move thread choice shared (.called (.cancelTask taskId)) shared
        (.cancelScan taskId shared.handles) []
  | scanned {taskId : String} :
      Move thread choice shared (.cancelScan taskId ∅) shared
        (.cancelFallback taskId) []
  | scanMissed {taskId sessionId : String} {remaining : Finset String}
      (missing : (shared.arcs sessionId).cancelTokens.lookup taskId = none) :
      Move thread choice shared (.cancelScan taskId remaining) shared
        (.cancelScan taskId (remaining.erase sessionId)) []
  | scanFound {taskId sessionId : String} {remaining : Finset String}
      {entry : CancelEntry}
      (found : (shared.arcs sessionId).cancelTokens.lookup taskId =
        some entry) :
      Move thread choice shared (.cancelScan taskId remaining) shared
        (.cancelToken taskId sessionId entry.queueSeq) []
  | tokenCancelled {taskId sessionId : String} {queueSeq : ℕ} :
      Move thread choice shared (.cancelToken taskId sessionId queueSeq)
        (shared.cancelToken taskId)
        (.cancelWaiter taskId sessionId queueSeq) []
  | waiterCancelled {taskId sessionId : String} {queueSeq : ℕ} :
      Move thread choice shared (.cancelWaiter taskId sessionId queueSeq)
        (shared.setPool sessionId
          ((shared.pool sessionId).cancelWaiter queueSeq))
        .returned [.cancelReturned thread taskId (.ok ())]
  | cancelledLate {taskId : String} {task : TransferTask}
      (found : shared.tasks.lookup taskId = some task)
      (terminal : task.status.isTerminal = true) :
      Move thread choice shared (.cancelFallback taskId) shared .returned
        [.cancelReturned thread taskId (.ok ())]
  | cancelledUnknown {taskId : String} (error : AppError) :
      Move thread choice shared (.cancelFallback taskId) shared .returned
        [.cancelReturned thread taskId (.error error)]
  | cleanupStarted {sessionId : String}
      (present : sessionId ∈ shared.handles) :
      Move thread choice shared (.called (.cleanupSession sessionId))
        { shared with handles := shared.handles.erase sessionId }
        (.closePool sessionId) [.cleanupStarted thread sessionId]
  | cleanupIdle {sessionId : String} (absent : sessionId ∉ shared.handles) :
      Move thread choice shared (.called (.cleanupSession sessionId)) shared
        .returned []
  | poolClosed {sessionId : String} :
      Move thread choice shared (.closePool sessionId)
        (shared.setPool sessionId (shared.pool sessionId).close)
        (.collect sessionId) [.pool sessionId .closed]
  | collected {sessionId : String} :
      Move thread choice shared (.collect sessionId) shared
        (.cancelActive sessionId (activeTasks shared sessionId)) []
  | purged {sessionId : String} :
      Move thread choice shared (.cancelActive sessionId ∅)
        { shared with tasks := shared.tasks.purge sessionId } .returned
        [.cleanedUp thread sessionId]
  | activeCancelled {sessionId taskId : String} {remaining : Finset String}
      (member : taskId ∈ remaining) :
      Move thread choice shared (.cancelActive sessionId remaining)
        (shared.cancelToken taskId)
        (.transition .registry ⟨taskId, sessionId, .cancelled, none⟩
          (.cleanup sessionId (remaining.erase taskId))) []
  | cleared {sessionId : String} :
      Move thread choice shared (.called (.clearTerminalTasks sessionId))
        { shared with tasks := shared.tasks.clearTerminal sessionId }
        .returned []
  | reaped {sessionId : String} {phase after : TransferPool.Phase}
      {pool : TransferPool} {events : List TransferPool.Event}
      (move : TransferPool.Move thread choice.pool (shared.pool sessionId)
        phase pool after events) :
      Move thread choice shared (.reaper sessionId phase)
        (shared.setPool sessionId pool) (.reaper sessionId after)
        (events.map (.pool sessionId))

variable {thread : ℕ} {choice : Choice} {shared next : SftpShared}
variable {phase after : Phase} {events : List Event}

theorem Move.of_eq {outcome : Outcome}
    (same : outcome = (next, after, events))
    (move : Move thread choice shared phase outcome.1 outcome.2.1
      outcome.2.2) : Move thread choice shared phase next after events := by
  subst same
  exact move

theorem accept_move {call : Call} {request : TransferRequest}
    (asking : Phase.asking (.called call) = true)
    (stepped : accept thread shared request = (next, after, events)) :
    Move thread choice shared (.called call) next after events := by
  unfold accept at stepped
  split at stepped
  · next present => exact .of_eq stepped (.accepted asking present)
  · exact .of_eq stepped (.refused _ asking)

theorem stepCall_move {call : Call}
    (stepped : stepCall thread choice shared call =
      some (next, after, events)) :
    Move thread choice shared (.called call) next after events := by
  cases call with
  | registerSession sessionId =>
      simp only [stepCall, stepRegister] at stepped
      split at stepped
      · cases stepped
      · next fresh =>
          exact .of_eq (Option.some.inj stepped) (.registered fresh)
  | enqueueDownload sessionId remotePath localPath =>
      simp only [stepCall, stepEnqueueDownload, Option.some.injEq] at stepped
      split at stepped
      · exact .of_eq stepped (.refused _ rfl)
      · exact accept_move rfl stepped
  | enqueueUpload sessionId localPath remotePath =>
      simp only [stepCall, stepEnqueueUpload, Option.some.injEq] at stepped
      split at stepped
      · exact .of_eq stepped (.refused _ rfl)
      · exact accept_move rfl stepped
  | cancelTask taskId =>
      exact .of_eq (Option.some.inj stepped) .scanStarted
  | cleanupSession sessionId =>
      simp only [stepCall, stepCleanup, Option.some.injEq] at stepped
      split at stepped
      · next present =>
          exact .of_eq stepped (.cleanupStarted present)
      · next absent =>
          exact .of_eq stepped (.cleanupIdle absent)
  | clearTerminalTasks sessionId =>
      exact .of_eq (Option.some.inj stepped) .cleared

theorem stepCheckTarget_move {request : TransferRequest}
    (stepped : stepCheckTarget thread shared request =
      (next, after, events)) :
    Move thread choice shared (.checkTarget request) next after events := by
  unfold stepCheckTarget at stepped
  split at stepped
  · exact .of_eq stepped (.refused _ rfl)
  · next free =>
      exact .of_eq stepped (.unoccupied (by simpa using free))

theorem stepInsertTask_move {request : TransferRequest}
    (stepped : stepInsertTask thread choice shared request =
      some (next, after, events)) :
    Move thread choice shared (.insertTask request) next after events := by
  unfold stepInsertTask at stepped
  split at stepped
  · cases stepped
  · next fresh =>
      exact .of_eq (Option.some.inj stepped) (.inserted fresh)

theorem stepCheckout_move {job : TransferJob} {phase : TransferPool.Phase}
    (stepped : stepCheckout thread choice shared job phase =
      some (next, after, events)) :
    Move thread choice shared (.checkout job phase) next after events := by
  unfold stepCheckout at stepped
  split at stepped
  · next seq text panic =>
      exact .of_eq (Option.some.inj stepped) (.panicked panic)
  · unfold stepPool at stepped
    split at stepped
    · cases stepped
    · next pool reached logged moved =>
        exact .of_eq (Option.some.inj stepped)
          (.pooled (TransferPool.step_move moved))

theorem stepPermit_move {job : TransferJob} {checkout : TransferCheckout}
    (stepped : stepPermit choice shared job checkout =
      some (next, after, events)) :
    Move thread choice shared (.permit job checkout) next after events := by
  unfold stepPermit at stepped
  split at stepped
  · split at stepped
    · cases stepped
    · next available =>
        exact .of_eq (Option.some.inj stepped) (.acquired available)
  · split at stepped
    · next cancelled =>
        exact .of_eq (Option.some.inj stepped) (.withdrawnWaiting cancelled)
    · cases stepped

theorem stepTransition_move {turn : TransitionTurn}
    {change : SftpTaskStatusEvent} {continuation : Continuation}
    (stepped : stepTransition shared turn change continuation =
      (next, after, events)) :
    Move thread choice shared (.transition turn change continuation) next after
      events := by
  cases turn with
  | registry =>
      simp only [stepTransition] at stepped
      split at stepped
      · next illegal =>
          exact .of_eq stepped (.rejected illegal)
      · next accepted =>
          simp only [Prod.mk.injEq] at stepped
          obtain ⟨rfl, rfl, rfl⟩ := stepped
          obtain ⟨task, applied⟩ := TaskRegistry.applied accepted
          exact .taken applied
  | lookup =>
      exact .of_eq stepped .tokenLookup
  | removeToken =>
      exact .of_eq stepped .tokenRemoved
  | emit =>
      exact .of_eq stepped .emitted

theorem stepCancelScan_move {taskId : String} {remaining : Finset String}
    (stepped : stepCancelScan choice shared taskId remaining =
      some (next, after, events)) :
    Move thread choice shared (.cancelScan taskId remaining) next after
      events := by
  unfold stepCancelScan at stepped
  split at stepped
  · next empty =>
      simp only [Option.some.injEq, Prod.mk.injEq] at stepped
      obtain ⟨rfl, rfl, rfl⟩ := stepped
      subst empty
      exact .scanned
  · split at stepped
    · split at stepped
      · next missing =>
          exact .of_eq (Option.some.inj stepped) (.scanMissed missing)
      · next found =>
          exact .of_eq (Option.some.inj stepped) (.scanFound found)
    · cases stepped

theorem stepCancelFallback_move {taskId : String}
    (stepped : stepCancelFallback thread shared taskId =
      (next, after, events)) :
    Move thread choice shared (.cancelFallback taskId) next after events := by
  unfold stepCancelFallback at stepped
  split at stepped
  · next known =>
      simp only [Prod.mk.injEq] at stepped
      obtain ⟨rfl, rfl, rfl⟩ := stepped
      cases found : shared.tasks.lookup taskId with
      | none => simp [found] at known
      | some task => exact .cancelledLate found (by simpa [found] using known)
  · exact .of_eq stepped (.cancelledUnknown _)

theorem stepCancelActive_move {sessionId : String} {remaining : Finset String}
    (stepped : stepCancelActive thread choice shared sessionId remaining =
      some (next, after, events)) :
    Move thread choice shared (.cancelActive sessionId remaining) next after
      events := by
  unfold stepCancelActive at stepped
  split at stepped
  · next empty =>
      simp only [Option.some.injEq, Prod.mk.injEq] at stepped
      obtain ⟨rfl, rfl, rfl⟩ := stepped
      subst empty
      exact .purged
  · split at stepped
    · next member =>
        exact .of_eq (Option.some.inj stepped) (.activeCancelled member)
    · cases stepped

theorem step_move
    (stepped : step thread choice shared phase = some (next, after, events)) :
    Move thread choice shared phase next after events := by
  cases phase with
  | called call => exact stepCall_move stepped
  | checkTarget request => exact stepCheckTarget_move (Option.some.inj stepped)
  | statLookup request =>
      simp only [step, stepStatLookup, Option.some.injEq] at stepped
      split at stepped
      · next present =>
          exact .of_eq stepped (.statFound present)
      · exact .of_eq stepped (.refused _ rfl)
  | stat request =>
      simp only [step, stepStat, Option.some.injEq] at stepped
      split at stepped
      · exact .of_eq stepped (.refused _ rfl)
      · exact .of_eq stepped (.sized _)
  | insertTask request => exact stepInsertTask_move stepped
  | registerEntry task =>
      exact .of_eq (Option.some.inj stepped) .enqueued
  | work job =>
      simp only [step, stepWork, Option.some.injEq] at stepped
      split at stepped
      · next present =>
          exact .of_eq stepped (.started present)
      · next absent =>
          exact .of_eq stepped (.orphaned absent)
  | checkout job phase => exact stepCheckout_move stepped
  | permit job checkout => exact stepPermit_move stepped
  | permitted job checkout =>
      simp only [step, stepPermitted, Option.some.injEq] at stepped
      split at stepped
      · next cancelled =>
          exact .of_eq stepped (.withdrawnPermitted cancelled)
      · next kept =>
          exact .of_eq stepped (.starting (by simpa using kept))
  | transfer job checkout =>
      exact .of_eq (Option.some.inj stepped) .concluded
  | release job checkout healthy conclusion =>
      simp only [step, stepRelease, Option.some.injEq] at stepped
      split at stepped
      · next present =>
          exact .of_eq stepped (.released present)
      · next absent =>
          exact .of_eq stepped (.dropped absent)
  | checkin job checkout healthy conclusion =>
      exact .of_eq (Option.some.inj stepped) .checkedIn
  | transition turn change continuation =>
      exact stepTransition_move (Option.some.inj stepped)
  | dropPermit job =>
      exact .of_eq (Option.some.inj stepped) .permitDropped
  | ended job => simp [step] at stepped
  | cancelScan taskId remaining => exact stepCancelScan_move stepped
  | cancelToken taskId sessionId queueSeq =>
      exact .of_eq (Option.some.inj stepped) .tokenCancelled
  | cancelWaiter taskId sessionId queueSeq =>
      exact .of_eq (Option.some.inj stepped) .waiterCancelled
  | cancelFallback taskId =>
      exact stepCancelFallback_move (Option.some.inj stepped)
  | closePool sessionId =>
      exact .of_eq (Option.some.inj stepped) .poolClosed
  | collect sessionId =>
      exact .of_eq (Option.some.inj stepped) .collected
  | cancelActive sessionId remaining => exact stepCancelActive_move stepped
  | reaper sessionId phase =>
      simp only [step, stepPool] at stepped
      split at stepped
      · cases stepped
      · next moved =>
          exact .of_eq (Option.some.inj stepped)
            (.reaped (TransferPool.step_move moved))
  | returned => simp [step] at stepped

end Sftp

end TitanSSH
