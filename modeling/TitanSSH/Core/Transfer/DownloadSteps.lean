import TitanSSH.Core.Transfer.Download
import TitanSSH.Library.SharedFs

namespace TitanSSH

open FaultyFs SharedFs

/-! A download one step at a time: every call that can fail, every read and
every cancel check is a step of its own, so that others may come between. -/

namespace DownloadSteps

inductive Query
  | poisoned
  | cancelled
  | openRead
  | read
  | registerTemp

abbrev Answer : Query → Type
  | .poisoned => Option String
  | .cancelled => Bool
  | .openRead => Option AppError
  | .read => Except IoError (List UInt8)
  | .registerTemp => Option IoError

/-- Why the temporary file is cleaned up. -/
inductive Ending
  | cancelled
  | failed (primary : AppError)

def Ending.outcome : Ending → Except AppError Unit → TransferOutcome
  | .cancelled, .ok () => .cancelled none
  | .cancelled, .error error => .cancelled (some error)
  | .failed primary, cleanup => .failed (mergeCleanupFailure primary cleanup)

inductive Phase
  | locking
  | checkingFirst
  | openingRemote
  | creating
  | checking
  | reading
  | writing (byte : UInt8) (bytes : List UInt8)
  | flushing
  | syncing
  | checkingLast
  | probingTarget
  | openingTemp
  | registering
  | persisting
  | closingTemp (error : AppError)
  | probingTemp (ending : Ending)
  | removingTemp (ending : Ending)
  | ended (outcome : TransferOutcome)

/-- Only Reject looks for the target first. -/
def Phase.publishing : ConflictStrategy → Phase
  | .reject => .probingTarget
  | .overwrite => .openingTemp

end DownloadSteps

open DownloadSteps

structure Download where
  taskId : TaskId
  localPath : String
  conflictStrategy : Option ConflictStrategy := none
  phase : Phase := .locking

namespace Download

def tempPath (download : Download) : String :=
  downloadTempPath download.localPath download.taskId

def strategy (download : Download) : ConflictStrategy :=
  download.conflictStrategy.getD default

def enter (download : Download) (phase : Phase) : Download :=
  { download with phase }

/-- Task ids are UUIDs, which have no dots. -/
def starts (download : Download) : Bool :=
  match download.phase with
  | .locking => '.' ∉ download.taskId.text.toList
  | _ => false

def openError (tempPath : String) (reason : Failure IoError) : AppError :=
  ⟨.sftpPublishError,
    "打开临时文件失败: " ++ tempPath ++ " (" ++ (ioError reason).text ++ ")"⟩

def registerError (tempPath : String) (error : IoError) : AppError :=
  ⟨.sftpPublishError,
    "登记临时文件失败: " ++ tempPath ++ " (" ++ error.text ++ ")"⟩

/-- What goes wrong while the temporary file is written. -/
def writeError (reason : Failure IoError) : AppError :=
  ⟨.sftpWriteError, (ioError reason).text⟩

def act (download : Download) : Act String UInt8 IoError Answer Phase :=
  match download.phase with
  | .locking => .ask .poisoned fun
      | some error => .ended (.failed ⟨.sftpChannelError, error⟩)
      | none => .checkingFirst
  | .checkingFirst => .ask .cancelled fun
      | true => .ended (.cancelled none)
      | false => .openingRemote
  | .openingRemote => .ask .openRead fun
      | some error => .ended (.failed error)
      | none => .creating
  | .creating => .operate (.create download.tempPath) fun
      | .ok () => .checking
      | .error reason =>
          .ended (.failed ⟨.sftpCreateError,
            download.tempPath ++ " (" ++ (ioError reason).text ++ ")"⟩)
  | .checking => .ask .cancelled fun
      | true => .probingTemp .cancelled
      | false => .reading
  | .reading => .ask .read fun
      | .error error => .probingTemp (.failed ⟨.sftpReadError, error.text⟩)
      | .ok [] => .flushing
      | .ok (byte :: bytes) => .writing byte bytes
  | .writing byte bytes => .operate (.write download.tempPath (byte :: bytes)) fun
      | .ok () => .checking
      | .error reason => .probingTemp (.failed (writeError reason))
  | .flushing => .operate .settle fun
      | .ok () => .syncing
      | .error reason => .probingTemp (.failed (writeError reason))
  | .syncing => .operate .settle fun
      | .ok () => .checkingLast
      | .error reason => .probingTemp (.failed (writeError reason))
  | .checkingLast => .ask .cancelled fun
      | true => .probingTemp .cancelled
      | false => .publishing download.strategy
  | .probingTarget => .operate (.probe download.localPath) fun
      | true => .probingTemp (.failed ⟨.sftpTargetExists, download.localPath⟩)
      | false => .openingTemp
  | .openingTemp => .operate (.openFile download.tempPath) fun
      | .ok () => .registering
      | .error reason =>
          .probingTemp (.failed (openError download.tempPath reason))
  | .registering => .ask .registerTemp fun
      | some error =>
          .probingTemp (.failed (registerError download.tempPath error))
      | none => .persisting
  | .persisting =>
      .operate (.rename (download.strategy = .overwrite) download.tempPath
        download.localPath) fun
      | .ok () => .ended .done
      | .error reason =>
          .closingTemp (publishError download.tempPath download.localPath
            download.strategy (ioError reason))
  | .closingTemp error => .operate (.remove download.tempPath) fun
      | .ok () => .probingTemp (.failed error)
      | .error kept =>
          .probingTemp (.failed (error.withAppendedDetail
            ("清理临时文件失败: " ++ download.tempPath ++ " (" ++
              (ioError kept).text ++ ")")))
  | .probingTemp ending => .operate (.probe download.tempPath) fun
      | false => .ended (ending.outcome (.ok ()))
      | true => .removingTemp ending
  | .removingTemp ending => .operate (.remove download.tempPath) fun
      | .ok () => .ended (ending.outcome (.ok ()))
      | .error reason =>
          .ended (ending.outcome (.error
            (cleanupError download.tempPath (ioError reason).text)))
  | .ended _ => .finished

theorem act_stages (download : Download) {kind : Kind}
    {operation : Operation String UInt8 kind} {next : Reply IoError kind → Phase}
    (operates : download.act = .operate operation next) :
    operation.Stages download.tempPath download.localPath := by
  obtain ⟨taskId, localPath, strategy, phase⟩ := download
  cases phase <;> cases operates <;> constructor

end Download

section Directories

variable {δ : Type} (resolve : Option (List Char) → δ)

/-- What a path names: an entry of a directory, however that is reached. -/
def directoryEntry (path : String) : δ × List Char :=
  (resolve (Path.parent? path.toList),
    (Path.fileName? path.toList).getD [])

theorem directoryEntry_tempPath (download : Download) :
    (directoryEntry resolve download.tempPath).2 =
      tempName ((Path.fileName? download.localPath.toList).getD [])
        download.taskId := by
  rw [directoryEntry, Download.tempPath, fileName?_downloadTempPath]
  rfl

theorem directoryEntry_apart (download : Download) :
    directoryEntry resolve download.localPath ≠
      directoryEntry resolve download.tempPath := by
  intro same
  have names := congrArg Prod.snd same
  rw [directoryEntry_tempPath] at names
  have lengths := congrArg List.length names
  simp only [directoryEntry, tempName, List.length_append, List.length_cons]
    at lengths
  omega

/-- The downloads as clients of the local file system. -/
def downloads : Client String UInt8 IoError (δ × List Char) Answer Download where
  place := directoryEntry resolve
  starts := Download.starts
  staging := Download.tempPath
  target := Download.localPath
  act download := download.act.map download.enter
  apart := directoryEntry_apart resolve
  stages := by
    intro download kind operation next operates
    cases acts : download.act with
    | operate own goes =>
        rw [acts] at operates
        cases operates
        exact download.act_stages acts
    | _ => rw [acts] at operates; cases operates
  asking := by
    intro download query next asks answer
    cases acts : download.act with
    | ask own goes =>
        rw [acts] at asks
        cases asks
        exact ⟨rfl, rfl⟩
    | _ => rw [acts] at asks; cases asks
  operating := by
    intro download kind operation next operates reply
    cases acts : download.act with
    | operate own goes =>
        rw [acts] at operates
        cases operates
        exact ⟨rfl, rfl⟩
    | _ => rw [acts] at operates; cases operates

end Directories

/-! What is left of a download at each of its steps, as the whole of it does
that under a schedule. -/

def closeStaged (schedule : DownloadSchedule) (tempPath : String)
    (error : AppError) (world : FileWorld) : Except AppError Unit × FileWorld :=
  match world.remove schedule.closeTemp tempPath with
  | (.ok (), closed) => (.error error, closed)
  | (.error kept, closed) =>
      (.error (error.withAppendedDetail
        ("清理临时文件失败: " ++ tempPath ++ " (" ++ (ioError kept).text ++ ")")),
        closed)

def persistStaged (schedule : DownloadSchedule) (tempPath targetPath : String)
    (strategy : ConflictStrategy) (world : FileWorld) :
    Except AppError Unit × FileWorld :=
  match world.rename schedule.persist (strategy = .overwrite) tempPath
      targetPath with
  | (.ok (), published) => (.ok (), published)
  | (.error reason, unpublished) =>
      closeStaged schedule tempPath
        (publishError tempPath targetPath strategy (ioError reason)) unpublished

def registerStaged (schedule : DownloadSchedule) (tempPath targetPath : String)
    (strategy : ConflictStrategy) (world : FileWorld) :
    Except AppError Unit × FileWorld :=
  match schedule.registerTemp with
  | some error => (.error (Download.registerError tempPath error), world)
  | none => persistStaged schedule tempPath targetPath strategy world

def openStaged (schedule : DownloadSchedule) (tempPath targetPath : String)
    (strategy : ConflictStrategy) (world : FileWorld) :
    Except AppError Unit × FileWorld :=
  match world.openFile schedule.openTemp tempPath with
  | (.error reason, unopened) =>
      (.error (Download.openError tempPath reason), unopened)
  | (.ok (), opened) =>
      registerStaged schedule tempPath targetPath strategy opened

theorem publishDownloadFile_eq (schedule : DownloadSchedule)
    (tempPath targetPath : String) (strategy : ConflictStrategy)
    (world : FileWorld) :
    publishDownloadFile schedule tempPath targetPath strategy world =
      match rejectsTarget schedule targetPath strategy world with
      | (true, probed) => (.error ⟨.sftpTargetExists, targetPath⟩, probed)
      | (false, probed) =>
          openStaged schedule tempPath targetPath strategy probed := rfl

namespace Download

variable (schedule : DownloadSchedule) (download : Download)

def cleanUp (ending : Ending) (world : FileWorld) :
    TransferOutcome × FileWorld :=
  (cleanupDownloadTemp schedule download.tempPath world).map
    ending.outcome id

def removeTemp (ending : Ending) (world : FileWorld) :
    TransferOutcome × FileWorld :=
  match world.remove schedule.removeTemp download.tempPath with
  | (.ok (), removed) => (ending.outcome (.ok ()), removed)
  | (.error reason, kept) =>
      (ending.outcome (.error
        (cleanupError download.tempPath (ioError reason).text)), kept)

def finish : Except AppError Unit × FileWorld → TransferOutcome × FileWorld
  | (.error error, unpublished) =>
      download.cleanUp schedule (.failed error) unpublished
  | (.ok (), published) => (.done, published)

def afterFlush (world : FileWorld) : TransferOutcome × FileWorld :=
  if schedule.cancelledLast then download.cleanUp schedule .cancelled world
  else
    download.finish schedule (publishDownloadFile schedule download.tempPath
      download.localPath download.strategy world)

def copyFrom (rounds : List CopyRound) (world : FileWorld) :
    TransferOutcome × FileWorld :=
  transferInto download.tempPath rounds (flushAndSync schedule)
    schedule.cancelledLast (cleanupDownloadTemp schedule download.tempPath)
    (publishDownloadFile schedule download.tempPath download.localPath
      download.strategy) world

/-- The rounds still to come, the one in progress first. -/
def pending : Phase → List CopyRound
  | .reading =>
      { schedule.rounds.headD ⟨false, .ok [], {}, 0⟩ with cancelled := false } ::
        schedule.rounds.tail
  | .writing byte bytes =>
      { schedule.rounds.headD ⟨false, .ok [], {}, 0⟩ with
        cancelled := false, read := .ok (byte :: bytes) } ::
        schedule.rounds.tail
  | _ => schedule.rounds

def resume (world : FileWorld) : TransferOutcome × FileWorld :=
  match download.phase with
  | .locking =>
      runDownload schedule download.taskId download.localPath
        download.conflictStrategy world
  | .checkingFirst =>
      runDownload { schedule with poisoned := none } download.taskId
        download.localPath download.conflictStrategy world
  | .openingRemote =>
      runDownload { schedule with poisoned := none, cancelledFirst := false }
        download.taskId download.localPath download.conflictStrategy world
  | .creating =>
      runDownload { schedule with
        poisoned := none, cancelledFirst := false, openRead := none }
        download.taskId download.localPath download.conflictStrategy world
  | .checking | .reading | .writing _ _ =>
      download.copyFrom schedule (pending schedule download.phase) world
  | .flushing => download.copyFrom schedule [] world
  | .syncing =>
      match world.settle schedule.syncAll with
      | (.error reason, unflushed) =>
          download.cleanUp schedule (.failed (writeError reason)) unflushed
      | (.ok (), flushed) => download.afterFlush schedule flushed
  | .checkingLast => download.afterFlush schedule world
  | .probingTarget =>
      match world.probe schedule.probeTarget download.localPath with
      | (true, probed) =>
          download.cleanUp schedule
            (.failed ⟨.sftpTargetExists, download.localPath⟩) probed
      | (false, probed) =>
          download.finish schedule (openStaged schedule download.tempPath
            download.localPath download.strategy probed)
  | .openingTemp =>
      download.finish schedule (openStaged schedule download.tempPath
        download.localPath download.strategy world)
  | .registering =>
      download.finish schedule (registerStaged schedule download.tempPath
        download.localPath download.strategy world)
  | .persisting =>
      download.finish schedule (persistStaged schedule download.tempPath
        download.localPath download.strategy world)
  | .closingTemp error =>
      download.finish schedule
        (closeStaged schedule download.tempPath error world)
  | .probingTemp ending => download.cleanUp schedule ending world
  | .removingTemp ending => download.removeTemp schedule ending world
  | .ended outcome => (outcome, world)

/-- What a schedule still has the download receive. -/
def toReceive : Phase → List UInt8
  | .locking | .checkingFirst | .openingRemote | .creating | .checking =>
      bytesToEnd schedule.rounds
  | .reading => bytesToEnd (pending schedule .reading)
  | .writing _ _ => bytesToEnd schedule.rounds.tail
  | _ => []

section Resumption

variable {schedule : DownloadSchedule} {download : Download}
variable {world after : FileWorld} {rounds : List CopyRound}

theorem cancelWith_eq (schedule : DownloadSchedule) (download : Download)
    (world : FileWorld) :
    cancelWith (cleanupDownloadTemp schedule download.tempPath) world =
      download.cleanUp schedule .cancelled world := by
  unfold cancelWith cleanUp
  split <;> rename_i cleaned <;> rw [cleaned] <;> rfl

theorem afterFlush_eq (schedule : DownloadSchedule) (download : Download)
    (world : FileWorld) :
    (if schedule.cancelledLast then
        cancelWith (cleanupDownloadTemp schedule download.tempPath) world
      else
        match publishDownloadFile schedule download.tempPath download.localPath
            download.strategy world with
        | (.error error, unpublished) =>
            failWith (cleanupDownloadTemp schedule download.tempPath) error
              unpublished
        | (.ok (), published) => (.done, published)) =
      download.afterFlush schedule world := by
  unfold afterFlush
  rw [cancelWith_eq]
  split
  · rfl
  · split <;> rename_i publishing <;> rw [publishing] <;> rfl

theorem copyFrom_nil (schedule : DownloadSchedule) (download : Download)
    (world : FileWorld) :
    download.copyFrom schedule [] world =
      match world.settle schedule.flush with
      | (.error reason, unflushed) =>
          download.cleanUp schedule (.failed (writeError reason)) unflushed
      | (.ok (), flushed) =>
          (download.enter .syncing).resume schedule flushed := by
  simp only [copyFrom, transferInto, copyRounds, flushAndSync, resume, enter]
  cases flushing : world.settle schedule.flush with
  | mk flushed unflushed =>
      cases flushed with
      | error reason => rfl
      | ok _ =>
          cases syncing : unflushed.settle schedule.syncAll with
          | mk synced written =>
              simp only [syncing]
              cases synced with
              | error reason => rfl
              | ok _ => exact afterFlush_eq schedule download written

theorem copyFrom_cons (schedule : DownloadSchedule) (download : Download)
    (round : CopyRound) (rest : List CopyRound) (world : FileWorld) :
    download.copyFrom schedule (round :: rest) world =
      if round.cancelled then download.cleanUp schedule .cancelled world
      else
        match round.read with
        | .error error =>
            download.cleanUp schedule
              (.failed ⟨.sftpReadError, error.text⟩) world
        | .ok [] => download.copyFrom schedule [] world
        | .ok (byte :: bytes) =>
            match world.write round.write round.taken download.tempPath
                (byte :: bytes) with
            | (.error reason, written) =>
                download.cleanUp schedule (.failed (writeError reason)) written
            | (.ok (), written) => download.copyFrom schedule rest written := by
  obtain ⟨cancelled, read, write, taken⟩ := round
  cases cancelled with
  | true => exact cancelWith_eq schedule download world
  | false =>
      cases read with
      | error error => rfl
      | ok bytes =>
          cases bytes with
          | nil => rfl
          | cons byte bytes =>
              simp only [copyFrom, transferInto, copyRounds, Bool.false_eq_true,
                if_false]
              cases world.write write taken download.tempPath (byte :: bytes) with
              | mk result written => cases result <;> rfl

theorem resume_publishing (schedule : DownloadSchedule) (download : Download)
    (world : FileWorld) :
    (download.enter (.publishing download.strategy)).resume schedule world =
      download.finish schedule (publishDownloadFile schedule download.tempPath
        download.localPath download.strategy world) := by
  obtain ⟨taskId, localPath, conflictStrategy, phase⟩ := download
  simp only [publishDownloadFile_eq, enter, resume, strategy, tempPath]
  cases conflictStrategy.getD default with
  | reject =>
      simp only [Phase.publishing, rejectsTarget]
      cases world.probe schedule.probeTarget localPath with
      | mk found probed => cases found <;> rfl
  | overwrite => rfl

theorem toReceive_publishing (schedule : DownloadSchedule)
    (strategy : ConflictStrategy) :
    toReceive schedule (.publishing strategy) = [] := by
  cases strategy <;> rfl

def readAt : Observation String UInt8 Answer → Option (List UInt8)
  | .asked .read (.ok bytes) => some bytes
  | _ => none

/-- What the reads of a download have given it, in order. -/
def reads (observations : List (Observation String UInt8 Answer)) :
    List (List UInt8) :=
  observations.filterMap readAt

theorem resume_ask {query : Query} {goes : Answer query → Phase}
    (asks : download.act = .ask query goes) (answer : Answer query)
    (later : DownloadSchedule) (world : FileWorld) :
    ∃ schedule, download.resume schedule world =
        (download.enter (goes answer)).resume later world ∧
      toReceive schedule download.phase =
        (reads [.asked query answer]).flatten ++
          toReceive later (goes answer) := by
  obtain ⟨taskId, localPath, strategy, phase⟩ := download
  cases phase with
  | locking =>
      cases asks
      cases answer with
      | some error =>
          exact ⟨{ later with poisoned := some error, rounds := [] }, rfl, rfl⟩
      | none => exact ⟨{ later with poisoned := none }, rfl, rfl⟩
  | checkingFirst =>
      cases asks
      cases answer with
      | true =>
          exact ⟨{ later with cancelledFirst := true, rounds := [] }, rfl, rfl⟩
      | false => exact ⟨{ later with cancelledFirst := false }, rfl, rfl⟩
  | openingRemote =>
      cases asks
      cases answer with
      | some error =>
          exact ⟨{ later with openRead := some error, rounds := [] }, rfl, rfl⟩
      | none => exact ⟨{ later with openRead := none }, rfl, rfl⟩
  | checking =>
      cases asks
      cases answer with
      | true =>
          refine ⟨{ later with rounds := [⟨true, .ok [], {}, 0⟩] }, ?_, rfl⟩
          exact copyFrom_cons _ _ _ _ _
      | false =>
          exact ⟨{ later with rounds := pending later .reading }, rfl, rfl⟩
  | reading =>
      cases asks
      cases answer with
      | error error =>
          refine ⟨{ later with rounds := [⟨false, .error error, {}, 0⟩] },
            ?_, rfl⟩
          exact copyFrom_cons _ _ _ _ _
      | ok bytes =>
          cases bytes with
          | nil =>
              refine ⟨{ later with rounds := [⟨false, .ok [], {}, 0⟩] },
                ?_, rfl⟩
              exact copyFrom_cons _ _ _ _ _
          | cons byte bytes =>
              refine ⟨{ later with
                rounds := pending later (.writing byte bytes) }, rfl, ?_⟩
              simp [toReceive, pending, bytesToEnd, reads, readAt]
  | checkingLast =>
      cases asks
      cases answer with
      | true => exact ⟨{ later with cancelledLast := true }, rfl, rfl⟩
      | false =>
          refine ⟨{ later with cancelledLast := false }, ?_, ?_⟩
          · exact (resume_publishing later ⟨taskId, localPath, strategy, _⟩
              world).symm
          · exact (toReceive_publishing later _).symm
  | registering =>
      cases asks
      cases answer with
      | some error =>
          exact ⟨{ later with registerTemp := some error }, rfl, rfl⟩
      | none => exact ⟨{ later with registerTemp := none }, rfl, rfl⟩
  | _ => cases asks

theorem resume_operate {kind : Kind} {operation : Operation String UInt8 kind}
    {goes : Reply IoError kind → Phase} {reply : Reply IoError kind}
    {tick : IoTick} {taken : ℕ}
    (operates : download.act = .operate operation goes)
    (performed : operation.perform tick taken world = (reply, after))
    (later : DownloadSchedule) :
    ∃ schedule, download.resume schedule world =
        (download.enter (goes reply)).resume later after ∧
      toReceive schedule download.phase = toReceive later (goes reply) := by
  obtain ⟨taskId, localPath, conflictStrategy, phase⟩ := download
  cases phase with
  | creating =>
      cases operates
      have created : world.create tick (downloadTempPath localPath taskId) =
        (reply, after) := performed
      cases reply with
      | error reason =>
          refine ⟨{ later with create := tick, rounds := [] }, ?_, rfl⟩
          simp only [resume, runDownload, created]
          rfl
      | ok _ =>
          refine ⟨{ later with create := tick }, ?_, rfl⟩
          simp only [resume, runDownload, created]
          rfl
  | writing byte bytes =>
      cases operates
      have written : world.write tick taken (downloadTempPath localPath taskId)
        (byte :: bytes) = (reply, after) := performed
      cases reply with
      | error reason =>
          refine ⟨{ later with rounds :=
            [⟨false, .ok (byte :: bytes), tick, taken⟩] }, ?_, rfl⟩
          refine (copyFrom_cons _ _ _ _ _).trans ?_
          simp only [List.headD_cons, tempPath, written]
          rfl
      | ok _ =>
          refine ⟨{ later with rounds :=
            ⟨false, .ok (byte :: bytes), tick, taken⟩ :: later.rounds }, ?_, rfl⟩
          refine (copyFrom_cons _ _ _ _ _).trans ?_
          simp only [List.headD_cons, tempPath, written]
          rfl
  | flushing =>
      cases operates
      have flushed : world.settle tick = (reply, after) := performed
      refine ⟨{ later with flush := tick }, ?_, by cases reply <;> rfl⟩
      refine (copyFrom_nil _ _ _).trans ?_
      simp only [flushed]
      cases reply <;> rfl
  | syncing =>
      cases operates
      have synced : world.settle tick = (reply, after) := performed
      refine ⟨{ later with syncAll := tick }, ?_, by cases reply <;> rfl⟩
      simp only [resume, synced]
      cases reply <;> rfl
  | probingTarget =>
      cases operates
      have probed : world.probe tick localPath = (reply, after) := performed
      refine ⟨{ later with probeTarget := tick }, ?_, by cases reply <;> rfl⟩
      simp only [resume, probed]
      cases reply <;> rfl
  | openingTemp =>
      cases operates
      have opened : world.openFile tick (downloadTempPath localPath taskId) =
        (reply, after) := performed
      refine ⟨{ later with openTemp := tick }, ?_, by cases reply <;> rfl⟩
      simp only [resume, openStaged, tempPath, opened]
      cases reply <;> rfl
  | persisting =>
      cases operates
      let download : Download :=
        ⟨taskId, localPath, conflictStrategy, .persisting⟩
      have renamed : world.rename tick (download.strategy = .overwrite)
        (downloadTempPath localPath taskId) localPath = (reply, after) :=
          performed
      refine ⟨{ later with persist := tick }, ?_, by cases reply <;> rfl⟩
      simp only [download] at renamed
      simp only [resume, persistStaged, tempPath, renamed]
      cases reply <;> rfl
  | closingTemp error =>
      cases operates
      have removed : world.remove tick (downloadTempPath localPath taskId) =
        (reply, after) := performed
      refine ⟨{ later with closeTemp := tick }, ?_, by cases reply <;> rfl⟩
      simp only [resume, closeStaged, tempPath, removed]
      cases reply <;> rfl
  | probingTemp ending =>
      cases operates
      have probed : world.probe tick (downloadTempPath localPath taskId) =
        (reply, after) := performed
      refine ⟨{ later with probeTemp := tick }, ?_, by cases reply <;> rfl⟩
      simp only [resume, cleanUp, cleanupDownloadTemp, tempPath, probed]
      cases reply with
      | false => rfl
      | true =>
          simp only [enter, removeTemp, tempPath]
          cases after.remove later.removeTemp
              (downloadTempPath localPath taskId) with
          | mk removal kept => cases removal <;> rfl
  | removingTemp ending =>
      cases operates
      have removed : world.remove tick (downloadTempPath localPath taskId) =
        (reply, after) := performed
      refine ⟨{ later with removeTemp := tick }, ?_, by cases reply <;> rfl⟩
      simp only [resume, removeTemp, tempPath, removed]
      cases reply <;> rfl
  | _ => cases operates

end Resumption

section Alone

variable {δ : Type} {resolve : Option (List Char) → δ}
variable {first download next : Download} {start world after : FileWorld}
variable {meeting : Client.Meeting UInt8 IoError Answer}
variable {meetings : List (Client.Meeting UInt8 IoError Answer)}
variable {observations : List (Observation String UInt8 Answer)}

theorem alone_cases
    (stepped : (downloads resolve).alone.step (download, world) meeting =
      some ((next, after), observations)) :
    (∃ query goes, download.act = .ask query goes ∧
      next = download.enter (goes (meeting.choice.answer query)) ∧
      after = world ∧
      observations = [.asked query (meeting.choice.answer query)]) ∨
    ∃ kind, ∃ operation : Operation String UInt8 kind, ∃ goes reply,
      download.act = .operate operation goes ∧
      operation.perform meeting.tick meeting.choice.taken world =
        (reply, after) ∧
      next = download.enter (goes reply) ∧
      observations =
        publication (world.meet meeting.tick).files operation reply := by
  simp only [Client.alone, downloads] at stepped
  cases acts : download.act with
  | finished =>
      rw [acts] at stepped
      cases stepped
  | ask query goes =>
      rw [acts] at stepped
      cases stepped
      exact .inl ⟨query, goes, rfl, rfl, rfl, rfl⟩
  | operate operation goes =>
      rw [acts] at stepped
      cases stepped
      exact .inr ⟨_, operation, goes, _, rfl, rfl, rfl, rfl⟩

theorem reads_publication {kind : Kind} (files : String → Option (List UInt8))
    (operation : Operation String UInt8 kind) (reply : Reply IoError kind) :
    reads (publication files operation reply) = [] := by
  unfold publication
  split <;> rfl

theorem resume_step
    (stepped : (downloads resolve).alone.step (download, world) meeting =
      some ((next, after), observations))
    (later : DownloadSchedule) :
    ∃ schedule, download.resume schedule world = next.resume later after ∧
      toReceive schedule download.phase =
        (reads observations).flatten ++ toReceive later next.phase := by
  rcases alone_cases stepped with
    ⟨query, goes, asks, rfl, rfl, rfl⟩ |
    ⟨kind, operation, goes, reply, operates, performed, rfl, rfl⟩
  · exact resume_ask asks _ later after
  · rw [reads_publication]
    exact resume_operate operates performed later

/-- A download that has come so far step by step, and goes on as a schedule
has it, is one that does the whole under some schedule. -/
theorem resume_run
    (run : (downloads resolve).alone.Run (first, start) meetings observations
      (download, world))
    (later : DownloadSchedule) :
    ∃ schedule, first.resume schedule start = download.resume later world ∧
      toReceive schedule first.phase =
        (reads observations).flatten ++ toReceive later download.phase := by
  generalize reached : (download, world) = current at run
  induction run generalizing download world later with
  | refl =>
      cases reached
      exact ⟨later, rfl, rfl⟩
  | @snoc _ earlier middle _ _ events _ stepped induction =>
      subst reached
      obtain ⟨schedule, same, rest⟩ := resume_step stepped later
      obtain ⟨whole, before, content⟩ := induction schedule rfl
      refine ⟨whole, before.trans same, ?_⟩
      rw [content, rest, ← List.append_assoc, ← List.flatten_append]
      simp only [reads, List.filterMap_append]

theorem ended_settled (opening : first.phase = .locking)
    (fresh : start.log = []) (contested : start.contested = first.localPath)
    (run : (downloads resolve).alone.Run (first, start) meetings observations
      (download, world))
    (ended : download.phase = .ended outcome) :
    Settled first.strategy first.tempPath first.localPath
      (reads observations).flatten outcome world := by
  obtain ⟨schedule, same, content⟩ := resume_run run {}
  rw [opening, ended] at content
  have ran : runDownload schedule first.taskId first.localPath
      first.conflictStrategy start = (outcome, world) := by
    simpa only [resume, opening, ended] using same
  have settled := runDownload_settled first.taskId first.conflictStrategy
    (downloadTempPath_ne first.localPath first.taskId) contested fresh ran
  have received : bytesToEnd schedule.rounds = (reads observations).flatten := by
    simpa only [toReceive, List.append_nil] using content
  rw [received] at settled
  exact settled

end Alone

end Download

end TitanSSH
