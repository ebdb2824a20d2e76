import TitanSSH.Core.Transfer.Staging

namespace TitanSSH

open FaultyFs Text

/-! An upload through the SFTP operations: a rename without overwrite refuses
an existing target, one with overwrite replaces it atomically or fails, and no
operation that fails changes anything. -/

abbrev SftpTick := Tick AppError UInt8

structure UploadSchedule where
  poisoned : Option String := none
  cancelledFirst : Bool := false
  openLocal : Option IoError := none
  create : SftpTick := {}
  rounds : List CopyRound := []
  flush : IoTick := {}
  cancelledLast : Bool := false
  fileSize : SftpTick := {}
  rename : SftpTick := {}
  unlink : SftpTick := {}

def sftpError (path : String) : Failure AppError → AppError
  | .missing => ⟨.sftpPathNotFound, path⟩
  | .alreadyExists => ⟨.sftpTargetExists, path⟩
  | .fault error => error

def cleanupUploadTemp (schedule : UploadSchedule) (tempPath : String)
    (world : FileWorld) : Except AppError Unit × FileWorld :=
  match world.remove schedule.unlink tempPath with
  | (.ok (), removed) => (.ok (), removed)
  | (.error reason, kept) =>
      (.error (cleanupError tempPath (sftpError tempPath reason).toString), kept)

/-- Only an error that says the path is not there counts as absence. -/
def targetExists (schedule : UploadSchedule) (targetPath : String)
    (world : FileWorld) : Except AppError Bool × FileWorld :=
  match world.stat schedule.fileSize targetPath with
  | (.ok _, probed) => (.ok true, probed)
  | (.error reason, probed) =>
      if (sftpError targetPath reason).kind = .sftpPathNotFound then
        (.ok false, probed)
      else (.error (sftpError targetPath reason), probed)

def publishUploadFile (schedule : UploadSchedule)
    (tempPath targetPath : String) (strategy : ConflictStrategy)
    (world : FileWorld) : Except AppError Unit × FileWorld :=
  match targetExists schedule targetPath world with
  | (.error error, probed) => (.error error, probed)
  | (.ok found, probed) =>
      if found ∧ strategy = .reject then
        (.error ⟨.sftpTargetExists, targetPath⟩, probed)
      else
        match probed.rename schedule.rename found tempPath targetPath with
        | (.ok (), published) => (.ok (), published)
        | (.error reason, unpublished) =>
            (.error (sftpError targetPath reason), unpublished)

/-- `run_transfer_blocking` for an upload. -/
def runUpload (schedule : UploadSchedule) (taskId : TaskId)
    (remotePath : String) (conflictStrategy : Option ConflictStrategy)
    (world : FileWorld) : TransferOutcome × FileWorld :=
  match schedule.poisoned with
  | some error => (.failed ⟨.sftpChannelError, error⟩, world)
  | none =>
      let strategy := conflictStrategy.getD default
      if schedule.cancelledFirst then (.cancelled none, world)
      else
        match schedule.openLocal with
        | some error => (.failed ⟨.sftpOpenError, error.text⟩, world)
        | none =>
            let tempPath := uploadTempPath remotePath taskId
            match world.create schedule.create tempPath with
            | (.error reason, uncreated) =>
                (.failed (sftpError tempPath reason), uncreated)
            | (.ok (), created) =>
                transferInto tempPath schedule.rounds
                  (·.settle schedule.flush) schedule.cancelledLast
                  (cleanupUploadTemp schedule tempPath)
                  (publishUploadFile schedule tempPath remotePath strategy)
                  created

variable {schedule : UploadSchedule} {temp target : String}
variable {world after : FileWorld}

theorem cleanupUploadTemp_cleans (schedule : UploadSchedule)
    (temp target : String) :
    Cleans temp target (cleanupUploadTemp schedule temp) where
  ok := by
    intro probed held world after staged cleaned
    unfold cleanupUploadTemp at cleaned
    split at cleaned
    · rename_i removed done
      cases cleaned
      exact staged.remove_ok done
    · cases cleaned
  error := by
    intro probed held world after error staged cleaned
    unfold cleanupUploadTemp at cleaned
    split at cleaned
    · cases cleaned
    · rename_i reason kept failed
      cases cleaned
      exact ⟨staged.remove_error failed, cleanupError_mentions temp _⟩

theorem targetExists_staged (staged : Staged none temp target held world)
    (checked : targetExists schedule target world = (result, after)) :
    ∃ probed, Staged probed temp target held after ∧
      (result = .ok true → probed = some true) := by
  unfold targetExists at checked
  split at checked
  · rename_i size probed answered
    cases checked
    exact ⟨some true, staged.stat answered, fun _ => rfl⟩
  · rename_i reason probed answered
    split at checked
    · cases checked
      exact ⟨_, staged.stat answered, fun impossible => by cases impossible⟩
    · cases checked
      exact ⟨_, staged.stat answered, fun impossible => by cases impossible⟩

theorem publishUploadFile_publishes (schedule : UploadSchedule)
    (strategy : ConflictStrategy) (temp target : String) :
    Publishes strategy temp target
      (publishUploadFile schedule temp target strategy) where
  error := by
    intro held world after error staged failed
    unfold publishUploadFile at failed
    split at failed
    · rename_i reason middle checked
      cases failed
      obtain ⟨probed, left, _⟩ := targetExists_staged staged checked
      exact ⟨probed, held, left⟩
    · rename_i found middle checked
      obtain ⟨probed, ready, _⟩ := targetExists_staged staged checked
      split at failed
      · cases failed
        exact ⟨probed, held, ready⟩
      · split at failed
        · cases failed
        · rename_i reason unpublished moved
          cases failed
          exact ⟨probed, held, ready.rename_error moved⟩
  ok := by
    intro content world after staged done
    unfold publishUploadFile at done
    split at done
    · cases done
    · rename_i found middle checked
      obtain ⟨probed, ready, known⟩ := targetExists_staged staged checked
      split at done
      · cases done
      · rename_i allowed
        split at done
        · rename_i published moved
          cases done
          refine .published (ready.rename_ok moved) ?_ ?_
          · intro rejecting
            cases found with
            | false => rfl
            | true => exact absurd ⟨rfl, rejecting⟩ allowed
          · intro absent
            cases found with
            | false => rfl
            | true =>
                rw [known rfl] at absent
                cases absent
        · cases done

theorem runUpload_settled (taskId : TaskId)
    (conflictStrategy : Option ConflictStrategy)
    (apart : target ≠ uploadTempPath target taskId)
    (contested : world.contested = target) (fresh : world.log = [])
    (ran : runUpload schedule taskId target conflictStrategy world =
      (outcome, after)) :
    Settled (conflictStrategy.getD default) (uploadTempPath target taskId)
      target (bytesToEnd schedule.rounds) outcome after := by
  have staged : Staged none (uploadTempPath target taskId) target
      (world.files (uploadTempPath target taskId)) world :=
    ⟨by simp [fresh], by simp [fresh], contested, apart, rfl⟩
  have idle : Idle world := by simp [Idle, fresh]
  unfold runUpload at ran
  split at ran
  · cases ran
    exact .idle (by simp) staged idle
  · simp only at ran
    split at ran
    · cases ran
      exact .idle (by simp) staged idle
    · split at ran
      · cases ran
        exact .idle (by simp) staged idle
      · split at ran
        · rename_i reason uncreated failed
          cases ran
          exact .idle (by simp) (staged.create_error failed)
            (idle.create_error failed)
        · rename_i created creating
          exact transferInto_settled
            (cleanupUploadTemp_cleans schedule _ target)
            (publishUploadFile_publishes schedule _ _ target)
            (fun staged settled => staged.settle settled)
            (staged.create_ok creating) ran

/-- An upload keeps the promises of safe publishing whatever fails, whenever it
is cancelled and however other clients change the target meanwhile. -/
theorem runUpload_safe (schedule : UploadSchedule) (taskId : TaskId)
    (remotePath : String) (conflictStrategy : Option ConflictStrategy)
    (files : String → Option (List UInt8)) :
    SafePublication (conflictStrategy.getD default)
      (uploadTempPath remotePath taskId) remotePath
      (bytesToEnd schedule.rounds)
      (runUpload schedule taskId remotePath conflictStrategy
        ⟨remotePath, files, []⟩).1
      (runUpload schedule taskId remotePath conflictStrategy
        ⟨remotePath, files, []⟩).2 :=
  (runUpload_settled taskId conflictStrategy
    (downloadTempPath_ne remotePath taskId) rfl rfl rfl).safe

end TitanSSH
