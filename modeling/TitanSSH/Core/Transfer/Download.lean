import TitanSSH.Core.Transfer.Staging

namespace TitanSSH

open FaultyFs Text

/-! A download into the local file system.  The remote side is a script of
reads; the schedule says what each step meets. -/

structure DownloadSchedule where
  poisoned : Option String := none
  cancelledFirst : Bool := false
  openRead : Option AppError := none
  create : IoTick := {}
  rounds : List CopyRound := []
  flush : IoTick := {}
  syncAll : IoTick := {}
  cancelledLast : Bool := false
  probeTarget : IoTick := {}
  openTemp : IoTick := {}
  registerTemp : Option IoError := none
  persist : IoTick := {}
  closeTemp : IoTick := {}
  probeTemp : IoTick := {}
  removeTemp : IoTick := {}

def flushAndSync (schedule : DownloadSchedule) (world : FileWorld) :
    Except (Failure IoError) Unit × FileWorld :=
  match world.settle schedule.flush with
  | (.error reason, flushed) => (.error reason, flushed)
  | (.ok (), flushed) => flushed.settle schedule.syncAll

def cleanupDownloadTemp (schedule : DownloadSchedule) (tempPath : String)
    (world : FileWorld) : Except AppError Unit × FileWorld :=
  match world.probe schedule.probeTemp tempPath with
  | (false, probed) => (.ok (), probed)
  | (true, probed) =>
      match probed.remove schedule.removeTemp tempPath with
      | (.ok (), removed) => (.ok (), removed)
      | (.error reason, kept) =>
          (.error (cleanupError tempPath (ioError reason).text), kept)

/-- `exists` is only asked under Reject. -/
def rejectsTarget (schedule : DownloadSchedule) (targetPath : String)
    (strategy : ConflictStrategy) (world : FileWorld) : Bool × FileWorld :=
  match strategy with
  | .overwrite => (false, world)
  | .reject => world.probe schedule.probeTarget targetPath

def publishError (tempPath targetPath : String) (strategy : ConflictStrategy)
    (error : IoError) : AppError :=
  if strategy = .reject ∧ error.alreadyExists then
    ⟨.sftpTargetExists, targetPath⟩
  else
    ⟨.sftpPublishError,
      "发布失败: " ++ tempPath ++ " -> " ++ targetPath ++ " (" ++ error.text ++
        ")，目标原文件未受影响"⟩

def publishDownloadFile (schedule : DownloadSchedule)
    (tempPath targetPath : String) (strategy : ConflictStrategy)
    (world : FileWorld) : Except AppError Unit × FileWorld :=
  match rejectsTarget schedule targetPath strategy world with
  | (true, probed) => (.error ⟨.sftpTargetExists, targetPath⟩, probed)
  | (false, probed) =>
      match probed.openFile schedule.openTemp tempPath with
      | (.error reason, unopened) =>
          (.error ⟨.sftpPublishError,
            "打开临时文件失败: " ++ tempPath ++ " (" ++
              (ioError reason).text ++ ")"⟩, unopened)
      | (.ok (), opened) =>
          match schedule.registerTemp with
          | some error =>
              (.error ⟨.sftpPublishError,
                "登记临时文件失败: " ++ tempPath ++ " (" ++ error.text ++ ")"⟩,
                opened)
          | none =>
              match opened.rename schedule.persist (strategy = .overwrite)
                  tempPath targetPath with
              | (.ok (), published) => (.ok (), published)
              | (.error reason, unpublished) =>
                  let error :=
                    publishError tempPath targetPath strategy (ioError reason)
                  -- a failed persist hands the guard back; closing it removes
                  match unpublished.remove schedule.closeTemp tempPath with
                  | (.ok (), closed) => (.error error, closed)
                  | (.error kept, closed) =>
                      (.error (error.withAppendedDetail
                        ("清理临时文件失败: " ++ tempPath ++ " (" ++
                          (ioError kept).text ++ ")")), closed)

/-- `run_transfer_blocking` for a download. -/
def runDownload (schedule : DownloadSchedule) (taskId : TaskId)
    (localPath : String) (conflictStrategy : Option ConflictStrategy)
    (world : FileWorld) : TransferOutcome × FileWorld :=
  match schedule.poisoned with
  | some error => (.failed ⟨.sftpChannelError, error⟩, world)
  | none =>
      let strategy := conflictStrategy.getD default
      if schedule.cancelledFirst then (.cancelled none, world)
      else
        match schedule.openRead with
        | some error => (.failed error, world)
        | none =>
            let tempPath := downloadTempPath localPath taskId
            match world.create schedule.create tempPath with
            | (.error reason, uncreated) =>
                (.failed ⟨.sftpCreateError,
                  tempPath ++ " (" ++ (ioError reason).text ++ ")"⟩, uncreated)
            | (.ok (), created) =>
                transferInto tempPath schedule.rounds (flushAndSync schedule)
                  schedule.cancelledLast (cleanupDownloadTemp schedule tempPath)
                  (publishDownloadFile schedule tempPath localPath strategy)
                  created

variable {schedule : DownloadSchedule} {temp target : String}
variable {world after : FileWorld}

theorem flushAndSync_staged
    (staged : Staged probed temp target held world)
    (flushed : flushAndSync schedule world = (result, after)) :
    Staged probed temp target held after := by
  unfold flushAndSync at flushed
  split at flushed
  · rename_i reason middle failed
    cases flushed
    exact staged.settle failed
  · rename_i middle done
    exact (staged.settle done).settle flushed

theorem cleanupDownloadTemp_cleans (schedule : DownloadSchedule)
    (temp target : String) :
    Cleans temp target (cleanupDownloadTemp schedule temp) where
  ok := by
    intro probed held world after staged cleaned
    unfold cleanupDownloadTemp at cleaned
    split at cleaned
    · rename_i middle probing
      cases cleaned
      obtain ⟨left, absent⟩ := staged.probe_staging probing
      have gone : held = none := by
        cases held with
        | none => rfl
        | some content => simp at absent
      rwa [gone] at left
    · rename_i middle probing
      split at cleaned
      · rename_i removed done
        cases cleaned
        exact (staged.probe_staging probing).1.remove_ok done
      · cases cleaned
  error := by
    intro probed held world after error staged cleaned
    unfold cleanupDownloadTemp at cleaned
    split at cleaned
    · cases cleaned
    · rename_i middle probing
      split at cleaned
      · cases cleaned
      · rename_i reason kept failed
        cases cleaned
        exact ⟨(staged.probe_staging probing).1.remove_error failed,
          cleanupError_mentions temp _⟩

theorem rejectsTarget_staged (staged : Staged none temp target held world)
    (checked : rejectsTarget schedule target strategy world =
      (found, after)) :
    ∃ probed, Staged probed temp target held after ∧
      (probed = some false → strategy = .reject) := by
  cases strategy with
  | overwrite =>
      cases checked
      exact ⟨none, staged, fun impossible => by cases impossible⟩
  | reject => exact ⟨some found, staged.probe_contested checked, fun _ => rfl⟩

theorem publishDownloadFile_error
    (staged : Staged none temp target held world)
    (failed : publishDownloadFile schedule temp target strategy world =
      (.error error, after)) :
    ∃ probed left, Staged probed temp target left after := by
  unfold publishDownloadFile at failed
  split at failed
  · rename_i middle checked
    cases failed
    obtain ⟨probed, left, _⟩ := rejectsTarget_staged staged checked
    exact ⟨probed, held, left⟩
  · rename_i middle checked
    obtain ⟨probed, ready, _⟩ := rejectsTarget_staged staged checked
    split at failed
    · rename_i reason unopened opening
      cases failed
      exact ⟨probed, held, ready.openFile opening⟩
    · rename_i opened opening
      have open' := ready.openFile opening
      split at failed
      · cases failed
        exact ⟨probed, held, open'⟩
      · split at failed
        · cases failed
        · rename_i reason unpublished persisting
          have kept := open'.rename_error persisting
          simp only at failed
          split at failed
          · rename_i closed closing
            cases failed
            exact ⟨probed, none, kept.remove_ok closing⟩
          · rename_i stuck closed closing
            cases failed
            exact ⟨probed, held, kept.remove_error closing⟩

theorem publishDownloadFile_ok
    (staged : Staged none temp target (some content) world)
    (done : publishDownloadFile schedule temp target strategy world =
      (.ok (), after)) :
    Settled strategy temp target content .done after := by
  unfold publishDownloadFile at done
  split at done
  · cases done
  · rename_i middle checked
    obtain ⟨probed, ready, rejecting⟩ := rejectsTarget_staged staged checked
    split at done
    · cases done
    · rename_i opened opening
      have open' := ready.openFile opening
      split at done
      · cases done
      · split at done
        · rename_i published persisting
          cases done
          have careful : strategy = .reject →
              decide (strategy = .overwrite) = false := by
            rintro rfl
            rfl
          exact .published (open'.rename_ok persisting) careful
            fun absent => careful (rejecting absent)
        · simp only at done
          split at done <;> cases done

theorem publishDownloadFile_publishes (schedule : DownloadSchedule)
    (strategy : ConflictStrategy) (temp target : String) :
    Publishes strategy temp target
      (publishDownloadFile schedule temp target strategy) where
  error := fun staged failed => publishDownloadFile_error staged failed
  ok := fun staged done => publishDownloadFile_ok staged done

theorem runDownload_settled (taskId : TaskId)
    (conflictStrategy : Option ConflictStrategy)
    (apart : target ≠ downloadTempPath target taskId)
    (contested : world.contested = target) (fresh : world.log = [])
    (ran : runDownload schedule taskId target conflictStrategy world =
      (outcome, after)) :
    Settled (conflictStrategy.getD default) (downloadTempPath target taskId)
      target (bytesToEnd schedule.rounds) outcome after := by
  have staged : Staged none (downloadTempPath target taskId) target
      (world.files (downloadTempPath target taskId)) world :=
    ⟨by simp [fresh], by simp [fresh], contested, apart, rfl⟩
  have idle : Idle world := by simp [Idle, fresh]
  unfold runDownload at ran
  split at ran
  · cases ran
    exact .idle (by simp) staged idle
  · simp only at ran
    split at ran
    · cases ran
      exact .idle (by simp) staged idle
    · split at ran
      · cases ran
        exact .idle (by simp) staged idle
      · split at ran
        · rename_i reason uncreated failed
          cases ran
          exact .idle (by simp) (staged.create_error failed)
            (idle.create_error failed)
        · rename_i created creating
          exact transferInto_settled
            (cleanupDownloadTemp_cleans schedule _ target)
            (publishDownloadFile_publishes schedule _ _ target)
            flushAndSync_staged (staged.create_ok creating) ran

/-- A download keeps the promises of safe publishing whatever fails, whenever
it is cancelled and however the target changes meanwhile. -/
theorem runDownload_safe (schedule : DownloadSchedule) (taskId : TaskId)
    (localPath : String) (conflictStrategy : Option ConflictStrategy)
    (files : String → Option (List UInt8)) :
    SafePublication (conflictStrategy.getD default)
      (downloadTempPath localPath taskId) localPath
      (bytesToEnd schedule.rounds)
      (runDownload schedule taskId localPath conflictStrategy
        ⟨localPath, files, []⟩).1
      (runDownload schedule taskId localPath conflictStrategy
        ⟨localPath, files, []⟩).2 :=
  (runDownload_settled taskId conflictStrategy
    (downloadTempPath_ne localPath taskId) rfl rfl rfl).safe

end TitanSSH
