import TitanSSH.Errors.AppError
import TitanSSH.Library.FaultyFs
import TitanSSH.Library.Path
import TitanSSH.Models.Sftp

namespace TitanSSH

open FaultyFs Text

/-! What a download and an upload share: the temporary file beside the target,
the copy loop into it, and how a failed cleanup reaches the outcome. -/

/-- Task ids are UUIDs; all that matters of one is that it names a file. -/
structure TaskId where
  text : String
  noSeparator : '/' ∉ text.toList

/-- An I/O error, told apart by its kind and shown by its text. -/
structure IoError where
  alreadyExists : Bool := false
  text : String
  deriving DecidableEq, Repr

inductive TransferOutcome
  | done
  | cancelled (cleanup : Option AppError)
  | failed (error : AppError)
  deriving DecidableEq, Repr

abbrev FileWorld := World String UInt8

abbrev IoTick := Tick IoError UInt8

def ioError : Failure IoError → IoError
  | .missing => ⟨false, "No such file or directory (os error 2)"⟩
  | .alreadyExists => ⟨true, "File exists (os error 17)"⟩
  | .fault error => error

def tempName (fileName : List Char) (taskId : TaskId) : List Char :=
  '.' :: fileName ++ '.' :: taskId.text.toList ++ ".part".toList

def downloadTempPath (localPath : String) (taskId : TaskId) : String :=
  let name := tempName ((Path.fileName? localPath.toList).getD []) taskId
  match Path.parent? localPath.toList with
  | none => String.ofList name
  | some parent =>
      if parent.isEmpty then String.ofList name
      else String.ofList (Path.join parent name)

def uploadTempPath (remotePath : String) (taskId : TaskId) : String :=
  downloadTempPath remotePath taskId

def cleanupError (tempPath error : String) : AppError :=
  ⟨.sftpTransferError,
    "清理临时文件失败: " ++ tempPath ++ " (" ++ error ++ ")"⟩

def mergeCleanupFailure (primary : AppError) (cleanup : Except AppError Unit) :
    AppError :=
  match cleanup with
  | .ok () => primary
  | .error cleanupError => primary.withAppendedDetail cleanupError.toString

/-- One round of the copy loop: the cancel check, the read of a chunk, and its
write, which a failure may cut short. -/
structure CopyRound where
  cancelled : Bool := false
  read : Except IoError (List UInt8)
  write : IoTick := {}
  taken : ℕ := 0

inductive CopyEnd
  | endOfFile
  | cancelled
  | failed (primary : AppError)

/-- The loop over the reads of the source, which end with an empty one. -/
def copyRounds (tempPath : String) :
    List CopyRound → FileWorld → CopyEnd × FileWorld
  | [], world => (.endOfFile, world)
  | round :: rest, world =>
      if round.cancelled then (.cancelled, world)
      else
        match round.read with
        | .error error => (.failed ⟨.sftpReadError, error.text⟩, world)
        | .ok [] => (.endOfFile, world)
        | .ok (byte :: bytes) =>
            match world.write round.write round.taken tempPath
                (byte :: bytes) with
            | (.error reason, written) =>
                (.failed ⟨.sftpWriteError, (ioError reason).text⟩, written)
            | (.ok (), written) => copyRounds tempPath rest written

/-- What the source holds from its opening to its end, as the reads give it. -/
def bytesToEnd : List CopyRound → List UInt8
  | [] => []
  | round :: rest =>
      match round.read with
      | .error _ => []
      | .ok [] => []
      | .ok (byte :: bytes) => byte :: bytes ++ bytesToEnd rest

def cancelWith (cleanup : FileWorld → Except AppError Unit × FileWorld)
    (world : FileWorld) : TransferOutcome × FileWorld :=
  match cleanup world with
  | (.ok (), cleaned) => (.cancelled none, cleaned)
  | (.error error, cleaned) => (.cancelled (some error), cleaned)

def failWith (cleanup : FileWorld → Except AppError Unit × FileWorld)
    (primary : AppError) (world : FileWorld) : TransferOutcome × FileWorld :=
  match cleanup world with
  | (outcome, cleaned) =>
      (.failed (mergeCleanupFailure primary outcome), cleaned)

/-- From the created temporary file to the outcome, as both directions do it:
copy, flush, check for a cancellation once more, publish. -/
def transferInto (tempPath : String) (rounds : List CopyRound)
    (flush : FileWorld → Except (Failure IoError) Unit × FileWorld)
    (cancelledLast : Bool)
    (cleanup publish : FileWorld → Except AppError Unit × FileWorld)
    (world : FileWorld) : TransferOutcome × FileWorld :=
  match copyRounds tempPath rounds world with
  | (.cancelled, stopped) => cancelWith cleanup stopped
  | (.failed primary, stopped) => failWith cleanup primary stopped
  | (.endOfFile, copied) =>
      match flush copied with
      | (.error reason, unflushed) =>
          failWith cleanup ⟨.sftpWriteError, (ioError reason).text⟩ unflushed
      | (.ok (), flushed) =>
          if cancelledLast then cancelWith cleanup flushed
          else
            match publish flushed with
            | (.error error, unpublished) => failWith cleanup error unpublished
            | (.ok (), published) => (.done, published)

theorem tempName_proper (clean : '/' ∉ fileName) (taskId : TaskId) :
    Path.ProperName (tempName fileName taskId) where
  noSeparator := by
    have idClean := taskId.noSeparator
    simp [tempName, clean, idClean]
  component := by simp [tempName, Path.isComponent]
  notParent := by
    intro equal
    have lengths := congrArg List.length equal
    simp [tempName] at lengths
    omega

theorem fileName?_downloadTempPath (localPath : String) (taskId : TaskId) :
    Path.fileName? (downloadTempPath localPath taskId).toList =
      some (tempName ((Path.fileName? localPath.toList).getD []) taskId) := by
  have clean : '/' ∉ (Path.fileName? localPath.toList).getD [] := by
    cases named : Path.fileName? localPath.toList with
    | none => simp
    | some name => exact Path.fileName?_noSeparator named
  have proper := tempName_proper clean taskId
  unfold downloadTempPath
  split
  · rw [String.toList_ofList]
    exact Path.fileName?_name proper
  · split
    · rw [String.toList_ofList]
      exact Path.fileName?_name proper
    · rw [String.toList_ofList]
      exact Path.fileName?_join proper _

theorem downloadTempPath_ne (localPath : String) (taskId : TaskId) :
    localPath ≠ downloadTempPath localPath taskId := by
  intro equal
  have named := fileName?_downloadTempPath localPath taskId
  rw [← equal] at named
  have lengths := congrArg (fun name => (name.getD []).length) named
  simp [tempName] at lengths
  omega

/-- The error of the outcome names the path. -/
def TransferOutcome.Reports (path : String) : TransferOutcome → Prop
  | .cancelled (some error) => Mentions error.detail path
  | .failed error => Mentions error.detail path
  | _ => False

/-- What safe publishing promises of a finished transfer. -/
structure SafePublication (strategy : ConflictStrategy) (temp target : String)
    (content : List UInt8) (outcome : TransferOutcome) (world : FileWorld) :
    Prop where
  unpublished : outcome ≠ .done →
    (∀ event ∈ world.log, ¬event.Touches target) ∧
      world.files target = world.leftByOthers target
  published : outcome = .done → ∃ earlier replaced,
    world.log = earlier ++ [.renamed temp target replaced] ∧
      (∀ event ∈ earlier, ¬event.Touches target) ∧
      world.files target = some content
  rejects : strategy = .reject → ∀ source replaced,
    .renamed source target replaced ∈ world.log → replaced = none
  confirmed : .probed target false ∈ world.log → ∀ source replaced,
    .renamed source target replaced ∈ world.log → replaced = none
  ownPaths : ∀ event ∈ world.log, ∀ path, event.Touches path →
    path = temp ∨ ∃ replaced, event = .renamed temp target replaced
  accounted : outcome ≠ .done → .created temp ∈ world.log →
    world.files temp = none ∨ outcome.Reports temp

/-- The ways in which a transfer ends. -/
inductive Settled (strategy : ConflictStrategy) (temp target : String)
    (content : List UInt8) : TransferOutcome → FileWorld → Prop
  | idle (unfinished : outcome ≠ .done)
      (staged : Staged probed temp target held world) (idle : Idle world) :
      Settled strategy temp target content outcome world
  | accounted (unfinished : outcome ≠ .done)
      (staged : Staged probed temp target held world)
      (accounted : held = none ∨ outcome.Reports temp) :
      Settled strategy temp target content outcome world
  | published
      (published : Published overwrite probed temp target content world)
      (rejects : strategy = .reject → overwrite = false)
      (confirmed : probed = some false → overwrite = false) :
      Settled strategy temp target content .done world

theorem staged_untouched
    (staged : Staged probed temp target held (world : FileWorld)) :
    ∀ event ∈ world.log, ¬event.Touches target :=
  fun event member touched =>
    staged.apart (staged.within event member target touched)

theorem staged_unrenamed
    (staged : Staged probed temp target held (world : FileWorld))
    (source : String) (replaced : Option (List UInt8)) :
    .renamed source target replaced ∉ world.log :=
  fun member => staged_untouched staged _ member (.inr rfl)

theorem SafePublication.of_staged
    (staged : Staged probed temp target held world)
    (unfinished : outcome ≠ .done)
    (accounted : .created temp ∈ world.log →
      held = none ∨ outcome.Reports temp) :
    SafePublication strategy temp target content outcome world where
  unpublished := fun _ =>
    ⟨staged_untouched staged, files_of_untouched (staged_untouched staged)⟩
  published := fun done => absurd done unfinished
  rejects := fun _ source replaced member =>
    absurd member (staged_unrenamed staged source replaced)
  confirmed := fun _ source replaced member =>
    absurd member (staged_unrenamed staged source replaced)
  ownPaths := fun event member path touched =>
    .inl (staged.within event member path touched)
  accounted := by
    intro _ created
    rw [staged.held]
    exact accounted created

theorem Settled.safe (settled : Settled strategy temp target content outcome
    world) : SafePublication strategy temp target content outcome world := by
  cases settled with
  | idle unfinished staged idle =>
      exact .of_staged staged unfinished fun created =>
        absurd rfl (idle _ created temp)
  | accounted unfinished staged accounted =>
      exact .of_staged staged unfinished fun _ => accounted
  | @published overwrite probed _ published rejects confirmed =>
      obtain ⟨⟨before, replaced, staged, logged, careful⟩, content⟩ := published
      have renamedLast : ∀ source other,
          .renamed source target other ∈ world.log → other = replaced := by
        intro source other member
        rw [logged, List.mem_append, List.mem_singleton] at member
        cases member with
        | inl earlier =>
            exact absurd earlier (staged_unrenamed staged source other)
        | inr last =>
            cases last
            rfl
      exact
        { unpublished := fun unfinished => absurd rfl unfinished
          published := fun _ =>
            ⟨before.log, replaced, logged, staged_untouched staged, content⟩
          rejects := fun rejecting source other member =>
            (renamedLast source other member).trans
              (careful (rejects rejecting))
          confirmed := by
            intro absent source other member
            rw [renamedLast source other member]
            apply careful
            apply confirmed
            rw [logged, List.mem_append, List.mem_singleton] at absent
            cases absent with
            | inl earlier => exact staged.probes false earlier
            | inr last => cases last
          ownPaths := by
            intro event member path touched
            rw [logged, List.mem_append, List.mem_singleton] at member
            rcases member with earlier | rfl
            · exact .inl (staged.within event earlier path touched)
            · exact .inr ⟨replaced, rfl⟩
          accounted := fun unfinished => absurd rfl unfinished }

theorem copyRounds_staged
    (staged : Staged none temp target (some held) world)
    (copied : copyRounds temp rounds world = (ending, after)) :
    (∃ left, Staged none temp target left after) ∧
      (ending = .endOfFile →
        Staged none temp target (some (held ++ bytesToEnd rounds)) after) := by
  induction rounds generalizing world held with
  | nil =>
      cases copied
      exact ⟨⟨_, staged⟩, fun _ => by simpa [bytesToEnd] using staged⟩
  | cons round rest induction =>
      rw [copyRounds] at copied
      split at copied
      · cases copied
        exact ⟨⟨_, staged⟩, fun impossible => by cases impossible⟩
      · split at copied
        · cases copied
          exact ⟨⟨_, staged⟩, fun impossible => by cases impossible⟩
        · rename_i ended
          cases copied
          exact ⟨⟨_, staged⟩, fun _ => by simpa [bytesToEnd, ended] using staged⟩
        · rename_i byte bytes chunk
          split at copied
          · rename_i reason written failed
            cases copied
            exact ⟨⟨_, staged.write_error failed⟩,
              fun impossible => by cases impossible⟩
          · rename_i written done
            have grown := staged.write_ok done
            have remaining := induction grown copied
            simpa [bytesToEnd, chunk] using remaining

/-- A cleanup removes the temporary file, or its error names it. -/
structure Cleans (temp target : String)
    (cleanup : FileWorld → Except AppError Unit × FileWorld) : Prop where
  ok : ∀ {probed held world after},
    Staged probed temp target held world → cleanup world = (.ok (), after) →
      Staged probed temp target none after
  error : ∀ {probed held world after error},
    Staged probed temp target held world →
      cleanup world = (.error error, after) →
        Staged probed temp target held after ∧ Mentions error.detail temp

theorem cleanupError_mentions (temp text : String) :
    Mentions (cleanupError temp text).detail temp :=
  ((((mentions_self temp).append_left _).append_right _).append_right
    _).append_right _

theorem Cleans.cancel (cleans : Cleans temp target cleanup)
    (staged : Staged probed temp target held world)
    (ended : cancelWith cleanup world = (outcome, after)) :
    Settled strategy temp target content outcome after := by
  unfold cancelWith at ended
  split at ended
  · rename_i cleaned finished
    cases ended
    exact .accounted (by simp) (cleans.ok staged finished) (.inl rfl)
  · rename_i error cleaned failed
    cases ended
    obtain ⟨left, mentions⟩ := cleans.error staged failed
    exact .accounted (by simp) left (.inr mentions)

theorem mergeCleanupFailure_mentions (primary : AppError)
    (mentions : Mentions error.detail temp) :
    Mentions (mergeCleanupFailure primary (.error error)).detail temp := by
  apply AppError.withAppendedDetail_mentions_extra
  exact mentions.trans error.toString_mentions_detail

theorem Cleans.fail (cleans : Cleans temp target cleanup)
    (staged : Staged probed temp target held world)
    (ended : failWith cleanup primary world = (outcome, after)) :
    Settled strategy temp target content outcome after := by
  unfold failWith at ended
  split at ended
  rename_i result cleaned finished
  cases ended
  cases result with
  | ok _ =>
      exact .accounted (by simp) (cleans.ok staged finished) (.inl rfl)
  | error error =>
      obtain ⟨left, mentions⟩ := cleans.error staged finished
      exact .accounted (by simp) left
        (.inr (mergeCleanupFailure_mentions primary mentions))

/-- A publication that fails leaves the target alone; one that succeeds has
renamed the staged file. -/
structure Publishes (strategy : ConflictStrategy) (temp target : String)
    (publish : FileWorld → Except AppError Unit × FileWorld) : Prop where
  error : ∀ {held world after error},
    Staged none temp target held world → publish world = (.error error, after) →
      ∃ probed left, Staged probed temp target left after
  ok : ∀ {content world after},
    Staged none temp target (some content) world →
      publish world = (.ok (), after) →
        Settled strategy temp target content .done after

theorem transferInto_settled (cleans : Cleans temp target cleanup)
    (publishes : Publishes strategy temp target publish)
    (flushes : ∀ {held world after result},
      Staged none temp target held world → flush world = (result, after) →
        Staged none temp target held after)
    (staged : Staged none temp target (some []) world)
    (ran : transferInto temp rounds flush cancelledLast cleanup publish world =
      (outcome, after)) :
    Settled strategy temp target (bytesToEnd rounds) outcome after := by
  unfold transferInto at ran
  split at ran
  · rename_i stopped copying
    obtain ⟨⟨held, left⟩, _⟩ := copyRounds_staged staged copying
    exact cleans.cancel left ran
  · rename_i primary stopped copying
    obtain ⟨⟨held, left⟩, _⟩ := copyRounds_staged staged copying
    exact cleans.fail left ran
  · rename_i copied copying
    have complete := (copyRounds_staged staged copying).2 rfl
    rw [List.nil_append] at complete
    split at ran
    · rename_i reason unflushed flushing
      exact cleans.fail (flushes complete flushing) ran
    · rename_i flushed flushing
      have ready := flushes complete flushing
      split at ran
      · exact cleans.cancel ready ran
      · split at ran
        · rename_i error unpublished publishing
          obtain ⟨probed, held, left⟩ := publishes.error ready publishing
          exact cleans.fail left ran
        · rename_i published publishing
          cases ran
          exact publishes.ok ready publishing

end TitanSSH
