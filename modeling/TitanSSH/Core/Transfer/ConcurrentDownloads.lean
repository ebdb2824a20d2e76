import TitanSSH.Core.Transfer.DownloadSteps

namespace TitanSSH

open FaultyFs Interleaving SharedFs DownloadSteps

/-! Any number of downloads at once over one local file system. -/

abbrev DownloadAction (δ : Type) :=
  SharedFs.Action UInt8 IoError (δ × List Char) Answer Download

abbrev DownloadEvent (δ : Type) :=
  SharedFs.Event String UInt8 (δ × List Char) Answer Download

abbrev DownloadState (δ : Type) :=
  SharedFs.State UInt8 (δ × List Char) Download

variable {δ : Type} {resolve : Option (List Char) → δ}

/-- The remote file has been read to its end. -/
def DownloadSteps.Phase.copied : Phase → Bool
  | .flushing | .syncing | .checkingLast | .probingTarget | .openingTemp => true
  | .registering | .persisting | .ended .done => true
  | _ => false

namespace Download

section Progress

variable {download : Download} {world after : FileWorld}

theorem ask_progress {query : Query} {goes : Answer query → Phase}
    (asks : download.act = .ask query goes) (answer : Answer query) :
    goes answer ≠ .ended .done ∧
      ((goes answer).copied = true →
        readAt (.asked query answer) = some [] ∨
          (download.phase.copied = true ∧
            readAt (.asked query answer) = none)) := by
  obtain ⟨taskId, localPath, strategy, phase⟩ := download
  cases phase with
  | locking => cases asks; cases answer <;> simp [Phase.copied]
  | checkingFirst => cases asks; cases answer <;> simp [Phase.copied]
  | openingRemote => cases asks; cases answer <;> simp [Phase.copied]
  | checking => cases asks; cases answer <;> simp [Phase.copied]
  | reading =>
      cases asks
      cases answer with
      | error error => simp [Phase.copied]
      | ok bytes => cases bytes <;> simp [Phase.copied, readAt]
  | checkingLast =>
      cases asks
      refine ⟨?_, fun _ => .inr ⟨rfl, rfl⟩⟩
      cases answer with
      | true => simp
      | false =>
          simp only [ne_eq]
          cases Download.strategy ⟨taskId, localPath, strategy, _⟩ <;>
            simp [Phase.publishing]
  | registering =>
      cases asks
      exact ⟨by cases answer <;> simp, fun _ => .inr ⟨rfl, rfl⟩⟩
  | _ => cases asks

/-- Only the rename onto the target gets to the end of a download. -/
theorem operate_progress {kind : Kind} {operation : Operation String UInt8 kind}
    {goes : Reply IoError kind → Phase} {reply : Reply IoError kind}
    {tick : IoTick} {taken : ℕ}
    (operates : download.act = .operate operation goes)
    (performed : operation.perform tick taken world = (reply, after)) :
    ((goes reply).copied = true → download.phase.copied = true) ∧
      ((goes reply = .ended .done ∧
          (publication (world.meet tick).files operation reply :
            List (Observation String UInt8 Answer)) =
              [.published download.localPath
                ((world.meet tick).files download.localPath)
                (after.files download.localPath)] ∧
          (download.strategy = .reject →
            (world.meet tick).files download.localPath = none)) ∨
        (goes reply ≠ .ended .done ∧
          (publication (world.meet tick).files operation reply :
            List (Observation String UInt8 Answer)) = [])) := by
  obtain ⟨taskId, localPath, conflictStrategy, phase⟩ := download
  cases phase with
  | creating =>
      cases operates
      refine ⟨?_, .inr ⟨?_, rfl⟩⟩ <;> cases reply <;> simp [Phase.copied]
  | writing byte bytes =>
      cases operates
      refine ⟨?_, .inr ⟨?_, rfl⟩⟩ <;> cases reply <;> simp [Phase.copied]
  | flushing =>
      cases operates
      refine ⟨fun _ => rfl, .inr ⟨?_, rfl⟩⟩
      cases reply <;> simp
  | syncing =>
      cases operates
      refine ⟨fun _ => rfl, .inr ⟨?_, rfl⟩⟩
      cases reply <;> simp
  | probingTarget =>
      cases operates
      refine ⟨fun _ => rfl, .inr ⟨?_, rfl⟩⟩
      cases reply <;> simp
  | openingTemp =>
      cases operates
      refine ⟨fun _ => rfl, .inr ⟨?_, rfl⟩⟩
      cases reply <;> simp
  | persisting =>
      cases operates
      refine ⟨fun _ => rfl, ?_⟩
      cases reply with
      | error reason => exact .inr ⟨by simp, rfl⟩
      | ok _ =>
          obtain ⟨content, careful⟩ := rename_published
            (downloadTempPath_ne localPath taskId) performed
          refine .inl ⟨rfl, ?_, fun rejecting => careful ?_⟩
          · rw [publication, content]
            rfl
          · simp [rejecting]
  | closingTemp error =>
      cases operates
      refine ⟨?_, .inr ⟨?_, rfl⟩⟩ <;> cases reply <;> simp [Phase.copied]
  | probingTemp ending =>
      cases operates
      refine ⟨?_, .inr ⟨?_, rfl⟩⟩ <;> cases reply <;>
        cases ending <;> simp [Phase.copied, Ending.outcome]
  | removingTemp ending =>
      cases operates
      refine ⟨?_, .inr ⟨?_, rfl⟩⟩ <;> cases reply <;>
        cases ending <;> simp [Phase.copied, Ending.outcome]
  | _ => cases operates

/-- How far a download has come, by what it has observed. -/
structure Progress (download : Download)
    (observations : List (Observation String UInt8 Answer))
    (world : FileWorld) : Prop where
  copied : download.phase.copied = true →
    (reads observations).getLast? = some []
  publishes : ∀ {target replaced content},
    .published target replaced content ∈ observations →
      download.phase = .ended .done ∧ target = download.localPath ∧
        content = world.files download.localPath ∧
        (download.strategy = .reject → replaced = none)
  published : download.phase = .ended .done → ∃ replaced content,
    .published download.localPath replaced content ∈ observations

variable {observations events : List (Observation String UInt8 Answer)}

theorem Progress.of_unpublished
    (copied : download.phase.copied = true →
      (reads observations).getLast? = some [])
    (unpublished : ∀ {target replaced content},
      .published target replaced content ∉ observations)
    (unfinished : download.phase ≠ .ended .done) :
    download.Progress observations world where
  copied := copied
  publishes := fun member => absurd member unpublished
  published := fun finished => absurd finished unfinished

theorem act_ended (ended : download.phase = .ended outcome) :
    download.act = .finished := by
  simp only [act, ended]

theorem Progress.step {next : Download}
    {meeting : Client.Meeting UInt8 IoError Answer}
    (progress : download.Progress observations world)
    (stepped : (downloads resolve).alone.step (download, world) meeting =
      some ((next, after), events)) :
    next.Progress (observations ++ events) after := by
  have unpublished : ∀ {target replaced content},
      .published target replaced content ∉ observations := by
    intro target replaced content member
    have idle := act_ended (progress.publishes member).1
    simp [Client.alone, downloads, idle, Act.map] at stepped
  have readsAppend : reads (observations ++ events) =
      reads observations ++ reads events := List.filterMap_append
  rcases alone_cases stepped with
    ⟨query, goes, asks, rfl, rfl, rfl⟩ |
    ⟨kind, operation, goes, reply, operates, performed, rfl, rfl⟩
  · obtain ⟨unfinished, copying⟩ :=
      ask_progress asks (meeting.choice.answer query)
    refine .of_unpublished ?_ (by simp [unpublished]) unfinished
    intro copied
    rw [readsAppend]
    rcases copying copied with ended | ⟨before, silent⟩
    · simp [reads, ended]
    · simpa [reads, silent] using progress.copied before
  · obtain ⟨copying, finishing⟩ := operate_progress operates performed
    rw [reads_publication, List.append_nil] at readsAppend
    have copied : (goes reply).copied = true →
        (reads (observations ++ publication (world.meet meeting.tick).files
          operation reply)).getLast? = some [] := by
      intro after
      rw [readsAppend]
      exact progress.copied (copying after)
    rcases finishing with ⟨finished, published, careful⟩ | ⟨unfinished, silent⟩
    · rw [published] at copied ⊢
      exact
        { copied := copied
          publishes := by
            intro target replaced content member
            rcases List.mem_append.mp member with before | now
            · exact absurd before unpublished
            · cases List.mem_singleton.mp now
              exact ⟨finished, rfl, rfl, careful⟩
          published := fun _ =>
            ⟨_, _, List.mem_append_right _ (List.mem_singleton_self _)⟩ }
    · rw [silent, List.append_nil] at copied ⊢
      exact .of_unpublished copied unpublished unfinished

theorem progress_run {first : Download} {start : FileWorld}
    {meetings : List (Client.Meeting UInt8 IoError Answer)}
    (opening : first.phase = .locking)
    (run : (downloads resolve).alone.Run (first, start) meetings observations
      (download, world)) :
    download.Progress observations world := by
  generalize reached : (download, world) = current at run
  induction run generalizing download world with
  | refl =>
      cases reached
      exact .of_unpublished (by simp [opening, Phase.copied]) (by simp)
        (by simp [opening])
  | snoc _ stepped induction =>
      subst reached
      exact (induction rfl).step stepped

end Progress

end Download

/-- An ended transfer has touched nothing, or leaves no temporary file that it
does not report. -/
theorem Settled.temp {strategy : ConflictStrategy} {temp target : String}
    {content : List UInt8} {outcome : TransferOutcome} {world : FileWorld}
    (settled : Settled strategy temp target content outcome world) :
    Idle world ∨ world.files temp = none ∨ outcome.Reports temp := by
  cases settled with
  | idle unfinished staged idle => exact .inl idle
  | accounted unfinished staged accounted =>
      refine .inr (accounted.imp_left fun gone => ?_)
      rw [staged.held, gone]
  | published published rejects confirmed =>
      obtain ⟨before, replaced, -, logged, -⟩ := published.last
      right; left
      rw [World.files, logged, List.foldl_append]
      simp [FaultyFs.Event.apply]

/-- Task ids tell the downloads apart, and nobody else works on a path of the
temporary file of one. -/
structure Undisturbed (resolve : Option (List Char) → δ)
    (log : List (DownloadEvent δ)) : Prop where
  identifiers : ∀ {first second download other found before},
    .started first download found ∈ log → .started second other before ∈ log →
      download.taskId.text = other.taskId.text → first = second
  targets : ∀ {first second download other found before},
    .started first download found ∈ log → .started second other before ∈ log →
      directoryEntry resolve download.localPath ≠
        directoryEntry resolve other.tempPath
  thirdParties : ∀ {entry node thread download found},
    .intruded entry node ∈ log → .started thread download found ∈ log →
      entry ≠ directoryEntry resolve download.tempPath

theorem takeWhile_last (front : List Char) {last : List Char}
    (plain : '.' ∉ last) :
    (front ++ '.' :: last).reverse.takeWhile (· != '.') = last.reverse := by
  rw [List.reverse_append, List.reverse_cons, List.append_assoc,
    List.takeWhile_append_of_pos]
  · simp
  · intro character member
    have differs : character ≠ '.' := by
      rintro rfl
      exact plain (List.mem_reverse.mp member)
    simpa using differs

theorem tempName_taskId {firstName secondName : List Char}
    {first second : TaskId} (firstPlain : '.' ∉ first.text.toList)
    (secondPlain : '.' ∉ second.text.toList)
    (same : tempName firstName first = tempName secondName second) :
    first.text = second.text := by
  have trimmed : ('.' :: firstName) ++ '.' :: first.text.toList =
      ('.' :: secondName) ++ '.' :: second.text.toList :=
    List.append_cancel_right same
  have reversed := congrArg (fun name => name.reverse.takeWhile (· != '.'))
    trimmed
  rw [takeWhile_last _ firstPlain, takeWhile_last _ secondPlain] at reversed
  exact String.toList_inj.mp (List.reverse_inj.mp reversed)

variable [DecidableEq δ]
variable {files : KeyedStore (δ × List Char) (List UInt8)}
variable {actions : List (DownloadAction δ)} {log : List (DownloadEvent δ)}
variable {shared : DownloadState δ}

theorem Undisturbed.separated (undisturbed : Undisturbed resolve log)
    (run : (downloads resolve).machine.Run (Client.initial files) actions log
      shared) : (downloads resolve).Separated log where
  stagings := by
    intro first second download other found before started later different same
    have plain : ∀ {thread : ℕ} {opened : Download} {left},
        .started thread opened left ∈ log →
          '.' ∉ opened.taskId.text.toList := by
      intro thread opened left member
      have starts := Client.starts_of_started run member
      simp only [downloads, Download.starts] at starts
      split at starts
      · simpa using starts
      · cases starts
    have names := congrArg Prod.snd same
    simp only [downloads, directoryEntry_tempPath] at names
    exact different (undisturbed.identifiers started later
      (tempName_taskId (plain started) (plain later) names))
  targets := undisturbed.targets
  intrusions := undisturbed.thirdParties

/-- What stands in the file system when downloads have run side by side: whole
files, and no temporary file that its download has not accounted for. -/
structure WholeFiles (resolve : Option (List Char) → δ)
    (files : KeyedStore (δ × List Char) (List UInt8))
    (log : List (DownloadEvent δ)) (shared : DownloadState δ) : Prop where
  kept : ∀ entry,
    (∀ thread download found, .started thread download found ∈ log →
      entry ≠ directoryEntry resolve download.tempPath) →
    shared.files entry =
      lastOf (Client.leftAt (directoryEntry resolve) entry) log (files entry)
  complete : ∀ thread target replaced content,
    .observed thread (.published target replaced content) ∈ log →
      ∃ download chunks, shared.clients thread = some download ∧
        download.phase = .ended .done ∧ target = download.localPath ∧
        Download.reads (Client.observed thread log) = chunks ++ [[]] ∧
        content = some chunks.flatten ∧
        (download.strategy = .reject → replaced = none)
  published : ∀ thread download, shared.clients thread = some download →
    download.phase = .ended .done → ∃ replaced content,
      .observed thread (.published download.localPath replaced content) ∈ log
  tidied : ∀ thread download outcome, shared.clients thread = some download →
    download.phase = .ended outcome →
      ∃ first found, .started thread first found ∈ log ∧
        (shared.files (directoryEntry resolve download.tempPath) = none ∨
          shared.files (directoryEntry resolve download.tempPath) = found ∨
          outcome.Reports download.tempPath)

/-- What the thread that a download runs in knows of it, from the start. -/
structure Known (resolve : Option (List Char) → δ)
    (log : List (DownloadEvent δ)) (shared : DownloadState δ) (thread : ℕ)
    (download first : Download) (found : Option (List UInt8))
    (world : FileWorld) : Prop where
  started : .started thread first found ∈ log
  progress : download.Progress (Client.observed thread log) world
  content : download.phase = .ended .done → world.files download.localPath =
    some (Download.reads (Client.observed thread log)).flatten
  temp : download.phase = .ended outcome →
    shared.files (directoryEntry resolve download.tempPath) = none ∨
      shared.files (directoryEntry resolve download.tempPath) = found ∨
      outcome.Reports download.tempPath

theorem downloads_known (run : (downloads resolve).machine.Run
      (Client.initial files) actions log shared)
    (undisturbed : Undisturbed resolve log)
    {thread : ℕ} {download : Download}
    (running : shared.clients thread = some download) :
    ∃ first found world,
      Known resolve log shared thread download first found world := by
  obtain ⟨first, found, own, meetings, world, view⟩ :=
    Client.run_viewed run (undisturbed.separated run) thread download running
  have opening : first.phase = .locking := by
    have starts := view.starts
    simp only [downloads, Download.starts] at starts
    split at starts
    · assumption
    · cases starts
  have settled {outcome : TransferOutcome}
      (ended : download.phase = .ended outcome) :=
    Download.ended_settled opening rfl rfl view.ran ended
  have targetSame : download.localPath = first.localPath := view.target
  have tempSame : download.tempPath = first.tempPath := view.staging
  have staged : world.files first.tempPath =
    shared.files (directoryEntry resolve first.tempPath) := view.staged
  refine ⟨first, found, world, ?_⟩
  exact
    { started := view.started
      progress := Download.progress_run opening view.ran
      content := by
        intro finished
        obtain ⟨-, -, -, -, content⟩ := (settled finished).safe.published rfl
        rw [targetSame]
        exact content
      temp := by
        intro outcome ended
        rw [tempSame, ← staged]
        rcases (settled ended).temp with idle | gone | reported
        · right; left
          rw [← view.found]
          exact view.confined.untouched idle
            (downloadTempPath_ne first.localPath first.taskId)
        · exact .inl gone
        · exact .inr (.inr reported) }

/-- Downloads that run side by side leave whole files: where no temporary file
is, there is what the last of them to end there has read to the end, unless a
third party came after it. -/
theorem downloads_whole (run : (downloads resolve).machine.Run
      (Client.initial files) actions log shared)
    (undisturbed : Undisturbed resolve log) :
    WholeFiles resolve files log shared where
  kept := Client.run_left run (undisturbed.separated run)
  complete := by
    intro thread target replaced content member
    have seen := Client.mem_observed.mpr member
    cases running : shared.clients thread with
    | none =>
        rw [Client.unobserved run running] at seen
        cases seen
    | some download =>
        obtain ⟨first, found, world, known⟩ :=
          downloads_known run undisturbed running
        obtain ⟨finished, rfl, rfl, careful⟩ := known.progress.publishes seen
        have atEnd := known.progress.copied (by rw [finished]; rfl)
        obtain ⟨chunks, whole⟩ := List.getLast?_eq_some_iff.mp atEnd
        refine ⟨download, chunks, rfl, finished, rfl, whole, ?_, careful⟩
        rw [known.content finished, whole]
        simp
  published := by
    intro thread download running finished
    obtain ⟨first, found, world, known⟩ :=
      downloads_known run undisturbed running
    obtain ⟨replaced, content, member⟩ := known.progress.published finished
    exact ⟨replaced, content, Client.mem_observed.mp member⟩
  tidied := by
    intro thread download outcome running ended
    obtain ⟨first, found, world, known⟩ :=
      downloads_known run undisturbed running
    exact ⟨first, found, known.started, known.temp ended⟩

def oneByte (bytes : List UInt8) : Choice IoError Answer where
  answer
    | .poisoned => none
    | .cancelled => false
    | .openRead => none
    | .read => .ok bytes
    | .registerTemp => none

def overwriting (taskId : TaskId) : Download where
  taskId := taskId
  localPath := "a.txt"
  conflictStrategy := some .overwrite

def twoOpened : List (ℕ × Download) :=
  [(0, overwriting ⟨"1", by decide⟩), (1, overwriting ⟨"2", by decide⟩)]

def turns (first second : List UInt8) :
    List (DownloadAction (Option (List Char))) :=
  [.advance 0 (oneByte first), .advance 1 (oneByte second)]

/-- Two downloads to one target, a step of each in turn. -/
def twoDownloads : List (DownloadAction (Option (List Char))) :=
  twoOpened.map (fun (thread, download) => .start thread download) ++
    (List.replicate 8 (turns [1] [2])).flatten ++
    (List.replicate 7 (turns [] [])).flatten

def openings : DownloadEvent δ → Option (ℕ × Download)
  | .started thread download _ => some (thread, download)
  | _ => none

def intrusions : DownloadEvent δ → Option (δ × List Char)
  | .intruded entry _ => some entry
  | _ => none

theorem twoDownloads_run : ∃ log shared,
    (downloads id).machine.Run (Client.initial fun _ => none) twoDownloads log
      shared ∧
    shared.files (directoryEntry id "a.txt") = some [2] ∧
    log.filterMap openings = twoOpened ∧ log.filterMap intrusions = [] :=
  ⟨_, _, Machine.run_of_execute rfl, rfl, rfl, rfl⟩

theorem downloads_whole_twice : ∃ log shared,
    (downloads id).machine.Run (Client.initial fun _ => none) twoDownloads log
      shared ∧
    shared.files (directoryEntry id "a.txt") = some [2] ∧
    WholeFiles id (fun _ => none) log shared := by
  obtain ⟨log, shared, run, content, opened, quiet⟩ := twoDownloads_run
  have listed {thread download found}
      (started : .started thread download found ∈ log) :
      (thread, download) ∈ twoOpened := by
    rw [← opened]
    exact List.mem_filterMap.mpr ⟨_, started, rfl⟩
  have identifiers : ∀ first ∈ twoOpened, ∀ second ∈ twoOpened,
      first.2.taskId.text = second.2.taskId.text → first.1 = second.1 := by
    decide
  have targets : ∀ first ∈ twoOpened, ∀ second ∈ twoOpened,
      directoryEntry id first.2.localPath ≠
        directoryEntry id second.2.tempPath := by
    decide
  have undisturbed : Undisturbed id log :=
    { identifiers := by
        intro first second download other found before started later same
        exact identifiers (first, download) (listed started) (second, other)
          (listed later) same
      targets := by
        intro first second download other found before started later
        exact targets (first, download) (listed started) (second, other)
          (listed later)
      thirdParties := by
        intro entry node thread download found intruded started
        have member : entry ∈ log.filterMap intrusions :=
          List.mem_filterMap.mpr ⟨_, intruded, rfl⟩
        rw [quiet] at member
        cases member }
  exact ⟨log, shared, run, content, downloads_whole run undisturbed⟩

end TitanSSH
