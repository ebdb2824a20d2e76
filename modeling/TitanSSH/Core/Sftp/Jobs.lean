import TitanSSH.Core.Sftp.Steps

namespace TitanSSH

open Interleaving

namespace SftpShared

variable {shared : SftpShared} {sessionId other : String}

@[simp] theorem setPool_cancelTokens (pool : TransferPool) :
    ((shared.setPool sessionId pool).arcs other).cancelTokens =
      (shared.arcs other).cancelTokens := by
  rcases eq_or_ne other sessionId with rfl | different
  · simp [setPool, setHandle]
  · simp [setPool, setHandle, different]

@[simp] theorem setPool_enqueueSeq (pool : TransferPool) :
    ((shared.setPool sessionId pool).arcs other).enqueueSeq =
      (shared.arcs other).enqueueSeq := by
  rcases eq_or_ne other sessionId with rfl | different
  · simp [setPool, setHandle]
  · simp [setPool, setHandle, different]

@[simp] theorem setTokens_enqueueSeq (tokens : FiniteMap String CancelEntry) :
    ((shared.setTokens sessionId tokens).arcs other).enqueueSeq =
      (shared.arcs other).enqueueSeq := by
  rcases eq_or_ne other sessionId with rfl | different
  · simp [setTokens, setHandle]
  · simp [setTokens, setHandle, different]

end SftpShared

namespace Sftp

/-! Who works on which task: every accepted transfer has one worker, with a
place in the queue of its session that no other worker has. -/

def Continuation.job? : Continuation → Option TransferJob
  | .fail job _ | .transfer job _ | .dropPermit job | .ended job => some job
  | .cleanup _ _ => none

def Phase.job? : Phase → Option TransferJob
  | .work job | .checkout job _ | .permit job _ | .permitted job _ => some job
  | .transfer job _ | .release job _ _ _ | .checkin job _ _ _ => some job
  | .dropPermit job | .ended job => some job
  | .transition _ _ next => next.job?
  | _ => none

def Phase.request? : Phase → Option TransferRequest
  | .checkTarget request | .statLookup request => some request
  | .stat request | .insertTask request => some request
  | _ => none

def Phase.entry? : Phase → Option TransferTask
  | .registerEntry task => some task
  | _ => none

/-- The task that a call has inserted, or that a worker works on. -/
def Phase.task? (phase : Phase) : Option String :=
  match phase.entry? with
  | some task => some task.taskId
  | none => phase.job?.map (·.taskId)

/-- The session of a request that has been accepted, of a task or of a job. -/
def Phase.Concerns (phase : Phase) (sessionId : String) : Prop :=
  (∃ request, phase.request? = some request ∧ request.sessionId = sessionId) ∨
  (∃ task, phase.entry? = some task ∧ task.sessionId = sessionId) ∨
  ∃ job, phase.job? = some job ∧ job.sessionId = sessionId

def TransferJob.place (job : TransferJob) : String × ℕ :=
  (job.sessionId, job.queueSeq)

def Phase.place? (phase : Phase) : Option (String × ℕ) :=
  phase.job?.map TransferJob.place

variable {thread : ℕ} {choice : Choice} {shared next : SftpShared}
variable {phase after : Phase} {events log : List Event}
variable {job : TransferJob} {taskId sessionId : String}

theorem resume_job? (continuation : Continuation) :
    (resume continuation).job? = continuation.job? := by
  cases continuation <;> rfl

theorem afterPoolStep_job? (phase : TransferPool.Phase) :
    (afterPoolStep job phase).job? = some job := by
  cases phase with
  | failed error => cases error <;> rfl
  | _ => rfl

theorem concluding_job? (conclusion : Conclusion) :
    (concluding job conclusion).job? = some job := by
  unfold concluding
  split <;> simp_all [Phase.job?, Continuation.job?]

/-- Phases that are neither a request nor an entry to be made. -/
def Phase.settledIn (phase : Phase) : Prop :=
  phase.entry? = none ∧ phase.request? = none

theorem resume_settledIn (continuation : Continuation) :
    (resume continuation).settledIn := by
  cases continuation <;> exact ⟨rfl, rfl⟩

theorem afterPoolStep_settledIn (phase : TransferPool.Phase) :
    (afterPoolStep job phase).settledIn := by
  cases phase with
  | failed error => cases error <;> exact ⟨rfl, rfl⟩
  | _ => exact ⟨rfl, rfl⟩

/-- How a step bears on the work of its thread. -/
inductive Employs (thread : ℕ) (choice : Choice) (shared : SftpShared) :
    Phase → Phase → Prop
  | kept {phase after : Phase} (job : after.job? = phase.job?)
      (before : phase.entry? = none) (entry : after.entry? = none)
      (request : ∀ request, after.request? = some request →
        request.sessionId ∈ shared.handles ∨ ∃ earlier,
          phase.request? = some earlier ∧
            earlier.sessionId = request.sessionId) :
      Employs thread choice shared phase after
  | inserted {request : TransferRequest}
      (fresh : choice.uuid ∉ shared.issued) :
      Employs thread choice shared (.insertTask request)
        (.registerEntry (newTask choice request))
  | enqueued {task : TransferTask} :
      Employs thread choice shared (.registerEntry task)
        (.work (jobOf shared task))

theorem Employs.settle (job : after.job? = phase.job?)
    (before : phase.entry? = none) (settled : after.settledIn) :
    Employs thread choice shared phase after :=
  .kept job before settled.1 (by simp [settled.2])

theorem Move.employs
    (move : Move thread choice shared phase next after events) :
    Employs thread choice shared phase after := by
  cases move with
  | inserted fresh => exact .inserted fresh
  | enqueued => exact .enqueued
  | accepted asking present =>
      refine .kept rfl rfl rfl ?_
      intro request named
      obtain rfl := Option.some.inj named
      exact .inl present
  | @unoccupied request free =>
      refine .kept ?_ rfl ?_ ?_ <;> unfold afterCheck <;> split
      · rfl
      · rfl
      · rfl
      · rfl
      all_goals
        intro other named
        obtain rfl := Option.some.inj named
        exact .inr ⟨request, rfl, rfl⟩
  | statFound present =>
      refine .kept rfl rfl rfl ?_
      intro request named
      obtain rfl := Option.some.inj named
      exact .inl present
  | @sized request size =>
      refine .kept rfl rfl rfl ?_
      intro other named
      obtain rfl := Option.some.inj named
      exact .inr ⟨request, rfl, rfl⟩
  | refused error asking =>
      refine .settle ?_ ?_ ⟨rfl, rfl⟩ <;>
      · cases phase <;> first | rfl | simp [Phase.asking] at asking
  | pooled move =>
      exact .settle (afterPoolStep_job? _) rfl (afterPoolStep_settledIn _)
  | dropped absent => exact .settle (concluding_job? _) rfl ⟨rfl, rfl⟩
  | checkedIn => exact .settle (concluding_job? _) rfl ⟨rfl, rfl⟩
  | rejected illegal => exact .settle (resume_job? _) rfl (resume_settledIn _)
  | emitted => exact .settle (resume_job? _) rfl (resume_settledIn _)
  | _ => exact .settle rfl rfl ⟨rfl, rfl⟩

/-! What a step does to the registries of ids. -/

theorem Move.issued (move : Move thread choice shared phase next after events) :
    shared.issued ⊆ next.issued := by
  cases move with
  | inserted fresh => exact Finset.subset_insert _ _
  | _ => exact Finset.Subset.refl _

theorem Move.registered_subset
    (move : Move thread choice shared phase next after events) :
    shared.registered ⊆ next.registered := by
  cases move with
  | registered fresh => exact Finset.subset_insert _ _
  | _ => exact Finset.Subset.refl _

theorem Move.handles
    (move : Move thread choice shared phase next after events)
    (known : shared.handles ⊆ shared.registered) :
    next.handles ⊆ next.registered := by
  cases move with
  | registered fresh => exact Finset.insert_subset_insert _ known
  | cleanupStarted present => exact (Finset.erase_subset _ _).trans known
  | _ => exact known

theorem Move.task_origin
    (move : Move thread choice shared phase next after events)
    {task : TransferTask} (found : next.tasks.lookup taskId = some task) :
    (∃ earlier, shared.tasks.lookup taskId = some earlier ∧
      earlier.sessionId = task.sessionId) ∨
    taskId ∈ next.issued ∧ ∃ request, phase = .insertTask request ∧
      request.sessionId = task.sessionId := by
  cases move with
  | @inserted request fresh =>
      rw [FiniteMap.lookup_insert] at found
      split at found
      · next same =>
          obtain rfl := Option.some.inj found
          exact .inr ⟨same ▸ Finset.mem_insert_self _ _, request, rfl, rfl⟩
      · exact .inl ⟨task, found, rfl⟩
  | taken applied =>
      left
      rcases applied.origin found with ⟨rfl, rfl⟩ | ⟨-, before⟩
      · exact ⟨_, applied.found, rfl⟩
      · exact ⟨task, before, rfl⟩
  | purged => exact .inl ⟨task, (TaskRegistry.lookup_purge.mp found).1, rfl⟩
  | cleared =>
      exact .inl ⟨task, (TaskRegistry.lookup_clearTerminal.mp found).1, rfl⟩
  | _ => exact .inl ⟨task, found, rfl⟩

theorem Move.cancelTokens
    (move : Move thread choice shared phase next after events)
    {entry : CancelEntry}
    (found : (next.arcs sessionId).cancelTokens.lookup taskId = some entry) :
    (shared.arcs sessionId).cancelTokens.lookup taskId = some entry ∨
    ∃ task, phase = .registerEntry task ∧
      jobOf shared task = ⟨entry.queueSeq, taskId, sessionId⟩ := by
  cases move with
  | @registered other fresh =>
      rcases eq_or_ne sessionId other with rfl | different
      · simp [SftpHandle.new] at found
      · exact .inl (by simpa [different] using found)
  | @enqueued task =>
      simp only [SftpShared.setHandle] at found
      rcases eq_or_ne sessionId task.sessionId with rfl | different
      · rw [Function.update_self, FiniteMap.lookup_insert] at found
        split at found
        · next same =>
            obtain rfl := Option.some.inj found
            exact .inr ⟨task, rfl, by rw [jobOf, same]⟩
        · exact .inl found
      · exact .inl (by simpa [different] using found)
  | @tokenRemoved change continuation =>
      simp only [SftpShared.setTokens, SftpShared.setHandle] at found
      rcases eq_or_ne sessionId change.sessionId with rfl | different
      · rw [Function.update_self] at found
        exact .inl (FiniteMap.lookup_erase_eq_some.mp found).2
      · exact .inl (by simpa [different] using found)
  | pooled move => exact .inl (by simpa using found)
  | checkedIn => exact .inl (by simpa using found)
  | waiterCancelled => exact .inl (by simpa using found)
  | poolClosed => exact .inl (by simpa using found)
  | reaped move => exact .inl (by simpa using found)
  | _ => exact .inl found

theorem Move.enqueueSeq
    (move : Move thread choice shared phase next after events)
    (known : sessionId ∈ shared.registered) :
    (shared.arcs sessionId).enqueueSeq ≤ (next.arcs sessionId).enqueueSeq := by
  cases move with
  | @registered other fresh =>
      have different : sessionId ≠ other := by
        rintro rfl
        exact fresh known
      simp [different]
  | @enqueued task =>
      simp only [SftpShared.setHandle]
      rcases eq_or_ne sessionId task.sessionId with rfl | different
      · simp
      · simp [different]
  | tokenRemoved => simp
  | pooled move => simp
  | checkedIn => simp
  | waiterCancelled => simp
  | poolClosed => simp
  | reaped move => simp
  | _ => exact Nat.le_refl _

/-! Every run keeps the workers apart. -/

structure Staffed (config : Config SftpShared Phase) : Prop where
  tasks : ∀ taskId task, config.shared.tasks.lookup taskId = some task →
    taskId ∈ config.shared.issued
  issued : ∀ thread taskId, config.holdings Phase.task? thread = some taskId →
    taskId ∈ config.shared.issued
  oneEach : Exclusive (config.holdings Phase.task?)
  places : Exclusive (config.holdings Phase.place?)
  queued : ∀ thread job, config.holdings Phase.job? thread = some job →
    job.queueSeq < (config.shared.arcs job.sessionId).enqueueSeq
  concerned : ∀ thread phase sessionId, config.threads thread = some phase →
    phase.Concerns sessionId → sessionId ∈ config.shared.registered
  handles : config.shared.handles ⊆ config.shared.registered
  tokens : ∀ sessionId taskId entry,
    (config.shared.arcs sessionId).cancelTokens.lookup taskId = some entry →
      ∃ thread, config.holdings Phase.job? thread =
        some ⟨entry.queueSeq, taskId, sessionId⟩

theorem Phase.task?_of_job (employed : phase.job? = some job) :
    phase.task? = some job.taskId := by
  cases phase with
  | registerEntry task => cases employed
  | _ => simp only [Phase.task?, Phase.entry?, employed, Option.map_some]

theorem Phase.place?_of_job (employed : phase.job? = some job) :
    phase.place? = some job.place := by
  simp [Phase.place?, employed]

/-- What remains to be shown of the thread that takes a step. -/
theorem Staffed.advance {config : Config SftpShared Phase}
    (staffed : Staffed config)
    (move : Move thread choice config.shared phase next after events)
    (running : config.threads thread = some phase)
    (oneEach : Exclusive
      (Function.update (config.holdings Phase.task?) thread after.task?))
    (issued : ∀ taskId, after.task? = some taskId → taskId ∈ next.issued)
    (places : Exclusive
      (Function.update (config.holdings Phase.place?) thread after.place?))
    (queued : ∀ job, after.job? = some job →
      job.queueSeq < (next.arcs job.sessionId).enqueueSeq)
    (concerned : ∀ sessionId, after.Concerns sessionId →
      sessionId ∈ next.registered)
    (working : ∀ job, phase.job? = some job → after.job? = some job)
    (entered : ∀ task, phase = .registerEntry task →
      after.job? = some (jobOf config.shared task)) :
    Staffed ⟨next, Function.update config.threads thread (some after)⟩ := by
  constructor
  · intro taskId task found
    rcases move.task_origin found with ⟨earlier, present, -⟩ | ⟨issued, -⟩
    · exact move.issued (staffed.tasks taskId earlier present)
    · exact issued
  · rw [config.holdings_advance]
    intro other taskId holds
    rcases of_update_eq_some holds with ⟨-, own⟩ | ⟨-, before⟩
    · exact issued taskId own
    · exact move.issued (staffed.issued other taskId before)
  · rw [config.holdings_advance]
    exact oneEach
  · rw [config.holdings_advance]
    exact places
  · rw [config.holdings_advance]
    intro other job holds
    rcases of_update_eq_some holds with ⟨-, own⟩ | ⟨-, before⟩
    · exact queued job own
    · obtain ⟨current, found, employed⟩ := Option.bind_eq_some_iff.mp before
      have known := staffed.concerned other current job.sessionId found
        (.inr (.inr ⟨job, employed, rfl⟩))
      exact (staffed.queued other job before).trans_le (move.enqueueSeq known)
  · intro other current sessionId found concerns
    rcases of_update_eq_some found with ⟨-, same⟩ | ⟨-, before⟩
    · exact concerned sessionId (Option.some.inj same ▸ concerns)
    · exact move.registered_subset
        (staffed.concerned other current sessionId before concerns)
  · exact move.handles staffed.handles
  · rw [config.holdings_advance]
    intro sessionId taskId token found
    rcases move.cancelTokens found with present | ⟨task, rfl, same⟩
    · obtain ⟨worker, holds⟩ := staffed.tokens sessionId taskId token present
      refine ⟨worker, ?_⟩
      rcases eq_or_ne worker thread with rfl | different
      · rw [Config.holdings_of_running running] at holds
        rw [Function.update_self]
        exact working _ holds
      · rw [Function.update_of_ne different]
        exact holds
    · exact ⟨thread, by rw [Function.update_self, entered task rfl, same]⟩

theorem Move.inserted_issued {request : TransferRequest}
    {task : TransferTask}
    (move : Move thread choice shared (.insertTask request) next
      (.registerEntry task) events) : task.taskId ∈ next.issued := by
  cases move with
  | inserted fresh => exact Finset.mem_insert_self _ _

theorem Move.enqueued_seq {task : TransferTask}
    (move : Move thread choice shared (.registerEntry task) next (.work job)
      events) :
    (jobOf shared task).queueSeq < (next.arcs task.sessionId).enqueueSeq := by
  cases move with
  | enqueued => simp [SftpShared.setHandle, jobOf]

theorem Staffed.known {config : Config SftpShared Phase}
    (staffed : Staffed config) {worker : ℕ}
    (holds : config.holdings Phase.job? worker = some job) :
    job.sessionId ∈ config.shared.registered := by
  obtain ⟨current, found, employed⟩ := Option.bind_eq_some_iff.mp holds
  exact staffed.concerned worker current job.sessionId found
    (.inr (.inr ⟨job, employed, rfl⟩))

theorem Staffed.keep {config : Config SftpShared Phase}
    (staffed : Staffed config)
    (move : Move thread choice config.shared phase next after events)
    (running : config.threads thread = some phase)
    (job : after.job? = phase.job?) (before : phase.entry? = none)
    (entry : after.entry? = none)
    (request : ∀ request, after.request? = some request →
      request.sessionId ∈ config.shared.handles ∨ ∃ earlier,
        phase.request? = some earlier ∧
          earlier.sessionId = request.sessionId) :
    Staffed ⟨next, Function.update config.threads thread (some after)⟩ := by
  have task : after.task? = config.holdings Phase.task? thread := by
    simp [Config.holdings_of_running running, Phase.task?, before, entry, job]
  have place : after.place? = config.holdings Phase.place? thread := by
    simp [Config.holdings_of_running running, Phase.place?, job]
  refine staffed.advance move running ?_ ?_ ?_ ?_ ?_ ?_ ?_
  · rw [task, Function.update_eq_self]
    exact staffed.oneEach
  · rw [task]
    exact fun taskId holds => move.issued (staffed.issued thread taskId holds)
  · rw [place, Function.update_eq_self]
    exact staffed.places
  · intro held employed
    have holds : config.holdings Phase.job? thread = some held := by
      rw [Config.holdings_of_running running, ← job]
      exact employed
    exact (staffed.queued thread held holds).trans_le
      (move.enqueueSeq (staffed.known holds))
  · intro sessionId concerns
    apply move.registered_subset
    rcases concerns with ⟨asked, named, rfl⟩ | ⟨task, named, -⟩ | employed
    · rcases request asked named with present | ⟨earlier, was, same⟩
      · exact staffed.handles present
      · exact staffed.concerned thread phase _ running
          (.inl ⟨earlier, was, same⟩)
    · cases entry.symm.trans named
    · rw [job] at employed
      exact staffed.concerned thread phase _ running (.inr (.inr employed))
  · intro held employed
    rw [job]
    exact employed
  · rintro task rfl
    cases before

theorem Staffed.insert {config : Config SftpShared Phase}
    (staffed : Staffed config) {request : TransferRequest}
    (move : Move thread choice config.shared (.insertTask request) next
      (.registerEntry (newTask choice request)) events)
    (running : config.threads thread = some (.insertTask request))
    (fresh : choice.uuid ∉ config.shared.issued) :
    Staffed ⟨next, Function.update config.threads thread
      (some (.registerEntry (newTask choice request)))⟩ := by
  refine staffed.advance move running ?_ ?_ ?_ ?_ ?_ ?_ ?_
  · refine staffed.oneEach.claim (fun other holds => ?_) thread
    exact fresh (staffed.issued other _ holds)
  · intro taskId named
    obtain rfl := Option.some.inj named
    exact move.inserted_issued
  · exact staffed.places.release thread
  · intro job employed
    cases employed
  · intro sessionId concerns
    apply move.registered_subset
    rcases concerns with ⟨asked, named, -⟩ | ⟨task, named, rfl⟩ |
      ⟨job, employed, -⟩
    · cases named
    · obtain rfl := Option.some.inj named
      exact staffed.concerned thread _ _ running (.inl ⟨request, rfl, rfl⟩)
    · cases employed
  · intro job employed
    cases employed
  · intro task same
    cases same

/-- The worker of a task takes the next place of its session. -/
theorem Staffed.enqueue {config : Config SftpShared Phase}
    (staffed : Staffed config) {task : TransferTask}
    (move : Move thread choice config.shared (.registerEntry task) next
      (.work (jobOf config.shared task)) events)
    (running : config.threads thread = some (.registerEntry task)) :
    Staffed ⟨next, Function.update config.threads thread
      (some (.work (jobOf config.shared task)))⟩ := by
  have same : (Phase.work (jobOf config.shared task)).task? =
      config.holdings Phase.task? thread :=
    (Config.holdings_of_running running Phase.task?).symm
  have known := staffed.concerned thread _ task.sessionId running
    (.inr (.inl ⟨task, rfl, rfl⟩))
  refine staffed.advance move running ?_ ?_ ?_ ?_ ?_ ?_ ?_
  · rw [same, Function.update_eq_self]
    exact staffed.oneEach
  · rw [same]
    exact fun taskId holds => move.issued (staffed.issued thread taskId holds)
  · refine staffed.places.claim (fun other holds => ?_) thread
    obtain ⟨current, found, placed⟩ := Option.bind_eq_some_iff.mp holds
    obtain ⟨job, employed, place⟩ := Option.map_eq_some_iff.mp placed
    have queued := staffed.queued other job
      ((Config.holdings_of_running found _).trans employed)
    obtain ⟨sessionEq, seqEq⟩ := Prod.mk.inj place
    rw [sessionEq, seqEq] at queued
    exact Nat.lt_irrefl _ queued
  · intro job employed
    obtain rfl := Option.some.inj employed
    exact move.enqueued_seq
  · intro sessionId concerns
    apply move.registered_subset
    rcases concerns with ⟨asked, named, -⟩ | ⟨other, named, -⟩ |
      ⟨job, employed, rfl⟩
    · cases named
    · cases named
    · obtain rfl := Option.some.inj employed
      exact known
  · intro job employed
    cases employed
  · rintro other entry
    obtain rfl := Phase.registerEntry.inj entry
    rfl

theorem Staffed.spawn {config : Config SftpShared Phase}
    (staffed : Staffed config) {start : Phase}
    (free : config.threads thread = none)
    (admitted : service.admits start = true) :
    Staffed ⟨config.shared,
      Function.update config.threads thread (some start)⟩ := by
  have idle : start.job? = none ∧ start.entry? = none ∧
      start.request? = none := by
    cases start <;> first | exact ⟨rfl, rfl, rfl⟩ | simp [service] at admitted
  have nothing : ∀ {Key : Type} (holds : Phase → Option Key),
      holds start = none →
        (⟨config.shared, Function.update config.threads thread (some start)⟩ :
          Config SftpShared Phase).holdings holds = config.holdings holds := by
    intro Key holds none
    refine Config.holdings_unchanged config.shared ?_
    simp [Config.holdings, free, none]
  have sameTasks := nothing Phase.task? (by simp [Phase.task?, idle])
  have samePlaces := nothing Phase.place? (by simp [Phase.place?, idle])
  have sameJobs := nothing Phase.job? idle.1
  refine ⟨staffed.tasks, ?_, ?_, ?_, ?_, ?_, staffed.handles, ?_⟩
  · rw [sameTasks]
    exact staffed.issued
  · rw [sameTasks]
    exact staffed.oneEach
  · rw [samePlaces]
    exact staffed.places
  · rw [sameJobs]
    exact staffed.queued
  · intro other current sessionId found concerns
    rcases of_update_eq_some found with ⟨-, same⟩ | ⟨-, before⟩
    · obtain rfl := Option.some.inj same
      simp [Phase.Concerns, idle] at concerns
    · exact staffed.concerned other current sessionId before concerns
  · rw [sameJobs]
    exact staffed.tokens

theorem Staffed.step {config final : Config SftpShared Phase}
    {action : ThreadAction Phase Choice} (staffed : Staffed config)
    (stepped : service.machine.step config action = some (final, events)) :
    Staffed final := by
  rcases Program.machine_step_cases stepped with
    ⟨thread, start, -, free, admitted, rfl, rfl⟩ |
    ⟨thread, choice, current, shared, after, -, running, moved, rfl⟩
  · exact staffed.spawn free admitted
  · have move := step_move moved
    cases move.employs with
    | kept job before entry request =>
        exact staffed.keep move running job before entry request
    | inserted fresh => exact staffed.insert move running fresh
    | enqueued => exact staffed.enqueue move running

theorem initial_staffed : Staffed initial := by
  constructor <;> simp [initial, SftpShared.empty, Config.holdings, Exclusive,
    SftpHandle.new]

end Sftp

end TitanSSH
