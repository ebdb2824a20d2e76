import TitanSSH.Core.Monitor.Teardown

namespace TitanSSH

open Interleaving

namespace Monitor

variable {Usage : Type}

/-! What is told of a task, against what the registry has for it.  A worker
changes the status under the lock and tells of it afterwards. -/

def Event.tells (taskId : String) : Event Usage → Option TaskStatusEvent
  | .taskStatus event => if event.taskId = taskId then some event else none
  | _ => none

def told (taskId : String) (log : List (Event Usage)) : List TaskStatusEvent :=
  log.filterMap (Event.tells taskId)

def toldStatuses (taskId : String) (log : List (Event Usage)) :
    List TaskStatus :=
  (told taskId log).map fun event => event.status

/-- The two ways that a task can go. -/
def Course (path : List TaskStatus) : Prop :=
  path <+: [.pending, .running, .done] ∨ path <+: [.pending, .running, .failed]

/-- Failures come with their reason, and nothing else does. -/
def Explained (event : TaskStatusEvent) : Prop :=
  event.error.isSome = true ↔ event.status = .failed

def status? (shared : MonitorShared Usage) (taskId : String) :
    Option TaskStatus :=
  (shared.tasks.lookup taskId).map fun handle => handle.taskInfo.status

/-- The task that the thread was started for. -/
def Phase.taskId? : Phase Usage → Option String
  | .announcing job | .working job _ => some job.taskId
  | _ => none

/-- What the registry has taken and the thread has still to tell. -/
def Phase.due : Phase Usage → List TaskStatus
  | .announcing _ => [.pending]
  | .working _ (.emit status _ _) => [status]
  | _ => []

/-! Where a worker can stand. -/

/-- The registry has the status, unless the task is gone. -/
def Has (status : Option TaskStatus) (expected : TaskStatus) : Prop :=
  ∀ found, status = some found → found = expected

inductive Way : List TaskStatus → Option TaskStatus → Prop
  -- the task was gone before its worker began
  | refused : Way [.pending] none
  | running {status : Option TaskStatus} (has : Has status .running) :
      Way [.pending, .running] status
  | failed {status : Option TaskStatus} (has : Has status .failed) :
      Way [.pending, .running, .failed] status

/-- The turns of the collecting loop. -/
def MonitorTurn.isLoop : MonitorTurn Usage → Bool
  | .entering | .connecting | .checking | .collecting | .storing _
  | .pushing _ | .resting => true
  | _ => false

/-- The turn of a worker beside what has been told of its task and what the
registry has for it. -/
inductive Stands :
    MonitorTurn Usage → List TaskStatus → Option TaskStatus → Prop
  | beginning {status : Option TaskStatus} (has : Has status .pending) :
      Stands (.transit .running none .entering) [.pending] status
  | begun {status : Option TaskStatus} (has : Has status .running) :
      Stands (.emit .running none .entering) [.pending] status
  | looping {turn : MonitorTurn Usage} {path : List TaskStatus}
      {status : Option TaskStatus} (loops : turn.isLoop = true)
      (way : Way path status) : Stands turn path status
  | failing {detail : String} {onward : MonitorTurn Usage}
      {path : List TaskStatus} {status : Option TaskStatus}
      (goes : onward = finish ∨ onward = .resting) (way : Way path status) :
      Stands (.transit .failed (some detail) onward) path status
  | failed {detail : String} {onward : MonitorTurn Usage}
      {status : Option TaskStatus}
      (goes : onward = finish ∨ onward = .resting) (has : Has status .failed) :
      Stands (.emit .failed (some detail) onward) [.pending, .running] status
  | finishing {path : List TaskStatus} {status : Option TaskStatus}
      (way : Way path status) : Stands finish path status
  | finished {status : Option TaskStatus} (has : Has status .done) :
      Stands (.emit .done none .ended) [.pending, .running] status
  | ceased {path : List TaskStatus} {status : Option TaskStatus}
      (way : Way path status) (ended : status ≠ some .running) :
      Stands .ended path status
  | done {status : Option TaskStatus} (has : Has status .done) :
      Stands .ended [.pending, .running, .done] status

variable {status later : Option TaskStatus} {expected : TaskStatus}
variable {path : List TaskStatus} {turn : MonitorTurn Usage}

theorem Has.fade (has : Has status expected)
    (fades : ∀ found, later = some found → status = some found) :
    Has later expected :=
  fun found holds => has found (fades found holds)

theorem Has.self (status : TaskStatus) : Has (some status) status :=
  fun _ same => (Option.some.inj same).symm

theorem Way.fade (way : Way path status)
    (fades : ∀ found, later = some found → status = some found) :
    Way path later := by
  cases way with
  | refused =>
      cases later with
      | none => exact .refused
      | some found => exact absurd (fades found rfl) (by simp)
  | running has => exact .running (has.fade fades)
  | failed has => exact .failed (has.fade fades)

theorem Stands.fade (stands : Stands turn path status)
    (fades : ∀ found, later = some found → status = some found) :
    Stands turn path later := by
  cases stands with
  | beginning has => exact .beginning (has.fade fades)
  | begun has => exact .begun (has.fade fades)
  | looping loops way => exact .looping loops (way.fade fades)
  | failing goes way => exact .failing goes (way.fade fades)
  | failed goes has => exact .failed goes (has.fade fades)
  | finishing way => exact .finishing (way.fade fades)
  | finished has => exact .finished (has.fade fades)
  | ceased way ended =>
      exact .ceased (way.fade fades) fun holds => ended (fades _ holds)
  | done has => exact .done (has.fade fades)

/-- The turns that a turn of the loop leads to. -/
inductive LeadsOn : MonitorTurn Usage → Prop
  | looping {turn : MonitorTurn Usage} (loops : turn.isLoop = true) :
      LeadsOn turn
  | finishing : LeadsOn finish
  | collectFailed (error : AppError) : LeadsOn (collectFailed error)
  | pushFailed (error : String) : LeadsOn (pushFailed error)

theorem Stands.lead (leads : LeadsOn turn) (way : Way path status) :
    Stands turn path status := by
  cases leads with
  | looping loops => exact .looping loops way
  | finishing => exact .finishing way
  | collectFailed error => exact .failing (.inl rfl) way
  | pushFailed error => exact .failing (.inr rfl) way

theorem Stands.way (stands : Stands turn path status)
    (loops : turn.isLoop = true) : Way path status := by
  cases stands with
  | looping _ way => exact way
  | _ => cases loops

/-! Everything one step can do to the tasks. -/

variable {thread : ℕ} {choice : Choice Usage}
variable {shared next : MonitorShared Usage} {phase after : Phase Usage}
variable {log events : List (Event Usage)} {taskId : String}

def Event.isStatus : Event Usage → Bool
  | .taskStatus _ => true
  | _ => false

/-- Tasks go, and none is changed. -/
def Fades (shared next : MonitorShared Usage) : Prop :=
  next.issued = shared.issued ∧
    ∀ taskId found, status? next taskId = some found →
      status? shared taskId = some found

theorem Fades.refl (shared : MonitorShared Usage) : Fades shared shared :=
  ⟨rfl, fun _ _ same => same⟩

inductive Effect (shared : MonitorShared Usage) :
    Phase Usage → MonitorShared Usage → Phase Usage → List (Event Usage) → Prop
  | aside {phase after : Phase Usage} {next : MonitorShared Usage}
      {events : List (Event Usage)} (before : phase.taskId? = none)
      (idle : after.taskId? = none) (fades : Fades shared next)
      (untold : ∀ event ∈ events, event.isStatus = false) :
      Effect shared phase next after events
  | registered {choice : Choice Usage} {sessionId : String}
      (fresh : choice.uuid ∉ shared.issued) :
      Effect shared (.registering sessionId) (register shared choice sessionId)
        (.announcing ⟨sessionId, choice.uuid⟩)
        [.registered choice.uuid sessionId]
  | announced {job : MonitorJob} :
      Effect shared (.announcing job) shared
        (.working job (.transit .running none .entering))
        [.taskStatus (taskStatusEvent job.taskId .pending none)]
  | taken {job : MonitorJob} {status before : TaskStatus}
      {message : Option String} {onward : MonitorTurn Usage}
      {tasks : FiniteMap String MonitorTaskHandle}
      (stood : status? shared job.taskId = some before)
      (legal : isLegal before status = true)
      (stands : status? { shared with tasks := tasks } job.taskId =
        some status)
      (others : ∀ other, other ≠ job.taskId →
        status? { shared with tasks := tasks } other = status? shared other) :
      Effect shared (.working job (.transit status message onward))
        { shared with tasks := tasks }
        (.working job (.emit status message onward)) []
  | rejected {job : MonitorJob} {status : TaskStatus}
      {message : Option String} {onward : MonitorTurn Usage}
      (illegal : ∀ before, status? shared job.taskId = some before →
        isLegal before status = false) :
      Effect shared (.working job (.transit status message onward)) shared
        (.working job onward) []
  | emitted {job : MonitorJob} {status : TaskStatus}
      {message : Option String} {onward : MonitorTurn Usage} :
      Effect shared (.working job (.emit status message onward)) shared
        (.working job onward)
        [.taskStatus (taskStatusEvent job.taskId status message)]
  | worked {job : MonitorJob} {turn onward : MonitorTurn Usage}
      {next : MonitorShared Usage} {events : List (Event Usage)}
      (loops : turn.isLoop = true) (leads : LeadsOn onward)
      (fades : Fades shared next)
      (untold : ∀ event ∈ events, event.isStatus = false) :
      Effect shared (.working job turn) next (.working job onward) events

theorem Effect.silent (before : phase.taskId? = none)
    (idle : after.taskId? = none) : Effect shared phase shared after [] :=
  .aside before idle (.refl shared) (by simp)

theorem refuse_effect {error : AppError} (before : phase.taskId? = none)
    (refused : refuse thread shared error = (next, after, events)) :
    Effect shared phase next after events := by
  obtain ⟨rfl, rfl, rfl⟩ := refused
  exact .aside before rfl (.refl shared) (by simp [Event.isStatus])

theorem fades_of_kept {tasks : FiniteMap String MonitorTaskHandle}
    {shutdown : String → Bool}
    (kept : ∀ taskId handle, tasks.lookup taskId = some handle →
      shared.tasks.lookup taskId = some handle) :
    Fades shared { shared with tasks := tasks, shutdown := shutdown } := by
  refine ⟨rfl, fun taskId found holds => ?_⟩
  obtain ⟨handle, present, same⟩ := Option.map_eq_some_iff.mp holds
  exact Option.map_eq_some_iff.mpr ⟨handle, kept taskId handle present, same⟩

theorem fades_stopMonitoring (shared : MonitorShared Usage) (taskId : String) :
    Fades shared (stopMonitoring shared taskId) := by
  unfold stopMonitoring
  split
  · exact .refl shared
  · exact fades_of_kept fun _ _ present =>
      (FiniteMap.lookup_erase_eq_some.mp present).2

theorem fades_stopTasks (shared : MonitorShared Usage) (sessionId : String) :
    Fades shared (stopTasks shared sessionId) :=
  fades_of_kept fun _ _ present =>
    (FiniteMap.lookup_retain_eq_some.mp present).1

theorem stepTransit_effect {job : MonitorJob} {status : TaskStatus}
    {message : Option String} {onward turn : MonitorTurn Usage}
    (stepped : stepTransit shared job status message onward =
      (next, turn, events)) :
    Effect shared (.working job (.transit status message onward)) next
      (.working job turn) events := by
  unfold stepTransit transitionTaskStatus at stepped
  cases found : shared.tasks.lookup job.taskId with
  | none =>
      simp only [found, Prod.mk.injEq] at stepped
      obtain ⟨rfl, rfl, rfl⟩ := stepped
      exact .rejected (by simp [status?, found])
  | some handle =>
      have stood : status? shared job.taskId = some handle.taskInfo.status := by
        simp [status?, found]
      cases legal : isLegal handle.taskInfo.status status with
      | false =>
          simp only [found, legal, Bool.false_eq_true, if_false,
            Prod.mk.injEq] at stepped
          obtain ⟨rfl, rfl, rfl⟩ := stepped
          refine .rejected fun before holds => ?_
          obtain rfl := Option.some.inj (stood.symm.trans holds)
          exact legal
      | true =>
          simp only [found, legal, if_true, Prod.mk.injEq] at stepped
          obtain ⟨rfl, rfl, rfl⟩ := stepped
          refine .taken stood legal (by simp [status?]) fun other different => ?_
          simp [status?, FiniteMap.lookup_insert_of_ne _ _ different]

theorem stepWorking_effect {job : MonitorJob} {turn onward : MonitorTurn Usage}
    (stepped : stepWorking choice shared job turn =
      some (next, onward, events)) :
    Effect shared (.working job turn) next (.working job onward) events := by
  cases turn with
  | transit status message rest =>
      exact stepTransit_effect (Option.some.inj stepped)
  | emit status message rest =>
      cases stepped
      exact .emitted
  | entering | checking =>
      cases stepped
      refine .worked rfl ?_ (.refl shared) (by simp)
      split
      · exact .finishing
      · exact .looping rfl
  | resting =>
      cases stepped
      exact .worked rfl (.looping rfl) (.refl shared) (by simp)
  | connecting =>
      simp only [stepWorking] at stepped
      split at stepped
      · cases stepped
        exact .worked rfl (.looping rfl) (.refl shared) (by simp)
      · cases stepped
        exact .worked rfl (.collectFailed _) (.refl shared) (by simp)
  | collecting =>
      simp only [stepWorking] at stepped
      split at stepped
      · cases stepped
        exact .worked rfl (.looping rfl) (.refl shared) (by simp)
      · cases stepped
        exact .worked rfl (.collectFailed _) (.refl shared) (by simp)
  | storing snapshot =>
      cases stepped
      exact .worked rfl (.looping rfl) ⟨rfl, fun _ _ same => same⟩
        (by simp [Event.isStatus])
  | pushing snapshot =>
      simp only [stepWorking] at stepped
      split at stepped
      · cases stepped
        exact .worked rfl (.looping rfl) (.refl shared)
          (by simp [Event.isStatus])
      · cases stepped
        exact .worked rfl (.pushFailed _) (.refl shared) (by simp)
  | ended => cases stepped

theorem stepCall_effect {call : Call}
    (stepped : stepCall thread choice shared call =
      some (next, after, events)) :
    Effect shared (.called call) next after events := by
  cases call with
  | openSession host =>
      simp only [stepCall, stepOpen] at stepped
      split at stepped
      · cases stepped
      · cases stepped
        exact .aside rfl rfl ⟨rfl, fun _ _ same => same⟩
          (by simp [Event.isStatus])
  | startMonitoring sessionId =>
      simp only [stepCall, stepStart] at stepped
      split at stepped
      · cases stepped
        exact .silent rfl rfl
      · exact refuse_effect rfl (Option.some.inj stepped)
  | stopMonitoring taskId =>
      cases stepped
      exact .aside rfl rfl (fades_stopMonitoring shared taskId) (by simp)
  | closeSession sessionId =>
      simp only [stepCall, stepClose] at stepped
      split at stepped
      · cases stepped
        exact .aside rfl rfl ⟨rfl, fun _ _ same => same⟩ (by simp)
      · exact refuse_effect rfl (Option.some.inj stepped)

theorem step_effect (stepped : step thread choice shared phase =
      some (next, after, events)) : Effect shared phase next after events := by
  cases phase with
  | called call => exact stepCall_effect stepped
  | verifying sessionId host =>
      simp only [step, stepVerifying] at stepped
      split at stepped
      · cases stepped
        exact .silent rfl rfl
      · exact refuse_effect rfl (Option.some.inj stepped)
  | loading sessionId host =>
      simp only [step, stepLoading] at stepped
      split at stepped
      · cases stepped
        exact .silent rfl rfl
      · exact refuse_effect rfl (Option.some.inj stepped)
  | registering sessionId =>
      simp only [step, stepRegistering] at stepped
      split at stepped
      · cases stepped
      · next fresh =>
          cases stepped
          exact .registered fresh
  | announcing job =>
      cases stepped
      exact .announced
  | working job turn =>
      simp only [step] at stepped
      split at stepped
      · next worked =>
          cases stepped
          exact stepWorking_effect worked
      · cases stepped
  | stoppingTasks sessionId =>
      cases stepped
      exact .aside rfl rfl (fades_stopTasks shared sessionId)
        (by simp [Event.isStatus])
  | droppingSnapshot sessionId =>
      cases stepped
      exact .aside rfl rfl ⟨rfl, fun _ _ same => same⟩
        (by simp [Event.isStatus])
  | closing sessionId =>
      cases stepped
      exact .aside rfl rfl (.refl shared) (by simp [Event.isStatus])
  | returned => cases stepped

/-! The invariant. -/

theorem told_append (taskId : String) (log events : List (Event Usage)) :
    told taskId (log ++ events) = told taskId log ++ told taskId events :=
  List.filterMap_append

theorem told_of_untold (untold : ∀ event ∈ events, event.isStatus = false) :
    told taskId events = [] := by
  refine List.filterMap_eq_nil_iff.mpr fun event member => ?_
  have other := untold event member
  cases event with
  | taskStatus event => cases other
  | _ => rfl

theorem told_event (event : TaskStatusEvent) :
    told taskId ([.taskStatus event] : List (Event Usage)) =
      if event.taskId = taskId then [event] else [] := by
  by_cases own : event.taskId = taskId <;> simp [told, Event.tells, own]

theorem told_other {event : TaskStatusEvent} (other : event.taskId ≠ taskId) :
    told taskId ([.taskStatus event] : List (Event Usage)) = [] := by
  rw [told_event, if_neg other]

/-- What is known where a thread stands. -/
def Tells (log : List (Event Usage)) (shared : MonitorShared Usage) :
    Phase Usage → Prop
  | .announcing job =>
      told job.taskId log = [] ∧ Has (status? shared job.taskId) .pending
  | .working job turn =>
      Stands turn (toldStatuses job.taskId log) (status? shared job.taskId)
  | _ => True

theorem Tells.keep (tells : Tells log shared phase)
    (same : ∀ taskId, phase.taskId? = some taskId →
      told taskId (log ++ events) = told taskId log)
    (fades : ∀ taskId, phase.taskId? = some taskId →
      ∀ found, status? next taskId = some found →
        status? shared taskId = some found) :
    Tells (log ++ events) next phase := by
  cases phase with
  | announcing job =>
      exact ⟨(same job.taskId rfl).trans tells.1,
        tells.2.fade (fades job.taskId rfl)⟩
  | working job turn =>
      have kept : toldStatuses job.taskId (log ++ events) =
          toldStatuses job.taskId log :=
        congrArg (List.map _) (same job.taskId rfl)
      change Stands turn (toldStatuses job.taskId (log ++ events)) _
      rw [kept]
      exact Stands.fade tells (fades job.taskId rfl)
  | _ => trivial

structure Telling (log : List (Event Usage))
    (config : Config (MonitorShared Usage) (Phase Usage)) : Prop where
  apart : Exclusive (config.holdings Phase.taskId?)
  issued : ∀ taskId, taskId ∈ config.shared.issued ↔
    ∃ thread, config.holdings Phase.taskId? thread = some taskId
  unknown : ∀ taskId, taskId ∉ config.shared.issued →
    told taskId log = [] ∧ status? config.shared taskId = none
  tells : ∀ thread phase, config.threads thread = some phase →
    Tells log config.shared phase
  explained : ∀ taskId, ∀ event ∈ told taskId log, Explained event

variable {config final : Config (MonitorShared Usage) (Phase Usage)}
variable {action : ThreadAction (Phase Usage) (Choice Usage)}

theorem initial_telling :
    Telling [] (initial : Config (MonitorShared Usage) (Phase Usage)) where
  apart := nofun
  issued := by simp [initial, empty, Config.holdings]
  unknown := by simp [initial, empty, told, status?, FiniteMap.lookup_empty]
  tells := nofun
  explained := by simp [told]

/-- A step that says nothing of other tasks, of a thread that stays with its
own. -/
theorem Telling.stay (telling : Telling log config)
    (running : config.threads thread = some phase)
    (same : after.taskId? = phase.taskId?)
    (issued : next.issued = config.shared.issued)
    (others : ∀ taskId, phase.taskId? ≠ some taskId →
      told taskId events = [] ∧ ∀ found, status? next taskId = some found →
        status? config.shared taskId = some found)
    (own : Tells (log ++ events) next after)
    (explained : ∀ taskId, ∀ event ∈ told taskId events, Explained event) :
    Telling (log ++ events)
      ⟨next, Function.update config.threads thread (some after)⟩ := by
  have holds := Config.holdings_of_running running Phase.taskId?
  have kept := Config.holdings_unchanged next (same.trans holds.symm)
  refine ⟨?_, ?_, ?_, everywhere_update own ?_, ?_⟩
  · rw [kept]
    exact telling.apart
  · rw [kept, issued]
    exact telling.issued
  · intro taskId missing
    rw [issued] at missing
    obtain ⟨untold, absent⟩ := telling.unknown taskId missing
    have elsewhere : phase.taskId? ≠ some taskId := fun mine =>
      missing ((telling.issued taskId).mpr ⟨thread, holds.trans mine⟩)
    obtain ⟨nothing, fades⟩ := others taskId elsewhere
    refine ⟨by rw [told_append, untold, nothing]; rfl, ?_⟩
    cases stood : status? next taskId with
    | none => rfl
    | some found =>
        have before := fades found stood
        rw [absent] at before
        cases before
  · intro other current different found
    have apart : ∀ taskId, current.taskId? = some taskId →
        phase.taskId? ≠ some taskId := by
      intro taskId theirs mine
      exact different (telling.apart other thread taskId
        ((Config.holdings_of_running found Phase.taskId?).trans theirs)
        (holds.trans mine))
    refine (telling.tells other current found).keep ?_ ?_
    · intro taskId theirs
      rw [told_append, (others taskId (apart taskId theirs)).1,
        List.append_nil]
    · exact fun taskId theirs => (others taskId (apart taskId theirs)).2
  · intro taskId event member
    rw [told_append] at member
    cases List.mem_append.mp member with
    | inl before => exact telling.explained taskId event before
    | inr now => exact explained taskId event now

theorem Telling.quiet (telling : Telling log config)
    (running : config.threads thread = some phase)
    (same : after.taskId? = phase.taskId?)
    (issued : next.issued = config.shared.issued)
    (untold : ∀ event ∈ events, event.isStatus = false)
    (others : ∀ taskId, phase.taskId? ≠ some taskId →
      ∀ found, status? next taskId = some found →
        status? config.shared taskId = some found)
    (own : Tells (log ++ events) next after) :
    Telling (log ++ events)
      ⟨next, Function.update config.threads thread (some after)⟩ := by
  refine telling.stay running same issued ?_ own ?_
  · exact fun taskId elsewhere =>
      ⟨told_of_untold untold, others taskId elsewhere⟩
  · intro taskId event member
    rw [told_of_untold untold] at member
    cases member

theorem Telling.tell (telling : Telling log config) {job : MonitorJob}
    {event : TaskStatusEvent}
    (running : config.threads thread = some phase)
    (mine : phase.taskId? = some job.taskId)
    (same : after.taskId? = some job.taskId)
    (named : event.taskId = job.taskId) (explained : Explained event)
    (own : Tells (log ++ [.taskStatus event]) config.shared after) :
    Telling (log ++ [.taskStatus event])
      ⟨config.shared, Function.update config.threads thread (some after)⟩ := by
  refine telling.stay running (same.trans mine.symm) rfl ?_ own ?_
  · intro taskId elsewhere
    rw [mine] at elsewhere
    refine ⟨told_other fun clash => elsewhere ?_, fun _ same => same⟩
    rw [← clash, named]
  · intro taskId other member
    rw [told_event] at member
    split at member
    · rw [List.mem_singleton.mp member]
      exact explained
    · cases member

theorem status?_register (shared : MonitorShared Usage)
    (choice : Choice Usage) (sessionId taskId : String) :
    status? (register shared choice sessionId) taskId =
      if taskId = choice.uuid then some .pending else status? shared taskId := by
  unfold status? register
  split
  · next same =>
      subst same
      simp [newTask]
  · next different => simp [FiniteMap.lookup_insert_of_ne _ _ different]

theorem Telling.register (telling : Telling log config) {sessionId : String}
    (running : config.threads thread = some (.registering sessionId))
    (fresh : choice.uuid ∉ config.shared.issued) :
    Telling (log ++ [.registered choice.uuid sessionId])
      ⟨register config.shared choice sessionId, Function.update config.threads
        thread (some (.announcing ⟨sessionId, choice.uuid⟩))⟩ := by
  have idle : config.holdings Phase.taskId? thread = none :=
    Config.holdings_of_running running Phase.taskId?
  have free : ∀ other, config.holdings Phase.taskId? other ≠
      some choice.uuid := fun other holds =>
    fresh ((telling.issued _).mpr ⟨other, holds⟩)
  have silent : ∀ taskId,
      told taskId (log ++ [.registered choice.uuid sessionId]) =
        told taskId log := by
    intro taskId
    have nothing : told taskId
        ([.registered choice.uuid sessionId] : List (Event Usage)) = [] := rfl
    rw [told_append, nothing, List.append_nil]
  have advanced := Config.holdings_advance config
    (Monitor.register config.shared choice sessionId) Phase.taskId? thread
    (.announcing ⟨sessionId, choice.uuid⟩)
  refine ⟨?_, ?_, ?_, everywhere_update ?_ ?_, ?_⟩
  · rw [advanced]
    exact telling.apart.claim free thread
  · intro taskId
    rw [advanced]
    refine Iff.trans ?_ (held_after_claim idle choice.uuid taskId).symm
    rw [← telling.issued taskId]
    exact Finset.mem_insert
  · intro taskId missing
    obtain ⟨different, before⟩ := not_or.mp (mt Finset.mem_insert.mpr missing)
    obtain ⟨untold, absent⟩ := telling.unknown taskId before
    refine ⟨(silent taskId).trans untold, ?_⟩
    change status? (Monitor.register config.shared choice sessionId) _ = _
    rw [status?_register, if_neg different, absent]
  · refine ⟨(silent _).trans (telling.unknown _ fresh).1, ?_⟩
    rw [status?_register, if_pos rfl]
    exact Has.self .pending
  · intro other current different found
    refine (telling.tells other current found).keep
      (fun taskId _ => silent taskId) fun taskId theirs => ?_
    have elsewhere : taskId ≠ choice.uuid := by
      rintro rfl
      exact free other
        ((Config.holdings_of_running found Phase.taskId?).trans theirs)
    rw [status?_register, if_neg elsewhere]
    exact fun _ same => same
  · intro taskId event member
    rw [silent] at member
    exact telling.explained taskId event member

/-! What a worker does to where it stands. -/

variable {taskStatus before : TaskStatus} {message : Option String}
variable {onward : MonitorTurn Usage}

theorem Stands.take
    (stands : Stands (.transit taskStatus message onward) path (some before))
    (legal : isLegal before taskStatus = true) :
    Stands (.emit taskStatus message onward) path (some taskStatus) := by
  cases stands with
  | beginning has => exact .begun (.self _)
  | looping loops => cases loops
  | failing goes way =>
      cases way with
      | running has => exact .failed goes (.self _)
      | failed has =>
          obtain rfl := has before rfl
          cases legal
  | finishing way =>
      cases way with
      | running has => exact .finished (.self _)
      | failed has =>
          obtain rfl := has before rfl
          cases legal

theorem Stands.reject
    (stands : Stands (.transit taskStatus message onward) path status)
    (illegal : ∀ before, status = some before →
      isLegal before taskStatus = false) : Stands onward path status := by
  cases stands with
  | beginning has =>
      cases status with
      | none => exact .looping rfl .refused
      | some before =>
          obtain rfl := has before rfl
          cases illegal _ rfl
  | looping loops => cases loops
  | failing goes way =>
      cases goes with
      | inl finishes => exact finishes ▸ .finishing way
      | inr rests => exact rests ▸ .looping rfl way
  | finishing way =>
      refine .ceased way fun running => ?_
      cases illegal _ running

theorem Stands.emit
    (stands : Stands (.emit taskStatus message onward) path status) :
    Stands onward (path ++ [taskStatus]) status ∧
      (message.isSome = true ↔ taskStatus = .failed) := by
  cases stands with
  | begun has => exact ⟨.looping rfl (.running has), by simp⟩
  | looping loops => cases loops
  | failed goes has =>
      refine ⟨?_, by simp⟩
      cases goes with
      | inl finishes => exact finishes ▸ .finishing (.failed has)
      | inr rests => exact rests ▸ .looping rfl (.failed has)
  | finished has => exact ⟨.done has, by simp⟩

theorem toldStatuses_append (taskId : String)
    (first second : List (Event Usage)) :
    toldStatuses taskId (first ++ second) =
      toldStatuses taskId first ++ toldStatuses taskId second := by
  simp [toldStatuses, told_append]

theorem toldStatuses_self (taskId : String) (status : TaskStatus)
    (message : Option String) :
    toldStatuses taskId ([.taskStatus (taskStatusEvent taskId status message)] :
      List (Event Usage)) = [status] := by
  simp [toldStatuses, told, Event.tells, taskStatusEvent]

theorem toldStatuses_quiet (untold : ∀ event ∈ events, event.isStatus = false)
    (taskId : String) :
    toldStatuses taskId (log ++ events) = toldStatuses taskId log := by
  rw [toldStatuses, told_append, told_of_untold untold, List.append_nil]
  rfl

theorem explained_of (explains : message.isSome = true ↔ taskStatus = .failed) :
    Explained (taskStatusEvent taskId taskStatus message) := by
  unfold Explained taskStatusEvent
  rw [Option.isSome_map]
  exact explains

theorem tells_of_idle (idle : phase.taskId? = none) :
    Tells log shared phase := by
  cases phase <;> trivial

theorem Telling.advance (telling : Telling log config)
    (running : config.threads thread = some phase)
    (effect : Effect config.shared phase next after events) :
    Telling (log ++ events)
      ⟨next, Function.update config.threads thread (some after)⟩ := by
  have tells := telling.tells thread phase running
  cases effect with
  | aside idleBefore idle fades untold =>
      exact telling.quiet running (idle.trans idleBefore.symm) fades.1 untold
        (fun taskId _ => fades.2 taskId) (tells_of_idle idle)
  | registered fresh => exact telling.register running fresh
  | @announced job =>
      refine telling.tell running rfl rfl rfl (explained_of (by simp)) ?_
      have untold : toldStatuses job.taskId log = [] := by
        rw [toldStatuses, tells.1]
        rfl
      change Stands _ (toldStatuses job.taskId _) _
      rw [toldStatuses_append, toldStatuses_self, untold]
      exact .beginning tells.2
  | @taken job status before message onward tasks stood legal stands others =>
      refine telling.quiet running rfl rfl (by simp) ?_ ?_
      · intro taskId elsewhere found holds
        rwa [others taskId fun same => elsewhere (same ▸ rfl)] at holds
      · have taking : Stands _ _ _ := tells
        rw [stood] at taking
        change Stands _ (toldStatuses job.taskId (log ++ [])) _
        rw [List.append_nil, stands]
        exact taking.take legal
  | @rejected job status message onward illegal =>
      refine telling.quiet running rfl rfl (by simp)
        (fun _ _ _ same => same) ?_
      change Stands _ (toldStatuses job.taskId (log ++ [])) _
      rw [List.append_nil]
      exact Stands.reject tells illegal
  | @emitted job status message onward =>
      obtain ⟨stands, explains⟩ := Stands.emit tells
      refine telling.tell running rfl rfl rfl (explained_of explains) ?_
      change Stands _ (toldStatuses job.taskId _) _
      rw [toldStatuses_append, toldStatuses_self]
      exact stands
  | @worked job turn onward next events loops leads fades untold =>
      refine telling.quiet running rfl fades.1 untold
        (fun taskId _ => fades.2 taskId) ?_
      change Stands _ (toldStatuses job.taskId _) _
      rw [toldStatuses_quiet untold]
      exact .lead leads ((Stands.way tells loops).fade (fades.2 job.taskId))

theorem Telling.step (telling : Telling log config)
    (stepped : (program Usage).machine.step config action =
      some (final, events)) : Telling (log ++ events) final := by
  rcases Program.machine_step_cases stepped with
    ⟨thread, start, rfl, free, admitted, rfl, rfl⟩ |
    ⟨thread, choice, current, shared, phase, rfl, running, moved, rfl⟩
  · have idle : start.taskId? = none := by
      cases start <;> first | rfl | cases admitted
    have absent : config.holdings Phase.taskId? thread = none := by
      simp [Config.holdings, free]
    have kept := Config.holdings_unchanged config.shared (idle.trans absent.symm)
    refine ⟨by rw [kept]; exact telling.apart, by rw [kept]; exact telling.issued,
      ?_, everywhere_update (tells_of_idle idle) ?_, ?_⟩
    · simpa [program] using telling.unknown
    · intro other current _ found
      simpa [program] using telling.tells other current found
    · simpa [program] using telling.explained
  · exact telling.advance running (step_effect moved)

theorem Telling.of_run
    {actions : List (ThreadAction (Phase Usage) (Choice Usage))}
    (run : (program Usage).machine.Run initial actions log config) :
    Telling log config :=
  run.invariant initial_telling fun _ _ _ _ _ telling stepped =>
    telling.step stepped

/-! What the events of one task come to. -/

theorem course_of_prefix (pre : path <+: [.pending, .running]) : Course path :=
  .inl (pre.trans ⟨[.done], rfl⟩)

theorem Way.course (way : Way path status) : Course path := by
  cases way with
  | refused => exact course_of_prefix ⟨[.running], rfl⟩
  | running => exact course_of_prefix List.prefix_rfl
  | failed => exact .inr List.prefix_rfl

theorem Stands.course (stands : Stands turn path status) : Course path := by
  cases stands with
  | beginning | begun => exact course_of_prefix ⟨[.running], rfl⟩
  | looping _ way | failing _ way | finishing way | ceased way _ =>
      exact way.course
  | failed | finished => exact course_of_prefix List.prefix_rfl
  | done => exact .inl List.prefix_rfl

theorem Way.last {found : TaskStatus} (way : Way path (some found)) :
    path.getLast? = some found := by
  cases way with
  | running has => rw [has found rfl]; rfl
  | failed has => rw [has found rfl]; rfl

theorem due_of_isLoop (job : MonitorJob) (loops : turn.isLoop = true) :
    (Phase.working job turn).due = [] := by
  cases turn <;> first | rfl | cases loops

theorem Stands.last {job : MonitorJob} {found : TaskStatus}
    (stands : Stands turn path (some found)) :
    (path ++ (Phase.working job turn).due).getLast? = some found := by
  cases stands with
  | beginning has => rw [has found rfl]; rfl
  | begun has => rw [has found rfl]; rfl
  | looping loops way =>
      rw [due_of_isLoop job loops, List.append_nil]
      exact way.last
  | failing _ way | finishing way | ceased way _ =>
      change (path ++ []).getLast? = _
      rw [List.append_nil]
      exact way.last
  | failed _ has => rw [has found rfl]; rfl
  | finished has => rw [has found rfl]; rfl
  | done has => rw [has found rfl]; rfl

theorem Stands.ended {found : TaskStatus}
    (stands : Stands (.ended : MonitorTurn Usage) path (some found)) :
    found = .done ∨ found = .failed := by
  cases stands with
  | looping loops => cases loops
  | ceased way ended =>
      cases way with
      | running has => exact (ended (congrArg some (has found rfl))).elim
      | failed has => exact .inr (has found rfl)
  | done has => exact .inl (has found rfl)

def Phase.isOver : Phase Usage → Bool
  | .working _ .ended => true
  | _ => false

theorem Tells.course (tells : Tells log shared phase)
    (own : phase.taskId? = some taskId) : Course (toldStatuses taskId log) := by
  cases phase with
  | announcing job =>
      obtain rfl := Option.some.inj own
      rw [toldStatuses, tells.1]
      exact course_of_prefix (List.nil_prefix)
  | working job turn =>
      obtain rfl := Option.some.inj own
      exact Stands.course tells
  | _ => cases own

theorem Tells.last {found : TaskStatus} (tells : Tells log shared phase)
    (own : phase.taskId? = some taskId)
    (holds : status? shared taskId = some found) :
    (toldStatuses taskId log ++ phase.due).getLast? = some found ∧
      (phase.isOver = true → found = .done ∨ found = .failed) := by
  cases phase with
  | announcing job =>
      obtain rfl := Option.some.inj own
      rw [toldStatuses, tells.1, tells.2 found holds]
      exact ⟨rfl, by simp [Phase.isOver]⟩
  | working job turn =>
      obtain rfl := Option.some.inj own
      have stands : Stands turn (toldStatuses job.taskId log) (some found) :=
        holds ▸ tells
      refine ⟨stands.last, fun isOver => ?_⟩
      cases turn with
      | ended => exact stands.ended
      | _ => cases isOver
  | _ => cases own

theorem Telling.owner (telling : Telling log config)
    (issued : taskId ∈ config.shared.issued) :
    ∃ thread phase, config.threads thread = some phase ∧
      phase.taskId? = some taskId := by
  obtain ⟨thread, holds⟩ := (telling.issued taskId).mp issued
  obtain ⟨phase, running, own⟩ := Option.bind_eq_some_iff.mp holds
  exact ⟨thread, phase, running, own⟩

theorem Telling.course (telling : Telling log config) (taskId : String) :
    Course (toldStatuses taskId log) := by
  by_cases issued : taskId ∈ config.shared.issued
  · obtain ⟨thread, phase, running, own⟩ := telling.owner issued
    exact (telling.tells thread phase running).course own
  · rw [toldStatuses, (telling.unknown taskId issued).1]
    exact course_of_prefix List.nil_prefix

/-- The events of a task tell of a way from pending over running to one end, the
failures with their reason; what the registry has for it is the last to have been
told or what its worker is about to tell, and an end once the worker is over. -/
theorem task_events_follow
    {actions : List (ThreadAction (Phase Usage) (Choice Usage))}
    (run : (program Usage).machine.Run initial actions log config)
    (taskId : String) :
    Course (toldStatuses taskId log) ∧
    (∀ event ∈ told taskId log, Explained event) ∧
    ∀ found, status? config.shared taskId = some found →
      ∃ thread phase, config.threads thread = some phase ∧
        phase.taskId? = some taskId ∧
        (toldStatuses taskId log ++ phase.due).getLast? = some found ∧
        (phase.isOver = true → found = .done ∨ found = .failed) := by
  have telling := Telling.of_run run
  refine ⟨telling.course taskId, telling.explained taskId, fun found holds => ?_⟩
  have issued : taskId ∈ config.shared.issued := by
    by_contra missing
    rw [(telling.unknown taskId missing).2] at holds
    cases holds
  obtain ⟨thread, phase, running, own⟩ := telling.owner issued
  exact ⟨thread, phase, running, own,
    (telling.tells thread phase running).last own holds⟩

/-- The connection of a started task fails. -/
def failing : List Act :=
  [.advance 1 {}, .advance 1 {}, .advance 1 {}, .advance 1 {},
    .advance 1 { connectError := some ⟨.sshConnectionError, "refused"⟩ },
    .advance 1 {}, .advance 1 {}, .advance 1 {}]

theorem task_events_follow_failed :
    ∃ log config,
      (program Unit).machine.Run initial
        (opening ++ startingUp ++ registering ++ failing) log config ∧
      toldStatuses "task-1" log = [.pending, .running, .failed] ∧
      Course (toldStatuses "task-1" log) ∧
      ∀ event ∈ told "task-1" log, Explained event := by
  have executed : ∃ log config,
      (program Unit).machine.Run initial
        (opening ++ startingUp ++ registering ++ failing) log config ∧
      toldStatuses "task-1" log = [.pending, .running, .failed] :=
    ⟨_, _, Machine.run_of_execute rfl, rfl⟩
  obtain ⟨log, config, run, statuses⟩ := executed
  obtain ⟨course, explained, -⟩ := task_events_follow run "task-1"
  exact ⟨log, config, run, statuses, course, explained⟩

/-! A task that has been stopped. -/

theorem Effect.elsewhere (effect : Effect shared phase next after events)
    (other : phase.taskId? ≠ some taskId) (issued : taskId ∈ shared.issued) :
    toldStatuses taskId events = [] ∧
      ∀ found, status? next taskId = some found →
        status? shared taskId = some found := by
  cases effect with
  | aside _ _ fades untold =>
      exact ⟨congrArg _ (told_of_untold untold), fades.2 taskId⟩
  | @registered choice sessionId fresh =>
      refine ⟨rfl, fun found holds => ?_⟩
      rwa [status?_register, if_neg] at holds
      rintro rfl
      exact fresh issued
  | announced | emitted =>
      exact ⟨congrArg _ (told_other fun same => other (congrArg some same)),
        fun _ same => same⟩
  | taken _ _ _ others =>
      refine ⟨rfl, fun found holds => ?_⟩
      rwa [others taskId fun same => other (same ▸ rfl)] at holds
  | rejected => exact ⟨rfl, fun _ same => same⟩
  | worked _ _ fades untold =>
      exact ⟨congrArg _ (told_of_untold untold), fades.2 taskId⟩

theorem Stands.onward_due {job : MonitorJob}
    (stands : Stands (.transit taskStatus message onward) path status ∨
      Stands (.emit taskStatus message onward) path status) :
    (Phase.working job onward).due = [] := by
  cases stands with
  | inl stands =>
      cases stands with
      | beginning | finishing => rfl
      | looping loops => cases loops
      | failing goes => rcases goes with rfl | rfl <;> rfl
  | inr stands =>
      cases stands with
      | begun | finished => rfl
      | looping loops => cases loops
      | failed goes => rcases goes with rfl | rfl <;> rfl

theorem due_of_leads (job : MonitorJob) (leads : LeadsOn turn) :
    (Phase.working job turn).due = [] := by
  cases leads with
  | looping loops => exact due_of_isLoop job loops
  | _ => rfl

theorem Effect.gone (effect : Effect shared phase next after events)
    (tells : Tells log shared phase) (own : phase.taskId? = some taskId)
    (gone : status? shared taskId = none) :
    after.taskId? = some taskId ∧ status? next taskId = none ∧
      toldStatuses taskId events ++ after.due = phase.due := by
  have fading : Fades shared next → status? next taskId = none := by
    intro fades
    cases holds : status? next taskId with
    | none => rfl
    | some found =>
        rw [fades.2 taskId found holds] at gone
        cases gone
  cases effect with
  | aside before => rw [before] at own; cases own
  | registered => cases own
  | announced =>
      obtain rfl := Option.some.inj own
      refine ⟨rfl, gone, ?_⟩
      rw [toldStatuses_self]
      rfl
  | taken stood =>
      obtain rfl := Option.some.inj own
      rw [gone] at stood
      cases stood
  | rejected =>
      obtain rfl := Option.some.inj own
      exact ⟨rfl, gone, Stands.onward_due (.inl tells)⟩
  | @emitted job status message onward =>
      obtain rfl := Option.some.inj own
      refine ⟨rfl, gone, ?_⟩
      rw [Stands.onward_due (.inr tells), toldStatuses_self]
      rfl
  | @worked job turn onward next events loops leads fades untold =>
      obtain rfl := Option.some.inj own
      refine ⟨rfl, fading fades, ?_⟩
      rw [due_of_leads job leads, due_of_isLoop job loops, toldStatuses,
        told_of_untold untold]
      rfl

/-- The task is gone, and its worker has told a part of what was due. -/
structure Silent (taskId : String) (due : List TaskStatus)
    (log : List (Event Usage))
    (config : Config (MonitorShared Usage) (Phase Usage)) : Prop where
  issued : taskId ∈ config.shared.issued
  gone : status? config.shared taskId = none
  worker : ∃ thread phase, config.threads thread = some phase ∧
    phase.taskId? = some taskId ∧ toldStatuses taskId log ++ phase.due = due

theorem Effect.issued (effect : Effect shared phase next after events)
    (known : taskId ∈ shared.issued) : taskId ∈ next.issued := by
  cases effect with
  | aside _ _ fades | worked _ _ fades => exact fades.1 ▸ known
  | registered => exact Finset.mem_insert_of_mem known
  | _ => exact known

theorem Silent.step {earlier : List (Event Usage)} {due : List TaskStatus}
    (silent : Silent taskId due log config)
    (telling : Telling (earlier ++ log) config)
    (stepped : (program Usage).machine.step config action =
      some (final, events)) : Silent taskId due (log ++ events) final := by
  obtain ⟨issued, gone, worker, mine, waits, own, tellsDue⟩ := silent
  rcases Program.machine_step_cases stepped with
    ⟨thread, start, rfl, free, admitted, rfl, rfl⟩ |
    ⟨thread, choice, current, shared, phase, rfl, running, moved, rfl⟩
  · refine ⟨issued, gone, worker, mine, ?_, own, by simpa [program] using tellsDue⟩
    have other : worker ≠ thread := by
      rintro rfl
      rw [free] at waits
      cases waits
    exact (Function.update_of_ne other _ _).trans waits
  · have effect := step_effect moved
    rcases eq_or_ne worker thread with rfl | other
    · obtain rfl := Option.some.inj (running.symm.trans waits)
      obtain ⟨still, nothing, rest⟩ :=
        effect.gone (telling.tells worker current running) own gone
      refine ⟨effect.issued issued, nothing, worker, phase,
        Function.update_self _ _ _, still, ?_⟩
      rw [toldStatuses_append, List.append_assoc, rest, tellsDue]
    · have elsewhere : current.taskId? ≠ some taskId := fun theirs =>
        other (telling.apart worker thread taskId
          ((Config.holdings_of_running waits Phase.taskId?).trans own)
          ((Config.holdings_of_running running Phase.taskId?).trans theirs))
      obtain ⟨untold, fades⟩ := effect.elsewhere elsewhere issued
      refine ⟨effect.issued issued, ?_, worker, mine, ?_, own, ?_⟩
      · cases holds : status? shared taskId with
        | none => rfl
        | some found =>
            rw [fades found holds] at gone
            cases gone
      · exact (Function.update_of_ne other _ _).trans waits
      · rw [toldStatuses_append, untold, List.append_nil, tellsDue]

/-- Once a task has been taken out of the registry, by `stop_monitoring` or with
its session, at most one more event tells of it, which its worker was about to
send; the registry never has it again. -/
theorem stopped_task_silent
    {actions more : List (ThreadAction (Phase Usage) (Choice Usage))}
    (run : (program Usage).machine.Run initial actions log config)
    (issued : taskId ∈ config.shared.issued)
    (gone : status? config.shared taskId = none)
    (later : (program Usage).machine.Run config more events final) :
    status? final.shared taskId = none ∧
    ∃ thread phase, config.threads thread = some phase ∧
      phase.taskId? = some taskId ∧ phase.due.length ≤ 1 ∧
      toldStatuses taskId events <+: phase.due := by
  have telling := Telling.of_run run
  obtain ⟨thread, phase, running, own⟩ := telling.owner issued
  have start : Silent taskId phase.due [] config :=
    ⟨issued, gone, thread, phase, running, own, rfl⟩
  have initially : Telling (log ++ []) config ∧
      Silent taskId phase.due [] config :=
    ⟨by simpa using telling, start⟩
  have silent : Telling (log ++ events) final ∧
      Silent taskId phase.due events final := by
    refine @Machine.Run.invariant _ _ _ _ _ (fun past state =>
      Telling (log ++ past) state ∧ Silent taskId phase.due past state)
      initially ?_ _ _ _ later
    intro past state action next told both stepped
    refine ⟨?_, both.2.step both.1 stepped⟩
    rw [← List.append_assoc]
    exact both.1.step stepped
  refine ⟨silent.2.gone, thread, phase, running, own, ?_, ?_⟩
  · cases phase with
    | working job turn => cases turn <;> simp [Phase.due]
    | _ => simp [Phase.due]
  · obtain ⟨_, _, _, _, tells⟩ := silent.2.worker
    exact ⟨_, tells⟩

/-- The task is stopped when the registry has it running and nobody has been told
of that. -/
def stopping : List Act :=
  [.advance 1 {}, .advance 1 {}, .spawn 2 (.called (.stopMonitoring "task-1")),
    .advance 2 {}]

theorem stopped_task_silent_due :
    ∃ log config events final,
      (program Unit).machine.Run initial
        (opening ++ startingUp ++ registering ++ stopping) log config ∧
      (program Unit).machine.Run config [.advance 1 {}] events final ∧
      toldStatuses "task-1" events = [.running] ∧
      status? final.shared "task-1" = none := by
  have executed : ∃ log config events final,
      (program Unit).machine.Run initial
        (opening ++ startingUp ++ registering ++ stopping) log config ∧
      (program Unit).machine.Run config [.advance 1 {}] events final ∧
      "task-1" ∈ config.shared.issued ∧
      status? config.shared "task-1" = none ∧
      toldStatuses "task-1" events = [.running] :=
    ⟨_, _, _, _, Machine.run_of_execute rfl, Machine.run_of_execute rfl,
      by decide, by decide, rfl⟩
  obtain ⟨log, config, events, final, run, later, issued, gone, statuses⟩ :=
    executed
  exact ⟨log, config, events, final, run, later, statuses,
    (stopped_task_silent run issued gone later).1⟩

end Monitor

end TitanSSH
