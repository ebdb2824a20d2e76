import TitanSSH.Core.Monitor.Service
import TitanSSH.Library.GuardedRuns

namespace TitanSSH

open Interleaving

namespace Monitor

variable {Usage : Type}

/-! What a closed session leaves behind in the monitoring service. -/

def HasTask (shared : MonitorShared Usage) (sessionId : String) : Prop :=
  ∃ taskId handle, shared.tasks.lookup taskId = some handle ∧
    isOf sessionId handle = true

def HasSnapshot (shared : MonitorShared Usage) (sessionId : String) : Prop :=
  ∃ snapshot, shared.snapshots.lookup sessionId = some snapshot

def Event.stops (sessionId : String) : Event Usage → Bool
  | .tasksStopped other => other == sessionId
  | _ => false

def Event.drops (sessionId : String) : Event Usage → Bool
  | .snapshotDropped other => other == sessionId
  | _ => false

/-! Where a start or a worker stands behind the check that a teardown relies
on. -/

/-- Both lookups of the session are behind the start. -/
def Phase.starting (sessionId : String) : Phase Usage → Bool
  | .loading session _ | .registering session => session == sessionId
  | _ => false

/-- The next snapshot is stored without another look at the shutdown flag. -/
def MonitorTurn.sampling : MonitorTurn Usage → Bool
  | .collecting | .storing _ => true
  | .transit _ _ next | .emit _ _ next => next.sampling
  | _ => false

def Phase.sampling (sessionId : String) : Phase Usage → Bool
  | .working job turn => job.sessionId == sessionId && turn.sampling
  | _ => false

/-- The session is about to be closed while one of its starts has passed its
lookups, or its tasks are about to be stopped while one of its workers has passed
the check of its flag. -/
def interrupts (shared : MonitorShared Usage) (own other : Phase Usage) : Bool :=
  match own with
  | .called (.closeSession sessionId) =>
      (shared.sessions.lookup sessionId).isSome && other.starting sessionId
  | .stoppingTasks sessionId => other.sampling sessionId
  | _ => false

variable {thread : ℕ} {choice : Choice Usage}
variable {shared next : MonitorShared Usage} {phase after : Phase Usage}
variable {log events : List (Event Usage)} {sessionId : String}

/-! The registries after one step. -/

theorem hasTask_of_transition {tasks : FiniteMap String MonitorTaskHandle}
    {taskId : String} {status : TaskStatus}
    (taken : transitionTaskStatus shared.tasks taskId status = some tasks)
    (has : HasTask { shared with tasks := tasks } sessionId) :
    HasTask shared sessionId := by
  unfold transitionTaskStatus at taken
  split at taken
  · cases taken
  · next handle found =>
      split at taken
      · obtain rfl := Option.some.inj taken
        obtain ⟨other, changed, holds, own⟩ := has
        rcases eq_or_ne other taskId with rfl | different
        · rw [FiniteMap.lookup_insert_self] at holds
          obtain rfl := Option.some.inj holds
          exact ⟨other, handle, found, own⟩
        · rw [FiniteMap.lookup_insert_of_ne _ _ different] at holds
          exact ⟨other, changed, holds, own⟩
      · cases taken

theorem hasTask_of_stopMonitoring {taskId : String}
    (has : HasTask (stopMonitoring shared taskId) sessionId) :
    HasTask shared sessionId := by
  unfold stopMonitoring at has
  split at has
  · exact has
  · obtain ⟨other, handle, holds, own⟩ := has
    exact ⟨other, handle, (FiniteMap.lookup_erase_eq_some.mp holds).2, own⟩

theorem hasTask_of_register {other : String}
    (has : HasTask (register shared choice other) sessionId) :
    HasTask shared sessionId ∨ other = sessionId := by
  obtain ⟨taskId, handle, holds, own⟩ := has
  rcases eq_or_ne taskId choice.uuid with rfl | different
  · rw [register, FiniteMap.lookup_insert_self] at holds
    obtain rfl := Option.some.inj holds
    exact .inr (by simpa [isOf, newTask] using own)
  · rw [register, FiniteMap.lookup_insert_of_ne _ _ different] at holds
    exact .inl ⟨taskId, handle, holds, own⟩

theorem hasTask_of_stopTasks {other : String}
    (has : HasTask (stopTasks shared other) sessionId) :
    HasTask shared sessionId ∧ other ≠ sessionId := by
  obtain ⟨taskId, handle, holds, own⟩ := has
  obtain ⟨held, kept⟩ := FiniteMap.lookup_retain_eq_some.mp holds
  refine ⟨⟨taskId, handle, held, own⟩, ?_⟩
  rintro rfl
  simp [own] at kept

theorem hasSnapshot_of_store {other : String}
    {snapshot : MonitorSnapshot Usage}
    (has : HasSnapshot (store shared other snapshot) sessionId) :
    HasSnapshot shared sessionId ∨ other = sessionId := by
  obtain ⟨stored, holds⟩ := has
  rcases eq_or_ne sessionId other with rfl | different
  · exact .inr rfl
  · rw [store, FiniteMap.lookup_insert_of_ne _ _ different] at holds
    exact .inl ⟨stored, holds⟩

theorem hasSnapshot_of_dropSnapshot {other : String}
    (has : HasSnapshot (dropSnapshot shared other) sessionId) :
    HasSnapshot shared sessionId ∧ other ≠ sessionId := by
  obtain ⟨stored, holds⟩ := has
  obtain ⟨different, held⟩ := FiniteMap.lookup_erase_eq_some.mp holds
  exact ⟨⟨stored, held⟩, different.symm⟩

/-! Everything one step can do. -/

/-- Events that say nothing of a teardown. -/
def Event.isTeardown : Event Usage → Bool
  | .tasksStopped _ | .snapshotDropped _ | .closed _ => true
  | _ => false

/-- The worker of a task, or the call that has just registered it. -/
def Phase.job? : Phase Usage → Option MonitorJob
  | .announcing job | .working job _ => some job
  | _ => none

/-- The phases of `close_session` behind its first lock. -/
def Phase.tearsDown (sessionId : String) : Phase Usage → Prop
  | .stoppingTasks session | .droppingSnapshot session | .closing session =>
      session = sessionId
  | _ => False

inductive Move (shared : MonitorShared Usage) :
    Phase Usage → MonitorShared Usage → Phase Usage → List (Event Usage) → Prop
  | refused {phase : Phase Usage} {error : AppError} {thread : ℕ} :
      Move shared phase shared .returned [.refused thread error]
  | opened {host : HostConfig} {sessionId : String}
      (fresh : sessionId ∉ shared.opened) :
      Move shared (.called (.openSession host))
        { shared with
          sessions := shared.sessions.insert sessionId host
          opened := insert sessionId shared.opened }
        .returned [.opened sessionId]
  | lookedUp {sessionId : String} {host : HostConfig} :
      Move shared (.called (.startMonitoring sessionId)) shared
        (.verifying sessionId host) []
  | verified {sessionId : String} {host : HostConfig}
      (present : (shared.sessions.lookup sessionId).isSome = true) :
      Move shared (.verifying sessionId host) shared (.loading sessionId host) []
  | loaded {sessionId : String} {host : HostConfig} :
      Move shared (.loading sessionId host) shared (.registering sessionId) []
  | registered {choice : Choice Usage} {sessionId : String}
      (fresh : choice.uuid ∉ shared.issued) :
      Move shared (.registering sessionId) (register shared choice sessionId)
        (.announcing ⟨sessionId, choice.uuid⟩)
        [.registered choice.uuid sessionId]
  | announced {job : MonitorJob} {event : TaskStatusEvent} :
      Move shared (.announcing job) shared
        (.working job (.transit .running none .entering)) [.taskStatus event]
  | transited {job : MonitorJob} {status : TaskStatus} {message : Option String}
      {onward : MonitorTurn Usage} {tasks : FiniteMap String MonitorTaskHandle}
      (taken : transitionTaskStatus shared.tasks job.taskId status = some tasks) :
      Move shared (.working job (.transit status message onward))
        { shared with tasks := tasks }
        (.working job (.emit status message onward)) []
  | worked {job : MonitorJob} {turn onward : MonitorTurn Usage}
      {events : List (Event Usage)}
      (checked : onward.sampling = true → turn.sampling = true ∨
        shared.shutdown job.taskId = false)
      (quiet : ∀ event ∈ events, event.isTeardown = false) :
      Move shared (.working job turn) shared (.working job onward) events
  | stored {job : MonitorJob} {snapshot : MonitorSnapshot Usage} :
      Move shared (.working job (.storing snapshot))
        (store shared job.sessionId snapshot) (.working job (.pushing snapshot))
        [.stored snapshot]
  | stopped {taskId : String} :
      Move shared (.called (.stopMonitoring taskId))
        (stopMonitoring shared taskId) .returned []
  | closeStarted {sessionId : String}
      (present : (shared.sessions.lookup sessionId).isSome = true) :
      Move shared (.called (.closeSession sessionId))
        { shared with sessions := shared.sessions.erase sessionId }
        (.stoppingTasks sessionId) []
  | tasksStopped {sessionId : String} :
      Move shared (.stoppingTasks sessionId) (stopTasks shared sessionId)
        (.droppingSnapshot sessionId) [.tasksStopped sessionId]
  | snapshotDropped {sessionId : String} :
      Move shared (.droppingSnapshot sessionId) (dropSnapshot shared sessionId)
        (.closing sessionId) [.snapshotDropped sessionId]
  | closed {sessionId : String} :
      Move shared (.closing sessionId) shared .returned [.closed sessionId]

theorem refuse_move {error : AppError}
    (refused : refuse thread shared error = (next, after, events)) :
    Move shared phase next after events := by
  obtain ⟨rfl, rfl, rfl⟩ := refused
  exact .refused

theorem Move.flagRead {job : MonitorJob} {turn : MonitorTurn Usage} :
    Move shared (.working job turn) shared
      (.working job
        (if shared.shutdown job.taskId then finish else .collecting)) [] := by
  refine .worked (fun sampling => .inr ?_) nofun
  cases raised : shared.shutdown job.taskId with
  | false => rfl
  | true =>
      rw [raised, if_pos rfl] at sampling
      cases sampling

theorem stepWorking_move {job : MonitorJob} {turn later : MonitorTurn Usage}
    (stepped : stepWorking choice shared job turn = some (next, later, events)) :
    Move shared (.working job turn) next (.working job later) events := by
  cases turn with
  | transit status message rest =>
      simp only [stepWorking, stepTransit] at stepped
      split at stepped
      · next tasks taken =>
          cases stepped
          exact .transited taken
      · cases stepped
        exact .worked .inl nofun
  | emit status message rest =>
      cases stepped
      exact .worked .inl (by simp [Event.isTeardown])
  | entering =>
      cases stepped
      refine .worked (fun sampling => ?_) nofun
      split at sampling <;> cases sampling
  | checking =>
      cases stepped
      exact .flagRead
  | resting =>
      cases stepped
      exact .worked nofun nofun
  | connecting =>
      simp only [stepWorking] at stepped
      split at stepped <;> cases stepped <;> exact .worked nofun nofun
  | collecting =>
      simp only [stepWorking] at stepped
      split at stepped <;> cases stepped <;>
        exact .worked (fun _ => .inl rfl) nofun
  | storing snapshot =>
      cases stepped
      exact .stored
  | pushing snapshot =>
      simp only [stepWorking] at stepped
      split at stepped
      · cases stepped
        exact .worked nofun (by simp [Event.isTeardown])
      · cases stepped
        exact .worked nofun nofun
  | ended => cases stepped

theorem stepCall_move {call : Call}
    (stepped : stepCall thread choice shared call = some (next, after, events)) :
    Move shared (.called call) next after events := by
  cases call with
  | openSession host =>
      simp only [stepCall, stepOpen] at stepped
      split at stepped
      · cases stepped
      · next fresh =>
          cases stepped
          exact .opened fresh
  | startMonitoring sessionId =>
      simp only [stepCall, stepStart] at stepped
      split at stepped
      · cases stepped
        exact .lookedUp
      · exact refuse_move (Option.some.inj stepped)
  | stopMonitoring taskId =>
      cases stepped
      exact .stopped
  | closeSession sessionId =>
      simp only [stepCall, stepClose] at stepped
      split at stepped
      · next host found =>
          cases stepped
          exact .closeStarted (by simp [found])
      · exact refuse_move (Option.some.inj stepped)

theorem step_move (stepped : step thread choice shared phase =
      some (next, after, events)) : Move shared phase next after events := by
  cases phase with
  | called call => exact stepCall_move stepped
  | verifying sessionId host =>
      simp only [step, stepVerifying] at stepped
      split at stepped
      · next host found =>
          cases stepped
          exact .verified (by simp [found])
      · exact refuse_move (Option.some.inj stepped)
  | loading sessionId host =>
      simp only [step, stepLoading] at stepped
      split at stepped
      · cases stepped
        exact .loaded
      · exact refuse_move (Option.some.inj stepped)
  | registering sessionId =>
      simp only [step, stepRegistering] at stepped
      split at stepped
      · cases stepped
      · next fresh =>
          cases stepped
          exact .registered fresh
  | announcing job =>
      cases stepped
      exact .announced
  | working job turn =>
      simp only [step] at stepped
      split at stepped
      · next worked =>
          cases stepped
          exact stepWorking_move worked
      · cases stepped
  | stoppingTasks sessionId =>
      cases stepped
      exact .tasksStopped
  | droppingSnapshot sessionId =>
      cases stepped
      exact .snapshotDropped
  | closing sessionId =>
      cases stepped
      exact .closed
  | returned => cases stepped

/-! What a step keeps. -/

/-- The session has been opened and is closed by now. -/
def Closed (shared : MonitorShared Usage) (sessionId : String) : Prop :=
  sessionId ∈ shared.opened ∧ shared.sessions.lookup sessionId = none

/-- Either the registry still has the task of the worker, or its flag is up. -/
def Enlisted (shared : MonitorShared Usage) (job : MonitorJob) : Prop :=
  shared.shutdown job.taskId = true ∨
    ∃ handle, shared.tasks.lookup job.taskId = some handle ∧
      isOf job.sessionId handle = true

variable {job : MonitorJob}

theorem Move.known (move : Move shared phase next after events)
    (known : ∀ sessionId,
      (shared.sessions.lookup sessionId).isSome = true →
        sessionId ∈ shared.opened)
    (present : (next.sessions.lookup sessionId).isSome = true) :
    sessionId ∈ next.opened := by
  cases move with
  | @opened host session fresh =>
      rcases eq_or_ne sessionId session with rfl | different
      · exact Finset.mem_insert_self _ _
      · rw [FiniteMap.lookup_insert_of_ne _ _ different] at present
        exact Finset.mem_insert_of_mem (known sessionId present)
  | closeStarted found =>
      obtain ⟨host, held⟩ := Option.isSome_iff_exists.mp present
      have earlier := (FiniteMap.lookup_erase_eq_some.mp held).2
      exact known sessionId (by simp [earlier])
  | @stopped taskId =>
      unfold stopMonitoring at present ⊢
      split at present <;> exact known sessionId present
  | _ => exact known sessionId present

theorem Move.closed_kept (move : Move shared phase next after events)
    (closed : Closed shared sessionId) : Closed next sessionId := by
  cases move with
  | @opened host session fresh =>
      have different : sessionId ≠ session := by
        rintro rfl
        exact fresh closed.1
      refine ⟨Finset.mem_insert_of_mem closed.1, ?_⟩
      rw [FiniteMap.lookup_insert_of_ne _ _ different]
      exact closed.2
  | closeStarted present =>
      refine ⟨closed.1, ?_⟩
      rw [FiniteMap.lookup_erase]
      split
      · rfl
      · exact closed.2
  | @stopped taskId =>
      unfold stopMonitoring
      split <;> exact closed
  | _ => exact closed

theorem Move.session_kept (move : Move shared phase next after events)
    (present : (shared.sessions.lookup sessionId).isSome = true) :
    (next.sessions.lookup sessionId).isSome = true ∨
      phase = .called (.closeSession sessionId) := by
  cases move with
  | @opened host session fresh =>
      left
      rw [FiniteMap.lookup_insert]
      split
      · rfl
      · exact present
  | @closeStarted session found =>
      rcases eq_or_ne sessionId session with rfl | different
      · exact .inr rfl
      · left
        rw [FiniteMap.lookup_erase_of_ne _ different]
        exact present
  | @stopped taskId =>
      left
      unfold stopMonitoring
      split <;> exact present
  | _ => exact .inl present

theorem Move.hasTask (move : Move shared phase next after events)
    (has : HasTask next sessionId) :
    HasTask shared sessionId ∨ phase.starting sessionId = true := by
  cases move with
  | registered fresh =>
      refine (hasTask_of_register has).imp_right ?_
      rintro rfl
      exact beq_self_eq_true _
  | transited taken => exact .inl (hasTask_of_transition taken has)
  | stopped => exact .inl (hasTask_of_stopMonitoring has)
  | tasksStopped => exact .inl (hasTask_of_stopTasks has).1
  | _ => exact .inl has

theorem Move.hasSnapshot (move : Move shared phase next after events)
    (has : HasSnapshot next sessionId) :
    HasSnapshot shared sessionId ∨ phase.sampling sessionId = true := by
  cases move with
  | stored =>
      refine (hasSnapshot_of_store has).imp_right ?_
      rintro rfl
      simp [Phase.sampling, MonitorTurn.sampling]
  | @stopped taskId =>
      unfold stopMonitoring at has
      split at has <;> exact .inl has
  | snapshotDropped => exact .inl (hasSnapshot_of_dropSnapshot has).1
  | _ => exact .inl has

theorem Move.starting (move : Move shared phase next after events)
    (starting : after.starting sessionId = true) :
    next = shared ∧ (phase.starting sessionId = true ∨
      (shared.sessions.lookup sessionId).isSome = true) := by
  cases move with
  | verified present =>
      obtain rfl := beq_iff_eq.mp starting
      exact ⟨rfl, .inr present⟩
  | loaded => exact ⟨rfl, .inl starting⟩
  | _ => cases starting

theorem Move.tearsDown (move : Move shared phase next after events)
    (tearsDown : after.tearsDown sessionId) :
    phase.tearsDown sessionId ∨
      phase = .called (.closeSession sessionId) ∧
        (shared.sessions.lookup sessionId).isSome = true ∧
        next = { shared with sessions := shared.sessions.erase sessionId } := by
  cases move with
  | @closeStarted session present =>
      obtain rfl : session = sessionId := tearsDown
      exact .inr ⟨rfl, present, rfl⟩
  | tasksStopped => exact .inl tearsDown
  | snapshotDropped => exact .inl tearsDown
  | _ => exact tearsDown.elim

theorem Move.sampling (move : Move shared phase next after events)
    (sampling : after.sampling sessionId = true) :
    phase.sampling sessionId = true ∨
      ∃ job, phase.job? = some job ∧ job.sessionId = sessionId ∧
        shared.shutdown job.taskId = false := by
  cases move with
  | announced =>
      simp [Phase.sampling, MonitorTurn.sampling] at sampling
  | transited taken => exact .inl sampling
  | worked checked quiet =>
      obtain ⟨session, turning⟩ := Bool.and_eq_true_iff.mp sampling
      rcases checked turning with before | lowered
      · exact .inl (Bool.and_eq_true_iff.mpr ⟨session, before⟩)
      · exact .inr ⟨_, rfl, beq_iff_eq.mp session, lowered⟩
  | stored => simp [Phase.sampling, MonitorTurn.sampling] at sampling
  | _ => cases sampling

theorem Move.issued (move : Move shared phase next after events)
    {taskId : String} (issued : taskId ∈ shared.issued) :
    taskId ∈ next.issued := by
  cases move with
  | registered fresh => exact Finset.mem_insert_of_mem issued
  | @stopped other =>
      unfold stopMonitoring
      split <;> exact issued
  | _ => exact issued

theorem Enlisted.transition {tasks : FiniteMap String MonitorTaskHandle}
    {taskId : String} {status : TaskStatus} (enlisted : Enlisted shared job)
    (taken : transitionTaskStatus shared.tasks taskId status = some tasks) :
    Enlisted { shared with tasks := tasks } job := by
  refine enlisted.imp_right ?_
  rintro ⟨handle, held, own⟩
  unfold transitionTaskStatus at taken
  split at taken
  · cases taken
  · next changed found =>
      split at taken
      · obtain rfl := Option.some.inj taken
        rcases eq_or_ne job.taskId taskId with rfl | different
        · obtain rfl := Option.some.inj (held.symm.trans found)
          exact ⟨_, FiniteMap.lookup_insert_self _ _ _, own⟩
        · exact ⟨handle, by
            rwa [FiniteMap.lookup_insert_of_ne _ _ different], own⟩
      · cases taken

theorem Enlisted.stopMonitoring (enlisted : Enlisted shared job)
    (taskId : String) : Enlisted (Monitor.stopMonitoring shared taskId) job := by
  unfold Monitor.stopMonitoring
  split
  · exact enlisted
  · rcases eq_or_ne job.taskId taskId with rfl | different
    · exact .inl (Function.update_self _ _ _)
    · rcases enlisted with raised | ⟨handle, held, own⟩
      · exact .inl ((Function.update_of_ne different _ _).trans raised)
      · exact .inr ⟨handle,
          FiniteMap.lookup_erase_eq_some.mpr ⟨different, held⟩, own⟩

theorem Enlisted.stopTasks (enlisted : Enlisted shared job)
    (sessionId : String) : Enlisted (Monitor.stopTasks shared sessionId) job := by
  rcases enlisted with raised | ⟨handle, held, own⟩
  · exact .inl (by simp [Monitor.stopTasks, raised])
  · cases stopped : isOf sessionId handle with
    | true => exact .inl (by simp [Monitor.stopTasks, held, stopped])
    | false =>
        exact .inr ⟨handle,
          FiniteMap.lookup_retain_eq_some.mpr ⟨held, by simp [stopped]⟩, own⟩

theorem Move.enlisted (move : Move shared phase next after events)
    (issued : job.taskId ∈ shared.issued) (enlisted : Enlisted shared job) :
    Enlisted next job := by
  cases move with
  | @registered choice session fresh =>
      have different : job.taskId ≠ choice.uuid := by
        intro same
        exact fresh (same ▸ issued)
      refine enlisted.imp ?_ ?_
      · exact fun raised => (Function.update_of_ne different _ _).trans raised
      · rintro ⟨handle, held, own⟩
        exact ⟨handle, by
          rwa [register, FiniteMap.lookup_insert_of_ne _ _ different], own⟩
  | transited taken => exact enlisted.transition taken
  | stopped => exact enlisted.stopMonitoring _
  | tasksStopped => exact enlisted.stopTasks _
  | _ => exact enlisted

theorem Move.employs (move : Move shared phase next after events)
    (own : after.job? = some job) :
    phase.job? = some job ∨ job.taskId ∈ next.issued ∧ Enlisted next job := by
  cases move with
  | registered fresh =>
      obtain rfl := Option.some.inj own
      refine .inr ⟨Finset.mem_insert_self _ _, .inr ⟨_,
        FiniteMap.lookup_insert_self _ _ _, ?_⟩⟩
      exact beq_self_eq_true _
  | announced => exact .inl own
  | transited taken => exact .inl own
  | worked checked quiet => exact .inl own
  | stored => exact .inl own
  | _ => cases own

/-! The invariant. -/

def Stopped (log : List (Event Usage)) (sessionId : String) : Prop :=
  .tasksStopped sessionId ∈ log

def Dropped (log : List (Event Usage)) (sessionId : String) : Prop :=
  .snapshotDropped sessionId ∈ log

/-- How far the closing of a session has come in each of its phases. -/
def Reached (log : List (Event Usage)) : Phase Usage → Prop
  | .droppingSnapshot sessionId => Stopped log sessionId
  | .closing sessionId => Stopped log sessionId ∧ Dropped log sessionId
  | _ => True

/-- Who may still add something to the registries. -/
structure Attended (config : Config (MonitorShared Usage) (Phase Usage)) :
    Prop where
  known : ∀ sessionId,
    (config.shared.sessions.lookup sessionId).isSome = true →
      sessionId ∈ config.shared.opened
  starting : ∀ thread phase, config.threads thread = some phase →
    ∀ sessionId, phase.starting sessionId = true →
      (config.shared.sessions.lookup sessionId).isSome = true
  closing : ∀ thread phase, config.threads thread = some phase →
    ∀ sessionId, phase.tearsDown sessionId → Closed config.shared sessionId
  enlisted : ∀ thread phase, config.threads thread = some phase →
    ∀ job, phase.job? = some job →
      job.taskId ∈ config.shared.issued ∧ Enlisted config.shared job

structure TornDown (log : List (Event Usage))
    (config : Config (MonitorShared Usage) (Phase Usage)) : Prop where
  attended : Attended config
  tasks : ∀ sessionId, Stopped log sessionId →
    Closed config.shared sessionId ∧ ¬ HasTask config.shared sessionId ∧
      ∀ thread phase, config.threads thread = some phase →
        phase.sampling sessionId = false
  snapshots : ∀ sessionId, Dropped log sessionId →
    Stopped log sessionId ∧ ¬ HasSnapshot config.shared sessionId
  reached : ∀ thread phase, config.threads thread = some phase →
    Reached log phase
  closed : ∀ sessionId, .closed sessionId ∈ log → Dropped log sessionId

theorem Reached.append (reached : Reached log phase)
    (events : List (Event Usage)) : Reached (log ++ events) phase := by
  cases phase with
  | droppingSnapshot sessionId => exact List.mem_append_left _ reached
  | closing sessionId =>
      obtain ⟨stopped, dropped⟩ := reached
      exact ⟨List.mem_append_left _ stopped, List.mem_append_left _ dropped⟩
  | _ => trivial

theorem Move.logs (move : Move shared phase next after events) :
    (∀ sessionId, Stopped events sessionId →
      phase = .stoppingTasks sessionId ∧ after = .droppingSnapshot sessionId ∧
        next = stopTasks shared sessionId) ∧
    (∀ sessionId, Dropped events sessionId →
      phase = .droppingSnapshot sessionId ∧
        next = dropSnapshot shared sessionId) ∧
    ∀ sessionId, .closed sessionId ∈ events →
      phase = .closing sessionId ∧ next = shared := by
  cases move with
  | tasksStopped => simp [Stopped, Dropped]
  | snapshotDropped => simp [Stopped, Dropped]
  | closed => simp [Stopped, Dropped]
  | worked checked quiet =>
      refine ⟨fun _ logged => ?_, fun _ logged => ?_, fun _ logged => ?_⟩ <;>
        exact absurd (quiet _ logged) (by simp [Event.isTeardown])
  | _ => simp [Stopped, Dropped]

theorem Move.reached (move : Move shared phase next after events)
    (reached : Reached log phase) : Reached (log ++ events) after := by
  cases move with
  | tasksStopped => exact List.mem_append_right _ List.mem_cons_self
  | snapshotDropped =>
      exact ⟨List.mem_append_left _ reached,
        List.mem_append_right _ List.mem_cons_self⟩
  | _ => trivial

section Move

variable {config : Config (MonitorShared Usage) (Phase Usage)}

/-- The other threads have nothing to do with what this one is about to close. -/
def Unopposed (config : Config (MonitorShared Usage) (Phase Usage))
    (thread : ℕ) : Prop :=
  ∀ own other phase, config.threads thread = some own → other ≠ thread →
    config.threads other = some phase →
    interrupts config.shared own phase = false

theorem Attended.session_kept (attended : Attended config)
    (unopposed : Unopposed config thread)
    (running : config.threads thread = some phase)
    (move : Move config.shared phase next after events) {other : ℕ}
    {waiting : Phase Usage} (different : other ≠ thread)
    (found : config.threads other = some waiting)
    (starting : waiting.starting sessionId = true) :
    (next.sessions.lookup sessionId).isSome = true := by
  have present := attended.starting other waiting found sessionId starting
  refine (move.session_kept present).resolve_right ?_
  rintro rfl
  have apart := unopposed _ other waiting running different found
  simp [interrupts, present, starting] at apart

theorem Attended.advance (attended : Attended config)
    (unopposed : Unopposed config thread)
    (running : config.threads thread = some phase)
    (move : Move config.shared phase next after events) :
    Attended ⟨next, Function.update config.threads thread (some after)⟩ := by
  constructor
  · exact fun sessionId => move.known attended.known
  · refine everywhere_update (fun sessionId starting => ?_)
      fun other waiting different found sessionId starting =>
        attended.session_kept unopposed running move different found starting
    obtain ⟨rfl, before | present⟩ := move.starting starting
    · exact attended.starting thread phase running sessionId before
    · exact present
  · refine everywhere_update (fun sessionId tearsDown => ?_)
      fun other waiting _ found sessionId tearsDown =>
        move.closed_kept (attended.closing other waiting found sessionId tearsDown)
    rcases move.tearsDown tearsDown with before | ⟨-, present, rfl⟩
    · exact move.closed_kept
        (attended.closing thread phase running sessionId before)
    · exact ⟨attended.known sessionId present, FiniteMap.lookup_erase_self _ _⟩
  · have kept : ∀ job, job.taskId ∈ config.shared.issued ∧
        Enlisted config.shared job → job.taskId ∈ next.issued ∧
          Enlisted next job :=
      fun job known => ⟨move.issued known.1, move.enlisted known.1 known.2⟩
    refine everywhere_update (fun job own => ?_) fun other waiting _ found job own =>
      kept job (attended.enlisted other waiting found job own)
    rcases move.employs own with before | new
    · exact kept job (attended.enlisted thread phase running job before)
    · exact new

/-- Once the tasks of a session have been stopped, none of its flags is down. -/
theorem Attended.raised (attended : Attended config)
    (running : config.threads thread = some phase)
    (own : phase.job? = some job)
    (none : ¬ HasTask config.shared job.sessionId) :
    config.shared.shutdown job.taskId = true := by
  rcases (attended.enlisted thread phase running job own).2 with
    raised | ⟨handle, held, ours⟩
  · exact raised
  · exact absurd ⟨job.taskId, handle, held, ours⟩ none

theorem TornDown.tasks_advance (torn : TornDown log config)
    (unopposed : Unopposed config thread)
    (running : config.threads thread = some phase)
    (move : Move config.shared phase next after events)
    (stopped : Stopped (log ++ events) sessionId) :
    Closed next sessionId ∧ ¬ HasTask next sessionId ∧
      ∀ other waiting,
        Function.update config.threads thread (some after) other =
          some waiting → waiting.sampling sessionId = false := by
  rcases List.mem_append.mp stopped with before | now
  · obtain ⟨closed, absent, idle⟩ := torn.tasks sessionId before
    refine ⟨move.closed_kept closed, fun has => ?_, everywhere_update ?_
      fun other waiting _ found => idle other waiting found⟩
    · rcases move.hasTask has with earlier | starting
      · exact absent earlier
      · have present := torn.attended.starting thread phase running sessionId
          starting
        rw [closed.2] at present
        cases present
    · rw [Bool.eq_false_iff]
      intro sampling
      rcases move.sampling sampling with earlier | ⟨job, own, rfl, lowered⟩
      · rw [idle thread phase running] at earlier
        cases earlier
      · rw [torn.attended.raised running own absent] at lowered
        cases lowered
  · obtain ⟨rfl, rfl, rfl⟩ := move.logs.1 sessionId now
    have closed := torn.attended.closing thread _ running sessionId rfl
    refine ⟨move.closed_kept closed,
      fun has => (hasTask_of_stopTasks has).2 rfl, everywhere_update rfl ?_⟩
    intro other waiting different found
    exact unopposed _ other waiting running different found

theorem TornDown.snapshots_advance (torn : TornDown log config)
    (running : config.threads thread = some phase)
    (move : Move config.shared phase next after events)
    (dropped : Dropped (log ++ events) sessionId) :
    Stopped (log ++ events) sessionId ∧ ¬ HasSnapshot next sessionId := by
  rcases List.mem_append.mp dropped with before | now
  · obtain ⟨stopped, absent⟩ := torn.snapshots sessionId before
    refine ⟨List.mem_append_left _ stopped, fun has => ?_⟩
    rcases move.hasSnapshot has with earlier | sampling
    · exact absent earlier
    · rw [(torn.tasks sessionId stopped).2.2 thread phase running] at sampling
      cases sampling
  · obtain ⟨rfl, rfl⟩ := move.logs.2.1 sessionId now
    have stopped : Stopped log sessionId := torn.reached thread _ running
    exact ⟨List.mem_append_left _ stopped,
      fun has => (hasSnapshot_of_dropSnapshot has).2 rfl⟩

theorem TornDown.advance (torn : TornDown log config)
    (unopposed : Unopposed config thread)
    (running : config.threads thread = some phase)
    (move : Move config.shared phase next after events) :
    TornDown (log ++ events)
      ⟨next, Function.update config.threads thread (some after)⟩ := by
  refine ⟨torn.attended.advance unopposed running move,
    fun _ => torn.tasks_advance unopposed running move,
    fun _ => torn.snapshots_advance running move,
    everywhere_update (move.reached (torn.reached thread phase running))
      fun other waiting _ found =>
        (torn.reached other waiting found).append events, ?_⟩
  intro sessionId closed
  rcases List.mem_append.mp closed with before | now
  · exact List.mem_append_left _ (torn.closed sessionId before)
  · obtain ⟨rfl, -⟩ := move.logs.2.2 sessionId now
    exact List.mem_append_left _ (torn.reached thread _ running).2

end Move

theorem TornDown.step {config later : Config (MonitorShared Usage) (Phase Usage)}
    {action : ThreadAction (Phase Usage) (Choice Usage)}
    (torn : TornDown log config)
    (apart : Program.Apart interrupts log config action)
    (stepped : (program Usage).machine.step config action =
      some (later, events)) : TornDown (log ++ events) later := by
  rcases Program.machine_step_cases stepped with
    ⟨thread, start, rfl, -, admitted, rfl, rfl⟩ |
    ⟨thread, choice, current, shared, phase, rfl, running, moved, rfl⟩
  · have nothing : (program Usage).opened thread start = [] := rfl
    rw [nothing, List.append_nil]
    cases start with
    | called call =>
        obtain ⟨known, starting, closing, enlisted⟩ := torn.attended
        refine ⟨⟨known, everywhere_update nofun fun other phase _ =>
            starting other phase, everywhere_update nofun fun other phase _ =>
            closing other phase, everywhere_update nofun fun other phase _ =>
            enlisted other phase⟩, fun sessionId stopped => ?_,
          torn.snapshots, everywhere_update trivial fun other phase _ =>
            torn.reached other phase, torn.closed⟩
        obtain ⟨closed, absent, idle⟩ := torn.tasks sessionId stopped
        exact ⟨closed, absent, everywhere_update rfl fun other phase _ =>
          idle other phase⟩
    | _ => simp [program] at admitted
  · exact torn.advance apart running (step_move moved)

theorem tornDown_initial :
    TornDown [] (initial : Config (MonitorShared Usage) (Phase Usage)) where
  attended :=
    { known := by simp [initial, empty]
      starting := nofun
      closing := nofun
      enlisted := nofun }
  tasks := nofun
  snapshots := nofun
  reached := nofun
  closed := nofun

/-- While no session is closed under a start that has passed its lookups, and no
task is stopped under a worker that has passed the check of its flag, a closed
session leaves neither a task nor a snapshot. -/
theorem teardown_leaves_nothing
    {actions : List (ThreadAction (Phase Usage) (Choice Usage))}
    {config : Config (MonitorShared Usage) (Phase Usage)}
    (run : (program Usage).machine.RunUnder (Program.Apart interrupts) [] initial
      actions log config)
    (closed : .closed sessionId ∈ log) :
    (∀ taskId handle, config.shared.tasks.lookup taskId = some handle →
      handle.taskInfo.sessionId ≠ some sessionId) ∧
    getMonitorStatus config.shared sessionId = none := by
  have torn : TornDown log config :=
    run.invariant TornDown tornDown_initial
      fun torn apart stepped => torn.step apart stepped
  have dropped := torn.closed sessionId closed
  obtain ⟨stopped, forgotten⟩ := torn.snapshots sessionId dropped
  constructor
  · intro taskId handle found own
    exact (torn.tasks sessionId stopped).2.1
      ⟨taskId, handle, found, by simp [isOf, own]⟩
  · cases stored : getMonitorStatus config.shared sessionId with
    | none => rfl
    | some snapshot => exact absurd ⟨snapshot, stored⟩ forgotten

/-! A host with a key that needs no passphrase, and runs of one session of it. -/

def exampleHost : HostConfig where
  id := "host-1"
  name := "build"
  host := "192.0.2.1"
  port := 22
  username := "root"
  authType := .privateKey
  passwordRef := none
  privateKeyPath := some "/keys/id"
  passphraseRef := none
  remark := none
  group := ""

def exampleSnapshot : MonitorSnapshot Unit where
  sessionId := "session-1"
  timestamp := 0
  cpuUsage := none
  memoryUsage := none
  diskUsage := none
  diskAvailableBytes := none
  diskTotalBytes := none
  network := ⟨false, []⟩

abbrev Act := ThreadAction (Phase Unit) (Choice Unit)

def opening : List Act :=
  [.spawn 0 (.called (.openSession exampleHost)),
    .advance 0 { uuid := "session-1" }]

/-- The command looks the session up, and loads the credentials. -/
def startingUp : List Act :=
  [.spawn 1 (.called (.startMonitoring "session-1")), .advance 1 {},
    .advance 1 {}, .advance 1 {}]

def registering : List Act :=
  [.advance 1 { uuid := "task-1" }]

/-- The worker runs until it has a snapshot. -/
def sampling : List Act :=
  [.advance 1 {}, .advance 1 {}, .advance 1 {}, .advance 1 {}, .advance 1 {},
    .advance 1 {}, .advance 1 { collected := .ok exampleSnapshot }]

def storing : List Act :=
  [.advance 1 {}]

def closingSession : List Act :=
  [.spawn 2 (.called (.closeSession "session-1")), .advance 2 {}, .advance 2 {},
    .advance 2 {}, .advance 2 {}]

/-- A start that has passed its lookups registers its task after the teardown, and
that task goes on to store a snapshot; a worker that had its snapshot before the
teardown stores it after. -/
theorem monitoring_outlives_session :
    (∃ log config,
      (program Unit).machine.Run initial
        (opening ++ startingUp ++ closingSession ++ registering ++ sampling ++
          storing) log config ∧
      .closed "session-1" ∈ log ∧
      (config.shared.tasks.lookup "task-1").map (·.taskInfo.sessionId) =
        some (some "session-1") ∧
      getMonitorStatus config.shared "session-1" = some exampleSnapshot) ∧
    ∃ log config,
      (program Unit).machine.Run initial
        (opening ++ startingUp ++ registering ++ sampling ++ closingSession ++
          storing) log config ∧
      .closed "session-1" ∈ log ∧
      getMonitorStatus config.shared "session-1" = some exampleSnapshot := by
  constructor
  · exact ⟨_, _, Machine.run_of_execute rfl, by decide, by decide, by decide⟩
  · exact ⟨_, _, Machine.run_of_execute rfl, by decide, by decide⟩

/-- The session is closed while its worker rests between two samples and while
another start of it has made the first of its lookups. -/
def monitored : List Act :=
  opening ++ startingUp ++ registering ++ sampling ++ storing ++
    [.advance 1 {}, .advance 1 {},
      .spawn 3 (.called (.startMonitoring "session-1")), .advance 3 {},
      .spawn 2 (.called (.closeSession "session-1")), .advance 2 {},
      .advance 3 {}, .advance 2 {}, .advance 1 {}, .advance 2 {}, .advance 2 {},
      .advance 1 {}]

theorem teardown_leaves_nothing_monitored :
    ∃ log config,
      (program Unit).machine.RunUnder (Program.Apart interrupts) [] initial
        monitored log config ∧
      .stored exampleSnapshot ∈ log ∧
      .refused 3 (sessionNotFound "session-1") ∈ log ∧
      config.shared.tasks.lookup "task-1" = none ∧
      getMonitorStatus config.shared "session-1" = none := by
  have executed : ∃ log config,
      (program Unit).machine.RunWhere
        (Program.apartIn [0, 1, 2, 3] interrupts) [] initial monitored log
        config ∧
      .stored exampleSnapshot ∈ log ∧
      .refused 3 (sessionNotFound "session-1") ∈ log ∧
      .closed "session-1" ∈ log ∧
      config.shared.tasks.lookup "task-1" = none :=
    ⟨_, _, Machine.runWhere_of_executeWhere rfl, by decide, by decide, by decide,
      by decide⟩
  obtain ⟨log, config, run, stored, refused, closed, gone⟩ := executed
  have apart := (Program.runUnder_of_apartIn run fun _ _ => rfl).1
  exact ⟨log, config, apart, stored, refused, gone,
    (teardown_leaves_nothing apart closed).2⟩

end Monitor

end TitanSSH
