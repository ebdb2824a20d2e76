import TitanSSH.Core.Sftp.Enrolment
import TitanSSH.Core.Sftp.StatusEvents

namespace TitanSSH

open Interleaving

namespace Sftp

/-! Every task ends once, and its end is told once. -/

def ending (taskId : String) (change : SftpTaskStatusEvent) : Bool :=
  change.taskId == taskId && change.status.isTerminal

variable {thread : ℕ} {choice : Choice} {shared next : SftpShared}
variable {phase after : Phase} {events log : List Event}
variable {taskId sessionId : String}

theorem taken_ending (taskId : String) (log : List Event) :
    taken (ending taskId) log =
      (taken (ofTask taskId) log).filter (·.status.isTerminal) := by
  have same : Event.takes (ending taskId) = fun event =>
      (Event.takes (ofTask taskId) event).filter (·.status.isTerminal) := by
    funext event
    cases event with
    | taken change =>
        rcases eq_or_ne change.taskId taskId with rfl | different
        · simp [Event.takes, ending, ofTask, Option.filter_some]
        · simp [Event.takes, ending, ofTask, different]
    | _ => rfl
  rw [taken, taken, List.filter_filterMap, same]

theorem ending_first {config final : Config SftpShared Phase}
    {action : ThreadAction Phase Choice} {change : SftpTaskStatusEvent}
    (followed : Followed log config.shared change.taskId)
    (stepped : service.machine.step config action = some (final, events))
    (logged : .taken change ∈ events) :
    taken (ending change.taskId) log = [] := by
  rcases Program.machine_step_cases stepped with
    ⟨thread, start, -, -, -, -, rfl⟩ |
    ⟨thread, choice, current, shared, phase, -, -, moved, -⟩
  · cases logged
  · cases step_move moved with
    | taken applied =>
        obtain rfl := Event.taken.inj (List.mem_singleton.mp logged)
        obtain ⟨status, path, current⟩ := followed.path
        obtain rfl := current _ applied.found
        rw [taken_ending, List.filter_eq_nil_iff]
        intro earlier member
        rw [Bool.not_eq_true]
        exact SftpTaskStatus.follow_live path
          (SftpTaskStatus.legal_live applied.isLegal) earlier member
    | _ => simp at logged

theorem endings_told {config : Config SftpShared Phase}
    {actions : List (ThreadAction Phase Choice)}
    (run : service.machine.Run initial actions log config) (taskId : String) :
    Announced (ending taskId) log config ∧
      Followed log config.shared taskId := by
  refine @Machine.Run.invariant _ _ _ _ initial
    (fun log config => Announced (ending taskId) log config ∧
      Followed log config.shared taskId)
    ⟨initial_announced, initial_followed taskId⟩ ?_ _ _ _ run
  rintro log config action next events ⟨announced, followed⟩ stepped
  refine ⟨announced.step stepped ?_, followed_step followed stepped⟩
  intro change logged counted
  obtain ⟨rfl, -⟩ : change.taskId = taskId ∧
      change.status.isTerminal = true := by
    simpa [ending] using counted
  have unended := ending_first followed stepped logged
  have told := announced.delivered_first
  rw [unended, List.prefix_nil] at told
  rw [unended, told]

/-! The threads that close a session. -/

def Phase.Closes (sessionId : String) : Phase → Prop
  | .closePool session | .collect session => session = sessionId
  | .cancelActive session _ => session = sessionId
  | .transition _ _ (.cleanup session _) => session = sessionId
  | _ => False

/-- The session has been registered and its handle has been removed. -/
def Gone (shared : SftpShared) (sessionId : String) : Prop :=
  sessionId ∈ shared.registered ∧ sessionId ∉ shared.handles

/-- What the closing of sessions needs to be sure of: nobody closes a session
that still has its handle. -/
structure Closing (log : List Event) (config : Config SftpShared Phase) :
    Prop where
  closes : ∀ thread phase, config.threads thread = some phase →
    ∀ sessionId, phase.Closes sessionId → Gone config.shared sessionId
  completed : ∀ {thread sessionId}, .cleanedUp thread sessionId ∈ log →
    Gone config.shared sessionId

theorem Move.gone
    (move : Move thread choice shared phase next after events)
    (gone : Gone shared sessionId) : Gone next sessionId := by
  refine ⟨move.registered_subset gone.1, ?_⟩
  cases move with
  | @registered other fresh =>
      rw [Finset.mem_insert]
      rintro (rfl | present)
      · exact fresh gone.1
      · exact gone.2 present
  | cleanupStarted present =>
      exact fun member => gone.2 (Finset.mem_of_mem_erase member)
  | _ => exact gone.2

theorem Move.closes
    (move : Move thread choice shared phase next after events)
    (closes : after.Closes sessionId) :
    phase.Closes sessionId ∨
      sessionId ∈ shared.handles ∧ sessionId ∉ next.handles := by
  cases move with
  | cleanupStarted present =>
      obtain rfl : _ = sessionId := closes
      exact .inr ⟨present, Finset.notMem_erase _ _⟩
  | @pooled job start finish pool logged step =>
      cases finish with
      | failed error => cases error <;> exact closes.elim
      | _ => exact closes.elim
  | @dropped job checkout healthy conclusion absent =>
      obtain ⟨status, error, permitted⟩ := conclusion
      cases permitted <;> exact closes.elim
  | @checkedIn job checkout healthy conclusion =>
      obtain ⟨status, error, permitted⟩ := conclusion
      cases permitted <;> exact closes.elim
  | @unoccupied request free =>
      unfold afterCheck at closes
      split at closes <;> exact closes.elim
  | @rejected change continuation illegal =>
      cases continuation <;> first | exact closes.elim | exact .inl closes
  | @taken change continuation tasks task applied =>
      cases continuation <;> exact .inl closes
  | @tokenLookup change continuation =>
      cases continuation <;> exact .inl closes
  | @tokenRemoved change continuation =>
      cases continuation <;> exact .inl closes
  | @emitted change continuation =>
      cases continuation <;> first | exact closes.elim | exact .inl closes
  | poolClosed => exact .inl closes
  | collected => exact .inl closes
  | activeCancelled member => exact .inl closes
  | _ => exact closes.elim

theorem Move.cleanedUp_inv {cleaner : ℕ}
    (move : Move thread choice shared phase next after events)
    (logged : .cleanedUp cleaner sessionId ∈ events) :
    phase = .cancelActive sessionId ∅ ∧
      next = { shared with tasks := shared.tasks.purge sessionId } := by
  cases move with
  | purged =>
      obtain ⟨-, rfl⟩ := Event.cleanedUp.inj (List.mem_singleton.mp logged)
      exact ⟨rfl, rfl⟩
  | _ => simp at logged

theorem Closing.step {config final : Config SftpShared Phase}
    {action : ThreadAction Phase Choice} (closing : Closing log config)
    (staffed : Staffed config)
    (stepped : service.machine.step config action = some (final, events)) :
    Closing (log ++ events) final := by
  rcases Program.machine_step_cases stepped with
    ⟨thread, start, -, free, admitted, rfl, rfl⟩ |
    ⟨thread, choice, current, shared, after, -, running, moved, rfl⟩
  · constructor
    · refine everywhere_update ?_ fun other phase _ found =>
        closing.closes other phase found
      intro sessionId closes
      cases start <;> first | exact closes.elim | simp [service] at admitted
    · intro thread sessionId logged
      exact closing.completed (by simpa [service] using logged)
  · have move := step_move moved
    have own := closing.closes thread current running
    constructor
    · refine everywhere_update (fun sessionId closes => ?_)
        fun other phase _ found sessionId closes =>
          move.gone (closing.closes other phase found sessionId closes)
      rcases move.closes closes with before | ⟨present, absent⟩
      · exact move.gone (own sessionId before)
      · exact ⟨move.registered_subset (staffed.handles present), absent⟩
    · intro cleaner sessionId logged
      cases List.mem_append.mp logged with
      | inl earlier => exact move.gone (closing.completed earlier)
      | inr now =>
          obtain ⟨rfl, -⟩ := move.cleanedUp_inv now
          exact move.gone (own sessionId rfl)

/-! The tasks that a cleanup finds under way. -/

def liveTasks (shared : SftpShared) (sessionId : String) : Finset String :=
  shared.tasks.keysWhere fun _ task =>
    task.sessionId == sessionId && !task.status.isTerminal

def Event.completes (sessionId : String) : Event → Bool
  | .cleanedUp _ session => session == sessionId
  | _ => false

/-- A call of the session has been past its last lookup of the handle, and has
not made the cancel token of its task yet. -/
def Phase.enrolling (sessionId : String) : Phase → Bool
  | .checkTarget request =>
      request.sessionId == sessionId && request.transferType == .upload
  | .stat request | .insertTask request => request.sessionId == sessionId
  | .registerEntry task => task.sessionId == sessionId
  | _ => false

theorem Move.enrolling
    (move : Move thread choice shared phase next after events)
    (enrolling : after.enrolling sessionId = true) :
    phase.enrolling sessionId = true ∨ sessionId ∈ shared.handles := by
  cases move with
  | @accepted call request asking present =>
      have session : request.sessionId = sessionId :=
        beq_iff_eq.mp (Bool.and_eq_true_iff.mp enrolling).1
      exact .inr (session ▸ present)
  | @unoccupied request free =>
      unfold afterCheck at enrolling
      cases direction : request.transferType with
      | upload =>
          rw [direction] at enrolling
          left
          simpa [Phase.enrolling, direction] using enrolling
      | download =>
          rw [direction] at enrolling
          cases enrolling
  | statFound present => exact .inr (beq_iff_eq.mp enrolling ▸ present)
  | sized size => exact .inl enrolling
  | inserted fresh => exact .inl enrolling
  | @pooled job start finish pool logged step =>
      cases finish with
      | failed error => cases error <;> cases enrolling
      | _ => cases enrolling
  | @rejected change continuation illegal =>
      cases continuation <;> cases enrolling
  | @emitted change continuation => cases continuation <;> cases enrolling
  | _ => cases enrolling

/-- The handle of the session is gone, and no call is left that had it. -/
structure Deserted (config : Config SftpShared Phase) (sessionId : String) :
    Prop where
  gone : Gone config.shared sessionId
  clear : ∀ thread phase, config.threads thread = some phase →
    phase.enrolling sessionId = false

theorem Deserted.step {config final : Config SftpShared Phase}
    {action : ThreadAction Phase Choice} (deserted : Deserted config sessionId)
    (stepped : service.machine.step config action = some (final, events)) :
    Deserted final sessionId := by
  rcases Program.machine_step_cases stepped with
    ⟨thread, start, -, -, admitted, rfl, -⟩ |
    ⟨thread, choice, current, shared, after, -, running, moved, rfl⟩
  · refine ⟨deserted.gone, everywhere_update ?_ fun other phase _ found =>
      deserted.clear other phase found⟩
    cases start with
    | called call => rfl
    | reaper session phase => rfl
    | _ => simp [service] at admitted
  · have move := step_move moved
    refine ⟨move.gone deserted.gone, everywhere_update ?_
      fun other phase _ found => deserted.clear other phase found⟩
    rw [Bool.eq_false_iff]
    intro enrolling
    rcases move.enrolling enrolling with before | present
    · rw [deserted.clear thread current running] at before
      cases before
    · exact deserted.gone.2 present

def Ended (taskId : String) (log : List Event) : Prop :=
  ∃ change, .taken change ∈ log ∧ change.taskId = taskId ∧
    change.status.isTerminal = true

theorem mem_liveTasks :
    taskId ∈ liveTasks shared sessionId ↔ Live shared sessionId taskId := by
  simp [liveTasks, Live]

/-- A thread that closes the session has the task still before it. -/
def Phase.Covers (sessionId taskId : String) : Phase → Prop
  | .cancelActive session remaining =>
      session = sessionId → taskId ∈ remaining
  | .transition turn change (.cleanup session remaining) =>
      session = sessionId →
        taskId ∈ remaining ∨ (turn = .registry ∧ change.taskId = taskId)
  | _ => True

theorem Phase.covers_of_elsewhere (elsewhere : ¬phase.Closes sessionId) :
    phase.Covers sessionId taskId := by
  cases phase with
  | cancelActive session remaining => exact fun same => absurd same elsewhere
  | transition turn change continuation =>
      cases continuation with
      | cleanup session remaining => exact fun same => absurd same elsewhere
      | _ => trivial
  | _ => trivial

theorem Move.live
    (move : Move thread choice shared phase next after events)
    (issued : taskId ∈ shared.issued) (live : Live shared sessionId taskId) :
    Ended taskId events ∨ Live next sessionId taskId ∨
      phase = .cancelActive sessionId ∅ := by
  obtain ⟨task, found, session, under⟩ := live
  cases move with
  | inserted fresh =>
      have different : taskId ≠ choice.uuid := by
        rintro rfl
        exact fresh issued
      refine .inr (.inl ⟨task, ?_, session, under⟩)
      rwa [FiniteMap.lookup_insert_of_ne _ _ different]
  | @taken change continuation tasks old applied =>
      rcases eq_or_ne taskId change.taskId with rfl | different
      · cases terminal : change.status.isTerminal with
        | true => exact .inl ⟨change, List.mem_singleton_self _, rfl, terminal⟩
        | false =>
            obtain rfl := Option.some.inj (applied.found.symm.trans found)
            exact .inr (.inl ⟨_, applied.running terminal, session, terminal⟩)
      · exact .inr (.inl ⟨task, applied.live different found under, session,
          under⟩)
  | @purged other =>
      rcases eq_or_ne sessionId other with rfl | different
      · exact .inr (.inr rfl)
      · refine .inr (.inl ⟨task, ?_, session, under⟩)
        exact TaskRegistry.lookup_purge.mpr ⟨found, session ▸ different⟩
  | cleared =>
      refine .inr (.inl ⟨task, ?_, session, under⟩)
      exact TaskRegistry.lookup_clearTerminal.mpr ⟨found, .inr under⟩
  | _ => exact .inr (.inl ⟨task, found, session, under⟩)

theorem applyStatus_cancelled {change : SftpTaskStatusEvent}
    (live : Live shared sessionId change.taskId)
    (cancelled : change.status = .cancelled) :
    shared.tasks.applyStatus change ≠ none := by
  obtain ⟨task, found, -, under⟩ := live
  cases status : task.status <;>
    simp_all [TaskRegistry.applyStatus, SftpTaskStatus.legal,
      SftpTaskStatus.isTerminal]

theorem resume_covers {turn : TransitionTurn} {change : SftpTaskStatusEvent}
    {continuation : Continuation}
    (covers : (Phase.transition turn change continuation).Covers sessionId
      taskId)
    (passed : turn = .registry → continuation.job? = none →
      change.taskId ≠ taskId) :
    (resume continuation).Covers sessionId taskId := by
  cases continuation with
  | cleanup session remaining =>
      intro same
      rcases covers same with member | ⟨registry, named⟩
      · exact member
      · exact absurd named (passed registry rfl)
  | _ => trivial

theorem Move.covers
    (move : Move thread choice shared phase next after events)
    (coherent : phase.Coherent shared) (live : Live shared sessionId taskId)
    (collected : phase = .collect sessionId →
      taskId ∈ activeTasks shared sessionId)
    (unended : ¬Ended taskId events) (covers : phase.Covers sessionId taskId) :
    after.Covers sessionId taskId := by
  cases move with
  | @pooled job start finish pool logged step =>
      cases finish with
      | failed error => cases error <;> trivial
      | _ => trivial
  | @dropped job checkout healthy conclusion absent =>
      obtain ⟨status, error, permitted⟩ := conclusion
      cases permitted <;> trivial
  | @checkedIn job checkout healthy conclusion =>
      obtain ⟨status, error, permitted⟩ := conclusion
      cases permitted <;> trivial
  | @unoccupied request free =>
      unfold afterCheck
      split <;> trivial
  | @collected session =>
      rintro rfl
      exact collected rfl
  | @activeCancelled session other remaining member =>
      intro same
      rcases eq_or_ne taskId other with rfl | different
      · exact .inr ⟨rfl, rfl⟩
      · exact .inl (Finset.mem_erase.mpr ⟨different, covers same⟩)
  | @rejected change continuation illegal =>
      refine resume_covers covers fun _ jobless => ?_
      rintro rfl
      cases continuation with
      | cleanup session remaining =>
          exact applyStatus_cancelled live coherent illegal
      | _ => cases jobless
  | @taken change continuation tasks task applied =>
      cases continuation with
      | cleanup session remaining =>
          intro same
          rcases covers same with member | ⟨-, rfl⟩
          · exact .inl member
          · refine absurd ⟨change, List.mem_singleton_self _, rfl, ?_⟩ unended
            have cancelled : change.status = .cancelled := coherent
            rw [cancelled]
            rfl
      | _ => trivial
  | @tokenLookup change continuation =>
      cases continuation with
      | cleanup session remaining =>
          intro same
          exact .inl ((covers same).resolve_right nofun)
      | _ => trivial
  | @tokenRemoved change continuation =>
      cases continuation with
      | cleanup session remaining =>
          intro same
          exact .inl ((covers same).resolve_right nofun)
      | _ => trivial
  | emitted => exact resume_covers covers nofun
  | _ => trivial

theorem Enrolled.active {config : Config SftpShared Phase}
    (enrolled : Enrolled config) (deserted : Deserted config sessionId)
    (live : Live config.shared sessionId taskId) :
    taskId ∈ activeTasks config.shared sessionId := by
  rcases enrolled.tokened live with
    ⟨thread, task, registers, -, session⟩ | ⟨entry, token⟩
  · have idle := deserted.clear thread _ registers
    simp [Phase.enrolling, session] at idle
  · obtain ⟨task, found, -, under⟩ := live
    exact FiniteMap.mem_keysWhere.mpr ⟨entry, token, by simp [found, under]⟩

/-- While a task under way has not ended, no cleanup of its session has passed
it, let alone completed. -/
structure Pursued (sessionId taskId : String) (log : List Event)
    (config : Config SftpShared Phase) : Prop where
  live : Live config.shared sessionId taskId
  covers : ∀ thread phase, config.threads thread = some phase →
    phase.Covers sessionId taskId
  unfinished : ∀ thread, .cleanedUp thread sessionId ∉ log

theorem Pursued.step {config final : Config SftpShared Phase}
    {action : ThreadAction Phase Choice}
    (pursued : Pursued sessionId taskId log config) (orderly : Orderly config)
    (enrolled : Enrolled config) (deserted : Deserted config sessionId)
    (stepped : service.machine.step config action = some (final, events)) :
    Ended taskId events ∨ Pursued sessionId taskId (log ++ events) final := by
  rcases Program.machine_step_cases stepped with
    ⟨thread, start, -, free, admitted, rfl, rfl⟩ |
    ⟨thread, choice, current, shared, after, rfl, running, moved, rfl⟩
  · refine .inr ⟨pursued.live, ?_, by simpa [service] using pursued.unfinished⟩
    refine everywhere_update ?_ fun other phase _ found =>
      pursued.covers other phase found
    cases start <;> trivial
  · have move := step_move moved
    have own := pursued.covers thread current running
    obtain ⟨task, found, -, -⟩ := pursued.live
    by_cases ended : Ended taskId events
    · exact .inl ended
    have unpurged : current ≠ .cancelActive sessionId ∅ := by
      rintro rfl
      exact absurd (own rfl) (Finset.notMem_empty _)
    have live := ((move.live (orderly.staffed.tasks taskId task found)
      pursued.live).resolve_left ended).resolve_right unpurged
    refine .inr ⟨live, ?_, ?_⟩
    · refine everywhere_update ?_ fun other phase _ found =>
        pursued.covers other phase found
      refine move.covers (orderly.coherent thread current running) pursued.live
        ?_ ended own
      intro _
      exact enrolled.active deserted pursued.live
    · intro cleaner logged
      cases List.mem_append.mp logged with
      | inl earlier => exact pursued.unfinished cleaner earlier
      | inr now => exact unpurged (move.cleanedUp_inv now).1

/-- A session whose cleanup has completed has no task left. -/
def Emptied (sessionId : String) (log : List Event) (shared : SftpShared) :
    Prop :=
  log.any (Event.completes sessionId) = true →
    ∀ taskId task, shared.tasks.lookup taskId = some task →
      task.sessionId ≠ sessionId

theorem Emptied.step {config final : Config SftpShared Phase}
    {action : ThreadAction Phase Choice}
    (emptied : Emptied sessionId log config.shared)
    (deserted : Deserted config sessionId)
    (stepped : service.machine.step config action = some (final, events)) :
    Emptied sessionId (log ++ events) final.shared := by
  intro completed taskId task found
  rcases Program.machine_step_cases stepped with
    ⟨thread, start, -, -, -, rfl, rfl⟩ |
    ⟨thread, choice, current, shared, after, rfl, running, moved, rfl⟩
  · exact emptied (by simpa [service] using completed) taskId task found
  · have move := step_move moved
    rw [List.any_append, Bool.or_eq_true] at completed
    cases completed with
    | inl earlier =>
        rcases move.task_origin found with
          ⟨old, before, same⟩ | ⟨-, request, rfl, same⟩
        · exact same ▸ emptied earlier taskId old before
        · have idle := deserted.clear thread _ running
          simpa [Phase.enrolling, same] using idle
    | inr now =>
        obtain ⟨event, logged, completes⟩ := List.any_eq_true.mp now
        cases event with
        | cleanedUp cleaner session =>
            obtain rfl : session = sessionId := by
              simpa [Event.completes] using completes
            obtain ⟨-, rfl⟩ := move.cleanedUp_inv logged
            exact (TaskRegistry.lookup_purge.mp found).2
        | _ => cases completes

/-- What the completed cleanup of a session leaves. -/
structure CleanedUp (sessionId : String) (targets : Finset String)
    (log : List Event) (config : Config SftpShared Phase) : Prop where
  empty : config.shared.tasks.snapshot sessionId = []
  ended : ∀ taskId ∈ targets, ∃ change, taken (ending taskId) log = [change]
  told : ∀ taskId, emitted (ending taskId) log <+: taken (ending taskId) log
  complete : ∀ taskId,
    (∀ thread, dueChanges (ending taskId) config thread = none) →
      emitted (ending taskId) log = taken (ending taskId) log

theorem taken_of_ended (followed : Followed log shared taskId)
    (ended : Ended taskId log) :
    ∃ change, taken (ending taskId) log = [change] := by
  obtain ⟨change, member, rfl, terminal⟩ := ended
  obtain ⟨status, path, -⟩ := followed.path
  refine ⟨change, ?_⟩
  rw [taken_ending]
  refine SftpTaskStatus.follow_ended path ?_ terminal
  exact List.mem_filterMap.mpr ⟨_, member, by simp [Event.takes, ofTask]⟩

theorem initial_closing : Closing [] initial where
  closes := by
    intro thread phase found
    cases found
  completed logged := by cases logged

theorem closing {config : Config SftpShared Phase}
    {actions : List (ThreadAction Phase Choice)}
    (run : service.machine.Run initial actions log config) :
    Orderly config ∧ Enrolled config ∧ Closing log config := by
  refine @Machine.Run.invariant _ _ _ _ initial
    (fun log config => Orderly config ∧ Enrolled config ∧ Closing log config)
    ⟨initial_orderly, initial_enrolled, initial_closing⟩ ?_ _ _ _ run
  rintro log config action next events ⟨orderly, enrolled, closing⟩ stepped
  exact ⟨orderly.step stepped, enrolled.step orderly.staffed stepped,
    closing.step orderly.staffed stepped⟩

theorem Move.cleanupStarted_inv {cleaner : ℕ}
    (move : Move thread choice shared phase next after events)
    (begun : .cleanupStarted cleaner sessionId ∈ events) :
    sessionId ∈ shared.handles ∧ sessionId ∉ next.handles ∧
      after = .closePool sessionId ∧ next.tasks = shared.tasks ∧
        events = [.cleanupStarted thread sessionId] := by
  cases move with
  | cleanupStarted present =>
      obtain ⟨-, rfl⟩ := Event.cleanupStarted.inj (List.mem_singleton.mp begun)
      exact ⟨present, Finset.notMem_erase _ _, rfl, rfl, rfl⟩
  | _ => simp at begun

theorem pursued_of_begun {config started : Config SftpShared Phase}
    {action : ThreadAction Phase Choice} {cleaner : ℕ}
    (closing : Closing log config)
    (stepped : service.machine.step config action = some (started, events))
    (begun : .cleanupStarted cleaner sessionId ∈ events) :
    Emptied sessionId (log ++ events) started.shared ∧
      ∀ taskId ∈ liveTasks config.shared sessionId,
        Pursued sessionId taskId (log ++ events) started := by
  rcases Program.machine_step_cases stepped with
    ⟨thread, start, -, -, -, -, rfl⟩ |
    ⟨thread, choice, current, shared, after, -, running, moved, rfl⟩
  · cases begun
  obtain ⟨present, -, rfl, kept, rfl⟩ :=
    (step_move moved).cleanupStarted_inv begun
  have unfinished : ∀ other,
      .cleanedUp other sessionId ∉ log ++ [.cleanupStarted thread sessionId] := by
    intro other logged
    exact (closing.completed (by simpa using logged)).2 present
  constructor
  · intro completed
    obtain ⟨event, logged, completes⟩ := List.any_eq_true.mp completed
    cases event with
    | cleanedUp other session =>
        obtain rfl : session = sessionId := by
          simpa [Event.completes] using completes
        exact absurd logged (unfinished other)
    | _ => cases completes
  · intro taskId target
    obtain ⟨task, found, under⟩ := mem_liveTasks.mp target
    refine ⟨⟨task, kept ▸ found, under⟩, ?_, unfinished⟩
    refine everywhere_update trivial fun other phase _ running => ?_
    apply Phase.covers_of_elsewhere
    intro closes
    exact (closing.closes other phase running sessionId closes).2 present

theorem deserted_of_begun {config started : Config SftpShared Phase}
    {action : ThreadAction Phase Choice} {cleaner : ℕ}
    (staffed : Staffed config)
    (stepped : service.machine.step config action = some (started, events))
    (begun : .cleanupStarted cleaner sessionId ∈ events)
    (clear : ∀ thread phase, config.threads thread = some phase →
      phase.enrolling sessionId = false) : Deserted started sessionId := by
  rcases Program.machine_step_cases stepped with
    ⟨thread, start, -, -, -, -, rfl⟩ |
    ⟨thread, choice, current, shared, after, -, running, moved, rfl⟩
  · cases begun
  · have move := step_move moved
    obtain ⟨present, absent, rfl, -⟩ := move.cleanupStarted_inv begun
    have known := staffed.handles present
    exact ⟨⟨move.registered_subset known, absent⟩, everywhere_update rfl
      fun other phase _ found => clear other phase found⟩

/-- When no call of the session is between its last lookup of the handle and the
making of its cancel token as a cleanup begins, the cleanup empties the registry
for good and ends each task under way once. -/
theorem cleanup_empties {config started final : Config SftpShared Phase}
    {actions more : List (ThreadAction Phase Choice)} {later : List Event}
    {action : ThreadAction Phase Choice} {cleaner : ℕ}
    (run : service.machine.Run initial actions log config)
    (stepped : service.machine.step config action = some (started, events))
    (begun : .cleanupStarted cleaner sessionId ∈ events)
    (clear : ∀ thread phase, config.threads thread = some phase →
      phase.enrolling sessionId = false)
    (continued : service.machine.Run started more later final)
    (completed : .cleanedUp cleaner sessionId ∈ later) :
    CleanedUp sessionId (liveTasks config.shared sessionId)
      (log ++ events ++ later) final := by
  obtain ⟨orderly, enrolled, closing⟩ := closing run
  obtain ⟨emptied, pursued⟩ := pursued_of_begun closing stepped begun
  have deserted := deserted_of_begun orderly.staffed stepped begun clear
  have kept := @Machine.Run.invariant _ _ _ _ started
    (fun later config' => Orderly config' ∧ Enrolled config' ∧
      Deserted config' sessionId ∧
      Emptied sessionId (log ++ events ++ later) config'.shared ∧
        ∀ taskId ∈ liveTasks config.shared sessionId,
          Ended taskId (log ++ events ++ later) ∨
            Pursued sessionId taskId (log ++ events ++ later) config')
    ⟨orderly.step stepped, enrolled.step orderly.staffed stepped, deserted,
      by simpa using emptied, fun taskId target =>
        .inr (by simpa using pursued taskId target)⟩ ?_ _ _ _ continued
  · obtain ⟨-, -, -, emptied, tracked⟩ := kept
    have logged : .cleanedUp cleaner sessionId ∈ log ++ events ++ later :=
      List.mem_append_right _ completed
    have told := endings_told ((run.snoc stepped).trans continued)
    constructor
    · refine TaskRegistry.snapshot_eq_nil.mpr (emptied ?_)
      exact List.any_eq_true.mpr ⟨_, logged, by simp [Event.completes]⟩
    · intro taskId target
      refine taken_of_ended (told taskId).2 ?_
      exact (tracked taskId target).resolve_right
        fun pursued => pursued.unfinished cleaner logged
    · exact fun taskId => (told taskId).1.delivered_first
    · exact fun taskId idle => ((told taskId).1.delivered_all idle).symm
  · rintro past state action next logged
      ⟨orderly, enrolled, deserted, emptied, tracked⟩ moved
    rw [← List.append_assoc]
    refine ⟨orderly.step moved, enrolled.step orderly.staffed moved,
      deserted.step moved, emptied.step deserted moved, ?_⟩
    intro taskId target
    rcases tracked taskId target with ⟨change, member, ended⟩ | pursued
    · exact .inl ⟨change, List.mem_append_left _ member, ended⟩
    · refine (pursued.step orderly enrolled deserted moved).imp_left ?_
      rintro ⟨change, member, ended⟩
      exact ⟨change, List.mem_append_right _ member, ended⟩

/-- An upload is enqueued through that many steps of its call, and the cleanup
of its session runs from its beginning to its end. -/
def interruptedUpload (steps : List (ThreadAction Phase Choice)) :
    List (ThreadAction Phase Choice) :=
  [.spawn 0 (.called (.registerSession "session")), .advance 0 {},
    .spawn 1 (.called (.enqueueUpload "session" "/home/a" "/srv")),
    .advance 1 {}, .advance 1 {}] ++ steps ++
  .spawn 2 (.called (.cleanupSession "session")) ::
    List.replicate 4 (.advance 2 {})

/-- The call has made its checks; it inserts its task after the cleanup. -/
theorem late_upload_outlives_cleanup :
    ∃ config log,
      service.machine.Run initial
        (interruptedUpload [] ++ [.advance 1 { uuid := "task" }]) log config ∧
      .cleanedUp 2 "session" ∈ log ∧
      config.shared.tasks.snapshot "session" ≠ [] := by
  have executed : ∃ config log task,
      service.machine.Run initial
        (interruptedUpload [] ++ [.advance 1 { uuid := "task" }]) log config ∧
      .cleanedUp 2 "session" ∈ log.dropLast ∧
      config.shared.tasks.lookup "task" = some task ∧
      task.sessionId = "session" :=
    ⟨_, _, _, Machine.run_of_execute rfl, List.mem_of_getLast? rfl, rfl, rfl⟩
  obtain ⟨config, log, task, run, completed, found, session⟩ := executed
  refine ⟨config, log, run, List.mem_of_mem_dropLast completed, fun empty => ?_⟩
  exact TaskRegistry.snapshot_eq_nil.mp empty "task" task found session

/-- The call has inserted its task, and makes the cancel token only after the
cleanup: the task is purged, and its worker comes to its end in silence. -/
theorem unenrolled_upload_never_ends :
    ∃ config log,
      service.machine.Run initial
        (interruptedUpload [.advance 1 { uuid := "task" }] ++
          List.replicate 4 (.advance 1 {})) log config ∧
      config.threads 1 = some (.ended ⟨0, "task", "session"⟩) ∧
      config.threads 2 = some .returned ∧
      taken (ofTask "task") log = [] ∧ emitted (ofTask "task") log = [] :=
  ⟨_, _, Machine.run_of_execute rfl, rfl, rfl, rfl, rfl⟩

/-- A download is still to look the handle up for the size of its file when the
session of a running upload is cleaned up; both go on after that. -/
def closingUpload : List (ThreadAction Phase Choice) :=
  [.advance 2 {}, .advance 2 {}, .advance 2 { taskId := "task" },
    .advance 2 {}, .advance 2 {}, .advance 2 {}, .advance 3 {}, .advance 2 {},
    .advance 1 {}, .advance 1 {}]

theorem cleanup_empties_running :
    ∃ log config,
      emitted (ending "task") log = [⟨"task", "session", .cancelled, none⟩] ∧
      CleanedUp "session" {"task"} log config := by
  have executed : ∃ config started final log later,
      service.machine.Run initial
        (runningUpload ++
          [.spawn 3 (.called (.enqueueDownload "session" "/srv/b" "/home/b")),
            .advance 3 {}, .advance 3 {},
            .spawn 2 (.called (.cleanupSession "session"))]) log config ∧
      service.machine.step config (.advance 2 {}) =
        some (started, [.cleanupStarted 2 "session"]) ∧
      Program.among config [0, 1, 2, 3]
        (fun _ phase => !phase.enrolling "session") = true ∧
      liveTasks config.shared "session" = {"task"} ∧
      service.machine.Run started closingUpload later final ∧
      .cleanedUp 2 "session" ∈ later ∧
      emitted (ending "task") (log ++ [.cleanupStarted 2 "session"] ++ later) =
        [⟨"task", "session", .cancelled, none⟩] := by
    refine ⟨_, _, _, _, _, Machine.run_of_execute rfl, rfl, rfl, ?_,
      Machine.run_of_execute rfl, ?_, rfl⟩
    · rfl
    · exact List.mem_of_mem_dropLast (List.mem_of_getLast? rfl)
  obtain ⟨config, started, final, log, later, run, stepped, clear, live,
    continued, completed, told⟩ := executed
  have outside : ∀ thread ∉ [0, 1, 2, 3], config.threads thread = none :=
    Program.outside_run run (fun _ _ => rfl) rfl
  refine ⟨_, final, told, live ▸ cleanup_empties run stepped
    (List.mem_singleton_self _) (fun thread phase found => ?_) continued completed⟩
  simpa using Program.of_among outside clear thread phase found

end Sftp

end TitanSSH
