import TitanSSH.Core.Terminal.ConnectDeadline
import TitanSSH.Core.Terminal.Session

namespace TitanSSH

open Interleaving

/-! What follows once a session has been reported to have ended. -/

def SessionStatus.isEnd : SessionStatus → Bool
  | .authFailed | .timeout | .error | .disconnected => true
  | .connecting | .connected => false

namespace SessionEvent

def published : SessionEvent → Option SessionStatus
  | .waited (.published status _ _) => some status
  | .worked (.status status _) => some status
  | _ => none

def isEnd (event : SessionEvent) : Bool :=
  event.published.any SessionStatus.isEnd

/-- No status, no data, and no command carried out on the channel. -/
def isSilent : SessionEvent → Bool
  | .worked (.data _ _) | .worked (.wrote _ _) | .worked (.resized _ _) => false
  | event => event.published.isNone

/-- The result of the connection is received. -/
def isResult : SessionEvent → Bool
  | .waited (.received _) => true
  | _ => false

variable {event : SessionEvent}

theorem published_of_silent (silent : event.isSilent = true) :
    event.published = none := by
  unfold isSilent at silent
  split at silent
  · cases silent
  · cases silent
  · cases silent
  · exact Option.isNone_iff_eq_none.mp silent

theorem isEnd_of_silent (silent : event.isSilent = true) :
    event.isEnd = false := by
  simp [isEnd, published_of_silent silent]

end SessionEvent

def ConnectWait.hasConnection (wait : ConnectWait) : Bool :=
  match wait.turn, wait.thread with
  | .receiving _ _, .sent none => true
  | _, _ => false

def WaitTurn.isPending : WaitTurn → Bool
  | .connected | .ended _ => false
  | _ => true

/-- The channel brings nothing, and no command is taken. -/
def WorkerAction.isStill : WorkerAction → Bool
  | .read (.bytes chunk) => chunk.isEmpty
  | .read (.failed _) => false
  | .take _ => false
  | .checkEof eof => !eof
  | _ => true

namespace TerminalSession

/-- A connection is received only while the session is not being closed; and when a
command has failed, nothing more comes of the loop. -/
def quiet (_ : List SessionEvent) (session : TerminalSession)
    (action : SessionAction) : Bool :=
  match action, session.stage with
  | .connect .work, .connecting wait =>
      !(session.shutdown && wait.hasConnection)
  | action, .serving _ =>
      session.worker.status != .error || action.serves.all WorkerAction.isStill
  | _, _ => true

/-- What may follow an event. -/
def Lasting (earlier later : SessionEvent) : Prop :=
  earlier.isEnd = true → later.isSilent = true

def InTime (earlier later : SessionEvent) : Prop :=
  earlier = .shutDown → later.isResult = false

def Open (log : List SessionEvent) : Prop :=
  ∀ event ∈ log, event.isEnd = false

def Unheard (log : List SessionEvent) : Prop :=
  ∀ event ∈ log, event.isResult = false

def Unpublished (log : List SessionEvent) : Prop :=
  ∀ event ∈ log, event.published ≠ some .connected

/-- Events that change nothing of all this. -/
def Aside (events : List SessionEvent) : Prop :=
  ∀ event ∈ events, event.isSilent = true ∧ event.isResult = false

variable {session next : TerminalSession} {log events : List SessionEvent}

theorem Open.append (before : Open log) (after : Open events) :
    Open (log ++ events) :=
  List.forall_mem_append.mpr ⟨before, after⟩

theorem Aside.open (aside : Aside events) : Open events :=
  fun event member => SessionEvent.isEnd_of_silent (aside event member).1

theorem Unheard.append (before : Unheard log) (after : Unheard events) :
    Unheard (log ++ events) :=
  List.forall_mem_append.mpr ⟨before, after⟩

theorem Aside.unheard (aside : Aside events) : Unheard events :=
  fun event member => (aside event member).2

theorem Unpublished.append (before : Unpublished log)
    (after : Unpublished events) : Unpublished (log ++ events) :=
  List.forall_mem_append.mpr ⟨before, after⟩

theorem Aside.unpublished (aside : Aside events) : Unpublished events := by
  intro event member
  rw [SessionEvent.published_of_silent (aside event member).1]
  exact nofun

theorem Unheard.inTime (unheard : Unheard log) : log.Pairwise InTime :=
  List.pairwise_of_forall_mem_list fun _ _ later member _ => unheard later member

theorem inTime_append (before : log.Pairwise InTime) (after : Unheard events) :
    (log ++ events).Pairwise InTime :=
  List.pairwise_append.mpr ⟨before, after.inTime,
    fun _ _ later member _ => after later member⟩

theorem Open.lasting (before : log.Pairwise Lasting) (opened : Open log)
    (after : events.Pairwise Lasting) : (log ++ events).Pairwise Lasting := by
  refine List.pairwise_append.mpr ⟨before, after, ?_⟩
  intro earlier member later _ ended
  rw [opened earlier member] at ended
  cases ended

theorem Aside.lasting (before : log.Pairwise Lasting) (aside : Aside events) :
    (log ++ events).Pairwise Lasting := by
  refine List.pairwise_append.mpr ⟨before, ?_, ?_⟩
  · exact List.pairwise_of_forall_mem_list
      fun _ _ later member _ => (aside later member).1
  · exact fun _ _ later member _ => (aside later member).1

/-! What the parts do in one step. -/

theorem sent_aside {worker after : TerminalWorker} {command : TerminalCommand}
    {logged : List TerminalEvent}
    (moved : worker.step (.send command) = some (after, logged)) :
    Aside (logged.map .worked) ∧ after.status = worker.status ∧
      after.phase = worker.phase := by
  simp only [TerminalWorker.step] at moved
  split at moved
  · obtain ⟨rfl, rfl⟩ := Prod.mk.inj (Option.some.inj moved)
    exact ⟨by simp [Aside], rfl, rfl⟩
  · obtain ⟨rfl, rfl⟩ := Prod.mk.inj (Option.some.inj moved)
    exact ⟨by simp [Aside, SessionEvent.isSilent, SessionEvent.published,
      SessionEvent.isResult], rfl, rfl⟩

theorem worked_unheard (logged : List TerminalEvent) :
    Unheard (logged.map .worked) := by
  intro event member
  obtain ⟨worked, -, rfl⟩ := List.mem_map.mp member
  rfl

theorem served_lasting {worker after : TerminalWorker}
    {logged : List TerminalEvent}
    (move : TerminalWorker.Move worker after logged) :
    (logged.map SessionEvent.worked).Pairwise Lasting ∧
      (after.status = .error ∨ after.phase = .finished ∨
        Open (logged.map .worked)) := by
  cases move <;>
    simp [Lasting, Open, SessionEvent.isEnd, SessionEvent.published,
      SessionEvent.isSilent, SessionStatus.isEnd]

theorem readStep_still {worker after : TerminalWorker} {result : ReadResult}
    {logged : List TerminalEvent}
    (still : (WorkerAction.read result).isStill = true)
    (moved : worker.readStep result = some (after, logged)) :
    logged = [] ∧ after.status = worker.status := by
  cases result with
  | bytes chunk =>
      simp only [WorkerAction.isStill, List.isEmpty_iff] at still
      subst still
      obtain ⟨rfl, rfl⟩ := Prod.mk.inj (Option.some.inj moved)
      exact ⟨rfl, rfl⟩
  | wouldBlock =>
      obtain ⟨rfl, rfl⟩ := Prod.mk.inj (Option.some.inj moved)
      exact ⟨rfl, rfl⟩
  | failed error => cases still

theorem still_aside {worker after : TerminalWorker} {serving : WorkerAction}
    {logged : List TerminalEvent} (still : serving.isStill = true)
    (moved : worker.step serving = some (after, logged)) :
    Aside (logged.map .worked) ∧ after.status = worker.status := by
  cases serving with
  | send command => exact ⟨(sent_aside moved).1, (sent_aside moved).2.1⟩
  | stop =>
      simp only [TerminalWorker.step] at moved
      split at moved
      · obtain ⟨rfl, rfl⟩ := Prod.mk.inj (Option.some.inj moved)
        exact ⟨by simp [Aside, SessionEvent.isSilent, SessionEvent.published,
          SessionEvent.isResult], rfl⟩
      · cases moved
  | read result =>
      simp only [TerminalWorker.step] at moved
      split at moved
      · obtain ⟨rfl, same⟩ := readStep_still still moved
        exact ⟨by simp [Aside], same⟩
      · cases moved
  | take io => cases still
  | checkEof eof =>
      simp only [WorkerAction.isStill, Bool.not_eq_true'] at still
      subst still
      simp only [TerminalWorker.step] at moved
      split at moved
      · obtain ⟨rfl, rfl⟩ := Prod.mk.inj (Option.some.inj moved)
        exact ⟨by simp [Aside], rfl⟩
      · cases moved

theorem command_heard {worker after : TerminalWorker} {io : CommandIo}
    {command : TerminalCommand} {logged : List TerminalEvent}
    (handled : TerminalWorker.commandStep io worker command = (after, logged)) :
    ∃ event ∈ logged.map SessionEvent.worked, event.isSilent = false := by
  cases command with
  | write data =>
      simp only [TerminalWorker.commandStep] at handled
      split at handled
      · obtain ⟨-, rfl⟩ := Prod.mk.inj handled
        exact ⟨_, List.mem_cons_self, rfl⟩
      · obtain ⟨-, rfl⟩ := Prod.mk.inj handled
        exact ⟨_, List.mem_cons_self, rfl⟩
  | resize cols rows =>
      simp only [TerminalWorker.commandStep] at handled
      split at handled
      · obtain ⟨-, rfl⟩ := Prod.mk.inj handled
        exact ⟨_, List.mem_cons_self, rfl⟩
      · obtain ⟨-, rfl⟩ := Prod.mk.inj handled
        exact ⟨_, List.mem_cons_self, rfl⟩
  | close =>
      obtain ⟨-, rfl⟩ := Prod.mk.inj handled
      exact ⟨_, List.mem_cons_of_mem _ List.mem_cons_self, rfl⟩

theorem loud_heard {worker after : TerminalWorker} {serving : WorkerAction}
    {logged : List TerminalEvent} (loud : serving.isStill = false)
    (moved : worker.step serving = some (after, logged)) :
    ∃ event ∈ logged.map SessionEvent.worked, event.isSilent = false := by
  cases serving with
  | send command => cases loud
  | stop => cases loud
  | read result =>
      simp only [TerminalWorker.step] at moved
      split at moved
      · cases result with
        | bytes chunk =>
            have nonempty : chunk.isEmpty = false := loud
            simp only [TerminalWorker.readStep, nonempty] at moved
            split at moved
            · cases moved
            · obtain ⟨-, rfl⟩ := Prod.mk.inj (Option.some.inj moved)
              exact ⟨_, List.mem_cons_self, rfl⟩
        | wouldBlock => cases loud
        | failed error =>
            obtain ⟨-, rfl⟩ := Prod.mk.inj (Option.some.inj moved)
            exact ⟨_, List.mem_cons_self, rfl⟩
      · cases moved
  | take io =>
      simp only [TerminalWorker.step] at moved
      split at moved
      · exact command_heard (Option.some.inj moved)
      · cases moved
  | checkEof eof =>
      simp only [WorkerAction.isStill, Bool.not_eq_false'] at loud
      subst loud
      simp only [TerminalWorker.step] at moved
      split at moved
      · obtain ⟨-, rfl⟩ := Prod.mk.inj (Option.some.inj moved)
        exact ⟨_, List.mem_cons_self, rfl⟩
      · cases moved

theorem served_running {worker after : TerminalWorker} {action : SessionAction}
    {serving : WorkerAction} {logged : List TerminalEvent}
    (taken : action.serves = some serving)
    (moved : worker.step serving = some (after, logged)) :
    worker.phase ≠ .finished := by
  intro finished
  cases action <;> cases taken <;> simp [TerminalWorker.step, finished] at moved

theorem waited_outcome {wait after : ConnectWait} {logged : List WaitEvent}
    (move : ConnectWait.Move wait after logged) :
    (Aside (logged.map .waited) ∧
      (after.turn = wait.turn ∨
        wait.turn.isPending = true ∧ after.turn.isPending = true)) ∨
    (wait.turn.isPending = true ∧ wait.hasConnection = true ∧
      after.turn = .connected ∧ logged = [.received none]) ∨
    (wait.turn.isPending = true ∧ (∃ status, after.turn = .ended status) ∧
      (logged.map SessionEvent.waited).Pairwise Lasting ∧
      Unpublished (logged.map .waited)) := by
  cases move with
  | connected turn result =>
      refine .inr (.inl ⟨by simp [turn, WaitTurn.isPending], ?_, rfl, rfl⟩)
      simp [ConnectWait.hasConnection, turn, result]
  | @failed activePhase since error status message turn result mapped =>
      have unconnected := (mapPhaseErrorToStatus_ends activePhase error).1
      rw [mapped] at unconnected
      refine .inr (.inr ⟨by simp [turn, WaitTurn.isPending], ⟨_, rfl⟩, ?_, ?_⟩)
      · simp [Lasting, SessionEvent.isEnd, SessionEvent.published]
      · simpa [Unpublished, SessionEvent.published] using unconnected
  | abandoned turn gone =>
      refine .inr (.inr ⟨by simp [turn, WaitTurn.isPending], ⟨_, rfl⟩, ?_, ?_⟩)
      · simp
      · simp [Unpublished, SessionEvent.published]
  | timedOut turn =>
      refine .inr (.inr ⟨by simp [turn, WaitTurn.isPending], ⟨_, rfl⟩, ?_, ?_⟩)
      · simp
      · simp [Unpublished, SessionEvent.published]
  | passed | reported onward | sent | vanished running =>
      exact .inl ⟨by simp [Aside, SessionEvent.isSilent,
        SessionEvent.published, SessionEvent.isResult], .inl rfl⟩
  | started turn | sampled turn | waited turn | froze turn unseen
  | granted turn elsewhere frozen | judged turn settled
  | ranOut turn elsewhere due | continued turn =>
      refine .inl ⟨by simp [Aside, SessionEvent.isSilent,
        SessionEvent.published, SessionEvent.isResult], .inr ⟨?_, rfl⟩⟩
      simp [turn, WaitTurn.isPending]

/-! The invariant. -/

def StandsWaiting (log : List SessionEvent) : WaitTurn → Prop
  | .ended _ => True
  | .connected => Open log ∧ log.Pairwise InTime
  | _ => Open log ∧ Unheard log

def Stands (log : List SessionEvent) (worker : TerminalWorker) :
    SessionStage → Prop
  | .loading => Open log ∧ Unheard log ∧ Unpublished log
  | .failed => Unpublished log
  | .connecting wait => Unpublished log ∧ StandsWaiting log wait.turn
  | .serving _ => log.Pairwise InTime ∧
      (worker.status = .error ∨ worker.phase = .finished ∨ Open log)

structure Settled (log : List SessionEvent) (session : TerminalSession) :
    Prop where
  lasting : log.Pairwise Lasting
  flagged : .shutDown ∈ log → session.shutdown = true
  stands : Stands log session.worker session.stage

theorem standsWaiting_of_pending {turn : WaitTurn}
    (pending : turn.isPending = true) :
    StandsWaiting log turn ↔ Open log ∧ Unheard log := by
  cases turn <;> first | rfl | cases pending

theorem StandsWaiting.append {turn : WaitTurn}
    (stands : StandsWaiting log turn) (aside : Aside events) :
    StandsWaiting (log ++ events) turn := by
  cases turn with
  | ended status => trivial
  | connected => exact ⟨stands.1.append aside.open,
      inTime_append stands.2 aside.unheard⟩
  | _ => exact ⟨stands.1.append aside.open, stands.2.append aside.unheard⟩

theorem Stands.append {worker after : TerminalWorker} {stage : SessionStage}
    (stands : Stands log worker stage) (aside : Aside events)
    (status : after.status = worker.status) (phase : after.phase = worker.phase) :
    Stands (log ++ events) after stage := by
  cases stage with
  | loading =>
      obtain ⟨opened, unheard, unpublished⟩ := stands
      exact ⟨opened.append aside.open, unheard.append aside.unheard,
        unpublished.append aside.unpublished⟩
  | failed => exact Unpublished.append stands aside.unpublished
  | connecting wait =>
      exact ⟨stands.1.append aside.unpublished, stands.2.append aside⟩
  | serving entered =>
      refine ⟨inTime_append stands.1 aside.unheard, ?_⟩
      rw [status, phase]
      exact stands.2.imp_right (Or.imp_right fun opened =>
        opened.append aside.open)

theorem settled_start (connectTimeout : ℕ) :
    Settled [] (start connectTimeout) :=
  ⟨.nil, nofun, nofun, nofun, nofun⟩

theorem follow_stage (session : TerminalSession) (wait : ConnectWait) :
    (session.follow wait).stage = .connecting wait := by
  unfold follow
  split <;> rfl

theorem follow_shutdown (session : TerminalSession) (wait : ConnectWait) :
    (session.follow wait).shutdown = session.shutdown := by
  unfold follow
  split <;> rfl

theorem Settled.flagged_append (settled : Settled log session)
    (unflagged : .shutDown ∉ events) :
    .shutDown ∈ log ++ events → session.shutdown = true := by
  intro member
  exact settled.flagged ((List.mem_append.mp member).resolve_right unflagged)

theorem unflagged_worked (logged : List TerminalEvent) :
    SessionEvent.shutDown ∉ logged.map .worked := by
  simp

theorem unflagged_waited (logged : List WaitEvent) :
    SessionEvent.shutDown ∉ logged.map .waited := by
  simp

theorem Settled.aside (settled : Settled log session) (aside : Aside events)
    (flagged : .shutDown ∈ log ++ events → next.shutdown = true)
    (stage : next.stage = session.stage)
    (status : next.worker.status = session.worker.status)
    (phase : next.worker.phase = session.worker.phase) :
    Settled (log ++ events) next where
  lasting := aside.lasting settled.lasting
  flagged := flagged
  stands := stage ▸ settled.stands.append aside status phase

theorem quiet_connect {wait : ConnectWait}
    (stage : session.stage = .connecting wait)
    (permitted : quiet log session (.connect .work) = true)
    (connection : wait.hasConnection = true) : session.shutdown = false := by
  simpa [quiet, stage, connection] using permitted

theorem quiet_serve {action : SessionAction} {serving : WorkerAction}
    {entered : Bool} (taken : action.serves = some serving)
    (stage : session.stage = .serving entered)
    (permitted : quiet log session action = true)
    (failed : session.worker.status = .error) : serving.isStill = true := by
  cases action <;> cases taken <;>
    simpa [quiet, stage, failed, SessionAction.serves] using permitted

theorem Settled.waits {wait after : ConnectWait} {waiting : WaitAction}
    {logged : List WaitEvent} (settled : Settled log session)
    (stage : session.stage = .connecting wait)
    (permitted : quiet log session (.connect waiting) = true)
    (moved : wait.step waiting = some (after, logged)) :
    Settled (log ++ logged.map .waited) (session.follow after) := by
  have flagged := settled.flagged_append (unflagged_waited logged)
  rw [← follow_shutdown session after] at flagged
  have stands := settled.stands
  rw [stage] at stands
  obtain ⟨unpublished, waiting⟩ := stands
  rcases waited_outcome (ConnectWait.step_move moved) with
    ⟨aside, turn⟩ | ⟨pending, connection, turn, rfl⟩ |
    ⟨pending, ⟨status, turn⟩, lasting, unconnected⟩
  · refine ⟨aside.lasting settled.lasting, flagged, ?_⟩
    rw [follow_stage]
    refine ⟨unpublished.append aside.unpublished, ?_⟩
    rcases turn with same | ⟨before, later⟩
    · exact same ▸ waiting.append aside
    · obtain ⟨opened, unheard⟩ := (standsWaiting_of_pending before).mp waiting
      exact (standsWaiting_of_pending later).mpr
        ⟨opened.append aside.open, unheard.append aside.unheard⟩
  · obtain ⟨opened, unheard⟩ := (standsWaiting_of_pending pending).mp waiting
    obtain rfl := ConnectWait.work_of_event moved List.mem_cons_self rfl
    have running := quiet_connect stage permitted connection
    refine ⟨opened.lasting settled.lasting (by simp), flagged, ?_⟩
    rw [follow_stage]
    refine ⟨unpublished.append (by simp [Unpublished, SessionEvent.published]),
      ?_⟩
    rw [turn]
    refine ⟨opened.append
      (by simp [Open, SessionEvent.isEnd, SessionEvent.published]), ?_⟩
    refine List.pairwise_append.mpr ⟨unheard.inTime, by simp, ?_⟩
    rintro earlier member later - rfl
    rw [settled.flagged member] at running
    cases running
  · obtain ⟨opened, unheard⟩ := (standsWaiting_of_pending pending).mp waiting
    refine ⟨opened.lasting settled.lasting lasting, flagged, ?_⟩
    rw [follow_stage]
    refine ⟨unpublished.append unconnected, ?_⟩
    rw [turn]
    trivial

theorem Settled.serves {action : SessionAction} {serving : WorkerAction}
    {entered after : Bool} {worker : TerminalWorker}
    {logged : List TerminalEvent} (settled : Settled log session)
    (taken : action.serves = some serving)
    (stage : session.stage = .serving entered)
    (permitted : quiet log session action = true)
    (moved : session.worker.step serving = some (worker, logged)) :
    Settled (log ++ logged.map .worked)
      { session with stage := .serving after, worker := worker } := by
  have flagged := settled.flagged_append (unflagged_worked logged)
  have stands := settled.stands
  rw [stage] at stands
  obtain ⟨inTime, known⟩ := stands
  have heard := inTime_append inTime (worked_unheard logged)
  rcases known with failed | finished | opened
  · have still := quiet_serve taken stage permitted failed
    obtain ⟨aside, status⟩ := still_aside still moved
    exact ⟨aside.lasting settled.lasting, flagged, heard,
      .inl (status.trans failed)⟩
  · exact absurd finished (served_running taken moved)
  · obtain ⟨lasting, ends⟩ := served_lasting (TerminalWorker.step_move moved)
    exact ⟨opened.lasting settled.lasting lasting, flagged, heard,
      ends.imp_right (Or.imp_right opened.append)⟩

theorem Settled.step {action : SessionAction} (settled : Settled log session)
    (permitted : quiet log session action = true)
    (move : Move session action next events) :
    Settled (log ++ events) next := by
  cases move with
  | sent moved =>
      obtain ⟨aside, status, phase⟩ := sent_aside moved
      exact settled.aside aside
        (settled.flagged_append (unflagged_worked _)) rfl status phase
  | removed =>
      exact settled.aside nofun (settled.flagged_append nofun) rfl rfl rfl
  | flagged =>
      refine settled.aside ?_ (fun _ => rfl) rfl rfl rfl
      simp [Aside, SessionEvent.isSilent, SessionEvent.published,
        SessionEvent.isResult]
  | loaded stage =>
      have stands := settled.stands
      rw [stage] at stands
      obtain ⟨opened, unheard, unpublished⟩ := stands
      rw [List.append_nil]
      exact ⟨settled.lasting, settled.flagged, unpublished, opened, unheard⟩
  | @loadFailed error status message stage mapped =>
      have stands := settled.stands
      rw [stage] at stands
      obtain ⟨opened, -, unpublished⟩ := stands
      refine ⟨opened.lasting settled.lasting (by simp),
        settled.flagged_append (by simp), unpublished.append ?_⟩
      have unconnected := (mapPhaseErrorToStatus_ends .loadingCredentials error).1
      rw [mapped] at unconnected
      simpa [Unpublished, SessionEvent.published] using unconnected
  | waited taken stage moved =>
      subst taken
      exact settled.waits stage permitted moved
  | published stage turn =>
      have stands := settled.stands
      rw [stage] at stands
      obtain ⟨-, waiting⟩ := stands
      rw [turn] at waiting
      obtain ⟨opened, inTime⟩ := waiting
      refine ⟨opened.lasting settled.lasting (by simp),
        settled.flagged_append (by simp), ?_, .inr (.inr ?_)⟩
      · exact inTime_append inTime (by simp [Unheard, SessionEvent.isResult])
      · exact opened.append (by simp [Open, SessionEvent.isEnd,
          SessionEvent.published, SessionStatus.isEnd])
  | entered stage =>
      have stands := settled.stands
      rw [stage] at stands
      rw [List.append_nil]
      exact ⟨settled.lasting, settled.flagged, stands⟩
  | served taken stage moved => exact settled.serves taken stage permitted moved

theorem Stands.answered {worker : TerminalWorker} {stage : SessionStage}
    (stands : Stands log worker stage) :
    log.Pairwise InTime ∨ Unpublished log := by
  cases stage with
  | loading => exact .inr stands.2.2
  | failed => exact .inr stands
  | connecting wait => exact .inr stands.1
  | serving entered => exact .inl stands.1

/-- In every run that is quiet after a failed command, and in which no connection is
received once the session is being closed, nothing follows the end of the
session, and a session closed before its result never becomes connected. -/
theorem published_ends_final {connectTimeout : ℕ}
    {actions : List SessionAction}
    (run : machine.RunWhere quiet [] (start connectTimeout) actions log
      session) :
    (∀ before event after, log = before ++ event :: after →
      event.isEnd = true → ∀ later ∈ after, later.isSilent = true) ∧
    ∀ before result after, log = before ++ result :: after →
      result.isResult = true → .shutDown ∈ before →
        ∀ event ∈ log, event.published ≠ some .connected := by
  have settled : Settled log session :=
    run.invariant Settled (settled_start connectTimeout)
      fun settled permitted stepped => settled.step permitted (step_move stepped)
  constructor
  · intro before event after split ended later member
    have lasting := settled.lasting
    rw [split] at lasting
    exact List.rel_of_pairwise_cons (List.pairwise_append.mp lasting).2.1
      member ended
  · intro before result after split received closed
    cases settled.stands.answered with
    | inl inTime =>
        rw [split] at inTime
        have late := (List.pairwise_append.mp inTime).2.2 _ closed result
          List.mem_cons_self rfl
        rw [received] at late
        cases late
    | inr unpublished => exact unpublished

/-- The connection is made while the first turn waits for it. -/
def connecting : List SessionAction :=
  [.load none, .connect .work, .connect .work, .connect (.send none)]

/-- A write fails, and the output of the channel, another command and the end of
the channel are published after that; a connection that is received after the
session has been closed is published. -/
theorem ends_overrun :
    (∃ log session,
      machine.Run (start 15000)
        (connecting ++ [.connect .work, .publish, .writeTerminal "ls",
          .resizeTerminal 80 24, .enter, .read .wouldBlock,
          .take { writes := [.failed "broken pipe"] }, .take {},
          .checkEof false, .enter, .read (.bytes [104]), .checkEof true])
        log session ∧
      log.drop 7 =
        [.worked (.status .error (some
            (AppError.toString ⟨.ioError, "broken pipe"⟩))),
          .worked (.resized 80 24),
          .worked (.data [104] (String.ofList (Utf8.decodeLossy [104]))),
          .worked (.status .disconnected (some "连接已断开")),
          .worked .closed]) ∧
    ∃ log session,
      machine.Run (start 15000)
        (connecting ++ [.close, .close, .connect .work, .publish]) log session ∧
      log.drop 2 =
        [.shutDown, .waited (.received none),
          .worked (.status .connected none)] :=
  ⟨⟨_, _, Machine.run_of_execute rfl, rfl⟩,
    ⟨_, _, Machine.run_of_execute rfl, rfl⟩⟩

/-- A write fails, nothing comes of the channel any more, and the session is
closed. -/
def failedWrite : List SessionAction :=
  connecting ++ [.connect .work, .publish, .writeTerminal "ls", .enter,
    .read .wouldBlock, .take { writes := [.failed "broken pipe"] },
    .checkEof false, .close, .close, .enter]

theorem published_ends_final_failed :
    ∃ log session,
      machine.RunWhere quiet [] (start 15000) failedWrite log session ∧
      (∀ before event after, log = before ++ event :: after →
        event.isEnd = true → ∀ later ∈ after, later.isSilent = true) ∧
      ∃ before message after,
        log = before ++ .worked (.status .error message) :: after ∧
        ∀ later ∈ after, later.isSilent = true := by
  have executed : ∃ log session,
      machine.RunWhere quiet [] (start 15000) failedWrite log session ∧
      log.drop 6 =
        [.worked (.status .error (some
            (AppError.toString ⟨.ioError, "broken pipe"⟩))),
          .shutDown, .worked .closed] :=
    ⟨_, _, Machine.runWhere_of_executeWhere rfl, rfl⟩
  obtain ⟨log, session, run, tail⟩ := executed
  obtain ⟨lasting, -⟩ := published_ends_final run
  have split := (List.take_append_drop 6 log).symm
  rw [tail] at split
  exact ⟨log, session, run, lasting, _, _, _, split, lasting _ _ _ split rfl⟩

end TerminalSession

end TitanSSH
