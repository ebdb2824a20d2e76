import TitanSSH.Core.Terminal.ConnectWait
import TitanSSH.Core.Terminal.Worker

namespace TitanSSH

open Interleaving

/-! A terminal session from its opening to its end: its worker loads the
credentials, waits for the connection and serves the channel, while others send it
commands and one of them closes the session. -/

/-- How far `close_session` has got with the handle. -/
inductive SessionClosing
  | opened
  | removed
  | flagged
  | closed
  deriving DecidableEq

inductive SessionStage
  | loading
  | failed
  | connecting (wait : ConnectWait)
  /-- Whether the head of the loop has been passed in this turn. -/
  | serving (entered : Bool)

structure TerminalSession where
  connectTimeout : ℕ
  shutdown : Bool
  closing : SessionClosing
  stage : SessionStage
  /-- The queue of commands is there from the opening on. -/
  worker : TerminalWorker

inductive SessionAction
  | writeTerminal (data : String)
  | resizeTerminal (cols rows : UInt32)
  /-- `close_session` goes on. -/
  | close
  | load (failure : Option AppError)
  | connect (action : WaitAction)
  /-- The connection is published. -/
  | publish
  /-- The loop looks at the shutdown flag. -/
  | enter
  | read (result : ReadResult)
  | take (io : CommandIo)
  | checkEof (eof : Bool)

/-- The step of the loop that the action takes. -/
def SessionAction.serves : SessionAction → Option WorkerAction
  | .enter => some .stop
  | .read result => some (.read result)
  | .take io => some (.take io)
  | .checkEof eof => some (.checkEof eof)
  | _ => none

inductive SessionEvent
  | shutDown
  | waited (event : WaitEvent)
  | worked (event : TerminalEvent)
  deriving DecidableEq

namespace TerminalSession

abbrev Outcome := TerminalSession × List SessionEvent

def start (connectTimeout : ℕ) : TerminalSession where
  connectTimeout := connectTimeout
  shutdown := false
  closing := .opened
  stage := .loading
  worker := { phase := .reading, queue := [], status := .connecting }

def work (session : TerminalSession) (action : WorkerAction) :
    Option Outcome :=
  match session.worker.step action with
  | some (worker, events) =>
      some ({ session with worker := worker }, events.map .worked)
  | none => none

def stepClose (session : TerminalSession) : Option Outcome :=
  match session.closing with
  | .opened => some ({ session with closing := .removed }, [])
  | .removed =>
      some ({ session with closing := .flagged, shutdown := true }, [.shutDown])
  | .flagged => { session with closing := .closed }.work (.send .close)
  | .closed => none

def finish (session : TerminalSession) (status : SessionStatus) :
    TerminalSession :=
  { session with
    worker := { session.worker with phase := .finished, status := status } }

def stepLoad (session : TerminalSession) : Option AppError → Outcome
  | none =>
      ({ session with
        stage := .connecting (ConnectWait.start session.connectTimeout) }, [])
  | some error =>
      match mapPhaseErrorToStatus .loadingCredentials error with
      | (status, message) =>
          ({ session with stage := .failed }.finish status,
            [.worked (.status status (some message))])

/-- When the wait ends without a connection, so does the worker. -/
def follow (session : TerminalSession) (wait : ConnectWait) : TerminalSession :=
  match wait.turn with
  | .ended status => { session with stage := .connecting wait }.finish status
  | _ => { session with stage := .connecting wait }

def stepConnect (session : TerminalSession) (wait : ConnectWait)
    (action : WaitAction) : Option Outcome :=
  match wait.step action with
  | some (next, events) => some (session.follow next, events.map .waited)
  | none => none

def stepPublish (session : TerminalSession) (wait : ConnectWait) :
    Option Outcome :=
  match wait.turn with
  | .connected =>
      some ({ session with
        stage := .serving false
        worker := { session.worker with status := .connected } },
        [.worked (.status .connected none)])
  | _ => none

def stepEnter (session : TerminalSession) : Option Outcome :=
  if session.shutdown then session.work .stop
  else some ({ session with stage := .serving true }, [])

def step (session : TerminalSession) : SessionAction → Option Outcome
  | .writeTerminal data => session.work (.send (.write data))
  | .resizeTerminal cols rows => session.work (.send (.resize cols rows))
  | .close => session.stepClose
  | .load failure =>
      match session.stage with
      | .loading => some (session.stepLoad failure)
      | _ => none
  | .connect action =>
      match session.stage with
      | .connecting wait => session.stepConnect wait action
      | _ => none
  | .publish =>
      match session.stage with
      | .connecting wait => session.stepPublish wait
      | _ => none
  | .enter =>
      match session.stage, session.worker.phase with
      | .serving false, .reading => session.stepEnter
      | _, _ => none
  | .read result =>
      match session.stage with
      | .serving true =>
          { session with stage := .serving false }.work (.read result)
      | _ => none
  | .take io =>
      match session.stage with
      | .serving _ => session.work (.take io)
      | _ => none
  | .checkEof eof =>
      match session.stage with
      | .serving _ => session.work (.checkEof eof)
      | _ => none

def machine : Machine TerminalSession SessionAction SessionEvent where
  step := step

/-! Everything one step can do, told by the steps of the parts. -/

inductive Move (session : TerminalSession) (action : SessionAction) :
    TerminalSession → List SessionEvent → Prop
  | sent {closing : SessionClosing} {command : TerminalCommand}
      {worker : TerminalWorker} {events : List TerminalEvent}
      (moved : session.worker.step (.send command) = some (worker, events)) :
      Move session action
        { session with closing := closing, worker := worker }
        (events.map .worked)
  | removed : Move session action { session with closing := .removed } []
  | flagged :
      Move session action
        { session with closing := .flagged, shutdown := true } [.shutDown]
  | loaded (stage : session.stage = .loading) :
      Move session action
        { session with
          stage := .connecting (ConnectWait.start session.connectTimeout) } []
  | loadFailed {error : AppError} {status : SessionStatus} {message : String}
      (stage : session.stage = .loading)
      (mapped : mapPhaseErrorToStatus .loadingCredentials error =
        (status, message)) :
      Move session action ({ session with stage := .failed }.finish status)
        [.worked (.status status (some message))]
  | waited {wait next : ConnectWait} {waiting : WaitAction}
      {events : List WaitEvent}
      (taken : action = .connect waiting)
      (stage : session.stage = .connecting wait)
      (moved : wait.step waiting = some (next, events)) :
      Move session action (session.follow next) (events.map .waited)
  | published {wait : ConnectWait} (stage : session.stage = .connecting wait)
      (turn : wait.turn = .connected) :
      Move session action
        { session with
          stage := .serving false
          worker := { session.worker with status := .connected } }
        [.worked (.status .connected none)]
  | entered (stage : session.stage = .serving false) :
      Move session action { session with stage := .serving true } []
  | served {entered after : Bool} {serving : WorkerAction}
      {worker : TerminalWorker} {events : List TerminalEvent}
      (taken : action.serves = some serving)
      (stage : session.stage = .serving entered)
      (moved : session.worker.step serving = some (worker, events)) :
      Move session action
        { session with stage := .serving after, worker := worker }
        (events.map .worked)

variable {session next : TerminalSession} {events : List SessionEvent}

theorem work_eq_some {action : WorkerAction}
    (stepped : session.work action = some (next, events)) :
    ∃ worker logged, session.worker.step action = some (worker, logged) ∧
      next = { session with worker := worker } ∧
      events = logged.map .worked := by
  unfold work at stepped
  split at stepped
  · next worker logged moved =>
      obtain ⟨rfl, rfl⟩ := Prod.mk.inj (Option.some.inj stepped)
      exact ⟨worker, logged, moved, rfl, rfl⟩
  · cases stepped

theorem sent_move {action : SessionAction} {command : TerminalCommand}
    (stepped : session.work (.send command) = some (next, events)) :
    Move session action next events := by
  obtain ⟨worker, logged, moved, rfl, rfl⟩ := work_eq_some stepped
  exact .sent moved

theorem stepClose_move {action : SessionAction}
    (stepped : session.stepClose = some (next, events)) :
    Move session action next events := by
  unfold stepClose at stepped
  split at stepped
  · obtain ⟨rfl, rfl⟩ := Prod.mk.inj (Option.some.inj stepped)
    exact .removed
  · obtain ⟨rfl, rfl⟩ := Prod.mk.inj (Option.some.inj stepped)
    exact .flagged
  · obtain ⟨worker, logged, moved, rfl, rfl⟩ := work_eq_some stepped
    exact .sent moved
  · cases stepped

theorem stepLoad_move {action : SessionAction} {failure : Option AppError}
    (stage : session.stage = .loading)
    (stepped : session.stepLoad failure = (next, events)) :
    Move session action next events := by
  cases failure with
  | none =>
      obtain ⟨rfl, rfl⟩ := Prod.mk.inj stepped
      exact .loaded stage
  | some error =>
      obtain ⟨rfl, rfl⟩ := Prod.mk.inj stepped
      exact .loadFailed stage rfl

theorem served_move {action : SessionAction} {serving : WorkerAction}
    {entered after : Bool} (taken : action.serves = some serving)
    (stage : session.stage = .serving entered)
    (stepped : { session with stage := .serving after }.work serving =
      some (next, events)) : Move session action next events := by
  obtain ⟨worker, logged, moved, rfl, rfl⟩ := work_eq_some stepped
  exact .served taken stage moved

theorem served_in_turn {action : SessionAction} {serving : WorkerAction}
    {entered : Bool} (taken : action.serves = some serving)
    (stage : session.stage = .serving entered)
    (stepped : session.work serving = some (next, events)) :
    Move session action next events := by
  have unmoved : { session with stage := .serving entered } = session := by
    rw [← stage]
  exact served_move taken stage (unmoved.symm ▸ stepped)

theorem step_move {action : SessionAction}
    (stepped : step session action = some (next, events)) :
    Move session action next events := by
  cases action with
  | writeTerminal data => exact sent_move stepped
  | resizeTerminal cols rows => exact sent_move stepped
  | close => exact stepClose_move stepped
  | load failure =>
      simp only [step] at stepped
      split at stepped
      · next stage => exact stepLoad_move stage (Option.some.inj stepped)
      · cases stepped
  | connect action =>
      simp only [step] at stepped
      split at stepped
      · next wait stage =>
          unfold stepConnect at stepped
          split at stepped
          · next moved =>
              obtain ⟨rfl, rfl⟩ := Prod.mk.inj (Option.some.inj stepped)
              exact .waited rfl stage moved
          · cases stepped
      · cases stepped
  | publish =>
      simp only [step] at stepped
      split at stepped
      · next wait stage =>
          unfold stepPublish at stepped
          split at stepped
          · next turn =>
              obtain ⟨rfl, rfl⟩ := Prod.mk.inj (Option.some.inj stepped)
              exact .published stage turn
          · cases stepped
      · cases stepped
  | enter =>
      simp only [step] at stepped
      split at stepped
      · next stage reading =>
          unfold stepEnter at stepped
          split at stepped
          · exact served_in_turn rfl stage stepped
          · obtain ⟨rfl, rfl⟩ := Prod.mk.inj (Option.some.inj stepped)
            exact .entered stage
      · cases stepped
  | read result =>
      simp only [step] at stepped
      split at stepped
      · next stage => exact served_move rfl stage stepped
      · cases stepped
  | take io =>
      simp only [step] at stepped
      split at stepped
      · next stage => exact served_in_turn rfl stage stepped
      · cases stepped
  | checkEof eof =>
      simp only [step] at stepped
      split at stepped
      · next stage => exact served_in_turn rfl stage stepped
      · cases stepped

end TerminalSession

end TitanSSH
