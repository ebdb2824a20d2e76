import TitanSSH.Core.Sftp.Service

namespace TitanSSH

open Interleaving

/-! The control connection of a session, as a slot that several threads share:
its calls, and the operations that are carried out on it. -/

inductive ConnectionState
  | idle
  | connecting
  | ready (transport : ℕ)
  | failed (message : String)
  | closed
  deriving DecidableEq

def ConnectionState.transport? : ConnectionState → Option ℕ
  | .ready transport => some transport
  | _ => none

/-- Transports are numbered in the order in which they are made, which stands for
the identity of their `Arc`s; `notified` counts the calls of `notify_all`. -/
structure SftpConnection where
  state : ConnectionState
  transports : ℕ
  poisoned : Finset ℕ
  notified : ℕ

namespace SftpConnection

def new : SftpConnection :=
  ⟨.idle, 0, ∅, 0⟩

def setState (slot : SftpConnection) (state : ConnectionState) :
    SftpConnection :=
  { slot with state := state }

def notifyAll (slot : SftpConnection) : SftpConnection :=
  { slot with notified := slot.notified + 1 }

/-- A connector has come back with a transport. -/
def install (slot : SftpConnection) : SftpConnection :=
  { slot with
    state := .ready slot.transports
    transports := slot.transports + 1 }.notifyAll

inductive Call
  | connectEager
  | get
  | invalidateIfReady (transport : ℕ)
  | runControlOp (sessionId : String)
  | close

/-- Who calls `get`: somebody from outside, or an operation that has not been
tried yet or that has failed once. -/
inductive Caller
  | outside
  | operation (retried : Bool)

inductive Phase
  | called (call : Call)
  | connectingEager
  | entering (caller : Caller)
  | waiting (caller : Caller) (since : ℕ)
  | connecting (caller : Caller)
  | operating (retried : Bool) (transport : ℕ)
  | evicting (transport : ℕ)
  | notifying
  | returned

/-- What `run_op_locked` comes to. -/
inductive OpOutcome
  | done
  | failed (error : AppError)
  | poisoned
  | panicked
  deriving DecidableEq

inductive Event
  | invoked (thread : ℕ) (call : Call)
  | connected (thread transport : ℕ)
  | obtained (thread transport : ℕ)
  | refused (thread : ℕ) (error : AppError)
  | attempted (thread transport : ℕ) (outcome : OpOutcome)
  | evicted (thread transport : ℕ)
  | closed (thread : ℕ)

/-- What a step cannot determine itself: the remote side, whether the session is
still registered, and when a wait ends without a notification. -/
structure Choice where
  connectError : Option AppError := none
  opError : Option AppError := none
  opPanics : Bool := false
  registered : Bool := true
  spurious : Bool := false

abbrev Outcome := SftpConnection × Phase × List Event

def sessionClosed : AppError :=
  ⟨.sftpChannelError, "session 已关闭"⟩

/-- Where a caller of `get` goes on with the transport. -/
def granted : Caller → ℕ → Phase
  | .outside, _ => .returned
  | .operation retried, transport => .operating retried transport

/-! `connect_eager` and the thread that it leaves behind. -/

def stepConnectEager (slot : SftpConnection) : Outcome :=
  if slot.state = .idle then
    (slot.setState .connecting, .connectingEager, [])
  else (slot, .returned, [])

def stepConnectingEager (thread : ℕ) (choice : Choice) (slot : SftpConnection) :
    Outcome :=
  if slot.state = .closed then (slot.notifyAll, .returned, [])
  else
    match choice.connectError with
    | none => (slot.install, .returned, [.connected thread slot.transports])
    | some error =>
        ((slot.setState (.failed error.toString)).notifyAll, .returned, [])

/-! `get`: one turn of its loop, its wait, and its own connector call. -/

def stepEntering (thread : ℕ) (slot : SftpConnection) (caller : Caller) :
    Outcome :=
  match slot.state with
  | .ready transport =>
      (slot, granted caller transport, [.obtained thread transport])
  | .connecting => (slot, .waiting caller slot.notified, [])
  | .failed message =>
      (slot.setState .idle, .returned,
        [.refused thread ⟨.sftpChannelError, message⟩])
  | .closed => (slot, .returned, [.refused thread sessionClosed])
  | .idle => (slot.setState .connecting, .connecting caller, [])

def stepWaiting (choice : Choice) (slot : SftpConnection) (caller : Caller)
    (since : ℕ) : Option Outcome :=
  if choice.spurious ∨ since < slot.notified then
    some (slot, .entering caller, [])
  else none

def stepConnecting (thread : ℕ) (choice : Choice) (slot : SftpConnection)
    (caller : Caller) : Outcome :=
  if slot.state = .closed then
    (slot.notifyAll, .returned, [.refused thread sessionClosed])
  else
    match choice.connectError with
    | none =>
        (slot.install, granted caller slot.transports,
          [.connected thread slot.transports, .obtained thread slot.transports])
    | some error =>
        ((slot.setState .idle).notifyAll, .returned, [.refused thread error])

/-! `invalidate_if_ready`. -/

def invalidateIfReady (slot : SftpConnection) (transport : ℕ) : SftpConnection :=
  if slot.state = .ready transport then (slot.setState .idle).notifyAll
  else slot.notifyAll

def stepInvalidate (thread : ℕ) (slot : SftpConnection) (transport : ℕ)
    (next : Phase) : Outcome :=
  (slot.invalidateIfReady transport, next,
    if slot.state = .ready transport then [.evicted thread transport] else [])

/-! `run_control_op`. -/

def OpOutcome.error? : OpOutcome → Option AppError
  | .failed error => some error
  | .poisoned =>
      some ⟨.sftpChannelError, "poisoned lock: another task failed inside"⟩
  | .done | .panicked => none

def OpOutcome.isConnectionFailure (outcome : OpOutcome) : Bool :=
  outcome.error?.any Sftp.isConnectionFailure

/-- An operation that panics leaves the lock of its transport poisoned. -/
def runOpLocked (choice : Choice) (slot : SftpConnection) (transport : ℕ) :
    SftpConnection × OpOutcome :=
  if transport ∈ slot.poisoned then (slot, .poisoned)
  else if choice.opPanics then
    ({ slot with poisoned := insert transport slot.poisoned }, .panicked)
  else
    match choice.opError with
    | none => (slot, .done)
    | some error => (slot, .failed error)

def afterAttempt (retried : Bool) (transport : ℕ) (outcome : OpOutcome) :
    Phase :=
  if !retried && outcome.isConnectionFailure then .evicting transport
  else .returned

def stepOperating (thread : ℕ) (choice : Choice) (slot : SftpConnection)
    (retried : Bool) (transport : ℕ) : Outcome :=
  ((slot.runOpLocked choice transport).1,
    afterAttempt retried transport (slot.runOpLocked choice transport).2,
    [.attempted thread transport (slot.runOpLocked choice transport).2])

def stepRunControlOp (thread : ℕ) (choice : Choice) (slot : SftpConnection)
    (sessionId : String) : Outcome :=
  if choice.registered then (slot, .entering (.operation false), [])
  else (slot, .returned, [.refused thread (Sftp.missingSession sessionId)])

def stepCall (thread : ℕ) (choice : Choice) (slot : SftpConnection) :
    Call → Outcome
  | .connectEager => stepConnectEager slot
  | .get => (slot, .entering .outside, [])
  | .invalidateIfReady transport =>
      stepInvalidate thread slot transport .returned
  | .runControlOp sessionId => stepRunControlOp thread choice slot sessionId
  | .close => (slot.setState .closed, .notifying, [.closed thread])

def step (thread : ℕ) (choice : Choice) (slot : SftpConnection) :
    Phase → Option Outcome
  | .called call => some (stepCall thread choice slot call)
  | .connectingEager => some (stepConnectingEager thread choice slot)
  | .entering caller => some (stepEntering thread slot caller)
  | .waiting caller since => stepWaiting choice slot caller since
  | .connecting caller => some (stepConnecting thread choice slot caller)
  | .operating retried transport =>
      some (stepOperating thread choice slot retried transport)
  | .evicting transport =>
      some (stepInvalidate thread slot transport (.entering (.operation true)))
  | .notifying => some (slot.notifyAll, .returned, [])
  | .returned => none

def program : Program SftpConnection Phase Choice Event where
  admits
    | .called _ => true
    | _ => false
  opened thread
    | .called call => [.invoked thread call]
    | _ => []
  step := step

def initial : Config SftpConnection Phase :=
  ⟨.new, fun _ => none⟩

/-! Everything one step of a thread can do. -/

/-- The thread has set out to connect and has not delivered the result yet. -/
def Phase.flight? : Phase → Option Unit
  | .connectingEager | .connecting _ => some ()
  | _ => none

inductive Move (thread : ℕ) (slot : SftpConnection) :
    Phase → SftpConnection → Phase → List Event → Prop
  | launched {phase after : Phase} (isIdle : slot.state = .idle)
      (pair : (phase = .called .connectEager ∧ after = .connectingEager) ∨
        ∃ caller, phase = .entering caller ∧ after = .connecting caller) :
      Move thread slot phase (slot.setState .connecting) after []
  | skipped (busy : slot.state ≠ .idle) :
      Move thread slot (.called .connectEager) slot .returned []
  | asked : Move thread slot (.called .get) slot (.entering .outside) []
  | began {sessionId : String} :
      Move thread slot (.called (.runControlOp sessionId)) slot
        (.entering (.operation false)) []
  | unregistered {sessionId : String} :
      Move thread slot (.called (.runControlOp sessionId)) slot .returned
        [.refused thread (Sftp.missingSession sessionId)]
  | closed : Move thread slot (.called .close) (slot.setState .closed)
      .notifying [.closed thread]
  | found {caller : Caller} {transport : ℕ}
      (ready : slot.state = .ready transport) :
      Move thread slot (.entering caller) slot (granted caller transport)
        [.obtained thread transport]
  | slept {caller : Caller} (connecting : slot.state = .connecting) :
      Move thread slot (.entering caller) slot
        (.waiting caller slot.notified) []
  | delivered {caller : Caller} {message : String}
      (failed : slot.state = .failed message) :
      Move thread slot (.entering caller) (slot.setState .idle) .returned
        [.refused thread ⟨.sftpChannelError, message⟩]
  | turnedAway {caller : Caller} (isClosed : slot.state = .closed) :
      Move thread slot (.entering caller) slot .returned
        [.refused thread sessionClosed]
  | woken {caller : Caller} {since : ℕ} :
      Move thread slot (.waiting caller since) slot (.entering caller) []
  | late {phase : Phase} {events : List Event} (flying : phase.flight? = some ())
      (isClosed : slot.state = .closed)
      (quiet : events = [] ∨ ∃ error, events = [.refused thread error]) :
      Move thread slot phase slot.notifyAll .returned events
  | connectedEager (isOpen : slot.state ≠ .closed) :
      Move thread slot .connectingEager slot.install .returned
        [.connected thread slot.transports]
  | connected {caller : Caller} (isOpen : slot.state ≠ .closed) :
      Move thread slot (.connecting caller) slot.install
        (granted caller slot.transports)
        [.connected thread slot.transports, .obtained thread slot.transports]
  | failed {phase : Phase} {state : ConnectionState} {events : List Event}
      (flying : phase.flight? = some ()) (isOpen : slot.state ≠ .closed)
      (outcome : state = .idle ∨ ∃ message, state = .failed message)
      (quiet : events = [] ∨ ∃ error, events = [.refused thread error]) :
      Move thread slot phase (slot.setState state).notifyAll .returned events
  | evicted {phase after : Phase} {transport : ℕ}
      (ready : slot.state = .ready transport)
      (pair : (phase = .called (.invalidateIfReady transport) ∧
          after = .returned) ∨
        (phase = .evicting transport ∧ after = .entering (.operation true))) :
      Move thread slot phase (slot.setState .idle).notifyAll after
        [.evicted thread transport]
  | spared {phase after : Phase} {transport : ℕ}
      (other : slot.state ≠ .ready transport)
      (pair : (phase = .called (.invalidateIfReady transport) ∧
          after = .returned) ∨
        (phase = .evicting transport ∧ after = .entering (.operation true))) :
      Move thread slot phase slot.notifyAll after []
  | attempted {retried : Bool} {transport : ℕ} {poisoned : Finset ℕ}
      {outcome : OpOutcome} :
      Move thread slot (.operating retried transport)
        { slot with poisoned := poisoned }
        (afterAttempt retried transport outcome)
        [.attempted thread transport outcome]
  | notified : Move thread slot .notifying slot.notifyAll .returned []

variable {thread : ℕ} {choice : Choice} {slot next : SftpConnection}
variable {phase after : Phase} {events : List Event}

theorem Move.of_eq {outcome : Outcome}
    (same : outcome = (next, after, events))
    (move : Move thread slot phase outcome.1 outcome.2.1 outcome.2.2) :
    Move thread slot phase next after events := by
  subst same
  exact move

theorem stepInvalidate_move {transport : ℕ}
    (pair : (phase = .called (.invalidateIfReady transport) ∧
        after = .returned) ∨
      (phase = .evicting transport ∧ after = .entering (.operation true))) :
    Move thread slot phase (stepInvalidate thread slot transport after).1 after
      (stepInvalidate thread slot transport after).2.2 := by
  unfold stepInvalidate invalidateIfReady
  by_cases ready : slot.state = .ready transport
  · simp only [ready, if_true]
    exact .evicted ready pair
  · simp only [ready, if_false]
    exact .spared ready pair

theorem stepCall_move {call : Call} :
    Move thread slot (.called call) (stepCall thread choice slot call).1
      (stepCall thread choice slot call).2.1
      (stepCall thread choice slot call).2.2 := by
  cases call with
  | connectEager =>
      simp only [stepCall, stepConnectEager]
      split
      · next isIdle => exact .launched isIdle (.inl ⟨rfl, rfl⟩)
      · next busy => exact .skipped busy
  | get => exact .asked
  | invalidateIfReady transport => exact stepInvalidate_move (.inl ⟨rfl, rfl⟩)
  | runControlOp sessionId =>
      simp only [stepCall, stepRunControlOp]
      split
      · exact .began
      · exact .unregistered
  | close => exact .closed

theorem stepEntering_move {caller : Caller} :
    Move thread slot (.entering caller) (stepEntering thread slot caller).1
      (stepEntering thread slot caller).2.1
      (stepEntering thread slot caller).2.2 := by
  unfold stepEntering
  split
  · next ready => exact .found ready
  · next connecting => exact .slept connecting
  · next failed => exact .delivered failed
  · next isClosed => exact .turnedAway isClosed
  · next isIdle => exact .launched isIdle (.inr ⟨caller, rfl, rfl⟩)

theorem stepConnectingEager_move :
    Move thread slot .connectingEager
      (stepConnectingEager thread choice slot).1
      (stepConnectingEager thread choice slot).2.1
      (stepConnectingEager thread choice slot).2.2 := by
  unfold stepConnectingEager
  split
  · next isClosed => exact .late rfl isClosed (.inl rfl)
  · next isOpen =>
      split
      · exact .connectedEager isOpen
      · exact .failed rfl isOpen (.inr ⟨_, rfl⟩) (.inl rfl)

theorem stepConnecting_move {caller : Caller} :
    Move thread slot (.connecting caller)
      (stepConnecting thread choice slot caller).1
      (stepConnecting thread choice slot caller).2.1
      (stepConnecting thread choice slot caller).2.2 := by
  unfold stepConnecting
  split
  · next isClosed => exact .late rfl isClosed (.inr ⟨_, rfl⟩)
  · next isOpen =>
      split
      · exact .connected isOpen
      · exact .failed rfl isOpen (.inl rfl) (.inr ⟨_, rfl⟩)

theorem stepOperating_move {retried : Bool} {transport : ℕ} :
    Move thread slot (.operating retried transport)
      (stepOperating thread choice slot retried transport).1
      (stepOperating thread choice slot retried transport).2.1
      (stepOperating thread choice slot retried transport).2.2 := by
  have kept : (slot.runOpLocked choice transport).1 =
      { slot with
        poisoned := (slot.runOpLocked choice transport).1.poisoned } := by
    unfold runOpLocked
    split
    · rfl
    · split
      · rfl
      · split <;> rfl
  unfold stepOperating
  rw [kept]
  exact .attempted

theorem step_move
    (stepped : step thread choice slot phase = some (next, after, events)) :
    Move thread slot phase next after events := by
  cases phase with
  | called call => exact .of_eq (Option.some.inj stepped) stepCall_move
  | connectingEager =>
      exact .of_eq (Option.some.inj stepped) stepConnectingEager_move
  | entering caller =>
      exact .of_eq (Option.some.inj stepped) stepEntering_move
  | waiting caller since =>
      simp only [step, stepWaiting] at stepped
      split at stepped
      · exact .of_eq (Option.some.inj stepped) .woken
      · cases stepped
  | connecting caller =>
      exact .of_eq (Option.some.inj stepped) stepConnecting_move
  | operating retried transport =>
      exact .of_eq (Option.some.inj stepped) stepOperating_move
  | evicting transport =>
      exact .of_eq (Option.some.inj stepped)
        (stepInvalidate_move (.inr ⟨rfl, rfl⟩))
  | notifying => exact .of_eq (Option.some.inj stepped) .notified
  | returned => cases stepped

end SftpConnection

end TitanSSH
