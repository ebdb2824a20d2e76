import TitanSSH.Core.Terminal.ConnectDeadline
import TitanSSH.Core.Transport.Authentication

namespace TitanSSH

open Interleaving

/-- What the thread that connects tells the worker. -/
inductive ConnectNotice
  | reported (phase : ConnectionPhase)
  | ended (failure : Option AppError)
  deriving DecidableEq

def ConnectNotice.phase? : ConnectNotice → Option ConnectionPhase
  | .reported phase => some phase
  | .ended _ => none

/-- What the worker finds of it; nothing is checked. -/
def ConnectWait.tell (wait : ConnectWait) : ConnectNotice → ConnectWait.Outcome
  | .reported phase =>
      ({ wait with currentPhase := phase }, [.reported phase wait.clock])
  | .ended failure => ({ wait with thread := .sent failure }, [.sent failure])

def WaitEvent.notice? : WaitEvent → Option ConnectNotice
  | .reported phase _ => some (.reported phase)
  | .sent failure => some (.ended failure)
  | _ => none

namespace Connecting

/-! Terminals that are being connected, beside all other connections and calls.
Each has a worker that waits for the thread that connects. -/

variable {scheme : HostKeyScheme}

def notice? (thread : ℕ) : Transport.Event scheme → Option ConnectNotice
  | .reported other phase =>
      if other = thread then some (.reported phase) else none
  | .ended other connection failure =>
      if other = thread ∧ connection.capability = .terminal then
        some (.ended failure)
      else none
  | _ => none

def notices (thread : ℕ) (events : List (Transport.Event scheme)) :
    List ConnectNotice :=
  events.filterMap (notice? thread)

/-- Each thread with what it is still to tell its worker. -/
structure State (scheme : HostKeyScheme) where
  connections : Config (IdentityShared scheme) (Transport.Phase scheme)
  due : ℕ → List ConnectNotice
  waits : ℕ → Option ConnectWait

inductive Action (scheme : HostKeyScheme)
  | connection
      (action : ThreadAction (Transport.Phase scheme) Transport.Choice)
  | tell (thread : ℕ)
  | vanish (thread : ℕ)
  | work (thread : ℕ)
  | elapse (duration : ℕ)

inductive Event (scheme : HostKeyScheme)
  | connection (event : Transport.Event scheme)
  | wait (thread : ℕ) (event : WaitEvent)

abbrev Outcome (scheme : HostKeyScheme) := State scheme × List (Event scheme)

def initial (trustStore : Option TrustStore) : State scheme :=
  ⟨Transport.initial trustStore, fun _ => [], fun _ => none⟩

/-- A thread does nothing else before it has told its worker what is due, and
nothing at all after a panic. -/
def ready (state : State scheme) :
    ThreadAction (Transport.Phase scheme) Transport.Choice → Bool
  | .spawn _ _ => true
  | .advance thread _ =>
      (state.due thread).isEmpty &&
        (state.waits thread).all fun wait => decide (wait.thread ≠ .gone)

/-- A terminal has its worker from the start. -/
def waitsAfter (connectTimeout : ℕ) (state : State scheme) :
    ThreadAction (Transport.Phase scheme) Transport.Choice →
      ℕ → Option ConnectWait
  | .spawn thread (.connecting connection) =>
      if connection.capability = .terminal then
        Function.update state.waits thread
          (some (ConnectWait.start connectTimeout))
      else state.waits
  | _ => state.waits

def stepConnection (connectTimeout : ℕ) (state : State scheme)
    (action : ThreadAction (Transport.Phase scheme) Transport.Choice) :
    Option (Outcome scheme) :=
  if ready state action then
    match (Transport.connections scheme).machine.step state.connections
        action with
    | none => none
    | some (connections, events) =>
        some ({
          connections := connections
          due := fun thread => state.due thread ++ notices thread events
          waits := waitsAfter connectTimeout state action },
          events.map .connection)
  else none

def stepTell (state : State scheme) (thread : ℕ) : Option (Outcome scheme) :=
  match state.waits thread, state.due thread with
  | some wait, notice :: rest =>
      some ({ state with
        due := Function.update state.due thread rest
        waits := Function.update state.waits thread
          (some (wait.tell notice).1) },
        (wait.tell notice).2.map (.wait thread))
  | _, _ => none

def stepVanish (state : State scheme) (thread : ℕ) : Option (Outcome scheme) :=
  match state.waits thread with
  | none => none
  | some wait =>
      if wait.thread = .running then
        some ({ state with
          due := Function.update state.due thread []
          waits := Function.update state.waits thread
            (some { wait with thread := .gone }) }, [])
      else none

def stepWork (state : State scheme) (thread : ℕ) : Option (Outcome scheme) :=
  match state.waits thread with
  | none => none
  | some wait =>
      match wait.stepWork with
      | none => none
      | some (next, events) =>
          some ({ state with
            waits := Function.update state.waits thread (some next) },
            events.map (.wait thread))

/-- Time passes for all workers. -/
def elapse (state : State scheme) (duration : ℕ) : State scheme :=
  { state with
    waits := fun thread => (state.waits thread).map fun wait =>
      { wait with clock := wait.clock + duration } }

def step (connectTimeout : ℕ) (state : State scheme) :
    Action scheme → Option (Outcome scheme)
  | .connection action => stepConnection connectTimeout state action
  | .tell thread => stepTell state thread
  | .vanish thread => stepVanish state thread
  | .work thread => stepWork state thread
  | .elapse duration => some (elapse state duration, [])

def machine (scheme : HostKeyScheme) (connectTimeout : ℕ) :
    Machine (State scheme) (Action scheme) (Event scheme) where
  step := step connectTimeout

/-! What a log says of one worker. -/

def waitLog (thread : ℕ) (log : List (Event scheme)) : List WaitEvent :=
  log.filterMap fun
    | .wait other event => if other = thread then some event else none
    | _ => none

/-- What the worker has been told, in order. -/
def told (log : List WaitEvent) : List ConnectNotice :=
  log.filterMap WaitEvent.notice?

/-- The phases that a terminal has to go through. -/
def connectPhases : List ConnectionPhase :=
  [.connectingTcp, .sshHandshake, .verifyingHostKey, .authenticating,
    .openingChannel, .requestingPty, .startingShell]

/-- The phases that a connection has yet to report. -/
def upcoming : Transport.Phase scheme → List ConnectionPhase
  | .connecting _ => connectPhases
  | .handshake _ => connectPhases.drop 1
  | .presenting _ _ => connectPhases.drop 2
  | .verifying _ _ _ => connectPhases.drop 3
  | .authenticating _ _ => connectPhases.drop 3
  | .setup _ remaining => remaining.filterMap Transport.SetupStage.phase?
  | _ => []

def ending : Transport.Phase scheme → List ConnectNotice
  | .connected _ => [.ended none]
  | .failed _ error => [.ended (some error)]
  | _ => []

def connection? : Transport.Phase scheme → Option Transport.Connection
  | .connecting connection => some connection
  | .handshake connection => some connection
  | .presenting connection _ => some connection
  | .verifying connection _ _ => some connection
  | .authenticating connection _ => some connection
  | .setup connection _ => some connection
  | .connected connection => some connection
  | .failed connection _ => some connection
  | .calling _ => none

/-- What the thread of a connection tells: only a terminal has somebody to tell. -/
def spoken (thread : ℕ) (connection : Transport.Connection)
    (said : List ConnectNotice) (other : ℕ) : List ConnectNotice :=
  if other = thread ∧ connection.capability = .terminal then said else []

section Notices

variable {thread other : ℕ} {connection : Transport.Connection}
variable {first second : List (Transport.Event scheme)}

@[simp] theorem spoken_append (before after : List ConnectNotice) :
    spoken thread connection before other ++
        spoken thread connection after other =
      spoken thread connection (before ++ after) other := by
  unfold spoken
  split <;> rfl

@[simp] theorem spoken_nil : spoken thread connection [] other = [] :=
  ite_self _

theorem spoken_own (terminal : connection.capability = .terminal)
    (said : List ConnectNotice) :
    spoken thread connection said thread = said :=
  if_pos ⟨rfl, terminal⟩

theorem spoken_other (different : other ≠ thread) (said : List ConnectNotice) :
    spoken thread connection said other = [] :=
  if_neg fun both => different both.1

@[simp] theorem notices_append :
    notices other (first ++ second) =
      notices other first ++ notices other second :=
  List.filterMap_append

@[simp] theorem notices_report (phase : ConnectionPhase) :
    notices other (Transport.report thread connection phase :
      List (Transport.Event scheme)) =
      spoken thread connection [.reported phase] other := by
  by_cases terminal : connection.capability = .terminal
  · by_cases same : thread = other
    · simp [Transport.report, spoken, notices, notice?, terminal, same]
    · simp [Transport.report, spoken, notices, notice?, terminal, same,
        Ne.symm same]
  · simp [Transport.report, spoken, notices, terminal]

@[simp] theorem notices_ended (failure : Option AppError) :
    notices other ([.ended thread connection failure] :
      List (Transport.Event scheme)) =
      spoken thread connection [.ended failure] other := by
  by_cases terminal : connection.capability = .terminal
  · by_cases same : thread = other
    · simp [notices, notice?, spoken, terminal, same]
    · simp [notices, notice?, spoken, same, Ne.symm same]
  · simp [notices, notice?, spoken, terminal]

@[simp] theorem notices_handshaken (key : Option (List UInt8)) :
    notices other ([.handshaken thread connection key] :
      List (Transport.Event scheme)) = [] :=
  rfl

@[simp] theorem notices_offered (credential : Transport.Credential) :
    notices other ([.offered thread connection credential] :
      List (Transport.Event scheme)) = [] :=
  rfl

@[simp] theorem notices_identity (events : List (HostIdentity.Event scheme)) :
    notices other (events.map .identity) = [] := by
  simp [notices, notice?, List.filterMap_map, Function.comp_def]

end Notices

/-- What a step of a connection has to tell: the phases that it goes through, in
order, and how it has ended. -/
def Tells (thread : ℕ) (connection : Transport.Connection)
    (phase after : Transport.Phase scheme)
    (events : List (Transport.Event scheme)) : Prop :=
  ∃ reports rest,
    (∀ other, notices other events = spoken thread connection
      (reports.map .reported ++ ending after) other) ∧
    (connection.capability = .terminal →
      reports ++ rest = upcoming phase ∧
        (rest = upcoming after ∨ ∃ error, after = .failed connection error))

section Steps

variable {thread : ℕ} {choice : Transport.Choice}
variable {shared next : IdentityShared scheme}
variable {phase after : Transport.Phase scheme}
variable {events : List (Transport.Event scheme)}
variable {connection : Transport.Connection}

theorem tells_fail {error : AppError} {said : List (Transport.Event scheme)}
    {reports rest : List ConnectionPhase}
    (failing : Transport.fail thread shared connection error said =
      (next, after, events))
    (reported : ∀ other, notices other said =
      spoken thread connection (reports.map .reported) other)
    (ahead : reports ++ rest = upcoming phase) :
    connection? after = some connection ∧
      Tells thread connection phase after events := by
  simp only [Transport.fail, Prod.mk.injEq] at failing
  obtain ⟨rfl, rfl, rfl⟩ := failing
  refine ⟨rfl, reports, rest, fun other => ?_, fun _ => ⟨ahead, .inr ⟨_, rfl⟩⟩⟩
  rw [notices_append, reported, notices_ended, spoken_append]
  rfl

theorem tells_connecting
    (stepped : Transport.stepConnecting thread choice shared connection =
      (next, after, events)) :
    connection? after = some connection ∧
      Tells thread connection (.connecting connection) after events := by
  have failed : ∀ {error},
      Transport.fail thread shared connection error
        (Transport.report thread connection .connectingTcp) =
          (next, after, events) →
      connection? after = some connection ∧
        Tells thread connection (.connecting connection) after events := by
    intro error failing
    exact @tells_fail _ _ _ _ _ _ _ _ _ _ [.connectingTcp] _ failing
      (by simp) rfl
  unfold Transport.stepConnecting at stepped
  cases resolved : Transport.resolveSocketAddrs connection.host
      choice.resolved with
  | error error =>
      simp only [resolved] at stepped
      exact failed stepped
  | ok addrs =>
      cases dialed : Transport.connectTcpStream choice.connect addrs with
      | error error =>
          simp only [resolved, dialed] at stepped
          exact failed stepped
      | ok addr =>
          cases failure : choice.socketFailure with
          | some message =>
              simp only [resolved, dialed, failure] at stepped
              exact failed stepped
          | none =>
              simp only [resolved, dialed, failure, Prod.mk.injEq] at stepped
              obtain ⟨rfl, rfl, rfl⟩ := stepped
              exact ⟨rfl, [.connectingTcp], _, by simp [ending],
                fun _ => ⟨rfl, .inl rfl⟩⟩

theorem tells_handshake
    (stepped : Transport.stepHandshake thread choice shared connection =
      (next, after, events)) :
    connection? after = some connection ∧
      Tells thread connection (.handshake connection) after events := by
  unfold Transport.stepHandshake at stepped
  cases failure : choice.sessionFailure with
  | some message =>
      simp only [failure] at stepped
      exact @tells_fail _ _ _ _ _ _ _ _ _ _ [.sshHandshake] _ stepped
        (by simp) rfl
  | none =>
      simp only [failure, Prod.mk.injEq] at stepped
      obtain ⟨rfl, rfl, rfl⟩ := stepped
      exact ⟨rfl, [.sshHandshake], _, by simp [ending],
        fun _ => ⟨rfl, .inl rfl⟩⟩

theorem tells_presenting {key : Option (List UInt8)}
    (stepped : Transport.stepPresenting thread shared connection key =
      (next, after, events)) :
    connection? after = some connection ∧
      Tells thread connection (.presenting connection key) after events := by
  unfold Transport.stepPresenting at stepped
  cases key with
  | none =>
      exact @tells_fail _ _ _ _ _ _ _ _ _ _ [.verifyingHostKey] _ stepped
        (by simp) rfl
  | some blob =>
      simp only [Prod.mk.injEq] at stepped
      obtain ⟨rfl, rfl, rfl⟩ := stepped
      refine ⟨rfl, [.verifyingHostKey], _, fun other => ?_,
        fun _ => ⟨rfl, .inl rfl⟩⟩
      have silent := @notices_identity scheme other
        [.started thread (connection.request scheme blob)]
      rw [List.map_singleton] at silent
      simp [ending, silent]

theorem tells_verifying {blob : List UInt8} {call : HostIdentity.Phase scheme}
    (stepped : Transport.stepVerifying thread choice shared connection blob
      call = some (next, after, events)) :
    connection? after = some connection ∧
      Tells thread connection (.verifying connection blob call) after
        events := by
  unfold Transport.stepVerifying at stepped
  split at stepped
  · simp only [Option.some.injEq, Prod.mk.injEq] at stepped
    obtain ⟨rfl, rfl, rfl⟩ := stepped
    exact ⟨rfl, [], _, fun other => spoken_nil.symm, fun _ => ⟨rfl, .inl rfl⟩⟩
  · exact @tells_fail _ _ _ _ _ _ _ _ _ _ [] _ (Option.some.inj stepped)
      (fun other => spoken_nil.symm) rfl
  · cases moved : HostIdentity.step thread choice.identity shared call with
    | none => simp [moved] at stepped
    | some outcome =>
        obtain ⟨state, call, logged⟩ := outcome
        simp only [moved, Option.some.injEq, Prod.mk.injEq] at stepped
        obtain ⟨rfl, rfl, rfl⟩ := stepped
        exact ⟨rfl, [], _, by simp [ending], fun _ => ⟨rfl, .inl rfl⟩⟩

theorem tells_authenticating {blob : List UInt8}
    (stepped : Transport.stepAuthenticating thread choice shared connection =
      (next, after, events)) :
    connection? after = some connection ∧
      Tells thread connection (.authenticating connection blob) after
        events := by
  unfold Transport.stepAuthenticating at stepped
  cases known : connection.credential with
  | error error =>
      simp only [known] at stepped
      exact @tells_fail _ _ _ _ _ _ _ _ _ _ [.authenticating] _ stepped
        (by simp) rfl
  | ok credential =>
      cases failure : choice.authFailure with
      | some message =>
          simp only [known, failure] at stepped
          exact @tells_fail _ _ _ _ _ _ _ _ _ _ [.authenticating] _ stepped
            (by simp) rfl
      | none =>
          cases accepted : choice.authenticated with
          | false =>
              simp only [known, failure, accepted, Bool.false_eq_true,
                if_false] at stepped
              exact @tells_fail _ _ _ _ _ _ _ _ _ _ [.authenticating] _
                stepped (by simp) rfl
          | true =>
              simp only [known, failure, accepted, if_true,
                Prod.mk.injEq] at stepped
              obtain ⟨rfl, rfl, rfl⟩ := stepped
              refine ⟨rfl, [.authenticating], _, by simp [ending],
                fun terminal => ⟨rfl, .inl ?_⟩⟩
              rw [terminal]
              rfl

theorem tells_setup {remaining : List Transport.SetupStage}
    (stepped : Transport.stepSetup thread choice shared connection remaining =
      (next, after, events)) :
    connection? after = some connection ∧
      Tells thread connection (.setup connection remaining) after events := by
  unfold Transport.stepSetup at stepped
  cases remaining with
  | nil =>
      simp only [Prod.mk.injEq] at stepped
      obtain ⟨rfl, rfl, rfl⟩ := stepped
      exact ⟨rfl, [], _, by simp [ending], fun _ => ⟨rfl, .inl rfl⟩⟩
  | cons stage rest =>
      have reported : ∀ other, notices other (stage.phase?.elim []
          (Transport.report thread connection) :
            List (Transport.Event scheme)) =
          spoken thread connection (stage.phase?.toList.map .reported)
            other := by
        intro other
        cases stage.phase? with
        | none => exact spoken_nil.symm
        | some phase => exact notices_report phase
      have ahead : stage.phase?.toList ++
          rest.filterMap Transport.SetupStage.phase? =
          (stage :: rest).filterMap Transport.SetupStage.phase? := by
        cases stage <;> rfl
      cases failure : choice.setupFailure with
      | some message =>
          simp only [failure] at stepped
          exact tells_fail stepped reported ahead
      | none =>
          simp only [failure, Prod.mk.injEq] at stepped
          obtain ⟨rfl, rfl, rfl⟩ := stepped
          refine ⟨rfl, _, _, fun other => ?_, fun _ => ⟨ahead, .inl rfl⟩⟩
          rw [reported]
          simp [ending]

theorem silent_of_calling {call : HostIdentity.Phase scheme}
    (stepped : Transport.stepCalling thread choice shared call =
      some (next, after, events)) :
    connection? after = none ∧ ∀ other, notices other events = [] := by
  unfold Transport.stepCalling at stepped
  cases moved : HostIdentity.step thread choice.identity shared call with
  | none => simp [moved] at stepped
  | some outcome =>
      obtain ⟨state, call, logged⟩ := outcome
      simp only [moved, Option.some.injEq, Prod.mk.injEq] at stepped
      obtain ⟨rfl, rfl, rfl⟩ := stepped
      exact ⟨rfl, fun other => notices_identity logged⟩

theorem tells_of_step (own : connection? phase = some connection)
    (stepped : Transport.step thread choice shared phase =
      some (next, after, events)) :
    connection? after = some connection ∧
      Tells thread connection phase after events := by
  cases phase with
  | connecting connection =>
      obtain rfl := Option.some.inj own
      exact tells_connecting (Option.some.inj stepped)
  | handshake connection =>
      obtain rfl := Option.some.inj own
      exact tells_handshake (Option.some.inj stepped)
  | presenting connection key =>
      obtain rfl := Option.some.inj own
      exact tells_presenting (Option.some.inj stepped)
  | verifying connection blob call =>
      obtain rfl := Option.some.inj own
      exact tells_verifying stepped
  | authenticating connection blob =>
      obtain rfl := Option.some.inj own
      exact tells_authenticating (Option.some.inj stepped)
  | setup connection remaining =>
      obtain rfl := Option.some.inj own
      exact tells_setup (Option.some.inj stepped)
  | connected connection => cases stepped
  | failed connection error => cases stepped
  | calling call => cases own

end Steps

/-- What has been told, or is to be told, of a connection. -/
def Story (phase : Transport.Phase scheme) (said : List ConnectNotice) : Prop :=
  ∃ reports rest, reports ++ rest = connectPhases ∧
    said = reports.map .reported ++ ending phase ∧
    (rest = upcoming phase ∨ ∃ connection error,
      phase = .failed connection error)

section Stories

variable {thread : ℕ} {connection : Transport.Connection}
variable {phase after : Transport.Phase scheme}
variable {events : List (Transport.Event scheme)}
variable {said rest : List ConnectNotice} {notice : ConnectNotice}

theorem ending_of_step {choice : Transport.Choice}
    {shared next : IdentityShared scheme}
    (stepped : Transport.step thread choice shared phase =
      some (next, after, events)) : ending phase = [] := by
  cases phase <;> first | rfl | cases stepped

theorem Story.step (story : Story phase said) (ongoing : ending phase = [])
    (tells : Tells thread connection phase after events)
    (terminal : connection.capability = .terminal) :
    Story after (said ++ notices thread events) := by
  obtain ⟨earlier, left, whole, rfl, onward⟩ := story
  obtain ⟨reports, further, tell, course⟩ := tells
  obtain ⟨ahead, onto⟩ := course terminal
  have upon : left = upcoming phase := by
    refine onward.resolve_right ?_
    rintro ⟨connection, error, rfl⟩
    cases ongoing
  refine ⟨earlier ++ reports, further, ?_, ?_, ?_⟩
  · rw [List.append_assoc, ahead, ← upon, whole]
  · rw [tell, spoken_own terminal, ongoing, List.append_nil, List.map_append,
      List.append_assoc]
  · exact onto.imp_right fun ⟨error, failed⟩ => ⟨connection, error, failed⟩

/-- The next thing to tell is the next phase, or the end. -/
theorem Story.next (story : Story phase (said ++ notice :: rest)) :
    ∃ reports, said = reports.map .reported ∧
      match notice with
      | .reported next => reports ++ [next] <+: connectPhases
      | .ended _ => True := by
  obtain ⟨reports, left, whole, same, -⟩ := story
  have ends : ∀ next, .reported next ∉ ending phase := by
    intro next member
    cases phase <;> simp [ending] at member
  have single : ∀ first second, ending phase = first ++ notice :: second →
      first = [] := by
    intro first second split
    cases phase <;> simp [ending, List.cons_eq_append_iff] at split
    all_goals exact split.1
  rcases List.append_eq_append_iff.mp same with
    ⟨middle, reported, tail⟩ | ⟨middle, rfl, tail⟩
  · obtain ⟨before, after, rfl, rfl, later⟩ := List.map_eq_append_iff.mp reported
    refine ⟨before, rfl, ?_⟩
    cases notice with
    | ended failure => trivial
    | reported next =>
        cases middle with
        | nil =>
            have member : .reported next ∈ ending phase := by
              rw [← show .reported next :: rest = ending phase from tail]
              exact List.mem_cons_self
            exact (ends next member).elim
        | cons head others =>
            obtain ⟨rfl, -⟩ := List.cons.inj tail
            obtain ⟨own, onward, rfl, same, -⟩ :=
              List.map_eq_cons_iff.mp later
            obtain rfl := ConnectNotice.reported.inj same
            exact ⟨onward ++ left, by rw [← whole]; simp⟩
  · obtain rfl := single middle rest tail
    refine ⟨reports, List.append_nil _, ?_⟩
    cases notice with
    | ended failure => trivial
    | reported next =>
        have member : .reported next ∈ ending phase := by
          rw [tail]
          exact List.mem_cons_self
        exact (ends next member).elim

theorem Story.told (story : Story phase (said ++ rest)) :
    ∃ reports, reports <+: connectPhases ∧
      (said = reports.map .reported ∨
        said = reports.map .reported ++ ending phase ∧
          ∀ connection, phase = .connected connection →
            reports = connectPhases) := by
  obtain ⟨reports, left, whole, same, onward⟩ := story
  have ahead : reports <+: connectPhases := ⟨left, whole⟩
  rcases List.append_eq_append_iff.mp same with
    ⟨middle, reported, -⟩ | ⟨middle, rfl, split⟩
  · obtain ⟨before, after, rfl, rfl, -⟩ := List.map_eq_append_iff.mp reported
    exact ⟨before, (List.prefix_append _ _).trans ahead, .inl rfl⟩
  · have either : middle = [] ∨ middle = ending phase := by
      cases phase <;>
        simp only [ending, List.nil_eq_append_iff,
          List.singleton_eq_append_iff] at split ⊢
      all_goals first | exact .inl split.1 | exact split.imp And.left And.left
    refine ⟨reports, ahead, ?_⟩
    rcases either with rfl | rfl
    · exact .inl (List.append_nil _)
    · refine .inr ⟨rfl, ?_⟩
      rintro connection rfl
      rcases onward with rfl | ⟨_, _, failed⟩
      · exact (List.append_nil _).symm.trans whole
      · cases failed

end Stories

/-- The phase that the worker finds: the last one that it was told of. -/
def lastTold (said : List ConnectNotice) : ConnectionPhase :=
  (said.filterMap ConnectNotice.phase?).getLast?.getD .connectingTcp

/-- What links a worker to its connection. -/
structure Attended (connectTimeout : ℕ) (phase : Transport.Phase scheme)
    (due : List ConnectNotice) (log : List WaitEvent) (wait : ConnectWait) :
    Prop where
  runs : ∃ actions,
    ConnectWait.machine.Run (ConnectWait.start connectTimeout) actions log wait
  story : ∃ unsaid, Story phase (told log ++ due ++ unsaid) ∧
    (wait.thread ≠ .gone → unsaid = [])
  abandoned : wait.thread = .gone → due = []
  current : wait.currentPhase = lastTold (told log)
  ended : ∀ failure, .ended failure ∈ told log → wait.thread = .sent failure
  unended : (∀ failure, .ended failure ∉ told log) →
    wait.thread = .running ∨ wait.thread = .gone

section Attending

variable {thread connectTimeout : ℕ} {connection : Transport.Connection}
variable {phase after : Transport.Phase scheme}
variable {due rest : List ConnectNotice} {notice : ConnectNotice}
variable {log events : List WaitEvent} {wait next : ConnectWait}

theorem told_append (log events : List WaitEvent) :
    told (log ++ events) = told log ++ told events :=
  List.filterMap_append

theorem lastTold_reported (reports : List ConnectionPhase) :
    lastTold (reports.map .reported) =
      reports.getLast?.getD .connectingTcp := by
  simp [lastTold, List.filterMap_map, Function.comp_def, ConnectNotice.phase?]

theorem rank_onward {reports : List ConnectionPhase} {upon : ConnectionPhase}
    (ahead : reports ++ [upon] <+: connectPhases) :
    (reports.getLast?.getD .connectingTcp).rank ≤ upon.rank := by
  have ordered : (reports ++ [upon]).Pairwise
      fun first second => first.rank ≤ second.rank :=
    List.Pairwise.sublist ahead.sublist (by decide)
  cases last : reports.getLast? with
  | none =>
      have least : ∀ phase ∈ connectPhases,
          ConnectionPhase.connectingTcp.rank ≤ phase.rank := by decide
      exact least upon (ahead.subset (by simp))
  | some phase =>
      exact (List.pairwise_append.mp ordered).2.2 phase
        (List.mem_of_getLast? last) upon (List.mem_singleton_self _)

theorem attended_start :
    Attended connectTimeout (.connecting connection : Transport.Phase scheme)
      [] [] (ConnectWait.start connectTimeout) where
  runs := ⟨[], .refl⟩
  story := ⟨[], ⟨[], connectPhases, rfl, rfl, .inl rfl⟩, fun _ => rfl⟩
  abandoned _ := rfl
  current := rfl
  ended failure member := by cases member
  unended _ := .inl rfl

theorem Attended.advance {events : List (Transport.Event scheme)}
    (attended : Attended connectTimeout phase [] log wait)
    (present : wait.thread ≠ .gone) (ongoing : ending phase = [])
    (tells : Tells thread connection phase after events)
    (terminal : connection.capability = .terminal) :
    Attended connectTimeout after (notices thread events) log wait := by
  obtain ⟨unsaid, story, said⟩ := attended.story
  obtain rfl := said present
  rw [List.append_nil, List.append_nil] at story
  refine ⟨attended.runs, ⟨[], ?_, fun _ => rfl⟩, fun gone => ?_,
    attended.current, attended.ended, attended.unended⟩
  · rw [List.append_nil]
    exact story.step ongoing tells terminal
  · exact absurd gone present

theorem Attended.running
    (attended : Attended connectTimeout phase (notice :: rest) log wait) :
    wait.thread = .running ∧
      ∃ reports, told log = reports.map .reported ∧
        match notice with
        | .reported next => reports ++ [next] <+: connectPhases
        | .ended _ => True := by
  obtain ⟨unsaid, story, -⟩ := attended.story
  rw [List.append_assoc] at story
  obtain ⟨reports, said, onward⟩ := story.next
  refine ⟨?_, reports, said, onward⟩
  refine (attended.unended fun failure => ?_).resolve_right fun gone => ?_
  · simp [said]
  · exact List.cons_ne_nil _ _ (attended.abandoned gone)

/-- What the thread tells is a step of the wait. -/
theorem Attended.tell
    (attended : Attended connectTimeout phase (notice :: rest) log wait) :
    Attended connectTimeout phase rest (log ++ (wait.tell notice).2)
      (wait.tell notice).1 := by
  obtain ⟨running, reports, said, onward⟩ := attended.running
  obtain ⟨actions, run⟩ := attended.runs
  obtain ⟨unsaid, story, whole⟩ := attended.story
  have present : wait.thread ≠ .gone := by simp [running]
  obtain rfl := whole present
  have moved : told (log ++ (wait.tell notice).2) = told log ++ [notice] := by
    cases notice <;> exact told_append _ _
  have story : Story phase
      (told (log ++ (wait.tell notice).2) ++ rest ++ []) := by
    rw [moved]
    simpa using story
  cases notice with
  | reported upon =>
      have onward : wait.currentPhase.rank ≤ upon.rank := by
        rw [attended.current, said, lastTold_reported]
        exact rank_onward onward
      have stepped : ConnectWait.machine.step wait (.report upon) =
          some (wait.tell (.reported upon)) :=
        if_pos ⟨running, onward⟩
      refine ⟨⟨_, run.snoc stepped⟩, ⟨[], story, fun _ => rfl⟩, ?_, ?_, ?_, ?_⟩
      · exact fun gone => absurd gone present
      · rw [moved, said]
        simp [lastTold, List.filterMap_map, ConnectNotice.phase?,
          ConnectWait.tell]
      · intro failure member
        simp [moved, said] at member
      · exact fun _ => .inl running
  | ended failure =>
      have stepped : ConnectWait.machine.step wait (.send failure) =
          some (wait.tell (.ended failure)) :=
        if_pos running
      refine ⟨⟨_, run.snoc stepped⟩, ⟨[], story, fun _ => rfl⟩, ?_, ?_, ?_, ?_⟩
      · exact fun gone => by cases gone
      · rw [moved]
        exact attended.current.trans (by
          simp [lastTold, ConnectNotice.phase?])
      · intro other member
        rw [moved, said] at member
        simp only [List.mem_append, List.mem_map, reduceCtorEq, and_false,
          exists_false, List.mem_singleton, false_or] at member
        rw [ConnectNotice.ended.inj member]
        rfl
      · intro untold
        refine absurd ?_ (untold failure)
        rw [moved]
        exact List.mem_append_right _ (List.mem_singleton_self _)

theorem Attended.aside {action : WaitAction}
    (attended : Attended connectTimeout phase due log wait)
    (stepped : ConnectWait.machine.step wait action = some (next, events))
    (samePhase : next.currentPhase = wait.currentPhase)
    (sameThread : next.thread = wait.thread) (untold : told events = []) :
    Attended connectTimeout phase due (log ++ events) next := by
  obtain ⟨actions, run⟩ := attended.runs
  have same : told (log ++ events) = told log := by
    rw [told_append, untold, List.append_nil]
  refine ⟨⟨_, run.snoc stepped⟩, ?_, ?_, ?_, ?_, ?_⟩
  · rw [same, sameThread]
    exact attended.story
  · rw [sameThread]
    exact attended.abandoned
  · rw [same, samePhase]
    exact attended.current
  · rw [same, sameThread]
    exact attended.ended
  · rw [same, sameThread]
    exact attended.unended

theorem Attended.vanish
    (attended : Attended connectTimeout phase due log wait)
    (running : wait.thread = .running) :
    Attended connectTimeout phase [] log { wait with thread := .gone } := by
  obtain ⟨actions, run⟩ := attended.runs
  obtain ⟨unsaid, story, -⟩ := attended.story
  have stepped : ConnectWait.machine.step wait .vanish =
      some ({ wait with thread := .gone }, []) :=
    if_pos running
  have run := run.snoc stepped
  rw [List.append_nil] at run
  refine ⟨⟨_, run⟩, ⟨due ++ unsaid, ?_, ?_⟩, fun _ => rfl, attended.current, ?_,
    fun _ => .inr rfl⟩
  · rw [List.append_nil, ← List.append_assoc]
    exact story
  · exact fun present => absurd rfl present
  · intro failure member
    have sent := attended.ended failure member
    rw [running] at sent
    cases sent

theorem stepWork_untold (stepped : wait.stepWork = some (next, events)) :
    next.currentPhase = wait.currentPhase ∧ next.thread = wait.thread ∧
      told events = [] := by
  unfold ConnectWait.stepWork at stepped
  split at stepped
  · obtain ⟨rfl, rfl⟩ := Prod.mk.inj (Option.some.inj stepped)
    exact ⟨rfl, rfl, rfl⟩
  · obtain ⟨rfl, rfl⟩ := Prod.mk.inj (Option.some.inj stepped)
    exact ⟨rfl, rfl, rfl⟩
  · unfold ConnectWait.stepReceive at stepped
    split at stepped
    · obtain ⟨rfl, rfl⟩ := Prod.mk.inj (Option.some.inj stepped)
      exact ⟨rfl, rfl, rfl⟩
    · obtain ⟨rfl, rfl⟩ := Prod.mk.inj (Option.some.inj stepped)
      exact ⟨rfl, rfl, rfl⟩
    · obtain ⟨rfl, rfl⟩ := Prod.mk.inj (Option.some.inj stepped)
      exact ⟨rfl, rfl, rfl⟩
    · split at stepped
      · obtain ⟨rfl, rfl⟩ := Prod.mk.inj (Option.some.inj stepped)
        exact ⟨rfl, rfl, rfl⟩
      · cases stepped
  · obtain ⟨rfl, rfl⟩ := Prod.mk.inj (Option.some.inj stepped)
    unfold ConnectWait.judge
    split <;> exact ⟨rfl, rfl, rfl⟩
  · unfold ConnectWait.stepDecide at stepped
    split at stepped
    · obtain ⟨rfl, rfl⟩ := Prod.mk.inj (Option.some.inj stepped)
      exact ⟨rfl, rfl, rfl⟩
    · obtain ⟨rfl, rfl⟩ := Prod.mk.inj (Option.some.inj stepped)
      exact ⟨rfl, rfl, rfl⟩
  · obtain ⟨rfl, rfl⟩ := Prod.mk.inj (Option.some.inj stepped)
    exact ⟨rfl, rfl, rfl⟩
  · cases stepped
  · cases stepped

end Attending

/-- Every terminal is attended by its worker, and nothing else is. -/
structure Linked (connectTimeout : ℕ) (log : List (Event scheme))
    (state : State scheme) : Prop where
  unborn : ∀ thread, state.connections.threads thread = none →
    state.waits thread = none
  unattended : ∀ thread, state.waits thread = none →
    state.due thread = [] ∧ waitLog thread log = [] ∧
    ∀ phase connection, state.connections.threads thread = some phase →
      connection? phase = some connection → connection.capability ≠ .terminal
  attended : ∀ thread wait, state.waits thread = some wait →
    ∃ phase connection, state.connections.threads thread = some phase ∧
      connection? phase = some connection ∧
      connection.capability = .terminal ∧
      Attended connectTimeout phase (state.due thread) (waitLog thread log) wait

section Linking

variable {connectTimeout thread : ℕ} {trustStore : Option TrustStore}
variable {log events : List (Event scheme)} {state next : State scheme}
variable {action : Action scheme} {wait : ConnectWait}

theorem waitLog_append (thread : ℕ) (log events : List (Event scheme)) :
    waitLog thread (log ++ events) =
      waitLog thread log ++ waitLog thread events :=
  List.filterMap_append

@[simp] theorem waitLog_connection (thread : ℕ)
    (events : List (Transport.Event scheme)) :
    waitLog thread (events.map .connection) = [] := by
  simp [waitLog]

@[simp] theorem waitLog_own (thread : ℕ) (events : List WaitEvent) :
    waitLog thread (events.map (.wait thread) : List (Event scheme)) =
      events := by
  simp [waitLog, List.filterMap_map]

theorem waitLog_other {other : ℕ} (different : other ≠ thread)
    (events : List WaitEvent) :
    waitLog other (events.map (.wait thread) : List (Event scheme)) = [] := by
  simp [waitLog, different.symm]

theorem linked_initial :
    Linked connectTimeout [] (initial trustStore : State scheme) where
  unborn _ _ := rfl
  unattended thread _ := ⟨rfl, rfl, fun _ _ running => by cases running⟩
  attended thread wait waiting := by cases waiting

theorem Linked.unwatched {shared : IdentityShared scheme}
    {after : Transport.Phase scheme}
    {events : List (Transport.Event scheme)}
    (linked : Linked connectTimeout log state)
    (alone : state.waits thread = none)
    (other : ∀ connection, connection? after = some connection →
      connection.capability ≠ .terminal)
    (silent : ∀ thread, notices thread events = []) :
    Linked connectTimeout (log ++ events.map .connection) {
      connections := ⟨shared,
        Function.update state.connections.threads thread (some after)⟩
      due := fun thread => state.due thread ++ notices thread events
      waits := state.waits } := by
  simp only [silent, List.append_nil]
  constructor
  · intro second absent
    rcases eq_or_ne second thread with rfl | different
    · exact alone
    · simp only [Function.update_of_ne different] at absent
      exact linked.unborn second absent
  · intro second idle
    obtain ⟨due, past, unattended⟩ := linked.unattended second idle
    refine ⟨due, ?_, fun phase connection running own => ?_⟩
    · rw [waitLog_append, waitLog_connection, past]
      rfl
    · rcases of_update_eq_some running with ⟨rfl, same⟩ | ⟨-, before⟩
      · obtain rfl := Option.some.inj same
        exact other connection own
      · exact unattended phase connection before own
  · intro second wait waiting
    have different : second ≠ thread := by
      rintro rfl
      rw [alone] at waiting
      cases waiting
    rw [waitLog_append, waitLog_connection, List.append_nil]
    simp only [Function.update_of_ne different]
    exact linked.attended second wait waiting

theorem Linked.attend {after : Transport.Phase scheme}
    {shared : IdentityShared scheme} {connection : Transport.Connection}
    {due : ℕ → List ConnectNotice} {current : ConnectWait}
    (linked : Linked connectTimeout log state)
    (own : connection? after = some connection)
    (terminal : connection.capability = .terminal)
    (others : ∀ other, other ≠ thread → due other = state.due other ∧
      waitLog other events = [])
    (attended : Attended connectTimeout after (due thread)
      (waitLog thread log ++ waitLog thread events) current) :
    Linked connectTimeout (log ++ events) {
      connections := ⟨shared,
        Function.update state.connections.threads thread (some after)⟩
      due := due
      waits := Function.update state.waits thread (some current) } := by
  constructor
  · intro other absent
    rcases eq_or_ne other thread with rfl | different
    · simp at absent
    · simp only [Function.update_of_ne different] at absent ⊢
      exact linked.unborn other absent
  · intro other idle
    rcases eq_or_ne other thread with rfl | different
    · simp at idle
    · simp only [Function.update_of_ne different] at idle
      obtain ⟨nothing, past, unattended⟩ := linked.unattended other idle
      obtain ⟨same, quiet⟩ := others other different
      refine ⟨same.trans nothing, by rw [waitLog_append, past, quiet]; rfl, ?_⟩
      simpa only [Function.update_of_ne different] using unattended
  · refine everywhere_update ?_ fun other wait different waiting => ?_
    · refine ⟨after, connection, Function.update_self _ _ _, own, terminal, ?_⟩
      rw [waitLog_append]
      exact attended
    · obtain ⟨same, quiet⟩ := others other different
      rw [waitLog_append, quiet, List.append_nil]
      simp only [same, Function.update_of_ne different]
      exact linked.attended other wait waiting

theorem Linked.spawn {start : Transport.Phase scheme}
    (linked : Linked connectTimeout log state)
    (idle : state.connections.threads thread = none)
    (admitted : (Transport.connections scheme).admits start = true) :
    Linked connectTimeout
      (log ++ ((Transport.connections scheme).opened thread start).map
        .connection) {
      connections := ⟨state.connections.shared,
        Function.update state.connections.threads thread (some start)⟩
      due := fun other => state.due other ++ notices other
        ((Transport.connections scheme).opened thread start)
      waits := waitsAfter connectTimeout state (.spawn thread start) } := by
  have alone := linked.unborn thread idle
  have silent : ∀ other, notices other
      ((Transport.connections scheme).opened thread start) = [] := by
    intro other
    cases start with
    | calling call => exact notices_identity _
    | _ => rfl
  cases start with
  | connecting connection =>
      by_cases terminal : connection.capability = .terminal
      · obtain ⟨due, past, -⟩ := linked.unattended thread alone
        simp only [waitsAfter, terminal, if_true]
        refine linked.attend rfl terminal (fun other different => ?_) ?_
        · exact ⟨List.append_nil _, rfl⟩
        · rw [due, past]
          exact attended_start
      · simp only [waitsAfter, terminal, if_false]
        refine linked.unwatched alone (fun own same => ?_) silent
        obtain rfl := Option.some.inj same
        exact terminal
  | calling call => exact linked.unwatched alone nofun silent
  | _ => cases admitted

theorem Linked.advance {choice : Transport.Choice}
    {shared : IdentityShared scheme} {phase after : Transport.Phase scheme}
    {events : List (Transport.Event scheme)}
    (linked : Linked connectTimeout log state)
    (able : ready state (.advance thread choice) = true)
    (running : state.connections.threads thread = some phase)
    (stepped : Transport.step thread choice state.connections.shared phase =
      some (shared, after, events)) :
    Linked connectTimeout (log ++ events.map .connection) {
      connections := ⟨shared,
        Function.update state.connections.threads thread (some after)⟩
      due := fun other => state.due other ++ notices other events
      waits := state.waits } := by
  cases waiting : state.waits thread with
  | none =>
      obtain ⟨-, -, unattended⟩ := linked.unattended thread waiting
      cases own : connection? phase with
      | none =>
          cases phase with
          | calling call =>
              obtain ⟨nobody, silent⟩ := silent_of_calling stepped
              refine linked.unwatched waiting (fun onto same => ?_) silent
              rw [nobody] at same
              cases same
          | _ => cases own
      | some connection =>
          obtain ⟨same, tells⟩ := tells_of_step own stepped
          have other := unattended phase connection running own
          refine linked.unwatched waiting ?_ ?_
          · intro onto own'
            rw [same] at own'
            obtain rfl := Option.some.inj own'
            exact other
          · obtain ⟨reports, rest, tell, -⟩ := tells
            intro second
            rw [tell]
            exact if_neg fun both => other both.2
  | some wait =>
      obtain ⟨current, connection, found, own, terminal, attended⟩ :=
        linked.attended thread wait waiting
      obtain rfl := Option.some.inj (running.symm.trans found)
      obtain ⟨same, tells⟩ := tells_of_step own stepped
      simp only [ready, waiting, Option.all_some, Bool.and_eq_true,
        List.isEmpty_iff, decide_eq_true_eq] at able
      obtain ⟨told, present⟩ := able
      have still : Function.update state.waits thread (some wait) =
          state.waits := by
        rw [← waiting, Function.update_eq_self]
      rw [← still]
      refine linked.attend same terminal (fun other different => ?_) ?_
      · refine ⟨?_, waitLog_connection _ _⟩
        obtain ⟨reports, rest, tell, -⟩ := tells
        rw [tell, spoken_other different, List.append_nil]
      · rw [told] at attended ⊢
        rw [waitLog_connection, List.append_nil]
        exact attended.advance present (ending_of_step stepped) tells terminal

theorem Linked.rewait {due : ℕ → List ConnectNotice} {current : ConnectWait}
    (linked : Linked connectTimeout log state)
    (waiting : state.waits thread = some wait)
    (others : ∀ other, other ≠ thread → due other = state.due other)
    (quiet : ∀ other, other ≠ thread → waitLog other events = [])
    (attended : ∀ {phase : Transport.Phase scheme},
      Attended connectTimeout phase (state.due thread) (waitLog thread log)
        wait →
      Attended connectTimeout phase (due thread)
        (waitLog thread log ++ waitLog thread events) current) :
    Linked connectTimeout (log ++ events) { state with
      due := due
      waits := Function.update state.waits thread (some current) } := by
  obtain ⟨phase, connection, running, own, terminal, before⟩ :=
    linked.attended thread wait waiting
  have same : Function.update state.connections.threads thread (some phase) =
      state.connections.threads := by
    rw [← running, Function.update_eq_self]
  have attend := @Linked.attend _ _ _ _ _ _ _ state.connections.shared _ _ _
    linked own terminal
    (fun other different => ⟨others other different, quiet other different⟩)
    (attended before)
  rw [same] at attend
  exact attend

theorem Linked.connection
    {action : ThreadAction (Transport.Phase scheme) Transport.Choice}
    (linked : Linked connectTimeout log state)
    (stepped : stepConnection connectTimeout state action =
      some (next, events)) : Linked connectTimeout (log ++ events) next := by
  unfold stepConnection at stepped
  split at stepped
  · next able =>
      split at stepped
      · cases stepped
      · next connections logged moved =>
          obtain ⟨rfl, rfl⟩ := Prod.mk.inj (Option.some.inj stepped)
          rcases Program.machine_step_cases moved with
            ⟨thread, start, rfl, idle, admitted, rfl, rfl⟩ |
            ⟨thread, choice, current, shared, phase, rfl, running, went, rfl⟩
          · exact linked.spawn idle admitted
          · exact linked.advance able running went
  · cases stepped

theorem Linked.tell (linked : Linked connectTimeout log state)
    (stepped : stepTell state thread = some (next, events)) :
    Linked connectTimeout (log ++ events) next := by
  unfold stepTell at stepped
  split at stepped
  · next wait notice rest waiting due =>
      obtain ⟨rfl, rfl⟩ := Prod.mk.inj (Option.some.inj stepped)
      refine linked.rewait waiting
        (fun other different => Function.update_of_ne different _ _)
        (fun other different => waitLog_other different _) fun attended => ?_
      rw [due] at attended
      rw [waitLog_own, Function.update_self]
      exact attended.tell
  · cases stepped

theorem Linked.vanish (linked : Linked connectTimeout log state)
    (stepped : stepVanish state thread = some (next, events)) :
    Linked connectTimeout (log ++ events) next := by
  unfold stepVanish at stepped
  split at stepped
  · cases stepped
  · next wait waiting =>
      split at stepped
      · next running =>
          obtain ⟨rfl, rfl⟩ := Prod.mk.inj (Option.some.inj stepped)
          refine linked.rewait waiting
            (fun other different => Function.update_of_ne different _ _)
            (fun _ _ => rfl) fun attended => ?_
          rw [Function.update_self]
          exact (List.append_nil (waitLog thread log)).symm ▸
            attended.vanish running
      · cases stepped

theorem Linked.work (linked : Linked connectTimeout log state)
    (stepped : stepWork state thread = some (next, events)) :
    Linked connectTimeout (log ++ events) next := by
  unfold stepWork at stepped
  split at stepped
  · cases stepped
  · next wait waiting =>
      split at stepped
      · cases stepped
      · next current logged worked =>
          obtain ⟨rfl, rfl⟩ := Prod.mk.inj (Option.some.inj stepped)
          refine linked.rewait waiting (fun _ _ => rfl)
            (fun other different => waitLog_other different _) fun attended => ?_
          obtain ⟨samePhase, sameThread, untold⟩ := stepWork_untold worked
          rw [waitLog_own]
          have step : ConnectWait.machine.step wait .work =
              some (current, logged) := worked
          exact attended.aside step samePhase sameThread untold

theorem Linked.elapse (linked : Linked connectTimeout log state)
    (duration : ℕ) : Linked connectTimeout log (elapse state duration) := by
  have idle : ∀ thread, (Connecting.elapse state duration).waits thread = none →
      state.waits thread = none :=
    fun thread absent => Option.map_eq_none_iff.mp absent
  refine ⟨fun thread absent => ?_,
    fun thread absent => linked.unattended thread (idle thread absent), ?_⟩
  · exact Option.map_eq_none_iff.mpr (linked.unborn thread absent)
  · intro thread wait waiting
    obtain ⟨before, found, rfl⟩ := Option.map_eq_some_iff.mp waiting
    obtain ⟨phase, connection, running, own, terminal, attended⟩ :=
      linked.attended thread before found
    refine ⟨phase, connection, running, own, terminal, ?_⟩
    have step : ConnectWait.machine.step before (.pass duration) =
        some ({ before with clock := before.clock + duration }, []) := rfl
    have passed := attended.aside step rfl rfl rfl
    rwa [List.append_nil] at passed

theorem Linked.step (linked : Linked connectTimeout log state)
    (stepped : (machine scheme connectTimeout).step state action =
      some (next, events)) : Linked connectTimeout (log ++ events) next := by
  cases action with
  | connection action => exact linked.connection stepped
  | tell thread => exact linked.tell stepped
  | vanish thread => exact linked.vanish stepped
  | work thread => exact linked.work stepped
  | elapse duration =>
      obtain ⟨rfl, rfl⟩ := Prod.mk.inj (Option.some.inj stepped)
      rw [List.append_nil]
      exact linked.elapse duration

theorem linked {actions : List (Action scheme)}
    (run : (machine scheme connectTimeout).Run (initial trustStore) actions log
      state) : Linked connectTimeout log state :=
  run.invariant linked_initial fun _ _ _ _ _ holds stepped =>
    Linked.step holds stepped

/-- Every worker is in a run of the wait: the phases of its connection come in
their order, each once, and last of all comes the connection's own result. -/
theorem connect_refined {actions : List (Action scheme)}
    (run : (machine scheme connectTimeout).Run (initial trustStore) actions log
      state) (waiting : state.waits thread = some wait) :
    (∃ steps, ConnectWait.machine.Run (ConnectWait.start connectTimeout) steps
      (waitLog thread log) wait) ∧
    ∃ phase reports, state.connections.threads thread = some phase ∧
      reports <+: connectPhases ∧
      (told (waitLog thread log) = reports.map .reported ∨
        told (waitLog thread log) = reports.map .reported ++ ending phase ∧
          ∀ connection, phase = .connected connection →
            reports = connectPhases) := by
  obtain ⟨phase, connection, running, -, -, attended⟩ :=
    (linked run).attended thread wait waiting
  obtain ⟨unsaid, story, -⟩ := attended.story
  rw [List.append_assoc] at story
  obtain ⟨reports, ahead, said⟩ := story.told
  exact ⟨attended.runs, phase, reports, running, ahead, said⟩

end Linking

/-- A terminal of a host with an unknown key: the user takes a minute. -/
def askedTerminal : List (Action HostKeyScheme.sample) :=
  [.connection (.spawn 0 (.connecting Transport.sampleConnection)), .work 0,
    .connection (.advance 0 { resolved := .ok ["10.0.0.8:22"] }), .tell 0,
    .connection (.advance 0
      { hostKey := some (HostKeyScheme.ed25519Blob 0x11) }), .tell 0,
    .connection (.advance 0 {}), .tell 0, .work 0, .elapse 100, .work 0,
    .work 0, .work 0, .connection (.advance 0 {}), .connection (.advance 0 {}),
    .connection (.advance 0 { identity := { uuid := "challenge" } }),
    .connection (.advance 0 {}), .connection (.advance 0 {}), .elapse 60000,
    .work 0, .elapse 100, .work 0, .work 0, .work 0]

/-- Then the key is accepted, and the connection is made. -/
def acceptedTerminal : List (Action HostKeyScheme.sample) :=
  askedTerminal ++
  [.connection (.spawn 1 (.calling (.entered (.accept "challenge")))),
    .connection (.advance 1 {}), .connection (.advance 1 {}),
    .connection (.advance 1 {}), .connection (.advance 0 {}),
    .connection (.advance 0 {}), .connection (.advance 0 {}), .tell 0,
    .connection (.advance 0 {}), .tell 0, .connection (.advance 0 {}), .tell 0,
    .connection (.advance 0 {}), .tell 0, .connection (.advance 0 {}), .tell 0]

theorem connect_refined_accepted : ∃ log state wait,
    (machine .sample ConnectWait.connectTotalTimeout).Run (initial none)
      acceptedTerminal log state ∧
    state.waits 0 = some wait ∧
    told (waitLog 0 log) = connectPhases.map .reported ++ [.ended none] ∧
    ∃ steps, ConnectWait.machine.Run
      (ConnectWait.start ConnectWait.connectTotalTimeout) steps (waitLog 0 log)
      wait := by
  obtain ⟨log, state, wait, run, waiting, said⟩ : ∃ log state wait,
      (machine .sample ConnectWait.connectTotalTimeout).Run (initial none)
        acceptedTerminal log state ∧
      state.waits 0 = some wait ∧
      told (waitLog 0 log) = connectPhases.map .reported ++ [.ended none] :=
    ⟨_, _, _, Machine.run_of_execute rfl, rfl, rfl⟩
  exact ⟨log, state, wait, run, waiting, said, (connect_refined run waiting).1⟩

end Connecting

end TitanSSH
