import TitanSSH.Core.HostIdentity.Authorization
import TitanSSH.Core.HostIdentity.Closing
import TitanSSH.Core.Transport.Connect

namespace TitanSSH

open Interleaving

namespace HostIdentity

variable {scheme : HostKeyScheme}

/-- The request that a call is about, from its start to its return. -/
def Phase.Serves (request : Request scheme) : Phase scheme → Prop
  | .entered own => own = request
  | .lookup sessionId presented => .verify sessionId presented = request
  | .matched sessionId presented => .verify sessionId presented = request
  | .unmatched sessionId presented _ => .verify sessionId presented = request
  | .announcing sessionId presented _ => .verify sessionId presented = request
  | .waiting sessionId presented _ => .verify sessionId presented = request
  | .deciding _ _ _ next => next.Serves request
  | .cancellingAll _ => .cancelAll = request
  | .returned own _ => own = request
  | .panicked => True

theorem Phase.Serves.step {request : Request scheme} {thread : ℕ}
    {choice : Choice} {shared next : IdentityShared scheme}
    {phase after : Phase scheme} {events : List (Event scheme)}
    (serves : phase.Serves request)
    (stepped : HostIdentity.step thread choice shared phase =
      some (next, after, events)) : after.Serves request := by
  cases step_move stepped <;> first | exact serves | trivial

end HostIdentity

namespace Transport

variable {scheme : HostKeyScheme}

/-! One step of a connection, one constructor for each thing it can do. -/

/-- An event that is only told to the frontend. -/
def Event.isNotice : Event scheme → Bool
  | .reported _ _ => true
  | .ended _ _ _ => true
  | _ => false

/-- Where a connection that fails can come from. -/
inductive Abandons : Phase scheme → Connection → Prop
  | connecting {connection} : Abandons (.connecting connection) connection
  | handshake {connection} : Abandons (.handshake connection) connection
  | presenting {connection key} :
      Abandons (.presenting connection key) connection
  | verifying {connection blob request error} :
      Abandons (.verifying connection blob
        (.returned request (.result (.error error)))) connection
  | authenticating {connection blob} :
      Abandons (.authenticating connection blob) connection
  | setup {connection remaining} :
      Abandons (.setup connection remaining) connection

inductive Turn (thread : ℕ) : IdentityShared scheme → Phase scheme →
    IdentityShared scheme → Phase scheme → List (Event scheme) → Prop
  | dialed {shared connection events} (notices : events.all Event.isNotice) :
      Turn thread shared (.connecting connection) shared
        (.handshake connection) events
  | shaken {shared connection key notices}
      (noticed : notices.all Event.isNotice) :
      Turn thread shared (.handshake connection) shared
        (.presenting connection key)
        (notices ++ [.handshaken thread connection key])
  | submitted {shared connection blob notices}
      (noticed : notices.all Event.isNotice) :
      Turn thread shared (.presenting connection (some blob)) shared
        (.verifying connection blob
          (.entered (connection.request scheme blob)))
        (notices ++ [.identity (.started thread
          (connection.request scheme blob))])
  | verified {shared connection blob call next after events choice}
      (stepped : HostIdentity.step thread choice shared call =
        some (next, after, events)) :
      Turn thread shared (.verifying connection blob call) next
        (.verifying connection blob after) (events.map .identity)
  | admitted {shared connection blob request} :
      Turn thread shared (.verifying connection blob
        (.returned request (.result (.ok ())))) shared
        (.authenticating connection blob) []
  | offered {shared connection blob credential before after next}
      (known : connection.credential = .ok credential)
      (reported : before.all Event.isNotice)
      (ended : after.all Event.isNotice)
      (onward : (∃ remaining, next = .setup connection remaining) ∨
        ∃ error, next = .failed connection error) :
      Turn thread shared (.authenticating connection blob) shared next
        (before ++ .offered thread connection credential :: after)
  | prepared {shared connection stage rest events}
      (notices : events.all Event.isNotice) :
      Turn thread shared (.setup connection (stage :: rest)) shared
        (.setup connection rest) events
  | connected {shared connection} :
      Turn thread shared (.setup connection []) shared (.connected connection)
        [.ended thread connection none]
  | failed {shared phase connection error events}
      (abandons : Abandons phase connection)
      (notices : events.all Event.isNotice) :
      Turn thread shared phase shared (.failed connection error) events
  | called {shared call next after events choice}
      (stepped : HostIdentity.step thread choice shared call =
        some (next, after, events)) :
      Turn thread shared (.calling call) next (.calling after)
        (events.map .identity)

variable {thread : ℕ} {choice : Choice}
variable {shared next : IdentityShared scheme} {phase after : Phase scheme}
variable {events : List (Event scheme)} {connection : Connection}

theorem report_notices (thread : ℕ) (connection : Connection)
    (reported : ConnectionPhase) :
    (report thread connection reported : List (Event scheme)).all
      Event.isNotice := by
  unfold report
  split <;> rfl

theorem fail_turn {error : AppError} {notices : List (Event scheme)}
    (failing : fail thread shared connection error notices =
      (next, after, events)) (abandons : Abandons phase connection)
    (noticed : notices.all Event.isNotice) :
    Turn thread shared phase next after events := by
  simp only [fail, Prod.mk.injEq] at failing
  obtain ⟨rfl, rfl, rfl⟩ := failing
  exact .failed abandons (by simp [noticed, Event.isNotice])

theorem stepConnecting_turn
    (stepped : stepConnecting thread choice shared connection =
      (next, after, events)) :
    Turn thread shared (.connecting connection) next after events := by
  have notices : (report thread connection .connectingTcp :
      List (Event scheme)).all Event.isNotice :=
    report_notices thread connection .connectingTcp
  unfold stepConnecting at stepped
  cases resolved : resolveSocketAddrs connection.host choice.resolved with
  | error error =>
      simp only [resolved] at stepped
      exact fail_turn stepped .connecting notices
  | ok addrs =>
      cases dialed : connectTcpStream choice.connect addrs with
      | error error =>
          simp only [resolved, dialed] at stepped
          exact fail_turn stepped .connecting notices
      | ok addr =>
          cases failure : choice.socketFailure with
          | some message =>
              simp only [resolved, dialed, failure] at stepped
              exact fail_turn stepped .connecting notices
          | none =>
              simp only [resolved, dialed, failure, Prod.mk.injEq] at stepped
              obtain ⟨rfl, rfl, rfl⟩ := stepped
              exact .dialed notices

theorem stepHandshake_turn
    (stepped : stepHandshake thread choice shared connection =
      (next, after, events)) :
    Turn thread shared (.handshake connection) next after events := by
  have notices : (report thread connection .sshHandshake :
      List (Event scheme)).all Event.isNotice :=
    report_notices thread connection .sshHandshake
  unfold stepHandshake at stepped
  cases failure : choice.sessionFailure with
  | some message =>
      simp only [failure] at stepped
      exact fail_turn stepped .handshake notices
  | none =>
      simp only [failure, Prod.mk.injEq] at stepped
      obtain ⟨rfl, rfl, rfl⟩ := stepped
      exact .shaken notices

theorem stepPresenting_turn {key : Option (List UInt8)}
    (stepped : stepPresenting thread shared connection key =
      (next, after, events)) :
    Turn thread shared (.presenting connection key) next after events := by
  have notices : (report thread connection .verifyingHostKey :
      List (Event scheme)).all Event.isNotice :=
    report_notices thread connection .verifyingHostKey
  unfold stepPresenting at stepped
  cases key with
  | none => exact fail_turn stepped .presenting notices
  | some blob =>
      simp only [Prod.mk.injEq] at stepped
      obtain ⟨rfl, rfl, rfl⟩ := stepped
      exact .submitted notices

theorem stepVerifying_turn {blob : List UInt8}
    {call : HostIdentity.Phase scheme}
    (stepped : stepVerifying thread choice shared connection blob call =
      some (next, after, events)) :
    Turn thread shared (.verifying connection blob call) next after events := by
  unfold stepVerifying at stepped
  split at stepped
  · simp only [Option.some.injEq, Prod.mk.injEq] at stepped
    obtain ⟨rfl, rfl, rfl⟩ := stepped
    exact .admitted
  · exact fail_turn (Option.some.inj stepped) .verifying rfl
  · cases moved : HostIdentity.step thread choice.identity shared call with
    | none => simp [moved] at stepped
    | some outcome =>
        obtain ⟨state, call, logged⟩ := outcome
        simp only [moved, Option.some.injEq, Prod.mk.injEq] at stepped
        obtain ⟨rfl, rfl, rfl⟩ := stepped
        exact .verified moved

theorem stepAuthenticating_turn {blob : List UInt8}
    (stepped : stepAuthenticating thread choice shared connection =
      (next, after, events)) :
    Turn thread shared (.authenticating connection blob) next after events := by
  have notices : (report thread connection .authenticating :
      List (Event scheme)).all Event.isNotice :=
    report_notices thread connection .authenticating
  unfold stepAuthenticating at stepped
  cases known : connection.credential with
  | error error =>
      simp only [known] at stepped
      exact fail_turn stepped .authenticating notices
  | ok credential =>
      have refused : ∀ {error}, fail thread shared connection error
          (report thread connection .authenticating ++
            [.offered thread connection credential]) = (next, after, events) →
          Turn thread shared (.authenticating connection blob) next after
            events := by
        intro error failing
        simp only [fail, List.append_assoc, Prod.mk.injEq] at failing
        obtain ⟨rfl, rfl, rfl⟩ := failing
        exact .offered known notices rfl (.inr ⟨_, rfl⟩)
      cases failure : choice.authFailure with
      | some message =>
          simp only [known, failure] at stepped
          exact refused stepped
      | none =>
          cases accepted : choice.authenticated with
          | false =>
              simp only [known, failure, accepted, Bool.false_eq_true,
                if_false] at stepped
              exact refused stepped
          | true =>
              simp only [known, failure, accepted, if_true,
                Prod.mk.injEq] at stepped
              obtain ⟨rfl, rfl, rfl⟩ := stepped
              exact .offered known notices rfl (.inl ⟨_, rfl⟩)

theorem stepSetup_turn {remaining : List SetupStage}
    (stepped : stepSetup thread choice shared connection remaining =
      (next, after, events)) :
    Turn thread shared (.setup connection remaining) next after events := by
  unfold stepSetup at stepped
  cases remaining with
  | nil =>
      simp only [Prod.mk.injEq] at stepped
      obtain ⟨rfl, rfl, rfl⟩ := stepped
      exact .connected
  | cons stage rest =>
      have notices : (stage.phase?.elim []
          (report thread connection) : List (Event scheme)).all
            Event.isNotice := by
        cases stage.phase? with
        | none => rfl
        | some reported => exact report_notices thread connection reported
      cases failure : choice.setupFailure with
      | some message =>
          simp only [failure] at stepped
          exact fail_turn stepped .setup notices
      | none =>
          simp only [failure, Prod.mk.injEq] at stepped
          obtain ⟨rfl, rfl, rfl⟩ := stepped
          exact .prepared notices

theorem stepCalling_turn {call : HostIdentity.Phase scheme}
    (stepped : stepCalling thread choice shared call =
      some (next, after, events)) :
    Turn thread shared (.calling call) next after events := by
  unfold stepCalling at stepped
  cases moved : HostIdentity.step thread choice.identity shared call with
  | none => simp [moved] at stepped
  | some outcome =>
      obtain ⟨state, call, logged⟩ := outcome
      simp only [moved, Option.some.injEq, Prod.mk.injEq] at stepped
      obtain ⟨rfl, rfl, rfl⟩ := stepped
      exact .called moved

theorem step_turn
    (stepped : step thread choice shared phase = some (next, after, events)) :
    Turn thread shared phase next after events := by
  cases phase with
  | connecting connection => exact stepConnecting_turn (Option.some.inj stepped)
  | handshake connection => exact stepHandshake_turn (Option.some.inj stepped)
  | presenting connection key =>
      exact stepPresenting_turn (Option.some.inj stepped)
  | verifying connection blob call => exact stepVerifying_turn stepped
  | authenticating connection blob =>
      exact stepAuthenticating_turn (Option.some.inj stepped)
  | setup connection remaining => exact stepSetup_turn (Option.some.inj stepped)
  | connected connection => cases stepped
  | failed connection error => cases stepped
  | calling call => exact stepCalling_turn stepped

/-! The connections and the calls beside them run the service. -/

def Event.identity? : Event scheme → Option (HostIdentity.Event scheme)
  | .identity event => some event
  | _ => none

def identityEvents (log : List (Event scheme)) :
    List (HostIdentity.Event scheme) :=
  log.filterMap Event.identity?

@[simp] theorem identityEvents_append (first second : List (Event scheme)) :
    identityEvents (first ++ second) =
      identityEvents first ++ identityEvents second :=
  List.filterMap_append

@[simp] theorem identityEvents_own (logged : List (HostIdentity.Event scheme)) :
    identityEvents (logged.map .identity) = logged := by
  simp [identityEvents, List.filterMap_map, Function.comp_def, Event.identity?]

theorem identityEvents_notices {notices : List (Event scheme)}
    (noticed : notices.all Event.isNotice) : identityEvents notices = [] := by
  rw [List.all_eq_true] at noticed
  refine List.filterMap_eq_nil_iff.mpr fun event member => ?_
  have notice := noticed event member
  cases event <;> first | rfl | cases notice

theorem identityEvents_offered {reported ended : List (Event scheme)}
    {credential : Credential} (first : reported.all Event.isNotice)
    (second : ended.all Event.isNotice) :
    identityEvents (reported ++ .offered thread connection credential :: ended) =
      [] := by
  rw [identityEvents_append, identityEvents_notices first]
  show identityEvents ended = []
  exact identityEvents_notices second

/-- Where a thread stands in the service, as far as that can still matter. -/
def Phase.Shows : Phase scheme → Option (HostIdentity.Phase scheme) → Prop
  | .connecting _, call => call = none
  | .handshake _, call => call = none
  | .presenting _ _, call => call = none
  | .verifying _ _ here, call => call = some here
  | .authenticating connection blob, call =>
      call = some (.returned (connection.request scheme blob)
        (.result (.ok ())))
  | .calling here, call => call = some here
  | _, call =>
      call = none ∨ ∃ request response, call = some (.returned request response)

structure Mirrors (config : Config (IdentityShared scheme) (Phase scheme))
    (mirror : HostIdentity.ServiceConfig scheme) : Prop where
  shared : mirror.shared = config.shared
  idle : ∀ thread, config.threads thread = none → mirror.threads thread = none
  shows : ∀ thread phase, config.threads thread = some phase →
    phase.Shows (mirror.threads thread)
  serves : ∀ thread connection blob call,
    config.threads thread = some (.verifying connection blob call) →
      call.Serves (connection.request scheme blob)

theorem mirrors_initial (trustStore : Option TrustStore) :
    Mirrors (initial trustStore : Config (IdentityShared scheme) _)
      (HostIdentity.initial trustStore) where
  shared := rfl
  idle _ _ := rfl
  shows _ _ running := by cases running
  serves _ _ _ _ running := by cases running

variable {config final : Config (IdentityShared scheme) (Phase scheme)}
variable {mirror : HostIdentity.ServiceConfig scheme}
variable {action : ThreadAction (Phase scheme) Choice}
variable {log : List (Event scheme)}

/-- A thread has come to a phase; the service has seen nothing of it, or the
one step of it that is at hand. -/
theorem Mirrors.moved (mirrors : Mirrors config mirror)
    {call : Option (HostIdentity.Phase scheme)} {shared : IdentityShared scheme}
    (shows : after.Shows call)
    (serves : ∀ connection blob here,
      after = .verifying connection blob here →
        here.Serves (connection.request scheme blob)) :
    Mirrors ⟨shared, Function.update config.threads thread (some after)⟩
      ⟨shared, Function.update mirror.threads thread call⟩ where
  shared := rfl
  idle := by
    intro other absent
    rcases eq_or_ne other thread with rfl | different
    · simp at absent
    · simp only [Function.update_of_ne different] at absent ⊢
      exact mirrors.idle other absent
  shows := by
    intro other phase running
    rcases of_update_eq_some running with ⟨rfl, same⟩ | ⟨different, before⟩
    · obtain rfl := Option.some.inj same
      simpa using shows
    · simp only [Function.update_of_ne different]
      exact mirrors.shows other phase before
  serves := by
    intro other connection blob here running
    rcases of_update_eq_some running with ⟨rfl, same⟩ | ⟨different, before⟩
    · exact serves connection blob here (Option.some.inj same)
    · exact mirrors.serves other connection blob here before

theorem Mirrors.aside (mirrors : Mirrors config mirror)
    (shows : after.Shows (mirror.threads thread))
    (serves : ∀ connection blob here,
      after = .verifying connection blob here →
        here.Serves (connection.request scheme blob)) :
    Mirrors ⟨config.shared,
      Function.update config.threads thread (some after)⟩ mirror := by
  have moved : Mirrors
      ⟨config.shared, Function.update config.threads thread (some after)⟩
      ⟨config.shared,
        Function.update mirror.threads thread (mirror.threads thread)⟩ :=
    mirrors.moved shows serves
  have whole : mirror = ⟨config.shared, mirror.threads⟩ := by
    rw [← mirrors.shared]
  rw [whole]
  rwa [Function.update_eq_self] at moved

theorem Mirrors.spawned (mirrors : Mirrors config mirror) (thread : ℕ)
    (start : HostIdentity.Phase scheme) (after : Phase scheme)
    (absent : mirror.threads thread = none)
    (admitted : (HostIdentity.service scheme).admits start = true)
    (shows : after.Shows (some start))
    (serves : ∀ connection blob here,
      after = .verifying connection blob here →
        here.Serves (connection.request scheme blob)) :
    ∃ reached, (HostIdentity.service scheme).machine.Run mirror
      [.spawn thread start] ((HostIdentity.service scheme).opened thread start)
      reached ∧
      Mirrors ⟨config.shared,
        Function.update config.threads thread (some after)⟩ reached := by
  refine ⟨⟨mirror.shared, Function.update mirror.threads thread (some start)⟩,
    Machine.Run.single (by simp [Program.machine, absent, admitted]), ?_⟩
  rw [mirrors.shared]
  exact mirrors.moved shows serves

theorem Mirrors.advanced (mirrors : Mirrors config mirror)
    (after : Phase scheme) {call reached : HostIdentity.Phase scheme} {choice : HostIdentity.Choice}
    {shared : IdentityShared scheme}
    {logged : List (HostIdentity.Event scheme)}
    (running : mirror.threads thread = some call)
    (stepped : HostIdentity.step thread choice config.shared call =
      some (shared, reached, logged))
    (shows : after.Shows (some reached))
    (serves : ∀ connection blob here,
      after = .verifying connection blob here →
        here.Serves (connection.request scheme blob)) :
    ∃ final, (HostIdentity.service scheme).machine.Run mirror
      [.advance thread choice] logged final ∧
      Mirrors ⟨shared, Function.update config.threads thread (some after)⟩
        final := by
  rw [← mirrors.shared] at stepped
  exact ⟨_, Machine.Run.single (Program.machine_advance running stepped),
    mirrors.moved shows serves⟩

theorem Mirrors.turn (mirrors : Mirrors config mirror)
    {current : Phase scheme}
    (running : config.threads thread = some current)
    (turn : Turn thread config.shared current shared after events) :
    ∃ actions reached, (HostIdentity.service scheme).machine.Run mirror actions
      (identityEvents events) reached ∧
      Mirrors ⟨shared, Function.update config.threads thread (some after)⟩
        reached := by
  have shown := mirrors.shows thread current running
  cases turn with
  | dialed notices =>
      rw [identityEvents_notices notices]
      exact ⟨[], mirror, .refl, mirrors.aside shown (by simp)⟩
  | shaken noticed =>
      rw [identityEvents_append, identityEvents_notices noticed]
      exact ⟨[], mirror, .refl, mirrors.aside shown (by simp)⟩
  | @submitted connection blob notices noticed =>
      obtain ⟨reached, run, mirrored⟩ := mirrors.spawned thread
        (.entered (connection.request scheme blob))
        (.verifying connection blob
          (.entered (connection.request scheme blob))) shown rfl rfl (by
            rintro _ _ _ ⟨⟩
            rfl)
      rw [identityEvents_append, identityEvents_notices noticed]
      exact ⟨_, reached, run, mirrored⟩
  | @verified connection blob call _ after events choice stepped =>
      obtain ⟨reached, run, mirrored⟩ := mirrors.advanced
        (.verifying connection blob after) shown stepped rfl (by
          rintro _ _ _ ⟨⟩
          exact (mirrors.serves _ _ _ _ running).step stepped)
      rw [identityEvents_own]
      exact ⟨_, reached, run, mirrored⟩
  | admitted =>
      have serves := mirrors.serves _ _ _ _ running
      obtain rfl := serves
      exact ⟨[], mirror, .refl, mirrors.aside shown (by simp)⟩
  | offered known reported ended onward =>
      rw [identityEvents_offered reported ended]
      refine ⟨[], mirror, .refl, ?_⟩
      rcases onward with ⟨remaining, rfl⟩ | ⟨error, rfl⟩
      · exact mirrors.aside (.inr ⟨_, _, shown⟩) (by simp)
      · exact mirrors.aside (.inr ⟨_, _, shown⟩) (by simp)
  | prepared notices =>
      rw [identityEvents_notices notices]
      exact ⟨[], mirror, .refl, mirrors.aside shown (by simp)⟩
  | connected =>
      exact ⟨[], mirror, .refl, mirrors.aside shown (by simp)⟩
  | failed abandons notices =>
      rw [identityEvents_notices notices]
      refine ⟨[], mirror, .refl, mirrors.aside ?_ (by simp)⟩
      cases abandons with
      | connecting => exact .inl shown
      | handshake => exact .inl shown
      | presenting => exact .inl shown
      | verifying => exact .inr ⟨_, _, shown⟩
      | authenticating => exact .inr ⟨_, _, shown⟩
      | setup => exact shown
  | @called call _ after events choice stepped =>
      obtain ⟨reached, run, mirrored⟩ := mirrors.advanced
        (.calling after) shown stepped rfl (by simp)
      rw [identityEvents_own]
      exact ⟨_, reached, run, mirrored⟩

theorem Mirrors.step (mirrors : Mirrors config mirror)
    (stepped : (connections scheme).machine.step config action =
      some (final, events)) :
    ∃ actions after, (HostIdentity.service scheme).machine.Run mirror actions
      (identityEvents events) after ∧ Mirrors final after := by
  rcases Program.machine_step_cases stepped with
    ⟨thread, start, rfl, idle, admitted, rfl, rfl⟩ |
    ⟨thread, choice, current, shared, phase, rfl, running, moved, rfl⟩
  · have absent := mirrors.idle thread idle
    cases start with
    | connecting connection =>
        exact ⟨[], mirror, .refl, mirrors.aside absent (by simp)⟩
    | calling call =>
        obtain ⟨reached, run, mirrored⟩ := mirrors.spawned thread call
          (.calling call) absent admitted rfl (by simp)
        have told : identityEvents ((connections scheme).opened thread
            (.calling call)) =
              (HostIdentity.service scheme).opened thread call :=
          identityEvents_own _
        exact ⟨_, reached, told ▸ run, mirrored⟩
    | _ => cases admitted
  · exact mirrors.turn running (step_turn moved)

theorem Mirrors.run (mirrors : Mirrors config mirror)
    {actions : List (ThreadAction (Phase scheme) Choice)}
    (run : (connections scheme).machine.Run config actions log final) :
    ∃ calls after, (HostIdentity.service scheme).machine.Run mirror calls
      (identityEvents log) after ∧ Mirrors final after := by
  induction run with
  | refl => exact ⟨[], mirror, .refl, mirrors⟩
  | snoc initial stepped induction =>
      obtain ⟨calls, between, first, mirrored⟩ := induction
      obtain ⟨more, after, second, still⟩ := mirrored.step stepped
      rw [identityEvents_append]
      exact ⟨_, after, first.trans second, still⟩

/-! What is known of the server that a credential is sent to. -/

def Event.handshake? (thread : ℕ) :
    Event scheme → Option (Connection × Option (List UInt8))
  | .handshaken other connection key =>
      if other = thread then some (connection, key) else none
  | _ => none

/-- The servers that a thread has shaken hands with, each with its key. -/
def handshakes (thread : ℕ) (log : List (Event scheme)) :
    List (Connection × Option (List UInt8)) :=
  log.filterMap (Event.handshake? thread)

@[simp] theorem handshakes_append (thread : ℕ)
    (first second : List (Event scheme)) :
    handshakes thread (first ++ second) =
      handshakes thread first ++ handshakes thread second :=
  List.filterMap_append

theorem handshakes_notices {notices : List (Event scheme)} (thread : ℕ)
    (noticed : notices.all Event.isNotice) : handshakes thread notices = [] := by
  rw [List.all_eq_true] at noticed
  refine List.filterMap_eq_nil_iff.mpr fun event member => ?_
  have notice := noticed event member
  cases event <;> first | rfl | cases notice

theorem handshakes_identity (thread : ℕ)
    (logged : List (HostIdentity.Event scheme)) :
    handshakes thread (logged.map .identity) = [] := by
  simp [handshakes, List.filterMap_map, Event.handshake?, Function.comp_def]

/-- The handshakes that a thread has behind it in each phase. -/
def Phase.Course (made : List (Connection × Option (List UInt8))) :
    Phase scheme → Prop
  | .presenting connection key => made = [(connection, key)]
  | .verifying connection blob _ => made = [(connection, some blob)]
  | .authenticating connection blob => made = [(connection, some blob)]
  | .setup _ _ => True
  | .connected _ => True
  | .failed _ _ => True
  | _ => made = []

structure Greeted (log : List (Event scheme))
    (config : Config (IdentityShared scheme) (Phase scheme)) : Prop where
  idle : ∀ thread, config.threads thread = none → handshakes thread log = []
  course : ∀ thread phase, config.threads thread = some phase →
    phase.Course (handshakes thread log)

theorem Turn.course {made : List (Connection × Option (List UInt8))}
    (turn : Turn thread shared phase next after events)
    (course : phase.Course made) :
    after.Course (made ++ handshakes thread events) := by
  cases turn with
  | dialed notices =>
      rw [handshakes_notices thread notices, List.append_nil]
      exact course
  | shaken noticed =>
      obtain rfl : made = [] := course
      rw [handshakes_append, handshakes_notices thread noticed]
      simp [handshakes, Event.handshake?, Phase.Course]
  | submitted noticed =>
      rw [handshakes_append, handshakes_notices thread noticed]
      exact (List.append_nil made).trans course
  | verified stepped =>
      rw [handshakes_identity, List.append_nil]
      exact course
  | admitted => simpa [handshakes, Phase.Course] using course
  | offered known reported ended onward =>
      rcases onward with ⟨remaining, rfl⟩ | ⟨error, rfl⟩ <;> trivial
  | prepared notices => trivial
  | connected => trivial
  | failed abandons notices => trivial
  | called stepped =>
      rw [handshakes_identity, List.append_nil]
      exact course

theorem Turn.handshakes_other {other : ℕ} (different : other ≠ thread)
    (turn : Turn thread shared phase next after events) :
    handshakes other events = [] := by
  cases turn with
  | dialed notices => exact handshakes_notices other notices
  | shaken noticed =>
      rw [handshakes_append, handshakes_notices other noticed]
      simp [handshakes, Event.handshake?, different.symm]
  | submitted noticed =>
      rw [handshakes_append, handshakes_notices other noticed]
      rfl
  | verified stepped => exact handshakes_identity other _
  | admitted => rfl
  | @offered _ _ _ reported ended _ known first second onward =>
      rw [handshakes_append, handshakes_notices other first]
      show handshakes other ended = []
      exact handshakes_notices other second
  | prepared notices => exact handshakes_notices other notices
  | connected => rfl
  | failed abandons notices => exact handshakes_notices other notices
  | called stepped => exact handshakes_identity other _

theorem Greeted.step (greeted : Greeted log config)
    (stepped : (connections scheme).machine.step config action =
      some (final, events)) : Greeted (log ++ events) final := by
  rcases Program.machine_step_cases stepped with
    ⟨thread, start, rfl, idle, admitted, rfl, rfl⟩ |
    ⟨thread, choice, current, shared, phase, rfl, running, moved, rfl⟩
  · have silent : ∀ other, handshakes other ((connections scheme).opened thread
        start) = [] := by
      intro other
      cases start with
      | calling call => exact handshakes_identity other _
      | _ => rfl
    constructor
    · intro other absent
      rcases eq_or_ne other thread with rfl | different
      · simp at absent
      · rw [handshakes_append, silent, greeted.idle other (by
          simpa [Function.update_of_ne different] using absent)]
        rfl
    · refine everywhere_update ?_ fun other current different found => ?_
      · rw [handshakes_append, silent, greeted.idle thread idle]
        cases start <;> first | rfl | cases admitted
      · rw [handshakes_append, silent, List.append_nil]
        exact greeted.course other current found
  · have turn := step_turn moved
    constructor
    · intro other absent
      rcases eq_or_ne other thread with rfl | different
      · simp at absent
      · rw [handshakes_append, turn.handshakes_other different,
          greeted.idle other (by
            simpa [Function.update_of_ne different] using absent)]
        rfl
    · refine everywhere_update ?_ fun other current different found => ?_
      · rw [handshakes_append]
        exact turn.course (greeted.course thread current running)
      · rw [handshakes_append, turn.handshakes_other different,
          List.append_nil]
        exact greeted.course other current found

/-- What holds of the connections in every run. -/
structure Sound (trustStore : Option TrustStore) (log : List (Event scheme))
    (config : Config (IdentityShared scheme) (Phase scheme)) : Prop where
  mirrored : ∃ calls mirror, (HostIdentity.service scheme).machine.Run
    (HostIdentity.initial trustStore) calls (identityEvents log) mirror ∧
    Mirrors config mirror
  greeted : Greeted log config

variable {trustStore : Option TrustStore}

theorem sound_initial :
    Sound trustStore ([] : List (Event scheme)) (initial trustStore) where
  mirrored := ⟨[], _, .refl, mirrors_initial trustStore⟩
  greeted := ⟨fun _ _ => rfl, fun _ _ running => by cases running⟩

theorem Sound.step (sound : Sound trustStore log config)
    (stepped : (connections scheme).machine.step config action =
      some (final, events)) : Sound trustStore (log ++ events) final := by
  obtain ⟨calls, mirror, run, mirrors⟩ := sound.mirrored
  obtain ⟨more, after, further, still⟩ := mirrors.step stepped
  refine ⟨⟨calls ++ more, after, ?_, still⟩, sound.greeted.step stepped⟩
  rw [identityEvents_append]
  exact run.trans further

/-- Why a server was given a credential: the thread has shaken hands with it
alone, and the key that it presented was found stored, accepted in the session,
or saved through another one. -/
def Explains (before : List (Event scheme)) (event : Event scheme) : Prop :=
  ∀ thread connection credential,
    event = .offered thread connection credential →
      connection.credential = .ok credential ∧
      ∃ blob, handshakes thread before = [(connection, some blob)] ∧
        HostIdentity.Authorized (identityEvents before)
          (.ofPresented connection.sessionId (connection.present scheme blob))

theorem Event.not_offered_of_notice {notices : List (Event scheme)}
    {credential : Credential} (noticed : notices.all Event.isNotice) :
    .offered thread connection credential ∉ notices := by
  intro member
  cases List.all_eq_true.mp noticed _ member

theorem Turn.of_offered {other : ℕ} {credential : Credential}
    (turn : Turn thread shared phase next after events)
    (member : .offered other connection credential ∈ events) :
    other = thread ∧ connection.credential = .ok credential ∧
    ∃ blob reported ended, phase = .authenticating connection blob ∧
      reported.all Event.isNotice ∧ ended.all Event.isNotice ∧
      events = reported ++ .offered thread connection credential :: ended := by
  cases turn with
  | @offered own blob sent reported ended _ known first second onward =>
      rcases List.mem_append.mp member with before | now
      · exact (Event.not_offered_of_notice first before).elim
      rcases List.mem_cons.mp now with same | after
      · cases same
        exact ⟨rfl, known, blob, reported, ended, rfl, first, second, rfl⟩
      · exact (Event.not_offered_of_notice second after).elim
  | dialed notices => exact (Event.not_offered_of_notice notices member).elim
  | prepared notices => exact (Event.not_offered_of_notice notices member).elim
  | failed abandons notices =>
      exact (Event.not_offered_of_notice notices member).elim
  | shaken noticed =>
      simp [Event.not_offered_of_notice noticed] at member
  | submitted noticed =>
      simp [Event.not_offered_of_notice noticed] at member
  | verified stepped => simp at member
  | admitted => cases member
  | connected => simp at member
  | called stepped => simp at member

theorem before_eq_of_split {Item : Type*} {item : Item}
    {before after first second : List Item}
    (split : before ++ item :: after = first ++ item :: second)
    (early : item ∉ first) (late : item ∉ second) : before = first := by
  rcases List.append_eq_append_iff.mp split with
    ⟨middle, rfl, tail⟩ | ⟨middle, rfl, tail⟩
  · cases middle with
    | nil => exact (List.append_nil before).symm
    | cons head rest =>
        obtain ⟨rfl, -⟩ := List.cons.inj tail
        simp at early
  · cases middle with
    | nil => exact List.append_nil first
    | cons head rest =>
        obtain ⟨rfl, rfl⟩ := List.cons.inj tail
        simp at late

theorem explained (log : List (Event scheme))
    (config : Config (IdentityShared scheme) (Phase scheme))
    (action : ThreadAction (Phase scheme) Choice)
    (next : Config (IdentityShared scheme) (Phase scheme))
    (events : List (Event scheme)) (sound : Sound trustStore log config)
    (stepped : (connections scheme).machine.step config action =
      some (next, events)) :
    ∀ before event after, events = before ++ event :: after →
      Explains (log ++ before) event := by
  rintro before _ after split other connection credential rfl
  rcases Program.machine_step_cases stepped with
    ⟨thread, start, rfl, idle, admitted, rfl, rfl⟩ |
    ⟨thread, choice, current, shared, phase, rfl, running, moved, rfl⟩
  · have member : Event.offered other connection credential ∈
        (connections scheme).opened thread start := by simp [split]
    cases start <;> simp [connections] at member
  · have turn := step_turn moved
    have member : Event.offered other connection credential ∈ events := by
      simp [split]
    obtain ⟨rfl, known, blob, reported, ended, rfl, first, second, whole⟩ :=
      turn.of_offered member
    obtain rfl : before = reported :=
      before_eq_of_split (split.symm.trans whole)
        (Event.not_offered_of_notice first) (Event.not_offered_of_notice second)
    obtain ⟨calls, mirror, run, mirrors⟩ := sound.mirrored
    refine ⟨known, blob, ?_, ?_⟩
    · rw [handshakes_append, handshakes_notices _ first, List.append_nil]
      exact sound.greeted.course _ _ running
    · rw [identityEvents_append, identityEvents_notices first, List.append_nil]
      have returned : mirror.threads other = _ :=
        mirrors.shows _ _ running
      have holds := (HostIdentity.authorization scheme).holds
        (HostIdentity.initial_authorized trustStore) run
      exact holds.2 other _ returned _ _ rfl rfl

/-- Whenever a credential is sent, the server has proved to have a key that was
authorized for the session before. -/
theorem credentials_authorized
    {actions : List (ThreadAction (Phase scheme) Choice)}
    {earlier later : List (Event scheme)} {credential : Credential}
    (run : (connections scheme).machine.Run (initial trustStore) actions log
      config)
    (sent : log = earlier ++ .offered thread connection credential :: later) :
    connection.credential = .ok credential ∧
    ∃ blob, handshakes thread earlier = [(connection, some blob)] ∧
      let presented := connection.present scheme blob
      HostIdentity.FoundMatching (identityEvents earlier) connection.sessionId
          presented ∨
        HostIdentity.AcceptedHere (identityEvents earlier) connection.sessionId
          presented ∨
        HostIdentity.SavedElsewhere (identityEvents earlier)
          connection.sessionId presented := by
  obtain ⟨known, blob, shaken, authorized⟩ :=
    Machine.Run.history sound_initial
      (fun _ _ _ _ _ sound stepped => sound.step stepped) explained run earlier
      _ later sent thread connection credential rfl
  exact ⟨known, blob, shaken, authorized.routes⟩

def sampleConnection : Connection where
  capability := .terminal
  sessionId := "session"
  host :=
    { id := "host", name := "web", host := "10.0.0.8", port := 22
      username := "root", authType := .password, passwordRef := some "ref"
      privateKeyPath := none, passphraseRef := none, remark := none
      group := "" }
  password := some "secret"
  passphrase := none

/-- A connection asks about an unknown key, and the user accepts it. -/
def acceptedConnection :
    List (ThreadAction (Phase HostKeyScheme.sample) Choice) :=
  [.spawn 0 (.connecting sampleConnection),
    .advance 0 { resolved := .ok ["10.0.0.8:22"] },
    .advance 0 { hostKey := some (HostKeyScheme.ed25519Blob 0x11) },
    .advance 0 {}, .advance 0 {}, .advance 0 {},
    .advance 0 { identity := { uuid := "challenge" } }, .advance 0 {},
    .advance 0 {}, .spawn 1 (.calling (.entered (.accept "challenge"))),
    .advance 1 {}, .advance 1 {}, .advance 1 {}, .advance 0 {}, .advance 0 {},
    .advance 0 {}]

theorem credentials_authorized_accepted : ∃ config log earlier,
    (connections .sample).machine.Run (initial none) acceptedConnection log
      config ∧
    log = earlier ++ [.offered 0 sampleConnection (.password "root" "secret")] ∧
    ∃ blob, handshakes 0 earlier = [(sampleConnection, some blob)] := by
  obtain ⟨config, log, earlier, run, sent⟩ : ∃ config log earlier,
      (connections .sample).machine.Run (initial none) acceptedConnection log
        config ∧
      log = earlier ++
        [.offered 0 sampleConnection (.password "root" "secret")] :=
    ⟨_, _, [.reported 0 .connectingTcp, .reported 0 .sshHandshake, _,
      .reported 0 .verifyingHostKey, _, _, _, _, _, _, _, _, _,
      .reported 0 .authenticating], Machine.run_of_execute rfl, rfl⟩
  obtain ⟨-, blob, shaken, -⟩ := credentials_authorized run sent
  exact ⟨config, log, earlier, run, sent, blob, shaken⟩

end Transport

end TitanSSH
