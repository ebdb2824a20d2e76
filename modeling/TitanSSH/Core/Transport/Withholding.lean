import TitanSSH.Core.Transport.Authentication

namespace TitanSSH

open Interleaving

namespace Transport

variable {scheme : HostKeyScheme}

/-! What the connections of a session still send once it is closed. -/

def Phase.call? : Phase scheme → Option (HostIdentity.Phase scheme)
  | .verifying _ _ call => some call
  | .calling call => some call
  | _ => none

/-- The calls of the service that are under way, those of the connections among
them. -/
def calls (config : Config (IdentityShared scheme) (Phase scheme)) :
    HostIdentity.ServiceConfig scheme :=
  ⟨config.shared, fun thread => (config.threads thread).bind Phase.call?⟩

/-- The verification of the thread had been decided, or was over. -/
def LetThrough (config : Config (IdentityShared scheme) (Phase scheme))
    (sessionId : String) (thread : ℕ) : Prop :=
  (∃ connection blob,
    config.threads thread = some (.authenticating connection blob)) ∨
  ∃ connection blob call,
    config.threads thread = some (.verifying connection blob call) ∧
    ¬HostIdentity.Undecided (calls config) sessionId call

/-- A connection never goes back, and a call never becomes one. -/
def Phase.stage : Phase scheme → ℕ
  | .connecting _ => 0
  | .handshake _ => 1
  | .presenting _ _ => 2
  | .verifying _ _ _ => 3
  | .authenticating _ _ => 4
  | .setup _ _ => 5
  | .connected _ => 6
  | .failed _ _ => 6
  | .calling _ => 7

variable {thread : ℕ} {shared next : IdentityShared scheme}
variable {phase after : Phase scheme} {events log : List (Event scheme)}
variable {config final : Config (IdentityShared scheme) (Phase scheme)}
variable {mirror : HostIdentity.ServiceConfig scheme}
variable {action : ThreadAction (Phase scheme) Choice}
variable {sessionId : String}

theorem Turn.stage_le (turn : Turn thread shared phase next after events) :
    phase.stage ≤ after.stage := by
  cases turn with
  | offered known reported ended onward =>
      rcases onward with ⟨remaining, rfl⟩ | ⟨error, rfl⟩ <;>
        simp [Phase.stage]
  | failed abandons notices => cases abandons <;> simp [Phase.stage]
  | _ => simp [Phase.stage]

/-- Where every thread was in one state, it is at least in another. -/
def Onward (config state : Config (IdentityShared scheme) (Phase scheme)) :
    Prop :=
  ∀ thread phase, config.threads thread = some phase →
    ∃ reached, state.threads thread = some reached ∧
      phase.stage ≤ reached.stage

theorem Onward.step {state : Config (IdentityShared scheme) (Phase scheme)}
    (onward : Onward config state)
    (stepped : (connections scheme).machine.step state action =
      some (final, events)) : Onward config final := by
  intro other phase running
  obtain ⟨reached, here, further⟩ := onward other phase running
  rcases Program.machine_step_cases stepped with
    ⟨thread, start, rfl, idle, -, rfl, -⟩ |
    ⟨thread, choice, current, shared, after, rfl, found, moved, rfl⟩
  · have different : other ≠ thread := by
      rintro rfl
      cases here.symm.trans idle
    exact ⟨reached, (Function.update_of_ne different _ _).trans here, further⟩
  · rcases eq_or_ne other thread with rfl | different
    · cases here.symm.trans found
      exact ⟨after, Function.update_self .., further.trans
        (step_turn moved).stage_le⟩
    · exact ⟨reached, (Function.update_of_ne different _ _).trans here, further⟩

/-- What the service knows of the threads is the calls under way, and that some
have returned. -/
theorem Mirrors.call (mirrors : Mirrors config mirror)
    {call : HostIdentity.Phase scheme}
    (running : mirror.threads thread = some call) :
    (∃ request response, call = .returned request response) ∨
      (calls config).threads thread = some call := by
  cases here : config.threads thread with
  | none => cases running.symm.trans (mirrors.idle thread here)
  | some phase =>
      have shown := mirrors.shows thread phase here
      rw [running] at shown
      cases phase with
      | connecting connection => cases shown
      | handshake connection => cases shown
      | presenting connection key => cases shown
      | verifying connection blob inside =>
          exact .inr (by simpa [calls, here, Phase.call?] using shown.symm)
      | calling inside =>
          exact .inr (by simpa [calls, here, Phase.call?] using shown.symm)
      | authenticating connection blob =>
          exact .inl ⟨_, _, Option.some.inj shown⟩
      | _ =>
          rcases shown with absent | ⟨request, response, same⟩
          · cases absent
          · exact .inl ⟨request, response, Option.some.inj same⟩

theorem Mirrors.undecided_iff (mirrors : Mirrors config mirror)
    {call : HostIdentity.Phase scheme} :
    HostIdentity.Undecided mirror sessionId call ↔
      HostIdentity.Undecided (calls config) sessionId call := by
  unfold HostIdentity.Undecided
  rw [mirrors.shared]
  rfl

theorem Mirrors.quiet (mirrors : Mirrors config mirror)
    (quiet : HostIdentity.NoAcceptInFlight (calls config) sessionId) :
    HostIdentity.NoAcceptInFlight mirror sessionId := by
  intro thread accepting running other blocked otherRuns undecided wait owed
  rcases mirrors.call running with ⟨request, response, rfl⟩ | own
  · cases owed
  rcases mirrors.call otherRuns with ⟨request, response, rfl⟩ | theirs
  · exact undecided.1.elim
  exact quiet thread accepting own other blocked theirs
    (mirrors.undecided_iff.mp undecided) wait owed

/-- The connections of a closed session, seen from the end of its closing. -/
structure Shut (sessionId : String)
    (config : Config (IdentityShared scheme) (Phase scheme))
    (mirror : HostIdentity.ServiceConfig scheme) (log : List (Event scheme))
    (state : Config (IdentityShared scheme) (Phase scheme)) : Prop where
  onward : Onward config state
  mirrored : ∃ made reached, (HostIdentity.service scheme).machine.Run mirror
    made (identityEvents log) reached ∧ Mirrors state reached

theorem Shut.step {state : Config (IdentityShared scheme) (Phase scheme)}
    (shut : Shut sessionId config mirror log state)
    (stepped : (connections scheme).machine.step state action =
      some (final, events)) :
    Shut sessionId config mirror (log ++ events) final := by
  obtain ⟨made, reached, run, mirrors⟩ := shut.mirrored
  obtain ⟨more, after, further, still⟩ := mirrors.step stepped
  refine ⟨shut.onward.step stepped, made ++ more, after, ?_, still⟩
  rw [identityEvents_append]
  exact run.trans further

def Permitted (config : Config (IdentityShared scheme) (Phase scheme))
    (sessionId : String) (event : Event scheme) : Prop :=
  ∀ thread connection credential,
    event = .offered thread connection credential →
      connection.sessionId = sessionId → LetThrough config sessionId thread

theorem Shut.letThrough {state : Config (IdentityShared scheme) (Phase scheme)}
    {connection : Connection} {blob : List UInt8}
    (shut : Shut sessionId config mirror log state)
    (mirrors : Mirrors config mirror)
    (doomed : (HostIdentity.doomed mirror sessionId).Holds [] mirror)
    (running : state.threads thread = some (.authenticating connection blob))
    (own : connection.sessionId = sessionId) :
    LetThrough config sessionId thread := by
  obtain ⟨made, reached, run, shown⟩ := shut.mirrored
  have returned : reached.threads thread = some (.returned
      (connection.request scheme blob) (.result (.ok ()))) :=
    shown.shows thread _ running
  rw [Connection.request, own] at returned
  have call := ((HostIdentity.doomed mirror sessionId).holds doomed run).2
    thread _ returned
  have exempt : HostIdentity.Exempt mirror sessionId thread := by
    by_contra bound
    exact call.unverified bound _ rfl
  obtain ⟨inside, before, decided⟩ := exempt
  cases here : config.threads thread with
  | none => cases before.symm.trans (mirrors.idle thread here)
  | some phase =>
      have seen := mirrors.shows thread phase here
      rw [before] at seen
      obtain ⟨_, found, onward⟩ := shut.onward thread phase here
      obtain rfl := Option.some.inj (running.symm.trans found)
      cases phase with
      | connecting connection => cases seen
      | handshake connection => cases seen
      | presenting connection key => cases seen
      | verifying other key current =>
          obtain rfl := Option.some.inj seen
          exact .inr ⟨other, key, inside, here,
            fun undecided => decided (mirrors.undecided_iff.mpr undecided)⟩
      | authenticating other key => exact .inl ⟨other, key, here⟩
      | setup other remaining => simp [Phase.stage] at onward
      | connected other => simp [Phase.stage] at onward
      | failed other error => simp [Phase.stage] at onward
      | calling current => simp [Phase.stage] at onward

theorem Shut.permitted {state : Config (IdentityShared scheme) (Phase scheme)}
    (shut : Shut sessionId config mirror log state)
    (mirrors : Mirrors config mirror)
    (doomed : (HostIdentity.doomed mirror sessionId).Holds [] mirror)
    (stepped : (connections scheme).machine.step state action =
      some (final, events)) {event : Event scheme} (member : event ∈ events) :
    Permitted config sessionId event := by
  rintro thread connection credential rfl own
  rcases Program.machine_step_cases stepped with
    ⟨other, start, rfl, idle, admitted, rfl, rfl⟩ |
    ⟨other, choice, current, shared, phase, rfl, running, moved, rfl⟩
  · cases start <;> simp [connections] at member
  · obtain ⟨rfl, -, blob, -, -, rfl, -⟩ := (step_turn moved).of_offered member
    exact shut.letThrough mirrors doomed running own

/-- Once a session is closed, with no acceptance of an attached challenge still
in flight, only a connection whose verification was decided by then still sends
a credential for it. -/
theorem closed_session_withholds {trustStore : Option TrustStore} {closer : ℕ}
    {actions more : List (ThreadAction (Phase scheme) Choice)}
    {later : List (Event scheme)}
    (run : (connections scheme).machine.Run (initial trustStore) actions log
      config)
    (completed : config.threads closer =
      some (.calling (.returned (.cancelSession sessionId) .done)))
    (quiet : HostIdentity.NoAcceptInFlight (calls config) sessionId)
    (continued : (connections scheme).machine.Run config more later final) :
    ∀ thread connection credential,
      .offered thread connection credential ∈ later →
        connection.sessionId = sessionId →
          LetThrough config sessionId thread := by
  obtain ⟨made, mirror, served, mirrors⟩ :=
    (mirrors_initial trustStore).run run
  obtain ⟨closed, known⟩ := (HostIdentity.closing scheme).holds
    (HostIdentity.initial_closing trustStore) served
  have closes : mirror.threads closer = some _ :=
    mirrors.shows closer _ completed
  have doomed := HostIdentity.doomed_holds closed
    ((known closer _ closes).2 sessionId rfl)
    (fun thread phase running => (known thread phase running).1)
    (mirrors.quiet quiet)
  have start : Shut sessionId config mirror [] config :=
    ⟨fun thread phase running => ⟨phase, running, Nat.le_refl _⟩,
      [], mirror, .refl, mirrors⟩
  have permitted := @Machine.Run.history _ _ _ _ _
    (Shut sessionId config mirror) (fun _ => Permitted config sessionId) start
    (fun _ _ _ _ _ shut stepped => shut.step stepped)
    (fun _ _ _ _ _ shut stepped _ _ _ split =>
      shut.permitted mirrors doomed stepped (by simp [split]))
    _ _ _ continued
  intro thread connection credential sent own
  obtain ⟨before, after, split⟩ := List.append_of_mem sent
  exact permitted before _ after split thread connection credential rfl own

/-- The key has been accepted, and then the session is closed. -/
def closedConnection : List (ThreadAction (Phase HostKeyScheme.sample) Choice) :=
  acceptedConnection.dropLast ++
    [.spawn 2 (.calling (.entered (.cancelSession "session"))),
      .advance 2 {}, .advance 2 {}]

theorem closed_session_withholds_accepted : ∃ config log final later,
    (connections .sample).machine.Run (initial none) closedConnection log
      config ∧
    (connections .sample).machine.Run config [.advance 0 {}] later final ∧
    .offered 0 sampleConnection (.password "root" "secret") ∈ later ∧
    LetThrough config "session" 0 := by
  obtain ⟨config, log, final, later, run, completed, first, second, rest,
      continued, sent⟩ : ∃ config log final later,
        (connections .sample).machine.Run (initial none) closedConnection log
          config ∧
        config.threads 2 =
          some (.calling (.returned (.cancelSession "session") .done)) ∧
        (config.threads 0).bind Phase.call? = none ∧
        (config.threads 1).bind Phase.call? =
          some (.returned (.accept "challenge") (.result (.ok ()))) ∧
        (∀ thread, config.threads (thread + 3) = none) ∧
        (connections .sample).machine.Run config [.advance 0 {}] later final ∧
        later = [.reported 0 .authenticating,
          .offered 0 sampleConnection (.password "root" "secret")] :=
    ⟨_, _, _, _, Machine.run_of_execute rfl, rfl, rfl, rfl, fun _ => rfl,
      Machine.run_of_execute rfl, rfl⟩
  have quiet : HostIdentity.NoAcceptInFlight (calls config) "session" := by
    intro thread phase running other blocked otherRuns undecided
    have found : (config.threads other).bind Phase.call? = some blocked :=
      otherRuns
    match other with
    | 0 => cases first.symm.trans found
    | 1 =>
        obtain rfl := Option.some.inj (second.symm.trans found)
        exact undecided.1.elim
    | 2 =>
        rw [completed] at found
        obtain rfl := Option.some.inj found
        exact undecided.1.elim
    | other + 3 => simp [rest] at found
  have offered : .offered 0 sampleConnection (.password "root" "secret") ∈
      later := by simp [sent]
  exact ⟨config, log, final, later, run, continued, offered,
    closed_session_withholds run completed quiet continued 0 _ _ offered rfl⟩

end Transport

end TitanSSH
