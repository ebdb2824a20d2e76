import TitanSSH.Core.HostIdentity.Custody

namespace TitanSSH

namespace HostIdentity

variable {scheme : HostKeyScheme}

/-! While all verifications of a session are for one endpoint, its only pending
challenge is the one that a verification attends to, and no decision that has
been answered names it. -/

def Request.names : Request scheme → Option String
  | .accept challengeId => some challengeId
  | .acceptAndSave challengeId => some challengeId
  | .reject challengeId => some challengeId
  | _ => none

/-- The challenge that the decision named which has returned. -/
def Phase.names : Phase scheme → Option String
  | .returned request _ => request.names
  | _ => none

/-- The response leaves nothing to decide: the decision took the challenge, or
there was none to take. -/
def Response.resolves : Response → Bool
  | .result (.ok _) => true
  | .result (.error error) => error.kind == .hostKeyChallengeNotFound
  | .rejected (.ok _) => true
  | .rejected (.error error) => error.kind == .hostKeyChallengeNotFound
  | _ => false

/-- The challenge has been given out and is not pending any more. -/
def Resolved (shared : IdentityShared scheme) (challengeId : String) : Prop :=
  challengeId ∈ shared.issued ∧
    ∀ wait ∈ shared.state.pending, wait.id ≠ challengeId

/-- A verification is for the endpoint of its session, and a decision names a
challenge that has been given out. -/
def Request.Fits (endpoint : String → String × UInt16)
    (issued : Finset String) : Request scheme → Prop
  | .verify sessionId presented =>
      (presented.host, presented.port) = endpoint sessionId
  | .accept challengeId => challengeId ∈ issued
  | .acceptAndSave challengeId => challengeId ∈ issued
  | .reject challengeId => challengeId ∈ issued
  | _ => True

def Phase.Fits (endpoint : String → String × UInt16)
    (shared : IdentityShared scheme) : Phase scheme → Prop
  | .entered request => request.Fits endpoint shared.issued
  | .lookup sessionId presented =>
      (presented.host, presented.port) = endpoint sessionId
  | .unmatched sessionId presented _ =>
      (presented.host, presented.port) = endpoint sessionId
  | .deciding _ _ _ next => next.Fits endpoint shared
  | .returned request response => response.resolves = true →
      ∀ challengeId, request.names = some challengeId →
        Resolved shared challengeId
  | _ => True

variable {endpoint : String → String × UInt16}
variable {thread : ℕ} {choice : Choice}
variable {shared next : IdentityShared scheme}
variable {phase after : Phase scheme} {events log : List (Event scheme)}

theorem Request.Fits.issued {request : Request scheme}
    {issued : Finset String} {challengeId : String}
    (fits : request.Fits endpoint issued)
    (named : request.names = some challengeId) : challengeId ∈ issued := by
  cases request <;> simp only [names, reduceCtorEq, Option.some.injEq] at named
  all_goals exact named ▸ fits

theorem Request.Fits.mono {request : Request scheme}
    {issued later : Finset String} (fits : request.Fits endpoint issued)
    (subset : issued ⊆ later) : request.Fits endpoint later := by
  cases request with
  | accept challengeId => exact subset fits
  | acceptAndSave challengeId => exact subset fits
  | reject challengeId => exact subset fits
  | _ => exact fits

theorem Resolved.step {challengeId : String}
    (resolved : Resolved shared challengeId)
    (move : Move thread shared phase next after events) :
    Resolved next challengeId := by
  refine ⟨move.issued_subset resolved.1, ?_⟩
  rintro wait pending rfl
  cases move.pending_fresh pending with
  | inl before => exact resolved.2 wait before rfl
  | inr fresh => exact fresh resolved.1

theorem Phase.Fits.step {waiting : Phase scheme}
    (fits : waiting.Fits endpoint shared)
    (move : Move thread shared phase next after events) :
    waiting.Fits endpoint next := by
  induction waiting with
  | entered request => exact Request.Fits.mono fits move.issued_subset
  | deciding decision own others later induction => exact induction fits
  | returned request response =>
      exact fun resolves challengeId named =>
        (fits resolves challengeId named).step move
  | _ => exact fits

theorem resolved_of_missing {challengeId : String}
    (issued : challengeId ∈ shared.issued)
    (missing : shared.state.find? challengeId = none) :
    Resolved shared challengeId := by
  refine ⟨issued, fun wait pending same => ?_⟩
  have refused := List.find?_eq_none.mp missing wait pending
  simp [same] at refused

/-- A decision that returns at once found no challenge to take, if it says so. -/
theorem stepRequest_missing {request : Request scheme} {response : Response}
    {challengeId : String}
    (stepped : stepRequest thread choice shared request =
      (next, .returned request response, events))
    (resolves : response.resolves = true)
    (named : request.names = some challengeId) :
    shared.state.find? challengeId = none := by
  cases found : shared.state.find? challengeId with
  | none => rfl
  | some wait =>
      exfalso
      cases request with
      | accept other =>
          obtain rfl := Option.some.inj named
          simp [stepRequest, stepAccept, found] at stepped
      | reject other =>
          obtain rfl := Option.some.inj named
          simp [stepRequest, stepReject, found] at stepped
      | acceptAndSave other =>
          obtain rfl := Option.some.inj named
          simp only [stepRequest, stepAcceptAndSave, found] at stepped
          split at stepped
          · simp only [respond, Prod.mk.injEq, Phase.returned.injEq] at stepped
            obtain ⟨-, ⟨-, rfl⟩, -⟩ := stepped
            cases resolves
          · split at stepped
            · simp only [respond, Prod.mk.injEq, Phase.returned.injEq] at stepped
              obtain ⟨-, ⟨-, rfl⟩, -⟩ := stepped
              cases resolves
            · simp at stepped
      | _ => cases named

theorem resolved_of_taken {state : IdentityState scheme} {challengeId : String}
    {wait : ChallengeWait scheme}
    (issued : challengeId ∈ next.issued)
    (found : state.find? challengeId = some wait)
    (left : ∀ other ∈ next.state.pending,
      other ∈ (state.removeAll [wait]).pending) :
    Resolved next challengeId := by
  refine ⟨issued, fun other pending same => ?_⟩
  have kept := of_decide_eq_true (List.mem_filter.mp (left other pending)).2
  apply kept
  simp [same, (IdentityState.find?_some found).2]

/-- What a call's own step leaves true of it. -/
theorem step_fits
    (stepped : HostIdentity.step thread choice shared phase =
      some (next, after, events))
    (fits : phase.Fits endpoint shared) : after.Fits endpoint next := by
  cases step_move stepped with
  | entering unknown => exact fits
  | storeMissing missing => exact fits
  | lookupUnmatched known same found different => exact fits
  | @acceptedOnce challengeId wait found =>
      rintro - other named
      obtain rfl := Option.some.inj named
      exact resolved_of_taken fits found fun _ member => member
  | @acceptedAndSaved challengeId wait store later found known saved =>
      rintro - other named
      obtain rfl := Option.some.inj named
      exact resolved_of_taken fits found fun _ member =>
        List.mem_of_mem_filter member
  | @rejectedOne challengeId wait found =>
      rintro - other named
      obtain rfl := Option.some.inj named
      exact resolved_of_taken fits found fun _ member => member
  | @declined request response later other same =>
      intro resolves challengeId named
      have returned : stepRequest thread choice shared request =
          ({ shared with trustStore := later }, .returned request response,
            [.returned thread request response]) := Option.some.inj stepped
      have missing := stepRequest_missing returned resolves named
      exact resolved_of_missing (Request.Fits.issued fits named) missing
  | decidedOwn => exact Phase.Fits.step fits (step_move stepped)
  | decidedOther taken => exact Phase.Fits.step fits (step_move stepped)
  | resumed => exact fits
  | closed => exact fun _ _ named => by cases named
  | forgotten known removed => exact fun _ _ named => by cases named
  | cancelledAll => exact fun _ _ named => by cases named
  | answered known => exact fun _ _ named => by cases named
  | lookupFailed known => exact fun _ _ named => by cases named
  | matchedClosed closed => exact fun _ _ named => by cases named
  | matchedTrusted opened => exact fun _ _ named => by cases named
  | answeredLate known => exact fun _ _ named => by cases named
  | awaited decided => exact fun _ _ named => by cases named
  | _ => trivial

theorem Move.attends (move : Move thread shared phase next after events)
    {wait : ChallengeWait scheme} (attached : phase.attached = some wait) :
    after.attached = some wait ∨
      ∃ decision, shared.decisions wait = some decision := by
  cases move with
  | announced => exact .inl attached
  | awaited decided =>
      obtain rfl := Option.some.inj attached
      exact .inr ⟨_, decided⟩
  | decidedOwn => exact .inl attached
  | decidedOther taken => exact .inl attached
  | resumed => exact .inl attached
  | _ => cases attached

/-- A challenge becomes pending as the verification that raises it attends to
it. -/
theorem Move.raises (move : Move thread shared phase next after events)
    {wait : ChallengeWait scheme} (pending : wait ∈ next.state.pending) :
    wait ∈ shared.state.pending ∨
      ∃ sessionId presented stored uuid now,
        phase = .unmatched sessionId presented stored ∧
        wait = .create sessionId presented stored uuid now ∧
        after.attached = some wait := by
  cases move with
  | challenged unknown unindexed fresh =>
      cases List.mem_append.mp pending with
      | inl before => exact .inl (List.mem_of_mem_filter before)
      | inr created =>
          obtain rfl := List.mem_singleton.mp created
          exact .inr ⟨_, _, _, _, _, rfl, rfl, rfl⟩
  | acceptedOnce found => exact .inl (List.mem_of_mem_filter pending)
  | acceptedAndSaved found known saved =>
      exact .inl (List.mem_of_mem_filter (List.mem_of_mem_filter pending))
  | rejectedOne found => exact .inl (List.mem_of_mem_filter pending)
  | closed => exact .inl (List.mem_of_mem_filter pending)
  | withdrawn taken found => exact .inl (List.mem_of_mem_filter pending)
  | _ => exact .inl pending

theorem Phase.Shaped.verifies {wait : ChallengeWait scheme}
    (shaped : phase.Shaped) (attached : phase.attached = some wait) :
    phase.Verifies wait.challenge.sessionId := by
  induction phase with
  | announcing sessionId presented other =>
      obtain rfl := Option.some.inj attached
      exact (ChallengeWait.session_of_key shaped).symm
  | waiting sessionId presented other =>
      obtain rfl := Option.some.inj attached
      exact (ChallengeWait.session_of_key shaped).symm
  | deciding decision own others later induction =>
      exact induction shaped.1 attached
  | _ => cases attached

structure Attended (endpoint : String → String × UInt16)
    (log : List (Event scheme)) (config : ServiceConfig scheme) : Prop where
  registered : Registered log config
  fits : ∀ thread phase, config.threads thread = some phase →
    phase.Fits endpoint config.shared
  aimed : ∀ wait ∈ config.shared.state.pending,
    (wait.challenge.host, wait.challenge.port) =
      endpoint wait.challenge.sessionId
  attended : ∀ wait ∈ config.shared.state.pending, ∃ thread phase,
    config.threads thread = some phase ∧ phase.attached = some wait

theorem initial_attended (endpoint : String → String × UInt16)
    (trustStore : Option TrustStore) :
    Attended endpoint [] (initial trustStore : ServiceConfig scheme) where
  registered := initial_registered trustStore
  fits := fun _ _ running => by cases running
  aimed := fun _ pending => by cases pending
  attended := fun _ pending => by cases pending

variable {config final : ServiceConfig scheme}

theorem Registered.undecided {wait : ChallengeWait scheme}
    (registered : Registered log config)
    (pending : wait ∈ config.shared.state.pending) :
    config.shared.decisions wait = none := by
  obtain ⟨place, placed, -⟩ := registered.placed wait
  obtain rfl := placed.pending.mp pending
  exact placed.decision

theorem Attended.step
    {action : Interleaving.ThreadAction (Phase scheme) Choice}
    (attended : Attended endpoint log config)
    (opened : ∀ thread request, action = .spawn thread (.entered request) →
      request.Fits endpoint config.shared.issued)
    (stepped : (service scheme).machine.step config action =
      some (final, events)) : Attended endpoint (log ++ events) final := by
  have registered := attended.registered.step stepped
  rcases Interleaving.Program.machine_step_cases stepped with
    ⟨thread, start, rfl, free, admitted, rfl, rfl⟩ |
    ⟨thread, choice, current, shared, after, -, running, moved, rfl⟩
  · cases start with
    | entered request =>
        refine ⟨registered, Interleaving.everywhere_update
          (opened thread request rfl) fun other phase _ found =>
            attended.fits other phase found, attended.aimed, ?_⟩
        intro wait pending
        obtain ⟨other, phase, found, attached⟩ := attended.attended wait pending
        have different : other ≠ thread := by
          rintro rfl
          simp [free] at found
        exact ⟨other, phase, by simpa [different] using found, attached⟩
    | _ => simp [service] at admitted
  · have move := step_move moved
    refine ⟨registered, ?_, ?_, ?_⟩
    · exact Interleaving.everywhere_update
        (step_fits moved (attended.fits thread current running))
        fun other phase _ found => (attended.fits other phase found).step move
    · intro wait pending
      rcases move.raises pending with
        before | ⟨sessionId, presented, stored, uuid, now, rfl, rfl, -⟩
      · exact attended.aimed wait before
      · exact attended.fits thread _ running
    · intro wait pending
      rcases move.raises pending with
        before | ⟨sessionId, presented, stored, uuid, now, -, -, attached⟩
      · obtain ⟨other, phase, found, attached⟩ :=
          attended.attended wait before
        rcases eq_or_ne other thread with rfl | different
        · obtain rfl := Option.some.inj (running.symm.trans found)
          cases move.attends attached with
          | inl kept => exact ⟨other, after, by simp, kept⟩
          | inr decided =>
              obtain ⟨decision, decided⟩ := decided
              rw [attended.registered.undecided before] at decided
              cases decided
        · exact ⟨other, phase, by simpa [different] using found, attached⟩
      · exact ⟨thread, after, by simp, attached⟩

theorem Attended.only {wait other : ChallengeWait scheme}
    (attended : Attended endpoint log config)
    (pending : wait ∈ config.shared.state.pending)
    (present : other ∈ config.shared.state.pending)
    (same : wait.challenge.sessionId = other.challenge.sessionId) :
    wait = other := by
  have aimed := (attended.aimed wait pending).trans
    ((congrArg endpoint same).trans (attended.aimed other present).symm)
  exact attended.registered.oneEach wait pending other present same
    (congrArg Prod.fst aimed) (congrArg Prod.snd aimed)

theorem Attended.verified {wait : ChallengeWait scheme}
    (attended : Attended endpoint log config)
    (pending : wait ∈ config.shared.state.pending) :
    ∃ thread phase, config.threads thread = some phase ∧
      phase.Verifies wait.challenge.sessionId := by
  obtain ⟨thread, phase, running, attached⟩ := attended.attended wait pending
  exact ⟨thread, phase, running,
    (attended.registered.held.2 thread phase running).1.verifies attached⟩

end HostIdentity

end TitanSSH
