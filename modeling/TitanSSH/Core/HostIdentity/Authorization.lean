import TitanSSH.Core.HostIdentity.Registry

namespace TitanSSH

namespace HostIdentity

variable {scheme : HostKeyScheme}

/-! Why a verification may succeed: what the log must hold for a key. -/

/-- A verification of the session found a record that is exactly this key. -/
def FoundMatching (log : List (Event scheme)) (sessionId : String)
    (presented : PresentedHostKey scheme) : Prop :=
  ∃ thread other record,
    .lookedUp thread sessionId other (some record) ∈ log ∧
    other.host = presented.host ∧ other.port = presented.port ∧
    other.blob = presented.blob ∧
    record.matchesKey presented.host presented.port presented.algorithm
      presented.blob = true

/-- A challenge of the session, endpoint and fingerprint was accepted. -/
def AcceptedHere (log : List (Event scheme)) (sessionId : String)
    (presented : PresentedHostKey scheme) : Prop :=
  ∃ thread wait, wait.key = .ofPresented sessionId presented ∧
    (.accepted thread wait ∈ log ∨
      ∃ previous, .saved thread wait previous ∈ log)

/-- The same key was saved through a challenge of another session. -/
def SavedElsewhere (log : List (Event scheme)) (sessionId : String)
    (presented : PresentedHostKey scheme) : Prop :=
  ∃ thread wait previous, .saved thread wait previous ∈ log ∧
    wait.challenge.sessionId ≠ sessionId ∧
    wait.record = ⟨presented.host, presented.port, presented.algorithm,
      presented.blob⟩

def Authorized (log : List (Event scheme)) (key : IdentityKey) : Prop :=
  (∃ thread presented,
    .lookedUp thread key.sessionId presented (some ⟨presented.host,
      presented.port, presented.algorithm, presented.blob⟩) ∈ log ∧
    key = .ofPresented key.sessionId presented) ∨
  (∃ thread wait, wait.key = key ∧ (.accepted thread wait ∈ log ∨
    ∃ previous, .saved thread wait previous ∈ log)) ∨
  ∃ thread wait previous, ∃ own : ChallengeWait scheme,
    .saved thread wait previous ∈ log ∧ own.key = key ∧
      own.record = wait.record

theorem Authorized.append {log : List (Event scheme)} {key : IdentityKey}
    (authorized : Authorized log key) (events : List (Event scheme)) :
    Authorized (log ++ events) key := by
  rcases authorized with ⟨thread, presented, member, same⟩ |
    ⟨thread, wait, same, accepted | ⟨previous, saved⟩⟩ |
    ⟨thread, wait, previous, own, saved, same, record⟩
  · exact .inl ⟨thread, presented, List.mem_append_left _ member, same⟩
  · exact .inr (.inl ⟨thread, wait, same,
      .inl (List.mem_append_left _ accepted)⟩)
  · exact .inr (.inl ⟨thread, wait, same,
      .inr ⟨previous, List.mem_append_left _ saved⟩⟩)
  · exact .inr (.inr ⟨thread, wait, previous, own,
      List.mem_append_left _ saved, same, record⟩)

theorem record_injective {left right : PresentedHostKey scheme}
    {sessionId : String}
    (same : IdentityKey.ofPresented sessionId left =
      .ofPresented sessionId right) :
    left.host = right.host ∧ left.port = right.port ∧
      left.algorithm = right.algorithm ∧ left.blob = right.blob := by
  simp only [IdentityKey.ofPresented, IdentityKey.mk.injEq, true_and] at same
  obtain ⟨hostEq, portEq, fingerprintEq⟩ := same
  rw [left.fingerprint_eq, right.fingerprint_eq] at fingerprintEq
  have blobEq := scheme.fingerprintSha256_injective fingerprintEq
  exact ⟨hostEq, portEq, by
    rw [left.algorithm_eq, right.algorithm_eq, blobEq], blobEq⟩

theorem key_of_record {left right : ChallengeWait scheme}
    (session : left.challenge.sessionId = right.challenge.sessionId)
    (same : left.record = right.record) : left.key = right.key := by
  simp only [ChallengeWait.record, TrustRecord.mk.injEq] at same
  obtain ⟨hostEq, portEq, -, blobEq⟩ := same
  simp only [ChallengeWait.key, IdentityKey.fromChallenge, session, hostEq,
    portEq, left.fingerprint_eq, right.fingerprint_eq, blobEq]

theorem Authorized.routes {log : List (Event scheme)} {sessionId : String}
    {presented : PresentedHostKey scheme}
    (authorized : Authorized log (.ofPresented sessionId presented)) :
    FoundMatching log sessionId presented ∨
      AcceptedHere log sessionId presented ∨
      SavedElsewhere log sessionId presented := by
  rcases authorized with ⟨thread, other, member, same⟩ | accepted |
    ⟨thread, wait, previous, own, saved, same, record⟩
  · left
    obtain ⟨hostEq, portEq, algorithmEq, blobEq⟩ := record_injective same
    refine ⟨thread, other, _, member, hostEq.symm, portEq.symm, blobEq.symm, ?_⟩
    rw [TrustRecord.matchesKey_iff, hostEq, portEq, algorithmEq, blobEq]
  · exact .inr (.inl accepted)
  · right
    have presentedRecord := ChallengeWait.record_of_key same
    by_cases here : wait.challenge.sessionId = sessionId
    · left
      have ownSession := ChallengeWait.session_of_key same
      have keyEq := key_of_record (ownSession.trans here.symm) record
      exact ⟨thread, wait, keyEq.symm.trans same, .inr ⟨previous, saved⟩⟩
    · exact .inr ⟨thread, wait, previous, saved, here,
        record.symm.trans presentedRecord⟩

/-! The outline: trust and acceptance are only ever given to authorized keys. -/

/-- What is known of a call between two of its sections. -/
def Phase.Authorized (log : List (Event scheme)) : Phase scheme → Prop
  | .matched sessionId presented =>
      HostIdentity.Authorized log (.ofPresented sessionId presented)
  | .announcing sessionId presented wait =>
      wait.key = .ofPresented sessionId presented
  | .waiting sessionId presented wait =>
      wait.key = .ofPresented sessionId presented
  | .deciding decision own others next =>
      next.Authorized log ∧ (decision = .accepted →
        ∀ wait, own = some wait ∨ wait ∈ others →
          HostIdentity.Authorized log wait.key)
  | .returned request response =>
      ∀ sessionId presented, request = .verify sessionId presented →
        response = .result (.ok ()) →
          HostIdentity.Authorized log (.ofPresented sessionId presented)
  | _ => True

theorem Phase.Authorized.append {log : List (Event scheme)}
    {phase : Phase scheme} (authorized : phase.Authorized log)
    (events : List (Event scheme)) : phase.Authorized (log ++ events) := by
  induction phase with
  | matched sessionId presented =>
      exact HostIdentity.Authorized.append authorized events
  | deciding decision own others next induction =>
      refine ⟨induction authorized.1, ?_⟩
      intro accepted wait targeted
      exact (authorized.2 accepted wait targeted).append events
  | announcing sessionId presented wait => exact authorized
  | waiting sessionId presented wait => exact authorized
  | returned request response =>
      intro sessionId presented asked answered
      exact (authorized sessionId presented asked answered).append events
  | _ => trivial

structure AuthorizedState (log : List (Event scheme))
    (shared : IdentityShared scheme) : Prop where
  wellFormed : shared.state.WellFormed shared.issued
  trusted : ∀ key ∈ shared.state.trusted, Authorized log key
  decided : ∀ wait, shared.decisions wait = some .accepted →
    Authorized log wait.key

theorem AuthorizedState.append {log : List (Event scheme)}
    {shared : IdentityShared scheme} (authorized : AuthorizedState log shared)
    (events : List (Event scheme)) :
    AuthorizedState (log ++ events) shared where
  wellFormed := authorized.wellFormed
  trusted key member := (authorized.trusted key member).append events
  decided wait accepted := (authorized.decided wait accepted).append events

variable {thread : ℕ} {shared next : IdentityShared scheme}
variable {phase after : Phase scheme} {events log : List (Event scheme)}

theorem settled_ok {state : IdentityState scheme} {sessionId : String}
    {presented : PresentedHostKey scheme}
    (known : settled state sessionId presented = some (.ok ())) :
    sessionId ∉ state.cancelled ∧
      .ofPresented sessionId presented ∈ state.trusted := by
  unfold settled at known
  split at known
  · simp at known
  · rename_i opened
    split at known
    · rename_i trusted
      exact ⟨opened, trusted⟩
    · simp at known

theorem releasedBy_record {state : IdentityState scheme}
    {wait other : ChallengeWait scheme}
    (released : other ∈ state.releasedBy wait) : other.record = wait.record := by
  have same := (List.mem_filter.mp released).2
  simp only [Bool.and_eq_true, beq_iff_eq] at same
  obtain ⟨⟨⟨hostEq, portEq⟩, algorithmEq⟩, blobEq⟩ := same
  rw [ChallengeWait.record, hostEq, portEq, algorithmEq, blobEq]
  rfl

theorem AuthorizedState.decide {wait : ChallengeWait scheme}
    {decision : Decision} (authorized : AuthorizedState log shared)
    (target : decision = .accepted → Authorized log wait.key) :
    AuthorizedState log (decide shared wait decision) where
  wellFormed := authorized.wellFormed
  trusted := authorized.trusted
  decided other accepted := by
    simp only [HostIdentity.decide] at accepted
    rcases eq_or_ne other wait with rfl | different
    · rw [Function.update_self] at accepted
      exact target (Option.some.inj accepted)
    · rw [Function.update_of_ne different] at accepted
      exact authorized.decided other accepted

theorem trusted_insert {state : IdentityState scheme} {key : IdentityKey}
    (trusted : ∀ known ∈ state.trusted, Authorized log known)
    (own : Authorized log key) :
    ∀ known ∈ (state.trust key).trusted, Authorized log known := by
  intro known member
  rcases Finset.mem_insert.mp member with rfl | before
  · exact own
  · exact trusted known before

theorem settled_authorized {sessionId : String}
    {presented : PresentedHostKey scheme} {outcome : Except AppError Unit}
    (state : AuthorizedState log shared)
    (known : settled shared.state sessionId presented = some outcome) :
    Phase.Authorized log
      (.returned (.verify sessionId presented) (.result outcome)) := by
  intro otherSession otherKey asked answered
  obtain ⟨rfl, rfl⟩ := Request.verify.inj asked
  obtain rfl := Response.result.inj answered
  exact state.trusted _ (settled_ok known).2

theorem returned_error (sessionId : String)
    (presented : PresentedHostKey scheme) (error : AppError) :
    Phase.Authorized log
      (.returned (.verify sessionId presented) (.result (.error error))) := by
  intro _ _ _ answered
  cases answered

theorem returned_other {request : Request scheme} {response : Response}
    (other : ∀ sessionId presented, request ≠ .verify sessionId presented) :
    Phase.Authorized log (.returned request response) := by
  intro sessionId presented asked
  exact absurd asked (other sessionId presented)

/-- What a step establishes, for the shared state and for the call. -/
theorem Move.authorized (move : Move thread shared phase next after events)
    (state : AuthorizedState log shared) (current : phase.Authorized log) :
    AuthorizedState (log ++ events) next ∧ after.Authorized (log ++ events) := by
  have registry := move.registry state.wellFormed
  have later := state.append events
  cases move with
  | answered known => exact ⟨later, settled_authorized later known⟩
  | entering unknown => exact ⟨later, trivial⟩
  | storeMissing missing => exact ⟨later, trivial⟩
  | lookupFailed known => exact ⟨later, returned_error _ _ _⟩
  | @lookupMatched sessionId presented store found record known same recorded
      matching =>
      subst matching
      refine ⟨⟨registry, later.trusted, later.decided⟩, .inl ?_⟩
      exact ⟨thread, presented, by simp [IdentityKey.ofPresented], rfl⟩
  | lookupUnmatched known same found different =>
      exact ⟨⟨registry, later.trusted, later.decided⟩, trivial⟩
  | matchedClosed closed => exact ⟨later, returned_error _ _ _⟩
  | @matchedTrusted sessionId presented opened =>
      have own := HostIdentity.Authorized.append current
        [.returned thread (.verify sessionId presented) (.result (.ok ()))]
      refine ⟨⟨registry, trusted_insert later.trusted own, later.decided⟩, ?_⟩
      intro _ _ asked _
      obtain ⟨rfl, rfl⟩ := Request.verify.inj asked
      exact own
  | answeredLate known => exact ⟨later, settled_authorized later known⟩
  | merged unknown indexed found =>
      exact ⟨later, state.wellFormed.key_of_indexed indexed found⟩
  | panicked indexed missing => exact ⟨later, trivial⟩
  | @challenged sessionId presented stored uuid now unknown unindexed fresh =>
      refine ⟨⟨registry, later.trusted, ?_⟩, rfl, by simp⟩
      intro wait accepted
      rcases eq_or_ne wait (.create sessionId presented stored uuid now) with
        rfl | different
      · simp at accepted
      · dsimp only at accepted
        rw [Function.update_of_ne different] at accepted
        exact later.decided wait accepted
  | announced => exact ⟨later, current⟩
  | @awaited sessionId presented wait decision decided =>
      refine ⟨later, ?_⟩
      intro _ _ asked answered
      obtain ⟨rfl, rfl⟩ := Request.verify.inj asked
      cases decision with
      | accepted =>
          have own := later.decided wait decided
          rw [show wait.key = .ofPresented sessionId presented from current] at own
          exact own
      | rejected => cases answered
      | cancelled => cases answered
  | @acceptedOnce challengeId wait found =>
      have own : HostIdentity.Authorized (log ++ [.accepted thread wait])
          wait.key :=
        .inr (.inl ⟨thread, wait, rfl, .inl (by simp)⟩)
      refine ⟨⟨registry, trusted_insert later.trusted own, later.decided⟩,
        returned_other (by simp), ?_⟩
      rintro - other (same | targeted)
      · obtain rfl := Option.some.inj same
        exact own
      · simp at targeted
  | @acceptedAndSaved challengeId wait store written found known saved =>
      have logged : .saved thread wait (store.recordAt wait.challenge.host
          wait.challenge.port) ∈ log ++ [.saved thread wait (store.recordAt
            wait.challenge.host wait.challenge.port)] := by simp
      have own : HostIdentity.Authorized _ wait.key :=
        .inr (.inl ⟨thread, wait, rfl, .inr ⟨_, logged⟩⟩)
      refine ⟨⟨registry, trusted_insert later.trusted own, later.decided⟩,
        returned_other (by simp), ?_⟩
      rintro - other (same | targeted)
      · obtain rfl := Option.some.inj same
        exact own
      · exact .inr (.inr ⟨thread, wait, _, other, logged, rfl,
          releasedBy_record targeted⟩)
  | rejectedOne found =>
      exact ⟨⟨registry, later.trusted, later.decided⟩, returned_other (by simp),
        by simp⟩
  | closed =>
      refine ⟨⟨registry, ?_, later.decided⟩, returned_other (by simp), by simp⟩
      intro key member
      exact later.trusted key (Finset.mem_of_mem_filter key member)
  | cancellingAll => exact ⟨later, trivial⟩
  | cancelledAll => exact ⟨later, returned_other (by simp)⟩
  | skipped taken missing => exact ⟨later, trivial⟩
  | withdrawn taken found =>
      exact ⟨⟨registry, later.trusted, later.decided⟩, trivial, by simp⟩
  | forgotten known removed =>
      exact ⟨⟨registry, later.trusted, later.decided⟩, returned_other (by simp)⟩
  | declined other same =>
      refine ⟨⟨registry, later.trusted, later.decided⟩, returned_other ?_⟩
      rintro sessionId presented rfl
      cases other
  | @decidedOwn decision wait others resumed =>
      have still := Phase.Authorized.append current [Event.decided wait decision]
      refine ⟨later.decide fun accepted => still.2 accepted wait (.inl rfl),
        still.1, ?_⟩
      intro accepted other either
      cases either with
      | inl impossible => cases impossible
      | inr targeted => exact still.2 accepted other (.inr targeted)
  | @decidedOther decision wait others rest resumed taken =>
      have still := Phase.Authorized.append current [Event.decided wait decision]
      have targets : ∀ other, other = wait ∨ other ∈ rest → other ∈ others := by
        intro other targeted
        exact taken.mem_iff.mpr (List.mem_cons.mpr targeted)
      refine ⟨later.decide fun accepted => still.2 accepted wait
        (.inr (targets wait (.inl rfl))), still.1, ?_⟩
      intro accepted other either
      cases either with
      | inl impossible => cases impossible
      | inr targeted =>
          exact still.2 accepted other (.inr (targets other (.inr targeted)))
  | resumed => exact ⟨later, Phase.Authorized.append current.1 _⟩

def authorization (scheme : HostKeyScheme) : (service scheme).Outline where
  shared log state := AuthorizedState log state
  phase log _ _ current := current.Authorized log
  opening := by
    intro log state thread start holds admitted
    refine ⟨holds.append _, ?_, ?_⟩
    · cases start with
      | entered request => trivial
      | _ => simp [service] at admitted
    · intro other current _ before
      exact before.append _
  stepping := by
    intro log state thread choice current next after events holds before stepped
    obtain ⟨shared, own⟩ := (step_move stepped).authorized holds before
    refine ⟨shared, own, ?_⟩
    intro other waiting _ kept
    exact kept.append events

theorem initial_authorized (trustStore : Option TrustStore) :
    (authorization scheme).Holds [] (initial trustStore) := by
  refine ⟨⟨IdentityState.empty_wellFormed _, ?_, ?_⟩, ?_⟩
  · simp [initial, IdentityState.empty]
  · simp [initial]
  · simp [initial]

theorem Move.returned_verify {other : ℕ} {sessionId : String}
    {presented : PresentedHostKey scheme} {response : Response}
    (move : Move thread shared phase next after events)
    (logged : .returned other (.verify sessionId presented) response ∈
      events) :
    events = [.returned other (.verify sessionId presented) response] ∧
      after = .returned (.verify sessionId presented) response := by
  cases move with
  | resumed =>
      cases after with
      | returned request answer =>
          obtain ⟨rfl, rfl, rfl⟩ :=
            Event.returned.inj (List.mem_singleton.mp logged)
          exact ⟨rfl, rfl⟩
      | _ => cases logged
  | declined declinable same =>
      obtain ⟨rfl, rfl, rfl⟩ := Event.returned.inj (List.mem_singleton.mp logged)
      cases declinable
  | _ => simp_all

/-- How the end of a verification is explained by what happened before. -/
def ExplainsSuccess (before : List (Event scheme)) (event : Event scheme) :
    Prop :=
  ∀ thread sessionId presented,
    event = .returned thread (.verify sessionId presented) (.result (.ok ())) →
      Authorized before (.ofPresented sessionId presented)

theorem Authorized.of_returned {key : IdentityKey} {request : Request scheme}
    {response : Response}
    (authorized : Authorized (log ++ [.returned thread request response]) key) :
    Authorized log key := by
  simpa [Authorized] using authorized

theorem Move.explainsSuccess (move : Move thread shared phase next after events)
    (state : AuthorizedState log shared) (current : phase.Authorized log)
    {before later : List (Event scheme)} {event : Event scheme}
    (split : events = before ++ event :: later) :
    ExplainsSuccess (log ++ before) event := by
  rintro other sessionId presented rfl
  obtain ⟨single, returned⟩ := move.returned_verify
    (split ▸ List.mem_append_right before (List.mem_cons_self ..))
  have own := (move.authorized state current).2
  rw [returned, single] at own
  exact (own sessionId presented rfl rfl).of_returned.append before

/-- Whenever a verification succeeds, the key had been found stored, accepted
in the same session, or saved through another session. -/
theorem verify_authorized {trustStore : Option TrustStore}
    {actions : List (Interleaving.ThreadAction (Phase scheme) Choice)}
    {config : Interleaving.Config (IdentityShared scheme) (Phase scheme)}
    {sessionId : String} {presented : PresentedHostKey scheme}
    {earlier later : List (Event scheme)}
    (run : (service scheme).machine.Run (initial trustStore) actions log config)
    (verified : log = earlier ++
      .returned thread (.verify sessionId presented) (.result (.ok ())) ::
        later) :
    FoundMatching earlier sessionId presented ∨
      AcceptedHere earlier sessionId presented ∨
      SavedElsewhere earlier sessionId presented := by
  have explained : ∀ before event after, log = before ++ event :: after →
      ExplainsSuccess before event := by
    refine (authorization scheme).history ?_ ?_ (initial_authorized trustStore)
      run
    · intro log state thread start _ before event after split
      rintro other sessionId presented rfl
      have member : Event.returned other (.verify sessionId presented)
          (.result (.ok ())) ∈ (service scheme).opened thread start := by
        simp [split]
      cases start <;> simp [service] at member
    · intro log state thread choice current next phase events holds own stepped
        before event after split
      exact (step_move stepped).explainsSuccess holds own split
  exact (explained _ _ _ verified _ _ _ rfl).routes

/-- A connection of one session, and the acceptance that lets it through. -/
def acceptanceRun : List (Interleaving.ThreadAction
    (Phase HostKeyScheme.sample) Choice) :=
  [.spawn 0 (.entered (.verify "session" (HostKeyScheme.sampleKey 0x11))),
    .advance 0 {}, .advance 0 {}, .advance 0 { uuid := "challenge" },
    .advance 0 {}, .advance 0 {},
    .spawn 1 (.entered (.accept "challenge")),
    .advance 1 {}, .advance 1 {}, .advance 1 {}, .advance 0 {}]

theorem verify_authorized_acceptance :
    ∃ config log,
      (service .sample).machine.Run (initial none) acceptanceRun log config ∧
      (FoundMatching (log.take 8) "session" (HostKeyScheme.sampleKey 0x11) ∨
        AcceptedHere (log.take 8) "session" (HostKeyScheme.sampleKey 0x11) ∨
        SavedElsewhere (log.take 8) "session" (HostKeyScheme.sampleKey 0x11)) := by
  have executed : ∃ config log,
      (service .sample).machine.Run (initial none) acceptanceRun log config ∧
      log = log.take 8 ++ [.returned 0 (.verify "session"
        (HostKeyScheme.sampleKey 0x11)) (.result (.ok ()))] :=
    ⟨_, _, Interleaving.Machine.run_of_execute rfl, rfl⟩
  obtain ⟨config, log, run, last⟩ := executed
  exact ⟨config, log, run, verify_authorized run last⟩

end HostIdentity

end TitanSSH
