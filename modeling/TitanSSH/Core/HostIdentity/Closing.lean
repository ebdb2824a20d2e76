import TitanSSH.Core.HostIdentity.Registry

namespace TitanSSH

namespace HostIdentity

variable {scheme : HostKeyScheme}

/-! What closing a session leaves behind, and what it does not reach. -/

/-- The challenge that a verification is, or is about to be, blocked on. -/
def Phase.attached : Phase scheme → Option (ChallengeWait scheme)
  | .announcing _ _ wait => some wait
  | .waiting _ _ wait => some wait
  | .deciding _ _ _ next => next.attached
  | _ => none

/-- The challenges that a call has yet to write an acceptance for. -/
def Phase.toAccept : Phase scheme → List (ChallengeWait scheme)
  | .deciding decision own others next =>
      (if decision = .accepted then own.toList ++ others else []) ++
        next.toAccept
  | _ => []

/-- The call is a verification of the session that has not returned. -/
def Phase.Verifies (sessionId : String) : Phase scheme → Prop
  | .entered (.verify other _) => other = sessionId
  | .lookup other _ => other = sessionId
  | .matched other _ => other = sessionId
  | .unmatched other _ _ => other = sessionId
  | .announcing other _ _ => other = sessionId
  | .waiting other _ _ => other = sessionId
  | .deciding _ _ _ next => next.Verifies sessionId
  | _ => False

/-- The session that the call closes, once its section is behind it. -/
def Phase.closes : Phase scheme → Option String
  | .returned (.cancelSession sessionId) _ => some sessionId
  | .deciding _ _ _ next => next.closes
  | _ => none

/-- A verification is blocked on a challenge for its own key, and only other
calls return after writing decisions. -/
def Phase.Shaped : Phase scheme → Prop
  | .announcing sessionId presented wait =>
      wait.key = .ofPresented sessionId presented
  | .waiting sessionId presented wait =>
      wait.key = .ofPresented sessionId presented
  | .deciding _ _ _ next => next.Shaped ∧
      ∀ sessionId presented response,
        next ≠ .returned (.verify sessionId presented) response
  | _ => True

/-- A closed session has no pending challenge and no trusted key. -/
structure ClosedSessions (shared : IdentityShared scheme) : Prop where
  wellFormed : shared.state.WellFormed shared.issued
  pending : ∀ wait ∈ shared.state.pending,
    wait.challenge.sessionId ∉ shared.state.cancelled
  trusted : ∀ key ∈ shared.state.trusted,
    key.sessionId ∉ shared.state.cancelled

variable {thread : ℕ} {shared next : IdentityShared scheme}
variable {phase after : Phase scheme} {events log : List (Event scheme)}
variable {sessionId : String}

theorem settled_none {state : IdentityState scheme}
    {presented : PresentedHostKey scheme}
    (unknown : settled state sessionId presented = none) :
    sessionId ∉ state.cancelled := by
  intro closed
  simp [settled, closed] at unknown

theorem settled_closed {state : IdentityState scheme}
    {presented : PresentedHostKey scheme} (closed : sessionId ∈ state.cancelled) :
    settled state sessionId presented =
      some (.error (cancelledError sessionId)) := by
  simp [settled, closed]

theorem Move.cancelled (move : Move thread shared phase next after events) :
    shared.state.cancelled ⊆ next.state.cancelled := by
  cases move with
  | closed => exact Finset.subset_insert _ _
  | _ => exact Finset.Subset.refl _

theorem ClosedSessions.trust (closed : ClosedSessions shared)
    {key : IdentityKey} (opened : key.sessionId ∉ shared.state.cancelled) :
    ∀ known ∈ (shared.state.trust key).trusted,
      known.sessionId ∉ shared.state.cancelled := by
  intro known member
  rcases Finset.mem_insert.mp member with rfl | before
  · exact opened
  · exact closed.trusted known before

theorem ClosedSessions.remaining (closed : ClosedSessions shared)
    (targets : List (ChallengeWait scheme)) :
    ∀ wait ∈ (shared.state.removeAll targets).pending,
      wait.challenge.sessionId ∉ shared.state.cancelled := by
  intro wait member
  exact closed.pending wait (List.mem_of_mem_filter member)

theorem ClosedSessions.found (closed : ClosedSessions shared)
    {challengeId : String} {wait : ChallengeWait scheme}
    (found : shared.state.find? challengeId = some wait) :
    wait.challenge.sessionId ∉ shared.state.cancelled :=
  closed.pending wait (IdentityState.find?_some found).1

theorem ClosedSessions.close (closed : ClosedSessions shared)
    (sessionId : String) :
    (∀ wait ∈ (shared.state.close sessionId).pending,
      wait.challenge.sessionId ∉ (shared.state.close sessionId).cancelled) ∧
    ∀ key ∈ (shared.state.close sessionId).trusted,
      key.sessionId ∉ (shared.state.close sessionId).cancelled := by
  constructor
  · intro wait member
    obtain ⟨before, kept⟩ := List.mem_filter.mp member
    rw [IdentityState.close, Finset.mem_insert, not_or]
    refine ⟨?_, closed.pending wait before⟩
    rintro rfl
    apply of_decide_eq_true kept
    exact List.mem_map_of_mem (List.mem_filter.mpr ⟨before, by simp⟩)
  · intro key member
    obtain ⟨before, kept⟩ := Finset.mem_filter.mp member
    rw [IdentityState.close, Finset.mem_insert, not_or]
    exact ⟨kept, closed.trusted key before⟩

theorem Move.closedSessions (move : Move thread shared phase next after events)
    (closed : ClosedSessions shared) : ClosedSessions next := by
  have registry := move.registry closed.wellFormed
  cases move with
  | matchedTrusted opened =>
      exact ⟨registry, closed.pending, closed.trust opened⟩
  | @challenged sessionId presented stored uuid now unknown unindexed fresh =>
      refine ⟨registry, ?_, closed.trusted⟩
      intro wait member
      cases List.mem_append.mp member with
      | inl before => exact closed.remaining _ wait before
      | inr created =>
          obtain rfl := List.mem_singleton.mp created
          exact settled_none unknown
  | acceptedOnce found =>
      exact ⟨registry, closed.remaining _, closed.trust (closed.found found)⟩
  | acceptedAndSaved found known saved =>
      refine ⟨registry, ?_, closed.trust (closed.found found)⟩
      intro wait member
      exact closed.remaining _ wait (List.mem_of_mem_filter member)
  | rejectedOne found => exact ⟨registry, closed.remaining _, closed.trusted⟩
  | closed =>
      obtain ⟨pending, trusted⟩ := closed.close _
      exact ⟨registry, pending, trusted⟩
  | withdrawn taken found =>
      exact ⟨registry, closed.remaining _, closed.trusted⟩
  | _ => exact ⟨registry, closed.pending, closed.trusted⟩

theorem Move.shaped (move : Move thread shared phase next after events)
    (closed : ClosedSessions shared) (shaped : phase.Shaped) :
    after.Shaped := by
  cases move with
  | merged unknown indexed found =>
      exact closed.wellFormed.key_of_indexed indexed found
  | challenged unknown unindexed fresh => exact ⟨rfl, by simp⟩
  | announced => exact shaped
  | acceptedOnce found => exact ⟨trivial, by simp⟩
  | acceptedAndSaved found known saved => exact ⟨trivial, by simp⟩
  | rejectedOne found => exact ⟨trivial, by simp⟩
  | closed => exact ⟨trivial, by simp⟩
  | withdrawn taken found => exact ⟨trivial, by simp⟩
  | decidedOwn => exact shaped
  | decidedOther taken => exact shaped
  | resumed => exact shaped.1
  | _ => trivial

theorem Move.verifies (move : Move thread shared phase next after events)
    (verifies : after.Verifies sessionId) : phase.Verifies sessionId := by
  cases move with
  | entering unknown => exact verifies
  | storeMissing missing => exact verifies
  | lookupMatched known same found matching => exact verifies
  | lookupUnmatched known same found different => exact verifies
  | merged unknown indexed found => exact verifies
  | challenged unknown unindexed fresh => exact verifies
  | announced => exact verifies
  | decidedOwn => exact verifies
  | decidedOther taken => exact verifies
  | resumed => exact verifies
  | _ => exact verifies.elim

theorem Move.verified {presented : PresentedHostKey scheme}
    {response : Response}
    (move : Move thread shared phase next
      (.returned (.verify sessionId presented) response) events)
    (shaped : phase.Shaped) : phase.Verifies sessionId := by
  cases move with
  | declined declinable same => cases declinable
  | resumed => exact absurd rfl (shaped.2 sessionId presented response)
  | _ => rfl

theorem mem_toAccept_deciding {decision : Decision}
    {own : Option (ChallengeWait scheme)}
    {others : List (ChallengeWait scheme)} {resumed : Phase scheme}
    {wait : ChallengeWait scheme} :
    wait ∈ (Phase.deciding decision own others resumed).toAccept ↔
      decision = .accepted ∧ (own = some wait ∨ wait ∈ others) ∨
        wait ∈ resumed.toAccept := by
  rw [Phase.toAccept, List.mem_append]
  by_cases accepting : decision = .accepted
  · simp [accepting]
  · simp [accepting]

theorem Move.closes (move : Move thread shared phase next after events)
    (closing : ∀ session, phase.closes = some session →
      session ∈ shared.state.cancelled) :
    ∀ session, after.closes = some session →
      session ∈ next.state.cancelled := by
  intro session named
  cases move with
  | closed =>
      obtain rfl := Option.some.inj named
      exact Finset.mem_insert_self _ _
  | declined declinable same =>
      rename_i request response stored
      cases request with
      | cancelSession other => cases declinable
      | _ => cases named
  | decidedOwn => exact closing session named
  | decidedOther taken => exact closing session named
  | resumed => exact closing session named
  | _ => simp [Phase.closes] at named

def closing (scheme : HostKeyScheme) : (service scheme).Outline where
  shared _ state := ClosedSessions state
  phase _ state _ current := current.Shaped ∧
    ∀ session, current.closes = some session → session ∈ state.state.cancelled
  opening := by
    intro log state thread start holds admitted
    refine ⟨holds, ?_, fun _ _ _ kept => kept⟩
    cases start with
    | entered request => exact ⟨trivial, by simp [Phase.closes]⟩
    | _ => simp [service] at admitted
  stepping := by
    intro log state thread choice current next after events holds own stepped
    have move := step_move stepped
    refine ⟨move.closedSessions holds,
      ⟨move.shaped holds own.1, move.closes own.2⟩, ?_⟩
    intro other waiting _ kept
    exact ⟨kept.1, fun session named => move.cancelled (kept.2 session named)⟩

theorem initial_closing (trustStore : Option TrustStore) :
    (closing scheme).Holds [] (initial trustStore) := by
  refine ⟨⟨IdentityState.empty_wellFormed _, ?_, ?_⟩, ?_⟩
  · simp [initial, IdentityState.empty]
  · simp [initial, IdentityState.empty]
  · simp [initial]

/-! What can still happen once a session is closed. -/

abbrev ServiceConfig (scheme : HostKeyScheme) :=
  Interleaving.Config (IdentityShared scheme) (Phase scheme)

/-- A verification of the session that runs, or is blocked on a challenge whose
decision is not yet written. -/
def Undecided (config : ServiceConfig scheme) (sessionId : String)
    (phase : Phase scheme) : Prop :=
  phase.Verifies sessionId ∧ ∀ wait, phase.attached = some wait →
    config.shared.decisions wait = none

/-- No accepting call still has to write its decision for a challenge that an
undecided verification of the session is attached to. -/
def NoAcceptInFlight (config : ServiceConfig scheme) (sessionId : String) :
    Prop :=
  ∀ thread phase, config.threads thread = some phase →
    ∀ other blocked, config.threads other = some blocked →
      Undecided config sessionId blocked →
        ∀ wait ∈ phase.toAccept, blocked.attached ≠ some wait

/-- The challenges that can no longer be accepted: nobody who still has to
write an acceptance holds them. -/
def Doomed (config : ServiceConfig scheme) (sessionId : String)
    (wait : ChallengeWait scheme) : Prop :=
  wait.challenge.sessionId = sessionId ∧
  config.shared.decisions wait ≠ some .accepted ∧
  ∀ thread phase, config.threads thread = some phase → wait ∉ phase.toAccept

/-- The calls that were there already, and were not undecided verifications. -/
def Exempt (config : ServiceConfig scheme) (sessionId : String)
    (thread : ℕ) : Prop :=
  ∃ phase, config.threads thread = some phase ∧ ¬Undecided config sessionId phase

structure DoomedState (config : ServiceConfig scheme) (sessionId : String)
    (shared : IdentityShared scheme) : Prop where
  closed : ClosedSessions shared
  session : sessionId ∈ shared.state.cancelled
  doomed : ∀ wait, Doomed config sessionId wait →
    shared.decisions wait ≠ some .accepted

structure DoomedCall (config : ServiceConfig scheme) (sessionId : String)
    (thread : ℕ) (phase : Phase scheme) : Prop where
  shaped : phase.Shaped
  spares : ∀ wait ∈ phase.toAccept, ¬Doomed config sessionId wait
  blocked : ¬Exempt config sessionId thread → ∀ wait,
    phase.attached = some wait → wait.challenge.sessionId = sessionId →
      Doomed config sessionId wait
  unverified : ¬Exempt config sessionId thread → ∀ presented,
    phase ≠ .returned (.verify sessionId presented) (.result (.ok ()))
  late : config.threads thread = none →
    (phase.Verifies sessionId →
      ∃ presented, phase = .entered (.verify sessionId presented)) ∧
    ∀ presented response, phase = .returned (.verify sessionId presented)
      response → response = .result (.error (cancelledError sessionId))

section

variable {config : ServiceConfig scheme}

theorem DoomedState.not_doomed (state : DoomedState config sessionId shared)
    {wait : ChallengeWait scheme}
    (opened : wait.challenge.sessionId ∉ shared.state.cancelled) :
    ¬Doomed config sessionId wait := by
  rintro ⟨rfl, -, -⟩
  exact opened state.session

theorem DoomedState.decide (state : DoomedState config sessionId shared)
    {target : ChallengeWait scheme} {decision : Decision}
    (spared : decision = .accepted → ¬Doomed config sessionId target) :
    DoomedState config sessionId (decide shared target decision) := by
  refine ⟨⟨state.closed.wellFormed, state.closed.pending,
    state.closed.trusted⟩, state.session, ?_⟩
  intro wait doomed accepted
  simp only [HostIdentity.decide] at accepted
  rcases eq_or_ne wait target with rfl | different
  · rw [Function.update_self] at accepted
    exact spared (Option.some.inj accepted) doomed
  · rw [Function.update_of_ne different] at accepted
    exact state.doomed wait doomed accepted

theorem DoomedState.step (state : DoomedState config sessionId shared)
    (move : Move thread shared phase next after events)
    (call : DoomedCall config sessionId thread phase) :
    DoomedState config sessionId next := by
  have closed := move.closedSessions state.closed
  have session := move.cancelled state.session
  cases move with
  | @challenged other presented stored uuid now unknown unindexed fresh =>
      refine ⟨closed, session, ?_⟩
      intro wait doomed accepted
      dsimp only at accepted
      rcases eq_or_ne wait (.create other presented stored uuid now) with
        rfl | different
      · simp at accepted
      · rw [Function.update_of_ne different] at accepted
        exact state.doomed wait doomed accepted
  | decidedOwn =>
      apply state.decide
      rintro rfl
      exact call.spares _ (mem_toAccept_deciding.mpr (.inl ⟨rfl, .inl rfl⟩))
  | decidedOther taken =>
      apply state.decide
      rintro rfl
      exact call.spares _ (mem_toAccept_deciding.mpr
        (.inl ⟨rfl, .inr (taken.mem_iff.mpr (List.mem_cons_self ..))⟩))
  | _ => exact ⟨closed, session, state.doomed⟩

theorem DoomedCall.spares_step (call : DoomedCall config sessionId thread phase)
    (state : DoomedState config sessionId shared)
    (move : Move thread shared phase next after events) :
    ∀ wait ∈ after.toAccept, ¬Doomed config sessionId wait := by
  intro wait member
  cases move with
  | acceptedOnce found =>
      obtain rfl : wait = _ := by simpa [Phase.toAccept] using member
      exact state.not_doomed (state.closed.found found)
  | acceptedAndSaved found known saved =>
      simp only [Phase.toAccept, if_true, Option.toList_some, List.append_nil,
        List.singleton_append, List.mem_cons] at member
      rcases member with rfl | released
      · exact state.not_doomed (state.closed.found found)
      · apply state.not_doomed
        exact state.closed.remaining _ wait (List.mem_of_mem_filter released)
  | decidedOwn =>
      apply call.spares wait
      rw [mem_toAccept_deciding] at member ⊢
      rcases member with ⟨accepting, own | other⟩ | later
      · cases own
      · exact .inl ⟨accepting, .inr other⟩
      · exact .inr later
  | decidedOther taken =>
      apply call.spares wait
      rw [mem_toAccept_deciding] at member ⊢
      rcases member with ⟨accepting, own | other⟩ | later
      · cases own
      · exact .inl ⟨accepting,
          .inr (taken.mem_iff.mpr (List.mem_cons_of_mem _ other))⟩
      · exact .inr later
  | resumed =>
      apply call.spares wait
      simpa [Phase.toAccept] using member
  | _ => simp [Phase.toAccept] at member

theorem DoomedCall.blocked_step
    (call : DoomedCall config sessionId thread phase)
    (state : DoomedState config sessionId shared)
    (move : Move thread shared phase next after events)
    (bound : ¬Exempt config sessionId thread) (wait : ChallengeWait scheme)
    (attached : after.attached = some wait)
    (own : wait.challenge.sessionId = sessionId) :
    Doomed config sessionId wait := by
  cases move with
  | @merged other presented stored challengeId found unknown indexed listed =>
      obtain rfl := Option.some.inj attached
      have session := ChallengeWait.session_of_key
        (state.closed.wellFormed.key_of_indexed indexed listed)
      obtain rfl : other = sessionId := session.symm.trans own
      exact absurd state.session (settled_none unknown)
  | @challenged other presented stored uuid now unknown unindexed fresh =>
      obtain rfl := Option.some.inj attached
      obtain rfl : other = sessionId := own
      exact absurd state.session (settled_none unknown)
  | announced => exact call.blocked bound wait attached own
  | decidedOwn => exact call.blocked bound wait attached own
  | decidedOther taken => exact call.blocked bound wait attached own
  | resumed => exact call.blocked bound wait attached own
  | _ => simp [Phase.attached] at attached

theorem DoomedCall.unverified_step
    (call : DoomedCall config sessionId thread phase)
    (state : DoomedState config sessionId shared)
    (move : Move thread shared phase next after events)
    (bound : ¬Exempt config sessionId thread)
    (presented : PresentedHostKey scheme) :
    after ≠ .returned (.verify sessionId presented) (.result (.ok ())) := by
  intro verified
  cases move with
  | answered known =>
      cases verified
      simp [settled_closed state.session] at known
  | matchedTrusted opened =>
      cases verified
      exact opened state.session
  | answeredLate known =>
      cases verified
      simp [settled_closed state.session] at known
  | @awaited other key wait decision decided =>
      obtain ⟨asked, answered⟩ := Phase.returned.inj verified
      obtain ⟨rfl, rfl⟩ := Request.verify.inj asked
      cases decision with
      | accepted =>
          have session := ChallengeWait.session_of_key call.shaped
          exact state.doomed wait (call.blocked bound wait rfl session) decided
      | rejected => cases answered
      | cancelled => cases answered
  | declined declinable same =>
      obtain ⟨rfl, -⟩ := Phase.returned.inj verified
      cases declinable
  | resumed => exact call.shaped.2 sessionId presented _ verified
  | _ => cases verified

theorem DoomedCall.late_step (call : DoomedCall config sessionId thread phase)
    (state : DoomedState config sessionId shared)
    (move : Move thread shared phase next after events)
    (absent : config.threads thread = none) :
    (after.Verifies sessionId →
      ∃ presented, after = .entered (.verify sessionId presented)) ∧
    ∀ presented response, after = .returned (.verify sessionId presented)
      response → response = .result (.error (cancelledError sessionId)) := by
  obtain ⟨running, -⟩ := call.late absent
  constructor
  · intro verifies
    obtain ⟨presented, rfl⟩ := running (move.verifies verifies)
    cases move with
    | answered known => exact verifies.elim
    | entering unknown => exact absurd state.session (settled_none unknown)
    | declined declinable same => cases declinable
  · rintro presented response rfl
    obtain ⟨asked, rfl⟩ := running (move.verified call.shaped)
    cases move with
    | answered known =>
        rw [settled_closed state.session] at known
        rw [Option.some.inj known]
    | declined declinable same => cases declinable

theorem DoomedCall.step (call : DoomedCall config sessionId thread phase)
    (state : DoomedState config sessionId shared)
    (move : Move thread shared phase next after events) :
    DoomedCall config sessionId thread after where
  shaped := move.shaped state.closed call.shaped
  spares := call.spares_step state move
  blocked := call.blocked_step state move
  unverified := call.unverified_step state move
  late := call.late_step state move

def doomed (config : ServiceConfig scheme) (sessionId : String) :
    (service scheme).Outline where
  shared _ state := DoomedState config sessionId state
  phase _ _ thread current := DoomedCall config sessionId thread current
  opening := by
    intro log state thread start holds admitted
    refine ⟨holds, ?_, fun _ _ _ kept => kept⟩
    cases start with
    | entered request =>
        refine ⟨trivial, by simp [Phase.toAccept], by simp [Phase.attached],
          by simp, fun _ => ⟨?_, by simp⟩⟩
        intro verifies
        cases request with
        | verify other presented =>
            obtain rfl : other = sessionId := verifies
            exact ⟨presented, rfl⟩
        | _ => exact verifies.elim
    | _ => simp [service] at admitted
  stepping := by
    intro log state thread choice current next after events holds own stepped
    have move := step_move stepped
    exact ⟨holds.step move own, own.step holds move, fun _ _ _ kept => kept⟩

theorem doomed_holds (closed : ClosedSessions config.shared)
    (session : sessionId ∈ config.shared.state.cancelled)
    (shaped : ∀ thread phase, config.threads thread = some phase → phase.Shaped)
    (quiet : NoAcceptInFlight config sessionId) :
    (doomed config sessionId).Holds [] config := by
  refine ⟨⟨closed, session, fun wait doom => doom.2.1⟩, ?_⟩
  intro thread phase running
  refine ⟨shaped thread phase running, ?_, ?_, ?_, ?_⟩
  · intro wait member doom
    exact doom.2.2 thread phase running member
  · intro bound wait attached own
    have undecided : Undecided config sessionId phase := by
      by_contra decided
      exact bound ⟨phase, running, decided⟩
    refine ⟨own, by simp [undecided.2 wait attached], ?_⟩
    intro other accepting otherRuns member
    exact quiet other accepting otherRuns thread phase running undecided wait
      member attached
  · rintro bound presented rfl
    exact bound ⟨_, running, fun undecided => undecided.1⟩
  · intro absent
    rw [running] at absent
    cases absent

end

/-- Once a session is closed, with no acceptance of an attached challenge still
in flight, no undecided verification of it succeeds any more, and whoever comes
later is refused at once. -/
theorem closed_session_verifications {trustStore : Option TrustStore}
    {actions laterActions :
      List (Interleaving.ThreadAction (Phase scheme) Choice)}
    {config final : ServiceConfig scheme} {laterLog : List (Event scheme)}
    {closer : ℕ}
    (run : (service scheme).machine.Run (initial trustStore) actions log config)
    (completed : config.threads closer =
      some (.returned (.cancelSession sessionId) .done))
    (quiet : NoAcceptInFlight config sessionId)
    (continued :
      (service scheme).machine.Run config laterActions laterLog final) :
    (∀ thread phase presented, config.threads thread = some phase →
      Undecided config sessionId phase → final.threads thread ≠
        some (.returned (.verify sessionId presented) (.result (.ok ())))) ∧
    ∀ thread phase, config.threads thread = none →
      final.threads thread = some phase →
      (phase.Verifies sessionId → ∃ presented,
        phase = .entered (.verify sessionId presented) ∧
        ∀ choice, step thread choice final.shared phase =
          some (respond thread final.shared (.verify sessionId presented)
            (.result (.error (cancelledError sessionId))) [])) ∧
      ∀ presented response,
        phase = .returned (.verify sessionId presented) response →
          response = .result (.error (cancelledError sessionId)) := by
  obtain ⟨closed, calls⟩ :=
    (closing scheme).holds (initial_closing trustStore) run
  have session := (calls closer _ completed).2 sessionId rfl
  have start := doomed_holds closed session
    (fun thread phase running => (calls thread phase running).1) quiet
  obtain ⟨state, doomedCalls⟩ := (doomed config sessionId).holds start continued
  constructor
  · intro thread phase presented running undecided verified
    refine (doomedCalls thread _ verified).unverified ?_ presented rfl
    rintro ⟨other, otherRuns, decided⟩
    rw [running] at otherRuns
    obtain rfl := Option.some.inj otherRuns
    exact decided undecided
  · intro thread phase absent running
    obtain ⟨entered, returned⟩ := (doomedCalls thread phase running).late absent
    refine ⟨fun verifies => ?_, returned⟩
    obtain ⟨presented, rfl⟩ := entered verifies
    refine ⟨presented, rfl, fun choice => ?_⟩
    simp [step, stepRequest, stepEnter, settled_closed state.session]

/-- A connection waits, an acceptance has taken its challenge but not yet
written the decision, and the session is closed. -/
def overtakenRun : List (Interleaving.ThreadAction
    (Phase HostKeyScheme.sample) Choice) :=
  [.spawn 0 (.entered (.verify "session" (HostKeyScheme.sampleKey 0x11))),
    .advance 0 {}, .advance 0 {}, .advance 0 { uuid := "challenge" },
    .advance 0 {}, .advance 0 {},
    .spawn 1 (.entered (.accept "challenge")), .advance 1 {},
    .spawn 2 (.entered (.cancelSession "session")), .advance 2 {},
    .advance 2 {}]

/-- The acceptance then lets the connection of the closed session through. -/
theorem closed_session_verifies :
    ∃ config log final laterLog phase,
      (service .sample).machine.Run (initial none) overtakenRun log config ∧
      config.threads 2 = some (.returned (.cancelSession "session") .done) ∧
      config.threads 0 = some phase ∧ Undecided config "session" phase ∧
      (service .sample).machine.Run config [.advance 1 {}, .advance 0 {}]
        laterLog final ∧
      final.threads 0 = some (.returned (.verify "session"
        (HostKeyScheme.sampleKey 0x11)) (.result (.ok ()))) := by
  refine ⟨_, _, _, _, _, Interleaving.Machine.run_of_execute rfl, rfl, rfl,
    ⟨rfl, ?_⟩, Interleaving.Machine.run_of_execute rfl, rfl⟩
  intro wait attached
  obtain rfl := Option.some.inj attached
  rfl

/-- The session is closed while a connection is between two sections. -/
def closingRun : List (Interleaving.ThreadAction
    (Phase HostKeyScheme.sample) Choice) :=
  [.spawn 0 (.entered (.verify "session" (HostKeyScheme.sampleKey 0x11))),
    .advance 0 {}, .advance 0 {},
    .spawn 1 (.entered (.cancelSession "session")), .advance 1 {},
    .advance 1 {}]

theorem closed_session_verifications_between :
    ∃ config log final laterLog,
      (service .sample).machine.Run (initial none) closingRun log config ∧
      (service .sample).machine.Run config [.advance 0 {}] laterLog final ∧
      ∀ presented, final.threads 0 ≠
        some (.returned (.verify "session" presented) (.result (.ok ()))) := by
  have executed : ∃ config log final laterLog phase,
      (service .sample).machine.Run (initial none) closingRun log config ∧
      config.threads 1 = some (.returned (.cancelSession "session") .done) ∧
      config.threads 0 = some phase ∧ Undecided config "session" phase ∧
      NoAcceptInFlight config "session" ∧
      (service .sample).machine.Run config [.advance 0 {}] laterLog final := by
    refine ⟨_, _, _, _, _, Interleaving.Machine.run_of_execute rfl, rfl, rfl,
      ⟨rfl, fun wait attached => by cases attached⟩, ?_,
      Interleaving.Machine.run_of_execute rfl⟩
    intro thread phase running other blocked otherRuns undecided wait member
    match thread with
    | 0 =>
        obtain rfl := Option.some.inj running
        simp [Phase.toAccept] at member
    | 1 =>
        obtain rfl := Option.some.inj running
        simp [Phase.toAccept] at member
    | _ + 2 => cases running
  obtain ⟨config, log, final, laterLog, phase, run, completed, running,
    undecided, quiet, continued⟩ := executed
  refine ⟨config, log, final, laterLog, run, continued, fun presented => ?_⟩
  exact (closed_session_verifications run completed quiet continued).1 0 phase
    presented running undecided

end HostIdentity

end TitanSSH
