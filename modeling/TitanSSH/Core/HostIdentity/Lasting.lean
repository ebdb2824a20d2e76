import TitanSSH.Core.HostIdentity.Authorization
import TitanSSH.Core.HostIdentity.Closing

namespace TitanSSH

namespace HostIdentity

variable {scheme : HostKeyScheme}

/-! How long a session keeps a decision: its trusted keys only grow, until it is
closed. -/

def Event.closes (sessionId : String) : Event scheme → Bool
  | .closed _ other => other == sessionId
  | _ => false

def Unclosed (log : List (Event scheme)) (sessionId : String) : Prop :=
  log.all (!·.closes sessionId) = true

/-- The success of the call does not merely answer a challenge that was
released by another session's save. -/
def Recorded (log : List (Event scheme)) (config : ServiceConfig scheme)
    (thread : ℕ) (sessionId : String) (presented : PresentedHostKey scheme) :
    Prop :=
  (∀ wait, config.threads thread ≠ some (.waiting sessionId presented wait)) ∨
  AcceptedHere log sessionId presented ∨
  .ofPresented sessionId presented ∈ config.shared.state.trusted

variable {thread : ℕ} {shared next : IdentityShared scheme}
variable {phase after : Phase scheme} {events log : List (Event scheme)}
variable {sessionId : String} {presented : PresentedHostKey scheme}

theorem Unclosed.of_append
    (unclosed : Unclosed (log ++ events) sessionId) :
    Unclosed log sessionId ∧ Unclosed events sessionId := by
  simpa [Unclosed, List.all_append] using unclosed

theorem Move.trusted (move : Move thread shared phase next after events)
    {key : IdentityKey} (unclosed : Unclosed events key.sessionId)
    (known : key ∈ shared.state.trusted) : key ∈ next.state.trusted := by
  cases move with
  | matchedTrusted opened => exact Finset.mem_insert_of_mem known
  | acceptedOnce found => exact Finset.mem_insert_of_mem known
  | acceptedAndSaved found stored saved => exact Finset.mem_insert_of_mem known
  | @closed session =>
      refine Finset.mem_filter.mpr ⟨known, ?_⟩
      rintro rfl
      simp [Unclosed, Event.closes] at unclosed
  | _ => exact known

theorem Move.unclosed (move : Move thread shared phase next after events)
    (unclosed : Unclosed events sessionId)
    (opened : sessionId ∉ shared.state.cancelled) :
    sessionId ∉ next.state.cancelled := by
  cases move with
  | @closed session =>
      intro member
      rcases Finset.mem_insert.mp member with rfl | before
      · simp [Unclosed, Event.closes] at unclosed
      · exact opened before
  | _ => exact opened

theorem Move.accepts (move : Move thread shared phase next after events)
    {other : ℕ} {wait : ChallengeWait scheme}
    (accepted : .accepted other wait ∈ events ∨
      ∃ previous, .saved other wait previous ∈ events) :
    wait.key ∈ next.state.trusted := by
  cases move with
  | acceptedOnce found =>
      rcases accepted with logged | ⟨previous, logged⟩
      · obtain ⟨rfl, rfl⟩ := Event.accepted.inj (List.mem_singleton.mp logged)
        exact Finset.mem_insert_self _ _
      · simp at logged
  | acceptedAndSaved found stored saved =>
      rcases accepted with logged | ⟨previous, logged⟩
      · simp at logged
      · obtain ⟨rfl, rfl, -⟩ := Event.saved.inj (List.mem_singleton.mp logged)
        exact Finset.mem_insert_self _ _
  | resumed => cases after <;> simp [arrival] at accepted
  | _ => simp at accepted

/-- What is known of a session as long as nothing has closed it. -/
structure Remembers (log : List (Event scheme))
    (shared : IdentityShared scheme) : Prop where
  opened : ∀ sessionId, Unclosed log sessionId →
    sessionId ∉ shared.state.cancelled
  accepted : ∀ sessionId presented, Unclosed log sessionId →
    AcceptedHere log sessionId presented →
      .ofPresented sessionId presented ∈ shared.state.trusted

theorem Remembers.step (remembers : Remembers log shared)
    (move : Move thread shared phase next after events) :
    Remembers (log ++ events) next := by
  constructor
  · intro sessionId unclosed
    obtain ⟨before, during⟩ := unclosed.of_append
    exact move.unclosed during (remembers.opened sessionId before)
  · rintro sessionId presented unclosed ⟨other, wait, same, accepted⟩
    obtain ⟨before, during⟩ := unclosed.of_append
    by_cases late : .accepted other wait ∈ events ∨
        ∃ previous, .saved other wait previous ∈ events
    · rw [← same]
      exact move.accepts late
    · refine move.trusted during
        (remembers.accepted sessionId presented before ⟨other, wait, same, ?_⟩)
      rw [not_or, not_exists] at late
      rcases accepted with logged | ⟨previous, logged⟩
      · exact .inl ((List.mem_append.mp logged).resolve_right late.1)
      · exact .inr ⟨previous,
          (List.mem_append.mp logged).resolve_right (late.2 previous)⟩

theorem Remembers.started (remembers : Remembers log shared)
    (request : Request scheme) :
    Remembers (log ++ [.started thread request]) shared := by
  constructor
  · intro sessionId unclosed
    exact remembers.opened sessionId unclosed.of_append.1
  · rintro sessionId presented unclosed ⟨other, wait, same, accepted⟩
    exact remembers.accepted sessionId presented unclosed.of_append.1
      ⟨other, wait, same, by simpa using accepted⟩

def remembering (scheme : HostKeyScheme) : (service scheme).Outline where
  shared := Remembers
  phase _ _ _ _ := True
  opening := by
    intro log state thread start remembers admitted
    cases start with
    | entered request =>
        exact ⟨remembers.started request, trivial, fun _ _ _ _ => trivial⟩
    | _ => simp [service] at admitted
  stepping := by
    intro log state thread choice current next after events remembers _ stepped
    exact ⟨remembers.step (step_move stepped), trivial, fun _ _ _ _ => trivial⟩

theorem initial_remembering (trustStore : Option TrustStore) :
    (remembering scheme).Holds [] (initial trustStore) := by
  refine ⟨⟨?_, ?_⟩, fun _ _ _ => trivial⟩
  · simp [initial, IdentityState.empty]
  · rintro sessionId presented - ⟨other, wait, -, logged | ⟨previous, logged⟩⟩
    · cases logged
    · cases logged

/-- Every route to success but one finds or leaves the key trusted. -/
theorem Move.succeeds (move : Move thread shared phase next after events)
    (shaped : phase.Shaped) {other : ℕ}
    (verified : .returned other (.verify sessionId presented)
      (.result (.ok ())) ∈ events) :
    other = thread ∧
      ((∃ wait, phase = .waiting sessionId presented wait) ∨
        .ofPresented sessionId presented ∈ next.state.trusted) := by
  cases move with
  | answered known =>
      obtain ⟨rfl, request, response⟩ :=
        Event.returned.inj (List.mem_singleton.mp verified)
      obtain ⟨rfl, rfl⟩ := Request.verify.inj request
      obtain rfl := Response.result.inj response
      exact ⟨rfl, .inr (settled_ok known).2⟩
  | answeredLate known =>
      obtain ⟨rfl, request, response⟩ :=
        Event.returned.inj (List.mem_singleton.mp verified)
      obtain ⟨rfl, rfl⟩ := Request.verify.inj request
      obtain rfl := Response.result.inj response
      exact ⟨rfl, .inr (settled_ok known).2⟩
  | matchedTrusted opened =>
      obtain ⟨rfl, request, -⟩ :=
        Event.returned.inj (List.mem_singleton.mp verified)
      obtain ⟨rfl, rfl⟩ := Request.verify.inj request
      exact ⟨rfl, .inr (Finset.mem_insert_self _ _)⟩
  | awaited decided =>
      obtain ⟨rfl, request, -⟩ :=
        Event.returned.inj (List.mem_singleton.mp verified)
      obtain ⟨rfl, rfl⟩ := Request.verify.inj request
      exact ⟨rfl, .inl ⟨_, rfl⟩⟩
  | declined declinable same =>
      obtain ⟨-, rfl, -⟩ := Event.returned.inj (List.mem_singleton.mp verified)
      cases declinable
  | resumed =>
      cases after with
      | returned request response =>
          obtain ⟨-, rfl, -⟩ :=
            Event.returned.inj (List.mem_singleton.mp verified)
          exact absurd rfl (shaped.2 sessionId presented response)
      | _ => cases verified
  | _ => simp at verified

/-- A verification of a trusted key is answered where it enters. -/
def Answered (config : ServiceConfig scheme) (thread : ℕ) (sessionId : String)
    (presented : PresentedHostKey scheme) : Prop :=
  (config.threads thread = some (.entered (.verify sessionId presented)) ∧
    ∀ choice, ∃ after,
      (service scheme).machine.step config (.advance thread choice) =
        some (after, [.returned thread (.verify sessionId presented)
          (.result (.ok ()))])) ∨
  config.threads thread =
    some (.returned (.verify sessionId presented) (.result (.ok ())))

structure Lasting (log : List (Event scheme)) (config : ServiceConfig scheme)
    (key : IdentityKey) : Prop where
  trusted : key ∈ config.shared.state.trusted
  opened : key.sessionId ∉ config.shared.state.cancelled
  answered : ∀ thread presented,
    .started thread (.verify key.sessionId presented) ∈ log →
    .ofPresented key.sessionId presented = key →
      config.threads thread =
        some (.entered (.verify key.sessionId presented)) ∨
      config.threads thread = some (.returned
        (.verify key.sessionId presented) (.result (.ok ())))

theorem settled_trusted {state : IdentityState scheme}
    (opened : sessionId ∉ state.cancelled)
    (trusted : .ofPresented sessionId presented ∈ state.trusted) :
    settled state sessionId presented = some (.ok ()) := by
  simp [settled, opened, trusted]

theorem step_trusted (choice : Choice)
    (opened : sessionId ∉ shared.state.cancelled)
    (trusted : .ofPresented sessionId presented ∈ shared.state.trusted) :
    step thread choice shared (.entered (.verify sessionId presented)) =
      some (respond thread shared (.verify sessionId presented)
        (.result (.ok ())) []) := by
  simp [step, stepRequest, stepEnter, settled_trusted opened trusted]

theorem Move.not_started (move : Move thread shared phase next after events)
    (other : ℕ) (request : Request scheme) :
    .started other request ∉ events := by
  cases move with
  | resumed => cases after <;> simp [arrival]
  | _ => simp

theorem Move.answers
    (move : Move thread shared (.entered (.verify sessionId presented)) next
      after events)
    (opened : sessionId ∉ shared.state.cancelled)
    (trusted : .ofPresented sessionId presented ∈ shared.state.trusted) :
    after = .returned (.verify sessionId presented) (.result (.ok ())) := by
  cases move with
  | answered known =>
      rw [settled_trusted opened trusted] at known
      rw [Option.some.inj known]
  | entering unknown =>
      rw [settled_trusted opened trusted] at unknown
      cases unknown
  | declined declinable same => cases declinable

theorem Lasting.step {config after : ServiceConfig scheme}
    {action : Interleaving.ThreadAction (Phase scheme) Choice}
    {key : IdentityKey} (lasting : Lasting log config key)
    (unclosed : Unclosed events key.sessionId)
    (stepped : (service scheme).machine.step config action =
      some (after, events)) :
    Lasting (log ++ events) after key := by
  rcases Interleaving.Program.machine_step_cases stepped with
    ⟨thread, start, -, free, admitted, rfl, rfl⟩ |
    ⟨thread, choice, current, shared, phase, -, running, moved, rfl⟩
  · refine ⟨lasting.trusted, lasting.opened, ?_⟩
    intro other presented started same
    rcases eq_or_ne other thread with rfl | different
    · left
      simp only [Function.update_self, Option.some.injEq]
      cases List.mem_append.mp started with
      | inl before =>
          rcases lasting.answered other presented before same with
            running | running <;> simp [free] at running
      | inr own =>
          cases start with
          | entered request =>
              obtain ⟨-, rfl⟩ := Event.started.inj (List.mem_singleton.mp own)
              rfl
          | _ => simp [service] at admitted
    · simp only [Function.update_of_ne different]
      refine lasting.answered other presented ?_ same
      cases List.mem_append.mp started with
      | inl before => exact before
      | inr own =>
          cases start with
          | entered request =>
              obtain ⟨rfl, -⟩ := Event.started.inj (List.mem_singleton.mp own)
              exact absurd rfl different
          | _ => simp [service] at admitted
  · have move := step_move moved
    refine ⟨move.trusted unclosed lasting.trusted,
      move.unclosed unclosed lasting.opened, ?_⟩
    intro other presented started same
    have before := (List.mem_append.mp started).resolve_right
      (move.not_started other _)
    rcases eq_or_ne other thread with rfl | different
    · right
      simp only [Function.update_self, Option.some.injEq]
      rcases lasting.answered other presented before same with
        entered | returned
      · obtain rfl := Option.some.inj (running.symm.trans entered)
        exact move.answers lasting.opened (same ▸ lasting.trusted)
      · obtain rfl := Option.some.inj (running.symm.trans returned)
        cases move
    · simp only [Function.update_of_ne different]
      exact lasting.answered other presented before same

theorem Lasting.answers {config : ServiceConfig scheme}
    (lasting : Lasting log config (.ofPresented sessionId presented))
    {again : PresentedHostKey scheme}
    (started : .started thread (.verify sessionId again) ∈ log)
    (same : IdentityKey.ofPresented sessionId again =
      .ofPresented sessionId presented) :
    Answered config thread sessionId again := by
  cases lasting.answered thread again started same with
  | inl entered =>
      have opened : sessionId ∉ config.shared.state.cancelled := lasting.opened
      have trusted : .ofPresented sessionId again ∈
          config.shared.state.trusted := by
        rw [same]
        exact lasting.trusted
      exact .inl ⟨entered, fun choice => ⟨_,
        Interleaving.Program.machine_advance entered
          (step_trusted choice opened trusted)⟩⟩
  | inr returned => exact .inr returned

/-- Once a session has verified a key and recorded it, each later verification
of the key is answered at once, until the session is closed. -/
theorem decision_lasts {trustStore : Option TrustStore}
    {actions more : List (Interleaving.ThreadAction (Phase scheme) Choice)}
    {action : Interleaving.ThreadAction (Phase scheme) Choice}
    {config verified final : ServiceConfig scheme}
    {later : List (Event scheme)} {other : ℕ}
    {again : PresentedHostKey scheme}
    (run : (service scheme).machine.Run (initial trustStore) actions log config)
    (stepped : (service scheme).machine.step config action =
      some (verified, events))
    (succeeded : .returned thread (.verify sessionId presented)
      (.result (.ok ())) ∈ events)
    (recorded : Recorded log config thread sessionId presented)
    (continued : (service scheme).machine.Run verified more later final)
    (unclosed : Unclosed (log ++ events ++ later) sessionId)
    (started : .started other (.verify sessionId again) ∈ later)
    (same : IdentityKey.ofPresented sessionId again =
      .ofPresented sessionId presented) :
    Answered final other sessionId again := by
  obtain ⟨past, future⟩ := unclosed.of_append
  obtain ⟨before, during⟩ := past.of_append
  have remembers :=
    ((remembering scheme).holds (initial_remembering trustStore) run).1
  have shapes := ((closing scheme).holds (initial_closing trustStore) run).2
  have start : Lasting [] verified (.ofPresented sessionId presented) := by
    rcases Interleaving.Program.machine_step_cases stepped with
      ⟨_, start, -, -, -, -, rfl⟩ |
      ⟨caller, choice, current, shared, phase, -, running, moved, rfl⟩
    · cases start <;> simp [service] at succeeded
    · have move := step_move moved
      obtain ⟨rfl, route⟩ :=
        move.succeeds (shapes caller current running).1 succeeded
      refine ⟨?_, move.unclosed during (remembers.opened sessionId before),
        by simp⟩
      rcases route with ⟨wait, rfl⟩ | trusted
      · rcases recorded with elsewhere | accepted | trusted
        · exact absurd running (elsewhere wait)
        · exact move.trusted during
            (remembers.accepted sessionId presented before accepted)
        · exact move.trusted during trusted
      · exact trusted
  have lasting : Unclosed later sessionId →
      Lasting later final (.ofPresented sessionId presented) := by
    refine @Interleaving.Machine.Run.invariant _ _ _ _ verified
      (fun log config => Unclosed log sessionId →
        Lasting log config (.ofPresented sessionId presented))
      (fun _ => start) ?_ _ _ _ continued
    intro log config action next events holds stepped unclosed
    obtain ⟨before, during⟩ := unclosed.of_append
    exact (holds before).step during stepped
  exact (lasting future).answers started same

/-- A session saves its key and connects, the record is cleaned up, and the
session connects again. -/
def cleanedUpRun : List (Interleaving.ThreadAction
    (Phase HostKeyScheme.sample) Choice) :=
  [.spawn 0 (.entered (.verify "first" (HostKeyScheme.sampleKey 0x11))),
    .advance 0 {}, .advance 0 {}, .advance 0 { uuid := "one" }, .advance 0 {},
    .advance 0 {}, .spawn 1 (.entered (.acceptAndSave "one")), .advance 1 {},
    .advance 1 {}]

theorem decision_lasts_cleaned_up :
    ∃ config log verified later final,
      (service .sample).machine.Run
        (initial (some (.fromFilePath "/data/known_hosts" none))) cleanedUpRun
        log config ∧
      (service .sample).machine.step config (.advance 0 {}) = some (verified,
        [.returned 0 (.verify "first" (HostKeyScheme.sampleKey 0x11))
          (.result (.ok ()))]) ∧
      (service .sample).machine.Run verified
        [.spawn 2 (.entered (.forgetEndpoint "10.0.0.8" 22)), .advance 2 {},
          .spawn 3 (.entered (.verify "first" (HostKeyScheme.sampleKey 0x11)))]
        later final ∧
      Answered final 3 "first" (HostKeyScheme.sampleKey 0x11) := by
  have executed : ∃ config log verified later final,
      (service .sample).machine.Run
        (initial (some (.fromFilePath "/data/known_hosts" none))) cleanedUpRun
        log config ∧
      (service .sample).machine.step config (.advance 0 {}) = some (verified,
        [.returned 0 (.verify "first" (HostKeyScheme.sampleKey 0x11))
          (.result (.ok ()))]) ∧
      (service .sample).machine.Run verified
        [.spawn 2 (.entered (.forgetEndpoint "10.0.0.8" 22)), .advance 2 {},
          .spawn 3 (.entered (.verify "first" (HostKeyScheme.sampleKey 0x11)))]
        later final ∧
      .ofPresented "first" (HostKeyScheme.sampleKey 0x11) ∈
        config.shared.state.trusted ∧
      Unclosed (log ++ [.returned 0 (.verify "first"
        (HostKeyScheme.sampleKey 0x11)) (.result (.ok ()))] ++ later) "first" ∧
      ∃ earlier, later =
        earlier ++ [.started 3 (.verify "first"
          (HostKeyScheme.sampleKey 0x11))] :=
    ⟨_, _, _, _, _, Interleaving.Machine.run_of_execute rfl, rfl,
      Interleaving.Machine.run_of_execute rfl, Finset.mem_insert_self _ _, rfl,
      [_, _, _], rfl⟩
  obtain ⟨config, log, verified, later, final, run, stepped, continued, trusted,
    unclosed, earlier, rfl⟩ := executed
  refine ⟨config, log, verified, _, final, run, stepped, continued, ?_⟩
  exact decision_lasts run stepped (List.mem_singleton_self _)
    (.inr (.inr trusted)) continued unclosed (by simp) rfl

/-- Two sessions wait on the same key.  The first one saves it, which lets the
second one through too; then the record is cleaned up, and the second session
connects again. -/
def releasedRun : List (Interleaving.ThreadAction
    (Phase HostKeyScheme.sample) Choice) :=
  [.spawn 0 (.entered (.verify "first" (HostKeyScheme.sampleKey 0x11))),
    .advance 0 {}, .advance 0 {}, .advance 0 { uuid := "one" },
    .spawn 1 (.entered (.verify "second" (HostKeyScheme.sampleKey 0x11))),
    .advance 1 {}, .advance 1 {}, .advance 1 { uuid := "two" }, .advance 1 {},
    .advance 1 {}, .spawn 2 (.entered (.acceptAndSave "one")), .advance 2 {},
    .advance 2 {}, .advance 2 {}, .advance 1 {},
    .spawn 3 (.entered (.forgetEndpoint "10.0.0.8" 22)), .advance 3 {},
    .spawn 4 (.entered (.verify "second" (HostKeyScheme.sampleKey 0x11))),
    .advance 4 {}, .advance 4 {}, .advance 4 { uuid := "three" }]

/-- The second session is asked again about the key that it has verified. -/
theorem released_decision_forgotten :
    ∃ config log,
      (service .sample).machine.Run
        (initial (some (.fromFilePath "/data/known_hosts" none))) releasedRun
        log config ∧
      log = log.take 11 ++ .returned 1 (.verify "second"
          (HostKeyScheme.sampleKey 0x11)) (.result (.ok ())) ::
        (log.drop 12).take 3 ++
          [.started 4 (.verify "second" (HostKeyScheme.sampleKey 0x11)),
            .lookedUp 4 "second" (HostKeyScheme.sampleKey 0x11) none,
            .challenged 4 "second" (HostKeyScheme.sampleKey 0x11) none
              (.create "second" (HostKeyScheme.sampleKey 0x11) none "three"
                0)] ∧
      Unclosed log "second" :=
  ⟨_, _, Interleaving.Machine.run_of_execute rfl, rfl, rfl⟩

end HostIdentity

end TitanSSH
