import TitanSSH.Core.HostIdentity.Attendance
import TitanSSH.Library.GuardedRuns
import TitanSSH.Stores.Confirmation

namespace TitanSSH

open Interleaving

namespace Confirmation

variable {scheme : HostKeyScheme}

/-! A pending challenge that the window has heard of keeps its card, as long as
events and answers arrive before they are out of date. -/

/-- The challenge is pending, the window has heard of it, and its session has
not been removed; a decision may name it or not. -/
def Awaited (log : List Event) (state : State scheme)
    (wait : ChallengeWait scheme) : Prop :=
  wait ∈ state.service.shared.state.pending ∧
    .delivered wait.challenge ∈ log ∧
    .removed wait.challenge.sessionId ∉ log

def Succeeds (log : List Event) (challenge card : HostIdentityChallenge) :
    Prop :=
  card = challenge ∨ ∃ earlier later,
    log = earlier ++ .delivered challenge :: later ∧ .delivered card ∈ later

def Shown (log : List Event) (store : SessionState)
    (challenge : HostIdentityChallenge) : Prop :=
  ∃ card, store.hostKeyChallenges.lookup challenge.sessionId = some card ∧
    card.sessionId = challenge.sessionId ∧ Succeeds log challenge card

def named (state : State scheme) (index : ℕ) : Option String :=
  state.calls[index]?.bind fun call =>
    (state.service.threads call.thread).bind HostIdentity.Phase.names

/-- Where the answer takes down a card, it is that of the challenge named. -/
def answersCard (state : State scheme) (index : ℕ) : Bool :=
  match takesDown state (.respond index) with
  | none => true
  | some sessionId =>
      (state.store.hostKeyChallenges.lookup sessionId).all fun card =>
        named state index == some card.challengeId

/-- The challenge is still pending, or the window has not heard of a pending one
of its session. -/
def inTurn (log : List Event) (state : State scheme)
    (challenge : HostIdentityChallenge) : Bool :=
  (state.service.shared.state.pending.any fun wait =>
    wait.challenge == challenge) ||
  state.service.shared.state.pending.all fun wait =>
    wait.challenge.sessionId != challenge.sessionId ||
      !decide (.delivered wait.challenge ∈ log)

def ordered (endpoint : String → String × UInt16) (log : List Event)
    (state : State scheme) : Action scheme → Bool
  | .service (.spawn _ (.entered (.verify sessionId presented))) =>
      (presented.host, presented.port) == endpoint sessionId
  | .deliver index =>
      match state.inbox[index]? with
      | some (.challenge challenge) => inTurn log state challenge
      | _ => true
  | .respond index => answersCard state index
  | _ => true

/-- A session keeps to one endpoint, an answer finds the card it is about, a
challenge does not arrive behind its successor, and a session connects after its
verifications. -/
structure Orderly (endpoint : String → String × UInt16) (log : List Event)
    (state : State scheme) (action : Action scheme) : Prop where
  ordered : ordered endpoint log state action = true
  connected : ∀ index sessionId, action = .deliver index →
    takesDown state action = some sessionId →
    ∀ thread phase, state.service.threads thread = some phase →
      ¬phase.Verifies sessionId

variable {log events : List Event} {state next : State scheme}
variable {action : Action scheme} {wait : ChallengeWait scheme}
variable {endpoint : String → String × UInt16}

/-- What the window can have heard of has been given out by the service. -/
structure Heard (log : List Event) (state : State scheme) : Prop where
  issuing : (HostIdentity.issuing scheme).Holds [] state.service
  inbox : ∀ challenge, .challenge challenge ∈ state.inbox →
    challenge.challengeId ∈ state.service.shared.issued
  delivered : ∀ challenge, .delivered challenge ∈ log →
    challenge.challengeId ∈ state.service.shared.issued
  cards : ∀ sessionId card,
    state.store.hostKeyChallenges.lookup sessionId = some card →
    card.challengeId ∈ state.service.shared.issued

theorem initial_heard (trustStore : Option TrustStore) :
    Heard [] (initial trustStore : State scheme) where
  issuing := HostIdentity.initial_issuing trustStore
  inbox := by simp [initial]
  delivered := by simp
  cards := by simp [initial, SessionState.empty]

theorem Heard.still (heard : Heard log state)
    (service : next.service = state.service)
    (inbox : ∀ challenge, .challenge challenge ∈ next.inbox →
      .challenge challenge ∈ state.inbox)
    (undelivered : ∀ challenge, .delivered challenge ∉ events)
    (cards : ∀ sessionId card,
      next.store.hostKeyChallenges.lookup sessionId = some card →
      state.store.hostKeyChallenges.lookup sessionId = some card) :
    Heard (log ++ events) next := by
  refine ⟨service ▸ heard.issuing, ?_, ?_, ?_⟩
  · intro challenge member
    rw [service]
    exact heard.inbox challenge (inbox challenge member)
  · intro challenge member
    rw [service]
    exact heard.delivered challenge
      ((List.mem_append.mp member).resolve_right (undelivered challenge))
  · intro sessionId card found
    rw [service]
    exact heard.cards sessionId card (cards sessionId card found)

theorem lookup_of_erase {cards : FiniteMap String HostIdentityChallenge}
    {sessionId other : String} {card : HostIdentityChallenge}
    (found : (cards.erase sessionId).lookup other = some card) :
    cards.lookup other = some card := by
  rcases eq_or_ne other sessionId with rfl | different
  · simp at found
  · rwa [FiniteMap.lookup_erase_of_ne _ different] at found

theorem Heard.step (heard : Heard log state)
    (stepped : (machine scheme).step state action = some (next, events)) :
    Heard (log ++ events) next := by
  cases step_effect stepped with
  | moved asked moved cards inbox undelivered spared =>
      have announced := HostIdentity.machine_announced heard.issuing moved
      refine ⟨(HostIdentity.issuing scheme).preserved _ _ _ _ _ heard.issuing
        moved, ?_, ?_, ?_⟩
      · intro challenge member
        apply announced.issued
        cases inbox challenge member with
        | inl before => exact heard.inbox challenge before
        | inr new => exact announced.announced challenge new
      · intro challenge member
        apply announced.issued
        exact heard.delivered challenge
          ((List.mem_append.mp member).resolve_right (undelivered challenge))
      · intro sessionId card found
        rw [cards] at found
        exact announced.issued (heard.cards sessionId card found)
  | @delivered challenge index delivers waiting service cards inbox =>
      have arrived := heard.inbox challenge (List.mem_of_getElem? waiting)
      refine ⟨service ▸ heard.issuing, ?_, ?_, ?_⟩
      · intro challenge member
        exact service ▸ heard.inbox challenge (inbox member)
      · intro challenge member
        rw [service]
        cases List.mem_append.mp member with
        | inl before => exact heard.delivered challenge before
        | inr own =>
            obtain rfl := Event.delivered.inj (List.mem_singleton.mp own)
            exact arrived
      · intro sessionId card found
        rw [service]
        rw [cards] at found
        rcases eq_or_ne sessionId challenge.sessionId with rfl | different
        · obtain rfl := Option.some.inj
            ((FiniteMap.lookup_insert_self _ _ _).symm.trans found)
          exact arrived
        · rw [FiniteMap.lookup_insert_of_ne _ _ different] at found
          exact heard.cards sessionId card found
  | kept service cards inbox spared =>
      exact heard.still service inbox (by simp) fun _ _ found => cards ▸ found
  | takenDown lost service cards inbox =>
      exact heard.still service (fun _ member => inbox member) (by simp)
        fun _ _ found => lookup_of_erase (cards ▸ found)
  | removed service cards inbox spared =>
      exact heard.still service (fun _ member => inbox member) (by simp)
        fun _ _ found => lookup_of_erase (cards ▸ found)

/-- A decision names the card that is shown, and every other request of the
service is for the endpoint of its session. -/
theorem Heard.fits
    {moving : ThreadAction (HostIdentity.Phase scheme) HostIdentity.Choice}
    (heard : Heard log state)
    (orderly : ordered endpoint log state action = true)
    (asked : Asks state action moving) (thread : ℕ)
    (request : HostIdentity.Request scheme)
    (spawned : moving = .spawn thread (.entered request)) :
    request.Fits endpoint state.service.shared.issued := by
  cases asked with
  | own undecided =>
      have other := undecided thread _ spawned
      subst spawned
      cases request with
      | verify sessionId presented => exact beq_iff_eq.mp orderly
      | accept challengeId => cases other
      | acceptAndSave challengeId => cases other
      | reject challengeId => cases other
      | _ => trivial
  | @decision answer sessionId other card shown =>
      obtain ⟨rfl, same⟩ := ThreadAction.spawn.inj spawned
      obtain rfl := HostIdentity.Phase.entered.inj same
      have issued := heard.cards sessionId card shown
      cases answer <;> exact issued

theorem attended_step {past : List (HostIdentity.Event scheme)}
    (heard : Heard log state)
    (attended : HostIdentity.Attended endpoint past state.service)
    (orderly : ordered endpoint log state action = true)
    (stepped : (machine scheme).step state action = some (next, events)) :
    ∃ past, HostIdentity.Attended endpoint past next.service := by
  cases step_effect stepped with
  | moved asked moved =>
      exact ⟨_, attended.step (heard.fits orderly asked) moved⟩
  | delivered delivers waiting service => exact ⟨past, service ▸ attended⟩
  | kept service => exact ⟨past, service ▸ attended⟩
  | takenDown lost service => exact ⟨past, service ▸ attended⟩
  | removed service => exact ⟨past, service ▸ attended⟩

theorem Awaited.before (awaited : Awaited (log ++ events) next wait)
    (pending : wait ∈ state.service.shared.state.pending)
    (delivered : .delivered wait.challenge ∈ log) : Awaited log state wait :=
  ⟨pending, delivered,
    fun removed => awaited.2.2 (List.mem_append_left _ removed)⟩

theorem awaited_before (heard : Heard log state)
    {step : ThreadAction (HostIdentity.Phase scheme) HostIdentity.Choice}
    {logged : List (HostIdentity.Event scheme)}
    (moved : (HostIdentity.service scheme).machine.step state.service step =
      some (next.service, logged))
    (undelivered : ∀ challenge, .delivered challenge ∉ events)
    (awaited : Awaited (log ++ events) next wait) : Awaited log state wait := by
  have delivered := (List.mem_append.mp awaited.2.1).resolve_right
    (undelivered wait.challenge)
  have announced := HostIdentity.machine_announced heard.issuing moved
  cases announced.fresh wait awaited.1 with
  | inl old => exact awaited.before old delivered
  | inr fresh => exact absurd (heard.delivered _ delivered) fresh

theorem response_resolves {phase : HostIdentity.Phase scheme}
    {answer : HostKeyAnswer} {outcome : Except AppErrorInfo Unit}
    (answered : response phase = some outcome)
    (takes : answer.takesDown outcome = true) :
    ∃ request given, phase = .returned request given ∧
      given.resolves = true := by
  have missing : ∀ error : AppError,
      answer.takesDown (.error error.toInfo) = true →
      (error.kind == .hostKeyChallengeNotFound) = true := by
    intro error gone
    rw [HostKeyAnswer.takesDown, beq_iff_eq] at gone
    exact beq_iff_eq.mpr (AppErrorKind.code_injective gone)
  cases phase with
  | returned request given =>
      refine ⟨request, given, rfl, ?_⟩
      cases given with
      | result outcome =>
          obtain rfl := Option.some.inj answered
          cases outcome with
          | ok done => rfl
          | error error => exact missing error takes
      | rejected outcome =>
          obtain rfl := Option.some.inj answered
          cases outcome with
          | ok challenge => rfl
          | error error => exact missing error takes
      | _ => cases answered
  | _ => cases answered

/-- The cards of the challenges that the window has heard of. -/
structure Carded (endpoint : String → String × UInt16) (log : List Event)
    (state : State scheme) : Prop where
  heard : Heard log state
  attended : ∃ past, HostIdentity.Attended endpoint past state.service
  shown : ∀ wait, Awaited log state wait →
    state.store.hostKeyChallenges.lookup wait.challenge.sessionId =
      some wait.challenge

theorem Carded.answered {index : ℕ} (carded : Carded endpoint log state)
    (finds : answersCard state index = true) (awaited : Awaited log state wait) :
    takesDown state (.respond index) ≠ some wait.challenge.sessionId := by
  intro lost
  have found : named state index = some wait.challenge.challengeId := by
    simpa [answersCard, lost, carded.shown wait awaited] using finds
  obtain ⟨past, attended⟩ := carded.attended
  simp only [takesDown, answerTo] at lost
  cases called : state.calls[index]? with
  | none => simp [called] at lost
  | some call =>
      cases running : state.service.threads call.thread with
      | none => simp [called, running] at lost
      | some phase =>
          cases answered : response phase with
          | none => simp [called, running, answered] at lost
          | some outcome =>
              have takes : call.answer.takesDown outcome = true := by
                by_contra keeps
                simp [called, running, answered, keeps] at lost
              obtain ⟨request, given, rfl, resolves⟩ :=
                response_resolves answered takes
              have names : request.names = some wait.challenge.challengeId := by
                simpa [named, called, running, HostIdentity.Phase.names] using
                  found
              exact (attended.fits call.thread _ running resolves _ names).2
                wait awaited.1 rfl

theorem Carded.spared (carded : Carded endpoint log state)
    (orderly : Orderly endpoint log state action)
    (awaited : Awaited log state wait) :
    takesDown state action ≠ some wait.challenge.sessionId := by
  intro lost
  cases action with
  | respond index => exact carded.answered orderly.ordered awaited lost
  | deliver index =>
      obtain ⟨past, attended⟩ := carded.attended
      obtain ⟨thread, phase, running, verifies⟩ := attended.verified awaited.1
      exact orderly.connected index _ rfl lost thread phase running verifies
  | _ => cases lost

theorem Carded.delivered {challenge : HostIdentityChallenge}
    (carded : Carded endpoint log state)
    (turn : inTurn log state challenge = true)
    (awaited : Awaited log state wait)
    (same : wait.challenge.sessionId = challenge.sessionId) :
    wait.challenge = challenge := by
  obtain ⟨past, attended⟩ := carded.attended
  cases Bool.or_eq_true_iff.mp turn with
  | inl current =>
      obtain ⟨other, pending, own⟩ := List.any_eq_true.mp current
      obtain rfl := beq_iff_eq.mp own
      rw [attended.only awaited.1 pending same]
  | inr unheard =>
      have silent := List.all_eq_true.mp unheard wait awaited.1
      simp [same, awaited.2.1] at silent

theorem Carded.shown_step (carded : Carded endpoint log state)
    (orderly : Orderly endpoint log state action)
    (stepped : (machine scheme).step state action = some (next, events))
    (wait : ChallengeWait scheme)
    (awaited : Awaited (log ++ events) next wait) :
    next.store.hostKeyChallenges.lookup wait.challenge.sessionId =
      some wait.challenge := by
  cases step_effect stepped with
  | moved asked moved cards inbox undelivered spared =>
      rw [cards]
      exact carded.shown wait
        (awaited_before carded.heard moved undelivered awaited)
  | @delivered challenge index delivers waiting service cards inbox =>
      have turn : inTurn log state challenge = true := by
        simpa [delivers, ordered, waiting] using orderly.ordered
      rw [cards]
      rcases List.mem_append.mp awaited.2.1 with heard | own
      · have before := awaited.before (service ▸ awaited.1) heard
        by_cases same : wait.challenge.sessionId = challenge.sessionId
        · rw [carded.delivered turn before same, FiniteMap.lookup_insert_self]
        · rw [FiniteMap.lookup_insert_of_ne _ _ same]
          exact carded.shown wait before
      · obtain rfl := Event.delivered.inj (List.mem_singleton.mp own)
        exact FiniteMap.lookup_insert_self _ _ _
  | kept service cards inbox spared =>
      rw [List.append_nil, Awaited, service] at awaited
      rw [cards]
      exact carded.shown wait awaited
  | @takenDown sessionId lost service cards inbox =>
      rw [List.append_nil, Awaited, service] at awaited
      have different : wait.challenge.sessionId ≠ sessionId := by
        rintro rfl
        exact carded.spared orderly awaited lost
      rw [cards, FiniteMap.lookup_erase_of_ne _ different]
      exact carded.shown wait awaited
  | @removed sessionId service cards inbox =>
      have before : Awaited log state wait :=
        awaited.before (service ▸ awaited.1) (by simpa using awaited.2.1)
      have different : wait.challenge.sessionId ≠ sessionId := by
        rintro rfl
        exact awaited.2.2 (by simp)
      rw [cards, FiniteMap.lookup_erase_of_ne _ different]
      exact carded.shown wait before


theorem Carded.step (carded : Carded endpoint log state)
    (orderly : Orderly endpoint log state action)
    (stepped : (machine scheme).step state action = some (next, events)) :
    Carded endpoint (log ++ events) next where
  heard := carded.heard.step stepped
  attended := by
    obtain ⟨past, attended⟩ := carded.attended
    exact attended_step carded.heard attended orderly.ordered stepped
  shown := carded.shown_step orderly stepped

/-- While answers and events come in their order, each challenge that is pending
and has been delivered is shown, whatever decisions are under way. -/
theorem pending_shown {trustStore : Option TrustStore}
    {actions : List (Action scheme)}
    (run : (machine scheme).RunUnder (Orderly endpoint) [] (initial trustStore)
      actions log state)
    (pending : wait ∈ state.service.shared.state.pending)
    (delivered : .delivered wait.challenge ∈ log)
    (kept : .removed wait.challenge.sessionId ∉ log) :
    Shown log state.store wait.challenge := by
  have carded := run.invariant (Carded endpoint)
    ⟨initial_heard trustStore,
      ⟨[], HostIdentity.initial_attended endpoint trustStore⟩,
      fun wait awaited => by cases awaited.2.1⟩ Carded.step
  exact ⟨_, carded.shown wait ⟨pending, delivered, kept⟩, rfl, .inl rfl⟩

def raising (thread : ℕ) (key : PresentedHostKey HostKeyScheme.sample)
    (uuid : String) (superseded : ℕ) : List (Action .sample) :=
  [.service (.spawn thread (.entered (.verify "first" key))),
    .service (.advance thread {}), .service (.advance thread {}),
    .service (.advance thread { uuid := uuid })] ++
  List.replicate superseded (.service (.advance thread {})) ++
  [.service (.advance thread {}), .service (.advance thread {})]

def challengeWith (thread : ℕ) (key : PresentedHostKey HostKeyScheme.sample)
    (uuid : String) (superseded : ℕ) : List (Action .sample) :=
  raising thread key uuid superseded ++ [.deliver 0]

def challengeFor (key : PresentedHostKey HostKeyScheme.sample)
    (uuid : String) : ChallengeWait .sample :=
  .create "first" key none uuid 0

def sampleEndpoint (_ : String) : String × UInt16 :=
  ("10.0.0.8", 22)

/-- The condition for a run in which no status takes a card down. -/
def unconnected (log : List Event) (state : State .sample)
    (action : Action .sample) : Bool :=
  ordered sampleEndpoint log state action && match action with
    | .deliver _ => (takesDown state action).isNone
    | _ => true

theorem orderly_of_unconnected {log : List Event} {state : State .sample}
    {action : Action .sample}
    (permitted : unconnected log state action = true) :
    Orderly sampleEndpoint log state action := by
  obtain ⟨ordered, quiet⟩ := Bool.and_eq_true_iff.mp permitted
  refine ⟨ordered, ?_⟩
  rintro index sessionId rfl lost
  rw [lost] at quiet
  cases quiet

/-- The user accepts the first key, and the session is about to connect. -/
def acceptedRun : List (Action .sample) :=
  [.opened ⟨"first", "host", "10.0.0.8", 22, "root", .connecting, 0⟩] ++
  challengeWith 0 (HostKeyScheme.sampleKey 0x11) "one" 0 ++
  [.decide .accept "first" 1, .service (.advance 1 {}),
    .service (.advance 1 {}), .service (.advance 1 {}), .respond 0,
    .service (.advance 0 {}), .emitStatus ⟨"first", .connected, none⟩]

/-- A second key is superseded by a third one before it is accepted; the answer
comes before the third challenge. -/
def supersededRun : List (Action .sample) :=
  challengeWith 2 (HostKeyScheme.sampleKey 0x22) "two" 0 ++
  [.decide .accept "first" 3] ++
  raising 4 (HostKeyScheme.sampleKey 0x33) "three" 1 ++
  [.service (.advance 3 {}), .respond 0, .deliver 0]

theorem pending_shown_answered :
    ∃ log state,
      (machine .sample).RunUnder (Orderly sampleEndpoint) []
        (initial (some (.fromFilePath "/data/known_hosts" none)))
        (acceptedRun ++ [.deliver 0] ++ supersededRun) log state ∧
      Shown log state.store
        (challengeFor (HostKeyScheme.sampleKey 0x33) "three").challenge := by
  have executed : ∃ log accepted connected later state,
      (machine .sample).RunWhere unconnected []
        (initial (some (.fromFilePath "/data/known_hosts" none))) acceptedRun
        log accepted ∧
      (∃ request response,
        accepted.service.threads 0 = some (.returned request response)) ∧
      (∃ request response,
        accepted.service.threads 1 = some (.returned request response)) ∧
      (∀ thread, accepted.service.threads (thread + 2) = none) ∧
      ordered sampleEndpoint log accepted (.deliver 0) = true ∧
      takesDown accepted (.deliver 0) = some "first" ∧
      (machine .sample).step accepted (.deliver 0) = some (connected, []) ∧
      (machine .sample).RunWhere unconnected log connected supersededRun later
        state ∧
      challengeFor (HostKeyScheme.sampleKey 0x33) "three" ∈
        state.service.shared.state.pending ∧
      log = [
        .delivered (challengeFor (HostKeyScheme.sampleKey 0x11) "one").challenge,
        .named "one"] ∧
      later = [
        .delivered (challengeFor (HostKeyScheme.sampleKey 0x22) "two").challenge,
        .named "two",
        .delivered
          (challengeFor (HostKeyScheme.sampleKey 0x33) "three").challenge] :=
    ⟨_, _, _, _, _, Machine.runWhere_of_executeWhere rfl, ⟨_, _, rfl⟩,
      ⟨_, _, rfl⟩, fun _ => rfl, rfl, rfl, rfl,
      Machine.runWhere_of_executeWhere rfl, List.mem_singleton_self _, rfl, rfl⟩
  obtain ⟨log, accepted, connected, later, state, before, ⟨_, _, first⟩,
    ⟨_, _, second⟩, others, ordered, lost, stepped, after, pending, logEq,
    laterEq⟩ := executed
  have connects : Orderly sampleEndpoint ([] ++ log) accepted (.deliver 0) := by
    refine ⟨ordered, ?_⟩
    intro index sessionId _ taken
    obtain rfl := Option.some.inj (lost.symm.trans taken)
    rintro (_ | _ | thread) phase running
    · obtain rfl := Option.some.inj (first.symm.trans running)
      exact id
    · obtain rfl := Option.some.inj (second.symm.trans running)
      exact id
    · rw [others] at running
      cases running
  have run := ((before.mono orderly_of_unconnected).snoc connects stepped).append
    (by simpa using after.mono orderly_of_unconnected)
  exact ⟨_, state, run, pending_shown run pending (by simp [logEq, laterEq])
    (by simp [logEq, laterEq])⟩

/-- The user accepts a first key while the server presents a second one.  The
acceptance comes too late, and its answer comes after the second challenge. -/
def overtakenRun : List (Action .sample) :=
  challengeWith 0 (HostKeyScheme.sampleKey 0x11) "one" 0 ++
  [.decide .accept "first" 1] ++
  challengeWith 2 (HostKeyScheme.sampleKey 0x22) "two" 1 ++
  [.service (.advance 1 {}), .respond 0]

/-- The second challenge is pending and nobody has decided on it, but its card
is gone. -/
theorem late_answer_hides_challenge :
    ∃ log state,
      (machine .sample).Run
        (initial (some (.fromFilePath "/data/known_hosts" none))) overtakenRun
        log state ∧
      Awaited log state (challengeFor (HostKeyScheme.sampleKey 0x22) "two") ∧
      .named "two" ∉ log ∧
      ¬Shown log state.store
        (challengeFor (HostKeyScheme.sampleKey 0x22) "two").challenge := by
  have executed : ∃ log state,
      (machine .sample).Run
        (initial (some (.fromFilePath "/data/known_hosts" none))) overtakenRun
        log state ∧
      challengeFor (HostKeyScheme.sampleKey 0x22) "two" ∈
        state.service.shared.state.pending ∧
      log = [
        .delivered (challengeFor (HostKeyScheme.sampleKey 0x11) "one").challenge,
        .named "one",
        .delivered
          (challengeFor (HostKeyScheme.sampleKey 0x22) "two").challenge] ∧
      state.store.hostKeyChallenges.lookup "first" = none :=
    ⟨_, _, Machine.run_of_execute rfl, List.mem_singleton_self _, rfl, rfl⟩
  obtain ⟨log, state, run, pending, rfl, hidden⟩ := executed
  refine ⟨_, state, run, ⟨pending, by simp, by simp⟩, by simp, ?_⟩
  rintro ⟨card, found, -, -⟩
  exact absurd (hidden.symm.trans found) nofun

end Confirmation

end TitanSSH
