import TitanSSH.Core.HostIdentity.Announcements
import TitanSSH.Stores.Session

namespace TitanSSH

open Interleaving

namespace Confirmation

variable {scheme : HostKeyScheme}

/-! The window beside the service.  Between the two are decisions that have not
been answered and events that have not been delivered. -/

/-- An `invoke` of a decision, run by a thread of the service. -/
structure Invocation where
  answer : HostKeyAnswer
  sessionId : String
  thread : ℕ

inductive Payload
  | challenge (payload : HostIdentityChallenge)
  | status (payload : SessionStatusEvent)
  | progress (payload : SessionProgressEvent)

structure State (scheme : HostKeyScheme) where
  service : HostIdentity.ServiceConfig scheme
  store : SessionState
  calls : List Invocation
  inbox : List Payload

inductive Event
  | delivered (challenge : HostIdentityChallenge)
  | named (challengeId : String)
  | removed (sessionId : String)
  deriving DecidableEq

/-- What can happen next.  Statuses and progress may be reported at any time,
and an `invoke` may fail in between with any error of its own. -/
inductive Action (scheme : HostKeyScheme)
  | service (action : ThreadAction (HostIdentity.Phase scheme)
      HostIdentity.Choice)
  | emitStatus (payload : SessionStatusEvent)
  | emitProgress (payload : SessionProgressEvent)
  | deliver (index : ℕ)
  | decide (answer : HostKeyAnswer) (sessionId : String) (thread : ℕ)
  | respond (index : ℕ)
  | fail (index : ℕ) (error : AppErrorInfo)
  | opened (session : SessionInfo)
  | closed (sessionId : String)
  | viewed (activeView : Option String)

def request (challengeId : String) :
    HostKeyAnswer → HostIdentity.Request scheme
  | .acceptAndSave => .acceptAndSave challengeId
  | .accept => .accept challengeId
  | .reject => .reject challengeId

/-- The requests that only a decision of the user makes. -/
def decides : HostIdentity.Phase scheme → Bool
  | .entered (.acceptAndSave _) => true
  | .entered (.accept _) => true
  | .entered (.reject _) => true
  | _ => false

def announcements (events : List (HostIdentity.Event scheme)) : List Payload :=
  events.filterMap fun
    | .announced challenge => some (.challenge challenge)
    | _ => none

def info (outcome : Except AppError Unit) : Except AppErrorInfo Unit :=
  outcome.mapError AppError.toInfo

/-- What the window is answered when the thread has returned. -/
def response : HostIdentity.Phase scheme → Option (Except AppErrorInfo Unit)
  | .returned _ (.result outcome) => some (info outcome)
  | .returned _ (.rejected outcome) => some (info (outcome.map fun _ => ()))
  | _ => none

abbrev Outcome (scheme : HostKeyScheme) := State scheme × List Event

def stepService (state : State scheme)
    (action : ThreadAction (HostIdentity.Phase scheme) HostIdentity.Choice) :
    Option (Outcome scheme) :=
  match (HostIdentity.service scheme).machine.step state.service action with
  | none => none
  | some (service, events) =>
      some ({ state with
        service := service
        inbox := state.inbox ++ announcements events }, [])

def deliver (state : State scheme) : Payload → Outcome scheme
  | .challenge payload =>
      ({ state with store := state.store.applyHostIdentityChallenge payload },
        [.delivered payload])
  | .status payload =>
      ({ state with store := state.store.applySessionStatus payload }, [])
  | .progress payload =>
      ({ state with store := state.store.applySessionProgress payload }, [])

def stepDeliver (state : State scheme) (index : ℕ) :
    Option (Outcome scheme) :=
  match state.inbox[index]? with
  | none => none
  | some payload =>
      some (deliver { state with inbox := state.inbox.eraseIdx index } payload)

/-- A decision on the card that the session shows, if it shows one. -/
def stepDecide (state : State scheme) (answer : HostKeyAnswer)
    (sessionId : String) (thread : ℕ) : Option (Outcome scheme) :=
  match state.store.hostKeyChallenges.lookup sessionId with
  | none => some (state, [])
  | some challenge =>
      match (HostIdentity.service scheme).machine.step state.service
          (.spawn thread (.entered (request challenge.challengeId answer))) with
      | none => none
      | some (service, _) =>
          some ({ state with
            service := service
            calls := state.calls ++ [⟨answer, sessionId, thread⟩] },
            [.named challenge.challengeId])

def settle (state : State scheme) (index : ℕ) (call : Invocation)
    (response : Except AppErrorInfo Unit) : Outcome scheme :=
  ({ state with
      store := state.store.answered call.answer call.sessionId response
      calls := state.calls.eraseIdx index },
    if call.answer.removes response then [.removed call.sessionId] else [])

def answerTo (state : State scheme) (index : ℕ) :
    Option (Invocation × Except AppErrorInfo Unit) :=
  match state.calls[index]? with
  | none => none
  | some call =>
      match (state.service.threads call.thread).bind response with
      | none => none
      | some response => some (call, response)

def stepRespond (state : State scheme) (index : ℕ) :
    Option (Outcome scheme) :=
  match answerTo state index with
  | none => none
  | some (call, response) => some (settle state index call response)

def stepFail (state : State scheme) (index : ℕ) (error : AppErrorInfo) :
    Option (Outcome scheme) :=
  if error.code = "HostKeyChallengeNotFound" then none
  else
    match state.calls[index]? with
    | none => none
    | some call => some (settle state index call (.error error))

def step (state : State scheme) : Action scheme → Option (Outcome scheme)
  | .service (.spawn thread start) =>
      if decides start then none else stepService state (.spawn thread start)
  | .service (.advance thread choice) =>
      stepService state (.advance thread choice)
  | .emitStatus payload =>
      some ({ state with inbox := state.inbox ++ [.status payload] }, [])
  | .emitProgress payload =>
      some ({ state with inbox := state.inbox ++ [.progress payload] }, [])
  | .deliver index => stepDeliver state index
  | .decide answer sessionId thread => stepDecide state answer sessionId thread
  | .respond index => stepRespond state index
  | .fail index error => stepFail state index error
  | .opened session =>
      some ({ state with store := state.store.openSession session }, [])
  | .closed sessionId =>
      some ({ state with store := state.store.removeSessionProjection sessionId },
        [.removed sessionId])
  | .viewed activeView =>
      some ({ state with store := state.store.setActiveView activeView }, [])

def machine (scheme : HostKeyScheme) :
    Machine (State scheme) (Action scheme) Event where
  step := step

def initial (trustStore : Option TrustStore) : State scheme :=
  ⟨HostIdentity.initial trustStore, .empty, [], []⟩

/-- The session whose card the action takes down, if it does that. -/
def takesDown (state : State scheme) : Action scheme → Option String
  | .respond index =>
      match answerTo state index with
      | none => none
      | some (call, response) =>
          if call.answer.takesDown response then some call.sessionId else none
  | .deliver index =>
      match state.inbox[index]? with
      | some (.status payload) =>
          if state.store.connects payload then some payload.sessionId else none
      | _ => none
  | _ => none

/-- What the action has the service do. -/
inductive Asks (state : State scheme) : Action scheme →
    ThreadAction (HostIdentity.Phase scheme) HostIdentity.Choice → Prop
  | own {moving : ThreadAction (HostIdentity.Phase scheme) HostIdentity.Choice}
      (undecided : ∀ thread start, moving = .spawn thread start →
        decides start = false) :
      Asks state (.service moving) moving
  | decision {answer : HostKeyAnswer} {sessionId : String} {thread : ℕ}
      {card : HostIdentityChallenge}
      (shown : state.store.hostKeyChallenges.lookup sessionId = some card) :
      Asks state (.decide answer sessionId thread)
        (.spawn thread (.entered (request card.challengeId answer)))

/-- What a step does to the cards, and what it takes from the service. -/
inductive Effect (action : Action scheme) (state next : State scheme) :
    List Event → Prop
  | moved {logged : List (HostIdentity.Event scheme)}
      {step : ThreadAction (HostIdentity.Phase scheme) HostIdentity.Choice}
      {events : List Event} (asked : Asks state action step)
      (stepped : (HostIdentity.service scheme).machine.step state.service step =
        some (next.service, logged))
      (cards : next.store.hostKeyChallenges = state.store.hostKeyChallenges)
      (inbox : ∀ challenge, .challenge challenge ∈ next.inbox →
        .challenge challenge ∈ state.inbox ∨ .announced challenge ∈ logged)
      (undelivered : ∀ challenge, .delivered challenge ∉ events)
      (spared : takesDown state action = none) :
      Effect action state next events
  | delivered {challenge : HostIdentityChallenge} {index : ℕ}
      (delivers : action = .deliver index)
      (waiting : state.inbox[index]? = some (.challenge challenge))
      (service : next.service = state.service)
      (cards : next.store.hostKeyChallenges =
        state.store.hostKeyChallenges.insert challenge.sessionId challenge)
      (inbox : next.inbox ⊆ state.inbox)
      (spared : takesDown state action = none) :
      Effect action state next [.delivered challenge]
  | kept (service : next.service = state.service)
      (cards : next.store.hostKeyChallenges = state.store.hostKeyChallenges)
      (inbox : ∀ challenge, .challenge challenge ∈ next.inbox →
        .challenge challenge ∈ state.inbox)
      (spared : takesDown state action = none) :
      Effect action state next []
  | takenDown {sessionId : String}
      (lost : takesDown state action = some sessionId)
      (service : next.service = state.service)
      (cards : next.store.hostKeyChallenges =
        state.store.hostKeyChallenges.erase sessionId)
      (inbox : next.inbox ⊆ state.inbox) :
      Effect action state next []
  | removed {sessionId : String}
      (service : next.service = state.service)
      (cards : next.store.hostKeyChallenges =
        state.store.hostKeyChallenges.erase sessionId)
      (inbox : next.inbox ⊆ state.inbox)
      (spared : takesDown state action = none) :
      Effect action state next [.removed sessionId]

variable {state next : State scheme} {action : Action scheme}
variable {events : List Event}

theorem mem_announcements {challenge : HostIdentityChallenge}
    {logged : List (HostIdentity.Event scheme)}
    (announced : .challenge challenge ∈ announcements logged) :
    .announced challenge ∈ logged := by
  obtain ⟨event, member, found⟩ := List.mem_filterMap.mp announced
  cases event with
  | announced other =>
      obtain rfl := Payload.challenge.inj (Option.some.inj found)
      exact member
  | _ => cases found

theorem stepService_effect
    {moving : ThreadAction (HostIdentity.Phase scheme) HostIdentity.Choice}
    (undecided : ∀ thread start, moving = .spawn thread start →
      decides start = false)
    (stepped : stepService state moving = some (next, events)) :
    Effect (.service moving) state next events := by
  unfold stepService at stepped
  cases moved : (HostIdentity.service scheme).machine.step state.service
      moving with
  | none => simp [moved] at stepped
  | some result =>
      obtain ⟨service, logged⟩ := result
      simp only [moved, Option.some.injEq, Prod.mk.injEq] at stepped
      obtain ⟨rfl, rfl⟩ := stepped
      refine .moved (.own undecided) moved rfl ?_ (by simp) rfl
      intro challenge member
      cases List.mem_append.mp member with
      | inl before => exact .inl before
      | inr announced => exact .inr (mem_announcements announced)

theorem stepDecide_effect {answer : HostKeyAnswer} {sessionId : String}
    {thread : ℕ}
    (stepped : stepDecide state answer sessionId thread =
      some (next, events)) :
    Effect (.decide answer sessionId thread) state next events := by
  unfold stepDecide at stepped
  cases shown : state.store.hostKeyChallenges.lookup sessionId with
  | none =>
      simp only [shown, Option.some.injEq, Prod.mk.injEq] at stepped
      obtain ⟨rfl, rfl⟩ := stepped
      exact .kept rfl rfl (fun _ member => member) rfl
  | some challenge =>
      cases moved : (HostIdentity.service scheme).machine.step state.service
          (.spawn thread
            (.entered (request challenge.challengeId answer))) with
      | none => simp [shown, moved] at stepped
      | some result =>
          obtain ⟨service, logged⟩ := result
          simp only [shown, moved, Option.some.injEq, Prod.mk.injEq] at stepped
          obtain ⟨rfl, rfl⟩ := stepped
          exact .moved (.decision shown) moved rfl
            (fun _ member => .inl member) (by simp) rfl

theorem stepDeliver_effect {index : ℕ}
    (stepped : stepDeliver state index = some (next, events)) :
    Effect (.deliver index) state next events := by
  unfold stepDeliver at stepped
  cases waiting : state.inbox[index]? with
  | none => simp [waiting] at stepped
  | some payload =>
      have remaining := List.eraseIdx_subset (l := state.inbox) (k := index)
      simp only [waiting, Option.some.injEq] at stepped
      cases payload with
      | challenge payload =>
          obtain ⟨rfl, rfl⟩ := Prod.mk.inj stepped
          exact .delivered rfl waiting rfl rfl remaining
            (by simp [takesDown, waiting])
      | status payload =>
          obtain ⟨rfl, rfl⟩ := Prod.mk.inj stepped
          cases connects : state.store.connects payload with
          | false =>
              exact .kept rfl (SessionState.applySessionStatus_keeps connects)
                (fun _ kept => remaining kept)
                (by simp [takesDown, waiting, connects])
          | true =>
              refine .takenDown ?_ rfl
                (SessionState.applySessionStatus_connects connects) remaining
              simp [takesDown, waiting, connects]
      | progress payload =>
          obtain ⟨rfl, rfl⟩ := Prod.mk.inj stepped
          exact .kept rfl (SessionState.applySessionProgress_cards _ _)
            (fun _ kept => remaining kept) (by simp [takesDown, waiting])

theorem settle_effect {index : ℕ} {call : Invocation}
    {answer : Except AppErrorInfo Unit}
    (lost : takesDown state action =
      if call.answer.takesDown answer then some call.sessionId else none)
    (settled : settle state index call answer = (next, events)) :
    Effect action state next events := by
  obtain ⟨rfl, rfl⟩ := Prod.mk.inj settled
  cases takes : call.answer.takesDown answer with
  | true =>
      rw [HostKeyAnswer.removes_eq_false takes]
      exact .takenDown (by rw [lost, takes, if_pos rfl]) rfl
        (SessionState.answered_takesDown takes) fun _ member => member
  | false =>
      have spared : takesDown state action = none := by simp [lost, takes]
      cases removes : call.answer.removes answer with
      | true =>
          exact .removed rfl (SessionState.answered_removes removes)
            (fun _ member => member) spared
      | false =>
          exact .kept rfl (SessionState.answered_keeps takes removes)
            (fun _ member => member) spared

theorem stepRespond_effect {index : ℕ}
    (stepped : stepRespond state index = some (next, events)) :
    Effect (.respond index) state next events := by
  unfold stepRespond at stepped
  cases answered : answerTo state index with
  | none => simp [answered] at stepped
  | some result =>
      obtain ⟨call, response⟩ := result
      simp only [answered, Option.some.injEq] at stepped
      refine settle_effect ?_ stepped
      simp [takesDown, answered]

theorem stepFail_effect {index : ℕ} {error : AppErrorInfo}
    (stepped : stepFail state index error = some (next, events)) :
    Effect (.fail index error) state next events := by
  unfold stepFail at stepped
  split at stepped
  · cases stepped
  · rename_i other
    cases called : state.calls[index]? with
    | none => simp [called] at stepped
    | some call =>
        simp only [called, Option.some.injEq] at stepped
        refine settle_effect ?_ stepped
        simp [takesDown, HostKeyAnswer.takesDown, other]

theorem step_effect
    (stepped : (machine scheme).step state action = some (next, events)) :
    Effect action state next events := by
  cases action with
  | service moving =>
      cases moving with
      | spawn thread start =>
          cases deciding : decides start with
          | true => simp [machine, step, deciding] at stepped
          | false =>
              have moved : stepService state (.spawn thread start) =
                  some (next, events) := by
                simpa [machine, step, deciding] using stepped
              refine stepService_effect ?_ moved
              rintro _ _ ⟨⟩
              exact deciding
      | advance thread choice =>
          exact stepService_effect (fun _ _ same => by cases same) stepped
  | emitStatus payload =>
      obtain ⟨rfl, rfl⟩ := Prod.mk.inj (Option.some.inj stepped)
      exact .kept rfl rfl (by simp) rfl
  | emitProgress payload =>
      obtain ⟨rfl, rfl⟩ := Prod.mk.inj (Option.some.inj stepped)
      exact .kept rfl rfl (by simp) rfl
  | deliver index => exact stepDeliver_effect stepped
  | decide answer sessionId thread => exact stepDecide_effect stepped
  | respond index => exact stepRespond_effect stepped
  | fail index error => exact stepFail_effect stepped
  | opened session =>
      obtain ⟨rfl, rfl⟩ := Prod.mk.inj (Option.some.inj stepped)
      exact .kept rfl rfl (fun _ member => member) rfl
  | closed sessionId =>
      obtain ⟨rfl, rfl⟩ := Prod.mk.inj (Option.some.inj stepped)
      exact .removed rfl rfl (fun _ member => member) rfl
  | viewed activeView =>
      obtain ⟨rfl, rfl⟩ := Prod.mk.inj (Option.some.inj stepped)
      exact .kept rfl rfl (fun _ member => member) rfl

end Confirmation

end TitanSSH
