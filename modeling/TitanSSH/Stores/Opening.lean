import Mathlib.Data.List.Perm.Basic
import TitanSSH.Core.Terminal.Session
import TitanSSH.Library.KeyedStore
import TitanSSH.Models.Host
import TitanSSH.Stores.Session

namespace TitanSSH

open Interleaving

/-! Opening a session: the worker of the session runs before the window has been
told of the session, and its events come to the window by a way of their own. -/

/-- `SessionManager::open_session`; the id is a fresh one. -/
def SessionManager.openSession (host : HostConfig) (sessionId : String)
    (createdAt : ℤ) : SessionInfo where
  sessionId := sessionId
  hostId := host.id
  host := host.host
  port := host.port
  username := host.username
  status := .connecting
  createdAt := createdAt

def emitSessionStatus (sessionId : String) (status : SessionStatus)
    (message : Option String) : SessionStatusEvent where
  sessionId := sessionId
  status := status
  error := message.map fun detail => ⟨"Unknown", some detail⟩

namespace SessionEvent

/-- The `session:status` event that the worker emits. -/
def emits (sessionId : String) : SessionEvent → Option SessionStatusEvent
  | .waited (.published status message _) =>
      some (emitSessionStatus sessionId status (some message))
  | .worked (.status status message) =>
      some (emitSessionStatus sessionId status message)
  | _ => none

end SessionEvent

namespace SessionState

/-- The status that the window shows of a session. -/
def status? (state : SessionState) (sessionId : String) :
    Option SessionStatus :=
  (state.sessions.lookup sessionId).map fun session => session.status

end SessionState

namespace SessionOpening

/-- The workers of the backend, the answers to `open_session` and the events that
are under way, and the store of the window. -/
structure State where
  workers : KeyedStore String TerminalSession
  answers : List SessionInfo
  stream : String → List SessionStatusEvent
  store : SessionState

inductive Event
  | emitted (payload : SessionStatusEvent)
  | delivered (payload : SessionStatusEvent)
  | answered (session : SessionInfo)
  | removed (sessionId : String)
  deriving DecidableEq

/-- The status events of a session are delivered in order. -/
inductive Action
  | openSession (host : HostConfig) (sessionId : String) (createdAt : ℤ)
  | work (sessionId : String) (action : SessionAction)
  | answer (index : ℕ)
  | deliver (sessionId : String)
  | progress (payload : SessionProgressEvent)
  | challenge (payload : HostIdentityChallenge)
  | decide (answer : HostKeyAnswer) (sessionId : String)
      (response : Except AppErrorInfo Unit)
  | view (activeView : Option String)
  | close (sessionId : String)

abbrev Outcome := State × List Event

def initial : State :=
  ⟨fun _ => none, [], fun _ => [], .empty⟩

def stepOpen (state : State) (host : HostConfig) (sessionId : String)
    (createdAt : ℤ) : Option Outcome :=
  match state.workers sessionId with
  | some _ => none
  | none =>
      some ({ state with
        workers := state.workers.insert sessionId
          (.start ConnectWait.connectTotalTimeout)
        answers := state.answers ++
          [SessionManager.openSession host sessionId createdAt] }, [])

/-- The worker of the session goes on. -/
def resume (state : State) (sessionId : String) (worker : TerminalSession)
    (payloads : List SessionStatusEvent) : Outcome :=
  ({ state with
      workers := state.workers.insert sessionId worker
      stream := Function.update state.stream sessionId
        (state.stream sessionId ++ payloads) },
    payloads.map .emitted)

def stepWork (state : State) (sessionId : String) (action : SessionAction) :
    Option Outcome :=
  match state.workers sessionId with
  | none => none
  | some worker =>
      match worker.step action with
      | none => none
      | some (next, events) =>
          some (resume state sessionId next
            (events.filterMap (SessionEvent.emits sessionId)))

def stepAnswer (state : State) (index : ℕ) : Option Outcome :=
  match state.answers[index]? with
  | none => none
  | some session =>
      some ({ state with
        answers := state.answers.eraseIdx index
        store := state.store.openSession session }, [.answered session])

def stepDeliver (state : State) (sessionId : String) : Option Outcome :=
  match state.stream sessionId with
  | [] => none
  | payload :: rest =>
      some ({ state with
        stream := Function.update state.stream sessionId rest
        store := state.store.applySessionStatus payload },
        [.delivered payload])

def step (state : State) : Action → Option Outcome
  | .openSession host sessionId createdAt =>
      stepOpen state host sessionId createdAt
  | .work sessionId action => stepWork state sessionId action
  | .answer index => stepAnswer state index
  | .deliver sessionId => stepDeliver state sessionId
  | .progress payload =>
      some ({ state with store := state.store.applySessionProgress payload }, [])
  | .challenge payload =>
      some ({ state with
        store := state.store.applyHostIdentityChallenge payload }, [])
  | .decide answer sessionId response =>
      some ({ state with
        store := state.store.answered answer sessionId response },
        if answer.removes response then [.removed sessionId] else [])
  | .view activeView =>
      some ({ state with store := state.store.setActiveView activeView }, [])
  | .close sessionId =>
      some ({ state with store := state.store.removeSessionProjection sessionId },
        [.removed sessionId])

def machine : Machine State Action Event where
  step := step

/-! What a log says of one session. -/

def emittedOf (sessionId : String) (log : List Event) : List SessionStatus :=
  log.filterMap fun
    | .emitted payload =>
        if payload.sessionId = sessionId then some payload.status else none
    | _ => none

def deliveredOf (sessionId : String) (log : List Event) : List SessionStatus :=
  log.filterMap fun
    | .delivered payload =>
        if payload.sessionId = sessionId then some payload.status else none
    | _ => none

/-- Every session starts out as connecting. -/
def latest (statuses : List SessionStatus) : SessionStatus :=
  statuses.getLastD .connecting

variable {state next : State} {log events : List Event}
variable {sessionId : String}

@[simp] theorem emittedOf_append (sessionId : String)
    (log events : List Event) :
    emittedOf sessionId (log ++ events) =
      emittedOf sessionId log ++ emittedOf sessionId events :=
  List.filterMap_append

@[simp] theorem deliveredOf_append (sessionId : String)
    (log events : List Event) :
    deliveredOf sessionId (log ++ events) =
      deliveredOf sessionId log ++ deliveredOf sessionId events :=
  List.filterMap_append

theorem deliveredOf_emitted (sessionId : String)
    (payloads : List SessionStatusEvent) :
    deliveredOf sessionId (payloads.map .emitted) = [] := by
  simp [deliveredOf]

theorem emittedOf_emitted {payloads : List SessionStatusEvent}
    (addressed : ∀ payload ∈ payloads, payload.sessionId = sessionId) :
    emittedOf sessionId (payloads.map .emitted) =
      payloads.map fun payload => payload.status := by
  induction payloads with
  | nil => rfl
  | cons payload rest induction =>
      have own := addressed payload List.mem_cons_self
      have later := induction fun other member =>
        addressed other (List.mem_cons_of_mem _ member)
      simpa [emittedOf, own] using later

theorem emittedOf_emitted_of_ne {other : String}
    {payloads : List SessionStatusEvent}
    (addressed : ∀ payload ∈ payloads, payload.sessionId = sessionId)
    (different : other ≠ sessionId) :
    emittedOf other (payloads.map .emitted) = [] := by
  refine List.filterMap_eq_nil_iff.mpr fun event member => ?_
  obtain ⟨payload, sent, rfl⟩ := List.mem_map.mp member
  simp [addressed payload sent, different.symm]

theorem latest_append (before : List SessionStatus) {after : List SessionStatus}
    (more : after ≠ []) : latest (before ++ after) = latest after := by
  obtain ⟨earlier, last, rfl⟩ := (List.eq_nil_or_concat after).resolve_left more
  simp [latest]

/-! The store, told by the statuses that it shows. -/

end SessionOpening

namespace SessionState

variable {state : SessionState} {sessionId other : String}

theorem status?_openSession (state : SessionState) (session : SessionInfo) :
    (state.openSession session).status? sessionId =
      if sessionId = session.sessionId then some session.status
      else state.status? sessionId := by
  unfold status? openSession
  split
  · next same =>
      subst same
      simp
  · next different => simp [FiniteMap.lookup_insert_of_ne _ _ different]

theorem status?_applySessionStatus (state : SessionState)
    (payload : SessionStatusEvent) :
    (state.applySessionStatus payload).status? sessionId =
      if sessionId = payload.sessionId then
        (state.status? sessionId).map fun _ => payload.status
      else state.status? sessionId := by
  unfold status? applySessionStatus
  rcases eq_or_ne sessionId payload.sessionId with rfl | different
  · cases known : state.sessions.lookup payload.sessionId with
    | none => simp [known]
    | some current => simp
  · rw [if_neg different]
    cases state.sessions.lookup payload.sessionId with
    | none => rfl
    | some current => simp [FiniteMap.lookup_insert_of_ne _ _ different]

theorem status?_applySessionProgress (state : SessionState)
    (payload : SessionProgressEvent) :
    (state.applySessionProgress payload).status? sessionId =
      state.status? sessionId := by
  unfold applySessionProgress
  split
  · rfl
  · split <;> rfl

theorem status?_removeSessionProjection (state : SessionState)
    (different : sessionId ≠ other) :
    (state.removeSessionProjection other).status? sessionId =
      state.status? sessionId := by
  simp [status?, removeSessionProjection, withoutHostKeyProjection,
    FiniteMap.lookup_erase_of_ne _ different]

theorem status?_answered (state : SessionState) (answer : HostKeyAnswer)
    (response : Except AppErrorInfo Unit)
    (kept : answer.removes response = true → sessionId ≠ other) :
    (state.answered answer other response).status? sessionId =
      state.status? sessionId := by
  cases response with
  | error error =>
      cases answer <;>
        (simp only [answered, acceptAndSaveHostIdentity, acceptHostIdentity,
          rejectHostIdentity]; split <;> rfl)
  | ok done =>
      cases answer with
      | reject => exact status?_removeSessionProjection state (kept rfl)
      | _ => rfl

end SessionState

/-! No worker reports that it is connecting. -/

theorem TerminalWorker.status_begun {worker next : TerminalWorker}
    {action : WorkerAction} {events : List TerminalEvent}
    {status : SessionStatus} {message : Option String}
    (stepped : worker.step action = some (next, events))
    (member : .status status message ∈ events) : status ≠ .connecting := by
  cases step_move stepped <;> simp at member <;> simp [member]

theorem ConnectWait.published_begun {wait next : ConnectWait}
    {action : WaitAction} {events : List WaitEvent} {status : SessionStatus}
    {message : String} {time : ℕ}
    (stepped : wait.step action = some (next, events))
    (member : .published status message time ∈ events) :
    status ≠ .connecting := by
  cases step_move stepped with
  | @failed activePhase since error ended detail turn result mapped =>
      have begun := (mapPhaseErrorToStatus_ends activePhase error).2
      rw [mapped] at begun
      simp at member
      exact member.1 ▸ begun
  | _ => simp at member <;> simp [member]

namespace TerminalSession

variable {session next : TerminalSession} {action : SessionAction}
variable {events : List SessionEvent} {payload : SessionStatusEvent}
variable {sessionId : String}

theorem worked_begun {status : SessionStatus} {message : Option String}
    (stepped : session.step action = some (next, events))
    (member : .worked (.status status message) ∈ events) :
    status ≠ .connecting := by
  cases step_move stepped with
  | sent moved =>
      obtain ⟨event, known, same⟩ := List.mem_map.mp member
      exact TerminalWorker.status_begun moved (SessionEvent.worked.inj same ▸ known)
  | served taken stage moved =>
      obtain ⟨event, known, same⟩ := List.mem_map.mp member
      exact TerminalWorker.status_begun moved (SessionEvent.worked.inj same ▸ known)
  | @loadFailed error ended detail stage mapped =>
      have begun := (mapPhaseErrorToStatus_ends .loadingCredentials error).2
      rw [mapped] at begun
      simp at member
      exact member.1 ▸ begun
  | published stage turn =>
      simp at member
      simp [member]
  | waited taken stage moved =>
      obtain ⟨event, known, same⟩ := List.mem_map.mp member
      cases same
  | _ => simp at member

theorem waited_begun {status : SessionStatus} {message : String} {time : ℕ}
    (stepped : session.step action = some (next, events))
    (member : .waited (.published status message time) ∈ events) :
    status ≠ .connecting := by
  cases step_move stepped with
  | sent moved =>
      obtain ⟨event, known, same⟩ := List.mem_map.mp member
      cases same
  | served taken stage moved =>
      obtain ⟨event, known, same⟩ := List.mem_map.mp member
      cases same
  | waited taken stage moved =>
      obtain ⟨event, known, same⟩ := List.mem_map.mp member
      exact ConnectWait.published_begun moved (SessionEvent.waited.inj same ▸ known)
  | _ => simp at member

theorem emits_begun (stepped : session.step action = some (next, events))
    (emitted : payload ∈ events.filterMap (SessionEvent.emits sessionId)) :
    payload.sessionId = sessionId ∧ payload.status ≠ .connecting := by
  obtain ⟨event, member, emits⟩ := List.mem_filterMap.mp emitted
  unfold SessionEvent.emits at emits
  split at emits
  · obtain rfl := Option.some.inj emits
    exact ⟨rfl, waited_begun stepped member⟩
  · obtain rfl := Option.some.inj emits
    exact ⟨rfl, worked_begun stepped member⟩
  · cases emits

end TerminalSession

namespace SessionOpening

variable {state next : State} {log events : List Event}
variable {sessionId : String}

/-- What is under way, and what the window shows of a session since it knows it. -/
structure Follows (log : List Event) (state : State) : Prop where
  flows : ∀ sessionId, emittedOf sessionId log = deliveredOf sessionId log ++
    (state.stream sessionId).map fun payload => payload.status
  addressed : ∀ sessionId, ∀ payload ∈ state.stream sessionId,
    payload.sessionId = sessionId
  begun : ∀ sessionId, .connecting ∉ emittedOf sessionId log
  connecting : ∀ session ∈ state.answers, session.status = .connecting
  working : ∀ session, session ∈ state.answers ∨ .answered session ∈ log →
    state.workers session.sessionId ≠ none
  unique : (state.answers.map fun session => session.sessionId).Nodup
  once : ∀ session, .answered session ∈ log → ∀ other ∈ state.answers,
    other.sessionId ≠ session.sessionId
  shown : ∀ before session after, log = before ++ .answered session :: after →
    .removed session.sessionId ∉ after →
      state.store.status? session.sessionId =
        some (latest (deliveredOf session.sessionId after))

theorem follows_initial : Follows [] initial where
  flows := fun _ => rfl
  addressed := nofun
  begun := nofun
  connecting := nofun
  working := by
    intro session either
    cases either with
    | inl waiting => cases waiting
    | inr answered => cases answered
  unique := .nil
  once := nofun
  shown := by
    intro before session after split
    simp at split

theorem answered_before {session : SessionInfo}
    (unanswered : .answered session ∉ events)
    (member : .answered session ∈ log ++ events) : .answered session ∈ log :=
  (List.mem_append.mp member).resolve_right unanswered

theorem split_before {before after : List Event} {session : SessionInfo}
    (split : log ++ events = before ++ .answered session :: after)
    (unanswered : .answered session ∉ events) :
    ∃ middle, log = before ++ .answered session :: middle ∧
      after = middle ++ events := by
  cases split_append split with
  | inl known => exact known
  | inr later =>
      obtain ⟨middle, -, rfl⟩ := later
      exact absurd (by simp) unanswered

/-- The window changes, and no session but a removed one is shown in another
way. -/
theorem Follows.aside (follows : Follows log state) {store : SessionState}
    (removals : ∀ event ∈ events, ∃ sessionId, event = .removed sessionId)
    (kept : ∀ sessionId, .removed sessionId ∉ events →
      store.status? sessionId = state.store.status? sessionId) :
    Follows (log ++ events) { state with store := store } := by
  have emits : ∀ sessionId, emittedOf sessionId events = [] := by
    intro sessionId
    refine List.filterMap_eq_nil_iff.mpr fun event member => ?_
    obtain ⟨removed, rfl⟩ := removals event member
    rfl
  have delivers : ∀ sessionId, deliveredOf sessionId events = [] := by
    intro sessionId
    refine List.filterMap_eq_nil_iff.mpr fun event member => ?_
    obtain ⟨removed, rfl⟩ := removals event member
    rfl
  have unanswered : ∀ session, .answered session ∉ events := by
    intro session member
    obtain ⟨removed, impossible⟩ := removals _ member
    cases impossible
  refine ⟨?_, follows.addressed, ?_, follows.connecting, ?_, follows.unique, ?_,
    ?_⟩
  · intro sessionId
    rw [emittedOf_append, deliveredOf_append, emits, delivers, List.append_nil,
      List.append_nil]
    exact follows.flows sessionId
  · intro sessionId
    rw [emittedOf_append, emits, List.append_nil]
    exact follows.begun sessionId
  · exact fun session known =>
      follows.working session (known.imp_right (answered_before (unanswered session)))
  · exact fun session answered =>
      follows.once session (answered_before (unanswered session) answered)
  · intro before session after split unremoved
    obtain ⟨middle, rfl, rfl⟩ := split_before split (unanswered session)
    rw [List.mem_append, not_or] at unremoved
    rw [deliveredOf_append, delivers, List.append_nil,
      kept session.sessionId unremoved.2]
    exact follows.shown before session middle rfl unremoved.1

theorem Follows.opening (follows : Follows log state) {worker : TerminalSession}
    {session : SessionInfo} (fresh : state.workers session.sessionId = none)
    (connecting : session.status = .connecting) :
    Follows log { state with
      workers := state.workers.insert session.sessionId worker
      answers := state.answers ++ [session] } := by
  have unknown : ∀ other, other ∈ state.answers ∨ .answered other ∈ log →
      other.sessionId ≠ session.sessionId :=
    fun other known same => follows.working other known (same ▸ fresh)
  refine ⟨follows.flows, follows.addressed, follows.begun, ?_, ?_, ?_, ?_,
    follows.shown⟩
  · intro other member
    cases List.mem_append.mp member with
    | inl before => exact follows.connecting other before
    | inr new =>
        obtain rfl := List.mem_singleton.mp new
        exact connecting
  · intro other known
    by_cases same : other.sessionId = session.sessionId
    · simp [same]
    · change state.workers.insert session.sessionId worker other.sessionId ≠ none
      rw [KeyedStore.insert_of_ne same]
      refine follows.working other (known.imp_left fun member => ?_)
      refine (List.mem_append.mp member).resolve_right fun new => ?_
      exact same (List.mem_singleton.mp new ▸ rfl)
  · rw [List.map_append, List.nodup_append]
    refine ⟨follows.unique, by simp, ?_⟩
    intro before member after new same
    obtain ⟨other, waiting, rfl⟩ := List.mem_map.mp member
    obtain rfl := List.mem_singleton.mp new
    exact unknown other (.inl waiting) same
  · intro other answered another member
    cases List.mem_append.mp member with
    | inl before => exact follows.once other answered another before
    | inr new =>
        obtain rfl := List.mem_singleton.mp new
        exact (unknown other (.inr answered)).symm

theorem Follows.resume (follows : Follows log state) {worker : TerminalSession}
    {payloads : List SessionStatusEvent}
    (begun : ∀ payload ∈ payloads,
      payload.sessionId = sessionId ∧ payload.status ≠ .connecting) :
    Follows (log ++ (resume state sessionId worker payloads).2)
      (resume state sessionId worker payloads).1 := by
  have addressed : ∀ payload ∈ payloads, payload.sessionId = sessionId :=
    fun payload member => (begun payload member).1
  have unanswered : ∀ session,
      Event.answered session ∉ payloads.map Event.emitted := by
    simp
  refine ⟨?_, ?_, ?_, follows.connecting, ?_, follows.unique, ?_, ?_⟩
  · intro other
    change emittedOf other (log ++ payloads.map .emitted) =
      deliveredOf other (log ++ payloads.map .emitted) ++
        (Function.update state.stream sessionId
          (state.stream sessionId ++ payloads) other).map _
    rw [emittedOf_append, deliveredOf_append, deliveredOf_emitted,
      List.append_nil, follows.flows]
    rcases eq_or_ne other sessionId with rfl | different
    · rw [emittedOf_emitted addressed, Function.update_self, List.map_append,
        List.append_assoc]
    · rw [emittedOf_emitted_of_ne addressed different, List.append_nil,
        Function.update_of_ne different]
  · intro other payload member
    change payload ∈ Function.update state.stream sessionId
      (state.stream sessionId ++ payloads) other at member
    rcases eq_or_ne other sessionId with rfl | different
    · rw [Function.update_self] at member
      exact (List.mem_append.mp member).elim (follows.addressed other payload)
        (addressed payload)
    · rw [Function.update_of_ne different] at member
      exact follows.addressed other payload member
  · intro other member
    change .connecting ∈ emittedOf other (log ++ payloads.map .emitted) at member
    rw [emittedOf_append] at member
    cases List.mem_append.mp member with
    | inl before => exact follows.begun other before
    | inr now =>
        rcases eq_or_ne other sessionId with rfl | different
        · rw [emittedOf_emitted addressed] at now
          obtain ⟨payload, sent, same⟩ := List.mem_map.mp now
          exact (begun payload sent).2 same
        · rw [emittedOf_emitted_of_ne addressed different] at now
          cases now
  · intro session known
    change state.workers.insert sessionId worker session.sessionId ≠ none
    cases eq_or_ne session.sessionId sessionId with
    | inl same => simp [same]
    | inr different =>
        rw [KeyedStore.insert_of_ne different]
        exact follows.working session (known.imp_right (answered_before (unanswered session)))
  · exact fun session answered =>
      follows.once session (answered_before (unanswered session) answered)
  · intro before session after split unremoved
    obtain ⟨middle, rfl, rfl⟩ := split_before split (unanswered session)
    have silent : deliveredOf session.sessionId
        (SessionOpening.resume state sessionId worker payloads).2 = [] :=
      deliveredOf_emitted _ payloads
    rw [deliveredOf_append, silent, List.append_nil]
    exact follows.shown before session middle rfl
      fun member => unremoved (List.mem_append_left _ member)

theorem Follows.answer (follows : Follows log state) {index : ℕ}
    {session : SessionInfo} (found : state.answers[index]? = some session) :
    Follows (log ++ [.answered session]) { state with
      answers := state.answers.eraseIdx index
      store := state.store.openSession session } := by
  obtain ⟨within, same⟩ := List.getElem?_eq_some_iff.mp found
  have waiting : session ∈ state.answers := List.mem_of_getElem? found
  have fewer : state.answers.eraseIdx index ⊆ state.answers :=
    List.eraseIdx_subset
  have alone : ∀ other ∈ state.answers.eraseIdx index,
      other.sessionId ≠ session.sessionId := by
    have rearranged := (List.getElem_cons_eraseIdx_perm within).map
      fun session => session.sessionId
    have unique := rearranged.nodup_iff.mpr follows.unique
    rw [same, List.map_cons, List.nodup_cons] at unique
    exact fun other member equal =>
      unique.1 (List.mem_map.mpr ⟨other, member, equal⟩)
  have emits : ∀ sessionId, emittedOf sessionId [.answered session] = [] :=
    fun _ => rfl
  have delivers : ∀ sessionId, deliveredOf sessionId [.answered session] = [] :=
    fun _ => rfl
  refine ⟨?_, follows.addressed, ?_, ?_, ?_, ?_, ?_, ?_⟩
  · intro sessionId
    rw [emittedOf_append, deliveredOf_append, emits, delivers, List.append_nil,
      List.append_nil]
    exact follows.flows sessionId
  · intro sessionId
    rw [emittedOf_append, emits, List.append_nil]
    exact follows.begun sessionId
  · exact fun other member => follows.connecting other (fewer member)
  · intro other either
    cases either with
    | inl member => exact follows.working other (.inl (fewer member))
    | inr answered =>
        cases List.mem_append.mp answered with
        | inl before => exact follows.working other (.inr before)
        | inr now =>
            obtain rfl := Event.answered.inj (List.mem_singleton.mp now)
            exact follows.working other (.inl waiting)
  · exact follows.unique.sublist ((List.eraseIdx_sublist _ _).map _)
  · intro other answered another member
    cases List.mem_append.mp answered with
    | inl before => exact follows.once other before another (fewer member)
    | inr now =>
        obtain rfl := Event.answered.inj (List.mem_singleton.mp now)
        exact alone another member
  · intro before other after split unremoved
    change (state.store.openSession session).status? other.sessionId = _
    rw [SessionState.status?_openSession]
    rcases split_append split with ⟨middle, rfl, rfl⟩ | ⟨middle, -, new⟩
    · have different := follows.once other (by simp) session waiting
      rw [if_neg different.symm, deliveredOf_append, delivers, List.append_nil]
      exact follows.shown before other middle rfl
        fun member => unremoved (List.mem_append_left _ member)
    · obtain ⟨rfl, rfl, rfl⟩ : middle = [] ∧ other = session ∧ after = [] := by
        cases middle with
        | nil => simpa [eq_comm] using new
        | cons head tail => simp at new
      rw [if_pos rfl, follows.connecting other waiting]
      rfl

theorem Follows.deliver (follows : Follows log state)
    {payload : SessionStatusEvent} {rest : List SessionStatusEvent}
    (stream : state.stream sessionId = payload :: rest) :
    Follows (log ++ [.delivered payload]) { state with
      stream := Function.update state.stream sessionId rest
      store := state.store.applySessionStatus payload } := by
  obtain rfl : payload.sessionId = sessionId :=
    follows.addressed sessionId payload (stream ▸ List.mem_cons_self)
  have emits : ∀ sessionId, emittedOf sessionId [.delivered payload] = [] :=
    fun _ => rfl
  have unanswered : ∀ session, .answered session ∉ [Event.delivered payload] := by
    simp
  refine ⟨?_, ?_, ?_, follows.connecting, ?_, follows.unique, ?_, ?_⟩
  · intro other
    change emittedOf other (log ++ [.delivered payload]) =
      deliveredOf other (log ++ [.delivered payload]) ++
        (Function.update state.stream payload.sessionId rest other).map _
    rw [emittedOf_append, emits, List.append_nil, follows.flows,
      deliveredOf_append]
    rcases eq_or_ne other payload.sessionId with rfl | different
    · simp [stream, deliveredOf]
    · simp [deliveredOf, different, different.symm]
  · intro other later member
    change later ∈ Function.update state.stream payload.sessionId rest other
      at member
    rcases eq_or_ne other payload.sessionId with rfl | different
    · rw [Function.update_self] at member
      exact follows.addressed _ later (stream ▸ List.mem_cons_of_mem _ member)
    · rw [Function.update_of_ne different] at member
      exact follows.addressed other later member
  · intro other
    rw [emittedOf_append, emits, List.append_nil]
    exact follows.begun other
  · exact fun session known =>
      follows.working session (known.imp_right (answered_before (unanswered session)))
  · exact fun session answered =>
      follows.once session (answered_before (unanswered session) answered)
  · intro before session after split unremoved
    obtain ⟨middle, rfl, rfl⟩ := split_before split (unanswered session)
    have shown := follows.shown before session middle rfl
      fun member => unremoved (List.mem_append_left _ member)
    change (state.store.applySessionStatus payload).status? session.sessionId = _
    rw [SessionState.status?_applySessionStatus, deliveredOf_append, shown]
    split
    · next same => simp [deliveredOf, same, latest]
    · next different => simp [deliveredOf, Ne.symm different]

theorem Follows.step (follows : Follows log state) {action : Action}
    (stepped : machine.step state action = some (next, events)) :
    Follows (log ++ events) next := by
  cases action with
  | openSession host sessionId createdAt =>
      change stepOpen state host sessionId createdAt = _ at stepped
      unfold stepOpen at stepped
      split at stepped
      · cases stepped
      · next fresh =>
          obtain ⟨rfl, rfl⟩ := Prod.mk.inj (Option.some.inj stepped)
          rw [List.append_nil]
          exact @Follows.opening _ _ follows _
            (SessionManager.openSession host sessionId createdAt) fresh rfl
  | work sessionId action =>
      change stepWork state sessionId action = _ at stepped
      unfold stepWork at stepped
      split at stepped
      · cases stepped
      · next worker known =>
          split at stepped
          · cases stepped
          · next moved =>
              obtain ⟨rfl, rfl⟩ := Prod.mk.inj (Option.some.inj stepped)
              exact follows.resume fun payload =>
                TerminalSession.emits_begun moved
  | answer index =>
      change stepAnswer state index = _ at stepped
      unfold stepAnswer at stepped
      split at stepped
      · cases stepped
      · next session found =>
          obtain ⟨rfl, rfl⟩ := Prod.mk.inj (Option.some.inj stepped)
          exact follows.answer found
  | deliver sessionId =>
      change stepDeliver state sessionId = _ at stepped
      unfold stepDeliver at stepped
      split at stepped
      · cases stepped
      · next payload rest stream =>
          obtain ⟨rfl, rfl⟩ := Prod.mk.inj (Option.some.inj stepped)
          exact follows.deliver stream
  | progress payload =>
      obtain ⟨rfl, rfl⟩ := Prod.mk.inj (Option.some.inj stepped)
      exact follows.aside nofun
        fun _ _ => SessionState.status?_applySessionProgress _ _
  | challenge payload =>
      obtain ⟨rfl, rfl⟩ := Prod.mk.inj (Option.some.inj stepped)
      exact follows.aside nofun fun _ _ => rfl
  | decide answer sessionId response =>
      obtain ⟨rfl, rfl⟩ := Prod.mk.inj (Option.some.inj stepped)
      refine follows.aside ?_ ?_
      · intro event member
        split at member
        · exact ⟨sessionId, List.mem_singleton.mp member⟩
        · cases member
      · intro other kept
        refine SessionState.status?_answered _ answer response ?_
        intro removes same
        rw [if_pos removes, same] at kept
        exact kept List.mem_cons_self
  | view activeView =>
      obtain ⟨rfl, rfl⟩ := Prod.mk.inj (Option.some.inj stepped)
      exact follows.aside nofun fun _ _ => rfl
  | close sessionId =>
      obtain ⟨rfl, rfl⟩ := Prod.mk.inj (Option.some.inj stepped)
      refine follows.aside ?_ ?_
      · exact fun event member => ⟨sessionId, List.mem_singleton.mp member⟩
      · intro other kept
        refine SessionState.status?_removeSessionProjection _ fun same => kept ?_
        rw [same]
        exact List.mem_cons_self

theorem Follows.of_run {actions : List Action}
    (run : machine.Run initial actions log state) : Follows log state :=
  run.invariant follows_initial fun _ _ _ _ _ follows => follows.step

/-- With nothing under way, the window shows the last status exactly if it was told
of the session before the first event of it or before some later one. -/
theorem opening_shows_last {actions : List Action} {before after : List Event}
    {session : SessionInfo}
    (run : machine.Run initial actions (before ++ .answered session :: after)
      state)
    (delivered : state.stream session.sessionId = [])
    (kept : .removed session.sessionId ∉ after) :
    state.store.status? session.sessionId =
        some (latest (emittedOf session.sessionId
          (before ++ .answered session :: after))) ↔
      deliveredOf session.sessionId before = [] ∨
        deliveredOf session.sessionId after ≠ [] := by
  have follows := Follows.of_run run
  have flows := follows.flows session.sessionId
  have passed : deliveredOf session.sessionId
      (before ++ .answered session :: after) =
        deliveredOf session.sessionId before ++
          deliveredOf session.sessionId after :=
    deliveredOf_append session.sessionId before (.answered session :: after)
  rw [delivered, List.map_nil, List.append_nil, passed] at flows
  rw [follows.shown before session after rfl kept, flows, Option.some_inj]
  by_cases late : deliveredOf session.sessionId after = []
  · rw [late, List.append_nil]
    constructor
    · intro same
      refine .inl (by_contra fun early => ?_)
      have begun := follows.begun session.sessionId
      rw [flows, late, List.append_nil] at begun
      obtain ⟨earlier, last, split⟩ :=
        (List.eq_nil_or_concat _).resolve_left early
      rw [split] at same begun
      have connecting : last = .connecting := by
        simpa [latest, eq_comm] using same
      exact begun (by simp [connecting])
    · intro unseen
      rw [unseen.resolve_right (by simp)]
  · rw [latest_append _ late]
    simp [late]

def passwordHost : HostConfig :=
  ⟨"h", "name", "host", 22, "user", .password, some "ref", none, none, none, ""⟩

/-- The worker finds no credential, and the window is told of the session before. -/
theorem opening_shows_last_failed :
    ∃ after state,
      machine.Run initial
        [.openSession passwordHost "s" 0, .answer 0,
          .work "s" (.load (some ⟨.credentialNotFound, "ref"⟩)), .deliver "s"]
        ([] ++ .answered (SessionManager.openSession passwordHost "s" 0) :: after)
        state ∧
      state.store.status? "s" = some .error := by
  have executed : ∃ after state,
      machine.Run initial
        [.openSession passwordHost "s" 0, .answer 0,
          .work "s" (.load (some ⟨.credentialNotFound, "ref"⟩)), .deliver "s"]
        ([] ++ .answered (SessionManager.openSession passwordHost "s" 0) :: after)
        state ∧
      state.stream "s" = [] ∧ .removed "s" ∉ after ∧
      emittedOf "s" after = [.error] :=
    ⟨_, _, Machine.run_of_execute rfl, rfl, by decide, rfl⟩
  obtain ⟨after, state, run, delivered, kept, emits⟩ := executed
  refine ⟨after, state, run, ?_⟩
  have shown := (opening_shows_last run delivered kept).mpr (.inl rfl)
  exact shown.trans (congrArg (fun statuses => some (latest statuses)) emits)

/-- The worker finds no credential before the window has been told of the session:
the session is shown as connecting for good. -/
theorem early_failure_missed :
    ∃ actions log state, machine.Run initial actions log state ∧
      .answered (SessionManager.openSession passwordHost "s" 0) ∈ log ∧
      .removed "s" ∉ log ∧ state.answers = [] ∧ state.stream "s" = [] ∧
      emittedOf "s" log = [.error] ∧
      state.store.status? "s" = some .connecting := by
  refine ⟨[.openSession passwordHost "s" 0,
    .work "s" (.load (some ⟨.credentialNotFound, "ref"⟩)), .deliver "s",
    .answer 0], _, _, Machine.run_of_execute rfl, ?_, ?_, rfl, rfl, rfl, rfl⟩
  · exact List.mem_of_getLast? rfl
  · decide

end SessionOpening

end TitanSSH
