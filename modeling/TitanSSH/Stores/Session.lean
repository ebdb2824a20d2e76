import TitanSSH.Core.HostIdentity.HostKey
import TitanSSH.Library.FiniteMap
import TitanSSH.Models.Session

namespace TitanSSH

/-! The session store of the window.  What a call does after its `await` is a
function of its own. -/

structure SessionState where
  sessions : FiniteMap String SessionInfo
  activeView : Option String
  connections : FiniteMap String SessionConnection
  hostKeyChallenges : FiniteMap String HostIdentityChallenge
  hostKeySaveErrors : FiniteMap String AppErrorInfo

/-- The three decisions that a confirmation card offers. -/
inductive HostKeyAnswer
  | acceptAndSave
  | accept
  | reject
  deriving DecidableEq, Repr

def overlayStatus : SessionStatus → Bool
  | .connecting => true
  | .authFailed => true
  | .timeout => true
  | .error => true
  | _ => false

namespace SessionState

def empty : SessionState :=
  ⟨.empty, none, .empty, .empty, .empty⟩

def withoutHostKeyProjection (state : SessionState) (sessionId : String) :
    SessionState :=
  { state with
    hostKeyChallenges := state.hostKeyChallenges.erase sessionId
    hostKeySaveErrors := state.hostKeySaveErrors.erase sessionId }

def removeSessionProjection (state : SessionState) (sessionId : String) :
    SessionState :=
  { state.withoutHostKeyProjection sessionId with
    sessions := state.sessions.erase sessionId
    connections := state.connections.erase sessionId
    activeView :=
      if state.activeView = some sessionId then none else state.activeView }

def openSession (state : SessionState) (session : SessionInfo) :
    SessionState :=
  { state with
    sessions := state.sessions.insert session.sessionId session
    activeView := some session.sessionId
    connections := state.connections.insert session.sessionId ⟨none, none⟩ }

def setActiveView (state : SessionState) (activeView : Option String) :
    SessionState :=
  { state with activeView := activeView }

def applySessionStatus (state : SessionState) (payload : SessionStatusEvent) :
    SessionState :=
  match state.sessions.lookup payload.sessionId with
  | none => state
  | some current =>
      let projection :=
        if payload.status = .connected then
          state.withoutHostKeyProjection payload.sessionId
        else state
      { projection with
        sessions := state.sessions.insert payload.sessionId
          { current with status := payload.status }
        connections :=
          if overlayStatus payload.status then
            state.connections.insert payload.sessionId ⟨none, payload.error⟩
          else state.connections.erase payload.sessionId }

def applySessionProgress (state : SessionState)
    (payload : SessionProgressEvent) : SessionState :=
  match state.sessions.lookup payload.sessionId with
  | none => state
  | some current =>
      if current.status = .connecting then
        { state with
          connections := state.connections.insert payload.sessionId
            ⟨some payload.phase, none⟩ }
      else state

def applyHostIdentityChallenge (state : SessionState)
    (payload : HostIdentityChallenge) : SessionState :=
  { state with
    hostKeyChallenges :=
      state.hostKeyChallenges.insert payload.sessionId payload
    hostKeySaveErrors := state.hostKeySaveErrors.erase payload.sessionId }

def acceptAndSaveHostIdentity (state : SessionState) (sessionId : String) :
    Except AppErrorInfo Unit → SessionState
  | .error error =>
      if error.code ≠ "HostKeyChallengeNotFound" then
        { state with
          hostKeySaveErrors := state.hostKeySaveErrors.insert sessionId error }
      else state.withoutHostKeyProjection sessionId
  | .ok () => state.withoutHostKeyProjection sessionId

def acceptHostIdentity (state : SessionState) (sessionId : String) :
    Except AppErrorInfo Unit → SessionState
  | .error error =>
      if error.code ≠ "HostKeyChallengeNotFound" then state
      else state.withoutHostKeyProjection sessionId
  | .ok () => state.withoutHostKeyProjection sessionId

def rejectHostIdentity (state : SessionState) (sessionId : String) :
    Except AppErrorInfo Unit → SessionState
  | .error error =>
      if error.code ≠ "HostKeyChallengeNotFound" then state
      else state.withoutHostKeyProjection sessionId
  | .ok () => state.removeSessionProjection sessionId

/-- The rest of a decision, once its `invoke` has been answered. -/
def answered (state : SessionState) :
    HostKeyAnswer → String → Except AppErrorInfo Unit → SessionState
  | .acceptAndSave => state.acceptAndSaveHostIdentity
  | .accept => state.acceptHostIdentity
  | .reject => state.rejectHostIdentity

end SessionState

/-- The answer takes down the card of the session, and the session stays. -/
def HostKeyAnswer.takesDown (answer : HostKeyAnswer) :
    Except AppErrorInfo Unit → Bool
  | .error error => error.code == "HostKeyChallengeNotFound"
  | .ok () => answer != .reject

/-- The answer removes the session from the window. -/
def HostKeyAnswer.removes (answer : HostKeyAnswer) :
    Except AppErrorInfo Unit → Bool
  | .error _ => false
  | .ok () => answer == .reject

theorem HostKeyAnswer.removes_eq_false {answer : HostKeyAnswer}
    {response : Except AppErrorInfo Unit}
    (takesDown : answer.takesDown response = true) :
    answer.removes response = false := by
  cases response with
  | error error => rfl
  | ok done => cases answer <;> first | rfl | cases takesDown

namespace SessionState

variable {state : SessionState} {sessionId : String}
variable {answer : HostKeyAnswer} {response : Except AppErrorInfo Unit}

/-- The status takes down the card of its session. -/
def connects (state : SessionState) (payload : SessionStatusEvent) : Bool :=
  payload.status == .connected &&
    (state.sessions.lookup payload.sessionId).isSome

theorem answered_takesDown (takesDown : answer.takesDown response = true) :
    (state.answered answer sessionId response).hostKeyChallenges =
      state.hostKeyChallenges.erase sessionId := by
  cases response with
  | error error =>
      have missing : error.code = "HostKeyChallengeNotFound" := by
        simpa [HostKeyAnswer.takesDown] using takesDown
      cases answer <;>
        simp [answered, acceptAndSaveHostIdentity, acceptHostIdentity,
          rejectHostIdentity, withoutHostKeyProjection, missing]
  | ok done =>
      cases answer with
      | reject => cases takesDown
      | _ => rfl

theorem answered_removes (removes : answer.removes response = true) :
    (state.answered answer sessionId response).hostKeyChallenges =
      state.hostKeyChallenges.erase sessionId := by
  cases response with
  | error error => cases removes
  | ok done =>
      cases answer with
      | reject => rfl
      | _ => cases removes

theorem answered_keeps (takesDown : answer.takesDown response = false)
    (removes : answer.removes response = false) :
    (state.answered answer sessionId response).hostKeyChallenges =
      state.hostKeyChallenges := by
  cases response with
  | error error =>
      have other : error.code ≠ "HostKeyChallengeNotFound" := by
        simpa [HostKeyAnswer.takesDown] using takesDown
      cases answer <;>
        simp [answered, acceptAndSaveHostIdentity, acceptHostIdentity,
          rejectHostIdentity, other]
  | ok done =>
      cases answer with
      | reject => cases removes
      | _ => cases takesDown

theorem applySessionStatus_connects {payload : SessionStatusEvent}
    (connects : state.connects payload = true) :
    (state.applySessionStatus payload).hostKeyChallenges =
      state.hostKeyChallenges.erase payload.sessionId := by
  rw [SessionState.connects, Bool.and_eq_true, beq_iff_eq,
    Option.isSome_iff_exists] at connects
  obtain ⟨connected, current, known⟩ := connects
  simp [applySessionStatus, known, connected, withoutHostKeyProjection]

theorem applySessionStatus_keeps {payload : SessionStatusEvent}
    (connects : state.connects payload = false) :
    (state.applySessionStatus payload).hostKeyChallenges =
      state.hostKeyChallenges := by
  cases known : state.sessions.lookup payload.sessionId with
  | none => simp [applySessionStatus, known]
  | some current =>
      have waiting : payload.status ≠ .connected := by
        simpa [SessionState.connects, known] using connects
      simp [applySessionStatus, known, waiting]

@[simp] theorem applySessionProgress_cards (state : SessionState)
    (payload : SessionProgressEvent) :
    (state.applySessionProgress payload).hostKeyChallenges =
      state.hostKeyChallenges := by
  unfold applySessionProgress
  split
  · rfl
  · split <;> rfl

end SessionState

end TitanSSH
