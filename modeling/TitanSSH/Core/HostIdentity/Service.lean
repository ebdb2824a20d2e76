import Mathlib.Data.Finset.Filter
import Mathlib.Data.Finset.Insert
import TitanSSH.Core.HostIdentity.HostKey
import TitanSSH.Library.Interleaving
import TitanSSH.Storage.TrustStore

namespace TitanSSH

variable {scheme : HostKeyScheme}

/-! The state behind the service's lock, and its critical sections. -/

structure IdentityState (scheme : HostKeyScheme) where
  trusted : Finset IdentityKey
  pending : List (ChallengeWait scheme)
  pendingIndex : IdentityKey → Option String
  cancelled : Finset String

namespace IdentityState

def empty : IdentityState scheme :=
  ⟨∅, [], fun _ => none, ∅⟩

def find? (state : IdentityState scheme) (challengeId : String) :
    Option (ChallengeWait scheme) :=
  state.pending.find? (·.id == challengeId)

/-- Takes challenges out of `pending` and their keys out of the index. -/
def removeAll (state : IdentityState scheme)
    (targets : List (ChallengeWait scheme)) : IdentityState scheme :=
  { state with
    pending := state.pending.filter fun wait =>
      wait.id ∉ targets.map (·.id)
    pendingIndex := fun key =>
      if key ∈ targets.map (·.key) then none else state.pendingIndex key }

def insert (state : IdentityState scheme) (wait : ChallengeWait scheme) :
    IdentityState scheme :=
  { state with
    pending := state.pending ++ [wait]
    pendingIndex := Function.update state.pendingIndex wait.key (some wait.id) }

def trust (state : IdentityState scheme) (key : IdentityKey) :
    IdentityState scheme :=
  { state with trusted := Insert.insert key state.trusted }

/-- The pending challenges of the same session and endpoint for another key. -/
def superseded (state : IdentityState scheme) (sessionId : String)
    (presented : PresentedHostKey scheme) : List (ChallengeWait scheme) :=
  state.pending.filter fun other =>
    other.challenge.sessionId == sessionId &&
      other.challenge.host == presented.host &&
      other.challenge.port == presented.port &&
      other.challenge.fingerprint != presented.fingerprint

/-- The pending challenges, of any session, that a saved key settles too. -/
def releasedBy (state : IdentityState scheme) (wait : ChallengeWait scheme) :
    List (ChallengeWait scheme) :=
  state.pending.filter fun other =>
    other.challenge.host == wait.challenge.host &&
      other.challenge.port == wait.challenge.port &&
      other.challenge.keyAlgorithm == wait.challenge.keyAlgorithm &&
      other.presentedBlob == wait.presentedBlob

def ofSession (state : IdentityState scheme) (sessionId : String) :
    List (ChallengeWait scheme) :=
  state.pending.filter (·.challenge.sessionId == sessionId)

def close (state : IdentityState scheme) (sessionId : String) :
    IdentityState scheme :=
  { state.removeAll (state.ofSession sessionId) with
    trusted := state.trusted.filter (·.sessionId ≠ sessionId)
    cancelled := Insert.insert sessionId state.cancelled }

end IdentityState

/-- What the threads share: the locked state, the trust store with its own
lock, and the decision of each challenge with the lock of that challenge. -/
structure IdentityShared (scheme : HostKeyScheme) where
  state : IdentityState scheme
  trustStore : Option TrustStore
  decisions : ChallengeWait scheme → Option Decision
  issued : Finset String

namespace HostIdentity

def cancelledError (sessionId : String) : AppError :=
  ⟨.hostKeyVerificationCancelled, sessionId⟩

def notFoundError (challengeId : String) : AppError :=
  ⟨.hostKeyChallengeNotFound, challengeId⟩

def rejectedError (challenge : HostIdentityChallenge) : AppError :=
  ⟨.hostKeyRejected, challenge.host ++ ":" ++ toString challenge.port ++ " (" ++
    challenge.fingerprint ++ ")"⟩

inductive Request (scheme : HostKeyScheme)
  | verify (sessionId : String) (presented : PresentedHostKey scheme)
  | accept (challengeId : String)
  | acceptAndSave (challengeId : String)
  | reject (challengeId : String)
  | cancelSession (sessionId : String)
  | cancelAll
  | forgetEndpoint (host : String) (port : UInt16)
  | listTrustedHosts

inductive Response
  | result (outcome : Except AppError Unit)
  | rejected (outcome : Except AppError HostIdentityChallenge)
  | done
  | listed (outcome : Except AppError (List TrustedHostInfo))

/-- Where a call stands between two of its critical sections. -/
inductive Phase (scheme : HostKeyScheme)
  | entered (request : Request scheme)
  | lookup (sessionId : String) (presented : PresentedHostKey scheme)
  -- the code still holds the lock of the trust store here; the model lets other
  -- calls in, so its runs include those of the code
  | matched (sessionId : String) (presented : PresentedHostKey scheme)
  | unmatched (sessionId : String) (presented : PresentedHostKey scheme)
      (stored : Option TrustRecord)
  | announcing (sessionId : String) (presented : PresentedHostKey scheme)
      (wait : ChallengeWait scheme)
  | waiting (sessionId : String) (presented : PresentedHostKey scheme)
      (wait : ChallengeWait scheme)
  | deciding (decision : Decision) (own : Option (ChallengeWait scheme))
      (others : List (ChallengeWait scheme)) (next : Phase scheme)
  | cancellingAll (remaining : List String)
  | returned (request : Request scheme) (response : Response)
  | panicked

inductive Event (scheme : HostKeyScheme)
  | started (thread : ℕ) (request : Request scheme)
  | lookedUp (thread : ℕ) (sessionId : String)
      (presented : PresentedHostKey scheme) (stored : Option TrustRecord)
  | challenged (thread : ℕ) (sessionId : String)
      (presented : PresentedHostKey scheme) (stored : Option TrustRecord)
      (wait : ChallengeWait scheme)
  | announced (challenge : HostIdentityChallenge)
  | accepted (thread : ℕ) (wait : ChallengeWait scheme)
  | saved (thread : ℕ) (wait : ChallengeWait scheme)
      (previous : Option TrustRecord)
  | rejected (thread : ℕ) (wait : ChallengeWait scheme)
  | closed (thread : ℕ) (sessionId : String)
  | forgotten (host : String) (port : UInt16) (previous : Option TrustRecord)
  | decided (wait : ChallengeWait scheme) (decision : Decision)
  | returned (thread : ℕ) (request : Request scheme) (response : Response)

/-- What a step cannot determine itself: the file system, a fresh id, the time,
and the order in which a hash map is walked. -/
structure Choice where
  io : StoreIo := {}
  uuid : String := ""
  now : ℤ := 0
  pick : ℕ := 0

abbrev Outcome (scheme : HostKeyScheme) :=
  IdentityShared scheme × Phase scheme × List (Event scheme)

def respond (thread : ℕ) (shared : IdentityShared scheme)
    (request : Request scheme) (response : Response)
    (events : List (Event scheme)) : Outcome scheme :=
  (shared, .returned request response,
    events ++ [.returned thread request response])

/-- What the locked state alone answers to a verification. -/
def settled (state : IdentityState scheme) (sessionId : String)
    (presented : PresentedHostKey scheme) : Option (Except AppError Unit) :=
  if sessionId ∈ state.cancelled then some (.error (cancelledError sessionId))
  else if .ofPresented sessionId presented ∈ state.trusted then some (.ok ())
  else none

def stepEnter (thread : ℕ) (shared : IdentityShared scheme)
    (sessionId : String) (presented : PresentedHostKey scheme) :
    Outcome scheme :=
  match settled shared.state sessionId presented with
  | some outcome =>
      respond thread shared (.verify sessionId presented) (.result outcome) []
  | none => (shared, .lookup sessionId presented, [])

def stepLookup (thread : ℕ) (choice : Choice) (shared : IdentityShared scheme)
    (sessionId : String) (presented : PresentedHostKey scheme) :
    Outcome scheme :=
  match shared.trustStore with
  | none =>
      (shared, .unmatched sessionId presented none,
        [.lookedUp thread sessionId presented none])
  | some store =>
      match store.lookup choice.io presented.host presented.port with
      | (.error error, store) =>
          respond thread { shared with trustStore := some store }
            (.verify sessionId presented) (.result (.error error)) []
      | (.ok stored, store) =>
          ({ shared with trustStore := some store },
            if stored.any (·.matchesKey presented.host presented.port
                presented.algorithm presented.blob) then
              .matched sessionId presented
            else .unmatched sessionId presented stored,
            [.lookedUp thread sessionId presented stored])

def stepMatched (thread : ℕ) (shared : IdentityShared scheme)
    (sessionId : String) (presented : PresentedHostKey scheme) :
    Outcome scheme :=
  if sessionId ∈ shared.state.cancelled then
    respond thread shared (.verify sessionId presented)
      (.result (.error (cancelledError sessionId))) []
  else
    respond thread
      { shared with
        state := shared.state.trust (.ofPresented sessionId presented) }
      (.verify sessionId presented) (.result (.ok ())) []

/-- A new challenge takes the place of those for other keys. -/
def stepChallenge (thread : ℕ) (choice : Choice)
    (shared : IdentityShared scheme) (sessionId : String)
    (presented : PresentedHostKey scheme) (stored : Option TrustRecord) :
    Outcome scheme :=
  let superseded := shared.state.superseded sessionId presented
  let wait := ChallengeWait.create sessionId presented stored choice.uuid
    choice.now
  ({ shared with
      state := (shared.state.removeAll superseded).insert wait
      decisions := Function.update shared.decisions wait none
      issued := Insert.insert choice.uuid shared.issued },
    .deciding .cancelled none superseded
      (.announcing sessionId presented wait),
    [.challenged thread sessionId presented stored wait])

def stepUnmatched (thread : ℕ) (choice : Choice)
    (shared : IdentityShared scheme) (sessionId : String)
    (presented : PresentedHostKey scheme) (stored : Option TrustRecord) :
    Option (Outcome scheme) :=
  match settled shared.state sessionId presented with
  | some outcome =>
      some (respond thread shared (.verify sessionId presented)
        (.result outcome) [])
  | none =>
      match shared.state.pendingIndex (.ofPresented sessionId presented) with
      | some challengeId =>
          match shared.state.find? challengeId with
          | some wait => some (shared, .waiting sessionId presented wait, [])
          | none => some (shared, .panicked, [])
      | none =>
          if choice.uuid ∈ shared.issued then none
          else some (stepChallenge thread choice shared sessionId presented
            stored)

def waitResult (wait : ChallengeWait scheme) (sessionId : String) :
    Decision → Except AppError Unit
  | .accepted => .ok ()
  | .rejected => .error (rejectedError wait.challenge)
  | .cancelled => .error (cancelledError sessionId)

def stepWaiting (thread : ℕ) (shared : IdentityShared scheme)
    (sessionId : String) (presented : PresentedHostKey scheme)
    (wait : ChallengeWait scheme) : Option (Outcome scheme) :=
  match shared.decisions wait with
  | none => none
  | some decision =>
      some (respond thread shared (.verify sessionId presented)
        (.result (waitResult wait sessionId decision)) [])

def stepAccept (thread : ℕ) (shared : IdentityShared scheme)
    (challengeId : String) : Outcome scheme :=
  match shared.state.find? challengeId with
  | none =>
      respond thread shared (.accept challengeId)
        (.result (.error (notFoundError challengeId))) []
  | some wait =>
      ({ shared with state := (shared.state.removeAll [wait]).trust wait.key },
        .deciding .accepted (some wait) []
          (.returned (.accept challengeId) (.result (.ok ()))),
        [.accepted thread wait])

def stepAcceptAndSave (thread : ℕ) (choice : Choice)
    (shared : IdentityShared scheme) (challengeId : String) :
    Outcome scheme :=
  match shared.state.find? challengeId with
  | none =>
      respond thread shared (.acceptAndSave challengeId)
        (.result (.error (notFoundError challengeId))) []
  | some wait =>
      match shared.trustStore with
      | none =>
          respond thread shared (.acceptAndSave challengeId)
            (.result (.error ⟨.hostKeySaveFailed,
              "信任存储未初始化，无法持久化信任记录"⟩)) []
      | some store =>
          match store.upsert choice.io wait.record with
          | (.error error, after) =>
              respond thread { shared with trustStore := some after }
                (.acceptAndSave challengeId)
                (.result (.error ⟨.hostKeySaveFailed, error.toString⟩)) []
          | (.ok (), after) =>
              let own := (shared.state.removeAll [wait]).trust wait.key
              let others := own.releasedBy wait
              ({ shared with
                  state := own.removeAll others
                  trustStore := some after },
                .deciding .accepted (some wait) others
                  (.returned (.acceptAndSave challengeId) (.result (.ok ()))),
                [.saved thread wait
                  (store.recordAt wait.challenge.host wait.challenge.port)])

def stepReject (thread : ℕ) (shared : IdentityShared scheme)
    (challengeId : String) : Outcome scheme :=
  match shared.state.find? challengeId with
  | none =>
      respond thread shared (.reject challengeId)
        (.rejected (.error (notFoundError challengeId))) []
  | some wait =>
      ({ shared with state := shared.state.removeAll [wait] },
        .deciding .rejected (some wait) []
          (.returned (.reject challengeId) (.rejected (.ok wait.challenge))),
        [.rejected thread wait])

def stepCancelSession (thread : ℕ) (shared : IdentityShared scheme)
    (sessionId : String) : Outcome scheme :=
  ({ shared with state := shared.state.close sessionId },
    .deciding .cancelled none (shared.state.ofSession sessionId)
      (.returned (.cancelSession sessionId) .done),
    [.closed thread sessionId])

/-- One round of `cancel_all`: take a challenge out, if it is still there. -/
def stepCancellingAll (thread : ℕ) (choice : Choice)
    (shared : IdentityShared scheme) (remaining : List String) :
    Option (Outcome scheme) :=
  match remaining with
  | [] => some (respond thread shared .cancelAll .done [])
  | _ =>
      match remaining[choice.pick]? with
      | none => none
      | some challengeId =>
          let rest := remaining.eraseIdx choice.pick
          match shared.state.find? challengeId with
          | none => some (shared, .cancellingAll rest, [])
          | some wait =>
              some ({ shared with state := shared.state.removeAll [wait] },
                .deciding .cancelled (some wait) [] (.cancellingAll rest), [])

def stepForgetEndpoint (thread : ℕ) (choice : Choice)
    (shared : IdentityShared scheme) (host : String) (port : UInt16) :
    Outcome scheme :=
  match shared.trustStore with
  | none =>
      respond thread shared (.forgetEndpoint host port)
        (.result (.error ⟨.trustStoreError,
          "信任存储未初始化，无法清理信任记录"⟩)) []
  | some store =>
      match store.remove choice.io host port with
      | (.error error, after) =>
          respond thread { shared with trustStore := some after }
            (.forgetEndpoint host port) (.result (.error error)) []
      | (.ok (), after) =>
          respond thread { shared with trustStore := some after }
            (.forgetEndpoint host port) (.result (.ok ()))
            [.forgotten host port (store.recordAt host port)]

def trustedHostInfo (scheme : HostKeyScheme) (record : TrustRecord) :
    TrustedHostInfo :=
  ⟨record.host, record.port, record.algorithm,
    scheme.fingerprintSha256 record.blob⟩

def stepListTrustedHosts (thread : ℕ) (choice : Choice)
    (shared : IdentityShared scheme) : Outcome scheme :=
  match shared.trustStore with
  | none => respond thread shared .listTrustedHosts (.listed (.ok [])) []
  | some store =>
      match store.list choice.io with
      | (.error error, after) =>
          respond thread { shared with trustStore := some after }
            .listTrustedHosts (.listed (.error error)) []
      | (.ok records, after) =>
          respond thread { shared with trustStore := some after }
            .listTrustedHosts
            (.listed (.ok (records.map (trustedHostInfo scheme)))) []

def decide (shared : IdentityShared scheme) (wait : ChallengeWait scheme)
    (decision : Decision) : IdentityShared scheme :=
  { shared with
    decisions := Function.update shared.decisions wait (some decision) }

/-- What a call logs as it goes on after its decisions. -/
def arrival (thread : ℕ) : Phase scheme → List (Event scheme)
  | .returned request response => [.returned thread request response]
  | _ => []

/-- A call writes its own decision first, then the others in any order. -/
def stepDeciding (thread : ℕ) (choice : Choice)
    (shared : IdentityShared scheme) (decision : Decision)
    (own : Option (ChallengeWait scheme))
    (others : List (ChallengeWait scheme)) (next : Phase scheme) :
    Option (Outcome scheme) :=
  match own, others with
  | some wait, _ =>
      some (decide shared wait decision,
        .deciding decision none others next, [.decided wait decision])
  | none, [] => some (shared, next, arrival thread next)
  | none, _ =>
      match others[choice.pick]? with
      | none => none
      | some wait =>
          some (decide shared wait decision,
            .deciding decision none (others.eraseIdx choice.pick) next,
            [.decided wait decision])

def stepRequest (thread : ℕ) (choice : Choice)
    (shared : IdentityShared scheme) : Request scheme → Outcome scheme
  | .verify sessionId presented => stepEnter thread shared sessionId presented
  | .accept challengeId => stepAccept thread shared challengeId
  | .acceptAndSave challengeId =>
      stepAcceptAndSave thread choice shared challengeId
  | .reject challengeId => stepReject thread shared challengeId
  | .cancelSession sessionId => stepCancelSession thread shared sessionId
  | .cancelAll =>
      (shared, .cancellingAll (shared.state.pending.map (·.id)), [])
  | .forgetEndpoint host port =>
      stepForgetEndpoint thread choice shared host port
  | .listTrustedHosts => stepListTrustedHosts thread choice shared

def step (thread : ℕ) (choice : Choice) (shared : IdentityShared scheme) :
    Phase scheme → Option (Outcome scheme)
  | .entered request => some (stepRequest thread choice shared request)
  | .lookup sessionId presented =>
      some (stepLookup thread choice shared sessionId presented)
  | .matched sessionId presented =>
      some (stepMatched thread shared sessionId presented)
  | .unmatched sessionId presented stored =>
      stepUnmatched thread choice shared sessionId presented stored
  | .announcing sessionId presented wait =>
      some (shared, .waiting sessionId presented wait,
        [.announced wait.challenge])
  | .waiting sessionId presented wait =>
      stepWaiting thread shared sessionId presented wait
  | .deciding decision own others next =>
      stepDeciding thread choice shared decision own others next
  | .cancellingAll remaining => stepCancellingAll thread choice shared remaining
  | .returned _ _ => none
  | .panicked => none

/-- The calls of the service, each in its own thread. -/
def service (scheme : HostKeyScheme) :
    Interleaving.Program (IdentityShared scheme) (Phase scheme) Choice
      (Event scheme) where
  admits
    | .entered _ => true
    | _ => false
  opened thread
    | .entered request => [.started thread request]
    | _ => []
  step := step

/-- The service as the application starts it, over any trust store. -/
def initial (trustStore : Option TrustStore) :
    Interleaving.Config (IdentityShared scheme) (Phase scheme) :=
  ⟨⟨.empty, trustStore, fun _ => none, ∅⟩, fun _ => none⟩

end HostIdentity

end TitanSSH
