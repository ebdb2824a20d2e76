import TitanSSH.Core.HostIdentity.Service

namespace TitanSSH

namespace HostIdentity

variable {scheme : HostKeyScheme}

/-! What one step of a call can do, one constructor for each branch. -/

/-- The two trust stores answer alike. -/
def SameRecords (before after : Option TrustStore) : Prop :=
  after.map (·.contents) = before.map (·.contents)

/-- The calls that can fail, or only report, in their one section. -/
def Request.declinable : Request scheme → Bool
  | .accept _ => true
  | .acceptAndSave _ => true
  | .reject _ => true
  | .forgetEndpoint _ _ => true
  | .listTrustedHosts => true
  | _ => false

inductive Move (thread : ℕ) : IdentityShared scheme → Phase scheme →
    IdentityShared scheme → Phase scheme → List (Event scheme) → Prop
  | answered {shared sessionId presented outcome}
      (known : settled shared.state sessionId presented = some outcome) :
      Move thread shared (.entered (.verify sessionId presented)) shared
        (.returned (.verify sessionId presented) (.result outcome))
        [.returned thread (.verify sessionId presented) (.result outcome)]
  | entering {shared sessionId presented}
      (unknown : settled shared.state sessionId presented = none) :
      Move thread shared (.entered (.verify sessionId presented)) shared
        (.lookup sessionId presented) []
  | storeMissing {shared sessionId presented}
      (missing : shared.trustStore = none) :
      Move thread shared (.lookup sessionId presented) shared
        (.unmatched sessionId presented none)
        [.lookedUp thread sessionId presented none]
  | lookupFailed {shared sessionId presented error store}
      (known : shared.trustStore = some store) :
      Move thread shared (.lookup sessionId presented) shared
        (.returned (.verify sessionId presented) (.result (.error error)))
        [.returned thread (.verify sessionId presented)
          (.result (.error error))]
  | lookupMatched {shared sessionId presented store after record}
      (known : shared.trustStore = some store)
      (same : after.contents = store.contents)
      (found : store.recordAt presented.host presented.port = some record)
      (matching : record = ⟨presented.host, presented.port,
        presented.algorithm, presented.blob⟩) :
      Move thread shared (.lookup sessionId presented)
        { shared with trustStore := some after } (.matched sessionId presented)
        [.lookedUp thread sessionId presented (some record)]
  | lookupUnmatched {shared sessionId presented store after stored}
      (known : shared.trustStore = some store)
      (same : after.contents = store.contents)
      (found : store.recordAt presented.host presented.port = stored)
      (different : stored ≠ some ⟨presented.host, presented.port,
        presented.algorithm, presented.blob⟩) :
      Move thread shared (.lookup sessionId presented)
        { shared with trustStore := some after }
        (.unmatched sessionId presented stored)
        [.lookedUp thread sessionId presented stored]
  | matchedClosed {shared sessionId presented}
      (closed : sessionId ∈ shared.state.cancelled) :
      Move thread shared (.matched sessionId presented) shared
        (.returned (.verify sessionId presented)
          (.result (.error (cancelledError sessionId))))
        [.returned thread (.verify sessionId presented)
          (.result (.error (cancelledError sessionId)))]
  | matchedTrusted {shared sessionId presented}
      (opened : sessionId ∉ shared.state.cancelled) :
      Move thread shared (.matched sessionId presented)
        { shared with
          state := shared.state.trust (.ofPresented sessionId presented) }
        (.returned (.verify sessionId presented) (.result (.ok ())))
        [.returned thread (.verify sessionId presented) (.result (.ok ()))]
  | answeredLate {shared sessionId presented stored outcome}
      (known : settled shared.state sessionId presented = some outcome) :
      Move thread shared (.unmatched sessionId presented stored) shared
        (.returned (.verify sessionId presented) (.result outcome))
        [.returned thread (.verify sessionId presented) (.result outcome)]
  | merged {shared sessionId presented stored challengeId wait}
      (unknown : settled shared.state sessionId presented = none)
      (indexed : shared.state.pendingIndex (.ofPresented sessionId presented) =
        some challengeId)
      (found : shared.state.find? challengeId = some wait) :
      Move thread shared (.unmatched sessionId presented stored) shared
        (.waiting sessionId presented wait) []
  | panicked {shared sessionId presented stored challengeId}
      (indexed : shared.state.pendingIndex (.ofPresented sessionId presented) =
        some challengeId)
      (missing : shared.state.find? challengeId = none) :
      Move thread shared (.unmatched sessionId presented stored) shared
        .panicked []
  | challenged {shared sessionId presented stored uuid now}
      (unknown : settled shared.state sessionId presented = none)
      (unindexed :
        shared.state.pendingIndex (.ofPresented sessionId presented) = none)
      (fresh : uuid ∉ shared.issued) :
      Move thread shared (.unmatched sessionId presented stored)
        { shared with
          state := (shared.state.removeAll
            (shared.state.superseded sessionId presented)).insert
              (.create sessionId presented stored uuid now)
          decisions := Function.update shared.decisions
            (.create sessionId presented stored uuid now) none
          issued := Insert.insert uuid shared.issued }
        (.deciding .cancelled none (shared.state.superseded sessionId presented)
          (.announcing sessionId presented
            (.create sessionId presented stored uuid now)))
        [.challenged thread sessionId presented stored
          (.create sessionId presented stored uuid now)]
  | announced {shared sessionId presented wait} :
      Move thread shared (.announcing sessionId presented wait) shared
        (.waiting sessionId presented wait) [.announced wait.challenge]
  | awaited {shared sessionId presented wait decision}
      (decided : shared.decisions wait = some decision) :
      Move thread shared (.waiting sessionId presented wait) shared
        (.returned (.verify sessionId presented)
          (.result (waitResult wait sessionId decision)))
        [.returned thread (.verify sessionId presented)
          (.result (waitResult wait sessionId decision))]
  | acceptedOnce {shared challengeId wait}
      (found : shared.state.find? challengeId = some wait) :
      Move thread shared (.entered (.accept challengeId))
        { shared with
          state := (shared.state.removeAll [wait]).trust wait.key }
        (.deciding .accepted (some wait) []
          (.returned (.accept challengeId) (.result (.ok ()))))
        [.accepted thread wait]
  | acceptedAndSaved {shared challengeId wait store after}
      (found : shared.state.find? challengeId = some wait)
      (known : shared.trustStore = some store)
      (saved : after.contents = store.contents.filter
        (!·.atEndpoint wait.record.host wait.record.port) ++ [wait.record]) :
      Move thread shared (.entered (.acceptAndSave challengeId))
        { shared with
          state := ((shared.state.removeAll [wait]).trust wait.key).removeAll
            (((shared.state.removeAll [wait]).trust wait.key).releasedBy wait)
          trustStore := some after }
        (.deciding .accepted (some wait)
          (((shared.state.removeAll [wait]).trust wait.key).releasedBy wait)
          (.returned (.acceptAndSave challengeId) (.result (.ok ()))))
        [.saved thread wait
          (store.recordAt wait.challenge.host wait.challenge.port)]
  | rejectedOne {shared challengeId wait}
      (found : shared.state.find? challengeId = some wait) :
      Move thread shared (.entered (.reject challengeId))
        { shared with state := shared.state.removeAll [wait] }
        (.deciding .rejected (some wait) []
          (.returned (.reject challengeId) (.rejected (.ok wait.challenge))))
        [.rejected thread wait]
  | closed {shared sessionId} :
      Move thread shared (.entered (.cancelSession sessionId))
        { shared with state := shared.state.close sessionId }
        (.deciding .cancelled none (shared.state.ofSession sessionId)
          (.returned (.cancelSession sessionId) .done))
        [.closed thread sessionId]
  | cancellingAll {shared} :
      Move thread shared (.entered .cancelAll) shared
        (.cancellingAll (shared.state.pending.map (·.id))) []
  | cancelledAll {shared} :
      Move thread shared (.cancellingAll []) shared (.returned .cancelAll .done)
        [.returned thread .cancelAll .done]
  | skipped {shared remaining rest challengeId}
      (taken : remaining.Perm (challengeId :: rest))
      (missing : shared.state.find? challengeId = none) :
      Move thread shared (.cancellingAll remaining) shared (.cancellingAll rest)
        []
  | withdrawn {shared remaining rest challengeId wait}
      (taken : remaining.Perm (challengeId :: rest))
      (found : shared.state.find? challengeId = some wait) :
      Move thread shared (.cancellingAll remaining)
        { shared with state := shared.state.removeAll [wait] }
        (.deciding .cancelled (some wait) [] (.cancellingAll rest)) []
  | forgotten {shared host port store after}
      (known : shared.trustStore = some store)
      (removed : after.contents =
        store.contents.filter (!·.atEndpoint host port)) :
      Move thread shared (.entered (.forgetEndpoint host port))
        { shared with trustStore := some after }
        (.returned (.forgetEndpoint host port) (.result (.ok ())))
        [.forgotten host port (store.recordAt host port),
          .returned thread (.forgetEndpoint host port) (.result (.ok ()))]
  | declined {shared request response after}
      (other : request.declinable = true)
      (same : SameRecords shared.trustStore after) :
      Move thread shared (.entered request) { shared with trustStore := after }
        (.returned request response) [.returned thread request response]
  | decidedOwn {shared decision wait others next} :
      Move thread shared (.deciding decision (some wait) others next)
        (decide shared wait decision) (.deciding decision none others next)
        [.decided wait decision]
  | decidedOther {shared decision wait others rest next}
      (taken : others.Perm (wait :: rest)) :
      Move thread shared (.deciding decision none others next)
        (decide shared wait decision) (.deciding decision none rest next)
        [.decided wait decision]
  | resumed {shared decision next} :
      Move thread shared (.deciding decision none [] next) shared next
        (arrival thread next)

variable {thread : ℕ} {choice : Choice}
variable {shared next : IdentityShared scheme} {phase after : Phase scheme}
variable {events : List (Event scheme)}

theorem sameRecords_of_eq {store after : TrustStore}
    {stored : Option TrustStore} (known : stored = some store)
    (same : after.contents = store.contents) :
    SameRecords stored (some after) := by
  simp [SameRecords, known, same]

theorem stepLookup_move {sessionId : String}
    {presented : PresentedHostKey scheme}
    (stepped : stepLookup thread choice shared sessionId presented =
      (next, after, events)) :
    Move thread shared (.lookup sessionId presented) next after events := by
  unfold stepLookup at stepped
  cases known : shared.trustStore with
  | none =>
      simp only [known, Prod.mk.injEq] at stepped
      obtain ⟨rfl, rfl, rfl⟩ := stepped
      exact .storeMissing known
  | some store =>
      rcases looked : store.lookup choice.io presented.host presented.port with
        ⟨outcome, later⟩
      cases outcome with
      | error error =>
          obtain rfl := TrustStore.lookup_error looked
          have unchanged : { shared with trustStore := some later } = shared := by
            rw [← known]
          simp only [known, looked, respond, unchanged, List.nil_append,
            Prod.mk.injEq] at stepped
          obtain ⟨rfl, rfl, rfl⟩ := stepped
          exact .lookupFailed known
      | ok stored =>
          obtain ⟨found, same⟩ := TrustStore.lookup_ok looked
          simp only [known, looked, Prod.mk.injEq] at stepped
          obtain ⟨rfl, rfl, rfl⟩ := stepped
          split
          · rename_i matching
            obtain ⟨record, rfl, accepted⟩ := Option.any_eq_true _ _ |>.mp matching
            exact .lookupMatched known same found.symm
              (TrustRecord.matchesKey_iff.mp accepted)
          · rename_i different
            refine .lookupUnmatched known same found.symm ?_
            rintro rfl
            exact different (by simp)

theorem stepUnmatched_move {sessionId : String}
    {presented : PresentedHostKey scheme} {stored : Option TrustRecord}
    (stepped : stepUnmatched thread choice shared sessionId presented stored =
      some (next, after, events)) :
    Move thread shared (.unmatched sessionId presented stored) next after
      events := by
  unfold stepUnmatched at stepped
  cases known : settled shared.state sessionId presented with
  | some outcome =>
      simp only [known, respond, List.nil_append, Option.some.injEq,
        Prod.mk.injEq] at stepped
      obtain ⟨rfl, rfl, rfl⟩ := stepped
      exact .answeredLate known
  | none =>
      cases indexed : shared.state.pendingIndex
          (.ofPresented sessionId presented) with
      | some challengeId =>
          cases found : shared.state.find? challengeId with
          | some wait =>
              simp only [known, indexed, found, Option.some.injEq,
                Prod.mk.injEq] at stepped
              obtain ⟨rfl, rfl, rfl⟩ := stepped
              exact .merged known indexed found
          | none =>
              simp only [known, indexed, found, Option.some.injEq,
                Prod.mk.injEq] at stepped
              obtain ⟨rfl, rfl, rfl⟩ := stepped
              exact .panicked indexed found
      | none =>
          by_cases fresh : choice.uuid ∈ shared.issued
          · simp [known, indexed, fresh] at stepped
          · simp only [known, indexed, fresh, if_false, stepChallenge,
              Option.some.injEq, Prod.mk.injEq] at stepped
            obtain ⟨rfl, rfl, rfl⟩ := stepped
            exact .challenged known indexed fresh

theorem stepAcceptAndSave_move {challengeId : String}
    (stepped : stepAcceptAndSave thread choice shared challengeId =
      (next, after, events)) :
    Move thread shared (.entered (.acceptAndSave challengeId)) next after
      events := by
  unfold stepAcceptAndSave at stepped
  cases found : shared.state.find? challengeId with
  | none =>
      simp only [found, respond, List.nil_append, Prod.mk.injEq] at stepped
      obtain ⟨rfl, rfl, rfl⟩ := stepped
      exact .declined rfl rfl
  | some wait =>
      cases known : shared.trustStore with
      | none =>
          simp only [found, known, respond, List.nil_append,
            Prod.mk.injEq] at stepped
          obtain ⟨rfl, rfl, rfl⟩ := stepped
          exact .declined rfl rfl
      | some store =>
          rcases saved : store.upsert choice.io wait.record with
            ⟨outcome, later⟩
          cases outcome with
          | error error =>
              simp only [found, known, saved, respond, List.nil_append,
                Prod.mk.injEq] at stepped
              obtain ⟨rfl, rfl, rfl⟩ := stepped
              exact .declined rfl
                (sameRecords_of_eq known (TrustStore.upsert_error saved))
          | ok _ =>
              simp only [found, known, saved, Prod.mk.injEq] at stepped
              obtain ⟨rfl, rfl, rfl⟩ := stepped
              exact .acceptedAndSaved found known (TrustStore.upsert_ok saved)

theorem stepForgetEndpoint_move {host : String} {port : UInt16}
    (stepped : stepForgetEndpoint thread choice shared host port =
      (next, after, events)) :
    Move thread shared (.entered (.forgetEndpoint host port)) next after
      events := by
  unfold stepForgetEndpoint at stepped
  cases known : shared.trustStore with
  | none =>
      simp only [known, respond, List.nil_append, Prod.mk.injEq] at stepped
      obtain ⟨rfl, rfl, rfl⟩ := stepped
      exact .declined rfl rfl
  | some store =>
      rcases removed : store.remove choice.io host port with ⟨outcome, later⟩
      cases outcome with
      | error error =>
          simp only [known, removed, respond, List.nil_append,
            Prod.mk.injEq] at stepped
          obtain ⟨rfl, rfl, rfl⟩ := stepped
          exact .declined rfl
            (sameRecords_of_eq known (TrustStore.remove_error removed))
      | ok _ =>
          simp only [known, removed, respond, List.singleton_append,
            Prod.mk.injEq] at stepped
          obtain ⟨rfl, rfl, rfl⟩ := stepped
          exact .forgotten known (TrustStore.remove_ok removed)

theorem stepListTrustedHosts_move
    (stepped : stepListTrustedHosts thread choice shared =
      (next, after, events)) :
    Move thread shared (.entered .listTrustedHosts) next after events := by
  unfold stepListTrustedHosts at stepped
  cases known : shared.trustStore with
  | none =>
      simp only [known, respond, List.nil_append, Prod.mk.injEq] at stepped
      obtain ⟨rfl, rfl, rfl⟩ := stepped
      exact .declined rfl rfl
  | some store =>
      rcases listed : store.list choice.io with ⟨outcome, later⟩
      have same := sameRecords_of_eq known (TrustStore.list_contents listed)
      cases outcome with
      | error error =>
          simp only [known, listed, respond, List.nil_append,
            Prod.mk.injEq] at stepped
          obtain ⟨rfl, rfl, rfl⟩ := stepped
          exact .declined rfl same
      | ok records =>
          simp only [known, listed, respond, List.nil_append,
            Prod.mk.injEq] at stepped
          obtain ⟨rfl, rfl, rfl⟩ := stepped
          exact .declined rfl same

theorem stepRequest_move {request : Request scheme}
    (stepped : stepRequest thread choice shared request =
      (next, after, events)) :
    Move thread shared (.entered request) next after events := by
  cases request with
  | verify sessionId presented =>
      simp only [stepRequest, stepEnter] at stepped
      cases known : settled shared.state sessionId presented with
      | some outcome =>
          simp only [known, respond, List.nil_append, Prod.mk.injEq] at stepped
          obtain ⟨rfl, rfl, rfl⟩ := stepped
          exact .answered known
      | none =>
          simp only [known, Prod.mk.injEq] at stepped
          obtain ⟨rfl, rfl, rfl⟩ := stepped
          exact .entering known
  | accept challengeId =>
      simp only [stepRequest, stepAccept] at stepped
      cases found : shared.state.find? challengeId with
      | none =>
          simp only [found, respond, List.nil_append, Prod.mk.injEq] at stepped
          obtain ⟨rfl, rfl, rfl⟩ := stepped
          exact .declined rfl rfl
      | some wait =>
          simp only [found, Prod.mk.injEq] at stepped
          obtain ⟨rfl, rfl, rfl⟩ := stepped
          exact .acceptedOnce found
  | acceptAndSave challengeId => exact stepAcceptAndSave_move stepped
  | reject challengeId =>
      simp only [stepRequest, stepReject] at stepped
      cases found : shared.state.find? challengeId with
      | none =>
          simp only [found, respond, List.nil_append, Prod.mk.injEq] at stepped
          obtain ⟨rfl, rfl, rfl⟩ := stepped
          exact .declined rfl rfl
      | some wait =>
          simp only [found, Prod.mk.injEq] at stepped
          obtain ⟨rfl, rfl, rfl⟩ := stepped
          exact .rejectedOne found
  | cancelSession sessionId =>
      simp only [stepRequest, stepCancelSession, Prod.mk.injEq] at stepped
      obtain ⟨rfl, rfl, rfl⟩ := stepped
      exact .closed
  | cancelAll =>
      simp only [stepRequest, Prod.mk.injEq] at stepped
      obtain ⟨rfl, rfl, rfl⟩ := stepped
      exact .cancellingAll
  | forgetEndpoint host port => exact stepForgetEndpoint_move stepped
  | listTrustedHosts => exact stepListTrustedHosts_move stepped

theorem perm_cons_eraseIdx {items : List α} {index : ℕ} {item : α}
    (found : items[index]? = some item) :
    items.Perm (item :: items.eraseIdx index) := by
  obtain ⟨inside, rfl⟩ := List.getElem?_eq_some_iff.mp found
  exact (List.getElem_cons_eraseIdx_perm inside).symm

theorem stepDeciding_move {decision : Decision}
    {own : Option (ChallengeWait scheme)} {others : List (ChallengeWait scheme)}
    {resumed : Phase scheme}
    (stepped : stepDeciding thread choice shared decision own others resumed =
      some (next, after, events)) :
    Move thread shared (.deciding decision own others resumed) next after
      events := by
  unfold stepDeciding at stepped
  cases own with
  | some wait =>
      simp only [Option.some.injEq, Prod.mk.injEq] at stepped
      obtain ⟨rfl, rfl, rfl⟩ := stepped
      exact .decidedOwn
  | none =>
      cases others with
      | nil =>
          simp only [Option.some.injEq, Prod.mk.injEq] at stepped
          obtain ⟨rfl, rfl, rfl⟩ := stepped
          exact .resumed
      | cons first rest =>
          cases found : (first :: rest)[choice.pick]? with
          | none => simp [found] at stepped
          | some wait =>
              simp only [found, Option.some.injEq, Prod.mk.injEq] at stepped
              obtain ⟨rfl, rfl, rfl⟩ := stepped
              exact .decidedOther (perm_cons_eraseIdx found)

theorem stepCancellingAll_move {remaining : List String}
    (stepped : stepCancellingAll thread choice shared remaining =
      some (next, after, events)) :
    Move thread shared (.cancellingAll remaining) next after events := by
  unfold stepCancellingAll at stepped
  cases remaining with
  | nil =>
      simp only [respond, List.nil_append, Option.some.injEq,
        Prod.mk.injEq] at stepped
      obtain ⟨rfl, rfl, rfl⟩ := stepped
      exact .cancelledAll
  | cons first rest =>
      cases taken : (first :: rest)[choice.pick]? with
      | none => simp [taken] at stepped
      | some challengeId =>
          cases found : shared.state.find? challengeId with
          | none =>
              simp only [taken, found, Option.some.injEq,
                Prod.mk.injEq] at stepped
              obtain ⟨rfl, rfl, rfl⟩ := stepped
              exact .skipped (perm_cons_eraseIdx taken) found
          | some wait =>
              simp only [taken, found, Option.some.injEq,
                Prod.mk.injEq] at stepped
              obtain ⟨rfl, rfl, rfl⟩ := stepped
              exact .withdrawn (perm_cons_eraseIdx taken) found

theorem step_move
    (stepped : step thread choice shared phase = some (next, after, events)) :
    Move thread shared phase next after events := by
  cases phase with
  | entered request => exact stepRequest_move (Option.some.inj stepped)
  | lookup sessionId presented =>
      exact stepLookup_move (Option.some.inj stepped)
  | matched sessionId presented =>
      simp only [step, stepMatched, Option.some.injEq] at stepped
      split at stepped
      · rename_i closed
        simp only [respond, List.nil_append, Prod.mk.injEq] at stepped
        obtain ⟨rfl, rfl, rfl⟩ := stepped
        exact .matchedClosed closed
      · rename_i opened
        simp only [respond, List.nil_append, Prod.mk.injEq] at stepped
        obtain ⟨rfl, rfl, rfl⟩ := stepped
        exact .matchedTrusted opened
  | unmatched sessionId presented stored => exact stepUnmatched_move stepped
  | announcing sessionId presented wait =>
      simp only [step, Option.some.injEq, Prod.mk.injEq] at stepped
      obtain ⟨rfl, rfl, rfl⟩ := stepped
      exact .announced
  | waiting sessionId presented wait =>
      simp only [step, stepWaiting] at stepped
      cases decided : shared.decisions wait with
      | none => simp [decided] at stepped
      | some decision =>
          simp only [decided, respond, List.nil_append, Option.some.injEq,
            Prod.mk.injEq] at stepped
          obtain ⟨rfl, rfl, rfl⟩ := stepped
          exact .awaited decided
  | deciding decision own others resumed => exact stepDeciding_move stepped
  | cancellingAll remaining => exact stepCancellingAll_move stepped
  | returned request response => simp [step] at stepped
  | panicked => simp [step] at stepped

end HostIdentity

end TitanSSH
