import TitanSSH.Core.HostIdentity.Steps

namespace TitanSSH

namespace HostIdentity

variable {scheme : HostKeyScheme}

/-! What a saved key replaces, beside what its challenge had shown. -/

/-- The user was shown exactly this: no record, or this one. -/
def ShowsRecord (wait : ChallengeWait scheme) (previous : Option TrustRecord) :
    Prop :=
  match wait.challenge.kind with
  | .unknown => previous = none
  | .changed => ∃ record, previous = some record ∧
      wait.challenge.storedAlgorithm = some record.algorithm ∧
      wait.challenge.storedFingerprint =
        some (scheme.fingerprintSha256 record.blob)

def ReplacesShown (wait : ChallengeWait scheme)
    (previous : Option TrustRecord) : Prop :=
  previous = some wait.record ∨ ShowsRecord wait previous

/-- Another key is saved for the endpoint of a record, or a record there is
forgotten. -/
def Event.Disturbs (record : TrustRecord) : Event scheme → Prop
  | .saved _ other _ => other.record.host = record.host ∧
      other.record.port = record.port ∧ other.record ≠ record
  | .forgotten host port previous => host = record.host ∧
      port = record.port ∧ previous ≠ none
  | _ => False

/-- Nothing has disturbed the endpoint since the lookup that the challenge was
created from. -/
def Undisturbed (log : List (Event scheme)) (wait : ChallengeWait scheme) :
    Prop :=
  ∃ before after thread sessionId presented stored,
    log = before ++ .lookedUp thread sessionId presented stored :: after ∧
    .challenged thread sessionId presented stored wait ∈ after ∧
    ∀ event ∈ after, ¬event.Disturbs wait.record

def recordOf (presented : PresentedHostKey scheme) : TrustRecord :=
  ⟨presented.host, presented.port, presented.algorithm, presented.blob⟩

def recordAt (shared : IdentityShared scheme) (host : String)
    (port : UInt16) : Option TrustRecord :=
  shared.trustStore.bind (·.recordAt host port)

variable {thread : ℕ} {shared next : IdentityShared scheme}
variable {phase after : Phase scheme} {events log : List (Event scheme)}

theorem recordAt_sameRecords {stored : Option TrustStore}
    (same : SameRecords shared.trustStore stored) (host : String)
    (port : UInt16) :
    recordAt { shared with trustStore := stored } host port =
      recordAt shared host port := by
  unfold recordAt
  cases known : shared.trustStore with
  | none =>
      rw [SameRecords, known, Option.map_none, Option.map_eq_none_iff] at same
      simp [same]
  | some store =>
      rw [SameRecords, known, Option.map_some, Option.map_eq_some_iff] at same
      obtain ⟨later, rfl, contentsEq⟩ := same
      exact TrustStore.recordAt_congr contentsEq

theorem recordAt_known {store : TrustStore}
    (known : shared.trustStore = some store) (host : String) (port : UInt16) :
    recordAt shared host port = store.recordAt host port := by
  simp [recordAt, known]

/-- What one step does to the record of an endpoint. -/
inductive RecordStep (shared next : IdentityShared scheme) (host : String)
    (port : UInt16) : List (Event scheme) → Prop
  | saved {thread : ℕ} {wait : ChallengeWait scheme}
      (updated : recordAt next host port =
        if host = wait.record.host ∧ port = wait.record.port then
          some wait.record
        else recordAt shared host port) :
      RecordStep shared next host port [.saved thread wait
        (recordAt shared wait.challenge.host wait.challenge.port)]
  | forgotten {thread : ℕ} {other : String} {otherPort : UInt16}
      {response : Response}
      (updated : recordAt next host port =
        if host = other ∧ port = otherPort then none
        else recordAt shared host port) :
      RecordStep shared next host port
        [.forgotten other otherPort (recordAt shared other otherPort),
          .returned thread (.forgetEndpoint other otherPort) response]
  | kept {events : List (Event scheme)}
      (same : recordAt next host port = recordAt shared host port)
      (quiet : ∀ event ∈ events, ∀ record, ¬event.Disturbs record)
      (unsaved : ∀ event ∈ events, ∀ thread wait previous,
        event ≠ .saved thread wait previous) :
      RecordStep shared next host port events

theorem Move.recordStep (move : Move thread shared phase next after events)
    (host : String) (port : UInt16) :
    RecordStep shared next host port events := by
  cases move with
  | lookupMatched known same found matching =>
      exact .kept (recordAt_sameRecords (sameRecords_of_eq known same) host port)
        (by simp [Event.Disturbs]) (by simp)
  | lookupUnmatched known same found different =>
      exact .kept (recordAt_sameRecords (sameRecords_of_eq known same) host port)
        (by simp [Event.Disturbs]) (by simp)
  | declined other same =>
      exact .kept (recordAt_sameRecords same host port)
        (by simp [Event.Disturbs]) (by simp)
  | acceptedAndSaved found known saved =>
      rw [← recordAt_known known]
      refine .saved ?_
      rw [recordAt_known known]
      exact TrustStore.recordAt_upserted saved host port
  | forgotten known removed =>
      rw [← recordAt_known known]
      refine .forgotten ?_
      rw [recordAt_known known]
      exact TrustStore.recordAt_removed removed host port
  | resumed =>
      refine .kept rfl ?_ ?_
      · cases after <;> simp [arrival, Event.Disturbs]
      · cases after <;> simp [arrival]
  | _ => exact .kept rfl (by simp [Event.Disturbs]) (by simp)

/-- While an endpoint is undisturbed, it holds what was found there, or the
presented key itself. -/
def Tracks (log : List (Event scheme)) (shared : IdentityShared scheme) :
    Prop :=
  ∀ before after thread sessionId presented stored,
    log = before ++ .lookedUp thread sessionId presented stored :: after →
    (∀ event ∈ after, ¬event.Disturbs (recordOf presented)) →
      recordAt shared presented.host presented.port = stored ∨
      recordAt shared presented.host presented.port =
        some (recordOf presented)

theorem Move.lookedUp {other : ℕ} {sessionId : String}
    {presented : PresentedHostKey scheme} {stored : Option TrustRecord}
    (move : Move thread shared phase next after events)
    (logged : .lookedUp other sessionId presented stored ∈ events) :
    events = [.lookedUp other sessionId presented stored] ∧
      recordAt shared presented.host presented.port = stored := by
  cases move with
  | storeMissing missing =>
      obtain ⟨rfl, rfl, rfl, rfl⟩ :=
        Event.lookedUp.inj (List.mem_singleton.mp logged)
      exact ⟨rfl, by simp [recordAt, missing]⟩
  | lookupMatched known same found matching =>
      obtain ⟨rfl, rfl, rfl, rfl⟩ :=
        Event.lookedUp.inj (List.mem_singleton.mp logged)
      exact ⟨rfl, (recordAt_known known _ _).trans found⟩
  | lookupUnmatched known same found different =>
      obtain ⟨rfl, rfl, rfl, rfl⟩ :=
        Event.lookedUp.inj (List.mem_singleton.mp logged)
      exact ⟨rfl, (recordAt_known known _ _).trans found⟩
  | resumed => cases after <;> simp [arrival] at logged
  | _ => simp at logged

theorem RecordStep.undisturbed (record : TrustRecord)
    {stored : Option TrustRecord}
    (effect : RecordStep shared next record.host record.port events)
    (quiet : ∀ event ∈ events, ¬event.Disturbs record)
    (known : recordAt shared record.host record.port = stored ∨
      recordAt shared record.host record.port = some record) :
    recordAt next record.host record.port = stored ∨
      recordAt next record.host record.port = some record := by
  cases effect with
  | @saved thread wait updated =>
      have own := quiet _ (List.mem_singleton_self _)
      rw [updated]
      split
      · rename_i same
        right
        by_contra different
        refine own ⟨same.1.symm, same.2.symm, fun equal => ?_⟩
        exact different (congrArg some equal)
      · exact known
  | @forgotten thread other otherPort response updated =>
      have own := quiet _ (List.mem_cons_self ..)
      rw [updated]
      split
      · rename_i same
        obtain ⟨rfl, rfl⟩ := same
        have absent : recordAt shared record.host record.port = none := by
          by_contra present
          exact own ⟨rfl, rfl, present⟩
        rwa [absent] at known
      · exact known
  | kept same quiet unsaved => rwa [same]

theorem RecordStep.saved_previous {host : String} {port : UInt16} {other : ℕ}
    {wait : ChallengeWait scheme} {previous : Option TrustRecord}
    (effect : RecordStep shared next host port events)
    (logged : .saved other wait previous ∈ events) :
    previous =
      recordAt shared wait.challenge.host wait.challenge.port ∧
    events = [.saved other wait previous] := by
  cases effect with
  | saved updated =>
      obtain ⟨rfl, rfl, rfl⟩ := Event.saved.inj (List.mem_singleton.mp logged)
      exact ⟨rfl, rfl⟩
  | forgotten updated => simp at logged
  | kept same quiet unsaved => exact absurd rfl (unsaved _ logged _ _ _)

theorem Tracks.step (tracks : Tracks log shared)
    (move : Move thread shared phase next after events) :
    Tracks (log ++ events) next := by
  intro before later other sessionId presented stored split undisturbed
  have effect := move.recordStep presented.host presented.port
  rcases Interleaving.split_append split with
    ⟨middle, logEq, rfl⟩ | ⟨middle, -, eventsEq⟩
  · have known := tracks before middle other sessionId presented stored logEq
      fun event member => undisturbed event (List.mem_append_left _ member)
    refine effect.undisturbed (recordOf presented) ?_ known
    intro event member
    exact undisturbed event (List.mem_append_right _ member)
  · obtain ⟨single, found⟩ := move.lookedUp (eventsEq ▸
      List.mem_append_right middle (List.mem_cons_self ..))
    subst single
    cases effect with
    | kept same quiet unsaved => exact .inl (same.trans found)

theorem Tracks.quiet (tracks : Tracks log shared)
    {request : Request scheme} :
    Tracks (log ++ [.started thread request]) shared := by
  intro before later other sessionId presented stored split undisturbed
  rcases Interleaving.split_append split with
    ⟨middle, logEq, rfl⟩ | ⟨middle, -, eventsEq⟩
  · exact tracks before middle other sessionId presented stored logEq
      fun event member => undisturbed event (List.mem_append_left _ member)
  · have member : Event.lookedUp other sessionId presented stored ∈
        [Event.started thread request] := by
      simp [eventsEq]
    simp at member

/-- Every challenge shows what its own lookup found. -/
def Created (log : List (Event scheme)) : Prop :=
  ∀ thread sessionId presented stored wait,
    .challenged thread sessionId presented stored wait ∈ log →
      ∃ uuid now, wait = .create sessionId presented stored uuid now

theorem Created.step (created : Created log)
    (move : Move thread shared phase next after events) :
    Created (log ++ events) := by
  intro other sessionId presented stored wait member
  cases List.mem_append.mp member with
  | inl before => exact created other sessionId presented stored wait before
  | inr logged =>
      cases move with
      | @challenged _ _ _ uuid now unknown unindexed fresh =>
          obtain ⟨rfl, rfl, rfl, rfl, rfl⟩ :=
            Event.challenged.inj (List.mem_singleton.mp logged)
          exact ⟨uuid, now, rfl⟩
      | resumed => cases after <;> simp [arrival] at logged
      | _ => simp at logged

theorem showsRecord_create (sessionId : String)
    (presented : PresentedHostKey scheme) (stored : Option TrustRecord)
    (uuid : String) (now : ℤ) :
    ShowsRecord (.create sessionId presented stored uuid now) stored := by
  cases stored with
  | none => rfl
  | some record => exact ⟨record, rfl, rfl, rfl⟩

theorem Tracks.replacesShown {wait : ChallengeWait scheme}
    (tracks : Tracks log shared) (created : Created log)
    (undisturbed : Undisturbed log wait) :
    ReplacesShown wait
      (recordAt shared wait.challenge.host wait.challenge.port) := by
  obtain ⟨before, after, thread, sessionId, presented, stored, rfl, challenged,
    quiet⟩ := undisturbed
  obtain ⟨uuid, now, rfl⟩ := created thread sessionId presented stored wait
    (by simp [challenged])
  have held := tracks before after thread sessionId presented stored rfl quiet
  cases held with
  | inl shown =>
      right
      have shows := showsRecord_create sessionId presented stored uuid now
      subst shown
      exact shows
  | inr own => exact .inl own

def replacement (scheme : HostKeyScheme) : (service scheme).Outline where
  shared log state := Tracks log state ∧ Created log
  phase _ _ _ _ := True
  opening := by
    intro log state thread start holds admitted
    refine ⟨?_, trivial, fun _ _ _ _ => trivial⟩
    cases start with
    | entered request =>
        refine ⟨holds.1.quiet, ?_⟩
        intro other sessionId presented stored wait member
        exact holds.2 other sessionId presented stored wait
          (by simpa [service] using member)
    | _ => simp [service] at admitted
  stepping := by
    intro log state thread choice current next after events holds _ stepped
    have move := step_move stepped
    exact ⟨⟨holds.1.step move, holds.2.step move⟩, trivial,
      fun _ _ _ _ => trivial⟩

theorem initial_replacement (trustStore : Option TrustStore) :
    (replacement scheme).Holds [] (initial trustStore) := by
  refine ⟨⟨?_, ?_⟩, ?_⟩
  · intro before later thread sessionId presented stored split
    simp at split
  · intro thread sessionId presented stored wait member
    simp at member
  · intro thread current running
    trivial

/-- A save that nothing disturbed replaces only what its challenge showed. -/
def ExplainsSave (before : List (Event scheme)) (event : Event scheme) : Prop :=
  ∀ thread wait previous, event = .saved thread wait previous →
    Undisturbed before wait → ReplacesShown wait previous

theorem save_replaces_shown {trustStore : Option TrustStore}
    {actions : List (Interleaving.ThreadAction (Phase scheme) Choice)}
    {config : Interleaving.Config (IdentityShared scheme) (Phase scheme)}
    {wait : ChallengeWait scheme} {previous : Option TrustRecord}
    {earlier later : List (Event scheme)}
    (run : (service scheme).machine.Run (initial trustStore) actions log config)
    (saved : log = earlier ++ .saved thread wait previous :: later)
    (undisturbed : Undisturbed earlier wait) : ReplacesShown wait previous := by
  have explained : ∀ before event after, log = before ++ event :: after →
      ExplainsSave before event := by
    refine (replacement scheme).history ?_ ?_ (initial_replacement trustStore)
      run
    · intro log state thread start _ before event after split
      rintro other wait previous rfl
      have member : Event.saved other wait previous ∈
          (service scheme).opened thread start := by
        simp [split]
      cases start <;> simp [service] at member
    · intro log state thread choice current next phase events holds _ stepped
        before event after split
      rintro other wait previous rfl quiet
      have effect := (step_move stepped).recordStep wait.record.host
        wait.record.port
      obtain ⟨rfl, single⟩ := effect.saved_previous
        (split ▸ List.mem_append_right before (List.mem_cons_self ..))
      cases before with
      | nil =>
          rw [List.append_nil] at quiet
          exact holds.1.replacesShown holds.2 quiet
      | cons first rest => simp [single] at split
  exact explained _ _ _ saved _ _ _ rfl undisturbed

/-- One session meets an unknown endpoint and saves its key. -/
def savingRun : List (Interleaving.ThreadAction
    (Phase HostKeyScheme.sample) Choice) :=
  [.spawn 0 (.entered (.verify "first" (HostKeyScheme.sampleKey 0x11))),
    .advance 0 {}, .advance 0 {}, .advance 0 { uuid := "one" },
    .spawn 1 (.entered (.acceptAndSave "one")), .advance 1 {}]

theorem save_replaces_shown_once :
    ∃ config log,
      (service .sample).machine.Run
        (initial (some (.fromFilePath "/data/known_hosts" none))) savingRun log
        config ∧
      ReplacesShown (ChallengeWait.create "first" (HostKeyScheme.sampleKey 0x11)
        none "one" 0) none := by
  let request : Request .sample := .verify "first" (HostKeyScheme.sampleKey 0x11)
  let wait : ChallengeWait .sample :=
    .create "first" (HostKeyScheme.sampleKey 0x11) none "one" 0
  have executed : ∃ config log,
      (service .sample).machine.Run
        (initial (some (.fromFilePath "/data/known_hosts" none))) savingRun log
        config ∧
      log = [.started 0 request,
          .lookedUp 0 "first" (HostKeyScheme.sampleKey 0x11) none,
          .challenged 0 "first" (HostKeyScheme.sampleKey 0x11) none wait,
          .started 1 (.acceptAndSave "one")] ++ [.saved 1 wait none] :=
    ⟨_, _, Interleaving.Machine.run_of_execute rfl, rfl⟩
  obtain ⟨config, log, run, logged⟩ := executed
  refine ⟨config, log, run, save_replaces_shown run logged ?_⟩
  refine ⟨[_], [_, _], 0, "first", _, none, rfl, List.mem_cons_self .., ?_⟩
  simp [Event.Disturbs]

/-- Two sessions meet an unknown endpoint with different keys, and both save
theirs. -/
def overwritingRun : List (Interleaving.ThreadAction
    (Phase HostKeyScheme.sample) Choice) :=
  [.spawn 0 (.entered (.verify "first" (HostKeyScheme.sampleKey 0x11))),
    .advance 0 {}, .advance 0 {}, .advance 0 { uuid := "one" },
    .spawn 1 (.entered (.verify "second" (HostKeyScheme.sampleKey 0x22))),
    .advance 1 {}, .advance 1 {}, .advance 1 { uuid := "two" },
    .spawn 2 (.entered (.acceptAndSave "one")), .advance 2 {},
    .spawn 3 (.entered (.acceptAndSave "two")), .advance 3 {}]

/-- The second save silently replaces the key that the first one stored. -/
theorem second_save_overwrites :
    ∃ config log wait record,
      (service .sample).machine.Run
        (initial (some (.fromFilePath "/data/known_hosts" none)))
        overwritingRun log config ∧
      log = log.take 9 ++ [.saved 3 wait (some record)] ∧
      wait.challenge.kind = .unknown ∧ record ≠ wait.record ∧
      ¬ReplacesShown wait (some record) := by
  have different : (ChallengeWait.create "first" (HostKeyScheme.sampleKey 0x11)
      none "one" 0).record ≠ (ChallengeWait.create "second"
        (HostKeyScheme.sampleKey 0x22) none "two" 0).record := by
    decide +kernel
  refine ⟨_, _, _, _, Interleaving.Machine.run_of_execute rfl, rfl, rfl,
    different, ?_⟩
  intro either
  cases either with
  | inl same => exact different (Option.some.inj same)
  | inr shown => cases shown

end HostIdentity

end TitanSSH
