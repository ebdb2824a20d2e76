import TitanSSH.Core.HostIdentity.Replacement

namespace TitanSSH

namespace HostIdentity

variable {scheme : HostKeyScheme}

/-! What a challenge tells, beside what the trust store holds at the step that
creates it. -/

structure Truthful (shared : IdentityShared scheme)
    (wait : ChallengeWait scheme) : Prop where
  unknown : wait.challenge.kind = .unknown ↔
    recordAt shared wait.challenge.host wait.challenge.port = none
  changed : wait.challenge.kind = .changed → ∃ record,
    recordAt shared wait.challenge.host wait.challenge.port = some record ∧
    wait.challenge.storedAlgorithm = some record.algorithm ∧
    wait.challenge.storedFingerprint =
      some (scheme.fingerprintSha256 record.blob)
  mismatched : recordAt shared wait.challenge.host wait.challenge.port ≠
    some wait.record

/-- What the endpoint holds after an event, given what it held before. -/
def Event.leaves (host : String) (port : UInt16)
    (held : Option TrustRecord) : Event scheme → Option TrustRecord
  | .saved _ wait _ =>
      if host = wait.record.host ∧ port = wait.record.port then
        some wait.record
      else held
  | .forgotten other otherPort _ =>
      if host = other ∧ port = otherPort then none else held
  | _ => held

def replayed (host : String) (port : UInt16) (held : Option TrustRecord)
    (log : List (Event scheme)) : Option TrustRecord :=
  log.foldl (fun held event => event.leaves host port held) held

/-- The saves and the cleanups since the lookup leave what it found. -/
def LeavesFound (log : List (Event scheme)) (thread : ℕ) (sessionId : String)
    (presented : PresentedHostKey scheme) (stored : Option TrustRecord) :
    Prop :=
  ∃ before after,
    log = before ++ .lookedUp thread sessionId presented stored :: after ∧
    replayed presented.host presented.port stored after = stored

variable {thread : ℕ} {shared next : IdentityShared scheme}
variable {phase after : Phase scheme} {events log : List (Event scheme)}
variable {sessionId : String} {presented : PresentedHostKey scheme}
variable {stored : Option TrustRecord}

theorem replayed_append (host : String) (port : UInt16)
    (held : Option TrustRecord) (first second : List (Event scheme)) :
    replayed host port held (first ++ second) =
      replayed host port (replayed host port held first) second :=
  List.foldl_append

theorem Move.replayed (move : Move thread shared phase next after events)
    (host : String) (port : UInt16) :
    recordAt next host port =
      HostIdentity.replayed host port (recordAt shared host port) events := by
  cases move with
  | lookupMatched known same found matching =>
      exact recordAt_sameRecords (sameRecords_of_eq known same) host port
  | lookupUnmatched known same found different =>
      exact recordAt_sameRecords (sameRecords_of_eq known same) host port
  | declined other same => exact recordAt_sameRecords same host port
  | acceptedAndSaved found known saved =>
      rw [recordAt_known known]
      exact TrustStore.recordAt_upserted saved host port
  | forgotten known removed =>
      rw [recordAt_known known]
      exact TrustStore.recordAt_removed removed host port
  | resumed => cases after <;> rfl
  | _ => rfl

/-- Every endpoint holds what the log since a lookup makes of its result. -/
def Replays (log : List (Event scheme)) (shared : IdentityShared scheme) :
    Prop :=
  ∀ before after thread sessionId presented stored,
    log = before ++ .lookedUp thread sessionId presented stored :: after →
      recordAt shared presented.host presented.port =
        replayed presented.host presented.port stored after

theorem Replays.step (replays : Replays log shared)
    (move : Move thread shared phase next after events) :
    Replays (log ++ events) next := by
  intro before later other sessionId presented stored split
  have effect := move.replayed presented.host presented.port
  rcases Interleaving.split_append split with
    ⟨middle, logEq, rfl⟩ | ⟨middle, -, eventsEq⟩
  · rw [effect, replayed_append,
      replays before middle other sessionId presented stored logEq]
  · obtain ⟨single, found⟩ := move.lookedUp (eventsEq ▸
      List.mem_append_right middle (List.mem_cons_self ..))
    rw [single] at eventsEq effect
    obtain ⟨rfl, rfl⟩ : middle = [] ∧ later = [] := by
      cases middle with
      | nil => exact ⟨rfl, (List.cons.inj eventsEq).2.symm⟩
      | cons first rest => simp at eventsEq
    rw [effect, found]
    rfl

theorem Replays.opened (replays : Replays log shared)
    {request : Request scheme} :
    Replays (log ++ [.started thread request]) shared := by
  intro before later other sessionId presented stored split
  rcases Interleaving.split_append split with
    ⟨middle, logEq, rfl⟩ | ⟨middle, -, eventsEq⟩
  · rw [replayed_append]
    exact replays before middle other sessionId presented stored logEq
  · have member : Event.lookedUp other sessionId presented stored ∈
        [Event.started thread request] := by
      simp [eventsEq]
    simp at member

theorem endpoint_of_recordAt {host : String} {port : UInt16}
    {record : TrustRecord}
    (found : recordAt shared host port = some record) :
    record.host = host ∧ record.port = port := by
  obtain ⟨store, -, held⟩ := Option.bind_eq_some_iff.mp found
  exact TrustRecord.atEndpoint_iff.mp (List.find?_some held)

/-- What a call has learnt when it is about to raise a challenge. -/
structure Learnt (log : List (Event scheme)) (thread : ℕ) (sessionId : String)
    (presented : PresentedHostKey scheme) (stored : Option TrustRecord) :
    Prop where
  logged : .lookedUp thread sessionId presented stored ∈ log
  different : stored ≠ some (recordOf presented)
  endpoint : ∀ record, stored = some record →
    record.host = presented.host ∧ record.port = presented.port

theorem Learnt.append (learnt : Learnt log thread sessionId presented stored)
    (events : List (Event scheme)) :
    Learnt (log ++ events) thread sessionId presented stored :=
  ⟨List.mem_append_left _ learnt.logged, learnt.different, learnt.endpoint⟩

def Prepared (log : List (Event scheme)) (thread : ℕ) : Phase scheme → Prop
  | .unmatched sessionId presented stored =>
      Learnt log thread sessionId presented stored
  | .deciding _ _ _ resumed => Prepared log thread resumed
  | _ => True

theorem Prepared.append (prepared : Prepared log thread phase)
    (events : List (Event scheme)) :
    Prepared (log ++ events) thread phase := by
  induction phase with
  | unmatched sessionId presented stored =>
      exact Learnt.append prepared events
  | deciding decision own others resumed induction =>
      exact induction prepared
  | _ => trivial

theorem Prepared.step (prepared : Prepared log thread phase)
    (move : Move thread shared phase next after events) :
    Prepared (log ++ events) thread after := by
  cases move with
  | storeMissing missing => exact ⟨by simp, by simp, by simp⟩
  | lookupUnmatched known same found different =>
      refine ⟨by simp, different, ?_⟩
      rintro record rfl
      exact endpoint_of_recordAt ((recordAt_known known _ _).trans found)
  | resumed => exact Prepared.append prepared _
  | decidedOwn => exact Prepared.append prepared _
  | decidedOther taken => exact Prepared.append prepared _
  | _ => trivial

def lookups (scheme : HostKeyScheme) : (service scheme).Outline where
  shared := Replays
  phase log _ thread phase := Prepared log thread phase
  opening := by
    intro log state thread start replays admitted
    cases start with
    | entered request =>
        exact ⟨replays.opened, trivial,
          fun other current _ prepared => prepared.append _⟩
    | _ => simp [service] at admitted
  stepping := by
    intro log state thread choice current next after events replays prepared
      stepped
    have move := step_move stepped
    exact ⟨replays.step move, prepared.step move,
      fun other waiting _ others => others.append events⟩

theorem initial_lookups (trustStore : Option TrustStore) :
    (lookups scheme).Holds [] (initial trustStore) := by
  refine ⟨?_, ?_⟩
  · intro before later thread sessionId presented stored split
    simp at split
  · intro thread current running
    simp [initial] at running

theorem truthful_create {uuid : String} {now : ℤ}
    (learnt : Learnt log thread sessionId presented stored) :
    Truthful shared (.create sessionId presented stored uuid now) ↔
      recordAt shared presented.host presented.port = stored := by
  constructor
  · intro truthful
    cases stored with
    | none => exact truthful.unknown.mp rfl
    | some record =>
        obtain ⟨current, held, algorithmEq, fingerprintEq⟩ :=
          truthful.changed rfl
        obtain ⟨hostEq, portEq⟩ := endpoint_of_recordAt held
        obtain ⟨storedHost, storedPort⟩ := learnt.endpoint record rfl
        have blobEq := scheme.fingerprintSha256_injective
          (Option.some.inj fingerprintEq)
        have recordEq : record = current := by
          cases record
          cases current
          simp only [TrustRecord.mk.injEq]
          exact ⟨storedHost.trans hostEq.symm, storedPort.trans portEq.symm,
            Option.some.inj algorithmEq, blobEq⟩
        rw [recordEq]
        exact held
  · intro held
    refine ⟨?_, ?_, ?_⟩
    · cases stored with
      | none => exact ⟨fun _ => held, fun _ => rfl⟩
      | some record =>
          constructor
          · intro unknown
            cases unknown
          · intro missing
            cases missing.symm.trans held
    · intro changed
      cases stored with
      | none => cases changed
      | some record => exact ⟨record, held, rfl, rfl⟩
    · exact fun same => learnt.different (held.symm.trans same)

theorem Move.challenged_inv {other : ℕ} {wait : ChallengeWait scheme}
    (move : Move thread shared phase next after events)
    (created : .challenged other sessionId presented stored wait ∈ events) :
    thread = other ∧ phase = .unmatched sessionId presented stored ∧
      ∃ uuid now, wait = .create sessionId presented stored uuid now := by
  cases move with
  | @challenged _ _ _ uuid now unknown unindexed fresh =>
      obtain ⟨rfl, rfl, rfl, rfl, rfl⟩ :=
        Event.challenged.inj (List.mem_singleton.mp created)
      exact ⟨rfl, rfl, uuid, now, rfl⟩
  | resumed => cases after <;> simp [arrival] at created
  | _ => simp at created

/-- The challenges that describe the trust store as it is when they are
created are those whose lookup nothing has outdated. -/
theorem challenge_truthful_iff {trustStore : Option TrustStore}
    {actions : List (Interleaving.ThreadAction (Phase scheme) Choice)}
    {action : Interleaving.ThreadAction (Phase scheme) Choice}
    {config after : Interleaving.Config (IdentityShared scheme) (Phase scheme)}
    {wait : ChallengeWait scheme}
    (run : (service scheme).machine.Run (initial trustStore) actions log config)
    (stepped : (service scheme).machine.step config action =
      some (after, events))
    (created : .challenged thread sessionId presented stored wait ∈ events) :
    Truthful config.shared wait ↔
      LeavesFound log thread sessionId presented stored := by
  obtain ⟨replays, prepared⟩ :=
    (lookups scheme).holds (initial_lookups trustStore) run
  rcases Interleaving.Program.machine_step_cases stepped with
    ⟨_, start, -, -, -, -, rfl⟩ |
    ⟨caller, choice, current, shared, phase, -, running, moved, -⟩
  · cases start <;> simp [service] at created
  · obtain ⟨rfl, rfl, uuid, now, rfl⟩ :=
      (step_move moved).challenged_inv created
    have learnt : Learnt log caller sessionId presented stored :=
      prepared caller _ running
    rw [truthful_create learnt]
    constructor
    · intro held
      obtain ⟨before, after, split⟩ := List.append_of_mem learnt.logged
      refine ⟨before, after, split, ?_⟩
      rw [← replays before after caller sessionId presented stored split]
      exact held
    · rintro ⟨before, after, split, unchanged⟩
      rw [replays before after caller sessionId presented stored split]
      exact unchanged

/-- A session has looked the endpoint up; before it raises its challenge,
another one saves the endpoint's key and a cleanup removes the record. -/
def revertedRun : List (Interleaving.ThreadAction
    (Phase HostKeyScheme.sample) Choice) :=
  [.spawn 0 (.entered (.verify "first" (HostKeyScheme.sampleKey 0x11))),
    .advance 0 {}, .advance 0 {},
    .spawn 1 (.entered (.verify "second" (HostKeyScheme.sampleKey 0x11))),
    .advance 1 {}, .advance 1 {}, .advance 1 { uuid := "two" },
    .spawn 2 (.entered (.acceptAndSave "two")), .advance 2 {},
    .spawn 3 (.entered (.forgetEndpoint "10.0.0.8" 22)), .advance 3 {}]

theorem challenge_truthful_reverted :
    ∃ config log after,
      (service .sample).machine.Run
        (initial (some (.fromFilePath "/data/known_hosts" none))) revertedRun
        log config ∧
      (service .sample).machine.step config (.advance 0 { uuid := "one" }) =
        some (after, [.challenged 0 "first" (HostKeyScheme.sampleKey 0x11) none
          (.create "first" (HostKeyScheme.sampleKey 0x11) none "one" 0)]) ∧
      Truthful config.shared
        (.create "first" (HostKeyScheme.sampleKey 0x11) none "one" 0) := by
  have executed : ∃ config log after,
      (service .sample).machine.Run
        (initial (some (.fromFilePath "/data/known_hosts" none))) revertedRun
        log config ∧
      (service .sample).machine.step config (.advance 0 { uuid := "one" }) =
        some (after, [.challenged 0 "first" (HostKeyScheme.sampleKey 0x11) none
          (.create "first" (HostKeyScheme.sampleKey 0x11) none "one" 0)]) ∧
      ∃ later, log = [.started 0 (.verify "first" (HostKeyScheme.sampleKey 0x11))]
        ++ .lookedUp 0 "first" (HostKeyScheme.sampleKey 0x11) none :: later ∧
        replayed "10.0.0.8" 22 none later = none :=
    ⟨_, _, _, Interleaving.Machine.run_of_execute rfl, rfl, _, rfl, rfl⟩
  obtain ⟨config, log, after, run, stepped, later, split, unchanged⟩ := executed
  refine ⟨config, log, after, run, stepped, ?_⟩
  exact (challenge_truthful_iff run stepped (List.mem_singleton_self _)).mpr
    ⟨_, later, split, unchanged⟩

/-- The same run up to the save. -/
def outdatedRun : List (Interleaving.ThreadAction
    (Phase HostKeyScheme.sample) Choice) :=
  revertedRun.take 9

/-- The challenge says that nothing is stored, for the very key that is. -/
theorem outdated_lookup_challenges :
    ∃ config log after,
      (service .sample).machine.Run
        (initial (some (.fromFilePath "/data/known_hosts" none))) outdatedRun
        log config ∧
      (service .sample).machine.step config (.advance 0 { uuid := "one" }) =
        some (after, [.challenged 0 "first" (HostKeyScheme.sampleKey 0x11) none
          (.create "first" (HostKeyScheme.sampleKey 0x11) none "one" 0)]) ∧
      recordAt config.shared "10.0.0.8" 22 =
        some (recordOf (HostKeyScheme.sampleKey 0x11)) ∧
      ¬Truthful config.shared
        (.create "first" (HostKeyScheme.sampleKey 0x11) none "one" 0) := by
  have executed : ∃ config log after,
      (service .sample).machine.Run
        (initial (some (.fromFilePath "/data/known_hosts" none))) outdatedRun
        log config ∧
      (service .sample).machine.step config (.advance 0 { uuid := "one" }) =
        some (after, [.challenged 0 "first" (HostKeyScheme.sampleKey 0x11) none
          (.create "first" (HostKeyScheme.sampleKey 0x11) none "one" 0)]) ∧
      recordAt config.shared "10.0.0.8" 22 =
        some (recordOf (HostKeyScheme.sampleKey 0x11)) :=
    ⟨_, _, _, Interleaving.Machine.run_of_execute rfl, rfl, rfl⟩
  obtain ⟨config, log, after, run, stepped, held⟩ := executed
  exact ⟨config, log, after, run, stepped, held,
    fun truthful => truthful.mismatched held⟩

end HostIdentity

end TitanSSH
