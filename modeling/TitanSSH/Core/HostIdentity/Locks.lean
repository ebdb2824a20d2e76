import TitanSSH.Core.HostIdentity.Steps
import TitanSSH.Library.Locks

namespace TitanSSH

namespace HostIdentity

open Interleaving

variable {scheme : HostKeyScheme}

/-! The two locks of the service, and where its calls hold them.  The locks of a
decision and the one inside the trust store guard no other section. -/

inductive Lock
  | state
  | trustStore
  deriving DecidableEq

instance : Finite Lock :=
  .of_injective (· == .state) (by rintro ⟨⟩ ⟨⟩ <;> simp)

namespace Phase

/-- The guard of the trust store that `verify` looks its record up under is
dropped only once the branch for an exact match is over. -/
def carried : Phase scheme → List Lock
  | .matched _ _ => [.trustStore]
  | .deciding _ _ _ next => carried next
  | _ => []

def range : Phase scheme → List Lock
  | .entered (.acceptAndSave _) => [.state, .trustStore]
  | .entered (.forgetEndpoint _ _) => [.trustStore]
  | .entered .listTrustedHosts => [.trustStore]
  | .entered _ => [.state]
  | .lookup _ _ => [.trustStore]
  | .matched _ _ => [.state]
  | .unmatched _ _ _ => [.state]
  | .cancellingAll (_ :: _) => [.state]
  | _ => []

/-- `accept_and_save` asks for the trust store only once it has found its
challenge. -/
def needed (shared : IdentityShared scheme) : Phase scheme → ℕ
  | .entered (.acceptAndSave challengeId) =>
      if (shared.state.find? challengeId).isSome then 2 else 1
  | _ => 1

theorem range_of_remaining {remaining rest : List String} {challengeId : String}
    (taken : remaining.Perm (challengeId :: rest)) :
    (cancellingAll remaining : Phase scheme).range = [.state] := by
  cases remaining with
  | nil => simp at taken
  | cons head tail => rfl

end Phase

def locks (scheme : HostKeyScheme) :
    Discipline (IdentityShared scheme) (Phase scheme) Lock where
  carried := Phase.carried
  range := Phase.range
  needed := Phase.needed

/-- The calls of the service, each taking the locks of its sections. -/
def guardedService (scheme : HostKeyScheme) :
    Machine (Locked (IdentityShared scheme) (Phase scheme) Lock)
      (LockAction (Phase scheme) Choice) (Event scheme) :=
  (service scheme).locked (locks scheme)

variable {shared next : IdentityShared scheme} {phase after : Phase scheme}
variable {events : List (Event scheme)} {thread : ℕ} {choice : Choice}

theorem needed_pos (shared : IdentityShared scheme) (phase : Phase scheme) :
    0 < phase.needed shared := by
  unfold Phase.needed
  split
  · split <;> omega
  · omega

theorem carried_of_step
    (stepped : step thread choice shared phase = some (next, after, events)) :
    ∀ lock ∈ after.carried,
      lock ∈ phase.carried ++ phase.range.take (phase.needed shared) := by
  cases step_move stepped <;>
    simp [Phase.carried, Phase.range, Phase.needed]

theorem state_of_step
    (stepped : step thread choice shared phase = some (next, after, events))
    (without : Lock.state ∉
      phase.carried ++ phase.range.take (phase.needed shared)) :
    next.state = shared.state := by
  cases step_move stepped with
  | matchedTrusted | challenged | acceptedOnce | rejectedOne | closed =>
      simp [Phase.carried, Phase.range, Phase.needed] at without
  | acceptedAndSaved found =>
      simp [Phase.carried, Phase.range, Phase.needed, found] at without
  | withdrawn taken found =>
      simp [Phase.range_of_remaining taken, Phase.needed] at without
  | _ => rfl

theorem locks_fit : (locks scheme).Fits (service scheme) where
  fresh := by
    intro start admitted
    cases start with
    | entered request => rfl
    | _ => cases admitted
  handover := carried_of_step
  needs := fun shared phase _ => needed_pos shared phase
  guarded := by
    intro thread choice shared phase next after events stepped waiting lock rest
      ranged without
    show waiting.needed next = waiting.needed shared
    unfold Phase.needed
    split
    · obtain rfl : Lock.state = lock := by
        simpa [locks, Phase.range] using congrArg List.head? ranged
      rw [state_of_step stepped without]
    · rfl

theorem step_enabled (thread : ℕ) (shared : IdentityShared scheme)
    (locking : phase.carried ++ phase.range ≠ []) :
    ∃ choice outcome, step thread choice shared phase = some outcome := by
  cases phase with
  | entered request => exact ⟨{}, _, rfl⟩
  | lookup sessionId presented => exact ⟨{}, _, rfl⟩
  | matched sessionId presented => exact ⟨{}, _, rfl⟩
  | announcing sessionId presented wait => exact ⟨{}, _, rfl⟩
  | unmatched sessionId presented stored =>
      obtain ⟨uuid, fresh⟩ := Infinite.exists_notMem_finset shared.issued
      refine ⟨{ uuid := uuid }, ?_⟩
      cases known : settled shared.state sessionId presented with
      | some outcome => simp [step, stepUnmatched, known]
      | none =>
          cases indexed : shared.state.pendingIndex
              (.ofPresented sessionId presented) with
          | none => simp [step, stepUnmatched, known, indexed, fresh]
          | some challengeId =>
              cases found : shared.state.find? challengeId <;>
                simp [step, stepUnmatched, known, indexed, found]
  | deciding decision own others next =>
      cases own with
      | some wait => exact ⟨{}, _, rfl⟩
      | none => cases others <;> exact ⟨{}, _, rfl⟩
  | cancellingAll remaining =>
      cases remaining with
      | nil => simp [Phase.carried, Phase.range] at locking
      | cons challengeId rest =>
          refine ⟨{}, ?_⟩
          cases found : shared.state.find? challengeId <;>
            simp [step, stepCancellingAll, found]
  | waiting sessionId presented wait =>
      simp [Phase.carried, Phase.range] at locking
  | returned request response => simp [Phase.carried, Phase.range] at locking
  | panicked => simp [Phase.carried, Phase.range] at locking

abbrev LockedState (scheme : HostKeyScheme) :=
  Locked (IdentityShared scheme) (Phase scheme) Lock

/-- A verification with an exact match has the trust store and wants the state,
and a call that saves a key has the state and wants the trust store. -/
structure Crossed (state : LockedState scheme) (verifier saver : ℕ) :
    Prop where
  verifying : ∃ sessionId presented,
    state.config.threads verifier = some (.matched sessionId presented)
  saving : ∃ challengeId,
    state.config.threads saver = some (.entered (.acceptAndSave challengeId)) ∧
    (state.config.shared.state.find? challengeId).isSome
  storeHeld : state.owner .trustStore = some verifier
  stateHeld : state.owner .state = some saver

/-- Locks are taken, and none of those who have them can take a step. -/
def Standstill (state : LockedState scheme) : Prop :=
  (∃ lock, (state.owner lock).isSome) ∧
    ∀ action lock, state.owner lock = some action.thread →
      (guardedService scheme).step state action = none

variable {state final : LockedState scheme} {verifier saver : ℕ}

/-- A thread has taken nothing of its range while another has the first lock. -/
theorem taken_eq_zero {lock : Lock} {rest : List Lock} {other : ℕ}
    (owned : state.Owned (locks scheme))
    (running : state.config.threads thread = some phase)
    (ranged : phase.range = lock :: rest) (held : state.owner lock = some other)
    (different : other ≠ thread) : state.taken thread = 0 := by
  by_contra some_taken
  obtain ⟨count, counted⟩ := Nat.exists_eq_succ_of_ne_zero some_taken
  have ours : state.owner lock = some thread := by
    refine (owned lock thread).mpr ⟨phase, running, ?_⟩
    simp [Locked.hands, locks, ranged, counted]
  exact different (Option.some.inj (held.symm.trans ours))

theorem wants_first {lock : Lock} {rest : List Lock} {other : ℕ}
    (owned : state.Owned (locks scheme))
    (running : state.config.threads thread = some phase)
    (ranged : phase.range = lock :: rest) (held : state.owner lock = some other)
    (different : other ≠ thread) :
    state.WaitsFor (locks scheme) thread other := by
  have none_taken := taken_eq_zero owned running ranged held different
  refine ⟨lock, ?_, held⟩
  simp [Locked.wants?, running, none_taken, locks, ranged, needed_pos]

theorem Crossed.different (crossed : Crossed state verifier saver) :
    verifier ≠ saver := by
  rintro rfl
  obtain ⟨sessionId, presented, verifying⟩ := crossed.verifying
  obtain ⟨challengeId, saving, -⟩ := crossed.saving
  cases verifying.symm.trans saving

theorem Crossed.verifier_waits (crossed : Crossed state verifier saver)
    (owned : state.Owned (locks scheme)) :
    state.WaitsFor (locks scheme) verifier saver := by
  obtain ⟨sessionId, presented, verifying⟩ := crossed.verifying
  exact wants_first owned verifying rfl crossed.stateHeld
    crossed.different.symm

theorem Crossed.saver_waits (crossed : Crossed state verifier saver)
    (owned : state.Owned (locks scheme)) :
    state.WaitsFor (locks scheme) saver verifier := by
  obtain ⟨challengeId, saving, found⟩ := crossed.saving
  refine ⟨.trustStore, ?_, crossed.storeHeld⟩
  have has : ∀ lock, state.owner lock = some saver ↔
      lock ∈ [Lock.state, .trustStore].take (state.taken saver) := by
    intro lock
    rw [owned]
    simp [saving, Locked.hands, locks, Phase.carried, Phase.range]
  have first := (has _).mp crossed.stateHeld
  have second : Lock.trustStore ∉
      [Lock.state, .trustStore].take (state.taken saver) := by
    rw [← has, crossed.storeHeld]
    simpa using crossed.different
  have one : state.taken saver = 1 := by
    rcases taken : state.taken saver with _ | _ | count
    · simp [taken] at first
    · rfl
    · simp [taken] at second
  simp [Locked.wants?, saving, one, locks, Phase.needed, Phase.range, found]

theorem Crossed.knotted (crossed : Crossed state verifier saver)
    (owned : state.Owned (locks scheme)) :
    state.Knotted (locks scheme) {verifier, saver} := by
  rintro thread (rfl | rfl)
  · exact ⟨saver, by simp, crossed.verifier_waits owned⟩
  · exact ⟨verifier, by simp, crossed.saver_waits owned⟩

theorem Crossed.caught (crossed : Crossed state verifier saver)
    (owned : state.Owned (locks scheme))
    (running : state.config.threads thread = some phase)
    (locking : phase.range ≠ []) :
    state.Knotted (locks scheme) {thread, verifier, saver} := by
  have pair := crossed.knotted owned
  have holders : ∀ lock, ∃ holder ∈ ({verifier, saver} : Set ℕ),
      state.owner lock = some holder := by
    rintro (_ | _)
    · exact ⟨saver, by simp, crossed.stateHeld⟩
    · exact ⟨verifier, by simp, crossed.storeHeld⟩
  have within : ∀ waiter ∈ ({verifier, saver} : Set ℕ),
      ∃ holder ∈ ({thread, verifier, saver} : Set ℕ),
        state.WaitsFor (locks scheme) waiter holder := by
    intro waiter member
    obtain ⟨holder, inside, waits⟩ := pair waiter member
    exact ⟨holder, Set.mem_insert_of_mem _ inside, waits⟩
  rintro waiter (rfl | member)
  · by_cases either : waiter ∈ ({verifier, saver} : Set ℕ)
    · exact within waiter either
    obtain ⟨lock, rest, ranged⟩ := List.exists_cons_of_ne_nil locking
    obtain ⟨holder, inside, held⟩ := holders lock
    refine ⟨holder, Set.mem_insert_of_mem _ inside,
      wants_first owned running ranged held ?_⟩
    rintro rfl
    exact either inside
  · exact within waiter member

/-- How a thread can wait for a lock with another one in its hands. -/
inductive Midway (state : LockedState scheme) (thread : ℕ) :
    Lock → Lock → Prop
  | verifying {sessionId presented}
      (running : state.config.threads thread =
        some (.matched sessionId presented)) :
      Midway state thread .trustStore .state
  | saving {challengeId}
      (running : state.config.threads thread =
        some (.entered (.acceptAndSave challengeId)))
      (found : (state.config.shared.state.find? challengeId).isSome) :
      Midway state thread .state .trustStore

theorem midway_of_wants {held wanted : Lock}
    (owned : state.Owned (locks scheme))
    (has : state.owner held = some thread)
    (wants : state.wants? (locks scheme) thread = some wanted) :
    Midway state thread held wanted := by
  obtain ⟨phase, running, short, ahead⟩ := Locked.wants?_eq_some wants
  obtain ⟨current, same, inHands⟩ := (owned held thread).mp has
  obtain rfl := Option.some.inj (running.symm.trans same)
  -- in a range of one lock that it still wants it has taken none
  have single : ∀ {lock}, phase.range = [lock] →
      state.taken thread = 0 ∧ wanted = lock := by
    intro lock ranged
    have within : [lock][state.taken thread]? = some wanted := ranged ▸ ahead
    rw [List.getElem?_singleton] at within
    split at within
    · next none_taken => exact ⟨none_taken, (Option.some.inj within).symm⟩
    · cases within
  have nothing : ∀ {lock}, phase.range = [lock] → phase.carried = [] →
      False := by
    intro lock ranged empty
    simp [Locked.hands, locks, ranged, empty, (single ranged).1] at inHands
  cases phase with
  | matched sessionId presented =>
      obtain ⟨none_taken, rfl⟩ := single rfl
      obtain rfl : held = .trustStore := by
        simpa [Locked.hands, locks, Phase.carried, none_taken] using inHands
      exact .verifying running
  | entered request =>
      cases request with
      | acceptAndSave challengeId =>
          simp only [Locked.hands, locks, Phase.carried, Phase.range,
            List.nil_append] at inHands
          simp only [locks, Phase.range] at ahead
          simp only [locks, Phase.needed] at short
          rcases taken : state.taken thread with _ | _ | count
          · simp [taken] at inHands
          · obtain rfl : held = .state := by simpa [taken] using inHands
            obtain rfl : Lock.trustStore = wanted := by
              simpa [taken] using ahead
            refine .saving running ?_
            by_contra missing
            simp [taken, missing] at short
          · simp [taken] at ahead
      | _ => exact (nothing rfl rfl).elim
  | lookup sessionId presented => exact (nothing rfl rfl).elim
  | unmatched sessionId presented stored => exact (nothing rfl rfl).elim
  | cancellingAll remaining =>
      cases remaining with
      | nil => cases ahead
      | cons challengeId rest => exact (nothing rfl rfl).elim
  | _ => cases ahead

theorem exists_step {own : Lock} (owned : state.Owned (locks scheme))
    (has : state.owner own = some thread)
    (unblocked : ∀ other, ¬state.WaitsFor (locks scheme) thread other) :
    ∃ action : LockAction (Phase scheme) Choice, thread = action.thread ∧
      ∃ outcome, (guardedService scheme).step state action = some outcome := by
  cases wants : state.wants? (locks scheme) thread with
  | some lock =>
      have free : state.owner lock = none := by
        cases held : state.owner lock with
        | none => rfl
        | some other => exact (unblocked other ⟨lock, wants, held⟩).elim
      obtain ⟨next, stepped⟩ := Program.locked_acquire wants free
      exact ⟨.acquire thread, rfl, _, stepped⟩
  | none =>
      obtain ⟨phase, running, inHands⟩ := (owned own thread).mp has
      have locking : phase.carried ++ phase.range ≠ [] := by
        intro empty
        obtain ⟨nothing, none⟩ := List.append_eq_nil_iff.mp empty
        simp [Locked.hands, locks, nothing, none] at inHands
      obtain ⟨choice, ⟨shared, after, events⟩, moved⟩ :=
        step_enabled thread state.config.shared locking
      have advances : (service scheme).machine.step state.config
          (.advance thread choice) = some (_, events) :=
        Program.machine_advance running moved
      obtain ⟨next, stepped⟩ := Program.locked_proceed
        (show state.wants? (locks scheme)
          (ThreadAction.advance thread choice).thread = none from wants)
        advances
      exact ⟨.proceed (.advance thread choice), rfl, _, stepped⟩

theorem crossed_of_knot {knotted : ℕ} (owned : state.Owned (locks scheme))
    (knot : Relation.TransGen (state.WaitsFor (locks scheme)) knotted
      knotted) : ∃ verifier saver, Crossed state verifier saver := by
  obtain ⟨before, -, held, -, has⟩ := Relation.TransGen.tail'_iff.mp knot
  obtain ⟨next, ⟨wanted, wants, theirs⟩, back⟩ :=
    Relation.TransGen.head'_iff.mp knot
  obtain ⟨after, last, nextWants, -⟩ : ∃ after,
      state.WaitsFor (locks scheme) next after := by
    rcases back.cases_head with rfl | ⟨after, waits, -⟩
    · exact ⟨next, wanted, wants, theirs⟩
    · exact ⟨after, waits⟩
  cases midway_of_wants owned has wants with
  | @verifying sessionId presented verifying =>
      cases midway_of_wants owned theirs nextWants with
      | @saving challengeId saving found =>
          exact ⟨knotted, next, ⟨_, _, verifying⟩, ⟨_, saving, found⟩, has,
            theirs⟩
  | @saving challengeId saving found =>
      cases midway_of_wants owned theirs nextWants with
      | @verifying sessionId presented verifying =>
          exact ⟨next, knotted, ⟨_, _, verifying⟩, ⟨_, saving, found⟩, theirs,
            has⟩

/-- The service comes to a standstill over its locks exactly when a verification
and a call that saves a key have crossed. -/
theorem standstill_iff_crossed {trustStore : Option TrustStore}
    {actions : List (LockAction (Phase scheme) Choice)}
    {log : List (Event scheme)}
    (run : (guardedService scheme).Run (.unlocked (initial trustStore)) actions
      log state) :
    (service scheme).machine.Run (initial trustStore)
      (actions.filterMap LockAction.proceeds?) log state.config ∧
    (Standstill state ↔ ∃ verifier saver, Crossed state verifier saver) := by
  have owned := Locked.owned_of_run locks_fit (fun _ => rfl) run
  refine ⟨Program.run_of_locked run, ?_, ?_⟩
  · rintro ⟨⟨lock, taken⟩, stuck⟩
    obtain ⟨holder, held⟩ := Option.isSome_iff_exists.mp taken
    rcases Locked.exists_unblocked_or_knot state held with
      ⟨last, -, ⟨own, has⟩, unblocked⟩ | ⟨knotted, knot⟩
    · obtain ⟨action, moves, outcome, steps⟩ :=
        exists_step owned has unblocked
      cases steps.symm.trans (stuck action own (moves ▸ has))
    · exact crossed_of_knot owned knot
  · rintro ⟨verifier, saver, crossed⟩
    refine ⟨⟨.state, by simp [crossed.stateHeld]⟩, fun action lock held => ?_⟩
    by_contra moves
    obtain ⟨⟨next, events⟩, stepped⟩ := Option.ne_none_iff_exists'.mp moves
    cases lock with
    | state =>
        cases held.symm.trans crossed.stateHeld
        exact (crossed.saver_waits owned).not_moving stepped rfl
    | trustStore =>
        cases held.symm.trans crossed.storeHeld
        exact (crossed.verifier_waits owned).not_moving stepped rfl

/-- A key is saved for one session.  A second session is shown another key and
asks about it; a third one is let in by the saved key just when the user saves
the new one. -/
def crossingRun : List (LockAction (Phase HostKeyScheme.sample) Choice) :=
  [.proceed (.spawn 0 (.entered (.verify "first"
      (HostKeyScheme.sampleKey 0x11)))),
    .acquire 0, .proceed (.advance 0 {}), .acquire 0, .proceed (.advance 0 {}),
    .acquire 0, .proceed (.advance 0 { uuid := "one" }),
    .proceed (.spawn 1 (.entered (.acceptAndSave "one"))),
    .acquire 1, .acquire 1, .proceed (.advance 1 {}),
    .proceed (.spawn 2 (.entered (.verify "second"
      (HostKeyScheme.sampleKey 0x22)))),
    .acquire 2, .proceed (.advance 2 {}), .acquire 2, .proceed (.advance 2 {}),
    .acquire 2, .proceed (.advance 2 { uuid := "two" }),
    .proceed (.spawn 3 (.entered (.verify "third"
      (HostKeyScheme.sampleKey 0x11)))),
    .acquire 3, .proceed (.advance 3 {}), .acquire 3, .proceed (.advance 3 {}),
    .proceed (.spawn 4 (.entered (.acceptAndSave "two"))), .acquire 4]

theorem crossingRun_crosses : ∃ state log,
    (guardedService .sample).Run
      (.unlocked (initial (some (.fromFilePath "/data/known_hosts" none))))
      crossingRun log state ∧ Crossed state 3 4 :=
  ⟨_, _, Machine.run_of_execute rfl, ⟨_, _, rfl⟩, ⟨_, rfl, rfl⟩, rfl, rfl⟩

theorem standstill_reached : ∃ state log,
    (guardedService .sample).Run
      (.unlocked (initial (some (.fromFilePath "/data/known_hosts" none))))
      crossingRun log state ∧ Standstill state := by
  obtain ⟨state, log, run, crossed⟩ := crossingRun_crosses
  exact ⟨state, log, run, (standstill_iff_crossed run).2.mpr ⟨3, 4, crossed⟩⟩

theorem Crossed.step {action : LockAction (Phase scheme) Choice}
    (crossed : Crossed state verifier saver)
    (owned : state.Owned (locks scheme))
    (stepped : (guardedService scheme).step state action =
      some (final, events)) : Crossed final verifier saver := by
  have still := (crossed.saver_waits owned).not_moving stepped
  have stateHeld := Locked.owner_of_not_moving still crossed.stateHeld stepped
  obtain ⟨wanted, wants, theirs⟩ := crossed.saver_waits owned
  obtain ⟨same, unmoved⟩ := Locked.wants?_step owned locks_fit stepped still
  obtain ⟨sessionId, presented, verifying⟩ := crossed.verifying
  obtain ⟨challengeId, saving, found⟩ := crossed.saving
  have waiting := (crossed.verifier_waits owned).not_moving stepped
  refine ⟨⟨sessionId, presented, ?_⟩, ⟨challengeId, unmoved.trans saving, ?_⟩,
    Locked.owner_of_not_moving waiting crossed.storeHeld stepped, stateHeld⟩
  · rw [(Locked.wants?_step owned locks_fit stepped waiting).2, verifying]
  · cases midway_of_wants (owned.step locks_fit stepped) stateHeld
      (same.trans wants) with
    | saving running found =>
        cases (unmoved.trans saving).symm.trans running
        exact found

/-- The calls that begin after a crossing are where they began. -/
structure Sealed (state : LockedState scheme) (verifier saver : ℕ)
    (more : List (LockAction (Phase scheme) Choice))
    (final : LockedState scheme) : Prop where
  owned : final.Owned (locks scheme)
  crossed : Crossed final verifier saver
  begun : ∀ thread phase, state.config.threads thread = some phase →
    phase.range ≠ [] → final.config.threads thread = some phase
  later : ∀ thread request, .proceed (.spawn thread (.entered request)) ∈ more →
    final.config.threads thread = some (.entered request)

theorem Phase.range_entered (request : Request scheme) :
    (entered request).range ≠ [] := by
  cases request <;> simp [range]

theorem Crossed.sealed {more : List (LockAction (Phase scheme) Choice)}
    {later : List (Event scheme)} (crossed : Crossed state verifier saver)
    (owned : state.Owned (locks scheme))
    (further : (guardedService scheme).Run state more later final) :
    Sealed state verifier saver more final := by
  induction further with
  | refl => exact ⟨owned, crossed, fun _ _ running _ => running, by simp⟩
  | @snoc more later before action after events earlier stepped induction =>
      have stays : ∀ thread phase, before.config.threads thread = some phase →
          phase.range ≠ [] → after.config.threads thread = some phase := by
        intro thread phase running locking
        have caught := induction.crossed.caught induction.owned running locking
        obtain ⟨-, same⟩ := caught.step induction.owned locks_fit stepped
        rw [same thread (by simp), running]
      refine ⟨induction.owned.step locks_fit stepped,
        induction.crossed.step induction.owned stepped,
        fun thread phase running locking => stays thread phase
          (induction.begun thread phase running locking) locking,
        fun thread request member => ?_⟩
      rcases List.mem_append.mp member with earlier | now
      · exact stays thread _ (induction.later thread request earlier)
          (Phase.range_entered request)
      · obtain rfl := List.mem_singleton.mp now
        cases Program.locked_cases stepped with
        | proceeded ready moved =>
            rcases Program.machine_step_cases moved with
              ⟨spawned, start, same, -, -, rfl, -⟩ |
              ⟨mover, choice, current, shared, phase, same, -, -, -⟩
            · cases same
              exact Function.update_self ..
            · cases same

/-- Once they have crossed, no call that has yet to take a lock ever gets any
further, and none that begins later gets anywhere. -/
theorem crossed_forever {trustStore : Option TrustStore}
    {actions more : List (LockAction (Phase scheme) Choice)}
    {log later : List (Event scheme)}
    (run : (guardedService scheme).Run (.unlocked (initial trustStore)) actions
      log state) (crossed : Crossed state verifier saver)
    (further : (guardedService scheme).Run state more later final) :
    Crossed final verifier saver ∧
    (∀ thread phase, state.config.threads thread = some phase →
      phase.range ≠ [] → final.config.threads thread = some phase) ∧
    ∀ thread request, .proceed (.spawn thread (.entered request)) ∈ more →
      final.config.threads thread = some (.entered request) := by
  have owned := Locked.owned_of_run locks_fit (fun _ => rfl) run
  have kept := crossed.sealed owned further
  exact ⟨kept.crossed, kept.begun, kept.later⟩

/-- A call that closes the second session comes too late. -/
theorem crossed_forever_reached : ∃ state log later final,
    (guardedService .sample).Run
      (.unlocked (initial (some (.fromFilePath "/data/known_hosts" none))))
      crossingRun log state ∧
    (guardedService .sample).Run state
      [.proceed (.spawn 5 (.entered (.cancelSession "second")))] later final ∧
    final.config.threads 5 = some (.entered (.cancelSession "second")) := by
  obtain ⟨state, log, final, later, run, crossed, further⟩ :
      ∃ state log final later, (guardedService .sample).Run
        (.unlocked (initial (some (.fromFilePath "/data/known_hosts" none))))
        crossingRun log state ∧ Crossed state 3 4 ∧
      (guardedService .sample).Run state
        [.proceed (.spawn 5 (.entered (.cancelSession "second")))] later
        final :=
    ⟨_, _, _, _, Machine.run_of_execute rfl,
      ⟨⟨_, _, rfl⟩, ⟨_, rfl, rfl⟩, rfl, rfl⟩, Machine.run_of_execute rfl⟩
  exact ⟨state, log, later, final, run, further,
    (crossed_forever run crossed further).2.2 5 _ (List.mem_singleton_self _)⟩

end HostIdentity

end TitanSSH
