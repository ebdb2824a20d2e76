import TitanSSH.Core.HostIdentity.Announcements

namespace TitanSSH

/-- Where a challenge is.  It only moves on, from each place to the next. -/
inductive Place
  | unraised
  | pending
  | owed (thread : ℕ)
  | decided (decision : Decision)
  deriving DecidableEq

def Place.decision : Place → Option Decision
  | .decided decision => some decision
  | _ => none

inductive Place.Precedes : Place → Place → Prop
  | stays {place : Place} : Precedes place place
  | raised : Precedes .unraised .pending
  | taken {thread : ℕ} : Precedes .pending (.owed thread)
  | decided {thread : ℕ} {decision : Decision} :
      Precedes (.owed thread) (.decided decision)

theorem Place.Precedes.raised_still {place later : Place}
    (precedes : place.Precedes later) (raised : place ≠ .unraised) :
    later ≠ .unraised := by
  cases precedes with
  | stays => exact raised
  | raised => exact absurd rfl raised
  | taken => nofun
  | decided => nofun

namespace IdentityState.WellFormed

variable {scheme : HostKeyScheme} {state : IdentityState scheme}
variable {issued : Finset String}

theorem pending_nodup (wellFormed : state.WellFormed issued) :
    state.pending.Nodup :=
  wellFormed.distinct.of_map _

theorem mem_removeAll (wellFormed : state.WellFormed issued)
    {targets : List (ChallengeWait scheme)}
    (inside : ∀ target ∈ targets, target ∈ state.pending)
    (wait : ChallengeWait scheme) :
    wait ∈ (state.removeAll targets).pending ↔
      wait ∈ state.pending ∧ wait ∉ targets := by
  simp only [IdentityState.removeAll, List.mem_filter, decide_eq_true_eq,
    List.mem_map, not_exists, not_and]
  refine and_congr_right fun pending => ⟨?_, ?_⟩
  · intro apart targeted
    exact apart wait targeted rfl
  · intro apart target targeted same
    obtain rfl := wellFormed.eq_of_id (inside target targeted) pending same
    exact apart targeted

end IdentityState.WellFormed

namespace HostIdentity

variable {scheme : HostKeyScheme}

/-- The challenges that a call has taken out and not decided yet. -/
def Phase.owes : Phase scheme → List (ChallengeWait scheme)
  | .deciding _ own others next => own.toList ++ others ++ next.owes
  | _ => []

def owedBy (config : ServiceConfig scheme) (thread : ℕ) :
    List (ChallengeWait scheme) :=
  (config.threads thread).elim [] Phase.owes

def Event.decides (wait : ChallengeWait scheme) :
    Event scheme → Option Decision
  | .decided other decision => if other = wait then some decision else none
  | _ => none

/-- The whole configuration agrees on where the challenge is. -/
structure Placed (log : List (Event scheme)) (config : ServiceConfig scheme)
    (wait : ChallengeWait scheme) (place : Place) : Prop where
  pending : wait ∈ config.shared.state.pending ↔ place = .pending
  owed : ∀ thread, (owedBy config thread).count wait =
    if place = .owed thread then 1 else 0
  decision : config.shared.decisions wait = place.decision
  told : log.filterMap (Event.decides wait) = place.decision.toList
  issued : place ≠ .unraised → wait.id ∈ config.shared.issued

/-- What a move does to the challenges: nothing, or it takes some out and may
raise one, or it decides one. -/
inductive Handling (shared : IdentityShared scheme) (phase : Phase scheme)
    (next : IdentityShared scheme) (after : Phase scheme) :
    List (Event scheme) → Prop
  | idle {events : List (Event scheme)}
      (pending : next.state.pending = shared.state.pending)
      (decisions : next.decisions = shared.decisions)
      (owes : after.owes = phase.owes)
      (quiet : ∀ wait, events.filterMap (Event.decides wait) = []) :
      Handling shared phase next after events
  | taken {events : List (Event scheme)} {targets : List (ChallengeWait scheme)}
      {raised : Option (ChallengeWait scheme)}
      (nothing : phase.owes = []) (owes : after.owes = targets)
      (distinct : targets.Nodup)
      (inside : ∀ target ∈ targets, target ∈ shared.state.pending)
      (pending : ∀ wait, wait ∈ next.state.pending ↔
        wait ∈ shared.state.pending ∧ wait ∉ targets ∨ raised = some wait)
      (fresh : ∀ wait, raised = some wait → wait.id ∉ shared.issued ∧
        next.decisions wait = none)
      (decisions : ∀ wait, raised ≠ some wait →
        next.decisions wait = shared.decisions wait)
      (quiet : ∀ wait, events.filterMap (Event.decides wait) = []) :
      Handling shared phase next after events
  | decided {wait : ChallengeWait scheme} {decision : Decision}
      (pending : next.state.pending = shared.state.pending)
      (decisions : next.decisions =
        Function.update shared.decisions wait (some decision))
      (owes : phase.owes.Perm (wait :: after.owes)) :
      Handling shared phase next after [.decided wait decision]

variable {thread : ℕ} {shared next : IdentityShared scheme}
variable {phase after : Phase scheme} {events log : List (Event scheme)}

theorem quiet_arrival (wait : ChallengeWait scheme) :
    (arrival thread phase).filterMap (Event.decides wait) = [] := by
  cases phase <;> rfl

theorem Handling.removed {targets : List (ChallengeWait scheme)}
    (wellFormed : shared.state.WellFormed shared.issued)
    (nothing : phase.owes = []) (owes : after.owes = targets)
    (distinct : targets.Nodup)
    (inside : ∀ target ∈ targets, target ∈ shared.state.pending)
    (pending : next.state.pending = (shared.state.removeAll targets).pending)
    (decisions : next.decisions = shared.decisions)
    (quiet : ∀ wait, events.filterMap (Event.decides wait) = []) :
    Handling shared phase next after events := by
  refine @Handling.taken _ _ _ _ _ _ _ none nothing owes distinct inside ?_ ?_
    (fun _ _ => by rw [decisions]) quiet
  · intro wait
    rw [pending, wellFormed.mem_removeAll inside]
    simp
  · nofun

theorem Handling.removed_one {wait : ChallengeWait scheme} {challengeId : String}
    (wellFormed : shared.state.WellFormed shared.issued)
    (found : shared.state.find? challengeId = some wait)
    (nothing : phase.owes = []) (owes : after.owes = [wait])
    (pending : next.state.pending = (shared.state.removeAll [wait]).pending)
    (decisions : next.decisions = shared.decisions)
    (quiet : ∀ wait, events.filterMap (Event.decides wait) = []) :
    Handling shared phase next after events := by
  refine .removed wellFormed nothing owes (List.nodup_singleton _) ?_ pending
    decisions quiet
  intro target targeted
  obtain rfl := List.mem_singleton.mp targeted
  exact (IdentityState.find?_some found).1

theorem Move.handling (move : Move thread shared phase next after events)
    (wellFormed : shared.state.WellFormed shared.issued) :
    Handling shared phase next after events := by
  cases move with
  | @challenged sessionId presented stored uuid now unknown unindexed fresh =>
      have inside := @superseded_subset _ shared.state sessionId presented
      refine @Handling.taken _ _ _ _ _ _
        (shared.state.superseded sessionId presented)
        (some (.create sessionId presented stored uuid now)) rfl
        (List.append_nil _) (wellFormed.pending_nodup.filter _) inside ?_ ?_
        ?_ (fun _ => rfl)
      · intro wait
        rw [IdentityState.insert, List.mem_append, List.mem_singleton,
          wellFormed.mem_removeAll inside, Option.some.injEq,
          @eq_comm _ wait]
      · rintro wait same
        obtain rfl := Option.some.inj same
        exact ⟨fresh, Function.update_self _ _ _⟩
      · intro wait different
        exact Function.update_of_ne (fun same => different (by rw [same])) _ _
  | acceptedOnce found =>
      exact .removed_one wellFormed found rfl rfl rfl rfl fun _ => rfl
  | @acceptedAndSaved challengeId wait store later found known saved =>
      have own : ∀ target ∈ [wait], target ∈ shared.state.pending := by
        intro target targeted
        obtain rfl := List.mem_singleton.mp targeted
        exact (IdentityState.find?_some found).1
      have middle := (wellFormed.removeAll own).trust wait.key
      have others : ∀ target ∈
          ((shared.state.removeAll [wait]).trust wait.key).releasedBy wait,
          target ∈ ((shared.state.removeAll [wait]).trust wait.key).pending :=
        fun target targeted => List.mem_of_mem_filter targeted
      have apart := fun target (targeted : target ∈ _) =>
        (wellFormed.mem_removeAll own target).mp (others target targeted)
      refine @Handling.taken _ _ _ _ _ _
        (wait :: ((shared.state.removeAll [wait]).trust wait.key).releasedBy wait)
        none rfl (List.append_nil _) ?_ ?_ ?_ (by rintro _ ⟨⟩)
        (fun _ _ => rfl) (fun _ => rfl)
      · refine List.nodup_cons.mpr ⟨?_, middle.pending_nodup.filter _⟩
        intro released
        exact (apart wait released).2 (List.mem_singleton_self _)
      · intro target targeted
        rcases List.mem_cons.mp targeted with rfl | released
        · exact own target (List.mem_singleton_self _)
        · exact (apart target released).1
      · intro other
        rw [middle.mem_removeAll others]
        change other ∈ (shared.state.removeAll [wait]).pending ∧ _ ↔ _
        rw [wellFormed.mem_removeAll own]
        simp [and_assoc]
  | rejectedOne found =>
      exact .removed_one wellFormed found rfl rfl rfl rfl fun _ => rfl
  | closed =>
      exact .removed wellFormed rfl (List.append_nil _)
        (wellFormed.pending_nodup.filter _)
        (fun target targeted => List.mem_of_mem_filter targeted) rfl rfl
        fun _ => rfl
  | withdrawn taken found =>
      exact .removed_one wellFormed found rfl rfl rfl rfl fun _ => rfl
  | decidedOwn => exact .decided rfl rfl (by simp [Phase.owes])
  | decidedOther taken =>
      exact .decided rfl rfl (by simpa [Phase.owes] using taken.append_right _)
  | resumed =>
      exact .idle rfl rfl (by simp [Phase.owes]) quiet_arrival
  | _ => exact .idle rfl rfl rfl (fun _ => rfl)

theorem owedBy_running {config : ServiceConfig scheme}
    (running : config.threads thread = some phase) :
    owedBy config thread = phase.owes := by
  simp [owedBy, running]

theorem owedBy_update {config : ServiceConfig scheme} (other : ℕ) :
    owedBy ⟨next, Function.update config.threads thread (some after)⟩ other =
      if other = thread then after.owes else owedBy config other := by
  rcases eq_or_ne other thread with rfl | different
  · simp [owedBy]
  · simp [owedBy, different]

variable {config : ServiceConfig scheme} {wait : ChallengeWait scheme}
variable {place : Place}

theorem Placed.keep (placed : Placed log config wait place)
    (running : config.threads thread = some phase)
    (issued : config.shared.issued ⊆ next.issued)
    (pending : wait ∈ next.state.pending ↔ wait ∈ config.shared.state.pending)
    (owes : after.owes.count wait = phase.owes.count wait)
    (decisions : next.decisions wait = config.shared.decisions wait)
    (quiet : events.filterMap (Event.decides wait) = []) :
    Placed (log ++ events)
      ⟨next, Function.update config.threads thread (some after)⟩ wait place := by
  refine ⟨pending.trans placed.pending, ?_, decisions.trans placed.decision,
    by rw [List.filterMap_append, quiet, List.append_nil, placed.told],
    fun raised => issued (placed.issued raised)⟩
  intro other
  rw [owedBy_update]
  split
  · next same =>
      subst same
      rw [owes, ← owedBy_running running, placed.owed]
  · exact placed.owed other

/-- Where a challenge is taken out or raised. -/
theorem Placed.take {targets : List (ChallengeWait scheme)}
    {raised : Option (ChallengeWait scheme)}
    (placed : Placed log config wait place)
    (running : config.threads thread = some phase)
    (issued : config.shared.issued ⊆ next.issued)
    (registry : next.state.WellFormed next.issued)
    (nothing : phase.owes = []) (owes : after.owes = targets)
    (distinct : targets.Nodup)
    (inside : ∀ target ∈ targets, target ∈ config.shared.state.pending)
    (pending : ∀ wait, wait ∈ next.state.pending ↔
      wait ∈ config.shared.state.pending ∧ wait ∉ targets ∨ raised = some wait)
    (fresh : ∀ wait, raised = some wait →
      wait.id ∉ config.shared.issued ∧ next.decisions wait = none)
    (decisions : ∀ wait, raised ≠ some wait →
      next.decisions wait = config.shared.decisions wait)
    (quiet : ∀ wait, events.filterMap (Event.decides wait) = []) :
    ∃ later, place.Precedes later ∧ Placed (log ++ events)
      ⟨next, Function.update config.threads thread (some after)⟩ wait later := by
  have told : (log ++ events).filterMap (Event.decides wait) =
      place.decision.toList := by
    rw [List.filterMap_append, quiet, List.append_nil, placed.told]
  by_cases created : raised = some wait
  · obtain ⟨unissued, undecided⟩ := fresh wait created
    obtain rfl : place = .unraised := by
      by_contra known
      exact unissued (placed.issued known)
    have now : wait ∈ next.state.pending := (pending wait).mpr (.inr created)
    refine ⟨.pending, .raised, by simpa using now, ?_, undecided, told,
      fun _ => registry.issued wait now⟩
    intro other
    rw [owedBy_update]
    split
    · rw [owes, List.count_eq_zero_of_not_mem]
      · rfl
      · intro targeted
        cases placed.pending.mp (inside wait targeted)
    · exact placed.owed other
  by_cases targeted : wait ∈ targets
  · obtain rfl := placed.pending.mp (inside wait targeted)
    refine ⟨.owed thread, .taken, ?_, ?_, ?_, told,
      fun _ => issued (placed.issued nofun)⟩
    · simp [pending, targeted, created]
    · intro other
      rw [owedBy_update, owes]
      split
      · next same =>
          rw [List.count_eq_one_of_mem distinct targeted, same, if_pos rfl]
      · next different =>
          rw [placed.owed]
          simp [Ne.symm different]
    · exact (decisions wait created).trans placed.decision
  · refine ⟨place, .stays, placed.keep running issued ?_ ?_
      (decisions wait created) (quiet wait)⟩
    · simp [pending, targeted, created]
    · rw [owes, nothing, List.count_eq_zero_of_not_mem targeted, List.count_nil]

theorem Placed.decide {target : ChallengeWait scheme} {decision : Decision}
    (placed : Placed log config wait place)
    (running : config.threads thread = some phase)
    (issued : config.shared.issued ⊆ next.issued)
    (pending : next.state.pending = config.shared.state.pending)
    (decisions : next.decisions =
      Function.update config.shared.decisions target (some decision))
    (owes : phase.owes.Perm (target :: after.owes)) :
    ∃ later, place.Precedes later ∧ Placed (log ++ [.decided target decision])
      ⟨next, Function.update config.threads thread (some after)⟩ wait later := by
  have counted := owes.count_eq wait
  rcases eq_or_ne target wait with rfl | different
  · rw [List.count_cons_self, ← owedBy_running running, placed.owed] at counted
    obtain rfl : place = .owed thread := by
      by_contra elsewhere
      simp [elsewhere] at counted
    refine ⟨.decided decision, .decided, ?_, ?_, ?_, ?_,
      fun _ => issued (placed.issued nofun)⟩
    · rw [pending, placed.pending]
      simp
    · intro other
      rw [owedBy_update]
      split
      · rw [if_pos rfl] at counted
        simpa using counted
      · next elsewhere =>
          rw [placed.owed]
          simp [Ne.symm elsewhere]
    · rw [decisions, Function.update_self]
      rfl
    · simp [placed.told, Event.decides, Place.decision]
  · rw [List.count_cons_of_ne different] at counted
    refine ⟨place, .stays, placed.keep running issued ?_ counted.symm ?_ ?_⟩
    · rw [pending]
    · rw [decisions, Function.update_of_ne different.symm]
    · simp [Event.decides, different]

theorem Placed.advance (placed : Placed log config wait place)
    (move : Move thread config.shared phase next after events)
    (running : config.threads thread = some phase)
    (wellFormed : config.shared.state.WellFormed config.shared.issued) :
    ∃ later, place.Precedes later ∧ Placed (log ++ events)
      ⟨next, Function.update config.threads thread (some after)⟩ wait later := by
  have issued := move.issued_subset
  cases move.handling wellFormed with
  | idle pending decisions owes quiet =>
      exact ⟨place, .stays, placed.keep running issued (by rw [pending])
        (by rw [owes]) (by rw [decisions]) (quiet wait)⟩
  | taken nothing owes distinct inside pending fresh decisions quiet =>
      exact placed.take running issued (move.registry wellFormed) nothing owes
        distinct inside pending fresh decisions quiet
  | decided pending decisions owes =>
      exact placed.decide running issued pending decisions owes

theorem Placed.spawn {request : Request scheme}
    (placed : Placed log config wait place)
    (free : config.threads thread = none) :
    Placed (log ++ [.started thread request])
      ⟨config.shared,
        Function.update config.threads thread (some (.entered request))⟩
      wait place := by
  refine ⟨placed.pending, ?_, placed.decision, ?_, placed.issued⟩
  · intro other
    rw [owedBy_update]
    split
    · next same =>
        subst same
        rw [← placed.owed other]
        simp [owedBy, free, Phase.owes]
    · exact placed.owed other
  · rw [List.filterMap_append]
    exact (List.append_nil _).trans placed.told

/-! The registry as a whole, in every run. -/

def Phase.Sound : Phase scheme → Prop
  | .panicked => False
  | .deciding _ _ _ next => next.Sound
  | _ => True

/-- No session has two pending challenges for one endpoint. -/
def OneEach (state : IdentityState scheme) : Prop :=
  ∀ wait ∈ state.pending, ∀ other ∈ state.pending,
    wait.challenge.sessionId = other.challenge.sessionId →
    wait.challenge.host = other.challenge.host →
    wait.challenge.port = other.challenge.port → wait = other

structure Registered (log : List (Event scheme))
    (config : ServiceConfig scheme) : Prop where
  held : (closing scheme).Holds log config
  sound : ∀ thread phase, config.threads thread = some phase → phase.Sound
  oneEach : OneEach config.shared.state
  placed : ∀ wait, ∃ place, Placed log config wait place ∧
    ∀ thread phase, config.threads thread = some phase →
      phase.attached = some wait → place ≠ .unraised

theorem OneEach.narrow {state later : IdentityState scheme}
    (oneEach : OneEach state)
    (inside : ∀ wait ∈ later.pending, wait ∈ state.pending) : OneEach later :=
  fun wait pending other present =>
    oneEach wait (inside wait pending) other (inside other present)

theorem Move.sound (move : Move thread shared phase next after events)
    (wellFormed : shared.state.WellFormed shared.issued)
    (sound : phase.Sound) : after.Sound := by
  cases move with
  | panicked indexed missing =>
      exact wellFormed.found_of_indexed indexed missing
  | decidedOwn => exact sound
  | decidedOther taken => exact sound
  | resumed => exact sound
  | _ => trivial

theorem Move.oneEach (move : Move thread shared phase next after events)
    (wellFormed : shared.state.WellFormed shared.issued)
    (oneEach : OneEach shared.state) : OneEach next.state := by
  cases move with
  | @challenged sessionId presented stored uuid now unknown unindexed fresh =>
      have apart : ∀ wait ∈ (shared.state.removeAll
          (shared.state.superseded sessionId presented)).pending,
          wait.challenge.sessionId = sessionId →
          wait.challenge.host = presented.host →
          wait.challenge.port = presented.port → False := by
        intro wait member sameSession sameHost samePort
        obtain ⟨pending, kept⟩ :=
          (wellFormed.mem_removeAll superseded_subset wait).mp member
        have sameKey : wait.key = .ofPresented sessionId presented := by
          have sameFingerprint : wait.challenge.fingerprint =
              presented.fingerprint := by
            by_contra different
            apply kept
            simp [IdentityState.superseded, pending, sameSession, sameHost,
              samePort, different]
          simp [ChallengeWait.key, IdentityKey.fromChallenge,
            IdentityKey.ofPresented, sameSession, sameHost, samePort,
            sameFingerprint]
        have indexed := (wellFormed.indexed _ _).mpr
          ⟨wait, pending, rfl, sameKey⟩
        rw [unindexed] at indexed
        cases indexed
      intro wait member other present sameSession sameHost samePort
      cases List.mem_append.mp member with
      | inl before =>
          cases List.mem_append.mp present with
          | inl earlier =>
              exact oneEach wait (List.mem_of_mem_filter before) other
                (List.mem_of_mem_filter earlier) sameSession sameHost samePort
          | inr raised =>
              obtain rfl := List.mem_singleton.mp raised
              exact (apart wait before sameSession sameHost samePort).elim
      | inr created =>
          obtain rfl := List.mem_singleton.mp created
          cases List.mem_append.mp present with
          | inl earlier =>
              exact (apart other earlier sameSession.symm sameHost.symm
                samePort.symm).elim
          | inr raised => exact (List.mem_singleton.mp raised).symm
  | acceptedOnce found =>
      exact oneEach.narrow fun wait member => List.mem_of_mem_filter member
  | acceptedAndSaved found known saved =>
      exact oneEach.narrow fun wait member =>
        List.mem_of_mem_filter (List.mem_of_mem_filter member)
  | rejectedOne found =>
      exact oneEach.narrow fun wait member => List.mem_of_mem_filter member
  | closed =>
      exact oneEach.narrow fun wait member => List.mem_of_mem_filter member
  | withdrawn taken found =>
      exact oneEach.narrow fun wait member => List.mem_of_mem_filter member
  | _ => exact oneEach

theorem Registered.step {final : ServiceConfig scheme}
    {action : Interleaving.ThreadAction (Phase scheme) Choice}
    (registered : Registered log config)
    (stepped : (service scheme).machine.step config action =
      some (final, events)) : Registered (log ++ events) final := by
  have closed := (closing scheme).preserved _ _ _ _ _ registered.held stepped
  rcases Interleaving.Program.machine_step_cases stepped with
    ⟨thread, start, -, free, admitted, rfl, rfl⟩ |
    ⟨thread, choice, current, shared, after, -, running, moved, rfl⟩
  · cases start with
    | entered request =>
        refine ⟨closed, ?_, registered.oneEach, fun wait => ?_⟩
        · exact Interleaving.everywhere_update trivial
            fun other phase _ found => registered.sound other phase found
        · obtain ⟨place, placed, raised⟩ := registered.placed wait
          exact ⟨place, placed.spawn free, Interleaving.everywhere_update nofun
            fun other phase _ found => raised other phase found⟩
    | _ => simp [service] at admitted
  · have move := step_move moved
    have wellFormed := registered.held.1.wellFormed
    refine ⟨closed, ?_, move.oneEach wellFormed registered.oneEach, ?_⟩
    · exact Interleaving.everywhere_update
        (move.sound wellFormed (registered.sound thread current running))
        fun other phase _ found => registered.sound other phase found
    · intro wait
      obtain ⟨place, placed, raised⟩ := registered.placed wait
      obtain ⟨later, precedes, arrived⟩ :=
        placed.advance move running wellFormed
      refine ⟨later, arrived, Interleaving.everywhere_update ?_ ?_⟩
      · intro attached
        cases move.attached attached with
        | inl before =>
            exact precedes.raised_still (raised thread current running before)
        | inr pending =>
            rw [arrived.pending.mp pending]
            rintro ⟨⟩
      · intro other phase _ found attached
        exact precedes.raised_still (raised other phase found attached)

theorem initial_registered (trustStore : Option TrustStore) :
    Registered [] (initial trustStore : ServiceConfig scheme) where
  held := initial_closing trustStore
  sound := fun _ _ running => by cases running
  oneEach := fun _ member => by cases member
  placed := fun wait => ⟨.unraised,
    ⟨by simp [initial, IdentityState.empty], by simp [owedBy, initial], rfl, rfl,
      fun raised => absurd rfl raised⟩, fun _ _ running => by cases running⟩

theorem stepAcceptAndSave_failed {choice : Choice} {challengeId : String}
    {error : AppError}
    (stepped : stepAcceptAndSave thread choice shared challengeId =
      (next, .returned (.acceptAndSave challengeId) (.result (.error error)),
        events)) :
    next.state = shared.state ∧ (error.kind = .hostKeySaveFailed →
      ∃ wait ∈ shared.state.pending, wait.id = challengeId) := by
  unfold stepAcceptAndSave at stepped
  cases found : shared.state.find? challengeId with
  | none =>
      simp only [found, respond, Prod.mk.injEq, Phase.returned.injEq,
        Response.result.injEq, Except.error.injEq, true_and] at stepped
      obtain ⟨rfl, rfl, -⟩ := stepped
      refine ⟨rfl, fun failed => ?_⟩
      cases failed
  | some wait =>
      refine ⟨?_, fun _ => ⟨wait, IdentityState.find?_some found⟩⟩
      cases known : shared.trustStore with
      | none =>
          simp only [found, known, respond, Prod.mk.injEq] at stepped
          rw [← stepped.1]
      | some store =>
          rcases saved : store.upsert choice.io wait.record with ⟨outcome, later⟩
          cases outcome with
          | error failure =>
              simp only [found, known, saved, respond, Prod.mk.injEq] at stepped
              rw [← stepped.1]
          | ok _ => simp [found, known, saved] at stepped

/-- What a call that waits for a decision relies on. -/
structure Consistent (log : List (Event scheme))
    (config : ServiceConfig scheme) : Prop where
  indexed : ∀ key challengeId,
    config.shared.state.pendingIndex key = some challengeId ↔
      ∃ wait ∈ config.shared.state.pending,
        wait.id = challengeId ∧ wait.key = key
  expected : ∀ thread, config.threads thread ≠ some .panicked
  oneEach : OneEach config.shared.state
  closed : ∀ sessionId ∈ config.shared.state.cancelled,
    (∀ wait ∈ config.shared.state.pending,
      wait.challenge.sessionId ≠ sessionId) ∧
    ∀ key ∈ config.shared.state.trusted, key.sessionId ≠ sessionId
  blocked : ∀ thread sessionId presented wait,
    config.threads thread = some (.waiting sessionId presented wait) →
      wait ∈ config.shared.state.pending ∨
      (∃ decision, config.shared.decisions wait = some decision) ∨
      ∃! other, wait ∈ owedBy config other
  decidedOnce : ∀ wait, (log.filterMap (Event.decides wait)).length ≤ 1

theorem Placed.owed_iff (placed : Placed log config wait place) (thread : ℕ) :
    wait ∈ owedBy config thread ↔ place = .owed thread := by
  rw [← List.count_pos_iff, placed.owed]
  split
  · next owing => simp [owing]
  · next free => simp [free]

theorem Registered.consistent (registered : Registered log config) :
    Consistent log config where
  indexed := registered.held.1.wellFormed.indexed
  expected := fun thread running => registered.sound thread _ running
  oneEach := registered.oneEach
  closed := by
    intro sessionId cancelled
    constructor
    · rintro wait pending rfl
      exact registered.held.1.pending wait pending cancelled
    · rintro key trusted rfl
      exact registered.held.1.trusted key trusted cancelled
  blocked := by
    intro thread sessionId presented wait running
    obtain ⟨place, placed, raised⟩ := registered.placed wait
    cases place with
    | unraised => exact absurd rfl (raised thread _ running rfl)
    | pending => exact .inl (placed.pending.mpr rfl)
    | decided decision => exact .inr (.inl ⟨decision, placed.decision⟩)
    | owed other =>
        refine .inr (.inr ⟨other, (placed.owed_iff other).mpr rfl, ?_⟩)
        intro third owes
        cases (placed.owed_iff third).mp owes
        rfl
  decidedOnce := by
    intro wait
    obtain ⟨place, placed, -⟩ := registered.placed wait
    rw [placed.told]
    cases place <;> simp [Place.decision]

/-- In every run the registry and those who wait on it agree, and a save that
fails changes nothing about the challenge or about what is trusted. -/
theorem challenges_accounted {trustStore : Option TrustStore}
    {actions : List (Interleaving.ThreadAction (Phase scheme) Choice)}
    (run : (service scheme).machine.Run (initial trustStore) actions log
      config) :
    Consistent log config ∧
    ∀ thread choice challengeId error final stepEvents,
      config.threads thread = some (.entered (.acceptAndSave challengeId)) →
      (service scheme).machine.step config (.advance thread choice) =
        some (final, stepEvents) →
      final.threads thread = some (.returned (.acceptAndSave challengeId)
        (.result (.error error))) →
      final.shared.state = config.shared.state ∧
      (error.kind = .hostKeySaveFailed →
        ∃ wait ∈ final.shared.state.pending, wait.id = challengeId) := by
  constructor
  · apply Registered.consistent
    apply run.invariant (initial_registered trustStore)
    intro past current action next stepEvents registered stepped
    exact registered.step stepped
  · intro thread choice challengeId error final stepEvents running stepped
      refused
    rcases Interleaving.Program.machine_step_cases stepped with
      ⟨other, start, same, -⟩ |
      ⟨other, chosen, current, shared, after, same, found, moved, rfl⟩
    · cases same
    · cases same
      rw [running] at found
      obtain rfl := Option.some.inj found
      simp only [Function.update_self, Option.some.injEq] at refused
      subst refused
      have entered : stepAcceptAndSave thread choice config.shared challengeId =
          (shared, .returned (.acceptAndSave challengeId)
            (.result (.error error)), stepEvents) := Option.some.inj moved
      obtain ⟨unchanged, kept⟩ := stepAcceptAndSave_failed entered
      refine ⟨unchanged, fun failure => ?_⟩
      rw [unchanged]
      exact kept failure

/-- A connection waits on a challenge, and the trust store is absent, so saving
its key fails; then it is accepted without being saved. -/
def failedSaveRun : List (Interleaving.ThreadAction
    (Phase HostKeyScheme.sample) Choice) :=
  [.spawn 0 (.entered (.verify "session" (HostKeyScheme.sampleKey 0x11))),
    .advance 0 {}, .advance 0 {}, .advance 0 { uuid := "challenge" },
    .advance 0 {}, .advance 0 {},
    .spawn 1 (.entered (.acceptAndSave "challenge")), .advance 1 {},
    .spawn 2 (.entered (.accept "challenge")), .advance 2 {},
    .advance 2 {}]

theorem challenges_accounted_between :
    ∃ log config,
      (service .sample).machine.Run (initial none) failedSaveRun log config ∧
      Consistent log config := by
  have executed : ∃ log config,
      (service .sample).machine.Run (initial none) failedSaveRun log config :=
    ⟨_, _, Interleaving.Machine.run_of_execute rfl⟩
  obtain ⟨log, config, run⟩ := executed
  exact ⟨log, config, run, (challenges_accounted run).1⟩

end HostIdentity

end TitanSSH
