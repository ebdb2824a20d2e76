import TitanSSH.Core.HostIdentity.Closing

namespace TitanSSH

namespace HostIdentity

variable {scheme : HostKeyScheme}

/-! A challenge is announced under an id of its own, and is pending before
anyone can hear of it. -/

variable {thread : ℕ} {shared next : IdentityShared scheme}
variable {phase after : Phase scheme} {events log : List (Event scheme)}

theorem Move.issued_subset (move : Move thread shared phase next after events) :
    shared.issued ⊆ next.issued := by
  cases move with
  | challenged unknown unindexed fresh => exact Finset.subset_insert _ _
  | _ => exact Finset.Subset.refl _

theorem Move.pending_fresh (move : Move thread shared phase next after events)
    {wait : ChallengeWait scheme} (pending : wait ∈ next.state.pending) :
    wait ∈ shared.state.pending ∨ wait.id ∉ shared.issued := by
  cases move with
  | challenged unknown unindexed fresh =>
      cases List.mem_append.mp pending with
      | inl before => exact .inl (List.mem_of_mem_filter before)
      | inr created =>
          obtain rfl := List.mem_singleton.mp created
          exact .inr fresh
  | acceptedOnce found => exact .inl (List.mem_of_mem_filter pending)
  | acceptedAndSaved found known saved =>
      exact .inl (List.mem_of_mem_filter (List.mem_of_mem_filter pending))
  | rejectedOne found => exact .inl (List.mem_of_mem_filter pending)
  | closed => exact .inl (List.mem_of_mem_filter pending)
  | withdrawn taken found => exact .inl (List.mem_of_mem_filter pending)
  | _ => exact .inl pending

theorem Move.attached (move : Move thread shared phase next after events)
    {wait : ChallengeWait scheme} (attached : after.attached = some wait) :
    phase.attached = some wait ∨ wait ∈ next.state.pending := by
  cases move with
  | merged unknown indexed found =>
      obtain rfl := Option.some.inj attached
      exact .inr (IdentityState.find?_some found).1
  | challenged unknown unindexed fresh =>
      obtain rfl := Option.some.inj attached
      exact .inr (List.mem_append_right _ (List.mem_singleton_self _))
  | announced => exact .inl attached
  | decidedOwn => exact .inl attached
  | decidedOther taken => exact .inl attached
  | resumed => exact .inl attached
  | _ => cases attached

theorem Move.announces (move : Move thread shared phase next after events)
    {challenge : HostIdentityChallenge}
    (announced : .announced challenge ∈ events) :
    ∃ wait, phase.attached = some wait ∧ wait.challenge = challenge := by
  cases move with
  | @announced sessionId presented wait =>
      obtain rfl := Event.announced.inj (List.mem_singleton.mp announced)
      exact ⟨wait, rfl, rfl⟩
  | resumed => cases after <;> simp [arrival] at announced
  | _ => simp at announced

/-- Every challenge that a verification holds on to has been given out. -/
def issuing (scheme : HostKeyScheme) : (service scheme).Outline where
  shared _ state := state.state.WellFormed state.issued
  phase _ state _ phase :=
    ∀ wait, phase.attached = some wait → wait.id ∈ state.issued
  opening := by
    intro log state thread start wellFormed admitted
    refine ⟨wellFormed, ?_, fun _ _ _ holds => holds⟩
    cases start with
    | entered request => nofun
    | _ => simp [service] at admitted
  stepping := by
    intro log state thread choice current next after events wellFormed holds
      stepped
    have move := step_move stepped
    have registry := move.registry wellFormed
    refine ⟨registry, ?_, ?_⟩
    · intro wait attached
      cases move.attached attached with
      | inl before => exact move.issued_subset (holds wait before)
      | inr pending => exact registry.issued wait pending
    · intro other waiting _ before wait attached
      exact move.issued_subset (before wait attached)

theorem initial_issuing (trustStore : Option TrustStore) :
    (issuing scheme).Holds [] (initial trustStore) :=
  ⟨IdentityState.empty_wellFormed _, fun _ _ running => by cases running⟩

/-- What one action of the service does to the ids, the pending challenges and
the announcements. -/
structure Announced (config next : ServiceConfig scheme)
    (events : List (Event scheme)) : Prop where
  issued : config.shared.issued ⊆ next.shared.issued
  fresh : ∀ wait ∈ next.shared.state.pending,
    wait ∈ config.shared.state.pending ∨ wait.id ∉ config.shared.issued
  announced : ∀ challenge, .announced challenge ∈ events →
    challenge.challengeId ∈ config.shared.issued

theorem machine_announced {config final : ServiceConfig scheme}
    {action : Interleaving.ThreadAction (Phase scheme) Choice}
    (issuing : (issuing scheme).Holds log config)
    (stepped : (service scheme).machine.step config action =
      some (final, events)) : Announced config final events := by
  rcases Interleaving.Program.machine_step_cases stepped with
    ⟨thread, start, -, -, -, rfl, rfl⟩ |
    ⟨thread, choice, current, shared, phase, -, running, moved, rfl⟩
  · refine ⟨Finset.Subset.refl _, fun wait pending => .inl pending, ?_⟩
    intro challenge announced
    cases start <;> simp [service] at announced
  · have move := step_move moved
    refine ⟨move.issued_subset, fun wait pending =>
      move.pending_fresh pending, ?_⟩
    intro challenge announced
    obtain ⟨wait, attached, rfl⟩ := move.announces announced
    exact issuing.2 thread current running wait attached

end HostIdentity

end TitanSSH
