import Mathlib.Data.List.Nodup
import TitanSSH.Core.HostIdentity.Steps

namespace TitanSSH

variable {scheme : HostKeyScheme}

/-! The two maps of pending challenges agree, whatever the calls do. -/

namespace IdentityState

structure WellFormed (state : IdentityState scheme) (issued : Finset String) :
    Prop where
  issued : ∀ wait ∈ state.pending, wait.id ∈ issued
  distinct : (state.pending.map (·.id)).Nodup
  indexed : ∀ key challengeId, state.pendingIndex key = some challengeId ↔
    ∃ wait ∈ state.pending, wait.id = challengeId ∧ wait.key = key

variable {state : IdentityState scheme} {issued : Finset String}
variable {wait other : ChallengeWait scheme}
variable {targets : List (ChallengeWait scheme)}

theorem find?_some {challengeId : String}
    (found : state.find? challengeId = some wait) :
    wait ∈ state.pending ∧ wait.id = challengeId :=
  ⟨List.mem_of_find?_eq_some found, by simpa using List.find?_some found⟩

theorem empty_wellFormed (issued : Finset String) :
    (empty : IdentityState scheme).WellFormed issued where
  issued := by simp [empty]
  distinct := by simp [empty]
  indexed := by simp [empty]

namespace WellFormed

theorem eq_of_id (wellFormed : state.WellFormed issued)
    (first : wait ∈ state.pending) (second : other ∈ state.pending)
    (same : wait.id = other.id) : wait = other :=
  List.inj_on_of_nodup_map wellFormed.distinct first second same

theorem eq_of_key (wellFormed : state.WellFormed issued)
    (first : wait ∈ state.pending) (second : other ∈ state.pending)
    (same : wait.key = other.key) : wait = other := by
  have firstIndexed :=
    (wellFormed.indexed wait.key wait.id).mpr ⟨wait, first, rfl, rfl⟩
  have secondIndexed :=
    (wellFormed.indexed wait.key other.id).mpr ⟨other, second, rfl, same.symm⟩
  rw [firstIndexed] at secondIndexed
  exact wellFormed.eq_of_id first second (Option.some.inj secondIndexed)

theorem key_of_indexed (wellFormed : state.WellFormed issued)
    {key : IdentityKey} {challengeId : String}
    (indexed : state.pendingIndex key = some challengeId)
    (found : state.find? challengeId = some wait) : wait.key = key := by
  obtain ⟨member, idEq⟩ := find?_some found
  obtain ⟨listed, listedMember, listedId, listedKey⟩ :=
    (wellFormed.indexed key challengeId).mp indexed
  obtain rfl := wellFormed.eq_of_id member listedMember
    (idEq.trans listedId.symm)
  exact listedKey

theorem found_of_indexed (wellFormed : state.WellFormed issued)
    {key : IdentityKey} {challengeId : String}
    (indexed : state.pendingIndex key = some challengeId) :
    state.find? challengeId ≠ none := by
  obtain ⟨wait, member, rfl, -⟩ :=
    (wellFormed.indexed key challengeId).mp indexed
  intro missing
  have refused := List.find?_eq_none.mp missing wait member
  simp at refused

theorem removeAll (wellFormed : state.WellFormed issued)
    (inside : ∀ target ∈ targets, target ∈ state.pending) :
    (state.removeAll targets).WellFormed issued := by
  have untouched : ∀ {kept}, kept ∈ state.pending →
      (kept.id ∉ targets.map (·.id) ↔ kept.key ∉ targets.map (·.key)) := by
    intro kept member
    simp only [List.mem_map, not_exists, not_and]
    constructor
    · intro apart target targeted sameKey
      have same := wellFormed.eq_of_key (inside target targeted) member sameKey
      exact apart target targeted (by rw [same])
    · intro apart target targeted sameId
      have same := wellFormed.eq_of_id (inside target targeted) member sameId
      exact apart target targeted (by rw [same])
  refine ⟨?_, ?_, ?_⟩
  · intro wait member
    exact wellFormed.issued wait (List.mem_of_mem_filter member)
  · exact wellFormed.distinct.sublist (List.filter_sublist.map _)
  · intro key challengeId
    simp only [IdentityState.removeAll, List.mem_filter, decide_eq_true_eq]
    constructor
    · intro found
      split at found
      · simp at found
      · rename_i kept
        obtain ⟨wait, member, idEq, keyEq⟩ :=
          (wellFormed.indexed key challengeId).mp found
        refine ⟨wait, ⟨member, ?_⟩, idEq, keyEq⟩
        rw [untouched member, keyEq]
        exact kept
    · rintro ⟨wait, ⟨member, kept⟩, idEq, rfl⟩
      rw [untouched member] at kept
      rw [if_neg kept]
      exact (wellFormed.indexed wait.key challengeId).mpr
        ⟨wait, member, idEq, rfl⟩

theorem trust (wellFormed : state.WellFormed issued) (key : IdentityKey) :
    (state.trust key).WellFormed issued :=
  ⟨wellFormed.issued, wellFormed.distinct, wellFormed.indexed⟩

theorem close (wellFormed : state.WellFormed issued) (sessionId : String) :
    (state.close sessionId).WellFormed issued := by
  have removed : (state.removeAll (state.ofSession sessionId)).WellFormed
      issued :=
    wellFormed.removeAll fun target targeted => List.mem_of_mem_filter targeted
  exact ⟨removed.issued, removed.distinct, removed.indexed⟩

theorem insert (wellFormed : state.WellFormed issued)
    (fresh : wait.id ∉ issued)
    (unindexed : state.pendingIndex wait.key = none) :
    (state.insert wait).WellFormed (Insert.insert wait.id issued) := by
  refine ⟨?_, ?_, ?_⟩
  · intro kept member
    simp only [IdentityState.insert, List.mem_append, List.mem_singleton] at member
    rcases member with before | rfl
    · exact Finset.mem_insert_of_mem (wellFormed.issued kept before)
    · exact Finset.mem_insert_self _ _
  · simp only [IdentityState.insert, List.map_append, List.map_cons,
      List.map_nil]
    refine List.nodup_append.mpr ⟨wellFormed.distinct, by simp, ?_⟩
    intro first inFirst second inSecond same
    obtain ⟨kept, member, rfl⟩ := List.mem_map.mp inFirst
    simp only [List.mem_singleton] at inSecond
    exact fresh (inSecond ▸ same ▸ wellFormed.issued kept member)
  · intro key challengeId
    simp only [IdentityState.insert, List.mem_append, List.mem_singleton]
    by_cases own : key = wait.key
    · subst own
      rw [Function.update_self, Option.some.injEq]
      constructor
      · rintro rfl
        exact ⟨wait, .inr rfl, rfl, rfl⟩
      · rintro ⟨kept, before | rfl, idEq, keyEq⟩
        · have indexed := (wellFormed.indexed wait.key kept.id).mpr
            ⟨kept, before, rfl, keyEq⟩
          simp [unindexed] at indexed
        · exact idEq
    · rw [Function.update_of_ne own, wellFormed.indexed]
      constructor
      · rintro ⟨kept, before, idEq, keyEq⟩
        exact ⟨kept, .inl before, idEq, keyEq⟩
      · rintro ⟨kept, before | rfl, idEq, keyEq⟩
        · exact ⟨kept, before, idEq, keyEq⟩
        · exact absurd keyEq.symm own

end WellFormed

end IdentityState

namespace HostIdentity

variable {thread : ℕ} {shared next : IdentityShared scheme}
variable {phase after : Phase scheme} {events : List (Event scheme)}

theorem superseded_subset {state : IdentityState scheme} {sessionId : String}
    {presented : PresentedHostKey scheme} :
    ∀ target ∈ state.superseded sessionId presented,
      target ∈ state.pending :=
  fun _ targeted => List.mem_of_mem_filter targeted

theorem Move.registry (move : Move thread shared phase next after events)
    (wellFormed : shared.state.WellFormed shared.issued) :
    next.state.WellFormed next.issued := by
  have single : ∀ {challengeId wait}, shared.state.find? challengeId =
      some wait → ∀ target ∈ [wait], target ∈ shared.state.pending := by
    intro challengeId wait found target targeted
    obtain rfl := List.mem_singleton.mp targeted
    exact (IdentityState.find?_some found).1
  cases move with
  | matchedTrusted opened => exact wellFormed.trust _
  | challenged unknown unindexed fresh =>
      refine (wellFormed.removeAll superseded_subset).insert fresh ?_
      simp only [IdentityState.removeAll]
      split
      · rfl
      · exact unindexed
  | acceptedOnce found => exact (wellFormed.removeAll (single found)).trust _
  | acceptedAndSaved found known saved =>
      refine ((wellFormed.removeAll (single found)).trust _).removeAll ?_
      exact fun target targeted => List.mem_of_mem_filter targeted
  | rejectedOne found => exact wellFormed.removeAll (single found)
  | closed => exact wellFormed.close _
  | withdrawn taken found => exact wellFormed.removeAll (single found)
  | _ => exact wellFormed

end HostIdentity

end TitanSSH
