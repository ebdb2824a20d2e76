import TitanSSH.Core.Terminal.Connecting

namespace TitanSSH

open Interleaving

namespace ConnectWait

/-! What a worker that has seen the verification can still publish. -/

/-- A status is published last of all.  When the verification had been seen
before, the connection was past it, or the thread had ended. -/
structure Patient (log : List WaitEvent) (wait : ConnectWait) : Prop where
  last : ∀ status message time, .published status message time ∈ log →
    wait.turn = .ended status
  late : ∀ status, wait.turn = .ended status →
    .sampled .verifyingHostKey ∈ log → wait.thread = .running → Verified wait

variable {connectTimeout : ℕ} {wait next : ConnectWait}
variable {log events : List WaitEvent}

theorem patient_start : Patient [] (start connectTimeout) where
  last status message time member := by cases member
  late status ended := by cases ended

theorem Patient.goes (patient : Patient log wait)
    (going : ∀ status, wait.turn ≠ .ended status)
    (unended : ∀ status, next.turn ≠ .ended status)
    (unpublished : ∀ status message time,
      .published status message time ∉ events) :
    Patient (log ++ events) next where
  last status message time member := by
    cases List.mem_append.mp member with
    | inl before => exact absurd (patient.last _ _ _ before) (going status)
    | inr now => exact absurd now (unpublished status message time)
  late status ended := absurd ended (unended status)

theorem Patient.aside (patient : Patient log wait)
    (sameTurn : next.turn = wait.turn)
    (unpublished : ∀ status message time,
      .published status message time ∉ events)
    (sampled : .sampled .verifyingHostKey ∉ events)
    (onward : next.thread = .running → wait.thread = .running ∧
      wait.currentPhase.rank ≤ next.currentPhase.rank) :
    Patient (log ++ events) next where
  last status message time member := by
    rw [sameTurn]
    refine patient.last status message time ?_
    exact (List.mem_append.mp member).resolve_right (unpublished _ _ _)
  late status ended saw running := by
    rw [sameTurn] at ended
    obtain ⟨before, later⟩ := onward running
    have seen := (List.mem_append.mp saw).resolve_right sampled
    exact Nat.lt_of_lt_of_le (patient.late status ended seen before) later

theorem Patient.ends {status : SessionStatus} (patient : Patient log wait)
    (going : ∀ status, wait.turn ≠ .ended status)
    (ended : next.turn = .ended status)
    (own : ∀ other message time, .published other message time ∈ events →
      other = status)
    (late : .sampled .verifyingHostKey ∈ log ++ events →
      next.thread = .running → Verified next) :
    Patient (log ++ events) next where
  last other message time member := by
    cases List.mem_append.mp member with
    | inl before => exact absurd (patient.last _ _ _ before) (going other)
    | inr now => rw [own other message time now, ended]
  late _ _ saw running := late saw running

theorem Patient.step (patient : Patient log wait)
    (timed : Timed connectTimeout log wait) (move : Move wait next events) :
    Patient (log ++ events) next := by
  have aware := timed.aware
  cases move with
  | passed elapsed =>
      exact patient.aside rfl (by simp) (by simp)
        fun running => ⟨running, Nat.le_refl _⟩
  | reported onward =>
      exact patient.aside rfl (by simp) (by simp)
        fun running => ⟨running, onward⟩
  | sent => exact patient.aside rfl (by simp) (by simp) nofun
  | vanished running => exact patient.aside rfl (by simp) (by simp) nofun
  | started turn => exact patient.goes (by simp [turn]) (by simp) (by simp)
  | sampled turn => exact patient.goes (by simp [turn]) (by simp) (by simp)
  | connected turn result =>
      exact patient.goes (by simp [turn]) (by simp) (by simp)
  | waited turn running => exact patient.goes (by simp [turn]) (by simp) (by simp)
  | froze turn unseen => exact patient.goes (by simp [turn]) (by simp) (by simp)
  | granted turn elsewhere frozen =>
      exact patient.goes (by simp [turn]) (by simp) (by simp)
  | judged turn settled =>
      exact patient.goes (by simp [turn]) (by simp) (by simp)
  | ranOut turn elsewhere due =>
      exact patient.goes (by simp [turn]) (by simp) (by simp)
  | continued turn => exact patient.goes (by simp [turn]) (by simp) (by simp)
  | failed turn result mapped =>
      refine patient.ends (by simp [turn]) rfl (by simp +contextual)
        fun _ running => ?_
      simp [result] at running
  | abandoned turn gone =>
      refine patient.ends (by simp [turn]) rfl (by simp +contextual)
        fun _ running => ?_
      simp [gone] at running
  | timedOut turn =>
      -- the verification had been seen to be over
      rw [turn] at aware
      refine patient.ends (by simp [turn]) rfl (by simp +contextual)
        fun saw _ => ?_
      exact (aware.2.2 (by simpa using saw)).1

theorem timed_patient {actions : List WaitAction}
    (run : machine.Run (start connectTimeout) actions log wait) :
    Timed connectTimeout log wait ∧ Patient log wait := by
  have initial : Timed connectTimeout [] (start connectTimeout) ∧
      Patient [] (start connectTimeout) := ⟨timed_start, patient_start⟩
  exact @Machine.Run.invariant _ _ _ machine _
    (fun log wait => Timed connectTimeout log wait ∧ Patient log wait) initial
    (fun log wait action next events holds stepped =>
      have move := step_move stepped
      ⟨holds.1.step move, holds.2.step holds.1 move⟩) _ _ _ run

end ConnectWait

namespace Connecting

variable {scheme : HostKeyScheme} {connectTimeout thread : ℕ}
variable {trustStore : Option TrustStore}
variable {log : List (Event scheme)} {state : State scheme}
variable {connection : Transport.Connection} {blob : List UInt8}
variable {call : HostIdentity.Phase scheme} {wait : ConnectWait}

/-- While its thread verifies the host key, a worker that has seen it do so finds
it still at it. -/
theorem Attended.verifying {due : List ConnectNotice} {past : List WaitEvent}
    (attended : Attended connectTimeout
      (.verifying connection blob call : Transport.Phase scheme) due past wait)
    (present : wait.thread ≠ .gone)
    (seen : .sampled .verifyingHostKey ∈ past) :
    wait.currentPhase = .verifyingHostKey ∧ wait.thread = .running := by
  obtain ⟨unsaid, story, whole⟩ := attended.story
  obtain rfl := whole present
  obtain ⟨reports, rest, both, said, onward⟩ := story
  have said : told past ++ due = reports.map .reported := by
    simpa [ending] using said
  obtain rfl : rest = connectPhases.drop 3 := by
    refine onward.resolve_right ?_
    rintro ⟨_, _, failed⟩
    cases failed
  obtain rfl : reports = connectPhases.take 3 :=
    List.append_cancel_right
      (both.trans (List.take_append_drop 3 connectPhases).symm)
  -- what is still due is not the verification, which the worker has seen
  obtain ⟨first, later, split, heard, -⟩ := List.append_eq_map_iff.mp said
  have current : wait.currentPhase = first.getLast?.getD .connectingTcp := by
    rw [attended.current, ← heard, lastTold_reported]
  obtain ⟨steps, run⟩ := attended.runs
  have reached := (ConnectWait.timed_patient run).1.onward .verifyingHostKey seen
  rw [current] at reached
  have last : ∀ first ∈ (connectPhases.take 3).inits,
      ConnectionPhase.verifyingHostKey.rank ≤
        (first.getLast?.getD .connectingTcp).rank →
      first.getLast?.getD .connectingTcp = .verifyingHostKey := by decide
  have ahead : first <+: connectPhases.take 3 := ⟨later, split.symm⟩
  refine ⟨current.trans (last first ((List.mem_inits _ _).mpr ahead) reached), ?_⟩
  exact (attended.unended fun failure => by simp [← heard]).resolve_right present

/-- Once the worker has seen the verification, it publishes nothing for as long
as the verification takes, whatever else goes on. -/
theorem verification_outlasts_timeout {actions : List (Action scheme)}
    (run : (machine scheme connectTimeout).Run (initial trustStore) actions log
      state) (waiting : state.waits thread = some wait)
    (asking : state.connections.threads thread =
      some (.verifying connection blob call))
    (present : wait.thread ≠ .gone)
    (seen : .sampled .verifyingHostKey ∈ waitLog thread log) :
    ∀ status message time,
      .published status message time ∉ waitLog thread log := by
  intro status message time published
  obtain ⟨phase, own, found, -, -, attended⟩ :=
    (linked run).attended thread wait waiting
  obtain rfl := Option.some.inj (asking.symm.trans found)
  obtain ⟨verifying, running⟩ := attended.verifying present seen
  obtain ⟨steps, waited⟩ := attended.runs
  have patient := (ConnectWait.timed_patient waited).2
  have past : ConnectWait.Verified wait :=
    patient.late status (patient.last _ _ _ published) seen running
  rw [ConnectWait.Verified, verifying] at past
  exact Nat.lt_irrefl _ past

theorem verification_outlasts_timeout_asked : ∃ log state wait,
    (machine .sample ConnectWait.connectTotalTimeout).Run (initial none)
      askedTerminal log state ∧
    state.waits 0 = some wait ∧
    wait.overallDeadline + 45000 < wait.clock ∧
    ∀ status message time,
      .published status message time ∉ waitLog 0 log := by
  obtain ⟨log, state, wait, run, waiting, late, present, seen, asking⟩ :
      ∃ log state wait,
        (machine .sample ConnectWait.connectTotalTimeout).Run (initial none)
          askedTerminal log state ∧
        state.waits 0 = some wait ∧
        wait.overallDeadline + 45000 < wait.clock ∧ wait.thread ≠ .gone ∧
        .sampled .verifyingHostKey ∈ waitLog 0 log ∧
        ∃ connection blob call, state.connections.threads 0 =
          some (.verifying connection blob call) :=
    ⟨_, _, _, Machine.run_of_execute rfl, rfl, by decide, by decide, by decide,
      _, _, _, rfl⟩
  obtain ⟨connection, blob, call, asking⟩ := asking
  exact ⟨log, state, wait, run, waiting, late,
    verification_outlasts_timeout run waiting asking present seen⟩

end Connecting

end TitanSSH
