import TitanSSH.Core.Sftp.Withdrawal

namespace TitanSSH

open Interleaving

namespace Sftp

/-! The cancel tokens of the tasks under way: each is made by the call that has
inserted the task, and goes only after the task has ended. -/

def Live (shared : SftpShared) (sessionId taskId : String) : Prop :=
  ∃ task, shared.tasks.lookup taskId = some task ∧
    task.sessionId = sessionId ∧ task.status.isTerminal = false

/-- The cancel token of the task is about to go. -/
def Phase.Drops (taskId : String) : Phase → Prop
  | .transition .lookup change _ | .transition .removeToken change _ =>
      change.taskId = taskId
  | _ => False

structure Enrolled (config : Config SftpShared Phase) : Prop where
  dropped : ∀ {thread phase taskId}, config.threads thread = some phase →
    phase.Drops taskId → taskId ∈ config.shared.issued ∧
      ∀ sessionId, ¬Live config.shared sessionId taskId
  tokened : ∀ {sessionId taskId}, Live config.shared sessionId taskId →
    (∃ thread task, config.threads thread = some (.registerEntry task) ∧
      task.taskId = taskId ∧ task.sessionId = sessionId) ∨
    ∃ entry, (config.shared.arcs sessionId).cancelTokens.lookup taskId =
      some entry

variable {thread : ℕ} {choice : Choice} {shared next : SftpShared}
variable {phase after : Phase} {events log : List Event}
variable {taskId sessionId : String}

theorem Move.live_source
    (move : Move thread choice shared phase next after events)
    (live : Live next sessionId taskId) :
    Live shared sessionId taskId ∨ taskId ∉ shared.issued ∧
      ∃ task, after = .registerEntry task ∧ task.taskId = taskId ∧
        task.sessionId = sessionId := by
  obtain ⟨task, found, session, under⟩ := live
  cases move with
  | inserted fresh =>
      rw [FiniteMap.lookup_insert] at found
      split at found
      · next same =>
          obtain rfl := Option.some.inj found
          exact .inr ⟨same ▸ fresh, _, rfl, same.symm, session⟩
      · exact .inl ⟨task, found, session, under⟩
  | @taken change continuation tasks old applied =>
      rcases applied.origin found with ⟨rfl, rfl⟩ | ⟨-, before⟩
      · exact .inl ⟨old, applied.found, session,
          SftpTaskStatus.legal_live applied.isLegal⟩
      · exact .inl ⟨task, before, session, under⟩
  | purged =>
      exact .inl ⟨task, (TaskRegistry.lookup_purge.mp found).1, session, under⟩
  | cleared =>
      exact .inl
        ⟨task, (TaskRegistry.lookup_clearTerminal.mp found).1, session, under⟩
  | _ => exact .inl ⟨task, found, session, under⟩

theorem Move.drops
    (move : Move thread choice shared phase next after events)
    (drops : after.Drops taskId) :
    phase.Drops taskId ∨ ∃ change tasks task,
      change.taskId = taskId ∧ change.status.isTerminal = true ∧
      TaskRegistry.Applied shared.tasks tasks change task ∧
      next = { shared with tasks := tasks } := by
  cases move with
  | @unoccupied request free =>
      unfold afterCheck at drops
      split at drops <;> exact drops.elim
  | @pooled job start finish pool logged step =>
      cases finish with
      | failed error => cases error <;> exact drops.elim
      | _ => exact drops.elim
  | @dropped job held healthy conclusion absent =>
      obtain ⟨status, error, permitted⟩ := conclusion
      cases permitted <;> exact drops.elim
  | @checkedIn job held healthy conclusion =>
      obtain ⟨status, error, permitted⟩ := conclusion
      cases permitted <;> exact drops.elim
  | @rejected change continuation illegal =>
      cases continuation <;> exact drops.elim
  | @taken change continuation tasks task applied =>
      cases terminal : change.status.isTerminal with
      | true =>
          rw [terminal, if_pos rfl] at drops
          exact .inr ⟨change, tasks, task, drops, terminal, applied, rfl⟩
      | false =>
          rw [terminal] at drops
          exact drops.elim
  | tokenLookup =>
      split at drops
      · exact .inl drops
      · exact drops.elim
  | emitted =>
      rename_i change continuation
      cases continuation <;> exact drops.elim
  | _ => exact drops.elim

theorem Enrolled.dropped_step {config : Config SftpShared Phase}
    (enrolled : Enrolled config) (staffed : Staffed config)
    (running : config.threads thread = some phase)
    (move : Move thread choice config.shared phase next after events)
    {other : ℕ} {current : Phase}
    (found : Function.update config.threads thread (some after) other =
      some current) (drops : current.Drops taskId) :
    taskId ∈ next.issued ∧ ∀ sessionId, ¬Live next sessionId taskId := by
  have kept : taskId ∈ config.shared.issued ∧
      (∀ sessionId, ¬Live config.shared sessionId taskId) →
        taskId ∈ next.issued ∧ ∀ sessionId, ¬Live next sessionId taskId := by
    rintro ⟨issued, finished⟩
    refine ⟨move.issued issued, fun sessionId live => ?_⟩
    rcases move.live_source live with before | ⟨fresh, -⟩
    · exact finished sessionId before
    · exact fresh issued
  rcases of_update_eq_some found with ⟨rfl, same⟩ | ⟨-, before⟩
  · obtain rfl := Option.some.inj same
    rcases move.drops drops with
      before | ⟨change, tasks, task, rfl, terminal, applied, rfl⟩
    · exact kept (enrolled.dropped running before)
    · refine ⟨staffed.tasks _ _ applied.found, ?_⟩
      rintro sessionId ⟨ended, present, -, under⟩
      rcases applied.origin present with ⟨-, rfl⟩ | ⟨different, -⟩
      · rw [terminal] at under
        cases under
      · exact different rfl
  · exact kept (enrolled.dropped before drops)

theorem Move.keeps_token
    (move : Move thread choice shared phase next after events)
    {entry : CancelEntry}
    (found : (shared.arcs sessionId).cancelTokens.lookup taskId = some entry)
    (known : sessionId ∈ shared.registered) (kept : ¬phase.Drops taskId) :
    ∃ entry, (next.arcs sessionId).cancelTokens.lookup taskId =
      some entry := by
  cases move with
  | @registered session fresh =>
      have different : sessionId ≠ session := by
        rintro rfl
        exact fresh known
      exact ⟨entry, by simpa [different] using found⟩
  | @enqueued task =>
      simp only [SftpShared.setHandle]
      rcases eq_or_ne sessionId task.sessionId with rfl | different
      · rw [Function.update_self, FiniteMap.lookup_insert]
        split
        · exact ⟨_, rfl⟩
        · exact ⟨entry, found⟩
      · exact ⟨entry, by simpa [different] using found⟩
  | @tokenRemoved change continuation =>
      simp only [SftpShared.setTokens, SftpShared.setHandle]
      rcases eq_or_ne sessionId change.sessionId with rfl | different
      · rw [Function.update_self]
        exact ⟨entry, FiniteMap.lookup_erase_eq_some.mpr
          ⟨fun same => kept same.symm, found⟩⟩
      · exact ⟨entry, by simpa [different] using found⟩
  | pooled step => exact ⟨entry, by simpa using found⟩
  | checkedIn => exact ⟨entry, by simpa using found⟩
  | waiterCancelled => exact ⟨entry, by simpa using found⟩
  | poolClosed => exact ⟨entry, by simpa using found⟩
  | reaped step => exact ⟨entry, by simpa using found⟩
  | _ => exact ⟨entry, found⟩

theorem Enrolled.tokened_step {config : Config SftpShared Phase}
    (enrolled : Enrolled config) (staffed : Staffed config)
    (running : config.threads thread = some phase)
    (move : Move thread choice config.shared phase next after events)
    (live : Live next sessionId taskId) :
    (∃ other task, Function.update config.threads thread (some after) other =
      some (.registerEntry task) ∧ task.taskId = taskId ∧
        task.sessionId = sessionId) ∨
    ∃ entry, (next.arcs sessionId).cancelTokens.lookup taskId =
      some entry := by
  rcases move.live_source live with before | ⟨-, task, rfl, named⟩
  · rcases enrolled.tokened before with
      ⟨other, task, registers, named, rfl⟩ | ⟨entry, found⟩
    · rcases eq_or_ne other thread with rfl | different
      · obtain rfl := Option.some.inj (running.symm.trans registers)
        cases move with
        | enqueued =>
            refine .inr ⟨⟨(config.shared.arcs task.sessionId).enqueueSeq⟩, ?_⟩
            simp only [SftpShared.setHandle, Function.update_self]
            rw [named]
            exact FiniteMap.lookup_insert_self _ _ _
        | refused error asking => simp [Phase.asking] at asking
      · exact .inl ⟨other, task,
          (Function.update_of_ne different _ _).trans registers, named, rfl⟩
    · obtain ⟨worker, holds⟩ := staffed.tokens sessionId taskId entry found
      obtain ⟨current, works, employed⟩ := Option.bind_eq_some_iff.mp holds
      refine .inr (move.keeps_token found (staffed.concerned worker current _
        works (.inr (.inr ⟨_, employed, rfl⟩))) fun drops => ?_)
      exact (enrolled.dropped running drops).2 sessionId before
  · exact .inl ⟨thread, task, Function.update_self _ _ _, named⟩

theorem Enrolled.step {config final : Config SftpShared Phase}
    {action : ThreadAction Phase Choice} (enrolled : Enrolled config)
    (staffed : Staffed config)
    (stepped : service.machine.step config action = some (final, events)) :
    Enrolled final := by
  rcases Program.machine_step_cases stepped with
    ⟨thread, start, -, free, admitted, rfl, -⟩ |
    ⟨thread, choice, current, shared, after, -, running, moved, rfl⟩
  · constructor
    · intro other phase taskId found drops
      rcases of_update_eq_some found with ⟨-, same⟩ | ⟨-, before⟩
      · obtain rfl := Option.some.inj same
        cases start <;> first | exact drops.elim | simp [service] at admitted
      · exact enrolled.dropped before drops
    · intro sessionId taskId live
      refine (enrolled.tokened live).imp_left ?_
      rintro ⟨other, task, registers, named⟩
      refine ⟨other, task, (Function.update_of_ne ?_ _ _).trans registers, named⟩
      rintro rfl
      cases free.symm.trans registers
  · have move := step_move moved
    exact ⟨enrolled.dropped_step staffed running move,
      enrolled.tokened_step staffed running move⟩

theorem initial_enrolled : Enrolled initial where
  dropped := by
    intro thread phase taskId found
    cases found
  tokened := by
    rintro sessionId taskId ⟨task, found, -⟩
    simp [initial, SftpShared.empty] at found

end Sftp

end TitanSSH
