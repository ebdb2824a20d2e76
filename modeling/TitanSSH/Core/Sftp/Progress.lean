import Mathlib.Data.Fintype.EquivFin
import TitanSSH.Core.Sftp.Settling

namespace TitanSSH

open Interleaving

namespace Sftp

/-! Who is going to end a task that is under way: its worker, unless the pool
turns it away because it is closed, and then the thread that closes the
session. -/

/-- The worker is still going to ask for the end of its task. -/
def Phase.Pursues (shared : SftpShared) (taskId : String) : Phase → Prop
  | .registerEntry task => task.taskId = taskId
  | .checkout job _ => job.taskId = taskId ∧ job.sessionId ∈ shared.handles
  | .work job | .permit job _ | .permitted job _ | .transfer job _
  | .release job _ _ _ | .checkin job _ _ _
  | .transition _ _ (.fail job _) | .transition _ _ (.transfer job _)
  | .transition .registry _ (.dropPermit job)
  | .transition .registry _ (.ended job) => job.taskId = taskId
  | _ => False

/-- The closing of the session has the task still before it. -/
def Phase.Sweeps (sessionId taskId : String) : Phase → Prop
  | .closePool session | .collect session => session = sessionId
  | .cancelActive session remaining =>
      session = sessionId ∧ taskId ∈ remaining
  | .transition turn change (.cleanup session remaining) =>
      session = sessionId ∧
        (taskId ∈ remaining ∨ turn = .registry ∧ change.taskId = taskId)
  | _ => False

structure Tended (config : Config SftpShared Phase) : Prop where
  shut : ∀ {sessionId}, Gone config.shared sessionId →
    (config.shared.pool sessionId).state.closed = true ∨
      ∃ thread, config.threads thread = some (.closePool sessionId)
  enrolled : Enrolled config
  tended : ∀ {sessionId taskId}, Live config.shared sessionId taskId →
    ∃ thread phase, config.threads thread = some phase ∧
      (phase.Pursues config.shared taskId ∨ phase.Sweeps sessionId taskId)

variable {thread : ℕ} {choice : Choice} {shared next : SftpShared}
variable {phase after : Phase} {events log : List Event}
variable {job : TransferJob} {taskId sessionId : String}

theorem Move.gone_source
    (move : Move thread choice shared phase next after events)
    (gone : Gone next sessionId) :
    Gone shared sessionId ∨ after = .closePool sessionId := by
  obtain ⟨known, absent⟩ := gone
  cases move with
  | registered fresh =>
      rw [Finset.mem_insert] at known
      rw [Finset.mem_insert, not_or] at absent
      exact .inl ⟨known.resolve_left absent.1, absent.2⟩
  | @cleanupStarted session present =>
      rcases eq_or_ne sessionId session with rfl | different
      · exact .inr rfl
      · exact .inl ⟨known, fun member =>
          absent (Finset.mem_erase.mpr ⟨different, member⟩)⟩
  | _ => exact .inl ⟨known, absent⟩

theorem Tended.shut_step {config : Config SftpShared Phase}
    (tended : Tended config)
    (running : config.threads thread = some phase)
    (move : Move thread choice config.shared phase next after events)
    (gone : Gone next sessionId) :
    (next.pool sessionId).state.closed = true ∨
      ∃ other, Function.update config.threads thread (some after) other =
        some (.closePool sessionId) := by
  rcases move.gone_source gone with before | rfl
  · rcases tended.shut before with isClosed | ⟨other, closing⟩
    · exact .inl ((move.poolUse before.1).closed isClosed)
    · rcases eq_or_ne other thread with rfl | different
      · obtain rfl := Option.some.inj (running.symm.trans closing)
        cases move with
        | poolClosed => exact .inl (by simp [TransferPool.close_eq])
        | refused error asking => simp [Phase.asking] at asking
      · exact .inr ⟨other, (Function.update_of_ne different _ _).trans closing⟩
  · exact .inr ⟨thread, Function.update_self _ _ _⟩

/-- A change that would end a task under way is refused only when it is not for
a task that has not started. -/
theorem applyStatus_terminal {change : SftpTaskStatusEvent}
    (live : Live shared sessionId change.taskId)
    (terminal : change.status.isTerminal = true)
    (started : change.status ≠ .cancelled → NotPending shared change.taskId) :
    shared.tasks.applyStatus change ≠ none := by
  obtain ⟨task, found, -, under⟩ := live
  have begun := fun uncancelled => started uncancelled task found
  cases before : task.status <;> cases after : change.status <;>
    simp_all [TaskRegistry.applyStatus, SftpTaskStatus.legal,
      SftpTaskStatus.isTerminal]

/-- A worker goes on pursuing its task, as long as its session has a handle. -/
theorem Move.pursues
    (move : Move thread choice shared phase next after events)
    (coherent : phase.Coherent shared) (plain : phase.Plain)
    (started : phase.Started taskId → NotPending shared taskId)
    (opened : ∀ {session}, session ∈ shared.handles →
      (shared.pool session).state.closed = false)
    (before : Live shared sessionId taskId) (live : Live next sessionId taskId)
    (pursues : phase.Pursues shared taskId) : after.Pursues next taskId := by
  cases move with
  | refused error asking =>
      cases phase <;> first | exact pursues.elim | simp [Phase.asking] at asking
  | enqueued => exact pursues
  | started present => exact ⟨pursues, present⟩
  | orphaned absent => exact pursues
  | panicked panic => exact pursues.1
  | @pooled job start finish pool logged step =>
      have isOpen := opened pursues.2
      cases finish with
      | holding held => exact pursues.1
      | failed error =>
          cases error with
          | closed =>
              exfalso
              cases step with
              | refused isClosed => exact absurd isClosed (by simp [isOpen])
              | connectedLate isClosed =>
                  exact absurd isClosed (by simp [isOpen])
          | cancelled => exact pursues.1
          | connect error => exact pursues.1
      | _ => exact pursues
  | acquired available => exact pursues
  | withdrawnWaiting cancelled => exact pursues
  | withdrawnPermitted cancelled => exact pursues
  | starting kept => exact pursues
  | concluded => exact pursues
  | released present => exact pursues
  | @dropped job held healthy conclusion absent =>
      obtain ⟨status, error, permitted⟩ := conclusion
      cases permitted <;> exact pursues
  | @checkedIn job held healthy conclusion =>
      obtain ⟨status, error, permitted⟩ := conclusion
      cases permitted <;> exact pursues
  | @rejected change continuation illegal =>
      have named : change.taskId = taskId → change.status.isTerminal = true →
          False := by
        rintro rfl terminal
        refine applyStatus_terminal before terminal ?_ illegal
        intro uncancelled
        refine started ⟨rfl, uncancelled, fun _ running => ?_⟩
        rw [running] at terminal
        cases terminal
      cases continuation with
      | fail job error => exact pursues
      | transfer job held => exact pursues
      | dropPermit job => exact (named (coherent.trans pursues) plain).elim
      | ended job => exact (named (coherent.trans pursues) plain).elim
      | cleanup session remaining => exact pursues.elim
  | @taken change continuation tasks task applied =>
      have finished : change.taskId = taskId → change.status.isTerminal = true →
          False := by
        rintro rfl terminal
        obtain ⟨ended, present, -, under⟩ := live
        rcases applied.origin present with ⟨-, rfl⟩ | ⟨different, -⟩
        · rw [terminal] at under
          cases under
        · exact different rfl
      cases continuation with
      | fail job error => split <;> exact pursues
      | transfer job held => split <;> exact pursues
      | dropPermit job => exact (finished (coherent.trans pursues) plain).elim
      | ended job => exact (finished (coherent.trans pursues) plain).elim
      | cleanup session remaining => exact pursues.elim
  | @tokenLookup change continuation =>
      cases continuation <;> first | exact pursues.elim | skip
      all_goals split <;> exact pursues
  | @tokenRemoved change continuation =>
      cases continuation <;> exact pursues
  | @emitted change continuation =>
      cases continuation <;> exact pursues
  | _ => exact pursues.elim

/-- The closing of a session goes on until it comes to the task. -/
theorem Move.sweeps
    (move : Move thread choice shared phase next after events)
    (coherent : phase.Coherent shared) (before : Live shared sessionId taskId)
    (live : Live next sessionId taskId)
    (found : phase = .collect sessionId →
      taskId ∈ activeTasks shared sessionId)
    (sweeps : phase.Sweeps sessionId taskId) : after.Sweeps sessionId taskId := by
  cases move with
  | refused error asking =>
      cases phase <;> first | exact sweeps.elim | simp [Phase.asking] at asking
  | @rejected change continuation illegal =>
      cases continuation with
      | cleanup session remaining =>
          obtain ⟨same, member | ⟨-, rfl⟩⟩ := sweeps
          · exact ⟨same, member⟩
          · exact absurd illegal (applyStatus_cancelled before coherent)
      | _ => exact sweeps.elim
  | @taken change continuation tasks task applied =>
      cases continuation with
      | cleanup session remaining =>
          obtain ⟨same, member | ⟨-, rfl⟩⟩ := sweeps
          · exact ⟨same, .inl member⟩
          · have cancelled : change.status = .cancelled := coherent
            obtain ⟨ended, present, -, under⟩ := live
            rcases applied.origin present with ⟨-, rfl⟩ | ⟨different, -⟩
            · simp [cancelled, SftpTaskStatus.isTerminal] at under
            · exact absurd rfl different
      | _ => exact sweeps.elim
  | @tokenLookup change continuation =>
      cases continuation with
      | cleanup session remaining =>
          obtain ⟨same, member | ⟨registry, -⟩⟩ := sweeps
          · exact ⟨same, .inl member⟩
          · cases registry
      | _ => exact sweeps.elim
  | @tokenRemoved change continuation =>
      cases continuation with
      | cleanup session remaining =>
          obtain ⟨same, member | ⟨registry, -⟩⟩ := sweeps
          · exact ⟨same, .inl member⟩
          · cases registry
      | _ => exact sweeps.elim
  | @emitted change continuation =>
      cases continuation with
      | cleanup session remaining =>
          obtain ⟨same, member | ⟨registry, -⟩⟩ := sweeps
          · exact ⟨same, member⟩
          · cases registry
      | _ => exact sweeps.elim
  | poolClosed => exact sweeps
  | collected =>
      obtain rfl : _ = sessionId := sweeps
      exact ⟨rfl, found rfl⟩
  | purged => exact absurd sweeps.2 (Finset.notMem_empty _)
  | @activeCancelled session other remaining member =>
      obtain ⟨same, waits⟩ := sweeps
      refine ⟨same, ?_⟩
      rcases eq_or_ne taskId other with rfl | different
      · exact .inr ⟨rfl, rfl⟩
      · exact .inl (Finset.mem_erase.mpr ⟨different, waits⟩)
  | _ => exact sweeps.elim

theorem Move.pursued
    (move : Move thread choice shared phase next after events)
    {current : Phase} (pursues : current.Pursues shared taskId) :
    current.Pursues next taskId ∨ ∃ job, current.job? = some job ∧
      job.taskId = taskId ∧ after = .closePool job.sessionId := by
  have unmoved : (∀ job here, current ≠ .checkout job here) →
      current.Pursues next taskId := by
    intro outside
    cases current with
    | checkout job here => exact absurd rfl (outside job here)
    | transition turn change continuation =>
        cases turn <;> cases continuation <;> exact pursues
    | _ => exact pursues
  by_cases waits : ∃ job here, current = .checkout job here
  · obtain ⟨job, here, rfl⟩ := waits
    obtain ⟨named, present⟩ := pursues
    cases move with
    | registered fresh =>
        exact .inl ⟨named, Finset.mem_insert_of_mem present⟩
    | @cleanupStarted session opened =>
        rcases eq_or_ne job.sessionId session with rfl | different
        · exact .inr ⟨job, rfl, named, rfl⟩
        · exact .inl ⟨named, Finset.mem_erase.mpr ⟨different, present⟩⟩
    | _ => exact .inl ⟨named, present⟩
  · exact .inl (unmoved fun job here same => waits ⟨job, here, same⟩)

theorem Tended.tended_step {config : Config SftpShared Phase}
    (tended : Tended config) (governed : Governed log config)
    (running : config.threads thread = some phase)
    (move : Move thread choice config.shared phase next after events)
    (live : Live next sessionId taskId) :
    ∃ other current, Function.update config.threads thread (some after) other =
      some current ∧
        (current.Pursues next taskId ∨ current.Sweeps sessionId taskId) := by
  have orderly := governed.hosting.queueing.orderly
  rcases move.live_source live with before | ⟨-, task, rfl, named, -⟩
  · obtain ⟨other, current, found, tends⟩ := tended.tended before
    rcases eq_or_ne other thread with rfl | different
    · obtain rfl := Option.some.inj (running.symm.trans found)
      rcases tends with pursues | sweeps
      · exact ⟨other, after, Function.update_self _ _ _, .inl
          (move.pursues (orderly.coherent other _ running)
            (governed.limited.plain other _ running)
            (orderly.started other _ taskId running)
            (fun present => (governed.limited.served _ present).1) before live
            pursues)⟩
      · rcases tended.enrolled.tokened before with
          ⟨worker, task, registers, named, -⟩ | ⟨entry, token⟩
        · have apart : worker ≠ other := by
            rintro rfl
            obtain rfl := Option.some.inj (running.symm.trans registers)
            exact sweeps
          exact ⟨worker, _, (Function.update_of_ne apart _ _).trans registers,
            .inl named⟩
        · refine ⟨other, after, Function.update_self _ _ _, .inr
            (move.sweeps (orderly.coherent other _ running) before live ?_
              sweeps)⟩
          obtain ⟨task, present, -, under⟩ := before
          exact fun _ => FiniteMap.mem_keysWhere.mpr
            ⟨entry, token, by simp [present, under]⟩
    · have still := (Function.update_of_ne different (some after)
        config.threads).trans found
      rcases tends with pursues | sweeps
      · rcases move.pursued pursues with kept | ⟨job, employed, rfl, rfl⟩
        · exact ⟨other, current, still, .inl kept⟩
        · obtain ⟨task, present, session, -⟩ := before
          have same := governed.limited.agreed other current found _ _ task
            (Phase.named?_of_job employed) present
          exact ⟨thread, _, Function.update_self _ _ _,
            .inr (same.symm.trans session)⟩
      · exact ⟨other, current, still, .inr sweeps⟩
  · exact ⟨thread, _, Function.update_self _ _ _, .inl named⟩

theorem Tended.step {config final : Config SftpShared Phase}
    {action : ThreadAction Phase Choice} (tended : Tended config)
    (governed : Governed log config)
    (stepped : service.machine.step config action = some (final, events)) :
    Tended final := by
  have staffed := governed.hosting.queueing.orderly.staffed
  rcases Program.machine_step_cases stepped with
    ⟨thread, start, -, free, admitted, rfl, -⟩ |
    ⟨thread, choice, current, shared, after, -, running, moved, rfl⟩
  · have kept : ∀ {other phase}, config.threads other = some phase →
        Function.update config.threads thread (some start) other =
          some phase := by
      intro other phase found
      refine (Function.update_of_ne ?_ _ _).trans found
      rintro rfl
      cases free.symm.trans found
    constructor
    · intro sessionId gone
      refine (tended.shut gone).imp_right ?_
      rintro ⟨other, closing⟩
      exact ⟨other, kept closing⟩
    · exact tended.enrolled.step staffed stepped
    · intro sessionId taskId live
      obtain ⟨other, phase, found, tends⟩ := tended.tended live
      exact ⟨other, phase, kept found, tends⟩
  · have move := step_move moved
    exact ⟨tended.shut_step running move, tended.enrolled.step staffed stepped,
      tended.tended_step governed running move⟩

theorem initial_tended : Tended initial where
  shut := by
    rintro sessionId ⟨known, -⟩
    simp [initial, SftpShared.empty] at known
  enrolled := initial_enrolled
  tended := by
    rintro sessionId taskId ⟨task, found, -⟩
    simp [initial, SftpShared.empty] at found

/-! Where a thread stands that cannot go on. -/

inductive Halted (shared : SftpShared) (thread : ℕ) : Phase → Prop
  | returned : Halted shared thread .returned
  | ended {job : TransferJob} : Halted shared thread (.ended job)
  | again {sessionId : String} (known : sessionId ∈ shared.registered) :
      Halted shared thread (.called (.registerSession sessionId))
  | asleep {job : TransferJob} {queueSeq : ℕ}
      (unsignalled :
        ((shared.pool job.sessionId).wakes thread).signaled = false) :
      Halted shared thread (.checkout job (.waiting queueSeq))
  | starved {job : TransferJob} {held : TransferCheckout}
      (none : shared.permits = 0) : Halted shared thread (.permit job held)

theorem halted_of_stuck (plain : phase.Plain) (calls : phase.isReaper = false)
    (stuck : ∀ choice : Choice, choice.joinError = none →
      step thread choice shared phase = none) : Halted shared thread phase := by
  have still := stuck {} rfl
  cases phase with
  | called call =>
      cases call with
      | registerSession sessionId =>
          refine .again ?_
          simpa [step, stepCall, stepRegister] using still
      | _ => simp [step, stepCall] at still
  | insertTask request =>
      obtain ⟨uuid, fresh⟩ := Infinite.exists_notMem_finset shared.issued
      have inserts := stuck { uuid := uuid } rfl
      simp [step, stepInsertTask, fresh] at inserts
  | checkout job here =>
      cases here with
      | waiting queueSeq =>
          refine .asleep ?_
          rw [← Bool.not_eq_true]
          intro signaled
          simp only [step, stepCheckout, stepPool, TransferPool.step,
            TransferPool.stepWaiting, signaled, if_true] at still
          split at still
          · next nothing => split at nothing <;> cases nothing
          · cases still
      | checkout queueSeq =>
          simp [step, stepCheckout, stepPool, TransferPool.step] at still
      | entering queueSeq firstAttempt =>
          simp [step, stepCheckout, stepPool, TransferPool.step] at still
      | connecting seq =>
          simp [step, stepCheckout, stepPool, TransferPool.step] at still
      | _ => exact plain.elim
  | permit job held =>
      refine .starved ?_
      by_contra some
      simp [step, stepPermit, some] at still
  | cancelScan taskId remaining =>
      rcases Finset.eq_empty_or_nonempty remaining with rfl | ⟨session, member⟩
      · simp [step, stepCancelScan] at still
      · have scans := stuck { sessionId := session } rfl
        simp only [step, stepCancelScan,
          Finset.ne_empty_of_mem member, member, if_true, if_false] at scans
        split at scans <;> cases scans
  | cancelActive session remaining =>
      rcases Finset.eq_empty_or_nonempty remaining with rfl | ⟨task, member⟩
      · simp [step, stepCancelActive] at still
      · have cancels := stuck { taskId := task } rfl
        simp [step, stepCancelActive, Finset.ne_empty_of_mem member, member]
          at cancels
  | reaper session here => cases calls
  | ended job => exact .ended
  | returned => exact .returned
  | _ => simp [step] at still

/-- No thread of a call can take a step that is allowed to it. -/
def Idle (log : List Event) (config : Config SftpShared Phase) : Prop :=
  ∀ thread choice, caller config thread = true →
    settling log config (.advance thread choice) = true →
      service.machine.step config (.advance thread choice) = none

theorem Idle.halted {config : Config SftpShared Phase} (idle : Idle log config)
    (plain : phase.Plain) (running : config.threads thread = some phase)
    (calls : phase.isReaper = false) : Halted config.shared thread phase := by
  refine halted_of_stuck plain calls fun choice returns => ?_
  have stays := idle thread choice (by simp [caller, running, calls]) (by
    simp only [settling, connectorReturns, running, Bool.and_true]
    split
    · rw [returns]
      rfl
    · rfl)
  by_contra moves
  obtain ⟨⟨shared, after, events⟩, moved⟩ := Option.ne_none_iff_exists'.mp moves
  cases (Program.machine_advance running moved).symm.trans stays

/-! When nobody can go on, nobody waits. -/

section Waiting

variable {config : Config SftpShared Phase}

theorem Idle.fed (idle : Idle log config) (limited : Limited config) :
    config.shared.permits ≠ 0 := by
  intro none
  obtain ⟨finite, total⟩ := limited.permits
  have holders : (permitHolders config).Nonempty := by
    rw [← Set.ncard_pos finite]
    have positive : 0 < maxConcurrentTransfers := by decide
    omega
  obtain ⟨holder, phase, running, has⟩ := holders
  have calls : phase.isReaper = false := by
    cases phase <;> first | rfl | cases has
  cases idle.halted (limited.plain holder phase running) running calls <;>
    cases has

theorem Simulates.shown {pool : Config TransferPool TransferPool.Phase}
    (simulates : Simulates sessionId config pool) {here : TransferPool.Phase}
    (found : pool.threads thread = some here) (moves : atRest here = false) :
    ∃ phase, config.threads thread = some phase ∧
      phase.asPool sessionId = some here := by
  cases place : config.holdings (Phase.asPool sessionId) thread with
  | none =>
      obtain ⟨rests, -⟩ := simulates.absent place found
      rw [moves] at rests
      cases rests
  | some there =>
      obtain rfl := Option.some.inj
        ((simulates.present place).symm.trans found)
      exact Option.bind_eq_some_iff.mp place

/-- Whoever is in the pool of a session, or has a connection of it, can go on,
unless it sleeps. -/
theorem Idle.in_pool (idle : Idle log config) (limited : Limited config)
    (running : config.threads thread = some phase) {here : TransferPool.Phase}
    (there : phase.asPool sessionId = some here) (calls : ¬reaping here) :
    ∃ queueSeq, here = .waiting queueSeq ∧
      ((config.shared.pool sessionId).wakes thread).signaled = false := by
  have plain := limited.plain thread phase running
  have isCall : phase.isReaper = false := by
    cases phase with
    | reaper session start =>
        simp only [Phase.asPool, Option.ite_none_right_eq_some,
          Option.some.injEq] at there
        obtain ⟨-, rfl⟩ := there
        exact absurd plain calls
    | _ => rfl
  cases idle.halted plain running isCall with
  | returned => cases there
  | ended => cases there
  | again known => cases there
  | @asleep job queueSeq unsignalled =>
      simp only [Phase.asPool, Option.ite_none_right_eq_some,
        Option.some.injEq] at there
      obtain ⟨rfl, rfl⟩ := there
      exact ⟨queueSeq, rfl, unsignalled⟩
  | starved none => exact absurd none (idle.fed limited)

theorem Idle.awake (idle : Idle log config) (governed : Governed log config)
    (tended : Tended config) {queueSeq : ℕ}
    (running : config.threads thread =
      some (.checkout job (.waiting queueSeq)))
    (unsignalled :
      ((config.shared.pool job.sessionId).wakes thread).signaled = false) :
    False := by
  have limited := governed.limited
  have queueing := governed.hosting.queueing
  have known := queueing.orderly.staffed.concerned thread _ job.sessionId
    running (.inr (.inr ⟨job, rfl, rfl⟩))
  have queued := (queueing.attentive known).waiting
    ((Config.holdings_of_running running _).trans (if_pos rfl))
  rw [unsignalled] at queued
  have member := queued.resolve_left Bool.false_ne_true
  by_cases opened : job.sessionId ∈ config.shared.handles
  · obtain ⟨turns, later, pool, run, simulates, -⟩ :=
      governed.hosting.amounts opened
    obtain ⟨isOpen, -⟩ := limited.served _ opened
    have vigilant := TransferPool.vigilant
      (TransferPool.vigilant_initial transferIdleTimeout) run
    have covered := vigilant.covered
    have balanced := vigilant.balanced
    unfold TransferPool.Covered at covered
    unfold TransferPool.Balanced at balanced
    rw [simulates.shared] at covered balanced
    have room := covered isOpen (List.ne_nil_of_mem member)
    have unclaimed : TransferPool.claiming
        (config.shared.pool job.sessionId).wakes pool.threads = ∅ := by
      rw [Set.eq_empty_iff_forall_notMem]
      intro other claims
      simp only [TransferPool.claiming, Set.mem_ofPred_eq,
        Option.any_eq_true] at claims
      obtain ⟨here, found, claims⟩ := claims
      have moves : atRest here = false ∧ ¬reaping here := by
        cases here <;> first
          | exact ⟨rfl, id⟩
          | cases claims
      obtain ⟨phase, stands, there⟩ := simulates.shown found moves.1
      obtain ⟨queueSeq, rfl, sleeps⟩ := idle.in_pool limited stands there moves.2
      simp [TransferPool.Phase.claims, sleeps] at claims
    rw [unclaimed, Set.ncard_empty] at room
    have busy : (config.shared.pool job.sessionId).state.busySeqs.Nonempty := by
      rw [← Finset.card_pos]
      have positive : 0 < maxTransferConnectionsPerSession := by decide
      omega
    obtain ⟨seq, busy⟩ := busy
    obtain ⟨other, holds⟩ := (balanced.busy isOpen seq).mp busy
    obtain ⟨here, found, held⟩ := Option.bind_eq_some_iff.mp holds
    have moves : atRest here = false ∧ ¬reaping here := by
      cases here <;> first
        | exact ⟨rfl, id⟩
        | cases held
    obtain ⟨phase, stands, there⟩ := simulates.shown found moves.1
    obtain ⟨queueSeq, rfl, -⟩ := idle.in_pool limited stands there moves.2
    cases held
  · rcases tended.shut ⟨known, opened⟩ with isClosed | ⟨closer, closing⟩
    · rw [(queueing.attentive known).drained isClosed] at member
      cases member
    · cases idle.halted (limited.plain closer _ closing) closing rfl

end Waiting

/-- Where the calls and the workers are when nothing is left to do. -/
def Phase.AtRest (shared : SftpShared) : Phase → Prop
  | .returned | .ended _ => True
  | .called (.registerSession sessionId) => sessionId ∈ shared.registered
  | _ => False

theorem Idle.at_rest {config : Config SftpShared Phase} (idle : Idle log config)
    (governed : Governed log config) (tended : Tended config)
    (running : config.threads thread = some phase)
    (calls : phase.isReaper = false) : phase.AtRest config.shared := by
  cases idle.halted (governed.limited.plain thread phase running) running
    calls with
  | returned => trivial
  | ended => trivial
  | again known => exact known
  | asleep unsignalled =>
      exact (idle.awake governed tended running unsignalled).elim
  | starved none => exact absurd none (idle.fed governed.limited)

theorem Idle.finished {config : Config SftpShared Phase} (idle : Idle log config)
    (governed : Governed log config) (tended : Tended config)
    {task : TransferTask}
    (found : config.shared.tasks.lookup taskId = some task) :
    task.status.isTerminal = true := by
  by_contra under
  obtain ⟨thread, phase, running, tends⟩ := tended.tended
    ⟨task, found, rfl, by simpa using under⟩
  have calls : phase.isReaper = false := by
    cases phase <;> first
      | rfl
      | exact (tends.elim id id).elim
  have rests := idle.at_rest governed tended running calls
  cases phase with
  | called call => exact tends.elim id id
  | ended job => exact tends.elim id id
  | returned => exact tends.elim id id
  | _ => exact rests

theorem extend_of_not_idle {config final : Config SftpShared Phase}
    {more : List (ThreadAction Phase Choice)} {later : List Event}
    (run : service.machine.RunWhere settling log config more later final)
    (called : ∀ thread, caller config thread = caller final thread)
    (moves : ¬Idle (log ++ later) final) :
    ∃ rest last ending,
      service.machine.RunWhere settling log config rest last ending ∧
      rest.countP (advances config) = more.countP (advances config) + 1 := by
  unfold Idle at moves
  push Not at moves
  obtain ⟨thread, choice, calls, permitted, stepped⟩ := moves
  obtain ⟨⟨ending, events⟩, taken⟩ := Option.ne_none_iff_exists'.mp stepped
  refine ⟨_, _, ending, run.snoc permitted taken, ?_⟩
  simp [advances, called, calls]

theorem callers_kept {config final : Config SftpShared Phase}
    {more : List (ThreadAction Phase Choice)} {later : List Event}
    (run : service.machine.RunWhere settling log config more later final)
    (governed : Governed log config) (thread : ℕ) :
    caller config thread = caller final thread := by
  have finite : {thread | caller config thread = true}.Finite := by
    refine governed.finite.subset fun thread calls none => ?_
    simp [caller, none] at calls
  have called : Called finite.toFinset final := by
    refine run.invariant (fun _ final => Called finite.toFinset final) ?_ ?_
    · intro thread
      simp
    · rintro past state action next logged called permitted stepped
      exact called.step permitted stepped
  rw [Bool.eq_iff_iff, called thread]
  simp

theorem exists_idle {config : Config SftpShared Phase}
    (governed : Governed log config) :
    ∃ rest last ending,
      service.machine.RunWhere settling log config rest last ending ∧
      Idle (log ++ last) ending := by
  by_contra never
  push Not at never
  have longer : ∀ steps, ∃ rest last ending,
      service.machine.RunWhere settling log config rest last ending ∧
      rest.countP (advances config) = steps := by
    intro steps
    induction steps with
    | zero => exact ⟨[], [], config, .refl, rfl⟩
    | succ steps induction =>
        obtain ⟨more, later, final, run, counted⟩ := induction
        rw [← counted]
        exact extend_of_not_idle run (callers_kept run governed)
          (never more later final run)
  obtain ⟨bound, bounded⟩ := steps_bounded governed
  obtain ⟨rest, last, ending, run, counted⟩ := longer (bound + 1)
  have few := bounded run
  omega

/-- What becomes of the calls once no new one begins. -/
structure Settles (log : List Event) (config : Config SftpShared Phase) :
    Prop where
  bounded : ∃ bound, ∀ {more later final},
    service.machine.RunWhere settling log config more later final →
      more.countP (advances config) ≤ bound
  completes : ∀ {more later final},
    service.machine.RunWhere settling log config more later final →
      ∃ rest last ending,
        service.machine.RunWhere settling (log ++ later) final rest last ending ∧
        Idle (log ++ later ++ last) ending
  finished : ∀ {more later final},
    service.machine.RunWhere settling log config more later final →
      Idle (log ++ later) final →
        (∀ taskId task, final.shared.tasks.lookup taskId = some task →
          task.status.isTerminal = true) ∧
        ∀ thread phase, final.threads thread = some phase →
          phase.isReaper = false → phase.AtRest final.shared

/-- Unless a connector panics, every transfer ends: once no call begins any more,
the threads have boundedly many steps left, they never come to a standstill
before they are done, and then every task is over. -/
theorem transfers_end {config : Config SftpShared Phase}
    {actions : List (ThreadAction Phase Choice)}
    (run : service.machine.RunWhere connectorReturns [] initial actions log
      config) : Settles log config := by
  obtain ⟨governed, tended⟩ := run.invariant
    (fun log config => Governed log config ∧ Tended config)
    ⟨initial_governed, initial_tended⟩
    fun holds permitted stepped =>
      ⟨holds.1.step permitted stepped, holds.2.step holds.1 stepped⟩
  have later : ∀ {more later final},
      service.machine.RunWhere settling log config more later final →
        Governed (log ++ later) final ∧ Tended final :=
    fun further => further.invariant
      (fun log config => Governed log config ∧ Tended config)
      ⟨governed, tended⟩
      fun holds permitted stepped =>
        ⟨holds.1.step (connectorReturns_of_settling permitted) stepped,
          holds.2.step holds.1 stepped⟩
  refine ⟨steps_bounded governed, fun further => exists_idle (later further).1,
    fun further idle => ?_⟩
  obtain ⟨governed, tended⟩ := later further
  exact ⟨fun taskId task found => idle.finished governed tended found,
    fun thread phase running calls =>
      idle.at_rest governed tended running calls⟩

/-- Six downloads are under way, five of them with a connection. -/
theorem transfers_end_exchanged :
    ∃ config log,
      service.machine.RunWhere connectorReturns [] initial exchangedDownloads
        log config ∧
      (runningIn config.shared "session").card = 6 ∧ Settles log config := by
  obtain ⟨config, log, run, six⟩ : ∃ config log,
      service.machine.RunWhere connectorReturns [] initial exchangedDownloads
        log config ∧ (runningIn config.shared "session").card = 6 := by
    apply guarded_decided fun config _ =>
      (runningIn config.shared "session").card = 6
    decide +kernel
  exact ⟨config, log, run, six, transfers_end run⟩

end Sftp

end TitanSSH
