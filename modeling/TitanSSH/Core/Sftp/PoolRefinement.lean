import TitanSSH.Core.Sftp.Limits

namespace TitanSSH

open Interleaving

namespace Sftp

/-! The pool of an open session, as the threads of the service use it, runs the
pool's own program. -/

/-- Where a thread of the service stands in the program of a session's pool. -/
def Phase.asPool (sessionId : String) : Phase → Option TransferPool.Phase
  | .checkout job phase =>
      if job.sessionId = sessionId then some phase else none
  | .permit job held | .permitted job held | .transfer job held
  | .release job held _ _ | .checkin job held _ _
  | .transition _ _ (.transfer job held) =>
      if job.sessionId = sessionId then some (.holding held) else none
  | .reaper session phase =>
      if session = sessionId ∧ phase ≠ .reaperSpawned then some phase else none
  | _ => none

/-- The thread has not been to a pool yet; a reaper never leaves its own. -/
def Phase.mayEnter : Phase → Bool
  | .called _ | .checkTarget _ | .statLookup _ | .stat _ | .insertTask _
  | .registerEntry _ | .work _ | .cancelScan .. | .cancelToken ..
  | .cancelWaiter .. | .closePool _ | .reaper .. => true
  | _ => false

def atRest : TransferPool.Phase → Bool
  | .failed _ | .returned | .finished => true
  | _ => false

def Event.ofPool? (sessionId : String) : Event → Option TransferPool.Event
  | .pool session event => if session = sessionId then some event else none
  | _ => none

def poolEvents (sessionId : String) (log : List Event) :
    List TransferPool.Event :=
  log.filterMap (Event.ofPool? sessionId)

/-- The service does not log that a checkout begins. -/
def unlogged : TransferPool.Event → Bool
  | .called _ _ => true
  | _ => false

/-- The connector of a checkout returns; a panic in it would leave its slot
reserved for good. -/
def connectorReturns (_ : List Event) (config : Config SftpShared Phase) :
    ThreadAction Phase Choice → Bool
  | .spawn _ _ => true
  | .advance thread choice =>
      match config.threads thread with
      | some (.checkout _ (.connecting _)) => choice.joinError.isNone
      | _ => true

variable {thread : ℕ} {choice : Choice} {shared next : SftpShared}
variable {phase after : Phase} {events log : List Event}
variable {job : TransferJob} {sessionId : String}

@[simp] theorem poolEvents_nil : poolEvents sessionId [] = [] := rfl

@[simp] theorem poolEvents_append (first second : List Event) :
    poolEvents sessionId (first ++ second) =
      poolEvents sessionId first ++ poolEvents sessionId second :=
  List.filterMap_append

theorem poolEvents_own (logged : List TransferPool.Event) :
    poolEvents sessionId (logged.map (.pool sessionId)) = logged := by
  simp [poolEvents, List.filterMap_map, Function.comp_def, Event.ofPool?]

theorem poolEvents_other {other : String} (different : other ≠ sessionId)
    (logged : List TransferPool.Event) :
    poolEvents sessionId (logged.map (.pool other)) = [] := by
  simp [poolEvents, Event.ofPool?, different]

/-! One step of the service, seen from the pool. -/

/-- A thread that arrives somewhere after a step of the pool. -/
def Phase.Shows (sessionId : String) (after : Phase)
    (reached : TransferPool.Phase) : Prop :=
  after.asPool sessionId = some reached ∨
    after.asPool sessionId = none ∧ after.mayEnter = false ∧
      atRest reached = true

inductive PoolTurn (sessionId : String) (thread : ℕ) (shared next : SftpShared)
    (phase after : Phase) (events : List Event) : Prop
  | aside (same : next.pool sessionId = shared.pool sessionId)
      (here : after.asPool sessionId = phase.asPool sessionId)
      (silent : poolEvents sessionId events = [])
      (since : after.mayEnter = true → phase.mayEnter = true)
  | entered {start : TransferPool.Phase}
      (outside : phase.asPool sessionId = none)
      (fresh : phase.mayEnter = true)
      (admitted : TransferPool.program.admits start = true)
      (same : next.pool sessionId = shared.pool sessionId)
      (here : after.asPool sessionId = some start)
      (silent : poolEvents sessionId events = [])
  | visited {choice : TransferPool.Choice} {start reached : TransferPool.Phase}
      {logged : List TransferPool.Event}
      (outside : phase.asPool sessionId = none)
      (fresh : phase.mayEnter = true)
      (admitted : TransferPool.program.admits start = true)
      (unopened : TransferPool.program.opened thread start = [])
      (moved : TransferPool.step thread choice (shared.pool sessionId) start =
        some (next.pool sessionId, reached, logged))
      (shows : after.Shows sessionId reached)
      (told : poolEvents sessionId events = logged)
  | moved {choice : TransferPool.Choice} {start reached : TransferPool.Phase}
      {logged : List TransferPool.Event}
      (here : phase.asPool sessionId = some start)
      (moved : TransferPool.step thread choice (shared.pool sessionId) start =
        some (next.pool sessionId, reached, logged))
      (shows : after.Shows sessionId reached)
      (told : poolEvents sessionId events = logged)

theorem afterPoolStep_shows (reached : TransferPool.Phase) :
    (afterPoolStep job reached).Shows job.sessionId reached := by
  cases reached with
  | failed error => cases error <;> exact .inr ⟨rfl, rfl, rfl⟩
  | _ => exact .inl (by simp [afterPoolStep, Phase.asPool])

theorem afterPoolStep_asPool (reached : TransferPool.Phase)
    (different : job.sessionId ≠ sessionId) :
    (afterPoolStep job reached).asPool sessionId = none := by
  cases reached with
  | failed error => cases error <;> rfl
  | _ => simp [afterPoolStep, Phase.asPool, different]

theorem concluding_asPool (conclusion : Conclusion) :
    (concluding job conclusion).asPool sessionId = none ∧
      (concluding job conclusion).mayEnter = false := by
  obtain ⟨status, error, permitted⟩ := conclusion
  cases permitted <;> exact ⟨rfl, rfl⟩

theorem resume_asPool {turn : TransitionTurn} {change : SftpTaskStatusEvent}
    (continuation : Continuation) :
    (resume continuation).asPool sessionId =
      (Phase.transition turn change continuation).asPool sessionId := by
  cases continuation <;> rfl

theorem resume_mayEnter (continuation : Continuation) :
    (resume continuation).mayEnter = false := by
  cases continuation <;> rfl

theorem Move.turn
    (move : Move thread choice shared phase next after events)
    (present : sessionId ∈ shared.handles)
    (known : sessionId ∈ shared.registered)
    (outside : ∀ job here, phase ≠ .checkout job here)
    (holding : ∀ job held healthy conclusion,
      phase ≠ .checkin job held healthy conclusion)
    (cancels : ∀ taskId queueSeq, phase ≠ .cancelWaiter taskId sessionId queueSeq)
    (closes : phase ≠ .closePool sessionId)
    (reaps : ∀ here, phase ≠ .reaper sessionId here) :
    PoolTurn sessionId thread shared next phase after events := by
  cases move with
  | @registered other fresh =>
      have different : sessionId ≠ other := by
        rintro rfl
        exact fresh known
      exact .aside (by simp [SftpShared.pool, different]) rfl rfl fun _ => rfl
  | refused error asking =>
      refine .aside rfl ?_ rfl (by rintro ⟨⟩)
      cases phase <;> first | rfl | simp [Phase.asking] at asking
  | @unoccupied request free =>
      refine .aside rfl ?_ rfl fun _ => rfl
      unfold afterCheck
      split <;> rfl
  | @enqueued task =>
      refine .aside ?_ rfl rfl fun _ => rfl
      rcases eq_or_ne sessionId task.sessionId with rfl | different
      · simp [SftpShared.setHandle, SftpShared.pool]
      · simp [SftpShared.setHandle, SftpShared.pool, different]
  | @started job opened =>
      rcases eq_or_ne job.sessionId sessionId with rfl | different
      · exact .entered rfl rfl rfl rfl (if_pos rfl) rfl
      · exact .aside rfl (if_neg different) rfl fun _ => rfl
  | panicked panic => exact absurd rfl (outside _ _)
  | pooled step => exact absurd rfl (outside _ _)
  | @dropped job held healthy conclusion absent =>
      have different : job.sessionId ≠ sessionId := by
        rintro rfl
        exact absent present
      obtain ⟨away, left⟩ := @concluding_asPool job sessionId conclusion
      refine .aside rfl (away.trans (if_neg different).symm) rfl ?_
      rw [left]
      rintro ⟨⟩
  | checkedIn => exact absurd rfl (holding _ _ _ _)
  | @rejected change continuation illegal =>
      refine .aside rfl (resume_asPool continuation) rfl ?_
      rw [resume_mayEnter]
      rintro ⟨⟩
  | @taken change continuation tasks task applied =>
      refine .aside rfl ?_ rfl (by rintro ⟨⟩)
      cases continuation <;> rfl
  | @tokenLookup change continuation =>
      refine .aside rfl ?_ rfl (by rintro ⟨⟩)
      cases continuation <;> rfl
  | @tokenRemoved change continuation =>
      refine .aside (by simp) ?_ rfl (by rintro ⟨⟩)
      cases continuation <;> rfl
  | @emitted change continuation =>
      refine .aside rfl (resume_asPool continuation) rfl ?_
      rw [resume_mayEnter]
      rintro ⟨⟩
  | @waiterCancelled taskId other queueSeq =>
      have different : sessionId ≠ other := by
        rintro rfl
        exact cancels _ _ rfl
      exact .aside (by simp [different]) rfl rfl (by rintro ⟨⟩)
  | @poolClosed other =>
      have different : other ≠ sessionId := by
        rintro rfl
        exact closes rfl
      exact .aside (by simp [different.symm]) rfl
        (poolEvents_other different [.closed]) (by rintro ⟨⟩)
  | @reaped other start finish pool logged step =>
      have different : other ≠ sessionId := by
        rintro rfl
        exact reaps _ rfl
      exact .aside (by simp [different.symm])
        (by simp [Phase.asPool, different]) (poolEvents_other different logged)
        fun _ => rfl
  | _ => first
      | exact .aside rfl rfl rfl fun _ => rfl
      | exact .aside rfl rfl rfl (by rintro ⟨⟩)

theorem stepPool_turn {session : String} {here : TransferPool.Phase}
    {arrive : TransferPool.Phase → Phase}
    (stepped : stepPool thread choice shared session here arrive =
      some (next, after, events)) :
    ∃ pool reached logged,
      TransferPool.step thread choice.pool (shared.pool session) here =
        some (next.pool session, reached, logged) ∧
      next = shared.setPool session pool ∧ after = arrive reached ∧
      events = logged.map (.pool session) := by
  unfold stepPool at stepped
  split at stepped
  · cases stepped
  · next pool reached logged moved =>
      simp only [Option.some.injEq, Prod.mk.injEq] at stepped
      obtain ⟨rfl, rfl, rfl⟩ := stepped
      refine ⟨pool, reached, logged, ?_, rfl, rfl, rfl⟩
      rwa [SftpShared.pool_setPool, if_pos rfl]

theorem checkout_turn {here : TransferPool.Phase}
    (stepped : stepCheckout thread choice shared job here =
      some (next, after, events))
    (returns : ∀ seq, here = .connecting seq → choice.joinError = none) :
    PoolTurn sessionId thread shared next (.checkout job here) after events := by
  have pooled : stepPool thread choice shared job.sessionId here
      (afterPoolStep job) = some (next, after, events) := by
    unfold stepCheckout at stepped
    split at stepped
    · next panic =>
        rw [returns _ rfl] at panic
        cases panic
    · exact stepped
  obtain ⟨pool, reached, logged, moved, rfl, rfl, rfl⟩ := stepPool_turn pooled
  rcases eq_or_ne job.sessionId sessionId with rfl | different
  · exact .moved (if_pos rfl) moved (afterPoolStep_shows reached)
      (poolEvents_own logged)
  · refine .aside (by simp [different.symm]) ?_
      (poolEvents_other different logged) ?_
    · rw [afterPoolStep_asPool reached different]
      exact (if_neg different).symm
    · cases reached with
      | failed error => cases error <;> rintro ⟨⟩
      | _ => rintro ⟨⟩

theorem checkin_turn {held : TransferCheckout} {healthy : Bool}
    {conclusion : Conclusion}
    (stepped : stepCheckin thread choice shared job held healthy conclusion =
      (next, after, events)) :
    PoolTurn sessionId thread shared next
      (.checkin job held healthy conclusion) after events := by
  simp only [stepCheckin, Prod.mk.injEq] at stepped
  obtain ⟨rfl, rfl, rfl⟩ := stepped
  obtain ⟨away, left⟩ := @concluding_asPool job sessionId conclusion
  rcases eq_or_ne job.sessionId sessionId with rfl | different
  · refine @PoolTurn.moved _ _ _ _ _ _ _ { choice.pool with healthy := healthy }
      (.holding held) .returned [.checkedIn thread held healthy] (if_pos rfl) ?_
      (.inr ⟨away, left, rfl⟩) (poolEvents_own [.checkedIn thread held healthy])
    rw [SftpShared.pool_setPool, if_pos rfl]
    rfl
  · refine .aside (by simp [different.symm]) ?_
      (poolEvents_other different [.checkedIn thread held healthy]) ?_
    · exact away.trans (if_neg different).symm
    · rw [left]
      rintro ⟨⟩

theorem waiter_turn {taskId other : String} {queueSeq : ℕ}
    (stepped : stepCancelWaiter thread shared taskId other queueSeq =
      (next, after, events)) :
    PoolTurn sessionId thread shared next (.cancelWaiter taskId other queueSeq)
      after events := by
  simp only [stepCancelWaiter, Prod.mk.injEq] at stepped
  obtain ⟨rfl, rfl, rfl⟩ := stepped
  rcases eq_or_ne other sessionId with rfl | different
  · refine @PoolTurn.visited _ _ _ _ _ _ _ {} (.cancelWaiter queueSeq) .finished
      [] rfl rfl rfl rfl ?_ (.inr ⟨rfl, rfl, rfl⟩) rfl
    rw [SftpShared.pool_setPool, if_pos rfl]
    rfl
  · exact .aside (by simp [different.symm]) rfl rfl (by rintro ⟨⟩)

theorem pool_started {pool reached : TransferPool}
    {here there : TransferPool.Phase} {logged : List TransferPool.Event}
    (move : TransferPool.Move thread choice.pool pool here reached there logged) :
    there ≠ .reaperSpawned := by
  cases move <;> rintro ⟨⟩

theorem reaper_turn {other : String} {here : TransferPool.Phase}
    (stepped : stepPool thread choice shared other here (.reaper other) =
      some (next, after, events)) :
    PoolTurn sessionId thread shared next (.reaper other here) after
      events := by
  obtain ⟨pool, reached, logged, moved, rfl, rfl, rfl⟩ := stepPool_turn stepped
  rcases eq_or_ne other sessionId with rfl | different
  · have came := pool_started (TransferPool.step_move moved)
    have shows : (Phase.reaper other reached).Shows other reached :=
      .inl (if_pos ⟨rfl, came⟩)
    by_cases spawned : here = .reaperSpawned
    · subst spawned
      have admitted : TransferPool.program.admits .reaperSpawned = true := rfl
      exact .visited (if_neg (by simp)) rfl admitted rfl moved shows
        (poolEvents_own logged)
    · exact .moved (if_pos ⟨rfl, spawned⟩) moved shows (poolEvents_own logged)
  · exact .aside (by simp [different.symm])
      (by simp [Phase.asPool, different]) (poolEvents_other different logged)
      fun _ => rfl

/-- Every step of the service is a step of the pool's program, the arrival of a
thread there, or none of its business. -/
theorem step_turn {config : Config SftpShared Phase}
    (permitted : connectorReturns log config (.advance thread choice) = true)
    (running : config.threads thread = some phase)
    (closing : Closing log config)
    (present : sessionId ∈ config.shared.handles)
    (known : sessionId ∈ config.shared.registered)
    (stepped : step thread choice config.shared phase =
      some (next, after, events)) :
    PoolTurn sessionId thread config.shared next phase after events := by
  have turn := (step_move stepped).turn present known
  cases phase with
  | checkout job here =>
      refine checkout_turn stepped fun seq same => ?_
      subst same
      simpa [connectorReturns, running] using permitted
  | checkin job held healthy conclusion =>
      exact checkin_turn (Option.some.inj stepped)
  | cancelWaiter taskId other queueSeq =>
      exact waiter_turn (Option.some.inj stepped)
  | reaper other here => exact reaper_turn stepped
  | closePool other =>
      refine turn (by simp) (by simp) (by simp) ?_ (by simp)
      rintro ⟨⟩
      exact (closing.closes thread _ running sessionId rfl).2 present
  | _ => exact turn (by simp) (by simp) (by simp) (by simp) (by simp)

/-! The run of the pool's program that a run of the service amounts to. -/

structure Simulates (sessionId : String) (config : Config SftpShared Phase)
    (pool : Config TransferPool TransferPool.Phase) : Prop where
  shared : pool.shared = config.shared.pool sessionId
  present : ∀ {thread here},
    config.holdings (Phase.asPool sessionId) thread = some here →
      pool.threads thread = some here
  absent : ∀ {thread here},
    config.holdings (Phase.asPool sessionId) thread = none →
      pool.threads thread = some here →
        atRest here = true ∧ ∃ phase, config.threads thread = some phase ∧
          phase.mayEnter = false

/-- A run of the pool's program from the opening of the session, with the events
that the service logs of it. -/
def Amounts (sessionId : String) (log : List Event)
    (config : Config SftpShared Phase) : Prop :=
  ∃ turns later pool,
    TransferPool.program.machine.Run (TransferPool.initial transferIdleTimeout)
      turns later pool ∧
    Simulates sessionId config pool ∧
    later.filter (!unlogged ·) = poolEvents sessionId log

section Simulation

variable {config : Config SftpShared Phase}
variable {pool : Config TransferPool TransferPool.Phase}

theorem Simulates.free (simulates : Simulates sessionId config pool)
    (running : config.threads thread = some phase)
    (outside : phase.asPool sessionId = none) (fresh : phase.mayEnter = true) :
    pool.threads thread = none := by
  rw [Option.eq_none_iff_forall_ne_some]
  intro here found
  obtain ⟨-, current, same, left⟩ := simulates.absent
    ((Config.holdings_of_running running _).trans outside) found
  obtain rfl := Option.some.inj (running.symm.trans same)
  rw [fresh] at left
  cases left

theorem Simulates.update (simulates : Simulates sessionId config pool)
    {reached : TransferPool} {there : TransferPool.Phase}
    (shared : reached = next.pool sessionId)
    (shows : after.Shows sessionId there) :
    Simulates sessionId
      ⟨next, Function.update config.threads thread (some after)⟩
      ⟨reached, Function.update pool.threads thread (some there)⟩ := by
  refine ⟨shared, ?_, ?_⟩
  · intro other here holds
    rw [config.holdings_advance] at holds
    rcases eq_or_ne other thread with rfl | different
    · rw [Function.update_self] at holds
      rcases shows with shown | ⟨nowhere, -, -⟩
      · exact (Function.update_self _ _ _).trans (shown.symm.trans holds)
      · cases nowhere.symm.trans holds
    · rw [Function.update_of_ne different] at holds
      exact (Function.update_of_ne different _ _).trans
        (simulates.present holds)
  · intro other here nothing found
    rw [config.holdings_advance] at nothing
    rcases of_update_eq_some found with ⟨rfl, placed⟩ | ⟨different, found⟩
    · rw [Function.update_self] at nothing
      rcases shows with shown | ⟨-, left, rests⟩
      · cases shown.symm.trans nothing
      · obtain rfl := Option.some.inj placed
        exact ⟨rests, after, Function.update_self _ _ _, left⟩
    · rw [Function.update_of_ne different] at nothing
      obtain ⟨rests, phase, running, left⟩ := simulates.absent nothing found
      exact ⟨rests, phase, (Function.update_of_ne different _ _).trans running,
        left⟩

theorem Simulates.aside (simulates : Simulates sessionId config pool)
    (running : config.threads thread = some phase)
    (same : next.pool sessionId = config.shared.pool sessionId)
    (here : after.asPool sessionId = phase.asPool sessionId)
    (since : after.mayEnter = true → phase.mayEnter = true) :
    Simulates sessionId
      ⟨next, Function.update config.threads thread (some after)⟩ pool := by
  have unmoved := Config.holdings_unchanged next
    (here.trans (Config.holdings_of_running running _).symm)
  refine ⟨simulates.shared.trans same.symm, ?_, ?_⟩
  · intro other place holds
    rw [unmoved] at holds
    exact simulates.present holds
  · intro other place nothing found
    rw [unmoved] at nothing
    obtain ⟨rests, current, found, left⟩ := simulates.absent nothing found
    refine ⟨rests, ?_⟩
    rcases eq_or_ne other thread with rfl | different
    · obtain rfl := Option.some.inj (running.symm.trans found)
      refine ⟨after, Function.update_self _ _ _, ?_⟩
      rw [← Bool.not_eq_true]
      intro enters
      rw [since enters] at left
      cases left
    · exact ⟨current, (Function.update_of_ne different _ _).trans found, left⟩

theorem Simulates.spawn (simulates : Simulates sessionId config pool)
    (free : config.threads thread = none)
    (outside : phase.asPool sessionId = none) :
    Simulates sessionId
      ⟨config.shared, Function.update config.threads thread (some phase)⟩
      pool := by
  have nothing : config.holdings (Phase.asPool sessionId) thread = none := by
    simp [Config.holdings, free]
  have unmoved := Config.holdings_unchanged config.shared
    (outside.trans nothing.symm)
  refine ⟨simulates.shared, ?_, ?_⟩
  · intro other here holds
    rw [unmoved] at holds
    exact simulates.present holds
  · intro other here absent found
    rw [unmoved] at absent
    obtain ⟨rests, current, present, left⟩ := simulates.absent absent found
    refine ⟨rests, current, (Function.update_of_ne ?_ _ _).trans present, left⟩
    rintro rfl
    cases free.symm.trans present

theorem unlogged_of_opened (start : TransferPool.Phase) :
    (TransferPool.program.opened thread start).filter (!unlogged ·) = [] := by
  cases start <;> rfl

/-- Nothing but a call of `checkout` goes without a log entry of the service. -/
theorem logged_of_step {choice : TransferPool.Choice} {pool reached : TransferPool}
    {here there : TransferPool.Phase} {logged : List TransferPool.Event}
    (moved : TransferPool.step thread choice pool here =
      some (reached, there, logged)) :
    logged.filter (!unlogged ·) = logged := by
  refine List.filter_eq_self.mpr fun event member => ?_
  cases TransferPool.step_move moved <;> simp at member <;>
    first
      | subst member; rfl
      | rcases member with rfl | rfl <;> rfl

theorem Amounts.turn (amounts : Amounts sessionId log config)
    (running : config.threads thread = some phase)
    (turn : PoolTurn sessionId thread config.shared next phase after events) :
    Amounts sessionId (log ++ events)
      ⟨next, Function.update config.threads thread (some after)⟩ := by
  obtain ⟨turns, later, pool, run, simulates, same⟩ := amounts
  cases turn with
  | aside samePool here silent since =>
      refine ⟨turns, later, pool, run,
        simulates.aside running samePool here since, ?_⟩
      rw [poolEvents_append, silent, List.append_nil, same]
  | @entered start outside fresh admitted samePool here silent =>
      have free := simulates.free running outside fresh
      have spawned : TransferPool.program.machine.step pool
          (.spawn thread start) = some (⟨pool.shared,
            Function.update pool.threads thread (some start)⟩,
            TransferPool.program.opened thread start) := by
        simp [Program.machine, free, admitted]
      refine ⟨_, _, _, run.snoc spawned, simulates.update
        (simulates.shared.trans samePool.symm) (.inl here), ?_⟩
      rw [List.filter_append, unlogged_of_opened, poolEvents_append, silent,
        same]
  | @visited choice start reached logged outside fresh admitted unopened moved
      shows told =>
      have free := simulates.free running outside fresh
      have spawned : TransferPool.program.machine.step pool
          (.spawn thread start) = some (⟨pool.shared,
            Function.update pool.threads thread (some start)⟩, []) := by
        simp [Program.machine, free, admitted, unopened]
      rw [← simulates.shared] at moved
      have stepped : TransferPool.program.machine.step
          ⟨pool.shared, Function.update pool.threads thread (some start)⟩
          (.advance thread choice) = some (⟨next.pool sessionId,
            Function.update pool.threads thread (some reached)⟩, logged) := by
        rw [Program.machine_advance (Function.update_self _ _ _) moved,
          Function.update_idem]
      refine ⟨_, _, _, (run.snoc spawned).snoc stepped,
        simulates.update rfl shows, ?_⟩
      rw [List.filter_append, List.append_nil, logged_of_step moved,
        poolEvents_append, told, same]
  | @moved choice start reached logged here moved shows told =>
      have current := simulates.present
        ((Config.holdings_of_running running _).trans here)
      rw [← simulates.shared] at moved
      have stepped : TransferPool.program.machine.step pool
          (.advance thread choice) = some (⟨next.pool sessionId,
            Function.update pool.threads thread (some reached)⟩, logged) :=
        Program.machine_advance current moved
      refine ⟨_, _, _, run.snoc stepped, simulates.update rfl shows, ?_⟩
      rw [List.filter_append, logged_of_step moved, poolEvents_append, told,
        same]

end Simulation

/-! A session that has not been registered. -/

structure Dormant (sessionId : String) (log : List Event)
    (config : Config SftpShared Phase) : Prop where
  silent : poolEvents sessionId log = []
  reapers : (config.shared.pool sessionId).reapers = 0
  spawned : ∀ {thread here},
    config.threads thread = some (.reaper sessionId here) →
      here = .reaperSpawned

section Dormancy

variable {config : Config SftpShared Phase}

/-- What a step does to a session that is not registered before it or after it:
nothing. -/
theorem Dormant.advance (dormant : Dormant sessionId log config)
    (queueing : Queueing config)
    (unknown : sessionId ∉ config.shared.registered)
    (still : sessionId ∉ next.registered)
    (running : config.threads thread = some phase)
    (move : Move thread choice config.shared phase next after events) :
    Dormant sessionId (log ++ events)
      ⟨next, Function.update config.threads thread (some after)⟩ := by
  have concerned := queueing.orderly.staffed.concerned thread phase sessionId
    running
  have employs : ∀ job, phase.job? = some job → job.sessionId ≠ sessionId := by
    rintro job employed rfl
    exact unknown (concerned (.inr (.inr ⟨job, employed, rfl⟩)))
  have quiet : poolEvents sessionId events = [] ∧
      (next.pool sessionId).reapers = 0 ∧
      ∀ here, after = .reaper sessionId here → here = .reaperSpawned := by
    have accords := queueing.accords thread phase running
    have reapers := dormant.reapers
    cases move with
    | @registered other fresh =>
        have different : sessionId ≠ other := by
          rintro rfl
          exact still (Finset.mem_insert_self _ _)
        refine ⟨rfl, ?_, by simp⟩
        simpa [SftpShared.pool, different] using reapers
    | @unoccupied request free =>
        refine ⟨rfl, reapers, ?_⟩
        unfold afterCheck
        split <;> simp
    | @enqueued task =>
        refine ⟨rfl, ?_, by simp⟩
        rcases eq_or_ne sessionId task.sessionId with rfl | different
        · simpa [SftpShared.setHandle, SftpShared.pool] using reapers
        · simpa [SftpShared.setHandle, SftpShared.pool, different] using reapers
    | @pooled job start finish pool logged step =>
        have different := employs job rfl
        refine ⟨poolEvents_other different logged,
          by simpa [different.symm] using reapers, ?_⟩
        cases finish with
        | failed error =>
            cases error <;> simp [afterPoolStep, afterFailure, failJob]
        | _ => simp [afterPoolStep]
    | @dropped job held healthy conclusion absent =>
        refine ⟨rfl, reapers, ?_⟩
        unfold concluding
        simp
    | @checkedIn job held healthy conclusion =>
        have different := employs job rfl
        refine ⟨poolEvents_other different [.checkedIn thread held healthy],
          by simpa [different.symm] using reapers, ?_⟩
        unfold concluding
        simp
    | @rejected change continuation illegal =>
        refine ⟨rfl, reapers, ?_⟩
        cases continuation <;> simp [resume]
    | @emitted change continuation =>
        refine ⟨rfl, reapers, ?_⟩
        cases continuation <;> simp [resume]
    | tokenRemoved => exact ⟨rfl, by simpa using reapers, by simp⟩
    | @waiterCancelled taskId other queueSeq =>
        have different : sessionId ≠ other := by
          rintro rfl
          obtain ⟨worker, holds⟩ := accords
          obtain ⟨current, found, employed⟩ := Option.bind_eq_some_iff.mp holds
          exact unknown (queueing.orderly.staffed.concerned worker current _
            found (.inr (.inr ⟨_, employed, rfl⟩)))
        exact ⟨rfl, by simpa [different] using reapers, by simp⟩
    | @poolClosed other =>
        have different : sessionId ≠ other := by
          rintro rfl
          exact unknown accords
        exact ⟨poolEvents_other different.symm [.closed],
          by simpa [different] using reapers, by simp⟩
    | @reaped other start finish pool logged step =>
        rcases eq_or_ne other sessionId with rfl | different
        · obtain rfl := dormant.spawned running
          cases step with
          | reaperStarted spawned => exact absurd reapers spawned
        · refine ⟨poolEvents_other different logged,
            by simpa [different.symm] using reapers, ?_⟩
          rintro here ⟨⟩
          exact absurd rfl different
    | orphaned absent => exact ⟨rfl, reapers, by simp [failJob]⟩
    | panicked panic => exact ⟨rfl, reapers, by simp [failJob]⟩
    | _ => exact ⟨rfl, reapers, by simp⟩
  refine ⟨?_, quiet.2.1, ?_⟩
  · rw [poolEvents_append, dormant.silent, quiet.1, List.append_nil]
  · intro other here found
    rcases of_update_eq_some found with ⟨-, same⟩ | ⟨-, before⟩
    · exact quiet.2.2 here (Option.some.inj same)
    · exact dormant.spawned before

theorem initial_dormant : Dormant sessionId [] initial where
  silent := rfl
  reapers := rfl
  spawned := by
    intro thread here found
    cases found

theorem Move.opens_silent
    (move : Move thread choice shared phase next after events)
    (absent : sessionId ∉ shared.handles) (present : sessionId ∈ next.handles) :
    poolEvents sessionId events = [] := by
  cases move with
  | registered fresh => rfl
  | cleanupStarted opened => rfl
  | _ => exact absurd present absent

/-- Every session opens with the pool's program at its start. -/
theorem Dormant.opens (dormant : Dormant sessionId log config)
    (staffed : Staffed config)
    (unknown : sessionId ∉ config.shared.registered)
    (returned : after = .returned) (silent : poolEvents sessionId events = [])
    (opened : next.pool sessionId = .newCyclic transferIdleTimeout) :
    Amounts sessionId (log ++ events)
      ⟨next, Function.update config.threads thread (some after)⟩ := by
  subst returned
  refine ⟨[], [], TransferPool.initial transferIdleTimeout, .refl, ⟨?_, ?_, ?_⟩,
    ?_⟩
  · exact opened.symm
  · intro other here holds
    rw [config.holdings_advance] at holds
    rcases of_update_eq_some holds with ⟨-, nowhere⟩ | ⟨-, holds⟩
    · cases nowhere
    · obtain ⟨phase, running, there⟩ := Option.bind_eq_some_iff.mp holds
      have away : ∀ job, phase.job? = some job → job.sessionId ≠ sessionId := by
        rintro job employed rfl
        exact unknown (staffed.concerned other phase _ running
          (.inr (.inr ⟨job, employed, rfl⟩)))
      cases phase with
      | reaper session start =>
          simp only [Phase.asPool, Option.ite_none_right_eq_some] at there
          obtain ⟨⟨rfl, started⟩, -⟩ := there
          exact absurd (dormant.spawned running) started
      | transition turn change continuation =>
          cases continuation with
          | transfer job held => simp [Phase.asPool, away job rfl] at there
          | _ => cases there
      | checkout job start => simp [Phase.asPool, away job rfl] at there
      | permit job held => simp [Phase.asPool, away job rfl] at there
      | permitted job held => simp [Phase.asPool, away job rfl] at there
      | transfer job held => simp [Phase.asPool, away job rfl] at there
      | release job held healthy conclusion =>
          simp [Phase.asPool, away job rfl] at there
      | checkin job held healthy conclusion =>
          simp [Phase.asPool, away job rfl] at there
      | _ => cases there
  · intro other here nothing found
    cases found
  · rw [poolEvents_append, dormant.silent, silent]
    rfl

end Dormancy

/-- The run of the service that leads to a state, with what it keeps. -/
structure Hosting (log : List Event) (config : Config SftpShared Phase) :
    Prop where
  queueing : Queueing config
  closing : Closing log config
  dormant : ∀ {sessionId}, sessionId ∉ config.shared.registered →
    Dormant sessionId log config
  amounts : ∀ {sessionId}, sessionId ∈ config.shared.handles →
    Amounts sessionId log config

theorem Hosting.step {config final : Config SftpShared Phase}
    {action : ThreadAction Phase Choice} (hosting : Hosting log config)
    (permitted : connectorReturns log config action = true)
    (stepped : service.machine.step config action = some (final, events)) :
    Hosting (log ++ events) final := by
  have staffed := hosting.queueing.orderly.staffed
  refine ⟨hosting.queueing.step stepped, hosting.closing.step staffed stepped,
    ?_, ?_⟩ <;>
  rcases Program.machine_step_cases stepped with
    ⟨thread, start, -, free, admitted, rfl, rfl⟩ |
    ⟨thread, choice, current, shared, after, rfl, running, moved, rfl⟩
  · intro sessionId unknown
    obtain ⟨silent, reapers, spawned⟩ := hosting.dormant unknown
    refine ⟨by simpa [service] using silent, reapers, ?_⟩
    intro other here found
    rcases of_update_eq_some found with ⟨-, same⟩ | ⟨-, before⟩
    · obtain rfl := Option.some.inj same
      cases here <;> first | rfl | simp [service] at admitted
    · exact spawned before
  · intro sessionId still
    have unknown : sessionId ∉ config.shared.registered := fun known =>
      still ((step_move moved).registered_subset known)
    exact (hosting.dormant unknown).advance hosting.queueing unknown still
      running (step_move moved)
  · intro sessionId present
    obtain ⟨turns, later, pool, run, simulates, same⟩ := hosting.amounts present
    have outside : start.asPool sessionId = none := by
      cases start with
      | called call => rfl
      | reaper session here =>
          cases here with
          | reaperSpawned => exact if_neg (by simp)
          | _ => simp [service] at admitted
      | _ => simp [service] at admitted
    exact ⟨turns, later, pool, run, simulates.spawn free outside,
      by simpa [service] using same⟩
  · intro sessionId present
    by_cases before : sessionId ∈ config.shared.handles
    · exact (hosting.amounts before).turn running
        (step_turn permitted running hosting.closing before
          (staffed.handles before) moved)
    · have move := step_move moved
      obtain ⟨unknown, returned, opened⟩ := move.opens before present
      exact (hosting.dormant unknown).opens staffed unknown returned
        (move.opens_silent before present) opened

theorem initial_hosting : Hosting [] initial where
  queueing := initial_queueing
  closing := initial_closing
  dormant _ := initial_dormant
  amounts := by
    intro sessionId present
    simp [initial, SftpShared.empty] at present

/-- Unless a connector panics, what the threads of the service do in the pool of
a session with a handle is a run of the pool's own program: each thread stands
there where the program has it, and the service logs what the program logs. -/
theorem pool_refined {config : Config SftpShared Phase}
    {actions : List (ThreadAction Phase Choice)}
    (run : service.machine.RunWhere connectorReturns [] initial actions log
      config) (opened : sessionId ∈ config.shared.handles) :
    Amounts sessionId log config := by
  have hosting := run.invariant Hosting initial_hosting Hosting.step
  exact hosting.amounts opened

theorem guarded_decided {actions : List (ThreadAction Phase Choice)}
    {allowed : List Event → Config SftpShared Phase →
      ThreadAction Phase Choice → Bool}
    (holds : Config SftpShared Phase → List Event → Prop)
    [∀ config log, Decidable (holds config log)]
    (decided : (service.machine.executeWhere allowed [] initial actions).map
      (fun outcome => decide (holds outcome.1 outcome.2)) = some true) :
    ∃ config log,
      service.machine.RunWhere allowed [] initial actions log config ∧
      holds config log := by
  obtain ⟨⟨config, log⟩, executed, checked⟩ :=
    Option.map_eq_some_iff.mp decided
  exact ⟨config, log, Machine.runWhere_of_executeWhere executed,
    of_decide_eq_true checked⟩

/-- Six downloads that share five connections. -/
theorem pool_refined_exchanged :
    ∃ config log,
      service.machine.RunWhere connectorReturns [] initial exchangedDownloads
        log config ∧
      .checkedIn 1 ⟨0, 0⟩ true ∈ poolEvents "session" log ∧
      .obtained 6 ⟨0, 0⟩ ∈ poolEvents "session" log ∧
      Amounts "session" log config := by
  obtain ⟨config, log, run, opened, given, taken⟩ : ∃ config log,
      service.machine.RunWhere connectorReturns [] initial exchangedDownloads
        log config ∧
      "session" ∈ config.shared.handles ∧
      .checkedIn 1 ⟨0, 0⟩ true ∈ poolEvents "session" log ∧
      .obtained 6 ⟨0, 0⟩ ∈ poolEvents "session" log := by
    apply guarded_decided fun config log =>
      "session" ∈ config.shared.handles ∧
      .checkedIn 1 ⟨0, 0⟩ true ∈ poolEvents "session" log ∧
      .obtained 6 ⟨0, 0⟩ ∈ poolEvents "session" log
    decide +kernel
  exact ⟨config, log, run, given, taken, pool_refined run opened⟩

end Sftp

end TitanSSH
