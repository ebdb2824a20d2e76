import TitanSSH.Core.Monitor.TaskEvents
import TitanSSH.Stores.Monitor

namespace TitanSSH

open Interleaving

namespace MonitorTasks

variable {Usage : Type}

/-! The tasks of the window beside the monitoring service.  Between the two are
`start_monitoring` calls that have not been answered and status events that have
not been delivered. -/

/-- The calls name the sessions they are for; a reply is ready before its thread
goes on as the worker of the task. -/
structure State (Usage : Type) where
  service : Config (MonitorShared Usage) (Monitor.Phase Usage)
  calls : KeyedStore ℕ String
  replies : KeyedStore ℕ TaskInfo
  stream : String → List TaskStatusEvent
  store : MonitorState Usage

inductive Event (Usage : Type)
  | service (event : Monitor.Event Usage)
  | delivered (event : TaskStatusEvent)
  | answered (taskId : String)

/-- The events of a task are delivered in order; whatever else the store does may
come in between. -/
inductive Action (Usage : Type)
  | service
      (action : ThreadAction (Monitor.Phase Usage) (Monitor.Choice Usage))
  | start (sessionId : String) (thread : ℕ)
  | answer (thread : ℕ)
  | fail (thread : ℕ) (error : AppErrorInfo)
  | deliver (taskId : String)
  | applySnapshot (snapshot : MonitorSnapshot Usage)
  | fetchSnapshot (response : Except AppErrorInfo (MonitorSnapshot Usage))
  | selectNetworkInterface (sessionId interfaceName : String)
  | stopMonitoring (sessionId : String) (response : Except AppErrorInfo Unit)
  | clearSession (sessionId : String)

abbrev Outcome (Usage : Type) := State Usage × List (Event Usage)

def initial : State Usage :=
  ⟨Monitor.initial, fun _ => none, fun _ => none, fun _ => [], .empty⟩

/-- The replies that are ready after a step of the service. -/
def repliesAfter (state : State Usage) :
    ThreadAction (Monitor.Phase Usage) (Monitor.Choice Usage) →
      KeyedStore ℕ TaskInfo
  | .spawn _ _ => state.replies
  | .advance thread choice =>
      match state.service.threads thread with
      | some (.registering sessionId) =>
          state.replies.insert thread
            (Monitor.newTask choice sessionId).taskInfo
      | _ => state.replies

def stepService (state : State Usage)
    (action : ThreadAction (Monitor.Phase Usage) (Monitor.Choice Usage)) :
    Option (Outcome Usage) :=
  match (Monitor.program Usage).machine.step state.service action with
  | none => none
  | some (service, events) =>
      some ({ state with
        service := service
        replies := repliesAfter state action
        stream := fun taskId =>
          state.stream taskId ++ Monitor.told taskId events },
        events.map .service)

def stepStart (state : State Usage) (sessionId : String) (thread : ℕ) :
    Option (Outcome Usage) :=
  match stepService state
      (.spawn thread (.called (.startMonitoring sessionId))) with
  | none => none
  | some (next, events) =>
      some ({ next with calls := next.calls.insert thread sessionId }, events)

/-- The call has returned, and its thread is the worker of the task. -/
def stepAnswer (state : State Usage) (thread : ℕ) : Option (Outcome Usage) :=
  match state.calls thread, state.service.threads thread,
      state.replies thread with
  | some sessionId, some (.working _ _), some task =>
      some ({ state with
        calls := state.calls.erase thread
        store := state.store.startMonitoring sessionId (.ok task) },
        [.answered task.taskId])
  | _, _, _ => none

def stepFail (state : State Usage) (thread : ℕ) (error : AppErrorInfo) :
    Option (Outcome Usage) :=
  match state.calls thread with
  | none => none
  | some sessionId =>
      some ({ state with
        calls := state.calls.erase thread
        store := state.store.startMonitoring sessionId (.error error) }, [])

def stepDeliver (state : State Usage) (taskId : String) :
    Option (Outcome Usage) :=
  match state.stream taskId with
  | [] => none
  | event :: rest =>
      some ({ state with
        stream := Function.update state.stream taskId rest
        store := state.store.applyTaskStatus event }, [.delivered event])

def step (state : State Usage) : Action Usage → Option (Outcome Usage)
  | .service action => stepService state action
  | .start sessionId thread => stepStart state sessionId thread
  | .answer thread => stepAnswer state thread
  | .fail thread error => stepFail state thread error
  | .deliver taskId => stepDeliver state taskId
  | .applySnapshot snapshot =>
      some ({ state with store := state.store.applySnapshot snapshot }, [])
  | .fetchSnapshot response =>
      some ({ state with store := state.store.fetchSnapshot response }, [])
  | .selectNetworkInterface sessionId interfaceName =>
      some ({ state with
        store := state.store.selectNetworkInterface sessionId interfaceName },
        [])
  | .stopMonitoring sessionId response =>
      some ({ state with
        store := state.store.stopMonitoring sessionId response }, [])
  | .clearSession sessionId =>
      some ({ state with store := state.store.clearSession sessionId }, [])

def machine (Usage : Type) :
    Machine (State Usage) (Action Usage) (Event Usage) where
  step := step

/-! What a log says of the service and of one task. -/

def serviceLog (log : List (Event Usage)) : List (Monitor.Event Usage) :=
  log.filterMap fun
    | .service event => some event
    | _ => none

def toldOf (taskId : String) (log : List (Event Usage)) :
    List TaskStatusEvent :=
  Monitor.told taskId (serviceLog log)

def deliveredOf (taskId : String) (log : List (Event Usage)) :
    List TaskStatusEvent :=
  log.filterMap fun
    | .delivered event => if event.taskId = taskId then some event else none
    | _ => none

/-- What the window has to show after the events: a task starts out as pending. -/
def shownAfter (events : List TaskStatusEvent) :
    TaskStatus × Option AppErrorInfo :=
  events.getLast?.elim (.pending, none) fun event => (event.status, event.error)

end MonitorTasks

namespace MonitorTask

def shown (task : MonitorTask) : TaskStatus × Option AppErrorInfo :=
  (task.taskInfo.status, task.error)

end MonitorTask

namespace TaskStatus

/-- A task moves on to higher ranks only. -/
def rank : TaskStatus → ℕ
  | pending => 0
  | running => 1
  | done | failed => 2

end TaskStatus

namespace MonitorTasks

variable {Usage : Type}
variable {log events : List (Event Usage)} {state next : State Usage}
variable {taskId : String} {thread : ℕ}

theorem serviceLog_append (log events : List (Event Usage)) :
    serviceLog (log ++ events) = serviceLog log ++ serviceLog events :=
  List.filterMap_append

theorem serviceLog_service (events : List (Monitor.Event Usage)) :
    serviceLog (events.map .service) = events := by
  simp [serviceLog, List.filterMap_map]

theorem deliveredOf_append (taskId : String) (log events : List (Event Usage)) :
    deliveredOf taskId (log ++ events) =
      deliveredOf taskId log ++ deliveredOf taskId events :=
  List.filterMap_append

theorem deliveredOf_service (events : List (Monitor.Event Usage)) :
    deliveredOf taskId (events.map .service) = [] := by
  simp [deliveredOf]

theorem mem_told {event : TaskStatusEvent} {past : List (Monitor.Event Usage)}
    (member : event ∈ Monitor.told taskId past) : event.taskId = taskId := by
  obtain ⟨source, -, tells⟩ := List.mem_filterMap.mp member
  cases source with
  | taskStatus other =>
      simp only [Monitor.Event.tells] at tells
      split at tells
      · next own =>
          obtain rfl := Option.some.inj tells
          exact own
      · cases tells
  | _ => cases tells

/-- What is under way, what the window buffers for the tasks that it has not been
told of, and what it shows of the others. -/
structure Projected (log : List (Event Usage)) (state : State Usage) : Prop where
  telling : Monitor.Telling (serviceLog log) state.service
  flows : ∀ taskId, toldOf taskId log =
    deliveredOf taskId log ++ state.stream taskId
  replied : ∀ thread task, state.replies thread = some task →
    task.status = .pending ∧
      state.service.holdings Monitor.Phase.taskId? thread = some task.taskId
  answered : ∀ taskId, .answered taskId ∈ log →
    taskId ∈ state.service.shared.issued ∧ ∀ thread,
      state.service.holdings Monitor.Phase.taskId? thread = some taskId →
        state.calls thread = none
  buffered : ∀ taskId, .answered taskId ∉ log →
    state.store.tasks taskId = none ∧
      state.store.pendingTaskEvents taskId = (deliveredOf taskId log).getLast?
  shown : ∀ taskId task, state.store.tasks taskId = some task →
    task.shown = shownAfter (deliveredOf taskId log)

theorem initial_projected : Projected [] (initial : State Usage) where
  telling := Monitor.initial_telling
  flows := fun _ => rfl
  replied := nofun
  answered := nofun
  buffered := fun _ _ => ⟨rfl, rfl⟩
  shown := nofun

theorem Projected.window (projected : Projected log state)
    {calls : KeyedStore ℕ String} {store : MonitorState Usage}
    (fewer : ∀ thread, state.calls thread = none → calls thread = none)
    (tasks : ∀ taskId task, store.tasks taskId = some task →
      state.store.tasks taskId = some task)
    (pending : store.pendingTaskEvents = state.store.pendingTaskEvents) :
    Projected (log ++ []) { state with calls := calls, store := store } := by
  rw [List.append_nil]
  refine ⟨projected.telling, projected.flows, projected.replied, ?_, ?_, ?_⟩
  · intro taskId answered
    obtain ⟨issued, returned⟩ := projected.answered taskId answered
    exact ⟨issued, fun thread holds => fewer thread (returned thread holds)⟩
  · intro taskId unanswered
    obtain ⟨unknown, buffer⟩ := projected.buffered taskId unanswered
    refine ⟨?_, by rw [pending]; exact buffer⟩
    cases known : store.tasks taskId with
    | none => rfl
    | some task =>
        rw [tasks taskId task known] at unknown
        cases unknown
  · exact fun taskId task known =>
      projected.shown taskId task (tasks taskId task known)

theorem Projected.store (projected : Projected log state)
    {store : MonitorState Usage} (tasks : store.tasks = state.store.tasks)
    (pending : store.pendingTaskEvents = state.store.pendingTaskEvents) :
    Projected (log ++ []) { state with store := store } :=
  projected.window (fun _ same => same) (fun _ _ known => tasks ▸ known) pending

/-! The service goes on. -/

theorem taskId?_of_step
    {choice : Monitor.Choice Usage} {shared after : MonitorShared Usage}
    {phase onward : Monitor.Phase Usage} {logged : List (Monitor.Event Usage)}
    (stepped : Monitor.step thread choice shared phase =
      some (after, onward, logged)) (own : onward.taskId? = some taskId) :
    phase.taskId? = some taskId ∨ taskId ∉ shared.issued := by
  cases Monitor.step_effect stepped with
  | aside before idle => rw [idle] at own; cases own
  | registered fresh => exact .inr (Option.some.inj own ▸ fresh)
  | _ => exact .inl own

theorem issued_of_step
    {config after : Config (MonitorShared Usage) (Monitor.Phase Usage)}
    {action : ThreadAction (Monitor.Phase Usage) (Monitor.Choice Usage)}
    {logged : List (Monitor.Event Usage)}
    (stepped : (Monitor.program Usage).machine.step config action =
      some (after, logged)) (issued : taskId ∈ config.shared.issued) :
    taskId ∈ after.shared.issued ∧ ∀ thread,
      after.holdings Monitor.Phase.taskId? thread = some taskId →
        config.holdings Monitor.Phase.taskId? thread = some taskId := by
  rcases Program.machine_step_cases stepped with
    ⟨thread, start, rfl, free, admitted, rfl, rfl⟩ |
    ⟨thread, choice, current, shared, phase, rfl, running, moved, rfl⟩
  · refine ⟨issued, fun other holds => ?_⟩
    rw [Config.holdings_advance] at holds
    rcases of_update_eq_some holds with ⟨-, own⟩ | ⟨-, before⟩
    · cases start with
      | called call => cases own
      | _ => cases admitted
    · exact before
  · refine ⟨(Monitor.step_effect moved).issued issued, fun other holds => ?_⟩
    rw [Config.holdings_advance] at holds
    rcases of_update_eq_some holds with ⟨rfl, own⟩ | ⟨-, before⟩
    · refine (Config.holdings_of_running running _).trans ?_
      exact (taskId?_of_step moved own).resolve_right (not_not_intro issued)
    · exact before

/-- A thread that has a reply ready is the one of its task. -/
theorem Projected.replies (projected : Projected log state)
    {action : ThreadAction (Monitor.Phase Usage) (Monitor.Choice Usage)}
    {service : Config (MonitorShared Usage) (Monitor.Phase Usage)}
    {logged : List (Monitor.Event Usage)} {task : TaskInfo}
    (stepped : (Monitor.program Usage).machine.step state.service action =
      some (service, logged))
    (ready : repliesAfter state action thread = some task) :
    task.status = .pending ∧
      service.holdings Monitor.Phase.taskId? thread = some task.taskId := by
  rcases Program.machine_step_cases stepped with
    ⟨other, start, rfl, free, admitted, rfl, rfl⟩ |
    ⟨other, choice, current, shared, phase, rfl, running, moved, rfl⟩
  · obtain ⟨pending, holds⟩ := projected.replied thread task ready
    refine ⟨pending, ?_⟩
    rw [Config.holdings_advance, Function.update_of_ne]
    · exact holds
    · rintro rfl
      simp [Config.holdings, free] at holds
  · have kept : state.replies thread = some task → task.status = .pending ∧
        (⟨shared, Function.update state.service.threads other (some phase)⟩ :
          Config (MonitorShared Usage) (Monitor.Phase Usage)).holdings
            Monitor.Phase.taskId? thread = some task.taskId := by
      intro before
      obtain ⟨pending, holds⟩ := projected.replied thread task before
      refine ⟨pending, ?_⟩
      rw [Config.holdings_advance]
      rcases eq_or_ne thread other with rfl | different
      · rw [Function.update_self]
        have own : current.taskId? = some task.taskId :=
          (Config.holdings_of_running running _).symm.trans holds
        cases Monitor.step_effect moved with
        | aside idle => rw [idle] at own; cases own
        | registered => cases own
        | _ => exact own
      · rw [Function.update_of_ne different]
        exact holds
    cases current with
    | registering sessionId =>
        simp only [repliesAfter, running] at ready
        rcases eq_or_ne thread other with rfl | different
        · rw [KeyedStore.insert_self] at ready
          obtain rfl := Option.some.inj ready
          refine ⟨rfl, ?_⟩
          rw [Config.holdings_advance, Function.update_self]
          simp only [Monitor.program, Monitor.step,
            Monitor.stepRegistering] at moved
          split at moved
          · cases moved
          · cases moved
            rfl
        · rw [KeyedStore.insert_of_ne different] at ready
          exact kept ready
    | _ =>
        simp only [repliesAfter, running] at ready
        exact kept ready

theorem toldOf_service (taskId : String) (log : List (Event Usage))
    (logged : List (Monitor.Event Usage)) :
    toldOf taskId (log ++ logged.map .service) =
      toldOf taskId log ++ Monitor.told taskId logged := by
  rw [toldOf, serviceLog_append, serviceLog_service, Monitor.told_append]
  rfl

theorem answered_before {logged : List (Monitor.Event Usage)} :
    .answered taskId ∈ log ++ logged.map Event.service ↔
      .answered taskId ∈ log := by
  simp

theorem Projected.serve (projected : Projected log state)
    {action : ThreadAction (Monitor.Phase Usage) (Monitor.Choice Usage)}
    (stepped : stepService state action = some (next, events)) :
    Projected (log ++ events) next ∧ next.calls = state.calls := by
  unfold stepService at stepped
  split at stepped
  · cases stepped
  · next service logged moved =>
      cases stepped
      refine ⟨⟨?_, ?_, ?_, ?_, ?_, ?_⟩, rfl⟩
      · rw [serviceLog_append, serviceLog_service]
        exact projected.telling.step moved
      · intro taskId
        rw [toldOf_service, deliveredOf_append, deliveredOf_service,
          List.append_nil, projected.flows, List.append_assoc]
      · exact fun thread task ready => projected.replies moved ready
      · intro taskId answered
        obtain ⟨issued, returned⟩ :=
          projected.answered taskId (answered_before.mp answered)
        obtain ⟨still, before⟩ := issued_of_step moved issued
        exact ⟨still, fun thread holds => returned thread (before thread holds)⟩
      · intro taskId unanswered
        rw [deliveredOf_append, deliveredOf_service, List.append_nil]
        exact projected.buffered taskId (mt answered_before.mpr unanswered)
      · intro taskId task known
        rw [deliveredOf_append, deliveredOf_service, List.append_nil]
        exact projected.shown taskId task known

theorem Projected.start (projected : Projected log state) {sessionId : String}
    (stepped : stepStart state sessionId thread = some (next, events)) :
    Projected (log ++ events) next := by
  unfold stepStart at stepped
  split at stepped
  · cases stepped
  · next served logged moved =>
      cases stepped
      obtain ⟨after, -⟩ := projected.serve moved
      refine { after with answered := fun taskId answered => ?_ }
      obtain ⟨issued, returned⟩ := after.answered taskId answered
      refine ⟨issued, fun other holds => ?_⟩
      -- the thread of the call has been spawned just now
      have different : other ≠ thread := by
        rintro rfl
        simp only [stepService, Program.machine] at moved
        split at moved
        · cases moved
        · next taken =>
            split at taken
            · cases taken
            · cases taken
              cases moved
              simp [Config.holdings, Monitor.Phase.taskId?] at holds
      change (served.calls.insert thread sessionId) other = none
      rw [KeyedStore.insert_of_ne different]
      exact returned other holds

/-! The window is answered, and hears of the tasks. -/

theorem Projected.answer (projected : Projected log state)
    (stepped : stepAnswer state thread = some (next, events)) :
    Projected (log ++ events) next := by
  unfold stepAnswer at stepped
  split at stepped
  · next sessionId job turn task called running ready =>
      cases stepped
      obtain ⟨pending, holds⟩ := projected.replied thread task ready
      have unanswered : .answered task.taskId ∉ log := by
        intro answered
        have returned := (projected.answered _ answered).2 thread holds
        rw [called] at returned
        cases returned
      obtain ⟨-, buffer⟩ := projected.buffered _ unanswered
      have silent : ∀ taskId,
          deliveredOf taskId (log ++ [.answered task.taskId]) =
            deliveredOf taskId log := by
        intro taskId
        rw [deliveredOf_append]
        exact List.append_nil _
      have quiet : serviceLog (log ++ [.answered task.taskId]) =
          serviceLog log := by
        rw [serviceLog_append]
        exact List.append_nil _
      have fewer : ∀ other, state.calls other = none →
          state.calls.erase thread other = none := by
        intro other absent
        rcases eq_or_ne other thread with rfl | different
        · exact KeyedStore.erase_self _ _
        · rwa [KeyedStore.erase_of_ne different]
      refine ⟨quiet ▸ projected.telling, ?_, projected.replied, ?_, ?_, ?_⟩
      · intro taskId
        rw [toldOf, quiet, silent]
        exact projected.flows taskId
      · intro taskId answered
        cases List.mem_append.mp answered with
        | inl before =>
            obtain ⟨issued, returned⟩ := projected.answered taskId before
            exact ⟨issued, fun other mine => fewer other (returned other mine)⟩
        | inr now =>
            obtain rfl := Event.answered.inj (List.mem_singleton.mp now)
            refine ⟨(projected.telling.issued _).mpr ⟨thread, holds⟩, ?_⟩
            intro other mine
            obtain rfl := projected.telling.apart other thread _ mine holds
            exact KeyedStore.erase_self _ _
      · intro taskId untold
        rw [List.mem_append, not_or, List.mem_singleton] at untold
        have different : taskId ≠ task.taskId := fun same =>
          untold.2 (congrArg Event.answered same)
        obtain ⟨unknown, before⟩ := projected.buffered taskId untold.1
        rw [silent]
        refine ⟨?_, ?_⟩
        · exact (KeyedStore.insert_of_ne different _ _).trans unknown
        · exact (KeyedStore.erase_of_ne different _).trans before
      · intro taskId shown known
        rw [silent]
        rcases eq_or_ne taskId task.taskId with rfl | different
        · have same := (KeyedStore.insert_self _ _ _).symm.trans known
          obtain rfl := Option.some.inj same
          rw [shownAfter, buffer]
          cases (deliveredOf task.taskId log).getLast? with
          | none => exact congrArg (fun status => (status, none)) pending
          | some event => rfl
        · exact projected.shown taskId shown
            ((KeyedStore.insert_of_ne different _ _).symm.trans known)
  · cases stepped

theorem shownAfter_concat (events : List TaskStatusEvent)
    (event : TaskStatusEvent) :
    shownAfter (events ++ [event]) = (event.status, event.error) := by
  simp [shownAfter]

theorem deliveredOf_delivered (taskId : String) (event : TaskStatusEvent) :
    deliveredOf taskId ([.delivered event] : List (Event Usage)) =
      if event.taskId = taskId then [event] else [] := by
  by_cases own : event.taskId = taskId <;> simp [deliveredOf, own]

theorem applyTaskStatus_of_ne (store : MonitorState Usage)
    {event : TaskStatusEvent} (different : taskId ≠ event.taskId) :
    (store.applyTaskStatus event).tasks taskId = store.tasks taskId ∧
      (store.applyTaskStatus event).pendingTaskEvents taskId =
        store.pendingTaskEvents taskId := by
  unfold MonitorState.applyTaskStatus
  split
  · exact ⟨rfl, KeyedStore.insert_of_ne different _ _⟩
  · exact ⟨KeyedStore.insert_of_ne different _ _, rfl⟩

theorem applyTaskStatus_unknown (store : MonitorState Usage)
    {event : TaskStatusEvent} (unknown : store.tasks event.taskId = none) :
    (store.applyTaskStatus event).tasks event.taskId = none ∧
      (store.applyTaskStatus event).pendingTaskEvents event.taskId =
        some event := by
  simp only [MonitorState.applyTaskStatus, unknown]
  exact ⟨trivial, KeyedStore.insert_self _ _ _⟩

theorem applyTaskStatus_known (store : MonitorState Usage)
    {event : TaskStatusEvent} {task : MonitorTask}
    (known : (store.applyTaskStatus event).tasks event.taskId = some task) :
    task.shown = (event.status, event.error) := by
  cases before : store.tasks event.taskId with
  | none =>
      rw [(applyTaskStatus_unknown store before).1] at known
      cases known
  | some current =>
      simp only [MonitorState.applyTaskStatus, before] at known
      rw [KeyedStore.insert_self] at known
      exact Option.some.inj known ▸ rfl

theorem Projected.deliver (projected : Projected log state)
    (stepped : stepDeliver state taskId = some (next, events)) :
    Projected (log ++ events) next := by
  unfold stepDeliver at stepped
  split at stepped
  · cases stepped
  · next event rest under =>
      cases stepped
      have own : event.taskId = taskId := by
        have flows := projected.flows taskId
        rw [under] at flows
        have within : event ∈ Monitor.told taskId (serviceLog log) := by
          change event ∈ toldOf taskId log
          simp [flows]
        exact mem_told within
      subst own
      have quiet : serviceLog (log ++ [.delivered event]) = serviceLog log := by
        rw [serviceLog_append]
        exact List.append_nil _
      have heard : deliveredOf event.taskId (log ++ [.delivered event]) =
          deliveredOf event.taskId log ++ [event] := by
        rw [deliveredOf_append, deliveredOf_delivered, if_pos rfl]
      have others : ∀ other, other ≠ event.taskId →
          deliveredOf other (log ++ [.delivered event]) =
            deliveredOf other log := by
        intro other different
        rw [deliveredOf_append, deliveredOf_delivered, if_neg different.symm,
          List.append_nil]
      have unheard : ∀ other, .answered other ∈ log ++ [.delivered event] ↔
          .answered other ∈ log := by simp
      refine ⟨quiet ▸ projected.telling, ?_, projected.replied, ?_, ?_, ?_⟩
      · intro other
        rw [toldOf, quiet]
        rcases eq_or_ne other event.taskId with rfl | different
        · rw [heard, List.append_assoc]
          refine (projected.flows event.taskId).trans ?_
          rw [under]
          simp
        · rw [others other different]
          refine (projected.flows other).trans ?_
          simp [Function.update_of_ne different]
      · exact fun other answered =>
          projected.answered other ((unheard other).mp answered)
      · intro other unanswered
        obtain ⟨unknown, buffer⟩ :=
          projected.buffered other (mt (unheard other).mpr unanswered)
        rcases eq_or_ne other event.taskId with rfl | different
        · obtain ⟨still, buffered⟩ :=
            applyTaskStatus_unknown state.store unknown
          exact ⟨still, by rw [heard, List.getLast?_concat]; exact buffered⟩
        · obtain ⟨tasks, pending⟩ :=
            applyTaskStatus_of_ne state.store different
          rw [others other different]
          exact ⟨tasks.trans unknown, pending.trans buffer⟩
      · intro other task known
        rcases eq_or_ne other event.taskId with rfl | different
        · rw [heard, shownAfter_concat]
          exact applyTaskStatus_known state.store known
        · rw [others other different]
          exact projected.shown other task
            ((applyTaskStatus_of_ne state.store different).1.symm.trans known)

theorem Projected.step (projected : Projected log state)
    {action : Action Usage}
    (stepped : (machine Usage).step state action = some (next, events)) :
    Projected (log ++ events) next := by
  cases action with
  | service action => exact (projected.serve stepped).1
  | start sessionId thread => exact projected.start stepped
  | answer thread => exact projected.answer stepped
  | fail thread error =>
      simp only [machine, MonitorTasks.step, stepFail] at stepped
      split at stepped
      · cases stepped
      · cases stepped
        refine projected.window ?_ (fun _ _ known => known) rfl
        intro other absent
        rcases eq_or_ne other thread with rfl | different
        · exact KeyedStore.erase_self _ _
        · rwa [KeyedStore.erase_of_ne different]
  | deliver taskId => exact projected.deliver stepped
  | applySnapshot snapshot =>
      cases stepped
      exact projected.store rfl rfl
  | fetchSnapshot response =>
      cases stepped
      cases response <;> exact projected.store rfl rfl
  | selectNetworkInterface sessionId interfaceName =>
      cases stepped
      refine projected.store ?_ ?_ <;>
      · unfold MonitorState.selectNetworkInterface
        split
        · rfl
        · split
          · rfl
          · split <;> rfl
  | stopMonitoring sessionId response =>
      cases stepped
      cases response <;> exact projected.store rfl rfl
  | clearSession sessionId =>
      cases stepped
      refine projected.window (fun _ same => same) ?_ rfl
      intro taskId task known
      unfold MonitorState.clearSession at known
      cases mapped :
          (state.store.sessionTaskMap sessionId).filter (· ≠ "") with
      | none =>
          simp only [mapped] at known
          exact known
      | some cleared =>
          simp only [mapped] at known
          rcases eq_or_ne taskId cleared with rfl | different
          · rw [KeyedStore.erase_self] at known
            cases known
          · rwa [KeyedStore.erase_of_ne different] at known

theorem Projected.of_run {actions : List (Action Usage)}
    (run : (machine Usage).Run initial actions log state) :
    Projected log state :=
  run.invariant initial_projected fun _ _ _ _ _ projected stepped =>
    projected.step stepped

/-! What the window shows of a task over time. -/

/-- How far a task can have come. -/
def courseParts : List (List TaskStatus) :=
  List.inits [.pending, .running, .done] ++
    List.inits [.pending, .running, .failed]

theorem mem_courseParts {path part : List TaskStatus}
    (course : Monitor.Course path) (within : part <+: path) :
    part ∈ courseParts := by
  rw [courseParts, List.mem_append, List.mem_inits, List.mem_inits]
  exact course.imp within.trans within.trans

theorem course_advances {path first second : List TaskStatus}
    (course : Monitor.Course path) (within : second <+: path)
    (earlier : first <+: second) :
    first.getLastD .pending = second.getLastD .pending ∨
      (first.getLastD .pending).rank < (second.getLastD .pending).rank := by
  have all : ∀ first ∈ courseParts, ∀ second ∈ courseParts,
      first <+: second →
        first.getLastD .pending = second.getLastD .pending ∨
          (first.getLastD .pending).rank <
            (second.getLastD .pending).rank := by
    decide
  exact all first (mem_courseParts course (earlier.trans within)) second
    (mem_courseParts course within) earlier

theorem shownAfter_status (events : List TaskStatusEvent) :
    (shownAfter events).1 =
      (events.map fun event => event.status).getLastD .pending := by
  unfold shownAfter
  rw [List.getLastD_eq_getLast?, List.getLast?_map]
  cases events.getLast? <;> rfl

/-- The window shows each task as the last event says that it has heard, with
nothing under way as the last one says that has been told; and from one time to a
later one a task keeps its status or moves on to a higher one. -/
theorem tasks_shown_truly {actions more : List (Action Usage)}
    {before after : State Usage} {task : MonitorTask}
    (run : (machine Usage).Run initial actions log before)
    (later : (machine Usage).Run before more events after)
    (known : after.store.tasks taskId = some task) :
    task.shown = shownAfter (deliveredOf taskId (log ++ events)) ∧
    (after.stream taskId = [] →
      task.shown = shownAfter (toldOf taskId (log ++ events))) ∧
    ∀ earlier, before.store.tasks taskId = some earlier →
      earlier.taskInfo.status = task.taskInfo.status ∨
        earlier.taskInfo.status.rank < task.taskInfo.status.rank := by
  have past := Projected.of_run run
  have projected := Projected.of_run (run.trans later)
  have shown := projected.shown taskId task known
  have flows := projected.flows taskId
  refine ⟨shown, fun nothing => ?_, fun earlier was => ?_⟩
  · rw [nothing, List.append_nil] at flows
    rw [flows]
    exact shown
  · have course := projected.telling.course taskId
    change Monitor.Course ((toldOf taskId (log ++ events)).map _) at course
    rw [flows, List.map_append] at course
    have grows : deliveredOf taskId log <+: deliveredOf taskId (log ++ events) := by
      rw [deliveredOf_append]
      exact List.prefix_append _ _
    have status : ∀ {task : MonitorTask} {events : List TaskStatusEvent},
        task.shown = shownAfter events → task.taskInfo.status =
          (events.map fun event => event.status).getLastD .pending := by
      intro task events same
      rw [← shownAfter_status, ← same]
      rfl
    rw [status (past.shown taskId earlier was), status shown]
    exact course_advances course (List.prefix_append _ _) (grows.map _)

open Monitor in
/-- The first two events come before the answer, the third one after it. -/
def watching : List (Action Unit) :=
  (opening.map .service) ++ [.start "session-1" 1] ++
    ([.advance 1 {}, .advance 1 {}, .advance 1 {},
      .advance 1 { uuid := "task-1" }, .advance 1 {}, .advance 1 {},
      .advance 1 {}].map .service) ++
    [.deliver "task-1", .deliver "task-1", .answer 1]

open Monitor in
def failingLater : List (Action Unit) :=
  ([.advance 1 {},
    .advance 1 { connectError := some ⟨.sshConnectionError, "refused"⟩ },
    .advance 1 {}, .advance 1 {}].map .service) ++ [.deliver "task-1"]

theorem tasks_shown_truly_failed :
    ∃ log before events after task earlier,
      (machine Unit).Run initial watching log before ∧
      (machine Unit).Run before failingLater events after ∧
      before.store.tasks "task-1" = some earlier ∧
      earlier.taskInfo.status = .running ∧
      after.store.tasks "task-1" = some task ∧
      task.shown = shownAfter (toldOf "task-1" (log ++ events)) ∧
      task.taskInfo.status = .failed := by
  have executed : ∃ log before events after task earlier,
      (machine Unit).Run initial watching log before ∧
      (machine Unit).Run before failingLater events after ∧
      before.store.tasks "task-1" = some earlier ∧
      earlier.taskInfo.status = .running ∧
      after.store.tasks "task-1" = some task ∧
      after.stream "task-1" = [] ∧ task.taskInfo.status = .failed :=
    ⟨_, _, _, _, _, _, Machine.run_of_execute rfl, Machine.run_of_execute rfl,
      rfl, rfl, rfl, rfl, rfl⟩
  obtain ⟨log, before, events, after, task, earlier, run, later, was, running,
    known, delivered, failed⟩ := executed
  exact ⟨log, before, events, after, task, earlier, run, later, was, running,
    known, (tasks_shown_truly run later known).2.1 delivered, failed⟩

end MonitorTasks

end TitanSSH
