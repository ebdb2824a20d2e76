import TitanSSH.Stores.TransferProjection

namespace TitanSSH

open Interleaving

namespace TransferQueue

variable {log : List Event} {registry : TaskRegistry}
variable {issued : KeyedStore String String}
variable {stream : List SftpTaskStatusEvent} {calls : List Call}
variable {store : SftpState} {next : Published}
variable {taskId sessionId : String}

/-! One step of the machine, first where the window stands still. -/

structure Converging (log : List Event) (state : State) : Prop where
  backed : Backed log state.registry state.issued state.stream state.calls
  window : Window log state.issued state.stream state.store

theorem Window.still (window : Window log issued stream store)
    {events : List Event} {grown : KeyedStore String String}
    {flowing : List SftpTaskStatusEvent}
    (silent : ∀ event ∈ events, ∀ sessionId taskId,
      shownBy sessionId taskId event = none)
    (undelivered : ∀ taskId, deliveredOf taskId events = [])
    (unmissed : ∀ sessionId taskId, missed sessionId taskId (log ++ events) =
      missed sessionId taskId log)
    (issues : ∀ taskId owner, issued taskId = some owner →
      grown taskId = some owner)
    (emptied : ∀ taskId,
      streamOf taskId flowing = [] → streamOf taskId stream = [])
    (flows : ∀ sessionId taskId,
      Closed log issued stream (store.cached? taskId) sessionId taskId →
        ∀ status ∈ streamOf taskId flowing, status.isTerminal = true) :
    Window (log ++ events) grown flowing store where
  opened := window.opened
  owned := fun event member => issues _ _ (window.owned event member)
  arrived := by
    intro sessionId taskId native
    have arrived := window.arrived sessionId taskId fun owner issued =>
      native owner (issues taskId owner issued)
    exact ⟨arrived.missed.trans (unmissed _ _).symm, arrived.unshown⟩
  lasting := by
    refine List.pairwise_append.mpr ⟨window.lasting, ?_, ?_⟩
    · refine List.pairwise_of_forall_mem_list fun a before b after => ?_
      intro sessionId taskId wasOver
      rw [silent a before] at wasOver
      cases wasOver
    · intro a before b after sessionId taskId wasOver live
      rw [silent b after] at live
      obtain ⟨status, nothing, -⟩ := live
      cases nothing
  sees := by
    intro sessionId taskId
    refine (window.sees sessionId taskId).transport (history_subset _ _ _) ?_
      (finished_append _ _ fun event member => silent event member _ _)
      (issues taskId sessionId) (emptied taskId) (flows sessionId taskId)
    rw [deliveredOf_append, undelivered, List.append_nil]

theorem Window.idle (window : Window log issued stream store)
    {grown : KeyedStore String String}
    (issues : ∀ taskId owner, issued taskId = some owner →
      grown taskId = some owner) :
    Window (log ++ []) grown stream store :=
  window.still nofun (fun _ => rfl) (fun _ _ => by rw [List.append_nil]) issues
    (fun _ => id) fun _ _ closed => closed.streamed

theorem Window.change (window : Window log issued stream store)
    (backed : Backed log registry issued stream calls)
    {task : TransferTask} {event : SftpTaskStatusEvent}
    (found : registry.lookup event.taskId = some task)
    (legal : task.status.legal event.status = true) :
    Window (log ++ [.emitted event]) issued (stream ++ [event]) store := by
  refine window.still ?_ (fun _ => by simp [deliveredOf])
    (fun _ _ => missed_append_emitted _ _ _) (fun _ _ => id) ?_ ?_
  · intro other member sessionId taskId
    obtain rfl := List.mem_singleton.mp member
    rfl
  · intro taskId nothing
    rw [streamOf_append] at nothing
    exact (List.append_eq_nil_iff.mp nothing).1
  · intro sessionId taskId closed status member
    rw [streamOf_append] at member
    cases List.mem_append.mp member with
    | inl before => exact closed.streamed status before
    | inr now =>
        rcases eq_or_ne event.taskId taskId with rfl | different
        · obtain ⟨last, reached, terminal⟩ := closed.reached
          have less := (List.pairwise_append.mp
            (backed.advances found legal)).2.2 last reached event.status
              List.mem_cons_self
          have most := rank_le_two event.status
          rw [rank_of_terminal terminal] at less
          omega
        · rw [streamOf_of_ne different] at now
          cases now

/-! Then where the window takes something over. -/

theorem Window.settle (window : Window log issued stream store)
    (keeps : SftpState.Keeps (.unchanged store) next)
    (turns : ∀ sessionId taskId, ∃ first second,
      Turn log issued stream store next sessionId taskId first second) :
    Window (log ++ next.states.map .published) issued stream next.state :=
  window_of_turns window.lasting (keeps.closed window.opened)
    (fun event member => window.owned event (keeps.pending member)) turns

theorem Window.ownedBy (window : Window log issued stream store)
    (issues : issued taskId = some sessionId) :
    SftpState.Owned sessionId taskId (.unchanged store) := by
  intro event member same
  have known := window.owned event member
  rw [same, issues] at known
  exact (Option.some.inj known).symm

theorem Window.foreignTo (window : Window log issued stream store)
    (foreign : issued taskId ≠ some sessionId) :
    SftpState.Foreign sessionId taskId (.unchanged store) := by
  intro event member same own
  have known := window.owned event member
  rw [same, own] at known
  exact foreign known

theorem Window.uncached (window : Window log issued stream store)
    (issues : issued taskId = some sessionId)
    (known : store.status? sessionId taskId ≠ none) :
    store.cached? taskId = none := by
  cases found : store.cached? taskId with
  | none => rfl
  | some event =>
      obtain ⟨member, same⟩ := SftpState.cached?_some found
      exact absurd ((window.sees sessionId taskId).waiting event found
        (window.ownedBy issues event member same)).2 known

theorem Window.unmissed (window : Window log issued stream store)
    (nobody : issued taskId = none) : missed sessionId taskId log = false := by
  have arrived := window.arrived sessionId taskId (by simp [Native, nobody])
  rw [← arrived.missed]
  cases found : store.cached? taskId with
  | none => rfl
  | some event =>
      obtain ⟨member, same⟩ := SftpState.cached?_some found
      have known := window.owned event member
      rw [same, nobody] at known
      cases known

theorem Window.quiet (window : Window log issued stream store)
    (passes : ∀ sessionId taskId, SftpState.Passes sessionId taskId
      (store.status? sessionId taskId) (store.status? sessionId taskId)
      (.unchanged store) next)
    (closed : next.state.closedSessions = store.closedSessions)
    (pending : next.state.pendingTaskEvents = store.pendingTaskEvents) :
    Window (log ++ next.states.map .published) issued stream next.state := by
  refine window.settle ⟨fun opened => closed.trans opened, ?_⟩ ?_
  · exact fun event member => pending ▸ member
  · intro sessionId taskId
    refine ⟨_, _, .kept (window.arrived sessionId taskId)
      (window.sees sessionId taskId) (passes _ _) ?_⟩
    unfold SftpState.cached?
    rw [pending]

theorem Window.update (window : Window log issued stream store)
    {update : SftpSessionState → SftpSessionState}
    (kept : ∀ session, (update session).tasks = session.tasks)
    (sessionId : String) :
    let next := (Published.unchanged store).set fun state =>
      state.updateSession sessionId update
    Window (log ++ next.states.map .published) issued stream next.state :=
  window.quiet (fun _ _ => .set (SftpState.status?_updateSession kept)) rfl rfl

theorem Window.startError (window : Window log issued stream store)
    (sessionId : String) (parentTaskId : Option String) (error : AppErrorInfo) :
    let next := SftpState.enqueueFailed sessionId parentTaskId error
      (.unchanged store)
    Window (log ++ next.states.map .published) issued stream next.state := by
  refine window.update (fun session => ?_) sessionId
  cases SftpState.given parentTaskId <;> rfl

theorem Window.progress (window : Window log issued stream store)
    (event : SftpProgressEvent) :
    let next := SftpState.applyProgress event (.unchanged store)
    Window (log ++ next.states.map .published) issued stream next.state := by
  intro next
  unfold next SftpState.applyProgress
  split
  · exact window.quiet (fun _ _ => .refl rfl) rfl rfl
  · next task known =>
      split
      · exact window.quiet (fun _ _ => .refl rfl) rfl rfl
      · exact window.quiet
          (fun _ _ => .set (SftpState.status?_showProgress known)) rfl rfl

theorem Window.clear (window : Window log issued stream store)
    (sessionId : String) :
    let next := SftpState.terminalTasksCleared sessionId (.unchanged store)
    Window (log ++ next.states.map .published) issued stream next.state := by
  intro next
  refine window.settle ⟨id, fun _ => id⟩ ?_
  intro owner taskId
  rcases eq_or_ne owner sessionId with rfl | different
  · refine ⟨_, _, .dropped (window.arrived owner taskId)
      (window.sees owner taskId) ?_ ?_ (.set SftpState.status?_dropFinished) rfl⟩
    · intro status remaining
      exact (Option.filter_eq_some_iff.mp remaining).1
    · change ended ((store.status? owner taskId).filter
        fun status => !status.isTerminal) = false
      cases store.status? owner taskId with
      | none => rfl
      | some status => cases status <;> rfl
  · exact ⟨_, _, .kept (window.arrived owner taskId)
      (window.sees owner taskId) (.set (SftpState.status?_other different)) rfl⟩

theorem Window.enqueue (window : Window log issued stream store)
    (backed : Backed log registry issued stream calls)
    {parentTaskId : Option String} {task : TransferTask}
    (asked : .enqueued parentTaskId task ∈ calls)
    (fitting : fits log ⟨registry, issued, stream, calls, store⟩ task.sessionId
      task.taskId task.status = true) :
    let next := SftpState.enqueued task.sessionId parentTaskId task
      (.unchanged store)
    Window (log ++ next.states.map .published) issued stream next.state := by
  intro next
  have keeps : SftpState.Keeps (.unchanged store) next :=
    SftpState.enqueued_keeps _ _ _ _
  obtain ⟨issues, pending⟩ := backed.enqueued _ _ asked
  refine window.settle keeps fun owner taskId => ?_
  have sees := window.sees owner taskId
  rcases eq_or_ne taskId task.taskId with rfl | different
  · rcases eq_or_ne owner task.sessionId with rfl | elsewhere
    · have owned := window.ownedBy issues
      obtain ⟨passes, uncached⟩ := @SftpState.enqueued_own task.sessionId
        (.unchanged store) parentTaskId task window.opened owned
      have arrived := window.arrived task.sessionId task.taskId
        fun owner known => Option.some.inj (known.symm.trans issues)
      refine ⟨_, _, .enter backed arrived sees owned issues ?_ fitting passes
        uncached⟩
      rw [pending]
      exact List.mem_cons_self
    · have foreign : issued task.taskId ≠ some owner := by
        rw [issues]
        exact fun same => elsewhere (Option.some.inj same).symm
      refine ⟨_, _, .foreign sees foreign window.unmissed ?_ ?_⟩
      · exact fun event member => window.owned event (keeps.pending member)
      · exact SftpState.enqueued_foreign (window.foreignTo foreign)
          fun _ => elsewhere
  · obtain ⟨passes, cached⟩ := @SftpState.enqueued_other owner taskId
      (.unchanged store) task.sessionId parentTaskId task different
    exact ⟨_, _, .kept (window.arrived owner taskId) sees passes cached⟩

theorem merge_cases (startedAt : ℤ) (snapshot : List TransferTask)
    (tasks : KeyedStore String TransferTask) (taskId : String) :
    (∃ task, tasks taskId = some task ∧ startedAt ≤ task.createdAt ∧
      SftpState.merge startedAt snapshot tasks taskId = some task) ∨
    (¬ (tasks taskId).any fun task => decide (startedAt ≤ task.createdAt)) ∧
      ((SftpState.merge startedAt snapshot tasks taskId = none) ∨
      ∃ task ∈ snapshot, task.taskId = taskId ∧
        SftpState.merge startedAt snapshot tasks taskId = some task) := by
  have found : snapshot.reverse.find? (fun other => other.taskId == taskId) =
      none ∨ ∃ task ∈ snapshot, task.taskId = taskId ∧
        snapshot.reverse.find? (fun other => other.taskId == taskId) =
          some task := by
    cases entry : snapshot.reverse.find?
        fun other => other.taskId == taskId with
    | none => exact .inl rfl
    | some task =>
        refine .inr ⟨task, ?_, ?_, rfl⟩
        · exact List.mem_reverse.mp (List.mem_of_find?_eq_some entry)
        · simpa using List.find?_some entry
  unfold SftpState.merge
  cases known : tasks taskId with
  | none => exact .inr ⟨by simp, found⟩
  | some task =>
      by_cases newer : startedAt ≤ task.createdAt
      · exact .inl ⟨task, rfl, newer, if_pos newer⟩
      · refine .inr ⟨by simpa using newer, ?_⟩
        simp only [if_neg newer]
        exact found

theorem Window.load_own (window : Window log issued stream store)
    (backed : Backed log registry issued stream calls) {startedAt : ℤ}
    {tasks : List TransferTask}
    (asked : .collected sessionId startedAt tasks ∈ calls)
    (fitting : ∀ task ∈ tasks,
      isProtected ⟨registry, issued, stream, calls, store⟩ sessionId startedAt
          task.taskId = true ∨
        fits log ⟨registry, issued, stream, calls, store⟩ sessionId task.taskId
          task.status = true)
    (issues : issued taskId = some sessionId) :
    ∃ first second, Turn log issued stream store
      (SftpState.loadTaskSnapshot sessionId startedAt tasks (.unchanged store))
      sessionId taskId first second := by
  have owned := window.ownedBy issues
  have sees := window.sees sessionId taskId
  have arrived := window.arrived sessionId taskId
    fun owner known => Option.some.inj (known.symm.trans issues)
  obtain ⟨passes, cached⟩ := @SftpState.loadTaskSnapshot_own sessionId taskId
    (.unchanged store) startedAt tasks window.opened owned
  change SftpState.Passes _ _ _ (SftpState.settled _ (store.cached? taskId)) _ _
    at passes
  change _ = if _ then none else store.cached? taskId at cached
  rcases merge_cases startedAt tasks (fun other => store.task? sessionId other)
      taskId with
    ⟨task, known, newer, merged⟩ | ⟨older, gone | ⟨task, member, rfl, merged⟩⟩
  · have shown : SftpState.mergedStatus startedAt tasks
        (Published.unchanged store).state sessionId taskId =
          store.status? sessionId taskId := by
      refine (congrArg (Option.map _) merged).trans ?_
      simp [SftpState.status?, known]
    have uncached : store.cached? taskId = none :=
      window.uncached issues (by simp [SftpState.status?, known])
    rw [shown, uncached] at passes cached
    rw [ite_self] at cached
    refine ⟨_, _, .kept (fun _ => arrived) sees ?_
      (cached.trans uncached.symm)⟩
    simpa [SftpState.settled] using passes
  · have shown : SftpState.mergedStatus startedAt tasks
        (Published.unchanged store).state sessionId taskId = none :=
      congrArg (Option.map _) gone
    rw [shown] at passes cached
    exact ⟨none, none, .dropped (fun _ => arrived) sees (by rintro _ ⟨⟩) rfl
      passes cached⟩
  · have shown : SftpState.mergedStatus startedAt tasks
        (Published.unchanged store).state sessionId task.taskId =
          some task.status := congrArg (Option.map _) merged
    rw [shown] at passes cached
    have fit := (fitting task member).resolve_left older
    obtain ⟨-, reached⟩ := backed.collected _ _ _ asked task member
    exact ⟨_, _, .enter backed arrived sees owned issues reached fit passes
      cached⟩

theorem Window.load (window : Window log issued stream store)
    (backed : Backed log registry issued stream calls) {startedAt : ℤ}
    {tasks : List TransferTask}
    (asked : .collected sessionId startedAt tasks ∈ calls)
    (fitting : ∀ task ∈ tasks,
      isProtected ⟨registry, issued, stream, calls, store⟩ sessionId startedAt
          task.taskId = true ∨
        fits log ⟨registry, issued, stream, calls, store⟩ sessionId task.taskId
          task.status = true) :
    let next := SftpState.loadTaskSnapshot sessionId startedAt tasks
      (.unchanged store)
    Window (log ++ next.states.map .published) issued stream next.state := by
  intro next
  have keeps : SftpState.Keeps (.unchanged store) next :=
    SftpState.loadTaskSnapshot_keeps startedAt tasks window.opened sessionId
  refine window.settle keeps fun owner taskId => ?_
  have sees := window.sees owner taskId
  by_cases issues : issued taskId = some owner
  · rcases eq_or_ne owner sessionId with rfl | different
    · exact window.load_own backed asked fitting issues
    · obtain ⟨passes, cached⟩ := @SftpState.loadTaskSnapshot_other owner taskId
        (.unchanged store) sessionId startedAt tasks window.opened
        (window.ownedBy issues) different
      exact ⟨_, _, .kept (window.arrived owner taskId) sees passes cached⟩
  · refine ⟨_, _, .foreign sees issues window.unmissed ?_ ?_⟩
    · exact fun event member => window.owned event (keeps.pending member)
    · refine SftpState.loadTaskSnapshot_foreign startedAt tasks window.opened
        (window.foreignTo issues) ?_
      intro same
      subst same
      have unknown : store.task? owner taskId = none := by
        simpa [SftpState.status?] using sees.status_none issues
      rcases merge_cases startedAt tasks (fun other => store.task? owner other)
          taskId with
        ⟨task, known, -⟩ | ⟨-, gone | ⟨task, member, rfl, -⟩⟩
      · rw [unknown] at known
        cases known
      · refine (congrArg (Option.map _) gone).trans ?_
        exact (sees.status_none issues).symm
      · exact absurd (backed.collected _ _ _ asked task member).1 issues

/-! Last, where the window hears of a change. -/

theorem Sees.foreign {after : List Event} {flowing : List SftpTaskStatusEvent}
    {shown : Option SftpTaskStatus} {cached : Option SftpTaskStatusEvent}
    (sees : Sees log issued stream sessionId taskId shown cached)
    (foreign : issued taskId ≠ some sessionId)
    (published : finished sessionId taskId after =
      finished sessionId taskId log)
    (owned : ∀ event, cached = some event →
      issued taskId = some event.sessionId) :
    Sees after issued flowing sessionId taskId shown cached := by
  have unknown := sees.status_none foreign
  subst unknown
  refine ⟨nofun, ?_, ?_, ?_⟩
  · intro event found own
    exact absurd (own ▸ owned event found) foreign
  · intro either
    cases either with
    | inl before =>
        rw [published] at before
        exact absurd (sees.closed (.inl before)).owned foreign
    | inr now => cases now
  · rw [published]
    exact sees.unrevived

theorem latest_delivered (log : List Event) (event : SftpTaskStatusEvent) :
    latest (deliveredOf event.taskId (log ++ [.delivered event])) =
      event.status := by
  rw [deliveredOf_append, deliveredOf_delivered, streamOf_self]
  simp [latest]

theorem finished_delivered (sessionId taskId : String)
    (event : SftpTaskStatusEvent) :
    finished sessionId taskId (log ++ [.delivered event]) =
      finished sessionId taskId log := by
  refine finished_append sessionId taskId ?_
  intro other member
  obtain rfl := List.mem_singleton.mp member
  rfl

theorem Closed.delivered {flowing : List SftpTaskStatusEvent}
    {held waiting : Option SftpTaskStatusEvent}
    (closed : Closed log issued stream held sessionId taskId)
    (event : SftpTaskStatusEvent)
    (fewer : streamOf taskId flowing ⊆ streamOf taskId stream)
    (terminal : ∀ other, waiting = some other →
      other.status.isTerminal = true) :
    Closed (log ++ [.delivered event]) issued flowing waiting sessionId
      taskId := by
  obtain ⟨status, reached, isOver⟩ := closed.reached
  exact ⟨closed.owned, ⟨status, history_subset _ _ _ reached, isOver⟩,
    fun later member => closed.streamed later (fewer member), terminal⟩

/-- The event comes to the task that it is about before the task is known. -/
theorem Turn.hear_unknown {event : SftpTaskStatusEvent}
    {flowing : List SftpTaskStatusEvent}
    (window : Window log issued stream store)
    (streamed : event.status ∈ streamOf event.taskId stream)
    (fewer : streamOf event.taskId flowing ⊆ streamOf event.taskId stream)
    (unknown : store.status? event.sessionId event.taskId = none) :
    Turn (log ++ [.delivered event]) issued flowing store
      (SftpState.applyTaskStatus event (.unchanged store)) event.sessionId
      event.taskId none none := by
  have sees := window.sees event.sessionId event.taskId
  have published := @finished_delivered log event.sessionId event.taskId event
  obtain ⟨passes, cached⟩ :=
    @SftpState.applyTaskStatus_own (.unchanged store) event window.opened
  change SftpState.Passes _ _ (store.status? event.sessionId event.taskId)
    ((store.status? event.sessionId event.taskId).map _) _ _ at passes
  change _ = if (store.status? event.sessionId event.taskId).isSome then
    store.cached? event.taskId else some event at cached
  rw [unknown] at passes cached sees
  refine ⟨passes, fun _ => not_live_none, nofun, nofun, ?_, fun _ => ?_⟩
  rotate_left
  · rw [cached, passes.final]
    refine ⟨?_, fun _ => rfl⟩
    rw [missed_append_published, missed_append_delivered, beq_self_eq_true,
      Bool.or_true, Bool.true_and]
    refine (List.all_eq_true.mpr fun state member => ?_).symm
    exact Option.isNone_iff_eq_none.mpr ((passes_mem passes member).elim id id)
  rw [cached]
  refine ⟨nofun, ?_, ?_, fun _ => not_live_none⟩
  · intro other found own
    obtain rfl := Option.some.inj found
    exact ⟨(latest_delivered log event).symm, rfl⟩
  · intro either
    cases either with
    | inl before =>
        rw [published] at before
        have known := sees.closed (.inl before)
        refine known.delivered event fewer ?_
        intro other found
        obtain rfl := Option.some.inj found
        exact known.streamed _ streamed
    | inr now => cases now

/-- The event comes to the task that it is about, and is shown. -/
theorem Turn.hear_known {event : SftpTaskStatusEvent}
    {flowing : List SftpTaskStatusEvent} {status : SftpTaskStatus}
    (window : Window log issued stream store)
    (backed : Backed (log ++ [.delivered event]) registry issued flowing calls)
    (issues : issued event.taskId = some event.sessionId)
    (streamed : event.status ∈ streamOf event.taskId stream)
    (fewer : streamOf event.taskId flowing ⊆ streamOf event.taskId stream)
    (shown : store.status? event.sessionId event.taskId = some status) :
    Turn (log ++ [.delivered event]) issued flowing store
      (SftpState.applyTaskStatus event (.unchanged store)) event.sessionId
      event.taskId (some status) (some event.status) := by
  have sees := window.sees event.sessionId event.taskId
  have published := @finished_delivered log event.sessionId event.taskId event
  obtain ⟨passes, cached⟩ :=
    @SftpState.applyTaskStatus_own (.unchanged store) event window.opened
  change SftpState.Passes _ _ (store.status? event.sessionId event.taskId)
    ((store.status? event.sessionId event.taskId).map _) _ _ at passes
  change _ = if (store.status? event.sessionId event.taskId).isSome then
    store.cached? event.taskId else some event at cached
  have uncached := window.uncached issues (by simp [shown])
  rw [shown] at passes cached sees
  rw [uncached] at cached sees
  have latest := latest_delivered log event
  have reached := latest_delivered_mem backed event.taskId
  rw [latest] at reached
  have ended : finished event.sessionId event.taskId log = true →
      ¬ Live (some event.status) := by
    intro before
    exact not_live_of_ended
      ((sees.closed (.inl before)).streamed _ streamed)
  refine ⟨passes, ?_, ?_, ?_, ?_, fun _ => arrived_of_shown passes cached
    fun _ => SftpState.applyTaskStatus_states window.opened⟩
  · rw [published]
    exact sees.unrevived
  · intro wasOver
    exact not_live_of_ended
      ((sees.closed (.inr wasOver)).streamed _ streamed)
  · rw [cached]
    exact fun wasOver => (sees.closed (.inr wasOver)).delivered event fewer nofun
  · rw [cached]
    refine ⟨?_, nofun, ?_, published ▸ ended⟩
    · intro other same
      obtain rfl : event.status = other := Option.some.inj same
      exact ⟨issues, reached, fun _ => latest ▸ Nat.le_refl _⟩
    · intro either
      cases either with
      | inl before =>
          rw [published] at before
          exact (sees.closed (.inl before)).delivered event fewer nofun
      | inr now =>
          have isOver : event.status.isTerminal = true := now
          refine ⟨issues, ⟨_, reached, isOver⟩, ?_, nofun⟩
          rw [streamOf_of_delivered backed (latest.symm ▸ isOver)]
          exact nofun

theorem streamOf_eraseP {event : SftpTaskStatusEvent}
    (heard : stream.find? (fun event => event.taskId == taskId) = some event) :
    streamOf taskId stream = event.status ::
      streamOf taskId (stream.eraseP fun event => event.taskId == taskId) ∧
    ∀ other, other ≠ taskId →
      streamOf other (stream.eraseP fun event => event.taskId == taskId) =
        streamOf other stream := by
  obtain ⟨before, after, split, erased, rfl, nothing⟩ := next_split heard
  have first : ∀ other, streamOf other (event :: after) =
      streamOf other [event] ++ streamOf other after :=
    fun other => streamOf_append other [event] after
  rw [erased, split]
  constructor
  · rw [streamOf_append, streamOf_append, nothing, first, streamOf_self]
    rfl
  · intro other different
    rw [streamOf_append, streamOf_append, first,
      streamOf_of_ne different.symm]
    rfl

theorem Window.turn_of_heard {event : SftpTaskStatusEvent}
    (window : Window log issued stream store)
    (backed : Backed log registry issued stream calls)
    (heard : stream.find? (fun event => event.taskId == taskId) = some event)
    (owned : ∀ other ∈ (SftpState.applyTaskStatus event
        (.unchanged store)).state.pendingTaskEvents,
      issued other.taskId = some other.sessionId)
    (owner other : String) :
    ∃ first second, Turn (log ++ [.delivered event]) issued
      (stream.eraseP fun event => event.taskId == taskId) store
      (SftpState.applyTaskStatus event (.unchanged store)) owner other first
      second := by
  have later := backed.deliver heard
  have issues := backed.streamed event (List.mem_of_find?_eq_some heard)
  obtain rfl : event.taskId = taskId := by simpa using List.find?_some heard
  obtain ⟨first, others⟩ := streamOf_eraseP heard
  have sees := window.sees owner other
  have published := @finished_delivered log owner other event
  rcases eq_or_ne other event.taskId with rfl | different
  · rcases eq_or_ne owner event.sessionId with rfl | elsewhere
    · have streamed : event.status ∈ streamOf event.taskId stream :=
        first ▸ List.mem_cons_self
      have fewer : streamOf event.taskId (stream.eraseP
          fun other => other.taskId == event.taskId) ⊆
          streamOf event.taskId stream := first ▸ List.subset_cons_self _ _
      cases shown : store.status? event.sessionId event.taskId with
      | none => exact ⟨_, _, .hear_unknown window streamed fewer shown⟩
      | some status =>
          exact ⟨_, _, .hear_known window later issues streamed fewer shown⟩
    · have foreign : issued event.taskId ≠ some owner := by
        rw [issues]
        exact fun equal => elsewhere (Option.some.inj equal).symm
      have passes := @SftpState.applyTaskStatus_foreign owner event.taskId
        (.unchanged store) event fun _ => elsewhere.symm
      refine ⟨_, _, .foreign (sees.foreign foreign published ?_) foreign
        (fun nobody => by simp [nobody] at issues) owned passes⟩
      intro cached found
      obtain ⟨member, equal⟩ := SftpState.cached?_some found
      exact equal ▸ window.owned cached member
  · obtain ⟨passes, cached⟩ := @SftpState.applyTaskStatus_other owner other
      (.unchanged store) event different
    have flows := others other different
    refine ⟨_, _, .kept
      (fun native => (window.arrived owner other native).delivered different)
      (sees.transport (history_subset _ _ _) ?_ published id ?_ ?_) passes
      cached⟩
    · rw [deliveredOf_append, deliveredOf_delivered,
        streamOf_of_ne different.symm, List.append_nil]
    · rw [flows]
      exact id
    · rw [flows]
      exact fun closed => closed.streamed

theorem Window.deliver {event : SftpTaskStatusEvent}
    (window : Window log issued stream store)
    (backed : Backed log registry issued stream calls)
    (heard : stream.find? (fun event => event.taskId == taskId) = some event) :
    let next := SftpState.applyTaskStatus event (.unchanged store)
    Window (log ++ [.delivered event] ++ next.states.map .published) issued
      (stream.eraseP fun event => event.taskId == taskId) next.state := by
  intro next
  have owned : ∀ other ∈ next.state.pendingTaskEvents,
      issued other.taskId = some other.sessionId := by
    intro other member
    rcases SftpState.mem_applyTaskStatus member with rfl | known
    · exact backed.streamed other (List.mem_of_find?_eq_some heard)
    · exact window.owned other known
  have lasting : (log ++ [Event.delivered event]).Pairwise Lasting := by
    refine List.pairwise_append.mpr ⟨window.lasting, by simp, ?_⟩
    intro earlier before later new owner other wasOver live
    obtain rfl := List.mem_singleton.mp new
    exact not_live_none live
  exact window_of_turns lasting
    ((SftpState.closed_applyTaskStatus _ _).trans window.opened) owned
    (window.turn_of_heard backed heard owned)

/-! The whole machine. -/

theorem converging_initial : Converging [] initial where
  backed :=
    { ordered := fun _ => List.pairwise_singleton _ _
      flows := fun _ => rfl
      registered := fun taskId task found => by
        cases found
      streamed := nofun
      unissued := fun _ _ => rfl
      collected := nofun
      enqueued := nofun }
  window :=
    { opened := rfl
      owned := nofun
      arrived := fun _ _ _ => ⟨rfl, nofun⟩
      lasting := .nil
      sees := by
        intro sessionId taskId
        refine ⟨nofun, nofun, ?_, nofun⟩
        intro either
        cases either with
        | inl before => cases before
        | inr now => cases now }

theorem Converging.publish {state : State} {remaining : List Call}
    (converging : Converging log state) (fewer : remaining ⊆ state.calls)
    (window : Window (log ++ next.states.map .published) state.issued state.stream
      next.state) :
    Converging (log ++ next.states.map .published)
      { state with calls := remaining, store := next.state } :=
  ⟨(converging.backed.answers fewer).published _, window⟩

theorem Converging.respond {state : State} {index : ℕ} {next : State}
    {events : List Event} (converging : Converging log state)
    (permitted : timely log state (.respond index) = true)
    (stepped : stepRespond state index = some (next, events)) :
    Converging (log ++ events) next := by
  have fewer : state.calls.eraseIdx index ⊆ state.calls :=
    List.eraseIdx_subset
  unfold stepRespond at stepped
  simp only [timely] at permitted
  cases found : state.calls[index]? with
  | none => simp [found] at stepped
  | some call =>
      have asked := List.mem_of_getElem? found
      rw [found] at stepped permitted
      cases call with
      | snapshot sessionId startedAt => cases stepped
      | collected sessionId startedAt tasks =>
          obtain ⟨rfl, rfl⟩ := Prod.mk.inj (Option.some.inj stepped)
          refine converging.publish fewer
            (converging.window.load converging.backed asked ?_)
          intro task member
          exact Bool.or_eq_true_iff.mp (List.all_eq_true.mp permitted task member)
      | enqueued parentTaskId task =>
          obtain ⟨rfl, rfl⟩ := Prod.mk.inj (Option.some.inj stepped)
          exact converging.publish fewer
            (converging.window.enqueue converging.backed asked permitted)
      | cleared sessionId =>
          obtain ⟨rfl, rfl⟩ := Prod.mk.inj (Option.some.inj stepped)
          exact converging.publish fewer (converging.window.clear sessionId)

theorem Converging.fail {state : State} {index : ℕ} {error : AppErrorInfo}
    {next : State} {events : List Event} (converging : Converging log state)
    (stepped : stepFail state index error = some (next, events)) :
    Converging (log ++ events) next := by
  have fewer : state.calls.eraseIdx index ⊆ state.calls :=
    List.eraseIdx_subset
  unfold stepFail at stepped
  cases found : state.calls[index]? with
  | none => simp [found] at stepped
  | some call =>
      rw [found] at stepped
      cases call with
      | snapshot sessionId startedAt =>
          obtain ⟨rfl, rfl⟩ := Prod.mk.inj (Option.some.inj stepped)
          refine converging.publish fewer ?_
          apply converging.window.update
          exact fun _ => rfl
      | collected sessionId startedAt tasks =>
          obtain ⟨rfl, rfl⟩ := Prod.mk.inj (Option.some.inj stepped)
          refine converging.publish fewer ?_
          apply converging.window.update
          exact fun _ => rfl
      | enqueued parentTaskId task =>
          obtain ⟨rfl, rfl⟩ := Prod.mk.inj (Option.some.inj stepped)
          exact converging.publish fewer
            (converging.window.startError task.sessionId parentTaskId error)
      | cleared sessionId =>
          obtain ⟨rfl, rfl⟩ := Prod.mk.inj (Option.some.inj stepped)
          refine converging.publish fewer ?_
          apply converging.window.update
          exact fun _ => rfl

theorem Converging.enqueue {state : State} {parentTaskId : Option String}
    {task : TransferTask} {next : State} {events : List Event}
    (converging : Converging log state)
    (stepped : stepEnqueue state parentTaskId task = some (next, events)) :
    Converging (log ++ events) next := by
  unfold stepEnqueue at stepped
  split at stepped
  · next accepted =>
      obtain ⟨pending, fresh⟩ := accepted
      obtain ⟨rfl, rfl⟩ := Prod.mk.inj (Option.some.inj stepped)
      refine ⟨?_, converging.window.idle fun _ _ => issued_insert fresh⟩
      rw [List.append_nil]
      exact converging.backed.enqueue pending fresh
  · cases stepped

theorem Converging.change {state : State} {taskId : String}
    {status : SftpTaskStatus} {error : Option AppErrorInfo} {next : State}
    {events : List Event} (converging : Converging log state)
    (stepped : stepChange state taskId status error = some (next, events)) :
    Converging (log ++ events) next := by
  unfold stepChange at stepped
  split at stepped
  · cases stepped
  · next task found =>
      split at stepped
      · cases stepped
      · next registry accepted =>
          obtain ⟨rfl, rfl⟩ := Prod.mk.inj (Option.some.inj stepped)
          obtain ⟨same, applied⟩ := TaskRegistry.applied accepted
          obtain rfl := Option.some.inj (applied.found.symm.trans found)
          exact ⟨converging.backed.change found rfl accepted,
            converging.window.change converging.backed found applied.isLegal⟩

theorem Converging.collect {state : State} {index : ℕ} {next : State}
    {events : List Event} (converging : Converging log state)
    (stepped : stepCollect state index = some (next, events)) :
    Converging (log ++ events) next := by
  unfold stepCollect at stepped
  split at stepped
  · obtain ⟨rfl, rfl⟩ := Prod.mk.inj (Option.some.inj stepped)
    refine ⟨?_, converging.window.idle fun _ _ => id⟩
    rw [List.append_nil]
    exact converging.backed.collect
  · cases stepped

theorem Converging.deliver {state : State} {taskId : String} {next : State}
    {events : List Event} (converging : Converging log state)
    (stepped : stepDeliver state taskId = some (next, events)) :
    Converging (log ++ events) next := by
  unfold stepDeliver at stepped
  split at stepped
  · cases stepped
  · next event heard =>
      obtain ⟨rfl, rfl⟩ := Prod.mk.inj (Option.some.inj stepped)
      have backed := (converging.backed.deliver heard).published
        (SftpState.applyTaskStatus event (.unchanged state.store)).states
      have window := converging.window.deliver converging.backed heard
      refine ⟨?_, ?_⟩
      · simpa using backed
      · simpa using window

theorem Converging.step {state : State} {action : Action} {next : State}
    {events : List Event} (converging : Converging log state)
    (permitted : timely log state action = true)
    (stepped : machine.step state action = some (next, events)) :
    Converging (log ++ events) next := by
  cases action with
  | enqueue parentTaskId task => exact converging.enqueue stepped
  | change taskId status error => exact converging.change stepped
  | clearTerminal sessionId =>
      obtain ⟨rfl, rfl⟩ := Prod.mk.inj (Option.some.inj stepped)
      refine ⟨?_, converging.window.idle fun _ _ => id⟩
      rw [List.append_nil]
      refine (converging.backed.shrink ?_).ask (.inr ⟨sessionId, rfl⟩)
      exact fun taskId task found => (TaskRegistry.lookup_clearTerminal.mp found).1
  | purge sessionId =>
      obtain ⟨rfl, rfl⟩ := Prod.mk.inj (Option.some.inj stepped)
      refine ⟨?_, converging.window.idle fun _ _ => id⟩
      rw [List.append_nil]
      refine converging.backed.shrink ?_
      exact fun taskId task found => (TaskRegistry.lookup_purge.mp found).1
  | requestSnapshot sessionId startedAt =>
      obtain ⟨rfl, rfl⟩ := Prod.mk.inj (Option.some.inj stepped)
      refine ⟨?_, converging.window.idle fun _ _ => id⟩
      rw [List.append_nil]
      exact converging.backed.ask (.inl ⟨sessionId, startedAt, rfl⟩)
  | collect index => exact converging.collect stepped
  | respond index => exact converging.respond permitted stepped
  | fail index error => exact converging.fail stepped
  | refuseEnqueue sessionId parentTaskId error =>
      obtain ⟨rfl, rfl⟩ := Prod.mk.inj (Option.some.inj stepped)
      exact converging.publish (List.Subset.refl _)
        (converging.window.startError sessionId parentTaskId error)
  | refuseCancel sessionId taskId error =>
      obtain ⟨rfl, rfl⟩ := Prod.mk.inj (Option.some.inj stepped)
      refine converging.publish (List.Subset.refl _) ?_
      apply converging.window.update
      exact fun _ => rfl
  | deliver taskId => exact converging.deliver stepped
  | progress event =>
      obtain ⟨rfl, rfl⟩ := Prod.mk.inj (Option.some.inj stepped)
      exact converging.publish (List.Subset.refl _)
        (converging.window.progress event)
  | clearSession sessionId => cases permitted

theorem Converging.of_run {actions : List Action} {state : State}
    (guarded : machine.RunWhere timely [] initial actions log state) :
    Converging log state := by
  simpa using guarded.invariant Converging converging_initial
    (fun converging => converging.step)

/-- A task that has been shown to be over stays so, and with nothing under way
every task is shown as its last event says. -/
theorem projection_converges {actions : List Action} {state : State}
    (guarded : machine.RunWhere timely [] initial actions log state) :
    log.Pairwise Lasting ∧
    (state.stream = [] → state.calls = [] → ∀ sessionId taskId task,
      state.store.task? sessionId taskId = some task →
        task.status = latest (emittedOf taskId log)) := by
  obtain ⟨backed, window⟩ := Converging.of_run guarded
  refine ⟨window.lasting, fun delivered _ sessionId taskId task known => ?_⟩
  have shown : state.store.status? sessionId taskId = some task.status :=
    congrArg (Option.map _) known
  obtain ⟨-, reached, abreast⟩ :=
    (window.sees sessionId taskId).current task.status shown
  have flows := backed.flows taskId
  rw [delivered] at flows abreast
  have nothing : streamOf taskId [] = [] := rfl
  rw [nothing, List.append_nil] at flows
  refine eq_latest (backed.ordered taskId) reached ?_
  rw [flows]
  exact abreast nothing

def smallDownload : TransferTask :=
  ⟨"t", "s", .download, "/f", "/home/f", "f", 1, 0, 0, .pending, none, 1⟩

/-- The first event comes before the answer, the last one after it. -/
theorem projection_converges_finished :
    ∃ log state,
      machine.RunWhere timely [] initial
        [.enqueue none smallDownload, .change "t" .running none, .deliver "t",
          .respond 0, .change "t" .done none, .deliver "t"] log state ∧
      log.Pairwise Lasting ∧
      ∀ task, state.store.task? "s" "t" = some task → task.status = .done := by
  have executed : ∃ log state,
      machine.RunWhere timely [] initial
        [.enqueue none smallDownload, .change "t" .running none, .deliver "t",
          .respond 0, .change "t" .done none, .deliver "t"] log state ∧
      state.stream = [] ∧ state.calls = [] ∧
      latest (emittedOf "t" log) = .done :=
    ⟨_, _, Machine.runWhere_of_executeWhere rfl, rfl, rfl, rfl⟩
  obtain ⟨log, state, guarded, delivered, answered, isDone⟩ := executed
  obtain ⟨lasting, converges⟩ := projection_converges guarded
  refine ⟨log, state, guarded, lasting, fun task known => ?_⟩
  rw [converges delivered answered "s" "t" task known, isDone]

theorem stepCollect_of {state : State} {startedAt : ℤ}
    {tasks : List TransferTask}
    (asked : state.calls = [.snapshot sessionId startedAt])
    (snapshot : state.registry.snapshot sessionId = tasks) :
    machine.step state (.collect 0) = some ({ state with
      calls := [.collected sessionId startedAt tasks] }, []) := by
  change stepCollect state 0 = _
  simp [stepCollect, asked, snapshot]

/-- A snapshot from before the end of a task comes in after it: the task, long
done, is shown as running for good. -/
theorem stale_snapshot_revives :
    ∃ actions log state, machine.Run initial actions log state ∧
      (∀ sessionId, .clearSession sessionId ∉ actions) ∧
      state.stream = [] ∧ state.calls = [] ∧
      emittedOf "t" log = [.running, .done] ∧
      state.store.status? "s" "t" = some .running ∧
      ¬ log.Pairwise Lasting := by
  have alone : ∀ other, other ≠ "t" →
      ((FiniteMap.empty.insert "t" smallDownload).insert "t"
        { smallDownload with status := .running }).lookup other = none := by
    intro other different
    rw [FiniteMap.lookup_insert_of_ne _ _ different,
      FiniteMap.lookup_insert_of_ne _ _ different]
    rfl
  have collected := @TaskRegistry.snapshot_eq_singleton _ "s" "t" _ rfl rfl alone
  refine ⟨[.enqueue none smallDownload, .respond 0, .change "t" .running none,
      .deliver "t", .requestSnapshot "s" 2] ++ ([.collect 0] ++
      [.change "t" .done none, .deliver "t", .respond 0]), _, _,
    (Machine.run_of_execute rfl).trans
      ((Machine.Run.single (stepCollect_of rfl collected)).trans
        (Machine.run_of_execute rfl)), by simp, rfl, rfl, rfl, rfl, ?_⟩
  -- The seventh and the eighth entry: shown as done, and as running again.
  intro lasting
  exact List.pairwise_iff_getElem.mp lasting 6 7 (by decide) (by decide)
    (by decide) "s" "t" rfl ⟨.running, rfl, rfl⟩

end TransferQueue

end TitanSSH
