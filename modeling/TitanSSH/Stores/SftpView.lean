import TitanSSH.Stores.Sftp

namespace TitanSSH

namespace SftpState

/-! What each operation shows of one task of a session, on the way and in the
end. -/

def status? (state : SftpState) (sessionId taskId : String) :
    Option SftpTaskStatus :=
  (state.task? sessionId taskId).map fun task => task.status

variable {sessionId taskId : String} {state : SftpState}
variable {published next last : Published} {first second : Option SftpTaskStatus}

/-- From one to the other, the published states show the task first in one way and
then in another, which is how it is shown in the end. -/
structure Passes (sessionId taskId : String)
    (first second : Option SftpTaskStatus) (published next : Published) :
    Prop where
  final : next.state.status? sessionId taskId = second
  moved : next.states = published.states →
    next.state.status? sessionId taskId =
      published.state.status? sessionId taskId
  between : ∃ early late, next.states = published.states ++ (early ++ late) ∧
    (∀ state ∈ early, state.status? sessionId taskId = first) ∧
    ∀ state ∈ late, state.status? sessionId taskId = second

theorem Passes.refl (shown : published.state.status? sessionId taskId = second) :
    Passes sessionId taskId first second published published :=
  ⟨shown, fun _ => rfl, [], [], by simp, nofun, nofun⟩

theorem Passes.set {updater : SftpState → SftpState}
    (shown : (updater published.state).status? sessionId taskId = second) :
    Passes sessionId taskId first second published (published.set updater) :=
  ⟨shown, fun same => by simp [Published.set] at same, [],
    [updater published.state], rfl, nofun,
    fun _ member => List.mem_singleton.mp member ▸ shown⟩

theorem Passes.moved_trans {third fourth : Option SftpTaskStatus}
    (early : Passes sessionId taskId first second published next)
    (late : Passes sessionId taskId third fourth next last)
    (same : last.states = published.states) :
    last.state.status? sessionId taskId =
      published.state.status? sessionId taskId := by
  obtain ⟨before, after, split, -, -⟩ := early.between
  obtain ⟨more, rest, later, -, -⟩ := late.between
  rw [later, split, List.append_assoc, List.append_right_eq_self,
    List.append_eq_nil_iff] at same
  rw [same.2, List.append_nil] at later
  rw [same.1, List.append_nil] at split
  exact (late.moved later).trans (early.moved split)

theorem Passes.stay_then
    (stays : Passes sessionId taskId first first published next)
    (passes : Passes sessionId taskId first second next last) :
    Passes sessionId taskId first second published last := by
  have moved := stays.moved_trans passes
  obtain ⟨-, -, early, late, split, early_first, late_first⟩ := stays
  obtain ⟨final, -, before, after, later, before_first, after_second⟩ := passes
  refine ⟨final, moved, early ++ late ++ before, after, ?_, ?_, after_second⟩
  · rw [later, split]
    simp only [List.append_assoc]
  · intro state member
    cases List.mem_append.mp member with
    | inl initially =>
        cases List.mem_append.mp initially with
        | inl early' => exact early_first state early'
        | inr late' => exact late_first state late'
    | inr inBetween => exact before_first state inBetween

theorem Passes.then_stay
    (passes : Passes sessionId taskId first second published next)
    (stays : Passes sessionId taskId second second next last) :
    Passes sessionId taskId first second published last := by
  have moved := passes.moved_trans stays
  obtain ⟨-, -, early, late, split, early_first, late_second⟩ := passes
  obtain ⟨final, -, before, after, later, before_second, after_second⟩ := stays
  refine ⟨final, moved, early, late ++ (before ++ after), ?_, early_first, ?_⟩
  · rw [later, split]
    simp only [List.append_assoc]
  · intro state member
    cases List.mem_append.mp member with
    | inl passed => exact late_second state passed
    | inr stayed =>
        cases List.mem_append.mp stayed with
        | inl before' => exact before_second state before'
        | inr after' => exact after_second state after'

/-! The single updates. -/

theorem task?_updateSession (state : SftpState) (other : String)
    (update : SftpSessionState → SftpSessionState) :
    (state.updateSession other update).task? sessionId taskId =
      if sessionId = other then
        (update ((state.sessionStates other).getD .empty)).tasks taskId
      else state.task? sessionId taskId := by
  unfold task? updateSession
  split
  · next same =>
      subst same
      simp
  · next different => simp [KeyedStore.insert_of_ne different]

theorem tasks_getD (state : SftpState) (sessionId taskId : String) :
    ((state.sessionStates sessionId).getD .empty).tasks taskId =
      state.task? sessionId taskId := by
  unfold task?
  cases state.sessionStates sessionId with
  | none => rfl
  | some session => rfl

theorem status?_updateSession {other : String}
    {update : SftpSessionState → SftpSessionState}
    (kept : ∀ session, (update session).tasks = session.tasks) :
    (state.updateSession other update).status? sessionId taskId =
      state.status? sessionId taskId := by
  unfold status?
  rw [task?_updateSession]
  split
  · next same =>
      subst same
      rw [kept, tasks_getD]
  · rfl

@[simp] theorem cached?_updateSession (state : SftpState) (other : String)
    (update : SftpSessionState → SftpSessionState) :
    (state.updateSession other update).cached? taskId = state.cached? taskId :=
  rfl

theorem status?_showStatus (state : SftpState) (event : SftpTaskStatusEvent)
    (task : TransferTask) :
    (state.showStatus event task).status? sessionId taskId =
      if sessionId = event.sessionId ∧ taskId = event.taskId then
        some event.status
      else state.status? sessionId taskId := by
  unfold status? showStatus
  rw [task?_updateSession]
  cases eq_or_ne sessionId event.sessionId with
  | inl same =>
      rcases eq_or_ne taskId event.taskId with rfl | other
      · simp [same, withStatus]
      · simp [same, other, KeyedStore.insert_of_ne other, tasks_getD]
  | inr different => simp [different]

@[simp] theorem cached?_showStatus (state : SftpState)
    (event : SftpTaskStatusEvent) (task : TransferTask) :
    (state.showStatus event task).cached? taskId = state.cached? taskId := rfl

@[simp] theorem status?_cache (state : SftpState)
    (event : SftpTaskStatusEvent) :
    (state.cache event).status? sessionId taskId =
      state.status? sessionId taskId := rfl

@[simp] theorem status?_uncache (state : SftpState) (other : String) :
    (state.uncache other).status? sessionId taskId =
      state.status? sessionId taskId := rfl

@[simp] theorem status?_reopen (state : SftpState) (other : String) :
    (state.reopen other).status? sessionId taskId =
      state.status? sessionId taskId := rfl

@[simp] theorem cached?_reopen (state : SftpState) (other : String) :
    (state.reopen other).cached? taskId = state.cached? taskId := rfl

theorem cached?_some {event : SftpTaskStatusEvent}
    (found : state.cached? taskId = some event) :
    event ∈ state.pendingTaskEvents ∧ event.taskId = taskId :=
  ⟨List.mem_of_find?_eq_some found, by simpa using List.find?_some found⟩

theorem cached?_uncache_self (state : SftpState) (taskId : String) :
    (state.uncache taskId).cached? taskId = none := by
  simp [cached?, uncache]

theorem cached?_uncache_of_ne {other : String} (different : taskId ≠ other) :
    (state.uncache other).cached? taskId = state.cached? taskId := by
  unfold cached? uncache
  rw [List.find?_filter]
  congr 1
  funext event
  cases eq_or_ne event.taskId taskId with
  | inl same => simp [same, different]
  | inr elsewhere => simp [elsewhere]

theorem cached?_cache (state : SftpState) (event : SftpTaskStatusEvent) :
    (state.cache event).cached? taskId =
      if taskId = event.taskId then some event else state.cached? taskId := by
  unfold cache
  split
  · next known =>
      have same : (fun other : SftpTaskStatusEvent => other.taskId == taskId) ∘
          (fun old => if old.taskId = event.taskId then event else old) =
            fun other => other.taskId == taskId := by
        funext old
        cases eq_or_ne old.taskId event.taskId with
        | inl own => simp [own]
        | inr other => simp [other]
      have mapped : ((state.pendingTaskEvents.map fun old =>
          if old.taskId = event.taskId then event else old).find?
            fun other => other.taskId == taskId) =
          (state.cached? taskId).map fun old =>
            if old.taskId = event.taskId then event else old := by
        rw [List.find?_map, same]
        rfl
      refine mapped.trans ?_
      rcases eq_or_ne taskId event.taskId with rfl | different
      · obtain ⟨old, found⟩ := Option.isSome_iff_exists.mp known
        simp [found, (cached?_some found).2]
      · cases found : state.cached? taskId with
        | none => simp [different]
        | some old => simp [(cached?_some found).2, different]
  · next unknown =>
      have appended : ((state.pendingTaskEvents ++ [event]).find?
          fun other => other.taskId == taskId) =
          (state.cached? taskId).or
            ([event].find? fun other => other.taskId == taskId) :=
        List.find?_append
      refine appended.trans ?_
      rcases eq_or_ne taskId event.taskId with rfl | different
      · simp [Option.not_isSome_iff_eq_none.mp unknown]
      · simp [different, different.symm]

theorem mem_cache {event other : SftpTaskStatusEvent}
    (member : other ∈ (state.cache event).pendingTaskEvents) :
    other = event ∨ other ∈ state.pendingTaskEvents := by
  unfold cache at member
  split at member
  · obtain ⟨old, known, replaced⟩ := List.mem_map.mp member
    split at replaced
    · exact .inl replaced.symm
    · exact .inr (replaced ▸ known)
  · cases List.mem_append.mp member with
    | inl known => exact .inr known
    | inr new => exact .inl (List.mem_singleton.mp new)

/-! A directory that is listed again once an upload is over changes no task. -/

theorem refreshTarget_cases (event : SftpTaskStatusEvent) (task : TransferTask)
    (currentPath : String) (published : Published) :
    refreshTarget event task currentPath published = published ∨
      refreshTarget event task currentPath published =
        listDir event.sessionId (uploadTargetDir task.remotePath task.fileName)
          published := by
  unfold refreshTarget
  split
  · dsimp only
    split
    · exact .inr rfl
    · exact .inl rfl
  · exact .inl rfl

theorem status?_listDir (other path : String) (published : Published) :
    (listDir other path published).state.status? sessionId taskId =
      published.state.status? sessionId taskId := by
  rw [state_listDir]
  exact status?_updateSession fun _ => rfl

theorem Passes.refresh {event : SftpTaskStatusEvent} {task : TransferTask}
    {currentPath : String}
    (passes : Passes sessionId taskId first second published next) :
    Passes sessionId taskId first second published
      (refreshTarget event task currentPath next) := by
  cases refreshTarget_cases event task currentPath next with
  | inl same =>
      rw [same]
      exact passes
  | inr lists =>
      rw [lists]
      have kept := @status?_listDir sessionId taskId event.sessionId
        (uploadTargetDir task.remotePath task.fileName) next
      have shown := kept.trans passes.final
      refine passes.then_stay ⟨shown, fun _ => kept, [], [_], rfl, nofun, ?_⟩
      intro state member
      rw [List.mem_singleton.mp member]
      exact shown

theorem refreshTarget_cache (event : SftpTaskStatusEvent) (task : TransferTask)
    (currentPath : String) (published : Published) :
    (refreshTarget event task currentPath published).state.pendingTaskEvents =
      published.state.pendingTaskEvents := by
  cases refreshTarget_cases event task currentPath published with
  | inl same => rw [same]
  | inr lists =>
      rw [lists]
      rfl

theorem refreshTarget_closed (event : SftpTaskStatusEvent) (task : TransferTask)
    (currentPath : String) (published : Published) :
    (refreshTarget event task currentPath published).state.closedSessions =
      published.state.closedSessions := by
  cases refreshTarget_cases event task currentPath published with
  | inl same => rw [same]
  | inr lists =>
      rw [lists]
      rfl

@[simp] theorem cached?_refreshTarget (event : SftpTaskStatusEvent)
    (task : TransferTask) (currentPath : String) (published : Published) :
    (refreshTarget event task currentPath published).state.cached? taskId =
      published.state.cached? taskId := by
  unfold cached?
  rw [refreshTarget_cache]

/-! The operations on the cache, as long as no session has been closed. -/

/-- What the buffered events may do: none is added, and no session is closed. -/
structure Keeps (published next : Published) : Prop where
  closed : published.state.closedSessions = ∅ → next.state.closedSessions = ∅
  pending : next.state.pendingTaskEvents ⊆ published.state.pendingTaskEvents

theorem Keeps.refl (published : Published) : Keeps published published :=
  ⟨id, fun _ member => member⟩

theorem Keeps.trans (early : Keeps published next) (late : Keeps next last) :
    Keeps published last :=
  ⟨late.closed ∘ early.closed, fun _ member => early.pending (late.pending member)⟩

theorem status?_none {event : SftpTaskStatusEvent}
    (unknown : published.state.task? event.sessionId event.taskId = none) :
    published.state.status? event.sessionId event.taskId = none := by
  simp [status?, unknown]

/-- An event of the task is shown if the task is known, and cached otherwise. -/
theorem applyTaskStatus_own {event : SftpTaskStatusEvent}
    (opened : published.state.closedSessions = ∅) :
    let shown := published.state.status? event.sessionId event.taskId
    Passes event.sessionId event.taskId shown (shown.map fun _ => event.status)
      published (applyTaskStatus event published) ∧
    (applyTaskStatus event published).state.cached? event.taskId =
      if shown.isSome then published.state.cached? event.taskId else some event := by
  intro shown
  unfold applyTaskStatus
  rw [if_neg (by simp [opened])]
  split
  · next unknown =>
      have nothing : shown = none := status?_none unknown
      rw [nothing]
      refine ⟨.set ?_, ?_⟩
      · exact (status?_cache published.state event).trans nothing
      · exact (cached?_cache published.state event).trans (by simp)
  · next task known =>
      have something : shown = some task.status := by
        simp [shown, status?, known]
      rw [something]
      refine ⟨Passes.refresh (.set ?_), cached?_refreshTarget _ _ _ _⟩
      simp [status?_showStatus]

theorem applyTaskStatus_states {event : SftpTaskStatusEvent}
    (opened : published.state.closedSessions = ∅) :
    (applyTaskStatus event published).states ≠ published.states := by
  unfold applyTaskStatus
  rw [if_neg (by simp [opened])]
  split
  · simp [Published.set]
  · next task known =>
      rcases refreshTarget_cases event task
          (published.state.sessionState event.sessionId).currentPath
          (published.set fun state => state.showStatus event task) with
        same | lists
      · rw [same]
        simp [Published.set]
      · rw [lists]
        simp [listDir, startDirRequest, Published.set, Published.invoke]

theorem applyTaskStatus_other {event : SftpTaskStatusEvent}
    (different : taskId ≠ event.taskId) :
    Passes sessionId taskId (published.state.status? sessionId taskId)
      (published.state.status? sessionId taskId) published
      (applyTaskStatus event published) ∧
    (applyTaskStatus event published).state.cached? taskId =
      published.state.cached? taskId := by
  unfold applyTaskStatus
  split
  · exact ⟨.refl rfl, rfl⟩
  · split
    · exact ⟨.set (status?_cache published.state event),
        (cached?_cache published.state event).trans (if_neg different)⟩
    · refine ⟨Passes.refresh (.set ?_), cached?_refreshTarget _ _ _ _⟩
      simp [status?_showStatus, different]

theorem mem_applyTaskStatus {event other : SftpTaskStatusEvent}
    (member : other ∈ (applyTaskStatus event published).state.pendingTaskEvents) :
    other = event ∨ other ∈ published.state.pendingTaskEvents := by
  unfold applyTaskStatus at member
  split at member
  · exact .inr member
  · split at member
    · exact mem_cache member
    · rw [refreshTarget_cache] at member
      exact .inr member

theorem closed_applyTaskStatus (event : SftpTaskStatusEvent)
    (published : Published) :
    (applyTaskStatus event published).state.closedSessions =
      published.state.closedSessions := by
  unfold applyTaskStatus
  split
  · rfl
  · split
    · rfl
    · exact refreshTarget_closed _ _ _ _

theorem applyBufferedTaskStatus_keeps (other : String) (published : Published) :
    Keeps published (applyBufferedTaskStatus other published) := by
  unfold applyBufferedTaskStatus
  split
  · exact .refl published
  · next event found =>
      refine ⟨fun opened => ?_, fun old member => ?_⟩
      · exact (closed_applyTaskStatus _ _).trans opened
      · rcases mem_applyTaskStatus member with rfl | kept
        · exact (cached?_some found).1
        · exact List.mem_of_mem_filter kept

theorem applyBufferedTaskStatus_other {other : String}
    (different : taskId ≠ other) :
    Passes sessionId taskId (published.state.status? sessionId taskId)
      (published.state.status? sessionId taskId) published
      (applyBufferedTaskStatus other published) ∧
    (applyBufferedTaskStatus other published).state.cached? taskId =
      published.state.cached? taskId := by
  unfold applyBufferedTaskStatus
  split
  · exact ⟨.refl rfl, rfl⟩
  · next event found =>
      obtain ⟨-, rfl⟩ := cached?_some found
      obtain ⟨passes, cached⟩ := @applyTaskStatus_other sessionId taskId
        (published.set fun state => state.uncache event.taskId) event different
      exact ⟨Passes.stay_then (.set rfl) passes,
        cached.trans (cached?_uncache_of_ne different)⟩

/-- The cached events of the task are of the session. -/
def Owned (sessionId taskId : String) (published : Published) : Prop :=
  ∀ event ∈ published.state.pendingTaskEvents, event.taskId = taskId →
    event.sessionId = sessionId

theorem Owned.keeps (owned : Owned sessionId taskId published)
    (keeps : Keeps published next) : Owned sessionId taskId next :=
  fun event member => owned event (keeps.pending member)

/-- How a task is shown once its cached event has been applied. -/
def settled (shown : Option SftpTaskStatus)
    (cached : Option SftpTaskStatusEvent) : Option SftpTaskStatus :=
  shown.map fun status => (cached.map fun event => event.status).getD status

theorem applyBufferedTaskStatus_own (opened : published.state.closedSessions = ∅)
    (owned : Owned sessionId taskId published) :
    Passes sessionId taskId (published.state.status? sessionId taskId)
      (settled (published.state.status? sessionId taskId)
        (published.state.cached? taskId)) published
      (applyBufferedTaskStatus taskId published) ∧
    (applyBufferedTaskStatus taskId published).state.cached? taskId =
      if (published.state.status? sessionId taskId).isSome then none
      else published.state.cached? taskId := by
  unfold applyBufferedTaskStatus
  split
  · next missing =>
      rw [missing, ite_self]
      refine ⟨.refl ?_, rfl⟩
      simp [settled]
  · next event found =>
      obtain ⟨member, rfl⟩ := cached?_some found
      obtain rfl := owned event member rfl
      obtain ⟨passes, cached⟩ := @applyTaskStatus_own
        (published.set fun state => state.uncache event.taskId) event opened
      have gone : (published.set fun state =>
          state.uncache event.taskId).state.cached? event.taskId = none :=
        cached?_uncache_self _ _
      rw [gone] at cached
      rw [found]
      exact ⟨Passes.stay_then (.set rfl) passes, cached⟩

/-! All cached events of a list are applied. -/

def applyEach (events : List SftpTaskStatusEvent) (published : Published) :
    Published :=
  events.foldl
    (fun published event => applyBufferedTaskStatus event.taskId published)
    published

theorem applyEach_keeps (events : List SftpTaskStatusEvent)
    (published : Published) : Keeps published (applyEach events published) := by
  induction events generalizing published with
  | nil => exact .refl published
  | cons event rest induction =>
      exact (applyBufferedTaskStatus_keeps event.taskId published).trans
        (induction _)

theorem applyEach_settled {events : List SftpTaskStatusEvent}
    (opened : published.state.closedSessions = ∅)
    (owned : Owned sessionId taskId published)
    (settles : published.state.status? sessionId taskId = none ∨
      published.state.cached? taskId = none) :
    Passes sessionId taskId (published.state.status? sessionId taskId)
      (published.state.status? sessionId taskId) published
      (applyEach events published) ∧
    (applyEach events published).state.cached? taskId =
      published.state.cached? taskId := by
  induction events generalizing published with
  | nil => exact ⟨.refl rfl, rfl⟩
  | cons event rest induction =>
      have keeps := applyBufferedTaskStatus_keeps event.taskId published
      have still : Passes sessionId taskId
          (published.state.status? sessionId taskId)
          (published.state.status? sessionId taskId) published
          (applyBufferedTaskStatus event.taskId published) ∧
          (applyBufferedTaskStatus event.taskId published).state.cached? taskId =
            published.state.cached? taskId := by
        rcases eq_or_ne taskId event.taskId with rfl | different
        · obtain ⟨passes, cached⟩ := applyBufferedTaskStatus_own opened owned
          cases settles with
          | inl unknown =>
              rw [unknown] at passes cached ⊢
              exact ⟨passes, cached⟩
          | inr missing =>
              rw [missing] at passes cached ⊢
              rw [ite_self] at cached
              simpa [settled] using And.intro passes cached
        · exact applyBufferedTaskStatus_other different
      obtain ⟨passes, cached⟩ := still
      have later := @induction (applyBufferedTaskStatus event.taskId published)
        (keeps.closed opened) (owned.keeps keeps)
        (by rw [passes.final, cached]; exact settles)
      rw [passes.final, cached] at later
      exact ⟨passes.stay_then later.1, later.2⟩

theorem applyEach_other {events : List SftpTaskStatusEvent}
    (absent : ∀ event ∈ events, event.taskId ≠ taskId) :
    Passes sessionId taskId (published.state.status? sessionId taskId)
      (published.state.status? sessionId taskId) published
      (applyEach events published) ∧
    (applyEach events published).state.cached? taskId =
      published.state.cached? taskId := by
  induction events generalizing published with
  | nil => exact ⟨.refl rfl, rfl⟩
  | cons event rest induction =>
      obtain ⟨passes, cached⟩ := @applyBufferedTaskStatus_other sessionId taskId
        published event.taskId (absent event List.mem_cons_self).symm
      have later := @induction (applyBufferedTaskStatus event.taskId published)
        fun other member => absent other (List.mem_cons_of_mem _ member)
      rw [passes.final, cached] at later
      exact ⟨passes.stay_then later.1, later.2⟩

theorem applyEach_own {events : List SftpTaskStatusEvent}
    (opened : published.state.closedSessions = ∅)
    (owned : Owned sessionId taskId published)
    (present : ∃ event ∈ events, event.taskId = taskId) :
    Passes sessionId taskId (published.state.status? sessionId taskId)
      (settled (published.state.status? sessionId taskId)
        (published.state.cached? taskId)) published (applyEach events published) ∧
    (applyEach events published).state.cached? taskId =
      if (published.state.status? sessionId taskId).isSome then none
      else published.state.cached? taskId := by
  induction events generalizing published with
  | nil =>
      obtain ⟨event, member, -⟩ := present
      cases member
  | cons event rest induction =>
      have keeps := applyBufferedTaskStatus_keeps event.taskId published
      rcases eq_or_ne taskId event.taskId with rfl | different
      · obtain ⟨passes, cached⟩ := applyBufferedTaskStatus_own opened owned
        have later := @applyEach_settled sessionId event.taskId
          (applyBufferedTaskStatus event.taskId published) rest
          (keeps.closed opened) (owned.keeps keeps) (by
            rw [passes.final, cached]
            cases shown : published.state.status? sessionId event.taskId with
            | none => exact .inl rfl
            | some status => exact .inr rfl)
        rw [passes.final, cached] at later
        exact ⟨passes.then_stay later.1, later.2⟩
      · obtain ⟨passes, cached⟩ := @applyBufferedTaskStatus_other sessionId
          taskId published event.taskId different
        have elsewhere : ∃ other ∈ rest, other.taskId = taskId := by
          obtain ⟨other, member, same⟩ := present
          refine ⟨other, (List.mem_cons.mp member).resolve_left ?_, same⟩
          rintro rfl
          exact different same.symm
        have later := @induction (applyBufferedTaskStatus event.taskId published)
          (keeps.closed opened) (owned.keeps keeps) elsewhere
        rw [passes.final, cached] at later
        exact ⟨passes.stay_then later.1, later.2⟩

/-! The continuations of the calls. -/

theorem status?_other {other : String}
    {update : SftpSessionState → SftpSessionState}
    (different : sessionId ≠ other) :
    (state.updateSession other update).status? sessionId taskId =
      state.status? sessionId taskId := by
  unfold status?
  rw [task?_updateSession, if_neg different]

theorem status?_update (update : SftpSessionState → SftpSessionState) :
    (state.updateSession sessionId update).status? sessionId taskId =
      ((update ((state.sessionStates sessionId).getD .empty)).tasks taskId).map
        fun task => task.status := by
  unfold status?
  rw [task?_updateSession, if_pos rfl]

theorem tasks_eq (state : SftpState) (sessionId : String) :
    ((state.sessionStates sessionId).getD .empty).tasks =
      fun taskId => state.task? sessionId taskId :=
  funext fun taskId => tasks_getD state sessionId taskId

/-- The status that a task has after a merge. -/
def mergedStatus (startedAt : ℤ) (snapshot : List TransferTask)
    (state : SftpState) (sessionId taskId : String) : Option SftpTaskStatus :=
  (merge startedAt snapshot (fun other => state.task? sessionId other)
    taskId).map fun task => task.status

theorem loadTaskSnapshot_eq (startedAt : ℤ) (snapshot : List TransferTask)
    (opened : published.state.closedSessions = ∅) (sessionId : String) :
    loadTaskSnapshot sessionId startedAt snapshot published =
      applyEach (published.state.pendingTaskEvents.filter
        fun event => event.sessionId = sessionId)
        (published.set fun state =>
          state.updateSession sessionId (mergeSnapshot startedAt snapshot)) := by
  have unclosed : sessionId ∉ (published.set fun state =>
      state.updateSession sessionId
        (mergeSnapshot startedAt snapshot)).state.closedSessions := by
    change sessionId ∉ published.state.closedSessions
    simp [opened]
  unfold loadTaskSnapshot reopenSession
  rw [if_neg unclosed]
  rfl

theorem loadTaskSnapshot_keeps (startedAt : ℤ) (snapshot : List TransferTask)
    (opened : published.state.closedSessions = ∅) (sessionId : String) :
    Keeps published (loadTaskSnapshot sessionId startedAt snapshot published) := by
  rw [loadTaskSnapshot_eq startedAt snapshot opened]
  have applied := applyEach_keeps (published.state.pendingTaskEvents.filter
    fun event => event.sessionId = sessionId) (published.set fun state =>
      state.updateSession sessionId (mergeSnapshot startedAt snapshot))
  exact ⟨applied.closed, applied.pending⟩

theorem loadTaskSnapshot_own (startedAt : ℤ) (snapshot : List TransferTask)
    (opened : published.state.closedSessions = ∅)
    (owned : Owned sessionId taskId published) :
    let merged := mergedStatus startedAt snapshot published.state sessionId taskId
    Passes sessionId taskId merged
      (settled merged (published.state.cached? taskId)) published
      (loadTaskSnapshot sessionId startedAt snapshot published) ∧
    (loadTaskSnapshot sessionId startedAt snapshot published).state.cached? taskId =
      if merged.isSome then none else published.state.cached? taskId := by
  intro merged
  rw [loadTaskSnapshot_eq startedAt snapshot opened]
  have shown : (published.set fun state => state.updateSession sessionId
      (mergeSnapshot startedAt snapshot)).state.status? sessionId taskId =
        merged := by
    refine (status?_update _).trans ?_
    rw [mergeSnapshot, tasks_eq]
    rfl
  have merging : Passes sessionId taskId merged merged published
      (published.set fun state => state.updateSession sessionId
        (mergeSnapshot startedAt snapshot)) := .set shown
  cases found : published.state.cached? taskId with
  | none =>
      obtain ⟨passes, cached⟩ := @applyEach_settled sessionId taskId
        (published.set fun state => state.updateSession sessionId
          (mergeSnapshot startedAt snapshot))
        (published.state.pendingTaskEvents.filter
          fun event => event.sessionId = sessionId) opened owned (.inr found)
      rw [shown] at passes
      refine ⟨merging.stay_then ?_, ?_⟩
      · simpa [settled] using passes
      · rw [ite_self]
        exact cached.trans found
  | some event =>
      obtain ⟨member, same⟩ := cached?_some found
      obtain ⟨passes, cached⟩ := @applyEach_own sessionId taskId
        (published.set fun state => state.updateSession sessionId
          (mergeSnapshot startedAt snapshot))
        (published.state.pendingTaskEvents.filter
          fun event => event.sessionId = sessionId) opened owned
        ⟨event, List.mem_filter.mpr
          ⟨member, decide_eq_true (owned event member same)⟩, same⟩
      have kept : (published.set fun state => state.updateSession sessionId
          (mergeSnapshot startedAt snapshot)).state.cached? taskId =
            some event := found
      rw [shown, kept] at passes cached
      exact ⟨merging.stay_then passes, cached⟩

theorem loadTaskSnapshot_other {other : String} (startedAt : ℤ)
    (snapshot : List TransferTask) (opened : published.state.closedSessions = ∅)
    (owned : Owned sessionId taskId published) (different : sessionId ≠ other) :
    Passes sessionId taskId (published.state.status? sessionId taskId)
      (published.state.status? sessionId taskId) published
      (loadTaskSnapshot other startedAt snapshot published) ∧
    (loadTaskSnapshot other startedAt snapshot published).state.cached? taskId =
      published.state.cached? taskId := by
  rw [loadTaskSnapshot_eq startedAt snapshot opened]
  have shown : (published.set fun state => state.updateSession other
      (mergeSnapshot startedAt snapshot)).state.status? sessionId taskId =
        published.state.status? sessionId taskId := status?_other different
  obtain ⟨passes, cached⟩ := @applyEach_other sessionId taskId
    (published.set fun state => state.updateSession other
      (mergeSnapshot startedAt snapshot))
    (published.state.pendingTaskEvents.filter
      fun event => event.sessionId = other) (by
        intro event member same
        obtain ⟨known, own⟩ := List.mem_filter.mp member
        exact different ((owned event known same).symm.trans
          (of_decide_eq_true own)))
  rw [shown] at passes
  exact ⟨Passes.stay_then (.set shown) passes, cached⟩

theorem enqueued_own {parentTaskId : Option String} {task : TransferTask}
    (opened : published.state.closedSessions = ∅)
    (owned : Owned sessionId task.taskId published) :
    Passes sessionId task.taskId (some task.status)
      (settled (some task.status) (published.state.cached? task.taskId)) published
      (enqueued sessionId parentTaskId task published) ∧
    (enqueued sessionId parentTaskId task published).state.cached? task.taskId =
      none := by
  have shown : (published.set fun state => state.updateSession sessionId
      (addTask parentTaskId task)).state.status? sessionId task.taskId =
        some task.status := by
    refine (status?_update _).trans ?_
    simp [addTask]
  obtain ⟨passes, cached⟩ := @applyBufferedTaskStatus_own sessionId task.taskId
    (published.set fun state => state.updateSession sessionId
      (addTask parentTaskId task)) opened owned
  rw [shown] at passes cached
  exact ⟨Passes.stay_then (.set shown) passes, cached⟩

theorem enqueued_shown {other : String} {parentTaskId : Option String}
    {task : TransferTask} (different : taskId ≠ task.taskId) :
    (published.set fun state => state.updateSession other
      (addTask parentTaskId task)).state.status? sessionId taskId =
        published.state.status? sessionId taskId := by
  rcases eq_or_ne sessionId other with rfl | elsewhere
  · refine (status?_update _).trans ?_
    simp [addTask, KeyedStore.insert_of_ne different, tasks_getD, status?]
  · exact status?_other elsewhere

theorem enqueued_other {other : String} {parentTaskId : Option String}
    {task : TransferTask} (different : taskId ≠ task.taskId) :
    Passes sessionId taskId (published.state.status? sessionId taskId)
      (published.state.status? sessionId taskId) published
      (enqueued other parentTaskId task published) ∧
    (enqueued other parentTaskId task published).state.cached? taskId =
      published.state.cached? taskId := by
  have shown := @enqueued_shown sessionId taskId published other parentTaskId
    task different
  obtain ⟨passes, cached⟩ := @applyBufferedTaskStatus_other sessionId taskId
    (published.set fun state => state.updateSession other
      (addTask parentTaskId task)) task.taskId different
  rw [shown] at passes
  exact ⟨Passes.stay_then (.set shown) passes, cached⟩

theorem enqueued_keeps (sessionId : String) (parentTaskId : Option String)
    (task : TransferTask) (published : Published) :
    Keeps published (enqueued sessionId parentTaskId task published) := by
  have applied := applyBufferedTaskStatus_keeps task.taskId
    (published.set fun state => state.updateSession sessionId
      (addTask parentTaskId task))
  exact ⟨applied.closed, applied.pending⟩

/-! Tasks of other sessions, told by their status alone. -/

/-- No cached event of the task is of the session. -/
def Foreign (sessionId taskId : String) (published : Published) : Prop :=
  ∀ event ∈ published.state.pendingTaskEvents, event.taskId = taskId →
    event.sessionId ≠ sessionId

theorem applyTaskStatus_foreign {event : SftpTaskStatusEvent}
    (foreign : event.taskId = taskId → event.sessionId ≠ sessionId) :
    Passes sessionId taskId (published.state.status? sessionId taskId)
      (published.state.status? sessionId taskId) published
      (applyTaskStatus event published) := by
  unfold applyTaskStatus
  split
  · exact .refl rfl
  · split
    · exact .set (status?_cache published.state event)
    · refine Passes.refresh (.set ?_)
      rw [status?_showStatus, if_neg]
      rintro ⟨own, same⟩
      exact foreign same.symm own.symm

theorem applyBufferedTaskStatus_foreign {other : String}
    (foreign : Foreign sessionId taskId published) :
    Passes sessionId taskId (published.state.status? sessionId taskId)
      (published.state.status? sessionId taskId) published
      (applyBufferedTaskStatus other published) := by
  unfold applyBufferedTaskStatus
  split
  · exact .refl rfl
  · next event found =>
      obtain ⟨member, -⟩ := cached?_some found
      have passes := @applyTaskStatus_foreign sessionId taskId
        (published.set fun state => state.uncache other) event
        (foreign event member)
      exact Passes.stay_then (.set rfl) passes

theorem applyEach_foreign {events : List SftpTaskStatusEvent}
    (foreign : Foreign sessionId taskId published) :
    Passes sessionId taskId (published.state.status? sessionId taskId)
      (published.state.status? sessionId taskId) published
      (applyEach events published) := by
  induction events generalizing published with
  | nil => exact .refl rfl
  | cons event rest induction =>
      have keeps := applyBufferedTaskStatus_keeps event.taskId published
      have passes := @applyBufferedTaskStatus_foreign sessionId taskId published
        event.taskId foreign
      have later := @induction (applyBufferedTaskStatus event.taskId published)
        fun other member => foreign other (keeps.pending member)
      rw [passes.final] at later
      exact passes.stay_then later

theorem loadTaskSnapshot_foreign {other : String} (startedAt : ℤ)
    (snapshot : List TransferTask) (opened : published.state.closedSessions = ∅)
    (foreign : Foreign sessionId taskId published)
    (unmerged : sessionId = other →
      mergedStatus startedAt snapshot published.state sessionId taskId =
        published.state.status? sessionId taskId) :
    Passes sessionId taskId (published.state.status? sessionId taskId)
      (published.state.status? sessionId taskId) published
      (loadTaskSnapshot other startedAt snapshot published) := by
  rw [loadTaskSnapshot_eq startedAt snapshot opened]
  have shown : (published.set fun state => state.updateSession other
      (mergeSnapshot startedAt snapshot)).state.status? sessionId taskId =
        published.state.status? sessionId taskId := by
    rcases eq_or_ne sessionId other with rfl | elsewhere
    · refine (status?_update _).trans ?_
      rw [mergeSnapshot, tasks_eq]
      exact unmerged rfl
    · exact status?_other elsewhere
  have passes := @applyEach_foreign sessionId taskId
    (published.set fun state => state.updateSession other
      (mergeSnapshot startedAt snapshot))
    (published.state.pendingTaskEvents.filter
      fun event => event.sessionId = other) foreign
  rw [shown] at passes
  exact Passes.stay_then (.set shown) passes

theorem enqueued_foreign {other : String} {parentTaskId : Option String}
    {task : TransferTask} (foreign : Foreign sessionId taskId published)
    (elsewhere : task.taskId = taskId → sessionId ≠ other) :
    Passes sessionId taskId (published.state.status? sessionId taskId)
      (published.state.status? sessionId taskId) published
      (enqueued other parentTaskId task published) := by
  have shown : (published.set fun state => state.updateSession other
      (addTask parentTaskId task)).state.status? sessionId taskId =
        published.state.status? sessionId taskId := by
    rcases eq_or_ne taskId task.taskId with rfl | different
    · exact status?_other (elsewhere rfl)
    · exact (@enqueued_shown sessionId taskId published other parentTaskId task
        different)
  have passes := @applyBufferedTaskStatus_foreign sessionId taskId
    (published.set fun state => state.updateSession other
      (addTask parentTaskId task)) task.taskId foreign
  rw [shown] at passes
  exact Passes.stay_then (.set shown) passes

theorem status?_dropFinished :
    (state.updateSession sessionId dropFinished).status? sessionId taskId =
      (state.status? sessionId taskId).filter
        fun status => !status.isTerminal := by
  refine (status?_update _).trans ?_
  simp only [dropFinished, tasks_eq, isFinished, status?]
  cases state.task? sessionId taskId with
  | none => rfl
  | some task =>
      cases finished : task.status.isTerminal <;>
        simp [finished, Option.filter]

theorem status?_showProgress {event : SftpProgressEvent} {task : TransferTask}
    (known : state.task? event.sessionId event.taskId = some task) :
    (state.showProgress event task).status? sessionId taskId =
      state.status? sessionId taskId := by
  rcases eq_or_ne sessionId event.sessionId with rfl | elsewhere
  · refine (status?_update _).trans ?_
    rcases eq_or_ne taskId event.taskId with rfl | different
    · simp [status?, known]
    · simp [KeyedStore.insert_of_ne different, tasks_getD, status?]
  · exact status?_other elsewhere

end SftpState

end TitanSSH
