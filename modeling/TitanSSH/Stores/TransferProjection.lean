import TitanSSH.Stores.TransferRegistry

namespace TitanSSH

open Interleaving

namespace TransferQueue

/-! What the window shows of each task, beside what has been delivered of it. -/

/-- Shown as not over yet. -/
def Live (status : Option SftpTaskStatus) : Prop :=
  ∃ shown, status = some shown ∧ shown.isTerminal = false

def shownBy (sessionId taskId : String) : Event → Option SftpTaskStatus
  | .published store => store.status? sessionId taskId
  | _ => none

/-- A task that has been shown to be over is not shown as live any more. -/
def Lasting (earlier later : Event) : Prop :=
  ∀ sessionId taskId, ended (shownBy sessionId taskId earlier) = true →
    ¬ Live (shownBy sessionId taskId later)

variable {log : List Event} {registry : TaskRegistry}
variable {issued : KeyedStore String String}
variable {stream : List SftpTaskStatusEvent} {calls : List Call}
variable {store : SftpState} {next : Published}
variable {taskId sessionId : String}
variable {first second shown : Option SftpTaskStatus}
variable {cached : Option SftpTaskStatusEvent}

theorem finished_iff :
    finished sessionId taskId log = true ↔
      ∃ event ∈ log, ended (shownBy sessionId taskId event) = true := by
  unfold finished
  rw [List.any_eq_true]
  refine exists_congr fun event => and_congr_right fun _ => ?_
  cases event <;> simp [shownBy, ended]

theorem not_live_of_ended (wasOver : ended shown = true) : ¬ Live shown := by
  rintro ⟨status, rfl, live⟩
  simp [ended, live] at wasOver

theorem not_live_none : ¬ Live none := by
  rintro ⟨status, nothing, -⟩
  cases nothing

/-- A status that may be shown: a known one, not behind what has been delivered
unless more is to come. -/
structure Current (log : List Event) (issued : KeyedStore String String)
    (stream : List SftpTaskStatusEvent) (sessionId taskId : String)
    (status : SftpTaskStatus) : Prop where
  owned : issued taskId = some sessionId
  reached : status ∈ history taskId log
  abreast : streamOf taskId stream = [] →
    (latest (deliveredOf taskId log)).rank ≤ status.rank

/-- The task is over, and nothing under way says otherwise. -/
structure Closed (log : List Event) (issued : KeyedStore String String)
    (stream : List SftpTaskStatusEvent) (cached : Option SftpTaskStatusEvent)
    (sessionId taskId : String) : Prop where
  owned : issued taskId = some sessionId
  reached : ∃ status ∈ history taskId log, status.isTerminal = true
  streamed : ∀ status ∈ streamOf taskId stream, status.isTerminal = true
  cached : ∀ event, cached = some event → event.status.isTerminal = true

/-- How a task is shown and what is cached of it. -/
structure Sees (log : List Event) (issued : KeyedStore String String)
    (stream : List SftpTaskStatusEvent) (sessionId taskId : String)
    (shown : Option SftpTaskStatus) (cached : Option SftpTaskStatusEvent) :
    Prop where
  current : ∀ status, shown = some status →
    Current log issued stream sessionId taskId status
  waiting : ∀ event, cached = some event → event.sessionId = sessionId →
    event.status = latest (deliveredOf taskId log) ∧ shown = none
  closed : finished sessionId taskId log = true ∨ ended shown = true →
    Closed log issued stream cached sessionId taskId
  unrevived : finished sessionId taskId log = true → ¬ Live shown

/-- Unless the task is another session's, an event of it is cached just when one
has come since the task was last shown, and then it is not shown. -/
structure Arrived (log : List Event) (sessionId taskId : String)
    (shown : Option SftpTaskStatus) (cached : Option SftpTaskStatusEvent) :
    Prop where
  missed : cached.isSome = missed sessionId taskId log
  unshown : cached.isSome = true → shown = none

def Native (issued : KeyedStore String String) (sessionId taskId : String) :
    Prop :=
  ∀ owner, issued taskId = some owner → owner = sessionId

structure Window (log : List Event) (issued : KeyedStore String String)
    (stream : List SftpTaskStatusEvent) (store : SftpState) : Prop where
  opened : store.closedSessions = ∅
  owned : ∀ event ∈ store.pendingTaskEvents,
    issued event.taskId = some event.sessionId
  arrived : ∀ sessionId taskId, Native issued sessionId taskId →
    Arrived log sessionId taskId (store.status? sessionId taskId)
      (store.cached? taskId)
  lasting : log.Pairwise Lasting
  sees : ∀ sessionId taskId, Sees log issued stream sessionId taskId
    (store.status? sessionId taskId) (store.cached? taskId)

/-- What an operation does to one task, given what has been logged before. -/
structure Turn (log : List Event) (issued : KeyedStore String String)
    (stream : List SftpTaskStatusEvent) (store : SftpState) (next : Published)
    (sessionId taskId : String) (first second : Option SftpTaskStatus) :
    Prop where
  passes : SftpState.Passes sessionId taskId first second (.unchanged store) next
  first_over : finished sessionId taskId log = true → ¬ Live first
  second_over : ended first = true → ¬ Live second
  first_closed : ended first = true →
    Closed log issued stream (next.state.cached? taskId) sessionId taskId
  sees : Sees log issued stream sessionId taskId second
    (next.state.cached? taskId)
  arrived : Native issued sessionId taskId →
    Arrived (log ++ next.states.map .published) sessionId taskId
      (next.state.status? sessionId taskId) (next.state.cached? taskId)

/-! When an event is missed. -/

theorem missed_append_published (sessionId taskId : String)
    (states : List SftpState) :
    missed sessionId taskId (log ++ states.map .published) =
      (missed sessionId taskId log &&
        states.all fun state => (state.status? sessionId taskId).isNone) := by
  induction states using List.reverseRecOn with
  | nil => simp
  | append_singleton states state induction =>
      rw [List.map_append, ← List.append_assoc, List.map_singleton, missed,
        List.foldl_append]
      change (missed sessionId taskId _ && _) = _
      rw [induction, List.all_append, List.all_cons, List.all_nil,
        Bool.and_true, Bool.and_assoc]

theorem missed_append_emitted (sessionId taskId : String)
    (event : SftpTaskStatusEvent) :
    missed sessionId taskId (log ++ [.emitted event]) =
      missed sessionId taskId log := by
  rw [missed, List.foldl_append]
  rfl

theorem missed_append_delivered (sessionId taskId : String)
    (event : SftpTaskStatusEvent) :
    missed sessionId taskId (log ++ [.delivered event]) =
      (missed sessionId taskId log || event.taskId == taskId) := by
  rw [missed, List.foldl_append]
  rfl

theorem passes_mem (passes : SftpState.Passes sessionId taskId first second
      (.unchanged store) next) {state : SftpState}
    (member : state ∈ next.states) :
    state.status? sessionId taskId = first ∨
      state.status? sessionId taskId = second := by
  obtain ⟨early, late, split, early_first, late_second⟩ := passes.between
  rw [split] at member
  cases List.mem_append.mp member with
  | inl nothing => cases nothing
  | inr either =>
      exact (List.mem_append.mp either).imp (early_first state)
        (late_second state)

theorem Arrived.kept
    (arrived : Arrived log sessionId taskId (store.status? sessionId taskId)
      (store.cached? taskId))
    (fewer : store.status? sessionId taskId = none → shown = none)
    (passes : SftpState.Passes sessionId taskId shown shown (.unchanged store)
      next)
    (same : next.state.cached? taskId = store.cached? taskId) :
    Arrived (log ++ next.states.map .published) sessionId taskId
      (next.state.status? sessionId taskId) (next.state.cached? taskId) := by
  rw [same, passes.final]
  refine ⟨?_, fun held => fewer (arrived.unshown held)⟩
  rw [missed_append_published, ← arrived.missed]
  cases held : (store.cached? taskId).isSome with
  | false => rfl
  | true =>
      refine (List.all_eq_true.mpr fun state member => ?_).symm
      rw [Option.isNone_iff_eq_none, ← fewer (arrived.unshown held)]
      exact (passes_mem passes member).elim id id

theorem arrived_of_shown {status other : SftpTaskStatus}
    (passes : SftpState.Passes sessionId taskId (some status) (some other)
      (.unchanged store) next)
    (uncached : next.state.cached? taskId = none)
    (told : missed sessionId taskId log = true → next.states ≠ []) :
    Arrived (log ++ next.states.map .published) sessionId taskId
      (next.state.status? sessionId taskId) (next.state.cached? taskId) := by
  rw [uncached]
  refine ⟨?_, nofun⟩
  rw [missed_append_published]
  cases before : missed sessionId taskId log with
  | false => rfl
  | true =>
      obtain ⟨state, member⟩ := List.exists_mem_of_ne_nil _ (told before)
      have shows : (state.status? sessionId taskId).isNone = false := by
        rcases passes_mem passes member with same | same <;> rw [same] <;> rfl
      refine (Bool.eq_false_iff.mpr fun all => ?_).symm
      rw [List.all_eq_true.mp all state member] at shows
      cases shows

theorem Arrived.delivered {cached : Option SftpTaskStatusEvent}
    (arrived : Arrived log sessionId taskId shown cached)
    {event : SftpTaskStatusEvent} (different : taskId ≠ event.taskId) :
    Arrived (log ++ [.delivered event]) sessionId taskId shown cached := by
  refine ⟨?_, arrived.unshown⟩
  rw [missed_append_delivered, arrived.missed, beq_false_of_ne different.symm,
    Bool.or_false]

/-! From the turns of all tasks to the window. -/

theorem pairwise_forall {Index Element : Type*} {list : List Element}
    {holds : Index → Element → Element → Prop}
    (all : ∀ index, list.Pairwise (holds index)) :
    list.Pairwise fun earlier later => ∀ index, holds index earlier later := by
  rw [List.pairwise_iff_getElem]
  intro i j below within less index
  exact List.pairwise_iff_getElem.mp (all index) i j below within less

theorem Turn.lasting (turn : Turn log issued stream store next sessionId taskId
      first second) :
    next.states.Pairwise fun earlier later =>
      ended (earlier.status? sessionId taskId) = true →
        ¬ Live (later.status? sessionId taskId) := by
  obtain ⟨early, late, split, early_first, late_second⟩ := turn.passes.between
  have published : next.states = early ++ late := split
  rw [published]
  refine List.pairwise_append.mpr ⟨?_, ?_, ?_⟩
  · refine List.pairwise_of_forall_mem_list fun a before b after => ?_
    rw [early_first a before, early_first b after]
    exact not_live_of_ended
  · refine List.pairwise_of_forall_mem_list fun a before b after => ?_
    rw [late_second a before, late_second b after]
    exact not_live_of_ended
  · intro a before b after
    rw [early_first a before, late_second b after]
    exact turn.second_over

theorem Turn.finished_append (turn : Turn log issued stream store next sessionId
      taskId first second)
    (wasOver : finished sessionId taskId (log ++ next.states.map .published) = true) :
    finished sessionId taskId log = true ∨ ended first = true ∨
      ended second = true := by
  obtain ⟨event, member, isOver⟩ := finished_iff.mp wasOver
  cases List.mem_append.mp member with
  | inl before => exact .inl (finished_iff.mpr ⟨event, before, isOver⟩)
  | inr now =>
      obtain ⟨state, published, rfl⟩ := List.mem_map.mp now
      cases passes_mem turn.passes published with
      | inl same => exact .inr (.inl (same ▸ isOver))
      | inr same => exact .inr (.inr (same ▸ isOver))

theorem Current.published {status : SftpTaskStatus}
    (current : Current log issued stream sessionId taskId status)
    (states : List SftpState) :
    Current (log ++ states.map .published) issued stream sessionId taskId
      status := by
  obtain ⟨owned, reached, abreast⟩ := current
  exact ⟨owned, history_subset _ _ _ reached, by simpa using abreast⟩

theorem Closed.published
    (closed : Closed log issued stream cached sessionId taskId)
    (states : List SftpState) :
    Closed (log ++ states.map .published) issued stream cached sessionId
      taskId := by
  obtain ⟨owned, ⟨status, reached, terminal⟩, streamed, waiting⟩ := closed
  exact ⟨owned, ⟨status, history_subset _ _ _ reached, terminal⟩, streamed,
    waiting⟩

theorem Turn.after (turn : Turn log issued stream store next sessionId taskId
      first second) :
    Sees (log ++ next.states.map .published) issued stream sessionId taskId
      (next.state.status? sessionId taskId) (next.state.cached? taskId) := by
  rw [turn.passes.final]
  refine ⟨?_, ?_, ?_, ?_⟩
  · exact fun status shown => (turn.sees.current status shown).published _
  · intro event found own
    simpa using turn.sees.waiting event found own
  · intro wasOver
    have known : finished sessionId taskId log = true ∨ ended first = true ∨
        ended second = true :=
      wasOver.elim turn.finished_append fun now => .inr (.inr now)
    rcases known with before | passing | now
    · exact (turn.sees.closed (.inl before)).published _
    · exact (turn.first_closed passing).published _
    · exact (turn.sees.closed (.inr now)).published _
  · intro wasOver
    rcases turn.finished_append wasOver with before | passing | now
    · exact turn.sees.unrevived before
    · exact turn.second_over passing
    · exact not_live_of_ended now

theorem window_of_turns (lasting : log.Pairwise Lasting)
    (opened : next.state.closedSessions = ∅)
    (owned : ∀ event ∈ next.state.pendingTaskEvents,
      issued event.taskId = some event.sessionId)
    (turns : ∀ sessionId taskId, ∃ first second,
      Turn log issued stream store next sessionId taskId first second) :
    Window (log ++ next.states.map .published) issued stream next.state where
  opened := opened
  owned := owned
  arrived := by
    intro sessionId taskId native
    obtain ⟨first, second, turn⟩ := turns sessionId taskId
    exact turn.arrived native
  lasting := by
    refine List.pairwise_append.mpr ⟨lasting, ?_, ?_⟩
    · rw [List.pairwise_map]
      refine pairwise_forall fun sessionId => pairwise_forall fun taskId => ?_
      obtain ⟨first, second, turn⟩ := turns sessionId taskId
      exact turn.lasting
    · intro earlier before later now sessionId taskId wasOver
      obtain ⟨first, second, turn⟩ := turns sessionId taskId
      obtain ⟨state, published, rfl⟩ := List.mem_map.mp now
      have known : finished sessionId taskId log = true :=
        finished_iff.mpr ⟨earlier, before, wasOver⟩
      change ¬ Live (state.status? sessionId taskId)
      cases passes_mem turn.passes published with
      | inl same => exact same ▸ turn.first_over known
      | inr same => exact same ▸ turn.sees.unrevived known
  sees := by
    intro sessionId taskId
    obtain ⟨first, second, turn⟩ := turns sessionId taskId
    exact turn.after

/-! The turns. -/

theorem Turn.kept
    (arrived : Native issued sessionId taskId → Arrived log sessionId taskId
      (store.status? sessionId taskId) (store.cached? taskId))
    (sees : Sees log issued stream sessionId taskId
      (store.status? sessionId taskId) (store.cached? taskId))
    (passes : SftpState.Passes sessionId taskId
      (store.status? sessionId taskId) (store.status? sessionId taskId)
      (.unchanged store) next)
    (same : next.state.cached? taskId = store.cached? taskId) :
    Turn log issued stream store next sessionId taskId
      (store.status? sessionId taskId) (store.status? sessionId taskId) where
  passes := passes
  first_over := sees.unrevived
  second_over := not_live_of_ended
  first_closed := fun wasOver => same ▸ sees.closed (.inr wasOver)
  sees := same ▸ sees
  arrived := fun native => (arrived native).kept id passes same

theorem Sees.status_none
    (sees : Sees log issued stream sessionId taskId shown cached)
    (foreign : issued taskId ≠ some sessionId) : shown = none := by
  cases found : shown with
  | none => rfl
  | some status => exact absurd (sees.current status found).owned foreign

/-- A task of another session. -/
theorem Turn.foreign
    (sees : Sees log issued stream sessionId taskId
      (store.status? sessionId taskId) (store.cached? taskId))
    (foreign : issued taskId ≠ some sessionId)
    (unissued : issued taskId = none → missed sessionId taskId log = false)
    (owned : ∀ event ∈ next.state.pendingTaskEvents,
      issued event.taskId = some event.sessionId)
    (passes : SftpState.Passes sessionId taskId
      (store.status? sessionId taskId) (store.status? sessionId taskId)
      (.unchanged store) next) :
    Turn log issued stream store next sessionId taskId
      (store.status? sessionId taskId) (store.status? sessionId taskId) := by
  have elsewhere : ¬ (finished sessionId taskId log = true ∨
      ended (store.status? sessionId taskId) = true) :=
    fun wasOver => foreign (sees.closed wasOver).owned
  refine ⟨passes, sees.unrevived, not_live_of_ended, ?_,
    ⟨sees.current, ?_, ?_, sees.unrevived⟩, ?_⟩
  · exact fun wasOver => absurd (.inr wasOver) elsewhere
  · intro event found own
    obtain ⟨member, same⟩ := SftpState.cached?_some found
    have known := owned event member
    rw [same, own] at known
    exact absurd known foreign
  · exact fun wasOver => absurd wasOver elsewhere
  · intro native
    have nobody : issued taskId = none := by
      cases owner : issued taskId with
      | none => rfl
      | some known => exact absurd (native known owner ▸ owner) foreign
    have uncached : next.state.cached? taskId = none := by
      cases found : next.state.cached? taskId with
      | none => rfl
      | some event =>
          obtain ⟨member, same⟩ := SftpState.cached?_some found
          have known := owned event member
          rw [same, nobody] at known
          cases known
    rw [uncached]
    refine ⟨?_, nofun⟩
    rw [missed_append_published, unissued nobody]
    rfl

theorem latest_delivered_mem
    (backed : Backed log registry issued stream calls) (taskId : String) :
    latest (deliveredOf taskId log) ∈ history taskId log := by
  unfold history latest
  rw [backed.flows]
  rcases List.eq_nil_or_concat (deliveredOf taskId log) with
    nothing | ⟨before, last, split⟩
  · simp [nothing]
  · simp [split]

theorem streamOf_of_delivered
    (backed : Backed log registry issued stream calls)
    (wasOver : (latest (deliveredOf taskId log)).isTerminal = true) :
    streamOf taskId stream = [] := by
  have ordered := backed.ordered taskId
  unfold history at ordered
  rw [backed.flows] at ordered
  rcases List.eq_nil_or_concat (deliveredOf taskId log) with
    nothing | ⟨before, last, split⟩
  · rw [nothing] at wasOver
    cases wasOver
  · have isLast : latest (deliveredOf taskId log) = last := by
      simp [latest, split]
    rw [isLast] at wasOver
    cases rest : streamOf taskId stream with
    | nil => rfl
    | cons head tail =>
        rw [split, rest, ← List.cons_append] at ordered
        have less := (List.pairwise_append.mp ordered).2.2 last (by simp) head
          List.mem_cons_self
        rw [rank_of_terminal wasOver] at less
        have most := rank_le_two head
        omega

theorem fits_iff {state : State} {status : SftpTaskStatus} :
    fits log state sessionId taskId status = true ↔
      (missed sessionId taskId log = true ∨
        (streamOf taskId state.stream = [] →
          (latest (deliveredOf taskId log)).rank ≤ status.rank)) ∧
      (status.isTerminal = true ∨ finished sessionId taskId log = false) ∧
      (status.isTerminal = true →
        (∀ later ∈ streamOf taskId state.stream, later.isTerminal = true) ∧
        (missed sessionId taskId log = true →
          (latest (deliveredOf taskId log)).isTerminal = true)) := by
  have comes : ((streamOf taskId state.stream = [] →
      (latest (deliveredOf taskId log)).rank ≤ status.rank)) ↔
      (streamOf taskId state.stream).isEmpty = false ∨
        (latest (deliveredOf taskId log)).rank ≤ status.rank := by
    rw [imp_iff_not_or]
    simp
  unfold fits
  rw [comes]
  cases terminal : status.isTerminal <;>
    cases came : missed sessionId taskId log <;> simp

theorem Closed.uncached
    (closed : Closed log issued stream cached sessionId taskId) :
    Closed log issued stream none sessionId taskId :=
  { closed with cached := nofun }

section Entering

variable {status : SftpTaskStatus} {event : SftpTaskStatusEvent}

theorem not_live_of_fits {state : State}
    (fitting : fits log state sessionId taskId status = true)
    (wasOver : finished sessionId taskId log = true) : ¬Live (some status) := by
  obtain ⟨-, unrevived, -⟩ := fits_iff.mp fitting
  refine not_live_of_ended (unrevived.resolve_right ?_)
  simp [wasOver]

theorem closed_of_fits {state : State}
    (fitting : fits log state sessionId taskId status = true)
    (issues : state.issued taskId = some sessionId)
    (reached : status ∈ history taskId log) (terminal : ended (some status) = true) :
    Closed log state.issued state.stream none sessionId taskId := by
  obtain ⟨-, -, calm⟩ := fits_iff.mp fitting
  exact ⟨issues, ⟨status, reached, terminal⟩, (calm terminal).1, nofun⟩

theorem Turn.enter_plain
    (arrived : Arrived log sessionId taskId (store.status? sessionId taskId) none)
    (sees : Sees log issued stream sessionId taskId
      (store.status? sessionId taskId) none)
    (issues : issued taskId = some sessionId)
    (reached : status ∈ history taskId log)
    (fitting : fits log ⟨registry, issued, stream, calls, store⟩ sessionId taskId
      status = true)
    (passes : SftpState.Passes sessionId taskId (some status) (some status)
      (.unchanged store) next)
    (uncached : next.state.cached? taskId = none) :
    Turn log issued stream store next sessionId taskId (some status)
      (some status) := by
  have revives := not_live_of_fits fitting
  have closes := closed_of_fits fitting issues reached
  have caught : missed sessionId taskId log = false := arrived.missed.symm
  obtain ⟨abreast, -, -⟩ := fits_iff.mp fitting
  rw [caught] at abreast
  refine ⟨passes, revives, not_live_of_ended, uncached ▸ closes, ?_,
    fun _ => arrived_of_shown passes uncached (by simp [caught])⟩
  rw [uncached]
  refine ⟨?_, nofun, ?_, revives⟩
  · rintro other ⟨⟩
    exact ⟨issues, reached, abreast.resolve_left nofun⟩
  · intro either
    cases either with
    | inl wasOver => exact (sees.closed (.inl wasOver)).uncached
    | inr terminal => exact closes terminal

/-- A status from elsewhere makes way for the event that waits for the task. -/
theorem Turn.enter_cached (backed : Backed log registry issued stream calls)
    (arrived : Arrived log sessionId taskId (store.status? sessionId taskId)
      (some event))
    (sees : Sees log issued stream sessionId taskId
      (store.status? sessionId taskId) (some event))
    (own : event.sessionId = sessionId) (issues : issued taskId = some sessionId)
    (reached : status ∈ history taskId log)
    (fitting : fits log ⟨registry, issued, stream, calls, store⟩ sessionId taskId
      status = true)
    (passes : SftpState.Passes sessionId taskId (some status)
      (some event.status) (.unchanged store) next)
    (uncached : next.state.cached? taskId = none) :
    Turn log issued stream store next sessionId taskId (some status)
      (some event.status) := by
  have revives := not_live_of_fits fitting
  have closes := closed_of_fits fitting issues reached
  have came : missed sessionId taskId log = true := arrived.missed.symm
  obtain ⟨-, -, calm⟩ := fits_iff.mp fitting
  obtain ⟨isLatest, unknown⟩ := sees.waiting event rfl own
  refine ⟨passes, revives, fun terminal => ?_, uncached ▸ closes, ?_,
    fun _ => arrived_of_shown passes uncached fun _ silent => ?_⟩
  · have isOver := (calm terminal).2 came
    rw [← isLatest] at isOver
    exact not_live_of_ended isOver
  · rw [uncached]
    refine ⟨?_, nofun, ?_, ?_⟩
    · intro other same
      obtain rfl : event.status = other := Option.some.inj same
      rw [isLatest]
      exact ⟨issues, latest_delivered_mem backed taskId, fun _ => Nat.le_refl _⟩
    · intro either
      cases either with
      | inl wasOver => exact (sees.closed (.inl wasOver)).uncached
      | inr terminal =>
          have isOver : (latest (deliveredOf taskId log)).isTerminal = true :=
            isLatest ▸ terminal
          refine ⟨issues, ⟨_, latest_delivered_mem backed taskId, isOver⟩, ?_,
            nofun⟩
          rw [streamOf_of_delivered backed isOver]
          exact nofun
    · exact fun wasOver => not_live_of_ended
        ((sees.closed (.inl wasOver)).cached event rfl)
  · -- the store shows the task now, and did not before
    have stays := passes.moved silent
    rw [passes.final] at stays
    exact absurd (stays.trans unknown) nofun

/-- A status from elsewhere is taken over, and what is cached is applied to it. -/
theorem Turn.enter (backed : Backed log registry issued stream calls)
    (arrived : Arrived log sessionId taskId (store.status? sessionId taskId)
      (store.cached? taskId))
    (sees : Sees log issued stream sessionId taskId
      (store.status? sessionId taskId) (store.cached? taskId))
    (owned : SftpState.Owned sessionId taskId (.unchanged store))
    (issues : issued taskId = some sessionId)
    (reached : status ∈ history taskId log)
    (fitting : fits log ⟨registry, issued, stream, calls, store⟩ sessionId taskId
      status = true)
    (passes : SftpState.Passes sessionId taskId (some status)
      (SftpState.settled (some status) (store.cached? taskId))
      (.unchanged store) next)
    (uncached : next.state.cached? taskId = none) :
    Turn log issued stream store next sessionId taskId (some status)
      (SftpState.settled (some status) (store.cached? taskId)) := by
  cases found : store.cached? taskId with
  | none =>
      rw [found] at passes sees arrived
      exact .enter_plain arrived sees issues reached fitting passes uncached
  | some event =>
      obtain ⟨member, same⟩ := SftpState.cached?_some found
      rw [found] at passes sees arrived
      exact .enter_cached backed arrived sees (owned event member same) issues
        reached fitting passes uncached

end Entering

theorem Turn.dropped {rest : Option SftpTaskStatus}
    (arrived : Native issued sessionId taskId → Arrived log sessionId taskId
      (store.status? sessionId taskId) (store.cached? taskId))
    (sees : Sees log issued stream sessionId taskId
      (store.status? sessionId taskId) (store.cached? taskId))
    (fewer : ∀ status, rest = some status →
      store.status? sessionId taskId = some status)
    (unended : ended rest = false)
    (passes : SftpState.Passes sessionId taskId rest rest (.unchanged store)
      next)
    (same : next.state.cached? taskId = store.cached? taskId) :
    Turn log issued stream store next sessionId taskId rest rest := by
  have wasOver : finished sessionId taskId log = true → ¬ Live rest := by
    rintro wasOver ⟨status, remaining, live⟩
    exact sees.unrevived wasOver ⟨status, fewer status remaining, live⟩
  have unknown : store.status? sessionId taskId = none → rest = none := by
    intro nothing
    refine Option.eq_none_iff_forall_ne_some.mpr fun status remaining => ?_
    rw [fewer status remaining] at nothing
    cases nothing
  refine ⟨passes, wasOver, not_live_of_ended, by simp [unended], ?_,
    fun native => (arrived native).kept unknown passes same⟩
  rw [same]
  refine ⟨?_, ?_, ?_, wasOver⟩
  · intro status remaining
    exact sees.current status (fewer status remaining)
  · intro event found own
    obtain ⟨isLatest, nothing⟩ := sees.waiting event found own
    exact ⟨isLatest, unknown nothing⟩
  · intro either
    cases either with
    | inl before => exact sees.closed (.inl before)
    | inr now =>
        rw [unended] at now
        cases now

/-! Logs and streams that change while the window stands still. -/

theorem finished_append (sessionId taskId : String) {events : List Event}
    (silent : ∀ event ∈ events, shownBy sessionId taskId event = none) :
    finished sessionId taskId (log ++ events) =
      finished sessionId taskId log := by
  rw [Bool.eq_iff_iff, finished_iff, finished_iff]
  constructor
  · rintro ⟨event, member, wasOver⟩
    refine ⟨event, (List.mem_append.mp member).resolve_right ?_, wasOver⟩
    intro late
    rw [silent event late] at wasOver
    cases wasOver
  · rintro ⟨event, member, wasOver⟩
    exact ⟨event, List.mem_append_left _ member, wasOver⟩

theorem Sees.transport {after : List Event} {grown : KeyedStore String String}
    {flowing : List SftpTaskStatusEvent}
    (sees : Sees log issued stream sessionId taskId shown cached)
    (reached : history taskId log ⊆ history taskId after)
    (delivered : deliveredOf taskId after = deliveredOf taskId log)
    (published : finished sessionId taskId after =
      finished sessionId taskId log)
    (issues : issued taskId = some sessionId →
      grown taskId = some sessionId)
    (emptied : streamOf taskId flowing = [] → streamOf taskId stream = [])
    (flows : Closed log issued stream cached sessionId taskId →
      ∀ status ∈ streamOf taskId flowing, status.isTerminal = true) :
    Sees after grown flowing sessionId taskId shown cached := by
  refine ⟨?_, ?_, ?_, ?_⟩
  · intro status same
    obtain ⟨owned, member, abreast⟩ := sees.current status same
    exact ⟨issues owned, reached member,
      fun nothing => delivered ▸ abreast (emptied nothing)⟩
  · rw [delivered]
    exact sees.waiting
  · intro wasOver
    rw [published] at wasOver
    have calm := flows (sees.closed wasOver)
    obtain ⟨owned, ⟨status, member, terminal⟩, -, waiting⟩ := sees.closed wasOver
    exact ⟨issues owned, ⟨status, reached member, terminal⟩, calm, waiting⟩
  · rw [published]
    exact sees.unrevived

end TransferQueue

end TitanSSH
