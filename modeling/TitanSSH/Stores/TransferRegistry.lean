import TitanSSH.Stores.TransferQueue

namespace TitanSSH

open Interleaving

namespace TransferQueue

/-! What the registry, the events under way and the answers under way have to do
with what has been emitted. -/

def history (taskId : String) (log : List Event) : List SftpTaskStatus :=
  .pending :: emittedOf taskId log

structure Backed (log : List Event) (registry : TaskRegistry)
    (issued : KeyedStore String String) (stream : List SftpTaskStatusEvent)
    (calls : List Call) : Prop where
  ordered : ∀ taskId,
    (history taskId log).Pairwise fun before after => before.rank < after.rank
  flows : ∀ taskId,
    emittedOf taskId log = deliveredOf taskId log ++ streamOf taskId stream
  registered : ∀ taskId task, registry.lookup taskId = some task →
    task.taskId = taskId ∧ issued taskId = some task.sessionId ∧
      task.status = latest (emittedOf taskId log)
  streamed : ∀ event ∈ stream, issued event.taskId = some event.sessionId
  unissued : ∀ taskId, issued taskId = none → emittedOf taskId log = []
  collected : ∀ sessionId startedAt tasks,
    .collected sessionId startedAt tasks ∈ calls → ∀ task ∈ tasks,
      issued task.taskId = some sessionId ∧
        task.status ∈ history task.taskId log
  enqueued : ∀ parentTaskId task, .enqueued parentTaskId task ∈ calls →
    issued task.taskId = some task.sessionId ∧ task.status = .pending

variable {log : List Event} {registry : TaskRegistry}
variable {issued : KeyedStore String String}
variable {stream : List SftpTaskStatusEvent} {calls : List Call}
variable {taskId sessionId : String}

/-! Statuses in order. -/

theorem rank_lt_of_legal {before after : SftpTaskStatus}
    (legal : before.legal after = true) : before.rank < after.rank := by
  cases before <;> cases after <;> first | decide | cases legal

theorem rank_le_two (status : SftpTaskStatus) : status.rank ≤ 2 := by
  cases status <;> decide

theorem rank_of_terminal {status : SftpTaskStatus}
    (terminal : status.isTerminal = true) : status.rank = 2 := by
  cases status <;> first | rfl | cases terminal

theorem history_split (taskId : String) (log : List Event) :
    ∃ before, history taskId log = before ++ [latest (emittedOf taskId log)] := by
  unfold history latest
  rcases List.eq_nil_or_concat (emittedOf taskId log) with
    nothing | ⟨before, last, split⟩
  · exact ⟨[], by rw [nothing]; rfl⟩
  · exact ⟨.pending :: before, by rw [split]; simp⟩

theorem latest_mem_history (taskId : String) (log : List Event) :
    latest (emittedOf taskId log) ∈ history taskId log := by
  obtain ⟨before, split⟩ := history_split taskId log
  simp [split]

theorem rank_le_latest
    (ordered : (history taskId log).Pairwise
      fun before after => before.rank < after.rank)
    {status : SftpTaskStatus} (member : status ∈ history taskId log) :
    status.rank ≤ (latest (emittedOf taskId log)).rank := by
  obtain ⟨before, split⟩ := history_split taskId log
  rw [split] at ordered member
  cases List.mem_append.mp member with
  | inl earlier =>
      exact Nat.le_of_lt ((List.pairwise_append.mp ordered).2.2 _ earlier _
        List.mem_cons_self)
  | inr last => rw [List.mem_singleton.mp last]

theorem eq_latest
    (ordered : (history taskId log).Pairwise
      fun before after => before.rank < after.rank)
    {status : SftpTaskStatus} (member : status ∈ history taskId log)
    (least : (latest (emittedOf taskId log)).rank ≤ status.rank) :
    status = latest (emittedOf taskId log) := by
  obtain ⟨before, split⟩ := history_split taskId log
  rw [split] at ordered member
  cases List.mem_append.mp member with
  | inl earlier =>
      have less := (List.pairwise_append.mp ordered).2.2 _ earlier _
        List.mem_cons_self
      omega
  | inr last => exact List.mem_singleton.mp last

/-! Logs that grow. -/

@[simp] theorem emittedOf_append (taskId : String) (log events : List Event) :
    emittedOf taskId (log ++ events) =
      emittedOf taskId log ++ emittedOf taskId events :=
  List.filterMap_append

@[simp] theorem deliveredOf_append (taskId : String) (log events : List Event) :
    deliveredOf taskId (log ++ events) =
      deliveredOf taskId log ++ deliveredOf taskId events :=
  List.filterMap_append

@[simp] theorem streamOf_append (taskId : String)
    (first second : List SftpTaskStatusEvent) :
    streamOf taskId (first ++ second) =
      streamOf taskId first ++ streamOf taskId second :=
  List.filterMap_append

@[simp] theorem emittedOf_published (taskId : String)
    (states : List SftpState) :
    emittedOf taskId (states.map .published) = [] := by
  simp [emittedOf]

@[simp] theorem deliveredOf_published (taskId : String)
    (states : List SftpState) :
    deliveredOf taskId (states.map .published) = [] := by
  simp [deliveredOf]

theorem history_subset (taskId : String) (log events : List Event) :
    history taskId log ⊆ history taskId (log ++ events) := by
  unfold history
  rw [emittedOf_append]
  exact List.cons_subset_cons _ (List.subset_append_left _ _)

/-! What the operations of the backend keep. -/

theorem Backed.published (backed : Backed log registry issued stream calls)
    (states : List SftpState) :
    Backed (log ++ states.map .published) registry issued stream calls := by
  obtain ⟨ordered, flows, registered, streamed, unissued, collected, enqueued⟩ :=
    backed
  refine ⟨?_, ?_, ?_, streamed, ?_, ?_, enqueued⟩
  · simpa [history] using ordered
  · simpa using flows
  · simpa using registered
  · simpa using unissued
  · simpa [history] using collected

theorem Backed.answers (backed : Backed log registry issued stream calls)
    {others : List Call} (fewer : others ⊆ calls) :
    Backed log registry issued stream others :=
  { backed with
    collected := fun _ _ _ member => backed.collected _ _ _ (fewer member)
    enqueued := fun _ _ member => backed.enqueued _ _ (fewer member) }

theorem Backed.shrink (backed : Backed log registry issued stream calls)
    {smaller : TaskRegistry}
    (kept : ∀ taskId task, smaller.lookup taskId = some task →
      registry.lookup taskId = some task) :
    Backed log smaller issued stream calls :=
  { backed with
    registered := fun _ _ found => backed.registered _ _ (kept _ _ found) }

theorem Backed.ask (backed : Backed log registry issued stream calls)
    {call : Call} (blank : (∃ sessionId startedAt,
        call = .snapshot sessionId startedAt) ∨
      ∃ sessionId, call = .cleared sessionId) :
    Backed log registry issued stream (calls ++ [call]) where
  ordered := backed.ordered
  flows := backed.flows
  registered := backed.registered
  streamed := backed.streamed
  unissued := backed.unissued
  collected := by
    intro sessionId startedAt tasks member
    cases List.mem_append.mp member with
    | inl before => exact backed.collected _ _ _ before
    | inr new =>
        obtain rfl := List.mem_singleton.mp new
        rcases blank with ⟨_, _, impossible⟩ | ⟨_, impossible⟩ <;>
          cases impossible
  enqueued := by
    intro parentTaskId task member
    cases List.mem_append.mp member with
    | inl before => exact backed.enqueued _ _ before
    | inr new =>
        obtain rfl := List.mem_singleton.mp new
        rcases blank with ⟨_, _, impossible⟩ | ⟨_, impossible⟩ <;>
          cases impossible

theorem issued_insert {other owner : String} (fresh : issued taskId = none)
    (known : issued other = some owner) :
    (issued.insert taskId sessionId) other = some owner := by
  rw [KeyedStore.insert_of_ne]
  · exact known
  · rintro rfl
    rw [fresh] at known
    cases known

theorem Backed.enqueue (backed : Backed log registry issued stream calls)
    {parentTaskId : Option String} {task : TransferTask}
    (pending : task.status = .pending) (fresh : issued task.taskId = none) :
    Backed log (registry.insert task.taskId task)
      (issued.insert task.taskId task.sessionId) stream
      (calls ++ [.enqueued parentTaskId task]) where
  ordered := backed.ordered
  flows := backed.flows
  registered := by
    intro taskId other found
    rcases eq_or_ne taskId task.taskId with rfl | different
    · rw [FiniteMap.lookup_insert_self] at found
      obtain rfl := Option.some.inj found
      refine ⟨rfl, KeyedStore.insert_self _ _ _, ?_⟩
      rw [backed.unissued _ fresh]
      exact pending
    · rw [FiniteMap.lookup_insert_of_ne _ _ different] at found
      rw [KeyedStore.insert_of_ne different]
      exact backed.registered taskId other found
  streamed := by
    intro event member
    exact issued_insert fresh (backed.streamed event member)
  unissued := by
    intro taskId missing
    rcases eq_or_ne taskId task.taskId with rfl | different
    · rw [KeyedStore.insert_self] at missing
      cases missing
    · rw [KeyedStore.insert_of_ne different] at missing
      exact backed.unissued taskId missing
  collected := by
    intro sessionId startedAt tasks member other within
    cases List.mem_append.mp member with
    | inl before =>
        obtain ⟨known, reached⟩ := backed.collected _ _ _ before other within
        exact ⟨issued_insert fresh known, reached⟩
    | inr new => cases List.mem_singleton.mp new
  enqueued := by
    intro parent other member
    cases List.mem_append.mp member with
    | inl before =>
        obtain ⟨known, isPending⟩ := backed.enqueued _ _ before
        exact ⟨issued_insert fresh known, isPending⟩
    | inr new =>
        obtain ⟨-, rfl⟩ := Call.enqueued.inj (List.mem_singleton.mp new)
        exact ⟨KeyedStore.insert_self _ _ _, pending⟩

theorem mem_snapshot {task : TransferTask}
    (member : task ∈ registry.snapshot sessionId) :
    ∃ taskId, registry.lookup taskId = some task ∧
      task.sessionId = sessionId := by
  unfold TaskRegistry.snapshot at member
  obtain ⟨entry, known, found⟩ := List.mem_filterMap.mp member
  obtain ⟨taskId, other, present, own⟩ := FiniteMap.mem_collect.mp
    ((Finset.mem_sort _).mp known)
  split at own
  · next same =>
      obtain rfl := Option.some.inj own
      obtain rfl := Option.some.inj (present.symm.trans found)
      exact ⟨taskId, present, eq_of_beq same⟩
  · cases own

theorem Backed.collect (backed : Backed log registry issued stream calls)
    {index : ℕ} {startedAt : ℤ} :
    Backed log registry issued stream
      (calls.set index
        (.collected sessionId startedAt (registry.snapshot sessionId))) where
  ordered := backed.ordered
  flows := backed.flows
  registered := backed.registered
  streamed := backed.streamed
  unissued := backed.unissued
  collected := by
    intro other since tasks member task within
    cases List.mem_or_eq_of_mem_set member with
    | inl before => exact backed.collected _ _ _ before task within
    | inr new =>
        obtain ⟨rfl, rfl, rfl⟩ := Call.collected.inj new
        obtain ⟨taskId, found, rfl⟩ := mem_snapshot within
        obtain ⟨rfl, known, status⟩ := backed.registered taskId task found
        exact ⟨known, status ▸ latest_mem_history _ _⟩
  enqueued := by
    intro parentTaskId task member
    cases List.mem_or_eq_of_mem_set member with
    | inl before => exact backed.enqueued _ _ before
    | inr new => cases new

theorem emittedOf_emitted (taskId : String) (event : SftpTaskStatusEvent) :
    emittedOf taskId [.emitted event] = streamOf taskId [event] := by
  by_cases same : event.taskId = taskId <;> simp [emittedOf, streamOf, same]

theorem streamOf_of_ne {event : SftpTaskStatusEvent}
    (different : event.taskId ≠ taskId) : streamOf taskId [event] = [] := by
  simp [streamOf, different]

theorem streamOf_self (event : SftpTaskStatusEvent) :
    streamOf event.taskId [event] = [event.status] := by
  simp [streamOf]

theorem Backed.advances (backed : Backed log registry issued stream calls)
    {task : TransferTask} {status : SftpTaskStatus}
    (found : registry.lookup taskId = some task)
    (legal : task.status.legal status = true) :
    (history taskId log ++ [status]).Pairwise
      fun before after => before.rank < after.rank := by
  refine List.pairwise_append.mpr ⟨backed.ordered taskId, by simp, ?_⟩
  intro before member after last
  obtain rfl := List.mem_singleton.mp last
  have below := rank_le_latest (backed.ordered taskId) member
  rw [← (backed.registered taskId task found).2.2] at below
  exact Nat.lt_of_le_of_lt below (rank_lt_of_legal legal)

theorem Backed.change (backed : Backed log registry issued stream calls)
    {task : TransferTask} {event : SftpTaskStatusEvent} {after : TaskRegistry}
    (found : registry.lookup event.taskId = some task)
    (own : event.sessionId = task.sessionId)
    (accepted : registry.applyStatus event = some after) :
    Backed (log ++ [.emitted event]) after issued (stream ++ [event]) calls := by
  obtain ⟨same, applied⟩ := TaskRegistry.applied accepted
  obtain rfl := Option.some.inj (applied.found.symm.trans found)
  obtain ⟨rightId, known, -⟩ := backed.registered _ _ found
  have issuedEvent : issued event.taskId = some event.sessionId := by
    rw [known, own]
  refine ⟨?_, ?_, ?_, ?_, ?_, ?_, backed.enqueued⟩
  · intro taskId
    unfold history
    rw [emittedOf_append, emittedOf_emitted]
    rcases eq_or_ne event.taskId taskId with rfl | different
    · rw [streamOf_self]
      exact backed.advances found applied.isLegal
    · rw [streamOf_of_ne different, List.append_nil]
      exact backed.ordered taskId
  · intro taskId
    rw [emittedOf_append, emittedOf_emitted, deliveredOf_append,
      streamOf_append, backed.flows]
    simp [deliveredOf]
  · intro taskId other present
    rw [emittedOf_append, emittedOf_emitted]
    rcases applied.origin present with ⟨rfl, rfl⟩ | ⟨different, before⟩
    · rw [streamOf_self]
      exact ⟨rightId, known, by simp [latest]⟩
    · rw [streamOf_of_ne different.symm, List.append_nil]
      exact backed.registered taskId other before
  · intro other member
    cases List.mem_append.mp member with
    | inl before => exact backed.streamed other before
    | inr new =>
        obtain rfl := List.mem_singleton.mp new
        exact issuedEvent
  · intro taskId missing
    rw [emittedOf_append, emittedOf_emitted, streamOf_of_ne]
    · simpa using backed.unissued taskId missing
    · rintro rfl
      rw [missing] at issuedEvent
      cases issuedEvent
  · intro sessionId startedAt tasks member task within
    obtain ⟨owned, reached⟩ := backed.collected _ _ _ member task within
    exact ⟨owned, history_subset _ _ _ reached⟩

theorem next_split {event : SftpTaskStatusEvent}
    (next : stream.find? (fun event => event.taskId == taskId) = some event) :
    ∃ before after, stream = before ++ event :: after ∧
      stream.eraseP (fun event => event.taskId == taskId) = before ++ after ∧
      event.taskId = taskId ∧ streamOf taskId before = [] := by
  obtain ⟨own, before, after, rfl, others⟩ :=
    List.find?_eq_some_iff_append.mp next
  have elsewhere : ∀ other ∈ before, ¬ (other.taskId == taskId) = true := by
    intro other member
    simpa using others other member
  refine ⟨before, after, rfl, ?_, eq_of_beq own, ?_⟩
  · rw [List.eraseP_append_right _ elsewhere]
    exact congrArg (before ++ ·) (List.eraseP_cons_of_pos own)
  · refine List.filterMap_eq_nil_iff.mpr fun other member => ?_
    have different : other.taskId ≠ taskId := by
      simpa using elsewhere other member
    simp [different]

theorem deliveredOf_delivered (taskId : String) (event : SftpTaskStatusEvent) :
    deliveredOf taskId [.delivered event] = streamOf taskId [event] := by
  by_cases same : event.taskId = taskId <;> simp [deliveredOf, streamOf, same]

theorem Backed.deliver (backed : Backed log registry issued stream calls)
    {event : SftpTaskStatusEvent}
    (next : stream.find? (fun event => event.taskId == taskId) = some event) :
    Backed (log ++ [.delivered event]) registry issued
      (stream.eraseP fun event => event.taskId == taskId) calls := by
  obtain ⟨before, after, split, erased, rfl, nothing⟩ := next_split next
  have unemitted : ∀ other,
      emittedOf other (log ++ [.delivered event]) = emittedOf other log := by
    intro other
    simp [emittedOf]
  refine ⟨?_, ?_, ?_, ?_, ?_, ?_, backed.enqueued⟩
  · intro other
    unfold history
    rw [unemitted]
    exact backed.ordered other
  · intro other
    rw [unemitted, backed.flows, erased, split, deliveredOf_append,
      deliveredOf_delivered, streamOf_append, streamOf_append]
    have first : streamOf other (event :: after) =
        streamOf other [event] ++ streamOf other after :=
      streamOf_append other [event] after
    rw [first]
    rcases eq_or_ne event.taskId other with rfl | different
    · rw [nothing]
      simp
    · rw [streamOf_of_ne different]
      simp
  · intro other task found
    rw [unemitted]
    exact backed.registered other task found
  · intro other member
    exact backed.streamed other (List.eraseP_subset member)
  · intro other missing
    rw [unemitted]
    exact backed.unissued other missing
  · intro sessionId startedAt tasks member task within
    obtain ⟨owned, reached⟩ := backed.collected _ _ _ member task within
    exact ⟨owned, history_subset _ _ _ reached⟩

end TransferQueue

end TitanSSH
