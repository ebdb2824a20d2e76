import TitanSSH.Library.Interleaving
import TitanSSH.Stores.SftpView

namespace TitanSSH

open Interleaving

/-! The directory that is shown of a session, and the requests that change it. -/

structure Directory where
  currentPath : String
  entries : List RemoteEntry
  loading : Bool
  dirRequestSeq : ℕ

def SftpSessionState.directory (session : SftpSessionState) : Directory :=
  ⟨session.currentPath, session.entries, session.loading, session.dirRequestSeq⟩

def SftpState.directory (state : SftpState) (sessionId : String) : Directory :=
  (state.sessionState sessionId).directory

/-- What came back: a list, something else, or an error. -/
abbrev DirOutcome := Except AppErrorInfo (Option (List RemoteEntry))

namespace Directory

def ask (directory : Directory) (requestSeq : ℕ) : Directory :=
  { directory with loading := true, dirRequestSeq := requestSeq }

def answer (directory : Directory) (request : DirRequest)
    (outcome : DirOutcome) : Directory :=
  if directory.dirRequestSeq ≠ request.requestSeq then directory
  else
    match outcome with
    | .ok entries =>
        { directory with
          currentPath := request.path, entries := entries.getD [], loading := false }
    | .error _ => { directory with loading := false }

/-- The requests of the session come one after the other, each with the next
number. -/
inductive Asking (sessionId : String) :
    Directory → List DirRequest → Directory → Prop
  | done (directory : Directory) : Asking sessionId directory [] directory
  | own {directory last : Directory} {request : DirRequest}
      {rest : List DirRequest} (same : request.sessionId = sessionId)
      (following : request.requestSeq = directory.dirRequestSeq + 1)
      (later : Asking sessionId (directory.ask request.requestSeq) rest last) :
      Asking sessionId directory (request :: rest) last
  | other {directory last : Directory} {request : DirRequest}
      {rest : List DirRequest} (different : request.sessionId ≠ sessionId)
      (later : Asking sessionId directory rest last) :
      Asking sessionId directory (request :: rest) last

variable {sessionId : String} {directory next last : Directory}
variable {requests more : List DirRequest}

theorem Asking.append (asking : Asking sessionId directory requests next)
    (later : Asking sessionId next more last) :
    Asking sessionId directory (requests ++ more) last := by
  induction asking with
  | done directory => exact later
  | own same following _ induction => exact .own same following (induction later)
  | other different _ induction => exact .other different (induction later)

end Directory

namespace SftpState

open Directory

variable {sessionId : String} {state : SftpState}
variable {published next last : Published}

theorem sessionState_updateSession (state : SftpState) (other : String)
    (update : SftpSessionState → SftpSessionState) :
    (state.updateSession other update).sessionState sessionId =
      if sessionId = other then update (state.sessionState sessionId)
      else state.sessionState sessionId := by
  unfold sessionState updateSession
  split
  · next same =>
      subst same
      simp
  · next different => simp [KeyedStore.insert_of_ne different]

theorem directory_updateSession {other : String}
    {update : SftpSessionState → SftpSessionState}
    (kept : ∀ session, (update session).directory = session.directory) :
    (state.updateSession other update).directory sessionId =
      state.directory sessionId := by
  unfold directory
  rw [sessionState_updateSession]
  split
  · exact kept _
  · rfl

/-- An operation asks for directories, and does nothing else to the one shown. -/
def Asks (sessionId : String) (published next : Published) : Prop :=
  ∃ requests, next.requests = published.requests ++ requests ∧
    Asking sessionId (published.state.directory sessionId) requests
      (next.state.directory sessionId)

theorem Asks.refl : Asks sessionId published published :=
  ⟨[], by simp, .done _⟩

theorem Asks.trans (early : Asks sessionId published next)
    (late : Asks sessionId next last) : Asks sessionId published last := by
  obtain ⟨requests, earlyEq, asking⟩ := early
  obtain ⟨more, lateEq, later⟩ := late
  exact ⟨requests ++ more, by rw [lateEq, earlyEq, List.append_assoc],
    asking.append later⟩

theorem Asks.set {updater : SftpState → SftpState}
    (kept : (updater published.state).directory sessionId =
      published.state.directory sessionId) :
    Asks sessionId published (published.set updater) :=
  ⟨[], (List.append_nil _).symm, kept ▸ .done _⟩

theorem Asks.update {other : String}
    {update : SftpSessionState → SftpSessionState}
    (kept : ∀ session, (update session).directory = session.directory) :
    Asks sessionId published
      (published.set fun state => state.updateSession other update) :=
  .set (directory_updateSession kept)

theorem listDir_asks (other path : String) (published : Published) :
    Asks sessionId published (listDir other path published) := by
  refine ⟨[_], rfl, ?_⟩
  rw [state_listDir]
  unfold directory
  rw [sessionState_updateSession]
  rcases eq_or_ne sessionId other with rfl | different
  · rw [if_pos rfl]
    exact .own rfl rfl (.done _)
  · rw [if_neg different]
    exact .other different.symm (.done _)

theorem applyTaskStatus_asks (event : SftpTaskStatusEvent)
    (published : Published) :
    Asks sessionId published (applyTaskStatus event published) := by
  unfold applyTaskStatus
  split
  · exact .refl
  · split
    · exact .set rfl
    · next task known =>
        have shown : Asks sessionId published
            (published.set fun state => state.showStatus event task) := by
          apply Asks.update
          exact fun _ => rfl
        refine shown.trans ?_
        rcases refreshTarget_cases event task
            (published.state.sessionState event.sessionId).currentPath
            (published.set fun state => state.showStatus event task) with
          same | lists
        · rw [same]
          exact .refl
        · rw [lists]
          exact listDir_asks _ _ _

theorem applyBufferedTaskStatus_asks (taskId : String)
    (published : Published) :
    Asks sessionId published (applyBufferedTaskStatus taskId published) := by
  unfold applyBufferedTaskStatus
  split
  · exact .refl
  · exact Asks.trans (.set rfl) (applyTaskStatus_asks _ _)

theorem applyEach_asks (events : List SftpTaskStatusEvent)
    (published : Published) :
    Asks sessionId published (applyEach events published) := by
  induction events generalizing published with
  | nil => exact .refl
  | cons event rest induction =>
      exact (applyBufferedTaskStatus_asks _ _).trans (induction _)

theorem loadTaskSnapshot_asks (other : String) (startedAt : ℤ)
    (snapshot : List TransferTask) (published : Published) :
    Asks sessionId published
      (loadTaskSnapshot other startedAt snapshot published) := by
  have merged : Asks sessionId published (published.set fun state =>
      state.updateSession other (mergeSnapshot startedAt snapshot)) := by
    apply Asks.update
    exact fun _ => rfl
  refine (merged.trans ?_).trans (applyEach_asks _ _)
  unfold reopenSession
  split
  · exact .set rfl
  · exact .refl

theorem enqueued_asks (other : String) (parentTaskId : Option String)
    (task : TransferTask) (published : Published) :
    Asks sessionId published (enqueued other parentTaskId task published) := by
  have added : Asks sessionId published (published.set fun state =>
      state.updateSession other (addTask parentTaskId task)) := by
    apply Asks.update
    exact fun _ => rfl
  exact added.trans (applyBufferedTaskStatus_asks _ _)

theorem ensureState_asks (other : String) (published : Published) :
    Asks sessionId published (ensureState other published) := by
  unfold ensureState
  split
  · exact .refl
  · next unknown =>
      refine .set ?_
      unfold directory sessionState
      rcases eq_or_ne sessionId other with rfl | different
      · simp [unknown]
      · simp [KeyedStore.insert_of_ne different]

theorem clearSession_asks {other : String} (different : sessionId ≠ other)
    (published : Published) :
    Asks sessionId published (clearSession other published) := by
  refine .set ?_
  unfold directory sessionState
  simp [KeyedStore.erase_of_ne different]

end SftpState

namespace SftpOperation

open SftpState

/-- The request that an operation answers. -/
def answer? : SftpOperation → Option (DirRequest × DirOutcome)
  | listed request entries => some (request, .ok entries)
  | listFailed request error => some (request, .error error)
  | _ => none

theorem asks {sessionId : String} {operation : SftpOperation}
    (unanswering : operation.answer? = none)
    (kept : operation ≠ .clearSession sessionId) (published : Published) :
    Asks sessionId published (operation.perform published) := by
  cases operation with
  | ensureState other => exact ensureState_asks other published
  | listDir other path => exact listDir_asks other path published
  | listed request entries => cases unanswering
  | listFailed request error => cases unanswering
  | loadTaskSnapshot other startedAt snapshot =>
      exact loadTaskSnapshot_asks other startedAt snapshot published
  | snapshotFailed other error =>
      apply Asks.update
      exact fun _ => rfl
  | enqueued other parentTaskId task =>
      exact enqueued_asks other parentTaskId task published
  | enqueueFailed other parentTaskId error =>
      apply Asks.update
      intro session
      split <;> rfl
  | cancelFailed other taskId error =>
      apply Asks.update
      exact fun _ => rfl
  | terminalTasksCleared other =>
      apply Asks.update
      exact fun _ => rfl
  | clearFailed other error =>
      apply Asks.update
      exact fun _ => rfl
  | toggleSelect other path =>
      apply Asks.update
      exact fun _ => rfl
  | clearSession other =>
      refine clearSession_asks ?_ published
      rintro rfl
      exact kept rfl
  | applyProgress event =>
      change Asks sessionId published (SftpState.applyProgress event published)
      unfold SftpState.applyProgress
      split
      · exact .refl
      · split
        · exact .refl
        · apply Asks.update
          exact fun _ => rfl
  | applyTaskStatus event => exact applyTaskStatus_asks event published
  | applyBufferedTaskStatus taskId =>
      exact applyBufferedTaskStatus_asks taskId published

def taking (request : DirRequest) : DirOutcome →
    SftpSessionState → SftpSessionState
  | .ok entries => showListing request entries
  | .error error => showListError request error

variable {sessionId : String} {operation : SftpOperation}
variable {request : DirRequest} {outcome : DirOutcome}

theorem perform_answer
    (answering : operation.answer? = some (request, outcome))
    (published : Published) :
    operation.perform published = published.set fun state =>
      state.updateSession request.sessionId (taking request outcome) := by
  cases operation with
  | listed asked entries =>
      obtain ⟨rfl, rfl⟩ := Prod.mk.inj (Option.some.inj answering)
      rfl
  | listFailed asked error =>
      obtain ⟨rfl, rfl⟩ := Prod.mk.inj (Option.some.inj answering)
      rfl
  | _ => cases answering

theorem directory_taking (session : SftpSessionState) :
    (taking request outcome session).directory =
      session.directory.answer request outcome := by
  unfold Directory.answer
  by_cases older : session.dirRequestSeq ≠ request.requestSeq
  · cases outcome with
    | ok entries => simp [taking, showListing, SftpSessionState.directory, older]
    | error error =>
        simp [taking, showListError, SftpSessionState.directory, older]
  · cases outcome with
    | ok entries => simp [taking, showListing, SftpSessionState.directory, older]
    | error error =>
        simp [taking, showListError, SftpSessionState.directory, older]

theorem taking_older {session : SftpSessionState}
    (older : session.dirRequestSeq ≠ request.requestSeq) :
    taking request outcome session = session := by
  cases outcome with
  | ok entries => exact if_pos older
  | error error => exact if_pos older

theorem answers (answering : operation.answer? = some (request, outcome))
    (published : Published) :
    (operation.perform published).state.directory sessionId =
      if request.sessionId = sessionId then
        (published.state.directory sessionId).answer request outcome
      else published.state.directory sessionId := by
  rw [perform_answer answering, Published.set]
  unfold directory
  rw [sessionState_updateSession]
  rcases eq_or_ne sessionId request.sessionId with rfl | different
  · rw [if_pos rfl, if_pos rfl, directory_taking]
  · rw [if_neg different, if_neg different.symm]

/-- An answer with another number than the last one leaves the session as it is. -/
theorem answers_older
    (answering : operation.answer? = some (request, outcome))
    {published : Published}
    (older : (published.state.sessionState request.sessionId).dirRequestSeq ≠
      request.requestSeq) :
    (operation.perform published).state.sessionState request.sessionId =
      published.state.sessionState request.sessionId := by
  rw [perform_answer answering, Published.set, sessionState_updateSession,
    if_pos rfl, taking_older older]

end SftpOperation

namespace DirectoryListing

/-! The store with its requests for directories on their way.  Their answers come in
any order; everything else can happen at any time. -/

structure State where
  store : SftpState
  pending : List DirRequest

inductive Event
  | asked (request : DirRequest)
  | answered (request : DirRequest) (outcome : DirOutcome)

def initial : State :=
  ⟨.initial, []⟩

def step (state : State) (operation : SftpOperation) :
    Option (State × List Event) :=
  let next := operation.perform (.unchanged state.store)
  match operation.answer? with
  | none =>
      some (⟨next.state, state.pending ++ next.requests⟩,
        next.requests.map .asked)
  | some (request, outcome) =>
      if request ∈ state.pending then
        some (⟨next.state, state.pending.erase request⟩,
          [.answered request outcome])
      else none

def machine : Machine State SftpOperation Event where
  step := step

/-! What a log says of the requests of one session. -/

def askedOf (sessionId : String) : Event → Option DirRequest
  | .asked request =>
      if request.sessionId = sessionId then some request else none
  | .answered _ _ => none

def requestsOf (sessionId : String) (log : List Event) : List DirRequest :=
  log.filterMap (askedOf sessionId)

def latest (sessionId : String) (log : List Event) : Option DirRequest :=
  (requestsOf sessionId log).getLast?

def Answered (request : DirRequest) (log : List Event) : Prop :=
  ∃ outcome, .answered request outcome ∈ log

/-- The request is answered with success while it is the latest. -/
def Taken (sessionId : String) (before : List Event) (event : Event)
    (request : DirRequest) (entries : Option (List RemoteEntry)) : Prop :=
  event = .answered request (.ok entries) ∧
    latest sessionId before = some request

def NoneTaken (sessionId : String) (log after : List Event) : Prop :=
  ∀ middle event later, after = middle ++ event :: later →
    ∀ request entries, ¬ Taken sessionId (log ++ middle) event request entries

/-- The path and the entries of the last request that was taken. -/
inductive Shown (sessionId : String) (log : List Event) :
    String → List RemoteEntry → Prop
  | nothing (untaken : NoneTaken sessionId [] log) : Shown sessionId log "/" []
  | taken {before after : List Event} {event : Event} {request : DirRequest}
      {entries : Option (List RemoteEntry)}
      (split : log = before ++ event :: after)
      (taken : Taken sessionId before event request entries)
      (untaken : NoneTaken sessionId (before ++ [event]) after) :
      Shown sessionId log request.path (entries.getD [])

variable {sessionId : String} {log after : List Event} {event : Event}
variable {request : DirRequest} {path : String} {entries : List RemoteEntry}

theorem NoneTaken.snoc (untaken : NoneTaken sessionId log after)
    (now : ∀ request entries,
      ¬ Taken sessionId (log ++ after) event request entries) :
    NoneTaken sessionId log (after ++ [event]) := by
  intro middle other later split
  rcases split_append split with ⟨rest, same, -⟩ | ⟨rest, rfl, same⟩
  · exact untaken middle other rest same
  · cases rest with
    | nil =>
        obtain ⟨rfl, -⟩ := List.cons.inj same
        rw [List.append_nil]
        exact now
    | cons head tail => simp at same

theorem Shown.snoc (shown : Shown sessionId log path entries)
    (now : ∀ request entries, ¬ Taken sessionId log event request entries) :
    Shown sessionId (log ++ [event]) path entries := by
  cases shown with
  | nothing untaken => exact .nothing (untaken.snoc now)
  | taken split taken untaken =>
      subst split
      refine .taken (List.append_assoc _ _ _) taken (untaken.snoc ?_)
      rw [List.append_assoc]
      exact now

theorem shown_taken {answer : Option (List RemoteEntry)}
    (taken : Taken sessionId log event request answer) :
    Shown sessionId (log ++ [event]) request.path (answer.getD []) :=
  .taken rfl taken fun _ _ _ split => by simp at split

/-! The requests of a session are numbered from one on, so the number of an answer
tells whether its request is the latest. -/

/-- What a log says of the directory shown of a session. -/
structure Lists (sessionId : String) (log : List Event)
    (directory : Directory) : Prop where
  numbered : (requestsOf sessionId log).map DirRequest.requestSeq =
    List.range' 1 directory.dirRequestSeq
  asked : ∀ request, request.sessionId = sessionId → Answered request log →
    request ∈ requestsOf sessionId log
  loading : directory.loading = true ↔
    ∃ request, latest sessionId log = some request ∧ ¬ Answered request log
  shown : Shown sessionId log directory.currentPath directory.entries

variable {directory next : Directory} {outcome : DirOutcome}

theorem requestsOf_append (log after : List Event) :
    requestsOf sessionId (log ++ after) =
      requestsOf sessionId log ++ requestsOf sessionId after :=
  List.filterMap_append

theorem sessionId_of_mem (member : request ∈ requestsOf sessionId log) :
    request.sessionId = sessionId := by
  obtain ⟨event, -, asked⟩ := List.mem_filterMap.mp member
  cases event with
  | asked other =>
      obtain ⟨same, equal⟩ := Option.ite_none_right_eq_some.mp asked
      exact Option.some.inj equal ▸ same
  | answered other outcome => cases asked

theorem requestsOf_asked (same : request.sessionId = sessionId) :
    requestsOf sessionId [.asked request] = [request] := by
  simp [requestsOf, askedOf, same]

theorem requestsOf_asked_other (different : request.sessionId ≠ sessionId) :
    requestsOf sessionId [.asked request] = [] := by
  simp [requestsOf, askedOf, different]

theorem answered_snoc_asked {other : DirRequest} :
    Answered request (log ++ [.asked other]) ↔ Answered request log := by
  simp [Answered]

theorem answered_snoc_answered {other : DirRequest} :
    Answered request (log ++ [.answered other outcome]) ↔
      request = other ∨ Answered request log := by
  simp only [Answered, List.mem_append, List.mem_singleton, Event.answered.injEq,
    exists_or, exists_and_left, exists_eq, and_true]
  exact or_comm

theorem Lists.seq_le (lists : Lists sessionId log directory)
    (member : request ∈ requestsOf sessionId log) :
    request.requestSeq ≤ directory.dirRequestSeq := by
  have listed := List.mem_map_of_mem (f := DirRequest.requestSeq) member
  rw [lists.numbered, List.mem_range'_1] at listed
  omega

theorem Lists.seq_latest (lists : Lists sessionId log directory)
    (last : latest sessionId log = some request) :
    request.requestSeq = directory.dirRequestSeq := by
  have numbers := congrArg List.getLast? lists.numbered
  rw [List.getLast?_map] at numbers
  rw [latest] at last
  rw [last, List.getLast?_range'] at numbers
  split at numbers
  · cases numbers
  · next positive =>
      have equal := Option.some.inj numbers
      omega

theorem Lists.seq_inj (lists : Lists sessionId log directory)
    {first second : DirRequest} (one : first ∈ requestsOf sessionId log)
    (other : second ∈ requestsOf sessionId log)
    (same : first.requestSeq = second.requestSeq) : first = second :=
  List.inj_on_of_nodup_map (lists.numbered ▸ List.nodup_range') one other same

theorem Lists.latest_iff (lists : Lists sessionId log directory)
    (member : request ∈ requestsOf sessionId log) :
    latest sessionId log = some request ↔
      directory.dirRequestSeq = request.requestSeq := by
  constructor
  · exact fun last => (lists.seq_latest last).symm
  · intro same
    cases found : latest sessionId log with
    | none =>
        rw [List.getLast?_eq_none_iff.mp found] at member
        cases member
    | some last =>
        have equal := (lists.seq_latest found).trans same
        rw [lists.seq_inj (List.mem_of_getLast? found) member equal]

theorem lists_initial :
    Lists sessionId [] (SftpState.initial.directory sessionId) where
  numbered := rfl
  asked := fun _ _ ⟨_, member⟩ => by cases member
  loading := ⟨nofun, fun ⟨_, last, _⟩ => by cases last⟩
  shown := .nothing fun _ _ _ split => by simp at split

theorem Lists.ask (lists : Lists sessionId log directory)
    (same : request.sessionId = sessionId)
    (following : request.requestSeq = directory.dirRequestSeq + 1) :
    Lists sessionId (log ++ [.asked request])
      (directory.ask request.requestSeq) := by
  have requests : requestsOf sessionId (log ++ [.asked request]) =
      requestsOf sessionId log ++ [request] := by
    rw [requestsOf_append, requestsOf_asked same]
  have unanswered : ¬ Answered request log := by
    intro answered
    have atMost := lists.seq_le (lists.asked request same answered)
    omega
  refine ⟨?_, ?_, ?_, lists.shown.snoc fun _ _ taken => nomatch taken.1⟩
  · rw [requests, List.map_append, lists.numbered, Directory.ask, following,
      List.range'_1_concat, List.map_singleton, following, Nat.add_comm]
  · intro other own answered
    rw [requests]
    exact List.mem_append_left _
      (lists.asked other own (answered_snoc_asked.mp answered))
  · refine ⟨fun _ => ⟨request, ?_, ?_⟩, fun _ => rfl⟩
    · rw [latest, requests, List.getLast?_concat]
    · rwa [answered_snoc_asked]

theorem Lists.ask_other (lists : Lists sessionId log directory)
    (different : request.sessionId ≠ sessionId) :
    Lists sessionId (log ++ [.asked request]) directory := by
  have requests : requestsOf sessionId (log ++ [.asked request]) =
      requestsOf sessionId log := by
    rw [requestsOf_append, requestsOf_asked_other different, List.append_nil]
  refine ⟨requests ▸ lists.numbered, ?_, ?_,
    lists.shown.snoc fun _ _ taken => nomatch taken.1⟩
  · intro other own answered
    exact requests ▸ lists.asked other own (answered_snoc_asked.mp answered)
  · rw [lists.loading, latest, latest, requests]
    simp only [answered_snoc_asked]

theorem Lists.asking {requests : List DirRequest}
    (lists : Lists sessionId log directory)
    (asking : Directory.Asking sessionId directory requests next) :
    Lists sessionId (log ++ requests.map .asked) next := by
  induction asking generalizing log with
  | done directory => simpa using lists
  | own same following _ induction =>
      have later := induction (lists.ask same following)
      rwa [List.append_assoc] at later
  | other different _ induction =>
      have later := induction (lists.ask_other different)
      rwa [List.append_assoc] at later

theorem requestsOf_answered (request : DirRequest) (outcome : DirOutcome) :
    requestsOf sessionId (log ++ [.answered request outcome]) =
      requestsOf sessionId log :=
  (requestsOf_append _ _).trans (List.append_nil _)

theorem Lists.answered_asked (lists : Lists sessionId log directory)
    (known : request.sessionId = sessionId →
      request ∈ requestsOf sessionId log) (other : DirRequest)
    (own : other.sessionId = sessionId)
    (answered : Answered other (log ++ [.answered request outcome])) :
    other ∈ requestsOf sessionId (log ++ [.answered request outcome]) := by
  rw [requestsOf_answered]
  rcases answered_snoc_answered.mp answered with rfl | before
  · exact known own
  · exact lists.asked other own before

theorem Lists.answer_stale (lists : Lists sessionId log directory)
    (known : request.sessionId = sessionId →
      request ∈ requestsOf sessionId log)
    (stale : latest sessionId log ≠ some request) :
    Lists sessionId (log ++ [.answered request outcome]) directory := by
  refine ⟨?_, lists.answered_asked known, ?_, lists.shown.snoc ?_⟩
  · rw [requestsOf_answered]
    exact lists.numbered
  · rw [lists.loading, latest, latest, requestsOf_answered]
    refine exists_congr fun other => and_congr_right fun found => ?_
    rw [answered_snoc_answered, not_or, and_iff_right]
    rintro rfl
    exact stale found
  · rintro other entries ⟨same, found⟩
    obtain ⟨rfl, -⟩ := Event.answered.inj same
    exact stale found

theorem Lists.answer_latest (lists : Lists sessionId log directory)
    (member : request ∈ requestsOf sessionId log)
    (last : latest sessionId log = some request) :
    Lists sessionId (log ++ [.answered request outcome])
      (directory.answer request outcome) := by
  have asked := @Lists.answered_asked _ _ _ _ outcome lists fun _ => member
  have answered : ¬ ∃ other,
      latest sessionId (log ++ [.answered request outcome]) = some other ∧
      ¬ Answered other (log ++ [.answered request outcome]) := by
    rintro ⟨other, same, waiting⟩
    rw [latest, requestsOf_answered] at same
    obtain rfl := Option.some.inj (last.symm.trans same)
    exact waiting (answered_snoc_answered.mpr (.inl rfl))
  have numbered : (requestsOf sessionId
      (log ++ [.answered request outcome])).map DirRequest.requestSeq =
      List.range' 1 directory.dirRequestSeq := by
    rw [requestsOf_answered]
    exact lists.numbered
  unfold Directory.answer
  rw [if_neg (not_not.mpr ((lists.latest_iff member).mp last))]
  cases outcome with
  | ok entries =>
      exact ⟨numbered, asked, ⟨nofun, fun waits => absurd waits answered⟩,
        shown_taken ⟨rfl, last⟩⟩
  | error error =>
      refine ⟨numbered, asked, ⟨nofun, fun waits => absurd waits answered⟩,
        lists.shown.snoc ?_⟩
      rintro other entries ⟨same, -⟩
      cases same

theorem Lists.answer (lists : Lists sessionId log directory)
    (member : request ∈ requestsOf sessionId log) :
    Lists sessionId (log ++ [.answered request outcome])
      (directory.answer request outcome) := by
  by_cases last : latest sessionId log = some request
  · exact lists.answer_latest member last
  · have older : directory.dirRequestSeq ≠ request.requestSeq :=
      fun same => last ((lists.latest_iff member).mpr same)
    unfold Directory.answer
    rw [if_pos older]
    exact lists.answer_stale (fun _ => member) last

theorem Lists.answer_other (lists : Lists sessionId log directory)
    (different : request.sessionId ≠ sessionId) :
    Lists sessionId (log ++ [.answered request outcome]) directory := by
  refine lists.answer_stale (fun own => absurd own different) fun last => ?_
  exact different (sessionId_of_mem (List.mem_of_getLast? last))

/-! The whole machine. -/

structure Listing (sessionId : String) (log : List Event) (state : State) :
    Prop where
  lists : Lists sessionId log (state.store.directory sessionId)
  pending : ∀ request ∈ state.pending, request.sessionId = sessionId →
    request ∈ requestsOf sessionId log

variable {operation : SftpOperation} {state final : State}
variable {events : List Event} {actions : List SftpOperation}

theorem step_cases
    (stepped : machine.step state operation = some (final, events)) :
    (operation.answer? = none ∧
      final.store = (operation.perform (.unchanged state.store)).state ∧
      final.pending = state.pending ++
        (operation.perform (.unchanged state.store)).requests ∧
      events = (operation.perform (.unchanged state.store)).requests.map
        .asked) ∨
    ∃ request outcome, operation.answer? = some (request, outcome) ∧
      request ∈ state.pending ∧
      final.store = (operation.perform (.unchanged state.store)).state ∧
      final.pending = state.pending.erase request ∧
      events = [.answered request outcome] := by
  change step state operation = _ at stepped
  unfold step at stepped
  cases answered : operation.answer? with
  | none =>
      simp only [answered] at stepped
      obtain ⟨rfl, rfl⟩ := Prod.mk.inj (Option.some.inj stepped)
      exact .inl ⟨rfl, rfl, rfl, rfl⟩
  | some answer =>
      obtain ⟨request, outcome⟩ := answer
      simp only [answered] at stepped
      split at stepped
      · next waiting =>
          obtain ⟨rfl, rfl⟩ := Prod.mk.inj (Option.some.inj stepped)
          exact .inr ⟨request, outcome, rfl, waiting, rfl, rfl, rfl⟩
      · cases stepped

theorem requestsOf_map_asked (requests : List DirRequest) :
    requestsOf sessionId (requests.map .asked) =
      requests.filter fun request => request.sessionId = sessionId := by
  unfold requestsOf
  rw [List.filterMap_map]
  induction requests with
  | nil => rfl
  | cons request rest induction =>
      rw [List.filterMap_cons, List.filter_cons, induction]
      by_cases same : request.sessionId = sessionId <;> simp [askedOf, same]

theorem Listing.step (listing : Listing sessionId log state)
    (kept : operation ≠ .clearSession sessionId)
    (stepped : machine.step state operation = some (final, events)) :
    Listing sessionId (log ++ events) final := by
  rcases step_cases stepped with
    ⟨unanswering, storeEq, pendingEq, rfl⟩ |
    ⟨request, outcome, answering, waiting, storeEq, pendingEq, rfl⟩
  · obtain ⟨requests, requestsEq, asking⟩ :=
      SftpOperation.asks unanswering kept (.unchanged state.store)
    have same : (operation.perform (.unchanged state.store)).requests =
      requests := requestsEq
    rw [same] at pendingEq ⊢
    refine ⟨?_, ?_⟩
    · rw [storeEq]
      exact listing.lists.asking asking
    · intro request waiting own
      rw [requestsOf_append]
      rw [pendingEq] at waiting
      cases List.mem_append.mp waiting with
      | inl before =>
          exact List.mem_append_left _ (listing.pending request before own)
      | inr now =>
          refine List.mem_append_right _ ?_
          rw [requestsOf_map_asked]
          exact List.mem_filter.mpr ⟨now, decide_eq_true own⟩
  · have answered := @SftpOperation.answers sessionId operation request outcome
      answering (.unchanged state.store)
    refine ⟨?_, ?_⟩
    · rw [storeEq, answered]
      split
      · next own =>
          exact listing.lists.answer (listing.pending request waiting own)
      · next different => exact listing.lists.answer_other different
    · intro other still own
      rw [requestsOf_answered]
      rw [pendingEq] at still
      exact listing.pending other (List.mem_of_mem_erase still) own

theorem listing_of_run (run : machine.Run initial actions log state)
    (uncleared : .clearSession sessionId ∉ actions) :
    Listing sessionId log state := by
  induction run with
  | refl => exact ⟨lists_initial, nofun⟩
  | snoc _ stepped induction =>
      rw [List.mem_append, not_or, List.mem_singleton] at uncleared
      exact (induction uncleared.1).step (Ne.symm uncleared.2) stepped

/-- Of all the directories asked for, the latest is the one that counts: it is
loading as long as that request waits, the last one that was answered while it was
the latest is shown, and an answer to an older one changes nothing. -/
theorem latest_request_wins (run : machine.Run initial actions log state)
    (uncleared : .clearSession sessionId ∉ actions) :
    ((state.store.sessionState sessionId).loading = true ↔
      ∃ request, latest sessionId log = some request ∧
        ¬ Answered request log) ∧
    Shown sessionId log (state.store.sessionState sessionId).currentPath
      (state.store.sessionState sessionId).entries ∧
    ∀ operation request outcome next events,
      operation.answer? = some (request, outcome) →
      request.sessionId = sessionId → latest sessionId log ≠ some request →
      machine.step state operation = some (next, events) →
      next.store.sessionState sessionId = state.store.sessionState sessionId := by
  have listing := listing_of_run run uncleared
  refine ⟨listing.lists.loading, listing.lists.shown, ?_⟩
  rintro operation request outcome next events answering rfl older stepped
  rcases step_cases stepped with
    ⟨unanswering, -⟩ | ⟨other, result, answered, waiting, storeEq, -⟩
  · cases unanswering.symm.trans answering
  · obtain ⟨rfl, rfl⟩ :=
      Prod.mk.inj (Option.some.inj (answered.symm.trans answering))
    rw [storeEq]
    refine SftpOperation.answers_older answering fun same => older ?_
    exact (listing.lists.latest_iff
      (listing.pending other waiting rfl)).mpr same

/-- Two directories asked for, the first of them answered last. -/
def overtaken : List SftpOperation :=
  [.listDir "s" "/etc", .listDir "s" "/home",
    .listed ⟨"s", "/home", 2⟩ (some []), .toggleSelect "s" "/home/f"]

theorem latest_request_wins_overtaken :
    ∃ log state next events, machine.Run initial overtaken log state ∧
      (state.store.sessionState "s").currentPath = "/home" ∧
      Shown "s" log (state.store.sessionState "s").currentPath
        (state.store.sessionState "s").entries ∧
      machine.step state
          (.listFailed ⟨"s", "/etc", 1⟩ ⟨"SftpPermissionDenied", none⟩) =
        some (next, events) ∧
      next.store.sessionState "s" = state.store.sessionState "s" := by
  have executed : ∃ log state next events,
      machine.Run initial overtaken log state ∧
      (state.store.sessionState "s").currentPath = "/home" ∧
      latest "s" log ≠ some ⟨"s", "/etc", 1⟩ ∧
      machine.step state
          (.listFailed ⟨"s", "/etc", 1⟩ ⟨"SftpPermissionDenied", none⟩) =
        some (next, events) :=
    ⟨_, _, _, _, Machine.run_of_execute rfl, rfl, by decide, rfl⟩
  obtain ⟨log, state, next, events, run, path, older, stepped⟩ := executed
  have uncleared : .clearSession "s" ∉ overtaken := by simp [overtaken]
  obtain ⟨-, shown, stale⟩ := latest_request_wins run uncleared
  exact ⟨log, state, next, events, run, path, shown, stepped,
    stale _ _ _ _ _ rfl rfl older stepped⟩

end DirectoryListing

end TitanSSH
