import TitanSSH.Stores.SftpView
import TitanSSH.Stores.Workspace

namespace TitanSSH

open Interleaving

/-! What is left of a session once its projection has been removed, store by store:
nothing under its id, and the mark that it is closed. -/

namespace SessionState

structure Gone (sessionId : String) (state : SessionState) : Prop where
  sessions : state.sessions.lookup sessionId = none
  connections : state.connections.lookup sessionId = none
  hostKeyChallenges : state.hostKeyChallenges.lookup sessionId = none
  hostKeySaveErrors : state.hostKeySaveErrors.lookup sessionId = none

variable {sessionId other : String} {state : SessionState}

theorem gone_removed (state : SessionState) (sessionId : String) :
    Gone sessionId (state.removeSessionProjection sessionId) where
  sessions := FiniteMap.lookup_erase_self _ _
  connections := FiniteMap.lookup_erase_self _ _
  hostKeyChallenges := FiniteMap.lookup_erase_self _ _
  hostKeySaveErrors := FiniteMap.lookup_erase_self _ _

theorem Gone.withoutHostKey (gone : Gone sessionId state) (other : String) :
    Gone sessionId (state.withoutHostKeyProjection other) where
  sessions := gone.sessions
  connections := gone.connections
  hostKeyChallenges :=
    FiniteMap.lookup_erase_of_absent gone.hostKeyChallenges _
  hostKeySaveErrors :=
    FiniteMap.lookup_erase_of_absent gone.hostKeySaveErrors _

theorem Gone.remove (gone : Gone sessionId state) (other : String) :
    Gone sessionId (state.removeSessionProjection other) where
  sessions := FiniteMap.lookup_erase_of_absent gone.sessions _
  connections := FiniteMap.lookup_erase_of_absent gone.connections _
  hostKeyChallenges := (gone.withoutHostKey other).hostKeyChallenges
  hostKeySaveErrors := (gone.withoutHostKey other).hostKeySaveErrors

theorem Gone.openSession (gone : Gone sessionId state) {session : SessionInfo}
    (different : session.sessionId ≠ sessionId) :
    Gone sessionId (state.openSession session) where
  sessions :=
    (FiniteMap.lookup_insert_of_ne _ _ different.symm).trans gone.sessions
  connections :=
    (FiniteMap.lookup_insert_of_ne _ _ different.symm).trans gone.connections
  hostKeyChallenges := gone.hostKeyChallenges
  hostKeySaveErrors := gone.hostKeySaveErrors

theorem Gone.applySessionStatus (gone : Gone sessionId state)
    (payload : SessionStatusEvent) :
    Gone sessionId (state.applySessionStatus payload) := by
  unfold SessionState.applySessionStatus
  cases known : state.sessions.lookup payload.sessionId with
  | none => exact gone
  | some current =>
      have different : sessionId ≠ payload.sessionId := by
        rintro rfl
        cases gone.sessions.symm.trans known
      have projected : Gone sessionId
          (if payload.status = .connected then
            state.withoutHostKeyProjection payload.sessionId else state) := by
        split
        · exact gone.withoutHostKey _
        · exact gone
      refine ⟨?_, ?_, projected.hostKeyChallenges, projected.hostKeySaveErrors⟩
      · exact (FiniteMap.lookup_insert_of_ne _ _ different).trans gone.sessions
      · dsimp only
        split
        · rw [FiniteMap.lookup_insert_of_ne _ _ different]
          exact gone.connections
        · exact FiniteMap.lookup_erase_of_absent gone.connections _

theorem Gone.applySessionProgress (gone : Gone sessionId state)
    (payload : SessionProgressEvent) :
    Gone sessionId (state.applySessionProgress payload) := by
  unfold SessionState.applySessionProgress
  cases known : state.sessions.lookup payload.sessionId with
  | none => exact gone
  | some current =>
      have different : sessionId ≠ payload.sessionId := by
        rintro rfl
        cases gone.sessions.symm.trans known
      dsimp only
      split
      · refine ⟨gone.sessions, ?_, gone.hostKeyChallenges,
          gone.hostKeySaveErrors⟩
        exact (FiniteMap.lookup_insert_of_ne _ _ different).trans
          gone.connections
      · exact gone

theorem Gone.applyHostIdentityChallenge (gone : Gone sessionId state)
    {payload : HostIdentityChallenge} (different : payload.sessionId ≠ sessionId) :
    Gone sessionId (state.applyHostIdentityChallenge payload) where
  sessions := gone.sessions
  connections := gone.connections
  hostKeyChallenges :=
    (FiniteMap.lookup_insert_of_ne _ _ different.symm).trans
      gone.hostKeyChallenges
  hostKeySaveErrors :=
    FiniteMap.lookup_erase_of_absent gone.hostKeySaveErrors _

/-- The error of a decision is kept under the session of the card. -/
def savesError : Except AppErrorInfo Unit → Bool
  | .error error => error.code != "HostKeyChallengeNotFound"
  | .ok () => false

theorem Gone.acceptAndSave (gone : Gone sessionId state)
    {outcome : Except AppErrorInfo Unit}
    (unsaved : savesError outcome = true → other ≠ sessionId) :
    Gone sessionId (state.acceptAndSaveHostIdentity other outcome) := by
  cases outcome with
  | ok done => exact gone.withoutHostKey other
  | error error =>
      unfold acceptAndSaveHostIdentity
      dsimp only
      split
      · next saves =>
          have different := unsaved (by simpa [savesError] using saves)
          refine ⟨gone.sessions, gone.connections, gone.hostKeyChallenges, ?_⟩
          exact (FiniteMap.lookup_insert_of_ne _ _ different.symm).trans
            gone.hostKeySaveErrors
      · exact gone.withoutHostKey other

theorem not_gone_of_saved {outcome : Except AppErrorInfo Unit}
    (saves : savesError outcome = true) :
    ¬ Gone sessionId (state.acceptAndSaveHostIdentity sessionId outcome) := by
  intro gone
  cases outcome with
  | ok done => cases saves
  | error error =>
      have kept := gone.hostKeySaveErrors
      have other : error.code ≠ "HostKeyChallengeNotFound" := by
        simpa [savesError] using saves
      simp [acceptAndSaveHostIdentity, other] at kept

theorem Gone.accept (gone : Gone sessionId state) (other : String)
    (outcome : Except AppErrorInfo Unit) :
    Gone sessionId (state.acceptHostIdentity other outcome) := by
  cases outcome with
  | ok done => exact gone.withoutHostKey other
  | error error =>
      unfold acceptHostIdentity
      dsimp only
      split
      · exact gone
      · exact gone.withoutHostKey other

theorem Gone.reject (gone : Gone sessionId state) (other : String)
    (outcome : Except AppErrorInfo Unit) :
    Gone sessionId (state.rejectHostIdentity other outcome) := by
  cases outcome with
  | ok done => exact gone.remove other
  | error error =>
      unfold rejectHostIdentity
      dsimp only
      split
      · exact gone
      · exact gone.withoutHostKey other

end SessionState

namespace SftpState

structure Gone (sessionId : String) (state : SftpState) : Prop where
  sessionStates : state.sessionStates sessionId = none
  closed : sessionId ∈ state.closedSessions

/-- The store holds a state of the session. -/
def Present (sessionId : String) (state : SftpState) : Prop :=
  state.sessionStates sessionId ≠ none

variable {sessionId other taskId : String} {state : SftpState}
variable {published : Published} {event : SftpTaskStatusEvent}

theorem Present.not_gone (present : Present sessionId state) :
    ¬ Gone sessionId state :=
  fun gone => present gone.sessionStates

theorem present_updateSession (state : SftpState) (sessionId : String)
    (update : SftpSessionState → SftpSessionState) :
    Present sessionId (state.updateSession sessionId update) := by
  simp [Present, updateSession]

theorem Present.updateSession (present : Present sessionId state)
    (other : String) (update : SftpSessionState → SftpSessionState) :
    Present sessionId (state.updateSession other update) := by
  rcases eq_or_ne sessionId other with rfl | different
  · exact present_updateSession _ _ _
  · intro missing
    exact present ((KeyedStore.insert_of_ne different _ _).symm.trans missing)

theorem Gone.updateSession (gone : Gone sessionId state)
    (different : other ≠ sessionId)
    (update : SftpSessionState → SftpSessionState) :
    Gone sessionId (state.updateSession other update) where
  sessionStates :=
    (KeyedStore.insert_of_ne different.symm _ _).trans gone.sessionStates
  closed := gone.closed

theorem Gone.set (gone : Gone sessionId published.state)
    (different : other ≠ sessionId)
    {update : SftpSessionState → SftpSessionState} :
    Gone sessionId
      (published.set fun state => state.updateSession other update).state :=
  gone.updateSession different update

theorem Present.set (present : Present sessionId published.state)
    {update : SftpSessionState → SftpSessionState} :
    Present sessionId
      (published.set fun state => state.updateSession other update).state :=
  present.updateSession other update

theorem present_set {update : SftpSessionState → SftpSessionState} :
    Present sessionId (published.set fun state =>
      state.updateSession sessionId update).state :=
  present_updateSession _ _ _

theorem gone_cleared (published : Published) (sessionId : String) :
    Gone sessionId (clearSession sessionId published).state where
  sessionStates := KeyedStore.erase_self _ _
  closed := Finset.mem_insert_self _ _

theorem Gone.clearSession (gone : Gone sessionId published.state)
    (other : String) : Gone sessionId (clearSession other published).state where
  sessionStates := KeyedStore.erase_apply_of_absent gone.sessionStates _
  closed := Finset.mem_insert_of_mem gone.closed

theorem Gone.ensureState (gone : Gone sessionId published.state)
    (different : other ≠ sessionId) :
    Gone sessionId (ensureState other published).state := by
  unfold SftpState.ensureState
  split
  · exact gone
  · refine ⟨?_, Finset.mem_erase.mpr ⟨different.symm, gone.closed⟩⟩
    exact (KeyedStore.insert_of_ne different.symm _ _).trans gone.sessionStates

theorem present_ensureState (published : Published) (sessionId : String) :
    Present sessionId (ensureState sessionId published).state := by
  unfold ensureState
  split
  · next session known => simp [Present, known]
  · simp [Present, Published.set]

theorem Gone.applyTaskStatus (gone : Gone sessionId published.state)
    (event : SftpTaskStatusEvent) :
    Gone sessionId (applyTaskStatus event published).state := by
  unfold SftpState.applyTaskStatus
  split
  · exact gone
  · next opened =>
      have different : event.sessionId ≠ sessionId := by
        intro same
        exact opened (same ▸ gone.closed)
      split
      · exact ⟨gone.sessionStates, gone.closed⟩
      · next task known =>
          have shown : Gone sessionId
              (published.set fun state => state.showStatus event task).state :=
            gone.set different
          rcases refreshTarget_cases event task
              (published.state.sessionState event.sessionId).currentPath
              (published.set fun state => state.showStatus event task) with
            same | lists
          · rw [same]
            exact shown
          · rw [lists, state_listDir]
            exact shown.updateSession different _

theorem Present.applyTaskStatus (present : Present sessionId published.state)
    (event : SftpTaskStatusEvent) :
    Present sessionId (applyTaskStatus event published).state := by
  unfold SftpState.applyTaskStatus
  split
  · exact present
  · split
    · exact present
    · next task known =>
        have shown : Present sessionId
            (published.set fun state => state.showStatus event task).state :=
          present.set
        rcases refreshTarget_cases event task
            (published.state.sessionState event.sessionId).currentPath
            (published.set fun state => state.showStatus event task) with
          same | lists
        · rw [same]
          exact shown
        · rw [lists, state_listDir]
          exact shown.updateSession _ _

theorem Gone.applyBuffered (gone : Gone sessionId published.state)
    (taskId : String) :
    Gone sessionId (applyBufferedTaskStatus taskId published).state := by
  unfold applyBufferedTaskStatus
  split
  · exact gone
  · next event found =>
      have uncached : Gone sessionId
          (published.set fun state => state.uncache taskId).state :=
        ⟨gone.sessionStates, gone.closed⟩
      exact uncached.applyTaskStatus event

theorem Present.applyBuffered (present : Present sessionId published.state)
    (taskId : String) :
    Present sessionId (applyBufferedTaskStatus taskId published).state := by
  unfold applyBufferedTaskStatus
  split
  · exact present
  · next event found =>
      have uncached : Present sessionId
          (published.set fun state => state.uncache taskId).state := present
      exact uncached.applyTaskStatus event

theorem Gone.applyEach (gone : Gone sessionId published.state)
    (events : List SftpTaskStatusEvent) :
    Gone sessionId (applyEach events published).state := by
  induction events generalizing published with
  | nil => exact gone
  | cons event rest induction => exact induction (gone.applyBuffered _)

theorem Present.applyEach (present : Present sessionId published.state)
    (events : List SftpTaskStatusEvent) :
    Present sessionId (applyEach events published).state := by
  induction events generalizing published with
  | nil => exact present
  | cons event rest induction => exact induction (present.applyBuffered _)

theorem Gone.loadTaskSnapshot (gone : Gone sessionId published.state)
    (different : other ≠ sessionId) (startedAt : ℤ)
    (snapshot : List TransferTask) :
    Gone sessionId
      (loadTaskSnapshot other startedAt snapshot published).state := by
  refine Gone.applyEach ?_ _
  have merged := gone.updateSession different (mergeSnapshot startedAt snapshot)
  unfold reopenSession
  split
  · exact ⟨merged.sessionStates,
      Finset.mem_erase.mpr ⟨different.symm, merged.closed⟩⟩
  · exact merged

theorem present_loadTaskSnapshot (published : Published) (sessionId : String)
    (startedAt : ℤ) (snapshot : List TransferTask) :
    Present sessionId
      (loadTaskSnapshot sessionId startedAt snapshot published).state := by
  refine Present.applyEach ?_ _
  have merged := present_updateSession published.state sessionId
    (mergeSnapshot startedAt snapshot)
  unfold reopenSession
  split
  · exact merged
  · exact merged

theorem Gone.applyProgress (gone : Gone sessionId published.state)
    (event : SftpProgressEvent) :
    Gone sessionId (applyProgress event published).state := by
  unfold SftpState.applyProgress
  split
  · exact gone
  · next task known =>
      have different : event.sessionId ≠ sessionId := by
        intro same
        have unknown : published.state.task? event.sessionId event.taskId =
            none := by
          rw [same, task?, gone.sessionStates, Option.bind_none]
        cases unknown.symm.trans known
      split
      · exact gone
      · exact gone.set different

end SftpState

namespace SftpOperation

open SftpState

/-- The session whose state the operation writes, whether there is one or not. -/
def touches? : SftpOperation → Option String
  | ensureState sessionId => some sessionId
  | listDir sessionId _ => some sessionId
  | listed request _ => some request.sessionId
  | listFailed request _ => some request.sessionId
  | loadTaskSnapshot sessionId _ _ => some sessionId
  | snapshotFailed sessionId _ => some sessionId
  | enqueued sessionId _ _ => some sessionId
  | enqueueFailed sessionId _ _ => some sessionId
  | cancelFailed sessionId _ _ => some sessionId
  | terminalTasksCleared sessionId => some sessionId
  | clearFailed sessionId _ => some sessionId
  | toggleSelect sessionId _ => some sessionId
  | clearSession _ => none
  | applyProgress _ => none
  | applyTaskStatus _ => none
  | applyBufferedTaskStatus _ => none

variable {sessionId : String} {published : Published}
variable {operation : SftpOperation}

theorem gone (gone : Gone sessionId published.state)
    (untouched : operation.touches? ≠ some sessionId) :
    Gone sessionId (operation.perform published).state := by
  have different : ∀ {other}, operation.touches? = some other →
      other ≠ sessionId := by
    rintro other touched rfl
    exact untouched touched
  cases operation with
  | ensureState other => exact gone.ensureState (different rfl)
  | listDir other path => exact gone.set (different rfl)
  | listed request entries => exact gone.set (different rfl)
  | listFailed request error => exact gone.set (different rfl)
  | loadTaskSnapshot other startedAt snapshot =>
      exact gone.loadTaskSnapshot (different rfl) startedAt snapshot
  | snapshotFailed other error => exact gone.set (different rfl)
  | enqueued other parentTaskId task =>
      refine Gone.applyBuffered ?_ _
      exact gone.set (different rfl)
  | enqueueFailed other parentTaskId error =>
      exact gone.set (different rfl)
  | cancelFailed other taskId error =>
      exact gone.set (different rfl)
  | terminalTasksCleared other => exact gone.set (different rfl)
  | clearFailed other error => exact gone.set (different rfl)
  | toggleSelect other path => exact gone.set (different rfl)
  | clearSession other => exact gone.clearSession other
  | applyProgress event => exact gone.applyProgress event
  | applyTaskStatus event => exact gone.applyTaskStatus event
  | applyBufferedTaskStatus taskId => exact gone.applyBuffered taskId

theorem present (touched : operation.touches? = some sessionId)
    (published : Published) :
    Present sessionId (operation.perform published).state := by
  cases operation with
  | ensureState other =>
      obtain rfl := Option.some.inj touched
      exact present_ensureState _ _
  | loadTaskSnapshot other startedAt snapshot =>
      obtain rfl := Option.some.inj touched
      exact present_loadTaskSnapshot _ _ _ _
  | enqueued other parentTaskId task =>
      obtain rfl := Option.some.inj touched
      refine Present.applyBuffered ?_ _
      exact present_set
  | clearSession other => cases touched
  | applyProgress event => cases touched
  | applyTaskStatus event => cases touched
  | applyBufferedTaskStatus taskId => cases touched
  | _ =>
      obtain rfl := Option.some.inj touched
      exact present_set

end SftpOperation

namespace MonitorState

variable {Usage : Type}

structure Gone (sessionId : String) (state : MonitorState Usage) : Prop where
  snapshots : state.snapshots sessionId = none
  selectedInterfaces : state.selectedInterfaces sessionId = none
  networkTrends : state.networkTrends sessionId = none
  sessionTaskMap : state.sessionTaskMap sessionId = none

variable {sessionId other : String} {state : MonitorState Usage}

theorem gone_cleared (state : MonitorState Usage) (sessionId : String) :
    Gone sessionId (state.clearSession sessionId) where
  snapshots := KeyedStore.erase_self _ _
  selectedInterfaces := KeyedStore.erase_self _ _
  networkTrends := KeyedStore.erase_self _ _
  sessionTaskMap := KeyedStore.erase_self _ _

theorem Gone.clearSession (gone : Gone sessionId state) (other : String) :
    Gone sessionId (state.clearSession other) where
  snapshots := KeyedStore.erase_apply_of_absent gone.snapshots _
  selectedInterfaces :=
    KeyedStore.erase_apply_of_absent gone.selectedInterfaces _
  networkTrends := KeyedStore.erase_apply_of_absent gone.networkTrends _
  sessionTaskMap := KeyedStore.erase_apply_of_absent gone.sessionTaskMap _

theorem Gone.applySnapshot (gone : Gone sessionId state)
    {snapshot : MonitorSnapshot Usage}
    (different : snapshot.sessionId ≠ sessionId) :
    Gone sessionId (state.applySnapshot snapshot) where
  snapshots :=
    (KeyedStore.insert_of_ne different.symm _ _).trans gone.snapshots
  selectedInterfaces :=
    (Function.update_of_ne different.symm _ _).trans gone.selectedInterfaces
  networkTrends :=
    (Function.update_of_ne different.symm _ _).trans gone.networkTrends
  sessionTaskMap := gone.sessionTaskMap

theorem not_gone_applySnapshot (snapshot : MonitorSnapshot Usage) :
    ¬ Gone snapshot.sessionId (state.applySnapshot snapshot) := by
  intro gone
  cases (KeyedStore.insert_self _ _ _).symm.trans gone.snapshots

theorem Gone.selectNetworkInterface (gone : Gone sessionId state)
    (other interfaceName : String) :
    Gone sessionId (state.selectNetworkInterface other interfaceName) := by
  unfold MonitorState.selectNetworkInterface
  cases found : state.snapshots other with
  | none => exact gone
  | some snapshot =>
      have different : sessionId ≠ other := by
        rintro rfl
        cases gone.snapshots.symm.trans found
      dsimp only
      split
      · exact gone
      · split
        · exact gone
        · exact ⟨gone.snapshots,
            (KeyedStore.insert_of_ne different _ _).trans
              gone.selectedInterfaces,
            KeyedStore.erase_apply_of_absent gone.networkTrends _,
            gone.sessionTaskMap⟩

theorem Gone.applyTaskStatus (gone : Gone sessionId state)
    (event : TaskStatusEvent) :
    Gone sessionId (state.applyTaskStatus event) := by
  unfold MonitorState.applyTaskStatus
  split
  · exact ⟨gone.snapshots, gone.selectedInterfaces, gone.networkTrends,
      gone.sessionTaskMap⟩
  · exact ⟨gone.snapshots, gone.selectedInterfaces, gone.networkTrends,
      gone.sessionTaskMap⟩

end MonitorState

namespace MonitorAction

open MonitorState

variable {Usage : Type}

/-- The session that the action files something under. -/
def touches? : MonitorAction Usage → Option String
  | applySnapshot snapshot => some snapshot.sessionId
  | fetchSnapshot (.ok snapshot) => some snapshot.sessionId
  | fetchSnapshot (.error _) => none
  | startMonitoring sessionId (.ok _) => some sessionId
  | startMonitoring _ (.error _) => none
  | selectNetworkInterface _ _ => none
  | applyTaskStatus _ => none
  | stopMonitoring _ _ => none
  | clearSession _ => none

variable {sessionId : String} {state : MonitorState Usage}
variable {action : MonitorAction Usage}

theorem gone (gone : Gone sessionId state)
    (untouched : action.touches? ≠ some sessionId) :
    Gone sessionId (state.perform action) := by
  have different : ∀ {other}, action.touches? = some other →
      other ≠ sessionId := by
    rintro other touched rfl
    exact untouched touched
  cases action with
  | applySnapshot snapshot => exact gone.applySnapshot (different rfl)
  | selectNetworkInterface other interfaceName =>
      exact gone.selectNetworkInterface other interfaceName
  | applyTaskStatus event => exact gone.applyTaskStatus event
  | fetchSnapshot response =>
      cases response with
      | error error => exact gone
      | ok snapshot => exact gone.applySnapshot (different rfl)
  | startMonitoring other response =>
      cases response with
      | error error => exact gone
      | ok task =>
          refine ⟨gone.snapshots, gone.selectedInterfaces, gone.networkTrends,
            ?_⟩
          exact (KeyedStore.insert_of_ne (different rfl).symm _ _).trans
            gone.sessionTaskMap
  | stopMonitoring other response =>
      cases response with
      | error error => exact gone
      | ok done =>
          exact ⟨gone.snapshots, gone.selectedInterfaces, gone.networkTrends,
            KeyedStore.erase_apply_of_absent gone.sessionTaskMap _⟩
  | clearSession other => exact gone.clearSession other

theorem not_gone (touched : action.touches? = some sessionId)
    (state : MonitorState Usage) :
    ¬ Gone sessionId (state.perform action) := by
  cases action with
  | applySnapshot snapshot =>
      obtain rfl := Option.some.inj touched
      exact not_gone_applySnapshot snapshot
  | fetchSnapshot response =>
      cases response with
      | error error => cases touched
      | ok snapshot =>
          obtain rfl := Option.some.inj touched
          exact not_gone_applySnapshot snapshot
  | startMonitoring other response =>
      cases response with
      | error error => cases touched
      | ok task =>
          obtain rfl := Option.some.inj touched
          intro gone
          cases (KeyedStore.insert_self _ _ _).symm.trans gone.sessionTaskMap
  | _ => cases touched

end MonitorAction

namespace Workspace

variable {Usage : Type}

/-- No store holds anything under the id of the session, and it is marked as
closed. -/
structure Gone (sessionId : String) (state : State Usage) : Prop where
  session : state.session.Gone sessionId
  sftp : state.sftp.Gone sessionId
  monitor : state.monitor.Gone sessionId

/-- The answer to a call brings something of the session back. -/
def Call.revives (sessionId : String) : (call : Call) →
    Except AppErrorInfo (call.Reply Usage) → Bool
  | .openSession _, .ok session => session.sessionId == sessionId
  | .decide .acceptAndSave other, outcome =>
      other == sessionId && SessionState.savesError outcome
  | .taskSnapshot other _, _ => other == sessionId
  | .transfer other _, _ => other == sessionId
  | .cancelTask _ other, .error _ => other == sessionId
  | .clearTerminalTasks other, _ => other == sessionId
  | .startMonitoring other, .ok _ => other == sessionId
  | .monitorStatus _, .ok snapshot => snapshot.sessionId == sessionId
  | _, _ => false

/-- Of what the user does, of the answers and of the events, what brings something
of the session back. -/
def Action.revives (sessionId : String) : Action Usage → Bool
  | .listDir other _ => other == sessionId
  | .ensureState other => other == sessionId
  | .toggleSelect other _ => other == sessionId
  | .answer call outcome _ => call.revives sessionId outcome
  | .listed request _ => request.sessionId == sessionId
  | .hostIdentityChallenge payload => payload.sessionId == sessionId
  | .monitorSnapshot snapshot => snapshot.sessionId == sessionId
  | _ => false

variable {sessionId : String} {state : State Usage}

theorem gone_removed (state : State Usage) (sessionId : String) :
    Gone sessionId (state.removeSessionProjection sessionId) where
  session := SessionState.gone_removed _ _
  sftp := SftpState.gone_cleared _ _
  monitor := MonitorState.gone_cleared _ _

theorem Gone.operate (gone : Gone sessionId state) {operation : SftpOperation}
    (untouched : operation.touches? ≠ some sessionId) :
    Gone sessionId (state.operate operation) :=
  ⟨gone.session, SftpOperation.gone gone.sftp untouched, gone.monitor⟩

theorem Gone.perform (gone : Gone sessionId state)
    {action : MonitorAction Usage}
    (untouched : action.touches? ≠ some sessionId) :
    Gone sessionId (state.perform action) :=
  ⟨gone.session, gone.sftp, MonitorAction.gone gone.monitor untouched⟩

theorem Gone.withSession (gone : Gone sessionId state)
    {session : SessionState} (kept : session.Gone sessionId) :
    Gone sessionId (state.withSession session) :=
  ⟨kept, gone.sftp, gone.monitor⟩

theorem Gone.remove (gone : Gone sessionId state) (other : String) :
    Gone sessionId (state.removeSessionProjection other) :=
  ⟨gone.session.remove other, gone.sftp.clearSession other,
    gone.monitor.clearSession other⟩

theorem Gone.opened (gone : Gone sessionId state) {session : SessionInfo}
    (different : session.sessionId ≠ sessionId) (now : ℤ) :
    Gone sessionId (state.opened session now) := by
  have projected := gone.withSession (gone.session.openSession different)
  have untouched : (SftpOperation.listDir session.sessionId "/").touches? ≠
    some sessionId := fun same => different (Option.some.inj same)
  have started := projected.operate untouched
  exact ⟨started.session, started.sftp, started.monitor⟩

/-- What a step means for a session that is gone: it stays so if the step brings
nothing of it back, and only then; and a session that is removed is gone. -/
structure Filed (sessionId : String) (revives : Bool) (state : State Usage)
    (outcome : Outcome Usage) : Prop where
  kept : revives = false → Gone sessionId state → Gone sessionId outcome.1
  revived : revives = true → ¬ Gone sessionId outcome.1
  removed : .removed sessionId ∈ outcome.2 → Gone sessionId outcome.1

variable {other : String} {next waiting : State Usage} {revives : Bool}
variable {outcome : Outcome Usage}

theorem filed_kept (kept : Gone sessionId state → Gone sessionId next) :
    Filed sessionId false state (next, []) :=
  ⟨fun _ => kept, nofun, nofun⟩

theorem filed_removed (state : State Usage) (other : String) :
    Filed sessionId false state
      (state.removeSessionProjection other, [.removed other]) := by
  refine ⟨fun _ gone => gone.remove other, nofun, fun removed => ?_⟩
  obtain rfl := Event.removed.inj (List.mem_singleton.mp removed)
  exact gone_removed _ _

theorem filed_operate {operation : SftpOperation}
    (touched : operation.touches? = some other) :
    Filed sessionId (other == sessionId) state (state.operate operation, []) := by
  refine ⟨fun different gone => gone.operate fun same => ?_, ?_, nofun⟩
  · exact beq_eq_false_iff_ne.mp different
      (Option.some.inj (touched.symm.trans same))
  · intro same gone
    obtain rfl := beq_iff_eq.mp same
    exact (SftpOperation.present touched _).not_gone gone.sftp

theorem filed_operate_none {operation : SftpOperation}
    (untouched : operation.touches? = none) :
    Filed sessionId false state (state.operate operation, []) :=
  filed_kept fun gone => gone.operate (untouched ▸ nofun)

theorem filed_perform {action : MonitorAction Usage}
    (touched : action.touches? = some other) :
    Filed sessionId (other == sessionId) state (state.perform action, []) := by
  refine ⟨fun different gone => gone.perform fun same => ?_, ?_, nofun⟩
  · exact beq_eq_false_iff_ne.mp different
      (Option.some.inj (touched.symm.trans same))
  · intro same gone
    obtain rfl := beq_iff_eq.mp same
    exact MonitorAction.not_gone touched _ gone.monitor

theorem filed_perform_none {action : MonitorAction Usage}
    (untouched : action.touches? = none) :
    Filed sessionId false state (state.perform action, []) :=
  filed_kept fun gone => gone.perform (untouched ▸ nofun)

theorem filed_opened (state : State Usage) (session : SessionInfo) (now : ℤ) :
    Filed sessionId (session.sessionId == sessionId) state
      (state.opened session now, []) := by
  refine ⟨fun different gone => ?_, fun same gone => ?_, nofun⟩
  · exact gone.opened (beq_eq_false_iff_ne.mp different) now
  · obtain rfl := beq_iff_eq.mp same
    have listed := gone.session.sessions
    cases (FiniteMap.lookup_insert_self _ _ _).symm.trans listed

theorem filed_acceptAndSave (state : State Usage) (other : String)
    (response : Except AppErrorInfo Unit) :
    Filed sessionId (other == sessionId && SessionState.savesError response)
      state (state.withSession
        (state.session.acceptAndSaveHostIdentity other response), []) := by
  refine ⟨fun unsaved gone => ?_, fun saved gone => ?_, nofun⟩
  · refine gone.withSession (gone.session.acceptAndSave fun saves => ?_)
    rintro rfl
    simp [saves] at unsaved
  · obtain ⟨same, saves⟩ := Bool.and_eq_true_iff.mp saved
    obtain rfl := beq_iff_eq.mp same
    exact SessionState.not_gone_of_saved saves gone.session

theorem filed_challenge (state : State Usage)
    (payload : HostIdentityChallenge) :
    Filed sessionId (payload.sessionId == sessionId) state (state.withSession
      (state.session.applyHostIdentityChallenge payload), []) := by
  refine ⟨fun different gone => ?_, fun same gone => ?_, nofun⟩
  · exact gone.withSession (gone.session.applyHostIdentityChallenge
      (beq_eq_false_iff_ne.mp different))
  · obtain rfl := beq_iff_eq.mp same
    have card := gone.session.hostKeyChallenges
    cases (FiniteMap.lookup_insert_self _ _ _).symm.trans card

theorem Filed.waited (filed : Filed sessionId revives waiting outcome)
    (same : Gone sessionId state → Gone sessionId waiting) :
    Filed sessionId revives state outcome :=
  ⟨fun quiet gone => filed.kept quiet (same gone), filed.revived, filed.removed⟩

theorem continued_filed (state : State Usage) (call : Call)
    (response : Except AppErrorInfo (call.Reply Usage)) (now : ℤ) :
    Filed sessionId (call.revives sessionId response) state
      (continued state call response now) := by
  cases call with
  | openSession hostId =>
      cases response with
      | error error => exact filed_kept id
      | ok session => exact filed_opened state session now
  | closeSession other =>
      cases response with
      | error error => exact filed_kept id
      | ok done => exact filed_removed state other
  | decide answer other =>
      cases answer with
      | acceptAndSave => exact filed_acceptAndSave state other response
      | accept =>
          cases response with
          | error error =>
              exact filed_kept fun gone => gone.withSession
                (gone.session.accept other (.error error))
          | ok done =>
              exact filed_kept fun gone => gone.withSession
                (gone.session.accept other (.ok ()))
      | reject =>
          cases response with
          | error error =>
              exact filed_kept fun gone => gone.withSession
                (gone.session.reject other (.error error))
          | ok done => exact filed_removed state other
  | taskSnapshot other startedAt =>
      cases response with
      | error error => exact filed_operate rfl
      | ok tasks => exact filed_operate rfl
  | transfer other parentTaskId =>
      cases response with
      | error error => exact filed_operate rfl
      | ok task => exact filed_operate rfl
  | cancelTask taskId other =>
      cases response with
      | error error => exact filed_operate rfl
      | ok done => exact filed_kept id
  | clearTerminalTasks other =>
      cases response with
      | error error => exact filed_operate rfl
      | ok done => exact filed_operate rfl
  | startMonitoring other =>
      cases response with
      | error error => exact filed_perform_none rfl
      | ok task => exact filed_perform rfl
  | stopMonitoring other =>
      cases response with
      | error error => exact filed_perform_none rfl
      | ok done => exact filed_perform_none rfl
  | monitorStatus other =>
      cases response with
      | error error => exact filed_perform_none rfl
      | ok snapshot => exact filed_perform rfl

variable {action : Action Usage} {events : List Event}

theorem step_filed (stepped : machine.step state action = some outcome) :
    Filed sessionId (action.revives sessionId) state outcome := by
  change Workspace.step state action = _ at stepped
  cases action with
  | invoke call =>
      obtain ⟨-, stepped⟩ := Option.ite_none_right_eq_some.mp stepped
      obtain rfl := Option.some.inj stepped
      exact filed_kept fun gone => ⟨gone.session, gone.sftp, gone.monitor⟩
  | listDir other path =>
      obtain rfl := Option.some.inj stepped
      exact filed_operate rfl
  | ensureState other =>
      obtain rfl := Option.some.inj stepped
      exact filed_operate rfl
  | toggleSelect other path =>
      obtain rfl := Option.some.inj stepped
      exact filed_operate rfl
  | selectNetworkInterface other interfaceName =>
      obtain rfl := Option.some.inj stepped
      exact filed_perform_none rfl
  | setActiveView activeView =>
      obtain rfl := Option.some.inj stepped
      refine filed_kept fun gone => gone.withSession ?_
      obtain ⟨sessions, connections, cards, errors⟩ := gone.session
      exact ⟨sessions, connections, cards, errors⟩
  | removeSessionProjection other =>
      obtain rfl := Option.some.inj stepped
      exact filed_removed state other
  | answer call response now =>
      obtain ⟨-, stepped⟩ := Option.ite_none_right_eq_some.mp stepped
      obtain rfl := Option.some.inj stepped
      exact (continued_filed _ call response now).waited
        fun gone => ⟨gone.session, gone.sftp, gone.monitor⟩
  | listed request response =>
      obtain ⟨-, stepped⟩ := Option.ite_none_right_eq_some.mp stepped
      obtain rfl := Option.some.inj stepped
      have touched : (listed request response).touches? =
          some request.sessionId := by
        cases response <;> rfl
      exact (filed_operate touched).waited
        fun gone => ⟨gone.session, gone.sftp, gone.monitor⟩
  | sessionStatus payload =>
      obtain rfl := Option.some.inj stepped
      exact filed_kept fun gone =>
        gone.withSession (gone.session.applySessionStatus payload)
  | sessionProgress payload =>
      obtain rfl := Option.some.inj stepped
      exact filed_kept fun gone =>
        gone.withSession (gone.session.applySessionProgress payload)
  | hostIdentityChallenge payload =>
      obtain rfl := Option.some.inj stepped
      exact filed_challenge state payload
  | monitorSnapshot snapshot =>
      obtain rfl := Option.some.inj stepped
      exact filed_perform rfl
  | taskStatus event =>
      obtain rfl := Option.some.inj stepped
      exact filed_perform_none rfl
  | sftpProgress event =>
      obtain rfl := Option.some.inj stepped
      exact filed_operate_none rfl
  | sftpTaskStatus event =>
      obtain rfl := Option.some.inj stepped
      exact filed_operate_none rfl

variable {closed reached final : State Usage} {log : List Event}
variable {later : List (Action Usage)}

theorem Gone.run (gone : Gone sessionId closed)
    (run : machine.Run closed later log reached)
    (kept : ∀ action ∈ later, action.revives sessionId = false) :
    Gone sessionId reached := by
  induction run with
  | refl => exact gone
  | snoc _ stepped induction =>
      have before := induction fun action member =>
        kept action (List.mem_append_left _ member)
      exact (step_filed stepped).kept (kept _ List.mem_concat_self) before

/-- A session that has been removed stays gone, in every state from then on, just
when nothing that happens later brings it back. -/
theorem stays_gone_iff
    (stepped : machine.step state action = some (closed, events))
    (removed : .removed sessionId ∈ events)
    (run : machine.Run closed later log final) :
    (∀ early past reached, early <+: later →
      machine.Run closed early past reached → Gone sessionId reached) ↔
    ∀ action ∈ later, action.revives sessionId = false := by
  constructor
  · intro stays action member
    obtain ⟨early, past, before, events, next, ahead, earlier, taken⟩ :=
      run.step_of_mem member
    have gone := stays _ _ _ ahead (earlier.snoc taken)
    rw [← Bool.not_eq_true]
    exact fun revived => (step_filed taken).revived revived gone
  · intro kept early past reached ahead earlier
    refine ((step_filed stepped).removed removed).run earlier
      fun action member => ?_
    exact kept action (ahead.subset member)

/-- A session that is opened and closed again before the calls of its opening have
been answered. -/
def openedAndClosed : List (Action Unit) :=
  [.invoke (.openSession "h"),
    .answer (.openSession "h") (.ok ⟨"s", "h", "10.0.0.8", 22, "root",
      .connecting, 0⟩) 0,
    .invoke (.closeSession "s")]

/-- The events of a closed session are dropped. -/
theorem stays_gone_dropped :
    ∃ log state closed events past final,
      machine.Run initial openedAndClosed log state ∧
      machine.step state (.answer (.closeSession "s") (.ok ()) 1) =
        some (closed, events) ∧
      machine.Run closed [.sessionStatus ⟨"s", .disconnected, none⟩,
        .sftpTaskStatus ⟨"t", "s", .cancelled, none⟩] past final ∧
      Gone "s" final := by
  have executed : ∃ log state closed events past final,
      machine.Run initial openedAndClosed log state ∧
      machine.step state (.answer (.closeSession "s") (.ok ()) 1) =
        some (closed, events) ∧
      .removed "s" ∈ events ∧
      machine.Run closed [.sessionStatus ⟨"s", .disconnected, none⟩,
        .sftpTaskStatus ⟨"t", "s", .cancelled, none⟩] past final :=
    ⟨_, _, _, _, _, _, Machine.run_of_execute rfl, rfl,
      List.mem_singleton_self _, Machine.run_of_execute rfl⟩
  obtain ⟨log, state, closed, events, past, final, run, stepped, removed,
    later⟩ := executed
  have gone := (stays_gone_iff stepped removed later).mpr (by simp [Action.revives])
  exact ⟨log, state, closed, events, past, final, run, stepped, later,
    gone _ _ _ (List.prefix_refl _) later⟩

/-- Of a session that has been closed, the answers to the calls that were still under
way bring back a state in the store of transfers, take the mark that it is closed
away, and file a task in the store of the monitoring. -/
theorem late_answers_revive :
    ∃ log state closed events,
      machine.Run initial openedAndClosed log state ∧
      machine.step state (.answer (.closeSession "s") (.ok ()) 1) =
        some (closed, events) ∧
      .removed "s" ∈ events ∧
      (∃ past final, machine.Run closed
          [.listed ⟨"s", "/", 1⟩ (.error ⟨"SftpChannelError", none⟩)] past
          final ∧
        final.sftp.sessionStates "s" ≠ none) ∧
      (∃ past final, machine.Run closed
          [.answer (.taskSnapshot "s" 0) (.ok []) 2] past final ∧
        "s" ∉ final.sftp.closedSessions) ∧
      ∃ past final, machine.Run closed
          [.answer (.startMonitoring "s")
            (.ok ⟨"m", "monitor", some "s", .running, 0⟩) 2] past final ∧
        final.monitor.sessionTaskMap "s" ≠ none := by
  refine ⟨_, _, _, _, Machine.run_of_execute rfl, rfl,
    List.mem_singleton_self _, ⟨_, _, Machine.run_of_execute rfl, ?_⟩,
    ⟨_, _, Machine.run_of_execute rfl, ?_⟩,
    ⟨_, _, Machine.run_of_execute rfl, ?_⟩⟩
  · exact nofun
  · decide
  · exact nofun

end Workspace

end TitanSSH
