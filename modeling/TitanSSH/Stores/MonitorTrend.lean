import TitanSSH.Stores.Monitor

namespace TitanSSH

/-! Selection and trend of the monitoring store, against the history of what was
applied to it. -/

variable {Usage : Type}

namespace MonitorAction

def applied? : MonitorAction Usage → Option (MonitorSnapshot Usage)
  | applySnapshot snapshot => some snapshot
  | fetchSnapshot (.ok snapshot) => some snapshot
  | _ => none

def appliedTo (sessionId : String) (action : MonitorAction Usage) :
    Option (MonitorSnapshot Usage) :=
  action.applied?.filter (·.sessionId = sessionId)

def clears (sessionId : String) : MonitorAction Usage → Bool
  | clearSession other => other == sessionId
  | _ => false

def session? : MonitorAction Usage → Option String
  | applySnapshot snapshot => some snapshot.sessionId
  | selectNetworkInterface sessionId _ => some sessionId
  | applyTaskStatus _ => none
  | fetchSnapshot (.ok snapshot) => some snapshot.sessionId
  | fetchSnapshot (.error _) => none
  | startMonitoring sessionId _ => some sessionId
  | stopMonitoring sessionId _ => some sessionId
  | clearSession sessionId => some sessionId

/-- The parser of the service gives no interface an empty name. -/
def Named (action : MonitorAction Usage) : Prop :=
  ∀ snapshot, action.applied? = some snapshot →
    ∀ item ∈ snapshot.network.interfaces, item.name ≠ ""

end MonitorAction

namespace MonitorState

/-- The last snapshot applied to a session since it was last cleared. -/
def lastApplied (sessionId : String) (actions : List (MonitorAction Usage)) :
    Option (MonitorSnapshot Usage) :=
  actions.foldl
    (fun last action =>
      if action.clears sessionId then none
      else (action.appliedTo sessionId).or last)
    none

/-- The state, and the snapshots applied to a session since its selection last
changed, after one more action. -/
def track (sessionId : String)
    (tracked : MonitorState Usage × List (MonitorSnapshot Usage))
    (action : MonitorAction Usage) :
    MonitorState Usage × List (MonitorSnapshot Usage) :=
  let next := tracked.1.perform action
  let kept :=
    if next.selectedInterfaces sessionId =
        tracked.1.selectedInterfaces sessionId then tracked.2
    else []
  (next, kept ++ (action.appliedTo sessionId).toList)

def sinceSelection (sessionId : String) (actions : List (MonitorAction Usage)) :
    List (MonitorSnapshot Usage) :=
  (actions.foldl (track sessionId) (empty, [])).2

def trend (state : MonitorState Usage) (sessionId : String) :
    List NetworkTrendSample :=
  (state.networkTrends sessionId).getD []

/-- The one snapshot is at most the window older than the other. -/
def withinWindow (snapshot latest : MonitorSnapshot Usage) : Bool :=
  decide (latest.timestamp - trendWindowMillis ≤ snapshot.timestamp)

/-- What the trend is to show of the snapshots since the selection changed. -/
def expectedTrend (selected : Option String)
    (snapshots : List (MonitorSnapshot Usage)) : List NetworkTrendSample :=
  match selected with
  | none => []
  | some name =>
      (Window.window withinWindow snapshots).map fun snapshot =>
        snapshot.sample name

variable {sessionId : String} {state : MonitorState Usage}
variable {snapshot : MonitorSnapshot Usage} {action : MonitorAction Usage}
variable {selected : Option String} {kept : Option (List NetworkTrendSample)}

/-! The history grows by one action at a time. -/

theorem performAll_append (actions : List (MonitorAction Usage))
    (action : MonitorAction Usage) :
    performAll (actions ++ [action]) = (performAll actions).perform action := by
  simp [performAll]

theorem lastApplied_append (actions : List (MonitorAction Usage))
    (action : MonitorAction Usage) :
    lastApplied sessionId (actions ++ [action]) =
      if action.clears sessionId then none
      else (action.appliedTo sessionId).or (lastApplied sessionId actions) := by
  simp [lastApplied]

theorem track_state (actions : List (MonitorAction Usage)) :
    (actions.foldl (track sessionId) (empty, [])).1 = performAll actions := by
  induction actions using List.reverseRecOn with
  | nil => rfl
  | append_singleton actions action induction =>
      rw [List.foldl_append, performAll_append, ← induction]
      rfl

theorem sinceSelection_append (actions : List (MonitorAction Usage))
    (action : MonitorAction Usage) :
    sinceSelection sessionId (actions ++ [action]) =
      (if (performAll (actions ++ [action])).selectedInterfaces sessionId =
          (performAll actions).selectedInterfaces sessionId
        then sinceSelection sessionId actions else []) ++
      (action.appliedTo sessionId).toList := by
  have tracked := @track_state _ sessionId actions
  rw [performAll_append, ← tracked]
  simp [sinceSelection, track]

/-! What single actions do to the view of a session. -/

structure View (Usage : Type) where
  snapshot : Option (MonitorSnapshot Usage)
  selected : Option String
  trend : Option (List NetworkTrendSample)

def view (state : MonitorState Usage) (sessionId : String) : View Usage :=
  ⟨state.snapshots sessionId, state.selectedInterfaces sessionId,
    state.networkTrends sessionId⟩

def View.apply (snapshot : MonitorSnapshot Usage) (view : View Usage) :
    View Usage :=
  let (selected, trend) := reselect snapshot view.selected view.trend
  ⟨some snapshot, selected, extendTrend snapshot selected trend⟩

def View.select (name : String) (view : View Usage) : View Usage :=
  { view with selected := some name, trend := none }

theorem view_applySnapshot_self (snapshot : MonitorSnapshot Usage)
    (state : MonitorState Usage) :
    (state.applySnapshot snapshot).view snapshot.sessionId =
      (state.view snapshot.sessionId).apply snapshot := by
  simp [view, applySnapshot, View.apply]

theorem view_applySnapshot_other (elsewhere : sessionId ≠ snapshot.sessionId) :
    (state.applySnapshot snapshot).view sessionId = state.view sessionId := by
  simp [view, applySnapshot, elsewhere, KeyedStore.insert_of_ne elsewhere]

theorem view_selectNetworkInterface_self (state : MonitorState Usage)
    (sessionId name : String) :
    (state.selectNetworkInterface sessionId name).view sessionId =
        state.view sessionId ∨
      ∃ snapshot, (state.view sessionId).snapshot = some snapshot ∧
        snapshot.network.available = true ∧ snapshot.offers name = true ∧
        (state.view sessionId).selected ≠ some name ∧
        (state.selectNetworkInterface sessionId name).view sessionId =
          (state.view sessionId).select name := by
  unfold selectNetworkInterface
  cases known : state.snapshots sessionId with
  | none => exact .inl rfl
  | some snapshot =>
      simp only
      split
      · exact .inl rfl
      · next acceptable =>
          split
          · exact .inl rfl
          · next other =>
              simp only [Bool.or_eq_true, Bool.not_eq_true', not_or,
                Bool.not_eq_false] at acceptable
              exact .inr ⟨snapshot, known, acceptable.1, acceptable.2, other,
                by simp [view, View.select]⟩

theorem view_selectNetworkInterface_other {other : String}
    (elsewhere : sessionId ≠ other) (name : String) :
    (state.selectNetworkInterface other name).view sessionId =
      state.view sessionId := by
  unfold selectNetworkInterface
  split
  · rfl
  · split
    · rfl
    · split
      · rfl
      · simp [view, KeyedStore.insert_of_ne elsewhere,
          KeyedStore.erase_of_ne elsewhere]

theorem view_applyTaskStatus (event : TaskStatusEvent) :
    (state.applyTaskStatus event).view sessionId = state.view sessionId := by
  unfold applyTaskStatus
  split <;> rfl

theorem view_startMonitoring (other : String)
    (response : Except AppErrorInfo TaskInfo) :
    (state.startMonitoring other response).view sessionId =
      state.view sessionId := by
  cases response with
  | error error => rfl
  | ok task => rfl

theorem view_stopMonitoring (other : String)
    (response : Except AppErrorInfo Unit) :
    (state.stopMonitoring other response).view sessionId =
      state.view sessionId := by
  cases response with
  | error error => rfl
  | ok done => rfl

theorem view_clearSession_self (state : MonitorState Usage)
    (sessionId : String) :
    (state.clearSession sessionId).view sessionId = ⟨none, none, none⟩ := by
  simp [view, clearSession]

theorem view_clearSession_other {other : String}
    (elsewhere : sessionId ≠ other) :
    (state.clearSession other).view sessionId = state.view sessionId := by
  simp [view, clearSession, KeyedStore.erase_of_ne elsewhere]

theorem view_perform_other (elsewhere : action.session? ≠ some sessionId) :
    (state.perform action).view sessionId = state.view sessionId := by
  cases action with
  | applySnapshot snapshot =>
      apply view_applySnapshot_other
      exact fun same => elsewhere (congrArg some same.symm)
  | selectNetworkInterface other name =>
      apply view_selectNetworkInterface_other
      exact fun same => elsewhere (congrArg some same.symm)
  | applyTaskStatus event => exact view_applyTaskStatus event
  | fetchSnapshot response =>
      cases response with
      | error error => rfl
      | ok snapshot =>
          apply view_applySnapshot_other
          exact fun same => elsewhere (congrArg some same.symm)
  | startMonitoring other response => exact view_startMonitoring other response
  | stopMonitoring other response => exact view_stopMonitoring other response
  | clearSession other =>
      apply view_clearSession_other
      exact fun same => elsewhere (congrArg some same.symm)

/-- The four things that an action can do to the view of a session. -/
inductive Change (sessionId : String) (action : MonitorAction Usage)
    (before after : View Usage) : Prop
  | applied (snapshot : MonitorSnapshot Usage)
      (isApplied : action.applied? = some snapshot)
      (own : snapshot.sessionId = sessionId)
      (holds : after = before.apply snapshot)
  | cleared (clears : action.clears sessionId = true)
      (nothing : action.appliedTo sessionId = none)
      (holds : after = ⟨none, none, none⟩)
  | chosen (snapshot : MonitorSnapshot Usage) (name : String)
      (keeps : action.clears sessionId = false)
      (nothing : action.appliedTo sessionId = none)
      (latest : before.snapshot = some snapshot)
      (available : snapshot.network.available = true)
      (offered : snapshot.offers name = true)
      (different : before.selected ≠ some name)
      (holds : after = before.select name)
  | unchanged (keeps : action.clears sessionId = false)
      (nothing : action.appliedTo sessionId = none) (holds : after = before)

theorem change_applied {action : MonitorAction Usage}
    (isApplied : action.applied? = some snapshot)
    (performed : state.perform action = state.applySnapshot snapshot)
    (keeps : action.clears sessionId = false) :
    Change sessionId action (state.view sessionId)
      ((state.perform action).view sessionId) := by
  rw [performed]
  rcases eq_or_ne sessionId snapshot.sessionId with rfl | elsewhere
  · exact .applied snapshot isApplied rfl (view_applySnapshot_self _ _)
  · exact .unchanged keeps
      (by simp [MonitorAction.appliedTo, isApplied, elsewhere.symm])
      (view_applySnapshot_other elsewhere)

theorem change (state : MonitorState Usage) (sessionId : String)
    (action : MonitorAction Usage) :
    Change sessionId action (state.view sessionId)
      ((state.perform action).view sessionId) := by
  cases action with
  | applySnapshot snapshot => exact change_applied rfl rfl rfl
  | selectNetworkInterface other name =>
      rcases eq_or_ne sessionId other with rfl | elsewhere
      · cases view_selectNetworkInterface_self state sessionId name with
        | inl same => exact .unchanged rfl rfl same
        | inr chosen =>
            obtain ⟨snapshot, latest, available, offered, different, holds⟩ :=
              chosen
            exact .chosen snapshot name rfl rfl latest available offered
              different holds
      · exact .unchanged rfl rfl (view_selectNetworkInterface_other elsewhere _)
  | applyTaskStatus event => exact .unchanged rfl rfl (view_applyTaskStatus _)
  | fetchSnapshot response =>
      cases response with
      | error error => exact .unchanged rfl rfl rfl
      | ok snapshot => exact change_applied rfl rfl rfl
  | startMonitoring other response =>
      exact .unchanged rfl rfl (view_startMonitoring _ _)
  | stopMonitoring other response =>
      exact .unchanged rfl rfl (view_stopMonitoring _ _)
  | clearSession other =>
      rcases eq_or_ne sessionId other with rfl | elsewhere
      · exact .cleared (by simp [MonitorAction.clears]) rfl
          (view_clearSession_self _ _)
      · exact .unchanged (by simp [MonitorAction.clears, elsewhere.symm]) rfl
          (view_clearSession_other elsewhere)

/-! The selection and the trend that a snapshot leaves. -/

/-- A snapshot keeps the selection, drops it for want of interfaces, or makes
another. -/
theorem reselect_cases (snapshot : MonitorSnapshot Usage)
    (selected : Option String) (kept : Option (List NetworkTrendSample)) :
    (snapshot.network.available = false ∧
      reselect snapshot selected kept = (selected, kept)) ∨
    (snapshot.network.interfaces = [] ∧
      reselect snapshot selected kept = (none, none)) ∨
    (∃ name, selected = some name ∧ snapshot.offers name = true ∧
      reselect snapshot selected kept = (selected, kept)) ∨
    (∃ name, selected ≠ some name ∧ snapshot.offers name = true ∧
      reselect snapshot selected kept = (some name, none)) := by
  unfold reselect
  cases available : snapshot.network.available with
  | false => exact .inl ⟨rfl, rfl⟩
  | true =>
      right
      cases offering : snapshot.network.interfaces with
      | nil => exact .inl ⟨rfl, rfl⟩
      | cons first rest =>
          right
          have offersFirst : snapshot.offers first.name = true := by
            simp [MonitorSnapshot.offers, offering]
          cases stays : selected.any snapshot.offers with
          | true =>
              obtain ⟨name, rfl, offers⟩ := (Option.any_eq_true _ _).mp stays
              exact .inl ⟨name, rfl, offers, by simp⟩
          | false =>
              have other : selected ≠ some first.name := by
                rintro rfl
                simp [offersFirst] at stays
              exact .inr ⟨first.name, other, offersFirst, by
                simp [other.symm]⟩

theorem isRecent_sample (name : String)
    (early late : MonitorSnapshot Usage) :
    isRecent (early.sample name) (late.sample name) =
      withinWindow early late := rfl

theorem withinWindow_self (snapshot : MonitorSnapshot Usage) :
    withinWindow snapshot snapshot = true := by
  apply decide_eq_true
  unfold trendWindowMillis
  omega

theorem expectedTrend_append (name : String)
    (snapshots : List (MonitorSnapshot Usage))
    (snapshot : MonitorSnapshot Usage) :
    expectedTrend (some name) (snapshots ++ [snapshot]) =
      Window.push isRecent (expectedTrend (some name) snapshots)
        (snapshot.sample name) := by
  unfold expectedTrend
  simp only [Window.window_append_singleton (withinWindow_self snapshot)]
  exact Window.map_push (isRecent_sample name) _ _

theorem extendTrend_some {name : String} (nonempty : name ≠ "")
    (snapshot : MonitorSnapshot Usage)
    (kept : Option (List NetworkTrendSample)) :
    (extendTrend snapshot (some name) kept).getD [] =
      Window.push isRecent (kept.getD []) (snapshot.sample name) := by
  have given : (some name).filter (· ≠ "") = some name := by
    simp [Option.filter, nonempty]
  rw [extendTrend, given]
  rfl

theorem extendTrend_expected {snapshots : List (MonitorSnapshot Usage)}
    (nonempty : ∀ name, selected = some name → name ≠ "")
    (expected : kept.getD [] = expectedTrend selected snapshots)
    (snapshot : MonitorSnapshot Usage) :
    (extendTrend snapshot selected kept).getD [] =
      expectedTrend selected (snapshots ++ [snapshot]) := by
  cases selected with
  | none => exact expected
  | some name =>
      rw [extendTrend_some (nonempty name rfl), expectedTrend_append, expected]

/-! The view against the history. -/

/-- What the view of a session is to show of the last snapshot applied to it and of
those applied since its selection changed. -/
structure Follows (view : View Usage) (last : Option (MonitorSnapshot Usage))
    (snapshots : List (MonitorSnapshot Usage)) : Prop where
  latest : view.snapshot = last
  proper : ∀ snapshot, last = some snapshot →
    ∀ item ∈ snapshot.network.interfaces, item.name ≠ ""
  nonempty : ∀ name, view.selected = some name → name ≠ ""
  chosen : ∀ snapshot, last = some snapshot →
    snapshot.network.available = true →
      (∀ name, view.selected = some name → snapshot.offers name = true) ∧
      (view.selected = none ↔ snapshot.network.interfaces = [])
  offered : ∀ name, view.selected = some name → ∀ snapshot ∈ snapshots,
    snapshot.network.available = true → snapshot.offers name = true
  trend : view.trend.getD [] = expectedTrend view.selected snapshots

theorem ne_empty_of_offers {name : String}
    (proper : ∀ item ∈ snapshot.network.interfaces, item.name ≠ "")
    (offers : snapshot.offers name = true) : name ≠ "" := by
  obtain ⟨item, member, named⟩ := List.any_eq_true.mp offers
  exact (beq_iff_eq.mp named) ▸ proper item member

theorem interfaces_ne_nil {name : String}
    (offers : snapshot.offers name = true) :
    snapshot.network.interfaces ≠ [] := by
  intro nothing
  simp [MonitorSnapshot.offers, nothing] at offers

variable {before after : View Usage} {last : Option (MonitorSnapshot Usage)}
variable {snapshots : List (MonitorSnapshot Usage)}

theorem Follows.initial : Follows (⟨none, none, none⟩ : View Usage) none snapshots :=
  ⟨rfl, nofun, nofun, nofun, nofun, rfl⟩

theorem Follows.extend (follows : Follows before last snapshots)
    (proper : ∀ item ∈ snapshot.network.interfaces, item.name ≠ "")
    (kept : reselect snapshot before.selected before.trend =
      (before.selected, before.trend))
    (chosen : snapshot.network.available = true →
      ∃ name, before.selected = some name ∧ snapshot.offers name = true) :
    Follows (before.apply snapshot) (some snapshot)
      (snapshots ++ [snapshot]) := by
  have applied : before.apply snapshot = ⟨some snapshot, before.selected,
      extendTrend snapshot before.selected before.trend⟩ := by
    simp [View.apply, kept]
  rw [applied]
  constructor
  case latest => rfl
  case proper =>
      rintro latest ⟨⟩
      exact proper
  case nonempty => exact follows.nonempty
  case chosen =>
      rintro latest ⟨⟩ available
      obtain ⟨name, selected, offers⟩ := chosen available
      constructor
      · intro other same
        obtain rfl := Option.some.inj (selected.symm.trans same)
        exact offers
      · simp [selected, interfaces_ne_nil offers]
  case offered =>
      intro name selected other member available
      cases List.mem_append.mp member with
      | inl earlier => exact follows.offered name selected other earlier available
      | inr own =>
          obtain rfl := List.mem_singleton.mp own
          obtain ⟨another, same, offers⟩ := chosen available
          obtain rfl := Option.some.inj (same.symm.trans selected)
          exact offers
  case trend => exact extendTrend_expected follows.nonempty follows.trend snapshot

theorem Follows.restart {name : String}
    (proper : ∀ item ∈ snapshot.network.interfaces, item.name ≠ "")
    (offers : snapshot.offers name = true)
    (made : reselect snapshot before.selected before.trend =
      (some name, none)) :
    Follows (before.apply snapshot) (some snapshot) [snapshot] := by
  have applied : before.apply snapshot = ⟨some snapshot, some name,
      extendTrend snapshot (some name) none⟩ := by
    simp [View.apply, made]
  rw [applied]
  constructor
  case latest => rfl
  case proper =>
      rintro latest ⟨⟩
      exact proper
  case nonempty =>
      rintro other ⟨⟩
      exact ne_empty_of_offers proper offers
  case chosen =>
      rintro latest ⟨⟩ -
      constructor
      · rintro other ⟨⟩
        exact offers
      · simp [interfaces_ne_nil offers]
  case offered =>
      rintro other ⟨⟩ latest member -
      exact List.mem_singleton.mp member ▸ offers
  case trend =>
      apply @extendTrend_expected _ _ _ []
      · rintro other ⟨⟩
        exact ne_empty_of_offers proper offers
      · rfl

theorem Follows.drop (nothing : snapshot.network.interfaces = [])
    (dropped : reselect snapshot before.selected before.trend = (none, none)) :
    Follows (before.apply snapshot) (some snapshot) snapshots := by
  have applied : before.apply snapshot = ⟨some snapshot, none, none⟩ := by
    simp [View.apply, dropped, extendTrend]
  rw [applied]
  constructor
  case latest => rfl
  case proper =>
      rintro latest ⟨⟩ item member
      simp [nothing] at member
  case nonempty => nofun
  case chosen =>
      rintro latest ⟨⟩ -
      exact ⟨nofun, by simp [nothing]⟩
  case offered => nofun
  case trend => rfl

theorem Follows.select {name : String}
    (follows : Follows before last snapshots)
    (latest : before.snapshot = some snapshot)
    (offers : snapshot.offers name = true) :
    Follows (before.select name) last [] := by
  have known : last = some snapshot := follows.latest.symm.trans latest
  constructor
  case latest => exact follows.latest
  case proper => exact follows.proper
  case nonempty =>
      rintro other ⟨⟩
      exact ne_empty_of_offers (follows.proper snapshot known) offers
  case chosen =>
      rintro other same -
      obtain rfl := Option.some.inj (known.symm.trans same)
      constructor
      · rintro another ⟨⟩
        exact offers
      · simp [View.select, interfaces_ne_nil offers]
  case offered => nofun
  case trend => rfl

/-- The snapshots since the selection changed, with the one that an action applies. -/
def advance (before after : View Usage)
    (snapshots : List (MonitorSnapshot Usage))
    (applied : Option (MonitorSnapshot Usage)) :
    List (MonitorSnapshot Usage) :=
  (if after.selected = before.selected then snapshots else []) ++ applied.toList

theorem Follows.apply (follows : Follows before last snapshots)
    (proper : ∀ item ∈ snapshot.network.interfaces, item.name ≠ "") :
    Follows (before.apply snapshot) (some snapshot)
      (advance before (before.apply snapshot) snapshots (some snapshot)) := by
  rcases reselect_cases snapshot before.selected before.trend with
    ⟨unavailable, kept⟩ | ⟨nothing, dropped⟩ | ⟨name, selected, offers, kept⟩ |
    ⟨name, other, offers, made⟩
  · have same : (before.apply snapshot).selected = before.selected := by
      simp [View.apply, kept]
    rw [advance, if_pos same]
    exact follows.extend proper kept (by simp [unavailable])
  · exact .drop nothing dropped
  · have same : (before.apply snapshot).selected = before.selected := by
      simp [View.apply, kept]
    rw [advance, if_pos same]
    exact follows.extend proper kept fun _ => ⟨name, selected, offers⟩
  · have changed : (before.apply snapshot).selected ≠ before.selected := by
      simpa [View.apply, made] using other.symm
    rw [advance, if_neg changed]
    exact .restart proper offers made

theorem Follows.perform (follows : Follows before last snapshots)
    (named : action.Named) (changed : Change sessionId action before after) :
    Follows after
      (if action.clears sessionId then none
        else (action.appliedTo sessionId).or last)
      (advance before after snapshots (action.appliedTo sessionId)) := by
  cases changed with
  | applied snapshot isApplied own holds =>
      have appliedTo : action.appliedTo sessionId = some snapshot := by
        simp [MonitorAction.appliedTo, isApplied, own]
      have keeps : action.clears sessionId = false := by
        cases action with
        | clearSession other => cases isApplied
        | _ => rfl
      rw [appliedTo, keeps, holds]
      exact follows.apply (named snapshot isApplied)
  | cleared clears nothing holds =>
      rw [clears, holds]
      exact .initial
  | chosen snapshot name keeps nothing latest available offered different holds =>
      have changes : after.selected ≠ before.selected := by
        rw [holds]
        exact different.symm
      rw [advance, if_neg changes, nothing, keeps, holds]
      exact follows.select latest offered
  | unchanged keeps nothing holds =>
      rw [advance, if_pos (congrArg View.selected holds), nothing, keeps, holds]
      simpa using follows

theorem follows_performAll (actions : List (MonitorAction Usage))
    (named : ∀ action ∈ actions, action.Named) :
    Follows ((performAll actions).view sessionId)
      (lastApplied sessionId actions) (sinceSelection sessionId actions) := by
  induction actions using List.reverseRecOn with
  | nil => exact .initial
  | append_singleton actions action induction =>
      have follows := induction fun other member =>
        named other (List.mem_append_left _ member)
      have next := follows.perform (named action (by simp))
        (change (performAll actions) sessionId action)
      rw [← performAll_append] at next
      rw [lastApplied_append, sinceSelection_append]
      exact next

/-- The selection is one of the interfaces last seen, and the trend shows exactly the
recent snapshots since the selection was made, each with its interface alone. -/
theorem selection_and_trend (actions : List (MonitorAction Usage))
    (named : ∀ action ∈ actions, action.Named) (sessionId : String) :
    (∀ snapshot, lastApplied sessionId actions = some snapshot →
      snapshot.network.available = true →
        (∀ name, (performAll actions).selectedInterfaces sessionId = some name →
          ∃ item ∈ snapshot.network.interfaces, item.name = name) ∧
        ((performAll actions).selectedInterfaces sessionId = none ↔
          snapshot.network.interfaces = [])) ∧
    (performAll actions).trend sessionId =
      expectedTrend ((performAll actions).selectedInterfaces sessionId)
        (sinceSelection sessionId actions) ∧
    (∀ name, (performAll actions).selectedInterfaces sessionId = some name →
      ∀ snapshot ∈ sinceSelection sessionId actions,
        snapshot.network.available = true →
          ∃ item, snapshot.interface? name = some item ∧ item.name = name) ∧
    ∀ action : MonitorAction Usage, action.session? ≠ some sessionId →
      ((performAll actions).perform action).view sessionId =
        (performAll actions).view sessionId := by
  have follows := @follows_performAll _ sessionId actions named
  refine ⟨?_, follows.trend, ?_, fun action elsewhere =>
    view_perform_other elsewhere⟩
  · intro snapshot latest available
    obtain ⟨offered, missing⟩ := follows.chosen snapshot latest available
    refine ⟨fun name selected => ?_, missing⟩
    obtain ⟨item, member, same⟩ := List.any_eq_true.mp (offered name selected)
    exact ⟨item, member, beq_iff_eq.mp same⟩
  · intro name selected snapshot member available
    have offers := follows.offered name selected snapshot member available
    rw [MonitorSnapshot.interface?, if_pos available]
    obtain ⟨item, found⟩ := Option.isSome_iff_exists.mp
      (List.find?_isSome.mpr (List.any_eq_true.mp offers))
    exact ⟨item, found, by simpa using List.find?_some found⟩

/-- Two interfaces of which the user selects the second, and a later snapshot. -/
theorem selection_and_trend_selected :
    let snapshot (timestamp : ℤ) (rate : ℕ) : MonitorSnapshot ℕ :=
      ⟨"s", timestamp, none, none, none, none, none,
        ⟨true, [⟨"eth0", some 7, none⟩, ⟨"eth1", some rate, none⟩]⟩⟩
    (performAll [.applySnapshot (snapshot 0 1),
        .selectNetworkInterface "s" "eth1",
        .applySnapshot (snapshot 2000 9)]).trend "s" =
      [⟨2000, some 9, none⟩] := by
  intro snapshot
  have named : ∀ action ∈ [MonitorAction.applySnapshot (snapshot 0 1),
      .selectNetworkInterface "s" "eth1",
      .applySnapshot (snapshot 2000 9)], action.Named := by
    intro action member latest applied item offered
    simp only [List.mem_cons, List.not_mem_nil, or_false] at member
    rcases member with rfl | rfl | rfl
    all_goals cases applied
    all_goals
      simp only [snapshot, List.mem_cons, List.not_mem_nil, or_false] at offered
      rcases offered with rfl | rfl <;> decide
  exact (selection_and_trend _ named "s").2.1.trans (by decide)

end MonitorState

end TitanSSH
