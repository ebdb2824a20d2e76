import TitanSSH.Storage.SecureStore

namespace TitanSSH

/-! The chain of two stores over whole histories of calls and outages. The
fallback always answers; the primary answers, or reports one of the failures
that send a call to the fallback. -/

structure ChainIo.OnlyOutages (io : ChainIo) : Prop where
  build : ∀ error, io.primary.buildError = some error →
    isSecretServiceUnavailable error = true
  operation : ∀ error, io.primary.operationError = some error →
    isSecretServiceUnavailable error = true
  fallback : io.fallback = {}

def ChainIo.primaryUp (io : ChainIo) : Bool :=
  io.primary.buildError.isNone && io.primary.operationError.isNone

theorem ChainIo.OnlyOutages.primary_cases {io : ChainIo}
    (outages : io.OnlyOutages) :
    (io.primaryUp = true ∧ io.primary = {}) ∨
    (io.primaryUp = false ∧ ∃ error, isSecretServiceUnavailable error = true ∧
      (io.primary.build = .error error ∨
        io.primary.build = .ok () ∧ io.primary.operationError = some error)) := by
  obtain ⟨⟨buildError, operationError⟩, fallback⟩ := io
  cases buildError with
  | some error =>
      exact .inr ⟨rfl, error, outages.build error rfl, .inl rfl⟩
  | none =>
      cases operationError with
      | some error =>
          exact .inr ⟨rfl, error, outages.operation error rfl, .inr ⟨rfl, rfl⟩⟩
      | none => exact .inl ⟨rfl, rfl⟩

namespace CredentialChain

variable {io : ChainIo}

theorem writeFallback_of_outages (outages : io.OnlyOutages)
    (chain : CredentialChain) :
    chain.writeFallback io key value =
      (.ok (), { chain with fallback := chain.fallback.insert key value }) := by
  simp [writeFallback, outages.fallback, EntryIo.build, EntryIo.setPassword]

theorem setWithFallback_of_outages (outages : io.OnlyOutages)
    (key value : String) (chain : CredentialChain) :
    chain.setWithFallback io key value =
      (.ok (),
        if io.primaryUp then
          { chain with primary := chain.primary.insert key value }
        else { chain with fallback := chain.fallback.insert key value }) := by
  obtain ⟨up, primary⟩ | ⟨down, error, unavailable, build | ⟨build, failing⟩⟩ :=
    outages.primary_cases
  · simp [setWithFallback, up, primary, EntryIo.build, EntryIo.setPassword]
  · simp [setWithFallback, down, build, unavailable,
      writeFallback_of_outages outages]
  · simp [setWithFallback, down, build, EntryIo.setPassword, failing,
      unavailable, writeFallback_of_outages outages]

theorem readFallback_of_outages (outages : io.OnlyOutages) (key : String)
    (chain : CredentialChain) :
    chain.readFallback io key =
      match chain.fallback key with
      | some value => .ok value
      | none => .error ⟨.credentialNotFound, key⟩ := by
  cases held : chain.fallback key <;>
    simp [readFallback, outages.fallback, EntryIo.build, EntryIo.getPassword,
      held, KeyringError.noEntryFound]

theorem getWithFallback_of_outages (outages : io.OnlyOutages) (key : String)
    (chain : CredentialChain) :
    chain.getWithFallback io key =
      match (if io.primaryUp then chain.primary key else none).or
        (chain.fallback key) with
      | some value => .ok value
      | none => .error ⟨.credentialNotFound, key⟩ := by
  have fallback := readFallback_of_outages outages key chain
  obtain ⟨up, primary⟩ | ⟨down, error, unavailable, build | ⟨build, failing⟩⟩ :=
    outages.primary_cases
  · cases held : chain.primary key with
    | some value =>
        simp [getWithFallback, up, primary, EntryIo.build, EntryIo.getPassword,
          held]
    | none =>
        simp [getWithFallback, up, primary, EntryIo.build, EntryIo.getPassword,
          held, KeyringError.noEntryFound, fallback]
  · simp [getWithFallback, down, build, unavailable, fallback]
  · simp [getWithFallback, down, build, EntryIo.getPassword, failing,
      unavailable, fallback]

theorem attemptDelete_available (key : String) (firstError : Option AppError)
    (cells : KeyedStore String String) :
    attemptDelete {} key firstError cells = (firstError, cells.erase key) := by
  cases held : cells key with
  | none =>
      simp [attemptDelete, EntryIo.build, EntryIo.deleteCredential, held,
        KeyringError.noEntryFound, KeyedStore.erase_of_absent held]
  | some value =>
      simp [attemptDelete, EntryIo.build, EntryIo.deleteCredential, held]

theorem deleteWithFallback_of_outages (outages : io.OnlyOutages)
    (key : String) (chain : CredentialChain) :
    chain.deleteWithFallback io key =
      (.ok (),
        { primary :=
            if io.primaryUp then chain.primary.erase key else chain.primary
          fallback := chain.fallback.erase key }) := by
  have fallback := attemptDelete_available key none chain.fallback
  rw [← outages.fallback] at fallback
  have primary : attemptDelete io.primary key none chain.primary =
      (none,
        if io.primaryUp then chain.primary.erase key else chain.primary) := by
    obtain ⟨up, primary⟩ |
        ⟨down, error, unavailable, build | ⟨build, failing⟩⟩ :=
      outages.primary_cases
    · rw [primary, attemptDelete_available, up, if_pos rfl]
    · simp [attemptDelete, build, unavailable, down]
    · simp [attemptDelete, build, EntryIo.deleteCredential, failing,
        unavailable, down]
  simp only [deleteWithFallback, primary, fallback]

end CredentialChain

inductive SecureCall
  | set (key value : String)
  | get (key : String)
  | delete (key : String)
  deriving DecidableEq, Repr

/-- A call and the outage that it meets, if any. -/
structure OutageCall where
  call : SecureCall
  io : ChainIo
  outages : io.OnlyOutages

namespace OutageCall

def perform (outageCall : OutageCall) (chain : CredentialChain) :
    CredentialChain :=
  match outageCall.call with
  | .set key value => (chain.setWithFallback outageCall.io key value).2
  | .get _ => chain
  | .delete key => (chain.deleteWithFallback outageCall.io key).2

/-- What the call does to the cell of a key, were there one cell a key. -/
def operation (key : String) (outageCall : OutageCall) :
    Option (CellOp String) :=
  match outageCall.call with
  | .set written value => if written = key then some (.set value) else none
  | .get _ => none
  | .delete deleted => if deleted = key then some .delete else none

def primaryOperation (key : String) (outageCall : OutageCall) :
    Option (CellOp String) :=
  if outageCall.io.primaryUp then outageCall.operation key else none

def fallbackOperation (key : String) (outageCall : OutageCall) :
    Option (CellOp String) :=
  match outageCall.operation key with
  | some (.set value) =>
      if outageCall.io.primaryUp then none else some (.set value)
  | operation => operation

theorem perform_primary (outageCall : OutageCall) (chain : CredentialChain)
    (key : String) :
    (outageCall.perform chain).primary key =
      (outageCall.primaryOperation key).elim (chain.primary key)
        CellOp.written := by
  obtain ⟨call, io, outages⟩ := outageCall
  cases call with
  | set written value =>
      simp only [perform, primaryOperation, operation,
        CredentialChain.setWithFallback_of_outages outages]
      cases io.primaryUp with
      | false => rfl
      | true =>
          by_cases same : written = key
          · simp [same, CellOp.written]
          · simp [same, KeyedStore.insert_of_ne (Ne.symm same)]
  | get read => simp [perform, primaryOperation, operation]
  | delete deleted =>
      simp only [perform, primaryOperation, operation,
        CredentialChain.deleteWithFallback_of_outages outages]
      cases io.primaryUp with
      | false => rfl
      | true =>
          by_cases same : deleted = key
          · simp [same, CellOp.written]
          · simp [same, KeyedStore.erase_of_ne (Ne.symm same)]

theorem perform_fallback (outageCall : OutageCall) (chain : CredentialChain)
    (key : String) :
    (outageCall.perform chain).fallback key =
      (outageCall.fallbackOperation key).elim (chain.fallback key)
        CellOp.written := by
  obtain ⟨call, io, outages⟩ := outageCall
  cases call with
  | set written value =>
      simp only [perform, fallbackOperation, operation,
        CredentialChain.setWithFallback_of_outages outages]
      by_cases same : written = key
      · cases io.primaryUp <;> simp [same, CellOp.written]
      · cases io.primaryUp <;>
          simp [same, KeyedStore.insert_of_ne (Ne.symm same)]
  | get read => simp [perform, fallbackOperation, operation]
  | delete deleted =>
      simp only [perform, fallbackOperation, operation,
        CredentialChain.deleteWithFallback_of_outages outages]
      by_cases same : deleted = key
      · simp [same, CellOp.written]
      · simp [same, KeyedStore.erase_of_ne (Ne.symm same)]

end OutageCall

namespace CredentialChain

def empty : CredentialChain where
  primary := fun _ => none
  fallback := fun _ => none

def afterCalls (calls : List OutageCall) : CredentialChain :=
  calls.foldl (fun chain call => call.perform chain) empty

def history (key : String) (calls : List OutageCall) : List (CellOp String) :=
  calls.filterMap (·.operation key)

def primaryHistory (key : String) (calls : List OutageCall) :
    List (CellOp String) :=
  calls.filterMap (·.primaryOperation key)

def fallbackHistory (key : String) (calls : List OutageCall) :
    List (CellOp String) :=
  calls.filterMap (·.fallbackOperation key)

theorem afterCalls_concat (calls : List OutageCall) (call : OutageCall) :
    afterCalls (calls ++ [call]) = call.perform (afterCalls calls) := by
  simp [afterCalls]

theorem filterMap_concat (select : α → Option β) (items : List α) (item : α) :
    (items ++ [item]).filterMap select =
      items.filterMap select ++ (select item).toList := by
  cases selected : select item <;> simp [selected]

theorem afterCalls_primary (calls : List OutageCall) (key : String) :
    (afterCalls calls).primary key =
      CellOp.latest (primaryHistory key calls) := by
  induction calls using List.reverseRecOn with
  | nil => rfl
  | append_singleton earlier call induction =>
      rw [afterCalls_concat, OutageCall.perform_primary, induction,
        primaryHistory, primaryHistory, filterMap_concat,
        CellOp.latest_append_toList]

theorem afterCalls_fallback (calls : List OutageCall) (key : String) :
    (afterCalls calls).fallback key =
      CellOp.latest (fallbackHistory key calls) := by
  induction calls using List.reverseRecOn with
  | nil => rfl
  | append_singleton earlier call induction =>
      rw [afterCalls_concat, OutageCall.perform_fallback, induction,
        fallbackHistory, fallbackHistory, filterMap_concat,
        CellOp.latest_append_toList]

/-- The calls that change the cell of a key meet the primary all in the same
state. -/
def Steady (key : String) (up : Bool) (calls : List OutageCall) : Prop :=
  ∀ call ∈ calls, call.operation key ≠ none → call.io.primaryUp = up

theorem primaryHistory_of_steady (steady : Steady key true calls) :
    primaryHistory key calls = history key calls := by
  apply List.filterMap_congr
  intro call member
  cases operation : call.operation key with
  | none => simp [OutageCall.primaryOperation, operation]
  | some change =>
      have up := steady call member (by simp [operation])
      simp [OutageCall.primaryOperation, operation, up]

theorem fallbackHistory_of_steady (steady : Steady key false calls) :
    fallbackHistory key calls = history key calls := by
  apply List.filterMap_congr
  intro call member
  cases operation : call.operation key with
  | none => simp [OutageCall.fallbackOperation, operation]
  | some change =>
      have down := steady call member (by simp [operation])
      cases change <;> simp [OutageCall.fallbackOperation, operation, down]

theorem fallbackHistory_deletes (steady : Steady key true calls) :
    ∀ change ∈ fallbackHistory key calls, change = .delete := by
  intro change member
  obtain ⟨call, called, selected⟩ := List.mem_filterMap.mp member
  cases operation : call.operation key with
  | none => simp [OutageCall.fallbackOperation, operation] at selected
  | some requested =>
      have up := steady call called (by simp [operation])
      cases requested with
      | set value => simp [OutageCall.fallbackOperation, operation, up] at selected
      | delete =>
          simp only [OutageCall.fallbackOperation, operation,
            Option.some.injEq] at selected
          exact selected.symm

/-- What a get finds: the cell of the primary while that is up, else or if it
is empty the cell of the fallback. -/
def answer (key : String) (up : Bool) (calls : List OutageCall) :
    Option String :=
  (if up then CellOp.latest (primaryHistory key calls) else none).or
    (CellOp.latest (fallbackHistory key calls))

theorem getWithFallback_afterCalls {io : ChainIo} (outages : io.OnlyOutages)
    (calls : List OutageCall) (key : String) :
    (afterCalls calls).getWithFallback io key =
      match answer key io.primaryUp calls with
      | some value => .ok value
      | none => .error ⟨.credentialNotFound, key⟩ := by
  rw [getWithFallback_of_outages outages, afterCalls_primary,
    afterCalls_fallback]
  rfl

theorem answer_of_steady
    (primaryEmpty : (afterCalls earlier).primary key = none)
    (fallbackEmpty : (afterCalls earlier).fallback key = none)
    (steady : Steady key up later)
    (found : answer key up (earlier ++ later) = some value) :
    CellOp.latest (history key (earlier ++ later)) = some value := by
  have histories : history key (earlier ++ later) =
      history key earlier ++ history key later := List.filterMap_append ..
  rw [afterCalls_primary] at primaryEmpty
  rw [afterCalls_fallback] at fallbackEmpty
  rw [histories]
  apply CellOp.latest_append_of_held
  have fallbackLatest :
      CellOp.latest (fallbackHistory key (earlier ++ later)) =
        CellOp.latest (fallbackHistory key later) := by
    rw [fallbackHistory, List.filterMap_append]
    exact CellOp.latest_append_of_cleared fallbackEmpty _
  rw [answer, fallbackLatest] at found
  cases up with
  | false =>
      rw [fallbackHistory_of_steady steady] at found
      simpa using found
  | true =>
      have primaryLatest :
          CellOp.latest (primaryHistory key (earlier ++ later)) =
            CellOp.latest (primaryHistory key later) := by
        rw [primaryHistory, List.filterMap_append]
        exact CellOp.latest_append_of_cleared primaryEmpty _
      rw [CellOp.latest_of_deletes (fallbackHistory_deletes steady),
        primaryLatest, primaryHistory_of_steady steady] at found
      simpa using found

theorem latest_of_deleted {select : OutageCall → Option (CellOp String)}
    (deleted : select call = some .delete)
    (onlyDeletes : ∀ after ∈ later, ∀ change,
      select after = some change → change = .delete)
    (earlier : List OutageCall) :
    CellOp.latest ((earlier ++ call :: later).filterMap select) = none := by
  have split : (earlier ++ call :: later).filterMap select =
      (earlier.filterMap select ++ [.delete]) ++ later.filterMap select := by
    simp [deleted]
  have cleared :
      CellOp.latest (earlier.filterMap select ++ [CellOp.delete]) = none :=
    CellOp.latest_append_singleton ..
  rw [split, CellOp.latest_append_of_cleared cleared]
  apply CellOp.latest_of_deletes
  intro change member
  obtain ⟨after, called, selected⟩ := List.mem_filterMap.mp member
  exact onlyDeletes after called change selected

/-- A delete that reaches both stores empties them until the next set. -/
theorem answer_of_deleted (deleted : call.call = .delete key)
    (reached : call.io.primaryUp = true)
    (unset : ∀ after ∈ later, ∀ value, after.call ≠ .set key value)
    (earlier : List OutageCall) (up : Bool) :
    answer key up (earlier ++ call :: later) = none := by
  have onlyDeletes : ∀ after ∈ later, ∀ change,
      after.operation key = some change → change = .delete := by
    intro after member change operation
    cases called : after.call with
    | set written value =>
        have different : written ≠ key := by
          rintro rfl
          exact unset after member value called
        simp [OutageCall.operation, called, different] at operation
    | get read => simp [OutageCall.operation, called] at operation
    | delete other =>
        simp only [OutageCall.operation, called] at operation
        split at operation
        · exact (Option.some.inj operation).symm
        · cases operation
  have operation : call.operation key = some .delete := by
    simp [OutageCall.operation, deleted]
  have primary :
      CellOp.latest (primaryHistory key (earlier ++ call :: later)) = none := by
    apply latest_of_deleted
    · simp [OutageCall.primaryOperation, reached, operation]
    · intro after member change selected
      unfold OutageCall.primaryOperation at selected
      split at selected
      · exact onlyDeletes after member change selected
      · cases selected
  have fallback :
      CellOp.latest (fallbackHistory key (earlier ++ call :: later)) = none := by
    apply latest_of_deleted
    · simp [OutageCall.fallbackOperation, operation]
    · intro after member change selected
      cases requested : after.operation key with
      | none => simp [OutageCall.fallbackOperation, requested] at selected
      | some request =>
          have deletes := onlyDeletes after member request requested
          simp only [OutageCall.fallbackOperation, requested, deletes,
            Option.some.injEq] at selected
          exact selected.symm
  rw [answer, primary, fallback]
  cases up <;> rfl

/-- The chain answers from two cells: the primary's, which takes the sets and
deletes made while the primary is up, and behind it the fallback's, which
takes the other sets and every delete. -/
theorem get_after_calls {io : ChainIo} (outages : io.OnlyOutages)
    (calls : List OutageCall) (key : String) :
    ((afterCalls calls).getWithFallback io key =
      match answer key io.primaryUp calls with
      | some value => .ok value
      | none => .error ⟨.credentialNotFound, key⟩) ∧
    (∀ earlier later value, calls = earlier ++ later →
      (afterCalls earlier).primary key = none →
      (afterCalls earlier).fallback key = none →
      Steady key io.primaryUp later →
      (afterCalls calls).getWithFallback io key = .ok value →
      CellOp.latest (history key calls) = some value) ∧
    ∀ earlier call later value, calls = earlier ++ call :: later →
      call.call = .delete key → call.io.primaryUp = true →
      (∀ after ∈ later, ∀ written, after.call ≠ .set key written) →
      (afterCalls calls).getWithFallback io key ≠ .ok value := by
  have answered := getWithFallback_afterCalls outages calls key
  refine ⟨answered, ?_, ?_⟩
  · rintro earlier later value rfl primaryEmpty fallbackEmpty steady found
    cases cell : answer key io.primaryUp (earlier ++ later) with
    | none =>
        rw [answered, cell] at found
        cases found
    | some held =>
        rw [answered, cell] at found
        cases found
        exact answer_of_steady primaryEmpty fallbackEmpty steady cell
  · rintro earlier call later value rfl deleted reached unset found
    rw [answered, answer_of_deleted deleted reached unset] at found
    cases found

theorem available : ChainIo.OnlyOutages {} where
  build := fun _ impossible => by cases impossible
  operation := fun _ impossible => by cases impossible
  fallback := rfl

/-- No daemon is running: building the entry of the primary fails. -/
def daemonDown : ChainIo where
  primary :=
    { buildError := some ⟨.platformFailure, "Platform secure storage failure"⟩ }

theorem daemonDown_outages : daemonDown.OnlyOutages where
  build := fun error failed => by
    cases failed
    rfl
  operation := fun _ impossible => by cases impossible
  fallback := rfl

theorem get_after_overwrite :
    (afterCalls
        [⟨.set "titanssh-host-1-password" "first", daemonDown,
            daemonDown_outages⟩,
          ⟨.set "titanssh-host-1-password" "second", daemonDown,
            daemonDown_outages⟩]).getWithFallback daemonDown
      "titanssh-host-1-password" = .ok "second" :=
  (get_after_calls daemonDown_outages _ _).1

/-- A set made during an outage is shadowed by the older value once the
primary is back, and a delete made during one leaves the value there. -/
theorem outage_splits_cell :
    (afterCalls
        [⟨.set "titanssh-host-1-password" "first", {}, available⟩,
          ⟨.set "titanssh-host-1-password" "second", daemonDown,
            daemonDown_outages⟩]).getWithFallback {}
      "titanssh-host-1-password" = .ok "first" ∧
    (afterCalls
        [⟨.set "titanssh-host-1-password" "first", {}, available⟩,
          ⟨.delete "titanssh-host-1-password", daemonDown,
            daemonDown_outages⟩]).getWithFallback {}
      "titanssh-host-1-password" = .ok "first" ∧
    (∀ chain : CredentialChain,
      (chain.setWithFallback daemonDown "titanssh-host-1-password"
        "second").1 = .ok () ∧
      (chain.deleteWithFallback daemonDown "titanssh-host-1-password").1 =
        .ok ()) := by
  refine ⟨rfl, rfl, fun chain => ?_⟩
  rw [setWithFallback_of_outages daemonDown_outages,
    deleteWithFallback_of_outages daemonDown_outages]
  exact ⟨rfl, rfl⟩

end CredentialChain

end TitanSSH
