import TitanSSH.Core.HostConfig.Credentials

namespace TitanSSH

/-! The records of the trust store against the endpoints that `hosts.json` names,
over runs of saves and deletes. -/

abbrev Endpoint := String × UInt16

def HostConfig.endpoint (host : HostConfig) : Endpoint :=
  (host.host, host.port)

def HostCall.hostId : HostCall → String
  | .save request => request.id
  | .delete hostId => hostId

/-- A write that fails leaves no list in which an id stands twice. -/
def HostStoreIo.LeavesDistinct (io : HostStoreIo) : Prop :=
  ∀ error hosts, io.writeFault = some (.write error (some (.document hosts))) →
    (hosts.map (·.id)).Nodup

theorem HostStore.load_ok {io : HostStoreIo} {store : HostStore}
    {hosts : List HostConfig} (loaded : store.load io = .ok hosts) :
    hosts = [] ∨ store.file = some (.document hosts) := by
  unfold load at loaded
  split at loaded
  · exact .inl (Except.ok.inj loaded).symm
  · exact .inl (Except.ok.inj loaded).symm
  · next content present =>
      split at loaded
      · cases loaded
      · cases loaded
      · exact .inr (Except.ok.inj loaded ▸ present)

namespace HostConfigService

variable {io : HostConfigIo} {call : HostCall} {endpoint : Endpoint}
variable {service after : HostConfigService}
variable {hosts committed : List HostConfig} {oldEndpoint : Option Endpoint}
variable {trust remaining : Option TrustStore} {error : AppError}

def execute (io : HostConfigIo) (call : HostCall)
    (service : HostConfigService) :
    Except AppError (List HostConfig) × HostConfigService :=
  match call with
  | .save request => service.save io request
  | .delete hostId => service.delete io hostId

def executeAll (service : HostConfigService)
    (steps : List (HostConfigIo × HostCall)) : HostConfigService :=
  steps.foldl (fun current step => (current.execute step.1 step.2).2) service

/-- A call up to its commit: the new list, and the endpoint that was given up. -/
def commit (io : HostConfigIo) (call : HostCall)
    (service : HostConfigService) :
    Except AppError (List HostConfig × Option Endpoint) × HostConfigService :=
  match call with
  | .save request =>
      match validateSaveRequest request with
      | .error error => (.error error, service)
      | .ok () =>
          match service.attemptSave io request with
          | (.ok result, _, after) => (.ok result, after)
          | (.error error, writtenKeys, failed) =>
              (.error error,
                { failed with
                  credentialStore := discardCredentials io.credentials
                    writtenKeys failed.credentialStore })
  | .delete hostId =>
      match service.hostStore.load io.hosts with
      | .error error => (.error error, service)
      | .ok existing =>
          match service.hostStore.save io.hosts
              (existing.filter (·.id ≠ hostId)) with
          | (.error error, hostStore) =>
              (.error error, { service with hostStore := hostStore })
          | (.ok (), hostStore) =>
              (.ok (existing.filter (·.id ≠ hostId),
                  (existing.find? (·.id = hostId)).map HostConfig.endpoint),
                { service with
                  hostStore := hostStore
                  credentialStore := discardCredentials io.credentials
                    [passwordKey hostId, passphraseKey hostId]
                    service.credentialStore })

/-- The old endpoint, unless the new list still names it. -/
def abandoned (hosts : List HostConfig) (oldEndpoint : Option Endpoint) :
    List Endpoint :=
  oldEndpoint.toList.filter fun endpoint =>
    !hosts.any fun item =>
      item.host == endpoint.1 && item.port == endpoint.2

/-- `forget_endpoint` for each of the endpoints, up to the first failure. -/
def forgetEach (io : StoreIo) :
    List Endpoint → Option TrustStore →
      Except AppError Unit × Option TrustStore
  | [], trust => (.ok (), trust)
  | (host, port) :: rest, trust =>
      match forgetEndpoint io host port trust with
      | (.ok (), remaining) => forgetEach io rest remaining
      | (.error error, remaining) =>
          (.error ⟨.hostTrustCleanupFailed,
              "endpoint " ++ host ++ ":" ++ toString port.toNat ++
                " 的信任记录清理失败: " ++ error.toString⟩, remaining)

/-- The endpoints that a call hands to `forget_endpoint`. -/
def invocations (io : HostConfigIo) (call : HostCall)
    (service : HostConfigService) : List Endpoint :=
  match (service.commit io call).1 with
  | .ok (hosts, oldEndpoint) => abandoned hosts oldEndpoint
  | .error _ => []

theorem cleanup_eq (io : HostConfigIo) (hosts : List HostConfig)
    (oldEndpoint : Option Endpoint) (service : HostConfigService) :
    service.cleanupUnreferencedEndpoint io hosts oldEndpoint =
      ((forgetEach io.trust (abandoned hosts oldEndpoint)
          service.trustStore).1,
        { service with
          trustStore := (forgetEach io.trust (abandoned hosts oldEndpoint)
            service.trustStore).2 }) := by
  unfold cleanupUnreferencedEndpoint abandoned
  cases oldEndpoint with
  | none => rfl
  | some endpoint =>
      obtain ⟨host, port⟩ := endpoint
      cases referenced : hosts.any fun item =>
          item.host == host && item.port == port with
      | true => simp [referenced, forgetEach]
      | false =>
          simp only [referenced, Option.toList_some, Bool.not_false,
            List.filter_cons_of_pos, List.filter_nil, forgetEach]
          rcases forgetEndpoint io.trust host port service.trustStore with
            ⟨outcome, remaining⟩
          cases outcome <;> rfl

/-- What a call makes of its commit. -/
def conclude (io : HostConfigIo) :
    Except AppError (List HostConfig × Option Endpoint) × HostConfigService →
      Except AppError (List HostConfig) × HostConfigService
  | (.error error, after) => (.error error, after)
  | (.ok (hosts, oldEndpoint), committed) =>
      ((forgetEach io.trust (abandoned hosts oldEndpoint)
          committed.trustStore).1.map fun _ => hosts,
        { committed with
          trustStore := (forgetEach io.trust (abandoned hosts oldEndpoint)
            committed.trustStore).2 })

theorem conclude_ok (io : HostConfigIo) (hosts : List HostConfig)
    (oldEndpoint : Option Endpoint) (service : HostConfigService) :
    (match service.cleanupUnreferencedEndpoint io hosts oldEndpoint with
      | (.ok (), after) => (.ok hosts, after)
      | (.error error, after) => (.error error, after)) =
      conclude io (.ok (hosts, oldEndpoint), service) := by
  simp only [cleanup_eq, conclude]
  cases (forgetEach io.trust (abandoned hosts oldEndpoint)
    service.trustStore).1 <;> rfl

theorem execute_eq (io : HostConfigIo) (call : HostCall)
    (service : HostConfigService) :
    service.execute io call = conclude io (service.commit io call) := by
  cases call with
  | save request =>
      simp only [execute, save, commit]
      cases validated : validateSaveRequest request with
      | error error => rfl
      | ok _ =>
          rcases attempted : service.attemptSave io request with
            ⟨outcome, keys, reached⟩
          cases outcome with
          | error error => rfl
          | ok result => exact conclude_ok io result.1 result.2 reached
  | delete hostId =>
      simp only [execute, delete, commit]
      cases loaded : service.hostStore.load io.hosts with
      | error error => rfl
      | ok existing =>
          rcases saved : service.hostStore.save io.hosts
            (existing.filter (·.id ≠ hostId)) with ⟨outcome, hostStore⟩
          simp only [saved]
          cases outcome with
          | error error => rfl
          | ok _ => exact conclude_ok io _ _ _

/-! The host list across a commit. -/

theorem upsertHost_others (config : HostConfig) (hosts : List HostConfig) :
    (upsertHost config hosts).filter (·.id ≠ config.id) =
      hosts.filter (·.id ≠ config.id) := by
  induction hosts with
  | nil => simp [upsertHost]
  | cons host rest induction =>
      unfold upsertHost
      split
      · next same => simp [same]
      · next different =>
          rw [List.filter_cons_of_pos (by simpa using different),
            List.filter_cons_of_pos (by simpa using different), induction]

theorem self_mem_upsertHost (config : HostConfig) (hosts : List HostConfig) :
    config ∈ upsertHost config hosts := by
  induction hosts with
  | nil => simp [upsertHost]
  | cons host rest induction =>
      unfold upsertHost
      split
      · exact List.mem_cons_self
      · exact List.mem_cons_of_mem _ induction

/-- The endpoint stood in the entry of the call, and stands nowhere any more. -/
def GivenUp (call : HostCall) (before committed : List HostConfig)
    (endpoint : Endpoint) : Prop :=
  (∃ host, before.find? (·.id = call.hostId) = some host ∧
    host.endpoint = endpoint) ∧
  ∀ host ∈ committed, host.endpoint ≠ endpoint

theorem mem_abandoned :
    endpoint ∈ abandoned hosts oldEndpoint ↔
      oldEndpoint = some endpoint ∧ ∀ host ∈ hosts, host.endpoint ≠ endpoint := by
  unfold abandoned
  rw [List.mem_filter, Option.mem_toList]
  refine and_congr_right fun _ => ?_
  rw [Bool.not_eq_true', List.any_eq_false]
  refine forall₂_congr fun host _ => not_congr ?_
  rw [Bool.and_eq_true, beq_iff_eq, beq_iff_eq, ← Prod.mk.injEq]
  rfl

theorem abandoned_length (hosts : List HostConfig)
    (oldEndpoint : Option Endpoint) :
    (abandoned hosts oldEndpoint).length ≤ 1 := by
  refine (List.length_filter_le _ _).trans ?_
  cases oldEndpoint <;> simp

/-- What a commit makes of the list it has loaded. -/
structure Committed (call : HostCall) (before committed : List HostConfig)
    (oldEndpoint : Option Endpoint) : Prop where
  distinct : (before.map (·.id)).Nodup → (committed.map (·.id)).Nodup
  others : committed.filter (·.id ≠ call.hostId) =
    before.filter (·.id ≠ call.hostId)
  givenUp : ∀ endpoint, endpoint ∈ abandoned committed oldEndpoint ↔
    GivenUp call before committed endpoint

/-- The endpoint that a save hands to the cleanup. -/
def replacedEndpoint (request : SaveHostRequest) (before : List HostConfig) :
    Option Endpoint :=
  ((before.find? (·.id = request.id)).filter fun host =>
    host.host != request.host || host.port != request.port).map
      fun host => (host.host, host.port)

theorem replacedEndpoint_eq_some {request : SaveHostRequest} :
    replacedEndpoint request hosts = some endpoint ↔
      (∃ host, hosts.find? (·.id = request.id) = some host ∧
        host.endpoint = endpoint) ∧
      endpoint ≠ (request.host, request.port) := by
  unfold replacedEndpoint
  cases hosts.find? (·.id = request.id) with
  | none => simp
  | some host =>
      rw [Option.map_eq_some_iff]
      constructor
      · rintro ⟨same, kept, rfl⟩
        obtain ⟨named, differs⟩ := Option.filter_eq_some_iff.mp kept
        obtain rfl := Option.some.inj named
        refine ⟨⟨host, rfl, rfl⟩, fun equal => ?_⟩
        obtain ⟨hostEq, portEq⟩ := Prod.mk.inj equal
        simp [hostEq, portEq] at differs
      · rintro ⟨⟨same, named, rfl⟩, differs⟩
        obtain rfl := Option.some.inj named
        refine ⟨host, Option.filter_eq_some_iff.mpr ⟨rfl, ?_⟩, rfl⟩
        rw [Bool.or_eq_true, bne_iff_ne, bne_iff_ne, ← not_and_or]
        rintro ⟨hostEq, portEq⟩
        exact differs (Prod.ext hostEq portEq)

theorem saved_committed {request : SaveHostRequest}
    (passwordRef passphraseRef : Option String) :
    Committed (.save request) hosts
      (upsertHost (buildHostConfig request passwordRef passphraseRef) hosts)
      (replacedEndpoint request hosts) := by
  have own := self_mem_upsertHost
    (buildHostConfig request passwordRef passphraseRef) hosts
  have others := upsertHost_others
    (buildHostConfig request passwordRef passphraseRef) hosts
  refine ⟨upsertHost_distinct, others, fun endpoint => ?_⟩
  rw [mem_abandoned, replacedEndpoint_eq_some]
  constructor
  · rintro ⟨⟨named, -⟩, absent⟩
    exact ⟨named, absent⟩
  · rintro ⟨named, absent⟩
    exact ⟨⟨named, (absent _ own).symm⟩, absent⟩

theorem deleted_committed {hostId : String} :
    Committed (.delete hostId) hosts (hosts.filter (·.id ≠ hostId))
      ((hosts.find? (·.id = hostId)).map HostConfig.endpoint) := by
  refine ⟨fun distinct => ?_, ?_, fun endpoint => ?_⟩
  · exact distinct.sublist (List.filter_sublist.map _)
  · exact List.filter_eq_self.mpr fun host member =>
      (List.mem_filter.mp member).2
  · rw [mem_abandoned, Option.map_eq_some_iff]
    rfl

/-! What a commit leaves of the stores. -/

theorem attemptSave_committed {request : SaveHostRequest} {keys : List String}
    (attempted : service.attemptSave io request =
      (.ok (committed, oldEndpoint), keys, after)) :
    ∃ hosts, service.hostStore.load io.hosts = .ok hosts ∧
      after.hostStore.file = some (.document committed) ∧
      after.trustStore = service.trustStore ∧
      Committed (.save request) hosts committed oldEndpoint := by
  unfold attemptSave at attempted
  cases loaded : service.hostStore.load io.hosts with
  | error error => simp [loaded] at attempted
  | ok hosts =>
      simp only [loaded] at attempted
      split at attempted
      · simp at attempted
      · next passwordRef written resolved =>
          split at attempted
          · simp at attempted
          · next passphraseRef both resolvedToo =>
              split at attempted
              · simp at attempted
              · next hostStore saved =>
                  simp only [Prod.mk.injEq, Except.ok.injEq] at attempted
                  obtain ⟨⟨rfl, rfl⟩, -, rfl⟩ := attempted
                  exact ⟨hosts, rfl, hostStore_save_ok saved, rfl,
                    saved_committed passwordRef passphraseRef⟩

theorem commit_ok
    (done : service.commit io call = (.ok (committed, oldEndpoint), after)) :
    ∃ hosts, service.hostStore.load io.hosts = .ok hosts ∧
      after.hostStore.file = some (.document committed) ∧
      after.trustStore = service.trustStore ∧
      Committed call hosts committed oldEndpoint := by
  unfold commit at done
  cases call with
  | save request =>
      simp only at done
      split at done
      · simp at done
      · split at done
        · next attempted =>
            simp only [Prod.mk.injEq, Except.ok.injEq] at done
            obtain ⟨rfl, rfl⟩ := done
            exact attemptSave_committed attempted
        · simp at done
  | delete hostId =>
      simp only at done
      cases loaded : service.hostStore.load io.hosts with
      | error error => simp [loaded] at done
      | ok hosts =>
          simp only [loaded] at done
          split at done
          · simp at done
          · next hostStore saved =>
              simp only [Prod.mk.injEq, Except.ok.injEq] at done
              obtain ⟨⟨rfl, rfl⟩, rfl⟩ := done
              exact ⟨hosts, rfl, hostStore_save_ok saved, rfl,
                deleted_committed⟩

theorem hostStore_save_error {io : HostStoreIo} {store later : HostStore}
    (failed : store.save io hosts = (.error error, later)) :
    later = store ∨
      ∃ reason, io.writeFault = some (.write reason later.file) := by
  unfold HostStore.save at failed
  split at failed
  · exact .inl (Prod.mk.inj failed).2.symm
  · next reason left fault =>
      obtain rfl := (Prod.mk.inj failed).2
      exact .inr ⟨reason, fault⟩
  · simp at failed

theorem attemptSave_failed {request : SaveHostRequest} {keys : List String}
    (attempted : service.attemptSave io request =
      (.error error, keys, after)) :
    after.trustStore = service.trustStore ∧
      (after.hostStore = service.hostStore ∨
        ∃ reason, io.hosts.writeFault =
          some (.write reason after.hostStore.file)) := by
  unfold attemptSave at attempted
  split at attempted
  · obtain ⟨-, -, rfl⟩ := attempted
    exact ⟨rfl, .inl rfl⟩
  · simp only at attempted
    split at attempted
    · obtain ⟨-, -, rfl⟩ := attempted
      exact ⟨rfl, .inl rfl⟩
    · split at attempted
      · obtain ⟨-, -, rfl⟩ := attempted
        exact ⟨rfl, .inl rfl⟩
      · split at attempted
        · next saved =>
            obtain ⟨-, -, rfl⟩ := attempted
            exact ⟨rfl, hostStore_save_error saved⟩
        · simp at attempted

theorem commit_error
    (failed : service.commit io call = (.error error, after)) :
    after.trustStore = service.trustStore ∧
      (after.hostStore = service.hostStore ∨
        ∃ reason, io.hosts.writeFault =
          some (.write reason after.hostStore.file)) := by
  unfold commit at failed
  cases call with
  | save request =>
      simp only at failed
      split at failed
      · obtain ⟨-, rfl⟩ := failed
        exact ⟨rfl, .inl rfl⟩
      · split at failed
        · simp at failed
        · next attempted =>
            obtain ⟨-, rfl⟩ := failed
            have kept := attemptSave_failed attempted
            exact kept
  | delete hostId =>
      simp only at failed
      split at failed
      · obtain ⟨-, rfl⟩ := failed
        exact ⟨rfl, .inl rfl⟩
      · split at failed
        · next saved =>
            obtain ⟨-, rfl⟩ := failed
            exact ⟨rfl, hostStore_save_error saved⟩
        · simp at failed

/-! The trust records across a cleanup. -/

def recordOf (trust : Option TrustStore) (endpoint : Endpoint) :
    Option TrustRecord :=
  trust.bind (·.recordAt endpoint.1 endpoint.2)

theorem forgetEndpoint_ok {io : StoreIo} {host : String} {port : UInt16}
    (forgot : forgetEndpoint io host port trust = (.ok (), remaining))
    (endpoint : Endpoint) :
    recordOf remaining endpoint =
      if endpoint = (host, port) then none else recordOf trust endpoint := by
  unfold forgetEndpoint at forgot
  cases trust with
  | none => simp at forgot
  | some store =>
      rcases removed : store.remove io host port with ⟨outcome, after⟩
      simp only [removed, Prod.mk.injEq] at forgot
      obtain ⟨rfl, rfl⟩ := forgot
      have record := TrustStore.recordAt_removed (TrustStore.remove_ok removed)
        endpoint.1 endpoint.2
      simpa only [recordOf, Option.bind_some, Prod.ext_iff] using record

theorem forgetEndpoint_error {io : StoreIo} {host : String} {port : UInt16}
    (failed : forgetEndpoint io host port trust = (.error error, remaining))
    (endpoint : Endpoint) :
    recordOf remaining endpoint = recordOf trust endpoint := by
  unfold forgetEndpoint at failed
  cases trust with
  | none =>
      obtain ⟨-, rfl⟩ := Prod.mk.inj failed
      rfl
  | some store =>
      rcases removed : store.remove io host port with ⟨outcome, after⟩
      simp only [removed, Prod.mk.injEq] at failed
      obtain ⟨rfl, rfl⟩ := failed
      exact TrustStore.recordAt_congr (TrustStore.remove_error removed)

theorem forgetEach_kept {io : StoreIo} {endpoints : List Endpoint}
    (spared : endpoint ∉ endpoints) (trust : Option TrustStore) :
    recordOf (forgetEach io endpoints trust).2 endpoint =
      recordOf trust endpoint := by
  induction endpoints generalizing trust with
  | nil => rfl
  | cons first rest induction =>
      obtain ⟨host, port⟩ := first
      have different : endpoint ≠ (host, port) := fun same =>
        spared (same ▸ List.mem_cons_self)
      have later : endpoint ∉ rest := fun member =>
        spared (List.mem_cons_of_mem _ member)
      unfold forgetEach
      rcases forgot : forgetEndpoint io host port trust with
        ⟨outcome, remaining⟩
      cases outcome with
      | error error => exact forgetEndpoint_error forgot endpoint
      | ok _ =>
          refine (induction later remaining).trans ?_
          rw [forgetEndpoint_ok forgot, if_neg different]

theorem forgetEach_ok {io : StoreIo} {endpoints : List Endpoint}
    {trust : Option TrustStore}
    (forgot : (forgetEach io endpoints trust).1 = .ok ())
    (member : endpoint ∈ endpoints) :
    recordOf (forgetEach io endpoints trust).2 endpoint = none := by
  induction endpoints generalizing trust with
  | nil => cases member
  | cons first rest induction =>
      obtain ⟨host, port⟩ := first
      unfold forgetEach at forgot ⊢
      rcases single : forgetEndpoint io host port trust with
        ⟨outcome, remaining⟩
      simp only [single] at forgot
      cases outcome with
      | error error => cases forgot
      | ok _ =>
          by_cases later : endpoint ∈ rest
          · exact induction forgot later
          · obtain rfl := (List.mem_cons.mp member).resolve_right later
            refine (forgetEach_kept later remaining).trans ?_
            rw [forgetEndpoint_ok single, if_pos rfl]

theorem forgetEach_error {io : StoreIo} {endpoints : List Endpoint}
    {trust : Option TrustStore}
    (failed : (forgetEach io endpoints trust).1 = .error error) :
    error.kind = .hostTrustCleanupFailed := by
  induction endpoints generalizing trust with
  | nil => cases failed
  | cons first rest induction =>
      obtain ⟨host, port⟩ := first
      unfold forgetEach at failed
      rcases single : forgetEndpoint io host port trust with
        ⟨outcome, remaining⟩
      simp only [single] at failed
      cases outcome with
      | error reason =>
          obtain rfl := Except.error.inj failed
          rfl
      | ok _ => exact induction failed

/-! What a single call does. -/

theorem execute_of_committed
    (done : service.commit io call = (.ok (hosts, oldEndpoint), after)) :
    service.invocations io call = abandoned hosts oldEndpoint ∧
    service.execute io call =
      ((forgetEach io.trust (service.invocations io call)
          service.trustStore).1.map fun _ => hosts,
        { after with
          trustStore := (forgetEach io.trust (service.invocations io call)
            service.trustStore).2 }) := by
  obtain ⟨-, -, -, kept, -⟩ := commit_ok done
  have named : service.invocations io call = abandoned hosts oldEndpoint := by
    rw [invocations, done]
  refine ⟨named, ?_⟩
  rw [execute_eq, done, named, ← kept]
  rfl

theorem execute_of_failed
    (failed : service.commit io call = (.error error, after)) :
    service.invocations io call = [] ∧
      service.execute io call = (.error error, after) := by
  rw [execute_eq, invocations, failed]
  exact ⟨rfl, rfl⟩

theorem execute_trust (io : HostConfigIo) (call : HostCall)
    (service : HostConfigService) :
    (service.execute io call).2.trustStore =
      (forgetEach io.trust (service.invocations io call)
        service.trustStore).2 := by
  rcases done : service.commit io call with ⟨outcome, after⟩
  cases outcome with
  | error error =>
      obtain ⟨none, executed⟩ := execute_of_failed done
      rw [executed, none, (commit_error done).1]
      rfl
  | ok result => rw [(execute_of_committed done).2]

theorem invocations_length (io : HostConfigIo) (call : HostCall)
    (service : HostConfigService) :
    (service.invocations io call).length ≤ 1 := by
  unfold invocations
  split
  · exact abandoned_length _ _
  · exact Nat.zero_le _

theorem mem_invocations (asked : endpoint ∈ service.invocations io call) :
    ∃ existing committed oldEndpoint,
      service.hostStore.load io.hosts = .ok existing ∧
      (service.commit io call).1 = .ok (committed, oldEndpoint) ∧
      (service.execute io call).2.hostStore.file =
        some (.document committed) ∧
      GivenUp call existing committed endpoint := by
  rcases done : service.commit io call with ⟨outcome, after⟩
  cases outcome with
  | error error =>
      rw [(execute_of_failed done).1] at asked
      cases asked
  | ok result =>
      obtain ⟨committed, oldEndpoint⟩ := result
      obtain ⟨existing, loaded, file, -, changed⟩ := commit_ok done
      obtain ⟨named, executed⟩ := execute_of_committed done
      rw [named] at asked
      refine ⟨existing, committed, oldEndpoint, loaded, rfl, ?_,
        (changed.givenUp endpoint).mp asked⟩
      rw [executed]
      exact file

def DistinctIds (service : HostConfigService) : Prop :=
  ∀ hosts, service.hostStore.file = some (.document hosts) →
    (hosts.map (·.id)).Nodup

theorem DistinctIds.loaded (distinct : service.DistinctIds)
    (loaded : service.hostStore.load io.hosts = .ok hosts) :
    (hosts.map (·.id)).Nodup := by
  cases HostStore.load_ok loaded with
  | inl empty =>
      rw [empty]
      exact List.nodup_nil
  | inr present => exact distinct hosts present

theorem DistinctIds.execute (distinct : service.DistinctIds)
    (leaves : io.hosts.LeavesDistinct) (call : HostCall) :
    (service.execute io call).2.DistinctIds := by
  rcases done : service.commit io call with ⟨outcome, after⟩
  intro hosts file
  cases outcome with
  | error error =>
      rw [(execute_of_failed done).2] at file
      cases (commit_error done).2 with
      | inl same => exact distinct hosts (same ▸ file)
      | inr left =>
          obtain ⟨reason, fault⟩ := left
          exact leaves reason hosts (file ▸ fault)
  | ok result =>
      obtain ⟨existing, loaded, written, -, changed⟩ := commit_ok done
      rw [(execute_of_committed done).2] at file
      obtain rfl := HostsContent.document.inj
        (Option.some.inj (written.symm.trans file))
      exact changed.distinct (distinct.loaded loaded)

/-- How one call bears on the host list and on the trust records. -/
structure Follows (io : HostConfigIo) (call : HostCall)
    (before : HostConfigService) : Prop where
  once : (before.invocations io call).length ≤ 1
  trust : (before.execute io call).2.trustStore =
    (forgetEach io.trust (before.invocations io call) before.trustStore).2
  failed : ∀ error, (before.commit io call).1 = .error error →
    (before.execute io call).1 = .error error ∧
      before.invocations io call = []
  committed : ∀ hosts oldEndpoint,
    (before.commit io call).1 = .ok (hosts, oldEndpoint) →
    (before.execute io call).2.hostStore.file = some (.document hosts) ∧
    (before.execute io call).1 =
      (forgetEach io.trust (before.invocations io call)
        before.trustStore).1.map (fun _ => hosts) ∧
    ∃ existing, before.hostStore.load io.hosts = .ok existing ∧
      (existing.map (·.id)).Nodup ∧ (hosts.map (·.id)).Nodup ∧
      hosts.filter (·.id ≠ call.hostId) =
        existing.filter (·.id ≠ call.hostId) ∧
      ∀ endpoint, endpoint ∈ before.invocations io call ↔
        (∃ host ∈ existing, host.id = call.hostId ∧
          host.endpoint = endpoint) ∧
        ∀ host ∈ hosts, host.endpoint ≠ endpoint
  kept : ∀ endpoint,
    recordOf (before.execute io call).2.trustStore endpoint ≠
      recordOf before.trustStore endpoint →
    ∃ hosts, (before.execute io call).2.hostStore.file =
        some (.document hosts) ∧
      ∀ host ∈ hosts, host.endpoint ≠ endpoint
  cleaned : ∀ existing hosts oldEndpoint endpoint,
    before.hostStore.load io.hosts = .ok existing →
    (before.commit io call).1 = .ok (hosts, oldEndpoint) →
    (∃ host ∈ existing, host.endpoint = endpoint) →
    (∀ host ∈ hosts, host.endpoint ≠ endpoint) →
    recordOf (before.execute io call).2.trustStore endpoint = none ∨
      ∃ error, (before.execute io call).1 = .error error ∧
        error.kind = .hostTrustCleanupFailed

theorem find?_iff_of_distinct {hostId : String}
    (distinct : (hosts.map (·.id)).Nodup) :
    (∃ host, hosts.find? (·.id = hostId) = some host ∧
      host.endpoint = endpoint) ↔
    ∃ host ∈ hosts, host.id = hostId ∧ host.endpoint = endpoint := by
  constructor
  · rintro ⟨host, found, named⟩
    exact ⟨host, List.mem_of_find?_eq_some found,
      by simpa using List.find?_some found, named⟩
  · rintro ⟨host, member, rfl, named⟩
    exact ⟨host, find?_of_mem distinct member, named⟩

/-- An entry whose endpoint is gone from the new list is the one of the call. -/
theorem Committed.own (changed : Committed call hosts committed oldEndpoint)
    {host : HostConfig} (member : host ∈ hosts)
    (absent : ∀ other ∈ committed, other.endpoint ≠ host.endpoint) :
    host.id = call.hostId := by
  by_contra other
  have kept : host ∈ hosts.filter (·.id ≠ call.hostId) :=
    List.mem_filter.mpr ⟨member, by simpa using other⟩
  rw [← changed.others] at kept
  exact absent host (List.mem_filter.mp kept).1 rfl

theorem follows (distinct : service.DistinctIds) (io : HostConfigIo)
    (call : HostCall) : Follows io call service := by
  refine ⟨invocations_length io call service, execute_trust io call service,
    ?_, ?_, ?_, ?_⟩
  · intro error failed
    rcases done : service.commit io call with ⟨outcome, after⟩
    obtain rfl : outcome = .error error := by simpa [done] using failed
    obtain ⟨none, executed⟩ := execute_of_failed done
    exact ⟨by rw [executed], none⟩
  · intro hosts oldEndpoint finished
    rcases done : service.commit io call with ⟨outcome, after⟩
    obtain rfl : outcome = .ok (hosts, oldEndpoint) := by
      simpa [done] using finished
    obtain ⟨existing, loaded, file, -, changed⟩ := commit_ok done
    obtain ⟨named, executed⟩ := execute_of_committed done
    have apart := distinct.loaded loaded
    refine ⟨by rw [executed]; exact file, by rw [executed], existing, loaded,
      apart, changed.distinct apart, changed.others, fun endpoint => ?_⟩
    rw [named, changed.givenUp, GivenUp, find?_iff_of_distinct apart]
  · intro endpoint differs
    by_cases asked : endpoint ∈ service.invocations io call
    · obtain ⟨existing, hosts, -, -, -, file, -, absent⟩ := mem_invocations asked
      exact ⟨hosts, file, absent⟩
    · rw [execute_trust, forgetEach_kept asked] at differs
      exact absurd rfl differs
  · intro existing hosts oldEndpoint endpoint loaded finished named absent
    rcases done : service.commit io call with ⟨outcome, after⟩
    obtain rfl : outcome = .ok (hosts, oldEndpoint) := by
      simpa [done] using finished
    obtain ⟨host, member, rfl⟩ := named
    obtain ⟨again, loadedAgain, -, -, changed⟩ := commit_ok done
    obtain rfl := Except.ok.inj (loaded.symm.trans loadedAgain)
    obtain ⟨named, executed⟩ := execute_of_committed done
    have asked : host.endpoint ∈ service.invocations io call := by
      rw [named, changed.givenUp]
      refine ⟨(find?_iff_of_distinct (distinct.loaded loaded)).mpr
        ⟨host, member, changed.own member absent, rfl⟩, absent⟩
    rw [execute_trust]
    cases forgot : (forgetEach io.trust (service.invocations io call)
        service.trustStore).1 with
    | ok _ => exact .inl (forgetEach_ok forgot asked)
    | error error =>
        refine .inr ⟨error, ?_, forgetEach_error forgot⟩
        rw [executed, forgot]
        rfl

theorem DistinctIds.executeAll (distinct : service.DistinctIds)
    {steps : List (HostConfigIo × HostCall)}
    (leaves : ∀ step ∈ steps, step.1.hosts.LeavesDistinct) :
    (service.executeAll steps).DistinctIds := by
  induction steps generalizing service with
  | nil => exact distinct
  | cons step rest induction =>
      exact induction (distinct.execute (leaves step List.mem_cons_self) step.2)
        fun later member => leaves later (List.mem_cons_of_mem _ member)

/-- In every run of saves and deletes the trust records follow the host list. -/
theorem trust_follows_hosts (start : HostConfigService)
    (steps : List (HostConfigIo × HostCall)) (distinct : start.DistinctIds)
    (leaves : ∀ step ∈ steps, step.1.hosts.LeavesDistinct) :
    (start.executeAll steps).DistinctIds ∧
    ∀ before io call after, steps = before ++ (io, call) :: after →
      Follows io call (start.executeAll before) := by
  refine ⟨distinct.executeAll leaves, ?_⟩
  rintro before io call after rfl
  refine follows (distinct.executeAll fun step member => ?_) io call
  exact leaves step (List.mem_append_left _ member)

/-- Two hosts of one endpoint; it is forgotten with the second of them. -/
theorem trust_follows_hosts_shared :
    let host (id : String) : HostConfig :=
      ⟨id, id, "10.0.0.1", 22, "root", .password, none, none, none, none, ""⟩
    let start : HostConfigService :=
      ⟨⟨some (.document [host "a", host "b"])⟩, fun _ => none,
        some ⟨"/data/known_hosts", none,
          some [⟨"10.0.0.1", 22, "ssh-ed25519", [1]⟩]⟩⟩
    let steps : List (HostConfigIo × HostCall) :=
      [({}, .delete "a"), ({}, .delete "b")]
    (start.executeAll steps).DistinctIds ∧
      start.invocations {} (.delete "a") = [] ∧
      (start.executeAll [({}, .delete "a")]).invocations {} (.delete "b") =
        [("10.0.0.1", 22)] ∧
      Follows {} (.delete "b") (start.executeAll [({}, .delete "a")]) := by
  intro host start steps
  have distinct : start.DistinctIds := by
    intro hosts present
    obtain rfl := HostsContent.document.inj (Option.some.inj present)
    decide
  have leaves : ∀ step ∈ steps, step.1.hosts.LeavesDistinct := by
    intro step member error hosts fault
    simp only [steps, List.mem_cons, List.not_mem_nil, or_false] at member
    rcases member with rfl | rfl <;> cases fault
  obtain ⟨kept, follow⟩ := trust_follows_hosts start steps distinct leaves
  exact ⟨kept, rfl, rfl, follow [({}, .delete "a")] {} (.delete "b") [] rfl⟩

end HostConfigService

end TitanSSH
