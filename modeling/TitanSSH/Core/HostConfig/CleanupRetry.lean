import TitanSSH.Core.HostConfig.EndpointTrust

namespace TitanSSH

namespace HostConfigService

/-! A call that has committed and then failed to forget an endpoint, and the same
call once more. -/

/-- What else goes on: calls of the host configuration, and what verifications,
confirmations and the list of trusted hosts ask of the trust store. -/
inductive Activity
  | hostCall (io : HostConfigIo) (call : HostCall)
  | lookup (io : StoreIo) (host : String) (port : UInt16)
  | list (io : StoreIo)
  | upsert (io : StoreIo) (record : TrustRecord)

def ask (service : HostConfigService) (operation : TrustStore → TrustStore) :
    HostConfigService :=
  { service with trustStore := service.trustStore.map operation }

def act (service : HostConfigService) : Activity → HostConfigService
  | .hostCall io call => (service.execute io call).2
  | .lookup io host port => service.ask fun store =>
      (store.lookup io host port).2
  | .list io => service.ask fun store => (store.list io).2
  | .upsert io record => service.ask fun store => (store.upsert io record).2

/-- The activity does not accept a key for the endpoint. -/
def Activity.Spares (endpoint : Endpoint) : Activity → Prop
  | .upsert _ record => (record.host, record.port) ≠ endpoint
  | _ => True

def Unreferenced (endpoint : Endpoint) (service : HostConfigService) : Prop :=
  ∀ hosts, service.hostStore.file = some (.document hosts) →
    ∀ host ∈ hosts, host.endpoint ≠ endpoint

/-- A stretch of activities in which no configuration names the endpoint and no
key is accepted for it. -/
inductive Quiet (endpoint : Endpoint) :
    HostConfigService → HostConfigService → Prop
  | refl {service : HostConfigService}
      (unreferenced : service.Unreferenced endpoint) :
      Quiet endpoint service service
  | step {service final : HostConfigService} {activity : Activity}
      (unreferenced : service.Unreferenced endpoint)
      (spares : activity.Spares endpoint)
      (rest : Quiet endpoint (service.act activity) final) :
      Quiet endpoint service final

variable {io : HostConfigIo} {call : HostCall} {endpoint : Endpoint}
variable {service after final : HostConfigService}
variable {hosts : List HostConfig} {error : AppError}

def record (service : HostConfigService) (endpoint : Endpoint) :
    Option TrustRecord :=
  recordOf service.trustStore endpoint

theorem Unreferenced.spared (unreferenced : service.Unreferenced endpoint)
    (io : HostConfigIo) (call : HostCall) :
    endpoint ∉ service.invocations io call := by
  intro asked
  obtain ⟨existing, -, -, loaded, -, -, ⟨host, found, named⟩, -⟩ :=
    mem_invocations asked
  have member := List.mem_of_find?_eq_some found
  cases HostStore.load_ok loaded with
  | inl empty =>
      rw [empty] at member
      cases member
  | inr present => exact unreferenced existing present host member named

theorem Unreferenced.execute (unreferenced : service.Unreferenced endpoint)
    (io : HostConfigIo) (call : HostCall) :
    (service.execute io call).2.record endpoint = service.record endpoint := by
  rw [record, execute_trust, forgetEach_kept (unreferenced.spared io call)]
  rfl

theorem record_ask {operation : TrustStore → TrustStore}
    (same : ∀ store, (operation store).recordAt endpoint.1 endpoint.2 =
      store.recordAt endpoint.1 endpoint.2) (service : HostConfigService) :
    (service.ask operation).record endpoint = service.record endpoint := by
  unfold record recordOf ask
  cases service.trustStore with
  | none => rfl
  | some store => exact same store

theorem lookup_record (io : StoreIo) (host : String) (port : UInt16)
    (store : TrustStore) :
    (store.lookup io host port).2.recordAt endpoint.1 endpoint.2 =
      store.recordAt endpoint.1 endpoint.2 := by
  apply TrustStore.recordAt_congr
  rcases looked : store.lookup io host port with ⟨outcome, after⟩
  cases outcome with
  | error error => rw [TrustStore.lookup_error looked]
  | ok found => exact (TrustStore.lookup_ok looked).2

theorem upsert_record {io : StoreIo} {record : TrustRecord}
    (other : (record.host, record.port) ≠ endpoint) (store : TrustStore) :
    (store.upsert io record).2.recordAt endpoint.1 endpoint.2 =
      store.recordAt endpoint.1 endpoint.2 := by
  rcases saved : store.upsert io record with ⟨outcome, after⟩
  cases outcome with
  | error error =>
      exact TrustStore.recordAt_congr (TrustStore.upsert_error saved)
  | ok _ =>
      rw [TrustStore.recordAt_upserted (TrustStore.upsert_ok saved), if_neg]
      rintro ⟨hostEq, portEq⟩
      exact other (Prod.ext hostEq.symm portEq.symm)

theorem Unreferenced.act (unreferenced : service.Unreferenced endpoint)
    {activity : Activity} (spares : activity.Spares endpoint) :
    (service.act activity).record endpoint = service.record endpoint := by
  cases activity with
  | hostCall io call => exact unreferenced.execute io call
  | lookup io host port => exact record_ask (lookup_record io host port) service
  | list io =>
      exact record_ask (fun store => TrustStore.recordAt_congr
        (TrustStore.list_contents (Prod.eta (store.list io)).symm)) service
  | upsert io record => exact record_ask (upsert_record spares) service

theorem Quiet.record (quiet : Quiet endpoint service final) :
    final.record endpoint = service.record endpoint := by
  induction quiet with
  | refl unreferenced => rfl
  | step unreferenced spares rest induction =>
      exact induction.trans (unreferenced.act spares)

theorem Quiet.unreferenced (quiet : Quiet endpoint service final) :
    final.Unreferenced endpoint := by
  induction quiet with
  | refl unreferenced => exact unreferenced
  | step unreferenced spares rest induction => exact induction

theorem execute_of_asked (asked : endpoint ∈ service.invocations io call) :
    ∃ (committed : List HostConfig) (reached : HostConfigService),
      service.execute io call =
      ((forgetEach io.trust [endpoint] service.trustStore).1.map
          fun _ => committed,
        { reached with
          trustStore :=
            (forgetEach io.trust [endpoint] service.trustStore).2 }) := by
  obtain ⟨-, committed, oldEndpoint, -, finished, -⟩ := mem_invocations asked
  rcases done : service.commit io call with ⟨outcome, reached⟩
  obtain rfl : outcome = .ok (committed, oldEndpoint) := by
    simpa [done] using finished
  have single : service.invocations io call = [endpoint] := by
    obtain ⟨before, after, split⟩ := List.append_of_mem asked
    have short := invocations_length io call service
    rw [split, List.length_append, List.length_cons] at short
    obtain rfl := List.eq_nil_of_length_eq_zero (l := before) (by omega)
    obtain rfl := List.eq_nil_of_length_eq_zero (l := after) (by omega)
    exact split
  have executed := (execute_of_committed done).2
  rw [single] at executed
  exact ⟨committed, reached, executed⟩

theorem record_of_failed
    (asked : endpoint ∈ service.invocations io call)
    (failed : service.execute io call = (.error error, after)) :
    error.kind = .hostTrustCleanupFailed ∧
      after.record endpoint = service.record endpoint := by
  obtain ⟨committed, reached, executed⟩ := execute_of_asked asked
  rw [failed] at executed
  obtain ⟨outcomeEq, rfl⟩ := Prod.mk.inj executed
  obtain ⟨host, port⟩ := endpoint
  cases forgot : (forgetEach io.trust [(host, port)] service.trustStore).1 with
  | ok _ =>
      rw [forgot] at outcomeEq
      cases outcomeEq
  | error reason =>
      rw [forgot] at outcomeEq
      obtain rfl := Except.error.inj outcomeEq
      refine ⟨forgetEach_error forgot, ?_⟩
      simp only [record, forgetEach] at forgot ⊢
      rcases single : forgetEndpoint io.trust host port service.trustStore with
        ⟨result, remaining⟩
      cases result with
      | error reason => exact forgetEndpoint_error single (host, port)
      | ok _ =>
          rw [single] at forgot
          cases forgot

/-- The second attempt has nothing left to forget: the trust store holds a record
of the endpoint afterwards exactly if it held one to begin with. -/
theorem retry_forgets_iff {again : HostConfigIo} {failed later : HostConfigService}
    (asked : endpoint ∈ service.invocations io call)
    (first : service.execute io call = (.error error, failed))
    (between : Quiet endpoint failed later)
    (second : later.execute again call = (.ok hosts, final)) :
    error.kind = .hostTrustCleanupFailed ∧
      (final.record endpoint = none ↔ service.record endpoint = none) := by
  obtain ⟨kind, left⟩ := record_of_failed asked first
  have kept := between.unreferenced.execute again call
  rw [second] at kept
  refine ⟨kind, ?_⟩
  rw [kept, between.record, left]

/-- One host, and the keys that the trust store has for it. -/
def singleHost (records : List TrustRecord) : HostConfigService :=
  ⟨⟨some (.document [⟨"a", "a", "10.0.0.1", 22, "root", .password, none, none,
      none, none, ""⟩])⟩,
    fun _ => none, some ⟨"/data/known_hosts", none, some records⟩⟩

/-- The disk is full when the host is deleted; deleting it again succeeds, and its
key is still trusted. -/
theorem retry_leaves_record :
    ¬ ∀ (io again : HostConfigIo) (call : HostCall) (endpoint : Endpoint)
      (service failed later final : HostConfigService) (error : AppError)
      (hosts : List HostConfig),
      endpoint ∈ service.invocations io call →
      service.execute io call = (.error error, failed) →
      error.kind = .hostTrustCleanupFailed →
      Quiet endpoint failed later →
      later.execute again call = (.ok hosts, final) →
      final.record endpoint = none := by
  intro completes
  let full : HostConfigIo :=
    { trust := { publishFault := some (.persist "disk full") } }
  have executed : ∃ error failed hosts final,
      (singleHost [⟨"10.0.0.1", 22, "ssh-ed25519", [1]⟩]).execute full
          (.delete "a") = (.error error, failed) ∧
        error.kind = .hostTrustCleanupFailed ∧
        failed.hostStore.file = some (.document []) ∧
        failed.execute {} (.delete "a") = (.ok hosts, final) ∧
        final.record ("10.0.0.1", 22) =
          some ⟨"10.0.0.1", 22, "ssh-ed25519", [1]⟩ :=
    ⟨_, _, _, _, rfl, rfl, rfl, rfl, rfl⟩
  obtain ⟨error, failed, hosts, final, first, kind, file, second, left⟩ :=
    executed
  have unreferenced : failed.Unreferenced ("10.0.0.1", 22) := by
    intro hosts present
    obtain rfl := HostsContent.document.inj
      (Option.some.inj (file.symm.trans present))
    nofun
  have forgotten := completes full {} (.delete "a") ("10.0.0.1", 22) _ failed
    failed final error hosts (List.mem_singleton_self _) first kind
    (.refl unreferenced) second
  rw [left] at forgotten
  cases forgotten

/-- No key was accepted for the host yet; the first attempt fails all the same. -/
theorem retry_forgets_iff_unknown :
    let unreadable : HostConfigIo := { trust := { readError := some "denied" } }
    let start : HostConfigService :=
      { singleHost [] with trustStore := some ⟨"/data/known_hosts", none, none⟩ }
    ∃ error failed hosts final,
      start.execute unreadable (.delete "a") = (.error error, failed) ∧
      error.kind = .hostTrustCleanupFailed ∧
      failed.execute {} (.delete "a") = (.ok hosts, final) ∧
      final.record ("10.0.0.1", 22) = none := by
  intro unreadable start
  have executed : ∃ error failed hosts final,
      start.execute unreadable (.delete "a") = (.error error, failed) ∧
      failed.hostStore.file = some (.document []) ∧
      failed.execute {} (.delete "a") = (.ok hosts, final) :=
    ⟨_, _, _, _, rfl, rfl, rfl⟩
  obtain ⟨error, failed, hosts, final, first, file, second⟩ := executed
  have unreferenced : failed.Unreferenced ("10.0.0.1", 22) := by
    intro hosts present
    obtain rfl := HostsContent.document.inj
      (Option.some.inj (file.symm.trans present))
    nofun
  obtain ⟨kind, unknown⟩ := retry_forgets_iff (List.mem_singleton_self _) first
    (.refl unreferenced) second
  exact ⟨error, failed, hosts, final, first, kind, second, unknown.mpr rfl⟩

end HostConfigService

end TitanSSH
