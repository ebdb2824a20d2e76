import Mathlib.Data.List.TakeWhile
import TitanSSH.Core.HostConfig.Service

namespace TitanSSH

namespace HostConfigService

/-! A save that fails before its commit. What it wrote to the credential store
it erases again, so an entry that was written over is not restored but lost. -/

def secretKey (provided : Option String) (key : String) : List String :=
  ((suppliedSecret provided).map fun _ => key).toList

/-- The keys under which a save of this request stores secrets, up to the
first that the credential store refuses. -/
def storedKeys (io : CredentialIo) (request : SaveHostRequest) : List String :=
  (secretKey request.password (passwordKey request.id) ++
    secretKey request.passphrase (passphraseKey request.id)).takeWhile
      fun key => (io.setError key).isNone

/-- Either the save never reaches the credential store, or no secret that it
stores there meets an entry under its key. -/
def StoresFresh (io : HostConfigIo) (request : SaveHostRequest)
    (service : HostConfigService) : Prop :=
  ∀ hosts, validateSaveRequest request = .ok () →
    service.hostStore.load io.hosts = .ok hosts →
    ∀ key ∈ storedKeys io.credentials request,
      service.credentialStore key = none

/-- The secrets written so far are the only difference to the credential
store before the save. -/
def WrittenCredentials.Tracks (before : KeyedStore String String)
    (written : WrittenCredentials) : Prop :=
  KeyedStore.AgreeOutside written.writtenKeys before written.credentialStore

theorem WrittenCredentials.Tracks.resolve {written after : WrittenCredentials}
    (tracks : WrittenCredentials.Tracks before written)
    (resolved : resolveCredentialRef io hostId provided keyFn existingRef
      authTypeChanged written = (outcome, after)) :
    WrittenCredentials.Tracks before after ∧
      after.writtenKeys = written.writtenKeys ++
        (secretKey provided (keyFn hostId)).takeWhile
          fun key => (io.setError key).isNone := by
  obtain ⟨absent, rfl, _⟩ | ⟨value, error, supplied, refused, rfl, _⟩ |
    ⟨value, supplied, stored, rfl, _⟩ := resolveCredentialRef_cases resolved
  · exact ⟨tracks, by simp [secretKey, absent]⟩
  · exact ⟨tracks, by simp [secretKey, supplied, refused]⟩
  · exact ⟨KeyedStore.AgreeOutside.insert tracks (keyFn hostId) value,
      by simp [secretKey, supplied, stored]⟩

theorem resolveCredentialRef_ok
    (resolved : resolveCredentialRef io hostId provided keyFn existingRef
      authTypeChanged written = (.ok reference, after)) :
    ∀ key ∈ secretKey provided (keyFn hostId), io.setError key = none := by
  intro key member
  obtain ⟨absent, _⟩ | ⟨_, _, _, _, _, impossible⟩ |
    ⟨value, supplied, stored, _⟩ := resolveCredentialRef_cases resolved
  · simp [secretKey, absent] at member
  · cases impossible
  · simp only [secretKey, supplied, Option.map_some, Option.toList_some,
      List.mem_singleton] at member
    rw [member]
    exact stored

theorem resolveCredentialRef_error
    (resolved : resolveCredentialRef io hostId provided keyFn existingRef
      authTypeChanged written = (.error error, after)) :
    error.kind = .secureStoreError ∧
      secretKey provided (keyFn hostId) = [keyFn hostId] ∧
      io.setError (keyFn hostId) ≠ none := by
  obtain ⟨_, _, impossible⟩ | ⟨value, reason, supplied, refused, _, failed⟩ |
    ⟨_, _, _, _, impossible⟩ := resolveCredentialRef_cases resolved
  · cases impossible
  · cases failed
    exact ⟨rfl, by simp [secretKey, supplied], by simp [refused]⟩
  · cases impossible

theorem storedKeys_of_refused
    (supplied : secretKey request.password (passwordKey request.id) =
      [passwordKey request.id])
    (refused : io.setError (passwordKey request.id) ≠ none) :
    storedKeys io request =
      (secretKey request.password (passwordKey request.id)).takeWhile
        fun key => (io.setError key).isNone := by
  simp [storedKeys, supplied, refused]

theorem storedKeys_of_stored
    (stored : ∀ key ∈ secretKey request.password (passwordKey request.id),
      io.setError key = none) :
    storedKeys io request =
      (secretKey request.password (passwordKey request.id)).takeWhile
          (fun key => (io.setError key).isNone) ++
        (secretKey request.passphrase (passphraseKey request.id)).takeWhile
          fun key => (io.setError key).isNone := by
  have passes : ∀ key ∈ secretKey request.password (passwordKey request.id),
      (io.setError key).isNone = true := by
    intro key member
    simp [stored key member]
  rw [storedKeys, List.takeWhile_append_of_pos passes,
    List.takeWhile_eq_self_iff.mpr passes]

variable {service after : HostConfigService} {io : HostConfigIo}
  {request : SaveHostRequest}

/-- What an attempt leaves behind when it fails: the host file as it was, and
in the credential store the secrets under `storedKeys`. -/
theorem attemptSave_error
    (loaded : service.hostStore.load io.hosts = .ok hosts)
    (atomic : ∀ reason left, io.hosts.writeFault = some (.write reason left) →
      left = service.hostStore.file)
    (failed : service.attemptSave io request =
      (.error error, writtenKeys, after)) :
    after.hostStore = service.hostStore ∧
      writtenKeys = storedKeys io.credentials request ∧
      KeyedStore.AgreeOutside writtenKeys service.credentialStore
        after.credentialStore := by
  have started : WrittenCredentials.Tracks service.credentialStore
      ⟨service.credentialStore, []⟩ :=
    KeyedStore.AgreeOutside.refl _ _
  simp only [attemptSave, loaded] at failed
  split at failed
  · rename_i refusal first firstResolved
    obtain ⟨tracks, keys⟩ := started.resolve firstResolved
    obtain ⟨_, supplied, refused⟩ := resolveCredentialRef_error firstResolved
    simp only [Prod.mk.injEq] at failed
    obtain ⟨_, rfl, rfl⟩ := failed
    refine ⟨rfl, ?_, tracks⟩
    rw [keys, List.nil_append, storedKeys_of_refused supplied refused]
  · rename_i passwordRef first firstResolved
    obtain ⟨firstTracks, firstKeys⟩ := started.resolve firstResolved
    have stored := storedKeys_of_stored (resolveCredentialRef_ok firstResolved)
    split at failed
    · rename_i refusal second secondResolved
      obtain ⟨tracks, keys⟩ := firstTracks.resolve secondResolved
      simp only [Prod.mk.injEq] at failed
      obtain ⟨_, rfl, rfl⟩ := failed
      refine ⟨rfl, ?_, tracks⟩
      rw [keys, firstKeys, stored, List.nil_append]
    · rename_i passphraseRef second secondResolved
      obtain ⟨tracks, keys⟩ := firstTracks.resolve secondResolved
      split at failed
      · rename_i writeError hostStore writeFailed
        simp only [Prod.mk.injEq] at failed
        obtain ⟨_, rfl, rfl⟩ := failed
        refine ⟨(HostStore.save_error writeFailed).2 atomic, ?_, tracks⟩
        rw [keys, firstKeys, stored, List.nil_append]
      · simp only [Prod.mk.injEq, reduceCtorEq, false_and] at failed

theorem cleanupUnreferencedEndpoint_error
    (failed : service.cleanupUnreferencedEndpoint io hosts oldEndpoint =
      (.error error, after)) :
    error.kind = .hostTrustCleanupFailed := by
  unfold cleanupUnreferencedEndpoint at failed
  split at failed
  · cases failed
  · split at failed
    · cases failed
    · split at failed
      · cases failed
      · simp only [Prod.mk.injEq, Except.error.injEq] at failed
        rw [← failed.1]

theorem attemptSave_error_kind
    (failed : service.attemptSave io request =
      (.error error, writtenKeys, after)) :
    error.kind ≠ .hostTrustCleanupFailed := by
  have kinds : error.kind = .storageError ∨ error.kind = .secureStoreError := by
    unfold attemptSave at failed
    split at failed
    · rename_i reason unreadable
      cases failed
      exact .inl (HostStore.load_error unreadable)
    · simp only at failed
      split at failed
      · rename_i reason written refused
        cases failed
        exact .inr (resolveCredentialRef_error refused).1
      · split at failed
        · rename_i reason written refused
          cases failed
          exact .inr (resolveCredentialRef_error refused).1
        · split at failed
          · rename_i reason hostStore unwritten
            cases failed
            exact .inl (HostStore.save_error unwritten).1
          · cases failed
  cases kinds with
  | inl storage => simp [storage]
  | inr credentials => simp [credentials]

theorem validateSaveRequest_error
    (invalid : validateSaveRequest request = .error error) :
    error.kind = .invalidHostConfig := by
  unfold validateSaveRequest at invalid
  split at invalid
  · cases invalid
    rfl
  · split at invalid
    · cases invalid
      rfl
    · split at invalid <;> cases invalid
      rfl

theorem failed_after_commit_iff
    (failed : service.save io request = (.error error, after)) :
    error.kind = .hostTrustCleanupFailed ↔
      validateSaveRequest request = .ok () ∧
        ∃ committed, (service.attemptSave io request).1 = .ok committed := by
  unfold save at failed
  split at failed
  · rename_i reason invalid
    cases failed
    simp [validateSaveRequest_error invalid, invalid]
  · rename_i accepted
    split at failed
    · rename_i hosts oldEndpoint keys committed attempted
      split at failed
      · cases failed
      · rename_i reason cleaned cleanupFailed
        cases failed
        simp [cleanupUnreferencedEndpoint_error cleanupFailed, accepted,
          attempted]
    · rename_i reason keys left attempted
      cases failed
      simp [attemptSave_error_kind attempted, attempted]

/-- A save that fails before its commit or at it leaves both stores as they
were exactly when it stored no secret over an existing entry. -/
theorem failed_save_restores_iff
    (failed : service.save io request = (.error error, after))
    (beforeCommit : error.kind ≠ .hostTrustCleanupFailed)
    (atomic : ∀ reason left, io.hosts.writeFault = some (.write reason left) →
      left = service.hostStore.file)
    (compensated : ∀ key ∈ storedKeys io.credentials request,
      io.credentials.deleteError key = none) :
    (after.hostStore = service.hostStore ∧
        after.credentialStore = service.credentialStore) ↔
      StoresFresh io request service := by
  cases valid : validateSaveRequest request with
  | error invalid =>
      simp only [save, valid, Prod.mk.injEq] at failed
      obtain ⟨_, rfl⟩ := failed
      refine ⟨fun _ hosts accepted => ?_, fun _ => ⟨rfl, rfl⟩⟩
      rw [valid] at accepted
      cases accepted
  | ok _ =>
      cases loaded : service.hostStore.load io.hosts with
      | error unreadable =>
          simp only [save, valid, attemptSave, loaded, Prod.mk.injEq] at failed
          obtain ⟨_, rfl⟩ := failed
          refine ⟨fun _ hosts _ read => ?_, fun _ => ⟨rfl, rfl⟩⟩
          rw [loaded] at read
          cases read
      | ok hosts =>
          have fresh : StoresFresh io request service ↔
              ∀ key ∈ storedKeys io.credentials request,
                service.credentialStore key = none :=
            ⟨fun stores => stores hosts valid loaded, fun absent _ _ _ => absent⟩
          simp only [save, valid] at failed
          split at failed
          · rename_i committedHosts oldEndpoint keys committed attempted
            split at failed
            · cases failed
            · rename_i reason afterCleanup cleanupFailed
              simp only [Prod.mk.injEq, Except.error.injEq] at failed
              obtain ⟨rfl, _⟩ := failed
              exact absurd (cleanupUnreferencedEndpoint_error cleanupFailed)
                beforeCommit
          · rename_i reason writtenKeys left attempted
            obtain ⟨hostStore, rfl, agree⟩ :=
              attemptSave_error loaded atomic attempted
            simp only [Prod.mk.injEq] at failed
            obtain ⟨_, rfl⟩ := failed
            rw [fresh, discardCredentials_of_deleted compensated]
            refine ⟨fun restored => ?_, fun absent => ⟨hostStore, ?_⟩⟩
            · exact agree.eraseAll_eq_iff.mp restored.2
            · exact agree.eraseAll_eq_iff.mpr absent

/-- Both secrets of a new host are supplied and the second is refused. -/
def newHostRequest : SaveHostRequest where
  id := "host-both"
  name := "prod"
  host := "10.0.0.1"
  port := 22
  username := "root"
  authType := .privateKey
  password := some "pwd-123"
  privateKeyPath := some "~/.ssh/id_rsa"
  passphrase := some "pp-123"
  remark := none
  group := ""

def refusedPassphrase : HostConfigIo where
  credentials :=
    { setError := fun key =>
        if key = passphraseKey "host-both" then some "locked" else none }

theorem failed_save_restores_new_host :
    ∃ after,
      (⟨⟨none⟩, fun _ => none, none⟩ : HostConfigService).save
          refusedPassphrase newHostRequest =
        (.error ⟨.secureStoreError, "locked"⟩, after) ∧
      after.hostStore = ⟨none⟩ ∧ after.credentialStore = fun _ => none := by
  have executed : ∃ after,
      (⟨⟨none⟩, fun _ => none, none⟩ : HostConfigService).save
          refusedPassphrase newHostRequest =
        (.error ⟨.secureStoreError, "locked"⟩, after) := ⟨_, rfl⟩
  obtain ⟨after, failed⟩ := executed
  have restores := failed_save_restores_iff failed (by decide)
    (fun _ _ fault => by cases fault) (fun _ _ => rfl)
  have fresh : StoresFresh refusedPassphrase newHostRequest
      ⟨⟨none⟩, fun _ => none, none⟩ := fun _ _ _ _ _ => rfl
  exact ⟨after, failed, restores.mpr fresh⟩

/-! An edit that supplies a new password while the host file cannot be
written. -/

def committedHost : HostConfig where
  id := "host-1"
  name := "prod"
  host := "10.0.0.1"
  port := 22
  username := "root"
  authType := .password
  passwordRef := some "titanssh-host-1-password"
  privateKeyPath := none
  passphraseRef := none
  remark := none
  group := ""

def committedService : HostConfigService where
  hostStore := ⟨some (.document [committedHost])⟩
  credentialStore := fun key =>
    if key = "titanssh-host-1-password" then some "secret123" else none
  trustStore := none

def newPasswordRequest : SaveHostRequest where
  id := "host-1"
  name := "prod"
  host := "10.0.0.1"
  port := 22
  username := "root"
  authType := .password
  password := some "new-secret"
  privateKeyPath := none
  passphrase := none
  remark := none
  group := ""

def fullDisk : HostConfigIo where
  hosts :=
    { writeFault := some (.write "No space left on device"
        (some (.document [committedHost]))) }

/-- The save fails at the host file, which stays as it was and goes on naming
the password; the password itself is gone. -/
theorem failed_edit_loses_password :
    ∃ after,
      committedService.save fullDisk newPasswordRequest =
        (.error ⟨.storageError,
          "写入主机配置文件失败: No space left on device"⟩, after) ∧
      (∀ key, fullDisk.credentials.deleteError key = none) ∧
      after.hostStore = ⟨some (.document [committedHost])⟩ ∧
      committedHost.passwordRef = some "titanssh-host-1-password" ∧
      committedService.credentialStore "titanssh-host-1-password" =
        some "secret123" ∧
      after.credentialStore "titanssh-host-1-password" = none :=
  ⟨_, rfl, fun _ => rfl, rfl, rfl, rfl, rfl⟩

end HostConfigService

end TitanSSH
