import TitanSSH.Library.KeyedStore
import TitanSSH.Storage.HostStore
import TitanSSH.Storage.SecureStore
import TitanSSH.Storage.TrustStore

namespace TitanSSH

open Text

/-- What the credential store answers to the operations on each key. An
operation that fails leaves the entry as it was. -/
structure CredentialIo where
  setError : String → Option String := fun _ => none
  deleteError : String → Option String := fun _ => none

/-- What the three stores do during one call. -/
structure HostConfigIo where
  hosts : HostStoreIo := {}
  credentials : CredentialIo := {}
  trust : StoreIo := {}

structure HostConfigService where
  hostStore : HostStore
  credentialStore : KeyedStore String String
  trustStore : Option TrustStore

/-- The credential store during a save, with the keys written so far. -/
structure WrittenCredentials where
  credentialStore : KeyedStore String String
  writtenKeys : List String

def setCredential (io : CredentialIo) (key value : String)
    (entries : KeyedStore String String) :
    Except AppError Unit × KeyedStore String String :=
  match io.setError key with
  | some error => (.error ⟨.secureStoreError, error⟩, entries)
  | none => (.ok (), entries.insert key value)

def deleteCredential (io : CredentialIo) (key : String)
    (entries : KeyedStore String String) :
    Except AppError Unit × KeyedStore String String :=
  match io.deleteError key with
  | some error => (.error ⟨.secureStoreError, error⟩, entries)
  | none => (.ok (), entries.erase key)

/-- Delete each key, whatever the answers. -/
def discardCredentials (io : CredentialIo) (keys : List String)
    (entries : KeyedStore String String) : KeyedStore String String :=
  keys.foldl (fun remaining key => (deleteCredential io key remaining).2) entries

def forgetEndpoint (io : StoreIo) (host : String) (port : UInt16)
    (trustStore : Option TrustStore) :
    Except AppError Unit × Option TrustStore :=
  match trustStore with
  | none =>
      (.error ⟨.trustStoreError, "信任存储未初始化，无法清理信任记录"⟩, none)
  | some store =>
      match store.remove io host port with
      | (outcome, after) => (outcome, some after)

/-- A secret counts as supplied unless it is empty. -/
def suppliedSecret (provided : Option String) : Option String :=
  provided.filter (!·.isEmpty)

def resolveCredentialRef (io : CredentialIo) (hostId : String)
    (provided : Option String) (keyFn : String → String)
    (existingRef : Option String) (authTypeChanged : Bool)
    (written : WrittenCredentials) :
    Except AppError (Option String) × WrittenCredentials :=
  match suppliedSecret provided with
  | some value =>
      let key := keyFn hostId
      match setCredential io key value written.credentialStore with
      | (.error error, entries) =>
          (.error error, { written with credentialStore := entries })
      | (.ok (), entries) =>
          (.ok (some key), ⟨entries, written.writtenKeys ++ [key]⟩)
  | none =>
      (.ok (if authTypeChanged then none else existingRef), written)

theorem discardCredentials_of_deleted {io : CredentialIo}
    (deleted : ∀ key ∈ keys, io.deleteError key = none)
    (entries : KeyedStore String String) :
    discardCredentials io keys entries = entries.eraseAll keys := by
  induction keys generalizing entries with
  | nil => rfl
  | cons key rest induction =>
      have first := deleted key (by simp)
      have remaining := induction
        (fun other member => deleted other (by simp [member]))
        (entries.erase key)
      calc
        discardCredentials io (key :: rest) entries
            = discardCredentials io rest
                (deleteCredential io key entries).2 := rfl
        _ = discardCredentials io rest (entries.erase key) := by
              simp only [deleteCredential, first]
        _ = entries.eraseAll (key :: rest) := remaining

theorem resolveCredentialRef_cases
    (resolved : resolveCredentialRef io hostId provided keyFn existingRef
      authTypeChanged written = (outcome, after)) :
    (suppliedSecret provided = none ∧ after = written ∧
      outcome = .ok (if authTypeChanged then none else existingRef)) ∨
    (∃ value error, suppliedSecret provided = some value ∧
      io.setError (keyFn hostId) = some error ∧ after = written ∧
      outcome = .error ⟨.secureStoreError, error⟩) ∨
    (∃ value, suppliedSecret provided = some value ∧
      io.setError (keyFn hostId) = none ∧
      after = ⟨written.credentialStore.insert (keyFn hostId) value,
        written.writtenKeys ++ [keyFn hostId]⟩ ∧
      outcome = .ok (some (keyFn hostId))) := by
  unfold resolveCredentialRef at resolved
  cases supplied : suppliedSecret provided with
  | none =>
      simp only [supplied, Prod.mk.injEq] at resolved
      exact .inl ⟨rfl, resolved.2.symm, resolved.1.symm⟩
  | some value =>
      cases answer : io.setError (keyFn hostId) with
      | some error =>
          simp only [supplied, setCredential, answer, Prod.mk.injEq] at resolved
          exact .inr (.inl
            ⟨value, error, rfl, rfl, resolved.2.symm, resolved.1.symm⟩)
      | none =>
          simp only [supplied, setCredential, answer, Prod.mk.injEq] at resolved
          exact .inr (.inr
            ⟨value, rfl, rfl, resolved.2.symm, resolved.1.symm⟩)

def validateSaveRequest (request : SaveHostRequest) : Except AppError Unit :=
  if (trim request.name.toList).isEmpty then
    .error ⟨.invalidHostConfig, "主机名称为必填项"⟩
  else if (trim request.host.toList).isEmpty then
    .error ⟨.invalidHostConfig, "主机地址为必填项"⟩
  else if (trim request.username.toList).isEmpty then
    .error ⟨.invalidHostConfig, "用户名为必填项"⟩
  else
    .ok ()

def buildHostConfig (request : SaveHostRequest)
    (passwordRef passphraseRef : Option String) : HostConfig where
  id := request.id
  name := request.name
  host := request.host
  port := request.port
  username := request.username
  authType := request.authType
  passwordRef := passwordRef
  privateKeyPath := request.privateKeyPath
  passphraseRef := passphraseRef
  remark := request.remark
  group := request.group

/-- Replace the first host of the same id, or append. -/
def upsertHost (config : HostConfig) : List HostConfig → List HostConfig
  | [] => [config]
  | host :: rest =>
      if host.id = config.id then config :: rest
      else host :: upsertHost config rest

namespace HostConfigService

def listHosts (io : HostConfigIo) (service : HostConfigService) :
    Except AppError (List HostConfig) :=
  service.hostStore.load io.hosts

def getHost (io : HostConfigIo) (hostId : String)
    (service : HostConfigService) : Except AppError (Option HostConfig) :=
  match service.hostStore.load io.hosts with
  | .error error => .error error
  | .ok hosts => .ok (hosts.find? (·.id = hostId))

/-- The credential that a save leaves behind by switching to `authType`. -/
def staleKey (authType : AuthType) (hostId : String) : String :=
  match authType with
  | .privateKey => passwordKey hostId
  | .password => passphraseKey hostId

/-- The steps of a save up to and including the commit, with the keys they
wrote. -/
def attemptSave (io : HostConfigIo) (request : SaveHostRequest)
    (service : HostConfigService) :
    Except AppError (List HostConfig × Option (String × UInt16)) ×
      List String × HostConfigService :=
  match service.hostStore.load io.hosts with
  | .error error => (.error error, [], service)
  | .ok existingHosts =>
      let existing := existingHosts.find? (·.id = request.id)
      let authTypeChanged :=
        existing.elim false (·.authType != request.authType)
      let oldEndpoint :=
        (existing.filter fun host =>
            host.host != request.host || host.port != request.port).map
          fun host => (host.host, host.port)
      match resolveCredentialRef io.credentials request.id request.password
          passwordKey (existing.bind (·.passwordRef)) authTypeChanged
          ⟨service.credentialStore, []⟩ with
      | (.error error, written) =>
          (.error error, written.writtenKeys,
            { service with credentialStore := written.credentialStore })
      | (.ok passwordRef, written) =>
          match resolveCredentialRef io.credentials request.id
              request.passphrase passphraseKey
              (existing.bind (·.passphraseRef)) authTypeChanged written with
          | (.error error, written) =>
              (.error error, written.writtenKeys,
                { service with credentialStore := written.credentialStore })
          | (.ok passphraseRef, written) =>
              let hosts := upsertHost
                (buildHostConfig request passwordRef passphraseRef)
                existingHosts
              match service.hostStore.save io.hosts hosts with
              | (.error error, hostStore) =>
                  (.error error, written.writtenKeys,
                    { service with
                      hostStore := hostStore
                      credentialStore := written.credentialStore })
              | (.ok (), hostStore) =>
                  (.ok (hosts, oldEndpoint), written.writtenKeys,
                    { service with
                      hostStore := hostStore
                      credentialStore :=
                        if authTypeChanged then
                          discardCredentials io.credentials
                            [staleKey request.authType request.id]
                            written.credentialStore
                        else written.credentialStore })

def cleanupUnreferencedEndpoint (io : HostConfigIo) (hosts : List HostConfig)
    (oldEndpoint : Option (String × UInt16)) (service : HostConfigService) :
    Except AppError Unit × HostConfigService :=
  match oldEndpoint with
  | none => (.ok (), service)
  | some (host, port) =>
      if hosts.any (fun item => item.host == host && item.port == port) then
        (.ok (), service)
      else
        match forgetEndpoint io.trust host port service.trustStore with
        | (.ok (), trustStore) =>
            (.ok (), { service with trustStore := trustStore })
        | (.error error, trustStore) =>
            (.error ⟨.hostTrustCleanupFailed,
                "endpoint " ++ host ++ ":" ++ toString port.toNat ++
                  " 的信任记录清理失败: " ++ error.toString⟩,
              { service with trustStore := trustStore })

def save (io : HostConfigIo) (request : SaveHostRequest)
    (service : HostConfigService) :
    Except AppError (List HostConfig) × HostConfigService :=
  match validateSaveRequest request with
  | .error error => (.error error, service)
  | .ok () =>
      match service.attemptSave io request with
      | (.ok (hosts, oldEndpoint), _, committed) =>
          match committed.cleanupUnreferencedEndpoint io hosts oldEndpoint with
          | (.ok (), after) => (.ok hosts, after)
          | (.error error, after) => (.error error, after)
      | (.error error, writtenKeys, failed) =>
          (.error error,
            { failed with
              credentialStore := discardCredentials io.credentials writtenKeys
                failed.credentialStore })

def delete (io : HostConfigIo) (hostId : String)
    (service : HostConfigService) :
    Except AppError (List HostConfig) × HostConfigService :=
  match service.hostStore.load io.hosts with
  | .error error => (.error error, service)
  | .ok existingHosts =>
      let removedEndpoint :=
        (existingHosts.find? (·.id = hostId)).map
          fun host => (host.host, host.port)
      let hosts := existingHosts.filter (·.id ≠ hostId)
      match service.hostStore.save io.hosts hosts with
      | (.error error, hostStore) =>
          (.error error, { service with hostStore := hostStore })
      | (.ok (), hostStore) =>
          let committed : HostConfigService :=
            { service with
              hostStore := hostStore
              credentialStore := discardCredentials io.credentials
                [passwordKey hostId, passphraseKey hostId]
                service.credentialStore }
          match committed.cleanupUnreferencedEndpoint io hosts
              removedEndpoint with
          | (.ok (), after) => (.ok hosts, after)
          | (.error error, after) => (.error error, after)

end HostConfigService

end TitanSSH
