import TitanSSH.Core.HostConfig.EndpointTrust
import TitanSSH.Core.Transport.Connect

namespace TitanSSH

namespace Transport

/-! The credentials that a connection is made with are read from the credential
store under the references of the host. -/

def getCredential (faults : String → Option AppError) (key : String)
    (entries : KeyedStore String String) : Except AppError String :=
  match faults key with
  | some error => .error error
  | none =>
      match entries key with
      | none => .error ⟨.credentialNotFound, key⟩
      | some value => .ok value

/-- The reading of the terminal. -/
def loadCredentials (host : HostConfig) (faults : String → Option AppError)
    (entries : KeyedStore String String) :
    Except AppError (Option String × Option String) :=
  host.readCredentials "密码为必填项" true (getCredential faults · entries)

def hostCredentials (host : HostConfig) (faults : String → Option AppError)
    (entries : KeyedStore String String) :
    Except AppError (Option String × Option String) :=
  host.credentials (getCredential faults · entries)

def Capability.credentials :
    Capability → HostConfig → (String → Option AppError) →
      KeyedStore String String → Except AppError (Option String × Option String)
  | .terminal => loadCredentials
  | .sftp => hostCredentials
  | .exec => hostCredentials

end Transport

/-! A secret that is stored for a host has been supplied for it. -/

/-- The references of a host are to its own entries. -/
def HostConfig.OwnRefs (host : HostConfig) : Prop :=
  ∀ secret key, secret.ref host = some key → key = Secret.key secret host.id

/-- A write that fails leaves no list in which a host refers to the entries of
another. -/
def HostStoreIo.LeavesOwn (io : HostStoreIo) : Prop :=
  ∀ error hosts, io.writeFault = some (.write error (some (.document hosts))) →
    ∀ host ∈ hosts, host.OwnRefs

/-- A save among the calls supplied the secret. -/
def Supplied (calls : List HostCall) (secret : Secret) (hostId value : String) :
    Prop :=
  ∃ request, .save request ∈ calls ∧ request.id = hostId ∧
    secret.supplied request = some value

theorem Supplied.append {calls : List HostCall} {secret : Secret}
    {hostId value : String} (supplied : Supplied calls secret hostId value)
    (more : List HostCall) : Supplied (calls ++ more) secret hostId value := by
  obtain ⟨request, member, same, given⟩ := supplied
  exact ⟨request, List.mem_append_left _ member, same, given⟩

/-- Every entry was supplied under its key. -/
def EntriesSupplied (calls : List HostCall)
    (entries : KeyedStore String String) : Prop :=
  ∀ key value, entries key = some value →
    ∃ secret hostId, key = Secret.key secret hostId ∧
      Supplied calls secret hostId value

/-- The references of the host file, and the entries they can lead to. -/
structure OwnSecrets (calls : List HostCall) (service : HostConfigService) :
    Prop where
  refs : ∀ hosts, service.hostStore.file = some (.document hosts) →
    ∀ host ∈ hosts, host.OwnRefs
  entries : EntriesSupplied calls service.credentialStore

variable {calls : List HostCall} {service after : HostConfigService}
variable {io : HostConfigIo} {call : HostCall} {hosts : List HostConfig}
variable {entries : KeyedStore String String} {request : SaveHostRequest}

theorem EntriesSupplied.append (supplied : EntriesSupplied calls entries)
    (more : List HostCall) : EntriesSupplied (calls ++ more) entries := by
  intro key value found
  obtain ⟨secret, hostId, same, given⟩ := supplied key value found
  exact ⟨secret, hostId, same, given.append more⟩

theorem EntriesSupplied.delete (supplied : EntriesSupplied calls entries)
    (io : CredentialIo) (key : String) :
    EntriesSupplied calls (deleteCredential io key entries).2 := by
  unfold deleteCredential
  split
  · exact supplied
  · intro other value found
    change entries.erase key other = some value at found
    rcases eq_or_ne other key with rfl | different
    · simp at found
    · rw [KeyedStore.erase_of_ne different] at found
      exact supplied other value found

theorem EntriesSupplied.discard (supplied : EntriesSupplied calls entries)
    (io : CredentialIo) (keys : List String) :
    EntriesSupplied calls (discardCredentials io keys entries) := by
  induction keys generalizing entries with
  | nil => exact supplied
  | cons key rest induction => exact induction (supplied.delete io key)

/-- Resolving a reference leads to an entry of the host's own, or to where the
host referred to before. -/
theorem EntriesSupplied.resolve (secret : Secret) {provided : Option String}
    {existingRef : Option String} {changed : Bool}
    {written resolved : WrittenCredentials}
    {outcome : Except AppError (Option String)}
    (supplied : EntriesSupplied calls written.credentialStore)
    (saved : .save request ∈ calls)
    (given : suppliedSecret provided = secret.supplied request)
    (done : resolveCredentialRef io.credentials request.id provided secret.key
      existingRef changed written = (outcome, resolved)) :
    EntriesSupplied calls resolved.credentialStore ∧
    ∀ key, outcome = .ok (some key) →
      key = secret.key request.id ∨ existingRef = some key := by
  rcases resolveCredentialRef_cases done with
    ⟨-, rfl, rfl⟩ | ⟨value, error, -, -, rfl, rfl⟩ |
    ⟨value, provides, -, rfl, rfl⟩
  · refine ⟨supplied, fun key same => .inr ?_⟩
    cases changed <;> simp_all
  · exact ⟨supplied, by simp⟩
  · refine ⟨fun key other found => ?_, fun key same => .inl ?_⟩
    · change written.credentialStore.insert (secret.key request.id) value key =
        some other at found
      rcases eq_or_ne key (secret.key request.id) with rfl | different
      · obtain rfl : value = other := by simpa using found
        exact ⟨secret, request.id, rfl, request, saved, rfl,
          given.symm.trans provides⟩
      · rw [KeyedStore.insert_of_ne different] at found
        exact supplied key other found
    · exact (Option.some.inj (Except.ok.inj same)).symm

open HostConfigService

theorem mem_of_mem_upsertHost {config host : HostConfig}
    (member : host ∈ upsertHost config hosts) : host = config ∨ host ∈ hosts := by
  induction hosts with
  | nil => exact .inl (List.mem_singleton.mp member)
  | cons first rest induction =>
      unfold upsertHost at member
      split at member
      · rcases List.mem_cons.mp member with same | later
        · exact .inl same
        · exact .inr (List.mem_cons_of_mem _ later)
      · rcases List.mem_cons.mp member with rfl | later
        · exact .inr List.mem_cons_self
        · exact (induction later).imp id (List.mem_cons_of_mem _)

/-- Whatever becomes of a write, the file holds a list that keeps to its own
entries. -/
theorem ownRefs_of_save {store later : HostStore} {outcome : Except AppError Unit}
    (before : ∀ hosts, store.file = some (.document hosts) →
      ∀ host ∈ hosts, host.OwnRefs)
    (leaves : io.hosts.LeavesOwn) (own : ∀ host ∈ hosts, host.OwnRefs)
    (saved : store.save io.hosts hosts = (outcome, later)) :
    ∀ hosts, later.file = some (.document hosts) →
      ∀ host ∈ hosts, host.OwnRefs := by
  intro left file
  cases outcome with
  | error error =>
      rcases hostStore_save_error saved with rfl | ⟨reason, fault⟩
      · exact before left file
      · exact leaves reason left (file ▸ fault)
  | ok _ =>
      obtain rfl := HostsContent.document.inj
        (Option.some.inj ((hostStore_save_ok saved).symm.trans file))
      exact own

theorem OwnSecrets.attempt {outcome : Except AppError
      (List HostConfig × Option (String × UInt16))} {keys : List String}
    (own : OwnSecrets calls service) (leaves : io.hosts.LeavesOwn)
    (saved : .save request ∈ calls)
    (attempted : service.attemptSave io request = (outcome, keys, after)) :
    OwnSecrets calls after := by
  unfold attemptSave at attempted
  cases loaded : service.hostStore.load io.hosts with
  | error error =>
      simp only [loaded, Prod.mk.injEq] at attempted
      obtain ⟨-, -, rfl⟩ := attempted
      exact own
  | ok hosts =>
      have known : ∀ host ∈ hosts, host.OwnRefs := by
        rcases HostStore.load_ok loaded with rfl | file
        · simp
        · exact own.refs hosts file
      -- where the existing host of this id refers to
      have before : ∀ secret key, (hosts.find? (·.id = request.id)).bind
          (Secret.ref secret) = some key → key = secret.key request.id := by
        intro secret key referred
        obtain ⟨host, found, ref⟩ := Option.bind_eq_some_iff.mp referred
        have same : host.id = request.id := by
          simpa using List.find?_some found
        rw [← same]
        exact known host (List.mem_of_find?_eq_some found) secret key ref
      simp only [loaded] at attempted
      split at attempted
      · next error written resolved =>
          obtain ⟨-, -, rfl⟩ := attempted
          exact ⟨own.refs,
            (own.entries.resolve .password saved rfl resolved).1⟩
      · next passwordRef written resolved =>
          obtain ⟨first, password⟩ :=
            own.entries.resolve .password saved rfl resolved
          split at attempted
          · next error both resolvedToo =>
              obtain ⟨-, -, rfl⟩ := attempted
              exact ⟨own.refs,
                (first.resolve .passphrase saved rfl resolvedToo).1⟩
          · next passphraseRef both resolvedToo =>
              obtain ⟨second, passphrase⟩ :=
                first.resolve .passphrase saved rfl resolvedToo
              have config : (buildHostConfig request passwordRef
                  passphraseRef).OwnRefs := by
                rintro (_ | _) key ref
                · exact (password key (congrArg _ ref)).elim id
                    (before .password key)
                · exact (passphrase key (congrArg _ ref)).elim id
                    (before .passphrase key)
              have kept : ∀ host ∈ upsertHost (buildHostConfig request
                  passwordRef passphraseRef) hosts, host.OwnRefs := by
                intro host member
                rcases mem_of_mem_upsertHost member with rfl | earlier
                · exact config
                · exact known host earlier
              split at attempted
              · next error hostStore failed =>
                  obtain ⟨-, -, rfl⟩ := attempted
                  exact ⟨ownRefs_of_save own.refs leaves kept failed, second⟩
              · next hostStore written =>
                  obtain ⟨-, -, rfl⟩ := attempted
                  refine ⟨ownRefs_of_save own.refs leaves kept written, ?_⟩
                  show EntriesSupplied calls (if _ then _ else _)
                  split
                  · exact second.discard _ _
                  · exact second

theorem OwnSecrets.commit (own : OwnSecrets calls service)
    (leaves : io.hosts.LeavesOwn) (call : HostCall) :
    OwnSecrets (calls ++ [call]) (service.commit io call).2 := by
  have still : OwnSecrets (calls ++ [call]) service :=
    ⟨own.refs, own.entries.append [call]⟩
  unfold HostConfigService.commit
  cases call with
  | save request =>
      dsimp only
      split
      · exact still
      · split
        · next attempted =>
            exact still.attempt leaves (by simp) attempted
        · next attempted =>
            obtain ⟨refs, entries⟩ := still.attempt leaves (by simp) attempted
            exact ⟨refs, entries.discard _ _⟩
  | delete hostId =>
      dsimp only
      split
      · exact still
      · next hosts loaded =>
          have kept : ∀ host ∈ hosts.filter (·.id ≠ hostId), host.OwnRefs := by
            intro host member
            have inside := List.mem_of_mem_filter member
            rcases HostStore.load_ok loaded with rfl | file
            · cases inside
            · exact own.refs hosts file host inside
          split
          · next failed =>
              exact ⟨ownRefs_of_save own.refs leaves kept failed, still.entries⟩
          · next written =>
              exact ⟨ownRefs_of_save own.refs leaves kept written,
                still.entries.discard _ _⟩

theorem OwnSecrets.execute (own : OwnSecrets calls service)
    (leaves : io.hosts.LeavesOwn) (call : HostCall) :
    OwnSecrets (calls ++ [call]) (service.execute io call).2 := by
  have committed := own.commit leaves call
  rcases done : service.commit io call with ⟨outcome, after⟩
  rw [done] at committed
  cases outcome with
  | error error => rwa [(execute_of_failed done).2]
  | ok result =>
      rw [(execute_of_committed done).2]
      exact ⟨committed.refs, committed.entries⟩

theorem OwnSecrets.executeAll (own : OwnSecrets calls service)
    {steps : List (HostConfigIo × HostCall)}
    (leaves : ∀ step ∈ steps, step.1.hosts.LeavesOwn) :
    OwnSecrets (calls ++ steps.map (·.2)) (service.executeAll steps) := by
  induction steps generalizing service calls with
  | nil => exact (List.append_nil calls).symm ▸ own
  | cons step rest induction =>
      have first := own.execute (leaves step List.mem_cons_self) step.2
      have later := induction first fun other member =>
        leaves other (List.mem_cons_of_mem _ member)
      rwa [List.append_assoc] at later

namespace Transport

/-- A credential of the host alone: its user, and secrets supplied for it. -/
def Credential.OwnedBy (calls : List HostCall) (host : HostConfig) :
    Credential → Prop
  | .password username secret =>
      username = host.username ∧ Supplied calls .password host.id secret
  | .keyFile username path passphrase =>
      username = host.username ∧ host.privateKeyPath = some path ∧
        ∀ secret, passphrase = some secret →
          Supplied calls .passphrase host.id secret

variable {calls : List HostCall} {host : HostConfig}
variable {entries : KeyedStore String String}
variable {faults : String → Option AppError} {password passphrase : Option String}

theorem getCredential_ok {key value : String}
    (read : getCredential faults key entries = .ok value) :
    entries key = some value := by
  unfold getCredential at read
  split at read
  · cases read
  · split at read
    · cases read
    · next found => exact found.trans (congrArg some (Except.ok.inj read))

theorem supplied_of_read (secret : Secret) {key value : String}
    (supplied : EntriesSupplied calls entries) (own : host.OwnRefs)
    (referred : secret.ref host = some key)
    (read : getCredential faults key entries = .ok value) :
    Supplied calls secret host.id value := by
  obtain ⟨other, hostId, same, given⟩ :=
    supplied key value (getCredential_ok read)
  rw [own secret key referred] at same
  obtain ⟨rfl, rfl⟩ := Secret.key_inj.mp same
  exact given

/-- How the reading of both credentials succeeds. -/
theorem readCredentials_ok {missing : String} {asksPath : Bool}
    (read : host.readCredentials missing asksPath (getCredential faults · entries) =
      .ok (password, passphrase)) :
    (host.authType = .password ∧ passphrase = none ∧
      ∃ key value, host.passwordRef = some key ∧ password = some value ∧
        getCredential faults key entries = .ok value) ∨
    (host.authType = .privateKey ∧ password = none ∧
      ∀ value, passphrase = some value →
        ∃ key, host.passphraseRef = some key ∧
          getCredential faults key entries = .ok value) := by
  unfold HostConfig.readCredentials at read
  split at read
  · next auth =>
      left
      split at read
      · cases read
      · next key referred =>
          cases got : getCredential faults key entries with
          | error error => simp [got, Except.map] at read
          | ok value =>
              simp only [got, Except.map, Except.ok.injEq, Prod.mk.injEq] at read
              obtain ⟨rfl, rfl⟩ := read
              exact ⟨auth, rfl, key, value, referred, rfl, got⟩
  · next auth =>
      right
      split at read
      · cases read
      · split at read
        · simp only [Except.ok.injEq, Prod.mk.injEq] at read
          obtain ⟨rfl, rfl⟩ := read
          exact ⟨auth, rfl, by simp⟩
        · next key referred =>
            cases got : getCredential faults key entries with
            | error error => simp [got, Except.map] at read
            | ok value =>
                simp only [got, Except.map, Except.ok.injEq,
                  Prod.mk.injEq] at read
                obtain ⟨rfl, rfl⟩ := read
                refine ⟨auth, rfl, fun other same => ⟨key, referred, ?_⟩⟩
                exact got.trans (congrArg _ (Option.some.inj same))

theorem Connection.credential_owned {connection : Connection}
    {credential : Credential} (supplied : EntriesSupplied calls entries)
    (own : connection.host.OwnRefs)
    (read : connection.capability.credentials connection.host faults entries =
      .ok (connection.password, connection.passphrase))
    (known : connection.credential = .ok credential) :
    credential.OwnedBy calls connection.host := by
  obtain ⟨missing, asksPath, read⟩ : ∃ missing asksPath,
      connection.host.readCredentials missing asksPath
          (getCredential faults · entries) =
        .ok (connection.password, connection.passphrase) := by
    cases capability : connection.capability <;> rw [capability] at read <;>
      exact ⟨_, _, read⟩
  unfold Connection.credential at known
  rcases readCredentials_ok read with
    ⟨auth, -, key, value, referred, given, got⟩ | ⟨auth, -, reads⟩
  · simp only [auth, given, Except.ok.injEq] at known
    subst known
    exact ⟨rfl, supplied_of_read .password supplied own referred got⟩
  · simp only [auth] at known
    split at known
    · cases known
    · next path found =>
        obtain rfl := Except.ok.inj known
        refine ⟨rfl, found, fun secret given => ?_⟩
        obtain ⟨key, referred, got⟩ := reads secret given
        exact supplied_of_read .passphrase supplied own referred got

/-- Whatever fails along the way, a connection made for a host that was listed
once, however long ago, sends secrets that were supplied for this host alone. -/
theorem credentials_own {start : HostConfigService}
    {steps more : List (HostConfigIo × HostCall)} {io : HostConfigIo}
    {hosts : List HostConfig} {connection : Connection} {credential : Credential}
    (noHosts : start.hostStore.file = none)
    (noEntries : start.credentialStore = fun _ => none)
    (leaves : ∀ step ∈ steps ++ more, step.1.hosts.LeavesOwn)
    (listed : (start.executeAll steps).listHosts io = .ok hosts)
    (member : connection.host ∈ hosts)
    (read : connection.capability.credentials connection.host faults
      (start.executeAll (steps ++ more)).credentialStore =
        .ok (connection.password, connection.passphrase))
    (known : connection.credential = .ok credential) :
    credential.OwnedBy ((steps ++ more).map (·.2)) connection.host := by
  have fresh : OwnSecrets [] start := by
    refine ⟨fun hosts file => ?_, fun key value found => ?_⟩
    · cases noHosts.symm.trans file
    · rw [noEntries] at found
      cases found
  have own : connection.host.OwnRefs := by
    have earlier := fresh.executeAll fun step inside =>
      leaves step (List.mem_append_left _ inside)
    rcases HostStore.load_ok listed with rfl | file
    · cases member
    · exact earlier.refs hosts file _ member
  exact connection.credential_owned (fresh.executeAll leaves).entries own read
    known

def savedHost : HostConfig :=
  buildHostConfig passwordHost (some (passwordKey "host-1")) none

/-- A session that was opened on the host connects once more. -/
def staleConnection : Connection where
  capability := .sftp
  sessionId := "session"
  host := savedHost
  password := some "secret123"
  passphrase := none

/-- The host file is lost on a full disk when the host is deleted. -/
def lostHosts : HostConfigIo where
  hosts := { writeFault := some (.write "disk full" none) }

def savingHost : List (HostConfigIo × HostCall) :=
  [({}, .save passwordHost)]

def losingHosts : List (HostConfigIo × HostCall) :=
  [(lostHosts, .delete "host-1")]

theorem credentials_own_stale :
    staleConnection.credential = .ok (.password "root" "secret123") ∧
    (Credential.password "root" "secret123").OwnedBy
      [.save passwordHost, .delete "host-1"] savedHost := by
  have leaves : ∀ step ∈ savingHost ++ losingHosts,
      step.1.hosts.LeavesOwn := by
    intro step member error hosts fault
    simp only [savingHost, losingHosts, List.cons_append, List.nil_append,
      List.mem_cons, List.not_mem_nil, or_false] at member
    rcases member with rfl | rfl <;> cases fault
  have listed : (noStores.executeAll savingHost).listHosts {} =
      .ok [savedHost] := rfl
  have read : staleConnection.capability.credentials staleConnection.host
      (fun _ => none)
      (noStores.executeAll (savingHost ++ losingHosts)).credentialStore =
      .ok (staleConnection.password, staleConnection.passphrase) := rfl
  exact ⟨rfl, credentials_own rfl rfl leaves listed (List.mem_singleton_self _)
    read rfl⟩

end Transport

end TitanSSH
