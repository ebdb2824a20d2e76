import TitanSSH.Core.HostConfig.Service
import TitanSSH.Library.GuardedRuns

namespace TitanSSH

/-! The credential references of `hosts.json` against the entries of the
credential store, over runs of saves and deletes. -/

inductive Secret
  | password
  | passphrase
  deriving DecidableEq

namespace Secret

def key : Secret → String → String
  | .password => passwordKey
  | .passphrase => passphraseKey

def ref : Secret → HostConfig → Option String
  | .password => HostConfig.passwordRef
  | .passphrase => HostConfig.passphraseRef

def supplied : Secret → SaveHostRequest → Option String
  | .password, request => suppliedSecret request.password
  | .passphrase, request => suppliedSecret request.passphrase

/-- The secret that an authentication type has no use for. -/
def unusedBy : AuthType → Secret
  | .privateKey => .password
  | .password => .passphrase

def other : Secret → Secret
  | .password => .passphrase
  | .passphrase => .password

theorem staleKey_eq (authType : AuthType) (hostId : String) :
    HostConfigService.staleKey authType hostId = (unusedBy authType).key hostId := by
  cases authType <;> rfl

theorem eq_other_of_ne {secret first : Secret} (different : secret ≠ first) :
    secret = first.other := by
  cases secret <;> cases first <;> first | rfl | exact absurd rfl different

theorem ne_other (secret : Secret) : secret.other ≠ secret := by
  cases secret <;> nofun

theorem key_inj {secret another : Secret} {hostId anotherId : String} :
    secret.key hostId = another.key anotherId ↔
      secret = another ∧ hostId = anotherId := by
  have apart : ∀ first second : String,
      passwordKey first ≠ passphraseKey second := by
    intro first second same
    have texts := congrArg (fun text => text.toList.reverse.head?) same
    simp [passwordKey, passphraseKey] at texts
  constructor
  · intro same
    cases secret <;> cases another
    · simpa [key, passwordKey, String.ext_iff] using same
    · exact absurd same (apart hostId anotherId)
    · exact absurd same.symm (apart anotherId hostId)
    · simpa [key, passphraseKey, String.ext_iff] using same
  · rintro ⟨rfl, rfl⟩
    rfl

end Secret

inductive HostCall
  | save (request : SaveHostRequest)
  | delete (hostId : String)

/-- The secret that a call supplies for a host. -/
def HostCall.supplies (secret : Secret) (hostId : String) :
    HostCall → Option String
  | .save request => if request.id = hostId then secret.supplied request else none
  | .delete _ => none

def lastSupplied (log : List HostCall) (secret : Secret) (hostId : String) :
    Option String :=
  (log.filterMap (HostCall.supplies secret hostId)).getLast?

theorem lastSupplied_append (log : List HostCall) (call : HostCall)
    (secret : Secret) (hostId : String) :
    lastSupplied (log ++ [call]) secret hostId =
      (call.supplies secret hostId).or (lastSupplied log secret hostId) := by
  cases supplied : call.supplies secret hostId with
  | none => simp [lastSupplied, supplied]
  | some value => simp [lastSupplied, supplied]

/-- What the stores do during one call.  The credential store does not fail. -/
structure HostAction where
  call : HostCall
  hosts : HostStoreIo := {}
  trust : StoreIo := {}

def HostAction.io (action : HostAction) : HostConfigIo :=
  ⟨action.hosts, {}, action.trust⟩

namespace HostConfigService

def perform (action : HostAction) (service : HostConfigService) :
    Except AppError (List HostConfig) × HostConfigService :=
  match action.call with
  | .save request => service.save action.io request
  | .delete hostId => service.delete action.io hostId

/-- The service under calls that return Ok. -/
def successfulCalls :
    Interleaving.Machine HostConfigService HostAction HostCall where
  step service action :=
    match service.perform action with
    | (.ok _, after) => some (after, [action.call])
    | (.error _, _) => none

structure CredentialsAgree (log : List HostCall) (hosts : List HostConfig)
    (entries : KeyedStore String String) : Prop where
  references : ∀ host ∈ hosts, ∀ (secret : Secret) key,
    secret.ref host = some key ↔
      key = secret.key host.id ∧ ∃ value, entries key = some value
  values : ∀ host ∈ hosts, ∀ (secret : Secret) value,
    entries (secret.key host.id) = some value →
      lastSupplied log secret host.id = some value
  removed : ∀ hostId, hostId ∉ hosts.map (·.id) → ∀ secret : Secret,
    entries (secret.key hostId) = none
  referenced : ∀ key value, entries key = some value →
    ∃ host ∈ hosts, ∃ secret : Secret, secret.ref host = some key

/-- The host file is readable, and a save that switches the authentication type
supplies no secret that the new type has no use for, and replaces the secret
of the new type if the host has one. -/
def keepsCredentials (service : HostConfigService) (action : HostAction) :
    Bool :=
  action.hosts.examinable &&
    match action.call with
    | .delete _ => true
    | .save request =>
        match service.getHost action.io request.id with
        | .ok (some host) =>
            host.authType == request.authType ||
              ((Secret.unusedBy request.authType).supplied request).isNone &&
                (((Secret.unusedBy request.authType).other.ref host).isNone ||
                  ((Secret.unusedBy request.authType).other.supplied
                    request).isSome)
        | _ => true

/-! What a successful call does to the two stores. -/

variable {service after : HostConfigService} {request : SaveHostRequest}
variable {hosts : List HostConfig} {entries next : KeyedStore String String}

def switches (hosts : List HostConfig) (request : SaveHostRequest) : Bool :=
  (hosts.find? (·.id = request.id)).elim false
    (·.authType != request.authType)

def savedRef (hosts : List HostConfig) (request : SaveHostRequest)
    (secret : Secret) : Option String :=
  if (secret.supplied request).isSome then some (secret.key request.id)
  else if switches hosts request then none
  else (hosts.find? (·.id = request.id)).bind secret.ref

def savedConfig (hosts : List HostConfig) (request : SaveHostRequest) :
    HostConfig :=
  buildHostConfig request (savedRef hosts request .password)
    (savedRef hosts request .passphrase)

theorem resolveCredentialRef_working (hostId : String)
    (provided : Option String) (keyFn : String → String)
    (existingRef : Option String) (authTypeChanged : Bool)
    (written : WrittenCredentials) :
    ∃ keys, resolveCredentialRef {} hostId provided keyFn existingRef
        authTypeChanged written =
      (.ok (if (suppliedSecret provided).isSome then some (keyFn hostId)
        else if authTypeChanged then none else existingRef),
        ⟨(suppliedSecret provided).elim written.credentialStore
          (written.credentialStore.insert (keyFn hostId)), keys⟩) := by
  unfold resolveCredentialRef
  cases suppliedSecret provided with
  | none => exact ⟨_, rfl⟩
  | some value => exact ⟨_, rfl⟩

theorem cleanupUnreferencedEndpoint_stores (io : HostConfigIo)
    (hosts : List HostConfig) (oldEndpoint : Option (String × UInt16))
    (service : HostConfigService) :
    (service.cleanupUnreferencedEndpoint io hosts oldEndpoint).2.hostStore =
      service.hostStore ∧
    (service.cleanupUnreferencedEndpoint io hosts oldEndpoint).2.credentialStore =
      service.credentialStore := by
  unfold cleanupUnreferencedEndpoint
  split
  · exact ⟨rfl, rfl⟩
  · split
    · exact ⟨rfl, rfl⟩
    · split <;> exact ⟨rfl, rfl⟩

theorem hostStore_save_ok {io : HostStoreIo} {store later : HostStore}
    (saved : store.save io hosts = (.ok (), later)) :
    later.file = some (.document hosts) := by
  unfold HostStore.save at saved
  split at saved
  · simp at saved
  · simp at saved
  · simp only [Prod.mk.injEq, true_and] at saved
    rw [← saved]

/-- The entries once a secret has been written, if the request has it. -/
def write (secret : Secret) (request : SaveHostRequest)
    (entries : KeyedStore String String) : KeyedStore String String :=
  (secret.supplied request).elim entries
    (entries.insert (secret.key request.id))

theorem write_own (secret : Secret) (request : SaveHostRequest)
    (entries : KeyedStore String String) :
    write secret request entries (secret.key request.id) =
      (secret.supplied request).or (entries (secret.key request.id)) := by
  unfold write
  cases secret.supplied request with
  | none => simp
  | some value => simp

theorem write_of_ne {secret : Secret} {key : String}
    (different : key ≠ secret.key request.id) :
    write secret request entries key = entries key := by
  unfold write
  cases secret.supplied request with
  | none => rfl
  | some value => exact KeyedStore.insert_of_ne different value entries

theorem write_both (secret : Secret) :
    write .passphrase request (write .password request entries)
        (secret.key request.id) =
      (secret.supplied request).or (entries (secret.key request.id)) := by
  have apart : Secret.password.key request.id ≠
      Secret.passphrase.key request.id :=
    fun same => by cases (Secret.key_inj.mp same).1
  cases secret with
  | password => rw [write_of_ne apart, write_own]
  | passphrase => rw [write_own, write_of_ne apart.symm]

/-- The entries that a save of the request leaves behind. -/
def savedEntries (hosts : List HostConfig) (request : SaveHostRequest)
    (entries : KeyedStore String String) : KeyedStore String String :=
  if switches hosts request then
    (write .passphrase request (write .password request entries)).erase
      ((Secret.unusedBy request.authType).key request.id)
  else write .passphrase request (write .password request entries)

theorem attemptSave_ok {io : HostConfigIo} {result : List HostConfig}
    {oldEndpoint : Option (String × UInt16)} {keys : List String}
    (working : io.credentials = {})
    (loaded : service.hostStore.load io.hosts = .ok hosts)
    (attempted : service.attemptSave io request =
      (.ok (result, oldEndpoint), keys, after)) :
    after.hostStore.file =
      some (.document (upsertHost (savedConfig hosts request) hosts)) ∧
    after.credentialStore =
      savedEntries hosts request service.credentialStore := by
  obtain ⟨firstKeys, first⟩ := resolveCredentialRef_working request.id
    request.password passwordKey
    ((hosts.find? (·.id = request.id)).bind (·.passwordRef))
    (switches hosts request) ⟨service.credentialStore, []⟩
  obtain ⟨secondKeys, second⟩ := resolveCredentialRef_working request.id
    request.passphrase passphraseKey
    ((hosts.find? (·.id = request.id)).bind (·.passphraseRef))
    (switches hosts request)
    ⟨write .password request service.credentialStore, firstKeys⟩
  simp only [switches, write, Secret.supplied, Secret.key] at first second
  simp only [attemptSave, loaded, working, first, second] at attempted
  split at attempted
  · simp at attempted
  · next hostStore written =>
      simp only [Prod.mk.injEq, Except.ok.injEq] at attempted
      obtain ⟨-, -, rfl⟩ := attempted
      refine ⟨hostStore_save_ok written, ?_⟩
      simp only [savedEntries, Secret.staleKey_eq]
      rfl

theorem save_ok {io : HostConfigIo} {result : List HostConfig}
    (working : io.credentials = {})
    (loaded : service.hostStore.load io.hosts = .ok hosts)
    (saved : service.save io request = (.ok result, after)) :
    after.hostStore.file =
      some (.document (upsertHost (savedConfig hosts request) hosts)) ∧
    after.credentialStore =
      savedEntries hosts request service.credentialStore := by
  unfold save at saved
  split at saved
  · simp at saved
  · split at saved
    · next result oldEndpoint keys committed attempted =>
        have stores := cleanupUnreferencedEndpoint_stores io result oldEndpoint
          committed
        have kept := attemptSave_ok working loaded attempted
        split at saved
        · next later cleaned =>
            rw [cleaned] at stores
            simp only [Prod.mk.injEq] at saved
            rw [← saved.2, stores.1, stores.2]
            exact kept
        · simp at saved
    · simp at saved

theorem save_loaded {io : HostConfigIo} {result : List HostConfig}
    (saved : service.save io request = (.ok result, after)) :
    ∃ hosts, service.hostStore.load io.hosts = .ok hosts := by
  cases loaded : service.hostStore.load io.hosts with
  | ok hosts => exact ⟨hosts, rfl⟩
  | error error =>
      simp only [save, attemptSave, loaded] at saved
      split at saved <;> cases saved

theorem delete_loaded {io : HostConfigIo} {result : List HostConfig}
    {hostId : String}
    (deleted : service.delete io hostId = (.ok result, after)) :
    ∃ hosts, service.hostStore.load io.hosts = .ok hosts := by
  cases loaded : service.hostStore.load io.hosts with
  | ok hosts => exact ⟨hosts, rfl⟩
  | error error =>
      simp only [delete, loaded] at deleted
      cases deleted

theorem delete_ok {io : HostConfigIo} {result : List HostConfig}
    {hostId : String} (working : io.credentials = {})
    (loaded : service.hostStore.load io.hosts = .ok hosts)
    (deleted : service.delete io hostId = (.ok result, after)) :
    after.hostStore.file =
      some (.document (hosts.filter (·.id ≠ hostId))) ∧
    after.credentialStore =
      service.credentialStore.eraseAll
        [passwordKey hostId, passphraseKey hostId] := by
  simp only [delete, loaded, working] at deleted
  split at deleted
  · simp at deleted
  · next hostStore written =>
      have stores := cleanupUnreferencedEndpoint_stores io
        (hosts.filter (·.id ≠ hostId))
        ((hosts.find? (·.id = hostId)).map fun host => (host.host, host.port))
        ⟨hostStore, discardCredentials {}
          [passwordKey hostId, passphraseKey hostId] service.credentialStore,
          service.trustStore⟩
      split at deleted
      · next later cleaned =>
          rw [cleaned] at stores
          simp only [Prod.mk.injEq] at deleted
          rw [← deleted.2, stores.1, stores.2]
          exact ⟨hostStore_save_ok written,
            discardCredentials_of_deleted (fun _ _ => rfl) _⟩
      · simp at deleted

theorem savedEntries_own (secret : Secret) :
    savedEntries hosts request entries (secret.key request.id) =
      if switches hosts request ∧ secret = .unusedBy request.authType then none
      else (secret.supplied request).or (entries (secret.key request.id)) := by
  unfold savedEntries
  by_cases switched : switches hosts request = true
  · by_cases unused : secret = .unusedBy request.authType
    · simp [switched, unused]
    · have apart : secret.key request.id ≠
          (Secret.unusedBy request.authType).key request.id :=
        fun same => unused (Secret.key_inj.mp same).1
      rw [if_pos switched, KeyedStore.erase_of_ne apart, write_both]
      simp [unused]
  · simp [switched, write_both]

theorem savedEntries_other {key : String}
    (foreign : ∀ secret : Secret, key ≠ secret.key request.id) :
    savedEntries hosts request entries key = entries key := by
  have unwritten : write .passphrase request (write .password request entries)
      key = entries key := by
    rw [write_of_ne (foreign .passphrase), write_of_ne (foreign .password)]
  unfold savedEntries
  split
  · rw [KeyedStore.erase_of_ne (foreign _), unwritten]
  · exact unwritten

theorem mem_upsertHost {config host : HostConfig}
    (distinct : (hosts.map (·.id)).Nodup) :
    host ∈ upsertHost config hosts ↔
      host = config ∨ host ∈ hosts ∧ host.id ≠ config.id := by
  induction hosts with
  | nil => simp [upsertHost]
  | cons first rest induction =>
      simp only [List.map_cons, List.nodup_cons] at distinct
      unfold upsertHost
      split
      · next same =>
          have apart : ∀ other ∈ rest, other.id ≠ config.id := by
            intro other member equal
            apply distinct.1
            rw [same, ← equal]
            exact List.mem_map_of_mem member
          simp only [List.mem_cons]
          refine or_congr_right ⟨fun member => ⟨.inr member, apart host member⟩, ?_⟩
          rintro ⟨rfl | member, different⟩
          · exact absurd same different
          · exact member
      · next different =>
          simp only [List.mem_cons, induction distinct.2]
          constructor
          · rintro (rfl | rfl | ⟨member, apart⟩)
            · exact .inr ⟨.inl rfl, different⟩
            · exact .inl rfl
            · exact .inr ⟨.inr member, apart⟩
          · rintro (rfl | ⟨rfl | member, apart⟩)
            · exact .inr (.inl rfl)
            · exact .inl rfl
            · exact .inr (.inr ⟨member, apart⟩)

theorem upsertHost_distinct {config : HostConfig}
    (distinct : (hosts.map (·.id)).Nodup) :
    ((upsertHost config hosts).map (·.id)).Nodup := by
  induction hosts with
  | nil => simp [upsertHost]
  | cons first rest induction =>
      have both := distinct
      simp only [List.map_cons, List.nodup_cons] at both
      unfold upsertHost
      split
      · next same => simpa [← same] using distinct
      · next different =>
          rw [List.map_cons, List.nodup_cons]
          refine ⟨?_, induction both.2⟩
          intro member
          obtain ⟨host, inside, same⟩ := List.mem_map.mp member
          rcases (mem_upsertHost both.2).mp inside with rfl | ⟨earlier, -⟩
          · exact different same.symm
          · exact both.1 (List.mem_map.mpr ⟨host, earlier, same⟩)

theorem find?_of_mem {host : HostConfig}
    (distinct : (hosts.map (·.id)).Nodup) (member : host ∈ hosts) :
    hosts.find? (·.id = host.id) = some host := by
  induction hosts with
  | nil => cases member
  | cons first rest induction =>
      simp only [List.map_cons, List.nodup_cons] at distinct
      rcases List.mem_cons.mp member with rfl | later
      · simp
      · have different : first.id ≠ host.id := by
          intro same
          apply distinct.1
          rw [same]
          exact List.mem_map_of_mem later
        rw [List.find?_cons_of_neg (by simpa using different)]
        exact induction distinct.2 later

/-! The agreement of the two stores, kept by each call. -/

variable {log : List HostCall}

theorem refers_iff {ref : Option String} {own : String} :
    (∀ key, ref = some key ↔ key = own ∧ ∃ value, entries key = some value) ↔
      ref = (entries own).map fun _ => own := by
  cases entry : entries own with
  | none =>
      simp only [Option.map_none]
      constructor
      · intro refers
        cases present : ref with
        | none => rfl
        | some key =>
            obtain ⟨rfl, value, found⟩ := (refers key).mp present
            rw [entry] at found
            cases found
      · rintro rfl key
        refine ⟨nofun, ?_⟩
        rintro ⟨rfl, value, found⟩
        rw [entry] at found
        cases found
  | some value =>
      simp only [Option.map_some]
      constructor
      · intro refers
        exact (refers own).mpr ⟨rfl, value, entry⟩
      · rintro rfl key
        constructor
        · intro same
          cases same
          exact ⟨rfl, value, entry⟩
        · rintro ⟨rfl, -⟩
          rfl

theorem CredentialsAgree.ref_eq (agree : CredentialsAgree log hosts entries)
    {host : HostConfig} (member : host ∈ hosts) (secret : Secret) :
    secret.ref host =
      (entries (secret.key host.id)).map fun _ => secret.key host.id :=
  refers_iff.mp (agree.references host member secret)

theorem CredentialsAgree.of_refs
    (refs : ∀ host ∈ hosts, ∀ secret : Secret, secret.ref host =
      (entries (secret.key host.id)).map fun _ => secret.key host.id)
    (values : ∀ host ∈ hosts, ∀ (secret : Secret) value,
      entries (secret.key host.id) = some value →
        lastSupplied log secret host.id = some value)
    (referenced : ∀ key value, entries key = some value →
      ∃ host ∈ hosts, ∃ secret : Secret, key = secret.key host.id) :
    CredentialsAgree log hosts entries where
  references := fun host member secret => refers_iff.mpr (refs host member secret)
  values := values
  removed := by
    intro hostId absent secret
    cases entry : entries (secret.key hostId) with
    | none => rfl
    | some value =>
        obtain ⟨host, member, another, same⟩ := referenced _ value entry
        rw [(Secret.key_inj.mp same).2] at absent
        exact absurd (List.mem_map_of_mem member) absent
  referenced := by
    intro key value entry
    obtain ⟨host, member, secret, rfl⟩ := referenced key value entry
    refine ⟨host, member, secret, ?_⟩
    rw [refs host member secret, entry]
    rfl

theorem CredentialsAgree.derived (agree : CredentialsAgree log hosts entries)
    {key value : String} (entry : entries key = some value) :
    ∃ host ∈ hosts, ∃ secret : Secret, key = secret.key host.id := by
  obtain ⟨host, member, secret, named⟩ := agree.referenced key value entry
  exact ⟨host, member, secret,
    ((agree.references host member secret key).mp named).1⟩

theorem CredentialsAgree.saved_value
    (agree : CredentialsAgree log hosts entries) {secret : Secret}
    {value : String}
    (entry : savedEntries hosts request entries (secret.key request.id) =
      some value) :
    (secret.supplied request).or (lastSupplied log secret request.id) =
      some value := by
  rw [savedEntries_own] at entry
  split at entry
  · cases entry
  · cases supplied : secret.supplied request with
    | some given => simpa [supplied] using entry
    | none =>
        rw [supplied, Option.none_or] at entry
        obtain ⟨host, member, another, same⟩ := agree.derived entry
        obtain ⟨rfl, named⟩ := Secret.key_inj.mp same
        rw [named] at entry
        rw [Option.none_or, named]
        exact agree.values host member secret value entry

/-- The saved host refers to what is stored. -/
def SavedAgrees (hosts : List HostConfig) (request : SaveHostRequest)
    (entries : KeyedStore String String) : Prop :=
  ∀ secret : Secret, savedRef hosts request secret =
    (savedEntries hosts request entries (secret.key request.id)).map
      fun _ => secret.key request.id

theorem savedConfig_ref (secret : Secret) :
    secret.ref (savedConfig hosts request) = savedRef hosts request secret := by
  cases secret <;> rfl

theorem CredentialsAgree.save_iff (agree : CredentialsAgree log hosts entries)
    (distinct : (hosts.map (·.id)).Nodup) :
    CredentialsAgree (log ++ [.save request])
        (upsertHost (savedConfig hosts request) hosts)
        (savedEntries hosts request entries) ↔
      SavedAgrees hosts request entries := by
  constructor
  · intro saved secret
    rw [← savedConfig_ref]
    exact saved.ref_eq ((mem_upsertHost distinct).mpr (.inl rfl)) secret
  · intro saved
    have others : ∀ host : HostConfig, host.id ≠ request.id →
        ∀ secret : Secret, savedEntries hosts request entries
          (secret.key host.id) = entries (secret.key host.id) :=
      fun host different secret => savedEntries_other fun another same =>
        different (Secret.key_inj.mp same).2
    refine .of_refs ?_ ?_ ?_
    · intro host member secret
      rcases (mem_upsertHost distinct).mp member with rfl | ⟨earlier, different⟩
      · rw [savedConfig_ref]
        exact saved secret
      · rw [others host different]
        exact agree.ref_eq earlier secret
    · intro host member secret value entry
      rw [lastSupplied_append]
      rcases (mem_upsertHost distinct).mp member with rfl | ⟨earlier, different⟩
      · change savedEntries hosts request entries (secret.key request.id) =
          some value at entry
        have own : (HostCall.save request).supplies secret
            (savedConfig hosts request).id = secret.supplied request :=
          if_pos rfl
        rw [own]
        exact agree.saved_value entry
      · rw [others host different] at entry
        have unchanged : (HostCall.save request).supplies secret host.id =
            none := if_neg (Ne.symm different)
        rw [unchanged, Option.none_or]
        exact agree.values host earlier secret value entry
    · intro key value entry
      by_cases own : ∃ secret : Secret, key = secret.key request.id
      · obtain ⟨secret, same⟩ := own
        exact ⟨_, (mem_upsertHost distinct).mpr (.inl rfl), secret, same⟩
      · rw [not_exists] at own
        rw [savedEntries_other own] at entry
        obtain ⟨host, member, secret, rfl⟩ := agree.derived entry
        refine ⟨host, (mem_upsertHost distinct).mpr (.inr ⟨member, ?_⟩), secret,
          rfl⟩
        intro same
        exact own secret (congrArg secret.key same)

/-- What a save may not do when it switches the authentication type. -/
def SwitchKeeps (hosts : List HostConfig) (request : SaveHostRequest) : Prop :=
  switches hosts request = true →
    (Secret.unusedBy request.authType).supplied request = none ∧
    ((hosts.find? (·.id = request.id)).bind
        (Secret.unusedBy request.authType).other.ref = none ∨
      ((Secret.unusedBy request.authType).other.supplied request).isSome)

theorem CredentialsAgree.find_eq (agree : CredentialsAgree log hosts entries)
    (secret : Secret) :
    (hosts.find? (·.id = request.id)).bind secret.ref =
      (entries (secret.key request.id)).map fun _ => secret.key request.id := by
  cases found : hosts.find? (·.id = request.id) with
  | none =>
      have absent : request.id ∉ hosts.map (·.id) := by
        intro member
        obtain ⟨host, inside, same⟩ := List.mem_map.mp member
        have different := List.find?_eq_none.mp found host inside
        simp [same] at different
      rw [agree.removed request.id absent secret]
      rfl
  | some host =>
      have same : host.id = request.id := by
        simpa using List.find?_some found
      rw [← same]
      exact agree.ref_eq (List.mem_of_find?_eq_some found) secret

theorem CredentialsAgree.saved_iff (agree : CredentialsAgree log hosts entries) :
    SavedAgrees hosts request entries ↔ SwitchKeeps hosts request := by
  unfold SavedAgrees SwitchKeeps
  by_cases switched : switches hosts request = true
  · simp only [switched, true_implies]
    constructor
    · intro saved
      constructor
      · have unused := saved (.unusedBy request.authType)
        rw [savedEntries_own] at unused
        simpa [savedRef, switched] using unused
      · have used := saved (Secret.unusedBy request.authType).other
        rw [savedEntries_own] at used
        rw [agree.find_eq]
        cases supplied :
            (Secret.unusedBy request.authType).other.supplied request with
        | some value => simp
        | none =>
            have apart := Secret.ne_other (.unusedBy request.authType)
            simpa [savedRef, switched, supplied, apart, eq_comm] using used
    · rintro ⟨unsupplied, replaced⟩ secret
      rw [savedEntries_own]
      by_cases unused : secret = .unusedBy request.authType
      · subst unused
        simp [savedRef, switched, unsupplied]
      · obtain rfl := Secret.eq_other_of_ne unused
        rw [agree.find_eq] at replaced
        cases supplied :
            (Secret.unusedBy request.authType).other.supplied request with
        | some value => simp [savedRef, supplied, unused]
        | none =>
            cases replaced with
            | inl absent =>
                simpa [savedRef, switched, supplied, unused, eq_comm] using absent
            | inr present => simp [supplied] at present
  · refine iff_of_true (fun secret => ?_) fun switching => absurd switching switched
    rw [savedEntries_own]
    cases supplied : secret.supplied request with
    | some value => simp [savedRef, supplied, switched]
    | none => simp [savedRef, supplied, switched, agree.find_eq]

theorem CredentialsAgree.delete (agree : CredentialsAgree log hosts entries)
    (hostId : String) :
    CredentialsAgree (log ++ [.delete hostId]) (hosts.filter (·.id ≠ hostId))
      (entries.eraseAll [passwordKey hostId, passphraseKey hostId]) := by
  have erased : ∀ secret : Secret,
      secret.key hostId ∈ [passwordKey hostId, passphraseKey hostId] := by
    intro secret
    cases secret <;> simp [Secret.key]
  have others : ∀ (other : String) (secret : Secret), other ≠ hostId →
      (entries.eraseAll [passwordKey hostId, passphraseKey hostId])
        (secret.key other) = entries (secret.key other) := by
    intro other secret different
    rw [KeyedStore.eraseAll_apply, if_neg]
    simp only [List.mem_cons, List.not_mem_nil, or_false, not_or]
    have apart : ∀ another : Secret,
        secret.key other ≠ another.key hostId :=
      fun another same => different (Secret.key_inj.mp same).2
    exact ⟨apart .password, apart .passphrase⟩
  refine .of_refs ?_ ?_ ?_
  · intro host member secret
    obtain ⟨inside, different⟩ := List.mem_filter.mp member
    rw [others host.id secret (by simpa using different)]
    exact agree.ref_eq inside secret
  · intro host member secret value entry
    obtain ⟨inside, different⟩ := List.mem_filter.mp member
    rw [others host.id secret (by simpa using different)] at entry
    rw [lastSupplied_append]
    exact agree.values host inside secret value entry
  · intro key value entry
    rw [KeyedStore.eraseAll_apply] at entry
    split at entry
    · cases entry
    · next kept =>
        obtain ⟨host, member, secret, rfl⟩ := agree.derived entry
        refine ⟨host, List.mem_filter.mpr ⟨member, ?_⟩, secret, rfl⟩
        simp only [decide_not, Bool.not_eq_true', decide_eq_false_iff_not]
        rintro rfl
        exact kept (erased secret)

theorem load_ok {io : HostStoreIo} {store : HostStore}
    (examinable : io.examinable = true) (loaded : store.load io = .ok hosts) :
    store.load {} = .ok hosts := by
  unfold HostStore.load at loaded ⊢
  rw [examinable] at loaded
  split at loaded
  · next absent => cases absent
  · next file => simpa [file] using loaded
  · next content file =>
      split at loaded
      · cases loaded
      · cases loaded
      · simpa [file] using loaded

/-- The host file holds a list whose references agree with the entries. -/
def Agreed (log : List HostCall) (service : HostConfigService) : Prop :=
  ∃ hosts, service.hostStore.load {} = .ok hosts ∧
    CredentialsAgree log hosts service.credentialStore

structure AgreedHosts (log : List HostCall) (service : HostConfigService)
    (hosts : List HostConfig) : Prop where
  stored : service.hostStore.load {} = .ok hosts
  distinct : (hosts.map (·.id)).Nodup
  agree : CredentialsAgree log hosts service.credentialStore

theorem keepsCredentials_save {action : HostAction}
    (called : action.call = .save request)
    (examinable : action.hosts.examinable = true)
    (loaded : service.hostStore.load action.hosts = .ok hosts) :
    service.keepsCredentials action = true ↔ SwitchKeeps hosts request := by
  have found : service.getHost action.io request.id =
      .ok (hosts.find? (·.id = request.id)) := by
    simp [getHost, HostAction.io, loaded]
  simp only [keepsCredentials, examinable, called, found, Bool.true_and]
  unfold SwitchKeeps switches
  cases hosts.find? (·.id = request.id) with
  | none => simp
  | some host =>
      by_cases same : host.authType = request.authType
      · simp [same]
      · simp [same]

theorem perform_of_step {action : HostAction} {events : List HostCall}
    (stepped : successfulCalls.step service action = some (after, events)) :
    ∃ result, service.perform action = (.ok result, after) ∧
      events = [action.call] := by
  simp only [successfulCalls] at stepped
  split at stepped
  · next result later performed =>
      simp only [Option.some.injEq, Prod.mk.injEq] at stepped
      obtain ⟨rfl, rfl⟩ := stepped
      exact ⟨result, performed, rfl⟩
  · cases stepped

/-- A call that finds the host file readable keeps the stores in agreement
exactly where the condition holds. -/
theorem AgreedHosts.step_iff {action : HostAction} {events : List HostCall}
    (agreed : AgreedHosts log service hosts)
    (examinable : action.hosts.examinable = true)
    (stepped : successfulCalls.step service action = some (after, events)) :
    ∃ later, after.hostStore.load {} = .ok later ∧
      (later.map (·.id)).Nodup ∧
      (CredentialsAgree (log ++ events) later after.credentialStore ↔
        service.keepsCredentials action = true) := by
  obtain ⟨result, performed, rfl⟩ := perform_of_step stepped
  have reread : ∀ {loaded}, service.hostStore.load action.hosts = .ok loaded →
      loaded = hosts := by
    intro loaded found
    have known := (load_ok examinable found).symm.trans agreed.stored
    exact Except.ok.inj known
  cases called : action.call with
  | save request =>
      simp only [perform, called] at performed
      obtain ⟨found, loaded⟩ := save_loaded performed
      obtain rfl := reread loaded
      obtain ⟨file, entries⟩ := save_ok rfl loaded performed
      refine ⟨upsertHost (savedConfig found request) found, ?_,
        upsertHost_distinct agreed.distinct, ?_⟩
      · simp [HostStore.load, file]
      · rw [entries, agreed.agree.save_iff agreed.distinct,
          agreed.agree.saved_iff,
          keepsCredentials_save called examinable loaded]
  | delete hostId =>
      simp only [perform, called] at performed
      obtain ⟨found, loaded⟩ := delete_loaded performed
      obtain rfl := reread loaded
      obtain ⟨file, entries⟩ := delete_ok rfl loaded performed
      refine ⟨found.filter (·.id ≠ hostId), ?_,
        agreed.distinct.sublist (List.filter_sublist.map _), ?_⟩
      · simp [HostStore.load, file]
      · rw [entries]
        refine iff_of_true (agreed.agree.delete hostId) ?_
        simp [keepsCredentials, examinable, called]

/-- Started from empty stores, the references and the entries agree after every
call, as long as the calls meet the condition. -/
theorem credentials_agree {start : HostConfigService}
    {actions : List HostAction}
    (noHosts : start.hostStore.load {} = .ok [])
    (noEntries : start.credentialStore = fun _ => none)
    (run : successfulCalls.RunWhere (fun _ => keepsCredentials) [] start actions
      log service) : Agreed log service := by
  have agreed : ∃ hosts, AgreedHosts log service hosts := by
    refine run.invariant (fun past config => ∃ hosts, AgreedHosts past config hosts)
      ?_ ?_
    · refine ⟨[], noHosts, List.nodup_nil, .of_refs nofun nofun ?_⟩
      intro key value entry
      rw [noEntries] at entry
      cases entry
    · intro past config action next events before keeps stepped
      obtain ⟨hosts, agreed⟩ := before
      have examinable : action.hosts.examinable = true := by
        simp only [keepsCredentials, Bool.and_eq_true] at keeps
        exact keeps.1
      obtain ⟨later, stored, distinct, agree⟩ :=
        agreed.step_iff examinable stepped
      exact ⟨later, stored, distinct, agree.mpr keeps⟩
  obtain ⟨hosts, stored, -, agree⟩ := agreed
  exact ⟨hosts, stored, agree⟩

def noStores : HostConfigService :=
  ⟨⟨none⟩, fun _ => none, some (.fromFilePath "/data/known_hosts" none)⟩

/-- A host with a password, which is then switched to a private key. -/
def passwordHost : SaveHostRequest where
  id := "host-1"
  name := "prod"
  host := "10.0.0.1"
  port := 22
  username := "root"
  authType := .password
  password := some "secret123"
  privateKeyPath := none
  passphrase := none
  remark := none
  group := ""

def switchedHost (password passphrase : Option String) : SaveHostRequest :=
  { passwordHost with
    authType := .privateKey
    password := password
    privateKeyPath := some "~/.ssh/id_rsa"
    passphrase := passphrase }

theorem credentials_agree_switched :
    ∃ log service,
      successfulCalls.RunWhere (fun _ => keepsCredentials) [] noStores
        [⟨.save passwordHost, {}, {}⟩,
          ⟨.save (switchedHost none (some "pp-123")), {}, {}⟩,
          ⟨.delete "host-1", {}, {}⟩] log service ∧
      Agreed log service := by
  have executed : ∃ log service,
      successfulCalls.RunWhere (fun _ => keepsCredentials) [] noStores
        [⟨.save passwordHost, {}, {}⟩,
          ⟨.save (switchedHost none (some "pp-123")), {}, {}⟩,
          ⟨.delete "host-1", {}, {}⟩] log service :=
    ⟨_, _, Interleaving.Machine.runWhere_of_executeWhere rfl⟩
  obtain ⟨log, service, run⟩ := executed
  exact ⟨log, service, run, credentials_agree rfl rfl run⟩

/-- The switch supplies the password along: it is written and then deleted as a
leftover, while the host goes on naming it. -/
theorem switch_deletes_supplied_password :
    ∃ log service host,
      successfulCalls.Run noStores
        [⟨.save passwordHost, {}, {}⟩,
          ⟨.save (switchedHost (some "secret123") (some "pp-123")), {}, {}⟩]
        log service ∧
      service.hostStore.load {} = .ok [host] ∧
      host.passwordRef = some "titanssh-host-1-password" ∧
      service.credentialStore "titanssh-host-1-password" = none ∧
      ¬Agreed log service := by
  have executed : ∃ log service host,
      successfulCalls.Run noStores
        [⟨.save passwordHost, {}, {}⟩,
          ⟨.save (switchedHost (some "secret123") (some "pp-123")), {}, {}⟩]
        log service ∧
      service.hostStore.load {} = .ok [host] ∧
      host.passwordRef = some "titanssh-host-1-password" ∧
      service.credentialStore "titanssh-host-1-password" = none :=
    ⟨_, _, _, Interleaving.Machine.run_of_execute rfl, rfl, rfl, rfl⟩
  obtain ⟨log, service, host, run, stored, named, deleted⟩ := executed
  refine ⟨log, service, host, run, stored, named, deleted, ?_⟩
  rintro ⟨hosts, loaded, agree⟩
  obtain rfl := Except.ok.inj (stored.symm.trans loaded)
  obtain ⟨-, value, entry⟩ := (agree.references host (List.mem_singleton_self _)
    .password _).mp named
  rw [deleted] at entry
  cases entry

end HostConfigService

end TitanSSH
