import TitanSSH.Storage.TrustStore

namespace TitanSSH

open Text

/-! Durability: a sequence of successful changes, and what a restarted store
reads of the file they leave behind. -/

inductive TrustStoreCall
  | upsert (record : TrustRecord) (admitted : record.Admitted)
  | remove (host : String) (port : UInt16)

namespace TrustStoreCall

def perform (io : StoreIo) (store : TrustStore) :
    TrustStoreCall → Except AppError Unit × TrustStore
  | upsert record _ => store.upsert io record
  | remove host port => store.remove io host port

def touches (host : String) (port : UInt16) : TrustStoreCall → Bool
  | upsert record _ => record.atEndpoint host port
  | remove otherHost otherPort => otherHost == host && otherPort == port

end TrustStoreCall

def performAll : List (StoreIo × TrustStoreCall) → TrustStore →
    Except AppError TrustStore
  | [], store => .ok store
  | (io, call) :: rest, store =>
      match call.perform io store with
      | (.error error, _) => .error error
      | (.ok (), after) => performAll rest after

/-- The record was saved, and no later call was about its endpoint. -/
def Survives (record : TrustRecord) : List (StoreIo × TrustStoreCall) → Prop
  | [] => False
  | (_, call) :: rest =>
      Survives record rest ∨
        (∃ admitted, call = .upsert record admitted) ∧
          ∀ later ∈ rest, later.2.touches record.host record.port = false

namespace TrustStore

def cached (store : TrustStore) : List TrustRecord :=
  store.records.getD []

/-- A fresh store over the same file, and what it reads. -/
def reload (store : TrustStore) : Except AppError (List TrustRecord) :=
  (fromFilePath store.filePath store.file).loadFromFile {}

/-- The file and the cache agree, or nothing was ever published. -/
def Synced (store : TrustStore) : Prop :=
  store.file = none ∧ store.cached = [] ∨
    store.file = some (serializeRecords store.cached) ∧
      store.records = some store.cached

variable {io : StoreIo} {store after : TrustStore} {record : TrustRecord}
variable {records : List TrustRecord} {host : String} {port : UInt16}

theorem Synced.of_ensureLoaded (synced : store.Synced)
    (loaded : store.ensureLoaded io = (.ok records, after)) :
    records = store.cached ∧ after.Synced ∧ after.cached = store.cached := by
  obtain ⟨rfl, known⟩ := ensureLoaded_ok loaded
  have recordsEq : records = store.cached := by
    rcases known with known | ⟨unread, read⟩
    · simp [cached, known]
    · rcases synced with ⟨missing, empty⟩ | ⟨-, known⟩
      · cases fault : io.readError with
        | some error => simp [loadFromFile, fault] at read
        | none =>
            simp only [loadFromFile, fault, missing, Except.ok.injEq] at read
            rw [empty, read]
      · simp [unread] at known
  subst recordsEq
  refine ⟨rfl, ?_, rfl⟩
  rcases synced with ⟨missing, empty⟩ | ⟨published, -⟩
  · exact .inl ⟨missing, by simpa [cached] using empty⟩
  · exact .inr ⟨published, rfl⟩

theorem Synced.of_commit
    (committed : store.commit io records = (.ok (), after)) :
    after.Synced ∧ after.cached = records := by
  obtain rfl := commit_ok committed
  exact ⟨.inr ⟨rfl, rfl⟩, rfl⟩

theorem Synced.of_upsert (synced : store.Synced)
    (saved : store.upsert io record = (.ok (), after)) :
    after.Synced ∧ after.cached =
      store.cached.filter (!·.atEndpoint record.host record.port) ++
        [record] := by
  rw [TrustStore.upsert.eq_def] at saved
  rcases loading : store.ensureLoaded io with ⟨outcome, loaded⟩
  cases outcome with
  | error error => simp [loading] at saved
  | ok records =>
      obtain ⟨rfl, -, -⟩ := synced.of_ensureLoaded loading
      simp only [loading] at saved
      exact Synced.of_commit saved

theorem Synced.of_remove (synced : store.Synced)
    (removed : store.remove io host port = (.ok (), after)) :
    after.Synced ∧ after.cached =
      store.cached.filter (!·.atEndpoint host port) := by
  rw [TrustStore.remove.eq_def] at removed
  rcases loading : store.ensureLoaded io with ⟨outcome, loaded⟩
  cases outcome with
  | error error => simp [loading] at removed
  | ok records =>
      obtain ⟨rfl, loadedSynced, loadedCache⟩ :=
        synced.of_ensureLoaded loading
      simp only [loading] at removed
      split at removed
      · rename_i untouched
        simp only [Prod.mk.injEq, true_and] at removed
        subst removed
        refine ⟨loadedSynced, loadedCache.trans ?_⟩
        exact (List.filter_sublist.eq_of_length untouched).symm
      · exact Synced.of_commit removed

theorem fromFilePath_synced (filePath : String) :
    (fromFilePath filePath none).Synced :=
  .inl ⟨rfl, rfl⟩

theorem Synced.of_perform {call : TrustStoreCall} (synced : store.Synced)
    (done : call.perform io store = (.ok (), after)) :
    after.Synced ∧ ∀ record, record ∈ after.cached ↔
      (∃ admitted, call = .upsert record admitted) ∨
        record ∈ store.cached ∧
          call.touches record.host record.port = false := by
  cases call with
  | upsert saved admitted =>
      obtain ⟨afterSynced, cache⟩ := synced.of_upsert done
      refine ⟨afterSynced, fun record => ?_⟩
      have touchesEq : saved.atEndpoint record.host record.port =
          record.atEndpoint saved.host saved.port := by
        simp only [TrustRecord.atEndpoint, BEq.comm]
      rw [cache, TrustStoreCall.touches, touchesEq]
      simp only [List.mem_append, List.mem_filter, Bool.not_eq_true',
        List.mem_singleton, TrustStoreCall.upsert.injEq]
      constructor
      · rintro (kept | rfl)
        · exact .inr kept
        · exact .inl ⟨admitted, rfl⟩
      · rintro (⟨-, rfl⟩ | kept)
        · exact .inr rfl
        · exact .inl kept
  | remove host port =>
      obtain ⟨afterSynced, cache⟩ := synced.of_remove done
      refine ⟨afterSynced, fun record => ?_⟩
      have touchesEq : (host == record.host && port == record.port) =
          record.atEndpoint host port := by
        simp only [TrustRecord.atEndpoint, BEq.comm]
      rw [cache, TrustStoreCall.touches, touchesEq]
      simp [List.mem_filter]

theorem Synced.of_performAll {calls : List (StoreIo × TrustStoreCall)}
    (synced : store.Synced) (done : performAll calls store = .ok after) :
    after.Synced ∧ ∀ record, record ∈ after.cached ↔
      Survives record calls ∨ record ∈ store.cached ∧
        ∀ later ∈ calls, later.2.touches record.host record.port = false := by
  induction calls generalizing store with
  | nil =>
      simp only [performAll, Except.ok.injEq] at done
      subst done
      exact ⟨synced, fun record => by simp [Survives]⟩
  | cons head rest induction =>
      obtain ⟨io, call⟩ := head
      rcases performed : call.perform io store with ⟨outcome, next⟩
      cases outcome with
      | error error => simp [performAll, performed] at done
      | ok _ =>
          simp only [performAll, performed] at done
          obtain ⟨nextSynced, nextCache⟩ := synced.of_perform performed
          obtain ⟨afterSynced, afterCache⟩ := induction nextSynced done
          refine ⟨afterSynced, fun record => ?_⟩
          rw [afterCache, nextCache]
          simp only [Survives, List.forall_mem_cons]
          tauto

theorem survives_admitted {calls : List (StoreIo × TrustStoreCall)}
    (survives : Survives record calls) : record.Admitted := by
  induction calls with
  | nil => exact survives.elim
  | cons head rest induction =>
      rcases survives with inRest | ⟨⟨admitted, -⟩, -⟩
      · exact induction inRest
      · exact admitted

/-! Reading a published file back. -/

theorem serializeRecords_toList (records : List TrustRecord) :
    (serializeRecords records).toList =
      records.flatMap fun record => (serializeEntry record).toList ++ ['\n'] := by
  induction records with
  | nil => rfl
  | cons head rest induction => simp [serializeRecords, induction]

theorem parseLines_length {filePath : String} {index : ℕ}
    {content : List (List Char)}
    (parsed : parseLines filePath index content = .ok records) :
    records.length ≤ content.length := by
  induction content generalizing index records with
  | nil =>
      simp only [parseLines, Except.ok.injEq] at parsed
      simp [← parsed]
  | cons line rest induction =>
      cases read : parseEntry line with
      | error reason => simp [parseLines, read] at parsed
      | ok entry =>
          cases tail : parseLines filePath (index + 1) rest with
          | error error => simp [parseLines, read, tail] at parsed
          | ok remaining =>
              simp only [parseLines, read, tail, Except.ok.injEq] at parsed
              subst parsed
              have bounded := induction tail
              cases entry with
              | none => simpa using Nat.le_succ_of_le bounded
              | some record => simpa using bounded

theorem parseLines_serialized {filePath : String}
    (admitted : ∀ record ∈ records, record.Admitted) (index : ℕ) :
    parseLines filePath index
        (records.map fun record => (serializeEntry record).toList) =
        .ok records ↔
      ∀ record ∈ records, Storable record.host record.port := by
  induction records generalizing index with
  | nil => simp [parseLines]
  | cons head rest induction =>
      have headAdmitted := admitted head (by simp)
      have remaining := induction
        (fun record member => admitted record (by simp [member])) (index + 1)
      rw [List.forall_mem_cons, ← remaining, List.map_cons]
      by_cases storable : Storable head.host head.port
      · simp only [parseLines, headAdmitted.parseEntry_of_storable storable,
          storable, true_and]
        cases tail : parseLines filePath (index + 1)
            (rest.map fun record => (serializeEntry record).toList) with
        | error error => simp
        | ok read => simp
      · simp only [storable, false_and, iff_false]
        intro parsed
        cases read : parseEntry (serializeEntry head).toList with
        | error reason => simp [parseLines, read] at parsed
        | ok entry =>
            cases entry with
            | some found =>
                exact headAdmitted.parseEntry_of_not_storable storable found
                  read
            | none =>
                cases tail : parseLines filePath (index + 1)
                    (rest.map fun record => (serializeEntry record).toList) with
                | error error => simp [parseLines, read, tail] at parsed
                | ok found =>
                    simp only [parseLines, read, tail, Except.ok.injEq] at parsed
                    have bounded := parseLines_length tail
                    simp only [Option.toList_none, List.nil_append] at parsed
                    simp only [parsed, List.length_cons,
                      List.length_map] at bounded
                    omega

/-- After any sequence of successful changes, a restarted store reads the
records of the running one exactly when every endpoint still stored is one that
the format keeps apart from comments and brackets. -/
theorem reload_iff_storable (filePath : String)
    (calls : List (StoreIo × TrustStoreCall))
    (succeeded : performAll calls (fromFilePath filePath none) = .ok after) :
    after.reload = .ok after.cached ↔
      ∀ record, Survives record calls → Storable record.host record.port := by
  obtain ⟨synced, members⟩ :=
    (fromFilePath_synced filePath).of_performAll succeeded
  have stored : ∀ record, record ∈ after.cached ↔ Survives record calls :=
    fun record => by simpa [fromFilePath, cached] using members record
  have admitted : ∀ record ∈ after.cached, record.Admitted :=
    fun record member => survives_admitted ((stored record).mp member)
  simp only [← stored]
  rcases synced with ⟨missing, empty⟩ | ⟨published, -⟩
  · simp [reload, fromFilePath, loadFromFile, missing, empty]
  · have broken := lines_of_terminated after.cached
      (fun record => (serializeEntry record).toList)
      fun record member => (admitted record member).unbroken
    simp only [reload, fromFilePath, loadFromFile, published,
      serializeRecords_toList, broken]
    exact parseLines_serialized admitted 0

/-- A host entered as a bracketed IPv6 literal is accepted and saved beside
another one, and no record at all can be read after a restart. -/
theorem bracketed_literal_unreadable :
    ∃ after, performAll
        [({}, .upsert ⟨"10.0.0.8", 22, "ssh-ed25519", [1, 2, 3]⟩
          ⟨by decide, by decide, by decide⟩),
          ({}, .upsert ⟨"[::1]", 22, "ssh-ed25519", [4, 5, 6]⟩
            ⟨by decide, by decide, by decide⟩)]
        (fromFilePath "/data/known_hosts" none) = .ok after ∧
      after.cached.length = 2 ∧
      after.reload = .error ⟨.trustStoreError,
        "解析信任存储失败: /data/known_hosts 第 2 行 (括号主机段缺少端口: [[::1]]:22)"⟩ := by
  refine ⟨_, rfl, rfl, ?_⟩
  decide +kernel

/-- A key that is replaced, an endpoint written in brackets, and one that is
forgotten again. -/
def changedEndpoints : List (StoreIo × TrustStoreCall) :=
  [({}, .upsert ⟨"10.0.0.8", 22, "ssh-ed25519", [1, 2, 3]⟩
      ⟨by decide, by decide, by decide⟩),
    ({}, .upsert ⟨"::1", 2222, "ssh-rsa", [4, 5, 6]⟩
      ⟨by decide, by decide, by decide⟩),
    ({}, .upsert ⟨"backup", 22, "ssh-ed25519", [7]⟩
      ⟨by decide, by decide, by decide⟩),
    ({}, .upsert ⟨"10.0.0.8", 22, "ssh-rsa", [8, 9]⟩
      ⟨by decide, by decide, by decide⟩),
    ({}, .remove "backup" 22)]

theorem survives_changedEndpoints {record : TrustRecord}
    (survives : Survives record changedEndpoints) :
    record = ⟨"::1", 2222, "ssh-rsa", [4, 5, 6]⟩ ∨
      record = ⟨"10.0.0.8", 22, "ssh-rsa", [8, 9]⟩ := by
  rcases survives with ((((none | removed) | replacing) | backup) | bracketed) |
    replaced
  · cases none
  · obtain ⟨⟨_, call⟩, -⟩ := removed
    cases call
  · obtain ⟨⟨_, call⟩, -⟩ := replacing
    cases call
    exact .inr rfl
  · obtain ⟨⟨_, call⟩, untouched⟩ := backup
    cases call
    exact absurd (untouched ({}, .remove "backup" 22) (by simp)) (by decide)
  · obtain ⟨⟨_, call⟩, -⟩ := bracketed
    cases call
    exact .inl rfl
  · obtain ⟨⟨_, call⟩, untouched⟩ := replaced
    cases call
    have again := untouched ({}, .upsert ⟨"10.0.0.8", 22, "ssh-rsa", [8, 9]⟩
      ⟨by decide, by decide, by decide⟩) (by simp)
    exact absurd again (by decide)

theorem reload_changed_endpoints :
    ∃ after, performAll changedEndpoints
        (fromFilePath "/data/known_hosts" none) = .ok after ∧
      after.cached = [⟨"::1", 2222, "ssh-rsa", [4, 5, 6]⟩,
        ⟨"10.0.0.8", 22, "ssh-rsa", [8, 9]⟩] ∧
      after.reload = .ok after.cached := by
  refine ⟨_, rfl, by decide, ?_⟩
  refine (reload_iff_storable "/data/known_hosts" changedEndpoints rfl).mpr ?_
  intro record survives
  rcases survives_changedEndpoints survives with rfl | rfl <;> decide

end TrustStore

end TitanSSH
