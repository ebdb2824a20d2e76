import TitanSSH.Errors.AppError
import TitanSSH.Library.Path
import TitanSSH.Storage.KnownHosts

namespace TitanSSH

open Text

/-! The trust store: the file on disk and the cache of it that the store holds
once it has read it. -/

structure TrustStore where
  filePath : String
  file : Option String
  records : Option (List TrustRecord)
  deriving DecidableEq, Repr

/-- The step of a safe publish that fails. -/
inductive PublishFault
  | createTemp (error : String)
  | writeTemp (error : String)
  | syncTemp (error : String)
  | persist (error : String)
  deriving DecidableEq, Repr

/-- What the file system does during one call. -/
structure StoreIo where
  readError : Option String := none
  publishFault : Option PublishFault := none
  deriving DecidableEq, Repr

namespace TrustStore

def fromFilePath (filePath : String) (file : Option String) : TrustStore :=
  ⟨filePath, file, none⟩

def parseLines (filePath : String) :
    ℕ → List (List Char) → Except AppError (List TrustRecord)
  | _, [] => .ok []
  | index, line :: rest =>
      match parseEntry line with
      | .error reason =>
          .error ⟨.trustStoreError, "解析信任存储失败: " ++ filePath ++ " 第 " ++
            toString (index + 1) ++ " 行 (" ++ reason ++ ")"⟩
      | .ok entry =>
          match parseLines filePath (index + 1) rest with
          | .error error => .error error
          | .ok records => .ok (entry.toList ++ records)

def loadFromFile (io : StoreIo) (store : TrustStore) :
    Except AppError (List TrustRecord) :=
  match io.readError with
  | some error =>
      .error ⟨.trustStoreError, "读取信任存储失败: " ++ store.filePath ++ " (" ++
        error ++ ")"⟩
  | none =>
      match store.file with
      | none => .ok []
      | some content => parseLines store.filePath 0 (lines content.toList)

def ensureLoaded (io : StoreIo) (store : TrustStore) :
    Except AppError (List TrustRecord) × TrustStore :=
  match store.records with
  | some records => (.ok records, store)
  | none =>
      match loadFromFile io store with
      | .error error => (.error error, store)
      | .ok records => (.ok records, { store with records := some records })

def writeRecords (io : StoreIo) (store : TrustStore)
    (records : List TrustRecord) : Except AppError Unit × TrustStore :=
  match Path.parent? store.filePath.toList with
  | none =>
      (.error ⟨.trustStoreError, "信任存储路径无父目录: " ++ store.filePath⟩, store)
  | some _ =>
      match io.publishFault with
      | some (.createTemp error) =>
          (.error ⟨.trustStoreError, "创建信任存储临时文件失败: " ++ error⟩, store)
      | some (.writeTemp error) =>
          (.error ⟨.trustStoreError, "写入信任存储临时文件失败: " ++ error⟩, store)
      | some (.syncTemp error) =>
          (.error ⟨.trustStoreError, "同步信任存储临时文件失败: " ++ error⟩, store)
      | some (.persist error) =>
          (.error ⟨.trustStoreError, "发布信任存储失败: " ++ store.filePath ++ " (" ++
            error ++ ")，原文件未受影响"⟩, store)
      | none =>
          (.ok (), { store with file := some (serializeRecords records) })

/-- Publish first, and take over as the cache only what was published. -/
def commit (io : StoreIo) (store : TrustStore) (records : List TrustRecord) :
    Except AppError Unit × TrustStore :=
  match writeRecords io store records with
  | (.error error, unchanged) => (.error error, unchanged)
  | (.ok (), written) => (.ok (), { written with records := some records })

def lookup (io : StoreIo) (host : String) (port : UInt16)
    (store : TrustStore) :
    Except AppError (Option TrustRecord) × TrustStore :=
  match ensureLoaded io store with
  | (.error error, unchanged) => (.error error, unchanged)
  | (.ok records, loaded) =>
      (.ok (records.find? (·.atEndpoint host port)), loaded)

def upsert (io : StoreIo) (record : TrustRecord) (store : TrustStore) :
    Except AppError Unit × TrustStore :=
  match ensureLoaded io store with
  | (.error error, unchanged) => (.error error, unchanged)
  | (.ok records, loaded) =>
      commit io loaded
        (records.filter (!·.atEndpoint record.host record.port) ++ [record])

def remove (io : StoreIo) (host : String) (port : UInt16)
    (store : TrustStore) : Except AppError Unit × TrustStore :=
  match ensureLoaded io store with
  | (.error error, unchanged) => (.error error, unchanged)
  | (.ok records, loaded) =>
      let remaining := records.filter (!·.atEndpoint host port)
      if remaining.length = records.length then (.ok (), loaded)
      else commit io loaded remaining

def list (io : StoreIo) (store : TrustStore) :
    Except AppError (List TrustRecord) × TrustStore :=
  match ensureLoaded io store with
  | (.error error, unchanged) => (.error error, unchanged)
  | (.ok records, loaded) =>
      (.ok (records.mergeSort fun left right =>
        left.host < right.host ||
          (left.host == right.host && left.port ≤ right.port)), loaded)

/-- The records as the store answers from them: its cache, or the file. -/
def contents (store : TrustStore) : List TrustRecord :=
  match store.records with
  | some records => records
  | none =>
      match loadFromFile {} store with
      | .ok records => records
      | .error _ => []

def recordAt (store : TrustStore) (host : String) (port : UInt16) :
    Option TrustRecord :=
  store.contents.find? (·.atEndpoint host port)

/-! What each operation can do. -/

theorem ensureLoaded_ok {io : StoreIo} {store after : TrustStore}
    {records : List TrustRecord}
    (loaded : store.ensureLoaded io = (.ok records, after)) :
    after = { store with records := some records } ∧
      (store.records = some records ∨
        store.records = none ∧ store.loadFromFile io = .ok records) := by
  unfold ensureLoaded at loaded
  cases cached : store.records with
  | some found =>
      simp only [cached, Prod.mk.injEq, Except.ok.injEq] at loaded
      obtain ⟨rfl, rfl⟩ := loaded
      exact ⟨by rw [← cached], .inl rfl⟩
  | none =>
      cases read : store.loadFromFile io with
      | error error => simp [cached, read] at loaded
      | ok found =>
          simp only [cached, read, Prod.mk.injEq, Except.ok.injEq] at loaded
          obtain ⟨rfl, rfl⟩ := loaded
          exact ⟨rfl, .inr ⟨rfl, rfl⟩⟩

theorem ensureLoaded_error {io : StoreIo} {store after : TrustStore}
    {error : AppError}
    (failed : store.ensureLoaded io = (.error error, after)) :
    after = store := by
  unfold ensureLoaded at failed
  cases cached : store.records with
  | some found => simp [cached] at failed
  | none =>
      cases read : store.loadFromFile io with
      | error reason =>
          simp only [cached, read, Prod.mk.injEq] at failed
          exact failed.2.symm
      | ok found => simp [cached, read] at failed

theorem commit_ok {io : StoreIo} {store after : TrustStore}
    {records : List TrustRecord}
    (committed : store.commit io records = (.ok (), after)) :
    after = { store with
      file := some (serializeRecords records), records := some records } := by
  unfold commit writeRecords at committed
  cases parent : Path.parent? store.filePath.toList with
  | none => simp [parent] at committed
  | some directory =>
      rcases fault : io.publishFault with _ | (error | error | error | error)
      · simp only [parent, fault, Prod.mk.injEq, true_and] at committed
        exact committed.symm
      all_goals simp [parent, fault] at committed

theorem commit_error {io : StoreIo} {store after : TrustStore}
    {records : List TrustRecord} {error : AppError}
    (failed : store.commit io records = (.error error, after)) :
    after = store := by
  unfold commit writeRecords at failed
  cases parent : Path.parent? store.filePath.toList with
  | none =>
      simp only [parent, Prod.mk.injEq] at failed
      exact failed.2.symm
  | some directory =>
      rcases fault : io.publishFault with _ | (reason | reason | reason | reason)
      · simp [parent, fault] at failed
      all_goals
        simp only [parent, fault, Prod.mk.injEq] at failed
        exact failed.2.symm

variable {io : StoreIo} {store after : TrustStore} {record : TrustRecord}
variable {error : AppError} {host : String} {port : UInt16}

theorem loadFromFile_ok {records : List TrustRecord}
    (read : store.loadFromFile io = .ok records) :
    store.loadFromFile {} = .ok records := by
  cases fault : io.readError with
  | some error => simp [loadFromFile, fault] at read
  | none => simpa [loadFromFile, fault] using read

theorem ensureLoaded_contents {records : List TrustRecord}
    (loaded : store.ensureLoaded io = (.ok records, after)) :
    records = store.contents ∧ after.contents = store.contents := by
  obtain ⟨rfl, cached | ⟨missing, read⟩⟩ := ensureLoaded_ok loaded
  · simp [contents, cached]
  · simp [contents, missing, loadFromFile_ok read]

theorem lookup_ok {found : Option TrustRecord}
    (looked : store.lookup io host port = (.ok found, after)) :
    found = store.recordAt host port ∧ after.contents = store.contents := by
  unfold lookup at looked
  rcases loading : store.ensureLoaded io with ⟨outcome, loaded⟩
  cases outcome with
  | error error => simp [loading] at looked
  | ok records =>
      obtain ⟨rfl, same⟩ := ensureLoaded_contents loading
      simp only [loading, Prod.mk.injEq, Except.ok.injEq] at looked
      obtain ⟨rfl, rfl⟩ := looked
      exact ⟨rfl, same⟩

theorem lookup_error
    (failed : store.lookup io host port = (.error error, after)) :
    after = store := by
  unfold lookup at failed
  rcases loading : store.ensureLoaded io with ⟨outcome, loaded⟩
  cases outcome with
  | ok records => simp [loading] at failed
  | error reason =>
      simp only [loading, Prod.mk.injEq] at failed
      rw [← failed.2, ensureLoaded_error loading]

theorem upsert_ok (saved : store.upsert io record = (.ok (), after)) :
    after.contents =
      store.contents.filter (!·.atEndpoint record.host record.port) ++
        [record] := by
  unfold upsert at saved
  rcases loading : store.ensureLoaded io with ⟨outcome, loaded⟩
  cases outcome with
  | error error => simp [loading] at saved
  | ok records =>
      obtain ⟨rfl, -⟩ := ensureLoaded_contents loading
      simp only [loading] at saved
      rw [commit_ok saved]
      rfl

theorem upsert_error
    (failed : store.upsert io record = (.error error, after)) :
    after.contents = store.contents := by
  unfold upsert at failed
  rcases loading : store.ensureLoaded io with ⟨outcome, loaded⟩
  cases outcome with
  | error reason =>
      simp only [loading, Prod.mk.injEq] at failed
      rw [← failed.2, ensureLoaded_error loading]
  | ok records =>
      simp only [loading] at failed
      rw [commit_error failed]
      exact (ensureLoaded_contents loading).2

theorem remove_ok
    (removed : store.remove io host port = (.ok (), after)) :
    after.contents = store.contents.filter (!·.atEndpoint host port) := by
  unfold remove at removed
  rcases loading : store.ensureLoaded io with ⟨outcome, loaded⟩
  cases outcome with
  | error error => simp [loading] at removed
  | ok records =>
      obtain ⟨rfl, same⟩ := ensureLoaded_contents loading
      simp only [loading] at removed
      split at removed
      · rename_i untouched
        simp only [Prod.mk.injEq, true_and] at removed
        rw [← removed, same, List.filter_sublist.eq_of_length untouched]
      · rw [commit_ok removed]
        rfl

theorem remove_error
    (failed : store.remove io host port = (.error error, after)) :
    after.contents = store.contents := by
  unfold remove at failed
  rcases loading : store.ensureLoaded io with ⟨outcome, loaded⟩
  cases outcome with
  | error reason =>
      simp only [loading, Prod.mk.injEq] at failed
      rw [← failed.2, ensureLoaded_error loading]
  | ok records =>
      simp only [loading] at failed
      split at failed
      · simp at failed
      · rw [commit_error failed]
        exact (ensureLoaded_contents loading).2

theorem list_contents {outcome : Except AppError (List TrustRecord)}
    (listed : store.list io = (outcome, after)) :
    after.contents = store.contents := by
  unfold list at listed
  rcases loading : store.ensureLoaded io with ⟨result, loaded⟩
  cases result with
  | error reason =>
      simp only [loading, Prod.mk.injEq] at listed
      rw [← listed.2, ensureLoaded_error loading]
  | ok records =>
      simp only [loading, Prod.mk.injEq] at listed
      rw [← listed.2]
      exact (ensureLoaded_contents loading).2

/-! The store as a map from endpoints to records. -/

theorem recordAt_congr (same : after.contents = store.contents) :
    after.recordAt host port = store.recordAt host port := by
  rw [recordAt, recordAt, same]

theorem find?_withoutEndpoint (records : List TrustRecord)
    (host otherHost : String) (port otherPort : UInt16) :
    (records.filter (!·.atEndpoint host port)).find?
        (·.atEndpoint otherHost otherPort) =
      if otherHost = host ∧ otherPort = port then none
      else records.find? (·.atEndpoint otherHost otherPort) := by
  split
  · rename_i same
    obtain ⟨rfl, rfl⟩ := same
    rw [List.find?_eq_none]
    intro record member
    have kept := (List.mem_filter.mp member).2
    rw [Bool.not_eq_true'] at kept
    rw [kept]
    exact Bool.false_ne_true
  · rename_i different
    rw [List.find?_filter]
    congr 1
    funext record
    cases found : record.atEndpoint otherHost otherPort with
    | false => simp
    | true =>
        obtain ⟨rfl, rfl⟩ := TrustRecord.atEndpoint_iff.mp found
        have absent : record.atEndpoint host port = false := by
          rw [Bool.eq_false_iff, Ne, TrustRecord.atEndpoint_iff]
          exact different
        simp [absent]

theorem recordAt_removed
    (removed : after.contents = store.contents.filter (!·.atEndpoint host port))
    (otherHost : String) (otherPort : UInt16) :
    after.recordAt otherHost otherPort =
      if otherHost = host ∧ otherPort = port then none
      else store.recordAt otherHost otherPort := by
  rw [recordAt, removed, find?_withoutEndpoint]
  rfl

theorem recordAt_upserted
    (saved : after.contents =
      store.contents.filter (!·.atEndpoint record.host record.port) ++ [record])
    (otherHost : String) (otherPort : UInt16) :
    after.recordAt otherHost otherPort =
      if otherHost = record.host ∧ otherPort = record.port then some record
      else store.recordAt otherHost otherPort := by
  rw [recordAt, saved, List.find?_append, find?_withoutEndpoint]
  split
  · rename_i same
    obtain ⟨rfl, rfl⟩ := same
    simp [TrustRecord.atEndpoint]
  · rename_i different
    have absent : record.atEndpoint otherHost otherPort = false := by
      rw [Bool.eq_false_iff, Ne, TrustRecord.atEndpoint_iff]
      rintro ⟨rfl, rfl⟩
      exact different ⟨rfl, rfl⟩
    simp [recordAt, absent]

end TrustStore

end TitanSSH
