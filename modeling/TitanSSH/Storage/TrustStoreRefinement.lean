import TitanSSH.Library.FiniteMap
import TitanSSH.Library.Interleaving
import TitanSSH.Storage.TrustStore

namespace TitanSSH

open Interleaving

/-! What the trust store is for: a finite map from endpoints to keys. -/

structure TrustedKey where
  algorithm : String
  blob : List UInt8
  deriving DecidableEq

abbrev TrustMap := FiniteMap (String × UInt16) TrustedKey

namespace TrustRecord

def endpoint (record : TrustRecord) : String × UInt16 :=
  (record.host, record.port)

def key (record : TrustRecord) : TrustedKey :=
  ⟨record.algorithm, record.blob⟩

def ofEntry (endpoint : String × UInt16) (key : TrustedKey) : TrustRecord :=
  ⟨endpoint.1, endpoint.2, key.algorithm, key.blob⟩

/-- By host, and by port on the same host. -/
def Before (first second : TrustRecord) : Prop :=
  first.host < second.host ∨
    first.host = second.host ∧ first.port < second.port

@[simp] theorem ofEntry_endpoint_key (record : TrustRecord) :
    ofEntry record.endpoint record.key = record := rfl

theorem atEndpoint_iff_endpoint {record : TrustRecord}
    {endpoint : String × UInt16} :
    record.atEndpoint endpoint.1 endpoint.2 = true ↔
      record.endpoint = endpoint := by
  rw [atEndpoint_iff, TrustRecord.endpoint, Prod.ext_iff]

end TrustRecord

inductive TrustOperation
  | lookup (host : String) (port : UInt16)
  | upsert (record : TrustRecord)
  | remove (host : String) (port : UInt16)
  | list

inductive TrustAnswer
  | found (record : Option TrustRecord)
  | done
  | listed (records : List TrustRecord)

namespace TrustMap

/-- The entries of the map, each once, in order. -/
structure Lists (entries : TrustMap) (records : List TrustRecord) : Prop where
  sorted : records.Pairwise TrustRecord.Before
  complete : ∀ record, record ∈ records ↔
    entries.lookup record.endpoint = some record.key

/-- An operation on the map, its answer, and the map it leaves. -/
inductive Answers : TrustMap → TrustOperation → TrustAnswer → TrustMap → Prop
  | lookup {entries : TrustMap} (host : String) (port : UInt16) :
      Answers entries (.lookup host port)
        (.found ((entries.lookup (host, port)).map
          (TrustRecord.ofEntry (host, port)))) entries
  | upsert {entries : TrustMap} (record : TrustRecord) :
      Answers entries (.upsert record) .done
        (entries.insert record.endpoint record.key)
  | remove {entries : TrustMap} (host : String) (port : UInt16) :
      Answers entries (.remove host port) .done (entries.erase (host, port))
  | list {entries : TrustMap} {records : List TrustRecord}
      (lists : Lists entries records) :
      Answers entries .list (.listed records) entries

/-- The map of a list of records; the first record of an endpoint counts. -/
def ofRecords (records : List TrustRecord) : TrustMap where
  domain := (records.map TrustRecord.endpoint).toFinset
  lookup endpoint :=
    (records.find? (·.atEndpoint endpoint.1 endpoint.2)).map TrustRecord.key
  mem_domain := by
    intro endpoint
    rw [List.mem_toFinset, List.mem_map, Option.isSome_map, List.find?_isSome]
    exact exists_congr fun record =>
      and_congr_right fun _ => TrustRecord.atEndpoint_iff_endpoint.symm

variable {records : List TrustRecord} {record : TrustRecord}
variable {host : String} {port : UInt16}

theorem lookup_ofRecords (endpoint : String × UInt16) :
    (ofRecords records).lookup endpoint =
      (records.find? (·.atEndpoint endpoint.1 endpoint.2)).map
        TrustRecord.key := rfl

def without (host : String) (port : UInt16) (records : List TrustRecord) :
    List TrustRecord :=
  records.filter (!·.atEndpoint host port)

theorem ofRecords_without :
    ofRecords (without host port records) =
      (ofRecords records).erase (host, port) := by
  ext endpoint
  rw [FiniteMap.lookup_erase, lookup_ofRecords, lookup_ofRecords, without,
    TrustStore.find?_withoutEndpoint]
  simp only [Prod.ext_iff]
  split <;> rfl

theorem ofRecords_replaced :
    ofRecords (without record.host record.port records ++ [record]) =
      (ofRecords records).insert record.endpoint record.key := by
  ext endpoint
  rw [FiniteMap.lookup_insert, lookup_ofRecords, lookup_ofRecords, without,
    List.find?_append, TrustStore.find?_withoutEndpoint]
  by_cases same : endpoint = record.endpoint
  · subst same
    simp [TrustRecord.endpoint, TrustRecord.atEndpoint]
  · have absent : record.atEndpoint endpoint.1 endpoint.2 = false := by
      rw [Bool.eq_false_iff, Ne, TrustRecord.atEndpoint_iff_endpoint]
      exact Ne.symm same
    have apart : ¬ (endpoint.1 = record.host ∧ endpoint.2 = record.port) :=
      fun equal => same (Prod.ext equal.1 equal.2)
    simp [same, apart, absent]

theorem found_ofRecords (records : List TrustRecord) (host : String)
    (port : UInt16) :
    ((ofRecords records).lookup (host, port)).map
        (TrustRecord.ofEntry (host, port)) =
      records.find? (·.atEndpoint host port) := by
  rw [lookup_ofRecords, Option.map_map]
  cases found : records.find? (·.atEndpoint host port) with
  | none => rfl
  | some record =>
      obtain ⟨rfl, rfl⟩ := TrustRecord.atEndpoint_iff.mp
        (by simpa using List.find?_some found)
      rfl

theorem mem_iff_lookup (distinct : (records.map TrustRecord.endpoint).Nodup) :
    record ∈ records ↔
      (ofRecords records).lookup record.endpoint = some record.key := by
  rw [lookup_ofRecords, Option.map_eq_some_iff]
  constructor
  · intro member
    refine ⟨record, ?_, rfl⟩
    cases found : records.find?
        (·.atEndpoint record.endpoint.1 record.endpoint.2) with
    | none =>
        have missed := List.find?_eq_none.mp found record member
        exact absurd (TrustRecord.atEndpoint_iff_endpoint.mpr rfl) missed
    | some other =>
        have same := TrustRecord.atEndpoint_iff_endpoint.mp
          (by simpa using List.find?_some found)
        rw [List.inj_on_of_nodup_map distinct
          (List.mem_of_find?_eq_some found) member same]
  · rintro ⟨other, found, same⟩
    have endpoint := TrustRecord.atEndpoint_iff_endpoint.mp
      (by simpa using List.find?_some found)
    have equal : other = record := by
      rw [← TrustRecord.ofEntry_endpoint_key other, endpoint, same,
        TrustRecord.ofEntry_endpoint_key]
    exact equal ▸ List.mem_of_find?_eq_some found

def listsBefore (left right : TrustRecord) : Bool :=
  left.host < right.host ||
    (left.host == right.host && left.port ≤ right.port)

theorem listsBefore_iff {left right : TrustRecord} :
    listsBefore left right = true ↔
      left.host < right.host ∨ left.host = right.host ∧ left.port ≤ right.port := by
  simp [listsBefore]

theorem listsBefore_trans (first second third : TrustRecord)
    (early : listsBefore first second = true)
    (late : listsBefore second third = true) :
    listsBefore first third = true := by
  rw [listsBefore_iff] at *
  rcases early with less | ⟨same, atMost⟩
  · rcases late with later | ⟨equal, -⟩
    · exact .inl (String.lt_trans less later)
    · exact .inl (equal ▸ less)
  · rw [same]
    exact late.imp_right fun ⟨equal, later⟩ =>
      ⟨equal, UInt16.le_trans atMost later⟩

theorem listsBefore_total (first second : TrustRecord) :
    (listsBefore first second || listsBefore second first) = true := by
  rw [Bool.or_eq_true, listsBefore_iff, listsBefore_iff]
  by_cases less : first.host < second.host
  · exact .inl (.inl less)
  by_cases greater : second.host < first.host
  · exact .inr (.inl greater)
  have same : first.host = second.host :=
    String.le_antisymm (String.not_lt.mp greater) (String.not_lt.mp less)
  exact (UInt16.le_total first.port second.port).imp
    (fun atMost => .inr ⟨same, atMost⟩) fun atMost => .inr ⟨same.symm, atMost⟩

theorem lists_sorted (distinct : (records.map TrustRecord.endpoint).Nodup) :
    Lists (ofRecords records) (records.mergeSort listsBefore) := by
  have sorted := List.mergeSort_perm records listsBefore
  refine ⟨?_, fun record => ?_⟩
  · have apart : (records.mergeSort listsBefore).Pairwise
        (fun first second => first.endpoint ≠ second.endpoint) := by
      rw [← List.pairwise_map (f := TrustRecord.endpoint)
        (R := fun first second => first ≠ second)]
      exact (sorted.map _).nodup_iff.mpr distinct
    refine (apart.and (List.pairwise_mergeSort listsBefore_trans
      listsBefore_total records)).imp ?_
    rintro first second ⟨different, ordered⟩
    refine (listsBefore_iff.mp ordered).imp_right fun ⟨same, atMost⟩ => ⟨same, ?_⟩
    exact UInt16.lt_of_le_of_ne atMost fun equal =>
      different (Prod.ext same equal)
  · rw [sorted.mem_iff]
    exact mem_iff_lookup distinct

end TrustMap

namespace TrustStore

open TrustMap

/-! The store under any number of threads.  Each operation holds the lock from its
beginning to its end. -/

def perform (io : StoreIo) (store : TrustStore) :
    TrustOperation → Except AppError TrustAnswer × TrustStore
  | .lookup host port =>
      match store.lookup io host port with
      | (outcome, after) => (outcome.map .found, after)
  | .upsert record =>
      match store.upsert io record with
      | (outcome, after) => (outcome.map fun _ => .done, after)
  | .remove host port =>
      match store.remove io host port with
      | (outcome, after) => (outcome.map fun _ => .done, after)
  | .list =>
      match store.list io with
      | (outcome, after) => (outcome.map .listed, after)

inductive Turn
  | calling (operation : TrustOperation)
  | returned

inductive Answered
  | answered (thread : ℕ) (operation : TrustOperation)
      (outcome : Except AppError TrustAnswer)

def threads : Program TrustStore Turn StoreIo Answered where
  admits
    | .calling _ => true
    | .returned => false
  opened _ _ := []
  step thread io store
    | .calling operation =>
        some ((store.perform io operation).2, .returned,
          [.answered thread operation (store.perform io operation).1])
    | .returned => none

def started (filePath : String) (file : Option String) :
    Config TrustStore Turn :=
  ⟨fromFilePath filePath file, fun _ => none⟩

variable {io : StoreIo} {store after loaded : TrustStore}
variable {operation : TrustOperation} {answer : TrustAnswer}
variable {outcome : Except AppError TrustAnswer} {error : AppError}
variable {records : List TrustRecord} {host : String} {port : UInt16}
variable {record : TrustRecord}

/-- The records that an operation works on: the cache, or else the file. -/
def Knows (io : StoreIo) (store : TrustStore) (records : List TrustRecord) :
    Prop :=
  store.records = some records ∨
    store.records = none ∧ store.loadFromFile io = .ok records

def cache (store : TrustStore) (records : List TrustRecord) : TrustStore :=
  { store with records := some records }

def publish (store : TrustStore) (records : List TrustRecord) : TrustStore :=
  { store with
    file := some (serializeRecords records), records := some records }

def isWrite : TrustOperation → Bool
  | .upsert _ | .remove _ _ => true
  | .lookup _ _ | .list => false

/-- Everything an operation can come to. -/
inductive Performs (io : StoreIo) (store : TrustStore) :
    TrustOperation → Except AppError TrustAnswer → TrustStore → Prop
  | unreadable {operation : TrustOperation} {error : AppError}
      (unloaded : store.records = none)
      (unread : store.loadFromFile io = .error error) :
      Performs io store operation (.error error) store
  | unpublished {operation : TrustOperation} {error : AppError}
      {records : List TrustRecord} (knows : Knows io store records)
      (write : isWrite operation = true) :
      Performs io store operation (.error error) (store.cache records)
  | found {records : List TrustRecord} (knows : Knows io store records)
      (host : String) (port : UInt16) :
      Performs io store (.lookup host port)
        (.ok (.found (records.find? (·.atEndpoint host port))))
        (store.cache records)
  | upserted {records : List TrustRecord} (knows : Knows io store records)
      (record : TrustRecord) :
      Performs io store (.upsert record) (.ok .done)
        (store.publish (without record.host record.port records ++ [record]))
  | absent {records : List TrustRecord} (knows : Knows io store records)
      (host : String) (port : UInt16)
      (kept : without host port records = records) :
      Performs io store (.remove host port) (.ok .done) (store.cache records)
  | removed {records : List TrustRecord} (knows : Knows io store records)
      (host : String) (port : UInt16)
      (fewer : without host port records ≠ records) :
      Performs io store (.remove host port) (.ok .done)
        (store.publish (without host port records))
  | listed {records : List TrustRecord} (knows : Knows io store records) :
      Performs io store .list (.ok (.listed (records.mergeSort listsBefore)))
        (store.cache records)

theorem ensureLoaded_cases (io : StoreIo) (store : TrustStore) :
    (∃ error, store.records = none ∧ store.loadFromFile io = .error error ∧
      store.ensureLoaded io = (.error error, store)) ∨
    ∃ records, Knows io store records ∧
      store.ensureLoaded io = (.ok records, store.cache records) := by
  unfold ensureLoaded
  cases cached : store.records with
  | some records =>
      have same : store.cache records = store := by rw [cache, ← cached]
      refine .inr ⟨records, .inl cached, ?_⟩
      rw [same]
  | none =>
      cases read : store.loadFromFile io with
      | error error => exact .inl ⟨error, rfl, rfl, rfl⟩
      | ok records => exact .inr ⟨records, .inr ⟨cached, read⟩, rfl⟩

theorem commit_cases (io : StoreIo) (store : TrustStore)
    (records : List TrustRecord) :
    (∃ error, store.commit io records = (.error error, store)) ∨
    store.commit io records = (.ok (), store.publish records) := by
  rcases committed : store.commit io records with ⟨outcome, after⟩
  cases outcome with
  | error error =>
      rw [commit_error committed]
      exact .inl ⟨error, rfl⟩
  | ok _ =>
      rw [commit_ok committed]
      exact .inr rfl

theorem performs (io : StoreIo) (store : TrustStore)
    (operation : TrustOperation) :
    Performs io store operation (store.perform io operation).1
      (store.perform io operation).2 := by
  rcases ensureLoaded_cases io store with
    ⟨error, unloaded, unread, loading⟩ | ⟨records, knows, loading⟩
  · cases operation with
    | lookup host port =>
        simp only [perform, lookup, loading]
        exact .unreadable unloaded unread
    | upsert record =>
        simp only [perform, upsert, loading]
        exact .unreadable unloaded unread
    | remove host port =>
        simp only [perform, remove, loading]
        exact .unreadable unloaded unread
    | list =>
        simp only [perform, list, loading]
        exact .unreadable unloaded unread
  · cases operation with
    | lookup host port =>
        simp only [perform, lookup, loading]
        exact .found knows host port
    | upsert record =>
        simp only [perform, upsert, loading]
        rcases commit_cases io (store.cache records)
            (without record.host record.port records ++ [record]) with
          ⟨error, failed⟩ | committed
        · rw [without] at failed
          simp only [failed]
          exact .unpublished knows rfl
        · rw [without] at committed
          simp only [committed]
          exact .upserted knows record
    | remove host port =>
        simp only [perform, remove, loading]
        split
        · next same =>
            exact .absent knows host port
              (List.filter_sublist.eq_of_length same)
        · next fewer =>
            rcases commit_cases io (store.cache records)
                (without host port records) with
              ⟨error, failed⟩ | committed
            · rw [without] at failed
              simp only [failed]
              exact .unpublished knows rfl
            · rw [without] at committed
              simp only [committed]
              refine .removed knows host port fun same => fewer ?_
              exact congrArg List.length same
    | list =>
        simp only [perform, list, loading]
        exact .listed knows

/-! Over whole runs.  What was published last is read off the log. -/

def notePublished (initially : List TrustRecord)
    (published : Option (List TrustRecord)) :
    Answered → Option (List TrustRecord)
  | .answered _ (.upsert record) (.ok _) =>
      some (without record.host record.port (published.getD initially) ++
        [record])
  | .answered _ (.remove host port) (.ok _) =>
      let remaining := without host port (published.getD initially)
      if remaining = published.getD initially then published else some remaining
  | _ => published

def lastPublished (initially : List TrustRecord) (log : List Answered) :
    Option (List TrustRecord) :=
  log.foldl (notePublished initially) none

/-- The map that the answers so far amount to. -/
def noteMap (entries : TrustMap) : Answered → TrustMap
  | .answered _ (.upsert record) (.ok _) =>
      entries.insert record.endpoint record.key
  | .answered _ (.remove host port) (.ok _) => entries.erase (host, port)
  | _ => entries

def mapAfter (initially : List TrustRecord) (log : List Answered) : TrustMap :=
  log.foldl noteMap (ofRecords initially)

/-- Cache and file, by what was published last. -/
structure Tracks (filePath : String) (file : Option String)
    (initially : List TrustRecord) (published : Option (List TrustRecord))
    (store : TrustStore) : Prop where
  path : store.filePath = filePath
  cached : ∀ records, store.records = some records →
    records = published.getD initially
  unloaded : store.records = none → published = none
  content : store.file =
    published.elim file fun records => some (serializeRecords records)
  distinct : ((published.getD initially).map TrustRecord.endpoint).Nodup

variable {filePath : String} {file : Option String}
variable {initially : List TrustRecord} {published : Option (List TrustRecord)}

theorem Tracks.knows
    (tracks : Tracks filePath file initially published store)
    (parsed : (fromFilePath filePath file).loadFromFile {} = .ok initially)
    (knows : Knows io store records) : records = published.getD initially := by
  cases knows with
  | inl cached => exact tracks.cached records cached
  | inr unread =>
      obtain ⟨unloaded, read⟩ := unread
      have content := tracks.content
      rw [tracks.unloaded unloaded] at content ⊢
      have same : store.loadFromFile {} = .ok initially := by
        rw [← parsed]
        unfold loadFromFile
        rw [tracks.path, content]
        rfl
      exact Except.ok.inj ((loadFromFile_ok read).symm.trans same)

theorem Tracks.cache
    (tracks : Tracks filePath file initially published store) :
    Tracks filePath file initially published
      (store.cache (published.getD initially)) where
  path := tracks.path
  cached := fun _ same => (Option.some.inj same).symm
  unloaded := nofun
  content := tracks.content
  distinct := tracks.distinct

theorem Tracks.publish
    (tracks : Tracks filePath file initially published store)
    (distinct : (records.map TrustRecord.endpoint).Nodup) :
    Tracks filePath file initially (some records) (store.publish records) where
  path := tracks.path
  cached := fun _ same => (Option.some.inj same).symm
  unloaded := nofun
  content := rfl
  distinct := distinct

theorem distinct_without
    (distinct : (records.map TrustRecord.endpoint).Nodup) :
    ((without host port records).map TrustRecord.endpoint).Nodup :=
  distinct.sublist (List.filter_sublist.map _)

theorem distinct_replaced
    (distinct : (records.map TrustRecord.endpoint).Nodup) :
    ((without record.host record.port records ++ [record]).map
      TrustRecord.endpoint).Nodup := by
  rw [List.map_append, List.map_singleton, ← List.concat_eq_append,
    List.nodup_concat]
  refine ⟨?_, distinct_without distinct⟩
  intro member
  obtain ⟨other, kept, same⟩ := List.mem_map.mp member
  have spared := (List.mem_filter.mp kept).2
  rw [Bool.not_eq_true', Bool.eq_false_iff] at spared
  exact spared (TrustRecord.atEndpoint_iff_endpoint.mpr same)

theorem notePublished_error (thread : ℕ) (error : AppError) :
    notePublished initially published
      (.answered thread operation (.error error)) = published := by
  cases operation <;> rfl

theorem Tracks.performs
    (tracks : Tracks filePath file initially published store)
    (parsed : (fromFilePath filePath file).loadFromFile {} = .ok initially)
    (thread : ℕ) (performed : Performs io store operation outcome after) :
    Tracks filePath file initially
      (notePublished initially published
        (.answered thread operation outcome)) after := by
  cases performed with
  | unreadable unloaded unread =>
      rw [notePublished_error]
      exact tracks
  | unpublished knows write =>
      rw [notePublished_error, tracks.knows parsed knows]
      exact tracks.cache
  | found knows host port =>
      rw [tracks.knows parsed knows]
      exact tracks.cache
  | upserted knows record =>
      obtain rfl := tracks.knows parsed knows
      exact tracks.publish (distinct_replaced tracks.distinct)
  | absent knows host port kept =>
      obtain rfl := tracks.knows parsed knows
      rw [notePublished, if_pos kept]
      exact tracks.cache
  | removed knows host port fewer =>
      obtain rfl := tracks.knows parsed knows
      rw [notePublished, if_neg fewer]
      exact tracks.publish (distinct_without tracks.distinct)
  | listed knows =>
      rw [tracks.knows parsed knows]
      exact tracks.cache

theorem Performs.answers
    (performed : Performs io store operation (.ok answer) after)
    (knows : ∀ records, Knows io store records →
      records = published.getD initially)
    (distinct : ((published.getD initially).map TrustRecord.endpoint).Nodup)
    (thread : ℕ) :
    Answers (ofRecords (published.getD initially)) operation answer
      (ofRecords ((notePublished initially published
        (.answered thread operation (.ok answer))).getD initially)) := by
  cases performed with
  | found known host port =>
      obtain rfl := knows _ known
      have answered := @Answers.lookup
        (ofRecords (published.getD initially)) host port
      rw [found_ofRecords] at answered
      exact answered
  | upserted known record =>
      obtain rfl := knows _ known
      rw [notePublished, Option.getD_some, ofRecords_replaced]
      exact .upsert record
  | absent known host port kept =>
      obtain rfl := knows _ known
      have erased := @ofRecords_without (published.getD initially) host port
      rw [notePublished, if_pos kept]
      rw [kept] at erased
      have answered := @Answers.remove
        (ofRecords (published.getD initially)) host port
      rwa [← erased] at answered
  | removed known host port fewer =>
      obtain rfl := knows _ known
      rw [notePublished, if_neg fewer, Option.getD_some, ofRecords_without]
      exact .remove host port
  | listed known =>
      obtain rfl := knows _ known
      exact .list (lists_sorted distinct)

theorem noteMap_error (entries : TrustMap) (thread : ℕ) (error : AppError) :
    noteMap entries (.answered thread operation (.error error)) = entries := by
  cases operation <;> rfl

theorem noteMap_answers {entries next : TrustMap} (thread : ℕ)
    (answers : Answers entries operation answer next) :
    noteMap entries (.answered thread operation (.ok answer)) = next := by
  cases answers <;> rfl

/-- What holds of cache, file and map after the answers of a log. -/
structure Refined (filePath : String) (file : Option String)
    (initially : List TrustRecord) (log : List Answered)
    (store : TrustStore) : Prop where
  tracks : Tracks filePath file initially (lastPublished initially log) store
  map : mapAfter initially log =
    ofRecords ((lastPublished initially log).getD initially)

variable {log : List Answered}

theorem Refined.performs (refined : Refined filePath file initially log store)
    (parsed : (fromFilePath filePath file).loadFromFile {} = .ok initially)
    (thread : ℕ) (performed : Performs io store operation outcome after) :
    Refined filePath file initially
      (log ++ [.answered thread operation outcome]) after ∧
    ∀ answer, outcome = .ok answer →
      Answers (mapAfter initially log) operation answer
        (mapAfter initially
          (log ++ [.answered thread operation outcome])) := by
  have tracks := refined.tracks.performs parsed thread performed
  have published : lastPublished initially
      (log ++ [.answered thread operation outcome]) =
      notePublished initially (lastPublished initially log)
        (.answered thread operation outcome) := by
    simp [lastPublished]
  have noted : mapAfter initially
      (log ++ [.answered thread operation outcome]) =
      noteMap (mapAfter initially log)
        (.answered thread operation outcome) := by
    simp [mapAfter]
  cases outcome with
  | error error =>
      refine ⟨⟨published ▸ tracks, ?_⟩, nofun⟩
      rw [noted, noteMap_error, published, notePublished_error]
      exact refined.map
  | ok answer =>
      have answers := performed.answers
        (fun _ knows => refined.tracks.knows parsed knows)
        refined.tracks.distinct thread
      have follows := noteMap_answers thread answers
      rw [← refined.map] at answers follows
      refine ⟨⟨published ▸ tracks, ?_⟩, ?_⟩
      · rw [noted, follows, published]
      · intro same found
        obtain rfl := Except.ok.inj found
        rw [noted, follows]
        exact answers

theorem started_refined
    (distinct : (initially.map TrustRecord.endpoint).Nodup) :
    Refined filePath file initially [] (started filePath file).shared where
  tracks := ⟨rfl, nofun, fun _ => rfl, rfl, distinct⟩
  map := rfl

theorem Refined.step {config final : Config TrustStore Turn}
    {action : ThreadAction Turn StoreIo} {events : List Answered}
    (refined : Refined filePath file initially log config.shared)
    (parsed : (fromFilePath filePath file).loadFromFile {} = .ok initially)
    (stepped : threads.machine.step config action = some (final, events)) :
    Refined filePath file initially (log ++ events) final.shared ∧
    ∀ before thread operation answer later,
      events = before ++ .answered thread operation (.ok answer) :: later →
      Answers (mapAfter initially (log ++ before)) operation answer
        (mapAfter initially
          (log ++ before ++ [.answered thread operation (.ok answer)])) := by
  rcases Program.machine_step_cases stepped with
    ⟨thread, start, -, -, -, rfl, rfl⟩ |
    ⟨thread, io, current, shared, after, -, -, moved, rfl⟩
  · rw [show threads.opened thread start = [] from rfl, List.append_nil]
    exact ⟨refined, fun before _ _ _ _ split => by simp at split⟩
  · cases current with
    | returned => cases moved
    | calling operation =>
        obtain ⟨rfl, -, rfl⟩ := Option.some.inj moved
        obtain ⟨kept, answers⟩ := refined.performs parsed thread
          (TrustStore.performs io config.shared operation)
        refine ⟨kept, ?_⟩
        intro before other asked answer later split
        cases before with
        | nil =>
            obtain ⟨same, -⟩ := List.cons.inj split
            obtain ⟨rfl, rfl, outcomeEq⟩ := Answered.answered.inj same
            rw [List.append_nil, ← outcomeEq]
            exact answers answer outcomeEq
        | cons first rest => simp at split

theorem refined {config : Config TrustStore Turn}
    {actions : List (ThreadAction Turn StoreIo)}
    (parsed : (fromFilePath filePath file).loadFromFile {} = .ok initially)
    (distinct : (initially.map TrustRecord.endpoint).Nodup)
    (run : threads.machine.Run (started filePath file) actions log config) :
    Refined filePath file initially log config.shared := by
  refine @Machine.Run.invariant _ _ _ _ (started filePath file)
    (fun log config => Refined filePath file initially log config.shared)
    (started_refined distinct) ?_ _ _ _ run
  intro log config action next events refined stepped
  exact (refined.step parsed stepped).1

theorem refined_answers {config : Config TrustStore Turn}
    {actions : List (ThreadAction Turn StoreIo)}
    (parsed : (fromFilePath filePath file).loadFromFile {} = .ok initially)
    (distinct : (initially.map TrustRecord.endpoint).Nodup)
    (run : threads.machine.Run (started filePath file) actions log config)
    {before later : List Answered} {thread : ℕ}
    (split : log = before ++ .answered thread operation (.ok answer) :: later) :
    Answers (mapAfter initially before) operation answer
      (mapAfter initially
        (before ++ [.answered thread operation (.ok answer)])) := by
  have history := @Machine.Run.history _ _ _ _ (started filePath file)
    (fun log config => Refined filePath file initially log config.shared)
    (fun before event => ∀ thread operation answer,
      event = .answered thread operation (.ok answer) →
      Answers (mapAfter initially before) operation answer
        (mapAfter initially
          (before ++ [.answered thread operation (.ok answer)])))
    (started_refined distinct)
    (fun _ _ _ _ _ refined stepped => (refined.step parsed stepped).1)
    (fun _ _ _ _ _ refined stepped before event after split
        thread operation answer same =>
      (refined.step parsed stepped).2 before thread operation answer after
        (same ▸ split))
    _ _ _ run
  exact history before _ later split thread operation answer rfl

theorem Performs.error_kept
    (performed : Performs io store operation (.error error) after) :
    after.file = store.file ∧
      (after = store ∨ store.records = none ∧ ∃ records,
        Knows io store records ∧ after.records = some records) := by
  cases performed with
  | unreadable unloaded unread => exact ⟨rfl, .inl rfl⟩
  | unpublished knows write =>
      refine ⟨rfl, ?_⟩
      cases loaded : store.records with
      | none => exact .inr ⟨rfl, _, knows, rfl⟩
      | some cached =>
          refine .inl ?_
          rcases knows with known | ⟨none, -⟩
          · rw [cache, ← known]
          · rw [loaded] at none
            cases none

theorem Performs.unread (performed : Performs io store operation outcome after)
    (unloaded : store.records = none)
    (unread : ∃ error, store.loadFromFile io = .error error) :
    after = store ∧ ∃ error, outcome = .error error := by
  have unknown : ∀ records, ¬ Knows io store records := by
    rintro records (cached | ⟨-, read⟩)
    · rw [unloaded] at cached
      cases cached
    · obtain ⟨error, failed⟩ := unread
      rw [failed] at read
      cases read
  cases performed with
  | unreadable unloaded unread => exact ⟨rfl, _, rfl⟩
  | unpublished knows write => exact absurd knows (unknown _)
  | found knows host port => exact absurd knows (unknown _)
  | upserted knows record => exact absurd knows (unknown _)
  | absent knows host port kept => exact absurd knows (unknown _)
  | removed knows host port fewer => exact absurd knows (unknown _)
  | listed knows => exact absurd knows (unknown _)

/-- Under any number of threads the trust store is a finite map from endpoints to
keys, with a cache and a file that follow what was published last. -/
theorem refines_map {config : Config TrustStore Turn}
    {actions : List (ThreadAction Turn StoreIo)}
    (parsed : (fromFilePath filePath file).loadFromFile {} = .ok initially)
    (distinct : (initially.map TrustRecord.endpoint).Nodup)
    (run : threads.machine.Run (started filePath file) actions log config) :
    (∀ before thread operation answer later,
      log = before ++ .answered thread operation (.ok answer) :: later →
      Answers (mapAfter initially before) operation answer
        (mapAfter initially
          (before ++ [.answered thread operation (.ok answer)]))) ∧
    ((∀ records, config.shared.records = some records →
        records = (lastPublished initially log).getD initially) ∧
      config.shared.file = (lastPublished initially log).elim file
        (fun records => some (serializeRecords records)) ∧
      (((lastPublished initially log).getD initially).map
        TrustRecord.endpoint).Nodup ∧
      mapAfter initially log =
        ofRecords ((lastPublished initially log).getD initially)) ∧
    (∀ thread io operation error next,
      threads.machine.step config (.advance thread io) =
        some (next, [.answered thread operation (.error error)]) →
      next.shared.file = config.shared.file ∧
        (next.shared.records = config.shared.records ∨
          config.shared.records = none ∧
            next.shared.records = some initially)) ∧
    ∀ io (store : TrustStore) operation, store.records = none →
      (∃ error, store.loadFromFile io = .error error) →
      ∃ error, store.perform io operation = (.error error, store) := by
  have refined := refined parsed distinct run
  refine ⟨fun before thread operation answer later split =>
      refined_answers parsed distinct run split,
    ⟨refined.tracks.cached, refined.tracks.content, refined.tracks.distinct,
      refined.map⟩, ?_, ?_⟩
  · intro thread io operation error next stepped
    rcases Program.machine_step_cases stepped with
      ⟨other, start, acted, -⟩ |
      ⟨other, chosen, current, shared, after, acted, -, moved, rfl⟩
    · cases acted
    · cases acted
      cases current with
      | returned => cases moved
      | calling asked =>
          obtain ⟨sharedEq, turnEq⟩ := Prod.mk.inj (Option.some.inj moved)
          obtain ⟨-, same⟩ := Prod.mk.inj turnEq
          obtain ⟨-, rfl, failed⟩ :=
            Answered.answered.inj (List.cons.inj same).1
          have performed := performs io config.shared asked
          rw [failed, sharedEq] at performed
          obtain ⟨fileKept, kept | ⟨unloaded, records, knows, filled⟩⟩ :=
            performed.error_kept
          · exact ⟨fileKept, .inl (congrArg TrustStore.records kept)⟩
          · refine ⟨fileKept, .inr ⟨unloaded, filled.trans ?_⟩⟩
            rw [refined.tracks.knows parsed knows,
              refined.tracks.unloaded unloaded, Option.getD_none]
  · intro io store operation unloaded unread
    obtain ⟨kept, error, failed⟩ :=
      (performs io store operation).unread unloaded unread
    exact ⟨error, Prod.ext failed kept⟩

/-- A store without a file that has learnt one key, and is asked for it. -/
def learning : List (ThreadAction Turn StoreIo) :=
  [.spawn 0 (.calling (.upsert ⟨"10.0.0.8", 22, "ssh-ed25519", [7]⟩)),
    .advance 0 {}, .spawn 1 (.calling (.lookup "10.0.0.8" 22)),
    .advance 1 {}]

theorem refines_map_learning :
    ∃ log config,
      threads.machine.Run (started "/data/known_hosts" none) learning log
        config ∧
      (∀ records, config.shared.records = some records →
        records = (lastPublished [] log).getD []) ∧
      ∃ before record, log = before ++
        [.answered 1 (.lookup "10.0.0.8" 22) (.ok (.found (some record)))] ∧
      Answers (mapAfter [] before) (.lookup "10.0.0.8" 22) (.found (some record))
        (mapAfter [] log) := by
  have executed : ∃ log config before record,
      threads.machine.Run (started "/data/known_hosts" none) learning log
        config ∧
      log = before ++
        [.answered 1 (.lookup "10.0.0.8" 22) (.ok (.found (some record)))] :=
    ⟨_, _, [_], _, Machine.run_of_execute rfl, rfl⟩
  obtain ⟨log, config, before, record, run, split⟩ := executed
  have parsed : (fromFilePath "/data/known_hosts" none).loadFromFile {} =
    .ok [] := rfl
  obtain ⟨answers, ⟨cached, -⟩, -⟩ := refines_map parsed List.nodup_nil run
  have answered := answers before 1 _ _ [] split
  rw [← split] at answered
  exact ⟨log, config, run, cached, before, record, split, answered⟩

/-- An upsert that cannot be published still fills the cache, and a filled cache
goes on answering while the file cannot be read. -/
theorem cache_outlives_file :
    (∃ log config next error,
      threads.machine.Run (started "/data/known_hosts" none)
        [.spawn 0 (.calling (.upsert ⟨"10.0.0.8", 22, "ssh-ed25519", [7]⟩))]
        log config ∧
      threads.machine.step config
          (.advance 0 { publishFault := some (.createTemp "full") }) =
        some (next, [.answered 0
          (.upsert ⟨"10.0.0.8", 22, "ssh-ed25519", [7]⟩) (.error error)]) ∧
      next.shared.records ≠ config.shared.records) ∧
    ∃ log config next answer,
      threads.machine.Run (started "/data/known_hosts" none)
        [.spawn 0 (.calling .list), .advance 0 {},
          .spawn 1 (.calling (.lookup "10.0.0.8" 22))] log config ∧
      (∃ error, config.shared.loadFromFile { readError := some "denied" } =
        .error error) ∧
      threads.machine.step config (.advance 1 { readError := some "denied" }) =
        some (next, [.answered 1 (.lookup "10.0.0.8" 22) (.ok answer)]) := by
  refine ⟨⟨_, _, _, _, Machine.run_of_execute rfl, rfl, ?_⟩,
    ⟨_, _, _, _, Machine.run_of_execute rfl, ⟨_, rfl⟩, rfl⟩⟩
  decide

end TrustStore

end TitanSSH
