import Mathlib.Data.Finset.Card
import Mathlib.Data.Finset.Max
import Mathlib.Data.Finset.Option
import Mathlib.Data.Finset.Union

/-! Finite maps with a computable domain: a hash map as its entries, in no
order.  Everything that walks the entries goes through `keysWhere`. -/

structure FiniteMap (Key Value : Type*) where
  domain : Finset Key
  lookup : Key → Option Value
  mem_domain : ∀ key, key ∈ domain ↔ (lookup key).isSome = true

namespace FiniteMap

variable {Key Value : Type*}

@[ext] theorem ext {first second : FiniteMap Key Value}
    (same : ∀ key, first.lookup key = second.lookup key) : first = second := by
  obtain ⟨domain, lookup, member⟩ := first
  obtain ⟨otherDomain, otherLookup, otherMember⟩ := second
  obtain rfl : lookup = otherLookup := funext same
  obtain rfl : domain = otherDomain := by
    ext key
    rw [member, otherMember]
  rfl

instance : Membership Key (FiniteMap Key Value) :=
  ⟨fun entries key => key ∈ entries.domain⟩

theorem mem_iff {entries : FiniteMap Key Value} {key : Key} :
    key ∈ entries ↔ ∃ value, entries.lookup key = some value :=
  (entries.mem_domain key).trans Option.isSome_iff_exists

@[simp] theorem mem_domain_iff {entries : FiniteMap Key Value} {key : Key} :
    key ∈ entries.domain ↔ ∃ value, entries.lookup key = some value :=
  mem_iff

def empty : FiniteMap Key Value :=
  ⟨∅, fun _ => none, by simp⟩

@[simp] theorem lookup_empty (key : Key) :
    (empty : FiniteMap Key Value).lookup key = none := rfl

def size (entries : FiniteMap Key Value) : ℕ :=
  entries.domain.card

@[simp] theorem size_empty : (empty : FiniteMap Key Value).size = 0 := rfl

/-- The keys whose entries satisfy a test. -/
def keysWhere (entries : FiniteMap Key Value) (holds : Key → Value → Bool) :
    Finset Key :=
  entries.domain.filter fun key => (entries.lookup key).any (holds key) = true

@[simp] theorem mem_keysWhere {entries : FiniteMap Key Value}
    {holds : Key → Value → Bool} {key : Key} :
    key ∈ entries.keysWhere holds ↔
      ∃ value, entries.lookup key = some value ∧ holds key value = true := by
  simp only [keysWhere, Finset.mem_filter, mem_domain_iff]
  cases found : entries.lookup key <;> simp

theorem keysWhere_subset (entries : FiniteMap Key Value)
    (holds : Key → Value → Bool) : entries.keysWhere holds ⊆ entries.domain :=
  Finset.filter_subset _ _

def any (entries : FiniteMap Key Value) (holds : Key → Value → Bool) : Bool :=
  decide (entries.keysWhere holds).Nonempty

theorem any_eq_true {entries : FiniteMap Key Value}
    {holds : Key → Value → Bool} :
    entries.any holds = true ↔
      ∃ key value, entries.lookup key = some value ∧ holds key value = true := by
  rw [any, decide_eq_true_iff]
  exact exists_congr fun _ => mem_keysWhere

def retain (entries : FiniteMap Key Value) (keep : Key → Value → Bool) :
    FiniteMap Key Value :=
  ⟨entries.keysWhere keep,
    fun key => (entries.lookup key).filter (keep key), by
      intro key
      rw [mem_keysWhere]
      cases found : entries.lookup key with
      | none => simp
      | some value => cases kept : keep key value <;> simp [kept]⟩

theorem lookup_retain (entries : FiniteMap Key Value)
    (keep : Key → Value → Bool) (key : Key) :
    (entries.retain keep).lookup key =
      (entries.lookup key).filter (keep key) := rfl

@[simp] theorem lookup_retain_eq_some {entries : FiniteMap Key Value}
    {keep : Key → Value → Bool} {key : Key} {value : Value} :
    (entries.retain keep).lookup key = some value ↔
      entries.lookup key = some value ∧ keep key value = true := by
  simp [lookup_retain, Option.filter_eq_some_iff]

/-! The least key whose entry satisfies a test, and the least of what the
entries are read as. -/

section Least

variable {Reading : Type*} [LinearOrder Reading]

def least? (readings : Finset Reading) : Option Reading :=
  if found : readings.Nonempty then some (readings.min' found) else none

theorem least?_eq_some {readings : Finset Reading} {reading : Reading} :
    least? readings = some reading ↔
      reading ∈ readings ∧ ∀ other ∈ readings, reading ≤ other := by
  unfold least?
  split
  · next found =>
      rw [Option.some.injEq]
      constructor
      · rintro rfl
        exact ⟨Finset.min'_mem _ _, fun other member =>
          Finset.min'_le _ _ member⟩
      · rintro ⟨member, below⟩
        exact le_antisymm (Finset.min'_le _ _ member)
          (below _ (Finset.min'_mem _ _))
  · next missing =>
      simp [Finset.not_nonempty_iff_eq_empty.mp missing]

theorem least?_eq_none {readings : Finset Reading} :
    least? readings = none ↔ readings = ∅ := by
  unfold least?
  split
  · next found => simpa using found.ne_empty
  · next missing => simpa using Finset.not_nonempty_iff_eq_empty.mp missing

def first? [LinearOrder Key] (entries : FiniteMap Key Value)
    (holds : Key → Value → Bool) : Option Key :=
  least? (entries.keysWhere holds)

theorem first?_eq_some [LinearOrder Key] {entries : FiniteMap Key Value}
    {holds : Key → Value → Bool} {key : Key}
    (found : entries.first? holds = some key) :
    ∃ value, entries.lookup key = some value ∧ holds key value = true :=
  mem_keysWhere.mp (least?_eq_some.mp found).1

theorem first?_eq_none [LinearOrder Key] {entries : FiniteMap Key Value}
    {holds : Key → Value → Bool} :
    entries.first? holds = none ↔ entries.keysWhere holds = ∅ :=
  least?_eq_none

def collect (entries : FiniteMap Key Value)
    (read : Key → Value → Option Reading) : Finset Reading :=
  entries.domain.biUnion fun key =>
    ((entries.lookup key).bind (read key)).toFinset

@[simp] theorem mem_collect {entries : FiniteMap Key Value}
    {read : Key → Value → Option Reading} {reading : Reading} :
    reading ∈ entries.collect read ↔
      ∃ key value, entries.lookup key = some value ∧
        read key value = some reading := by
  simp only [collect, Finset.mem_biUnion, mem_domain_iff, Option.mem_toFinset,
    Option.mem_def, Option.bind_eq_some_iff]
  constructor
  · rintro ⟨key, -, value, found, holds⟩
    exact ⟨key, value, found, holds⟩
  · rintro ⟨key, value, found, holds⟩
    exact ⟨key, ⟨value, found⟩, value, found, holds⟩

end Least

/-! Updates of single keys. -/

variable [DecidableEq Key]

def insert (entries : FiniteMap Key Value) (key : Key) (value : Value) :
    FiniteMap Key Value :=
  ⟨Insert.insert key entries.domain,
    Function.update entries.lookup key (some value), by
      intro other
      rcases eq_or_ne other key with rfl | different
      · simp
      · simp [different, Option.isSome_iff_exists]⟩

theorem lookup_insert (entries : FiniteMap Key Value) (key other : Key)
    (value : Value) :
    (entries.insert key value).lookup other =
      if other = key then some value else entries.lookup other :=
  Function.update_apply _ _ _ _

@[simp] theorem lookup_insert_self (entries : FiniteMap Key Value) (key : Key)
    (value : Value) : (entries.insert key value).lookup key = some value := by
  simp [lookup_insert]

theorem lookup_insert_of_ne (entries : FiniteMap Key Value) {key other : Key}
    (value : Value) (different : other ≠ key) :
    (entries.insert key value).lookup other = entries.lookup other := by
  simp [lookup_insert, different]

@[simp] theorem domain_insert (entries : FiniteMap Key Value) (key : Key)
    (value : Value) :
    (entries.insert key value).domain = Insert.insert key entries.domain := rfl

theorem size_insert_of_notMem {entries : FiniteMap Key Value} {key : Key}
    (absent : entries.lookup key = none) (value : Value) :
    (entries.insert key value).size = entries.size + 1 :=
  Finset.card_insert_of_notMem (by simp [absent])

theorem size_insert_of_mem {entries : FiniteMap Key Value} {key : Key}
    {old : Value} (present : entries.lookup key = some old) (value : Value) :
    (entries.insert key value).size = entries.size := by
  simp only [size, domain_insert]
  rw [Finset.insert_eq_of_mem (by simp [present])]

def erase (entries : FiniteMap Key Value) (key : Key) : FiniteMap Key Value :=
  ⟨entries.domain.erase key, Function.update entries.lookup key none, by
    intro other
    rcases eq_or_ne other key with rfl | different
    · simp
    · simp [different, Option.isSome_iff_exists]⟩

theorem lookup_erase (entries : FiniteMap Key Value) (key other : Key) :
    (entries.erase key).lookup other =
      if other = key then none else entries.lookup other :=
  Function.update_apply _ _ _ _

@[simp] theorem lookup_erase_self (entries : FiniteMap Key Value) (key : Key) :
    (entries.erase key).lookup key = none := by
  simp [lookup_erase]

theorem lookup_erase_of_ne (entries : FiniteMap Key Value) {key other : Key}
    (different : other ≠ key) :
    (entries.erase key).lookup other = entries.lookup other := by
  simp [lookup_erase, different]

theorem lookup_erase_of_absent {entries : FiniteMap Key Value} {key : Key}
    (absent : entries.lookup key = none) (other : Key) :
    (entries.erase other).lookup key = none := by
  rw [lookup_erase, absent, ite_self]

theorem lookup_erase_eq_some {entries : FiniteMap Key Value} {key other : Key}
    {value : Value} :
    (entries.erase key).lookup other = some value ↔
      other ≠ key ∧ entries.lookup other = some value := by
  rw [lookup_erase]
  split <;> simp_all

theorem size_erase_le (entries : FiniteMap Key Value) (key : Key) :
    (entries.erase key).size ≤ entries.size :=
  Finset.card_erase_le

@[simp] theorem erase_empty (key : Key) :
    (empty : FiniteMap Key Value).erase key = empty := by
  ext other
  simp [lookup_erase]

end FiniteMap
