import Mathlib.Data.List.Induction
import Mathlib.Logic.Function.Basic

/-! A store of one optional value a key, and the writes that are undone by
erasing the keys they went to. -/

abbrev KeyedStore (κ : Type u) (ν : Type v) := κ → Option ν

namespace KeyedStore

variable {κ : Type u} {ν : Type v} [DecidableEq κ]

def insert (key : κ) (value : ν) (cells : KeyedStore κ ν) : KeyedStore κ ν :=
  Function.update cells key (some value)

def erase (key : κ) (cells : KeyedStore κ ν) : KeyedStore κ ν :=
  Function.update cells key none

def eraseAll (keys : List κ) (cells : KeyedStore κ ν) : KeyedStore κ ν :=
  keys.foldl (fun remaining key => remaining.erase key) cells

/-- The two stores hold the same outside `keys`. -/
def AgreeOutside (keys : List κ) (before after : KeyedStore κ ν) : Prop :=
  ∀ key, key ∉ keys → after key = before key

@[simp] theorem insert_self (key : κ) (value : ν) (cells : KeyedStore κ ν) :
    cells.insert key value key = some value := by
  simp [insert]

theorem insert_of_ne (different : other ≠ key) (value : ν)
    (cells : KeyedStore κ ν) : cells.insert key value other = cells other := by
  simp [insert, different]

@[simp] theorem erase_self (key : κ) (cells : KeyedStore κ ν) :
    cells.erase key key = none := by
  simp [erase]

theorem erase_of_ne (different : other ≠ key) (cells : KeyedStore κ ν) :
    cells.erase key other = cells other := by
  simp [erase, different]

theorem erase_apply_of_absent {cells : KeyedStore κ ν} {key : κ}
    (absent : cells key = none) (other : κ) : cells.erase other key = none := by
  rcases eq_or_ne key other with rfl | different
  · exact erase_self _ _
  · rw [erase_of_ne different, absent]

omit [DecidableEq κ] in
theorem AgreeOutside.refl (keys : List κ) (cells : KeyedStore κ ν) :
    AgreeOutside keys cells cells :=
  fun _ _ => rfl

theorem AgreeOutside.insert {before after : KeyedStore κ ν}
    (agree : AgreeOutside keys before after) (key : κ) (value : ν) :
    AgreeOutside (keys ++ [key]) before (after.insert key value) := by
  intro other absent
  have notBefore : other ∉ keys := fun member => absent (by simp [member])
  have different : other ≠ key := fun equal => absent (by simp [equal])
  rw [insert_of_ne different]
  exact agree other notBefore

theorem erase_of_absent {cells : KeyedStore κ ν} (absent : cells key = none) :
    cells.erase key = cells := by
  rw [erase, ← absent]
  exact Function.update_eq_self key cells

theorem eraseAll_apply (keys : List κ) (cells : KeyedStore κ ν) (key : κ) :
    cells.eraseAll keys key = if key ∈ keys then none else cells key := by
  induction keys generalizing cells with
  | nil => rfl
  | cons head tail induction =>
      have unfolded :
          cells.eraseAll (head :: tail) = (cells.erase head).eraseAll tail := rfl
      rw [unfolded, induction]
      by_cases isHead : key = head
      · subst isHead
        simp
      · simp [isHead, erase_of_ne isHead]

theorem AgreeOutside.eraseAll {before after : KeyedStore κ ν}
    (agree : AgreeOutside keys before after) :
    after.eraseAll keys = before.eraseAll keys := by
  funext key
  rw [eraseAll_apply, eraseAll_apply]
  split
  · rfl
  · rename_i absent
    exact agree key absent

theorem eraseAll_eq_self_iff (keys : List κ) (cells : KeyedStore κ ν) :
    cells.eraseAll keys = cells ↔ ∀ key ∈ keys, cells key = none := by
  constructor
  · intro unchanged key member
    have erased := eraseAll_apply keys cells key
    rw [unchanged, if_pos member] at erased
    exact erased
  · intro absent
    funext key
    rw [eraseAll_apply]
    split
    · rename_i member
      exact (absent key member).symm
    · rfl

/-- Erasing what was written brings the old store back exactly when nothing
was written over. -/
theorem AgreeOutside.eraseAll_eq_iff {before after : KeyedStore κ ν}
    (agree : AgreeOutside keys before after) :
    after.eraseAll keys = before ↔ ∀ key ∈ keys, before key = none := by
  rw [agree.eraseAll]
  exact eraseAll_eq_self_iff keys before

end KeyedStore

/-! One cell, and what a sequence of sets and deletes leaves in it. -/

inductive CellOp (ν : Type v)
  | set (value : ν)
  | delete
  deriving DecidableEq, Repr

namespace CellOp

variable {ν : Type v}

def written : CellOp ν → Option ν
  | set value => some value
  | delete => none

/-- The value of the last set, unless a delete came after it. -/
def latest (operations : List (CellOp ν)) : Option ν :=
  operations.getLast?.bind written

@[simp] theorem latest_append_singleton (operations : List (CellOp ν))
    (operation : CellOp ν) :
    latest (operations ++ [operation]) = operation.written := by
  simp [latest]

theorem latest_eq_some_iff {operations : List (CellOp ν)} :
    latest operations = some value ↔
      operations.getLast? = some (.set value) := by
  cases last : operations.getLast? with
  | none => simp [latest, last]
  | some operation => cases operation <;> simp [latest, last, written]

theorem latest_append_toList (operations : List (CellOp ν))
    (operation : Option (CellOp ν)) :
    latest (operations ++ operation.toList) =
      operation.elim (latest operations) written := by
  cases operation <;> simp

theorem latest_append_of_cleared {earlier : List (CellOp ν)}
    (cleared : latest earlier = none) (later : List (CellOp ν)) :
    latest (earlier ++ later) = latest later := by
  induction later using List.reverseRecOn with
  | nil => simpa [latest] using cleared
  | append_singleton front last _ =>
      rw [← List.append_assoc, latest_append_singleton, latest_append_singleton]

theorem latest_append_of_held {later : List (CellOp ν)}
    (held : latest later = some value) (earlier : List (CellOp ν)) :
    latest (earlier ++ later) = some value := by
  rw [latest_eq_some_iff] at held ⊢
  simp [List.getLast?_append, held]

theorem latest_of_deletes {operations : List (CellOp ν)}
    (deletes : ∀ operation ∈ operations, operation = .delete) :
    latest operations = none := by
  cases held : latest operations with
  | none => rfl
  | some value =>
      have last := latest_eq_some_iff.mp held
      cases deletes _ (List.mem_of_getLast? last)

end CellOp
