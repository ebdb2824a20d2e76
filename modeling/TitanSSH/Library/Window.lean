import Mathlib.Data.List.Basic

/-! The part of a list that no later element has outdated, and how it is kept up
to date by pushing elements one at a time. -/

namespace Window

variable {α : Type*} (fresh : α → α → Bool)

/-- The elements that are fresh beside each element after them. -/
def window : List α → List α
  | [] => []
  | first :: rest =>
      if rest.all (fresh first) then first :: window rest else window rest

def push (items : List α) (item : α) : List α :=
  (items ++ [item]).filter (fresh · item)

variable {fresh}

theorem push_eq {item : α} (reflexive : fresh item item = true)
    (items : List α) :
    push fresh items item = items.filter (fresh · item) ++ [item] := by
  simp [push, reflexive]

theorem map_push {β : Type*} {other : β → β → Bool} {image : α → β}
    (agree : ∀ early late, other (image early) (image late) = fresh early late)
    (items : List α) (item : α) :
    (push fresh items item).map image =
      push other (items.map image) (image item) := by
  unfold push
  rw [← List.map_singleton, ← List.map_append, List.filter_map]
  congr 2
  funext early
  exact (agree early item).symm

theorem window_append_singleton {item : α}
    (reflexive : fresh item item = true) (items : List α) :
    window fresh (items ++ [item]) = push fresh (window fresh items) item := by
  rw [push_eq reflexive]
  induction items with
  | nil => simp [window]
  | cons first rest induction =>
      rw [List.cons_append, window, window, induction, List.all_append]
      cases stays : rest.all (fresh first) with
      | false => simp
      | true =>
          cases current : fresh first item with
          | false => simp [current]
          | true => simp [current]

end Window
