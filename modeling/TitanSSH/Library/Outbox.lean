import Mathlib.Data.List.Infix
import Mathlib.Logic.Function.Basic

/-! Items that a thread first records, under a lock, and then delivers, after
it has given the lock up. -/

namespace Outbox

variable {Item : Type*} {held : ℕ → Option Item}
variable {recorded delivered : List Item} {thread : ℕ} {item : Item}

/-- Everything recorded is delivered, but for one item that one thread holds. -/
inductive Balanced (held : ℕ → Option Item) (recorded delivered : List Item) :
    Prop
  | settled (idle : ∀ thread, held thread = none)
      (same : recorded = delivered) : Balanced held recorded delivered
  | due {thread : ℕ} {item : Item} (holds : held thread = some item)
      (alone : ∀ other, other ≠ thread → held other = none)
      (ahead : recorded = delivered ++ [item]) :
      Balanced held recorded delivered

theorem Balanced.idle (balanced : Balanced held recorded delivered)
    (same : recorded = delivered) (thread : ℕ) : held thread = none := by
  cases balanced with
  | settled idle _ => exact idle thread
  | due holds alone ahead =>
      rw [ahead] at same
      simp at same

theorem Balanced.delivered_all (balanced : Balanced held recorded delivered)
    (idle : ∀ thread, held thread = none) : recorded = delivered := by
  cases balanced with
  | settled _ same => exact same
  | due holds _ _ => simp [idle] at holds

theorem Balanced.delivered_first (balanced : Balanced held recorded delivered) :
    delivered <+: recorded := by
  cases balanced with
  | settled _ same => exact same ▸ List.prefix_rfl
  | due _ _ ahead => exact ⟨_, ahead.symm⟩

theorem Balanced.record (balanced : Balanced held recorded delivered)
    (same : recorded = delivered) (thread : ℕ) (item : Item) :
    Balanced (Function.update held thread (some item)) (recorded ++ [item])
      delivered := by
  refine .due (Function.update_self _ _ _) ?_ (by rw [same])
  intro other different
  rw [Function.update_of_ne different]
  exact balanced.idle same other

theorem Balanced.deliver (balanced : Balanced held recorded delivered)
    (holds : held thread = some item) :
    Balanced (Function.update held thread none) recorded
      (delivered ++ [item]) := by
  cases balanced with
  | settled idle _ => simp [idle] at holds
  | @due holder due found alone ahead =>
      obtain rfl : thread = holder := by
        by_contra different
        simp [alone thread different] at holds
      obtain rfl := Option.some.inj (holds.symm.trans found)
      refine .settled ?_ ahead
      intro other
      rcases eq_or_ne other thread with rfl | different
      · exact Function.update_self _ _ _
      · rw [Function.update_of_ne different]
        exact alone other different

end Outbox
