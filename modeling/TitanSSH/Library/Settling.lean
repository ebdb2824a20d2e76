import Mathlib.Algebra.BigOperators.Group.Finset.Basic
import Mathlib.Algebra.Order.BigOperators.Group.Finset
import TitanSSH.Library.GuardedRuns

namespace Interleaving

/-! Runs that come to rest: a measure that no step raises and that the steps of
one kind lower bounds how many of them a run takes. -/

namespace Machine

variable {State Action Event : Type*}
variable {machine : Machine State Action Event}
variable {allowed : List Event → State → Action → Bool}
variable {past log : List Event} {start state : State} {actions : List Action}

theorem RunWhere.countP_le {measure : State → ℕ} {counts : Action → Bool}
    (guarded : machine.RunWhere allowed past start actions log state)
    (holds : List Event → State → Prop) (initial : holds past start)
    (preserved : ∀ {log state action next events}, holds log state →
      allowed log state action = true →
      machine.step state action = some (next, events) →
      holds (log ++ events) next)
    (lowers : ∀ {log state action next events}, holds log state →
      allowed log state action = true →
      machine.step state action = some (next, events) →
      measure next + (if counts action then 1 else 0) ≤ measure state) :
    actions.countP counts + measure state ≤ measure start := by
  induction guarded with
  | refl => simp
  | snoc earlier permitted stepped induction =>
      have kept := earlier.invariant holds initial preserved
      have lowered := lowers kept permitted stepped
      rw [List.countP_append, List.countP_singleton]
      omega

end Machine

section Weights

variable {Shared Phase : Type*}

/-- The weights of some of the threads, each by its phase and the shared state. -/
def Config.weight (config : Config Shared Phase) (threads : Finset ℕ)
    (weigh : Shared → ℕ → Phase → ℕ) : ℕ :=
  ∑ thread ∈ threads,
    (config.threads thread).elim 0 (weigh config.shared thread)

variable {config : Config Shared Phase} {threads woken : Finset ℕ}
variable {weigh : Shared → ℕ → Phase → ℕ} {shared : Shared} {thread gain : ℕ}
variable {phase after : Phase}

/-- What the threads other than one weigh after a step of that one: those it
has woken weigh more, the others no more than before. -/
theorem Config.weight_others
    (others : ∀ other ∈ threads, other ≠ thread → ∀ current,
      config.threads other = some current →
        weigh shared other current ≤
          weigh config.shared other current +
            if other ∈ woken then gain else 0) :
    ∑ other ∈ threads.erase thread,
        (Function.update config.threads thread (some after) other).elim 0
          (weigh shared other) ≤
      (∑ other ∈ threads.erase thread,
        (config.threads other).elim 0 (weigh config.shared other)) +
        woken.card * gain := by
  have each : ∀ other ∈ threads.erase thread,
      (Function.update config.threads thread (some after) other).elim 0
          (weigh shared other) ≤
        (config.threads other).elim 0 (weigh config.shared other) +
          if other ∈ woken then gain else 0 := by
    intro other member
    obtain ⟨different, counted⟩ := Finset.mem_erase.mp member
    rw [Function.update_of_ne different]
    cases running : config.threads other with
    | none => simp
    | some current => exact others other counted different current running
  calc ∑ other ∈ threads.erase thread,
        (Function.update config.threads thread (some after) other).elim 0
          (weigh shared other)
      ≤ ∑ other ∈ threads.erase thread,
          ((config.threads other).elim 0 (weigh config.shared other) +
            if other ∈ woken then gain else 0) := Finset.sum_le_sum each
    _ = (∑ other ∈ threads.erase thread,
          (config.threads other).elim 0 (weigh config.shared other)) +
          ((threads.erase thread).filter (· ∈ woken)).card * gain := by
        rw [Finset.sum_add_distrib, ← Finset.sum_filter,
          Finset.sum_const_nat fun _ _ => rfl]
    _ ≤ _ := by
        refine Nat.add_le_add_left (Nat.mul_le_mul_right _ ?_) _
        refine Finset.card_le_card fun other member => ?_
        exact (Finset.mem_filter.mp member).2

theorem Config.weight_advance (counted : thread ∈ threads)
    (running : config.threads thread = some phase)
    (spends : weigh shared thread after + 1 + woken.card * gain ≤
      weigh config.shared thread phase)
    (others : ∀ other ∈ threads, other ≠ thread → ∀ current,
      config.threads other = some current →
        weigh shared other current ≤
          weigh config.shared other current +
            if other ∈ woken then gain else 0) :
    (⟨shared, Function.update config.threads thread (some after)⟩ :
        Config Shared Phase).weight threads weigh + 1 ≤
      config.weight threads weigh := by
  have rest : ∑ other ∈ threads.erase thread,
      (Function.update config.threads thread (some after) other).elim 0
        (weigh shared other) ≤ _ := Config.weight_others others
  unfold Config.weight
  rw [← Finset.add_sum_erase _ _ counted, ← Finset.add_sum_erase _ _ counted]
  simp only [Function.update_self, running, Option.elim_some]
  omega

theorem Config.weight_aside (uncounted : thread ∉ threads)
    (others : ∀ other ∈ threads, ∀ current,
      config.threads other = some current →
        weigh shared other current ≤ weigh config.shared other current) :
    (⟨shared, Function.update config.threads thread (some after)⟩ :
        Config Shared Phase).weight threads weigh ≤
      config.weight threads weigh := by
  refine Finset.sum_le_sum fun other member => ?_
  have different : other ≠ thread := by
    rintro rfl
    exact uncounted member
  simp only [Function.update_of_ne different]
  cases running : config.threads other with
  | none => simp
  | some current => exact others other member current running

end Weights

end Interleaving
