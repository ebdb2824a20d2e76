import Mathlib.Data.Finset.Sort

/-! The greatest elements of a finite set, told by how many elements are greater
than each, and how a sorted list of the set is cut to find them. -/

namespace Greatest

variable {α : Type*} [LinearOrder α] {count : ℕ} {items : Finset α} {item : α}

def above (items : Finset α) (item : α) : Finset α :=
  items.filter (item < ·)

/-- The elements with fewer than `count` greater ones. -/
def greatest (count : ℕ) (items : Finset α) : Finset α :=
  items.filter fun item => (above items item).card < count

theorem greatest_subset : greatest count items ⊆ items :=
  Finset.filter_subset _ _

/-- In a descending list, what is greater than one of the first comes before it. -/
theorem above_subset_take (member : item ∈ (items.sort (· ≥ ·)).take count) :
    above items item ⊆
      (((items.sort (· ≥ ·)).take count).toFinset).erase item := by
  intro other isAbove
  obtain ⟨inItems, greater⟩ := Finset.mem_filter.mp isAbove
  refine Finset.mem_erase.mpr ⟨greater.ne', List.mem_toFinset.mpr ?_⟩
  have sorted := (Finset.mem_sort (· ≥ ·)).mpr inItems
  rw [← List.take_append_drop count (items.sort (· ≥ ·))] at sorted
  cases List.mem_append.mp sorted with
  | inl early => exact early
  | inr late =>
      have descending := items.pairwise_sort (· ≥ ·)
      rw [← List.take_append_drop count (items.sort (· ≥ ·))] at descending
      have below : other ≤ item :=
        (List.pairwise_append.mp descending).2.2 item member other late
      exact absurd greater below.not_gt

theorem card_take_sort (count : ℕ) (items : Finset α) :
    (((items.sort (· ≥ ·)).take count).toFinset).card =
      min count items.card := by
  have distinct : ((items.sort (· ≥ ·)).take count).Nodup :=
    (items.sort_nodup (· ≥ ·)).sublist (List.take_sublist _ _)
  rw [List.toFinset_card_of_nodup distinct, List.length_take,
    Finset.length_sort]

theorem card_above_of_take (member : item ∈ (items.sort (· ≥ ·)).take count) :
    (above items item).card < count := by
  have inTake := List.mem_toFinset.mpr member
  have fewer := Finset.card_le_card (above_subset_take member)
  rw [Finset.card_erase_of_mem inTake, card_take_sort] at fewer
  have positive := Finset.card_pos.mpr ⟨item, inTake⟩
  rw [card_take_sort] at positive
  omega

theorem take_subset_above (member : item ∈ (items.sort (· ≥ ·)).drop count) :
    ((items.sort (· ≥ ·)).take count).toFinset ⊆ above items item := by
  intro other early
  have inTake := List.mem_toFinset.mp early
  have inItems := (Finset.mem_sort (· ≥ ·)).mp (List.mem_of_mem_take inTake)
  have descending := items.pairwise_sort (· ≥ ·)
  rw [← List.take_append_drop count (items.sort (· ≥ ·))] at descending
  have atMost : item ≤ other :=
    (List.pairwise_append.mp descending).2.2 other inTake item member
  have distinct := items.sort_nodup (· ≥ ·)
  rw [← List.take_append_drop count (items.sort (· ≥ ·))] at distinct
  have apart : other ≠ item := by
    rintro rfl
    exact (List.disjoint_of_nodup_append distinct) inTake member
  exact Finset.mem_filter.mpr ⟨inItems, lt_of_le_of_ne atMost apart.symm⟩

theorem card_above_of_drop (member : item ∈ (items.sort (· ≥ ·)).drop count) :
    count ≤ (above items item).card := by
  have more := Finset.card_le_card (take_subset_above member)
  have long := List.length_pos_of_mem member
  rw [List.length_drop, Finset.length_sort] at long
  rw [card_take_sort] at more
  omega

/-- What is left behind the first `count` of the list is not among the greatest. -/
theorem mem_drop_sort :
    item ∈ (items.sort (· ≥ ·)).drop count ↔
      item ∈ items ∧ item ∉ greatest count items := by
  constructor
  · intro member
    refine ⟨(Finset.mem_sort (· ≥ ·)).mp (List.mem_of_mem_drop member), ?_⟩
    intro isGreatest
    have fewer := (Finset.mem_filter.mp isGreatest).2
    exact absurd fewer (card_above_of_drop member).not_gt
  · rintro ⟨inItems, notGreatest⟩
    have sorted := (Finset.mem_sort (· ≥ ·)).mpr inItems
    rw [← List.take_append_drop count (items.sort (· ≥ ·))] at sorted
    cases List.mem_append.mp sorted with
    | inl early =>
        exact absurd
          (Finset.mem_filter.mpr ⟨inItems, card_above_of_take early⟩)
          notGreatest
    | inr late => exact late

theorem greatest_eq_take :
    greatest count items = ((items.sort (· ≥ ·)).take count).toFinset := by
  ext item
  rw [List.mem_toFinset]
  constructor
  · intro isGreatest
    have sorted := (Finset.mem_sort (· ≥ ·)).mpr (greatest_subset isGreatest)
    rw [← List.take_append_drop count (items.sort (· ≥ ·))] at sorted
    cases List.mem_append.mp sorted with
    | inl early => exact early
    | inr late => exact absurd isGreatest (mem_drop_sort.mp late).2
  · intro early
    have inItems := (Finset.mem_sort (· ≥ ·)).mp (List.mem_of_mem_take early)
    exact Finset.mem_filter.mpr ⟨inItems, card_above_of_take early⟩

theorem card_greatest (count : ℕ) (items : Finset α) :
    (greatest count items).card = min count items.card := by
  rw [greatest_eq_take, card_take_sort]

theorem greatest_eq_self (few : items.card ≤ count) :
    greatest count items = items := by
  apply Finset.eq_of_subset_of_card_le greatest_subset
  rw [card_greatest]
  omega

end Greatest
