import Mathlib.Algebra.Order.BigOperators.Group.List
import Mathlib.Algebra.Order.Group.Defs

/-!
# Choosing by cumulative weight

Items laid end to end, each as long as its weight: every sample below the total lies within one item.
-/

namespace CumulativeChoice

variable {α K : Type} [AddCommGroup K] {weight : α → K} {items : List α}
  {first second index : Nat} {sample : K}

def before (weight : α → K) (items : List α) (index : Nat) : K := ((items.take index).map weight).sum

theorem before_zero : before weight items 0 = 0 := by simp [before]

theorem before_cons (item : α) (rest : List α) (index : Nat) :
    before weight (item :: rest) (index + 1) = weight item + before weight rest index := by
  simp [before]

theorem before_succ (below : index < items.length) :
    before weight items (index + 1) = before weight items index + weight items[index] := by
  rw [before, List.take_add_one, List.getElem?_eq_getElem below, List.map_append, List.sum_append]
  simp [before]

variable [LinearOrder K]

/-- The sample lies within the item at an index. -/
def Within (weight : α → K) (items : List α) (sample : K) (index : Nat) : Prop :=
  index < items.length ∧ before weight items index ≤ sample ∧ sample < before weight items (index + 1)

theorem within_cons_zero {item : α} : Within weight (item :: items) sample 0 ↔ 0 ≤ sample ∧ sample < weight item := by
  rw [Within, before_cons, before_zero, before_zero, add_zero]
  exact and_iff_right (Nat.succ_pos _)

variable [IsOrderedAddMonoid K]

theorem before_mono (nonneg : ∀ item ∈ items, 0 ≤ weight item) (ordered : first ≤ second) :
    before weight items first ≤ before weight items second := by
  induction items generalizing first second with
  | nil => simp [before]
  | cons item rest ih =>
    obtain ⟨positive, nonneg⟩ := List.forall_mem_cons.mp nonneg
    cases second with
    | zero => rw [Nat.le_zero.mp ordered]
    | succ second =>
      cases first with
      | zero =>
        have grown := ih nonneg (Nat.zero_le second)
        rw [before_zero] at grown
        rw [before_zero, before_cons]
        exact add_nonneg positive grown
      | succ first =>
        rw [before_cons, before_cons]
        exact add_le_add_right (ih nonneg (Nat.le_of_succ_le_succ ordered)) _

theorem within_unique (nonneg : ∀ item ∈ items, 0 ≤ weight item) (one : Within weight items sample first)
    (other : Within weight items sample second) : first = second := by
  obtain earlier | same | later := lt_trichotomy first second
  · exact absurd (one.2.2.trans_le (before_mono nonneg earlier)) (not_lt.mpr other.2.1)
  · exact same
  · exact absurd (other.2.2.trans_le (before_mono nonneg later)) (not_lt.mpr one.2.1)

theorem exists_within (positive : 0 ≤ sample) (below : sample < (items.map weight).sum) :
    ∃ index, Within weight items sample index := by
  induction items generalizing sample with
  | nil => exact absurd (positive.trans_lt below) (by simp)
  | cons item rest ih =>
    by_cases first : sample < weight item
    · refine ⟨0, Nat.succ_pos _, ?_, ?_⟩
      · rwa [before_zero]
      · rwa [before_cons, before_zero, add_zero]
    · rw [List.map_cons, List.sum_cons, ← sub_lt_iff_lt_add'] at below
      obtain ⟨index, inside, low, high⟩ := ih (sub_nonneg.mpr (not_lt.mp first)) below
      refine ⟨index + 1, Nat.succ_lt_succ inside, ?_, ?_⟩
      · rw [before_cons]
        exact le_sub_iff_add_le'.mp low
      · rw [before_cons]
        exact sub_lt_iff_lt_add'.mp high

theorem before_le_total (nonneg : ∀ item ∈ items, 0 ≤ weight item) (index : Nat) :
    before weight items index ≤ (items.map weight).sum := by
  have whole : before weight items items.length = (items.map weight).sum := by rw [before, List.take_length]
  rw [← whole]
  by_cases inside : index ≤ items.length
  · exact before_mono nonneg inside
  · rw [before, before, List.take_length, List.take_of_length_le (not_le.mp inside).le]

theorem within_cons_succ {item : α} :
    Within weight (item :: items) sample (index + 1) ↔ Within weight items (sample - weight item) index := by
  rw [Within, Within, before_cons, before_cons, List.length_cons, Nat.add_lt_add_iff_right, le_sub_iff_add_le',
    sub_lt_iff_lt_add']

end CumulativeChoice
