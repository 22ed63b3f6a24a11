import Mathlib.Order.Lattice
import Mathlib.Tactic.Ring

/-!
# Packed triangular index

The position of an ordered pair of distinct members of `0 .. count - 1` among all of them, row by row.
-/

namespace TriangularIndex

variable {count lower higher lower' higher' : Nat}

/-- How many pairs have an earlier lower member. -/
def preceding (count lower : Nat) : Nat := lower * (2 * count - lower - 1) / 2

def index (count lower higher : Nat) : Nat := preceding count lower + (higher - lower - 1)

theorem preceding_succ (within : lower < count) :
    preceding count (lower + 1) = preceding count lower + (count - lower - 1) := by
  obtain ⟨rest, rfl⟩ := Nat.exists_eq_add_of_lt within
  have before : 2 * (lower + rest + 1) - lower - 1 = lower + 1 + 2 * rest := by omega
  have after : 2 * (lower + rest + 1) - (lower + 1) - 1 = lower + 2 * rest := by omega
  have remaining : lower + rest + 1 - lower - 1 = rest := by omega
  have doubled : (lower + 1) * (lower + 2 * rest) = lower * (lower + 1 + 2 * rest) + 2 * rest := by ring
  rw [preceding, preceding, before, after, remaining, doubled, Nat.add_mul_div_left _ _ Nat.two_pos]

theorem preceding_mono (ordered : lower ≤ higher) (within : higher ≤ count) :
    preceding count lower ≤ preceding count higher := by
  induction higher, ordered using Nat.le_induction with
  | base => exact le_rfl
  | succ middle _ ih =>
    rw [preceding_succ within]
    exact (ih (Nat.le_of_succ_le within)).trans (Nat.le_add_right _ _)

theorem index_lt_preceding (ordered : lower < higher) (within : higher < count) :
    index count lower higher < preceding count (lower + 1) := by
  rw [preceding_succ (ordered.trans within), index]
  omega

theorem index_lt (ordered : lower < higher) (within : higher < count) :
    index count lower higher < count * (count - 1) / 2 := by
  have all : preceding count count = count * (count - 1) / 2 := by
    rw [preceding, two_mul, Nat.add_sub_cancel]
  rw [← all]
  exact (index_lt_preceding ordered within).trans_le (preceding_mono (ordered.trans within) le_rfl)

theorem index_lt_of_lower_lt (ordered : lower < higher) (within : higher < count) (earlier : lower < lower')
    (within' : lower' ≤ count) : index count lower higher < index count lower' higher' :=
  (index_lt_preceding ordered within).trans_le
    ((preceding_mono earlier within').trans (Nat.le_add_right _ _))

theorem index_injective (ordered : lower < higher) (within : higher < count) (ordered' : lower' < higher')
    (within' : higher' < count) (same : index count lower higher = index count lower' higher') :
    lower = lower' ∧ higher = higher' := by
  obtain earlier | rfl | later := Nat.lt_trichotomy lower lower'
  · exact absurd same (index_lt_of_lower_lt ordered within earlier (ordered'.trans within').le).ne
  · refine ⟨rfl, ?_⟩
    have offsets := Nat.add_left_cancel same
    omega
  · exact absurd same (index_lt_of_lower_lt ordered' within' later (ordered.trans within).le).ne'

end TriangularIndex
