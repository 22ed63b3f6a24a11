import Mathlib.Data.List.Basic
import Mathlib.Data.List.Pairwise
import Mathlib.Order.Lattice
import Mathlib.Data.List.Perm.Subperm
import Mathlib.Data.List.Sort

/-!
# Extremes of what was added

Of the values added to it a list keeps the least and the greatest. For a set that a third member would make an
interval, that says all there is to say.
-/

namespace Extremes

variable {T : Type*} [LinearOrder T] {added other : T → Prop} {kept : List T}

inductive Keeps (added : T → Prop) : List T → Prop
  | none (nothing : ∀ value, ¬ added value) : Keeps added []
  | one (only : T) (member : added only) (all : ∀ value, added value → value = only) : Keeps added [only]
  | two (first last : T) (ordered : first < last) (low : added first) (high : added last)
      (all : ∀ value, added value → first ≤ value ∧ value ≤ last) : Keeps added [first, last]

/-- The list is the set, or the two ends of an interval the set is. -/
structure Describes (kept : List T) (members : T → Prop) : Prop where
  ascending : kept.Pairwise (· < ·)
  exact : (∀ value, members value ↔ value ∈ kept) ∨
    ∃ first last, kept = [first, last] ∧ ∀ value, members value ↔ first ≤ value ∧ value ≤ last

theorem Keeps.congr (keeps : Keeps added kept) (same : ∀ value, added value ↔ other value) : Keeps other kept := by
  have equal : added = other := funext fun value => propext (same value)
  exact equal ▸ keeps

theorem Keeps.ascending (keeps : Keeps added kept) : kept.Pairwise (· < ·) := by
  cases keeps with
  | none => exact .nil
  | one => exact List.pairwise_singleton _ _
  | two first last ordered => exact List.pairwise_pair.mpr ordered

theorem Keeps.subset (keeps : Keeps added kept) {value : T} (member : value ∈ kept) : added value := by
  cases keeps with
  | none => cases member
  | one only here => exact List.mem_singleton.mp member ▸ here
  | two first last ordered low high =>
    obtain rfl | rfl := List.mem_pair.mp member
    · exact low
    · exact high

theorem Keeps.mem_iff (keeps : Keeps added kept)
    (few : ∀ low middle high, added low → added middle → added high → low < middle → middle < high → False)
    (value : T) : value ∈ kept ↔ added value := by
  refine ⟨keeps.subset, fun member => ?_⟩
  cases keeps with
  | none nothing => exact absurd member (nothing value)
  | one only here all => exact List.mem_singleton.mpr (all value member)
  | two first last ordered low high all =>
    obtain ⟨after, before⟩ := all value member
    obtain same | later := eq_or_lt_of_le after
    · exact List.mem_pair.mpr (.inl same.symm)
    · obtain same | sooner := eq_or_lt_of_le before
      · exact List.mem_pair.mpr (.inr same)
      · exact (few first value last low member high later sooner).elim

/-- What bounds every member on both sides describes them, where three of them leave no gap between. -/
theorem Keeps.describes {members : T → Prop} (keeps : Keeps added kept) (sound : ∀ value, added value → members value)
    (bounded : ∀ value, members value → ∃ low high, added low ∧ added high ∧ low ≤ value ∧ value ≤ high)
    (gapless : ∀ low middle high, members low → members middle → members high → low < middle → middle < high →
      ∀ value, low ≤ value → value ≤ high → members value) : Describes kept members := by
  refine ⟨keeps.ascending, ?_⟩
  cases keeps with
  | none nothing =>
    refine .inl fun value => ⟨fun member => ?_, fun impossible => absurd impossible List.not_mem_nil⟩
    obtain ⟨low, -, here, -⟩ := bounded value member
    exact absurd here (nothing low)
  | one only here all =>
    refine .inl fun value => ⟨fun member => ?_, fun member => List.mem_singleton.mp member ▸ sound only here⟩
    obtain ⟨low, high, atLow, atHigh, after, before⟩ := bounded value member
    rw [all low atLow] at after
    rw [all high atHigh] at before
    exact List.mem_singleton.mpr (le_antisymm before after)
  | two first last ordered low high all =>
    have within : ∀ value, members value → first ≤ value ∧ value ≤ last := by
      intro value member
      obtain ⟨least, greatest, atLeast, atGreatest, after, before⟩ := bounded value member
      exact ⟨le_trans (all least atLeast).1 after, le_trans before (all greatest atGreatest).2⟩
    by_cases between : ∃ middle, members middle ∧ first < middle ∧ middle < last
    · obtain ⟨middle, member, after, before⟩ := between
      refine .inr ⟨first, last, rfl, fun value => ⟨within value, fun inside => ?_⟩⟩
      exact gapless first middle last (sound first low) member (sound last high) after before value inside.1 inside.2
    · refine .inl fun value => ⟨fun member => ?_, fun member => ?_⟩
      · obtain ⟨after, before⟩ := within value member
        obtain same | later := eq_or_lt_of_le after
        · exact List.mem_pair.mpr (.inl same.symm)
        · obtain same | sooner := eq_or_lt_of_le before
          · exact List.mem_pair.mpr (.inr same)
          · exact absurd ⟨value, member, later, sooner⟩ between
      · obtain rfl | rfl := List.mem_pair.mp member
        · exact sound _ low
        · exact sound _ high

theorem Describes.subset {members : T → Prop} (describes : Describes kept members) {value : T} (member : value ∈ kept) :
    members value := by
  obtain exact | ⟨first, last, rfl, interval⟩ := describes.exact
  · exact (exact value).mpr member
  · have ordered : first < last := List.pairwise_pair.mp describes.ascending
    obtain rfl | rfl := List.mem_pair.mp member
    · exact (interval _).mpr ⟨le_refl _, ordered.le⟩
    · exact (interval _).mpr ⟨ordered.le, le_refl _⟩

theorem Describes.least_mem {members : T → Prop} (describes : Describes kept members) {value : T} (member : members value)
    (least : ∀ other, members other → value ≤ other) : value ∈ kept := by
  obtain exact | ⟨first, last, rfl, interval⟩ := describes.exact
  · exact (exact value).mp member
  · have ordered : first < last := List.pairwise_pair.mp describes.ascending
    have bound := least first ((interval first).mpr ⟨le_refl _, ordered.le⟩)
    exact List.mem_pair.mpr (.inl (le_antisymm bound ((interval value).mp member).1))

theorem Describes.greatest_mem {members : T → Prop} (describes : Describes kept members) {value : T}
    (member : members value) (greatest : ∀ other, members other → other ≤ value) : value ∈ kept := by
  obtain exact | ⟨first, last, rfl, interval⟩ := describes.exact
  · exact (exact value).mp member
  · have ordered : first < last := List.pairwise_pair.mp describes.ascending
    have bound := greatest last ((interval last).mpr ⟨ordered.le, le_refl _⟩)
    exact List.mem_pair.mpr (.inr (le_antisymm ((interval value).mp member).2 bound))

end Extremes

/-!
# The least of what was offered

Of the elements offered one after the other a bounded list keeps the least under a key, in ascending order. With
distinct keys what it keeps depends on what was offered alone, not on the order of the offers.
-/

namespace LeastKept

variable {α κ : Type*} [LinearOrder κ] {key : α → κ} {width : Nat} {offered kept : List α}

structure Least (key : α → κ) (width : Nat) (offered kept : List α) : Prop where
  ascending : kept.Pairwise fun first second => key first < key second
  subset : ∀ element ∈ kept, element ∈ offered
  size : kept.length = min width offered.length
  beyond : ∀ element ∈ offered, element ∉ kept → ∀ least ∈ kept, key least < key element

theorem Least.nil (key : α → κ) (width : Nat) : Least key width [] [] :=
  ⟨.nil, fun _ member => member, (min_eq_right (Nat.zero_le _)).symm, fun _ member => nomatch member⟩

theorem Least.insert {before after : List α} {next : α} (least : Least key width offered (before ++ after))
    (lower : ∀ element ∈ before, key element < key next) (upper : ∀ element ∈ after, key next < key element) :
    Least key width (offered ++ [next]) ((before ++ next :: after).take width) := by
  have full : (before ++ next :: after).length = (before ++ after).length + 1 := by
    rw [List.length_append, List.length_append, List.length_cons, Nat.add_assoc]
  have chain : (before ++ next :: after).Pairwise fun first second => key first < key second := by
    obtain ⟨front, back, across⟩ := List.pairwise_append.mp least.ascending
    refine List.pairwise_append.mpr ⟨front, List.pairwise_cons.mpr ⟨upper, back⟩, fun first member second later => ?_⟩
    obtain rfl | later := List.mem_cons.mp later
    · exact lower first member
    · exact across first member second later
  have mem_all : ∀ element, element ∈ before ++ next :: after ↔ element = next ∨ element ∈ before ++ after := by
    intro element
    rw [List.mem_append, List.mem_append, List.mem_cons, or_left_comm]
  refine ⟨chain.sublist (List.take_sublist _ _), fun element member => ?_, ?_, ?_⟩
  · obtain rfl | member := (mem_all element).mp (List.mem_of_mem_take member)
    · exact List.mem_append_right _ (List.mem_singleton_self _)
    · exact List.mem_append_left _ (least.subset element member)
  · have size := least.size
    have more : (offered ++ [next]).length = offered.length + 1 := by simp
    rw [List.length_take, full, more]
    omega
  · intro element member missing small kept
    by_cases present : element ∈ before ++ next :: after
    · -- It was pushed out, so it comes after everything that is kept.
      rw [← List.take_append_drop width (before ++ next :: after)] at present chain
      have dropped := (List.mem_append.mp present).resolve_left missing
      exact (List.pairwise_append.mp chain).2.2 small kept element dropped
    · rw [mem_all, not_or] at present
      have old : element ∈ offered := by
        obtain old | new := List.mem_append.mp member
        · exact old
        · exact absurd (List.mem_singleton.mp new) present.1
      have beyond := least.beyond element old present.2
      obtain rfl | member := (mem_all small).mp (List.mem_of_mem_take kept)
      · -- Something was left out before, so the list is full and its last one is pushed out.
        have crowded : width ≤ (before ++ after).length := by
          by_contra room
          have size := least.size
          have all : (before ++ after).length = offered.length := by omega
          have sub : List.Subperm (before ++ after) offered := by
            refine List.subperm_of_subset ?_ fun element member => least.subset element member
            exact least.ascending.imp fun {first second} less same => (same ▸ less).false
          exact present.2 ((sub.perm_of_length_le all.ge).mem_iff.mpr old)
        cases after with
        | nil =>
          rw [List.append_nil] at crowded
          rw [List.take_append_of_le_length crowded] at kept
          have early := List.mem_of_mem_take kept
          exact absurd (lower small early) (lt_irrefl _)
        | cons greater rest =>
          exact (upper greater List.mem_cons_self).trans
            (beyond greater (List.mem_append_right _ List.mem_cons_self))
      · exact beyond small member

theorem Least.first (key : α → κ) (next : α) : Least key 1 [next] [next] :=
  @Least.insert α κ _ key 1 [] [] [] next (Least.nil key 1) (fun _ member => nomatch member)
    fun _ member => nomatch member

theorem Least.replaced {best next : α} (least : Least key 1 offered [best]) (less : key next < key best) :
    Least key 1 (offered ++ [next]) [next] := by
  refine @Least.insert α κ _ key 1 offered [] [best] next least (fun _ member => nomatch member) ?_
  rintro element member
  rw [List.mem_singleton.mp member]
  exact less

theorem Least.held {best next : α} (least : Least key 1 offered [best]) (less : key best < key next) :
    Least key 1 (offered ++ [next]) [best] := by
  refine @Least.insert α κ _ key 1 offered [best] [] next least ?_ (fun _ member => nomatch member)
  rintro element member
  rw [List.mem_singleton.mp member]
  exact less

theorem Least.unique {reordered other : List α} (least : Least key width offered kept)
    (again : Least key width reordered other) (same : offered.Perm reordered) : kept = other := by
  have nodup : ∀ {elements : List α}, elements.Pairwise (fun first second => key first < key second) →
      elements.Nodup := fun ascending => ascending.imp fun {first second} less same => (same ▸ less).false
  have included : ∀ {offered reordered kept other : List α}, Least key width offered kept →
      Least key width reordered other → offered.Perm reordered → kept ⊆ other := by
    intro offered reordered kept other least again same element member
    by_contra missing
    have before := again.beyond element (same.mem_iff.mp (least.subset element member)) missing
    have inside : other ⊆ kept := by
      intro small present
      by_contra absent
      have after := least.beyond small (same.mem_iff.mpr (again.subset small present)) absent element member
      exact lt_asymm after (before small present)
    have sizes : kept.length = other.length := by rw [least.size, again.size, same.length_eq]
    have all := (List.subperm_of_subset (nodup again.ascending) inside).perm_of_length_le sizes.le
    exact missing (all.mem_iff.mpr member)
  have perm : kept.Perm other :=
    (List.subperm_of_subset (nodup least.ascending) (included least again same)).antisymm
      (List.subperm_of_subset (nodup again.ascending) (included again least same.symm))
  exact perm.eq_of_pairwise (fun first second _ _ less greater => absurd less (lt_asymm greater)) least.ascending
    again.ascending

end LeastKept
