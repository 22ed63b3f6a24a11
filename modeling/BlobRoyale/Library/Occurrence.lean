import Mathlib.Data.List.Infix
import Mathlib.Data.Nat.Find

/-!
# Where a pattern stands in a text

A pattern stands at a position when what is left of the text from there begins with it. A text that lacks a
pattern overlaps it at its end, and that overlap is all an extension can use of it.
-/

namespace Occurrence

variable {α : Type*}

/-- The pattern stands in the text at a position. -/
def OccursAt (pattern text : List α) (position : Nat) : Prop := pattern <+: text.drop position

section Positions

variable {pattern text more : List α} {position : Nat}

theorem OccursAt.within (occurs : OccursAt pattern text position) (proper : pattern ≠ []) :
    position + pattern.length ≤ text.length := by
  have fits := occurs.length_le
  have positive := List.length_pos_iff.mpr proper
  rw [List.length_drop] at fits
  omega

theorem OccursAt.append (occurs : OccursAt pattern text position) (proper : pattern ≠ []) :
    OccursAt pattern (text ++ more) position := by
  have fits := occurs.within proper
  unfold OccursAt
  rw [List.drop_append_of_le_length (by omega)]
  exact occurs.trans (List.prefix_append _ _)

theorem OccursAt.of_append (occurs : OccursAt pattern (text ++ more) position)
    (fits : position + pattern.length ≤ text.length) : OccursAt pattern text position := by
  unfold OccursAt at occurs
  rw [List.drop_append_of_le_length (by omega)] at occurs
  refine List.prefix_of_prefix_length_le occurs (List.prefix_append _ _) ?_
  rw [List.length_drop]
  omega

theorem occursAt_take {count : Nat} (proper : pattern ≠ []) :
    OccursAt pattern (text.take count) position ↔
      OccursAt pattern text position ∧ position + pattern.length ≤ count := by
  constructor
  · intro occurs
    have fits := occurs.within proper
    rw [List.length_take] at fits
    refine ⟨?_, by omega⟩
    rw [← List.take_append_drop count text]
    exact occurs.append proper
  · rintro ⟨occurs, fits⟩
    have inside := occurs.within proper
    rw [← List.take_append_drop count text] at occurs
    refine occurs.of_append ?_
    rw [List.length_take]
    omega

theorem OccursAt.getElem? (occurs : OccursAt pattern text position) {index : Nat} (bound : index < pattern.length) :
    text[position + index]? = pattern[index]? := by
  have same := List.prefix_iff_getElem?.mp occurs index bound
  rw [List.getElem?_drop] at same
  rw [same, List.getElem?_eq_getElem bound]

end Positions

variable [DecidableEq α]

def first (pattern : List α) : List α → Option Nat
  | [] => if pattern.isPrefixOf [] then some 0 else none
  | symbol :: rest => if pattern.isPrefixOf (symbol :: rest) then some 0 else (first pattern rest).map (· + 1)

/-- Where a pattern stands first in a text from a position on. -/
def find (text pattern : List α) (position : Nat) : Option Nat :=
  (first pattern (text.drop position)).map (position + ·)

variable {pattern text more : List α} {position : Nat}

theorem first_eq_some {found : Nat} (here : first pattern text = some found) :
    OccursAt pattern text found ∧ ∀ earlier < found, ¬ OccursAt pattern text earlier := by
  induction text generalizing found with
  | nil =>
    rw [first] at here
    split at here
    · next stands =>
      cases here
      exact ⟨List.isPrefixOf_iff_prefix.mp stands, fun _ impossible => absurd impossible (Nat.not_lt_zero _)⟩
    · cases here
  | cons symbol rest ih =>
    rw [first] at here
    split at here
    · next stands =>
      cases here
      exact ⟨List.isPrefixOf_iff_prefix.mp stands, fun _ impossible => absurd impossible (Nat.not_lt_zero _)⟩
    · next differs =>
      obtain ⟨next, later, rfl⟩ := Option.map_eq_some_iff.mp here
      obtain ⟨stands, least⟩ := ih later
      refine ⟨stands, fun earlier before => ?_⟩
      cases earlier with
      | zero => exact fun stands => differs (List.isPrefixOf_iff_prefix.mpr stands)
      | succ earlier => exact least earlier (Nat.lt_of_succ_lt_succ before)

theorem first_eq_none (nowhere : first pattern text = none) : ∀ position, ¬ OccursAt pattern text position := by
  induction text with
  | nil =>
    rw [first] at nowhere
    split at nowhere
    · cases nowhere
    · next differs =>
      intro position stands
      unfold OccursAt at stands
      rw [List.drop_nil] at stands
      exact differs (List.isPrefixOf_iff_prefix.mpr stands)
  | cons symbol rest ih =>
    rw [first] at nowhere
    split at nowhere
    · cases nowhere
    · next differs =>
      intro position stands
      cases position with
      | zero => exact differs (List.isPrefixOf_iff_prefix.mpr stands)
      | succ position => exact ih (Option.map_eq_none_iff.mp nowhere) position stands

theorem find_eq_some {found : Nat} (here : find text pattern position = some found) :
    position ≤ found ∧ OccursAt pattern text found ∧
      ∀ earlier, position ≤ earlier → earlier < found → ¬ OccursAt pattern text earlier := by
  obtain ⟨offset, located, rfl⟩ := Option.map_eq_some_iff.mp here
  obtain ⟨stands, least⟩ := first_eq_some located
  unfold OccursAt at stands least
  rw [List.drop_drop] at stands
  refine ⟨Nat.le_add_right _ _, stands, fun earlier after before => ?_⟩
  have missed := least (earlier - position) (by omega)
  rw [List.drop_drop, Nat.add_sub_cancel' after] at missed
  exact missed

theorem find_eq_none (nowhere : find text pattern position = none) {later : Nat} (after : position ≤ later) :
    ¬ OccursAt pattern text later := by
  have missed := first_eq_none (Option.map_eq_none_iff.mp nowhere) (later - position)
  unfold OccursAt at missed
  rw [List.drop_drop, Nat.add_sub_cancel' after] at missed
  exact missed

theorem find_of_least {found : Nat} (stands : OccursAt pattern text found)
    (least : ∀ earlier < found, ¬ OccursAt pattern text earlier) : find text pattern 0 = some found := by
  cases located : find text pattern 0 with
  | none => exact absurd stands (find_eq_none located (Nat.zero_le _))
  | some other =>
    obtain ⟨-, here, missed⟩ := find_eq_some located
    obtain before | same | beyond := lt_trichotomy other found
    · exact absurd here (least other before)
    · rw [same]
    · exact absurd stands (missed found (Nat.zero_le _) beyond)

theorem find_append {found : Nat} (here : find text pattern 0 = some found) (proper : pattern ≠ []) :
    find (text ++ more) pattern 0 = some found := by
  obtain ⟨-, stands, missed⟩ := find_eq_some here
  have fits := stands.within proper
  refine find_of_least (stands.append proper) fun earlier before occurs => ?_
  exact missed earlier (Nat.zero_le _) before (occurs.of_append (by omega))

section Overlap

def overlap (pattern text : List α) : Nat := Nat.findGreatest (fun count => pattern.take count <:+ text) pattern.length

theorem overlap_le (pattern text : List α) : overlap pattern text ≤ pattern.length := Nat.findGreatest_le _

theorem overlap_suffix (pattern text : List α) : pattern.take (overlap pattern text) <:+ text := by
  refine Nat.findGreatest_spec (P := fun count => pattern.take count <:+ text) (Nat.zero_le _) ?_
  rw [List.take_zero]
  exact List.nil_suffix

theorem le_overlap {count : Nat} (bound : count ≤ pattern.length) (ends : pattern.take count <:+ text) :
    count ≤ overlap pattern text := Nat.le_findGreatest bound ends

/-- No extension of a text that lacks a pattern completes it sooner than the rest of the overlap does. -/
theorem OccursAt.overlap_bound (occurs : OccursAt pattern (text ++ more) position)
    (lacks : ∀ position, ¬ OccursAt pattern text position) :
    text.length + (pattern.length - overlap pattern text) ≤ position + pattern.length := by
  by_cases beyond : text.length ≤ position
  · omega
  have crosses : text.length < position + pattern.length := by
    by_contra inside
    exact lacks position (occurs.of_append (by omega))
  have ends : pattern.take (text.length - position) <:+ text := by
    unfold OccursAt at occurs
    rw [List.drop_append_of_le_length (by omega)] at occurs
    have begins := (List.take_prefix (text.length - position) pattern).trans occurs
    have shorter : (pattern.take (text.length - position)).length = (text.drop position).length := by
      rw [List.length_take, List.length_drop]
      omega
    have same := List.prefix_of_prefix_length_le begins (List.prefix_append _ _) shorter.le
    rw [same.eq_of_length shorter]
    exact List.drop_suffix _ _
  have most := le_overlap (by omega) ends
  have bound := overlap_le pattern text
  omega

theorem find_completion (lacks : ∀ position, ¬ OccursAt pattern text position) :
    find (text ++ pattern.drop (overlap pattern text)) pattern 0 =
      some (text.length - overlap pattern text) := by
  have fits := (overlap_suffix pattern text).length_le
  have bound := overlap_le pattern text
  rw [List.length_take, min_eq_left bound] at fits
  refine find_of_least ?_ fun earlier before occurs => ?_
  · unfold OccursAt
    obtain ⟨lead, parts⟩ := overlap_suffix pattern text
    generalize overlap pattern text = size at parts fits bound ⊢
    have length : text.length - size = lead.length := by
      rw [← parts, List.length_append, List.length_take, min_eq_left bound, Nat.add_sub_cancel]
    rw [length, ← parts, List.append_assoc, List.take_append_drop, List.drop_left]
  · have most := occurs.overlap_bound lacks
    omega

end Overlap

end Occurrence
