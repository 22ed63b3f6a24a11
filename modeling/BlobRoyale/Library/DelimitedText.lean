import Mathlib.Data.List.DropRight

/-!
# Lines, padding and fields of a text

A text is cut into the lines its stops close, a line is trimmed of the padding at its two ends, and a field
is split at its first delimiter. Each cut is described by the text it is put together from again.
-/

namespace DelimitedText

variable {α : Type*}

section Lines

variable [DecidableEq α] {stop : α} {line rest : List α}

/-- The lines of a text: what each stop closes, and the text after the last stop where there is any. -/
def linesOf (stop : α) : List α → List (List α)
  | [] => []
  | next :: rest =>
    if next = stop then [] :: linesOf stop rest
    else
      match linesOf stop rest with
      | [] => [[next]]
      | line :: lines => (next :: line) :: lines

@[simp]
theorem linesOf_nil : linesOf stop [] = [] := rfl

theorem linesOf_closed (open_line : stop ∉ line) :
    linesOf stop (line ++ stop :: rest) = line :: linesOf stop rest := by
  induction line with
  | nil => simp [linesOf]
  | cons next line ih =>
    rw [List.mem_cons, not_or] at open_line
    rw [List.cons_append, linesOf, ih open_line.2, if_neg (Ne.symm open_line.1)]

theorem linesOf_unclosed (open_line : stop ∉ line) (written : line ≠ []) :
    linesOf stop line = [line] := by
  induction line with
  | nil => exact absurd rfl written
  | cons next line ih =>
    rw [List.mem_cons, not_or] at open_line
    rw [linesOf, if_neg (Ne.symm open_line.1)]
    cases line with
    | nil => rfl
    | cons second line => rw [ih open_line.2 (List.cons_ne_nil _ _)]

theorem cut_at_stop (stop : α) (text : List α) :
    stop ∉ text ∨ ∃ line rest, text = line ++ stop :: rest ∧ stop ∉ line := by
  induction text with
  | nil => exact .inl List.not_mem_nil
  | cons next text ih =>
    by_cases stopped : next = stop
    · exact .inr ⟨[], text, by rw [stopped, List.nil_append], List.not_mem_nil⟩
    · obtain unclosed | ⟨line, rest, cut, unclosed⟩ := ih
      · left
        rw [List.mem_cons, not_or]
        exact ⟨Ne.symm stopped, unclosed⟩
      · refine .inr ⟨next :: line, rest, by rw [cut, List.cons_append], ?_⟩
        rw [List.mem_cons, not_or]
        exact ⟨Ne.symm stopped, unclosed⟩

theorem induction_on_lines {motive : List α → Prop} (stop : α)
    (unclosed : ∀ line, stop ∉ line → motive line)
    (closed : ∀ line rest, stop ∉ line → motive rest → motive (line ++ stop :: rest)) (text : List α) :
    motive text := by
  induction size : text.length using Nat.strong_induction_on generalizing text with
  | _ size ih =>
    obtain alone | ⟨line, rest, cut, alone⟩ := cut_at_stop stop text
    · exact unclosed text alone
    · rw [cut]
      refine closed line rest alone (ih rest.length ?_ rest rfl)
      rw [← size, cut, List.length_append, List.length_cons]
      omega

end Lines

section Padding

variable {p : α → Bool} {before core after text : List α}

/-- The text without the padding at its two ends. -/
def trim (p : α → Bool) (text : List α) : List α := (text.dropWhile p).rdropWhile p

def Padding (p : α → Bool) (text : List α) : Prop := ∀ x ∈ text, p x = true

theorem Padding.append (front : Padding p before) (back : Padding p after) : Padding p (before ++ after) := by
  intro x member
  obtain inside | inside := List.mem_append.mp member
  · exact front x inside
  · exact back x inside

/-- A text that neither begins nor ends in padding. -/
def Bare (p : α → Bool) (text : List α) : Prop :=
  (∀ x ∈ text.head?, p x = false) ∧ ∀ x ∈ text.getLast?, p x = false

theorem Bare.nil : Bare p ([] : List α) := by
  constructor <;> intro x atEnd <;> cases atEnd

theorem Bare.append (front : ∀ x ∈ before.head?, p x = false) (back : ∀ x ∈ after.getLast?, p x = false)
    (begun : before ≠ []) (ended : after ≠ []) : Bare p (before ++ core ++ after) := by
  constructor
  · intro x atFront
    rw [List.append_assoc, List.head?_append_of_ne_nil _ begun] at atFront
    exact front x atFront
  · intro x atBack
    rw [List.getLast?_append_of_ne_nil _ ended] at atBack
    exact back x atBack

theorem dropWhile_padded (pads : Padding p before) (front : ∀ x ∈ core.head?, p x = false) :
    (before ++ core).dropWhile p = core := by
  induction before with
  | nil =>
    cases core with
    | nil => rfl
    | cons first core =>
      have bare := front first rfl
      rw [List.nil_append, List.dropWhile_cons_of_neg (by rw [bare]; exact Bool.false_ne_true)]
  | cons first before ih =>
    rw [List.cons_append, List.dropWhile_cons_of_pos (pads first List.mem_cons_self)]
    exact ih fun x member => pads x (List.mem_cons_of_mem _ member)

theorem rdropWhile_padded (pads : Padding p after) (back : ∀ x ∈ core.getLast?, p x = false) :
    (core ++ after).rdropWhile p = core := by
  have reversed : Padding p after.reverse := fun x member => pads x (List.mem_reverse.mp member)
  unfold List.rdropWhile
  rw [List.reverse_append, dropWhile_padded reversed, List.reverse_reverse]
  intro x atFront
  rw [List.head?_reverse] at atFront
  exact back x atFront

theorem trim_padded (pads : Padding p before) (bare : Bare p core) (pads' : Padding p after) :
    trim p (before ++ core ++ after) = core := by
  unfold trim
  cases core with
  | nil =>
    have dropped := @dropWhile_padded _ p _ [] (pads.append pads') (fun x atFront => by cases atFront)
    rw [List.append_nil] at dropped
    rw [List.append_nil, dropped, List.rdropWhile_nil]
  | cons first core =>
    have opened := @dropWhile_padded _ p _ (first :: (core ++ after)) pads bare.1
    rw [List.append_assoc, List.cons_append, opened, ← List.cons_append, rdropWhile_padded pads' bare.2]

theorem rdropWhile_kept {marked : α} (kept : p marked = false) :
    (before ++ marked :: after).rdropWhile p = before ++ marked :: after.rdropWhile p := by
  induction after using List.reverseRecOn with
  | nil => rw [List.rdropWhile_concat_neg _ _ _ (by rw [kept]; exact Bool.false_ne_true), List.rdropWhile_nil]
  | append_singleton after last ih =>
    rw [← List.cons_append, ← List.append_assoc]
    by_cases padded : p last = true
    · rw [List.rdropWhile_concat_pos _ _ _ padded, List.rdropWhile_concat_pos _ _ _ padded, ih]
    · rw [List.rdropWhile_concat_neg _ _ _ padded, List.rdropWhile_concat_neg _ _ _ padded,
        List.append_assoc, List.cons_append]

theorem trim_spec (p : α → Bool) (text : List α) :
    ∃ before after, Padding p before ∧ Padding p after ∧ Bare p (trim p text) ∧
      text = before ++ trim p text ++ after := by
  have back := List.rdropWhile_append_rtakeWhile (p := p) (l := text.dropWhile p)
  refine ⟨text.takeWhile p, (text.dropWhile p).rtakeWhile p, fun x => List.mem_takeWhile_imp,
    fun x => List.mem_rtakeWhile_imp, ⟨?_, ?_⟩, ?_⟩
  · intro x atFront
    have kept : (text.dropWhile p).head? = some x := by
      have trimmed : ((text.dropWhile p).rdropWhile p).head? = some x := atFront
      rw [← back, List.head?_append, trimmed, Option.some_or]
    have refused := List.head?_dropWhile_not p text
    rw [kept] at refused
    exact refused
  · intro x atBack
    have proper : trim p text ≠ [] := by
      intro empty
      rw [empty] at atBack
      cases atBack
    have refused := List.rdropWhile_last_not p (text.dropWhile p) proper
    rw [List.getLast?_eq_some_getLast proper] at atBack
    cases atBack
    exact Bool.not_eq_true _ |>.mp refused
  · unfold trim
    rw [List.append_assoc, back, List.takeWhile_append_dropWhile]

end Padding

section Fields

variable [DecidableEq α] {delimiter : α} {key value : List α}

theorem takeWhile_delimited (free : delimiter ∉ key) :
    (key ++ delimiter :: value).takeWhile (· ≠ delimiter) = key := by
  rw [List.takeWhile_append_of_pos]
  · rw [List.takeWhile_cons_of_neg (by simp), List.append_nil]
  · intro x member
    exact decide_eq_true fun same => free (same ▸ member)

theorem dropWhile_delimited (free : delimiter ∉ key) :
    (key ++ delimiter :: value).dropWhile (· ≠ delimiter) = delimiter :: value := by
  rw [List.dropWhile_append_of_pos]
  · rw [List.dropWhile_cons_of_neg (by simp)]
  · intro x member
    exact decide_eq_true fun same => free (same ▸ member)

end Fields

end DelimitedText
