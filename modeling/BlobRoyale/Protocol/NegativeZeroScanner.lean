import BlobRoyale.Library.JsonTexts

/-!
# The negative-zero scanner

The pass over an encoded frame that looks for a number token whose mantissa is a negative zero. On a
JSON text it starts one turn at each number outside the string literals, up to the first such token.
-/

namespace BlobRoyale.Protocol.NegativeZeroScanner

open JsonTexts

/-- The loop over a number's integer and fraction digits: where it ends, and whether one was not zero. -/
def mantissa (encoded : List Char) (numberEnd : Nat) (nonzeroMantissa : Bool) : Nat × Bool :=
  if inside : numberEnd < encoded.length then
    let digit := encoded[numberEnd]
    if digit = '.' then mantissa encoded (numberEnd + 1) nonzeroMantissa
    else if digit < '0' ∨ '9' < digit then (numberEnd, nonzeroMantissa)
    else mantissa encoded (numberEnd + 1) (nonzeroMantissa || digit != '0')
  else (numberEnd, nonzeroMantissa)
  termination_by encoded.length - numberEnd

def digitsEnd (encoded : List Char) (numberEnd : Nat) : Nat :=
  if inside : numberEnd < encoded.length then
    if '0' ≤ encoded[numberEnd] ∧ encoded[numberEnd] ≤ '9' then digitsEnd encoded (numberEnd + 1)
    else numberEnd
  else numberEnd
  termination_by encoded.length - numberEnd

/-- Past the exponent that starts here, if one does. -/
def exponentEnd (encoded : List Char) (numberEnd : Nat) : Nat :=
  match encoded[numberEnd]? with
  | none => numberEnd
  | some mark =>
      if mark = 'e' ∨ mark = 'E' then
        match encoded[numberEnd + 1]? with
        | none => numberEnd + 1
        | some sign =>
            if sign = '+' ∨ sign = '-' then digitsEnd encoded (numberEnd + 2)
            else digitsEnd encoded (numberEnd + 1)
      else numberEnd

/-- The loop's variables, with the indices at which it has begun a number. -/
structure Cursor where
  index : Nat
  insideString : Bool
  visited : List Nat

/-- How one turn of the loop ends. -/
inductive Turn where
  | ended
  | found
  | next (cursor : Cursor)

def turn (encoded : List Char) (cursor : Cursor) : Turn :=
  match encoded[cursor.index]? with
  | none => .ended
  | some character =>
      if cursor.insideString then
        if character = '\\' then .next { cursor with index := cursor.index + 2 }
        else if character = '"' then .next { cursor with index := cursor.index + 1, insideString := false }
        else .next { cursor with index := cursor.index + 1 }
      else if character = '"' then .next { cursor with index := cursor.index + 1, insideString := true }
      else if character ≠ '-' ∧ (character < '0' ∨ '9' < character) then
        .next { cursor with index := cursor.index + 1 }
      else
        let digits := mantissa encoded (if character = '-' then cursor.index + 1 else cursor.index) false
        if character = '-' ∧ digits.2 = false then .found
        else .next ⟨exponentEnd encoded digits.1, false, cursor.visited ++ [cursor.index]⟩

/-- The loop, with the numbers it has begun; nothing when the turns run out first. -/
def scan (encoded : List Char) : Nat → Cursor → Option (Bool × List Nat)
  | 0, _ => none
  | turns + 1, cursor =>
      match turn encoded cursor with
      | .ended => some (false, cursor.visited)
      | .found => some (true, cursor.visited ++ [cursor.index])
      | .next cursor => scan encoded turns cursor

/-- The scan's answer, within one turn more than the text has characters. -/
def hasNegativeZeroToken (encoded : List Char) : Option (Bool × List Nat) :=
  scan encoded (encoded.length + 1) ⟨0, false, []⟩

section Termination

variable {encoded : List Char}

theorem mantissa_le (numberEnd : Nat) (nonzeroMantissa : Bool) :
    numberEnd ≤ (mantissa encoded numberEnd nonzeroMantissa).1 := by
  fun_induction mantissa encoded numberEnd nonzeroMantissa with
  | case1 numberEnd nonzero inside digit point ih => omega
  | case2 numberEnd nonzero inside digit point other => exact Nat.le_refl _
  | case3 numberEnd nonzero inside digit point other ih => omega
  | case4 numberEnd nonzero outside => exact Nat.le_refl _

theorem digitsEnd_le (numberEnd : Nat) : numberEnd ≤ digitsEnd encoded numberEnd := by
  fun_induction digitsEnd encoded numberEnd with
  | case1 numberEnd inside digit ih => omega
  | case2 numberEnd inside other => exact Nat.le_refl _
  | case3 numberEnd outside => exact Nat.le_refl _

theorem exponentEnd_le (numberEnd : Nat) : numberEnd ≤ exponentEnd encoded numberEnd := by
  have skipped := @digitsEnd_le encoded (numberEnd + 1)
  have signed := @digitsEnd_le encoded (numberEnd + 2)
  unfold exponentEnd
  split
  · exact Nat.le_refl _
  · split
    · split
      · omega
      · split <;> omega
    · exact Nat.le_refl _

theorem mantissa_digit {index : Nat} {character : Char} (found : encoded[index]? = some character)
    (digit : ¬ (character < '0' ∨ '9' < character)) : index + 1 ≤ (mantissa encoded index false).1 := by
  obtain ⟨inside, rfl⟩ := List.getElem?_eq_some_iff.mp found
  rw [mantissa, dif_pos inside]
  dsimp only
  split
  · exact mantissa_le _ _
  · exact mantissa_le _ _

theorem turn_advances {cursor next : Cursor} (goes : turn encoded cursor = .next next) :
    cursor.index < encoded.length ∧ cursor.index < next.index := by
  unfold turn at goes
  split at goes
  · cases goes
  next character found =>
    refine ⟨(List.getElem?_eq_some_iff.mp found).1, ?_⟩
    split at goes
    · split at goes
      · cases goes
        dsimp only
        omega
      · split at goes <;> cases goes <;> exact Nat.lt_succ_self _
    · split at goes
      · cases goes
        exact Nat.lt_succ_self _
      · split at goes
        · cases goes
          exact Nat.lt_succ_self _
        · next number =>
          have begun : cursor.index + 1 ≤
              (mantissa encoded (if character = '-' then cursor.index + 1 else cursor.index) false).1 := by
            split
            · exact mantissa_le _ _
            · next positive => exact mantissa_digit found fun other => number ⟨positive, other⟩
          dsimp only at goes
          generalize mantissa encoded (if character = '-' then cursor.index + 1 else cursor.index) false =
            digits at goes begun
          split at goes
          · cases goes
          · cases goes
            exact Nat.lt_of_lt_of_le begun (exponentEnd_le _)

/-- What the loop answers from a cursor on. -/
inductive Answers (encoded : List Char) : Cursor → Bool × List Nat → Prop where
  | ended {cursor : Cursor} : turn encoded cursor = .ended →
      Answers encoded cursor (false, cursor.visited)
  | found {cursor : Cursor} : turn encoded cursor = .found →
      Answers encoded cursor (true, cursor.visited ++ [cursor.index])
  | next {cursor next : Cursor} {result : Bool × List Nat} : turn encoded cursor = .next next →
      Answers encoded next result → Answers encoded cursor result

theorem scan_eq {cursor : Cursor} {result : Bool × List Nat} (answers : Answers encoded cursor result) :
    ∀ {turns : Nat}, encoded.length - cursor.index < turns → scan encoded turns cursor = some result := by
  induction answers with
  | ended ends =>
    intro turns enough
    cases turns with
    | zero => exact absurd enough (Nat.not_lt_zero _)
    | succ turns => rw [scan, ends]
  | found finds =>
    intro turns enough
    cases turns with
    | zero => exact absurd enough (Nat.not_lt_zero _)
    | succ turns => rw [scan, finds]
  | next goes _ ih =>
    intro turns enough
    have advances := turn_advances goes
    cases turns with
    | zero => exact absurd enough (Nat.not_lt_zero _)
    | succ turns =>
      rw [scan, goes]
      exact ih (by omega)

theorem answers_exist (encoded : List Char) (cursor : Cursor) : ∃ result, Answers encoded cursor result := by
  cases goes : turn encoded cursor with
  | ended => exact ⟨_, .ended goes⟩
  | found => exact ⟨_, .found goes⟩
  | next next =>
    have advances := turn_advances goes
    obtain ⟨result, answers⟩ := answers_exist encoded next
    exact ⟨result, .next goes answers⟩
  termination_by encoded.length - cursor.index

theorem hasNegativeZeroToken_eq {result : Bool × List Nat} (answers : Answers encoded ⟨0, false, []⟩ result) :
    hasNegativeZeroToken encoded = some result := scan_eq answers (Nat.lt_succ_of_le (Nat.sub_le _ _))

end Termination

end BlobRoyale.Protocol.NegativeZeroScanner
