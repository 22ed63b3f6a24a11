import Mathlib.Data.List.Induction
import Mathlib.Tactic.IntervalCases

/-!
# Decimal texts

A text of digits without a leading zero is the numeral of its value, so every number has one spelling.
-/

namespace DecimalText

variable {text : List Char} {first second : Nat}

theorem toDigits_injective (same : Nat.toDigits 10 first = Nat.toDigits 10 second) : first = second := by
  have values := congrArg (fun digits => Nat.ofDigitChars 10 digits 0) same
  simpa only [Nat.ofDigitChars_ten_toDigits] using values

theorem digitChar_of_isDigit {digit : Char} (isDigit : digit.isDigit = true) :
    digit.toNat - '0'.toNat < 10 ∧ Nat.digitChar (digit.toNat - '0'.toNat) = digit := by
  simp only [Char.isDigit, Bool.and_eq_true, decide_eq_true_eq] at isDigit
  obtain ⟨low, high⟩ := isDigit
  have lower : 48 ≤ digit.toNat := low
  have upper : digit.toNat ≤ 57 := high
  have named : digit = Char.ofNat digit.toNat := (Char.ofNat_toNat digit).symm
  refine ⟨by show digit.toNat - 48 < 10; omega, ?_⟩
  rw [named]
  generalize digit.toNat = code at lower upper
  interval_cases code <;> rfl

theorem value_concat (text : List Char) (digit : Char) :
    Nat.ofDigitChars 10 (text ++ [digit]) 0 = 10 * Nat.ofDigitChars 10 text 0 + (digit.toNat - '0'.toNat) := by
  rw [Nat.ofDigitChars_append, Nat.ofDigitChars_cons, Nat.ofDigitChars_nil]

theorem head_append (rest : List Char) (written : text ≠ []) : (text ++ rest).head? = text.head? := by
  obtain ⟨first, others, rfl⟩ := List.exists_cons_of_ne_nil written
  rfl

/-- A text of digits that does not start with a zero has a positive value and is its numeral. -/
theorem toDigits_value (digits : ∀ digit ∈ text, digit.isDigit = true) (leading : text.head? ≠ some '0')
    (written : text ≠ []) :
    0 < Nat.ofDigitChars 10 text 0 ∧ Nat.toDigits 10 (Nat.ofDigitChars 10 text 0) = text := by
  induction text using List.reverseRecOn with
  | nil => exact absurd rfl written
  | append_singleton text digit ih =>
    obtain ⟨below, named⟩ := digitChar_of_isDigit (digits digit (by simp))
    rw [value_concat]
    by_cases single : text = []
    · subst single
      have nonzero : digit.toNat - '0'.toNat ≠ 0 := by
        intro zero
        rw [zero] at named
        exact leading (by rw [← named]; rfl)
      rw [Nat.ofDigitChars_nil, Nat.mul_zero, Nat.zero_add, Nat.toDigits_of_lt_base below, named]
      exact ⟨Nat.pos_of_ne_zero nonzero, rfl⟩
    · have front : text.head? ≠ some '0' := by
        rwa [head_append _ single] at leading
      obtain ⟨positive, same⟩ := ih (fun other member => digits other (by simp [member])) front single
      refine ⟨by omega, ?_⟩
      rw [← Nat.toDigits_append_toDigits (by omega) positive below, same, Nat.toDigits_of_lt_base below, named]

theorem isDigit_of_mem_toDigits {digit : Char} {value : Nat} (member : digit ∈ Nat.toDigits 10 value) :
    digit.isDigit = true := Nat.isDigit_of_mem_toDigits (by omega) (by omega) member

theorem head_toDigits {value : Nat} (positive : 0 < value) : (Nat.toDigits 10 value).head? ≠ some '0' := by
  induction value using Nat.strong_induction_on with
  | h value ih =>
    rw [Nat.toDigits_eq_if (by omega)]
    split
    · next below =>
      interval_cases value <;> decide
    · next above =>
      rw [head_append _ Nat.toDigits_ne_nil]
      exact ih (value / 10) (Nat.div_lt_self positive (by omega)) (by omega)

end DecimalText
