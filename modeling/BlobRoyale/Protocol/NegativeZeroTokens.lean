import BlobRoyale.Protocol.NegativeZeroScanner

/-!
# The scanner over JSON texts

What the scanner's turns do over each lexeme of a JSON text, and from it what the whole scan answers:
whether some number token is a negative zero.
-/

namespace BlobRoyale.Protocol.NegativeZeroScanner

open JsonTexts

section Digits

variable {character : Char}

theorem isDigit_iff : isDigit character = true ↔ ¬ (character < '0' ∨ '9' < character) := by
  rw [isDigit, decide_eq_true_iff, not_or, Char.not_lt, Char.not_lt]

theorem isDigit_eq_false_iff : isDigit character = false ↔ character < '0' ∨ '9' < character := by
  rw [← Bool.not_eq_true, isDigit_iff, not_not]

theorem not_digit_of_mark {mark : Char} (exponent : mark = 'e' ∨ mark = 'E') :
    isDigit mark = false ∧ mark ≠ '.' := by
  obtain rfl | rfl := exponent <;> decide

theorem digit_ne {other : Char} (digit : isDigit character = true) (not : isDigit other = false) :
    character ≠ other := by
  rintro rfl
  exact absurd digit (Bool.eq_false_iff.mp not)

end Digits

section Loops

variable {before rest run : List Char} {character : Char} {nonzero : Bool}

theorem getElem?_at : (before ++ character :: rest)[before.length]? = some character := by
  rw [List.getElem?_append_right (Nat.le_refl _), Nat.sub_self]
  rfl

theorem getElem_at (inside : before.length < (before ++ character :: rest).length) :
    (before ++ character :: rest)[before.length] = character :=
  Option.some.inj ((List.getElem?_eq_getElem inside).symm.trans getElem?_at)

theorem inside_at : before.length < (before ++ character :: rest).length := by
  rw [List.length_append, List.length_cons]
  omega

theorem mantissa_end : mantissa before before.length nonzero = (before.length, nonzero) := by
  rw [mantissa, dif_neg (Nat.lt_irrefl _)]

theorem mantissa_at : mantissa (before ++ character :: rest) before.length nonzero =
    if character = '.' then mantissa (before ++ character :: rest) (before.length + 1) nonzero
    else if character < '0' ∨ '9' < character then (before.length, nonzero)
    else mantissa (before ++ character :: rest) (before.length + 1) (nonzero || character != '0') := by
  rw [mantissa, dif_pos inside_at]
  simp only [getElem_at]

theorem mantissa_run (digits : ∀ digit ∈ run, isDigit digit = true ∨ digit = '.')
    (stops : ∀ digit ∈ rest.head?, isDigit digit = false ∧ digit ≠ '.') :
    mantissa (before ++ (run ++ rest)) before.length nonzero =
      (before.length + run.length, nonzero || run.any fun digit => digit != '.' && digit != '0') := by
  induction run generalizing before nonzero with
  | nil =>
    rw [List.nil_append, List.any_nil, Bool.or_false, List.length_nil, Nat.add_zero]
    cases rest with
    | nil => rw [List.append_nil, mantissa_end]
    | cons character rest =>
      obtain ⟨other, point⟩ := stops character rfl
      rw [mantissa_at, if_neg point, if_pos (isDigit_eq_false_iff.mp other)]
  | cons character run ih =>
    have later (nonzero : Bool) := @ih (before ++ [character]) nonzero fun digit member =>
      digits digit (List.mem_cons_of_mem _ member)
    simp only [List.append_assoc, List.singleton_append, List.length_append, List.length_singleton] at later
    rw [List.cons_append, mantissa_at, List.any_cons, List.length_cons]
    obtain digit | rfl := digits character List.mem_cons_self
    · have point : character ≠ '.' := digit_ne digit (by decide)
      have differs : (character != '.') = true := by simpa using point
      rw [if_neg point, if_neg (isDigit_iff.mp digit), later, differs, Bool.true_and, Bool.or_assoc]
      congr 1
      omega
    · rw [if_pos rfl, later]
      congr 1
      omega

theorem digitsEnd_end : digitsEnd before before.length = before.length := by
  rw [digitsEnd, dif_neg (Nat.lt_irrefl _)]

theorem digitsEnd_at : digitsEnd (before ++ character :: rest) before.length =
    if '0' ≤ character ∧ character ≤ '9' then digitsEnd (before ++ character :: rest) (before.length + 1)
    else before.length := by
  rw [digitsEnd, dif_pos inside_at]
  simp only [getElem_at]

theorem digitsEnd_run (digits : ∀ digit ∈ run, isDigit digit = true)
    (stops : ∀ digit ∈ rest.head?, isDigit digit = false) :
    digitsEnd (before ++ (run ++ rest)) before.length = before.length + run.length := by
  induction run generalizing before with
  | nil =>
    rw [List.nil_append, List.length_nil, Nat.add_zero]
    cases rest with
    | nil => rw [List.append_nil, digitsEnd_end]
    | cons character rest =>
      have other := stops character rfl
      rw [digitsEnd_at, if_neg fun inside => absurd (decide_eq_true inside) (Bool.eq_false_iff.mp other)]
  | cons character run ih =>
    have later := @ih (before ++ [character]) fun digit member => digits digit (List.mem_cons_of_mem _ member)
    simp only [List.append_assoc, List.singleton_append, List.length_append, List.length_singleton] at later
    rw [List.cons_append, digitsEnd_at, if_pos (of_decide_eq_true (digits character List.mem_cons_self)), later,
      List.length_cons]
    omega

end Loops

/-- Nothing that could go on a number begins the rest. -/
def Stops (rest : List Char) : Prop :=
  ∀ character ∈ rest.head?, isDigit character = false ∧ character ≠ '.' ∧ character ≠ 'e' ∧ character ≠ 'E'

section Numbers

variable {before rest : List Char} {token : NumberToken}

theorem exponentEnd_text (stops : Stops rest) :
    exponentEnd (before ++ (token.exponentText ++ rest)) before.length =
      before.length + token.exponentText.length := by
  rw [NumberToken.exponentText]
  cases token.exponent with
  | none =>
    rw [List.nil_append, List.length_nil, Nat.add_zero, exponentEnd]
    cases rest with
    | nil => rw [List.append_nil, List.getElem?_eq_none (Nat.le_refl _)]
    | cons character rest =>
      obtain ⟨-, -, lower, upper⟩ := stops character rfl
      rw [getElem?_at]
      exact if_neg (not_or.mpr ⟨lower, upper⟩)
  | some exponent =>
    obtain ⟨mark, sign, ⟨digits, nonempty, digit⟩, marked, signed⟩ := exponent
    have ends : ∀ character ∈ rest.head?, isDigit character = false := fun character head =>
      (stops character head).1
    dsimp only [Exponent.text]
    rw [exponentEnd, List.cons_append, getElem?_at]
    dsimp only
    rw [if_pos marked]
    cases sign with
    | none =>
      obtain ⟨first, others, rfl⟩ := List.exists_cons_of_ne_nil nonempty
      have after := @digitsEnd_run (before ++ [mark]) rest (first :: others) digit ends
      have second := @getElem?_at (before ++ [mark]) (others ++ rest) first
      have plus := digit_ne (digit first List.mem_cons_self) (show isDigit '+' = false by decide)
      have minus := digit_ne (digit first List.mem_cons_self) (show isDigit '-' = false by decide)
      simp only [List.append_assoc, List.length_append, List.length_singleton, List.cons_append,
        List.nil_append] at after second
      simp only [Option.toList_none, List.nil_append, List.cons_append, second]
      rw [if_neg (not_or.mpr ⟨plus, minus⟩), after]
      simp only [List.length_cons]
      omega
    | some sign =>
      have after := @digitsEnd_run (before ++ [mark, sign]) rest digits digit ends
      have second := @getElem?_at (before ++ [mark]) (digits ++ rest) sign
      simp only [List.append_assoc, List.length_append, List.cons_append, List.nil_append, List.length_cons,
        List.length_nil] at after second
      simp only [Option.toList_some, List.cons_append, List.nil_append, second]
      rw [if_pos (signed sign rfl), after]
      simp only [List.length_cons]
      omega

theorem exponentText_stops (stops : Stops rest) :
    ∀ digit ∈ (token.exponentText ++ rest).head?, isDigit digit = false ∧ digit ≠ '.' := by
  rw [NumberToken.exponentText]
  cases token.exponent with
  | none => exact fun digit head => ⟨(stops digit head).1, (stops digit head).2.1⟩
  | some exponent =>
    rintro digit head
    cases head
    exact not_digit_of_mark exponent.marked

theorem mantissa_digits : ∀ digit ∈ token.mantissa, isDigit digit = true ∨ digit = '.' := by
  intro digit member
  rw [NumberToken.mantissa, List.mem_append] at member
  obtain whole | part := member
  · exact .inl (token.integer.digits digit whole)
  · rw [NumberToken.fractionText] at part
    split at part
    · cases part
    · next digits fraction =>
      obtain rfl | later := List.mem_cons.mp part
      · exact .inr rfl
      · exact .inl (digits.digits digit later)

theorem mantissa_zero_iff : (token.mantissa.any fun digit => digit != '.' && digit != '0') = false ↔
    (∀ digit ∈ token.integer.text, digit = '0') ∧
      ∀ digits ∈ token.fraction, ∀ digit ∈ digits.text, digit = '0' := by
  have zeros (digits : Digits) : (digits.text.any fun digit => digit != '.' && digit != '0') = false ↔
      ∀ digit ∈ digits.text, digit = '0' := by
    rw [List.any_eq_false]
    refine forall₂_congr fun digit member => ?_
    have point := digit_ne (digits.digits digit member) (show isDigit '.' = false by decide)
    simp [point]
  rw [NumberToken.mantissa, List.any_append, Bool.or_eq_false_iff, zeros, NumberToken.fractionText]
  refine and_congr_right fun _ => ?_
  cases token.fraction with
  | none => simp
  | some digits =>
    rw [List.any_cons]
    simpa using zeros digits

instance : Decidable token.NegativeZero := inferInstanceAs (Decidable (_ ∧ _ ∧ _))

theorem turn_number {visited : List Nat} (stops : Stops rest) :
    turn (before ++ (token.text ++ rest)) ⟨before.length, false, visited⟩ =
      if token.NegativeZero then .found
      else .next ⟨before.length + token.text.length, false, visited ++ [before.length]⟩ := by
  have read (before : List Char) := @mantissa_run before (token.exponentText ++ rest) token.mantissa false
    mantissa_digits (exponentText_stops stops)
  have ends (before : List Char) := @exponentEnd_text (before ++ token.mantissa) rest token stops
  simp only [Bool.false_or, List.append_assoc, List.length_append] at read ends
  have zero := @mantissa_zero_iff token
  cases sign : token.negative with
  | true =>
    have text : token.text = '-' :: (token.mantissa ++ token.exponentText) := by
      rw [NumberToken.text, sign]
      rfl
    have readHere := read (before ++ ['-'])
    have endsHere := ends (before ++ ['-'])
    simp only [List.append_assoc, List.singleton_append, List.length_append, List.length_singleton] at readHere endsHere
    rw [turn, text]
    simp only [List.cons_append, List.append_assoc, getElem?_at, if_true, readHere]
    rw [if_neg (by decide), if_neg (by decide), if_neg (by decide)]
    by_cases negativeZero : token.NegativeZero
    · rw [if_pos negativeZero, if_pos ⟨trivial, zero.mpr negativeZero.2⟩]
    · rw [if_neg negativeZero, if_neg fun both => negativeZero ⟨sign, zero.mp both.2⟩, endsHere]
      simp only [List.length_cons, List.length_append]
      congr 2
      omega
  | false =>
    have positive : ¬ token.NegativeZero := fun both => by
      rw [both.1] at sign
      cases sign
    obtain ⟨first, others, whole⟩ := List.exists_cons_of_ne_nil token.integer.nonempty
    have digit := token.integer.digits first (whole ▸ List.mem_cons_self)
    have text : token.text = token.mantissa ++ token.exponentText := by
      rw [NumberToken.text, sign]
      rfl
    have found : (before ++ (token.mantissa ++ (token.exponentText ++ rest)))[before.length]? = some first := by
      rw [NumberToken.mantissa, whole]
      exact getElem?_at
    rw [turn, text, List.append_assoc]
    simp only [found]
    rw [if_neg (by decide), if_neg (digit_ne digit (by decide)), if_neg fun both => isDigit_iff.mp digit both.2,
      if_neg fun both => absurd both.1 (digit_ne digit (by decide)), if_neg positive,
      if_neg (digit_ne digit (by decide)), read, ends, List.length_append]
    congr 2
    omega

end Numbers

def Skips (insideString : Bool) (character : Char) : Prop :=
  match insideString with
  | true => character ≠ '\\' ∧ character ≠ '"'
  | false => character ≠ '"' ∧ character ≠ '-' ∧ isDigit character = false

section Skipping

variable {before rest run : List Char} {character : Char} {insideString : Bool} {visited : List Nat}
  {result : Bool × List Nat}

theorem turn_skips (skips : Skips insideString character) :
    turn (before ++ character :: rest) ⟨before.length, insideString, visited⟩ =
      .next ⟨before.length + 1, insideString, visited⟩ := by
  rw [turn]
  simp only [getElem?_at]
  cases insideString with
  | true => rw [if_pos rfl, if_neg skips.1, if_neg skips.2]
  | false =>
    rw [if_neg (by decide), if_neg skips.1, if_pos ⟨skips.2.1, isDigit_eq_false_iff.mp skips.2.2⟩]

theorem answers_skipped (skips : ∀ character ∈ run, Skips insideString character)
    (answers : Answers (before ++ (run ++ rest)) ⟨before.length + run.length, insideString, visited⟩ result) :
    Answers (before ++ (run ++ rest)) ⟨before.length, insideString, visited⟩ result := by
  induction run generalizing before with
  | nil => exact answers
  | cons character run ih =>
    have later := @ih (before ++ [character]) fun other member => skips other (List.mem_cons_of_mem _ member)
    simp only [List.append_assoc, List.singleton_append, List.length_append, List.length_singleton,
      Nat.add_assoc, Nat.add_comm 1] at later
    exact .next (turn_skips (skips character List.mem_cons_self)) (later answers)

theorem skips_hexDigit (hex : isHexDigit character = true) : Skips true character := by
  constructor
  · rintro rfl
    exact absurd hex (by decide)
  · rintro rfl
    exact absurd hex (by decide)

theorem turn_escape : turn (before ++ '\\' :: character :: rest) ⟨before.length, true, visited⟩ =
    .next ⟨before.length + 2, true, visited⟩ := by
  rw [turn]
  simp only [getElem?_at]
  rfl

theorem answers_unit {unit : StringUnit}
    (answers : Answers (before ++ (unit.text ++ rest)) ⟨before.length + unit.text.length, true, visited⟩ result) :
    Answers (before ++ (unit.text ++ rest)) ⟨before.length, true, visited⟩ result := by
  cases unit with
  | plain character free =>
    refine answers_skipped (fun other member => ?_) answers
    obtain rfl := List.mem_singleton.mp member
    exact ⟨free.2.1, free.1⟩
  | escape character escaped => exact .next turn_escape answers
  | unicode first second third fourth hex =>
    refine .next turn_escape ?_
    have digits := @answers_skipped (before ++ ['\\', 'u']) rest [first, second, third, fourth] true visited result
    simp only [List.append_assoc, List.length_append, List.cons_append, List.nil_append, List.length_cons,
      List.length_nil] at digits
    refine digits (fun other member => ?_) answers
    simp only [List.mem_cons, List.not_mem_nil, or_false] at member
    obtain rfl | rfl | rfl | rfl := member
    · exact skips_hexDigit hex.1
    · exact skips_hexDigit hex.2.1
    · exact skips_hexDigit hex.2.2.1
    · exact skips_hexDigit hex.2.2.2

theorem answers_units {units : List StringUnit} (answers : Answers
      (before ++ (units.flatMap StringUnit.text ++ rest))
      ⟨before.length + (units.flatMap StringUnit.text).length, true, visited⟩ result) :
    Answers (before ++ (units.flatMap StringUnit.text ++ rest)) ⟨before.length, true, visited⟩ result := by
  induction units generalizing before with
  | nil => exact answers
  | cons unit units ih =>
    have later := @ih (before ++ unit.text)
    simp only [List.append_assoc, List.length_append, Nat.add_assoc] at later
    rw [List.flatMap_cons, List.append_assoc] at answers ⊢
    rw [List.length_append] at answers
    exact answers_unit (later answers)

theorem answers_string {units : List StringUnit} (answers : Answers
      (before ++ ((Lexeme.string units).text ++ rest))
      ⟨before.length + (Lexeme.string units).text.length, false, visited⟩ result) :
    Answers (before ++ ((Lexeme.string units).text ++ rest)) ⟨before.length, false, visited⟩ result := by
  have opening : turn (before ++ ((Lexeme.string units).text ++ rest)) ⟨before.length, false, visited⟩ =
      .next ⟨before.length + 1, true, visited⟩ := by
    rw [turn, Lexeme.text, List.cons_append]
    simp only [getElem?_at]
    rfl
  have closing : turn (before ++ ((Lexeme.string units).text ++ rest))
      ⟨before.length + 1 + (units.flatMap StringUnit.text).length, true, visited⟩ =
      .next ⟨before.length + (Lexeme.string units).text.length, false, visited⟩ := by
    have quote := @getElem?_at (before ++ '"' :: units.flatMap StringUnit.text) rest '"'
    simp only [List.append_assoc, List.length_append, List.cons_append, List.length_cons] at quote
    rw [turn, Lexeme.text]
    simp only [List.cons_append, List.append_assoc, List.nil_append, List.length_cons, List.length_append,
      List.length_nil]
    rw [show before.length + 1 + (units.flatMap StringUnit.text).length =
      before.length + ((units.flatMap StringUnit.text).length + 1) by omega, quote]
    rfl
  have contents := @answers_units (before ++ ['"']) ('"' :: rest) visited result units
  simp only [List.append_assoc, List.length_append, List.singleton_append, List.length_singleton] at contents
  refine .next opening ?_
  rw [Lexeme.text, List.cons_append, List.append_assoc] at closing answers ⊢
  exact contents (.next closing answers)

theorem skips_word (word : Word) : ∀ character ∈ word.text, Skips false character := by
  cases word <;> simp [Word.text, Skips, isDigit]

theorem skips_space (space : Space) : Skips false space.character := by
  cases space <;> simp [Space.character, Skips, isDigit]

theorem skips_mark (mark : Mark) : Skips false mark.character := by
  cases mark <;> simp [Mark.character, Skips, isDigit]

end Skipping

def numberStarts (offset : Nat) : List Lexeme → List Nat
  | [] => []
  | .number token :: rest => offset :: numberStarts (offset + token.text.length) rest
  | .mark mark :: rest => numberStarts (offset + (Lexeme.mark mark).text.length) rest
  | .space space :: rest => numberStarts (offset + (Lexeme.space space).text.length) rest
  | .word word :: rest => numberStarts (offset + (Lexeme.word word).text.length) rest
  | .string units :: rest => numberStarts (offset + (Lexeme.string units).text.length) rest

def numberStartsOf (lexemes : List Lexeme) : List Nat := numberStarts 0 lexemes

/-- Whether some number token of the text is a negative zero. -/
def HasNegativeZero (lexemes : List Lexeme) : Prop := ∃ token ∈ numbersOf lexemes, token.NegativeZero

instance (lexemes : List Lexeme) : Decidable (HasNegativeZero lexemes) :=
  inferInstanceAs (Decidable (∃ token ∈ numbersOf lexemes, token.NegativeZero))

section Texts

variable {rest : List Lexeme}

theorem numbersOf_number {token : NumberToken} :
    numbersOf (.number token :: rest) = token :: numbersOf rest := rfl

theorem hasNegativeZero_number {token : NumberToken} :
    HasNegativeZero (.number token :: rest) ↔ token.NegativeZero ∨ HasNegativeZero rest := by
  rw [HasNegativeZero, HasNegativeZero, numbersOf_number]
  simp only [List.mem_cons, exists_eq_or_imp]

theorem stops_textOf (opens : Opens rest) : Stops (textOf rest) := by
  intro character head
  cases rest with
  | nil => cases head
  | cons lexeme rest =>
    cases lexeme with
    | mark mark => cases head; cases mark <;> decide
    | space space => cases head; cases space <;> decide
    | word word => exact opens.elim
    | string units => exact opens.elim
    | number token => exact opens.elim

/-- The scan of separated lexemes begins their numbers in order, up to the first negative zero. -/
theorem answers_lexemes {lexemes : List Lexeme} (separated : Separated lexemes) (before : List Char)
    (visited : List Nat) : ∃ begun, begun <+: numberStarts before.length lexemes ∧
      (¬ HasNegativeZero lexemes → begun = numberStarts before.length lexemes) ∧
      Answers (before ++ textOf lexemes) ⟨before.length, false, visited⟩
        (decide (HasNegativeZero lexemes), visited ++ begun) := by
  induction lexemes generalizing before visited with
  | nil =>
    have ended : turn (before ++ textOf []) ⟨before.length, false, visited⟩ = .ended := by
      rw [turn, textOf, List.flatMap_nil, List.append_nil, List.getElem?_eq_none (Nat.le_refl _)]
    refine ⟨[], List.nil_prefix, fun _ => rfl, ?_⟩
    rw [List.append_nil]
    exact .ended ended
  | cons lexeme rest ih =>
    have unfolded : textOf (lexeme :: rest) = lexeme.text ++ textOf rest := List.flatMap_cons
    have later (restSeparated : Separated rest) (visited : List Nat) :=
      ih restSeparated (before ++ lexeme.text) visited
    simp only [List.append_assoc, List.length_append, ← unfolded] at later
    cases lexeme with
    | mark mark =>
      obtain ⟨begun, starts, whole, answers⟩ := later separated visited
      refine ⟨begun, starts, whole, ?_⟩
      rw [unfolded] at answers ⊢
      exact answers_skipped (fun character member => List.mem_singleton.mp member ▸ skips_mark mark) answers
    | space space =>
      obtain ⟨begun, starts, whole, answers⟩ := later separated visited
      refine ⟨begun, starts, whole, ?_⟩
      rw [unfolded] at answers ⊢
      exact answers_skipped (fun character member => List.mem_singleton.mp member ▸ skips_space space) answers
    | word word =>
      obtain ⟨begun, starts, whole, answers⟩ := later separated visited
      refine ⟨begun, starts, whole, ?_⟩
      rw [unfolded] at answers ⊢
      exact answers_skipped (skips_word word) answers
    | string units =>
      obtain ⟨begun, starts, whole, answers⟩ := later separated visited
      refine ⟨begun, starts, whole, ?_⟩
      rw [unfolded] at answers ⊢
      exact answers_string answers
    | number token =>
      obtain ⟨opens, restSeparated⟩ := separated
      have number := @turn_number before (textOf rest) token visited (stops_textOf opens)
      rw [← show textOf (.number token :: rest) = token.text ++ textOf rest from unfolded] at number
      by_cases negativeZero : token.NegativeZero
      · rw [if_pos negativeZero] at number
        have holds := hasNegativeZero_number.mpr (.inl negativeZero : _ ∨ HasNegativeZero rest)
        refine ⟨[before.length], List.cons_prefix_cons.mpr ⟨rfl, List.nil_prefix⟩, fun none => absurd holds none, ?_⟩
        rw [decide_eq_true holds]
        exact .found number
      · rw [if_neg negativeZero] at number
        obtain ⟨begun, starts, whole, answers⟩ := later restSeparated (visited ++ [before.length])
        have holds : HasNegativeZero (.number token :: rest) ↔ HasNegativeZero rest :=
          hasNegativeZero_number.trans (or_iff_right negativeZero)
        refine ⟨before.length :: begun, List.cons_prefix_cons.mpr ⟨rfl, starts⟩, fun none => ?_, ?_⟩
        · rw [numberStarts]
          exact congrArg _ (whole fun later => none (holds.mpr later))
        · rw [List.append_assoc] at answers
          simp only [holds]
          exact .next number answers

theorem text_positive (token : NumberToken) : 0 < token.text.length := by
  have whole := List.length_pos_iff.mpr token.integer.nonempty
  rw [NumberToken.text, NumberToken.mantissa]
  simp only [List.length_append]
  omega

theorem numberStarts_ascending (lexemes : List Lexeme) (offset : Nat) :
    (∀ start ∈ numberStarts offset lexemes, offset ≤ start) ∧
      (numberStarts offset lexemes).Pairwise (· < ·) := by
  induction lexemes generalizing offset with
  | nil => exact ⟨fun _ member => absurd member List.not_mem_nil, .nil⟩
  | cons lexeme rest ih =>
    cases lexeme with
    | mark mark | space mark | word mark | string mark =>
      obtain ⟨above, ascending⟩ := ih (offset + _)
      exact ⟨fun start member => Nat.le_trans (Nat.le_add_right _ _) (above start member), ascending⟩
    | number token =>
      obtain ⟨above, ascending⟩ := ih (offset + token.text.length)
      have positive := text_positive token
      refine ⟨fun start member => ?_, List.pairwise_cons.mpr ⟨fun start member => ?_, ascending⟩⟩
      · obtain rfl | later := List.mem_cons.mp member
        · exact Nat.le_refl _
        · exact Nat.le_trans (Nat.le_add_right _ _) (above start later)
      · have later := above start member
        omega

end Texts

/-- The scan of any text ends; of a JSON text it answers whether a number outside the string literals is
a negative zero, and it begins each number once, in order, up to the first such one. -/
theorem negative_zero_scan_exact {lexemes : List Lexeme} (valid : JsonText lexemes) :
    (∀ encoded, ∃ result, hasNegativeZeroToken encoded = some result) ∧
    ∃ visited, hasNegativeZeroToken (textOf lexemes) = some (decide (HasNegativeZero lexemes), visited) ∧
      visited <+: numberStartsOf lexemes ∧ (numberStartsOf lexemes).Pairwise (· < ·) ∧
      (¬ HasNegativeZero lexemes → visited = numberStartsOf lexemes) := by
  constructor
  · intro encoded
    obtain ⟨result, answers⟩ := answers_exist encoded ⟨0, false, []⟩
    exact ⟨result, hasNegativeZeroToken_eq answers⟩
  · obtain ⟨begun, starts, whole, answers⟩ := answers_lexemes valid.separated [] []
    exact ⟨begun, hasNegativeZeroToken_eq answers, starts, (numberStarts_ascending lexemes 0).2, whole⟩

/-- An array of a negative zero with an exponent. -/
theorem negative_zero_scan_exact_array : ∃ lexemes visited, JsonText lexemes ∧
    textOf lexemes = ['[', '-', '0', '.', '0', 'e', '-', '1', ']'] ∧
    hasNegativeZeroToken (textOf lexemes) = some (true, visited) := by
  let zero : Digits := ⟨['0'], by decide, List.forall_mem_singleton.mpr rfl⟩
  let one : Digits := ⟨['1'], by decide, List.forall_mem_singleton.mpr rfl⟩
  let exponent : Exponent := ⟨'e', some '-', one, .inl rfl, fun sign given => .inr (Option.some.inj given).symm⟩
  let token : NumberToken := ⟨true, zero, some zero, some exponent, fun _ => rfl⟩
  have valid : JsonText [.mark .beginArray, .number token, .mark .endArray] :=
    ⟨[], [], _, .array (.element [] [] (.number token)), rfl⟩
  obtain ⟨-, visited, scanned, -⟩ := negative_zero_scan_exact valid
  refine ⟨_, visited, valid, rfl, scanned.trans ?_⟩
  rw [decide_eq_true]
  refine ⟨token, List.mem_singleton_self _, rfl, fun digit member => List.mem_singleton.mp member, ?_⟩
  rintro digits given digit member
  cases given
  exact List.mem_singleton.mp member

end BlobRoyale.Protocol.NegativeZeroScanner
