import Mathlib.Data.List.Basic

/-!
# JSON texts

The grammar of JSON texts over their lexemes: a text is a value between spaces. The characters may be
those of the text or the bytes of its encoding, whose bytes past ASCII stand in strings alone.
-/

namespace JsonTexts

def isDigit (character : Char) : Bool := '0' ≤ character ∧ character ≤ '9'

/-- One digit or more. -/
structure Digits where
  text : List Char
  nonempty : text ≠ []
  digits : ∀ character ∈ text, isDigit character = true

/-- `e` or `E`, a sign or none, and digits. -/
structure Exponent where
  mark : Char
  sign : Option Char
  digits : Digits
  marked : mark = 'e' ∨ mark = 'E'
  signed : ∀ character ∈ sign, character = '+' ∨ character = '-'

def Exponent.text (exponent : Exponent) : List Char :=
  exponent.mark :: (exponent.sign.toList ++ exponent.digits.text)

structure NumberToken where
  negative : Bool
  integer : Digits
  fraction : Option Digits
  exponent : Option Exponent
  noLeadingZero : integer.text.head? = some '0' → integer.text = ['0']

namespace NumberToken

def fractionText (token : NumberToken) : List Char :=
  match token.fraction with
  | none => []
  | some digits => '.' :: digits.text

/-- The digits whose value the exponent scales. -/
def mantissa (token : NumberToken) : List Char := token.integer.text ++ token.fractionText

def exponentText (token : NumberToken) : List Char :=
  match token.exponent with
  | none => []
  | some exponent => exponent.text

def text (token : NumberToken) : List Char :=
  (if token.negative then ['-'] else []) ++ token.mantissa ++ token.exponentText

/-- A minus sign before integer and fraction digits that are all zero. -/
def NegativeZero (token : NumberToken) : Prop :=
  token.negative = true ∧ (∀ digit ∈ token.integer.text, digit = '0') ∧
    ∀ digits ∈ token.fraction, ∀ digit ∈ digits.text, digit = '0'

end NumberToken

def isHexDigit (character : Char) : Bool :=
  isDigit character || ('a' ≤ character ∧ character ≤ 'f') || ('A' ≤ character ∧ character ≤ 'F')

/-- What a string literal is made of between its quotes. -/
inductive StringUnit where
  | plain (character : Char) (free : character ≠ '"' ∧ character ≠ '\\' ∧ 32 ≤ character.toNat)
  | escape (character : Char) (escaped : character ∈ ['"', '\\', '/', 'b', 'f', 'n', 'r', 't'])
  | unicode (first second third fourth : Char)
      (hex : isHexDigit first ∧ isHexDigit second ∧ isHexDigit third ∧ isHexDigit fourth)

def StringUnit.text : StringUnit → List Char
  | plain character _ => [character]
  | escape character _ => ['\\', character]
  | unicode first second third fourth _ => ['\\', 'u', first, second, third, fourth]

inductive Word where
  | false
  | true
  | null

def Word.text : Word → List Char
  | false => ['f', 'a', 'l', 's', 'e']
  | true => ['t', 'r', 'u', 'e']
  | null => ['n', 'u', 'l', 'l']

inductive Space where
  | blank
  | tab
  | lineFeed
  | carriageReturn

def Space.character : Space → Char
  | blank => ' '
  | tab => '\t'
  | lineFeed => '\n'
  | carriageReturn => '\r'

inductive Mark where
  | beginArray
  | endArray
  | beginObject
  | endObject
  | colon
  | comma

def Mark.character : Mark → Char
  | beginArray => '['
  | endArray => ']'
  | beginObject => '\x7b'
  | endObject => '\x7d'
  | colon => ':'
  | comma => ','

inductive Lexeme where
  | mark (mark : Mark)
  | space (space : Space)
  | word (word : Word)
  | string (units : List StringUnit)
  | number (token : NumberToken)

namespace Lexeme

def text : Lexeme → List Char
  | mark sign => [sign.character]
  | space gap => [gap.character]
  | word literal => literal.text
  | string units => '"' :: (units.flatMap StringUnit.text ++ ['"'])
  | number token => token.text

/-- Marks and spaces, which keep the values beside them apart. -/
def Separates : Lexeme → Prop
  | mark _ | space _ => True
  | word _ | string _ | number _ => False

end Lexeme

def textOf (lexemes : List Lexeme) : List Char := lexemes.flatMap Lexeme.text

/-- The number tokens of a text, outside its string literals. -/
def numbersOf (lexemes : List Lexeme) : List NumberToken :=
  lexemes.filterMap fun
    | .number token => some token
    | .mark _ | .space _ | .word _ | .string _ => none

def spaces (list : List Space) : List Lexeme := list.map .space

/-- The parts of the grammar. -/
inductive Part where
  | value
  | elements
  | members

/-- The lexemes each part of the grammar consists of. -/
inductive Derives : Part → List Lexeme → Prop where
  | word (word : Word) : Derives .value [.word word]
  | string (units : List StringUnit) : Derives .value [.string units]
  | number (token : NumberToken) : Derives .value [.number token]
  | emptyArray (between : List Space) :
      Derives .value (.mark .beginArray :: (spaces between ++ [.mark .endArray]))
  | array {elements : List Lexeme} : Derives .elements elements →
      Derives .value (.mark .beginArray :: (elements ++ [.mark .endArray]))
  | emptyObject (between : List Space) :
      Derives .value (.mark .beginObject :: (spaces between ++ [.mark .endObject]))
  | object {members : List Lexeme} : Derives .members members →
      Derives .value (.mark .beginObject :: (members ++ [.mark .endObject]))
  | element {value : List Lexeme} (before after : List Space) : Derives .value value →
      Derives .elements (spaces before ++ (value ++ spaces after))
  | moreElements {first rest : List Lexeme} : Derives .elements first → Derives .elements rest →
      Derives .elements (first ++ .mark .comma :: rest)
  | member {value : List Lexeme} (name : List StringUnit) (before between beyond after : List Space) :
      Derives .value value → Derives .members (spaces before ++ .string name :: (spaces between ++
        .mark .colon :: (spaces beyond ++ (value ++ spaces after))))
  | moreMembers {first rest : List Lexeme} : Derives .members first → Derives .members rest →
      Derives .members (first ++ .mark .comma :: rest)

def JsonText (lexemes : List Lexeme) : Prop :=
  ∃ (before after : List Space) (value : List Lexeme), Derives .value value ∧
    lexemes = spaces before ++ (value ++ spaces after)

/-- The lexemes are at their end or go on with one that separates. -/
def Opens : List Lexeme → Prop
  | [] => True
  | lexeme :: _ => lexeme.Separates

/-- Every number is followed by a separating lexeme or nothing. -/
def Separated : List Lexeme → Prop
  | [] => True
  | .number _ :: rest => Opens rest ∧ Separated rest
  | .mark _ :: rest | .space _ :: rest | .word _ :: rest | .string _ :: rest => Separated rest

theorem separated_spaces {list : List Space} {rest : List Lexeme} :
    Separated (spaces list ++ rest) ↔ Separated rest := by
  induction list with
  | nil => rfl
  | cons space list ih => exact ih

theorem opens_spaces {list : List Space} {rest : List Lexeme} (opens : Opens rest) :
    Opens (spaces list ++ rest) := by
  cases list with
  | nil => exact opens
  | cons space list => exact trivial

theorem Derives.separated {part : Part} {lexemes rest : List Lexeme} (derives : Derives part lexemes)
    (opens : Opens rest) (separated : Separated rest) : Separated (lexemes ++ rest) := by
  induction derives generalizing rest with
  | word word => exact separated
  | string units => exact separated
  | number token => exact ⟨opens, separated⟩
  | emptyArray between | emptyObject between =>
    rw [List.cons_append, List.append_assoc]
    exact separated_spaces.mpr separated
  | array elements ih | object members ih =>
    rw [List.cons_append, List.append_assoc]
    exact ih trivial separated
  | element before after value ih =>
    rw [List.append_assoc, List.append_assoc]
    exact separated_spaces.mpr (ih (opens_spaces opens) (separated_spaces.mpr separated))
  | moreElements first rest firstIh restIh | moreMembers first rest firstIh restIh =>
    rw [List.append_assoc]
    exact firstIh trivial (restIh opens separated)
  | member name before between beyond after value ih =>
    simp only [List.append_assoc, List.cons_append]
    refine separated_spaces.mpr (separated_spaces.mpr (separated_spaces.mpr ?_))
    exact ih (opens_spaces opens) (separated_spaces.mpr separated)

theorem JsonText.separated {lexemes : List Lexeme} (valid : JsonText lexemes) : Separated lexemes := by
  obtain ⟨before, after, value, derives, rfl⟩ := valid
  refine separated_spaces.mpr (derives.separated ?_ ?_)
  · rw [← List.append_nil (spaces after)]
    exact opens_spaces trivial
  · rw [← List.append_nil (spaces after)]
    exact separated_spaces.mpr trivial

end JsonTexts
