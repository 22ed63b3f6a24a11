import BlobRoyale.Application.StrictIni

/-!
# What one line says

The reader takes a line exactly for what its rendering says, and every line it accepts is one of the
renderings.
-/

namespace BlobRoyale.Application

open DelimitedText

/-- A key of a table: no reader can take its line for a comment or a header, or cut it elsewhere. -/
structure PlainKey (key : Text) : Prop where
  oneLine : '\n' ∉ key
  noEquals : '=' ∉ key
  bare : Bare isHorizontalWhitespace key
  written : key ≠ []
  unmarked : ∀ character ∈ key.head?, character ≠ '#' ∧ character ≠ ';' ∧ character ≠ '['

def isKeyCharacter (character : Char) : Bool := character.isLower || character = '_'

theorem PlainKey.of_letters {key : Text} (written : key ≠ []) (letters : key.all isKeyCharacter = true) :
    PlainKey key := by
  have letter : ∀ character ∈ key, isKeyCharacter character = true := List.all_eq_true.mp letters
  have other : ∀ character, isKeyCharacter character = false → character ∉ key := by
    intro character refused member
    rw [letter character member] at refused
    cases refused
  have unpadded : ∀ character ∈ key, isHorizontalWhitespace character = false := by
    intro character member
    by_contra padded
    rw [Bool.not_eq_false, isHorizontalWhitespace, Bool.or_eq_true, decide_eq_true_eq, decide_eq_true_eq] at padded
    obtain rfl | rfl := padded
    · exact other ' ' (by decide) member
    · exact other '\t' (by decide) member
  refine ⟨other '\n' (by decide), other '=' (by decide), ⟨?_, ?_⟩, written, ?_⟩
  · exact fun character atFront => unpadded character (List.mem_of_mem_head? atFront)
  · exact fun character atBack => unpadded character (List.mem_of_mem_getLast? atBack)
  · intro character atFront
    have member := List.mem_of_mem_head? atFront
    refine ⟨?_, ?_, ?_⟩
    · rintro rfl
      exact other '#' (by decide) member
    · rintro rfl
      exact other ';' (by decide) member
    · rintro rfl
      exact other '[' (by decide) member

structure PlainValue (value : Text) : Prop where
  oneLine : '\n' ∉ value
  noEquals : '=' ∉ value
  bare : Bare isHorizontalWhitespace value

def IniItem.Plain : IniItem → Prop
  | .header name => AdmissibleName name
  | .pair key value => PlainKey key ∧ PlainValue value

/-- The item's line does not end in a carriage return. -/
def IniItem.Unreturned : IniItem → Prop
  | .header _ => True
  | .pair _ value => value.getLast? ≠ some '\r'

section Returns

@[simp]
theorem removeReturn_returned (line : Text) : removeReturn (line ++ ['\r']) = line := by
  simp [removeReturn]

theorem removeReturn_unreturned {line : Text} (unreturned : line.getLast? ≠ some '\r') :
    removeReturn line = line := if_neg unreturned

theorem removeReturn_spec (line : Text) : line = removeReturn line ∨ line = removeReturn line ++ ['\r'] := by
  by_cases returned : line.getLast? = some '\r'
  · right
    rw [removeReturn, if_pos returned, List.dropLast_append_getLast? '\r' returned]
  · exact .inl (removeReturn_unreturned returned).symm

theorem padding_unreturned {pads : Text} (padding : Padding isHorizontalWhitespace pads) :
    pads.getLast? ≠ some '\r' := by
  intro returned
  have padded := padding '\r' (List.mem_of_getLast? returned)
  exact absurd padded (by decide)

theorem padding_oneLine {pads : Text} (padding : Padding isHorizontalWhitespace pads) : '\n' ∉ pads := by
  intro member
  exact absurd (padding '\n' member) (by decide)

theorem padding_noEquals {pads : Text} (padding : Padding isHorizontalWhitespace pads) : '=' ∉ pads := by
  intro member
  exact absurd (padding '=' member) (by decide)

theorem getLast?_append_ne {front back : Text} {character : Char} (inFront : front.getLast? ≠ some character)
    (inBack : back.getLast? ≠ some character) : (front ++ back).getLast? ≠ some character := by
  intro ends
  rw [List.getLast?_append, Option.or_eq_some_iff] at ends
  obtain found | ⟨-, found⟩ := ends
  · exact inBack found
  · exact inFront found

theorem IniLine.said_unreturned {content : Text} {said : IniItem} (line : IniLine content (some said))
    (unreturned : said.Unreturned) : content.getLast? ≠ some '\r' := by
  cases line with
  | @header before name after pads padsAfter =>
    refine getLast?_append_ne ?_ (padding_unreturned padsAfter)
    rw [← List.append_assoc, List.getLast?_concat]
    simp
  | @pair before key afterKey beforeValue value after pads padsKey padsValue padsAfter =>
    have valueEnd : value.getLast? ≠ some '\r' := unreturned
    have tail : (beforeValue ++ value ++ after).getLast? ≠ some '\r' :=
      getLast?_append_ne (getLast?_append_ne (padding_unreturned padsValue) valueEnd)
        (padding_unreturned padsAfter)
    rw [List.getLast?_append, List.getLast?_cons]
    cases ends : (beforeValue ++ value ++ after).getLast? with
    | none => simp
    | some final =>
      rw [ends] at tail
      simpa using tail

theorem IniLine.removeReturn {content : Text} {item : Option IniItem} (line : IniLine content item)
    (unreturned : ∀ said ∈ item, said.Unreturned) : IniLine (removeReturn content) item := by
  cases item with
  | some said =>
    rw [removeReturn_unreturned (line.said_unreturned (unreturned said rfl))]
    exact line
  | none =>
    cases line with
    | blank pads =>
      rw [removeReturn_unreturned (padding_unreturned pads)]
      exact .blank pads
    | @comment before text mark pads marked oneLine =>
      obtain rfl | ⟨kept, final, rfl⟩ := List.eq_nil_or_concat' text
      · rw [removeReturn_unreturned]
        · exact .comment pads marked oneLine
        · rw [List.getLast?_append]
          obtain rfl | rfl := marked
          · simp
          · simp
      · have shape : before ++ mark :: (kept ++ [final]) = before ++ mark :: kept ++ [final] := by simp
        rw [shape]
        by_cases returned : final = '\r'
        · rw [returned, removeReturn_returned]
          refine .comment pads marked fun member => oneLine ?_
          exact List.mem_append_left _ member
        · have unended : (before ++ mark :: kept ++ [final]).getLast? ≠ some '\r' := by
            rw [List.getLast?_concat, Option.some_inj.ne]
            exact returned
          rw [removeReturn_unreturned unended, ← shape]
          exact .comment pads marked oneLine

end Returns

section Lines

variable {Section Field Family FamilyField : Type}
variable [DecidableEq Section] [DecidableEq Field] [DecidableEq Family] [DecidableEq FamilyField]
variable (schema : IniSchema Section Field Family FamilyField)

namespace IniSchema

def readItem (reading : IniReading Section Field Family FamilyField) :
    IniItem → Except IniFault (IniReading Section Field Family FamilyField)
  | .header name => schema.openSection reading.document name
  | .pair key value =>
    match reading.currentSection with
    | none => .error .outsideSection
    | some cursor => do
      let document ← schema.storePair reading.document cursor key value
      return { reading with document }

def readLine (reading : IniReading Section Field Family FamilyField) :
    Option IniItem → Except IniFault (IniReading Section Field Family FamilyField)
  | none => .ok reading
  | some item => schema.readItem reading item

variable {schema} {reading next : IniReading Section Field Family FamilyField}

theorem trim_blank {content : Text} (pads : Padding isHorizontalWhitespace content) :
    trimHorizontalWhitespace content = [] := by
  have trimmed := @trim_padded _ isHorizontalWhitespace content [] [] pads Bare.nil (fun x member => by cases member)
  rw [List.append_nil, List.append_nil] at trimmed
  exact trimmed

theorem trim_marked {before text : Text} {mark : Char} (pads : Padding isHorizontalWhitespace before)
    (marked : isHorizontalWhitespace mark = false) :
    trimHorizontalWhitespace (before ++ mark :: text) =
      mark :: text.rdropWhile isHorizontalWhitespace := by
  have opened : (before ++ mark :: text).dropWhile isHorizontalWhitespace = mark :: text := by
    refine dropWhile_padded pads fun x atFront => ?_
    cases atFront
    exact marked
  have closed := @rdropWhile_kept _ isHorizontalWhitespace [] text mark marked
  unfold trimHorizontalWhitespace trim
  rw [opened]
  exact closed

theorem parseTrimmedLine_header {name : Text} (plain : AdmissibleName name) :
    schema.parseTrimmedLine reading ('[' :: name ++ [']']) = schema.openSection reading.document name := by
  have long : ¬('[' :: name ++ [']']).length < 3 := by
    have positive := List.length_pos_iff.mpr plain.written
    rw [List.length_append, List.length_cons, List.length_singleton]
    omega
  have closed : ('[' :: name ++ [']']).getLast? = some ']' := List.getLast?_concat
  have first : ('[' :: name ++ [']']).idxOf ']' = ('[' :: name ++ [']']).length - 1 := by
    have absent : ']' ∉ '[' :: name := by
      rw [List.mem_cons, not_or]
      exact ⟨by decide, plain.unbracketed⟩
    rw [List.idxOf_append_of_notMem absent, List.idxOf_cons_self, List.length_append, List.length_singleton]
    omega
  have inner : ('[' :: name ++ [']']).tail.dropLast = name := by
    rw [List.cons_append, List.tail_cons, List.dropLast_concat]
  rw [List.cons_append] at long closed first inner ⊢
  rw [parseTrimmedLine, if_neg (by decide), if_pos rfl, if_neg, inner]
  rintro (short | unclosed | early)
  · exact long short
  · exact unclosed closed
  · exact early first

theorem trim_pair {before key beforeValue value after : Text} (afterKey : Text) (plain : PlainKey key)
    (plainValue : PlainValue value) (pads : Padding isHorizontalWhitespace before)
    (padsValue : Padding isHorizontalWhitespace beforeValue) (padsAfter : Padding isHorizontalWhitespace after) :
    ∃ tail, '=' ∉ tail ∧ trimHorizontalWhitespace tail = value ∧
      trimHorizontalWhitespace (before ++ key ++ afterKey ++ '=' :: (beforeValue ++ value ++ after)) =
        key ++ afterKey ++ '=' :: tail := by
  refine ⟨(beforeValue ++ value ++ after).rdropWhile isHorizontalWhitespace, ?_, ?_, ?_⟩
  · intro member
    have inside := (List.rdropWhile_prefix _ _).subset member
    simp only [List.mem_append] at inside
    obtain (inPads | inValue) | inPads := inside
    · exact padding_noEquals padsValue inPads
    · exact plainValue.noEquals inValue
    · exact padding_noEquals padsAfter inPads
  · by_cases empty : value = []
    · have blank : trimHorizontalWhitespace [] = [] := rfl
      have all := Padding.append padsValue padsAfter
      rw [empty, List.append_nil, List.rdropWhile_eq_nil_iff.mpr all, blank]
    · have back : ∀ x ∈ (beforeValue ++ value).getLast?, isHorizontalWhitespace x = false := by
        intro x atBack
        rw [List.getLast?_append_of_ne_nil _ empty] at atBack
        exact plainValue.bare.2 x atBack
      have trimmed := trim_padded padsValue plainValue.bare (fun x (member : x ∈ []) => by cases member)
      rw [List.append_nil] at trimmed
      rw [rdropWhile_padded padsAfter back]
      exact trimmed
  · have front : ∀ x ∈ (key ++ afterKey ++ '=' :: (beforeValue ++ value ++ after)).head?,
        isHorizontalWhitespace x = false := by
      intro x atFront
      rw [List.append_assoc, List.head?_append_of_ne_nil _ plain.written] at atFront
      exact plain.bare.1 x atFront
    unfold trimHorizontalWhitespace trim
    rw [List.append_assoc before, List.append_assoc before, dropWhile_padded pads front]
    exact rdropWhile_kept (by decide)

theorem parsePair_delimited {key afterKey tail value : Text} (plain : PlainKey key)
    (padsKey : Padding isHorizontalWhitespace afterKey) (noEquals : '=' ∉ tail)
    (trimmed : trimHorizontalWhitespace tail = value) :
    schema.parsePair reading (key ++ afterKey ++ '=' :: tail) = schema.readItem reading (.pair key value) := by
  have free : '=' ∉ key ++ afterKey := by
    rw [List.mem_append, not_or]
    exact ⟨plain.noEquals, padding_noEquals padsKey⟩
  have keyRead : trimHorizontalWhitespace (key ++ afterKey) = key :=
    @trim_padded _ _ [] key afterKey (fun x member => by cases member) plain.bare padsKey
  unfold parsePair readItem
  cases reading.currentSection with
  | none => rfl
  | some cursor =>
    simp only [takeWhile_delimited free, dropWhile_delimited free, if_neg noEquals, keyRead, trimmed]

theorem parseLine_tells {content : Text} {item : Option IniItem} (line : IniLine content item)
    (plain : ∀ said ∈ item, said.Plain) : schema.parseLine reading content = schema.readLine reading item := by
  unfold parseLine
  cases line with
  | blank pads =>
    rw [trim_blank pads]
    rfl
  | @comment before text mark pads marked oneLine =>
    have unpadded : isHorizontalWhitespace mark = false := by
      obtain rfl | rfl := marked
      · exact (by decide : isHorizontalWhitespace '#' = false)
      · exact (by decide : isHorizontalWhitespace ';' = false)
    rw [trim_marked pads unpadded, parseTrimmedLine, if_pos marked]
    rfl
  | @header before name after pads padsAfter =>
    have bare : Bare isHorizontalWhitespace ('[' :: name ++ [']']) := by
      refine @Bare.append _ _ ['['] name [']'] ?_ ?_ (List.cons_ne_nil _ _) (List.cons_ne_nil _ _)
      · intro x atFront
        cases atFront
        decide
      · intro x atBack
        cases atBack
        decide
    rw [trimHorizontalWhitespace, trim_padded pads bare padsAfter]
    exact parseTrimmedLine_header (plain _ rfl)
  | @pair before key afterKey beforeValue value after pads padsKey padsValue padsAfter =>
    obtain ⟨plainKey, plainValue⟩ := plain _ rfl
    obtain ⟨tail, noEquals, trimmed, cut⟩ := trim_pair afterKey plainKey plainValue pads padsValue padsAfter
    rw [cut, readLine, ← parsePair_delimited plainKey padsKey noEquals trimmed]
    obtain ⟨first, key, rfl⟩ := List.exists_cons_of_ne_nil plainKey.written
    obtain ⟨noHash, noSemicolon, noBracket⟩ := plainKey.unmarked first rfl
    rw [List.cons_append, List.cons_append, parseTrimmedLine, if_neg (not_or.mpr ⟨noHash, noSemicolon⟩),
      if_neg noBracket]

theorem header_shape {line : Text} (long : ¬line.length < 3) (opened : line.head? = some '[')
    (closed : line.getLast? = some ']') (first : line.idxOf ']' = line.length - 1) :
    ∃ name, line = '[' :: name ++ [']'] ∧ line.tail.dropLast = name ∧ name ≠ [] ∧ ']' ∉ name := by
  obtain ⟨front, rfl⟩ := List.getLast?_eq_some_iff.mp closed
  cases front with
  | nil => exact absurd opened (by decide)
  | cons bracket name =>
    have same : bracket = '[' := by simpa using opened
    subst same
    have inner : ('[' :: name ++ [']']).tail.dropLast = name := by
      rw [List.cons_append, List.tail_cons, List.dropLast_concat]
    refine ⟨name, rfl, inner, ?_, ?_⟩
    · intro empty
      rw [empty] at long
      exact long (by decide)
    · intro member
      have early := List.idxOf_lt_length_of_mem (List.mem_cons_of_mem '[' member)
      rw [List.idxOf_append_of_mem (List.mem_cons_of_mem '[' member), List.length_append,
        List.length_singleton] at first
      omega

theorem parsePair_reads {line : Text} (parsed : schema.parsePair reading line = .ok next) :
    ∃ keyText valueText, line = keyText ++ '=' :: valueText ∧ '=' ∉ valueText ∧
      schema.readItem reading (.pair (trimHorizontalWhitespace keyText) (trimHorizontalWhitespace valueText)) =
        .ok next := by
  unfold parsePair at parsed
  unfold readItem
  cases current : reading.currentSection with
  | none => simp only [current, reduceCtorEq] at parsed
  | some cursor =>
    simp only [current] at parsed
    have whole := @List.takeWhile_append_dropWhile _ (fun x => decide (x ≠ '=')) line
    split at parsed
    · cases parsed
    · next delimiter valueText cut =>
      have head := List.head?_dropWhile_not (fun x => decide (x ≠ '=')) line
      rw [cut] at head whole
      have same : delimiter = '=' := by simpa using head
      subst same
      split at parsed
      · cases parsed
      · next noEquals =>
        exact ⟨_, valueText, whole.symm, noEquals, parsed⟩

/-- What a line the reader accepts is known to say. -/
def Legible : IniItem → Prop
  | .header name => AdmissibleName name
  | .pair _ value => PlainValue value

theorem parseLine_reads {line : Text} (oneLine : '\n' ∉ line)
    (parsed : schema.parseLine reading line = .ok next) :
    ∃ item, IniLine line item ∧ schema.readLine reading item = .ok next ∧ ∀ said ∈ item, Legible said := by
  obtain ⟨before, after, pads, padsAfter, bare, whole⟩ := trim_spec isHorizontalWhitespace line
  unfold parseLine trimHorizontalWhitespace parseTrimmedLine at parsed
  split at parsed
  · next blank =>
    rw [blank, List.append_nil] at whole
    refine ⟨none, ?_, parsed, fun said member => by cases member⟩
    rw [whole]
    exact .blank (Padding.append pads padsAfter)
  · next first rest cut =>
    rw [cut] at whole bare parsed
    split at parsed
    · next marked =>
      refine ⟨none, ?_, parsed, fun said member => by cases member⟩
      rw [List.append_assoc, List.cons_append] at whole
      rw [whole]
      refine .comment pads marked fun member => oneLine ?_
      rw [whole]
      exact List.mem_append_right _ (List.mem_cons_of_mem _ member)
    · split at parsed
      · next bracket =>
        split at parsed
        · cases parsed
        · next formed =>
          rw [not_or, not_or, not_not, not_not] at formed
          obtain ⟨long, closed, early⟩ := formed
          obtain ⟨name, shape, inner, written, unbracketed⟩ :=
            header_shape long (congrArg some bracket) closed early
          rw [inner] at parsed
          rw [shape] at whole
          refine ⟨some (.header name), ?_, parsed, ?_⟩
          · rw [whole]
            exact .header pads padsAfter
          · intro said member
            cases member
            refine ⟨written, fun member => oneLine ?_, unbracketed⟩
            rw [whole]
            simp [member]
      · next noBracket =>
        obtain ⟨keyText, valueText, split, noEquals, stored⟩ := parsePair_reads parsed
        obtain ⟨beforeKey, afterKey, padsFront, padsKey, -, keyWhole⟩ :=
          trim_spec isHorizontalWhitespace keyText
        obtain ⟨beforeValue, afterValue, padsValue, padsBack, bareValue, valueWhole⟩ :=
          trim_spec isHorizontalWhitespace valueText
        refine ⟨some (.pair (trimHorizontalWhitespace keyText) (trimHorizontalWhitespace valueText)), ?_, stored, ?_⟩
        · have shape : line = before ++ beforeKey ++ trimHorizontalWhitespace keyText ++ afterKey ++
              '=' :: (beforeValue ++ trimHorizontalWhitespace valueText ++ (afterValue ++ after)) := by
            rw [whole, split]
            nth_rewrite 1 [keyWhole, valueWhole]
            simp only [trimHorizontalWhitespace, List.append_assoc, List.cons_append]
          rw [shape]
          exact .pair (Padding.append pads padsFront) padsKey padsValue (Padding.append padsBack padsAfter)
        · intro said member
          cases member
          have inLine : ∀ x ∈ trimHorizontalWhitespace valueText, x ∈ valueText := by
            intro x inside
            rw [valueWhole]
            exact List.mem_append_left _ (List.mem_append_right _ inside)
          refine ⟨fun inside => oneLine ?_, fun inside => noEquals (inLine _ inside), bareValue⟩
          rw [whole, split]
          simp [inLine _ inside]

end IniSchema

end Lines

end BlobRoyale.Application
