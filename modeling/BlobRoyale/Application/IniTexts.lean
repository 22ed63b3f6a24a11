import BlobRoyale.Simulation.Identity
import BlobRoyale.Application.IniLines

/-!
# What a text says

The lines of a text are read one by one: the reader makes of a rendering what its items say, and every text
it accepts renders the items it read.
-/

namespace BlobRoyale.Application

open DelimitedText

variable {content : Text} {item : Option IniItem}

theorem IniLine.oneLine (line : IniLine content item) (plain : ∀ said ∈ item, said.Plain) :
    '\n' ∉ content := by
  cases line with
  | blank pads => exact padding_oneLine pads
  | @comment before text mark pads marked oneLine =>
    rw [List.mem_append, List.mem_cons, not_or, not_or]
    refine ⟨padding_oneLine pads, ?_, oneLine⟩
    obtain rfl | rfl := marked
    · decide
    · decide
  | @header before name after pads padsAfter =>
    have name : AdmissibleName name := plain _ rfl
    simp [padding_oneLine pads, padding_oneLine padsAfter, name.oneLine]
  | @pair before key afterKey beforeValue value after pads padsKey padsValue padsAfter =>
    obtain ⟨plainKey, plainValue⟩ := plain _ rfl
    simp [padding_oneLine pads, padding_oneLine padsKey, padding_oneLine padsValue,
      padding_oneLine padsAfter, plainKey.oneLine, plainValue.oneLine]

theorem IniLine.silent (line : IniLine content item) (empty : content = []) : item = none := by
  cases line with
  | blank => rfl
  | comment => rfl
  | header => simp at empty
  | pair => simp at empty

/-- The endings the reader takes for no part of the last line. -/
def readEndings : List Text := [[], ['\r']]

variable {Section Field Family FamilyField : Type}
variable [DecidableEq Section] [DecidableEq Field] [DecidableEq Family] [DecidableEq FamilyField]
variable {schema : IniSchema Section Field Family FamilyField}
variable {reading next : IniReading Section Field Family FamilyField} {text : Text} {items : List IniItem}

namespace IniSchema

def readItems (schema : IniSchema Section Field Family FamilyField)
    (reading : IniReading Section Field Family FamilyField) (items : List IniItem) :
    Except IniFault (IniReading Section Field Family FamilyField) :=
  items.foldlM schema.readItem reading

theorem readItems_nil : schema.readItems reading [] = .ok next ↔ reading = next := by
  rw [readItems, List.foldlM_nil]
  exact Iff.of_eq (Except.ok.injEq reading next)

theorem parseLines_nil {sourcePath : String} {lineNumber : Nat} :
    schema.parseLines sourcePath lineNumber [] reading = .ok next ↔ reading = next := by
  rw [parseLines, Except.ok.injEq]

theorem readItems_line (item : Option IniItem) (items : List IniItem) :
    schema.readItems reading (item.toList ++ items) =
      schema.readLine reading item >>= fun after => schema.readItems after items := by
  cases item with
  | none => rfl
  | some said => exact List.foldlM_cons

theorem parseLines_cons {sourcePath : String} {lineNumber : Nat} {line : Text} {lines : List Text} :
    schema.parseLines sourcePath lineNumber (line :: lines) reading = .ok next ↔
      ∃ after, schema.parseLine reading (removeReturn line) = .ok after ∧
        schema.parseLines sourcePath (lineNumber + 1) lines after = .ok next := by
  rw [parseLines]
  cases schema.parseLine reading (removeReturn line) with
  | error fault => simp
  | ok after => simp

theorem readItems_item (item : Option IniItem) :
    schema.readItems reading item.toList = schema.readLine reading item := by
  cases item with
  | none => rfl
  | some said => exact bind_pure (schema.readItem reading said)

theorem mem_lineBreaks {lineBreak : Text} :
    lineBreak ∈ lineBreaks ↔ ∃ ending ∈ readEndings, lineBreak = ending ++ ['\n'] := by
  simp [lineBreaks, readEndings]

theorem removeReturn_ends (line : Text) : ∃ ending ∈ readEndings, line = removeReturn line ++ ending := by
  obtain same | returned := removeReturn_spec line
  · exact ⟨[], List.mem_cons_self, by rw [List.append_nil]; exact same⟩
  · exact ⟨['\r'], List.mem_cons_of_mem _ List.mem_cons_self, returned⟩

theorem oneLine_returned {line : Text} (oneLine : '\n' ∉ line) : '\n' ∉ removeReturn line := by
  obtain ⟨ending, -, whole⟩ := removeReturn_ends line
  intro member
  rw [whole] at oneLine
  exact oneLine (List.mem_append_left _ member)

theorem removeReturn_ending {ending : Text} (line : IniLine content item)
    (unreturned : ∀ said ∈ item, said.Unreturned) (allowed : ending ∈ readEndings) :
    IniLine (removeReturn (content ++ ending)) item := by
  rw [readEndings, List.mem_cons, List.mem_singleton] at allowed
  obtain rfl | rfl := allowed
  · rw [List.append_nil]
    exact line.removeReturn unreturned
  · rw [removeReturn_returned]
    exact line

theorem oneLine_ending {ending : Text} (oneLine : '\n' ∉ content) (allowed : ending ∈ readEndings) :
    '\n' ∉ content ++ ending := by
  rw [readEndings, List.mem_cons, List.mem_singleton] at allowed
  obtain rfl | rfl := allowed
  · simpa using oneLine
  · simpa using oneLine

theorem parseLines_tells (sourcePath : String) (rendered : IniText readEndings text items)
    (plain : ∀ said ∈ items, said.Plain ∧ said.Unreturned) (lineNumber : Nat)
    (read : schema.readItems reading items = .ok next) :
    schema.parseLines sourcePath lineNumber (linesOf '\n' text) reading = .ok next := by
  induction rendered generalizing reading lineNumber with
  | empty =>
    rw [linesOf_nil, parseLines_nil]
    exact readItems_nil.mp read
  | @last content ending item line allowed =>
    have plainItem : ∀ said ∈ item, said.Plain := fun said member => (plain said (Option.mem_toList.mpr member)).1
    have kept := removeReturn_ending line (fun said member => (plain said (Option.mem_toList.mpr member)).2) allowed
    rw [readItems_item] at read
    by_cases empty : content ++ ending = []
    · rw [line.silent (List.append_eq_nil_iff.mp empty).1] at read
      rw [empty, linesOf_nil, parseLines_nil]
      exact Except.ok.inj read
    · rw [linesOf_unclosed (oneLine_ending (line.oneLine plainItem) allowed) empty, parseLines_cons]
      exact ⟨next, (parseLine_tells kept plainItem).trans read, parseLines_nil.mpr rfl⟩
  | @line content lineBreak rest item items line broken following ih =>
    have plainItem : ∀ said ∈ item, said.Plain := fun said member =>
      (plain said (List.mem_append_left _ (Option.mem_toList.mpr member))).1
    obtain ⟨ending, allowed, rfl⟩ := mem_lineBreaks.mp broken
    have kept := removeReturn_ending line (fun said member =>
      (plain said (List.mem_append_left _ (Option.mem_toList.mpr member))).2) allowed
    have shape : content ++ (ending ++ ['\n']) ++ rest = content ++ ending ++ '\n' :: rest := by simp
    rw [readItems_line] at read
    obtain ⟨after, first, others⟩ := Simulation.bind_eq_ok.mp read
    rw [shape, linesOf_closed (oneLine_ending (line.oneLine plainItem) allowed), parseLines_cons]
    exact ⟨after, (parseLine_tells kept plainItem).trans first,
      ih (fun said member => plain said (List.mem_append_right _ member)) _ others⟩

theorem parseLines_reads (sourcePath : String) (lineNumber : Nat)
    (parsed : schema.parseLines sourcePath lineNumber (linesOf '\n' text) reading = .ok next) :
    ∃ items, IniText readEndings text items ∧ schema.readItems reading items = .ok next ∧
      ∀ said ∈ items, Legible said := by
  induction text using induction_on_lines '\n' generalizing reading lineNumber with
  | unclosed line oneLine =>
    by_cases empty : line = []
    · rw [empty, linesOf_nil, parseLines_nil] at parsed
      rw [empty]
      exact ⟨[], .empty, readItems_nil.mpr parsed, fun said member => by cases member⟩
    · rw [linesOf_unclosed oneLine empty, parseLines_cons] at parsed
      obtain ⟨after, first, others⟩ := parsed
      cases parseLines_nil.mp others
      obtain ⟨item, said, read, legible⟩ := parseLine_reads (oneLine_returned oneLine) first
      obtain ⟨ending, allowed, whole⟩ := removeReturn_ends line
      rw [whole]
      exact ⟨item.toList, .last said allowed, (readItems_item item).trans read,
        fun told member => legible told (Option.mem_toList.mp member)⟩
  | closed line rest oneLine ih =>
    rw [linesOf_closed oneLine, parseLines_cons] at parsed
    obtain ⟨after, first, others⟩ := parsed
    obtain ⟨item, said, read, legible⟩ := parseLine_reads (oneLine_returned oneLine) first
    obtain ⟨items, rendered, readOthers, legibleOthers⟩ := ih _ others
    obtain ⟨ending, allowed, whole⟩ := removeReturn_ends line
    have shape : line ++ '\n' :: rest = removeReturn line ++ (ending ++ ['\n']) ++ rest := by
      rw [← List.append_assoc, ← whole, List.append_assoc, List.singleton_append]
    rw [shape]
    refine ⟨item.toList ++ items, .line said (mem_lineBreaks.mpr ⟨ending, allowed, rfl⟩) rendered, ?_, ?_⟩
    · rw [readItems_line, read]
      exact readOthers
    · intro told member
      obtain inLine | inRest := List.mem_append.mp member
      · exact legible told (Option.mem_toList.mp inLine)
      · exact legibleOthers told inRest

end IniSchema

end BlobRoyale.Application
