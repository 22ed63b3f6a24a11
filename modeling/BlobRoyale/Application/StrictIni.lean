import BlobRoyale.Library.DelimitedText

/-!
# A strict INI reader

The grammar the server configuration and the map file share, over the tables of a schema: one section header
per line, exactly one equals sign, every key of a closed table once. A text is the list of its bytes, each
read as the character of its code.
-/

namespace BlobRoyale.Application

open DelimitedText

abbrev Text := List Char

inductive ApplicationInputErrorCode where
  | configurationSyntaxInvalid
  | configurationSectionUnknown
  | configurationSectionDuplicate
  | configurationSectionLimitExceeded
  | configurationKeyUnknown
  | configurationKeyDuplicate
  | configurationKeyMissing
  | configurationValueInvalid
  | mapValueInvalid
  deriving DecidableEq

structure ApplicationInputError where
  code : ApplicationInputErrorCode
  context : String
  detail : String
  deriving DecidableEq

inductive ConfigValueSyntax where
  | singleValue
  | commaDelimitedList
  deriving DecidableEq

/-- Why a line is refused. -/
inductive IniFault where
  | headerForm
  | sectionDuplicate
  | sectionUnknown
  | sectionLimitExceeded
  | outsideSection
  | equalsSigns
  | keyEmpty
  | keyUnknown
  | keyDuplicate
  | valueEmpty
  deriving DecidableEq

structure IniFieldSpec where
  sectionName : Text
  key : Text
  valueSyntax : ConfigValueSyntax := .singleValue

structure IniFamilyFieldSpec (Family : Type) where
  family : Family
  key : Text
  valueSyntax : ConfigValueSyntax := .singleValue

/-- The tables of one reader, how it resolves a family header, and how it words what it refuses. -/
structure IniSchema (Section Field Family FamilyField : Type) where
  sections : List Section
  sectionName : Section → Text
  fields : List Field
  fieldSpec : Field → IniFieldSpec
  familyFields : List FamilyField
  familyFieldSpec : FamilyField → IniFamilyFieldSpec Family
  familyPrefix : Family → Text
  findSectionFamily : Text → Option (Family × Text)
  namesEmptyKeys : Bool
  instanceLimit : Option Nat
  complaint : IniFault → ApplicationInputErrorCode × String
  missingCode : ApplicationInputErrorCode
  missingContext : String → String
  missingDetail : String

structure IniInstance (Family FamilyField : Type) where
  family : Family
  name : Text
  values : FamilyField → Option Text

structure IniDocument (Section Field Family FamilyField : Type) where
  sectionSeen : Section → Bool
  values : Field → Option Text
  instances : List (IniInstance Family FamilyField)

/-- Where the pairs after a header are stored. -/
inductive IniCursor (Section : Type) where
  | fixed (current : Section)
  | familyInstance (index : Nat)

structure IniReading (Section Field Family FamilyField : Type) where
  document : IniDocument Section Field Family FamilyField
  currentSection : Option (IniCursor Section)

def isHorizontalWhitespace (character : Char) : Bool := character = ' ' || character = '\t'

def trimHorizontalWhitespace (value : Text) : Text := trim isHorizontalWhitespace value

/-- The line without the carriage return before its line feed. -/
def removeReturn (line : Text) : Text :=
  if line.getLast? = some '\r' then line.dropLast else line

def sourceLineContext (sourcePath : String) (lineNumber : Nat) : String :=
  sourcePath ++ ":" ++ toString lineNumber

def storeConfigValue (stored : Option Text) (valueSyntax : ConfigValueSyntax) (parsedValue : Text) :
    Except IniFault Text :=
  if stored.isSome then .error .keyDuplicate
  else if parsedValue = [] ∧ valueSyntax ≠ .commaDelimitedList then .error .valueEmpty
  else .ok parsedValue

namespace IniSchema

variable {Section Field Family FamilyField : Type}
variable [DecidableEq Section] [DecidableEq Field] [DecidableEq Family] [DecidableEq FamilyField]
variable (schema : IniSchema Section Field Family FamilyField)

def findSection (name : Text) : Option Section :=
  schema.sections.find? fun candidate => schema.sectionName candidate = name

def findField (name key : Text) : Option Field :=
  schema.fields.find? fun field =>
    (schema.fieldSpec field).sectionName = name ∧ (schema.fieldSpec field).key = key

def findFamilyField (family : Family) (key : Text) : Option FamilyField :=
  schema.familyFields.find? fun field =>
    (schema.familyFieldSpec field).family = family ∧ (schema.familyFieldSpec field).key = key

def fieldContext (field : Field) : Text :=
  (schema.fieldSpec field).sectionName ++ '.' :: (schema.fieldSpec field).key

def familyFieldContext (declared : IniInstance Family FamilyField) (field : FamilyField) : Text :=
  schema.familyPrefix declared.family ++ declared.name ++ '.' :: (schema.familyFieldSpec field).key

def emptyDocument : IniDocument Section Field Family FamilyField where
  sectionSeen := fun _ => false
  values := fun _ => none
  instances := []

def openSection (document : IniDocument Section Field Family FamilyField) (name : Text) :
    Except IniFault (IniReading Section Field Family FamilyField) :=
  match schema.findSection name with
  | some found =>
    if document.sectionSeen found then .error .sectionDuplicate
    else .ok {
      document := { document with sectionSeen := Function.update document.sectionSeen found true }
      currentSection := some (.fixed found) }
  | none =>
    match schema.findSectionFamily name with
    | none => .error .sectionUnknown
    | some (family, instanceName) =>
      if document.instances.any fun declared => declared.family = family ∧ declared.name = instanceName then
        .error .sectionDuplicate
      else if schema.instanceLimit.any fun limit => limit ≤ document.instances.length then
        .error .sectionLimitExceeded
      else .ok {
        document := { document with instances := document.instances ++ [⟨family, instanceName, fun _ => none⟩] }
        currentSection := some (.familyInstance document.instances.length) }

def storeFixed (document : IniDocument Section Field Family FamilyField) (current : Section)
    (key value : Text) : Except IniFault (IniDocument Section Field Family FamilyField) :=
  match schema.findField (schema.sectionName current) key with
  | none => .error .keyUnknown
  | some field => do
    let stored ← storeConfigValue (document.values field) (schema.fieldSpec field).valueSyntax value
    return { document with values := Function.update document.values field (some stored) }

/-- The cursor's index is that of a declared instance, so there is one to store into. -/
def storeDeclared (document : IniDocument Section Field Family FamilyField) (index : Nat)
    (key value : Text) : Except IniFault (IniDocument Section Field Family FamilyField) :=
  match document.instances[index]? with
  | none => .error .keyUnknown
  | some declared =>
    match schema.findFamilyField declared.family key with
    | none => .error .keyUnknown
    | some field => do
      let stored ← storeConfigValue (declared.values field) (schema.familyFieldSpec field).valueSyntax value
      let values := Function.update declared.values field (some stored)
      return { document with instances := document.instances.set index { declared with values } }

def storePair (document : IniDocument Section Field Family FamilyField) (cursor : IniCursor Section)
    (key value : Text) : Except IniFault (IniDocument Section Field Family FamilyField) :=
  if schema.namesEmptyKeys ∧ key = [] then .error .keyEmpty
  else
    match cursor with
    | .familyInstance index => schema.storeDeclared document index key value
    | .fixed current => schema.storeFixed document current key value

def parsePair (reading : IniReading Section Field Family FamilyField) (line : Text) :
    Except IniFault (IniReading Section Field Family FamilyField) :=
  match reading.currentSection with
  | none => .error .outsideSection
  | some cursor =>
    match line.dropWhile (· ≠ '=') with
    | [] => .error .equalsSigns
    | _ :: value =>
      if '=' ∈ value then .error .equalsSigns
      else do
        let key := trimHorizontalWhitespace (line.takeWhile (· ≠ '='))
        let document ← schema.storePair reading.document cursor key (trimHorizontalWhitespace value)
        return { reading with document }

def parseTrimmedLine (reading : IniReading Section Field Family FamilyField) (line : Text) :
    Except IniFault (IniReading Section Field Family FamilyField) :=
  match line with
  | [] => .ok reading
  | first :: _ =>
    if first = '#' ∨ first = ';' then .ok reading
    else if first = '[' then
      if line.length < 3 ∨ line.getLast? ≠ some ']' ∨ line.idxOf ']' ≠ line.length - 1 then
        .error .headerForm
      else schema.openSection reading.document line.tail.dropLast
    else schema.parsePair reading line

def parseLine (reading : IniReading Section Field Family FamilyField) (line : Text) :
    Except IniFault (IniReading Section Field Family FamilyField) :=
  schema.parseTrimmedLine reading (trimHorizontalWhitespace line)

def refuse (sourcePath : String) (lineNumber : Nat) (fault : IniFault) : ApplicationInputError where
  code := (schema.complaint fault).1
  context := sourceLineContext sourcePath lineNumber
  detail := (schema.complaint fault).2

def parseLines (sourcePath : String) :
    Nat → List Text → IniReading Section Field Family FamilyField →
      Except ApplicationInputError (IniReading Section Field Family FamilyField)
  | _, [], reading => .ok reading
  | lineNumber, line :: lines, reading =>
    match schema.parseLine reading (removeReturn line) with
    | .error fault => .error (schema.refuse sourcePath lineNumber fault)
    | .ok next => parseLines sourcePath (lineNumber + 1) lines next

def missingFields (document : IniDocument Section Field Family FamilyField) : List Text :=
  (schema.fields.filter fun field => (document.values field).isNone).map schema.fieldContext ++
    document.instances.flatMap fun declared =>
      (schema.familyFields.filter fun field =>
        (schema.familyFieldSpec field).family = declared.family ∧ (declared.values field).isNone).map
          (schema.familyFieldContext declared)

def requireAllFields (sourcePath : String) (document : IniDocument Section Field Family FamilyField) :
    Except ApplicationInputError Unit :=
  if schema.missingFields document = [] then .ok ()
  else .error {
    code := schema.missingCode
    context := schema.missingContext sourcePath
    detail := schema.missingDetail ++
      String.ofList ([',', ' '].intercalate (schema.missingFields document)) }

def parse (contents : Text) (sourcePath : String) :
    Except ApplicationInputError (IniDocument Section Field Family FamilyField) := do
  let reading ← schema.parseLines sourcePath 1 (linesOf '\n' contents) ⟨emptyDocument, none⟩
  schema.requireAllFields sourcePath reading.document
  return reading.document

end IniSchema

end BlobRoyale.Application

/-!
# Renderings of an assignment

What an INI text may look like when it writes an assignment: its sections and keys in any order, its lines
padded, blank lines and comments anywhere, its lines ended by a line feed with or without a carriage return.
-/

namespace BlobRoyale.Application

open DelimitedText

def isMargin (character : Char) : Bool := isHorizontalWhitespace character || character = '\r'

/-- A value a key may take, what it may begin and end in left open. -/
structure AdmissibleValue (front back : Char → Bool) (valueSyntax : ConfigValueSyntax) (value : Text) :
    Prop where
  written : value = [] → valueSyntax = .commaDelimitedList
  oneLine : '\n' ∉ value
  noEquals : '=' ∉ value
  begun : ∀ character ∈ value.head?, front character = false
  ended : ∀ character ∈ value.getLast?, back character = false

structure AdmissibleName (name : Text) : Prop where
  written : name ≠ []
  oneLine : '\n' ∉ name
  unbracketed : ']' ∉ name

/-- What a line that is neither blank nor a comment says. -/
inductive IniItem where
  | header (name : Text)
  | pair (key value : Text)
  deriving DecidableEq

/-- The ways to write one line. -/
inductive IniLine : Text → Option IniItem → Prop where
  | blank {content : Text} (pads : Padding isHorizontalWhitespace content) : IniLine content none
  | comment {before text : Text} {mark : Char} (pads : Padding isHorizontalWhitespace before)
      (marked : mark = '#' ∨ mark = ';') (oneLine : '\n' ∉ text) : IniLine (before ++ mark :: text) none
  | header {before name after : Text} (pads : Padding isHorizontalWhitespace before)
      (padsAfter : Padding isHorizontalWhitespace after) :
      IniLine (before ++ ('[' :: name ++ [']']) ++ after) (some (.header name))
  | pair {before key afterKey beforeValue value after : Text}
      (pads : Padding isHorizontalWhitespace before) (padsKey : Padding isHorizontalWhitespace afterKey)
      (padsValue : Padding isHorizontalWhitespace beforeValue)
      (padsAfter : Padding isHorizontalWhitespace after) :
      IniLine (before ++ key ++ afterKey ++ '=' :: (beforeValue ++ value ++ after)) (some (.pair key value))

def lineBreaks : List Text := [['\n'], ['\r', '\n']]

/-- The ways to write a text line by line, the last line closed by nothing but one of the endings. -/
inductive IniText (endings : List Text) : Text → List IniItem → Prop where
  | empty : IniText endings [] []
  | last {content ending : Text} {item : Option IniItem} (line : IniLine content item)
      (allowed : ending ∈ endings) : IniText endings (content ++ ending) item.toList
  | line {content lineBreak rest : Text} {item : Option IniItem} {items : List IniItem}
      (line : IniLine content item) (broken : lineBreak ∈ lineBreaks) (following : IniText endings rest items) :
      IniText endings (content ++ lineBreak ++ rest) (item.toList ++ items)

/-- One section as a text writes it: its pairs in the order of their lines. -/
inductive IniBlock (Section Field Family FamilyField : Type) where
  | fixed (current : Section) (entries : List (Field × Text))
  | declared (family : Family) (name : Text) (entries : List (FamilyField × Text))

namespace IniSchema

variable {Section Field Family FamilyField : Type}
variable (schema : IniSchema Section Field Family FamilyField)

abbrev FamilyKey (family : Family) := { field : FamilyField // (schema.familyFieldSpec field).family = family }

structure InstanceAssignment where
  family : Family
  name : Text
  value : schema.FamilyKey family → Text

/-- A value for every fixed key, and a list of instances with a value for every key of their family. -/
structure Assignment where
  value : Field → Text
  instances : List schema.InstanceAssignment

/-- What the values and the names of an assignment are where a text can write it. -/
structure Admissible (front back : Char → Bool) (assignment : schema.Assignment) : Prop where
  values : ∀ field, AdmissibleValue front back (schema.fieldSpec field).valueSyntax (assignment.value field)
  names : ∀ declared ∈ assignment.instances, AdmissibleName declared.name
  familyValues : ∀ declared ∈ assignment.instances, ∀ field,
    AdmissibleValue front back (schema.familyFieldSpec field.1).valueSyntax (declared.value field)
  distinct : (assignment.instances.map fun declared => (declared.family, declared.name)).Nodup
  within : ∀ limit ∈ schema.instanceLimit, assignment.instances.length ≤ limit

variable [DecidableEq Family]

def InstanceAssignment.document {schema : IniSchema Section Field Family FamilyField}
    (declared : schema.InstanceAssignment) : IniInstance Family FamilyField where
  family := declared.family
  name := declared.name
  values := fun field =>
    if owned : (schema.familyFieldSpec field).family = declared.family then some (declared.value ⟨field, owned⟩)
    else none

/-- The document of a parse that yields the assignment. -/
def Assignment.document {schema : IniSchema Section Field Family FamilyField} (assignment : schema.Assignment) :
    IniDocument Section Field Family FamilyField where
  sectionSeen := fun _ => true
  values := fun field => some (assignment.value field)
  instances := assignment.instances.map InstanceAssignment.document

/-- The pairs of a fixed section, in the order of the table. -/
def Assignment.entries {schema : IniSchema Section Field Family FamilyField} (assignment : schema.Assignment)
    (current : Section) : List (Field × Text) :=
  (schema.fields.filter fun field => (schema.fieldSpec field).sectionName = schema.sectionName current).map
    fun field => (field, assignment.value field)

/-- The pairs of an instance, in the order of the table. -/
def InstanceAssignment.entries {schema : IniSchema Section Field Family FamilyField}
    (declared : schema.InstanceAssignment) : List (FamilyField × Text) :=
  schema.familyFields.filterMap fun field =>
    (declared.document.values field).map fun value => (field, value)

end IniSchema

namespace IniBlock

variable {Section Field Family FamilyField : Type}

def fixed? : IniBlock Section Field Family FamilyField → Option Section
  | .fixed current _ => some current
  | .declared _ _ _ => none

def isDeclared : IniBlock Section Field Family FamilyField → Bool
  | .fixed _ _ => false
  | .declared _ _ _ => true

def items (schema : IniSchema Section Field Family FamilyField) :
    IniBlock Section Field Family FamilyField → List IniItem
  | .fixed current entries =>
    .header (schema.sectionName current) ::
      entries.map fun entry => .pair (schema.fieldSpec entry.1).key entry.2
  | .declared family name entries =>
    .header (schema.familyPrefix family ++ name) ::
      entries.map fun entry => .pair (schema.familyFieldSpec entry.1).key entry.2

end IniBlock

namespace IniSchema

variable {Section Field Family FamilyField : Type} [DecidableEq Family]
variable (schema : IniSchema Section Field Family FamilyField)

/-- The block writes the instance, its keys in any order. -/
def WritesInstance (declared : schema.InstanceAssignment) (block : IniBlock Section Field Family FamilyField) :
    Prop :=
  ∃ entries : List (FamilyField × Text),
    block = .declared declared.family declared.name entries ∧ entries.Perm declared.entries

/-- The blocks write the assignment: the fixed sections and all keys in any order, the instances in theirs. -/
structure Arranges (assignment : schema.Assignment) (blocks : List (IniBlock Section Field Family FamilyField)) :
    Prop where
  sections : (blocks.filterMap IniBlock.fixed?).Perm schema.sections
  pairs : ∀ current entries, .fixed current entries ∈ blocks → entries.Perm (assignment.entries current)
  instances : List.Forall₂ schema.WritesInstance assignment.instances (blocks.filter IniBlock.isDeclared)

def Renders (endings : List Text) (assignment : schema.Assignment) (text : Text) : Prop :=
  ∃ blocks : List (IniBlock Section Field Family FamilyField),
    schema.Arranges assignment blocks ∧ IniText endings text (blocks.flatMap (IniBlock.items schema))

end IniSchema

end BlobRoyale.Application
