import BlobRoyale.Library.Transition
import BlobRoyale.Application.IniTexts

/-!
# What a list of sections amounts to

The reading after a list of blocks is a function of the blocks. Reading one more item opens a block or adds a
pair to the last, so what the reader accepts item by item are the sound lists of blocks.
-/

namespace BlobRoyale.Application

open DelimitedText

variable {Section Field Family FamilyField : Type}

namespace IniSchema

/-- The tables name no two things alike, and nothing in a way a line cannot carry. -/
structure Lawful (schema : IniSchema Section Field Family FamilyField) : Prop where
  sections : ∀ current, current ∈ schema.sections
  sectionsNodup : schema.sections.Nodup
  fields : ∀ field, field ∈ schema.fields
  fieldsNodup : schema.fields.Nodup
  familyFields : ∀ field, field ∈ schema.familyFields
  familyFieldsNodup : schema.familyFields.Nodup
  sectionNames : ∀ current other, schema.sectionName current = schema.sectionName other → current = other
  keys : ∀ field other, (schema.fieldSpec field).sectionName = (schema.fieldSpec other).sectionName →
    (schema.fieldSpec field).key = (schema.fieldSpec other).key → field = other
  familyKeys : ∀ field other, (schema.familyFieldSpec field).family = (schema.familyFieldSpec other).family →
    (schema.familyFieldSpec field).key = (schema.familyFieldSpec other).key → field = other
  owned : ∀ field, ∃ current, schema.sectionName current = (schema.fieldSpec field).sectionName
  filled : ∀ current, ∃ field, (schema.fieldSpec field).sectionName = schema.sectionName current
  resolves : ∀ text family name, schema.findSectionFamily text = some (family, name) ↔
    text = schema.familyPrefix family ++ name ∧ name ≠ []
  apart : ∀ current family name, schema.sectionName current ≠ schema.familyPrefix family ++ name
  sectionPlain : ∀ current, AdmissibleName (schema.sectionName current)
  familyPlain : ∀ family, '\n' ∉ schema.familyPrefix family ∧ ']' ∉ schema.familyPrefix family
  keyPlain : ∀ field, PlainKey (schema.fieldSpec field).key
  familyKeyPlain : ∀ field, PlainKey (schema.familyFieldSpec field).key

end IniSchema

namespace IniBlock

def fixedEntries : IniBlock Section Field Family FamilyField → List (Field × Text)
  | .fixed _ entries => entries
  | .declared _ _ _ => []

def declared? : IniBlock Section Field Family FamilyField → Option (Family × Text)
  | .fixed _ _ => none
  | .declared family name _ => some (family, name)

variable [DecidableEq FamilyField]

def instance? : IniBlock Section Field Family FamilyField → Option (IniInstance Family FamilyField)
  | .fixed _ _ => none
  | .declared family name entries => some ⟨family, name, fun field => entries.lookup field⟩

/-- The pairs of one block are of its section, each key once. -/
def Sound (schema : IniSchema Section Field Family FamilyField) :
    IniBlock Section Field Family FamilyField → Prop
  | .fixed current entries => ∀ entry ∈ entries,
    (schema.fieldSpec entry.1).sectionName = schema.sectionName current ∧
      (entry.2 = [] → (schema.fieldSpec entry.1).valueSyntax = .commaDelimitedList)
  | .declared family name entries => name ≠ [] ∧ (entries.map Prod.fst).Nodup ∧ ∀ entry ∈ entries,
    (schema.familyFieldSpec entry.1).family = family ∧
      (entry.2 = [] → (schema.familyFieldSpec entry.1).valueSyntax = .commaDelimitedList)

end IniBlock

section Readings

variable [DecidableEq Section] [DecidableEq Field] [DecidableEq FamilyField]

def documentOf (blocks : List (IniBlock Section Field Family FamilyField)) :
    IniDocument Section Field Family FamilyField where
  sectionSeen := fun current => decide (current ∈ blocks.filterMap IniBlock.fixed?)
  values := fun field => (blocks.flatMap IniBlock.fixedEntries).lookup field
  instances := blocks.filterMap IniBlock.instance?

def cursorOf (blocks : List (IniBlock Section Field Family FamilyField)) : Option (IniCursor Section) :=
  blocks.getLast?.map fun
    | .fixed current _ => .fixed current
    | .declared _ _ _ => .familyInstance ((blocks.filterMap IniBlock.instance?).length - 1)

def readingOf (blocks : List (IniBlock Section Field Family FamilyField)) :
    IniReading Section Field Family FamilyField where
  document := documentOf blocks
  currentSection := cursorOf blocks

structure SoundBlocks (schema : IniSchema Section Field Family FamilyField)
    (blocks : List (IniBlock Section Field Family FamilyField)) : Prop where
  sections : (blocks.filterMap IniBlock.fixed?).Nodup
  fields : ((blocks.flatMap IniBlock.fixedEntries).map Prod.fst).Nodup
  names : (blocks.filterMap IniBlock.declared?).Nodup
  within : ∀ limit ∈ schema.instanceLimit, (blocks.filterMap IniBlock.declared?).length ≤ limit
  block : ∀ block ∈ blocks, block.Sound schema

/-- What one item may add to a list of blocks. -/
inductive Writes (schema : IniSchema Section Field Family FamilyField) :
    List (IniBlock Section Field Family FamilyField) → IniItem →
      List (IniBlock Section Field Family FamilyField) → Prop where
  | openFixed {blocks : List (IniBlock Section Field Family FamilyField)} {current : Section}
      (fresh : current ∉ blocks.filterMap IniBlock.fixed?) :
      Writes schema blocks (.header (schema.sectionName current)) (blocks ++ [.fixed current []])
  | openDeclared {blocks : List (IniBlock Section Field Family FamilyField)} {family : Family} {name : Text}
      (written : name ≠ []) (fresh : (family, name) ∉ blocks.filterMap IniBlock.declared?)
      (within : ∀ limit ∈ schema.instanceLimit, (blocks.filterMap IniBlock.declared?).length < limit) :
      Writes schema blocks (.header (schema.familyPrefix family ++ name)) (blocks ++ [.declared family name []])
  | pairFixed {blocks : List (IniBlock Section Field Family FamilyField)} {current : Section}
      {entries : List (Field × Text)} {field : Field} {value : Text}
      (owned : (schema.fieldSpec field).sectionName = schema.sectionName current)
      (fresh : field ∉ ((blocks ++ [IniBlock.fixed current entries]).flatMap IniBlock.fixedEntries).map Prod.fst)
      (given : value = [] → (schema.fieldSpec field).valueSyntax = .commaDelimitedList) :
      Writes schema (blocks ++ [.fixed current entries]) (.pair (schema.fieldSpec field).key value)
        (blocks ++ [.fixed current (entries ++ [(field, value)])])
  | pairDeclared {blocks : List (IniBlock Section Field Family FamilyField)} {family : Family} {name : Text}
      {entries : List (FamilyField × Text)} {field : FamilyField} {value : Text}
      (owned : (schema.familyFieldSpec field).family = family) (fresh : field ∉ entries.map Prod.fst)
      (given : value = [] → (schema.familyFieldSpec field).valueSyntax = .commaDelimitedList) :
      Writes schema (blocks ++ [.declared family name entries]) (.pair (schema.familyFieldSpec field).key value)
        (blocks ++ [.declared family name (entries ++ [(field, value)])])

end Readings

section Tables

variable {schema : IniSchema Section Field Family FamilyField}

theorem find?_unique {α : Type} {members : List α} {p : α → Bool} {found : α} (member : found ∈ members)
    (accepted : p found = true) (unique : ∀ other ∈ members, p other = true → other = found) :
    members.find? p = some found := by
  cases search : members.find? p with
  | none => exact absurd accepted (List.find?_eq_none.mp search found member)
  | some other =>
    rw [unique other (List.mem_of_find?_eq_some search) (List.find?_some search)]

namespace IniSchema

variable (lawful : schema.Lawful)
include lawful

theorem findSection_eq_some {name : Text} {current : Section} :
    schema.findSection name = some current ↔ schema.sectionName current = name := by
  constructor
  · intro found
    have accepted := List.find?_some found
    exact of_decide_eq_true accepted
  · rintro rfl
    refine find?_unique (lawful.sections current) (decide_eq_true rfl) fun other _ same => ?_
    exact lawful.sectionNames other current (of_decide_eq_true same)

theorem findField_eq_some {current : Section} {key : Text} {field : Field} :
    schema.findField (schema.sectionName current) key = some field ↔
      (schema.fieldSpec field).sectionName = schema.sectionName current ∧ (schema.fieldSpec field).key = key := by
  constructor
  · intro found
    have accepted := List.find?_some found
    exact of_decide_eq_true accepted
  · intro named
    refine find?_unique (lawful.fields field) (decide_eq_true named) fun other _ same => ?_
    have others := of_decide_eq_true same
    exact lawful.keys other field (others.1.trans named.1.symm) (others.2.trans named.2.symm)

theorem findFamilyField_eq_some [DecidableEq Family] {family : Family} {key : Text} {field : FamilyField} :
    schema.findFamilyField family key = some field ↔
      (schema.familyFieldSpec field).family = family ∧ (schema.familyFieldSpec field).key = key := by
  constructor
  · intro found
    have accepted := List.find?_some found
    exact of_decide_eq_true accepted
  · intro named
    refine find?_unique (lawful.familyFields field) (decide_eq_true named) fun other _ same => ?_
    have others := of_decide_eq_true same
    exact lawful.familyKeys other field (others.1.trans named.1.symm) (others.2.trans named.2.symm)

theorem findSection_declared {family : Family} {name : Text} :
    schema.findSection (schema.familyPrefix family ++ name) = none := by
  cases found : schema.findSection (schema.familyPrefix family ++ name) with
  | none => rfl
  | some current => exact absurd ((findSection_eq_some lawful).mp found) (lawful.apart current family name)

end IniSchema

theorem storeConfigValue_eq_ok {stored : Option Text} {valueSyntax : ConfigValueSyntax} {parsed kept : Text} :
    storeConfigValue stored valueSyntax parsed = .ok kept ↔
      stored = none ∧ (parsed = [] → valueSyntax = .commaDelimitedList) ∧ kept = parsed := by
  unfold storeConfigValue
  cases stored with
  | some value => simp
  | none =>
    by_cases refused : parsed = [] ∧ valueSyntax ≠ .commaDelimitedList
    · rw [Option.isSome_none, if_neg Bool.false_ne_true, if_pos refused]
      constructor
      · intro impossible
        cases impossible
      · intro allowed
        exact absurd (allowed.2.1 refused.1) refused.2
    · rw [Option.isSome_none, if_neg Bool.false_ne_true, if_neg refused, Except.ok.injEq]
      constructor
      · intro same
        refine ⟨rfl, fun empty => ?_, same.symm⟩
        by_contra other
        exact refused ⟨empty, other⟩
      · intro allowed
        exact allowed.2.2.symm

end Tables

section Documents

variable [DecidableEq Section] [DecidableEq Field] [DecidableEq FamilyField]
variable {blocks : List (IniBlock Section Field Family FamilyField)}

theorem lookup_eq_none {α : Type} [DecidableEq α] {entries : List (α × Text)} {key : α} :
    entries.lookup key = none ↔ key ∉ entries.map Prod.fst := by
  rw [List.lookup_eq_none_iff]
  constructor
  · intro apart member
    obtain ⟨entry, inside, same⟩ := List.mem_map.mp member
    have differs := apart entry inside
    exact bne_iff_ne.mp differs same.symm
  · intro absent entry inside
    refine bne_iff_ne.mpr fun same => ?_
    exact absent (List.mem_map.mpr ⟨entry, inside, same.symm⟩)

theorem lookup_append {α : Type} [DecidableEq α] {entries : List (α × Text)} {key : α} {value : Text}
    (fresh : key ∉ entries.map Prod.fst) :
    (fun asked => (entries ++ [(key, value)]).lookup asked) =
      Function.update (fun asked => entries.lookup asked) key (some value) := by
  funext asked
  rw [List.lookup_append]
  by_cases same : asked = key
  · rw [same, Function.update_self, lookup_eq_none.mpr fresh, List.lookup_cons, beq_self_eq_true]
    rfl
  · rw [Function.update_of_ne same, List.lookup_cons, beq_eq_false_iff_ne.mpr same]
    exact Option.or_none

@[simp]
theorem documentOf_nil : documentOf ([] : List (IniBlock Section Field Family FamilyField)) =
    IniSchema.emptyDocument := rfl

theorem documentOf_openFixed {current : Section} :
    documentOf (blocks ++ [.fixed current []]) =
      { documentOf blocks with
        sectionSeen := Function.update (documentOf blocks).sectionSeen current true } := by
  unfold documentOf
  simp only [List.filterMap_append, List.flatMap_append, IniDocument.mk.injEq]
  refine ⟨?_, ?_, ?_⟩
  · funext asked
    by_cases same : asked = current
    · rw [same, Function.update_self]
      exact decide_eq_true (List.mem_append_right _ (List.mem_singleton.mpr rfl))
    · rw [Function.update_of_ne same, decide_eq_decide]
      simp [IniBlock.fixed?, same]
  · simp [IniBlock.fixedEntries]
  · simp [IniBlock.instance?]

theorem documentOf_openDeclared {family : Family} {name : Text} :
    documentOf (blocks ++ [.declared family name []]) =
      { documentOf blocks with
        instances := (documentOf blocks).instances ++ [⟨family, name, fun _ => none⟩] } := by
  simp [documentOf, IniBlock.fixed?, IniBlock.fixedEntries, IniBlock.instance?]

theorem documentOf_pairFixed {current : Section} {entries : List (Field × Text)} {field : Field} {value : Text}
    (fresh : field ∉ ((blocks ++ [IniBlock.fixed current entries]).flatMap IniBlock.fixedEntries).map Prod.fst) :
    documentOf (blocks ++ [.fixed current (entries ++ [(field, value)])]) =
      { documentOf (blocks ++ [.fixed current entries]) with
        values := Function.update (documentOf (blocks ++ [.fixed current entries])).values field (some value) } := by
  have added := @lookup_append _ _ _ _ value fresh
  unfold documentOf
  simp only [List.filterMap_append, List.flatMap_append, IniDocument.mk.injEq] at added ⊢
  refine ⟨rfl, ?_, rfl⟩
  rw [← added]
  simp [IniBlock.fixedEntries]

theorem documentOf_pairDeclared {family : Family} {name : Text} {entries : List (FamilyField × Text)}
    {field : FamilyField} {value : Text} (fresh : field ∉ entries.map Prod.fst) :
    documentOf (blocks ++ [.declared family name (entries ++ [(field, value)])]) =
      { documentOf (blocks ++ [.declared family name entries]) with
        instances := (documentOf blocks).instances ++
          [⟨family, name, Function.update (fun asked => entries.lookup asked) field (some value)⟩] } := by
  rw [← lookup_append fresh]
  simp [documentOf, IniBlock.fixed?, IniBlock.fixedEntries, IniBlock.instance?]

omit [DecidableEq Section] [DecidableEq Field] in
theorem cursorOf_fixed {current : Section} {entries : List (Field × Text)} :
    cursorOf (blocks ++ [IniBlock.fixed current entries]) = some (.fixed current) := by
  rw [cursorOf, List.getLast?_concat]
  rfl

theorem cursorOf_declared {family : Family} {name : Text} {entries : List (FamilyField × Text)} :
    cursorOf (blocks ++ [IniBlock.declared family name entries]) =
      some (.familyInstance (documentOf blocks).instances.length) := by
  rw [cursorOf, List.getLast?_concat]
  simp [IniBlock.instance?, documentOf]

theorem instances_declared {family : Family} {name : Text} {entries : List (FamilyField × Text)} :
    (documentOf (blocks ++ [IniBlock.declared family name entries])).instances =
      (documentOf blocks).instances ++ [⟨family, name, fun field => entries.lookup field⟩] := by
  simp [documentOf, IniBlock.instance?]

theorem instances_names :
    (documentOf blocks).instances.map (fun declared => (declared.family, declared.name)) =
      blocks.filterMap IniBlock.declared? := by
  rw [documentOf, List.map_filterMap]
  refine List.filterMap_congr fun block _ => ?_
  cases block with
  | fixed current entries => rfl
  | declared family name entries => rfl

theorem sectionSeen_iff {current : Section} :
    (documentOf blocks).sectionSeen current = true ↔ current ∈ blocks.filterMap IniBlock.fixed? :=
  decide_eq_true_iff

theorem instance_declared {family : Family} {name : Text} {entries : List (FamilyField × Text)} :
    (documentOf (blocks ++ [IniBlock.declared family name entries])).instances[
        (documentOf blocks).instances.length]? =
      some ⟨family, name, fun field => entries.lookup field⟩ := by
  rw [instances_declared, List.getElem?_concat_length]

end Documents

section Steps

variable [DecidableEq Section] [DecidableEq Field] [DecidableEq Family] [DecidableEq FamilyField]
variable {schema : IniSchema Section Field Family FamilyField}
variable {blocks after : List (IniBlock Section Field Family FamilyField)} {item : IniItem}
variable {next : IniReading Section Field Family FamilyField}

theorem instances_any {family : Family} {name : Text} :
    ((documentOf blocks).instances.any fun declared => declared.family = family ∧ declared.name = name) = true ↔
      (family, name) ∈ blocks.filterMap IniBlock.declared? := by
  rw [← instances_names, List.any_eq_true, List.mem_map]
  constructor
  · rintro ⟨declared, member, same⟩
    have named := of_decide_eq_true same
    exact ⟨declared, member, by rw [named.1, named.2]⟩
  · rintro ⟨declared, member, same⟩
    rw [Prod.mk.injEq] at same
    exact ⟨declared, member, decide_eq_true same⟩

theorem openSection_of (lawful : schema.Lawful) {name : Text} :
    schema.openSection (documentOf blocks) name = .ok next ↔
      ∃ after, Writes schema blocks (.header name) after ∧ next = readingOf after := by
  have counted : (documentOf blocks).instances.length = (blocks.filterMap IniBlock.declared?).length := by
    rw [← instances_names, List.length_map]
  constructor
  · intro opened
    unfold IniSchema.openSection at opened
    split at opened
    · next current found =>
      split at opened
      · cases opened
      · next unseen =>
        cases opened
        rw [← (IniSchema.findSection_eq_some lawful).mp found]
        refine ⟨_, .openFixed fun member => unseen (sectionSeen_iff.mpr member), ?_⟩
        rw [readingOf, documentOf_openFixed, cursorOf_fixed]
    · split at opened
      · cases opened
      · next family instanceName found =>
        obtain ⟨shape, written⟩ := (lawful.resolves _ _ _).mp found
        split at opened
        · cases opened
        · next fresh =>
          split at opened
          · cases opened
          · next within =>
            cases opened
            rw [shape]
            refine ⟨_, .openDeclared written (fun member => fresh (instances_any.mpr member)) ?_, ?_⟩
            · intro limit limited
              by_contra full
              refine within ?_
              rw [Option.mem_def.mp limited, Option.any_some]
              exact decide_eq_true (by omega)
            · rw [readingOf, documentOf_openDeclared, cursorOf_declared]
  · rintro ⟨after, writes, rfl⟩
    unfold IniSchema.openSection
    cases writes with
    | @openFixed _ current fresh =>
      rw [(IniSchema.findSection_eq_some lawful).mpr rfl]
      simp only [if_neg (fun seen => fresh (sectionSeen_iff.mp seen))]
      rw [readingOf, documentOf_openFixed, cursorOf_fixed]
    | @openDeclared _ family name written fresh within =>
      have room : ¬(schema.instanceLimit.any fun limit => limit ≤ (documentOf blocks).instances.length) = true := by
        intro full
        cases limited : schema.instanceLimit with
        | none =>
          rw [limited] at full
          cases full
        | some limit =>
          rw [limited, Option.any_some] at full
          have allowed := within limit limited
          have most := of_decide_eq_true full
          omega
      rw [IniSchema.findSection_declared lawful, (lawful.resolves _ _ _).mpr ⟨rfl, written⟩]
      simp only [if_neg (fun seen => fresh (instances_any.mp seen)), if_neg room]
      rw [readingOf, documentOf_openDeclared, cursorOf_declared]

omit [DecidableEq Family] in
theorem storeFixed_writes (lawful : schema.Lawful) {current : Section} {entries : List (Field × Text)}
    {key value : Text} {document : IniDocument Section Field Family FamilyField}
    (stored : schema.storeFixed (documentOf (blocks ++ [.fixed current entries])) current key value =
      .ok document) :
    ∃ after, Writes schema (blocks ++ [.fixed current entries]) (.pair key value) after ∧
      document = documentOf after ∧ cursorOf after = some (.fixed current) := by
  unfold IniSchema.storeFixed at stored
  split at stored
  · cases stored
  · next field found =>
    obtain ⟨owned, rfl⟩ := (IniSchema.findField_eq_some lawful).mp found
    obtain ⟨kept, allowed, rest⟩ := Simulation.bind_eq_ok.mp stored
    obtain ⟨unset, given, rfl⟩ := storeConfigValue_eq_ok.mp allowed
    have fresh := lookup_eq_none.mp unset
    cases rest
    exact ⟨_, .pairFixed owned fresh given, (documentOf_pairFixed fresh).symm, cursorOf_fixed⟩

theorem storeDeclared_writes (lawful : schema.Lawful) {family : Family} {name : Text}
    {entries : List (FamilyField × Text)} {key value : Text}
    {document : IniDocument Section Field Family FamilyField}
    (stored : schema.storeDeclared (documentOf (blocks ++ [.declared family name entries]))
      (documentOf blocks).instances.length key value = .ok document) :
    ∃ after, Writes schema (blocks ++ [.declared family name entries]) (.pair key value) after ∧
      document = documentOf after ∧
        cursorOf after = some (.familyInstance (documentOf blocks).instances.length) := by
  unfold IniSchema.storeDeclared at stored
  rw [instance_declared] at stored
  split at stored
  · next absent => cases absent
  · next declared same =>
    cases same
    split at stored
    · cases stored
    · next field found =>
      obtain ⟨owned, rfl⟩ := (IniSchema.findFamilyField_eq_some lawful).mp found
      obtain ⟨kept, allowed, rest⟩ := Simulation.bind_eq_ok.mp stored
      obtain ⟨unset, given, rfl⟩ := storeConfigValue_eq_ok.mp allowed
      have fresh := lookup_eq_none.mp unset
      cases rest
      refine ⟨_, .pairDeclared owned fresh given, ?_, cursorOf_declared⟩
      rw [documentOf_pairDeclared fresh, instances_declared, List.set_append_right _ _ (Nat.le_refl _),
        Nat.sub_self, List.set_cons_zero]

theorem readItem_of_writes (lawful : schema.Lawful) (writes : Writes schema blocks item after) :
    schema.readItem (readingOf blocks) item = .ok (readingOf after) := by
  cases writes with
  | openFixed fresh => exact (openSection_of lawful).mpr ⟨_, .openFixed fresh, rfl⟩
  | openDeclared written fresh within => exact (openSection_of lawful).mpr ⟨_, .openDeclared written fresh within, rfl⟩
  | @pairFixed blocks current entries field value owned fresh given =>
    have named : ¬(schema.namesEmptyKeys = true ∧ (schema.fieldSpec field).key = []) :=
      fun both => (lawful.keyPlain field).written both.2
    have allowed := storeConfigValue_eq_ok.mpr ⟨lookup_eq_none.mpr fresh, given, rfl⟩
    have stored : schema.storePair (documentOf (blocks ++ [.fixed current entries])) (.fixed current)
        (schema.fieldSpec field).key value =
          .ok (documentOf (blocks ++ [.fixed current (entries ++ [(field, value)])])) := by
      rw [IniSchema.storePair, if_neg named, IniSchema.storeFixed,
        (IniSchema.findField_eq_some lawful).mpr ⟨owned, rfl⟩, documentOf_pairFixed fresh]
      exact Simulation.bind_eq_ok.mpr ⟨value, allowed, rfl⟩
    unfold IniSchema.readItem readingOf
    rw [cursorOf_fixed, cursorOf_fixed]
    exact Simulation.bind_eq_ok.mpr ⟨_, stored, rfl⟩
  | @pairDeclared blocks family name entries field value owned fresh given =>
    have named : ¬(schema.namesEmptyKeys = true ∧ (schema.familyFieldSpec field).key = []) :=
      fun both => (lawful.familyKeyPlain field).written both.2
    have allowed := storeConfigValue_eq_ok.mpr ⟨lookup_eq_none.mpr fresh, given, rfl⟩
    have stored : schema.storePair (documentOf (blocks ++ [.declared family name entries]))
        (.familyInstance (documentOf blocks).instances.length) (schema.familyFieldSpec field).key value =
          .ok (documentOf (blocks ++ [.declared family name (entries ++ [(field, value)])])) := by
      rw [IniSchema.storePair, if_neg named, IniSchema.storeDeclared, instance_declared]
      simp only [(IniSchema.findFamilyField_eq_some lawful).mpr ⟨owned, rfl⟩]
      refine Simulation.bind_eq_ok.mpr ⟨value, allowed, ?_⟩
      rw [documentOf_pairDeclared fresh, instances_declared, List.set_append_right _ _ (Nat.le_refl _),
        Nat.sub_self, List.set_cons_zero]
      rfl
    unfold IniSchema.readItem readingOf
    rw [cursorOf_declared, cursorOf_declared]
    exact Simulation.bind_eq_ok.mpr ⟨_, stored, rfl⟩

theorem readItem_writes (lawful : schema.Lawful) (read : schema.readItem (readingOf blocks) item = .ok next) :
    ∃ after, Writes schema blocks item after ∧ next = readingOf after := by
  cases item with
  | header name => exact (openSection_of lawful).mp read
  | pair key value =>
    obtain rfl | ⟨blocks, last, rfl⟩ := List.eq_nil_or_concat' blocks
    · cases read
    · cases last with
      | fixed current entries =>
        simp only [IniSchema.readItem, readingOf, cursorOf_fixed] at read
        obtain ⟨document, stored, rest⟩ := Simulation.bind_eq_ok.mp read
        unfold IniSchema.storePair at stored
        split at stored
        · cases stored
        · obtain ⟨after, writes, rfl, cursor⟩ := storeFixed_writes lawful stored
          cases rest
          exact ⟨after, writes, by rw [readingOf, cursor]⟩
      | declared family name entries =>
        simp only [IniSchema.readItem, readingOf, cursorOf_declared] at read
        obtain ⟨document, stored, rest⟩ := Simulation.bind_eq_ok.mp read
        unfold IniSchema.storePair at stored
        split at stored
        · cases stored
        · obtain ⟨after, writes, rfl, cursor⟩ := storeDeclared_writes lawful stored
          cases rest
          exact ⟨after, writes, by rw [readingOf, cursor]⟩

end Steps

end BlobRoyale.Application
