import BlobRoyale.Application.IniReadBack
import BlobRoyale.Application.ApplicationConfigLoader

/-!
# The tables of a map file

The closed sections and keys of `map.cfg`, and the corridors and holes its terrain declares.
-/

namespace BlobRoyale.Application

open DelimitedText

inductive MapConfigField where
  | mapName
  | mapDisplayName
  | boundsWidth
  | boundsHeight
  | terrainGround
  deriving DecidableEq

def mapConfigFields : List MapConfigField :=
  [.mapName, .mapDisplayName, .boundsWidth, .boundsHeight, .terrainGround]

def mapConfigSections : List Text := ["map".toList, "bounds".toList, "terrain".toList]

abbrev MapConfigSection := Fin mapConfigSections.length

def mapConfigFieldSpec : MapConfigField → IniFieldSpec
  | .mapName => ⟨"map".toList, "name".toList, .singleValue⟩
  | .mapDisplayName => ⟨"map".toList, "display_name".toList, .singleValue⟩
  | .boundsWidth => ⟨"bounds".toList, "width_world_units".toList, .singleValue⟩
  | .boundsHeight => ⟨"bounds".toList, "height_world_units".toList, .singleValue⟩
  | .terrainGround => ⟨"terrain".toList, "ground".toList, .singleValue⟩

inductive MapSectionFamily where
  | corridor
  | hole
  deriving DecidableEq

inductive MapFamilyField where
  | corridorHalfWidth
  | corridorPoints
  | holeCenterX
  | holeCenterY
  | holeRadius
  deriving DecidableEq

def mapFamilyFields : List MapFamilyField :=
  [.corridorHalfWidth, .corridorPoints, .holeCenterX, .holeCenterY, .holeRadius]

def mapFamilyFieldSpec : MapFamilyField → IniFamilyFieldSpec MapSectionFamily
  | .corridorHalfWidth => ⟨.corridor, "half_width_world_units".toList, .singleValue⟩
  | .corridorPoints => ⟨.corridor, "points_world_units".toList, .singleValue⟩
  | .holeCenterX => ⟨.hole, "center_x_world_units".toList, .singleValue⟩
  | .holeCenterY => ⟨.hole, "center_y_world_units".toList, .singleValue⟩
  | .holeRadius => ⟨.hole, "radius_world_units".toList, .singleValue⟩

def mapSectionFamilies : List MapSectionFamily := [.corridor, .hole]

/-- `kMapSectionFamilyPrefixes`. -/
def mapSectionFamilyPrefix : MapSectionFamily → Text
  | .corridor => "terrain.corridor.".toList
  | .hole => "terrain.hole.".toList

/-- The first prefix the section name starts with and does not end at. -/
def findMapSectionFamily (name : Text) : Option (MapSectionFamily × Text) :=
  (mapSectionFamilies.find? fun family =>
    (mapSectionFamilyPrefix family).isPrefixOf name && name.length ≠ (mapSectionFamilyPrefix family).length).map
      fun family => (family, name.drop (mapSectionFamilyPrefix family).length)

/-- The reader declares no limit on instances and looks an empty key up like any other, so it raises neither
of those two faults. -/
def mapComplaint : IniFault → ApplicationInputErrorCode × String
  | .headerForm => (.mapValueInvalid, "section header must have the exact form [lower_case_name]")
  | .sectionDuplicate => (.mapValueInvalid, "each section may occur exactly once")
  | .sectionUnknown => (.mapValueInvalid, "section is not part of the accepted map schema")
  | .sectionLimitExceeded => (.mapValueInvalid, "section is not part of the accepted map schema")
  | .outsideSection => (.mapValueInvalid, "a key-value pair must appear inside a known section")
  | .equalsSigns => (.mapValueInvalid, "a key-value pair must contain exactly one equals sign")
  | .keyEmpty => (.mapValueInvalid, "key is not valid in its section")
  | .keyUnknown => (.mapValueInvalid, "key is not valid in its section")
  | .keyDuplicate => (.mapValueInvalid, "each map key may occur exactly once")
  | .valueEmpty => (.mapValueInvalid, "map value must not be empty")

def mapSchema : IniSchema MapConfigSection MapConfigField MapSectionFamily MapFamilyField where
  sections := List.finRange mapConfigSections.length
  sectionName := mapConfigSections.get
  fields := mapConfigFields
  fieldSpec := mapConfigFieldSpec
  familyFields := mapFamilyFields
  familyFieldSpec := mapFamilyFieldSpec
  familyPrefix := mapSectionFamilyPrefix
  findSectionFamily := findMapSectionFamily
  namesEmptyKeys := false
  instanceLimit := none
  complaint := mapComplaint
  missingCode := .mapValueInvalid
  missingContext := fun sourcePath => sourcePath
  missingDetail := "required map keys are missing: "

/-- `StrictMapIniDocument::parse`. -/
def StrictMapIniDocument.parse (contents : Text) (sourcePath : String) :
    Except ApplicationInputError (IniDocument MapConfigSection MapConfigField MapSectionFamily MapFamilyField) :=
  mapSchema.parse contents sourcePath

section Tables

theorem mapConfigFields_complete (field : MapConfigField) : field ∈ mapConfigFields := by
  cases field <;> decide

theorem mapFamilyFields_complete (field : MapFamilyField) : field ∈ mapFamilyFields := by
  cases field <;> decide

theorem mapKeys_nodup : (mapConfigFields.map fun field =>
    ((mapConfigFieldSpec field).sectionName, (mapConfigFieldSpec field).key)).Nodup := by
  decide

theorem mapFamilyKeys_nodup : (mapFamilyFields.map fun field =>
    ((mapFamilyFieldSpec field).family, (mapFamilyFieldSpec field).key)).Nodup := by
  decide

theorem mapConfigSections_nodup : mapConfigSections.Nodup := by
  decide

theorem mapConfigSections_plain : ∀ name ∈ mapConfigSections, name ≠ [] ∧ name.all isKeyCharacter = true := by
  decide

theorem mapKeys_plain : ∀ field ∈ mapConfigFields,
    (mapConfigFieldSpec field).key ≠ [] ∧ (mapConfigFieldSpec field).key.all isKeyCharacter = true := by
  decide

theorem mapFamilyKeys_plain : ∀ field ∈ mapFamilyFields,
    (mapFamilyFieldSpec field).key ≠ [] ∧ (mapFamilyFieldSpec field).key.all isKeyCharacter = true := by
  decide

theorem mapFields_owned : ∀ field ∈ mapConfigFields,
    (mapConfigFieldSpec field).sectionName ∈ mapConfigSections := by
  decide

theorem mapSections_filled : ∀ name ∈ mapConfigSections, ∃ field ∈ mapConfigFields,
    (mapConfigFieldSpec field).sectionName = name := by
  decide

theorem mapSectionFamily_unique {family other : MapSectionFamily} {text : Text}
    (first : mapSectionFamilyPrefix family <+: text) (second : mapSectionFamilyPrefix other <+: text) :
    other = family := by
  have clash : ∀ one two : MapSectionFamily, one ≠ two →
      (mapSectionFamilyPrefix one)[8]? ≠ (mapSectionFamilyPrefix two)[8]? := by
    intro one two
    cases one <;> cases two <;> decide
  have long : ∀ one : MapSectionFamily, 8 < (mapSectionFamilyPrefix one).length := by
    intro one
    cases one <;> decide
  by_contra differ
  refine clash other family differ ?_
  obtain ⟨rest, rfl⟩ := first
  obtain ⟨others, same⟩ := second
  rw [← List.getElem?_append_left (long other), same, List.getElem?_append_left (long family)]

theorem findMapSectionFamily_eq_some (text : Text) (family : MapSectionFamily) (name : Text) :
    findMapSectionFamily text = some (family, name) ↔
      text = mapSectionFamilyPrefix family ++ name ∧ name ≠ [] := by
  unfold findMapSectionFamily
  constructor
  · intro found
    obtain ⟨resolved, search, pair⟩ := Option.map_eq_some_iff.mp found
    cases pair
    have accepted := List.find?_some search
    rw [Bool.and_eq_true, List.isPrefixOf_iff_prefix, decide_eq_true_eq] at accepted
    obtain ⟨⟨rest, rfl⟩, longer⟩ := accepted
    rw [List.drop_left]
    refine ⟨rfl, ?_⟩
    rintro rfl
    exact longer (by rw [List.append_nil])
  · rintro ⟨rfl, written⟩
    have longer : (mapSectionFamilyPrefix family ++ name).length ≠ (mapSectionFamilyPrefix family).length := by
      have positive := List.length_pos_iff.mpr written
      rw [List.length_append]
      omega
    rw [Option.map_eq_some_iff]
    refine ⟨family, ?_, by rw [List.drop_left]⟩
    refine find?_unique (by cases family <;> decide) ?_ fun other _ accepted => ?_
    · rw [Bool.and_eq_true, List.isPrefixOf_iff_prefix, decide_eq_true_eq]
      exact ⟨List.prefix_append _ _, longer⟩
    · rw [Bool.and_eq_true, List.isPrefixOf_iff_prefix] at accepted
      exact mapSectionFamily_unique (List.prefix_append _ _) accepted.1

theorem mapSchema_lawful : mapSchema.Lawful where
  sections := List.mem_finRange
  sectionsNodup := List.nodup_finRange _
  fields := mapConfigFields_complete
  fieldsNodup := mapKeys_nodup.of_map
  familyFields := mapFamilyFields_complete
  familyFieldsNodup := mapFamilyKeys_nodup.of_map
  sectionNames := fun current other same => mapConfigSections_nodup.injective_get same
  keys := fun field other sameSection sameKey =>
    List.inj_on_of_nodup_map mapKeys_nodup (mapConfigFields_complete field) (mapConfigFields_complete other)
      (Prod.ext sameSection sameKey)
  familyKeys := fun field other sameFamily sameKey =>
    List.inj_on_of_nodup_map mapFamilyKeys_nodup (mapFamilyFields_complete field)
      (mapFamilyFields_complete other) (Prod.ext sameFamily sameKey)
  owned := fun field => List.mem_iff_get.mp (mapFields_owned field (mapConfigFields_complete field))
  filled := by
    intro current
    obtain ⟨field, -, owned⟩ := mapSections_filled _ (List.get_mem mapConfigSections current)
    exact ⟨field, owned⟩
  resolves := findMapSectionFamily_eq_some
  apart := by
    intro current family name same
    have letters := (mapConfigSections_plain _ (List.get_mem mapConfigSections current)).2
    have dot : '.' ∈ mapSectionFamilyPrefix family := by cases family <;> decide
    have dotted : '.' ∈ mapConfigSections.get current := by
      rw [show mapConfigSections.get current = _ from same]
      exact List.mem_append_left _ dot
    exact absurd (List.all_eq_true.mp letters '.' dotted) (by decide)
  sectionPlain := by
    intro current
    obtain ⟨written, letters⟩ := mapConfigSections_plain _ (List.get_mem mapConfigSections current)
    refine ⟨written, fun member => ?_, fun member => ?_⟩
    · exact absurd (List.all_eq_true.mp letters '\n' member) (by decide)
    · exact absurd (List.all_eq_true.mp letters ']' member) (by decide)
  familyPlain := by
    intro family
    cases family with
    | corridor => decide
    | hole => decide
  keyPlain := fun field =>
    have plain := mapKeys_plain field (mapConfigFields_complete field)
    PlainKey.of_letters plain.1 plain.2
  familyKeyPlain := fun field =>
    have plain := mapFamilyKeys_plain field (mapFamilyFields_complete field)
    PlainKey.of_letters plain.1 plain.2

end Tables

end BlobRoyale.Application

/-!
# The two strict INI readers

Every assignment has a rendering, both readers give it back from any, and every text they accept is one. What
trimming leaves is only spaces and tabs away from the line, so a value may begin or end in a carriage return,
and a last line that lacks only its line feed loses its carriage return.
-/

namespace BlobRoyale.Application

open DelimitedText

section Writing

variable {Section Field Family FamilyField : Type}
variable {schema : IniSchema Section Field Family FamilyField}

def IniItem.write : IniItem → Text
  | .header name => '[' :: name ++ [']']
  | .pair key value => key ++ '=' :: value

def writeItems (ending : Text) : List IniItem → Text
  | [] => []
  | [item] => item.write ++ ending
  | item :: others => item.write ++ ['\n'] ++ writeItems ending others

theorem IniItem.write_line (item : IniItem) : IniLine item.write (some item) := by
  have unpadded : Padding isHorizontalWhitespace [] := fun _ member => by cases member
  cases item with
  | header name =>
    have line := @IniLine.header [] name [] unpadded unpadded
    rw [List.append_nil, List.nil_append] at line
    exact line
  | pair key value =>
    have line := @IniLine.pair [] key [] [] value [] unpadded unpadded unpadded unpadded
    simp only [List.append_nil, List.nil_append] at line
    exact line

theorem writeItems_text {endings : List Text} {ending : Text} (allowed : ending ∈ endings)
    (items : List IniItem) : IniText endings (writeItems ending items) items := by
  induction items with
  | nil => exact .empty
  | cons item items ih =>
    cases items with
    | nil => exact .last item.write_line allowed
    | cons next items => exact .line item.write_line List.mem_cons_self ih

theorem writeItems_ends {ending : Text} {items : List IniItem} (proper : items ≠ []) :
    ∃ front, writeItems ending items = front ++ ending := by
  induction items with
  | nil => exact absurd rfl proper
  | cons item items ih =>
    cases items with
    | nil => exact ⟨item.write, rfl⟩
    | cons next items =>
      obtain ⟨front, rest⟩ := ih (List.cons_ne_nil _ _)
      exact ⟨item.write ++ ['\n'] ++ front, by simp only [writeItems, rest, List.append_assoc]⟩

variable [DecidableEq Family]

namespace IniSchema

/-- The fixed sections in the order of the table, and the instances after them. -/
def Assignment.blocks (assignment : schema.Assignment) : List (IniBlock Section Field Family FamilyField) :=
  schema.sections.map (fun current => .fixed current (assignment.entries current)) ++
    assignment.instances.map fun declared => .declared declared.family declared.name declared.entries

def Assignment.write (assignment : schema.Assignment) (ending : Text) : Text :=
  writeItems ending (assignment.blocks.flatMap (IniBlock.items schema))

theorem arranges_blocks (assignment : schema.Assignment) : schema.Arranges assignment assignment.blocks where
  sections := by
    have none : ∀ instances : List schema.InstanceAssignment,
        (instances.map fun declared => IniBlock.declared declared.family declared.name declared.entries).filterMap
          (@IniBlock.fixed? Section Field Family FamilyField) = [] := by
      intro instances
      rw [List.filterMap_map]
      exact List.filterMap_eq_nil_iff.mpr fun _ _ => rfl
    unfold Assignment.blocks
    rw [List.filterMap_append, none, List.append_nil, List.filterMap_map]
    exact List.Perm.of_eq (List.filterMap_some)
  pairs := by
    intro current entries member
    obtain fixed | declared := List.mem_append.mp member
    · obtain ⟨other, -, same⟩ := List.mem_map.mp fixed
      cases same
      exact List.Perm.refl _
    · obtain ⟨given, -, same⟩ := List.mem_map.mp declared
      cases same
  instances := by
    have none : (schema.sections.map fun current =>
        (IniBlock.fixed current (assignment.entries current) : IniBlock Section Field Family FamilyField)).filter
          IniBlock.isDeclared = [] := by
      rw [List.filter_eq_nil_iff]
      intro block member declared
      obtain ⟨current, -, rfl⟩ := List.mem_map.mp member
      cases declared
    unfold Assignment.blocks
    rw [List.filter_append, none, List.nil_append]
    induction assignment.instances with
    | nil => exact .nil
    | cons declared instances ih => exact .cons ⟨_, rfl, List.Perm.refl _⟩ ih

theorem write_renders (assignment : schema.Assignment) {endings : List Text} {ending : Text}
    (allowed : ending ∈ endings) : schema.Renders endings assignment (assignment.write ending) :=
  ⟨_, arranges_blocks assignment, writeItems_text allowed _⟩

theorem instance_document_injective {declared other : schema.InstanceAssignment}
    (same : declared.document = other.document) : declared = other := by
  obtain ⟨family, name, value⟩ := declared
  obtain ⟨family', name', value'⟩ := other
  have families : family = family' := congrArg IniInstance.family same
  have names : name = name' := congrArg IniInstance.name same
  subst families names
  have values := congrArg IniInstance.values same
  have equal : value = value' := by
    funext field
    have here := congrFun values field.1
    simp only [InstanceAssignment.document, field.2, dif_pos, Option.some.injEq] at here
    exact here
  rw [equal]

theorem document_injective {assignment other : schema.Assignment}
    (same : assignment.document = other.document) : assignment = other := by
  obtain ⟨value, instances⟩ := assignment
  obtain ⟨value', instances'⟩ := other
  have values : value = value' := by
    funext field
    exact Option.some.inj (congrFun (congrArg IniDocument.values same) field)
  have declared : instances = instances' := by
    refine List.map_injective_iff.mpr (fun _ _ equal => instance_document_injective equal) ?_
    exact congrArg IniDocument.instances same
  rw [values, declared]

end IniSchema

end Writing

section Readers

/-- A rendering whose last line nothing ends can end in a carriage return only inside a comment. -/
theorem IniText.marked_of_returned {text : Text} {items : List IniItem} (rendered : IniText [[]] text items)
    (unreturned : ∀ said ∈ items, said.Unreturned) (returned : text.getLast? = some '\r') :
    '#' ∈ text ∨ ';' ∈ text := by
  induction rendered with
  | empty => cases returned
  | @last content ending item line allowed =>
    rw [List.mem_singleton.mp allowed, List.append_nil] at returned ⊢
    cases line with
    | blank pads => exact absurd returned (padding_unreturned pads)
    | @comment before text mark pads marked oneLine =>
      obtain rfl | rfl := marked
      · exact .inl (List.mem_append_right _ List.mem_cons_self)
      · exact .inr (List.mem_append_right _ List.mem_cons_self)
    | header pads padsAfter =>
      exact absurd returned ((IniLine.header pads padsAfter).said_unreturned trivial)
    | pair pads padsKey padsValue padsAfter =>
      have said := unreturned _ (List.mem_singleton.mpr rfl)
      exact absurd returned ((IniLine.pair pads padsKey padsValue padsAfter).said_unreturned said)
  | @line content lineBreak rest item items line broken following ih =>
    obtain rfl | proper := eq_or_ne rest []
    · rw [List.append_nil, List.getLast?_append] at returned
      rw [lineBreaks, List.mem_cons, List.mem_singleton] at broken
      obtain rfl | rfl := broken
      · cases returned
      · cases returned
    · rw [List.getLast?_append_of_ne_nil _ proper] at returned
      obtain hash | semicolon := ih (fun said member => unreturned said (List.mem_append_right _ member)) returned
      · exact .inl (List.mem_append_right _ hash)
      · exact .inr (List.mem_append_right _ semicolon)

/-- Both readers give back what a text renders, and accept nothing but renderings. -/
theorem strict_ini_round_trip (sourcePath : String) :
    (∀ (assignment : configSchema.Assignment) (text : Text),
      configSchema.Admissible isMargin isMargin assignment → configSchema.Renders readEndings assignment text →
        StrictIniDocument.parse text sourcePath = .ok assignment.document) ∧
    (∀ text document, StrictIniDocument.parse text sourcePath = .ok document →
      ∃ assignment : configSchema.Assignment, document = assignment.document ∧
        configSchema.Admissible isHorizontalWhitespace isHorizontalWhitespace assignment ∧
          configSchema.Renders readEndings assignment text) ∧
    (∀ (assignment : mapSchema.Assignment) (text : Text),
      mapSchema.Admissible isMargin isMargin assignment → mapSchema.Renders readEndings assignment text →
        StrictMapIniDocument.parse text sourcePath = .ok assignment.document) ∧
    (∀ text document, StrictMapIniDocument.parse text sourcePath = .ok document →
      ∃ assignment : mapSchema.Assignment, document = assignment.document ∧
        mapSchema.Admissible isHorizontalWhitespace isHorizontalWhitespace assignment ∧
          mapSchema.Renders readEndings assignment text) :=
  ⟨fun _ _ admissible rendered =>
      parse_rendering configSchema_lawful sourcePath admissible (fun _ => unpadded_of_margin) rendered,
    fun _ _ parsed => parse_rendered configSchema_lawful parsed,
    fun _ _ admissible rendered =>
      parse_rendering mapSchema_lawful sourcePath admissible (fun _ => unpadded_of_margin) rendered,
    fun _ _ parsed => parse_rendered mapSchema_lawful parsed⟩

def arenaValue (name : Text) : MapConfigField → Text
  | .mapName => name
  | .mapDisplayName => "Arena".toList
  | .boundsWidth => "96".toList
  | .boundsHeight => "54".toList
  | .terrainGround => "solid".toList

def arena (name : Text) : mapSchema.Assignment where
  value := arenaValue name
  instances := []

theorem arenaValue_admissible {name : Text} {field : MapConfigField} (other : field ≠ .mapName) :
    AdmissibleValue isMargin isMargin .singleValue (arenaValue name field) := by
  have plain : ∀ value ∈ ["Arena".toList, "96".toList, "54".toList, "solid".toList],
      value ≠ [] ∧ '\n' ∉ value ∧ '=' ∉ value ∧ (value.all fun character => !isMargin character) = true := by
    decide
  have given : arenaValue name field ∈ ["Arena".toList, "96".toList, "54".toList, "solid".toList] := by
    cases field with
    | mapName => exact absurd rfl other
    | mapDisplayName => simp [arenaValue]
    | boundsWidth => simp [arenaValue]
    | boundsHeight => simp [arenaValue]
    | terrainGround => simp [arenaValue]
  obtain ⟨written, oneLine, noEquals, margins⟩ := plain _ given
  have unpadded : ∀ character ∈ arenaValue name field, isMargin character = false := fun character member =>
    Bool.not_eq_true' _ |>.mp (List.all_eq_true.mp margins character member)
  exact ⟨fun empty => absurd empty written, oneLine, noEquals,
    fun character atFront => unpadded character (List.mem_of_mem_head? atFront),
    fun character atBack => unpadded character (List.mem_of_mem_getLast? atBack)⟩

theorem arena_admissible {front : Char → Bool} {name : Text}
    (named : AdmissibleValue front isMargin .singleValue name)
    (begun : ∀ character, isMargin character = false → front character = false) :
    mapSchema.Admissible front isMargin (arena name) where
  values := by
    intro field
    by_cases other : field = .mapName
    · rw [other]
      exact named
    · have admissible := @arenaValue_admissible name field other
      have single : (mapConfigFieldSpec field).valueSyntax = .singleValue := by cases field <;> rfl
      change AdmissibleValue _ _ (mapConfigFieldSpec field).valueSyntax _
      rw [single]
      exact { admissible with begun := fun character atFront => begun character (admissible.begun character atFront) }
  names := fun _ member => by cases member
  familyValues := fun _ member => by cases member
  distinct := List.nodup_nil
  within := fun _ limited => by cases limited

theorem arenaName_admissible : AdmissibleValue isMargin isMargin .singleValue "arena".toList := by
  refine ⟨by decide, by decide, by decide, ?_, ?_⟩
  · intro character atFront
    cases atFront
    decide
  · intro character atBack
    cases atBack
    decide

theorem returnedName_admissible :
    AdmissibleValue isHorizontalWhitespace isMargin .singleValue "\rarena".toList := by
  refine ⟨by decide, by decide, by decide, ?_, ?_⟩
  · intro character atFront
    cases atFront
    decide
  · intro character atBack
    cases atBack
    decide

theorem strict_ini_round_trip_arena :
    StrictMapIniDocument.parse ((arena "arena".toList).write []) "map.cfg" = .ok (arena "arena".toList).document :=
  (strict_ini_round_trip "map.cfg").2.2.1 _ _ (arena_admissible arenaName_admissible fun _ margin => margin)
    (IniSchema.write_renders _ List.mem_cons_self)

/-- A value that begins in a carriage return parses, and so does a last line ended by a carriage return alone. -/
theorem carriage_returns_parse :
    (∃ text document, StrictMapIniDocument.parse text "map.cfg" = .ok document ∧
      ¬∃ assignment : mapSchema.Assignment, document = assignment.document ∧
        mapSchema.Admissible isMargin isHorizontalWhitespace assignment) ∧
    ∃ text document, StrictMapIniDocument.parse text "map.cfg" = .ok document ∧
      ¬∃ assignment : mapSchema.Assignment, document = assignment.document ∧
        mapSchema.Renders [[]] assignment text := by
  constructor
  · refine ⟨(arena "\rarena".toList).write [], _, parse_rendering mapSchema_lawful "map.cfg"
      (arena_admissible returnedName_admissible fun _ => unpadded_of_margin) (fun _ same => same)
      (IniSchema.write_renders _ List.mem_cons_self), ?_⟩
    rintro ⟨assignment, same, admissible⟩
    rw [← IniSchema.document_injective same] at admissible
    exact absurd ((admissible.values .mapName).begun '\r' rfl) (by decide)
  · have admissible := arena_admissible arenaName_admissible fun _ margin => margin
    refine ⟨(arena "arena".toList).write ['\r'], _, parse_rendering mapSchema_lawful "map.cfg" admissible
      (fun _ => unpadded_of_margin)
      (IniSchema.write_renders _ (List.mem_cons_of_mem _ List.mem_cons_self)), ?_⟩
    rintro ⟨assignment, same, blocks, arranged, spelled⟩
    rw [← IniSchema.document_injective same] at arranged
    have unreturned := arranged_plain mapSchema_lawful admissible (fun _ => unpadded_of_margin) arranged
    have returned : ((arena "arena".toList).write ['\r']).getLast? = some '\r' := by
      obtain ⟨front, whole⟩ := @writeItems_ends ['\r']
        ((arena "arena".toList).blocks.flatMap (IniBlock.items mapSchema)) (by decide)
      rw [IniSchema.Assignment.write, whole, List.getLast?_concat]
    obtain hash | semicolon := spelled.marked_of_returned (fun said member => (unreturned said member).2) returned
    · exact absurd hash (by decide)
    · exact absurd semicolon (by decide)

end Readers

end BlobRoyale.Application
