import BlobRoyale.Application.IniRoundTrip

/-!
# Every text that parses is a rendering

The sections the reader found are arranged as those of the assignment it yields, which is read off them.
-/

namespace BlobRoyale.Application

open DelimitedText

variable {Section Field Family FamilyField : Type}
variable [DecidableEq Field] [DecidableEq FamilyField]
variable {schema : IniSchema Section Field Family FamilyField}
variable {blocks : List (IniBlock Section Field Family FamilyField)}

namespace IniSchema

def instanceOf (schema : IniSchema Section Field Family FamilyField) :
    IniBlock Section Field Family FamilyField → Option schema.InstanceAssignment
  | .fixed _ _ => none
  | .declared family name entries => some ⟨family, name, fun field => (entries.lookup field.1).getD []⟩

def assignmentOf (schema : IniSchema Section Field Family FamilyField)
    (blocks : List (IniBlock Section Field Family FamilyField)) : schema.Assignment where
  value := fun field => ((blocks.flatMap IniBlock.fixedEntries).lookup field).getD []
  instances := blocks.filterMap schema.instanceOf

theorem assignmentOf_value {field : Field} {value : Text}
    (found : (blocks.flatMap IniBlock.fixedEntries).lookup field = some value) :
    (schema.assignmentOf blocks).value field = value :=
  (congrArg (Option.getD · []) found).trans Option.getD_some

end IniSchema

/-- Every key has a value. -/
structure FullBlocks (schema : IniSchema Section Field Family FamilyField)
    (blocks : List (IniBlock Section Field Family FamilyField)) : Prop where
  fields : ∀ field, ∃ value, (blocks.flatMap IniBlock.fixedEntries).lookup field = some value
  familyFields : ∀ family name entries, .declared family name entries ∈ blocks → ∀ field,
    (schema.familyFieldSpec field).family = family → ∃ value, entries.lookup field = some value

section Full

variable [DecidableEq Section] [DecidableEq Family]

theorem fullBlocks_of (lawful : schema.Lawful) (complete : schema.missingFields (documentOf blocks) = []) :
    FullBlocks schema blocks := by
  obtain ⟨fixed, families⟩ := (missingFields_eq_nil lawful).mp complete
  refine ⟨fun field => Option.ne_none_iff_exists'.mp (fixed field), ?_⟩
  intro family name entries member field owned
  have declared : (⟨family, name, fun asked => entries.lookup asked⟩ : IniInstance Family FamilyField) ∈
      (documentOf blocks).instances := List.mem_filterMap.mpr ⟨_, member, rfl⟩
  exact Option.ne_none_iff_exists'.mp (families _ declared field owned)

end Full

section Arranged

theorem declared_names : blocks.filterMap IniBlock.declared? =
    (schema.assignmentOf blocks).instances.map fun declared => (declared.family, declared.name) := by
  rw [IniSchema.assignmentOf, List.map_filterMap]
  refine List.filterMap_congr fun block _ => ?_
  cases block with
  | fixed current entries => rfl
  | declared family name entries => rfl

theorem field_block (sound : SoundBlocks schema blocks) (full : FullBlocks schema blocks) (field : Field) :
    ∃ current entries, .fixed current entries ∈ blocks ∧
      (schema.fieldSpec field).sectionName = schema.sectionName current ∧
        (field, (schema.assignmentOf blocks).value field) ∈ entries := by
  obtain ⟨value, found⟩ := full.fields field
  obtain ⟨block, member, inside⟩ := List.mem_flatMap.mp (mem_of_lookup found)
  cases block with
  | declared family name entries => cases inside
  | fixed current entries =>
    have held := sound.block _ member _ inside
    rw [IniSchema.assignmentOf_value found]
    exact ⟨current, entries, member, held.1, inside⟩

theorem sections_written (lawful : schema.Lawful) (sound : SoundBlocks schema blocks)
    (full : FullBlocks schema blocks) :
    (blocks.filterMap IniBlock.fixed?).Perm schema.sections := by
  refine (List.perm_ext_iff_of_nodup sound.sections lawful.sectionsNodup).mpr fun current => ?_
  refine ⟨fun _ => lawful.sections current, fun _ => ?_⟩
  obtain ⟨field, owned⟩ := lawful.filled current
  obtain ⟨other, entries, member, named, -⟩ := field_block sound full field
  have same := lawful.sectionNames _ _ (owned.symm.trans named)
  rw [same]
  exact List.mem_filterMap.mpr ⟨_, member, rfl⟩

theorem pairs_written (lawful : schema.Lawful) (sound : SoundBlocks schema blocks)
    (full : FullBlocks schema blocks) {current : Section} {entries : List (Field × Text)}
    (member : .fixed current entries ∈ blocks) :
    entries.Perm ((schema.assignmentOf blocks).entries current) := by
  have keys : (entries.map Prod.fst).Nodup := by
    have all := sound.fields
    rw [List.map_flatMap, List.nodup_flatMap] at all
    exact all.1 _ member
  refine (List.perm_ext_iff_of_nodup keys.of_map (entries_keys lawful).of_map).mpr fun entry => ?_
  rw [mem_entries lawful]
  have everywhere : ∀ held ∈ entries, held ∈ blocks.flatMap IniBlock.fixedEntries :=
    fun held inside => List.mem_flatMap.mpr ⟨_, member, inside⟩
  constructor
  · intro inside
    refine ⟨(sound.block _ member entry inside).1, ?_⟩
    exact (IniSchema.assignmentOf_value (lookup_of_mem sound.fields (everywhere entry inside))).symm
  · rintro ⟨owned, value⟩
    obtain ⟨other, others, present, named, inside⟩ := field_block sound full entry.1
    cases lawful.sectionNames _ _ (owned.symm.trans named)
    rw [← value] at inside
    rw [sound.block_unique member present]
    exact inside

end Arranged

section Instances

variable [DecidableEq Family]

theorem instance_written (sound : SoundBlocks schema blocks)
    (full : FullBlocks schema blocks) {family : Family} {name : Text} {entries : List (FamilyField × Text)}
    (member : .declared family name entries ∈ blocks) :
    (fun field => entries.lookup field) =
      (⟨family, name, fun field => (entries.lookup field.1).getD []⟩ : schema.InstanceAssignment).document.values := by
  obtain ⟨-, keys, held⟩ := sound.block _ member
  funext field
  unfold IniSchema.InstanceAssignment.document
  dsimp only
  split
  · next owned =>
    obtain ⟨value, found⟩ := full.familyFields _ _ _ member field owned
    rw [found, Option.getD_some]
  · next foreign =>
    rw [lookup_eq_none]
    intro inside
    obtain ⟨entry, there, rfl⟩ := List.mem_map.mp inside
    exact foreign (held entry there).1

theorem instances_written (lawful : schema.Lawful) (sound : SoundBlocks schema blocks)
    (full : FullBlocks schema blocks) {part : List (IniBlock Section Field Family FamilyField)}
    (within : ∀ block ∈ part, block ∈ blocks) :
    List.Forall₂ schema.WritesInstance (part.filterMap schema.instanceOf) (part.filter IniBlock.isDeclared) := by
  induction part with
  | nil => exact .nil
  | cons block part ih =>
    have rest := ih fun other member => within other (List.mem_cons_of_mem _ member)
    have member := within block List.mem_cons_self
    cases block with
    | fixed current entries => exact rest
    | declared family name entries =>
      refine .cons ⟨entries, rfl, ?_⟩ rest
      obtain ⟨-, keys, held⟩ := sound.block _ member
      have values := instance_written sound full member
      refine (List.perm_ext_iff_of_nodup keys.of_map (instance_entries_keys lawful).of_map).mpr fun entry => ?_
      rw [mem_instance_entries lawful, ← values]
      exact ⟨lookup_of_mem keys, mem_of_lookup⟩

theorem blocks_arranged (lawful : schema.Lawful) (sound : SoundBlocks schema blocks)
    (full : FullBlocks schema blocks) : schema.Arranges (schema.assignmentOf blocks) blocks where
  sections := sections_written lawful sound full
  pairs := fun _ _ member => pairs_written lawful sound full member
  instances := instances_written lawful sound full fun _ member => member

end Instances

section ReadBack

theorem admissible_of_plain {valueSyntax : ConfigValueSyntax} {value : Text} (plain : PlainValue value)
    (written : value = [] → valueSyntax = .commaDelimitedList) :
    AdmissibleValue isHorizontalWhitespace isHorizontalWhitespace valueSyntax value where
  written := written
  oneLine := plain.oneLine
  noEquals := plain.noEquals
  begun := plain.bare.1
  ended := plain.bare.2

theorem blocks_admissible (sound : SoundBlocks schema blocks) (full : FullBlocks schema blocks)
    (legible : ∀ said ∈ blocks.flatMap (IniBlock.items schema), IniSchema.Legible said) :
    schema.Admissible isHorizontalWhitespace isHorizontalWhitespace (schema.assignmentOf blocks) where
  values := by
    intro field
    obtain ⟨current, entries, member, -, inside⟩ := field_block sound full field
    refine admissible_of_plain (legible (.pair (schema.fieldSpec field).key _) ?_)
      (sound.block _ member _ inside).2
    exact List.mem_flatMap.mpr ⟨_, member, List.mem_cons_of_mem _ (List.mem_map.mpr ⟨_, inside, rfl⟩)⟩
  names := by
    intro declared given
    obtain ⟨block, member, same⟩ := List.mem_filterMap.mp given
    cases block with
    | fixed current entries => cases same
    | declared family name entries =>
      cases same
      have header := legible _ (List.mem_flatMap.mpr ⟨_, member, List.mem_cons_self⟩)
      refine ⟨(sound.block _ member).1, fun inside => header.oneLine ?_, fun inside => header.unbracketed ?_⟩
      · exact List.mem_append_right _ inside
      · exact List.mem_append_right _ inside
  familyValues := by
    intro declared given field
    obtain ⟨block, member, same⟩ := List.mem_filterMap.mp given
    cases block with
    | fixed current entries => cases same
    | declared family name entries =>
      cases same
      obtain ⟨value, found⟩ := full.familyFields _ _ _ member field.1 field.2
      have inside := mem_of_lookup found
      dsimp only
      rw [found, Option.getD_some]
      refine admissible_of_plain (legible (.pair (schema.familyFieldSpec field.1).key value) ?_)
        ((sound.block _ member).2.2 _ inside).2
      exact List.mem_flatMap.mpr ⟨_, member, List.mem_cons_of_mem _ (List.mem_map.mpr ⟨_, inside, rfl⟩)⟩
  distinct := by
    rw [← declared_names]
    exact sound.names
  within := by
    intro limit limited
    have most := sound.within limit limited
    rw [@declared_names _ _ _ _ _ _ schema, List.length_map] at most
    exact most

variable [DecidableEq Section] [DecidableEq Family]

theorem parse_rendered (lawful : schema.Lawful) {sourcePath : String} {text : Text}
    {document : IniDocument Section Field Family FamilyField}
    (parsed : schema.parse text sourcePath = .ok document) :
    ∃ assignment : schema.Assignment, document = assignment.document ∧
      schema.Admissible isHorizontalWhitespace isHorizontalWhitespace assignment ∧
        schema.Renders readEndings assignment text := by
  obtain ⟨reading, lines, rest⟩ := Simulation.bind_eq_ok.mp parsed
  obtain ⟨done, required, same⟩ := Simulation.bind_eq_ok.mp rest
  cases same
  obtain ⟨items, spelled, read, legible⟩ := IniSchema.parseLines_reads sourcePath 1 lines
  obtain ⟨blocks, sound, rfl, rfl⟩ := readItems_sound lawful read
  have full := fullBlocks_of lawful (requireAllFields_eq_ok.mp required)
  have arranged := blocks_arranged lawful sound full
  exact ⟨schema.assignmentOf blocks, arranged_document lawful arranged, blocks_admissible sound full legible,
    blocks, arranged, spelled⟩

end ReadBack

end BlobRoyale.Application
