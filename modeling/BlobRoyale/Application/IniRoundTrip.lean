import Mathlib.Data.List.Nodup
import Mathlib.Data.List.Forall2
import BlobRoyale.Application.IniBlocks

/-!
# Items read are sections written

Item by item the reader builds the sound list of blocks those items spell, and every sound list of blocks is
built so.
-/

namespace BlobRoyale.Application

variable {Section Field Family FamilyField : Type}
variable {schema : IniSchema Section Field Family FamilyField}
variable {blocks after : List (IniBlock Section Field Family FamilyField)} {item : IniItem}

section Growth

theorem SoundBlocks.nil : SoundBlocks schema [] where
  sections := List.nodup_nil
  fields := List.nodup_nil
  names := List.nodup_nil
  within := fun _ _ => Nat.zero_le _
  block := fun _ member => by cases member

theorem Writes.items (writes : Writes schema blocks item after) :
    after.flatMap (IniBlock.items schema) = blocks.flatMap (IniBlock.items schema) ++ [item] := by
  cases writes with
  | openFixed fresh => simp [IniBlock.items]
  | openDeclared written fresh within => simp [IniBlock.items]
  | pairFixed owned fresh given => simp [IniBlock.items]
  | pairDeclared owned fresh given => simp [IniBlock.items]

theorem nodup_concat {α : Type} {members : List α} {last : α} :
    (members ++ [last]).Nodup ↔ members.Nodup ∧ last ∉ members := by
  rw [← List.concat_eq_append, List.nodup_concat, and_comm]

theorem soundBlocks_fixed {current : Section} {entries : List (Field × Text)} :
    SoundBlocks schema (blocks ++ [.fixed current entries]) ↔
      SoundBlocks schema blocks ∧ current ∉ blocks.filterMap IniBlock.fixed? ∧
        ((blocks.flatMap IniBlock.fixedEntries ++ entries).map Prod.fst).Nodup ∧
          (IniBlock.fixed current entries : IniBlock Section Field Family FamilyField).Sound schema := by
  constructor
  · rintro ⟨sections, fields, names, within, block⟩
    simp only [List.filterMap_append, List.flatMap_append, List.filterMap_cons, List.filterMap_nil,
      IniBlock.fixed?, IniBlock.declared?, List.append_nil, List.flatMap_singleton,
      IniBlock.fixedEntries] at sections fields names within
    have apart := nodup_concat.mp sections
    refine ⟨⟨apart.1, ?_, names, within, fun other member => block other (List.mem_append_left _ member)⟩,
      apart.2, fields, block _ (List.mem_append_right _ (List.mem_singleton.mpr rfl))⟩
    rw [List.map_append] at fields
    exact (List.nodup_append.mp fields).1
  · rintro ⟨⟨sections, -, names, within, block⟩, fresh, fields, sound⟩
    refine ⟨?_, ?_, ?_, ?_, ?_⟩
    · rw [List.filterMap_append]
      exact nodup_concat.mpr ⟨sections, fresh⟩
    · rw [List.flatMap_append, List.flatMap_singleton]
      exact fields
    · simpa [List.filterMap_append, List.filterMap_cons, IniBlock.declared?] using names
    · simpa [List.filterMap_append, List.filterMap_cons, IniBlock.declared?] using within
    · intro other member
      obtain earlier | last := List.mem_append.mp member
      · exact block other earlier
      · rw [List.mem_singleton.mp last]
        exact sound

theorem soundBlocks_declared {family : Family} {name : Text} {entries : List (FamilyField × Text)} :
    SoundBlocks schema (blocks ++ [.declared family name entries]) ↔
      SoundBlocks schema blocks ∧ (family, name) ∉ blocks.filterMap IniBlock.declared? ∧
        (∀ limit ∈ schema.instanceLimit, (blocks.filterMap IniBlock.declared?).length < limit) ∧
          (IniBlock.declared family name entries : IniBlock Section Field Family FamilyField).Sound schema := by
  constructor
  · rintro ⟨sections, fields, names, within, block⟩
    simp only [List.filterMap_append, List.flatMap_append, List.filterMap_cons, List.filterMap_nil,
      IniBlock.fixed?, IniBlock.declared?, List.append_nil, List.flatMap_singleton,
      IniBlock.fixedEntries] at sections fields names within
    have apart := nodup_concat.mp names
    refine ⟨⟨sections, fields, apart.1, ?_, fun other member => block other (List.mem_append_left _ member)⟩,
      apart.2, ?_, block _ (List.mem_append_right _ (List.mem_singleton.mpr rfl))⟩
    · intro limit limited
      have most := within limit limited
      rw [List.length_append] at most
      omega
    · intro limit limited
      have most := within limit limited
      rw [List.length_append, List.length_singleton] at most
      omega
  · rintro ⟨⟨sections, fields, names, -, block⟩, fresh, within, sound⟩
    refine ⟨?_, ?_, ?_, ?_, ?_⟩
    · simpa [List.filterMap_append, List.filterMap_cons, IniBlock.fixed?] using sections
    · simpa [List.flatMap_append, IniBlock.fixedEntries] using fields
    · rw [List.filterMap_append]
      exact nodup_concat.mpr ⟨names, fresh⟩
    · intro limit limited
      have room := within limit limited
      rw [List.filterMap_append, List.length_append]
      exact room
    · intro other member
      obtain earlier | last := List.mem_append.mp member
      · exact block other earlier
      · rw [List.mem_singleton.mp last]
        exact sound

theorem Writes.sound (writes : Writes schema blocks item after) (sound : SoundBlocks schema blocks) :
    SoundBlocks schema after := by
  cases writes with
  | openFixed fresh =>
    refine soundBlocks_fixed.mpr ⟨sound, fresh, ?_, fun entry member => by cases member⟩
    rw [List.append_nil]
    exact sound.fields
  | openDeclared written fresh within =>
    exact soundBlocks_declared.mpr
      ⟨sound, fresh, within, written, List.nodup_nil, fun entry member => by cases member⟩
  | pairFixed owned fresh given =>
    obtain ⟨earlier, named, fields, block⟩ := soundBlocks_fixed.mp sound
    refine soundBlocks_fixed.mpr ⟨earlier, named, ?_, ?_⟩
    · rw [← List.append_assoc, List.map_append]
      refine nodup_concat.mpr ⟨fields, ?_⟩
      rw [List.flatMap_append, List.flatMap_singleton] at fresh
      exact fresh
    · intro entry member
      obtain held | added := List.mem_append.mp member
      · exact block entry held
      · cases List.mem_singleton.mp added
        exact ⟨owned, given⟩
  | pairDeclared owned fresh given =>
    obtain ⟨earlier, named, within, written, keys, block⟩ := soundBlocks_declared.mp sound
    refine soundBlocks_declared.mpr ⟨earlier, named, within, written, ?_, ?_⟩
    · rw [List.map_append]
      exact nodup_concat.mpr ⟨keys, fresh⟩
    · intro entry member
      obtain held | added := List.mem_append.mp member
      · exact block entry held
      · cases List.mem_singleton.mp added
        exact ⟨owned, given⟩

theorem SoundBlocks.written (sound : SoundBlocks schema after) (proper : after ≠ []) :
    ∃ blocks item, SoundBlocks schema blocks ∧ Writes schema blocks item after := by
  obtain rfl | ⟨blocks, last, rfl⟩ := List.eq_nil_or_concat' after
  · exact absurd rfl proper
  · cases last with
    | fixed current entries =>
      obtain ⟨earlier, named, fields, block⟩ := soundBlocks_fixed.mp sound
      obtain rfl | ⟨entries, entry, rfl⟩ := List.eq_nil_or_concat' entries
      · exact ⟨blocks, _, earlier, .openFixed named⟩
      · rw [← List.append_assoc, List.map_append] at fields
        have apart := nodup_concat.mp fields
        have held := block entry (List.mem_append_right _ (List.mem_singleton.mpr rfl))
        refine ⟨blocks ++ [.fixed current entries], .pair (schema.fieldSpec entry.1).key entry.2, ?_,
          .pairFixed held.1 ?_ held.2⟩
        · exact soundBlocks_fixed.mpr
            ⟨earlier, named, apart.1, fun other member => block other (List.mem_append_left _ member)⟩
        · rw [List.flatMap_append, List.flatMap_singleton]
          exact apart.2
    | declared family name entries =>
      obtain ⟨earlier, named, within, written, keys, block⟩ := soundBlocks_declared.mp sound
      obtain rfl | ⟨entries, entry, rfl⟩ := List.eq_nil_or_concat' entries
      · exact ⟨blocks, _, earlier, .openDeclared written named within⟩
      · rw [List.map_append] at keys
        have apart := nodup_concat.mp keys
        have held := block entry (List.mem_append_right _ (List.mem_singleton.mpr rfl))
        refine ⟨blocks ++ [.declared family name entries], .pair (schema.familyFieldSpec entry.1).key entry.2, ?_,
          .pairDeclared held.1 apart.2 held.2⟩
        exact soundBlocks_declared.mpr ⟨earlier, named, within, written, apart.1,
          fun other member => block other (List.mem_append_left _ member)⟩

end Growth

section Reading

variable [DecidableEq Section] [DecidableEq Field] [DecidableEq Family] [DecidableEq FamilyField]
variable {items : List IniItem} {next : IniReading Section Field Family FamilyField}

theorem readItems_sound (lawful : schema.Lawful)
    (read : schema.readItems (readingOf []) items = .ok next) :
    ∃ blocks, SoundBlocks schema blocks ∧ blocks.flatMap (IniBlock.items schema) = items ∧
      next = readingOf blocks := by
  induction items using List.reverseRecOn generalizing next with
  | nil => exact ⟨[], .nil, rfl, (IniSchema.readItems_nil.mp read).symm⟩
  | append_singleton items item ih =>
    obtain ⟨middle, earlier, last⟩ := Transition.foldlM_concat.mp read
    obtain ⟨blocks, sound, spelled, rfl⟩ := ih earlier
    obtain ⟨after, writes, rfl⟩ := readItem_writes lawful last
    exact ⟨after, writes.sound sound, by rw [writes.items, spelled], rfl⟩

theorem readItems_of_sound (lawful : schema.Lawful) (sound : SoundBlocks schema blocks) :
    schema.readItems (readingOf []) (blocks.flatMap (IniBlock.items schema)) = .ok (readingOf blocks) := by
  induction size : (blocks.flatMap (IniBlock.items schema)).length generalizing blocks with
  | zero =>
    obtain rfl | proper := eq_or_ne blocks []
    · exact IniSchema.readItems_nil.mpr rfl
    · obtain ⟨earlier, item, -, writes⟩ := sound.written proper
      rw [writes.items, List.length_append] at size
      cases size
  | succ count ih =>
    obtain rfl | proper := eq_or_ne blocks []
    · cases size
    · obtain ⟨earlier, item, soundEarlier, writes⟩ := sound.written proper
      rw [writes.items, List.length_append, List.length_singleton, Nat.add_right_cancel_iff] at size
      rw [writes.items]
      exact Transition.foldlM_concat.mpr ⟨_, ih soundEarlier size, readItem_of_writes lawful writes⟩

end Reading

end BlobRoyale.Application

/-!
# The round trip of a strict INI text

Reading a rendering of an assignment gives the assignment back, and whatever is read is an assignment the text
renders.
-/

namespace BlobRoyale.Application

open DelimitedText

variable {Section Field Family FamilyField : Type}
variable {schema : IniSchema Section Field Family FamilyField}
variable {blocks : List (IniBlock Section Field Family FamilyField)}

section Entries

theorem lookup_of_mem {α : Type} [DecidableEq α] {entries : List (α × Text)} {key : α} {value : Text}
    (keys : (entries.map Prod.fst).Nodup) (member : (key, value) ∈ entries) :
    entries.lookup key = some value := by
  induction entries with
  | nil => cases member
  | cons entry entries ih =>
    rw [List.map_cons, List.nodup_cons] at keys
    obtain rfl | later := List.mem_cons.mp member
    · rw [List.lookup_cons, beq_self_eq_true]
    · have differs : key ≠ entry.1 := by
        rintro rfl
        exact keys.1 (List.mem_map.mpr ⟨_, later, rfl⟩)
      rw [List.lookup_cons, beq_eq_false_iff_ne.mpr differs]
      exact ih keys.2 later

theorem mem_of_lookup {α : Type} [DecidableEq α] {entries : List (α × Text)} {key : α} {value : Text}
    (found : entries.lookup key = some value) : (key, value) ∈ entries := by
  induction entries with
  | nil => cases found
  | cons entry entries ih =>
    rw [List.lookup_cons] at found
    cases same : key == entry.1 with
    | true =>
      rw [same, Option.some.injEq] at found
      rw [beq_iff_eq] at same
      rw [same, ← found]
      exact List.mem_cons_self
    | false =>
      rw [same] at found
      exact List.mem_cons_of_mem _ (ih found)

theorem filterMap_inj {α β : Type} {f : α → Option β} {members : List α} (nodup : (members.filterMap f).Nodup)
    {first second : α} {value : β} (member : first ∈ members) (other : second ∈ members)
    (ofFirst : f first = some value) (ofSecond : f second = some value) : first = second := by
  induction members with
  | nil => cases member
  | cons head members ih =>
    have tail : (members.filterMap f).Nodup :=
      nodup.sublist ((List.sublist_cons_self head members).filterMap f)
    have fresh : f head = some value → ∀ later ∈ members, f later ≠ some value := by
      intro ofHead later inTail ofLater
      rw [List.filterMap_cons_some ofHead, List.nodup_cons] at nodup
      exact nodup.1 (List.mem_filterMap.mpr ⟨later, inTail, ofLater⟩)
    obtain rfl | inTail := List.mem_cons.mp member
    · obtain rfl | otherTail := List.mem_cons.mp other
      · rfl
      · exact absurd ofSecond (fresh ofFirst second otherTail)
    · obtain rfl | otherTail := List.mem_cons.mp other
      · exact absurd ofFirst (fresh ofSecond first inTail)
      · exact ih tail inTail otherTail

theorem SoundBlocks.block_unique (sound : SoundBlocks schema blocks) {current : Section}
    {entries others : List (Field × Text)} (member : IniBlock.fixed current entries ∈ blocks)
    (other : IniBlock.fixed current others ∈ blocks) : entries = others :=
  (IniBlock.fixed.inj (filterMap_inj sound.sections member other rfl rfl)).2

end Entries

section Completeness

variable [DecidableEq Family]
variable {sourcePath : String} {document : IniDocument Section Field Family FamilyField}

theorem missingFields_eq_nil (lawful : schema.Lawful) :
    schema.missingFields document = [] ↔ (∀ field, document.values field ≠ none) ∧
      ∀ declared ∈ document.instances, ∀ field, (schema.familyFieldSpec field).family = declared.family →
        declared.values field ≠ none := by
  unfold IniSchema.missingFields
  rw [List.append_eq_nil_iff, List.map_eq_nil_iff, List.filter_eq_nil_iff, List.flatMap_eq_nil_iff]
  constructor
  · rintro ⟨fixed, families⟩
    refine ⟨fun field unset => fixed field (lawful.fields field) (by rw [unset]; rfl), ?_⟩
    intro declared member field owned unset
    have none := families declared member
    rw [List.map_eq_nil_iff, List.filter_eq_nil_iff] at none
    exact none field (lawful.familyFields field) (decide_eq_true ⟨owned, by rw [unset]; rfl⟩)
  · rintro ⟨fixed, families⟩
    refine ⟨fun field _ unset => fixed field (Option.isNone_iff_eq_none.mp unset), ?_⟩
    intro declared member
    rw [List.map_eq_nil_iff, List.filter_eq_nil_iff]
    intro field _ unset
    have both := of_decide_eq_true unset
    exact families declared member field both.1 (Option.isNone_iff_eq_none.mp both.2)

theorem requireAllFields_eq_ok :
    schema.requireAllFields sourcePath document = .ok () ↔ schema.missingFields document = [] := by
  unfold IniSchema.requireAllFields
  split
  · next complete => simp [complete]
  · next incomplete => simp [incomplete]

theorem missingFields_document (lawful : schema.Lawful) (assignment : schema.Assignment) :
    schema.missingFields assignment.document = [] := by
  refine (missingFields_eq_nil lawful).mpr ⟨fun field unset => (by cases unset), ?_⟩
  intro declared member field owned unset
  obtain ⟨given, -, rfl⟩ := List.mem_map.mp member
  have held : (schema.familyFieldSpec field).family = given.family := owned
  simp only [IniSchema.InstanceAssignment.document, held, dif_pos, reduceCtorEq] at unset

end Completeness

section Tables

variable {assignment : schema.Assignment}

theorem filterMap_of_forall₂ {α β γ : Type} {R : α → β → Prop} {f : β → Option γ} {g : α → γ} {xs : List α}
    {ys : List β} (related : List.Forall₂ R xs ys) (maps : ∀ x y, R x y → f y = some (g x)) :
    ys.filterMap f = xs.map g := by
  induction related with
  | nil => rfl
  | cons first _ ih => rw [List.filterMap_cons_some (maps _ _ first), ih, List.map_cons]

theorem forall₂_mem_right {α β : Type} {R : α → β → Prop} {xs : List α} {ys : List β}
    (related : List.Forall₂ R xs ys) {y : β} (member : y ∈ ys) : ∃ x ∈ xs, R x y := by
  induction related with
  | nil => cases member
  | cons first _ ih =>
    obtain rfl | later := List.mem_cons.mp member
    · exact ⟨_, List.mem_cons_self, first⟩
    · obtain ⟨x, inside, holds⟩ := ih later
      exact ⟨x, List.mem_cons_of_mem _ inside, holds⟩

theorem filterMap_declared {α : Type} {f : IniBlock Section Field Family FamilyField → Option α}
    (silent : ∀ current entries, f (.fixed current entries) = none) :
    (blocks.filter IniBlock.isDeclared).filterMap f = blocks.filterMap f := by
  rw [List.filterMap_filter]
  refine List.filterMap_congr fun block _ => ?_
  cases block with
  | fixed current entries => exact (silent current entries).symm
  | declared family name entries => rfl

theorem lookup_eq_values {α : Type} [DecidableEq α] {entries : List (α × Text)} {values : α → Option Text}
    (keys : (entries.map Prod.fst).Nodup) (given : ∀ key value, (key, value) ∈ entries ↔ values key = some value) :
    (fun key => entries.lookup key) = values := by
  funext key
  cases held : values key with
  | some value => exact lookup_of_mem keys ((given key value).mpr held)
  | none =>
    rw [lookup_eq_none]
    intro member
    obtain ⟨entry, inside, rfl⟩ := List.mem_map.mp member
    have found := (given entry.1 entry.2).mp inside
    rw [held] at found
    cases found

theorem mem_entries (lawful : schema.Lawful) {current : Section} {field : Field} {value : Text} :
    (field, value) ∈ assignment.entries current ↔
      (schema.fieldSpec field).sectionName = schema.sectionName current ∧ value = assignment.value field := by
  unfold IniSchema.Assignment.entries
  rw [List.mem_map]
  constructor
  · rintro ⟨named, member, same⟩
    cases same
    exact ⟨of_decide_eq_true (List.mem_filter.mp member).2, rfl⟩
  · rintro ⟨owned, rfl⟩
    exact ⟨field, List.mem_filter.mpr ⟨lawful.fields field, decide_eq_true owned⟩, rfl⟩

theorem entries_keys (lawful : schema.Lawful) {current : Section} :
    ((assignment.entries current).map Prod.fst).Nodup := by
  unfold IniSchema.Assignment.entries
  rw [List.map_map]
  exact (lawful.fieldsNodup.filter _).map fun _ _ same => same

theorem unpadded_of_margin {character : Char} (margin : isMargin character = false) :
    isHorizontalWhitespace character = false := (Bool.or_eq_false_iff.mp margin).1

theorem AdmissibleValue.plain {front : Char → Bool} {valueSyntax : ConfigValueSyntax} {value : Text}
    (admissible : AdmissibleValue front isMargin valueSyntax value)
    (begun : ∀ character, front character = false → isHorizontalWhitespace character = false) :
    PlainValue value ∧ value.getLast? ≠ some '\r' := by
  refine ⟨⟨admissible.oneLine, admissible.noEquals, ?_, ?_⟩, ?_⟩
  · exact fun character atFront => begun _ (admissible.begun character atFront)
  · exact fun character atBack => unpadded_of_margin (admissible.ended character atBack)
  · intro returned
    exact absurd (admissible.ended '\r' returned) (by decide)

variable [DecidableEq Family]

theorem instance_value {declared : schema.InstanceAssignment} {field : FamilyField} {value : Text}
    (held : declared.document.values field = some value) :
    ∃ owned : (schema.familyFieldSpec field).family = declared.family,
      value = declared.value ⟨field, owned⟩ := by
  unfold IniSchema.InstanceAssignment.document at held
  dsimp only at held
  split at held
  · next owned => exact ⟨owned, (Option.some.inj held).symm⟩
  · cases held

theorem mem_instance_entries (lawful : schema.Lawful) {declared : schema.InstanceAssignment} {field : FamilyField}
    {value : Text} : (field, value) ∈ declared.entries ↔ declared.document.values field = some value := by
  unfold IniSchema.InstanceAssignment.entries
  rw [List.mem_filterMap]
  constructor
  · rintro ⟨named, -, same⟩
    rw [Option.map_eq_some_iff] at same
    obtain ⟨held, given, pair⟩ := same
    cases pair
    exact given
  · intro given
    exact ⟨field, lawful.familyFields field, by rw [given]; rfl⟩

theorem instance_entries_keys (lawful : schema.Lawful) {declared : schema.InstanceAssignment} :
    (declared.entries.map Prod.fst).Nodup := by
  unfold IniSchema.InstanceAssignment.entries
  rw [List.map_filterMap]
  refine lawful.familyFieldsNodup.filterMap fun first second named ofFirst ofSecond => ?_
  simp only [Option.map_map, Option.mem_def, Option.map_eq_some_iff, Function.comp_apply] at ofFirst ofSecond
  obtain ⟨-, -, rfl⟩ := ofFirst
  obtain ⟨-, -, rfl⟩ := ofSecond
  rfl

theorem arranged_names (arranged : schema.Arranges assignment blocks) :
    blocks.filterMap IniBlock.declared? =
      assignment.instances.map fun declared => (declared.family, declared.name) := by
  rw [← filterMap_declared fun _ _ => rfl]
  refine filterMap_of_forall₂ arranged.instances fun declared block writes => ?_
  obtain ⟨entries, rfl, -⟩ := writes
  rfl

theorem arranged_instances [DecidableEq FamilyField] (lawful : schema.Lawful)
    (arranged : schema.Arranges assignment blocks) :
    blocks.filterMap IniBlock.instance? = assignment.instances.map IniSchema.InstanceAssignment.document := by
  rw [← filterMap_declared fun _ _ => rfl]
  refine filterMap_of_forall₂ arranged.instances fun declared block writes => ?_
  obtain ⟨entries, rfl, same⟩ := writes
  have keys : (entries.map Prod.fst).Nodup :=
    (same.map Prod.fst).nodup_iff.mpr (instance_entries_keys lawful)
  have values := lookup_eq_values keys fun key value => same.mem_iff.trans (mem_instance_entries lawful)
  rw [IniBlock.instance?, values]
  rfl

end Tables

section Rendered

variable [DecidableEq Family] {assignment : schema.Assignment} {front back : Char → Bool}

theorem arranged_fields (lawful : schema.Lawful) (arranged : schema.Arranges assignment blocks) :
    ((blocks.flatMap IniBlock.fixedEntries).map Prod.fst).Nodup := by
  have sections := arranged.sections.nodup_iff.mpr lawful.sectionsNodup
  rw [List.map_flatMap, List.nodup_flatMap]
  constructor
  · intro block member
    cases block with
    | fixed current entries =>
      exact ((arranged.pairs current entries member).map Prod.fst).nodup_iff.mpr (entries_keys lawful)
    | declared family name entries => exact List.nodup_nil
  · refine (List.pairwise_filterMap.mp sections).imp_of_mem fun {first second} inFirst inSecond apart => ?_
    cases first with
    | declared family name entries => exact List.disjoint_nil_left _
    | fixed current entries =>
      cases second with
      | declared family name entries => exact List.disjoint_nil_right _
      | fixed other others =>
        intro field ofFirst ofSecond
        obtain ⟨entry, inEntries, rfl⟩ := List.mem_map.mp ofFirst
        obtain ⟨entry', inOthers, same⟩ := List.mem_map.mp ofSecond
        have owned := ((mem_entries lawful).mp ((arranged.pairs _ _ inFirst).mem_iff.mp inEntries)).1
        have owned' := ((mem_entries lawful).mp ((arranged.pairs _ _ inSecond).mem_iff.mp inOthers)).1
        rw [same] at owned'
        exact apart current rfl other rfl (lawful.sectionNames _ _ (owned.symm.trans owned'))

theorem arranged_declared (arranged : schema.Arranges assignment blocks) {family : Family} {name : Text}
    {entries : List (FamilyField × Text)} (member : IniBlock.declared family name entries ∈ blocks) :
    ∃ declared ∈ assignment.instances, declared.family = family ∧ declared.name = name ∧
      entries.Perm declared.entries := by
  have kept : IniBlock.declared family name entries ∈ blocks.filter IniBlock.isDeclared :=
    List.mem_filter.mpr ⟨member, rfl⟩
  obtain ⟨declared, given, others, same, perm⟩ := forall₂_mem_right arranged.instances kept
  cases same
  exact ⟨declared, given, rfl, rfl, perm⟩

theorem arranged_sound (lawful : schema.Lawful) (admissible : schema.Admissible front back assignment)
    (arranged : schema.Arranges assignment blocks) : SoundBlocks schema blocks where
  sections := arranged.sections.nodup_iff.mpr lawful.sectionsNodup
  fields := arranged_fields lawful arranged
  names := by
    rw [arranged_names arranged]
    exact admissible.distinct
  within := by
    rw [arranged_names arranged, List.length_map]
    exact admissible.within
  block := by
    intro block member
    cases block with
    | fixed current entries =>
      intro entry inside
      have held := (mem_entries lawful).mp ((arranged.pairs _ _ member).mem_iff.mp inside)
      rw [held.2]
      exact ⟨held.1, (admissible.values entry.1).written⟩
    | declared family name entries =>
      obtain ⟨declared, given, rfl, rfl, same⟩ := arranged_declared arranged member
      refine ⟨(admissible.names declared given).written,
        (same.map Prod.fst).nodup_iff.mpr (instance_entries_keys lawful), ?_⟩
      intro entry inside
      obtain ⟨owned, value⟩ := instance_value ((mem_instance_entries lawful).mp (same.mem_iff.mp inside))
      rw [value]
      exact ⟨owned, (admissible.familyValues declared given ⟨entry.1, owned⟩).written⟩

theorem arranged_plain (lawful : schema.Lawful) (admissible : schema.Admissible front isMargin assignment)
    (begun : ∀ character, front character = false → isHorizontalWhitespace character = false)
    (arranged : schema.Arranges assignment blocks) :
    ∀ said ∈ blocks.flatMap (IniBlock.items schema), said.Plain ∧ said.Unreturned := by
  intro said spelled
  obtain ⟨block, member, inBlock⟩ := List.mem_flatMap.mp spelled
  cases block with
  | fixed current entries =>
    obtain rfl | inPairs := List.mem_cons.mp inBlock
    · exact ⟨lawful.sectionPlain current, trivial⟩
    · obtain ⟨entry, inside, rfl⟩ := List.mem_map.mp inPairs
      have held := (mem_entries lawful).mp ((arranged.pairs _ _ member).mem_iff.mp inside)
      obtain ⟨plain, unreturned⟩ := (admissible.values entry.1).plain begun
      rw [held.2]
      exact ⟨⟨lawful.keyPlain entry.1, plain⟩, unreturned⟩
  | declared family name entries =>
    obtain ⟨declared, given, rfl, rfl, same⟩ := arranged_declared arranged member
    obtain rfl | inPairs := List.mem_cons.mp inBlock
    · have named := admissible.names declared given
      obtain ⟨oneLine, unbracketed⟩ := lawful.familyPlain declared.family
      refine ⟨⟨fun empty => named.written (List.append_eq_nil_iff.mp empty).2, ?_, ?_⟩, trivial⟩
      · rw [List.mem_append, not_or]
        exact ⟨oneLine, named.oneLine⟩
      · rw [List.mem_append, not_or]
        exact ⟨unbracketed, named.unbracketed⟩
    · obtain ⟨entry, inside, rfl⟩ := List.mem_map.mp inPairs
      obtain ⟨owned, value⟩ := instance_value ((mem_instance_entries lawful).mp (same.mem_iff.mp inside))
      obtain ⟨plain, unreturned⟩ := (admissible.familyValues declared given ⟨entry.1, owned⟩).plain begun
      rw [value]
      exact ⟨⟨lawful.familyKeyPlain entry.1, plain⟩, unreturned⟩

variable [DecidableEq Section] [DecidableEq Field] [DecidableEq FamilyField]

theorem arranged_document (lawful : schema.Lawful) (arranged : schema.Arranges assignment blocks) :
    documentOf blocks = assignment.document := by
  unfold documentOf IniSchema.Assignment.document
  rw [IniDocument.mk.injEq]
  refine ⟨?_, ?_, arranged_instances lawful arranged⟩
  · funext current
    exact decide_eq_true (arranged.sections.mem_iff.mpr (lawful.sections current))
  · funext field
    obtain ⟨current, owner⟩ := lawful.owned field
    obtain ⟨block, member, named⟩ :=
      List.mem_filterMap.mp (arranged.sections.mem_iff.mpr (lawful.sections current))
    cases block with
    | declared family name entries => cases named
    | fixed other entries =>
      cases named
      refine lookup_of_mem (arranged_fields lawful arranged) (List.mem_flatMap.mpr ⟨_, member, ?_⟩)
      exact (arranged.pairs _ _ member).mem_iff.mpr ((mem_entries lawful).mpr ⟨owner.symm, rfl⟩)

theorem parse_rendering (lawful : schema.Lawful) (sourcePath : String) {text : Text}
    (admissible : schema.Admissible front isMargin assignment)
    (begun : ∀ character, front character = false → isHorizontalWhitespace character = false)
    (rendered : schema.Renders readEndings assignment text) :
    schema.parse text sourcePath = .ok assignment.document := by
  obtain ⟨blocks, arranged, spelled⟩ := rendered
  have read := readItems_of_sound lawful (arranged_sound lawful admissible arranged)
  have parsed := IniSchema.parseLines_tells sourcePath spelled (arranged_plain lawful admissible begun arranged) 1 read
  have complete : schema.requireAllFields sourcePath (readingOf blocks).document = .ok () := by
    rw [requireAllFields_eq_ok, readingOf, arranged_document lawful arranged]
    exact missingFields_document lawful assignment
  refine Simulation.bind_eq_ok.mpr ⟨_, parsed, ?_⟩
  rw [complete, readingOf, arranged_document lawful arranged]
  rfl

end Rendered

end BlobRoyale.Application
