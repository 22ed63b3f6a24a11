import Mathlib.Data.List.Perm.Subperm

/-!
# Closed objects, by counting

An object whose members have distinct names holds every name asked of it and no other exactly where it
has as many members as those names, the optional ones counted where they are present.
-/

namespace ClosedMembers

variable {Name Value : Type} [DecidableEq Name] {members : List (Name × Value)} {names required optional : List Name}

def Distinct (members : List (Name × Value)) : Prop := (members.map Prod.fst).Nodup

def Within (members : List (Name × Value)) (names : List Name) : Prop :=
  ∀ member ∈ members, member.1 ∈ names

theorem isSome_lookup_iff {name : Name} :
    (members.lookup name).isSome = true ↔ name ∈ members.map Prod.fst := by
  simp only [List.lookup_isSome_iff, List.mem_map, beq_iff_eq]
  constructor
  · rintro ⟨member, listed, same⟩
    exact ⟨member, listed, same.symm⟩
  · rintro ⟨member, listed, same⟩
    exact ⟨member, listed, same.symm⟩

theorem length_eq_iff_within (distinct : Distinct members) (nodup : names.Nodup)
    (present : ∀ name ∈ names, (members.lookup name).isSome = true) :
    members.length = names.length ↔ Within members names := by
  have held : names ⊆ members.map Prod.fst := fun name listed => isSome_lookup_iff.mp (present name listed)
  have fits : names.length ≤ members.length := by
    simpa only [List.length_map] using (nodup.subperm held).length_le
  constructor
  · intro counted member listed
    have perm := (nodup.subperm held).perm_of_length_le (Nat.le_of_eq ((List.length_map _).trans counted))
    exact perm.mem_iff.mpr (List.mem_map_of_mem listed)
  · intro within
    have covered : members.map Prod.fst ⊆ names := by
      intro name listed
      obtain ⟨member, inside, rfl⟩ := List.mem_map.mp listed
      exact within member inside
    have bounded : members.length ≤ names.length := by
      simpa only [List.length_map] using (List.Nodup.subperm distinct covered).length_le
    exact Nat.le_antisymm bounded fits

def expected (members : List (Name × Value)) (required optional : List Name) : Nat :=
  required.length + optional.countP fun name => (members.lookup name).isSome

theorem length_eq_expected_iff (distinct : Distinct members) (nodup : (required ++ optional).Nodup)
    (present : ∀ name ∈ required, (members.lookup name).isSome = true) :
    members.length = expected members required optional ↔ Within members (required ++ optional) := by
  have sublist := (List.Sublist.refl required).append
    (List.filter_sublist (p := fun name => (members.lookup name).isSome) (l := optional))
  have counted : expected members required optional =
      (required ++ optional.filter fun name => (members.lookup name).isSome).length := by
    rw [expected, List.length_append, List.countP_eq_length_filter]
  rw [counted, length_eq_iff_within distinct (nodup.sublist sublist)]
  · constructor
    · exact fun within member listed => sublist.subset (within member listed)
    · intro within member listed
      refine (List.mem_append.mp (within member listed)).elim (List.mem_append_left _) fun inside => ?_
      refine List.mem_append_right _ (List.mem_filter.mpr ⟨inside, ?_⟩)
      exact isSome_lookup_iff.mpr (List.mem_map_of_mem listed)
  · intro name listed
    obtain listed | listed := List.mem_append.mp listed
    · exact present name listed
    · exact (List.mem_filter.mp listed).2

end ClosedMembers
