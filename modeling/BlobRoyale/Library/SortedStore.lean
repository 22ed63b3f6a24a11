import Mathlib.Order.Basic
import Mathlib.Data.List.Sort

/-!
# Sorted stores

A finite map kept as entries strictly ascending by key, so equal maps are equal lists. Every
operation is characterized by `find`, and the order is a field: no unsorted store can be built.
-/



structure SortedStore (K V : Type) [LinearOrder K] where
  entries : List (K × V)
  ascending : entries.Pairwise fun first second => first.1 < second.1

namespace SortedStore

variable {K V W : Type} [LinearOrder K]

instance [DecidableEq V] : DecidableEq (SortedStore K V) := fun first second =>
  decidable_of_iff (first.entries = second.entries) ⟨fun same => by
    cases first
    cases second
    cases same
    rfl, fun same => congrArg entries same⟩

def empty : SortedStore K V := ⟨[], .nil⟩

def keys (store : SortedStore K V) : List K := store.entries.map Prod.fst

def find (store : SortedStore K V) (key : K) : Option V :=
  (store.entries.find? fun entry => entry.1 = key).map Prod.snd

theorem keys_ascending (store : SortedStore K V) : store.keys.Pairwise (· < ·) :=
  List.pairwise_map.mpr store.ascending

theorem keys_nodup (store : SortedStore K V) : store.keys.Nodup :=
  store.keys_ascending.imp ne_of_lt

theorem eq_of_key {store : SortedStore K V} {first second : K × V} (left : first ∈ store.entries)
    (right : second ∈ store.entries) (same : first.1 = second.1) : first = second :=
  List.inj_on_of_nodup_map store.keys_nodup left right same

theorem find_eq_some_iff {store : SortedStore K V} {key : K} {value : V} :
    store.find key = some value ↔ (key, value) ∈ store.entries := by
  constructor
  · intro found
    obtain ⟨⟨other, stored⟩, member, rfl⟩ := Option.map_eq_some_iff.mp found
    have named : other = key := by simpa using List.find?_some member
    exact named ▸ List.mem_of_find?_eq_some member
  · intro member
    have exists_ : (store.entries.find? fun entry => entry.1 = key).isSome = true := by
      rw [List.find?_isSome]
      exact ⟨(key, value), member, by simp⟩
    obtain ⟨entry, found⟩ := Option.isSome_iff_exists.mp exists_
    have named : entry.1 = key := by simpa using List.find?_some found
    have same := store.eq_of_key (List.mem_of_find?_eq_some found) member named
    rw [find, found, same]
    rfl

theorem find_eq_none_iff {store : SortedStore K V} {key : K} :
    store.find key = none ↔ key ∉ store.keys := by
  simp only [find, keys, Option.map_eq_none_iff, List.find?_eq_none, decide_eq_true_eq, List.mem_map,
    not_exists, not_and]

theorem mem_keys_iff {store : SortedStore K V} {key : K} :
    key ∈ store.keys ↔ (store.find key).isSome = true := by
  rw [Option.isSome_iff_ne_none, ne_eq, find_eq_none_iff, not_not]

theorem ext_find {first second : SortedStore K V} (same : ∀ key, first.find key = second.find key) :
    first = second := by
  have antisymmetric : Std.Antisymm fun first second : K × V => first.1 < second.1 :=
    ⟨fun _ _ less more => absurd less more.asymm⟩
  have irreflexive : Std.Irrefl fun first second : K × V => first.1 < second.1 :=
    ⟨fun _ => lt_irrefl _⟩
  have entries : first.entries = second.entries := by
    refine List.Pairwise.eq_of_mem_iff first.ascending second.ascending fun entry => ?_
    rw [← find_eq_some_iff, ← find_eq_some_iff, same]
  cases first
  cases second
  cases entries
  rfl

/-- The first key two neighbouring entries share. -/
def repeatedKey : List (K × V) → Option K
  | first :: second :: rest =>
      if first.1 = second.1 then some first.1 else repeatedKey (second :: rest)
  | _ => none

theorem ascending_of_sorted {entries : List (K × V)}
    (sorted : entries.Pairwise fun first second => first.1 ≤ second.1)
    (distinct : repeatedKey entries = none) :
    entries.Pairwise fun first second => first.1 < second.1 := by
  induction entries with
  | nil => exact .nil
  | cons first rest ih =>
    obtain ⟨below, tail⟩ := List.pairwise_cons.mp sorted
    cases rest with
    | nil => exact List.pairwise_singleton _ _
    | cons second rest =>
      rw [repeatedKey] at distinct
      split at distinct
      · cases distinct
      · next different =>
        have head : first.1 < second.1 := lt_of_le_of_ne (below second List.mem_cons_self) different
        refine List.pairwise_cons.mpr ⟨fun other member => ?_, ih tail distinct⟩
        obtain rfl | member := List.mem_cons.mp member
        · exact head
        · exact lt_of_lt_of_le head ((List.pairwise_cons.mp tail).1 other member)

def insertEntry (key : K) (value : V) : List (K × V) → List (K × V)
  | [] => [(key, value)]
  | entry :: rest =>
      if key < entry.1 then (key, value) :: entry :: rest
      else if key = entry.1 then (key, value) :: rest
      else entry :: insertEntry key value rest

theorem mem_insertEntry {key : K} {value : V} {entries : List (K × V)}
    (ascending : entries.Pairwise fun first second => first.1 < second.1) {entry : K × V} :
    entry ∈ insertEntry key value entries ↔
      entry = (key, value) ∨ (entry ∈ entries ∧ entry.1 ≠ key) := by
  induction entries with
  | nil => simp [insertEntry]
  | cons head rest ih =>
    obtain ⟨above, tail⟩ := List.pairwise_cons.mp ascending
    have headRest : ∀ other ∈ rest, key ≤ head.1 → other.1 ≠ key := fun other member below =>
      ne_of_gt (lt_of_le_of_lt below (above other member))
    rw [insertEntry]
    split
    · next less =>
      have restKept := fun member => headRest entry member (le_of_lt less)
      have headKept : head.1 ≠ key := ne_of_gt less
      constructor
      · intro member
        obtain same | same | member := List.mem_cons.mp member |>.imp id List.mem_cons.mp
        · exact .inl same
        · exact .inr ⟨same ▸ List.mem_cons_self, same ▸ headKept⟩
        · exact .inr ⟨List.mem_cons_of_mem _ member, restKept member⟩
      · rintro (same | ⟨member, -⟩)
        · exact same ▸ List.mem_cons_self
        · exact List.mem_cons_of_mem _ member
    · split
      · next same =>
        have restKept := fun member => headRest entry member (le_of_eq same)
        constructor
        · intro member
          obtain same | member := List.mem_cons.mp member
          · exact .inl same
          · exact .inr ⟨List.mem_cons_of_mem _ member, restKept member⟩
        · rintro (new | ⟨member, other⟩)
          · exact new ▸ List.mem_cons_self
          · refine List.mem_cons_of_mem _ ((List.mem_cons.mp member).resolve_left ?_)
            rintro rfl
            exact other same.symm
      · next greater different =>
        rw [List.mem_cons, ih tail, List.mem_cons]
        constructor
        · rintro (same | new | ⟨member, other⟩)
          · exact .inr ⟨.inl same, same ▸ Ne.symm different⟩
          · exact .inl new
          · exact .inr ⟨.inr member, other⟩
        · rintro (new | ⟨same | member, other⟩)
          · exact .inr (.inl new)
          · exact .inl same
          · exact .inr (.inr ⟨member, other⟩)

theorem insertEntry_ascending {key : K} {value : V} {entries : List (K × V)}
    (ascending : entries.Pairwise fun first second => first.1 < second.1) :
    (insertEntry key value entries).Pairwise fun first second => first.1 < second.1 := by
  induction entries with
  | nil => exact List.pairwise_singleton _ _
  | cons head rest ih =>
    obtain ⟨above, tail⟩ := List.pairwise_cons.mp ascending
    rw [insertEntry]
    split
    · next less =>
      refine List.pairwise_cons.mpr ⟨fun other member => ?_, ascending⟩
      obtain rfl | member := List.mem_cons.mp member
      · exact less
      · exact less.trans (above other member)
    · split
      · next same =>
        exact List.pairwise_cons.mpr ⟨fun other member => same ▸ above other member, tail⟩
      · next greater different =>
        refine List.pairwise_cons.mpr ⟨fun other member => ?_, ih tail⟩
        obtain rfl | ⟨member, -⟩ := (mem_insertEntry tail).mp member
        · exact lt_of_le_of_ne (not_lt.mp greater) (Ne.symm different)
        · exact above other member

theorem length_insertEntry {key : K} {value : V} {entries : List (K × V)}
    (ascending : entries.Pairwise fun first second => first.1 < second.1) :
    (insertEntry key value entries).length =
      if key ∈ entries.map Prod.fst then entries.length else entries.length + 1 := by
  induction entries with
  | nil => rfl
  | cons head rest ih =>
    obtain ⟨above, tail⟩ := List.pairwise_cons.mp ascending
    have absent : key ≤ head.1 → key ∉ rest.map Prod.fst := by
      intro below member
      obtain ⟨other, stored, rfl⟩ := List.mem_map.mp member
      exact absurd (above other stored) (not_lt.mpr below)
    rw [insertEntry]
    split
    · next less =>
      have missing : ¬ key ∈ (head :: rest).map Prod.fst := by
        rw [List.map_cons, List.mem_cons, not_or]
        exact ⟨ne_of_lt less, absent (le_of_lt less)⟩
      rw [if_neg missing]
      rfl
    · split
      · next same => simp [same]
      · next greater different =>
        simp only [List.length_cons, ih tail, List.map_cons, List.mem_cons, different, false_or]
        split <;> rfl

def insertOrAssign (store : SortedStore K V) (key : K) (value : V) : SortedStore K V :=
  ⟨insertEntry key value store.entries, insertEntry_ascending store.ascending⟩

theorem find_insertOrAssign (store : SortedStore K V) (key : K) (value : V) (other : K) :
    (store.insertOrAssign key value).find other =
      if other = key then some value else store.find other := by
  refine Option.ext fun found => ?_
  rw [find_eq_some_iff, insertOrAssign, mem_insertEntry store.ascending]
  split
  · next same => simp [same, eq_comm]
  · next different => simp [different, find_eq_some_iff]

theorem length_insertOrAssign (store : SortedStore K V) (key : K) (value : V) :
    (store.insertOrAssign key value).entries.length =
      if key ∈ store.keys then store.entries.length else store.entries.length + 1 :=
  length_insertEntry store.ascending

/-- The entries whose key and value a test keeps. -/
def filter (test : K → V → Bool) (store : SortedStore K V) : SortedStore K V :=
  ⟨store.entries.filter fun entry => test entry.1 entry.2, store.ascending.filter _⟩

theorem find_filter (test : K → V → Bool) (store : SortedStore K V) (key : K) :
    (store.filter test).find key = (store.find key).filter (test key) := by
  refine Option.ext fun found => ?_
  rw [find_eq_some_iff, filter, List.mem_filter, Option.filter_eq_some_iff, find_eq_some_iff]

theorem length_filter_le (test : K → V → Bool) (store : SortedStore K V) :
    (store.filter test).entries.length ≤ store.entries.length :=
  List.length_filter_le _ _

def erase (store : SortedStore K V) (key : K) : SortedStore K V :=
  store.filter fun other _ => other ≠ key

theorem find_erase (store : SortedStore K V) (key other : K) :
    (store.erase key).find other = if other = key then none else store.find other := by
  rw [erase, find_filter]
  by_cases same : other = key
  · simp [same]
  · cases store.find other <;> simp [same]

theorem length_erase_lt {store : SortedStore K V} {key : K} (stored : key ∈ store.keys) :
    (store.erase key).entries.length < store.entries.length := by
  obtain ⟨entry, member, same⟩ := List.mem_map.mp stored
  exact List.length_filter_lt_length_iff_exists.mpr ⟨entry, member, by simp [same]⟩

def mapValues (change : K → V → W) (store : SortedStore K V) : SortedStore K W :=
  ⟨store.entries.map fun entry => (entry.1, change entry.1 entry.2),
    List.pairwise_map.mpr store.ascending⟩

theorem find_mapValues (change : K → V → W) (store : SortedStore K V) (key : K) :
    (store.mapValues change).find key = (store.find key).map (change key) := by
  refine Option.ext fun found => ?_
  rw [find_eq_some_iff, mapValues, List.mem_map, Option.map_eq_some_iff]
  constructor
  · rintro ⟨⟨other, value⟩, member, same⟩
    cases same
    exact ⟨value, find_eq_some_iff.mpr member, rfl⟩
  · rintro ⟨value, member, rfl⟩
    exact ⟨(key, value), find_eq_some_iff.mp member, rfl⟩

@[simp] theorem keys_mapValues (change : K → V → W) (store : SortedStore K V) :
    (store.mapValues change).keys = store.keys := by
  simp [keys, mapValues]

end SortedStore
