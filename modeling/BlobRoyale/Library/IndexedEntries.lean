import BlobRoyale.Library.SortedStore

/-!
# Entries worked on by index

A vector of entries ascending by key, searched by `lower_bound` and changed at the index found.
Every operation is compared with the sorted store's own.
-/

namespace IndexedEntries

variable {K V W : Type} [LinearOrder K]

/-- The index of the first entry whose key is not below the searched one. -/
def lowerBound (entries : List (K × V)) (key : K) : Nat :=
  entries.findIdx fun entry => !decide (entry.1 < key)

/-- Whether the entry at that index is the key's own. -/
def holds (entries : List (K × V)) (key : K) : Bool :=
  match entries[lowerBound entries key]? with
  | some entry => entry.1 = key
  | none => false

def find (entries : List (K × V)) (key : K) : Option V :=
  if holds entries key then entries[lowerBound entries key]?.map Prod.snd else none

def assign (entries : List (K × V)) (key : K) (value : V) : List (K × V) :=
  entries.modify (lowerBound entries key) fun entry => (entry.1, value)

def insert (entries : List (K × V)) (key : K) (value : V) : List (K × V) :=
  entries.insertIdx (lowerBound entries key) (key, value)

def erase (entries : List (K × V)) (key : K) : List (K × V) :=
  if holds entries key then entries.eraseIdx (lowerBound entries key) else entries

/-- Erase in place while walking by index; nothing when the passes run out first. -/
def eraseFrom (keep : K → Bool) : Nat → Nat → List (K × V) → Option (List (K × V))
  | 0, _, _ => none
  | passes + 1, index, entries =>
      match entries[index]? with
      | none => some entries
      | some entry =>
          if keep entry.1 then eraseFrom keep passes (index + 1) entries
          else eraseFrom keep passes index (erase entries entry.1)

section Ascending

variable {entries : List (K × V)} {key : K} {value : V}

local instance irrefl_keys : Std.Irrefl fun first second : K × V => first.1 < second.1 := ⟨fun _ => lt_irrefl _⟩

theorem lowerBound_cons (entry : K × V) (rest : List (K × V)) (key : K) :
    lowerBound (entry :: rest) key = if entry.1 < key then lowerBound rest key + 1 else 0 := by
  rw [lowerBound, List.findIdx_cons]
  by_cases below : entry.1 < key
  · simp [below, lowerBound]
  · simp [below]

theorem holds_cons_below {entry : K × V} (rest : List (K × V)) (below : entry.1 < key) :
    holds (entry :: rest) key = holds rest key := by
  simp [holds, lowerBound_cons, below]

theorem holds_cons_above {entry : K × V} (rest : List (K × V)) (above : ¬ entry.1 < key) :
    holds (entry :: rest) key = decide (entry.1 = key) := by
  simp [holds, lowerBound_cons, above]

theorem holds_iff (ascending : entries.Pairwise fun first second => first.1 < second.1) :
    holds entries key = true ↔ key ∈ entries.map Prod.fst := by
  induction entries with
  | nil => simp [holds]
  | cons entry rest ih =>
    obtain ⟨greater, tail⟩ := List.pairwise_cons.mp ascending
    by_cases below : entry.1 < key
    · rw [holds_cons_below rest below, ih tail, List.map_cons, List.mem_cons,
        or_iff_right (ne_of_gt below)]
    · rw [holds_cons_above rest below, decide_eq_true_eq, List.map_cons, List.mem_cons]
      constructor
      · exact fun same => .inl same.symm
      · rintro (same | later)
        · exact same.symm
        · obtain ⟨other, member, rfl⟩ := List.mem_map.mp later
          exact absurd (greater other member) below

theorem find_eq (store : SortedStore K V) (key : K) : find store.entries key = store.find key := by
  obtain ⟨entries, ascending⟩ := store
  induction entries with
  | nil => rfl
  | cons entry rest ih =>
    obtain ⟨greater, tail⟩ := List.pairwise_cons.mp ascending
    have rests := ih tail
    by_cases below : entry.1 < key
    · rw [SortedStore.find, List.find?_cons_of_neg (by simpa using ne_of_lt below)]
      rw [SortedStore.find] at rests
      rw [← rests, find, find, holds_cons_below rest below]
      simp [lowerBound_cons, below]
    · rw [find, holds_cons_above rest below]
      by_cases same : entry.1 = key
      · rw [SortedStore.find, List.find?_cons_of_pos (by simpa using same)]
        simp [lowerBound_cons, same]
      · rw [if_neg (by simpa using same)]
        refine (SortedStore.find_eq_none_iff.mpr fun member => ?_).symm
        refine same (of_decide_eq_true ?_)
        rw [← holds_cons_above rest below]
        exact (holds_iff ascending).mpr member

theorem assign_eq (ascending : entries.Pairwise fun first second => first.1 < second.1)
    (held : holds entries key = true) :
    assign entries key value = SortedStore.insertEntry key value entries := by
  induction entries with
  | nil => cases held
  | cons entry rest ih =>
    rw [SortedStore.insertEntry]
    by_cases below : entry.1 < key
    · rw [holds_cons_below rest below] at held
      rw [if_neg (not_lt.mpr below.le), if_neg (ne_of_gt below), ← ih ascending.of_cons held]
      simp [assign, lowerBound_cons, below]
    · rw [holds_cons_above rest below, decide_eq_true_eq] at held
      simp [assign, lowerBound_cons, held]

theorem insert_eq (missing : holds entries key = false) :
    insert entries key value = SortedStore.insertEntry key value entries := by
  induction entries with
  | nil => rfl
  | cons entry rest ih =>
    rw [SortedStore.insertEntry]
    by_cases below : entry.1 < key
    · rw [holds_cons_below rest below] at missing
      rw [if_neg (not_lt.mpr below.le), if_neg (ne_of_gt below), ← ih missing]
      simp [insert, lowerBound_cons, below]
    · rw [holds_cons_above rest below, decide_eq_false_iff_not] at missing
      rw [if_pos (lt_of_le_of_ne (not_lt.mp below) (Ne.symm missing))]
      simp [insert, lowerBound_cons, below]

theorem erase_eq (ascending : entries.Pairwise fun first second => first.1 < second.1) :
    erase entries key = entries.filter fun entry => entry.1 ≠ key := by
  induction entries with
  | nil => rfl
  | cons entry rest ih =>
    obtain ⟨greater, tail⟩ := List.pairwise_cons.mp ascending
    by_cases below : entry.1 < key
    · rw [List.filter_cons_of_pos (by simpa using ne_of_lt below), ← ih tail, erase, erase,
        holds_cons_below rest below]
      by_cases held : holds rest key = true
      · simp [held, lowerBound_cons, below]
      · simp [held]
    · have kept : rest.filter (fun entry => entry.1 ≠ key) = rest := by
        refine List.filter_eq_self.mpr fun other member => ?_
        simpa using ne_of_gt (lt_of_le_of_lt (not_lt.mp below) (greater other member))
      rw [erase, holds_cons_above rest below]
      by_cases same : entry.1 = key
      · rw [List.filter_cons_of_neg (by simpa using same), kept]
        simp [lowerBound_cons, same]
      · rw [List.filter_cons_of_pos (by simpa using same), kept]
        simp [same]

theorem lowerBound_entry (ascending : entries.Pairwise fun first second => first.1 < second.1)
    {index : Nat} {entry : K × V} (found : entries[index]? = some entry) :
    lowerBound entries entry.1 = index := by
  obtain ⟨inside, rfl⟩ := List.getElem?_eq_some_iff.mp found
  refine (List.findIdx_eq inside).mpr ⟨by simp, fun earlier before => ?_⟩
  simpa using List.pairwise_iff_getElem.mp ascending earlier index _ _ before

theorem erase_entry (ascending : entries.Pairwise fun first second => first.1 < second.1)
    {index : Nat} {entry : K × V} (found : entries[index]? = some entry) :
    erase entries entry.1 = entries.eraseIdx index := by
  have held : holds entries entry.1 = true :=
    (holds_iff ascending).mpr (List.mem_map_of_mem (List.mem_of_getElem? found))
  rw [erase, if_pos held, lowerBound_entry ascending found]

theorem eraseFrom_eq {keep : K → Bool} {passes index : Nat}
    (ascending : entries.Pairwise fun first second => first.1 < second.1)
    (enough : entries.length - index < passes) :
    eraseFrom keep passes index entries =
      some (entries.take index ++ (entries.drop index).filter fun entry => keep entry.1) := by
  induction passes generalizing index entries with
  | zero => exact absurd enough (Nat.not_lt_zero _)
  | succ passes ih =>
    rw [eraseFrom]
    split
    · next past =>
      have outside := List.getElem?_eq_none_iff.mp past
      rw [List.drop_of_length_le outside, List.take_of_length_le outside, List.filter_nil,
        List.append_nil]
    · next entry found =>
      obtain ⟨inside, rfl⟩ := List.getElem?_eq_some_iff.mp found
      split
      · next kept =>
        have rest : (entries.drop index).filter (fun entry => keep entry.1) =
            entries[index] :: (entries.drop (index + 1)).filter fun entry => keep entry.1 := by
          rw [List.drop_eq_getElem_cons inside]
          exact List.filter_cons_of_pos kept
        rw [ih ascending (by omega), List.take_succ_eq_append_getElem inside, rest, List.append_assoc]
        rfl
      · next dropped =>
        have rest : (entries.drop index).filter (fun entry => keep entry.1) =
            (entries.drop (index + 1)).filter fun entry => keep entry.1 := by
          rw [List.drop_eq_getElem_cons inside]
          exact List.filter_cons_of_neg dropped
        have shorter := List.length_eraseIdx_of_lt inside
        have below : (entries.take index).length = index := List.length_take_of_le inside.le
        rw [erase_entry ascending found, ih (ascending.eraseIdx index) (by omega),
          List.eraseIdx_eq_take_drop_succ, List.take_left' below, List.drop_left' below, rest]

end Ascending

end IndexedEntries
