import Mathlib.Data.List.Sort
import Mathlib.Data.List.Nodup
import Mathlib.Data.List.Induction

/-!
# Last-writer-wins queues

Two ways to keep one entry per key of a sequence of writes: replacing the queued entry in place,
and sorting the writes by key and time and keeping the last of each run of equal keys. Both are
determined by `latest`, the newest write of each key, so they can be exchanged.
-/

namespace LastWriter

theorem eq_of_ascending {α κ : Type} [Preorder κ] {key : α → κ} {first second : List α}
    (firstAscending : first.Pairwise fun a b => key a < key b)
    (secondAscending : second.Pairwise fun a b => key a < key b)
    (members : ∀ entry, entry ∈ first ↔ entry ∈ second) : first = second := by
  have : Std.Antisymm fun a b : α => key a < key b := ⟨fun _ _ less more => absurd less more.asymm⟩
  have : Std.Irrefl fun a b : α => key a < key b := ⟨fun _ => lt_irrefl _⟩
  exact List.Pairwise.eq_of_mem_iff firstAscending secondAscending members

variable {α κ : Type} [DecidableEq κ] {key : α → κ}

def latest (key : α → κ) (k : κ) (entries : List α) : Option α :=
  (entries.filter fun entry => key entry = k).getLast?

@[simp] theorem latest_nil (k : κ) : latest key k [] = none := rfl

theorem latest_concat (k : κ) (entries : List α) (entry : α) :
    latest key k (entries ++ [entry]) = if key entry = k then some entry else latest key k entries := by
  unfold latest
  by_cases same : key entry = k <;> simp [List.filter_append, same]

theorem key_of_latest {k : κ} {entries : List α} {entry : α}
    (newest : latest key k entries = some entry) : key entry = k := by
  have member := List.mem_of_getLast? newest
  simpa using (List.mem_filter.mp member).2

theorem mem_of_latest {k : κ} {entries : List α} {entry : α}
    (newest : latest key k entries = some entry) : entry ∈ entries :=
  (List.mem_filter.mp (List.mem_of_getLast? newest)).1

theorem exists_latest {entries : List α} {entry : α} (member : entry ∈ entries) :
    ∃ newest, latest key (key entry) entries = some newest := by
  have held : entry ∈ entries.filter fun other => key other = key entry :=
    List.mem_filter.mpr ⟨member, decide_eq_true rfl⟩
  exact Option.isSome_iff_exists.mp (List.getLast?_isSome.mpr (List.ne_nil_of_mem held))

theorem latest_eq_some_iff_getElem? {entries : List α} {k : κ} {entry : α} :
    latest key k entries = some entry ↔
      ∃ position : Nat, entries[position]? = some entry ∧ key entry = k ∧
        ∀ (later : Nat) (other : α), entries[later]? = some other → key other = k → later ≤ position := by
  induction entries using List.reverseRecOn generalizing entry with
  | nil => simp
  | append_singleton entries last ih =>
      rw [latest_concat]
      have atEnd : (entries ++ [last])[entries.length]? = some last := by simp
      split
      · next same =>
          constructor
          · rintro ⟨⟩
            refine ⟨entries.length, atEnd, same, fun later other found _ => ?_⟩
            have bound := (List.getElem?_eq_some_iff.mp found).1
            simp only [List.length_append, List.length_singleton] at bound
            omega
          · rintro ⟨position, found, keyed, newest⟩
            have bound := (List.getElem?_eq_some_iff.mp found).1
            simp only [List.length_append, List.length_singleton] at bound
            have reaches := newest entries.length last atEnd same
            obtain rfl : position = entries.length := by omega
            exact atEnd.symm.trans found
      · next different =>
          rw [ih]
          constructor
          · rintro ⟨position, found, keyed, newest⟩
            have bound := (List.getElem?_eq_some_iff.mp found).1
            refine ⟨position, by rwa [List.getElem?_append_left bound], keyed, ?_⟩
            intro later other foundLater keyedLater
            by_cases early : later < entries.length
            · exact newest later other (by rwa [List.getElem?_append_left early] at foundLater) keyedLater
            · have bound := (List.getElem?_eq_some_iff.mp foundLater).1
              simp only [List.length_append, List.length_singleton] at bound
              obtain rfl : later = entries.length := by omega
              cases atEnd.symm.trans foundLater
              exact absurd keyedLater different
          · rintro ⟨position, found, keyed, newest⟩
            have early : position < entries.length := by
              have bound := (List.getElem?_eq_some_iff.mp found).1
              simp only [List.length_append, List.length_singleton] at bound
              by_contra reaches
              obtain rfl : position = entries.length := by omega
              cases atEnd.symm.trans found
              exact different keyed
            refine ⟨position, by rwa [List.getElem?_append_left early] at found, keyed, ?_⟩
            intro later other foundLater keyedLater
            have bound := (List.getElem?_eq_some_iff.mp foundLater).1
            exact newest later other (by rwa [List.getElem?_append_left bound]) keyedLater

theorem latest_eq_some_iff {entries : List α} (unique : (entries.map key).Nodup) {k : κ} {entry : α} :
    latest key k entries = some entry ↔ entry ∈ entries ∧ key entry = k := by
  constructor
  · exact fun newest => ⟨mem_of_latest newest, key_of_latest newest⟩
  · rintro ⟨member, rfl⟩
    obtain ⟨before, after, rfl⟩ := List.append_of_mem member
    have fresh : ∀ other ∈ after, key other ≠ key entry := by
      intro other later same
      have rest := (List.nodup_append.mp (by simpa only [List.map_append] using unique)).2.1
      rw [List.map_cons, List.nodup_cons] at rest
      exact rest.1 (List.mem_map.mpr ⟨other, later, same⟩)
    have none_after : after.filter (fun other => key other = key entry) = [] := by
      rw [List.filter_eq_nil_iff]
      intro other later
      simpa using fresh other later
    simp [latest, List.filter_append, none_after]

/-- Replace the queued entry of the same key, or append. -/
def supersede (key : α → κ) (entry : α) : List α → List α
  | [] => [entry]
  | queued :: rest =>
      if key queued = key entry then entry :: rest else queued :: supersede key entry rest

theorem supersede_of_absent {entry : α} {queue : List α} (absent : key entry ∉ queue.map key) :
    supersede key entry queue = queue ++ [entry] := by
  induction queue with
  | nil => rfl
  | cons queued rest ih =>
      simp only [List.map_cons, List.mem_cons, not_or] at absent
      rw [supersede, if_neg (Ne.symm absent.1), ih absent.2, List.cons_append]

theorem supersede_of_present {entry : α} {queue : List α} (present : key entry ∈ queue.map key) :
    supersede key entry queue =
      queue.set (queue.findIdx fun queued => key queued = key entry) entry := by
  induction queue with
  | nil => simp at present
  | cons queued rest ih =>
      by_cases same : key queued = key entry
      · simp [supersede, same, List.findIdx_cons]
      · have later : key entry ∈ rest.map key := by
          rcases List.mem_cons.mp present with equal | later
          · exact absurd equal.symm same
          · exact later
        rw [supersede, if_neg same, ih later, List.findIdx_cons]
        simp [same]

theorem map_supersede (entry : α) (queue : List α) :
    (supersede key entry queue).map key =
      if key entry ∈ queue.map key then queue.map key else queue.map key ++ [key entry] := by
  induction queue with
  | nil => simp [supersede]
  | cons queued rest ih =>
      unfold supersede
      by_cases same : key queued = key entry
      · simp [same]
      · rw [if_neg same, List.map_cons, ih]
        have other : key entry ≠ key queued := Ne.symm same
        by_cases queuedBefore : key entry ∈ rest.map key <;>
          simp only [List.map_cons, List.mem_cons, other, queuedBefore, or_true, or_self, if_true,
            if_false, List.cons_append]

theorem length_supersede (entry : α) (queue : List α) :
    (supersede key entry queue).length =
      if key entry ∈ queue.map key then queue.length else queue.length + 1 := by
  have keys := congrArg List.length (@map_supersede α κ _ key entry queue)
  split at keys <;> simp_all

theorem supersede_nodup {entry : α} {queue : List α} (unique : (queue.map key).Nodup) :
    ((supersede key entry queue).map key).Nodup := by
  rw [map_supersede]
  split
  · exact unique
  · next fresh => exact List.nodup_append.mpr ⟨unique, by simp, by simpa using fresh⟩

theorem mem_of_mem_supersede {entry other : α} {queue : List α}
    (member : other ∈ supersede key entry queue) : other = entry ∨ other ∈ queue := by
  induction queue with
  | nil => exact .inl (List.mem_singleton.mp member)
  | cons queued rest ih =>
      unfold supersede at member
      split at member
      · rcases List.mem_cons.mp member with rfl | later
        · exact .inl rfl
        · exact .inr (List.mem_cons_of_mem _ later)
      · rcases List.mem_cons.mp member with rfl | later
        · exact .inr List.mem_cons_self
        · exact (ih later).imp_right (List.mem_cons_of_mem _)

theorem mem_supersede {queue : List α} (unique : (queue.map key).Nodup) {entry other : α} :
    other ∈ supersede key entry queue ↔
      other = entry ∨ (other ∈ queue ∧ key other ≠ key entry) := by
  induction queue with
  | nil => simp [supersede]
  | cons queued rest ih =>
      rw [List.map_cons, List.nodup_cons] at unique
      unfold supersede
      split
      · next same =>
          have fresh : ∀ later ∈ rest, key later ≠ key entry := by
            intro later member equal
            exact unique.1 (List.mem_map.mpr ⟨later, member, equal.trans same.symm⟩)
          constructor
          · intro member
            rcases List.mem_cons.mp member with rfl | later
            · exact .inl rfl
            · exact .inr ⟨List.mem_cons_of_mem _ later, fresh other later⟩
          · rintro (rfl | ⟨member, different⟩)
            · exact List.mem_cons_self
            · rcases List.mem_cons.mp member with rfl | later
              · exact absurd same different
              · exact List.mem_cons_of_mem _ later
      · next different =>
          rw [List.mem_cons, ih unique.2, List.mem_cons]
          constructor
          · rintro (rfl | rfl | ⟨later, distinct⟩)
            · exact .inr ⟨.inl rfl, different⟩
            · exact .inl rfl
            · exact .inr ⟨.inr later, distinct⟩
          · rintro (rfl | ⟨rfl | later, distinct⟩)
            · exact .inr (.inl rfl)
            · exact .inl rfl
            · exact .inr (.inr ⟨later, distinct⟩)

theorem latest_supersede {queue : List α} (unique : (queue.map key).Nodup) (entry : α) (k : κ) :
    latest key k (supersede key entry queue) =
      if key entry = k then some entry else latest key k queue := by
  have stillUnique := @supersede_nodup α κ _ key entry queue unique
  split
  · next same =>
      rw [latest_eq_some_iff stillUnique, mem_supersede unique]
      exact ⟨.inl rfl, same⟩
  · next different =>
      refine Option.ext fun other => ?_
      rw [latest_eq_some_iff stillUnique, latest_eq_some_iff unique, mem_supersede unique]
      constructor
      · rintro ⟨rfl | ⟨member, _⟩, keyed⟩
        · exact absurd keyed different
        · exact ⟨member, keyed⟩
      · rintro ⟨member, keyed⟩
        exact ⟨.inr ⟨member, fun same => different (same.symm.trans keyed)⟩, keyed⟩

theorem latest_foldl_supersede (entries : List α) (k : κ) :
    latest key k (entries.foldl (fun queue entry => supersede key entry queue) []) =
        latest key k entries ∧
      ((entries.foldl (fun queue entry => supersede key entry queue) []).map key).Nodup := by
  induction entries using List.reverseRecOn with
  | nil => exact ⟨rfl, List.nodup_nil⟩
  | append_singleton entries entry ih =>
      rw [List.foldl_append, List.foldl_cons, List.foldl_nil]
      refine ⟨?_, supersede_nodup ih.2⟩
      rw [latest_supersede ih.2, latest_concat, ih.1]

section LastOfRuns

/-- Keep the last entry of each run of equal keys. -/
def lastOfRuns (key : α → κ) : List α → List α
  | [] => []
  | [entry] => [entry]
  | entry :: next :: rest =>
      if key entry = key next then lastOfRuns key (next :: rest)
      else entry :: lastOfRuns key (next :: rest)

theorem lastOfRuns_sublist (entries : List α) : (lastOfRuns key entries).Sublist entries := by
  induction entries with
  | nil => exact .slnil
  | cons entry rest ih =>
      cases rest with
      | nil => exact .refl _
      | cons next rest =>
          rw [lastOfRuns]
          split
          · exact ih.cons entry
          · exact ih.cons_cons entry

variable {index : α → Nat} [Preorder κ]

/-- Ordered by key, and by time within one key. -/
def Chronological (key : α → κ) (index : α → Nat) (entries : List α) : Prop :=
  entries.Pairwise fun first second =>
    key first < key second ∨ (key first = key second ∧ index first < index second)

theorem mem_lastOfRuns {entries : List α} (ordered : Chronological key index entries) {entry : α} :
    entry ∈ lastOfRuns key entries ↔
      entry ∈ entries ∧ ∀ other ∈ entries, key other = key entry → index other ≤ index entry := by
  induction entries using lastOfRuns.induct key generalizing entry with
  | case1 => simp [lastOfRuns]
  | case2 single =>
      simp only [lastOfRuns, List.mem_singleton, forall_eq]
      exact ⟨fun same => ⟨same, fun _ => same ▸ Nat.le_refl _⟩, And.left⟩
  | case3 first next rest same ih =>
      have later := List.pairwise_cons.mp ordered
      rw [lastOfRuns, if_pos same, ih later.2]
      have earlier : index first < index next := by
        rcases later.1 next List.mem_cons_self with less | ⟨-, older⟩
        · exact absurd less (same ▸ lt_irrefl _)
        · exact older
      constructor
      · rintro ⟨member, newest⟩
        refine ⟨List.mem_cons_of_mem _ member, fun other queued keyed => ?_⟩
        rcases List.mem_cons.mp queued with rfl | queued
        · exact (earlier.le.trans (newest next List.mem_cons_self (same ▸ keyed)))
        · exact newest other queued keyed
      · rintro ⟨member, newest⟩
        refine ⟨?_, fun other queued => newest other (List.mem_cons_of_mem _ queued)⟩
        rcases List.mem_cons.mp member with rfl | member
        · exact absurd (newest next (List.mem_cons_of_mem _ List.mem_cons_self) same.symm)
            (Nat.not_le_of_lt earlier)
        · exact member
  | case4 first next rest different ih =>
      have later := List.pairwise_cons.mp ordered
      have above : ∀ other ∈ next :: rest, key first < key other := by
        have start : key first < key next :=
          (later.1 next List.mem_cons_self).resolve_right fun same => different same.1
        intro other queued
        rcases List.mem_cons.mp queued with rfl | queued
        · exact start
        · rcases (List.pairwise_cons.mp later.2).1 other queued with less | ⟨same, -⟩
          · exact start.trans less
          · exact same ▸ start
      rw [lastOfRuns, if_neg different, List.mem_cons, ih later.2]
      constructor
      · rintro (rfl | ⟨member, newest⟩)
        · refine ⟨List.mem_cons_self, fun other queued keyed => ?_⟩
          rcases List.mem_cons.mp queued with rfl | queued
          · exact Nat.le_refl _
          · exact absurd (above other queued) (keyed ▸ lt_irrefl _)
        · refine ⟨List.mem_cons_of_mem _ member, fun other queued keyed => ?_⟩
          rcases List.mem_cons.mp queued with rfl | queued
          · exact absurd (above entry member) (keyed ▸ lt_irrefl _)
          · exact newest other queued keyed
      · rintro ⟨member, newest⟩
        rcases List.mem_cons.mp member with rfl | member
        · exact .inl rfl
        · exact .inr ⟨member, fun other queued => newest other (List.mem_cons_of_mem _ queued)⟩

theorem lastOfRuns_ascending {entries : List α} (ordered : Chronological key index entries) :
    (lastOfRuns key entries).Pairwise fun first second => key first < key second := by
  induction entries using lastOfRuns.induct key with
  | case1 => exact .nil
  | case2 single => exact List.pairwise_singleton _ _
  | case3 first next rest same ih =>
      rw [lastOfRuns, if_pos same]
      exact ih (List.pairwise_cons.mp ordered).2
  | case4 first next rest different ih =>
      have later := List.pairwise_cons.mp ordered
      rw [lastOfRuns, if_neg different, List.pairwise_cons]
      refine ⟨fun other kept => ?_, ih later.2⟩
      have queued := ((mem_lastOfRuns later.2).mp kept).1
      have start : key first < key next :=
        (later.1 next List.mem_cons_self).resolve_right fun same => different same.1
      rcases List.mem_cons.mp queued with rfl | queued
      · exact start
      · rcases (List.pairwise_cons.mp later.2).1 other queued with less | ⟨same, -⟩
        · exact start.trans less
        · exact same ▸ start

end LastOfRuns

end LastWriter
