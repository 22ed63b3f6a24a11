import Mathlib.Data.List.SplitBy

/-!
# Maximal runs, one element at a time

How the split of a list into its maximal runs changes when the list grows at its end, and what a counter that is
cleared at every gap says about the positions behind it.
-/

namespace MaximalRuns

variable {α : Type*} {joined : α → α → Bool} {entries : List α} {entry : α}

theorem splitBy_concat_apart (apart : ∀ last ∈ entries.getLast?, joined last entry = false) :
    (entries ++ [entry]).splitBy joined = entries.splitBy joined ++ [[entry]] :=
  List.splitBy_append_cons [] apart

theorem splitBy_concat_joined {closed : List (List α)} {run : List α} {last : α}
    (split : entries.splitBy joined = closed ++ [run ++ [last]]) (joins : joined last entry = true) :
    (entries ++ [entry]).splitBy joined = closed ++ [run ++ [last] ++ [entry]] := by
  obtain ⟨flat, proper, chains, apart⟩ := List.splitBy_eq_iff.mp split
  rw [List.mem_append, not_or] at proper
  refine List.splitBy_eq_iff.mpr ⟨?_, ?_, ?_, ?_⟩
  · rw [flat]
    simp
  · rw [List.mem_append, not_or]
    exact ⟨proper.1, by simp⟩
  · intro group member
    obtain earlier | here := List.mem_append.mp member
    · exact chains group (List.mem_append_left _ earlier)
    · rw [List.mem_singleton.mp here, List.isChain_append]
      refine ⟨chains _ (List.mem_append_right _ (List.mem_singleton_self _)), List.isChain_singleton _, ?_⟩
      simpa using joins
  · rw [List.isChain_append] at apart ⊢
    refine ⟨apart.1, List.isChain_singleton _, fun group ends other begins => ?_⟩
    cases Option.some.inj begins
    obtain ⟨nonempty, proper, different⟩ := apart.2.2 group ends (run ++ [last]) rfl
    refine ⟨nonempty, by simp, ?_⟩
    rw [List.head_append_of_ne_nil proper]
    exact different

theorem splitBy_last (joined : α → α → Bool) (entries : List α) (entry : α) :
    ∃ closed run, (entries ++ [entry]).splitBy joined = closed ++ [run ++ [entry]] := by
  have nonempty : (entries ++ [entry]).splitBy joined ≠ [] := List.splitBy_ne_nil.mpr (by simp)
  have ends := List.getLast_getLast_splitBy joined (show entries ++ [entry] ≠ [] by simp)
  rw [List.getLast_append_singleton] at ends
  obtain ⟨closed, run, split⟩ : ∃ closed run, (entries ++ [entry]).splitBy joined = closed ++ [run] :=
    ⟨_, _, (List.dropLast_append_getLast nonempty).symm⟩
  have proper : run ≠ [] := List.ne_nil_of_mem_splitBy (split ▸ List.mem_append_right _ (List.mem_singleton_self _))
  refine ⟨closed, run.dropLast, ?_⟩
  simp only [split, List.getLast_append_singleton] at ends
  rw [split, ← ends, List.dropLast_append_getLast proper]

section Counter

variable {p : Nat → Prop} {position counter : Nat}

/-- A counter that holds how far back from a position the run of its positions reaches. -/
def Counts (p : Nat → Prop) (position counter : Nat) : Prop :=
  ∀ length, length ≤ counter ↔ ∀ earlier, earlier < position → position ≤ earlier + length → p earlier

theorem Counts.hit (counts : Counts p position counter) (holds : p position) : Counts p (position + 1) (counter + 1) := by
  intro length
  cases length with
  | zero =>
    refine ⟨fun _ earlier before reaches => ?_, fun _ => Nat.zero_le _⟩
    omega
  | succ length =>
    rw [Nat.succ_le_succ_iff, counts length]
    constructor
    · intro behind earlier before reaches
      obtain here | strictly := Nat.eq_or_lt_of_le (Nat.le_of_lt_succ before)
      · exact here ▸ holds
      · exact behind earlier strictly (by omega)
    · intro behind earlier before reaches
      exact behind earlier (by omega) (by omega)

theorem Counts.miss (fails : ¬ p position) : Counts p (position + 1) 0 := by
  intro length
  constructor
  · intro none earlier before reaches
    omega
  · intro behind
    by_contra more
    exact fails (behind position (Nat.lt_succ_self _) (by omega))

end Counter

end MaximalRuns
