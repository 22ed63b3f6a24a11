import Mathlib.Data.List.Basic
import Mathlib.Data.List.Count
import Mathlib.Data.List.Pairwise
import Mathlib.Order.Lattice

/-!
# Competition rankings

A list in key order in which every entry is placed one past the entries strictly before it, so that equal keys
share a placement and leave a gap behind them. It can be grown at its end by looking at its last entry alone.
-/

namespace CompetitionRanking

variable {E K : Type*} [LinearOrder K] {key : E → K} {placement : E → Nat} {entries : List E} {entry : E}

structure Ranked (key : E → K) (placement : E → Nat) (entries : List E) : Prop where
  ordered : entries.Pairwise fun earlier later => key earlier ≤ key later
  placed : ∀ entry ∈ entries, placement entry = (entries.countP fun other => key other < key entry) + 1

/-- The placement of a key no entry is behind: the last entry's where they tie. -/
def nextPlacement (key : E → K) (placement : E → Nat) (entries : List E) (next : K) : Nat :=
  match entries.getLast? with
  | some last => if key last = next then placement last else entries.length + 1
  | none => entries.length + 1

theorem Ranked.nil : Ranked key placement [] := ⟨.nil, fun _ member => nomatch member⟩

theorem Ranked.tied (ranked : Ranked key placement entries) {first second : E} (left : first ∈ entries)
    (right : second ∈ entries) (same : key first = key second) : placement first = placement second := by
  rw [ranked.placed first left, ranked.placed second right, same]

theorem Ranked.concat (ranked : Ranked key placement entries) (behind : ∀ other ∈ entries, key other ≤ key entry)
    (placed : placement entry = nextPlacement key placement entries (key entry)) :
    Ranked key placement (entries ++ [entry]) := by
  refine ⟨?_, ?_⟩
  · rw [List.pairwise_append]
    refine ⟨ranked.ordered, List.pairwise_singleton _ _, fun other member last here => ?_⟩
    rw [List.mem_singleton.mp here]
    exact behind other member
  · intro other member
    rw [List.countP_append, List.countP_singleton]
    obtain held | here := List.mem_append.mp member
    · rw [if_neg (by simpa using behind other held), Nat.add_zero]
      exact ranked.placed other held
    · cases List.mem_singleton.mp here
      rw [if_neg (by simp), Nat.add_zero, placed, nextPlacement]
      obtain rfl | ⟨earlier, last, rfl⟩ := List.eq_nil_or_concat' entries
      · rfl
      · rw [List.getLast?_concat]
        have member : last ∈ earlier ++ [last] := List.mem_append_right _ (List.mem_singleton_self _)
        dsimp only
        split
        · next tied => rw [ranked.placed last member, tied]
        · next apart =>
          -- Everyone is at most the last entry, and the last entry is strictly before the new one.
          have before : key last < key entry := lt_of_le_of_ne (behind last member) apart
          have all : ∀ other ∈ earlier ++ [last], decide (key other < key entry) = true := by
            intro other held
            refine decide_eq_true ?_
            obtain front | back := List.mem_append.mp held
            · exact lt_of_le_of_lt ((List.pairwise_append.mp ranked.ordered).2.2 other front last
                (List.mem_singleton_self _)) before
            · rw [List.mem_singleton.mp back]
              exact before
          rw [List.countP_eq_length.mpr all]

end CompetitionRanking
