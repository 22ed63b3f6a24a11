import BlobRoyale.Controllers.TacticalObjectives
import BlobRoyale.Library.LeastKept
import Mathlib.Data.List.Induction

/-!
# Perception and iteration order

What a bot perceives is the least of what a scan offers it: the nearest opponents, the nearest hazard, the best
candidate. In what order the scan offers them is not to be seen.
-/

namespace BlobRoyale.Controllers

open Simulation LeastKept

variable {S : Type} [Scalar S]

section Opponents

def ShoveOpponent.rank (opponent : ShoveOpponent S) : S ×ₗ Nat := toLex (opponent.squaredDistance, opponent.entity)

theorem shoveOpponentPrecedes_iff {left right : ShoveOpponent S} :
    shoveOpponentPrecedes left right = true ↔ left.rank < right.rank := by
  unfold shoveOpponentPrecedes ShoveOpponent.rank
  rw [Prod.Lex.toLex_lt_toLex]
  split
  · next apart => simp [apart]
  · next same => simp [not_not.mp same]

variable {opponent : ShoveOpponent S} {opponents offered : List (ShoveOpponent S)} {nearest : NearestOpponents S}

theorem shift_places (entries : List (ShoveOpponent S)) (index : Nat) (bound : index < entries.length) :
    ∃ slot ≤ index,
      (NearestOpponents.shift opponent entries index).1.set (NearestOpponents.shift opponent entries index).2 opponent =
        entries.take slot ++ opponent :: (entries.take index).drop slot ++ entries.drop (index + 1) ∧
      (∀ later ∈ (entries.take index).drop slot, opponent.rank < later.rank) ∧
      (∀ last ∈ (entries.take slot).getLast?, ¬ opponent.rank < last.rank) := by
  induction index generalizing entries with
  | zero =>
    refine ⟨0, Nat.le_refl 0, ?_, by simp, by simp⟩
    rw [NearestOpponents.shift, List.set_eq_take_append_cons_drop, if_pos bound]
    rfl
  | succ index ih =>
    have inside : index < entries.length := Nat.lt_of_succ_lt bound
    have here : entries[index]? = some entries[index] := List.getElem?_eq_getElem inside
    have cut : entries.take (index + 1) = entries.take index ++ [entries[index]] := by
      rw [List.take_add_one, here]
      rfl
    rw [NearestOpponents.shift, here]
    dsimp only
    split
    · next precedes =>
      obtain ⟨slot, below, places, upper, lower⟩ := ih (entries.set (index + 1) entries[index])
        (by rw [List.length_set]; exact inside)
      have front : ∀ count ≤ index, (entries.set (index + 1) entries[index]).take count = entries.take count := by
        intro count small
        rw [List.take_set_of_le (by omega)]
      have back : (entries.set (index + 1) entries[index]).drop (index + 1) =
          entries[index] :: entries.drop (index + 1 + 1) := by
        rw [List.set_eq_take_append_cons_drop, if_pos bound, List.drop_left' (by simp; omega)]
      rw [front index (Nat.le_refl _)] at places upper
      rw [front slot below] at places lower
      rw [back] at places
      have moved : (entries.take (index + 1)).drop slot = (entries.take index).drop slot ++ [entries[index]] := by
        rw [cut, List.drop_append_of_le_length (by simp; omega)]
      refine ⟨slot, Nat.le_succ_of_le below, ?_, ?_, lower⟩
      · rw [places, moved]
        simp
      · intro later member
        rw [moved] at member
        obtain earlier | last := List.mem_append.mp member
        · exact upper later earlier
        · rw [List.mem_singleton.mp last]
          exact shoveOpponentPrecedes_iff.mp precedes
    · next stops =>
      refine ⟨index + 1, Nat.le_refl _, ?_, ?_, ?_⟩
      · rw [List.set_eq_take_append_cons_drop, if_pos bound, List.drop_take_self]
        simp
      · rw [List.drop_take_self]
        intro later member
        exact absurd member List.not_mem_nil
      · rw [cut, List.getLast?_concat]
        intro last same
        cases Option.some.inj same
        exact shoveOpponentPrecedes_iff.not.mp stops

/-- The slots in use hold the least of what was offered. -/
structure Nearest (nearest : NearestOpponents S) (offered : List (ShoveOpponent S)) : Prop where
  width : nearest.entries.length = maximumTacticalShoveCandidateCount
  bound : nearest.count ≤ maximumTacticalShoveCandidateCount
  least : Least ShoveOpponent.rank maximumTacticalShoveCandidateCount offered nearest.retained

theorem Nearest.empty : Nearest (NearestOpponents.empty : NearestOpponents S) [] := by
  refine ⟨List.length_replicate, Nat.zero_le _, ?_⟩
  exact Least.nil _ _

/-- Elements no later than the last one of an ascending list that an opponent does not precede come before it. -/
theorem before_of_last {before : List (ShoveOpponent S)}
    (ascending : before.Pairwise fun first second => first.rank < second.rank)
    (fresh : ∀ other ∈ before, other.rank ≠ opponent.rank)
    (last : ∀ last ∈ before.getLast?, ¬ opponent.rank < last.rank) :
    ∀ other ∈ before, other.rank < opponent.rank := by
  obtain rfl | ⟨front, final, rfl⟩ := List.eq_nil_or_concat' before
  · exact fun _ impossible => nomatch impossible
  · have least : final.rank < opponent.rank := by
      refine lt_of_le_of_ne (not_lt.mp (last final ?_)) (fresh final (by simp))
      rw [List.getLast?_concat]
      rfl
    intro other member
    obtain earlier | here := List.mem_append.mp member
    · exact ((List.pairwise_append.mp ascending).2.2 other earlier final (List.mem_singleton_self _)).trans least
    · rw [List.mem_singleton.mp here]
      exact least

omit [Scalar S] in
theorem rank_ne {other : ShoveOpponent S} (apart : other.entity ≠ opponent.entity) : other.rank ≠ opponent.rank := by
  intro same
  exact apart (Prod.mk.inj (toLex.injective same)).2

theorem Nearest.count_eq (holds : Nearest nearest offered) : nearest.retained.length = nearest.count := by
  rw [NearestOpponents.retained, List.length_take, holds.width, min_eq_left holds.bound]

theorem Nearest.insert (holds : Nearest nearest offered) (fresh : ∀ other ∈ offered, other.entity ≠ opponent.entity) :
    Nearest (insertNearest nearest opponent) (offered ++ [opponent]) := by
  have apart : ∀ other ∈ nearest.retained, other.rank ≠ opponent.rank :=
    fun other member => rank_ne (fresh other (holds.least.subset other member))
  have placed : ∀ {slot : Nat}, (∀ last ∈ (nearest.retained.take slot).getLast?, ¬ opponent.rank < last.rank) →
      ∀ other ∈ nearest.retained.take slot, other.rank < opponent.rank := by
    intro slot last
    exact before_of_last (holds.least.ascending.sublist (List.take_sublist _ _))
      (fun other member => apart other (List.mem_of_mem_take member)) last
  have positive : 0 < maximumTacticalShoveCandidateCount := by decide
  unfold insertNearest
  dsimp only
  rw [holds.width]
  by_cases room : nearest.count < maximumTacticalShoveCandidateCount
  · rw [if_neg (fun full => room.ne full.1), if_pos room, if_pos room]
    obtain ⟨slot, below, places, upper, lower⟩ := @shift_places _ _ opponent nearest.entries nearest.count
      (by rw [holds.width]; exact room)
    have front : nearest.entries.take slot = nearest.retained.take slot := by
      rw [NearestOpponents.retained, List.take_take, min_eq_left below]
    rw [front] at places lower
    have inserted := @Least.insert _ _ _ _ _ offered (nearest.retained.take slot) (nearest.retained.drop slot) opponent
      (by rw [List.take_append_drop]; exact holds.least) (placed lower) upper
    have size : (nearest.retained.take slot ++ opponent :: nearest.retained.drop slot).length = nearest.count + 1 := by
      rw [List.length_append, List.length_cons, ← Nat.add_assoc, ← List.length_append, List.take_append_drop,
        holds.count_eq]
    rw [places]
    refine ⟨?_, room, ?_⟩
    · rw [List.length_append, List.length_drop, holds.width]
      have same : (nearest.retained.take slot ++ opponent :: (nearest.entries.take nearest.count).drop slot).length =
          nearest.count + 1 := size
      omega
    · rw [List.take_of_length_le (size.trans_le room)] at inserted
      have used : (nearest.retained.take slot ++ opponent :: nearest.retained.drop slot ++
          nearest.entries.drop (nearest.count + 1)).take (nearest.count + 1) = _ := List.take_left' size
      rw [← used] at inserted
      exact inserted
  · have full : nearest.count = maximumTacticalShoveCandidateCount := le_antisymm holds.bound (not_lt.mp room)
    have all : nearest.retained = nearest.entries := by
      rw [NearestOpponents.retained, full, ← holds.width, List.take_length]
    have final : nearest.entries.getLast? = nearest.entries[maximumTacticalShoveCandidateCount - 1]? := by
      rw [List.getLast?_eq_getElem?, holds.width]
    rw [if_neg room, if_neg room, full]
    split
    · next stays =>
      have lower : ∀ other ∈ nearest.retained, other.rank < opponent.rank := by
        refine before_of_last holds.least.ascending apart fun last member => ?_
        rw [all, final] at member
        have kept := stays.2
        rw [Option.mem_def.mp member] at kept
        exact shoveOpponentPrecedes_iff.not.mp (by simpa using kept)
      refine ⟨holds.width, holds.bound, ?_⟩
      have inserted := @Least.insert _ _ _ _ _ offered nearest.retained [] opponent
        (by rw [List.append_nil]; exact holds.least) lower (fun _ impossible => nomatch impossible)
      rw [List.take_left' (holds.count_eq.trans full)] at inserted
      exact inserted
    · next pushes =>
      obtain ⟨last, here⟩ : ∃ last, nearest.entries[maximumTacticalShoveCandidateCount - 1]? = some last :=
        ⟨_, List.getElem?_eq_getElem (by rw [holds.width]; decide)⟩
      have precedes : opponent.rank < last.rank := by
        rw [here, not_and] at pushes
        exact shoveOpponentPrecedes_iff.mp (by simpa using pushes rfl)
      obtain ⟨slot, below, places, upper, lower⟩ := @shift_places _ _ opponent nearest.entries
        (maximumTacticalShoveCandidateCount - 1) (by rw [holds.width]; decide)
      have split_last : nearest.entries = nearest.entries.take (maximumTacticalShoveCandidateCount - 1) ++ [last] := by
        have whole : nearest.entries.take (maximumTacticalShoveCandidateCount - 1 + 1) = nearest.entries :=
          List.take_of_length_le (by rw [holds.width]; decide)
        rw [List.take_add_one, here] at whole
        exact whole.symm
      have back : nearest.entries.drop slot =
          (nearest.entries.take (maximumTacticalShoveCandidateCount - 1)).drop slot ++ [last] := by
        nth_rewrite 1 [split_last]
        rw [List.drop_append_of_le_length (by rw [List.length_take, holds.width]; exact below.trans (by decide))]
      have size : (nearest.entries.take slot ++
          opponent :: (nearest.entries.take (maximumTacticalShoveCandidateCount - 1)).drop slot).length =
            maximumTacticalShoveCandidateCount := by
        rw [List.length_append, List.length_cons, List.length_drop, List.length_take, List.length_take, holds.width]
        omega
      have inserted := @Least.insert _ _ _ _ _ offered (nearest.retained.take slot) (nearest.retained.drop slot) opponent
        (by rw [List.take_append_drop]; exact holds.least) (placed (all ▸ lower)) (by
          rw [all, back]
          intro later member
          obtain earlier | here := List.mem_append.mp member
          · exact upper later earlier
          · rw [List.mem_singleton.mp here]
            exact precedes)
      rw [all, back, ← List.cons_append, ← List.append_assoc, List.take_left' size] at inserted
      have whole : nearest.entries.drop (maximumTacticalShoveCandidateCount - 1 + 1) = [] :=
        List.drop_of_length_le (by rw [holds.width]; decide)
      rw [places, whole, List.append_nil]
      refine ⟨size, le_refl _, ?_⟩
      rw [NearestOpponents.retained, List.take_of_length_le size.le]
      exact inserted

theorem insertNearest_keeps (opponents : List (ShoveOpponent S)) (distinct : (opponents.map ShoveOpponent.entity).Nodup) :
    Nearest (opponents.foldl insertNearest NearestOpponents.empty) opponents := by
  induction opponents using List.reverseRecOn with
  | nil => exact Nearest.empty
  | append_singleton earlier opponent ih =>
    rw [List.map_append, List.nodup_append] at distinct
    rw [List.foldl_concat]
    refine (ih distinct.1).insert fun other member same => ?_
    exact distinct.2.2 _ (List.mem_map_of_mem member) _ (List.mem_singleton_self _) same

end Opponents

section Hazards

def ShoveHazard.rank (hazard : ShoveHazard S) : S ×ₗ Nat ×ₗ Nat :=
  toLex (hazard.distance, toLex (hazard.source.ordinal, hazard.identity))

theorem ShoveHazardSource.ordinal_injective : Function.Injective ShoveHazardSource.ordinal := by
  intro first second same
  cases first <;> cases second <;> first | rfl | cases same

theorem shoveHazardPrecedes_iff {left right : ShoveHazard S} :
    shoveHazardPrecedes left right = true ↔ left.rank < right.rank := by
  unfold shoveHazardPrecedes ShoveHazard.rank
  rw [Prod.Lex.toLex_lt_toLex, Prod.Lex.toLex_lt_toLex]
  split
  · next apart => simp [apart]
  · next same =>
    rw [not_not.mp same]
    split
    · next apart => simp [ShoveHazardSource.ordinal_injective.ne apart]
    · next source => simp [not_not.mp source]

/-- The hazard a scan has kept, if it found one. -/
def ShoveHazard.kept (best : ShoveHazard S) : List (ShoveHazard S) := if best.found then [best] else []

variable {hazards : List (ShoveHazard S)}

theorem offerHazard_keeps (hazards : List (ShoveHazard S)) (found : ∀ hazard ∈ hazards, hazard.found = true)
    (distinct : (hazards.map fun hazard => (hazard.source, hazard.identity)).Nodup) :
    Least ShoveHazard.rank 1 hazards (hazards.foldl offerHazard ShoveHazard.unfound).kept ∧
      ((hazards.foldl offerHazard ShoveHazard.unfound).found = false → hazards = []) := by
  induction hazards using List.reverseRecOn with
  | nil => exact ⟨Least.nil _ _, fun _ => rfl⟩
  | append_singleton earlier hazard ih =>
    rw [List.map_append, List.nodup_append] at distinct
    obtain ⟨least, empty⟩ := ih (fun other member => found other (List.mem_append_left _ member)) distinct.1
    have here : hazard.found = true := found hazard (List.mem_append_right _ (List.mem_singleton_self _))
    rw [List.foldl_concat]
    generalize earlier.foldl offerHazard ShoveHazard.unfound = best at least empty ⊢
    unfold offerHazard
    unfold ShoveHazard.kept at least ⊢
    cases known : best.found with
    | false =>
      rw [empty known]
      simp only [Bool.not_false, Bool.true_or, if_true, here, List.nil_append]
      exact ⟨Least.first _ _, fun impossible => by cases impossible⟩
    | true =>
      rw [known, if_pos rfl] at least
      simp only [Bool.not_true, Bool.false_or]
      split
      · next precedes =>
        rw [here]
        exact ⟨least.replaced (shoveHazardPrecedes_iff.mp precedes), fun impossible => by cases impossible⟩
      · next stays =>
        rw [known]
        have member : best ∈ earlier := least.subset best (List.mem_singleton_self _)
        refine ⟨least.held (lt_of_le_of_ne (not_lt.mp (shoveHazardPrecedes_iff.not.mp stays)) fun same => ?_),
          fun impossible => by cases impossible⟩
        obtain ⟨-, rest⟩ := Prod.mk.inj (toLex.injective same)
        obtain ⟨source, identity⟩ := Prod.mk.inj (toLex.injective rest)
        refine distinct.2.2 _ (List.mem_map_of_mem member) _ (List.mem_singleton_self _) ?_
        exact Prod.ext (ShoveHazardSource.ordinal_injective source) identity

end Hazards

section Selection

variable {policy : TacticalObjectivePolicy S} {held : Option TacticalObjectiveKey}
    {candidates : List (TacticalObjectiveCandidate S)}

/-- The greatest score first, then the least squared distance, then the least key. -/
def candidateRank (policy : TacticalObjectivePolicy S) (held : Option TacticalObjectiveKey)
    (candidate : TacticalObjectiveCandidate S) : Sᵒᵈ ×ₗ S ×ₗ TacticalObjectiveKey :=
  toLex (OrderDual.toDual (tacticalCandidateScore candidate policy (held = some candidate.key)),
    toLex (candidate.squaredDistance, candidate.key))

theorem tacticalCandidatePrecedes_iff {left right : TacticalObjectiveCandidate S} :
    tacticalCandidatePrecedes left right = true ↔
      toLex (left.squaredDistance, left.key) < toLex (right.squaredDistance, right.key) := by
  unfold tacticalCandidatePrecedes
  rw [Prod.Lex.toLex_lt_toLex]
  split
  · next apart => simp [apart]
  · next same => simp [not_not.mp same]

/-- What the loop over the candidates knows past the first ones. -/
structure Chosen (policy : TacticalObjectivePolicy S) (held : Option TacticalObjectiveKey)
    (candidates : List (TacticalObjectiveCandidate S)) (count : Nat) (choice : TacticalChoice S) : Prop where
  least : Least (candidateRank policy held) 1 (candidates.take count)
    (choice.best.bind fun best => candidates[best]?).toList
  inside : ∀ best ∈ choice.best, best < candidates.length
  score : ∀ best ∈ choice.best.bind fun best => candidates[best]?,
    choice.bestScore = tacticalCandidateScore best policy (held = some best.key)

theorem Chosen.consider {count : Nat} {choice : TacticalChoice S} (chosen : Chosen policy held candidates count choice)
    (distinct : (candidates.map TacticalObjectiveCandidate.key).Nodup) (bound : count < candidates.length) :
    Chosen policy held candidates (count + 1) (consider candidates policy held choice count) := by
  have here : candidates[count]? = some candidates[count] := List.getElem?_eq_getElem bound
  have grown : candidates.take (count + 1) = candidates.take count ++ [candidates[count]] := by
    rw [List.take_add_one, here]
    rfl
  obtain ⟨least, inside, score⟩ := chosen
  unfold Controllers.consider
  rw [here]
  dsimp only
  cases known : choice.best.bind fun best => candidates[best]? with
  | none =>
    rw [known] at least
    have none : candidates.take count = [] := by
      have size := least.size
      rw [Option.toList_none, List.length_nil] at size
      refine List.eq_nil_of_length_eq_zero ?_
      omega
    refine ⟨?_, ?_, ?_⟩
    · rw [grown, none]
      simpa [here] using Least.first (candidateRank policy held) candidates[count]
    · rintro best ⟨⟩
      exact bound
    · simp [here]
  | some best =>
    rw [known] at least
    have kept := score best known
    have member : best ∈ candidates.take count := least.subset best (by simp)
    have apart : best.key ≠ candidates[count].key := by
      intro same
      have pairs := distinct.sublist ((List.take_sublist (count + 1) candidates).map TacticalObjectiveCandidate.key)
      rw [grown, List.map_append, List.nodup_append] at pairs
      exact pairs.2.2 _ (List.mem_map_of_mem member) _ (List.mem_singleton_self _) same
    dsimp only
    split
    · next wins =>
      have less : candidateRank policy held candidates[count] < candidateRank policy held best := by
        unfold candidateRank
        rw [Prod.Lex.toLex_lt_toLex, ← kept]
        obtain greater | ⟨tied, precedes⟩ := wins
        · exact .inl (OrderDual.toDual_lt_toDual.mpr greater)
        · exact .inr ⟨congrArg OrderDual.toDual tied, tacticalCandidatePrecedes_iff.mp precedes⟩
      refine ⟨?_, ?_, ?_⟩
      · rw [grown]
        simpa [here] using least.replaced less
      · rintro best ⟨⟩
        exact bound
      · simp [here]
    · next stays =>
      have less : candidateRank policy held best < candidateRank policy held candidates[count] := by
        rw [not_or, not_lt, not_and] at stays
        unfold candidateRank
        rw [Prod.Lex.toLex_lt_toLex, ← kept]
        obtain lower | tied := lt_or_eq_of_le stays.1
        · exact .inl (OrderDual.toDual_lt_toDual.mpr lower)
        · refine .inr ⟨congrArg OrderDual.toDual tied.symm, lt_of_le_of_ne ?_ fun same => ?_⟩
          · exact not_lt.mp (tacticalCandidatePrecedes_iff.not.mp (stays.2 tied))
          · exact apart (Prod.mk.inj (toLex.injective same)).2
      refine ⟨?_, inside, score⟩
      rw [grown, known]
      exact least.held less

theorem tacticalSelectCandidate_chooses (distinct : (candidates.map TacticalObjectiveCandidate.key).Nodup) :
    Least (candidateRank policy held) 1 candidates
      ((tacticalSelectCandidate candidates policy held).bind fun best => candidates[best]?).toList ∧
    ∀ best ∈ tacticalSelectCandidate candidates policy held, best < candidates.length := by
  have turns : ∀ count ≤ candidates.length, Chosen policy held candidates count
      ((List.range count).foldl (consider candidates policy held) ⟨none, 0⟩) := by
    intro count bound
    induction count with
    | zero => exact ⟨Least.nil _ _, nofun, nofun⟩
    | succ count ih =>
      rw [List.range_succ, List.foldl_concat]
      exact (ih (Nat.le_of_succ_le bound)).consider distinct bound
  have final := turns candidates.length (Nat.le_refl _)
  have least := final.least
  rw [List.take_length] at least
  exact ⟨least, final.inside⟩

end Selection

/-- Perception does not depend on iteration order: the opponents, the hazard and the candidate that are kept are the
least of what is offered, however it is ordered. -/
theorem perception_unordered (policy : TacticalObjectivePolicy S) (held : Option TacticalObjectiveKey) :
    (∀ opponents : List (ShoveOpponent S), (opponents.map ShoveOpponent.entity).Nodup →
      Least ShoveOpponent.rank maximumTacticalShoveCandidateCount opponents
          (opponents.foldl insertNearest NearestOpponents.empty).retained ∧
        ∀ reordered, opponents.Perm reordered → (reordered.foldl insertNearest NearestOpponents.empty).retained =
          (opponents.foldl insertNearest NearestOpponents.empty).retained) ∧
    (∀ hazards : List (ShoveHazard S), (∀ hazard ∈ hazards, hazard.found = true) →
      (hazards.map fun hazard => (hazard.source, hazard.identity)).Nodup →
      Least ShoveHazard.rank 1 hazards (hazards.foldl offerHazard ShoveHazard.unfound).kept ∧
        ∀ reordered, hazards.Perm reordered →
          reordered.foldl offerHazard ShoveHazard.unfound = hazards.foldl offerHazard ShoveHazard.unfound) ∧
    (∀ candidates : List (TacticalObjectiveCandidate S), (candidates.map TacticalObjectiveCandidate.key).Nodup →
      (∀ best ∈ tacticalSelectCandidate candidates policy held, best < candidates.length) ∧
      Least (candidateRank policy held) 1 candidates
          ((tacticalSelectCandidate candidates policy held).bind fun best => candidates[best]?).toList ∧
        ∀ reordered : List (TacticalObjectiveCandidate S), candidates.Perm reordered →
          ((tacticalSelectCandidate reordered policy held).bind fun best => reordered[best]?) =
            (tacticalSelectCandidate candidates policy held).bind fun best => candidates[best]?) := by
  refine ⟨fun opponents distinct => ?_, fun hazards found distinct => ?_, fun candidates distinct => ?_⟩
  · refine ⟨(insertNearest_keeps opponents distinct).least, fun reordered same => ?_⟩
    have again := insertNearest_keeps reordered ((same.map ShoveOpponent.entity).nodup distinct)
    exact again.least.unique (insertNearest_keeps opponents distinct).least same.symm
  · obtain ⟨least, nothing⟩ := offerHazard_keeps hazards found distinct
    refine ⟨least, fun reordered same => ?_⟩
    obtain ⟨again, empty⟩ := offerHazard_keeps reordered (fun hazard member => found hazard (same.mem_iff.mpr member))
      ((same.map fun hazard => (hazard.source, hazard.identity)).nodup distinct)
    have kept := again.unique least same.symm
    unfold ShoveHazard.kept at kept
    cases known : (hazards.foldl offerHazard ShoveHazard.unfound).found with
    | false =>
      have none := nothing known
      subst none
      rw [List.nil_perm.mp same]
    | true =>
      rw [known, if_pos rfl] at kept
      split at kept
      · exact List.singleton_inj.mp kept
      · cases kept
  · obtain ⟨least, inside⟩ := @tacticalSelectCandidate_chooses S _ policy held candidates distinct
    refine ⟨inside, least, fun reordered same => ?_⟩
    obtain ⟨again, -⟩ := @tacticalSelectCandidate_chooses S _ policy held reordered
      ((same.map TacticalObjectiveCandidate.key).nodup distinct)
    have kept := congrArg List.head? (again.unique least same.symm)
    rwa [Option.head?_toList, Option.head?_toList] at kept

end BlobRoyale.Controllers
