import Mathlib.Data.List.Nodup
import BlobRoyale.Simulation.SpatialGrid
import BlobRoyale.Library.Passes
import BlobRoyale.Library.Transition
import BlobRoyale.Library.TriangularIndex

/-!
# Grid coverage

Which cells a coverage flattens to, and where the two binary searches over cell boundaries end. The
bounds hold of every coverage, whatever its body and however far outside the arena it lies.
-/

namespace BlobRoyale.Simulation

variable {S : Type} [Scalar S]

namespace CellCoverage

variable {coverage other : CellCoverage} {columnCount row column : Nat}

def Covers (coverage : CellCoverage) (row column : Nat) : Prop :=
  (coverage.firstRow ≤ row ∧ row ≤ coverage.lastRow) ∧
    coverage.firstColumn ≤ column ∧ column ≤ coverage.lastColumn

instance (coverage : CellCoverage) (row column : Nat) : Decidable (coverage.Covers row column) :=
  inferInstanceAs (Decidable ((_ ∧ _) ∧ _ ∧ _))

def Shares (coverage other : CellCoverage) : Prop :=
  ∃ row column, coverage.Covers row column ∧ other.Covers row column

theorem flattened_injective {row' column' : Nat} (within : column < columnCount) (within' : column' < columnCount)
    (same : row * columnCount + column = row' * columnCount + column') : row = row' ∧ column = column' := by
  have columns : column = column' := by
    have residues := congrArg (· % columnCount) same
    simpa only [Nat.mul_add_mod_self_right, Nat.mod_eq_of_lt within, Nat.mod_eq_of_lt within'] using residues
  refine ⟨?_, columns⟩
  rw [columns] at same
  exact Nat.eq_of_mul_eq_mul_right (Nat.zero_lt_of_lt within) (Nat.add_right_cancel same)

theorem mem_cells_iff {index : Nat} : index ∈ coverage.cells columnCount ↔
    ∃ row column, coverage.Covers row column ∧ index = row * columnCount + column := by
  have ranged : ∀ first last entry : Nat, entry ∈ List.range' first (last + 1 - first) ↔ first ≤ entry ∧ entry ≤ last := by
    intro first last entry
    rw [List.mem_range'_1]
    omega
  simp only [cells, List.mem_flatMap, List.mem_map, ranged, Covers]
  constructor
  · rintro ⟨row, rows, column, columns, rfl⟩
    exact ⟨row, column, ⟨rows, columns⟩, rfl⟩
  · rintro ⟨row, column, ⟨rows, columns⟩, rfl⟩
    exact ⟨row, rows, column, columns, rfl⟩

theorem mem_cells_flattened (within : coverage.lastColumn < columnCount) (inRow : column < columnCount) :
    row * columnCount + column ∈ coverage.cells columnCount ↔ coverage.Covers row column := by
  rw [mem_cells_iff]
  constructor
  · rintro ⟨row', column', covers, same⟩
    obtain ⟨rfl, rfl⟩ := flattened_injective inRow (covers.2.2.trans_lt within) same
    exact covers
  · intro covers
    exact ⟨row, column, covers, rfl⟩

theorem cells_nodup (within : coverage.lastColumn < columnCount) : (coverage.cells columnCount).Nodup := by
  refine List.nodup_flatMap.mpr ⟨?_, ?_⟩
  · intro row _
    exact List.Nodup.map (fun _ _ same => Nat.add_left_cancel same) List.nodup_range'
  · refine List.Pairwise.imp_of_mem ?_ (List.nodup_range' (s := coverage.firstRow))
    intro row row' _ _ different index first second
    obtain ⟨column, member, rfl⟩ := List.mem_map.mp first
    obtain ⟨column', member', same⟩ := List.mem_map.mp second
    rw [List.mem_range'_1] at member member'
    exact different (flattened_injective (by omega) (by omega) same).1.symm

/-- A coverage inside a grid. -/
structure Inside (coverage : CellCoverage) (rowCount columnCount : Nat) : Prop where
  lastRow_lt : coverage.lastRow < rowCount
  lastColumn_lt : coverage.lastColumn < columnCount

theorem Inside.cells_lt {rowCount : Nat} (inside : coverage.Inside rowCount columnCount) {index : Nat}
    (member : index ∈ coverage.cells columnCount) : index < rowCount * columnCount := by
  obtain ⟨row, column, ⟨rows, columns⟩, rfl⟩ := mem_cells_iff.mp member
  have rowLt := rows.2.trans_lt inside.lastRow_lt
  have columnLt := columns.2.trans_lt inside.lastColumn_lt
  calc row * columnCount + column < row * columnCount + columnCount := Nat.add_lt_add_left columnLt _
    _ = (row + 1) * columnCount := (Nat.succ_mul row columnCount).symm
    _ ≤ rowCount * columnCount := Nat.mul_le_mul_right _ rowLt

theorem shares_iff (within : coverage.lastColumn < columnCount) (within' : other.lastColumn < columnCount) :
    coverage.Shares other ↔ ∃ index, index ∈ coverage.cells columnCount ∧ index ∈ other.cells columnCount := by
  constructor
  · rintro ⟨row, column, first, second⟩
    exact ⟨row * columnCount + column, mem_cells_iff.mpr ⟨row, column, first, rfl⟩,
      mem_cells_iff.mpr ⟨row, column, second, rfl⟩⟩
  · rintro ⟨index, first, second⟩
    obtain ⟨row, column, covers, rfl⟩ := mem_cells_iff.mp first
    exact ⟨row, column, covers,
      (mem_cells_flattened within' (covers.2.2.trans_lt within)).mp second⟩

end CellCoverage

section Search

variable {before : Nat → Bool} {first last : Nat}

theorem partitionPoint_bounds (ordered : first ≤ last) :
    first ≤ partitionPoint before first last ∧ partitionPoint before first last ≤ last := by
  fun_induction partitionPoint before first last with
  | case1 first last narrower middle isBefore ih =>
    obtain ⟨above, below⟩ := ih (by omega)
    exact ⟨by omega, below⟩
  | case2 first last narrower middle notBefore ih =>
    obtain ⟨above, below⟩ := ih (by omega)
    exact ⟨above, by omega⟩
  | case3 first last narrow => exact ⟨le_rfl, ordered⟩

/-- The search ends behind an index it found `before`, and at one it did not. -/
theorem partitionPoint_spec (ordered : first ≤ last) :
    (partitionPoint before first last = first ∨ before (partitionPoint before first last - 1) = true) ∧
      (partitionPoint before first last = last ∨ before (partitionPoint before first last) = false) := by
  fun_induction partitionPoint before first last with
  | case1 first last narrower middle isBefore ih =>
    obtain ⟨reached, stopped⟩ := ih (by omega)
    refine ⟨.inr ?_, stopped⟩
    obtain same | found := reached
    · rw [same, Nat.add_sub_cancel]
      exact isBefore
    · exact found
  | case2 first last narrower middle notBefore ih =>
    obtain ⟨reached, stopped⟩ := ih (by omega)
    refine ⟨reached, .inr ?_⟩
    obtain same | found := stopped
    · rw [same]
      exact Bool.eq_false_iff.mpr notBefore
    · exact found
  | case3 first last narrow =>
    exact ⟨.inl rfl, .inl (Nat.le_antisymm ordered (Nat.le_of_not_lt narrow))⟩

theorem lastIntersectedCell_lt {maximum worldExtent : S} {cellCount : Nat} (positive : 0 < cellCount) :
    lastIntersectedCell maximum worldExtent cellCount < cellCount := by
  unfold lastIntersectedCell
  split
  · omega
  · obtain ⟨above, below⟩ := @partitionPoint_bounds
      (fun index => internalBoundary worldExtent cellCount index ≤ maximum) 1 cellCount positive
    omega

theorem coverageOf_inside (configuration : SimulationConfig S) (bounds : ArenaBounds S) (position : Vector2 S)
    (coverageRadius : S) : (coverageOf configuration bounds position coverageRadius).Inside
      configuration.spatialGridRows configuration.spatialGridColumns :=
  ⟨lastIntersectedCell_lt configuration.rows_positive, lastIntersectedCell_lt configuration.columns_positive⟩

end Search

end BlobRoyale.Simulation

/-!
# Candidate pairs

What a build of the grid holds: in each cell its covering entities in ascending order, and as candidates
exactly the pairs that share a cell, each once. The pair storage never outgrows its bound.
-/

namespace BlobRoyale.Simulation

open Transition

theorem exists_mem_concat {V : Type} {P : V → Prop} {entries : List V} {last : V} :
    (∃ entry ∈ entries ++ [last], P entry) ↔ (∃ entry ∈ entries, P entry) ∨ P last := by
  simp only [List.mem_append, List.mem_singleton, or_and_right, exists_or, exists_eq_left]

section Scatter

variable {V W : Type}

theorem scatter_getElem? {indices : List Nat} (distinct : indices.Nodup) (value : V) (cells : List (List V))
    (index : Nat) :
    (indices.foldl (fun cells index => cells.modify index (· ++ [value])) cells)[index]? =
      cells[index]?.map fun held => held ++ if index ∈ indices then [value] else [] := by
  induction indices generalizing cells with
  | nil => simp only [List.foldl_nil, List.not_mem_nil, if_false, List.append_nil, Option.map_id']
  | cons first rest ih =>
    obtain ⟨fresh, distinct⟩ := List.nodup_cons.mp distinct
    rw [List.foldl_cons, ih distinct, List.getElem?_modify, Option.map_eq_map, Option.map_map]
    congr 1
    funext held
    by_cases same : first = index
    · subst same
      simp only [Function.comp_apply, if_true, if_neg fresh, List.append_nil, List.mem_cons_self]
    · simp only [Function.comp_apply, if_neg same, List.mem_cons, Ne.symm same, false_or]

theorem scatterAll_getElem? {members : List (V × W)} {places : W → List Nat}
    (distinct : ∀ member ∈ members, (places member.2).Nodup) (cells : List (List V)) (index : Nat) :
    (members.foldl (fun cells member =>
        (places member.2).foldl (fun cells index => cells.modify index (· ++ [member.1])) cells) cells)[index]? =
      cells[index]?.map fun held =>
        held ++ (members.filter fun member => index ∈ places member.2).map Prod.fst := by
  induction members generalizing cells with
  | nil => simp only [List.foldl_nil, List.filter_nil, List.map_nil, List.append_nil, Option.map_id']
  | cons member rest ih =>
    rw [List.foldl_cons, ih (fun other later => distinct other (List.mem_cons_of_mem _ later)),
      scatter_getElem? (distinct member List.mem_cons_self), Option.map_map]
    congr 1
    funext held
    by_cases placed : index ∈ places member.2
    · have kept : (member :: rest).filter (fun member => decide (index ∈ places member.2)) =
          member :: rest.filter fun member => decide (index ∈ places member.2) :=
        List.filter_cons_of_pos (decide_eq_true placed)
      rw [Function.comp_apply, if_pos placed, kept, List.map_cons, List.append_assoc, List.singleton_append]
    · have dropped : (member :: rest).filter (fun member => decide (index ∈ places member.2)) =
          rest.filter fun member => decide (index ∈ places member.2) :=
        List.filter_cons_of_neg fun impossible => placed (of_decide_eq_true impossible)
      rw [Function.comp_apply, if_neg placed, dropped, List.append_nil]

end Scatter

theorem buildCells_getElem? {entities : List EntityId} {coverages : List CellCoverage} {columnCount cellCount : Nat}
    {cells : List (List EntityId)} (built : buildCells entities coverages columnCount cellCount = .ok cells)
    (distinct : ∀ coverage ∈ coverages, (coverage.cells columnCount).Nodup) (index : Nat) :
    cells[index]? = if index < cellCount then
      some (((entities.zip coverages).filter fun member => index ∈ member.2.cells columnCount).map Prod.fst)
    else none := by
  obtain ⟨_, -, committed⟩ := bind_eq_ok.mp built
  cases committed
  have scattered := @scatterAll_getElem? _ _ (entities.zip coverages) (CellCoverage.cells · columnCount)
    (fun member inside => distinct member.2 (List.of_mem_zip inside).2) (List.replicate cellCount []) index
  rw [List.getElem?_replicate] at scattered
  refine scattered.trans ?_
  split <;> rfl

section Roster

variable {entities : List EntityId} {entity other : EntityId}

theorem bodyIndexForId_getElem (ascending : entities.Pairwise (· < ·)) (member : entity ∈ entities) :
    entities[bodyIndexForId entities entity]? = some entity := by
  obtain ⟨place, within, rfl⟩ := List.getElem_of_mem member
  have found : bodyIndexForId entities entities[place] < entities.length :=
    List.findIdx_lt_length_of_exists ⟨_, member, decide_eq_true le_rfl⟩
  have reaches : entities[place] ≤ entities[bodyIndexForId entities entities[place]] :=
    of_decide_eq_true (List.findIdx_getElem (w := found))
  have early : bodyIndexForId entities entities[place] ≤ place := by
    by_contra later
    have skipped := List.not_of_lt_findIdx (Nat.lt_of_not_le later)
    exact of_decide_eq_false skipped le_rfl
  obtain before | same := Nat.lt_or_eq_of_le early
  · exact absurd (List.pairwise_iff_getElem.mp ascending _ _ found within before) (not_lt.mpr reaches)
  · rw [List.getElem?_eq_getElem found]
    simp only [same]

theorem bodyIndexForId_lt (ascending : entities.Pairwise (· < ·)) (member : entity ∈ entities)
    (otherMember : other ∈ entities) (ordered : entity < other) :
    bodyIndexForId entities entity < bodyIndexForId entities other := by
  obtain ⟨within, here⟩ := List.getElem?_eq_some_iff.mp (bodyIndexForId_getElem ascending member)
  obtain ⟨otherWithin, there⟩ := List.getElem?_eq_some_iff.mp (bodyIndexForId_getElem ascending otherMember)
  by_contra later
  obtain before | same := Nat.lt_or_eq_of_le (Nat.le_of_not_lt later)
  · have descends := List.pairwise_iff_getElem.mp ascending _ _ otherWithin within before
    rw [here, there] at descends
    exact lt_asymm ordered descends
  · simp only [same] at there
    exact ordered.ne (here.symm.trans there)

theorem mem_orderedPairs {members : List EntityId} (ascending : members.Pairwise (· < ·))
    {place : EntityId → Nat × EntityId} {pair : (Nat × EntityId) × (Nat × EntityId)} :
    pair ∈ orderedPairs (members.map place) ↔ ∃ lower higher, lower ∈ members ∧ higher ∈ members ∧ lower < higher ∧
      pair = (place lower, place higher) := by
  induction members with
  | nil => simp [orderedPairs]
  | cons first rest ih =>
    obtain ⟨least, ascending⟩ := List.pairwise_cons.mp ascending
    rw [List.map_cons, orderedPairs, List.mem_append, ih ascending, List.mem_map]
    constructor
    · rintro (⟨_, placed, rfl⟩ | ⟨lower, higher, lowerIn, higherIn, ordered, rfl⟩)
      · obtain ⟨higher, higherIn, rfl⟩ := List.mem_map.mp placed
        exact ⟨first, higher, List.mem_cons_self, List.mem_cons_of_mem _ higherIn, least higher higherIn, rfl⟩
      · exact ⟨lower, higher, List.mem_cons_of_mem _ lowerIn, List.mem_cons_of_mem _ higherIn, ordered, rfl⟩
    · rintro ⟨lower, higher, lowerIn, higherIn, ordered, rfl⟩
      obtain rfl | lowerLater := List.mem_cons.mp lowerIn
      · obtain rfl | higherLater := List.mem_cons.mp higherIn
        · exact absurd ordered (lt_irrefl _)
        · exact .inl ⟨_, List.mem_map_of_mem higherLater, rfl⟩
      · obtain rfl | higherLater := List.mem_cons.mp higherIn
        · exact absurd ordered (lt_asymm (least lower lowerLater))
        · exact .inr ⟨lower, higher, lowerLater, higherLater, ordered, rfl⟩

end Roster

namespace CandidatePairAccumulator

variable {entities : List EntityId} {accumulator : CandidatePairAccumulator}
  {pair other : (Nat × EntityId) × (Nat × EntityId)} {seen : List ((Nat × EntityId) × (Nat × EntityId))}

/-- Two entities with their places in the roster, lower place first. -/
structure Placed (entities : List EntityId) (pair : (Nat × EntityId) × (Nat × EntityId)) : Prop where
  ordered : pair.1.1 < pair.2.1
  lower : entities[pair.1.1]? = some pair.1.2
  higher : entities[pair.2.1]? = some pair.2.2

theorem Placed.within (placed : Placed entities pair) : pair.2.1 < entities.length :=
  (List.getElem?_eq_some_iff.mp placed.higher).1

theorem Placed.ascends (placed : Placed entities pair) (ascending : entities.Pairwise (· < ·)) :
    pair.1.2 < pair.2.2 := by
  obtain ⟨lowerWithin, lower⟩ := List.getElem?_eq_some_iff.mp placed.lower
  obtain ⟨higherWithin, higher⟩ := List.getElem?_eq_some_iff.mp placed.higher
  rw [← lower, ← higher]
  exact List.pairwise_iff_getElem.mp ascending _ _ lowerWithin higherWithin placed.ordered

theorem place_unique (ascending : entities.Pairwise (· < ·)) {place place' : Nat} {entity : EntityId}
    (here : entities[place]? = some entity) (there : entities[place']? = some entity) : place = place' := by
  obtain ⟨within, found⟩ := List.getElem?_eq_some_iff.mp here
  obtain ⟨within', found'⟩ := List.getElem?_eq_some_iff.mp there
  exact (List.Nodup.getElem_inj_iff (ascending.imp ne_of_lt)).mp (found.trans found'.symm)

theorem Placed.eq_of_bit (placed : Placed entities pair) (placed' : Placed entities other)
    (count : accumulator.playerCount = entities.length)
    (same : accumulator.pairBitIndex pair.1.1 pair.2.1 = accumulator.pairBitIndex other.1.1 other.2.1) :
    pair = other := by
  have indices : TriangularIndex.index entities.length pair.1.1 pair.2.1 =
      TriangularIndex.index entities.length other.1.1 other.2.1 := by
    rw [← count]
    exact same
  obtain ⟨lowers, highers⟩ :=
    TriangularIndex.index_injective placed.ordered placed.within placed'.ordered placed'.within indices
  have lower := placed.lower
  have higher := placed.higher
  rw [lowers, placed'.lower] at lower
  rw [highers, placed'.higher] at higher
  exact Prod.ext (Prod.ext lowers (Option.some.inj lower).symm) (Prod.ext highers (Option.some.inj higher).symm)

/-- The pairs seen so far are exactly recorded, each once, within the preflighted bound. -/
structure Recorded (entities : List EntityId) (seen : List ((Nat × EntityId) × (Nat × EntityId)))
    (accumulator : CandidatePairAccumulator) : Prop where
  count : accumulator.playerCount = entities.length
  limit : accumulator.pairCountLimit = entities.length * (entities.length - 1) / 2
  capacity_le : accumulator.capacity ≤ accumulator.pairCountLimit
  placed : ∀ pair ∈ seen, Placed entities pair
  bits : ∀ bit, bit ∈ accumulator.observedPairBits ↔ ∃ pair ∈ seen, accumulator.pairBitIndex pair.1.1 pair.2.1 = bit
  distinctBits : accumulator.observedPairBits.Nodup
  lengths : accumulator.candidatePairs.length = accumulator.observedPairBits.length
  pairs : ∀ candidate, candidate ∈ accumulator.candidatePairs ↔
    ∃ pair ∈ seen, pair.1.2 = candidate.lowerId ∧ pair.2.2 = candidate.higherId
  distinctPairs : accumulator.candidatePairs.Nodup

theorem Placed.bit_lt (placed : Placed entities pair) (recorded : Recorded entities seen accumulator) :
    accumulator.pairBitIndex pair.1.1 pair.2.1 < accumulator.pairCountLimit := by
  rw [recorded.limit, pairBitIndex, recorded.count]
  exact TriangularIndex.index_lt placed.ordered placed.within

theorem Recorded.room (recorded : Recorded entities seen accumulator) {bit : Nat}
    (below : bit < accumulator.pairCountLimit) (unset : bit ∉ accumulator.observedPairBits) :
    accumulator.candidatePairs.length < accumulator.pairCountLimit := by
  have distinct : (bit :: accumulator.observedPairBits).Nodup := List.nodup_cons.mpr ⟨unset, recorded.distinctBits⟩
  have within : (bit :: accumulator.observedPairBits) ⊆ List.range accumulator.pairCountLimit := by
    intro set member
    rw [List.mem_range]
    obtain rfl | earlier := List.mem_cons.mp member
    · exact below
    · obtain ⟨pair, before, rfl⟩ := (recorded.bits set).mp earlier
      exact (recorded.placed pair before).bit_lt recorded
  have lengths := (distinct.subperm within).length_le
  rw [List.length_cons, List.length_range] at lengths
  rw [recorded.lengths]
  exact lengths

theorem reserveForNextCandidate_grows (room : accumulator.candidatePairs.length < accumulator.pairCountLimit)
    (bounded : accumulator.capacity ≤ accumulator.pairCountLimit) :
    ∃ capacity, accumulator.reserveForNextCandidate = .ok { accumulator with capacity := capacity } ∧
      capacity ≤ accumulator.pairCountLimit := by
  unfold reserveForNextCandidate
  split
  · exact ⟨accumulator.capacity, rfl, bounded⟩
  · rw [if_neg room.ne]
    refine ⟨_, rfl, ?_⟩
    split
    · exact min_le_right _ _
    · split <;> omega

theorem Recorded.observe (ascending : entities.Pairwise (· < ·)) (recorded : Recorded entities seen accumulator)
    (placed : Placed entities pair) :
    ∃ next, accumulator.observe pair.1 pair.2 = .ok next ∧ Recorded entities (seen ++ [pair]) next := by
  have placedAll : ∀ other ∈ seen ++ [pair], Placed entities other := by
    intro other member
    obtain earlier | now := List.mem_append.mp member
    · exact recorded.placed other earlier
    · exact List.mem_singleton.mp now ▸ placed
  by_cases set : accumulator.pairBitIndex pair.1.1 pair.2.1 ∈ accumulator.observedPairBits
  · refine ⟨accumulator, if_pos set, ?_⟩
    obtain ⟨earlier, member, same⟩ := (recorded.bits _).mp set
    have repeated : pair ∈ seen := by
      rw [placed.eq_of_bit (recorded.placed earlier member) recorded.count same.symm]
      exact member
    have unchanged : ∀ other, other ∈ seen ++ [pair] ↔ other ∈ seen := by
      intro other
      rw [List.mem_append, List.mem_singleton]
      exact or_iff_left_of_imp fun now => now ▸ repeated
    refine ⟨recorded.count, recorded.limit, recorded.capacity_le, placedAll, ?_, recorded.distinctBits,
      recorded.lengths, ?_, recorded.distinctPairs⟩
    · simp only [unchanged]
      exact recorded.bits
    · simp only [unchanged]
      exact recorded.pairs
  · have room := recorded.room (placed.bit_lt recorded) set
    obtain ⟨capacity, grows, bounded⟩ := reserveForNextCandidate_grows room recorded.capacity_le
    have ordered := placed.ascends ascending
    have created : CandidatePair.create pair.1.2 pair.2.2 = .ok ⟨pair.1.2, pair.2.2, ordered⟩ := dif_pos ordered
    refine ⟨{ accumulator with
      capacity := capacity
      observedPairBits := accumulator.pairBitIndex pair.1.1 pair.2.1 :: accumulator.observedPairBits
      candidatePairs := accumulator.candidatePairs ++ [⟨pair.1.2, pair.2.2, ordered⟩] }, ?_, ?_⟩
    · refine (if_neg set).trans (bind_eq_ok.mpr ⟨_, grows, bind_eq_ok.mpr ⟨_, created, rfl⟩⟩)
    · refine ⟨recorded.count, recorded.limit, bounded, placedAll, ?_, ?_, ?_, ?_, ?_⟩
      · intro bit
        rw [List.mem_cons, recorded.bits, exists_mem_concat]
        exact or_comm.trans (or_congr_right eq_comm)
      · exact List.nodup_cons.mpr ⟨set, recorded.distinctBits⟩
      · rw [List.length_append, List.length_cons, recorded.lengths]
        rfl
      · intro candidate
        rw [List.mem_append, recorded.pairs, List.mem_singleton, exists_mem_concat]
        refine or_congr_right ⟨?_, ?_⟩
        · rintro rfl
          exact ⟨rfl, rfl⟩
        · rintro ⟨lower, higher⟩
          cases candidate
          cases lower
          cases higher
          rfl
      · refine List.Nodup.append recorded.distinctPairs (List.nodup_singleton _) ?_
        intro candidate earlier now
        cases List.mem_singleton.mp now
        obtain ⟨other, member, lower, higher⟩ := (recorded.pairs _).mp earlier
        have otherPlaced := recorded.placed other member
        have otherLower := otherPlaced.lower
        have otherHigher := otherPlaced.higher
        rw [lower] at otherLower
        rw [higher] at otherHigher
        refine set ((recorded.bits _).mpr ⟨other, member, ?_⟩)
        rw [place_unique ascending otherLower placed.lower, place_unique ascending otherHigher placed.higher]

theorem Recorded.observeAll (ascending : entities.Pairwise (· < ·)) (recorded : Recorded entities seen accumulator)
    {pairs : List ((Nat × EntityId) × (Nat × EntityId))} (placed : ∀ pair ∈ pairs, Placed entities pair) :
    ∃ next, pairs.foldlM (fun accumulator pair => accumulator.observe pair.1 pair.2) accumulator = .ok next ∧
      Recorded entities (seen ++ pairs) next := by
  induction pairs generalizing accumulator seen with
  | nil => exact ⟨accumulator, rfl, (List.append_nil seen).symm ▸ recorded⟩
  | cons pair rest ih =>
    obtain ⟨next, observed, recorded⟩ := recorded.observe ascending (placed pair List.mem_cons_self)
    obtain ⟨final, folded, recorded⟩ := ih recorded fun other later => placed other (List.mem_cons_of_mem _ later)
    rw [List.append_assoc] at recorded
    exact ⟨final, bind_eq_ok.mpr ⟨next, observed, folded⟩, recorded⟩

theorem create_of_bounded {count : Nat} (bounded : count ≤ maximumEntityCount) :
    create count = .ok ⟨count, count * (count - 1) / 2, [], [], 0⟩ := by
  have pairs_le : count * (count - 1) / 2 ≤ maximumSpatialGridCandidatePairCount :=
    Nat.div_le_div_right (Nat.mul_le_mul bounded (Nat.sub_le_sub_right bounded 1))
  have storage_le : maximumSpatialGridCandidatePairCount ≤
      maximumSpatialGridCandidatePairAllocationByteCount / candidatePairByteCount := by decide
  have size_le : maximumSpatialGridCandidatePairCount ≤ maximumSize - 7 := by decide
  have bytes_le : (count * (count - 1) / 2 + 7) / 8 ≤ maximumSpatialGridCandidatePairBitsetByteCount :=
    Nat.div_le_div_right (Nat.add_le_add_right pairs_le 7)
  have counted : maximumPairCount count = .ok (count * (count - 1) / 2) := by
    unfold maximumPairCount
    split
    · next few =>
      have none : count * (count - 1) / 2 = 0 := by
        obtain rfl | rfl : count = 0 ∨ count = 1 := by omega
        · rfl
        · rfl
      rw [none]
    · next several =>
      have represented : count ≤ maximumSize / (count - 1) := by
        rw [Nat.le_div_iff_mul_le (by omega)]
        have squares := Nat.mul_le_mul bounded ((Nat.sub_le count 1).trans bounded)
        exact squares.trans (by decide)
      rw [if_neg (not_or.mpr ⟨Nat.not_lt.mpr bounded, Nat.not_lt.mpr represented⟩)]
      exact if_neg (Nat.not_lt.mpr pairs_le)
  refine bind_eq_ok.mpr ⟨_, counted, ?_⟩
  rw [if_neg (Nat.not_lt.mpr (pairs_le.trans storage_le)), if_neg (Nat.not_lt.mpr (pairs_le.trans size_le)),
    if_neg (Nat.not_lt.mpr bytes_le)]

theorem recorded_create (entities : List EntityId) :
    Recorded entities [] ⟨entities.length, entities.length * (entities.length - 1) / 2, [], [], 0⟩ where
  count := rfl
  limit := rfl
  capacity_le := Nat.zero_le _
  placed := fun _ impossible => absurd impossible List.not_mem_nil
  bits := fun _ => by simp
  distinctBits := .nil
  lengths := rfl
  pairs := fun _ => by simp
  distinctPairs := .nil

end CandidatePairAccumulator

end BlobRoyale.Simulation
