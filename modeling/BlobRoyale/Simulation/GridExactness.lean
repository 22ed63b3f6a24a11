import BlobRoyale.Simulation.CandidatePairs

/-!
# Exactness of a grid build

Which entities each cell holds and which pairs are candidates, for every build that succeeds; and the
refusals a build can end in.
-/

namespace BlobRoyale.Simulation

open Transition

/-- Strictly before in the order of candidate pairs. -/
def CandidatePair.Precedes (first second : CandidatePair) : Prop :=
  first.lowerId < second.lowerId ∨ (first.lowerId = second.lowerId ∧ first.higherId < second.higherId)

namespace CandidatePairAccumulator

variable {entities : List EntityId} {accumulator : CandidatePairAccumulator}
  {seen : List ((Nat × EntityId) × (Nat × EntityId))}

theorem materialize_precedes (distinct : accumulator.candidatePairs.Nodup) :
    accumulator.materialize.Pairwise CandidatePair.Precedes := by
  let within (first second : CandidatePair) : Prop :=
    first.lowerId < second.lowerId ∨ (first.lowerId = second.lowerId ∧ first.higherId ≤ second.higherId)
  have total : Std.Total within := by
    refine ⟨fun first second => ?_⟩
    obtain before | same | behind := lt_trichotomy first.lowerId second.lowerId
    · exact .inl (.inl before)
    · exact (le_total first.higherId second.higherId).imp (fun below => .inr ⟨same, below⟩)
        (fun above => .inr ⟨same.symm, above⟩)
    · exact .inr (.inl behind)
  have transitive : IsTrans CandidatePair within := by
    refine ⟨fun first second third left right => ?_⟩
    obtain before | ⟨same, below⟩ := left
    · obtain later | ⟨alike, -⟩ := right
      · exact .inl (before.trans later)
      · exact .inl (alike ▸ before)
    · obtain later | ⟨alike, above⟩ := right
      · exact .inl (same.symm ▸ later)
      · exact .inr ⟨same.trans alike, below.trans above⟩
  have sorted : accumulator.materialize.Pairwise within := List.pairwise_insertionSort within _
  have apart : accumulator.materialize.Nodup := (List.perm_insertionSort within _).nodup_iff.mpr distinct
  refine sorted.imp₂ (fun first second ordered different => ?_) apart
  obtain before | ⟨same, below⟩ := ordered
  · exact .inl before
  · refine .inr ⟨same, lt_of_le_of_ne below fun alike => different ?_⟩
    cases first
    cases second
    cases same
    cases alike
    rfl

theorem Recorded.observeCells (ascending : entities.Pairwise (· < ·)) (recorded : Recorded entities seen accumulator)
    {cells : List (List EntityId)}
    (members : ∀ cell ∈ cells, cell.Pairwise (· < ·) ∧ ∀ entity ∈ cell, entity ∈ entities) :
    ∃ next, cells.foldlM (fun accumulator cell =>
        (orderedPairs (cell.map fun entity => (bodyIndexForId entities entity, entity))).foldlM
          (fun accumulator pair => accumulator.observe pair.1 pair.2) accumulator) accumulator = .ok next ∧
      Recorded entities (seen ++ cells.flatMap fun cell =>
        orderedPairs (cell.map fun entity => (bodyIndexForId entities entity, entity))) next := by
  induction cells generalizing accumulator seen with
  | nil => exact ⟨accumulator, rfl, (List.append_nil seen).symm ▸ recorded⟩
  | cons cell rest ih =>
    obtain ⟨sorted, known⟩ := members cell List.mem_cons_self
    have placed : ∀ pair ∈ orderedPairs (cell.map fun entity => (bodyIndexForId entities entity, entity)),
        Placed entities pair := by
      intro pair member
      obtain ⟨lower, higher, lowerIn, higherIn, ordered, rfl⟩ := (mem_orderedPairs sorted).mp member
      exact ⟨bodyIndexForId_lt ascending (known lower lowerIn) (known higher higherIn) ordered,
        bodyIndexForId_getElem ascending (known lower lowerIn),
        bodyIndexForId_getElem ascending (known higher higherIn)⟩
    obtain ⟨next, observed, recorded⟩ := recorded.observeAll ascending placed
    obtain ⟨final, folded, recorded⟩ := ih recorded fun other later => members other (List.mem_cons_of_mem _ later)
    rw [List.append_assoc] at recorded
    exact ⟨final, bind_eq_ok.mpr ⟨next, observed, folded⟩, recorded⟩

end CandidatePairAccumulator

open CandidatePairAccumulator

/-- Candidates of ascending cells are found without a refusal: exactly the pairs of a cell, each once. -/
theorem buildCandidatePairs_exact {entities : List EntityId} {cells : List (List EntityId)}
    (ascending : entities.Pairwise (· < ·)) (bounded : entities.length ≤ maximumEntityCount)
    (members : ∀ cell ∈ cells, cell.Pairwise (· < ·) ∧ ∀ entity ∈ cell, entity ∈ entities) :
    ∃ pairs, buildCandidatePairs entities cells = .ok pairs ∧ pairs.Pairwise CandidatePair.Precedes ∧
      ∀ candidate, candidate ∈ pairs ↔
        ∃ cell ∈ cells, candidate.lowerId ∈ cell ∧ candidate.higherId ∈ cell := by
  obtain ⟨observed, folded, recorded⟩ := (recorded_create entities).observeCells ascending members
  refine ⟨observed.materialize, ?_, materialize_precedes recorded.distinctPairs, ?_⟩
  · exact bind_eq_ok.mpr ⟨_, create_of_bounded bounded, bind_eq_ok.mpr ⟨observed, folded, rfl⟩⟩
  · intro candidate
    rw [materialize, List.mem_insertionSort, recorded.pairs, List.nil_append]
    constructor
    · rintro ⟨pair, member, lower, higher⟩
      obtain ⟨cell, inside, member⟩ := List.mem_flatMap.mp member
      obtain ⟨first, second, firstIn, secondIn, -, rfl⟩ := (mem_orderedPairs (members cell inside).1).mp member
      exact ⟨cell, inside, lower ▸ firstIn, higher ▸ secondIn⟩
    · rintro ⟨cell, inside, lowerIn, higherIn⟩
      exact ⟨_, List.mem_flatMap.mpr ⟨cell, inside, (mem_orderedPairs (members cell inside).1).mpr
        ⟨candidate.lowerId, candidate.higherId, lowerIn, higherIn, candidate.ordered, rfl⟩⟩, rfl, rfl⟩

namespace SpatialGrid

variable {S : Type} [Scalar S] {configuration : SimulationConfig S} {bounds : ArenaBounds S} {world : GameWorld S}

def coverageOfBody (configuration : SimulationConfig S) (bounds : ArenaBounds S) (body : PhysicsBody S) :
    CellCoverage :=
  coverageOf configuration bounds body.position (effectiveRadius body configuration.playerRadius)

theorem coverBodies_eq_ok {entries : List (EntityId × PhysicsBody S)} {covered final : Nat × List CellCoverage}
    (covers : entries.foldlM (coverBody configuration bounds) covered = .ok final) :
    final.2 = covered.2 ++ entries.map fun entry => coverageOfBody configuration bounds entry.2 := by
  induction entries generalizing covered with
  | nil =>
    cases covers
    exact (List.append_nil _).symm
  | cons entry rest ih =>
    rw [List.foldlM_cons] at covers
    obtain ⟨next, reached, covers⟩ := bind_eq_ok.mp covers
    obtain ⟨coverage, covered', counted⟩ := bind_eq_ok.mp reached
    obtain ⟨memberships, -, counted⟩ := bind_eq_ok.mp counted
    split at counted
    · cases counted
    · cases counted
      rw [ih covers, (bodyCoverage_eq_ok.mp covered').2, List.append_assoc]
      rfl

theorem checkedCellCount_eq_ok {cellCount : Nat} (counted : checkedCellCount configuration = .ok cellCount) :
    cellCount = configuration.spatialGridRows * configuration.spatialGridColumns := by
  unfold checkedCellCount at counted
  dsimp only at counted
  split at counted
  · cases counted
  · split at counted <;> cases counted
    rfl

/-- The members of a cell: the entities whose coverage has it. -/
def membersAt (configuration : SimulationConfig S) (bounds : ArenaBounds S) (world : GameWorld S) (index : Nat) :
    List EntityId :=
  (world.bodies.entries.filter fun entry =>
    index ∈ (coverageOfBody configuration bounds entry.2).cells configuration.spatialGridColumns).map Prod.fst

theorem membersAt_sublist (index : Nat) :
    (membersAt configuration bounds world index).Sublist world.bodies.keys :=
  List.filter_sublist.map _

theorem mem_membersAt {index : Nat} {entity : EntityId} : entity ∈ membersAt configuration bounds world index ↔
    ∃ body, world.bodies.find entity = some body ∧
      index ∈ (coverageOfBody configuration bounds body).cells configuration.spatialGridColumns := by
  simp only [membersAt, List.mem_map, List.mem_filter, decide_eq_true_eq, Prod.exists, exists_and_right,
    exists_eq_right, SortedStore.find_eq_some_iff]

theorem assemble_cells {cellCount : Nat} {cells : List (List EntityId)}
    (counted : checkedCellCount configuration = .ok cellCount)
    (built : buildCells world.bodies.keys
      (world.bodies.entries.map fun entry => coverageOfBody configuration bounds entry.2)
      configuration.spatialGridColumns cellCount = .ok cells) (index : Nat) :
    cells[index]? = if index < configuration.spatialGridRows * configuration.spatialGridColumns then
      some (membersAt configuration bounds world index) else none := by
  have distinct : ∀ coverage ∈ world.bodies.entries.map (fun entry => coverageOfBody configuration bounds entry.2),
      (coverage.cells configuration.spatialGridColumns).Nodup := by
    intro coverage member
    obtain ⟨entry, -, rfl⟩ := List.mem_map.mp member
    exact CellCoverage.cells_nodup (coverageOf_inside configuration bounds _ _).lastColumn_lt
  rw [buildCells_getElem? built distinct index, checkedCellCount_eq_ok counted]
  congr 2
  rw [SortedStore.keys, List.zip_map', List.filter_map, List.map_map]
  rfl

theorem assemble_members {cellCount : Nat} {cells : List (List EntityId)}
    (counted : checkedCellCount configuration = .ok cellCount)
    (built : buildCells world.bodies.keys
      (world.bodies.entries.map fun entry => coverageOfBody configuration bounds entry.2)
      configuration.spatialGridColumns cellCount = .ok cells) :
    ∀ cell ∈ cells, ∃ index, cells[index]? = some cell ∧ cell = membersAt configuration bounds world index := by
  intro cell member
  obtain ⟨index, found⟩ := List.getElem?_of_mem member
  refine ⟨index, found, ?_⟩
  rw [assemble_cells counted built index] at found
  split at found
  · exact (Option.some.inj found).symm
  · cases found

theorem assemble_pairs {cellCount : Nat} {cells : List (List EntityId)}
    (counted : checkedCellCount configuration = .ok cellCount)
    (built : buildCells world.bodies.keys
      (world.bodies.entries.map fun entry => coverageOfBody configuration bounds entry.2)
      configuration.spatialGridColumns cellCount = .ok cells) :
    ∃ pairs, buildCandidatePairs world.bodies.keys cells = .ok pairs ∧ pairs.Pairwise CandidatePair.Precedes ∧
      ∀ candidate, candidate ∈ pairs ↔ ∃ lowerBody higherBody,
        world.bodies.find candidate.lowerId = some lowerBody ∧
        world.bodies.find candidate.higherId = some higherBody ∧
        (coverageOfBody configuration bounds lowerBody).Shares (coverageOfBody configuration bounds higherBody) := by
  have members := assemble_members counted built
  have bounded : world.bodies.keys.length ≤ maximumEntityCount := by
    rw [SortedStore.keys, List.length_map]
    exact world.bodies.bounded
  obtain ⟨pairs, paired, precedes, exact⟩ := buildCandidatePairs_exact world.bodies.keys_ascending bounded
    fun cell inside => by
      obtain ⟨index, -, rfl⟩ := members cell inside
      exact ⟨world.bodies.keys_ascending.sublist (membersAt_sublist index),
        fun entity member => (membersAt_sublist index).subset member⟩
  refine ⟨pairs, paired, precedes, fun candidate => (exact candidate).trans ?_⟩
  have lastColumn_lt : ∀ body, (coverageOfBody configuration bounds body).lastColumn <
      configuration.spatialGridColumns := fun body => (coverageOf_inside configuration bounds _ _).lastColumn_lt
  constructor
  · rintro ⟨cell, inside, lowerIn, higherIn⟩
    obtain ⟨index, -, rfl⟩ := members cell inside
    obtain ⟨lowerBody, lowerFound, lowerCovers⟩ := mem_membersAt.mp lowerIn
    obtain ⟨higherBody, higherFound, higherCovers⟩ := mem_membersAt.mp higherIn
    exact ⟨lowerBody, higherBody, lowerFound, higherFound,
      (CellCoverage.shares_iff (lastColumn_lt _) (lastColumn_lt _)).mpr ⟨index, lowerCovers, higherCovers⟩⟩
  · rintro ⟨lowerBody, higherBody, lowerFound, higherFound, shares⟩
    obtain ⟨index, lowerCovers, higherCovers⟩ :=
      (CellCoverage.shares_iff (lastColumn_lt _) (lastColumn_lt _)).mp shares
    have within := (coverageOf_inside configuration bounds lowerBody.position _).cells_lt lowerCovers
    have held := (assemble_cells counted built index).trans (if_pos within)
    exact ⟨_, List.mem_of_getElem? held, mem_membersAt.mpr ⟨lowerBody, lowerFound, lowerCovers⟩,
      mem_membersAt.mpr ⟨higherBody, higherFound, higherCovers⟩⟩

/-- A refusal other than that of the pair storage outgrowing its bound. -/
def NotOutgrown (refusal : SimulationValidationError) : Prop :=
  refusal ≠ ⟨.spatialGridCandidatePairLimitExceeded, "spatial_grid.candidate_pairs",
    "observed candidates exceed the preflighted pair allocation bound"⟩

theorem checkedCellCount_refused {refusal : SimulationValidationError}
    (refused : checkedCellCount configuration = .error refusal) : NotOutgrown refusal := by
  unfold checkedCellCount at refused
  dsimp only at refused
  split at refused
  · cases refused
    rintro ⟨⟩
  · split at refused <;> cases refused
    rintro ⟨⟩

theorem validateCellExtent_refused {worldExtent : S} {cellCount : Nat} {context : String}
    {refusal : SimulationValidationError} (refused : validateCellExtent worldExtent cellCount context = .error refusal) :
    NotOutgrown refusal := by
  unfold validateCellExtent at refused
  split at refused <;> cases refused
  rintro ⟨⟩

theorem coverBody_refused {covered : Nat × List CellCoverage} {entry : EntityId × PhysicsBody S}
    {refusal : SimulationValidationError} (refused : coverBody configuration bounds covered entry = .error refusal) :
    NotOutgrown refusal := by
  obtain refused | ⟨coverage, -, refused⟩ := bind_eq_error.mp refused
  · unfold bodyCoverage at refused
    dsimp only at refused
    split at refused <;> cases refused <;> rintro ⟨⟩
  · obtain refused | ⟨memberships, -, refused⟩ := bind_eq_error.mp refused
    · unfold CellCoverage.entryCount at refused
      dsimp only at refused
      split at refused <;> cases refused
      rintro ⟨⟩
    · split at refused <;> cases refused
      rintro ⟨⟩

theorem buildCells_refused {entities : List EntityId} {coverages : List CellCoverage} {columnCount cellCount : Nat}
    {refusal : SimulationValidationError}
    (refused : buildCells entities coverages columnCount cellCount = .error refusal) : NotOutgrown refusal := by
  obtain refused | ⟨_, -, impossible⟩ := bind_eq_error.mp refused
  · obtain ⟨-, memberCount, -, observations, -, -, refused⟩ := foldlM_refused refused
    unfold observeCell at refused
    split at refused
    · cases refused
    · split at refused
      · cases refused
        intro same
        have contexts := congrArg SimulationValidationError.context same
        exact absurd contexts (by decide)
      · dsimp only at refused
        split at refused
        · cases refused
          intro same
          have contexts := congrArg SimulationValidationError.context same
          exact absurd contexts (by decide)
        · cases refused
  · cases impossible

/-- A build holds in each cell its covering entities in ascending order, and as candidates exactly the pairs
that share a cell; the pair index is a position of its own below the bound, which is never outgrown. -/
theorem candidate_pairs_exact (configuration : SimulationConfig S) (bounds : ArenaBounds S) (world : GameWorld S) :
    (∀ grid, create configuration bounds world = .ok grid →
      grid.candidatePairs.Pairwise CandidatePair.Precedes ∧
      (∀ candidate, candidate ∈ grid.candidatePairs ↔ ∃ lowerBody higherBody,
        world.bodies.find candidate.lowerId = some lowerBody ∧
        world.bodies.find candidate.higherId = some higherBody ∧
        (coverageOfBody configuration bounds lowerBody).Shares (coverageOfBody configuration bounds higherBody)) ∧
      ∀ cell ∈ grid.cells, cell.Pairwise (· < ·)) ∧
    (∀ count ≤ maximumEntityCount, ∃ accumulator, CandidatePairAccumulator.create count = .ok accumulator ∧
      (∀ lower higher, lower < higher → higher < count →
        accumulator.pairBitIndex lower higher < accumulator.pairCountLimit) ∧
      ∀ lower higher lower' higher', lower < higher → higher < count → lower' < higher' → higher' < count →
        accumulator.pairBitIndex lower higher = accumulator.pairBitIndex lower' higher' →
          lower = lower' ∧ higher = higher') ∧
    ∀ refusal, create configuration bounds world = .error refusal → NotOutgrown refusal := by
  refine ⟨?_, ?_, ?_⟩
  · intro grid created
    obtain ⟨cellCount, counted, rest⟩ := bind_eq_ok.mp created
    obtain ⟨-, -, rest⟩ := bind_eq_ok.mp rest
    obtain ⟨-, -, rest⟩ := bind_eq_ok.mp rest
    obtain ⟨⟨memberships, coverages⟩, covers, assembled⟩ := bind_eq_ok.mp rest
    obtain ⟨cells, built, paired⟩ := bind_eq_ok.mp assembled
    obtain ⟨pairs, observed, committed⟩ := bind_eq_ok.mp paired
    cases committed
    cases coverBodies_eq_ok covers
    obtain ⟨exactly, again, precedes, members⟩ := assemble_pairs counted built
    cases again.symm.trans observed
    refine ⟨precedes, members, fun cell inside => ?_⟩
    obtain ⟨index, -, rfl⟩ := assemble_members counted built cell inside
    exact world.bodies.keys_ascending.sublist (membersAt_sublist index)
  · intro count bounded
    refine ⟨_, create_of_bounded bounded, ?_, ?_⟩
    · intro lower higher ordered within
      exact TriangularIndex.index_lt ordered within
    · intro lower higher lower' higher' ordered within ordered' within' same
      exact TriangularIndex.index_injective ordered within ordered' within' same
  · intro refusal refused
    obtain stuck | ⟨cellCount, counted, refused⟩ := bind_eq_error.mp refused
    · exact checkedCellCount_refused stuck
    obtain stuck | ⟨-, -, refused⟩ := bind_eq_error.mp refused
    · exact validateCellExtent_refused stuck
    obtain stuck | ⟨-, -, refused⟩ := bind_eq_error.mp refused
    · exact validateCellExtent_refused stuck
    obtain stuck | ⟨⟨memberships, coverages⟩, covers, refused⟩ := bind_eq_error.mp refused
    · obtain ⟨-, entry, -, covered, -, -, stuck⟩ := foldlM_refused stuck
      exact coverBody_refused stuck
    cases coverBodies_eq_ok covers
    obtain stuck | ⟨cells, built, refused⟩ := bind_eq_error.mp refused
    · exact buildCells_refused stuck
    obtain ⟨pairs, observed, -, -⟩ := assemble_pairs counted built
    rw [observed] at refused
    cases refused

end SpatialGrid

end BlobRoyale.Simulation
