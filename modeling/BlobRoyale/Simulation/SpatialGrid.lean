import BlobRoyale.Simulation.Arena
import BlobRoyale.Simulation.GameWorld

/-!
# The spatial grid

The index of a world's bodies: the entities whose padded extent meets each cell, and the candidate
pairs two of which share a cell. A build reads nothing of a body but its id, position and radius,
unless the body violates its envelope, which refuses the build.
-/

namespace BlobRoyale.Simulation

variable {S : Type} [Scalar S]

def maximumSpatialGridMembershipCount : Nat := 16777216

def maximumSpatialGridCandidatePairCount : Nat := maximumEntityCount * (maximumEntityCount - 1) / 2

def maximumSpatialGridCandidatePairObservationCount : Nat := maximumSpatialGridCandidatePairCount * 8

def maximumSpatialGridCandidatePairAllocationByteCount : Nat := 134217728

def maximumSpatialGridCandidatePairBitsetByteCount : Nat :=
  (maximumSpatialGridCandidatePairCount + 7) / 8

/-- `std::numeric_limits<std::size_t>::max()`. -/
def maximumSize : Nat := 2 ^ 64 - 1

/-- `sizeof(CandidatePair)`, two 64-bit ids. -/
def candidatePairByteCount : Nat := 16

/-- The bodies of a world as an index sees them. -/
structure IndexedBody (S : Type) [Scalar S] where
  entity : EntityId
  position : Vector2 S
  radius : S
  deriving DecidableEq

def IndexedBody.of (entry : EntityId × PhysicsBody S) : IndexedBody S :=
  ⟨entry.1, entry.2.position, entry.2.radius⟩

def indexedBodiesOf (world : GameWorld S) : List (IndexedBody S) :=
  world.bodies.entries.map IndexedBody.of

structure CellCoverage where
  firstRow : Nat
  lastRow : Nat
  firstColumn : Nat
  lastColumn : Nat
  deriving DecidableEq, Repr

namespace CellCoverage

/-- The flattened indices of the covered cells, row by row. -/
def cells (coverage : CellCoverage) (columnCount : Nat) : List Nat :=
  (List.range' coverage.firstRow (coverage.lastRow + 1 - coverage.firstRow)).flatMap fun row =>
    (List.range' coverage.firstColumn (coverage.lastColumn + 1 - coverage.firstColumn)).map fun column =>
      row * columnCount + column

/-- `coverage_entry_count`. -/
def entryCount (coverage : CellCoverage) : Validated Nat :=
  let rowCount := coverage.lastRow - coverage.firstRow + 1
  let columnCount := coverage.lastColumn - coverage.firstColumn + 1
  if maximumSpatialGridMembershipCount / columnCount < rowCount then
    reject .spatialGridMembershipLimitExceeded "spatial_grid.memberships"
      "one player coverage exceeds the accepted membership allocation limit"
  else .ok (rowCount * columnCount)

end CellCoverage

section Geometry

def internalBoundary (worldExtent : S) (cellCount boundaryIndex : Nat) : S :=
  (worldExtent * ((boundaryIndex : Nat) : S)) / ((cellCount : Nat) : S)

/-- The binary search both intersections run: the first index that is not `before`. -/
def partitionPoint (before : Nat → Bool) (first last : Nat) : Nat :=
  if first < last then
    let middle := first + (last - first) / 2
    if before middle then partitionPoint before (middle + 1) last
    else partitionPoint before first middle
  else first
  termination_by last - first

def firstIntersectedCell (minimum worldExtent : S) (cellCount : Nat) : Nat :=
  if minimum ≤ 0 ∨ cellCount = 1 then 0
  else
    let first := partitionPoint (fun index => internalBoundary worldExtent cellCount index < minimum) 1
      cellCount
    if first = cellCount then cellCount - 1 else first - 1

def lastIntersectedCell (maximum worldExtent : S) (cellCount : Nat) : Nat :=
  if worldExtent ≤ maximum ∨ cellCount = 1 then cellCount - 1
  else
    partitionPoint (fun index => internalBoundary worldExtent cellCount index ≤ maximum) 1 cellCount - 1

/-- How far beyond its radius a body's coverage is padded. -/
def coveragePadding (coverageRadius : S) : S :=
  let contactDistance := diameter coverageRadius
  comparisonTolerance contactDistance contactDistance positionTolerance / (1 - relativeTolerance)

def intersectedCells (center reach worldExtent : S) (padding : S) (cellCount : Nat) : Nat × Nat :=
  let minimum := max 0 (Scalar.nextDown (center - reach - padding))
  let maximum := min worldExtent (Scalar.nextUp (center + reach + padding))
  (firstIntersectedCell minimum worldExtent cellCount, lastIntersectedCell maximum worldExtent cellCount)

/-- The cells a body that fits its envelope covers. -/
def coverageOf (configuration : SimulationConfig S) (bounds : ArenaBounds S) (position : Vector2 S)
    (coverageRadius : S) : CellCoverage :=
  let padding := coveragePadding coverageRadius
  let rows := intersectedCells position.y coverageRadius bounds.height padding
    configuration.spatialGridRows
  let columns := intersectedCells position.x coverageRadius bounds.width padding
    configuration.spatialGridColumns
  ⟨rows.1, rows.2, columns.1, columns.2⟩

def bodyCoverage (configuration : SimulationConfig S) (bounds : ArenaBounds S)
    (entry : EntityId × PhysicsBody S) : Validated CellCoverage :=
  let context := "spatial_grid.bodies[entity_id=" ++ toString entry.1.value ++ "].position"
  match motionBodyEnvelopeViolation entry.2 bounds configuration.playerRadius with
  | some .staticOutsideEnvelope =>
      reject .spatialGridStaticBodyOutOfBounds context
        "static body center must lie inside the closed arena rectangle"
  | some .foldingBodyDoesNotFitEnvelope =>
      reject .spatialGridPlayerCenterOutOfBounds context "folding body must fit its motion envelope"
  | none =>
      .ok (coverageOf configuration bounds entry.2.position
        (effectiveRadius entry.2 configuration.playerRadius))

end Geometry

def checkedCellCount (configuration : SimulationConfig S) : Validated Nat :=
  let rowCount := configuration.spatialGridRows
  let columnCount := configuration.spatialGridColumns
  if rowCount = 0 ∨ columnCount = 0 ∨ maximumSpatialGridCellCount / columnCount < rowCount then
    reject .spatialGridCellCountExceeded "spatial_grid.cells"
      "row count multiplied by column count exceeds the accepted allocation limit"
  else
    let cellCount := rowCount * columnCount
    if maximumSpatialGridCellCount < cellCount ∨ cellCount ≠ configuration.spatialGridCellCount then
      reject .spatialGridCellCountExceeded "spatial_grid.cells"
        "validated grid cell count is inconsistent or exceeds the accepted allocation limit"
    else .ok cellCount

def validateCellExtent (worldExtent : S) (cellCount : Nat) (context : String) : Validated Unit :=
  if SimulationConfig.cellExtentValid worldExtent cellCount then .ok ()
  else
    reject .spatialGridGeometryInvalid context
      "derived cell extent must be finite and greater than zero"

/-- One body of the membership loop: the memberships so far and the coverages so far. -/
def coverBody (configuration : SimulationConfig S) (bounds : ArenaBounds S)
    (covered : Nat × List CellCoverage) (entry : EntityId × PhysicsBody S) :
    Validated (Nat × List CellCoverage) := do
  let coverage ← bodyCoverage configuration bounds entry
  let memberships ← coverage.entryCount
  if maximumSpatialGridMembershipCount - covered.1 < memberships then
    reject .spatialGridMembershipLimitExceeded "spatial_grid.memberships"
      "total cell membership exceeds the accepted allocation limit"
  else .ok (covered.1 + memberships, covered.2 ++ [coverage])

section Cells

def observeCell (observationCount memberCount : Nat) : Validated Nat :=
  if memberCount < 2 then .ok observationCount
  else if maximumSize / (memberCount - 1) < memberCount then
    reject .spatialGridCandidatePairLimitExceeded "spatial_grid.candidate_pair_observations"
      "one cell candidate traversal cannot be represented safely"
  else
    let cellObservationCount := memberCount * (memberCount - 1) / 2
    if maximumSpatialGridCandidatePairObservationCount - observationCount < cellObservationCount then
      reject .spatialGridCandidatePairLimitExceeded "spatial_grid.candidate_pair_observations"
        "cell candidate traversal exceeds the accepted deterministic work limit"
    else .ok (observationCount + cellObservationCount)

/-- `validate_candidate_observation_count`. -/
def validateCandidateObservationCount (memberCounts : List Nat) : Validated Nat :=
  memberCounts.foldlM observeCell 0

def buildCells (entities : List EntityId) (coverages : List CellCoverage) (columnCount cellCount : Nat) :
    Validated (List (List EntityId)) := do
  let memberCounts := coverages.foldl (fun counts coverage =>
    (coverage.cells columnCount).foldl (fun counts index => counts.modify index (· + 1)) counts)
    (List.replicate cellCount 0)
  let _ ← validateCandidateObservationCount memberCounts
  return (entities.zip coverages).foldl (fun cells member =>
    (member.2.cells columnCount).foldl (fun cells index => cells.modify index (· ++ [member.1])) cells)
    (List.replicate cellCount [])

end Cells

section CandidatePairs

def maximumPairCount (playerCount : Nat) : Validated Nat :=
  if playerCount < 2 then .ok 0
  else if maximumEntityCount < playerCount ∨ maximumSize / (playerCount - 1) < playerCount then
    reject .spatialGridCandidatePairLimitExceeded "spatial_grid.candidate_pairs"
      "player count cannot be represented by the bounded candidate-pair index"
  else
    let pairCount := playerCount * (playerCount - 1) / 2
    if maximumSpatialGridCandidatePairCount < pairCount then
      reject .spatialGridCandidatePairLimitExceeded "spatial_grid.candidate_pairs"
        "maximum candidate pair count exceeds the accepted allocation limit"
    else .ok pairCount

/-- The pairs observed so far, with the bit of each and the capacity reserved for them. -/
structure CandidatePairAccumulator where
  playerCount : Nat
  pairCountLimit : Nat
  observedPairBits : List Nat
  candidatePairs : List CandidatePair
  capacity : Nat

namespace CandidatePairAccumulator

def create (playerCount : Nat) : Validated CandidatePairAccumulator := do
  let pairCount ← maximumPairCount playerCount
  if maximumSpatialGridCandidatePairAllocationByteCount / candidatePairByteCount < pairCount then
    reject .spatialGridCandidatePairLimitExceeded "spatial_grid.candidate_pairs"
      "maximum candidate-pair storage exceeds the accepted byte allocation limit"
  else if maximumSize - 7 < pairCount then
    reject .spatialGridCandidatePairLimitExceeded "spatial_grid.candidate_pairs.bitset"
      "candidate-pair bitset byte count cannot be represented safely"
  else if maximumSpatialGridCandidatePairBitsetByteCount < (pairCount + 7) / 8 then
    reject .spatialGridCandidatePairLimitExceeded "spatial_grid.candidate_pairs.bitset"
      "candidate-pair bitset exceeds the accepted allocation limit"
  else .ok ⟨playerCount, pairCount, [], [], 0⟩

def pairBitIndex (accumulator : CandidatePairAccumulator) (lowerIndex higherIndex : Nat) : Nat :=
  lowerIndex * (2 * accumulator.playerCount - lowerIndex - 1) / 2 + (higherIndex - lowerIndex - 1)

/-- `reserve_for_next_candidate`: the capacity doubles up to the preflighted bound. -/
def reserveForNextCandidate (accumulator : CandidatePairAccumulator) : Validated CandidatePairAccumulator :=
  if accumulator.candidatePairs.length < accumulator.capacity then .ok accumulator
  else if accumulator.candidatePairs.length = accumulator.pairCountLimit then
    reject .spatialGridCandidatePairLimitExceeded "spatial_grid.candidate_pairs"
      "observed candidates exceed the preflighted pair allocation bound"
  else
    let nextCapacity :=
      if accumulator.capacity = 0 then min 64 accumulator.pairCountLimit
      else if accumulator.pairCountLimit / 2 < accumulator.capacity then accumulator.pairCountLimit
      else accumulator.capacity * 2
    .ok { accumulator with capacity := nextCapacity }

def observe (accumulator : CandidatePairAccumulator) (lower higher : Nat × EntityId) :
    Validated CandidatePairAccumulator :=
  let bit := accumulator.pairBitIndex lower.1 higher.1
  if bit ∈ accumulator.observedPairBits then .ok accumulator
  else do
    let reserved ← accumulator.reserveForNextCandidate
    let pair ← CandidatePair.create lower.2 higher.2
    return { reserved with
      observedPairBits := bit :: reserved.observedPairBits
      candidatePairs := reserved.candidatePairs ++ [pair] }

def materialize (accumulator : CandidatePairAccumulator) : List CandidatePair :=
  accumulator.candidatePairs.insertionSort fun first second =>
    first.lowerId < second.lowerId ∨ (first.lowerId = second.lowerId ∧ first.higherId ≤ second.higherId)

end CandidatePairAccumulator

/-- `body_index_for_id`, a lower bound in the sorted roster of bodies. -/
def bodyIndexForId (entities : List EntityId) (entity : EntityId) : Nat :=
  entities.findIdx fun held => entity ≤ held

/-- Every pair of positions of a list, left before right. -/
def orderedPairs : List (Nat × EntityId) → List ((Nat × EntityId) × (Nat × EntityId))
  | [] => []
  | left :: rest => rest.map (fun right => (left, right)) ++ orderedPairs rest

def buildCandidatePairs (entities : List EntityId) (cells : List (List EntityId)) :
    Validated (List CandidatePair) := do
  let accumulator ← CandidatePairAccumulator.create entities.length
  let observed ← cells.foldlM (fun accumulator cell =>
    (orderedPairs (cell.map fun entity => (bodyIndexForId entities entity, entity))).foldlM
      (fun accumulator pair => accumulator.observe pair.1 pair.2) accumulator) accumulator
  return observed.materialize

end CandidatePairs

structure SpatialGrid (S : Type) [Scalar S] where
  configuration : SimulationConfig S
  bounds : ArenaBounds S
  cells : List (List EntityId)
  candidatePairs : List CandidatePair
  deriving DecidableEq

namespace SpatialGrid

/-- The rest of a build, once the bodies are covered. -/
def assemble (configuration : SimulationConfig S) (bounds : ArenaBounds S) (cellCount : Nat)
    (entities : List EntityId) (coverages : List CellCoverage) : Validated (SpatialGrid S) := do
  let cells ← buildCells entities coverages configuration.spatialGridColumns cellCount
  let candidatePairs ← buildCandidatePairs entities cells
  return ⟨configuration, bounds, cells, candidatePairs⟩

def create (configuration : SimulationConfig S) (bounds : ArenaBounds S) (world : GameWorld S) :
    Validated (SpatialGrid S) := do
  let cellCount ← checkedCellCount configuration
  validateCellExtent bounds.width configuration.spatialGridColumns "spatial_grid.cell_width"
  validateCellExtent bounds.height configuration.spatialGridRows "spatial_grid.cell_height"
  let (_, coverages) ← world.bodies.entries.foldlM (coverBody configuration bounds) (0, [])
  assemble configuration bounds cellCount world.bodies.keys coverages

def rebuilt (grid : SpatialGrid S) (world : GameWorld S) : Validated (SpatialGrid S) :=
  create grid.configuration grid.bounds world

end SpatialGrid

section Rebuilds

variable {configuration : SimulationConfig S} {bounds : ArenaBounds S}

def Fits (configuration : SimulationConfig S) (bounds : ArenaBounds S) (world : GameWorld S) : Prop :=
  ∀ entry ∈ world.bodies.entries,
    motionBodyEnvelopeViolation entry.2 bounds configuration.playerRadius = none

theorem bodyCoverage_eq_ok {entry : EntityId × PhysicsBody S} {coverage : CellCoverage} :
    bodyCoverage configuration bounds entry = .ok coverage ↔
      motionBodyEnvelopeViolation entry.2 bounds configuration.playerRadius = none ∧
        coverage = coverageOf configuration bounds entry.2.position
          (effectiveRadius entry.2 configuration.playerRadius) := by
  unfold bodyCoverage
  split
  · next violation => simp only [reject, reduceCtorEq, violation, false_and]
  · next violation => simp only [reject, reduceCtorEq, violation, false_and]
  · next fits => simp only [fits, Except.ok.injEq, true_and, eq_comm]

theorem coverBody_eq_ok {covered next : Nat × List CellCoverage} {entry : EntityId × PhysicsBody S}
    (covers : coverBody configuration bounds covered entry = .ok next) :
    motionBodyEnvelopeViolation entry.2 bounds configuration.playerRadius = none := by
  obtain ⟨coverage, reached, -⟩ := bind_eq_ok.mp covers
  exact (bodyCoverage_eq_ok.mp reached).1

theorem coverBody_congr {covered next : Nat × List CellCoverage}
    {first second : EntityId × PhysicsBody S} (same : IndexedBody.of first = IndexedBody.of second)
    (fits : motionBodyEnvelopeViolation second.2 bounds configuration.playerRadius = none)
    (covers : coverBody configuration bounds covered first = .ok next) :
    coverBody configuration bounds covered second = .ok next := by
  obtain ⟨coverage, reached, rest⟩ := bind_eq_ok.mp covers
  obtain ⟨-, position, radius⟩ := IndexedBody.mk.inj same
  have radii : effectiveRadius first.2 configuration.playerRadius =
      effectiveRadius second.2 configuration.playerRadius := by
    rw [effectiveRadius, effectiveRadius, radius]
  refine bind_eq_ok.mpr ⟨coverage, bodyCoverage_eq_ok.mpr ⟨fits, ?_⟩, rest⟩
  rw [(bodyCoverage_eq_ok.mp reached).2, position, radii]

theorem coverBodies_congr {covered final : Nat × List CellCoverage}
    {first second : List (EntityId × PhysicsBody S)}
    (same : first.map IndexedBody.of = second.map IndexedBody.of)
    (fits : ∀ entry ∈ second,
      motionBodyEnvelopeViolation entry.2 bounds configuration.playerRadius = none)
    (covers : first.foldlM (coverBody configuration bounds) covered = .ok final) :
    second.foldlM (coverBody configuration bounds) covered = .ok final := by
  induction first generalizing second covered with
  | nil =>
    rw [List.map_nil, eq_comm, List.map_eq_nil_iff] at same
    exact same ▸ covers
  | cons entry rest ih =>
    obtain ⟨other, others, rfl, sameEntry, sameRest⟩ := List.map_eq_cons_iff.mp same.symm
    rw [List.foldlM_cons] at covers ⊢
    obtain ⟨next, reached, covered⟩ := bind_eq_ok.mp covers
    refine bind_eq_ok.mpr ⟨next, ?_, ?_⟩
    · exact coverBody_congr sameEntry.symm (fits other List.mem_cons_self) reached
    · exact ih sameRest.symm (fun entry member => fits entry (List.mem_cons_of_mem _ member)) covered

theorem fits_of_coverBodies {entries : List (EntityId × PhysicsBody S)}
    {covered final : Nat × List CellCoverage}
    (covers : entries.foldlM (coverBody configuration bounds) covered = .ok final) :
    ∀ entry ∈ entries, motionBodyEnvelopeViolation entry.2 bounds configuration.playerRadius = none := by
  induction entries generalizing covered with
  | nil => exact fun _ member => by cases member
  | cons entry rest ih =>
    rw [List.foldlM_cons] at covers
    obtain ⟨next, reached, covered⟩ := bind_eq_ok.mp covers
    intro other member
    obtain rfl | later := List.mem_cons.mp member
    · exact coverBody_eq_ok reached
    · exact ih covered other later

namespace SpatialGrid

variable {world : GameWorld S} {grid : SpatialGrid S}

theorem create_eq_ok (created : create configuration bounds world = .ok grid) :
    grid.configuration = configuration ∧ grid.bounds = bounds ∧ Fits configuration bounds world := by
  obtain ⟨cellCount, -, rest⟩ := bind_eq_ok.mp created
  obtain ⟨-, -, rest⟩ := bind_eq_ok.mp rest
  obtain ⟨-, -, rest⟩ := bind_eq_ok.mp rest
  obtain ⟨covered, covers, assembled⟩ := bind_eq_ok.mp rest
  obtain ⟨cells, -, paired⟩ := bind_eq_ok.mp assembled
  obtain ⟨pairs, -, committed⟩ := bind_eq_ok.mp paired
  cases committed
  exact ⟨rfl, rfl, fits_of_coverBodies covers⟩

theorem create_congr {other : GameWorld S} (same : indexedBodiesOf world = indexedBodiesOf other)
    (fits : Fits configuration bounds other) (created : create configuration bounds world = .ok grid) :
    create configuration bounds other = .ok grid := by
  obtain ⟨cellCount, counted, rest⟩ := bind_eq_ok.mp created
  obtain ⟨⟨⟩, widths, rest⟩ := bind_eq_ok.mp rest
  obtain ⟨⟨⟩, heights, rest⟩ := bind_eq_ok.mp rest
  obtain ⟨covered, covers, assembled⟩ := bind_eq_ok.mp rest
  have keys : world.bodies.keys = other.bodies.keys := by
    have entities := congrArg (List.map IndexedBody.entity) same
    rwa [indexedBodiesOf, indexedBodiesOf, List.map_map, List.map_map] at entities
  refine bind_eq_ok.mpr ⟨cellCount, counted, bind_eq_ok.mpr ⟨(), widths, bind_eq_ok.mpr ⟨(), heights,
    bind_eq_ok.mpr ⟨covered, coverBodies_congr same fits covers, keys ▸ assembled⟩⟩⟩⟩

theorem create_unique {other : GameWorld S} {rebuild : SpatialGrid S}
    (same : indexedBodiesOf world = indexedBodiesOf other)
    (created : create configuration bounds world = .ok grid)
    (again : create configuration bounds other = .ok rebuild) : rebuild = grid :=
  Except.ok.inj (again.symm.trans (create_congr same (create_eq_ok again).2.2 created))

/-- What `rebuilt` means for a grid built once. -/
theorem rebuilt_eq {other : GameWorld S} (created : create configuration bounds world = .ok grid) :
    grid.rebuilt other = create configuration bounds other := by
  obtain ⟨rfl, rfl, -⟩ := create_eq_ok created
  rfl

end SpatialGrid

end Rebuilds

end BlobRoyale.Simulation
