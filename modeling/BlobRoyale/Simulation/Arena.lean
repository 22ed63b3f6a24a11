import BlobRoyale.Simulation.PhysicsBody

/-!
# Arena and configuration

The closed arena rectangle, the validated simulation configuration, and the envelope every
committed body has to fit.
-/

namespace BlobRoyale.Simulation

variable {S : Type} [Scalar S]

def AdmittedExtent (value : S) : Prop :=
  Scalar.isFinite value = true ∧ 0 < value ∧ value ≤ maximumWorldDimension

instance (value : S) : Decidable (AdmittedExtent value) := inferInstanceAs (Decidable (_ ∧ _ ∧ _))

/-- `require_arena_scalar` and `require_world_scalar`, which differ in their codes. -/
def validateExtent (notFinite outOfRange : SimulationValidationCode) (value : S) (context : String) :
    Validated { value : S // AdmittedExtent value } :=
  if admitted : AdmittedExtent value then
    .ok ⟨value, admitted⟩
  else if Scalar.isFinite value = true then
    reject outOfRange context "value must be greater than zero and at most 1000000000"
  else
    reject notFinite context "value must be finite"

structure ArenaBounds (S : Type) [Scalar S] where
  width : S
  height : S
  width_admitted : AdmittedExtent width
  height_admitted : AdmittedExtent height
  deriving DecidableEq

namespace ArenaBounds

def create (width height : S) : Validated (ArenaBounds S) := do
  let width ← validateExtent .arenaBoundsScalarNotFinite .arenaBoundsScalarOutOfRange width
    "map_definition.bounds.width_world_units"
  let height ← validateExtent .arenaBoundsScalarNotFinite .arenaBoundsScalarOutOfRange height
    "map_definition.bounds.height_world_units"
  return ⟨width, height, width.property, height.property⟩

def contains (bounds : ArenaBounds S) (point : Vector2 S) : Bool :=
  0 ≤ point.x && point.x ≤ bounds.width && 0 ≤ point.y && point.y ≤ bounds.height

def containsDiscCenter (bounds : ArenaBounds S) (point : Vector2 S) (radius : S) : Bool :=
  radius ≤ point.x && point.x ≤ bounds.width - radius && radius ≤ point.y &&
    point.y ≤ bounds.height - radius

end ArenaBounds

def maximumSpatialGridCellCount : Nat := 1048576

/-- `2.0 * radius`. -/
def diameter (radius : S) : S := ((2 : Nat) : S) * radius

structure SimulationConfig (S : Type) [Scalar S] where
  worldWidth : S
  worldHeight : S
  playerRadius : S
  dragPerSecond : S
  spatialGridColumns : Nat
  spatialGridRows : Nat
  spatialGridCellCount : Nat
  radius_admitted : AdmittedExtent playerRadius
  drag_nonnegative : 0 ≤ dragPerSecond
  columns_positive : 0 < spatialGridColumns
  rows_positive : 0 < spatialGridRows
  cellCount_eq : spatialGridCellCount = spatialGridColumns * spatialGridRows
  cellCount_bounded : spatialGridCellCount ≤ maximumSpatialGridCellCount
  deriving DecidableEq

namespace SimulationConfig

def validateDragPerSecond (value : S) : Validated { value : S // 0 ≤ value } :=
  if Scalar.isFinite value = true then
    if nonnegative : 0 ≤ value then
      .ok ⟨value, nonnegative⟩
    else
      reject .configDragOutOfRange "simulation.drag_per_second"
        "value must be greater than or equal to zero"
  else
    reject .configDragNotFinite "simulation.drag_per_second" "value must be finite"

/-- A cell extent a grid of `cellCount` cells along one axis derives from the world extent. -/
def cellExtentValid (worldExtent : S) (cellCount : Nat) : Bool :=
  let extent := worldExtent / ((cellCount : Nat) : S)
  Scalar.isFinite extent && 0 < extent

def validateGridDimensions (columns rows : Nat) :
    Validated { dimensions : Nat × Nat //
      0 < dimensions.1 ∧ 0 < dimensions.2 ∧ dimensions.1 * dimensions.2 ≤ maximumSpatialGridCellCount } :=
  if positive : 0 < columns ∧ 0 < rows then
    if columns ≤ maximumSpatialGridCellCount ∧ rows ≤ maximumSpatialGridCellCount then
      if bounded : columns ≤ maximumSpatialGridCellCount / rows then
        .ok ⟨(columns, rows), positive.1, positive.2, (Nat.le_div_iff_mul_le positive.2).mp bounded⟩
      else
        reject .configSpatialGridCellLimitExceeded "spatial_grid"
          "columns multiplied by rows must not exceed 1048576 cells"
    else
      reject .configSpatialGridDimensionOutOfRange "spatial_grid"
        "columns and rows must each be between 1 and 1048576"
  else
    reject .configSpatialGridDimensionOutOfRange "spatial_grid"
      "columns and rows must each be between 1 and 1048576"

def create (worldWidth worldHeight playerRadius : S) (ticksPerSecond spatialGridColumns
    spatialGridRows : Nat) (dragPerSecond : S) : Validated (SimulationConfig S) := do
  let width ← validateExtent .configWorldScalarNotFinite .configWorldScalarOutOfRange worldWidth
    "world.width_world_units"
  let height ← validateExtent .configWorldScalarNotFinite .configWorldScalarOutOfRange worldHeight
    "world.height_world_units"
  let radius ← validateExtent .configWorldScalarNotFinite .configWorldScalarOutOfRange playerRadius
    "world.player_radius_world_units"
  let drag ← validateDragPerSecond dragPerSecond
  if worldWidth ≤ diameter playerRadius ∨ worldHeight ≤ diameter playerRadius then
    reject .configWorldTooSmallForPlayer "world"
      "width and height must each be greater than twice the player radius"
  else if ticksPerSecond ≠ simulationTicksPerSecond then
    reject .configTickRateUnsupported "simulation.ticks_per_second"
      "the deterministic simulation contract requires exactly 400 ticks per second"
  else do
    let ⟨(columns, rows), columnsPositive, rowsPositive, bounded⟩ ←
      validateGridDimensions spatialGridColumns spatialGridRows
    if cellExtentValid worldWidth columns && cellExtentValid worldHeight rows then
      return ⟨width, height, radius, drag, columns, rows, columns * rows, radius.property, drag.property,
        columnsPositive, rowsPositive, rfl, bounded⟩
    else
      reject .configSpatialGridDimensionOutOfRange "spatial_grid"
        "configured world and grid dimensions must produce positive finite cell extents"

end SimulationConfig

inductive MotionBodyEnvelopeViolation where
  | staticOutsideEnvelope
  | foldingBodyDoesNotFitEnvelope
  deriving DecidableEq, Repr

/-- `motion_body_envelope_violation`: a crossing body has no envelope to violate. -/
def motionBodyEnvelopeViolation (body : PhysicsBody S) (bounds : ArenaBounds S) (configuredRadius : S) :
    Option MotionBodyEnvelopeViolation :=
  let radius := effectiveRadius body configuredRadius
  if body.isStatic then
    if bounds.contains body.position then none else some .staticOutsideEnvelope
  else if body.crossesBounds then none
  else if !bounds.contains body.position || bounds.width < diameter radius ||
      bounds.height < diameter radius || (bounds.width = diameter radius && body.velocity.x ≠ 0) ||
      (bounds.height = diameter radius && body.velocity.y ≠ 0) then
    some .foldingBodyDoesNotFitEnvelope
  else none

end BlobRoyale.Simulation
