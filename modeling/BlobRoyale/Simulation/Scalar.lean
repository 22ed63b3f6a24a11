import Mathlib.Data.Rat.Sqrt
import Mathlib.Algebra.Order.Ring.Rat
import BlobRoyale.Simulation.Identity

/-!
# Scalars and vectors

The engine's `double` operations, as a class without arithmetic laws: a result about every
instance is a result about binary64 rounding. Stored values are finite with a normalized zero,
where IEEE comparison is a linear order and equality is identity; a result that may be infinite
or not a number is asked `isFinite` before it is compared. Decimal literals are quotients of
exact integers, which round to the literal's own double.
-/

namespace BlobRoyale.Simulation

class Scalar (S : Type) extends LinearOrder S, Zero S, One S, Neg S, Add S, Sub S, Mul S, Div S,
    NatCast S where
  isFinite : S → Bool
  sqrt : S → S
  /-- `nextafter` towards positive infinity. -/
  nextUp : S → S
  /-- `nextafter` towards negative infinity. -/
  nextDown : S → S
  /-- `std::to_string` of a double. -/
  toText : S → String

/-- Exact rational arithmetic, the evaluation instance. -/
instance : Scalar ℚ where
  zero := Rat.ofInt 0
  one := Rat.ofInt 1
  isFinite _ := true
  sqrt := Rat.sqrt
  nextUp value := value
  nextDown value := value
  toText := toString

namespace Scalar

variable {S : Type} [Scalar S]

def abs (value : S) : S := max value (-value)

/-- `nextafter` towards zero. -/
def nextTowardZero (value : S) : S :=
  if value = 0 then 0 else if 0 < value then nextDown value else nextUp value

/-- `value == 0.0 ? 0.0 : value`. -/
def normalizeSignedZero (value : S) : S := if value = 0 then 0 else value

@[simp] theorem normalizeSignedZero_eq (value : S) : normalizeSignedZero value = value := by
  unfold normalizeSignedZero
  split
  · next zero => exact zero.symm
  · rfl

end Scalar

section Tolerance

variable {S : Type} [Scalar S]

def maximumPhysicalComponentMagnitude : S := ((1000000000000 : Nat) : S)
def maximumThrustDirectionComponentMagnitude : S := 1
def maximumWorldDimension : S := ((1000000000 : Nat) : S)
def positionTolerance : S := 1 / ((1000000000 : Nat) : S)
def relativeTolerance : S := 1 / ((1000000000000 : Nat) : S)
def simulationTicksPerSecond : Nat := 400

/-- `FixedDelta::canonical().seconds()`, the only timestep the core accepts. -/
def fixedDeltaSeconds : S := 1 / ((simulationTicksPerSecond : Nat) : S)

def comparisonTolerance (first second absoluteTolerance : S) : S :=
  absoluteTolerance + relativeTolerance * max (Scalar.abs first) (Scalar.abs second)

def approximatelyEqual (first second absoluteTolerance : S) : Bool :=
  Scalar.abs (first - second) ≤ comparisonTolerance first second absoluteTolerance

def velocityTolerance : S := 1 / ((1000000000 : Nat) : S)
def scalarTolerance : S := 1 / ((1000000000 : Nat) : S)

def lessThanOrApproximatelyEqual (first second absoluteTolerance : S) : Bool :=
  first < second || approximatelyEqual first second absoluteTolerance

def greaterThanOrApproximatelyEqual (first second absoluteTolerance : S) : Bool :=
  second < first || approximatelyEqual first second absoluteTolerance

end Tolerance

section Components

variable {S : Type} [Scalar S]

def ValidComponent (value : S) : Prop :=
  Scalar.isFinite value = true ∧ Scalar.abs value ≤ maximumPhysicalComponentMagnitude

instance (value : S) : Decidable (ValidComponent value) :=
  inferInstanceAs (Decidable (_ ∧ _))

def validateComponent (value : S) (context : String) : Validated { value : S // ValidComponent value } :=
  if finite : Scalar.isFinite value = true then
    if bounded : Scalar.abs value ≤ maximumPhysicalComponentMagnitude then
      .ok ⟨Scalar.normalizeSignedZero value, by
        simpa only [Scalar.normalizeSignedZero_eq] using ⟨finite, bounded⟩⟩
    else
      reject .physicalScalarOutOfRange context
        "component magnitude exceeds the accepted simulation limit"
  else
    reject .physicalScalarNotFinite context "component must be finite"

def validateScalarOperand (value : S) (context : String) : Validated S :=
  if Scalar.isFinite value = true then
    .ok (Scalar.normalizeSignedZero value)
  else
    reject .physicalScalarNotFinite context "scalar operand must be finite"

/-- `require_positive_physical_scalar`. -/
def requirePositivePhysicalScalar (value : S) (context : String) : Validated S :=
  if Scalar.isFinite value = true then
    if value ≤ 0 ∨ maximumPhysicalComponentMagnitude < value then
      reject .physicalScalarOutOfRange context
        "value must be positive and within the accepted physical component limit"
    else .ok value
  else
    reject .physicalScalarNotFinite context "value must be finite"

/-- `require_finite_result` of the discrete physics. -/
def requireFiniteResult (value : S) (context : String) : Validated S :=
  if Scalar.isFinite value = true then
    .ok (Scalar.normalizeSignedZero value)
  else
    reject .physicalScalarNotFinite context "physics result must be finite"

theorem validateComponent_of_valid {value : S} (valid : ValidComponent value) (context : String) :
    ∃ validated, validateComponent value context = .ok validated ∧ validated.val = value := by
  unfold validateComponent
  rw [dif_pos valid.1, dif_pos valid.2]
  exact ⟨_, rfl, Scalar.normalizeSignedZero_eq value⟩

theorem validateComponent_eq_ok {value : S} {context : String} {validated : { value : S // ValidComponent value }}
    (accepted : validateComponent value context = .ok validated) : validated.val = value := by
  unfold validateComponent at accepted
  split at accepted
  · split at accepted
    · cases accepted
      exact Scalar.normalizeSignedZero_eq value
    · cases accepted
  · cases accepted

end Components

/-- A vector whose components are finite and within the accepted magnitude. -/
structure Vector2 (S : Type) [Scalar S] where
  x : S
  y : S
  x_valid : ValidComponent x
  y_valid : ValidComponent y
  deriving DecidableEq

namespace Vector2

variable {S : Type} [Scalar S]

def createForOperation (x y : S) (operation : String) : Validated (Vector2 S) := do
  let validatedX ← validateComponent x (operation ++ ".x")
  let validatedY ← validateComponent y (operation ++ ".y")
  return ⟨validatedX, validatedY, validatedX.property, validatedY.property⟩

def create (x y : S) : Validated (Vector2 S) := createForOperation x y "vector2.create"

/-- `operator*` by a scalar. -/
def scale (vector : Vector2 S) (scalar : S) : Validated (Vector2 S) := do
  let validatedScalar ← validateScalarOperand scalar "vector2.scale.scalar"
  createForOperation (vector.x * validatedScalar) (vector.y * validatedScalar) "vector2.scale"

/-- `operator+`. -/
def add (vector other : Vector2 S) : Validated (Vector2 S) :=
  createForOperation (vector.x + other.x) (vector.y + other.y) "vector2.add"

/-- `operator-`. -/
def subtract (vector other : Vector2 S) : Validated (Vector2 S) :=
  createForOperation (vector.x - other.x) (vector.y - other.y) "vector2.subtract"

/-- `operator/` by a scalar. -/
def divide (vector : Vector2 S) (scalar : S) : Validated (Vector2 S) := do
  let validatedScalar ← validateScalarOperand scalar "vector2.divide.scalar"
  if validatedScalar = 0 then reject .vectorDivisionByZero "vector2.divide.scalar" "scalar divisor must be nonzero"
  else createForOperation (vector.x / validatedScalar) (vector.y / validatedScalar) "vector2.divide"

def dot (vector other : Vector2 S) : S := vector.x * other.x + vector.y * other.y

variable {x y : S} {vector : Vector2 S} {operation : String}

theorem createForOperation_eq_ok (created : createForOperation x y operation = .ok vector) :
    vector.x = x ∧ vector.y = y := by
  obtain ⟨first, firstAccepted, rest⟩ := bind_eq_ok.mp created
  obtain ⟨second, secondAccepted, rest⟩ := bind_eq_ok.mp rest
  cases rest
  exact ⟨validateComponent_eq_ok firstAccepted, validateComponent_eq_ok secondAccepted⟩

theorem createForOperation_of_valid (xValid : ValidComponent x) (yValid : ValidComponent y)
    (operation : String) : ∃ vector, createForOperation x y operation = .ok vector := by
  obtain ⟨first, firstAccepted, -⟩ := validateComponent_of_valid xValid (operation ++ ".x")
  obtain ⟨second, secondAccepted, -⟩ := validateComponent_of_valid yValid (operation ++ ".y")
  unfold createForOperation
  rw [firstAccepted]
  dsimp only [bind, Except.bind]
  rw [secondAccepted]
  exact ⟨_, rfl⟩

theorem scale_eq_ok {scaled : Vector2 S} {scalar : S} (scales : vector.scale scalar = .ok scaled) :
    scaled.x = vector.x * scalar ∧ scaled.y = vector.y * scalar := by
  obtain ⟨operand, accepted, rest⟩ := bind_eq_ok.mp scales
  unfold validateScalarOperand at accepted
  split at accepted
  · cases accepted
    rw [Scalar.normalizeSignedZero_eq] at rest
    exact createForOperation_eq_ok rest
  · cases accepted

end Vector2

end BlobRoyale.Simulation
