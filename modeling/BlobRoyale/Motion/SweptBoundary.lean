import BlobRoyale.Motion.SweptGeometry

/-!
# Floating-point expansions

Sums and products carried as lists of terms, low to high, whose rounding errors are kept as terms of their own, so
that the sign of a polynomial of the inputs is exact.
-/

namespace BlobRoyale.Simulation

/-- The operations of `<cmath>` on a binary representation. -/
class BinaryScalar (S : Type) [Scalar S] where
  /-- The exponent `std::frexp` finds, zero for zero. -/
  exponent : S → Int
  scalbn : S → Int → S
  fma : S → S → S → S

structure Expansion (S : Type) where
  terms : List S

namespace Expansion

variable {S : Type} [Scalar S]

def empty : Expansion S := ⟨[]⟩

/-- `terms_.size()`. -/
def capacity : Nat := 160

/-- The carry and the errors kept so far, past one more term. -/
def absorb (pass : S × List S) (term : S) : S × List S :=
  let sum := pass.1 + term
  let termVirtual := sum - pass.1
  let carryVirtual := sum - termVirtual
  let error := (pass.1 - carryVirtual) + (term - termVirtual)
  (sum, if error = 0 then pass.2 else pass.2 ++ [error])

def add (expansion : Expansion S) (value : S) : Validated (Expansion S) :=
  let pass := expansion.terms.foldl absorb (value, [])
  if pass.1 = 0 then .ok ⟨pass.2⟩
  else if pass.2.length = capacity then
    reject .physicalScalarOutOfRange "swept_geometry.expansion" "exact root arithmetic exceeded its fixed capacity"
  else .ok ⟨pass.2 ++ [pass.1]⟩

/-- `add_expansion`, every term times a sign. -/
def addExpansion (expansion other : Expansion S) (sign : S) : Validated (Expansion S) :=
  other.terms.foldlM (fun total term => total.add (sign * term)) expansion

def zero (expansion : Expansion S) : Bool := expansion.terms.isEmpty

def negative (expansion : Expansion S) : Bool := expansion.terms.getLast?.any fun term => term < 0

def rounded (expansion : Expansion S) : S := expansion.terms.foldl (fun result term => result + term) 0

variable [BinaryScalar S]

def addProduct (expansion : Expansion S) (first second : S) : Validated (Expansion S) := do
  let product := first * second
  let widened ← expansion.add (BinaryScalar.fma first second (-product))
  widened.add product

/-- `add_product` of two expansions, the first one's terms times a sign. -/
def addProducts (expansion first second : Expansion S) (sign : S) : Validated (Expansion S) :=
  first.terms.foldlM (fun total left =>
    second.terms.foldlM (fun total right => total.addProduct (sign * left) right) total) expansion

end Expansion

end BlobRoyale.Simulation

/-!
# Swept boundaries

When a moving point is on a circle, and when on the boundary of a capsule: the circles around the ends of a segment
and the two sides between them.
-/

namespace BlobRoyale.Simulation

variable {S : Type} [Scalar S]

section Roots

variable [UnitInterval S]

/-- A root among the at most two kept, which are the earliest and the latest. -/
def SweptRoots.insert (roots : List (MotionTime S)) (time : MotionTime S) : List (MotionTime S) :=
  match roots with
  | [] => [time]
  | first :: rest =>
      if time < first then [time, rest.getLastD first]
      else if rest.getLastD first < time then [first, time]
      else first :: rest

/-- `SweptRootAccumulator::add`. -/
def addRoot (roots : List (MotionTime S)) (value : S) : Validated (List (MotionTime S)) :=
  if finite : Scalar.isFinite value = true then
    if within : 0 ≤ value ∧ value ≤ 1 then .ok (SweptRoots.insert roots ⟨value, finite, within⟩) else .ok roots
  else reject .physicalScalarNotFinite "swept_geometry.root" "calculated root must be finite"

/-- The roots of an accumulator these values were added to. -/
def accumulateRoots (values : List S) : Validated (List (MotionTime S)) := values.foldlM addRoot []

def collapsedRoots {α : Type} : Validated α :=
  reject .physicalScalarOutOfRange "swept_geometry.root_separation"
    "two distinct boundary roots collapse to one binary64 time"

end Roots

def requireRadius (radius maximum : S) (context : String) : Validated Unit := do
  requireFinite radius context
  if radius < 0 ∨ maximum < radius then
    reject .physicalScalarOutOfRange context "radius is outside the accepted range"
  else .ok ()

/-- Twice the limit of one component, the largest boundary radius. -/
def maximumBoundaryRadius : S := maximumPhysicalComponentMagnitude + maximumPhysicalComponentMagnitude

variable [BinaryScalar S]

/-- `0x1p-200`. -/
def precisionFloor : S := BinaryScalar.scalbn 1 (-200)

def requirePrecisionComponent (value : S) (nonzero : Bool) (context : String) : Validated Unit :=
  if nonzero && Scalar.abs value < precisionFloor then
    reject .physicalScalarOutOfRange context "nonzero normalized lengths must be at least 2^-200"
  else .ok ()

variable [UnitInterval S]

section Circle

/-- The half-quadratic `a * t ^ 2 + 2 * b * t + c` of a normalized motion, and what its discriminant is made of. -/
structure CirclePolynomial (S : Type) where
  mx : S
  my : S
  dx : S
  dy : S
  a : Expansion S
  b : Expansion S
  c : Expansion S
  radiusSquared : Expansion S

namespace CirclePolynomial

def create (mx my dx dy radius : S) : Validated (CirclePolynomial S) := do
  let a ← (← Expansion.empty.addProduct dx dx).addProduct dy dy
  let b ← (← Expansion.empty.addProduct mx dx).addProduct my dy
  let radiusSquared ← Expansion.empty.addProduct radius radius
  let c ← (← (← Expansion.empty.addProduct mx mx).addProduct my my).addExpansion radiusSquared (-1)
  return ⟨mx, my, dx, dy, a, b, c, radiusSquared⟩

variable (polynomial : CirclePolynomial S)

def initialRelation : CircleInitialRelation :=
  if polynomial.c.zero then .onBoundary else if polynomial.c.negative then .inside else .outside

def initialRadialMotion : CircleRadialMotion :=
  if polynomial.b.zero then .orthogonal else if polynomial.b.negative then .approaching else .receding

/-- Past an exact root at the end, the other root. -/
def endRoots : Validated (List (MotionTime S) × CircleLineTopology) := do
  let other := polynomial.c.rounded / polynomial.a.rounded
  let difference ← polynomial.c.addExpansion polynomial.a (-1)
  if 1 ≤ other ∧ difference.negative then collapsedRoots
  else if !difference.negative && !difference.zero then return (← accumulateRoots [1], .secant)
  else return (← accumulateRoots [1, other], if difference.zero then .tangent else .secant)

/-- The two crossings of a line no end of which is a root. -/
def crossingRoots : Validated (List (MotionTime S) × CircleLineTopology) := do
  let cross ← (← Expansion.empty.addProduct polynomial.mx polynomial.dy).addProduct (-polynomial.my) polynomial.dx
  let discriminant ← (← Expansion.empty.addProducts polynomial.a polynomial.radiusSquared 1).addProducts cross cross (-1)
  if discriminant.negative then return ([], .miss)
  else if discriminant.zero then
    return (← accumulateRoots [-polynomial.b.rounded / polynomial.a.rounded], .tangent)
  else
    let squareRoot := Scalar.sqrt discriminant.rounded
    let q := if 0 ≤ polynomial.b.rounded then -polynomial.b.rounded - squareRoot else -polynomial.b.rounded + squareRoot
    let first := q / polynomial.a.rounded
    let second := polynomial.c.rounded / q
    if first = second ∧ 0 ≤ first ∧ first ≤ 1 then collapsedRoots
    else return (← accumulateRoots [first, second], .secant)

def roots : Validated (List (MotionTime S) × CircleLineTopology) := do
  if polynomial.a.zero then
    return (← accumulateRoots (if polynomial.c.zero then [0, 1] else []), .stationary)
  else if polynomial.c.zero then
    let b := polynomial.b.rounded
    return (← accumulateRoots [0, -(b + b) / polynomial.a.rounded],
      if polynomial.b.zero then .tangent else .secant)
  else do
    let endpoint ← (← (← Expansion.empty.addExpansion polynomial.a 1).addExpansion polynomial.b (1 + 1)).addExpansion
      polynomial.c 1
    if endpoint.zero then polynomial.endRoots else polynomial.crossingRoots

end CirclePolynomial

def sweptCircleBoundaryQuery : CircleSweepQuery S := fun start displacement center boundaryRadius => do
  requireRadius boundaryRadius maximumBoundaryRadius "swept_geometry.boundary_radius"
  let offsetX := start.x - center.x
  let offsetY := start.y - center.y
  let coincident : Bool := offsetX = 0 ∧ offsetY = 0
  let scale := max (max (max (max (Scalar.abs offsetX) (Scalar.abs offsetY)) (Scalar.abs displacement.x))
    (Scalar.abs displacement.y)) boundaryRadius
  if scale = 0 then
    return ⟨← accumulateRoots [0, 1], .onBoundary, .stationary, .orthogonal, coincident⟩
  else do
    let exponent := BinaryScalar.exponent scale
    let mx := BinaryScalar.scalbn offsetX (-exponent)
    let my := BinaryScalar.scalbn offsetY (-exponent)
    let dx := BinaryScalar.scalbn displacement.x (-exponent)
    let dy := BinaryScalar.scalbn displacement.y (-exponent)
    let radius := BinaryScalar.scalbn boundaryRadius (-exponent)
    requirePrecisionComponent mx (offsetX ≠ 0) "swept_geometry.offset_x"
    requirePrecisionComponent my (offsetY ≠ 0) "swept_geometry.offset_y"
    requirePrecisionComponent dx (displacement.x ≠ 0) "swept_geometry.displacement_x"
    requirePrecisionComponent dy (displacement.y ≠ 0) "swept_geometry.displacement_y"
    requirePrecisionComponent radius (boundaryRadius ≠ 0) "swept_geometry.radius"
    let polynomial ← CirclePolynomial.create mx my dx dy radius
    let (roots, topology) ← polynomial.roots
    return ⟨roots, polynomial.initialRelation, topology, polynomial.initialRadialMotion, coincident⟩

def sweptCircleBoundaryRoots (start displacement center : Vector2 S) (boundaryRadius : S) :
    Validated (List (MotionTime S)) := do
  return (← sweptCircleBoundaryQuery start displacement center boundaryRadius).roots

end Circle

section Capsule

/-- `cross(m + d * t, s) = ±r * sqrt(dot(s, s))`, with its ends' exact signs. -/
structure CapsuleSides (S : Type) where
  radius : S
  crossStart : Expansion S
  crossMotion : Expansion S
  crossEnd : Expansion S
  startBoundary : Expansion S
  endBoundary : Expansion S
  sideOffset : S

/-- The roots so far, and the last one a side's line gave. -/
structure SidePass (S : Type) [Scalar S] where
  roots : List (MotionTime S)
  prior : Option (MotionTime S)

namespace CapsuleSides

variable (sides : CapsuleSides S)

def addTime (pass : SidePass S) (time : MotionTime S) : Validated (SidePass S) :=
  if 0 < sides.radius ∧ pass.prior = some time then collapsedRoots
  else do
    return ⟨← addRoot pass.roots time.value, some time⟩

def addSide (pass : SidePass S) (side : S) : Validated (SidePass S) :=
  let negativeSide : Bool := side < 0
  if sides.startBoundary.zero && negativeSide == sides.crossStart.negative then do
    return { pass with roots := ← addRoot pass.roots 0 }
  else if sides.endBoundary.zero && negativeSide == sides.crossEnd.negative then do
    return { pass with roots := ← addRoot pass.roots 1 }
  else do
    let times ← sweptLineBoundaryRoots sides.crossStart.rounded sides.crossMotion.rounded side
    times.foldlM sides.addTime pass

end CapsuleSides

def capsuleSideRoots (mx my dx dy radius sx sy : S) : Validated (List (MotionTime S)) := do
  let scale := max (max (max (max (Scalar.abs mx) (Scalar.abs my)) (Scalar.abs dx)) (Scalar.abs dy)) radius
  let exponent := BinaryScalar.exponent scale
  let x := BinaryScalar.scalbn mx (-exponent)
  let y := BinaryScalar.scalbn my (-exponent)
  let vx := BinaryScalar.scalbn dx (-exponent)
  let vy := BinaryScalar.scalbn dy (-exponent)
  let r := BinaryScalar.scalbn radius (-exponent)
  requirePrecisionComponent x (mx ≠ 0) "swept_geometry.side.offset_x"
  requirePrecisionComponent y (my ≠ 0) "swept_geometry.side.offset_y"
  requirePrecisionComponent vx (dx ≠ 0) "swept_geometry.side.displacement_x"
  requirePrecisionComponent vy (dy ≠ 0) "swept_geometry.side.displacement_y"
  requirePrecisionComponent r (radius ≠ 0) "swept_geometry.side.radius"
  let crossStart ← (← Expansion.empty.addProduct x sy).addProduct (-y) sx
  let crossMotion ← (← Expansion.empty.addProduct vx sy).addProduct (-vy) sx
  let radiusSquared ← Expansion.empty.addProduct r r
  let lengthSquared ← (← Expansion.empty.addProduct sx sx).addProduct sy sy
  let sideSquared ← Expansion.empty.addProducts radiusSquared lengthSquared 1
  let startBoundary ← (← Expansion.empty.addProducts crossStart crossStart 1).addExpansion sideSquared (-1)
  if crossMotion.zero then accumulateRoots (if startBoundary.zero then [0, 1] else [])
  else do
    let crossEnd ← crossStart.addExpansion crossMotion 1
    let endBoundary ← (← Expansion.empty.addProducts crossEnd crossEnd 1).addExpansion sideSquared (-1)
    let sideOffset := Scalar.sqrt sideSquared.rounded
    let sides : CapsuleSides S := ⟨radius, crossStart, crossMotion, crossEnd, startBoundary, endBoundary, sideOffset⟩
    let pass ← [-sideOffset, sideOffset].foldlM sides.addSide ⟨[], none⟩
    return pass.roots

/-- Where along a segment's direction a moving point is, and where the segment ends. -/
structure SegmentProjection (S : Type) where
  start : S
  motion : S
  finish : S

namespace SegmentProjection

variable (projection : SegmentProjection S)

def placeAt (time : MotionTime S) : S := projection.start + projection.motion * time.value

/-- The roots at which the projection meets a condition, added to those kept. -/
def addRoots (condition : S → Bool) (roots times : List (MotionTime S)) : Validated (List (MotionTime S)) :=
  times.foldlM (fun kept time =>
    if condition (projection.placeAt time) then addRoot kept time.value else .ok kept) roots

end SegmentProjection

def sweptCapsuleBoundaryRoots (start displacement segmentStart segmentEnd : Vector2 S) (boundaryRadius : S) :
    Validated (List (MotionTime S)) := do
  requireRadius boundaryRadius maximumBoundaryRadius "swept_geometry.boundary_radius"
  let segmentX := segmentEnd.x - segmentStart.x
  let segmentY := segmentEnd.y - segmentStart.y
  let segmentScale := max (Scalar.abs segmentX) (Scalar.abs segmentY)
  if segmentScale = 0 then sweptCircleBoundaryRoots start displacement segmentStart boundaryRadius
  else do
    let segmentExponent := BinaryScalar.exponent segmentScale
    let sx := BinaryScalar.scalbn segmentX (-segmentExponent)
    let sy := BinaryScalar.scalbn segmentY (-segmentExponent)
    requirePrecisionComponent sx (segmentX ≠ 0) "swept_geometry.segment_x"
    requirePrecisionComponent sy (segmentY ≠ 0) "swept_geometry.segment_y"
    let mx := start.x - segmentStart.x
    let my := start.y - segmentStart.y
    let projection : SegmentProjection S := ⟨mx * sx + my * sy, displacement.x * sx + displacement.y * sy,
      segmentX * sx + segmentY * sy⟩
    let sideRoots ← capsuleSideRoots mx my displacement.x displacement.y boundaryRadius sx sy
    let besides ← projection.addRoots (fun place => 0 ≤ place ∧ place ≤ projection.finish) [] sideRoots
    let startRoots ← sweptCircleBoundaryRoots start displacement segmentStart boundaryRadius
    let before ← projection.addRoots (fun place => place ≤ 0) besides startRoots
    let endRoots ← sweptCircleBoundaryRoots start displacement segmentEnd boundaryRadius
    projection.addRoots (fun place => projection.finish ≤ place) before endRoots

end Capsule

end BlobRoyale.Simulation
