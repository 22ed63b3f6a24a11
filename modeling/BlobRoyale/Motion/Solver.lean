import BlobRoyale.Motion.SweptGeometry
import BlobRoyale.Simulation.ContinuousMotion

/-!
# The continuous motion solver

The state of one tick's solve: every body on its own velocity epoch, a cached contact for every pair,
a cached wall for every body and axis. Bodies are numbered in entity order.
-/

namespace BlobRoyale.Simulation

variable {S : Type} [Scalar S]

def failMotion {α : Type} (code : SimulationValidationCode) (message : String) : Validated α :=
  reject code "continuous_motion" message

inductive MotionDisposition where
  | continues
  | terminate
  deriving DecidableEq, Repr

structure MotionBodyResult (S : Type) [Scalar S] where
  body : PhysicsBody S
  disposition : MotionDisposition
  deriving DecidableEq

/-- `ContactRule::Subject`. -/
abbrev ContactSubject (S : Type) [Scalar S] := EntityId × PhysicsBody S

structure MotionWorkCounts where
  pairExaminations : Nat
  rootQueries : Nat
  events : Nat
  triggerQueries : Nat
  broadPhaseRebuilds : Nat
  maximumCandidatePairs : Nat
  deriving DecidableEq

namespace MotionWorkCounts

def none : MotionWorkCounts := ⟨0, 0, 0, 0, 0, 0⟩

/-- `MotionQueryBudget::roots`. -/
def chargeRoots (work : MotionWorkCounts) (limits : MotionLimits) (count : Nat) :
    Validated MotionWorkCounts :=
  if limits.rootQueries - work.rootQueries < count then
    failMotion .continuousMotionBudgetExceeded "motion root-query budget exhausted"
  else .ok { work with rootQueries := work.rootQueries + count }

/-- `MotionQueryBudget::trigger`. -/
def chargeTrigger (work : MotionWorkCounts) (limits : MotionLimits) : Validated MotionWorkCounts := do
  requireMotionBudget (work.triggerQueries + 1) limits.triggerQueries
    "motion trigger-query budget exhausted"
  return { work with triggerQueries := work.triggerQueries + 1 }

end MotionWorkCounts

structure MotionPathSegment (S : Type) [Scalar S] where
  entity : EntityId
  begin : MotionTime S
  finish : MotionTime S
  startPosition : Vector2 S
  finishPosition : Vector2 S
  deriving DecidableEq

inductive MotionAxis where
  | x
  | y
  deriving DecidableEq, Repr

/-- A cached contact or wall, with the revisions its geometry was taken at. -/
structure MotionGeometryEvent (S : Type) [Scalar S] (count : Nat) where
  key : MotionEventKey S
  first : Fin count
  second : Option (Fin count)
  normal : Vector2 S
  centerDistance : S
  firstMotionRevision : Nat
  secondMotionRevision : Nat
  impactGeometryAdmitted : Bool

/-- A body since its own motion last changed. -/
structure EpochBody (S : Type) [Scalar S] where
  subject : ContactSubject S
  anchor : MotionTime S
  revision : Nat
  disposition : MotionDisposition
  effectPolicy : ContactEffectPolicy

/-- `std::numeric_limits<std::uint64_t>::max()`, the revision of a pair never examined. -/
def unexaminedRevision : Nat := 2 ^ 64 - 1

structure PairCache (S : Type) [Scalar S] (count : Nat) where
  first : Fin count
  second : Fin count
  firstRevision : Nat
  secondRevision : Nat
  suppressed : Option (Nat × Nat)
  event : Option (MotionGeometryEvent S count)
  candidate : Bool

def PairCache.unexamined {count : Nat} (first second : Fin count) : PairCache S count :=
  ⟨first, second, unexaminedRevision, unexaminedRevision, none, none, false⟩

structure SolverState (S : Type) [Scalar S] (count : Nat) where
  limits : MotionLimits
  work : MotionWorkCounts
  radius : S
  bounds : ArenaBounds S
  now : MotionTime S
  bodies : Fin count → EpochBody S
  pairs : List (PairCache S count)
  walls : Fin count × MotionAxis → Option (MotionGeometryEvent S count)
  paths : List (MotionPathSegment S)
  events : List (MotionEventKey S)
  dirty : Bool

namespace SolverState

variable {count : Nat} (state : SolverState S count)

/-- `pair_index`, the place of a pair among the pairs listed by rows. -/
def pairIndex (first second : Fin count) : Nat :=
  let lower := min first.val second.val
  let higher := max first.val second.val
  lower * (2 * count - lower - 1) / 2 + higher - lower - 1

/-- `at`, a body's subject at a time of its epoch. -/
def subjectAt (index : Fin count) (time : MotionTime S) : Validated (ContactSubject S) :=
  let body := state.bodies index
  if time < body.anchor then
    failMotion .continuousMotionInvalidInput "body evaluation precedes its velocity epoch"
  else if body.subject.2.isStatic || body.disposition = .terminate || time = body.anchor then
    .ok body.subject
  else do
    let elapsed := fixedDeltaSeconds * (time.value - body.anchor.value)
    let displacement ← body.subject.2.velocity.scale elapsed
    let position ← body.subject.2.position.add displacement
    return (body.subject.1, body.subject.2.withPosition position)

def addPath (index : Fin count) (finish : MotionTime S) : Validated (SolverState S count) :=
  let body := state.bodies index
  if body.subject.2.isStatic || finish = body.anchor then .ok state
  else do
    requireMotionBudget (state.paths.length + 1) state.limits.paths "motion path-segment budget exhausted"
    let endpoint ← state.subjectAt index finish
    return { state with paths := state.paths ++
      [⟨body.subject.1, body.anchor, finish, body.subject.2.position, endpoint.2.position⟩] }

section PairEvent

variable [UnitInterval S] (circleQuery : CircleSweepQuery S)

/-- The contact of a pair at one time, unless nobody observes it. -/
def makePairEvent (pair : PairCache S count) (observesTouch : Bool) (time : MotionTime S)
    (impactGeometryAdmitted : Bool) : Validated (Option (MotionGeometryEvent S count)) :=
  if !observesTouch && !impactGeometryAdmitted then .ok none
  else do
    let first ← state.subjectAt pair.first time
    let second ← state.subjectAt pair.second time
    let geometry ← contactGeometry first.2 second.2
    let speed ← relativeSpeed first.2 second.2 geometry.normal
    if !observesTouch && !closing speed then return none
    else do
      let identity ← CandidatePair.create first.1 second.1
      return some ⟨.contact time identity, pair.first, pair.second, geometry.normal, geometry.distance,
        (state.bodies pair.first).revision, (state.bodies pair.second).revision, impactGeometryAdmitted⟩

/-- What is left of a tick to travel; a whole tick where nothing is. -/
def remainingSeconds (begin : MotionTime S) : S :=
  if begin = .finish then fixedDeltaSeconds else fixedDeltaSeconds * (1 - begin.value)

/-- `pair_event`, with the work it charges. -/
def pairEvent (work : MotionWorkCounts) (pair : PairCache S count) :
    Validated (MotionWorkCounts × Option (MotionGeometryEvent S count)) := do
  let begin := max (state.bodies pair.first).anchor (state.bodies pair.second).anchor
  let first ← state.subjectAt pair.first begin
  let second ← state.subjectAt pair.second begin
  let contactDistance ← pairContactDistance first.2 second.2 state.radius
  let observesTouch := (state.bodies pair.first).effectPolicy = .anyTouch ||
    (state.bodies pair.second).effectPolicy = .anyTouch
  let firstVelocity ← geometricVelocity first.2
  let secondVelocity ← geometricVelocity second.2
  let remaining : S := remainingSeconds begin
  let displacement ← Vector2.create ((firstVelocity.x - secondVelocity.x) * remaining)
    ((firstVelocity.y - secondVelocity.y) * remaining)
  let work ← work.chargeRoots state.limits 1
  let query ← circleQuery first.2.position displacement second.2.position contactDistance
  let impactTopology := query.topology ≠ .stationary && query.topology ≠ .tangent
  if query.initialRelation ≠ .outside then do
    let impactGeometry := impactTopology &&
      (query.initialCentersCoincident || query.initialRadialMotion = .approaching)
    return (work, ← state.makePairEvent pair observesTouch begin impactGeometry)
  else if begin = .finish || (query.topology ≠ .secant && query.topology ≠ .tangent) ||
      (!observesTouch && !impactTopology) then
    return (work, none)
  else
    match query.roots with
    | [] => return (work, none)
    | root :: _ => do
        let time ← MotionTime.mapped root begin .finish
        if state.now ≤ time then
          return (work, ← state.makePairEvent pair observesTouch time impactTopology)
        else return (work, none)

end PairEvent

section BroadPhase

structure SweptAabb (S : Type) [Scalar S] (count : Nat) where
  body : Fin count
  minimumX : S
  maximumX : S
  minimumY : S
  maximumY : S

def sweptAabb (index : Fin count) : Validated (SweptAabb S count) := do
  let body := state.bodies index
  let start := body.subject.2.position
  let velocity ← geometricVelocity body.subject.2
  let remaining : S := fixedDeltaSeconds * (1 - body.anchor.value)
  let finishX := start.x + velocity.x * remaining
  let finishY := start.y + velocity.y * remaining
  let extent := effectiveRadius body.subject.2 state.radius
  return ⟨index, min start.x finishX - extent, max start.x finishX + extent, min start.y finishY - extent,
    max start.y finishY + extent⟩

def sweepsBefore (first second : SweptAabb S count) : Prop :=
  first.minimumX < second.minimumX ∨ (first.minimumX = second.minimumX ∧
    (state.bodies first.body).subject.1 ≤ (state.bodies second.body).subject.1)

instance : DecidableRel state.sweepsBefore := fun _ _ => inferInstanceAs (Decidable (_ ∨ (_ ∧ _)))

/-- Whether two swept bodies may meet, past the sweep along x. -/
def meets (first second : SweptAabb S count) : Bool :=
  let firstBody := (state.bodies first.body).subject.2
  let secondBody := (state.bodies second.body).subject.2
  !(firstBody.isStatic && secondBody.isStatic) && collisionMasksAdmit firstBody secondBody &&
    !(first.maximumY < second.minimumY || second.maximumY < first.minimumY)

/-- The counts and the pairs in the middle of a sweep. -/
structure Sweep (S : Type) [Scalar S] (count : Nat) where
  pairExaminations : Nat
  candidateCount : Nat
  pairs : List (PairCache S count)

def Sweep.markCandidate (sweep : Sweep S count) (limits : MotionLimits) (first second : Fin count) :
    Validated (Sweep S count) := do
  requireMotionBudget (sweep.candidateCount + 1) limits.candidatePairs "motion candidate-pair budget exhausted"
  return { sweep with
    candidateCount := sweep.candidateCount + 1
    pairs := sweep.pairs.modify (pairIndex first second) fun pair => { pair with candidate := true } }

/-- One box against the boxes behind it, up to the first that starts beyond it. -/
def sweepRow (first : SweptAabb S count) : List (SweptAabb S count) → Sweep S count →
    Validated (Sweep S count)
  | [], sweep => .ok sweep
  | second :: rest, sweep => do
      requireMotionBudget (sweep.pairExaminations + 1) state.limits.pairExaminations
        "motion broad-phase pair-examination budget exhausted"
      let examined := { sweep with pairExaminations := sweep.pairExaminations + 1 }
      if first.maximumX < second.minimumX then return examined
      else if state.meets first second then do
        sweepRow first rest (← examined.markCandidate state.limits first.body second.body)
      else sweepRow first rest examined

def sweepRows : List (SweptAabb S count) → Sweep S count → Validated (Sweep S count)
  | [], sweep => .ok sweep
  | first :: rest, sweep => do sweepRows rest (← state.sweepRow first rest sweep)

/-- The bodies still in motion, in entity order. -/
def liveIndices : List (Fin count) :=
  (List.finRange count).filter fun index => (state.bodies index).disposition = .continues

/-- The broad phase: every pair whose swept boxes overlap becomes a candidate. -/
def sweepAndPrune : Validated (SolverState S count) := do
  let boxes ← state.liveIndices.mapM state.sweptAabb
  let sweep ← state.sweepRows (boxes.insertionSort state.sweepsBefore)
    ⟨state.work.pairExaminations, 0, state.pairs.map fun pair => { pair with candidate := false }⟩
  return { state with
    work := { state.work with
      pairExaminations := sweep.pairExaminations
      maximumCandidatePairs := max state.work.maximumCandidatePairs sweep.candidateCount }
    pairs := sweep.pairs }

end BroadPhase

end SolverState

/-- How a rebuild marks its candidate pairs. -/
abbrev BroadPhase (S : Type) [Scalar S] (count : Nat) :=
  SolverState S count → Validated (SolverState S count)

end BlobRoyale.Simulation
