import BlobRoyale.Library.Passes
import BlobRoyale.Motion.Solver

/-!
# Rebuilding the cached events

After a change of motion the candidate pairs are marked again, and every cached contact and wall is
kept, dropped or computed anew.
-/

namespace BlobRoyale.Simulation

open Passes

variable {S : Type} [Scalar S] [UnitInterval S]

namespace MotionAxis

def component (axis : MotionAxis) (vector : Vector2 S) : S :=
  match axis with
  | x => vector.x
  | y => vector.y

def extent (axis : MotionAxis) (bounds : ArenaBounds S) : S :=
  match axis with
  | x => bounds.width
  | y => bounds.height

def priority : MotionAxis → MotionEventPriority
  | x => .wallX
  | y => .wallY

def vector (axis : MotionAxis) (value : S) : Validated (Vector2 S) :=
  match axis with
  | x => Vector2.create value 0
  | y => Vector2.create 0 value

end MotionAxis

/-- Whether a rebuild keeps a cached event without looking at the motion again. -/
def tiedAt {count : Nat} (now : MotionTime S) (event : Option (MotionGeometryEvent S count)) : Bool :=
  event.any fun cached => cached.key.time = now

namespace SolverState

variable {count : Nat} (state : SolverState S count)

section Walls

/-- Where a center moving at this speed along an axis meets the arena. -/
def wallBoundary (body : PhysicsBody S) (axis : MotionAxis) : S :=
  let reach := effectiveRadius body state.radius
  if axis.component body.velocity < 0 then reach else axis.extent state.bounds - reach

/-- A center at or beyond the wall it moves towards. -/
def overlapsOutward (body : PhysicsBody S) (axis : MotionAxis) : Prop :=
  (axis.component body.velocity < 0 ∧ axis.component body.position ≤ state.wallBoundary body axis) ∨
    (0 < axis.component body.velocity ∧ state.wallBoundary body axis ≤ axis.component body.position)

instance (body : PhysicsBody S) (axis : MotionAxis) : Decidable (state.overlapsOutward body axis) :=
  inferInstanceAs (Decidable ((_ ∧ _) ∨ (_ ∧ _)))

def makeWall (index : Fin count) (axis : MotionAxis) (time : MotionTime S) :
    Validated (MotionGeometryEvent S count) := do
  let subject := (state.bodies index).subject
  let lower := axis.component subject.2.velocity < 0
  let normal ← axis.vector (if lower then 1 else -1)
  let key ← MotionEventKey.boundary time axis.priority subject.1 (if lower then 0 else 1)
  return ⟨key, index, none, normal, 0, 0, 0, false⟩

/-- The first root of an epoch that has not passed. -/
def firstTimeFrom (now anchor : MotionTime S) : List (MotionTime S) → Validated (Option (MotionTime S))
  | [] => .ok none
  | root :: rest => do
      let time ← MotionTime.mapped root anchor .finish
      if now ≤ time then return some time else firstTimeFrom now anchor rest

/-- The wall a live folding body meets next on an axis. -/
def nextWall (work : MotionWorkCounts) (index : Fin count) (axis : MotionAxis) :
    Validated (MotionWorkCounts × Option (MotionGeometryEvent S count)) := do
  let epoch := state.bodies index
  let body := epoch.subject.2
  let speed := axis.component body.velocity
  if speed = 0 then return (work, none)
  else if state.overlapsOutward body axis then do
    let time ← MotionTime.mapped .start epoch.anchor .finish
    return (work, some (← state.makeWall index axis time))
  else do
    let work ← work.chargeRoots state.limits 1
    let roots ← sweptLineBoundaryRoots (axis.component body.position)
      (speed * (fixedDeltaSeconds * (1 - epoch.anchor.value))) (state.wallBoundary body axis)
    match ← firstTimeFrom state.now epoch.anchor roots with
    | none => return (work, none)
    | some time => return (work, some (← state.makeWall index axis time))

def folds (index : Fin count) : Bool :=
  let epoch := state.bodies index
  !(epoch.disposition = .terminate || epoch.subject.2.isStatic || epoch.subject.2.crossesBounds)

def refreshWall (work : MotionWorkCounts) (place : Fin count × MotionAxis)
    (cached : Option (MotionGeometryEvent S count)) :
    Validated (MotionWorkCounts × Option (MotionGeometryEvent S count)) :=
  if !state.folds place.1 then .ok (work, none)
  else if tiedAt state.now cached then .ok (work, cached)
  else state.nextWall work place.1 place.2

def wallPlaces : List (Fin count × MotionAxis) :=
  (List.finRange count).flatMap fun index => [(index, .x), (index, .y)]

end Walls

section Pairs

variable (circleQuery : CircleSweepQuery S)

def refreshedEvent (work : MotionWorkCounts) (pair : PairCache S count) :
    Validated (MotionWorkCounts × Option (MotionGeometryEvent S count)) :=
  let first := state.bodies pair.first
  let second := state.bodies pair.second
  if !(first.disposition = .continues && second.disposition = .continues) ||
      pair.suppressed = some (first.revision, second.revision) then .ok (work, none)
  else if tiedAt state.now pair.event then .ok (work, pair.event)
  else if !pair.candidate then .ok (work, none)
  else if pair.firstRevision ≠ first.revision || pair.secondRevision ≠ second.revision then
    state.pairEvent circleQuery work pair
  else .ok (work, pair.event)

def refreshPair (work : MotionWorkCounts) (pair : PairCache S count) :
    Validated (MotionWorkCounts × PairCache S count) := do
  let (work, event) ← state.refreshedEvent circleQuery work pair
  return (work, { pair with
    event := event
    firstRevision := (state.bodies pair.first).revision
    secondRevision := (state.bodies pair.second).revision })

def refreshCaches : Validated (SolverState S count) := do
  let (work, pairs) ← threadM (state.refreshPair circleQuery) state.work state.pairs
  let (work, walls) ← updateM state.refreshWall work state.walls wallPlaces
  return { state with work := work, pairs := pairs, walls := walls, dirty := false }

def rebuild (broadPhase : BroadPhase S count) : Validated (SolverState S count) :=
  if !state.dirty then .ok state
  else do
    let marked ← broadPhase { state with
      work := { state.work with broadPhaseRebuilds := state.work.broadPhaseRebuilds + 1 } }
    marked.refreshCaches circleQuery

end Pairs

end SolverState

end BlobRoyale.Simulation

/-!
# The solver's operations

Building a solver over a tick's bodies, choosing its next geometry event, and the operations one
event goes through: it begins, bodies are replaced or reflected, and the caches are rebuilt.
-/

namespace BlobRoyale.Simulation

variable {S : Type} [Scalar S] [UnitInterval S]

/-- What the solver asks of geometry and of the broad phase. -/
structure SolverQueries (S : Type) [Scalar S] (count : Nat) where
  circle : CircleSweepQuery S
  broadPhase : BroadPhase S count

structure MotionResolvedBody (S : Type) [Scalar S] where
  entity : EntityId
  result : MotionBodyResult S

structure MotionGeometryResult (S : Type) [Scalar S] where
  bodies : List (MotionResolvedBody S)
  paths : List (MotionPathSegment S)
  events : List (MotionEventKey S)
  work : MotionWorkCounts

/-- One body's velocity epoch; the displacement spans what is left of the tick. -/
structure AnchoredMotion (S : Type) [Scalar S] where
  subject : ContactSubject S
  begin : MotionTime S
  displacement : Vector2 S

namespace SolverState

variable {count : Nat}

section Creation

def EpochBody.atStart (subject : ContactSubject S) : EpochBody S :=
  ⟨subject, .start, 0, .continues, .closingImpact⟩

/-- The checks of one body, behind the body before it. -/
def validateBodies (bounds : ArenaBounds S) (radius : S) : Option EntityId → List (ContactSubject S) →
    Validated Unit
  | _, [] => .ok ()
  | previous, subject :: rest =>
      if previous = some subject.1 then
        failMotion .continuousMotionInvalidInput "duplicate motion body identity"
      else
        match motionBodyEnvelopeViolation subject.2 bounds radius with
        | some .staticOutsideEnvelope =>
            failMotion .continuousMotionInvalidInput "static motion geometry lies outside the envelope"
        | some .foldingBodyDoesNotFitEnvelope =>
            failMotion .continuousMotionInvalidInput "folding motion body does not fit its envelope"
        | none => validateBodies bounds radius (some subject.1) rest

/-- `index_of`. -/
def indexOf (state : SolverState S count) (entity : EntityId) : Validated (Fin count) :=
  match (List.finRange count).find? fun index => (state.bodies index).subject.1 = entity with
  | some index => .ok index
  | none => failMotion .continuousMotionInvalidInput "motion declaration names an absent body"

/-- Policies assigned so far, and the bodies that have one. -/
def assignPolicy (pass : SolverState S count × List (Fin count))
    (policy : EntityId × ContactEffectPolicy) : Validated (SolverState S count × List (Fin count)) := do
  let index ← pass.1.indexOf policy.1
  if index ∈ pass.2 then
    failMotion .continuousMotionInvalidInput "duplicate motion contact effect policy identity"
  else
    let assigned := { pass.1.bodies index with effectPolicy := policy.2 }
    return ({ pass.1 with bodies := Function.update pass.1.bodies index assigned }, index :: pass.2)

def allPairs (count : Nat) : List (PairCache S count) :=
  (List.finRange count).flatMap fun first =>
    ((List.finRange count).filter fun second => first < second).map (PairCache.unexamined first)

def sortedSubjects (input : List (ContactSubject S)) : List (ContactSubject S) :=
  input.insertionSort fun first second => first.1 ≤ second.1

def unbuilt (input : List (ContactSubject S)) (context : TickContext S) (limits : MotionLimits) :
    SolverState S (sortedSubjects input).length where
  limits := limits
  work := .none
  radius := context.simulationConfig.playerRadius
  bounds := context.map.bounds
  now := .start
  bodies index := EpochBody.atStart ((sortedSubjects input).get index)
  pairs := allPairs _
  walls _ := none
  paths := []
  events := []
  dirty := true

/-- `ContinuousMotionSolver`, up to its first rebuild. -/
def create (input : List (ContactSubject S)) (context : TickContext S) (limits : MotionLimits)
    (effectPolicies : List (EntityId × ContactEffectPolicy)) :
    Validated (SolverState S (sortedSubjects input).length) := do
  limits.validate
  requireMotionBudget input.length limits.bodies "motion body budget exhausted"
  let state := unbuilt input context limits
  validateBodies state.bounds state.radius none (sortedSubjects input)
  if (sortedSubjects input).length < effectPolicies.length then
    failMotion .continuousMotionInvalidInput "motion effect policies exceed the number of bodies"
  else do
    let (assigned, _) ← effectPolicies.foldlM assignPolicy (state, [])
    return assigned

end Creation

section Events

variable (state : SolverState S count)

/-- The earlier of two cached events; the first stays on a tie. -/
def earlierEvent (next : Option (MotionGeometryEvent S count)) (event : Option (MotionGeometryEvent S count)) :
    Option (MotionGeometryEvent S count) :=
  match next, event with
  | next, none => next
  | none, some event => some event
  | some kept, some event => if event.key < kept.key then some event else some kept

/-- `next_geometry_event`: pairs first, then walls. -/
def nextGeometryEvent : Option (MotionGeometryEvent S count) :=
  wallPlaces.foldl (fun next place => earlierEvent next (state.walls place))
    (state.pairs.foldl (fun next pair => earlierEvent next pair.event) none)

def anchoredMotion (index : Fin count) : Validated (AnchoredMotion S) := do
  let body := state.bodies index
  let velocity ← geometricVelocity body.subject.2
  let displacement ← velocity.scale (fixedDeltaSeconds * (1 - body.anchor.value))
  return ⟨body.subject, body.anchor, displacement⟩

def terminated (index : Fin count) : Bool := (state.bodies index).disposition = .terminate

/-- Whether a certificate's impact is still admitted by the bodies' current motion. -/
def impactAdmitted (circleQuery : CircleSweepQuery S) (event : MotionGeometryEvent S count)
    (secondIndex : Fin count) (first second : ContactSubject S) : Validated (MotionWorkCounts × Bool) :=
  if event.firstMotionRevision = (state.bodies event.first).revision ∧
      event.secondMotionRevision = (state.bodies secondIndex).revision then
    .ok (state.work, event.impactGeometryAdmitted)
  else do
    let firstVelocity ← geometricVelocity first.2
    let secondVelocity ← geometricVelocity second.2
    let reference ← Vector2.create ((firstVelocity.x - secondVelocity.x) * fixedDeltaSeconds)
      ((firstVelocity.y - secondVelocity.y) * fixedDeltaSeconds)
    let work ← state.work.chargeRoots state.limits 1
    let distance ← pairContactDistance first.2 second.2 state.radius
    let query ← circleQuery first.2.position reference second.2.position distance
    return (work, query.initialCentersCoincident || query.initialRadialMotion = .approaching)

/-- `contact`: what may be made of a selected pair event, if anything. -/
def contact (circleQuery : CircleSweepQuery S) (event : MotionGeometryEvent S count)
    (secondIndex : Fin count) : Validated (MotionWorkCounts × Option (PairContactObservation S)) := do
  let first ← state.subjectAt event.first event.key.time
  let second ← state.subjectAt secondIndex event.key.time
  let (work, geometryAdmitted) ← state.impactAdmitted circleQuery event secondIndex first second
  let speed ← relativeSpeed first.2 second.2 event.normal
  let admitted := geometryAdmitted && closing speed
  let firstEligible := admitted || (state.bodies event.first).effectPolicy = .anyTouch
  let secondEligible := admitted || (state.bodies secondIndex).effectPolicy = .anyTouch
  if !firstEligible && !secondEligible then return (work, none)
  else do
    let touch ← PlayerPairContact.certified event.normal event.centerDistance speed
    return (work, some ⟨touch, if admitted then some touch else none, firstEligible, secondEligible⟩)

def beginEvent (key : MotionEventKey S) : Validated (SolverState S count) :=
  if key.time < state.now then
    failMotion .continuousMotionNoProgress "motion event time moved backward"
  else do
    requireMotionBudget (state.work.events + 1) state.limits.events "motion event budget exhausted"
    return { state with
      work := { state.work with events := state.work.events + 1 }
      now := key.time
      events := state.events ++ [key] }

/-- Whether a replacement keeps everything but velocity and acceleration. -/
def keepsGeometry (current : PhysicsBody S) (replacement : PhysicsBody S) : Prop :=
  (current.withVelocity replacement.velocity).withAcceleration replacement.acceleration = replacement

instance (current replacement : PhysicsBody S) : Decidable (keepsGeometry current replacement) :=
  inferInstanceAs (Decidable (_ = _))

def replace (index : Fin count) (replacement : MotionBodyResult S) : Validated (SolverState S count) := do
  let epoch := state.bodies index
  let current ← state.subjectAt index state.now
  if keepsGeometry current.2 replacement.body then
    let changesVelocity := !current.2.isStatic && current.2.velocity ≠ replacement.body.velocity
    if changesVelocity || replacement.disposition = .terminate then do
      let moved ← state.addPath index state.now
      return { moved with
        bodies := Function.update moved.bodies index { epoch with
          subject := (epoch.subject.1, replacement.body)
          anchor := state.now
          revision := epoch.revision + 1
          disposition := replacement.disposition }
        dirty := true }
    else
      let kept := (epoch.subject.2.withVelocity replacement.body.velocity).withAcceleration
        replacement.body.acceleration
      return { state with
        bodies := Function.update state.bodies index { epoch with subject := (epoch.subject.1, kept) } }
  else
    failMotion .continuousMotionInvalidResponse
      "motion response changed position, geometry, mass, or collision capabilities"

def reflected (axis : MotionAxis) (velocity : Vector2 S) : Validated (Vector2 S) :=
  match axis with
  | .x => Vector2.create (-velocity.x) velocity.y
  | .y => Vector2.create velocity.x (-velocity.y)

def eventAxis (key : MotionEventKey S) : MotionAxis :=
  if key.priority = .wallX then .x else .y

def reflectWall (event : MotionGeometryEvent S count) : Validated (SolverState S count) := do
  let axis := eventAxis event.key
  let consumed := { state with
    walls := Function.update state.walls (event.first, axis) none
    dirty := true }
  let current ← consumed.subjectAt event.first consumed.now
  if 0 ≤ current.2.velocity.dot event.normal then return consumed
  else do
    let velocity ← reflected axis current.2.velocity
    consumed.replace event.first ⟨current.2.withVelocity velocity, .continues⟩

/-- The pair of a processed event is suppressed until a motion changes. -/
def suppressPair (event : MotionGeometryEvent S count) (secondIndex : Fin count) : SolverState S count :=
  { state with
    pairs := state.pairs.modify (pairIndex event.first secondIndex) fun pair => { pair with
      suppressed := some ((state.bodies event.first).revision, (state.bodies secondIndex).revision)
      event := none } }

def finishEvent (queries : SolverQueries S count) (processedPair : Option (MotionGeometryEvent S count)) :
    Validated (SolverState S count) :=
  match processedPair with
  | none => state.rebuild queries.circle queries.broadPhase
  | some event =>
      match event.second with
      | none => state.rebuild queries.circle queries.broadPhase
      | some secondIndex =>
          (state.suppressPair event secondIndex).rebuild queries.circle queries.broadPhase

def resolveBody (pass : SolverState S count × List (MotionResolvedBody S)) (index : Fin count) :
    Validated (SolverState S count × List (MotionResolvedBody S)) := do
  let body := pass.1.bodies index
  let moved ← if body.disposition = .continues then pass.1.addPath index .finish else .ok pass.1
  let final ← moved.subjectAt index .finish
  return (moved, pass.2 ++ [⟨body.subject.1, ⟨final.2, body.disposition⟩⟩])

/-- `ContinuousMotionSolver::finish`. -/
def finish : Validated (MotionGeometryResult S) := do
  let (moved, bodies) ← (List.finRange count).foldlM resolveBody (state, [])
  return ⟨bodies, moved.paths, moved.events, moved.work⟩

end Events

end SolverState

end BlobRoyale.Simulation
