import BlobRoyale.Motion.SolverEvents

/-!
# One solve

The loop of `solve_continuous_motion`: each iteration refreshes the triggers, selects the earliest
event of contacts, walls and triggers, and applies it. Callbacks answer or throw.
-/

namespace BlobRoyale.Simulation

open Passes

variable {S : Type} [Scalar S] {Effect Facts : Type}

structure MotionTriggerWindow (S : Type) [Scalar S] where
  motion : AnchoredMotion S
  eligibleFrom : MotionTime S

structure MotionTriggerProposal (S : Type) [Scalar S] where
  time : MotionTime S
  priority : MotionEventPriority

structure MotionTriggerEvent (S : Type) [Scalar S] where
  key : MotionEventKey S
  cursor : Nat

/-- What a trigger query charges to its budget, which shows it nothing of what is left. -/
structure MotionQueryCharges where
  rootQueries : Nat
  triggerQueries : Nat
  deriving DecidableEq, Repr

/-- The charges of one query, as calls of `MotionQueryBudget`. -/
def MotionWorkCounts.chargeQuery (work : MotionWorkCounts) (limits : MotionLimits)
    (charges : MotionQueryCharges) : Validated MotionWorkCounts := do
  let charged ← work.chargeRoots limits charges.rootQueries
  requireMotionBudget (charged.triggerQueries + charges.triggerQueries) limits.triggerQueries
    "motion trigger-query budget exhausted"
  return { charged with triggerQueries := charged.triggerQueries + charges.triggerQueries }

structure MotionTriggerResponse (S : Type) [Scalar S] (Effect : Type) where
  body : MotionBodyResult S
  cursor : Nat
  effects : List Effect

structure MotionTrigger (S : Type) [Scalar S] (Effect Facts : Type) where
  entity : EntityId
  featureBase : Nat
  initialCursor : Nat
  cursorLimit : Nat
  query : GameWorld S → ContactSubject S → MotionTriggerWindow S → TickContext S → Facts → Nat →
    Validated (MotionQueryCharges × Option (MotionTriggerProposal S))
  response : GameWorld S → ContactSubject S → MotionTriggerEvent S → TickContext S → Facts →
    Validated (MotionTriggerResponse S Effect)
  factsOverride : Option Facts

structure PairMotionResponse (S : Type) [Scalar S] (Effect : Type) where
  first : MotionBodyResult S
  second : MotionBodyResult S
  effects : List Effect

structure OrderedMotionEffect (S : Type) [Scalar S] (Effect : Type) where
  event : MotionEventKey S
  effect : Effect

/-- What one solve borrows from its caller. -/
structure MotionProblem (S : Type) [Scalar S] (Effect Facts : Type) where
  world : GameWorld S
  context : TickContext S
  facts : Facts
  pairResponse : GameWorld S → ContactSubject S → ContactSubject S → PairContactObservation S →
    TickContext S → Facts → Validated (PairMotionResponse S Effect)

structure TriggerCache (S : Type) [Scalar S] (Effect Facts : Type) (count : Nat) where
  trigger : MotionTrigger S Effect Facts
  body : Fin count
  cursor : Nat
  revision : Nat
  initialized : Bool
  event : Option (MotionEventKey S)

structure MotionLoop (S : Type) [Scalar S] (Effect Facts : Type) (count : Nat) where
  solver : SolverState S count
  caches : List (TriggerCache S Effect Facts count)
  effects : List (OrderedMotionEffect S Effect)

/-- The event an iteration takes, and where it came from. -/
inductive MotionSelection (S : Type) [Scalar S] (Effect Facts : Type) (count : Nat) where
  | geometry (event : MotionGeometryEvent S count)
  | trigger (index : Nat) (cache : TriggerCache S Effect Facts count) (key : MotionEventKey S)

def MotionSelection.key {count : Nat} : MotionSelection S Effect Facts count → MotionEventKey S
  | geometry event => event.key
  | trigger _ _ key => key

/-- What one iteration comes to. -/
inductive MotionProgress (S : Type) [Scalar S] (Effect Facts : Type) (count : Nat) where
  | finished (final : MotionLoop S Effect Facts count)
  | advanced (key : MotionEventKey S) (next : MotionLoop S Effect Facts count)

/-- `ContinuousMotionResult` of a solve. -/
structure SolvedMotion (S : Type) [Scalar S] (Effect : Type) where
  motion : MotionGeometryResult S
  effects : List (OrderedMotionEffect S Effect)
  triggerCursors : List Nat

namespace MotionTrigger

/-- The features two declarations of one entity name must not meet. -/
def overlaps (trigger other : MotionTrigger S Effect Facts) : Bool :=
  other.entity = trigger.entity && trigger.featureBase ≤ other.featureBase + other.cursorLimit &&
    other.featureBase ≤ trigger.featureBase + trigger.cursorLimit

/-- The facts a trigger's callbacks are handed. -/
def facts (trigger : MotionTrigger S Effect Facts) (shared : Facts) : Facts :=
  trigger.factsOverride.getD shared

end MotionTrigger

namespace MotionLoop

variable {count : Nat}

def bindTrigger (solver : SolverState S count) (caches : List (TriggerCache S Effect Facts count))
    (trigger : MotionTrigger S Effect Facts) : Validated (List (TriggerCache S Effect Facts count)) :=
  if trigger.cursorLimit < trigger.initialCursor || solver.limits.triggerCursor < trigger.cursorLimit ||
      maximumProtocolSafeInteger - trigger.cursorLimit < trigger.featureBase then
    failMotion .continuousMotionInvalidInput "invalid motion trigger callback, cursor, or feature range"
  else if caches.any fun cache => trigger.overlaps cache.trigger then
    failMotion .continuousMotionInvalidInput "motion trigger feature ranges overlap for one entity"
  else do
    let body ← solver.indexOf trigger.entity
    return caches ++ [⟨trigger, body, trigger.initialCursor, 0, false, none⟩]

variable [UnitInterval S] (problem : MotionProblem S Effect Facts)

section Refresh

def proposedEvent (now : MotionTime S) (cache : TriggerCache S Effect Facts count) :
    Option (MotionTriggerProposal S) → Validated (Option (MotionEventKey S))
  | none => .ok none
  | some proposal =>
      if proposal.time < now ||
          (proposal.priority ≠ .supportLoss && proposal.priority ≠ .checkpoint) then
        failMotion .continuousMotionInvalidResponse
          "motion trigger proposed a past time or undeclared priority"
      else do
        let key ← MotionEventKey.boundary proposal.time proposal.priority cache.trigger.entity
          (cache.trigger.featureBase + cache.cursor)
        return some key

def queryTrigger (solver : SolverState S count) (work : MotionWorkCounts)
    (cache : TriggerCache S Effect Facts count) :
    Validated (MotionWorkCounts × TriggerCache S Effect Facts count) := do
  let charged ← work.chargeTrigger solver.limits
  let motion ← solver.anchoredMotion cache.body
  let subject ← solver.subjectAt cache.body solver.now
  let (charges, proposal) ← cache.trigger.query problem.world subject ⟨motion, solver.now⟩ problem.context
    (cache.trigger.facts problem.facts) cache.cursor
  let spent ← charged.chargeQuery solver.limits charges
  let event ← proposedEvent solver.now cache proposal
  return (spent, { cache with
    event := event
    revision := (solver.bodies cache.body).revision
    initialized := true })

/-- Whether a cached trigger still stands, its body's motion unchanged or its event tied to now. -/
def stands (solver : SolverState S count) (cache : TriggerCache S Effect Facts count) : Bool :=
  cache.initialized && (cache.revision = (solver.bodies cache.body).revision ||
    cache.event.any fun key => key.time = solver.now)

def refreshTrigger (solver : SolverState S count) (work : MotionWorkCounts)
    (cache : TriggerCache S Effect Facts count) :
    Validated (MotionWorkCounts × TriggerCache S Effect Facts count) :=
  if solver.terminated cache.body then .ok (work, { cache with event := none })
  else if stands solver cache then .ok (work, cache)
  else queryTrigger problem solver work cache

def refreshTriggers (loop : MotionLoop S Effect Facts count) : Validated (MotionLoop S Effect Facts count) := do
  let (work, caches) ← threadM (refreshTrigger problem loop.solver) loop.solver.work loop.caches
  return { loop with solver := { loop.solver with work := work }, caches := caches }

end Refresh

section Select

/-- A trigger's event, where it is earlier than what is selected. -/
def considerTrigger (index : Nat) (cache : TriggerCache S Effect Facts count)
    (selected : Option (MotionSelection S Effect Facts count)) :
    Option (MotionSelection S Effect Facts count) :=
  match cache.event with
  | none => selected
  | some key =>
      if selected.all fun selection => key < selection.key then some (.trigger index cache key) else selected

def selectTrigger : Nat → List (TriggerCache S Effect Facts count) →
    Option (MotionSelection S Effect Facts count) → Option (MotionSelection S Effect Facts count)
  | _, [], selected => selected
  | index, cache :: rest, selected =>
      selectTrigger (index + 1) rest (considerTrigger index cache selected)

def select (loop : MotionLoop S Effect Facts count) : Option (MotionSelection S Effect Facts count) :=
  selectTrigger 0 loop.caches (loop.solver.nextGeometryEvent.map .geometry)

end Select

section Process

variable (queries : SolverQueries S count)

def appendEffects (loop : MotionLoop S Effect Facts count) (key : MotionEventKey S) (effects : List Effect) :
    Validated (MotionLoop S Effect Facts count) :=
  if loop.solver.limits.effects - loop.effects.length < effects.length then
    failMotion .continuousMotionBudgetExceeded "continuous motion effect budget exhausted"
  else .ok { loop with effects := loop.effects ++ effects.map fun effect => ⟨key, effect⟩ }

/-- A response has to advance its cursor, change its body's velocity, or terminate it. -/
def triggerProgresses (cache : TriggerCache S Effect Facts count) (current : ContactSubject S)
    (response : MotionTriggerResponse S Effect) : Bool :=
  let changesMotion := !current.2.isStatic && response.body.body.velocity ≠ current.2.velocity
  !(response.cursor < cache.cursor || cache.trigger.cursorLimit < response.cursor ||
    (response.cursor = cache.cursor && !changesMotion && response.body.disposition ≠ .terminate))

def processTrigger (loop : MotionLoop S Effect Facts count) (index : Nat)
    (cache : TriggerCache S Effect Facts count) (key : MotionEventKey S) :
    Validated (MotionLoop S Effect Facts count) := do
  let current ← loop.solver.subjectAt cache.body key.time
  let response ← cache.trigger.response problem.world current ⟨key, cache.cursor⟩ problem.context
    (cache.trigger.facts problem.facts)
  if triggerProgresses cache current response then do
    let appended ← loop.appendEffects key response.effects
    let replaced ← appended.solver.replace cache.body response.body
    let solver ← replaced.finishEvent queries none
    return { appended with
      solver := solver
      caches := appended.caches.set index
        { cache with cursor := response.cursor, initialized := false, event := none } }
  else
    failMotion .continuousMotionNoProgress
      "motion trigger must advance its cursor, change velocity, or terminate"

def processContact (loop : MotionLoop S Effect Facts count) (event : MotionGeometryEvent S count)
    (secondIndex : Fin count) (observation : PairContactObservation S) :
    Validated (MotionLoop S Effect Facts count) := do
  let first ← loop.solver.subjectAt event.first event.key.time
  let second ← loop.solver.subjectAt secondIndex event.key.time
  let response ← problem.pairResponse problem.world first second observation problem.context problem.facts
  let appended ← loop.appendEffects event.key response.effects
  let replaced ← appended.solver.replace event.first response.first
  let solver ← replaced.replace secondIndex response.second
  return { appended with solver := solver }

def processGeometry (loop : MotionLoop S Effect Facts count) (event : MotionGeometryEvent S count) :
    Validated (MotionLoop S Effect Facts count) :=
  match event.second with
  | some secondIndex => do
      let (work, observation) ← loop.solver.contact queries.circle event secondIndex
      let charged := { loop with solver := { loop.solver with work := work } }
      let responded ← match observation with
        | some observed => charged.processContact problem event secondIndex observed
        | none => .ok charged
      let solver ← responded.solver.finishEvent queries (some event)
      return { responded with solver := solver }
  | none => do
      let reflected ← loop.solver.reflectWall event
      let solver ← reflected.finishEvent queries none
      return { loop with solver := solver }

def process (loop : MotionLoop S Effect Facts count) :
    MotionSelection S Effect Facts count → Validated (MotionLoop S Effect Facts count)
  | .geometry event => loop.processGeometry problem queries event
  | .trigger index cache key => loop.processTrigger problem queries index cache key

def iterate (loop : MotionLoop S Effect Facts count) : Validated (MotionProgress S Effect Facts count) := do
  let ready ← loop.refreshTriggers problem
  match ready.select with
  | none => return .finished ready
  | some selection => do
      let solver ← ready.solver.beginEvent selection.key
      let next ← { ready with solver := solver }.process problem queries selection
      return .advanced selection.key next

/-- The loop, for at most this many iterations: `none` when they do not suffice. -/
def iterations : Nat → MotionLoop S Effect Facts count → Validated (Option (MotionLoop S Effect Facts count))
  | 0, _ => .ok none
  | fuel + 1, loop => do
      match ← loop.iterate problem queries with
      | .finished final => return some final
      | .advanced _ next => iterations fuel next

end Process

end MotionLoop

section Solve

variable [UnitInterval S]

/-- The solver's queries, at every number of bodies. -/
structure SolverGeometry (S : Type) [Scalar S] where
  circle : CircleSweepQuery S
  broadPhase : ∀ count, BroadPhase S count

def SolverGeometry.queries (geometry : SolverGeometry S) (count : Nat) : SolverQueries S count :=
  ⟨geometry.circle, geometry.broadPhase count⟩

/-- The loop's start: the solver built, its triggers bound. -/
def startMotion (geometry : SolverGeometry S) (input : List (ContactSubject S)) (context : TickContext S)
    (triggers : List (MotionTrigger S Effect Facts)) (limits : MotionLimits)
    (effectPolicies : List (EntityId × ContactEffectPolicy)) :
    Validated (MotionLoop S Effect Facts (SolverState.sortedSubjects input).length) := do
  requireMotionBudget triggers.length limits.triggerDeclarations "motion trigger declaration budget"
  let created ← SolverState.create input context limits effectPolicies
  let solver ← created.rebuild geometry.circle (geometry.broadPhase _)
  let caches ← triggers.foldlM (MotionLoop.bindTrigger solver) []
  return ⟨solver, caches, []⟩

def MotionLoop.solved {count : Nat} (final : MotionLoop S Effect Facts count) :
    Validated (SolvedMotion S Effect) := do
  let motion ← final.solver.finish
  return ⟨motion, final.effects, final.caches.map (·.cursor)⟩

/-- `solve_continuous_motion` within a number of iterations, `none` when they do not suffice. -/
def solveMotionWithin (iterations : Nat) (geometry : SolverGeometry S) (problem : MotionProblem S Effect Facts)
    (input : List (ContactSubject S)) (triggers : List (MotionTrigger S Effect Facts))
    (limits : MotionLimits) (effectPolicies : List (EntityId × ContactEffectPolicy)) :
    Validated (Option (SolvedMotion S Effect)) := do
  let start ← startMotion geometry input problem.context triggers limits effectPolicies
  match ← start.iterations problem (geometry.queries _) iterations with
  | none => return none
  | some final => return some (← final.solved)

end Solve

end BlobRoyale.Simulation
