import Mathlib.Logic.Relation
import BlobRoyale.Library.NormalImpulse
import BlobRoyale.Motion.ExactMotion
import BlobRoyale.Motion.PairCollision
import BlobRoyale.Motion.SolverStart

/-!
# Impulse laws

The two collision equations in exact real arithmetic: what the general one conserves, returns and dissipates, and
that it is the equal-mass one on baseline bodies.
-/

namespace BlobRoyale.Simulation

open Impulse

theorem requireFiniteResult_real (value : ℝ) (context : String) : requireFiniteResult value context = .ok value := by
  rw [requireFiniteResult, if_pos (isFinite_real value), Scalar.normalizeSignedZero_eq]

def Vector2.pair (vector : Vector2 ℝ) : ℝ × ℝ := (vector.x, vector.y)

theorem Vector2.create_eq_ok_iff {x y : ℝ} {vector : Vector2 ℝ} :
    Vector2.create x y = .ok vector ↔ vector.pair = (x, y) := by
  rw [Vector2.create, createForOperation_eq_ok_iff, pair, Prod.mk.injEq]

/-- A contact measured on a pair, with an exactly unit normal. -/
structure PlayerPairContact.Certifies (contact : PlayerPairContact ℝ) (first second : PhysicsBody ℝ) : Prop where
  unit : square contact.normal.pair = 1
  speed : relativeSpeed first second contact.normal = .ok contact.relativeNormalSpeed

section Collision

variable {first second : PhysicsBody ℝ} {contact : PlayerPairContact ℝ} {result : PlayerPairCollisionResult ℝ}

theorem relativeSpeed_dynamic {normal : Vector2 ℝ} (firstDynamic : first.isStatic = false)
    (secondDynamic : second.isStatic = false) : relativeSpeed first second normal =
      .ok (separation normal.pair first.velocity.pair second.velocity.pair) := by
  have measured : (second.velocity.x - first.velocity.x) * normal.x + (second.velocity.y - first.velocity.y) * normal.y =
      separation normal.pair first.velocity.pair second.velocity.pair := by
    simp only [separation, along, Vector2.pair]
    ring
  rw [← measured, relativeSpeed, geometricVelocity, geometricVelocity, firstDynamic, secondDynamic]
  rfl

theorem PlayerPairContact.Certifies.speed_eq (certified : contact.Certifies first second)
    (firstDynamic : first.isStatic = false) (secondDynamic : second.isStatic = false) :
    contact.relativeNormalSpeed = separation contact.normal.pair first.velocity.pair second.velocity.pair :=
  Except.ok.inj (certified.speed.symm.trans (relativeSpeed_dynamic firstDynamic secondDynamic))

noncomputable def generalImpulse (first second : PhysicsBody ℝ) (speed : ℝ) : ℝ :=
  bounce first.mass second.mass (min first.restitution second.restitution) speed

theorem resolveGeneral_real (resolves : resolvesNothing contact = false) :
    resolveGeneralPairCollision first second contact = do
      let firstVelocity ← Vector2.create
        (first.velocity.x - generalImpulse first second contact.relativeNormalSpeed / first.mass * contact.normal.x)
        (first.velocity.y - generalImpulse first second contact.relativeNormalSpeed / first.mass * contact.normal.y)
      let secondVelocity ← Vector2.create
        (second.velocity.x + generalImpulse first second contact.relativeNormalSpeed / second.mass * contact.normal.x)
        (second.velocity.y + generalImpulse first second contact.relativeNormalSpeed / second.mass * contact.normal.y)
      return ⟨contact, true, firstVelocity, secondVelocity⟩ := by
  rw [resolveGeneralPairCollision, if_neg (Bool.eq_false_iff.mp resolves)]
  simp only [requireFiniteResult_real]
  rfl

theorem resolvePlayer_real (resolves : resolvesNothing contact = false) :
    resolvePlayerPairCollision first second contact = do
      let firstVelocity ← Vector2.create
        (first.velocity.x + separation contact.normal.pair first.velocity.pair second.velocity.pair * contact.normal.x)
        (first.velocity.y + separation contact.normal.pair first.velocity.pair second.velocity.pair * contact.normal.y)
      let secondVelocity ← Vector2.create
        (second.velocity.x + separation contact.normal.pair second.velocity.pair first.velocity.pair * contact.normal.x)
        (second.velocity.y + separation contact.normal.pair second.velocity.pair first.velocity.pair * contact.normal.y)
      return ⟨contact, true, firstVelocity, secondVelocity⟩ := by
  rw [resolvePlayerPairCollision, if_neg (Bool.eq_false_iff.mp resolves)]
  simp only [requireFiniteResult_real]
  rfl

theorem resolveGeneral_pushed (resolves : resolvesNothing contact = false)
    (resolved : resolveGeneralPairCollision first second contact = .ok result) :
    result.firstVelocity.pair = pushed contact.normal.pair first.velocity.pair
        (-(generalImpulse first second contact.relativeNormalSpeed / first.mass)) ∧
      result.secondVelocity.pair = pushed contact.normal.pair second.velocity.pair
        (generalImpulse first second contact.relativeNormalSpeed / second.mass) := by
  rw [resolveGeneral_real resolves] at resolved
  obtain ⟨firstVelocity, firstCreated, rest⟩ := bind_eq_ok.mp resolved
  obtain ⟨secondVelocity, secondCreated, rest⟩ := bind_eq_ok.mp rest
  cases rest
  refine ⟨(Vector2.create_eq_ok_iff.mp firstCreated).trans ?_, Vector2.create_eq_ok_iff.mp secondCreated⟩
  rw [pushed, neg_mul, neg_mul, ← sub_eq_add_neg, ← sub_eq_add_neg]
  rfl

theorem PhysicsBody.mass_pos (dynamic : first.isStatic = false) : 0 < first.mass := by
  obtain ⟨-, nonnegative, massless, -⟩ := first.massAdmitted
  refine lt_of_le_of_ne nonnegative fun zero => ?_
  rw [massless zero.symm] at dynamic
  cases dynamic

/-- What an impulse keeps and what it does to the normal motion. -/
structure ImpulseLaws (first second : PhysicsBody ℝ) (normal : Vector2 ℝ) (speed : ℝ)
    (firstVelocity secondVelocity : Vector2 ℝ) : Prop where
  momentumX : first.mass * firstVelocity.x + second.mass * secondVelocity.x =
    first.mass * first.velocity.x + second.mass * second.velocity.x
  momentumY : first.mass * firstVelocity.y + second.mass * secondVelocity.y =
    first.mass * first.velocity.y + second.mass * second.velocity.y
  firstTangential : across normal.pair firstVelocity.pair = across normal.pair first.velocity.pair
  secondTangential : across normal.pair secondVelocity.pair = across normal.pair second.velocity.pair
  restitution : separation normal.pair firstVelocity.pair secondVelocity.pair =
    -min first.restitution second.restitution * speed
  dissipation : energy first.mass second.mass firstVelocity.pair secondVelocity.pair ≤
    energy first.mass second.mass first.velocity.pair second.velocity.pair

theorem impulseLaws_of_resolveGeneral (firstDynamic : first.isStatic = false) (secondDynamic : second.isStatic = false)
    (certified : contact.Certifies first second) (resolves : resolvesNothing contact = false)
    (resolved : resolveGeneralPairCollision first second contact = .ok result) :
    ImpulseLaws first second contact.normal contact.relativeNormalSpeed result.firstVelocity result.secondVelocity := by
  obtain ⟨firstPushed, secondPushed⟩ := resolveGeneral_pushed resolves resolved
  have firstMassive := first.mass_pos firstDynamic
  have secondMassive := second.mass_pos secondDynamic
  have weighted := weight_pos firstMassive secondMassive
  have measured := certified.speed_eq firstDynamic secondDynamic
  obtain ⟨momentumX, momentumY⟩ := @exchange_momentum ℝ _ contact.normal.pair first.velocity.pair second.velocity.pair
    first.mass second.mass (generalImpulse first second contact.relativeNormalSpeed) firstMassive.ne' secondMassive.ne'
  rw [← firstPushed, ← secondPushed] at momentumX momentumY
  refine ⟨momentumX, momentumY, ?_, ?_, ?_, ?_⟩
  · rw [firstPushed, across_pushed]
  · rw [secondPushed, across_pushed]
  · rw [firstPushed, secondPushed, measured]
    exact bounce_separation certified.unit weighted.ne'
  · rw [firstPushed, secondPushed, measured]
    exact bounce_energy_le certified.unit firstMassive secondMassive
      (le_min first.restitutionAdmitted.2.1 second.restitutionAdmitted.2.1)
      (min_le_of_left_le first.restitutionAdmitted.2.2)

theorem baseline_values {body : PhysicsBody ℝ} (baseline : bodyHasBaselinePhysics body = true) :
    body.mass = 1 ∧ body.restitution = 1 := by
  obtain ⟨mass, restitution⟩ := Bool.and_eq_true_iff.mp baseline
  exact ⟨of_decide_eq_true mass, of_decide_eq_true restitution⟩

theorem generalImpulse_baseline (firstBaseline : bodyHasBaselinePhysics first = true)
    (secondBaseline : bodyHasBaselinePhysics second = true) {speed : ℝ} :
    generalImpulse first second speed / first.mass = -speed ∧ generalImpulse first second speed / second.mass = -speed := by
  obtain ⟨firstMass, firstRestitution⟩ := baseline_values firstBaseline
  obtain ⟨secondMass, secondRestitution⟩ := baseline_values secondBaseline
  rw [generalImpulse, bounce, firstMass, secondMass, firstRestitution, secondRestitution, min_self]
  constructor <;> ring

theorem resolveGeneral_baseline (measured : contact.relativeNormalSpeed =
      separation contact.normal.pair first.velocity.pair second.velocity.pair)
    (firstBaseline : bodyHasBaselinePhysics first = true) (secondBaseline : bodyHasBaselinePhysics second = true) :
    resolveGeneralPairCollision first second contact = resolvePlayerPairCollision first second contact := by
  cases resolves : resolvesNothing contact with
  | true => rw [resolveGeneralPairCollision, resolvePlayerPairCollision, if_pos resolves, if_pos resolves]
  | false =>
    obtain ⟨firstDelta, secondDelta⟩ := @generalImpulse_baseline first second firstBaseline secondBaseline
      contact.relativeNormalSpeed
    have swapped : separation contact.normal.pair second.velocity.pair first.velocity.pair =
        -separation contact.normal.pair first.velocity.pair second.velocity.pair := by
      simp only [separation, neg_sub]
    rw [resolveGeneral_real resolves, resolvePlayer_real resolves, firstDelta, secondDelta, measured, swapped]
    simp only [neg_mul, sub_neg_eq_add]

theorem resolves_of_closes (touches : contact.isContact = true)
    (closes : closing contact.relativeNormalSpeed = true) : resolvesNothing contact = false := by
  rw [closing, Bool.not_eq_true'] at closes
  rw [resolvesNothing, touches, closes]
  rfl

theorem impulse_laws (firstDynamic : first.isStatic = false) (secondDynamic : second.isStatic = false)
    (certified : contact.Certifies first second) :
    (contact.isContact = true → closing contact.relativeNormalSpeed = true →
      ∀ result, resolveGeneralPairCollision first second contact = .ok result →
        ImpulseLaws first second contact.normal contact.relativeNormalSpeed result.firstVelocity
          result.secondVelocity) ∧
    (bodyHasBaselinePhysics first = true → bodyHasBaselinePhysics second = true →
      resolveGeneralPairCollision first second contact = resolvePlayerPairCollision first second contact) := by
  refine ⟨fun touches closes result resolved => ?_, ?_⟩
  · exact impulseLaws_of_resolveGeneral firstDynamic secondDynamic certified (resolves_of_closes touches closes) resolved
  · exact resolveGeneral_baseline (certified.speed_eq firstDynamic secondDynamic)

end Collision

section HeadOn

theorem validComponent_unit {value : ℝ} (lower : -1 ≤ value) (upper : value ≤ 1) : ValidComponent value :=
  validComponent_real.mpr ⟨by linarith, by linarith⟩

theorem validComponent_zero_real : ValidComponent (0 : ℝ) := validComponent_unit (by norm_num) zero_le_one

/-- A vector along the first axis, no longer than one. -/
noncomputable def eastward (length : ℝ) (lower : -1 ≤ length) (upper : length ≤ 1) : Vector2 ℝ :=
  ⟨length, 0, validComponent_unit lower upper, validComponent_zero_real⟩

theorem neg_one_le_one : (-1 : ℝ) ≤ 1 := by norm_num

noncomputable def east : Vector2 ℝ := eastward 1 neg_one_le_one (le_refl 1)

noncomputable def west : Vector2 ℝ := eastward (-1) (le_refl (-1)) neg_one_le_one

theorem admittedMass_unit : AdmittedMass (1 : ℝ) false :=
  ⟨rfl, zero_le_one, fun zero => absurd zero one_ne_zero, by rw [maximumPhysicalComponentMagnitude_real]; norm_num⟩

theorem admittedRestitution_elastic : AdmittedRestitution (1 : ℝ) := ⟨rfl, zero_le_one, le_refl 1⟩

theorem admittedDragScale_full : AdmittedDragScale (1 : ℝ) := ⟨rfl, zero_le_one⟩

noncomputable def baselineBody (velocity : Vector2 ℝ) : PhysicsBody ℝ :=
  ⟨east, velocity, east, 1, 1, 1, 1, 1, 1, false, .fold, .floating, admittedMass_unit, admittedRestitution_elastic,
    admittedDragScale_full⟩

/-- A contact of two bodies, the second to the east of the first. -/
noncomputable def eastContact (speed : ℝ) : PlayerPairContact ℝ := ⟨true, east, 1, speed⟩

theorem eastContact_certifies {first second : Vector2 ℝ} :
    (eastContact (second.x - first.x)).Certifies (baselineBody first) (baselineBody second) := by
  refine ⟨?_, ?_⟩
  · simp only [eastContact, east, eastward, Vector2.pair, square]
    norm_num
  · rw [relativeSpeed_dynamic rfl rfl]
    simp only [separation, along, eastContact, east, eastward, Vector2.pair, baselineBody]
    congr 1
    ring

theorem velocityTolerance_real : (velocityTolerance : ℝ) = 1 / 1000000000 := by
  unfold velocityTolerance
  norm_num

theorem relativeTolerance_real : (relativeTolerance : ℝ) = 1 / 1000000000000 := by
  unfold relativeTolerance
  norm_num

theorem nonClosing_real {speed : ℝ} : greaterThanOrApproximatelyEqual speed 0 velocityTolerance = true ↔
    -(1 / 1000000000) ≤ speed * (1 - 1 / 1000000000000) := by
  have magnitude (value : ℝ) : Scalar.abs value = |value| := rfl
  rw [greaterThanOrApproximatelyEqual, Bool.or_eq_true, decide_eq_true_iff, approximatelyEqual, decide_eq_true_iff,
    comparisonTolerance, velocityTolerance_real, relativeTolerance_real, magnitude, magnitude, magnitude, sub_zero,
    abs_zero, max_eq_left (abs_nonneg speed)]
  obtain negative | positive := le_or_gt speed 0
  · rw [abs_of_nonpos negative]
    constructor
    · rintro (ahead | near)
      · linarith
      · linarith
    · intro bound
      exact .inr (by linarith)
  · exact iff_of_true (.inl positive) (by nlinarith)

theorem impulse_laws_head_on : ∃ result,
    resolveGeneralPairCollision (baselineBody east) (baselineBody west) (eastContact (west.x - east.x)) = .ok result ∧
      ImpulseLaws (baselineBody east) (baselineBody west) east (west.x - east.x) result.firstVelocity
        result.secondVelocity := by
  have closes : closing (eastContact (west.x - east.x)).relativeNormalSpeed = true := by
    rw [closing, Bool.not_eq_true', Bool.eq_false_iff, Ne, nonClosing_real]
    simp only [eastContact, east, west, eastward]
    norm_num
  have baseline (velocity : Vector2 ℝ) : bodyHasBaselinePhysics (baselineBody velocity) = true :=
    Bool.and_eq_true_iff.mpr ⟨decide_eq_true rfl, decide_eq_true rfl⟩
  have laws := impulse_laws (show (baselineBody east).isStatic = false from rfl)
    (show (baselineBody west).isStatic = false from rfl) eastContact_certifies
  have returned : resolvePlayerPairCollision (baselineBody east) (baselineBody west)
      (eastContact (west.x - east.x)) = .ok ⟨eastContact (west.x - east.x), true, west, east⟩ := by
    rw [resolvePlayer_real (resolves_of_closes rfl closes)]
    refine bind_eq_ok.mpr ⟨west, Vector2.create_eq_ok_iff.mpr ?_, bind_eq_ok.mpr ⟨east, Vector2.create_eq_ok_iff.mpr ?_, rfl⟩⟩
    · simp only [Vector2.pair, separation, along, baselineBody, eastContact, east, west, eastward]
      norm_num
    · simp only [Vector2.pair, separation, along, baselineBody, eastContact, east, west, eastward]
      norm_num
  have resolved := (laws.2 (baseline east) (baseline west)).trans returned
  exact ⟨_, resolved, laws.1 rfl closes _ resolved⟩

end HeadOn

end BlobRoyale.Simulation

/-!
# The solver's moves

What one operation of a solve may do to the solver's state. An iteration of the loop is a sequence of
such moves, so what every move keeps, every solve keeps.
-/

namespace BlobRoyale.Simulation

open Passes SolverState Relation

variable {S : Type} [Scalar S] [UnitInterval S] {Effect Facts : Type} {count : Nat}

inductive SolverMove (queries : SolverQueries S count) (state : SolverState S count) : SolverState S count → Prop
  | worked (work : MotionWorkCounts) : SolverMove queries state { state with work := work }
  | begun (key : MotionEventKey S) (next : SolverState S count) (clean : state.dirty = false)
      (begins : state.beginEvent key = .ok next) : SolverMove queries state next
  | replaced (index : Fin count) (replacement : MotionBodyResult S) (next : SolverState S count)
      (live : (state.bodies index).disposition = .continues)
      (replaces : state.replace index replacement = .ok next) : SolverMove queries state next
  | consumed (place : Fin count × MotionAxis) : SolverMove queries state
      { state with walls := Function.update state.walls place none, dirty := true }
  | suppressed (event : MotionGeometryEvent S count) (secondIndex : Fin count) :
      SolverMove queries state (state.suppressPair event secondIndex)
  | rebuilt (next : SolverState S count) (rebuilds : state.rebuild queries.circle queries.broadPhase = .ok next) :
      SolverMove queries state next

/-- The states a sequence of moves leads to. -/
abbrev SolverMoves (queries : SolverQueries S count) : SolverState S count → SolverState S count → Prop :=
  ReflTransGen (SolverMove queries)

theorem SolverMoves.preserves {queries : SolverQueries S count} {P : SolverState S count → Prop}
    {before after : SolverState S count} (moves : SolverMoves queries before after)
    (preserved : ∀ state next, P state → SolverMove queries state next → P next) (holds : P before) : P after := by
  induction moves with
  | refl => exact holds
  | tail _ move ih => exact preserved _ _ ih move

namespace SolverState

variable {queries : SolverQueries S count} {state next : SolverState S count}

theorem finishEvent_moves {processed : Option (MotionGeometryEvent S count)}
    (finished : state.finishEvent queries processed = .ok next) : SolverMoves queries state next := by
  unfold finishEvent at finished
  split at finished
  · exact .single (.rebuilt next finished)
  · next event =>
    split at finished
    · exact .single (.rebuilt next finished)
    · next secondIndex _ => exact .head (.suppressed event secondIndex) (.single (.rebuilt next finished))

theorem reflectWall_moves {event : MotionGeometryEvent S count}
    (live : (state.bodies event.first).disposition = .continues)
    (reflected : state.reflectWall event = .ok next) : SolverMoves queries state next := by
  unfold reflectWall at reflected
  dsimp only at reflected
  obtain ⟨current, -, rest⟩ := bind_eq_ok.mp reflected
  split at rest
  · cases rest
    exact .single (.consumed _)
  · obtain ⟨velocity, -, replaced⟩ := bind_eq_ok.mp rest
    exact .head (.consumed _) (.single (.replaced event.first _ next live replaced))

end SolverState

def MotionProgress.loop : MotionProgress S Effect Facts count → MotionLoop S Effect Facts count
  | finished final => final
  | advanced _ next => next

namespace MotionLoop

variable {problem : MotionProblem S Effect Facts} {queries : SolverQueries S count}
  {loop ready next : MotionLoop S Effect Facts count} {key : MotionEventKey S}
  {selection : MotionSelection S Effect Facts count}

theorem refreshTriggers_moves (refreshes : loop.refreshTriggers problem = .ok ready) :
    SolverMoves queries loop.solver ready.solver := by
  obtain ⟨⟨left, caches⟩, -, rest⟩ := bind_eq_ok.mp refreshes
  cases rest
  exact .single (.worked left)

theorem processTrigger_moves {index : Nat} {cache : TriggerCache S Effect Facts count}
    (live : (loop.solver.bodies cache.body).disposition = .continues)
    (processed : loop.processTrigger problem queries index cache key = .ok next) :
    SolverMoves queries loop.solver next.solver := by
  unfold processTrigger at processed
  obtain ⟨current, -, rest⟩ := bind_eq_ok.mp processed
  obtain ⟨response, -, rest⟩ := bind_eq_ok.mp rest
  split at rest
  · obtain ⟨appended, appends, rest⟩ := bind_eq_ok.mp rest
    have same := appendEffects_eq_ok appends
    subst same
    obtain ⟨replaced, replaces, rest⟩ := bind_eq_ok.mp rest
    obtain ⟨solver, finishes, rest⟩ := bind_eq_ok.mp rest
    cases rest
    exact .head (.replaced cache.body response.body replaced live replaces) (finishEvent_moves finishes)
  · cases rest

theorem processContact_moves {event : MotionGeometryEvent S count} {secondIndex : Fin count}
    {observation : PairContactObservation S}
    (first : (loop.solver.bodies event.first).disposition = .continues)
    (second : (loop.solver.bodies secondIndex).disposition = .continues) (apart : secondIndex ≠ event.first)
    (processed : loop.processContact problem event secondIndex observation = .ok next) :
    SolverMoves queries loop.solver next.solver := by
  unfold processContact at processed
  obtain ⟨firstSubject, -, rest⟩ := bind_eq_ok.mp processed
  obtain ⟨secondSubject, -, rest⟩ := bind_eq_ok.mp rest
  obtain ⟨response, -, rest⟩ := bind_eq_ok.mp rest
  obtain ⟨appended, appends, rest⟩ := bind_eq_ok.mp rest
  have same := appendEffects_eq_ok appends
  subst same
  obtain ⟨replaced, firstReplaces, rest⟩ := bind_eq_ok.mp rest
  obtain ⟨solver, secondReplaces, rest⟩ := bind_eq_ok.mp rest
  cases rest
  have still : (replaced.bodies secondIndex).disposition = .continues := by
    rw [(replace_eq_ok firstReplaces).other apart]
    exact second
  exact .head (.replaced event.first response.first replaced first firstReplaces)
    (.single (.replaced secondIndex response.second solver still secondReplaces))

theorem processGeometry_moves {event : MotionGeometryEvent S count}
    (first : (loop.solver.bodies event.first).disposition = .continues)
    (second : ∀ index, event.second = some index →
      (loop.solver.bodies index).disposition = .continues ∧ index ≠ event.first)
    (processed : loop.processGeometry problem queries event = .ok next) :
    SolverMoves queries loop.solver next.solver := by
  unfold processGeometry at processed
  split at processed
  · next secondIndex named =>
    obtain ⟨⟨work, observation⟩, -, rest⟩ := bind_eq_ok.mp processed
    cases observation with
    | none =>
      obtain ⟨responded, responds, rest⟩ := bind_eq_ok.mp rest
      obtain ⟨solver, finishes, rest⟩ := bind_eq_ok.mp rest
      cases responds
      cases rest
      exact .head (.worked work) (finishEvent_moves finishes)
    | some observed =>
      obtain ⟨responded, responds, rest⟩ := bind_eq_ok.mp rest
      obtain ⟨solver, finishes, rest⟩ := bind_eq_ok.mp rest
      cases rest
      obtain ⟨live, apart⟩ := second secondIndex named
      have charged : ∀ begun : MotionLoop S Effect Facts count, begun.solver = { loop.solver with work := work } →
          begun.processContact problem event secondIndex observed = .ok responded →
          SolverMoves queries { loop.solver with work := work } responded.solver := by
        intro begun same contacts
        rw [← same]
        exact processContact_moves (by rw [same]; exact first) (by rw [same]; exact live) apart contacts
      have contacts := charged _ rfl responds
      exact .head (.worked work) (contacts.trans (finishEvent_moves finishes))
  · obtain ⟨reflected, reflects, rest⟩ := bind_eq_ok.mp processed
    obtain ⟨solver, finishes, rest⟩ := bind_eq_ok.mp rest
    cases rest
    exact (reflectWall_moves first reflects).trans (finishEvent_moves finishes)

theorem process_moves (sound : ready.Sound)
    (fresh : ∀ cache ∈ ready.caches, cache.event ≠ none →
      (ready.solver.bodies cache.body).disposition = .continues)
    (selects : ready.Selects selection) {begun : SolverState S count} (bodies : begun.bodies = ready.solver.bodies)
    (processed : ({ ready with solver := begun } : MotionLoop S Effect Facts count).process problem queries selection =
      .ok next) : SolverMoves queries begun next.solver := by
  cases selection with
  | geometry event =>
    have taken : ({ ready with solver := begun } : MotionLoop S Effect Facts count).processGeometry problem
        queries event = .ok next := processed
    obtain ⟨pair, member, cached⟩ | ⟨place, cached⟩ := selects
    · obtain ⟨first, second, apart, firstLive, secondLive, -⟩ := sound.involved_of_pair member cached
      refine processGeometry_moves ?_ ?_ taken
      · dsimp only
        rw [bodies, first]
        exact firstLive
      · intro index named
        rw [second] at named
        cases named
        dsimp only
        rw [bodies, first]
        exact ⟨secondLive, apart⟩
    · obtain ⟨first, second, live, -⟩ := sound.involved_of_wall cached
      refine processGeometry_moves ?_ ?_ taken
      · dsimp only
        rw [bodies, first]
        exact live
      · intro index named
        rw [second] at named
        cases named
  | trigger index cache key =>
    obtain ⟨stored, cached⟩ := selects
    have taken : ({ ready with solver := begun } : MotionLoop S Effect Facts count).processTrigger problem
        queries index cache key = .ok next := processed
    refine processTrigger_moves ?_ taken
    dsimp only
    rw [bodies]
    exact fresh cache (List.mem_of_getElem? stored) (by rw [cached]; exact Option.some_ne_none _)

/-- An iteration that does not end the loop spends work on its triggers, begins an event and applies it. -/
theorem iterate_begins (sound : loop.Sound) (iterates : loop.iterate problem queries = .ok (.advanced key next)) :
    ∃ (work : MotionWorkCounts) (begun : SolverState S count),
      ({ loop.solver with work := work } : SolverState S count).beginEvent key = .ok begun ∧
        SolverMoves queries begun next.solver := by
  obtain ⟨ready, refreshes, rest⟩ := bind_eq_ok.mp iterates
  obtain ⟨renewed, -, -, refreshed⟩ := refreshTriggers_spec sound refreshes
  have charged : ready.solver = { loop.solver with work := ready.solver.work } := by
    obtain ⟨⟨left, caches⟩, -, rest⟩ := bind_eq_ok.mp refreshes
    cases rest
    rfl
  split at rest
  · cases rest
  · next selection selects =>
    obtain ⟨begun, begins, rest⟩ := bind_eq_ok.mp rest
    obtain ⟨processed, processes, rest⟩ := bind_eq_ok.mp rest
    cases rest
    refine ⟨ready.solver.work, begun, charged ▸ begins, ?_⟩
    refine process_moves renewed ?_ (select_selects selects) (by rw [(beginEvent_eq_ok begins).2.2]) processes
    intro cache member scheduled
    obtain ⟨before, -, one⟩ := exists_of_forall₂ refreshed member
    exact one.live scheduled

theorem iterate_moves (sound : loop.Sound) {progress : MotionProgress S Effect Facts count}
    (iterates : loop.iterate problem queries = .ok progress) :
    SolverMoves queries loop.solver progress.loop.solver := by
  cases progress with
  | finished final =>
    obtain ⟨ready, refreshes, rest⟩ := bind_eq_ok.mp iterates
    split at rest
    · cases rest
      exact refreshTriggers_moves refreshes
    · obtain ⟨_, -, rest⟩ := bind_eq_ok.mp rest
      obtain ⟨_, -, rest⟩ := bind_eq_ok.mp rest
      cases rest
  | advanced key next =>
    obtain ⟨work, begun, begins, moves⟩ := iterate_begins sound iterates
    exact .head (.worked work) (.head (.begun key begun sound.clean begins) moves)

end MotionLoop

end BlobRoyale.Simulation
