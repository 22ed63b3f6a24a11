import BlobRoyale.Gameplay.ChargeContactSystem
import BlobRoyale.Motion.MotionLoop
import BlobRoyale.Motion.PairCollision
import BlobRoyale.Motion.SolverMoves

/-!
# Guarded pair contact

The response of one contact between two bodies: the lethal branch, the touch without an impact, and the impact with
its collision, guards, perfect stops, separation and charge hits.
-/

namespace BlobRoyale.Gameplay

open Simulation

variable {S : Type} [Scalar S]

inductive GuardState where
  | none
  | ordinary
  | perfect
  deriving DecidableEq, Repr

namespace GuardState

def isGuarded (guard : GuardState) : Bool := guard ≠ none

end GuardState

structure PairGuardFacts where
  first : GuardState
  second : GuardState
  deriving DecidableEq, Repr

structure PairChargeFacts where
  firstActivation : Option TickSequence
  secondActivation : Option TickSequence
  deriving DecidableEq, Repr

/-- `GuardedPairConsequence`. -/
inductive GuardedPairConsequence (S : Type) [Scalar S] where
  | contact (pair : CandidatePair) (normal : Vector2 S) (relativeNormalSpeed : S) (ruleName : ContactRuleName)
  | elimination (entity : EntityId)
  | stun (entity : EntityId)
  | chargeContact (candidate : ChargeContactCandidate)
  deriving DecidableEq

abbrev GuardedPairOutcome (S : Type) [Scalar S] := PairMotionResponse S (GuardedPairConsequence S)

namespace GuardedPair

def motionVelocity (body : PhysicsBody S) : Validated (Vector2 S) := geometricVelocity body

def normalSpeed (velocity normal : Vector2 S) : S := velocity.x * normal.x + velocity.y * normal.y

def relativeNormalSpeed (first second : PhysicsBody S) (normal : Vector2 S) : Validated S := do
  let firstVelocity ← motionVelocity first
  let secondVelocity ← motionVelocity second
  return (secondVelocity.x - firstVelocity.x) * normal.x + (secondVelocity.y - firstVelocity.y) * normal.y

def nonClosing (speed : S) : Bool := greaterThanOrApproximatelyEqual speed 0 velocityTolerance

def requireGuardFacts (subject : ContactSubject S) (guard : GuardState) : Validated Unit :=
  if subject.2.isStatic && guard.isGuarded then
    reject .guardedPairFactsInvalid "guarded_pair.static_body" "a static contact subject must have no guard"
  else .ok ()

def requireFiniteCorrection (value : S) : Validated S :=
  if Scalar.isFinite value = true then .ok value
  else
    reject .guardedPairSeparationFailed "guarded_pair.separation" "normal separation correction must remain finite"

def quarterReceivedDelta (before ordinary : Vector2 S) : Validated (Vector2 S) :=
  let quarter : S := 1 / ((4 : Nat) : S)
  Vector2.create (before.x + (ordinary.x - before.x) * quarter) (before.y + (ordinary.y - before.y) * quarter)

def correctionWeight (body : PhysicsBody S) (stopped : Bool) : Validated S :=
  if body.isStatic || stopped then .ok 0 else requireFiniteCorrection (1 / body.mass)

/-- A body with the corrected velocity, where it takes a share. -/
def corrected (body : PhysicsBody S) (weight x y : S) : Validated (PhysicsBody S) :=
  if weight = 0 then .ok body else do
    let velocity ← Vector2.create x y
    return body.withVelocity velocity

def separatePair (first second : PhysicsBody S) (firstStopped secondStopped : Bool) (normal : Vector2 S) :
    Validated (PhysicsBody S × PhysicsBody S) := do
  let speed ← relativeNormalSpeed first second normal
  if nonClosing speed then return (first, second)
  else
    let firstWeight ← correctionWeight first firstStopped
    let secondWeight ← correctionWeight second secondStopped
    let weightSum ← requireFiniteCorrection (firstWeight + secondWeight)
    let normalSquared ← requireFiniteCorrection (normal.x * normal.x + normal.y * normal.y)
    let denominator ← requireFiniteCorrection (weightSum * normalSquared)
    if denominator ≤ 0 then
      reject .guardedPairSeparationFailed "guarded_pair.separation"
        "a closing pair requires positive movable correction weight"
    else
      let impulse ← requireFiniteCorrection (-speed / denominator)
      let firstDelta ← requireFiniteCorrection (impulse * firstWeight)
      let secondDelta ← requireFiniteCorrection (impulse * secondWeight)
      let separatedFirst ← corrected first firstWeight (first.velocity.x - firstDelta * normal.x)
        (first.velocity.y - firstDelta * normal.y)
      let separatedSecond ← corrected second secondWeight (second.velocity.x + secondDelta * normal.x)
        (second.velocity.y + secondDelta * normal.y)
      let residual ← relativeNormalSpeed separatedFirst separatedSecond normal
      if Scalar.isFinite residual = false ∨ nonClosing residual = false then
        reject .guardedPairSeparationFailed "guarded_pair.separation"
          "binary64 projection left closing motion beyond velocity tolerance"
      else return (separatedFirst, separatedSecond)

def inEntityOrder {Fact : Type} (first second : EntityId) (firstFacts secondFacts : List Fact) : List Fact :=
  if first < second then firstFacts ++ secondFacts else secondFacts ++ firstFacts

def appendRecipients {Fact : Type} (fact : EntityId → Fact) (first : EntityId) (includeFirst : Bool) (second : EntityId)
    (includeSecond : Bool) : List Fact :=
  inEntityOrder first second (if includeFirst then [fact first] else []) (if includeSecond then [fact second] else [])

def bodyIsLethalHazard (world : GameWorld S) (entity : EntityId) : Bool :=
  world.matchState.phase = .running && ((world.stores .lethalOnContact).find entity).isSome

def bodyIsPlayerDriven (world : GameWorld S) (entity : EntityId) : Bool := (world.controllables.find entity).isSome

theorem guardedPair_isWireKindName : isWireKindName "guarded_pair" = true := by decide

theorem lethalHazard_isWireKindName : isWireKindName "lethal_hazard" = true := by decide

def guardedPairRuleName : ContactRuleName := ⟨"guarded_pair", .inl guardedPair_isWireKindName⟩

def lethalHazardContactRuleName : ContactRuleName := ⟨"lethal_hazard", .inl lethalHazard_isWireKindName⟩

/-- The normal from the lower entity to the higher. -/
def canonicalNormal (first second : EntityId) (normal : Vector2 S) : Validated (Vector2 S) :=
  if first < second then .ok normal else normal.negate

def contactEventOf (first second : ContactSubject S) (contact : PlayerPairContact S) (ruleName : ContactRuleName) :
    Validated (GuardedPairConsequence S) := do
  let pair ← CandidatePair.create first.1 second.1
  let normal ← canonicalNormal first.1 second.1 contact.normal
  return .contact pair normal contact.relativeNormalSpeed ruleName

/-- The response before guards: a collision of two dynamic bodies, or a reflection from a static one. -/
def collide (first second : PhysicsBody S) (contact : PlayerPairContact S) :
    Validated (PhysicsBody S × PhysicsBody S) :=
  if !first.isStatic && !second.isStatic then do
    let collision ← if bodyHasBaselinePhysics first && bodyHasBaselinePhysics second then
        resolvePlayerPairCollision first second contact
      else resolveGeneralPairCollision first second contact
    return (first.withVelocity collision.firstVelocity, second.withVelocity collision.secondVelocity)
  else if !nonClosing contact.relativeNormalSpeed then do
    let reflectedFirst ← reflected first
    let reflectedSecond ← reflected second
    return (reflectedFirst, reflectedSecond)
  else .ok (first, second)
where
  reflected (body : PhysicsBody S) : Validated (PhysicsBody S) :=
    if body.isStatic then .ok body else do
      let velocity ← reflectStaticContactVelocity body.velocity contact.normal
      return body.withVelocity velocity

/-- A guarded body takes a quarter of what it received. -/
def quartered (guard : GuardState) (before ordinary : PhysicsBody S) : Validated (PhysicsBody S) :=
  if guard.isGuarded then do
    let velocity ← quarterReceivedDelta before.velocity ordinary.velocity
    return ordinary.withVelocity velocity
  else .ok ordinary

/-- Whether a perfect guard stops the body that moves into it. -/
def stoppedBy (opposite : GuardState) (body : PhysicsBody S) (closes : Bool) (incoming : Vector2 S → Bool) :
    Validated Bool :=
  if opposite = .perfect && !body.isStatic && closes then do
    let velocity ← motionVelocity body
    return incoming velocity
  else .ok false

def stoppedBody (stopped : Bool) (zero : Vector2 S) (body : PhysicsBody S) : PhysicsBody S :=
  if stopped then (body.withVelocity zero).withAcceleration zero else body

/-- A defended pair is separated, an undefended one keeps its equation's velocities. -/
def separated (guards : PairGuardFacts) (first second : PhysicsBody S) (firstStopped secondStopped : Bool)
    (normal : Vector2 S) : Validated (PhysicsBody S × PhysicsBody S) :=
  if guards.first.isGuarded || guards.second.isGuarded then
    separatePair first second firstStopped secondStopped normal
  else .ok (first, second)

/-- The charges that land, lower attacker first. -/
def chargeHits (world : GameWorld S) (first second : ContactSubject S) (observation : PairContactObservation S)
    (contact : PlayerPairContact S) (guards : PairGuardFacts) (charges : PairChargeFacts) :
    List (GuardedPairConsequence S) :=
  if !nonClosing contact.relativeNormalSpeed && world.matchState.phase = .running && !first.2.isStatic &&
      !second.2.isStatic && bodyIsPlayerDriven world first.1 && bodyIsPlayerDriven world second.1 then
    let firstHits := charges.firstActivation.filter fun _ => observation.firstEffectEligible &&
      velocityTolerance < normalSpeed first.2.velocity contact.normal
    let secondHits := charges.secondActivation.filter fun _ => observation.secondEffectEligible &&
      normalSpeed second.2.velocity contact.normal < -velocityTolerance
    inEntityOrder first.1 second.1 (firstHits.toList.map (hit first.1 second.1 guards.second))
      (secondHits.toList.map (hit second.1 first.1 guards.first))
  else []
where
  hit (attacker target : EntityId) (targetGuard : GuardState) (activation : TickSequence) :
      GuardedPairConsequence S :=
    .chargeContact ⟨attacker, target, activation, if targetGuard.isGuarded then .blockedByShield else .successfulHit⟩

def respond (world : GameWorld S) (first second : ContactSubject S) (observation : PairContactObservation S)
    (contact : PlayerPairContact S) (guards : PairGuardFacts) (charges : PairChargeFacts) :
    Validated (GuardedPairOutcome S) := do
  let collided ← collide first.2 second.2 contact
  let quarteredFirst ← quartered guards.first first.2 collided.1
  let quarteredSecond ← quartered guards.second second.2 collided.2
  let closes := !nonClosing contact.relativeNormalSpeed
  let firstStunned ← stoppedBy guards.second first.2 closes fun velocity =>
    velocityTolerance < normalSpeed velocity contact.normal
  let secondStunned ← stoppedBy guards.first second.2 closes fun velocity =>
    normalSpeed velocity contact.normal < -velocityTolerance
  let zero ← Vector2.create 0 0
  let bodies ← separated guards (stoppedBody firstStunned zero quarteredFirst)
    (stoppedBody secondStunned zero quarteredSecond) firstStunned secondStunned contact.normal
  let event ← contactEventOf first second observation.touch guardedPairRuleName
  return {
    first := ⟨bodies.1, .continues⟩
    second := ⟨bodies.2, .continues⟩
    effects := appendRecipients .stun first.1 firstStunned second.1 secondStunned ++
      chargeHits world first second observation contact guards charges ++ [event] }

/-- Whether the first subject is eliminated by the second. -/
def eliminated (world : GameWorld S) (victim killer : EntityId) (guard : GuardState) (eligible : Bool) : Bool :=
  eligible && !guard.isGuarded && bodyIsPlayerDriven world victim && bodyIsLethalHazard world killer

def lethalDisposition (eliminated : Bool) : MotionDisposition := if eliminated then .terminate else .continues

def eliminate (first second : ContactSubject S) (observation : PairContactObservation S)
    (firstEliminated secondEliminated : Bool) : Validated (GuardedPairOutcome S) := do
  let event ← contactEventOf first second observation.touch lethalHazardContactRuleName
  return {
    first := ⟨first.2, lethalDisposition firstEliminated⟩
    second := ⟨second.2, lethalDisposition secondEliminated⟩
    effects := appendRecipients .elimination first.1 firstEliminated second.1 secondEliminated ++ [event] }

def touchOnly (first second : ContactSubject S) (observation : PairContactObservation S) :
    Validated (GuardedPairOutcome S) := do
  let event ← contactEventOf first second observation.touch guardedPairRuleName
  return ⟨⟨first.2, .continues⟩, ⟨second.2, .continues⟩, [event]⟩

/-- Whether an observation has anything to respond to. -/
def idle (observation : PairContactObservation S) : Bool :=
  !observation.touch.isContact ||
    (observation.impact.isNone && !observation.firstEffectEligible && !observation.secondEffectEligible)

def firstEliminated (world : GameWorld S) (first second : ContactSubject S) (observation : PairContactObservation S)
    (guards : PairGuardFacts) : Bool :=
  eliminated world first.1 second.1 guards.first observation.secondEffectEligible

def secondEliminated (world : GameWorld S) (first second : ContactSubject S) (observation : PairContactObservation S)
    (guards : PairGuardFacts) : Bool :=
  eliminated world second.1 first.1 guards.second observation.firstEffectEligible

/-- `compose_guarded_pair`. -/
def composeGuardedPair (world : GameWorld S) (first second : ContactSubject S)
    (observation : PairContactObservation S) (guards : PairGuardFacts) (charges : PairChargeFacts) :
    Validated (GuardedPairOutcome S) := do
  requireGuardFacts first guards.first
  requireGuardFacts second guards.second
  if first.1 = second.1 then
    reject .guardedPairFactsInvalid "guarded_pair.subjects" "a pair must name two distinct entities"
  else if idle observation then return ⟨⟨first.2, .continues⟩, ⟨second.2, .continues⟩, []⟩
  else if firstEliminated world first second observation guards ||
      secondEliminated world first second observation guards then
    eliminate first second observation (firstEliminated world first second observation guards)
      (secondEliminated world first second observation guards)
  else
    match observation.impact with
    | none => touchOnly first second observation
    | some contact => respond world first second observation contact guards charges

end GuardedPair

end BlobRoyale.Gameplay

/-!
# Guarded pair motion

The response's parts in exact real arithmetic, where no correction is refused for its magnitude: what each returns,
read along the contact's normal.
-/

namespace BlobRoyale.Gameplay

open Simulation Impulse

namespace GuardedPair

variable {first second body : PhysicsBody ℝ} {normal : Vector2 ℝ}

/-- A body's motion, nothing where it is static. -/
noncomputable def motion (body : PhysicsBody ℝ) : ℝ × ℝ := if body.isStatic then (0, 0) else body.velocity.pair

theorem motionVelocity_real (body : PhysicsBody ℝ) :
    ∃ velocity, motionVelocity body = .ok velocity ∧ velocity.pair = motion body := by
  rw [motionVelocity, geometricVelocity, motion]
  split
  · refine ⟨⟨0, 0, validComponent_zero_real, validComponent_zero_real⟩, ?_, rfl⟩
    exact Vector2.create_eq_ok_iff.mpr rfl
  · exact ⟨body.velocity, rfl, rfl⟩

noncomputable def parting (normal : Vector2 ℝ) (first second : PhysicsBody ℝ) : ℝ :=
  separation normal.pair (motion first) (motion second)

theorem relativeNormalSpeed_real : relativeNormalSpeed first second normal = .ok (parting normal first second) := by
  obtain ⟨firstVelocity, firstMotion, firstPair⟩ := motionVelocity_real first
  obtain ⟨secondVelocity, secondMotion, secondPair⟩ := motionVelocity_real second
  rw [relativeNormalSpeed, firstMotion, secondMotion, parting, ← firstPair, ← secondPair]
  refine congrArg Except.ok ?_
  simp only [separation, along, Vector2.pair]
  ring

theorem requireFiniteCorrection_real (value : ℝ) : requireFiniteCorrection value = .ok value := if_pos rfl

noncomputable def weight (body : PhysicsBody ℝ) (stopped : Bool) : ℝ :=
  if body.isStatic || stopped then 0 else 1 / body.mass

theorem correctionWeight_real (stopped : Bool) : correctionWeight body stopped = .ok (weight body stopped) := by
  rw [correctionWeight, weight]
  split
  · rfl
  · exact requireFiniteCorrection_real _

theorem weight_nonneg (stopped : Bool) : 0 ≤ weight body stopped := by
  rw [weight]
  split
  · exact le_refl 0
  · exact one_div_nonneg.mpr body.massAdmitted.2.1

/-- A body pushed along the normal, where it takes a share of the correction. -/
noncomputable def shifted (body : PhysicsBody ℝ) (share delta : ℝ) (normal : Vector2 ℝ) : Validated (PhysicsBody ℝ) :=
  corrected body share (body.velocity.x + delta * normal.x) (body.velocity.y + delta * normal.y)

noncomputable def separatingImpulse (normal : Vector2 ℝ) (first second : PhysicsBody ℝ) (firstStopped secondStopped : Bool) :
    ℝ :=
  -parting normal first second /
    ((weight first firstStopped + weight second secondStopped) * (normal.x * normal.x + normal.y * normal.y))

noncomputable def projected (first second : PhysicsBody ℝ) (firstStopped secondStopped : Bool) (normal : Vector2 ℝ) :
    Validated (PhysicsBody ℝ × PhysicsBody ℝ) := do
  let separatedFirst ← shifted first (weight first firstStopped)
    (-(separatingImpulse normal first second firstStopped secondStopped * weight first firstStopped)) normal
  let separatedSecond ← shifted second (weight second secondStopped)
    (separatingImpulse normal first second firstStopped secondStopped * weight second secondStopped) normal
  if nonClosing (parting normal separatedFirst separatedSecond) = false then
    reject .guardedPairSeparationFailed "guarded_pair.separation"
      "binary64 projection left closing motion beyond velocity tolerance"
  else return (separatedFirst, separatedSecond)

theorem separatePair_real {firstStopped secondStopped : Bool} :
    separatePair first second firstStopped secondStopped normal =
      if nonClosing (parting normal first second) then .ok (first, second)
      else if (weight first firstStopped + weight second secondStopped) *
          (normal.x * normal.x + normal.y * normal.y) ≤ 0 then
        reject .guardedPairSeparationFailed "guarded_pair.separation"
          "a closing pair requires positive movable correction weight"
      else projected first second firstStopped secondStopped normal := by
  have finite (value : ℝ) : Scalar.isFinite value = true := rfl
  simp only [separatePair, projected, relativeNormalSpeed_real, correctionWeight_real, requireFiniteCorrection_real,
    shifted, neg_mul, ← sub_eq_add_neg, finite, Bool.true_eq_false, false_or]
  rfl

section Collision

variable {contact : PlayerPairContact ℝ}

noncomputable def struck (body : PhysicsBody ℝ) (amount : ℝ) (normal : Vector2 ℝ) : Validated (PhysicsBody ℝ) := do
  let velocity ← Vector2.create (body.velocity.x + amount * normal.x) (body.velocity.y + amount * normal.y)
  return body.withVelocity velocity

/-- How far a collision pushes a body back, by the measured and by the certified speed. -/
noncomputable def recoil (own other : PhysicsBody ℝ) (measured speed : ℝ) : ℝ :=
  if bodyHasBaselinePhysics own && bodyHasBaselinePhysics other then measured
  else -(generalImpulse own other speed / own.mass)

/-- The collision of two dynamic bodies, as two pushes along the normal. -/
noncomputable def bounced (first second : PhysicsBody ℝ) (contact : PlayerPairContact ℝ) :
    Validated (PhysicsBody ℝ × PhysicsBody ℝ) := do
  let struckFirst ← struck first (recoil first second
    (separation contact.normal.pair first.velocity.pair second.velocity.pair) contact.relativeNormalSpeed) contact.normal
  let struckSecond ← struck second (-recoil second first
    (separation contact.normal.pair first.velocity.pair second.velocity.pair) contact.relativeNormalSpeed) contact.normal
  return (struckFirst, struckSecond)

noncomputable def rebounded (normal : Vector2 ℝ) (body : PhysicsBody ℝ) : Validated (PhysicsBody ℝ) :=
  if body.isStatic then .ok body
  else struck body (-(along normal.pair body.velocity.pair + along normal.pair body.velocity.pair)) normal

theorem generalImpulse_comm {speed : ℝ} : generalImpulse second first speed = generalImpulse first second speed := by
  rw [generalImpulse, generalImpulse, bounce, bounce, min_comm, add_comm (1 / second.mass)]

theorem separation_comm (normal left right : ℝ × ℝ) : separation normal right left = -separation normal left right := by
  rw [separation, separation, neg_sub]

theorem two_pushes {firstPush secondPush : ℝ} {normal : Vector2 ℝ} {x y z w : ℝ}
    (made : (x, y, z, w) = (first.velocity.x + firstPush * normal.x, first.velocity.y + firstPush * normal.y,
      second.velocity.x + secondPush * normal.x, second.velocity.y + secondPush * normal.y)) : (do
      let collision ← (do
        let firstVelocity ← Vector2.create x y
        let secondVelocity ← Vector2.create z w
        return (⟨contact, true, firstVelocity, secondVelocity⟩ : PlayerPairCollisionResult ℝ))
      return (first.withVelocity collision.firstVelocity, second.withVelocity collision.secondVelocity)) = (do
    let struckFirst ← struck first firstPush normal
    let struckSecond ← struck second secondPush normal
    return (struckFirst, struckSecond) : Validated (PhysicsBody ℝ × PhysicsBody ℝ)) := by
  cases made
  rw [struck, struck]
  cases Vector2.create (first.velocity.x + firstPush * normal.x) (first.velocity.y + firstPush * normal.y) with
  | error refusal => rfl
  | ok firstVelocity =>
    cases Vector2.create (second.velocity.x + secondPush * normal.x) (second.velocity.y + secondPush * normal.y) with
    | error refusal => rfl
    | ok secondVelocity => rfl

theorem collide_dynamic : (do
      let collision ← if bodyHasBaselinePhysics first && bodyHasBaselinePhysics second then
          resolvePlayerPairCollision first second contact
        else resolveGeneralPairCollision first second contact
      return (first.withVelocity collision.firstVelocity, second.withVelocity collision.secondVelocity)) =
    if resolvesNothing contact then .ok (first, second) else bounced first second contact := by
  cases resolves : resolvesNothing contact with
  | true =>
    rw [resolvePlayerPairCollision, resolveGeneralPairCollision, if_pos resolves, if_pos resolves, ite_self]
    rfl
  | false =>
    rw [resolvePlayer_real resolves, resolveGeneral_real resolves, bounced, recoil, recoil, generalImpulse_comm,
      Bool.and_comm (bodyHasBaselinePhysics second), separation_comm contact.normal.pair first.velocity.pair]
    split
    · exact two_pushes rfl
    · refine two_pushes ?_
      simp only [neg_mul, neg_neg, ← sub_eq_add_neg]

theorem reflected_real : collide.reflected contact body = rebounded contact.normal body := by
  have measured : body.velocity.x * contact.normal.x + body.velocity.y * contact.normal.y =
      along contact.normal.pair body.velocity.pair := rfl
  rw [collide.reflected, rebounded, ← two_mul, struck, reflectStaticContactVelocity, measured, neg_mul, neg_mul, ← sub_eq_add_neg,
    ← sub_eq_add_neg]
  rfl

theorem collide_real : collide first second contact =
    if !first.isStatic && !second.isStatic then
      if resolvesNothing contact then .ok (first, second) else bounced first second contact
    else if !nonClosing contact.relativeNormalSpeed then (do
      let reboundedFirst ← rebounded contact.normal first
      let reboundedSecond ← rebounded contact.normal second
      return (reboundedFirst, reboundedSecond))
    else .ok (first, second) := by
  rw [collide, collide_dynamic, reflected_real, reflected_real]

end Collision

end GuardedPair

end BlobRoyale.Gameplay
