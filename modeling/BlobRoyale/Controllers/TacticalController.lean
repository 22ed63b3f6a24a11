import BlobRoyale.Controllers.Controller
import BlobRoyale.Controllers.TacticalObjectives
import BlobRoyale.Simulation.RandomDraws

/-!
# What a tactical controller remembers

The authored profile, the seed of a match's draws, and the state kept from one observation to the next.
-/

namespace BlobRoyale.Controllers

open Simulation

inductive TacticalDecisionReason where
  | notDecided
  | awaitingBody
  | noControllableBody
  | matchNotRunning
  | stunned
  | objectivesWaiting
  | objectivesFinished
  | noScreenedCandidate
  | awaitingReaction
  | arrived
  | seekDeclined
  | pursuing
  | pursuingUnderRisk
  | shieldAnticipated
  | shieldUnavailable
  | chargeMisaligned
  | chargeGroundEndsFirst
  | chargeUnavailable
  | chargeCommitted
  deriving DecidableEq, Repr

inductive TacticalTargetHold where
  | none
  | acquired
  | retainedInLease
  | retainedByBonus
  | switched
  | lost
  | released
  deriving DecidableEq, Repr

inductive TacticalObjectiveDisposition where
  | ready
  | waiting
  | finished
  deriving DecidableEq, Repr

structure TacticalObjectiveWork where
  rawCandidateCount : Nat := 0
  screenedCandidateCount : Nat := 0
  predictionStepCount : Nat := 0
  deriving DecidableEq, Repr

structure TacticalObjectiveCandidates (S : Type) [Scalar S] where
  disposition : TacticalObjectiveDisposition
  candidates : List (TacticalObjectiveCandidate S)
  work : TacticalObjectiveWork

structure TacticalSeedIdentity where
  matchSeed : UInt64
  lobbyId : UInt64
  seatIndex : UInt64
  deriving DecidableEq

def tacticalSeedDomain : UInt64 := 0x746163746963616c

def tacticalSeedFor (identity : TacticalSeedIdentity) (profileName : BotProfileName)
    (runningStartedTick : TickSequence) : UInt64 :=
  let mixed := DeterministicRandom.mixBits (tacticalSeedDomain ^^^ identity.matchSeed)
  let mixed := DeterministicRandom.mixBits (mixed ^^^ identity.lobbyId)
  let mixed := DeterministicRandom.mixBits (mixed ^^^ identity.seatIndex)
  let characters := profileName.value.toList
  let mixed := DeterministicRandom.mixBits (mixed ^^^ UInt64.ofNat characters.length)
  let mixed := characters.foldl (fun mixed character =>
    DeterministicRandom.mixBits (mixed ^^^ UInt64.ofNat character.toNat)) mixed
  DeterministicRandom.mixBits (mixed ^^^ UInt64.ofNat runningStartedTick.value)

structure TacticalProfile (S : Type) where
  name : BotProfileName
  objectiveSeekProbability : S
  reactionDelayTicks : Nat
  aimError : S
  targetPersistenceTicks : Nat
  objectiveWeights : TacticalObjectiveKind → S
  riskTolerance : S
  predictionHorizonTicks : Nat
  chargeScreenDiagonalFraction : S
  shieldAnticipationTicks : Nat
  roadCautionFraction : S
  arrivalBrakeFraction : S
  exposurePreference : S
  minimumOpening : S

/-- `policy_of`. -/
def TacticalProfile.policy {S : Type} (profile : TacticalProfile S) : TacticalObjectivePolicy S where
  objectiveWeights := profile.objectiveWeights
  riskTolerance := profile.riskTolerance
  predictionHorizonTicks := profile.predictionHorizonTicks
  chargeScreenDiagonalFraction := profile.chargeScreenDiagonalFraction
  shieldAnticipationTicks := profile.shieldAnticipationTicks
  roadCautionFraction := profile.roadCautionFraction
  exposurePreference := profile.exposurePreference
  minimumOpening := profile.minimumOpening

structure TacticalBodyIdentity where
  entity : EntityId
  generation : Option TickSequence
  deriving DecidableEq

structure TacticalLease (S : Type) [Scalar S] where
  candidate : TacticalObjectiveCandidate S
  window : TickWindow

structure TacticalState (S : Type) [Scalar S] where
  lastCompletedTick : Option TickSequence := none
  seededRunningTick : Option TickSequence := none
  random : Option DeterministicRandom := none
  body : Option TacticalBodyIdentity := none
  observedStun : Bool := false
  reaction : Option TickWindow := none
  lease : Option (TacticalLease S) := none
  heldDirection : Option (Vector2 S) := none
  reason : TacticalDecisionReason := .notDecided
  hold : TacticalTargetHold := .none
  work : TacticalObjectiveWork := {}

end BlobRoyale.Controllers

/-!
# Combat pulses

When a bot asks for a shield or a charge beside its thrust. The terrain's queries, and the objectives collected with
them, are parameters.
-/

namespace BlobRoyale.Controllers

open Simulation

/-- What the terrain and the published objectives answer. -/
structure TacticalQueries (S Terrain : Type) [Scalar S] where
  /-- The published arena's diagonal. -/
  arenaDiagonal : Terrain → S
  firstSupportExit : Terrain → Vector2 S → Vector2 S → Validated (Option (MotionTime S))
  /-- `collect_tactical_objective_candidates`. -/
  collect : Observation S Terrain → PhysicsBody S → TacticalObjectivePolicy S →
    Decided (TacticalObjectiveCandidates S)

variable {S Terrain : Type} [Scalar S]

section Combat

variable (observation : Observation S Terrain)

/-- `tactical_shove_opponent_body`. -/
def tacticalShoveOpponentBody (candidate : TacticalObjectiveCandidate S) : Option (PhysicsBody S) :=
  if candidate.key.kind ≠ .shoveSetup then none
  else
    let bodies : ComponentStore (PhysicsBody S) := observation.snapshot.stores .physicsBody
    (bodies.entries.find? fun entry => entry.1.value = candidate.key.subject).map Prod.snd

/-- `tactical_charge_screen_admits`. -/
def tacticalChargeScreenAdmits (queries : TacticalQueries S Terrain) (body : PhysicsBody S)
    (candidate : TacticalObjectiveCandidate S) (policy : TacticalObjectivePolicy S) : Validated Bool :=
  match tacticalShoveOpponentBody observation candidate with
  | none => .ok false
  | some opponent =>
    let delta := controllerTargetOffset body.position opponent.position
    let distance := controllerMagnitude delta
    if distance ≤ 0 then .ok false
    else
      let rayLength := queries.arenaDiagonal observation.terrain * policy.chargeScreenDiagonalFraction
      if ¬ 0 < rayLength then .ok true
      else do
        let displacement ← Vector2.create (delta.x / distance * rayLength) (delta.y / distance * rayLength)
        match ← queries.firstSupportExit observation.terrain body.position displacement with
        | none => .ok true
        | some supportExit => .ok (decide ((distance - body.radius - opponent.radius) / rayLength < supportExit.value))

def tacticalChargeAlignmentPerpendicularFraction : S := 1 / ((2 : Nat) : S)

/-- `tactical_charge_alignment_admits`. -/
def tacticalChargeAlignmentAdmits (body : PhysicsBody S) (candidate : TacticalObjectiveCandidate S) : Bool :=
  match tacticalShoveOpponentBody observation candidate with
  | none => false
  | some opponent =>
    let delta := controllerTargetOffset body.position opponent.position
    let distance := controllerMagnitude delta
    if distance ≤ 0 then false
    else
      let unitX := delta.x / distance
      let unitY := delta.y / distance
      let perpendicular := body.velocity.x * -unitY + body.velocity.y * unitX
      let ceiling := observation.snapshot.matchState.movement.current.normalTopSpeed
      Scalar.abs perpendicular ≤ ceiling * tacticalChargeAlignmentPerpendicularFraction

/-- `tactical_opponent_closes_to_contact`. -/
def tacticalOpponentClosesToContact (body : PhysicsBody S) (policy : TacticalObjectivePolicy S) : Bool :=
  if policy.shieldAnticipationTicks = 0 then false
  else
    let windowSeconds := ((policy.shieldAnticipationTicks : Nat) : S) * fixedDeltaSeconds
    let selfX := body.position.x + body.velocity.x * windowSeconds
    let selfY := body.position.y + body.velocity.y * windowSeconds
    let bodies : ComponentStore (PhysicsBody S) := observation.snapshot.stores .physicsBody
    let controllables : ComponentStore (Controllable S) := observation.snapshot.stores .controllable
    (entitiesWithBoth bodies.entries controllables.entries).any fun entry =>
      let other := entry.2.1
      if entry.2.2.controllerId = observation.controller ∨ other.isStatic = true then false
      else
        let deltaX := other.position.x + other.velocity.x * windowSeconds - selfX
        let deltaY := other.position.y + other.velocity.y * windowSeconds - selfY
        let contact := body.radius + other.radius
        deltaX * deltaX + deltaY * deltaY ≤ contact * contact

/-- `shield_pulse_refused`. -/
def shieldPulseRefused (self : EntityId) (now : TickSequence) : Bool :=
  (observation.findShield self).any fun shield =>
    shield.shieldWindow.contains now || !shield.cooldownWindow.expired now

/-- `charge_pulse_refused`. -/
def chargePulseRefused (self : EntityId) (now : TickSequence) : Bool :=
  (observation.findShield self).any (fun shield => shield.shieldWindow.contains now) ||
    (observation.findCharge self).any fun charge => !charge.cooldownWindow.expired now

/-- `request_ability`: the pulse, and the reason the pass ends with. -/
def requestAbility (queries : TacticalQueries S Terrain) (controller : ControllerId) (self : EntityId)
    (body : PhysicsBody S) (policy : TacticalObjectivePolicy S) (selected : TacticalObjectiveCandidate S)
    (reason : TacticalDecisionReason) : Validated (List (Command S) × TacticalDecisionReason) :=
  let now := observation.tickSequence
  if tacticalOpponentClosesToContact observation body policy then
    if shieldPulseRefused observation self now then .ok ([], .shieldUnavailable)
    else .ok (observation.requestShield controller, .shieldAnticipated)
  else
    match tacticalShoveOpponentBody observation selected with
    | none => .ok ([], reason)
    | some opponent =>
      let delta := controllerTargetOffset body.position opponent.position
      let distance := controllerMagnitude delta
      if ¬ 0 < distance then .ok ([], reason)
      else if !tacticalChargeAlignmentAdmits observation body selected then .ok ([], .chargeMisaligned)
      else do
        if !(← tacticalChargeScreenAdmits observation queries body selected policy) then
          return ([], .chargeGroundEndsFirst)
        else if chargePulseRefused observation self now then
          return ([], .chargeUnavailable)
        else
          let heading ← Vector2.create (clampControllerDirectionComponent (delta.x / distance))
            (clampControllerDirectionComponent (delta.y / distance))
          return (observation.requestCharge controller heading, .chargeCommitted)

end Combat

end BlobRoyale.Controllers

/-!
# The tactical controller

One decision of a profile-driven bot: whether it may act, which target it holds, and the thrust and the ability it
asks for.
-/

namespace BlobRoyale.Controllers

open Simulation

variable {S Terrain : Type} [Scalar S]

namespace TacticalState

variable (state : TacticalState S)

def clearWork : TacticalState S := { state with reaction := none, lease := none, heldDirection := none }

def clearFor (reason : TacticalDecisionReason) : TacticalState S :=
  clearWork { state with
    hold := if state.lease.isSome then .released else .none
    reason := reason
    work := {} }

def completeAt (tick : TickSequence) : TacticalState S := { state with lastCompletedTick := some tick }

@[simp] theorem completeAt_lastCompletedTick (tick : TickSequence) :
    (state.completeAt tick).lastCompletedTick = some tick := rfl

@[simp] theorem completeAt_lease (tick : TickSequence) : (state.completeAt tick).lease = state.lease := rfl

/-- Another body, another generation of its input, or the end of a stun. -/
def bodyChanged (observedBody : TacticalBodyIdentity) : Bool :=
  state.body ≠ some observedBody ∨ state.observedStun = true

def embody (observedBody : TacticalBodyIdentity) : TacticalState S :=
  let embodied := { state with body := some observedBody, observedStun := false }
  if state.bodyChanged observedBody then embodied.clearWork else embodied

end TacticalState

/-- The commands of a completed decision, and what it leaves behind. -/
structure TacticalDecision (S : Type) [Scalar S] where
  commands : List (Command S)
  state : TacticalState S
  lastSpawnRequestTick : Option TickSequence

/-- A decision whose reaction window has expired. -/
structure TacticalGate (S : Type) [Scalar S] where
  self : EntityId
  body : PhysicsBody S
  candidates : List (TacticalObjectiveCandidate S)
  state : TacticalState S
  cancelled : Bool

/-- How far a decision goes before it may act. -/
inductive TacticalApproach (S : Type) [Scalar S] where
  | complete (decision : TacticalDecision S)
  | gate (gate : TacticalGate S)

/-- `TacticalController`, with the members of `Controller`. -/
structure TacticalController (S : Type) [Scalar S] where
  controller : ControllerId
  entity : Option EntityId
  lastSpawnRequestTick : Option TickSequence
  profile : TacticalProfile S
  identity : TacticalSeedIdentity
  state : TacticalState S

namespace TacticalController

def create (controller : ControllerId) (profile : TacticalProfile S) (identity : TacticalSeedIdentity) :
    TacticalController S := ⟨controller, none, none, profile, identity, {}⟩

variable (bot : TacticalController S) (queries : TacticalQueries S Terrain) (observation : Observation S Terrain)

/-- The state in this running identity, seeded afresh when it was not observed before. -/
def renew (runningTick : TickSequence) (state : TacticalState S) : TacticalState S :=
  if state.seededRunningTick ≠ some runningTick then
    { state.clearWork with
      body := none
      random := some (.create (tacticalSeedFor bot.identity bot.profile.name runningTick))
      seededRunningTick := some runningTick }
  else state

/-- The running identity and the body of this observation, and whether a held direction is cancelled by them. -/
def enter (runningTick : TickSequence) (observedBody : TacticalBodyIdentity) (state : TacticalState S) :
    TacticalState S × Bool :=
  let renewed := bot.renew runningTick state
  let newRunningIdentity : Bool := state.seededRunningTick ≠ some runningTick
  (renewed.embody observedBody,
    state.heldDirection.isSome && (renewed.bodyChanged observedBody || newRunningIdentity))

def rearm (state : TacticalState S) : Validated (TacticalState S) := do
  let window ← TickWindow.create observation.tickSequence bot.profile.reactionDelayTicks
  return { state with reaction := some window.val }

def rearmIf (due : Bool) (state : TacticalState S) : Decided (TacticalState S) :=
  if due then decided (bot.rearm observation state) else .ok state

/-- What becomes of the lease once the candidates are known. -/
def refreshLease (candidates : List (TacticalObjectiveCandidate S)) (state : TacticalState S) (cancelled : Bool) :
    Validated (TacticalState S × Bool) :=
  match state.lease with
  | none => .ok ({ state with hold := .none }, cancelled)
  | some lease =>
    match candidates.find? fun candidate => candidate.key = lease.candidate.key with
    | none => do
      let state ← bot.rearm observation { state with lease := none, heldDirection := none, hold := .lost }
      return (state, true)
    | some found =>
      .ok ({ state with lease := some { lease with candidate := found }, hold := .retainedInLease }, cancelled)

/-- A decision that ends before the gate, without asking for a body. -/
def complete (commands : List (Command S)) (state : TacticalState S) : TacticalApproach S :=
  .complete ⟨commands, state, bot.lastSpawnRequestTick⟩

/-- Everything up to the reaction gate, in the running phase. -/
def approachRunning (self : EntityId) (body : PhysicsBody S) (zero : Vector2 S) (state : TacticalState S)
    (cancelled : Bool) : Decided (TacticalApproach S) := do
  let now := observation.tickSequence
  let thrust := observation.requestThrust bot.controller zero
  let state ← bot.rearmIf observation state.reaction.isNone state
  let objectives ← queries.collect observation body bot.profile.policy
  let state := { state with work := objectives.work }
  let lapsed := if state.lease.isSome then TacticalTargetHold.released else .none
  match objectives.disposition with
  | .waiting =>
    let state ← bot.rearmIf observation state.lease.isSome state
    return bot.complete thrust
      { state with hold := lapsed, reason := .objectivesWaiting, lease := none, heldDirection := none }
  | .finished =>
    return bot.complete thrust
      { state with hold := lapsed, reason := .objectivesFinished, lease := none, heldDirection := some zero }
  | .ready =>
    let (state, cancelled) ← decided (bot.refreshLease observation objectives.candidates state cancelled)
    if objectives.candidates.isEmpty then
      return bot.complete (if cancelled then thrust else [])
        { state with reason := .noScreenedCandidate, heldDirection := none }
    else if !state.reaction.any (fun window => window.expired now) then
      return bot.complete (if cancelled then thrust else []) { state with reason := .awaitingReaction }
    else
      return .gate ⟨self, body, objectives.candidates, state, cancelled⟩

def approach : Decided (TacticalApproach S) := do
  let now := observation.tickSequence
  let (zero : Vector2 S) ← decided (Vector2.create 0 0)
  match observation.entity with
  | none =>
    let request := requestBody bot.controller bot.lastSpawnRequestTick observation
    return .complete ⟨request.1, { bot.state.clearFor .awaitingBody with body := none, observedStun := false },
      request.2⟩
  | some self =>
    match (observation.findBody self).filter (fun body => !body.isStatic), observation.findControllable self with
    | some body, some controllable =>
      if observation.snapshot.matchState.phase ≠ .running then
        return bot.complete (observation.requestThrust bot.controller zero)
          { bot.state.clearFor .matchNotRunning with body := none, observedStun := false }
      else if observation.stunned self then
        return bot.complete [] { bot.state.clearFor .stunned with
          body := some ⟨self, controllable.inputGeneration⟩
          observedStun := true }
      else if now.value < observation.snapshot.matchState.runningStartedTick.value then
        .error (.controllers ⟨.tacticalRunningTickInvalid, "tactical_controller.running_started_tick",
          "running identity is later than the observed tick"⟩)
      else
        let (state, cancelled) := bot.enter observation.snapshot.matchState.runningStartedTick
          ⟨self, controllable.inputGeneration⟩ bot.state
        bot.approachRunning queries observation self body zero state cancelled
    | _, _ =>
      return bot.complete [] { bot.state.clearFor .noControllableBody with body := none, observedStun := false }

/-- `tactical_command_hold_seconds`. -/
def commandHoldSeconds (previous : Option TickSequence) : S :=
  let observedSpacing := match previous with
    | some previous => observation.tickSequence.value - previous.value
    | none => 1
  ((max bot.profile.reactionDelayTicks observedSpacing : Nat) : S) * fixedDeltaSeconds

/-- `tactical_arrival_brake`. -/
def arrivalBrake (body : PhysicsBody S) (selected : TacticalObjectiveCandidate S)
    (previousDecision : Option TickSequence) : Validated (Vector2 S) :=
  let fraction := bot.profile.arrivalBrakeFraction
  if ¬ 0 < fraction ∨ selected.key.kind ≠ .hill then Vector2.create 0 0
  else
    let acceleration := observation.snapshot.matchState.movement.current.acceleration
    let divisor := acceleration * bot.commandHoldSeconds observation previousDecision
    if ¬ 0 < divisor then Vector2.create 0 0
    else
      let closingX := selected.objectiveVelocityX - body.velocity.x
      let closingY := selected.objectiveVelocityY - body.velocity.y
      Vector2.create (clampControllerDirectionComponent (closingX / divisor * fraction))
        (clampControllerDirectionComponent (closingY / divisor * fraction))

/-- The lease this pass acts on, with what became of the held target; none when the selection chose nothing. -/
def chooseLease (candidates : List (TacticalObjectiveCandidate S)) (state : TacticalState S) :
    Validated (Option (TacticalLease S × TacticalTargetHold)) :=
  match state.lease.filter fun lease => !lease.window.expired observation.tickSequence with
  | some lease => .ok (some (lease, state.hold))
  | none =>
    let held := state.lease.map fun lease => lease.candidate.key
    match (tacticalSelectCandidate candidates bot.profile.policy held).bind fun chosen => candidates[chosen]? with
    | none => .ok none
    | some winner => do
      let hold := match held with
        | none => TacticalTargetHold.acquired
        | some key => if winner.key = key then .retainedByBonus else .switched
      let window ← TickWindow.create observation.tickSequence bot.profile.targetPersistenceTicks
      return some (⟨winner, window.val⟩, hold)

/-- Inside the arrival radius there is nothing to draw for. -/
def arrived (selected : TacticalObjectiveCandidate S) : Bool :=
  selected.squaredDistance ≤ selected.arrivalRadius * selected.arrivalRadius

/-- The direction rotated by a drawn aim error. -/
def aimAt (body : PhysicsBody S) (selected : TacticalObjectiveCandidate S) (aim : S) : Validated (Vector2 S) :=
  let delta := controllerTargetOffset body.position selected.target
  let magnitude := controllerMagnitude delta
  let ux := delta.x / magnitude
  let uy := delta.y / magnitude
  let error := (aim * ((2 : Nat) : S) - 1) * bot.profile.aimError
  let rx := ux - error * uy
  let ry := uy + error * ux
  let rotatedMagnitude := Scalar.sqrt (rx * rx + ry * ry)
  Vector2.create (clampControllerDirectionComponent (rx / rotatedMagnitude))
    (clampControllerDirectionComponent (ry / rotatedMagnitude))

/-- The direction of this pass. The stream is seeded whenever a pass gets here. -/
def steer (body : PhysicsBody S) (selected : TacticalObjectiveCandidate S) (zero : Vector2 S)
    (state : TacticalState S) : Validated (Vector2 S × TacticalState S) :=
  if arrived selected then do
    let direction ← bot.arrivalBrake observation body selected state.lastCompletedTick
    return (direction, { state with reason := .arrived })
  else
    let (choice, random) := (state.random.getD (.create 0)).nextUnitInterval
    if choice < bot.profile.objectiveSeekProbability then do
      let (aim, random) := random.nextUnitInterval
      let direction ← bot.aimAt body selected aim
      return (direction, { state with
        random := some random
        reason := if selected.escapeBlocked then .pursuingUnderRisk else .pursuing })
    else .ok (zero, { state with random := some random, reason := .seekDeclined })

def act (gate : TacticalGate S) : Decided (TacticalDecision S) := do
  let (zero : Vector2 S) ← decided (Vector2.create 0 0)
  let state ← decided (bot.rearm observation gate.state)
  match ← decided (bot.chooseLease observation gate.candidates state) with
  | none =>
    return ⟨if gate.cancelled then observation.requestThrust bot.controller zero else [],
      { state with reason := .noScreenedCandidate, heldDirection := none }, bot.lastSpawnRequestTick⟩
  | some (lease, hold) =>
    let (direction, state) ← decided (bot.steer observation gate.body lease.candidate zero
      { state with lease := some lease, hold := hold })
    let thrust := observation.requestThrust bot.controller direction
    let (ability, reason) ← decided (requestAbility observation queries bot.controller gate.self gate.body
      bot.profile.policy lease.candidate state.reason)
    return ⟨thrust ++ ability.take 1, { state with heldDirection := some direction, reason := reason },
      bot.lastSpawnRequestTick⟩

def decideNext : Decided (TacticalDecision S) := do
  match ← bot.approach queries observation with
  | .complete decision => return decision
  | .gate gate => bot.act queries observation gate

def acceptsObservation : Bool :=
  !bot.state.lastCompletedTick.any fun last => observation.tickSequence.value ≤ last.value

/-- The controller at the body this observation shows it. A seated one asks again at once after an elimination. -/
def seat : TacticalController S :=
  { bot with
    entity := observation.entity
    lastSpawnRequestTick := if observation.entity.isSome then none else bot.lastSpawnRequestTick }

/-- `decide_from_observation`: a thrown decision is not consumed. -/
def decideFromObservation : TacticalController S × Decided (List (Command S)) :=
  match bot.decideNext queries observation with
  | .error error => (bot, .error error)
  | .ok decision => ({ bot with
      lastSpawnRequestTick := decision.lastSpawnRequestTick
      state := decision.state.completeAt observation.tickSequence }, .ok decision.commands)

/-- `Controller::decide`. -/
def decide : TacticalController S × Decided (List (Command S)) :=
  if observation.controller ≠ bot.controller then
    (bot, .error (.controllers ⟨.observationControllerMismatch, "controller.decide.observation",
      "controller " ++ toString bot.controller.value ++ " was handed an observation built for controller " ++
        toString observation.controller.value⟩))
  else if !bot.acceptsObservation observation then (bot, .ok [])
  else (bot.seat observation).decideFromObservation queries observation

end TacticalController

end BlobRoyale.Controllers
