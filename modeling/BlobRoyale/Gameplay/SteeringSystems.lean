import BlobRoyale.Gameplay.AbilityPass
import BlobRoyale.Gameplay.ChargeContactSystem
import BlobRoyale.Gameplay.Locomotion
import BlobRoyale.Gameplay.StatusSettling

/-!
# Steering systems

The two pre-kernel systems next to the abilities: thrust with its brake, and the quarter turns. A pass over
everybody with a controller and a body, in ascending order.
-/

namespace BlobRoyale.Gameplay

open Simulation Transition

variable {S : Type} [Scalar S]

def brakeDecelerationWorldUnitsPerSecondSquared : S := ((2400 : Nat) : S)

namespace ThrustSteeringSystem

/-- The thrust this tick recorded for one entity. -/
def recordedThrustOf (controllable : Controllable S) : Option (ThrustCommand S) :=
  controllable.commandsThisTick.findSome? fun
    | .thrust thrust => some thrust
    | _ => none

/-- The held input, replaced by a recorded thrust of the same generation. -/
def heldInput (controllable : Controllable S) : Validated (Option (Vector2 S) × Bool) :=
  match recordedThrustOf controllable with
  | none => .ok (controllable.normalizedThrustIntent, controllable.brakingIntent)
  | some thrust =>
      if thrust.inputGeneration = controllable.inputGeneration then do
        let intent ← normalizedThrustIntent thrust.direction
        return (some intent, thrust.braking)
      else .ok (controllable.normalizedThrustIntent, controllable.brakingIntent)

def holding (world : GameWorld S) (entity : EntityId) (intent : Option (Vector2 S)) (braking : Bool) : GameWorld S :=
  world.withControllables (world.controllables.modify entity fun controllable =>
    { controllable with normalizedThrustIntent := intent, brakingIntent := braking })

def store (world : GameWorld S) (entity : EntityId) (body : PhysicsBody S) : Except Failure (GameWorld S) := do
  let bodies ← throughEngine (world.bodies.insertOrAssign entity body)
  return world.withBodies bodies

/-- The share of a velocity that one tick of braking leaves. -/
def brakingFraction (speed : S) : S :=
  let impulse := brakeDecelerationWorldUnitsPerSecondSquared * fixedDeltaSeconds
  if speed ≤ impulse then 0 else 1 - impulse / speed

def cancelCharge (tick : TickSequence) (world : GameWorld S) (entity : EntityId) : Except Failure (GameWorld S) :=
  match (world.stores .charge).find entity with
  | none => .ok world
  | some charge => do
      let canceled ← throughEngine (charge.canceledAt tick)
      let charges ← throughEngine ((world.stores .charge).insertOrAssign entity canceled)
      return world.withStore .charge charges

variable (hypot : S → S → S) (tick : TickSequence)

/-- `hypot` is the library's. -/
def brake (world : GameWorld S) (entity : EntityId) (body : PhysicsBody S) : Except Failure (GameWorld S) := do
  let fraction := brakingFraction (hypot body.velocity.x body.velocity.y)
  let slowed ← throughEngine (Vector2.create (body.velocity.x * fraction) (body.velocity.y * fraction))
  let still ← throughEngine (Vector2.create 0 0)
  let stopped ← store world entity ((body.withVelocity slowed).withAcceleration still)
  cancelCharge tick stopped entity

def propel (world : GameWorld S) (entity : EntityId) (body : PhysicsBody S) (intent : Vector2 S) :
    Except Failure (GameWorld S) := do
  let acceleration ← propelledAcceleration body.velocity intent world.matchState.movement.current
  store world entity (body.withAcceleration acceleration)

def visit (world : GameWorld S) (joined : EntityId × Controllable S × PhysicsBody S) :
    Except Failure (GameWorld S) :=
  let entity := joined.1
  let body := joined.2.2
  if inputIsLocked world entity tick then do
    let zero ← throughEngine (Vector2.create 0 0)
    store (holding world entity (some zero) false) entity (body.withAcceleration zero)
  else do
    let (intent, braking) ← throughEngine (heldInput joined.2.1)
    let held := holding world entity intent braking
    if braking && !body.isStatic then brake hypot tick held entity body
    else
      match intent with
      | none => return held
      | some intent => propel held entity body intent

/-- `ThrustSteeringSystem::apply`. -/
def apply (hypot : S → S → S) (world : GameWorld S) (context : TickContext S) : Except Failure (GameWorld S) :=
  (world.controllables.join world.bodies).foldlM (visit hypot context.tickSequence) world

end ThrustSteeringSystem

namespace VelocityRotationSystem

def rotated (velocity : Vector2 S) (clockwise : Bool) : Validated (Vector2 S) :=
  if clockwise then Vector2.create (-velocity.y) velocity.x else Vector2.create velocity.y (-velocity.x)

/-- One recorded command of an entity; the turns of one tick follow each other. -/
def turn (entity : EntityId) (generation : Option TickSequence) (pass : GameWorld S × PhysicsBody S)
    (command : Command S) : Validated (GameWorld S × PhysicsBody S) :=
  match command with
  | .rotateVelocity rotation =>
      if rotation.inputGeneration ≠ generation then .ok pass
      else do
        let velocity ← rotated pass.2.velocity rotation.clockwise
        let turned := pass.2.withVelocity velocity
        let bodies ← pass.1.bodies.insertOrAssign entity turned
        return (pass.1.withBodies bodies, turned)
  | _ => .ok pass

def visit (tick : TickSequence) (world : GameWorld S) (joined : EntityId × Controllable S × PhysicsBody S) :
    Validated (GameWorld S) :=
  if joined.2.2.isStatic || inputIsLocked world joined.1 tick then .ok world
  else do
    let pass ← joined.2.1.commandsThisTick.foldlM (turn joined.1 joined.2.1.inputGeneration) (world, joined.2.2)
    return pass.1

/-- `VelocityRotationSystem::apply`. -/
def apply (world : GameWorld S) (context : TickContext S) : Validated (GameWorld S) :=
  if world.matchState.phase ≠ .running then .ok world
  else (world.controllables.join world.bodies).foldlM (visit context.tickSequence) world

end VelocityRotationSystem

end BlobRoyale.Gameplay

/-!
# The field

What steering and fighting leave alone: who has a body and who drives it, the match record, and every component
but the three of the abilities.
-/

namespace BlobRoyale.Gameplay

open Simulation Transition

/-- The kinds whose values steering and fighting change. -/
def isContested : ComponentKind → Bool
  | .physicsBody | .controllable | .stun | .shield | .charge => true
  | _ => false

variable {S : Type} [Scalar S]

/-- The players are the same, and nothing but stun requests was emitted. -/
structure FieldKept (before after : GameWorld S) : Prop where
  embodied : ∀ entity, (after.bodies.find entity).isSome = (before.bodies.find entity).isSome
  linked : ∀ entity, after.controllerOf entity = before.controllerOf entity
  rest : ∀ kind, isContested kind = false → after.stores kind = before.stores kind
  record : after.matchState = before.matchState
  random : after.random = before.random
  reservation : after.reservation = before.reservation
  events : ∃ added, after.events = before.events ++ added ∧
    ∀ event ∈ added, ∃ entity duration, event = .stunRequest entity duration

namespace FieldKept

variable {world next : GameWorld S} {entity : EntityId}

theorem refl (world : GameWorld S) : FieldKept world world :=
  ⟨fun _ => rfl, fun _ => rfl, fun _ _ => rfl, rfl, rfl, rfl, [], (List.append_nil _).symm, fun _ none => nomatch none⟩

theorem trans {first second third : GameWorld S} (left : FieldKept first second) (right : FieldKept second third) :
    FieldKept first third := by
  obtain ⟨earlier, emitted, asks⟩ := left.events
  obtain ⟨later, emittedAfter, asksAfter⟩ := right.events
  refine ⟨fun entity => (right.embodied entity).trans (left.embodied entity),
    fun entity => (right.linked entity).trans (left.linked entity),
    fun kind apart => (right.rest kind apart).trans (left.rest kind apart), right.record.trans left.record,
    right.random.trans left.random, right.reservation.trans left.reservation, earlier ++ later, ?_, ?_⟩
  · rw [emittedAfter, emitted, List.append_assoc]
  · intro event member
    obtain before | after := List.mem_append.mp member
    · exact asks event before
    · exact asksAfter event after

theorem withStore {kind : ComponentKind} (contested : isContested kind = true) (noBody : kind ≠ .physicsBody)
    (noLink : kind ≠ .controllable) (store : ComponentStore (kind.Value S)) :
    FieldKept world (world.withStore kind store) := by
  refine ⟨fun entity => ?_, fun entity => ?_, fun other apart => ?_, rfl, rfl, rfl, [], (List.append_nil _).symm,
    fun _ none => nomatch none⟩
  · rw [GameWorld.bodies, GameWorld.withStore_other _ (Ne.symm noBody)]
  · rw [GameWorld.controllerOf, GameWorld.controllables, GameWorld.withStore_other _ (Ne.symm noLink)]
    rfl
  · refine GameWorld.withStore_other _ fun same => ?_
    rw [same, contested] at apart
    cases apart

theorem withBodies {bodies : ComponentStore (PhysicsBody S)}
    (same : ∀ entity, (bodies.find entity).isSome = (world.bodies.find entity).isSome) :
    FieldKept world (world.withBodies bodies) := by
  refine ⟨fun entity => ?_, fun entity => ?_, fun other apart => ?_, rfl, rfl, rfl, [], (List.append_nil _).symm,
    fun _ none => nomatch none⟩
  · rw [GameWorld.bodies, GameWorld.withBodies, GameWorld.withStore_same]
    exact same entity
  · exact congrArg (fun store : ComponentStore (Controllable S) => (store.find entity).map (·.controllerId))
      (GameWorld.withStore_other _ (show ComponentKind.controllable ≠ .physicsBody by decide))
  · refine GameWorld.withStore_other _ fun same => ?_
    rw [same] at apart
    cases apart

theorem insertBody {body : PhysicsBody S} {bodies : ComponentStore (PhysicsBody S)}
    (embodied : (world.bodies.find entity).isSome = true)
    (inserted : world.bodies.insertOrAssign entity body = .ok bodies) : FieldKept world (world.withBodies bodies) := by
  refine withBodies fun other => ?_
  rw [ComponentStore.find_of_insertOrAssign inserted]
  split
  · next same => rw [same, embodied]; rfl
  · rfl

theorem modifyLink {change : Controllable S → Controllable S}
    (same : ∀ controllable, (change controllable).controllerId = controllable.controllerId) :
    FieldKept world (world.withControllables (world.controllables.modify entity change)) := by
  refine ⟨fun other => ?_, fun other => ?_, fun other apart => ?_, rfl, rfl, rfl, [], (List.append_nil _).symm,
    fun _ none => nomatch none⟩
  · exact congrArg (fun store : ComponentStore (PhysicsBody S) => (store.find other).isSome)
      (GameWorld.withStore_other _ (show ComponentKind.physicsBody ≠ .controllable by decide))
  · rw [GameWorld.controllerOf_withControllables, ComponentStore.find_modify, GameWorld.controllerOf]
    split
    · rw [Option.map_map]
      exact congrArg (fun read => (world.controllables.find other).map read) (funext same)
    · rfl
  · refine GameWorld.withStore_other _ fun same => ?_
    rw [same] at apart
    cases apart

theorem emit {duration : Nat} (emitted : world.emit (.stunRequest entity duration) = .ok next) :
    FieldKept world next := by
  rw [GameWorld.emit_eq_ok emitted]
  refine ⟨fun _ => rfl, fun _ => rfl, fun _ _ => rfl, rfl, rfl, rfl, [_], rfl, fun event member => ?_⟩
  exact ⟨entity, duration, List.mem_singleton.mp member⟩

theorem foldlM_join {ε : Type} {visit : GameWorld S → EntityId × Controllable S × PhysicsBody S → Except ε (GameWorld S)}
    (keeps : ∀ before joined after, (before.bodies.find joined.1).isSome = true →
      visit before joined = .ok after → FieldKept before after)
    {joined : List (EntityId × Controllable S × PhysicsBody S)}
    (present : ∀ entry ∈ joined, (world.bodies.find entry.1).isSome = true)
    (folded : joined.foldlM visit world = .ok next) : FieldKept world next :=
  foldlM_preserves (P := FieldKept world) (fun entry member before after held stepped =>
    held.trans (keeps before entry after ((held.embodied entry.1).trans (present entry member)) stepped))
    (refl world) folded

theorem join_embodied {first : ComponentStore (Controllable S)} {second : ComponentStore (PhysicsBody S)}
    {entry : EntityId × Controllable S × PhysicsBody S} (member : entry ∈ first.join second) :
    (second.find entry.1).isSome = true := by
  rw [(ComponentStore.mem_join.mp member).2]
  rfl

end FieldKept

section Systems

variable {world next : GameWorld S} {context : TickContext S} {entity : EntityId} {tick : TickSequence}

namespace ThrustSteeringSystem

theorem store_kept {body : PhysicsBody S} (embodied : (world.bodies.find entity).isSome = true)
    (stored : store world entity body = .ok next) : FieldKept world next := by
  obtain ⟨bodies, inserted, committed⟩ := bind_eq_ok.mp stored
  cases committed
  exact .insertBody embodied (throughEngine_eq_ok.mp inserted)

theorem holding_kept (world : GameWorld S) (entity : EntityId) (intent : Option (Vector2 S)) (braking : Bool) :
    FieldKept world (holding world entity intent braking) :=
  .modifyLink fun _ => rfl

theorem cancelCharge_kept (canceled : cancelCharge tick world entity = .ok next) : FieldKept world next := by
  unfold cancelCharge at canceled
  split at canceled
  · cases canceled
    exact .refl world
  · obtain ⟨_, -, rest⟩ := bind_eq_ok.mp canceled
    obtain ⟨charges, -, committed⟩ := bind_eq_ok.mp rest
    cases committed
    exact .withStore rfl (by decide) (by decide) charges

theorem brake_kept {hypot : S → S → S} {body : PhysicsBody S} (embodied : (world.bodies.find entity).isSome = true)
    (braked : brake hypot tick world entity body = .ok next) : FieldKept world next := by
  obtain ⟨_, -, rest⟩ := bind_eq_ok.mp braked
  obtain ⟨_, -, rest⟩ := bind_eq_ok.mp rest
  obtain ⟨stopped, stored, canceled⟩ := bind_eq_ok.mp rest
  exact (store_kept embodied stored).trans (cancelCharge_kept canceled)

theorem propel_kept {body : PhysicsBody S} {intent : Vector2 S} (embodied : (world.bodies.find entity).isSome = true)
    (propelled : propel world entity body intent = .ok next) : FieldKept world next := by
  obtain ⟨_, -, stored⟩ := bind_eq_ok.mp propelled
  exact store_kept embodied stored

theorem visit_kept {hypot : S → S → S} {joined : EntityId × Controllable S × PhysicsBody S}
    (embodied : (world.bodies.find joined.1).isSome = true) (visited : visit hypot tick world joined = .ok next) :
    FieldKept world next := by
  unfold visit at visited
  dsimp only at visited
  have held (intent : Option (Vector2 S)) (braking : Bool) := holding_kept world joined.1 intent braking
  have still (intent : Option (Vector2 S)) (braking : Bool) :=
    ((held intent braking).embodied joined.1).trans embodied
  split at visited
  · obtain ⟨_, -, stored⟩ := bind_eq_ok.mp visited
    exact (held _ _).trans (store_kept (still _ _) stored)
  · obtain ⟨⟨intent, braking⟩, -, steered⟩ := bind_eq_ok.mp visited
    dsimp only at steered
    split at steered
    · exact (held _ _).trans (brake_kept (still _ _) steered)
    · split at steered
      · cases steered
        exact held _ _
      · exact (held _ _).trans (propel_kept (still _ _) steered)

theorem apply_kept {hypot : S → S → S} (applied : apply hypot world context = .ok next) : FieldKept world next :=
  FieldKept.foldlM_join (fun _ _ _ embodied visited => visit_kept embodied visited)
    (fun _ member => FieldKept.join_embodied member) applied

end ThrustSteeringSystem

namespace VelocityRotationSystem

theorem turn_kept {generation : Option TickSequence} {pass after : GameWorld S × PhysicsBody S} {command : Command S}
    (embodied : (pass.1.bodies.find entity).isSome = true) (turned : turn entity generation pass command = .ok after) :
    FieldKept pass.1 after.1 := by
  unfold turn at turned
  split at turned
  · split at turned
    · cases turned
      exact .refl pass.1
    · obtain ⟨_, -, rest⟩ := bind_eq_ok.mp turned
      obtain ⟨bodies, inserted, committed⟩ := bind_eq_ok.mp rest
      cases committed
      exact .insertBody embodied inserted
  · cases turned
    exact .refl pass.1

theorem visit_kept {joined : EntityId × Controllable S × PhysicsBody S}
    (embodied : (world.bodies.find joined.1).isSome = true) (visited : visit tick world joined = .ok next) :
    FieldKept world next := by
  unfold visit at visited
  split at visited
  · cases visited
    exact .refl world
  · obtain ⟨pass, folded, committed⟩ := bind_eq_ok.mp visited
    cases committed
    exact foldlM_preserves (P := fun pass : GameWorld S × PhysicsBody S => FieldKept world pass.1)
      (fun command _ before after held turned =>
        held.trans (turn_kept ((held.embodied joined.1).trans embodied) turned)) (.refl world) folded

theorem apply_kept (applied : apply world context = .ok next) : FieldKept world next := by
  unfold apply at applied
  split at applied
  · cases applied
    exact .refl world
  · exact FieldKept.foldlM_join (fun _ _ _ embodied visited => visit_kept embodied visited)
      (fun _ member => FieldKept.join_embodied member) applied

end VelocityRotationSystem

namespace AbilitySystem

variable {configuration : AbilityConfiguration S}

theorem visit_kept {joined : EntityId × Controllable S × PhysicsBody S}
    (embodied : (world.bodies.find joined.1).isSome = true)
    (visited : visit configuration tick world joined = .ok next) : FieldKept world next := by
  obtain ⟨admission, -, performed⟩ := bind_eq_ok.mp visited
  cases admission with
  | refused =>
    cases performed
    exact .refl world
  | shield =>
    obtain ⟨_, -, rest⟩ := bind_eq_ok.mp performed
    obtain ⟨shields, -, committed⟩ := bind_eq_ok.mp rest
    cases committed
    exact .withStore rfl (by decide) (by decide) shields
  | charge velocity =>
    obtain ⟨_, -, rest⟩ := bind_eq_ok.mp performed
    obtain ⟨charges, -, rest⟩ := bind_eq_ok.mp rest
    obtain ⟨bodies, inserted, committed⟩ := bind_eq_ok.mp rest
    cases committed
    have charging : FieldKept world (world.withStore .charge charges) := .withStore rfl (by decide) (by decide) charges
    exact charging.trans (.insertBody ((charging.embodied joined.1).trans embodied) inserted)

theorem apply_kept (applied : apply configuration world context = .ok next) : FieldKept world next := by
  have shields : FieldKept world (sweepShields context.tickSequence world) := .withStore rfl (by decide) (by decide) _
  have charges : FieldKept (sweepShields context.tickSequence world)
      (sweepCharges context.tickSequence (sweepShields context.tickSequence world)) :=
    .withStore rfl (by decide) (by decide) _
  exact (shields.trans charges).trans (FieldKept.foldlM_join (fun _ _ _ embodied visited => visit_kept embodied visited)
    (fun _ member => FieldKept.join_embodied member) applied)

end AbilitySystem

namespace ChargeContactSystem

theorem apply_kept (applied : apply world context = .ok next) : FieldKept world next := by
  obtain ⟨walk, -, emitted⟩ := bind_eq_ok.mp applied
  have charges : FieldKept world (world.withStore .charge walk.charges) := .withStore rfl (by decide) (by decide) _
  exact foldlM_preserves (P := FieldKept world) (fun request _ before after held asked => held.trans (.emit asked))
    charges emitted

end ChargeContactSystem

namespace StatusSystem

theorem commit_kept {entry : EntityId × TickWindow} (committed : commit tick world entry = .ok next) :
    FieldKept world next := by
  obtain ⟨stuns, -, rfl⟩ := commit_eq_ok.mp committed
  have stunned : FieldKept world (world.withStore .stun stuns) := .withStore rfl (by decide) (by decide) stuns
  exact stunned.trans (.modifyLink fun _ => rfl)

theorem hold_kept {zero : Vector2 S} {entry : EntityId × Stun} (holds : hold tick zero world entry = .ok next) :
    FieldKept world next := by
  cases stunned : entry.2.window.contains tick with
  | false =>
    cases (hold_of_not_stunned stunned).symm.trans holds
    exact .refl world
  | true =>
    obtain ⟨-, rfl⟩ := (hold_eq_ok stunned).mp holds
    rw [heldWorld_eq]
    refine FieldKept.trans ?_ (@FieldKept.withStore S _ _ .shield rfl (by decide) (by decide) _)
    refine FieldKept.trans ?_ (@FieldKept.withStore S _ _ .charge rfl (by decide) (by decide) _)
    have linked : FieldKept world (world.withControllables
        (world.controllables.modify entry.1 (held tick zero .controllable))) := .modifyLink fun _ => rfl
    refine linked.trans (.withBodies fun other => ?_)
    rw [ComponentStore.find_modify, linked.embodied other]
    split
    · exact Option.isSome_map
    · rfl

theorem apply_kept (applied : apply world context = .ok next) : FieldKept world next := by
  unfold apply at applied
  split at applied
  · cases applied
  · obtain ⟨committed, commits, rest⟩ := bind_eq_ok.mp applied
    obtain ⟨zero, -, holds⟩ := bind_eq_ok.mp rest
    have erased : FieldKept world (eraseExpired world context.tickSequence) :=
      .withStore rfl (by decide) (by decide) _
    have stunned : FieldKept world committed := foldlM_preserves (P := FieldKept world)
      (fun entry _ before after held stepped => held.trans (commit_kept stepped)) erased commits
    exact foldlM_preserves (P := FieldKept world)
      (fun entry _ before after held stepped => held.trans (hold_kept stepped)) stunned holds

end StatusSystem

end Systems

end BlobRoyale.Gameplay
