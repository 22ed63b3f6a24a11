import BlobRoyale.Gameplay.HillScoring
import BlobRoyale.Simulation.GameSimulation

/-!
# The royale zone

The safe zone is a closed form of the phase clock and carries no state of its own; who stays outside of it is
counted tick by tick and named once the grace is used up.
-/

namespace BlobRoyale.Gameplay

open Simulation Transition

/-- The `GAMEPLAY.ROYALE_*` codes that a tick or a map can be refused with. -/
inductive RoyaleValidationCode where
  | zoneEntityUnreserved
  | zoneAbsent
  | placementLimitExceeded
  | eliminatedEntityWithoutController
  | mapArenaWithinZoneMinimum
  deriving DecidableEq, Repr

/-- What a system of the mode throws. -/
inductive RoyaleFailure where
  | through (failure : Failure)
  | royale (code : RoyaleValidationCode) (context detail : String)
  deriving DecidableEq, Repr

/-- What another system refuses, thrown through the mode. -/
def throughMode {α : Type} : Except Failure α → Except RoyaleFailure α
  | .ok value => .ok value
  | .error failure => .error (.through failure)

theorem throughMode_eq_ok {α : Type} {result : Except Failure α} {value : α} :
    throughMode result = .ok value ↔ result = .ok value := by
  cases result <;> simp [throughMode]

/-- An engine refusal, thrown through the mode. -/
def throughRoyale {α : Type} (result : Validated α) : Except RoyaleFailure α := throughMode (throughEngine result)

theorem throughRoyale_eq_ok {α : Type} {result : Validated α} {value : α} :
    throughRoyale result = .ok value ↔ result = .ok value := by
  rw [throughRoyale, throughMode_eq_ok, throughEngine_eq_ok]

variable {S : Type} [Scalar S]

/-- The validated `[royale]` section. -/
structure RoyaleConfiguration (S : Type) [Scalar S] where
  zoneMinimumRadius : S
  zoneShrinkTicks : Nat
  eliminationGraceTicks : Nat
  countdownTicks : Nat
  restartDelayTicks : Nat
  minimumNonnegative : 0 ≤ zoneMinimumRadius

def zoneCenter (bounds : ArenaBounds S) : Validated (Vector2 S) :=
  Vector2.create (bounds.width / ((2 : Nat) : S)) (bounds.height / ((2 : Nat) : S))

def zoneFullRadius (bounds : ArenaBounds S) : S :=
  let halfWidth := bounds.width / ((2 : Nat) : S)
  let halfHeight := bounds.height / ((2 : Nat) : S)
  Scalar.sqrt (halfWidth * halfWidth + halfHeight * halfHeight)

def zoneRadius (fullRadius minimumRadius : S) (elapsedRunningTicks shrinkTicks : Nat) : S :=
  if shrinkTicks = 0 ∨ shrinkTicks ≤ elapsedRunningTicks then minimumRadius
  else
    let elapsedFraction := ((elapsedRunningTicks : Nat) : S) / ((shrinkTicks : Nat) : S)
    fullRadius - (fullRadius - minimumRadius) * elapsedFraction

namespace ZoneShrinkSystem

/-- The radius of a tick, from the phase clock it takes. -/
def radius (configuration : RoyaleConfiguration S) (bounds : ArenaBounds S) (matchState : MatchState S)
    (tick : TickSequence) : S :=
  match matchState.phase with
  | .lobby | .countdown => zoneFullRadius bounds
  | .running =>
      zoneRadius (zoneFullRadius bounds) configuration.zoneMinimumRadius
        (ticksSince tick matchState.runningStartedTick) configuration.zoneShrinkTicks
  | .ended =>
      zoneRadius (zoneFullRadius bounds) configuration.zoneMinimumRadius
        (ticksSince matchState.phaseStartedTick matchState.runningStartedTick) configuration.zoneShrinkTicks

def createZoneEntity (world : GameWorld S) : Except RoyaleFailure (EntityId × GameWorld S) :=
  if world.reservation.count = 0 then
    .error (.royale .zoneEntityUnreserved "zone_shrink.zone_entity"
      ("royale draws one EntityId from the tick's reservation to create the zone entity, and this tick's " ++
        "reservation is empty"))
  else throughRoyale world.createEntity

/-- `zones.empty() ? create_zone_entity(world) : zones.front().entity`. -/
def zoneEntity (world : GameWorld S) : Except RoyaleFailure (EntityId × GameWorld S) :=
  let zones : ComponentStore (Zone S) := world.stores .zone
  match zones.entries.head? with
  | none => createZoneEntity world
  | some front => .ok (front.1, world)

/-- `ZoneShrinkSystem::apply`. -/
def apply (configuration : RoyaleConfiguration S) (world : GameWorld S) (context : TickContext S) :
    Except RoyaleFailure (GameWorld S) := do
  let center ← throughRoyale (zoneCenter context.map.bounds)
  let radius := radius configuration context.map.bounds world.matchState context.tickSequence
  let (entity, world) ← zoneEntity world
  let assigned ← throughRoyale ((world.stores .zone).insertOrAssign entity ⟨center, radius⟩)
  return world.withStore .zone assigned

end ZoneShrinkSystem

namespace ZoneEliminationSystem

def outsideTicks (exposure : Option ZoneExposure) : Nat := (exposure.map ZoneExposure.outsideTicks).getD 0

def visit (graceTicks : Nat) (zone : Zone S) (world : GameWorld S)
    (joined : EntityId × PhysicsBody S × Controllable S) : Validated (GameWorld S) :=
  let exposures : ComponentStore ZoneExposure := world.stores .zoneExposure
  if centerIsOutside joined.2.1.position zone.center zone.radius = false then
    .ok (world.withStore .zoneExposure (exposures.erase joined.1))
  else do
    let outside := outsideTicks (exposures.find joined.1) + 1
    let counted ← exposures.insertOrAssign joined.1 ⟨outside⟩
    let exposed := world.withStore .zoneExposure counted
    if graceTicks ≤ outside then exposed.emit (.elimination joined.1) else return exposed

/-- `ZoneEliminationSystem::apply`. -/
def apply (configuration : RoyaleConfiguration S) (world : GameWorld S) : Except RoyaleFailure (GameWorld S) :=
  if world.matchState.phase ≠ .running then .ok world
  else
    let zones : ComponentStore (Zone S) := world.stores .zone
    match zones.entries.head? with
    | none => .error (.royale .zoneAbsent "zone_elimination.zone"
        ("no entity carries a Zone while the match is running; zone_elimination must be declared after " ++
          "zone_shrink at kPostKernel"))
    | some front =>
        throughRoyale ((world.bodies.join world.controllables).foldlM
          (visit configuration.eliminationGraceTicks front.2) world)

end ZoneEliminationSystem

section Shrink

variable {configuration : RoyaleConfiguration S} {world next : GameWorld S} {context : TickContext S}

def SoleZone (world : GameWorld S) : Prop :=
  ∀ first second, ((world.stores .zone).find first).isSome = true →
    ((world.stores .zone).find second).isSome = true → first = second

def zoneOf (world : GameWorld S) : Option (Zone S) :=
  let zones : ComponentStore (Zone S) := world.stores .zone
  zones.entries.head?.map Prod.snd

namespace ZoneShrinkSystem

/-- What a tick's zone is written as: over the one there is, or on a new entity. -/
structure Shrunk (zone : Zone S) (before after : GameWorld S) : Prop where
  written : ∃ entity, (after.stores .zone).entries = [(entity, zone)] ∧
    ((after.reservation = before.reservation ∧ ((before.stores .zone).find entity).isSome = true) ∨
      ((before.stores .zone).entries = [] ∧ before.reservation.drawNext = .ok (entity, after.reservation) ∧
        before.contains entity = false))
  rest : ∀ kind, kind ≠ .zone → after.stores kind = before.stores kind
  record : after.matchState = before.matchState
  events : after.events = before.events
  random : after.random = before.random

theorem entries_of_insertOrAssign {V : Type} {store stored : ComponentStore V} {entity : EntityId} {value : V}
    (alone : ∀ other ∈ store.keys, other = entity) (inserted : store.insertOrAssign entity value = .ok stored) :
    stored.entries = [(entity, value)] := by
  have found := ComponentStore.find_of_insertOrAssign inserted
  have member : (entity, value) ∈ stored.entries := SortedStore.find_eq_some_iff.mp ((found entity).trans (if_pos rfl))
  have only : ∀ entry ∈ stored.entries, entry = (entity, value) := by
    intro entry held
    have present : stored.find entry.1 = some entry.2 := SortedStore.find_eq_some_iff.mpr held
    rw [found] at present
    split at present
    · next same => exact Prod.ext same (Option.some.inj present).symm
    · next different =>
      refine absurd (alone entry.1 (SortedStore.mem_keys_iff.mpr ?_)) different
      rw [present]
      rfl
  have distinct := stored.keys_nodup
  rw [SortedStore.keys] at distinct
  cases entries : stored.entries with
  | nil =>
    rw [entries] at member
    cases member
  | cons first rest =>
    rw [entries] at only distinct
    cases rest with
    | nil => rw [only first List.mem_cons_self]
    | cons second others =>
      have same : first.1 = second.1 := by
        rw [only first List.mem_cons_self, only second (List.mem_cons_of_mem _ List.mem_cons_self)]
      simp [same] at distinct

theorem apply_eq_ok (sole : SoleZone world) (applied : apply configuration world context = .ok next) :
    ∃ center, zoneCenter context.map.bounds = .ok center ∧
      Shrunk ⟨center, radius configuration context.map.bounds world.matchState context.tickSequence⟩ world next := by
  obtain ⟨center, centered, rest⟩ := bind_eq_ok.mp applied
  obtain ⟨⟨entity, carrying⟩, chosen, rest⟩ := bind_eq_ok.mp rest
  obtain ⟨assigned, inserted, committed⟩ := bind_eq_ok.mp rest
  cases committed
  refine ⟨center, throughRoyale_eq_ok.mp centered, ?_⟩
  have stored := throughRoyale_eq_ok.mp inserted
  unfold zoneEntity at chosen
  dsimp only at chosen stored
  split at chosen
  · next none =>
    have empty : (world.stores .zone).entries = [] := List.head?_eq_none_iff.mp none
    unfold createZoneEntity at chosen
    split at chosen
    · cases chosen
    · obtain ⟨rest, drawn, absent, rfl⟩ := GameWorld.createEntity_eq_ok (throughRoyale_eq_ok.mp chosen)
      refine ⟨⟨entity, ?_, .inr ⟨empty, drawn, absent⟩⟩, fun kind other => GameWorld.withStore_other _ other, rfl,
        rfl, rfl⟩
      rw [GameWorld.withStore_same]
      refine entries_of_insertOrAssign (fun other member => ?_) stored
      have nobody : (world.stores .zone).keys = [] := by rw [SortedStore.keys, empty]; rfl
      exact absurd (nobody ▸ member) List.not_mem_nil
  · next front first =>
    cases chosen
    have held : ((world.stores .zone).find front.1).isSome = true := by
      have member : (front.1, front.2) ∈ (world.stores .zone).entries := List.mem_of_head? first
      rw [SortedStore.find_eq_some_iff.mpr member]
      rfl
    refine ⟨⟨front.1, ?_, .inl ⟨rfl, held⟩⟩, fun kind other => GameWorld.withStore_other _ other, rfl, rfl, rfl⟩
    rw [GameWorld.withStore_same]
    refine entries_of_insertOrAssign (fun other member => ?_) stored
    exact sole other front.1 (SortedStore.mem_keys_iff.mp member) held

theorem Shrunk.zoneOf {zone : Zone S} (shrunk : Shrunk zone world next) : zoneOf next = some zone := by
  obtain ⟨entity, entries, -⟩ := shrunk.written
  rw [Gameplay.zoneOf, entries]
  rfl

theorem Shrunk.carrier {zone : Zone S} (shrunk : Shrunk zone world next) :
    ∃ entity, ∀ other, (next.stores .zone).find other = if other = entity then some zone else none := by
  obtain ⟨entity, entries, -⟩ := shrunk.written
  refine ⟨entity, fun other => ?_⟩
  split
  · next same =>
    rw [same, SortedStore.find_eq_some_iff, entries]
    exact List.mem_singleton_self _
  · next different =>
    cases found : (next.stores .zone).find other with
    | none => rfl
    | some value =>
      have member := SortedStore.find_eq_some_iff.mp found
      rw [entries] at member
      exact absurd (congrArg Prod.fst (List.mem_singleton.mp member)) different

end ZoneShrinkSystem

end Shrink

section Elimination

variable {configuration : RoyaleConfiguration S} {graceTicks : Nat} {zone : Zone S} {world next : GameWorld S}
  {joined : List (EntityId × PhysicsBody S × Controllable S)}

namespace ZoneEliminationSystem

def isOutside (zone : Zone S) (body : PhysicsBody S) : Bool := centerIsOutside body.position zone.center zone.radius

def counted (outside : Bool) (exposure : Option ZoneExposure) : Option ZoneExposure :=
  if outside then some ⟨outsideTicks exposure + 1⟩ else none

def names (graceTicks : Nat) (outside : Bool) (exposure : Option ZoneExposure) : Bool :=
  outside && decide (graceTicks ≤ outsideTicks (counted outside exposure))

/-- The entities a pass names, in the order of the visits. -/
def namedBy (graceTicks : Nat) (zone : Zone S) (world : GameWorld S)
    (joined : List (EntityId × PhysicsBody S × Controllable S)) : List EntityId :=
  (joined.filter fun entry =>
    names graceTicks (isOutside zone entry.2.1) ((world.stores .zoneExposure).find entry.1)).map Prod.fst

/-- What the visits of distinct entities leave. -/
structure Judged (graceTicks : Nat) (zone : Zone S) (joined : List (EntityId × PhysicsBody S × Controllable S))
    (before after : GameWorld S) : Prop where
  visited : ∀ entry ∈ joined, (after.stores .zoneExposure).find entry.1 =
    counted (isOutside zone entry.2.1) ((before.stores .zoneExposure).find entry.1)
  others : ∀ entity, entity ∉ joined.map Prod.fst →
    (after.stores .zoneExposure).find entity = (before.stores .zoneExposure).find entity
  rest : ∀ kind, kind ≠ .zoneExposure → after.stores kind = before.stores kind
  record : after.matchState = before.matchState
  random : after.random = before.random
  reservation : after.reservation = before.reservation
  events : after.events = before.events ++ (namedBy graceTicks zone before joined).map WorldEvent.elimination

theorem visit_eq_ok {entry : EntityId × PhysicsBody S × Controllable S}
    (visited : visit graceTicks zone world entry = .ok next) : Judged graceTicks zone [entry] world next := by
  have alone : ∀ other, other ∉ [entry].map Prod.fst → other ≠ entry.1 := by
    intro other absent same
    exact absent (same ▸ List.mem_singleton_self _)
  unfold visit at visited
  dsimp only at visited
  split at visited
  · next inside =>
    cases visited
    refine ⟨fun other member => ?_, fun other absent => ?_, fun kind other => GameWorld.withStore_other _ other, rfl,
      rfl, rfl, ?_⟩
    · rw [List.mem_singleton.mp member, GameWorld.withStore_same, ComponentStore.find_erase, if_pos rfl, isOutside,
        inside]
      rfl
    · rw [GameWorld.withStore_same, ComponentStore.find_erase, if_neg (alone other absent)]
    · simp [namedBy, names, isOutside, inside]
  · next notInside =>
    have outside : isOutside zone entry.2.1 = true := Bool.not_eq_false _ ▸ notInside
    obtain ⟨stored, inserted, rest⟩ := bind_eq_ok.mp visited
    have found := ComponentStore.find_of_insertOrAssign inserted
    have written : ∀ other, ((world.withStore .zoneExposure stored).stores .zoneExposure).find other =
        if other = entry.1 then counted true ((world.stores .zoneExposure).find entry.1)
        else (world.stores .zoneExposure).find other := by
      intro other
      rw [GameWorld.withStore_same, found]
      rfl
    have due : (graceTicks ≤ outsideTicks ((world.stores .zoneExposure).find entry.1) + 1) ↔
        names graceTicks true ((world.stores .zoneExposure).find entry.1) = true := by
      rw [names, Bool.true_and, decide_eq_true_eq]
      rfl
    have stores : next.stores = (world.withStore .zoneExposure stored).stores ∧
        next.matchState = world.matchState ∧ next.random = world.random ∧ next.reservation = world.reservation ∧
        next.events = world.events ++ (namedBy graceTicks zone world [entry]).map WorldEvent.elimination := by
      rw [namedBy, List.filter_singleton, outside]
      split at rest
      · next late =>
        rw [GameWorld.emit_eq_ok rest, due.mp late]
        exact ⟨rfl, rfl, rfl, rfl, rfl⟩
      · next early =>
        cases rest
        rw [Bool.eq_false_iff.mpr (mt due.mpr early)]
        exact ⟨rfl, rfl, rfl, rfl, (List.append_nil _).symm⟩
    obtain ⟨same, record, random, reservation, events⟩ := stores
    refine ⟨fun other member => ?_, fun other absent => ?_, fun kind other => ?_, record, random, reservation, events⟩
    · rw [List.mem_singleton.mp member, same, written, if_pos rfl, outside]
    · rw [same, written, if_neg (alone other absent)]
    · rw [same]
      exact GameWorld.withStore_other _ other

theorem foldlM_visit (distinct : (joined.map Prod.fst).Nodup)
    (folded : joined.foldlM (visit graceTicks zone) world = .ok next) : Judged graceTicks zone joined world next := by
  induction joined using List.reverseRecOn generalizing next with
  | nil =>
    cases folded
    exact ⟨(fun _ member => nomatch member), fun _ _ => rfl, fun _ _ => rfl, rfl, rfl, rfl, (List.append_nil _).symm⟩
  | append_singleton earlier last ih =>
    obtain ⟨middle, reached, stepped⟩ := foldlM_concat.mp folded
    rw [List.map_append, List.nodup_append] at distinct
    have before := ih distinct.1 reached
    have after := visit_eq_ok stepped
    have unseen : last.1 ∉ earlier.map Prod.fst := fun member =>
      distinct.2.2 last.1 member last.1 (List.mem_singleton_self _) rfl
    have apart : ∀ entry ∈ earlier, entry.1 ∉ [last].map Prod.fst := by
      intro entry member same
      exact unseen (List.mem_singleton.mp same ▸ List.mem_map_of_mem member)
    have fresh := before.others last.1 unseen
    refine ⟨fun entry member => ?_, fun entity absent => ?_, fun kind other => ?_, after.record.trans before.record,
      after.random.trans before.random, after.reservation.trans before.reservation, ?_⟩
    · obtain front | back := List.mem_append.mp member
      · rw [after.others entry.1 (apart entry front)]
        exact before.visited entry front
      · rw [after.visited entry back, List.mem_singleton.mp back, fresh]
    · rw [List.map_append, List.mem_append, not_or] at absent
      rw [after.others entity absent.2]
      exact before.others entity absent.1
    · exact (after.rest kind other).trans (before.rest kind other)
    · have same : namedBy graceTicks zone middle [last] = namedBy graceTicks zone world [last] := by
        rw [namedBy, namedBy, List.filter_singleton, List.filter_singleton, fresh]
      have split : namedBy graceTicks zone world (earlier ++ [last]) =
          namedBy graceTicks zone world earlier ++ namedBy graceTicks zone world [last] := by
        rw [namedBy, List.filter_append, List.map_append]
        rfl
      rw [after.events, before.events, same, split, List.map_append, List.append_assoc]

theorem apply_eq_ok (running : world.matchState.phase = .running) (zoned : zoneOf world = some zone)
    (applied : apply configuration world = .ok next) :
    Judged configuration.eliminationGraceTicks zone (world.bodies.join world.controllables) world next := by
  unfold apply at applied
  rw [if_neg (not_not_intro running)] at applied
  dsimp only at applied
  split at applied
  · cases applied
  · next front first =>
    have same : front.2 = zone := by
      rw [zoneOf, first] at zoned
      exact Option.some.inj zoned
    rw [same] at applied
    refine foldlM_visit ?_ (throughRoyale_eq_ok.mp applied)
    exact List.pairwise_map.mpr ((ComponentStore.join_ascending world.bodies world.controllables).imp ne_of_lt)

theorem apply_idle (idle : world.matchState.phase ≠ .running) (applied : apply configuration world = .ok next) :
    next = world := by
  unfold apply at applied
  rw [if_pos idle] at applied
  exact (Except.ok.inj applied).symm

theorem namedBy_ascending (graceTicks : Nat) (zone : Zone S) (world : GameWorld S) :
    (namedBy graceTicks zone world (world.bodies.join world.controllables)).Pairwise (· < ·) := by
  rw [namedBy, List.pairwise_map]
  exact (ComponentStore.join_ascending world.bodies world.controllables).filter _

end ZoneEliminationSystem

end Elimination

end BlobRoyale.Gameplay
