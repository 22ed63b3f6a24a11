import BlobRoyale.Library.Passes
import BlobRoyale.Simulation.SystemPipeline

/-!
# What one offer does

A policy that answers only free points never fails the pass, and whoever it seats keeps clear of
every other body. The mask a policy is asked with is the one of the world it is asked in.
-/

namespace BlobRoyale.Simulation

open Transition

variable {S : Type} [Scalar S]

/-- Two bodies whose centers are not within their contact distance, tolerance included. -/
def FartherThanContact (playerRadius : S) (body other : PhysicsBody S) : Prop :=
  let dx := other.position.x - body.position.x
  let dy := other.position.y - body.position.y
  lessThanOrApproximatelyEqual (Scalar.sqrt (dx * dx + dy * dy))
    (effectiveRadius body playerRadius + effectiveRadius other playerRadius) positionTolerance = false

def PolicyFault (code : SimulationValidationCode) : Prop :=
  code = .spawnPolicyIndexOutOfRange ∨ code = .spawnPolicyPointOccupied

/-- A terrain query refuses with codes of its own. -/
def MapDefinition.TerrainRefusesItsOwn (map : MapDefinition S) : Prop :=
  ∀ point radius refusal, map.terrainSupportsDisc point radius = .error refusal → ¬ PolicyFault refusal.code

namespace SpawnPolicy

def AnswersFree (policy : SpawnPolicy S) : Prop :=
  ∀ world context entity rotationCounter pointIsFree, ∃ chosen,
    policy.chooseSpawnPoint world context entity rotationCounter pointIsFree = .ok chosen ∧
      ∀ index, chosen = some index → pointIsFree[index]? = some true

/-- The world after an offer that seated. -/
structure Seated (context : TickContext S) (entity : EntityId) (before after : GameWorld S) : Prop where
  placed : ∃ index point body, context.map.spawnPoints[index]? = some point ∧
    after.bodies.find entity = some body ∧ body.position = point ∧
    after.matchState = { before.matchState with
      spawnRotationCounter := (index + 1) % context.map.spawnPoints.length } ∧
    ∀ other otherBody, other ≠ entity → after.bodies.find other = some otherBody →
      FartherThanContact context.simulationConfig.playerRadius body otherBody
  kept : ∀ kind other, other ≠ entity → (after.stores kind).find other = (before.stores kind).find other

theorem Seated.counter_lt {context : TickContext S} {entity : EntityId} {before after : GameWorld S}
    (seated : Seated context entity before after) :
    after.matchState.spawnRotationCounter < context.map.spawnPoints.length := by
  obtain ⟨index, point, body, place, -, -, advanced, -⟩ := seated.placed
  rw [advanced]
  obtain ⟨within, -⟩ := List.getElem?_eq_some_iff.mp place
  exact Nat.mod_lt _ (Nat.zero_lt_of_lt within)

section Mask

variable {point : Vector2 S} {bodies : List (EntityId × PhysicsBody S)} {playerRadius : S}
  {map : MapDefinition S} {context : TickContext S} {world : GameWorld S} {free : List Bool}

theorem seatIsSupportedAndUnoccupied_true
    (clear : seatIsSupportedAndUnoccupied point bodies playerRadius map = .ok true) :
    map.terrainSupportsDisc point playerRadius = .ok true ∧ ∀ entry ∈ bodies,
      lessThanOrApproximatelyEqual
        (Scalar.sqrt ((entry.2.position.x - point.x) * (entry.2.position.x - point.x) +
          (entry.2.position.y - point.y) * (entry.2.position.y - point.y)))
        (playerRadius + effectiveRadius entry.2 playerRadius) positionTolerance = false := by
  obtain ⟨supported, answered, both⟩ := bind_eq_ok.mp clear
  obtain ⟨holds, unoccupied⟩ := Bool.and_eq_true_iff.mp (Except.ok.inj both)
  subst holds
  refine ⟨answered, ?_⟩
  intro entry member
  exact (Bool.not_eq_true' _).mp (List.all_eq_true.mp unoccupied entry member)

theorem freePoints_getElem (masked : freePoints world context = .ok free) {index : Nat}
    (place : context.map.spawnPoints[index]? = some point) (isFree : free[index]? = some true) :
    seatIsSupportedAndUnoccupied point world.bodies.entries context.simulationConfig.playerRadius
      context.map = .ok true := by
  have asked := Passes.mapM_forall₂ masked
  obtain ⟨inPoints, here⟩ := List.getElem?_eq_some_iff.mp place
  obtain ⟨inMask, there⟩ := List.getElem?_eq_some_iff.mp isFree
  have answered := (List.forall₂_iff_get.mp asked).2 index inPoints inMask
  rw [List.get_eq_getElem, List.get_eq_getElem, here, there] at answered
  exact answered

theorem freePoints_length (masked : freePoints world context = .ok free) :
    free.length = context.map.spawnPoints.length := (Passes.mapM_forall₂ masked).length_eq.symm

theorem freePoints_refused {refusal : SimulationValidationError}
    (refused : freePoints world context = .error refusal) : ∃ point ∈ context.map.spawnPoints,
      context.map.terrainSupportsDisc point context.simulationConfig.playerRadius = .error refusal := by
  obtain ⟨point, member, stuck⟩ := Passes.mapM_refused refused
  obtain unsupported | ⟨_, -, impossible⟩ := bind_eq_error.mp stuck
  · exact ⟨point, member, unsupported⟩
  · cases impossible

end Mask

section Seat

variable {world next : GameWorld S} {entity : EntityId} {position : Vector2 S} {playerRadius : S}

/-- The seated body lies at its point under the configured radius; every other entity is kept. -/
theorem seatBodyAtRest_eq_ok (seats : world.seatBodyAtRest entity position playerRadius = .ok next) :
    ∃ body, next.bodies.find entity = some body ∧ body.position = position ∧ body.radius = playerRadius ∧
      next.matchState = world.matchState ∧
      ∀ kind other, other ≠ entity → (next.stores kind).find other = (world.stores kind).find other := by
  obtain ⟨rest, -, seats⟩ := bind_eq_ok.mp seats
  obtain ⟨body, built, seats⟩ := bind_eq_ok.mp seats
  obtain ⟨bodies, inserted, seats⟩ := bind_eq_ok.mp seats
  cases seats
  have fields : body.position = position ∧ body.radius = playerRadius := by
    unfold PhysicsBody.validated at built
    split at built
    · split at built
      · split at built
        · cases built
          exact ⟨rfl, rfl⟩
        · cases built
      · cases built
    · cases built
  have finds := ComponentStore.find_of_insertOrAssign inserted
  refine ⟨{ body with groundAttachment := .groundBound }, ?_, fields.1, fields.2, rfl, ?_⟩
  · exact (finds entity).trans (if_pos rfl)
  · intro kind other different
    unfold GameWorld.withControllables GameWorld.withBodies
    by_cases linked : kind = .controllable
    · subst linked
      rw [GameWorld.withStore_same, ComponentStore.find_modify, if_neg different]
      rfl
    · rw [GameWorld.withStore_other _ linked]
      by_cases bodied : kind = .physicsBody
      · subst bodied
        rw [GameWorld.withStore_same]
        exact (finds other).trans (if_neg different)
      · rw [GameWorld.withStore_other _ bodied]

theorem seatBodyAtRest_refused {refusal : SimulationValidationError}
    (refused : world.seatBodyAtRest entity position playerRadius = .error refusal) :
    ¬ PolicyFault refusal.code := by
  have component : ∀ (value : S) context stuck, validateComponent value context = .error stuck →
      ¬ PolicyFault stuck.code := by
    intro value context stuck refused
    unfold validateComponent at refused
    split at refused
    · split at refused
      · cases refused
      · cases refused
        rintro (⟨⟨⟩⟩ | ⟨⟨⟩⟩)
    · cases refused
      rintro (⟨⟨⟩⟩ | ⟨⟨⟩⟩)
  obtain stuck | ⟨rest, -, refused⟩ := bind_eq_error.mp refused
  · obtain stuck | ⟨x, -, stuck⟩ := bind_eq_error.mp stuck
    · exact component _ _ _ stuck
    · obtain stuck | ⟨y, -, impossible⟩ := bind_eq_error.mp stuck
      · exact component _ _ _ stuck
      · cases impossible
  · obtain stuck | ⟨body, -, refused⟩ := bind_eq_error.mp refused
    · unfold PhysicsBody.validated at stuck
      split at stuck
      · split at stuck
        · split at stuck
          · cases stuck
          · cases stuck
            rintro (⟨⟨⟩⟩ | ⟨⟨⟩⟩)
        · cases stuck
          rintro (⟨⟨⟩⟩ | ⟨⟨⟩⟩)
      · cases stuck
        rintro (⟨⟨⟩⟩ | ⟨⟨⟩⟩)
    · obtain full | ⟨bodies, -, impossible⟩ := bind_eq_error.mp refused
      · unfold ComponentStore.insertOrAssign at full
        split at full
        · cases full
        · cases full
          rintro (⟨⟨⟩⟩ | ⟨⟨⟩⟩)
      · cases impossible

end Seat

section Offer

variable {policy : SpawnPolicy S} {context : TickContext S} {pass next : SeatingPass S} {entity : EntityId}

def Fresh (context : TickContext S) (pass : SeatingPass S) : Prop :=
  freePoints pass.world context = .ok pass.pointIsFree

theorem seatEntity_seats (answers : policy.AnswersFree) (fresh : Fresh context pass)
    (offered : policy.seatEntity context pass entity = .ok next) :
    Fresh context next ∧ (next = pass ∨
      next.seatedCount = pass.seatedCount + 1 ∧ Seated context entity pass.world next.world) := by
  obtain ⟨chosen, answered, free⟩ := answers pass.world context entity
    pass.world.matchState.spawnRotationCounter pass.pointIsFree
  obtain ⟨same, agreed, rest⟩ := bind_eq_ok.mp offered
  cases answered.symm.trans agreed
  cases chosen with
  | none =>
    cases rest
    exact ⟨fresh, .inl rfl⟩
  | some index =>
    dsimp only at rest
    split at rest
    · cases rest
    · next point place =>
      rw [if_pos (free index rfl)] at rest
      obtain ⟨world, placed, rest⟩ := bind_eq_ok.mp rest
      obtain ⟨mask, masked, committed⟩ := bind_eq_ok.mp rest
      cases committed
      obtain ⟨body, found, positioned, sized, matchKept, kept⟩ := seatBodyAtRest_eq_ok placed
      refine ⟨masked, .inr ⟨rfl, ⟨index, point, body, place, found, positioned, ?_, ?_⟩, kept⟩⟩
      · exact congrArg (fun matchState : MatchState S =>
          { matchState with spawnRotationCounter := (index + 1) % context.map.spawnPoints.length }) matchKept
      · intro other otherBody different present
        have earlier : pass.world.bodies.find other = some otherBody :=
          (kept .physicsBody other different).symm.trans present
        have clear := (seatIsSupportedAndUnoccupied_true (freePoints_getElem fresh place (free index rfl))).2
          (other, otherBody) (SortedStore.find_eq_some_iff.mp earlier)
        have contact : effectiveRadius body context.simulationConfig.playerRadius =
            context.simulationConfig.playerRadius := by
          rw [effectiveRadius, sized, ite_self]
        rw [FartherThanContact, contact, positioned]
        exact clear

theorem seatEntity_refused (answers : policy.AnswersFree) (terrain : context.map.TerrainRefusesItsOwn)
    (fresh : Fresh context pass) {refusal : SimulationValidationError}
    (refused : policy.seatEntity context pass entity = .error refusal) : ¬ PolicyFault refusal.code := by
  obtain ⟨chosen, answered, free⟩ := answers pass.world context entity
    pass.world.matchState.spawnRotationCounter pass.pointIsFree
  obtain unanswered | ⟨same, agreed, refused⟩ := bind_eq_error.mp refused
  · rw [answered] at unanswered
    cases unanswered
  cases answered.symm.trans agreed
  cases chosen with
  | none => cases refused
  | some index =>
    dsimp only at refused
    split at refused
    · next outside =>
      obtain ⟨within, -⟩ := List.getElem?_eq_some_iff.mp (free index rfl)
      rw [freePoints_length fresh] at within
      exact absurd within (not_lt.mpr (List.getElem?_eq_none_iff.mp outside))
    · rw [if_pos (free index rfl)] at refused
      obtain stuck | ⟨world, -, refused⟩ := bind_eq_error.mp refused
      · exact seatBodyAtRest_refused stuck
      · obtain stuck | ⟨mask, -, impossible⟩ := bind_eq_error.mp refused
        · obtain ⟨point, -, unsupported⟩ := freePoints_refused stuck
          exact terrain _ _ _ unsupported
        · cases impossible

end Offer

section Pass

variable {policy : SpawnPolicy S} {context : TickContext S} {world : GameWorld S} {pass : SeatingPass S}
  {earlier : List EntityId}

def offered (policy : SpawnPolicy S) (context : TickContext S) (world : GameWorld S)
    (entities : List EntityId) : Validated (SeatingPass S) := do
  let free ← freePoints world context
  entities.foldlM (policy.seatEntity context) ⟨world, free, 0⟩

/-- What the offers so far keep: entities not offered are as they were, and nobody left the counter's range. -/
structure Offering (context : TickContext S) (world : GameWorld S) (earlier : List EntityId)
    (pass : SeatingPass S) : Prop where
  fresh : Fresh context pass
  kept : ∀ kind other, other ∉ earlier → (pass.world.stores kind).find other = (world.stores kind).find other
  counter : pass.world.matchState.spawnRotationCounter < context.map.spawnPoints.length ∨
    pass.seatedCount = 0 ∧ pass.world.matchState = world.matchState

theorem Offering.offer (answers : policy.AnswersFree) (offering : Offering context world earlier pass)
    {entity : EntityId} {next : SeatingPass S} (offers : policy.seatEntity context pass entity = .ok next) :
    Offering context world (earlier ++ [entity]) next := by
  obtain ⟨fresh, rfl | ⟨-, seated⟩⟩ := seatEntity_seats answers offering.fresh offers
  · refine ⟨fresh, ?_, offering.counter⟩
    intro kind other unoffered
    exact offering.kept kind other fun before => unoffered (List.mem_append_left _ before)
  · refine ⟨fresh, ?_, .inl seated.counter_lt⟩
    intro kind other unoffered
    have different : other ≠ entity := fun same =>
      unoffered (List.mem_append_right _ (List.mem_singleton.mpr same))
    exact (seated.kept kind other different).trans
      (offering.kept kind other fun before => unoffered (List.mem_append_left _ before))

theorem offered_offering (answers : policy.AnswersFree)
    (offers : policy.offered context world earlier = .ok pass) : Offering context world earlier pass := by
  induction earlier using List.reverseRecOn generalizing pass with
  | nil =>
    obtain ⟨free, masked, started⟩ := bind_eq_ok.mp offers
    cases started
    exact ⟨masked, fun _ _ _ => rfl, .inr ⟨rfl, rfl⟩⟩
  | append_singleton before entity ih =>
    obtain ⟨free, masked, folded⟩ := bind_eq_ok.mp offers
    obtain ⟨middle, reached, offers⟩ := foldlM_concat.mp folded
    exact (ih (bind_eq_ok.mpr ⟨free, masked, reached⟩)).offer answers offers

theorem awaiting_ascending (world : GameWorld S) : world.entitiesAwaitingABody.Pairwise (· < ·) :=
  List.Pairwise.filter _ world.controllables.keys_ascending

theorem mem_awaiting_iff {world : GameWorld S} {entity : EntityId} : entity ∈ world.entitiesAwaitingABody ↔
    (world.controllables.find entity).isSome = true ∧ world.bodies.find entity = none := by
  rw [GameWorld.entitiesAwaitingABody, List.mem_filter, SortedStore.mem_keys_iff, Option.isNone_iff_eq_none]

theorem seatPendingEntities_eq (awaited : world.entitiesAwaitingABody ≠ []) :
    policy.seatPendingEntities world context =
      (policy.offered context world world.entitiesAwaitingABody).map fun pass =>
        (pass.seatedCount, pass.world) := by
  have someone : world.entitiesAwaitingABody.isEmpty = false := by
    rw [List.isEmpty_eq_false_iff]
    exact awaited
  unfold seatPendingEntities offered
  rw [someone]
  cases freePoints world context with
  | error refusal => rfl
  | ok free =>
    dsimp only [bind, Except.bind, Bool.false_eq_true, if_false]
    cases world.entitiesAwaitingABody.foldlM (policy.seatEntity context) ⟨world, free, 0⟩ <;> rfl

/-- Seating that cannot overlap: in ascending order and once each, every entity awaiting a body is deferred or
seated clear of all others, those seated before it included. -/
structure SoundSeating (policy : SpawnPolicy S) (context : TickContext S) (world : GameWorld S) : Prop where
  unfailing : ∀ refusal, policy.seatPendingEntities world context = .error refusal → ¬ PolicyFault refusal.code
  ascending : world.entitiesAwaitingABody.Pairwise (· < ·)
  awaiting : ∀ entity, entity ∈ world.entitiesAwaitingABody ↔
    (world.controllables.find entity).isSome = true ∧ world.bodies.find entity = none
  offers : ∀ earlier entity later pass, world.entitiesAwaitingABody = earlier ++ entity :: later →
    policy.offered context world earlier = .ok pass →
      freePoints pass.world context = .ok pass.pointIsFree ∧ pass.world.bodies.find entity = none ∧
        ∀ next, policy.seatEntity context pass entity = .ok next →
          next = pass ∨ Seated context entity pass.world next.world
  returns : ∀ count next, policy.seatPendingEntities world context = .ok (count, next) →
    world.entitiesAwaitingABody = [] ∧ count = 0 ∧ next = world ∨
      ∃ pass, policy.offered context world world.entitiesAwaitingABody = .ok pass ∧
        pass.seatedCount = count ∧ pass.world = next
  counter : ∀ count next, policy.seatPendingEntities world context = .ok (count, next) →
    0 < count ∨ world.matchState.spawnRotationCounter < context.map.spawnPoints.length →
      next.matchState.spawnRotationCounter < context.map.spawnPoints.length
  untouched : ∀ count next, policy.seatPendingEntities world context = .ok (count, next) →
    ∀ entity kind, (world.bodies.find entity).isSome = true →
      (next.stores kind).find entity = (world.stores kind).find entity

theorem soundSeating (answers : policy.AnswersFree) (terrain : context.map.TerrainRefusesItsOwn) :
    SoundSeating policy context world := by
  have returned : ∀ count next, policy.seatPendingEntities world context = .ok (count, next) →
      world.entitiesAwaitingABody = [] ∧ count = 0 ∧ next = world ∨
        ∃ pass, policy.offered context world world.entitiesAwaitingABody = .ok pass ∧
          pass.seatedCount = count ∧ pass.world = next := by
    intro count next seated
    by_cases nobody : world.entitiesAwaitingABody = []
    · unfold seatPendingEntities at seated
      rw [nobody] at seated
      cases seated
      exact .inl ⟨nobody, rfl, rfl⟩
    · rw [seatPendingEntities_eq nobody] at seated
      cases reached : policy.offered context world world.entitiesAwaitingABody with
      | error refusal =>
        rw [reached] at seated
        cases seated
      | ok pass =>
        rw [reached] at seated
        cases seated
        exact .inr ⟨pass, rfl, rfl, rfl⟩
  refine ⟨?_, awaiting_ascending world, fun _ => mem_awaiting_iff, ?_, returned, ?_, ?_⟩
  · intro refusal refused
    have awaited : world.entitiesAwaitingABody ≠ [] := by
      intro nobody
      unfold seatPendingEntities at refused
      rw [nobody] at refused
      cases refused
    rw [seatPendingEntities_eq awaited] at refused
    cases reached : policy.offered context world world.entitiesAwaitingABody with
    | ok pass =>
      rw [reached] at refused
      cases refused
    | error first =>
      rw [reached] at refused
      cases refused
      obtain stuck | ⟨free, masked, stuck⟩ := bind_eq_error.mp reached
      · obtain ⟨point, -, unsupported⟩ := freePoints_refused stuck
        exact terrain _ _ _ unsupported
      · obtain ⟨before, entity, after, pass, -, folded, stuck⟩ := foldlM_refused stuck
        have offering := offered_offering answers (bind_eq_ok.mpr ⟨free, masked, folded⟩)
        exact seatEntity_refused answers terrain offering.fresh stuck
  · intro before entity after pass split reached
    have offering := offered_offering answers reached
    have ascending := awaiting_ascending world
    rw [split, List.pairwise_append] at ascending
    have unoffered : entity ∉ before := fun member =>
      lt_irrefl entity (ascending.2.2 entity member entity List.mem_cons_self)
    have member : entity ∈ world.entitiesAwaitingABody :=
      split ▸ List.mem_append_right _ List.mem_cons_self
    refine ⟨offering.fresh, ?_, ?_⟩
    · exact (offering.kept .physicsBody entity unoffered).trans (mem_awaiting_iff.mp member).2
    · intro next offers
      exact (seatEntity_seats answers offering.fresh offers).2.imp_right And.right
  · intro count next seated within
    obtain ⟨-, rfl, rfl⟩ | ⟨pass, reached, rfl, rfl⟩ := returned count next seated
    · exact within.resolve_left (lt_irrefl 0)
    · obtain below | ⟨nobody, kept⟩ := (offered_offering answers reached).counter
      · exact below
      · rw [kept]
        exact within.resolve_left (Nat.not_lt.mpr nobody.le)
  · intro count next seated entity kind bodied
    obtain ⟨-, -, rfl⟩ | ⟨pass, reached, -, rfl⟩ := returned count next seated
    · rfl
    · refine (offered_offering answers reached).kept kind entity fun awaited => ?_
      rw [(mem_awaiting_iff.mp awaited).2] at bodied
      cases bodied

end Pass

end SpawnPolicy

end BlobRoyale.Simulation
