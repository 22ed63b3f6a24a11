import BlobRoyale.Gameplay.RoyaleTick

/-!
# The royale lifecycle stage

What each lifecycle system leaves: the recorder takes the eliminated off the field and ranks them behind everybody
left, the reset empties the field, and what comes and goes after them is nobody's player.
-/

namespace BlobRoyale.Gameplay

open Simulation Transition

variable {S : Type} [Scalar S]

/-- The stores and the events, as a system that writes neither leaves them. -/
structure Untouched (before after : GameWorld S) : Prop where
  stores : after.stores = before.stores
  events : after.events = before.events
  reservation : after.reservation = before.reservation

theorem eliminated_nodup (world : GameWorld S) : (eliminatedEntitiesOf world).Nodup := List.nodup_dedup _

namespace PlacementRecorderSystem

variable {world next : GameWorld S} {context : TickContext S} {entities : List EntityId}

theorem foldlM_remove (folded : entities.foldlM remove world = .ok next) :
    Gone (· ∈ entities) world next ∧ next.events = world.events ++ entities.map .despawn ∧
      next.matchState = world.matchState ∧ next.reservation = world.reservation := by
  induction entities using List.reverseRecOn generalizing next with
  | nil =>
    cases folded
    exact ⟨fun kind entity => by simp, (List.append_nil _).symm, rfl, rfl⟩
  | append_singleton earlier last ih =>
    obtain ⟨middle, reached, removed⟩ := foldlM_concat.mp folded
    obtain ⟨gone, events, record, reservation⟩ := ih reached
    rw [GameWorld.emit_eq_ok removed]
    refine ⟨fun kind entity => ?_, ?_, record, reservation⟩
    · refine (GameWorld.destroyEntity_find middle last entity kind).trans ?_
      rw [gone kind entity]
      by_cases same : entity = last <;> simp [same]
    · show middle.events ++ _ = _
      rw [events, List.map_append, List.append_assoc]
      rfl

/-- The entries a tick appends. -/
structure Appended (tick : TickSequence) (before : GameWorld S) (remaining : Nat) (appended : List RoyalePlacement) :
    Prop where
  entities : appended.map RoyalePlacement.entity = eliminatedEntitiesOf before
  placement : ∀ entry ∈ appended, entry.placement = remaining + 1
  eliminationTick : ∀ entry ∈ appended, entry.eliminationTick = tick
  controller : ∀ entry ∈ appended, before.controllerOf entry.entity = some entry.controller

structure Recorded (tick : TickSequence) (before after : GameWorld S) : Prop where
  gone : Gone (· ∈ eliminatedEntitiesOf before) before after
  events : after.events = before.events ++ (eliminatedEntitiesOf before).map .despawn
  reservation : after.reservation = before.reservation
  ranked : ∃ appended, Appended tick before (aliveCount after) appended ∧
    (openedPlacements before.matchState ++ appended).length ≤
      max maximumPlayerCount (openedPlacements before.matchState).length ∧
    after.matchState = { before.matchState with modeState := (⟨openedPlacements before.matchState ++ appended,
      before.matchState.phase, (royaleModeStateOf before.matchState.modeState).eliminationGraceTicks⟩ :
        RoyaleBlock).modeState }

theorem controllers_of_mapM {controllers : List ControllerId}
    (read : entities.mapM (controllerOfEliminated world) = .ok controllers) :
    List.Forall₂ (fun entity controller => world.controllerOf entity = some controller) entities controllers := by
  refine (Passes.mapM_forall₂ read).imp fun entity controller found => ?_
  unfold controllerOfEliminated at found
  split at found
  · cases found
  · next link present =>
    cases found
    rw [GameWorld.controllerOf, present]
    rfl

theorem appended_of_zip {controllers : List ControllerId} {remaining : Nat}
    (read : List.Forall₂ (fun entity controller => world.controllerOf entity = some controller)
      (eliminatedEntitiesOf world) controllers) (tick : TickSequence) :
    Appended tick world remaining (((eliminatedEntitiesOf world).zip controllers).map fun ranked =>
      ⟨ranked.1, ranked.2, remaining + 1, tick⟩) := by
  refine ⟨?_, fun entry member => ?_, fun entry member => ?_, fun entry member => ?_⟩
  · rw [List.map_map]
    exact List.map_fst_zip (le_of_eq read.length_eq)
  · obtain ⟨_, -, rfl⟩ := List.mem_map.mp member
    rfl
  · obtain ⟨_, -, rfl⟩ := List.mem_map.mp member
    rfl
  · obtain ⟨ranked, zipped, rfl⟩ := List.mem_map.mp member
    exact (List.forall₂_iff_zip.mp read).2 zipped

theorem apply_eq_ok (applied : apply world context = .ok next) : Recorded context.tickSequence world next := by
  obtain ⟨⟨recorded, placements⟩, records, committed⟩ := bind_eq_ok.mp applied
  cases committed
  unfold record at records
  split at records
  · next nobody =>
    have none : eliminatedEntitiesOf world = [] := List.isEmpty_iff.mp nobody
    cases records
    refine ⟨fun kind entity => ?_, ?_, rfl, [], ?_, ?_, ?_⟩
    · rw [none]
      exact (if_neg List.not_mem_nil).symm
    · rw [none]
      exact (List.append_nil _).symm
    · exact ⟨none.symm, (fun _ member => nomatch member), (fun _ member => nomatch member), fun _ member => nomatch member⟩
    · rw [List.append_nil]
      exact le_max_right _ _
    · rw [List.append_nil]
      rfl
  · obtain ⟨controllers, read, rest⟩ := bind_eq_ok.mp records
    obtain ⟨remaining, removed, rest⟩ := bind_eq_ok.mp rest
    obtain ⟨gone, events, record, reservation⟩ := foldlM_remove (throughRoyale_eq_ok.mp removed)
    dsimp only at rest
    split at rest
    · cases rest
    · next room =>
      cases rest
      have linked := controllers_of_mapM read
      have appended := @appended_of_zip _ _ _ _ (aliveCount recorded) linked context.tickSequence
      refine ⟨gone, events, reservation, _, appended, ?_, ?_⟩
      · have count : (((eliminatedEntitiesOf world).zip controllers).map fun ranked : EntityId × ControllerId =>
            (⟨ranked.1, ranked.2, aliveCount recorded + 1, context.tickSequence⟩ : RoyalePlacement)).length =
              (eliminatedEntitiesOf world).length := by
          have lengths := congrArg List.length appended.entities
          rwa [List.length_map] at lengths
        rw [List.length_append, count]
        exact le_max_of_le_left (not_lt.mp room)
      · show ({ recorded.matchState with modeState := _ } : MatchState S) = _
        rw [record]

end PlacementRecorderSystem

section Others

variable {world next : GameWorld S} {context : TickContext S}

theorem matchReset_gone (returned : world.matchState.phase = .lobby ∧ world.matchState.previousPhase = .ended) :
    Gone (· ∈ participantEntities world) world (MatchResetSystem.apply world) := by
  unfold MatchResetSystem.apply
  rw [if_neg (not_or.mpr ⟨not_not_intro returned.1, not_not_intro returned.2⟩)]
  exact gone_destroyed _ world

theorem matchReset_frame (world : GameWorld S) : (MatchResetSystem.apply world).matchState = world.matchState ∧
    (MatchResetSystem.apply world).events = world.events ∧
    (MatchResetSystem.apply world).reservation = world.reservation := by
  unfold MatchResetSystem.apply
  split
  · exact ⟨rfl, rfl, rfl⟩
  · obtain ⟨record, reservation, events⟩ := GameWorld.destroyEntities_frame (participantEntities world) world
    exact ⟨record, events, reservation⟩

theorem matchReset_idle (idle : ¬ (world.matchState.phase = .lobby ∧ world.matchState.previousPhase = .ended)) :
    MatchResetSystem.apply world = world := by
  unfold MatchResetSystem.apply
  rw [if_pos]
  by_contra both
  rw [not_or, not_not, not_not] at both
  exact idle both

namespace LifetimeExpirySystem

/-- The expired are announced, and nobody leaves yet. -/
structure Expired (before after : GameWorld S) : Prop where
  carried : ∀ entity kind, carried after entity kind = Gameplay.carried before entity kind
  rest : ∀ kind, kind ≠ .lifetime → after.stores kind = before.stores kind
  events : ∃ announced : List EntityId, after.events = before.events ++ announced.map .despawn ∧
    ∀ entity ∈ announced, Gameplay.carried before entity .lifetime = true
  record : after.matchState = before.matchState
  reservation : after.reservation = before.reservation

theorem foldlM_announce {entities : List EntityId}
    (folded : entities.foldlM (fun world entity => world.emit (.despawn entity)) world = .ok next) :
    next = { world with events := world.events ++ entities.map .despawn } := by
  induction entities using List.reverseRecOn generalizing next with
  | nil =>
    cases folded
    rw [List.map_nil, List.append_nil]
  | append_singleton earlier last ih =>
    obtain ⟨middle, reached, emitted⟩ := foldlM_concat.mp folded
    rw [GameWorld.emit_eq_ok emitted, ih reached, List.map_append, List.append_assoc]
    rfl

theorem apply_eq_ok (applied : apply world = .ok next) : Expired world next := by
  have announced := foldlM_announce applied
  have stores : next.stores = (world.withStore .lifetime (countDown (world.stores .lifetime))).stores := by
    rw [announced]
  have kept : ∀ kind, kind ≠ .lifetime → next.stores kind = world.stores kind := by
    intro kind other
    rw [stores]
    exact GameWorld.withStore_other _ other
  refine ⟨fun entity kind => ?_, kept, ⟨expired world, by rw [announced]; rfl, fun entity member => ?_⟩,
    by rw [announced]; rfl, by rw [announced]; rfl⟩
  · by_cases lasting : kind = .lifetime
    · subst lasting
      rw [Gameplay.carried, stores, GameWorld.withStore_same, countDown, ComponentStore.find_mapValues,
        Option.isSome_map]
      rfl
    · rw [Gameplay.carried, kept kind lasting]
      rfl
  · obtain ⟨entry, listed, rfl⟩ := List.mem_map.mp member
    have found : (world.stores .lifetime).find entry.1 = some entry.2 :=
      SortedStore.find_eq_some_iff.mpr (List.mem_of_mem_filter listed)
    rw [Gameplay.carried, found]
    rfl

end LifetimeExpirySystem

/-- What the lifecycle system leaves: the phase it saw, its clock, and the outcome of the match it ends. -/
structure Advanced (configuration : RoyaleConfiguration S) (tick : TickSequence) (before after : GameWorld S) : Prop where
  untouched : Untouched before after
  previousPhase : after.matchState.previousPhase = before.matchState.phase
  modeState : after.matchState.modeState = before.matchState.modeState
  clock : ClockStep tick before.matchState.clock after.matchState.clock
  decided : before.matchState.phase = .running →
    (after.matchState.phase = .running ∧ 2 ≤ aliveCount before) ∨
      (after.matchState.phase = .ended ∧
        ((∃ winner, aliveEntities before = [winner] ∧ after.matchState.outcome = .wonByEntity winner) ∨
          (aliveEntities before = [] ∧ after.matchState.outcome = .drawn)))

theorem outcome_eq_ok {configuration : RoyaleConfiguration S} {outcome : MatchOutcome}
    (judged : (royaleObjective configuration).outcome world context = .ok outcome) :
    (∃ winner, aliveEntities world = [winner] ∧ outcome = .wonByEntity winner) ∨
      (aliveEntities world = [] ∧ outcome = .drawn) ∨ (2 ≤ aliveCount world ∧ outcome = .undecided) := by
  rw [aliveCount]
  cases roster : aliveEntities world with
  | nil =>
    simp only [royaleObjective, roster, Except.ok.injEq] at judged
    exact .inr (.inl ⟨rfl, judged.symm⟩)
  | cons first rest =>
    cases rest with
    | nil =>
      simp only [royaleObjective, roster, Except.ok.injEq] at judged
      exact .inl ⟨first, rfl, judged.symm⟩
    | cons second others =>
      simp only [royaleObjective, roster, Except.ok.injEq] at judged
      exact .inr (.inr ⟨by simp, judged.symm⟩)

theorem advance_eq_ok {configuration : RoyaleConfiguration S}
    (advanced : (royaleObjective configuration).advance world context = .ok next) :
    Advanced configuration context.tickSequence world next := by
  have clock := MatchObjective.advance_clock rfl advanced
  suffices rest : Untouched world next ∧ next.matchState.previousPhase = world.matchState.phase ∧
      next.matchState.modeState = world.matchState.modeState ∧ (world.matchState.phase = .running →
        (next.matchState.phase = .running ∧ 2 ≤ aliveCount world) ∨
        (next.matchState.phase = .ended ∧
          ((∃ winner, aliveEntities world = [winner] ∧ next.matchState.outcome = .wonByEntity winner) ∨
            (aliveEntities world = [] ∧ next.matchState.outcome = .drawn)))) by
    obtain ⟨untouched, previous, mode, decided⟩ := rest
    exact ⟨untouched, previous, mode, clock, decided⟩
  unfold MatchObjective.advance at advanced
  dsimp only at advanced
  split at advanced
  · next lobby =>
    obtain ⟨start, -, rest⟩ := bind_eq_ok.mp advanced
    split at rest <;> cases rest
    all_goals exact ⟨⟨rfl, rfl, rfl⟩, rfl, rfl, fun running => by rw [lobby] at running; cases running⟩
  · next countdown =>
    obtain ⟨start, -, rest⟩ := bind_eq_ok.mp advanced
    split at rest
    · split at rest <;> cases rest
      all_goals exact ⟨⟨rfl, rfl, rfl⟩, rfl, rfl, fun running => by rw [countdown] at running; cases running⟩
    · cases rest
      exact ⟨⟨rfl, rfl, rfl⟩, rfl, rfl, fun running => by rw [countdown] at running; cases running⟩
  · next running =>
    obtain ⟨outcome, judged, rest⟩ := bind_eq_ok.mp advanced
    have verdict := outcome_eq_ok (show (royaleObjective configuration).outcome world context = .ok outcome from judged)
    split at rest
    · next decided =>
      cases rest
      refine ⟨⟨rfl, rfl, rfl⟩, rfl, rfl, fun _ => .inr ⟨rfl, ?_⟩⟩
      obtain won | drawn | ⟨-, level⟩ := verdict
      · exact .inl won
      · exact .inr drawn
      · rw [level] at decided
        cases decided
    · next undecided =>
      cases rest
      refine ⟨⟨rfl, rfl, rfl⟩, rfl, rfl, fun _ => .inl ⟨running, ?_⟩⟩
      obtain ⟨winner, -, won⟩ | ⟨-, drawn⟩ | ⟨several, -⟩ := verdict
      · rw [won] at undecided
        exact absurd rfl undecided
      · rw [drawn] at undecided
        exact absurd rfl undecided
      · exact several
  · next ended =>
    split at advanced <;> cases advanced
    all_goals exact ⟨⟨rfl, rfl, rfl⟩, rfl, rfl, fun running => by rw [ended] at running; cases running⟩

def despawnedEntities (world : GameWorld S) : List EntityId :=
  world.events.filterMap fun
    | .despawn entity => if world.contains entity then some entity else none
    | _ => none

theorem applyDespawnEvents_gone (world : GameWorld S) :
    Gone (· ∈ despawnedEntities world) world world.applyDespawnEvents.2 := gone_destroyed _ world

theorem mem_despawned {entity : EntityId} (member : entity ∈ despawnedEntities world) :
    .despawn entity ∈ world.events := by
  obtain ⟨event, listed, named⟩ := List.mem_filterMap.mp member
  cases event with
  | despawn other =>
    dsimp only at named
    split at named
    · cases named
      exact listed
    · cases named
  | _ => cases named

end Others

end BlobRoyale.Gameplay

/-!
# What hazard spawning leaves of the players

A birth is a fresh entity with a body and a lifetime, and nobody drives it.
-/

namespace BlobRoyale.Gameplay

open Simulation

variable {S : Type} [RoundedScalar S] {world next : GameWorld S} {context : TickContext S} {created : EntityId}

/-- Nothing but a born hazard. -/
structure Spawned (before after : GameWorld S) : Prop where
  record : after.matchState = before.matchState
  events : after.events = before.events
  born : after.stores = before.stores ∨ ∃ created, Born created before after ∧
    carried after created .controllable = false ∧ carried after created .zone = false ∧
    carried after created .zoneExposure = false

theorem createCrossingHazard_spawned {bounds : ArenaBounds S} {archetype : HazardArchetype S} {seconds : S}
    (creates : createCrossingHazard world bounds archetype seconds = .ok (created, next)) : Spawned world next := by
  obtain ⟨⟨crossing, random⟩, -, rest⟩ := bind_eq_ok.mp creates
  obtain ⟨body, -, rest⟩ := bind_eq_ok.mp rest
  obtain ⟨⟨entity, drawn⟩, draws, rest⟩ := bind_eq_ok.mp rest
  obtain ⟨bodies, bodied, rest⟩ := bind_eq_ok.mp rest
  obtain ⟨crossings, crossed, rest⟩ := bind_eq_ok.mp rest
  obtain ⟨lifetimes, lasting, rest⟩ := bind_eq_ok.mp rest
  obtain ⟨marked, lethal, rest⟩ := bind_eq_ok.mp rest
  obtain ⟨admitted, policy, committed⟩ := bind_eq_ok.mp rest
  cases committed
  obtain ⟨reservation, -, fresh, rfl⟩ := GameWorld.createEntity_eq_ok draws
  have absent : world.contains created = false := fresh
  have foundBody := ComponentStore.find_of_insertOrAssign bodied
  have foundLifetime := ComponentStore.find_of_insertOrAssign lasting
  have marks : ∀ {first second : GameWorld S} {lethal : Bool}, markLethal first created lethal = .ok second →
      (∀ kind, kind ≠ .lethalOnContact → second.stores kind = first.stores kind) ∧
        second.matchState = first.matchState ∧ second.events = first.events := by
    intro first second lethal marked
    unfold markLethal at marked
    split at marked
    · split at marked
      · cases marked
      · cases marked
        exact ⟨fun kind other => GameWorld.withStore_other _ other, rfl, rfl⟩
    · cases marked
      exact ⟨fun _ _ => rfl, rfl, rfl⟩
  have assigns : ∀ {first second : GameWorld S} {policy : ContactEffectPolicy},
      assignContactEffectPolicy first created policy = .ok second →
      (∀ kind, kind ≠ .contactEffectAdmission → second.stores kind = first.stores kind) ∧
        second.matchState = first.matchState ∧ second.events = first.events := by
    intro first second policy assigned
    unfold assignContactEffectPolicy at assigned
    split at assigned
    · cases assigned
      exact ⟨fun kind other => GameWorld.withStore_other _ other, rfl, rfl⟩
    · split at assigned
      · cases assigned
      · cases assigned
        exact ⟨fun kind other => GameWorld.withStore_other _ other, rfl, rfl⟩
  obtain ⟨stores, record, events⟩ := marks lethal
  obtain ⟨storesAfter, recordAfter, eventsAfter⟩ := assigns policy
  have tracked : ∀ kind, isTracked kind = true → next.stores kind = (((({ world with
      random := world.random.set .hazards random, reservation := reservation } : GameWorld S).withBodies
        bodies).withStore .crossingHazard crossings).withStore .lifetime lifetimes).stores kind := by
    intro kind tracked
    rw [storesAfter kind (by rintro rfl; cases tracked), stores kind (by rintro rfl; cases tracked)]
  have others : ∀ kind, kind ≠ .physicsBody → kind ≠ .lifetime → isTracked kind = true →
      next.stores kind = world.stores kind := by
    intro kind noBody noLifetime known
    rw [tracked kind known, GameWorld.withStore_other _ noLifetime,
      GameWorld.withStore_other _ (by rintro rfl; cases known), GameWorld.withBodies, GameWorld.withStore_other _ noBody]
  have bare : ∀ kind, kind ≠ .physicsBody → kind ≠ .lifetime → isTracked kind = true →
      carried next created kind = false := by
    intro kind noBody noLifetime known
    rw [carried, others kind noBody noLifetime known, find_of_fresh absent]
    rfl
  refine ⟨recordAfter.trans record, eventsAfter.trans events, .inr ⟨created, ⟨absent, ?_, ⟨?_, ?_, ?_⟩, ?_⟩, ?_, ?_, ?_⟩⟩
  · intro kind known other different
    by_cases body : kind = .physicsBody
    · subst body
      rw [tracked _ known, GameWorld.withStore_other _ (by decide), GameWorld.withStore_other _ (by decide),
        GameWorld.withBodies, GameWorld.withStore_same, foundBody, if_neg different]
    · by_cases lifetime : kind = .lifetime
      · subst lifetime
        rw [tracked _ known, GameWorld.withStore_same, foundLifetime, if_neg different]
      · rw [others kind body lifetime known]
  · intro held
    rw [bare .zone (by decide) (by decide) rfl] at held
    cases held
  · exact fun _ => bare .controllable (by decide) (by decide) rfl
  · intro held
    rw [bare .zoneExposure (by decide) (by decide) rfl] at held
    cases held
  · exact .inr (bare .controllable (by decide) (by decide) rfl)
  · exact bare .controllable (by decide) (by decide) rfl
  · exact bare .zone (by decide) (by decide) rfl
  · exact bare .zoneExposure (by decide) (by decide) rfl

theorem hazardSpawn_spawned {archetypes : List (HazardArchetype S)}
    (applied : HazardSpawnSystem.apply archetypes world context = .ok next) : Spawned world next := by
  unfold HazardSpawnSystem.apply at applied
  dsimp only at applied
  split at applied
  · cases applied
    exact ⟨rfl, rfl, .inl rfl⟩
  · split at applied
    · cases applied
      exact ⟨rfl, rfl, .inl rfl⟩
    · split at applied
      · cases applied
        exact ⟨rfl, rfl, .inl rfl⟩
      · split at applied
        · cases applied
          exact ⟨rfl, rfl, .inl rfl⟩
        · obtain ⟨⟨created, spawned⟩, creates, committed⟩ := bind_eq_ok.mp applied
          cases committed
          obtain ⟨record, events, stores | ⟨entity, born, bare⟩⟩ := createCrossingHazard_spawned creates
          · exact ⟨record, events, .inl stores⟩
          · refine ⟨record, events, .inr ⟨entity, ⟨?_, born.others, born.coherent, born.bodilessOrUndriven⟩, bare⟩⟩
            exact born.fresh

end BlobRoyale.Gameplay
