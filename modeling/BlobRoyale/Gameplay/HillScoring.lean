import BlobRoyale.Gameplay.GameplayValidation
import BlobRoyale.Library.KeyedFold
import BlobRoyale.Library.Transition
import BlobRoyale.Simulation.Components
import BlobRoyale.Simulation.SystemPipeline

/-!
# Hill scoring

Presence toward the next point and the points themselves, for everybody with a body and a controller. Who is
inside is decided once, before anyone scores; what a tick leaves of an entity is then a function of what it
had, and the order of the visits cannot be told from the world they leave.
-/

namespace BlobRoyale.Gameplay

open Simulation Transition

variable {S : Type} [Scalar S]

/-- The validated section, as far as scoring and the return of a body read it. -/
structure KingOfTheHillConfiguration where
  pointIntervalTicks : Nat
  contestedHillScores : Bool
  respawnDelayTicks : Nat

def centerIsOutside (position center : Vector2 S) (radius : S) : Bool :=
  let offsetX := position.x - center.x
  let offsetY := position.y - center.y
  let distance := Scalar.sqrt (offsetX * offsetX + offsetY * offsetY)
  radius + positionTolerance < distance

namespace HillScoringSystem

/-- Everybody visited, and whether they are inside. -/
def insideByEntity (hill : Hill S) (world : GameWorld S) : List (EntityId × Bool) :=
  (world.bodies.join world.controllables).map fun visited =>
    (visited.1, !centerIsOutside visited.2.1.position hill.center hill.radius)

def hillScores (configuration : KingOfTheHillConfiguration) (visits : List (EntityId × Bool)) : Bool :=
  configuration.contestedHillScores || visits.countP Prod.snd ≤ 1

def scoreEntity (configuration : KingOfTheHillConfiguration) (hillScores : Bool) (world : GameWorld S)
    (visit : EntityId × Bool) : Validated (GameWorld S) :=
  let presences : ComponentStore HillPresence := world.stores .hillPresence
  if visit.2 = false then .ok (world.withStore .hillPresence (presences.erase visit.1))
  else if hillScores = false then .ok world
  else
    let insideTicks := ((presences.find visit.1).map HillPresence.insideTicks).getD 0 + 1
    if configuration.pointIntervalTicks ≤ insideTicks then do
      let scores : ComponentStore Score := world.stores .score
      let points := ((scores.find visit.1).map Score.points).getD 0 + 1
      let scored ← scores.insertOrAssign visit.1 ⟨points⟩
      return (world.withStore .score scored).withStore .hillPresence (presences.erase visit.1)
    else do
      let counted ← presences.insertOrAssign visit.1 ⟨insideTicks⟩
      return world.withStore .hillPresence counted

def scoreVisits (configuration : KingOfTheHillConfiguration) (visits : List (EntityId × Bool))
    (world : GameWorld S) : Validated (GameWorld S) :=
  visits.foldlM (scoreEntity configuration (hillScores configuration visits)) world

def apply (configuration : KingOfTheHillConfiguration) (world : GameWorld S) : Except Failure (GameWorld S) :=
  if world.matchState.phase ≠ .running then .ok world
  else
    let hills : ComponentStore (Hill S) := world.stores .hill
    match hills.entries.head? with
    | none => .error (.gameplay ⟨.kingOfTheHillHillAbsent, "hill_scoring.hill",
        "no entity carries a Hill while the match is running; hill_scoring must be declared after " ++
          "hill_movement at kPostKernel"⟩)
    | some hill => throughEngine (scoreVisits configuration (insideByEntity hill.2 world) world)

/-- What scoring keeps of one entity. -/
abbrev Standing := Option HillPresence × Option Score

def Standing.presence (standing : Standing) : Nat := (standing.1.map HillPresence.insideTicks).getD 0

def Standing.points (standing : Standing) : Int := (standing.2.map Score.points).getD 0

def standings (world : GameWorld S) (entity : EntityId) : Standing :=
  let presences : ComponentStore HillPresence := world.stores .hillPresence
  let scores : ComponentStore Score := world.stores .score
  (presences.find entity, scores.find entity)

def visited (configuration : KingOfTheHillConfiguration) (hillScores inside : Bool) (standing : Standing) : Standing :=
  if inside = false then (none, standing.2)
  else if hillScores = false then standing
  else if configuration.pointIntervalTicks ≤ standing.presence + 1 then (none, some ⟨standing.points + 1⟩)
  else (some ⟨standing.presence + 1⟩, standing.2)

def visiting (configuration : KingOfTheHillConfiguration) (hillScores : Bool) :
    KeyedFold.Action EntityId (EntityId × Bool) Standing Unit where
  key := Prod.fst
  effect visit := visited configuration hillScores visit.2
  puts _ _ := []

section Visits

variable {configuration : KingOfTheHillConfiguration} {scores : Bool} {visit : EntityId × Bool}
  {visits : List (EntityId × Bool)} {held : EntityId → Standing} {entity : EntityId}

theorem step_visit (visit : EntityId × Bool) : (visiting configuration scores).step held visit = fun other =>
    if other = visit.1 then visited configuration scores visit.2 (held visit.1) else held other := by
  funext other
  split
  · next own =>
    rw [own]
    exact (visiting configuration scores).step_own visit
  · next different => exact KeyedFold.Action.step_other (Ne.symm different)

theorem run_visited (distinct : (visits.map Prod.fst).Nodup) (member : visit ∈ visits) :
    (visiting configuration scores).run visits held visit.1 = visited configuration scores visit.2 (held visit.1) := by
  have named : (visits.map (visiting configuration scores).key).Nodup := distinct
  exact KeyedFold.Action.run_of_nodup named member

theorem run_unvisited (absent : entity ∉ visits.map Prod.fst) :
    (visiting configuration scores).run visits held entity = held entity := by
  have unnamed : entity ∉ visits.map (visiting configuration scores).key := absent
  exact KeyedFold.Action.run_of_notMem unnamed

end Visits

section Frames

variable {configuration : KingOfTheHillConfiguration} {scores : Bool} {visit : EntityId × Bool}
  {visits : List (EntityId × Bool)} {world next : GameWorld S}

/-- Nothing but standings changes. -/
structure Frame (before after : GameWorld S) : Prop where
  rest : ∀ kind, kind ≠ .hillPresence → kind ≠ .score → after.stores kind = before.stores kind
  same : GameWorld.SameRest before after

theorem Frame.refl (world : GameWorld S) : Frame world world := ⟨fun _ _ _ => rfl, rfl, rfl, rfl, rfl⟩

theorem Frame.trans {first second third : GameWorld S} (left : Frame first second) (right : Frame second third) :
    Frame first third :=
  ⟨fun kind presence score => (right.rest kind presence score).trans (left.rest kind presence score),
    left.same.trans right.same⟩

theorem Frame.ext {first second : GameWorld S} (left : Frame world first) (right : Frame world second)
    (same : standings first = standings second) : first = second := by
  have stores : first.stores = second.stores := by
    funext kind
    by_cases presence : kind = .hillPresence
    · subst presence
      exact ComponentStore.ext_find fun entity => congrArg Prod.fst (congrFun same entity)
    · by_cases score : kind = .score
      · subst score
        exact ComponentStore.ext_find fun entity => congrArg Prod.snd (congrFun same entity)
      · rw [left.rest kind presence score, right.rest kind presence score]
  obtain ⟨matchState, events, random, reservation⟩ := left.same
  obtain ⟨matchState', events', random', reservation'⟩ := right.same
  cases first
  cases second
  simp only [GameWorld.mk.injEq]
  exact ⟨stores, matchState.trans matchState'.symm, events.trans events'.symm, random.trans random'.symm,
    reservation.trans reservation'.symm⟩

theorem standings_withPresence (presences : ComponentStore HillPresence) (entity : EntityId) :
    standings (world.withStore .hillPresence presences) entity = (presences.find entity, (standings world entity).2) := by
  simp only [standings, GameWorld.withStore_same, GameWorld.withStore_other _ (show .score ≠ .hillPresence by decide)]

theorem standings_withScores (scores : ComponentStore Score) (entity : EntityId) :
    standings (world.withStore .score scores) entity = ((standings world entity).1, scores.find entity) := by
  simp only [standings, GameWorld.withStore_same, GameWorld.withStore_other _ (show .hillPresence ≠ .score by decide)]

theorem frame_withPresence (presences : ComponentStore HillPresence) :
    Frame world (world.withStore .hillPresence presences) :=
  ⟨fun _ presence _ => GameWorld.withStore_other _ presence, rfl, rfl, rfl, rfl⟩

theorem frame_withScores (scores : ComponentStore Score) : Frame world (world.withStore .score scores) :=
  ⟨fun _ _ score => GameWorld.withStore_other _ score, rfl, rfl, rfl, rfl⟩

theorem scoreEntity_eq_ok (scored : scoreEntity configuration scores world visit = .ok next) :
    Frame world next ∧ standings next = (visiting configuration scores).step (standings world) visit := by
  suffices whole : Frame world next ∧ ∀ other, standings next other =
      if other = visit.1 then visited configuration scores visit.2 (standings world visit.1)
      else standings world other by
    rw [step_visit]
    exact ⟨whole.1, funext whole.2⟩
  unfold scoreEntity at scored
  split at scored
  · next outside =>
    cases scored
    refine ⟨frame_withPresence _, fun other => ?_⟩
    rw [standings_withPresence, ComponentStore.find_erase, visited, if_pos outside]
    split
    · next own => rw [own]
    · rfl
  · next inside =>
    split at scored
    · next contested =>
      cases scored
      refine ⟨.refl world, fun other => ?_⟩
      rw [visited, if_neg inside, if_pos contested]
      split
      · next own => rw [own]
      · rfl
    · next scores =>
      dsimp only at scored
      split at scored
      · next point =>
        obtain ⟨stored, inserted, committed⟩ := bind_eq_ok.mp scored
        cases committed
        refine ⟨(frame_withScores _).trans (frame_withPresence _), fun other => ?_⟩
        rw [standings_withPresence, standings_withScores, ComponentStore.find_erase,
          ComponentStore.find_of_insertOrAssign inserted, visited, if_neg inside, if_neg scores]
        split
        · exact (if_pos point).symm
        · rfl
      · next progress =>
        obtain ⟨stored, inserted, committed⟩ := bind_eq_ok.mp scored
        cases committed
        refine ⟨frame_withPresence _, fun other => ?_⟩
        rw [standings_withPresence, ComponentStore.find_of_insertOrAssign inserted, visited, if_neg inside,
          if_neg scores]
        split
        · next own => rw [own]; exact (if_neg progress).symm
        · rfl

theorem foldlM_scoreEntity (scored : visits.foldlM (scoreEntity configuration scores) world = .ok next) :
    Frame world next ∧ standings next = (visiting configuration scores).run visits (standings world) := by
  induction visits using List.reverseRecOn generalizing next with
  | nil =>
    cases scored
    exact ⟨.refl world, rfl⟩
  | append_singleton earlier last ih =>
    obtain ⟨middle, reached, stepped⟩ := foldlM_concat.mp scored
    obtain ⟨before, made⟩ := ih reached
    obtain ⟨frame, step⟩ := scoreEntity_eq_ok stepped
    refine ⟨before.trans frame, ?_⟩
    rw [step, made, KeyedFold.Action.run, KeyedFold.Action.run, List.foldl_concat]

/-- Presence is bound to a body, as the registry sweep leaves it. -/
def Embodied (world : GameWorld S) : Prop :=
  ∀ entity, ((world.stores .hillPresence).find entity).isSome = true → (world.bodies.find entity).isSome = true

/-- Everybody visited is named once and has a body, and nobody else has presence. -/
structure Visitable (world : GameWorld S) (visits : List (EntityId × Bool)) : Prop where
  distinct : (visits.map Prod.fst).Nodup
  alive : ∀ visit ∈ visits, (world.bodies.find visit.1).isSome = true
  settled : Embodied world

theorem Visitable.perm {others : List (EntityId × Bool)} (visitable : Visitable world visits)
    (permuted : visits.Perm others) : Visitable world others where
  distinct := (permuted.map Prod.fst).nodup visitable.distinct
  alive visit member := visitable.alive visit (permuted.symm.subset member)
  settled := visitable.settled

def hillOf (world : GameWorld S) : Option (Hill S) :=
  let hills : ComponentStore (Hill S) := world.stores .hill
  hills.entries.head?.map Prod.snd

/-- The entity has a body, and its center is not outside the hill. -/
def isInside (world : GameWorld S) (entity : EntityId) : Bool :=
  match hillOf world, world.bodies.find entity with
  | some hill, some body => !centerIsOutside body.position hill.center hill.radius
  | _, _ => false

def tickScores (configuration : KingOfTheHillConfiguration) (world : GameWorld S) : Bool :=
  match hillOf world with
  | some hill => hillScores configuration (insideByEntity hill world)
  | none => false

theorem mem_insideByEntity {hill : Hill S} {visit : EntityId × Bool} : visit ∈ insideByEntity hill world ↔
    ∃ body link, world.bodies.find visit.1 = some body ∧ world.controllables.find visit.1 = some link ∧
      (!centerIsOutside body.position hill.center hill.radius) = visit.2 := by
  rw [insideByEntity, List.mem_map]
  constructor
  · rintro ⟨⟨entity, body, link⟩, member, rfl⟩
    obtain ⟨bodied, linked⟩ := ComponentStore.mem_join.mp member
    exact ⟨body, link, bodied, linked, rfl⟩
  · rintro ⟨body, link, bodied, linked, inside⟩
    exact ⟨(visit.1, body, link), ComponentStore.mem_join.mpr ⟨bodied, linked⟩, Prod.ext rfl inside⟩

theorem insideByEntity_nodup (hill : Hill S) (world : GameWorld S) :
    ((insideByEntity hill world).map Prod.fst).Nodup := by
  rw [insideByEntity, List.map_map]
  exact List.pairwise_map.mpr ((ComponentStore.join_ascending world.bodies world.controllables).imp ne_of_lt)

theorem apply_eq_ok (running : world.matchState.phase = .running) (applied : apply configuration world = .ok next) :
    ∃ hill, hillOf world = some hill ∧ scoreVisits configuration (insideByEntity hill world) world = .ok next := by
  unfold apply at applied
  rw [if_neg (not_not_intro running)] at applied
  dsimp only at applied
  split at applied
  · cases applied
  · next entry first => exact ⟨entry.2, congrArg (Option.map Prod.snd) first, throughEngine_eq_ok.mp applied⟩

theorem apply_standings (running : world.matchState.phase = .running)
    (applied : apply configuration world = .ok next) (entity : EntityId) : standings next entity =
      if (world.bodies.find entity).isSome = true ∧ (world.controllables.find entity).isSome = true then
        visited configuration (tickScores configuration world) (isInside world entity) (standings world entity)
      else standings world entity := by
  obtain ⟨hill, first, scored⟩ := apply_eq_ok running applied
  have made := congrFun (foldlM_scoreEntity scored).2 entity
  rw [made, tickScores, first]
  split
  · next both =>
    obtain ⟨body, bodied⟩ := Option.isSome_iff_exists.mp both.1
    obtain ⟨link, linked⟩ := Option.isSome_iff_exists.mp both.2
    have inside : isInside world entity = !centerIsOutside body.position hill.center hill.radius := by
      rw [isInside, first, bodied]
    have member : (entity, isInside world entity) ∈ insideByEntity hill world :=
      mem_insideByEntity.mpr ⟨body, link, bodied, linked, inside.symm⟩
    exact run_visited (insideByEntity_nodup hill world) member
  · next outOfPlay =>
    refine run_unvisited fun named => ?_
    obtain ⟨visit, member, rfl⟩ := List.mem_map.mp named
    obtain ⟨body, link, bodied, linked, -⟩ := mem_insideByEntity.mp member
    exact outOfPlay ⟨bodied ▸ rfl, linked ▸ rfl⟩

theorem apply_frame (running : world.matchState.phase = .running)
    (applied : apply configuration world = .ok next) : Frame world next := by
  obtain ⟨hill, -, scored⟩ := apply_eq_ok running applied
  exact (foldlM_scoreEntity scored).1

end Frames

end HillScoringSystem

end BlobRoyale.Gameplay
