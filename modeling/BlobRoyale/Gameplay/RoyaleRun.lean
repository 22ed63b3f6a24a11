import BlobRoyale.Gameplay.RoyaleStages

/-!
# Runs of the royale mode

What one tick makes of a committed world, and what every committed world of a match satisfies: the zone stands
alone, no counter stands over from an earlier match, and the ranking is the order in which the players fell.
-/

namespace BlobRoyale.Gameplay

open Simulation Transition PlacementRecorderSystem

/-- Of two ranked players, in the order of the ranking. -/
def RankedBefore (earlier later : RoyalePlacement) : Prop :=
  (earlier.eliminationTick = later.eliminationTick ∧ earlier.placement = later.placement) ∨
    (earlier.eliminationTick.value < later.eliminationTick.value ∧ later.placement < earlier.placement)

section Ranking

variable {S : Type} [Scalar S] {tick now : TickSequence} {world next : GameWorld S} {placements : List RoyalePlacement}

/-- A ranking of players who left the field, each behind everybody still on it. -/
structure Ranking (tick : TickSequence) (world : GameWorld S) (placements : List RoyalePlacement) : Prop where
  distinct : (placements.map RoyalePlacement.entity).Nodup
  gone : ∀ entry ∈ placements, entry.entity ∉ aliveEntities world
  behind : ∀ entry ∈ placements, aliveCount world < entry.placement
  past : ∀ entry ∈ placements, entry.eliminationTick.value ≤ tick.value
  ordered : placements.Pairwise RankedBefore
  bounded : placements.length + aliveCount world ≤ maximumEntityCount

theorem alive_nodup (world : GameWorld S) : (aliveEntities world).Nodup :=
  (aliveEntities_ascending world).imp ne_of_lt

theorem aliveCount_bounded (world : GameWorld S) : aliveCount world ≤ maximumEntityCount := by
  have bodied : aliveEntities world ⊆ world.bodies.keys := fun entity alive =>
    SortedStore.mem_keys_iff.mpr (mem_aliveEntities.mp alive).1
  calc aliveCount world ≤ world.bodies.keys.length := ((alive_nodup world).subperm bodied).length_le
    _ = world.bodies.entries.length := List.length_map _
    _ ≤ maximumEntityCount := world.bodies.bounded

theorem Ranking.nil (tick : TickSequence) (world : GameWorld S) : Ranking tick world [] :=
  ⟨.nil, (fun _ none => nomatch none), (fun _ none => nomatch none), (fun _ none => nomatch none), .nil,
    (Nat.zero_add _).symm ▸ aliveCount_bounded world⟩

theorem aliveCount_le {before after : GameWorld S} (fewer : ∀ entity ∈ aliveEntities after, entity ∈ aliveEntities before) :
    aliveCount after ≤ aliveCount before := ((alive_nodup after).subperm fewer).length_le

end Ranking

variable {S : Type} [RoundedScalar S]

namespace RoyaleMode

theorem survivors_lt {world : GameWorld S} {entity : EntityId} (alive : entity ∈ aliveEntities world)
    (eliminated : entity ∈ eliminatedEntitiesOf world) : (survivors world).length < aliveCount world := by
  refine List.length_filter_lt_length_iff_exists.mpr ⟨entity, alive, ?_⟩
  simpa using eliminated

theorem eliminated_survivors {world : GameWorld S} (alive : ∀ entity ∈ eliminatedEntitiesOf world, entity ∈ aliveEntities world) :
    (eliminatedEntitiesOf world).length + (survivors world).length ≤ aliveCount world := by
  have apart : (eliminatedEntitiesOf world ++ survivors world).Nodup := by
    refine List.nodup_append.mpr ⟨eliminated_nodup world, (alive_nodup world).filter _, fun first out second left same => ?_⟩
    rw [mem_survivors] at left
    exact left.2 (same ▸ out)
  have within : eliminatedEntitiesOf world ++ survivors world ⊆ aliveEntities world := by
    intro entity member
    obtain out | left := List.mem_append.mp member
    · exact alive entity out
    · exact (mem_survivors.mp left).1
  rw [← List.length_append]
  exact (apart.subperm within).length_le

/-- The eliminated of a tick are ranked behind everybody left, and before everybody who fell earlier. -/
theorem ranking_step {tick now : TickSequence} {world fought next : GameWorld S} {placements appended : List RoyalePlacement}
    (ranking : Ranking tick world placements) (later : tick.value < now.value)
    (fewer : ∀ entity ∈ aliveEntities fought, entity ∈ aliveEntities world)
    (named : ∀ entity ∈ eliminatedEntitiesOf fought, entity ∈ aliveEntities fought)
    (ranks : Appended now fought (survivors fought).length appended) (left : aliveEntities next = survivors fought) :
    Ranking now next (placements ++ appended) := by
  have count : aliveCount next = (survivors fought).length := congrArg List.length left
  have stayed : ∀ entity ∈ aliveEntities next, entity ∈ aliveEntities fought ∧ entity ∉ eliminatedEntitiesOf fought := by
    intro entity member
    rw [left, mem_survivors] at member
    exact member
  have ranked : ∀ entry ∈ appended, entry.entity ∈ eliminatedEntitiesOf fought := by
    intro entry member
    rw [← ranks.entities]
    exact List.mem_map_of_mem member
  have shrinks : aliveCount next ≤ aliveCount world :=
    aliveCount_le fun entity member => fewer entity (stayed entity member).1
  refine ⟨?_, fun entry member alive => ?_, fun entry member => ?_, fun entry member => ?_, ?_, ?_⟩
  · rw [List.map_append, List.nodup_append]
    refine ⟨ranking.distinct, ranks.entities ▸ eliminated_nodup fought, fun first earlier second listed same => ?_⟩
    obtain ⟨entry, member, rfl⟩ := List.mem_map.mp earlier
    rw [ranks.entities] at listed
    exact ranking.gone entry member (fewer _ (named _ (same ▸ listed)))
  · obtain earlier | fallen := List.mem_append.mp member
    · exact ranking.gone entry earlier (fewer _ (stayed _ alive).1)
    · exact (stayed _ alive).2 (ranked entry fallen)
  · obtain earlier | fallen := List.mem_append.mp member
    · exact lt_of_le_of_lt shrinks (ranking.behind entry earlier)
    · rw [ranks.placement entry fallen, count]
      exact Nat.lt_succ_self _
  · obtain earlier | fallen := List.mem_append.mp member
    · exact le_of_lt (lt_of_le_of_lt (ranking.past entry earlier) later)
    · rw [ranks.eliminationTick entry fallen]
  · refine List.pairwise_append.mpr ⟨ranking.ordered, ?_, fun first earlier second fallen => .inr ⟨?_, ?_⟩⟩
    · refine List.pairwise_of_forall_mem_list fun first fell second fallen => .inl ⟨?_, ?_⟩
      · rw [ranks.eliminationTick first fell, ranks.eliminationTick second fallen]
      · rw [ranks.placement first fell, ranks.placement second fallen]
    · rw [ranks.eliminationTick second fallen]
      exact lt_of_le_of_lt (ranking.past first earlier) later
    · have out := ranked second fallen
      calc second.placement = (survivors fought).length + 1 := ranks.placement second fallen
        _ ≤ aliveCount fought := survivors_lt (named _ out) out
        _ ≤ aliveCount world := aliveCount_le fewer
        _ < first.placement := ranking.behind first earlier
  · have lengths := congrArg List.length ranks.entities
    rw [List.length_map] at lengths
    rw [List.length_append, lengths, count]
    have fell := eliminated_survivors named
    have fought := aliveCount_le fewer
    have before := ranking.bounded
    omega

variable {mode : RoyaleMode S} {platform : RoyalePlatform S} {sim next : GameSimulation S} {batch : InputBatch S}
  {trace : GameSimulation.TickTrace S} {zone : Zone S}

/-- One tick between two commits: what the kernel left, what was judged of it and what was committed. -/
structure Ticks (mode : RoyaleMode S) (sim next : GameSimulation S) (trace : GameSimulation.TickTrace S)
    (zone : Zone S) : Prop where
  advances : next.tickSequence.value = sim.tickSequence.value + 1
  map : next.map = sim.map
  zoned : ZoneAt mode.configuration sim.map.bounds sim.world.matchState next.tickSequence zone
  moved : Moved sim.world trace.postKernel.world
  judgement : Judgement mode.configuration.eliminationGraceTicks zone trace.postKernel.world trace.lifecycle.world
  closing : Closing mode.configuration.eliminationGraceTicks next.tickSequence trace.lifecycle.world next.world

theorem radius_congr {configuration : RoyaleConfiguration S} {bounds : ArenaBounds S} {first second : MatchState S}
    {tick : TickSequence} (same : royaleRecord first = royaleRecord second) :
    ZoneShrinkSystem.radius configuration bounds first tick = ZoneShrinkSystem.radius configuration bounds second tick := by
  simp only [royaleRecord, Prod.mk.injEq] at same
  obtain ⟨phase, -, started, running, -⟩ := same
  rw [ZoneShrinkSystem.radius, ZoneShrinkSystem.radius, phase, started, running]

theorem Plays.tick (plays : mode.Plays platform sim) (sound : RoyaleSound sim.world) (quiet : sim.world.events = [])
    (step : sim.Steps batch next) : mode.Plays platform next ∧
      ∃ trace zone, sim.trace batch = .ok trace ∧ mode.Ticks sim next trace zone := by
  obtain ⟨decisions, stepped⟩ := step
  obtain ⟨trace, traces, rfl, -⟩ := GameSimulation.step_eq_ok.mp stepped
  obtain ⟨tick, traced⟩ := GameSimulation.trace_eq_ok traces
  obtain ⟨moved, now, map, -⟩ := plays.moved (solves_traced traced) sound quiet
  obtain ⟨settled, settles, lifecycle⟩ := bind_eq_ok.mp traced.settled
  obtain ⟨closed, grid, closes, -, -, committed⟩ := GameSimulation.commit_eq_ok traced.committed
  obtain ⟨zone, placed, judgement⟩ := plays.judged moved.sound moved.named settles
  have viewed : trace.lifecycle = ⟨settled, trace.postKernel.context⟩ := (Except.ok.inj lifecycle).symm
  rw [viewed] at closes
  have closing := plays.closing judgement.sound judgement.named closes
  refine ⟨plays.of_frame (by rw [committed]) (by rw [committed]) (by rw [committed]), trace, zone, traces, ?_, ?_, ?_,
    moved, ?_, ?_⟩
  · rw [committed]
    exact TickSequence.next_value traced.next
  · rw [committed]
  · rw [committed]
    refine ⟨map ▸ placed.center, placed.radius.trans ?_⟩
    rw [map, now, radius_congr moved.record]
  · rw [viewed]
    exact judgement
  · rw [committed, viewed, ← now]
    exact closing

theorem Ticks.record (ticks : mode.Ticks sim next trace zone) :
    royaleRecord trace.lifecycle.world.matchState = royaleRecord sim.world.matchState := by
  rw [ticks.judgement.record]
  exact ticks.moved.record

theorem Ticks.phase (ticks : mode.Ticks sim next trace zone) :
    trace.lifecycle.world.matchState.phase = sim.world.matchState.phase := congrArg Prod.fst ticks.record

theorem Ticks.previousPhase (ticks : mode.Ticks sim next trace zone) :
    next.world.matchState.previousPhase = sim.world.matchState.phase := by
  rw [ticks.closing.previousPhase, ticks.phase]

theorem Ticks.wipes (ticks : mode.Ticks sim next trace zone) :
    Wipes trace.lifecycle.world.matchState ↔ Wipes sim.world.matchState := by
  have previous : trace.lifecycle.world.matchState.previousPhase = sim.world.matchState.previousPhase :=
    congrArg (fun record => record.2.1) ticks.record
  rw [Wipes, Wipes, ticks.phase, previous]

theorem Ticks.opened (ticks : mode.Ticks sim next trace zone) :
    openedPlacements trace.lifecycle.world.matchState = openedPlacements sim.world.matchState := by
  have previous : trace.lifecycle.world.matchState.previousPhase = sim.world.matchState.previousPhase :=
    congrArg (fun record => record.2.1) ticks.record
  have held : trace.lifecycle.world.matchState.modeState = sim.world.matchState.modeState :=
    congrArg (fun record => record.2.2.2.2) ticks.record
  rw [openedPlacements, openedPlacements, ticks.phase, previous, held]

theorem Ticks.transition (ticks : mode.Ticks sim next trace zone) :
    (next.world.matchState.phase = sim.world.matchState.phase ∧
        next.world.matchState.phaseStartedTick = sim.world.matchState.phaseStartedTick ∧
        next.world.matchState.runningStartedTick = sim.world.matchState.runningStartedTick) ∨
      (sim.world.matchState.phase.Transition next.world.matchState.phase ∧
        next.world.matchState.phaseStartedTick = next.tickSequence ∧
        next.world.matchState.runningStartedTick = if next.world.matchState.phase = .running then next.tickSequence
          else sim.world.matchState.runningStartedTick) := by
  have started : trace.lifecycle.world.matchState.phaseStartedTick = sim.world.matchState.phaseStartedTick :=
    congrArg (fun record => record.2.2.1) ticks.record
  have running : trace.lifecycle.world.matchState.runningStartedTick = sim.world.matchState.runningStartedTick :=
    congrArg (fun record => record.2.2.2.1) ticks.record
  have clock := ticks.closing.clock
  rw [← ticks.phase, ← started, ← running]
  have phases : ∀ state : MatchState S, state.phase = state.clock.phase ∧
      state.phaseStartedTick = state.clock.phaseStartedTick ∧
      state.runningStartedTick = state.clock.runningStartedTick := fun _ => ⟨rfl, rfl, rfl⟩
  rw [(phases next.world.matchState).1, (phases next.world.matchState).2.1, (phases next.world.matchState).2.2,
    (phases trace.lifecycle.world.matchState).1]
  generalize next.world.matchState.clock = committed at clock
  cases clock with
  | stays => exact .inl ⟨rfl, rfl, rfl⟩
  | countsDown lobby => exact .inr ⟨lobby ▸ .countdown, rfl, rfl⟩
  | cancels countdown => exact .inr ⟨countdown ▸ .cancel, rfl, rfl⟩
  | starts countdown => exact .inr ⟨countdown ▸ .start, rfl, rfl⟩
  | ends running => exact .inr ⟨running ▸ .finish, rfl, rfl⟩
  | restarts ended => exact .inr ⟨ended ▸ .restart, rfl, rfl⟩

def CountsNobody (matchState : MatchState S) : Prop :=
  matchState.phase = .countdown ∨ (matchState.phase = .lobby ∧ matchState.previousPhase ≠ .ended) ∨
    (matchState.phase = .running ∧ matchState.previousPhase = .countdown)

def Unexposed (world : GameWorld S) : Prop := ∀ entity, carried world entity .zoneExposure = false

/-- The phases of a match that is being played or has just been decided. -/
def Contests (matchState : MatchState S) : Prop := matchState.phase = .running ∨ matchState.phase = .ended

/-- A simulation between two ticks of the mode. -/
structure Playing (mode : RoyaleMode S) (platform : RoyalePlatform S) (sim : GameSimulation S) : Prop where
  plays : mode.Plays platform sim
  sound : RoyaleSound sim.world
  quiet : sim.world.events = []
  unexposed : CountsNobody sim.world.matchState → Unexposed sim.world
  started : sim.world.matchState.phase = .running ∧ sim.world.matchState.previousPhase = .countdown →
    sim.world.matchState.runningStartedTick = sim.tickSequence
  ended : sim.world.matchState.phase = .ended ∧ sim.world.matchState.previousPhase = .running →
    sim.world.matchState.phaseStartedTick = sim.tickSequence
  ranking : Contests sim.world.matchState →
    Ranking sim.tickSequence sim.world (openedPlacements sim.world.matchState)

theorem Ticks.unexposed (ticks : mode.Ticks sim next trace zone)
    (unexposed : CountsNobody sim.world.matchState → Unexposed sim.world)
    (counts : CountsNobody next.world.matchState) : Unexposed next.world := by
  have faded : sim.world.matchState.phase ≠ .running → Unexposed sim.world → Unexposed next.world := by
    intro idle bare entity
    refine Bool.eq_false_iff.mpr fun held => ?_
    have judged := ticks.judgement.fades
      (fun running => idle ((congrArg Prod.fst ticks.moved.record).symm.trans running)) entity
        (ticks.closing.settles.fades entity held)
    have before := ticks.moved.fades entity judged
    rw [bare entity] at before
    cases before
  have lobby : sim.world.matchState.phase = .lobby → Unexposed next.world := by
    intro lobby
    by_cases ended : sim.world.matchState.previousPhase = .ended
    · exact ticks.closing.wiped (ticks.wipes.mpr ⟨lobby, ended⟩)
    · exact faded (by rw [lobby]; decide) (unexposed (.inr (.inl ⟨lobby, ended⟩)))
  have countdown : sim.world.matchState.phase = .countdown → Unexposed next.world := fun countdown =>
    faded (by rw [countdown]; decide) (unexposed (.inl countdown))
  rw [CountsNobody, ticks.previousPhase] at counts
  obtain counting | ⟨waiting, notEnded⟩ | ⟨-, started⟩ := counts
  · obtain ⟨same, -⟩ | ⟨transition, -⟩ := ticks.transition
    · exact countdown (same.symm.trans counting)
    · rw [counting] at transition
      generalize earlier : sim.world.matchState.phase = phase at transition
      cases transition with
      | countdown => exact lobby earlier
  · obtain ⟨same, -⟩ | ⟨transition, -⟩ := ticks.transition
    · exact lobby (same.symm.trans waiting)
    · rw [waiting] at transition
      generalize earlier : sim.world.matchState.phase = phase at transition notEnded
      cases transition with
      | cancel => exact countdown earlier
      | restart => exact absurd rfl notEnded
  · exact countdown started

theorem Ticks.placements (ticks : mode.Ticks sim next trace zone) (contests : Contests sim.world.matchState) :
    ∃ appended, Appended next.tickSequence trace.lifecycle.world (aliveCount next.world) appended ∧
      royaleModeStateOf next.world.matchState.modeState =
        ⟨openedPlacements sim.world.matchState ++ appended, sim.world.matchState.phase,
          mode.configuration.eliminationGraceTicks⟩ ∧
      aliveEntities next.world = survivors trace.lifecycle.world := by
  obtain ⟨appended, ranks, written⟩ := ticks.closing.ranked
  have calm : ¬ Wipes trace.lifecycle.world.matchState := by
    intro wipes
    have lobby := (ticks.wipes.mp wipes).1
    rw [Contests, lobby] at contests
    simp at contests
  have left := ticks.closing.alive calm
  refine ⟨appended, ?_, ?_, left⟩
  · rw [aliveCount, left]
    exact ranks
  · rw [written, ticks.opened, ticks.phase]

theorem Ticks.ranking (ticks : mode.Ticks sim next trace zone)
    (ranking : Contests sim.world.matchState →
      Ranking sim.tickSequence sim.world (openedPlacements sim.world.matchState))
    (contests : Contests next.world.matchState) :
    Ranking next.tickSequence next.world (openedPlacements next.world.matchState) := by
  by_cases opens : next.world.matchState.phase = .running ∧ next.world.matchState.previousPhase = .countdown
  · rw [openedPlacements, if_pos opens]
    exact .nil _ _
  · have contested : Contests sim.world.matchState := by
      rw [ticks.previousPhase] at opens
      obtain ⟨same, -⟩ | ⟨transition, -⟩ := ticks.transition
      · rwa [Contests, same] at contests
      · rw [Contests] at contests ⊢
        generalize sim.world.matchState.phase = earlier at transition opens ⊢
        generalize next.world.matchState.phase = later at transition opens contests
        cases transition with
        | countdown | cancel | restart => simp at contests
        | start => exact absurd ⟨rfl, rfl⟩ opens
        | finish => exact .inl rfl
    obtain ⟨appended, ranks, written, left⟩ := ticks.placements contested
    rw [openedPlacements, if_neg opens, written]
    have count : aliveCount next.world = (survivors trace.lifecycle.world).length := congrArg List.length left
    refine ranking_step (ranking contested) (by have := ticks.advances; omega) (fun entity member => ?_)
      (fun entity member => (ticks.judgement.named.eliminated entity (mem_eliminatedEntitiesOf.mp member)).1)
      (count ▸ ranks) left
    rw [ticks.judgement.alive] at member
    exact (ticks.moved.fewer contested).alive entity member

theorem Playing.step (playing : mode.Playing platform sim) (step : sim.Steps batch next) :
    mode.Playing platform next := by
  obtain ⟨plays, trace, zone, -, ticks⟩ := playing.plays.tick playing.sound playing.quiet step
  refine ⟨plays, ticks.closing.settles.sound, ticks.closing.quiet, ticks.unexposed playing.unexposed,
    fun started => ?_, fun ended => ?_, ticks.ranking playing.ranking⟩
  · rw [ticks.previousPhase] at started
    obtain ⟨same, -⟩ | ⟨-, -, running⟩ := ticks.transition
    · cases started.2.symm.trans (same.symm.trans started.1)
    · rw [running, if_pos started.1]
  · rw [ticks.previousPhase] at ended
    obtain ⟨same, -⟩ | ⟨-, began, -⟩ := ticks.transition
    · cases ended.2.symm.trans (same.symm.trans ended.1)
    · exact began

/-- A world before its first match. -/
structure Fresh (world : GameWorld S) : Prop where
  zone : ∀ entity, carried world entity .zone = false
  lifetime : ∀ entity, carried world entity .lifetime = false
  exposure : Unexposed world
  quiet : world.events = []
  lobby : world.matchState.phase = .lobby
  previous : world.matchState.previousPhase = .lobby

theorem fresh_created {seeds : List (EntitySeed S)} {world : GameWorld S} (created : GameWorld.create seeds = .ok world) :
    Fresh world := by
  unfold GameWorld.create at created
  dsimp only at created
  split at created
  · split at created
    · cases created
    · obtain ⟨bodies, -, rest⟩ := bind_eq_ok.mp created
      obtain ⟨controllables, -, committed⟩ := bind_eq_ok.mp rest
      cases committed
      have bare : ∀ kind entity, kind ≠ .physicsBody → kind ≠ .controllable → carried
          (((GameWorld.empty 0 : GameWorld S).withBodies bodies).withControllables controllables) entity kind = false := by
        intro kind entity noBody noLink
        rw [carried, GameWorld.withControllables, GameWorld.withStore_other _ noLink, GameWorld.withBodies,
          GameWorld.withStore_other _ noBody]
        rfl
      exact ⟨fun entity => bare .zone entity (by decide) (by decide),
        fun entity => bare .lifetime entity (by decide) (by decide),
        fun entity => bare .zoneExposure entity (by decide) (by decide), rfl, rfl, rfl⟩
  · cases created

/-- The mode's simulation before its first tick. -/
def Begins (mode : RoyaleMode S) (platform : RoyalePlatform S) (map : MapDefinition S) (sim : GameSimulation S) : Prop :=
  ∃ motion gameMode configuration world limits, HonestKernel motion ∧ mode.gameMode platform motion = .ok gameMode ∧
    Fresh world ∧ GameSimulation.create configuration world limits map gameMode = .ok sim

theorem Begins.playing {map : MapDefinition S} (begins : mode.Begins platform map sim) :
    mode.Playing platform sim ∧ sim.map = map := by
  obtain ⟨motion, gameMode, configuration, world, limits, honest, declares, fresh, created⟩ := begins
  obtain ⟨plays, started, mapped, -⟩ := plays_created honest declares created
  rw [← started] at fresh
  have lobby := fresh.lobby
  refine ⟨⟨plays, ⟨fun first _ zoned => ?_, fun entity => ⟨fun zoned => ?_, fun brief => ?_, fun counted => ?_⟩⟩,
    fresh.quiet, fun _ => fresh.exposure, fun running => ?_, fun ended => ?_, fun contests => ?_⟩, mapped⟩
  · have absent := fresh.zone first
    rw [carried, zoned] at absent
    cases absent
  · rw [fresh.zone entity] at zoned
    cases zoned
  · rw [fresh.lifetime entity] at brief
    cases brief
  · rw [fresh.exposure entity] at counted
    cases counted
  · cases lobby.symm.trans running.1
  · cases lobby.symm.trans ended.1
  · obtain running | ended := contests
    · cases lobby.symm.trans running
    · cases lobby.symm.trans ended

theorem Begins.lobby {map : MapDefinition S} (begins : mode.Begins platform map sim) :
    sim.world.matchState.phase = .lobby := by
  obtain ⟨motion, gameMode, configuration, world, limits, honest, declares, fresh, created⟩ := begins
  obtain ⟨-, started, -⟩ := plays_created honest declares created
  rw [started]
  exact fresh.lobby

section Runs

variable {length : Nat} {map : MapDefinition S} (run : Run (@GameSimulation.Steps S _) length)
  (begins : mode.Begins platform map (run.state 0))
include begins

theorem playing_run : ∀ position, position ≤ length → mode.Playing platform (run.state position) :=
  run.invariant begins.playing.1 fun playing step => playing.step step

theorem ticks_run (position : Nat) (within : position < length) : ∃ trace zone,
    (run.state position).trace (run.label position) = .ok trace ∧
      mode.Ticks (run.state position) (run.state (position + 1)) trace zone := by
  have playing := playing_run run begins position (Nat.le_of_lt within)
  exact (playing.plays.tick playing.sound playing.quiet (run.steps position within)).2

theorem map_run (position : Nat) (within : position ≤ length) : (run.state position).map = map := by
  induction position with
  | zero => exact begins.playing.2
  | succ position ih =>
    obtain ⟨trace, zone, -, ticks⟩ := ticks_run run begins position within
    rw [ticks.map]
    exact ih (Nat.le_of_lt within)

end Runs

end RoyaleMode

end BlobRoyale.Gameplay
