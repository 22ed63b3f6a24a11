import BlobRoyale.Gameplay.AbilityIndependence
import BlobRoyale.Gameplay.RoyaleRun
import BlobRoyale.Library.MaximalRuns
import BlobRoyale.Simulation.BroadPhaseSuperset
import BlobRoyale.Simulation.MatchLifecycleLaw

/-!
# The laws of a royale match

Over every run: when the zone has which radius, when standing outside of it costs a player the match, and how the
ranking comes about.
-/

namespace BlobRoyale.Gameplay

open Simulation Transition PlacementRecorderSystem RoyaleMode

section Radius

variable {S : Type} [ExactScalar S] {fullRadius minimumRadius : S} {elapsed later shrinkTicks : Nat}

open ExactScalar

theorem zoneRadius_full (elapsed : Nat) (low : minimumRadius ≤ fullRadius) :
    minimumRadius ≤ zoneRadius fullRadius minimumRadius elapsed shrinkTicks ∧
      zoneRadius fullRadius minimumRadius elapsed shrinkTicks ≤ fullRadius := by
  unfold zoneRadius
  split
  · exact ⟨le_rfl, low⟩
  · next running =>
    rw [not_or, not_le] at running
    have ratio : (elapsed : ℝ) / shrinkTicks ≤ 1 :=
      (div_le_one (by exact_mod_cast Nat.pos_of_ne_zero running.1)).mpr (by exact_mod_cast le_of_lt running.2)
    have positive : 0 ≤ (elapsed : ℝ) / shrinkTicks := by positivity
    have apart := (real_le _ _).mpr low
    rw [← real_le, ← real_le]
    simp only [real_sub, real_mul, real_div, real_natCast]
    constructor
    · nlinarith
    · nlinarith

theorem zoneRadius_antitone (low : minimumRadius ≤ fullRadius) (grows : elapsed ≤ later) :
    zoneRadius fullRadius minimumRadius later shrinkTicks ≤ zoneRadius fullRadius minimumRadius elapsed shrinkTicks := by
  by_cases shrunk : shrinkTicks = 0 ∨ shrinkTicks ≤ later
  · rw [show zoneRadius fullRadius minimumRadius later shrinkTicks = minimumRadius from if_pos shrunk]
    exact (zoneRadius_full elapsed low).1
  · have running : ¬ (shrinkTicks = 0 ∨ shrinkTicks ≤ elapsed) := by omega
    have apart := (real_le _ _).mpr low
    unfold zoneRadius
    rw [if_neg shrunk, if_neg running, ← real_le]
    simp only [real_sub, real_mul, real_div, real_natCast]
    have ratio : (elapsed : ℝ) / shrinkTicks ≤ later / shrinkTicks := by gcongr
    nlinarith

end Radius

section Zone

variable {S : Type} [RoundedScalar S] {mode : RoyaleMode S} {platform : RoyalePlatform S} {map : MapDefinition S}
  {length : Nat} {sim next : GameSimulation S} {trace : GameSimulation.TickTrace S} {zone : Zone S}

theorem CarriesZone.unique {first second : Zone S} {world : GameWorld S} (left : CarriesZone first world)
    (right : CarriesZone second world) : first = second := by
  obtain ⟨carrier, held⟩ := left
  obtain ⟨other, holds⟩ := right
  have found := (held carrier).trans (if_pos rfl)
  rw [holds] at found
  split at found
  · exact (Option.some.inj found).symm
  · cases found

theorem ticks_published (ticks : mode.Ticks sim next trace zone) : CarriesZone zone next.world := by
  obtain ⟨carrier, held⟩ := ticks.judgement.zoned
  exact ⟨carrier, fun entity => (ticks.closing.settles.zones entity).trans (held entity)⟩

/-- From position `first` on a match ran up to `last`, and has been over since. -/
structure MatchStretch (run : Run (@GameSimulation.Steps S _) length) (first last position : Nat) : Prop where
  starts : (run.state first).world.matchState.previousPhase = .countdown
  runs : ∀ between, first ≤ between → between ≤ last → (run.state between).world.matchState.phase = .running
  ended : ∀ between, last < between → between ≤ position → (run.state between).world.matchState.phase = .ended

variable (run : Run (@GameSimulation.Steps S _) length) (begins : mode.Begins platform map (run.state 0))
include begins

theorem tick_run (position : Nat) (within : position ≤ length) :
    (run.state position).tickSequence.value = (run.state 0).tickSequence.value + position := by
  induction position with
  | zero => rfl
  | succ position ih =>
    obtain ⟨trace, zone, -, ticks⟩ := ticks_run run begins position within
    rw [ticks.advances, ih (Nat.le_of_lt within)]
    rfl

theorem started_run {first last : Nat} (starts : (run.state first).world.matchState.previousPhase = .countdown)
    (runs : ∀ between, first ≤ between → between ≤ last → (run.state between).world.matchState.phase = .running)
    (ordered : first ≤ last) (within : last ≤ length) :
    (run.state last).world.matchState.runningStartedTick = (run.state first).tickSequence := by
  induction last, ordered using Nat.le_induction with
  | base => exact (playing_run run begins first within).started ⟨runs first le_rfl le_rfl, starts⟩
  | succ last ordered ih =>
    obtain ⟨trace, zone, -, ticks⟩ := ticks_run run begins last within
    have earlier := ih (fun between lower upper => runs between lower (Nat.le_succ_of_le upper)) (Nat.le_of_lt within)
    have before := runs last ordered (Nat.le_succ last)
    obtain ⟨-, -, kept⟩ | ⟨transition, -⟩ := ticks.transition
    · rw [kept, earlier]
    · rw [before, runs (last + 1) (Nat.le_succ_of_le ordered) le_rfl] at transition
      cases transition

theorem ended_run {first last position : Nat} (stretch : MatchStretch run first last position) (ordered : first ≤ last)
    (past : last < position) (within : position ≤ length) :
    (run.state position).world.matchState.runningStartedTick = (run.state first).tickSequence ∧
      (run.state position).world.matchState.phaseStartedTick = (run.state (last + 1)).tickSequence := by
  induction position, past using Nat.le_induction with
  | base =>
    obtain ⟨trace, zone, -, ticks⟩ := ticks_run run begins last within
    have started := started_run run begins stretch.starts stretch.runs ordered (Nat.le_of_lt within)
    have running := stretch.runs last ordered le_rfl
    have ended := stretch.ended (last + 1) (Nat.lt_succ_self last) le_rfl
    obtain ⟨same, -⟩ | ⟨-, began, kept⟩ := ticks.transition
    · rw [ended, running] at same
      cases same
    · rw [ended, if_neg (by decide)] at kept
      exact ⟨kept.trans started, began⟩
  | succ position past ih =>
    obtain ⟨trace, zone, -, ticks⟩ := ticks_run run begins position within
    have earlier := ih ⟨stretch.starts, stretch.runs, fun between lower upper =>
      stretch.ended between lower (Nat.le_succ_of_le upper)⟩ (Nat.le_of_lt within)
    have before := stretch.ended position past (Nat.le_succ position)
    obtain ⟨-, began, kept⟩ | ⟨transition, -⟩ := ticks.transition
    · rw [began, kept]
      exact earlier
    · rw [before, stretch.ended (position + 1) (Nat.lt_succ_of_lt past) le_rfl] at transition
      cases transition

theorem radius_run {first last position : Nat} (stretch : MatchStretch run first last position) (ordered : first ≤ last)
    (behind : last ≤ position) (within : position < length)
    (ticks : mode.Ticks (run.state position) (run.state (position + 1)) trace zone) :
    zone.radius = zoneRadius (zoneFullRadius map.bounds) mode.configuration.zoneMinimumRadius (last + 1 - first)
      mode.configuration.zoneShrinkTicks := by
  have clock := tick_run run begins
  rw [ticks.zoned.radius, map_run run begins position (Nat.le_of_lt within), ZoneShrinkSystem.radius]
  obtain here | past := Nat.eq_or_lt_of_le behind
  · subst here
    rw [stretch.runs last ordered le_rfl,
      started_run run begins stretch.starts stretch.runs ordered (Nat.le_of_lt within)]
    have elapsed : ticksSince (run.state (last + 1)).tickSequence (run.state first).tickSequence = last + 1 - first := by
      rw [ticksSince, clock (last + 1) within, clock first (by omega), if_pos (by omega)]
      omega
    simp only [elapsed]
  · obtain ⟨running, ended⟩ := ended_run run begins stretch ordered past (Nat.le_of_lt within)
    rw [stretch.ended position past le_rfl, running, ended]
    have elapsed : ticksSince (run.state (last + 1)).tickSequence (run.state first).tickSequence = last + 1 - first := by
      rw [ticksSince, clock (last + 1) (by omega), clock first (by omega), if_pos (by omega)]
      omega
    simp only [elapsed]

end Zone

/-- Exact arithmetic with the rounding operations beside it. -/
class ExactRoundedScalar (S : Type) extends RoundedScalar S, ExactScalar S

instance : RoundedScalar ℚ where
  ceil value := ((⌈value⌉ : ℤ) : ℚ)
  toWhole value := ⌊value⌋.toNat

instance : ExactRoundedScalar ℚ where

section OutsideMatch

open AbilitySystem (briefAbilities restingBody alone)

/-- A zone that shrinks at once, and nobody may stand outside of it. -/
def suddenRoyale : RoyaleMode ℚ where
  configuration := ⟨1, 1, 1, 0, 0, zero_le_one⟩
  hazards := []
  abilities := briefAbilities

def suddenPlatform : RoyalePlatform ℚ :=
  ⟨fun x y => Scalar.sqrt (x * x + y * y), fun _ => ⟨.systemPipelineSystemNameEmpty, "royale", "refused"⟩⟩

def stillKernel : MotionKernel ℚ := ⟨fun _ _ _ => .ok fun subjects _ => .ok ⟨subjects, []⟩⟩

theorem stillKernel_honest : HonestKernel stillKernel := by
  intro world context limits solve subjects policies result bound keys solved
  cases bound
  cases solved
  refine ⟨fun entity => ?_, fun entity named => ?_, fun entity named => ?_⟩
  · rw [keys]
  · cases named
  · cases named

theorem validComponent_ten : ValidComponent (10 : ℚ) := by decide

def corner : Vector2 ℚ := ⟨10, 10, validComponent_ten, validComponent_ten⟩

theorem requestedSeat_bounded : [Seat.controller .first].length ≤ maximumSeatCount := by decide

/-- One player off the center, who has asked for the match. -/
def lonelyLobby : GameWorld ℚ :=
  (((GameWorld.empty 0).withMatch { MatchState.initial with
    seats := ⟨[.controller .first], true, requestedSeat_bounded⟩ }).withBodies
      (alone { restingBody with position := corner })).withControllables (alone (.linked .first))

theorem lonelyLobby_fresh : Fresh lonelyLobby :=
  ⟨fun _ => rfl, fun _ => rfl, fun _ => rfl, rfl, rfl, rfl⟩

def squareMap : MapDefinition ℚ := (GameSimulation.oneCellSimulation []).map

def openedRoyale : Validated (GameSimulation ℚ) := do
  let gameMode ← suddenRoyale.gameMode suddenPlatform stillKernel
  GameSimulation.create GameSimulation.oneCell lonelyLobby .ceilings squareMap gameMode

def lonelyRoyale : GameSimulation ℚ :=
  match openedRoyale with
  | .ok sim => sim
  | .error _ => GameSimulation.oneCellSimulation []

theorem lonelyRoyale_begins : suddenRoyale.Begins suddenPlatform squareMap lonelyRoyale := by
  have opens : openedRoyale.isOk = true := by decide +kernel
  cases opened : openedRoyale with
  | error refusal =>
    rw [opened] at opens
    cases opens
  | ok sim =>
    obtain ⟨gameMode, declared, created⟩ := bind_eq_ok.mp opened
    have same : lonelyRoyale = sim := by rw [lonelyRoyale, opened]
    exact ⟨stillKernel, gameMode, _, lonelyLobby, _, stillKernel_honest, declared, lonelyLobby_fresh, same ▸ created⟩

def zoneId : EntityId := (Identity.create .entity 2).toOption.getD .first

theorem zoneReservation_within : 1 ≤ maximumEntityIdReservationCount := by decide

theorem zoneReservation_representable : zoneId.value + 1 ≤ maximumEntityId + 1 := by decide

def lendingBatch : InputBatch ℚ where
  commands := []
  entityIdReservation := ⟨zoneId, 1, zoneReservation_within, zoneReservation_representable⟩
  ascending := .nil
  wellFormed := fun _ none => nomatch none

def outsideState : Nat → GameSimulation ℚ :=
  trajectory GameSimulation.after lonelyRoyale fun _ => lendingBatch

theorem outsideState_steps (position : Nat) (within : position < 3) :
    GameSimulation.Steps (outsideState position) lendingBatch (outsideState (position + 1)) := by
  have taken : ∀ position, position < 3 → ((outsideState position).step lendingBatch).isOk = true := by decide +kernel
  exact GameSimulation.steps_after (taken position within)

/-- The lobby, the countdown and the one tick the match lasts. -/
def outsideMatch : Run (@GameSimulation.Steps ℚ _) 3 where
  state := outsideState
  label _ := lendingBatch
  steps := outsideState_steps

end OutsideMatch

section ZoneLaw

variable {S : Type} [ExactRoundedScalar S] {mode : RoyaleMode S} {platform : RoyalePlatform S} {map : MapDefinition S}
  {length : Nat} {configuration : RoyaleConfiguration S} {bounds : ArenaBounds S}

open ExactScalar

theorem radius_between (low : configuration.zoneMinimumRadius ≤ zoneFullRadius bounds) (matchState : MatchState S)
    (tick : TickSequence) :
    configuration.zoneMinimumRadius ≤ ZoneShrinkSystem.radius configuration bounds matchState tick ∧
      ZoneShrinkSystem.radius configuration bounds matchState tick ≤ zoneFullRadius bounds := by
  unfold ZoneShrinkSystem.radius
  split
  · exact ⟨low, le_rfl⟩
  · exact ⟨low, le_rfl⟩
  · exact zoneRadius_full _ low
  · exact zoneRadius_full _ low

theorem radius_shrinks {sim next : GameSimulation S} {trace : GameSimulation.TickTrace S} {zone : Zone S}
    (low : mode.configuration.zoneMinimumRadius ≤ zoneFullRadius bounds) (ticks : mode.Ticks sim next trace zone)
    {later : TickSequence} (follows : later.value = next.tickSequence.value + 1)
    (plays : ¬ (sim.world.matchState.phase = .ended ∧ next.world.matchState.phase = .lobby)) :
    ZoneShrinkSystem.radius mode.configuration bounds next.world.matchState later ≤
      ZoneShrinkSystem.radius mode.configuration bounds sim.world.matchState next.tickSequence := by
  have limits := radius_between low next.world.matchState later
  have waits : ∀ started : TickSequence, ticksSince next.tickSequence started ≤ ticksSince later started := by
    intro started
    unfold ticksSince
    split <;> split <;> omega
  obtain ⟨phase, began, running⟩ | ⟨transition, began, running⟩ := ticks.transition
  · unfold ZoneShrinkSystem.radius
    rw [phase, began, running]
    cases sim.world.matchState.phase with
    | lobby | countdown | ended => exact le_rfl
    | running => exact zoneRadius_antitone low (waits _)
  · unfold ZoneShrinkSystem.radius at limits ⊢
    generalize sim.world.matchState.phase = before at transition plays ⊢
    generalize next.world.matchState.phase = after at transition plays running limits ⊢
    cases transition with
    | countdown | cancel | start => exact limits.2
    | finish =>
      rw [if_neg (by decide)] at running
      rw [began, running]
    | restart => exact absurd ⟨rfl, rfl⟩ plays

/-- The zone of every tick of a run. -/
theorem royale_zone_law (run : Run (@GameSimulation.Steps S _) length) (begins : mode.Begins platform map (run.state 0))
    (validated : mode.validateMap map = .ok ()) (position : Nat) (within : position < length) :
    ∃ zone, CarriesZone zone (run.state (position + 1)).world ∧ zoneCenter map.bounds = .ok zone.center ∧
      mode.configuration.zoneMinimumRadius ≤ zone.radius ∧ zone.radius ≤ zoneFullRadius map.bounds ∧
      ((run.state position).world.matchState.phase = .lobby ∨ (run.state position).world.matchState.phase = .countdown →
        zone.radius = zoneFullRadius map.bounds) ∧
      (∀ first last, first ≤ last → last ≤ position → MatchStretch run first last position →
        if mode.configuration.zoneShrinkTicks ≤ last + 1 - first then
          zone.radius = mode.configuration.zoneMinimumRadius
        else real zone.radius = real (zoneFullRadius map.bounds) -
          (real (zoneFullRadius map.bounds) - real mode.configuration.zoneMinimumRadius) *
            (((last + 1 - first : Nat) : ℝ) / mode.configuration.zoneShrinkTicks)) ∧
      ∀ shrunk, position + 1 < length → CarriesZone shrunk (run.state (position + 2)).world →
        ¬ ((run.state position).world.matchState.phase = .ended ∧
          (run.state (position + 1)).world.matchState.phase = .lobby) → shrunk.radius ≤ zone.radius := by
  have low : mode.configuration.zoneMinimumRadius ≤ zoneFullRadius map.bounds := by
    unfold validateMap at validated
    dsimp only at validated
    split at validated
    · cases validated
    · next wider => exact le_of_lt (not_le.mp wider)
  obtain ⟨trace, zone, -, ticks⟩ := ticks_run run begins position within
  have mapped := map_run run begins position (Nat.le_of_lt within)
  have radius := ticks.zoned.radius
  have center := ticks.zoned.center
  rw [mapped] at radius center
  have limits := radius_between low (run.state position).world.matchState
    (run.state (position + 1)).tickSequence
  rw [← radius] at limits
  refine ⟨zone, ticks_published ticks, center, limits.1, limits.2, fun waiting => ?_,
    fun first last ordered behind stretch => ?_, fun shrunk further carries plays => ?_⟩
  · rw [radius, ZoneShrinkSystem.radius]
    obtain lobby | countdown := waiting
    · rw [lobby]
    · rw [countdown]
  · rw [radius_run run begins stretch ordered behind within ticks]
    unfold zoneRadius
    split
    · next shrunk => exact if_pos (.inr shrunk)
    · next shrinks =>
      rw [if_neg (by omega)]
      simp only [real_sub, real_mul, real_div, real_natCast]
  · obtain ⟨laterTrace, laterZone, -, laterTicks⟩ := ticks_run run begins (position + 1) further
    rw [carries.unique (ticks_published laterTicks), laterTicks.zoned.radius, radius,
      map_run run begins (position + 1) within]
    exact radius_shrinks low ticks laterTicks.advances plays

theorem outsideMatch_stretch : MatchStretch outsideMatch 2 2 2 where
  starts := by decide +kernel
  runs between lower upper := by
    rw [Nat.le_antisymm upper lower]
    decide +kernel
  ended between lower upper := absurd upper (Nat.not_le.mpr lower)

/-- The first tick of the match already judges by the smallest zone. -/
theorem royale_zone_law_outside :
    ∃ zone, CarriesZone zone (outsideMatch.state 3).world ∧ zone.radius = suddenRoyale.configuration.zoneMinimumRadius := by
  have validated : suddenRoyale.validateMap squareMap = .ok () := by decide +kernel
  obtain ⟨zone, carries, -, -, -, -, stretches, -⟩ :=
    royale_zone_law outsideMatch lonelyRoyale_begins validated 2 (by decide)
  have shrunk := stretches 2 2 le_rfl le_rfl outsideMatch_stretch
  rw [if_pos (by decide)] at shrunk
  exact ⟨zone, carries, shrunk⟩

end ZoneLaw

section Elimination

variable {S : Type} [RoundedScalar S] {mode : RoyaleMode S} {platform : RoyalePlatform S} {map : MapDefinition S}
  {length : Nat} (run : Run (@GameSimulation.Steps S _) length)

/-- The match ran at a position, and the tick from it judged an entity outside of the zone it published. -/
def JudgedOutside (entity : EntityId) (position : Nat) : Prop :=
  (run.state position).world.matchState.phase = .running ∧ ∃ trace zone,
    (run.state position).trace (run.label position) = .ok trace ∧
      CarriesZone zone (run.state (position + 1)).world ∧ entity ∈ aliveEntities trace.postKernel.world ∧
        standsOutside zone trace.postKernel.world entity = true

open ZoneEliminationSystem MaximalRuns

variable {run} {entity : EntityId} {position : Nat} {trace : GameSimulation.TickTrace S} {zone : Zone S}

theorem judgedOutside_iff (traces : (run.state position).trace (run.label position) = .ok trace)
    (ticks : mode.Ticks (run.state position) (run.state (position + 1)) trace zone) :
    JudgedOutside run entity position ↔ (run.state position).world.matchState.phase = .running ∧
      entity ∈ aliveEntities trace.postKernel.world ∧ standsOutside zone trace.postKernel.world entity = true := by
  constructor
  · rintro ⟨running, other, judgedBy, traced, published, alive, stands⟩
    cases traces.symm.trans traced
    rw [published.unique (ticks_published ticks)] at stands
    exact ⟨running, alive, stands⟩
  · rintro ⟨running, alive, stands⟩
    exact ⟨running, trace, zone, traces, ticks_published ticks, alive, stands⟩

theorem outsideTicks_counted (outside : Bool) (exposure : Option ZoneExposure) :
    outsideTicks (counted outside exposure) = if outside then outsideTicks exposure + 1 else 0 := by
  cases outside <;> rfl

variable (begins : mode.Begins platform map (run.state 0))
include begins

theorem exposure_counts (position : Nat) (within : position ≤ length)
    (running : (run.state position).world.matchState.phase = .running)
    (alive : entity ∈ aliveEntities (run.state position).world) :
    Counts (JudgedOutside run entity) position
      (outsideTicks (((run.state position).world.stores .zoneExposure).find entity)) := by
  induction position with
  | zero =>
    have lobby := begins.lobby
    rw [lobby] at running
    cases running
  | succ position ih =>
    obtain ⟨trace, zone, traces, ticks⟩ := ticks_run run begins position within
    have judged := @judgedOutside_iff _ _ _ _ run entity _ _ _ traces ticks
    obtain ⟨same, -⟩ | ⟨transition, -⟩ := ticks.transition
    · have before := same.symm.trans running
      have fought := ticks.closing.settles.fewer.alive entity alive
      rw [ticks.judgement.alive] at fought
      have entered := ticks.moved.fewer (.inl before)
      have phase := (congrArg Prod.fst ticks.moved.record).trans before
      have count := ih (Nat.le_of_lt within) before (entered.alive entity fought)
      rw [ticks.closing.settles.fewer.exposure entity alive, ticks.judgement.counters phase entity fought,
        entered.exposure entity fought, outsideTicks_counted]
      split
      · next outside => exact count.hit (judged.mpr ⟨before, fought, outside⟩)
      · next inside => exact .miss fun outside => inside (judged.mp outside).2.2
    · rw [running] at transition
      generalize earlier : (run.state position).world.matchState.phase = phase at transition
      cases transition with
      | start =>
        have bare := (playing_run run begins (position + 1) within).unexposed
          (.inr (.inr ⟨running, ticks.previousPhase.trans earlier⟩)) entity
        rw [Option.not_isSome_iff_eq_none.mp (Bool.eq_false_iff.mp bare)]
        refine .miss fun outside => ?_
        cases earlier.symm.trans outside.1

/-- The zone names exactly those who have stood outside for the grace, in ascending order, and they are gone when
the tick is committed. -/
theorem zone_elimination_law (position : Nat) (within : position < length) :
    ∃ (trace : GameSimulation.TickTrace S) (late : List EntityId) (requests : List (WorldEvent S)),
    (run.state position).trace (run.label position) = .ok trace ∧
      trace.lifecycle.world.events = trace.postKernel.world.events ++ late.map .elimination ++ requests ∧
      (∀ event ∈ requests, ∃ entity duration, event = .stunRequest entity duration) ∧ late.Pairwise (· < ·) ∧
      ∀ entity, (entity ∈ late ↔ ∀ earlier, earlier ≤ position →
        position < earlier + max mode.configuration.eliminationGraceTicks 1 → JudgedOutside run entity earlier) ∧
        (entity ∈ late → entity ∉ aliveEntities (run.state (position + 1)).world) := by
  obtain ⟨trace, zone, traces, ticks⟩ := ticks_run run begins position within
  obtain ⟨late, requests, events, asks, ascending, named⟩ := ticks.judgement.events
  have phase : trace.postKernel.world.matchState.phase = (run.state position).world.matchState.phase :=
    congrArg Prod.fst ticks.moved.record
  refine ⟨trace, late, requests, traces, events, asks, ascending, fun entity => ⟨?_, fun member alive => ?_⟩⟩
  · have judged := @judgedOutside_iff _ _ _ _ run entity _ _ _ traces ticks
    have behind : JudgedOutside run entity position → Counts (JudgedOutside run entity) (position + 1)
        (outsideTicks ((trace.postKernel.world.stores .zoneExposure).find entity) + 1) := by
      intro outside
      obtain ⟨running, alive, -⟩ := judged.mp outside
      have entered := ticks.moved.fewer (.inl running)
      rw [entered.exposure entity alive]
      exact (exposure_counts begins position (Nat.le_of_lt within) running (entered.alive entity alive)).hit outside
    rw [named, phase, names, Bool.and_eq_true, decide_eq_true_eq]
    constructor
    · rintro ⟨running, alive, outside, overdue⟩ earlier before reaches
      have here := judged.mpr ⟨running, alive, outside⟩
      rw [outside, outsideTicks_counted, if_pos rfl] at overdue
      exact (behind here _).mp (max_le overdue (Nat.le_add_left 1 _)) earlier (Nat.lt_succ_of_le before) reaches
    · intro stay
      have here := stay position le_rfl (Nat.lt_add_of_pos_right (lt_max_of_lt_right Nat.one_pos))
      obtain ⟨running, alive, outside⟩ := judged.mp here
      refine ⟨running, alive, outside, ?_⟩
      rw [outside, outsideTicks_counted, if_pos rfl]
      exact (le_max_left _ _).trans ((behind here _).mpr fun earlier before reaches =>
        stay earlier (Nat.le_of_lt_succ before) reaches)
  · have running := ((named entity).mp member).1
    obtain ⟨appended, -, -, left⟩ := ticks.placements (.inl (phase.symm.trans running))
    rw [left, mem_survivors] at alive
    refine alive.2 (mem_eliminatedEntitiesOf.mpr ?_)
    rw [events]
    exact List.mem_append_left _ (List.mem_append_right _ (List.mem_map_of_mem member))

omit begins in
/-- The lonely player is named on the first tick of their match. -/
theorem zone_elimination_law_outside : JudgedOutside outsideMatch .first 2 ∧
    Identity.first ∉ aliveEntities (outsideMatch.state 3).world := by
  obtain ⟨trace, late, requests, traces, events, asks, -, named⟩ :=
    @zone_elimination_law _ _ _ _ _ _ outsideMatch lonelyRoyale_begins 2 (by decide)
  have seen : ((outsideMatch.state 2).trace (outsideMatch.label 2)).toOption.map (fun trace =>
      (eliminatedEntitiesOf trace.postKernel.world, eliminatedEntitiesOf trace.lifecycle.world)) =
        some ([], [.first]) := by decide +kernel
  rw [traces] at seen
  obtain ⟨before, after⟩ := Prod.mk.inj (Option.some.inj seen)
  have listed : .elimination .first ∈ trace.lifecycle.world.events :=
    mem_eliminatedEntitiesOf.mp (after ▸ List.mem_singleton_self _)
  have member : Identity.first ∈ late := by
    rw [events, List.mem_append, List.mem_append] at listed
    obtain (kernel | zoned) | asked := listed
    · have none := mem_eliminatedEntitiesOf.mpr kernel
      rw [before] at none
      cases none
    · obtain ⟨entity, held, same⟩ := List.mem_map.mp zoned
      cases same
      exact held
    · obtain ⟨entity, duration, same⟩ := asks _ asked
      cases same
  exact ⟨(named .first).1.mp member 2 le_rfl (by decide), (named .first).2 member⟩

end Elimination

section Ranking

variable {S : Type} [RoundedScalar S] {mode : RoyaleMode S} {platform : RoyalePlatform S} {map : MapDefinition S}
  {length : Nat}

/-- The ranking of every match of a run: who falls is ranked behind everybody left, ahead of all who fell before,
and the match ends with the last player or with none. -/
theorem royale_ranking_law (run : Run (@GameSimulation.Steps S _) length)
    (begins : mode.Begins platform map (run.state 0)) :
    (∀ position, position ≤ length → Contests (run.state position).world.matchState →
      Ranking (run.state position).tickSequence (run.state position).world
        (openedPlacements (run.state position).world.matchState)) ∧
    ∀ position, position < length → Contests (run.state position).world.matchState → ∃ trace appended,
      (run.state position).trace (run.label position) = .ok trace ∧
      Appended (run.state (position + 1)).tickSequence trace.lifecycle.world
        (aliveCount (run.state (position + 1)).world) appended ∧
      royaleModeStateOf (run.state (position + 1)).world.matchState.modeState =
        ⟨openedPlacements (run.state position).world.matchState ++ appended,
          (run.state position).world.matchState.phase, mode.configuration.eliminationGraceTicks⟩ ∧
      ((run.state position).world.matchState.phase = .running →
        ((run.state (position + 1)).world.matchState.phase = .running ∧
          2 ≤ aliveCount (run.state (position + 1)).world) ∨
        ((run.state (position + 1)).world.matchState.phase = .ended ∧
          ((∃ winner, aliveEntities (run.state (position + 1)).world = [winner] ∧
              (run.state (position + 1)).world.matchState.outcome = .wonByEntity winner) ∨
            (aliveEntities (run.state (position + 1)).world = [] ∧
              (run.state (position + 1)).world.matchState.outcome = .drawn)))) := by
  refine ⟨fun position within => (playing_run run begins position within).ranking, fun position within contests => ?_⟩
  obtain ⟨trace, zone, traces, ticks⟩ := ticks_run run begins position within
  obtain ⟨appended, ranks, written, -⟩ := ticks.placements contests
  refine ⟨trace, appended, traces, ranks, written, fun running => ?_⟩
  exact ticks.closing.decided (ticks.phase.trans running)

/-- The lonely match ends drawn, its only player ranked first. -/
theorem royale_ranking_law_outside :
    (outsideMatch.state 3).world.matchState.phase = .ended ∧
      (outsideMatch.state 3).world.matchState.outcome = .drawn := by
  obtain ⟨-, ticks⟩ := royale_ranking_law outsideMatch lonelyRoyale_begins
  obtain ⟨trace, appended, -, -, -, decided⟩ := ticks 2 (by decide) (.inl (by decide +kernel))
  have nobody : aliveCount (outsideMatch.state (2 + 1)).world = 0 := by decide +kernel
  obtain ⟨-, several⟩ | ⟨ended, ⟨winner, alone, -⟩ | ⟨-, drawn⟩⟩ := decided (by decide +kernel)
  · omega
  · rw [aliveCount, alone] at nobody
    cases nobody
  · exact ⟨ended, drawn⟩

end Ranking

end BlobRoyale.Gameplay
