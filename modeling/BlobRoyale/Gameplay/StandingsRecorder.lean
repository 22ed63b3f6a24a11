import BlobRoyale.Gameplay.AbilityIndependence
import BlobRoyale.Library.CompetitionRanking
import BlobRoyale.Library.Transition
import BlobRoyale.Simulation.SystemPipeline
import Mathlib.Data.List.Sort
import Mathlib.Data.Prod.Lex

/-!
# Race standings

The first lifecycle pass of a race: a tick's certified finishes, ordered by their time in the tick and then by
entity, are appended to the standings, and a finish is placed by comparing it with the last standing alone.
-/

namespace BlobRoyale.Simulation

def maximumPlayerCount : Nat := 4096

end BlobRoyale.Simulation

namespace BlobRoyale.Gameplay

open Simulation Transition

variable {S : Type} [Scalar S]

/-- The course, as far as the race systems read it. -/
structure RaceCourse (S : Type) [Scalar S] where
  roadName : String
  checkpoints : List (Vector2 S)

/-- `race_standings_of`. -/
def raceStandingsOf (modeState : ModeMatchState S) : List (RaceStanding S) :=
  match modeState with
  | .race _ _ _ _ _ standings => standings
  | _ => []

/-- `race_mode_state_in`: the race block, installed where there is none. -/
def raceModeStateIn (course : RaceCourse S) (modeState : ModeMatchState S) : Validated (ModeMatchState S) :=
  match modeState with
  | .race road radius checkpoints limit window standings => .ok (.race road radius checkpoints limit window standings)
  | _ => do
      let road ← BoundedName.create .raceRoad course.roadName
      return .race road 0 [] 0 0 []

def withStandings (modeState : ModeMatchState S) (standings : List (RaceStanding S)) : ModeMatchState S :=
  match modeState with
  | .race road radius checkpoints limit window _ => .race road radius checkpoints limit window standings
  | other => other

namespace StandingsRecorderSystem

/-- A checkpoint event that completes the course. -/
structure Finish (S : Type) [Scalar S] where
  entity : EntityId
  tickOffset : MotionTime S

def finishOf (checkpointCount : Nat) : WorldEvent S → Option (Finish S)
  | .raceCheckpoint entity nextCheckpoint tickOffset =>
      if nextCheckpoint ≠ checkpointCount then none else some ⟨entity, tickOffset⟩
  | _ => none

/-- The finishers after one more event: the first finish of an entity that has none recorded. -/
def collect (checkpointCount : Nat) (standings : List (RaceStanding S)) (finishers : List (Finish S))
    (event : WorldEvent S) : List (Finish S) :=
  match finishOf checkpointCount event with
  | none => finishers
  | some finish =>
      let recorded := standings.any fun standing => standing.entity = finish.entity
      let pending := finishers.any fun held => held.entity = finish.entity
      if !recorded && !pending then finishers ++ [finish] else finishers

def comesBefore (first second : Finish S) : Bool :=
  if first.tickOffset = second.tickOffset then first.entity < second.entity
  else first.tickOffset.value < second.tickOffset.value

def finishersOf (checkpointCount : Nat) (standings : List (RaceStanding S)) (events : List (WorldEvent S)) :
    List (Finish S) :=
  (events.foldl (collect checkpointCount standings) []).insertionSort fun first second =>
    comesBefore second first = false

def record (world : GameWorld S) (tick : TickSequence) (standings : List (RaceStanding S)) (finisher : Finish S) :
    Except Failure (List (RaceStanding S)) :=
  match world.controllables.find finisher.entity with
  | none => .error (.gameplay ⟨.raceFinishEventInvalid, "standings_recorder.event",
      "finish fact must retain its controller identity"⟩)
  | some controllable =>
      let placement := match standings.getLast? with
        | some last =>
            if last.finishedTick = tick ∧ last.finishedTickOffset = finisher.tickOffset then last.placement
            else standings.length + 1
        | none => standings.length + 1
      .ok (standings ++ [⟨finisher.entity, controllable.controllerId, placement, tick, finisher.tickOffset⟩])

def recordAll (world : GameWorld S) (tick : TickSequence) (standings : List (RaceStanding S))
    (finishers : List (Finish S)) : Except Failure (List (RaceStanding S)) :=
  if maximumPlayerCount < standings.length + finishers.length then
    .error (.gameplay ⟨.raceStandingLimitExceeded, "standings_recorder.standings",
      "one race's standings would hold " ++ toString (standings.length + finishers.length) ++
        " entries, past the accepted limit " ++ toString maximumPlayerCount⟩)
  else finishers.foldlM (record world tick) standings

def apply (course : RaceCourse S) (world : GameWorld S) (context : TickContext S) : Except Failure (GameWorld S) :=
  if world.matchState.phase ≠ .running then .ok world
  else do
    let block ← throughEngine (raceModeStateIn course world.matchState.modeState)
    let standings := if world.matchState.previousPhase = .countdown then [] else raceStandingsOf block
    let finishers := finishersOf course.checkpoints.length standings world.events
    let recorded ← recordAll world context.tickSequence standings finishers
    return world.withMatch { world.matchState with modeState := withStandings block recorded }

def finishedAt (standing : RaceStanding S) : ℕ ×ₗ S :=
  toLex (standing.finishedTick.value, standing.finishedTickOffset.value)

abbrev Ranked (standings : List (RaceStanding S)) : Prop :=
  CompetitionRanking.Ranked finishedAt RaceStanding.placement standings

section Recording

variable {world : GameWorld S} {tick : TickSequence} {standings next : List (RaceStanding S)}
  {finisher : Finish S} {finishers : List (Finish S)}

theorem finishedAt_eq_iff {standing other : RaceStanding S} : finishedAt standing = finishedAt other ↔
    standing.finishedTick = other.finishedTick ∧ standing.finishedTickOffset = other.finishedTickOffset := by
  constructor
  · intro same
    obtain ⟨tick, offset⟩ := Prod.mk.inj (toLex.injective same)
    constructor
    · cases first : standing.finishedTick
      cases second : other.finishedTick
      simp_all
    · cases first : standing.finishedTickOffset
      cases second : other.finishedTickOffset
      simp_all
  · rintro ⟨tick, offset⟩
    rw [finishedAt, finishedAt, tick, offset]

theorem record_eq_ok (recorded : record world tick standings finisher = .ok next) : ∃ added,
    next = standings ++ [added] ∧ added.entity = finisher.entity ∧ added.finishedTick = tick ∧
      added.finishedTickOffset = finisher.tickOffset ∧
      added.placement = CompetitionRanking.nextPlacement finishedAt RaceStanding.placement standings (finishedAt added) := by
  unfold record at recorded
  split at recorded
  · cases recorded
  · next controllable linked =>
    cases recorded
    refine ⟨_, rfl, rfl, rfl, rfl, ?_⟩
    unfold CompetitionRanking.nextPlacement
    cases standings.getLast? with
    | none => rfl
    | some last =>
      have times := @finishedAt_eq_iff S _ last ⟨finisher.entity, controllable.controllerId, 0, tick, finisher.tickOffset⟩
      exact if_congr times.symm rfl rfl

theorem foldlM_record (ranked : Ranked standings) (older : ∀ held ∈ standings, held.finishedTick.value < tick.value)
    (ordered : finishers.Pairwise fun first second => first.tickOffset.value ≤ second.tickOffset.value)
    (folded : finishers.foldlM (record world tick) standings = .ok next) :
    Ranked next ∧ next.map RaceStanding.entity = standings.map RaceStanding.entity ++ finishers.map Finish.entity ∧
      ∀ held ∈ next, held ∈ standings ∨ held.finishedTick = tick ∧
        ∃ finisher ∈ finishers, held.finishedTickOffset = finisher.tickOffset := by
  induction finishers using List.reverseRecOn generalizing next with
  | nil =>
    cases folded
    exact ⟨ranked, by simp, fun held member => .inl member⟩
  | append_singleton earlier last ih =>
    obtain ⟨middle, reached, stepped⟩ := foldlM_concat.mp folded
    rw [List.pairwise_append] at ordered
    obtain ⟨before, named, sources⟩ := ih ordered.1 reached
    obtain ⟨added, rfl, entity, onTick, offset, placed⟩ := record_eq_ok stepped
    refine ⟨before.concat (fun other member => ?_) placed, ?_, ?_⟩
    · rw [finishedAt, finishedAt, Prod.Lex.toLex_le_toLex, onTick, offset]
      obtain held | ⟨same, finisher, listed, at_⟩ := sources other member
      · exact .inl (older other held)
      · rw [same, at_]
        exact .inr ⟨rfl, ordered.2.2 finisher listed last (List.mem_singleton_self _)⟩
    · rw [List.map_append, named, List.map_append, List.append_assoc, List.map_singleton, List.map_singleton, entity]
    · intro held member
      obtain inMiddle | here := List.mem_append.mp member
      · exact (sources held inMiddle).imp id fun ⟨same, finisher, listed, at_⟩ =>
          ⟨same, finisher, List.mem_append_left _ listed, at_⟩
      · rw [List.mem_singleton.mp here]
        exact .inr ⟨onTick, last, List.mem_append_right _ (List.mem_singleton_self _), offset⟩

end Recording

section Finishers

variable {checkpointCount : Nat} {standings : List (RaceStanding S)} {events : List (WorldEvent S)}

def finishKey (finish : Finish S) : S ×ₗ EntityId := toLex (finish.tickOffset.value, finish.entity)

theorem finishKey_injective : Function.Injective (finishKey (S := S)) := by
  intro first second same
  obtain ⟨offset, entity⟩ := Prod.mk.inj (toLex.injective same)
  obtain ⟨firstEntity, ⟨firstValue, _, _⟩⟩ := first
  obtain ⟨secondEntity, ⟨secondValue, _, _⟩⟩ := second
  cases offset
  cases entity
  rfl

theorem comesBefore_eq_false {first second : Finish S} :
    comesBefore second first = false ↔ finishKey first ≤ finishKey second := by
  rw [finishKey, finishKey, Prod.Lex.toLex_le_toLex, comesBefore]
  split
  · next same => simp [same]
  · next apart =>
    have different : first.tickOffset.value ≠ second.tickOffset.value := by
      intro same
      refine apart ?_
      cases left : first.tickOffset
      cases right : second.tickOffset
      simp_all
    simp only [decide_eq_false_iff_not, not_lt, different, false_and, or_false]
    exact ⟨fun within => lt_of_le_of_ne within different, le_of_lt⟩

theorem finishersOf_sorted (checkpointCount : Nat) (standings : List (RaceStanding S)) (events : List (WorldEvent S)) :
    (finishersOf checkpointCount standings events).Pairwise fun first second => finishKey first ≤ finishKey second := by
  have total : Std.Total fun first second : Finish S => comesBefore second first = false := by
    refine ⟨fun first second => ?_⟩
    rw [comesBefore_eq_false, comesBefore_eq_false]
    exact le_total _ _
  have transitive : IsTrans (Finish S) fun first second => comesBefore second first = false := by
    refine ⟨fun first second third => ?_⟩
    rw [comesBefore_eq_false, comesBefore_eq_false, comesBefore_eq_false]
    exact le_trans
  exact (List.pairwise_insertionSort _ _).imp comesBefore_eq_false.mp

theorem mem_finishersOf {finish : Finish S} : finish ∈ finishersOf checkpointCount standings events ↔
    finish ∈ events.foldl (collect checkpointCount standings) [] := List.mem_insertionSort _

theorem collected (checkpointCount : Nat) (standings : List (RaceStanding S)) (events : List (WorldEvent S)) :
    ((events.foldl (collect checkpointCount standings) []).map Finish.entity).Nodup ∧
      ∀ finish ∈ events.foldl (collect checkpointCount standings) [],
        finish.entity ∉ standings.map RaceStanding.entity := by
  induction events using List.reverseRecOn with
  | nil => exact ⟨.nil, fun _ member => nomatch member⟩
  | append_singleton earlier last ih =>
    obtain ⟨distinct, fresh⟩ := ih
    rw [List.foldl_concat, collect]
    split
    · exact ⟨distinct, fresh⟩
    · next finish _ =>
      dsimp only
      split
      · next unseen =>
        simp only [Bool.and_eq_true, Bool.not_eq_true', List.any_eq_false, decide_eq_true_eq] at unseen
        rw [List.map_append, List.nodup_append]
        refine ⟨⟨distinct, List.nodup_singleton _, ?_⟩, ?_⟩
        · intro entity member other here same
          obtain ⟨held, listed, rfl⟩ := List.mem_map.mp member
          exact unseen.2 held listed (same.trans (List.mem_singleton.mp here))
        · intro held member
          obtain inside | here := List.mem_append.mp member
          · exact fresh held inside
          · rw [List.mem_singleton.mp here]
            intro recorded
            obtain ⟨standing, listed, same⟩ := List.mem_map.mp recorded
            exact unseen.1 standing listed same
      · exact ⟨distinct, fresh⟩

theorem finishersOf_nodup (checkpointCount : Nat) (standings : List (RaceStanding S)) (events : List (WorldEvent S)) :
    ((finishersOf checkpointCount standings events).map Finish.entity).Nodup :=
  ((List.perm_insertionSort _ _).map Finish.entity).symm.nodup (collected checkpointCount standings events).1

/-- Where an entity finishes at most once, the collection is every finish that is not recorded. -/
theorem collect_eq_filter (once : ((events.filterMap (finishOf checkpointCount)).map Finish.entity).Nodup) :
    events.foldl (collect checkpointCount standings) [] = (events.filterMap (finishOf checkpointCount)).filter
      fun finish => !standings.any fun standing => standing.entity = finish.entity := by
  induction events using List.reverseRecOn with
  | nil => rfl
  | append_singleton earlier last ih =>
    rw [List.filterMap_append, List.map_append, List.nodup_append] at once
    rw [List.foldl_concat, ih once.1, collect, List.filterMap_append, List.filter_append]
    cases finished : finishOf checkpointCount last with
    | none => simp [finished]
    | some finish =>
      have single : [last].filterMap (finishOf checkpointCount) = [finish] := by simp [finished]
      rw [single] at once ⊢
      have unseen : ((earlier.filterMap (finishOf checkpointCount)).filter fun finish =>
          !standings.any fun standing => standing.entity = finish.entity).any
            (fun held => held.entity = finish.entity) = false := by
        rw [List.any_eq_false]
        intro held member same
        have listed := List.mem_map_of_mem (f := Finish.entity) (List.mem_of_mem_filter member)
        exact once.2.2 _ listed _ (List.mem_map_of_mem (List.mem_singleton_self _)) (of_decide_eq_true same)
      dsimp only
      rw [unseen, Bool.not_false, Bool.and_true]
      split
      · next fresh => simp only [List.filter, fresh]
      · next held =>
        rw [Bool.not_eq_true] at held
        simp only [List.filter, held, List.append_nil]

theorem finishersOf_perm {others : List (WorldEvent S)}
    (once : ((events.filterMap (finishOf checkpointCount)).map Finish.entity).Nodup) (permuted : events.Perm others) :
    finishersOf checkpointCount standings events = finishersOf checkpointCount standings others := by
  have finishes := permuted.filterMap (finishOf checkpointCount)
  have same : (finishersOf checkpointCount standings events).Perm (finishersOf checkpointCount standings others) := by
    refine (List.perm_insertionSort _ _).trans (.trans ?_ (List.perm_insertionSort _ _).symm)
    rw [collect_eq_filter once, collect_eq_filter ((finishes.map Finish.entity).nodup once)]
    exact finishes.filter _
  refine same.eq_of_pairwise (fun first second _ _ left right => ?_) (finishersOf_sorted _ _ _) (finishersOf_sorted _ _ _)
  exact finishKey_injective (le_antisymm left right)

end Finishers

section Runs

variable {course : RaceCourse S} {world next : GameWorld S} {context : TickContext S}

theorem recordAll_eq_ok {tick : TickSequence} {standings recorded : List (RaceStanding S)} {finishers : List (Finish S)}
    (returned : recordAll world tick standings finishers = .ok recorded) :
    finishers.foldlM (record world tick) standings = .ok recorded := by
  unfold recordAll at returned
  split at returned
  · cases returned
  · exact returned

theorem raceStandingsOf_withStandings (standings : List (RaceStanding S)) {modeState block : ModeMatchState S}
    (opened : raceModeStateIn course modeState = .ok block) :
    raceStandingsOf block = raceStandingsOf modeState ∧ raceStandingsOf (withStandings block standings) = standings := by
  cases modeState with
  | race road radius checkpoints limit window held =>
    cases opened
    exact ⟨rfl, rfl⟩
  | _ =>
    obtain ⟨road, -, installed⟩ := bind_eq_ok.mp opened
    cases installed
    exact ⟨rfl, rfl⟩

/-- The standings a world publishes. -/
abbrev standingsOf (world : GameWorld S) : List (RaceStanding S) := raceStandingsOf world.matchState.modeState

theorem apply_eq_ok (running : world.matchState.phase = .running) (applied : apply course world context = .ok next) :
    (finishersOf course.checkpoints.length
        (if world.matchState.previousPhase = .countdown then [] else standingsOf world) world.events).foldlM
      (record world context.tickSequence)
      (if world.matchState.previousPhase = .countdown then [] else standingsOf world) = .ok (standingsOf next) := by
  unfold apply at applied
  rw [if_neg (not_not_intro running)] at applied
  obtain ⟨block, opened, applied⟩ := bind_eq_ok.mp applied
  obtain ⟨recorded, returned, committed⟩ := bind_eq_ok.mp applied
  obtain ⟨kept, stored⟩ := raceStandingsOf_withStandings recorded (throughEngine_eq_ok.mp opened)
  cases committed
  rw [kept] at returned
  exact (recordAll_eq_ok returned).trans (congrArg Except.ok stored.symm)

/-- The standings of one race: ranked by time, nobody twice, and none of them later than the tick. -/
structure Race (tick : TickSequence) (standings : List (RaceStanding S)) : Prop where
  ranked : Ranked standings
  distinct : (standings.map RaceStanding.entity).Nodup
  within : ∀ standing ∈ standings, standing.finishedTick.value ≤ tick.value

/-- The running ticks of one match, the first of them out of the countdown. Between ticks nothing but this pass
writes the standings. -/
inductive StandingsRun (course : RaceCourse S) : TickSequence → GameWorld S → Prop where
  | first {world next : GameWorld S} {context : TickContext S} : world.matchState.phase = .running →
      world.matchState.previousPhase = .countdown → apply course world context = .ok next →
      StandingsRun course context.tickSequence next
  | tick {last : TickSequence} {before world next : GameWorld S} {context : TickContext S} :
      StandingsRun course last before → standingsOf world = standingsOf before →
      last.value < context.tickSequence.value → world.matchState.phase = .running →
      apply course world context = .ok next → StandingsRun course context.tickSequence next

theorem Race.recorded {tick : TickSequence} {standings recorded : List (RaceStanding S)} {events : List (WorldEvent S)}
    {checkpointCount : Nat} (ranked : Ranked standings) (distinct : (standings.map RaceStanding.entity).Nodup)
    (older : ∀ standing ∈ standings, standing.finishedTick.value < tick.value)
    (folded : (finishersOf checkpointCount standings events).foldlM (record world tick) standings = .ok recorded) :
    Race tick recorded := by
  have ordered : (finishersOf checkpointCount standings events).Pairwise fun first second =>
      first.tickOffset.value ≤ second.tickOffset.value := by
    refine (finishersOf_sorted checkpointCount standings events).imp fun {first second} sorted => ?_
    rw [finishKey, finishKey, Prod.Lex.toLex_le_toLex] at sorted
    obtain before | ⟨same, -⟩ := sorted
    · exact le_of_lt before
    · exact le_of_eq same
  obtain ⟨rankedNext, named, sources⟩ := foldlM_record ranked older ordered folded
  refine ⟨rankedNext, ?_, fun standing member => ?_⟩
  · rw [named, List.nodup_append]
    refine ⟨distinct, finishersOf_nodup _ _ _, ?_⟩
    intro entity recorded other finished same
    obtain ⟨finish, listed, rfl⟩ := List.mem_map.mp finished
    exact (collected checkpointCount standings events).2 finish (mem_finishersOf.mp listed) (same ▸ recorded)
  · obtain held | ⟨onTick, -⟩ := sources standing member
    · exact le_of_lt (older standing held)
    · rw [onTick]

theorem StandingsRun.race {tick : TickSequence} (run : StandingsRun course tick world) :
    Race tick (standingsOf world) := by
  induction run with
  | first running opening applied =>
    have folded := apply_eq_ok running applied
    rw [if_pos opening] at folded
    exact .recorded .nil .nil (fun _ member => nomatch member) folded
  | tick _ kept later running applied ih =>
    have folded := apply_eq_ok running applied
    rw [kept] at folded
    split at folded
    · exact .recorded .nil .nil (fun _ member => nomatch member) folded
    · exact .recorded ih.ranked ih.distinct (fun standing member => lt_of_le_of_lt (ih.within standing member) later) folded

/-- The standings of a race are a competition ranking by finishing time, whatever order a tick's events have. -/
theorem standings_ranked (course : RaceCourse S) :
    (∀ (tick : TickSequence) (world : GameWorld S), StandingsRun course tick world →
      ((standingsOf world).map RaceStanding.entity).Nodup ∧
      (standingsOf world).Pairwise (fun earlier later => finishedAt earlier ≤ finishedAt later) ∧
      (∀ first ∈ standingsOf world, ∀ second ∈ standingsOf world, finishedAt first = finishedAt second →
        first.placement = second.placement) ∧
      ∀ standing ∈ standingsOf world, standing.placement =
        ((standingsOf world).countP fun other => finishedAt other < finishedAt standing) + 1) ∧
    ∀ (world : GameWorld S) (events : List (WorldEvent S)) (context : TickContext S),
      ((world.events.filterMap (finishOf course.checkpoints.length)).map Finish.entity).Nodup →
      world.events.Perm events → apply course { world with events := events } context =
        (apply course world context).map fun next => { next with events := events } := by
  constructor
  · intro tick world run
    have race := run.race
    exact ⟨race.distinct, race.ranked.ordered, fun first left second right => race.ranked.tied left right,
      race.ranked.placed⟩
  · intro world events context once permuted
    have finishers : ∀ standings : List (RaceStanding S), finishersOf course.checkpoints.length standings events =
        finishersOf course.checkpoints.length standings world.events := fun _ => (finishersOf_perm once permuted).symm
    unfold apply
    dsimp only
    split
    · rfl
    · cases throughEngine (raceModeStateIn course world.matchState.modeState) with
      | error failure => rfl
      | ok block =>
        simp only [bind, Except.bind, finishers]
        have same : recordAll { world with events := events } context.tickSequence =
          recordAll world context.tickSequence := rfl
        rw [same]
        cases recordAll world context.tickSequence _ _ with
        | error failure => rfl
        | ok recorded => rfl

end Runs

section OneGate

open AbilitySystem (alone firstTickContext nowhere)

def oneGate : RaceCourse ℚ := ⟨"road", [nowhere]⟩

theorem start_within : (0 : ℚ) ≤ 0 ∧ (0 : ℚ) ≤ 1 := by decide

/-- The first running tick of a match, with one racer through the gate. -/
def finishing : GameWorld ℚ :=
  { ((GameWorld.empty 0).withMatch { MatchState.initial with phase := .running, previousPhase := .countdown }).withControllables
      (alone (Controllable.linked .first)) with
    events := [.elimination .first, .raceCheckpoint .first 1 ⟨0, rfl, start_within⟩] }

def finished : GameWorld ℚ := returnedOr finishing (apply oneGate finishing firstTickContext)

theorem standings_ranked_one_gate : ((standingsOf finished).map RaceStanding.entity).Nodup ∧
    apply oneGate { finishing with events := finishing.events.reverse } firstTickContext =
      (apply oneGate finishing firstTickContext).map fun next => { next with events := finishing.events.reverse } := by
  have run : StandingsRun oneGate firstTickContext.tickSequence finished :=
    .first rfl rfl (eq_ok_returnedOr (by decide +kernel))
  exact ⟨((standings_ranked oneGate).1 _ finished run).1, (standings_ranked oneGate).2 finishing _ firstTickContext
    (List.nodup_singleton _) (List.reverse_perm _).symm⟩

example : (standingsOf finished).map RaceStanding.placement = [1] := by decide +kernel

end OneGate

end StandingsRecorderSystem

end BlobRoyale.Gameplay
