import BlobRoyale.Simulation.IntakeEffects
import BlobRoyale.Simulation.GameSimulation

/-!
# The lifecycle law

A match goes round lobby, countdown, running and ended, one transition a tick. It runs only with
every seat filled, after a start requested in the very lobby its countdown left.
-/

namespace BlobRoyale.Simulation

open Transition

variable {S : Type} [Scalar S]

/-- The part of the match record the lifecycle decides by. -/
structure MatchClock where
  phase : MatchPhase
  phaseStartedTick : TickSequence
  runningStartedTick : TickSequence
  seats : SeatRoster

def MatchState.clock (matchState : MatchState S) : MatchClock :=
  ⟨matchState.phase, matchState.phaseStartedTick, matchState.runningStartedTick, matchState.seats⟩

/-- What the lifecycle system may commit on a tick, from the clock phase 0 left. -/
inductive ClockStep (tick : TickSequence) (taken : MatchClock) : MatchClock → Prop where
  | stays : ClockStep tick taken taken
  | countsDown (lobby : taken.phase = .lobby) (full : taken.seats.isFull = true)
      (requested : taken.seats.startRequested = true) :
      ClockStep tick taken { taken with phase := .countdown, phaseStartedTick := tick }
  | cancels (countdown : taken.phase = .countdown) :
      ClockStep tick taken { taken with
        phase := .lobby, phaseStartedTick := tick, seats := taken.seats.clearStartRequest }
  | starts (countdown : taken.phase = .countdown) (full : taken.seats.isFull = true) :
      ClockStep tick taken { taken with
        phase := .running, phaseStartedTick := tick, runningStartedTick := tick }
  | ends (running : taken.phase = .running) :
      ClockStep tick taken { taken with phase := .ended, phaseStartedTick := tick }
  | restarts (ended : taken.phase = .ended) :
      ClockStep tick taken { taken with
        phase := .lobby, phaseStartedTick := tick, seats := taken.seats.clearStartRequest }

/-- The transitions of the lifecycle. -/
inductive MatchPhase.Transition : MatchPhase → MatchPhase → Prop where
  | countdown : Transition .lobby .countdown
  | cancel : Transition .countdown .lobby
  | start : Transition .countdown .running
  | finish : Transition .running .ended
  | restart : Transition .ended .lobby

theorem MatchObjective.advance_clock {objective : MatchObjective S} {world closed : GameWorld S}
    {context : TickContext S} (canStart : objective.canStart = fun world => .ok (lobbyReadyToStart world))
    (advanced : objective.advance world context = .ok closed) :
    ClockStep context.tickSequence world.matchState.clock closed.matchState.clock := by
  unfold advance at advanced
  rw [canStart] at advanced
  have ready : ∀ {matchState : MatchState S}, matchState.seats = world.matchState.seats →
      lobbyReadyToStart (world.withMatch matchState) = true →
      world.matchState.seats.isFull = true ∧ world.matchState.seats.startRequested = true := by
    intro matchState same ready
    rw [lobbyReadyToStart, GameWorld.withMatch, same] at ready
    exact Bool.and_eq_true_iff.mp ready
  dsimp only at advanced
  split at advanced
  · next lobby =>
    obtain ⟨start, asked, rest⟩ := bind_eq_ok.mp advanced
    cases asked
    split at rest
    · next start =>
      cases rest
      obtain ⟨full, requested⟩ := ready rfl start
      exact .countsDown lobby full requested
    · cases rest
      exact .stays
  · next countdown =>
    obtain ⟨start, asked, rest⟩ := bind_eq_ok.mp advanced
    cases asked
    split at rest
    · next start =>
      split at rest
      · cases rest
        exact .starts countdown (ready rfl start).1
      · cases rest
        exact .stays
    · cases rest
      exact .cancels countdown
  · next running =>
    obtain ⟨outcome, -, rest⟩ := bind_eq_ok.mp advanced
    split at rest
    · cases rest
      exact .ends running
    · cases rest
      exact .stays
  · next ended =>
    split at advanced
    · cases advanced
      exact .restarts ended
    · cases advanced
      exact .stays

/-- The clock phase 0 leaves: only seats and the start request move, the latter by a lobby's start. -/
structure ClockTaken (commands : List (Command S)) (before taken : MatchClock) : Prop where
  phase : taken.phase = before.phase
  phaseStartedTick : taken.phaseStartedTick = before.phaseStartedTick
  runningStartedTick : taken.runningStartedTick = before.runningStartedTick
  requested : taken.seats.startRequested = true →
    before.seats.startRequested = true ∨
      (before.phase = .lobby ∧ ∃ command, .startMatch command ∈ commands)

theorem Applies.clock {seatCeiling : Nat} {world next : GameWorld S} {command : Command S}
    (applies : Applies seatCeiling world command next) :
    ClockTaken [command] world.matchState.clock next.matchState.clock := by
  have reseated : ∀ {seats : SeatRoster}, seats.startRequested = world.matchState.seats.startRequested →
      ClockTaken [command] world.matchState.clock (world.withSeats seats).matchState.clock :=
    fun same => ⟨rfl, rfl, rfl, fun requested => .inl (same ▸ requested)⟩
  have kept : next.matchState = world.matchState →
      ClockTaken [command] world.matchState.clock next.matchState.clock := by
    intro same
    rw [same]
    exact ⟨rfl, rfl, rfl, .inl⟩
  cases applies with
  | despawned | alreadyEmbodied | judged | lobbyClosed => exact kept rfl
  | spawned command created drawn controllables bodiless draws =>
    obtain ⟨rest, -, -, rfl⟩ := GameWorld.createEntity_eq_ok draws
    exact kept rfl
  | lobbyChanged command lobby phase seats changed =>
    cases SeatRoster.applyLobbyChange_changes changed with
    | unchanged => exact reseated rfl
    | resized command _ _ resizes => exact reseated resizes.startRequested
    | vacant _ _ _ index seat _ reseats => exact reseated reseats.startRequested
    | requested command =>
      exact ⟨rfl, rfl, rfl, fun _ => .inr ⟨phase, command, List.mem_singleton_self _⟩⟩
  | joined command seats changed =>
    obtain rfl | ⟨-, index, seat, -, reseats⟩ := SeatRoster.joined_cases changed
    · exact reseated rfl
    · exact reseated reseats.startRequested
  | left command =>
    rw [GameWorld.applyLeave_matchState]
    exact reseated rfl
  | recorded => exact kept (GameWorld.recordCommand_matchState _ _)

theorem applyInputBatch_clock {world next : GameWorld S} {batch : InputBatch S} {seatCeiling : Nat}
    {tick : TickSequence} {decisions : List MovementTuningDecision}
    (applied : applyInputBatch world batch seatCeiling tick = .ok (next, decisions)) :
    ClockTaken batch.commands world.matchState.clock next.matchState.clock := by
  refine @applyInputBatch_preserves _ _ (fun after =>
    ClockTaken batch.commands world.matchState.clock after.matchState.clock) _ _ _ _ _ _ applied
    ⟨rfl, rfl, rfl, .inl⟩ ?_ fun _ _ held => held
  intro command member before after held applies
  have step := applies.clock
  refine ⟨step.phase.trans held.phase, step.phaseStartedTick.trans held.phaseStartedTick,
    step.runningStartedTick.trans held.runningStartedTick, fun requested => ?_⟩
  obtain earlier | ⟨lobby, start, named⟩ := step.requested requested
  · exact held.requested earlier
  · refine .inr ⟨held.phase.symm.trans lobby, start, ?_⟩
    rwa [List.mem_singleton.mp named]

/-- A match as the lifecycle sees it, at the tick that committed it. -/
structure MatchCourse where
  clock : MatchClock
  tick : TickSequence

/-- One tick of a match: phase 0 takes the commands, then at most one transition is committed. -/
def CourseStep (before : MatchCourse) (commands : List (Command S)) (after : MatchCourse) : Prop :=
  after.tick.value = before.tick.value + 1 ∧
    ∃ taken, ClockTaken commands before.clock taken ∧ ClockStep after.tick taken after.clock

namespace CourseStep

variable {before after : MatchCourse} {commands : List (Command S)}

theorem transition (step : CourseStep before commands after) :
    (after.clock.phase = before.clock.phase ∧
        after.clock.phaseStartedTick = before.clock.phaseStartedTick) ∨
      (before.clock.phase.Transition after.clock.phase ∧ after.clock.phaseStartedTick = after.tick) := by
  obtain ⟨-, taken, takes, moves⟩ := step
  rw [← takes.phase, ← takes.phaseStartedTick]
  generalize after.clock = committed at moves
  cases moves with
  | stays => exact .inl ⟨rfl, rfl⟩
  | countsDown lobby => exact .inr ⟨lobby ▸ .countdown, rfl⟩
  | cancels countdown => exact .inr ⟨countdown ▸ .cancel, rfl⟩
  | starts countdown => exact .inr ⟨countdown ▸ .start, rfl⟩
  | ends running => exact .inr ⟨running ▸ .finish, rfl⟩
  | restarts ended => exact .inr ⟨ended ▸ .restart, rfl⟩

theorem arrives (step : CourseStep before commands after) (elsewhere : before.clock.phase ≠ .lobby)
    (lobby : after.clock.phase = .lobby) : after.clock.seats.startRequested = false := by
  obtain ⟨-, taken, takes, moves⟩ := step
  rw [← takes.phase] at elsewhere
  generalize after.clock = committed at moves lobby
  cases moves with
  | stays => exact absurd lobby elsewhere
  | countsDown | starts | ends => cases lobby
  | cancels | restarts => rfl

/-- A request standing in the lobby, or leaving it, was there before or came with the batch. -/
theorem requested (step : CourseStep before commands after) (lobby : before.clock.phase = .lobby)
    (standing : after.clock.seats.startRequested = true ∨ after.clock.phase = .countdown) :
    before.clock.seats.startRequested = true ∨ ∃ command, .startMatch command ∈ commands := by
  obtain ⟨-, taken, takes, moves⟩ := step
  have phase := takes.phase.trans lobby
  have requested : taken.seats.startRequested = true := by
    generalize after.clock = committed at moves standing
    cases moves with
    | stays => exact standing.resolve_right fun countdown => by cases phase.symm.trans countdown
    | countsDown _ _ requested => exact requested
    | cancels countdown | starts countdown => cases phase.symm.trans countdown
    | ends running => cases phase.symm.trans running
    | restarts ended => cases phase.symm.trans ended
  obtain earlier | ⟨-, sent⟩ := takes.requested requested
  · exact .inl earlier
  · exact .inr sent

theorem full (step : CourseStep before commands after) (countdown : before.clock.phase = .countdown)
    (running : after.clock.phase = .running) : after.clock.seats.isFull = true := by
  obtain ⟨-, taken, takes, moves⟩ := step
  have phase := takes.phase.trans countdown
  generalize after.clock = committed at moves running
  cases moves with
  | stays => cases phase.symm.trans running
  | countsDown | cancels | ends | restarts => cases running
  | starts _ full => exact full

theorem countdown_cases (step : CourseStep before commands after)
    (countdown : after.clock.phase = .countdown) :
    before.clock.phase = .countdown ∨ before.clock.phase = .lobby := by
  obtain ⟨same, -⟩ | ⟨transition, -⟩ := step.transition
  · exact .inl (same.symm.trans countdown)
  · rw [countdown] at transition
    generalize before.clock.phase = earlier at transition
    cases transition with
    | countdown => exact .inr rfl

end CourseStep

namespace MatchCourse

/-- Neither start tick lies beyond the committed tick. -/
structure Started (course : MatchCourse) : Prop where
  phase : course.clock.phaseStartedTick.value ≤ course.tick.value
  running : course.clock.runningStartedTick.value ≤ course.tick.value

theorem Started.step {before after : MatchCourse} {commands : List (Command S)}
    (started : before.Started) (step : CourseStep before commands after) : after.Started := by
  obtain ⟨clock, taken, takes, moves⟩ := step
  have phase : taken.phaseStartedTick.value ≤ after.tick.value := by
    rw [takes.phaseStartedTick]
    have bound := started.phase
    omega
  have running : taken.runningStartedTick.value ≤ after.tick.value := by
    rw [takes.runningStartedTick]
    have bound := started.running
    omega
  suffices bounds : after.clock.phaseStartedTick.value ≤ after.tick.value ∧
      after.clock.runningStartedTick.value ≤ after.tick.value from ⟨bounds.1, bounds.2⟩
  generalize after.clock = committed at moves
  cases moves with
  | stays => exact ⟨phase, running⟩
  | starts => exact ⟨Nat.le_refl _, Nat.le_refl _⟩
  | countsDown | cancels | ends | restarts => exact ⟨Nat.le_refl _, running⟩

end MatchCourse

section Courses

variable {length : Nat} (run : Run (@CourseStep S _) length)
  (lobby : (run.state 0).clock.phase = .lobby)
  (unrequested : (run.state 0).clock.seats.startRequested = false)

/-- A start was sent in the lobby stay that is still open at `last`. -/
def RequestedInStay (run : Run (@CourseStep S _) length) (last : Nat) : Prop :=
  ∃ first, first ≤ last ∧ (∀ position, first ≤ position → position ≤ last →
    (run.state position).clock.phase = .lobby) ∧ ∃ command, .startMatch command ∈ run.label first

include unrequested

/-- A request that outlives a tick of the lobby, or ends the lobby, was sent in this stay. -/
theorem requested_in_stay (position : Nat) (within : position < length)
    (inLobby : (run.state position).clock.phase = .lobby)
    (standing : (run.state (position + 1)).clock.seats.startRequested = true ∨
      (run.state (position + 1)).clock.phase = .countdown) : RequestedInStay run position := by
  induction position with
  | zero =>
    obtain earlier | sent := (run.steps 0 within).requested inLobby standing
    · rw [unrequested] at earlier
      cases earlier
    · refine ⟨0, Nat.le_refl 0, fun position _ upper => ?_, sent⟩
      rwa [Nat.le_zero.mp upper]
  | succ position ih =>
    have before : position < length := Nat.lt_of_succ_lt within
    obtain earlier | sent := (run.steps (position + 1) within).requested inLobby standing
    · have stay : (run.state position).clock.phase = .lobby := by
        by_contra elsewhere
        rw [(run.steps position before).arrives elsewhere inLobby] at earlier
        cases earlier
      obtain ⟨first, ordered, lobby, sent⟩ := ih before stay (.inl earlier)
      refine ⟨first, Nat.le_succ_of_le ordered, fun other lower upper => ?_, sent⟩
      obtain same | less := Nat.eq_or_lt_of_le upper
      · rwa [same]
      · exact lobby other lower (Nat.le_of_lt_succ less)
    · refine ⟨position + 1, Nat.le_refl _, fun other lower upper => ?_, sent⟩
      rwa [Nat.le_antisymm upper lower]

include lobby

theorem countdown_left_requested_stay (position : Nat) (within : position ≤ length)
    (counting : (run.state position).clock.phase = .countdown) :
    ∃ last, last < position ∧ RequestedInStay run last ∧
      ∀ later, last < later → later ≤ position → (run.state later).clock.phase = .countdown := by
  induction position with
  | zero => cases lobby.symm.trans counting
  | succ position ih =>
    obtain countdown | inLobby := (run.steps position within).countdown_cases counting
    · obtain ⟨last, before, requested, stays⟩ := ih (Nat.le_of_lt within) countdown
      refine ⟨last, Nat.lt_succ_of_lt before, requested, fun later lower upper => ?_⟩
      obtain same | less := Nat.eq_or_lt_of_le upper
      · rwa [same]
      · exact stays later lower (Nat.le_of_lt_succ less)
    · refine ⟨position, Nat.lt_succ_self position,
        requested_in_stay run unrequested position within inLobby (.inr counting), ?_⟩
      intro later lower upper
      rwa [Nat.le_antisymm upper lower]

end Courses

namespace GameSimulation

variable {sim next : GameSimulation S} {batch : InputBatch S} {declared : SystemPipeline S}
  {objective : MatchObjective S}

def course (sim : GameSimulation S) : MatchCourse := ⟨sim.world.matchState.clock, sim.tickSequence⟩

theorem Steps.course_step (step : sim.Steps batch next)
    (appended : declared.withAppended ⟨.lifecycle, objective.system⟩ = .ok sim.systemPipeline)
    (keeps : declared.Keeps MatchState.clock)
    (canStart : objective.canStart = fun world => .ok (lobbyReadyToStart world)) :
    next.systemPipeline = sim.systemPipeline ∧ CourseStep sim.course batch.commands next.course := by
  obtain ⟨decisions, stepped⟩ := step
  obtain ⟨trace, traces, rfl, -⟩ := step_eq_ok.mp stepped
  obtain ⟨tick, traced⟩ := trace_eq_ok traces
  obtain ⟨pipeline, -, clock, published⟩ := traced.frame
  obtain ⟨entry, context, closed, observed, now, advanced, committed⟩ :=
    traced.advances appended keeps fun _ _ => rfl
  have taken := applyInputBatch_clock traced.intake
  have moved := objective.advance_clock canStart advanced
  rw [observed, now, published, ← clock, ← committed] at moved
  have advances : trace.committed.tickSequence.value = sim.tickSequence.value + 1 := by
    rw [clock, TickSequence.next_value traced.next]
  exact ⟨pipeline, advances, _, taken, moved⟩

section Runs

variable {length : Nat}

/-- A start reached phase 0 in the lobby stay that is still open at `last`. -/
def StartSent (run : Run (@Steps S _) length) (last : Nat) : Prop :=
  ∃ first, first ≤ last ∧ (∀ position, first ≤ position → position ≤ last →
    (run.state position).world.matchState.phase = .lobby) ∧
    ∃ command, .startMatch command ∈ (run.label first).commands

/-- The lifecycle law. The declared systems leave phases, start ticks and seats to the engine. -/
theorem match_lifecycle_law (run : Run (@Steps S _) length)
    (appended : declared.withAppended ⟨.lifecycle, objective.system⟩ =
      .ok (run.state 0).systemPipeline)
    (keeps : declared.Keeps MatchState.clock)
    (canStart : objective.canStart = fun world => .ok (lobbyReadyToStart world))
    (lobby : (run.state 0).world.matchState.phase = .lobby)
    (unrequested : (run.state 0).world.matchState.seats.startRequested = false)
    (started : (run.state 0).course.Started) :
    (∀ position, position < length →
      let before := (run.state position).world.matchState
      let after := (run.state (position + 1)).world.matchState
      let now := (run.state (position + 1)).tickSequence
      ((after.phase = before.phase ∧ after.phaseStartedTick = before.phaseStartedTick) ∨
        (before.phase.Transition after.phase ∧ after.phaseStartedTick = now)) ∧
      (before.phase ≠ .lobby → after.phase = .lobby → after.seats.startRequested = false) ∧
      (before.phase = .countdown → after.phase = .running → after.seats.isFull = true ∧
        ∃ last, last < position ∧ StartSent run last ∧ ∀ later, last < later → later ≤ position →
          (run.state later).world.matchState.phase = .countdown) ∧
      ticksSince now before.phaseStartedTick + before.phaseStartedTick.value = now.value ∧
      ticksSince now before.runningStartedTick + before.runningStartedTick.value = now.value) ∧
    ∀ position, position ≤ length → (run.state position).course.Started := by
  have pipeline := run.invariant (P := fun sim =>
    declared.withAppended ⟨.lifecycle, objective.system⟩ = .ok sim.systemPipeline) appended
    fun held step => (step.course_step held keeps canStart).1 ▸ held
  let courses : Run (@CourseStep S _) length :=
    run.simulate course InputBatch.commands fun position within =>
      ((run.steps position within).course_step (pipeline position (Nat.le_of_lt within)) keeps canStart).2
  have bounded : ∀ position, position ≤ length → (run.state position).course.Started :=
    courses.invariant started fun held step => held.step step
  refine ⟨fun position within => ?_, bounded⟩
  have step := courses.steps position within
  have clock : (run.state (position + 1)).tickSequence.value =
    (run.state position).tickSequence.value + 1 := step.1
  have exact_since : ∀ {tick : TickSequence}, tick.value ≤ (run.state position).tickSequence.value →
      ticksSince (run.state (position + 1)).tickSequence tick + tick.value =
        (run.state (position + 1)).tickSequence.value := by
    intro tick earlier
    unfold ticksSince
    split <;> omega
  have bound := bounded position (Nat.le_of_lt within)
  refine ⟨step.transition, step.arrives, fun countdown running => ⟨step.full countdown running, ?_⟩,
    exact_since bound.phase, exact_since bound.running⟩
  exact countdown_left_requested_stay courses lobby unrequested position (Nat.le_of_lt within) countdown

end Runs

section ShortMatch

/-- A mode without a countdown that never decides a match. -/
def immediate : MatchObjective ℚ where
  canStart := fun world => .ok (lobbyReadyToStart world)
  outcome := fun _ _ => .ok .undecided
  durations := ⟨0, 0⟩

/-- A lobby of one taken seat under the given declared systems and match record. -/
def oneSeatLobby (declared : List (StagedSystem ℚ)) (matchState : MatchState ℚ) : GameSimulation ℚ :=
  { oneCellSimulation (declared ++ [⟨.lifecycle, immediate.system⟩]) with
    world := (GameWorld.empty 0).withMatch { matchState with seats := oneTakenSeat } }

/-- The simulation after a tick, or before one that is refused. -/
def after (sim : GameSimulation S) (batch : InputBatch S) : GameSimulation S :=
  match sim.step batch with
  | .ok (next, _) => next
  | .error _ => sim

theorem steps_after {sim : GameSimulation S} {batch : InputBatch S}
    (succeeds : (sim.step batch).isOk = true) : sim.Steps batch (sim.after batch) := by
  unfold after
  cases stepped : sim.step batch with
  | ok result => exact ⟨result.2, stepped⟩
  | error refusal =>
    rw [stepped] at succeeds
    cases succeeds

def startBatch : InputBatch ℚ where
  commands := [.startMatch ⟨.first⟩]
  entityIdReservation := .none
  ascending := List.pairwise_singleton _ _
  wellFormed := by
    intro command member
    obtain rfl := List.mem_singleton.mp member
    trivial

def shortMatch : Run (@Steps ℚ _) 2 where
  state := trajectory after (oneSeatLobby [] .initial) fun
    | 0 => startBatch
    | _ + 1 => .empty
  label := fun
    | 0 => startBatch
    | _ + 1 => .empty
  steps := fun
    | 0, _ => steps_after (by decide +kernel)
    | 1, _ => steps_after (by decide +kernel)

theorem match_lifecycle_law_short_match :
    (shortMatch.state 2).world.matchState.seats.isFull = true ∧
      ∃ last, last < 1 ∧ StartSent shortMatch last := by
  have quiet : (@SystemPipeline.empty ℚ).Keeps MatchState.clock := by
    intro staged member
    cases member
  have law := @match_lifecycle_law _ _ _ immediate _ shortMatch rfl quiet rfl rfl rfl
    ⟨Nat.le_refl 0, Nat.le_refl 0⟩
  obtain ⟨-, -, runs, -⟩ := law.1 1 (by decide)
  obtain ⟨full, last, before, sent, -⟩ := runs (by decide +kernel) (by decide +kernel)
  exact ⟨full, last, before, sent⟩

/-- A declared system that writes a start tick and leaves the phase and the seats alone. -/
def meddler : SimulationSystem ℚ :=
  ⟨"meddler", fun world _ => .ok (world.withMatch
    { world.matchState with runningStartedTick := ⟨5, by decide⟩ })⟩

def meddled : GameSimulation ℚ := oneSeatLobby [⟨.postKernel, meddler⟩] .initial

/-- A lobby that takes its own start ticks from a later match. -/
def dated : GameSimulation ℚ :=
  oneSeatLobby [] { @MatchState.initial ℚ _ with
    phaseStartedTick := ⟨5, by decide⟩, runningStartedTick := ⟨5, by decide⟩ }

/-- Keeping the phase and the seats is not enough: a start tick may be written, or start late. -/
theorem match_lifecycle_law_beyond_tick :
    ((SystemPipeline.mk [⟨.postKernel, meddler⟩]).Keeps
        (fun matchState => (matchState.phase, matchState.seats)) ∧
      (SystemPipeline.mk [⟨.postKernel, meddler⟩]).withAppended ⟨.lifecycle, immediate.system⟩ =
        .ok meddled.systemPipeline ∧
      meddled.world.matchState.phase = .lobby ∧
      meddled.world.matchState.seats.startRequested = false ∧
      meddled.Steps .empty (meddled.after .empty) ∧
      (meddled.after .empty).tickSequence.value = 1 ∧
      (meddled.after .empty).world.matchState.runningStartedTick.value = 5) ∧
    SystemPipeline.empty.withAppended ⟨.lifecycle, immediate.system⟩ = .ok dated.systemPipeline ∧
      dated.world.matchState.phase = .lobby ∧
      dated.world.matchState.seats.startRequested = false ∧
      dated.Steps .empty (dated.after .empty) ∧
      (dated.after .empty).tickSequence.value = 1 ∧
      (dated.after .empty).world.matchState.phaseStartedTick.value = 5 ∧
      (dated.after .empty).world.matchState.runningStartedTick.value = 5 := by
  refine ⟨⟨?_, rfl, rfl, rfl, steps_after ?_, ?_, ?_⟩, rfl, rfl, rfl, steps_after ?_, ?_, ?_, ?_⟩
  · intro staged member world context next applied
    obtain rfl := List.mem_singleton.mp member
    cases applied
    rfl
  all_goals decide +kernel

end ShortMatch

end GameSimulation

end BlobRoyale.Simulation
