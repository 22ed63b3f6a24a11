import BlobRoyale.Controllers.TacticalSteps

/-!
# When a bot acts, and how long it keeps a target

The reaction gate, the persistence of a lease and the draws of a stream, over every history of observations.
-/

namespace BlobRoyale.Controllers

open Simulation

variable {S Terrain : Type} [Scalar S]

namespace TacticalController

section Histories

variable (bot : TacticalController S) (queries : TacticalQueries S Terrain) (observation : Observation S Terrain)

/-- The controller once these observations were handed to it. -/
def watch (history : List (Observation S Terrain)) : TacticalController S :=
  history.foldl (fun bot observation => (bot.decide queries observation).1) bot

def targetKey : Option TacticalObjectiveKey := bot.state.lease.map fun lease => lease.candidate.key

/-- A pass of the reaction gate, whatever it comes to. -/
def Passes : Prop := (bot.gateAt queries observation).isSome

/-- A pass of the reaction gate that is decided. -/
def Acts : Prop := bot.Passes queries observation ∧ bot.Completes queries observation

def Selects (key : TacticalObjectiveKey) : Prop :=
  bot.Acts queries observation ∧
    (∃ gate, bot.gateAt queries observation = some gate ∧
      ∀ lease ∈ gate.state.lease, lease.window.expired observation.tickSequence = true) ∧
    (bot.decide queries observation).1.targetKey = some key

/-- The last selection of a history chose this key, on this tick. -/
def LastSelected (history : List (Observation S Terrain)) (key : TacticalObjectiveKey) (tick : Nat) : Prop :=
  ∃ earlier former later, history = earlier ++ former :: later ∧ former.tickSequence.value = tick ∧
    (bot.watch queries earlier).Selects queries former key ∧
    ∀ between passed after, later = between ++ passed :: after →
      ∀ other, ¬ (bot.watch queries (earlier ++ former :: between)).Selects queries passed other

end Histories

variable {bot : TacticalController S} {queries : TacticalQueries S Terrain} {observation : Observation S Terrain}

theorem watch_concat (history : List (Observation S Terrain)) :
    bot.watch queries (history ++ [observation]) = ((bot.watch queries history).decide queries observation).1 :=
  List.foldl_concat _ _ _ _

/-- What one observation does to the state: nothing, what an approach leaves, or what a pass leaves. -/
inductive Decides (bot : TacticalController S) (queries : TacticalQueries S Terrain)
    (observation : Observation S Terrain) (state : TacticalState S) : Prop where
  | unmoved (same : state = bot.state) (idle : ¬ bot.Acts queries observation)
  | completed (decision : TacticalDecision S) (later : ∀ last ∈ bot.state.lastCompletedTick,
        last.value < observation.tickSequence.value)
      (approached : Approached bot queries observation decision.state)
      (closed : bot.gateAt queries observation = none)
      (moved : state = decision.state.completeAt observation.tickSequence)
  | acted (gate : TacticalGate S) (decision : TacticalDecision S) (later : ∀ last ∈ bot.state.lastCompletedTick,
        last.value < observation.tickSequence.value)
      (passed : bot.gateAt queries observation = some gate)
      (approached : Approached bot queries observation gate.state) (acts : bot.Acts queries observation)
      (left : Acted bot observation gate decision.state)
      (moved : state = decision.state.completeAt observation.tickSequence)

theorem Releases.of_seat {key : TacticalObjectiveKey}
    (releases : Releases (bot.seat observation) queries observation key) :
    Releases bot queries observation key := by
  cases releases with
  | unseated absent => exact .unseated absent
  | uncontrollable self seated absent => exact .uncontrollable self seated absent
  | notRunning stopped => exact .notRunning stopped
  | stunned self seated stunned => exact .stunned self seated stunned
  | newRunning changed => exact .newRunning changed
  | changedBody self controllable seated found changed => exact .changedBody self controllable seated found changed
  | waiting body objectives collected disposed => exact .waiting body objectives collected disposed
  | finished body objectives collected disposed => exact .finished body objectives collected disposed
  | vanished body objectives collected gone => exact .vanished body objectives collected gone

theorem Approached.of_seat {state : TacticalState S}
    (approached : Approached (bot.seat observation) queries observation state) :
    Approached bot queries observation state :=
  ⟨approached.completed, approached.reaction, approached.kept,
    fun none lease leased => (approached.released none lease leased).of_seat, approached.random, approached.seeded⟩

theorem acceptsObservation_iff : bot.acceptsObservation observation = true ↔
    ∀ last ∈ bot.state.lastCompletedTick, last.value < observation.tickSequence.value := by
  unfold acceptsObservation
  rw [Bool.not_eq_true', Option.any_eq_false]
  simp only [decide_eq_false_iff_not, not_le]
  exact Iff.rfl

theorem decide_of_admitted (own : observation.controller = bot.controller)
    (accepts : bot.acceptsObservation observation = true) :
    bot.decide queries observation = (bot.seat observation).decideFromObservation queries observation := by
  unfold TacticalController.decide
  rw [if_neg (not_not.mpr own), accepts]
  rfl

theorem decide_of_refused
    (refused : ¬ (observation.controller = bot.controller ∧ bot.acceptsObservation observation = true)) :
    (bot.decide queries observation).1 = bot := by
  unfold TacticalController.decide
  split
  · rfl
  · next own =>
    rw [not_not] at own
    rw [if_pos (by simpa using fun accepts => refused ⟨own, accepts⟩)]

theorem gateAt_of_admitted (own : observation.controller = bot.controller)
    (accepts : bot.acceptsObservation observation = true) {approach : TacticalApproach S}
    (answered : (bot.seat observation).approach queries observation = .ok approach) :
    bot.gateAt queries observation = approach.passed := by
  unfold gateAt
  rw [if_pos ⟨own, accepts⟩, answered]

theorem decide_decides : Decides bot queries observation (bot.decide queries observation).1.state := by
  by_cases admitted : observation.controller = bot.controller ∧ bot.acceptsObservation observation = true
  · obtain ⟨own, accepts⟩ := admitted
    have decided := @decide_of_admitted _ _ _ _ queries _ own accepts
    rw [decided]
    unfold decideFromObservation
    cases next : (bot.seat observation).decideNext queries observation with
    | error refusal =>
      refine .unmoved rfl ?_
      rintro ⟨-, commands, completes⟩
      rw [decided, decideFromObservation, next] at completes
      cases completes
    | ok decision =>
      have later := acceptsObservation_iff.mp accepts
      obtain ⟨approach, answered, rest⟩ := bind_eq_ok.mp next
      obtain ⟨approached, opened⟩ := approach_approaches answered
      have gate := gateAt_of_admitted own accepts answered
      cases approach with
      | complete ended =>
        cases rest
        exact .completed decision later approached.of_seat gate rfl
      | gate passed =>
        have left := act_acts (opened passed rfl).offered rest
        refine .acted passed decision later gate approached.of_seat ⟨?_, decision.commands, ?_⟩
          ⟨left.completed, left.reaction, left.lease, left.random, left.seeded⟩ rfl
        · rw [Passes, gate]
          rfl
        · rw [decided, decideFromObservation, next]
  · refine .unmoved (congrArg state (decide_of_refused admitted)) ?_
    rintro ⟨passes, -⟩
    rw [Passes, gateAt, if_neg admitted] at passes
    cases passes

def SameAuthored (first second : TacticalController S) : Prop :=
  second.controller = first.controller ∧ second.profile = first.profile ∧ second.identity = first.identity

theorem decide_authored : SameAuthored bot (bot.decide queries observation).1 := by
  unfold TacticalController.decide decideFromObservation
  split
  · exact ⟨rfl, rfl, rfl⟩
  · split
    · exact ⟨rfl, rfl, rfl⟩
    · split
      · exact ⟨rfl, rfl, rfl⟩
      · exact ⟨rfl, rfl, rfl⟩

theorem decide_profile : (bot.decide queries observation).1.profile = bot.profile := decide_authored.2.1

theorem watch_authored (history : List (Observation S Terrain)) : SameAuthored bot (bot.watch queries history) := by
  induction history generalizing bot with
  | nil => exact ⟨rfl, rfl, rfl⟩
  | cons observation rest ih =>
    obtain ⟨controller, profile, identity⟩ := @decide_authored _ _ _ bot queries observation
    obtain ⟨laterController, laterProfile, laterIdentity⟩ := @ih (bot.decide queries observation).1
    exact ⟨laterController.trans controller, laterProfile.trans profile, laterIdentity.trans identity⟩

theorem watch_profile (history : List (Observation S Terrain)) : (bot.watch queries history).profile = bot.profile :=
  (watch_authored history).2.1

theorem watch_append (earlier later : List (Observation S Terrain)) :
    bot.watch queries (earlier ++ later) = (bot.watch queries earlier).watch queries later :=
  List.foldl_append

/-- A pass is made on a later tick than every decision, with a reaction that has expired. -/
theorem gateAt_opens {gate : TacticalGate S} (passed : bot.gateAt queries observation = some gate) :
    (∀ last ∈ bot.state.lastCompletedTick, last.value < observation.tickSequence.value) ∧
      Approached bot queries observation gate.state ∧ Open bot queries observation gate := by
  unfold gateAt at passed
  split at passed
  · next admitted =>
    split at passed
    · next approach answered =>
      obtain ⟨approached, opened⟩ := approach_approaches answered
      cases approach with
      | complete => cases passed
      | gate pass =>
        cases passed
        have opens := opened gate rfl
        exact ⟨acceptsObservation_iff.mp admitted.2, approached.of_seat, opens.expired, opens.offered⟩
    · cases passed
  · cases passed

/-- What a decided pass on this tick leaves for good. -/
structure Paced (bot : TacticalController S) (tick : Nat) : Prop where
  completed : ∃ last, bot.state.lastCompletedTick = some last ∧ tick ≤ last.value
  reaction : ∀ window ∈ bot.state.reaction, tick + bot.profile.reactionDelayTicks ≤ window.expiryTick.value

theorem Acts.paced (acts : bot.Acts queries observation) :
    Paced (bot.decide queries observation).1 observation.tickSequence.value := by
  cases @decide_decides _ _ _ bot queries observation with
  | unmoved same idle => exact absurd acts idle
  | completed decision later approached closed moved =>
    have passes := acts.1
    rw [Passes, closed] at passes
    cases passes
  | acted gate decision later passed approached acts left moved =>
    obtain ⟨window, armed, expiry⟩ := left.reaction
    refine ⟨⟨observation.tickSequence, ?_, le_rfl⟩, ?_⟩
    · rw [moved, TacticalState.completeAt_lastCompletedTick]
    · intro other holds
      rw [moved] at holds
      cases armed.symm.trans holds
      rw [decide_profile, expiry]

namespace Paced

variable {tick : Nat}

theorem approached (paced : Paced bot tick) {state : TacticalState S}
    (later : ∀ last ∈ bot.state.lastCompletedTick, last.value < observation.tickSequence.value)
    (approached : Approached bot queries observation state) (window : TickWindow)
    (armed : state.reaction = some window) :
    tick < observation.tickSequence.value ∧ tick + bot.profile.reactionDelayTicks ≤ window.expiryTick.value := by
  obtain ⟨last, isLast, reached⟩ := paced.completed
  have after := later last isLast
  refine ⟨by omega, ?_⟩
  obtain same | expiry := approached.reaction window armed
  · exact paced.reaction window same
  · omega

theorem decide (paced : Paced bot tick) : Paced (bot.decide queries observation).1 tick := by
  cases @decide_decides _ _ _ bot queries observation with
  | unmoved same idle =>
    refine ⟨same ▸ paced.completed, ?_⟩
    rw [same, decide_profile]
    exact paced.reaction
  | completed decision later approached closed moved =>
    obtain ⟨last, isLast, reached⟩ := paced.completed
    have after := later last isLast
    refine ⟨⟨observation.tickSequence, ?_, by omega⟩, ?_⟩
    · rw [moved, TacticalState.completeAt_lastCompletedTick]
    · intro window armed
      rw [moved] at armed
      rw [decide_profile]
      exact (paced.approached later approached window armed).2
  | acted gate decision later passed approached acts left moved =>
    obtain ⟨last, isLast, reached⟩ := paced.completed
    have after := later last isLast
    have paces := acts.paced
    obtain ⟨latest, isLatest, current⟩ := paces.completed
    refine ⟨⟨latest, isLatest, by omega⟩, ?_⟩
    intro window armed
    have expiry := paces.reaction window armed
    omega

theorem watch (paced : Paced bot tick) (history : List (Observation S Terrain)) :
    Paced (bot.watch queries history) tick := by
  induction history generalizing bot with
  | nil => exact paced
  | cons observation rest ih => exact ih paced.decide

theorem spaced (paced : Paced bot tick) (passes : bot.Passes queries observation) :
    tick + bot.profile.reactionDelayTicks ≤ observation.tickSequence.value := by
  obtain ⟨gate, passed⟩ := Option.isSome_iff_exists.mp passes
  obtain ⟨later, approached, ⟨window, armed, expired⟩, -⟩ := gateAt_opens passed
  exact (paced.approached later approached window armed).2.trans (TickWindow.expired_iff.mp expired)

end Paced

/-- Every held key is the last selection's, under that selection's window. -/
def Leased (bot : TacticalController S) (queries : TacticalQueries S Terrain)
    (history : List (Observation S Terrain)) : Prop :=
  ∀ lease ∈ (bot.watch queries history).state.lease, ∃ tick,
    bot.LastSelected queries history lease.candidate.key tick ∧
      lease.window.expiryTick.value = tick + bot.profile.targetPersistenceTicks

theorem split_concat {A : Type} {items earlier later : List A} {item last : A}
    (split : items ++ [last] = earlier ++ item :: later) :
    (later = [] ∧ items = earlier ∧ last = item) ∨
      ∃ rest, later = rest ++ [last] ∧ items = earlier ++ item :: rest := by
  obtain rfl | ⟨rest, final, rfl⟩ := List.eq_nil_or_concat later
  · obtain ⟨front, back⟩ := List.append_inj' split rfl
    cases back
    exact .inl ⟨rfl, front, rfl⟩
  · rw [List.concat_eq_append, ← List.cons_append, ← List.append_assoc] at split
    obtain ⟨front, back⟩ := List.append_inj' split rfl
    cases back
    exact .inr ⟨rest, List.concat_eq_append, front⟩

theorem LastSelected.concat {history : List (Observation S Terrain)} {key : TacticalObjectiveKey} {tick : Nat}
    (last : bot.LastSelected queries history key tick)
    (idle : ∀ other, ¬ (bot.watch queries history).Selects queries observation other) :
    bot.LastSelected queries (history ++ [observation]) key tick := by
  obtain ⟨earlier, former, later, rfl, sameTick, selects, since⟩ := last
  refine ⟨earlier, former, later ++ [observation], by simp, sameTick, selects, ?_⟩
  intro between passed after split other
  obtain ⟨-, same, rfl⟩ | ⟨rest, -, inside⟩ := split_concat split
  · cases same
    exact idle other
  · exact since between passed rest inside other

theorem Leased.concat {history : List (Observation S Terrain)} (leased : bot.Leased queries history) :
    bot.Leased queries (history ++ [observation]) := by
  intro lease holds
  rw [watch_concat] at holds
  cases moves : @decide_decides _ _ _ (bot.watch queries history) queries observation with
  | unmoved same idle =>
    rw [same] at holds
    obtain ⟨tick, last, expiry⟩ := leased lease holds
    exact ⟨tick, last.concat fun other selects => idle selects.1, expiry⟩
  | completed decision later approached closed moved =>
    rw [moved] at holds
    obtain ⟨former, held, window, key⟩ := approached.kept lease holds
    obtain ⟨tick, last, expiry⟩ := leased former held
    refine ⟨tick, key ▸ last.concat ?_, window ▸ expiry⟩
    rintro other ⟨-, ⟨gate, passed, -⟩, -⟩
    cases closed.symm.trans passed
  | acted gate decision later passed approached acts left moved =>
    obtain ⟨kept, keeps, unexpired, same⟩ | ⟨expired, chosen, choice, activation, expiry⟩ := left.lease
    · have isKept : kept = lease := by
        rw [moved] at holds
        exact Option.some_inj.mp (same.symm.trans holds)
      cases isKept
      obtain ⟨former, held, window, key⟩ := approached.kept lease keeps
      obtain ⟨tick, last, expiry⟩ := leased former held
      refine ⟨tick, key ▸ last.concat ?_, window ▸ expiry⟩
      rintro other ⟨-, ⟨again, passes, outlived⟩, -⟩
      cases passed.symm.trans passes
      rw [outlived lease keeps] at unexpired
      cases unexpired
    · have isChosen : chosen = lease := by
        rw [moved] at holds
        exact Option.some_inj.mp (choice.symm.trans holds)
      cases isChosen
      refine ⟨observation.tickSequence.value, ⟨history, observation, [], rfl, rfl, ⟨acts, ⟨gate, passed, expired⟩, ?_⟩,
        ?_⟩, ?_⟩
      · rw [targetKey, holds]
        rfl
      · intro between other after split
        cases between <;> cases split
      · rw [expiry, watch_profile]

theorem leased (fresh : bot.state.lease = none) (history : List (Observation S Terrain)) :
    bot.Leased queries history := by
  induction history using List.reverseRecOn with
  | nil =>
    intro lease holds
    cases fresh.symm.trans holds
  | append_singleton history observation ih => exact ih.concat

theorem passes_spaced {earlier later : List (Observation S Terrain)} {former : Observation S Terrain}
    (acts : (bot.watch queries earlier).Acts queries former)
    (passes : (bot.watch queries (earlier ++ former :: later)).Passes queries observation) :
    former.tickSequence.value + bot.profile.reactionDelayTicks ≤ observation.tickSequence.value := by
  have paced := @Paced.watch _ _ _ _ queries _ acts.paced later
  rw [watch_append] at passes
  have spaced := paced.spaced passes
  rwa [watch_profile, decide_profile, watch_profile] at spaced

theorem targetKey_taken {key : TacticalObjectiveKey} (held : (bot.decide queries observation).1.targetKey = some key) :
    bot.targetKey = some key ∨ bot.Acts queries observation := by
  obtain ⟨lease, leased, rfl⟩ := Option.map_eq_some_iff.mp held
  cases @decide_decides _ _ _ bot queries observation with
  | unmoved same idle =>
    rw [same] at leased
    exact .inl (Option.map_eq_some_iff.mpr ⟨lease, leased, rfl⟩)
  | completed decision later approached closed moved =>
    rw [moved] at leased
    obtain ⟨former, was, -, key⟩ := approached.kept lease leased
    exact .inl (Option.map_eq_some_iff.mpr ⟨former, was, key.symm⟩)
  | acted gate decision later passed approached acts left moved => exact .inr acts

theorem targetKey_dropped {lease : TacticalLease S} (held : bot.state.lease = some lease) :
    (bot.decide queries observation).1.targetKey = some lease.candidate.key ∨
      Releases bot queries observation lease.candidate.key ∨
        (bot.Acts queries observation ∧ lease.window.expired observation.tickSequence = true) := by
  cases @decide_decides _ _ _ bot queries observation with
  | unmoved same idle =>
    refine .inl ?_
    rw [targetKey, same, held]
    rfl
  | completed decision later approached closed moved =>
    cases kept : decision.state.lease with
    | none => exact .inr (.inl (approached.released kept lease held))
    | some now =>
      obtain ⟨former, was, -, key⟩ := approached.kept now kept
      cases held.symm.trans was
      refine .inl ?_
      rw [targetKey, moved, TacticalState.completeAt_lease, kept, ← key]
      rfl
  | acted gate decision later passed approached acts left moved =>
    cases kept : gate.state.lease with
    | none => exact .inr (.inl (approached.released kept lease held))
    | some now =>
      obtain ⟨former, was, window, key⟩ := approached.kept now kept
      cases held.symm.trans was
      obtain ⟨running, keeps, -, same⟩ | ⟨expired, -⟩ := left.lease
      · cases kept.symm.trans keeps
        refine .inl ?_
        rw [targetKey, moved, TacticalState.completeAt_lease, same, ← key]
        rfl
      · exact .inr (.inr ⟨acts, window ▸ expired now kept⟩)

theorem random_drawn : (bot.decide queries observation).1.state.random = bot.state.random ∨
    ((bot.decide queries observation).1.state.random = some (.create (bot.runningSeed observation)) ∧
      bot.state.seededRunningTick ≠ some observation.snapshot.matchState.runningStartedTick) ∨
    (bot.Acts queries observation ∧
      ∃ lease, (bot.decide queries observation).1.state.lease = some lease ∧ arrived lease.candidate = false) := by
  cases @decide_decides _ _ _ bot queries observation with
  | unmoved same idle => exact .inl (congrArg TacticalState.random same)
  | completed decision later approached closed moved =>
    rw [moved]
    exact approached.random.imp_right .inl
  | acted gate decision later passed approached acts left moved =>
    rw [moved]
    have random := approached.random
    obtain same | drawn := left.random
    · rw [← same] at random
      exact random.imp_right .inl
    · exact .inr (.inr ⟨acts, drawn⟩)

theorem state_of_thrown {error : DecisionError} (thrown : (bot.decide queries observation).2 = .error error) :
    (bot.decide queries observation).1.state = bot.state := by
  by_cases admitted : observation.controller = bot.controller ∧ bot.acceptsObservation observation = true
  · rw [decide_of_admitted admitted.1 admitted.2, decideFromObservation] at thrown ⊢
    split at thrown
    · rfl
    · cases thrown
  · exact congrArg state (decide_of_refused admitted)

/-- Bot timing and target persistence, after any history of observations. -/
theorem bot_timing (controller : ControllerId) (profile : TacticalProfile S) (identity : TacticalSeedIdentity)
    (queries : TacticalQueries S Terrain) (history : List (Observation S Terrain))
    (observation : Observation S Terrain) :
    let fresh := create controller profile identity
    let bot := fresh.watch queries history
    let next := (bot.decide queries observation).1
    (∀ earlier former later, history = earlier ++ former :: later →
      (fresh.watch queries earlier).Acts queries former → bot.Passes queries observation →
        former.tickSequence.value + profile.reactionDelayTicks ≤ observation.tickSequence.value) ∧
    (∀ key, next.targetKey = some key → bot.targetKey = some key ∨ bot.Acts queries observation) ∧
    (∀ key, bot.targetKey = some key → next.targetKey = some key ∨ Releases bot queries observation key ∨
      (bot.Acts queries observation ∧ ∃ tick, fresh.LastSelected queries history key tick ∧
        tick + profile.targetPersistenceTicks ≤ observation.tickSequence.value)) ∧
    (next.state.random = bot.state.random ∨
      (next.state.random = some (.create (bot.runningSeed observation)) ∧
        bot.state.seededRunningTick ≠ some observation.snapshot.matchState.runningStartedTick) ∨
      (bot.Acts queries observation ∧ ∃ lease, next.state.lease = some lease ∧ arrived lease.candidate = false)) ∧
    ∀ error, (bot.decide queries observation).2 = .error error → next.state = bot.state := by
  intro fresh bot next
  refine ⟨?_, fun key => targetKey_taken, ?_, random_drawn, fun error => state_of_thrown⟩
  · rintro earlier former later split acts passes
    rw [show bot = fresh.watch queries (earlier ++ former :: later) from congrArg _ split] at passes
    exact passes_spaced acts passes
  · intro key held
    obtain ⟨lease, leased, rfl⟩ := Option.map_eq_some_iff.mp held
    obtain stays | released | ⟨acts, expired⟩ := @targetKey_dropped _ _ _ bot queries observation _ leased
    · exact .inl stays
    · exact .inr (.inl released)
    · have none : fresh.state.lease = none := rfl
      obtain ⟨tick, last, expiry⟩ := TacticalController.leased none history lease leased
      refine .inr (.inr ⟨acts, tick, last, ?_⟩)
      exact expiry ▸ TickWindow.expired_iff.mp expired

section LastTicks

theorem steady_named : isWireKindName "steady" = true := by decide +kernel

/-- A bot that reacts within five ticks and keeps a target for a hundred. -/
def persistentProfile : TacticalProfile ℚ where
  name := ⟨"steady", .inl steady_named⟩
  objectiveSeekProbability := 1
  reactionDelayTicks := 5
  aimError := 0
  targetPersistenceTicks := 100
  objectiveWeights _ := 1
  riskTolerance := 0
  predictionHorizonTicks := 0
  chargeScreenDiagonalFraction := 0
  shieldAnticipationTicks := 0
  roadCautionFraction := 1
  arrivalBrakeFraction := 0
  exposurePreference := 0
  minimumOpening := 0

theorem middle_valid : ValidComponent (0 : ℚ) := by decide

theorem idle_mass : AdmittedMass (PhysicsBody.defaultMass : ℚ) false := by decide

theorem idle_restitution : AdmittedRestitution (PhysicsBody.defaultRestitution : ℚ) := by decide

theorem idle_dragScale : AdmittedDragScale (PhysicsBody.defaultDragScale : ℚ) := by decide

theorem one_entity : 1 ≤ maximumEntityCount := by decide

def middle : Vector2 ℚ := ⟨0, 0, middle_valid, middle_valid⟩

def idleBody : PhysicsBody ℚ where
  position := middle
  velocity := middle
  acceleration := middle
  radius := PhysicsBody.undeclaredRadius
  mass := PhysicsBody.defaultMass
  restitution := PhysicsBody.defaultRestitution
  dragScale := PhysicsBody.defaultDragScale
  collisionLayer := PhysicsBody.defaultCollisionLayer
  collisionMask := PhysicsBody.defaultCollisionMask
  isStatic := false
  boundsBehavior := .fold
  groundAttachment := .floating
  massAdmitted := idle_mass
  restitutionAdmitted := idle_restitution
  dragScaleAdmitted := idle_dragScale

def oneHill : TacticalQueries ℚ Unit where
  arenaDiagonal _ := 1
  firstSupportExit _ _ _ := .ok none
  collect _ _ _ := .ok
    ⟨.ready, [{ key := ⟨.hill, 1⟩, target := middle, arrivalRadius := 1, squaredDistance := 0 }], {}⟩

/-- A published match with the idle body, driven by the first controller. -/
def observedAt (tick : TickSequence) (phase : MatchPhase) (runningStartedTick : TickSequence) :
    Observation ℚ Unit where
  snapshot :=
    { tickSequence := tick
      stores := fun kind => match kind with
        | .controllable => ⟨⟨[(.first, Controllable.linked .first)], List.pairwise_singleton ..⟩, one_entity⟩
        | .physicsBody => ⟨⟨[(.first, idleBody)], List.pairwise_singleton ..⟩, one_entity⟩
        | _ => .empty
      matchState := { MatchState.initial with phase := phase, runningStartedTick := runningStartedTick } }
  terrain := ()
  controller := .first

/-- The running match, this many ticks before the last one there is. -/
def beforeLastTick (ticks : Nat) : Observation ℚ Unit :=
  observedAt ⟨maximumProtocolSafeInteger - ticks, Nat.sub_le _ _⟩ .running .zero

/-- A pass that throws is made again at the next observation, within the reaction delay. -/
theorem thrown_pass_repeats :
    ¬ ∀ (controller : ControllerId) (profile : TacticalProfile ℚ) (identity : TacticalSeedIdentity)
      (queries : TacticalQueries ℚ Unit) (history : List (Observation ℚ Unit)) (observation : Observation ℚ Unit),
      (history ++ [observation]).Pairwise (fun former later => former.tickSequence.value < later.tickSequence.value) →
      ∀ earlier former later, history = earlier ++ former :: later →
        ((create controller profile identity).watch queries earlier).Passes queries former →
        ((create controller profile identity).watch queries history).Passes queries observation →
          former.tickSequence.value + profile.reactionDelayTicks ≤ observation.tickSequence.value := by
  intro spaced
  have first : ((create .first persistentProfile ⟨0, 1, 0⟩).watch oneHill [beforeLastTick 20]).Passes oneHill
      (beforeLastTick 10) := by
    unfold Passes
    decide +kernel
  have again : ((create .first persistentProfile ⟨0, 1, 0⟩).watch oneHill
      [beforeLastTick 20, beforeLastTick 10]).Passes oneHill (beforeLastTick 9) := by
    unfold Passes
    decide +kernel
  have apart := spaced .first persistentProfile ⟨0, 1, 0⟩ oneHill [beforeLastTick 20, beforeLastTick 10]
    (beforeLastTick 9) (by decide +kernel) [beforeLastTick 20] (beforeLastTick 10) [] rfl first again
  exact absurd apart (by decide +kernel)

end LastTicks

end TacticalController

end BlobRoyale.Controllers
