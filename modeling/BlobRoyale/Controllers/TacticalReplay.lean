import BlobRoyale.Controllers.TacticalTiming
import BlobRoyale.Library.Agreement

/-!
# A bot's match play

Two controllers of one seat are twins when they differ in what they narrate and in what they drew for matches other
than the one to come. Twins decide alike.
-/

namespace BlobRoyale.Controllers

open Simulation Agreement

variable {S Terrain : Type} [Scalar S]

/-- Both computations throw, or their answers are related. -/
abbrev Alike {A B : Type} (related : A → B → Prop) : Decided A → Decided B → Prop :=
  Agrees (fun _ => False) (fun _ => False) related

namespace TacticalState

/-- Two states that differ in their narration alone. -/
def Same (first second : TacticalState S) : Prop :=
  ∃ reason hold work, second = { first with reason := reason, hold := hold, work := work }

/-- Two states that differ in their narration, and in what they drew for other matches than this one. -/
structure Twin (running : TickSequence) (first second : TacticalState S) : Prop where
  lastCompletedTick : second.lastCompletedTick = first.lastCompletedTick
  body : second.body = first.body
  observedStun : second.observedStun = first.observedStun
  reaction : second.reaction = first.reaction
  lease : second.lease = first.lease
  heldDirection : second.heldDirection = first.heldDirection
  drawn : (second.seededRunningTick = first.seededRunningTick ∧ second.random = first.random) ∨
    (first.seededRunningTick ≠ some running ∧ second.seededRunningTick ≠ some running)

theorem Same.twin {running : TickSequence} {first second : TacticalState S} (same : Same first second) :
    Twin running first second := by
  obtain ⟨reason, hold, work, rfl⟩ := same
  exact ⟨rfl, rfl, rfl, rfl, rfl, rfl, .inl ⟨rfl, rfl⟩⟩

theorem Twin.same {running : TickSequence} {first second : TacticalState S} (twin : Twin running first second)
    (seeded : second.seededRunningTick = first.seededRunningTick) (random : second.random = first.random) :
    Same first second := by
  obtain ⟨lastCompletedTick, body, observedStun, reaction, lease, heldDirection, -⟩ := twin
  refine ⟨second.reason, second.hold, second.work, ?_⟩
  rw [← lastCompletedTick, ← body, ← observedStun, ← reaction, ← lease, ← heldDirection, ← seeded, ← random]

end TacticalState

open TacticalState

/-- Approaches of twins: decisions alike, or the same gate. -/
inductive TacticalApproach.Alike (running : TickSequence) : TacticalApproach S → TacticalApproach S → Prop where
  | complete (decision : TacticalDecision S) (state : TacticalState S) (twin : Twin running decision.state state) :
      Alike running (.complete decision) (.complete { decision with state := state })
  | gate (pass : TacticalGate S) (state : TacticalState S) (same : Same pass.state state) :
      Alike running (.gate pass) (.gate { pass with state := state })

namespace TacticalController

variable {bot : TacticalController S} {queries : TacticalQueries S Terrain} {observation : Observation S Terrain}
  {first second : TacticalState S} {running : TickSequence}

theorem rearm_alike (same : Same first second) :
    Alike Same (decided (bot.rearm observation first)) (decided (bot.rearm observation second)) := by
  obtain ⟨reason, hold, work, rfl⟩ := same
  unfold rearm
  cases TickWindow.create observation.tickSequence bot.profile.reactionDelayTicks with
  | error refusal => exact .refused _ _
  | ok window => exact .answers ⟨reason, hold, work, rfl⟩

theorem rearmIf_alike (due : Bool) (same : Same first second) :
    Alike Same (bot.rearmIf observation due first) (bot.rearmIf observation due second) := by
  cases due with
  | true => exact rearm_alike same
  | false => exact .answers same

theorem refreshLease_alike (candidates : List (TacticalObjectiveCandidate S)) (cancelled : Bool)
    (same : Same first second) :
    Alike (fun former later => Same former.1 later.1 ∧ later.2 = former.2)
      (decided (bot.refreshLease observation candidates first cancelled))
      (decided (bot.refreshLease observation candidates second cancelled)) := by
  obtain ⟨reason, hold, work, rfl⟩ := same
  unfold refreshLease
  dsimp only
  cases first.lease with
  | none => exact .answers ⟨⟨_, _, _, rfl⟩, rfl⟩
  | some lease =>
    dsimp only
    cases candidates.find? fun candidate => candidate.key = lease.candidate.key with
    | some found => exact .answers ⟨⟨_, _, _, rfl⟩, rfl⟩
    | none =>
      dsimp only [rearm]
      cases TickWindow.create observation.tickSequence bot.profile.reactionDelayTicks with
      | error refusal => exact .refused _ _
      | ok window => exact .answers ⟨⟨_, _, _, rfl⟩, rfl⟩

theorem approachRunning_alike (self : EntityId) (body : PhysicsBody S) (zero : Vector2 S) (cancelled : Bool)
    (same : Same first second) :
    Alike (TacticalApproach.Alike running) (bot.approachRunning queries observation self body zero first cancelled)
      (bot.approachRunning queries observation self body zero second cancelled) := by
  unfold approachRunning
  obtain ⟨reason, hold, work, rfl⟩ := same
  refine (rearmIf_alike _ ⟨reason, hold, work, rfl⟩).bind_of_direct ?_
  rintro armed _ - - ⟨reason, hold, work, rfl⟩
  refine .through _ fun objectives _ => ?_
  dsimp only
  cases objectives.disposition with
  | waiting =>
    refine (rearmIf_alike _ ⟨_, _, _, rfl⟩).bind_of_direct ?_
    rintro rearmed _ - - ⟨reason, hold, work, rfl⟩
    exact .answers (.complete _ _ ⟨rfl, rfl, rfl, rfl, rfl, rfl, .inl ⟨rfl, rfl⟩⟩)
  | finished => exact .answers (.complete _ _ ⟨rfl, rfl, rfl, rfl, rfl, rfl, .inl ⟨rfl, rfl⟩⟩)
  | ready =>
    refine (refreshLease_alike _ _ ⟨_, _, _, rfl⟩).bind_of_direct ?_
    rintro ⟨refreshed, cut⟩ ⟨other, _⟩ - - ⟨same, isCut⟩
    cases isCut
    obtain ⟨reason, hold, work, isOther⟩ := same
    cases isOther
    dsimp only
    split
    · exact .answers (.complete _ _ ⟨rfl, rfl, rfl, rfl, rfl, rfl, .inl ⟨rfl, rfl⟩⟩)
    · split
      · exact .answers (.complete _ _ ⟨rfl, rfl, rfl, rfl, rfl, rfl, .inl ⟨rfl, rfl⟩⟩)
      · exact .answers (.gate _ _ ⟨reason, hold, work, rfl⟩)

theorem chooseLease_alike (candidates : List (TacticalObjectiveCandidate S)) (same : Same first second) :
    Alike (fun former later => later.map Prod.fst = former.map Prod.fst)
      (decided (bot.chooseLease observation candidates first))
      (decided (bot.chooseLease observation candidates second)) := by
  obtain ⟨reason, hold, work, rfl⟩ := same
  unfold chooseLease
  dsimp only
  split
  · exact .answers rfl
  · exact .same fun _ _ => rfl

theorem steer_alike (body : PhysicsBody S) (selected : TacticalObjectiveCandidate S) (zero : Vector2 S)
    (same : Same first second) :
    Alike (fun former later => later.1 = former.1 ∧ Same former.2 later.2)
      (decided (bot.steer observation body selected zero first))
      (decided (bot.steer observation body selected zero second)) := by
  obtain ⟨reason, hold, work, rfl⟩ := same
  unfold steer
  dsimp only
  split
  · cases bot.arrivalBrake observation body selected first.lastCompletedTick with
    | error refusal => exact .refused _ _
    | ok direction => exact .answers ⟨rfl, _, _, _, rfl⟩
  · split
    · cases bot.aimAt body selected
        (((first.random.getD (.create 0)).nextUnitInterval (S := S)).2.nextUnitInterval).1 with
      | error refusal => exact .refused _ _
      | ok direction => exact .answers ⟨rfl, _, _, _, rfl⟩
    · exact .answers ⟨rfl, _, _, _, rfl⟩

theorem requestAbility_alike (controller : ControllerId) (self : EntityId) (body : PhysicsBody S)
    (policy : TacticalObjectivePolicy S) (selected : TacticalObjectiveCandidate S)
    (reason other : TacticalDecisionReason) :
    Alike (fun former later => later.1 = former.1)
      (decided (requestAbility observation queries controller self body policy selected reason))
      (decided (requestAbility observation queries controller self body policy selected other)) := by
  unfold requestAbility
  dsimp only
  split
  · exact .same fun _ _ => rfl
  · split
    · exact .answers rfl
    · split
      · exact .answers rfl
      · exact .same fun _ _ => rfl

theorem act_alike (pass : TacticalGate S) (same : Same pass.state second) :
    Alike (fun former later => later.commands = former.commands ∧
        later.lastSpawnRequestTick = former.lastSpawnRequestTick ∧ Same former.state later.state)
      (bot.act queries observation pass) (bot.act queries observation { pass with state := second }) := by
  unfold act
  refine .through _ fun zero _ => ?_
  refine (rearm_alike same).bind_of_direct ?_
  rintro rearmed later - - same
  refine (chooseLease_alike pass.candidates same).bind_of_direct ?_
  rintro chosen other - - sameLease
  obtain ⟨reason, hold, work, rfl⟩ := same
  cases chosen with
  | none =>
    cases Option.map_eq_none_iff.mp sameLease
    exact .answers ⟨rfl, rfl, _, _, _, rfl⟩
  | some choice =>
    obtain ⟨⟨lease, otherHold⟩, rfl, sameFirst⟩ := Option.map_eq_some_iff.mp sameLease
    cases sameFirst
    refine (steer_alike pass.body choice.1.candidate zero ⟨_, _, _, rfl⟩).bind_of_direct ?_
    rintro ⟨direction, steered⟩ ⟨_, otherSteered⟩ - - ⟨sameDirection, sameSteered⟩
    cases sameDirection
    obtain ⟨reason, hold, work, isOther⟩ := sameSteered
    cases isOther
    refine (requestAbility_alike _ _ _ _ _ _ _).bind_of_direct ?_
    rintro ⟨ability, reason⟩ ⟨_, otherReason⟩ - - sameAbility
    cases sameAbility
    exact .answers ⟨rfl, rfl, _, _, _, rfl⟩

theorem renew_alike (twin : Twin running first second) :
    Same (bot.renew running first) (bot.renew running second) := by
  have drawn := twin.drawn
  unfold renew
  split
  · next changed =>
    have changedToo : second.seededRunningTick ≠ some running := by
      obtain ⟨seeded, -⟩ | ⟨-, unseeded⟩ := drawn
      · rwa [seeded]
      · exact unseeded
    rw [if_pos changedToo]
    refine ⟨second.reason, second.hold, second.work, ?_⟩
    rw [clearWork, clearWork, twin.lastCompletedTick, twin.observedStun]
  · next stay =>
    rw [not_not] at stay
    obtain ⟨seeded, random⟩ | ⟨unseeded, -⟩ := drawn
    · rw [if_neg (not_not.mpr (seeded.trans stay))]
      exact twin.same seeded random
    · exact absurd stay unseeded

theorem embody_alike (observedBody : TacticalBodyIdentity) (same : Same first second) :
    Same (first.embody observedBody) (second.embody observedBody) ∧
      second.bodyChanged observedBody = first.bodyChanged observedBody := by
  have changed : second.bodyChanged observedBody = first.bodyChanged observedBody := by
    obtain ⟨reason, hold, work, rfl⟩ := same
    rfl
  refine ⟨?_, changed⟩
  unfold embody
  rw [changed]
  obtain ⟨reason, hold, work, rfl⟩ := same
  split
  · exact ⟨_, _, _, rfl⟩
  · exact ⟨_, _, _, rfl⟩

theorem enter_alike (observedBody : TacticalBodyIdentity) (twin : Twin running first second) :
    Same (bot.enter running observedBody first).1 (bot.enter running observedBody second).1 ∧
      (bot.enter running observedBody second).2 = (bot.enter running observedBody first).2 := by
  obtain ⟨same, changed⟩ := embody_alike observedBody (@renew_alike _ _ bot _ _ _ twin)
  refine ⟨same, ?_⟩
  unfold enter
  dsimp only
  rw [changed, twin.heldDirection]
  obtain ⟨seeded, -⟩ | ⟨unseeded, unseededToo⟩ := twin.drawn
  · rw [seeded]
  · rw [decide_eq_true unseeded, decide_eq_true unseededToo]

theorem clearFor_alike (twin : Twin running first second) (reason : TacticalDecisionReason)
    (body : Option TacticalBodyIdentity) (observedStun : Bool) :
    Twin running { first.clearFor reason with body := body, observedStun := observedStun }
      { second.clearFor reason with body := body, observedStun := observedStun } :=
  ⟨twin.lastCompletedTick, rfl, rfl, rfl, rfl, rfl, twin.drawn⟩

theorem approach_alike (twin : Twin running bot.state second)
    (stay : observation.snapshot.matchState.phase = .running →
      observation.snapshot.matchState.runningStartedTick = running) :
    Alike (TacticalApproach.Alike running) (bot.approach queries observation)
      (TacticalController.approach { bot with state := second } queries observation) := by
  unfold approach
  refine .through _ fun zero _ => ?_
  dsimp only
  split
  · exact .answers (.complete _ _ (clearFor_alike twin _ _ _))
  · next self _ =>
    split
    · next body controllable _ _ =>
      split
      · exact .answers (.complete _ _ (clearFor_alike twin _ _ _))
      · next phase =>
        split
        · exact .answers (.complete _ _ (clearFor_alike twin _ _ _))
        · split
          · exact .refused _ _
          · have identity := stay (not_not.mp phase)
            rw [identity]
            obtain ⟨same, cancelled⟩ := @enter_alike _ _ bot _ _ _ ⟨self, controllable.inputGeneration⟩ twin
            change Alike _ _ (bot.approachRunning queries observation self body zero
              (bot.enter running ⟨self, controllable.inputGeneration⟩ second).1
              (bot.enter running ⟨self, controllable.inputGeneration⟩ second).2)
            rw [cancelled]
            exact approachRunning_alike self body zero _ same
    · exact .answers (.complete _ _ (clearFor_alike twin _ _ _))

theorem decideNext_alike (twin : Twin running bot.state second)
    (stay : observation.snapshot.matchState.phase = .running →
      observation.snapshot.matchState.runningStartedTick = running) :
    Alike (fun former later => later.commands = former.commands ∧
        later.lastSpawnRequestTick = former.lastSpawnRequestTick ∧ Twin running former.state later.state)
      (bot.decideNext queries observation)
      (TacticalController.decideNext { bot with state := second } queries observation) := by
  refine (approach_alike twin stay).bind_of_direct ?_
  rintro approach other - - alike
  cases alike with
  | complete decision state twin => exact .answers ⟨rfl, rfl, twin⟩
  | gate pass state same =>
    exact (act_alike pass same).imp (fun _ _ _ _ ⟨commands, spawns, same⟩ => ⟨commands, spawns, same.twin⟩)
      fun _ lost => lost

/-- Controllers of one seat that decide alike from here on, in a match with this running identity. -/
structure Twins (running : TickSequence) (first second : TacticalController S) : Prop where
  controller : second.controller = first.controller
  profile : second.profile = first.profile
  identity : second.identity = first.identity
  lastSpawnRequestTick : second.lastSpawnRequestTick = first.lastSpawnRequestTick
  state : Twin running first.state second.state

namespace Twins

variable {first second : TacticalController S}

theorem seat (twins : Twins running first second) :
    second.seat observation = { first.seat observation with state := second.state } := by
  unfold TacticalController.seat
  rw [twins.controller, twins.profile, twins.identity, twins.lastSpawnRequestTick]

theorem acceptsObservation (twins : Twins running first second) :
    second.acceptsObservation observation = first.acceptsObservation observation := by
  unfold TacticalController.acceptsObservation
  rw [twins.state.lastCompletedTick]

theorem decide (twins : Twins running first second)
    (stay : observation.snapshot.matchState.phase = .running →
      observation.snapshot.matchState.runningStartedTick = running) :
    (second.decide queries observation).2.toOption = (first.decide queries observation).2.toOption ∧
      Twins running (first.decide queries observation).1 (second.decide queries observation).1 := by
  by_cases own : observation.controller = first.controller
  · by_cases accepts : first.acceptsObservation observation = true
    · rw [decide_of_admitted own accepts,
        decide_of_admitted (own.trans twins.controller.symm) (twins.acceptsObservation.trans accepts), twins.seat]
      unfold TacticalController.decideFromObservation
      have alike := @decideNext_alike _ _ _ (first.seat observation) queries observation _ running twins.state stay
      generalize (first.seat observation).decideNext queries observation = former at alike ⊢
      generalize TacticalController.decideNext { first.seat observation with state := second.state } queries
        observation = later at alike ⊢
      cases alike with
      | refused => exact ⟨rfl, rfl, rfl, rfl, rfl, twins.state⟩
      | answers held =>
        obtain ⟨commands, spawns, twin⟩ := held
        refine ⟨congrArg some commands, rfl, rfl, rfl, spawns, ?_⟩
        exact ⟨rfl, twin.body, twin.observedStun, twin.reaction, twin.lease, twin.heldDirection, twin.drawn⟩
      | firstExhausted out => exact out.elim
      | secondExhausted _ out => exact out.elim
      | strays strayed => exact strayed.elim
    · have refused := Bool.eq_false_iff.mpr accepts
      rw [TacticalController.decide, TacticalController.decide, if_neg (not_not.mpr own),
        if_neg (not_not.mpr (own.trans twins.controller.symm)), twins.acceptsObservation, refused]
      exact ⟨rfl, twins⟩
  · rw [TacticalController.decide, TacticalController.decide, if_pos own,
      if_pos (show observation.controller ≠ second.controller from twins.controller ▸ own)]
    exact ⟨rfl, twins⟩

end Twins

section Replies

variable (bot queries)

/-- What each observation is answered with; none where the decision throws. -/
def replies : TacticalController S → List (Observation S Terrain) → List (Option (List (Command S)))
  | _, [] => []
  | bot, observation :: rest =>
    (bot.decide queries observation).2.toOption :: replies (bot.decide queries observation).1 rest

end Replies

theorem Twins.replies {firstBot secondBot : TacticalController S} (twins : Twins running firstBot secondBot)
    {continuation : List (Observation S Terrain)}
    (stay : ∀ observation ∈ continuation, observation.snapshot.matchState.phase = .running →
      observation.snapshot.matchState.runningStartedTick = running) :
    secondBot.replies queries continuation = firstBot.replies queries continuation := by
  induction continuation generalizing firstBot secondBot with
  | nil => rfl
  | cons observation rest ih =>
    obtain ⟨same, still⟩ := @Twins.decide _ _ _ queries observation _ _ _ twins (stay observation List.mem_cons_self)
    rw [TacticalController.replies, TacticalController.replies, same,
      ih still fun later member => stay later (List.mem_cons_of_mem _ member)]

/-- Outside the running phase a driven body settles what a controller remembers, whatever that was. -/
theorem settles_outside {zero : Vector2 S} (isZero : Vector2.create 0 0 = .ok zero) {self : EntityId}
    (seated : observation.entity = some self) (outside : observation.snapshot.matchState.phase ≠ .running)
    (controller : ControllerId) :
    ∃ commands reason, ∀ bot : TacticalController S, bot.controller = controller →
      bot.decideNext queries observation = .ok ⟨commands,
        { bot.state.clearFor reason with body := none, observedStun := false }, bot.lastSpawnRequestTick⟩ := by
  cases embodied : (observation.findBody self).filter (fun body => !body.isStatic) with
  | none =>
    refine ⟨[], .noControllableBody, fun bot own => ?_⟩
    unfold decideNext approach
    rw [seated, isZero]
    dsimp only
    rw [embodied]
    rfl
  | some body =>
    cases found : observation.findControllable self with
    | none =>
      refine ⟨[], .noControllableBody, fun bot own => ?_⟩
      unfold decideNext approach
      rw [seated, isZero]
      dsimp only
      rw [embodied, found]
      rfl
    | some controllable =>
      refine ⟨observation.requestThrust controller zero, .matchNotRunning, fun bot own => ?_⟩
      unfold decideNext approach
      rw [seated, isZero]
      dsimp only
      rw [embodied, found, ← own]
      simp only [if_pos outside]
      rfl

/-- What a state keeps of the ticks and the running identities of its history. -/
structure Recalls (state : TacticalState S) (history : List (Observation S Terrain)) : Prop where
  completed : ∀ last ∈ state.lastCompletedTick, ∃ former ∈ history, former.tickSequence = last
  seeded : ∀ running ∈ state.seededRunningTick, ∃ former ∈ history,
    former.snapshot.matchState.phase = .running ∧ former.snapshot.matchState.runningStartedTick = running

theorem Recalls.decide {history : List (Observation S Terrain)} (recalls : Recalls bot.state history) :
    Recalls (bot.decide queries observation).1.state (history ++ [observation]) := by
  have here : observation ∈ history ++ [observation] := List.mem_append_right _ (List.mem_singleton_self _)
  have older : Recalls bot.state (history ++ [observation]) :=
    ⟨fun last completed =>
      let ⟨former, member, same⟩ := recalls.completed last completed
      ⟨former, List.mem_append_left _ member, same⟩,
    fun running seeded =>
      let ⟨former, member, same⟩ := recalls.seeded running seeded
      ⟨former, List.mem_append_left _ member, same⟩⟩
  have completes {state : TacticalState S} (seeded : state.seededRunningTick = bot.state.seededRunningTick ∨
      (observation.snapshot.matchState.phase = .running ∧
        state.seededRunningTick = some observation.snapshot.matchState.runningStartedTick)) :
      Recalls (state.completeAt observation.tickSequence) (history ++ [observation]) := by
    refine ⟨fun last completed => ⟨observation, here, Option.some_inj.mp completed⟩, ?_⟩
    intro running holds
    obtain same | ⟨phase, fresh⟩ := seeded
    · exact older.seeded running (same.symm.trans holds)
    · exact ⟨observation, here, phase, Option.some_inj.mp (fresh.symm.trans holds)⟩
  cases @decide_decides _ _ _ bot queries observation with
  | unmoved same idle => exact same.symm ▸ older
  | completed decision later approached closed moved => exact moved.symm ▸ completes approached.seeded
  | acted gate decision later passed approached acts left moved =>
    exact moved.symm ▸ completes (left.seeded ▸ approached.seeded)

theorem recalls_watch (fresh : bot.state = {}) (history : List (Observation S Terrain)) :
    Recalls (bot.watch queries history).state history := by
  induction history using List.reverseRecOn with
  | nil =>
    refine ⟨?_, ?_⟩
    · rw [watch, List.foldl_nil, fresh]
      nofun
    · rw [watch, List.foldl_nil, fresh]
      nofun
  | append_singleton history observation ih =>
    rw [watch_concat]
    exact ih.decide

theorem decideNext_of_no_zero {refusal : SimulationValidationError}
    (noZero : (Vector2.create 0 0 : Validated (Vector2 S)) = .error refusal) :
    bot.decideNext queries observation = .error (.simulation refusal) := by
  unfold decideNext approach
  rw [noZero]
  rfl

theorem decide_of_no_zero {refusal : SimulationValidationError}
    (noZero : (Vector2.create 0 0 : Validated (Vector2 S)) = .error refusal)
    (never : bot.state.lastCompletedTick = none) :
    (bot.decide queries observation).2.toOption = none ∧
      (bot.decide queries observation).1.state.lastCompletedTick = none := by
  unfold TacticalController.decide decideFromObservation acceptsObservation
  rw [never, decideNext_of_no_zero noZero]
  split
  · exact ⟨rfl, never⟩
  · exact ⟨rfl, never⟩

theorem watch_of_no_zero {refusal : SimulationValidationError}
    (noZero : (Vector2.create 0 0 : Validated (Vector2 S)) = .error refusal)
    (never : bot.state.lastCompletedTick = none) (history : List (Observation S Terrain)) :
    (bot.watch queries history).state.lastCompletedTick = none := by
  induction history generalizing bot with
  | nil => exact never
  | cons observation rest ih => exact ih (decide_of_no_zero noZero never).2

theorem replies_of_no_zero {refusal : SimulationValidationError}
    (noZero : (Vector2.create 0 0 : Validated (Vector2 S)) = .error refusal)
    (never : bot.state.lastCompletedTick = none) (continuation : List (Observation S Terrain)) :
    bot.replies queries continuation = continuation.map fun _ => none := by
  induction continuation generalizing bot with
  | nil => rfl
  | cons observation rest ih =>
    obtain ⟨thrown, still⟩ := @decide_of_no_zero _ _ _ _ queries observation _ noZero never
    rw [replies, thrown, ih still]
    rfl

/-- The first observation outside the running phase makes twins of two controllers of one seat. -/
theorem decide_settles {first second : TacticalController S} (authored : SameAuthored first second)
    {zero : Vector2 S} (isZero : Vector2.create 0 0 = .ok zero) (own : observation.controller = first.controller)
    (acceptsFirst : first.acceptsObservation observation = true)
    (acceptsSecond : second.acceptsObservation observation = true) {self : EntityId}
    (seated : observation.entity = some self) (outside : observation.snapshot.matchState.phase ≠ .running)
    (unseededFirst : first.state.seededRunningTick ≠ some running)
    (unseededSecond : second.state.seededRunningTick ≠ some running) :
    (second.decide queries observation).2.toOption = (first.decide queries observation).2.toOption ∧
      Twins running (first.decide queries observation).1 (second.decide queries observation).1 := by
  obtain ⟨controller, profile, identity⟩ := authored
  obtain ⟨commands, reason, decides⟩ := @settles_outside _ _ _ queries observation _ isZero _ seated outside
    first.controller
  rw [decide_of_admitted own acceptsFirst, decide_of_admitted (own.trans controller.symm) acceptsSecond]
  unfold decideFromObservation
  rw [decides (first.seat observation) rfl, decides (second.seat observation) controller]
  refine ⟨rfl, controller, profile, identity, ?_, rfl, rfl, rfl, rfl, rfl, rfl, .inr ⟨unseededFirst, unseededSecond⟩⟩
  dsimp only [seat]
  rw [seated]
  rfl

/-- A bot's match play does not depend on earlier matches. -/
theorem match_play_forgets (controller : ControllerId) (profile : TacticalProfile S) (identity : TacticalSeedIdentity)
    (queries : TacticalQueries S Terrain) (firstHistory secondHistory : List (Observation S Terrain))
    (opening : Observation S Terrain) (continuation : List (Observation S Terrain)) (running : TickSequence)
    (later : ∀ former ∈ firstHistory ++ secondHistory, former.tickSequence.value < opening.tickSequence.value)
    (own : opening.controller = controller) (seated : opening.entity.isSome)
    (outside : opening.snapshot.matchState.phase ≠ .running)
    (unseen : ∀ former ∈ firstHistory ++ secondHistory, former.snapshot.matchState.phase = .running →
      former.snapshot.matchState.runningStartedTick ≠ running)
    (stay : ∀ observation ∈ continuation, observation.snapshot.matchState.phase = .running →
      observation.snapshot.matchState.runningStartedTick = running) :
    let fresh := create controller profile identity
    (fresh.watch queries secondHistory).replies queries (opening :: continuation) =
      (fresh.watch queries firstHistory).replies queries (opening :: continuation) := by
  intro fresh
  have recalls := @recalls_watch _ _ _ fresh queries rfl
  have accepts (history : List (Observation S Terrain)) (inside : history ⊆ firstHistory ++ secondHistory) :
      (fresh.watch queries history).acceptsObservation opening = true := by
    refine acceptsObservation_iff.mpr fun last completed => ?_
    obtain ⟨former, member, rfl⟩ := (recalls history).completed last completed
    exact later former (inside member)
  have unseeded (history : List (Observation S Terrain)) (inside : history ⊆ firstHistory ++ secondHistory) :
      (fresh.watch queries history).state.seededRunningTick ≠ some running := by
    intro seeded
    obtain ⟨former, member, phase, same⟩ := (recalls history).seeded running seeded
    exact unseen former (inside member) phase same
  have left := List.subset_append_left firstHistory secondHistory
  have right := List.subset_append_right firstHistory secondHistory
  obtain ⟨controllerFirst, profileFirst, identityFirst⟩ := @watch_authored _ _ _ fresh queries firstHistory
  obtain ⟨controllerSecond, profileSecond, identitySecond⟩ := @watch_authored _ _ _ fresh queries secondHistory
  cases isZero : (Vector2.create 0 0 : Validated (Vector2 S)) with
  | error refusal =>
    have never := @watch_of_no_zero _ _ _ fresh queries _ isZero rfl
    rw [replies_of_no_zero isZero (never _), replies_of_no_zero isZero (never _)]
  | ok zero =>
    obtain ⟨self, entity⟩ := Option.isSome_iff_exists.mp seated
    obtain ⟨same, twins⟩ := @decide_settles _ _ _ queries opening running _ _
      ⟨controllerSecond.trans controllerFirst.symm, profileSecond.trans profileFirst.symm,
        identitySecond.trans identityFirst.symm⟩
      zero isZero (own.trans controllerFirst.symm) (accepts _ left) (accepts _ right) self entity outside
      (unseeded _ left) (unseeded _ right)
    rw [replies, replies, same, twins.replies stay]

/-- A bot that saw a match and one that saw none play the next match alike. -/
theorem second_match_forgets :
    let fresh := create .first persistentProfile ⟨0, 1, 0⟩
    let continuation := [observedAt ⟨10, by decide⟩ .lobby .zero,
      observedAt ⟨20, by decide⟩ .running ⟨20, by decide⟩, observedAt ⟨30, by decide⟩ .running ⟨20, by decide⟩]
    (fresh.watch oneHill []).replies oneHill continuation =
      (fresh.watch oneHill [observedAt ⟨5, by decide⟩ .running .zero]).replies oneHill continuation :=
  match_play_forgets .first persistentProfile ⟨0, 1, 0⟩ oneHill [observedAt ⟨5, by decide⟩ .running .zero] []
    (observedAt ⟨10, by decide⟩ .lobby .zero) _ ⟨20, by decide⟩ (by decide +kernel) rfl rfl (by decide)
    (by decide +kernel) (by decide +kernel)

end TacticalController

end BlobRoyale.Controllers
