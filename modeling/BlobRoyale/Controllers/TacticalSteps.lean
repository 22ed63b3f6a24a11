import BlobRoyale.Controllers.TacticalController

/-!
# One observation of a tactical controller

What an observation may do to the windows, the lease and the stream, whichever of its exits it takes.
-/

namespace BlobRoyale.Controllers

open Simulation

variable {S Terrain : Type} [Scalar S]

theorem decided_eq_ok {α : Type} {validated : Validated α} {value : α} :
    decided validated = .ok value ↔ validated = .ok value := by
  cases validated <;> simp [decided, Except.mapError]

def TacticalApproach.state : TacticalApproach S → TacticalState S
  | .complete decision => decision.state
  | .gate pass => pass.state

def TacticalApproach.passed : TacticalApproach S → Option (TacticalGate S)
  | .complete _ => none
  | .gate pass => some pass

namespace TacticalController

variable {bot : TacticalController S} {queries : TacticalQueries S Terrain} {observation : Observation S Terrain}

section Gate

variable (bot queries observation)

/-- The pass of the reaction gate this observation makes, if it makes one. -/
def gateAt : Option (TacticalGate S) :=
  if observation.controller = bot.controller ∧ bot.acceptsObservation observation = true then
    match (bot.seat observation).approach queries observation with
    | .ok approach => approach.passed
    | .error _ => none
  else none

/-- The observation is decided: no error leaves it. -/
def Completes : Prop := ∃ commands, (bot.decide queries observation).2 = .ok commands

/-- What takes a held key away at an observation. -/
inductive Releases (key : TacticalObjectiveKey) : Prop where
  | unseated (absent : observation.entity = none)
  | uncontrollable (self : EntityId) (seated : observation.entity = some self)
      (absent : (observation.findBody self).filter (fun body => !body.isStatic) = none ∨
        observation.findControllable self = none)
  | notRunning (stopped : observation.snapshot.matchState.phase ≠ .running)
  | stunned (self : EntityId) (seated : observation.entity = some self) (stunned : observation.stunned self = true)
  | newRunning (changed : bot.state.seededRunningTick ≠ some observation.snapshot.matchState.runningStartedTick)
  | changedBody (self : EntityId) (controllable : Controllable S) (seated : observation.entity = some self)
      (found : observation.findControllable self = some controllable)
      (changed : bot.state.body ≠ some ⟨self, controllable.inputGeneration⟩ ∨ bot.state.observedStun = true)
  | waiting (body : PhysicsBody S) (objectives : TacticalObjectiveCandidates S)
      (collected : queries.collect observation body bot.profile.policy = .ok objectives)
      (disposed : objectives.disposition = .waiting)
  | finished (body : PhysicsBody S) (objectives : TacticalObjectiveCandidates S)
      (collected : queries.collect observation body bot.profile.policy = .ok objectives)
      (disposed : objectives.disposition = .finished)
  | vanished (body : PhysicsBody S) (objectives : TacticalObjectiveCandidates S)
      (collected : queries.collect observation body bot.profile.policy = .ok objectives)
      (gone : ∀ candidate ∈ objectives.candidates, candidate.key ≠ key)

def runningSeed : UInt64 :=
  tacticalSeedFor bot.identity bot.profile.name observation.snapshot.matchState.runningStartedTick

/-- What an observation leaves of the state before any pass acts on it. -/
structure Approached (state : TacticalState S) : Prop where
  completed : state.lastCompletedTick = bot.state.lastCompletedTick
  reaction : ∀ window ∈ state.reaction, bot.state.reaction = some window ∨
    window.expiryTick.value = observation.tickSequence.value + bot.profile.reactionDelayTicks
  kept : ∀ held ∈ state.lease, ∃ lease, bot.state.lease = some lease ∧ held.window = lease.window ∧
    held.candidate.key = lease.candidate.key
  released : state.lease = none → ∀ lease ∈ bot.state.lease, Releases bot queries observation lease.candidate.key
  random : state.random = bot.state.random ∨ (state.random = some (.create (bot.runningSeed observation)) ∧
    bot.state.seededRunningTick ≠ some observation.snapshot.matchState.runningStartedTick)
  seeded : state.seededRunningTick = bot.state.seededRunningTick ∨
    (observation.snapshot.matchState.phase = .running ∧
      state.seededRunningTick = some observation.snapshot.matchState.runningStartedTick)

end Gate

variable {state next : TacticalState S}

theorem rearm_eq_ok (armed : bot.rearm observation state = .ok next) : ∃ window : TickWindow,
    window.expiryTick.value = observation.tickSequence.value + bot.profile.reactionDelayTicks ∧
      next = { state with reaction := some window } := by
  obtain ⟨window, created, returned⟩ := bind_eq_ok.mp armed
  cases returned
  exact ⟨window.val, TickWindow.create_eq_ok.mp created, rfl⟩

namespace Approached

theorem rearm (approached : Approached bot queries observation state)
    (armed : bot.rearm observation state = .ok next) : Approached bot queries observation next := by
  obtain ⟨window, expiry, rfl⟩ := rearm_eq_ok armed
  refine ⟨approached.completed, ?_, approached.kept, approached.released, approached.random, approached.seeded⟩
  rintro _ ⟨⟩
  exact .inr expiry

theorem rearmIf {due : Bool} (approached : Approached bot queries observation state)
    (armed : bot.rearmIf observation due state = .ok next) : Approached bot queries observation next := by
  unfold TacticalController.rearmIf at armed
  split at armed
  · exact approached.rearm (decided_eq_ok.mp armed)
  · cases armed
    exact approached

theorem drop (approached : Approached bot queries observation state)
    (cause : ∀ key, Releases bot queries observation key) (completed : next.lastCompletedTick = state.lastCompletedTick)
    (reaction : next.reaction = none ∨ next.reaction = state.reaction) (lease : next.lease = none)
    (random : next.random = state.random) (seeded : next.seededRunningTick = state.seededRunningTick) :
    Approached bot queries observation next := by
  refine ⟨completed.trans approached.completed, ?_, ?_, fun _ _ _ => cause _, random ▸ approached.random,
    seeded ▸ approached.seeded⟩
  · intro window armed
    obtain cleared | same := reaction
    · rw [cleared] at armed
      cases armed
    · exact approached.reaction window (same ▸ armed)
  · intro held leased
    rw [lease] at leased
    cases leased

theorem same (approached : Approached bot queries observation state)
    (completed : next.lastCompletedTick = state.lastCompletedTick) (reaction : next.reaction = state.reaction)
    (lease : next.lease = state.lease) (random : next.random = state.random)
    (seeded : next.seededRunningTick = state.seededRunningTick) : Approached bot queries observation next := by
  refine ⟨completed.trans approached.completed, ?_, ?_, ?_, random ▸ approached.random, seeded ▸ approached.seeded⟩
  · rw [reaction]
    exact approached.reaction
  · rw [lease]
    exact approached.kept
  · rw [lease]
    exact approached.released

theorem start : Approached bot queries observation bot.state where
  completed := rfl
  reaction _ armed := .inl armed
  kept held leased := ⟨held, leased, rfl, rfl⟩
  released none lease leased := by
    rw [none] at leased
    cases leased
  random := .inl rfl
  seeded := .inl rfl

theorem renew (running : observation.snapshot.matchState.phase = .running) : Approached bot queries observation
    (bot.renew observation.snapshot.matchState.runningStartedTick bot.state) := by
  unfold TacticalController.renew
  split
  · next changed => exact ⟨rfl, nofun, nofun, fun _ _ _ => .newRunning changed, .inr ⟨rfl, changed⟩,
      .inr ⟨running, rfl⟩⟩
  · exact start

theorem enter {self : EntityId} {controllable : Controllable S} (seated : observation.entity = some self)
    (found : observation.findControllable self = some controllable)
    (running : observation.snapshot.matchState.phase = .running) :
    Approached bot queries observation (bot.enter observation.snapshot.matchState.runningStartedTick
      ⟨self, controllable.inputGeneration⟩ bot.state).1 := by
  unfold TacticalController.enter TacticalState.embody
  dsimp only
  split
  · next changed =>
    refine (renew running).drop ?_ rfl (.inl rfl) rfl rfl rfl
    intro key
    by_cases stay : bot.state.seededRunningTick = some observation.snapshot.matchState.runningStartedTick
    · have changed := of_decide_eq_true changed
      rw [TacticalController.renew, if_neg (not_not.mpr stay)] at changed
      exact .changedBody self controllable seated found changed
    · exact .newRunning stay
  · exact (renew running).same rfl rfl rfl rfl rfl

theorem refreshLease {body : PhysicsBody S} {objectives : TacticalObjectiveCandidates S}
    (collected : queries.collect observation body bot.profile.policy = .ok objectives) {cancelled cut : Bool}
    (approached : Approached bot queries observation state)
    (refreshed : bot.refreshLease observation objectives.candidates state cancelled = .ok (next, cut)) :
    Approached bot queries observation next := by
  unfold TacticalController.refreshLease at refreshed
  split at refreshed
  · cases refreshed
    exact approached.same rfl rfl rfl rfl rfl
  · next lease leased =>
    obtain ⟨former, was, -, sameKey⟩ := approached.kept lease leased
    split at refreshed
    · next absent =>
      obtain ⟨rearmed, armed, returned⟩ := bind_eq_ok.mp refreshed
      cases returned
      obtain ⟨window, expiry, rfl⟩ := rearm_eq_ok armed
      refine ⟨approached.completed, ?_, nofun, ?_, approached.random, approached.seeded⟩
      · rintro _ ⟨⟩
        exact .inr expiry
      · intro _ held holds
        cases was.symm.trans holds
        refine .vanished body objectives collected ?_
        intro candidate member same
        exact List.find?_eq_none.mp absent candidate member (decide_eq_true (same.trans sameKey.symm))
    · next found present =>
      cases refreshed
      have same : found.key = lease.candidate.key := of_decide_eq_true (List.find?_some present :)
      obtain ⟨held, holds, window, key⟩ := approached.kept lease leased
      refine ⟨approached.completed, approached.reaction, ?_, nofun, approached.random, approached.seeded⟩
      rintro _ ⟨⟩
      exact ⟨held, holds, window, same.trans key⟩

end Approached

/-- A pass is made with a reaction that has expired, over the candidates that were collected. -/
structure Open (bot : TacticalController S) (queries : TacticalQueries S Terrain)
    (observation : Observation S Terrain) (gate : TacticalGate S) : Prop where
  expired : ∃ window, gate.state.reaction = some window ∧ window.expired observation.tickSequence = true
  offered : gate.candidates ≠ []

theorem complete_ne_gate {decision : TacticalDecision S} {gate : TacticalGate S} :
    TacticalApproach.complete decision ≠ .gate gate := nofun

theorem approachRunning_approaches {self : EntityId} {body : PhysicsBody S} {zero : Vector2 S} {cancelled : Bool}
    {approach : TacticalApproach S} (approached : Approached bot queries observation state)
    (answered : bot.approachRunning queries observation self body zero state cancelled = .ok approach) :
    Approached bot queries observation approach.state ∧
      ∀ gate, approach = .gate gate → Open bot queries observation gate := by
  unfold approachRunning at answered
  obtain ⟨armed, arming, answered⟩ := bind_eq_ok.mp answered
  have armedApproached := approached.rearmIf arming
  obtain ⟨objectives, collected, answered⟩ := bind_eq_ok.mp answered
  have narrated : Approached bot queries observation { armed with work := objectives.work } :=
    armedApproached.same rfl rfl rfl rfl rfl
  dsimp only at answered
  split at answered
  · next disposed =>
    obtain ⟨rearmed, rearming, returned⟩ := bind_eq_ok.mp answered
    cases returned
    refine ⟨?_, fun _ passed => absurd passed complete_ne_gate⟩
    exact (narrated.rearmIf rearming).drop (fun _ => .waiting body objectives collected disposed) rfl (.inr rfl) rfl
      rfl rfl
  · next disposed =>
    cases answered
    exact ⟨narrated.drop (fun _ => .finished body objectives collected disposed) rfl (.inr rfl) rfl rfl rfl,
      fun _ passed => absurd passed complete_ne_gate⟩
  · obtain ⟨⟨refreshed, cut⟩, refreshing, answered⟩ := bind_eq_ok.mp answered
    have fresh := narrated.refreshLease collected (decided_eq_ok.mp refreshing)
    dsimp only at answered
    split at answered
    · cases answered
      exact ⟨fresh.same rfl rfl rfl rfl rfl, fun _ passed => absurd passed complete_ne_gate⟩
    · next offered =>
      split at answered
      · cases answered
        exact ⟨fresh.same rfl rfl rfl rfl rfl, fun _ passed => absurd passed complete_ne_gate⟩
      · next expired =>
        cases answered
        refine ⟨fresh, ?_⟩
        rintro _ ⟨⟩
        rw [Bool.not_eq_true', Bool.not_eq_false] at expired
        refine ⟨?_, fun empty => offered (List.isEmpty_iff.mpr empty)⟩
        exact (Option.any_eq_true _ _).mp expired

theorem approach_approaches {approach : TacticalApproach S}
    (answered : bot.approach queries observation = .ok approach) :
    Approached bot queries observation approach.state ∧
      ∀ gate, approach = .gate gate → Open bot queries observation gate := by
  unfold TacticalController.approach at answered
  obtain ⟨zero, -, answered⟩ := bind_eq_ok.mp answered
  dsimp only at answered
  split at answered
  · next unseated =>
    cases answered
    exact ⟨Approached.start.drop (fun _ => .unseated unseated) rfl (.inl rfl) rfl rfl rfl,
      fun _ passed => absurd passed complete_ne_gate⟩
  · next self seated =>
    split at answered
    · next body controllable embodied found =>
      split at answered
      · next stopped =>
        cases answered
        exact ⟨Approached.start.drop (fun _ => .notRunning stopped) rfl (.inl rfl) rfl rfl rfl,
          fun _ passed => absurd passed complete_ne_gate⟩
      · next running =>
        split at answered
        · next stunned =>
          cases answered
          exact ⟨Approached.start.drop (fun _ => .stunned self seated stunned) rfl (.inl rfl) rfl rfl rfl,
            fun _ passed => absurd passed complete_ne_gate⟩
        · split at answered
          · cases answered
          · exact approachRunning_approaches (.enter seated found (not_not.mp running)) answered
    · next absent =>
      cases answered
      refine ⟨Approached.start.drop (fun _ => .uncontrollable self seated ?_) rfl (.inl rfl) rfl rfl rfl,
        fun _ passed => absurd passed complete_ne_gate⟩
      by_contra present
      rw [not_or] at present
      obtain ⟨body, embodied⟩ := Option.ne_none_iff_exists'.mp present.1
      obtain ⟨controllable, found⟩ := Option.ne_none_iff_exists'.mp present.2
      exact absent body controllable embodied found

section Selection

variable {policy : TacticalObjectivePolicy S} {held : Option TacticalObjectiveKey}
    {candidates : List (TacticalObjectiveCandidate S)}

theorem consider_inside {choice : TacticalChoice S} {index : Nat}
    (inside : ∀ best ∈ choice.best, best < candidates.length) (bound : index < candidates.length) :
    ∃ best, (consider candidates policy held choice index).best = some best ∧ best < candidates.length := by
  unfold consider
  rw [List.getElem?_eq_getElem bound]
  dsimp only
  split
  · exact ⟨index, rfl, bound⟩
  · next best known =>
    split
    · exact ⟨index, rfl, bound⟩
    · obtain ⟨chosen, isChosen, -⟩ := Option.bind_eq_some_iff.mp known
      exact ⟨chosen, isChosen, inside chosen isChosen⟩

theorem tacticalSelectCandidate_inside (offered : candidates ≠ []) :
    ∃ chosen, tacticalSelectCandidate candidates policy held = some chosen ∧ chosen < candidates.length := by
  have turns : ∀ count < candidates.length, ∃ best,
      ((List.range (count + 1)).foldl (consider candidates policy held) ⟨none, 0⟩).best = some best ∧
        best < candidates.length := by
    intro count bound
    induction count with
    | zero => exact consider_inside nofun bound
    | succ count ih =>
      obtain ⟨best, isBest, inside⟩ := ih (Nat.lt_of_succ_lt bound)
      rw [List.range_succ, List.foldl_concat]
      refine consider_inside ?_ bound
      intro former isFormer
      cases isBest.symm.trans isFormer
      exact inside
  obtain ⟨count, size⟩ := Nat.exists_eq_succ_of_ne_zero (List.length_pos_iff.mpr offered).ne'
  have final := turns count (size ▸ Nat.lt_succ_self count)
  rw [Nat.succ_eq_add_one] at size
  unfold tacticalSelectCandidate
  rw [size]
  rwa [size] at final

end Selection

section Act

variable (bot observation)

/-- What a pass over these candidates leaves. -/
structure Acted (gate : TacticalGate S) (state : TacticalState S) : Prop where
  completed : state.lastCompletedTick = gate.state.lastCompletedTick
  reaction : ∃ window, state.reaction = some window ∧
    window.expiryTick.value = observation.tickSequence.value + bot.profile.reactionDelayTicks
  lease : (∃ lease, gate.state.lease = some lease ∧ lease.window.expired observation.tickSequence = false ∧
      state.lease = some lease) ∨
    ((∀ lease ∈ gate.state.lease, lease.window.expired observation.tickSequence = true) ∧
      ∃ lease, state.lease = some lease ∧ lease.window.activationTick = observation.tickSequence ∧
        lease.window.expiryTick.value = observation.tickSequence.value + bot.profile.targetPersistenceTicks)
  random : state.random = gate.state.random ∨ ∃ lease, state.lease = some lease ∧ arrived lease.candidate = false
  seeded : state.seededRunningTick = gate.state.seededRunningTick

end Act

theorem chooseLease_eq_ok {candidates : List (TacticalObjectiveCandidate S)} (offered : candidates ≠ [])
    {choice : Option (TacticalLease S × TacticalTargetHold)}
    (chosen : bot.chooseLease observation candidates state = .ok choice) : ∃ lease hold, choice = some (lease, hold) ∧
      ((state.lease = some lease ∧ lease.window.expired observation.tickSequence = false) ∨
        ((∀ lease ∈ state.lease, lease.window.expired observation.tickSequence = true) ∧
          lease.window.activationTick = observation.tickSequence ∧
          lease.window.expiryTick.value = observation.tickSequence.value + bot.profile.targetPersistenceTicks)) := by
  unfold chooseLease at chosen
  split at chosen
  · next lease running =>
    cases chosen
    obtain ⟨leased, unexpired⟩ := Option.filter_eq_some_iff.mp running
    rw [Bool.not_eq_true'] at unexpired
    exact ⟨lease, state.hold, rfl, .inl ⟨leased, unexpired⟩⟩
  · next ended =>
    have expired : ∀ lease ∈ state.lease, lease.window.expired observation.tickSequence = true := by
      intro lease leased
      have out := Option.filter_eq_none_iff.mp ended lease leased
      rwa [Bool.not_eq_true', Bool.not_eq_false] at out
    obtain ⟨best, isBest, inside⟩ := @tacticalSelectCandidate_inside _ _ bot.profile.policy
      (state.lease.map fun lease => lease.candidate.key) _ offered
    dsimp only at chosen
    rw [isBest, Option.bind_some, List.getElem?_eq_getElem inside] at chosen
    obtain ⟨window, created, returned⟩ := bind_eq_ok.mp chosen
    cases returned
    exact ⟨_, _, rfl, .inr ⟨expired, window.property, TickWindow.create_eq_ok.mp created⟩⟩

theorem steer_eq_ok {body : PhysicsBody S} {selected : TacticalObjectiveCandidate S} {zero direction : Vector2 S}
    (steered : bot.steer observation body selected zero state = .ok (direction, next)) :
    next.lastCompletedTick = state.lastCompletedTick ∧ next.reaction = state.reaction ∧ next.lease = state.lease ∧
      (next.random = state.random ∨ arrived selected = false) ∧
        next.seededRunningTick = state.seededRunningTick := by
  unfold steer at steered
  split at steered
  · obtain ⟨braked, -, returned⟩ := bind_eq_ok.mp steered
    cases returned
    exact ⟨rfl, rfl, rfl, .inl rfl, rfl⟩
  · next short =>
    rw [Bool.not_eq_true] at short
    dsimp only at steered
    split at steered
    · obtain ⟨aimed, -, returned⟩ := bind_eq_ok.mp steered
      cases returned
      exact ⟨rfl, rfl, rfl, .inr short, rfl⟩
    · cases steered
      exact ⟨rfl, rfl, rfl, .inr short, rfl⟩

theorem act_acts {gate : TacticalGate S} {decision : TacticalDecision S} (offered : gate.candidates ≠ [])
    (answered : bot.act queries observation gate = .ok decision) : Acted bot observation gate decision.state := by
  unfold act at answered
  obtain ⟨zero, -, answered⟩ := bind_eq_ok.mp answered
  obtain ⟨rearmed, arming, answered⟩ := bind_eq_ok.mp answered
  obtain ⟨window, expiry, rfl⟩ := rearm_eq_ok (decided_eq_ok.mp arming)
  obtain ⟨choice, choosing, answered⟩ := bind_eq_ok.mp answered
  obtain ⟨lease, hold, rfl, held⟩ := chooseLease_eq_ok offered (decided_eq_ok.mp choosing)
  obtain ⟨⟨direction, steered⟩, steering, answered⟩ := bind_eq_ok.mp answered
  obtain ⟨completed, reaction, leased, random, seeded⟩ := steer_eq_ok (decided_eq_ok.mp steering)
  obtain ⟨⟨ability, reason⟩, -, returned⟩ := bind_eq_ok.mp answered
  cases returned
  refine ⟨completed, ⟨window, reaction, expiry⟩, ?_, ?_, seeded⟩
  · obtain ⟨former, unexpired⟩ | ⟨expired, activation, ending⟩ := held
    · exact .inl ⟨lease, former, unexpired, leased⟩
    · exact .inr ⟨expired, lease, leased, activation, ending⟩
  · obtain same | short := random
    · exact .inl same
    · exact .inr ⟨lease, leased, short⟩

end TacticalController

end BlobRoyale.Controllers
