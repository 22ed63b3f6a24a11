import BlobRoyale.Library.LastWriter
import BlobRoyale.Simulation.IntakeEffects
import BlobRoyale.Simulation.GameSimulation

/-!
# Movement tuning as a register

A tuning command is a compare-and-set on the movement record: it names the revision it expects, and
the last one of a batch that stands against the revision at tick entry wins the tick.
-/

namespace BlobRoyale.Simulation

open Transition LastWriter

theorem getElem?_indexed {α : Type} {entries : List α} {position : Nat} {indexed : α × Nat} :
    entries.zipIdx[position]? = some indexed ↔
      entries[position]? = some indexed.1 ∧ indexed.2 = position := by
  rw [List.getElem?_zipIdx, Nat.zero_add, Option.map_eq_some_iff]
  constructor
  · rintro ⟨entry, found, rfl⟩
    exact ⟨found, rfl⟩
  · rintro ⟨found, rfl⟩
    exact ⟨indexed.1, found, rfl⟩

section Judgements

variable {S : Type}

/-- A tuning command with the status it was judged to have. -/
abbrev Judgement (S : Type) := SetMovementTuningCommand S × MovementTuningDecisionStatus

/-- The last judgement that stands, with its index. -/
def winningJudgement (judgements : List (Judgement S)) : Option (Judgement S × Nat) :=
  latest (fun judged => judged.1.2) .superseded judgements.zipIdx

def Judgement.decision (decisionTick : TickSequence) (revision : Nat) (judged : Judgement S) :
    MovementTuningDecision :=
  ⟨judged.1.controller, judged.1.tuningRequestId, judged.2, decisionTick, revision⟩

theorem winningJudgement_eq_some {judgements : List (Judgement S)} {judged : Judgement S} {index : Nat} :
    winningJudgement judgements = some (judged, index) ↔
      judgements[index]? = some judged ∧ judged.2 = .superseded ∧
        ∀ (later : Nat) other, judgements[later]? = some other → other.2 = .superseded → later ≤ index := by
  rw [winningJudgement, latest_eq_some_iff_getElem?]
  constructor
  · rintro ⟨position, found, stands, newest⟩
    obtain ⟨found, rfl⟩ := getElem?_indexed.mp found
    refine ⟨found, stands, fun later other foundLater standsLater => ?_⟩
    exact newest later (other, later) (getElem?_indexed.mpr ⟨foundLater, rfl⟩) standsLater
  · rintro ⟨found, stands, newest⟩
    refine ⟨index, getElem?_indexed.mpr ⟨found, rfl⟩, stands, fun later other foundLater standsLater => ?_⟩
    exact newest later other.1 (getElem?_indexed.mp foundLater).1 standsLater

theorem winningJudgement_isSome {judgements : List (Judgement S)} {judged : Judgement S}
    (member : judged ∈ judgements) (stands : judged.2 = .superseded) :
    (winningJudgement judgements).isSome = true := by
  obtain ⟨index, found⟩ := List.getElem?_of_mem member
  have indexed := List.mem_of_getElem? ((@getElem?_indexed _ _ index (judged, index)).mpr ⟨found, rfl⟩)
  have standing : (judged, index) ∈ judgements.zipIdx.filter fun judged => judged.1.2 = .superseded :=
    List.mem_filter.mpr ⟨indexed, decide_eq_true stands⟩
  rw [winningJudgement, latest, List.getLast?_isSome]
  exact List.ne_nil_of_mem standing

end Judgements

variable {S : Type} [Scalar S]

def Command.tuningRequest : Command S → Option (SetMovementTuningCommand S)
  | setMovementTuning tuning => some tuning
  | _ => none

theorem Command.tuningRequest_eq_none {command : Command S}
    (untuned : ∀ tuning, command ≠ .setMovementTuning tuning) : command.tuningRequest = none := by
  cases command with
  | setMovementTuning tuning => exact absurd rfl (untuned tuning)
  | _ => rfl

/-- The tuning commands of a sequence, each with its position in it. -/
def tuningEntries (commands : List (Command S)) : List (Nat × SetMovementTuningCommand S) :=
  commands.zipIdx.filterMap fun entry => entry.1.tuningRequest.map fun tuning => (entry.2, tuning)

theorem tuningEntries_concat (commands : List (Command S)) (command : Command S) :
    tuningEntries (commands ++ [command]) = tuningEntries commands ++
      (command.tuningRequest.map fun tuning => (commands.length, tuning)).toList := by
  rw [tuningEntries, List.zipIdx_append, List.filterMap_append, Nat.zero_add, List.zipIdx_singleton,
    List.filterMap_cons]
  cases command.tuningRequest <;> rfl

theorem IntakePass.tuningStatus_ne_applied (world : GameWorld S) (entryRevision : Nat)
    (tuning : SetMovementTuningCommand S) : tuningStatus world entryRevision tuning ≠ .applied := by
  unfold tuningStatus
  split
  · split
    · split
      · exact fun impossible => by cases impossible
      · split <;> exact fun impossible => by cases impossible
    · exact fun impossible => by cases impossible
  · exact fun impossible => by cases impossible

theorem IntakePass.tuningStatus_superseded {world : GameWorld S} {entryRevision : Nat}
    {tuning : SetMovementTuningCommand S} :
    tuningStatus world entryRevision tuning = .superseded ↔
      entryRevision < maximumProtocolSafeInteger ∧
        world.matchState.seats.holdsSeat tuning.controller = true ∧
        tuning.expectedRevision = entryRevision ∧
        world.matchState.movement.admits tuning.tuning = true := by
  unfold tuningStatus
  constructor
  · intro stands
    split at stands
    · next seated =>
      split at stands
      · next expected =>
        split at stands
        · cases stands
        · next room =>
          split at stands
          · next admitted => exact ⟨Nat.lt_of_not_le room, seated, expected, admitted⟩
          · cases stands
      · cases stands
    · cases stands
  · rintro ⟨room, seated, expected, admitted⟩
    rw [if_pos seated, if_pos expected, if_neg (Nat.not_le_of_lt room), if_pos admitted]

theorem Applies.movement {seatCeiling : Nat} {world next : GameWorld S} {command : Command S}
    (applies : Applies seatCeiling world command next) :
    next.matchState.movement = world.matchState.movement := by
  cases applies with
  | despawned | alreadyEmbodied | judged | lobbyClosed | lobbyChanged | joined => rfl
  | spawned command created drawn controllables bodiless draws =>
    obtain ⟨rest, -, -, rfl⟩ := GameWorld.createEntity_eq_ok draws
    rfl
  | left command => rw [GameWorld.applyLeave_matchState]
  | recorded => rw [GameWorld.recordCommand_matchState]

section Pass

variable {world : GameWorld S} {batch : InputBatch S} {seatCeiling : Nat} {decisionTick : TickSequence}
  {entryRevision : Nat}

/-- What a pass that judged `judgements` so far carries. -/
structure IntakePass.Judges (world : GameWorld S) (decisionTick : TickSequence)
    (judgements : List (Judgement S)) (pass : IntakePass S) : Prop where
  movement : pass.world.matchState.movement = world.matchState.movement
  decisions : pass.decisions =
    judgements.map (Judgement.decision decisionTick world.matchState.movement.revision)
  winner : pass.winner = (winningJudgement judgements).map fun judged => (judged.1.1, judged.2)

namespace IntakePass

theorem Judges.judge {judgements : List (Judgement S)} {pass : IntakePass S}
    (judges : pass.Judges world decisionTick judgements) (tuning : SetMovementTuningCommand S) :
    (pass.judge decisionTick world.matchState.movement.revision tuning).Judges world decisionTick
      (judgements ++ [(tuning, tuningStatus pass.world world.matchState.movement.revision tuning)]) := by
  refine ⟨judges.movement, ?_, ?_⟩
  · rw [List.map_append, ← judges.decisions]
    rfl
  · have counted : pass.decisions.length = judgements.length := by rw [judges.decisions, List.length_map]
    rw [winningJudgement, List.zipIdx_append, Nat.zero_add, List.zipIdx_singleton, latest_concat]
    simp only [IntakePass.judge, counted, judges.winner]
    split
    · rfl
    · rfl

theorem Judges.command {judgements : List (Judgement S)} {pass next : IntakePass S}
    {command : Command S} (judges : pass.Judges world decisionTick judgements)
    (applied : pass.applyCommand seatCeiling decisionTick world.matchState.movement.revision command =
      .ok next) :
    next.Judges world decisionTick (judgements ++ (command.tuningRequest.map fun tuning =>
      (tuning, tuningStatus pass.world world.matchState.movement.revision tuning)).toList) := by
  obtain ⟨applies, ⟨tuning, rfl, rfl⟩ | ⟨untuned, decisions, winner⟩⟩ := applyCommand_applies applied
  · exact judges.judge tuning
  · have kept : next.Judges world decisionTick judgements :=
      ⟨applies.movement.trans judges.movement, decisions.trans judges.decisions,
        winner.trans judges.winner⟩
    rwa [Command.tuningRequest_eq_none untuned, Option.map_none, Option.toList_none, List.append_nil]

end IntakePass

/-- The status a batch's tuning command is judged to have at its position. -/
def statusAt (world : GameWorld S) (batch : InputBatch S) (seatCeiling : Nat)
    (decisionTick : TickSequence) (entry : Nat × SetMovementTuningCommand S) :
    MovementTuningDecisionStatus :=
  match passBefore world batch seatCeiling decisionTick entry.1 with
  | .ok pass => IntakePass.tuningStatus pass.world world.matchState.movement.revision entry.2
  | .error _ => .notSeated

def judgementsOf (world : GameWorld S) (batch : InputBatch S) (seatCeiling : Nat)
    (decisionTick : TickSequence) (entries : List (Nat × SetMovementTuningCommand S)) :
    List (Judgement S) :=
  entries.map fun entry => (entry.2, statusAt world batch seatCeiling decisionTick entry)

theorem passBefore_judges {position : Nat} {pass : IntakePass S}
    (reached : passBefore world batch seatCeiling decisionTick position = .ok pass) :
    pass.Judges world decisionTick (judgementsOf world batch seatCeiling decisionTick
      (tuningEntries (batch.commands.take position))) := by
  induction position generalizing pass with
  | zero =>
    cases reached
    exact ⟨rfl, rfl, rfl⟩
  | succ position ih =>
    obtain ⟨earlier, before⟩ := passBefore_of_le (Nat.le_succ position) reached
    cases found : batch.commands[position]? with
    | none =>
      have beyond := List.getElem?_eq_none_iff.mp found
      have same : batch.commands.take (position + 1) = batch.commands.take position := by
        rw [List.take_add_one, found, Option.toList_none, List.append_nil]
      rw [passBefore, same] at reached
      rw [same]
      exact ih reached
    | some command =>
      have within := (List.getElem?_eq_some_iff.mp found).1
      rw [passBefore_succ found before] at reached
      have judged : (command.tuningRequest.map fun tuning => (position, tuning)).toList.map
            (fun entry => (entry.2, statusAt world batch seatCeiling decisionTick entry)) =
          (command.tuningRequest.map fun tuning => (tuning,
            IntakePass.tuningStatus earlier.world world.matchState.movement.revision tuning)).toList := by
        cases command.tuningRequest with
        | none => rfl
        | some tuning => simp only [Option.map_some, Option.toList_some, List.map_cons, List.map_nil,
            statusAt, before]
      rw [List.take_add_one, found, Option.toList_some, tuningEntries_concat, judgementsOf,
        List.map_append, List.length_take_of_le (Nat.le_of_lt within), judged]
      exact (ih before).command reached

/-- The committed record and the reported decisions, in terms of the winning judgement. -/
theorem IntakePass.Judges.close {judgements : List (Judgement S)} {pass : IntakePass S}
    (judges : pass.Judges world decisionTick judgements) {next : GameWorld S}
    {decisions : List MovementTuningDecision}
    (closes : (next, decisions) = pass.close decisionTick world.matchState.movement.revision) :
    next.matchState.movement = (match winningJudgement judgements with
      | none => world.matchState.movement
      | some judged => { world.matchState.movement with
          current := judged.1.1.tuning
          revision := world.matchState.movement.revision + 1
          effectiveTick := decisionTick }) ∧
      ∀ index : Nat, decisions[index]? = judgements[index]?.map fun judged =>
        { judged.decision decisionTick next.matchState.movement.revision with
          status := if (winningJudgement judgements).map Prod.snd = some index then .applied
            else judged.2 } := by
  unfold IntakePass.close at closes
  rw [judges.winner] at closes
  cases winner : winningJudgement judgements with
  | none =>
    rw [winner] at closes
    cases closes
    refine ⟨judges.movement, fun index => ?_⟩
    rw [judges.decisions, List.map_map, List.getElem?_map, Option.map_none]
    rfl
  | some judged =>
    rw [winner] at closes
    cases closes
    refine ⟨?_, fun index => ?_⟩
    · simp only [GameWorld.withMatch, judges.movement]
    · rw [List.getElem?_map, List.getElem?_modify, judges.decisions, List.getElem?_map]
      cases judgements[index]? with
      | none => rfl
      | some other =>
        by_cases same : judged.2 = index <;> simp [same, Judgement.decision, GameWorld.withMatch]

/-- A tuning command that, at its position in the pass, is seated, current and admitted. -/
def StandsAt (world : GameWorld S) (batch : InputBatch S) (seatCeiling : Nat)
    (decisionTick : TickSequence) (entry : Nat × SetMovementTuningCommand S) : Prop :=
  ∃ pass, passBefore world batch seatCeiling decisionTick entry.1 = .ok pass ∧
    pass.world.matchState.seats.holdsSeat entry.2.controller = true ∧
    entry.2.expectedRevision = world.matchState.movement.revision ∧
    world.matchState.movement.admits entry.2.tuning = true

theorem statusAt_superseded {entry : Nat × SetMovementTuningCommand S} :
    statusAt world batch seatCeiling decisionTick entry = .superseded ↔
      world.matchState.movement.revision < maximumProtocolSafeInteger ∧
        StandsAt world batch seatCeiling decisionTick entry := by
  unfold statusAt StandsAt
  split
  · next pass reached =>
    rw [IntakePass.tuningStatus_superseded, (passBefore_judges reached).movement, reached]
    constructor
    · rintro ⟨room, seated, expected, admitted⟩
      exact ⟨room, pass, rfl, seated, expected, admitted⟩
    · rintro ⟨room, other, ⟨⟩, seated, expected, admitted⟩
      exact ⟨room, seated, expected, admitted⟩
  · next refusal failed =>
    constructor
    · exact fun impossible => by cases impossible
    · rintro ⟨-, pass, reached, -⟩
      cases failed.symm.trans reached

theorem statusAt_ne_applied (entry : Nat × SetMovementTuningCommand S) :
    statusAt world batch seatCeiling decisionTick entry ≠ .applied := by
  unfold statusAt
  split
  · exact IntakePass.tuningStatus_ne_applied _ _ _
  · exact fun impossible => by cases impossible

section Batch

variable {next : GameWorld S} {decisions : List MovementTuningDecision}

/-- What phase 0 commits and reports, in terms of the winner among the batch's entries. -/
theorem applyInputBatch_judged
    (applied : applyInputBatch world batch seatCeiling decisionTick = .ok (next, decisions)) :
    ∃ pass : IntakePass S, pass.Judges world decisionTick
        (judgementsOf world batch seatCeiling decisionTick (tuningEntries batch.commands)) ∧
      (next, decisions) = pass.close decisionTick world.matchState.movement.revision := by
  obtain ⟨pass, passed, closes⟩ := applyInputBatch_eq_ok applied
  have reached : passBefore world batch seatCeiling decisionTick batch.commands.length = .ok pass := by
    rw [passBefore, List.take_length]
    exact passed
  have judges := passBefore_judges reached
  rw [List.take_length] at judges
  exact ⟨pass, judges, closes⟩

theorem entry_of_decision
    (applied : applyInputBatch world batch seatCeiling decisionTick = .ok (next, decisions))
    {index : Nat} {decision : MovementTuningDecision} (found : decisions[index]? = some decision) :
    ∃ entry, (tuningEntries batch.commands)[index]? = some entry ∧
      decision = ⟨entry.2.controller, entry.2.tuningRequestId, decision.status, decisionTick,
        next.matchState.movement.revision⟩ ∧
      (decision.status = .applied → ∃ judged, winningJudgement
        (judgementsOf world batch seatCeiling decisionTick (tuningEntries batch.commands)) =
          some (judged, index)) := by
  obtain ⟨pass, judges, closes⟩ := applyInputBatch_judged applied
  rw [(judges.close closes).2, judgementsOf, List.getElem?_map, Option.map_map,
    Option.map_eq_some_iff] at found
  obtain ⟨entry, foundEntry, rfl⟩ := found
  refine ⟨entry, foundEntry, rfl, fun status => ?_⟩
  dsimp only [Function.comp_apply] at status
  split at status
  · next won =>
    obtain ⟨⟨judged, position⟩, winner, rfl⟩ := Option.map_eq_some_iff.mp won
    exact ⟨judged, winner⟩
  · exact absurd status (statusAt_ne_applied entry)

theorem winner_applied
    (applied : applyInputBatch world batch seatCeiling decisionTick = .ok (next, decisions))
    {judged : Judgement S} {index : Nat} (winner : winningJudgement
      (judgementsOf world batch seatCeiling decisionTick (tuningEntries batch.commands)) =
        some (judged, index)) : ∃ decision ∈ decisions, decision.status = .applied := by
  obtain ⟨pass, judges, closes⟩ := applyInputBatch_judged applied
  have found := (judges.close closes).2 index
  rw [(winningJudgement_eq_some.mp winner).1, winner, Option.map_some, Option.map_some, if_pos rfl] at found
  exact ⟨_, List.mem_of_getElem? found, rfl⟩

end Batch

end Pass

/-- One tick of the register: the entry record, the batch, what is reported and what is committed. -/
structure RegisterTick (world : GameWorld S) (batch : InputBatch S) (seatCeiling : Nat)
    (decisionTick : TickSequence) (decisions : List MovementTuningDecision)
    (committed : MovementTuningState S) : Prop where
  /-- One decision per tuning command, in batch order. -/
  inOrder : decisions.map (fun decision => (decision.controller, decision.tuningRequestId)) =
    (tuningEntries batch.commands).map fun entry => (entry.2.controller, entry.2.tuningRequestId)
  stamped : ∀ decision ∈ decisions,
    decision.decisionTick = decisionTick ∧ decision.revision = committed.revision
  /-- The applied decision is the last standing entry's, and its tuning is committed. -/
  applied : ∀ (index : Nat) decision, decisions[index]? = some decision → decision.status = .applied →
    ∃ entry, (tuningEntries batch.commands)[index]? = some entry ∧
      StandsAt world batch seatCeiling decisionTick entry ∧
      (∀ (later : Nat) other, index < later → (tuningEntries batch.commands)[later]? = some other →
        ¬ StandsAt world batch seatCeiling decisionTick other) ∧
      world.matchState.movement.revision < maximumProtocolSafeInteger ∧
      committed = { world.matchState.movement with
        current := entry.2.tuning
        revision := world.matchState.movement.revision + 1
        effectiveTick := decisionTick }
  chosen : world.matchState.movement.revision < maximumProtocolSafeInteger →
    (∃ entry ∈ tuningEntries batch.commands, StandsAt world batch seatCeiling decisionTick entry) →
    ∃ decision ∈ decisions, decision.status = .applied
  unchanged : (∀ decision ∈ decisions, decision.status ≠ .applied) →
    committed = world.matchState.movement

theorem applyInputBatch_register {world next : GameWorld S} {batch : InputBatch S} {seatCeiling : Nat}
    {decisionTick : TickSequence} {decisions : List MovementTuningDecision}
    (applied : applyInputBatch world batch seatCeiling decisionTick = .ok (next, decisions)) :
    RegisterTick world batch seatCeiling decisionTick decisions next.matchState.movement := by
  obtain ⟨pass, judges, closes⟩ := applyInputBatch_judged applied
  obtain ⟨movement, reported⟩ := judges.close closes
  refine ⟨?_, ?_, ?_, ?_, ?_⟩
  · refine List.ext_getElem? fun index => ?_
    rw [List.getElem?_map, List.getElem?_map, reported, judgementsOf, List.getElem?_map, Option.map_map,
      Option.map_map]
    rfl
  · intro decision member
    obtain ⟨index, found⟩ := List.getElem?_of_mem member
    obtain ⟨entry, -, same, -⟩ := entry_of_decision applied found
    rw [same]
    exact ⟨rfl, rfl⟩
  · intro index decision found status
    obtain ⟨entry, foundEntry, -, won⟩ := entry_of_decision applied found
    obtain ⟨judged, winner⟩ := won status
    obtain ⟨foundJudged, stands, newest⟩ := winningJudgement_eq_some.mp winner
    rw [judgementsOf, List.getElem?_map, foundEntry, Option.map_some] at foundJudged
    cases foundJudged
    obtain ⟨room, standing⟩ := statusAt_superseded.mp stands
    refine ⟨entry, foundEntry, standing, ?_, room, ?_⟩
    · intro later other beyond foundOther standsOther
      have foundLater : (judgementsOf world batch seatCeiling decisionTick
          (tuningEntries batch.commands))[later]? =
          some (other.2, statusAt world batch seatCeiling decisionTick other) := by
        rw [judgementsOf, List.getElem?_map, foundOther, Option.map_some]
      have bound := newest later _ foundLater (statusAt_superseded.mpr ⟨room, standsOther⟩)
      exact Nat.not_le_of_lt beyond bound
    · rw [movement, winner]
  · rintro room ⟨entry, member, standing⟩
    have judged : (entry.2, statusAt world batch seatCeiling decisionTick entry) ∈
        judgementsOf world batch seatCeiling decisionTick (tuningEntries batch.commands) :=
      List.mem_map_of_mem member
    obtain ⟨⟨winner, index⟩, won⟩ := Option.isSome_iff_exists.mp
      (winningJudgement_isSome judged (statusAt_superseded.mpr ⟨room, standing⟩))
    exact winner_applied applied won
  · intro unapplied
    cases winner : winningJudgement
        (judgementsOf world batch seatCeiling decisionTick (tuningEntries batch.commands)) with
    | none => rw [movement, winner]
    | some judged =>
      obtain ⟨decision, member, status⟩ := winner_applied applied winner
      exact absurd status (unapplied decision member)

namespace RegisterTick

variable {world : GameWorld S} {batch : InputBatch S} {seatCeiling : Nat} {decisionTick : TickSequence}
  {decisions : List MovementTuningDecision} {committed : MovementTuningState S}

theorem unique (register : RegisterTick world batch seatCeiling decisionTick decisions committed)
    {first second : Nat} {left right : MovementTuningDecision} (foundLeft : decisions[first]? = some left)
    (foundRight : decisions[second]? = some right) (leftApplied : left.status = .applied)
    (rightApplied : right.status = .applied) : first = second := by
  obtain ⟨entry, found, stands, newest, -⟩ := register.applied first left foundLeft leftApplied
  obtain ⟨other, foundOther, standsOther, newestOther, -⟩ :=
    register.applied second right foundRight rightApplied
  obtain before | same | after := Nat.lt_trichotomy first second
  · exact (newest second other before foundOther standsOther).elim
  · exact same
  · exact (newestOther first entry after found stands).elim

theorem expected (register : RegisterTick world batch seatCeiling decisionTick decisions committed)
    {index : Nat} {decision : MovementTuningDecision} {entry : Nat × SetMovementTuningCommand S}
    (found : decisions[index]? = some decision) (applied : decision.status = .applied)
    (foundEntry : (tuningEntries batch.commands)[index]? = some entry) :
    entry.2.expectedRevision = world.matchState.movement.revision := by
  obtain ⟨answered, foundAnswered, ⟨pass, -, -, expected, -⟩, -⟩ :=
    register.applied index decision found applied
  cases foundEntry.symm.trans foundAnswered
  exact expected

theorem advances (register : RegisterTick world batch seatCeiling decisionTick decisions committed)
    {decision : MovementTuningDecision} (member : decision ∈ decisions)
    (applied : decision.status = .applied) :
    committed.revision = world.matchState.movement.revision + 1 := by
  obtain ⟨index, found⟩ := List.getElem?_of_mem member
  obtain ⟨entry, -, -, -, -, same⟩ := register.applied index decision found applied
  rw [same]

theorem monotone (register : RegisterTick world batch seatCeiling decisionTick decisions committed) :
    world.matchState.movement.revision ≤ committed.revision := by
  by_cases applied : ∃ decision ∈ decisions, decision.status = .applied
  · obtain ⟨decision, member, applied⟩ := applied
    rw [register.advances member applied]
    exact Nat.le_succ _
  · rw [register.unchanged fun decision member status => applied ⟨decision, member, status⟩]

end RegisterTick

namespace GameSimulation

/-- A tick of a simulation, labeled with its batch and the decisions it reports. -/
def Reports (sim : GameSimulation S) (label : InputBatch S × List MovementTuningDecision)
    (next : GameSimulation S) : Prop :=
  sim.step label.1 = .ok (next, label.2)

/-- The register's tick inside a tick of the simulation. -/
def Registers (sim : GameSimulation S) (label : InputBatch S × List MovementTuningDecision)
    (next : GameSimulation S) : Prop :=
  RegisterTick (sim.world.openTick label.1.entityIdReservation) label.1 sim.map.spawnPoints.length
    next.tickSequence label.2 next.world.matchState.movement

variable {sim next : GameSimulation S} {label : InputBatch S × List MovementTuningDecision}

theorem Reports.registers (step : sim.Reports label next)
    (keeps : sim.systemPipeline.Keeps MatchState.movement) :
    sim.Registers label next ∧ next.systemPipeline = sim.systemPipeline := by
  obtain ⟨trace, traces, rfl, reported⟩ := step_eq_ok.mp step
  obtain ⟨tick, traced⟩ := trace_eq_ok traces
  obtain ⟨pipeline, -, clock, -⟩ := traced.frame
  have register := applyInputBatch_register traced.intake
  rw [← traced.keeps keeps fun _ _ => rfl, ← clock, reported] at register
  exact ⟨register, pipeline⟩

section Runs

variable {length : Nat} (run : Run (@Reports S _) length)
  (keeps : (run.state 0).systemPipeline.Keeps MatchState.movement)
include run keeps

theorem registers_of_run {position : Nat} (within : position < length) :
    (run.state position).Registers (run.label position) (run.state (position + 1)) := by
  have kept := run.invariant (P := fun sim => sim.systemPipeline.Keeps MatchState.movement) keeps
    fun held step => (Reports.registers step held).2 ▸ held
  exact ((run.steps position within).registers (kept position (Nat.le_of_lt within))).1

/-- Movement tuning along a run: every tick is a register tick, and no expected revision wins twice. -/
theorem movement_tuning_register :
    (∀ position, position < length →
      (run.state position).Registers (run.label position) (run.state (position + 1)) ∧
      (∀ (first second : Nat) left right, (run.label position).2[first]? = some left →
        (run.label position).2[second]? = some right → left.status = .applied →
        right.status = .applied → first = second) ∧
      ((∃ decision ∈ (run.label position).2, decision.status = .applied) →
        (run.state (position + 1)).world.matchState.movement.revision =
          (run.state position).world.matchState.movement.revision + 1)) ∧
    ∀ first second, first < length → second < length → ∀ (left right : Nat) decision other entry rival,
      (run.label first).2[left]? = some decision → decision.status = .applied →
      (tuningEntries (run.label first).1.commands)[left]? = some entry →
      (run.label second).2[right]? = some other → other.status = .applied →
      (tuningEntries (run.label second).1.commands)[right]? = some rival →
      entry.2.expectedRevision = rival.2.expectedRevision → first = second ∧ left = right := by
  have registers {position : Nat} := @registers_of_run S _ length run keeps position
  have raises : ∀ first second, first < second → second < length → ∀ decision ∈ (run.label first).2,
      decision.status = .applied → (run.state first).world.matchState.movement.revision <
        (run.state second).world.matchState.movement.revision := by
    intro first second before within decision member status
    have advanced := (registers (Nat.lt_trans before within)).advances member status
    refine run.persists (P := fun sim => (run.state first).world.matchState.movement.revision <
      sim.world.matchState.movement.revision) before (Nat.le_of_lt within) ?_ ?_
    · rw [advanced]
      exact Nat.lt_succ_self _
    · intro position _ upper held _
      exact Nat.lt_of_lt_of_le held (registers (Nat.lt_trans upper within)).monotone
  refine ⟨fun position within => ⟨registers within, ?_, ?_⟩, ?_⟩
  · intro first second left right foundLeft foundRight leftApplied rightApplied
    exact (registers within).unique foundLeft foundRight leftApplied rightApplied
  · rintro ⟨decision, member, status⟩
    exact (registers within).advances member status
  · intro first second withinFirst withinSecond left right decision other entry rival found applied
      foundEntry foundOther appliedOther foundRival same
    rw [(registers withinFirst).expected found applied foundEntry,
      (registers withinSecond).expected foundOther appliedOther foundRival] at same
    obtain before | rfl | after := Nat.lt_trichotomy first second
    · exact absurd same (Nat.ne_of_lt (raises first second before withinSecond decision
        (List.mem_of_getElem? found) applied))
    · exact ⟨rfl, (registers withinFirst).unique found foundOther applied appliedOther⟩
    · exact absurd same (Nat.ne_of_gt (raises second first after withinFirst other
        (List.mem_of_getElem? foundOther) appliedOther))

end Runs

def seatedRoom : GameSimulation ℚ :=
  { oneCellSimulation [] with
    world := (GameWorld.empty 0).withSeats oneTakenSeat }

def firstTuning : InputBatch ℚ where
  commands := [.setMovementTuning ⟨.first, 1, 0, .defaults⟩]
  entityIdReservation := .none
  ascending := List.pairwise_singleton _ _
  wellFormed := by
    intro command member
    obtain rfl := List.mem_singleton.mp member
    exact ⟨by decide, by decide, by decide⟩

theorem movement_tuning_register_first_tuning :
    ∃ next decisions, seatedRoom.step firstTuning = .ok (next, decisions) ∧
      next.world.matchState.movement.revision = 1 := by
  have applies : (match seatedRoom.step firstTuning with
    | .ok (_, decisions) => decisions.any fun decision => decision.status = .applied
    | .error _ => false) = true := by decide +kernel
  split at applies
  · next next decisions stepped =>
    obtain ⟨decision, member, status⟩ := List.any_eq_true.mp applies
    let run : Run (@Reports ℚ _) 1 := @Run.single _ _ _ seatedRoom next (firstTuning, decisions) stepped
    have register := movement_tuning_register run fun staged member => by cases member
    exact ⟨next, decisions, stepped,
      (register.1 0 Nat.one_pos).2.2 ⟨decision, member, of_decide_eq_true status⟩⟩
  · cases applies

end GameSimulation

end BlobRoyale.Simulation
