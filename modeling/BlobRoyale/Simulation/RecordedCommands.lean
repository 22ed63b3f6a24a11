import BlobRoyale.Simulation.InputBatch
import BlobRoyale.Simulation.IntakeEffects

/-!
# Canonical input batches

A batch is a function of what was last submitted for each kind and identity: the order of other commands does
not reach it, and a batch submitted again is itself.
-/

namespace BlobRoyale.Simulation

open LastWriter

variable {S : Type} [Scalar S]

namespace Command

/-- What a command is for: its kind, and the one identity it addresses. -/
def addressee (command : Command S) : CommandKind × AddressedIdentity := (command.kind, command.addressedIdentity)

theorem slot_eq_iff {first second : Command S} : first.slot = second.slot ↔ first.addressee = second.addressee := by
  simp only [slot, addressee, Prod.mk.injEq]
  refine and_congr_right fun sameKind => ⟨fun sameKey => ?_, fun same => congrArg _ same⟩
  cases first <;> cases second <;> cases sameKind
  all_goals first
    | exact congrArg AddressedIdentity.ofController (Identity.ext_value sameKey)
    | exact congrArg AddressedIdentity.ofEntity (Identity.ext_value sameKey)

end Command

theorem latest_slot_congr {first second : List (Command S)} (members : first.Perm second)
    (ordered : ∀ addressee, first.filter (fun command => command.addressee = addressee) =
      second.filter fun command => command.addressee = addressee) (slot : CommandKind × Nat) :
    latest Command.slot slot first = latest Command.slot slot second := by
  by_cases occurs : ∃ command ∈ second, command.slot = slot
  · obtain ⟨command, -, rfl⟩ := occurs
    have named : ∀ other : Command S, decide (other.slot = command.slot) =
        decide (other.addressee = command.addressee) := fun other => decide_eq_decide.mpr Command.slot_eq_iff
    simp only [latest, named, ordered]
  · have absent {commands : List (Command S)} (within : ∀ command ∈ commands, command ∈ second) :
        latest Command.slot slot commands = none := by
      rw [latest, List.filter_eq_nil_iff.mpr, List.getLast?_nil]
      intro command listed same
      exact occurs ⟨command, within command listed, of_decide_eq_true same⟩
    rw [absent fun command => members.mem_iff.mp, absent fun command => id]

theorem slots_nodup {commands : List (Command S)}
    (ascending : commands.Pairwise fun first second => first.position < second.position) :
    (commands.map Command.slot).Nodup := by
  rw [List.Nodup, List.pairwise_map]
  exact ascending.imp fun less same => less.ne (Command.position_eq_iff.mpr same)

theorem canonicalCommands_canonicalCommands (commands : List (Command S)) :
    canonicalCommands (canonicalCommands commands) = canonicalCommands commands := by
  refine eq_of_ascending (canonicalCommands_ascending _) (canonicalCommands_ascending _) fun command => ?_
  rw [mem_canonicalCommands, latest_eq_some_iff (slots_nodup (canonicalCommands_ascending commands))]
  exact and_iff_left rfl

namespace InputBatch

variable {commands : List (Command S)} {acceptedKinds : CommandKindMask} {reservation : EntityIdReservation}
variable {batch : InputBatch S}

/-- A batch holds, in ascending order, the last command submitted for each kind and identity, whatever the
order of the others, and it is the batch of its own commands. -/
theorem create_canonicalises (created : create commands acceptedKinds reservation = .ok batch) :
    (batch.commands.Pairwise fun first second => first.position < second.position) ∧
      (∀ submitted ∈ commands, ∃! kept, kept ∈ batch.commands ∧ kept.addressee = submitted.addressee) ∧
      (∀ kept, kept ∈ batch.commands ↔ ∃ index : Nat, commands[index]? = some kept ∧
        ∀ (later : Nat) (other : Command S), commands[later]? = some other → other.addressee = kept.addressee →
          later ≤ index) ∧
      (∀ reordered : List (Command S), reordered.Perm commands →
        (∀ addressee, reordered.filter (fun command => command.addressee = addressee) =
          commands.filter fun command => command.addressee = addressee) →
        create reordered acceptedKinds reservation = .ok batch) ∧
      create batch.commands acceptedKinds reservation = .ok batch := by
  obtain ⟨within, valid, kept, reserved⟩ := create_eq_ok.mp created
  have members (command : Command S) : command ∈ batch.commands ↔
      latest Command.slot command.slot commands = some command := by rw [kept, mem_canonicalCommands]
  refine ⟨batch.ascending, fun submitted listed => ?_, fun command => ?_, fun reordered perm ordered => ?_, ?_⟩
  · obtain ⟨newest, found⟩ : ∃ newest, latest Command.slot submitted.slot commands = some newest :=
      exists_latest listed
    have slots : newest.slot = submitted.slot := key_of_latest found
    refine ⟨newest, ⟨(members newest).mpr (slots ▸ found), Command.slot_eq_iff.mp slots⟩, ?_⟩
    rintro other ⟨held, same⟩
    have found' := (members other).mp held
    rw [Command.slot_eq_iff.mpr same] at found'
    exact Option.some.inj (found'.symm.trans found)
  · rw [members, latest_eq_some_iff_getElem?]
    simp only [true_and, Command.slot_eq_iff]
  · rw [create_eq_ok, perm.length_eq]
    refine ⟨within, fun command listed => valid command (perm.mem_iff.mp listed), ?_, reserved⟩
    rw [kept, canonicalCommands_congr (latest_slot_congr perm ordered)]
  · rw [create_eq_ok, kept]
    refine ⟨?_, fun command listed => valid command (mem_of_mem_canonicalCommands listed), ?_, reserved⟩
    · have bounded : (canonicalCommands commands).length ≤ commands.length := by
        have slots : (canonicalCommands commands) ⊆ commands := fun command => mem_of_mem_canonicalCommands
        exact ((slots_nodup (canonicalCommands_ascending commands)).of_map _ |>.subperm slots).length_le
      exact Nat.le_trans bounded within
    · rw [canonicalCommands_canonicalCommands]

def departure : List (Command ℚ) := [.leave ⟨.first⟩, .startMatch ⟨.first⟩, .leave ⟨.first⟩]

theorem create_canonicalises_departure :
    ∃ batch, create departure .all .none = .ok batch ∧ create batch.commands .all .none = .ok batch := by
  have accepted : ∀ command ∈ departure, CommandKindMask.all.contains command.kind = true ∧
      command.WellFormed .none := by
    simp only [departure, List.forall_mem_cons, CommandKindMask.all_contains, Command.WellFormed, List.not_mem_nil,
      false_implies, implies_true, and_self]
  obtain ⟨batch, created⟩ := exists_create_eq_ok.mpr ⟨by decide, accepted⟩
  exact ⟨batch, created, (create_canonicalises created).2.2.2.2⟩

end InputBatch

end BlobRoyale.Simulation

/-!
# Recorded commands

Phase 0 records on each controller link the batch's commands for its entity, in the batch's order. A batch holds
at most one of each kind for an entity, and so does a record.
-/

namespace BlobRoyale.Simulation

variable {S : Type} [Scalar S]

def Controllable.RecordsOnce (link : Controllable S) : Prop := (link.commandsThisTick.map Command.kind).Nodup

/-- Every record is part of the commands for its entity among those applied. -/
def GameWorld.Recorded (world : GameWorld S) (applied : List (Command S)) : Prop :=
  ∀ entity link, world.controllables.find entity = some link →
    link.commandsThisTick.Sublist (applied.filter fun command => command.addressedIdentity.entity = some entity)

theorem Command.orderingKey_of_entity {command : Command S} {entity : EntityId}
    (addressed : command.addressedIdentity.entity = some entity) :
    command.addressedIdentity.orderingKey = entity.value := by
  have entity_key (identity : AddressedIdentity) (target : EntityId) (isEntity : identity = .ofEntity target)
      (named : identity.entity = some entity) : identity.orderingKey = entity.value := by
    subst isEntity
    cases named
    rfl
  cases command with
  | spawn => cases addressed
  | setSeatCount => cases addressed
  | clearSeat => cases addressed
  | seatNpc => cases addressed
  | startMatch => cases addressed
  | leave => cases addressed
  | join => cases addressed
  | setMovementTuning => cases addressed
  | despawn command => exact entity_key _ _ rfl addressed
  | thrust command => exact entity_key _ _ rfl addressed
  | shield command => exact entity_key _ _ rfl addressed
  | charge command => exact entity_key _ _ rfl addressed
  | rotateVelocity command => exact entity_key _ _ rfl addressed

theorem GameWorld.Recorded.recordsOnce {world : GameWorld S} {applied : List (Command S)}
    (recorded : world.Recorded applied) (distinct : (applied.map Command.slot).Nodup) {entity : EntityId}
    {link : Controllable S} (linked : world.controllables.find entity = some link) : link.RecordsOnce := by
  have own := (recorded entity link linked)
  have slots : (link.commandsThisTick.map Command.slot).Nodup :=
    distinct.sublist ((own.trans (List.filter_sublist)).map Command.slot)
  refine List.Nodup.map_on (fun first firstMember second secondMember kinds => ?_) slots.of_map
  have addressed (command : Command S) (member : command ∈ link.commandsThisTick) :
      command.addressedIdentity.orderingKey = entity.value :=
    Command.orderingKey_of_entity (of_decide_eq_true (List.mem_filter.mp (own.subset member)).2)
  refine List.inj_on_of_nodup_map slots firstMember secondMember ?_
  rw [Command.slot, Command.slot, kinds, addressed first firstMember, addressed second secondMember]

theorem Recorded.keeps {world next : GameWorld S} {applied : List (Command S)} {command : Command S}
    (recorded : world.Recorded applied) (fewer : ∀ entity link, next.controllables.find entity = some link →
      world.controllables.find entity = some link ∨ link.commandsThisTick = []) :
    next.Recorded (applied ++ [command]) := by
  intro entity link linked
  rw [List.filter_append]
  obtain same | empty := fewer entity link linked
  · exact (recorded entity link same).trans (List.sublist_append_left _ _)
  · rw [empty]
    exact List.nil_sublist _

theorem Applies.recorded_concat {seatCeiling : Nat} {world next : GameWorld S} {command : Command S}
    {applied : List (Command S)} (applies : Applies seatCeiling world command next)
    (recorded : world.Recorded applied) : next.Recorded (applied ++ [command]) := by
  cases applies with
  | despawned command =>
    refine Recorded.keeps recorded fun entity link linked => ?_
    rw [GameWorld.controllables, GameWorld.destroyEntity_find] at linked
    split at linked
    · cases linked
    · exact .inl linked
  | alreadyEmbodied command holds => exact Recorded.keeps recorded fun _ _ linked => .inl linked
  | spawned command created drawn controllables bodiless draws inserted =>
    refine Recorded.keeps recorded fun entity link linked => ?_
    obtain ⟨rest, -, -, rfl⟩ := GameWorld.createEntity_eq_ok draws
    rw [GameWorld.withControllables_controllables, ComponentStore.find_of_insertOrAssign inserted] at linked
    split at linked
    · cases linked
      exact .inr rfl
    · exact .inl linked
  | judged command => exact Recorded.keeps recorded fun _ _ linked => .inl linked
  | lobbyClosed command lobby phase => exact Recorded.keeps recorded fun _ _ linked => .inl linked
  | lobbyChanged command lobby phase seats changed => exact Recorded.keeps recorded fun _ _ linked => .inl linked
  | joined command seats changed => exact Recorded.keeps recorded fun _ _ linked => .inl linked
  | left command =>
    refine Recorded.keeps recorded fun entity link linked => ?_
    rw [GameWorld.applyLeave, GameWorld.controllables, GameWorld.withSeats, GameWorld.withMatch,
      GameWorld.destroyEntities_find] at linked
    split at linked
    · cases linked
    · exact .inl linked
  | recorded command addressed surviving =>
    intro entity link linked
    obtain ⟨target, named⟩ := Option.isSome_iff_exists.mp addressed
    simp only [GameWorld.recordCommand, named, GameWorld.withControllables_controllables,
      ComponentStore.find_modify] at linked
    rw [List.filter_append]
    split at linked
    · next same =>
      subst same
      obtain ⟨before, stored, rfl⟩ := Option.map_eq_some_iff.mp linked
      refine (recorded _ before stored).append ?_
      have kept : [command].filter (fun command => command.addressedIdentity.entity = some entity) = [command] :=
        List.filter_eq_self.mpr fun other member => by simpa [List.mem_singleton.mp member] using named
      rw [kept]
    · exact (recorded entity link linked).trans (List.sublist_append_left _ _)

theorem IntakePass.applyCommands_recorded {seatCeiling : Nat} {decisionTick : TickSequence} {entryRevision : Nat}
    {pass final : IntakePass S} {commands applied : List (Command S)}
    (passed : pass.applyCommands seatCeiling decisionTick entryRevision commands = .ok final)
    (recorded : pass.world.Recorded applied) : final.world.Recorded (applied ++ commands) := by
  induction commands generalizing pass applied with
  | nil =>
    cases passed
    rwa [List.append_nil]
  | cons command rest ih =>
    rw [applyCommands, List.foldlM_cons] at passed
    obtain ⟨middle, stepped, later⟩ := bind_eq_ok.mp passed
    rw [List.append_cons]
    exact ih later ((applyCommand_applies stepped).1.recorded_concat recorded)

theorem recordsOnce_of_applyInputBatch {world next : GameWorld S} {batch : InputBatch S} {seatCeiling : Nat}
    {decisionTick : TickSequence} {decisions : List MovementTuningDecision}
    (applied : applyInputBatch world batch seatCeiling decisionTick = .ok (next, decisions)) {entity : EntityId}
    {link : Controllable S} (linked : next.controllables.find entity = some link) : link.RecordsOnce := by
  obtain ⟨pass, passed, committed⟩ := applyInputBatch_eq_ok applied
  have cleared : (IntakePass.start world).world.Recorded [] := by
    intro other otherLink found
    rw [IntakePass.start, GameWorld.clearCommandsThisTick, GameWorld.withControllables_controllables,
      ComponentStore.find_mapValues] at found
    obtain ⟨before, -, rfl⟩ := Option.map_eq_some_iff.mp found
    exact List.Sublist.slnil
  have recorded := IntakePass.applyCommands_recorded passed cleared
  obtain ⟨movement, closed⟩ := pass.close_world decisionTick world.matchState.movement.revision
  rw [show next = _ from congrArg Prod.fst committed, closed] at linked
  exact recorded.recordsOnce (slots_nodup batch.ascending) linked

end BlobRoyale.Simulation
