import BlobRoyale.Runtime.CommandPath

/-!
# The boundary refuses what the engine would throw on

Every command that reaches the worker passed the sink's value rules, and the cursor only rises, so a
batch of drained commands is always well formed and its reservation always covers its spawns with
ids no live entity holds.
-/

namespace BlobRoyale.Simulation

variable {S : Type} [Scalar S]

theorem spawnCommandCount_canonicalCommands (commands : List (Command S)) :
    spawnCommandCount (canonicalCommands commands) ≤ spawnCommandCount commands := by
  have kept := (@LastWriter.lastOfRuns_sublist _ _ _ OrderedCommand.runKey
    (sortedCommands commands)).map OrderedCommand.command
  have sorted : ((sortedCommands commands).map OrderedCommand.command).Perm commands := by
    refine ((List.perm_insertionSort _ (orderedCommands commands)).map _).trans (.of_eq ?_)
    rw [orderedCommands, List.map_map]
    exact List.zipIdx_map_fst 0 commands
  exact Nat.le_trans kept.countP_le (Nat.le_of_eq (sorted.countP_eq _))

end BlobRoyale.Simulation

namespace BlobRoyale.Runtime

open BlobRoyale.Simulation Transition CommandMailbox

variable {S : Type} [Scalar S]

/-- What the boundary admits: the batch's value rules, and a despawn of an issued id only. -/
structure Admissible (cursor : Nat) (command : Command S) : Prop where
  wellFormed : command.WellFormed .none
  issued : ∀ despawn, command = .despawn despawn → despawn.entity.value < cursor

theorem Admissible.mono {cursor later : Nat} {command : Command S} (admissible : Admissible cursor command)
    (rises : cursor ≤ later) : Admissible later command :=
  ⟨admissible.wellFormed, fun despawn same => Nat.lt_of_lt_of_le (admissible.issued despawn same) rises⟩

theorem Admissible.suits {cursor : Nat} {command : Command S} (admissible : Admissible cursor command)
    {reservation : EntityIdReservation} (above : cursor ≤ reservation.first.value) :
    command.WellFormed reservation := by
  cases command with
  | despawn despawn =>
    refine Bool.eq_false_iff.mpr fun reserved => ?_
    have issued := admissible.issued despawn rfl
    have inside := (EntityIdReservation.contains_iff.mp reserved).1
    omega
  | _ => exact admissible.wellFormed

theorem admissible_leave (cursor : Nat) (controller : ControllerId) :
    Admissible cursor (.leave ⟨controller⟩ : Command S) :=
  ⟨trivial, fun despawn same => by cases same⟩

theorem admissible_of_accepted {sink : CommandSink S} {command : Command S}
    (accepted : sink.validateCommandValues command = .ok .accepted) :
    Admissible sink.entityIdAllocator.cursor command := by
  have settled : command.WellFormed .none → (∀ despawn, command ≠ .despawn despawn) →
      Admissible sink.entityIdAllocator.cursor command :=
    fun wellFormed other => ⟨wellFormed, fun despawn same => absurd same (other despawn)⟩
  cases command with
  | despawn despawn =>
    obtain ⟨next, opened, committed⟩ := bind_eq_ok.mp accepted
    have cursor := Identity.create_eq_ok.mp opened
    refine ⟨Bool.eq_false_iff.mpr fun reserved => ?_, ?_⟩
    · have inside := EntityIdReservation.contains_iff.mp reserved
      rw [EntityIdReservation.none_count] at inside
      omega
    · rintro _ ⟨⟩
      rw [← cursor]
      by_contra unissued
      rw [if_pos (Nat.le_of_not_lt unissued)] at committed
      cases committed
  | thrust thrust | charge thrust =>
    refine settled ?_ fun despawn same => by cases same
    dsimp only [CommandSink.validateCommandValues] at accepted
    split at accepted
    · cases accepted
    · next range =>
      split at accepted
      · cases accepted
      · next generation =>
        refine ⟨?_, generation⟩
        simpa using range
  | shield shield | rotateVelocity shield =>
    refine settled ?_ fun despawn same => by cases same
    dsimp only [CommandSink.validateCommandValues] at accepted
    split at accepted
    · cases accepted
    · next generation => exact generation
  | join join =>
    refine settled ?_ fun despawn same => by cases same
    dsimp only [CommandSink.validateCommandValues] at accepted
    split at accepted
    · cases accepted
    · next declared =>
      split at accepted
      · cases accepted
      · next range =>
        refine ⟨fun expected named => ?_, fun index named => ?_⟩
        · simpa [named, Option.isSome_iff_ne_none] using declared
        · simpa [named] using range
  | seatNpc seatNpc =>
    refine settled ?_ fun despawn same => by cases same
    dsimp only [CommandSink.validateCommandValues] at accepted
    split at accepted
    · cases accepted
    · next range => exact Nat.lt_of_not_le range
  | clearSeat clearSeat =>
    refine settled ?_ fun despawn same => by cases same
    dsimp only [CommandSink.validateCommandValues] at accepted
    split at accepted
    · cases accepted
    · next range => exact Nat.lt_of_not_le range
  | setSeatCount seatCount =>
    refine settled ?_ fun despawn same => by cases same
    dsimp only [CommandSink.validateCommandValues] at accepted
    split at accepted
    · cases accepted
    · next range =>
      show minimumSeatCount ≤ seatCount.seatCount ∧ seatCount.seatCount ≤ maximumSeatCount
      omega
  | setMovementTuning tuning =>
    refine settled ?_ fun despawn same => by cases same
    dsimp only [CommandSink.validateCommandValues] at accepted
    split at accepted
    · cases accepted
    · next request =>
      split at accepted
      · cases accepted
      · next revision =>
        show tuning.tuningRequestId ≠ 0 ∧ tuning.tuningRequestId ≤ maximumProtocolSafeInteger ∧
          tuning.expectedRevision ≤ maximumProtocolSafeInteger
        omega
  | spawn | startMatch | leave => exact settled trivial fun despawn same => by cases same

namespace CommandPath

variable {path next : CommandPath S} {action : PathAction S}

abbrev cursor (path : CommandPath S) : Nat := path.sink.entityIdAllocator.cursor

/-- What the worker holds is ready for the next step of its tick. -/
inductive Worker.Ready (path : CommandPath S) : Worker S → Prop where
  | idle : Ready path .idle
  | drained (commands : List (Command S)) (bounded : commands.length ≤ maximumMailboxCommandCount)
      (admitted : ∀ command ∈ commands, path.mailbox.acceptedKinds.contains command.kind = true ∧
        Admissible path.cursor command) : Ready path (.drained commands)
  | taking (batch : InputBatch S)
      (provisioned : (path.world.openTick batch.entityIdReservation).Provisioned
        (spawnCommandCount batch.commands) path.cursor) : Ready path (.taking batch)
  | decided (decisions : List MovementTuningDecision) : Ready path (.decided decisions)

/-- What holds along every run of the path. -/
structure Sound (path : CommandPath S) : Prop where
  accounted : Accounted path.mailbox
  positive : minimumEntityId ≤ path.cursor
  submitting : ∀ sender command, (sender, command) ∈ path.submitting → Admissible path.cursor command
  pending : ∀ command ∈ path.mailbox.pending, Admissible path.cursor command
  live : ∀ entity, path.world.contains entity = true → entity.value < path.cursor
  worker : Worker.Ready path path.worker

theorem sound_start {sim : GameSimulation S} {npcCatalogue : NpcCatalogue}
    (started : start sim npcCatalogue = .ok path) : path.Sound := by
  obtain ⟨allocator, opened, committed⟩ := bind_eq_ok.mp started
  cases committed
  refine ⟨accounted_create _, EntityIdAllocator.aboveCommittedState_positive opened, ?_, ?_, ?_, .idle⟩
  · intro sender command member
    cases member
  · intro command member
    cases member
  · exact fun entity live => EntityIdAllocator.aboveCommittedState_above opened live

theorem Step.acceptedKinds (step : path.Step action next) :
    next.mailbox.acceptedKinds = path.mailbox.acceptedKinds := by
  cases step.uses with
  | nothing same => rw [same]
  | operates operation applied => rw [applied, acceptedKinds_apply]

theorem Step.rises (step : path.Step action next) : path.cursor ≤ next.cursor := by
  cases step with
  | opened controllerKind displayName =>
    exact Nat.le_of_eq (congrArg EntityIdAllocator.cursor
      (path.sink.openSession_opens controllerKind displayName).entityIdAllocator.symm)
  | reserves commands reservation allocator batch drained reserved created =>
    rw [cursor, cursor, (EntityIdAllocator.reserveForTick_eq_ok reserved).2.2]
    exact Nat.le_add_right _ _
  | _ => exact Nat.le_refl _

theorem Worker.Ready.of_frame {worker : Worker S} (ready : Worker.Ready path worker)
    (kinds : next.mailbox.acceptedKinds = path.mailbox.acceptedKinds) (cursor : next.cursor = path.cursor)
    (world : next.world = path.world) : Worker.Ready next worker := by
  cases ready with
  | idle => exact .idle
  | drained commands bounded admitted =>
    refine .drained commands bounded ?_
    rw [kinds, cursor]
    exact admitted
  | taking batch provisioned =>
    refine .taking batch ?_
    rw [world, cursor]
    exact provisioned
  | decided decisions => exact .decided decisions

theorem provisioned_reserved {commands : List (Command S)} {reservation : EntityIdReservation}
    {allocator : EntityIdAllocator} {batch : InputBatch S} {acceptedKinds : CommandKindMask}
    (live : ∀ entity, path.world.contains entity = true → entity.value < path.cursor)
    (reserved : path.sink.entityIdAllocator.reserveForTick (spawnCommandCount commands) =
      .ok (reservation, allocator))
    (created : InputBatch.create commands acceptedKinds reservation = .ok batch) :
    (path.world.openTick batch.entityIdReservation).Provisioned (spawnCommandCount batch.commands)
      allocator.cursor := by
  obtain ⟨first, count, cursor⟩ := EntityIdAllocator.reserveForTick_eq_ok reserved
  obtain ⟨-, -, canonical, installed⟩ := InputBatch.create_eq_ok.mp created
  have opened : (path.world.openTick batch.entityIdReservation).reservation = reservation := installed
  have spawns := spawnCommandCount_canonicalCommands commands
  refine ⟨?_, ?_, ?_, ?_⟩
  · rw [opened, canonical]
    omega
  · intro _ entity held
    rw [opened, first]
    exact live entity held
  · intro _
    rw [opened]
    omega
  · intro entity held
    have before : entity.value < path.sink.entityIdAllocator.cursor := live entity held
    omega

theorem Sound.step (sound : path.Sound) (step : path.Step action next) : next.Sound := by
  have rises := step.rises
  have pending : ∀ command ∈ next.mailbox.pending, Admissible next.cursor command := by
    intro command member
    cases step.uses with
    | nothing same => exact (sound.pending command (same ▸ member)).mono rises
    | operates operation applied drains registers submits =>
      rw [applied] at member
      obtain submitted | kept := mem_pending_of_apply member
      · obtain ⟨sender, now, -, submitting⟩ | ⟨other, -, rfl⟩ := submits command submitted
        · exact (sound.submitting sender command submitting).mono rises
        · exact admissible_leave _ other
      · exact (sound.pending command kept).mono rises
  refine ⟨step.accounted sound.accounted, Nat.le_trans sound.positive rises, ?_, pending, ?_, ?_⟩
  · intro sender command member
    cases step with
    | admitted controller admitted verdict =>
      obtain same | kept := List.mem_cons.mp member
      · cases same
        unfold CommandSink.precheck at verdict
        split at verdict
        · cases verdict
        · split at verdict
          · cases verdict
          · exact admissible_of_accepted verdict
      · exact sound.submitting sender command kept
    | inserted controller inserted now =>
      exact sound.submitting sender command (List.mem_of_mem_erase member)
    | _ => exact (sound.submitting sender command member).mono rises
  · cases step with
    | applied batch seatCeiling tick taken committed decisions taking intake rest =>
      have ready := sound.worker
      rw [taking] at ready
      cases ready with
      | taking _ provisioned =>
        have left := applyInputBatch_provisioned provisioned intake
        intro entity held
        obtain before | reserved := rest.created entity held
        · exact left.below entity before
        · have inside := EntityIdReservation.contains_iff.mp reserved
          have within := left.within (by omega)
          show entity.value < path.cursor
          omega
    | _ => exact fun entity held => Nat.lt_of_lt_of_le (sound.live entity held) rises
  · have kinds := step.acceptedKinds
    cases step with
    | drains =>
      exact .drained _ sound.accounted.bounded fun command member =>
        ⟨sound.accounted.accepted command member, sound.pending command member⟩
    | reserves commands reservation allocator batch drained reserved created =>
      exact .taking batch (@provisioned_reserved _ _ path _ _ _ _ _ sound.live reserved created)
    | applied => exact .decided _
    | completes => exact .idle
    | opened controllerKind displayName =>
      exact sound.worker.of_frame kinds (congrArg EntityIdAllocator.cursor
        (path.sink.openSession_opens controllerKind displayName).entityIdAllocator) rfl
    | _ => exact sound.worker.of_frame kinds rfl rfl

section Runs

variable {length : Nat} {sim : GameSimulation S} {npcCatalogue : NpcCatalogue}

theorem sound_of_run (run : Run (@Step S _) length) (started : start sim npcCatalogue = .ok (run.state 0)) :
    ∀ position, position ≤ length → (run.state position).Sound :=
  run.invariant (sound_start started) fun sound step => sound.step step

/-- While ids remain, a drained tick gets its reservation and its batch, and phase 0 neither exhausts
the reservation nor draws a live id. -/
theorem boundary_refuses_what_engine_throws (run : Run (@Step S _) length)
    (started : start sim npcCatalogue = .ok (run.state 0)) {position : Nat} (within : position ≤ length) :
    let path := run.state position
    (∀ commands, path.worker = .drained commands →
      (path.cursor + spawnCommandCount commands + systemCreatedEntityHeadroom ≤ maximumEntityId + 1 →
        ∃ reservation allocator,
          path.sink.entityIdAllocator.reserveForTick (spawnCommandCount commands) =
            .ok (reservation, allocator)) ∧
      ∀ reservation allocator,
        path.sink.entityIdAllocator.reserveForTick (spawnCommandCount commands) =
          .ok (reservation, allocator) →
        ∃ batch, InputBatch.create commands path.mailbox.acceptedKinds reservation = .ok batch) ∧
    ∀ batch, path.worker = .taking batch →
      (∀ entity, batch.entityIdReservation.contains entity = true → path.world.contains entity = false) ∧
      ∀ seatCeiling tick refusal,
        applyInputBatch (path.world.openTick batch.entityIdReservation) batch seatCeiling tick =
          .error refusal →
        refusal.code = .componentStoreLimitExceeded := by
  have sound := sound_of_run run started position within
  have ready := sound.worker
  refine ⟨fun commands drained => ?_, fun batch taking => ?_⟩
  · rw [drained] at ready
    cases ready with
    | drained _ bounded admitted =>
      have spawns : spawnCommandCount commands ≤ commands.length := List.countP_le_length
      refine ⟨?_, fun reservation allocator reserved => ?_⟩
      · refine EntityIdAllocator.exists_reserveForTick sound.positive ?_
        calc spawnCommandCount commands + systemCreatedEntityHeadroom
            ≤ maximumMailboxCommandCount + systemCreatedEntityHeadroom :=
              Nat.add_le_add_right (Nat.le_trans spawns bounded) _
          _ ≤ maximumEntityIdReservationCount := by decide
      · have first := (EntityIdAllocator.reserveForTick_eq_ok reserved).1
        refine InputBatch.exists_create_eq_ok.mpr ⟨Nat.le_trans bounded (by decide), ?_⟩
        intro command member
        obtain ⟨accepted, admissible⟩ := admitted command member
        exact ⟨accepted, admissible.suits (Nat.le_of_eq first.symm)⟩
  · rw [taking] at ready
    cases ready with
    | taking _ provisioned =>
      refine ⟨fun entity reserved => Bool.eq_false_iff.mpr fun live => ?_, ?_⟩
      · have inside := EntityIdReservation.contains_iff.mp reserved
        have nonempty : batch.entityIdReservation.count ≠ 0 := by omega
        have below : entity.value < batch.entityIdReservation.first.value :=
          provisioned.fresh nonempty entity live
        omega
      · exact fun seatCeiling tick refusal refused => applyInputBatch_refusal provisioned refused

def spawnDrained : Nat → PathAction ℚ
  | 0 => .openSession [0x61] []
  | 1 => .precheck .first firstSpawn
  | 2 => .insert .first firstSpawn 0
  | _ => .drain

theorem boundary_refuses_what_engine_throws_spawn :
    ∃ reservation allocator,
      (⟨1⟩ : EntityIdAllocator).reserveForTick 1 = .ok (reservation, allocator) ∧
      ∃ batch, InputBatch.create [firstSpawn] .all reservation = .ok batch := by
  let run : Run (@Step ℚ _) 4 := runOf 0 .zero oneCellPath spawnDrained 4 (by decide +kernel)
  have safe := boundary_refuses_what_engine_throws run oneCellPath_start (Nat.le_refl 4)
  obtain ⟨reserves, creates⟩ := safe.1 [firstSpawn] rfl
  obtain ⟨reservation, allocator, reserved⟩ := reserves (by decide +kernel)
  exact ⟨reservation, allocator, reserved, creates reservation allocator reserved⟩

end Runs

end CommandPath

end BlobRoyale.Runtime
