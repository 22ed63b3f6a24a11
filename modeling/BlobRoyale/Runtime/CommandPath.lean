import BlobRoyale.Library.Transition
import BlobRoyale.Runtime.CommandSink
import BlobRoyale.Runtime.MailboxAccounting
import BlobRoyale.Simulation.IntakeProvision

/-!
# The command path of a runtime

Any number of sessions submit and close while one worker ticks. A step is one critical section, so
a run is one interleaving: a submission or a close may stand between its two halves for as long as
the other threads please, and the worker drains, reserves, applies and completes in separate steps.
-/

namespace BlobRoyale.Runtime

open BlobRoyale.Simulation

variable {S : Type} [Scalar S]

/-- `first_session_controller_id`: above every controller of the committed world. -/
def firstSessionControllerId (world : GameWorld S) : Nat :=
  world.controllables.entries.foldl (fun floor entry => max floor (entry.2.controllerId.value + 1))
    minimumEntityId

theorem le_firstSessionControllerId (world : GameWorld S) :
    minimumEntityId ≤ firstSessionControllerId world := by
  have rises : ∀ (entries : List (EntityId × Controllable S)) floor, floor ≤
      entries.foldl (fun floor entry => max floor (entry.2.controllerId.value + 1)) floor := by
    intro entries
    induction entries with
    | nil => exact fun floor => Nat.le_refl floor
    | cons entry rest ih => exact fun floor => Nat.le_trans (Nat.le_max_left _ _) (ih _)
  exact rises _ _

/-- Where the worker stands inside its tick. -/
inductive Worker (S : Type) [Scalar S] where
  | idle
  | drained (commands : List (Command S))
  | taking (batch : InputBatch S)
  | decided (decisions : List MovementTuningDecision)

/-- The commands the worker has drained and not applied yet. -/
def Worker.commands : Worker S → List (Command S)
  | drained commands => commands
  | taking batch => batch.commands
  | idle | decided _ => []

structure CommandPath (S : Type) [Scalar S] where
  sink : CommandSink S
  world : GameWorld S
  worker : Worker S
  /-- Submissions past their checks and not in the mailbox yet. -/
  submitting : List (ControllerId × Command S)
  /-- Closes whose registration is retired and whose directory entry is still there. -/
  closing : List ControllerId

/-- What the rest of a tick may do to the world phase 0 left: create entities from what remains of
the reservation, and neither link a controller to an entity nor seat one. -/
structure RestOfTick (taken committed : GameWorld S) : Prop where
  created : ∀ entity, committed.contains entity = true →
    taken.contains entity = true ∨ taken.reservation.contains entity = true
  linked : ∀ entity controller, committed.controllerOf entity = some controller →
    taken.controllerOf entity = some controller
  seated : ∀ controller, committed.matchState.seats.holdsSeat controller = true →
    taken.matchState.seats.holdsSeat controller = true

theorem RestOfTick.refl (taken : GameWorld S) : RestOfTick taken taken :=
  ⟨fun _ live => .inl live, fun _ _ linked => linked, fun _ seated => seated⟩

inductive PathAction (S : Type) [Scalar S] where
  | openSession (controllerKind displayName : List UInt8)
  | precheck (controller : ControllerId) (command : Command S)
  | insert (controller : ControllerId) (command : Command S) (now : Int)
  | retire (controller : ControllerId)
  | unlist (controller : ControllerId)
  | claim (controller : ControllerId) (coveringSnapshotTick : TickSequence)
  | drain
  | reserve
  | apply
  | complete

namespace CommandPath

/-- The path of a freshly constructed `SimulationRuntime`. -/
def start (sim : GameSimulation S) (npcCatalogue : NpcCatalogue) : Validated (CommandPath S) := do
  let entityIdAllocator ← EntityIdAllocator.aboveCommittedState sim
  return {
    sink := {
      mailbox := .create sim.acceptedCommandKinds
      controllerDirectory := .empty
      entityIdAllocator := entityIdAllocator
      nextControllerId := firstSessionControllerId sim.world
      npcCatalogue := npcCatalogue
      issuable := le_firstSessionControllerId sim.world }
    world := sim.world
    worker := .idle
    submitting := []
    closing := [] }

abbrev mailbox (path : CommandPath S) : CommandMailbox S := path.sink.mailbox

def withMailbox (path : CommandPath S) (mailbox : CommandMailbox S) : CommandPath S :=
  { path with sink := { path.sink with mailbox := mailbox } }

inductive Step (path : CommandPath S) : PathAction S → CommandPath S → Prop where
  | opened (controllerKind displayName : List UInt8) :
      Step path (.openSession controllerKind displayName)
        { path with sink := (path.sink.openSession controllerKind displayName).2 }
  | admitted (controller : ControllerId) (command : Command S)
      (verdict : path.sink.precheck controller command = .ok .accepted) :
      Step path (.precheck controller command)
        { path with submitting := (controller, command) :: path.submitting }
  | refused (controller : ControllerId) (command : Command S) (result : CommandSubmissionResult)
      (verdict : path.sink.precheck controller command = .ok result) (refusal : result ≠ .accepted) :
      Step path (.precheck controller command) path
  | inserted (controller : ControllerId) (command : Command S) (now : Int)
      (submitting : (controller, command) ∈ path.submitting) :
      Step path (.insert controller command now)
        { path with
          sink := (path.sink.insert command now).2
          submitting := path.submitting.erase (controller, command) }
  | retired (controller : ControllerId) (registered : (path.sink.retire controller).1 = true) :
      Step path (.retire controller)
        { path with sink := (path.sink.retire controller).2, closing := controller :: path.closing }
  | unknown (controller : ControllerId) (unregistered : (path.sink.retire controller).1 = false) :
      Step path (.retire controller) path
  | unlisted (controller : ControllerId) (closing : controller ∈ path.closing) :
      Step path (.unlist controller)
        { path with
          sink := path.sink.unlist controller
          closing := path.closing.erase controller }
  | claimed (controller : ControllerId) (coveringSnapshotTick : TickSequence) :
      Step path (.claim controller coveringSnapshotTick)
        (path.withMailbox (path.mailbox.claimTuningResult controller coveringSnapshotTick).2)
  | drains (idle : path.worker = .idle) :
      Step path .drain
        { path.withMailbox path.mailbox.drain.2 with worker := .drained path.mailbox.drain.1 }
  | reserves (commands : List (Command S)) (reservation : EntityIdReservation)
      (allocator : EntityIdAllocator) (batch : InputBatch S)
      (drained : path.worker = .drained commands)
      (reserved : path.sink.entityIdAllocator.reserveForTick (spawnCommandCount commands) =
        .ok (reservation, allocator))
      (created : InputBatch.create commands path.mailbox.acceptedKinds reservation = .ok batch) :
      Step path .reserve
        { path with
          sink := { path.sink with entityIdAllocator := allocator }
          worker := .taking batch }
  | applied (batch : InputBatch S) (seatCeiling : Nat) (tick : TickSequence)
      (taken committed : GameWorld S) (decisions : List MovementTuningDecision)
      (taking : path.worker = .taking batch)
      (intake : applyInputBatch (path.world.openTick batch.entityIdReservation) batch seatCeiling tick =
        .ok (taken, decisions))
      (rest : RestOfTick taken committed) :
      Step path .apply { path with world := committed, worker := .decided decisions }
  | completes (decisions : List MovementTuningDecision) (decided : path.worker = .decided decisions) :
      Step path .complete
        { path.withMailbox (path.mailbox.completeTuningDecisions decisions) with worker := .idle }

/-- One step, with nothing after phase 0, when the action is possible. -/
def attempt (seatCeiling : Nat) (tick : TickSequence) (path : CommandPath S) :
    PathAction S → Option (CommandPath S)
  | .openSession controllerKind displayName =>
      some { path with sink := (path.sink.openSession controllerKind displayName).2 }
  | .precheck controller command =>
      match path.sink.precheck controller command with
      | .ok .accepted => some { path with submitting := (controller, command) :: path.submitting }
      | .ok _ => some path
      | .error _ => none
  | .insert controller command now =>
      if (controller, command) ∈ path.submitting then
        some { path with
          sink := (path.sink.insert command now).2
          submitting := path.submitting.erase (controller, command) }
      else none
  | .retire controller =>
      if (path.sink.retire controller).1 then
        some { path with sink := (path.sink.retire controller).2, closing := controller :: path.closing }
      else some path
  | .unlist controller =>
      if controller ∈ path.closing then
        some { path with sink := path.sink.unlist controller, closing := path.closing.erase controller }
      else none
  | .claim controller coveringSnapshotTick =>
      some (path.withMailbox (path.mailbox.claimTuningResult controller coveringSnapshotTick).2)
  | .drain =>
      match path.worker with
      | .idle => some { path.withMailbox path.mailbox.drain.2 with worker := .drained path.mailbox.drain.1 }
      | _ => none
  | .reserve =>
      match path.worker with
      | .drained commands =>
          match path.sink.entityIdAllocator.reserveForTick (spawnCommandCount commands) with
          | .ok (reservation, allocator) =>
              match InputBatch.create commands path.mailbox.acceptedKinds reservation with
              | .ok batch => some { path with
                  sink := { path.sink with entityIdAllocator := allocator }
                  worker := .taking batch }
              | .error _ => none
          | .error _ => none
      | _ => none
  | .apply =>
      match path.worker with
      | .taking batch =>
          match applyInputBatch (path.world.openTick batch.entityIdReservation) batch seatCeiling tick with
          | .ok (taken, decisions) => some { path with world := taken, worker := .decided decisions }
          | .error _ => none
      | _ => none
  | .complete =>
      match path.worker with
      | .decided decisions =>
          some { path.withMailbox (path.mailbox.completeTuningDecisions decisions) with worker := .idle }
      | _ => none

theorem step_of_attempt {path next : CommandPath S} {action : PathAction S} {seatCeiling : Nat}
    {tick : TickSequence} (attempted : path.attempt seatCeiling tick action = some next) :
    path.Step action next := by
  cases action with
  | openSession controllerKind displayName =>
    cases attempted
    exact .opened controllerKind displayName
  | precheck controller command =>
    dsimp only [attempt] at attempted
    split at attempted
    · next verdict =>
      cases attempted
      exact .admitted controller command verdict
    · next result refusal verdict =>
      cases attempted
      exact .refused controller command result verdict fun same => refusal same
    · cases attempted
  | insert controller command now =>
    dsimp only [attempt] at attempted
    split at attempted
    · next submitting =>
      cases attempted
      exact .inserted controller command now submitting
    · cases attempted
  | retire controller =>
    dsimp only [attempt] at attempted
    split at attempted
    · next registered =>
      cases attempted
      exact .retired controller registered
    · next unregistered =>
      cases attempted
      exact .unknown controller (Bool.eq_false_iff.mpr unregistered)
  | unlist controller =>
    dsimp only [attempt] at attempted
    split at attempted
    · next closing =>
      cases attempted
      exact .unlisted controller closing
    · cases attempted
  | claim controller coveringSnapshotTick =>
    cases attempted
    exact .claimed controller coveringSnapshotTick
  | drain =>
    dsimp only [attempt] at attempted
    split at attempted
    · next idle =>
      cases attempted
      exact .drains idle
    · cases attempted
  | reserve =>
    dsimp only [attempt] at attempted
    split at attempted
    · next commands drained =>
      split at attempted
      · next reservation allocator reserved =>
        split at attempted
        · next batch created =>
          cases attempted
          exact .reserves commands reservation allocator batch drained reserved created
        · cases attempted
      · cases attempted
    · cases attempted
  | apply =>
    dsimp only [attempt] at attempted
    split at attempted
    · next batch taking =>
      split at attempted
      · next taken decisions intake =>
        cases attempted
        exact .applied batch seatCeiling tick taken taken decisions taking intake (.refl taken)
      · cases attempted
    · cases attempted
  | complete =>
    dsimp only [attempt] at attempted
    split at attempted
    · next decisions decided =>
      cases attempted
      exact .completes decisions decided
    · cases attempted

/-- The run of a list of actions, each possible where it comes. -/
def runOf (seatCeiling : Nat) (tick : TickSequence) (begin : CommandPath S)
    (action : Nat → PathAction S) (length : Nat)
    (possible : ∀ position, position < length →
      ((Transition.trajectory (fun path action => (path.attempt seatCeiling tick action).getD path) begin
        action position).attempt seatCeiling tick (action position)).isSome = true) :
    Transition.Run (@Step S _) length where
  state := Transition.trajectory (fun path action => (path.attempt seatCeiling tick action).getD path) begin
    action
  label := action
  steps position before := by
    obtain ⟨next, attempted⟩ := Option.isSome_iff_exists.mp (possible position before)
    rw [Transition.trajectory, attempted]
    exact step_of_attempt attempted

/-- How a step uses the mailbox: for nothing, or for one operation the action explains. -/
inductive Uses (path : CommandPath S) (action : PathAction S) (next : CommandPath S) : Prop where
  | nothing (same : next.mailbox = path.mailbox)
  | operates (operation : MailboxOperation S)
      (applied : next.mailbox = path.mailbox.apply operation)
      (drains : operation = .drain → action = .drain)
      (registers : ∀ controller, operation = .registerController controller →
        controller.value = path.sink.nextControllerId ∧
          path.sink.nextControllerId < next.sink.nextControllerId)
      (submits : ∀ command, operation.submission = some command →
        (∃ controller now, action = .insert controller command now ∧
          (controller, command) ∈ path.submitting) ∨
        ∃ controller, action = .retire controller ∧ command = .leave ⟨controller⟩)

theorem Step.uses {path next : CommandPath S} {action : PathAction S} (step : path.Step action next) :
    path.Uses action next := by
  cases step with
  | opened controllerKind displayName =>
    have opens := path.sink.openSession_opens controllerKind displayName
    obtain same | ⟨controller, issued, advances, registered⟩ := opens.mailbox
    · exact .nothing same
    · refine .operates (.registerController controller) registered (fun same => by cases same) ?_ ?_
      · rintro _ ⟨⟩
        exact ⟨issued, advances⟩
      · intro command submitted
        cases submitted
  | admitted | refused | unknown | unlisted | reserves | applied => exact .nothing rfl
  | inserted controller command now submitting =>
    refine .operates (.submit command now) rfl (fun same => by cases same) (fun _ same => by cases same) ?_
    rintro _ ⟨⟩
    exact .inl ⟨controller, now, rfl, submitting⟩
  | retired controller registered =>
    refine .operates (.retireController controller) rfl (fun same => by cases same)
      (fun _ same => by cases same) ?_
    rintro _ ⟨⟩
    exact .inr ⟨controller, rfl, rfl⟩
  | claimed controller tick =>
    exact .operates (.claimTuningResult controller tick) rfl (fun same => by cases same)
      (fun _ same => by cases same) (fun _ same => by cases same)
  | drains =>
    exact .operates .drain rfl (fun _ => rfl) (fun _ same => by cases same) (fun _ same => by cases same)
  | completes decisions =>
    exact .operates (.completeTuningDecisions decisions) rfl (fun same => by cases same)
      (fun _ same => by cases same) (fun _ same => by cases same)

theorem Step.issues {path next : CommandPath S} {action : PathAction S} (step : path.Step action next) :
    path.sink.nextControllerId ≤ next.sink.nextControllerId := by
  cases step with
  | opened controllerKind displayName => exact (path.sink.openSession_opens controllerKind displayName).issues
  | _ => exact Nat.le_refl _

theorem Step.accounted {path next : CommandPath S} {action : PathAction S} (step : path.Step action next)
    (accounted : Accounted path.mailbox) : Accounted next.mailbox := by
  cases step.uses with
  | nothing same => exact same ▸ accounted
  | operates operation applied => exact applied ▸ accounted.apply operation

theorem Step.registered {path next : CommandPath S} {action : PathAction S} (step : path.Step action next)
    {controller : ControllerId} (registered : controller ∈ next.mailbox.registeredControllers) :
    controller ∈ path.mailbox.registeredControllers ∨
      (controller.value = path.sink.nextControllerId ∧
        path.sink.nextControllerId < next.sink.nextControllerId) := by
  cases step.uses with
  | nothing same => exact .inl (same ▸ registered)
  | operates operation applied drains registers =>
    rw [applied] at registered
    obtain same | ⟨other, rfl, -, -, added⟩ | ⟨other, -, -, removed⟩ :=
      registeredControllers_apply path.mailbox operation
    · exact .inl (same ▸ registered)
    · rw [added] at registered
      obtain kept | fresh := List.mem_append.mp registered
      · exact .inl kept
      · obtain rfl := List.mem_singleton.mp fresh
        exact .inr (registers controller rfl)
    · rw [removed] at registered
      exact .inl ((List.eraseP_sublist.map _).subset registered)

section OneCell

/-- The path of a runtime over an empty one-cell arena. -/
def oneCellPath : CommandPath ℚ :=
  ⟨⟨.create .all, .empty, ⟨1⟩, 1, .empty, Nat.le_refl 1⟩, .empty 0, .idle, [], []⟩

theorem oneCellPath_start : start (GameSimulation.oneCellSimulation []) .empty = .ok oneCellPath := by
  rw [start, EntityIdAllocator.aboveCommittedState,
    show (GameSimulation.oneCellSimulation []).world.entities = [] from GameWorld.entities_empty 0]
  rfl

def firstSpawn : Command ℚ := .spawn ⟨.first⟩

end OneCell

end CommandPath

end BlobRoyale.Runtime
