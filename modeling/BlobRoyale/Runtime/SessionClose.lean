import Mathlib.Tactic.IntervalCases
import BlobRoyale.Runtime.CommandPath
import BlobRoyale.Simulation.SeatOwnership

/-!
# Closing a session

The Leave of a closing session follows everything the session queued before it, so the next batch
frees the world of the controller. Two insertions escape it: a Spawn or Join that enters the mailbox
after the Leave was drained, and a Leave the mailbox refuses.
-/

namespace BlobRoyale.Runtime

open BlobRoyale.Simulation Transition CommandMailbox

variable {S : Type} [Scalar S]

namespace CommandMailbox

/-- The mailbox would take the lifecycle command, in its slot, in a free one or over a victim. -/
def Fits (mailbox : CommandMailbox S) (command : Command S) : Prop :=
  mailbox.acceptedKinds.contains command.kind = true ∧
    (command.slot ∈ mailbox.slots ∨ mailbox.pending.length < maximumMailboxCommandCount ∨
      ∃ queued ∈ mailbox.pending, isEntityLifecycleCommand queued.kind = false)

/-- No pending command would give the controller a body or a seat. -/
def Unarriving (mailbox : CommandMailbox S) (controller : ControllerId) : Prop :=
  ∀ command ∈ mailbox.pending, command.arrivingController ≠ some controller

end CommandMailbox

theorem lifecycle_of_arrives {command : Command S} {controller : ControllerId}
    (arrives : command.arrivingController = some controller) :
    isEntityLifecycleCommand command.kind = true := by
  obtain spawn | join := Command.kind_of_arrives arrives
  · rw [spawn]
    rfl
  · rw [join]
    rfl

theorem Inserts.fits {mailbox next : CommandMailbox S} {command queued : Command S}
    {result : CommandSubmissionResult} (inserts : Inserts mailbox command result next)
    (member : queued ∈ next.pending) :
    queued ∈ mailbox.pending ∨ (queued = command ∧ mailbox.Fits command) := by
  obtain ⟨rfl, accepted⟩ | kept := inserts.mem_pending member
  · cases inserts with
    | unaccepted | lifecycleDropped | dropped => exact .inl member
    | superseded _ present => exact .inr ⟨rfl, accepted, .inl present⟩
    | appended _ _ room => exact .inr ⟨rfl, accepted, .inr (.inl room)⟩
    | evicted _ _ _ _ before victim after split _ evictable =>
        refine .inr ⟨rfl, accepted, .inr (.inr ⟨victim, ?_, evictable⟩)⟩
        rw [split]
        exact List.mem_append_right _ List.mem_cons_self
  · exact .inl kept

theorem mem_pending_apply {mailbox : CommandMailbox S} {operation : MailboxOperation S}
    {queued : Command S} (member : queued ∈ (mailbox.apply operation).pending)
    (lifecycle : isEntityLifecycleCommand queued.kind = true) :
    queued ∈ mailbox.pending ∨ (operation.submission = some queued ∧ mailbox.Fits queued) := by
  obtain submitted | kept := mem_pending_of_apply member
  · cases operation with
    | submit command now =>
        obtain rfl := Option.some.inj submitted
        obtain ⟨tuning, rfl, -⟩ | ⟨-, applied⟩ := submit_cases mailbox command now
        · cases lifecycle
        · rw [CommandMailbox.apply, applied] at member
          exact ((submitLocked_inserts mailbox.countSubmitted command).fits member).imp_right
            fun fits => ⟨rfl, fits.2⟩
    | submitTuning command now =>
        obtain rfl := Option.some.inj submitted
        cases lifecycle
    | retireController controller =>
        obtain rfl := Option.some.inj submitted
        obtain ⟨-, unknown⟩ | ⟨-, -, result, inserts⟩ := retireController_cases mailbox controller
        · exact .inl (by simpa only [CommandMailbox.apply, unknown] using member)
        · exact (inserts.fits member).imp_right fun fits => ⟨rfl, fits.2⟩
    | registerController | drain | completeTuningDecisions | claimTuningResult => cases submitted
  · exact .inl kept

theorem leave_mem_apply {mailbox : CommandMailbox S} (accounted : Accounted mailbox)
    {operation : MailboxOperation S} (undrained : operation ≠ .drain) {controller : ControllerId}
    (member : .leave ⟨controller⟩ ∈ mailbox.pending) :
    .leave ⟨controller⟩ ∈ (mailbox.apply operation).pending := by
  obtain kept | drained | ⟨newer, -, slot, index, found, replaced⟩ :=
    accounted.protects operation member rfl
  · exact kept
  · exact absurd drained undrained
  · obtain rfl := eq_leave_of_slot slot
    obtain ⟨within, -⟩ := List.getElem?_eq_some_iff.mp found
    rw [replaced]
    exact List.mem_set within _

/-- Whatever waits of a controller is followed by its Leave, or nothing of it waits and `rest` holds. -/
def Covered (mailbox : CommandMailbox S) (controller : ControllerId) (rest : Prop) : Prop :=
  .leave ⟨controller⟩ ∈ mailbox.pending ∨ (mailbox.Unarriving controller ∧ rest)

theorem Covered.apply {mailbox : CommandMailbox S} (accounted : Accounted mailbox)
    {operation : MailboxOperation S} (undrained : operation ≠ .drain) {controller : ControllerId}
    {rest : Prop} (covered : Covered mailbox controller rest)
    (guarded : ∀ command, operation.submission = some command →
      command.arrivingController = some controller → mailbox.Fits command →
      .leave ⟨controller⟩ ∈ mailbox.pending) :
    Covered (mailbox.apply operation) controller rest := by
  obtain leaves | ⟨none, rest⟩ := covered
  · exact .inl (leave_mem_apply accounted undrained leaves)
  · by_cases leaves : .leave ⟨controller⟩ ∈ mailbox.pending
    · exact .inl (leave_mem_apply accounted undrained leaves)
    · refine .inr ⟨fun command member arrives => ?_, rest⟩
      obtain kept | ⟨submitted, fits⟩ := mem_pending_apply member (lifecycle_of_arrives arrives)
      · exact none command kept arrives
      · exact leaves (guarded command submitted arrives fits)

theorem leave_mem_batch {commands : List (Command S)} {acceptedKinds : CommandKindMask}
    {reservation : EntityIdReservation} {batch : InputBatch S} {controller : ControllerId}
    (created : InputBatch.create commands acceptedKinds reservation = .ok batch)
    (leaves : .leave ⟨controller⟩ ∈ commands) : .leave ⟨controller⟩ ∈ batch.commands := by
  obtain ⟨-, -, canonical, -⟩ := InputBatch.create_eq_ok.mp created
  obtain ⟨newest, latest⟩ := @LastWriter.exists_latest _ _ _ Command.slot _ _ leaves
  obtain rfl := eq_leave_of_slot (LastWriter.key_of_latest latest)
  rw [canonical]
  exact mem_canonicalCommands.mpr latest

theorem RestOfTick.freeOf {taken committed : GameWorld S} {controller : ControllerId} (rest : RestOfTick taken committed)
    (free : taken.FreeOf controller) : committed.FreeOf controller := by
  refine ⟨fun entity linked => free.links entity (rest.linked entity controller linked), ?_⟩
  intro index sits
  obtain ⟨index, sits⟩ :=
    SeatRoster.holdsSeat_iff.mp (rest.seated controller (SeatRoster.holdsSeat_iff.mpr ⟨index, sits⟩))
  exact free.seats index sits

namespace CommandPath

variable {path next : CommandPath S} {action : PathAction S} {controller : ControllerId}

/-- A step that keeps a closing session covered: the Leave of a retirement fits, and a Spawn or Join
enters the mailbox under a live registration or ahead of its controller's Leave. -/
def Guards (path : CommandPath S) : PathAction S → Prop
  | .retire controller => controller ∈ path.mailbox.registeredControllers →
      path.mailbox.acceptedKinds.contains .leave = true ∧ LeaveFits path.mailbox controller
  | .insert _ command _ => ∀ controller, command.arrivingController = some controller →
      path.mailbox.Fits command →
      controller ∈ path.mailbox.registeredControllers ∨ .leave ⟨controller⟩ ∈ path.mailbox.pending
  | _ => True

/-- The worker holds no arrival of the controller and the world is free of it. -/
structure Clear (path : CommandPath S) (controller : ControllerId) : Prop where
  commands : ∀ command ∈ path.worker.commands, command.arrivingController ≠ some controller
  world : path.world.FreeOf controller

/-- What the worker holds ends with the controller gone. -/
def Settling (path : CommandPath S) (controller : ControllerId) : Prop :=
  .leave ⟨controller⟩ ∈ path.worker.commands ∨ path.Clear controller

theorem Settling.applied (settling : path.Settling controller) (step : path.Step .apply next) :
    next.Clear controller := by
  cases step with
  | applied batch seatCeiling tick taken committed decisions taking intake rest =>
    refine ⟨fun command member => (by cases member), rest.freeOf ?_⟩
    have held : path.worker.commands = batch.commands := by rw [taking]; rfl
    obtain leaves | clear := settling
    · exact applyInputBatch_freeOf_of_leave intake (held ▸ leaves)
    · exact applyInputBatch_freeOf intake ⟨clear.world.links, clear.world.seats⟩
        fun command member => clear.commands command (held ▸ member)

theorem Clear.step (clear : path.Clear controller) (step : path.Step action next)
    (none : path.mailbox.Unarriving controller) : next.Clear controller := by
  have kept := clear
  cases step with
  | opened | admitted | refused | inserted | retired | unknown | unlisted | claimed =>
    exact ⟨clear.commands, clear.world⟩
  | drains idle => exact ⟨none, clear.world⟩
  | reserves commands reservation allocator batch drained reserved created =>
    obtain ⟨-, -, canonical, -⟩ := InputBatch.create_eq_ok.mp created
    refine ⟨fun command member => clear.commands command ?_, clear.world⟩
    rw [drained]
    exact mem_of_mem_canonicalCommands (canonical ▸ member)
  | applied batch seatCeiling tick taken committed decisions taking intake rest =>
    exact Settling.applied (.inr kept)
      (.applied batch seatCeiling tick taken committed decisions taking intake rest)
  | completes => exact ⟨fun command member => (by cases member), clear.world⟩

theorem Settling.step (settling : path.Settling controller) (step : path.Step action next)
    (undrained : action ≠ .drain) : next.Settling controller := by
  have kept := settling
  cases step with
  | opened | admitted | refused | inserted | retired | unknown | unlisted | claimed =>
    exact settling.imp_right fun clear => ⟨clear.commands, clear.world⟩
  | drains => exact absurd rfl undrained
  | reserves commands reservation allocator batch drained reserved created =>
    have held : path.worker.commands = commands := by rw [drained]; rfl
    obtain leaves | clear := settling
    · exact .inl (leave_mem_batch created (held ▸ leaves))
    · obtain ⟨-, -, canonical, -⟩ := InputBatch.create_eq_ok.mp created
      refine .inr ⟨fun command member => clear.commands command ?_, clear.world⟩
      rw [held]
      exact mem_of_mem_canonicalCommands (canonical ▸ member)
  | applied batch seatCeiling tick taken committed decisions taking intake rest =>
    exact .inr (kept.applied
      (.applied batch seatCeiling tick taken committed decisions taking intake rest))
  | completes decisions decided =>
    obtain leaves | clear := settling
    · rw [decided] at leaves
      cases leaves
    · exact .inr ⟨fun command member => (by cases member), clear.world⟩

/-- A session whose registration was retired and whose Leave still covers what it queued. -/
structure Departing (path : CommandPath S) (controller : ControllerId) : Prop where
  unregistered : controller ∉ path.mailbox.registeredControllers
  issued : controller.value < path.sink.nextControllerId
  covered : Covered path.mailbox controller (path.Settling controller)

theorem unregistered_step (step : path.Step action next)
    (unregistered : controller ∉ path.mailbox.registeredControllers)
    (issued : controller.value < path.sink.nextControllerId) :
    controller ∉ next.mailbox.registeredControllers := by
  intro registered
  obtain kept | ⟨fresh, -⟩ := step.registered registered
  · exact unregistered kept
  · exact Nat.ne_of_lt issued fresh

theorem settling_drained (step : path.Step .drain next)
    (covered : Covered path.mailbox controller (path.Settling controller)) :
    next.Settling controller := by
  cases step with
  | drains idle =>
    obtain leaves | ⟨none, settling⟩ := covered
    · exact .inl leaves
    · obtain leaves | clear := settling
      · rw [idle] at leaves
        cases leaves
      · exact .inr ⟨none, clear.world⟩

theorem Departing.step (departing : path.Departing controller) (step : path.Step action next)
    (accounted : Accounted path.mailbox) (guarded : path.Guards action) : next.Departing controller := by
  refine ⟨unregistered_step step departing.unregistered departing.issued,
    Nat.lt_of_lt_of_le departing.issued step.issues, ?_⟩
  by_cases drain : action = .drain
  · subst drain
    refine .inr ⟨?_, settling_drained step departing.covered⟩
    cases step with
    | drains => exact fun command member => by cases member
  · have covered : Covered next.mailbox controller (path.Settling controller) := by
      cases step.uses with
      | nothing same => exact same ▸ departing.covered
      | operates operation applied drains registers submits =>
        rw [applied]
        refine departing.covered.apply accounted (fun same => drain (drains same)) ?_
        intro command submitted arrives fits
        obtain ⟨sender, now, rfl, -⟩ | ⟨other, -, rfl⟩ := submits command submitted
        · exact (guarded controller arrives fits).resolve_left departing.unregistered
        · cases arrives
    exact covered.imp_right fun held => ⟨held.1, held.2.step step drain⟩

theorem departing_retired (registered : (path.sink.retire controller).1 = true)
    (unique : path.mailbox.registeredControllers.Nodup)
    (issued : ∀ other ∈ path.mailbox.registeredControllers, other.value < path.sink.nextControllerId)
    (guarded : path.Guards (.retire controller)) {closing : List ControllerId} :
    { path with sink := (path.sink.retire controller).2, closing := closing }.Departing controller := by
  obtain ⟨-, unknown⟩ | ⟨found, -, result, inserts⟩ := retireController_cases path.mailbox controller
  · rw [CommandSink.retire, unknown] at registered
    cases registered
  · have member : controller ∈ path.mailbox.registeredControllers := by
      by_contra absent
      rw [findExchange, TuningExchange.find_eq_none_iff.mpr absent] at found
      cases found
    obtain ⟨accepts, fits⟩ := guarded member
    refine ⟨?_, issued controller member, .inl ((inserts.keeps_leave_iff accepts).mpr fits)⟩
    show controller ∉ (path.mailbox.retireController controller).2.registeredControllers
    rw [inserts.registeredControllers_eq]
    exact retiring_unregisters unique controller

/-- What holds along a guarded run. -/
structure Coherent (path : CommandPath S) : Prop where
  accounted : Accounted path.mailbox
  unique : path.mailbox.registeredControllers.Nodup
  issued : ∀ controller ∈ path.mailbox.registeredControllers,
    controller.value < path.sink.nextControllerId
  stamped : ∀ sender command, (sender, command) ∈ path.submitting →
    ∀ controller, command.stampedController = some controller → controller = sender
  departing : ∀ controller ∈ path.closing, path.Departing controller

theorem coherent_start {sim : GameSimulation S} {npcCatalogue : NpcCatalogue}
    (started : start sim npcCatalogue = .ok path) : path.Coherent := by
  obtain ⟨allocator, -, committed⟩ := bind_eq_ok.mp started
  cases committed
  refine ⟨accounted_create _, List.nodup_nil, ?_, ?_, ?_⟩
  · intro controller member
    cases member
  · intro sender command member
    cases member
  · intro controller member
    cases member

theorem stamped_of_admitted {sink : CommandSink S} {sender : ControllerId} {command : Command S}
    (verdict : sink.precheck sender command = .ok .accepted) :
    sink.controllerDirectory.contains sender = true ∧
      ∀ controller, command.stampedController = some controller → controller = sender := by
  unfold CommandSink.precheck at verdict
  split at verdict
  · cases verdict
  · next listed =>
    split at verdict
    · cases verdict
    · next own =>
      refine ⟨by simpa using listed, fun controller stamped => ?_⟩
      simpa [stamped] using own

theorem Coherent.step (coherent : path.Coherent) (step : path.Step action next)
    (guarded : path.Guards action) : next.Coherent := by
  have issued : ∀ controller ∈ next.mailbox.registeredControllers,
      controller.value < next.sink.nextControllerId := by
    intro controller registered
    obtain kept | ⟨fresh, advances⟩ := step.registered registered
    · exact Nat.lt_of_lt_of_le (coherent.issued controller kept) step.issues
    · exact fresh ▸ advances
  have unique : next.mailbox.registeredControllers.Nodup := by
    cases step.uses with
    | nothing same => exact same ▸ coherent.unique
    | operates operation applied => exact applied ▸ registeredControllers_nodup coherent.unique operation
  have departing : ∀ controller ∈ path.closing, next.Departing controller := fun controller member =>
    (coherent.departing controller member).step step coherent.accounted guarded
  refine ⟨step.accounted coherent.accounted, unique, issued, ?_, ?_⟩
  · cases step with
    | admitted controller command verdict =>
      intro sender other member
      obtain same | kept := List.mem_cons.mp member
      · cases same
        exact (stamped_of_admitted verdict).2
      · exact coherent.stamped sender other kept
    | inserted controller command now =>
      exact fun sender other member => coherent.stamped sender other (List.mem_of_mem_erase member)
    | _ => exact coherent.stamped
  · cases step with
    | retired controller registered =>
      intro other member
      obtain rfl | kept := List.mem_cons.mp member
      · exact departing_retired registered coherent.unique coherent.issued guarded
      · exact departing other kept
    | unlisted controller => exact fun other member => departing other (List.mem_of_mem_erase member)
    | _ => exact departing

/-- A closed session none of whose submissions is under way. -/
structure Quiet (path : CommandPath S) (controller : ControllerId) : Prop where
  issued : controller.value < path.sink.nextControllerId
  unlisted : path.sink.controllerDirectory.contains controller = false
  submitted : ∀ command, (controller, command) ∉ path.submitting

theorem unlisted_step (step : path.Step action next)
    (issued : controller.value < path.sink.nextControllerId)
    (unlisted : path.sink.controllerDirectory.contains controller = false) :
    next.sink.controllerDirectory.contains controller = false := by
  rw [← Bool.not_eq_true] at unlisted ⊢
  intro listed
  cases step with
  | opened controllerKind displayName =>
    obtain ⟨fresh, -⟩ | kept := (path.sink.openSession_opens controllerKind displayName).lists _ listed
    · exact Nat.ne_of_lt issued fresh
    · exact unlisted kept
  | unlisted other =>
    have kept : (path.sink.controllerDirectory.close other).2.contains controller = true := listed
    rw [ControllerDirectory.contains_close, Bool.and_eq_true] at kept
    exact unlisted kept.2
  | _ => exact unlisted listed

theorem Quiet.step (quiet : path.Quiet controller) (step : path.Step action next) :
    next.Quiet controller := by
  refine ⟨Nat.lt_of_lt_of_le quiet.issued step.issues,
    unlisted_step step quiet.issued quiet.unlisted, ?_⟩
  cases step with
  | admitted sender command verdict =>
    intro other member
    obtain same | kept := List.mem_cons.mp member
    · cases same
      have listed := (stamped_of_admitted verdict).1
      rw [quiet.unlisted] at listed
      cases listed
    · exact quiet.submitted other kept
  | inserted sender command now =>
    exact fun other member => quiet.submitted other (List.mem_of_mem_erase member)
  | _ => exact quiet.submitted

theorem Quiet.unarriving (quiet : path.Quiet controller) (coherent : path.Coherent)
    (step : path.Step action next) (none : path.mailbox.Unarriving controller) :
    next.mailbox.Unarriving controller := by
  cases step.uses with
  | nothing same => exact same ▸ none
  | operates operation applied drains registers submits =>
    intro command member arrives
    rw [applied] at member
    obtain kept | ⟨submitted, -⟩ := mem_pending_apply member (lifecycle_of_arrives arrives)
    · exact none command kept arrives
    · obtain ⟨sender, now, -, submitting⟩ | ⟨other, -, rfl⟩ := submits command submitted
      · obtain rfl := coherent.stamped sender command submitting controller
          (Command.stampedController_of_arrives arrives)
        exact quiet.submitted command submitting
      · cases arrives

/-- A quiet controller whose last commands are in the worker's hands. -/
structure Leaving (path : CommandPath S) (controller : ControllerId) : Prop extends
    path.Quiet controller where
  unarriving : path.mailbox.Unarriving controller
  settling : path.Settling controller

theorem Leaving.step (leaving : path.Leaving controller) (coherent : path.Coherent)
    (step : path.Step action next) : next.Leaving controller := by
  refine ⟨leaving.toQuiet.step step, leaving.toQuiet.unarriving coherent step leaving.unarriving, ?_⟩
  by_cases drain : action = .drain
  · subst drain
    exact settling_drained step (.inr ⟨leaving.unarriving, leaving.settling⟩)
  · exact leaving.settling.step step drain

section Runs

variable {length : Nat} {sim : GameSimulation S} {npcCatalogue : NpcCatalogue}

theorem coherent_of_run (run : Run (@Step S _) length) (started : start sim npcCatalogue = .ok (run.state 0))
    (guarded : ∀ position, position < length → (run.state position).Guards (run.label position)) :
    ∀ position, position ≤ length → (run.state position).Coherent :=
  run.invariant_of_steps (coherent_start started) fun position before coherent =>
    coherent.step (run.steps position before) (guarded position before)

theorem unlisted_of_returned (run : Run (@Step S _) length) {returned last : Nat}
    (closes : run.label returned = .unlist controller) (later : returned < last) (within : last ≤ length)
    (issued : controller.value < (run.state (returned + 1)).sink.nextControllerId) :
    controller.value < (run.state last).sink.nextControllerId ∧
      (run.state last).sink.controllerDirectory.contains controller = false := by
  refine run.persists (P := fun path => controller.value < path.sink.nextControllerId ∧
    path.sink.controllerDirectory.contains controller = false) later within ⟨issued, ?_⟩ ?_
  · have step := run.steps returned (Nat.lt_of_lt_of_le later within)
    rw [closes] at step
    generalize run.state (returned + 1) = next at step
    cases step with
    | unlisted _ closing =>
      show (((run.state returned).sink.controllerDirectory.close controller).2).contains controller = false
      rw [ControllerDirectory.contains_close, decide_eq_false (not_not_intro rfl), Bool.false_and]
  · rintro position - - ⟨issued, unlisted⟩ step
    exact ⟨Nat.lt_of_lt_of_le issued step.issues, unlisted_step step issued unlisted⟩

/-- Once a close has returned, no submission of its session is under way, and the mailbox has been
drained and applied again, the world is free of the controller from then on. -/
theorem closed_session_leaves_nothing (run : Run (@Step S _) length)
    (started : start sim npcCatalogue = .ok (run.state 0))
    (guarded : ∀ position, position < length → (run.state position).Guards (run.label position))
    {returned quiet drained applied : Nat} (closes : run.label returned = .unlist controller)
    (afterReturn : returned < quiet) (idle : ∀ command, (controller, command) ∉ (run.state quiet).submitting)
    (afterQuiet : quiet ≤ drained) (drains : run.label drained = .drain)
    (afterDrain : drained < applied) (applies : run.label applied = .apply) (within : applied < length) :
    ∀ position, applied < position → position ≤ length →
      (run.state position).world.FreeOf controller := by
  have coherent := coherent_of_run run started guarded
  have drainedWithin : drained < length := Nat.lt_trans afterDrain within
  have quietWithin : quiet ≤ length := Nat.le_trans afterQuiet (Nat.le_of_lt drainedWithin)
  have returnedWithin : returned < length := Nat.lt_of_lt_of_le afterReturn quietWithin
  -- the close found the registration retired, and its departure stays covered
  have closing : controller ∈ (run.state returned).closing := by
    have step := run.steps returned returnedWithin
    rw [closes] at step
    generalize run.state (returned + 1) = next at step
    cases step with
    | unlisted _ closing => exact closing
  have departing : ∀ last, returned ≤ last → last ≤ length → (run.state last).Departing controller := by
    intro last later bound
    refine run.persists (P := (·.Departing controller)) later bound
      ((coherent returned (Nat.le_of_lt returnedWithin)).departing controller closing) ?_
    intro position lower upper held step
    have before := Nat.lt_of_lt_of_le upper bound
    exact held.step step (coherent position (Nat.le_of_lt before)).accounted (guarded position before)
  obtain ⟨issued, unlisted⟩ := unlisted_of_returned run closes afterReturn quietWithin
    (departing (returned + 1) (Nat.le_succ returned) returnedWithin).issued
  have stays : (run.state drained).Quiet controller :=
    run.persists (P := (·.Quiet controller)) afterQuiet (Nat.le_of_lt drainedWithin)
      ⟨issued, unlisted, idle⟩ fun position _ _ held step => held.step step
  -- the drain hands the worker all that is left of the session
  have leaving : (run.state (drained + 1)).Leaving controller := by
    have step := run.steps drained drainedWithin
    rw [drains] at step
    refine ⟨stays.step step, ?_, settling_drained step (departing drained
      (Nat.le_trans (Nat.le_of_lt afterReturn) afterQuiet) (Nat.le_of_lt drainedWithin)).covered⟩
    generalize run.state (drained + 1) = next at step
    cases step with
    | drains => exact fun command member => by cases member
  have reaches : ∀ last, drained < last → last ≤ length → (run.state last).Leaving controller := by
    intro last later bound
    refine run.persists (P := (·.Leaving controller)) later bound leaving fun position lower upper held step => ?_
    exact held.step (coherent position (Nat.le_of_lt (Nat.lt_of_lt_of_le upper bound))) step
  have clear : (run.state (applied + 1)).Clear controller := by
    have step := run.steps applied within
    rw [applies] at step
    exact (reaches applied afterDrain (Nat.le_of_lt within)).settling.applied step
  intro position later bound
  have held := run.persists (P := fun path => path.Clear controller ∧ path.Leaving controller) later bound
    ⟨clear, reaches (applied + 1) (Nat.lt_succ_of_lt afterDrain) within⟩ fun position lower upper held step =>
      ⟨held.1.step step held.2.unarriving,
        held.2.step (coherent position (Nat.le_of_lt (Nat.lt_of_lt_of_le upper bound))) step⟩
  exact held.1.world

end Runs

section Interleavings

/-- A session spawns, is seated by a tick, and closes. -/
def orderlyClose : Nat → PathAction ℚ
  | 0 => .openSession [0x61] []
  | 1 => .precheck .first firstSpawn
  | 2 => .insert .first firstSpawn 0
  | 3 => .drain
  | 4 => .reserve
  | 5 => .apply
  | 6 => .complete
  | 7 => .retire .first
  | 8 => .unlist .first
  | 9 => .drain
  | 10 => .reserve
  | _ => .apply

def orderlyRun : Run (@Step ℚ _) 12 :=
  runOf 0 .zero oneCellPath orderlyClose 12 (by decide +kernel)

theorem closed_session_leaves_nothing_orderly : (orderlyRun.state 12).world.FreeOf .first := by
  refine @closed_session_leaves_nothing ℚ _ .first 12 (GameSimulation.oneCellSimulation []) .empty
    orderlyRun oneCellPath_start ?_ 8 9 9 11 rfl (by decide) ?_ (by decide) rfl (by decide) rfl (by decide) 12
    (by decide) (by decide)
  · intro position before
    interval_cases position
    case «2» =>
      rintro controller ⟨⟩ -
      exact .inl (by decide +kernel)
    case «7» => exact fun _ => ⟨by decide +kernel, .inl (by decide +kernel)⟩
    all_goals trivial
  · intro command submitting
    have none : (orderlyRun.state 9).submitting = [] := by decide +kernel
    rw [none] at submitting
    cases submitting

/-- The session's Spawn passes its checks, the session closes, its Leave is drained and applied, and
then the Spawn enters the mailbox. -/
def lateSpawn : Nat → PathAction ℚ
  | 0 => .openSession [0x61] []
  | 1 => .precheck .first firstSpawn
  | 2 => .retire .first
  | 3 => .drain
  | 4 => .reserve
  | 5 => .apply
  | 6 => .complete
  | 7 => .insert .first firstSpawn 0
  | 8 => .unlist .first
  | 9 => .drain
  | 10 => .reserve
  | _ => .apply

def lateSpawnRun : Run (@Step ℚ _) 12 :=
  runOf 0 .zero oneCellPath lateSpawn 12 (by decide +kernel)

theorem closed_session_returns :
    start (GameSimulation.oneCellSimulation []) .empty = .ok (lateSpawnRun.state 0) ∧
      lateSpawnRun.label 8 = .unlist .first ∧ (lateSpawnRun.state 9).submitting = [] ∧
      lateSpawnRun.label 9 = .drain ∧ lateSpawnRun.label 11 = .apply ∧
      ¬ (lateSpawnRun.state 12).world.FreeOf .first := by
  refine ⟨oneCellPath_start, rfl, by decide +kernel, rfl, rfl, fun free => free.links ⟨2, by decide, by decide⟩ ?_⟩
  decide +kernel

end Interleavings

end CommandPath

end BlobRoyale.Runtime
