import BlobRoyale.Runtime.CommandMailbox

/-!
# What each mailbox operation can do

One inversion per operation: `Inserts` for `submit_locked`, and `ExchangeChange` for what any
operation does to one controller's exchange. Every invariant of the mailbox is derived from these
and never unfolds an operation again.
-/

namespace BlobRoyale.Runtime

open BlobRoyale.Simulation LastWriter CommandMailbox TuningExchange

variable {S : Type} [Scalar S]

abbrev CommandMailbox.slots (mailbox : CommandMailbox S) : List (CommandKind × Nat) :=
  mailbox.pending.map Command.slot

namespace TuningExchange

/-- A change of an exchange that leaves its identity alone. -/
def KeepsController (change : TuningExchange → TuningExchange) : Prop :=
  ∀ exchange, (change exchange).controller = exchange.controller

theorem keeps_raised (requestId : Nat) : KeepsController (raised requestId) := fun _ => rfl

theorem keeps_admitted (requestId : Nat) (eligibleAt : Int) :
    KeepsController (admitted requestId eligibleAt) := fun _ => rfl

theorem keeps_refused (requestId : Nat) (result : MovementTuningResult) :
    KeepsController (refused requestId result) := fun _ => rfl

theorem keeps_answered (result : MovementTuningResult) : KeepsController (answered result) :=
  fun _ => rfl

theorem keeps_recorded (result : MovementTuningResult) : KeepsController (recorded result) := by
  intro exchange
  unfold recorded
  split <;> rfl

theorem keeps_claimed : KeepsController claimed := fun _ => rfl

variable {change : TuningExchange → TuningExchange}

theorem map_controller_update (keeps : KeepsController change) (controller : ControllerId)
    (exchanges : List TuningExchange) :
    (update controller change exchanges).map (·.controller) = exchanges.map (·.controller) := by
  induction exchanges with
  | nil => rfl
  | cons exchange rest ih =>
      unfold update
      split
      · simp only [List.map_cons, keeps exchange]
      · simp only [List.map_cons, ih]

theorem find_update (keeps : KeepsController change) (controller other : ControllerId)
    (exchanges : List TuningExchange) :
    find other (update controller change exchanges) =
      if other = controller then (find other exchanges).map change else find other exchanges := by
  induction exchanges with
  | nil => simp [find, update]
  | cons exchange rest ih =>
      rw [update]
      unfold find at *
      by_cases named : exchange.controller = controller
      · by_cases same : other = controller
        · simp [named, same, keeps exchange]
        · simp [named, same, keeps exchange, Ne.symm same]
      · rw [if_neg named]
        by_cases sought : exchange.controller = other
        · have different : other ≠ controller := fun equal => named (sought.trans equal)
          simp [sought, different]
        · simpa [sought] using ih

theorem controller_of_find {controller : ControllerId} {exchanges : List TuningExchange}
    {exchange : TuningExchange} (found : find controller exchanges = some exchange) :
    exchange.controller = controller := by
  simpa using List.find?_some found

theorem find_eq_none_iff {controller : ControllerId} {exchanges : List TuningExchange} :
    find controller exchanges = none ↔ controller ∉ exchanges.map (·.controller) := by
  simp [find]

end TuningExchange

/-- Every outcome of `submit_locked`, with its guards. -/
inductive Inserts (mailbox : CommandMailbox S) (command : Command S) :
    CommandSubmissionResult → CommandMailbox S → Prop where
  | unaccepted (refused : mailbox.acceptedKinds.contains command.kind = false) :
      Inserts mailbox command .rejectedUnacceptedKind { mailbox with
        counters := { mailbox.counters with
          rejectedUnacceptedKindCount := mailbox.counters.rejectedUnacceptedKindCount + 1 } }
  | superseded (accepted : mailbox.acceptedKinds.contains command.kind = true)
      (present : command.slot ∈ mailbox.slots) :
      Inserts mailbox command .superseded { mailbox with
        pending := supersede Command.slot command mailbox.pending
        counters := { mailbox.counters with
          acceptedCommandCount := mailbox.counters.acceptedCommandCount + 1
          supersededCommandCount := mailbox.counters.supersededCommandCount + 1 } }
  | appended (accepted : mailbox.acceptedKinds.contains command.kind = true)
      (absent : command.slot ∉ mailbox.slots)
      (room : mailbox.pending.length < maximumMailboxCommandCount) :
      Inserts mailbox command .accepted { mailbox with
        pending := mailbox.pending ++ [command]
        counters := { mailbox.counters with
          acceptedCommandCount := mailbox.counters.acceptedCommandCount + 1 } }
  | evicted (accepted : mailbox.acceptedKinds.contains command.kind = true)
      (absent : command.slot ∉ mailbox.slots)
      (full : maximumMailboxCommandCount ≤ mailbox.pending.length)
      (lifecycle : isEntityLifecycleCommand command.kind = true)
      (before : List (Command S)) (victim : Command S) (after : List (Command S))
      (split : mailbox.pending = before ++ victim :: after)
      (older : ∀ earlier ∈ before, isEntityLifecycleCommand earlier.kind = true)
      (evictable : isEntityLifecycleCommand victim.kind = false) :
      Inserts mailbox command .accepted { mailbox.recordTuningEviction victim with
        pending := before ++ after ++ [command]
        counters := { mailbox.counters with
          acceptedCommandCount := mailbox.counters.acceptedCommandCount + 1
          droppedCommandCount := mailbox.counters.droppedCommandCount + 1 } }
  | lifecycleDropped (accepted : mailbox.acceptedKinds.contains command.kind = true)
      (absent : command.slot ∉ mailbox.slots)
      (full : maximumMailboxCommandCount ≤ mailbox.pending.length)
      (lifecycle : isEntityLifecycleCommand command.kind = true)
      (unevictable : ∀ queued ∈ mailbox.pending, isEntityLifecycleCommand queued.kind = true) :
      Inserts mailbox command .droppedMailboxFull { mailbox with
        counters := { mailbox.counters with
          droppedCommandCount := mailbox.counters.droppedCommandCount + 1
          droppedEntityLifecycleCommandCount :=
            mailbox.counters.droppedEntityLifecycleCommandCount + 1 } }
  | dropped (accepted : mailbox.acceptedKinds.contains command.kind = true)
      (absent : command.slot ∉ mailbox.slots)
      (full : maximumMailboxCommandCount ≤ mailbox.pending.length)
      (other : isEntityLifecycleCommand command.kind = false) :
      Inserts mailbox command .droppedMailboxFull { mailbox with
        counters := { mailbox.counters with
          droppedCommandCount := mailbox.counters.droppedCommandCount + 1 } }

theorem findPendingSlot_eq (mailbox : CommandMailbox S) (command : Command S) :
    mailbox.findPendingSlot command.kind command.addressedIdentity.orderingKey =
      mailbox.pending.findIdx fun queued => queued.slot = command.slot := by
  unfold CommandMailbox.findPendingSlot
  congr 1
  funext queued
  simp [Command.slot, Bool.decide_and, beq_eq_decide]

theorem findPendingSlot_ne_length {mailbox : CommandMailbox S} {command : Command S} :
    mailbox.findPendingSlot command.kind command.addressedIdentity.orderingKey ≠
        mailbox.pending.length ↔ command.slot ∈ mailbox.slots := by
  rw [findPendingSlot_eq, ne_eq, List.findIdx_eq_length, List.mem_map]
  simp only [decide_eq_false_iff_not, not_forall, not_not, exists_prop]

/-- The first evictable command splits the queue into older lifecycle commands and the rest. -/
theorem findEvictableSlot_split {mailbox : CommandMailbox S} {victim : Command S}
    (found : mailbox.pending[mailbox.findEvictableSlot]? = some victim) :
    ∃ before after, mailbox.pending = before ++ victim :: after ∧
      (∀ earlier ∈ before, isEntityLifecycleCommand earlier.kind = true) ∧
      isEntityLifecycleCommand victim.kind = false ∧
      mailbox.pending.eraseIdx mailbox.findEvictableSlot = before ++ after := by
  obtain ⟨within, rfl⟩ := List.getElem?_eq_some_iff.mp found
  refine ⟨mailbox.pending.take mailbox.findEvictableSlot,
    mailbox.pending.drop (mailbox.findEvictableSlot + 1), ?_, ?_, ?_, ?_⟩
  · rw [List.getElem_cons_drop, List.take_append_drop]
  · intro earlier member
    obtain ⟨position, bound, rfl⟩ := List.getElem_of_mem member
    rw [List.getElem_take]
    have before : position < mailbox.findEvictableSlot :=
      Nat.lt_of_lt_of_le bound (List.length_take_le _ _)
    simpa using List.not_of_lt_findIdx before
  · exact (Bool.not_eq_true' _).mp (@List.findIdx_getElem _
      (fun command : Command S => !isEntityLifecycleCommand command.kind) mailbox.pending within)
  · exact List.eraseIdx_eq_take_drop_succ _ _

theorem findEvictableSlot_none {mailbox : CommandMailbox S}
    (absent : mailbox.pending[mailbox.findEvictableSlot]? = none) :
    ∀ queued ∈ mailbox.pending, isEntityLifecycleCommand queued.kind = true := by
  have length := Nat.le_antisymm (List.findIdx_le_length) (List.getElem?_eq_none_iff.mp absent)
  simpa using List.findIdx_eq_length.mp length

theorem submitLocked_inserts (mailbox : CommandMailbox S) (command : Command S) :
    Inserts mailbox command (mailbox.submitLocked command).1 (mailbox.submitLocked command).2 := by
  unfold CommandMailbox.submitLocked
  dsimp only
  split
  · next accepted =>
      split
      · next existing =>
          have present := findPendingSlot_ne_length.mp existing
          rw [findPendingSlot_eq, ← supersede_of_present present]
          exact .superseded accepted present
      · next missing =>
          have absent := mt findPendingSlot_ne_length.mpr missing
          split
          · next room => exact .appended accepted absent room
          · next noRoom =>
              have full := Nat.le_of_not_lt noRoom
              split
              · next lifecycle =>
                  split
                  · next victim found =>
                      obtain ⟨before, after, split, older, evictable, erased⟩ :=
                        findEvictableSlot_split found
                      rw [erased]
                      exact .evicted accepted absent full lifecycle before victim after split older
                        evictable
                  · next none =>
                      exact .lifecycleDropped accepted absent full lifecycle
                        (findEvictableSlot_none none)
              · next other => exact .dropped accepted absent full (Bool.eq_false_iff.mpr other)
  · next refused => exact .unaccepted (Bool.eq_false_iff.mpr refused)

@[simp] theorem recordTuningEviction_acceptedKinds (mailbox : CommandMailbox S) (victim : Command S) :
    (mailbox.recordTuningEviction victim).acceptedKinds = mailbox.acceptedKinds := by
  cases victim <;> rfl

namespace Inserts

variable {mailbox next : CommandMailbox S} {command : Command S} {result : CommandSubmissionResult}

theorem acceptedKinds_eq (inserts : Inserts mailbox command result next) :
    next.acceptedKinds = mailbox.acceptedKinds := by
  cases inserts with
  | evicted => exact recordTuningEviction_acceptedKinds mailbox _
  | _ => rfl

theorem mem_pending (inserts : Inserts mailbox command result next) {queued : Command S}
    (member : queued ∈ next.pending) :
    (queued = command ∧ mailbox.acceptedKinds.contains command.kind = true) ∨
      queued ∈ mailbox.pending := by
  cases inserts with
  | unaccepted | lifecycleDropped | dropped => exact .inr member
  | superseded accepted present =>
      rcases mem_of_mem_supersede member with rfl | kept
      · exact .inl ⟨rfl, accepted⟩
      · exact .inr kept
  | appended accepted absent room =>
      rcases List.mem_append.mp member with kept | appended
      · exact .inr kept
      · exact .inl ⟨List.mem_singleton.mp appended, accepted⟩
  | evicted accepted absent full lifecycle before victim after split =>
      rcases List.mem_append.mp member with kept | appended
      · rw [split]
        rcases List.mem_append.mp kept with earlier | later
        · exact .inr (List.mem_append_left _ earlier)
        · exact .inr (List.mem_append_right _ (List.mem_cons_of_mem _ later))
      · exact .inl ⟨List.mem_singleton.mp appended, accepted⟩

end Inserts

/-- A mailbox that has counted a tuning request and raised its exchange's high-water mark. -/
abbrev CommandMailbox.requested (mailbox : CommandMailbox S) (command : SetMovementTuningCommand S) :
    CommandMailbox S :=
  mailbox.countSubmitted.updateExchange command.controller (.raised command.tuningRequestId)

/-- Every outcome of `submit_tuning`, with its guards. -/
inductive SubmitsTuning (mailbox : CommandMailbox S) (command : SetMovementTuningCommand S) :
    CommandMailbox S → Prop where
  | unaccepted (refused : mailbox.acceptedKinds.contains .setMovementTuning = false) :
      SubmitsTuning mailbox command { mailbox.countSubmitted with
        counters := { mailbox.countSubmitted.counters with
          rejectedUnacceptedKindCount :=
            mailbox.countSubmitted.counters.rejectedUnacceptedKindCount + 1 } }
  | rejected : SubmitsTuning mailbox command mailbox.countSubmitted.countRejectedTuning
  | inFlight (exchange : TuningExchange)
      (found : mailbox.findExchange command.controller = some exchange)
      (fresh : exchange.requestHighWater < command.tuningRequestId)
      (busy : exchange.requestId.isSome = true) :
      SubmitsTuning mailbox command (mailbox.requested command).countRejectedTuning
  | limited (exchange : TuningExchange)
      (found : mailbox.findExchange command.controller = some exchange)
      (fresh : exchange.requestHighWater < command.tuningRequestId)
      (idle : exchange.requestId = none) (retry : Nat) (limited : CommandMailbox S)
      (refusal : limited = (mailbox.requested command).updateExchange command.controller
        (.refused command.tuningRequestId (.refusal ⟨command.controller, command.tuningRequestId,
          .rateLimited, some retry⟩))) :
      SubmitsTuning mailbox command { limited with
        counters := { limited.counters with
          rateLimitedTuningCommandCount := limited.counters.rateLimitedTuningCommandCount + 1 } }
  | admitted (exchange : TuningExchange)
      (found : mailbox.findExchange command.controller = some exchange)
      (fresh : exchange.requestHighWater < command.tuningRequestId)
      (idle : exchange.requestId = none)
      (wellFormed : command.tuningRequestId ≠ 0 ∧
        command.tuningRequestId ≤ maximumProtocolSafeInteger ∧
        command.expectedRevision ≤ maximumProtocolSafeInteger)
      (eligibleAt : Int) (result : CommandSubmissionResult) (inserted : CommandMailbox S)
      (inserts : Inserts ((mailbox.requested command).updateExchange command.controller
        (.admitted command.tuningRequestId eligibleAt)) (.setMovementTuning command) result inserted)
      (kept : result ≠ .droppedMailboxFull)
      (accepted : mailbox.acceptedKinds.contains .setMovementTuning = true) :
      SubmitsTuning mailbox command inserted
  | full (exchange : TuningExchange)
      (found : mailbox.findExchange command.controller = some exchange)
      (fresh : exchange.requestHighWater < command.tuningRequestId)
      (idle : exchange.requestId = none) (eligibleAt : Int) (inserted : CommandMailbox S)
      (inserts : Inserts ((mailbox.requested command).updateExchange command.controller
        (.admitted command.tuningRequestId eligibleAt)) (.setMovementTuning command)
        .droppedMailboxFull inserted) :
      SubmitsTuning mailbox command (inserted.updateExchange command.controller
        (.answered (.refusal ⟨command.controller, command.tuningRequestId, .mailboxFull, none⟩)))

theorem SubmitsTuning.mem_pending {mailbox next : CommandMailbox S}
    {command : SetMovementTuningCommand S} {queued : Command S}
    (submits : SubmitsTuning mailbox command next) (member : queued ∈ next.pending) :
    queued = .setMovementTuning command ∨ queued ∈ mailbox.pending := by
  cases submits with
  | unaccepted | rejected | inFlight => exact .inr member
  | limited _ _ _ _ _ limited refusal =>
      subst refusal
      exact .inr member
  | admitted _ _ _ _ _ _ _ _ inserts => exact (inserts.mem_pending member).imp_left And.left
  | full _ _ _ _ _ _ inserts => exact (inserts.mem_pending member).imp_left And.left

theorem admitTuning_submits {mailbox : CommandMailbox S} {command : SetMovementTuningCommand S}
    {exchange : TuningExchange} (found : mailbox.findExchange command.controller = some exchange)
    (fresh : exchange.requestHighWater < command.tuningRequestId) (idle : exchange.requestId = none)
    (wellFormed : command.tuningRequestId ≠ 0 ∧ command.tuningRequestId ≤ maximumProtocolSafeInteger ∧
      command.expectedRevision ≤ maximumProtocolSafeInteger)
    (accepted : mailbox.acceptedKinds.contains .setMovementTuning = true) (now : Int) :
    SubmitsTuning mailbox command ((mailbox.requested command).admitTuning command exchange now).2 := by
  unfold CommandMailbox.admitTuning
  split
  · exact .limited exchange found fresh idle _ _ rfl
  · dsimp only
    have inserts := submitLocked_inserts ((mailbox.requested command).updateExchange command.controller
      (.admitted command.tuningRequestId
        (now + movementTuningMinimumIntervalMilliseconds * nanosecondsPerMillisecond)))
      (.setMovementTuning command)
    split
    · next dropped =>
        rw [dropped] at inserts
        exact .full exchange found fresh idle _ _ inserts
    · next kept => exact .admitted exchange found fresh idle wellFormed _ _ _ inserts kept accepted

theorem submitTuning_submits (mailbox : CommandMailbox S) (command : SetMovementTuningCommand S)
    (now : Int) : SubmitsTuning mailbox command (mailbox.submitTuning command now).2 := by
  unfold CommandMailbox.submitTuning
  dsimp only
  split
  · next accepted =>
      split
      · exact .rejected
      · next exchange found =>
          have found : mailbox.findExchange command.controller = some exchange := found
          split
          · exact .rejected
          · next identified =>
              split
              · exact .rejected
              · next revision =>
                  split
                  · exact .rejected
                  · next reused =>
                      have fresh := Nat.lt_of_not_le reused
                      split
                      · next busy => exact .inFlight exchange found fresh busy
                      · next idle =>
                          exact admitTuning_submits found fresh (Option.not_isSome_iff_eq_none.mp idle)
                            (by omega) accepted now
  · next refused => exact .unaccepted (Bool.eq_false_iff.mpr refused)

/-- `submit` takes the tuning path for a tuning command and inserts any other. -/
theorem submit_cases (mailbox : CommandMailbox S) (command : Command S) (now : Int) :
    (∃ tuning, command = .setMovementTuning tuning ∧
        mailbox.submit command now = mailbox.submitTuning tuning now) ∨
      (command.kind ≠ .setMovementTuning ∧
        mailbox.submit command now = mailbox.countSubmitted.submitLocked command) := by
  cases command with
  | setMovementTuning tuning => exact .inl ⟨tuning, rfl, rfl⟩
  | _ => exact .inr ⟨fun kind => (nomatch kind), rfl⟩

theorem registerController_cases (mailbox : CommandMailbox S) (controller : ControllerId) :
    mailbox.registerController controller = (false, mailbox) ∨
      (mailbox.findExchange controller = none ∧
        mailbox.registerController controller = (true, { mailbox with
          tuningExchanges := mailbox.tuningExchanges ++ [.registered controller] })) := by
  unfold CommandMailbox.registerController
  split
  · exact .inl rfl
  · next vacant =>
      simp only [Bool.or_eq_true, not_or, Bool.not_eq_true, Option.isSome_eq_false_iff,
        Option.isNone_iff_eq_none] at vacant
      exact .inr ⟨vacant.1, rfl⟩

/-- The mailbox a retirement inserts its Leave into. -/
abbrev CommandMailbox.retiring (mailbox : CommandMailbox S) (controller : ControllerId) :
    CommandMailbox S :=
  { mailbox with
    tuningExchanges := mailbox.tuningExchanges.eraseP fun exchange =>
      exchange.controller = controller }.countSubmitted

theorem retireController_cases (mailbox : CommandMailbox S) (controller : ControllerId) :
    (mailbox.findExchange controller = none ∧
        mailbox.retireController controller = (false, mailbox)) ∨
      ((mailbox.findExchange controller).isSome = true ∧
        (mailbox.retireController controller).1 = true ∧
        ∃ result, Inserts (mailbox.retiring controller) (.leave ⟨controller⟩) result
          (mailbox.retireController controller).2) := by
  unfold CommandMailbox.retireController
  split
  · next registered => exact .inr ⟨registered, rfl, _, submitLocked_inserts _ _⟩
  · next absent => exact .inl ⟨Option.not_isSome_iff_eq_none.mp absent, rfl⟩

theorem claimTuningResult_cases (mailbox : CommandMailbox S) (controller : ControllerId)
    (coveringSnapshotTick : TickSequence) :
    mailbox.claimTuningResult controller coveringSnapshotTick = (none, mailbox) ∨
      ∃ exchange result, mailbox.findExchange controller = some exchange ∧
        exchange.result = some result ∧
        mailbox.claimTuningResult controller coveringSnapshotTick =
          (some result, mailbox.updateExchange controller .claimed) := by
  unfold CommandMailbox.claimTuningResult
  split
  · exact .inl rfl
  · next result found =>
      obtain ⟨exchange, registered, answered⟩ := Option.bind_eq_some_iff.mp found
      split
      · split
        · exact .inl rfl
        · exact .inr ⟨exchange, _, registered, answered, rfl⟩
      · exact .inr ⟨exchange, _, registered, answered, rfl⟩

/-- One call on the mailbox, with the clock reading it makes. -/
inductive MailboxOperation (S : Type) [Scalar S] where
  | submit (command : Command S) (now : Int)
  | submitTuning (command : SetMovementTuningCommand S) (now : Int)
  | registerController (controller : ControllerId)
  | retireController (controller : ControllerId)
  | drain
  | completeTuningDecisions (decisions : List MovementTuningDecision)
  | claimTuningResult (controller : ControllerId) (coveringSnapshotTick : TickSequence)

def CommandMailbox.apply (mailbox : CommandMailbox S) : MailboxOperation S → CommandMailbox S
  | .submit command now => (mailbox.submit command now).2
  | .submitTuning command now => (mailbox.submitTuning command now).2
  | .registerController controller => (mailbox.registerController controller).2
  | .retireController controller => (mailbox.retireController controller).2
  | .drain => mailbox.drain.2
  | .completeTuningDecisions decisions => mailbox.completeTuningDecisions decisions
  | .claimTuningResult controller coveringSnapshotTick =>
      (mailbox.claimTuningResult controller coveringSnapshotTick).2

/-- The command an operation hands to the queue. -/
def MailboxOperation.submission : MailboxOperation S → Option (Command S)
  | .submit command _ => some command
  | .submitTuning command _ => some (.setMovementTuning command)
  | .retireController controller => some (.leave ⟨controller⟩)
  | .registerController _ | .drain | .completeTuningDecisions _ | .claimTuningResult .. => none

/-- The mailbox part of a run: operations in the order their critical sections take the mutex. -/
def MailboxStep (mailbox : CommandMailbox S) (operation : MailboxOperation S)
    (next : CommandMailbox S) : Prop :=
  next = mailbox.apply operation

/-- The controllers holding an exchange. -/
abbrev CommandMailbox.registeredControllers (mailbox : CommandMailbox S) : List ControllerId :=
  mailbox.tuningExchanges.map (·.controller)

theorem find_eraseP {exchanges : List TuningExchange} (unique : (exchanges.map (·.controller)).Nodup)
    (controller other : ControllerId) :
    find other (exchanges.eraseP fun exchange => exchange.controller = controller) =
      if other = controller then none else find other exchanges := by
  induction exchanges with
  | nil => simp [find]
  | cons exchange rest ih =>
      obtain ⟨fresh, unique⟩ := List.nodup_cons.mp unique
      have ih := ih unique
      unfold find at *
      by_cases named : exchange.controller = controller
      · rw [List.eraseP_cons_of_pos (by simpa using named)]
        by_cases same : other = controller
        · rw [if_pos same]
          exact find_eq_none_iff.mpr (same ▸ named ▸ fresh)
        · rw [if_neg same, List.find?_cons_of_neg (by simpa [named] using Ne.symm same)]
      · rw [List.eraseP_cons_of_neg (by simpa using named)]
        by_cases sought : exchange.controller = other
        · have different : other ≠ controller := fun equal => named (sought.trans equal)
          simp [sought, different]
        · simpa [sought] using ih

theorem findExchange_retiring {mailbox : CommandMailbox S}
    (unique : mailbox.registeredControllers.Nodup) (controller other : ControllerId) :
    (mailbox.retiring controller).findExchange other =
      if other = controller then none else mailbox.findExchange other :=
  find_eraseP unique controller other

theorem retiring_unregisters {mailbox : CommandMailbox S}
    (unique : mailbox.registeredControllers.Nodup) (controller : ControllerId) :
    controller ∉ (mailbox.retiring controller).registeredControllers := by
  have erased := findExchange_retiring unique controller controller
  rw [if_pos rfl] at erased
  exact find_eq_none_iff.mp erased

theorem registeredControllers_updateExchange {mailbox : CommandMailbox S} {controller : ControllerId}
    {change : TuningExchange → TuningExchange} (keeps : KeepsController change) :
    (mailbox.updateExchange controller change).registeredControllers = mailbox.registeredControllers :=
  map_controller_update keeps controller mailbox.tuningExchanges

theorem registeredControllers_completeTuningDecisions (mailbox : CommandMailbox S)
    (decisions : List MovementTuningDecision) :
    (mailbox.completeTuningDecisions decisions).registeredControllers =
      mailbox.registeredControllers := by
  induction decisions generalizing mailbox with
  | nil => rfl
  | cons decision rest ih =>
      exact (ih (mailbox.updateExchange decision.controller (.recorded (.decision decision)))).trans
        (registeredControllers_updateExchange (keeps_recorded _))

theorem Inserts.registeredControllers_eq {mailbox next : CommandMailbox S} {command : Command S}
    {result : CommandSubmissionResult} (inserts : Inserts mailbox command result next) :
    next.registeredControllers = mailbox.registeredControllers := by
  cases inserts with
  | evicted _ _ _ _ before victim after =>
      show (mailbox.recordTuningEviction victim).registeredControllers = _
      cases victim with
      | setMovementTuning tuning => exact registeredControllers_updateExchange (keeps_recorded _)
      | _ => rfl
  | _ => rfl

theorem SubmitsTuning.registeredControllers_eq {mailbox next : CommandMailbox S}
    {command : SetMovementTuningCommand S} (submits : SubmitsTuning mailbox command next) :
    next.registeredControllers = mailbox.registeredControllers := by
  have raised : (mailbox.requested command).registeredControllers = mailbox.registeredControllers :=
    registeredControllers_updateExchange (keeps_raised _)
  cases submits with
  | unaccepted | rejected => rfl
  | inFlight => exact raised
  | limited exchange found fresh idle retry limited refusal =>
      subst refusal
      exact (registeredControllers_updateExchange (keeps_refused _ _)).trans raised
  | admitted exchange found fresh idle wellFormed eligibleAt result inserted inserts =>
      rw [inserts.registeredControllers_eq,
        registeredControllers_updateExchange (keeps_admitted _ _), raised]
  | full exchange found fresh idle eligibleAt inserted inserts =>
      rw [registeredControllers_updateExchange (keeps_answered _), inserts.registeredControllers_eq,
        registeredControllers_updateExchange (keeps_admitted _ _), raised]

theorem registeredControllers_apply (mailbox : CommandMailbox S) (operation : MailboxOperation S) :
    (mailbox.apply operation).registeredControllers = mailbox.registeredControllers ∨
      (∃ controller, operation = .registerController controller ∧
        (mailbox.registerController controller).1 = true ∧
        controller ∉ mailbox.registeredControllers ∧
        (mailbox.apply operation).registeredControllers =
          mailbox.registeredControllers ++ [controller]) ∨
      ∃ controller, operation = .retireController controller ∧
        controller ∈ mailbox.registeredControllers ∧
        (mailbox.apply operation).registeredControllers =
          (mailbox.retiring controller).registeredControllers := by
  cases operation with
  | submit command now =>
      refine .inl ?_
      rcases submit_cases mailbox command now with ⟨tuning, rfl, applied⟩ | ⟨-, applied⟩
      · simp only [CommandMailbox.apply, applied]
        exact (submitTuning_submits mailbox tuning now).registeredControllers_eq
      · simp only [CommandMailbox.apply, applied]
        exact (submitLocked_inserts mailbox.countSubmitted command).registeredControllers_eq
  | submitTuning command now =>
      exact .inl (submitTuning_submits mailbox command now).registeredControllers_eq
  | registerController controller =>
      rcases registerController_cases mailbox controller with refused | ⟨vacant, registered⟩
      · exact .inl (by simp only [CommandMailbox.apply, refused])
      · refine .inr (.inl ⟨controller, rfl, by rw [registered], find_eq_none_iff.mp vacant, ?_⟩)
        simp only [CommandMailbox.apply, registered, registeredControllers, List.map_append]
        rfl
  | retireController controller =>
      rcases retireController_cases mailbox controller with
        ⟨-, unknown⟩ | ⟨registered, -, result, inserts⟩
      · exact .inl (by simp only [CommandMailbox.apply, unknown])
      · refine .inr (.inr ⟨controller, rfl, ?_, inserts.registeredControllers_eq⟩)
        by_contra absent
        rw [findExchange, find_eq_none_iff.mpr absent] at registered
        cases registered
  | drain => exact .inl rfl
  | completeTuningDecisions decisions =>
      exact .inl (registeredControllers_completeTuningDecisions mailbox decisions)
  | claimTuningResult controller tick =>
      refine .inl ?_
      rcases claimTuningResult_cases mailbox controller tick with same | ⟨_, _, -, -, claimed⟩
      · simp only [CommandMailbox.apply, same]
      · simp only [CommandMailbox.apply, claimed]
        exact registeredControllers_updateExchange keeps_claimed

theorem registeredControllers_nodup {mailbox : CommandMailbox S}
    (unique : mailbox.registeredControllers.Nodup) (operation : MailboxOperation S) :
    (mailbox.apply operation).registeredControllers.Nodup := by
  rcases registeredControllers_apply mailbox operation with
    same | ⟨controller, -, -, fresh, registered⟩ | ⟨controller, -, -, retired⟩
  · exact same ▸ unique
  · rw [registered]
    exact List.nodup_append.mpr ⟨unique, List.nodup_singleton _, by simpa using fresh⟩
  · rw [retired]
    exact unique.sublist (List.eraseP_sublist.map _)

end BlobRoyale.Runtime
