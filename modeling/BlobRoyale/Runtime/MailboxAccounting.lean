import BlobRoyale.Library.Transition
import BlobRoyale.Runtime.MailboxOperations

/-!
# Mailbox accounting

The conservation law behind "no drop is silent": every submitted command is pending, drained or
counted in exactly one of the losing counters. A lifecycle command leaves the mailbox only by a
drain or under a newer command of its own slot, with one exception: retiring a controller discards
the refusal its Leave can meet in a mailbox full of lifecycle commands.
-/

namespace BlobRoyale.Runtime

open BlobRoyale.Simulation LastWriter Transition

variable {S : Type} [Scalar S]

namespace CommandMailbox

/-- Every command accounted for, the pending ones included. -/
def settledCommandCount (mailbox : CommandMailbox S) : UInt64 :=
  mailbox.counters.drainedCommandCount + UInt64.ofNat mailbox.pending.length +
    mailbox.counters.supersededCommandCount + mailbox.counters.droppedCommandCount +
    mailbox.counters.rejectedUnacceptedKindCount + mailbox.counters.rejectedTuningCommandCount +
    mailbox.counters.rateLimitedTuningCommandCount

def Conserved (mailbox : CommandMailbox S) : Prop :=
  mailbox.counters.submittedCommandCount = mailbox.settledCommandCount

/-- Inside an operation: one command is counted as submitted and not settled yet. -/
def OwesOne (mailbox : CommandMailbox S) : Prop :=
  mailbox.counters.submittedCommandCount = mailbox.settledCommandCount + 1

@[simp] theorem updateExchange_pending (mailbox : CommandMailbox S) (controller : ControllerId)
    (change : TuningExchange → TuningExchange) :
    (mailbox.updateExchange controller change).pending = mailbox.pending := rfl

@[simp] theorem updateExchange_counters (mailbox : CommandMailbox S) (controller : ControllerId)
    (change : TuningExchange → TuningExchange) :
    (mailbox.updateExchange controller change).counters = mailbox.counters := rfl

@[simp] theorem updateExchange_acceptedKinds (mailbox : CommandMailbox S) (controller : ControllerId)
    (change : TuningExchange → TuningExchange) :
    (mailbox.updateExchange controller change).acceptedKinds = mailbox.acceptedKinds := rfl

theorem owesOne_countSubmitted {mailbox : CommandMailbox S} (balanced : mailbox.Conserved) :
    mailbox.countSubmitted.OwesOne := by
  unfold OwesOne Conserved at *
  exact congrArg (· + 1) balanced

theorem balanced_updateExchange {mailbox : CommandMailbox S} {controller : ControllerId}
    {change : TuningExchange → TuningExchange} :
    (mailbox.updateExchange controller change).Conserved ↔ mailbox.Conserved := Iff.rfl

theorem balanced_countRejectedTuning {mailbox : CommandMailbox S} (owes : mailbox.OwesOne) :
    mailbox.countRejectedTuning.Conserved := by
  simp only [OwesOne, Conserved, settledCommandCount, countRejectedTuning] at *
  grind

end CommandMailbox

open CommandMailbox

/-- Whatever `submit_locked` does, it settles the one command it was owed. -/
theorem Inserts.balanced {mailbox next : CommandMailbox S} {command : Command S}
    {result : CommandSubmissionResult} (inserts : Inserts mailbox command result next)
    (owes : mailbox.OwesOne) : next.Conserved := by
  cases inserts with
  | unaccepted | lifecycleDropped | dropped =>
      simp only [OwesOne, Conserved, settledCommandCount] at *
      grind
  | superseded accepted present =>
      simp only [OwesOne, Conserved, settledCommandCount, length_supersede, if_pos present] at *
      grind
  | appended =>
      simp only [OwesOne, Conserved, settledCommandCount, List.length_append, List.length_singleton,
        UInt64.ofNat_add, UInt64.ofNat_one] at *
      grind
  | evicted accepted absent full lifecycle before victim after split =>
      have length : (before ++ after ++ [command]).length = mailbox.pending.length := by
        simp only [split, List.length_append, List.length_cons, List.length_nil]
        omega
      simp only [OwesOne, Conserved, settledCommandCount, length] at *
      grind

theorem SubmitsTuning.balanced {mailbox next : CommandMailbox S} {command : SetMovementTuningCommand S}
    (submits : SubmitsTuning mailbox command next) (balanced : mailbox.Conserved) : next.Conserved := by
  have owes := owesOne_countSubmitted balanced
  cases submits with
  | unaccepted =>
      simp only [OwesOne, Conserved, settledCommandCount] at *
      grind
  | rejected => exact balanced_countRejectedTuning owes
  | inFlight => exact balanced_countRejectedTuning owes
  | limited exchange found fresh idle retry limited refusal =>
      subst refusal
      simp only [OwesOne, Conserved, settledCommandCount, updateExchange_counters,
        updateExchange_pending] at *
      grind
  | admitted exchange found fresh idle wellFormed eligibleAt result inserted inserts =>
      exact inserts.balanced owes
  | full exchange found fresh idle eligibleAt inserted inserts =>
      exact balanced_updateExchange.mpr (inserts.balanced owes)

/-- The shape of the queue: bounded, one command per slot, every kind accepted. -/
structure Queued (mailbox : CommandMailbox S) : Prop where
  bounded : mailbox.pending.length ≤ maximumMailboxCommandCount
  uniqueSlots : mailbox.slots.Nodup
  accepted : ∀ command ∈ mailbox.pending, mailbox.acceptedKinds.contains command.kind = true

theorem Inserts.queued {mailbox next : CommandMailbox S} {command : Command S}
    {result : CommandSubmissionResult} (inserts : Inserts mailbox command result next)
    (queued : Queued mailbox) : Queued next := by
  have accepted : ∀ other ∈ next.pending, next.acceptedKinds.contains other.kind = true := by
    intro other member
    rw [inserts.acceptedKinds_eq]
    rcases inserts.mem_pending member with ⟨rfl, accepted⟩ | kept
    · exact accepted
    · exact queued.accepted other kept
  cases inserts with
  | unaccepted | lifecycleDropped | dropped => exact ⟨queued.bounded, queued.uniqueSlots, accepted⟩
  | superseded _ present =>
      refine ⟨?_, supersede_nodup queued.uniqueSlots, accepted⟩
      simpa only [length_supersede, if_pos present] using queued.bounded
  | appended _ absent room =>
      refine ⟨?_, ?_, accepted⟩
      · rw [List.length_append]
        exact room
      · rw [CommandMailbox.slots, ← supersede_of_absent absent]
        exact supersede_nodup queued.uniqueSlots
  | evicted _ absent full lifecycle before victim after split =>
      have unique := queued.uniqueSlots
      have length := queued.bounded
      rw [CommandMailbox.slots, split] at unique absent
      rw [split] at length
      have kept : List.Sublist (before ++ after) (before ++ victim :: after) :=
        List.Sublist.append_left (List.sublist_cons_self _ _) _
      have absentKept : command.slot ∉ (before ++ after).map Command.slot :=
        mt (fun member => (kept.map Command.slot).subset member) absent
      refine ⟨?_, ?_, accepted⟩
      · simp only [List.length_append, List.length_cons, List.length_nil] at length ⊢
        omega
      · rw [CommandMailbox.slots, ← supersede_of_absent absentKept]
        exact supersede_nodup (unique.sublist (kept.map Command.slot))

theorem queued_updateExchange {mailbox : CommandMailbox S} {controller : ControllerId}
    {change : TuningExchange → TuningExchange} (queued : Queued mailbox) :
    Queued (mailbox.updateExchange controller change) :=
  ⟨queued.bounded, queued.uniqueSlots, queued.accepted⟩

theorem SubmitsTuning.queued {mailbox next : CommandMailbox S} {command : SetMovementTuningCommand S}
    (submits : SubmitsTuning mailbox command next) (queued : Queued mailbox) : Queued next := by
  have counted : Queued mailbox.countSubmitted := ⟨queued.bounded, queued.uniqueSlots, queued.accepted⟩
  cases submits with
  | unaccepted | rejected | inFlight => exact ⟨queued.bounded, queued.uniqueSlots, queued.accepted⟩
  | limited exchange found fresh idle retry limited refusal =>
      subst refusal
      exact ⟨queued.bounded, queued.uniqueSlots, queued.accepted⟩
  | admitted exchange found fresh idle wellFormed eligibleAt result inserted inserts =>
      exact inserts.queued (queued_updateExchange (queued_updateExchange counted))
  | full exchange found fresh idle eligibleAt inserted inserts =>
      exact queued_updateExchange
        (inserts.queued (queued_updateExchange (queued_updateExchange counted)))

theorem completeTuningDecisions_frame (mailbox : CommandMailbox S)
    (decisions : List MovementTuningDecision) :
    (mailbox.completeTuningDecisions decisions).pending = mailbox.pending ∧
      (mailbox.completeTuningDecisions decisions).counters = mailbox.counters ∧
      (mailbox.completeTuningDecisions decisions).acceptedKinds = mailbox.acceptedKinds := by
  unfold completeTuningDecisions
  induction decisions generalizing mailbox with
  | nil => exact ⟨rfl, rfl, rfl⟩
  | cons decision rest ih =>
      obtain ⟨pending, counters, acceptedKinds⟩ :=
        ih (mailbox.updateExchange decision.controller (.recorded (.decision decision)))
      exact ⟨pending, counters, acceptedKinds⟩

theorem mem_pending_of_apply {mailbox : CommandMailbox S} {operation : MailboxOperation S}
    {queued : Command S} (member : queued ∈ (mailbox.apply operation).pending) :
    operation.submission = some queued ∨ queued ∈ mailbox.pending := by
  cases operation with
  | submit command now =>
    obtain ⟨tuning, rfl, applied⟩ | ⟨-, applied⟩ := submit_cases mailbox command now
    · rw [CommandMailbox.apply, applied] at member
      exact ((submitTuning_submits mailbox tuning now).mem_pending member).imp_left
        fun same => congrArg some same.symm
    · rw [CommandMailbox.apply, applied] at member
      exact ((submitLocked_inserts mailbox.countSubmitted command).mem_pending member).imp_left
        fun same => congrArg some same.1.symm
  | submitTuning command now =>
    exact ((submitTuning_submits mailbox command now).mem_pending member).imp_left fun same => congrArg some same.symm
  | registerController controller =>
    obtain refused | ⟨-, registered⟩ := registerController_cases mailbox controller
    · exact .inr (by simpa only [CommandMailbox.apply, refused] using member)
    · exact .inr (by simpa only [CommandMailbox.apply, registered] using member)
  | retireController controller =>
    obtain ⟨-, unknown⟩ | ⟨-, -, result, inserts⟩ := retireController_cases mailbox controller
    · exact .inr (by simpa only [CommandMailbox.apply, unknown] using member)
    · exact (inserts.mem_pending member).imp_left fun same => congrArg some same.1.symm
  | drain => cases member
  | completeTuningDecisions decisions =>
    rw [CommandMailbox.apply, (completeTuningDecisions_frame mailbox decisions).1] at member
    exact .inr member
  | claimTuningResult controller tick =>
    obtain same | ⟨_, _, -, -, claimed⟩ := claimTuningResult_cases mailbox controller tick
    · exact .inr (by simpa only [CommandMailbox.apply, same] using member)
    · exact .inr (by simpa only [CommandMailbox.apply, claimed, updateExchange_pending] using member)

/-- What every reachable mailbox satisfies. -/
structure Accounted (mailbox : CommandMailbox S) : Prop extends Queued mailbox where
  balanced : mailbox.Conserved

theorem accounted_create (acceptedKinds : CommandKindMask) :
    Accounted (CommandMailbox.create acceptedKinds : CommandMailbox S) where
  bounded := Nat.zero_le _
  uniqueSlots := List.nodup_nil
  accepted := fun _ member => absurd member List.not_mem_nil
  balanced := rfl

theorem Accounted.of_frame {mailbox next : CommandMailbox S} (accounted : Accounted mailbox)
    (pending : next.pending = mailbox.pending) (counters : next.counters = mailbox.counters)
    (acceptedKinds : next.acceptedKinds = mailbox.acceptedKinds) : Accounted next where
  bounded := pending ▸ accounted.bounded
  uniqueSlots := by
    rw [CommandMailbox.slots, pending]
    exact accounted.uniqueSlots
  accepted := by
    rw [pending, acceptedKinds]
    exact accounted.accepted
  balanced := by
    unfold Conserved settledCommandCount
    rw [counters, pending]
    exact accounted.balanced

theorem Accounted.inserts {mailbox next : CommandMailbox S} {command : Command S}
    {result : CommandSubmissionResult} (accounted : Accounted mailbox)
    (inserts : Inserts mailbox.countSubmitted command result next) : Accounted next where
  toQueued := inserts.queued ⟨accounted.bounded, accounted.uniqueSlots, accounted.accepted⟩
  balanced := inserts.balanced (owesOne_countSubmitted accounted.balanced)

theorem Accounted.submitTuning {mailbox : CommandMailbox S} (accounted : Accounted mailbox)
    (command : SetMovementTuningCommand S) (now : Int) :
    Accounted (mailbox.submitTuning command now).2 :=
  have submits := submitTuning_submits mailbox command now
  { toQueued := submits.queued accounted.toQueued
    balanced := submits.balanced accounted.balanced }

theorem Accounted.apply {mailbox : CommandMailbox S} (accounted : Accounted mailbox)
    (operation : MailboxOperation S) : Accounted (mailbox.apply operation) := by
  cases operation with
  | submit command now =>
      rcases submit_cases mailbox command now with ⟨tuning, rfl, submitted⟩ | ⟨-, submitted⟩
      · simp only [CommandMailbox.apply, submitted]
        exact accounted.submitTuning tuning now
      · simp only [CommandMailbox.apply, submitted]
        exact accounted.inserts (submitLocked_inserts _ command)
  | submitTuning command now => exact accounted.submitTuning command now
  | registerController controller =>
      rcases registerController_cases mailbox controller with refused | ⟨-, registered⟩
      · simpa only [CommandMailbox.apply, refused] using accounted
      · simp only [CommandMailbox.apply, registered]
        exact accounted.of_frame rfl rfl rfl
  | retireController controller =>
      rcases retireController_cases mailbox controller with ⟨-, unknown⟩ | ⟨-, -, result, inserts⟩
      · simpa only [CommandMailbox.apply, unknown] using accounted
      · have erased : Accounted { mailbox with
            tuningExchanges := mailbox.tuningExchanges.eraseP fun exchange =>
              exchange.controller = controller } := accounted.of_frame rfl rfl rfl
        exact erased.inserts inserts
  | drain =>
      refine ⟨⟨Nat.zero_le _, List.nodup_nil, fun _ member => absurd member List.not_mem_nil⟩, ?_⟩
      have balanced := accounted.balanced
      have empty : UInt64.ofNat 0 = 0 := rfl
      simp only [CommandMailbox.apply, drain, Conserved, settledCommandCount, List.length_nil,
        empty] at *
      grind
  | completeTuningDecisions decisions =>
      obtain ⟨pending, counters, acceptedKinds⟩ := completeTuningDecisions_frame mailbox decisions
      exact accounted.of_frame pending counters acceptedKinds
  | claimTuningResult controller tick =>
      rcases claimTuningResult_cases mailbox controller tick with same | ⟨_, _, -, -, claimed⟩
      · simpa only [CommandMailbox.apply, same] using accounted
      · simp only [CommandMailbox.apply, claimed]
        exact accounted.of_frame rfl rfl rfl

/-- A queued command overwritten where it stood by a newer one of its kind and identity. -/
def ReplacedInPlace (before after : List (Command S)) (queued newer : Command S) : Prop :=
  newer.slot = queued.slot ∧ ∃ index : Nat, before[index]? = some queued ∧ after = before.set index newer

theorem Inserts.protects {mailbox next : CommandMailbox S} {command queued : Command S}
    {result : CommandSubmissionResult} (inserts : Inserts mailbox command result next)
    (unique : mailbox.slots.Nodup) (member : queued ∈ mailbox.pending)
    (lifecycle : isEntityLifecycleCommand queued.kind = true) :
    queued ∈ next.pending ∨ ReplacedInPlace mailbox.pending next.pending queued command := by
  cases inserts with
  | unaccepted | lifecycleDropped | dropped => exact .inl member
  | superseded accepted present =>
      by_cases same : queued.slot = command.slot
      · obtain ⟨index, within, rfl⟩ := List.getElem_of_mem member
        refine .inr ⟨same.symm, index, List.getElem?_eq_getElem within, ?_⟩
        have found : (mailbox.pending.findIdx fun other => other.slot = command.slot) = index := by
          refine (List.findIdx_eq within).mpr ⟨by simpa using same, fun earlier before => ?_⟩
          have distinct := List.pairwise_iff_getElem.mp unique earlier index (by simp; omega)
            (by simpa using within) before
          simp only [List.getElem_map] at distinct
          simpa using fun equal => distinct (equal.trans same.symm)
        exact (supersede_of_present present).trans (by rw [found])
      · exact .inl ((mem_supersede unique).mpr (.inr ⟨member, same⟩))
  | appended => exact .inl (List.mem_append_left _ member)
  | evicted accepted absent full lifecycle' before victim after split older evictable =>
      rw [split] at member
      refine .inl (List.mem_append_left _ ?_)
      rcases List.mem_append.mp member with earlier | later
      · exact List.mem_append_left _ earlier
      · rcases List.mem_cons.mp later with rfl | later
        · exact absurd lifecycle (by simp [evictable])
        · exact List.mem_append_right _ later

theorem SubmitsTuning.protects {mailbox next : CommandMailbox S} {command : SetMovementTuningCommand S}
    {queued : Command S} (submits : SubmitsTuning mailbox command next)
    (unique : mailbox.slots.Nodup) (member : queued ∈ mailbox.pending)
    (lifecycle : isEntityLifecycleCommand queued.kind = true) :
    queued ∈ next.pending ∨
      ReplacedInPlace mailbox.pending next.pending queued (.setMovementTuning command) := by
  cases submits with
  | unaccepted | rejected | inFlight => exact .inl member
  | limited exchange found fresh idle retry limited refusal =>
      subst refusal
      exact .inl member
  | admitted exchange found fresh idle wellFormed eligibleAt result inserted inserts =>
      exact inserts.protects unique member lifecycle
  | full exchange found fresh idle eligibleAt inserted inserts =>
      exact inserts.protects unique member lifecycle

/-- A pending lifecycle command leaves only by a drain or under a newer command of its slot. -/
theorem Accounted.protects {mailbox : CommandMailbox S} (accounted : Accounted mailbox)
    (operation : MailboxOperation S) {queued : Command S} (member : queued ∈ mailbox.pending)
    (lifecycle : isEntityLifecycleCommand queued.kind = true) :
    queued ∈ (mailbox.apply operation).pending ∨ operation = .drain ∨
      ∃ newer, operation.submission = some newer ∧
        ReplacedInPlace mailbox.pending (mailbox.apply operation).pending queued newer := by
  have submitted : ∀ {next : CommandMailbox S} {newer : Command S},
      (queued ∈ next.pending ∨ ReplacedInPlace mailbox.pending next.pending queued newer) →
      queued ∈ next.pending ∨ operation = .drain ∨ ∃ other, some newer = some other ∧
        ReplacedInPlace mailbox.pending next.pending queued other :=
    fun outcome => outcome.imp_right fun replaced => .inr ⟨_, rfl, replaced⟩
  cases operation with
  | submit command now =>
      rcases submit_cases mailbox command now with ⟨tuning, rfl, applied⟩ | ⟨-, applied⟩
      · simp only [CommandMailbox.apply, applied]
        exact submitted ((submitTuning_submits mailbox tuning now).protects accounted.uniqueSlots
          member lifecycle)
      · simp only [CommandMailbox.apply, applied]
        exact submitted ((submitLocked_inserts mailbox.countSubmitted command).protects
          accounted.uniqueSlots member lifecycle)
  | submitTuning command now =>
      exact submitted ((submitTuning_submits mailbox command now).protects accounted.uniqueSlots
        member lifecycle)
  | registerController controller =>
      rcases registerController_cases mailbox controller with refused | ⟨-, registered⟩
      · exact .inl (by simpa only [CommandMailbox.apply, refused] using member)
      · exact .inl (by simpa only [CommandMailbox.apply, registered] using member)
  | retireController controller =>
      rcases retireController_cases mailbox controller with ⟨-, unknown⟩ | ⟨-, -, result, inserts⟩
      · exact .inl (by simpa only [CommandMailbox.apply, unknown] using member)
      · exact submitted (inserts.protects accounted.uniqueSlots member lifecycle)
  | drain => exact .inr (.inl rfl)
  | completeTuningDecisions decisions =>
      exact .inl ((completeTuningDecisions_frame mailbox decisions).1 ▸ member)
  | claimTuningResult controller tick =>
      rcases claimTuningResult_cases mailbox controller tick with same | ⟨_, _, -, -, claimed⟩
      · exact .inl (by simpa only [CommandMailbox.apply, same] using member)
      · exact .inl (by simpa only [CommandMailbox.apply, claimed, updateExchange_pending] using member)

theorem accounted_of_run {acceptedKinds : CommandKindMask} {length : Nat}
    (run : Run (@MailboxStep S _) length) (start : run.state 0 = .create acceptedKinds) :
    ∀ position, position ≤ length → Accounted (run.state position) := by
  refine run.invariant (start ▸ accounted_create acceptedKinds) ?_
  rintro mailbox operation _ accounted rfl
  exact accounted.apply operation

/-- Bounds, uniqueness and conservation at every state of a run, and protection across its steps. -/
theorem mailbox_accounting {acceptedKinds : CommandKindMask} {length : Nat}
    (run : Run (@MailboxStep S _) length) (start : run.state 0 = .create acceptedKinds) :
    (∀ position, position ≤ length →
      (run.state position).pending.length ≤ maximumMailboxCommandCount ∧
      (run.state position).slots.Nodup ∧
      (run.state position).statistics.submittedCommandCount =
        (run.state position).statistics.drainedCommandCount +
          UInt64.ofNat (run.state position).statistics.pendingCommandCount +
          (run.state position).statistics.supersededCommandCount +
          (run.state position).statistics.droppedCommandCount +
          (run.state position).statistics.rejectedUnacceptedKindCount +
          (run.state position).statistics.rejectedTuningCommandCount +
          (run.state position).statistics.rateLimitedTuningCommandCount) ∧
    ∀ position, position < length → ∀ queued ∈ (run.state position).pending,
      isEntityLifecycleCommand queued.kind = true →
      queued ∈ (run.state (position + 1)).pending ∨ run.label position = .drain ∨
        ∃ newer, (run.label position).submission = some newer ∧
          ReplacedInPlace (run.state position).pending (run.state (position + 1)).pending queued
            newer := by
  have accounted := accounted_of_run run start
  refine ⟨fun position within => ?_, fun position before queued member lifecycle => ?_⟩
  · have here := accounted position within
    exact ⟨here.bounded, here.uniqueSlots, here.balanced⟩
  · have step := run.steps position before
    rw [show run.state (position + 1) = _ from step]
    exact (accounted position (Nat.le_of_lt before)).protects (run.label position) member lifecycle

/-- Two submissions of one slot, at an evaluation instance. -/
theorem mailbox_accounting_resubmission :
    let run : Run (@MailboxStep ℚ _) 2 :=
      Run.ofLabels CommandMailbox.apply (.create .all) (fun _ => .submit (.spawn ⟨.first⟩) 0) 2
    (run.state 2).pending.length ≤ maximumMailboxCommandCount ∧ (run.state 2).slots.Nodup := by
  intro run
  have accounted := (mailbox_accounting run rfl).1 2 (Nat.le_refl 2)
  exact ⟨accounted.1, accounted.2.1⟩

section Departure

/-- A departing controller's Leave has somewhere to go. -/
def LeaveFits (mailbox : CommandMailbox S) (controller : ControllerId) : Prop :=
  mailbox.pending.length < maximumMailboxCommandCount ∨
    (∃ queued ∈ mailbox.pending, isEntityLifecycleCommand queued.kind = false) ∨
    .leave ⟨controller⟩ ∈ mailbox.pending

theorem eq_leave_of_slot {command : Command S} {controller : ControllerId}
    (slot : command.slot = (.leave ⟨controller⟩ : Command S).slot) :
    command = .leave ⟨controller⟩ := by
  cases command <;> simp [Command.slot, Command.kind, Command.addressedIdentity,
    AddressedIdentity.ofController] at slot
  next leave =>
    cases leave
    cases slot
    rfl

theorem leave_mem_slots {mailbox : CommandMailbox S} {controller : ControllerId} :
    (.leave ⟨controller⟩ : Command S).slot ∈ mailbox.slots ↔ .leave ⟨controller⟩ ∈ mailbox.pending := by
  constructor
  · intro present
    obtain ⟨queued, member, slot⟩ := List.mem_map.mp present
    exact eq_leave_of_slot slot ▸ member
  · exact fun member => List.mem_map.mpr ⟨_, member, rfl⟩

theorem Inserts.keeps_leave_iff {mailbox next : CommandMailbox S} {controller : ControllerId}
    {result : CommandSubmissionResult} (inserts : Inserts mailbox (.leave ⟨controller⟩) result next)
    (accepts : mailbox.acceptedKinds.contains .leave = true) :
    .leave ⟨controller⟩ ∈ next.pending ↔ LeaveFits mailbox controller := by
  cases inserts with
  | unaccepted refused => exact absurd accepts (by simpa [Command.kind] using refused)
  | superseded accepted present =>
      refine ⟨fun _ => .inr (.inr (leave_mem_slots.mp present)), fun _ => ?_⟩
      exact leave_mem_slots.mp (by
        rw [CommandMailbox.slots, map_supersede, if_pos present]
        exact present)
  | appended accepted absent room =>
      exact ⟨fun _ => .inl room, fun _ => List.mem_append_right _ (List.mem_singleton.mpr rfl)⟩
  | evicted accepted absent full lifecycle before victim after split older evictable =>
      refine ⟨fun _ => .inr (.inl ⟨victim, ?_, evictable⟩),
        fun _ => List.mem_append_right _ (List.mem_singleton.mpr rfl)⟩
      exact split ▸ List.mem_append_right _ List.mem_cons_self
  | lifecycleDropped accepted absent full lifecycle unevictable =>
      refine ⟨fun member => .inr (.inr member), fun fits => ?_⟩
      rcases fits with room | ⟨queued, member, evictable⟩ | member
      · exact absurd room (Nat.not_lt_of_le full)
      · exact absurd (unevictable queued member) (by simp [evictable])
      · exact member
  | dropped accepted absent full other => cases other

theorem acceptedKinds_apply (mailbox : CommandMailbox S) (operation : MailboxOperation S) :
    (mailbox.apply operation).acceptedKinds = mailbox.acceptedKinds := by
  have tunes : ∀ {command next}, SubmitsTuning mailbox command next →
      next.acceptedKinds = mailbox.acceptedKinds := by
    intro command next submits
    cases submits with
    | unaccepted | rejected | inFlight => rfl
    | limited exchange found fresh idle retry limited refusal =>
        subst refusal
        rfl
    | admitted exchange found fresh idle wellFormed eligibleAt result inserted inserts =>
        exact inserts.acceptedKinds_eq
    | full exchange found fresh idle eligibleAt inserted inserts => exact inserts.acceptedKinds_eq
  cases operation with
  | submit command now =>
      rcases submit_cases mailbox command now with ⟨tuning, rfl, applied⟩ | ⟨-, applied⟩
      · simp only [CommandMailbox.apply, applied]
        exact tunes (submitTuning_submits mailbox tuning now)
      · simp only [CommandMailbox.apply, applied]
        exact (submitLocked_inserts mailbox.countSubmitted command).acceptedKinds_eq
  | submitTuning command now => exact tunes (submitTuning_submits mailbox command now)
  | registerController controller =>
      rcases registerController_cases mailbox controller with refused | ⟨-, registered⟩
      · simp only [CommandMailbox.apply, refused]
      · simp only [CommandMailbox.apply, registered]
  | retireController controller =>
      rcases retireController_cases mailbox controller with ⟨-, unknown⟩ | ⟨-, -, result, inserts⟩
      · simp only [CommandMailbox.apply, unknown]
      · exact inserts.acceptedKinds_eq
  | drain => rfl
  | completeTuningDecisions decisions => exact (completeTuningDecisions_frame mailbox decisions).2.2
  | claimTuningResult controller tick =>
      rcases claimTuningResult_cases mailbox controller tick with same | ⟨_, _, -, -, claimed⟩
      · simp only [CommandMailbox.apply, same]
      · simp only [CommandMailbox.apply, claimed, updateExchange_acceptedKinds]

theorem acceptedKinds_of_run {acceptedKinds : CommandKindMask} {length : Nat}
    (run : Run (@MailboxStep S _) length) (start : run.state 0 = .create acceptedKinds) :
    ∀ position, position ≤ length → (run.state position).acceptedKinds = acceptedKinds := by
  refine @Run.invariant _ _ _ _ run (fun mailbox => mailbox.acceptedKinds = acceptedKinds)
    (congrArg (·.acceptedKinds) start) ?_
  rintro mailbox operation _ accepted rfl
  exact (acceptedKinds_apply mailbox operation).trans accepted

/-- A successful retirement keeps its Leave exactly when the Leave fits. -/
theorem retire_keeps_leave_iff {acceptedKinds : CommandKindMask} {length : Nat}
    (run : Run (@MailboxStep S _) length) (start : run.state 0 = .create acceptedKinds)
    (accepts : acceptedKinds.contains .leave = true) {position : Nat} (before : position < length)
    {controller : ControllerId} (retires : run.label position = .retireController controller)
    (returned : ((run.state position).retireController controller).1 = true) :
    .leave ⟨controller⟩ ∈ (run.state (position + 1)).pending ↔
      LeaveFits (run.state position) controller := by
  have step : run.state (position + 1) = ((run.state position).retireController controller).2 := by
    rw [show run.state (position + 1) = _ from run.steps position before, retires]
    rfl
  have accepted := acceptedKinds_of_run run start position (Nat.le_of_lt before)
  rw [step]
  rcases retireController_cases (run.state position) controller with
    ⟨-, unknown⟩ | ⟨-, -, result, inserts⟩
  · simp [unknown] at returned
  · exact inserts.keeps_leave_iff (accepted ▸ accepts)

/-- A registration and a departure with an empty queue between them. -/
theorem retire_keeps_leave_empty :
    let run : Run (@MailboxStep ℚ _) 2 := Run.ofLabels CommandMailbox.apply (.create .all)
      (fun position => if position = 0 then .registerController .first else .retireController .first) 2
    .leave ⟨.first⟩ ∈ (run.state 2).pending := by
  intro run
  exact (retire_keeps_leave_iff run rfl (CommandKindMask.all_contains _) (Nat.lt_succ_self 1) rfl
    (by decide +kernel)).mpr (.inl (by decide +kernel))

def crowdController (index : Nat) : ControllerId :=
  ⟨min index maximumMailboxCommandCount + 1, Nat.le_add_left _ _,
    Nat.succ_le_succ (Nat.le_trans (Nat.min_le_right _ _) (by decide))⟩

/-- Registration, a spawn for each of `size` controllers, then the departure. -/
def crowdedDeparture (size : Nat) : Nat → MailboxOperation ℚ
  | 0 => .registerController .first
  | position + 1 =>
      if position < size then .submit (.spawn ⟨crowdController position⟩) 0
      else .retireController .first

def crowdedMailbox (size : Nat) : Nat → CommandMailbox ℚ :=
  trajectory CommandMailbox.apply (.create .all) (crowdedDeparture size)

theorem crowdedMailbox_fills {size count : Nat} (capacity : size ≤ maximumMailboxCommandCount)
    (within : count ≤ size) :
    (crowdedMailbox size (count + 1)).pending =
        (List.range count).map (fun index => .spawn ⟨crowdController index⟩) ∧
      (crowdedMailbox size (count + 1)).acceptedKinds = .all ∧
      ((crowdedMailbox size (count + 1)).findExchange .first).isSome = true := by
  induction count with
  | zero => exact ⟨rfl, rfl, rfl⟩
  | succ count ih =>
      obtain ⟨pending, accepted, registered⟩ := ih (Nat.le_of_succ_le within)
      have step : crowdedMailbox size (count + 1 + 1) =
          ((crowdedMailbox size (count + 1)).countSubmitted.submitLocked
            (.spawn ⟨crowdController count⟩)).2 := by
        show (crowdedMailbox size (count + 1)).apply (crowdedDeparture size (count + 1)) = _
        have sooner : count < size := within
        simp only [crowdedDeparture, if_pos sooner]
        rfl
      have inserts := submitLocked_inserts (crowdedMailbox size (count + 1)).countSubmitted
        (.spawn ⟨crowdController count⟩)
      have absent : (.spawn ⟨crowdController count⟩ : Command ℚ).slot ∉
          (crowdedMailbox size (count + 1)).slots := by
        rw [CommandMailbox.slots, pending]
        simp only [List.map_map, List.mem_map, List.mem_range, Function.comp_apply, not_exists,
          not_and, Command.slot, Command.addressedIdentity, AddressedIdentity.ofController,
          crowdController, Command.kind, Prod.mk.injEq, true_and]
        omega
      have room : (crowdedMailbox size (count + 1)).pending.length < maximumMailboxCommandCount := by
        rw [pending, List.length_map, List.length_range]
        exact Nat.lt_of_lt_of_le within capacity
      rw [step]
      generalize (crowdedMailbox size (count + 1)).countSubmitted.submitLocked _ = inserted
        at inserts ⊢
      obtain ⟨result, next⟩ := inserted
      cases inserts with
      | unaccepted refused =>
          have accepts := CommandKindMask.all_contains .spawn
          rw [← accepted] at accepts
          exact absurd accepts (Bool.eq_false_iff.mp refused)
      | superseded _ present => exact absurd present absent
      | appended =>
          refine ⟨?_, accepted, registered⟩
          rw [List.range_succ, List.map_append, ← pending]
          rfl
      | evicted _ _ full => exact absurd room (Nat.not_lt_of_le full)
      | lifecycleDropped _ _ full => exact absurd room (Nat.not_lt_of_le full)
      | dropped _ _ full => exact absurd room (Nat.not_lt_of_le full)

theorem crowdedDeparture_drops {size : Nat} (full : size = maximumMailboxCommandCount) :
    ((crowdedMailbox size (size + 1)).retireController .first).1 = true ∧
      .leave ⟨.first⟩ ∉ ((crowdedMailbox size (size + 1)).retireController .first).2.pending := by
  obtain ⟨pending, accepted, registered⟩ := crowdedMailbox_fills (Nat.le_of_eq full) (Nat.le_refl size)
  rcases retireController_cases (crowdedMailbox size (size + 1)) .first with
    ⟨absent, -⟩ | ⟨-, returned, result, inserts⟩
  · simp [absent] at registered
  · have accepts := CommandKindMask.all_contains .leave
    rw [← accepted] at accepts
    refine ⟨returned, fun kept => ?_⟩
    rcases (inserts.keeps_leave_iff accepts).mp kept with room | ⟨queued, member, evictable⟩ | member
    · have length := congrArg List.length pending
      rw [List.length_map, List.length_range] at length
      exact absurd room (Nat.not_lt_of_le (Nat.le_of_eq (full.symm.trans length.symm)))
    · obtain ⟨index, -, rfl⟩ := List.mem_map.mp (pending ▸ member)
      cases evictable
    · obtain ⟨index, -, spawn⟩ := List.mem_map.mp (pending ▸ member)
      cases spawn

/-- A retirement that reports success and leaves no Leave behind. -/
theorem departing_leave_dropped :
    ∃ (length : Nat) (run : Run (@MailboxStep ℚ _) length) (position : Nat),
      run.state 0 = .create .all ∧ position < length ∧
      run.label position = .retireController .first ∧
      ((run.state position).retireController .first).1 = true ∧
      .leave ⟨.first⟩ ∉ (run.state (position + 1)).pending := by
  obtain ⟨size, full⟩ : ∃ size, size = maximumMailboxCommandCount := ⟨_, rfl⟩
  obtain ⟨returned, dropped⟩ := crowdedDeparture_drops full
  have departs : crowdedDeparture size (size + 1) = .retireController .first :=
    if_neg (Nat.lt_irrefl size)
  refine ⟨size + 2, Run.ofLabels CommandMailbox.apply (.create .all) (crowdedDeparture size) _,
    size + 1, rfl, Nat.lt_succ_self _, departs, returned, ?_⟩
  show .leave ⟨.first⟩ ∉
    ((crowdedMailbox size (size + 1)).apply (crowdedDeparture size (size + 1))).pending
  rw [departs]
  exact dropped

end Departure

end BlobRoyale.Runtime
