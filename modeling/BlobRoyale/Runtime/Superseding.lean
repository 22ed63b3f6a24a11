import BlobRoyale.Runtime.MailboxAccounting

/-!
# Superseding is lossless

While nothing drains and the slots fit, the queue is the submission sequence folded through
`supersede`, and canonicalization only sees the newest command of each slot. The batch of the drained
queue is therefore the batch of everything submitted.
-/

namespace BlobRoyale.Runtime

open BlobRoyale.Simulation LastWriter Transition

variable {S : Type} [Scalar S]

/-- The command one operation submits: a retirement submits a Leave when its controller is registered. -/
def CommandMailbox.submitted (mailbox : CommandMailbox S) : MailboxOperation S → Option (Command S)
  | .retireController controller =>
      if (mailbox.findExchange controller).isSome then some (.leave ⟨controller⟩) else none
  | operation => operation.submission

/-- Everything the first `count` operations of a run submit, in submission order. -/
def submissions {length : Nat} (run : Run (@MailboxStep S _) length) (count : Nat) : List (Command S) :=
  (List.range count).filterMap fun position => (run.state position).submitted (run.label position)

def acceptedSubmissions {length : Nat} (run : Run (@MailboxStep S _) length) (count : Nat) :
    List (Command S) :=
  (submissions run count).filter fun command => (run.state 0).acceptedKinds.contains command.kind

/-- How many kinds and addressed identities a sequence of commands distinguishes. -/
def distinctSlotCount (commands : List (Command S)) : Nat :=
  (commands.map Command.slot).toFinset.card

theorem distinctSlotCount_le_append (commands more : List (Command S)) :
    distinctSlotCount commands ≤ distinctSlotCount (commands ++ more) := by
  refine Finset.card_le_card ?_
  rw [List.map_append, List.toFinset_append]
  exact Finset.subset_union_left

/-- The queue an accepted sequence leaves behind, when nothing overflows. -/
def superseded (commands : List (Command S)) : List (Command S) :=
  commands.foldl (fun queue command => supersede Command.slot command queue) []

theorem superseded_concat (commands : List (Command S)) (command : Command S) :
    superseded (commands ++ [command]) = supersede Command.slot command (superseded commands) := by
  simp only [superseded, List.foldl_append, List.foldl_cons, List.foldl_nil]

theorem superseded_slots_nodup (commands : List (Command S)) :
    ((superseded commands).map Command.slot).Nodup :=
  (latest_foldl_supersede commands (CommandKind.spawn, 0)).2

theorem mem_superseded_slots (commands : List (Command S)) (slot : CommandKind × Nat) :
    slot ∈ (superseded commands).map Command.slot ↔ slot ∈ commands.map Command.slot := by
  induction commands using List.reverseRecOn with
  | nil => rfl
  | append_singleton commands command ih =>
      rw [superseded_concat, map_supersede, List.map_append, List.mem_append, List.map_singleton,
        List.mem_singleton, ← ih]
      split
      · next present => exact ⟨.inl, fun member => member.elim id fun same => same ▸ present⟩
      · rw [List.mem_append, List.mem_singleton]

theorem mem_of_mem_superseded {commands : List (Command S)} {command : Command S}
    (member : command ∈ superseded commands) : command ∈ commands :=
  mem_of_latest ((latest_foldl_supersede commands command.slot).1 ▸
    (latest_eq_some_iff (superseded_slots_nodup commands)).mpr ⟨member, rfl⟩)

theorem length_superseded (commands : List (Command S)) :
    (superseded commands).length = distinctSlotCount commands := by
  rw [distinctSlotCount, ← List.length_map Command.slot,
    ← List.toFinset_card_of_nodup (superseded_slots_nodup commands)]
  congr 1
  ext slot
  simp only [List.mem_toFinset, mem_superseded_slots]

theorem Inserts.pending_eq {mailbox next : CommandMailbox S} {command : Command S}
    {result : CommandSubmissionResult} (inserts : Inserts mailbox command result next)
    (room : command.slot ∉ mailbox.slots → mailbox.acceptedKinds.contains command.kind = true →
      mailbox.pending.length < maximumMailboxCommandCount) :
    next.pending = if mailbox.acceptedKinds.contains command.kind then
      supersede Command.slot command mailbox.pending else mailbox.pending := by
  cases inserts with
  | unaccepted refused => rw [if_neg (Bool.eq_false_iff.mp refused)]
  | superseded accepted => rw [if_pos accepted]
  | appended accepted absent => rw [if_pos accepted, supersede_of_absent absent]
  | evicted accepted absent full => exact absurd (room absent accepted) (Nat.not_lt_of_le full)
  | lifecycleDropped accepted absent full => exact absurd (room absent accepted) (Nat.not_lt_of_le full)
  | dropped accepted absent full => exact absurd (room absent accepted) (Nat.not_lt_of_le full)

theorem pending_of_unsubmitted {mailbox : CommandMailbox S} {operation : MailboxOperation S}
    (keeps : operation ≠ .drain) (unsubmitted : mailbox.submitted operation = none) :
    (mailbox.apply operation).pending = mailbox.pending := by
  cases operation with
  | submit | submitTuning => cases unsubmitted
  | registerController controller =>
      rcases registerController_cases mailbox controller with refused | ⟨-, registered⟩
      · simp only [CommandMailbox.apply, refused]
      · simp only [CommandMailbox.apply, registered]
  | retireController controller =>
      rcases retireController_cases mailbox controller with ⟨-, unknown⟩ | ⟨registered, -⟩
      · simp only [CommandMailbox.apply, unknown]
      · simp [CommandMailbox.submitted, registered] at unsubmitted
  | drain => exact absurd rfl keeps
  | completeTuningDecisions decisions => exact (completeTuningDecisions_frame mailbox decisions).1
  | claimTuningResult controller tick =>
      rcases claimTuningResult_cases mailbox controller tick with same | ⟨_, _, -, -, claimed⟩
      · simp only [CommandMailbox.apply, same]
      · simp only [CommandMailbox.apply, claimed, CommandMailbox.updateExchange]

theorem inserts_of_submitted {mailbox : CommandMailbox S} {operation : MailboxOperation S}
    {command : Command S} (submitted : mailbox.submitted operation = some command)
    (other : command.kind ≠ .setMovementTuning) :
    ∃ before result, before.pending = mailbox.pending ∧ before.acceptedKinds = mailbox.acceptedKinds ∧
      Inserts before command result (mailbox.apply operation) := by
  cases operation with
  | submit made now =>
      cases submitted
      rcases submit_cases mailbox command now with ⟨tuning, rfl, -⟩ | ⟨-, applied⟩
      · exact absurd rfl other
      · refine ⟨mailbox.countSubmitted, (mailbox.countSubmitted.submitLocked command).1, rfl, rfl, ?_⟩
        simp only [CommandMailbox.apply, applied]
        exact submitLocked_inserts _ _
  | submitTuning tuning now =>
      cases submitted
      exact absurd rfl other
  | retireController controller =>
      rcases retireController_cases mailbox controller with ⟨unknown, -⟩ | ⟨registered, -, result, inserts⟩
      · simp [CommandMailbox.submitted, unknown] at submitted
      · simp only [CommandMailbox.submitted, registered, if_true, Option.some.injEq] at submitted
        subst submitted
        exact ⟨mailbox.retiring controller, result, rfl, rfl, inserts⟩
  | registerController | drain | completeTuningDecisions | claimTuningResult => cases submitted

variable {length : Nat} {run : Run (@MailboxStep S _) length}

theorem acceptedKinds_of_position (position : Nat) (within : position ≤ length) :
    (run.state position).acceptedKinds = (run.state 0).acceptedKinds := by
  refine @Run.invariant _ _ _ _ run
    (fun mailbox => mailbox.acceptedKinds = (run.state 0).acceptedKinds) rfl ?_ position within
  rintro mailbox operation _ accepted rfl
  exact (acceptedKinds_apply mailbox operation).trans accepted

theorem submissions_succ (count : Nat) :
    submissions run (count + 1) =
      submissions run count ++ ((run.state count).submitted (run.label count)).toList := by
  rw [submissions, List.range_succ, List.filterMap_append]
  cases made : (run.state count).submitted (run.label count) <;> simp [submissions, made]

theorem submissions_initial {count : Nat} (within : count ≤ length) :
    submissions run count <+: submissions run length := by
  have ranges : List.range count <+: List.range length := by
    rw [← Nat.min_eq_left within, ← List.take_range]
    exact List.take_prefix _ _
  exact ranges.filterMap _

theorem distinctSlotCount_acceptedSubmissions {count : Nat} (within : count ≤ length) :
    distinctSlotCount (acceptedSubmissions run count) ≤
      distinctSlotCount (acceptedSubmissions run length) := by
  obtain ⟨later, split⟩ := (@submissions_initial S _ length run count within).filter fun command =>
    (run.state 0).acceptedKinds.contains command.kind
  rw [acceptedSubmissions, acceptedSubmissions, ← split]
  exact distinctSlotCount_le_append _ _

theorem pending_eq_superseded (drained : (run.state 0).pending = [])
    (quiet : ∀ position, position < length → run.label position ≠ .drain)
    (nonTuning : ∀ command ∈ submissions run length, command.kind ≠ .setMovementTuning)
    (bounded : distinctSlotCount (acceptedSubmissions run length) ≤ maximumMailboxCommandCount)
    {count : Nat} (within : count ≤ length) :
    (run.state count).pending = superseded (acceptedSubmissions run count) := by
  induction count with
  | zero => exact drained
  | succ count ih =>
      have before : count < length := within
      have pending := ih (Nat.le_of_lt before)
      have accepts := @acceptedKinds_of_position S _ length run count (Nat.le_of_lt before)
      have grows := @submissions_succ S _ length run count
      rw [show run.state (count + 1) = _ from run.steps count before]
      cases made : (run.state count).submitted (run.label count) with
      | none =>
          rw [pending_of_unsubmitted (quiet count before) made, pending, acceptedSubmissions,
            acceptedSubmissions, grows, made, Option.toList_none, List.append_nil]
      | some command =>
          rw [made, Option.toList_some] at grows
          have member : command ∈ submissions run length :=
            (submissions_initial within).subset (grows ▸ List.mem_append_right _ (.head _))
          obtain ⟨mailbox, result, samePending, sameKinds, inserts⟩ :=
            inserts_of_submitted made (nonTuning command member)
          have grown : acceptedSubmissions run (count + 1) = acceptedSubmissions run count ++
              if mailbox.acceptedKinds.contains command.kind then [command] else [] := by
            rw [acceptedSubmissions, grows, List.filter_append, sameKinds, accepts]
            simp only [acceptedSubmissions, List.filter_cons, List.filter_nil]
          have room : command.slot ∉ mailbox.slots →
              mailbox.acceptedKinds.contains command.kind = true →
              mailbox.pending.length < maximumMailboxCommandCount := by
            intro absent accepted
            have fits := Nat.le_trans (@distinctSlotCount_acceptedSubmissions S _ length run _ within)
              bounded
            rw [CommandMailbox.slots, samePending, pending] at absent
            rw [grown, if_pos accepted, ← length_superseded, superseded_concat,
              length_supersede, if_neg absent] at fits
            rw [samePending, pending]
            exact fits
          rw [inserts.pending_eq room, grown, samePending, pending]
          split
          · rw [superseded_concat]
          · rw [List.append_nil]

/-- The batch of a drained queue is the batch of everything submitted since the drain before it. -/
theorem superseding_is_lossless {reservation : EntityIdReservation}
    (drained : (run.state 0).pending = [])
    (quiet : ∀ position, position < length → run.label position ≠ .drain)
    (nonTuning : ∀ command ∈ submissions run length, command.kind ≠ .setMovementTuning)
    (bounded : distinctSlotCount (acceptedSubmissions run length) ≤ maximumMailboxCommandCount)
    (accepted : ∃ batch, InputBatch.create (acceptedSubmissions run length)
      (run.state 0).acceptedKinds reservation = .ok batch) :
    InputBatch.create (run.state length).drain.1 (run.state length).acceptedKinds reservation =
      InputBatch.create (acceptedSubmissions run length) (run.state 0).acceptedKinds reservation := by
  have pending := pending_eq_superseded drained quiet nonTuning bounded (Nat.le_refl length)
  have kinds := @acceptedKinds_of_position S _ length run length (Nat.le_refl length)
  have subset : ∀ command ∈ (run.state length).pending, command ∈ acceptedSubmissions run length := by
    intro command member
    exact mem_of_mem_superseded (pending ▸ member)
  have capacity : maximumMailboxCommandCount ≤ maximumInputBatchCommandCount := by decide
  obtain ⟨batch, created⟩ := accepted
  obtain ⟨-, valid, commands, sameReservation⟩ := InputBatch.create_eq_ok.mp created
  rw [created, kinds, InputBatch.create_eq_ok]
  refine ⟨?_, fun command member => valid command (subset command member), ?_, sameReservation⟩
  · rw [CommandMailbox.drain, pending, length_superseded]
    exact Nat.le_trans bounded capacity
  · rw [commands, CommandMailbox.drain, pending]
    exact canonicalCommands_congr fun slot => (latest_foldl_supersede _ slot).1.symm

/-- A seat count asked for, a spawn, and the seat count asked for again. -/
def resizeTwice : Nat → MailboxOperation ℚ
  | 0 => .submit (.setSeatCount ⟨.first, 3⟩) 0
  | 1 => .submit (.spawn ⟨.first⟩) 0
  | _ => .submit (.setSeatCount ⟨.first, 5⟩) 0

theorem superseding_is_lossless_resize :
    let run : Run (@MailboxStep ℚ _) 3 := Run.ofLabels CommandMailbox.apply (.create .all) resizeTwice 3
    InputBatch.create (run.state 3).drain.1 (run.state 3).acceptedKinds .none =
      InputBatch.create (acceptedSubmissions run 3) .all .none := by
  intro run
  have made : acceptedSubmissions run 3 =
      [.setSeatCount ⟨.first, 3⟩, .spawn ⟨.first⟩, .setSeatCount ⟨.first, 5⟩] := by decide +kernel
  have all : ∀ command ∈ acceptedSubmissions run 3, CommandKindMask.all.contains command.kind = true ∧
      command.WellFormed .none := by
    rw [made]
    refine fun command member => ⟨CommandKindMask.all_contains _, ?_⟩
    simp only [List.mem_cons, List.not_mem_nil, or_false] at member
    rcases member with rfl | rfl | rfl
    · exact ⟨by decide, by decide⟩
    · trivial
    · exact ⟨by decide, by decide⟩
  have quiet : ∀ position, resizeTwice position ≠ .drain := by
    rintro (_ | _ | _) <;> exact nofun
  exact superseding_is_lossless rfl (fun position _ => quiet position) (by decide +kernel)
    (by decide +kernel) (InputBatch.exists_create_eq_ok.mpr ⟨by rw [made]; decide, all⟩)

end BlobRoyale.Runtime
