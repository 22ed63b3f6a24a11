import BlobRoyale.Protocol.CommandDecodingSoundness

/-!
# The admission of a frame

A frame is decoded exactly where the envelope and the payload of one accepted kind admit it, into a command of
that kind with the identity the server stamps, which every later check takes.
-/

namespace BlobRoyale.Protocol

open BlobRoyale.Simulation BlobRoyale.Runtime JsonValue Decoding ClosedMembers

variable {S : Type} [Scalar S]

/-- The sink refuses no command whose values a batch takes, but for its catalogue and an unissued despawn. -/
theorem validateCommandValues_of_wellFormed (sink : CommandSink S) {command : Command S}
    (wellFormed : command.WellFormed .none) (kept : ∀ despawn, command ≠ .despawn despawn)
    (declared : ∀ seatNpc, command = .seatNpc seatNpc → sink.npcCatalogue.contains seatNpc.declaration = true) :
    sink.validateCommandValues command = .ok .accepted := by
  cases command with
  | despawn despawn => exact absurd rfl (kept despawn)
  | thrust thrust | charge thrust =>
    obtain ⟨⟨rangeX, rangeY⟩, positive⟩ := wellFormed
    simp only [CommandSink.validateCommandValues, rangeX, rangeY, positive, Bool.and_self, Bool.not_true,
      Bool.false_eq_true, if_false]
  | shield shield | rotateVelocity shield =>
    have positive : shield.inputGeneration ≠ some .zero := wellFormed
    simp only [CommandSink.validateCommandValues, positive, if_false]
  | seatNpc seatNpc =>
    have within : ¬maximumLobbySeatCount ≤ seatNpc.seatIndex := Nat.not_le_of_lt wellFormed
    simp only [CommandSink.validateCommandValues, within, declared seatNpc rfl, Bool.not_true, Bool.false_eq_true,
      if_false]
  | clearSeat clearSeat =>
    have within : ¬maximumLobbySeatCount ≤ clearSeat.seatIndex := Nat.not_le_of_lt wellFormed
    simp only [CommandSink.validateCommandValues, within, if_false]
  | setSeatCount seatCount =>
    obtain ⟨least, most⟩ := wellFormed
    have within : ¬(seatCount.seatCount < minimumSeatCount ∨ maximumSeatCount < seatCount.seatCount) := by omega
    simp only [CommandSink.validateCommandValues, within, if_false]
  | join join =>
    obtain ⟨declares, within⟩ := wellFormed
    have valid : join.expectedNpc.any (fun expected => !(join.seatIndex.isSome && expected.isValid)) = false := by
      cases named : join.expectedNpc with
      | none => rfl
      | some expected => simp only [Option.any_some, declares expected named, Bool.and_self, Bool.not_true]
    have seated : join.seatIndex.any (fun index => decide (maximumLobbySeatCount ≤ index)) = false := by
      cases named : join.seatIndex with
      | none => rfl
      | some index => exact decide_eq_false (Nat.not_le_of_lt (within index named))
    simp only [CommandSink.validateCommandValues, valid, seated, Bool.false_eq_true, if_false]
  | setMovementTuning tuning =>
    obtain ⟨positive, below, revisable⟩ := wellFormed
    have request : ¬(tuning.tuningRequestId = 0 ∨ maximumProtocolSafeInteger < tuning.tuningRequestId) := by omega
    have revision : ¬maximumProtocolSafeInteger < tuning.expectedRevision := by omega
    simp only [CommandSink.validateCommandValues, request, revision, if_false]
  | spawn spawn | startMatch spawn | leave spawn => rfl

section Frames

variable {parse : Parser S} {frame : List UInt8} {acceptedKinds : CommandKindMask} {stampedEntity : EntityId}
variable {stampedController : ControllerId} {catalogue : NpcCatalogue}

theorem decodePayload_decodes [WireScalar S] {kind : CommandKind} {wireName : String}
    (named : clientCommandWireName kind = some wireName) {payload : List (String × JsonValue S)}
    (distinct : Distinct payload) : Decodes catalogue kind stampedEntity stampedController payload
      (decodePayload payload stampedEntity stampedController kind catalogue) := by
  cases kind with
  | thrust => exact decodeSetThrust_decodes distinct
  | shield => exact decodeShield_decodes distinct
  | charge => exact decodeCharge_decodes distinct
  | rotateVelocity => exact decodeRotateVelocity_decodes distinct
  | setSeatCount => exact decodeSetSeatCount_decodes distinct
  | clearSeat => exact decodeClearSeat_decodes distinct
  | seatNpc => exact decodeSeatNpc_decodes distinct
  | startMatch => exact decodeStartMatch_decodes distinct
  | setMovementTuning => exact decodeSetMovementTuning_decodes distinct
  | spawn | despawn | leave | join => cases named

/-- A frame up to its payload. -/
structure Enveloped (parse : Parser S) (frame : List UInt8) (acceptedKinds : CommandKindMask) (kind : CommandKind)
    (payload : List (String × JsonValue S)) : Prop where
  bounded : frame.length ≤ clientMessageMaximumByteCount
  parsed : ∃ document envelope wireName, parse frame = some document ∧ document.val = .object envelope ∧
    Within envelope ["kind", "payload"] ∧ envelope.lookup "kind" = some (.string wireName) ∧
    envelope.lookup "payload" = some (.object payload) ∧ clientCommandWireName kind = some wireName
  accepted : acceptedKinds.contains kind = true

theorem Enveloped.distinct {kind : CommandKind} {payload : List (String × JsonValue S)}
    (enveloped : Enveloped parse frame acceptedKinds kind payload) : Distinct payload := by
  obtain ⟨document, envelope, wireName, -, isObject, -, -, found, -⟩ := enveloped.parsed
  have unique : JsonValue.Unique (.object envelope) := isObject ▸ document.property
  exact (unique.member found).distinct

theorem Enveloped.named {kind : CommandKind} {payload : List (String × JsonValue S)}
    (enveloped : Enveloped parse frame acceptedKinds kind payload) :
    ∃ wireName, clientCommandWireName kind = some wireName := by
  obtain ⟨-, -, wireName, -, -, -, -, -, named⟩ := enveloped.parsed
  exact ⟨wireName, named⟩

theorem frameAdmitted_iff {kind : CommandKind} {payload : List (String × JsonValue S)} :
    FrameAdmitted parse frame acceptedKinds catalogue kind payload ↔
      Enveloped parse frame acceptedKinds kind payload ∧ PayloadAdmitted catalogue kind payload :=
  ⟨fun admitted => ⟨⟨admitted.bounded, admitted.parsed, admitted.accepted⟩, admitted.payload⟩,
    fun ⟨enveloped, admitted⟩ => ⟨enveloped.bounded, enveloped.parsed, enveloped.accepted, admitted⟩⟩

theorem envelope_length_iff {S : Type} {envelope : List (String × JsonValue S)} (distinct : Distinct envelope)
    {encodedKind encodedPayload : JsonValue S} (kind : envelope.lookup "kind" = some encodedKind)
    (payload : envelope.lookup "payload" = some encodedPayload) :
    envelope.length = 2 ↔ Within envelope ["kind", "payload"] := by
  have nodup : ["kind", "payload"].Nodup := by simp
  refine length_eq_iff_within distinct nodup fun name listed => ?_
  simp only [List.mem_cons, List.not_mem_nil, or_false] at listed
  obtain rfl | rfl := listed
  · rw [kind, Option.isSome_some]
  · rw [payload, Option.isSome_some]

theorem decodeCommandEnvelope_eq_pure {command : Command S} :
    decodeCommandEnvelope parse frame acceptedKinds stampedEntity stampedController catalogue = pure command ↔
      ∃ kind payload, Enveloped parse frame acceptedKinds kind payload ∧
        decodePayload payload stampedEntity stampedController kind catalogue = pure command := by
  simp only [decodeCommandEnvelope, bind_eq_pure, check_eq_pure, required_eq_pure, decide_eq_true_eq, beq_iff_eq,
    object?_eq_some, string?_eq_some, clientCommandKindOfWireName_eq_some]
  constructor
  · rintro ⟨-, bounded, document, parsed, envelope, isObject, -, counted, _, foundKind, _, foundPayload, payload, rfl,
      wireName, rfl, kind, named, -, accepted, decoded⟩
    have distinct : Distinct envelope := (isObject ▸ document.property : JsonValue.Unique (.object envelope)).distinct
    exact ⟨kind, payload, ⟨bounded, ⟨document, envelope, wireName, parsed, isObject,
      (envelope_length_iff distinct foundKind foundPayload).mp counted, foundKind, foundPayload, named⟩, accepted⟩,
      decoded⟩
  · rintro ⟨kind, payload, ⟨bounded, ⟨document, envelope, wireName, parsed, isObject, within, foundKind, foundPayload,
      named⟩, accepted⟩, decoded⟩
    have distinct : Distinct envelope := (isObject ▸ document.property : JsonValue.Unique (.object envelope)).distinct
    exact ⟨(), bounded, document, parsed, envelope, isObject, (),
      (envelope_length_iff distinct foundKind foundPayload).mpr within, _, foundKind, _, foundPayload, payload, rfl,
      wireName, rfl, kind, named, (), accepted, decoded⟩

theorem decodeCommandEnvelope_answers [WireScalar S] :
    Answers (decodeCommandEnvelope parse frame acceptedKinds stampedEntity stampedController catalogue) := by
  refine answers_bind (answers_check _ _) fun _ _ => answers_bind (answers_required _ _) fun document _ =>
    answers_bind (answers_required _ _) fun envelope isObject => answers_bind (answers_check _ _) fun _ _ =>
      answers_bind (answers_required _ _) fun _ _ => answers_bind (answers_required _ _) fun _ found =>
        answers_bind (answers_required _ _) fun payload isPayload => answers_bind (answers_required _ _) fun _ _ =>
          answers_bind (answers_required _ _) fun kind known => answers_bind (answers_check _ _) fun _ _ => ?_
  have object := object?_eq_some.mp (required_eq_pure.mp isObject)
  have member := object?_eq_some.mp (required_eq_pure.mp isPayload)
  have unique : JsonValue.Unique (.object envelope) := object ▸ document.property
  have distinct : Distinct payload := (member ▸ unique.member (required_eq_pure.mp found) :
    JsonValue.Unique (.object payload)).distinct
  exact (decodePayload_decodes (clientCommandKindOfWireName_eq_some.mp (required_eq_pure.mp known)) distinct).answers

/-- No frame makes the decoder throw; it accepts a frame as one of a kind exactly where the frame is one, and
what it accepts is of that kind, carries the stamped identity, and passes the sink and the batch. -/
theorem wire_decodes_admitted [WireScalar S] (parse : Parser S) (frame : List UInt8) (acceptedKinds : CommandKindMask)
    (stampedEntity : EntityId) (stampedController : ControllerId) (catalogue : NpcCatalogue) :
    ∃ result : CommandDecodeResult S,
      (decodeCommandEnvelope parse frame acceptedKinds stampedEntity stampedController catalogue).run = .ok result ∧
        (∀ kind, (∃ command, result = .ok command ∧ command.kind = kind) ↔
          ∃ payload, FrameAdmitted parse frame acceptedKinds catalogue kind payload) ∧
        ∀ command, result = .ok command →
          command.addressedIdentity = stampedIdentity stampedEntity stampedController command.kind ∧
            (∀ sink : CommandSink S, sink.npcCatalogue = catalogue →
              sink.validateCommandValues command = .ok .accepted) ∧
            ∀ reservation submissionIndex, validateCommand command acceptedKinds reservation submissionIndex = .ok () := by
  have answers : Answers (decodeCommandEnvelope parse frame acceptedKinds stampedEntity stampedController catalogue) :=
    decodeCommandEnvelope_answers
  obtain ⟨result, run⟩ := answers
  have accepted {command : Command S} : result = .ok command ↔
      decodeCommandEnvelope parse frame acceptedKinds stampedEntity stampedController catalogue = pure command := by
    constructor
    · rintro rfl
      exact run
    · intro decoded
      have same : (.ok result : Except SimulationValidationError (CommandDecodeResult S)) = .ok (.ok command) :=
        run.symm.trans (congrArg ExceptT.run decoded)
      exact Except.ok.inj same
  refine ⟨result, run, fun kind => ?_, fun command taken => ?_⟩
  · simp only [accepted, decodeCommandEnvelope_eq_pure, frameAdmitted_iff]
    constructor
    · rintro ⟨command, ⟨kind', payload, enveloped, decoded⟩, rfl⟩
      obtain ⟨wireName, named⟩ := enveloped.named
      have decodes : Decodes catalogue _ stampedEntity stampedController payload _ :=
        decodePayload_decodes named enveloped.distinct
      have ofKind := (decodes.commands command decoded).ofKind
      exact ⟨payload, ofKind ▸ enveloped, ofKind ▸ decodes.accepts.mp ⟨command, decoded⟩⟩
    · rintro ⟨payload, enveloped, admitted⟩
      obtain ⟨wireName, named⟩ := enveloped.named
      have decodes : Decodes catalogue _ stampedEntity stampedController payload _ :=
        decodePayload_decodes named enveloped.distinct
      obtain ⟨command, decoded⟩ := decodes.accepts.mpr admitted
      exact ⟨command, ⟨kind, payload, enveloped, decoded⟩, (decodes.commands command decoded).ofKind⟩
  · obtain ⟨kind, payload, enveloped, decoded⟩ := decodeCommandEnvelope_eq_pure.mp (accepted.mp taken)
    obtain ⟨wireName, named⟩ := enveloped.named
    have isDecoded := (decodePayload_decodes named enveloped.distinct).commands command decoded
    obtain rfl := isDecoded.ofKind
    refine ⟨isDecoded.identity, fun sink shared => ?_, fun reservation index => ?_⟩
    · refine validateCommandValues_of_wellFormed sink (isDecoded.wellFormed _) ?_ fun seatNpc same => ?_
      · rintro despawn rfl
        cases named
      · rw [shared]
        exact isDecoded.declared seatNpc same
    · exact validateCommand_eq_ok.mpr ⟨enveloped.accepted, isDecoded.wellFormed reservation⟩

def shieldDocument : { document : JsonValue ℚ // document.Unique } where
  val := .object [("kind", .string "shield"), ("payload", .object [("input_generation", .null)])]
  property := by
    have payload : JsonValue.Unique (.object [("input_generation", (.null : JsonValue ℚ))]) :=
      .object (List.nodup_singleton _) fun member listed => by
        cases List.mem_singleton.mp listed
        exact .null
    refine .object (by simp [Distinct]) fun member listed => ?_
    rcases List.mem_pair.mp listed with rfl | rfl
    · exact .string "shield"
    · exact payload

theorem wire_decodes_admitted_shield :
    ∃ payload, FrameAdmitted (fun _ => some shieldDocument) [] .all .empty .shield payload := by
  obtain ⟨result, run, accepts, -⟩ :=
    wire_decodes_admitted (fun _ => some shieldDocument) [] .all .first .first .empty
  have decoded : (.ok result : Except SimulationValidationError (CommandDecodeResult ℚ)) =
      .ok (.ok (.shield ⟨.first, none⟩)) := run.symm.trans rfl
  exact (accepts .shield).mp ⟨_, Except.ok.inj decoded, rfl⟩

end Frames

end BlobRoyale.Protocol
