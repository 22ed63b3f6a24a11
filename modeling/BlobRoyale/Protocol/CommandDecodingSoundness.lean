import BlobRoyale.Protocol.DecodedValues
import BlobRoyale.Runtime.CommandPathSafety

/-!
# The wire decodes only what the engine takes

Each decoder takes exactly the payloads of its kind's schema, calls no constructor that throws, and leaves a
command the sink and the batch accept.
-/

namespace BlobRoyale.Protocol

open BlobRoyale.Simulation BlobRoyale.Runtime JsonValue Decoding ClosedMembers

variable {S : Type} [Scalar S]

/-- What is decoded of a kind: the stamped identity, and values every later check takes. -/
structure Decoded (catalogue : NpcCatalogue) (kind : CommandKind) (stampedEntity : EntityId)
    (stampedController : ControllerId) (command : Command S) : Prop where
  ofKind : command.kind = kind
  identity : command.addressedIdentity = stampedIdentity stampedEntity stampedController kind
  wellFormed : ∀ reservation, command.WellFormed reservation
  declared : ∀ seatNpc, command = .seatNpc seatNpc → catalogue.contains seatNpc.declaration = true

structure Decodes (catalogue : NpcCatalogue) (kind : CommandKind) (stampedEntity : EntityId)
    (stampedController : ControllerId) (payload : List (String × JsonValue S)) (decoded : Decoding (Command S)) :
    Prop where
  accepts : Accepts decoded ↔ PayloadAdmitted catalogue kind payload
  answers : Answers decoded
  commands : ∀ command, decoded = pure command → Decoded catalogue kind stampedEntity stampedController command

theorem payloadAdmitted_iff {catalogue : NpcCatalogue} {kind : CommandKind} {payload : List (String × JsonValue S)}
    (other : kind ≠ .seatNpc) : PayloadAdmitted catalogue kind payload ↔ (payloadSchema kind).Admits payload :=
  ⟨fun admitted => admitted.shape, fun shape => ⟨shape, fun same => absurd same other⟩⟩

section Kinds

variable {catalogue : NpcCatalogue} {payload : List (String × JsonValue S)} {stampedEntity : EntityId}
variable {controller : ControllerId}

theorem all_isBool_iff {S : Type} {encoded : Option (JsonValue S)} :
    encoded.all JsonValue.isBool = true ↔ ∀ value, encoded = some value → Boolean value := by
  cases encoded with
  | none => exact iff_of_true rfl (by rintro value ⟨⟩)
  | some found =>
    simp only [Option.all_some, Option.some.injEq, forall_eq']
    cases found with
    | bool flag => exact iff_of_true rfl ⟨flag, rfl⟩
    | _ => exact iff_of_false (by rintro ⟨⟩) (by rintro ⟨flag, ⟨⟩⟩)

theorem string?_eq_some {S : Type} {value : JsonValue S} {text : String} :
    value.string? = some text ↔ value = .string text := by
  cases value with
  | string found => simp only [JsonValue.string?, Option.some.injEq, JsonValue.string.injEq]
  | _ => exact iff_of_false (by rintro ⟨⟩) (by rintro ⟨⟩)

theorem object?_eq_some {S : Type} {value : JsonValue S} {members : List (String × JsonValue S)} :
    value.object? = some members ↔ value = .object members := by
  cases value with
  | object found => simp only [JsonValue.object?, Option.some.injEq, JsonValue.object.injEq]
  | _ => exact iff_of_false (by rintro ⟨⟩) (by rintro ⟨⟩)

theorem decodeSetThrust_decodes [WireScalar S] (distinct : Distinct payload) :
    Decodes catalogue .thrust stampedEntity controller payload (decodeSetThrust payload stampedEntity) where
  accepts := by
    rw [payloadAdmitted_iff (by rintro ⟨⟩),
      PayloadSchema.admits_iff distinct (by simp [payloadSchema, PayloadSchema.names])]
    rw [decodeSetThrust, accepts_check, accepts_bind_of fun ⟨x, y⟩ decoded => by
      obtain ⟨direction, created, -⟩ := createDirection decoded
      exact accepts_bind_iff fun generation _ => (accepts_constructed created).mpr (accepts_pure _)]
    rw [decodeDirection_accepts, decodeInputGeneration_accepts, Bool.and_eq_true, beq_iff_eq, all_isBool_iff]
    simp only [payloadSchema, PayloadSchema.names, List.map_cons, List.map_nil, expected, List.length_cons,
      List.length_nil, List.countP_cons, List.countP_nil, List.forall_mem_cons, List.not_mem_nil,
      false_implies, implies_true, and_true, present]
    constructor
    · rintro ⟨⟨counted, braking⟩, direction, generation⟩
      exact ⟨by omega, direction, generation, braking⟩
    · rintro ⟨counted, direction, generation, braking⟩
      exact ⟨⟨by omega, braking⟩, direction, generation⟩
  answers := by
    refine answers_bind (answers_check _ _) fun _ _ => answers_bind decodeDirection_answers fun ⟨x, y⟩ decoded => ?_
    obtain ⟨direction, created, -⟩ := createDirection decoded
    exact answers_bind decodeInputGeneration_answers fun _ _ =>
      answers_bind (answers_constructed created) fun _ _ => answers_pure _
  commands command decoded := by
    simp only [decodeSetThrust, bind_eq_pure, check_eq_pure, constructed_eq_pure, pure_inj] at decoded
    obtain ⟨-, -, ⟨x, y⟩, components, generation, generated, direction, created, rfl⟩ := decoded
    obtain ⟨direction', created', rangeX, rangeY⟩ := createDirection components
    cases created.symm.trans created'
    exact ⟨rfl, rfl, fun _ => ⟨⟨rangeX, rangeY⟩, decodeInputGeneration_positive generated⟩, by rintro seatNpc ⟨⟩⟩

theorem decodeCharge_decodes [WireScalar S] (distinct : Distinct payload) :
    Decodes catalogue .charge stampedEntity controller payload (decodeCharge payload stampedEntity) where
  accepts := by
    rw [payloadAdmitted_iff (by rintro ⟨⟩),
      PayloadSchema.admits_iff distinct (by simp [payloadSchema, PayloadSchema.names])]
    rw [decodeCharge, accepts_check, accepts_bind_of fun ⟨x, y⟩ decoded => by
      obtain ⟨direction, created, -⟩ := createDirection decoded
      exact accepts_bind_iff fun generation _ => (accepts_constructed created).mpr (accepts_pure _)]
    rw [decodeDirection_accepts, decodeInputGeneration_accepts, beq_iff_eq]
    simp only [payloadSchema, PayloadSchema.names, List.map_cons, List.map_nil, expected, List.length_cons,
      List.length_nil, List.countP_cons, List.countP_nil, List.forall_mem_cons, List.not_mem_nil,
      false_implies, implies_true, and_true]
    refine and_congr_left fun _ => Eq.congr_right ?_
    cases payload.lookup "input_generation" <;> rfl
  answers := by
    refine answers_bind (answers_check _ _) fun _ _ => answers_bind decodeDirection_answers fun ⟨x, y⟩ decoded => ?_
    obtain ⟨direction, created, -⟩ := createDirection decoded
    exact answers_bind decodeInputGeneration_answers fun _ _ =>
      answers_bind (answers_constructed created) fun _ _ => answers_pure _
  commands command decoded := by
    simp only [decodeCharge, bind_eq_pure, check_eq_pure, constructed_eq_pure, pure_inj] at decoded
    obtain ⟨-, -, ⟨x, y⟩, components, generation, generated, direction, created, rfl⟩ := decoded
    obtain ⟨direction', created', rangeX, rangeY⟩ := createDirection components
    cases created.symm.trans created'
    exact ⟨rfl, rfl, fun _ => ⟨⟨rangeX, rangeY⟩, decodeInputGeneration_positive generated⟩, by rintro seatNpc ⟨⟩⟩

theorem decodeShield_decodes (distinct : Distinct payload) :
    Decodes catalogue .shield stampedEntity controller payload (decodeShield payload stampedEntity) where
  accepts := by
    rw [payloadAdmitted_iff (by rintro ⟨⟩),
      PayloadSchema.admits_iff distinct (by simp [payloadSchema, PayloadSchema.names])]
    simp only [decodeShield, accepts_check, accepts_required, beq_iff_eq, accepts_bind_iff fun _ _ => accepts_pure _,
      decodeInputGeneration_accepts]
    simp only [payloadSchema, PayloadSchema.names, List.map_cons, List.map_nil, expected, List.length_cons,
      List.length_nil, List.countP_nil, List.forall_mem_cons, List.not_mem_nil,
      false_implies, implies_true, and_true]
    refine and_congr Iff.rfl (exists_congr fun value => and_congr_right fun _ => ?_)
    cases value with
    | null => exact iff_of_true (by rintro value ⟨⟩) (.inl rfl)
    | _ => simp only [JsonValue.isNull, Bool.false_eq_true, if_false, Option.some.injEq, forall_eq', reduceCtorEq, false_or]
  answers := answers_bind (answers_check _ _) fun _ _ => answers_bind (answers_required _ _) fun _ _ =>
    answers_bind decodeInputGeneration_answers fun _ _ => answers_pure _
  commands command decoded := by
    simp only [decodeShield, bind_eq_pure, check_eq_pure, pure_inj] at decoded
    obtain ⟨-, -, encoded, -, generation, generated, rfl⟩ := decoded
    exact ⟨rfl, rfl, fun _ => decodeInputGeneration_positive generated, by rintro seatNpc ⟨⟩⟩

theorem decodeRotateVelocity_decodes (distinct : Distinct payload) :
    Decodes catalogue .rotateVelocity stampedEntity controller payload
      (decodeRotateVelocity payload stampedEntity) where
  accepts := by
    rw [payloadAdmitted_iff (by rintro ⟨⟩),
      PayloadSchema.admits_iff distinct (by simp [payloadSchema, PayloadSchema.names])]
    simp only [decodeRotateVelocity, accepts_check, accepts_required, beq_iff_eq,
      accepts_bind_iff fun _ _ => accepts_pure _, decodeInputGeneration_accepts, string?_eq_some, Bool.or_eq_true]
    simp only [payloadSchema, PayloadSchema.names, List.map_cons, List.map_nil, expected, List.length_cons,
      List.length_nil, List.countP_cons, List.countP_nil, List.forall_mem_cons, List.not_mem_nil,
      false_implies, implies_true, and_true]
    have counted : (if (payload.lookup "input_generation").isNone = true then 1 else 2) =
        0 + 1 + (0 + if (payload.lookup "input_generation").isSome = true then 1 else 0) := by
      cases payload.lookup "input_generation" <;> rfl
    rw [counted]
    refine and_congr_right fun _ => ?_
    constructor
    · rintro ⟨value, found, text, rfl, side, generation⟩
      exact ⟨⟨.string text, found, side.imp (congrArg _) (congrArg _)⟩, generation⟩
    · rintro ⟨⟨value, found, side⟩, generation⟩
      obtain rfl | rfl := side
      · exact ⟨_, found, "left", rfl, .inl rfl, generation⟩
      · exact ⟨_, found, "right", rfl, .inr rfl, generation⟩
  answers := answers_bind (answers_check _ _) fun _ _ => answers_bind (answers_required _ _) fun _ _ =>
    answers_bind (answers_required _ _) fun _ _ => answers_bind (answers_check _ _) fun _ _ =>
      answers_bind decodeInputGeneration_answers fun _ _ => answers_pure _
  commands command decoded := by
    simp only [decodeRotateVelocity, bind_eq_pure, check_eq_pure, pure_inj] at decoded
    obtain ⟨-, -, encoded, -, text, -, -, -, generation, generated, rfl⟩ := decoded
    exact ⟨rfl, rfl, fun _ => decodeInputGeneration_positive generated, by rintro seatNpc ⟨⟩⟩

theorem decodeSetSeatCount_decodes (distinct : Distinct payload) :
    Decodes catalogue .setSeatCount stampedEntity controller payload (decodeSetSeatCount payload controller) where
  accepts := by
    rw [payloadAdmitted_iff (by rintro ⟨⟩),
      PayloadSchema.admits_iff distinct (by simp [payloadSchema, PayloadSchema.names])]
    simp only [decodeSetSeatCount, accepts_check, accepts_required, beq_iff_eq, accepts_pure, and_true,
      ← unsignedIn_iff]
    simp only [payloadSchema, PayloadSchema.names, List.map_cons, List.map_nil, expected, List.length_cons,
      List.length_nil, List.countP_nil, List.forall_mem_cons, List.not_mem_nil, false_implies, implies_true, and_true]
  answers := answers_bind (answers_check _ _) fun _ _ => answers_bind (answers_required _ _) fun _ _ =>
    answers_bind (answers_required _ _) fun _ _ => answers_pure _
  commands command decoded := by
    simp only [decodeSetSeatCount, bind_eq_pure, check_eq_pure, required_eq_pure, pure_inj] at decoded
    obtain ⟨-, -, encoded, -, seatCount, bounded, rfl⟩ := decoded
    obtain ⟨-, range⟩ := boundedUnsignedOf_eq_some.mp bounded
    exact ⟨rfl, rfl, fun _ => range, by rintro seatNpc ⟨⟩⟩

theorem decodeClearSeat_decodes (distinct : Distinct payload) :
    Decodes catalogue .clearSeat stampedEntity controller payload (decodeClearSeat payload controller) where
  accepts := by
    rw [payloadAdmitted_iff (by rintro ⟨⟩),
      PayloadSchema.admits_iff distinct (by simp [payloadSchema, PayloadSchema.names])]
    simp only [decodeClearSeat, decodeSeatIndex, accepts_check, accepts_required, beq_iff_eq, accepts_pure, and_true,
      ← unsignedIn_iff]
    simp only [payloadSchema, PayloadSchema.names, List.map_cons, List.map_nil, expected, List.length_cons,
      List.length_nil, List.countP_nil, List.forall_mem_cons, List.not_mem_nil, false_implies, implies_true, and_true]
  answers := answers_bind (answers_check _ _) fun _ _ => answers_bind (answers_required _ _) fun _ _ =>
    answers_bind (answers_required _ _) fun _ _ => answers_pure _
  commands command decoded := by
    simp only [decodeClearSeat, decodeSeatIndex, bind_eq_pure, check_eq_pure, required_eq_pure, pure_inj] at decoded
    obtain ⟨-, -, encoded, -, seatIndex, bounded, rfl⟩ := decoded
    obtain ⟨-, -, below⟩ := boundedUnsignedOf_eq_some.mp bounded
    exact ⟨rfl, rfl, fun _ => Nat.lt_succ_of_le below, by rintro seatNpc ⟨⟩⟩

theorem decodeStartMatch_decodes (distinct : Distinct payload) :
    Decodes catalogue .startMatch stampedEntity controller payload (decodeStartMatch payload controller) where
  accepts := by
    rw [payloadAdmitted_iff (by rintro ⟨⟩),
      PayloadSchema.admits_iff distinct (by simp [payloadSchema, PayloadSchema.names])]
    simp only [decodeStartMatch, accepts_check, accepts_pure, and_true, List.isEmpty_iff_length_eq_zero]
    simp only [payloadSchema, PayloadSchema.names, List.map_nil, expected, List.length_nil, List.countP_nil,
      List.not_mem_nil, false_implies, implies_true, and_true]
  answers := answers_bind (answers_check _ _) fun _ _ => answers_pure _
  commands command decoded := by
    simp only [decodeStartMatch, bind_eq_pure, check_eq_pure, pure_inj] at decoded
    obtain ⟨-, -, rfl⟩ := decoded
    exact ⟨rfl, rfl, fun _ => trivial, by rintro seatNpc ⟨⟩⟩

section Tuning

theorem requireTuningScalar_eq_ok {value minimum maximum : S} {context : String}
    (finite : Scalar.isFinite value = true) (above : minimum ≤ value) (below : value ≤ maximum) :
    MovementTuning.requireTuningScalar value minimum maximum context = .ok () := by
  rw [MovementTuning.requireTuningScalar, if_pos finite, if_neg]
  rintro (under | beyond)
  · exact not_lt.mpr above under
  · exact not_lt.mpr below beyond

theorem createTuning [WireScalar S] {acceleration speed charge lethal nonlethal : S}
    (accelerates : decodeScalar payload "acceleration_world_units_per_second_squared"
      movementAccelerationMinimum movementAccelerationMaximum = pure acceleration)
    (tops : decodeScalar payload "normal_top_speed_world_units_per_second"
      movementNormalTopSpeedMinimum movementNormalTopSpeedMaximum = pure speed)
    (charges : decodeScalar payload "charge_speed_fraction" 0 movementChargeSpeedFractionMaximum = pure charge)
    (kills : decodeScalar payload "lethal_spawn_rate_per_second" 0 movementCrossingSpawnRateMaximum = pure lethal)
    (spares : decodeScalar payload "nonlethal_spawn_rate_per_second" 0 movementCrossingSpawnRateMaximum =
      pure nonlethal) :
    ∃ tuning, MovementTuning.create acceleration speed charge lethal nonlethal = .ok tuning := by
  obtain ⟨_, -, spelled, above, below⟩ := decodeScalar_eq_pure.mp accelerates
  obtain ⟨_, -, spelled', above', below'⟩ := decodeScalar_eq_pure.mp tops
  obtain ⟨_, -, charged, least, most⟩ := decodeScalar_eq_pure.mp charges
  obtain ⟨_, -, killing, least', most'⟩ := decodeScalar_eq_pure.mp kills
  obtain ⟨_, -, sparing, least'', most''⟩ := decodeScalar_eq_pure.mp spares
  rw [WireScalar.chargeSpeedFraction] at most
  exact ⟨_, bind_eq_ok.mpr ⟨(), requireTuningScalar_eq_ok spelled.finite above below,
    bind_eq_ok.mpr ⟨(), requireTuningScalar_eq_ok spelled'.finite above' below',
      bind_eq_ok.mpr ⟨(), requireTuningScalar_eq_ok charged.finite least most,
        bind_eq_ok.mpr ⟨(), requireTuningScalar_eq_ok killing.finite least' most',
          bind_eq_ok.mpr ⟨(), requireTuningScalar_eq_ok sparing.finite least'' most'', rfl⟩⟩⟩⟩⟩⟩

theorem decodeTuning_accepts [WireScalar S] : Accepts (decodeTuning payload) ↔
    ((∃ value, payload.lookup "acceleration_world_units_per_second_squared" = some value ∧
        NumberIn movementAccelerationMinimum movementAccelerationMaximum value) ∧
      (∃ value, payload.lookup "normal_top_speed_world_units_per_second" = some value ∧
        NumberIn movementNormalTopSpeedMinimum movementNormalTopSpeedMaximum value) ∧
      (∃ value, payload.lookup "charge_speed_fraction" = some value ∧
        NumberIn 0 movementChargeSpeedFractionMaximum value) ∧
      (∃ value, payload.lookup "lethal_spawn_rate_per_second" = some value ∧
        NumberIn 0 movementCrossingSpawnRateMaximum value) ∧
      ∃ value, payload.lookup "nonlethal_spawn_rate_per_second" = some value ∧
        NumberIn 0 movementCrossingSpawnRateMaximum value) := by
  simp only [← decodeScalar_accepts]
  refine accepts_bind_of fun acceleration accelerates => accepts_bind_of fun speed tops =>
    accepts_bind_of fun charge charges => accepts_bind_of fun lethal kills =>
      accepts_bind_iff fun nonlethal spares => ?_
  obtain ⟨tuning, created⟩ := createTuning accelerates tops charges kills spares
  exact ⟨tuning, constructed_eq_pure.mpr created⟩

theorem decodeTuning_answers [WireScalar S] : Answers (decodeTuning payload) := by
  refine answers_bind decodeScalar_answers fun acceleration accelerates =>
    answers_bind decodeScalar_answers fun speed tops => answers_bind decodeScalar_answers fun charge charges =>
      answers_bind decodeScalar_answers fun lethal kills =>
        answers_bind decodeScalar_answers fun nonlethal spares => ?_
  obtain ⟨tuning, created⟩ := createTuning accelerates tops charges kills spares
  exact answers_constructed created

theorem decodeSetMovementTuning_decodes [WireScalar S] (distinct : Distinct payload) :
    Decodes catalogue .setMovementTuning stampedEntity controller payload
      (decodeSetMovementTuning payload controller) where
  accepts := by
    rw [payloadAdmitted_iff (by rintro ⟨⟩),
      PayloadSchema.admits_iff distinct (by simp [payloadSchema, PayloadSchema.names])]
    simp only [decodeSetMovementTuning, accepts_check, accepts_required, beq_iff_eq,
      accepts_bind_iff fun _ _ => accepts_pure _, decodeTuning_accepts]
    simp only [payloadSchema, PayloadSchema.names, List.map_cons, List.map_nil, expected, List.length_cons,
      List.length_nil, List.countP_nil, List.forall_mem_cons, List.not_mem_nil, false_implies, implies_true, and_true,
      unsignedIn_iff]
    refine and_congr_right fun _ => ?_
    constructor
    · rintro ⟨encodedId, foundId, encodedRevision, foundRevision, requestId, bounded, revision, revised, controls⟩
      exact ⟨⟨encodedId, foundId, requestId, bounded⟩, ⟨encodedRevision, foundRevision, revision, revised⟩, controls⟩
    · rintro ⟨⟨encodedId, foundId, requestId, bounded⟩, ⟨encodedRevision, foundRevision, revision, revised⟩, controls⟩
      exact ⟨encodedId, foundId, encodedRevision, foundRevision, requestId, bounded, revision, revised, controls⟩
  answers := answers_bind (answers_check _ _) fun _ _ => answers_bind (answers_required _ _) fun _ _ =>
    answers_bind (answers_required _ _) fun _ _ => answers_bind (answers_required _ _) fun _ _ =>
      answers_bind (answers_required _ _) fun _ _ => answers_bind decodeTuning_answers fun _ _ => answers_pure _
  commands command decoded := by
    simp only [decodeSetMovementTuning, bind_eq_pure, check_eq_pure, required_eq_pure, pure_inj] at decoded
    obtain ⟨-, -, _, -, _, -, requestId, bounded, revision, revised, tuning, -, rfl⟩ := decoded
    obtain ⟨-, above, below⟩ := boundedUnsignedOf_eq_some.mp bounded
    obtain ⟨-, -, revisable⟩ := boundedUnsignedOf_eq_some.mp revised
    exact ⟨rfl, rfl, fun _ => ⟨Nat.one_le_iff_ne_zero.mp above, below, revisable⟩, by rintro seatNpc ⟨⟩⟩

end Tuning

section Npcs

theorem createKind {kind : String} (valid : isWireKindName kind = true) :
    BoundedName.create .seatKind kind = .ok ⟨kind, .inl valid⟩ := dif_pos valid

theorem createProfileName_of_contained {kind : String} {profileName : Option String}
    (contained : containsNames catalogue kind profileName = true) :
    ∃ profile, createProfileName profileName = pure profile ∧ profile.map BoundedName.value = profileName := by
  cases profileName with
  | none => exact ⟨none, rfl, rfl⟩
  | some name =>
    obtain ⟨declaration, -, matched⟩ := List.any_eq_true.mp contained
    rw [Bool.and_eq_true] at matched
    obtain ⟨registered, -, same⟩ := (Option.any_eq_true _ _).mp matched.2
    have valid : isWireKindName name = true := by
      rw [← eq_of_beq same]
      exact registered.valid.resolve_right fun empty => by cases empty.1
    refine ⟨some ⟨name, .inl valid⟩, ?_, rfl⟩
    have created : BoundedName.create .botProfile name = .ok ⟨name, .inl valid⟩ := dif_pos valid
    exact bind_eq_pure.mpr ⟨_, constructed_eq_pure.mpr created, rfl⟩

/-- The two spellings of `NpcCatalogue::contains` agree. -/
theorem contains_of_containsNames {kind : SeatKindName} {profile : Option BotProfileName}
    (contained : containsNames catalogue kind.value (profile.map BoundedName.value) = true) :
    catalogue.contains ⟨kind, profile⟩ = true := by
  have named {domain : NameDomain} {first second : BoundedName domain} (same : first.value = second.value) :
      first = second := by
    cases first
    cases second
    cases same
    rfl
  cases profile with
  | none =>
    obtain ⟨registered, listed, same⟩ := List.any_eq_true.mp contained
    have found : registered = kind := named (eq_of_beq same)
    exact List.contains_iff_mem.mpr (found ▸ listed)
  | some profile =>
    obtain ⟨declaration, listed, matched⟩ := List.any_eq_true.mp contained
    rw [Bool.and_eq_true] at matched
    obtain ⟨registered, found, same⟩ := (Option.any_eq_true _ _).mp matched.2
    have sameKind : declaration.kind = kind := named (eq_of_beq matched.1)
    have sameProfile : registered = profile := named (eq_of_beq same)
    refine List.any_eq_true.mpr ⟨declaration, listed, ?_⟩
    rw [sameKind, Option.mem_def.mp found, sameProfile, beq_self_eq_true, beq_self_eq_true, Bool.and_self]

theorem decodeProfileName_eq_pure {S : Type} {encoded : Option (JsonValue S)} {profileName : Option String} :
    decodeProfileName encoded = pure profileName ↔ encoded = profileName.map .string := by
  cases encoded with
  | none => cases profileName <;> simp [decodeProfileName, pure_inj]
  | some value =>
    simp only [decodeProfileName, bind_eq_pure, required_eq_pure, string?_eq_some, pure_inj]
    constructor
    · rintro ⟨name, rfl, rfl⟩
      rfl
    · intro same
      cases profileName with
      | none => cases same
      | some name => exact ⟨name, Option.some.inj same, rfl⟩

theorem decodeProfileName_answers {S : Type} {encoded : Option (JsonValue S)} :
    Answers (decodeProfileName encoded) := by
  cases encoded with
  | none => exact answers_pure _
  | some value => exact answers_bind (answers_required _ _) fun _ _ => answers_pure _

theorem accepts_profileName {S β : Type} {encoded : Option (JsonValue S)} {following : Option String → Decoding β} :
    Accepts (decodeProfileName encoded >>= following) ↔
      ∃ profileName, encoded = profileName.map .string ∧ Accepts (following profileName) := by
  simp only [accepts_bind, decodeProfileName_eq_pure]

theorem accepts_registered {β : Type} {kind : String} {profileName : Option String}
    {built : SeatKindName → Option BotProfileName → β} :
    ((containsNames catalogue kind profileName && isWireKindName kind) = true ∧
      Accepts (constructed (BoundedName.create .seatKind kind) >>= fun kind =>
        createProfileName profileName >>= fun profile => pure (built kind profile))) ↔
      containsNames catalogue kind profileName = true ∧ isWireKindName kind = true := by
  rw [Bool.and_eq_true]
  refine and_iff_left_of_imp fun ⟨contained, valid⟩ => ?_
  obtain ⟨profile, created, -⟩ := createProfileName_of_contained contained
  exact (accepts_constructed (createKind valid)).mpr (accepts_bind.mpr ⟨profile, created, accepts_pure _⟩)

theorem decodeSeatNpc_decodes (distinct : Distinct payload) :
    Decodes catalogue .seatNpc stampedEntity controller payload (decodeSeatNpc payload controller catalogue) where
  accepts := by
    have shape : (payloadSchema .seatNpc).Admits payload ↔ _ :=
      PayloadSchema.admits_iff distinct (by simp [payloadSchema, PayloadSchema.names])
    simp only [payloadSchema, PayloadSchema.names, List.map_cons, List.map_nil, expected, List.length_cons,
      List.length_nil, List.countP_cons, List.countP_nil, List.forall_mem_cons, List.not_mem_nil, false_implies,
      implies_true, and_true] at shape
    have counted : (if (payload.lookup "profile_name").isNone = true then 2 else 3) =
        0 + 1 + 1 + (0 + if (payload.lookup "profile_name").isSome = true then 1 else 0) := by
      cases payload.lookup "profile_name" <;> rfl
    simp only [decodeSeatNpc, decodeSeatIndex, accepts_check, accepts_required, beq_iff_eq, string?_eq_some,
      accepts_profileName, accepts_registered, counted]
    constructor
    · rintro ⟨length, seatIndex, foundIndex, encodedKind, foundKind, kind, rfl, index, bounded, profile, foundProfile,
        contained, valid⟩
      refine ⟨shape.mpr ⟨length, ⟨⟨seatIndex, foundIndex, unsignedIn_iff.mpr ⟨index, bounded⟩⟩,
        _, foundKind, kind, rfl⟩, fun value found => ?_⟩, fun _ => ⟨kind, profile, foundKind, foundProfile, valid, contained⟩⟩
      obtain ⟨name, -, rfl⟩ := Option.map_eq_some_iff.mp (foundProfile.symm.trans found)
      exact ⟨name, rfl⟩
    · intro admitted
      obtain ⟨length, ⟨⟨seatIndex, foundIndex, bounded⟩, -⟩, -⟩ := shape.mp admitted.shape
      obtain ⟨index, bounded⟩ := unsignedIn_iff.mp bounded
      obtain ⟨kind, profile, foundKind, foundProfile, valid, contained⟩ := admitted.registered rfl
      exact ⟨length, seatIndex, foundIndex, _, foundKind, kind, rfl, index, bounded, profile, foundProfile, contained, valid⟩
  answers := by
    refine answers_bind (answers_check _ _) fun _ _ => answers_bind (answers_required _ _) fun _ _ =>
      answers_bind (answers_required _ _) fun _ _ => answers_bind (answers_required _ _) fun npcKind _ =>
        answers_bind (answers_required _ _) fun _ _ => answers_bind decodeProfileName_answers fun profileName _ =>
          answers_bind (answers_check _ _) fun _ checked => ?_
    obtain ⟨contained, valid⟩ := Bool.and_eq_true_iff.mp (check_eq_pure.mp checked)
    obtain ⟨profile, created, -⟩ := createProfileName_of_contained contained
    exact answers_bind (answers_constructed (createKind valid)) fun _ _ =>
      answers_bind ⟨_, congrArg ExceptT.run created⟩ fun _ _ => answers_pure _
  commands command decoded := by
    simp only [decodeSeatNpc, decodeSeatIndex, bind_eq_pure, check_eq_pure, required_eq_pure, constructed_eq_pure,
      pure_inj, Bool.and_eq_true] at decoded
    obtain ⟨-, -, _, -, _, -, npcKind, -, seatIndex, bounded, profileName, -, -, ⟨contained, valid⟩, kind, named,
      profile, created, rfl⟩ := decoded
    obtain ⟨-, -, below⟩ := boundedUnsignedOf_eq_some.mp bounded
    obtain ⟨profile', created', values⟩ := createProfileName_of_contained contained
    cases (createKind valid).symm.trans named
    cases pure_inj.mp (created.symm.trans created')
    refine ⟨rfl, rfl, fun _ => Nat.lt_succ_of_le below, ?_⟩
    rintro seatNpc ⟨⟩
    exact contains_of_containsNames (values.symm ▸ contained)

end Npcs

end Kinds

end BlobRoyale.Protocol
