import BlobRoyale.Protocol.CommandDecoding
import BlobRoyale.Simulation.InputBatch

/-!
# What a decoder takes

How the steps of a decoder compose, and what each value a payload may hold is read as: a decoder takes a
value exactly where it is in range, and the constructor it then calls does not throw.
-/

namespace BlobRoyale.Protocol

open BlobRoyale.Simulation

namespace Decoding

variable {α β : Type} {decoded : Decoding α} {following : α → Decoding β}

def Accepts (decoded : Decoding α) : Prop := ∃ value, decoded = pure value

def Answers (decoded : Decoding α) : Prop := ∃ answer, decoded.run = .ok answer

theorem bind_eq_pure {value : β} :
    (decoded >>= following) = pure value ↔ ∃ first, decoded = pure first ∧ following first = pure value := by
  constructor
  · intro bound
    match decoded, bound with
    | .ok (.ok first), bound => exact ⟨first, rfl, bound⟩
    | .ok (.error rejection), bound => cases bound
    | .error thrown, bound => cases bound
  · rintro ⟨first, rfl, bound⟩
    exact bound

theorem accepts_bind : Accepts (decoded >>= following) ↔ ∃ first, decoded = pure first ∧ Accepts (following first) := by
  constructor
  · rintro ⟨value, bound⟩
    obtain ⟨first, taken, followed⟩ := bind_eq_pure.mp bound
    exact ⟨first, taken, value, followed⟩
  · rintro ⟨first, taken, value, followed⟩
    exact ⟨value, bind_eq_pure.mpr ⟨first, taken, followed⟩⟩

theorem accepts_bind_of {condition : Prop} (followed : ∀ first, decoded = pure first →
    (Accepts (following first) ↔ condition)) : Accepts (decoded >>= following) ↔ Accepts decoded ∧ condition := by
  rw [accepts_bind]
  constructor
  · rintro ⟨first, taken, accepts⟩
    exact ⟨⟨first, taken⟩, (followed first taken).mp accepts⟩
  · rintro ⟨⟨first, taken⟩, holds⟩
    exact ⟨first, taken, (followed first taken).mpr holds⟩

theorem accepts_bind_iff (followed : ∀ first, decoded = pure first → Accepts (following first)) :
    Accepts (decoded >>= following) ↔ Accepts decoded := by
  rw [accepts_bind_of fun first taken => iff_true_intro (followed first taken), and_true]

@[simp] theorem accepts_pure (value : α) : Accepts (pure value : Decoding α) := ⟨value, rfl⟩

theorem pure_inj {first second : α} : (pure first : Decoding α) = pure second ↔ first = second := by
  constructor
  · intro same
    cases same
    rfl
  · rintro rfl
    rfl

theorem required_eq_pure {rejection : CommandDecodeRejection} {encoded : Option α} {value : α} :
    required rejection encoded = pure value ↔ encoded = some value := by
  cases encoded with
  | none => exact iff_of_false (by rintro ⟨⟩) (by rintro ⟨⟩)
  | some found => exact pure_inj.trans ⟨congrArg some, Option.some.inj⟩

theorem check_eq_pure {rejection : CommandDecodeRejection} {condition : Bool} {value : Unit} :
    check rejection condition = pure value ↔ condition = true := by
  cases condition with
  | false => exact iff_of_false (by rintro ⟨⟩) (by rintro ⟨⟩)
  | true => exact ⟨fun _ => rfl, fun _ => rfl⟩

theorem constructed_eq_pure {made : Validated α} {value : α} : constructed made = pure value ↔ made = .ok value := by
  cases made with
  | error thrown => exact iff_of_false (by rintro ⟨⟩) (by rintro ⟨⟩)
  | ok found =>
    constructor
    · intro same
      cases same
      rfl
    · rintro ⟨⟩
      rfl

theorem accepts_required {rejection : CommandDecodeRejection} {encoded : Option α} :
    Accepts (required rejection encoded >>= following) ↔ ∃ value, encoded = some value ∧ Accepts (following value) := by
  simp only [accepts_bind, required_eq_pure]

theorem accepts_check {rejection : CommandDecodeRejection} {condition : Bool} {following : Unit → Decoding β} :
    Accepts (check rejection condition >>= following) ↔ condition = true ∧ Accepts (following ()) := by
  simp only [accepts_bind, check_eq_pure]
  exact ⟨fun ⟨_, holds⟩ => holds, fun holds => ⟨(), holds⟩⟩

theorem accepts_constructed {made : Validated α} {value : α} (built : made = .ok value) :
    Accepts (constructed made >>= following) ↔ Accepts (following value) := by
  rw [built]
  rfl

theorem answers_bind (answers : Answers decoded) (followed : ∀ first, decoded = pure first → Answers (following first)) :
    Answers (decoded >>= following) := by
  obtain ⟨answer, run⟩ := answers
  cases answer with
  | error rejection =>
    have refused : decoded = (.ok (.error rejection) : Except _ _) := run
    exact ⟨.error rejection, by rw [refused]; rfl⟩
  | ok first =>
    have taken : decoded = pure first := run
    obtain ⟨answer, followedRun⟩ := followed first taken
    exact ⟨answer, by rw [taken]; exact followedRun⟩

theorem answers_pure (value : α) : Answers (pure value : Decoding α) := ⟨.ok value, rfl⟩

theorem answers_required (rejection : CommandDecodeRejection) (encoded : Option α) :
    Answers (required rejection encoded) := by
  cases encoded with
  | none => exact ⟨.error rejection, rfl⟩
  | some value => exact answers_pure value

theorem answers_check (rejection : CommandDecodeRejection) (condition : Bool) :
    Answers (check rejection condition) := by
  cases condition with
  | false => exact ⟨.error rejection, rfl⟩
  | true => exact answers_pure ()

theorem answers_constructed {made : Validated α} {value : α} (built : made = .ok value) :
    Answers (constructed made) := ⟨.ok value, by rw [built]; rfl⟩

end Decoding

open JsonValue Decoding

section Unsigned

variable {S : Type} {value : JsonValue S} {encoded : Option (JsonValue S)}

theorem boundedUnsignedOf_eq_some {minimum maximum parsed : Nat} :
    boundedUnsignedOf value minimum maximum = some parsed ↔
      Integer value parsed ∧ minimum ≤ parsed ∧ parsed ≤ maximum := by
  simp only [boundedUnsignedOf, Option.filter_eq_some_iff, Bool.and_eq_true, decide_eq_true_eq, and_congr_left_iff]
  rintro -
  constructor
  · intro found
    cases value with
    | int64 value =>
      simp only [Option.ite_none_right_eq_some, Option.some.injEq] at found
      obtain ⟨positive, rfl⟩ := found
      rw [Int.toNat_of_nonneg positive]
      exact .int64 value
    | uint64 value =>
      cases found
      exact .uint64 value
    | null | bool | double | string | array | object => cases found
  · generalize same : (parsed : Int) = integer
    rintro (value | value)
    · simp only [← same, Int.natCast_nonneg, if_true, Int.toNat_natCast]
    · simpa only [Option.some.injEq, Int.natCast_inj, eq_comm] using same

theorem unsignedIn_iff {minimum maximum : Nat} :
    UnsignedIn minimum maximum value ↔ ∃ parsed, boundedUnsignedOf value minimum maximum = some parsed := by
  simp only [boundedUnsignedOf_eq_some]
  constructor
  · rintro ⟨integer, spelled, above, below⟩
    have natural : ((integer.toNat : Nat) : Int) = integer := Int.toNat_of_nonneg (by omega)
    exact ⟨integer.toNat, natural ▸ spelled, by omega, by omega⟩
  · rintro ⟨parsed, spelled, above, below⟩
    exact ⟨parsed, spelled, by omega, by omega⟩

theorem createTick {parsed : Nat} (below : parsed ≤ maximumSafeInteger) :
    TickSequence.create parsed = .ok ⟨parsed, below⟩ := dif_pos below

theorem decodeInputGeneration_accepts :
    Accepts (decodeInputGeneration encoded) ↔ ∀ value, encoded = some value → UnsignedIn 1 maximumSafeInteger value := by
  cases encoded with
  | none => exact iff_of_true (accepts_pure _) (by rintro value ⟨⟩)
  | some value =>
    simp only [decodeInputGeneration, accepts_required, Option.some.injEq, forall_eq', unsignedIn_iff]
    refine exists_congr fun parsed => and_iff_left_of_imp fun found => ?_
    obtain ⟨-, -, below⟩ := boundedUnsignedOf_eq_some.mp found
    exact accepts_bind.mpr ⟨_, constructed_eq_pure.mpr (createTick below), accepts_pure _⟩

theorem decodeInputGeneration_answers : Answers (decodeInputGeneration encoded) := by
  cases encoded with
  | none => exact answers_pure _
  | some value =>
    refine answers_bind (answers_required _ _) fun parsed taken => ?_
    obtain ⟨-, -, below⟩ := boundedUnsignedOf_eq_some.mp (required_eq_pure.mp taken)
    exact answers_bind (answers_constructed (createTick below)) fun _ _ => answers_pure _

theorem decodeInputGeneration_positive {generation : Option TickSequence}
    (decoded : decodeInputGeneration encoded = pure generation) : generation ≠ some .zero := by
  cases encoded with
  | none =>
    cases pure_inj.mp decoded
    rintro ⟨⟩
  | some value =>
    simp only [decodeInputGeneration, bind_eq_pure, required_eq_pure, constructed_eq_pure, pure_inj] at decoded
    obtain ⟨parsed, found, tick, created, rfl⟩ := decoded
    obtain ⟨-, above, below⟩ := boundedUnsignedOf_eq_some.mp found
    rw [createTick below] at created
    cases created
    intro zero
    have none : parsed = 0 := congrArg TickSequence.value (Option.some.inj zero)
    omega

end Unsigned

variable {S : Type} [Scalar S]

section Numbers

variable {value : JsonValue S}

theorem finiteNumberOf_eq_some {number : S} : finiteNumberOf value = some number ↔ Number value number := by
  constructor
  · intro found
    cases value with
    | double parsed =>
      simp only [finiteNumberOf, Option.ite_none_right_eq_some, Option.some.injEq] at found
      obtain ⟨finite, rfl⟩ := found
      exact .double finite
    | int64 value =>
      cases found
      exact .int64 value
    | uint64 value =>
      cases found
      exact .uint64 value
    | null | bool | string | array | object => cases found
  · rintro (finite | value | value)
    · exact if_pos finite
    · rfl
    · rfl

theorem JsonValue.Number.finite [WireScalar S] {number : S} (spelled : Number value number) :
    Scalar.isFinite number = true := by
  cases spelled with
  | double finite => exact finite
  | int64 value =>
    have above := value.le_toInt
    have below := value.toInt_lt
    unfold doubleOfInt64
    split
    · exact WireScalar.finite_natCast _ (by omega)
    · exact WireScalar.finite_neg _ (WireScalar.finite_natCast _ (by omega))
  | uint64 value => exact WireScalar.finite_natCast _ value.toNat_lt

end Numbers

section Parts

variable {payload : List (String × JsonValue S)}

theorem decodeDirection_eq_pure {x y : S} : decodeDirection payload = pure (x, y) ↔
    (∃ encodedX, payload.lookup "x" = some encodedX ∧ Number encodedX x) ∧
      (∃ encodedY, payload.lookup "y" = some encodedY ∧ Number encodedY y) ∧
      Scalar.abs x ≤ thrustComponentMaximumMagnitude ∧ Scalar.abs y ≤ thrustComponentMaximumMagnitude := by
  simp only [decodeDirection, bind_eq_pure, required_eq_pure, check_eq_pure, pure_inj, finiteNumberOf_eq_some,
    Bool.not_eq_true', Bool.or_eq_false_iff, decide_eq_false_iff_not, not_lt, Prod.mk.injEq]
  constructor
  · rintro ⟨encodedX, foundX, encodedY, foundY, x', spelledX, y', spelledY, -, ⟨boundX, boundY⟩, rfl, rfl⟩
    exact ⟨⟨encodedX, foundX, spelledX⟩, ⟨encodedY, foundY, spelledY⟩, boundX, boundY⟩
  · rintro ⟨⟨encodedX, foundX, spelledX⟩, ⟨encodedY, foundY, spelledY⟩, boundX, boundY⟩
    exact ⟨encodedX, foundX, encodedY, foundY, x, spelledX, y, spelledY, (), ⟨boundX, boundY⟩, rfl, rfl⟩

theorem decodeDirection_accepts : Accepts (decodeDirection payload) ↔
    (∃ value, payload.lookup "x" = some value ∧ Component value) ∧
      ∃ value, payload.lookup "y" = some value ∧ Component value := by
  constructor
  · rintro ⟨⟨x, y⟩, decoded⟩
    obtain ⟨⟨encodedX, foundX, spelledX⟩, ⟨encodedY, foundY, spelledY⟩, boundX, boundY⟩ :=
      decodeDirection_eq_pure.mp decoded
    exact ⟨⟨encodedX, foundX, x, spelledX, boundX⟩, encodedY, foundY, y, spelledY, boundY⟩
  · rintro ⟨⟨encodedX, foundX, x, spelledX, boundX⟩, encodedY, foundY, y, spelledY, boundY⟩
    exact ⟨(x, y), decodeDirection_eq_pure.mpr
      ⟨⟨encodedX, foundX, spelledX⟩, ⟨encodedY, foundY, spelledY⟩, boundX, boundY⟩⟩

theorem decodeDirection_answers : Answers (decodeDirection payload) :=
  answers_bind (answers_required _ _) fun _ _ => answers_bind (answers_required _ _) fun _ _ =>
    answers_bind (answers_required _ _) fun _ _ => answers_bind (answers_required _ _) fun _ _ =>
      answers_bind (answers_check _ _) fun _ _ => answers_pure _

/-- The components of a decoded direction make a vector in the range of every later check. -/
theorem createDirection [WireScalar S] {x y : S} (decoded : decodeDirection payload = pure (x, y)) :
    ∃ direction, Vector2.create x y = .ok direction ∧ withinDirectionComponentRange direction.x = true ∧
      withinDirectionComponentRange direction.y = true := by
  obtain ⟨⟨_, -, spelledX⟩, ⟨_, -, spelledY⟩, boundX, boundY⟩ := decodeDirection_eq_pure.mp decoded
  have validX : ValidComponent x := ⟨spelledX.finite, le_trans boundX WireScalar.one_le_maximum⟩
  have validY : ValidComponent y := ⟨spelledY.finite, le_trans boundY WireScalar.one_le_maximum⟩
  refine ⟨⟨x, y, validX, validY⟩, ?_, decide_eq_true boundX, decide_eq_true boundY⟩
  have component {value : S} (valid : ValidComponent value) (context : String) :
      validateComponent value context = .ok ⟨value, valid⟩ := by
    rw [validateComponent, dif_pos valid.1, dif_pos valid.2]
    simp only [Scalar.normalizeSignedZero_eq]
  simp only [Vector2.create, Vector2.createForOperation, component validX, component validY]
  rfl

theorem decodeScalar_eq_pure {key : String} {minimum maximum value : S} :
    decodeScalar payload key minimum maximum = pure value ↔
      ∃ encoded, payload.lookup key = some encoded ∧ Number encoded value ∧ minimum ≤ value ∧ value ≤ maximum := by
  simp only [decodeScalar, bind_eq_pure, required_eq_pure, check_eq_pure, pure_inj, finiteNumberOf_eq_some,
    Bool.and_eq_true, decide_eq_true_eq]
  constructor
  · rintro ⟨encoded, found, value', spelled, -, ⟨above, below⟩, rfl⟩
    exact ⟨encoded, found, spelled, above, below⟩
  · rintro ⟨encoded, found, spelled, above, below⟩
    exact ⟨encoded, found, value, spelled, (), ⟨above, below⟩, rfl⟩

theorem decodeScalar_accepts {key : String} {minimum maximum : S} :
    Accepts (decodeScalar payload key minimum maximum) ↔
      ∃ encoded, payload.lookup key = some encoded ∧ NumberIn minimum maximum encoded := by
  constructor
  · rintro ⟨value, decoded⟩
    obtain ⟨encoded, found, spelled, above, below⟩ := decodeScalar_eq_pure.mp decoded
    exact ⟨encoded, found, value, spelled, above, below⟩
  · rintro ⟨encoded, found, value, spelled, above, below⟩
    exact ⟨value, decodeScalar_eq_pure.mpr ⟨encoded, found, spelled, above, below⟩⟩

theorem decodeScalar_answers {key : String} {minimum maximum : S} :
    Answers (decodeScalar payload key minimum maximum) :=
  answers_bind (answers_required _ _) fun _ _ => answers_bind (answers_required _ _) fun _ _ =>
    answers_bind (answers_check _ _) fun _ _ => answers_pure _

end Parts

end BlobRoyale.Protocol
