import BlobRoyale.Library.ClosedMembers
import BlobRoyale.Simulation.Scalar

/-!
# Parsed JSON documents

The value tree a parse leaves, with a number as the integer or the double it was read as, and how a
decoder reads one member.
-/

namespace BlobRoyale.Protocol

open BlobRoyale.Simulation

inductive JsonValue (S : Type) where
  | null
  | bool (value : Bool)
  | int64 (value : Int64)
  | uint64 (value : UInt64)
  | double (value : S)
  | string (value : String)
  | array (elements : List (JsonValue S))
  | object (members : List (String × JsonValue S))

namespace JsonValue

variable {S : Type}

/-- No object of the tree has two members of one name. -/
inductive Unique : JsonValue S → Prop where
  | null : Unique .null
  | bool (value : Bool) : Unique (.bool value)
  | int64 (value : Int64) : Unique (.int64 value)
  | uint64 (value : UInt64) : Unique (.uint64 value)
  | double (value : S) : Unique (.double value)
  | string (value : String) : Unique (.string value)
  | array {elements : List (JsonValue S)} (each : ∀ element ∈ elements, Unique element) :
      Unique (.array elements)
  | object {members : List (String × JsonValue S)} (distinct : ClosedMembers.Distinct members)
      (each : ∀ member ∈ members, Unique member.2) : Unique (.object members)

theorem Unique.distinct {members : List (String × JsonValue S)} (unique : Unique (.object members)) :
    ClosedMembers.Distinct members := by
  cases unique with
  | object distinct each => exact distinct

theorem Unique.member {members : List (String × JsonValue S)} {name : String} {value : JsonValue S}
    (unique : Unique (.object members)) (found : members.lookup name = some value) : Unique value := by
  cases unique with
  | object distinct each =>
    obtain ⟨before, after, rfl, -⟩ := List.lookup_eq_some_iff.mp found
    exact each (name, value) (List.mem_append_right _ List.mem_cons_self)

def isBool : JsonValue S → Bool
  | bool _ => true
  | null | int64 _ | uint64 _ | double _ | string _ | array _ | object _ => false

def isNull : JsonValue S → Bool
  | null => true
  | bool _ | int64 _ | uint64 _ | double _ | string _ | array _ | object _ => false

/-- `get_bool` of a boolean. -/
def getBool : JsonValue S → Bool
  | bool value => value
  | null | int64 _ | uint64 _ | double _ | string _ | array _ | object _ => false

def string? : JsonValue S → Option String
  | string value => some value
  | null | bool _ | int64 _ | uint64 _ | double _ | array _ | object _ => none

def object? : JsonValue S → Option (List (String × JsonValue S))
  | object members => some members
  | null | bool _ | int64 _ | uint64 _ | double _ | string _ | array _ => none

/-- `static_cast<double>` of a signed integer. -/
def doubleOfInt64 [Scalar S] (value : Int64) : S :=
  if 0 ≤ value.toInt then ((value.toInt.toNat : Nat) : S) else -(((-value.toInt).toNat : Nat) : S)

end JsonValue

variable {S : Type} [Scalar S]

def finiteNumberOf : JsonValue S → Option S
  | .double parsed => if Scalar.isFinite parsed then some parsed else none
  | .int64 value => some (JsonValue.doubleOfInt64 value)
  | .uint64 value => some ((value.toNat : Nat) : S)
  | .null | .bool _ | .string _ | .array _ | .object _ => none

def boundedUnsignedOf (value : JsonValue S) (minimum maximum : Nat) : Option Nat :=
  let parsed : Option Nat :=
    match value with
    | .uint64 value => some value.toNat
    | .int64 value => if 0 ≤ value.toInt then some value.toInt.toNat else none
    | .null | .bool _ | .double _ | .string _ | .array _ | .object _ => none
  parsed.filter fun parsed => minimum ≤ parsed && parsed ≤ maximum

end BlobRoyale.Protocol
