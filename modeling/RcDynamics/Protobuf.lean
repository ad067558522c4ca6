import Mathlib.Logic.Relation
import RcDynamics.Rounding

/-!
# Protobuf messages

Messages as the reflection interface of protobuf shows them: the fields of the descriptor in
its order, each with its label, its C++ type and its content. A value is built so that label,
type and content agree; an accessor for singular fields has no result on a repeated one, which
protobuf rejects at run time.
-/

namespace RcDynamics

/-- `FieldDescriptor::CppType`. -/
inductive CppType where
  | bool
  | enum
  | float
  | double
  | uint32
  | uint64
  | int32
  | int64
  | string
  | message
deriving DecidableEq, Repr

/-- A value that is no message. Floating-point numbers are their encodings, enumeration values
their names. -/
inductive Scalar where
  | bool (value : Bool)
  | enum (name : String)
  | float (bits : BitVec 32)
  | double (bits : BitVec 64)
  | uint32 (value : BitVec 32)
  | uint64 (value : BitVec 64)
  | int32 (value : BitVec 32)
  | int64 (value : BitVec 64)
  | string (value : String)
deriving DecidableEq, Repr

namespace Scalar

/-- `cpp_type()` of a field that holds the value. -/
def cppType : Scalar → CppType
  | bool _ => .bool
  | enum _ => .enum
  | float _ => .float
  | double _ => .double
  | uint32 _ => .uint32
  | uint64 _ => .uint64
  | int32 _ => .int32
  | int64 _ => .int64
  | string _ => .string

/-- Digits of a number below one million, filled with zeros. -/
def sixDigits (value : Nat) : String :=
  let digits := toString value
  String.ofList (List.replicate (6 - digits.length) '0') ++ digits

/-- The conversion `%f` of a finite number, from its sign and magnitude: six places after the
point, the last one rounded to nearest. -/
def fixedPoint (negative : Bool) (magnitude : ℚ) : String :=
  let millionths := (Rounding.roundHalfEven (magnitude * 1000000)).toNat
  (if negative then "-" else "") ++ toString (millionths / 1000000) ++ "." ++
    sixDigits (millionths % 1000000)

/-- The conversion `%f` of an encoding with the given widths of exponent and significand. -/
def printFloat (exponentBits fractionBits : Nat) (bits : Nat) : String :=
  let fraction := bits % 2 ^ fractionBits
  let exponent := bits / 2 ^ fractionBits % 2 ^ exponentBits
  let negative := bits / 2 ^ (fractionBits + exponentBits) % 2 = 1
  let bias : Int := 2 ^ (exponentBits - 1) - 1 + fractionBits
  if exponent = 2 ^ exponentBits - 1 then
    (if negative then "-" else "") ++ (if fraction = 0 then "inf" else "nan")
  else if exponent = 0 then fixedPoint negative (fraction * (2 : ℚ) ^ (1 - bias))
  else fixedPoint negative ((2 ^ fractionBits + fraction : Nat) * (2 : ℚ) ^ (exponent - bias))

/-- The text of a value in a line: `std::to_string` of numbers, the name of an enumeration
value, a string itself. -/
def text : Scalar → String
  | bool value => if value then "1" else "0"
  | enum name => name
  | float bits => printFloat 8 23 bits.toNat
  | double bits => printFloat 11 52 bits.toNat
  | uint32 value => toString value.toNat
  | uint64 value => toString value.toNat
  | int32 value => toString value.toInt
  | int64 value => toString value.toInt
  | string value => value

example : text (.double 0xbff8000000000000#64) = "-1.500000" := by decide +kernel

end Scalar

mutual

/-- A message: its fields in the order of its descriptor. -/
inductive Message where
  | mk (fields : List Field)

/-- A field of a message with its content. For a singular field `has` is the answer of
`HasField` and the value is the one `Get…` returns, the default when the field is not set. The
elements of a repeated field have its type. -/
inductive Field where
  | scalar (name : String) (optional has : Bool) (value : Scalar)
  | message (name : String) (optional has : Bool) (value : Message)
  | scalars (name : String) (cppType : CppType)
      (values : List {value : Scalar // value.cppType = cppType})
  | messages (name : String) (values : List Message)

end

/-- The fields `descr->field(0)`, `descr->field(1)`, … of a message. -/
def Message.fields : Message → List Field
  | .mk fields => fields

/-- `name()`. -/
def Field.name : Field → String
  | scalar name _ _ _ | message name _ _ _ | scalars name _ _ | messages name _ => name

/-- Protobuf ends the program when reflection is misused. -/
inductive ReflectionError where
  /-- An accessor for singular fields, applied to the repeated field of this name. -/
  | singularAccess (method field : String)
deriving DecidableEq, Repr

/-- `FieldDescriptor`: a field as a message type declares it. The types of messages are named, so
they may contain themselves. -/
inductive FieldDescriptor where
  | scalar (name : String) (optional : Bool) (cppType : CppType)
  | message (name : String) (optional : Bool) (type : String)
  | scalars (name : String) (cppType : CppType)
  | messages (name type : String)
deriving DecidableEq, Repr

namespace FieldDescriptor

/-- `name()`. -/
def name : FieldDescriptor → String
  | scalar name _ _ | message name _ _ | scalars name _ | messages name _ => name

/-- `is_repeated()`. -/
def isRepeated : FieldDescriptor → Bool
  | scalar .. | message .. => false
  | scalars .. | messages .. => true

/-- The message type that a field holds. -/
def holds : FieldDescriptor → Option String
  | message _ _ type | messages _ type => some type
  | scalar .. | scalars .. => none

end FieldDescriptor

/-- Descriptors of message types by name. The fields of a type have different names. -/
structure Descriptors where
  fields : String → List FieldDescriptor
  distinct : ∀ type, ((fields type).map FieldDescriptor.name).Nodup

mutual

/-- A message is of a type. Nothing is said of the content of an optional message that is not
set. -/
def Message.HasType (descriptors : Descriptors) (type : String) : Message → Prop
  | .mk fields => fieldsHaveTypes descriptors (descriptors.fields type) fields

/-- Fields are those declared, in order. -/
def fieldsHaveTypes (descriptors : Descriptors) : List FieldDescriptor → List Field → Prop
  | [], [] => True
  | declared :: rest, field :: fields =>
    field.HasType descriptors declared ∧ fieldsHaveTypes descriptors rest fields
  | _, _ => False

/-- A field is as declared. -/
def Field.HasType (descriptors : Descriptors) (declared : FieldDescriptor) : Field → Prop
  | .scalar name optional _ value => declared = .scalar name optional value.cppType
  | .message name optional has value => ∃ type, declared = .message name optional type ∧
      ((!optional || has) = true → value.HasType descriptors type)
  | .scalars name cppType _ => declared = .scalars name cppType
  | .messages name values => ∃ type, declared = .messages name type ∧
      elementsHaveType descriptors type values

/-- The elements of a repeated field are of a type. -/
def elementsHaveType (descriptors : Descriptors) (type : String) : List Message → Prop
  | [] => True
  | value :: values =>
    value.HasType descriptors type ∧ elementsHaveType descriptors type values

end

/-- A type has no repeated field, nor has any type that its messages can contain. -/
def Descriptors.Unrepeated (descriptors : Descriptors) (type : String) : Prop :=
  ∀ inner, Relation.ReflTransGen
      (fun outer inner => ∃ field ∈ descriptors.fields outer, field.holds = some inner) type inner →
    ∀ field ∈ descriptors.fields inner, field.isRepeated = false

end RcDynamics
