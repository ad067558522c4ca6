import Mathlib.Data.Rat.Floor
import RcDynamics.Exception
import RcDynamics.Rounding

/-!
# JSON documents

The part of the bundled `nlohmann::json` that the library uses: the value type, the two
`operator[]` with a string key, `at`, the conversions of `get` and the iteration of a
range-based loop. Parsing and printing of text are not here. The non-const `operator[]` adds a
null member for an absent key; the const one has an undefined result there.
-/

namespace RcDynamics

/-- A `double`. -/
inductive Number where
  /-- Every finite number but the negative zero. -/
  | finite (value : ℚ)
  | negativeZero
  | infinite (negative : Bool)
  | nan
deriving DecidableEq, Repr

namespace Number

/-- `std::isfinite` -/
def isFinite : Number → Bool
  | finite _ | negativeZero => true
  | infinite _ | nan => false

/-- The integer that is left when the fraction is cut off. -/
def truncated? : Number → Option Int
  | finite value => some (if value < 0 then ⌈value⌉ else ⌊value⌋)
  | negativeZero => some 0
  | infinite _ | nan => none

/-- The conversion to a signed integer of `width` bits. C++ leaves open what becomes of a number
beyond the range; it is the lowest integer, as on x86-64. -/
def toSigned (width : Nat) (x : Number) : Int :=
  match x.truncated? with
  | some n => if -2 ^ (width - 1) ≤ n ∧ n < 2 ^ (width - 1) then n else -2 ^ (width - 1)
  | none => -2 ^ (width - 1)

end Number

/-- The value of the nearest `double`; nothing beyond the range, where it is infinite. Below the
normal range the last place stays the same. -/
def nearestDouble (x : ℚ) : Option ℚ :=
  let nearest :=
    if |x| < (2 : ℚ) ^ (-1022 : Int) then
      Rounding.roundHalfEven (x * (2 : ℚ) ^ (1074 : Int)) * (2 : ℚ) ^ (-1074 : Int)
    else Rounding.roundBinary 53 x
  if |nearest| < (2 : ℚ) ^ (1024 : Int) then some nearest else none

/-- A JSON value. Object members are listed in key order, one for each key, as `std::map` keeps
them. -/
inductive Json where
  | null
  | boolean (value : Bool)
  /-- `number_unsigned`: an integer literal without sign. -/
  | unsigned (value : Nat)
  /-- `number_integer`: an integer literal with a minus sign. -/
  | integer (value : Int)
  /-- `number_float`: finite when it was parsed, as literals beyond the range are rejected. -/
  | float (value : Number)
  | string (value : String)
  | array (elements : List Json)
  | object (members : List (String × Json))

namespace Json

/-- `type_name()`, as it appears in messages. -/
def typeName : Json → String
  | null => "null"
  | boolean _ => "boolean"
  | unsigned _ | integer _ | float _ => "number"
  | string _ => "string"
  | array _ => "array"
  | object _ => "object"

/-- `type_error.302`: a conversion to another type. -/
def mismatch (expected : String) (j : Json) : Exn :=
  .json "type_error" 302 ("type must be " ++ expected ++ ", but is " ++ j.typeName)

/-- `type_error.305`: `operator[]` with a key on a value that has no members. -/
def noOperator (j : Json) : Exn :=
  .json "type_error" 305 ("cannot use operator[] with a string argument with " ++ j.typeName)

/-- `parse_error.101`: the text is no JSON document. -/
def parseError : Exn := .json "parse_error" 101 "syntax error while parsing value"

/-- `type_error.316`: a string to be printed is not valid UTF-8. -/
def invalidUtf8 : Exn := .json "type_error" 316 "invalid UTF-8 byte"

/-- The value read by the non-const `operator[]`. An absent key yields the null member that is
added, and a null value becomes an object first. -/
def index (j : Json) (key : String) : Except Exn Json :=
  match j with
  | null => .ok null
  | object members => .ok ((members.lookup key).getD null)
  | _ => .error (noOperator j)

/-- The value read by the const `operator[]`. -/
def constIndex (j : Json) (key : String) : Except Exn Json :=
  match j with
  | object members =>
    match members.lookup key with
    | some value => .ok value
    | none => .error (.undefined ("json: const operator[] without member " ++ key))
  | _ => .error (noOperator j)

/-- The value read by `at`. -/
def at' (j : Json) (key : String) : Except Exn Json :=
  match j with
  | object members =>
    match members.lookup key with
    | some value => .ok value
    | none => .error (.json "out_of_range" 403 ("key '" ++ key ++ "' not found"))
  | _ => .error (.json "type_error" 304 ("cannot use at() with " ++ j.typeName))

/-- The value found by `find`, if any; a value without members contains no key. -/
def find? (j : Json) (key : String) : Option Json :=
  match j with
  | object members => members.lookup key
  | _ => none

/-- `get<std::string>()`. -/
def getString : Json → Except Exn String
  | string value => .ok value
  | j => .error (mismatch "string" j)

/-- `get<bool>()`. -/
def getBool : Json → Except Exn Bool
  | boolean value => .ok value
  | j => .error (mismatch "boolean" j)

/-- Conversion to a signed integer of `width` bits: modular from an integer, truncated toward
zero from a floating-point number. The types that are not the library's own 64-bit one are also
converted to from booleans. -/
def getSigned (width : Nat) : Json → Except Exn Int
  | unsigned value => .ok (Int.bmod value (2 ^ width))
  | integer value => .ok (Int.bmod value (2 ^ width))
  | float value => .ok (value.toSigned width)
  | boolean value =>
    if width = 64 then .error (mismatch "number" (boolean value)) else .ok value.toNat
  | j => .error (mismatch "number" j)

/-- `get<double>()`: an integer becomes the nearest number with a significand of 53 bits. -/
def getDouble : Json → Except Exn Number
  | unsigned value => .ok (.finite (Rounding.roundBinary 53 value))
  | integer value => .ok (.finite (Rounding.roundBinary 53 value))
  | float value => .ok value
  | j => .error (mismatch "number" j)

/-- The values visited by a range-based loop: array elements, member values, nothing for null,
and any other value itself once. -/
def elements : Json → List Json
  | null => []
  | array elements => elements
  | object members => members.map Prod.snd
  | j => [j]

end Json

end RcDynamics
