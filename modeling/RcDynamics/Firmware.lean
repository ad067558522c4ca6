import Mathlib.Data.Prod.Lex
import RcDynamics.Pattern
import RcDynamics.Rounding

/-!
# Firmware versions

`checkSystemReady` finds the version in the name of the active image and
`deleteDestinationsFromStream` chooses between one request and one request for each
destination by it. The version is a `float` read from the three characters after the `v`, so
it orders releases only as far as those three characters show them.
-/

namespace RcDynamics

/-- The class `.`: every character but a line terminator. -/
def anyCharacter (c : Char) : Bool := decide (c ≠ '\n') && decide (c ≠ '\r')

/-- The class `\d`, repeated. -/
def digits : Pattern := .many Char.isDigit

/-- `std::regex("v(\\d+).(\\d+).(\\d+)")`; its dots are not escaped. -/
def versionPattern : Pattern :=
  .seq (.one (· == 'v')) (.seq digits (.seq (.one anyCharacter) (.seq digits
    (.seq (.one anyCharacter) digits))))

/-- A digit of a hexadecimal number. -/
def hexDigit (c : Char) : Option Nat :=
  if c.isDigit then some (c.toNat - '0'.toNat)
  else if 'a' ≤ c ∧ c ≤ 'f' then some (c.toNat - 'a'.toNat + 10)
  else if 'A' ≤ c ∧ c ≤ 'F' then some (c.toNat - 'A'.toNat + 10)
  else none

/-- The exponent after its mark, zero when there is none or it has no digits. -/
def exponentAfter (mark : Char) : List Char → ℤ
  | [] => 0
  | c :: rest =>
    if c.toLower ≠ mark then 0
    else match rest with
      | '-' :: rest => -(Nat.ofDigitChars 10 (rest.takeWhile Char.isDigit) 0 : ℤ)
      | '+' :: rest => Nat.ofDigitChars 10 (rest.takeWhile Char.isDigit) 0
      | rest => Nat.ofDigitChars 10 (rest.takeWhile Char.isDigit) 0

/-- The characters of a class after a point, and the text after them. -/
def fractionAfter (accepts : Char → Bool) : List Char → List Char × List Char
  | '.' :: rest => (rest.takeWhile accepts, rest.dropWhile accepts)
  | rest => ([], rest)

/-- The decimal number at the start of a text that begins with a digit. -/
def decimalPrefix (text : List Char) : ℚ :=
  let whole := text.takeWhile Char.isDigit
  let (fraction, rest) := fractionAfter Char.isDigit (text.dropWhile Char.isDigit)
  Nat.ofDigitChars 10 (whole ++ fraction) 0 / 10 ^ fraction.length * 10 ^ exponentAfter 'e' rest

/-- The hexadecimal number after `0x`. -/
def hexadecimalPrefix (text : List Char) : ℚ :=
  let accepts c := (hexDigit c).isSome
  let whole := text.takeWhile accepts
  let (fraction, rest) := fractionAfter accepts (text.dropWhile accepts)
  let value := (whole ++ fraction).foldl (fun value c => 16 * value + (hexDigit c).getD 0) 0
  value / 16 ^ fraction.length * 2 ^ exponentAfter 'p' rest

/-- The number that `strtof` reads from a text that begins with a digit, before rounding. -/
def strtof (text : List Char) : ℚ :=
  match text with
  | '0' :: x :: c :: rest =>
    if x.toLower = 'x' ∧ (hexDigit c).isSome then hexadecimalPrefix (c :: rest)
    else decimalPrefix text
  | _ => decimalPrefix text

/-- `std::stof` of a text that begins with a digit: the nearest `float`. -/
def stof (text : List Char) : ℚ := Rounding.roundBinary 24 (strtof text)

/-- `stof(match[0].str().substr(1,3))`; nothing when the name does not match. -/
def extractVersion (imageVersion : String) : Option ℚ :=
  (versionPattern.search imageVersion.toList).map fun found => stof ((found.drop 1).take 3)

/-- The `double` that the literal `1.600001` denotes. -/
def singleRequestVersion : ℚ := Rounding.roundBinary 53 (1600001 / 1000000)

/-- `visard_version_ >= 1.600001`. -/
def usesSingleRequest (visardVersion : ℚ) : Bool := decide (singleRequestVersion ≤ visardVersion)

/-- The name of an image: a prefix and a version. -/
def imageName (start : String) (major minor patch : Nat) : String :=
  start ++ "v" ++ toString major ++ "." ++ toString minor ++ "." ++ toString patch

example : extractVersion (imageName "rc_visard-" 1 7 0) = some (7130317 / 4194304) := by
  decide +kernel

end RcDynamics
