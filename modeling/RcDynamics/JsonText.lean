import RcDynamics.Serializer
import RcDynamics.Utf8

/-!
# The grammar of JSON texts

What a JSON text is, character by character, and the document that it stands for. A text is as a
`std::string` has it, one character for each byte, and its strings are texts in UTF-8. Each part is
related to a text that begins with it and to what is left after it; how a text is read is not said
here.
-/

namespace RcDynamics.JsonText

open Serializer Utf8

/-- White space, of any length. -/
def Blank (s t : List Char) : Prop :=
  ∃ space, (∀ c ∈ space, c = ' ' ∨ c = '\t' ∨ c = '\n' ∨ c = '\r') ∧ s = space ++ t

/-- A hexadecimal digit, small or capital, with its value. -/
def HexDigit (c : Char) (value : Nat) : Prop := value < 16 ∧ c.toLower = Nat.digitChar value

/-- The number that four hexadecimal digits make. -/
inductive CodeUnit : Nat → List Char → List Char → Prop where
  | digits {a b c d : Char} {p q r s : Nat} {t : List Char} (first : HexDigit a p)
      (second : HexDigit b q) (third : HexDigit c r) (fourth : HexDigit d s) :
      CodeUnit (((p * 16 + q) * 16 + r) * 16 + s) (a :: b :: c :: d :: t) t

/-- The letters of the short escapes, with the characters that they stand for. -/
def shortEscapes : List (Char × Char) :=
  [('"', '"'), ('\\', '\\'), ('/', '/'), ('b', '\x08'), ('f', '\x0C'), ('n', '\n'),
    ('r', '\r'), ('t', '\t')]

/-- A character of a string: as it is, in UTF-8, or escaped, by a letter, by its number, or by its
two surrogates in UTF-16. -/
inductive Character : Char → List Char → List Char → Prop where
  | plain {c : Char} {t : List Char} (visible : 0x20 ≤ c.toNat) (quote : c ≠ '"')
      (backslash : c ≠ '\\') : Character c (ofBytes (String.utf8EncodeChar c) ++ t) t
  | short {letter c : Char} {t : List Char} (escape : (letter, c) ∈ shortEscapes) :
      Character c ('\\' :: letter :: t) t
  | unicode {c : Char} {s t : List Char} (unit : CodeUnit c.toNat s t) :
      Character c ('\\' :: 'u' :: s) t
  | surrogates {c : Char} {high low : Nat} {s t u : List Char}
      (first : CodeUnit (0xD800 + high) s ('\\' :: 'u' :: t)) (second : CodeUnit (0xDC00 + low) t u)
      (highBound : high < 0x400) (lowBound : low < 0x400)
      (value : c.toNat = 0x10000 + high * 0x400 + low) : Character c ('\\' :: 'u' :: s) u

/-- The characters of a string and its closing quote. -/
inductive Characters : List Char → List Char → List Char → Prop where
  | closed {t : List Char} : Characters [] ('"' :: t) t
  | more {c : Char} {text s t u : List Char} (first : Character c s t)
      (others : Characters text t u) : Characters (c :: text) s u

/-- The `std::string` of a text. -/
def stored (text : List Char) : String := String.ofList (ofBytes (encode text))

/-- Digits, at least one. -/
def Digits (digits : List Char) : Prop := digits ≠ [] ∧ ∀ c ∈ digits, c.isDigit = true

/-- The exponent of a number. -/
structure Exponent where
  letter : Char
  sign : Option Char
  digits : List Char
  isLetter : letter = 'e' ∨ letter = 'E'
  isSign : ∀ c ∈ sign, c = '+' ∨ c = '-'
  isDigits : Digits digits

/-- The exponent as it is written. -/
def Exponent.text (e : Exponent) : List Char := e.letter :: (e.sign.toList ++ e.digits)

/-- The exponent as a number. -/
def Exponent.value (e : Exponent) : Int :=
  if e.sign = some '-' then -Nat.ofDigitChars 10 e.digits 0 else Nat.ofDigitChars 10 e.digits 0

/-- A number: its sign, the digits before and those after the point, and its exponent. -/
structure Numeral where
  negative : Bool
  whole : List Char
  fraction : Option (List Char)
  exponent : Option Exponent
  isWhole : Digits whole
  noLeadingZero : whole.head? = some '0' → whole = ['0']
  isFraction : ∀ digits ∈ fraction, Digits digits

namespace Numeral

/-- The number as it is written. -/
def text (x : Numeral) : List Char :=
  (if x.negative then ['-'] else []) ++ x.whole ++ x.fraction.elim [] ('.' :: ·) ++
    x.exponent.elim [] Exponent.text

/-- The digits before the point as a number. -/
def magnitude (x : Numeral) : Nat := Nat.ofDigitChars 10 x.whole 0

/-- The number that is written. -/
def value (x : Numeral) : ℚ :=
  let fraction := x.fraction.getD []
  let scale : Int := x.exponent.elim 0 Exponent.value - fraction.length
  let absolute : ℚ := Nat.ofDigitChars 10 (x.whole ++ fraction) 0 * (10 : ℚ) ^ scale
  if x.negative then -absolute else absolute

/-- It has neither a fraction nor an exponent. -/
def isInteger (x : Numeral) : Bool := x.fraction.isNone && x.exponent.isNone

/-- The value of a number: the integer when it is written as one and fits 64 bits, otherwise the
nearest `double`, with its sign; none beyond the range. -/
def json (x : Numeral) : Option Json :=
  if x.isInteger && !x.negative && decide (x.magnitude < 2 ^ 64) then some (.unsigned x.magnitude)
  else if x.isInteger && x.negative && decide (x.magnitude ≤ 2 ^ 63) then
    some (.integer (-x.magnitude))
  else
    (nearestDouble x.value).map fun value =>
      .float (if value = 0 ∧ x.negative then .negativeZero else .finite value)

end Numeral

/-- An object holds the value written last for each key, in key order. -/
structure Holds (object written : List (String × Json)) : Prop where
  ordered : object.Pairwise fun a b => a.1 < b.1
  last : ∀ key, object.lookup key = written.reverse.lookup key

mutual

/-- A value. -/
inductive Value : Json → List Char → List Char → Prop where
  | null {t : List Char} : Value .null ('n' :: 'u' :: 'l' :: 'l' :: t) t
  | true {t : List Char} : Value (.boolean true) ('t' :: 'r' :: 'u' :: 'e' :: t) t
  | false {t : List Char} : Value (.boolean false) ('f' :: 'a' :: 'l' :: 's' :: 'e' :: t) t
  | number {v : Json} {t : List Char} (x : Numeral) (value : x.json = some v) :
      Value v (x.text ++ t) t
  | string {text s t : List Char} (inside : Characters text s t) :
      Value (.string (stored text)) ('"' :: s) t
  | emptyArray {s t : List Char} (blank : Blank s (']' :: t)) : Value (.array []) ('[' :: s) t
  | array {elements : List Json} {s t : List Char} (inside : Elements elements s t) :
      Value (.array elements) ('[' :: s) t
  | emptyObject {s t : List Char} (blank : Blank s ('}' :: t)) : Value (.object []) ('{' :: s) t
  | object {object members : List (String × Json)} {s t : List Char} (inside : Members members s t)
      (holds : Holds object members) : Value (.object object) ('{' :: s) t

/-- The elements of an array and its closing bracket. -/
inductive Elements : List Json → List Char → List Char → Prop where
  | last {v : Json} {s t u w : List Char} (before : Blank s t) (value : Value v t u)
      (after : Blank u (']' :: w)) : Elements [v] s w
  | more {v : Json} {elements : List Json} {s t u w x : List Char} (before : Blank s t)
      (value : Value v t u) (after : Blank u (',' :: w)) (others : Elements elements w x) :
      Elements (v :: elements) s x

/-- The members of an object and its closing brace. -/
inductive Members : List (String × Json) → List Char → List Char → Prop where
  | last {key s t u w x y z : List Char} {v : Json} (before : Blank s ('"' :: t))
      (name : Characters key t u) (colon : Blank u (':' :: w)) (blank : Blank w x)
      (value : Value v x y) (after : Blank y ('}' :: z)) : Members [(stored key, v)] s z
  | more {key s t u w x y z rest : List Char} {v : Json} {members : List (String × Json)}
      (before : Blank s ('"' :: t)) (name : Characters key t u) (colon : Blank u (':' :: w))
      (blank : Blank w x) (value : Value v x y) (after : Blank y (',' :: z))
      (others : Members members z rest) : Members ((stored key, v) :: members) s rest

end

/-- The byte order mark. -/
def byteOrderMark : List Char := ['\xEF', '\xBB', '\xBF']

/-- The end of a text: nothing is left, or a null character and whatever comes after it. -/
def Ended (s : List Char) : Prop := s = [] ∨ ∃ t, s = '\x00' :: t

/-- A text is a document: one value with white space around it, after a byte order mark or without
one. -/
def Document (text : List Char) (v : Json) : Prop :=
  ∃ s t u w, (text = s ∨ text = byteOrderMark ++ s) ∧ Blank s t ∧ Value v t u ∧ Blank u w ∧
    Ended w

end RcDynamics.JsonText
