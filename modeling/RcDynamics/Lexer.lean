import RcDynamics.Json
import RcDynamics.Decimal

/-!
# Reading tokens of JSON texts

The lexer of the bundled `nlohmann::json`. Each scan function takes what is left of the input and
returns a token with what is left after it; a character that is read and put back is still there.
Texts are `std::string`s, one character for each byte. Positions and texts of errors are left out:
what is left after `parseError` does not matter, as the parser reads no further.
-/

namespace RcDynamics.Lexer

/-- `token_type`, with the value that the lexer holds for the token. -/
inductive Token where
  | literalTrue
  | literalFalse
  | literalNull
  | valueString (value : String)
  | valueUnsigned (value : Nat)
  | valueInteger (value : Int)
  | valueFloat (value : Number)
  | beginArray
  | beginObject
  | endArray
  | endObject
  | nameSeparator
  | valueSeparator
  | parseError
  | endOfInput
deriving DecidableEq

/-- The value of a hexadecimal digit. -/
def hexDigit (c : Char) : Option Nat :=
  if 0x30 ≤ c.toNat ∧ c.toNat ≤ 0x39 then some (c.toNat - 0x30)
  else if 0x41 ≤ c.toNat ∧ c.toNat ≤ 0x46 then some (c.toNat - 0x37)
  else if 0x61 ≤ c.toNat ∧ c.toNat ≤ 0x66 then some (c.toNat - 0x57)
  else none

/-- The loop of `get_codepoint` over the factors that are left. -/
def addDigits : List Nat → Nat → List Char → Option (Nat × List Char)
  | [], codepoint, input => some (codepoint, input)
  | _ :: _, _, [] => none
  | factor :: factors, codepoint, c :: input =>
    match hexDigit c with
    | some digit => addDigits factors (codepoint + digit <<< factor) input
    | none => none

/-- `get_codepoint`; nothing for -1. -/
def getCodepoint (input : List Char) : Option (Nat × List Char) := addDigits [12, 8, 4, 0] 0 input

/-- `next_byte_in_range` after the current byte: the bytes added. -/
def nextByteInRange : List (Nat × Nat) → List Char → Option (List Char × List Char)
  | [], input => some ([], input)
  | _ :: _, [] => none
  | (low, high) :: ranges, c :: input =>
    if low ≤ c.toNat ∧ c.toNat ≤ high then
      (nextByteInRange ranges input).map fun (added, rest) => (c :: added, rest)
    else none

/-- The ranges that `scan_string` passes to `next_byte_in_range` for a first byte from `0x80` on;
nothing for an ill-formed one. -/
def ranges (current : Nat) : Option (List (Nat × Nat)) :=
  if 0xC2 ≤ current ∧ current ≤ 0xDF then some [(0x80, 0xBF)]
  else if current = 0xE0 then some [(0xA0, 0xBF), (0x80, 0xBF)]
  else if (0xE1 ≤ current ∧ current ≤ 0xEC) ∨ current = 0xEE ∨ current = 0xEF then
    some [(0x80, 0xBF), (0x80, 0xBF)]
  else if current = 0xED then some [(0x80, 0x9F), (0x80, 0xBF)]
  else if current = 0xF0 then some [(0x90, 0xBF), (0x80, 0xBF), (0x80, 0xBF)]
  else if 0xF1 ≤ current ∧ current ≤ 0xF3 then some [(0x80, 0xBF), (0x80, 0xBF), (0x80, 0xBF)]
  else if current = 0xF4 then some [(0x80, 0x8F), (0x80, 0xBF), (0x80, 0xBF)]
  else none

/-- The bytes added for the code point of a `\u` escape. -/
def translate (codepoint : Nat) : List Char :=
  if codepoint < 0x80 then [Char.ofNat codepoint]
  else if codepoint ≤ 0x7FF then
    [Char.ofNat (0xC0 ||| codepoint >>> 6), Char.ofNat (0x80 ||| (codepoint &&& 0x3F))]
  else if codepoint ≤ 0xFFFF then
    [Char.ofNat (0xE0 ||| codepoint >>> 12), Char.ofNat (0x80 ||| (codepoint >>> 6 &&& 0x3F)),
      Char.ofNat (0x80 ||| (codepoint &&& 0x3F))]
  else
    [Char.ofNat (0xF0 ||| codepoint >>> 18), Char.ofNat (0x80 ||| (codepoint >>> 12 &&& 0x3F)),
      Char.ofNat (0x80 ||| (codepoint >>> 6 &&& 0x3F)), Char.ofNat (0x80 ||| (codepoint &&& 0x3F))]

/-- One iteration of the loop of `scan_string`: the closing quote, bytes for the token, or an
error. -/
inductive StringStep where
  | closed (rest : List Char)
  | added (chars rest : List Char)
  | error

/-- A `\u` escape, after its `u`. -/
def scanUnicode (input : List Char) : StringStep :=
  match getCodepoint input with
  | none => .error
  | some (codepoint1, rest) =>
    if 0xD800 ≤ codepoint1 ∧ codepoint1 ≤ 0xDBFF then
      match rest with
      | '\\' :: 'u' :: rest =>
        match getCodepoint rest with
        | none => .error
        | some (codepoint2, rest) =>
          if 0xDC00 ≤ codepoint2 ∧ codepoint2 ≤ 0xDFFF then
            .added (translate (codepoint1 <<< 10 + codepoint2 - 0x35FDC00)) rest
          else .error
      | _ => .error
    else if 0xDC00 ≤ codepoint1 ∧ codepoint1 ≤ 0xDFFF then .error
    else .added (translate codepoint1) rest

/-- An escape, after its backslash. -/
def scanEscape : List Char → StringStep
  | '"' :: rest => .added ['"'] rest
  | '\\' :: rest => .added ['\\'] rest
  | '/' :: rest => .added ['/'] rest
  | 'b' :: rest => .added ['\x08'] rest
  | 'f' :: rest => .added ['\x0C'] rest
  | 'n' :: rest => .added ['\n'] rest
  | 'r' :: rest => .added ['\r'] rest
  | 't' :: rest => .added ['\t'] rest
  | 'u' :: rest => scanUnicode rest
  | _ => .error

/-- One iteration of the loop of `scan_string`. -/
def scanStringStep : List Char → StringStep
  | [] => .error
  | '"' :: rest => .closed rest
  | '\\' :: rest => scanEscape rest
  | c :: rest =>
    if c.toNat ≤ 0x1F then .error
    else if c.toNat ≤ 0x7F then .added [c] rest
    else
      match ranges c.toNat with
      | none => .error
      | some ranges =>
        match nextByteInRange ranges rest with
        | none => .error
        | some (chars, rest) => .added (c :: chars) rest

/-- Adding digits reads them. -/
theorem addDigits_length {factors : List Nat} {codepoint n : Nat} {input rest : List Char}
    (read : addDigits factors codepoint input = some (n, rest)) : rest.length ≤ input.length := by
  induction factors generalizing codepoint input with
  | nil =>
    cases read
    exact Nat.le_refl _
  | cons factor factors shorter =>
    cases input with
    | nil => cases read
    | cons c input =>
      rw [addDigits] at read
      split at read
      · have less := shorter read
        rw [List.length_cons]
        omega
      · cases read

/-- Adding bytes in ranges reads them. -/
theorem nextByteInRange_length {ranges : List (Nat × Nat)} {input chars rest : List Char}
    (read : nextByteInRange ranges input = some (chars, rest)) : rest.length ≤ input.length := by
  induction ranges generalizing input chars with
  | nil =>
    cases read
    exact Nat.le_refl _
  | cons range ranges shorter =>
    cases input with
    | nil => cases read
    | cons c input =>
      rw [nextByteInRange] at read
      split at read
      · obtain ⟨⟨added, left⟩, inner, same⟩ := Option.map_eq_some_iff.mp read
        cases same
        have less := shorter inner
        rw [List.length_cons]
        omega
      · cases read

/-- A `\u` escape is read. -/
theorem scanUnicode_length {input chars rest : List Char}
    (step : scanUnicode input = .added chars rest) : rest.length ≤ input.length := by
  unfold scanUnicode at step
  split at step
  · cases step
  · rename_i codepoint1 afterFirst first
    have less := addDigits_length first
    split_ifs at step
    · split at step
      · rename_i afterEscape
        split at step
        · cases step
        · rename_i codepoint2 afterSecond second
          have less' := addDigits_length second
          simp only [List.length_cons] at less
          split_ifs at step
          injection step with _ same
          rw [← same]
          omega
      · cases step
    · injection step with _ same
      rwa [← same]

/-- An escape is read. -/
theorem scanEscape_length {input chars rest : List Char}
    (step : scanEscape input = .added chars rest) : rest.length ≤ input.length := by
  unfold scanEscape at step
  split at step
  case h_9 =>
    have less := scanUnicode_length step
    rw [List.length_cons]
    omega
  case h_10 => cases step
  all_goals
    cases step
    rw [List.length_cons]
    omega

/-- An iteration that adds bytes reads some. -/
theorem scanStringStep_length {input chars rest : List Char}
    (step : scanStringStep input = .added chars rest) : rest.length < input.length := by
  unfold scanStringStep at step
  split at step
  · cases step
  · cases step
  · have less := scanEscape_length step
    rw [List.length_cons]
    omega
  · rename_i c input _ _
    rw [List.length_cons]
    split_ifs at step
    · cases step
      omega
    · split at step
      · cases step
      · split at step
        · cases step
        · rename_i read
          cases step
          have less := nextByteInRange_length read
          omega

/-- The closing quote is read. -/
theorem scanStringStep_closed {input rest : List Char}
    (step : scanStringStep input = .closed rest) : input = '"' :: rest := by
  unfold scanStringStep at step
  split at step
  · cases step
  · cases step
    rfl
  · rename_i input
    unfold scanEscape at step
    split at step
    case h_9 =>
      unfold scanUnicode at step
      split at step
      · cases step
      · split_ifs at step
        split at step
        · split at step
          · cases step
          · split_ifs at step
        · cases step
    all_goals cases step
  · split_ifs at step
    split at step
    · cases step
    · split at step <;> cases step

/-- The loop of `scan_string`, with the bytes added to `token_buffer` so far. -/
def scanString (tokenBuffer input : List Char) : Token × List Char :=
  match step : scanStringStep input with
  | .closed rest => (.valueString (String.ofList tokenBuffer), rest)
  | .added chars rest =>
    have : rest.length < input.length := scanStringStep_length step
    scanString (tokenBuffer ++ chars) rest
  | .error => (.parseError, [])
termination_by input.length

/-- The states of the machine of `scan_number`, each named as its label. -/
inductive NumberState where
  | minus
  | zero
  | any1
  | decimal1
  | decimal2
  | exponent
  | sign
  | any2
deriving DecidableEq

/-- Where `scan_number` goes from a state. -/
inductive NumberMove where
  | goto (state : NumberState)
  | done
  | error
deriving DecidableEq

/-- The move of a state on the current character; nothing at the end of the input. -/
def NumberState.move (state : NumberState) (current : Option Char) : NumberMove :=
  match state with
  | minus =>
    if current = some '0' then .goto zero
    else if current.any Char.isDigit then .goto any1
    else .error
  | zero =>
    if current = some '.' then .goto decimal1
    else if current = some 'e' ∨ current = some 'E' then .goto exponent
    else .done
  | any1 =>
    if current.any Char.isDigit then .goto any1
    else if current = some '.' then .goto decimal1
    else if current = some 'e' ∨ current = some 'E' then .goto exponent
    else .done
  | decimal1 => if current.any Char.isDigit then .goto decimal2 else .error
  | decimal2 =>
    if current.any Char.isDigit then .goto decimal2
    else if current = some 'e' ∨ current = some 'E' then .goto exponent
    else .done
  | exponent =>
    if current = some '+' ∨ current = some '-' then .goto sign
    else if current.any Char.isDigit then .goto any2
    else .error
  | sign => if current.any Char.isDigit then .goto any2 else .error
  | any2 => if current.any Char.isDigit then .goto any2 else .done

/-- `number_type` -/
inductive NumberType where
  | unsigned
  | integer
  | float
deriving DecidableEq

/-- The type of the number after a state is entered. -/
def NumberType.enter (type : NumberType) : NumberState → NumberType
  | .minus => integer
  | .decimal1 | .exponent => float
  | _ => type

/-- The machine of `scan_number` from a state: the type of the number, its text, and what is left
with the character after the number put back; nothing for an error. -/
def scanDigits (state : NumberState) (type : NumberType) (tokenBuffer : List Char) :
    List Char → Option (NumberType × List Char × List Char)
  | [] =>
    match state.move none with
    | .done => some (type, tokenBuffer, [])
    | _ => none
  | c :: input =>
    match state.move (some c) with
    | .goto state => scanDigits state (type.enter state) (tokenBuffer ++ [c]) input
    | .done => some (type, tokenBuffer, c :: input)
    | .error => none

/-- The exact value of a number's text. -/
def exactValue (text : List Char) : ℚ :=
  let unsigned := if text.head? = some '-' then text.tail else text
  let whole := unsigned.takeWhile Char.isDigit
  let afterWhole := unsigned.dropWhile Char.isDigit
  let point := afterWhole.head? = some '.'
  let fraction := if point then afterWhole.tail.takeWhile Char.isDigit else []
  let afterFraction := if point then afterWhole.tail.dropWhile Char.isDigit else afterWhole
  let afterE := afterFraction.tail
  let power := Nat.ofDigitChars 10
    (if afterE.head? = some '+' ∨ afterE.head? = some '-' then afterE.tail else afterE) 0
  let exponent : Int := if afterE.head? = some '-' then -power else power
  let magnitude : ℚ :=
    Nat.ofDigitChars 10 (whole ++ fraction) 0 * (10 : ℚ) ^ (exponent - fraction.length)
  if text.head? = some '-' then -magnitude else magnitude

/-- `strtof` to `double`: a minus sign is kept by zero and by infinity. -/
def strtof (text : List Char) : Number :=
  let negative := text.head? = some '-'
  match nearestDouble (exactValue text) with
  | some x => if x = 0 ∧ negative then .negativeZero else .finite x
  | none => .infinite negative

/-- The end of `scan_number`: integers that fit their type, everything else as `double`. -/
def convert (type : NumberType) (tokenBuffer : List Char) : Token :=
  match type with
  | .unsigned =>
    let x := Nat.ofDigitChars 10 tokenBuffer 0
    if x < 2 ^ 64 then .valueUnsigned x else .valueFloat (strtof tokenBuffer)
  | .integer =>
    let x : Int := -Nat.ofDigitChars 10 tokenBuffer.tail 0
    if -2 ^ 63 ≤ x then .valueInteger x else .valueFloat (strtof tokenBuffer)
  | .float => .valueFloat (strtof tokenBuffer)

/-- The state and the type of a number after its first character. -/
def numberStart (current : Char) : NumberState × NumberType :=
  if current = '-' then (.minus, .integer)
  else if current = '0' then (.zero, .unsigned)
  else (.any1, .unsigned)

/-- `scan_number` from its first character on. -/
def scanNumber (current : Char) (input : List Char) : Token × List Char :=
  match scanDigits (numberStart current).1 (numberStart current).2 [current] input with
  | some (type, tokenBuffer, rest) => (convert type tokenBuffer, rest)
  | none => (.parseError, [])

/-- What `scan_number` makes of a text that its machine accepts. -/
theorem scanNumber_accepted {current : Char} {state : NumberState} {type type' : NumberType}
    {tokenBuffer input rest : List Char} (begins : numberStart current = (state, type))
    (scanned : scanDigits state type [current] input = some (type', tokenBuffer, rest)) :
    scanNumber current input = (convert type' tokenBuffer, rest) := by
  rw [scanNumber, begins, scanned]

/-- `scan_literal` after the first character. -/
def scanLiteral : List Char → Token → List Char → Token × List Char
  | [], returnType, input => (returnType, input)
  | _ :: _, _, [] => (.parseError, [])
  | c :: literalText, returnType, current :: input =>
    if current = c then scanLiteral literalText returnType input else (.parseError, [])

/-- The characters that `scan` ignores. -/
def isWhitespace (c : Char) : Bool := c = ' ' || c = '\t' || c = '\n' || c = '\r'

/-- The switch of `scan` over the first character that is not ignored. -/
def scanToken (current : Char) (rest : List Char) : Token × List Char :=
  match current with
  | '[' => (.beginArray, rest)
  | ']' => (.endArray, rest)
  | '{' => (.beginObject, rest)
  | '}' => (.endObject, rest)
  | ':' => (.nameSeparator, rest)
  | ',' => (.valueSeparator, rest)
  | 't' => scanLiteral ['r', 'u', 'e'] .literalTrue rest
  | 'f' => scanLiteral ['a', 'l', 's', 'e'] .literalFalse rest
  | 'n' => scanLiteral ['u', 'l', 'l'] .literalNull rest
  | '"' => scanString [] rest
  | '\x00' => (.endOfInput, rest)
  | c => if c = '-' ∨ c.isDigit then scanNumber c rest else (.parseError, [])

/-- `scan`, after the byte order mark. -/
def scan (input : List Char) : Token × List Char :=
  match input.dropWhile isWhitespace with
  | [] => (.endOfInput, [])
  | c :: rest => scanToken c rest

/-- `skip_bom`: what is left after a byte order mark, or all of it without one; nothing for a mark
that is not complete. -/
def skipBom (input : List Char) : Option (List Char) :=
  match input with
  | c :: rest =>
    if c.toNat = 0xEF then
      match rest with
      | c :: c' :: rest => if c.toNat = 0xBB ∧ c'.toNat = 0xBF then some rest else none
      | _ => none
    else some input
  | [] => some []

/-- The first `scan` of a text. -/
def scanFirst (input : List Char) : Token × List Char :=
  match skipBom input with
  | some rest => scan rest
  | none => (.parseError, [])

/-- No token comes from the end of the input or an error. -/
def Token.proper (token : Token) : Bool := token ≠ .endOfInput && token ≠ .parseError

/-- The loop of `scan_string` reads on. -/
theorem scanString_length (tokenBuffer input : List Char) :
    (scanString tokenBuffer input).2.length ≤ input.length := by
  induction size : input.length using Nat.strongRecOn generalizing tokenBuffer input with
  | ind n shorter =>
    rw [scanString]
    split
    · rename_i rest step
      rw [← size, scanStringStep_closed step]
      exact Nat.le_succ _
    · rename_i chars rest step
      have less := scanStringStep_length step
      have more := shorter rest.length (by omega) (tokenBuffer ++ chars) rest rfl
      change (scanString (tokenBuffer ++ chars) rest).2.length ≤ n
      omega
    · exact Nat.zero_le _

/-- The machine of `scan_number` reads on. -/
theorem scanDigits_length {state : NumberState} {type : NumberType} {tokenBuffer input : List Char}
    {type' : NumberType} {text rest : List Char}
    (scanned : scanDigits state type tokenBuffer input = some (type', text, rest)) :
    rest.length ≤ input.length := by
  induction input generalizing state type tokenBuffer with
  | nil =>
    rw [scanDigits] at scanned
    split at scanned
    · cases scanned
      exact Nat.le_refl _
    · cases scanned
  | cons c input shorter =>
    rw [scanDigits] at scanned
    split at scanned
    · have less := shorter scanned
      rw [List.length_cons]
      omega
    · cases scanned
      exact Nat.le_refl _
    · cases scanned

/-- A number is read. -/
theorem scanNumber_length (c : Char) (input : List Char) :
    (scanNumber c input).2.length ≤ input.length := by
  unfold scanNumber
  split
  · rename_i scanned
    exact scanDigits_length scanned
  · exact Nat.zero_le _

/-- A literal is read. -/
theorem scanLiteral_length (literalText : List Char) (token : Token) (input : List Char) :
    (scanLiteral literalText token input).2.length ≤ input.length := by
  induction literalText generalizing input with
  | nil => exact Nat.le_refl _
  | cons c literalText shorter =>
    cases input with
    | nil => exact Nat.le_refl _
    | cons current input =>
      rw [scanLiteral]
      split
      · have less := shorter input
        rw [List.length_cons]
        omega
      · exact Nat.zero_le _

/-- A token is read. -/
theorem scanToken_length (c : Char) (rest : List Char) :
    (scanToken c rest).2.length ≤ rest.length := by
  unfold scanToken
  split
  case h_7 | h_8 | h_9 => exact scanLiteral_length _ _ rest
  case h_10 => exact scanString_length [] rest
  case h_12 =>
    split
    · exact scanNumber_length c rest
    · exact Nat.zero_le _
  all_goals exact Nat.le_refl _

/-- Every token but those at the end takes something off the input. -/
theorem scan_length (input : List Char) :
    (scan input).2.length + (scan input).1.proper.toNat ≤ input.length := by
  have shorter := (List.dropWhile_suffix (l := input) isWhitespace).length_le
  unfold scan
  split
  · exact Nat.zero_le _
  · rename_i c rest same
    rw [same, List.length_cons] at shorter
    have less := scanToken_length c rest
    have atMost : (scanToken c rest).1.proper.toNat ≤ 1 := Bool.toNat_le _
    omega

end RcDynamics.Lexer
