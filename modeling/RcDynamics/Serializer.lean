import RcDynamics.Json

/-!
# Printing JSON documents

The serializer of the bundled `nlohmann::json`, as `dump()` with its defaults for indentation and
errors uses it: no line breaks, and a string that is not valid UTF-8 is an exception. Strings are
collected in a buffer of 512 bytes that is written out when a code point might not fit any more;
numbers are built backwards in a buffer of 64 bytes. Writing beyond a buffer is undefined here.
How a floating-point number is written into its buffer is a parameter, `toChars`.

A `std::string` is a `String` with one character for each byte.
-/

namespace RcDynamics

/-- `static_cast<std::uint8_t>` of a `char`. -/
def toByte (c : Char) : UInt8 := UInt8.ofNat c.toNat

/-- `static_cast<char>` of a byte. -/
def ofByte (byte : UInt8) : Char := Char.ofNat byte.toNat

/-- The bytes of a text. -/
def toBytes (text : List Char) : List UInt8 := text.map toByte

/-- The text with some bytes. -/
def ofBytes (bytes : List UInt8) : List Char := bytes.map ofByte

/-- Every character stands for a byte. -/
def Narrow (text : List Char) : Prop := ∀ c ∈ text, c.toNat < 0x100

/-- A byte as a character. -/
@[simp] theorem toNat_ofByte (byte : UInt8) : (ofByte byte).toNat = byte.toNat := by
  have small := byte.toNat_lt
  have scalar : byte.toNat.isValidChar := Or.inl (by omega)
  rw [ofByte, Char.ofNat, dif_pos scalar]
  rfl

/-- A byte survives as a character. -/
@[simp] theorem toByte_ofByte (byte : UInt8) : toByte (ofByte byte) = byte := by
  rw [toByte, toNat_ofByte, UInt8.ofNat_toNat]

/-- Bytes survive as a text. -/
@[simp] theorem toBytes_ofBytes (bytes : List UInt8) : toBytes (ofBytes bytes) = bytes := by
  rw [toBytes, ofBytes, List.map_map]
  exact (List.map_congr_left fun byte _ => toByte_ofByte byte).trans (List.map_id' bytes)

/-- A narrow character is its byte. -/
theorem ofByte_toByte {c : Char} (narrow : c.toNat < 0x100) : ofByte (toByte c) = c := by
  rw [ofByte, toByte, UInt8.toNat_ofNat_of_lt' narrow, Char.ofNat_toNat]

/-- A narrow text is its bytes. -/
theorem ofBytes_toBytes {text : List Char} (narrow : Narrow text) :
    ofBytes (toBytes text) = text := by
  rw [ofBytes, toBytes, List.map_map]
  exact (List.map_congr_left fun c member => ofByte_toByte (narrow c member)).trans
    (List.map_id' text)

/-- A text is narrow when a check of its characters finds nothing else. -/
theorem narrow_of_all {text : List Char} (all : text.all (·.toNat < 0x100) = true) :
    Narrow text := by
  intro c member
  have small := List.all_eq_true.mp all c member
  exact of_decide_eq_true small

/-- Bytes make a narrow text. -/
theorem narrow_ofBytes (bytes : List UInt8) : Narrow (ofBytes bytes) := by
  intro c member
  obtain ⟨byte, _, rfl⟩ := List.mem_map.mp member
  rw [toNat_ofByte]
  exact byte.toNat_lt

namespace Serializer

/-- `UTF8_ACCEPT` -/
def accept : Nat := 0

/-- `UTF8_REJECT` -/
def reject : Nat := 1

/-- The table of `decode`: the class of each byte, then the next state for each state and class. -/
def utf8d : Array Nat := #[
  0, 0, 0, 0, 0, 0, 0, 0, 0, 0, 0, 0, 0, 0, 0, 0, 0, 0, 0, 0, 0, 0, 0, 0, 0, 0, 0, 0, 0, 0, 0, 0,
  0, 0, 0, 0, 0, 0, 0, 0, 0, 0, 0, 0, 0, 0, 0, 0, 0, 0, 0, 0, 0, 0, 0, 0, 0, 0, 0, 0, 0, 0, 0, 0,
  0, 0, 0, 0, 0, 0, 0, 0, 0, 0, 0, 0, 0, 0, 0, 0, 0, 0, 0, 0, 0, 0, 0, 0, 0, 0, 0, 0, 0, 0, 0, 0,
  0, 0, 0, 0, 0, 0, 0, 0, 0, 0, 0, 0, 0, 0, 0, 0, 0, 0, 0, 0, 0, 0, 0, 0, 0, 0, 0, 0, 0, 0, 0, 0,
  1, 1, 1, 1, 1, 1, 1, 1, 1, 1, 1, 1, 1, 1, 1, 1, 9, 9, 9, 9, 9, 9, 9, 9, 9, 9, 9, 9, 9, 9, 9, 9,
  7, 7, 7, 7, 7, 7, 7, 7, 7, 7, 7, 7, 7, 7, 7, 7, 7, 7, 7, 7, 7, 7, 7, 7, 7, 7, 7, 7, 7, 7, 7, 7,
  8, 8, 2, 2, 2, 2, 2, 2, 2, 2, 2, 2, 2, 2, 2, 2, 2, 2, 2, 2, 2, 2, 2, 2, 2, 2, 2, 2, 2, 2, 2, 2,
  0xA, 0x3, 0x3, 0x3, 0x3, 0x3, 0x3, 0x3, 0x3, 0x3, 0x3, 0x3, 0x3, 0x4, 0x3, 0x3,
  0xB, 0x6, 0x6, 0x6, 0x5, 0x8, 0x8, 0x8, 0x8, 0x8, 0x8, 0x8, 0x8, 0x8, 0x8, 0x8,
  0x0, 0x1, 0x2, 0x3, 0x5, 0x8, 0x7, 0x1, 0x1, 0x1, 0x4, 0x6, 0x1, 0x1, 0x1, 0x1,
  1, 1, 1, 1, 1, 1, 1, 1, 1, 1, 1, 1, 1, 1, 1, 1, 1, 0, 1, 1, 1, 1, 1, 0, 1, 0, 1, 1, 1, 1, 1, 1,
  1, 2, 1, 1, 1, 1, 1, 2, 1, 2, 1, 1, 1, 1, 1, 1, 1, 1, 1, 1, 1, 1, 1, 2, 1, 1, 1, 1, 1, 1, 1, 1,
  1, 2, 1, 1, 1, 1, 1, 1, 1, 2, 1, 1, 1, 1, 1, 1, 1, 1, 1, 1, 1, 1, 1, 3, 1, 3, 1, 1, 1, 1, 1, 1,
  1, 3, 1, 1, 1, 1, 1, 3, 1, 3, 1, 1, 1, 1, 1, 1, 1, 3, 1, 1, 1, 1, 1, 1, 1, 1, 1, 1, 1, 1, 1, 1]

/-- The variables `state` and `codepoint` that `decode` updates. -/
structure Decoder where
  state : Nat
  codep : Nat
deriving DecidableEq

/-- `decode` -/
def decode (decoder : Decoder) (byte : UInt8) : Decoder :=
  let type := utf8d.getD byte.toNat 0
  { codep :=
      if decoder.state ≠ accept then (byte.toNat &&& 0x3F ||| decoder.codep <<< 6) % 2 ^ 32
      else (0xFF >>> type) &&& byte.toNat
    state := utf8d.getD (256 + decoder.state * 16 + type) 0 }

/-- The last hexadecimal digits of a number: all of them, and zeros before them, when the number
has no more. -/
def hex (upper : Bool) : Nat → Nat → List Char
  | 0, _ => []
  | width + 1, n =>
    let digit := Nat.digitChar (n % 16)
    hex upper width (n / 16) ++ [if upper then digit.toUpper else digit]

/-- `"\\u%04x"` -/
def unicodeEscape (codeUnit : Nat) : List Char := '\\' :: 'u' :: hex false 4 (codeUnit % 2 ^ 16)

/-- The size of `string_buffer`. -/
def stringBufferSize : Nat := 512

/-- The variables of `dump_escaped`: the decoder, the part of `string_buffer` that is filled, and
what has been written out before. -/
structure Escaping where
  decoder : Decoder
  buffer : List Char
  output : List Char

/-- Put characters into `string_buffer`, with as many bytes after them as are overwritten too. -/
def Escaping.put (escaping : Escaping) (chars : List Char) (overwritten : Nat) :
    Except Exn Escaping :=
  if escaping.buffer.length + chars.length + overwritten ≤ stringBufferSize then
    .ok { escaping with buffer := escaping.buffer ++ chars }
  else .error (.undefined "json: write beyond string_buffer")

/-- The characters put into the buffer when `decode` has found a code point, and how many bytes
after them are overwritten; `snprintf` ends its text with a null byte. -/
def accepted (ensureAscii : Bool) (codepoint : Nat) (last : Char) : List Char × Nat :=
  match codepoint with
  | 0x08 => (['\\', 'b'], 0)
  | 0x09 => (['\\', 't'], 0)
  | 0x0A => (['\\', 'n'], 0)
  | 0x0C => (['\\', 'f'], 0)
  | 0x0D => (['\\', 'r'], 0)
  | 0x22 => (['\\', '"'], 0)
  | 0x5C => (['\\', '\\'], 0)
  | _ =>
    if codepoint ≤ 0x1F ∨ (ensureAscii = true ∧ codepoint ≥ 0x7F) then
      if codepoint ≤ 0xFFFF then (unicodeEscape codepoint, 1)
      else
        (unicodeEscape (0xD7C0 + codepoint >>> 10) ++
          unicodeEscape (0xDC00 + (codepoint &&& 0x3FF)), 1)
    else ([last], 0)

/-- Write the buffer out when fewer than 13 bytes of it are left. -/
def Escaping.flush (escaping : Escaping) : Escaping :=
  if stringBufferSize - escaping.buffer.length < 13 then
    { escaping with output := escaping.output ++ escaping.buffer, buffer := [] }
  else escaping

/-- `type_error.316`: a byte that no character has at this place. -/
def invalidByte (i : Nat) (byte : UInt8) : Exn :=
  .json "type_error" 316 ("invalid UTF-8 byte at index " ++ toString i ++ ": 0x" ++
    String.ofList (hex true 2 byte.toNat))

/-- `type_error.316`: the string ends within a character. -/
def incomplete (byte : UInt8) : Exn :=
  .json "type_error" 316 ("incomplete UTF-8 string; last byte: 0x" ++
    String.ofList (hex true 2 byte.toNat))

/-- One iteration of the loop of `dump_escaped`. -/
def escapeByte (ensureAscii : Bool) (i : Nat) (c : Char) (escaping : Escaping) :
    Except Exn Escaping :=
  let decoder := decode escaping.decoder (toByte c)
  let escaping := { escaping with decoder := decoder }
  if decoder.state = accept then do
    let (chars, overwritten) := accepted ensureAscii decoder.codep c
    let escaping ← escaping.put chars overwritten
    return escaping.flush
  else if decoder.state = reject then .error (invalidByte i (toByte c))
  else if ensureAscii then .ok escaping
  else escaping.put [c] 0

/-- The loop of `dump_escaped` from an index on. -/
def escapeBytes (ensureAscii : Bool) : Nat → List Char → Escaping → Except Exn Escaping
  | _, [], escaping => .ok escaping
  | i, c :: s, escaping => do
    let escaping ← escapeByte ensureAscii i c escaping
    escapeBytes ensureAscii (i + 1) s escaping

/-- `dump_escaped`: what is written for a string. -/
def dumpEscaped (ensureAscii : Bool) (s : List Char) : Except Exn (List Char) := do
  let escaping ← escapeBytes ensureAscii 0 s
    { decoder := { state := accept, codep := 0 }, buffer := [], output := [] }
  if escaping.decoder.state = accept then return escaping.output ++ escaping.buffer
  else throw (incomplete (toByte (s.getLastD '\x00')))

/-- `count_digits` -/
def countDigits (x : Nat) : Nat :=
  if x < 10 then 1
  else if x < 100 then 2
  else if x < 1000 then 3
  else if x < 10000 then 4
  else countDigits (x / 10000) + 4
termination_by x

/-- `digits_to_99`: the two digits of a number below 100. -/
def digitsTo99 (index : Nat) : Char × Char :=
  (Nat.digitChar (index / 10), Nat.digitChar (index % 10))

/-- `number_buffer` and `buffer_ptr` in it. -/
structure NumberBuffer where
  cells : Vector Char 64
  pointer : Nat

/-- `*(--buffer_ptr) = c` -/
def NumberBuffer.prepend (buffer : NumberBuffer) (c : Char) : Except Exn NumberBuffer :=
  if inside : 0 < buffer.pointer ∧ buffer.pointer ≤ 64 then
    .ok { cells := buffer.cells.set (buffer.pointer - 1) c (by omega)
          pointer := buffer.pointer - 1 }
  else .error (.undefined "json: write beyond number_buffer")

/-- The loop that writes two digits at a time from the end, and the digits left after it. -/
def writeDigits (absValue : Nat) (buffer : NumberBuffer) : Except Exn NumberBuffer :=
  if absValue ≥ 100 then do
    let digits := digitsTo99 (absValue % 100)
    let buffer ← buffer.prepend digits.2
    let buffer ← buffer.prepend digits.1
    writeDigits (absValue / 100) buffer
  else if absValue ≥ 10 then do
    let digits := digitsTo99 absValue
    let buffer ← buffer.prepend digits.2
    buffer.prepend digits.1
  else buffer.prepend (Nat.digitChar absValue)
termination_by absValue

/-- `remove_sign` of a negative number. -/
def removeSign (x : Int) : Nat := (-(x + 1)).toNat + 1

/-- `dump_integer`: what is written, and what is in `number_buffer` then. A failed assertion is
undefined. -/
def dumpInteger (x : Int) (cells : Vector Char 64) : Except Exn (List Char × Vector Char 64) :=
  if x = 0 then .ok (['0'], cells)
  else do
    let isNegative := decide (x < 0)
    let cells := if isNegative then cells.set 0 '-' else cells
    let absValue := if isNegative then removeSign x else x.toNat
    let nChars := if isNegative then 1 + countDigits absValue else countDigits absValue
    if nChars < 63 then do
      let buffer ← writeDigits absValue { cells := cells, pointer := nChars }
      return (buffer.cells.toList.take nChars, buffer.cells)
    else .error (.undefined "json: assertion in dump_integer")

/-- `to_chars` of a finite floating-point number: it fills `number_buffer` up to some length. -/
abbrev ToChars := Number → Vector Char 64 → Vector Char 64 × Nat

/-- `dump_float`: what is written, and what is in `number_buffer` then. -/
def dumpFloat (toChars : ToChars) (x : Number) (cells : Vector Char 64) :
    List Char × Vector Char 64 :=
  if !x.isFinite then (['n', 'u', 'l', 'l'], cells)
  else
    let (cells, length) := toChars x cells
    (cells.toList.take length, cells)

mutual

/-- `dump` without line breaks: what is written for a value, and what is in `number_buffer`
then. -/
def dump (ensureAscii : Bool) (toChars : ToChars) :
    Json → Vector Char 64 → Except Exn (List Char × Vector Char 64)
  | .object [], cells => .ok (['{', '}'], cells)
  | .object (member :: members), cells => do
    let (text, cells) ← dumpMembers ensureAscii toChars (member :: members) cells
    return ('{' :: text ++ ['}'], cells)
  | .array [], cells => .ok (['[', ']'], cells)
  | .array (element :: elements), cells => do
    let (text, cells) ← dumpElements ensureAscii toChars (element :: elements) cells
    return ('[' :: text ++ [']'], cells)
  | .string value, cells => do
    let text ← dumpEscaped ensureAscii value.toList
    return ('"' :: text ++ ['"'], cells)
  | .boolean true, cells => .ok (['t', 'r', 'u', 'e'], cells)
  | .boolean false, cells => .ok (['f', 'a', 'l', 's', 'e'], cells)
  | .integer value, cells => dumpInteger value cells
  | .unsigned value, cells => dumpInteger value cells
  | .float value, cells => .ok (dumpFloat toChars value cells)
  | .null, cells => .ok (['n', 'u', 'l', 'l'], cells)

/-- The loop over the elements of an array, with a comma after all but the last. -/
def dumpElements (ensureAscii : Bool) (toChars : ToChars) :
    List Json → Vector Char 64 → Except Exn (List Char × Vector Char 64)
  | [], cells => .ok ([], cells)
  | [last], cells => dump ensureAscii toChars last cells
  | element :: elements, cells => do
    let (text, cells) ← dump ensureAscii toChars element cells
    let (more, cells) ← dumpElements ensureAscii toChars elements cells
    return (text ++ ',' :: more, cells)

/-- The loop over the members of an object, with a comma after all but the last. -/
def dumpMembers (ensureAscii : Bool) (toChars : ToChars) :
    List (String × Json) → Vector Char 64 → Except Exn (List Char × Vector Char 64)
  | [], cells => .ok ([], cells)
  | [(key, value)], cells => do
    let name ← dumpEscaped ensureAscii key.toList
    let (text, cells) ← dump ensureAscii toChars value cells
    return ('"' :: name ++ '"' :: ':' :: text, cells)
  | (key, value) :: members, cells => do
    let name ← dumpEscaped ensureAscii key.toList
    let (text, cells) ← dump ensureAscii toChars value cells
    let (more, cells) ← dumpMembers ensureAscii toChars members cells
    return ('"' :: name ++ '"' :: ':' :: text ++ ',' :: more, cells)

end

end Serializer

/-- `dump()` of a document: the serializer starts with a `number_buffer` of zeros. -/
def Json.dump (ensureAscii : Bool) (toChars : Serializer.ToChars) (j : Json) : Except Exn String :=
  match Serializer.dump ensureAscii toChars j (Vector.replicate 64 '\x00') with
  | .ok (text, _) => .ok (String.ofList text)
  | .error e => .error e

end RcDynamics
