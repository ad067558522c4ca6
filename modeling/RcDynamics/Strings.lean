import RcDynamics.Escapes
import RcDynamics.JsonText

/-!
# Reading strings of JSON texts

`scan_string` checks the bytes of a string against the same ranges that UTF-8 demands and turns
escapes into the bytes of their characters. So every string that it returns is valid UTF-8, and
it reads what `dump_escaped` has written for a valid string back as that string, with and without
escapes for all characters beyond ASCII.
-/

namespace RcDynamics

open JsonText Serializer Utf8

namespace Lexer

/-- A byte as a character, by its number. -/
theorem ofByte_ofNat {n : Nat} (small : n < 0x100) : ofByte (UInt8.ofNat n) = Char.ofNat n := by
  rw [ofByte, toNat_ofNat small]

/-- Adding a multiple of a power of two to something smaller sets its bits. -/
theorem or_eq_add {k a b : Nat} (small : b < 2 ^ k) : 2 ^ k * a ||| b = 2 ^ k * a + b :=
  (Nat.two_pow_add_eq_or_of_lt small a).symm

/-- `translate` adds the encoding of a character. -/
theorem translate_eq (c : Char) : translate c.toNat = ofBytes (String.utf8EncodeChar c) := by
  have scalar := char_scalar c
  have low (n : Nat) : n &&& 0x3F = n % 0x40 := Nat.and_two_pow_sub_one_eq_mod n 6
  have tail (n : Nat) : 0x80 ||| n % 0x40 = n % 0x40 + 0x80 := by
    rw [show 0x80 = 2 ^ 7 * 1 from rfl, or_eq_add (by omega)]
    omega
  unfold translate
  simp only [Nat.shiftRight_eq_div_pow, low, tail]
  split_ifs with one two three
  · rw [encode_one (by omega)]
    simp only [ofBytes, List.map_cons, List.map_nil]
    rw [ofByte_ofNat (by omega)]
  · have head : 0xC0 ||| c.toNat / 2 ^ 6 = c.toNat / 64 % 0x20 + 0xC0 := by
      rw [show 0xC0 = 2 ^ 6 * 3 from rfl, or_eq_add (by omega)]
      omega
    rw [encode_two (by omega) two, head]
    simp only [ofBytes, List.map_cons, List.map_nil]
    rw [ofByte_ofNat (by omega), ofByte_ofNat (by omega)]
  · have head : 0xE0 ||| c.toNat / 2 ^ 12 = c.toNat / 4096 % 0x10 + 0xE0 := by
      rw [show 0xE0 = 2 ^ 5 * 7 from rfl, or_eq_add (by omega)]
      omega
    rw [encode_three (by omega) three, head]
    simp only [ofBytes, List.map_cons, List.map_nil]
    rw [ofByte_ofNat (by omega), ofByte_ofNat (by omega), ofByte_ofNat (by omega)]
  · have head : 0xF0 ||| c.toNat / 2 ^ 18 = c.toNat / 262144 % 0x08 + 0xF0 := by
      rw [show 0xF0 = 2 ^ 4 * 15 from rfl, or_eq_add (by omega)]
      omega
    rw [encode_four (by omega), head]
    simp only [ofBytes, List.map_cons, List.map_nil]
    rw [ofByte_ofNat (by omega), ofByte_ofNat (by omega), ofByte_ofNat (by omega),
      ofByte_ofNat (by omega)]

/-- A hexadecimal digit is less than sixteen. -/
theorem hexDigit_lt {c : Char} {digit : Nat} (read : hexDigit c = some digit) : digit < 16 := by
  unfold hexDigit at read
  split_ifs at read <;> cases read <;> omega

/-- The digits that are written are the digits that are read. -/
theorem hexDigit_digitChar : ∀ n < 16, hexDigit (Nat.digitChar n) = some n := by
  decide

/-- A code unit is read as it is written. -/
theorem getCodepoint_hex {n : Nat} (small : n < 2 ^ 16) (rest : List Char) :
    getCodepoint (hex false 4 n ++ rest) = some (n, rest) := by
  have digits : hex false 4 n = [Nat.digitChar (n / 16 / 16 / 16 % 16),
      Nat.digitChar (n / 16 / 16 % 16), Nat.digitChar (n / 16 % 16), Nat.digitChar (n % 16)] := rfl
  rw [digits]
  simp only [getCodepoint, List.cons_append, List.nil_append, addDigits,
    hexDigit_digitChar _ (Nat.mod_lt _ (by decide)), Nat.shiftLeft_eq]
  congr 2
  omega

/-- The digits of the lexer are the hexadecimal digits. -/
theorem hexDigit_eq_some_iff {c : Char} {value : Nat} :
    hexDigit c = some value ↔ HexDigit c value := by
  have table : ∀ n < 0x67, ∀ d < 16,
      hexDigit (Char.ofNat n) = some d ↔ (Char.ofNat n).toLower = Nat.digitChar d := by
    decide +kernel
  have digits : ∀ d < 16, (Nat.digitChar d).toNat < 0x67 := by decide
  unfold HexDigit
  by_cases small : c.toNat < 0x67
  · constructor
    · intro read
      have bound := hexDigit_lt read
      refine ⟨bound, ?_⟩
      have entry := (table c.toNat small value bound).mp
      rw [Char.ofNat_toNat] at entry
      exact entry read
    · rintro ⟨bound, same⟩
      have entry := (table c.toNat small value bound).mpr
      rw [Char.ofNat_toNat] at entry
      exact entry same
  · have none : hexDigit c = none := by
      unfold hexDigit
      rw [if_neg (by omega), if_neg (by omega), if_neg (by omega)]
    have same : c.toLower = c := by
      unfold Char.toLower
      rw [dif_neg]
      rintro ⟨_, upper⟩
      have : c.toNat ≤ 0x5A := upper
      omega
    rw [none, same]
    refine iff_of_false (fun read => nomatch read) ?_
    rintro ⟨bound, rfl⟩
    exact small (digits value bound)

/-- One digit of a code point is read from the front. -/
theorem addDigits_cons_eq_some_iff {factor codepoint n : Nat} {factors : List Nat}
    {input rest : List Char} :
    addDigits (factor :: factors) codepoint input = some (n, rest) ↔
      ∃ c t digit, input = c :: t ∧ HexDigit c digit ∧
        addDigits factors (codepoint + digit <<< factor) t = some (n, rest) := by
  constructor
  · intro read
    cases input with
    | nil => cases read
    | cons c t =>
      rw [addDigits] at read
      split at read
      · rename_i digit isDigit
        exact ⟨c, t, digit, rfl, hexDigit_eq_some_iff.mp isDigit, read⟩
      · cases read
  · rintro ⟨c, t, digit, rfl, isDigit, read⟩
    rw [addDigits, hexDigit_eq_some_iff.mpr isDigit]
    exact read

/-- `get_codepoint` reads four hexadecimal digits. -/
theorem getCodepoint_eq_some_iff {input rest : List Char} {n : Nat} :
    getCodepoint input = some (n, rest) ↔ CodeUnit n input rest := by
  have value (p q r s : Nat) : 0 + p <<< 12 + q <<< 8 + r <<< 4 + s <<< 0 =
      ((p * 16 + q) * 16 + r) * 16 + s := by
    simp only [Nat.shiftLeft_eq]
    omega
  unfold getCodepoint
  constructor
  · intro read
    obtain ⟨a, _, p, rfl, first, read⟩ := addDigits_cons_eq_some_iff.mp read
    obtain ⟨b, _, q, rfl, second, read⟩ := addDigits_cons_eq_some_iff.mp read
    obtain ⟨c, _, r, rfl, third, read⟩ := addDigits_cons_eq_some_iff.mp read
    obtain ⟨d, t, s, rfl, fourth, read⟩ := addDigits_cons_eq_some_iff.mp read
    rw [value] at read
    cases read
    exact .digits first second third fourth
  · intro unit
    cases unit with
    | digits first second third fourth =>
      refine addDigits_cons_eq_some_iff.mpr ⟨_, _, _, rfl, first, ?_⟩
      refine addDigits_cons_eq_some_iff.mpr ⟨_, _, _, rfl, second, ?_⟩
      refine addDigits_cons_eq_some_iff.mpr ⟨_, _, _, rfl, third, ?_⟩
      refine addDigits_cons_eq_some_iff.mpr ⟨_, _, _, rfl, fourth, ?_⟩
      rw [value]
      rfl

/-- Digits add up to no more than their factors allow. -/
theorem addDigits_le {factors : List Nat} {codepoint n : Nat} {input rest : List Char}
    (read : addDigits factors codepoint input = some (n, rest)) :
    n ≤ codepoint + (factors.map fun factor => 15 <<< factor).sum := by
  induction factors generalizing codepoint input with
  | nil =>
    cases read
    exact Nat.le_refl _
  | cons factor factors later =>
    cases input with
    | nil => cases read
    | cons c input =>
      rw [addDigits] at read
      split at read
      · rename_i digit isDigit
        have bound := later read
        have small : digit ≤ 15 := Nat.le_of_lt_succ (hexDigit_lt isDigit)
        have scaled : digit <<< factor ≤ 15 <<< factor := by
          rw [Nat.shiftLeft_eq, Nat.shiftLeft_eq]
          exact Nat.mul_le_mul_right _ small
        rw [List.map_cons, List.sum_cons]
        omega
      · cases read

/-- A code point of four digits. -/
theorem getCodepoint_lt {input rest : List Char} {n : Nat}
    (read : getCodepoint input = some (n, rest)) : n < 0x10000 := by
  have bound := addDigits_le read
  exact Nat.lt_succ_of_le bound

/-- The ranges of `scan_string` are those of UTF-8. -/
theorem ranges_eq_tails {n : Nat} (high : 0x80 ≤ n) : ranges n = tails n := by
  by_cases byte : n < 0x100
  · have table : ∀ n < 0x100, 0x80 ≤ n → ranges n = tails n := by decide +kernel
    exact table n byte high
  · unfold ranges tails
    repeat rw [if_neg (by omega)]

/-- Bytes in ranges are read. -/
theorem nextByteInRange_within {ranges : List Range} {bytes : List UInt8} (rest : List Char)
    (within : List.Forall₂ Range.Contains ranges bytes) :
    nextByteInRange ranges (ofBytes bytes ++ rest) = some (ofBytes bytes, rest) := by
  induction within with
  | nil => rfl
  | @cons range byte ranges bytes contained within later =>
    change nextByteInRange (range :: ranges) (ofByte byte :: (ofBytes bytes ++ rest)) = _
    have inside : range.1 ≤ byte.toNat ∧ byte.toNat ≤ range.2 := contained
    rw [nextByteInRange, toNat_ofByte, if_pos inside, later]
    rfl

/-- What is read are bytes in the ranges. -/
theorem within_of_nextByteInRange {ranges : List Range} {input chars rest : List Char}
    (possible : Possible ranges) (read : nextByteInRange ranges input = some (chars, rest)) :
    ∃ bytes, List.Forall₂ Range.Contains ranges bytes ∧ chars = ofBytes bytes ∧
      input = chars ++ rest := by
  induction ranges generalizing input chars with
  | nil =>
    cases read
    exact ⟨[], .nil, rfl, rfl⟩
  | cons range ranges later =>
    cases input with
    | nil => cases read
    | cons c input =>
      obtain ⟨ordered, small⟩ := possible range List.mem_cons_self
      rw [nextByteInRange] at read
      split_ifs at read with contained
      obtain ⟨⟨added, left⟩, inner, same⟩ := Option.map_eq_some_iff.mp read
      cases same
      obtain ⟨bytes, within, rfl, rfl⟩ := later
        (fun range' member => possible range' (List.mem_cons_of_mem range member)) inner
      have narrow : c.toNat < 0x100 := by omega
      refine ⟨toByte c :: bytes, .cons ?_ within, ?_, rfl⟩
      · rw [Range.Contains, toByte, toNat_ofNat narrow]
        exact contained
      · change c :: ofBytes bytes = ofByte (toByte c) :: ofBytes bytes
        rw [ofByte_toByte narrow]

/-- A character that is no quote and no backslash. -/
theorem scanStringStep_plain {c : Char} (rest : List Char) (quote : c ≠ '"')
    (backslash : c ≠ '\\') :
    scanStringStep (c :: rest) =
      if c.toNat ≤ 0x1F then .error
      else if c.toNat ≤ 0x7F then .added [c] rest
      else
        match ranges c.toNat with
        | none => .error
        | some ranges =>
          match nextByteInRange ranges rest with
          | none => .error
          | some (chars, rest) => .added (c :: chars) rest :=
  scanStringStep.eq_4 c rest quote backslash

/-- A character of one byte is its byte. -/
theorem ofBytes_ascii {c : Char} (ascii : c.toNat ≤ 0x7F) :
    ofBytes (String.utf8EncodeChar c) = [c] := by
  rw [encode_one ascii]
  change [ofByte (UInt8.ofNat c.toNat)] = [c]
  rw [ofByte_ofNat (by omega), Char.ofNat_toNat]

/-- The short escapes are read as the characters that they stand for. -/
theorem scanStringStep_letter : ∀ entry ∈ letters, ∀ rest,
    scanStringStep ('\\' :: entry.2 :: rest) = .added [Char.ofNat entry.1] rest := by
  simp only [letters, List.forall_mem_cons]
  exact ⟨fun _ => rfl, fun _ => rfl, fun _ => rfl, fun _ => rfl, fun _ => rfl, fun _ => rfl,
    fun _ => rfl, fun _ member => absurd member List.not_mem_nil⟩

/-- Two surrogates make a code point. -/
theorem scanUnicode_pair {input afterFirst rest : List Char} {codepoint1 codepoint2 : Nat}
    (first : getCodepoint input = some (codepoint1, '\\' :: 'u' :: afterFirst))
    (second : getCodepoint afterFirst = some (codepoint2, rest))
    (high : 0xD800 ≤ codepoint1 ∧ codepoint1 ≤ 0xDBFF)
    (low : 0xDC00 ≤ codepoint2 ∧ codepoint2 ≤ 0xDFFF) :
    scanUnicode input = .added (translate (codepoint1 <<< 10 + codepoint2 - 0x35FDC00)) rest := by
  unfold scanUnicode
  simp only [first, second, high, low, and_self, if_true]

/-- The source takes the offsets of both surrogates off at once. -/
theorem surrogates_value (a b : Nat) :
    (0xD800 + a) <<< 10 + (0xDC00 + b) - 0x35FDC00 = 0x10000 + a * 0x400 + b := by
  rw [Nat.shiftLeft_eq]
  omega

/-- The `\u` escapes of a character are read as its bytes. -/
theorem scanStringStep_unicode (c : Char) (rest : List Char) :
    scanStringStep (unicodeEscapes c.toNat ++ rest) =
      .added (ofBytes (String.utf8EncodeChar c)) rest := by
  have scalar := char_scalar c
  rw [← translate_eq]
  unfold unicodeEscapes utf16
  split_ifs with short
  · have unit : c.toNat % 2 ^ 16 = c.toNat := Nat.mod_eq_of_lt (by omega)
    simp only [List.flatMap_cons, List.flatMap_nil, List.append_nil, unicodeEscape, unit]
    change scanUnicode (hex false 4 c.toNat ++ rest) = _
    unfold scanUnicode
    rw [getCodepoint_hex (by omega)]
    simp only
    rw [if_neg (by omega), if_neg (by omega)]
  · obtain ⟨a, isHigh⟩ : ∃ a, a = (c.toNat - 0x10000) / 0x400 := ⟨_, rfl⟩
    obtain ⟨b, isLow⟩ : ∃ b, b = (c.toNat - 0x10000) % 0x400 := ⟨_, rfl⟩
    have value : c.toNat = 0x10000 + a * 0x400 + b := by omega
    have high : (0xD800 + a) % 2 ^ 16 = 0xD800 + a := Nat.mod_eq_of_lt (by omega)
    have low : (0xDC00 + b) % 2 ^ 16 = 0xDC00 + b := Nat.mod_eq_of_lt (by omega)
    rw [← isHigh, ← isLow]
    simp only [List.flatMap_cons, List.flatMap_nil, List.append_nil, unicodeEscape, high, low,
      List.append_assoc, List.cons_append]
    change scanUnicode (hex false 4 (0xD800 + a) ++
      '\\' :: 'u' :: (hex false 4 (0xDC00 + b) ++ rest)) = _
    rw [scanUnicode_pair (getCodepoint_hex (by omega) _) (getCodepoint_hex (by omega) rest)
      (by omega) (by omega), surrogates_value, value]

/-- A character of several bytes is read as its bytes. -/
theorem scanStringStep_long {first : UInt8} {tail : List UInt8} {ranges : List Range}
    (high : 0x80 ≤ first.toNat) (following : tails first.toNat = some ranges)
    (within : List.Forall₂ Range.Contains ranges tail) (rest : List Char) :
    scanStringStep (ofBytes (first :: tail) ++ rest) = .added (ofBytes (first :: tail)) rest := by
  have other (c : Char) (ascii : c.toNat ≤ 0x7F) : ofByte first ≠ c := fun same => by
    rw [← same, toNat_ofByte] at ascii
    omega
  change scanStringStep (ofByte first :: (ofBytes tail ++ rest)) = _
  rw [scanStringStep_plain _ (other '"' (by decide)) (other '\\' (by decide)), toNat_ofByte,
    if_neg (by omega), if_neg (by omega), ranges_eq_tails high, following]
  simp only
  rw [nextByteInRange_within rest within]
  rfl

/-- A character beyond ASCII starts with a byte beyond ASCII. -/
theorem first_high {c : Char} {first : UInt8} {tail : List UInt8} {ranges : List Range}
    (encodes : Encodes c first tail ranges) (beyond : ¬c.toNat ≤ 0x7F) : 0x80 ≤ first.toNat := by
  by_contra low
  have alone : tails first.toNat = some [] := if_pos (by omega)
  have none : ranges = [] := Option.some.inj (encodes.following.symm.trans alone)
  have within := encodes.within
  rw [none] at within
  cases within
  have value : first.toNat = c.toNat := encodes.bits
  omega

/-- The short escapes are read as their characters. -/
theorem scanStringStep_short : ∀ entry ∈ shortEscapes, ∀ rest,
    scanStringStep ('\\' :: entry.1 :: rest) =
      .added (ofBytes (String.utf8EncodeChar entry.2)) rest := by
  have ascii : ∀ entry ∈ shortEscapes, entry.2.toNat ≤ 0x7F := by decide
  intro entry member rest
  rw [ofBytes_ascii (ascii entry member)]
  simp only [shortEscapes, List.mem_cons, List.not_mem_nil, or_false] at member
  rcases member with rfl | rfl | rfl | rfl | rfl | rfl | rfl | rfl
  all_goals rfl

/-- A character of the grammar is what an iteration adds. -/
theorem scanStringStep_of_character {c : Char} {s t : List Char} (character : Character c s t) :
    scanStringStep s = .added (ofBytes (String.utf8EncodeChar c)) t := by
  have scalar := char_scalar c
  cases character with
  | plain visible quote backslash =>
    by_cases ascii : c.toNat ≤ 0x7F
    · rw [ofBytes_ascii ascii]
      change scanStringStep (c :: t) = _
      rw [scanStringStep_plain t quote backslash, if_neg (by omega), if_pos ascii]
    · obtain ⟨first, tail, ranges, encoding⟩ := encodes c
      rw [encoding.encoded]
      exact scanStringStep_long (first_high encoding ascii) encoding.following encoding.within t
  | short escape => exact scanStringStep_short _ escape t
  | @unicode _ s _ unit =>
    change scanUnicode s = _
    unfold scanUnicode
    rw [getCodepoint_eq_some_iff.mpr unit]
    simp only
    rw [if_neg (by omega), if_neg (by omega), translate_eq]
  | @surrogates _ high low s _ _ first second highBound lowBound value =>
    change scanUnicode s = _
    rw [scanUnicode_pair (getCodepoint_eq_some_iff.mpr first) (getCodepoint_eq_some_iff.mpr second)
      (by omega) (by omega), surrogates_value, ← value, translate_eq]

/-- One iteration reads what one character is written as. -/
theorem scanStringStep_escape (ensureAscii : Bool) (c : Char) (rest : List Char) :
    scanStringStep (escape ensureAscii c ++ rest) =
      .added (ofBytes (String.utf8EncodeChar c)) rest := by
  unfold escape
  split
  · rename_i letter found
    obtain ⟨before, after, split, _⟩ := List.lookup_eq_some_iff.mp found
    have member : (c.toNat, letter) ∈ letters := by
      rw [split]
      simp
    have ascii : ∀ entry ∈ letters, entry.1 ≤ 0x7F := by decide
    rw [ofBytes_ascii (ascii _ member)]
    refine (scanStringStep_letter _ member rest).trans ?_
    rw [Char.ofNat_toNat]
  · rename_i other
    have quote : c ≠ '"' := fun same => by
      rw [same] at other
      cases other
    have backslash : c ≠ '\\' := fun same => by
      rw [same] at other
      cases other
    split_ifs with escaped
    · exact scanStringStep_unicode c rest
    · have visible : ¬c.toNat ≤ 0x1F := fun control => escaped (Or.inl control)
      exact scanStringStep_of_character (.plain (by omega) quote backslash)

/-- A `\u` escape is one of the grammar's, and adds its character. -/
theorem scanUnicode_character {input chars rest : List Char}
    (step : scanUnicode input = .added chars rest) :
    ∃ c, Character c ('\\' :: 'u' :: input) rest ∧ chars = ofBytes (String.utf8EncodeChar c) := by
  unfold scanUnicode at step
  split at step
  · cases step
  · rename_i codepoint1 afterFirst first
    have small := getCodepoint_lt first
    split_ifs at step with high low
    · split at step
      · rename_i afterEscape
        split at step
        · cases step
        · rename_i codepoint2 afterSecond second
          split_ifs at step with low
          injection step with same left
          subst left
          obtain ⟨a, rfl⟩ := Nat.exists_eq_add_of_le high.1
          obtain ⟨b, rfl⟩ := Nat.exists_eq_add_of_le low.1
          rw [surrogates_value] at same
          obtain ⟨c, value⟩ := exists_char (n := 0x10000 + a * 0x400 + b) (by omega)
          rw [← value, translate_eq] at same
          have highUnit := getCodepoint_eq_some_iff.mp first
          have lowUnit := getCodepoint_eq_some_iff.mp second
          exact ⟨c, .surrogates highUnit lowUnit (by omega) (by omega) value, same.symm⟩
      · cases step
    · injection step with same left
      subst left
      obtain ⟨c, value⟩ := exists_char (n := codepoint1) (by omega)
      have unit := getCodepoint_eq_some_iff.mp first
      rw [← value] at unit same
      rw [translate_eq] at same
      exact ⟨c, .unicode unit, same.symm⟩

/-- An escape is one of the grammar's, and adds its character. -/
theorem scanEscape_character {input chars rest : List Char}
    (step : scanEscape input = .added chars rest) :
    ∃ c, Character c ('\\' :: input) rest ∧ chars = ofBytes (String.utf8EncodeChar c) := by
  have short {letter c : Char} (rest : List Char) (escape : (letter, c) ∈ shortEscapes)
      (ascii : c.toNat ≤ 0x7F) : ∃ d, Character d ('\\' :: letter :: rest) rest ∧
        [c] = ofBytes (String.utf8EncodeChar d) :=
    ⟨c, .short escape, (ofBytes_ascii ascii).symm⟩
  unfold scanEscape at step
  split at step
  case h_9 => exact scanUnicode_character step
  case h_10 => cases step
  all_goals
    cases step
    exact short _ (by decide) (by decide)

/-- What an iteration adds is a character of the grammar. -/
theorem scanStringStep_character {input chars rest : List Char}
    (step : scanStringStep input = .added chars rest) :
    ∃ c, Character c input rest ∧ chars = ofBytes (String.utf8EncodeChar c) := by
  unfold scanStringStep at step
  split at step
  · cases step
  · cases step
  · exact scanEscape_character step
  · rename_i c input quote backslash
    split_ifs at step with control ascii
    · cases step
      have visible : 0x20 ≤ c.toNat := by omega
      have plain : Character c (ofBytes (String.utf8EncodeChar c) ++ rest) rest :=
        .plain visible quote backslash
      rw [ofBytes_ascii ascii] at plain
      exact ⟨c, plain, (ofBytes_ascii ascii).symm⟩
    · split at step
      · cases step
      · rename_i ranges following
        split at step
        · cases step
        · rename_i added left read
          cases step
          rw [ranges_eq_tails (by omega)] at following
          obtain ⟨bytes, within, rfl, rfl⟩ :=
            within_of_nextByteInRange (tails_possible following) read
          have narrow : c.toNat < 0x100 := by
            rcases tails_cases following with ⟨_, _⟩ | ⟨_, _, _⟩ | ⟨_, _, _⟩ | ⟨_, _, _⟩ <;> omega
          rw [← toNat_ofNat narrow] at following
          obtain ⟨d, encoding⟩ := encodes_of_within following within
          have written : c :: ofBytes bytes = ofBytes (String.utf8EncodeChar d) := by
            rw [encoding.encoded]
            change c :: ofBytes bytes = ofByte (UInt8.ofNat c.toNat) :: ofBytes bytes
            rw [ofByte_ofNat narrow, Char.ofNat_toNat]
          have beyond : 0x80 ≤ d.toNat := by
            by_contra low
            rw [ofBytes_ascii (by omega)] at written
            injection written with same
            exact ascii (same ▸ by omega)
          have other (e : Char) (small : e.toNat < 0x80) : d ≠ e := by
            rintro rfl
            omega
          have plain : Character d (ofBytes (String.utf8EncodeChar d) ++ rest) rest :=
            .plain (by omega) (other '"' (by decide)) (other '\\' (by decide))
          rw [← written] at plain
          exact ⟨d, plain, written⟩

/-- At the closing quote the token is complete. -/
theorem scanString_closed {input rest : List Char} (tokenBuffer : List Char)
    (step : scanStringStep input = .closed rest) :
    scanString tokenBuffer input = (.valueString (String.ofList tokenBuffer), rest) := by
  rw [scanString]
  split <;> rename_i step' <;> rw [step] at step' <;> cases step'
  rfl

/-- Bytes that are added belong to the token. -/
theorem scanString_added {input chars rest : List Char} (tokenBuffer : List Char)
    (step : scanStringStep input = .added chars rest) :
    scanString tokenBuffer input = scanString (tokenBuffer ++ chars) rest := by
  rw [scanString]
  split <;> rename_i step' <;> rw [step] at step' <;> cases step'
  rfl

/-- `scan_string` reads the characters of a string up to the quote. -/
theorem scanString_of_characters {text s t : List Char} (inside : Characters text s t)
    (tokenBuffer : List Char) :
    scanString tokenBuffer s =
      (.valueString (String.ofList (tokenBuffer ++ ofBytes (encode text))), t) := by
  induction inside generalizing tokenBuffer with
  | @closed t =>
    have step : scanStringStep ('"' :: t) = .closed t := rfl
    rw [scanString_closed tokenBuffer step, encode_nil, ofBytes, List.map_nil, List.append_nil]
  | @more c text s t u first others later =>
    rw [scanString_added tokenBuffer (scanStringStep_of_character first), later, encode_cons]
    simp only [ofBytes, List.map_append, List.append_assoc]

/-- A string token comes from the characters of a string. -/
theorem characters_of_scanString {tokenBuffer input rest : List Char} {value : String}
    (scanned : scanString tokenBuffer input = (.valueString value, rest)) :
    ∃ text, Characters text input rest ∧
      value = String.ofList (tokenBuffer ++ ofBytes (encode text)) := by
  induction size : input.length using Nat.strongRecOn generalizing tokenBuffer input with
  | ind n shorter =>
    rw [scanString] at scanned
    split at scanned
    · rename_i left step
      cases scanned
      rw [scanStringStep_closed step]
      exact ⟨[], .closed, by rw [encode_nil, ofBytes, List.map_nil, List.append_nil]⟩
    · rename_i chars left step
      have less := scanStringStep_length step
      obtain ⟨c, character, rfl⟩ := scanStringStep_character step
      obtain ⟨text, inside, rfl⟩ := shorter left.length (by omega) scanned rfl
      refine ⟨c :: text, .more character inside, ?_⟩
      rw [encode_cons]
      simp only [ofBytes, List.map_append, List.append_assoc]
    · cases scanned

/-- The value of a string token is valid UTF-8 when the bytes before it are. -/
theorem scanString_valid {tokenBuffer input : List Char} {value : String}
    (scanned : (scanString tokenBuffer input).1 = .valueString value)
    (before : List Char) (valid : tokenBuffer = ofBytes (encode before)) :
    ∃ text, value.toList = ofBytes (encode text) := by
  have token : scanString tokenBuffer input =
      (.valueString value, (scanString tokenBuffer input).2) := Prod.ext scanned rfl
  obtain ⟨text, _, rfl⟩ := characters_of_scanString token
  refine ⟨before ++ text, ?_⟩
  rw [String.toList_ofList, valid]
  simp only [ofBytes, encode, List.map_append, List.flatMap_append]

/-- `scan_string` reads the escapes of a text up to the quote. -/
theorem scanString_escapes (ensureAscii : Bool) (text : List Char) (rest tokenBuffer : List Char) :
    scanString tokenBuffer (text.flatMap (escape ensureAscii) ++ '"' :: rest) =
      (.valueString (String.ofList (tokenBuffer ++ ofBytes (encode text))), rest) := by
  induction text generalizing tokenBuffer with
  | nil =>
    have step : scanStringStep ('"' :: rest) = .closed rest := rfl
    have ended := scanString_closed tokenBuffer step
    rw [encode_nil, ofBytes, List.map_nil, List.append_nil]
    exact ended
  | cons c text later =>
    have step := scanStringStep_escape ensureAscii c
      (text.flatMap (escape ensureAscii) ++ '"' :: rest)
    rw [List.flatMap_cons, List.append_assoc, scanString_added tokenBuffer step, later,
      encode_cons]
    simp only [ofBytes, List.map_append, List.append_assoc]

end Lexer

namespace Serializer

/-- What `dump_escaped` returns are the escapes of the text that the string encodes. -/
theorem encode_of_dumpEscaped {ensureAscii : Bool} {s written : List Char} (narrow : Narrow s)
    (dumped : dumpEscaped ensureAscii s = .ok written) :
    ∃ text, s = ofBytes (encode text) ∧ written = text.flatMap (escape ensureAscii) := by
  by_cases valid : Valid (toBytes s)
  · obtain ⟨text, encoded⟩ := valid
    have same : s = ofBytes (encode text) := by rw [encoded, ofBytes_toBytes narrow]
    have writes := dumpEscaped_encode ensureAscii text
    rw [← same, dumped] at writes
    cases writes
    exact ⟨text, same, rfl⟩
  · rcases dumpEscaped_invalid ensureAscii valid with ⟨_, _, _, _, _, failed⟩ | ⟨_, _, _, failed⟩
    all_goals
      rw [dumped] at failed
      cases failed

/-- What `dump_escaped` returns is read back as its string. -/
theorem scanString_of_dumpEscaped {ensureAscii : Bool} {s written : List Char} (narrow : Narrow s)
    (dumped : dumpEscaped ensureAscii s = .ok written) (rest : List Char) :
    Lexer.scanString [] (written ++ '"' :: rest) = (.valueString (String.ofList s), rest) := by
  obtain ⟨text, rfl, rfl⟩ := encode_of_dumpEscaped narrow dumped
  exact Lexer.scanString_escapes ensureAscii text rest []

end Serializer

end RcDynamics
