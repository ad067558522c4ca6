import RcDynamics.Serializer
import RcDynamics.Lexer
import RcDynamics.Utf8

/-!
# Strings in JSON texts

The table of `decode` is the machine that reads UTF-8, so `dump_escaped` writes the escapes of the
characters of a valid string, and throws at the first byte with which no text goes on otherwise.
Its buffer is never overrun and leaves no trace in what is written. `scan_string` reads what
`dump_escaped` has written back as the same bytes.
-/

namespace RcDynamics

open Serializer Utf8

namespace Serializer

/-- The class of a byte in the table of `decode`. -/
def byteClass (byte : Nat) : Nat :=
  if byte < 0x80 then 0
  else if byte < 0x90 then 1
  else if byte < 0xA0 then 9
  else if byte < 0xC0 then 7
  else if byte < 0xC2 then 8
  else if byte < 0xE0 then 2
  else if byte = 0xE0 then 10
  else if byte = 0xED then 4
  else if byte < 0xF0 then 3
  else if byte = 0xF0 then 11
  else if byte < 0xF4 then 6
  else if byte = 0xF4 then 5
  else 8

/-- The next state in the table of `decode`. -/
def nextState (state type : Nat) : Nat :=
  match state with
  | 0 =>
    match type with
    | 0 => 0
    | 2 => 2
    | 3 => 3
    | 4 => 5
    | 5 => 8
    | 6 => 7
    | 10 => 4
    | 11 => 6
    | _ => reject
  | 2 => if type = 1 ∨ type = 7 ∨ type = 9 then 0 else reject
  | 3 => if type = 1 ∨ type = 7 ∨ type = 9 then 2 else reject
  | 4 => if type = 7 then 2 else reject
  | 5 => if type = 1 ∨ type = 9 then 2 else reject
  | 6 => if type = 7 ∨ type = 9 then 3 else reject
  | 7 => if type = 1 ∨ type = 7 ∨ type = 9 then 3 else reject
  | 8 => if type = 1 then 3 else reject
  | _ => reject

/-- The ranges that a state of `decode` still expects. -/
def expected : Nat → List Range
  | 2 => [continuation]
  | 3 => [continuation, continuation]
  | 4 => [(0xA0, 0xBF), continuation]
  | 5 => [(0x80, 0x9F), continuation]
  | 6 => [(0x90, 0xBF), continuation, continuation]
  | 7 => [continuation, continuation, continuation]
  | 8 => [(0x80, 0x8F), continuation, continuation]
  | _ => []

/-- The first part of the table. -/
theorem utf8d_classes : utf8d.toList.take 256 = (List.range 256).map byteClass := by
  decide +kernel

/-- The second part of the table. -/
theorem utf8d_states : utf8d.toList.drop 256 =
    (List.range 9).flatMap fun state => (List.range 16).map (nextState state) := by
  decide +kernel

/-- The rows of the second part. -/
theorem rows_entry : ∀ state < 9, ∀ type < 12,
    ((List.range 9).flatMap fun state => (List.range 16).map (nextState state))[
      state * 16 + type]? = some (nextState state type) := by
  decide +kernel

/-- The table gives the class of a byte. -/
theorem utf8d_class {n : Nat} (small : n < 256) : utf8d.getD n 0 = byteClass n := by
  have entry : utf8d.toList[n]? = some (byteClass n) := by
    rw [← List.getElem?_take_of_lt small, utf8d_classes, List.getElem?_map,
      List.getElem?_range small]
    rfl
  rw [Array.getD_eq_getD_getElem?, ← Array.getElem?_toList, entry]
  rfl

/-- There are twelve classes. -/
theorem byteClass_lt : ∀ n < 256, byteClass n < 12 := by
  decide +kernel

/-- The table gives the next state. -/
theorem utf8d_state {state type : Nat} (states : state < 9) (types : type < 12) :
    utf8d.getD (256 + state * 16 + type) 0 = nextState state type := by
  have entry : utf8d.toList[256 + (state * 16 + type)]? = some (nextState state type) := by
    rw [← List.getElem?_drop, utf8d_states, rows_entry state states type types]
  rw [Array.getD_eq_getD_getElem?, ← Array.getElem?_toList, Nat.add_assoc, entry]
  rfl

/-- A state of `decode` stands for the ranges still to come. -/
structure Stands (state : Nat) (pending : List Range) : Prop where
  known : state < 9
  accepted : state ≠ reject
  ranges : expected state = pending

/-- A state and a byte in the table, and in the machine. -/
def Agrees (state : Nat) (byte : UInt8) : Prop :=
  match Utf8.step (expected state) byte with
  | none => nextState state (byteClass byte.toNat) = reject
  | some pending => nextState state (byteClass byte.toNat) < 9 ∧
      nextState state (byteClass byte.toNat) ≠ reject ∧
      expected (nextState state (byteClass byte.toNat)) = pending

instance (state : Nat) (byte : UInt8) : Decidable (Agrees state byte) := by
  unfold Agrees
  split <;> infer_instance

/-- The table is the machine. -/
theorem agrees : ∀ state < 9, state ≠ reject → ∀ n < 256, Agrees state (UInt8.ofNat n) := by
  decide +kernel

/-- Only the accepting state expects nothing. -/
theorem expected_eq_nil : ∀ state < 9, state ≠ reject →
    (expected state = [] ↔ state = accept) := by
  decide

/-- Between characters the state is the accepting one. -/
theorem Stands.accept_iff {state : Nat} {pending : List Range} (stands : Stands state pending) :
    state = accept ↔ pending = [] := by
  rw [← stands.ranges]
  exact (expected_eq_nil state stands.known stands.accepted).symm

/-- The accepting state stands between characters. -/
theorem stands_accept : Stands accept [] := ⟨by decide, by decide, rfl⟩

/-- The next state is that of the table. -/
theorem decode_state {decoder : Decoder} (byte : UInt8) (known : decoder.state < 9) :
    (decode decoder byte).state = nextState decoder.state (byteClass byte.toNat) := by
  unfold decode
  simp only
  rw [utf8d_class byte.toNat_lt, utf8d_state known (byteClass_lt _ byte.toNat_lt)]

/-- The table of a state that stands for ranges. -/
theorem Stands.agrees {state : Nat} {pending : List Range} (stands : Stands state pending)
    (byte : UInt8) : Agrees state byte := by
  have table := Serializer.agrees state stands.known stands.accepted byte.toNat byte.toNat_lt
  rwa [UInt8.ofNat_toNat] at table

/-- `decode` rejects what the machine does not read. -/
theorem decode_stuck {decoder : Decoder} {pending : List Range} {byte : UInt8}
    (stands : Stands decoder.state pending) (stuck : Utf8.step pending byte = none) :
    (decode decoder byte).state = reject := by
  have table := stands.agrees byte
  rw [Agrees, stands.ranges, stuck] at table
  rw [decode_state byte stands.known]
  exact table

/-- `decode` goes where the machine goes. -/
theorem decode_moves {decoder : Decoder} {pending ranges : List Range} {byte : UInt8}
    (stands : Stands decoder.state pending) (moves : Utf8.step pending byte = some ranges) :
    Stands (decode decoder byte).state ranges := by
  have table := stands.agrees byte
  rw [Agrees, stands.ranges, moves] at table
  rw [decode_state byte stands.known]
  exact ⟨table.1, table.2.1, table.2.2⟩

/-- The bits of the first bytes in the table. -/
theorem first_bits : ∀ n < 256, ∀ ranges ∈ tails n,
    (0xFF >>> byteClass n) &&& n = leading n ranges.length := by
  decide +kernel

/-- The bits collected from the first byte. -/
theorem decode_first {decoder : Decoder} {byte : UInt8} {ranges : List Range}
    (between : decoder.state = accept) (following : tails byte.toNat = some ranges) :
    (decode decoder byte).codep = leading byte.toNat ranges.length := by
  unfold decode
  simp only [between, ne_eq, not_true_eq_false, if_false]
  rw [utf8d_class byte.toNat_lt]
  exact first_bits byte.toNat byte.toNat_lt ranges following

/-- The bits collected from a later byte. -/
theorem decode_next {decoder : Decoder} (byte : UInt8) (within : decoder.state ≠ accept)
    (small : decoder.codep < 2 ^ 26) :
    (decode decoder byte).codep = collect decoder.codep byte := by
  unfold decode
  simp only [within, ne_eq, not_false_eq_true, if_true]
  have mask : byte.toNat &&& 0x3F = byte.toNat % 0x40 := Nat.and_two_pow_sub_one_eq_mod _ 6
  have joined : byte.toNat % 0x40 ||| decoder.codep <<< 6 =
      decoder.codep <<< 6 + byte.toNat % 0x40 := by
    rw [Nat.or_comm, Nat.shiftLeft_add_eq_or_of_lt (i := 6) (Nat.mod_lt _ (by decide))]
  rw [mask, joined, Nat.shiftLeft_eq, collect]
  omega

/-- What is written for an accepted code point fits where there is room for 13 bytes, and without
escapes of other characters in 7. -/
theorem accepted_length (ensureAscii : Bool) (codepoint : Nat) (last : Char) :
    (accepted ensureAscii codepoint last).1.length + (accepted ensureAscii codepoint last).2 ≤
      if ensureAscii then 13 else 7 := by
  have escape (n : Nat) : (unicodeEscape n).length = 6 := rfl
  unfold accepted
  split
  case h_8 =>
    split_ifs with special ascii
    all_goals simp only [List.length_append, escape, List.length_singleton]
    all_goals grind
  all_goals cases ensureAscii <;> decide

/-- The state of `dump_escaped` with some ranges to come: the decoder stands there, and the buffer
has room for the end of the code point. -/
structure Ready (ensureAscii : Bool) (pending : List Range) (escaping : Escaping) : Prop where
  stands : Stands escaping.decoder.state pending
  room : escaping.buffer.length +
    (if pending = [] ∨ ensureAscii = true then 13 else 9 + pending.length) ≤ stringBufferSize

/-- Flushing keeps what has been written. -/
theorem Escaping.flush_content (escaping : Escaping) :
    escaping.flush.output ++ escaping.flush.buffer = escaping.output ++ escaping.buffer := by
  unfold Escaping.flush
  split_ifs
  · exact List.append_nil _
  · rfl

/-- After flushing there is room for a code point. -/
theorem Escaping.flush_room (escaping : Escaping) :
    escaping.flush.buffer.length + 13 ≤ stringBufferSize := by
  unfold Escaping.flush
  split_ifs with full
  · exact Nat.le_of_ble_eq_true rfl
  · unfold stringBufferSize at full ⊢
    omega

/-- Flushing leaves the decoder alone. -/
theorem Escaping.flush_decoder (escaping : Escaping) :
    escaping.flush.decoder = escaping.decoder := by
  unfold Escaping.flush
  split_ifs <;> rfl

/-- The machine expects at most three bytes. -/
theorem expected_length : ∀ state < 9, (expected state).length ≤ 3 := by
  decide

/-- Putting what fits into the buffer. -/
theorem Escaping.put_fits {escaping : Escaping} {chars : List Char} {overwritten : Nat}
    (fits : escaping.buffer.length + chars.length + overwritten ≤ stringBufferSize) :
    escaping.put chars overwritten = .ok { escaping with buffer := escaping.buffer ++ chars } :=
  if_pos fits

/-- The last byte of a code point is written with it, and there is room again. -/
theorem escapeByte_accepts {ensureAscii : Bool} {pending : List Range} {escaping : Escaping}
    {c : Char} (i : Nat) (ready : Ready ensureAscii pending escaping)
    (moves : Utf8.step pending (toByte c) = some []) :
    ∃ next, escapeByte ensureAscii i c escaping = .ok next ∧ Ready ensureAscii [] next ∧
      next.decoder = decode escaping.decoder (toByte c) ∧
      next.output ++ next.buffer = escaping.output ++ escaping.buffer ++
        (accepted ensureAscii (decode escaping.decoder (toByte c)).codep c).1 := by
  have stands := decode_moves ready.stands moves
  have between := stands.accept_iff.mpr rfl
  have length := accepted_length ensureAscii (decode escaping.decoder (toByte c)).codep c
  have room := ready.room
  let decoded : Escaping := { escaping with decoder := decode escaping.decoder (toByte c) }
  have fits : decoded.buffer.length +
      (accepted ensureAscii (decode escaping.decoder (toByte c)).codep c).1.length +
      (accepted ensureAscii (decode escaping.decoder (toByte c)).codep c).2 ≤
        stringBufferSize := by
    change escaping.buffer.length + _ + _ ≤ _
    cases ensureAscii with
    | true =>
      rw [if_pos rfl] at length
      rw [if_pos (Or.inr rfl)] at room
      omega
    | false =>
      rw [if_neg Bool.false_ne_true] at length
      split_ifs at room <;> omega
  refine ⟨{ decoded with buffer := decoded.buffer ++
    (accepted ensureAscii (decode escaping.decoder (toByte c)).codep c).1 }.flush, ?_, ⟨?_, ?_⟩,
    ?_, ?_⟩
  · unfold escapeByte
    simp only
    rw [if_pos between, Escaping.put_fits fits]
    rfl
  · rw [Escaping.flush_decoder]
    exact stands
  · rw [if_pos (Or.inl rfl)]
    exact Escaping.flush_room _
  · rw [Escaping.flush_decoder]
  · rw [Escaping.flush_content, List.append_assoc]

/-- A byte within a code point waits in the buffer, unless the code point will be escaped. -/
theorem escapeByte_waits {ensureAscii : Bool} {pending ranges : List Range} {escaping : Escaping}
    {c : Char} (i : Nat) (ready : Ready ensureAscii pending escaping)
    (moves : Utf8.step pending (toByte c) = some ranges) (within : ranges ≠ []) :
    ∃ next, escapeByte ensureAscii i c escaping = .ok next ∧ Ready ensureAscii ranges next ∧
      next.decoder = decode escaping.decoder (toByte c) ∧
      next.output ++ next.buffer =
        escaping.output ++ escaping.buffer ++ if ensureAscii then [] else [c] := by
  have stands := decode_moves ready.stands moves
  have inside := mt stands.accept_iff.mp within
  have room := ready.room
  unfold escapeByte
  simp only
  rw [if_neg inside, if_neg stands.accepted]
  cases ensureAscii with
  | true =>
    refine ⟨_, rfl, ⟨stands, ?_⟩, rfl, ?_⟩
    · rw [if_pos (Or.inr rfl)] at room ⊢
      exact room
    · exact (List.append_nil _).symm
  | false =>
    have few : ranges.length ≤ 3 := by
      rw [← stands.ranges]
      exact expected_length _ stands.known
    have space : escaping.buffer.length + 1 + (9 + ranges.length) ≤ stringBufferSize := by
      cases pending with
      | nil =>
        rw [if_pos (Or.inl rfl)] at room
        omega
      | cons range rest =>
        rw [if_neg (by simp)] at room
        rw [Utf8.step] at moves
        split_ifs at moves
        cases moves
        rw [List.length_cons] at room
        omega
    rw [if_neg Bool.false_ne_true, Escaping.put_fits (by simp only [List.length_singleton]; omega)]
    refine ⟨_, rfl, ⟨stands, ?_⟩, rfl, ?_⟩
    · rw [if_neg (by simp [within])]
      simp only [List.length_append, List.length_singleton]
      exact space
    · exact (List.append_assoc _ _ _).symm

/-- A byte that does not go on is an error. -/
theorem escapeByte_stuck {ensureAscii : Bool} {pending : List Range} {escaping : Escaping}
    {c : Char} (i : Nat) (ready : Ready ensureAscii pending escaping)
    (stuck : Utf8.step pending (toByte c) = none) :
    escapeByte ensureAscii i c escaping = .error (invalidByte i (toByte c)) := by
  have rejected := decode_stuck ready.stands stuck
  unfold escapeByte
  simp only
  rw [if_neg (by rw [rejected]; decide), if_pos rejected]

/-- The code units of a scalar value in UTF-16. -/
def utf16 (n : Nat) : List Nat :=
  if n ≤ 0xFFFF then [n] else [0xD800 + (n - 0x10000) / 0x400, 0xDC00 + (n - 0x10000) % 0x400]

/-- The `\u` escapes of a scalar value. -/
def unicodeEscapes (n : Nat) : List Char := (utf16 n).flatMap unicodeEscape

/-- The letters after the backslash of the short escapes. -/
def letters : List (Nat × Char) :=
  [(0x08, 'b'), (0x09, 't'), (0x0A, 'n'), (0x0C, 'f'), (0x0D, 'r'), (0x22, '"'), (0x5C, '\\')]

/-- What a character is written as. -/
def escape (ensureAscii : Bool) (c : Char) : List Char :=
  match letters.lookup c.toNat with
  | some letter => ['\\', letter]
  | none =>
    if c.toNat ≤ 0x1F ∨ (ensureAscii = true ∧ 0x7F ≤ c.toNat) then unicodeEscapes c.toNat
    else ofBytes (String.utf8EncodeChar c)

/-- The source's surrogates are those of UTF-16. -/
theorem unicodeEscapes_eq (n : Nat) : unicodeEscapes n =
    if n ≤ 0xFFFF then unicodeEscape n
    else unicodeEscape (0xD7C0 + n >>> 10) ++ unicodeEscape (0xDC00 + (n &&& 0x3FF)) := by
  unfold unicodeEscapes utf16
  split_ifs with short
  · exact List.append_nil _
  · have high : 0xD800 + (n - 0x10000) / 0x400 = 0xD7C0 + n >>> 10 := by
      rw [Nat.shiftRight_eq_div_pow]
      omega
    have low : 0xDC00 + (n - 0x10000) % 0x400 = 0xDC00 + (n &&& 0x3FF) := by
      rw [show n &&& 0x3FF = n % 0x400 from Nat.and_two_pow_sub_one_eq_mod n 10]
      omega
    rw [high, low]
    exact congrArg (_ ++ ·) (List.append_nil _)

/-- What is written for an accepted code point, by the same table. -/
theorem accepted_eq (ensureAscii : Bool) (n : Nat) (last : Char) :
    (accepted ensureAscii n last).1 =
      match letters.lookup n with
      | some letter => ['\\', letter]
      | none =>
        if n ≤ 0x1F ∨ (ensureAscii = true ∧ 0x7F ≤ n) then unicodeEscapes n else [last] := by
  rw [unicodeEscapes_eq]
  unfold accepted
  split
  case h_8 =>
    have other : letters.lookup n = none := by
      simp only [List.lookup_eq_none_iff, letters, List.forall_mem_cons, bne_iff_ne]
      exact ⟨‹_›, ‹_›, ‹_›, ‹_›, ‹_›, ‹_›, ‹_›, fun _ => nofun⟩
    rw [other]
    simp only [ge_iff_le]
    split_ifs <;> rfl
  all_goals rfl

/-- A code point of one byte is written as its character. -/
theorem accepted_ascii (ensureAscii : Bool) {c : Char} {first : UInt8}
    (alone : String.utf8EncodeChar c = [first]) :
    (accepted ensureAscii c.toNat (ofByte first)).1 = escape ensureAscii c := by
  rw [accepted_eq, escape, alone]
  rfl

/-- No character of several bytes has a short escape. -/
theorem letters_long {n : Nat} (long : 0x80 ≤ n) : letters.lookup n = none := by
  rw [List.lookup_eq_none_iff]
  intro entry member
  have ascii : entry.1 < 0x80 := by
    revert entry
    decide
  simp only [bne_iff_ne]
  omega

/-- A code point of several bytes is written as escapes, or with its last byte. -/
theorem accepted_long (ensureAscii : Bool) {n : Nat} (long : 0x80 ≤ n) (last : Char) :
    (accepted ensureAscii n last).1 = if ensureAscii then unicodeEscapes n else [last] := by
  have visible : ¬n ≤ 0x1F := by omega
  have beyond : 0x7F ≤ n := by omega
  simp only [accepted_eq, letters_long long, visible, beyond, false_or, and_true]

/-- A character of several bytes is written as escapes, or as its bytes. -/
theorem escape_long (ensureAscii : Bool) {c : Char} (long : 0x80 ≤ c.toNat) :
    escape ensureAscii c =
      if ensureAscii then unicodeEscapes c.toNat else ofBytes (String.utf8EncodeChar c) := by
  have visible : ¬c.toNat ≤ 0x1F := by omega
  have beyond : 0x7F ≤ c.toNat := by omega
  simp only [escape, letters_long long, visible, beyond, false_or, and_true]

/-- More bytes collect more bits. -/
theorem le_collected (bits : Nat) (rest : List UInt8) : bits ≤ rest.foldl collect bits := by
  induction rest generalizing bits with
  | nil => exact Nat.le_refl _
  | cons byte rest more =>
    have further := more (collect bits byte)
    have first : bits ≤ collect bits byte := by
      unfold collect
      omega
    exact Nat.le_trans first further

/-- The loop goes on after a byte. -/
theorem escapeBytes_cons {ensureAscii : Bool} {i : Nat} {c : Char} {escaping next : Escaping}
    (ran : escapeByte ensureAscii i c escaping = .ok next) (s : List Char) :
    escapeBytes ensureAscii i (c :: s) escaping = escapeBytes ensureAscii (i + 1) s next := by
  rw [escapeBytes, ran]
  rfl

/-- The loop goes over the bytes of a code point that are still to come. -/
theorem escapeBytes_within {ensureAscii : Bool} {ranges : List Range} {rest : List UInt8}
    (inside : List.Forall₂ Range.Contains ranges rest) (pending : ranges ≠ []) (more : List Char)
    {escaping : Escaping} (i : Nat) (ready : Ready ensureAscii ranges escaping)
    (long : 0x80 ≤ rest.foldl collect escaping.decoder.codep)
    (scalar : rest.foldl collect escaping.decoder.codep < 0x110000) :
    ∃ next, escapeBytes ensureAscii i (ofBytes rest ++ more) escaping =
        escapeBytes ensureAscii (i + rest.length) more next ∧ Ready ensureAscii [] next ∧
      next.output ++ next.buffer = escaping.output ++ escaping.buffer ++
        if ensureAscii then unicodeEscapes (rest.foldl collect escaping.decoder.codep)
        else ofBytes rest := by
  induction inside generalizing i escaping with
  | nil => exact absurd rfl pending
  | @cons range byte ranges rest contained inside following =>
    have moves : Utf8.step (range :: ranges) (toByte (ofByte byte)) = some ranges := by
      rw [toByte_ofByte]
      exact if_pos contained
    have small : escaping.decoder.codep < 2 ^ 26 := by
      have bound := le_collected escaping.decoder.codep (byte :: rest)
      omega
    have outside := mt ready.stands.accept_iff.mp pending
    have bits := decode_next byte outside small
    cases inside with
    | nil =>
      obtain ⟨next, ran, ready', _, content⟩ := escapeByte_accepts i ready moves
      have long' : 0x80 ≤ collect escaping.decoder.codep byte := long
      rw [toByte_ofByte, bits, accepted_long ensureAscii long'] at content
      exact ⟨next, escapeBytes_cons ran more, ready', content⟩
    | @cons range' byte' ranges rest contained' inside =>
      obtain ⟨next, ran, ready', decoder, content⟩ := escapeByte_waits i ready moves (by simp)
      rw [toByte_ofByte] at decoder
      have collected : next.decoder.codep = collect escaping.decoder.codep byte := by
        rw [decoder, bits]
      rw [List.foldl_cons, ← collected] at long scalar
      obtain ⟨last, ran', ready'', content'⟩ := following (by simp) (i + 1) ready' long scalar
      have length : i + 1 + (byte' :: rest).length = i + (byte :: byte' :: rest).length := by
        simp only [List.length_cons]
        omega
      have total : (byte :: byte' :: rest).foldl collect escaping.decoder.codep =
          (byte' :: rest).foldl collect next.decoder.codep := by
        simp only [List.foldl_cons, collected]
      rw [length] at ran'
      refine ⟨last, ?_, ready'', ?_⟩
      · exact (escapeBytes_cons ran _).trans ran'
      · rw [content', content, total]
        cases ensureAscii <;> simp [ofBytes]

/-- The loop goes over a character. -/
theorem escapeBytes_char {ensureAscii : Bool} (c : Char) (more : List Char) {escaping : Escaping}
    (i : Nat) (ready : Ready ensureAscii [] escaping) :
    ∃ next, escapeBytes ensureAscii i (ofBytes (String.utf8EncodeChar c) ++ more) escaping =
        escapeBytes ensureAscii (i + (String.utf8EncodeChar c).length) more next ∧
      Ready ensureAscii [] next ∧ next.output ++ next.buffer =
        escaping.output ++ escaping.buffer ++ escape ensureAscii c := by
  obtain ⟨first, rest, ranges, encoded, following, within, bits⟩ := encodes c
  have between := ready.stands.accept_iff.mpr rfl
  have moves : Utf8.step [] (toByte (ofByte first)) = some ranges := by
    rw [toByte_ofByte]
    exact following
  have leads := decode_first between following
  cases within with
  | nil =>
    obtain ⟨next, ran, ready', _, content⟩ := escapeByte_accepts i ready moves
    have value : (decode escaping.decoder first).codep = c.toNat := leads.trans bits
    rw [toByte_ofByte, value, accepted_ascii ensureAscii encoded] at content
    rw [encoded]
    exact ⟨next, escapeBytes_cons ran more, ready', content⟩
  | @cons range byte ranges rest contained within =>
    obtain ⟨next, ran, ready', decoder, content⟩ := escapeByte_waits i ready moves (by simp)
    have long : 0x80 ≤ c.toNat := by
      by_contra short
      rw [encode_one (by omega)] at encoded
      cases encoded
    have collected : (byte :: rest).foldl collect next.decoder.codep = c.toNat := by
      rw [decoder, toByte_ofByte, leads, ← bits, List.length_cons, List.length_cons,
        within.length_eq]
    have scalar : c.toNat < 0x110000 := by
      have bounds := char_scalar c
      omega
    obtain ⟨last, ran', ready'', content'⟩ := escapeBytes_within (.cons contained within) (by simp)
      more (i + 1) ready' (by rwa [collected]) (by rwa [collected])
    have length : i + 1 + (byte :: rest).length = i + (first :: byte :: rest).length := by
      simp only [List.length_cons]
      omega
    rw [length] at ran'
    rw [encoded]
    refine ⟨last, (escapeBytes_cons ran _).trans ran', ready'', ?_⟩
    rw [content', content, collected, escape_long ensureAscii long, encoded]
    cases ensureAscii <;> simp [ofBytes]

/-- The loop goes over a text. -/
theorem escapeBytes_text {ensureAscii : Bool} (text : List Char) {escaping : Escaping} (i : Nat)
    (ready : Ready ensureAscii [] escaping) :
    ∃ next, escapeBytes ensureAscii i (ofBytes (encode text)) escaping = .ok next ∧
      Ready ensureAscii [] next ∧ next.output ++ next.buffer =
        escaping.output ++ escaping.buffer ++ text.flatMap (escape ensureAscii) := by
  induction text generalizing i escaping with
  | nil => exact ⟨escaping, rfl, ready, (List.append_nil _).symm⟩
  | cons c text later =>
    obtain ⟨next, ran, ready', content⟩ := escapeBytes_char c (ofBytes (encode text)) i ready
    obtain ⟨last, ran', ready'', content'⟩ := later (i + (String.utf8EncodeChar c).length) ready'
    refine ⟨last, ?_, ready'', ?_⟩
    · rw [encode_cons, ofBytes, List.map_append]
      exact ran.trans ran'
    · rw [content', content, List.flatMap_cons, List.append_assoc]

/-- The loop stops where the machine stops, and otherwise ends where the machine ends. -/
theorem escapeBytes_run {ensureAscii : Bool} {s : List Char} {pending : List Range}
    {escaping : Escaping} (i : Nat) (ready : Ready ensureAscii pending escaping) :
    (∃ ranges next, Utf8.run pending (toBytes s) = some ranges ∧
      escapeBytes ensureAscii i s escaping = .ok next ∧ Ready ensureAscii ranges next) ∨
    ∃ k byte, (toBytes s)[k]? = some byte ∧ Utf8.run pending ((toBytes s).take k) ≠ none ∧
      Utf8.run pending ((toBytes s).take (k + 1)) = none ∧
      escapeBytes ensureAscii i s escaping = .error (invalidByte (i + k) byte) := by
  induction s generalizing i pending escaping with
  | nil => exact .inl ⟨pending, escaping, rfl, rfl, ready⟩
  | cons c s later =>
    cases moved : Utf8.step pending (toByte c) with
    | none =>
      refine .inr ⟨0, toByte c, rfl, by simp, ?_, ?_⟩
      · change Utf8.run pending [toByte c] = none
        rw [run_cons, moved]
        rfl
      · rw [escapeBytes, escapeByte_stuck i ready moved]
        rfl
    | some ranges =>
      have next : ∃ next, escapeByte ensureAscii i c escaping = .ok next ∧
          Ready ensureAscii ranges next := by
        by_cases ended : ranges = []
        · subst ended
          obtain ⟨next, ran, ready', _⟩ := escapeByte_accepts i ready moved
          exact ⟨next, ran, ready'⟩
        · obtain ⟨next, ran, ready', _⟩ := escapeByte_waits i ready moved ended
          exact ⟨next, ran, ready'⟩
      obtain ⟨next, ran, ready'⟩ := next
      have goes (bytes : List UInt8) :
          Utf8.run pending (toByte c :: bytes) = Utf8.run ranges bytes := by
        rw [run_cons, moved]
        rfl
      rw [escapeBytes_cons ran]
      rcases later (i + 1) ready' with ⟨ranges', last, ended, ran', ready''⟩ |
        ⟨k, byte, entry, reads, stuck, failed⟩
      · exact .inl ⟨ranges', last, (goes _).trans ended, ran', ready''⟩
      · refine .inr ⟨k + 1, byte, entry, ?_, (goes _).trans stuck, ?_⟩
        · exact (goes _).trans_ne reads
        · rw [failed, Nat.add_assoc, Nat.add_comm 1]

/-- The state in which `dump_escaped` starts. -/
theorem ready_start (ensureAscii : Bool) : Ready ensureAscii []
    { decoder := { state := accept, codep := 0 }, buffer := [], output := [] } where
  stands := stands_accept
  room := by
    rw [if_pos (Or.inl rfl)]
    exact Nat.le_of_ble_eq_true rfl

/-- A valid string is written as the escapes of its characters. -/
theorem dumpEscaped_encode (ensureAscii : Bool) (text : List Char) :
    dumpEscaped ensureAscii (ofBytes (encode text)) = .ok (text.flatMap (escape ensureAscii)) := by
  obtain ⟨next, ran, ready, content⟩ := escapeBytes_text text 0 (ready_start ensureAscii)
  unfold dumpEscaped
  rw [ran]
  change (if next.decoder.state = accept then _ else _) = _
  rw [if_pos (ready.stands.accept_iff.mpr rfl), content]
  rfl

/-- A string that is not valid is an exception that names where no text goes on: the first byte
with which none does, or else the last byte. -/
theorem dumpEscaped_invalid (ensureAscii : Bool) {s : List Char} (invalid : ¬Valid (toBytes s)) :
    (∃ i byte, (toBytes s)[i]? = some byte ∧ (∃ more, Valid ((toBytes s).take i ++ more)) ∧
      (¬∃ more, Valid ((toBytes s).take (i + 1) ++ more)) ∧
      dumpEscaped ensureAscii s = .error (invalidByte i byte)) ∨
    ∃ byte, (toBytes s).getLast? = some byte ∧ (∃ more, Valid (toBytes s ++ more)) ∧
      dumpEscaped ensureAscii s = .error (incomplete byte) := by
  unfold dumpEscaped
  rcases escapeBytes_run 0 (ready_start ensureAscii) with
    ⟨ranges, next, ended, ran, ready⟩ | ⟨k, byte, entry, reads, stuck, failed⟩
  · refine .inr ?_
    have within : next.decoder.state ≠ accept := by
      intro between
      rw [ready.stands.accept_iff.mp between] at ended
      exact invalid ((run_iff_valid _).mp ended)
    have nonempty : s ≠ [] := fun empty => invalid (by rw [empty]; exact ⟨[], rfl⟩)
    obtain ⟨c, last⟩ := Option.ne_none_iff_exists'.mp (mt List.getLast?_eq_none_iff.mp nonempty)
    have entry : (toBytes s).getLast? = some (toByte c) := by
      rw [toBytes, List.getLast?_map, last]
      rfl
    have same : s.getLastD '\x00' = c := by
      rw [List.getLastD_eq_getLast?, last]
      rfl
    refine ⟨toByte c, entry, (run_ne_none_iff _).mp (by simp [ended]), ?_⟩
    rw [ran, ← same]
    exact if_neg within
  · refine .inl ⟨k, byte, entry, (run_ne_none_iff _).mp reads, ?_, ?_⟩
    · exact fun some => (run_ne_none_iff _).mpr some stuck
    · rw [failed, Nat.zero_add]
      rfl

/-- **What `dump_escaped` writes.** A string that is valid UTF-8 is written as the escapes of its
characters, however often the buffer is written out in between and without a write beyond it.
Any other string is `type_error.316`, which names the first byte with which no text goes on or,
where the string ends too early, its last byte. -/
theorem dumpEscaped_spec (ensureAscii : Bool) {s : List Char} (narrow : Narrow s) :
    (∀ text, toBytes s = encode text →
      dumpEscaped ensureAscii s = .ok (text.flatMap (escape ensureAscii))) ∧
    (¬Valid (toBytes s) →
      (∃ i byte, (toBytes s)[i]? = some byte ∧ (∃ more, Valid ((toBytes s).take i ++ more)) ∧
        (¬∃ more, Valid ((toBytes s).take (i + 1) ++ more)) ∧
        dumpEscaped ensureAscii s = .error (invalidByte i byte)) ∨
      ∃ byte, (toBytes s).getLast? = some byte ∧ (∃ more, Valid (toBytes s ++ more)) ∧
        dumpEscaped ensureAscii s = .error (incomplete byte)) := by
  refine ⟨fun text same => ?_, dumpEscaped_invalid ensureAscii⟩
  rw [← ofBytes_toBytes narrow, same]
  exact dumpEscaped_encode ensureAscii text

/-- A character of two bytes becomes one escape. -/
theorem dumpEscaped_spec_umlaut :
    dumpEscaped true [Char.ofNat 0xC3, Char.ofNat 0xA4, '\n'] =
      .ok ['\\', 'u', '0', '0', 'e', '4', '\\', 'n'] := by
  have narrow : Narrow [Char.ofNat 0xC3, Char.ofNat 0xA4, '\n'] := narrow_of_all (by decide)
  exact (dumpEscaped_spec true narrow).1 ['ä', '\n'] (by decide)

end Serializer

end RcDynamics
