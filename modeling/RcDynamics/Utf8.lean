import Mathlib.Data.List.Basic

/-!
# UTF-8

A text is encoded character by character, each in one to four bytes. `tails` gives the ranges of
the bytes that may follow a first byte, and a machine whose state is the list of ranges still to
come reads bytes one at a time. It ends between characters exactly on the encodings of texts, and
the payload bits that it collects are the characters.
-/

namespace Utf8

/-- The encoding of a text. -/
def encode (text : List Char) : List UInt8 := text.flatMap String.utf8EncodeChar

/-- The bytes are the encoding of some text. -/
def Valid (bytes : List UInt8) : Prop := ∃ text, encode text = bytes

/-- No text has no bytes. -/
@[simp] theorem encode_nil : encode [] = [] := rfl

/-- A text is encoded from its front. -/
@[simp] theorem encode_cons (c : Char) (text : List Char) :
    encode (c :: text) = String.utf8EncodeChar c ++ encode text := rfl

/-- A range of bytes, both bounds included. -/
abbrev Range := Nat × Nat

/-- A byte lies in a range. -/
def Range.Contains (range : Range) (byte : UInt8) : Prop :=
  range.1 ≤ byte.toNat ∧ byte.toNat ≤ range.2

instance (range : Range) (byte : UInt8) : Decidable (range.Contains byte) :=
  inferInstanceAs (Decidable (_ ∧ _))

/-- The range of the bytes after the first one, where the first one does not narrow it. -/
def continuation : Range := (0x80, 0xBF)

/-- The ranges of the bytes after a first byte; nothing when no character starts with it. -/
def tails (first : Nat) : Option (List Range) :=
  if first < 0x80 then some []
  else if first < 0xC2 then none
  else if first < 0xE0 then some [continuation]
  else if first = 0xE0 then some [(0xA0, 0xBF), continuation]
  else if first = 0xED then some [(0x80, 0x9F), continuation]
  else if first < 0xF0 then some [continuation, continuation]
  else if first = 0xF0 then some [(0x90, 0xBF), continuation, continuation]
  else if first < 0xF4 then some [continuation, continuation, continuation]
  else if first = 0xF4 then some [(0x80, 0x8F), continuation, continuation]
  else none

/-- The bits of a first byte that belong to the character, by the number of bytes after it. -/
def leading (first : Nat) : Nat → Nat
  | 0 => first
  | 1 => first % 0x20
  | 2 => first % 0x10
  | _ => first % 0x08

/-- The bits collected so far and those of the next byte. -/
def collect (bits : Nat) (byte : UInt8) : Nat := bits * 0x40 + byte.toNat % 0x40

/-- The first byte of a character, the bytes after it, and their ranges. -/
structure Encodes (c : Char) (first : UInt8) (rest : List UInt8) (ranges : List Range) : Prop where
  encoded : String.utf8EncodeChar c = first :: rest
  following : tails first.toNat = some ranges
  within : List.Forall₂ Range.Contains ranges rest
  bits : rest.foldl collect (leading first.toNat rest.length) = c.toNat

/-- A small number is the number of its byte. -/
theorem toNat_ofNat {n : Nat} (small : n < 0x100) : (UInt8.ofNat n).toNat = n := by
  simpa using Nat.mod_eq_of_lt small

/-- The byte with a number. -/
theorem ofNat_eq {n : Nat} (byte : UInt8) (same : n = byte.toNat) : UInt8.ofNat n = byte := by
  rw [same, UInt8.ofNat_toNat]

/-- A small number within bounds is a byte of the range. -/
theorem contains_ofNat {low high n : Nat} (small : n < 0x100) (above : low ≤ n) (below : n ≤ high) :
    Range.Contains (low, high) (UInt8.ofNat n) := by
  rw [Range.Contains, toNat_ofNat small]
  exact ⟨above, below⟩

/-- A scalar value is a character. -/
theorem exists_char {n : Nat} (scalar : n < 0xD800 ∨ (0xDFFF < n ∧ n < 0x110000)) :
    ∃ c : Char, c.toNat = n := ⟨Char.ofNatAux n scalar, rfl⟩

/-- A character is a scalar value. -/
theorem char_scalar (c : Char) : c.toNat < 0xD800 ∨ (0xDFFF < c.toNat ∧ c.toNat < 0x110000) :=
  c.valid

/-- A character of one byte. -/
theorem encode_one {c : Char} (high : c.toNat ≤ 0x7F) :
    String.utf8EncodeChar c = [UInt8.ofNat c.toNat] := if_pos high

/-- A character of two bytes. -/
theorem encode_two {c : Char} (low : 0x7F < c.toNat) (high : c.toNat ≤ 0x7FF) :
    String.utf8EncodeChar c =
      [UInt8.ofNat (c.toNat / 64 % 0x20 + 0xC0), UInt8.ofNat (c.toNat % 0x40 + 0x80)] :=
  (if_neg (Nat.not_le.2 low)).trans (if_pos high)

/-- A character of three bytes. -/
theorem encode_three {c : Char} (low : 0x7FF < c.toNat) (high : c.toNat ≤ 0xFFFF) :
    String.utf8EncodeChar c =
      [UInt8.ofNat (c.toNat / 4096 % 0x10 + 0xE0), UInt8.ofNat (c.toNat / 64 % 0x40 + 0x80),
        UInt8.ofNat (c.toNat % 0x40 + 0x80)] := by
  have past : ¬c.toNat ≤ 0x7F := by omega
  exact (if_neg past).trans ((if_neg (Nat.not_le.2 low)).trans (if_pos high))

/-- A character of four bytes. -/
theorem encode_four {c : Char} (low : 0xFFFF < c.toNat) :
    String.utf8EncodeChar c =
      [UInt8.ofNat (c.toNat / 262144 % 0x08 + 0xF0), UInt8.ofNat (c.toNat / 4096 % 0x40 + 0x80),
        UInt8.ofNat (c.toNat / 64 % 0x40 + 0x80), UInt8.ofNat (c.toNat % 0x40 + 0x80)] := by
  have past : ¬c.toNat ≤ 0x7F := by omega
  have past' : ¬c.toNat ≤ 0x7FF := by omega
  exact (if_neg past).trans ((if_neg past').trans (if_neg (Nat.not_le.2 low)))

/-- The second of three bytes is in the range that the first demands: the first range leaves out
what two bytes are enough for, and the second the surrogates. -/
theorem second_of_three {c : Char} (low : 0x7FF < c.toNat) (high : c.toNat ≤ 0xFFFF) :
    ∃ range, tails (c.toNat / 4096 % 0x10 + 0xE0) = some [range, continuation] ∧
      range.Contains (UInt8.ofNat (c.toNat / 64 % 0x40 + 0x80)) := by
  have scalar := char_scalar c
  by_cases short : c.toNat < 0x1000
  · have first : c.toNat / 4096 % 0x10 + 0xE0 = 0xE0 := by omega
    refine ⟨(0xA0, 0xBF), ?_, contains_ofNat (by omega) (by omega) (by omega)⟩
    rw [first]
    rfl
  by_cases surrogates : 0xD000 ≤ c.toNat ∧ c.toNat < 0xE000
  · have first : c.toNat / 4096 % 0x10 + 0xE0 = 0xED := by omega
    refine ⟨(0x80, 0x9F), ?_, contains_ofNat (by omega) (by omega) (by omega)⟩
    rw [first]
    rfl
  · refine ⟨continuation, ?_, contains_ofNat (by omega) (by omega) (by omega)⟩
    rw [tails, if_neg (by omega), if_neg (by omega), if_neg (by omega), if_neg (by omega),
      if_neg (by omega), if_pos (by omega)]

/-- So is the second of four: the ranges leave out what three bytes are enough for, and what is
beyond the last character. -/
theorem second_of_four {c : Char} (low : 0xFFFF < c.toNat) :
    ∃ range, tails (c.toNat / 262144 % 0x08 + 0xF0) = some [range, continuation, continuation] ∧
      range.Contains (UInt8.ofNat (c.toNat / 4096 % 0x40 + 0x80)) := by
  have scalar := char_scalar c
  by_cases short : c.toNat < 0x40000
  · have first : c.toNat / 262144 % 0x08 + 0xF0 = 0xF0 := by omega
    refine ⟨(0x90, 0xBF), ?_, contains_ofNat (by omega) (by omega) (by omega)⟩
    rw [first]
    rfl
  by_cases last : 0x100000 ≤ c.toNat
  · have first : c.toNat / 262144 % 0x08 + 0xF0 = 0xF4 := by omega
    refine ⟨(0x80, 0x8F), ?_, contains_ofNat (by omega) (by omega) (by omega)⟩
    rw [first]
    rfl
  · refine ⟨continuation, ?_, contains_ofNat (by omega) (by omega) (by omega)⟩
    rw [tails, if_neg (by omega), if_neg (by omega), if_neg (by omega), if_neg (by omega),
      if_neg (by omega), if_neg (by omega), if_neg (by omega), if_pos (by omega)]

/-- The last six bits of a number are in a byte that continues a character. -/
theorem contains_continuation (n : Nat) :
    Range.Contains continuation (UInt8.ofNat (n % 0x40 + 0x80)) :=
  contains_ofNat (by omega) (by omega) (by omega)

/-- Every character has a first byte and bytes in the ranges that this one demands. -/
theorem encodes (c : Char) : ∃ first rest ranges, Encodes c first rest ranges := by
  have scalar := char_scalar c
  by_cases one : c.toNat ≤ 0x7F
  · have small : c.toNat < 0x100 := by omega
    refine ⟨UInt8.ofNat c.toNat, [], [], ⟨encode_one one, ?_, List.Forall₂.nil, ?_⟩⟩
    · rw [toNat_ofNat small, tails, if_pos (by omega)]
    · exact toNat_ofNat small
  by_cases two : c.toNat ≤ 0x7FF
  · have small : c.toNat / 64 % 0x20 + 0xC0 < 0x100 := by omega
    refine ⟨_, _, [continuation], ⟨encode_two (by omega) two, ?_, ?_, ?_⟩⟩
    · rw [toNat_ofNat small, tails, if_neg (by omega), if_neg (by omega), if_pos (by omega)]
    · exact .cons (contains_continuation _) .nil
    · simp only [List.length_singleton, leading, List.foldl, collect]
      rw [toNat_ofNat small, toNat_ofNat (by omega)]
      omega
  by_cases three : c.toNat ≤ 0xFFFF
  · have small : c.toNat / 4096 % 0x10 + 0xE0 < 0x100 := by omega
    obtain ⟨range, following, contained⟩ := second_of_three (Nat.not_le.mp two) three
    refine ⟨_, _, [range, continuation], ⟨encode_three (by omega) three, ?_, ?_, ?_⟩⟩
    · rw [toNat_ofNat small, following]
    · exact .cons contained (.cons (contains_continuation _) .nil)
    · simp only [List.length_cons, List.length_nil, leading, List.foldl, collect]
      rw [toNat_ofNat small, toNat_ofNat (by omega), toNat_ofNat (by omega)]
      omega
  · have small : c.toNat / 262144 % 0x08 + 0xF0 < 0x100 := by omega
    obtain ⟨range, following, contained⟩ := second_of_four (Nat.not_le.mp three)
    refine ⟨_, _, [range, continuation, continuation], ⟨encode_four (by omega), ?_, ?_, ?_⟩⟩
    · rw [toNat_ofNat small, following]
    · exact .cons contained (.cons (contains_continuation _) (.cons (contains_continuation _) .nil))
    · simp only [List.length_cons, List.length_nil, leading, List.foldl, collect]
      rw [toNat_ofNat small, toNat_ofNat (by omega), toNat_ofNat (by omega),
        toNat_ofNat (by omega)]
      omega

/-- The first bytes by the number of bytes that follow. -/
theorem tails_cases {first : Nat} {ranges : List Range} (following : tails first = some ranges) :
    (first < 0x80 ∧ ranges = []) ∨
    (0xC2 ≤ first ∧ first < 0xE0 ∧ ranges = [continuation]) ∨
    (0xE0 ≤ first ∧ first < 0xF0 ∧ ∃ low high, ranges = [(low, high), continuation] ∧
      0x80 ≤ low ∧ high ≤ 0xBF ∧ (first = 0xE0 → 0xA0 ≤ low) ∧ (first = 0xED → high ≤ 0x9F)) ∨
    (0xF0 ≤ first ∧ first < 0xF5 ∧ ∃ low high,
      ranges = [(low, high), continuation, continuation] ∧
      0x80 ≤ low ∧ high ≤ 0xBF ∧ (first = 0xF0 → 0x90 ≤ low) ∧ (first = 0xF4 → high ≤ 0x8F)) := by
  unfold tails at following
  split_ifs at following <;> cases following
  case pos ascii => exact .inl ⟨ascii, rfl⟩
  case pos below => exact .inr (.inl ⟨by omega, below, rfl⟩)
  all_goals first
    | exact .inr (.inr (.inl
        ⟨by omega, by omega, _, _, rfl, by omega, by omega, by omega, by omega⟩))
    | exact .inr (.inr (.inr
        ⟨by omega, by omega, _, _, rfl, by omega, by omega, by omega, by omega⟩))

/-- Bytes in the ranges that a first byte demands belong to a character. -/
theorem encodes_of_within {first : UInt8} {rest : List UInt8} {ranges : List Range}
    (following : tails first.toNat = some ranges)
    (within : List.Forall₂ Range.Contains ranges rest) : ∃ c, Encodes c first rest ranges := by
  rcases tails_cases following with ⟨ascii, rfl⟩ | ⟨above, below, rfl⟩ |
    ⟨above, below, low, high, rfl, bounds⟩ | ⟨above, below, low, high, rfl, bounds⟩
  · cases within
    obtain ⟨c, value⟩ := exists_char (n := first.toNat) (by omega)
    refine ⟨c, ?_, following, .nil, value.symm⟩
    rw [encode_one (by omega), ofNat_eq _ value]
  · rcases within with _ | ⟨⟨low₂, high₂⟩, _ | _⟩
    rename_i second
    have low₂ : 0x80 ≤ second.toNat := low₂
    have high₂ : second.toNat ≤ 0xBF := high₂
    obtain ⟨c, value⟩ := exists_char
      (n := first.toNat % 0x20 * 0x40 + second.toNat % 0x40) (by omega)
    refine ⟨c, ?_, following, .cons ⟨low₂, high₂⟩ .nil, value.symm⟩
    rw [encode_two (by omega) (by omega), ofNat_eq first (by omega),
      ofNat_eq second (by omega)]
  · rcases within with _ | ⟨⟨low₂, high₂⟩, _ | ⟨⟨low₃, high₃⟩, _ | _⟩⟩
    rename_i second third
    have low₂ : low ≤ second.toNat := low₂
    have high₂ : second.toNat ≤ high := high₂
    have low₃ : 0x80 ≤ third.toNat := low₃
    have high₃ : third.toNat ≤ 0xBF := high₃
    obtain ⟨c, value⟩ := exists_char
      (n := (first.toNat % 0x10 * 0x40 + second.toNat % 0x40) * 0x40 + third.toNat % 0x40)
      (by omega)
    refine ⟨c, ?_, following, .cons ⟨low₂, high₂⟩ (.cons ⟨low₃, high₃⟩ .nil), value.symm⟩
    rw [encode_three (by omega) (by omega), ofNat_eq first (by omega),
      ofNat_eq second (by omega), ofNat_eq third (by omega)]
  · rcases within with _ | ⟨⟨low₂, high₂⟩, _ | ⟨⟨low₃, high₃⟩, _ | ⟨⟨low₄, high₄⟩, _ | _⟩⟩⟩
    rename_i second third fourth
    have low₂ : low ≤ second.toNat := low₂
    have high₂ : second.toNat ≤ high := high₂
    have low₃ : 0x80 ≤ third.toNat := low₃
    have high₃ : third.toNat ≤ 0xBF := high₃
    have low₄ : 0x80 ≤ fourth.toNat := low₄
    have high₄ : fourth.toNat ≤ 0xBF := high₄
    obtain ⟨c, value⟩ := exists_char
      (n := ((first.toNat % 0x08 * 0x40 + second.toNat % 0x40) * 0x40 + third.toNat % 0x40) *
        0x40 + fourth.toNat % 0x40) (by omega)
    refine ⟨c, ?_, following,
      .cons ⟨low₂, high₂⟩ (.cons ⟨low₃, high₃⟩ (.cons ⟨low₄, high₄⟩ .nil)), value.symm⟩
    rw [encode_four (by omega), ofNat_eq first (by omega),
      ofNat_eq second (by omega), ofNat_eq third (by omega),
      ofNat_eq fourth (by omega)]

/-- The machine reads a byte, between characters or with ranges still to come. -/
def step : List Range → UInt8 → Option (List Range)
  | [], byte => tails byte.toNat
  | range :: pending, byte => if range.Contains byte then some pending else none

/-- The machine reads some bytes. -/
def run (pending : List Range) (bytes : List UInt8) : Option (List Range) :=
  bytes.foldlM step pending

/-- Without bytes the machine stays where it is. -/
@[simp] theorem run_nil (pending : List Range) : run pending [] = some pending := rfl

/-- The machine reads from the front. -/
@[simp] theorem run_cons (pending : List Range) (byte : UInt8) (bytes : List UInt8) :
    run pending (byte :: bytes) = (step pending byte).bind (run · bytes) := rfl

/-- Bytes in the pending ranges are read to the next character. -/
theorem run_within {ranges : List Range} {rest : List UInt8} (bytes : List UInt8)
    (within : List.Forall₂ Range.Contains ranges rest) :
    run ranges (rest ++ bytes) = run [] bytes := by
  induction within with
  | nil => rfl
  | cons inside _ following => rw [List.cons_append, run_cons, step, if_pos inside]; exact following

/-- A run to the end of a character reads bytes in the pending ranges first. -/
theorem within_of_run {ranges : List Range} {bytes : List UInt8}
    (ran : run ranges bytes = some []) :
    ∃ rest more, bytes = rest ++ more ∧ List.Forall₂ Range.Contains ranges rest ∧
      run [] more = some [] := by
  induction ranges generalizing bytes with
  | nil => exact ⟨[], bytes, rfl, .nil, ran⟩
  | cons range ranges following =>
    cases bytes with
    | nil => cases ran
    | cons byte bytes =>
      rw [run_cons, step] at ran
      by_cases inside : range.Contains byte
      · rw [if_pos inside, Option.bind_some] at ran
        obtain ⟨rest, more, rfl, within, ended⟩ := following ran
        exact ⟨byte :: rest, more, rfl, .cons inside within, ended⟩
      · rw [if_neg inside] at ran
        cases ran

/-- The encoding of a text is read from character to character. -/
theorem run_encode (text : List Char) (bytes : List UInt8) :
    run [] (encode text ++ bytes) = run [] bytes := by
  induction text with
  | nil => rfl
  | cons c text ended =>
    obtain ⟨first, rest, ranges, encoded, following, within, _⟩ := encodes c
    rw [encode_cons, encoded, List.cons_append, List.cons_append, run_cons, step, following,
      Option.bind_some, List.append_assoc, run_within _ within, ended]

/-- **The machine accepts UTF-8.** From the start it ends between characters exactly on the
encodings of texts. -/
theorem run_iff_valid (bytes : List UInt8) : run [] bytes = some [] ↔ Valid bytes := by
  constructor
  · intro ran
    induction size : bytes.length using Nat.strongRecOn generalizing bytes with
    | ind n shorter =>
      cases bytes with
      | nil => exact ⟨[], rfl⟩
      | cons first bytes =>
        rw [run_cons, step] at ran
        cases following : tails first.toNat with
        | none =>
          rw [following] at ran
          cases ran
        | some ranges =>
          rw [following, Option.bind_some] at ran
          obtain ⟨rest, more, rfl, within, ended⟩ := within_of_run ran
          obtain ⟨c, character⟩ := encodes_of_within following within
          have less : more.length < n := by
            rw [← size, List.length_cons, List.length_append]
            omega
          obtain ⟨text, rfl⟩ := shorter _ less more ended rfl
          exact ⟨c :: text, by rw [encode_cons, character.encoded, List.cons_append]⟩
  · rintro ⟨text, rfl⟩
    have ended := run_encode text []
    rwa [List.append_nil] at ended

instance (bytes : List UInt8) : Decidable (Valid bytes) :=
  decidable_of_iff _ (run_iff_valid bytes)

/-- The machine reads one part and then the other. -/
theorem run_append (pending : List Range) (first second : List UInt8) :
    run pending (first ++ second) = (run pending first).bind (run · second) :=
  List.foldlM_append

/-- Every range has a byte. -/
def Possible (pending : List Range) : Prop :=
  ∀ range ∈ pending, range.1 ≤ range.2 ∧ range.2 < 0x100

/-- The ranges after a first byte have bytes. -/
theorem tails_possible {first : Nat} {ranges : List Range} (following : tails first = some ranges) :
    Possible ranges := by
  unfold tails at following
  split_ifs at following <;> cases following <;> simp [Possible, continuation]

/-- The machine never waits for a byte that does not exist. -/
theorem run_possible {pending ranges : List Range} {bytes : List UInt8}
    (possible : Possible pending) (ran : run pending bytes = some ranges) : Possible ranges := by
  induction bytes generalizing pending with
  | nil =>
    cases ran
    exact possible
  | cons byte bytes later =>
    rw [run_cons] at ran
    cases moved : step pending byte with
    | none =>
      rw [moved] at ran
      cases ran
    | some next =>
      rw [moved] at ran
      refine later ?_ ran
      cases pending with
      | nil => exact tails_possible moved
      | cons range rest =>
        rw [step] at moved
        split_ifs at moved
        cases moved
        exact fun range' member => possible range' (List.mem_cons_of_mem _ member)

/-- Ranges that have bytes can be filled. -/
theorem exists_within {pending : List Range} (possible : Possible pending) :
    ∃ rest, List.Forall₂ Range.Contains pending rest := by
  induction pending with
  | nil => exact ⟨[], .nil⟩
  | cons range pending later =>
    obtain ⟨ordered, small⟩ := possible range List.mem_cons_self
    obtain ⟨rest, within⟩ := later fun range' member =>
      possible range' (List.mem_cons_of_mem range member)
    exact ⟨_, .cons (contains_ofNat (by omega) (Nat.le_refl _) ordered) within⟩

/-- **The machine reads what some text starts with.** It stops at the first byte with which no
text goes on. -/
theorem run_ne_none_iff (bytes : List UInt8) :
    run [] bytes ≠ none ↔ ∃ more, Valid (bytes ++ more) := by
  constructor
  · intro reads
    obtain ⟨ranges, ran⟩ := Option.ne_none_iff_exists'.mp reads
    have possible := run_possible (fun _ member => absurd member List.not_mem_nil) ran
    obtain ⟨rest, within⟩ := exists_within possible
    have ended := run_within [] within
    rw [List.append_nil, run_nil] at ended
    refine ⟨rest, (run_iff_valid _).mp ?_⟩
    rw [run_append, ran]
    exact ended
  · rintro ⟨more, valid⟩ stuck
    have ran := (run_iff_valid _).mpr valid
    rw [run_append, stuck] at ran
    cases ran

end Utf8
