import RcDynamics.RoundTrip

/-!
# Documents that can be printed

Printing fails for a string that is not valid UTF-8, and for nothing else. A document that was
parsed has no such string, whatever the text was: the parser checks the bytes that it copies and
encodes those that it is given as escapes. So everything that was parsed can be printed, and after
one round of printing and parsing neither the text nor the document changes any more.
-/

open RcDynamics.Parser

namespace RcDynamics

namespace Json

mutual

/-- The strings of a document in the order in which they are printed, each key before its value. -/
def strings : Json → List String
  | string value => [value]
  | array elements => elementStrings elements
  | object members => memberStrings members
  | _ => []

/-- The strings in the elements of an array. -/
def elementStrings : List Json → List String
  | [] => []
  | element :: elements => element.strings ++ elementStrings elements

/-- The strings in the members of an object. -/
def memberStrings : List (String × Json) → List String
  | [] => []
  | (key, value) :: members => key :: (value.strings ++ memberStrings members)

end

/-- A string can be printed: its bytes are valid UTF-8. -/
def printable (s : String) : Bool := Utf8.Valid (toBytes s.toList)

/-- Every string of a document is valid UTF-8. -/
def Printable (j : Json) : Prop := ∀ s ∈ j.strings, printable s = true

end Json

open Checked Json Lexer Serializer

section Tokens

/-- The value of a token can be held, and printed if it is a string. -/
def Lexer.Token.Stored : Token → Prop
  | .valueString value => Narrow value.toList ∧ printable value = true
  | .valueUnsigned value => value < 2 ^ 64
  | .valueInteger value => -2 ^ 63 ≤ value ∧ value < 2 ^ 63
  | _ => True

/-- A text that is encoded can be held and printed. -/
theorem stored_encoded {s : String} {text : List Char}
    (same : s.toList = ofBytes (Utf8.encode text)) : Narrow s.toList ∧ printable s = true := by
  have valid : Utf8.Valid (toBytes s.toList) := ⟨text, by rw [same, toBytes_ofBytes]⟩
  exact ⟨same ▸ narrow_ofBytes _, decide_eq_true valid⟩

/-- A number of the parser fits its type. -/
theorem scanNumber_stored (current : Char) (input : List Char) :
    (scanNumber current input).1.Stored := by
  unfold scanNumber
  split
  · rename_i type tokenBuffer rest _
    unfold convert
    split
    · simp only
      split_ifs with small
      · exact small
      · exact trivial
    · simp only
      split_ifs with small
      · exact ⟨small, by omega⟩
      · exact trivial
    · exact trivial
  · exact trivial

/-- A literal is the token it stands for, or none. -/
theorem scanLiteral_stored {t : Token} (stored : t.Stored)
    (literalText input : List Char) : (scanLiteral literalText t input).1.Stored := by
  induction literalText generalizing input with
  | nil => exact stored
  | cons c literalText later =>
    cases input with
    | nil => exact trivial
    | cons current input =>
      rw [scanLiteral]
      split_ifs
      · exact later input
      · exact trivial

/-- A string token can be held and printed; nothing else comes from `scan_string`. -/
theorem scanString_stored (input : List Char) : (scanString [] input).1.Stored := by
  have token : ∀ (tokenBuffer input : List Char),
      (∃ value, (scanString tokenBuffer input).1 = .valueString value) ∨
        (scanString tokenBuffer input).1 = .parseError := by
    intro tokenBuffer input
    induction size : input.length using Nat.strongRecOn generalizing tokenBuffer input with
    | ind n shorter =>
      rw [scanString]
      split
      · exact .inl ⟨_, rfl⟩
      · rename_i chars rest step
        have less := scanStringStep_length step
        exact shorter rest.length (by omega) (tokenBuffer ++ chars) rest rfl
      · exact .inr rfl
  rcases token [] input with ⟨value, scanned⟩ | failed
  · obtain ⟨text, same⟩ := scanString_valid scanned [] rfl
    rw [scanned]
    exact stored_encoded same
  · rw [failed]
    exact trivial

/-- Every token can be stored. -/
theorem scan_stored (input : List Char) : (scan input).1.Stored := by
  unfold scan
  split
  · exact trivial
  · rename_i c rest _
    unfold scanToken
    split
    case h_7 => exact scanLiteral_stored (t := .literalTrue) trivial _ rest
    case h_8 => exact scanLiteral_stored (t := .literalFalse) trivial _ rest
    case h_9 => exact scanLiteral_stored (t := .literalNull) trivial _ rest
    case h_10 => exact scanString_stored rest
    case h_12 =>
      split_ifs
      · exact scanNumber_stored _ rest
      · exact trivial
    all_goals exact trivial

/-- The first token can be stored. -/
theorem scanFirst_stored (input : List Char) : (scanFirst input).1.Stored := by
  unfold scanFirst
  split
  · exact scan_stored _
  · exact trivial

end Tokens

section Parsed

/-- The members of an object can be held and printed. -/
def Stored (members : List (String × Json)) : Prop :=
  (object members).Held ∧ (object members).Printable

/-- The strings after an assignment. -/
theorem string_of_assign {key : String} {value : Json} {members : List (String × Json)} {s : String}
    (inside : s ∈ memberStrings (assign key value members)) :
    s = key ∨ s ∈ value.strings ∨ s ∈ memberStrings members := by
  induction members with
  | nil =>
    simp only [assign, memberStrings, List.append_nil, List.mem_cons] at inside
    tauto
  | cons first members later =>
    obtain ⟨name, old⟩ := first
    rw [assign] at inside
    split_ifs at inside
    · simp only [memberStrings, List.mem_cons, List.mem_append] at inside ⊢
      tauto
    · simp only [memberStrings, List.mem_cons, List.mem_append] at inside ⊢
      tauto
    · simp only [memberStrings, List.mem_cons, List.mem_append] at inside ⊢
      tauto

/-- An assignment keeps that the members can be held and printed. -/
theorem assign_stored {key : String} {value : Json} {members : List (String × Json)}
    (name : Narrow key.toList ∧ printable key = true)
    (held : value.Held) (valid : value.Printable) (stored : Stored members) :
    Stored (assign key value members) := by
  obtain ⟨⟨before, sorted⟩, known⟩ := stored
  refine ⟨⟨?_, assign_sorted sorted⟩, ?_⟩
  · clear sorted known
    induction members with
    | nil => exact ⟨name.1, held, trivial⟩
    | cons first members later =>
      obtain ⟨other, old⟩ := first
      rw [assign]
      split_ifs
      · exact ⟨name.1, held, before⟩
      · exact ⟨name.1, held, before.2.2⟩
      · exact ⟨before.1, before.2.1, later before.2.2⟩
  · intro s inside
    rcases string_of_assign inside with rfl | inside | inside
    · exact name.2
    · exact valid s inside
    · exact known s inside

/-- A value without strings can be printed. -/
theorem printable_nil {j : Json} (none : j.strings = []) : j.Printable := by
  intro s inside
  rw [none] at inside
  cases inside

/-- The value of a token that can be stored can be held and printed. -/
theorem scalar_stored {token : Token} {v : Json} (stored : token.Stored)
    (alone : scalarOf token = some v) : v.Held ∧ v.Printable := by
  cases token with
  | valueFloat value =>
    rw [scalarOf] at alone
    split_ifs at alone
    cases alone
    exact ⟨trivial, printable_nil rfl⟩
  | valueString value =>
    cases alone
    refine ⟨stored.1, fun s inside => ?_⟩
    rw [List.mem_singleton.mp inside]
    exact stored.2
  | valueUnsigned value | valueInteger value =>
    cases alone
    exact ⟨stored, printable_nil rfl⟩
  | literalTrue | literalFalse | literalNull =>
    cases alone
    exact ⟨trivial, printable_nil rfl⟩
  | _ => cases alone

/-- An object without members can be held and printed. -/
theorem stored_nil : Stored [] := ⟨⟨trivial, List.Pairwise.nil⟩, printable_nil rfl⟩

mutual

/-- A value of the grammar can be held and printed. -/
theorem value_stored {v : Json} {first : Token × List Char} {rest : List Char} :
    Value v first rest → first.1.Stored → v.Held ∧ v.Printable
  | .scalar alone, stored => scalar_stored stored alone
  | .emptyArray _, _ => ⟨trivial, printable_nil rfl⟩
  | .array inside, _ => elements_stored inside (scan_stored _)
  | .emptyObject _, _ => stored_nil
  | .object inside, _ => members_stored inside (scan_stored _) [] stored_nil

/-- An array of elements of the grammar can be held and printed. -/
theorem elements_stored {elements : List Json} {first : Token × List Char} {rest : List Char} :
    Elements elements first rest → first.1.Stored →
      (array elements).Held ∧ (array elements).Printable
  | .last value _, stored => by
    have one := value_stored value stored
    refine ⟨⟨one.1, trivial⟩, fun s inside => one.2 s ?_⟩
    rwa [strings, elementStrings, elementStrings, List.append_nil] at inside
  | .more value _ others, stored => by
    have one := value_stored value stored
    have more := elements_stored others (scan_stored _)
    refine ⟨⟨one.1, more.1⟩, fun s inside => ?_⟩
    rw [strings, elementStrings] at inside
    rcases List.mem_append.mp inside with inside | inside
    · exact one.2 s inside
    · exact more.2 s inside

/-- The object that members of the grammar make can be held and printed. -/
theorem members_stored {members : List (String × Json)} {first : Token × List Char}
    {rest : List Char} :
    Members members first rest → first.1.Stored →
      ∀ before, Stored before → Stored (assemble before members)
  | .last _ value _, stored => by
    intro before known
    have one := value_stored value (scan_stored _)
    exact assign_stored stored one.1 one.2 known
  | .more _ value _ others, stored => by
    intro before known
    have one := value_stored value (scan_stored _)
    exact members_stored others (scan_stored _) _ (assign_stored stored one.1 one.2 known)

end

/-- What was parsed can be held and printed. -/
theorem parse_stored {text : String} {j : Json} (parsed : Json.parse text = .ok j) :
    j.Held ∧ j.Printable := by
  obtain ⟨rest, value, _⟩ := (document_of_parse text.toList).1 j parsed
  exact value_stored value (scanFirst_stored text.toList)

end Parsed

section Printing

variable {ensureAscii : Bool} {toChars : ToChars}

/-- Printing a string checks that it is valid. -/
theorem dumpEscaped_follows {s : String} (narrow : Narrow s.toList) :
    Follows printable (fun e s => dumpEscaped ensureAscii s.toList = .error e) [s]
      (dumpEscaped ensureAscii s.toList) := by
  by_cases valid : Utf8.Valid (toBytes s.toList)
  · obtain ⟨text, encoded⟩ := valid
    have same : s.toList = ofBytes (Utf8.encode text) := by rw [encoded, ofBytes_toBytes narrow]
    have written := dumpEscaped_encode ensureAscii text
    rw [← same] at written
    exact .of_fits (decide_eq_true ⟨text, encoded⟩) written
  · rcases dumpEscaped_invalid ensureAscii valid with ⟨_, _, _, _, _, failed⟩ | ⟨_, _, _, failed⟩
    all_goals exact .of_fault (decide_eq_false valid) failed failed

mutual

/-- Printing a document checks its strings in their order, and nothing else. -/
theorem dump_follows : ∀ (j : Json), j.Held → ∀ (cells : Vector Char 64),
    Follows printable (fun e s => dumpEscaped ensureAscii s.toList = .error e) j.strings
      (Serializer.dump ensureAscii toChars j cells)
  | .null, _, _ => .pure _
  | .boolean true, _, _ => .pure _
  | .boolean false, _, _ => .pure _
  | .float value, _, _ => .pure _
  | .unsigned value, held, cells => by
    have small : value < 2 ^ 64 := held
    obtain ⟨after, printed⟩ := dumpInteger_eq (x := value) ⟨by omega, by omega⟩ cells
    rw [Serializer.dump, printed]
    exact .pure _
  | .integer value, held, cells => by
    have bounds : -2 ^ 63 ≤ value ∧ value < 2 ^ 63 := held
    obtain ⟨after, printed⟩ := dumpInteger_eq (x := value) ⟨bounds.1, by omega⟩ cells
    rw [Serializer.dump, printed]
    exact .pure _
  | .string value, held, _ => (dumpEscaped_follows held).bind_ok _
  | .array [], _, _ => .pure _
  | .array (element :: elements), held, cells =>
    (dumpElements_follows (element :: elements) held cells).bind_ok _
  | .object [], _, _ => .pure _
  | .object (member :: members), held, cells =>
    (dumpMembers_follows (member :: members) held.1 cells).bind_ok _

/-- Printing the elements of an array checks their strings. -/
theorem dumpElements_follows : ∀ (elements : List Json), HeldElements elements →
    ∀ (cells : Vector Char 64),
    Follows printable (fun e s => dumpEscaped ensureAscii s.toList = .error e)
      (elementStrings elements) (dumpElements ensureAscii toChars elements cells)
  | [], _, _ => .pure _
  | [last], held, cells => by
    rw [elementStrings, elementStrings, List.append_nil]
    exact dump_follows last held.1 cells
  | element :: next :: elements, held, cells =>
    (dump_follows element held.1 cells).bind fun written _ =>
      (dumpElements_follows (next :: elements) held.2 written.2).bind_ok _

/-- Printing the members of an object checks their strings. -/
theorem dumpMembers_follows : ∀ (members : List (String × Json)), HeldMembers members →
    ∀ (cells : Vector Char 64),
    Follows printable (fun e s => dumpEscaped ensureAscii s.toList = .error e)
      (memberStrings members) (dumpMembers ensureAscii toChars members cells)
  | [], _, _ => .pure _
  | [(key, last)], held, cells => by
    rw [memberStrings, memberStrings, List.append_nil]
    exact (dumpEscaped_follows held.1).cons fun name _ =>
      (dump_follows last held.2.1 cells).bind_ok _
  | (key, value) :: next :: members, held, cells =>
    (dumpEscaped_follows held.1).cons fun name _ =>
      (dump_follows value held.2.1 cells).bind fun written _ =>
        (dumpMembers_follows (next :: members) held.2.2 written.2).bind_ok _

end

mutual

/-- A document is printed as the parser stores it. -/
theorem dump_normal : ∀ (j : Json) (cells : Vector Char 64),
    Serializer.dump ensureAscii toChars j.normal cells =
      Serializer.dump ensureAscii toChars j cells
  | .null, _ | .boolean _, _ | .unsigned _, _ | .string _, _ => rfl
  | .float value, cells => by
    rw [normal]
    split_ifs with finite
    · rfl
    · rw [Serializer.dump, Serializer.dump, dumpFloat, if_pos (by simpa using finite)]
  | .integer value, cells => by
    rw [normal]
    split_ifs with natural
    · rw [Serializer.dump, Serializer.dump, Int.toNat_of_nonneg natural]
    · rfl
  | .array [], _ => rfl
  | .array (element :: elements), cells => by
    have same := dumpElements_normal (element :: elements) cells
    simp only [normal, normalElements, Serializer.dump] at same ⊢
    rw [same]
  | .object [], _ => rfl
  | .object ((key, value) :: members), cells => by
    have same := dumpMembers_normal ((key, value) :: members) cells
    simp only [normal, normalMembers, Serializer.dump] at same ⊢
    rw [same]

/-- The elements of an array are printed as the parser stores them. -/
theorem dumpElements_normal : ∀ (elements : List Json) (cells : Vector Char 64),
    dumpElements ensureAscii toChars (normalElements elements) cells =
      dumpElements ensureAscii toChars elements cells
  | [], _ => rfl
  | [last], cells => dump_normal last cells
  | element :: next :: elements, cells => by
    have others := dumpElements_normal (next :: elements)
    simp only [normalElements, dumpElements, dump_normal element] at others ⊢
    simp only [others]

/-- The members of an object are printed as the parser stores them. -/
theorem dumpMembers_normal : ∀ (members : List (String × Json)) (cells : Vector Char 64),
    dumpMembers ensureAscii toChars (normalMembers members) cells =
      dumpMembers ensureAscii toChars members cells
  | [], _ => rfl
  | [(key, last)], cells => by
    simp only [normalMembers, dumpMembers, dump_normal last]
  | (key, value) :: (name, next) :: members, cells => by
    have others := dumpMembers_normal ((name, next) :: members)
    simp only [normalMembers, dumpMembers, dump_normal value] at others ⊢
    simp only [others]

end

/-- `dump` checks the strings of a document in their order. -/
theorem json_dump_follows (ensureAscii : Bool) (toChars : ToChars) {j : Json} (held : j.Held) :
    Follows printable (fun e s => dumpEscaped ensureAscii s.toList = .error e) j.strings
      (j.dump ensureAscii toChars) := by
  have follows : Follows printable
      (fun e s => dumpEscaped ensureAscii s.toList = .error e) j.strings
      (Serializer.dump ensureAscii toChars j (Vector.replicate 64 '\x00')) :=
    dump_follows j held _
  unfold Json.dump
  split
  all_goals
    rename_i printed
    rwa [printed] at follows

/-- A document of valid strings is printed. -/
theorem dump_ok (ensureAscii : Bool) (toChars : ToChars) {j : Json} (held : j.Held)
    (valid : j.Printable) : ∃ text, j.dump ensureAscii toChars = .ok text := by
  have follows := json_dump_follows ensureAscii toChars held
  cases printed : j.dump ensureAscii toChars with
  | ok text => exact ⟨text, rfl⟩
  | error e =>
    rw [printed] at follows
    obtain ⟨s, found, _⟩ := follows
    rw [(firstUnfit_eq_none_iff printable j.strings).mpr valid] at found
    cases found

/-- A string that is not valid is a `type_error.316`. -/
theorem dumpEscaped_error {s : String} (invalid : printable s = false) :
    ∃ what, dumpEscaped ensureAscii s.toList = .error (.json "type_error" 316 what) := by
  have unprintable := of_decide_eq_false invalid
  rcases dumpEscaped_invalid ensureAscii unprintable with
    ⟨_, _, _, _, _, thrown⟩ | ⟨_, _, _, thrown⟩
  · exact ⟨_, thrown⟩
  · exact ⟨_, thrown⟩

/-- A document with a string that is not valid is a `type_error.316`. -/
theorem dump_error (ensureAscii : Bool) (toChars : ToChars) {j : Json} (held : j.Held)
    (invalid : ¬j.Printable) :
    ∃ what, j.dump ensureAscii toChars = .error (.json "type_error" 316 what) := by
  have follows := json_dump_follows ensureAscii toChars held
  cases printed : j.dump ensureAscii toChars with
  | ok text =>
    rw [printed] at follows
    exact absurd ((firstUnfit_eq_none_iff printable j.strings).mp follows) invalid
  | error e =>
    rw [printed] at follows
    obtain ⟨s, found, failed⟩ := follows
    obtain ⟨what, thrown⟩ := dumpEscaped_error (firstUnfit_eq_some found).2
    rw [thrown] at failed
    cases failed
    exact ⟨what, rfl⟩

end Printing

/-- What `to_chars` leaves in a buffer of zeros for the number 1.5. -/
def oneAndHalf : ToChars := fun _ _ =>
  (Vector.ofFn fun i => ['1', '.', '5'].getD i '\x00', 3)

/-- The number 1.5 is read back. -/
theorem readsBack_oneAndHalf : ReadsBack oneAndHalf (.finite (3 / 2)) := by
  intro _ cells rest stops
  have ended : scanDigits .decimal2 .float ['1', '.', '5'] rest =
      some (.float, ['1', '.', '5'], rest) := by
    cases rest with
    | nil => rfl
    | cons c rest =>
      obtain ⟨digit, _, e, capital⟩ := stops c rfl
      simp [scanDigits, NumberState.move, digit, e, capital]
  have value : Lexer.strtof ['1', '.', '5'] = .finite (3 / 2) := by decide +kernel
  have start : numberStart '1' = (.any1, .unsigned) := rfl
  have scanned : scanDigits .any1 .unsigned ['1'] ('.' :: '5' :: rest) =
      some (.float, ['1', '.', '5'], rest) := ended
  have accepted := scanNumber_accepted start scanned
  rw [convert, value] at accepted
  exact accepted

/-- **What makes `dump` fail.** A document that can be held is printed when all its strings and
keys are valid UTF-8. Otherwise `dump` throws what its first invalid string makes
`dump_escaped` throw, where a key comes before its value and members come in key order. -/
theorem dump_fails_at_first_invalid (ensureAscii : Bool) (toChars : ToChars) {j : Json}
    (held : j.Held) :
    (j.Printable → ∃ text, j.dump ensureAscii toChars = .ok text) ∧
    ∀ before s after, j.strings = before ++ s :: after → (∀ t ∈ before, printable t = true) →
      printable s = false → ∃ what,
        dumpEscaped ensureAscii s.toList = .error (.json "type_error" 316 what) ∧
        j.dump ensureAscii toChars = .error (.json "type_error" 316 what) := by
  refine ⟨dump_ok ensureAscii toChars held, fun before s after split valid invalid => ?_⟩
  have follows := json_dump_follows ensureAscii toChars held
  have first : firstUnfit printable j.strings = some s := by
    rw [split, firstUnfit_append, (firstUnfit_eq_none_iff printable before).mpr valid]
    change (s :: after).find? (fun r => !printable r) = some s
    rw [List.find?_cons, invalid]
    rfl
  obtain ⟨what, thrown⟩ := dumpEscaped_error invalid
  cases printed : j.dump ensureAscii toChars with
  | ok text =>
    rw [printed] at follows
    rw [show firstUnfit printable j.strings = none from follows] at first
    cases first
  | error e =>
    rw [printed] at follows
    obtain ⟨t, found, failed⟩ := follows
    rw [first] at found
    cases found
    rw [thrown] at failed
    cases failed
    exact ⟨what, thrown, rfl⟩

/-- A destination that is not valid UTF-8 is what fails. -/
theorem dump_fails_at_first_invalid_destination : ∃ what,
    (object [("destination", array [string "\xff:1"])]).dump false oneAndHalf =
      .error (.json "type_error" 316 what) := by
  have narrow : Narrow "destination".toList ∧ Narrow "\xff:1".toList :=
    ⟨narrow_of_all (by decide), narrow_of_all (by decide)⟩
  have held : (object [("destination", array [string "\xff:1"])]).Held :=
    ⟨⟨narrow.1, ⟨narrow.2, trivial⟩, trivial⟩, List.pairwise_singleton _ _⟩
  obtain ⟨what, _, failed⟩ := (dump_fails_at_first_invalid false oneAndHalf held).2
    ["destination"] "\xff:1" [] rfl (by decide) (by decide)
  exact ⟨what, failed⟩

/-- **Round trip of documents.** A document of valid strings whose floating-point numbers are
printed well is printed, with or without escapes for what is not ASCII. The text is parsed as the
document with its numbers as the parser stores them, which is printed as the same text. -/
theorem parse_dump (ensureAscii : Bool) {toChars : ToChars} {j : Json} (held : j.Held)
    (valid : j.Printable) (floats : j.EveryFloat (ReadsBack toChars)) :
    ∃ text, j.dump ensureAscii toChars = .ok text ∧ Json.parse text = .ok j.normal ∧
      j.normal.dump ensureAscii toChars = .ok text := by
  obtain ⟨text, printed⟩ := dump_ok ensureAscii toChars held valid
  refine ⟨text, printed, parse_of_dump held floats printed, ?_⟩
  rw [← printed, Json.dump, Json.dump, dump_normal]

/-- A document with a number of each kind. -/
def rates : Json :=
  object [("dt", float (.finite (3 / 2))), ("n", integer 7), ("nan", float .nan)]

/-- A finite number survives, a positive integer is stored as unsigned, and what is no number is
null. -/
theorem parse_dump_rates : ∃ text, rates.dump true oneAndHalf = .ok text ∧
    Json.parse text =
      .ok (object [("dt", float (.finite (3 / 2))), ("n", unsigned 7), ("nan", null)]) := by
  have narrow : Narrow "dt".toList ∧ Narrow "n".toList ∧ Narrow "nan".toList :=
    ⟨narrow_of_all (by decide), narrow_of_all (by decide), narrow_of_all (by decide)⟩
  have held : rates.Held := by
    refine ⟨⟨narrow.1, trivial, narrow.2.1, ⟨by decide, by decide⟩, narrow.2.2, trivial,
      trivial⟩, ?_⟩
    decide
  have valid : rates.Printable := by
    intro s inside
    have table : ∀ s ∈ ["dt", "n", "nan"], printable s = true := by decide
    exact table s inside
  have floats : rates.EveryFloat (ReadsBack oneAndHalf) :=
    ⟨readsBack_oneAndHalf, trivial, fun finite => (nomatch finite), trivial⟩
  obtain ⟨text, printed, parsed, _⟩ := parse_dump true held valid floats
  exact ⟨text, printed, parsed⟩

/-- **Printing what was parsed.** Whatever text was parsed, the document can be printed without an
exception, and as the parser stores it it is printed as the same text. When its floating-point
numbers are printed well, parsing that text returns the document as the parser stores it. -/
theorem dump_parse (ensureAscii : Bool) (toChars : ToChars) {text : String} {j : Json}
    (parsed : Json.parse text = .ok j) :
    (∃ printed, j.dump ensureAscii toChars = .ok printed ∧
        j.normal.dump ensureAscii toChars = .ok printed) ∧
      (j.EveryFloat (ReadsBack toChars) → ∀ printed, j.dump ensureAscii toChars = .ok printed →
        Json.parse printed = .ok j.normal) := by
  obtain ⟨held, valid⟩ := parse_stored parsed
  obtain ⟨text, printed⟩ := dump_ok ensureAscii toChars held valid
  refine ⟨⟨text, printed, ?_⟩, fun floats text' printed' => parse_of_dump held floats printed'⟩
  rw [← printed, Json.dump, Json.dump, dump_normal]

/-- A text with a blank is parsed, printed and parsed again. -/
theorem dump_parse_rates : ∃ printed,
    (array [integer (-7), float (.finite (3 / 2))]).dump false oneAndHalf = .ok printed ∧
      Json.parse printed = .ok (array [integer (-7), float (.finite (3 / 2))]) := by
  have parsed : Json.parse "[-7, 1.5]" = .ok (array [integer (-7), float (.finite (3 / 2))]) := by
    have value : Lexer.strtof ['1', '.', '5'] = .finite (3 / 2) := by decide +kernel
    have document : Document "[-7, 1.5]".toList
        (array [integer (-7), float (.finite (3 / 2))]) := by
      refine ⟨[], .array (.more (s := [',', ' ', '1', '.', '5', ']']) (.scalar rfl) rfl
        (.last (s := [']']) (.scalar ?_) rfl)), rfl⟩
      change scalarOf (.valueFloat (Lexer.strtof ['1', '.', '5'])) = _
      rw [value]
      rfl
    exact parse_of_document document
  obtain ⟨⟨text, printed, _⟩, again⟩ := dump_parse false oneAndHalf parsed
  exact ⟨text, printed, again ⟨trivial, readsBack_oneAndHalf, trivial⟩ text printed⟩

end RcDynamics
