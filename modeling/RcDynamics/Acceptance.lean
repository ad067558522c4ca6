import Mathlib.Data.List.Sort
import RcDynamics.Grammar
import RcDynamics.ScanNumber
import RcDynamics.Strings

/-!
# The parser accepts the JSON texts

The grammar over tokens, which is what the parser accepts, derives the same documents as the grammar
over characters. White space before a token is passed over, every token comes from a part of the
text, and after a value there always is something at which a number ends.
-/

namespace RcDynamics.Parser

open JsonText Lexer Serializer Utf8

/-- White space before a token is passed over. -/
theorem scan_blank {s t : List Char} (blank : Blank s t) : scan s = scan t := by
  obtain ⟨space, all, rfl⟩ := blank
  unfold scan
  rw [List.dropWhile_append_of_pos fun c member => isWhitespace_iff.mpr (all c member)]

/-- White space is cut off the front of a text. -/
theorem blank_dropWhile (s : List Char) : Blank s (s.dropWhile isWhitespace) := by
  refine ⟨s.takeWhile isWhitespace, fun c member => ?_, List.takeWhile_append_dropWhile.symm⟩
  exact isWhitespace_iff.mp (List.all_eq_true.mp List.all_takeWhile c member)

/-- What a token stands for in the text, with what is left after it. -/
def Lexeme (token : Token) (s t : List Char) : Prop :=
  match token with
  | .beginArray => s = '[' :: t
  | .endArray => s = ']' :: t
  | .beginObject => s = '{' :: t
  | .endObject => s = '}' :: t
  | .nameSeparator => s = ':' :: t
  | .valueSeparator => s = ',' :: t
  | .literalTrue => s = 't' :: 'r' :: 'u' :: 'e' :: t
  | .literalFalse => s = 'f' :: 'a' :: 'l' :: 's' :: 'e' :: t
  | .literalNull => s = 'n' :: 'u' :: 'l' :: 'l' :: t
  | .valueString value => ∃ text u, s = '"' :: u ∧ Characters text u t ∧ value = stored text
  | .valueUnsigned _ | .valueInteger _ | .valueFloat _ =>
    ∃ x : Numeral, s = x.text ++ t ∧ token = convert (numeralType x) x.text
  | .endOfInput => Ended s
  | .parseError => True

/-- The tokens that are numbers. -/
theorem convert_cases (type : NumberType) (text : List Char) :
    (∃ value, convert type text = .valueUnsigned value) ∨
      (∃ value, convert type text = .valueInteger value) ∨
      ∃ value, convert type text = .valueFloat value := by
  cases type with
  | unsigned =>
    rw [convert]
    split
    · exact .inl ⟨_, rfl⟩
    · exact .inr (.inr ⟨_, rfl⟩)
  | integer =>
    rw [convert]
    split
    · exact .inr (.inl ⟨_, rfl⟩)
    · exact .inr (.inr ⟨_, rfl⟩)
  | float => exact .inr (.inr ⟨_, rfl⟩)

/-- A number stands for its token. -/
theorem lexeme_number {x : Numeral} {token : Token} {s t : List Char} (cut : s = x.text ++ t)
    (number : token = convert (numeralType x) x.text) : Lexeme token s t := by
  rcases convert_cases (numeralType x) x.text with ⟨value, same⟩ | ⟨value, same⟩ | ⟨value, same⟩
  all_goals
    rw [same] at number
    subst number
    exact ⟨x, cut, same.symm⟩

/-- A literal is read as far as it agrees. -/
theorem scanLiteral_cases (literalText : List Char) (returnType : Token) (input : List Char) :
    scanLiteral literalText returnType input = (.parseError, []) ∨
      ∃ rest, input = literalText ++ rest ∧
        scanLiteral literalText returnType input = (returnType, rest) := by
  induction literalText generalizing input with
  | nil => exact .inr ⟨input, rfl, rfl⟩
  | cons c literalText later =>
    cases input with
    | nil => exact .inl rfl
    | cons current input =>
      rw [scanLiteral]
      split_ifs with same
      · subst same
        rcases later input with failed | ⟨rest, rfl, read⟩
        · exact .inl failed
        · exact .inr ⟨rest, rfl, read⟩
      · exact .inl rfl

/-- A string is read up to its quote, or it is an error. -/
theorem scanString_cases (tokenBuffer input : List Char) :
    scanString tokenBuffer input = (.parseError, []) ∨
      ∃ value rest, scanString tokenBuffer input = (.valueString value, rest) := by
  induction size : input.length using Nat.strongRecOn generalizing tokenBuffer input with
  | ind n shorter =>
    rw [scanString]
    split
    · exact .inr ⟨_, _, rfl⟩
    · rename_i chars rest step
      have less := scanStringStep_length step
      exact shorter rest.length (by omega) (tokenBuffer ++ chars) rest rfl
    · exact .inl rfl

/-- Every token comes from the part of the text that it stands for. -/
theorem scanToken_lexeme {c : Char} {rest t : List Char} {token : Token}
    (scanned : scanToken c rest = (token, t)) : Lexeme token (c :: rest) t := by
  have literal {literalText : List Char} {returnType : Token}
      (read : scanLiteral literalText returnType rest = (token, t)) :
      token = .parseError ∨ token = returnType ∧ rest = literalText ++ t := by
    rcases scanLiteral_cases literalText returnType rest with failed | ⟨left, rfl, same⟩
    · rw [failed] at read
      cases read
      exact .inl rfl
    · rw [same] at read
      cases read
      exact .inr ⟨rfl, rfl⟩
  unfold scanToken at scanned
  split at scanned
  case h_7 | h_8 | h_9 =>
    rcases literal scanned with rfl | ⟨rfl, rfl⟩
    · exact trivial
    · rfl
  case h_10 =>
    rcases scanString_cases [] rest with failed | ⟨value, left, read⟩
    · rw [failed] at scanned
      cases scanned
      exact trivial
    · rw [read] at scanned
      cases scanned
      obtain ⟨text, inside, same⟩ := characters_of_scanString read
      exact ⟨text, rest, rfl, inside, same⟩
  case h_11 =>
    cases scanned
    exact .inr ⟨_, rfl⟩
  case h_12 =>
    split_ifs at scanned with first
    · by_cases failed : token = .parseError
      · rw [failed]
        exact trivial
      · obtain ⟨x, cut, number⟩ := numeral_of_scanNumber first scanned failed
        exact lexeme_number cut number
    · cases scanned
      exact trivial
  all_goals
    cases scanned
    rfl

/-- So does every token after white space. -/
theorem scan_lexeme {s t : List Char} {token : Token} (scanned : scan s = (token, t)) :
    ∃ u, Blank s u ∧ Lexeme token u t := by
  refine ⟨s.dropWhile isWhitespace, blank_dropWhile s, ?_⟩
  unfold scan at scanned
  split at scanned
  · rename_i none
    cases scanned
    exact .inl none
  · rename_i c rest some
    rw [some]
    exact scanToken_lexeme scanned

/-- The token of a string. -/
theorem scan_string {text s t : List Char} (inside : Characters text s t) :
    scan ('"' :: s) = (.valueString (stored text), t) := scanString_of_characters inside []

/-- The value of a number is that of its token. -/
theorem scalarOf_convert (x : Numeral) : scalarOf (convert (numeralType x) x.text) = x.json := by
  have float : scalarOf (.valueFloat (Lexer.strtof x.text)) =
      (nearestDouble x.value).map fun value =>
        .float (if value = 0 ∧ x.negative then .negativeZero else .finite value) := by
    unfold Lexer.strtof
    simp only [exactValue_text, head_text_eq_iff]
    cases nearestDouble x.value with
    | none => rfl
    | some value =>
      simp only [Option.map_some]
      split_ifs
      · rfl
      · rfl
  unfold numeralType Numeral.json
  cases integer : x.isInteger with
  | false => exact float
  | true =>
    have text := text_integer integer
    cases sign : x.negative with
    | false =>
      have whole : Nat.ofDigitChars 10 x.text 0 = x.magnitude := by
        rw [text, sign]
        rfl
      simp only [sign, Bool.false_eq_true] at float
      simp only [if_true, Bool.false_eq_true, if_false, convert, whole, Bool.true_and,
        Bool.not_false, decide_eq_true_eq, Bool.and_false, Bool.false_and]
      split_ifs
      · rfl
      · exact float
    | true =>
      have whole : Nat.ofDigitChars 10 x.text.tail 0 = x.magnitude := by
        rw [text, sign]
        rfl
      have fits : (-2 ^ 63 : Int) ≤ -(x.magnitude : Int) ↔ x.magnitude ≤ 2 ^ 63 := by omega
      simp only [sign] at float
      simp only [if_true, convert, whole, fits, Bool.not_true, Bool.and_false, Bool.false_and,
        Bool.false_eq_true, if_false, Bool.true_and, decide_eq_true_eq]
      split_ifs
      · rfl
      · exact float

/-- What is found in front of other members. -/
theorem lookup_cons_eq (key name : String) (value : Json) (members : List (String × Json)) :
    ((key, value) :: members).lookup name =
      if name = key then some value else members.lookup name := by
  rw [List.lookup_cons]
  by_cases same : name = key
  · rw [if_pos same, beq_iff_eq.mpr same]
  · rw [if_neg same, beq_eq_false_iff_ne.mpr same]

/-- What is found after an assignment. -/
theorem lookup_assign (key : String) (value : Json) (members : List (String × Json))
    (name : String) :
    (assign key value members).lookup name =
      if name = key then some value else members.lookup name := by
  induction members with
  | nil => exact lookup_cons_eq key name value []
  | cons first members later =>
    obtain ⟨other, old⟩ := first
    rw [assign]
    by_cases less : key < other
    · rw [if_pos less, lookup_cons_eq]
    by_cases same : key = other
    · subst same
      rw [if_neg less, if_pos rfl, lookup_cons_eq, lookup_cons_eq]
      split_ifs
      · rfl
      · rfl
    · rw [if_neg less, if_neg same, lookup_cons_eq, lookup_cons_eq, later]
      by_cases found : name = key
      · rw [if_pos found, if_pos found, if_neg (found ▸ same)]
      · rw [if_neg found, if_neg found]

/-- Members that are assigned one after the other are in key order, and the last one for each key is
found. -/
theorem assemble_holds (before members : List (String × Json))
    (sorted : before.Pairwise fun a b => a.1 < b.1) :
    ((assemble before members).Pairwise fun a b => a.1 < b.1) ∧
      ∀ key, (assemble before members).lookup key =
        (members.reverse.lookup key).or (before.lookup key) := by
  induction members generalizing before with
  | nil => exact ⟨sorted, fun key => rfl⟩
  | cons member members later =>
    obtain ⟨ordered, found⟩ := later (assign member.1 member.2 before) (assign_sorted sorted)
    refine ⟨ordered, fun key => ?_⟩
    rw [List.reverse_cons, List.lookup_append, Option.or_assoc]
    refine (found key).trans (congrArg _ ?_)
    obtain ⟨name, value⟩ := member
    rw [lookup_assign, lookup_cons_eq]
    split
    · rfl
    · rfl

/-- In key order a member is found by its key. -/
theorem mem_iff_lookup {members : List (String × Json)}
    (sorted : members.Pairwise fun a b => a.1 < b.1) (key : String) (value : Json) :
    (key, value) ∈ members ↔ members.lookup key = some value := by
  rw [List.lookup_eq_some_iff]
  constructor
  · intro member
    obtain ⟨before, after, rfl⟩ := List.append_of_mem member
    refine ⟨before, after, rfl, fun other inside => ?_⟩
    have less := (List.pairwise_append.mp sorted).2.2 other inside (key, value) List.mem_cons_self
    have different : key ≠ other.1 := fun same => String.lt_irrefl _ (same ▸ less)
    exact bne_iff_ne.mpr different
  · rintro ⟨before, after, rfl, _⟩
    exact List.mem_append_right before List.mem_cons_self

/-- An object that holds what is written is what the parser assembles. -/
theorem holds_iff {object members : List (String × Json)} :
    Holds object members ↔ object = assemble [] members := by
  obtain ⟨ordered, found⟩ := assemble_holds [] members .nil
  have last (key : String) : (assemble [] members).lookup key = members.reverse.lookup key := by
    rw [found key, List.lookup_nil, Option.or_none]
  constructor
  · intro holds
    have irreflexive : Std.Irrefl fun a b : String × Json => a.1 < b.1 :=
      ⟨fun a => String.lt_irrefl a.1⟩
    have antisymmetric : Std.Antisymm fun a b : String × Json => a.1 < b.1 :=
      ⟨fun a b less greater => absurd greater (String.lt_asymm less)⟩
    apply holds.ordered.eq_of_mem_iff ordered
    rintro ⟨key, value⟩
    rw [mem_iff_lookup holds.ordered, mem_iff_lookup ordered, holds.last, last]
  · rintro rfl
    exact ⟨ordered, last⟩

/-- A number ends before white space, and where it ends after that. -/
theorem stops_of_blank {s t : List Char} (blank : Blank s t) (stops : Stops t) : Stops s := by
  obtain ⟨space, all, rfl⟩ := blank
  cases space with
  | nil => exact stops
  | cons c space =>
    apply stops_cons
    rcases all c List.mem_cons_self with rfl | rfl | rfl | rfl
    all_goals exact ⟨rfl, by decide, by decide, by decide⟩

/-- A number ends where its array or object goes on or closes, after white space. -/
theorem stops_before {c : Char} (mark : c = ',' ∨ c = ']' ∨ c = '}') {s t : List Char}
    (after : Blank s (c :: t)) : Stops s := by
  refine stops_of_blank after (stops_cons ?_ t)
  rcases mark with rfl | rfl | rfl
  all_goals exact ⟨rfl, by decide, by decide, by decide⟩

/-- A number ends at the end of the text. -/
theorem stops_of_ended {s : List Char} (ended : Ended s) : Stops s := by
  rcases ended with rfl | ⟨t, rfl⟩
  · exact fun c first => (nomatch first)
  · exact stops_cons ⟨rfl, by decide, by decide, by decide⟩ t

mutual

/-- A value of the grammar over characters is one over tokens, where a number ends after it. -/
theorem value_tokens {v : Json} {s t : List Char} :
    JsonText.Value v s t → Stops t → Value v (scan s) t
  | .null, _ => .scalar rfl
  | .true, _ => .scalar rfl
  | .false, _ => .scalar rfl
  | .number x value, stops => by
    rw [scan_numeral x stops]
    exact .scalar ((scalarOf_convert x).trans value)
  | .string inside, _ => by
    rw [scan_string inside]
    exact .scalar rfl
  | .emptyArray blank, _ => .emptyArray (scan_blank blank)
  | .array inside, _ => .array (elements_tokens inside)
  | .emptyObject blank, _ => .emptyObject (scan_blank blank)
  | .object inside holds, _ => by
    rw [holds_iff.mp holds]
    exact .object (members_tokens inside)

/-- So are the elements of an array. -/
theorem elements_tokens {elements : List Json} {s t : List Char} :
    JsonText.Elements elements s t → Elements elements (scan s) t
  | .last before value after => by
    have stops := stops_before (.inr (.inl rfl)) after
    rw [scan_blank before]
    exact .last (value_tokens value stops) (scan_blank after)
  | .more before value after others => by
    have stops := stops_before (.inl rfl) after
    rw [scan_blank before]
    exact .more (value_tokens value stops) (scan_blank after) (elements_tokens others)

/-- So are the members of an object. -/
theorem members_tokens {members : List (String × Json)} {s t : List Char} :
    JsonText.Members members s t → Members members (scan s) t
  | .last before name colon blank value after => by
    have stops := stops_before (.inr (.inr rfl)) after
    rw [scan_blank before, scan_string name]
    refine .last (scan_blank colon) ?_ (scan_blank after)
    rw [scan_blank blank]
    exact value_tokens value stops
  | .more before name colon blank value after others => by
    have stops := stops_before (.inl rfl) after
    rw [scan_blank before, scan_string name]
    refine .more (scan_blank colon) ?_ (scan_blank after) (members_tokens others)
    rw [scan_blank blank]
    exact value_tokens value stops

end

/-- What a token that has a value stands for has that value. -/
theorem value_of_scalar {token : Token} {v : Json} {s t : List Char}
    (alone : scalarOf token = some v) (lexeme : Lexeme token s t) : JsonText.Value v s t := by
  have number (token : Token) (alone : scalarOf token = some v)
      (lexeme : ∃ x : Numeral, s = x.text ++ t ∧ token = convert (numeralType x) x.text) :
      JsonText.Value v s t := by
    obtain ⟨x, rfl, rfl⟩ := lexeme
    rw [scalarOf_convert] at alone
    exact .number x alone
  cases token with
  | valueUnsigned value => exact number _ alone lexeme
  | valueInteger value => exact number _ alone lexeme
  | valueFloat value => exact number _ alone lexeme
  | valueString value =>
    obtain ⟨text, u, rfl, inside, rfl⟩ := lexeme
    cases alone
    exact .string inside
  | literalTrue =>
    cases alone
    cases lexeme
    exact .true
  | literalFalse =>
    cases alone
    cases lexeme
    exact .false
  | literalNull =>
    cases alone
    cases lexeme
    exact .null
  | _ => cases alone

/-- A token of one character comes from it, with white space before. -/
theorem blank_of_scan {s t : List Char} {token : Token} {c : Char}
    (single : ∀ u, Lexeme token u t → u = c :: t) (scanned : scan s = (token, t)) :
    Blank s (c :: t) := by
  obtain ⟨u, blank, lexeme⟩ := scan_lexeme scanned
  rwa [single u lexeme] at blank

mutual

/-- A value of the grammar over tokens is one over characters, after white space. -/
theorem value_of_tokens {v : Json} {first : Token × List Char} {t : List Char} :
    Value v first t → ∀ {s}, scan s = first → ∃ u, Blank s u ∧ JsonText.Value v u t
  | .scalar alone, _, scanned => by
    obtain ⟨u, blank, lexeme⟩ := scan_lexeme scanned
    exact ⟨u, blank, value_of_scalar alone lexeme⟩
  | .emptyArray ended, _, scanned =>
    ⟨_, blank_of_scan (fun _ => id) scanned, .emptyArray (blank_of_scan (fun _ => id) ended)⟩
  | .array inside, _, scanned =>
    ⟨_, blank_of_scan (fun _ => id) scanned, .array (elements_of_tokens inside rfl)⟩
  | .emptyObject ended, _, scanned =>
    ⟨_, blank_of_scan (fun _ => id) scanned, .emptyObject (blank_of_scan (fun _ => id) ended)⟩
  | .object inside, _, scanned =>
    ⟨_, blank_of_scan (fun _ => id) scanned,
      .object (members_of_tokens inside rfl) (holds_iff.mpr rfl)⟩

/-- So are the elements of an array. -/
theorem elements_of_tokens {elements : List Json} {first : Token × List Char} {t : List Char} :
    Elements elements first t → ∀ {s}, scan s = first → JsonText.Elements elements s t
  | .last value ended, _, scanned => by
    obtain ⟨u, blank, derived⟩ := value_of_tokens value scanned
    exact .last blank derived (blank_of_scan (fun _ => id) ended)
  | .more value comma others, _, scanned => by
    obtain ⟨u, blank, derived⟩ := value_of_tokens value scanned
    exact .more blank derived (blank_of_scan (fun _ => id) comma) (elements_of_tokens others rfl)

/-- So are the members of an object. -/
theorem members_of_tokens {members : List (String × Json)} {first : Token × List Char}
    {t : List Char} :
    Members members first t → ∀ {s}, scan s = first → JsonText.Members members s t
  | .last colon value ended, _, scanned => by
    obtain ⟨_, before, text, u, rfl, inside, rfl⟩ := scan_lexeme scanned
    obtain ⟨w, blank, derived⟩ := value_of_tokens value rfl
    exact .last before inside (blank_of_scan (fun _ => id) colon) blank derived
      (blank_of_scan (fun _ => id) ended)
  | .more colon value comma others, _, scanned => by
    obtain ⟨_, before, text, u, rfl, inside, rfl⟩ := scan_lexeme scanned
    obtain ⟨w, blank, derived⟩ := value_of_tokens value rfl
    exact .more before inside (blank_of_scan (fun _ => id) colon) blank derived
      (blank_of_scan (fun _ => id) comma) (members_of_tokens others rfl)

end

/-- The lexer is at the end exactly where the text has ended, after white space. -/
theorem scan_endOfInput_iff {s : List Char} :
    (scan s).1 = .endOfInput ↔ ∃ t, Blank s t ∧ Ended t := by
  constructor
  · intro ended
    obtain ⟨t, blank, lexeme⟩ := scan_lexeme (Prod.ext ended rfl : scan s = (_, (scan s).2))
    exact ⟨t, blank, lexeme⟩
  · rintro ⟨t, blank, rfl | ⟨rest, rfl⟩⟩
    · rw [scan_blank blank]
      rfl
    · rw [scan_blank blank]
      rfl

/-- What is left after a byte order mark, or all of a text that begins with none. -/
theorem skipBom_cases {text s : List Char} (skipped : skipBom text = some s) :
    text = s ∨ text = byteOrderMark ++ s := by
  have known {c : Char} {n : Nat} (same : c.toNat = n) : c = Char.ofNat n := by
    rw [← same, Char.ofNat_toNat]
  unfold skipBom at skipped
  split at skipped
  · split_ifs at skipped with first
    · split at skipped
      · split_ifs at skipped with others
        cases skipped
        rw [known first, known others.1, known others.2]
        exact .inr rfl
      · cases skipped
    · cases skipped
      exact .inl rfl
  · cases skipped
    exact .inl rfl

/-- A text that begins with another character has no byte order mark. -/
theorem skipBom_of_first {s : List Char} (first : ∀ c ∈ s.head?, c.toNat < 0x80) :
    skipBom s = some s := by
  cases s with
  | nil => rfl
  | cons c s =>
    have small := first c rfl
    exact if_neg (by omega)

/-- The characters of a number are ASCII, like its first one. -/
theorem numeral_first (x : Numeral) (t : List Char) :
    ∀ c ∈ (x.text ++ t).head?, c.toNat < 0x80 := by
  obtain ⟨d, digits, whole⟩ := List.exists_cons_of_ne_nil x.isWhole.1
  have digit : d.isDigit = true := x.isWhole.2 d (by rw [whole]; exact List.mem_cons_self)
  intro c first
  unfold Numeral.text at first
  rw [whole] at first
  cases sign : x.negative with
  | false =>
    rw [sign] at first
    cases first
    exact Decimal.ascii_of_isDigit digit
  | true =>
    rw [sign] at first
    cases first
    decide

/-- A value does not begin like a byte order mark. -/
theorem value_first {v : Json} {s t : List Char} (value : JsonText.Value v s t) :
    ∀ c ∈ s.head?, c.toNat < 0x80 := by
  cases value with
  | number x _ => exact numeral_first x t
  | _ =>
    intro c first
    cases first
    decide

/-- Nor does white space before one. -/
theorem blank_first {s t : List Char} (blank : Blank s t) (first : ∀ c ∈ t.head?, c.toNat < 0x80) :
    ∀ c ∈ s.head?, c.toNat < 0x80 := by
  obtain ⟨space, all, rfl⟩ := blank
  cases space with
  | nil => exact first
  | cons d space =>
    intro c here
    cases here
    rcases all d List.mem_cons_self with rfl | rfl | rfl | rfl
    all_goals decide

/-- The grammar over tokens derives the documents of the grammar over characters. -/
theorem document_iff {text : List Char} {v : Json} :
    Document text v ↔ JsonText.Document text v := by
  constructor
  · rintro ⟨rest, value, ended⟩
    obtain ⟨w, after, ended⟩ := scan_endOfInput_iff.mp ended
    unfold scanFirst at value
    split at value
    · rename_i s skipped
      obtain ⟨t, before, derived⟩ := value_of_tokens value rfl
      exact ⟨s, t, rest, w, skipBom_cases skipped, before, derived, after, ended⟩
    · cases value with
      | scalar alone => cases alone
  · rintro ⟨s, t, u, w, marked, before, value, after, ended⟩
    have stops := stops_of_blank after (stops_of_ended ended)
    have skipped : skipBom text = some s := by
      rcases marked with rfl | rfl
      · exact skipBom_of_first (blank_first before (value_first value))
      · rfl
    refine ⟨u, ?_, scan_endOfInput_iff.mpr ⟨w, after, ended⟩⟩
    unfold scanFirst
    rw [skipped]
    simp only
    rw [scan_blank before]
    exact value_tokens value stops

/-- **The parser accepts the grammar.** `parse` returns a document exactly when the text is this
document by the grammar of JSON texts, in which a null character after the value ends the text
whatever comes after it. Otherwise it throws a syntax error or a number beyond the range. -/
theorem parse_accepts_grammar (text : List Char) :
    (∀ v, parse text = .ok v ↔ JsonText.Document text v) ∧
      ∀ e, parse text = .error e → Thrown e := by
  refine ⟨fun v => ?_, (document_of_parse text).2⟩
  rw [← document_iff]
  exact ⟨(document_of_parse text).1 v, parse_of_document⟩

end RcDynamics.Parser
