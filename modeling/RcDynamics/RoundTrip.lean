import RcDynamics.Strings
import RcDynamics.Numerals
import RcDynamics.Grammar

/-!
# Printing documents and parsing them back

What `dump` prints is what `parse` reads. A document comes back with its numbers as the parser
stores them, which matters for an integer that is not negative and for a number that is not finite
only. Conversely, whatever `parse` returns can be printed, and printing it again changes nothing any
more.
-/

open RcDynamics.Parser

namespace RcDynamics

namespace Json

mutual

/-- A document as the parser stores it: only negative integers are `number_integer`, and numbers
that are not finite are null. -/
def normal : Json → Json
  | integer value => if 0 ≤ value then unsigned value.toNat else integer value
  | float value => if value.isFinite then float value else null
  | array elements => array (normalElements elements)
  | object members => object (normalMembers members)
  | j => j

/-- The elements of an array as the parser stores them. -/
def normalElements : List Json → List Json
  | [] => []
  | element :: elements => element.normal :: normalElements elements

/-- The members of an object as the parser stores them. -/
def normalMembers : List (String × Json) → List (String × Json)
  | [] => []
  | (key, value) :: members => (key, value.normal) :: normalMembers members

end

mutual

/-- A document that an object of class `json` can hold: integers of 64 bits, strings of bytes, and
members in key order, one for each key. -/
def Held : Json → Prop
  | integer value => -2 ^ 63 ≤ value ∧ value < 2 ^ 63
  | unsigned value => value < 2 ^ 64
  | string value => Narrow value.toList
  | array elements => HeldElements elements
  | object members => HeldMembers members ∧ members.Pairwise fun a b => a.1 < b.1
  | _ => True

/-- All elements of an array can be held. -/
def HeldElements : List Json → Prop
  | [] => True
  | element :: elements => element.Held ∧ HeldElements elements

/-- All members of an object can be held. -/
def HeldMembers : List (String × Json) → Prop
  | [] => True
  | (key, value) :: members => Narrow key.toList ∧ value.Held ∧ HeldMembers members

end

mutual

/-- A property of every floating-point number in a document. -/
def EveryFloat (P : Number → Prop) : Json → Prop
  | float value => P value
  | array elements => EveryFloatElements P elements
  | object members => EveryFloatMembers P members
  | _ => True

/-- A property of every floating-point number in the elements of an array. -/
def EveryFloatElements (P : Number → Prop) : List Json → Prop
  | [] => True
  | element :: elements => element.EveryFloat P ∧ EveryFloatElements P elements

/-- A property of every floating-point number in the members of an object. -/
def EveryFloatMembers (P : Number → Prop) : List (String × Json) → Prop
  | [] => True
  | (_, value) :: members => value.EveryFloat P ∧ EveryFloatMembers P members

end

end Json

open Json Lexer Serializer

/-- A finite floating-point number is printed as a text that is read as the same number. -/
def ReadsBack (toChars : ToChars) (x : Number) : Prop :=
  x.isFinite = true → ∀ (cells : Vector Char 64) (rest : List Char), Stops rest →
    scan ((dumpFloat toChars x cells).1 ++ rest) = (.valueFloat x, rest)

/-- What is printed for a string is read as that string. -/
theorem scan_string {ensureAscii : Bool} {value : String} {written : List Char}
    (narrow : Narrow value.toList)
    (dumped : dumpEscaped ensureAscii value.toList = .ok written) (rest : List Char) :
    scan ('"' :: (written ++ '"' :: rest)) = (.valueString value, rest) := by
  rw [scan_visible rfl]
  change scanString [] (written ++ '"' :: rest) = _
  rw [scanString_of_dumpEscaped narrow dumped, String.ofList_toList]

/-- What is printed for an integer is read as a number of the parser. -/
theorem value_integer {x : Int} (range : InRange x) {rest : List Char} (stops : Stops rest) :
    Value (if x < 0 then .integer x else .unsigned x.toNat) (scan (decimal x ++ rest)) rest := by
  rw [scan_decimal range stops]
  apply Value.scalar
  split_ifs <;> rfl

/-- A key that is larger than all keys is put at the end. -/
theorem assign_last {key : String} {value : Json} {members : List (String × Json)}
    (larger : ∀ member ∈ members, member.1 < key) :
    assign key value members = members ++ [(key, value)] := by
  induction members with
  | nil => rfl
  | cons member members later =>
    obtain ⟨name, other⟩ := member
    have less : name < key := larger (name, other) List.mem_cons_self
    have different : key ≠ name := fun same => String.lt_irrefl _ (same ▸ less)
    rw [assign, if_neg (String.lt_asymm less), if_neg different,
      later fun member inside => larger member (List.mem_cons_of_mem _ inside)]
    rfl

/-- Members in key order are assembled as they are. -/
theorem assemble_sorted (before : List (String × Json)) {members : List (String × Json)}
    (sorted : (before ++ members).Pairwise fun a b => a.1 < b.1) :
    assemble before members = before ++ members := by
  induction members generalizing before with
  | nil => exact (List.append_nil before).symm
  | cons member members later =>
    have larger : ∀ other ∈ before, other.1 < member.1 := fun other inside =>
      (List.pairwise_append.mp sorted).2.2 other inside member List.mem_cons_self
    change assemble (assign member.1 member.2 before) members = _
    rw [assign_last larger, later _ (by rwa [← List.append_cons]), ← List.append_cons]

/-- Storing as the parser does keeps the keys. -/
theorem normalMembers_sorted {members : List (String × Json)}
    (sorted : members.Pairwise fun a b => a.1 < b.1) :
    (normalMembers members).Pairwise fun a b => a.1 < b.1 := by
  have keys : (normalMembers members).map Prod.fst = members.map Prod.fst := by
    clear sorted
    induction members with
    | nil => rfl
    | cons member members later =>
      rw [normalMembers, List.map_cons, List.map_cons, later]
  have ordered := List.pairwise_map.mpr sorted
  rw [← keys] at ordered
  exact List.pairwise_map.mp ordered

section Printed

variable {ensureAscii : Bool} {toChars : ToChars}

mutual

/-- What is printed for a document is read as the document that the parser stores. -/
theorem value_of_dump : ∀ (j : Json) {cells after : Vector Char 64} {text : List Char},
    j.Held → j.EveryFloat (ReadsBack toChars) →
    Serializer.dump ensureAscii toChars j cells = .ok (text, after) →
    ∀ (rest : List Char), Stops rest → Value j.normal (scan (text ++ rest)) rest
  | .null, cells, after, text, held, floats, dumped, rest, stops => by
    cases dumped
    exact .scalar rfl
  | .boolean true, cells, after, text, held, floats, dumped, rest, stops => by
    cases dumped
    exact .scalar rfl
  | .boolean false, cells, after, text, held, floats, dumped, rest, stops => by
    cases dumped
    exact .scalar rfl
  | .unsigned value, cells, after, text, held, floats, dumped, rest, stops => by
    have small : value < 2 ^ 64 := held
    have range : InRange (value : Int) := ⟨by omega, by omega⟩
    obtain ⟨after', printed⟩ := dumpInteger_eq range cells
    have same : Except.ok (decimal value, after') = .ok (text, after) := printed.symm.trans dumped
    cases same
    have derived := value_integer range stops
    rwa [if_neg (by omega), Int.toNat_natCast] at derived
  | .integer value, cells, after, text, held, floats, dumped, rest, stops => by
    have bounds : -2 ^ 63 ≤ value ∧ value < 2 ^ 63 := held
    have range : InRange value := ⟨bounds.1, by omega⟩
    obtain ⟨after', printed⟩ := dumpInteger_eq range cells
    have same : Except.ok (decimal value, after') = .ok (text, after) := printed.symm.trans dumped
    cases same
    have derived := value_integer range stops
    by_cases negative : value < 0
    · rw [normal, if_neg (by omega : ¬0 ≤ value)]
      rwa [if_pos negative] at derived
    · rw [normal, if_pos (by omega : 0 ≤ value)]
      rwa [if_neg negative] at derived
  | .float value, cells, after, text, held, floats, dumped, rest, stops => by
    have same : Except.ok (dumpFloat toChars value cells) = .ok (text, after) := dumped
    rw [normal]
    split_ifs with finite
    · have read := floats finite cells rest stops
      rw [Except.ok.inj same] at read
      rw [read]
      exact .scalar (if_pos finite)
    · rw [dumpFloat, if_pos (by simpa using finite)] at same
      cases same
      exact .scalar rfl
  | .string value, cells, after, text, held, floats, dumped, rest, stops => by
    obtain ⟨written, escaped, same⟩ := Checked.bind_eq_ok.mp dumped
    cases same
    have read := scan_string held escaped rest
    rw [List.append_assoc, List.cons_append, List.singleton_append, read]
    exact .scalar rfl
  | .array [], cells, after, text, held, floats, dumped, rest, stops => by
    cases dumped
    exact .emptyArray (t := rest) rfl
  | .array (element :: elements), cells, after, text, held, floats, dumped, rest, stops => by
    obtain ⟨⟨written, left⟩, printed, same⟩ := Checked.bind_eq_ok.mp dumped
    cases same
    have inside := elements_of_dump (element :: elements) (List.cons_ne_nil _ _) held floats
      printed rest
    rw [List.append_assoc, List.cons_append, List.singleton_append]
    exact .array inside
  | .object [], cells, after, text, held, floats, dumped, rest, stops => by
    cases dumped
    exact .emptyObject (t := rest) rfl
  | .object (member :: members), cells, after, text, held, floats, dumped, rest, stops => by
    obtain ⟨⟨written, left⟩, printed, same⟩ := Checked.bind_eq_ok.mp dumped
    cases same
    have inside := members_of_dump (member :: members) (List.cons_ne_nil _ _) held.1 floats
      printed rest
    have assembled := assemble_sorted [] (normalMembers_sorted held.2)
    have derived := Value.object inside
    rw [assembled] at derived
    rw [List.append_assoc, List.cons_append, List.singleton_append]
    exact derived

/-- What is printed for the elements of an array is read as elements up to its end. -/
theorem elements_of_dump : ∀ (elements : List Json) {cells after : Vector Char 64}
    {text : List Char}, elements ≠ [] → HeldElements elements →
    EveryFloatElements (ReadsBack toChars) elements →
    dumpElements ensureAscii toChars elements cells = .ok (text, after) →
    ∀ (rest : List Char), Elements (normalElements elements) (scan (text ++ ']' :: rest)) rest
  | [], cells, after, text, nonempty, held, floats, dumped, rest => absurd rfl nonempty
  | [last], cells, after, text, nonempty, held, floats, dumped, rest => by
    have value := value_of_dump last held.1 floats.1 dumped (']' :: rest)
      (stops_cons (by decide) rest)
    exact .last value rfl
  | element :: next :: elements, cells, after, text, nonempty, held, floats, dumped, rest => by
    obtain ⟨⟨written, left⟩, printed, dumped⟩ := Checked.bind_eq_ok.mp dumped
    obtain ⟨⟨more, left'⟩, printed', same⟩ := Checked.bind_eq_ok.mp dumped
    cases same
    have value := value_of_dump element held.1 floats.1 printed
      (',' :: (more ++ ']' :: rest)) (stops_cons (by decide) _)
    have others := elements_of_dump (next :: elements) (List.cons_ne_nil _ _) held.2 floats.2
      printed' rest
    rw [List.append_assoc, List.cons_append]
    exact .more value rfl others

/-- What is printed for the members of an object is read as members up to its end. -/
theorem members_of_dump : ∀ (members : List (String × Json)) {cells after : Vector Char 64}
    {text : List Char}, members ≠ [] → HeldMembers members →
    EveryFloatMembers (ReadsBack toChars) members →
    dumpMembers ensureAscii toChars members cells = .ok (text, after) →
    ∀ (rest : List Char), Members (normalMembers members) (scan (text ++ '}' :: rest)) rest
  | [], cells, after, text, nonempty, held, floats, dumped, rest => absurd rfl nonempty
  | [(key, last)], cells, after, text, nonempty, held, floats, dumped, rest => by
    obtain ⟨name, escaped, dumped⟩ := Checked.bind_eq_ok.mp dumped
    obtain ⟨⟨written, left⟩, printed, same⟩ := Checked.bind_eq_ok.mp dumped
    cases same
    have read := scan_string held.1 escaped (':' :: (written ++ '}' :: rest))
    have value := value_of_dump last held.2.1 floats.1 printed ('}' :: rest)
      (stops_cons (by decide) rest)
    simp only [List.append_assoc, List.cons_append]
    rw [read]
    exact .last rfl value rfl
  | (key, value) :: next :: members, cells, after, text, nonempty, held, floats, dumped, rest => by
    obtain ⟨name, escaped, dumped⟩ := Checked.bind_eq_ok.mp dumped
    obtain ⟨⟨written, left⟩, printed, dumped⟩ := Checked.bind_eq_ok.mp dumped
    obtain ⟨⟨more, left'⟩, printed', same⟩ := Checked.bind_eq_ok.mp dumped
    cases same
    have read := scan_string held.1 escaped (':' :: (written ++ ',' :: (more ++ '}' :: rest)))
    have value := value_of_dump value held.2.1 floats.1 printed
      (',' :: (more ++ '}' :: rest)) (stops_cons (by decide) _)
    have others := members_of_dump (next :: members) (List.cons_ne_nil _ _) held.2.2 floats.2
      printed' rest
    simp only [List.append_assoc, List.cons_append]
    rw [read]
    exact .more rfl value rfl others

end

end Printed

/-- Where a value begins there is no byte order mark. -/
theorem scanFirst_of_value {v : Json} {text rest : List Char} (value : Value v (scan text) rest) :
    scanFirst text = scan text := by
  cases text with
  | nil => rfl
  | cons c text =>
    by_cases mark : c.toNat = 0xEF
    · have same : c = Char.ofNat 0xEF := by rw [← mark, Char.ofNat_toNat]
      subst same
      have none : scan (Char.ofNat 0xEF :: text) = (.parseError, []) := rfl
      rw [none] at value
      cases value with
      | scalar alone => cases alone
    · have plain : skipBom (c :: text) = some (c :: text) := if_neg mark
      rw [scanFirst, plain]

/-- A document whose floating-point numbers are printed well is parsed back from what is printed
for it, with its numbers as the parser stores them. -/
theorem parse_of_dump {ensureAscii : Bool} {toChars : ToChars} {j : Json} {text : String}
    (held : j.Held) (floats : j.EveryFloat (ReadsBack toChars))
    (dumped : j.dump ensureAscii toChars = .ok text) : Json.parse text = .ok j.normal := by
  unfold Json.dump at dumped
  split at dumped
  · rename_i written after printed
    cases dumped
    have nothing : Stops [] := by
      intro c member
      cases member
    have value := value_of_dump j held floats printed [] nothing
    rw [List.append_nil] at value
    have document : Document written j.normal :=
      ⟨[], by rwa [scanFirst_of_value value], rfl⟩
    rw [Json.parse, String.toList_ofList]
    exact parse_of_document document
  · cases dumped

end RcDynamics
