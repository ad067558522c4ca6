import RcDynamics.Parser

/-!
# The grammar that the parser accepts

Values, elements and members as a grammar over tokens, where the last token that was read comes
with what is left after it. The loop of the parser with its two stacks accepts exactly the texts
that the grammar derives, and returns the document that the derivation gives; `Closes` is what its
stack of open containers still demands of the text. All that it throws otherwise are a syntax
error and a number beyond the range: its accesses to the document are never undefined.
-/

namespace RcDynamics.Parser

open Checked Lexer

/-- The value that a token is by itself. -/
def scalarOf : Token → Option Json
  | .literalTrue => some (.boolean true)
  | .literalFalse => some (.boolean false)
  | .literalNull => some .null
  | .valueString value => some (.string value)
  | .valueUnsigned value => some (.unsigned value)
  | .valueInteger value => some (.integer value)
  | .valueFloat value => if value.isFinite then some (.float value) else none
  | _ => none

/-- The object that some members make, one after the other. -/
def assemble (before members : List (String × Json)) : List (String × Json) :=
  members.foldl (fun object member => assign member.1 member.2 object) before

/-- The keys after an assignment. -/
theorem key_of_assign {key : String} {value : Json} {members : List (String × Json)}
    {member : String × Json} (inside : member ∈ assign key value members) :
    member.1 = key ∨ ∃ other ∈ members, member.1 = other.1 := by
  induction members with
  | nil =>
    rw [List.mem_singleton.mp inside]
    exact .inl rfl
  | cons first members later =>
    obtain ⟨name, old⟩ := first
    rw [assign] at inside
    split_ifs at inside with less same
    · rcases List.mem_cons.mp inside with rfl | member
      · exact .inl rfl
      · exact .inr ⟨_, member, rfl⟩
    · rcases List.mem_cons.mp inside with rfl | member
      · exact .inl rfl
      · exact .inr ⟨_, List.mem_cons_of_mem _ member, rfl⟩
    · rcases List.mem_cons.mp inside with rfl | member
      · exact .inr ⟨_, List.mem_cons_self, rfl⟩
      · rcases later member with same | ⟨other, member', same⟩
        · exact .inl same
        · exact .inr ⟨other, List.mem_cons_of_mem _ member', same⟩

/-- An assignment keeps the members in key order. -/
theorem assign_sorted {key : String} {value : Json} {members : List (String × Json)}
    (sorted : members.Pairwise fun a b => a.1 < b.1) :
    (assign key value members).Pairwise fun a b => a.1 < b.1 := by
  induction members with
  | nil => exact List.pairwise_singleton _ _
  | cons first members later =>
    obtain ⟨name, old⟩ := first
    have ordered := List.pairwise_cons.mp sorted
    rw [assign]
    split_ifs with less same
    · apply List.pairwise_cons.mpr
      refine ⟨?_, sorted⟩
      intro member inside
      rcases List.mem_cons.mp inside with rfl | inside
      · exact less
      · exact String.lt_trans less (ordered.1 member inside)
    · subst same
      exact List.pairwise_cons.mpr ⟨ordered.1, ordered.2⟩
    · apply List.pairwise_cons.mpr
      refine ⟨?_, later ordered.2⟩
      intro member inside
      rcases key_of_assign inside with equal | ⟨other, inside, equal⟩
      · rw [equal]
        by_contra greater
        exact same (String.le_antisymm (String.not_lt.mp greater) (String.not_lt.mp less))
      · rw [equal]
        exact ordered.1 other inside

mutual

/-- A value, from its first token to what is left after it. -/
inductive Value : Json → Token × List Char → List Char → Prop where
  | scalar {token : Token} {v : Json} {s : List Char} (alone : scalarOf token = some v) :
      Value v (token, s) s
  | emptyArray {s t : List Char} (ended : scan s = (.endArray, t)) :
      Value (.array []) (.beginArray, s) t
  | array {elements : List Json} {s t : List Char} (inside : Elements elements (scan s) t) :
      Value (.array elements) (.beginArray, s) t
  | emptyObject {s t : List Char} (ended : scan s = (.endObject, t)) :
      Value (.object []) (.beginObject, s) t
  | object {members : List (String × Json)} {s t : List Char}
      (inside : Members members (scan s) t) :
      Value (.object (assemble [] members)) (.beginObject, s) t

/-- The elements of an array up to its end. -/
inductive Elements : List Json → Token × List Char → List Char → Prop where
  | last {v : Json} {first : Token × List Char} {s t : List Char} (value : Value v first s)
      (ended : scan s = (.endArray, t)) : Elements [v] first t
  | more {v : Json} {elements : List Json} {first : Token × List Char} {s t u : List Char}
      (value : Value v first s) (comma : scan s = (.valueSeparator, t))
      (others : Elements elements (scan t) u) : Elements (v :: elements) first u

/-- The members of an object up to its end. -/
inductive Members : List (String × Json) → Token × List Char → List Char → Prop where
  | last {key : String} {v : Json} {s t u w : List Char}
      (colon : scan s = (.nameSeparator, t)) (value : Value v (scan t) u)
      (ended : scan u = (.endObject, w)) : Members [(key, v)] (.valueString key, s) w
  | more {key : String} {v : Json} {members : List (String × Json)} {s t u w x : List Char}
      (colon : scan s = (.nameSeparator, t)) (value : Value v (scan t) u)
      (comma : scan u = (.valueSeparator, w)) (others : Members members (scan w) x) :
      Members ((key, v) :: members) (.valueString key, s) x

end

/-- A text is a document: one value and nothing after it. -/
def Document (text : List Char) (v : Json) : Prop :=
  ∃ rest, Value v (scanFirst text) rest ∧ (scan rest).1 = .endOfInput

/-- The parser in front of a value, with its first token read. -/
def reading (first : Token × List Char) (states : List Bool) (builder : Builder) : Config where
  lastToken := first.1
  input := first.2
  states := states
  builder := builder
  skipToStateEvaluation := false

/-- What a run of the parser is for: the document, and what is left of the text. -/
def outcome (ran : Except Exn Config) : Except Exn (Json × List Char) :=
  ran.map fun config => (config.builder.root, config.input)

/-- The outcome of going on with an outcome of the loop's body. -/
def follow : Except Exn Outcome → Except Exn (Json × List Char)
  | .error e => .error e
  | .ok (.passed config) => .ok (config.builder.root, config.input)
  | .ok (.continue next) => outcome (saxParseInternal next)

/-- The loop goes on with what its body leaves. -/
theorem outcome_saxParseInternal (config : Config) :
    outcome (saxParseInternal config) = follow config.iterate := by
  rw [saxParseInternal]
  split
  · rename_i ran
    rw [ran]
    rfl
  · rename_i ran
    rw [ran]
    rfl
  · rename_i next ran
    have followed : follow config.iterate = outcome (saxParseInternal next) := by
      rw [ran]
      rfl
    exact followed.symm

/-- The outcome after a value is complete, with what is left of the text. -/
def goOn (rest : List Char) (states : List Bool) (builder : Builder) :
    Except Exn (Json × List Char) :=
  follow (reading (.endOfInput, rest) states builder).evaluateState

/-- The token before does not matter once a value is complete. -/
theorem follow_evaluateState (first : Token) (rest : List Char) (states : List Bool)
    (builder : Builder) :
    follow (reading (first, rest) states builder).evaluateState = goOn rest states builder := by
  cases states with
  | nil => rfl
  | cons state states => cases state <;> rfl

/-- In front of a value the loop reads it. -/
theorem iterate_reading (first : Token × List Char) (states : List Bool) (builder : Builder) :
    (reading first states builder).iterate =
      match (reading first states builder).readValue with
      | .ok (.passed config) => config.evaluateState
      | outcome => outcome := if_neg Bool.false_ne_true

/-- A value that is complete at once. -/
theorem outcome_passed {first : Token × List Char} {states : List Bool} {builder after : Builder}
    (token : Token) {rest : List Char}
    (read : (reading first states builder).readValue =
      .ok (.passed (reading (token, rest) states after))) :
    outcome (saxParseInternal (reading first states builder)) = goOn rest states after := by
  rw [outcome_saxParseInternal, iterate_reading, read]
  exact follow_evaluateState token rest states after

/-- A container whose first part has been read. -/
theorem outcome_continue {first : Token × List Char} {states : List Bool} {builder : Builder}
    {next : Config} (read : (reading first states builder).readValue = .ok (.continue next)) :
    outcome (saxParseInternal (reading first states builder)) =
      outcome (saxParseInternal next) := by
  rw [outcome_saxParseInternal, iterate_reading, read]
  rfl

/-- A value by itself is put where values go. -/
theorem outcome_scalar {token : Token} {v : Json} (alone : scalarOf token = some v)
    {states : List Bool} {builder after : Builder} (handled : builder.handleValue v = .ok after)
    (rest : List Char) :
    outcome (saxParseInternal (reading (token, rest) states builder)) =
      goOn rest states after := by
  have read : (reading (token, rest) states builder).scalar v =
      .ok (.passed (reading (token, rest) states after)) := by
    unfold Config.scalar
    change (builder.handleValue v >>= _) = _
    rw [handled]
    rfl
  apply outcome_passed token
  rw [← read]
  unfold Config.readValue
  unfold scalarOf at alone
  split at alone
  case h_7 value =>
    split_ifs at alone with finite
    cases alone
    exact if_pos finite
  all_goals cases alone
  all_goals rfl

/-- After a container is left the loop goes on around it. -/
theorem follow_leave (first : Token × List Char) {before states : List Bool}
    {builder after : Builder} (left : builder.endContainer = .ok after) :
    follow ((reading first before builder).leave states) = goOn first.2 states after := by
  unfold Config.leave
  change follow (builder.endContainer >>= _) = _
  rw [left]
  change outcome (saxParseInternal _) = _
  rw [outcome_saxParseInternal, Config.iterate, if_pos rfl]
  exact follow_evaluateState first.1 first.2 states after

/-- What follows a value in an array. -/
theorem evaluateState_array (first : Token × List Char) (states : List Bool) (builder : Builder) :
    (reading first (true :: states) builder).evaluateState =
      if (scan first.2).1 = .valueSeparator then
        .ok (.continue (reading (scan (scan first.2).2) (true :: states) builder))
      else if (scan first.2).1 = .endArray then
        (reading (scan first.2) (true :: states) builder).leave states
      else .error (parseError "array") := rfl

/-- What follows a value in an object. -/
theorem evaluateState_object (first : Token × List Char) (states : List Bool) (builder : Builder) :
    (reading first (false :: states) builder).evaluateState =
      if (scan first.2).1 = .valueSeparator then
        (reading (scan (scan first.2).2) (false :: states) builder).readKey >>=
          fun config => .ok (.continue config)
      else if (scan first.2).1 = .endObject then
        (reading (scan first.2) (false :: states) builder).leave states
      else .error (parseError "object") := rfl

/-- After a value in an array that goes on. -/
theorem goOn_comma {rest t : List Char} (comma : scan rest = (.valueSeparator, t))
    (states : List Bool) (builder : Builder) :
    goOn rest (true :: states) builder =
      outcome (saxParseInternal (reading (scan t) (true :: states) builder)) := by
  rw [goOn, evaluateState_array, comma]
  rfl

/-- After a value in an object that goes on. -/
theorem goOn_member {rest t : List Char} (comma : scan rest = (.valueSeparator, t))
    (states : List Bool) (builder : Builder) :
    goOn rest (false :: states) builder =
      follow ((reading (scan t) (false :: states) builder).readKey >>=
        fun config => .ok (.continue config)) := by
  rw [goOn, evaluateState_object, comma]
  rfl

/-- After a value in an array that ends. -/
theorem goOn_endArray {rest t : List Char} (ended : scan rest = (.endArray, t))
    (states : List Bool) {builder after : Builder} (left : builder.endContainer = .ok after) :
    goOn rest (true :: states) builder = goOn t states after := by
  rw [goOn, evaluateState_array, ended]
  exact follow_leave (.endArray, t) left

/-- After a value in an object that ends. -/
theorem goOn_endObject {rest t : List Char} (ended : scan rest = (.endObject, t))
    (states : List Bool) {builder after : Builder} (left : builder.endContainer = .ok after) :
    goOn rest (false :: states) builder = goOn t states after := by
  rw [goOn, evaluateState_object, ended]
  exact follow_leave (.endObject, t) left

/-- A key and a separator are read up to the value. -/
theorem readKey_eq {key : String} {s t : List Char} (colon : scan s = (.nameSeparator, t))
    (states : List Bool) {builder : Builder} (after : Builder)
    (keyed : builder.key key = .ok after) :
    (reading (.valueString key, s) states builder).readKey =
      .ok (reading (scan t) states after) := by
  change (builder.key key >>= _) = _
  rw [keyed]
  have token : (reading (.valueString key, s) states after).getToken.lastToken =
      .nameSeparator := congrArg Prod.fst colon
  change (if (reading (.valueString key, s) states after).getToken.lastToken = _ then _
    else _) = _
  rw [if_pos token]
  change Except.ok (reading (scan (scan s).2) states after) = _
  rw [colon]

/-- A frame of an array takes a value. -/
theorem handleValue_array (root : Json) (elements : List Json) (frames : List Frame) (v : Json) :
    Builder.handleValue ⟨root, .array elements :: frames⟩ v =
      .ok ⟨root, .array (elements ++ [v]) :: frames⟩ := rfl

/-- A frame of an object takes a value for its key. -/
theorem handleValue_object (root : Json) (members : List (String × Json)) (key : String)
    (frames : List Frame) (v : Json) :
    Builder.handleValue ⟨root, .object members (some key) :: frames⟩ v =
      .ok ⟨root, .object (assign key v members) (some key) :: frames⟩ := rfl

/-- A value does not begin with the end of an array. -/
theorem Value.first_ne {v : Json} {first : Token × List Char} {rest : List Char}
    (derived : Value v first rest) : first.1 ≠ .endArray := by
  intro same
  cases derived with
  | scalar alone =>
    cases same
    cases alone
  | emptyArray | array | emptyObject | object => cases same

/-- Elements do not begin with the end of an array. -/
theorem Elements.first_ne {elements : List Json} {first : Token × List Char} {rest : List Char}
    (derived : Elements elements first rest) : first.1 ≠ .endArray := by
  cases derived with
  | last value => exact value.first_ne
  | more value => exact value.first_ne

/-- What is read after the beginning of an array. -/
theorem readValue_array (s : List Char) (states : List Bool) (builder : Builder) :
    (reading (.beginArray, s) states builder).readValue =
      if (scan s).1 = .endArray then
        builder.handleValue (.array []) >>= fun after =>
          .ok (.passed (reading (scan s) states after))
      else .ok (.continue (reading (scan s) (true :: states) builder.startArray)) := rfl

/-- What is read after the beginning of an object. -/
theorem readValue_object (s : List Char) (states : List Bool) (builder : Builder) :
    (reading (.beginObject, s) states builder).readValue =
      if (scan s).1 = .endObject then
        builder.handleValue (.object []) >>=
          fun after => .ok (.passed (reading (scan s) states after))
      else (reading (scan s) states builder.startObject).readKey >>= fun config =>
        .ok (.continue { config with states := false :: config.states }) := rfl

mutual

/-- The parser reads a value that the grammar derives. -/
theorem run_value {v : Json} {first : Token × List Char} {rest : List Char} :
    Value v first rest → ∀ (states : List Bool) {builder after : Builder},
      builder.handleValue v = .ok after →
      outcome (saxParseInternal (reading first states builder)) = goOn rest states after
  | .scalar alone, states, builder, after, handled => outcome_scalar alone handled rest
  | .emptyArray ended, states, builder, after, handled => by
    apply outcome_passed .endArray
    rw [readValue_array, if_pos (congrArg Prod.fst ended), handled, ended]
    rfl
  | .array inside, states, builder, after, handled => by
    rw [outcome_continue (by rw [readValue_array, if_neg inside.first_ne])]
    exact run_elements inside states handled
  | .emptyObject ended, states, builder, after, handled => by
    apply outcome_passed .endObject
    rw [readValue_object, if_pos (congrArg Prod.fst ended), handled, ended]
    rfl
  | .object inside, states, builder, after, handled => by
    obtain ⟨key, s, t, first, colon, ran⟩ := run_members inside
    have keyed : builder.startObject.key key =
        .ok ⟨builder.root, .object [] (some key) :: builder.refStack⟩ := rfl
    rw [outcome_continue (by
      rw [readValue_object, if_neg (by rw [first]; nofun), first, readKey_eq colon states _ keyed]
      rfl)]
    exact ran states handled

/-- The parser reads the elements of an array that the grammar derives. -/
theorem run_elements {elements : List Json} {first : Token × List Char} {rest : List Char} :
    Elements elements first rest → ∀ (states : List Bool) {root : Json} {before : List Json}
      {frames : List Frame} {after : Builder},
      Builder.handleValue ⟨root, frames⟩ (.array (before ++ elements)) = .ok after →
      outcome (saxParseInternal
        (reading first (true :: states) ⟨root, .array before :: frames⟩)) =
          goOn rest states after
  | .last value ended, states, root, before, frames, after, handled => by
    rw [run_value value (true :: states) (handleValue_array root before frames _)]
    exact goOn_endArray ended states handled
  | .more value comma others, states, root, before, frames, after, handled => by
    rw [run_value value (true :: states) (handleValue_array root before frames _),
      goOn_comma comma]
    rw [List.append_cons] at handled
    exact run_elements others states handled

/-- The parser reads the members of an object that the grammar derives, from the first value on. -/
theorem run_members {members : List (String × Json)} {first : Token × List Char}
    {rest : List Char} :
    Members members first rest → ∃ key s t, first = (.valueString key, s) ∧
      scan s = (.nameSeparator, t) ∧ ∀ (states : List Bool) {root : Json}
        {before : List (String × Json)} {frames : List Frame} {after : Builder},
        Builder.handleValue ⟨root, frames⟩ (.object (assemble before members)) = .ok after →
        outcome (saxParseInternal
          (reading (scan t) (false :: states) ⟨root, .object before (some key) :: frames⟩)) =
            goOn rest states after
  | .last colon value ended => by
    refine ⟨_, _, _, rfl, colon, fun states root before frames after handled => ?_⟩
    rw [run_value value (false :: states) (handleValue_object root before _ frames _)]
    exact goOn_endObject ended states handled
  | .more colon value comma others => by
    obtain ⟨key, s, t, first, colon', ran⟩ := run_members others
    refine ⟨_, _, _, rfl, colon, fun states root before frames after handled => ?_⟩
    rw [run_value value (false :: states) (handleValue_object root before _ frames _),
      goOn_member comma, first]
    rw [readKey_eq colon' (false :: states) ⟨root, .object _ (some key) :: frames⟩ rfl]
    exact ran states handled

end

/-- What the open containers demand after a value is complete, with what is left of the text: how
the text closes them, the document that this makes, and what is left after it. -/
inductive Closes : List Frame → Json → List Char → Json → List Char → Prop where
  | root {v : Json} {rest : List Char} : Closes [] v rest v rest
  | endArray {elements : List Json} {frames : List Frame} {v document : Json}
      {s t rest : List Char} (ended : scan s = (.endArray, t))
      (closes : Closes frames (.array (elements ++ [v])) t document rest) :
      Closes (.array elements :: frames) v s document rest
  | nextElement {elements : List Json} {frames : List Frame} {v next document : Json}
      {s t u rest : List Char} (comma : scan s = (.valueSeparator, t))
      (value : Value next (scan t) u)
      (closes : Closes (.array (elements ++ [v]) :: frames) next u document rest) :
      Closes (.array elements :: frames) v s document rest
  | endObject {members : List (String × Json)} {key : String} {frames : List Frame}
      {v document : Json} {s t rest : List Char} (ended : scan s = (.endObject, t))
      (closes : Closes frames (.object (assign key v members)) t document rest) :
      Closes (.object members (some key) :: frames) v s document rest
  | nextMember {members : List (String × Json)} {key name : String} {frames : List Frame}
      {v next document : Json} {s t u w x rest : List Char}
      (comma : scan s = (.valueSeparator, t)) (named : scan t = (.valueString name, u))
      (colon : scan u = (.nameSeparator, w)) (value : Value next (scan w) x)
      (closes : Closes (.object (assign key v members) (some name) :: frames) next x document
        rest) :
      Closes (.object members (some key) :: frames) v s document rest

/-- The elements that are still to come make the array complete. -/
theorem Closes.array {elements : List Json} {frames : List Frame} {v document : Json}
    {s rest : List Char} (closes : Closes (.array elements :: frames) v s document rest)
    {first : Token × List Char} (value : Value v first s) :
    ∃ more t, Elements more first t ∧
      Closes frames (.array (elements ++ more)) t document rest := by
  generalize open' : Frame.array elements :: frames = stack at closes
  induction closes generalizing elements first with
  | root => cases open'
  | endArray ended closes =>
    cases open'
    exact ⟨_, _, .last value ended, closes⟩
  | nextElement comma next _ later =>
    cases open'
    obtain ⟨more, t, others, closes⟩ := later next rfl
    refine ⟨_, t, .more value comma others, ?_⟩
    rwa [List.append_cons]
  | endObject | nextMember => cases open'

/-- The members that are still to come make the object complete. -/
theorem Closes.object {members : List (String × Json)} {key : String} {frames : List Frame}
    {v document : Json} {s rest : List Char}
    (closes : Closes (.object members (some key) :: frames) v s document rest)
    {t u : List Char} (colon : scan t = (.nameSeparator, u)) (value : Value v (scan u) s) :
    ∃ more w, Members more (.valueString key, t) w ∧
      Closes frames (.object (assemble members more)) w document rest := by
  generalize open' : Frame.object members (some key) :: frames = stack at closes
  induction closes generalizing members key t u with
  | root => cases open'
  | endArray | nextElement => cases open'
  | endObject ended closes =>
    cases open'
    exact ⟨_, _, .last colon value ended, closes⟩
  | nextMember comma named colon' next _ later =>
    cases open'
    obtain ⟨more, w, others, closes⟩ := later colon' next rfl
    rw [← named] at others
    exact ⟨_, w, .more colon value comma others, closes⟩

/-- The stack of states is that of the open containers, and every open object has a key. -/
inductive Matches : List Bool → List Frame → Prop where
  | nil : Matches [] []
  | array {states : List Bool} {elements : List Json} {frames : List Frame}
      (outer : Matches states frames) : Matches (true :: states) (.array elements :: frames)
  | object {states : List Bool} {members : List (String × Json)} {key : String}
      {frames : List Frame} (outer : Matches states frames) :
      Matches (false :: states) (.object members (some key) :: frames)

/-- Where the stacks match, a value can be put. -/
theorem Matches.handleValue {states : List Bool} {frames : List Frame}
    (agree : Matches states frames) (root v : Json) :
    ∃ after, Builder.handleValue ⟨root, frames⟩ v = .ok after ∧
      Matches states after.refStack := by
  cases agree with
  | nil => exact ⟨_, rfl, .nil⟩
  | array outer => exact ⟨_, handleValue_array _ _ _ _, .array outer⟩
  | object outer => exact ⟨_, handleValue_object _ _ _ _ _, .object outer⟩

/-- What the parser throws. -/
def Thrown (e : Exn) : Prop := e = numberOverflow ∨ ∃ context, e = parseError context

/-- A run of the parser ends with a document and a rest of the text that are as described, or
throws what parsers throw. -/
def Ends (described : Json → List Char → Prop) : Except Exn (Json × List Char) → Prop
  | .ok (document, rest) => described document rest
  | .error e => Thrown e

/-- A weaker description. -/
theorem Ends.mono {P Q : Json → List Char → Prop} {r : Except Exn (Json × List Char)}
    (ends : Ends P r) (weaker : ∀ document rest, P document rest → Q document rest) :
    Ends Q r := by
  cases r with
  | ok pair => exact weaker pair.1 pair.2 ends
  | error e => exact ends

/-- The input after a token is shorter. -/
theorem scan_shorter {s : List Char} {token : Token} (next : (scan s).1 = token)
    (proper : token.proper = true) : (scan s).2.length < s.length := by
  have less := scan_length s
  rw [next, proper] at less
  exact less

/-- A token and the input after it. -/
theorem scan_eq {s : List Char} {token : Token} (next : (scan s).1 = token) :
    scan s = (token, (scan s).2) := by rw [← next]

/-- The weight of the parser in front of a value. -/
theorem weight_reading_scan (s : List Char) (states : List Bool) (builder : Builder) :
    (reading (scan s) states builder).weight ≤ s.length := by
  have less := scan_length s
  rwa [Config.weight, reading, Bool.false_or]

/-- A key and a separator are read, which leaves less, or it is an error. -/
theorem readKey_cases (s : List Char) (states : List Bool) (root : Json)
    (members : List (String × Json)) (key : Option String) (frames : List Frame) :
    (∃ name t u, scan s = (.valueString name, t) ∧ scan t = (.nameSeparator, u) ∧
      u.length < s.length ∧
      (reading (scan s) states ⟨root, .object members key :: frames⟩).readKey =
        .ok (reading (scan u) states ⟨root, .object members (some name) :: frames⟩)) ∨
    ∃ context, (reading (scan s) states ⟨root, .object members key :: frames⟩).readKey =
      .error (parseError context) := by
  cases next : (scan s).1 with
  | valueString name =>
    have named := scan_eq next
    have after := scan_shorter next rfl
    by_cases separator : (scan (scan s).2).1 = .nameSeparator
    · have colon := scan_eq separator
      have less := Nat.lt_trans (scan_shorter separator rfl) after
      refine .inl ⟨name, _, _, named, colon, less, ?_⟩
      rw [named]
      exact readKey_eq colon states _ rfl
    · refine .inr ⟨"object separator", ?_⟩
      rw [named]
      exact if_neg separator
  | _ =>
    refine .inr ⟨"object key", ?_⟩
    rw [scan_eq next]
    rfl

/-- What is known of the parser in front of a value up to a weight. -/
def ReadsUpTo (n : Nat) : Prop :=
  ∀ (first : Token × List Char) (states : List Bool) (builder : Builder),
    (reading first states builder).weight ≤ n → Matches states builder.refStack →
    Ends (fun document rest => ∃ v s, Value v first s ∧
      Closes builder.refStack v s document rest)
      (outcome (saxParseInternal (reading first states builder)))

/-- What is known of the parser after a value, up to a length of what is left. -/
def GoesOnBelow (n : Nat) : Prop :=
  ∀ (s : List Char) (states : List Bool) (root : Json) (frames : List Frame) (v : Json)
    (after : Builder), s.length < n → Matches states frames →
    Builder.handleValue ⟨root, frames⟩ v = .ok after →
    Ends (Closes frames v s) (goOn s states after)

section Loop

variable {n : Nat} {s : List Char} {states : List Bool} {root : Json} {frames : List Frame}

/-- After an element the text goes on with the array, or it is an error. -/
theorem goOn_element (reads : ReadsUpTo n) (goesOn : GoesOnBelow n)
    (outer : Matches states frames) {elements : List Json} {v : Json}
    (short : s.length < n + 1) :
    Ends (Closes (.array elements :: frames) v s)
      (goOn s (true :: states) ⟨root, .array (elements ++ [v]) :: frames⟩) := by
  by_cases comma : (scan s).1 = .valueSeparator
  · have shorter := scan_shorter comma rfl
    have weight := weight_reading_scan (scan s).2 (true :: states)
      ⟨root, .array (elements ++ [v]) :: frames⟩
    rw [goOn_comma (scan_eq comma)]
    apply (reads _ _ _ (Nat.le_trans weight (by omega)) (.array outer)).mono
    rintro document rest ⟨next, t, value, closes⟩
    exact .nextElement (scan_eq comma) value closes
  by_cases ended : (scan s).1 = .endArray
  · have shorter := scan_shorter ended rfl
    obtain ⟨after, handled, _⟩ := outer.handleValue root (.array (elements ++ [v]))
    have left : Builder.endContainer ⟨root, .array (elements ++ [v]) :: frames⟩ =
        .ok after := handled
    rw [goOn_endArray (scan_eq ended) states left]
    apply (goesOn _ states root frames _ after (by omega) outer handled).mono
    exact fun document rest closes => .endArray (scan_eq ended) closes
  · rw [goOn, evaluateState_array, if_neg comma, if_neg ended]
    exact .inr ⟨_, rfl⟩

/-- After a member it goes on with the object. -/
theorem goOn_object (reads : ReadsUpTo n) (goesOn : GoesOnBelow n)
    (outer : Matches states frames) {members : List (String × Json)} {key : String} {v : Json}
    (short : s.length < n + 1) :
    Ends (Closes (.object members (some key) :: frames) v s)
      (goOn s (false :: states)
        ⟨root, .object (assign key v members) (some key) :: frames⟩) := by
  by_cases comma : (scan s).1 = .valueSeparator
  · have shorter := scan_shorter comma rfl
    rw [goOn_member (scan_eq comma)]
    rcases readKey_cases (scan s).2 (false :: states) root (assign key v members)
      (some key) frames with ⟨name, t, u, named, colon, less, read⟩ | ⟨context, failed⟩
    · have weight := weight_reading_scan u (false :: states)
        ⟨root, .object (assign key v members) (some name) :: frames⟩
      rw [read]
      apply (reads _ _ _ (Nat.le_trans weight (by omega)) (.object outer)).mono
      rintro document rest ⟨next, x, value, closes⟩
      exact .nextMember (scan_eq comma) named colon value closes
    · rw [failed]
      exact .inr ⟨context, rfl⟩
  by_cases ended : (scan s).1 = .endObject
  · have shorter := scan_shorter ended rfl
    obtain ⟨after, handled, _⟩ := outer.handleValue root (.object (assign key v members))
    have left : Builder.endContainer ⟨root, .object (assign key v members) (some key) :: frames⟩ =
        .ok after := handled
    rw [goOn_endObject (scan_eq ended) states left]
    apply (goesOn _ states root frames _ after (by omega) outer handled).mono
    exact fun document rest closes => .endObject (scan_eq ended) closes
  · rw [goOn, evaluateState_object, if_neg comma, if_neg ended]
    exact .inr ⟨_, rfl⟩

/-- After a value the text closes the containers, or it is an error. -/
theorem goesOnBelow_succ (reads : ReadsUpTo n) (goesOn : GoesOnBelow n) :
    GoesOnBelow (n + 1) := by
  intro s states root frames v after short agree handled
  cases agree with
  | nil =>
    cases handled
    exact .root
  | array outer =>
    cases handled
    exact goOn_element reads goesOn outer short
  | object outer =>
    cases handled
    exact goOn_object reads goesOn outer short

/-- In front of a token the text derives a value and then closes the containers, or it is an
error. -/
def Reads (first : Token × List Char) (states : List Bool) (root : Json)
    (frames : List Frame) : Prop :=
  Ends (fun document rest => ∃ v s, Value v first s ∧ Closes frames v s document rest)
    (outcome (saxParseInternal (reading first states ⟨root, frames⟩)))

/-- A token that is a value by itself. -/
theorem reads_scalar (goesOn : GoesOnBelow n) (agree : Matches states frames) {token : Token}
    {v : Json} (scalar : scalarOf token = some v) (short : s.length < n) :
    Reads (token, s) states root frames := by
  obtain ⟨after, handled, _⟩ := agree.handleValue root v
  unfold Reads
  rw [outcome_scalar scalar handled]
  apply (goesOn s states root frames v after short agree handled).mono
  exact fun document rest closes => ⟨v, s, .scalar scalar, closes⟩

/-- A token that no value starts with, or a key that is missing. -/
theorem reads_thrown {first : Token × List Char} {e : Exn} (thrown : Thrown e)
    (failed : (reading first states ⟨root, frames⟩).readValue = .error e) :
    Reads first states root frames := by
  unfold Reads
  rw [outcome_saxParseInternal, iterate_reading, failed]
  exact thrown

/-- A token that opens an array. -/
theorem reads_array (reads : ∀ m, m < n → ReadsUpTo m) (goesOn : GoesOnBelow n)
    (agree : Matches states frames) (short : s.length < n) :
    Reads (.beginArray, s) states root frames := by
  unfold Reads
  by_cases ended : (scan s).1 = .endArray
  · have shorter := scan_shorter ended rfl
    obtain ⟨after, handled, _⟩ := agree.handleValue root (.array [])
    have read : (reading (.beginArray, s) states ⟨root, frames⟩).readValue =
        .ok (.passed (reading (.endArray, (scan s).2) states after)) := by
      rw [readValue_array, if_pos ended, handled, ← scan_eq ended]
      rfl
    rw [outcome_passed _ read]
    apply (goesOn _ states root frames _ after (by omega) agree handled).mono
    exact fun document rest closes => ⟨_, _, .emptyArray (scan_eq ended), closes⟩
  · have read : (reading (.beginArray, s) states ⟨root, frames⟩).readValue =
        .ok (.continue (reading (scan s) (true :: states) ⟨root, .array [] :: frames⟩)) := by
      rw [readValue_array, if_neg ended]
      rfl
    have less := weight_reading_scan s (true :: states) ⟨root, .array [] :: frames⟩
    rw [outcome_continue read]
    apply (reads s.length short _ _ _ less (.array agree)).mono
    rintro document rest ⟨v, t, value, closes⟩
    obtain ⟨elements, u, inside, closes⟩ := closes.array value
    exact ⟨_, u, .array inside, closes⟩

/-- A token that opens an object. -/
theorem reads_object (reads : ∀ m, m < n → ReadsUpTo m) (goesOn : GoesOnBelow n)
    (agree : Matches states frames) (short : s.length < n) :
    Reads (.beginObject, s) states root frames := by
  by_cases ended : (scan s).1 = .endObject
  · have shorter := scan_shorter ended rfl
    obtain ⟨after, handled, _⟩ := agree.handleValue root (.object [])
    have read : (reading (.beginObject, s) states ⟨root, frames⟩).readValue =
        .ok (.passed (reading (.endObject, (scan s).2) states after)) := by
      rw [readValue_object, if_pos ended, handled, ← scan_eq ended]
      rfl
    unfold Reads
    rw [outcome_passed _ read]
    apply (goesOn _ states root frames _ after (by omega) agree handled).mono
    exact fun document rest closes => ⟨_, _, .emptyObject (scan_eq ended), closes⟩
  rcases readKey_cases s states root [] none frames with
    ⟨name, t, u, named, colon, shorter, key⟩ | ⟨context, failed⟩
  · have read : (reading (.beginObject, s) states ⟨root, frames⟩).readValue =
        .ok (.continue (reading (scan u) (false :: states)
          ⟨root, .object [] (some name) :: frames⟩)) := by
      rw [readValue_object, if_neg ended]
      change ((reading (scan s) states ⟨root, .object [] none :: frames⟩).readKey >>= _) = _
      rw [key]
      rfl
    have less := weight_reading_scan u (false :: states)
      ⟨root, .object [] (some name) :: frames⟩
    unfold Reads
    rw [outcome_continue read]
    apply (reads u.length (by omega) _ _ _ less (.object agree)).mono
    rintro document rest ⟨v, w, value, closes⟩
    obtain ⟨members, x, inside, closes⟩ := closes.object colon value
    rw [← named] at inside
    exact ⟨_, x, .object inside, closes⟩
  · apply reads_thrown (.inr ⟨context, rfl⟩)
    rw [readValue_object, if_neg ended]
    change ((reading (scan s) states ⟨root, .object [] none :: frames⟩).readKey >>= _) = _
    rw [failed]
    rfl

/-- In front of a value the text derives one and then closes the containers, or it is an error. -/
theorem readsUpTo_of_goesOn (reads : ∀ m, m < n → ReadsUpTo m) (goesOn : GoesOnBelow n) :
    ReadsUpTo n := by
  rintro ⟨token, s⟩ states ⟨root, frames⟩ weight agree
  have room (proper : token.proper = true) : s.length < n := by
    rw [Config.weight, reading, Bool.false_or, proper] at weight
    exact weight
  change Reads (token, s) states root frames
  cases token with
  | beginArray => exact reads_array reads goesOn agree (room rfl)
  | beginObject => exact reads_object reads goesOn agree (room rfl)
  | valueFloat value =>
    by_cases finite : value.isFinite = true
    · exact reads_scalar goesOn agree (if_pos finite) (room rfl)
    · exact reads_thrown (.inl rfl) (if_neg finite)
  | literalTrue | literalFalse | literalNull | valueString | valueUnsigned | valueInteger =>
    exact reads_scalar goesOn agree rfl (room rfl)
  | _ => exact reads_thrown (.inr ⟨_, rfl⟩) rfl

end Loop

/-- The parser, whatever is left of the text. -/
theorem reads_and_goesOn (n : Nat) : ReadsUpTo n ∧ GoesOnBelow n := by
  induction n using Nat.strongRecOn with
  | ind n known =>
    have goesOn : GoesOnBelow n := by
      cases n with
      | zero => exact fun _ _ _ _ _ _ short => absurd short (Nat.not_lt_zero _)
      | succ m =>
        obtain ⟨reads, goesOn⟩ := known m (Nat.lt_succ_self m)
        exact goesOnBelow_succ reads goesOn
    exact ⟨readsUpTo_of_goesOn (fun m less => (known m less).1) goesOn, goesOn⟩

/-- The start of the parser is in front of a value. -/
theorem start_eq (text : List Char) :
    start text = reading (scanFirst text) [] { root := .null, refStack := [] } := rfl

/-- How `parse` ends, by how its loop ends. -/
theorem parse_eq (text : List Char) :
    parse text =
      outcome (saxParseInternal (reading (scanFirst text) [] { root := .null, refStack := [] })) >>=
        fun (document, rest) =>
          if (scan rest).1 = .endOfInput then .ok document else .error (parseError "value") := by
  unfold parse
  rw [start_eq]
  cases saxParseInternal (reading (scanFirst text) [] { root := .null, refStack := [] }) <;> rfl

/-- The parser returns every document of the grammar. -/
theorem parse_of_document {text : List Char} {v : Json} (document : Document text v) :
    parse text = .ok v := by
  obtain ⟨rest, value, ended⟩ := document
  have handled : Builder.handleValue { root := .null, refStack := [] } v =
      .ok { root := v, refStack := [] } := rfl
  rw [parse_eq, run_value value [] handled]
  exact if_pos ended

/-- The parser returns only documents of the grammar, and throws what parsers throw. -/
theorem document_of_parse (text : List Char) :
    (∀ v, parse text = .ok v → Document text v) ∧ ∀ e, parse text = .error e → Thrown e := by
  have ends := (reads_and_goesOn _).1 (scanFirst text) [] { root := .null, refStack := [] }
    (Nat.le_refl _) .nil
  rw [parse_eq]
  cases ran : outcome
    (saxParseInternal (reading (scanFirst text) [] { root := .null, refStack := [] })) with
  | error e =>
    rw [ran] at ends
    refine ⟨fun v returned => (nomatch returned), fun e' thrown => ?_⟩
    cases thrown
    exact ends
  | ok pair =>
    obtain ⟨document, rest⟩ := pair
    rw [ran] at ends
    obtain ⟨v, s, value, closes⟩ := ends
    cases closes
    simp only [bind, Except.bind]
    split_ifs with ended
    · refine ⟨fun v' returned => ?_, fun e thrown => (nomatch thrown)⟩
      cases returned
      exact ⟨rest, value, ended⟩
    · refine ⟨fun v' returned => (nomatch returned), fun e thrown => ?_⟩
      cases thrown
      exact .inr ⟨_, rfl⟩

end RcDynamics.Parser
