import RcDynamics.Checked
import RcDynamics.Lexer

/-!
# Parsing JSON texts

The parser of the bundled `nlohmann::json`: a loop over tokens with a stack that remembers for each
open container whether it is an array, and the receiver of its events, which builds the document.
Exceptions carry their class, their id and what was parsed; the position in the text and the
tokens in question are left out of their messages. What the source leaves undefined is an
exception here.
-/

namespace RcDynamics.Parser

open Checked Lexer

/-- `parse_error.101`, without what the text has there and what was expected. -/
def parseError (context : String) : Exn :=
  .json "parse_error" 101 ("syntax error while parsing " ++ context)

/-- `out_of_range.406`, without the text of the number. -/
def numberOverflow : Exn := .json "out_of_range" 406 "number overflow parsing"

/-- Assign a value to the member with a key, which `std::map` keeps in key order. -/
def assign (key : String) (value : Json) : List (String × Json) → List (String × Json)
  | [] => [(key, value)]
  | (name, other) :: members =>
    if key < name then (key, value) :: (name, other) :: members
    else if key = name then (key, value) :: members
    else (name, other) :: assign key value members

/-- A container that is not complete, with the key of `object_element` in an object. -/
inductive Frame where
  | array (elements : List Json)
  | object (members : List (String × Json)) (key : Option String)

/-- `json_sax_dom_parser`: the root and `ref_stack`, the innermost container first. A container is
put into its parent when it is complete; the source puts it there when it begins. -/
structure Builder where
  root : Json
  refStack : List Frame

/-- `handle_value` -/
def Builder.handleValue (builder : Builder) (v : Json) : Except Exn Builder :=
  match builder.refStack with
  | [] => .ok { builder with root := v }
  | .array elements :: frames =>
    .ok { builder with refStack := .array (elements ++ [v]) :: frames }
  | .object members (some key) :: frames =>
    .ok { builder with refStack := .object (assign key v members) (some key) :: frames }
  | .object _ none :: _ => .error (.undefined "json: value without key")

/-- `start_object` -/
def Builder.startObject (builder : Builder) : Builder :=
  { builder with refStack := .object [] none :: builder.refStack }

/-- `start_array` -/
def Builder.startArray (builder : Builder) : Builder :=
  { builder with refStack := .array [] :: builder.refStack }

/-- `key` -/
def Builder.key (builder : Builder) (val : String) : Except Exn Builder :=
  match builder.refStack with
  | .object members _ :: frames =>
    .ok { builder with refStack := .object members (some val) :: frames }
  | _ => .error (.undefined "json: key outside an object")

/-- The value of a complete container. -/
def Frame.value : Frame → Json
  | array elements => .array elements
  | object members _ => .object members

/-- `end_object` and `end_array` -/
def Builder.endContainer (builder : Builder) : Except Exn Builder :=
  match builder.refStack with
  | frame :: frames => { builder with refStack := frames }.handleValue frame.value
  | [] => .error (.undefined "json: end outside a container")

/-- The variables of `sax_parse_internal`: the last token and what is left after it, the stack of
open containers, the innermost first and true for an array, and the receiver of the events. -/
structure Config where
  lastToken : Token
  input : List Char
  states : List Bool
  builder : Builder
  skipToStateEvaluation : Bool

/-- `get_token` -/
def Config.getToken (config : Config) : Config :=
  { config with lastToken := (scan config.input).1, input := (scan config.input).2 }

/-- How a part of the loop's body ends: with `continue`, or after it. -/
inductive Outcome where
  | continue (config : Config)
  | passed (config : Config)

/-- The last token is a key: read it, the separator and the first token of the value. -/
def Config.readKey (config : Config) : Except Exn Config :=
  match config.lastToken with
  | .valueString val => do
    let builder ← config.builder.key val
    let config := { config with builder := builder }.getToken
    if config.lastToken = .nameSeparator then return config.getToken
    else throw (parseError "object separator")
  | _ => throw (parseError "object key")

/-- A value that is no container. -/
def Config.scalar (config : Config) (v : Json) : Except Exn Outcome := do
  let builder ← config.builder.handleValue v
  return .passed { config with builder := builder }

/-- The switch over the last token: `passed` when it is a complete value. -/
def Config.readValue (config : Config) : Except Exn Outcome :=
  match config.lastToken with
  | .beginObject => do
    let config := { config with builder := config.builder.startObject }.getToken
    if config.lastToken = .endObject then
      let builder ← config.builder.endContainer
      return .passed { config with builder := builder }
    else
      let config ← config.readKey
      return .continue { config with states := false :: config.states }
  | .beginArray => do
    let config := { config with builder := config.builder.startArray }.getToken
    if config.lastToken = .endArray then
      let builder ← config.builder.endContainer
      return .passed { config with builder := builder }
    else return .continue { config with states := true :: config.states }
  | .valueFloat res =>
    if res.isFinite then config.scalar (.float res) else throw numberOverflow
  | .literalFalse => config.scalar (.boolean false)
  | .literalNull => config.scalar .null
  | .literalTrue => config.scalar (.boolean true)
  | .valueInteger value => config.scalar (.integer value)
  | .valueString value => config.scalar (.string value)
  | .valueUnsigned value => config.scalar (.unsigned value)
  | _ => throw (parseError "value")

/-- The end of a container, after which the state around it is evaluated. -/
def Config.leave (config : Config) (states : List Bool) : Except Exn Outcome := do
  let builder ← config.builder.endContainer
  return .continue
    { config with builder := builder, states := states, skipToStateEvaluation := true }

/-- What follows a complete value: `passed` when it is the whole document. -/
def Config.evaluateState (config : Config) : Except Exn Outcome :=
  match config.states with
  | [] => .ok (.passed config)
  | true :: states => do
    let config := config.getToken
    if config.lastToken = .valueSeparator then return .continue config.getToken
    else if config.lastToken = .endArray then config.leave states
    else throw (parseError "array")
  | false :: states => do
    let config := config.getToken
    if config.lastToken = .valueSeparator then
      let config ← config.getToken.readKey
      return .continue config
    else if config.lastToken = .endObject then config.leave states
    else throw (parseError "object")

/-- The body of the loop of `sax_parse_internal`. -/
def Config.iterate (config : Config) : Except Exn Outcome :=
  if config.skipToStateEvaluation then
    { config with skipToStateEvaluation := false }.evaluateState
  else
    match config.readValue with
    | .ok (.passed config) => config.evaluateState
    | outcome => outcome

/-- What decreases from iteration to iteration: the input, and the token that is taken off it. -/
def Config.weight (config : Config) : Nat :=
  config.input.length + (config.skipToStateEvaluation || config.lastToken.proper).toNat

/-- The next token leaves no more weight than there was input. -/
theorem Config.getToken_weight (config : Config) (plain : config.skipToStateEvaluation = false) :
    config.getToken.weight ≤ config.input.length := by
  have less := scan_length config.input
  change (scan config.input).2.length +
    (config.skipToStateEvaluation || (scan config.input).1.proper).toNat ≤ _
  rwa [plain, Bool.false_or]

/-- The input after the next token is no longer. -/
theorem Config.getToken_length (config : Config) :
    config.getToken.input.length ≤ config.input.length := by
  have less := scan_length config.input
  exact Nat.le_trans (Nat.le_add_right _ _) less

/-- The input after a next token that is proper is shorter. -/
theorem Config.getToken_shorter {config : Config} {token : Token}
    (next : config.getToken.lastToken = token) (proper : token.proper = true) :
    config.getToken.input.length < config.input.length := by
  have less := scan_length config.input
  change (scan config.input).1 = token at next
  rw [next, proper] at less
  exact less

/-- A key and its separator are read. -/
theorem Config.readKey_weight (config : Config) {next : Config}
    (plain : config.skipToStateEvaluation = false) (read : config.readKey = .ok next) :
    next.weight ≤ config.input.length := by
  unfold Config.readKey at read
  split at read
  · obtain ⟨builder, _, read⟩ := bind_eq_ok.mp read
    simp only at read
    split_ifs at read
    cases read
    have less := Config.getToken_weight { config with builder := builder }.getToken plain
    have less' := Config.getToken_length { config with builder := builder }
    exact Nat.le_trans less less'
  · cases read

/-- Leaving a container costs the token that ends it. -/
theorem Config.leave_weight {config next : Config} {states : List Bool}
    (left : config.leave states = .ok (.continue next)) :
    next.weight = config.input.length + 1 := by
  obtain ⟨builder, _, left⟩ := bind_eq_ok.mp left
  cases left
  rfl

/-- Going on after a value takes tokens. -/
theorem Config.evaluateState_weight {config next : Config}
    (plain : config.skipToStateEvaluation = false)
    (evaluated : config.evaluateState = .ok (.continue next)) :
    next.weight ≤ config.input.length := by
  have shorter := config.getToken_length
  unfold Config.evaluateState at evaluated
  split at evaluated
  · cases evaluated
  · simp only at evaluated
    split_ifs at evaluated with comma ended
    · cases evaluated
      exact Nat.le_trans (config.getToken.getToken_weight plain) shorter
    · rw [Config.leave_weight evaluated]
      exact Config.getToken_shorter ended rfl
  · simp only at evaluated
    split_ifs at evaluated with comma ended
    · obtain ⟨after, read, evaluated⟩ := bind_eq_ok.mp evaluated
      cases evaluated
      have less := config.getToken.getToken.readKey_weight plain read
      have shorter' := config.getToken.getToken_length
      omega
    · rw [Config.leave_weight evaluated]
      exact Config.getToken_shorter ended rfl

/-- What reading a value leaves: less weight than there was, or no more input. -/
def Outcome.After (config : Config) : Outcome → Prop
  | .continue next => next.weight ≤ config.input.length
  | .passed next =>
    next.input.length ≤ config.input.length ∧ next.skipToStateEvaluation = false

/-- A value that is no container needs no further token. -/
theorem Config.scalar_after {config : Config} {v : Json} {outcome : Outcome}
    (plain : config.skipToStateEvaluation = false) (read : config.scalar v = .ok outcome) :
    outcome.After config := by
  obtain ⟨builder, _, read⟩ := bind_eq_ok.mp read
  cases read
  exact ⟨Nat.le_refl _, plain⟩

/-- The first part of a container is read: its end, or what its first element begins with. -/
theorem Config.readValue_after {config : Config} {outcome : Outcome}
    (plain : config.skipToStateEvaluation = false) (read : config.readValue = .ok outcome) :
    outcome.After config ∧ config.lastToken.proper = true := by
  unfold Config.readValue at read
  split at read
  case h_1 token =>
    refine ⟨?_, by rw [token]; rfl⟩
    have shorter := Config.getToken_length
      { config with builder := config.builder.startObject }
    simp only at read
    split_ifs at read with ended
    · obtain ⟨builder, _, read⟩ := bind_eq_ok.mp read
      cases read
      exact ⟨shorter, plain⟩
    · obtain ⟨after, key, read⟩ := bind_eq_ok.mp read
      cases read
      have less := Config.readKey_weight
        { config with builder := config.builder.startObject }.getToken plain key
      exact Nat.le_trans less shorter
  case h_2 token =>
    refine ⟨?_, by rw [token]; rfl⟩
    simp only at read
    split_ifs at read with ended
    · obtain ⟨builder, _, read⟩ := bind_eq_ok.mp read
      cases read
      exact ⟨Config.getToken_length { config with builder := config.builder.startArray }, plain⟩
    · cases read
      exact Config.getToken_weight
        { config with builder := config.builder.startArray } plain
  case h_3 res token =>
    split_ifs at read
    exact ⟨Config.scalar_after plain read, by rw [token]; rfl⟩
  case h_10 => cases read
  all_goals
    rename_i token
    exact ⟨Config.scalar_after plain read, by rw [token]; rfl⟩

/-- Every iteration that is not the last takes weight away. -/
theorem Config.iterate_weight {config next : Config}
    (ran : config.iterate = .ok (.continue next)) : next.weight < config.weight := by
  unfold Config.iterate at ran
  split_ifs at ran with skip
  · have less := Config.evaluateState_weight (by rfl) ran
    have one : config.weight = config.input.length + 1 := by rw [Config.weight, skip]; rfl
    rw [one]
    exact Nat.lt_succ_of_le less
  · have plain : config.skipToStateEvaluation = false := by simpa using skip
    have costs (proper : config.lastToken.proper = true) :
        config.weight = config.input.length + 1 := by
      rw [Config.weight, proper, Bool.or_true]
      rfl
    split at ran
    · rename_i after read
      obtain ⟨⟨shorter, plain'⟩, proper⟩ := Config.readValue_after plain read
      have less := Config.evaluateState_weight plain' ran
      rw [costs proper]
      omega
    · rename_i outcome unlike
      obtain ⟨less, proper⟩ := Config.readValue_after plain ran
      rw [costs proper]
      exact Nat.lt_succ_of_le less

/-- `sax_parse_internal` -/
def saxParseInternal (config : Config) : Except Exn Config :=
  match ran : config.iterate with
  | .error e => .error e
  | .ok (.passed config) => .ok config
  | .ok (.continue next) =>
    have : next.weight < config.weight := Config.iterate_weight ran
    saxParseInternal next
termination_by config.weight

/-- The state of the parser when it is constructed: the first token is read. -/
def start (text : List Char) : Config where
  lastToken := (scanFirst text).1
  input := (scanFirst text).2
  states := []
  builder := { root := .null, refStack := [] }
  skipToStateEvaluation := false

/-- `parse` in strict mode: nothing follows the document. -/
def parse (text : List Char) : Except Exn Json := do
  let config ← saxParseInternal (start text)
  if config.getToken.lastToken = .endOfInput then return config.builder.root
  else throw (parseError "value")

end RcDynamics.Parser

namespace RcDynamics

/-- `json::parse` of a text. -/
def Json.parse (text : String) : Except Exn Json := Parser.parse text.toList

end RcDynamics
