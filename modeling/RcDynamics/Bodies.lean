import RcDynamics.Canonical
import RcDynamics.Scripts

/-!
# The texts of request bodies

The calls hand on the documents of their bodies, not the texts that `dump` prints for them. This is
exact: for destinations `dump` throws when the calls say that it does, every body that a run sends
is printed, and what the device parses from the text is the document.
-/

namespace RcDynamics

open Effect Json Serializer

/-- The device checks for valid UTF-8 what `dump` checks, of strings with a character for each
byte. -/
def Env.Prints (env : Env) : Prop :=
  ∀ s, env.utf8 s = true ↔ Narrow s.toList ∧ printable s = true

section Documents

/-- Strings can be held when they are narrow. -/
theorem heldElements_strings {values : List String} (narrow : ∀ s ∈ values, Narrow s.toList) :
    HeldElements (values.map .string) := by
  induction values with
  | nil => exact trivial
  | cons s values later =>
    have others := later fun t member => narrow t (List.mem_cons_of_mem s member)
    exact ⟨narrow s List.mem_cons_self, others⟩

/-- The strings of a list of strings. -/
theorem elementStrings_strings (values : List String) :
    elementStrings (values.map .string) = values := by
  induction values with
  | nil => rfl
  | cons s values later => rw [List.map_cons, elementStrings, later]; rfl

/-- Strings are no numbers. -/
theorem everyFloatElements_strings (P : Number → Prop) (values : List String) :
    EveryFloatElements P (values.map .string) := by
  induction values with
  | nil => exact trivial
  | cons s values later => exact ⟨trivial, later⟩

/-- Strings are stored as they are. -/
theorem normalElements_strings (values : List String) :
    normalElements (values.map .string) = values.map .string := by
  induction values with
  | nil => rfl
  | cons s values later => rw [List.map_cons, normalElements, later]; rfl

/-- The body of a request about destinations can be held when they are narrow. -/
theorem destinationArgs_held {destinations : List String}
    (narrow : ∀ d ∈ destinations, Narrow d.toList) : (destinationArgs destinations).Held := by
  have name : Narrow "destination".toList := narrow_of_all (by decide)
  exact ⟨⟨name, heldElements_strings narrow, trivial⟩, List.pairwise_singleton _ _⟩

/-- The strings of the body of a request about destinations. -/
theorem destinationArgs_strings (destinations : List String) :
    (destinationArgs destinations).strings = "destination" :: destinations := by
  change "destination" :: (elementStrings (destinations.map .string) ++ []) = _
  rw [elementStrings_strings, List.append_nil]

/-- The body of a request about destinations has no floating-point numbers. -/
theorem destinationArgs_floats (P : Number → Prop) (destinations : List String) :
    (destinationArgs destinations).EveryFloat P :=
  ⟨everyFloatElements_strings P destinations, trivial⟩

/-- The body of a request about destinations is stored as it is. -/
theorem destinationArgs_normal (destinations : List String) :
    (destinationArgs destinations).normal = destinationArgs destinations := by
  change object [("destination", array (normalElements (destinations.map .string)))] = _
  rw [normalElements_strings]
  rfl

/-- The body of a request about destinations can be printed when they can. -/
theorem destinationArgs_printable {destinations : List String}
    (valid : ∀ d ∈ destinations, printable d = true) :
    (destinationArgs destinations).Printable := by
  intro s member
  rw [destinationArgs_strings] at member
  rcases List.mem_cons.mp member with rfl | member
  · decide
  · exact valid s member

/-- The names in the arguments of a trajectory query. -/
def queryNames : List String :=
  ["args", "end_time", "end_time_relative", "start_time", "start_time_relative", "nsec", "sec"]

/-- These names can be held and printed. -/
theorem queryNames_printed : ∀ s ∈ queryNames, Narrow s.toList ∧ printable s = true := by
  have checked :
      queryNames.all (fun s => s.toList.all (·.toNat < 0x100) && printable s) = true := by
    decide
  intro s member
  have both := List.all_eq_true.mp checked s member
  rw [Bool.and_eq_true] at both
  exact ⟨narrow_of_all both.1, both.2⟩

/-- Members are in key order when their keys are in order. -/
theorem sorted_of_keys {members : List (String × Json)}
    (keys : (members.map Prod.fst).Pairwise (· < ·)) :
    members.Pairwise fun a b => a.1 < b.1 := List.pairwise_map.mp keys

/-- A time can be held. -/
theorem TrajectoryTime.json_held (time : TrajectoryTime) : time.json.Held := by
  have range (x : BitVec 64) : (integer x.toInt).Held := by
    have low := BitVec.le_toInt x
    have high := BitVec.toInt_lt (x := x)
    exact ⟨by omega, by omega⟩
  have nsec := (queryNames_printed "nsec" (by decide)).1
  have sec := (queryNames_printed "sec" (by decide)).1
  have keys : ["nsec", "sec"].Pairwise (· < ·) := by decide
  exact ⟨⟨nsec, range time.nsec, sec, range time.sec, trivial⟩, sorted_of_keys keys⟩

/-- The arguments of a trajectory query can be held. -/
theorem trajectoryArgs_held (start stop : TrajectoryTime) : (trajectoryArgs start stop).Held := by
  have named (name : String) (known : name ∈ queryNames) : Narrow name.toList :=
    (queryNames_printed name known).1
  have args := named "args" (by decide)
  have first := named "end_time" (by decide)
  have second := named "end_time_relative" (by decide)
  have third := named "start_time" (by decide)
  have fourth := named "start_time_relative" (by decide)
  have heldStart := start.json_held
  have heldStop := stop.json_held
  obtain ⟨startRelative, startSec, startNsec⟩ := start
  obtain ⟨stopRelative, stopSec, stopNsec⟩ := stop
  cases startRelative with
  | false =>
    cases stopRelative with
    | false =>
      have keys : ["end_time", "start_time"].Pairwise (· < ·) := by decide
      exact ⟨⟨args, ⟨⟨first, heldStop, third, heldStart, trivial⟩, sorted_of_keys keys⟩, trivial⟩,
        List.pairwise_singleton _ _⟩
    | true =>
      have keys : ["end_time", "end_time_relative", "start_time"].Pairwise (· < ·) := by decide
      exact ⟨⟨args, ⟨⟨first, heldStop, second, trivial, third, heldStart, trivial⟩,
        sorted_of_keys keys⟩, trivial⟩, List.pairwise_singleton _ _⟩
  | true =>
    cases stopRelative with
    | false =>
      have keys : ["end_time", "start_time", "start_time_relative"].Pairwise (· < ·) := by decide
      exact ⟨⟨args, ⟨⟨first, heldStop, third, heldStart, fourth, trivial, trivial⟩,
        sorted_of_keys keys⟩, trivial⟩, List.pairwise_singleton _ _⟩
    | true =>
      have keys : ["end_time", "end_time_relative", "start_time", "start_time_relative"].Pairwise
          (· < ·) := by decide
      exact ⟨⟨args, ⟨⟨first, heldStop, second, trivial, third, heldStart, fourth, trivial, trivial⟩,
        sorted_of_keys keys⟩, trivial⟩, List.pairwise_singleton _ _⟩

/-- The arguments of a trajectory query can be printed, and have no floating-point numbers. -/
theorem trajectoryArgs_printable (P : Number → Prop) (start stop : TrajectoryTime) :
    (trajectoryArgs start stop).Printable ∧ (trajectoryArgs start stop).EveryFloat P := by
  obtain ⟨startRelative, startSec, startNsec⟩ := start
  obtain ⟨stopRelative, stopSec, stopNsec⟩ := stop
  have time (t : TrajectoryTime) : t.json.EveryFloat P := ⟨trivial, trivial, trivial⟩
  have printed (names : List String) (known : names ⊆ queryNames) :
      ∀ s ∈ names, printable s = true := fun s member => (queryNames_printed s (known member)).2
  cases startRelative with
  | false =>
    cases stopRelative with
    | false =>
      exact ⟨printed ["args", "end_time", "nsec", "sec", "start_time", "nsec", "sec"] (by decide),
        ⟨time _, time _, trivial⟩, trivial⟩
    | true =>
      exact ⟨printed ["args", "end_time", "nsec", "sec", "end_time_relative", "start_time", "nsec",
        "sec"] (by decide), ⟨time _, trivial, time _, trivial⟩, trivial⟩
  | true =>
    cases stopRelative with
    | false =>
      exact ⟨printed ["args", "end_time", "nsec", "sec", "start_time", "nsec", "sec",
        "start_time_relative"] (by decide), ⟨time _, time _, trivial, trivial⟩, trivial⟩
    | true =>
      exact ⟨printed ["args", "end_time", "nsec", "sec", "end_time_relative", "start_time", "nsec",
        "sec", "start_time_relative"] (by decide), ⟨time _, trivial, time _, trivial, trivial⟩,
        trivial⟩

end Documents

section Calls

variable {env : Env}

/-- What `dump` makes of the body of an allowed request is the body again, and for destinations
just as it was. -/
theorem Allowed.printed (prints : env.Prints) {before : List Event} {method : Method}
    {resource : Resource} {body : Json} (allowed : Allowed env before method resource (some body))
    (ensureAscii : Bool) (toChars : ToChars) :
    (∃ text, body.dump ensureAscii toChars = .ok text ∧ Json.parse text = .ok body.normal) ∧
      ∀ stream, resource = .datastream stream → body.normal = body := by
  have named (destinations : List String)
      (valid : ∀ destination ∈ destinations, env.utf8 destination = true) :
      ∃ text, (destinationArgs destinations).dump ensureAscii toChars = .ok text ∧
        Json.parse text = .ok (destinationArgs destinations).normal := by
    have held := destinationArgs_held fun d member => ((prints d).mp (valid d member)).1
    have printed := destinationArgs_printable fun d member => ((prints d).mp (valid d member)).2
    obtain ⟨text, dumped⟩ := dump_ok ensureAscii toChars held printed
    exact ⟨text, dumped, parse_of_dump held (destinationArgs_floats _ destinations) dumped⟩
  cases allowed with
  | trajectory start stop =>
    have held := trajectoryArgs_held start stop
    obtain ⟨printed, floats⟩ := trajectoryArgs_printable (ReadsBack toChars) start stop
    obtain ⟨text, dumped⟩ := dump_ok ensureAscii toChars held printed
    exact ⟨⟨text, dumped, parse_of_dump held floats dumped⟩, fun stream same => by cases same⟩
  | add listed valid =>
    refine ⟨named _ ?_, fun _ _ => destinationArgs_normal _⟩
    intro d member
    rwa [List.mem_singleton.mp member]
  | remove listed valid => exact ⟨named _ valid, fun _ _ => destinationArgs_normal _⟩

/-- Every request of a script is allowed, and goes to its address. -/
theorem Script.request_allowed {address : String} {before events : List Event} {n : ℕ}
    (script : Script env address before n events) {request : Request}
    (sent : request ∈ requests events) :
    ∃ earlier method resource body timeout, Allowed env earlier method resource body ∧
      request = requestTo address method resource body timeout := by
  induction script with
  | silent => cases sent
  | heard others ih => exact ih sent
  | asked allowed others ih =>
    rename_i before events n k method resource body timeout
    rw [requests_append] at sent
    rcases List.mem_append.mp sent with first | later
    · unfold exchange at first
      rw [requests_attempts] at first
      obtain ⟨_, _, same⟩ := List.mem_map.mp first
      exact ⟨before, method, resource, body, timeout, allowed, same.symm⟩
    · exact ih later

/-- **Bodies are read as they are meant.** In every run and the destruction after it, `dump` prints
the body of every request that is sent, and the device that parses this text finds the document of
the call; for destinations it is just the same. -/
theorem Session.bodies_read_back (prints : env.Prints) (rcVisardIp : String)
    (requestsTimeout : Int) (operations : List Operation)
    (traversal : RemoteInterface.Traversal) (ensureAscii : Bool) (toChars : ToChars)
    (request : Request) (body : Json)
    (sent : request ∈ requests (final ((RemoteInterface.destroy env traversal).run
      (after env rcVisardIp requestsTimeout operations).sys)).world.trace)
    (content : request.body = some body) :
    (∃ text, body.dump ensureAscii toChars = .ok text ∧ Json.parse text = .ok body.normal) ∧
      ∀ stream, request.resource = .datastream stream → body.normal = body := by
  obtain ⟨n, script⟩ := script_of_destroy env rcVisardIp requestsTimeout operations traversal
  obtain ⟨earlier, method, resource, args, timeout, allowed, rfl⟩ := script.request_allowed sent
  have same : args = some body := content
  rw [same] at allowed
  exact allowed.printed prints ensureAscii toChars

/-- The device of the tests, with the check of strings that `dump` makes. -/
def printingDevice : Env :=
  { obligingDevice with utf8 := fun s => s.toList.all (·.toNat < 0x100) && printable s }

/-- It checks what `dump` checks. -/
theorem printingDevice_prints : printingDevice.Prints := by
  intro s
  have checks : printingDevice.utf8 s = (s.toList.all (·.toNat < 0x100) && printable s) := rfl
  rw [checks, Bool.and_eq_true]
  constructor
  · exact fun both => ⟨narrow_of_all both.1, both.2⟩
  · intro both
    refine ⟨List.all_eq_true.mpr fun c member => ?_, both.2⟩
    exact decide_eq_true (both.1 c member)

/-- The body of the request for a stream is read back. -/
theorem Session.bodies_read_back_pose : ∃ request body text,
    request ∈ requests (final ((RemoteInterface.destroy printingDevice .copied).run
      (after printingDevice "192.168.0.10" 5000
        [.addDestinationToStream "pose" "192.168.0.5:40000"]).sys)).world.trace ∧
    request.body = some body ∧ body.dump false oneAndHalf = .ok text ∧
    Json.parse text = .ok body.normal := by
  have some : (requests (final ((RemoteInterface.destroy printingDevice .copied).run
      (after printingDevice "192.168.0.10" 5000
        [.addDestinationToStream "pose" "192.168.0.5:40000"]).sys)).world.trace).any
      (fun request => request.body.isSome) = true := by decide +kernel
  obtain ⟨request, sent, named⟩ := List.any_eq_true.mp some
  obtain ⟨body, content⟩ := Option.isSome_iff_exists.mp named
  obtain ⟨⟨text, dumped, parsed⟩, _⟩ := bodies_read_back printingDevice_prints "192.168.0.10" 5000
    [.addDestinationToStream "pose" "192.168.0.5:40000"] .copied false oneAndHalf request body sent
    content
  exact ⟨request, body, text, sent, content, dumped, parsed⟩

/-- **The calls throw when printing does.** For destinations that are strings of bytes, the model of
`js_args.dump()` hands the document on exactly when `dump` prints it, and the text is parsed as
that document; otherwise both throw `type_error.316`. -/
theorem dumpArgs_exact (prints : env.Prints) {destinations : List String}
    (narrow : ∀ d ∈ destinations, Narrow d.toList) (ensureAscii : Bool) (toChars : ToChars)
    (s : Sys) :
    (∃ text, (destinationArgs destinations).dump ensureAscii toChars = .ok text ∧
      Json.parse text = .ok (destinationArgs destinations) ∧
      (dumpArgs env destinations).run s = .ok (destinationArgs destinations) s) ∨
    ∃ what what', (destinationArgs destinations).dump ensureAscii toChars =
        .error (.json "type_error" 316 what) ∧
      (dumpArgs env destinations).run s = .error (.json "type_error" 316 what') s := by
  have held := destinationArgs_held narrow
  by_cases valid : ∀ d ∈ destinations, printable d = true
  · left
    obtain ⟨text, dumped⟩ := dump_ok ensureAscii toChars held (destinationArgs_printable valid)
    have parsed := parse_of_dump held (destinationArgs_floats _ destinations) dumped
    rw [destinationArgs_normal] at parsed
    have utf8 : destinations.all env.utf8 = true := by
      apply List.all_eq_true.mpr
      intro d member
      exact (prints d).mpr ⟨narrow d member, valid d member⟩
    refine ⟨text, dumped, parsed, ?_⟩
    rw [dumpArgs, if_pos utf8]
    rfl
  · right
    have unprintable : ¬(destinationArgs destinations).Printable := by
      intro printed
      apply valid
      intro d member
      apply printed d
      rw [destinationArgs_strings]
      exact List.mem_cons_of_mem _ member
    obtain ⟨what, dumped⟩ := dump_error ensureAscii toChars held unprintable
    have invalid : ¬destinations.all env.utf8 = true := by
      intro utf8
      apply valid
      intro d member
      exact ((prints d).mp (List.all_eq_true.mp utf8 d member)).2
    have thrown : (dumpArgs env destinations).run s = .error Json.invalidUtf8 s := by
      rw [dumpArgs, if_neg invalid]
      rfl
    exact ⟨what, _, dumped, thrown⟩

/-- A destination that is not valid UTF-8 fails both. -/
theorem dumpArgs_exact_invalid : ∃ what what',
    (destinationArgs ["\xff:1"]).dump false oneAndHalf = .error (.json "type_error" 316 what) ∧
      (dumpArgs printingDevice ["\xff:1"]).run poseSession.sys =
        .error (.json "type_error" 316 what') poseSession.sys := by
  have narrow : ∀ d ∈ ["\xff:1"], Narrow d.toList := by
    intro d member
    rw [List.mem_singleton.mp member]
    exact narrow_of_all (by decide)
  rcases dumpArgs_exact printingDevice_prints narrow false oneAndHalf poseSession.sys with
    ⟨text, _, _, returned⟩ | failed
  · have invalid : ¬["\xff:1"].all printingDevice.utf8 = true := by decide
    rw [dumpArgs, if_neg invalid] at returned
    cases returned
  · exact failed

end Calls

end RcDynamics
