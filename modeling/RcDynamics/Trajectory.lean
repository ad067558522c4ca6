import RcDynamics.Json

/-!
# Trajectories and frames

Time specifications of a trajectory query, the arguments they are sent as, and the decoders of
the answers. The decoders differ in how they look up a member: the trajectory is read through
the const `operator[]`, the frame through `at`. The message classes that they fill are generated
from definitions of another repository, so the types of the numbers in them are a parameter.
-/

namespace RcDynamics

/-- `class TrajectoryTime`; `long` has 64 bits. -/
structure TrajectoryTime where
  relative : Bool
  sec : BitVec 64
  nsec : BitVec 64
deriving DecidableEq, Repr

namespace TrajectoryTime

/-- The constructor. -/
def construct (sec nsec : BitVec 64) (relative : Bool) : Except Exn TrajectoryTime :=
  if !relative && (decide (sec.toInt < 0) || decide (nsec.toInt < 0)) then
    .error (.invalidArgument
      "Negative values for sec or nsec are only allowed for relative time specification!")
  else .ok ⟨relative, sec, nsec⟩

/-- `TrajectoryTime::Absolute`. -/
def absolute (sec nsec : BitVec 64) : Except Exn TrajectoryTime := construct sec nsec false

/-- `TrajectoryTime::RelativeToStart`. -/
def relativeToStart (sec nsec : BitVec 64) : Except Exn TrajectoryTime := construct sec nsec true

/-- `TrajectoryTime::RelativeToEnd`. -/
def relativeToEnd (sec nsec : BitVec 64) : Except Exn TrajectoryTime :=
  construct (-sec) (-nsec) true

/-- The JSON object of a time. -/
def json (time : TrajectoryTime) : Json :=
  .object [("nsec", .integer time.nsec.toInt), ("sec", .integer time.sec.toInt)]

end TrajectoryTime

/-- `js_args` of `getSlamTrajectory`; the flags are present only for relative times. -/
def trajectoryArgs (start stop : TrajectoryTime) : Json :=
  let flag (name : String) (time : TrajectoryTime) : List (String × Json) :=
    if time.relative then [(name, .boolean true)] else []
  .object [("args", .object
    ([("end_time", stop.json)] ++ flag "end_time_relative" stop ++
      [("start_time", start.json)] ++ flag "start_time_relative" start))]

/-- The setters of numbers in the generated message classes, by the name of the field: a value is
converted to the type of the argument, which throws or gives the number that the field then
holds. -/
structure Setters where
  /-- `mutable_timestamp()->set_…` -/
  timestamp : String → Json → Except Exn Number
  /-- `mutable_position()->set_…` -/
  position : String → Json → Except Exn Number
  /-- `mutable_orientation()->set_…` -/
  orientation : String → Json → Except Exn Number

/-- A time stamp, as far as the decoders set it. -/
structure Time where
  sec : Number
  nsec : Number
deriving DecidableEq, Repr

/-- A position, as far as the decoders set it. -/
structure Position where
  x : Number
  y : Number
  z : Number
deriving DecidableEq, Repr

/-- An orientation, as far as the decoders set it. -/
structure Orientation where
  x : Number
  y : Number
  z : Number
  w : Number
deriving DecidableEq, Repr

/-- A pose with its time stamp. -/
structure PoseStamped where
  timestamp : Time
  position : Position
  orientation : Orientation
deriving DecidableEq, Repr

/-- `roboception::msgs::Trajectory`, as far as it is set; an absent member is not. -/
structure Trajectory where
  parent : Option String
  name : Option String
  producer : Option String
  timestamp : Option Time
  poses : List PoseStamped
deriving DecidableEq, Repr

/-- `roboception::msgs::Frame`, as far as it is set. -/
structure Frame where
  parent : String
  name : String
  producer : Option String
  pose : PoseStamped
deriving DecidableEq, Repr

/-- Follow keys with one kind of lookup. -/
def followWith (lookup : Json → String → Except Exn Json) (j : Json) (keys : List String) :
    Except Exn Json :=
  keys.foldlM lookup j

/-- An optional member, decoded when it is found. -/
def optionalMember {α : Type} (js : Json) (key : String) (decode : Json → Except Exn α) :
    Except Exn (Option α) :=
  match js.find? key with
  | none => .ok none
  | some value => (decode value).map some

/-- A number at the end of keys, by one kind of lookup, as a setter takes it. -/
def decodeNumber (set : Json → Except Exn Number) (lookup : Json → String → Except Exn Json)
    (js : Json) (keys : List String) : Except Exn Number := do
  set (← followWith lookup js keys)

section Decoders

variable (setters : Setters)

/-- The time at a member, by one kind of lookup. -/
def decodeTime (lookup : Json → String → Except Exn Json) (js : Json) : Except Exn Time := do
  let sec ← setters.timestamp "sec" (← lookup js "sec")
  let nsec ← setters.timestamp "nsec" (← lookup js "nsec")
  return ⟨sec, nsec⟩

/-- One pose of `toProtobufTrajectory`. -/
def toProtobufPose (jsPose : Json) : Except Exn PoseStamped := do
  let time key :=
    decodeNumber (setters.timestamp key) Json.constIndex jsPose ["timestamp", key]
  let position key :=
    decodeNumber (setters.position key) Json.constIndex jsPose ["pose", "position", key]
  let orientation key :=
    decodeNumber (setters.orientation key) Json.constIndex jsPose ["pose", "orientation", key]
  let sec ← time "sec"
  let nsec ← time "nsec"
  let x ← position "x"
  let y ← position "y"
  let z ← position "z"
  let ox ← orientation "x"
  let oy ← orientation "y"
  let oz ← orientation "z"
  let ow ← orientation "w"
  return ⟨⟨sec, nsec⟩, ⟨x, y, z⟩, ⟨ox, oy, oz, ow⟩⟩

/-- `toProtobufTrajectory`. -/
def toProtobufTrajectory (js : Json) : Except Exn Trajectory := do
  let parent ← optionalMember js "parent" Json.getString
  let name ← optionalMember js "name" Json.getString
  let producer ← optionalMember js "producer" Json.getString
  let timestamp ← optionalMember js "timestamp" (decodeTime setters Json.constIndex)
  let poses ← (← js.constIndex "poses").elements.mapM (toProtobufPose setters)
  return ⟨parent, name, producer, timestamp, poses⟩

/-- `toProtobufFrame`. -/
def toProtobufFrame (js : Json) (producerOptional : Bool) : Except Exn Frame := do
  let parent ← (← js.at' "parent").getString
  let name ← (← js.at' "name").getString
  let producer ← if !producerOptional || (js.find? "producer").isSome then
      (← js.at' "producer").getString.map some
    else .ok none
  let jsPose ← js.at' "pose"
  let timestamp ← decodeTime setters Json.at' (← jsPose.at' "timestamp")
  let jsPosePose ← jsPose.at' "pose"
  let position key :=
    decodeNumber (setters.position key) Json.at' jsPosePose ["position", key]
  let orientation key :=
    decodeNumber (setters.orientation key) Json.at' jsPosePose ["orientation", key]
  let x ← position "x"
  let y ← position "y"
  let z ← position "z"
  let ow ← orientation "w"
  let ox ← orientation "x"
  let oy ← orientation "y"
  let oz ← orientation "z"
  return ⟨parent, name, producer, ⟨timestamp, ⟨x, y, z⟩, ⟨ox, oy, oz, ow⟩⟩⟩

end Decoders

end RcDynamics
