import Mathlib.Tactic.MkIffOfInductiveProp
import RcDynamics.Initialisation
import RcDynamics.Reads
import RcDynamics.Session

/-!
# Decoders of answers

What the answers for a trajectory, for a frame and for the list of streams contain, the reads that
their decoders make, in their order, and that each decoder ends as its reads say. The decoders of
trajectories and streams look keys up with the const `operator[]`, so they are undefined for some
documents that the decoder of frames, which uses `at`, refuses.
-/

namespace RcDynamics

open Checked

/-- An optional member is decoded when it is present. -/
def OptionalOf {α : Type} (content : Json → α → Prop) (js : Json) (key : String) :
    Option α → Prop
  | none => js.find? key = none
  | some a => ∃ value, js.find? key = some value ∧ content value a

/-- A time is the one in a document. -/
@[mk_iff timeOf_iff]
structure TimeOf (j : Json) (time : Time) : Prop where
  sec : j.numberAt ["sec"] = some time.sec
  nsec : j.numberAt ["nsec"] = some time.nsec

/-- A pose is the one in a document. -/
@[mk_iff poseOf_iff]
structure PoseOf (j : Json) (pose : PoseStamped) : Prop where
  sec : j.numberAt ["timestamp", "sec"] = some pose.timestamp.sec
  nsec : j.numberAt ["timestamp", "nsec"] = some pose.timestamp.nsec
  positionX : j.numberAt ["pose", "position", "x"] = some pose.position.x
  positionY : j.numberAt ["pose", "position", "y"] = some pose.position.y
  positionZ : j.numberAt ["pose", "position", "z"] = some pose.position.z
  orientationX : j.numberAt ["pose", "orientation", "x"] = some pose.orientation.x
  orientationY : j.numberAt ["pose", "orientation", "y"] = some pose.orientation.y
  orientationZ : j.numberAt ["pose", "orientation", "z"] = some pose.orientation.z
  orientationW : j.numberAt ["pose", "orientation", "w"] = some pose.orientation.w

/-- A trajectory is the one in a document: its members where they are present, and its poses, all
of them in their order. -/
@[mk_iff trajectoryOf_iff]
structure TrajectoryOf (js : Json) (trajectory : Trajectory) : Prop where
  parent : OptionalOf (fun value text => value = .string text) js "parent" trajectory.parent
  name : OptionalOf (fun value text => value = .string text) js "name" trajectory.name
  producer : OptionalOf (fun value text => value = .string text) js "producer" trajectory.producer
  timestamp : OptionalOf TimeOf js "timestamp" trajectory.timestamp
  poses : ∃ list, js.follow ["poses"] = .found list ∧
    List.Forall₂ PoseOf list.elements trajectory.poses

/-- A frame is the one in a document. -/
structure FrameOf (js : Json) (producerOptional : Bool) (frame : Frame) : Prop where
  parent : js.stringAt ["parent"] = some frame.parent
  name : js.stringAt ["name"] = some frame.name
  producer : OptionalOf (fun value text => value = .string text) js "producer" frame.producer
  required : producerOptional = false → frame.producer.isSome
  pose : ∃ value, js.follow ["pose"] = .found value ∧ PoseOf value frame.pose

/-- A name and a message type are those of a stream in a document. -/
structure EntryOf (stream : Json) (entry : String × String) : Prop where
  name : stream.stringAt ["name"] = some entry.1
  protobuf : stream.stringAt ["protobuf"] = some entry.2

section Reads

variable (setters : Setters)

/-- The reads of a time. -/
def timeReads (j : Json) : List Read :=
  [⟨j.follow ["sec"], .set (setters.timestamp "sec")⟩,
    ⟨j.follow ["nsec"], .set (setters.timestamp "nsec")⟩]

/-- The reads of a pose. -/
def poseReads (j : Json) : List Read :=
  [⟨j.follow ["timestamp", "sec"], .set (setters.timestamp "sec")⟩,
    ⟨j.follow ["timestamp", "nsec"], .set (setters.timestamp "nsec")⟩,
    ⟨j.follow ["pose", "position", "x"], .set (setters.position "x")⟩,
    ⟨j.follow ["pose", "position", "y"], .set (setters.position "y")⟩,
    ⟨j.follow ["pose", "position", "z"], .set (setters.position "z")⟩,
    ⟨j.follow ["pose", "orientation", "x"], .set (setters.orientation "x")⟩,
    ⟨j.follow ["pose", "orientation", "y"], .set (setters.orientation "y")⟩,
    ⟨j.follow ["pose", "orientation", "z"], .set (setters.orientation "z")⟩,
    ⟨j.follow ["pose", "orientation", "w"], .set (setters.orientation "w")⟩]

/-- The reads of an optional member. -/
def optionalReads (reads : Json → List Read) (js : Json) (key : String) : List Read :=
  ((js.find? key).map reads).getD []

/-- The reads of what a place has. -/
def Lookup.reads (reads : Json → List Read) (place : Lookup) : List Read :=
  (place.value?.map reads).getD []

/-- A value that is there is read. -/
theorem Lookup.reads_found (reads : Json → List Read) (value : Json) :
    (Lookup.found value).reads reads = reads value := rfl

/-- The read of a value as a string. -/
def stringReads (value : Json) : List Read := [⟨.found value, .string⟩]

/-- The reads of `toProtobufTrajectory`. -/
def trajectoryReads (js : Json) : List Read :=
  optionalReads stringReads js "parent" ++ (optionalReads stringReads js "name" ++
    (optionalReads stringReads js "producer" ++ (optionalReads (timeReads setters) js "timestamp" ++
      (⟨js.follow ["poses"], .any⟩ ::
        (js.follow ["poses"]).reads fun list => list.elements.flatMap (poseReads setters)))))

/-- The reads of the coordinates in a frame. -/
def coordinateReads (j : Json) : List Read :=
  [⟨j.follow ["position", "x"], .set (setters.position "x")⟩,
    ⟨j.follow ["position", "y"], .set (setters.position "y")⟩,
    ⟨j.follow ["position", "z"], .set (setters.position "z")⟩,
    ⟨j.follow ["orientation", "w"], .set (setters.orientation "w")⟩,
    ⟨j.follow ["orientation", "x"], .set (setters.orientation "x")⟩,
    ⟨j.follow ["orientation", "y"], .set (setters.orientation "y")⟩,
    ⟨j.follow ["orientation", "z"], .set (setters.orientation "z")⟩]

/-- The reads of the pose in a frame. -/
def framePoseReads (j : Json) : List Read :=
  ⟨j.follow ["timestamp"], .any⟩ :: ((j.follow ["timestamp"]).reads (timeReads setters) ++
    (⟨j.follow ["pose"], .any⟩ :: (j.follow ["pose"]).reads (coordinateReads setters)))

/-- The reads of the producer of a frame. -/
def producerReads (js : Json) (producerOptional : Bool) : List Read :=
  if !producerOptional || (js.find? "producer").isSome then
    [⟨js.follow ["producer"], .string⟩]
  else []

/-- The reads of `toProtobufFrame`. -/
def frameReads (js : Json) (producerOptional : Bool) : List Read :=
  ⟨js.follow ["parent"], .string⟩ :: ⟨js.follow ["name"], .string⟩ ::
    (producerReads js producerOptional ++
      (⟨js.follow ["pose"], .any⟩ :: (js.follow ["pose"]).reads (framePoseReads setters)))

/-- The reads of an entry of the list of streams. -/
def entryReads (stream : Json) : List Read :=
  [⟨stream.follow ["name"], .string⟩, ⟨stream.follow ["protobuf"], .string⟩]

/-- The reads of the list of streams. -/
def streamReads (j : Json) : List Read := j.elements.flatMap entryReads

end Reads

/-- What the setters throw are exceptions of the JSON library, as those of its conversions are. -/
structure Setters.Lawful (setters : Setters) : Prop where
  timestamp : ∀ field, ThrowsJson (setters.timestamp field)
  position : ∀ field, ThrowsJson (setters.position field)
  orientation : ∀ field, ThrowsJson (setters.orientation field)

section Trajectory

variable {setters : Setters}

/-- One key is a path. -/
theorem look_eq_path (look : Json → String → Except Exn Json) (j : Json) (key : String) :
    look j key = [key].foldlM look j := by
  rw [List.foldlM_cons]
  exact (bind_pure (look j key)).symm

/-- A time is decoded by its reads. -/
theorem decodeTime_follows {look : Json → String → Except Exn Json} {safe : Bool}
    (lawful : setters.Lawful) (looks : Looks look safe) (j : Json) :
    Follows Read.fits (Read.Fault safe) (timeReads setters j) (decodeTime setters look j) := by
  unfold decodeTime
  simp only [look_eq_path look]
  refine Follows.cons_bind (looks.follows_set (lawful.timestamp _) j ["sec"]) fun sec _ => ?_
  refine Follows.cons_bind (looks.follows_set (lawful.timestamp _) j ["nsec"]) fun nsec _ => ?_
  exact Follows.pure _

/-- A time that has been decoded is the one in the document exactly when its reads keep their
values. -/
theorem timeOf_iff_exact {look : Json → String → Except Exn Json} {safe : Bool}
    (looks : Looks look safe) {j : Json} {time : Time}
    (decoded : decodeTime setters look j = .ok time) :
    TimeOf j time ↔ ∀ read ∈ timeReads setters j, read.Exact := by
  unfold decodeTime at decoded
  simp only [look_eq_path look] at decoded
  obtain ⟨sec, secEq, rest⟩ := bind_bind_eq_ok.mp decoded
  obtain ⟨nsec, nsecEq, rest⟩ := bind_bind_eq_ok.mp rest
  cases rest
  simp only [timeReads, List.forall_mem_cons, timeOf_iff, looks.set_exact_iff secEq,
    looks.set_exact_iff nsecEq, List.not_mem_nil, false_imp_iff, implies_true, and_true]

/-- A string is decoded by its read. -/
theorem getString_follows (safe : Bool) (value : Json) :
    Follows Read.fits (Read.Fault safe) (stringReads value) value.getString := by
  cases safe with
  | false => exact constIndex_looks.follows_string value []
  | true => exact at_looks.follows_string value []

/-- A string that has been decoded is the one in the document. -/
theorem string_iff_exact {value : Json} {text : String} (decoded : value.getString = .ok text) :
    value = .string text ↔ ∀ read ∈ stringReads value, read.Exact := by
  cases value <;> cases decoded
  simp [stringReads, Read.Exact, Kind.Keeps, Json.string?]

/-- An optional member is decoded by its reads. -/
theorem optionalMember_follows {α : Type} {safe : Bool} {decode : Json → Except Exn α}
    {reads : Json → List Read}
    (each : ∀ value, Follows Read.fits (Read.Fault safe) (reads value) (decode value)) (js : Json)
    (key : String) :
    Follows Read.fits (Read.Fault safe) (optionalReads reads js key)
      (optionalMember js key decode) := by
  unfold optionalMember optionalReads
  cases js.find? key with
  | none => exact Follows.pure none
  | some value => exact (each value).map some

/-- An optional member that has been decoded is the one in the document exactly when its reads keep
their values. -/
theorem optionalOf_iff_exact {α : Type} {decode : Json → Except Exn α} {reads : Json → List Read}
    {content : Json → α → Prop}
    (each : ∀ value a, decode value = .ok a →
      (content value a ↔ ∀ read ∈ reads value, read.Exact))
    {js : Json} {key : String} {member : Option α}
    (decoded : optionalMember js key decode = .ok member) :
    OptionalOf content js key member ↔ ∀ read ∈ optionalReads reads js key, read.Exact := by
  unfold optionalMember at decoded
  unfold optionalReads
  cases present : js.find? key with
  | none =>
    rw [present] at decoded
    cases decoded
    exact iff_of_true present fun read member => absurd member List.not_mem_nil
  | some value =>
    simp only [present] at decoded
    cases ran : decode value with
    | error e =>
      rw [ran] at decoded
      cases decoded
    | ok a =>
      rw [ran] at decoded
      cases decoded
      rw [Option.map_some, Option.getD_some, ← each value a ran]
      constructor
      · rintro ⟨other, same, is⟩
        rw [present] at same
        cases same
        exact is
      · exact fun is => ⟨value, present, is⟩

/-- A pose is decoded by its reads. -/
theorem toProtobufPose_follows (lawful : setters.Lawful) (j : Json) :
    Follows Read.fits (Read.Fault false) (poseReads setters j) (toProtobufPose setters j) := by
  have looks := constIndex_looks
  unfold toProtobufPose
  have time := fun key => looks.follows_set (lawful.timestamp key) j ["timestamp", key]
  have position := fun key => looks.follows_set (lawful.position key) j ["pose", "position", key]
  have orientation := fun key =>
    looks.follows_set (lawful.orientation key) j ["pose", "orientation", key]
  refine (time "sec").cons fun sec _ => ?_
  refine (time "nsec").cons fun nsec _ => ?_
  refine (position "x").cons fun x _ => ?_
  refine (position "y").cons fun y _ => ?_
  refine (position "z").cons fun z _ => ?_
  refine (orientation "x").cons fun ox _ => ?_
  refine (orientation "y").cons fun oy _ => ?_
  refine (orientation "z").cons fun oz _ => ?_
  refine (orientation "w").cons fun ow _ => ?_
  exact Follows.pure _

/-- A pose that has been decoded is the one in the document exactly when its reads keep their
values. -/
theorem poseOf_iff_exact {j : Json} {pose : PoseStamped}
    (decoded : toProtobufPose setters j = .ok pose) :
    PoseOf j pose ↔ ∀ read ∈ poseReads setters j, read.Exact := by
  have looks := constIndex_looks
  unfold toProtobufPose at decoded
  obtain ⟨sec, secEq, rest⟩ := bind_eq_ok.mp decoded
  obtain ⟨nsec, nsecEq, rest⟩ := bind_eq_ok.mp rest
  obtain ⟨x, xEq, rest⟩ := bind_eq_ok.mp rest
  obtain ⟨y, yEq, rest⟩ := bind_eq_ok.mp rest
  obtain ⟨z, zEq, rest⟩ := bind_eq_ok.mp rest
  obtain ⟨ox, oxEq, rest⟩ := bind_eq_ok.mp rest
  obtain ⟨oy, oyEq, rest⟩ := bind_eq_ok.mp rest
  obtain ⟨oz, ozEq, rest⟩ := bind_eq_ok.mp rest
  obtain ⟨ow, owEq, rest⟩ := bind_eq_ok.mp rest
  cases rest
  simp only [poseReads, List.forall_mem_cons, poseOf_iff, looks.set_exact_iff secEq,
    looks.set_exact_iff nsecEq, looks.set_exact_iff xEq, looks.set_exact_iff yEq,
    looks.set_exact_iff zEq, looks.set_exact_iff oxEq, looks.set_exact_iff oyEq,
    looks.set_exact_iff ozEq, looks.set_exact_iff owEq, List.not_mem_nil, false_imp_iff, implies_true, and_true]

/-- The poses are decoded by their reads. -/
theorem poses_follows (lawful : setters.Lawful) (js : Json) :
    Follows Read.fits (Read.Fault false)
      (⟨js.follow ["poses"], .any⟩ ::
        (js.follow ["poses"]).reads fun list => list.elements.flatMap (poseReads setters))
      (do (← js.constIndex "poses").elements.mapM (toProtobufPose setters)) := by
  rw [look_eq_path Json.constIndex]
  refine (constIndex_looks.follows_any js ["poses"]).cons fun list found => ?_
  rw [constIndex_looks.found_of_ok found]
  exact Follows.mapM fun pose _ => toProtobufPose_follows lawful pose

/-- A trajectory is decoded by its reads. -/
theorem toProtobufTrajectory_follows (lawful : setters.Lawful) (js : Json) :
    Follows Read.fits (Read.Fault false) (trajectoryReads setters js)
      (toProtobufTrajectory setters js) := by
  unfold toProtobufTrajectory trajectoryReads
  refine (optionalMember_follows (getString_follows false) js "parent").bind fun parent _ => ?_
  refine (optionalMember_follows (getString_follows false) js "name").bind fun name _ => ?_
  refine (optionalMember_follows (getString_follows false) js "producer").bind
    fun producer _ => ?_
  refine (optionalMember_follows (decodeTime_follows lawful constIndex_looks) js "timestamp").bind
    fun timestamp _ => ?_
  have last := (poses_follows lawful js).bind_ok fun poses =>
    (⟨parent, name, producer, timestamp, poses⟩ : Trajectory)
  rw [bind_assoc] at last
  exact last

/-- A trajectory that has been decoded is the one in the document exactly when its reads keep their
values. -/
theorem trajectoryOf_iff_exact {js : Json} {trajectory : Trajectory}
    (decoded : toProtobufTrajectory setters js = .ok trajectory) :
    TrajectoryOf js trajectory ↔ ∀ read ∈ trajectoryReads setters js, read.Exact := by
  unfold toProtobufTrajectory at decoded
  obtain ⟨parent, parentEq, rest⟩ := bind_eq_ok.mp decoded
  obtain ⟨name, nameEq, rest⟩ := bind_eq_ok.mp rest
  obtain ⟨producer, producerEq, rest⟩ := bind_eq_ok.mp rest
  obtain ⟨timestamp, timestampEq, rest⟩ := bind_eq_ok.mp rest
  rw [look_eq_path Json.constIndex] at rest
  obtain ⟨list, listEq, rest⟩ := bind_eq_ok.mp rest
  obtain ⟨poses, posesEq, rest⟩ := bind_eq_ok.mp rest
  cases rest
  have place := constIndex_looks.found_of_ok listEq
  have each (pose : Json) (decoded : PoseStamped) :
      toProtobufPose setters pose = .ok decoded →
        (PoseOf pose decoded ↔ ∀ read ∈ poseReads setters pose, read.Exact) := poseOf_iff_exact
  have listed : (∃ found, js.follow ["poses"] = .found found ∧
      List.Forall₂ PoseOf found.elements poses) ↔
        ∀ read ∈ list.elements.flatMap (poseReads setters), read.Exact := by
    rw [← forall₂_iff_flatMap (forall₂_of_mapM posesEq) each, place]
    constructor
    · rintro ⟨_, ⟨⟩, is⟩
      exact is
    · exact fun is => ⟨list, rfl, is⟩
  have looked : Read.Exact ⟨js.follow ["poses"], .any⟩ := ⟨list, place, trivial⟩
  rw [trajectoryOf_iff, listed,
    optionalOf_iff_exact (fun _ _ => string_iff_exact) parentEq,
    optionalOf_iff_exact (fun _ _ => string_iff_exact) nameEq,
    optionalOf_iff_exact (fun _ _ => string_iff_exact) producerEq,
    optionalOf_iff_exact (fun _ _ => timeOf_iff_exact constIndex_looks) timestampEq]
  simp only [trajectoryReads, List.forall_mem_append, List.forall_mem_cons, looked, true_and]
  rw [place]
  rfl

end Trajectory

section Frame

variable {setters : Setters}

/-- The producer of a frame, as `toProtobufFrame` decodes it. -/
def decodeProducer (js : Json) (producerOptional : Bool) : Except Exn (Option String) := do
  if !producerOptional || (js.find? "producer").isSome then
    (← js.at' "producer").getString.map some
  else .ok none

/-- The pose of a frame, as `toProtobufFrame` decodes it. -/
def decodeFramePose (setters : Setters) (jsPose : Json) : Except Exn PoseStamped := do
  let timestamp ← decodeTime setters Json.at' (← jsPose.at' "timestamp")
  let jsPosePose ← jsPose.at' "pose"
  let position key :=
    decodeNumber (setters.position key) Json.at' jsPosePose ["position", key]
  let orientation key :=
    decodeNumber (setters.orientation key) Json.at' jsPosePose ["orientation", key]
  let x ← position "x"
  let y ← position "y"
  let z ← position "z"
  let ow ← orientation "w"
  let ox ← orientation "x"
  let oy ← orientation "y"
  let oz ← orientation "z"
  return ⟨timestamp, ⟨x, y, z⟩, ⟨ox, oy, oz, ow⟩⟩

/-- `toProtobufFrame` in its parts. -/
theorem toProtobufFrame_eq (setters : Setters) (js : Json) (producerOptional : Bool) :
    toProtobufFrame setters js producerOptional = (do
      let parent ← (← js.at' "parent").getString
      let name ← (← js.at' "name").getString
      let producer ← decodeProducer js producerOptional
      let jsPose ← js.at' "pose"
      let pose ← decodeFramePose setters jsPose
      return ⟨parent, name, producer, pose⟩) := by
  unfold toProtobufFrame decodeProducer decodeFramePose
  split_ifs <;> simp only [bind_assoc, pure_bind]

/-- A producer is decoded by its read, if it is required or present. -/
theorem decodeProducer_follows (js : Json) (producerOptional : Bool) :
    Follows Read.fits (Read.Fault true) (producerReads js producerOptional)
      (decodeProducer js producerOptional) := by
  unfold decodeProducer producerReads
  split
  · have read := (at_looks.follows_string js ["producer"]).map some
    rw [look_eq_path Json.at']
    cases looked : ["producer"].foldlM Json.at' js with
    | ok value =>
      rw [looked] at read
      exact read
    | error e =>
      rw [looked] at read
      exact read
  · exact Follows.pure none

/-- The pose of a frame is decoded by its reads. -/
theorem decodeFramePose_follows (lawful : setters.Lawful) (jsPose : Json) :
    Follows Read.fits (Read.Fault true) (framePoseReads setters jsPose)
      (decodeFramePose setters jsPose) := by
  have looks := at_looks
  unfold decodeFramePose framePoseReads
  simp only [look_eq_path Json.at']
  refine (looks.follows_any jsPose ["timestamp"]).cons fun stamp found => ?_
  rw [looks.found_of_ok found]
  refine (decodeTime_follows lawful looks stamp).bind fun timestamp _ => ?_
  refine (looks.follows_any jsPose ["pose"]).cons fun pose found => ?_
  rw [looks.found_of_ok found]
  have position := fun key => looks.follows_set (lawful.position key) pose ["position", key]
  have orientation := fun key =>
    looks.follows_set (lawful.orientation key) pose ["orientation", key]
  refine (position "x").cons fun x _ => ?_
  refine (position "y").cons fun y _ => ?_
  refine (position "z").cons fun z _ => ?_
  refine (orientation "w").cons fun ow _ => ?_
  refine (orientation "x").cons fun ox _ => ?_
  refine (orientation "y").cons fun oy _ => ?_
  refine (orientation "z").cons fun oz _ => ?_
  exact Follows.pure _

/-- A frame is decoded by its reads. -/
theorem toProtobufFrame_follows (lawful : setters.Lawful) (js : Json) (producerOptional : Bool) :
    Follows Read.fits (Read.Fault true) (frameReads setters js producerOptional)
      (toProtobufFrame setters js producerOptional) := by
  have looks := at_looks
  rw [toProtobufFrame_eq]
  unfold frameReads
  simp only [look_eq_path Json.at']
  refine Follows.cons_bind (looks.follows_string js ["parent"]) fun parent _ => ?_
  refine Follows.cons_bind (looks.follows_string js ["name"]) fun name _ => ?_
  refine (decodeProducer_follows js producerOptional).bind fun producer _ => ?_
  refine (looks.follows_any js ["pose"]).cons fun jsPose found => ?_
  rw [looks.found_of_ok found]
  exact (decodeFramePose_follows lawful jsPose).bind_ok fun pose =>
    (⟨parent, name, producer, pose⟩ : Frame)

/-- A pose of a frame that has been decoded is the one in the document exactly when its reads keep
their values. -/
theorem framePose_iff_exact {jsPose : Json} {pose : PoseStamped}
    (decoded : decodeFramePose setters jsPose = .ok pose) :
    PoseOf jsPose pose ↔ ∀ read ∈ framePoseReads setters jsPose, read.Exact := by
  have looks := at_looks
  unfold decodeFramePose at decoded
  simp only [look_eq_path Json.at'] at decoded
  obtain ⟨stamp, stampEq, rest⟩ := bind_eq_ok.mp decoded
  obtain ⟨timestamp, timestampEq, rest⟩ := bind_eq_ok.mp rest
  obtain ⟨value, valueEq, rest⟩ := bind_eq_ok.mp rest
  obtain ⟨x, xEq, rest⟩ := bind_eq_ok.mp rest
  obtain ⟨y, yEq, rest⟩ := bind_eq_ok.mp rest
  obtain ⟨z, zEq, rest⟩ := bind_eq_ok.mp rest
  obtain ⟨ow, owEq, rest⟩ := bind_eq_ok.mp rest
  obtain ⟨ox, oxEq, rest⟩ := bind_eq_ok.mp rest
  obtain ⟨oy, oyEq, rest⟩ := bind_eq_ok.mp rest
  obtain ⟨oz, ozEq, rest⟩ := bind_eq_ok.mp rest
  cases rest
  have stampPlace := looks.found_of_ok stampEq
  have valuePlace := looks.found_of_ok valueEq
  have stamped (key : String) : jsPose.numberAt ["timestamp", key] = stamp.numberAt [key] :=
    Json.numberAt_append [key] stampPlace
  have placed (part key : String) :
      jsPose.numberAt ["pose", part, key] = value.numberAt [part, key] :=
    Json.numberAt_append [part, key] valuePlace
  have timed := timeOf_iff_exact looks timestampEq
  rw [timeOf_iff] at timed
  simp only [poseOf_iff, stamped, placed, ← and_assoc, timed]
  simp only [framePoseReads, stampPlace, valuePlace, Lookup.reads_found, List.forall_mem_cons,
    List.forall_mem_append, Read.exact_any, coordinateReads, looks.set_exact_iff xEq,
    looks.set_exact_iff yEq, looks.set_exact_iff zEq, looks.set_exact_iff owEq,
    looks.set_exact_iff oxEq, looks.set_exact_iff oyEq, looks.set_exact_iff ozEq,
    List.not_mem_nil, false_imp_iff, implies_true, and_true, true_and]
  constructor
  · rintro ⟨⟨⟨⟨⟨⟨⟨time, x⟩, y⟩, z⟩, ox⟩, oy⟩, oz⟩, ow⟩
    exact ⟨time, x, y, z, ow, ox, oy, oz⟩
  · rintro ⟨time, x, y, z, ow, ox, oy, oz⟩
    exact ⟨⟨⟨⟨⟨⟨⟨time, x⟩, y⟩, z⟩, ox⟩, oy⟩, oz⟩, ow⟩

/-- A producer that has been decoded is the one in the document, and its read keeps it. -/
theorem producer_exact {js : Json} {producerOptional : Bool} {producer : Option String}
    (decoded : decodeProducer js producerOptional = .ok producer) :
    OptionalOf (fun value text => value = .string text) js "producer" producer ∧
      (producerOptional = false → producer.isSome) ∧
      ∀ read ∈ producerReads js producerOptional, read.Exact := by
  unfold decodeProducer at decoded
  unfold producerReads
  rw [look_eq_path Json.at'] at decoded
  split_ifs at decoded ⊢ with read
  · obtain ⟨value, looked, mapped⟩ := bind_eq_ok.mp decoded
    have place := at_looks.found_of_ok looked
    cases value <;> cases mapped
    refine ⟨⟨_, Json.find?_of_follow place, rfl⟩, fun _ => rfl, fun other member => ?_⟩
    rw [List.mem_singleton.mp member]
    exact ⟨_, place, rfl⟩
  · cases decoded
    simp only [Bool.or_eq_true, Bool.not_eq_true', not_or, Bool.not_eq_false,
      Option.not_isSome_iff_eq_none] at read
    refine ⟨read.2, fun required => ?_, fun other member => absurd member List.not_mem_nil⟩
    rw [read.1] at required
    cases required

/-- A frame that has been decoded is the one in the document exactly when its reads keep their
values. -/
theorem frameOf_iff_exact {js : Json} {producerOptional : Bool} {frame : Frame}
    (decoded : toProtobufFrame setters js producerOptional = .ok frame) :
    FrameOf js producerOptional frame ↔
      ∀ read ∈ frameReads setters js producerOptional, read.Exact := by
  have looks := at_looks
  rw [toProtobufFrame_eq] at decoded
  simp only [look_eq_path Json.at'] at decoded
  obtain ⟨parent, parentEq, rest⟩ := bind_bind_eq_ok.mp decoded
  obtain ⟨name, nameEq, rest⟩ := bind_bind_eq_ok.mp rest
  obtain ⟨producer, producerEq, rest⟩ := bind_eq_ok.mp rest
  obtain ⟨jsPose, jsPoseEq, rest⟩ := bind_eq_ok.mp rest
  obtain ⟨pose, poseEq, rest⟩ := bind_eq_ok.mp rest
  cases rest
  have place := looks.found_of_ok jsPoseEq
  obtain ⟨parentExact, parentIs⟩ := looks.string_exact parentEq
  obtain ⟨nameExact, nameIs⟩ := looks.string_exact nameEq
  obtain ⟨producerIs, required, producerExact⟩ := producer_exact producerEq
  have posed := framePose_iff_exact poseEq
  simp only [frameReads, List.forall_mem_cons, List.forall_mem_append, parentExact, nameExact,
    place, Read.exact_any, Lookup.reads_found, ← posed, true_and]
  constructor
  · rintro ⟨_, _, _, _, found, same, is⟩
    rw [place] at same
    cases same
    exact ⟨producerExact, is⟩
  · rintro ⟨_, is⟩
    exact ⟨parentIs, nameIs, producerIs, required, jsPose, place, is⟩

end Frame

section Streams

open Effect RemoteInterface

/-- An entry of the list of streams is decoded by its reads. -/
theorem streamEntry_follows (stream : Json) :
    Follows Read.fits (Read.Fault false) (entryReads stream) (streamEntry stream) := by
  have looks := constIndex_looks
  unfold streamEntry streamMember
  simp only [look_eq_path Json.constIndex]
  refine (looks.follows_string stream ["name"]).cons fun name _ => ?_
  refine (looks.follows_string stream ["protobuf"]).cons fun protobuf _ => ?_
  exact Follows.pure _

/-- An entry that has been decoded is the one in the document, and its reads keep it. -/
theorem streamEntry_exact {stream : Json} {entry : String × String}
    (decoded : streamEntry stream = .ok entry) :
    EntryOf stream entry ∧ ∀ read ∈ entryReads stream, read.Exact := by
  have looks := constIndex_looks
  unfold streamEntry streamMember at decoded
  simp only [look_eq_path Json.constIndex] at decoded
  obtain ⟨name, nameEq, rest⟩ := bind_eq_ok.mp decoded
  obtain ⟨protobuf, protobufEq, rest⟩ := bind_eq_ok.mp rest
  cases rest
  obtain ⟨nameExact, nameIs⟩ := looks.string_exact nameEq
  obtain ⟨protobufExact, protobufIs⟩ := looks.string_exact protobufEq
  exact ⟨⟨nameIs, protobufIs⟩, by simp [entryReads, nameExact, protobufExact]⟩

/-- An allocation fails only with its own exception. -/
theorem allocate_error {env : Env} {e : Exn} {s t : Sys}
    (failed : (allocate env).run s = .error e t) : e = .badAlloc ∧ ∃ n, env.fault n = true := by
  unfold allocate at failed
  rw [run_bind_of_ok (run_tick s)] at failed
  split at failed
  · cases failed
    exact ⟨rfl, _, ‹_›⟩
  · cases failed

/-- A lifted result that throws is that exception. -/
theorem lift_error_iff {α : Type} {result : Except Exn α} {e : Exn} {s t : Sys} :
    (lift result).run s = .error e t ↔ result = .error e ∧ t = s := by
  cases result with
  | ok a => simp
  | error e' => simp [eq_comm]

/-- An iteration over the streams throws what an allocation or the decoding of its entry does. -/
theorem addStream_error {env : Env} {stream : Json} {e : Exn} {s t : Sys}
    (failed : (addStream env stream).run s = .error e t) :
    (e = .badAlloc ∧ ∃ n, env.fault n = true) ∨ streamEntry stream = .error e := by
  have entry : streamEntry stream =
      (streamMember stream "name" >>= fun name =>
        streamMember stream "protobuf" >>= fun protobuf => .ok (name, protobuf)) := rfl
  unfold addStream at failed
  rcases run_bind_eq_error.mp failed with first | ⟨_, s₁, _, rest⟩
  · exact Or.inl (allocate_error first)
  rcases run_bind_eq_error.mp rest with named | ⟨name, s₂, named, rest⟩
  · refine Or.inr ?_
    rw [entry, (lift_error_iff.mp named).1]
    rfl
  have nameEq := (lift_ok_iff.mp named).1
  rw [run_setIface_bind] at rest
  rcases run_bind_eq_error.mp rest with second | ⟨_, s₃, _, rest⟩
  · exact Or.inl (allocate_error second)
  have typeFails {u v : Sys}
      (typed : (lift (streamMember stream "protobuf")).run u = .error e v) :
      streamEntry stream = .error e := by
    rw [entry, nameEq, (lift_error_iff.mp typed).1]
    rfl
  have nameFits {u v : Sys} : (lift (streamMember stream "name")).run u ≠ .error e v := by
    intro keyed
    rw [(lift_error_iff.mp keyed).1] at nameEq
    cases nameEq
  split at rest
  · rcases run_bind_eq_error.mp rest with typed | ⟨protobuf, s₄, _, rest⟩
    · exact Or.inr (typeFails typed)
    rcases run_bind_eq_error.mp rest with keyed | ⟨key, s₅, _, set⟩
    · exact absurd keyed nameFits
    · cases set
  · rcases run_bind_eq_error.mp rest with keyed | ⟨key, s₄, _, rest⟩
    · exact absurd keyed nameFits
    rw [run_setIface_bind] at rest
    rcases run_bind_eq_error.mp rest with typed | ⟨protobuf, s₅, _, set⟩
    · exact Or.inr (typeFails typed)
    · cases set

/-- The loop over the streams throws what an allocation or the decoding of the list does. -/
theorem forM_addStream_error {env : Env} {streams : List Json} {e : Exn} {s t : Sys}
    (failed : (forM streams (addStream env)).run s = .error e t) :
    (e = .badAlloc ∧ ∃ n, env.fault n = true) ∨ streams.mapM streamEntry = .error e := by
  induction streams generalizing s with
  | nil => cases failed
  | cons stream streams ih =>
    rw [List.forM_cons] at failed
    rw [List.mapM_cons]
    rcases run_bind_eq_error.mp failed with first | ⟨_, u, added, rest⟩
    · refine (addStream_error first).imp_right fun entry => ?_
      rw [entry]
      rfl
    · obtain ⟨entry, entryEq, _⟩ := addStream_ok env added
      refine (ih rest).imp_right fun later => ?_
      rw [entryEq, later]
      rfl

/-- The loop of `checkSystemReady` over a list of streams ends with the names and the message types
of the document, or with an exception that can be caught. -/
def StreamsFaithful (env : Env) (j : Json) (s : Sys) : Prop :=
  match (forM j.elements (addStream env)).run s with
  | .ok _ t => ∃ entries, List.Forall₂ EntryOf j.elements entries ∧
      t.iface.availStreams = s.iface.availStreams ++ entries.map Prod.fst ∧
      ∀ name, t.iface.protobufMap[name]? =
        (lastType entries name).or s.iface.protobufMap[name]?
  | .error e _ => e.isException = true

/-- The loop is faithful wherever the decoding of the list is. -/
theorem streamsFaithful_of_faithful {j : Json}
    (faithful : Faithful (List.Forall₂ EntryOf j.elements) (j.elements.mapM streamEntry))
    (env : Env) (s : Sys) : StreamsFaithful env j s := by
  unfold StreamsFaithful
  cases ran : (forM j.elements (addStream env)).run s with
  | ok _ t =>
    obtain ⟨entries, decoded, streams, types⟩ := forM_addStream_ok env ran
    rw [decoded] at faithful
    exact ⟨entries, faithful, streams, types⟩
  | error e t =>
    rcases forM_addStream_error ran with ⟨rfl, _⟩ | decoded
    · rfl
    · rw [decoded] at faithful
      exact faithful

/-- The list of streams is decoded faithfully by every run of the loop exactly when its reads are
refused or keep their values. -/
theorem streams_faithful_iff (j : Json) :
    (∀ env s, StreamsFaithful env j s) ↔
      Refused false (streamReads j) ∨ ∀ read ∈ streamReads j, read.Exact := by
  have follows : Follows Read.fits (Read.Fault false) (streamReads j)
      (j.elements.mapM streamEntry) := Follows.mapM fun stream _ => streamEntry_follows stream
  have described (entries : List (String × String))
      (decoded : j.elements.mapM streamEntry = .ok entries) :
      List.Forall₂ EntryOf j.elements entries ↔ ∀ read ∈ streamReads j, read.Exact :=
    forall₂_iff_flatMap (forall₂_of_mapM decoded) fun stream entry decoded =>
      iff_of_true (streamEntry_exact decoded).1 (streamEntry_exact decoded).2
  rw [← faithful_iff follows described]
  refine ⟨fun always => ?_, streamsFaithful_of_faithful⟩
  have faithful := always obligingDevice (Session.begin "" 0).sys
  unfold StreamsFaithful at faithful
  cases ran : (forM j.elements (addStream obligingDevice)).run (Session.begin "" 0).sys with
  | ok _ t =>
    obtain ⟨entries, decoded, _⟩ := forM_addStream_ok obligingDevice ran
    rw [decoded]
    exact (forall₂_of_mapM decoded).imp fun _ _ read => (streamEntry_exact read).1
  | error e t =>
    rw [ran] at faithful
    rcases forM_addStream_error ran with ⟨_, n, fault⟩ | decoded
    · cases fault
    · rw [decoded]
      exact faithful

end Streams

/-- Each decoder is faithful exactly for the documents whose reads are refused or keep their
values. -/
theorem decoders_faithful_iff {setters : Setters} (lawful : setters.Lawful) (js : Json)
    (producerOptional : Bool) :
    (Faithful (TrajectoryOf js) (toProtobufTrajectory setters js) ↔
      Refused false (trajectoryReads setters js) ∨
        ∀ read ∈ trajectoryReads setters js, read.Exact) ∧
    (Faithful (FrameOf js producerOptional) (toProtobufFrame setters js producerOptional) ↔
      Refused true (frameReads setters js producerOptional) ∨
        ∀ read ∈ frameReads setters js producerOptional, read.Exact) ∧
    ((∀ env s, StreamsFaithful env js s) ↔
      Refused false (streamReads js) ∨ ∀ read ∈ streamReads js, read.Exact) := by
  have trajectory := faithful_iff (toProtobufTrajectory_follows lawful js) fun _ =>
    trajectoryOf_iff_exact
  have frame := faithful_iff (toProtobufFrame_follows lawful js producerOptional) fun _ =>
    frameOf_iff_exact
  exact ⟨trajectory, frame, streams_faithful_iff js⟩

/-- Setters of usual widths throw what the conversions of the JSON library throw. -/
theorem wideSetters_lawful : wideSetters.Lawful := by
  have double : ThrowsJson Json.getDouble := by
    intro value e thrown
    cases value <;> cases thrown <;> rfl
  refine ⟨fun field value e thrown => ?_, fun _ => double, fun _ => double⟩
  simp only [wideSetters] at thrown
  generalize (if field = "sec" then 64 else 32) = width at thrown
  cases value with
  | boolean value =>
    rw [Json.getSigned] at thrown
    split_ifs at thrown <;> cases thrown
    rfl
  | _ => cases thrown <;> rfl

/-- A time stamp in an answer. -/
def stampAnswer : Json := .object [("nsec", .unsigned 500000000), ("sec", .unsigned 1500000000)]

/-- A pose in an answer. -/
def poseAnswer : Json :=
  .object [("pose", .object
    [("orientation", .object [("w", .float (.finite 1)), ("x", .float .negativeZero),
      ("y", .float (.finite 0)), ("z", .float (.finite 0))]),
    ("position", .object [("x", .float (.finite (1 / 2))), ("y", .float (.finite (-3 / 4))),
      ("z", .float (.finite 0))])]),
  ("timestamp", stampAnswer)]

/-- An answer with a trajectory of one pose. -/
def trajectoryAnswer : Json :=
  .object [("poses", .array [poseAnswer]), ("timestamp", stampAnswer)]

/-- The trajectory is decoded as it is; as a frame and as a list of streams it is refused. -/
theorem decoders_faithful_pose :
    Faithful (TrajectoryOf trajectoryAnswer)
        (toProtobufTrajectory wideSetters trajectoryAnswer) ∧
      Faithful (FrameOf trajectoryAnswer true)
        (toProtobufFrame wideSetters trajectoryAnswer true) ∧
      ∀ env s, StreamsFaithful env trajectoryAnswer s := by
  obtain ⟨trajectory, frame, streams⟩ :=
    decoders_faithful_iff wideSetters_lawful trajectoryAnswer true
  refine ⟨trajectory.mpr (Or.inr ?_), frame.mpr (Or.inl ⟨_, rfl, rfl⟩),
    streams.mpr (Or.inl ⟨_, rfl, rfl⟩)⟩
  have reads : trajectoryReads wideSetters trajectoryAnswer =
      timeReads wideSetters stampAnswer ++
        ⟨.found (.array [poseAnswer]), .any⟩ :: (poseReads wideSetters poseAnswer ++ []) := rfl
  simp only [reads, timeReads, poseReads, List.append_nil, List.forall_mem_append,
    List.forall_mem_cons, List.not_mem_nil, false_imp_iff, implies_true, and_true]
  refine ⟨⟨?_, ?_⟩, Read.exact_any _, ?_, ?_, ?_, ?_, ?_, ?_, ?_, ?_, ?_⟩
  all_goals exact ⟨_, rfl, _, rfl, rfl⟩

/-- A trajectory without poses, and a stream without a name, run into the undefined lookup. -/
theorem decoders_undefined :
    ¬Faithful (TrajectoryOf (.object [])) (toProtobufTrajectory wideSetters (.object [])) ∧
      ¬StreamsFaithful obligingDevice (.array [.object []]) (Session.begin "" 0).sys := by
  constructor
  · intro faithful
    cases faithful
  · intro faithful
    cases faithful

end RcDynamics
