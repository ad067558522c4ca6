import RcDynamics.RemoteInterface

/-!
# Runs of a remote interface

A session is one object with the receivers it has handed out, used by a program that catches
the exceptions of each call and goes on. A run applies public operations in any order. After
undefined behaviour nothing more is said of a session: it stays where it is.
-/

namespace RcDynamics

/-- A public operation with its arguments, or the destruction of a receiver. -/
inductive Operation where
  | checkSystemReady
  | getDynamicsState
  | getSlamState
  | getStereoInsState
  | restart
  | restartSlam
  | start
  | startSlam
  | stop
  | stopSlam
  | resetSlam
  | saveSlamMap (timeoutMs : BitVec 32)
  | loadSlamMap (timeoutMs : BitVec 32)
  | removeSlamMap (timeoutMs : BitVec 32)
  | getSlamTrajectory (startTime endTime : TrajectoryTime) (timeoutMs : BitVec 32)
  | getCam2ImuTransform (timeoutMs : BitVec 32)
  | getAvailableStreams
  | getPbMsgTypeOfStream (stream : String)
  | getDestinationsOfStream (stream : String)
  | addDestinationToStream (stream destination : String)
  | deleteDestinationFromStream (stream destination : String)
  | deleteDestinationsFromStream (stream : String) (destinations : List String)
  | createReceiverForStream (stream destInterface : String) (destPort : BitVec 32)
  /-- The last reference to the receiver at this place goes away. -/
  | destroyReceiver (index : Nat)
deriving DecidableEq

/-- An operation whose value the caller may keep, but which hands out no receiver. -/
def discard {α : Type} (receivers : List TrackedDataReceiver) (call : Call α) :
    Call (List TrackedDataReceiver) := do
  let _ ← call
  return receivers

/-- Discarding a value does not change the state. -/
theorem final_discard {α : Type} (receivers : List TrackedDataReceiver) (call : Call α) (s : Sys) :
    Effect.final ((discard receivers call).run s) = Effect.final (call.run s) := by
  unfold discard
  rw [EStateM.run_bind]
  cases call.run s <;> rfl

/-- Perform an operation; the result is the receivers alive after it. -/
def Operation.perform (env : Env) (receivers : List TrackedDataReceiver) :
    Operation → Call (List TrackedDataReceiver)
  | .checkSystemReady => discard receivers (RemoteInterface.checkSystemReady env)
  | .getDynamicsState => discard receivers (RemoteInterface.getDynamicsState env)
  | .getSlamState => discard receivers (RemoteInterface.getSlamState env)
  | .getStereoInsState => discard receivers (RemoteInterface.getStereoInsState env)
  | .restart => discard receivers (RemoteInterface.restart env)
  | .restartSlam => discard receivers (RemoteInterface.restartSlam env)
  | .start => discard receivers (RemoteInterface.start env)
  | .startSlam => discard receivers (RemoteInterface.startSlam env)
  | .stop => discard receivers (RemoteInterface.stop env)
  | .stopSlam => discard receivers (RemoteInterface.stopSlam env)
  | .resetSlam => discard receivers (RemoteInterface.resetSlam env)
  | .saveSlamMap timeoutMs => discard receivers (RemoteInterface.saveSlamMap env timeoutMs)
  | .loadSlamMap timeoutMs => discard receivers (RemoteInterface.loadSlamMap env timeoutMs)
  | .removeSlamMap timeoutMs => discard receivers (RemoteInterface.removeSlamMap env timeoutMs)
  | .getSlamTrajectory startTime endTime timeoutMs =>
    discard receivers (RemoteInterface.getSlamTrajectory env startTime endTime timeoutMs)
  | .getCam2ImuTransform timeoutMs =>
    discard receivers (RemoteInterface.getCam2ImuTransform env timeoutMs)
  | .getAvailableStreams => discard receivers (RemoteInterface.getAvailableStreams env)
  | .getPbMsgTypeOfStream stream =>
    discard receivers (RemoteInterface.getPbMsgTypeOfStream env stream)
  | .getDestinationsOfStream stream =>
    discard receivers (RemoteInterface.getDestinationsOfStream env stream)
  | .addDestinationToStream stream destination =>
    discard receivers (RemoteInterface.addDestinationToStream env stream destination)
  | .deleteDestinationFromStream stream destination =>
    discard receivers (RemoteInterface.deleteDestinationFromStream env stream destination)
  | .deleteDestinationsFromStream stream destinations =>
    discard receivers (RemoteInterface.deleteDestinationsFromStream env stream (.list destinations))
  | .createReceiverForStream stream destInterface destPort => do
    let receiver ← RemoteInterface.createReceiverForStream env stream destInterface destPort
    return receivers ++ [receiver]
  | .destroyReceiver index =>
    match receivers[index]? with
    | none => return receivers
    | some receiver => do
      receiver.destroy env
      return receivers.eraseIdx index

/-- An object in use. -/
structure Session where
  sys : Sys
  /-- The receivers handed out and not destroyed yet. -/
  receivers : List TrackedDataReceiver
  /-- Undefined behaviour has occurred. -/
  crashed : Bool

namespace Session

/-- A new object that has asked nothing yet. -/
def begin (rcVisardIp : String) (requestsTimeout : Int) : Session where
  sys := ⟨RemoteInterface.initial rcVisardIp requestsTimeout, ⟨0, [], []⟩⟩
  receivers := []
  crashed := false

/-- Perform one operation and catch its exception. -/
def exec (env : Env) (s : Session) (operation : Operation) : Session :=
  if s.crashed then s
  else match (operation.perform env s.receivers).run s.sys with
    | .ok receivers sys => ⟨sys, receivers, false⟩
    | .error e sys => ⟨sys, s.receivers, !e.isException⟩

/-- Perform operations one after the other. -/
def run (env : Env) (s : Session) (operations : List Operation) : Session :=
  operations.foldl (exec env) s

/-- The session after a run of a new object. -/
def after (env : Env) (rcVisardIp : String) (requestsTimeout : Int)
    (operations : List Operation) : Session :=
  (begin rcVisardIp requestsTimeout).run env operations

/-- A state that some run of a new object reaches. -/
def Reachable (env : Env) (s : Session) : Prop :=
  ∃ rcVisardIp requestsTimeout operations, s = after env rcVisardIp requestsTimeout operations

/-- A run by one more operation. -/
theorem after_concat (env : Env) (rcVisardIp : String) (requestsTimeout : Int)
    (operations : List Operation) (operation : Operation) :
    after env rcVisardIp requestsTimeout (operations ++ [operation]) =
      (after env rcVisardIp requestsTimeout operations).exec env operation := by
  simp [after, run]

/-- Nothing is said of a session after undefined behaviour. -/
theorem exec_crashed {env : Env} {s : Session} (crashed : s.crashed = true)
    (operation : Operation) : s.exec env operation = s := if_pos crashed

/-- A session that has not crashed ends in the state in which the operation ends. -/
theorem exec_alive {env : Env} {s : Session} (alive : s.crashed = false) (operation : Operation) :
    (s.exec env operation).sys =
      Effect.final ((operation.perform env s.receivers).run s.sys) := by
  unfold exec
  rw [alive, if_neg Bool.false_ne_true]
  cases (operation.perform env s.receivers).run s.sys <;> rfl

/-- What relates the states of an operation relates the states of a session. -/
theorem exec_within {R : Sys → Sys → Prop} [Std.Refl R] {env : Env} {s : Session}
    {operation : Operation}
    (within : Effect.Within R (operation.perform env s.receivers) s.sys) :
    R s.sys (s.exec env operation).sys := by
  cases crashed : s.crashed with
  | true =>
    rw [exec_crashed crashed]
    exact refl_of R s.sys
  | false =>
    rw [exec_alive crashed]
    exact within

/-- What holds of a new object and is kept by every operation holds after every run. -/
theorem after_induction {env : Env} {P : Session → Prop} {rcVisardIp : String}
    {requestsTimeout : Int} (initially : P (begin rcVisardIp requestsTimeout))
    (step : ∀ s operation, P s → P (s.exec env operation)) (operations : List Operation) :
    P (after env rcVisardIp requestsTimeout operations) := by
  induction operations using List.reverseRecOn with
  | nil => exact initially
  | append_singleton operations operation ih =>
    rw [after_concat]
    exact step _ operation ih

end Session

/-- A run reaches what it ends in. -/
theorem Session.reachable_after (env : Env) (rcVisardIp : String) (requestsTimeout : Int)
    (operations : List Operation) :
    Reachable env (after env rcVisardIp requestsTimeout operations) := ⟨_, _, _, rfl⟩

/-- Setters of 64 bits for seconds, of 32 bits for nanoseconds and of `double` for coordinates. -/
def wideSetters : Setters where
  timestamp field j := (j.getSigned (if field = "sec" then 64 else 32)).map fun n => .finite n
  position _ := Json.getDouble
  orientation _ := Json.getDouble

/-- A device on one network with this host that is ready, offers two streams, acknowledges every
request and sends no data. -/
def obligingDevice : Env where
  http _ request := ⟨200, request.url, request.resource.path, ""⟩
  parse text :=
    if text = Resource.system.path then
      some (.object [("firmware", .object [("active_image", .object
        [("image_version", .string "unknown")])]), ("ready", .boolean true)])
    else if text = Resource.datastreams.path then
      some (.array [.object [("name", .string "imu"), ("protobuf", .string "Imu")],
        .object [("name", .string "pose"), ("protobuf", .string "Frame")]])
    else if text = (Resource.status "rc_dynamics").path then
      some (.object [("values", .object [("state", .string "RUNNING")])])
    else none
  utf8 _ := true
  fault _ := false
  rightFirst := false
  getifaddrs _ := [⟨"eth0", true, 0xc0a80005#32, 0xffffff00#32⟩]
  errno _ := 0
  socket _ := true
  bind _ _ port := some (if port = 0 then 49152 else port)
  getsockname _ := true
  setsockopt _ := true
  recvfrom _ := .failed DataReceiver.eagain
  parseFromArray _ _ := (true, .mk [])
  setters := wideSetters

/-- A session with that device in which a destination has been requested for a stream. -/
def poseSession : Session :=
  Session.after obligingDevice "192.168.0.10" 5000
    [.addDestinationToStream "pose" "192.168.0.5:40000"]

/-- It is the end of a run. -/
theorem poseSession_reachable : poseSession.Reachable obligingDevice :=
  Session.reachable_after _ _ _ _

end RcDynamics
