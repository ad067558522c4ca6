import RcDynamics.CellList
import RcDynamics.DataReceiver
import RcDynamics.Firmware
import RcDynamics.Http
import RcDynamics.Trajectory

/-!
# Operations of a remote interface

Every public operation, as a computation on the object and its surroundings. The object learns
the streams of the device in `checkSystemReady`, which other operations call by themselves when
it has not succeeded yet, and it records the destinations it has requested for each stream.
A receiver made for a stream removes its destination when it is destroyed, also while an
exception leaves the function that made it; the destructor of the object removes the rest.
-/

namespace RcDynamics

/-- A statement that allocates may throw. -/
def allocate (env : Env) : Call Unit := do
  let n ← tick
  if env.fault n then throw .badAlloc else return ()

/-- `js_args` of the requests that name destinations. -/
def destinationArgs (destinations : List String) : Json :=
  .object [("destination", .array (destinations.map .string))]

/-- `js_args.dump()`: the destinations have to be valid UTF-8. -/
def dumpArgs (env : Env) (destinations : List String) : Call Json :=
  if destinations.all env.utf8 then return destinationArgs destinations
  else throw Json.invalidUtf8

namespace RemoteInterface

section Initialisation

variable (env : Env)

/-- The members reset at the start of `checkSystemReady`. -/
def reset (iface : RemoteInterface) : RemoteInterface :=
  { iface with
    initialized := false
    visardVersion := 0
    reqStreams := ∅
    reqEpoch := iface.reqEpoch + 1
    protobufMap := ∅
    availStreams := [] }

/-- `protobuf_map_[key]`, a reference: an absent key is inserted with an empty type. -/
def touchProtobuf (key : String) (iface : RemoteInterface) : RemoteInterface :=
  { iface with protobufMap := iface.protobufMap.insertIfNew key "" }

/-- `protobuf_map_[key] = value`. -/
def setProtobuf (key value : String) (iface : RemoteInterface) : RemoteInterface :=
  { iface with protobufMap := iface.protobufMap.insert key value }

/-- A string member of a stream's entry, read through the const `operator[]`. -/
def streamMember (stream : Json) (key : String) : Except Exn String := do
  (← stream.constIndex key).getString

/-- One iteration over the answer to `/datastreams`. The operands of the assignment are
evaluated in the order that the compiler has chosen. -/
def addStream (stream : Json) : Call Unit := do
  allocate env
  let name ← lift (streamMember stream "name")
  setIface fun iface => { iface with availStreams := iface.availStreams ++ [name] }
  allocate env
  if env.rightFirst then
    let protobuf ← lift (streamMember stream "protobuf")
    let key ← lift (streamMember stream "name")
    setIface (setProtobuf key protobuf)
  else
    let key ← lift (streamMember stream "name")
    setIface (touchProtobuf key)
    let protobuf ← lift (streamMember stream "protobuf")
    setIface (setProtobuf key protobuf)

/-- `j["firmware"]["active_image"]["image_version"]`, as a string. -/
def imageVersion (j : Json) : Except Exn String := do
  (← (← (← j.index "firmware").index "active_image").index "image_version").getString

/-- The version is taken over when the name of the image shows one. -/
def setVersion (version : String) (iface : RemoteInterface) : RemoteInterface :=
  match extractVersion version with
  | some visardVersion => { iface with visardVersion := visardVersion }
  | none => iface

/-- The first half of `checkSystemReady`: whether the system is ready, and its version. -/
def readSystem : Call Bool := do
  allocate env
  let response ← cprGetWithRetry env .system (← this).timeoutCurl
  if response.statusCode = 502 then return false
  else
    handleCPRResponse response
    allocate env
    let getSystem ← cprGetWithRetry env .system (← this).timeoutCurl
    handleCPRResponse getSystem
    let j ← parseJson env getSystem.text
    let ready ← lift (do (← j.index "ready").getBool)
    if !ready then return false
    else
      let version ← lift (imageVersion j)
      allocate env
      setIface (setVersion version)
      return true

/-- The second half of `checkSystemReady`: the streams of the device. -/
def readStreams : Call Unit := do
  allocate env
  let getStreams ← cprGetWithRetry env .datastreams (← this).timeoutCurl
  handleCPRResponse getStreams
  let j ← parseJson env getStreams.text
  forM j.elements (addStream env)

/-- `checkSystemReady`. -/
def checkSystemReady : Call Bool := do
  setIface reset
  let ready ← readSystem env
  if ready then
    readStreams env
    setIface fun iface => { iface with initialized := true }
    return true
  else return false

/-- `!initialized_ && !checkSystemReady()`, and the exception in that case. -/
def ensureInitialized : Call Unit := do
  if (← this).initialized then return ()
  else
    let ready ← checkSystemReady env
    if ready then return ()
    else throw (.runtimeError ("RemoteInterface not properly initialized or rc_visard is not " ++
      "ready. Please initialize with method RemoteInterface::checkSystemReady()!"))

/-- `checkStreamTypeAvailable`. -/
def checkStreamTypeAvailable (stream : String) : Call Unit := do
  ensureInitialized env
  let iface ← this
  if stream ∈ iface.availStreams then return ()
  else throw (.invalidArgument ("Stream of type '" ++ stream ++
    "' is not available on rc_visard " ++ iface.visardAddrs))

end Initialisation

section Queries

variable (env : Env)

/-- `State::UNKNOWN`. -/
def stateUnknown : String := "UNKNOWN"

/-- `getState`. -/
def getState (node : String) : Call String := do
  let response ← cprGetWithRetry env (.status node) (← this).timeoutCurl
  handleCPRResponse response
  tryCatch
    (do
      let j ← parseJson env response.text
      lift (do (← (← j.index "values").index "state").getString))
    fun e => if e.isDomainError then return stateUnknown else throw e

/-- `getDynamicsState`. -/
def getDynamicsState : Call String := getState env "rc_dynamics"

/-- `getSlamState`. -/
def getSlamState : Call String := getState env "rc_slam"

/-- `getStereoInsState`. -/
def getStereoInsState : Call String := getState env "rc_stereo_ins"

/-- The state and the acceptance in the answer of a service. -/
def decodeState (validStates : List String) (j : Json) : Except Exn (String × Bool) := do
  let enteredState ← (← (← j.index "response").index "current_state").getString
  if enteredState ∉ validStates then .error (.invalidState enteredState)
  else
    let accepted ← (← (← j.index "response").index "accepted").getBool
    return (enteredState, accepted)

/-- The numeric state in the answer of an old interface version. -/
def decodeEnteredState (j : Json) : Except Exn String := do
  let enteredState ← (← (← j.index "response").index "enteredState").getSigned 32
  return toString enteredState

/-- The answer of a service that enters a state. -/
def decodeService (validStates : List String) (serviceName : String) (j : Json) :
    Except Exn String := do
  let (enteredState, accepted) ← match decodeState validStates j with
    | .ok decoded => .ok decoded
    | .error e =>
      if e.isLogicError then (decodeEnteredState j).map (·, true) else .error e
  if !accepted then .error (.notAccepted serviceName) else return enteredState

/-- A service call that enters a state: the common part of `callDynamicsService` and
`resetSlam`. -/
def callStateService (node serviceName : String) (validStates : List String) : Call String := do
  let response ← cprPutWithRetry env (.service node serviceName) (← this).timeoutCurl none
  handleCPRResponse response
  let j ← parseJson env response.text
  lift (decodeService validStates serviceName j)

/-- `valid_states` of `callDynamicsService`. -/
def dynamicsStates : List String :=
  ["IDLE", "RUNNING", "STOPPING", "FATAL", "WAITING_FOR_INS", "WAITING_FOR_INS_AND_SLAM",
    "WAITING_FOR_SLAM", "RUNNING_WITH_SLAM", stateUnknown]

/-- `valid_states` of `resetSlam`. -/
def slamStates : List String :=
  ["IDLE", "RUNNING", "FATAL", "WAITING_FOR_DATA", "RESTARTING", "RESETTING", "HALTED"]

/-- `callDynamicsService`. -/
def callDynamicsService (serviceName : String) : Call String :=
  callStateService env "rc_dynamics" serviceName dynamicsStates

/-- `restart`. -/
def restart : Call String := callDynamicsService env "restart"

/-- `restartSlam`. -/
def restartSlam : Call String := callDynamicsService env "restart_slam"

/-- `start`. -/
def start : Call String := callDynamicsService env "start"

/-- `startSlam`. -/
def startSlam : Call String := callDynamicsService env "start_slam"

/-- `stop`. -/
def stop : Call String := callDynamicsService env "stop"

/-- `stopSlam`. -/
def stopSlam : Call String := callDynamicsService env "stop_slam"

/-- `resetSlam`. -/
def resetSlam : Call String := callStateService env "rc_slam" "reset" slamStates

/-- `struct ReturnCode`. -/
structure ReturnCode where
  value : Int
  message : String
deriving DecidableEq, Repr

/-- The return code in the answer of a service. -/
def decodeReturnCode (j : Json) : Except Exn ReturnCode := do
  let value ←
    (← (← (← j.index "response").index "return_code").index "value").getSigned 32
  let message ←
    (← (← (← j.index "response").index "return_code").index "message").getString
  return ⟨value, message⟩

/-- A timeout argument, narrowed to `int32_t`. -/
def narrowTimeout (timeoutMs : BitVec 32) : Int := timeoutMs.toInt

/-- `callSlamService`. -/
def callSlamService (serviceName : String) (timeoutMs : BitVec 32) : Call ReturnCode := do
  let response ← cprPutWithRetry env (.service "rc_slam" serviceName) (narrowTimeout timeoutMs) none
  handleCPRResponse response
  let j ← parseJson env response.text
  lift (decodeReturnCode j)

/-- `saveSlamMap`. -/
def saveSlamMap (timeoutMs : BitVec 32) : Call ReturnCode :=
  callSlamService env "save_map" timeoutMs

/-- `loadSlamMap`. -/
def loadSlamMap (timeoutMs : BitVec 32) : Call ReturnCode :=
  callSlamService env "load_map" timeoutMs

/-- `removeSlamMap`. -/
def removeSlamMap (timeoutMs : BitVec 32) : Call ReturnCode :=
  callSlamService env "remove_map" timeoutMs

/-- `getSlamTrajectory`. -/
def getSlamTrajectory (start stop : TrajectoryTime) (timeoutMs : BitVec 32) :
    Call Trajectory := do
  let get ← cprPutWithRetry env (.service "rc_slam" "get_trajectory") (narrowTimeout timeoutMs)
    (some (trajectoryArgs start stop))
  handleCPRResponse get
  let j ← parseJson env get.text
  lift (do toProtobufTrajectory env.setters (← (← j.index "response").index "trajectory"))

/-- `getCam2ImuTransform`. -/
def getCam2ImuTransform (timeoutMs : BitVec 32) : Call Frame := do
  let get ← cprPutWithRetry env (.service "rc_dynamics" "get_cam2imu_transform")
    (narrowTimeout timeoutMs) none
  handleCPRResponse get
  let j ← parseJson env get.text
  lift (do toProtobufFrame env.setters (← j.index "response") true)

/-- `getAvailableStreams`. -/
def getAvailableStreams : Call (List String) := do
  ensureInitialized env
  return (← this).availStreams

/-- `protobuf_map_[stream]`, read. -/
def protobufOf (stream : String) : Call String := do
  setIface (touchProtobuf stream)
  return (← this).protobufMap.getD stream ""

/-- `getPbMsgTypeOfStream`. -/
def getPbMsgTypeOfStream (stream : String) : Call String := do
  checkStreamTypeAvailable env stream
  protobufOf stream

/-- `getDestinationsOfStream`. -/
def getDestinationsOfStream (stream : String) : Call (List String) := do
  checkStreamTypeAvailable env stream
  let get ← cprGetWithRetry env (.datastream stream) (← this).timeoutCurl
  handleCPRResponse get
  let j ← parseJson env get.text
  lift (do (← j.index "destinations").elements.mapM Json.getString)

end Queries

section Destinations

variable (env : Env)

/-- `req_streams_[stream] = destinations`, also when the key is new. -/
def track (stream : String) (destinations : List String) (iface : RemoteInterface) :
    RemoteInterface :=
  { iface with reqStreams := iface.reqStreams.insert stream destinations }

/-- The exception for an answer 403, with the message of the device. -/
def tooManyDestinations (put : Response) : Call Unit := do
  let j ← parseJson env put.text
  let message ← lift (do (← j.index "message").getString)
  throw (.tooManyStreamDestinations message)

/-- `addDestinationToStream`. -/
def addDestinationToStream (stream destination : String) : Call Unit := do
  checkStreamTypeAvailable env stream
  let body ← dumpArgs env [destination]
  let put ← cprPutWithRetry env (.datastream stream) (← this).timeoutCurl (some body)
  if put.statusCode = 403 then tooManyDestinations env put
  else
    handleCPRResponse put
    setIface fun iface => iface.track stream (iface.tracked stream ++ [destination])

/-- One DELETE request that names destinations of a stream. -/
def deleteRequest (stream : String) (destinations : List String) : Call Unit := do
  let body ← dumpArgs env destinations
  let del ← cprDeleteWithRetry env (.datastream stream) (← this).timeoutCurl (some body)
  handleCPRResponse del

/-- `deleteDestinationFromStream`. -/
def deleteDestinationFromStream (stream destination : String) : Call Unit := do
  checkStreamTypeAvailable env stream
  deleteRequest env stream [destination]
  setIface fun iface => iface.track stream
    ((CellList.ofList (iface.tracked stream)).eraseFirst destination).values

/-- The argument `const list<string>& destinations`: a list of the caller, or a reference to
the very list `req_streams_[stream]`, taken at an epoch of the map. -/
inductive Destinations where
  | list (values : List String)
  | tracked (epoch : Nat)
deriving DecidableEq, Repr

/-- A reference into the map is dangling once the map has been cleared. -/
def requireEpoch (epoch : Nat) : Call Unit := do
  if (← this).reqEpoch = epoch then return ()
  else throw (.undefined "req_streams_ was cleared under a reference to its elements")

/-- The values read by a traversal of the argument that changes nothing. -/
def Destinations.read (stream : String) : Destinations → Call (List String)
  | .list values => pure values
  | .tracked epoch => do
    requireEpoch epoch
    return (← this).tracked stream

/-- The last loop of `deleteDestinationsFromStream`: erase from `req_streams_[stream]` while
traversing the argument. When both are one list, the traversal goes over the cells that the
body erases; a step through an erased cell is undefined. -/
def eraseRequested (stream : String) : Destinations → Call Unit
  | .list values =>
    setIface fun iface => iface.track stream
      ((CellList.ofList (iface.tracked stream)).eraseEach values).values
  | .tracked _ => do
    match (CellList.ofList ((← this).tracked stream)).rangeFor
        (fun destination list => list.eraseFirst destination) with
    | .done list => setIface fun iface => iface.track stream list.values
    | .invalid | .unfinished => throw (.undefined "advanced from an erased list element")

/-- The requests of `deleteDestinationsFromStream`: one on newer firmware, otherwise one for each
destination. -/
def deleteRequests (stream : String) (destinations : List String) : Call Unit := do
  if usesSingleRequest (← this).visardVersion then deleteRequest env stream destinations
  else forM destinations fun destination => deleteRequest env stream [destination]

/-- `deleteDestinationsFromStream`. -/
def deleteDestinationsFromStream (stream : String) (destinations : Destinations) :
    Call Unit := do
  checkStreamTypeAvailable env stream
  let values ← destinations.read stream
  deleteRequests env stream values
  eraseRequested stream destinations

/-- How `cleanUpRequestedStreams` hands a list of destinations on: as the reference the source
takes, or as a copy. -/
inductive Traversal where
  | aliased
  | copied
deriving DecidableEq, Repr

/-- One iteration of `cleanUpRequestedStreams`, with the advance of its iterator. -/
def cleanUpStream (traversal : Traversal) (epoch : Nat) (stream : String) : Call Unit := do
  let destinations := (← this).tracked stream
  if destinations.isEmpty then return ()
  else
    deleteDestinationsFromStream env stream (match traversal with
      | .aliased => .tracked epoch
      | .copied => .list destinations)
    requireEpoch epoch

/-- `cleanUpRequestedStreams`. The body writes `req_streams_` at the current key only, so the
keys visited are those of the start as long as the map is not cleared. -/
def cleanUpRequestedStreams (traversal : Traversal) : Call Unit := do
  let iface ← this
  forM iface.reqStreams.keys (cleanUpStream env traversal iface.reqEpoch)

/-- `toString(list<string>)`. -/
def listToString (list : List String) : String := "[" ++ ", ".intercalate list ++ "]"

/-- The report of the destructor about a stream that is left over. -/
def leftOver (iface : RemoteInterface) (stream : String) : String :=
  "[RemoteInterface::~RemoteInterface] Could not stop all previously requested" ++
    " streams of type " ++ stream ++ " on rc_visard. Please check device manually (" ++
    iface.baseUrl ++ "/datastreams/" ++ stream ++ ") for not containing any of the " ++
    "following legacy streams and delete them otherwise, e.g. using the swagger UI (" ++
    "http://" ++ iface.visardAddrs ++ "/api/swagger/): " ++ listToString (iface.tracked stream)

/-- `~RemoteInterface`, with what it prints. -/
def destroy (traversal : Traversal) : Call (List String) := do
  let report ← tryCatch
    (do
      cleanUpRequestedStreams env traversal
      return [])
    fun e => if e.isException then
        return ["[RemoteInterface::~RemoteInterface] Could not clean up all previously " ++
          "requested streams: " ++ e.what]
      else throw e
  let iface ← this
  return report ++ (iface.reqStreams.keys.filter fun stream =>
    0 < (iface.tracked stream).length).map iface.leftOver

end Destinations

end RemoteInterface

/-- `class TrackedDataReceiver`. -/
structure TrackedDataReceiver extends DataReceiver where
  dest : String
  stream : String
deriving DecidableEq, Repr

namespace TrackedDataReceiver

/-- The constructor, with the port it leaves in its reference argument. -/
def construct (env : Env) (ipAddress : String) (port : BitVec 32) (stream : String) :
    Call (TrackedDataReceiver × BitVec 32) := do
  let (receiver, port) ← DataReceiver.construct env ipAddress port
  return (⟨receiver, ipAddress ++ ":" ++ toString port.toNat, stream⟩, port)

/-- The destructor: the destination is removed from the device, whatever that throws is
printed, and the base class closes the socket. -/
def destroy (env : Env) (receiver : TrackedDataReceiver) : Call Unit := do
  tryCatch (RemoteInterface.deleteDestinationFromStream env receiver.stream receiver.dest)
    fun e => if e.isException then return () else throw e
  closeSocket receiver.sockfd

end TrackedDataReceiver

namespace RemoteInterface

section Receivers

variable (env : Env)

/-- `initial_timeOut` of `createReceiverForStream`. -/
def initialTimeOut : Nat := 5000

/-- `valid_states` of `createReceiverForStream`. -/
def runningStates : List String := ["RUNNING", "RUNNING_WITH_SLAM"]

/-- Why no first message arrived. -/
def explainTimeout : Call Unit := do
  let currentState ← getDynamicsState env
  if currentState ∉ runningStates then throw (.dynamicsNotRunning currentState)
  else throw (.unexpectedReceiveTimeout initialTimeOut)

/-- The statements of `createReceiverForStream` after the receiver exists: request the stream
and wait for its first message. -/
def establish (receiver : TrackedDataReceiver) (stream destination : String) : Call Unit := do
  addDestinationToStream env stream destination
  receiver.setTimeout env initialTimeOut
  let pbMsgType ← protobufOf stream
  let msg ← receiver.receive env pbMsgType
  if msg.isNone then explainTimeout env
  else receiver.setTimeout env 100

/-- `createReceiverForStream`. An exception after the receiver exists destroys it. -/
def createReceiverForStream (stream destInterface : String) (destPort : BitVec 32) :
    Call TrackedDataReceiver := do
  checkStreamTypeAvailable env stream
  let n ← tick
  match getThisHostsIP (env.getifaddrs n) (← this).visardAddrs destInterface with
  | none => throw (.invalidArgument ("Could not infer a valid IP address for this host as the " ++
      "destination of the stream! Given network interface specification was '" ++
      destInterface ++ "'."))
  | some destAddress =>
    let (receiver, destPort) ← TrackedDataReceiver.construct env destAddress destPort stream
    let destination := destAddress ++ ":" ++ toString destPort.toNat
    Effect.unwinding (establish env receiver stream destination) (receiver.destroy env)
    return receiver

end Receivers

end RemoteInterface

end RcDynamics
