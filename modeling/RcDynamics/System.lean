import Std.Data.TreeMap
import RcDynamics.Effect
import RcDynamics.Json
import RcDynamics.NetUtils
import RcDynamics.Protobuf
import RcDynamics.Trajectory

/-!
# The state of a remote interface and its surroundings

A call of the library runs against surroundings that answer it: the device over HTTP, the
operating system for sockets and interfaces, and the libraries that parse JSON and protobuf.
`Env` holds those answers for one history: the answer to each question may depend on when it is
asked, so a statement about every `Env` is a statement about every sequence of answers. A call
changes the object, `RemoteInterface`, and the `World` it runs in, which counts the questions
asked and records the requests sent.
-/

namespace RcDynamics

/-- HTTP methods in use. -/
inductive Method where
  | get
  | put
  | delete
deriving DecidableEq, Repr

/-- Resources of the REST interface below `/api/v1`. -/
inductive Resource where
  | system
  | datastreams
  | datastream (stream : String)
  | status (node : String)
  | service (node name : String)
deriving DecidableEq, Repr

/-- The part of the URL after the base. -/
def Resource.path : Resource → String
  | system => "/system"
  | datastreams => "/datastreams"
  | datastream stream => "/datastreams/" ++ stream
  | status node => "/nodes/" ++ node ++ "/status"
  | service node name => "/nodes/" ++ node ++ "/services/" ++ name

/-- A request as it is given to cpr. -/
structure Request where
  method : Method
  resource : Resource
  url : String
  /-- The document whose text is the body; nothing for an empty body. -/
  body : Option Json
  /-- `cpr::Timeout` in milliseconds; none for zero. -/
  timeout : Int

/-- The header of a request: the content type is given only with a body. -/
def Request.header (request : Request) : List (String × String) :=
  match request.body with
  | none => [("accept", "application/json")]
  | some _ => [("accept", "application/json"), ("Content-Type", "application/json")]

/-- `cpr::Response`; the status code is zero when no answer arrived. -/
structure Response where
  statusCode : Int
  url : String
  text : String
  error : String
deriving DecidableEq, Repr

/-- What `recvfrom` reports. -/
inductive Received where
  | datagram (bytes : List UInt8)
  | failed (errno : Int)
deriving DecidableEq, Repr

/-- The answers of the surroundings, for one history of calls. The number is that of the
question. -/
structure Env where
  /-- The device, or the network in its place: every request is answered or times out. One without
  a timeout may also wait for ever, and then the call goes no further. -/
  http : Nat → Request → Response
  /-- `json::parse`; nothing when the text is no document. -/
  parse : String → Option Json
  /-- A `std::string` is valid UTF-8, as printing a JSON document requires. -/
  utf8 : String → Bool
  /-- An allocating statement of `checkSystemReady` throws. -/
  fault : Nat → Bool
  /-- The compiler evaluates the right operand of an assignment first. -/
  rightFirst : Bool
  /-- `getifaddrs`. -/
  getifaddrs : Nat → List IfAddr
  /-- `errno` after a failed call. -/
  errno : Nat → Int
  /-- `socket` succeeds. -/
  socket : Nat → Bool
  /-- The port bound by `bind` to an address and a port; nothing when it fails. -/
  bind : Nat → String → BitVec 16 → Option (BitVec 16)
  /-- `getsockname` succeeds. -/
  getsockname : Nat → Bool
  /-- `setsockopt` succeeds. -/
  setsockopt : Nat → Bool
  /-- `recvfrom`, retried while it is interrupted. -/
  recvfrom : Nat → Received
  /-- `ParseFromArray` of a message type: success, and the message left behind. -/
  parseFromArray : String → List UInt8 → Bool × Message
  /-- The setters of the messages that answers are decoded to. -/
  setters : Setters

/-- What a call does to its surroundings, in order. -/
inductive Event where
  /-- A request and its answer. -/
  | http (request : Request) (response : Response)
  /-- `Retrying in …ms`, and the sleep. -/
  | wait (ms : Nat)
  /-- A receiver is asked for a message of a type. -/
  | receive (pbMsgType : String)

/-- The surroundings as far as calls change them. -/
structure World where
  /-- Questions asked so far. -/
  tick : Nat
  /-- Events so far, the oldest first. -/
  trace : List Event
  /-- Open socket descriptors. -/
  sockets : List Nat

/-- Lists of destinations by stream, in key order: `std::map<string, list<string>>`. -/
abbrev StreamMap := Std.TreeMap String (List String)

/-- `class RemoteInterface`. -/
structure RemoteInterface where
  visardAddrs : String
  initialized : Bool
  /-- The value of the `float`. -/
  visardVersion : ℚ
  reqStreams : StreamMap
  /-- How often `req_streams_` has been cleared: iterators from before are invalid. -/
  reqEpoch : Nat
  availStreams : List String
  protobufMap : Std.TreeMap String String
  timeoutCurl : Int

/-- `base_url_`. -/
def RemoteInterface.baseUrl (iface : RemoteInterface) : String :=
  "http://" ++ iface.visardAddrs ++ "/api/v1"

/-- The destinations tracked for a stream. -/
def RemoteInterface.tracked (iface : RemoteInterface) (stream : String) : List String :=
  iface.reqStreams.getD stream []

/-- The members that the constructor initialises. -/
def RemoteInterface.initial (rcVisardIp : String) (requestsTimeout : Int) : RemoteInterface where
  visardAddrs := rcVisardIp
  initialized := false
  visardVersion := 0
  reqStreams := ∅
  reqEpoch := 0
  availStreams := []
  protobufMap := ∅
  timeoutCurl := requestsTimeout

/-- The constructor: the address has to be valid. -/
def RemoteInterface.construct (rcVisardIp : String) (requestsTimeout : Int) :
    Except Exn RemoteInterface :=
  if isValidIPAddress rcVisardIp then .ok (RemoteInterface.initial rcVisardIp requestsTimeout)
  else .error (.invalidArgument ("Given IP address is not a valid address: " ++ rcVisardIp))

/-- An object and its surroundings. -/
structure Sys where
  iface : RemoteInterface
  world : World

/-- A call: it changes the object and its surroundings, and may throw. -/
abbrev Call := EStateM Exn Sys

/-- Change the object. -/
def setIface (f : RemoteInterface → RemoteInterface) : Call Unit :=
  modify fun s => { s with iface := f s.iface }

/-- Read the object. -/
def this : Call RemoteInterface := do return (← get).iface

/-- The number of the next question. -/
def tick : Call Nat :=
  modifyGet fun s => (s.world.tick, { s with world.tick := s.world.tick + 1 })

/-- Record an event. -/
def emit (event : Event) : Call Unit :=
  modify fun s => { s with world.trace := s.world.trace ++ [event] }

/-- Reading the object changes nothing. -/
@[simp] theorem run_this (s : Sys) : this.run s = .ok s.iface s := rfl

/-- Changing the object leaves its surroundings. -/
@[simp] theorem run_setIface (f : RemoteInterface → RemoteInterface) (s : Sys) :
    (setIface f).run s = .ok () { s with iface := f s.iface } := rfl

/-- What follows a reading of the object is given the object. -/
theorem run_this_bind {α : Type} (next : RemoteInterface → Call α) (s : Sys) :
    (this >>= next).run s = (next s.iface).run s := rfl

/-- What follows a change of the object runs on the changed object. -/
theorem run_setIface_bind {α : Type} (f : RemoteInterface → RemoteInterface) (next : Unit → Call α)
    (s : Sys) : (setIface f >>= next).run s = (next ()).run { s with iface := f s.iface } := rfl

/-- A question is numbered by those before it. -/
@[simp] theorem run_tick (s : Sys) :
    tick.run s = .ok s.world.tick { s with world.tick := s.world.tick + 1 } := rfl

/-- An event is recorded after those before it. -/
@[simp] theorem run_emit (event : Event) (s : Sys) :
    (emit event).run s = .ok () { s with world.trace := s.world.trace ++ [event] } := rfl

/-- A result that is no call: its value is returned, its exception thrown. -/
def lift {α : Type} : Except Exn α → Call α
  | .ok a => pure a
  | .error e => throw e

/-- Lifting a value returns it. -/
@[simp] theorem lift_ok {α : Type} (a : α) : lift (.ok a) = pure a := rfl

/-- Lifting an exception throws it. -/
@[simp] theorem lift_error {α : Type} (e : Exn) : (lift (.error e) : Call α) = throw e := rfl

end RcDynamics
