import RcDynamics.System

/-!
# Data receivers

A receiver owns a UDP socket bound to an address of this host. The port may be chosen by the
system, and is then reported to the caller. A datagram is decoded as one of three message types
from a buffer of 512 bytes.
-/

namespace RcDynamics

/-- `class DataReceiver`. -/
structure DataReceiver where
  sockfd : Nat
  ip : String
  port : BitVec 32
  /-- The port that the system bound the socket to. -/
  boundPort : BitVec 16
deriving DecidableEq, Repr

/-- `socket`: a fresh descriptor, or an exception. -/
def openSocket (env : Env) : Call Nat := do
  let n ← tick
  if env.socket n then
    modify fun s => { s with world.sockets := n :: s.world.sockets }
    return n
  else throw (.socketException "Error while creating socket!" (env.errno n))

/-- `close`. -/
def closeSocket (sockfd : Nat) : Call Unit :=
  modify fun s => { s with world.sockets := s.world.sockets.erase sockfd }

namespace DataReceiver

/-- The constructor, with the port it leaves in its reference argument. The port is narrowed to
sixteen bits for `bind`, and compared with zero before. -/
def construct (env : Env) (ipAddress : String) (port : BitVec 32) :
    Call (DataReceiver × BitVec 32) := do
  if !isValidIPAddress ipAddress then
    throw (.invalidArgument ("Given IP address is not a valid address: " ++ ipAddress))
  else
    let sockfd ← openSocket env
    let n ← tick
    match env.bind n ipAddress (port.setWidth 16) with
    | none => throw (.socketException "Error while binding socket!" (env.errno n))
    | some boundPort =>
      if port = 0 then
        let n ← tick
        if env.getsockname n then
          return (⟨sockfd, ipAddress, boundPort.setWidth 32, boundPort⟩, boundPort.setWidth 32)
        else
          closeSocket sockfd
          throw (.socketException "Error while getting socket name!" (env.errno n))
      else return (⟨sockfd, ipAddress, port, boundPort⟩, port)

/-- `setTimeout`. -/
def setTimeout (env : Env) (_receiver : DataReceiver) (_ms : Nat) : Call Unit := do
  let n ← tick
  if env.setsockopt n then return ()
  else throw (.socketException "Error while setting receive timeout!" (env.errno n))

/-- `EAGAIN`, which is `EWOULDBLOCK` on Linux. -/
def eagain : Int := 11

/-- `sizeof(_buffer)`. -/
def bufferSize : Nat := 512

/-- `receive<PbMsgType>`: nothing after a timeout. A datagram longer than the buffer is cut off,
and the result of parsing is not looked at. -/
def receiveAs (env : Env) (pbMsgType : String) : Call (Option Message) := do
  let n ← tick
  match env.recvfrom n with
  | .datagram bytes => return some (env.parseFromArray pbMsgType (bytes.take bufferSize)).2
  | .failed errno =>
    if errno = eagain then return none
    else throw (.socketException "Error during socket recvfrom!" errno)

/-- Keys of `_recv_func_map`, in its order. -/
def recvFuncMap : List String := ["Dynamics", "Frame", "Imu"]

/-- `receive`, by the name of a message type. -/
def receive (env : Env) (_receiver : DataReceiver) (pbMsgType : String) :
    Call (Option Message) := do
  emit (.receive pbMsgType)
  if pbMsgType ∈ recvFuncMap then receiveAs env pbMsgType
  else throw (.invalidArgument ("Unsupported protobuf message type '" ++ pbMsgType ++
    "'. Only the following types are supported: " ++
    String.join (recvFuncMap.map (· ++ " "))))

end DataReceiver

end RcDynamics
