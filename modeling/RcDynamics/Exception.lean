import Mathlib.Init

/-!
# Exceptions of the library

Every way in which a call of the library ends without a value. A C++ handler names a class and
catches its derived classes; the predicates here say which handler catches which exception.
`undefined` stands for behaviour the language leaves undefined: no handler catches it, and
nothing is known of the program afterwards.
-/

namespace RcDynamics

/-- Exception classes the library throws, and undefined behaviour. -/
inductive Exn where
  /-- `std::invalid_argument`. -/
  | invalidArgument (what : String)
  /-- `std::runtime_error` itself. -/
  | runtimeError (what : String)
  /-- `RemoteInterface::InvalidState`. -/
  | invalidState (encounteredState : String)
  /-- `RemoteInterface::NotAccepted`. -/
  | notAccepted (serviceName : String)
  /-- `RemoteInterface::DynamicsNotRunning`. -/
  | dynamicsNotRunning (state : String)
  /-- `RemoteInterface::TooManyStreamDestinations`. -/
  | tooManyStreamDestinations (msg : String)
  /-- `RemoteInterface::TooManyRequests`. -/
  | tooManyRequests (url : String)
  /-- `RemoteInterface::NotAvailable`. -/
  | notAvailable (url : String)
  /-- `SocketException`. -/
  | socketException (msg : String) (errnum : Int)
  /-- `UnexpectedReceiveTimeout`. -/
  | unexpectedReceiveTimeout (timeoutMillis : Nat)
  /-- `nlohmann::detail::exception`, by class name and id. -/
  | json (name : String) (id : Nat) (msg : String)
  /-- `std::bad_alloc`, or another exception of the standard library at an allocating call. -/
  | badAlloc
  /-- Undefined behaviour. -/
  | undefined (reason : String)
deriving DecidableEq, Repr

namespace Exn

/-- `what()` of an exception. -/
def what : Exn → String
  | .invalidArgument msg => msg
  | .runtimeError msg => msg
  | .invalidState encounteredState => "Invalid state encountered: " ++ encounteredState
  | .notAccepted serviceName => "Service call not accepted: " ++ serviceName
  | .dynamicsNotRunning state =>
    "No data received: rc_dynamics is not running but in state: " ++ state
  | .tooManyStreamDestinations msg => msg
  | .tooManyRequests url =>
    "rc_visard returned http error code 429 (too many requests): " ++ url
  | .notAvailable url =>
    "Requested resource is not available on rc_visard (returned http error code 404): " ++ url
  | .socketException msg errnum => msg ++ " - " ++ toString errnum
  | .unexpectedReceiveTimeout timeoutMillis =>
    "Ran into unexpected receive timeout (" ++ toString timeoutMillis ++ "ms)! " ++
      "Possible reasons might be network issues, i.e. messages are sent by rc_visard but not " ++
      "received by this host, or a firewall on the host may be active."
  | .json name id msg => "[json.exception." ++ name ++ "." ++ toString id ++ "] " ++ msg
  | .badAlloc => "std::bad_alloc"
  | .undefined reason => reason

/-- Caught by `catch (std::exception&)`. -/
def isException : Exn → Bool
  | .undefined _ => false
  | _ => true

/-- Caught by `catch (std::logic_error&)`. The JSON exceptions derive from `std::exception`
directly and the classes of the library from `std::runtime_error`. -/
def isLogicError : Exn → Bool
  | .invalidArgument _ => true
  | _ => false

/-- Caught by `catch (std::domain_error&)`: nothing the library throws is one. -/
def isDomainError : Exn → Bool
  | _ => false

end Exn

end RcDynamics
