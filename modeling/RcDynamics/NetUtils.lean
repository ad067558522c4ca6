import Mathlib.Init

/-!
# Host addresses

Finding the address of this host from which the device can be reached. Addresses travel as
text: the interface entries are printed by `inet_ntop` and read back by `sscanf` before they
are compared, so both conversions are part of the selection.
-/

namespace RcDynamics

/-- The characters of a `std::string` as a C function sees them. -/
def cStr (s : String) : List Char := s.toList.takeWhile (· ≠ '\x00')

/-- White space skipped by a numeric conversion. -/
def isSpace (c : Char) : Bool := c ∈ [' ', '\t', '\n', '\x0b', '\x0c', '\r']

/-- The conversion `%d`: white space, an optional sign and digits; the remaining text with the
number. -/
def scanDecimal (text : List Char) : Option (Int × List Char) :=
  let unsigned (digits : List Char) : Option (Nat × List Char) :=
    match digits.takeWhile Char.isDigit with
    | [] => none
    | read => some (Nat.ofDigitChars 10 read 0, digits.dropWhile Char.isDigit)
  match text.dropWhile isSpace with
  | '-' :: rest => (unsigned rest).map fun (value, rest) => (-value, rest)
  | '+' :: rest => (unsigned rest).map fun (value, rest) => (value, rest)
  | rest => (unsigned rest).map fun (value, rest) => (value, rest)

/-- The literal `.` of a conversion format. -/
def scanDot : List Char → Option (List Char)
  | '.' :: rest => some rest
  | _ => none

/-- `sscanf(ip, "%d.%d.%d.%d", …)`, when all four numbers are converted. -/
def scanAddress (text : List Char) : Option (Int × Int × Int × Int) := do
  let (a, rest) ← scanDecimal text
  let rest ← scanDot rest
  let (b, rest) ← scanDecimal rest
  let rest ← scanDot rest
  let (c, rest) ← scanDecimal rest
  let rest ← scanDot rest
  let (d, _) ← scanDecimal rest
  some (a, b, c, d)

/-- `ipToUInt`: zero when the text has no four numbers. A number beyond an `int`, which `sscanf`
leaves open, wraps. -/
def ipToUInt (ip : String) : BitVec 32 :=
  match scanAddress (cStr ip) with
  | none => 0
  | some (a, b, c, d) =>
    BitVec.ofInt 32 a <<< 24 ||| BitVec.ofInt 32 b <<< 16 ||| BitVec.ofInt 32 c <<< 8 |||
      BitVec.ofInt 32 d

/-- `isIPInRange`: the address lies between the lowest and the highest one of the network. -/
def isIPInRange (ip network mask : String) : Bool :=
  let ipAddr := ipToUInt ip
  let networkAddr := ipToUInt network
  let maskAddr := ipToUInt mask
  let netLower := networkAddr &&& maskAddr
  let netUpper := netLower ||| ~~~maskAddr
  decide (netLower ≤ ipAddr) && decide (ipAddr ≤ netUpper)

/-- The octet of an address that starts at a bit. -/
def octet (address : BitVec 32) (shift : Nat) : Nat := (address >>> shift).toNat % 256

/-- `inet_ntop(AF_INET, …)`: the dotted-decimal text of an address. -/
def inetNtop (address : BitVec 32) : String :=
  toString (octet address 24) ++ "." ++ toString (octet address 16) ++ "." ++
    toString (octet address 8) ++ "." ++ toString (octet address 0)

/-- An octet as `inet_pton` accepts it: decimal without leading zeros, at most 255. -/
def isOctet (digits : List Char) : Bool :=
  digits ≠ [] && digits.all Char.isDigit && (digits.length = 1 || digits.head? ≠ some '0') &&
    decide (Nat.ofDigitChars 10 digits 0 ≤ 255)

/-- `isValidIPAddress`: `inet_pton(AF_INET, …)` accepts the text. -/
def isValidIPAddress (ip : String) : Bool :=
  let octets := (cStr ip).splitOn '.'
  decide (octets.length = 4) && octets.all isOctet

/-- One entry of the list returned by `getifaddrs`. -/
structure IfAddr where
  /-- `ifa_name`. -/
  name : String
  /-- `ifa_addr` has the family `AF_INET`. -/
  inet : Bool
  /-- The address, its first octet most significant. -/
  addr : BitVec 32
  /-- `ifa_netmask`. -/
  netmask : BitVec 32
deriving DecidableEq, Repr

/-- The entries that the loop of `getThisHostsIP` compares with the other host. -/
def IfAddr.considered (networkInterface : String) (ifa : IfAddr) : Bool :=
  ifa.inet && (networkInterface.isEmpty || decide (cStr networkInterface = cStr ifa.name))

/-- `getThisHostsIP` on POSIX: the text of the first considered address in the network of the
other host; nothing when there is none, and then the output argument is left alone. -/
def getThisHostsIP (interfaces : List IfAddr) (otherHostsIp networkInterface : String) :
    Option String :=
  match interfaces with
  | [] => none
  | ifa :: rest =>
    let addressBuffer := inetNtop ifa.addr
    let netmaskBuffer := inetNtop ifa.netmask
    if ifa.considered networkInterface && isIPInRange addressBuffer otherHostsIp netmaskBuffer
    then some addressBuffer
    else getThisHostsIP rest otherHostsIp networkInterface

example : getThisHostsIP
    [⟨"lo", true, 0x7f000001#32, 0xff000000#32⟩, ⟨"eth0", true, 0xc0a80005#32, 0xffffff00#32⟩]
    "192.168.0.20" "" = some "192.168.0.5" := by decide

end RcDynamics
