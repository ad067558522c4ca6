import Mathlib.Data.List.TakeWhile
import RcDynamics.Decimal
import RcDynamics.Masks
import RcDynamics.NetUtils

/-!
# Selecting the address of this host

The selection compares addresses by bounds, after printing them and reading them back. Reading
back what was printed gives the address, and reading the address of the other host gives the one
its text denotes; between bounds lie exactly the addresses of one network, as long as the mask is
a prefix. So the selection picks the first interface in the network of the other host.
-/

namespace RcDynamics

/-- The address that a dotted-decimal text denotes, its first octet most significant. -/
def inetAddr (ip : String) : BitVec 32 :=
  BitVec.ofNat 32 (((cStr ip).splitOn '.').foldl
    (fun value digits => 256 * value + Nat.ofDigitChars 10 digits 0) 0)

/-- The mask of a network of some prefix length, `/0` to `/32`. -/
def IfAddr.PrefixMask (ifa : IfAddr) : Prop := ∃ k ≤ 32, ifa.netmask = Masks.above 32 k

/-- Four texts with points between them. -/
def dotted (a b c d : List Char) : List Char := a ++ '.' :: (b ++ '.' :: (c ++ '.' :: d))

/-- A digit is no white space. -/
theorem isSpace_of_isDigit {c : Char} (digit : c.isDigit = true) : isSpace c = false := by
  have bounds : 48 ≤ c.toNat ∧ c.toNat ≤ 57 := by
    simpa [Char.isDigit, UInt32.le_iff_toNat_le] using digit
  unfold isSpace
  apply decide_eq_false
  intro space
  simp only [List.mem_cons, List.not_mem_nil, or_false] at space
  rcases space with rfl | rfl | rfl | rfl | rfl | rfl <;> exact absurd bounds (by decide)

/-- Digits are scanned up to where something else begins. -/
theorem scanDecimal_digits {digits rest : List Char} (nonempty : digits ≠ [])
    (all : ∀ c ∈ digits, c.isDigit = true) (stop : rest.head?.all (!·.isDigit) = true) :
    scanDecimal (digits ++ rest) = some (↑(Nat.ofDigitChars 10 digits 0), rest) := by
  obtain ⟨taken, left⟩ := Decimal.takeWhile_digits rest all stop
  cases digits with
  | nil => exact absurd rfl nonempty
  | cons c tail =>
    have digit : c.isDigit = true := all c List.mem_cons_self
    have start : (c :: tail ++ rest).dropWhile isSpace = c :: tail ++ rest := by
      rw [List.cons_append, List.dropWhile_cons_of_neg (by simp [isSpace_of_isDigit digit])]
    unfold scanDecimal
    rw [start]
    split
    · rename_i sign
      rw [List.cons_append, List.cons.injEq] at sign
      rw [sign.1] at digit
      cases digit
    · rename_i sign
      rw [List.cons_append, List.cons.injEq] at sign
      rw [sign.1] at digit
      cases digit
    · simp only [taken, left, Option.map_some]

/-- The four numbers of a dotted text are scanned. -/
theorem scanAddress_dotted {a b c d : List Char}
    (digits : ∀ part ∈ [a, b, c, d], part ≠ [] ∧ ∀ x ∈ part, x.isDigit = true) :
    scanAddress (dotted a b c d) =
      some (↑(Nat.ofDigitChars 10 a 0), ↑(Nat.ofDigitChars 10 b 0), ↑(Nat.ofDigitChars 10 c 0),
        ↑(Nat.ofDigitChars 10 d 0)) := by
  obtain ⟨aSome, aAll⟩ := digits a (by simp)
  obtain ⟨bSome, bAll⟩ := digits b (by simp)
  obtain ⟨cSome, cAll⟩ := digits c (by simp)
  obtain ⟨dSome, dAll⟩ := digits d (by simp)
  have last : scanDecimal (d ++ []) = some (↑(Nat.ofDigitChars 10 d 0), []) :=
    scanDecimal_digits dSome dAll rfl
  rw [List.append_nil] at last
  unfold scanAddress dotted
  simp [scanDecimal_digits aSome aAll, scanDecimal_digits bSome bAll,
    scanDecimal_digits cSome cAll, last, scanDot]

/-- Two neighbouring octets, put together by a shift and an `or`. -/
theorem shiftLeft_or_octet (n k : Nat) {octet : Nat} (small : octet < 256) :
    n <<< (8 + k) ||| octet <<< k = (256 * n + octet) <<< k := by
  have joined : n <<< 8 + octet = n <<< 8 ||| octet :=
    Nat.shiftLeft_add_eq_or_of_lt (i := 8) small n
  rw [Nat.shiftLeft_add, ← Nat.shiftLeft_or_distrib, ← joined, Nat.shiftLeft_eq n 8]
  congr 1
  omega

/-- Octets are put together to the number they are digits of. -/
theorem shifts_octets {a b c d : Nat} (aSmall : a < 256) (bSmall : b < 256) (cSmall : c < 256)
    (dSmall : d < 256) :
    BitVec.ofInt 32 a <<< 24 ||| BitVec.ofInt 32 b <<< 16 ||| BitVec.ofInt 32 c <<< 8 |||
        BitVec.ofInt 32 d =
      BitVec.ofNat 32 (256 * (256 * (256 * a + b) + c) + d) := by
  have shifted {x : Nat} (k : Nat) (small : x < 256) (within : k ≤ 24) :
      (BitVec.ofInt 32 x <<< k).toNat = x <<< k := by
    have bound : x <<< k < 2 ^ 32 := by
      rw [Nat.shiftLeft_eq]
      calc
        x * 2 ^ k < 2 ^ 8 * 2 ^ k := Nat.mul_lt_mul_of_pos_right small (Nat.two_pow_pos k)
        _ = 2 ^ (8 + k) := (Nat.pow_add 2 8 k).symm
        _ ≤ 2 ^ 32 := Nat.pow_le_pow_right (by decide) (by omega)
    rw [BitVec.ofInt_natCast, BitVec.toNat_shiftLeft, BitVec.toNat_ofNat,
      Nat.mod_eq_of_lt (by omega : x < 2 ^ 32), Nat.mod_eq_of_lt bound]
  have unshifted := shifted 0 dSmall (by decide)
  rw [BitVec.shiftLeft_zero] at unshifted
  apply BitVec.eq_of_toNat_eq
  rw [BitVec.toNat_or, BitVec.toNat_or, BitVec.toNat_or, shifted 24 aSmall (by decide),
    shifted 16 bSmall (by decide), shifted 8 cSmall (by decide), unshifted,
    shiftLeft_or_octet a 16 bSmall, shiftLeft_or_octet _ 8 cSmall, shiftLeft_or_octet _ 0 dSmall,
    Nat.shiftLeft_zero, BitVec.toNat_ofNat]
  omega

/-- The digits of an octet. -/
structure Octet (digits : List Char) : Prop where
  nonempty : digits ≠ []
  all : ∀ c ∈ digits, c.isDigit = true
  small : Nat.ofDigitChars 10 digits 0 < 256

/-- A text of four octets is read as the number that they are digits of. -/
theorem ipToUInt_dotted {ip : String} {a b c d : List Char} (text : cStr ip = dotted a b c d)
    (octets : ∀ part ∈ [a, b, c, d], Octet part) :
    ipToUInt ip = BitVec.ofNat 32 (256 * (256 * (256 * Nat.ofDigitChars 10 a 0 +
      Nat.ofDigitChars 10 b 0) + Nat.ofDigitChars 10 c 0) + Nat.ofDigitChars 10 d 0) := by
  unfold ipToUInt
  rw [text, scanAddress_dotted fun part member => ⟨(octets part member).nonempty,
    (octets part member).all⟩]
  exact shifts_octets (octets a (by simp)).small (octets b (by simp)).small
    (octets c (by simp)).small (octets d (by simp)).small

/-- The digits of a number below 256 are an octet. -/
theorem octet_toDigits {n : Nat} (small : n < 256) : Octet (Nat.toDigits 10 n) where
  nonempty := Nat.toDigits_ne_nil
  all := Decimal.isDigit_toDigits n
  small := by rwa [Nat.ofDigitChars_ten_toDigits]

/-- The text of an address. -/
theorem toList_inetNtop (address : BitVec 32) :
    (inetNtop address).toList =
      dotted (Nat.toDigits 10 (octet address 24)) (Nat.toDigits 10 (octet address 16))
        (Nat.toDigits 10 (octet address 8)) (Nat.toDigits 10 (octet address 0)) := by
  simp [inetNtop, dotted, String.toList_append]

/-- An address is printed in digits and dots. -/
theorem inetNtop_chars {address : BitVec 32} {c : Char} (member : c ∈ (inetNtop address).toList) :
    c.isDigit = true ∨ c = '.' := by
  have digit {n : Nat} (within : c ∈ Nat.toDigits 10 n) : c.isDigit = true :=
    Decimal.isDigit_toDigits n c within
  rw [toList_inetNtop] at member
  simp only [dotted, List.mem_append, List.mem_cons] at member
  rcases member with a | dot | b | dot | c' | dot | d
  · exact Or.inl (digit a)
  · exact Or.inr dot
  · exact Or.inl (digit b)
  · exact Or.inr dot
  · exact Or.inl (digit c')
  · exact Or.inr dot
  · exact Or.inl (digit d)

/-- A printed address consists of four octets. -/
theorem cStr_inetNtop (address : BitVec 32) :
    cStr (inetNtop address) =
      dotted (Nat.toDigits 10 (octet address 24)) (Nat.toDigits 10 (octet address 16))
        (Nat.toDigits 10 (octet address 8)) (Nat.toDigits 10 (octet address 0)) := by
  unfold cStr
  rw [← toList_inetNtop, List.takeWhile_eq_self_iff]
  intro c member
  rcases inetNtop_chars member with digit | rfl
  · rw [decide_eq_true_eq]
    rintro rfl
    cases digit
  · rfl

/-- The address of this host is printed in ASCII. -/
theorem getThisHostsIP_ascii {interfaces : List IfAddr}
    {otherHostsIp networkInterface address : String}
    (found : getThisHostsIP interfaces otherHostsIp networkInterface = some address) :
    ∀ c ∈ address.toList, c.toNat < 128 := by
  induction interfaces with
  | nil => cases found
  | cons ifa rest ih =>
    rw [getThisHostsIP] at found
    split_ifs at found
    · cases found
      intro c member
      rcases inetNtop_chars member with digit | rfl
      · exact Decimal.ascii_of_isDigit digit
      · decide
    · exact ih found

/-- Printing an address and reading it back gives the address. -/
theorem ipToUInt_inetNtop (address : BitVec 32) : ipToUInt (inetNtop address) = address := by
  have small (shift : Nat) : octet address shift < 256 := Nat.mod_lt _ (by decide)
  have octets : ∀ part ∈ [Nat.toDigits 10 (octet address 24), Nat.toDigits 10 (octet address 16),
      Nat.toDigits 10 (octet address 8), Nat.toDigits 10 (octet address 0)], Octet part := by
    simp [octet_toDigits, small]
  have bound := address.isLt
  rw [ipToUInt_dotted (cStr_inetNtop address) octets]
  apply BitVec.eq_of_toNat_eq
  simp only [Nat.ofDigitChars_ten_toDigits, octet, BitVec.toNat_ushiftRight, BitVec.toNat_ofNat,
    Nat.shiftRight_eq_div_pow]
  omega

/-- The octets that `inet_pton` accepts. -/
theorem Octet.of_isOctet {digits : List Char} (accepted : isOctet digits = true) :
    Octet digits := by
  unfold isOctet at accepted
  simp only [Bool.and_eq_true, decide_eq_true_eq] at accepted
  obtain ⟨⟨⟨nonempty, all⟩, _⟩, small⟩ := accepted
  exact ⟨nonempty, List.all_eq_true.mp all, Nat.lt_succ_of_le small⟩

/-- A valid address is read as the address it denotes. -/
theorem ipToUInt_of_valid {ip : String} (valid : isValidIPAddress ip = true) :
    ipToUInt ip = inetAddr ip := by
  unfold isValidIPAddress at valid
  simp only [Bool.and_eq_true, decide_eq_true_eq] at valid
  obtain ⟨four, accepted⟩ := valid
  obtain ⟨a, b, c, d, parts⟩ : ∃ a b c d, (cStr ip).splitOn '.' = [a, b, c, d] :=
    List.length_eq_four.mp four
  have text : cStr ip = dotted a b c d := by
    have joined : ['.'].intercalate ((cStr ip).splitOn '.') = cStr ip :=
      List.intercalate_splitOn '.'
    rw [← joined, parts]
    simp [dotted]
  rw [parts] at accepted
  have octets : ∀ part ∈ [a, b, c, d], Octet part := fun part member =>
    Octet.of_isOctet (List.all_eq_true.mp accepted part member)
  rw [ipToUInt_dotted text octets, inetAddr, parts]
  simp

/-- With a prefix mask the test of bounds is the test that address and other host are in one
network. -/
theorem isIPInRange_iff {ifa : IfAddr} (mask : ifa.PrefixMask) {otherHostsIp : String}
    (valid : isValidIPAddress otherHostsIp = true) :
    isIPInRange (inetNtop ifa.addr) otherHostsIp (inetNtop ifa.netmask) = true ↔
      ifa.addr &&& ifa.netmask = inetAddr otherHostsIp &&& ifa.netmask := by
  obtain ⟨k, within, prefixed⟩ := mask
  unfold isIPInRange
  simp only [ipToUInt_inetNtop, ipToUInt_of_valid valid, prefixed, Bool.and_eq_true,
    decide_eq_true_eq]
  exact Masks.between_iff within ifa.addr (inetAddr otherHostsIp)

/-- The address selected is that of the first interface considered that is in the network of the
other host; none is selected when there is no such interface. -/
theorem getThisHostsIP_eq_first {interfaces : List IfAddr}
    (masks : ∀ ifa ∈ interfaces, ifa.inet = true → ifa.PrefixMask) {otherHostsIp : String}
    (valid : isValidIPAddress otherHostsIp = true) (networkInterface : String) :
    getThisHostsIP interfaces otherHostsIp networkInterface =
      (interfaces.find? fun ifa => ifa.considered networkInterface &&
        decide (ifa.addr &&& ifa.netmask = inetAddr otherHostsIp &&& ifa.netmask)).map
          fun ifa => inetNtop ifa.addr := by
  induction interfaces with
  | nil => rfl
  | cons ifa rest ih =>
    have later := ih fun other member => masks other (List.mem_cons_of_mem ifa member)
    have test : (ifa.considered networkInterface &&
          isIPInRange (inetNtop ifa.addr) otherHostsIp (inetNtop ifa.netmask)) =
        (ifa.considered networkInterface &&
          decide (ifa.addr &&& ifa.netmask = inetAddr otherHostsIp &&& ifa.netmask)) := by
      cases considered : ifa.considered networkInterface with
      | false => rfl
      | true =>
        have inet : ifa.inet = true := by
          unfold IfAddr.considered at considered
          exact (Bool.and_eq_true_iff.mp considered).1
        have range := isIPInRange_iff (masks ifa List.mem_cons_self inet) valid
        rw [Bool.true_and, Bool.true_and, Bool.eq_iff_iff, range, decide_eq_true_iff]
    rw [getThisHostsIP, test, later, List.find?_cons]
    split_ifs with found
    · rw [found]
      rfl
    · rw [Bool.not_eq_true] at found
      rw [found]

/-- On a host with two networks, the address in the one of the device is selected. -/
theorem getThisHostsIP_eth0 :
    getThisHostsIP [⟨"lo", true, 0x7f000001#32, 0xff000000#32⟩,
        ⟨"eth0", true, 0xc0a80005#32, 0xffffff00#32⟩] "192.168.0.20" "" = some "192.168.0.5" := by
  rw [getThisHostsIP_eq_first _ (by decide)]
  · decide
  · intro ifa member _
    simp only [List.mem_cons, List.not_mem_nil, or_false] at member
    rcases member with rfl | rfl
    · exact ⟨24, by decide, by decide⟩
    · exact ⟨8, by decide, by decide⟩

end RcDynamics
