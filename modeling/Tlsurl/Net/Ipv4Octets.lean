import Tlsurl.Net.IpText

/-! The octets of IPv4 addresses and networks, and their text.
A network is a prefix of bits; where these are whole octets, it is a prefix of octets. Octets that
are written with dots between them are read back.
-/

namespace Tlsurl.Net

/-- `Ipv4Addr::octets` -/
def octets (address : BitVec 32) : List Nat :=
  [address.toNat / 16777216, address.toNat / 65536 % 256, address.toNat / 256 % 256,
    address.toNat % 256]

/-- The address of four octets -/
def ofOctets (octets : List Nat) : BitVec 32 :=
  BitVec.ofNat 32 (octets.foldl (fun value octet => value * 256 + octet) 0)

/-- Four octets of a network: those that are given, and zeros -/
def filled (leading : List Nat) : List Nat := leading ++ List.replicate (4 - leading.length) 0

/-- An address is in the network of some octets if they lead its own. -/
theorem shift_eq_iff {leading : List Nat} (small : ∀ octet ∈ leading, octet < 256)
    (few : leading.length ≤ 4) {address : BitVec 32}
    : address >>> (32 - leading.length * 8)
        = ofOctets (filled leading) >>> (32 - leading.length * 8)
      ↔ leading <+: octets address := by
  have bound : address.toNat < 4294967296 := address.isLt
  rw [← BitVec.toNat_inj, BitVec.toNat_ushiftRight, BitVec.toNat_ushiftRight,
    Nat.shiftRight_eq_div_pow, Nat.shiftRight_eq_div_pow, octets, ofOctets, filled]
  rcases leading with _ | ⟨first, _ | ⟨second, _ | ⟨third, _ | ⟨fourth, _ | ⟨fifth, rest⟩⟩⟩⟩⟩
  · simp
    omega
  · simp [List.cons_prefix_cons] at small ⊢
    omega
  · simp [List.cons_prefix_cons] at small ⊢
    omega
  · simp [List.cons_prefix_cons] at small ⊢
    omega
  · simp [List.cons_prefix_cons] at small ⊢
    omega
  · simp only [List.length_cons] at few
    omega

-----------------------------------------------------------------------------------------
-- Octets that are written
-----------------------------------------------------------------------------------------

/-- A number is read up to the first byte that is no digit. -/
theorem readNumber_append {radix maxDigits limit : Nat} {allowZeroPrefix : Bool}
    {digits rest : Str} (filled : digits ≠ []) (inside : ∀ byte ∈ digits, isDigit radix byte = true)
    (outside : ∀ byte ∈ rest.head?, isDigit radix byte = false)
    : readNumber radix maxDigits limit allowZeroPrefix (digits ++ rest)
      = (readNumber radix maxDigits limit allowZeroPrefix digits).map (fun read => (read.1, rest))
    := by
  have taken : (digits ++ rest).takeWhile (isDigit radix) = digits := by
    rw [List.takeWhile_append_of_pos inside]
    cases rest with
    | nil => simp
    | cons byte rest => simp [outside byte rfl]
  have left : (digits ++ rest).dropWhile (isDigit radix) = rest := by
    rw [List.dropWhile_append_of_pos inside]
    cases rest with
    | nil => rfl
    | cons byte rest => simp [outside byte rfl]
  have head : (digits ++ rest).head? = digits.head? := List.head?_append_of_ne_nil _ filled
  have alone : digits.takeWhile (isDigit radix) = digits := List.takeWhile_eq_self_iff.mpr inside
  simp only [readNumber, taken, left, head, alone]
  split
  · rfl
  · split
    · rfl
    · split <;> rfl

/-- The text of a number -/
def written (number : Nat) : Str := utf8 (toString number)

/-- Numbers of up to three digits are written in digits, and without zeros in front. -/
theorem readNumber_written {number : Nat} (small : number < 256)
    : written number ≠ [] ∧ (∀ byte ∈ written number, isDigit 10 byte = true)
      ∧ readNumber 10 3 256 false (written number) = some (number, []) := by
  have every : ∀ value : Fin 256, (written value).isEmpty = false
      ∧ (written value).all (isDigit 10) = true
      ∧ readNumber 10 3 256 false (written value) = some (value.val, []) := by
    decide +kernel
  obtain ⟨filled, digits, read⟩ := every ⟨number, small⟩
  exact ⟨List.isEmpty_eq_false_iff.mp filled, List.all_eq_true.mp digits, read⟩

/-- An octet is read where it is written, behind a dot unless it is the first. -/
theorem readOctet_written {number : Nat} (small : number < 256) {rest : Str}
    (outside : ∀ byte ∈ rest.head?, isDigit 10 byte = false)
    : readOctet 0 (written number ++ rest) = some (number, rest)
      ∧ ∀ index, 0 < index
        → readOctet index (46 :: (written number ++ rest)) = some (number, rest) := by
  obtain ⟨filled, digits, read⟩ := readNumber_written small
  have number_read : readNumber 10 3 256 false (written number ++ rest) = some (number, rest) := by
    rw [readNumber_append filled digits outside, read]
    rfl
  have dotted : readGivenChar 46 (46 :: (written number ++ rest))
      = some ((), written number ++ rest) := by
    rw [readGivenChar, if_pos rfl]
  constructor
  · simp only [readOctet, readSeparator, Nat.lt_irrefl, if_false, Nat.reducePow, number_read]
  · intro index later
    simp only [readOctet, readSeparator, later, if_true, Nat.reducePow, dotted, Option.bind_some,
      number_read]

/-- The text of an address -/
def writtenAddress (first second third fourth : Nat) : Str :=
  written first ++ 46 :: (written second ++ 46 :: (written third ++ 46 :: written fourth))

/-- An address that is written is read back, whatever is behind it but a digit. -/
theorem readIpv4Addr_written {first second third fourth : Nat} (firstSmall : first < 256)
    (secondSmall : second < 256) (thirdSmall : third < 256) (fourthSmall : fourth < 256)
    {rest : Str} (outside : ∀ byte ∈ rest.head?, isDigit 10 byte = false)
    : readIpv4Addr (writtenAddress first second third fourth ++ rest)
      = some (ofOctets [first, second, third, fourth], rest) := by
  have dot (text : Str) : ∀ byte ∈ (46 :: text).head?, isDigit 10 byte = false := by
    intro byte first
    cases first
    decide
  have four := (readOctet_written fourthSmall outside).2 3 (by decide)
  have three := (readOctet_written thirdSmall (dot (written fourth ++ rest))).2 2 (by decide)
  have two := (readOctet_written secondSmall
    (dot (written third ++ 46 :: (written fourth ++ rest)))).2 1 (by decide)
  have one := (readOctet_written firstSmall
    (dot (written second ++ 46 :: (written third ++ 46 :: (written fourth ++ rest))))).1
  simp only [readIpv4Addr, writtenAddress, List.append_assoc, List.cons_append, one, two, three,
    four, Option.bind_eq_bind, Option.bind_some, ofOctets, List.foldl_cons, List.foldl_nil,
    Nat.zero_mul, Nat.zero_add]
  rfl

end Tlsurl.Net
