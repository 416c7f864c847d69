import Tlsurl.Net.Ipv4Octets
import Tlsurl.Proxy.Windows

/-! What the hosts are that a bypass list of Windows stands for.
Each kind of entry is translated to the part of a proxy list that stands for the same hosts, and
no part is affected by its neighbours. The networks of `ipnet` are those that are documented.
-/

namespace Tlsurl.Proxy

open Identity Library Net

-----------------------------------------------------------------------------------------
-- Entries
-----------------------------------------------------------------------------------------

/-- A label of decimal digits is an octet. -/
structure IsOctet (label : String) (octet : Nat) : Prop where
  digits : label.toList ≠ [] ∧ ∀ char ∈ label.toList, char.isDigit = true
  value : Nat.ofDigitChars 10 label.toList 0 = octet
  small : octet < 256

/-- One to three octets, and then nothing but stars -/
def IsPrefix (entry : String) (octets : List Nat) : Prop :=
  ∃ labels stars, List.Forall₂ IsOctet labels octets ∧ 1 ≤ octets.length ∧ octets.length ≤ 3
    ∧ entry = ".".intercalate (labels ++ List.replicate (stars + 1) "*")

/-- A full IPv4 address -/
def IsAddress (entry : String) (address : BitVec 32) : Prop :=
  parseIpAddr (utf8 entry) = some (.v4 address)

/-- A name that is no IP address: it does not begin with a dot, and has neither blanks nor the
characters that mean something in a list.
-/
structure IsDnsName (name : String) : Prop where
  filled : name ≠ ""
  inner : name.toList.head? ≠ some '.'
  plain : ∀ char ∈ name.toList, isWhitespace char = false ∧ char ∉ ['*', ',', '/']
  unparsed : parseIpAddr (utf8 name) = none

/-- A name, or a star and a name -/
def IsDomainEntry (entry name : String) : Prop :=
  IsDnsName name ∧ (entry = name ∨ entry = "*." ++ name)

/-- The kinds of entries -/
inductive IsEntry (entry : String) : Prop where
  | leading (octets : List Nat) (isPrefix : IsPrefix entry octets)
  | address (address : BitVec 32) (isAddress : IsAddress entry address)
  | domain (name : String) (isDomain : IsDomainEntry entry name)

/-- An entry stands for an address: it is a prefix of its octets, or the address. -/
def HoldsAddress (entry : String) (address : BitVec 32) : Prop :=
  (∃ leading, IsPrefix entry leading ∧ leading <+: octets address) ∨ IsAddress entry address

/-- An entry stands for a host: the host has its name or is a subdomain, in whatever case. -/
def NamesHost (entry : String) (host : Str) : Prop :=
  ∃ name, IsDomainEntry entry name
    ∧ (eqIgnoreAsciiCase host (utf8 name) = true ∨ EndsIn host (46 :: utf8 name))

/-- The part of a proxy list that an entry becomes -/
def bypassPart (entry : String) : String := removeWildcards (normalizeEntry entry)

-----------------------------------------------------------------------------------------
-- Networks
-----------------------------------------------------------------------------------------

/-- A network as it is written -/
def cidrText (octets : List Nat) (length : Nat) : String :=
  ".".intercalate (octets.map toString) ++ "/" ++ toString length

/-- Four octets and a length are read as the network of the addresses that agree with the octets
in as many bits.
-/
def IpNets.ReadsCidr {Net : Type} (nets : IpNets Net) : Prop :=
  ∀ octets length, octets.length = 4 → (∀ octet ∈ octets, octet < 256) → length ≤ 32
    → ∃ network, nets.fromStr (utf8 (cidrText octets length)) = some network
      ∧ ∀ address : BitVec 32, nets.contains network (.v4 address) = true
        ↔ address >>> (32 - length) = ofOctets octets >>> (32 - length)

-----------------------------------------------------------------------------------------
-- Prefixes
-----------------------------------------------------------------------------------------

theorem IsOctet.notMem {label : String} {octet : Nat} (isOctet : IsOctet label octet) {char : Char}
    (notDigit : char.isDigit = false)
    : char ∉ label.toList := by
  intro member
  rw [isOctet.digits.2 char member] at notDigit
  cases notDigit

/-- The digits of an octet are read as a number without a sign. -/
theorem IsOctet.parseI32 {label : String} {octet : Nat} (isOctet : IsOctet label octet)
    : parseI32 label = some (octet : Int) := by
  obtain ⟨⟨filled, digits⟩, value, small⟩ := isOctet
  have all : label.toList.all Char.isDigit = true := List.all_eq_true.mpr digits
  have inside : (-2147483648 : Int) ≤ octet ∧ (octet : Int) ≤ 2147483647 := by omega
  unfold Proxy.parseI32
  split
  next negative text read =>
    split at read
    next rest sign =>
      rw [sign] at digits
      exact absurd (digits '-' List.mem_cons_self) (by decide)
    next rest sign =>
      rw [sign] at digits
      exact absurd (digits '+' List.mem_cons_self) (by decide)
    next =>
      cases read
      simp [filled, all, value, inside]

/-- All labels before the stars are read, by induction on them. -/
theorem mapM_parseI32 {labels : List String} {octets : List Nat}
    (areOctets : List.Forall₂ IsOctet labels octets)
    : labels.mapM parseI32 = some (octets.map Int.ofNat) := by
  induction areOctets with
  | nil => rfl
  | cons isOctet _ ih => simp [isOctet.parseI32, ih]

/-- A prefix is translated to the network of its octets. -/
theorem IsPrefix.ipv4WildcardToCidr {entry : String} {octets : List Nat}
    (isPrefix : IsPrefix entry octets)
    : ipv4WildcardToCidr entry
      = some (formatCidr ((filled octets).map Int.ofNat) (octets.length * 8)) := by
  obtain ⟨labels, stars, areOctets, _, few, rfl⟩ := isPrefix
  have length : labels.length = octets.length := areOctets.length_eq
  have octet : ∀ label ∈ labels, ∃ octet, IsOctet label octet := by
    intro label member
    obtain ⟨index, inside, rfl⟩ := List.getElem_of_mem member
    exact ⟨_, areOctets.get inside (length ▸ inside)⟩
  have parts : split (".".intercalate (labels ++ List.replicate (stars + 1) "*")) '.'
      = labels ++ List.replicate (stars + 1) "*" := by
    apply pieces_intercalate
    · simp
    · intro part member
      rcases List.mem_append.mp member with label | star
      · obtain ⟨octet, isOctet⟩ := octet part label
        exact isOctet.notMem (by decide)
      · rw [List.eq_of_mem_replicate star]
        decide
  have wildcard : (labels ++ List.replicate (stars + 1) "*").findIdx? (· == "*")
      = Option.some labels.length := by
    have none : labels.findIdx? (· == "*") = Option.none := by
      rw [List.findIdx?_eq_none_iff]
      intro label member
      obtain ⟨octet, isOctet⟩ := octet label member
      rw [beq_eq_false_iff_ne]
      rintro rfl
      exact @IsOctet.notMem _ _ isOctet '*' (by decide) (by decide)
    rw [List.findIdx?_append, none, List.replicate_succ, List.findIdx?_cons]
    simp
  have onlyStars : (List.replicate (stars + 1) "*").any (· != "*") = false := by
    simp
  rw [Proxy.ipv4WildcardToCidr, parts]
  rw [wildcard, Option.bind_some, if_neg, List.take_left, mapM_parseI32 areOctets, Option.map_some,
    length, filled, List.map_append, List.map_replicate]
  · rfl
  · simp only [List.drop_left, onlyStars, Bool.false_eq_true, or_false]
    omega

theorem formatCidr_ofNat (octets : List Nat) (length : Nat)
    : formatCidr (octets.map Int.ofNat) length = cidrText octets length := by
  rw [formatCidr, cidrText, List.map_map]
  rfl

theorem isDigit_of_mem_toString {number : Nat} {char : Char}
    (member : char ∈ (toString number).toList)
    : char.isDigit = true := by
  rw [Nat.toString_eq_repr, Nat.toList_repr] at member
  exact Nat.isDigit_of_mem_toDigits (by decide) (by decide) member

/-- A network is written in digits, dots and a slash. -/
theorem mem_cidrText {octets : List Nat} {length : Nat} {char : Char}
    (member : char ∈ (cidrText octets length).toList)
    : char.isDigit = true ∨ char = '.' ∨ char = '/' := by
  rw [cidrText, String.toList_append, String.toList_append, String.toList_intercalate,
    List.mem_append, List.mem_append] at member
  rcases member with (joined | slash) | last
  · rcases mem_intercalate joined with dot | ⟨chars, among, inside⟩
    · exact Or.inr (Or.inl dot)
    · rw [List.map_map] at among
      obtain ⟨octet, _, rfl⟩ := List.mem_map.mp among
      exact Or.inl (isDigit_of_mem_toString inside)
  · exact Or.inr (Or.inr (List.mem_singleton.mp slash))
  · exact Or.inl (isDigit_of_mem_toString last)

theorem notMem_cidrText {octets : List Nat} {length : Nat} {char : Char}
    (notDigit : char.isDigit = false) (notDot : char ≠ '.') (notSlash : char ≠ '/')
    : char ∉ (cidrText octets length).toList := by
  intro member
  rcases mem_cidrText member with digit | dot | slash
  · rw [digit] at notDigit
    cases notDigit
  · exact notDot dot
  · exact notSlash slash

-----------------------------------------------------------------------------------------
-- Parts
-----------------------------------------------------------------------------------------

/-- Text without blanks is not trimmed. -/
theorem trim_of_plain {text : String} (plain : ∀ char ∈ text.toList, isWhitespace char = false)
    : trim text = text := by
  have kept : text.toList.dropWhile isWhitespace = text.toList := by
    cases chars : text.toList with
    | nil => rfl
    | cons char rest =>
        rw [List.dropWhile_cons_of_neg]
        rw [plain char (chars ▸ List.mem_cons_self)]
        exact Bool.false_ne_true
  rw [trim, kept, List.rdropWhile_eq_self_iff.mpr, String.ofList_toList]
  intro filled
  rw [plain _ (List.getLast_mem filled)]
  exact Bool.false_ne_true

/-- What is trimmed stays as it is when it is trimmed again. -/
theorem trim_trim (text : String) : trim (trim text) = trim text := by
  rw [trim, trim, String.toList_ofList]
  have kept (chars : List Char)
      : ((chars.dropWhile isWhitespace).rdropWhile isWhitespace).dropWhile isWhitespace
        = (chars.dropWhile isWhitespace).rdropWhile isWhitespace := by
    cases left : (chars.dropWhile isWhitespace).rdropWhile isWhitespace with
    | nil => rfl
    | cons char rest =>
        have front : char :: rest <+: chars.dropWhile isWhitespace :=
          left ▸ List.rdropWhile_prefix isWhitespace _
        obtain ⟨behind, same⟩ := front
        have first := List.head?_dropWhile_not isWhitespace chars
        rw [← same] at first
        exact List.dropWhile_cons_of_neg (by simpa using first)
  rw [kept, List.rdropWhile_idempotent]

/-- Where there is no star nothing is translated. -/
theorem ipv4WildcardToCidr_of_notMem {entry : String} (absent : '*' ∉ entry.toList)
    : ipv4WildcardToCidr entry = none := by
  have none : (split entry '.').findIdx? (· == "*") = none := by
    rw [List.findIdx?_eq_none_iff]
    intro piece member
    obtain ⟨chars, among, rfl⟩ := List.mem_map.mp member
    rw [beq_eq_false_iff_ne]
    intro star
    have chars_eq : chars = ['*'] := String.ofList_inj.mp star
    exact absent (mem_of_mem_splitOn among (chars_eq ▸ List.mem_cons_self))
  rw [ipv4WildcardToCidr, none]
  rfl

/-- A star in front is no prefix. -/
theorem ipv4WildcardToCidr_of_star (name : String) : ipv4WildcardToCidr ("*." ++ name) = none := by
  have parts : split ("*." ++ name) '.' = "*" :: split name '.' := by
    have front := @List.splitOn_append_cons_self_of_not_mem Char ['*'] _ _ '.' (by decide)
      name.toList
    rw [split, split, String.toList_append]
    exact congrArg (List.map String.ofList) front
  rw [ipv4WildcardToCidr, parts]
  rfl

theorem removeWildcards_of_notMem {text : String} (absent : '*' ∉ text.toList)
    : removeWildcards text = text := by
  rw [removeWildcards, removePair_of_notMem absent, String.ofList_toList]

/-- A star and a dot are removed from the front. -/
theorem removeWildcards_star (name : String)
    : removeWildcards ("*." ++ name) = removeWildcards name := by
  rw [removeWildcards, String.toList_append]
  rfl

/-- The removal works on the entries one by one. -/
theorem removeWildcards_intercalate (texts : List String)
    : removeWildcards (",".intercalate texts) = ",".intercalate (texts.map removeWildcards) := by
  rw [← String.toList_inj, removeWildcards, String.toList_ofList, String.toList_intercalate,
    String.toList_intercalate]
  have removed := @removePair_intercalate Char _ '*' '.' ',' (by decide) (by decide)
    (texts.map String.toList)
  refine removed.trans (congrArg _ ?_)
  rw [List.map_map, List.map_map]
  refine List.map_congr_left (fun text _ => ?_)
  simp [removeWildcards]

/-- Parts that are neither split nor trimmed are what a bypass list is split into. -/
theorem parts_normalizeProxyOverride {list : String}
    (plain : ∀ piece ∈ split list ';',
      ',' ∉ (bypassPart piece).toList ∧ trim (bypassPart piece) = bypassPart piece)
    : parts (normalizeProxyOverride list) = (split list ';').map bypassPart := by
  rw [parts, normalizeProxyOverride, removeWildcards_intercalate, List.map_map]
  have apart := @pieces_intercalate ',' ((split list ';').map bypassPart) (by simp [split])
    (by simpa using fun piece member => (plain piece member).1)
  refine (congrArg (List.map trim) apart).trans ?_
  rw [List.map_map]
  exact List.map_congr_left (fun piece member => (plain piece member).2)

/-- A digit is not blank. -/
theorem isWhitespace_of_isDigit {char : Char} (digit : char.isDigit = true)
    : isWhitespace char = false := by
  simp only [Char.isDigit, Bool.and_eq_true, decide_eq_true_eq, ge_iff_le, UInt32.le_iff_toNat_le]
    at digit
  have lower : 48 ≤ char.toNat := digit.1
  have upper : char.toNat ≤ 57 := digit.2
  simp only [isWhitespace, Bool.or_eq_false_iff, Bool.and_eq_false_iff, decide_eq_false_iff_not,
    beq_eq_false_iff_ne]
  omega

theorem IsPrefix.bypassPart_eq {piece : String} {octets : List Nat}
    (isPrefix : IsPrefix (trim piece) octets)
    : bypassPart piece = cidrText (filled octets) (octets.length * 8) := by
  rw [bypassPart, normalizeEntry, isPrefix.ipv4WildcardToCidr, Option.getD_some, formatCidr_ofNat]
  exact removeWildcards_of_notMem (notMem_cidrText (by decide) (by decide) (by decide))

/-- The characters of an address are digits and dots. -/
theorem IsAddress.notMem {entry : String} {address : BitVec 32}
    (isAddress : IsAddress entry address) {char : Char} {byte : UInt8} (low : byte < 0x80)
    (same : char.toNat = byte.toNat) (other : ¬ Dotted byte)
    : char ∉ entry.toList :=
  fun member => other (dotted_of_parse isAddress ((mem_utf8_iff low same).mpr member))

theorem IsAddress.bypassPart_eq {piece : String} {address : BitVec 32}
    (isAddress : IsAddress (trim piece) address)
    : bypassPart piece = trim piece := by
  have absent : '*' ∉ (trim piece).toList :=
    isAddress.notMem (by decide : (42 : UInt8) < 0x80) rfl (by simp [Dotted, isDigit, toDigit])
  rw [bypassPart, normalizeEntry, ipv4WildcardToCidr_of_notMem absent, Option.getD_none,
    removeWildcards_of_notMem absent]

theorem IsDnsName.notMem {name : String} (isDnsName : IsDnsName name) {char : Char}
    (special : char ∈ ['*', ',', '/'])
    : char ∉ name.toList :=
  fun member => (isDnsName.plain char member).2 special

theorem IsDomainEntry.bypassPart_eq {piece name : String}
    (isEntry : IsDomainEntry (trim piece) name)
    : bypassPart piece = name := by
  obtain ⟨isDnsName, whole | starred⟩ := isEntry
  · have absent : '*' ∉ name.toList := isDnsName.notMem (by decide)
    rw [bypassPart, normalizeEntry, whole, ipv4WildcardToCidr_of_notMem absent, Option.getD_none,
      removeWildcards_of_notMem absent]
  · rw [bypassPart, normalizeEntry, starred, ipv4WildcardToCidr_of_star, Option.getD_none,
      removeWildcards_star, removeWildcards_of_notMem (isDnsName.notMem (by decide))]

/-- The part that an entry becomes is neither split nor trimmed. -/
theorem IsEntry.plain_part {piece : String} (isEntry : IsEntry (trim piece))
    : ',' ∉ (bypassPart piece).toList ∧ trim (bypassPart piece) = bypassPart piece := by
  cases isEntry with
  | leading octets isPrefix =>
      rw [isPrefix.bypassPart_eq]
      constructor
      · exact notMem_cidrText (by decide) (by decide) (by decide)
      · apply trim_of_plain
        intro char member
        rcases mem_cidrText member with digit | rfl | rfl
        · exact isWhitespace_of_isDigit digit
        · decide
        · decide
  | address address isAddress =>
      rw [isAddress.bypassPart_eq]
      exact ⟨isAddress.notMem (by decide : (44 : UInt8) < 0x80) rfl
        (by simp [Dotted, isDigit, toDigit]), trim_trim piece⟩
  | domain name isDomain =>
      rw [isDomain.bypassPart_eq]
      exact ⟨isDomain.1.notMem (by decide),
        trim_of_plain (fun char member => (isDomain.1.plain char member).1)⟩

-----------------------------------------------------------------------------------------
-- Hosts
-----------------------------------------------------------------------------------------

section Hosts

variable {Net : Type} {nets : IpNets Net}

/-- A part that is a prefix is a network of the addresses that begin with its octets, and no
address.
-/
theorem IsPrefix.reads_part (reads : nets.ReadsCidr) {piece : String} {leading : List Nat}
    (isPrefix : IsPrefix (trim piece) leading)
    : parseIpAddr (utf8 (bypassPart piece)) = none
      ∧ ∃ network, nets.fromStr (utf8 (bypassPart piece)) = some network
        ∧ ∀ address, nets.contains network (.v4 address) = true ↔ leading <+: octets address := by
  have same := isPrefix.bypassPart_eq
  obtain ⟨labels, stars, areOctets, _, few, _⟩ := isPrefix
  have small : ∀ octet ∈ leading, octet < 256 := by
    intro octet member
    obtain ⟨index, inside, rfl⟩ := List.getElem_of_mem member
    exact (areOctets.get (areOctets.length_eq ▸ inside) inside).small
  have smallFilled : ∀ octet ∈ filled leading, octet < 256 := by
    intro octet member
    rcases List.mem_append.mp member with given | zero
    · exact small octet given
    · rw [List.eq_of_mem_replicate zero]
      decide
  have four : (filled leading).length = 4 := by
    rw [filled, List.length_append, List.length_replicate]
    omega
  obtain ⟨network, read, contains⟩ := reads (filled leading) (leading.length * 8) four smallFilled
    (by omega)
  have slash : '/' ∈ (bypassPart piece).toList := by
    rw [same, cidrText]
    simp
  refine ⟨parseIpAddr_of_slash ((mem_utf8_iff (by decide) rfl).mpr slash), network, ?_, ?_⟩
  · rw [same, read]
  · intro address
    rw [contains, shift_eq_iff small (by omega)]

/-- Text without a slash is no network. -/
theorem fromStr_of_notMem (slashed : nets.Slashed) {text : String} (absent : '/' ∉ text.toList)
    : nets.fromStr (utf8 text) = none := by
  rw [Option.eq_none_iff_forall_ne_some]
  intro network read
  exact absent ((mem_utf8_iff (by decide) rfl).mp (slashed read))

theorem IsAddress.fromStr_part (slashed : nets.Slashed) {piece : String} {address : BitVec 32}
    (isAddress : IsAddress (trim piece) address)
    : nets.fromStr (utf8 (bypassPart piece)) = none := by
  rw [isAddress.bypassPart_eq]
  exact fromStr_of_notMem slashed
    (isAddress.notMem (by decide : (47 : UInt8) < 0x80) rfl not_dotted_slash)

/-- The part of a name is a domain. -/
theorem IsDnsName.isDomain (slashed : nets.Slashed) {name : String} (isDnsName : IsDnsName name)
    : IsDomain nets name :=
  ⟨isDnsName.unparsed, fromStr_of_notMem slashed (isDnsName.notMem (by decide))⟩

/-- A name has no dot in front. -/
theorem IsDnsName.withoutDot {name : String} (isDnsName : IsDnsName name)
    : withoutDot (utf8 name) = utf8 name := by
  rcases stripDot_cases (utf8 name) with ⟨rest, bytes, _, _⟩ | ⟨_, without⟩
  · cases chars : name.toList with
    | nil =>
        rw [utf8, chars] at bytes
        cases bytes
    | cons char others =>
        have dot : char.toNat = (46 : UInt8).toNat := by
          apply (mem_utf8EncodeChar_iff (by decide)).mp
          cases encoded : String.utf8EncodeChar char with
          | nil => exact absurd encoded String.utf8EncodeChar_ne_nil
          | cons byte more =>
              rw [utf8, chars, List.flatMap_cons, encoded] at bytes
              rw [(List.cons.inj bytes).1]
              exact List.mem_cons_self
        exact absurd (congrArg Option.some (Char.toNat_inj.mp dot)) (chars ▸ isDnsName.inner)
  · exact without

/-- A part holds the addresses that its entry stands for. -/
theorem IsEntry.holds_part_iff (slashed : nets.Slashed) (reads : nets.ReadsCidr) {piece : String}
    (isEntry : IsEntry (trim piece)) {address : BitVec 32}
    : Holds nets (bypassPart piece) (.v4 address) ↔ HoldsAddress (trim piece) address := by
  constructor
  · intro holds
    cases isEntry with
    | leading leading isPrefix =>
        obtain ⟨unparsed, network, read, contains⟩ := isPrefix.reads_part reads
        rcases holds with parsed | ⟨found, same, inside⟩
        · exact absurd (parsed.symm.trans unparsed) (Option.some_ne_none _)
        · cases read.symm.trans same
          exact Or.inl ⟨leading, isPrefix, (contains address).mp inside⟩
    | address found isAddress =>
        rcases holds with parsed | ⟨network, read, _⟩
        · rw [isAddress.bypassPart_eq] at parsed
          exact Or.inr parsed
        · exact absurd (read.symm.trans (isAddress.fromStr_part slashed)) (Option.some_ne_none _)
    | domain name isDomain =>
        obtain ⟨unparsed, unread⟩ := isDomain.1.isDomain slashed
        rw [isDomain.bypassPart_eq] at holds
        rcases holds with parsed | ⟨network, read, _⟩
        · exact absurd (parsed.symm.trans unparsed) (Option.some_ne_none _)
        · exact absurd (read.symm.trans unread) (Option.some_ne_none _)
  · intro holds
    rcases holds with ⟨leading, isPrefix, first⟩ | isAddress
    · obtain ⟨_, network, read, contains⟩ := isPrefix.reads_part reads
      exact Or.inr ⟨network, read, (contains address).mpr first⟩
    · rw [Holds, isAddress.bypassPart_eq]
      exact Or.inl isAddress

/-- A part is a domain that names the hosts that its entry stands for. -/
theorem IsEntry.names_part_iff (slashed : nets.Slashed) (reads : nets.ReadsCidr) {piece : String}
    (isEntry : IsEntry (trim piece)) {host : Str}
    : (bypassPart piece ≠ "" ∧ IsDomain nets (bypassPart piece) ∧ Names (bypassPart piece) host
        ∧ ¬ (bypassPart piece = "*" ∧ Starred host))
      ↔ NamesHost (trim piece) host := by
  have named {name : String} (isDomain : IsDomainEntry (trim piece) name)
      : Names (bypassPart piece) host
        ↔ eqIgnoreAsciiCase host (utf8 name) = true ∨ EndsIn host (46 :: utf8 name) := by
    rw [isDomain.bypassPart_eq, Names, isDomain.1.withoutDot, or_iff_right]
    rintro rfl
    exact isDomain.1.notMem (by decide : '*' ∈ _) (by decide)
  constructor
  · rintro ⟨_, ⟨unparsed, unread⟩, names, _⟩
    cases isEntry with
    | leading leading isPrefix =>
        obtain ⟨_, network, read, _⟩ := isPrefix.reads_part reads
        exact absurd (read.symm.trans unread) (Option.some_ne_none _)
    | address address isAddress =>
        rw [isAddress.bypassPart_eq] at unparsed
        exact absurd (isAddress.symm.trans unparsed) (Option.some_ne_none _)
    | domain name isDomain => exact ⟨name, isDomain, (named isDomain).mp names⟩
  · rintro ⟨name, isDomain, names⟩
    refine ⟨?_, ?_, (named isDomain).mpr names, ?_⟩
    · rw [isDomain.bypassPart_eq]
      exact isDomain.1.filled
    · rw [isDomain.bypassPart_eq]
      exact isDomain.1.isDomain slashed
    · rw [isDomain.bypassPart_eq]
      rintro ⟨rfl, _⟩
      exact isDomain.1.notMem (by decide : '*' ∈ _) (by decide)

/-- A list whose entries are prefixes, addresses and names, in any order and number, contains the
addresses that an entry stands for and, if the host is no address, the hosts that one names.
-/
theorem bypass_list_contains_iff (slashed : nets.Slashed) (reads : nets.ReadsCidr) {list : String}
    (entries : ∀ piece ∈ split list ';', IsEntry (trim piece)) (host : Str)
    : (∀ address, parseIpAddr (stripIpv6Brackets host) = some (.v4 address)
        → ((NoProxy.fromString nets (normalizeProxyOverride list)).contains nets host = true
          ↔ ∃ piece ∈ split list ';', HoldsAddress (trim piece) address))
      ∧ (parseIpAddr (stripIpv6Brackets host) = none
        → ((NoProxy.fromString nets (normalizeProxyOverride list)).contains nets host = true
          ↔ ∃ piece ∈ split list ';', NamesHost (trim piece) (stripIpv6Brackets host))) := by
  have parts_eq := @parts_normalizeProxyOverride list
    (fun piece member => (entries piece member).plain_part)
  constructor
  · intro address parsed
    rw [NoProxy.contains, parsed]
    refine (contains_ips_iff slashed).trans ?_
    rw [parts_eq]
    simp only [List.mem_map, exists_exists_and_eq_and]
    exact exists_congr fun piece => and_congr_right fun member =>
      (entries piece member).holds_part_iff slashed reads
  · intro unparsed
    rw [NoProxy.contains, unparsed]
    refine contains_domains_iff.trans ?_
    rw [parts_eq]
    simp only [List.mem_map, exists_exists_and_eq_and]
    exact exists_congr fun piece => and_congr_right fun member =>
      (entries piece member).names_part_iff slashed reads

end Hosts

-----------------------------------------------------------------------------------------
-- A sample
-----------------------------------------------------------------------------------------

/-- An IPv4 network: an address, a slash, and a length of two digits at most -/
def readCidr (text : Str) : Option (BitVec 32 × Nat) := do
  let (address, text) ← readIpv4Addr text
  let (_, text) ← readGivenChar 47 text
  let (length, text) ← readNumber 10 2 33 true text
  if text = [] then some (address, length) else none

/-- `ipnet` on lists without a network of IPv6 -/
def cidrNets : IpNets (BitVec 32 × Nat) where
  fromStr := readCidr
  contains network address :=
    match address with
    | .v4 address => address >>> (32 - network.2) = network.1 >>> (32 - network.2)
    | .v6 _ => false

theorem cidrNets_slashed : cidrNets.Slashed := by
  intro text network read
  obtain ⟨⟨address, behind⟩, first, read⟩ := Option.bind_eq_some_iff.mp read
  obtain ⟨⟨_, last⟩, second, _⟩ := Option.bind_eq_some_iff.mp read
  obtain ⟨front, rfl, _⟩ := readIpv4Addr_reads text address behind first
  cases behind with
  | nil => cases second
  | cons byte rest =>
      by_cases slash : byte = 47
      · rw [slash]
        simp
      · rw [readGivenChar, if_neg slash] at second
        cases second

/-- The bytes of a network that is written -/
theorem utf8_cidrText (first second third fourth length : Nat)
    : utf8 (cidrText [first, second, third, fourth] length)
      = writtenAddress first second third fourth ++ 47 :: written length := by
  have append (left right : String) : utf8 (left ++ right) = utf8 left ++ utf8 right := by
    simp [utf8]
  have marks : utf8 "." = [46] ∧ utf8 "/" = [47] := by decide
  simp [cidrText, writtenAddress, written, String.intercalate_cons_cons, append, marks]

/-- The length of a network is read back. -/
theorem readNumber_length {length : Nat} (fits : length ≤ 32)
    : readNumber 10 2 33 true (written length) = some (length, []) := by
  have every : ∀ value : Fin 33,
      readNumber 10 2 33 true (written value) = some (value.val, []) := by
    decide +kernel
  exact every ⟨length, Nat.lt_succ_of_le fits⟩

theorem cidrNets_readsCidr : cidrNets.ReadsCidr := by
  intro octets length four small fits
  obtain ⟨first, second, third, fourth, rfl⟩ := List.length_eq_four.mp four
  simp only [List.forall_mem_cons] at small
  obtain ⟨firstSmall, secondSmall, thirdSmall, fourthSmall, _⟩ := small
  have outside : ∀ byte ∈ (47 :: written length).head?, isDigit 10 byte = false := by
    intro byte slash
    cases slash
    decide
  have address := readIpv4Addr_written firstSmall secondSmall thirdSmall fourthSmall outside
  have slash : readGivenChar 47 (47 :: written length) = some ((), written length) := by
    rw [readGivenChar, if_pos rfl]
  refine ⟨(ofOctets [first, second, third, fourth], length), ?_, ?_⟩
  · rw [utf8_cidrText]
    simp only [cidrNets, readCidr, address, slash, readNumber_length fits, Option.bind_eq_bind,
      Option.bind_some, if_true]
  · intro address
    simp [cidrNets]

/-- A list of a prefix, an address, and a name with its subdomains -/
def sampleList : String := "10.*; 127.0.0.1; *.Example.com"

theorem sampleList_entries : ∀ piece ∈ split sampleList ';', IsEntry (trim piece) := by
  have pieces_eq : (split sampleList ';').map trim = ["10.*", "127.0.0.1", "*.Example.com"] := by
    decide +kernel
  have digits : IsOctet "10" 10 := ⟨by simp, by decide, by decide⟩
  have address : parseIpAddr (utf8 "127.0.0.1") = some (.v4 (ofOctets [127, 0, 0, 1])) := by
    decide +kernel
  have name : IsDnsName "Example.com" :=
    ⟨by decide, by decide, by simp [isWhitespace], by decide +kernel⟩
  intro piece member
  have among := List.mem_map_of_mem (f := trim) member
  rw [pieces_eq] at among
  simp only [List.mem_cons, List.not_mem_nil, or_false] at among
  rcases among with same | same | same
  · rw [same]
    exact .leading [10] ⟨["10"], 0, .cons digits .nil, by decide, by decide, by decide⟩
  · rw [same]
    exact .address (ofOctets [127, 0, 0, 1]) address
  · rw [same]
    exact .domain "Example.com" ⟨name, Or.inr (by decide)⟩

/-- An address with the octet of the prefix is contained, and so is a subdomain of the name. -/
theorem bypass_list_contains_sample
    : ((NoProxy.fromString cidrNets (normalizeProxyOverride sampleList)).contains cidrNets
          (ascii "10.1.2.3") = true
        ↔ ∃ piece ∈ split sampleList ';', HoldsAddress (trim piece) (ofOctets [10, 1, 2, 3]))
      ∧ ((NoProxy.fromString cidrNets (normalizeProxyOverride sampleList)).contains cidrNets
          (ascii "www.example.COM") = true
        ↔ ∃ piece ∈ split sampleList ';', NamesHost (trim piece) (ascii "www.example.COM")) :=
  ⟨(bypass_list_contains_iff cidrNets_slashed cidrNets_readsCidr sampleList_entries
      (ascii "10.1.2.3")).1 _ (by decide +kernel),
    (bypass_list_contains_iff cidrNets_slashed cidrNets_readsCidr sampleList_entries
      (ascii "www.example.COM")).2 (by decide +kernel)⟩

end Tlsurl.Proxy
