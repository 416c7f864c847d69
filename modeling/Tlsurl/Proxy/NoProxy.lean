import Mathlib.Data.List.DropRight
import Tlsurl.Net.IpText
import Tlsurl.Proxy.Matcher

/-! Hosts that are not reached through a proxy (`NoProxy` of `proxy/matcher.rs`).
What an entry is documented to match is stated apart from the chain of tests that matches it.
Networks are those of the crate `ipnet`.
-/

namespace Tlsurl.Proxy

open Identity Net

-----------------------------------------------------------------------------------------
-- The matcher
-----------------------------------------------------------------------------------------

/-- `char::is_whitespace` -/
def isWhitespace (char : Char) : Bool :=
  let code := char.toNat
  (9 ≤ code && code ≤ 13) || code == 0x20 || code == 0x85 || code == 0xA0 || code == 0x1680
    || (0x2000 ≤ code && code ≤ 0x200A) || code == 0x2028 || code == 0x2029 || code == 0x202F
    || code == 0x205F || code == 0x3000

/-- `str::trim` -/
def trim (text : String) : String :=
  String.ofList ((text.toList.dropWhile isWhitespace).rdropWhile isWhitespace)

/-- `str::split` at a character -/
def split (text : String) (separator : Char) : List String :=
  (text.toList.splitOn separator).map String.ofList

/-- What is used of `ipnet::IpNet` -/
structure IpNets (Net : Type) where
  fromStr : Str → Option Net
  contains : Net → IpAddr → Bool

variable {Net : Type} (nets : IpNets Net)

/-- A network is written as an address and a prefix length with a slash between. -/
def IpNets.Slashed : Prop := ∀ {text network}, nets.fromStr text = some network → 47 ∈ text

/-- What `NoProxy::from_string` does with a part -/
def NoProxy.push (self : NoProxy Net) (part : String) : NoProxy Net :=
  match nets.fromStr (utf8 part) with
  | some network => { self with ips := self.ips ++ [.network network] }
  | none =>
      match parseIpAddr (utf8 part) with
      | some address => { self with ips := self.ips ++ [.address address] }
      | none =>
          if trim part = "" then self
          else { self with domains := self.domains ++ [part] }

/-- The parts of a list -/
def parts (noProxyList : String) : List String := (split noProxyList ',').map trim

/-- `NoProxy::from_string` -/
def NoProxy.fromString (noProxyList : String) : NoProxy Net :=
  (parts noProxyList).foldl (NoProxy.push nets) {}

/-- `IpMatcher::contains` -/
def IpMatcher.contains (ips : List (Ip Net)) (addr : IpAddr) : Bool :=
  ips.any fun
    | .address address => addr = address
    | .network network => nets.contains network addr

/-- `str::strip_prefix` of a dot -/
def stripDot : Str → Option Str
  | 46 :: rest => some rest
  | _ => none

/-- Whether an entry of `DomainMatcher::contains` lets it return true -/
def DomainMatcher.accepts (domain : Str) (d : String) : Bool :=
  let bytes := utf8 d
  if eqIgnoreAsciiCase bytes domain || (stripDot bytes).any (eqIgnoreAsciiCase · domain) then
    true
  else if (sliceFrom domain (domain.length - bytes.length)).any (eqIgnoreAsciiCase · bytes) then
    (stripDot bytes).isSome || domain[domain.length - (bytes.length + 1)]? == some 46
  else d == "*"

/-- `DomainMatcher::contains` -/
def DomainMatcher.contains (domains : List String) (domain : Str) : Bool :=
  domains.any (DomainMatcher.accepts domain)

/-- `strip_ipv6_brackets` -/
def stripIpv6Brackets (host : Str) : Str :=
  match host with
  | 91 :: rest => if rest.getLast? = some 93 then rest.dropLast else host
  | _ => host

/-- `NoProxy::contains` -/
def NoProxy.contains (self : NoProxy Net) (host : Str) : Bool :=
  match parseIpAddr (stripIpv6Brackets host) with
  | some ip => IpMatcher.contains nets self.ips ip
  | none => DomainMatcher.contains self.domains (stripIpv6Brackets host)

-----------------------------------------------------------------------------------------
-- The documented rules
-----------------------------------------------------------------------------------------

/-- Without one leading dot -/
def withoutDot (entry : Str) : Str := (stripDot entry).getD entry

/-- A text ends in another one, ignoring case. -/
def EndsIn (text ending : Str) : Prop :=
  ∃ front rest, text = front ++ rest ∧ eqIgnoreAsciiCase rest ending = true

/-- A domain entry stands for all hosts, or for a domain and its subdomains. -/
def Names (entry : String) (host : Str) : Prop :=
  entry = "*" ∨ eqIgnoreAsciiCase host (withoutDot (utf8 entry)) = true
    ∨ EndsIn host (46 :: withoutDot (utf8 entry))

/-- An entry is neither an address nor a network. -/
def IsDomain (entry : String) : Prop :=
  parseIpAddr (utf8 entry) = none ∧ nets.fromStr (utf8 entry) = none

/-- An entry is an address or a network that contains it. -/
def Holds (entry : String) (address : IpAddr) : Prop :=
  parseIpAddr (utf8 entry) = some address
    ∨ ∃ network, nets.fromStr (utf8 entry) = some network
      ∧ nets.contains network address = true

/-- Some entry of the list matches the host, whose brackets are stripped. -/
def Listed (noProxyList : String) (host : Str) : Prop :=
  ∃ entry ∈ parts noProxyList, entry ≠ ""
    ∧ ((∃ address, parseIpAddr (stripIpv6Brackets host) = some address
        ∧ Holds nets entry address)
      ∨ (parseIpAddr (stripIpv6Brackets host) = none ∧ IsDomain nets entry
        ∧ Names entry (stripIpv6Brackets host)))

-----------------------------------------------------------------------------------------
-- The tests of an entry
-----------------------------------------------------------------------------------------

theorem eqIgnoreAsciiCase_comm (left right : Str)
    : eqIgnoreAsciiCase left right = eqIgnoreAsciiCase right left := by
  rw [Bool.eq_iff_iff, eqIgnoreAsciiCase_iff, eqIgnoreAsciiCase_iff, eq_comm]

/-- Texts that are equal up to case are equally long. -/
theorem length_of_eqIgnoreAsciiCase {left right : Str}
    (alike : eqIgnoreAsciiCase left right = true)
    : left.length = right.length := by
  simpa using congrArg List.length (eqIgnoreAsciiCase_iff.mp alike)

/-- A slice is what a text ends in. -/
theorem append_of_sliceFrom {text rest : Str} {index : Nat}
    (slice : sliceFrom text index = some rest)
    : text = text.take index ++ rest := by
  by_cases boundary : isCharBoundary text index = true
  · rw [sliceFrom, if_pos boundary, Option.some.injEq] at slice
    rw [← slice, List.take_append_drop]
  · rw [sliceFrom, if_neg boundary] at slice
    cases slice

/-- The slice of the length of an entry tests whether the host ends in it. -/
theorem sliceFrom_any_iff (entry : String) (domain : Str)
    : (sliceFrom domain (domain.length - (utf8 entry).length)).any
        (eqIgnoreAsciiCase · (utf8 entry)) = true
      ↔ EndsIn domain (utf8 entry) := by
  rw [Option.any_eq_true]
  constructor
  · rintro ⟨rest, slice, alike⟩
    exact ⟨_, rest, append_of_sliceFrom slice, alike⟩
  · rintro ⟨front, rest, rfl, alike⟩
    have start : (front ++ rest).length - (utf8 entry).length = front.length := by
      rw [List.length_append, length_of_eqIgnoreAsciiCase alike, Nat.add_sub_cancel]
    exact ⟨rest, by rw [start, sliceFrom_of_eqIgnoreAsciiCase alike], alike⟩

/-- No case makes a byte a dot or a star. -/
theorem eq_of_toAsciiLowercase {byte mark : UInt8} (isMark : mark = 46 ∨ mark = 42)
    (lower : toAsciiLowercase byte = mark)
    : byte = mark := by
  have every : ∀ value : Fin 256, toAsciiLowercase (UInt8.ofFin value) = 46
        ∨ toAsciiLowercase (UInt8.ofFin value) = 42
      → UInt8.ofFin value = toAsciiLowercase (UInt8.ofFin value) := by
    decide +kernel
  exact (every byte.toFin (by rcases isMark with rfl | rfl <;> simp [lower])).trans lower

/-- To end in a dot and a text is to end in the text with a dot before it. -/
theorem endsIn_dot_iff {domain text : Str}
    : EndsIn domain (46 :: text)
      ↔ ∃ front rest, domain = front ++ 46 :: rest ∧ eqIgnoreAsciiCase rest text = true := by
  constructor
  · rintro ⟨front, rest, rfl, alike⟩
    rw [eqIgnoreAsciiCase_iff] at alike
    cases rest with
    | nil => cases alike
    | cons byte others =>
        obtain ⟨dot, same⟩ := List.cons.inj alike
        have byte_eq : byte = 46 := eq_of_toAsciiLowercase (.inl rfl) dot
        exact ⟨front, others, by rw [byte_eq], eqIgnoreAsciiCase_iff.mpr same⟩
  · rintro ⟨front, rest, rfl, alike⟩
    refine ⟨front, 46 :: rest, rfl, ?_⟩
    rw [eqIgnoreAsciiCase_iff] at alike ⊢
    rw [List.map_cons, List.map_cons, alike]

/-- An entry begins with a dot or is as it is without one. -/
theorem stripDot_cases (entry : Str)
    : (∃ rest, entry = 46 :: rest ∧ stripDot entry = some rest ∧ withoutDot entry = rest)
      ∨ stripDot entry = none ∧ withoutDot entry = entry := by
  cases stripped : stripDot entry with
  | some rest =>
      left
      cases entry with
      | nil => cases stripped
      | cons byte others =>
          by_cases dot : byte = 46
          · subst dot
            cases stripped
            exact ⟨rest, rfl, rfl, rfl⟩
          · simp [stripDot, dot] at stripped
  | none => exact .inr ⟨rfl, by rw [withoutDot, stripped, Option.getD_none]⟩

/-- The first test: the host is the entry, with or without the dot. -/
def IsNamed (entry domain : Str) : Prop :=
  eqIgnoreAsciiCase entry domain = true ∨ eqIgnoreAsciiCase domain (withoutDot entry) = true

theorem firstTest_iff {entry domain : Str}
    : (eqIgnoreAsciiCase entry domain || (stripDot entry).any (eqIgnoreAsciiCase · domain)) = true
      ↔ IsNamed entry domain := by
  rw [Bool.or_eq_true, IsNamed, eqIgnoreAsciiCase_comm domain]
  rcases stripDot_cases entry with ⟨rest, -, stripped, without⟩ | ⟨stripped, without⟩
  · rw [stripped, without, Option.any_some]
  · simp [stripped, without]

/-- A host that is the entry ends in it. -/
theorem endsIn_of_eqIgnoreAsciiCase {entry domain : Str}
    (alike : eqIgnoreAsciiCase entry domain = true)
    : EndsIn domain entry :=
  ⟨[], domain, rfl, by rwa [eqIgnoreAsciiCase_comm]⟩

/-- A host that is the entry is named by it. -/
theorem names_of_isNamed {entry : String} {domain : Str} (named : IsNamed (utf8 entry) domain)
    : Names entry domain := by
  rcases named with alike | alike
  · rcases stripDot_cases (utf8 entry) with ⟨rest, bytes, -, without⟩ | ⟨-, without⟩
    · right
      right
      rw [without, ← bytes]
      exact endsIn_of_eqIgnoreAsciiCase alike
    · right
      left
      rw [without, eqIgnoreAsciiCase_comm]
      exact alike
  · exact .inr (.inl alike)

/-- A subdomain of an entry ends in the entry. -/
theorem endsIn_of_subdomain {entry domain : Str}
    (below : EndsIn domain (46 :: withoutDot entry))
    : EndsIn domain entry := by
  rcases stripDot_cases entry with ⟨rest, bytes, -, without⟩ | ⟨-, without⟩
  · rwa [without, ← bytes] at below
  · rw [without] at below
    obtain ⟨front, rest, rfl, alike⟩ := endsIn_dot_iff.mp below
    exact ⟨front ++ [46], rest, by simp, alike⟩

/-- A host that ends in an entry, and is not it, has a byte before the entry. -/
theorem byte_before {entry domain : Str} (other : ¬ IsNamed entry domain)
    (ends : EndsIn domain entry)
    : ∃ front byte rest, domain = front ++ byte :: rest
      ∧ eqIgnoreAsciiCase rest entry = true := by
  obtain ⟨before, rest, rfl, alike⟩ := ends
  rcases List.eq_nil_or_concat before with rfl | ⟨front, byte, rfl⟩
  · rw [List.nil_append] at other
    exact absurd (.inl (by rwa [eqIgnoreAsciiCase_comm])) other
  · exact ⟨front, byte, rest, by simp, alike⟩

/-- Whether a host is a subdomain of what it ends in is decided by the byte before. -/
theorem endsIn_dot_iff_of_eq {front rest entry : Str} {byte : UInt8}
    (alike : eqIgnoreAsciiCase rest entry = true)
    : EndsIn (front ++ byte :: rest) (46 :: entry) ↔ byte = 46 := by
  rw [endsIn_dot_iff]
  constructor
  · rintro ⟨start, ending, same, ends⟩
    have length : (byte :: rest).length = (46 :: ending).length := by
      simp [length_of_eqIgnoreAsciiCase alike, length_of_eqIgnoreAsciiCase ends]
    exact (List.cons.inj (List.append_inj_right' same length)).1
  · rintro rfl
    exact ⟨front, rest, rfl, alike⟩

/-- The host that is an entry is accepted. -/
theorem accepts_of_isNamed {entry : String} {domain : Str} (named : IsNamed (utf8 entry) domain)
    : DomainMatcher.accepts domain entry = true := by
  rw [DomainMatcher.accepts, if_pos (firstTest_iff.mpr named)]

/-- A host that only ends in an entry is accepted if it is a subdomain of the entry. -/
theorem accepts_of_endsIn {entry : String} {domain : Str}
    (other : ¬ IsNamed (utf8 entry) domain) (ends : EndsIn domain (utf8 entry))
    : DomainMatcher.accepts domain entry = true
      ↔ EndsIn domain (46 :: withoutDot (utf8 entry)) := by
  rw [DomainMatcher.accepts, if_neg (fun named => other (firstTest_iff.mp named)),
    if_pos ((sliceFrom_any_iff entry domain).mpr ends)]
  rcases stripDot_cases (utf8 entry) with ⟨rest, bytes, stripped, without⟩ | ⟨stripped, without⟩
  · rw [stripped, without, ← bytes]
    exact iff_of_true rfl ends
  · rw [stripped, without, Option.isSome_none, Bool.false_or, beq_iff_eq]
    obtain ⟨front, byte, rest, rfl, alike⟩ := byte_before other ends
    rw [endsIn_dot_iff_of_eq alike, ← length_of_eqIgnoreAsciiCase alike]
    simp

/-- A host that does not end in an entry is accepted if the entry is the star. -/
theorem accepts_of_not_endsIn {entry : String} {domain : Str}
    (other : ¬ IsNamed (utf8 entry) domain) (ends : ¬ EndsIn domain (utf8 entry))
    : DomainMatcher.accepts domain entry = true ↔ entry = "*" := by
  rw [DomainMatcher.accepts, if_neg (fun named => other (firstTest_iff.mp named)),
    if_neg (fun found => ends ((sliceFrom_any_iff entry domain).mp found)), beq_iff_eq]

/-- The host ends in a star with another byte than a dot before it. -/
def Starred (host : Str) : Prop := ∃ front byte, host = front ++ [byte, 42] ∧ byte ≠ 46

theorem starred_iff {host : Str}
    : Starred host
      ↔ EndsIn host [42] ∧ ¬ IsNamed [42] host ∧ ¬ EndsIn host [46, 42] := by
  constructor
  · rintro ⟨front, byte, rfl, other⟩
    refine ⟨⟨front ++ [byte], [42], by simp, by decide⟩, ?_, ?_⟩
    · intro named
      have length : ([42] : Str).length = (front ++ [byte, 42]).length := by
        rcases named with alike | alike
        · exact length_of_eqIgnoreAsciiCase alike
        · exact (length_of_eqIgnoreAsciiCase alike).symm
      simp at length
    · rw [endsIn_dot_iff_of_eq (by decide)]
      exact other
  · rintro ⟨ends, other, separate⟩
    obtain ⟨front, byte, rest, rfl, alike⟩ := byte_before other ends
    rw [endsIn_dot_iff_of_eq alike] at separate
    have star : rest = [42] := by
      rw [eqIgnoreAsciiCase_iff] at alike
      obtain ⟨last, rfl⟩ := List.length_eq_one_iff.mp (by simpa using congrArg List.length alike)
      rw [eq_of_toAsciiLowercase (.inr rfl) (List.cons.inj alike).1]
    exact ⟨front, byte, by rw [star], separate⟩

/-- The tests are the documented rules but for a host that ends in a star. -/
theorem accepts_iff (entry : String) (domain : Str)
    : DomainMatcher.accepts domain entry = true
      ↔ Names entry domain ∧ ¬ (entry = "*" ∧ Starred domain) := by
  have star : utf8 "*" = [42] := by decide
  by_cases named : IsNamed (utf8 entry) domain
  · refine iff_of_true (accepts_of_isNamed named) ⟨names_of_isNamed named, ?_⟩
    rintro ⟨rfl, starred⟩
    rw [star] at named
    exact (starred_iff.mp starred).2.1 named
  have names : Names entry domain
      ↔ entry = "*" ∨ EndsIn domain (46 :: withoutDot (utf8 entry)) := by
    have different : ¬ eqIgnoreAsciiCase domain (withoutDot (utf8 entry)) = true :=
      fun alike => named (.inr alike)
    rw [Names, or_iff_right different]
  rw [names]
  by_cases ends : EndsIn domain (utf8 entry)
  · rw [accepts_of_endsIn named ends]
    by_cases entryStar : entry = "*"
    · subst entryStar
      rw [star] at named ends ⊢
      simp [starred_iff, named, ends, withoutDot, stripDot]
    · simp [entryStar]
  · rw [accepts_of_not_endsIn named ends]
    constructor
    · intro entryStar
      refine ⟨.inl entryStar, fun starred => ?_⟩
      rw [entryStar, star] at ends
      exact ends (starred_iff.mp starred.2).1
    · rintro ⟨entryStar | below, -⟩
      · exact entryStar
      · exact absurd (endsIn_of_subdomain below) ends

-----------------------------------------------------------------------------------------
-- What a list is parsed to
-----------------------------------------------------------------------------------------

/-- Trimming leaves nothing of blanks alone. -/
theorem trim_eq_empty_iff {text : String}
    : trim text = "" ↔ ∀ char ∈ text.toList, isWhitespace char = true := by
  rw [trim, String.ofList_eq_empty_iff, List.rdropWhile_eq_nil_iff]
  constructor
  · intro blank char member
    rw [← List.takeWhile_append_dropWhile (p := isWhitespace) (l := text.toList)] at member
    rcases List.mem_append.mp member with early | later
    · exact List.mem_takeWhile_imp early
    · exact blank char later
  · intro blank char member
    exact blank char ((List.dropWhile_sublist isWhitespace).subset member)

/-- What was trimmed and is left is not blank. -/
theorem trim_trim_eq_empty_iff {text : String} : trim (trim text) = "" ↔ trim text = "" := by
  constructor
  · intro empty
    by_contra left
    rw [trim_eq_empty_iff] at empty
    rw [trim, String.ofList_eq_empty_iff] at left
    rw [trim, String.toList_ofList] at empty
    exact List.rdropWhile_last_not _ _ left (empty _ (List.getLast_mem left))
  · intro empty
    rw [empty, trim_eq_empty_iff]
    nofun

variable {nets}

/-- A part is added to the addresses and networks. -/
theorem NoProxy.push_ips (self : NoProxy Net) (part : String)
    : (self.push nets part).ips = self.ips ++ (NoProxy.push nets {} part).ips := by
  rw [NoProxy.push, NoProxy.push]
  split
  · rfl
  · split
    · rfl
    · split <;> simp

/-- A part is added to the domains. -/
theorem NoProxy.push_domains (self : NoProxy Net) (part : String)
    : (self.push nets part).domains = self.domains ++ (NoProxy.push nets {} part).domains := by
  rw [NoProxy.push, NoProxy.push]
  split
  · simp
  · split
    · simp
    · split <;> simp

/-- What a list of parts is parsed to, by induction on the parts -/
theorem NoProxy.foldl_push (parts : List String) (self : NoProxy Net)
    : (parts.foldl (NoProxy.push nets) self).ips
        = self.ips ++ parts.flatMap (fun part => (NoProxy.push nets {} part).ips)
      ∧ (parts.foldl (NoProxy.push nets) self).domains
        = self.domains ++ parts.flatMap (fun part => (NoProxy.push nets {} part).domains) := by
  induction parts generalizing self with
  | nil => simp
  | cons part rest ih =>
      obtain ⟨ips, domains⟩ := ih (self.push nets part)
      rw [List.foldl_cons, ips, domains, push_ips self, push_domains self]
      simp

/-- A part is a domain if it is not blank and neither an address nor a network. -/
theorem NoProxy.mem_push_domains {part domain : String}
    : domain ∈ (NoProxy.push nets {} part).domains
      ↔ domain = part ∧ trim part ≠ "" ∧ IsDomain nets part := by
  rw [NoProxy.push, IsDomain]
  cases nets.fromStr (utf8 part) with
  | some network => simp
  | none =>
      cases parseIpAddr (utf8 part) with
      | some address => simp
      | none => by_cases blank : trim part = "" <;> simp [blank]

/-- A part is a network, or else an address, if it is parsed as one. -/
theorem NoProxy.mem_push_ips {part : String} {ip : Ip Net}
    : ip ∈ (NoProxy.push nets {} part).ips
      ↔ (∃ network, nets.fromStr (utf8 part) = some network ∧ ip = .network network)
        ∨ nets.fromStr (utf8 part) = none
          ∧ ∃ address, parseIpAddr (utf8 part) = some address ∧ ip = .address address := by
  rw [NoProxy.push]
  cases nets.fromStr (utf8 part) with
  | some network => simp
  | none =>
      cases parseIpAddr (utf8 part) with
      | some address => simp
      | none => by_cases blank : trim part = "" <;> simp [blank]

/-- The domains are the parts that are neither empty nor an address or a network. -/
theorem NoProxy.mem_domains {noProxyList domain : String}
    : domain ∈ (NoProxy.fromString nets noProxyList).domains
      ↔ domain ∈ parts noProxyList ∧ domain ≠ "" ∧ IsDomain nets domain := by
  rw [NoProxy.fromString, (NoProxy.foldl_push _ _).2, List.nil_append, List.mem_flatMap]
  constructor
  · rintro ⟨part, member, pushed⟩
    obtain ⟨rfl, left, isDomain⟩ := NoProxy.mem_push_domains.mp pushed
    obtain ⟨text, -, rfl⟩ := List.mem_map.mp member
    exact ⟨member, mt trim_trim_eq_empty_iff.mpr left, isDomain⟩
  · rintro ⟨member, left, isDomain⟩
    obtain ⟨text, -, rfl⟩ := List.mem_map.mp member
    exact ⟨_, member,
      NoProxy.mem_push_domains.mpr ⟨rfl, mt trim_trim_eq_empty_iff.mp left, isDomain⟩⟩

/-- The empty text is neither an address nor a network. -/
theorem ne_empty_of_holds (slashed : nets.Slashed) {entry : String} {address : IpAddr}
    (holds : Holds nets entry address)
    : entry ≠ "" := by
  rintro rfl
  rcases holds with parsed | ⟨network, parsed, -⟩
  · exact absurd parsed (by simp [show parseIpAddr (utf8 "") = none by decide])
  · exact absurd (slashed parsed) (by decide)

/-- The addresses and networks hold what the parts hold. -/
theorem contains_ips_iff (slashed : nets.Slashed) {noProxyList : String} {address : IpAddr}
    : IpMatcher.contains nets (NoProxy.fromString nets noProxyList).ips address = true
      ↔ ∃ entry ∈ parts noProxyList, Holds nets entry address := by
  rw [IpMatcher.contains, NoProxy.fromString, (NoProxy.foldl_push _ _).1, List.nil_append,
    List.any_flatMap, List.any_eq_true]
  refine exists_congr (fun entry => and_congr_right (fun _ => ?_))
  rw [List.any_eq_true, Holds]
  constructor
  · rintro ⟨ip, pushed, equal⟩
    rcases NoProxy.mem_push_ips.mp pushed with
      ⟨network, parsed, rfl⟩ | ⟨-, found, parsed, rfl⟩
    · exact .inr ⟨network, parsed, equal⟩
    · exact .inl (of_decide_eq_true equal ▸ parsed)
  · rintro (parsed | ⟨network, parsed, inside⟩)
    · have bare : nets.fromStr (utf8 entry) = none := by
        rw [Option.eq_none_iff_forall_ne_some]
        intro network found
        rw [parseIpAddr_of_slash (slashed found)] at parsed
        cases parsed
      exact ⟨.address address, NoProxy.mem_push_ips.mpr (.inr ⟨bare, address, parsed, rfl⟩),
        decide_eq_true rfl⟩
    · exact ⟨.network network, NoProxy.mem_push_ips.mpr (.inl ⟨network, parsed, rfl⟩), inside⟩

/-- The domains accept what a part names, but for the star and a host that ends in one. -/
theorem contains_domains_iff {noProxyList : String} {domain : Str}
    : DomainMatcher.contains (NoProxy.fromString nets noProxyList).domains domain = true
      ↔ ∃ entry ∈ parts noProxyList, entry ≠ "" ∧ IsDomain nets entry ∧ Names entry domain
        ∧ ¬ (entry = "*" ∧ Starred domain) := by
  simp only [DomainMatcher.contains, List.any_eq_true, NoProxy.mem_domains, accepts_iff, and_assoc]

-----------------------------------------------------------------------------------------
-- Where the tests are the rules
-----------------------------------------------------------------------------------------

variable (nets)

/-- The host ends in a star, and the star is the only entry that matches it. -/
def OnlyStarred (noProxyList : String) (host : Str) : Prop :=
  parseIpAddr (stripIpv6Brackets host) = none ∧ Starred (stripIpv6Brackets host)
    ∧ "*" ∈ parts noProxyList
    ∧ ∀ entry ∈ parts noProxyList, entry ≠ "" → IsDomain nets entry
      → Names entry (stripIpv6Brackets host) → entry = "*"

variable {nets}

/-- The host is contained exactly if it is listed, unless it ends in a star and is listed by the
star alone: a host that ends in an entry is not compared with the wildcard.
-/
theorem contains_iff_listed_iff (slashed : nets.Slashed) (noProxyList : String) (host : Str)
    : ((NoProxy.fromString nets noProxyList).contains nets host = true
        ↔ Listed nets noProxyList host)
      ↔ ¬ OnlyStarred nets noProxyList host := by
  rw [NoProxy.contains, Listed, OnlyStarred]
  cases parsed : parseIpAddr (stripIpv6Brackets host) with
  | some address =>
      refine iff_of_true ?_ nofun
      rw [contains_ips_iff slashed]
      constructor
      · rintro ⟨entry, member, holds⟩
        exact ⟨entry, member, ne_empty_of_holds slashed holds, .inl ⟨address, rfl, holds⟩⟩
      · rintro ⟨entry, member, -, ⟨found, same, holds⟩ | ⟨none, -⟩⟩
        · cases same
          exact ⟨entry, member, holds⟩
        · cases none
  | none =>
      rw [contains_domains_iff]
      constructor
      · rintro same ⟨-, starred, star, only⟩
        have domain : IsDomain nets "*" := by
          refine ⟨by decide, Option.eq_none_iff_forall_ne_some.mpr fun network found => ?_⟩
          exact absurd (slashed found) (by decide)
        obtain ⟨entry, member, left, isDomain, names, other⟩ := same.mpr
          ⟨"*", star, by decide, .inr ⟨rfl, domain, .inl rfl⟩⟩
        exact other ⟨only entry member left isDomain names, starred⟩
      · intro other
        constructor
        · rintro ⟨entry, member, left, isDomain, names, -⟩
          exact ⟨entry, member, left, .inr ⟨rfl, isDomain, names⟩⟩
        · rintro ⟨entry, member, left, ⟨_, some, -⟩ | ⟨-, isDomain, names⟩⟩
          · cases some
          · by_contra missed
            -- Every entry that matches is then the star, and this one does.
            have starOnly : ∀ entry ∈ parts noProxyList, entry ≠ "" → IsDomain nets entry
                → Names entry (stripIpv6Brackets host)
                → entry = "*" ∧ Starred (stripIpv6Brackets host) := by
              intro entry member left isDomain names
              by_contra counted
              exact missed ⟨entry, member, left, isDomain, names, counted⟩
            obtain ⟨rfl, starred⟩ := starOnly entry member left isDomain names
            exact other ⟨rfl, starred, member, fun entry member left isDomain names =>
              (starOnly entry member left isDomain names).1⟩

/-- `ipnet` on lists without a network -/
def noNets : IpNets Empty where
  fromStr := fun _ => none
  contains := nofun

/-- A subdomain of an entry is contained exactly if it is listed. -/
theorem contains_iff_listed_subdomain
    : (NoProxy.fromString noNets ".foo.bar, bar.baz, *").contains noNets (ascii "hello.foo.bar")
        = true
      ↔ Listed noNets ".foo.bar, bar.baz, *" (ascii "hello.foo.bar") :=
  (@contains_iff_listed_iff _ noNets nofun _ _).mpr (by
    rintro ⟨-, ⟨front, byte, same, -⟩, -⟩
    have last : (stripIpv6Brackets (ascii "hello.foo.bar")).getLast? = some 42 := by
      rw [same, List.getLast?_append]
      rfl
    exact absurd last (by decide))

/-- The star does not match a host that ends in a star. -/
theorem star_misses_starred
    : ¬ ((NoProxy.fromString noNets "*").contains noNets (ascii "a*") = true
      ↔ Listed noNets "*" (ascii "a*")) := by
  have missed : (NoProxy.fromString noNets "*").contains noNets (ascii "a*") = false := by
    decide
  intro same
  rw [missed] at same
  exact absurd
    (same.mpr ⟨"*", by decide, by decide, .inr ⟨by decide, ⟨by decide, rfl⟩, .inl rfl⟩⟩) nofun

end Tlsurl.Proxy
