import Mathlib.Data.List.TakeWhile
import Tlsurl.Http.Utf8
import Tlsurl.Identity.Group

/-! `IpAddr::from_str`, as the parser of `core::net` reads a text byte by byte. -/

namespace Tlsurl.Net

open Identity

/-- `Parser::read_given_char` -/
def readGivenChar (char : UInt8) : Str → Option (Unit × Str)
  | [] => none
  | byte :: rest => if byte = char then some ((), rest) else none

def isDigit (radix : Nat) (byte : UInt8) : Bool := (toDigit radix byte).isSome

/-- `Parser::read_number`, of a type that holds the numbers below a limit -/
def readNumber (radix maxDigits limit : Nat) (allowZeroPrefix : Bool) (text : Str)
    : Option (Nat × Str) :=
  let digits := text.takeWhile (isDigit radix)
  let value := (digits.filterMap (toDigit radix)).foldl (fun value digit => value * radix + digit) 0
  if digits.length = 0 ∨ maxDigits < digits.length then none
  else if allowZeroPrefix = false ∧ text.head? = some 48 ∧ 1 < digits.length then none
  else if value < limit then some (value, text.dropWhile (isDigit radix))
  else none

/-- `Parser::read_separator` -/
def readSeparator {α : Type} (separator : UInt8) (index : Nat) (inner : Str → Option (α × Str))
    (text : Str)
    : Option (α × Str) :=
  if 0 < index then (readGivenChar separator text).bind (fun read => inner read.2)
  else inner text

/-- A number of an IPv4 address -/
def readOctet (index : Nat) : Str → Option (Nat × Str) :=
  readSeparator 46 index (readNumber 10 3 (2 ^ 8) false)

/-- `Parser::read_ipv4_addr` -/
def readIpv4Addr (text : Str) : Option (BitVec 32 × Str) := do
  let (first, text) ← readOctet 0 text
  let (second, text) ← readOctet 1 text
  let (third, text) ← readOctet 2 text
  let (fourth, text) ← readOctet 3 text
  return (BitVec.ofNat 32 (((first * 256 + second) * 256 + third) * 256 + fourth), text)

/-- A group of an IPv6 address -/
def readGroup (index : Nat) : Str → Option (Nat × Str) :=
  readSeparator 58 index (readNumber 16 4 (2 ^ 16) true)

/-- `read_groups` from a group on: the groups read, and whether they end in an IPv4 address -/
def readGroups (index : Nat) : (slots : Nat) → Str → (List Nat × Bool) × Str
  | 0, text => (([], false), text)
  | slots + 1, text =>
      let ipv4 := if 0 < slots then readSeparator 58 index readIpv4Addr text else none
      match ipv4 with
      | some (address, rest) =>
          (([address.toNat / 2 ^ 16, address.toNat % 2 ^ 16], true), rest)
      | none =>
          match readGroup index text with
          | none => (([], false), text)
          | some (group, rest) =>
              let ((groups, embedded), rest) := readGroups (index + 1) slots rest
              ((group :: groups, embedded), rest)

/-- `Ipv6Addr::from` eight groups -/
def ofGroups (groups : List Nat) : BitVec 128 :=
  BitVec.ofNat 128 (groups.foldl (fun value group => value * 2 ^ 16 + group) 0)

/-- `Parser::read_ipv6_addr` -/
def readIpv6Addr (text : Str) : Option (BitVec 128 × Str) :=
  let ((head, headIpv4), text) := readGroups 0 8 text
  if head.length = 8 then some (ofGroups head, text)
  else if headIpv4 then none
  else do
    let (_, text) ← readGivenChar 58 text
    let (_, text) ← readGivenChar 58 text
    let ((tail, _), text) := readGroups 0 (8 - (head.length + 1)) text
    return (ofGroups (head ++ List.replicate (8 - head.length - tail.length) 0 ++ tail), text)

/-- `Parser::read_ip_addr` -/
def readIpAddr (text : Str) : Option (IpAddr × Str) :=
  match readIpv4Addr text with
  | some (address, rest) => some (.v4 address, rest)
  | none => (readIpv6Addr text).map (fun read => (.v6 read.1, read.2))

/-- `IpAddr::from_str` -/
def parseIpAddr (text : Str) : Option IpAddr :=
  match readIpAddr text with
  | some (address, []) => some address
  | _ => none

example
    : parseIpAddr (ascii "1:2:3:4:5:6:7.8.9.10")
      = some (.v6 0x0001000200030004000500060708090A) := by
  decide

-----------------------------------------------------------------------------------------
-- What is read
-----------------------------------------------------------------------------------------

/-- A reader reads nothing but allowed bytes off the front of a text. -/
def Reads {α : Type} (allowed : UInt8 → Prop) (reader : Str → Option (α × Str)) : Prop :=
  ∀ text value rest, reader text = some (value, rest)
    → ∃ front, text = front ++ rest ∧ ∀ byte ∈ front, allowed byte

theorem readGivenChar_reads (char : UInt8) : Reads (· = char) (readGivenChar char) := by
  intro text value rest read
  cases text with
  | nil => cases read
  | cons byte others =>
      by_cases given : byte = char
      · rw [readGivenChar, if_pos given] at read
        cases read
        exact ⟨[byte], rfl, by simp [given]⟩
      · rw [readGivenChar, if_neg given] at read
        cases read

theorem readNumber_reads (radix maxDigits limit : Nat) (allowZeroPrefix : Bool)
    : Reads (isDigit radix · = true) (readNumber radix maxDigits limit allowZeroPrefix) := by
  intro text value rest read
  have left : rest = text.dropWhile (isDigit radix) := by
    simp only [readNumber] at read
    split at read
    · cases read
    · split at read
      · cases read
      · split at read
        · cases read
          rfl
        · cases read
  refine ⟨text.takeWhile (isDigit radix), ?_, fun byte member => List.mem_takeWhile_imp member⟩
  rw [left, List.takeWhile_append_dropWhile]

section Readers

variable {α β : Type} {allowed : UInt8 → Prop}

theorem Reads.mono {more : UInt8 → Prop} {reader : Str → Option (α × Str)}
    (reads : Reads allowed reader) (weaker : ∀ byte, allowed byte → more byte)
    : Reads more reader := by
  intro text value rest read
  obtain ⟨front, same, inside⟩ := reads text value rest read
  exact ⟨front, same, fun byte member => weaker byte (inside byte member)⟩

/-- Two readers one after the other, the second of which may depend on what the first read -/
theorem Reads.bind {first : Str → Option (α × Str)} {second : α → Str → Option (β × Str)}
    (one : Reads allowed first) (two : ∀ value, Reads allowed (second value))
    : Reads allowed (fun text => (first text).bind (fun read => second read.1 read.2)) := by
  intro text value rest read
  obtain ⟨⟨found, middle⟩, early, late⟩ := Option.bind_eq_some_iff.mp read
  obtain ⟨front, rfl, before⟩ := one text found middle early
  obtain ⟨back, rfl, behind⟩ := two found middle value rest late
  refine ⟨front ++ back, (List.append_assoc front back rest).symm, fun byte member => ?_⟩
  rcases List.mem_append.mp member with here | there
  · exact before byte here
  · exact behind byte there

theorem Reads.pure (value : α) : Reads allowed (fun text => some (value, text)) := by
  intro text found rest read
  cases read
  exact ⟨[], rfl, nofun⟩

theorem readSeparator_reads {separator : UInt8} (separates : allowed separator)
    {inner : Str → Option (α × Str)} (reads : Reads allowed inner) (index : Nat)
    : Reads allowed (readSeparator separator index inner) := by
  intro text value rest read
  by_cases first : 0 < index
  · rw [readSeparator, if_pos first] at read
    have given := (readGivenChar_reads separator).mono (fun byte same => same ▸ separates)
    exact given.bind (fun _ => reads) text value rest read
  · rw [readSeparator, if_neg first] at read
    exact reads text value rest read

end Readers

/-- The bytes of an IPv4 address -/
def Dotted (byte : UInt8) : Prop := byte = 46 ∨ isDigit 10 byte = true

theorem readOctet_reads (index : Nat) : Reads Dotted (readOctet index) :=
  readSeparator_reads (Or.inl rfl) ((readNumber_reads _ _ _ _).mono fun _ => Or.inr) index

theorem readIpv4Addr_reads : Reads Dotted readIpv4Addr :=
  (readOctet_reads 0).bind fun first =>
    (readOctet_reads 1).bind fun second =>
      (readOctet_reads 2).bind fun third =>
        (readOctet_reads 3).bind fun fourth =>
          .pure (BitVec.ofNat 32 (((first * 256 + second) * 256 + third) * 256 + fourth))

/-- Texts that are parsed as an IPv4 address have no other bytes. -/
theorem dotted_of_parse {text : Str} {address : BitVec 32}
    (parsed : parseIpAddr text = some (.v4 address)) {byte : UInt8} (member : byte ∈ text)
    : Dotted byte := by
  have read : readIpv4Addr text = some (address, []) := by
    rw [parseIpAddr, readIpAddr] at parsed
    cases ipv4 : readIpv4Addr text with
    | some found =>
        obtain ⟨found, rest⟩ := found
        rw [ipv4] at parsed
        cases rest with
        | nil =>
            cases parsed
            rfl
        | cons => cases parsed
    | none =>
        rw [ipv4] at parsed
        cases ipv6 : readIpv6Addr text with
        | none =>
            rw [ipv6] at parsed
            cases parsed
        | some found =>
            obtain ⟨found, rest⟩ := found
            rw [ipv6] at parsed
            cases rest <;> cases parsed
  obtain ⟨front, same, inside⟩ := readIpv4Addr_reads text address [] read
  rw [List.append_nil] at same
  exact inside byte (same ▸ member)

-----------------------------------------------------------------------------------------
-- A slash is not read
-----------------------------------------------------------------------------------------

/-- A reader leaves every slash for what is read next. -/
def LeavesSlash {α : Type} (reader : Str → Option (α × Str)) : Prop :=
  ∀ text value rest, reader text = some (value, rest) → 47 ∈ text → 47 ∈ rest

theorem Reads.leavesSlash {α : Type} {allowed : UInt8 → Prop} {reader : Str → Option (α × Str)}
    (reads : Reads allowed reader) (other : ¬ allowed 47)
    : LeavesSlash reader := by
  intro text value rest read slash
  obtain ⟨front, rfl, inside⟩ := reads text value rest read
  rcases List.mem_append.mp slash with early | later
  · exact absurd (inside 47 early) other
  · exact later

/-- A slash is no digit. -/
theorem isDigit_slash (radix : Nat) : isDigit radix 47 = false := by
  simp [isDigit, toDigit]

theorem not_dotted_slash : ¬ Dotted 47 := by
  simp [Dotted, isDigit_slash]

/-- Behind a colon, or at the front, what is read leaves slashes if it does so by itself. -/
theorem colon_leavesSlash {α : Type} {allowed : UInt8 → Prop} {inner : Str → Option (α × Str)}
    (reads : Reads allowed inner) (other : ¬ allowed 47) (index : Nat)
    : LeavesSlash (readSeparator 58 index inner) := by
  have wider : Reads (fun byte => byte = 58 ∨ allowed byte) inner := reads.mono (fun _ => Or.inr)
  refine (readSeparator_reads (Or.inl rfl) wider index).leavesSlash ?_
  rintro (colon | slash)
  · cases colon
  · exact other slash

/-- The groups of an address are read by induction on their slots. -/
theorem readGroups_leavesSlash (index slots : Nat) {text : Str} (slash : 47 ∈ text)
    : 47 ∈ (readGroups index slots text).2 := by
  induction slots generalizing index text with
  | zero => exact slash
  | succ slots ih =>
      have ipv4 := colon_leavesSlash readIpv4Addr_reads not_dotted_slash index
      have group : LeavesSlash (readGroup index) :=
        colon_leavesSlash (readNumber_reads _ _ _ _) (by simp [isDigit_slash]) index
      rw [readGroups]
      split
      next address rest read =>
        split at read
        · exact ipv4 _ _ _ read slash
        · cases read
      next =>
        split
        next => exact slash
        next value rest read => exact ih (index + 1) (group _ _ _ read slash)

theorem readIpv6Addr_leavesSlash : LeavesSlash readIpv6Addr := by
  intro text value rest read slash
  have left := readGroups_leavesSlash 0 8 slash
  rw [readIpv6Addr] at read
  generalize readGroups 0 8 text = groups at left read
  obtain ⟨⟨head, embedded⟩, middle⟩ := groups
  dsimp only at left read
  by_cases whole : head.length = 8
  · rw [if_pos whole] at read
    cases read
    exact left
  · rw [if_neg whole] at read
    cases embedded with
    | true => cases read
    | false =>
        have colons := ((readGivenChar_reads 58).bind fun _ => readGivenChar_reads 58).leavesSlash
          (by decide)
        obtain ⟨⟨_, later⟩, first, read⟩ := Option.bind_eq_some_iff.mp read
        obtain ⟨⟨_, last⟩, second, read⟩ := Option.bind_eq_some_iff.mp read
        have kept := readGroups_leavesSlash 0 (8 - (head.length + 1))
          (colons middle () last (Option.bind_eq_some_iff.mpr ⟨_, first, second⟩) left)
        cases read
        exact kept

/-- The text of an address has no slash. -/
theorem parseIpAddr_of_slash {text : Str} (slash : 47 ∈ text) : parseIpAddr text = none := by
  have left : ∀ address, readIpAddr text ≠ some (address, []) := by
    intro address read
    rw [readIpAddr] at read
    split at read
    next found rest ipv4 =>
      cases read
      exact List.not_mem_nil (readIpv4Addr_reads.leavesSlash not_dotted_slash _ _ _ ipv4 slash)
    next =>
      obtain ⟨⟨found, rest⟩, ipv6, same⟩ := Option.map_eq_some_iff.mp read
      cases same
      exact List.not_mem_nil (readIpv6Addr_leavesSlash _ _ _ ipv6 slash)
  rw [parseIpAddr]
  split
  next address read => exact absurd read (left address)
  next => rfl

end Tlsurl.Net
