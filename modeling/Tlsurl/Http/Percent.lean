import Tlsurl.Http.Utf8

/-! Percent-encoding (the crate `percent_encoding`): bytes are encoded outside ASCII and in a set
of ASCII bytes, and decoded wherever a percent sign is followed by two hexadecimal digits.
-/

namespace Tlsurl

/-- `AsciiSet` -/
abbrev AsciiSet := UInt8 → Bool

/-- `AsciiSet::add` -/
def AsciiSet.add (self : AsciiSet) (byte : UInt8) : AsciiSet :=
  fun other => self other || other == byte

/-- `AsciiSet::remove` -/
def AsciiSet.remove (self : AsciiSet) (byte : UInt8) : AsciiSet :=
  fun other => self other && other != byte

/-- `CONTROLS` -/
def AsciiSet.controls : AsciiSet := fun byte => byte < 0x20 || byte == 0x7F

/-- `NON_ALPHANUMERIC` -/
def AsciiSet.nonAlphanumeric : AsciiSet := fun byte =>
  !((48 ≤ byte && byte ≤ 57) || (65 ≤ byte && byte ≤ 90) || (97 ≤ byte && byte ≤ 122))

/-- The upper case digit of a number below sixteen -/
def hexUpper (digit : Nat) : UInt8 := (if digit < 10 then 48 + digit else 55 + digit).toUInt8

/-- Whether a byte is encoded -/
def AsciiSet.encodes (set : AsciiSet) (byte : UInt8) : Bool := 0x80 ≤ byte || set byte

/-- The bytes that stand for a byte -/
def percentEncodeByte (set : AsciiSet) (byte : UInt8) : Str :=
  if set.encodes byte then [37, hexUpper (byte.toNat / 16), hexUpper (byte.toNat % 16)]
  else [byte]

/-- `percent_encode` -/
def percentEncode (set : AsciiSet) (text : Str) : Str := text.flatMap (percentEncodeByte set)

/-- A byte that is not encoded is put before what follows it: into the same chunk, or not. -/
def joinRun (joins : Bool) (byte : UInt8) : List Str → List Str
  | [] => [[byte]]
  | chunk :: chunks =>
      if joins then (byte :: chunk) :: chunks else [byte] :: chunk :: chunks

/-- What the iterator `PercentEncode` yields: each encoded byte, and each run of other bytes. -/
def percentChunks (set : AsciiSet) : Str → List Str
  | [] => []
  | byte :: rest =>
      if set.encodes byte then percentEncodeByte set byte :: percentChunks set rest
      else
        joinRun (rest.head?.any (fun next => !set.encodes next)) byte (percentChunks set rest)

/-- `Cow` -/
inductive Cow where
  | borrowed (value : Str)
  | owned (value : Str)
  deriving DecidableEq

/-- `Cow::as_ref` -/
def Cow.asRef : Cow → Str
  | borrowed value => value
  | owned value => value

/-- `From<PercentEncode> for Cow`, which borrows what is yielded at once -/
def cowOfChunks : List Str → Cow
  | [] => .borrowed []
  | [first] => .borrowed first
  | first :: second :: rest => .owned (first ++ second ++ rest.flatten)

example : cowOfChunks (percentChunks AsciiSet.controls [10]) = .borrowed (ascii "%0A") := by
  decide

/-- `percent_decode` -/
def percentDecode : Str → Str
  | [] => []
  | [byte] => [byte]
  | [byte, other] => [byte, other]
  | byte :: high :: low :: rest =>
      if byte = 37 then
        match toDigit 16 high, toDigit 16 low with
        | some first, some second => (first * 16 + second).toUInt8 :: percentDecode rest
        | _, _ => byte :: percentDecode (high :: low :: rest)
      else byte :: percentDecode (high :: low :: rest)

example : percentDecode (ascii "a%20%4%41") = ascii "a %4A" := by
  decide

-----------------------------------------------------------------------------------------
-- What is encoded
-----------------------------------------------------------------------------------------

theorem percentEncode_cons (set : AsciiSet) (byte : UInt8) (rest : Str)
    : percentEncode set (byte :: rest) = percentEncodeByte set byte ++ percentEncode set rest :=
  List.flatMap_cons

theorem percentEncodeByte_of_not {set : AsciiSet} {byte : UInt8}
    (kept : set.encodes byte = false)
    : percentEncodeByte set byte = [byte] := by
  rw [percentEncodeByte, if_neg (by simp [kept])]

theorem joinRun_flatten (joins : Bool) (byte : UInt8) (chunks : List Str)
    : (joinRun joins byte chunks).flatten = byte :: chunks.flatten := by
  cases chunks with
  | nil => rfl
  | cons chunk chunks => cases joins <;> rfl

/-- The chunks together are the encoding, by induction on the text. -/
theorem percentChunks_flatten (set : AsciiSet) (text : Str)
    : (percentChunks set text).flatten = percentEncode set text := by
  induction text with
  | nil => rfl
  | cons byte rest ih =>
      rw [percentEncode_cons, ← ih, percentChunks]
      cases encoded : set.encodes byte with
      | true => simp
      | false =>
          rw [if_neg Bool.false_ne_true, joinRun_flatten, percentEncodeByte_of_not encoded]
          rfl

/-- Borrowed or owned, the encoding is the same. -/
theorem cowOfChunks_asRef (chunks : List Str) : (cowOfChunks chunks).asRef = chunks.flatten := by
  match chunks with
  | [] => rfl
  | [first] => simp [cowOfChunks, Cow.asRef]
  | first :: second :: rest => simp [cowOfChunks, Cow.asRef]

/-- Bytes that are encoded do not occur in the encoding. -/
theorem not_mem_percentEncode {set : AsciiSet} {byte : UInt8} (encoded : set.encodes byte = true)
    (other : byte ≠ 37 ∧ toDigit 16 byte = none) (text : Str)
    : byte ∉ percentEncode set text := by
  have digits : ∀ number < 16, (toDigit 16 (hexUpper number)).isSome = true := by decide
  have digit (number : Nat) (small : number < 16) : byte ≠ hexUpper number := by
    rintro rfl
    have some := digits number small
    rw [other.2] at some
    cases some
  intro member
  obtain ⟨source, -, member⟩ := List.mem_flatMap.mp member
  have bound : source.toNat < 256 := source.toNat_lt
  rw [percentEncodeByte] at member
  split at member
  next =>
    simp only [List.mem_cons, List.not_mem_nil, or_false] at member
    rcases member with percent | high | low
    · exact other.1 percent
    · exact digit _ (by omega) high
    · exact digit _ (by omega) low
  next kept =>
    rw [← List.mem_singleton.mp member] at kept
    exact kept encoded

-----------------------------------------------------------------------------------------
-- What is borrowed
-----------------------------------------------------------------------------------------

/-- Text of which nothing is encoded is one chunk at most, by induction on it. -/
theorem percentChunks_of_kept {set : AsciiSet} {text : Str} (kept : text.any set.encodes = false)
    : percentChunks set text = if text = [] then [] else [text] := by
  induction text with
  | nil => rfl
  | cons byte rest ih =>
      rw [List.any_cons, Bool.or_eq_false_iff] at kept
      rw [percentChunks, kept.1, if_neg Bool.false_ne_true, ih kept.2,
        if_neg (List.cons_ne_nil _ _)]
      cases rest with
      | nil => rfl
      | cons next more =>
          have joins : set.encodes next = false := by
            rw [List.any_cons, Bool.or_eq_false_iff] at kept
            exact kept.2.1
          simp [joins, joinRun]

theorem joinRun_eq_cons (joins : Bool) (byte : UInt8) (chunks : List Str)
    : ∃ first rest, joinRun joins byte chunks = first :: rest := by
  cases chunks with
  | nil => exact ⟨_, _, rfl⟩
  | cons chunk chunks =>
      cases joins with
      | true => exact ⟨_, _, rfl⟩
      | false => exact ⟨_, _, rfl⟩

theorem percentChunks_cons (set : AsciiSet) (byte : UInt8) (rest : Str)
    : ∃ first chunks, percentChunks set (byte :: rest) = first :: chunks := by
  rw [percentChunks]
  split
  · exact ⟨_, _, rfl⟩
  · exact joinRun_eq_cons _ _ _

/-- Of several bytes an encoded one is a chunk beside others, by induction on the text. -/
theorem percentChunks_several {set : AsciiSet} {text : Str}
    (encoded : text.any set.encodes = true) (several : 1 < text.length)
    : ∃ first second chunks, percentChunks set text = first :: second :: chunks := by
  induction text with
  | nil => cases encoded
  | cons byte rest ih =>
      match rest with
      | [] => exact absurd several (Nat.lt_irrefl _)
      | next :: more =>
          obtain ⟨first, chunks, split⟩ := percentChunks_cons set next more
          rw [percentChunks]
          cases here : set.encodes byte with
          | true => exact ⟨_, first, chunks, by rw [if_pos rfl, split]⟩
          | false =>
              rw [List.any_cons, here, Bool.false_or] at encoded
              rw [if_neg Bool.false_ne_true, split]
              cases joins : set.encodes next with
              | true => exact ⟨[byte], first, chunks, by simp [joins, joinRun]⟩
              | false =>
                  have beyond : 1 < (next :: more).length := by
                    rw [List.any_cons, joins, Bool.false_or, List.any_eq_true] at encoded
                    obtain ⟨other, member, _⟩ := encoded
                    have positive := List.length_pos_of_mem member
                    rw [List.length_cons]
                    omega
                  obtain ⟨chunk, second, others, chunked⟩ := ih encoded beyond
                  rw [split] at chunked
                  cases chunked
                  exact ⟨byte :: first, second, others, by simp [joins, joinRun]⟩

/-- Text is borrowed if nothing of it is encoded, and so is a single byte that is. -/
theorem cowOfChunks_cases (set : AsciiSet) (text : Str)
    : (text.any set.encodes = false ∧ cowOfChunks (percentChunks set text) = .borrowed text)
      ∨ (∃ byte, text = [byte] ∧ set.encodes byte = true
        ∧ cowOfChunks (percentChunks set text) = .borrowed (percentEncodeByte set byte))
      ∨ (text.any set.encodes = true ∧ 1 < text.length
        ∧ cowOfChunks (percentChunks set text) = .owned (percentEncode set text)) := by
  cases encoded : text.any set.encodes with
  | false =>
      refine .inl ⟨rfl, ?_⟩
      rw [percentChunks_of_kept encoded]
      split
      next empty => rw [empty]; rfl
      next => rfl
  | true =>
      right
      by_cases several : 1 < text.length
      · obtain ⟨first, second, chunks, split⟩ := percentChunks_several encoded several
        refine .inr ⟨rfl, several, ?_⟩
        rw [← percentChunks_flatten, split, cowOfChunks]
        simp
      · match text with
        | [] => cases encoded
        | [byte] =>
            have here : set.encodes byte = true := by simpa using encoded
            refine .inl ⟨byte, rfl, here, ?_⟩
            simp [percentChunks, here, cowOfChunks]
        | _ :: _ :: _ => exact absurd (by simp) several

-----------------------------------------------------------------------------------------
-- What is decoded
-----------------------------------------------------------------------------------------

/-- Two hexadecimal digits come first. -/
def TwoDigits (text : Str) : Prop :=
  ∃ high low rest first second, text = high :: low :: rest ∧ toDigit 16 high = some first
    ∧ toDigit 16 low = some second

/-- Somewhere a percent sign is followed by two hexadecimal digits. -/
def Escaped (text : Str) : Prop := ∃ front rest, text = front ++ 37 :: rest ∧ TwoDigits rest

theorem percentDecode_other {byte : UInt8} (other : byte ≠ 37) (rest : Str)
    : percentDecode (byte :: rest) = byte :: percentDecode rest := by
  match rest with
  | [] => rfl
  | [_] => rfl
  | _ :: _ :: _ => rw [percentDecode, if_neg other]

theorem percentDecode_percent {rest : Str} (bare : ¬ TwoDigits rest)
    : percentDecode (37 :: rest) = 37 :: percentDecode rest := by
  match rest with
  | [] => rfl
  | [_] => rfl
  | high :: low :: rest =>
      rw [percentDecode, if_pos rfl]
      split
      next first second =>
        exact absurd ⟨high, low, rest, _, _, rfl, first, second⟩ bare
      next => rfl

theorem percentDecode_escape {high low : UInt8} {first second : Nat}
    (highDigit : toDigit 16 high = some first) (lowDigit : toDigit 16 low = some second)
    (rest : Str)
    : percentDecode (37 :: high :: low :: rest)
      = (first * 16 + second).toUInt8 :: percentDecode rest := by
  rw [percentDecode, if_pos rfl, highDigit, lowDigit]

/-- Text is taken apart as it is decoded, by induction on its length. -/
theorem percent_induction {motive : Str → Prop} (nil : motive [])
    (other : ∀ byte rest, byte ≠ 37 → motive rest → motive (byte :: rest))
    (percent : ∀ rest, ¬ TwoDigits rest → motive rest → motive (37 :: rest))
    (escape
      : ∀ high low first second rest, toDigit 16 high = some first
        → toDigit 16 low = some second → motive rest → motive (37 :: high :: low :: rest))
    (text : Str)
    : motive text := by
  generalize size : text.length = length
  induction length using Nat.strong_induction_on generalizing text with
  | h length ih =>
      cases text with
      | nil => exact nil
      | cons byte rest =>
          have shorter : rest.length < length := by
            rw [← size, List.length_cons]
            exact Nat.lt_succ_self _
          by_cases isPercent : byte = 37
          · subst isPercent
            by_cases digits : TwoDigits rest
            · obtain ⟨high, low, rest, first, second, rfl, highDigit, lowDigit⟩ := digits
              simp only [List.length_cons] at shorter
              exact escape high low first second rest highDigit lowDigit
                (ih rest.length (by omega) rest rfl)
            · exact percent rest digits (ih rest.length shorter rest rfl)
          · exact other byte rest isPercent (ih rest.length shorter rest rfl)

/-- A percent sign is where an escape may begin. -/
theorem escaped_cons {byte : UInt8} {rest : Str}
    : Escaped (byte :: rest) ↔ byte = 37 ∧ TwoDigits rest ∨ Escaped rest := by
  constructor
  · rintro ⟨front, later, same, digits⟩
    cases front with
    | nil =>
        cases same
        exact .inl ⟨rfl, digits⟩
    | cons first front =>
        obtain ⟨rfl, rfl⟩ := List.cons.inj same
        exact .inr ⟨front, later, rfl, digits⟩
  · rintro (⟨rfl, digits⟩ | ⟨front, later, rfl, digits⟩)
    · exact ⟨[], rest, rfl, digits⟩
    · exact ⟨byte :: front, later, rfl, digits⟩

/-- Text without an escape is decoded to itself. -/
theorem percentDecode_eq_self {text : Str} (plain : ¬ Escaped text)
    : percentDecode text = text := by
  induction text using percent_induction with
  | nil => rfl
  | other byte rest different ih =>
      rw [percentDecode_other different,
        ih (fun escaped => plain (escaped_cons.mpr (.inr escaped)))]
  | percent rest bare ih =>
      rw [percentDecode_percent bare, ih (fun escaped => plain (escaped_cons.mpr (.inr escaped)))]
  | escape high low first second rest highDigit lowDigit =>
      exact absurd
        (escaped_cons.mpr (.inl ⟨rfl, high, low, rest, first, second, rfl, highDigit, lowDigit⟩))
        plain

/-- A digit is an ASCII byte. -/
theorem ascii_of_toDigit {byte : UInt8} {digit : Nat} (isDigit : toDigit 16 byte = some digit)
    : byte < 0x80 := by
  have every : ∀ value : Fin 256, (toDigit 16 (UInt8.ofFin value)).isSome = true
      → UInt8.ofFin value < 0x80 := by
    decide +kernel
  exact every byte.toFin (by simp [isDigit])

theorem asciiCount_cons (byte : UInt8) (rest : Str)
    : asciiCount (byte :: rest) = asciiCount [byte] + asciiCount rest :=
  asciiCount_append [byte] rest

/-- An escape stands for three ASCII bytes and is decoded to one byte. -/
theorem asciiCount_percentDecode (text : Str)
    : asciiCount (percentDecode text) ≤ asciiCount text
      ∧ (Escaped text → asciiCount (percentDecode text) < asciiCount text) := by
  induction text using percent_induction with
  | nil => exact ⟨Nat.le_refl _, fun ⟨front, rest, same, _⟩ => by simp at same⟩
  | other byte rest different ih =>
      rw [percentDecode_other different, asciiCount_cons, asciiCount_cons byte rest]
      refine ⟨Nat.add_le_add_left ih.1 _, fun escaped => Nat.add_lt_add_left (ih.2 ?_) _⟩
      exact (escaped_cons.mp escaped).resolve_left (fun here => different here.1)
  | percent rest bare ih =>
      rw [percentDecode_percent bare, asciiCount_cons, asciiCount_cons 37 rest]
      refine ⟨Nat.add_le_add_left ih.1 _, fun escaped => Nat.add_lt_add_left (ih.2 ?_) _⟩
      exact (escaped_cons.mp escaped).resolve_left (fun here => bare here.2)
  | escape high low first second rest highDigit lowDigit ih =>
      have three : asciiCount (37 :: high :: low :: rest) = 3 + asciiCount rest := by
        rw [asciiCount_cons, asciiCount_cons high, asciiCount_cons low]
        simp [asciiCount, ascii_of_toDigit highDigit, ascii_of_toDigit lowDigit]
        omega
      have one : asciiCount [(first * 16 + second).toUInt8] ≤ 1 := List.countP_le_length
      have shorter := ih.1
      rw [percentDecode_escape highDigit lowDigit, asciiCount_cons, three]
      exact ⟨by omega, fun _ => by omega⟩

-----------------------------------------------------------------------------------------
-- Decoding what was encoded
-----------------------------------------------------------------------------------------

/-- Neither the percent sign nor a digit is encoded. -/
def AsciiSet.KeepsEscapes (set : AsciiSet) : Prop :=
  ∀ byte, byte = 37 ∨ (toDigit 16 byte).isSome = true → set.encodes byte = false

/-- A byte is encoded as an escape of it. -/
theorem percentDecode_encodeByte {set : AsciiSet} {byte : UInt8}
    (encoded : set.encodes byte = true) (rest : Str)
    : percentDecode (percentEncodeByte set byte ++ rest) = byte :: percentDecode rest := by
  have digits : ∀ number < 16, toDigit 16 (hexUpper number) = some number := by decide
  have bound : byte.toNat < 256 := byte.toNat_lt
  rw [percentEncodeByte, if_pos encoded]
  refine (percentDecode_escape (digits _ (by omega)) (digits _ (by omega)) rest).trans ?_
  rw [Nat.div_add_mod', Nat.toUInt8, UInt8.ofNat_toNat]

/-- A digit at the start of the encoding is at the start of the text. -/
theorem percentEncode_eq_cons_iff {set : AsciiSet} (keeps : set.KeepsEscapes) {text more : Str}
    {first : UInt8} {digit : Nat} (isDigit : toDigit 16 first = some digit)
    : percentEncode set text = first :: more
      ↔ ∃ rest, text = first :: rest ∧ percentEncode set rest = more := by
  constructor
  · intro same
    cases text with
    | nil => cases same
    | cons byte rest =>
        rw [percentEncode_cons] at same
        cases encoded : set.encodes byte with
        | true =>
            rw [percentEncodeByte, if_pos encoded] at same
            rw [← (List.cons.inj same).1] at isDigit
            cases isDigit
        | false =>
            rw [percentEncodeByte_of_not encoded] at same
            obtain ⟨rfl, rfl⟩ := List.cons.inj same
            exact ⟨rest, rfl, rfl⟩
  · rintro ⟨rest, rfl, rfl⟩
    rw [percentEncode_cons, percentEncodeByte_of_not (keeps first (.inr (by simp [isDigit])))]
    rfl

/-- Two digits come first in the encoding exactly if they do in the text. -/
theorem twoDigits_percentEncode {set : AsciiSet} (keeps : set.KeepsEscapes) {text : Str}
    : TwoDigits (percentEncode set text) ↔ TwoDigits text := by
  constructor
  · rintro ⟨high, low, rest, first, second, same, highDigit, lowDigit⟩
    obtain ⟨later, rfl, next⟩ := (percentEncode_eq_cons_iff keeps highDigit).mp same
    obtain ⟨more, rfl, -⟩ := (percentEncode_eq_cons_iff keeps lowDigit).mp next
    exact ⟨high, low, more, first, second, rfl, highDigit, lowDigit⟩
  · rintro ⟨high, low, rest, first, second, rfl, highDigit, lowDigit⟩
    refine ⟨high, low, percentEncode set rest, first, second, ?_, highDigit, lowDigit⟩
    rw [percentEncode_eq_cons_iff keeps highDigit]
    exact ⟨low :: rest, rfl, (percentEncode_eq_cons_iff keeps lowDigit).mpr ⟨rest, rfl, rfl⟩⟩

/-- Encoding changes nothing that is decoded. -/
theorem percentDecode_percentEncode {set : AsciiSet} (keeps : set.KeepsEscapes) (text : Str)
    : percentDecode (percentEncode set text) = percentDecode text := by
  induction text using percent_induction with
  | nil => rfl
  | other byte rest different ih =>
      rw [percentEncode_cons, percentDecode_other different]
      cases encoded : set.encodes byte with
      | true => rw [percentDecode_encodeByte encoded, ih]
      | false =>
          rw [percentEncodeByte_of_not encoded, List.singleton_append,
            percentDecode_other different, ih]
  | percent rest bare ih =>
      rw [percentEncode_cons, percentEncodeByte_of_not (keeps 37 (.inl rfl)),
        List.singleton_append,
        percentDecode_percent (mt (twoDigits_percentEncode keeps).mp bare),
        percentDecode_percent bare, ih]
  | escape high low first second rest highDigit lowDigit ih =>
      rw [percentEncode_cons, percentEncode_cons, percentEncode_cons,
        percentEncodeByte_of_not (keeps 37 (.inl rfl)),
        percentEncodeByte_of_not (keeps high (.inr (by simp [highDigit]))),
        percentEncodeByte_of_not (keeps low (.inr (by simp [lowDigit])))]
      simp only [List.singleton_append]
      rw [percentDecode_escape highDigit lowDigit, percentDecode_escape highDigit lowDigit, ih]

/-- Text that was encoded is read back exactly if it has no escape of its own. -/
theorem lossy_percentDecode_percentEncode_iff {set : AsciiSet} (keeps : set.KeepsEscapes)
    (text : String)
    : decodeUtf8Lossy (percentDecode (percentEncode set (utf8 text))) = utf8 text
      ↔ ¬ Escaped (utf8 text) := by
  rw [percentDecode_percentEncode keeps]
  constructor
  · intro same escaped
    have count := congrArg asciiCount same
    rw [asciiCount_decodeUtf8Lossy] at count
    exact absurd count (Nat.ne_of_lt ((asciiCount_percentDecode _).2 escaped))
  · intro plain
    rw [percentDecode_eq_self plain, decodeUtf8Lossy_utf8]

end Tlsurl
