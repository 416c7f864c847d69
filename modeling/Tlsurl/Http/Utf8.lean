import Mathlib.Data.UInt
import Tlsurl.Http.Str

/-! Rust strings as Unicode text: their bytes, the boundaries of their characters, slices, and how
bytes that need not be UTF-8 are read as text.
-/

namespace Tlsurl

/-- `str::as_bytes` -/
def utf8 (text : String) : Str := text.toList.flatMap String.utf8EncodeChar

/-- Whether a byte begins a character, i.e. is no continuation -/
def isUtf8CharBoundary (byte : UInt8) : Bool := byte &&& 0xC0 != 0x80

/-- `str::is_char_boundary` -/
def isCharBoundary (text : Str) (index : Nat) : Bool :=
  match text[index]? with
  | some byte => index == 0 || isUtf8CharBoundary byte
  | none => index == text.length

/-- `str::get` of everything from an index on -/
def sliceFrom (text : Str) (index : Nat) : Option Str :=
  if isCharBoundary text index then some (text.drop index) else none

/-- `char::to_digit` of an ASCII character -/
def toDigit (radix : Nat) (byte : UInt8) : Option Nat :=
  let digit :=
    if 48 ≤ byte ∧ byte ≤ 57 then byte.toNat - 48
    else if 97 ≤ byte ∧ byte ≤ 122 then byte.toNat - 97 + 10
    else if 65 ≤ byte ∧ byte ≤ 90 then byte.toNat - 65 + 10
    else radix
  if digit < radix then some digit else none

/-- Every character has bytes. -/
theorem utf8_ne_nil {text : String} (filled : text ≠ "") : utf8 text ≠ [] := by
  cases chars : text.toList with
  | nil => exact absurd (String.toList_eq_nil_iff.mp chars) filled
  | cons char rest =>
      rw [utf8, chars, List.flatMap_cons]
      exact List.append_ne_nil_of_left_ne_nil String.utf8EncodeChar_ne_nil _

/-- A byte of ASCII is that of its character alone. -/
theorem mem_utf8EncodeChar_iff {char : Char} {byte : UInt8} (low : byte < 0x80)
    : byte ∈ String.utf8EncodeChar char ↔ char.toNat = byte.toNat := by
  have small : byte.toNat < 128 := UInt8.lt_iff_toNat_lt.mp low
  unfold String.utf8EncodeChar
  simp only [Char.toNat]
  generalize char.val.toNat = code
  split
  · rw [List.mem_singleton, ← UInt8.toNat_inj, UInt8.toNat_ofNat', Nat.mod_eq_of_lt (by omega),
      eq_comm]
  · refine iff_of_false ?_ (by omega)
    -- The bytes of any other character are beyond ASCII.
    split
    all_goals try split
    all_goals
      simp only [List.mem_cons, List.not_mem_nil, or_false, ← UInt8.toNat_inj, UInt8.toNat_ofNat']
      omega

/-- A text has an ASCII character if it has its byte. -/
theorem mem_utf8_iff {text : String} {char : Char} {byte : UInt8} (low : byte < 0x80)
    (same : char.toNat = byte.toNat)
    : byte ∈ utf8 text ↔ char ∈ text.toList := by
  rw [utf8, List.mem_flatMap]
  constructor
  · intro inside
    obtain ⟨other, member, encoded⟩ := inside
    have code := (mem_utf8EncodeChar_iff low).mp encoded
    rwa [Char.toNat_inj.mp (same.trans code.symm)]
  · intro member
    exact ⟨char, member, (mem_utf8EncodeChar_iff low).mpr same⟩

/-- A byte that can begin a character is no continuation. -/
theorem isUtf8CharBoundary_of_first {byte : UInt8} (first : byte.IsUTF8FirstByte)
    : isUtf8CharBoundary byte = true := by
  have every : ∀ value : Fin 256, (UInt8.ofFin value).IsUTF8FirstByte
      → isUtf8CharBoundary (UInt8.ofFin value) = true := by
    decide +kernel
  exact every byte.toFin first

/-- Case does not make a byte a continuation, or another byte of one. -/
theorem isUtf8CharBoundary_toAsciiLowercase (byte : UInt8)
    : isUtf8CharBoundary (toAsciiLowercase byte) = isUtf8CharBoundary byte := by
  have every : ∀ value : Fin 256, isUtf8CharBoundary (toAsciiLowercase (UInt8.ofFin value))
      = isUtf8CharBoundary (UInt8.ofFin value) := by
    decide +kernel
  exact every byte.toFin

/-- The bytes of a text begin a character. -/
theorem isUtf8CharBoundary_utf8 {text : String} {byte : UInt8} {rest : Str}
    (bytes : utf8 text = byte :: rest)
    : isUtf8CharBoundary byte = true := by
  apply isUtf8CharBoundary_of_first
  cases chars : text.toList with
  | nil => simp [utf8, chars] at bytes
  | cons char others =>
      rw [utf8, chars, List.flatMap_cons] at bytes
      cases encoded : String.utf8EncodeChar char with
      | nil => exact absurd encoded String.utf8EncodeChar_ne_nil
      | cons first more =>
          rw [encoded, List.cons_append] at bytes
          have same : first = byte := (List.cons.inj bytes).1
          have begins := @UInt8.isUTF8FirstByte_getElem_zero_utf8EncodeChar char
          simpa [encoded, same] using begins

/-- What equals a text up to case at the end of another one can be sliced off there. -/
theorem sliceFrom_of_eqIgnoreAsciiCase {front rest : Str} {text : String}
    (alike : eqIgnoreAsciiCase rest (utf8 text) = true)
    : sliceFrom (front ++ rest) front.length = some rest := by
  have boundary : isCharBoundary (front ++ rest) front.length = true := by
    cases rest with
    | nil => simp [isCharBoundary]
    | cons byte others =>
        cases bytes : utf8 text with
        | nil => simp [eqIgnoreAsciiCase, bytes] at alike
        | cons first more =>
            rw [eqIgnoreAsciiCase_iff, bytes, List.map_cons, List.map_cons] at alike
            have begins := isUtf8CharBoundary_utf8 bytes
            rw [← isUtf8CharBoundary_toAsciiLowercase, ← (List.cons.inj alike).1,
              isUtf8CharBoundary_toAsciiLowercase] at begins
            simp [isCharBoundary, begins]
  rw [sliceFrom, boundary, if_pos rfl, List.drop_left]

-----------------------------------------------------------------------------------------
-- Lossy decoding
-----------------------------------------------------------------------------------------

/-- `char::REPLACEMENT_CHARACTER` -/
def replacement : Str := [0xEF, 0xBF, 0xBD]

/-- A character that has begun: its bytes so far, how many are left, and the range of the next -/
structure Begun where
  bytes : Str
  left : Nat
  lower : UInt8 := 0x80
  upper : UInt8 := 0xBF
  deriving DecidableEq

/-- What the first byte of a character begins -/
def Begun.ofByte (byte : UInt8) : Option Begun :=
  if 0xC2 ≤ byte ∧ byte ≤ 0xDF then some { bytes := [byte], left := 1 }
  else if byte = 0xE0 then some { bytes := [byte], left := 2, lower := 0xA0 }
  else if byte = 0xED then some { bytes := [byte], left := 2, upper := 0x9F }
  else if 0xE1 ≤ byte ∧ byte ≤ 0xEF then some { bytes := [byte], left := 2 }
  else if byte = 0xF0 then some { bytes := [byte], left := 3, lower := 0x90 }
  else if byte = 0xF4 then some { bytes := [byte], left := 3, upper := 0x8F }
  else if 0xF1 ≤ byte ∧ byte ≤ 0xF3 then some { bytes := [byte], left := 3 }
  else none

/-- What is written for a byte where a character may begin, and the character that it begins -/
def decodeFirst (byte : UInt8) : Str × Option Begun :=
  if byte < 0x80 then ([byte], none)
  else
    match Begun.ofByte byte with
    | some begun => ([], some begun)
    | none => (replacement, none)

/-- What is written for the next byte: a character that is not continued is replaced. -/
def decodeNext (begun : Option Begun) (byte : UInt8) : Str × Option Begun :=
  match begun with
  | none => decodeFirst byte
  | some { bytes, left, lower, upper } =>
      if lower ≤ byte ∧ byte ≤ upper then
        if left ≤ 1 then (bytes ++ [byte], none)
        else ([], some { bytes := bytes ++ [byte], left := left - 1 })
      else
        let (written, next) := decodeFirst byte
        (replacement ++ written, next)

/-- `String::from_utf8_lossy` with a character that has begun -/
def decodeFrom (begun : Option Begun) : Str → Str
  | [] => if begun.isSome then replacement else []
  | byte :: rest =>
      (decodeNext begun byte).1 ++ decodeFrom (decodeNext begun byte).2 rest

/-- `String::from_utf8_lossy` -/
def decodeUtf8Lossy (bytes : Str) : Str := decodeFrom none bytes

example : decodeUtf8Lossy [65, 0xE2, 0x82, 66, 0xFF] = 65 :: replacement ++ 66 :: replacement := by
  decide

/-- A byte that begins a character -/
theorem decodeFrom_begin {byte : UInt8} {begun : Begun} (begins : Begun.ofByte byte = some begun)
    (beyond : ¬ byte < 0x80) (rest : Str)
    : decodeFrom none (byte :: rest) = decodeFrom (some begun) rest := by
  simp [decodeFrom, decodeNext, decodeFirst, beyond, begins]

/-- A byte that continues a character -/
theorem decodeFrom_continue {begun : Begun} {byte : UInt8}
    (within : begun.lower ≤ byte ∧ byte ≤ begun.upper) (more : 1 < begun.left) (rest : Str)
    : decodeFrom (some begun) (byte :: rest)
      = decodeFrom (some { bytes := begun.bytes ++ [byte], left := begun.left - 1 }) rest := by
  simp [decodeFrom, decodeNext, within, Nat.not_le.mpr more]

/-- A byte that ends a character -/
theorem decodeFrom_finish {begun : Begun} {byte : UInt8}
    (within : begun.lower ≤ byte ∧ byte ≤ begun.upper) (last : begun.left ≤ 1) (rest : Str)
    : decodeFrom (some begun) (byte :: rest) = begun.bytes ++ byte :: decodeFrom none rest := by
  simp [decodeFrom, decodeNext, within, last]

/-- A lead byte with the range of the byte after it, for each number of bytes left -/
inductive Leads : UInt8 → Nat → UInt8 → UInt8 → Prop where
  | two {byte} (lower : 0xC2 ≤ byte) (upper : byte ≤ 0xDF) : Leads byte 1 0x80 0xBF
  | threeFirst : Leads 0xE0 2 0xA0 0xBF
  | threeSurrogate : Leads 0xED 2 0x80 0x9F
  | three {byte} (lower : 0xE1 ≤ byte) (upper : byte ≤ 0xEF) (other : byte ≠ 0xED)
    : Leads byte 2 0x80 0xBF
  | fourFirst : Leads 0xF0 3 0x90 0xBF
  | fourLast : Leads 0xF4 3 0x80 0x8F
  | four {byte} (lower : 0xF1 ≤ byte) (upper : byte ≤ 0xF3) : Leads byte 3 0x80 0xBF

/-- A lead byte begins a character. -/
theorem Leads.begins {byte lower upper : UInt8} {left : Nat} (leads : Leads byte left lower upper)
    : Begun.ofByte byte = some { bytes := [byte], left, lower, upper } ∧ ¬ byte < 0x80 := by
  have ranges : ∀ value : Fin 256,
      (0xC2 ≤ UInt8.ofFin value → UInt8.ofFin value ≤ 0xDF
        → Begun.ofByte (UInt8.ofFin value) = some { bytes := [UInt8.ofFin value], left := 1 })
      ∧ (0xE1 ≤ UInt8.ofFin value → UInt8.ofFin value ≤ 0xEF → UInt8.ofFin value ≠ 0xED
        → Begun.ofByte (UInt8.ofFin value) = some { bytes := [UInt8.ofFin value], left := 2 })
      ∧ (0xF1 ≤ UInt8.ofFin value → UInt8.ofFin value ≤ 0xF3
        → Begun.ofByte (UInt8.ofFin value) = some { bytes := [UInt8.ofFin value], left := 3 })
      ∧ (0xC2 ≤ UInt8.ofFin value → ¬ UInt8.ofFin value < 0x80) := by
    decide +kernel
  obtain ⟨two, three, four, beyond⟩ := ranges byte.toFin
  have above {least : UInt8} (wide : 0xC2 ≤ least) (first : least ≤ byte) : ¬ byte < 0x80 :=
    beyond (UInt8.le_trans wide first)
  cases leads with
  | two first last => exact ⟨two first last, beyond first⟩
  | threeFirst | threeSurrogate | fourFirst | fourLast => exact ⟨rfl, by decide⟩
  | three first last other => exact ⟨three first last other, above (by decide) first⟩
  | four first last => exact ⟨four first last, above (by decide) first⟩

/-- What is decoded from the bytes of a character is the character. -/
theorem decodeFrom_utf8EncodeChar (char : Char) (rest : Str)
    : decodeFrom none (String.utf8EncodeChar char ++ rest)
      = String.utf8EncodeChar char ++ decodeFrom none rest := by
  have valid : char.val.toNat < 0xD800 ∨ 0xDFFF < char.val.toNat ∧ char.val.toNat < 0x110000 :=
    char.valid
  have bytes : String.utf8EncodeChar char = String.utf8EncodeChar char := rfl
  conv at bytes => rhs; unfold String.utf8EncodeChar
  rw [bytes]
  generalize char.val.toNat = code at valid ⊢
  dsimp only
  split
  next ascii =>
    have low : UInt8.ofNat code < 0x80 := by
      simp only [UInt8.lt_iff_toNat_lt, UInt8.toNat_ofNat', UInt8.toNat_ofNat]
      omega
    simp [decodeFrom, decodeNext, decodeFirst, low]
  next =>
    have continues (number : Nat)
        : (0x80 : UInt8) ≤ UInt8.ofNat (number % 64 + 128)
          ∧ UInt8.ofNat (number % 64 + 128) ≤ 0xBF := by
      simp only [UInt8.le_iff_toNat_le, UInt8.toNat_ofNat', UInt8.toNat_ofNat]
      omega
    split
    next two =>
      have leads : Leads (UInt8.ofNat (code / 64 % 32 + 192)) 1 0x80 0xBF := by
        constructor <;> simp only [UInt8.le_iff_toNat_le, UInt8.toNat_ofNat', UInt8.toNat_ofNat]
        all_goals omega
      obtain ⟨begins, beyond⟩ := leads.begins
      refine (decodeFrom_begin begins beyond _).trans ?_
      exact decodeFrom_finish (continues _) (Nat.le_refl _) rest
    next =>
      split
      next three =>
        obtain ⟨lower, upper, leads, second⟩ : ∃ lower upper,
            Leads (UInt8.ofNat (code / 4096 % 16 + 224)) 2 lower upper
              ∧ lower ≤ UInt8.ofNat (code / 64 % 64 + 128)
              ∧ UInt8.ofNat (code / 64 % 64 + 128) ≤ upper := by
          by_cases first : code / 4096 = 0
          · rw [first]
            refine ⟨_, _, .threeFirst, ?_, (continues _).2⟩
            simp only [UInt8.le_iff_toNat_le, UInt8.toNat_ofNat', UInt8.toNat_ofNat]
            omega
          · by_cases surrogate : code / 4096 = 13
            · rw [surrogate]
              refine ⟨_, _, .threeSurrogate, (continues _).1, ?_⟩
              simp only [UInt8.le_iff_toNat_le, UInt8.toNat_ofNat', UInt8.toNat_ofNat]
              omega
            · refine ⟨_, _, .three ?_ ?_ ?_, continues _⟩
              all_goals
                simp only [UInt8.le_iff_toNat_le, UInt8.toNat_ofNat', UInt8.toNat_ofNat, ne_eq,
                  ← UInt8.toNat_inj]
                omega
        obtain ⟨begins, beyond⟩ := leads.begins
        refine (decodeFrom_begin begins beyond _).trans ?_
        refine (decodeFrom_continue second (Nat.lt_succ_self 1) _).trans ?_
        exact decodeFrom_finish (continues _) (Nat.le_refl _) rest
      next =>
        obtain ⟨lower, upper, leads, second⟩ : ∃ lower upper,
            Leads (UInt8.ofNat (code / 262144 % 8 + 240)) 3 lower upper
              ∧ lower ≤ UInt8.ofNat (code / 4096 % 64 + 128)
              ∧ UInt8.ofNat (code / 4096 % 64 + 128) ≤ upper := by
          by_cases first : code / 262144 = 0
          · rw [first]
            refine ⟨_, _, .fourFirst, ?_, (continues _).2⟩
            simp only [UInt8.le_iff_toNat_le, UInt8.toNat_ofNat', UInt8.toNat_ofNat]
            omega
          · by_cases last : code / 262144 = 4
            · rw [last]
              refine ⟨_, _, .fourLast, (continues _).1, ?_⟩
              simp only [UInt8.le_iff_toNat_le, UInt8.toNat_ofNat', UInt8.toNat_ofNat]
              omega
            · refine ⟨_, _, .four ?_ ?_, continues _⟩
              all_goals
                simp only [UInt8.le_iff_toNat_le, UInt8.toNat_ofNat', UInt8.toNat_ofNat]
                omega
        obtain ⟨begins, beyond⟩ := leads.begins
        refine (decodeFrom_begin begins beyond _).trans ?_
        refine (decodeFrom_continue second (Nat.lt_succ_of_lt (Nat.lt_succ_self 1)) _).trans ?_
        refine (decodeFrom_continue (continues _) (Nat.lt_succ_self 1) _).trans ?_
        exact decodeFrom_finish (continues _) (Nat.le_refl _) rest

/-- Text is decoded to itself, by induction on its characters. -/
theorem decodeUtf8Lossy_utf8 (text : String) : decodeUtf8Lossy (utf8 text) = utf8 text := by
  rw [decodeUtf8Lossy, utf8]
  induction text.toList with
  | nil => rfl
  | cons char rest ih => rw [List.flatMap_cons, decodeFrom_utf8EncodeChar, ih]

/-- The number of ASCII bytes -/
def asciiCount (bytes : Str) : Nat := bytes.countP (fun byte => byte < 0x80)

theorem asciiCount_append (left right : Str)
    : asciiCount (left ++ right) = asciiCount left + asciiCount right :=
  List.countP_append

/-- A character that has begun has no ASCII bytes and is not continued by one. -/
def Begun.High (begun : Begun) : Prop := asciiCount begun.bytes = 0 ∧ 0x80 ≤ begun.lower

theorem high_of_ofByte {byte : UInt8} {begun : Begun}
    (begins : Begun.ofByte byte = some begun)
    : begun.High := by
  have every : ∀ value : Fin 256, ∀ begun ∈ Begun.ofByte (UInt8.ofFin value),
      asciiCount begun.bytes = 0 ∧ 0x80 ≤ begun.lower := by
    decide +kernel
  exact every byte.toFin begun begins

/-- Where a character may begin, as many ASCII bytes are written as are read. -/
theorem decodeFirst_ascii (byte : UInt8)
    : asciiCount (decodeFirst byte).1 = asciiCount [byte]
      ∧ ∀ begun, (decodeFirst byte).2 = some begun → begun.High := by
  rw [decodeFirst]
  by_cases ascii : byte < 0x80
  · rw [if_pos ascii]
    exact ⟨rfl, nofun⟩
  · have none : asciiCount [byte] = 0 := by simp [asciiCount, ascii]
    rw [if_neg ascii, none]
    cases begins : Begun.ofByte byte with
    | some begun =>
        refine ⟨rfl, fun _ same => ?_⟩
        cases same
        exact high_of_ofByte begins
    | none => exact ⟨rfl, nofun⟩

/-- For each byte, as many ASCII bytes are written as are read. -/
theorem decodeNext_ascii {begun : Option Begun} (high : ∀ unfinished ∈ begun, unfinished.High)
    (byte : UInt8)
    : asciiCount (decodeNext begun byte).1 = asciiCount [byte]
      ∧ ∀ next, (decodeNext begun byte).2 = some next → next.High := by
  cases begun with
  | none => exact decodeFirst_ascii byte
  | some begun =>
      obtain ⟨bytes, left, lower, upper⟩ := begun
      obtain ⟨none, above⟩ := high _ rfl
      rw [decodeNext]
      by_cases within : lower ≤ byte ∧ byte ≤ upper
      · have beyond : ¬ byte < 0x80 := UInt8.not_lt.mpr (UInt8.le_trans above within.1)
        have more : asciiCount (bytes ++ [byte]) = 0 := by
          rw [asciiCount_append, none]
          simp [asciiCount, beyond]
        have single : asciiCount [byte] = 0 := by simp [asciiCount, beyond]
        rw [if_pos within, single]
        by_cases last : left ≤ 1
        · rw [if_pos last]
          exact ⟨more, nofun⟩
        · rw [if_neg last]
          refine ⟨rfl, fun next same => ?_⟩
          cases same
          exact ⟨more, UInt8.le_refl _⟩
      · obtain ⟨written, next⟩ := decodeFirst_ascii byte
        rw [if_neg within]
        have zero : asciiCount replacement = 0 := rfl
        exact ⟨by rw [asciiCount_append, written, zero, Nat.zero_add], next⟩

/-- Decoding writes as many ASCII bytes as it reads, by induction on the bytes. -/
theorem asciiCount_decodeFrom (bytes : Str) {begun : Option Begun}
    (high : ∀ unfinished ∈ begun, unfinished.High)
    : asciiCount (decodeFrom begun bytes) = asciiCount bytes := by
  induction bytes generalizing begun with
  | nil => cases begun <;> rfl
  | cons byte rest ih =>
      obtain ⟨written, next⟩ := decodeNext_ascii high byte
      rw [decodeFrom, asciiCount_append, written, ih next, ← asciiCount_append,
        List.singleton_append]

theorem asciiCount_decodeUtf8Lossy (bytes : Str)
    : asciiCount (decodeUtf8Lossy bytes) = asciiCount bytes :=
  asciiCount_decodeFrom bytes nofun

-----------------------------------------------------------------------------------------
-- Strict decoding
-----------------------------------------------------------------------------------------

/-- `str::from_utf8`, which accepts the bytes that lossy decoding leaves as they are -/
def decodeUtf8 (bytes : Str) : Option Str :=
  if decodeUtf8Lossy bytes = bytes then some bytes else none

example : decodeUtf8 [65, 0xC3, 0x9F] = some [65, 0xC3, 0x9F] ∧ decodeUtf8 [65, 0xC3] = none := by
  decide

/-- The bytes of a text are accepted. -/
theorem decodeUtf8_utf8 (text : String) : decodeUtf8 (utf8 text) = some (utf8 text) :=
  if_pos (decodeUtf8Lossy_utf8 text)

/-- What is accepted is not changed. -/
theorem decodeUtf8_eq_some {bytes text : Str} (decoded : decodeUtf8 bytes = some text)
    : text = bytes := by
  unfold decodeUtf8 at decoded
  split at decoded
  · exact (Option.some.inj decoded).symm
  · cases decoded

end Tlsurl
