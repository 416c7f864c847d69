import Tlsurl.Http.HeaderOrder
import Tlsurl.Http.Percent

/-! The grammar of a `Content-Disposition` header: a type and parameters.
The value of a parameter is a token or a quoted string with backslash escapes; under a name that
ends in an asterisk it is an extended value, of percent-encoded UTF-8.
-/

namespace Tlsurl

-----------------------------------------------------------------------------------------
-- The grammar
-----------------------------------------------------------------------------------------

/-- The text after blanks -/
def skipBlanks (text : Str) : Str := text.dropWhile (fun byte => byte == 32 || byte == 9)

/-- A token, which is not empty, and the text after it -/
def readToken (text : Str) : Option (Str × Str) :=
  if text.takeWhile HeaderName.isToken = [] then none
  else some (text.takeWhile HeaderName.isToken, text.dropWhile HeaderName.isToken)

/-- The text after a byte -/
def readByte (byte : UInt8) : Str → Option Str
  | [] => none
  | first :: rest => if first = byte then some rest else none

/-- A quoted string after its first quotation mark: a backslash stands before a byte that is taken
as it is, and a carriage return stands only there.
-/
def readQuoted : Str → Option (Str × Str)
  | [] => none
  | byte :: rest =>
      if byte = 34 then some ([], rest)
      else if byte = 13 then none
      else if byte = 92 then
        match rest with
        | [] => none
        | quoted :: rest => (readQuoted rest).map (fun read => (quoted :: read.1, read.2))
      else (readQuoted rest).map (fun read => (byte :: read.1, read.2))

/-- `attr-char` -/
def isAttrChar (byte : UInt8) : Bool :=
  (97 ≤ byte && byte ≤ 122) || (65 ≤ byte && byte ≤ 90) || (48 ≤ byte && byte ≤ 57)
    || (ascii "!#$&+-.^_|~").contains byte || byte == 96

/-- `value-chars`, percent-decoded, and the text after them -/
def readValueChars : Str → Str × Str
  | [] => ([], [])
  | byte :: rest =>
      if isAttrChar byte then
        match readValueChars rest with
        | (chars, rest) => (byte :: chars, rest)
      else if byte = 37 then
        match rest with
        | high :: low :: later =>
            match toDigit 16 high, toDigit 16 low with
            | some first, some second =>
                match readValueChars later with
                | (chars, rest) => ((first * 16 + second).toUInt8 :: chars, rest)
            | _, _ => ([], byte :: rest)
        | _ => ([], byte :: rest)
      else ([], byte :: rest)

/-- `ext-value` in UTF-8: a charset and a language, each before an apostrophe, and the value -/
def readExtValue (text : Str) : Option (Str × Str) := do
  let rest ← readByte 39 (text.dropWhile (· ≠ 39))
  if eqIgnoreAsciiCase (text.takeWhile (· ≠ 39)) (ascii "utf-8") then
    let rest ← readByte 39 (rest.dropWhile (· ≠ 39))
    match readValueChars rest with
    | (chars, rest) => (decodeUtf8 chars).map (fun value => (value, rest))
  else none

/-- The value of a parameter -/
def readValue (name : Str) (text : Str) : Option (Str × Str) :=
  if name.getLast? = some 42 then readExtValue text
  else
    match readByte 34 text with
    | some rest => readQuoted rest
    | none => readToken text

/-- Parameters, each after a semicolon; there are fewer of them than bytes. -/
def readParameters : (fuel : Nat) → Str → Option (List (Str × Str))
  | 0, _ => none
  | fuel + 1, text =>
      if skipBlanks text = [] then some []
      else do
        let rest ← readByte 59 (skipBlanks text)
        let (name, rest) ← readToken (skipBlanks rest)
        let rest ← readByte 61 rest
        let (value, rest) ← readValue name rest
        let parameters ← readParameters fuel rest
        return (name, value) :: parameters

/-- What a `Content-Disposition` header says -/
structure Disposition where
  dispositionType : Str
  parameters : List (Str × Str)
  deriving DecidableEq

namespace Disposition

/-- The field name, which may be given by an extended value -/
def fieldName (self : Disposition) : Option Str :=
  (self.parameters.find? (fun parameter =>
    parameter.1 = ascii "name" ∨ parameter.1 = ascii "name*")).map Prod.snd

/-- The file name -/
def fileName (self : Disposition) : Option Str :=
  (self.parameters.find? (fun parameter => parameter.1 = ascii "filename")).map Prod.snd

end Disposition

/-- A `Content-Disposition` header -/
def parseDisposition (line : Str) : Option Disposition := do
  let (header, rest) ← readToken line
  if eqIgnoreAsciiCase header (ascii "content-disposition") then
    let rest ← readByte 58 rest
    let (dispositionType, rest) ← readToken (skipBlanks rest)
    let parameters ← readParameters line.length rest
    return { dispositionType, parameters }
  else none

example
    : parseDisposition
        (ascii "Content-Disposition: form-data; name*=utf-8''a%20b; filename=\"\\\"\"")
      = some
        { dispositionType := ascii "form-data"
          parameters := [(ascii "name*", ascii "a b"), (ascii "filename", ascii "\"")] } := by
  decide +kernel

-----------------------------------------------------------------------------------------
-- Tokens
-----------------------------------------------------------------------------------------

/-- A token is read up to a byte that no token has. -/
theorem readToken_append {token : Str} (nonempty : token ≠ [])
    (tokens : token.all HeaderName.isToken = true) {byte : UInt8}
    (ends : HeaderName.isToken byte = false) (rest : Str)
    : readToken (token ++ byte :: rest) = some (token, byte :: rest) := by
  have taken : (token ++ byte :: rest).takeWhile HeaderName.isToken = token := by
    rw [List.takeWhile_append_of_pos (List.all_eq_true.mp tokens)]
    simp [ends]
  have dropped : (token ++ byte :: rest).dropWhile HeaderName.isToken = byte :: rest := by
    rw [List.dropWhile_append_of_pos (List.all_eq_true.mp tokens)]
    simp [ends]
  rw [readToken, taken, dropped, if_neg nonempty]

/-- A token after a blank, with what ends it -/
theorem readToken_skipBlanks {token : Str} (nonempty : token ≠ [])
    (tokens : token.all HeaderName.isToken = true) {byte : UInt8}
    (ends : HeaderName.isToken byte = false) (rest : Str)
    : readToken (skipBlanks (32 :: (token ++ byte :: rest))) = some (token, byte :: rest) := by
  have skipped : skipBlanks (32 :: (token ++ byte :: rest)) = token ++ byte :: rest := by
    obtain ⟨first, others, rfl⟩ := List.exists_cons_of_ne_nil nonempty
    have start := List.all_eq_true.mp tokens first List.mem_cons_self
    have blank : (first == 32 || first == 9) = false := by
      by_contra blank
      rw [Bool.not_eq_false, Bool.or_eq_true, beq_iff_eq, beq_iff_eq] at blank
      rcases blank with rfl | rfl
      · cases start
      · cases start
    simp [skipBlanks, blank]
  rw [skipped, readToken_append nonempty tokens ends]

-----------------------------------------------------------------------------------------
-- Parameters
-----------------------------------------------------------------------------------------

theorem readParameters_nil (fuel : Nat) : readParameters (fuel + 1) [] = some [] :=
  rfl

/-- A parameter is read with those after it. -/
theorem readParameters_cons {name : Str} (nonempty : name ≠ [])
    (tokens : name.all HeaderName.isToken = true) (fuel : Nat) (text : Str)
    : readParameters (fuel + 1) (59 :: 32 :: (name ++ 61 :: text))
      = (readValue name text).bind (fun read =>
          (readParameters fuel read.2).map (fun parameters => (name, read.1) :: parameters)) := by
  have start : skipBlanks (59 :: 32 :: (name ++ 61 :: text)) = 59 :: 32 :: (name ++ 61 :: text) :=
    rfl
  have token := readToken_skipBlanks nonempty tokens (show HeaderName.isToken 61 = false from rfl)
    text
  rw [readParameters, start, if_neg (List.cons_ne_nil _ _)]
  simp only [readByte, if_true, Option.bind_eq_bind, Option.bind_some, token]
  refine congrArg _ (funext fun read => ?_)
  rw [Option.map_eq_bind]
  rfl

/-- A header is read as its type and its parameters. -/
theorem parseDisposition_append {dispositionType : Str} (nonempty : dispositionType ≠ [])
    (tokens : dispositionType.all HeaderName.isToken = true) (text : Str)
    : parseDisposition
        (ascii "Content-Disposition" ++ 58 :: 32 :: (dispositionType ++ 59 :: text))
      = (readParameters
            (ascii "Content-Disposition" ++ 58 :: 32 :: (dispositionType ++ 59 :: text)).length
            (59 :: text)).map
          (fun parameters => { dispositionType, parameters }) := by
  have header := readToken_append (by decide : ascii "Content-Disposition" ≠ []) (by decide)
    (show HeaderName.isToken 58 = false from rfl) (32 :: (dispositionType ++ 59 :: text))
  have named
      : eqIgnoreAsciiCase (ascii "Content-Disposition") (ascii "content-disposition") = true := by
    decide
  have token := readToken_skipBlanks nonempty tokens (show HeaderName.isToken 59 = false from rfl)
    text
  rw [parseDisposition, header]
  simp only [Option.bind_eq_bind, Option.bind_some, named, if_true, readByte, token]
  cases readParameters _ (59 :: text) <;> rfl

-----------------------------------------------------------------------------------------
-- Quoted strings
-----------------------------------------------------------------------------------------

/-- A byte that stands for itself in a quoted string -/
def isQuotable (byte : UInt8) : Bool := byte != 34 && byte != 92 && byte != 13

theorem readQuoted_end (rest : Str) : readQuoted (34 :: rest) = some ([], rest) := by
  rw [readQuoted.eq_def]
  rfl

theorem readQuoted_return (rest : Str) : readQuoted (13 :: rest) = none := by
  rw [readQuoted.eq_def]
  rfl

theorem readQuoted_escape (byte : UInt8) (rest : Str)
    : readQuoted (92 :: byte :: rest)
      = (readQuoted rest).map (fun read => (byte :: read.1, read.2)) := by
  rw [readQuoted.eq_def]
  rfl

theorem readQuoted_plain {byte : UInt8} (plain : isQuotable byte = true) (rest : Str)
    : readQuoted (byte :: rest)
      = (readQuoted rest).map (fun read => (byte :: read.1, read.2)) := by
  simp only [isQuotable, Bool.and_eq_true, bne_iff_ne] at plain
  rw [readQuoted.eq_def]
  simp only [plain, if_false]

/-- Text in which every byte of its own meaning is escaped is read back, by induction on it. -/
theorem readQuoted_flatMap {special : UInt8 → Bool}
    (covers : ∀ byte, special byte = false → isQuotable byte = true) (text rest : Str)
    : readQuoted
        (text.flatMap (fun byte => if special byte then [92, byte] else [byte]) ++ 34 :: rest)
      = some (text, rest) := by
  induction text with
  | nil => exact readQuoted_end rest
  | cons byte text ih =>
      rw [List.flatMap_cons, List.append_assoc]
      cases escaped : special byte with
      | true =>
          rw [if_pos rfl, List.cons_append, List.singleton_append, readQuoted_escape, ih]
          rfl
      | false =>
          rw [if_neg Bool.false_ne_true, List.singleton_append,
            readQuoted_plain (covers byte escaped), ih]
          rfl

/-- The escape of a byte stands for itself. -/
theorem isQuotable_percentEncodeByte {set : AsciiSet} {byte : UInt8}
    (encoded : set.encodes byte = true)
    : (percentEncodeByte set byte).all isQuotable = true := by
  have digits : ∀ number < 16, isQuotable (hexUpper number) = true := by decide
  have bound : byte.toNat < 256 := byte.toNat_lt
  have high := digits (byte.toNat / 16) (by omega)
  have low := digits (byte.toNat % 16) (by omega)
  rw [percentEncodeByte, if_pos encoded]
  simp [high, low, show isQuotable 37 = true from rfl]

/-- Text is read as it stands if its bytes may all stand there. -/
theorem readQuoted_append {text : Str} (plain : text.all isQuotable = true) (rest : Str)
    : readQuoted (text ++ 34 :: rest) = some (text, rest) := by
  induction text with
  | nil => exact readQuoted_end rest
  | cons byte text ih =>
      rw [List.all_cons, Bool.and_eq_true] at plain
      rw [List.cons_append, readQuoted_plain plain.1, ih plain.2]
      rfl

/-- A byte that may not stand for itself -/
theorem not_isQuotable {byte : UInt8} (special : isQuotable byte ≠ true)
    : byte = 34 ∨ byte = 13 ∨ byte = 92 := by
  by_contra others
  simp only [not_or] at others
  exact special (by simp [isQuotable, others])

/-- What is read first in a text, when something is read -/
theorem readQuoted_cons {byte : UInt8} {rest value later : Str}
    (reads : readQuoted (byte :: rest) = some (value, later))
    : byte = 34 ∧ value = []
      ∨ (byte = 92
        ∧ ∃ quoted others more, rest = quoted :: others ∧ value = quoted :: more
          ∧ readQuoted others = some (more, later))
      ∨ (isQuotable byte = true
        ∧ ∃ more, value = byte :: more ∧ readQuoted rest = some (more, later)) := by
  by_cases plain : isQuotable byte = true
  · rw [readQuoted_plain plain] at reads
    obtain ⟨⟨more, after⟩, read, same⟩ := Option.map_eq_some_iff.mp reads
    cases same
    exact .inr (.inr ⟨plain, more, rfl, read⟩)
  · rcases not_isQuotable plain with rfl | rfl | rfl
    · rw [readQuoted_end] at reads
      cases reads
      exact .inl ⟨rfl, rfl⟩
    · rw [readQuoted_return] at reads
      cases reads
    · match rest with
      | [] => cases reads
      | quoted :: others =>
          rw [readQuoted_escape] at reads
          obtain ⟨⟨more, after⟩, read, same⟩ := Option.map_eq_some_iff.mp reads
          cases same
          exact .inr (.inl ⟨rfl, quoted, others, more, rfl, rfl, read⟩)

/-- What is read of a text never is that text after backslashes, since each escape takes one away.
By induction on the length of the text, an escape at a time.
-/
theorem readQuoted_not_more (text more : Str) {rest later : Str}
    (backslashes : ∀ byte ∈ more, byte = 92) (nonempty : more ≠ [])
    : readQuoted (text ++ 34 :: rest) ≠ some (more ++ text, later) := by
  obtain ⟨first, others, rfl⟩ := List.exists_cons_of_ne_nil nonempty
  obtain rfl : first = 92 := backslashes first List.mem_cons_self
  intro same
  match text with
  | [] =>
      rw [List.nil_append, readQuoted_end] at same
      cases same
  | byte :: text =>
      rcases readQuoted_cons same with ⟨_, empty⟩ | ⟨rfl, quoted, left, read, split, value, reads⟩
        | ⟨plain, read, value, _⟩
      · cases empty
      · match text with
        | [] =>
            cases split
            cases value
        | second :: text =>
            cases split
            obtain ⟨rfl, rfl⟩ := List.cons.inj value
            have longer : readQuoted (text ++ 34 :: rest)
                = some (others ++ [92, 92] ++ text, later) := by
              simpa using reads
            refine readQuoted_not_more text (others ++ [92, 92]) ?_ (by simp) longer
            intro byte member
            rcases List.mem_append.mp member with old | new
            · exact backslashes byte (List.mem_cons_of_mem _ old)
            · simpa using new
      · rw [← (List.cons.inj value).1] at plain
        cases plain
termination_by text.length

/-- Only such text is read as it stands, by induction on it. -/
theorem readQuoted_eq_self {text rest later : Str}
    (same : readQuoted (text ++ 34 :: rest) = some (text, later))
    : text.all isQuotable = true := by
  induction text with
  | nil => rfl
  | cons byte text ih =>
      rcases readQuoted_cons same with ⟨_, empty⟩ | ⟨rfl, quoted, left, read, split, value, reads⟩
        | ⟨plain, read, value, reads⟩
      · cases empty
      · cases text with
        | nil =>
            cases split
            cases value
        | cons second text =>
            cases split
            obtain ⟨rfl, rfl⟩ := List.cons.inj value
            exact absurd reads (readQuoted_not_more text [92] (by simp) (by simp))
      · obtain ⟨_, rfl⟩ := List.cons.inj value
        rw [List.all_cons, plain, ih reads]
        rfl

-----------------------------------------------------------------------------------------
-- Extended values
-----------------------------------------------------------------------------------------

/-- An extended value without a language is read as its characters. -/
theorem readExtValue_utf8 (text : Str)
    : readExtValue (ascii "utf-8''" ++ text)
      = (decodeUtf8 (readValueChars text).1).map
          (fun value => (value, (readValueChars text).2)) := by
  have charset : ascii "utf-8''" = [117, 116, 102, 45, 56, 39, 39] := by decide
  have named : eqIgnoreAsciiCase [117, 116, 102, 45, 56] (ascii "utf-8") = true := by decide
  rw [charset, readExtValue]
  simp [readByte, named]

theorem readValueChars_attr {byte : UInt8} (attr : isAttrChar byte = true) (rest : Str)
    : readValueChars (byte :: rest)
      = (byte :: (readValueChars rest).1, (readValueChars rest).2) := by
  rw [readValueChars.eq_def]
  simp only [attr, if_true]

/-- Another byte ends the value. -/
theorem readValueChars_end {byte : UInt8} (attr : isAttrChar byte = false) (other : byte ≠ 37)
    (rest : Str)
    : readValueChars (byte :: rest) = ([], byte :: rest) := by
  rw [readValueChars.eq_def]
  simp only [attr, other, Bool.false_eq_true, if_false]

theorem readValueChars_encodeByte {set : AsciiSet} {byte : UInt8}
    (encoded : set.encodes byte = true) (rest : Str)
    : readValueChars (percentEncodeByte set byte ++ rest)
      = (byte :: (readValueChars rest).1, (readValueChars rest).2) := by
  have digits : ∀ number < 16, toDigit 16 (hexUpper number) = some number := by decide
  have bound : byte.toNat < 256 := byte.toNat_lt
  have high := digits (byte.toNat / 16) (by omega)
  have low := digits (byte.toNat % 16) (by omega)
  have whole : (byte.toNat / 16 * 16 + byte.toNat % 16).toUInt8 = byte := by
    rw [Nat.div_add_mod', Nat.toUInt8, UInt8.ofNat_toNat]
  rw [percentEncodeByte, if_pos encoded, readValueChars.eq_def]
  simp only [List.cons_append, List.nil_append, high, low, whole,
    show isAttrChar 37 = false from rfl, Bool.false_eq_true, if_false, if_true]

/-- A byte that an extended value can have after it was encoded, if it is one of a set -/
def AsciiSet.recovers (set : AsciiSet) (byte : UInt8) : Bool := set.encodes byte || isAttrChar byte

section PercentEncoded

variable {set : AsciiSet} {text rest : Str}

/-- A byte is read from what it is encoded as, by cases on how it is written. -/
theorem readValueChars_percentEncodeByte {byte : UInt8} (recovers : set.recovers byte = true)
    : readValueChars (percentEncodeByte set byte ++ rest)
      = (byte :: (readValueChars rest).1, (readValueChars rest).2) := by
  cases encoded : set.encodes byte with
  | true => exact readValueChars_encodeByte encoded rest
  | false =>
      rw [AsciiSet.recovers, encoded, Bool.false_or] at recovers
      rw [percentEncodeByte_of_not encoded]
      exact readValueChars_attr recovers rest

/-- An encoded text is read back up to its end, by induction on it. -/
theorem readValueChars_percentEncode (recovers : text.all set.recovers = true)
    (ends : readValueChars rest = ([], rest))
    : readValueChars (percentEncode set text ++ rest) = (text, rest) := by
  induction text with
  | nil => exact ends
  | cons byte text ih =>
      rw [List.all_cons, Bool.and_eq_true] at recovers
      rw [percentEncode_cons, List.append_assoc, readValueChars_percentEncodeByte recovers.1,
        ih recovers.2]

/-- Only such a text is read back, by induction on it. -/
theorem readValueChars_eq_self (percent : set.encodes 37 = true)
    (same : (readValueChars (percentEncode set text ++ rest)).1 = text)
    : text.all set.recovers = true := by
  induction text with
  | nil => rfl
  | cons byte text ih =>
      rw [percentEncode_cons, List.append_assoc] at same
      by_cases recovers : set.recovers byte = true
      · rw [readValueChars_percentEncodeByte recovers] at same
        rw [List.all_cons, recovers, ih (List.cons.inj same).2]
        rfl
      · simp only [AsciiSet.recovers, Bool.or_eq_true, not_or, Bool.not_eq_true] at recovers
        have other : byte ≠ 37 := by
          rintro rfl
          rw [percent] at recovers
          cases recovers.1
        rw [percentEncodeByte_of_not recovers.1, List.singleton_append,
          readValueChars_end recovers.2 other] at same
        cases same

end PercentEncoded

end Tlsurl
