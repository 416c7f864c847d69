import Tlsurl.Http.Disposition
import Tlsurl.Multipart.Framing

/-! Whether the names of a form's field are read back from its `Content-Disposition` header.
A file name always is. A field name is put between quotation marks when its encoding is borrowed
and is an extended value when it is owned; an encoded byte alone is borrowed too.
-/

namespace Tlsurl.Multipart

open Library

/-- The set of a mode that encodes -/
def PercentEncoding.encodeSet? : PercentEncoding → Option AsciiSet
  | pathSegment => some pathSegmentEncodeSet
  | attrChar => some attrCharEncodeSet
  | noOp => none

/-- The `Content-Disposition` header that is emitted -/
def dispositionHeader (encoding : PercentEncoding) (name : String) (field : PartMetadata)
    : Option Str :=
  (lines 13 10 (encoding.encodeHeaders name field)).head?

/-- The emitted header is read as one with this field name and this file name. -/
def Decodes (encoding : PercentEncoding) (name : String) (field : PartMetadata) : Prop :=
  ((dispositionHeader encoding name field).bind parseDisposition).map
      (fun read => (read.fieldName, read.fileName))
    = some (some (utf8 name), field.fileName.map utf8)

instance (encoding : PercentEncoding) (name : String) (field : PartMetadata)
    : Decidable (Decodes encoding name field) :=
  inferInstanceAs (Decidable (_ = _))

/-- A name may be quoted as it stands if nothing of it is encoded; otherwise it has several bytes,
each of which is encoded or may stand in an extended value.
-/
def Recoverable (set : AsciiSet) (name : Str) : Prop :=
  if name.any set.encodes = true then 1 < name.length ∧ name.all set.recovers = true
  else name.all isQuotable = true

-----------------------------------------------------------------------------------------
-- File names
-----------------------------------------------------------------------------------------

/-- A byte that a file name has a backslash before -/
def isEscaped (byte : UInt8) : Bool := [92, 34, 13, 10].contains byte

/-- The replacements one after the other are one replacement. -/
theorem legalFilename_eq (filename : Str)
    : legalFilename filename
      = filename.flatMap (fun byte => if isEscaped byte then [92, byte] else [byte]) := by
  rw [legalFilename, replace, replace, replace, replace, List.flatMap_assoc, List.flatMap_assoc,
    List.flatMap_assoc]
  refine congrArg (fun escape => List.flatMap escape filename) (funext fun byte => ?_)
  by_cases escaped : isEscaped byte = true
  · simp only [isEscaped, List.contains_cons, List.contains_nil, Bool.or_false, Bool.or_eq_true,
      beq_iff_eq] at escaped
    rcases escaped with rfl | rfl | rfl | rfl
    · decide
    · decide
    · decide
    · decide
  · rw [if_neg escaped]
    simp only [isEscaped, List.contains_cons, List.contains_nil, Bool.or_false, Bool.or_eq_true,
      beq_iff_eq, not_or] at escaped
    simp [escaped]

theorem isQuotable_of_not_escaped (byte : UInt8) (kept : isEscaped byte = false)
    : isQuotable byte = true := by
  by_contra special
  rcases not_isQuotable special with rfl | rfl | rfl
  · cases kept
  · cases kept
  · cases kept

/-- A file name is read back. -/
theorem readParameters_filenameParameter (fuel : Nat) (field : PartMetadata)
    : readParameters (fuel + 2) (filenameParameter field)
      = some (field.fileName.toList.map (fun filename => (ascii "filename", utf8 filename))) := by
  rw [filenameParameter]
  cases field.fileName with
  | none => rfl
  | some filename =>
      have opening : ascii "; filename=\"" = 59 :: 32 :: (ascii "filename" ++ [61, 34]) := by decide
      have closing : ascii "\"" = [34] := by decide
      have value : readValue (ascii "filename") (34 :: (legalFilename (utf8 filename) ++ [34]))
          = some (utf8 filename, []) := by
        have plain : (ascii "filename").getLast? ≠ some 42 := by decide
        rw [readValue, if_neg plain, legalFilename_eq]
        exact readQuoted_flatMap isQuotable_of_not_escaped (utf8 filename) []
      have read := readParameters_cons (by decide : ascii "filename" ≠ []) (by decide) (fuel + 1)
        (34 :: (legalFilename (utf8 filename) ++ [34]))
      rw [value, Option.bind_some, readParameters_nil] at read
      simpa [opening, closing] using read

-----------------------------------------------------------------------------------------
-- Field names
-----------------------------------------------------------------------------------------

variable {encoding : PercentEncoding} {set : AsciiSet} {name : String} {field : PartMetadata}

theorem percentEncode_of_set (mode : encoding.encodeSet? = some set) (value : Str)
    : encoding.percentEncode value = cowOfChunks (percentChunks set value) := by
  cases encoding with
  | pathSegment => cases mode; rfl
  | attrChar => cases mode; rfl
  | noOp => cases mode

/-- Quotation marks, carriage returns and percent signs are encoded in either mode. -/
theorem encodes_special (mode : encoding.encodeSet? = some set)
    : set.encodes 34 = true ∧ set.encodes 13 = true ∧ set.encodes 37 = true := by
  cases encoding with
  | pathSegment => cases mode; decide
  | attrChar => cases mode; decide
  | noOp => cases mode

/-- The emitted header is a line of its own. -/
theorem dispositionHeader_eq (mode : encoding.encodeSet? = some set) (name : String)
    (field : PartMetadata)
    : dispositionHeader encoding name field = some (dispositionLine encoding name field) := by
  have encodes : encoding ≠ .noOp := by
    rintro rfl
    cases mode
  have split := @lines_joinLines _ _ 13 10 (by decide) (headerLines encoding name field)
    (List.cons_ne_nil _ _) (fun _ member => (headerLines_oneLine encodes name field member).1)
  rw [dispositionHeader, encodeHeaders_eq, split]
  rfl

/-- What follows a name ends an extended value. -/
theorem readValueChars_filenameParameter (field : PartMetadata)
    : readValueChars (filenameParameter field) = ([], filenameParameter field) := by
  rw [filenameParameter]
  cases field.fileName with
  | none => rfl
  | some filename =>
      have opening : ascii "; filename=\"" = 59 :: ascii " filename=\"" := by decide
      rw [opening]
      exact readValueChars_end (by decide) (by decide) _

/-- The header is read as its first parameter and those that are left. -/
theorem parse_dispositionHeader {parameter value : Str} (mode : encoding.encodeSet? = some set)
    (names : parameter = ascii "name" ∨ parameter = ascii "name*")
    (written : nameParameter encoding name = parameter ++ 61 :: value) (field : PartMetadata)
    : ∃ fuel, (dispositionHeader encoding name field).bind parseDisposition
        = (readValue parameter (value ++ filenameParameter field)).bind (fun read =>
            (readParameters (fuel + 2) read.2).map (fun parameters =>
              { dispositionType := ascii "form-data"
                parameters := (parameter, read.1) :: parameters })) := by
  have opening : ascii "Content-Disposition: form-data; "
      = ascii "Content-Disposition" ++ 58 :: 32 :: (ascii "form-data" ++ [59, 32]) := by decide
  have line : dispositionLine encoding name field
      = ascii "Content-Disposition" ++ 58 :: 32 :: (ascii "form-data" ++ 59 :: 32
        :: (parameter ++ 61 :: (value ++ filenameParameter field))) := by
    rw [dispositionLine, written, opening]
    simp
  have token : parameter ≠ [] ∧ parameter.all HeaderName.isToken = true := by
    rcases names with rfl | rfl
    · decide
    · decide
  have long : 3 ≤ (dispositionLine encoding name field).length := by
    rw [line]
    simp
    omega
  obtain ⟨fuel, length⟩ := Nat.exists_eq_add_of_le' long
  refine ⟨fuel, ?_⟩
  rw [dispositionHeader_eq mode, Option.bind_some, line,
    parseDisposition_append (by decide) (by decide), ← line, length,
    readParameters_cons token.1 token.2]
  cases readValue parameter (value ++ filenameParameter field) with
  | none => rfl
  | some read => exact Option.map_map _ _ _

/-- The value of the first parameter is the field name. -/
theorem fieldName_of_names {parameter value dispositionType : Str} {parameters : List (Str × Str)}
    (names : parameter = ascii "name" ∨ parameter = ascii "name*")
    : (Disposition.mk dispositionType ((parameter, value) :: parameters)).fieldName
      = some value := by
  simp [Disposition.fieldName, names]

/-- A field name that is decoded was read from the first parameter. -/
theorem Decodes.reads {parameter value : Str} (decodes : Decodes encoding name field)
    (mode : encoding.encodeSet? = some set)
    (names : parameter = ascii "name" ∨ parameter = ascii "name*")
    (written : nameParameter encoding name = parameter ++ 61 :: value)
    : ∃ later, readValue parameter (value ++ filenameParameter field)
      = some (utf8 name, later) := by
  obtain ⟨fuel, parsed⟩ := parse_dispositionHeader mode names written field
  rw [Decodes, parsed] at decodes
  cases read : readValue parameter (value ++ filenameParameter field) with
  | none =>
      rw [read] at decodes
      cases decodes
  | some pair =>
      obtain ⟨first, later⟩ := pair
      obtain ⟨disposition, found, same⟩ := Option.map_eq_some_iff.mp decodes
      rw [read, Option.bind_some] at found
      obtain ⟨parameters, -, rfl⟩ := Option.map_eq_some_iff.mp found
      rw [fieldName_of_names names] at same
      obtain rfl : first = utf8 name := Option.some.inj (Prod.mk.inj same).1
      exact ⟨later, rfl⟩

/-- If the field name is read from the first parameter, the file name is read after it. -/
theorem decodes_of_reads {parameter value : Str} (mode : encoding.encodeSet? = some set)
    (names : parameter = ascii "name" ∨ parameter = ascii "name*")
    (written : nameParameter encoding name = parameter ++ 61 :: value)
    (reads
      : readValue parameter (value ++ filenameParameter field)
        = some (utf8 name, filenameParameter field))
    : Decodes encoding name field := by
  obtain ⟨fuel, parsed⟩ := parse_dispositionHeader mode names written field
  have others : parameter ≠ ascii "filename" := by
    rcases names with rfl | rfl
    · decide
    · decide
  rw [Decodes, parsed, reads, Option.bind_some, readParameters_filenameParameter, Option.map_some,
    Option.map_some, fieldName_of_names names]
  cases field.fileName with
  | none => simp [Disposition.fileName, others]
  | some filename => simp [Disposition.fileName, others]

/-- A borrowed name is written between quotation marks. -/
theorem nameParameter_borrowed {value : Str}
    (borrowed : encoding.percentEncode (utf8 name) = .borrowed value)
    : nameParameter encoding name = ascii "name" ++ 61 :: 34 :: (value ++ [34]) := by
  have opening : ascii "name=\"" = ascii "name" ++ [61, 34] := by decide
  have closing : ascii "\"" = [34] := by decide
  rw [nameParameter, borrowed]
  simp [opening, closing]

/-- An owned name is written as an extended value. -/
theorem nameParameter_owned {value : Str}
    (owned : encoding.percentEncode (utf8 name) = .owned value)
    : nameParameter encoding name = ascii "name*" ++ 61 :: (ascii "utf-8''" ++ value) := by
  have opening : ascii "name*=utf-8''" = ascii "name*" ++ 61 :: ascii "utf-8''" := by decide
  rw [nameParameter, owned]
  simp [opening]

theorem readValue_borrowed (value rest : Str)
    : readValue (ascii "name") (34 :: (value ++ [34]) ++ rest)
      = readQuoted (value ++ 34 :: rest) := by
  have plain : (ascii "name").getLast? ≠ some 42 := by decide
  rw [readValue, if_neg plain]
  simp [readByte]

theorem readValue_owned (value rest : Str)
    : readValue (ascii "name*") (ascii "utf-8''" ++ value ++ rest)
      = (decodeUtf8 (readValueChars (value ++ rest)).1).map
          (fun read => (read, (readValueChars (value ++ rest)).2)) := by
  have extended : (ascii "name*").getLast? = some 42 := by decide
  rw [readValue, if_pos extended, List.append_assoc, readExtValue_utf8]

/-- The escape of a byte alone is not read as that byte. -/
theorem not_decodes_single {byte : UInt8} (mode : encoding.encodeSet? = some set)
    (single : utf8 name = [byte]) (encoded : set.encodes byte = true)
    (borrowed : encoding.percentEncode (utf8 name) = .borrowed (percentEncodeByte set byte))
    : ¬ Decodes encoding name field := by
  intro decodes
  obtain ⟨later, read⟩ := decodes.reads mode (.inl rfl) (nameParameter_borrowed borrowed)
  rw [readValue_borrowed, readQuoted_append (isQuotable_percentEncodeByte encoded), single,
    percentEncodeByte, if_pos encoded] at read
  cases read

/-- The field name and the file name are read back, in either mode, if and only if the field name
is recoverable: by cases on what its encoding borrows.
-/
theorem decodes_iff_recoverable (mode : encoding.encodeSet? = some set) (name : String)
    (field : PartMetadata)
    : Decodes encoding name field ↔ Recoverable set (utf8 name) := by
  rcases cowOfChunks_cases set (utf8 name) with ⟨kept, borrowed⟩
    | ⟨byte, single, encoded, borrowed⟩ | ⟨encoded, several, owned⟩
  · rw [← percentEncode_of_set mode] at borrowed
    have written := nameParameter_borrowed borrowed
    rw [Recoverable, if_neg (by simp [kept])]
    constructor
    · intro decodes
      obtain ⟨later, read⟩ := decodes.reads mode (.inl rfl) written
      rw [readValue_borrowed] at read
      exact readQuoted_eq_self read
    · intro plain
      apply decodes_of_reads mode (.inl rfl) written
      rw [readValue_borrowed, readQuoted_append plain]
  · rw [← percentEncode_of_set mode] at borrowed
    refine ⟨fun decodes => absurd decodes (not_decodes_single mode single encoded borrowed), ?_⟩
    intro recoverable
    rw [single, Recoverable, List.any_cons, encoded, Bool.true_or, if_pos rfl] at recoverable
    exact absurd recoverable.1 (Nat.lt_irrefl _)
  · rw [← percentEncode_of_set mode] at owned
    have written := nameParameter_owned owned
    rw [Recoverable, if_pos encoded]
    constructor
    · intro decodes
      obtain ⟨later, read⟩ := decodes.reads mode (.inr rfl) written
      rw [readValue_owned] at read
      obtain ⟨value, decoded, same⟩ := Option.map_eq_some_iff.mp read
      cases same
      have chars := (decodeUtf8_eq_some decoded).symm
      exact ⟨several, readValueChars_eq_self (encodes_special mode).2.2 chars⟩
    · rintro ⟨-, recovers⟩
      apply decodes_of_reads mode (.inr rfl) written
      rw [readValue_owned,
        readValueChars_percentEncode recovers (readValueChars_filenameParameter field),
        decodeUtf8_utf8]
      rfl

-----------------------------------------------------------------------------------------
-- Modes
-----------------------------------------------------------------------------------------

/-- A name that is quoted though it does not stand for itself between quotation marks: a single
encoded byte, or text of which nothing is encoded, with a backslash.
-/
def Misquoted (set : AsciiSet) (name : Str) : Prop :=
  (∃ byte, name = [byte] ∧ set.encodes byte = true) ∨ (name.any set.encodes = false ∧ 92 ∈ name)

/-- Each byte that the mode leaves as it is may stand between quotation marks or is a backslash. -/
theorem isQuotable_or_backslash (mode : encoding.encodeSet? = some set) {byte : UInt8}
    (kept : set.encodes byte = false)
    : isQuotable byte = true ∨ byte = 92 := by
  obtain ⟨quotation, carriage, _⟩ := encodes_special mode
  by_cases plain : isQuotable byte = true
  · exact .inl plain
  · rcases not_isQuotable plain with rfl | rfl | rfl
    · rw [quotation] at kept
      cases kept
    · rw [carriage] at kept
      cases kept
    · exact .inr rfl

/-- In the mode `AttrChar` every byte is encoded or may stand in an extended value. -/
theorem recovers_attrChar (byte : UInt8) : attrCharEncodeSet.recovers byte = true := by
  have bytes : ∀ value : Fin 256, attrCharEncodeSet.recovers (UInt8.ofFin value) = true := by
    decide +kernel
  exact bytes byte.toFin

/-- A name that is not misquoted is recoverable if and only if it is in an extended value. -/
theorem recoverable_iff (mode : encoding.encodeSet? = some set) {name : Str}
    (quoted : ¬ Misquoted set name)
    : Recoverable set name ↔ (name.any set.encodes = true → name.all set.recovers = true) := by
  rw [Misquoted, not_or] at quoted
  cases encoded : name.any set.encodes with
  | true =>
      have several : 1 < name.length := by
        match name with
        | [] => cases encoded
        | [byte] => exact absurd ⟨byte, rfl, by simpa using encoded⟩ quoted.1
        | _ :: _ :: _ => simp
      rw [Recoverable, if_pos encoded]
      exact ⟨fun recoverable _ => recoverable.2, fun recovers => ⟨several, recovers rfl⟩⟩
  | false =>
      have plain : name.all isQuotable = true := by
        apply List.all_eq_true.mpr
        intro byte member
        have kept : set.encodes byte = false := by
          simpa using List.any_eq_false.mp encoded byte member
        rcases isQuotable_or_backslash mode kept with plain | rfl
        · exact plain
        · exact absurd ⟨encoded, member⟩ quoted.2
      rw [Recoverable, if_neg (by simp [encoded])]
      exact ⟨fun _ => nofun, fun _ => plain⟩

/-- A name that is not misquoted is read back, with the file name: always in the mode `AttrChar`,
and in the mode `PathSegment` if and only if, when something of it is encoded, each byte that is
left as it is may stand in an extended value.
-/
theorem disposition_decodes (mode : encoding.encodeSet? = some set) (name : String)
    (field : PartMetadata) (quoted : ¬ Misquoted set (utf8 name))
    : Decodes encoding name field
      ↔ (encoding = .pathSegment → (utf8 name).any set.encodes = true
        → (utf8 name).all set.recovers = true) := by
  rw [decodes_iff_recoverable mode name field, recoverable_iff mode quoted]
  cases encoding with
  | pathSegment => exact ⟨fun recovers _ => recovers, fun recovers => recovers rfl⟩
  | attrChar =>
      cases mode
      have every : (utf8 name).all attrCharEncodeSet.recovers = true :=
        List.all_eq_true.mpr (fun byte _ => recovers_attrChar byte)
      exact ⟨fun _ => nofun, fun _ _ => every⟩
  | noOp => cases mode

/-- A name of two encoded bytes is read back beside a file name. -/
theorem disposition_decoded : Decodes .attrChar "\r\n" { fileName := some "a\\b\"" } := by
  have quoted : ¬ Misquoted attrCharEncodeSet (utf8 "\r\n") := by
    rintro (⟨byte, single, -⟩ | ⟨kept, -⟩)
    · cases single
    · cases kept
  exact (disposition_decodes rfl "\r\n" { fileName := some "a\\b\"" } quoted).mpr nofun

/-- In the mode `PathSegment` an apostrophe stays as it is in an extended value. -/
theorem apostrophe_not_decoded : ¬ Decodes .pathSegment "start%'\"\r\nßend" {} := by
  decide +kernel

end Tlsurl.Multipart
