import Tlsurl.Library.Lines
import Tlsurl.Multipart.Form

/-! Whether a form is read back as it was written.
A reader splits the bytes at the delimiter lines, and each section at its first empty line. No
name and no file name can break a header line, so the only lines that can be mistaken for a
delimiter are those of custom headers.
-/

namespace Tlsurl.Multipart

open Library

-----------------------------------------------------------------------------------------
-- Reading
-----------------------------------------------------------------------------------------

/-- The line between two sections -/
def delimiter (boundary : String) : Str := ascii "--" ++ utf8 boundary

/-- The line after the last section -/
def closeDelimiter (boundary : String) : Str := delimiter boundary ++ ascii "--"

def isDelimiter (boundary : String) (line : Str) : Bool :=
  line = delimiter boundary || line = closeDelimiter boundary

/-- What is between the delimiter lines -/
def sections (boundary : String) (bytes : Str) : List Str :=
  ((lines 13 10 bytes).splitOnP (isDelimiter boundary)).tail.dropLast.map (joinLines 13 10)

/-- The header lines and the body of a section -/
def readSection (text : Str) : Option (List Str × Str) :=
  (cut (ascii "\r\n\r\n") text).map (fun parts => (lines 13 10 parts.1, parts.2))

/-- All sections of a form -/
def readForm (boundary : String) (bytes : Str) : Option (List (List Str × Str)) :=
  (sections boundary bytes).mapM readSection

/-- The characters of a boundary -/
def isBoundaryChar (byte : UInt8) : Bool :=
  (48 ≤ byte && byte ≤ 57) || (65 ≤ byte && byte ≤ 90) || (97 ≤ byte && byte ≤ 122)
    || byte ∈ ascii "'()+_,-./:=? "

/-- A boundary has such characters only, and one at least. -/
structure IsBoundary (boundary : String) : Prop where
  nonempty : boundary ≠ ""
  chars : (utf8 boundary).all isBoundaryChar = true

-----------------------------------------------------------------------------------------
-- Header lines
-----------------------------------------------------------------------------------------

variable {encoding : PercentEncoding} {name : String} {field : PartMetadata}

/-- The header line that names the field -/
def dispositionLine (encoding : PercentEncoding) (name : String) (field : PartMetadata) : Str :=
  ascii "Content-Disposition: form-data; " ++ nameParameter encoding name
    ++ filenameParameter field

/-- The header line of the type -/
def typeLine (mime : Mime) : Str := ascii "Content-Type: " ++ mime.source

/-- The header lines of a part: one that names it, one for its type and one for each header -/
def headerLines (encoding : PercentEncoding) (name : String) (field : PartMetadata) : List Str :=
  dispositionLine encoding name field
    :: (field.mime.toList.map typeLine ++ field.headers.iterBytes.map headerLine)

/-- The headers are written line by line. -/
theorem encodeHeaders_eq (encoding : PercentEncoding) (name : String) (field : PartMetadata)
    : encoding.encodeHeaders name field = joinLines 13 10 (headerLines encoding name field) := by
  have crlf : ascii "\r\n" = [13, 10] := by decide
  have typed : ascii "\r\nContent-Type: " = 13 :: 10 :: ascii "Content-Type: " := by decide
  have custom (headers : List (HeaderName × Str))
      : headers.flatMap (fun header => ascii "\r\n" ++ headerLine header)
        = (headers.map headerLine).flatMap (fun line => 13 :: 10 :: line) := by
    rw [List.flatMap_map, crlf]
    rfl
  rw [headerLines, joinLines_eq_flatMap, List.flatMap_append, ← custom,
    PercentEncoding.encodeHeaders, dispositionLine, typed, List.append_assoc]
  cases field.mime with
  | none => rfl
  | some mime => simp [typeLine]

/-- The name is encoded in a way that keeps no line break. -/
theorem nameParameter_plain (encodes : encoding ≠ .noOp) (name : String)
    : 13 ∉ nameParameter encoding name := by
  have chunks {set : AsciiSet} (encoded : set.encodes 13 = true)
      : 13 ∉ (cowOfChunks (percentChunks set (utf8 name))).asRef := by
    rw [cowOfChunks_asRef, percentChunks_flatten]
    exact not_mem_percentEncode encoded (by decide) _
  have value : 13 ∉ (encoding.percentEncode (utf8 name)).asRef := by
    cases encoding with
    | pathSegment => exact chunks (by decide)
    | attrChar => exact chunks (by decide)
    | noOp => exact absurd rfl encodes
  have first : 13 ∉ ascii "name=\"" := by decide
  have last : 13 ∉ ascii "\"" := by decide
  have extended : 13 ∉ ascii "name*=utf-8''" := by decide
  rw [nameParameter]
  cases written : encoding.percentEncode (utf8 name) with
  | borrowed text =>
      rw [written] at value
      simp only [List.mem_append, not_or]
      exact ⟨⟨first, value⟩, last⟩
  | owned text =>
      rw [written] at value
      simp only [List.mem_append, not_or]
      exact ⟨extended, value⟩

/-- After the last replacement no line feed follows a carriage return, by induction on the text. -/
theorem replace_lf_oneLine (text : Str)
    : OneLine 13 10 (replace 10 [92, 10] text) ∧ (replace 10 [92, 10] text).head? ≠ some 10 := by
  induction text with
  | nil => exact ⟨.of_not_mem (.inl nofun), nofun⟩
  | cons byte rest ih =>
      have step : replace 10 [92, 10] (byte :: rest)
          = (if byte = 10 then [92, 10] else [byte]) ++ replace 10 [92, 10] rest := by
        rw [replace, List.flatMap_cons]
        rfl
      rw [step]
      split
      next => exact ⟨.append (.of_not_mem (.inl (by decide))) ih.1 ih.2, nofun⟩
      next other =>
        refine ⟨.append (.of_not_mem (.inr ?_)) ih.1 ih.2, ?_⟩
        · simpa using Ne.symm other
        · simpa using other

/-- The file name does not break the line. -/
theorem filenameParameter_oneLine (field : PartMetadata)
    : OneLine 13 10 (filenameParameter field) ∧ (filenameParameter field).head? ≠ some 10 := by
  rw [filenameParameter]
  cases field.fileName with
  | none => exact ⟨.of_not_mem (.inl nofun), nofun⟩
  | some filename =>
      obtain ⟨legal, start⟩ := replace_lf_oneLine
        (replace 13 [92, 13] (replace 34 [92, 34] (replace 92 [92, 92] (utf8 filename))))
      have opening : OneLine 13 10 (ascii "; filename=\"") := .of_not_mem (.inl (by decide))
      have closing : OneLine 13 10 (ascii "\"") := .of_not_mem (.inl (by decide))
      exact ⟨.append (.append opening legal start) closing (by decide), nofun⟩

/-- No header line is broken or empty. -/
theorem headerLines_oneLine (encodes : encoding ≠ .noOp) (name : String) (field : PartMetadata)
    {line : Str} (member : line ∈ headerLines encoding name field)
    : OneLine 13 10 line ∧ line ≠ [] := by
  rw [headerLines, List.mem_cons, List.mem_append] at member
  rcases member with rfl | typed | custom
  · obtain ⟨filename, start⟩ := filenameParameter_oneLine field
    have front : 13 ∉ ascii "Content-Disposition: form-data; " ++ nameParameter encoding name := by
      rw [List.mem_append, not_or]
      exact ⟨by decide, nameParameter_plain encodes name⟩
    refine ⟨.append (.of_not_mem (.inl front)) filename start, ?_⟩
    rw [dispositionLine, List.append_assoc]
    exact List.append_ne_nil_of_left_ne_nil (by decide) _
  · obtain ⟨mime, -, rfl⟩ := List.mem_map.mp typed
    have plain : 13 ∉ typeLine mime := by
      rw [typeLine, List.mem_append, not_or]
      exact ⟨by decide, fun control =>
        absurd (List.all_eq_true.mp mime.printed 13 control) (by decide)⟩
    exact ⟨.of_not_mem (.inl plain), List.append_ne_nil_of_left_ne_nil (by decide) _⟩
  · obtain ⟨header, given, rfl⟩ := List.mem_map.mp custom
    obtain ⟨token, valid⟩ := field.accepted header given
    have plain : 13 ∉ headerLine header := by
      rw [headerLine, List.mem_append, List.mem_append, not_or, not_or]
      exact ⟨⟨fun control => absurd (List.all_eq_true.mp token 13 control) (by decide),
        by decide⟩, fun control => absurd (List.all_eq_true.mp valid 13 control) (by decide)⟩
    refine ⟨.of_not_mem (.inl plain), ?_⟩
    exact List.append_ne_nil_of_left_ne_nil
      (List.append_ne_nil_of_right_ne_nil _ (by decide)) _

-----------------------------------------------------------------------------------------
-- Sections
-----------------------------------------------------------------------------------------

variable {ε : Type} {boundary : String}

/-- A delimiter line begins with the delimiter. -/
theorem prefix_of_isDelimiter {line : Str} (delimits : isDelimiter boundary line = true)
    : delimiter boundary <+: line := by
  rw [isDelimiter, Bool.or_eq_true, decide_eq_true_eq, decide_eq_true_eq] at delimits
  rcases delimits with rfl | rfl
  · exact List.prefix_rfl
  · exact List.prefix_append _ _

/-- A line that does not begin with a hyphen is no delimiter. -/
theorem isDelimiter_eq_false {line : Str} (start : line.head? ≠ some 45)
    : isDelimiter boundary line = false := by
  by_contra delimits
  obtain ⟨rest, rfl⟩ := prefix_of_isDelimiter (Bool.eq_true_of_not_eq_false delimits)
  exact start rfl

/-- The lines of a section -/
def sectionLines (encoding : PercentEncoding) (field : String × Part ε) (content : Str)
    : List Str :=
  headerLines encoding field.1 field.2.metadata ++ [] :: lines 13 10 content

/-- No line of a section is a delimiter. -/
theorem isDelimiter_sectionLines {field : String × Part ε} {content line : Str}
    (absent : ¬ delimiter boundary <:+: content)
    (apart
      : ∀ header ∈ field.2.metadata.headers.iterBytes,
          isDelimiter boundary (headerLine header) = false)
    (member : line ∈ sectionLines encoding field content)
    : isDelimiter boundary line = false := by
  rw [sectionLines, headerLines, List.mem_append, List.mem_cons, List.mem_append,
    List.mem_cons] at member
  rcases member with (rfl | typed | custom) | rfl | body
  · exact isDelimiter_eq_false nofun
  · obtain ⟨mime, -, rfl⟩ := List.mem_map.mp typed
    exact isDelimiter_eq_false nofun
  · obtain ⟨header, given, rfl⟩ := List.mem_map.mp custom
    exact apart header given
  · exact isDelimiter_eq_false nofun
  · by_contra delimits
    have start := prefix_of_isDelimiter (Bool.eq_true_of_not_eq_false delimits)
    exact absent (start.isInfix.trans (infix_of_mem_lines body))

/-- A section is read as its header lines and its body. -/
theorem readSection_joinLines (encodes : encoding ≠ .noOp) (field : String × Part ε)
    (content : Str)
    : readSection (joinLines 13 10 (sectionLines encoding field content))
      = some (headerLines encoding field.1 field.2.metadata, content) := by
  have whole {line : Str} (member : line ∈ headerLines encoding field.1 field.2.metadata) :=
    headerLines_oneLine encodes field.1 field.2.metadata member
  have filled : headerLines encoding field.1 field.2.metadata ≠ [] := List.cons_ne_nil _ _
  have separator : ascii "\r\n\r\n" = [13, 10, 13, 10] := by decide
  rw [readSection, sectionLines, joinLines_append filled (List.cons_ne_nil _ _),
    joinLines_cons (lines_ne_nil 13 10 content), joinLines_lines, List.nil_append, separator,
    cut_joinLines (by decide) filled (fun _ member => (whole member).1)
      (fun _ member => (whole member).2) content,
    Option.map_some,
    lines_joinLines (by decide) filled (fun _ member => (whole member).1)]

-----------------------------------------------------------------------------------------
-- Whole forms
-----------------------------------------------------------------------------------------

/-- What streams yield one after the other is put together. -/
theorem collect_append (left right : Items ε)
    : collect (left ++ right)
      = (collect left).bind (fun first => (collect right).map (first ++ ·)) := by
  induction left with
  | nil => simp [collect]
  | cons item rest ih =>
      cases item with
      | error error => rfl
      | ok chunk =>
          rw [List.cons_append, collect, collect, ih]
          cases collect rest with
          | none => rfl
          | some first => cases collect right <;> simp

/-- The stream of a form that has fields is that of its parts and the last delimiter. -/
theorem intoStream_eq {form : Form ε} (filled : form.fields ≠ [])
    : form.intoStream
      = form.fields.flatMap (fun field => form.partStream field.1 field.2)
        ++ [.ok (ascii "--" ++ utf8 form.boundary ++ ascii "--\r\n")] := by
  rw [Form.intoStream]
  cases given : form.fields with
  | nil => exact absurd given filled
  | cons field fields =>
      have chained : fields.foldl (fun memo next => memo ++ form.partStream next.1 next.2)
            (form.partStream field.1 field.2)
          = form.partStream field.1 field.2
            ++ fields.flatMap (fun next => form.partStream next.1 next.2) :=
        List.foldl_append_eq_append
      exact congrArg (· ++ _) chained

/-- The bytes of a part -/
def partBytes (form : Form ε) (field : String × Part ε) (content : Str) : Str :=
  delimiter form.boundary ++ 13 :: 10
    :: (joinLines 13 10 (headerLines form.percentEncoding field.1 field.2.metadata)
      ++ 13 :: 10 :: 13 :: 10 :: (content ++ [13, 10]))

theorem collect_partStream (form : Form ε) {field : String × Part ε} {content : Str}
    (given : collect field.2.value = some content)
    : collect (form.partStream field.1 field.2) = some (partBytes form field content) := by
  have crlf : ascii "\r\n" = [13, 10] := by decide
  have twice : ascii "\r\n\r\n" = [13, 10, 13, 10] := by decide
  rw [Form.partStream, collect_append, collect_append, given, encodeHeaders_eq, crlf, twice]
  simp [collect, delimiter, partBytes]

/-- A boundary has no line break. -/
theorem IsBoundary.oneLine (bounded : IsBoundary boundary) {line : Str}
    (delimits : isDelimiter boundary line = true)
    : OneLine 13 10 line := by
  have plain : 13 ∉ delimiter boundary := by
    rw [delimiter, List.mem_append, not_or]
    exact ⟨by decide, fun control =>
      absurd (List.all_eq_true.mp bounded.chars 13 control) (by decide)⟩
  rw [isDelimiter, Bool.or_eq_true, decide_eq_true_eq, decide_eq_true_eq] at delimits
  rcases delimits with rfl | rfl
  · exact .of_not_mem (.inl plain)
  · rw [closeDelimiter]
    refine .of_not_mem (.inl ?_)
    rw [List.mem_append, not_or]
    exact ⟨plain, by decide⟩

/-- The lines of a part are its delimiter and those of its section. -/
theorem lines_partBytes {form : Form ε} (bounded : IsBoundary form.boundary)
    (encodes : form.percentEncoding ≠ .noOp) (field : String × Part ε) (content rest : Str)
    : lines 13 10 (partBytes form field content ++ rest)
      = delimiter form.boundary
        :: (sectionLines form.percentEncoding field content ++ lines 13 10 rest) := by
  have different : (13 : UInt8) ≠ 10 := by decide
  have opens : isDelimiter form.boundary (delimiter form.boundary) = true := by
    simp [isDelimiter]
  have headers := @lines_joinLines _ _ 13 10 different
    (headerLines form.percentEncoding field.1 field.2.metadata) (List.cons_ne_nil _ _)
    (fun _ member => (headerLines_oneLine encodes field.1 field.2.metadata member).1)
  have empty (text : Str) : lines 13 10 (13 :: 10 :: text) = [] :: lines 13 10 text :=
    lines_append_break different [] text
  simp only [partBytes, List.append_assoc, List.cons_append, List.nil_append]
  rw [lines_append_break different, lines_of_oneLine (bounded.oneLine opens),
    lines_append_break different, headers, empty, lines_append_break different, sectionLines,
    List.append_assoc, List.cons_append]
  rfl

/-- The lines of the parts are those of the sections with delimiters around, by induction on the
parts.
-/
theorem splitOnP_fields {form : Form ε} (bounded : IsBoundary form.boundary)
    (encodes : form.percentEncoding ≠ .noOp) {fields : List (String × Part ε)}
    {contents : List Str}
    (given : fields.map (fun field => collect field.2.value) = contents.map some)
    (absent : ∀ content ∈ contents, ¬ delimiter form.boundary <:+: content)
    (apart
      : ∀ field ∈ fields, ∀ header ∈ field.2.metadata.headers.iterBytes,
          isDelimiter form.boundary (headerLine header) = false)
    : ∃ bytes opening rest,
      collect (fields.flatMap (fun field => form.partStream field.1 field.2)
          ++ [.ok (ascii "--" ++ utf8 form.boundary ++ ascii "--\r\n")]) = some bytes
      ∧ lines 13 10 bytes = opening :: rest ∧ isDelimiter form.boundary opening = true
      ∧ rest.splitOnP (isDelimiter form.boundary)
        = List.zipWith (sectionLines form.percentEncoding) fields contents ++ [[[]]] := by
  have different : (13 : UInt8) ≠ 10 := by decide
  induction fields generalizing contents with
  | nil =>
      cases contents with
      | cons content contents => cases given
      | nil =>
          have delimits : isDelimiter form.boundary (closeDelimiter form.boundary) = true := by
            simp [isDelimiter]
          have last : isDelimiter form.boundary [] = false := isDelimiter_eq_false nofun
          have text : ascii "--" ++ utf8 form.boundary ++ ascii "--\r\n" ++ []
              = closeDelimiter form.boundary ++ 13 :: 10 :: [] := by
            have ending : ascii "--\r\n" = ascii "--" ++ 13 :: 10 :: [] := by decide
            rw [ending, List.append_nil, ← List.append_assoc]
            rfl
          refine ⟨_, closeDelimiter form.boundary, [[]], congrArg some text, ?_, delimits, ?_⟩
          · rw [lines_append_break different, lines_of_oneLine (bounded.oneLine delimits)]
            rfl
          · rw [List.splitOnP_cons_eq_if_modifyHead, last]
            rfl
  | cons field fields ih =>
      cases contents with
      | nil => cases given
      | cons content contents =>
          obtain ⟨first, others⟩ := List.cons.inj given
          obtain ⟨bytes, opening, rest, collected, split, delimits, found⟩ := ih others
            (fun content member => absent content (List.mem_cons_of_mem _ member))
            (fun field member => apart field (List.mem_cons_of_mem _ member))
          have opens : isDelimiter form.boundary (delimiter form.boundary) = true := by
            simp [isDelimiter]
          have inside : ∀ line ∈ sectionLines form.percentEncoding field content,
              isDelimiter form.boundary line = false := fun line member =>
            isDelimiter_sectionLines (absent content List.mem_cons_self)
              (apart field List.mem_cons_self) member
          refine ⟨partBytes form field content ++ bytes, delimiter form.boundary,
            sectionLines form.percentEncoding field content ++ opening :: rest, ?_, ?_, opens, ?_⟩
          · rw [List.flatMap_cons, List.append_assoc, collect_append, collect_partStream form first,
              Option.bind_some, collected, Option.map_some]
          · rw [lines_partBytes bounded encodes, split]
          · rw [List.splitOnP_append_cons_of_forall_mem inside _ delimits, found]
            rfl

/-- All sections are read as their header lines and bodies, by induction on the parts. -/
theorem mapM_readSection (encodes : encoding ≠ .noOp) {fields : List (String × Part ε)}
    {contents : List Str} (same : fields.length = contents.length)
    : ∃ found,
      ((List.zipWith (sectionLines encoding) fields contents).map (joinLines 13 10)).mapM
          readSection
        = some found
      ∧ found.map Prod.snd = contents
      ∧ found.map Prod.fst
        = fields.map (fun field => headerLines encoding field.1 field.2.metadata) := by
  induction fields generalizing contents with
  | nil =>
      cases contents with
      | nil => exact ⟨[], rfl, rfl, rfl⟩
      | cons content contents => cases same
  | cons field fields ih =>
      cases contents with
      | nil => cases same
      | cons content contents =>
          obtain ⟨found, read, bodies, headers⟩ := ih (Nat.succ.inj same)
          refine ⟨(headerLines encoding field.1 field.2.metadata, content) :: found, ?_, ?_, ?_⟩
          · rw [List.zipWith_cons_cons, List.map_cons, List.mapM_cons,
              readSection_joinLines encodes, read]
            rfl
          · rw [List.map_cons, bodies]
          · rw [List.map_cons, headers, List.map_cons]

/-- The stream of a form is read as the header lines and the bodies of its parts. -/
def RoundTrips (form : Form ε) (contents : List Str) : Prop :=
  ∃ bytes found, collect form.intoStream = some bytes
    ∧ readForm form.boundary bytes = some found ∧ found.map Prod.snd = contents
    ∧ found.map Prod.fst
      = form.fields.map (fun field =>
          headerLines form.percentEncoding field.1 field.2.metadata)

/-- A form is read as it was written if no line of a custom header is a delimiter line. -/
theorem readForm_intoStream {form : Form ε} (filled : form.fields ≠ [])
    (bounded : IsBoundary form.boundary) (encodes : form.percentEncoding ≠ .noOp)
    {contents : List Str}
    (given : form.fields.map (fun field => collect field.2.value) = contents.map some)
    (absent : ∀ content ∈ contents, ¬ delimiter form.boundary <:+: content)
    (apart
      : ∀ field ∈ form.fields, ∀ header ∈ field.2.metadata.headers.iterBytes,
          isDelimiter form.boundary (headerLine header) = false)
    : RoundTrips form contents := by
  obtain ⟨bytes, opening, rest, collected, split, delimits, found⟩ :=
    splitOnP_fields bounded encodes given absent apart
  have sectioned : sections form.boundary bytes
      = (List.zipWith (sectionLines form.percentEncoding) form.fields contents).map
          (joinLines 13 10) := by
    rw [sections, split, List.splitOnP_cons_eq_if_modifyHead, if_pos delimits, found,
      List.tail_cons, List.dropLast_concat]
  have same : form.fields.length = contents.length := by
    simpa using congrArg List.length given
  obtain ⟨sections, read, bodies, headers⟩ := mapM_readSection encodes same
  rw [← intoStream_eq filled] at collected
  exact ⟨bytes, sections, collected, by rw [readForm, sectioned, read], bodies, headers⟩

-----------------------------------------------------------------------------------------
-- Concrete forms
-----------------------------------------------------------------------------------------

/-- A form whose names and file names contain line breaks and its delimiter -/
def upload : Form Empty where
  boundary := "----WebKitFormBoundary0123456789"
  fields :=
    [("a\r\n------WebKitFormBoundary0123456789",
        { metadata :=
            { mime := some ⟨ascii "image/bmp", by decide⟩
              fileName := some "x\"\r\n------WebKitFormBoundary0123456789\r\n\r\n"
              headers := ⟨[{ key := "hdr3", value := ⟨ascii "/a/b/c", false⟩ }], by decide⟩ }
          value := [.ok (ascii "one\r\n\r"), .ok (ascii "\ntwo\r")] }),
      ("b", { value := [] })]

/-- The form is read back. -/
theorem readForm_upload : RoundTrips upload [ascii "one\r\n\r\ntwo\r", []] :=
  readForm_intoStream (by simp [upload]) ⟨by decide, by decide⟩ (by decide) rfl (by decide)
    (by decide)

/-- A form with a header that is written like its delimiter -/
def collided : Form Empty where
  boundary := "x: y"
  fields :=
    [("a",
        { metadata := { headers := ⟨[{ key := "--x", value := ⟨ascii "y", false⟩ }], by decide⟩ }
          value := [.ok (ascii "body")] })]

/-- The header ends the section before its body. -/
theorem header_delimits
    : collided.fields ≠ [] ∧ IsBoundary collided.boundary ∧ collided.percentEncoding ≠ .noOp
      ∧ collided.fields.map (fun field => collect field.2.value) = [some (ascii "body")]
      ∧ ¬ delimiter collided.boundary <:+: ascii "body"
      ∧ ¬ RoundTrips collided [ascii "body"] := by
  refine ⟨by simp [collided], ⟨by decide, by decide⟩, by decide, rfl, by decide, ?_⟩
  rintro ⟨bytes, found, collected, read, -, -⟩
  have unread : (collect collided.intoStream).bind (readForm collided.boundary) = none := by
    decide
  rw [collected, Option.bind_some, read] at unread
  cases unread

end Tlsurl.Multipart
