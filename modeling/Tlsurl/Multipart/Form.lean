import Tlsurl.Http.HeaderOrder
import Tlsurl.Http.Percent

/-! Forms of `client/multipart.rs` and the stream of their bytes.
The value of a part is what its body yields, which may fail.
-/

namespace Tlsurl.Multipart

-----------------------------------------------------------------------------------------
-- Data
-----------------------------------------------------------------------------------------

/-- `Mime`; no control character is accepted in one. -/
structure Mime where
  source : Str
  printed : source.all (fun byte => 31 < byte) = true

/-- `PartMetadata` -/
structure PartMetadata where
  mime : Option Mime := none
  fileName : Option String := none
  headers : HeaderMap := .empty
  /-- What `http` accepts in a header map -/
  accepted
    : ∀ header ∈ headers.iterBytes,
        (utf8 header.1).all HeaderName.isToken = true ∧ header.2.all HeaderValue.isValid = true
    := by decide

theorem PartMetadata.accepted_new
    : ∀ header ∈ HeaderMap.empty.iterBytes,
        (utf8 header.1).all HeaderName.isToken = true
        ∧ header.2.all HeaderValue.isValid = true := by
  decide

/-- `PartMetadata::new` -/
def PartMetadata.new : PartMetadata where
  accepted := PartMetadata.accepted_new

/-- What a body stream yields -/
abbrev Items (ε : Type) := List (Except ε Str)

/-- `Part`; the body that is its value also tells its own length, if it knows it. -/
structure Part (ε : Type) where
  metadata : PartMetadata := {}
  value : Items ε
  contentLength : Option UInt64 := none
  bodyLength : Option UInt64 := none

/-- `PercentEncoding` -/
inductive PercentEncoding where
  | pathSegment
  | attrChar
  | noOp
  deriving DecidableEq

/-- `Form` -/
structure Form (ε : Type) where
  boundary : String
  fields : List (String × Part ε) := []
  percentEncoding : PercentEncoding := .pathSegment

-----------------------------------------------------------------------------------------
-- Headers
-----------------------------------------------------------------------------------------

/-- `FRAGMENT_ENCODE_SET` -/
def fragmentEncodeSet : AsciiSet :=
  ((((AsciiSet.controls.add 0x20).add 0x22).add 0x3C).add 0x3E).add 0x60

/-- `PATH_ENCODE_SET` -/
def pathEncodeSet : AsciiSet := (((fragmentEncodeSet.add 0x23).add 0x3F).add 0x7B).add 0x7D

/-- `PATH_SEGMENT_ENCODE_SET` -/
def pathSegmentEncodeSet : AsciiSet := (pathEncodeSet.add 0x2F).add 0x25

/-- `ATTR_CHAR_ENCODE_SET` -/
def attrCharEncodeSet : AsciiSet :=
  (((((((((((AsciiSet.nonAlphanumeric.remove 0x21).remove 0x23).remove 0x24).remove 0x26).remove
    0x2B).remove 0x2D).remove 0x2E).remove 0x5E).remove 0x5F).remove 0x60).remove 0x7C).remove
    0x7E

/-- `PercentEncoding::percent_encode` -/
def PercentEncoding.percentEncode (self : PercentEncoding) (value : Str) : Cow :=
  match self with
  | pathSegment => cowOfChunks (percentChunks pathSegmentEncodeSet value)
  | attrChar => cowOfChunks (percentChunks attrCharEncodeSet value)
  | noOp => .borrowed value

/-- `str::replace` of an ASCII character -/
def replace (byte : UInt8) (replacement : Str) (text : Str) : Str :=
  text.flatMap (fun other => if other = byte then replacement else [other])

/-- `legal_filename` -/
def legalFilename (filename : Str) : Str :=
  replace 10 [92, 10] (replace 13 [92, 13] (replace 34 [92, 34] (replace 92 [92, 92] filename)))

/-- What is written for a field name -/
def nameParameter (self : PercentEncoding) (name : String) : Str :=
  match self.percentEncode (utf8 name) with
  | .borrowed value => ascii "name=\"" ++ value ++ ascii "\""
  | .owned value => ascii "name*=utf-8''" ++ value

/-- What is written for a file name -/
def filenameParameter (field : PartMetadata) : Str :=
  match field.fileName with
  | none => []
  | some filename => ascii "; filename=\"" ++ legalFilename (utf8 filename) ++ ascii "\""

/-- A header line -/
def headerLine (header : HeaderName × Str) : Str := utf8 header.1 ++ ascii ": " ++ header.2

/-- `PercentEncoding::encode_headers` -/
def PercentEncoding.encodeHeaders (self : PercentEncoding) (name : String) (field : PartMetadata)
    : Str :=
  ascii "Content-Disposition: form-data; " ++ nameParameter self name ++ filenameParameter field
    ++ (match field.mime with
      | none => []
      | some mime => ascii "\r\nContent-Type: " ++ mime.source)
    ++ field.headers.iterBytes.flatMap (fun header => ascii "\r\n" ++ headerLine header)

example
    : PercentEncoding.attrChar.encodeHeaders "start%'\"\r\nßend" {}
      = ascii "Content-Disposition: form-data; name*=utf-8''start%25%27%22%0D%0A%C3%9Fend" := by
  decide

-----------------------------------------------------------------------------------------
-- Streams
-----------------------------------------------------------------------------------------

variable {ε : Type}

/-- `Form::part_stream` -/
def Form.partStream (self : Form ε) (name : String) (part : Part ε) : Items ε :=
  [.ok (ascii "--" ++ utf8 self.boundary ++ ascii "\r\n"),
    .ok (self.percentEncoding.encodeHeaders name part.metadata ++ ascii "\r\n\r\n")]
  ++ part.value ++ [.ok (ascii "\r\n")]

/-- `Form::into_stream` -/
def Form.intoStream (self : Form ε) : Items ε :=
  match self.fields with
  | [] => []
  | (name, part) :: fields =>
      fields.foldl (fun memo field => memo ++ self.partStream field.1 field.2)
          (self.partStream name part)
        ++ [.ok (ascii "--" ++ utf8 self.boundary ++ ascii "--\r\n")]

-----------------------------------------------------------------------------------------
-- Lengths
-----------------------------------------------------------------------------------------

/-- `Part::value_len` -/
def Part.valueLen (self : Part ε) : Option UInt64 :=
  if self.bodyLength.isSome then self.bodyLength else self.contentLength

/-- `len() as u64` -/
def lenU64 (text : Str) : UInt64 := UInt64.ofNat text.length

/-- One iteration of `compute_length` -/
def Form.addLength (self : Form ε) (length : UInt64) (field : String × Part ε) : Option UInt64 :=
  match field.2.valueLen with
  | some valueLength =>
      let header := self.percentEncoding.encodeHeaders field.1 field.2.metadata
      some (length
        + (2 + lenU64 (utf8 self.boundary) + 2 + lenU64 header + 4 + valueLength + 2))
  | none => none

/-- `Form::compute_length`; the headers that it caches are not read. -/
def Form.computeLength (self : Form ε) : Option UInt64 :=
  (self.fields.foldlM self.addLength 0).map (fun length =>
    if !self.fields.isEmpty then length + (2 + lenU64 (utf8 self.boundary) + 4) else length)

/-- The bytes of a stream that does not fail -/
def collect : Items ε → Option Str
  | [] => some []
  | .ok chunk :: items => (collect items).map (chunk ++ ·)
  | .error _ :: _ => none

end Tlsurl.Multipart
