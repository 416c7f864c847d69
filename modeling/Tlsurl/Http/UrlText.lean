import Mathlib.Data.List.Basic
import Tlsurl.Http.Url

/-! Serialised URLs as text: which bytes the components of a parsed URL are made of, and how
authority and path are read back from the serialisation of a URL without credentials.
-/

namespace Tlsurl

/-- Text of visible ASCII characters other than the `delimiters` -/
def Str.Plain (delimiters text : Str) : Prop :=
  ∀ byte ∈ text, 33 ≤ byte ∧ byte < 127 ∧ byte ∉ delimiters

instance (delimiters text : Str) : Decidable (Str.Plain delimiters text) :=
  List.decidableBAll _ text

/-- Whether a scheme is one of the two of the web. -/
def Url.isWeb (url : Url) : Bool := url.scheme = ascii "http" || url.scheme = ascii "https"

/-- Every component is percent-encoded as its place demands, and an `http` or `https` URL has a
host and a rooted path.
-/
structure Url.Valid (url : Url) : Prop where
  scheme : Str.Plain (ascii ":/?#@") url.scheme
  host : ∀ host, url.host = some host → Str.Plain (ascii "/?#@") host
  path : Str.Plain (ascii "?#") url.path
  query : ∀ query, url.query = some query → Str.Plain (ascii "#") query
  hosted : url.isWeb = true → url.canHaveCredentials = true
  rooted : url.isWeb = true → url.path.head? = some 47

/-- The parser of the `url` crate yields `http` and `https` URLs as the URL standard specifies
them. Of other schemes nothing is promised: the path of `data:a b` keeps its blank.
-/
def Parsers.Standard (parsers : Parsers) : Prop :=
  ∀ text url, parsers.urlParse text = some url → url.isWeb = true → url.Valid

/-- Neither credentials nor a fragment -/
structure Url.Bare (url : Url) : Prop where
  username : url.username = []
  password : url.password = none
  fragment : url.fragment = none

/-- The delimiters that end an authority -/
def endsAuthority (byte : UInt8) : Bool := byte == 47 || byte == 63 || byte == 35

/-- What follows `scheme://` in an absolute URL -/
def Str.afterScheme (text : Str) : Str := (text.dropWhile (fun byte => byte != 58)).drop 3

/-- The authority of an absolute URL -/
def Str.authority (text : Str) : Str :=
  text.afterScheme.takeWhile (fun byte => !endsAuthority byte)

/-- What follows the authority of an absolute URL -/
def Str.pathAndQuery (text : Str) : Str :=
  text.afterScheme.dropWhile (fun byte => !endsAuthority byte)

-----------------------------------------------------------------------------------------
-- Reading a serialisation back
-----------------------------------------------------------------------------------------

theorem Str.Plain.append {delimiters left right : Str} (first : Str.Plain delimiters left)
    (second : Str.Plain delimiters right)
    : Str.Plain delimiters (left ++ right) := by
  intro byte member
  rcases List.mem_append.mp member with member | member
  · exact first byte member
  · exact second byte member

theorem Str.Plain.weaken {delimiters fewer text : Str} (plain : Str.Plain delimiters text)
    (subset : fewer ⊆ delimiters)
    : Str.Plain fewer text :=
  fun byte member =>
    ⟨(plain byte member).1, (plain byte member).2.1,
      fun delimiter => (plain byte member).2.2 (subset delimiter)⟩

/-- A number is written in digits. -/
theorem plain_decimal (number : Nat) : Str.Plain (ascii "/?#@") (decimal number) := by
  intro byte member
  obtain ⟨digit, digits, rfl⟩ := List.mem_map.mp member
  have isDigit : digit.isDigit = true := by
    rw [Nat.toString_eq_repr, Nat.repr_eq_ofList_toDigits, String.toList_ofList] at digits
    exact Nat.isDigit_of_mem_toDigits (by decide) (by decide) digits
  simp only [Char.isDigit, Bool.and_eq_true, decide_eq_true_eq, ge_iff_le, UInt32.le_iff_toNat_le]
    at isDigit
  have lower : 48 ≤ digit.toNat := isDigit.1
  have upper : digit.toNat ≤ 57 := isDigit.2
  have decided
      : ∀ value < 58, 48 ≤ value
        → 33 ≤ value.toUInt8 ∧ value.toUInt8 < 127 ∧ value.toUInt8 ∉ ascii "/?#@" := by
    decide
  exact decided digit.toNat (by omega) lower

namespace Url

variable {url : Url} {host : Str}

/-- Host and port as they are written -/
def hostPort (url : Url) : Str :=
  url.host.getD []
    ++ (match url.port with
      | none => []
      | some port => ascii ":" ++ decimal port.toNat)

/-- The query with its mark, as it is written -/
def queryText (url : Url) : Str :=
  match url.query with
  | none => []
  | some query => ascii "?" ++ query

theorem Bare.asStr_eq (bare : url.Bare) (hosted : url.host = some host)
    : url.asStr = url.scheme ++ ascii "://" ++ url.hostPort ++ url.path ++ url.queryText := by
  have colon : ascii "://" = ascii ":" ++ ascii "//" := rfl
  cases port : url.port <;> cases query : url.query <;>
    simp [asStr, bare.username, bare.password, bare.fragment, hosted, hostPort, queryText, colon,
      port, query]

theorem Valid.plain_hostPort (valid : url.Valid) (hosted : url.host = some host)
    : Str.Plain (ascii "/?#@") url.hostPort := by
  unfold hostPort
  rw [hosted]
  refine Str.Plain.append (valid.host host hosted) ?_
  cases url.port with
  | none => exact fun byte member => absurd member List.not_mem_nil
  | some port => exact Str.Plain.append (by decide) (plain_decimal port.toNat)

theorem Valid.plain_queryText (valid : url.Valid) : Str.Plain (ascii "#") url.queryText := by
  unfold queryText
  cases query : url.query with
  | none => exact fun byte member => absurd member List.not_mem_nil
  | some text => exact Str.Plain.append (by decide) (valid.query text query)

/-- A serialisation is visible ASCII without a fragment mark. -/
theorem Valid.plain_asStr (valid : url.Valid) (bare : url.Bare) (hosted : url.host = some host)
    : Str.Plain (ascii "#") url.asStr := by
  rw [bare.asStr_eq hosted]
  have authority := (valid.plain_hostPort hosted).weaken (by decide : ascii "#" ⊆ ascii "/?#@")
  have path := valid.path.weaken (by decide : ascii "#" ⊆ ascii "?#")
  have scheme := valid.scheme.weaken (by decide : ascii "#" ⊆ ascii ":/?#@")
  exact (((scheme.append (by decide)).append authority).append path).append valid.plain_queryText

theorem Valid.afterScheme_asStr (valid : url.Valid) (bare : url.Bare)
    (hosted : url.host = some host)
    : url.asStr.afterScheme = url.hostPort ++ (url.path ++ url.queryText) := by
  have whole
      : url.asStr
        = url.scheme ++ (58 :: 47 :: 47 :: (url.hostPort ++ (url.path ++ url.queryText))) := by
    rw [bare.asStr_eq hosted]
    simp [ascii]
  have scheme : ∀ byte ∈ url.scheme, (byte != 58) = true := by
    intro byte member
    have plain := (valid.scheme byte member).2.2
    simp only [bne_iff_ne, ne_eq]
    rintro rfl
    exact plain (by decide)
  unfold Str.afterScheme
  rw [whole, List.dropWhile_append_of_pos scheme]
  rfl

/-- An authority is read back up to the path. -/
theorem Valid.split_asStr (valid : url.Valid) (bare : url.Bare) (web : url.isWeb = true)
    (hosted : url.host = some host)
    : url.asStr.authority = url.hostPort ∧ url.asStr.pathAndQuery = url.path ++ url.queryText := by
  have authority : ∀ byte ∈ url.hostPort, (!endsAuthority byte) = true := by
    intro byte member
    have plain := (valid.plain_hostPort hosted byte member).2.2
    simp only [endsAuthority, Bool.not_eq_true', Bool.or_eq_false_iff, beq_eq_false_iff_ne]
    refine ⟨⟨?_, ?_⟩, ?_⟩ <;>
      · rintro rfl
        exact plain (by decide)
  obtain ⟨rest, path⟩ : ∃ rest, url.path = 47 :: rest := by
    have rooted := valid.rooted web
    cases path : url.path with
    | nil => simp [path] at rooted
    | cons first rest =>
        simp only [path, List.head?_cons, Option.some.injEq] at rooted
        exact ⟨rest, by rw [rooted]⟩
  unfold Str.authority Str.pathAndQuery
  rw [valid.afterScheme_asStr bare hosted, List.takeWhile_append_of_pos authority,
    List.dropWhile_append_of_pos authority, path]
  have slash : (!endsAuthority 47) = false := by decide
  simp [slash]

end Url

/-- Root pages on plain hosts parse as the URL standard specifies. -/
theorem Parsers.ofSites_standard {sites : List (Scheme × String)}
    (plain
      : ∀ site ∈ sites,
          Str.Plain (ascii ":/?#@") site.1.asStr ∧ Str.Plain (ascii "/?#@") (ascii site.2)
          ∧ ascii site.2 ≠ [])
    : (Parsers.ofSites sites).Standard := by
  intro text url parsed _
  obtain ⟨site, found, rfl⟩ := Option.map_eq_some_iff.mp parsed
  obtain ⟨scheme, host, hosted⟩ := plain site (List.mem_of_find?_eq_some found)
  refine ⟨scheme, ?_, (by decide : Str.Plain (ascii "?#") (ascii "/")), ?_, ?_, fun _ => rfl⟩
  · intro host' same
    cases same
    exact host
  · intro query member
    cases member
  · intro web
    simp only [Url.isWeb, Bool.or_eq_true, decide_eq_true_eq] at web
    simp only [Url.canHaveCredentials, Option.any_some, Bool.and_eq_true, decide_eq_true_eq, ne_eq]
    refine ⟨hosted, ?_⟩
    rcases web with web | web <;> · rw [web]; decide

end Tlsurl
