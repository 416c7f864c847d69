import Tlsurl.Http.Str
import Tlsurl.Library.Hashing

/-! `http::Uri` by its components, with its equality and its hash, and the helpers of `ext.rs` and
`into_uri.rs`.
-/

namespace Tlsurl

/-- `http::uri::Scheme`; comparing schemes ignores case, so `other` holds lower case. -/
inductive Scheme where
  | http
  | https
  | other (name : Str)
  deriving DecidableEq

def Scheme.asStr : Scheme → Str
  | .http => ascii "http"
  | .https => ascii "https"
  | .other name => name

/-- `[userinfo "@"] host [":" port]`; a port is a number. So there is no place for the empty text of
`host:` and for one above 65535, which `http` keeps in the text and takes for no port.
-/
structure Authority where
  userinfo : Option Str := none
  host : Str
  port : Option UInt16 := none
  deriving DecidableEq

structure Uri where
  scheme : Option Scheme
  authority : Option Authority
  path : Str
  query : Option Str := none
  deriving DecidableEq

namespace Uri

def host (uri : Uri) : Option Str := uri.authority.map Authority.host

def port (uri : Uri) : Option UInt16 := uri.authority.bind Authority.port

/-- `UriExt::is_http` -/
def isHttp (uri : Uri) : Bool := uri.scheme == some .http

/-- `UriExt::is_https` -/
def isHttps (uri : Uri) : Bool := uri.scheme == some .https

/-- `UriExt::port_or_default` -/
def portOrDefault (uri : Uri) : UInt16 :=
  match uri.port with
  | some port => port
  | none => if uri.isHttps then 443 else 80

/-- `IntoUriSealed for Uri`: an absolute URI with an authority, or the bad scheme error. -/
def intoUri (uri : Uri) : Option Uri :=
  match uri.scheme, uri.authority with
  | some _, some _ => some uri
  | _, _ => none

/-- `http::Uri` accepts only an absolute form that carries both parts. -/
theorem intoUri_eq_some {uri accepted : Uri}
    : uri.intoUri = some accepted
      ↔ accepted = uri ∧ uri.scheme.isSome = true ∧ uri.authority.isSome = true := by
  unfold intoUri
  cases uri.scheme <;> cases uri.authority <;> simp [eq_comm]

end Uri

/-- Digits of a number in base ten. -/
def decimal (number : Nat) : Str := ascii (toString number)

/-- `Display for Uri` -/
def Uri.toStr (uri : Uri) : Str :=
  let scheme := match uri.scheme with
    | none => []
    | some scheme => scheme.asStr ++ ascii "://"
  let authority := match uri.authority with
    | none => []
    | some authority =>
        (match authority.userinfo with
          | none => []
          | some userinfo => userinfo ++ ascii "@")
        ++ authority.host
        ++ (match authority.port with
          | none => []
          | some port => ascii ":" ++ decimal port.toNat)
  let query := match uri.query with
    | none => []
    | some query => ascii "?" ++ query
  scheme ++ authority ++ uri.path ++ query

-----------------------------------------------------------------------------------------
-- Equality and hash
-----------------------------------------------------------------------------------------

open Library

/-- The authority in lower case -/
def Authority.lower (authority : Authority) : Authority :=
  { authority with
    userinfo := authority.userinfo.map (List.map toAsciiLowercase)
    host := authority.host.map toAsciiLowercase }

/-- `PartialEq for Authority`, which ignores case -/
def Authority.eq (left right : Authority) : Bool := left.lower = right.lower

theorem Authority.eq_iff (left right : Authority)
    : left.eq right = true ↔ left.lower = right.lower :=
  decide_eq_true_iff

namespace Uri

/-- The URI with its authority in lower case -/
def lower (uri : Uri) : Uri := { uri with authority := uri.authority.map Authority.lower }

/-- `Hash for Uri`, which hashes the text of the authority in lower case -/
def writes (uri : Uri) : List Write :=
  (match uri.scheme with
    | none => []
    | some .http => [.u8 1, .u8 255]
    | some .https => [.u8 2, .u8 255]
    | some (.other name) => .usize name.length :: name.map .u8 ++ [.u8 255])
  ++ (match uri.lower.authority with
    | none => []
    | some authority =>
        let text := Uri.toStr { scheme := none, authority := some authority, path := [] }
        .usize text.length :: text.map .u8)
  ++ [.bytes uri.path]
  ++ match uri.query with
    | none => []
    | some query => [.u8 63, .bytes query]

end Uri

/-- `PartialEq for Uri` and `Hash for Uri` -/
instance : Hash Uri where
  eq left right :=
    left.scheme = right.scheme && optionEq Authority.eq left.authority right.authority
      && left.path = right.path && left.query = right.query
  writes := Uri.writes

/-- URIs are equal if they are the same in lower case. -/
theorem Uri.hash_eq_iff (left right : Uri)
    : Hash.eq left right = true ↔ left.lower = right.lower := by
  simp [Hash.eq, Uri.lower, optionEq_iff Authority.eq_iff, and_assoc]

instance : LawfulHash Uri where
  writes_eq {left right} same := by
    have lower := (Uri.hash_eq_iff left right).mp same
    have authority : left.lower.authority = right.lower.authority := congrArg Uri.authority lower
    simp only [Uri.lower, Uri.mk.injEq] at lower
    obtain ⟨scheme, -, path, query⟩ := lower
    show left.writes = right.writes
    rw [Uri.writes, Uri.writes, scheme, authority, path, query]

end Tlsurl
