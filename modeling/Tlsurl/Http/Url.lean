import Tlsurl.Http.Uri

/-! `url::Url` by its components, and the parsers of the `url` and `http` crates that the
sources call. The parsers are parameters: no result depends on how they parse.
-/

namespace Tlsurl

/-- A WHATWG URL record. -/
structure Url where
  scheme : Str
  username : Str := []
  password : Option Str := none
  host : Option Str
  port : Option UInt16 := none
  path : Str
  query : Option Str := none
  fragment : Option Str := none
  deriving DecidableEq

namespace Url

/-- `Url::as_str` and `String::from` -/
def asStr (url : Url) : Str :=
  let userinfo :=
    if url.username = [] ∧ url.password = none then []
    else url.username
      ++ (match url.password with
        | none => []
        | some password => ascii ":" ++ password)
      ++ ascii "@"
  let authority := match url.host with
    | none => []
    | some host =>
        ascii "//" ++ userinfo ++ host
        ++ (match url.port with
          | none => []
          | some port => ascii ":" ++ decimal port.toNat)
  let query := match url.query with
    | none => []
    | some query => ascii "?" ++ query
  let fragment := match url.fragment with
    | none => []
    | some fragment => ascii "#" ++ fragment
  url.scheme ++ ascii ":" ++ authority ++ url.path ++ query ++ fragment

/-- `Url::port_or_known_default` -/
def portOrKnownDefault (url : Url) : Option UInt16 :=
  match url.port with
  | some port => some port
  | none =>
      if url.scheme = ascii "http" ∨ url.scheme = ascii "ws" then some 80
      else if url.scheme = ascii "https" ∨ url.scheme = ascii "wss" then some 443
      else if url.scheme = ascii "ftp" then some 21
      else none

/-- Credentials need a non-empty host and a scheme other than `file`. -/
def canHaveCredentials (url : Url) : Bool :=
  url.host.any (fun host => host ≠ []) && url.scheme ≠ ascii "file"

/-- `Url::set_username("")` -/
def clearUsername (url : Url) : Option Url :=
  if url.canHaveCredentials then some { url with username := [] } else none

/-- `Url::set_password(None)` -/
def clearPassword (url : Url) : Option Url :=
  if url.canHaveCredentials then some { url with password := none } else none

/-- `Url::set_path("")`: special schemes keep a root path. -/
def clearPath (url : Url) : Url :=
  let special := [ascii "http", ascii "https", ascii "ws", ascii "wss", ascii "ftp", ascii "file"]
  { url with path := if url.scheme ∈ special then ascii "/" else [] }

end Url

/-- `str::parse::<Scheme>`: at most 64 scheme characters. -/
def Scheme.parse (text : Str) : Option Scheme :=
  let schemeChar (byte : UInt8) : Bool :=
    (48 ≤ byte && byte ≤ 57) || (65 ≤ byte && byte ≤ 90) || (97 ≤ byte && byte ≤ 122)
      || byte == 43 || byte == 45 || byte == 46
  if text = ascii "http" then some .http
  else if text = ascii "https" then some .https
  else if text.length ≤ 64 ∧ text.all schemeChar then some (.other (text.map toAsciiLowercase))
  else none

/-- The parsing functions of the `url` and `http` crates. -/
structure Parsers where
  /-- `Url::parse` -/
  urlParse : Str → Option Url
  /-- `Url::join` -/
  urlJoin : Url → Str → Option Url
  /-- `Uri::try_from` and `Uri::from_maybe_shared` -/
  uriParse : Str → Option Uri

namespace Parsers

/-- `IntoUriSealed for Vec<u8>`: parse as a URI, else through the WHATWG parser. -/
def intoUri (parsers : Parsers) (text : Str) : Option Uri :=
  let parsed := match parsers.uriParse text with
    | some uri => some uri
    | none => (parsers.urlParse text).bind (fun url => parsers.uriParse url.asStr)
  parsed.bind Uri.intoUri

/-- What the two crates do on the root pages of `sites`, and nothing else: the parsers of the
concrete runs.
-/
def ofSites (sites : List (Scheme × String)) : Parsers :=
  let uri (site : Scheme × String) : Uri :=
    { scheme := some site.1, authority := some { host := ascii site.2 }, path := ascii "/" }
  let url (site : Scheme × String) : Url :=
    { scheme := site.1.asStr, host := some (ascii site.2), path := ascii "/" }
  let named (text : Str) := sites.find? (fun site => (uri site).toStr = text)
  { urlParse := fun text => (named text).map url
    urlJoin := fun _ text => (named text).map url
    uriParse := fun text => (named text).map uri }

end Parsers

end Tlsurl
