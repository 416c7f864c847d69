import Mathlib.Data.List.Sort
import Tlsurl.Cookie.Store
import Tlsurl.Http.HeaderMap
import Tlsurl.Http.Message
import Tlsurl.Library.Run

/-! The cookie jar (`cookie/jar.rs`).
Every operation takes the lock of the store once, so a run is a sequence of operations, each
at a time of its own.
-/

namespace Tlsurl.Cookie

open Library

/-- The functions of the `url` and `cookie` crates that the jar calls. -/
structure Parsers where
  /-- `Host::parse` -/
  hostParse : Str → Option Host
  /-- `Host::to_string` -/
  hostToString : Host → Str
  /-- `Cookie::parse` on the bytes of a header value -/
  cookieParse : Str → Option RawCookie

/-- `cookie::Cookies` -/
inductive Cookies where
  | compressed (value : HeaderValue)
  | uncompressed (values : List HeaderValue)
  | empty
  deriving DecidableEq

/-- What `Jar::add` has worked out when it takes the lock. -/
structure Prepared where
  cookie : RawCookie
  domain : Host
  path : Str
  hostOnly : Bool
  expired : Bool
  secureOrigin : Bool

namespace Jar

/-- The domain key of a cookie from `host`, and the cookie with its canonical `Domain`. -/
def scopeDomain (parsers : Parsers) (cookie : RawCookie) (host : Host)
    : Option (Host × RawCookie) :=
  match cookie.domain with
  | none => some (host, cookie)
  | some rawDomain =>
      match canonicalHost parsers.hostParse rawDomain with
      | none => none
      | some domain =>
          if !domainMatch host domain then none
          else some (domain, { cookie with domainAttribute := some (parsers.hostToString domain) })

/-- Whether a cookie received at `now` is expired, and the cookie with a positive `Max-Age`
turned into its deadline.
-/
def scopeExpiry (cookie : RawCookie) (now : Time) : Bool × RawCookie :=
  match cookie.maxAge with
  | some maxAge =>
      if maxAge ≤ 0 then (true, cookie)
      else (false, { cookie with maxAge := none }.setExpires (saturatingAdd now maxAge))
  | none => (cookie.expiresDatetime.any (fun deadline => deadline ≤ now), cookie)

/-- The part of `Jar::add` before it takes the lock. -/
def prepare (parsers : Parsers) (cookie : RawCookie) (uri : Uri) (now : Time)
    : Option Prepared := do
  let secureOrigin := uri.isHttps
  guard (!(cookie.secure == some true && !secureOrigin))
  let host ← uri.host.bind (canonicalHost parsers.hostParse)
  let hostOnly := cookie.domain.isNone
  let (domain, cookie) ← scopeDomain parsers cookie host
  let (expired, cookie) := scopeExpiry cookie now
  let path := (cookie.path.filter (fun path => defaultPath.isPrefixOf path)).getD
    (normalizePath uri.path)
  some { cookie, domain, path, hostOnly, expired, secureOrigin }

/-- The part of `Jar::add` under the lock. -/
def store (jar : Store) (prepared : Prepared) (now : Time) : Store :=
  let cookie := prepared.cookie
  let domain := prepared.domain
  let path := prepared.path
  if !prepared.secureOrigin && jar.wouldOverlaySecureCookie cookie.name domain path now then jar
  else if prepared.expired then
    jar.removeStoredCookie domain path cookie.name prepared.hostOnly
  else jar.insertStoredCookie domain path { cookie with path := some path }

/-- `Jar::add` -/
def add (parsers : Parsers) (jar : Store) (cookie : RawCookie) (uri : Uri) (now : Time) : Store :=
  match uri.intoUri.bind (fun uri => prepare parsers cookie uri now) with
  | none => jar
  | some prepared => store jar prepared now

/-- `Jar::remove` -/
def remove (parsers : Parsers) (jar : Store) (name : Str) (uri : Uri) : Store :=
  match uri.intoUri with
  | none => jar
  | some uri =>
      match uri.host.bind (canonicalHost parsers.hostParse) with
      | none => jar
      | some host => jar.removeStoredCookies host uri.path name

/-- `Jar::clear` -/
def clear (_jar : Store) : Store := {}

/-- `CookieStore::set_cookies`: each cookie that parses is added, at the time it is reached. -/
def setCookies (parsers : Parsers) (jar : Store) (cookieHeaders : List (HeaderValue × Time))
    (uri : Uri)
    : Store :=
  cookieHeaders.foldl
    (fun jar header =>
      match parsers.cookieParse header.1.bytes with
      | none => jar
      | some cookie => add parsers jar cookie uri header.2)
    jar

/-- Longest path first, then oldest. -/
def before (left right : Host × Str × CookieEntry) : Prop :=
  right.2.1.length < left.2.1.length
  ∨ right.2.1.length = left.2.1.length ∧ left.2.2.creationIndex ≤ right.2.2.creationIndex

instance : DecidableRel before := fun _ _ => inferInstanceAs (Decidable (_ ∨ _))

/-- The matching cookies in the order in which they are sent. -/
def sortedCookies (jar : Store) (uri : Uri) (host : Host) (now : Time)
    : List (Host × Str × CookieEntry) :=
  (jar.matchingCookies uri host now).insertionSort before

instance : Std.Total before where
  total left right := by
    unfold before
    omega

instance : IsTrans (Host × Str × CookieEntry) before where
  trans left middle right first second := by
    unfold before at *
    omega

/-- Sorting neither drops nor adds a cookie. -/
theorem sortedCookies_perm (jar : Store) (uri : Uri) (host : Host) (now : Time)
    : (sortedCookies jar uri host now).Perm (jar.matchingCookies uri host now) :=
  List.perm_insertionSort before _

theorem sortedCookies_pairwise (jar : Store) (uri : Uri) (host : Host) (now : Time)
    : (sortedCookies jar uri host now).Pairwise before :=
  List.pairwise_insertionSort before _

/-- `name=value` -/
def pair (cookie : RawCookie) : Str := cookie.name ++ ascii "=" ++ cookie.value

/-- The `Cookie` field values for cookies in sending order. -/
def render (version : Version) (cookies : List RawCookie) : Cookies :=
  if version = .http2 ∨ version = .http3 then
    .uncompressed (cookies.filterMap (fun cookie => HeaderValue.tryFrom (pair cookie)))
  else
    let joined := cookies.foldl
      (fun cookies cookie =>
        (if cookies = [] then cookies else cookies ++ ascii "; ") ++ pair cookie) []
    if joined = [] then .empty
    else ((HeaderValue.tryFrom joined).map Cookies.compressed).getD .empty

/-- `CookieStore::cookies` -/
def cookies (parsers : Parsers) (jar : Store) (uri : Uri) (version : Version) (now : Time)
    : Cookies :=
  match uri.host.bind (canonicalHost parsers.hostParse) with
  | none => .empty
  | some host =>
      render version ((sortedCookies jar uri host now).map (fun item => item.2.2.cookie))

/-- What is sent to a canonical host is the matching cookies in sending order. -/
theorem cookies_eq_render {parsers : Parsers} {jar : Store} {uri : Uri} {host : Host}
    (canonical : uri.host.bind (canonicalHost parsers.hostParse) = some host) (version : Version)
    (now : Time)
    : cookies parsers jar uri version now
      = render version
        ((sortedCookies jar uri host now).map (fun item => item.2.2.cookie)) := by
  unfold cookies
  rw [canonical]

/-- The operations that change a jar. -/
inductive Op where
  | add (cookie : RawCookie) (uri : Uri) (now : Time)
  | setCookies (cookieHeaders : List (HeaderValue × Time)) (uri : Uri)
  | remove (name : Str) (uri : Uri)
  | clear

/-- What an operation does. -/
def apply (parsers : Parsers) (jar : Store) : Op → Store
  | .add cookie uri now => add parsers jar cookie uri now
  | .setCookies cookieHeaders uri => setCookies parsers jar cookieHeaders uri
  | .remove name uri => remove parsers jar name uri
  | .clear => clear jar

/-- One operation on a jar. -/
def Step (parsers : Parsers) (jar : Store) (op : Op) (next : Store) : Prop :=
  next = apply parsers jar op

/-- Applying operations one after the other is a run. -/
theorem run_foldl (parsers : Parsers) (jar : Store) (ops : List Op)
    : Run (Step parsers) jar ops (ops.foldl (apply parsers) jar) :=
  Run.foldl jar ops

end Jar

-----------------------------------------------------------------------------------------
-- Concrete cookies and requests for the runs on fixed inputs
-----------------------------------------------------------------------------------------

/-- The crates on canonical DNS names, where parsing keeps the name; no header is parsed. -/
def Parsers.dns : Parsers where
  hostParse text := some (.domain text)
  hostToString
    | .domain name => name
    | _ => []
  cookieParse _ := none

/-- A cookie of a name and value, for a path. -/
def RawCookie.atPath (name value path : String) : RawCookie where
  name := ascii name
  value := ascii value
  path := some (ascii path)

/-- A page of a site. -/
def page (scheme : Scheme) (host path : String) : Uri where
  scheme := some scheme
  authority := some { host := ascii host }
  path := ascii path

end Tlsurl.Cookie
