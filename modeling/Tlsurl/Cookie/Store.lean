import Tlsurl.Http.Uri
import Tlsurl.Library.AssocMap

/-! The cookie store (`cookie/store.rs`): nested maps by domain, path, host-only flag and
name, with the matching rules for requests.
-/

namespace Tlsurl.Cookie

open Library

/-- `url::Host`, canonical as the `url` crate parses it. -/
inductive Host where
  | domain (name : Str)
  | ipv4 (address : BitVec 32)
  | ipv6 (address : BitVec 128)
  deriving DecidableEq

/-- `cookie::time::OffsetDateTime` and `Duration` in nanoseconds. -/
abbrev Time := Int

/-- The first instant of year -9999. -/
def minDateTime : Time := -377705116800 * 1000000000

/-- The last nanosecond of year 9999. -/
def maxDateTime : Time := 253402300800 * 1000000000 - 1

/-- `OffsetDateTime::saturating_add` -/
def saturatingAdd (time duration : Time) : Time :=
  max minDateTime (min maxDateTime (time + duration))

/-- `cookie::Expiration` -/
inductive Expiration where
  | dateTime (time : Time)
  | session
  deriving DecidableEq

/-- `cookie::Cookie` with the attributes that the store reads. -/
structure RawCookie where
  name : Str
  value : Str
  domainAttribute : Option Str := none
  path : Option Str := none
  secure : Option Bool := none
  maxAge : Option Time := none
  expires : Option Expiration := none
  deriving DecidableEq

/-- `strip_prefix('.').unwrap_or(..)` -/
def stripDot (text : Str) : Str :=
  match text with
  | 46 :: rest => rest
  | text => text

namespace RawCookie

/-- `Cookie::domain` drops one leading dot. -/
def domain (cookie : RawCookie) : Option Str := cookie.domainAttribute.map stripDot

/-- `Cookie::expires_datetime` -/
def expiresDatetime (cookie : RawCookie) : Option Time :=
  match cookie.expires with
  | some (.dateTime time) => some time
  | _ => none

/-- `Cookie::set_expires` stops at the last microsecond of year 9999. -/
def setExpires (cookie : RawCookie) (time : Time) : RawCookie :=
  { cookie with expires := some (.dateTime (min time (maxDateTime - 999))) }

end RawCookie

/-- `CookieEntry` -/
structure CookieEntry where
  cookie : RawCookie
  creationIndex : Nat
  deriving DecidableEq

/-- `NameMap` -/
abbrev NameMap := AssocMap Str CookieEntry

/-- `CookieScopeMap` -/
structure CookieScopeMap where
  hostOnly : NameMap := ∅
  domain : NameMap := ∅

namespace CookieScopeMap

/-- `CookieScopeMap::get_mut`, as a read -/
def get (self : CookieScopeMap) (name : Str) (hostOnly : Bool) : Option CookieEntry :=
  if hostOnly then self.hostOnly.lookup name else self.domain.lookup name

/-- `CookieScopeMap::entries` -/
def entries (self : CookieScopeMap) (name : Str) : List CookieEntry :=
  (self.hostOnly.lookup name).toList ++ (self.domain.lookup name).toList

/-- `CookieScopeMap::insert`, also for a write through `get_mut` -/
def insert (self : CookieScopeMap) (name : Str) (hostOnly : Bool) (entry : CookieEntry)
    : CookieScopeMap :=
  if hostOnly then { self with hostOnly := self.hostOnly.insert name entry }
  else { self with domain := self.domain.insert name entry }

/-- `CookieScopeMap::remove` -/
def remove (self : CookieScopeMap) (name : Str) (hostOnly : Bool) : CookieScopeMap :=
  if hostOnly then { self with hostOnly := self.hostOnly.erase name }
  else { self with domain := self.domain.erase name }

/-- `CookieScopeMap::remove_all` -/
def removeAll (self : CookieScopeMap) (name : Str) : CookieScopeMap where
  hostOnly := self.hostOnly.erase name
  domain := self.domain.erase name

/-- Removes a name from the selected scope, or from both when none is selected. -/
def removeSelected (self : CookieScopeMap) (name : Str) (hostOnly : Option Bool)
    : CookieScopeMap :=
  match hostOnly with
  | some hostOnly => self.remove name hostOnly
  | none => self.removeAll name

/-- `CookieScopeMap::values` -/
def values (self : CookieScopeMap) : List CookieEntry :=
  self.hostOnly.entries.map Sigma.snd ++ self.domain.entries.map Sigma.snd

/-- `CookieScopeMap::is_empty` -/
def isEmpty (self : CookieScopeMap) : Bool :=
  self.hostOnly.entries.isEmpty && self.domain.entries.isEmpty

end CookieScopeMap

/-- `PathMap` -/
abbrev PathMap := AssocMap Str CookieScopeMap

/-- `Store` -/
structure Store where
  cookies : AssocMap Host PathMap := ∅
  nextCreationIndex : Nat := 0

-----------------------------------------------------------------------------------------
-- Matching rules
-----------------------------------------------------------------------------------------

/-- `DEFAULT_PATH` -/
def defaultPath : Str := ascii "/"

/-- `cookie_is_expired` -/
def cookieIsExpired (cookie : RawCookie) (now : Time) : Bool :=
  cookie.maxAge.any (fun maxAge => maxAge ≤ 0)
    || cookie.expiresDatetime.any (fun deadline => deadline ≤ now)

/-- `domain_match` -/
def domainMatch (host domain : Host) : Bool :=
  if host = domain then true
  else match host, domain with
    | .domain host, .domain domain =>
        decide (host.length > domain.length)
          && host[host.length - domain.length - 1]? == some 46
          && domain.isSuffixOf host
    | _, _ => false

/-- `path_match` -/
def pathMatch (requestPath cookiePath : Str) : Bool :=
  requestPath == cookiePath
    || (cookiePath.isPrefixOf requestPath
      && (defaultPath.isSuffixOf cookiePath
        || defaultPath.isPrefixOf (requestPath.drop cookiePath.length)))

/-- `request_matches_cookie` -/
def requestMatchesCookie (uri : Uri) (requestHost cookieDomain : Host) (cookiePath : Str)
    (cookie : RawCookie) (now : Time)
    : Bool :=
  if !(uri.isHttp || uri.isHttps)
      || !domainMatch requestHost cookieDomain
      || (cookie.domain.isNone && requestHost != cookieDomain)
      || !pathMatch uri.path cookiePath
      || (cookie.secure == some true && uri.isHttp) then
    false
  else !cookieIsExpired cookie now

/-- `canonical_host`; `hostParse` is `url::Host::parse`. -/
def canonicalHost (hostParse : Str → Option Host) (host : Str) : Option Host :=
  hostParse (stripDot host)

/-- `normalize_path`: everything before the last slash, but at least one slash. -/
def normalizePath (path : Str) : Str :=
  if !defaultPath.isPrefixOf path then defaultPath
  else
    let kept := (path.reverse.dropWhile (fun byte => byte != 47)).drop 1
    if kept = [] then defaultPath else kept.reverse

namespace Store

/-- `u64::saturating_add(1)` -/
def nextIndex (index : Nat) : Nat := min (index + 1) (2 ^ 64 - 1)

/-- The entry at a domain, path, name and host-only flag. -/
def get (self : Store) (domain : Host) (path name : Str) (hostOnly : Bool) : Option CookieEntry :=
  ((self.cookies.lookup domain).bind (fun pathMap => pathMap.lookup path)).bind
    (fun cookieMap => cookieMap.get name hostOnly)

/-- `entry(domain).or_default().entry(path).or_default().insert(..)` -/
def write (cookies : AssocMap Host PathMap) (domain : Host) (path name : Str) (hostOnly : Bool)
    (entry : CookieEntry)
    : AssocMap Host PathMap :=
  let pathMap := (cookies.lookup domain).getD ∅
  let cookieMap := (pathMap.lookup path).getD {}
  cookies.insert domain (pathMap.insert path (cookieMap.insert name hostOnly entry))

/-- `Store::insert_stored_cookie`: replacing a cookie by one of the same value keeps its
creation index.
-/
def insertStoredCookie (self : Store) (domain : Host) (path : Str) (cookie : RawCookie) : Store :=
  let hostOnly := cookie.domain.isNone
  let (creationIndex, nextCreationIndex) :=
    match self.get domain path cookie.name hostOnly with
    | some entry =>
        if entry.cookie.value != cookie.value then
          (self.nextCreationIndex, nextIndex self.nextCreationIndex)
        else (entry.creationIndex, self.nextCreationIndex)
    | none => (self.nextCreationIndex, nextIndex self.nextCreationIndex)
  { cookies := write self.cookies domain path cookie.name hostOnly { cookie, creationIndex }
    nextCreationIndex }

/-- The path map after removing a name; an emptied scope map goes with its path. -/
def removeFrom (pathMap : PathMap) (path name : Str) (hostOnly : Option Bool) : PathMap :=
  match pathMap.lookup path with
  | none => pathMap
  | some cookieMap =>
      let cookieMap := cookieMap.removeSelected name hostOnly
      AssocMap.assign pathMap path (if cookieMap.isEmpty then none else some cookieMap)

/-- `Store::remove_stored_cookie_inner`: an emptied path map goes with its domain. -/
def removeStoredCookieInner (self : Store) (domain : Host) (path name : Str)
    (hostOnly : Option Bool)
    : Store :=
  match self.cookies.lookup domain with
  | none => self
  | some pathMap =>
      let pathMap := removeFrom pathMap path name hostOnly
      { self with
        cookies := AssocMap.assign self.cookies domain
          (if pathMap.entries.isEmpty then none else some pathMap) }

/-- `Store::remove_stored_cookie` -/
def removeStoredCookie (self : Store) (domain : Host) (path name : Str) (hostOnly : Bool)
    : Store :=
  self.removeStoredCookieInner domain path name (some hostOnly)

/-- `Store::remove_stored_cookies` -/
def removeStoredCookies (self : Store) (domain : Host) (path name : Str) : Store :=
  self.removeStoredCookieInner domain path name none

/-- `Store::matching_cookies` -/
def matchingCookies (self : Store) (uri : Uri) (requestHost : Host) (now : Time)
    : List (Host × Str × CookieEntry) :=
  self.cookies.entries.flatMap (fun byDomain =>
    byDomain.2.entries.flatMap (fun byPath =>
      byPath.2.values.filterMap (fun entry =>
        if requestMatchesCookie uri requestHost byDomain.1 byPath.1 entry.cookie now
        then some (byDomain.1, byPath.1, entry)
        else none)))

/-- `Store::would_overlay_secure_cookie` -/
def wouldOverlaySecureCookie (self : Store) (name : Str) (domain : Host) (path : Str)
    (now : Time)
    : Bool :=
  self.cookies.entries.any (fun byDomain =>
    (domainMatch byDomain.1 domain || domainMatch domain byDomain.1)
      && byDomain.2.entries.any (fun byPath =>
        pathMatch path byPath.1
          && (byPath.2.entries name).any (fun entry =>
            entry.cookie.secure == some true && !cookieIsExpired entry.cookie now)))

end Store

end Tlsurl.Cookie
