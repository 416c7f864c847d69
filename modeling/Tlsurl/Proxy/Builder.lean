import Tlsurl.Http.Percent
import Tlsurl.Proxy.Intercept

/-! How a proxy with credentials becomes a matcher: `UriExt::set_userinfo` of `ext.rs`, `Proxy` of
`proxy.rs`, and `Builder` and `parse_env_uri` of `proxy/matcher.rs`.
The URI is printed and parsed again on the way; the parsers are those of the crate `http`.
-/

namespace Tlsurl.Proxy

open Identity

-----------------------------------------------------------------------------------------
-- Parts of URIs
-----------------------------------------------------------------------------------------

/-- What is used of other crates: the parsers and the constructor of `http` and the encoder of
`btls::base64`
-/
structure Crates where
  /-- `Uri::from_str` -/
  parse : Str → Option Uri
  /-- `Authority::from_maybe_shared` -/
  parseAuthority : Str → Option Authority
  /-- `Uri::from_parts` -/
  fromParts : Uri → Option Uri
  /-- `encode_block` -/
  encodeBlock : Str → Str

variable {Net Path : Type} (crates : Crates)

/-- Host and port as they are written -/
def hostPort (authority : Authority) : Str :=
  authority.host
    ++ (match authority.port with
      | none => []
      | some port => ascii ":" ++ decimal port.toNat)

/-- `Authority::as_str` -/
def asStr (authority : Authority) : Str :=
  (match authority.userinfo with
    | none => []
    | some userinfo => userinfo ++ ascii "@")
  ++ hostPort authority

/-- `str::split_once` -/
def splitOnce (delimiter : UInt8) : Str → Option (Str × Str)
  | [] => none
  | byte :: rest =>
      if byte = delimiter then some ([], rest)
      else (splitOnce delimiter rest).map (fun parts => (byte :: parts.1, parts.2))

/-- `str::rsplit_once` -/
def rsplitOnce (delimiter : UInt8) (text : Str) : Option (Str × Str) :=
  (splitOnce delimiter text.reverse).map (fun parts => (parts.2.reverse, parts.1.reverse))

/-- `FRAGMENT` -/
def fragmentSet : AsciiSet :=
  ((((AsciiSet.controls.add 0x20).add 0x22).add 0x3C).add 0x3E).add 0x60

/-- `PATH` -/
def pathSet : AsciiSet := (((fragmentSet.add 0x23).add 0x3F).add 0x7B).add 0x7D

/-- `USERINFO` -/
def userinfoSet : AsciiSet :=
  (((((((((pathSet.add 0x2F).add 0x3A).add 0x3B).add 0x3D).add 0x40).add 0x5B).add 0x5C).add
    0x5D).add 0x5E).add 0x7C

/-- `utf8_percent_encode` with `USERINFO` -/
def encodeUserinfo (text : Str) : Str := percentEncode userinfoSet text

/-- What `set_userinfo` keeps of an authority -/
def hostAndPort (authority : Authority) : Str :=
  match rsplitOnce 64 (asStr authority) with
  | some (_, host) => host
  | none => asStr authority

/-- `UriExt::set_userinfo` -/
def setUserinfo (self : Uri) (username : Str) (password : Option Str) : Uri :=
  match self.authority with
  | none => self
  | some authority =>
      let hostAndPort := hostAndPort authority
      let text :=
        match username.isEmpty, password with
        | true, none => hostAndPort
        | true, some password =>
            ascii ":" ++ encodeUserinfo password ++ ascii "@" ++ hostAndPort
        | false, some password =>
            encodeUserinfo username ++ ascii ":" ++ encodeUserinfo password ++ ascii "@"
              ++ hostAndPort
        | false, none => encodeUserinfo username ++ ascii "@" ++ hostAndPort
      match crates.parseAuthority text with
      | none => self
      | some authority => (crates.fromParts { self with authority := some authority }).getD self

/-- `util::basic_auth` -/
def basicAuthHeader (username : Str) (password : Option Str) : HeaderValue where
  bytes :=
    ascii "Basic " ++ crates.encodeBlock (username ++ ascii ":" ++ password.getD [])
  sensitive := true

-----------------------------------------------------------------------------------------
-- Parsing
-----------------------------------------------------------------------------------------

/-- Whether a scheme is one of the SOCKS schemes -/
def isSocksScheme (scheme : Scheme) : Bool :=
  scheme.asStr = ascii "socks4" || scheme.asStr = ascii "socks4a"
    || scheme.asStr = ascii "socks5" || scheme.asStr = ascii "socks5h"

/-- The scheme of a proxy, and whether it is one of SOCKS -/
def proxyScheme : Option Scheme → Option (Scheme × Bool)
  | none => some (.http, false)
  | some scheme =>
      if scheme = .http ∨ scheme = .https then some (scheme, false)
      else if isSocksScheme scheme then some (scheme, true)
      else none

/-- The authority of a proxy; the port of SOCKS is 1080 if there is none. -/
def proxyAuthority (isSocks : Bool) (authority : Authority) : Option Authority :=
  if isSocks && authority.port.isNone then
    crates.parseAuthority (asStr authority ++ ascii ":1080")
  else some authority

/-- The user and the password of a userinfo, as they are written -/
def userAndPass (userinfo : Str) : Str × Option Str :=
  match splitOnce 58 userinfo with
  | some (user, pass) => (user, some pass)
  | none => (userinfo, none)

/-- The credentials of a userinfo -/
def proxyAuth (isSocks : Bool) (userinfo : Str) : Auth :=
  let user := decodeUtf8Lossy (percentDecode (userAndPass userinfo).1)
  let pass := (userAndPass userinfo).2.map (fun pass => decodeUtf8Lossy (percentDecode pass))
  if isSocks then .raw user (pass.getD [])
  else .basic (basicAuthHeader crates user pass)

/-- The URI that `parse_env_uri` builds -/
def proxyUri (scheme : Scheme) (authority : Authority) : Option Uri :=
  crates.fromParts { scheme := some scheme, authority := some authority, path := ascii "/" }

/-- `parse_env_uri` -/
def parseEnvUri (val : Str) : Option Intercept := do
  let uri ← crates.parse val
  let (scheme, isSocks) ← proxyScheme uri.scheme
  let authority ← uri.authority
  let authority ← proxyAuthority crates isSocks authority
  match rsplitOnce 64 (asStr authority) with
  | none => do
      let uri ← proxyUri crates scheme authority
      return { uri, auth := .empty, extra := {} }
  | some (userinfo, hostPort) => do
      let authority ← crates.parseAuthority hostPort
      let uri ← proxyUri crates scheme authority
      return { uri, auth := proxyAuth crates isSocks userinfo, extra := {} }

-----------------------------------------------------------------------------------------
-- Proxies
-----------------------------------------------------------------------------------------

/-- `Builder` -/
structure Builder (Path : Type) where
  isCgi : Bool := false
  all : Str := []
  http : Str := []
  https : Str := []
  no : String := ""
  unix : Option Path := none

/-- `Builder::build` -/
def Builder.build (nets : IpNets Net) (self : Builder Path) (extra : Extra) : Matcher Net Path :=
  if self.isCgi then {}
  else
    let http := (parseEnvUri crates self.http).map (fun http => { http with extra })
    let https := (parseEnvUri crates self.https).map (fun https => { https with extra })
    let all := parseEnvUri crates self.all
    let all :=
      if http.isNone || https.isNone then all.map (fun all => { all with extra }) else all
    { http := http.or all
      https := https.or all
      no := NoProxy.fromString nets self.no
      unix := self.unix }

/-- `ProxyScheme` -/
inductive ProxyScheme (Path : Type) where
  | all (uri : Uri)
  | http (uri : Uri)
  | https (uri : Uri)
  | unix (path : Path)

end Tlsurl.Proxy

namespace Tlsurl

/-- `Proxy` -/
structure Proxy (Path : Type) where
  extra : Proxy.Extra := {}
  scheme : Proxy.ProxyScheme Path
  noProxy : Option String := none

end Tlsurl

namespace Tlsurl.Proxy

variable {Net Path : Type} (crates : Crates)

/-- `Proxy::all` -/
def all (uri : Uri) : Option (Proxy Path) := uri.intoUri.map (fun uri => { scheme := .all uri })

/-- `Proxy::basic_auth` -/
def basicAuth (self : Proxy Path) (username password : Str) : Proxy Path :=
  let header := basicAuthHeader crates username (some password)
  let extra : Extra := { self.extra with auth := some header }
  let set (uri : Uri) := setUserinfo crates uri username (some password)
  match self.scheme with
  | .all uri => { self with scheme := .all (set uri), extra }
  | .http uri => { self with scheme := .http (set uri), extra }
  | .https uri => { self with scheme := .https (set uri), extra }
  | .unix _ => self

/-- `Proxy::into_matcher` -/
def intoMatcher (nets : IpNets Net) (self : Proxy Path) : Matcher Net Path :=
  let no := self.noProxy.getD ""
  let builder : Builder Path :=
    match self.scheme with
    | .all uri => { all := uri.toStr, no }
    | .http uri => { http := uri.toStr, no }
    | .https uri => { https := uri.toStr, no }
    | .unix path => { unix := some path, no }
  builder.build crates nets self.extra

end Tlsurl.Proxy
