import Tlsurl.Proxy.NoProxy

/-! What a matcher intercepts (`Matcher::intercept` of `proxy/matcher.rs`). -/

namespace Tlsurl.Proxy

open Identity Net

/-- `Intercepted` -/
inductive Intercepted (Path : Type) where
  | proxy (proxy : Intercept)
  | unix (path : Path)

/-- `Intercept::basic_auth` -/
def Intercept.basicAuth (self : Intercept) : Option HeaderValue :=
  match self.extra.auth with
  | some value => some value
  | none =>
      match self.auth with
      | .basic value => some value
      | _ => none

/-- `Intercept::raw_auth` -/
def Intercept.rawAuth (self : Intercept) : Option (Str × Str) :=
  match self.auth with
  | .raw user pass => some (user, pass)
  | _ => none

/-- `Matcher::intercept` -/
def Matcher.intercept {Net Path : Type} (nets : IpNets Net) (self : Matcher Net Path) (dst : Uri)
    : Option (Intercepted Path) :=
  match self.unix with
  | some unix => some (.unix unix)
  | none => do
      let host ← dst.host
      if self.no.contains nets host then none
      else if dst.isHttp then self.http.map .proxy
      else if dst.isHttps then self.https.map .proxy
      else none

end Tlsurl.Proxy
