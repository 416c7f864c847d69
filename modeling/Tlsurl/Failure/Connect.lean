import Tlsurl.Failure.Report
import Tlsurl.Route.Connector

/-! The errors that the routes of `ConnectorService` stop with.
The routes perform the steps that they perform in `Route`; here the parts that speak to a proxy put
their own error around the error of a step (`proxy/tunnel.rs`, `proxy/socks.rs`, `ProxyConnect`).
-/

namespace Tlsurl.Failure

open Identity Library Net Proxy Route

/-- A route with the errors that it stops with -/
abbrev Connecting (Path T α : Type) : Type := Traced (Route.Step Path T) Cause α

variable {Net Path T α : Type}

section Errors

variable (world : List (Route.Step Path T) → Route.Step Path T → Option Cause)

/-- The world of the parts that put nothing around an error -/
def plain : Route.World Path T Cause :=
  fun history step => (world history step).map Route.BoxError.step

/-- The error of a part that puts nothing around it -/
def raised : Route.BoxError Cause → Cause
  | .step error => error
  | .missingHost => .tunnel .missingHost
  | .proxyConnect error => .proxyConnect (raised error)

/-- A part that puts nothing around its errors -/
def lift (run : Route.Connecting Path T Cause α) : Connecting Path T α := run.mapErr raised

/-- `TunnelConnector::call` -/
def callTunnel (proxyDst : Uri) (inner : HttpsConnector Path T) (headers : TunnelHeaders)
    (dst : Uri)
    : Connecting Path T Unit := do
  let _ ← (lift (inner.callUri (plain world) proxyDst)).mapErr (.tunnelOver .connectFailed)
  match dst.host with
  | none => Traced.stop (.tunnel .missingHost)
  | some host => Traced.perform world (.tunnel host dst.portOrDefault headers)

/-- `SocksConnector::call` -/
def callSocks (proxyDst : Uri) (inner : HttpConnector) (auth : Option (Str × Str))
    (version : SocksVersion) (dnsResolve : DnsResolve) (dst : Uri)
    : Connecting Path T Unit :=
  match dst.host with
  | none => Traced.stop (.socks .missingHost)
  | some host => do
      (Traced.perform world (.tcp proxyDst inner.options)).mapErr (.socksOver .connectFailed)
      Traced.perform world
        (.socks version dnsResolve auth (stripIpv6Brackets host) dst.portOrDefault)

variable (self : ConnectorService Net Path) (descriptor : ConnectionDescriptor (Matcher Net Path) T)

/-- The branch of `connect_via_proxy` for a SOCKS proxy -/
def connectViaSocks (proxy : Intercept) (version : SocksVersion) (dnsResolve : DnsResolve)
    : Connecting Path T Conn := do
  let isHttps := descriptor.uri.isHttps
  callSocks world proxy.uri self.http proxy.rawAuth version dnsResolve descriptor.uri
  let connector ← lift (self.buildHttpsConnector (plain world) descriptor isHttps)
  let io ← lift (connector.callEstablished (plain world) descriptor)
  lift (self.reenable (plain world) isHttps)
  pure (self.tunnelConnFromStream io)

/-- The branch of `connect_via_proxy` for a tunnel to an `https` target -/
def connectViaTunnel (proxy : Intercept) : Connecting Path T Conn := do
  let connector ← lift (self.buildHttpsConnector (plain world) descriptor true)
  callTunnel world proxy.uri connector (ConnectorService.tunnelHeaders proxy) descriptor.uri
  let io ← lift (connector.callEstablished (plain world) descriptor)
  lift (self.reenable (plain world) true)
  pure (self.tunnelConnFromStream io)

/-- The branch of `connect_via_proxy` for a Unix socket -/
def connectViaUnix (path : Path) : Connecting Path T Conn := do
  let connector : HttpsConnector Path T := { http := .unix path, tls := { options := none } }
  if descriptor.uri.isHttps then
    let localhost : Uri :=
      { scheme := some .http, authority := some { host := ascii "localhost" }, path := ascii "/" }
    callTunnel world localhost connector .empty descriptor.uri
    let io ← lift (connector.callEstablished (plain world) descriptor)
    pure (self.tunnelConnFromStream io)
  else
    let io ← lift (connector.call (plain world) descriptor)
    pure (self.connFromStream io none)

/-- `connect_via_proxy` -/
def connectViaProxy (intercepted : Intercepted Path) : Connecting Path T Conn :=
  match intercepted with
  | .proxy proxy =>
      match ConnectorService.socksScheme proxy.uri with
      | some (version, dnsResolve) =>
          connectViaSocks world self descriptor proxy version dnsResolve
      | none =>
          if descriptor.uri.isHttps then connectViaTunnel world self descriptor proxy
          else
            (lift (self.connectAutoProxy (plain world) { descriptor with uri := proxy.uri }
              (some proxy))).mapErr .proxyConnect
  | .unix path => connectViaUnix world self descriptor path

/-- The future of `connect_auto`, which its timeout may drop -/
def routeAuto (nets : IpNets Net) : Connecting Path T Conn :=
  match self.intercepted descriptor nets with
  | some intercepted => connectViaProxy world self descriptor intercepted
  | none => lift (self.connectAutoProxy (plain world) descriptor none)

/-- `connect_auto`, with whether there is a timeout that is over before the route is -/
def connectAuto (nets : IpNets Net) (elapsed : Bool) : Except Cause Conn :=
  if elapsed then .error .timedOut else (routeAuto world self descriptor nets []).1

end Errors

-----------------------------------------------------------------------------------------
-- The routes of the other model
-----------------------------------------------------------------------------------------

section Mirrors

variable {world : List (Route.Step Path T) → Route.Step Path T → Option Cause}
variable {self : ConnectorService Net Path}
variable {descriptor : ConnectionDescriptor (Matcher Net Path) T}

theorem lift_mirrors (run : Route.Connecting Path T Cause α) : Traced.Mirrors (lift run) run :=
  (Traced.Mirrors.refl run).mapErr raised

theorem perform_mirrors (step : Route.Step Path T)
    : Traced.Mirrors (Traced.perform world step) (Traced.perform (plain world) step) := by
  intro history
  simp only [Traced.perform, plain]
  cases world history step <;> exact ⟨rfl, rfl⟩

theorem callTunnel_mirrors {proxyDst dst : Uri} {inner : HttpsConnector Path T}
    {headers : TunnelHeaders}
    : Traced.Mirrors (callTunnel world proxyDst inner headers dst)
      (Route.callTunnel (plain world) proxyDst inner headers dst) := by
  rw [callTunnel, Route.callTunnel]
  refine ((lift_mirrors _).mapErr _).bind (fun _ => ?_)
  cases dst.host with
  | none => exact .stop _ _
  | some host => exact perform_mirrors _

theorem callSocks_mirrors {proxyDst dst : Uri} {inner : HttpConnector}
    {auth : Option (Str × Str)} {version : SocksVersion} {dnsResolve : DnsResolve}
    : Traced.Mirrors (callSocks world proxyDst inner auth version dnsResolve dst)
      (Route.callSocks (plain world) proxyDst inner auth version dnsResolve dst) := by
  rw [callSocks, Route.callSocks]
  cases dst.host with
  | none => exact .stop _ _
  | some host => exact ((perform_mirrors _).mapErr _).bind (fun _ => perform_mirrors _)

theorem connectViaUnix_mirrors (path : Path)
    : Traced.Mirrors (connectViaUnix world self descriptor path)
      (self.connectViaUnix (plain world) descriptor path) := by
  rw [connectViaUnix, ConnectorService.connectViaUnix]
  cases descriptor.uri.isHttps with
  | true =>
      simp only [if_true]
      exact callTunnel_mirrors.bind
        (fun _ => (lift_mirrors _).bind (fun _ => .refl (pure _)))
  | false =>
      simp only [Bool.false_eq_true, if_false]
      exact (lift_mirrors _).bind (fun _ => .refl (pure _))

/-- The routes perform the same steps and return the same connections in both models. -/
theorem routeAuto_mirrors (nets : IpNets Net)
    : Traced.Mirrors (routeAuto world self descriptor nets)
      (self.connectAuto (plain world) descriptor nets) := by
  rw [routeAuto, ConnectorService.connectAuto]
  cases self.intercepted descriptor nets with
  | none => exact lift_mirrors _
  | some intercepted =>
      cases intercepted with
      | unix path => exact connectViaUnix_mirrors path
      | proxy proxy =>
          simp only [connectViaProxy, ConnectorService.connectViaProxy]
          cases ConnectorService.socksScheme proxy.uri with
          | some kind =>
              exact callSocks_mirrors.bind (fun _ => (lift_mirrors _).bind (fun _ =>
                (lift_mirrors _).bind (fun _ => (lift_mirrors _).bind (fun _ => .refl (pure _)))))
          | none =>
              cases descriptor.uri.isHttps with
              | true =>
                  exact (lift_mirrors _).bind (fun _ => callTunnel_mirrors.bind (fun _ =>
                    (lift_mirrors _).bind (fun _ =>
                      (lift_mirrors _).bind (fun _ => .refl (pure _)))))
              | false =>
                  exact (((lift_mirrors _).mapErr _).symm.mapErr _).symm

end Mirrors

end Tlsurl.Failure
