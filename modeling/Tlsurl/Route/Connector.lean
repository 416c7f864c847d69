import Tlsurl.Identity.Descriptor
import Tlsurl.Library.Traced
import Tlsurl.Proxy.Intercept
import Tlsurl.Proxy.Tunnel

/-! The routes of `ConnectorService` (`conn/connector.rs`) as the steps that they perform.
A route opens a transport and may speak to a proxy and shake hands over it. Any step may fail.
-/

namespace Tlsurl.Route

open Identity Library Net Proxy

-----------------------------------------------------------------------------------------
-- Options
-----------------------------------------------------------------------------------------

/-- `TcpOptions`, as far as a request changes them -/
structure TcpOptions where
  nodelay : Bool := false
  socketBind : SocketBindOptions := {}
  deriving DecidableEq

/-- `HttpConnector` -/
structure HttpConnector where
  options : TcpOptions := {}

namespace HttpConnector

/-- `HttpConnect::set_nodelay` -/
def setNodelay (self : HttpConnector) (nodelay : Bool) : HttpConnector :=
  { options := { self.options with nodelay } }

/-- `HttpConnect::set_interface` -/
def setInterface (self : HttpConnector) (interface : String) : HttpConnector :=
  { options := { self.options with socketBind := self.options.socketBind.setInterface interface } }

/-- `HttpConnect::set_local_addresses` -/
def setLocalAddresses (self : HttpConnector) (ipv4Address : Option (BitVec 32))
    (ipv6Address : Option (BitVec 128))
    : HttpConnector :=
  { options :=
      { self.options with
        socketBind := self.options.socketBind.setLocalAddresses ipv4Address ipv6Address } }

end HttpConnector

/-- `TlsConnector` by the options it was built from, `none` for those of the client -/
structure TlsConnector (T : Type) where
  options : Option T
  alpn : Bool := true

/-- The DNS resolution of a SOCKS connector -/
inductive DnsResolve where
  | local
  | remote

/-- The version of a SOCKS connector -/
inductive SocksVersion where
  | v4
  | v5

-----------------------------------------------------------------------------------------
-- Steps
-----------------------------------------------------------------------------------------

/-- A step of a route -/
inductive Step (Path T : Type) where
  /-- `TlsConnectorBuilder::build` -/
  | build (options : T)
  /-- `HttpConnector::call` -/
  | tcp (dst : Uri) (options : TcpOptions)
  /-- `UnixConnector::call` -/
  | unix (path : Path)
  /-- The exchange with a SOCKS proxy -/
  | socks (version : SocksVersion) (dnsResolve : DnsResolve) (auth : Option (Str × Str))
    (host : Str) (port : UInt16)
  /-- `tunnel` -/
  | tunnel (host : Str) (port : UInt16) (headers : TunnelHeaders)
  /-- `setup_ssl` and `perform_handshake` -/
  | handshake (tls : TlsConnector T) (uri : Uri)
  /-- `set_nodelay` of a socket -/
  | nodelay (enabled : Bool)

/-- `BoxError` over the errors of the steps -/
inductive BoxError (E : Type) where
  | step (error : E)
  | missingHost
  | proxyConnect (error : BoxError E)

variable {Net Path T E : Type}

/-- A route -/
abbrev Connecting (Path T E α : Type) : Type := Traced (Step Path T) (BoxError E) α

/-- What goes wrong at a step, after the steps before -/
abbrev World (Path T E : Type) : Type :=
  List (Step Path T) → Step Path T → Option (BoxError E)

variable (world : World Path T E)

/-- `HttpConnector` or `UnixConnector` as services of a URI -/
inductive Transport (Path : Type) where
  | http (http : HttpConnector)
  | unix (path : Path)

/-- `Service::call` of a transport -/
def Transport.call (self : Transport Path) (dst : Uri) : Connecting Path T E Unit :=
  match self with
  | .http connector => Traced.perform world (.tcp dst connector.options)
  | .unix path => Traced.perform world (.unix path)

/-- `HttpsConnector` -/
structure HttpsConnector (Path T : Type) where
  http : Transport Path
  tls : TlsConnector T

/-- `MaybeHttpsStream` -/
inductive MaybeHttpsStream where
  | http
  | https

namespace HttpsConnector

/-- `no_alpn` -/
def noAlpn (self : HttpsConnector Path T) : HttpsConnector Path T :=
  { self with tls := { self.tls with alpn := false } }

/-- `Service<Uri>::call` -/
def callUri (self : HttpsConnector Path T) (uri : Uri)
    : Connecting Path T E MaybeHttpsStream := do
  self.http.call world uri
  if uri.isHttps then
    Traced.perform world (.handshake self.tls uri)
    pure .https
  else pure .http

/-- The handshake over a stream unless the URI is one of `http` -/
def secure (self : HttpsConnector Path T) (uri : Uri)
    : Connecting Path T E MaybeHttpsStream :=
  if uri.isHttp then pure .http
  else do
    Traced.perform world (.handshake self.tls uri)
    pure .https

/-- `Service<ConnectionDescriptor>::call` -/
def call {M : Type} (self : HttpsConnector Path T) (descriptor : ConnectionDescriptor M T)
    : Connecting Path T E MaybeHttpsStream := do
  self.http.call world descriptor.uri
  self.secure world descriptor.uri

/-- `Service<EstablishedConn>::call` -/
def callEstablished {M : Type} (self : HttpsConnector Path T)
    (descriptor : ConnectionDescriptor M T)
    : Connecting Path T E MaybeHttpsStream :=
  self.secure world descriptor.uri

end HttpsConnector

/-- `TunnelConnector::call` -/
def callTunnel (proxyDst : Uri) (inner : HttpsConnector Path T) (headers : TunnelHeaders)
    (dst : Uri)
    : Connecting Path T E Unit := do
  let _ ← inner.callUri world proxyDst
  match dst.host with
  | none => Traced.stop .missingHost
  | some host => Traced.perform world (.tunnel host dst.portOrDefault headers)

/-- `SocksConnector::call` -/
def callSocks (proxyDst : Uri) (inner : HttpConnector) (auth : Option (Str × Str))
    (version : SocksVersion) (dnsResolve : DnsResolve) (dst : Uri)
    : Connecting Path T E Unit :=
  match dst.host with
  | none => Traced.stop .missingHost
  | some host => do
      Traced.perform world (.tcp proxyDst inner.options)
      Traced.perform world
        (.socks version dnsResolve auth (stripIpv6Brackets host) dst.portOrDefault)

-----------------------------------------------------------------------------------------
-- The service
-----------------------------------------------------------------------------------------

/-- `Config`, as far as the routes read it -/
structure Config (Net Path : Type) where
  proxies : List (Matcher Net Path) := []
  nodelay : Bool := true
  tlsInfo : Bool := false

/-- `ConnectorService` -/
structure ConnectorService (Net Path : Type) where
  config : Config Net Path
  http : HttpConnector

/-- `Conn` -/
structure Conn where
  stream : MaybeHttpsStream
  tlsInfo : Bool
  proxy : Option Intercept

/-- `Config` of the client builder, as far as its connector is made of it -/
structure ClientConfig (Net Path : Type) where
  proxies : List (Matcher Net Path) := []
  tcpNodelay : Bool := true
  tlsInfo : Bool := false
  socketBindOptions : SocketBindOptions := {}

/-- The connector of `ClientBuilder::build` -/
def ClientConfig.connector (config : ClientConfig Net Path) : ConnectorService Net Path :=
  let http : HttpConnector := {}
  let http := http.setNodelay config.tcpNodelay
  let http :=
    match config.socketBindOptions.interface with
    | none => http
    | some interface => http.setInterface interface
  let http := http.setLocalAddresses config.socketBindOptions.ipv4Address
    config.socketBindOptions.ipv6Address
  { config :=
      { proxies := config.proxies, nodelay := config.tcpNodelay, tlsInfo := config.tlsInfo }
    http }

namespace ConnectorService

variable (self : ConnectorService Net Path) (descriptor : ConnectionDescriptor (Matcher Net Path) T)

/-- The HTTP connector of `build_https_connector` -/
def configuredHttp (https : Bool) : HttpConnector :=
  let http := self.http
  let http := if https && !self.config.nodelay then http.setNodelay true else http
  match descriptor.socketBind with
  | none => http
  | some socketOpts =>
      let http := http.setLocalAddresses socketOpts.ipv4Address socketOpts.ipv6Address
      match socketOpts.interface with
      | none => http
      | some interface => http.setInterface interface

/-- `build_https_connector` -/
def buildHttpsConnector (https : Bool) : Connecting Path T E (HttpsConnector Path T) := do
  match descriptor.tlsOptions with
  | none => pure ()
  | some options => Traced.perform world (.build options)
  pure
    { http := .http (self.configuredHttp descriptor https)
      tls := { options := descriptor.tlsOptions } }

/-- `tunnel_conn_from_stream` -/
def tunnelConnFromStream (io : MaybeHttpsStream) : Conn :=
  match io with
  | .http => { stream := .http, tlsInfo := false, proxy := none }
  | .https => { stream := .https, tlsInfo := self.config.tlsInfo, proxy := none }

/-- `conn_from_stream` -/
def connFromStream (io : MaybeHttpsStream) (proxy : Option Intercept) : Conn where
  stream := io
  tlsInfo := self.config.tlsInfo
  proxy

/-- Nagle's algorithm is enabled again if it was disabled for the handshake. -/
def reenable (https : Bool) : Connecting Path T E Unit :=
  if https && !self.config.nodelay then Traced.perform world (.nodelay false) else pure ()

/-- `connect_auto_proxy` -/
def connectAutoProxy (proxy : Option Intercept) : Connecting Path T E Conn := do
  let isHttps := descriptor.uri.isHttps
  let connector ← self.buildHttpsConnector world descriptor isHttps
  let connector := if proxy.isSome && isHttps then connector.noAlpn else connector
  let io ← connector.call world descriptor
  self.reenable world isHttps
  pure (self.connFromStream io proxy)

/-- The SOCKS version and the DNS resolution of a proxy URI -/
def socksScheme (proxyUri : Uri) : Option (SocksVersion × DnsResolve) :=
  match proxyUri.scheme with
  | none => none
  | some scheme =>
      if scheme.asStr = ascii "socks4" then some (.v4, .local)
      else if scheme.asStr = ascii "socks4a" then some (.v4, .remote)
      else if scheme.asStr = ascii "socks5" then some (.v5, .local)
      else if scheme.asStr = ascii "socks5h" then some (.v5, .remote)
      else none

/-- The headers of the tunnel to a target over a proxy -/
def tunnelHeaders (proxy : Intercept) : TunnelHeaders :=
  let headers :=
    match proxy.basicAuth with
    | none => TunnelHeaders.empty
    | some auth => TunnelHeaders.empty.withAuth auth
  match proxy.customHeaders with
  | none => headers
  | some custom => headers.withHeaders custom

/-- The branch of `connect_via_proxy` for a SOCKS proxy -/
def connectViaSocks (proxy : Intercept) (version : SocksVersion) (dnsResolve : DnsResolve)
    : Connecting Path T E Conn := do
  let isHttps := descriptor.uri.isHttps
  callSocks world proxy.uri self.http proxy.rawAuth version dnsResolve descriptor.uri
  let connector ← self.buildHttpsConnector world descriptor isHttps
  let io ← connector.callEstablished world descriptor
  self.reenable world isHttps
  pure (self.tunnelConnFromStream io)

/-- The branch of `connect_via_proxy` for a tunnel to an `https` target -/
def connectViaTunnel (proxy : Intercept) : Connecting Path T E Conn := do
  let connector ← self.buildHttpsConnector world descriptor true
  callTunnel world proxy.uri connector (tunnelHeaders proxy) descriptor.uri
  let io ← connector.callEstablished world descriptor
  self.reenable world true
  pure (self.tunnelConnFromStream io)

/-- The branch of `connect_via_proxy` for a Unix socket -/
def connectViaUnix (path : Path) : Connecting Path T E Conn := do
  let connector : HttpsConnector Path T := { http := .unix path, tls := { options := none } }
  if descriptor.uri.isHttps then
    let localhost : Uri :=
      { scheme := some .http, authority := some { host := ascii "localhost" }, path := ascii "/" }
    callTunnel world localhost connector .empty descriptor.uri
    let io ← connector.callEstablished world descriptor
    pure (self.tunnelConnFromStream io)
  else
    let io ← connector.call world descriptor
    pure (self.connFromStream io none)

/-- `connect_via_proxy` -/
def connectViaProxy (intercepted : Intercepted Path) : Connecting Path T E Conn :=
  match intercepted with
  | .proxy proxy =>
      match socksScheme proxy.uri with
      | some (version, dnsResolve) =>
          self.connectViaSocks world descriptor proxy version dnsResolve
      | none =>
          if descriptor.uri.isHttps then self.connectViaTunnel world descriptor proxy
          else
            (self.connectAutoProxy world { descriptor with uri := proxy.uri } (some proxy)).mapErr
              .proxyConnect
  | .unix path => self.connectViaUnix world descriptor path

/-- What intercepts the target of a descriptor -/
def intercepted (nets : IpNets Net) : Option (Intercepted Path) :=
  (descriptor.proxy.bind (fun matcher => matcher.intercept nets descriptor.uri)).or
    (self.config.proxies.findSome? (fun matcher => matcher.intercept nets descriptor.uri))

/-- `connect_auto`; the timeout drops the route, which stops it after some step. -/
def connectAuto (nets : IpNets Net) : Connecting Path T E Conn :=
  match self.intercepted descriptor nets with
  | some intercepted => self.connectViaProxy world descriptor intercepted
  | none => self.connectAutoProxy world descriptor none

end ConnectorService

end Tlsurl.Route
