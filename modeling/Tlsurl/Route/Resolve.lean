import Tlsurl.Library.AssocMap
import Tlsurl.Net.RaceOrder
import Tlsurl.Route.Connector

/-! Where the connectors resolve a host: `dns.rs`, `dns/resolve.rs`, `HttpConnector::call` of
`conn/http.rs` and `SocksConnector::call` of `conn/proxy/socks.rs`.
-/

namespace Tlsurl.Net

open Identity

-----------------------------------------------------------------------------------------
-- Addresses
-----------------------------------------------------------------------------------------

namespace SocketAddr

/-- `SocketAddr::ip` -/
def ip : SocketAddr → IpAddr
  | .v4 ip _ => .v4 ip
  | .v6 ip _ _ _ => .v6 ip

/-- `SocketAddr::port` -/
def port : SocketAddr → UInt16
  | .v4 _ port => port
  | .v6 _ port _ _ => port

/-- `SocketAddr::set_port` -/
def setPort (self : SocketAddr) (port : UInt16) : SocketAddr :=
  match self with
  | .v4 ip _ => .v4 ip port
  | .v6 ip _ flowinfo scopeId => .v6 ip port flowinfo scopeId

@[simp] theorem ip_setPort (self : SocketAddr) (port : UInt16)
    : (self.setPort port).ip = self.ip := by
  cases self <;> rfl

@[simp] theorem port_setPort (self : SocketAddr) (port : UInt16)
    : (self.setPort port).port = port := by
  cases self <;> rfl

@[simp] theorem isIpv4_setPort (self : SocketAddr) (port : UInt16)
    : (self.setPort port).isIpv4 = self.isIpv4 := by
  cases self <;> rfl

@[simp] theorem isIpv6_setPort (self : SocketAddr) (port : UInt16)
    : (self.setPort port).isIpv6 = self.isIpv6 := by
  cases self <;> rfl

end SocketAddr

/-- `Ipv4Addr::from_str` -/
def parseIpv4Addr (text : Str) : Option (BitVec 32) :=
  if 15 < text.length then none
  else
    match readIpv4Addr text with
    | some (address, []) => some address
    | _ => none

/-- `Ipv6Addr::from_str` -/
def parseIpv6Addr (text : Str) : Option (BitVec 128) :=
  match readIpv6Addr text with
  | some (address, []) => some address
  | _ => none

/-- `SocketAddrs::try_parse` -/
def tryParse (host : Str) (port : UInt16) : Option (List SocketAddr) :=
  match parseIpv4Addr host with
  | some addr => some [.v4 addr port]
  | none =>
      match parseIpv6Addr host with
      | some addr => some [.v6 addr port 0 0]
      | none => none

end Tlsurl.Net

namespace Tlsurl.Route

open Library Net Proxy

-----------------------------------------------------------------------------------------
-- Resolvers
-----------------------------------------------------------------------------------------

/-- `Resolve`: what a resolver answers for a name -/
abbrev Resolver (E : Type) : Type := Str → Except E (List SocketAddr)

/-- `DnsResolverWithOverrides`, which without overrides is the resolver itself -/
structure DnsResolverWithOverrides (E : Type) where
  dnsResolver : Resolver E
  overrides : AssocMap Str (List SocketAddr)

/-- `DnsResolverWithOverrides::resolve` -/
def DnsResolverWithOverrides.resolve {E : Type} (self : DnsResolverWithOverrides E)
    : Resolver E :=
  fun name =>
    match self.overrides.lookup name with
    | some dest => .ok dest
    | none => self.dnsResolver name

-----------------------------------------------------------------------------------------
-- The direct connector
-----------------------------------------------------------------------------------------

/-- `TcpOptions`, with what `HttpConnector::call` reads -/
structure DialOptions extends TcpOptions where
  enforceHttp : Bool := false
  happyEyeballsTimeout : Option Nat := some 300

/-- `ConnectError::dns` -/
def dnsError {E : Type} (cause : E) : ConnectError E :=
  { msg := "dns error", cause := some (.other cause) }

/-- `get_host_port` -/
def getHostPort {E : Type} (options : DialOptions) (dst : Uri)
    : Except (ConnectError E) (Str × UInt16) :=
  if options.enforceHttp = true ∧ dst.scheme ≠ some .http then
    .error { msg := "invalid URI, scheme is not http", cause := none }
  else if options.enforceHttp = false ∧ dst.scheme = none then
    .error { msg := "invalid URI, scheme is missing", cause := none }
  else
    match dst.host with
    | none => .error { msg := "invalid URI, host is missing", cause := none }
    | some host =>
        let port := match dst.port with
          | some port => port
          | none => if dst.scheme = some .https then 443 else 80
        .ok (host, port)

/-- `set_port` -/
def setPort (addr : SocketAddr) (hostPort : UInt16) (explicit : Bool) : SocketAddr :=
  if explicit || addr.port == 0 then addr.setPort hostPort else addr

/-- The addresses of `HttpConnector::call` -/
def dialAddrs {E : Type} (options : DialOptions) (resolver : Resolver E) (dst : Uri)
    : Except (ConnectError E) (List SocketAddr) := do
  let (host, port) ← getHostPort options dst
  let host := stripIpv6Brackets host
  match tryParse host port with
  | some addrs => .ok addrs
  | none =>
      match resolver host with
      | .error error => .error (dnsError error)
      | .ok addrs => .ok (addrs.map (fun addr => setPort addr port dst.port.isSome))

/-- `ConnectingTcpRemote::connect_inner` up to its first `await`, with what it logs -/
def connectRemote {C E : Type} (setup : Setup E) (order : Nat) : List SocketAddr → List (Log C E)
  | [] => []
  | addr :: rest =>
      match setup order addr with
      | none => [.connecting order addr]
      | some error =>
          .connecting order addr :: .failed order (error.withAddr addr)
            :: connectRemote setup (order + 1) rest

/-- `ConnectingTcp::connect` up to its first `await`, with what it logs -/
def connect {C E : Type} (setup : Setup E) (families : ConnectingTcpState E) : List (Log C E) :=
  if families.fallback = none
      ∧ (families.happyEyeballsTimeout = none ∨ families.preferred.length ≤ 1) then
    connectRemote setup 0 families.preferred
  else (Race.start setup families).log

/-- `HttpConnector::call` up to its first `await` of a connection, with what it logs -/
def HttpConnector.call {C E : Type} (options : DialOptions) (resolver : Resolver E)
    (setup : Setup E) (dst : Uri)
    : Except (ConnectError E) (List (Log C E)) := do
  let addrs ← dialAddrs options resolver dst
  return connect setup
    (.new addrs options.socketBind.ipv4Address options.socketBind.ipv6Address
      options.happyEyeballsTimeout)

-----------------------------------------------------------------------------------------
-- The SOCKS connector
-----------------------------------------------------------------------------------------

/-- `SocksError`, as far as it comes before the exchange with the proxy -/
inductive SocksError (E : Type) where
  | connectFailed (error : E)
  | dnsResolveFailure (error : E)
  | dnsFailure
  | missingHost

/-- `TargetAddr` of the SOCKS client -/
inductive TargetAddr where
  | ip (addr : SocketAddr)
  | domain (host : Str) (port : UInt16)

/-- `SocksConnector::call` up to the exchange with the proxy: the target that it is asked for,
after the connection to the proxy.
-/
def SocksConnector.call {E : Type} (resolver : Resolver E) (dnsResolve : DnsResolve)
    (connecting : Except E Unit) (dst : Uri)
    : Except (SocksError E) TargetAddr :=
  match dst.host with
  | none => .error .missingHost
  | some host =>
      let host := stripIpv6Brackets host
      let port := dst.portOrDefault
      match connecting with
      | .error error => .error (.connectFailed error)
      | .ok _ =>
          match dnsResolve with
          | .local =>
              match resolver host with
              | .error error => .error (.dnsResolveFailure error)
              | .ok addrs =>
                  match addrs.head? with
                  | none => .error .dnsFailure
                  | some socketAddr => .ok (.ip (socketAddr.setPort port))
          | .remote => .ok (.domain host port)

end Tlsurl.Route
