import Tlsurl.Route.Connector

/-! Whose options the sockets of a route have.
Every route builds one connector with the options of the request, but the route over a SOCKS proxy
opens its socket with another one, which has those of the client.
-/

namespace Tlsurl.Route

open Identity Library Net Proxy

variable {Net Path T E : Type}

-----------------------------------------------------------------------------------------
-- The options that are wanted
-----------------------------------------------------------------------------------------

/-- What the request binds sockets to; where it leaves something open, what the client binds them
to
-/
def bound (request : Option SocketBindOptions) (client : SocketBindOptions)
    : SocketBindOptions where
  interface := (request.bind SocketBindOptions.interface).or client.interface
  ipv4Address := (request.bind SocketBindOptions.ipv4Address).or client.ipv4Address
  ipv6Address := (request.bind SocketBindOptions.ipv6Address).or client.ipv6Address

/-- The `TCP_NODELAY` of the socket at hand, if there is one -/
def currentNodelay : List (Step Path T) → Option Bool
  | [] => none
  | .tcp _ options :: _ => some options.nodelay
  | .unix _ :: _ => none
  | .nodelay enabled :: earlier => (currentNodelay earlier).map (fun _ => enabled)
  | .build _ :: earlier => currentNodelay earlier
  | .socks _ _ _ _ _ :: earlier => currentNodelay earlier
  | .tunnel _ _ _ :: earlier => currentNodelay earlier
  | .handshake _ _ :: earlier => currentNodelay earlier

/-- Every socket is bound as wanted, and no handshake is made over a socket with delays. -/
inductive Honoured (wanted : SocketBindOptions) : List (Step Path T) → Prop where
  | nil : Honoured wanted []
  | tcp {dst options earlier} (before : Honoured wanted earlier)
    (binds : options.socketBind = wanted)
    : Honoured wanted (.tcp dst options :: earlier)
  | handshake {tls uri earlier} (before : Honoured wanted earlier)
    (prompt : currentNodelay earlier ≠ some false)
    : Honoured wanted (.handshake tls uri :: earlier)
  | build {options earlier} (before : Honoured wanted earlier)
    : Honoured wanted (.build options :: earlier)
  | unix {path earlier} (before : Honoured wanted earlier)
    : Honoured wanted (.unix path :: earlier)
  | socks {version dnsResolve auth host port earlier} (before : Honoured wanted earlier)
    : Honoured wanted (.socks version dnsResolve auth host port :: earlier)
  | tunnel {host port headers earlier} (before : Honoured wanted earlier)
    : Honoured wanted (.tunnel host port headers :: earlier)
  | nodelay {enabled earlier} (before : Honoured wanted earlier)
    : Honoured wanted (.nodelay enabled :: earlier)

/-- The options that a descriptor asks of a client -/
def wantedBy (client : ClientConfig Net Path)
    (descriptor : ConnectionDescriptor (Matcher Net Path) T)
    : SocketBindOptions :=
  bound descriptor.socketBind client.socketBindOptions

/-- The connector of a client has the client's options. -/
theorem ClientConfig.connector_options (config : ClientConfig Net Path)
    : config.connector.http.options
      = { nodelay := config.tcpNodelay, socketBind := config.socketBindOptions } := by
  obtain ⟨proxies, nodelay, info, interface, ipv4, ipv6⟩ := config
  cases interface <;> cases ipv4 <;> cases ipv6 <;> rfl

-----------------------------------------------------------------------------------------
-- What the parts of a route keep
-----------------------------------------------------------------------------------------

variable {world : World Path T E} {wanted : SocketBindOptions}

/-- The socket that a transport opens, if any, is bound as wanted. -/
def Transport.Binds (self : Transport Path) (wanted : SocketBindOptions) : Prop :=
  ∀ http, self = .http http → http.options.socketBind = wanted

/-- The `TCP_NODELAY` of the socket that a transport opens, if any -/
def Transport.nodelay : Transport Path → Option Bool
  | .http connector => some connector.options.nodelay
  | .unix _ => none

theorem Transport.call_honoured {self : Transport Path} (binds : self.Binds wanted) (dst : Uri)
    : Traced.Ensures (Honoured wanted) (self.call world dst)
      (fun _ history => Honoured wanted history ∧ currentNodelay history = self.nodelay)
      (Honoured wanted) := by
  cases self with
  | http connector =>
      apply Traced.Ensures.perform
      intro history before
      have after : Honoured wanted (.tcp dst connector.options :: history) :=
        .tcp before (binds connector rfl)
      exact ⟨after, after, rfl⟩
  | unix path =>
      apply Traced.Ensures.perform
      intro history before
      exact ⟨.unix before, .unix before, rfl⟩

/-- A handshake needs a socket without delay. -/
theorem HttpsConnector.secure_honoured (self : HttpsConnector Path T) (uri : Uri)
    : Traced.Ensures
      (fun history =>
        Honoured wanted history ∧ (uri.isHttp = false → currentNodelay history ≠ some false))
      (self.secure world uri) (fun _ => Honoured wanted) (Honoured wanted) := by
  cases plain : uri.isHttp with
  | true =>
      rw [HttpsConnector.secure, if_pos plain]
      exact Traced.Ensures.pure (fun _ start => start.1)
  | false =>
      rw [HttpsConnector.secure, if_neg (by simp [plain])]
      refine Traced.Ensures.bind (fun _ => Honoured wanted) (Traced.Ensures.perform ?_)
        (fun _ => Traced.Ensures.pure ?_)
      · intro history start
        have after : Honoured wanted (.handshake self.tls uri :: history) :=
          .handshake start.1 (start.2 rfl)
        exact ⟨after, after⟩
      · exact fun _ start => start

theorem HttpsConnector.call_honoured {M : Type} {self : HttpsConnector Path T}
    (binds : self.http.Binds wanted) {descriptor : ConnectionDescriptor M T}
    (prompt : descriptor.uri.isHttp = false → self.http.nodelay ≠ some false)
    : Traced.Ensures (Honoured wanted) (self.call world descriptor) (fun _ => Honoured wanted)
      (Honoured wanted) := by
  rw [HttpsConnector.call]
  refine Traced.Ensures.bind _ (Transport.call_honoured binds descriptor.uri) (fun _ => ?_)
  exact (self.secure_honoured descriptor.uri).weaken
    (fun history start => ⟨start.1, fun plain => start.2 ▸ prompt plain⟩) (fun _ _ done => done)

theorem HttpsConnector.callUri_honoured {self : HttpsConnector Path T}
    (binds : self.http.Binds wanted) {uri : Uri}
    (prompt : uri.isHttps = true → self.http.nodelay ≠ some false)
    : Traced.Ensures (Honoured wanted) (self.callUri world uri)
      (fun _ history => Honoured wanted history ∧ currentNodelay history = self.http.nodelay)
      (Honoured wanted) := by
  rw [HttpsConnector.callUri]
  refine Traced.Ensures.bind
    (fun _ history => Honoured wanted history ∧ currentNodelay history = self.http.nodelay)
    (Transport.call_honoured binds uri) (fun _ => ?_)
  cases secured : uri.isHttps with
  | false =>
      rw [if_neg (by simp)]
      exact Traced.Ensures.pure (fun _ start => start)
  | true =>
      rw [if_pos rfl]
      refine Traced.Ensures.bind
        (fun _ history => Honoured wanted history ∧ currentNodelay history = self.http.nodelay)
        (Traced.Ensures.perform ?_) (fun _ => Traced.Ensures.pure fun _ start => start)
      intro history ⟨before, current⟩
      have after : Honoured wanted (.handshake self.tls uri :: history) :=
        .handshake before (current ▸ prompt secured)
      exact ⟨after, after, current⟩

theorem callTunnel_honoured {inner : HttpsConnector Path T} (binds : inner.http.Binds wanted)
    {proxyDst : Uri} (prompt : proxyDst.isHttps = true → inner.http.nodelay ≠ some false)
    (headers : TunnelHeaders) (dst : Uri)
    : Traced.Ensures (Honoured wanted) (callTunnel world proxyDst inner headers dst)
      (fun _ history => Honoured wanted history ∧ currentNodelay history = inner.http.nodelay)
      (Honoured wanted) := by
  rw [callTunnel]
  refine Traced.Ensures.bind
    (fun _ history => Honoured wanted history ∧ currentNodelay history = inner.http.nodelay)
    (HttpsConnector.callUri_honoured binds prompt) (fun _ => ?_)
  cases dst.host with
  | none => exact Traced.Ensures.stop (fun _ start => start.1)
  | some host =>
      apply Traced.Ensures.perform
      intro history ⟨before, current⟩
      have after : Honoured wanted (.tunnel host dst.portOrDefault headers :: history) :=
        .tunnel before
      exact ⟨after, after, current⟩

namespace ConnectorService

variable {client : ClientConfig Net Path} {descriptor : ConnectionDescriptor (Matcher Net Path) T}

/-- The connector that a route builds has the options of the request, and is prompt for TLS. -/
theorem configuredHttp_options (https : Bool)
    : (client.connector.configuredHttp descriptor https).options
      = { nodelay := https || client.tcpNodelay
          socketBind := bound descriptor.socketBind client.socketBindOptions } := by
  have http : (if https && !client.tcpNodelay then client.connector.http.setNodelay true
        else client.connector.http).options
      = { nodelay := https || client.tcpNodelay, socketBind := client.socketBindOptions } := by
    cases https <;> cases nodelay : client.tcpNodelay <;>
      simp [HttpConnector.setNodelay, client.connector_options, nodelay]
  have config : client.connector.config.nodelay = client.tcpNodelay := rfl
  rw [configuredHttp, config]
  generalize (if https && !client.tcpNodelay then client.connector.http.setNodelay true
    else client.connector.http) = start at http ⊢
  cases descriptor.socketBind with
  | none => exact http
  | some opts =>
      obtain ⟨interface, ipv4, ipv6⟩ := opts
      cases interface <;>
        simp [HttpConnector.setInterface, HttpConnector.setLocalAddresses, http, bound,
          SocketBindOptions.setInterface, SocketBindOptions.setLocalAddresses]

theorem buildHttpsConnector_honoured (https : Bool) {current : Option Bool}
    : Traced.Ensures
      (fun history => Honoured wanted history ∧ currentNodelay history = current)
      (client.connector.buildHttpsConnector world descriptor https)
      (fun connector history =>
        (Honoured wanted history ∧ currentNodelay history = current)
        ∧ connector.http = .http (client.connector.configuredHttp descriptor https))
      (Honoured wanted) := by
  rw [buildHttpsConnector]
  cases descriptor.tlsOptions with
  | none => exact Traced.Ensures.pure (fun _ start => ⟨start, rfl⟩)
  | some options =>
      refine Traced.Ensures.bind
        (fun _ history => Honoured wanted history ∧ currentNodelay history = current)
        (Traced.Ensures.perform ?_) (fun _ => Traced.Ensures.pure fun _ start => ⟨start, rfl⟩)
      intro history ⟨before, same⟩
      have after : Honoured wanted (.build options :: history) := .build before
      exact ⟨after, after, same⟩

theorem reenable_honoured (https : Bool)
    : Traced.Ensures (Honoured wanted) (client.connector.reenable world https)
      (fun _ => Honoured wanted) (Honoured wanted) := by
  rw [reenable]
  split
  · exact Traced.Ensures.perform (fun _ before => ⟨.nodelay before, .nodelay before⟩)
  · exact Traced.Ensures.pure (fun _ before => before)

/-- The connector that a route builds binds as wanted, and sends without delay for TLS. -/
theorem configuredHttp_transport {https : Bool} {connector : HttpsConnector Path T}
    (built : connector.http = .http (client.connector.configuredHttp descriptor https))
    : connector.http.Binds (wantedBy client descriptor)
      ∧ (https = true → connector.http.nodelay ≠ some false) := by
  rw [built]
  constructor
  · rintro http same
    cases same
    rw [configuredHttp_options, wantedBy]
  · rintro rfl
    simp [Transport.nodelay, configuredHttp_options]

/-- The direct route, which is also that to a proxy of a plain target -/
theorem connectAutoProxy_honoured (proxy : Option Intercept)
    (known : descriptor.uri.isHttp = true ∨ descriptor.uri.isHttps = true)
    : Traced.Ensures
      (fun history =>
        Honoured (wantedBy client descriptor) history ∧ currentNodelay history = none)
      (client.connector.connectAutoProxy world descriptor proxy)
      (fun _ => Honoured (wantedBy client descriptor))
      (Honoured (wantedBy client descriptor)) := by
  rw [connectAutoProxy]
  refine Traced.Ensures.bind _ (buildHttpsConnector_honoured _) (fun connector => ?_)
  apply Traced.Ensures.assume
  intro built
  obtain ⟨binds, prompt⟩ := configuredHttp_transport built
  refine Traced.Ensures.bind (fun _ => Honoured (wantedBy client descriptor)) ?_ (fun io => ?_)
  · have same : (if proxy.isSome && descriptor.uri.isHttps then connector.noAlpn
        else connector).http = connector.http := by
      split <;> rfl
    refine Traced.Ensures.weaken (HttpsConnector.call_honoured ?_ ?_) (fun _ start => start.1)
      (fun _ _ done => done)
    · rwa [same]
    · intro plain
      rw [same]
      exact prompt (known.resolve_left (by simp [plain]))
  · exact Traced.Ensures.bind (fun _ => Honoured (wantedBy client descriptor))
      (reenable_honoured _) (fun _ => Traced.Ensures.pure fun _ start => start)

/-- The route through a tunnel -/
theorem connectViaTunnel_honoured (proxy : Intercept)
    : Traced.Ensures
      (fun history =>
        Honoured (wantedBy client descriptor) history ∧ currentNodelay history = none)
      (client.connector.connectViaTunnel world descriptor proxy)
      (fun _ => Honoured (wantedBy client descriptor))
      (Honoured (wantedBy client descriptor)) := by
  rw [connectViaTunnel]
  refine Traced.Ensures.bind _ (buildHttpsConnector_honoured _) (fun connector => ?_)
  apply Traced.Ensures.assume
  intro built
  obtain ⟨binds, prompt⟩ := configuredHttp_transport built
  refine Traced.Ensures.bind _
    (callTunnel_honoured binds (fun _ => prompt rfl) _ _ |>.weaken (fun _ start => start.1)
      (fun _ _ done => done)) (fun _ => ?_)
  refine Traced.Ensures.bind (fun _ => Honoured (wantedBy client descriptor)) ?_ (fun io => ?_)
  · exact (HttpsConnector.secure_honoured connector descriptor.uri).weaken
      (fun history start => ⟨start.1, fun _ => start.2 ▸ prompt rfl⟩) (fun _ _ done => done)
  · exact Traced.Ensures.bind (fun _ => Honoured (wantedBy client descriptor))
      (reenable_honoured _) (fun _ => Traced.Ensures.pure fun _ start => start)

/-- The route over a Unix socket, for which there are no options -/
theorem connectViaUnix_honoured (path : Path)
    : Traced.Ensures
      (fun history =>
        Honoured (wantedBy client descriptor) history ∧ currentNodelay history = none)
      (client.connector.connectViaUnix world descriptor path)
      (fun _ => Honoured (wantedBy client descriptor))
      (Honoured (wantedBy client descriptor)) := by
  have binds : (Transport.unix path).Binds (wantedBy client descriptor) := nofun
  have prompt : (Transport.unix path).nodelay ≠ some false := nofun
  rw [connectViaUnix]
  cases secured : descriptor.uri.isHttps with
  | true =>
      rw [if_pos rfl]
      refine Traced.Ensures.bind _ (callTunnel_honoured binds (fun _ => prompt) _ _ |>.weaken
        (fun _ start => start.1) (fun _ _ done => done)) (fun _ => ?_)
      refine Traced.Ensures.bind (fun _ => Honoured (wantedBy client descriptor)) ?_
        (fun _ => Traced.Ensures.pure fun _ start => start)
      exact (HttpsConnector.secure_honoured _ descriptor.uri).weaken
        (fun history start => ⟨start.1, fun _ => start.2 ▸ prompt⟩) (fun _ _ done => done)
  | false =>
      rw [if_neg (by simp)]
      refine Traced.Ensures.bind (fun _ => Honoured (wantedBy client descriptor)) ?_
        (fun _ => Traced.Ensures.pure fun _ start => start)
      exact (HttpsConnector.call_honoured binds (fun _ => prompt)).weaken
        (fun _ start => start.1) (fun _ _ done => done)

/-- The first hop of a SOCKS route has the options of the client. -/
theorem callSocks_honoured {proxyDst dst : Uri} {auth : Option (Str × Str)}
    {version : SocksVersion} {dnsResolve : DnsResolve}
    (same : wanted = client.socketBindOptions)
    : Traced.Ensures (Honoured wanted)
      (callSocks world proxyDst client.connector.http auth version dnsResolve dst)
      (fun _ history =>
        Honoured wanted history ∧ currentNodelay history = some client.tcpNodelay)
      (Honoured wanted) := by
  rw [callSocks, client.connector_options]
  cases dst.host with
  | none => exact Traced.Ensures.stop (fun _ start => start)
  | some host =>
      refine Traced.Ensures.bind
        (fun _ history =>
          Honoured wanted history ∧ currentNodelay history = some client.tcpNodelay)
        (Traced.Ensures.perform ?_) (fun _ => Traced.Ensures.perform ?_)
      · intro history before
        have after : Honoured wanted (.tcp proxyDst
            { nodelay := client.tcpNodelay, socketBind := client.socketBindOptions } :: history) :=
          .tcp before same.symm
        exact ⟨after, after, rfl⟩
      · intro history ⟨before, current⟩
        exact ⟨.socks before, .socks before, current⟩

/-- The route over a SOCKS proxy, whose socket has the options of the client -/
theorem connectViaSocks_honoured (proxy : Intercept) (version : SocksVersion)
    (dnsResolve : DnsResolve)
    (same : wantedBy client descriptor = client.socketBindOptions)
    (prompt : descriptor.uri.isHttp = false → client.tcpNodelay = true)
    : Traced.Ensures
      (fun history =>
        Honoured (wantedBy client descriptor) history ∧ currentNodelay history = none)
      (client.connector.connectViaSocks world descriptor proxy version dnsResolve)
      (fun _ => Honoured (wantedBy client descriptor))
      (Honoured (wantedBy client descriptor)) := by
  rw [connectViaSocks]
  refine Traced.Ensures.bind _ ((callSocks_honoured same).weaken (fun _ start => start.1)
    (fun _ _ done => done)) (fun _ => ?_)
  refine Traced.Ensures.bind _ (buildHttpsConnector_honoured _) (fun connector => ?_)
  apply Traced.Ensures.assume
  intro built
  refine Traced.Ensures.bind (fun _ => Honoured (wantedBy client descriptor)) ?_ (fun io => ?_)
  · exact (HttpsConnector.secure_honoured connector descriptor.uri).weaken
      (fun history start => ⟨start.1, fun plain => by rw [start.2, prompt plain]; nofun⟩)
      (fun _ _ done => done)
  · exact Traced.Ensures.bind (fun _ => Honoured (wantedBy client descriptor))
      (reenable_honoured _) (fun _ => Traced.Ensures.pure fun _ start => start)

-----------------------------------------------------------------------------------------
-- Which routes honour the options
-----------------------------------------------------------------------------------------

/-- The schemes of the proxies that matchers intercept with -/
def IsProxyUri (uri : Uri) : Prop :=
  uri.isHttp = true ∨ uri.isHttps = true ∨ (socksScheme uri).isSome = true

/-- A SOCKS proxy intercepts the target only if the client has the options that are asked for, and
sends without delay if the target is reached over TLS.
-/
def SocksAsClient (client : ClientConfig Net Path)
    (descriptor : ConnectionDescriptor (Matcher Net Path) T) (nets : IpNets Net)
    : Prop :=
  ∀ proxy, client.connector.intercepted descriptor nets = some (.proxy proxy)
    → (socksScheme proxy.uri).isSome = true
    → wantedBy client descriptor = client.socketBindOptions
      ∧ (descriptor.uri.isHttps = true → client.tcpNodelay = true)

/-- Where no SOCKS proxy is in the way, or the client's options are wanted, all routes honour
them.
-/
theorem connectAuto_honoured {nets : IpNets Net}
    (target : descriptor.uri.isHttp = true ∨ descriptor.uri.isHttps = true)
    (known : ∀ proxy, client.connector.intercepted descriptor nets = some (.proxy proxy)
      → IsProxyUri proxy.uri)
    (asClient : SocksAsClient client descriptor nets)
    : Traced.Ensures
      (fun history =>
        Honoured (wantedBy client descriptor) history ∧ currentNodelay history = none)
      (client.connector.connectAuto world descriptor nets)
      (fun _ => Honoured (wantedBy client descriptor))
      (Honoured (wantedBy client descriptor)) := by
  rw [connectAuto]
  cases taken : client.connector.intercepted descriptor nets with
  | none => exact connectAutoProxy_honoured none target
  | some intercepted =>
      cases intercepted with
      | unix path => exact connectViaUnix_honoured path
      | proxy proxy =>
          simp only [connectViaProxy]
          cases socks : socksScheme proxy.uri with
          | some kind =>
              obtain ⟨same, prompt⟩ := asClient proxy taken (by simp [socks])
              exact connectViaSocks_honoured proxy kind.1 kind.2 same
                (fun plain => prompt (target.resolve_left (by simp [plain])))
          | none =>
              cases secured : descriptor.uri.isHttps with
              | true => exact connectViaTunnel_honoured proxy
              | false =>
                  have first : proxy.uri.isHttp = true ∨ proxy.uri.isHttps = true := by
                    rcases known proxy taken with http | https | isSocks
                    · exact .inl http
                    · exact .inr https
                    · simp [socks] at isSocks
                  have route : Traced.Ensures _
                      (client.connector.connectAutoProxy world
                        { descriptor with uri := proxy.uri } (some proxy)) _ _ :=
                    connectAutoProxy_honoured (some proxy) first
                  exact Traced.Ensures.mapErr route

/-- A SOCKS route on which nothing fails -/
theorem connectViaSocks_free (proxy : Intercept) (version : SocksVersion)
    (dnsResolve : DnsResolve) {host : Str} (found : descriptor.uri.host = some host)
    : (client.connector.connectViaSocks (fun _ _ => none : World Path T E) descriptor proxy version
        dnsResolve []).2
      = (if descriptor.uri.isHttps && !client.tcpNodelay then [.nodelay false] else [])
        ++ (if descriptor.uri.isHttp then []
          else [.handshake { options := descriptor.tlsOptions } descriptor.uri])
        ++ descriptor.tlsOptions.toList.map .build
        ++ [.socks version dnsResolve proxy.rawAuth (stripIpv6Brackets host)
              descriptor.uri.portOrDefault,
            .tcp proxy.uri client.connector.http.options] := by
  have config : client.connector.config.nodelay = client.tcpNodelay := rfl
  rw [connectViaSocks, callSocks, found]
  simp only [buildHttpsConnector, HttpsConnector.callEstablished, HttpsConnector.secure, reenable,
    config]
  cases descriptor.tlsOptions <;> cases descriptor.uri.isHttp <;>
    cases descriptor.uri.isHttps <;> cases client.tcpNodelay <;> rfl

end ConnectorService

/-- A socket that was opened is bound as wanted, by induction on the history. -/
theorem Honoured.socketBind {history : List (Step Path T)} (honoured : Honoured wanted history)
    {dst : Uri} {options : TcpOptions} (opened : .tcp dst options ∈ history)
    : options.socketBind = wanted := by
  induction honoured with
  | nil => cases opened
  | tcp before binds ih =>
      rcases List.mem_cons.mp opened with same | earlier
      · cases same
        exact binds
      · exact ih earlier
  | handshake _ _ ih | build _ ih | unix _ ih | socks _ ih | tunnel _ ih | nodelay _ ih =>
      exact ih (by simpa using opened)

/-- What was performed before was honoured too. -/
theorem Honoured.of_append {later earlier : List (Step Path T)}
    (honoured : Honoured wanted (later ++ earlier))
    : Honoured wanted earlier := by
  induction later with
  | nil => exact honoured
  | cons step rest ih =>
      apply ih
      cases honoured <;> assumption

namespace ConnectorService

variable {client : ClientConfig Net Path} {descriptor : ConnectionDescriptor (Matcher Net Path) T}

/-- What is intercepted by a proxy has a host. -/
theorem host_of_intercepted {nets : IpNets Net} {proxy : Intercept}
    (taken : client.connector.intercepted descriptor nets = some (.proxy proxy))
    : ∃ host, descriptor.uri.host = some host := by
  have byMatcher {matcher : Matcher Net Path}
      (taken : matcher.intercept nets descriptor.uri = some (.proxy proxy))
      : ∃ host, descriptor.uri.host = some host := by
    rw [Matcher.intercept] at taken
    cases unix : matcher.unix with
    | some path => simp [unix] at taken
    | none =>
        rw [unix] at taken
        obtain ⟨host, found, -⟩ := Option.bind_eq_some_iff.mp taken
        exact ⟨host, found⟩
  rw [intercepted, Option.or_eq_some_iff] at taken
  rcases taken with own | ⟨-, shared⟩
  · obtain ⟨matcher, -, taken⟩ := Option.bind_eq_some_iff.mp own
    exact byMatcher taken
  · obtain ⟨matcher, -, taken⟩ := List.exists_of_findSome?_eq_some shared
    exact byMatcher taken

/-- The sockets of a request have the options that it asks for, and those over which a handshake
is made send without delay, whatever fails on the way, if and only if no SOCKS proxy intercepts
the target of a request that asks for other options than the client's.
-/
theorem routes_honour_iff {nets : IpNets Net}
    (target : descriptor.uri.isHttp = true ∨ descriptor.uri.isHttps = true)
    (known : ∀ proxy, client.connector.intercepted descriptor nets = some (.proxy proxy)
      → IsProxyUri proxy.uri)
    : (∀ world : World Path T E,
        Honoured (wantedBy client descriptor)
          (client.connector.connectAuto world descriptor nets []).2)
      ↔ SocksAsClient client descriptor nets := by
  constructor
  · intro honoured proxy taken isSocks
    obtain ⟨host, found⟩ := host_of_intercepted taken
    obtain ⟨⟨version, dnsResolve⟩, socks⟩ := Option.isSome_iff_exists.mp isSocks
    have history := honoured (fun _ _ => none)
    rw [connectAuto, taken] at history
    simp only [connectViaProxy, socks] at history
    rw [connectViaSocks_free proxy version dnsResolve found] at history
    have options := client.connector_options
    refine ⟨?_, fun secured => ?_⟩
    · have binds := history.socketBind (List.mem_append_right _
        (List.mem_cons_of_mem _ (List.mem_singleton.mpr rfl)))
      rw [options] at binds
      exact binds.symm
    · have plain : descriptor.uri.isHttp = false := by
        have https : descriptor.uri.scheme = some .https := by
          simpa [Uri.isHttps] using secured
        simp [Uri.isHttp, https]
      simp only [plain, Bool.false_eq_true, if_false, List.append_assoc] at history
      cases history.of_append with
      | handshake before prompt =>
          cases nodelay : client.tcpNodelay with
          | true => rfl
          | false =>
              rw [options, nodelay] at prompt
              cases asked : descriptor.tlsOptions <;> rw [asked] at prompt <;>
                exact absurd rfl prompt
  · intro asClient world
    exact Traced.Ensures.history (connectAuto_honoured target known asClient) ⟨.nil, rfl⟩

/-- A client all of whose requests go over a proxy of a scheme -/
def proxyClient (scheme : Scheme) : ClientConfig Empty Unit where
  proxies :=
    let proxy : Intercept :=
      { uri :=
          { scheme := some scheme
            authority := some { host := ascii "127.0.0.1", port := some 1080 }
            path := ascii "/" }
        auth := .empty
        extra := {} }
    [{ http := some proxy, https := some proxy }]
  tcpNodelay := false

/-- A request to an `https` target from an address of its own -/
def boundRequest : ConnectionDescriptor (Matcher Empty Unit) Unit :=
  .new
    { scheme := some .https, authority := some { host := ascii "example.com" }, path := ascii "/" }
    .default none none none (some { ipv4Address := some 0x0A000002 })

/-- A tunnel over an `https` proxy honours the options of the request where nothing fails. -/
theorem routes_honour_tunnel
    : Honoured (wantedBy (proxyClient .https) boundRequest)
      ((proxyClient .https).connector.connectAuto (fun _ _ => none : World Unit Unit Unit)
        boundRequest noNets []).2 :=
  (routes_honour_iff (.inr (by decide))
    (by rintro proxy taken; cases taken; exact .inr (.inl (by decide)))).mpr
    (by rintro proxy taken isSocks; cases taken; exact absurd isSocks (by decide)) _

/-- A SOCKS proxy is connected to from the client's address. -/
theorem socks_unbound
    : ¬ ∀ world : World Unit Unit Unit,
      Honoured (wantedBy (proxyClient (.other (ascii "socks5"))) boundRequest)
        ((proxyClient (.other (ascii "socks5"))).connector.connectAuto world boundRequest noNets
          []).2 := by
  intro honoured
  have binds := (honoured (fun _ _ => none)).socketBind
    (.tail _ (.tail _ (.tail _ (.head _))))
  exact absurd binds (by decide)

end ConnectorService

end Tlsurl.Route
