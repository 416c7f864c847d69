import Tlsurl.Route.Connector

/-! Where the routes lead.
The steps of a route open a stream, have proxies lengthen it and put TLS over it. What is written
to the stream reaches whoever is at its end, and the credentials of a proxy reach that proxy.
-/

namespace Tlsurl.Route

open Identity Library Net Proxy

variable {Net Path T E : Type}

-----------------------------------------------------------------------------------------
-- Channels
-----------------------------------------------------------------------------------------

/-- Who is at the end of a stream -/
inductive Peer (Path : Type) where
  | server (host : Str) (port : UInt16)
  | socket (path : Path)
  deriving DecidableEq

/-- The server of a URI -/
def serverOf (uri : Uri) : Peer Path :=
  .server (stripIpv6Brackets (uri.host.getD [])) uri.portOrDefault

/-- The end of a stream, and the URI whose server proved to be there in the outermost handshake -/
structure Channel (Path : Type) where
  peer : Peer Path
  secured : Option Uri := none
  deriving DecidableEq

/-- What a step that succeeded makes of the channel at hand. A proxy starts a new stretch of it,
over which nobody has shaken hands yet.
-/
def Step.reach : Step Path T → Option (Channel Path) → Option (Channel Path)
  | .build _, current => current
  | .tcp dst _, _ => some { peer := serverOf dst }
  | .unix path, _ => some { peer := .socket path }
  | .socks _ _ _ host port, current => current.map (fun _ => { peer := .server host port })
  | .tunnel host port _, current =>
      current.map (fun _ => { peer := .server (stripIpv6Brackets host) port })
  | .handshake _ uri, current => current.map (fun channel => { channel with secured := some uri })
  | .nodelay _, current => current

/-- The channel after the steps of a history; a step that failed leaves none. -/
def channel (world : World Path T E) : List (Step Path T) → Option (Channel Path)
  | [] => none
  | step :: earlier =>
      match world earlier step with
      | none => step.reach (channel world earlier)
      | some _ => none

/-- The channel ends at the server of a URI, which is authenticated if the URI says so. -/
structure Channel.EndsAt (reached : Channel Path) (uri : Uri) : Prop where
  peer : reached.peer = serverOf uri
  secured : uri.isHttps = true → reached.secured = some uri
  plain : uri.isHttp = true → reached.secured = none

-----------------------------------------------------------------------------------------
-- Confinement
-----------------------------------------------------------------------------------------

/-- What a step tells a proxy is told over a channel to the proxy that it is from. -/
def Step.Allowed (intercepted : Option (Intercepted Path)) (current : Option (Channel Path))
    : Step Path T → Prop
  | .socks _ _ auth _ _ =>
      auth = none ∨ ∃ proxy reached, intercepted = some (.proxy proxy) ∧ auth = proxy.rawAuth
        ∧ current = some reached ∧ reached.peer = serverOf proxy.uri
  | .tunnel _ _ headers =>
      headers = .empty ∨ ∃ proxy reached, intercepted = some (.proxy proxy)
        ∧ headers = ConnectorService.tunnelHeaders proxy
        ∧ current = some reached ∧ reached.EndsAt proxy.uri
  | .build _ | .tcp _ _ | .unix _ | .handshake _ _ | .nodelay _ => True

/-- Every step of a history is allowed over the channel that was there before it. -/
def Confined (world : World Path T E) (intercepted : Option (Intercepted Path))
    : List (Step Path T) → Prop
  | [] => True
  | step :: earlier =>
      step.Allowed intercepted (channel world earlier) ∧ Confined world intercepted earlier

/-- A history is confined and has led to a channel, if to any. -/
def Leads (world : World Path T E) (intercepted : Option (Intercepted Path))
    (current : Option (Channel Path)) (history : List (Step Path T))
    : Prop :=
  Confined world intercepted history ∧ channel world history = current

-----------------------------------------------------------------------------------------
-- What the parts of a route lead to
-----------------------------------------------------------------------------------------

section Parts

variable {world : World Path T E} {intercepted : Option (Intercepted Path)}
variable {current : Option (Channel Path)}

/-- A step that is allowed changes the channel as it says. -/
theorem perform_leads {step : Step Path T} (allowed : step.Allowed intercepted current)
    : Traced.Ensures (Leads world intercepted current) (Traced.perform world step)
      (fun _ => Leads world intercepted (step.reach current)) (Confined world intercepted) := by
  apply Traced.Ensures.performed
  intro history ⟨before, same⟩
  have after : Confined world intercepted (step :: history) := ⟨same ▸ allowed, before⟩
  refine ⟨after, fun succeeded => ⟨after, ?_⟩⟩
  simp [channel, succeeded, same]

/-- The channel that a transport opens -/
def Transport.opens : Transport Path → Uri → Channel Path
  | .http _, dst => { peer := serverOf dst }
  | .unix path, _ => { peer := .socket path }

/-- The channel with or without a handshake -/
def Channel.under (self : Channel Path) (https : Bool) (uri : Uri) : Channel Path :=
  if https then { self with secured := some uri } else self

/-- A stream with or without a handshake -/
def MaybeHttpsStream.ofBool (https : Bool) : MaybeHttpsStream := if https then .https else .http

theorem Transport.call_leads (self : Transport Path) (dst : Uri)
    : Traced.Ensures (Leads world intercepted current) (self.call world dst)
      (fun _ => Leads world intercepted (some (self.opens dst))) (Confined world intercepted) := by
  cases self with
  | http connector => exact perform_leads trivial
  | unix path => exact perform_leads trivial

theorem HttpsConnector.secure_leads (self : HttpsConnector Path T) (uri : Uri)
    (reached : Channel Path)
    : Traced.Ensures (Leads world intercepted (some reached)) (self.secure world uri)
      (fun io history =>
        Leads world intercepted (some (reached.under (!uri.isHttp) uri)) history
        ∧ io = .ofBool (!uri.isHttp))
      (Confined world intercepted) := by
  cases plain : uri.isHttp with
  | true =>
      simp only [HttpsConnector.secure, plain, if_true]
      exact Traced.Ensures.pure (fun _ start => ⟨start, rfl⟩)
  | false =>
      simp only [HttpsConnector.secure, plain, Bool.false_eq_true, if_false]
      exact Traced.Ensures.bind _ (perform_leads trivial)
        (fun _ => Traced.Ensures.pure fun _ start => ⟨start, rfl⟩)

theorem HttpsConnector.callUri_leads (self : HttpsConnector Path T) (uri : Uri)
    : Traced.Ensures (Leads world intercepted current) (self.callUri world uri)
      (fun _ => Leads world intercepted (some ((self.http.opens uri).under uri.isHttps uri)))
      (Confined world intercepted) := by
  rw [HttpsConnector.callUri]
  refine Traced.Ensures.bind _ (self.http.call_leads uri) (fun _ => ?_)
  cases uri.isHttps with
  | true =>
      simp only [if_true]
      exact Traced.Ensures.bind _ (perform_leads trivial)
        (fun _ => Traced.Ensures.pure fun _ start => start)
  | false =>
      simp only [Bool.false_eq_true, if_false]
      exact Traced.Ensures.pure (fun _ start => start)

theorem HttpsConnector.call_leads {M : Type} (self : HttpsConnector Path T)
    (descriptor : ConnectionDescriptor M T)
    : Traced.Ensures (Leads world intercepted current) (self.call world descriptor)
      (fun io history =>
        Leads world intercepted
          (some ((self.http.opens descriptor.uri).under (!descriptor.uri.isHttp) descriptor.uri))
          history
        ∧ io = .ofBool (!descriptor.uri.isHttp))
      (Confined world intercepted) :=
  Traced.Ensures.bind _ (self.http.call_leads descriptor.uri)
    (fun _ => self.secure_leads descriptor.uri _)

/-- A tunnel leads to its target; what it tells the proxy is allowed there. -/
theorem callTunnel_leads {proxyDst : Uri} {inner : HttpsConnector Path T}
    {headers : TunnelHeaders} {dst : Uri}
    (allowed : ∀ host port, (Step.tunnel host port headers : Step Path T).Allowed intercepted
      (some ((inner.http.opens proxyDst).under proxyDst.isHttps proxyDst)))
    : Traced.Ensures (Leads world intercepted current)
      (callTunnel world proxyDst inner headers dst)
      (fun _ => Leads world intercepted (some { peer := serverOf dst }))
      (Confined world intercepted) := by
  rw [callTunnel]
  refine Traced.Ensures.bind _ (inner.callUri_leads proxyDst) (fun _ => ?_)
  cases target : dst.host with
  | none => exact Traced.Ensures.stop (fun _ start => start.1)
  | some host =>
      refine (perform_leads (allowed host dst.portOrDefault)).weaken (fun _ start => start) ?_
      intro _ history after
      simpa [Step.reach, serverOf, target] using after

theorem callSocks_leads {proxy : Intercept} {inner : HttpConnector} {version : SocksVersion}
    {dnsResolve : DnsResolve} {dst : Uri} (taken : intercepted = some (.proxy proxy))
    : Traced.Ensures (Leads world intercepted current)
      (callSocks world proxy.uri inner proxy.rawAuth version dnsResolve dst)
      (fun _ => Leads world intercepted (some { peer := serverOf dst }))
      (Confined world intercepted) := by
  rw [callSocks]
  cases target : dst.host with
  | none => exact Traced.Ensures.stop (fun _ start => start.1)
  | some host =>
      refine Traced.Ensures.bind _ (perform_leads trivial) (fun _ => ?_)
      have allowed
          : (Step.socks version dnsResolve proxy.rawAuth (stripIpv6Brackets host)
              dst.portOrDefault : Step Path T).Allowed intercepted
              (some { peer := serverOf proxy.uri }) :=
        .inr ⟨proxy, _, taken, rfl, rfl, rfl⟩
      refine (perform_leads allowed).weaken (fun _ start => start) ?_
      intro _ history after
      simpa [Step.reach, serverOf, target] using after

end Parts

-----------------------------------------------------------------------------------------
-- What the routes lead to
-----------------------------------------------------------------------------------------

/-- The proxy that requests for a target are written to: one of HTTP, for a target without TLS -/
def forwarder (target : Uri) : Option (Intercepted Path) → Option Intercept
  | some (.proxy proxy) =>
      if (ConnectorService.socksScheme proxy.uri).isSome || target.isHttps then none
      else some proxy
  | some (.unix _) => none
  | none => none

/-- Only what intercepts a target without TLS is forwarded over. -/
theorem forwarder_eq_some {target : Uri} {intercepted : Option (Intercepted Path)}
    {proxy : Intercept} (forwards : forwarder target intercepted = some proxy)
    : intercepted = some (.proxy proxy) ∧ target.isHttps = false := by
  cases intercepted with
  | none => simp [forwarder] at forwards
  | some taken =>
      cases taken with
      | unix path => simp [forwarder] at forwards
      | proxy other =>
          simp only [forwarder, Option.ite_none_left_eq_some, Bool.or_eq_true, not_or,
            Bool.not_eq_true] at forwards
          obtain ⟨⟨_, insecure⟩, same⟩ := forwards
          cases same
          exact ⟨rfl, insecure⟩

/-- Where connections for a target lead: to the target itself or, without TLS, to a Unix socket or
to a proxy
-/
inductive Reaches (target : Uri) (intercepted : Option (Intercepted Path))
    (reached : Channel Path)
    : Prop where
  | target (own : forwarder target intercepted = none) (ends : reached.EndsAt target)
  | socket (path : Path) (insecure : target.isHttps = false)
    (taken : intercepted = some (.unix path)) (ends : reached.peer = .socket path)
  | proxy (proxy : Intercept) (forwards : forwarder target intercepted = some proxy)
    (ends : reached.EndsAt proxy.uri)

/-- A connection has led where it is to lead, its stream is one of TLS if that was secured, and it
names the proxy that it leads to.
-/
structure Established (world : World Path T E) (target : Uri)
    (intercepted : Option (Intercepted Path)) (conn : Conn) (history : List (Step Path T))
    : Prop where
  confined : Confined world intercepted history
  proxy : conn.proxy = forwarder target intercepted
  reaches : ∃ reached, channel world history = some reached ∧ Reaches target intercepted reached
    ∧ conn.stream = .ofBool reached.secured.isSome

section Ends

variable {uri : Uri}

/-- A URI has one scheme. -/
theorem isHttp_eq_false (secured : uri.isHttps = true) : uri.isHttp = false := by
  simp only [Uri.isHttps, beq_iff_eq] at secured
  simp [Uri.isHttp, secured]

/-- A channel to a server is secured by a handshake unless the URI is one of `http`. -/
theorem endsAt_under
    : ({ peer := serverOf uri } : Channel Path).under (!uri.isHttp) uri |>.EndsAt uri := by
  cases plain : uri.isHttp with
  | true =>
      refine ⟨rfl, fun secured => ?_, fun _ => rfl⟩
      rw [isHttp_eq_false secured] at plain
      cases plain
  | false => exact ⟨rfl, fun _ => rfl, fun same => by simp [plain] at same⟩

/-- The same where only one of `https` is secured -/
theorem endsAt_under_isHttps
    : ({ peer := serverOf uri } : Channel Path).under uri.isHttps uri |>.EndsAt uri := by
  cases secured : uri.isHttps with
  | true => exact ⟨rfl, fun _ => rfl, fun plain => by simp [isHttp_eq_false secured] at plain⟩
  | false => exact ⟨rfl, fun same => by simp [secured] at same, fun _ => rfl⟩

theorem under_stream {reached : Channel Path} {https : Bool} (fresh : reached.secured = none)
    : MaybeHttpsStream.ofBool https
      = .ofBool (reached.under https uri).secured.isSome := by
  cases https with
  | true => rfl
  | false => simp [Channel.under, fresh]

end Ends

namespace ConnectorService

variable {world : World Path T E} {intercepted : Option (Intercepted Path)}
variable {current : Option (Channel Path)} {self : ConnectorService Net Path}
variable {descriptor : ConnectionDescriptor (Matcher Net Path) T}

theorem buildHttpsConnector_leads (https : Bool)
    : Traced.Ensures (Leads world intercepted current)
      (self.buildHttpsConnector world descriptor https)
      (fun connector history =>
        Leads world intercepted current history
        ∧ connector.http = .http (self.configuredHttp descriptor https))
      (Confined world intercepted) := by
  rw [buildHttpsConnector]
  cases descriptor.tlsOptions with
  | none => exact Traced.Ensures.pure (fun _ start => ⟨start, rfl⟩)
  | some options =>
      exact Traced.Ensures.bind _ (perform_leads trivial)
        (fun _ => Traced.Ensures.pure fun _ start => ⟨start, rfl⟩)

theorem reenable_leads (https : Bool)
    : Traced.Ensures (Leads world intercepted current) (self.reenable world https)
      (fun _ => Leads world intercepted current) (Confined world intercepted) := by
  rw [reenable]
  split
  · exact perform_leads trivial
  · exact Traced.Ensures.pure (fun _ start => start)

/-- Once a stream leads somewhere, the connection made of it is established. -/
theorem finish_established {reached : Channel Path} {target : Uri} {conn : Conn} (https : Bool)
    (proxy : conn.proxy = forwarder target intercepted)
    (reaches : Reaches target intercepted reached)
    (stream : conn.stream = .ofBool reached.secured.isSome)
    : Traced.Ensures (Leads world intercepted (some reached))
      (self.reenable world https >>= fun _ => pure conn)
      (Established world target intercepted) (Confined world intercepted) :=
  Traced.Ensures.bind _ (reenable_leads https)
    (fun _ => Traced.Ensures.pure fun _ start =>
      ⟨start.1, proxy, reached, start.2, reaches, stream⟩)

/-- The direct route, to the target or to the proxy of a plain target -/
theorem connectAutoProxy_established {target : Uri} (proxy : Option Intercept)
    (names : proxy = forwarder target intercepted)
    (reaches : Reaches target intercepted
      (({ peer := serverOf descriptor.uri } : Channel Path).under (!descriptor.uri.isHttp)
        descriptor.uri))
    : Traced.Ensures (Leads world intercepted none)
      (self.connectAutoProxy world descriptor proxy)
      (Established world target intercepted) (Confined world intercepted) := by
  rw [connectAutoProxy]
  refine Traced.Ensures.bind _ (buildHttpsConnector_leads _) (fun connector => ?_)
  apply Traced.Ensures.assume
  intro built
  have http : (if proxy.isSome && descriptor.uri.isHttps then connector.noAlpn
      else connector).http = .http (self.configuredHttp descriptor descriptor.uri.isHttps) := by
    rw [← built]
    split <;> rfl
  refine Traced.Ensures.bind _ (HttpsConnector.call_leads _ descriptor) (fun io => ?_)
  apply Traced.Ensures.assume
  rintro rfl
  simp only [http, Transport.opens]
  exact finish_established _ names reaches (under_stream rfl)

/-- The end of a route through a proxy, which shakes hands with the target over what is there -/
theorem callEstablished_established (connector : HttpsConnector Path T) (https : Bool)
    (own : forwarder descriptor.uri intercepted = none)
    : Traced.Ensures (Leads world intercepted (some { peer := serverOf descriptor.uri }))
      (do
        let io ← connector.callEstablished world descriptor
        self.reenable world https
        pure (self.tunnelConnFromStream io))
      (Established world descriptor.uri intercepted) (Confined world intercepted) := by
  refine Traced.Ensures.bind _ (connector.secure_leads descriptor.uri _) (fun io => ?_)
  apply Traced.Ensures.assume
  rintro rfl
  refine finish_established _ ?_ (.target own endsAt_under) ?_
  · rw [own]
    cases descriptor.uri.isHttp <;> rfl
  · rw [← under_stream rfl]
    cases descriptor.uri.isHttp <;> rfl

theorem connectViaSocks_established {proxy : Intercept} (version : SocksVersion)
    (dnsResolve : DnsResolve) (taken : intercepted = some (.proxy proxy))
    (own : forwarder descriptor.uri intercepted = none)
    : Traced.Ensures (Leads world intercepted none)
      (self.connectViaSocks world descriptor proxy version dnsResolve)
      (Established world descriptor.uri intercepted) (Confined world intercepted) := by
  rw [connectViaSocks]
  refine Traced.Ensures.bind _ (callSocks_leads taken) (fun _ => ?_)
  refine Traced.Ensures.bind _ (buildHttpsConnector_leads _) (fun connector => ?_)
  exact Traced.Ensures.assume (fun _ => callEstablished_established connector _ own)

theorem connectViaTunnel_established {proxy : Intercept}
    (taken : intercepted = some (.proxy proxy))
    (own : forwarder descriptor.uri intercepted = none)
    : Traced.Ensures (Leads world intercepted none)
      (self.connectViaTunnel world descriptor proxy)
      (Established world descriptor.uri intercepted) (Confined world intercepted) := by
  rw [connectViaTunnel]
  refine Traced.Ensures.bind _ (buildHttpsConnector_leads _) (fun connector => ?_)
  apply Traced.Ensures.assume
  intro built
  refine Traced.Ensures.bind _ (callTunnel_leads ?_)
    (fun _ => callEstablished_established connector _ own)
  intro host port
  rw [built]
  exact .inr ⟨proxy, _, taken, rfl, rfl, endsAt_under_isHttps⟩

/-- The route over a Unix socket, which nobody is told credentials over -/
theorem connectViaUnix_established {path : Path} (taken : intercepted = some (.unix path))
    : Traced.Ensures (Leads world intercepted none) (self.connectViaUnix world descriptor path)
      (Established world descriptor.uri intercepted) (Confined world intercepted) := by
  have own : forwarder descriptor.uri intercepted = none := by simp [taken, forwarder]
  rw [connectViaUnix]
  cases secured : descriptor.uri.isHttps with
  | true =>
      simp only [if_true]
      refine Traced.Ensures.bind _ (callTunnel_leads fun _ _ => .inl rfl) (fun _ => ?_)
      refine Traced.Ensures.bind _ (HttpsConnector.secure_leads _ descriptor.uri _) (fun io => ?_)
      apply Traced.Ensures.assume
      rintro rfl
      refine Traced.Ensures.pure fun _ start =>
        ⟨start.1, ?_, _, start.2, .target own endsAt_under, ?_⟩
      · rw [own]
        cases descriptor.uri.isHttp <;> rfl
      · rw [← under_stream rfl]
        cases descriptor.uri.isHttp <;> rfl
  | false =>
      simp only [Bool.false_eq_true, if_false]
      refine Traced.Ensures.bind _ (HttpsConnector.call_leads _ descriptor) (fun io => ?_)
      apply Traced.Ensures.assume
      rintro rfl
      refine Traced.Ensures.pure fun _ start =>
        ⟨start.1, own.symm, _, start.2, .socket path secured taken ?_, under_stream rfl⟩
      cases descriptor.uri.isHttp <;> rfl

/-- Every route is confined, and leads to where its connection says. -/
theorem connectAuto_established (nets : IpNets Net)
    : Traced.Ensures (Leads world (self.intercepted descriptor nets) none)
      (self.connectAuto world descriptor nets)
      (Established world descriptor.uri (self.intercepted descriptor nets))
      (Confined world (self.intercepted descriptor nets)) := by
  rw [connectAuto]
  cases taken : self.intercepted descriptor nets with
  | none => exact connectAutoProxy_established none rfl (.target rfl endsAt_under)
  | some intercepted =>
      cases intercepted with
      | unix path => exact connectViaUnix_established rfl
      | proxy proxy =>
          simp only [connectViaProxy]
          cases socks : socksScheme proxy.uri with
          | some kind =>
              exact connectViaSocks_established kind.1 kind.2 rfl (by simp [forwarder, socks])
          | none =>
              cases secured : descriptor.uri.isHttps with
              | true => exact connectViaTunnel_established rfl (by simp [forwarder, secured])
              | false =>
                  have forwards
                      : forwarder descriptor.uri (some (.proxy proxy) : Option (Intercepted Path))
                        = some proxy := by
                    simp [forwarder, socks, secured]
                  exact Traced.Ensures.mapErr (connectAutoProxy_established (some proxy)
                    forwards.symm (.proxy proxy forwards endsAt_under))

-----------------------------------------------------------------------------------------
-- Ends of the routes
-----------------------------------------------------------------------------------------

/-- Whether a route succeeds or fails, a proxy is told credentials and headers only over a channel
that ends at this very proxy.
-/
theorem proxy_credentials_confined (world : World Path T E) (self : ConnectorService Net Path)
    (descriptor : ConnectionDescriptor (Matcher Net Path) T) (nets : IpNets Net)
    : Confined world (self.intercepted descriptor nets)
      (self.connectAuto world descriptor nets []).2 :=
  ((connectAuto_established nets).weaken (fun _ start => start)
    (fun _ _ done => done.confined)).history ⟨trivial, rfl⟩

/-- What a route that succeeded has established -/
theorem established_of_connected {nets : IpNets Net} {conn : Conn} {history : List (Step Path T)}
    (connected : self.connectAuto world descriptor nets [] = (.ok conn, history))
    : Established world descriptor.uri (self.intercepted descriptor nets) conn history := by
  have route
      : Traced.Ensures _ (self.connectAuto world descriptor nets)
        (Established world descriptor.uri (self.intercepted descriptor nets)) _ :=
    connectAuto_established nets
  have ends := route [] ⟨trivial, rfl⟩
  rwa [connected] at ends

/-- The target of `https` is where its connection ends, under TLS with this target, whatever the
way there.
-/
theorem https_reaches_target {nets : IpNets Net} {conn : Conn} {history : List (Step Path T)}
    (secured : descriptor.uri.isHttps = true)
    (connected : self.connectAuto world descriptor nets [] = (.ok conn, history))
    : conn.stream = .https ∧ conn.proxy = none
      ∧ channel world history
        = some { peer := serverOf descriptor.uri, secured := some descriptor.uri } := by
  have done := established_of_connected connected
  have own : forwarder descriptor.uri (self.intercepted descriptor nets) = none := by
    cases self.intercepted descriptor nets with
    | none => rfl
    | some intercepted => cases intercepted <;> simp [forwarder, secured]
  obtain ⟨⟨peer, uri⟩, leads, reaches, stream⟩ := done.reaches
  cases reaches with
  | target _ ends =>
      obtain ⟨rfl, rfl⟩ : peer = serverOf descriptor.uri ∧ uri = some descriptor.uri :=
        ⟨ends.peer, ends.secured secured⟩
      exact ⟨stream, done.proxy.trans own, leads⟩
  | socket _ insecure => simp [secured] at insecure
  | proxy _ forwards => simp [own] at forwards

/-- A client all of whose requests go over a proxy of `https` with credentials -/
def tunnelled : ClientConfig Empty Unit where
  proxies :=
    let proxy : Intercept :=
      { uri :=
          { scheme := some .https, authority := some { host := ascii "proxy" }, path := ascii "/" }
        auth := .basic { bytes := ascii "Basic dTpw" }
        extra := {} }
    [{ http := some proxy, https := some proxy }]

/-- A request for a target of `https` -/
def secureTarget : ConnectionDescriptor (Matcher Empty Unit) Unit :=
  .new
    { scheme := some .https, authority := some { host := ascii "[::1]" }, path := ascii "/" }
    .default none none none none

theorem https_reaches_target_tunnelled
    : ∃ conn history,
      tunnelled.connector.connectAuto (fun _ _ => none : World Unit Unit Unit) secureTarget
          noNets [] = (.ok conn, history)
      ∧ channel (fun _ _ => none : World Unit Unit Unit) history
        = some { peer := .server (ascii "::1") 443, secured := some secureTarget.uri } := by
  have connected
      : tunnelled.connector.connectAuto (fun _ _ => none : World Unit Unit Unit) secureTarget
          noNets []
        = (.ok { stream := .https, tlsInfo := false, proxy := none }, _) :=
    rfl
  exact ⟨_, _, connected, (https_reaches_target (by decide) connected).2.2⟩

end ConnectorService

end Tlsurl.Route
