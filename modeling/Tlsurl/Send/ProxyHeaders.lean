import Tlsurl.Route.Channel
import Tlsurl.Send.Resend

/-! Who gets the headers for a proxy.
A connection names the proxy that it leads to, and the loop puts the headers for this proxy on the
requests that it hands to the connection. They stay on a request that is sent again.
-/

namespace Tlsurl.Send

open Identity Library Net Proxy Route
open Cookie (Cookies)

-----------------------------------------------------------------------------------------
-- Connections from routes
-----------------------------------------------------------------------------------------

/-- `Connected::proxy`, as `Conn::connected` calls it -/
def identityOf (conn : Route.Conn) : ProxyIdentity :=
  match conn.proxy with
  | none => {}
  | some proxy => { isProxied := true, auth := proxy.basicAuth, headers := proxy.customHeaders }

variable {Net Path T E Ext B : Type}

/-- A connection that a route of a service opened for a descriptor, and what the loop sees of it -/
structure Leg (service : ConnectorService Net Path)
    (descriptor : ConnectionDescriptor (Matcher Net Path) T) (nets : IpNets Net) (E : Type)
    where
  world : World Path T E
  conn : Route.Conn
  history : List (Step Path T)
  connected : service.connectAuto world descriptor nets [] = (.ok conn, history)
  isHttp2 : Bool
  isReused : Bool
  answer : Answer

variable {service : ConnectorService Net Path}
variable {descriptor : ConnectionDescriptor (Matcher Net Path) T} {nets : IpNets Net}

namespace Leg

def pooled (leg : Leg service descriptor nets E) : PoolClient where
  isHttp2 := leg.isHttp2
  proxy := identityOf leg.conn
  isReused := leg.isReused

def turn (leg : Leg service descriptor nets E) : Turn := .tried leg.pooled leg.answer

/-- All connections for the descriptor name the same proxy, if any. -/
theorem proxy_eq (leg : Leg service descriptor nets E)
    : leg.conn.proxy = forwarder descriptor.uri (service.intercepted descriptor nets) :=
  (ConnectorService.established_of_connected leg.connected).proxy

/-- A connection that names a proxy ends there. -/
theorem endsAt_proxy (leg : Leg service descriptor nets E) {proxy : Intercept}
    (forwards : forwarder descriptor.uri (service.intercepted descriptor nets) = some proxy)
    : ∃ reached, channel leg.world leg.history = some reached ∧ reached.EndsAt proxy.uri := by
  have done := ConnectorService.established_of_connected leg.connected
  obtain ⟨reached, leads, reaches, _⟩ := done.reaches
  refine ⟨reached, leads, ?_⟩
  cases reaches with
  | target own => simp [own] at forwards
  | socket path _ taken => simp [taken, forwarder] at forwards
  | proxy other named ends =>
      obtain rfl : other = proxy := by simpa [named] using forwards
      exact ends

end Leg

-----------------------------------------------------------------------------------------
-- Where headers are from
-----------------------------------------------------------------------------------------

/-- A header for a proxy -/
def OfProxy (proxy : Intercept) (name : HeaderName) (value : Str) : Prop :=
  (name = "proxy-authorization" ∧ ∃ auth, proxy.basicAuth = some auth ∧ auth.bytes = value)
    ∨ ∃ custom, proxy.customHeaders = some custom ∧ value ∈ custom.values name

/-- Where a header of a request is from: the request as it was given to the client, its URI, the
cookies of the client, or the proxy that is forwarded over
-/
inductive Sourced (client : HttpClient Ext) (req : Request Ext B) (proxy : Option Intercept)
    (name : HeaderName) (value : Str)
    : Prop where
  | given (member : value ∈ req.headers.values name)
  | host (host : name = "host") (target : value = (generateHostHeader req.uri).bytes)
  | cookie (cookie : name = "cookie") (isHttp2 : Bool)
    (stored : value ∈ cookieValues (client.cookieStore req.extensions) req.uri isHttp2)
  | proxy (forwarding : Intercept) (named : proxy = some forwarding)
    (own : OfProxy forwarding name value)

/-- What a connection adds to a request is for its proxy, or from the URI or the cookies. -/
theorem sourced_overlay {client : HttpClient Ext} {req : Request Ext B} {pooled : PoolClient}
    {conn : Route.Conn} {name : HeaderName} {value : Str}
    (identity : pooled.proxy = identityOf conn)
    (member : value ∈ (pooled.overlay client req).imposes name
      ∨ value ∈ (pooled.overlay client req).supplies name)
    : Sourced client req conn.proxy name value := by
  rw [identityOf] at identity
  rcases member with imposed | supplied
  · simp only [PoolClient.overlay] at imposed
    split at imposed
    · cases named : conn.proxy with
      | none => simp [identity, named, HeaderMap.values, HeaderMap.getAll, HeaderMap.find?,
          HeaderMap.empty] at imposed
      | some proxy =>
          simp only [identity, named] at imposed
          cases custom : proxy.customHeaders with
          | none => simp [custom, HeaderMap.values, HeaderMap.getAll, HeaderMap.find?,
              HeaderMap.empty] at imposed
          | some headers =>
              exact .proxy proxy rfl (.inr ⟨headers, custom, by simpa [custom] using imposed⟩)
    · simp at imposed
  · simp only [PoolClient.overlay] at supplied
    split at supplied
    · next host =>
      split at supplied
      · exact .host host (by simpa using supplied)
      · simp at supplied
    · split at supplied
      · next authorization =>
        split at supplied
        · cases named : conn.proxy with
          | none => simp [identity, named] at supplied
          | some proxy =>
              simp only [identity, named, Option.mem_toList, Option.map_eq_some_iff] at supplied
              exact .proxy proxy rfl (.inl ⟨authorization, supplied⟩)
        · simp at supplied
      · split at supplied
        · next cookie => exact .cookie cookie _ supplied
        · simp at supplied

/-- Every request that the loop hands over has headers of these sources only, whatever was put on
it before, by induction on the connections.
-/
theorem sendLoop_sourced {client : HttpClient Ext} {req again : Request Ext B}
    (legs : List (Leg service descriptor nets E)) (alike : Alike again req)
    (before : ∀ name value, value ∈ again.headers.values name
      → Sourced client req (forwarder descriptor.uri (service.intercepted descriptor nets)) name
        value)
    {index : Nat} {sent : Request Ext B}
    (handed : (sendLoop client req.uri again (legs.map Leg.turn)).1[index]? = some sent)
    : ∃ leg, legs[index]? = some leg ∧ ∀ name value, value ∈ sent.headers.values name
      → Sourced client req leg.conn.proxy name value := by
  induction legs generalizing again index with
  | nil => simp [sendLoop] at handed
  | cons leg legs ih =>
      simp only [List.map_cons, Leg.turn, sendLoop] at handed
      cases prepared : prepare client leg.pooled again with
      | none => simp [prepared] at handed
      | some first =>
          obtain ⟨method, version, extensions, _, values⟩ := prepare_spec prepared
          have sources : ∀ name value, value ∈ first.headers.values name
              → Sourced client req leg.conn.proxy name value := by
            intro name value member
            rw [values] at member
            rcases Overlay.mem_apply member with kept | added
            · rw [leg.proxy_eq]
              exact before name value kept
            · rw [alike.overlay leg.pooled] at added
              exact sourced_overlay rfl added
          have head : index = 0 → first = sent → ∃ other, (leg :: legs)[index]? = some other
              ∧ ∀ name value, value ∈ sent.headers.values name
                → Sourced client req other.conn.proxy name value := by
            rintro rfl rfl
            exact ⟨leg, rfl, sources⟩
          have alone : [first][index]? = some sent → index = 0 ∧ first = sent := by
            cases index <;> simp
          simp only [prepared] at handed
          cases answered : leg.answer with
          | responded =>
              simp only [answered] at handed
              exact head (alone handed).1 (alone handed).2
          | lost =>
              simp only [answered] at handed
              exact head (alone handed).1 (alone handed).2
          | unsent =>
              simp only [answered] at handed
              split at handed
              · exact head (alone handed).1 (alone handed).2
              · cases index with
                | zero => exact head rfl (by simpa using handed)
                | succ index =>
                    have next : Alike { first with uri := req.uri } req :=
                      ⟨method.trans alike.method, rfl, version.trans alike.version,
                        extensions.trans alike.extensions⟩
                    rw [leg.proxy_eq] at sources
                    obtain ⟨other, found, rest⟩ := ih next sources handed
                    exact ⟨other, found, rest⟩

/-- A client all of whose requests go over a proxy of `http` with credentials -/
def forwarding : ClientConfig Empty Unit where
  proxies :=
    let proxy : Intercept :=
      { uri :=
          { scheme := some .http, authority := some { host := ascii "proxy" }, path := ascii "/" }
        auth := .basic { bytes := ascii "Basic dTpw" }
        extra := {} }
    [{ http := some proxy, https := some proxy }]

/-- A connection for `http://a.test/` -/
def plainTarget : ConnectionDescriptor (Matcher Empty Unit) Unit :=
  .new (Cookie.page .http "a.test" "/") .default none none none none

def forwarded : Leg forwarding.connector plainTarget noNets Unit where
  world _ _ := none
  conn := _
  history := _
  connected := rfl
  isHttp2 := false
  isReused := false
  answer := .responded

end Tlsurl.Send
