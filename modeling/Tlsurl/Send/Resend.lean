import Tlsurl.Library.Overlay
import Tlsurl.Send.Attempt

/-! What a request that is sent again has on it.
The loop restores the URI, but not the headers: a connection that gave the request back leaves
its overlay of headers on it, and the connection that gets it next only adds to that.
-/

namespace Tlsurl.Send

open Library
open Cookie (Cookies)

-----------------------------------------------------------------------------------------
-- The overlay of a connection
-----------------------------------------------------------------------------------------

/-- The values of the cookies for a request, as far as their equality goes -/
def cookieValues (cookieStore : Option (Uri → Version → Cookies)) (uri : Uri) (isHttp2 : Bool)
    : List Str :=
  match cookieStore with
  | none => []
  | some cookies =>
      match cookies uri (if isHttp2 then .http2 else .http11) with
      | .compressed value => [value.bytes]
      | .uncompressed values => values.map HeaderValue.bytes
      | .empty => []

/-- Whether a connection gets the headers for its proxy -/
def PoolClient.forwards (pooled : PoolClient) (method : Method) : Bool :=
  pooled.isHttp1 && method ≠ .connect && pooled.proxy.isProxied

/-- What a connection imposes on the headers of a request and what it supplies: the custom
headers of its proxy; `Host`, the credentials for the proxy and the cookies.
-/
def PoolClient.overlay {Ext B : Type} (client : HttpClient Ext) (req : Request Ext B)
    (pooled : PoolClient)
    : Overlay HeaderName Str where
  imposes name :=
    if pooled.forwards req.method then (pooled.proxy.headers.getD .empty).values name else []
  supplies name :=
    if name = "host" then
      if pooled.isHttp1 && client.setHost then [(generateHostHeader req.uri).bytes] else []
    else if name = "proxy-authorization" then
      if pooled.forwards req.method then (pooled.proxy.auth.map HeaderValue.bytes).toList else []
    else if name = "cookie" then
      cookieValues (client.cookieStore req.extensions) req.uri pooled.isHttp2
    else []

/-- The form of the target on a connection -/
def PoolClient.form (pooled : PoolClient) (method : Method) (uri : Uri) : Uri :=
  if pooled.isHttp2 then uri
  else if method = .connect then authorityForm uri
  else if pooled.proxy.isProxied then absoluteForm uri
  else originForm uri

-----------------------------------------------------------------------------------------
-- What preparing does
-----------------------------------------------------------------------------------------

section Values

variable (headers : HeaderMap) (name : HeaderName)

theorem values_orInsert (other : HeaderName) (value : HeaderValue)
    : (headers.orInsert other value).values name
      = if name = other ∧ headers.values other = [] then [value.bytes]
        else headers.values name := by
  simp only [HeaderMap.values, HeaderMap.getAll_orInsert, List.map_eq_nil_iff]
  split <;> rfl

theorem values_replaceHeaders (custom : HeaderMap)
    : (headers.replaceHeaders custom).values name
      = if custom.values name = [] then headers.values name else custom.values name := by
  simp only [HeaderMap.values, HeaderMap.getAll_replaceHeaders, List.map_eq_nil_iff]
  split <;> rfl

/-- Appending values to a name adds them there, by induction on the values. -/
theorem values_foldl_append (other : HeaderName) (added : List HeaderValue)
    : (added.foldl (fun headers value => headers.append other value) headers).values name
      = if name = other then headers.values name ++ added.map HeaderValue.bytes
        else headers.values name := by
  induction added generalizing headers with
  | nil => simp
  | cons value added ih =>
      rw [List.foldl_cons, ih]
      simp only [HeaderMap.values, HeaderMap.getAll_append]
      split
      · next same => simp [same]
      · rfl

theorem values_addHost (setHost : Bool) (uri : Uri)
    : (addHost setHost uri headers).values name
      = if name = "host" ∧ setHost = true ∧ headers.values "host" = []
        then [(generateHostHeader uri).bytes] else headers.values name := by
  unfold addHost
  split
  · next sets => simp [values_orInsert, sets]
  · next unset => simp [unset]

theorem values_addProxyHeaders (proxy : ProxyIdentity)
    : (addProxyHeaders proxy headers).values name
      = if (proxy.headers.getD .empty).values name = [] then
          if name = "proxy-authorization" ∧ headers.values "proxy-authorization" = [] then
            (proxy.auth.map HeaderValue.bytes).toList
          else headers.values name
        else (proxy.headers.getD .empty).values name := by
  have none : (HeaderMap.empty).values name = [] := rfl
  obtain ⟨isProxied, auth, custom⟩ := proxy
  cases auth with
  | none =>
      have kept
          : (if name = "proxy-authorization" ∧ headers.values "proxy-authorization" = [] then []
              else headers.values name)
            = headers.values name := by
        split
        · next both => rw [both.1, both.2]
        · rfl
      cases custom with
      | none => simp [addProxyHeaders, none, kept]
      | some custom => simp [addProxyHeaders, values_replaceHeaders, kept]
  | some auth =>
      cases custom with
      | none => simp [addProxyHeaders, none, values_orInsert]
      | some custom => simp [addProxyHeaders, values_replaceHeaders, values_orInsert]

theorem values_addCookies (cookieStore : Option (Uri → Version → Cookies)) (uri : Uri)
    (isHttp2 : Bool)
    : (addCookies cookieStore uri isHttp2 headers).values name
      = if name = "cookie" ∧ headers.values "cookie" = [] then
          cookieValues cookieStore uri isHttp2
        else headers.values name := by
  have present (present : headers.containsKey "cookie" = true)
      : headers.values "cookie" ≠ [] := by
    simpa [HeaderMap.values] using HeaderMap.containsKey_iff.mp present
  cases cookieStore with
  | none =>
      simp only [addCookies, cookieValues]
      split
      · next both => rw [both.1, both.2]
      · rfl
  | some cookies =>
      simp only [addCookies, cookieValues]
      split
      · next there => rw [if_neg (fun both => present there both.2)]
      · next absent =>
          have empty : headers.values "cookie" = [] := by
            simpa [HeaderMap.values, HeaderMap.containsKey_iff] using absent
          cases cookies uri (if isHttp2 then .http2 else .http11) with
          | compressed value =>
              simp only [HeaderMap.values, HeaderMap.getAll_insert] at empty ⊢
              by_cases same : name = "cookie" <;> simp [same, empty]
          | uncompressed values =>
              simp only [values_foldl_append]
              by_cases same : name = "cookie" <;> simp [same, empty]
          | empty =>
              by_cases same : name = "cookie" <;> simp [same, empty]

end Values

-----------------------------------------------------------------------------------------
-- One attempt and the loop
-----------------------------------------------------------------------------------------

section Loop

variable {Ext B : Type} {client : HttpClient Ext}

/-- Requests are alike but for their headers. -/
structure Alike (left right : Request Ext B) : Prop where
  method : left.method = right.method
  uri : left.uri = right.uri
  version : left.version = right.version
  extensions : left.extensions = right.extensions

theorem Alike.overlay {left right : Request Ext B} (alike : Alike left right)
    (pooled : PoolClient)
    : pooled.overlay client left = pooled.overlay client right := by
  simp only [PoolClient.overlay, alike.method, alike.uri, alike.extensions]

/-- The headers of a connection but for the cookies -/
def connectionHeaders (client : HttpClient Ext) (pooled : PoolClient) (req : Request Ext B)
    : HeaderMap :=
  if pooled.isHttp1 then
    let headers := addHost client.setHost req.uri req.headers
    if pooled.forwards req.method then addProxyHeaders pooled.proxy headers else headers
  else req.headers

/-- A request for HTTP/2 is refused on another connection. Otherwise the form of the target and
the headers change.
-/
theorem prepare_eq (client : HttpClient Ext) (pooled : PoolClient) (req : Request Ext B)
    : prepare client pooled req
      = if pooled.isHttp1 && req.version = .http2 then none
        else
          some
            { req with
              uri := pooled.form req.method req.uri
              headers := addCookies (client.cookieStore req.extensions) req.uri pooled.isHttp2
                (connectionHeaders client pooled req) } := by
  cases http2 : pooled.isHttp2 with
  | true => simp [prepare, connectionHeaders, PoolClient.form, PoolClient.isHttp1, http2]
  | false =>
      by_cases refused : req.version = .http2
      · simp [prepare, PoolClient.isHttp1, http2, refused]
      · by_cases connects : req.method = .connect
        · simp [prepare, connectionHeaders, PoolClient.form, PoolClient.forwards,
            PoolClient.isHttp1, http2, refused, connects]
        · cases proxied : pooled.proxy.isProxied <;>
            simp [prepare, connectionHeaders, PoolClient.form, PoolClient.forwards,
              PoolClient.isHttp1, http2, refused, connects, proxied]

/-- A connection puts its overlay on the headers. -/
theorem values_prepared (client : HttpClient Ext) (pooled : PoolClient) (req : Request Ext B)
    : (addCookies (client.cookieStore req.extensions) req.uri pooled.isHttp2
        (connectionHeaders client pooled req)).values
      = (pooled.overlay client req).apply req.headers.values := by
  funext name
  rw [values_addCookies]
  simp only [Overlay.apply, PoolClient.overlay, connectionHeaders, List.isEmpty_iff]
  cases forwards : pooled.forwards req.method with
  | false =>
      cases http1 : pooled.isHttp1 with
      | false =>
          by_cases host : name = "host"
          · subst host
            simp
          · by_cases cookie : name = "cookie"
            · subst cookie
              simp
            · simp [host, cookie]
      | true =>
          by_cases host : name = "host"
          · subst host
            cases client.setHost <;> simp [values_addHost]
          · by_cases cookie : name = "cookie"
            · subst cookie
              simp [values_addHost]
            · simp [values_addHost, host, cookie]
  | true =>
      have http1 : pooled.isHttp1 = true := by
        simp only [PoolClient.forwards, Bool.and_eq_true] at forwards
        exact forwards.1.1
      simp only [http1, if_true, values_addProxyHeaders, Bool.true_and]
      by_cases custom : (pooled.proxy.headers.getD .empty).values name = []
      · by_cases host : name = "host"
        · subst host
          cases client.setHost <;> simp [custom, values_addHost]
        · by_cases auth : name = "proxy-authorization"
          · subst auth
            simp [custom, values_addHost]
          · by_cases cookie : name = "cookie"
            · subst cookie
              simp [custom, values_addHost]
            · simp [custom, values_addHost, host, auth, cookie]
      · by_cases cookie : name = "cookie"
        · subst cookie
          simp [custom]
        · simp [custom, cookie]

/-- A request that was handed over has the target in the form of the connection, and its overlay
on the headers.
-/
theorem prepare_spec {pooled : PoolClient} {req sent : Request Ext B}
    (prepared : prepare client pooled req = some sent)
    : sent.method = req.method ∧ sent.version = req.version ∧ sent.extensions = req.extensions
      ∧ sent.uri = pooled.form req.method req.uri
      ∧ sent.headers.values = (pooled.overlay client req).apply req.headers.values := by
  rw [prepare_eq] at prepared
  split at prepared
  · cases prepared
  · cases prepared
    exact ⟨rfl, rfl, rfl, rfl, values_prepared client pooled req⟩

/-- The last connection of a loop is handed the request with the overlays of the connections
before, by induction on these.
-/
theorem sendLoop_handed {uri : Uri} (earlier : List PoolClient) (last : PoolClient)
    (answer : Answer) {req sent : Request Ext B} {front : List (Request Ext B)} {ending : Ending}
    (target : req.uri = uri)
    (loop
      : sendLoop client uri req
          (earlier.map (fun pooled => .tried pooled .unsent) ++ [.tried last answer])
        = (front ++ [sent], ending))
    (reached : front.length = earlier.length)
    : ∃ again, Alike again req
        ∧ again.headers.values
          = Overlay.applyAll (earlier.map (fun pooled => pooled.overlay client req))
            req.headers.values
        ∧ prepare client last again = some sent := by
  induction earlier generalizing req front with
  | nil =>
      obtain rfl := List.length_eq_zero_iff.mp reached
      refine ⟨req, ⟨rfl, rfl, rfl, rfl⟩, rfl, ?_⟩
      simp only [List.map_nil, List.nil_append, sendLoop] at loop
      cases prepared : prepare client last req with
      | none => simp [prepared] at loop
      | some handed =>
          simp only [prepared] at loop
          cases answer with
          | responded => simpa using (Prod.ext_iff.mp loop).1
          | lost => simpa using (Prod.ext_iff.mp loop).1
          | unsent =>
              simp only at loop
              split at loop <;> simpa using (Prod.ext_iff.mp loop).1
  | cons pooled earlier ih =>
      cases front with
      | nil => cases reached
      | cons head front =>
          simp only [List.map_cons, List.cons_append, sendLoop] at loop
          cases prepared : prepare client pooled req with
          | none => simp [prepared] at loop
          | some handed =>
              simp only [prepared] at loop
              split at loop
              · simp at loop
              · obtain ⟨both, rfl⟩ := Prod.mk.inj loop
                obtain ⟨rfl, rest⟩ := List.cons.inj both
                obtain ⟨method, version, extensions, _, values⟩ := prepare_spec prepared
                have alike : Alike { handed with uri := uri } req :=
                  ⟨method, target.symm, version, extensions⟩
                have restored : ({ handed with uri := uri } : Request Ext B).uri = uri := rfl
                obtain ⟨again, same, family, sends⟩ :=
                  ih restored (Prod.ext rest rfl) (Nat.succ.inj reached)
                refine ⟨again, ⟨same.method.trans method, same.uri.trans target.symm,
                  same.version.trans version, same.extensions.trans extensions⟩, ?_, sends⟩
                rw [family]
                simp only [alike.overlay, values]
                rfl

/-- What the connections before have left on the request does not show on the last one: at every
name that the proxy of the last one does not impose, what an earlier proxy imposed last is what
the request had, or else what the last connection supplies; and where nothing was imposed or
had, the first connection to supply values supplied those of the last.
-/
def Unmarked (client : HttpClient Ext) (req : Request Ext B) (earlier : List PoolClient)
    (last : PoolClient)
    : Prop :=
  ∀ name, ((last.overlay client req).imposes name).isEmpty = true
    → Overlay.Unneeded (earlier.map (fun pooled => pooled.overlay client req))
      (last.overlay client req) req.headers.values name

/-- When all connections but the last give the request back unsent, the last one is handed the
target and the method that it would be handed as the first one, and it is handed the same headers
if and only if the other connections left no mark.
-/
theorem resend_equals_first_send_iff (client : HttpClient Ext) (req : Request Ext B)
    (earlier : List PoolClient) (last : PoolClient) (answer : Answer)
    {front : List (Request Ext B)} {sent : Request Ext B} {ending : Ending}
    (loop
      : sendRequest client req
          (earlier.map (fun pooled => .tried pooled .unsent) ++ [.tried last answer])
        = (front ++ [sent], ending))
    (reached : front.length = earlier.length)
    : ∃ first, prepare client last req = some first ∧ sent.uri = first.uri
        ∧ sent.method = first.method
        ∧ (sent.headers.eq first.headers = true ↔ Unmarked client req earlier last) := by
  obtain ⟨again, alike, family, sends⟩ := sendLoop_handed earlier last answer rfl loop reached
  obtain ⟨method, _, _, uri, values⟩ := prepare_spec sends
  obtain ⟨first, prepared⟩ : ∃ first, prepare client last req = some first := by
    rw [prepare_eq] at sends ⊢
    rw [← alike.version]
    split at sends
    · cases sends
    · next accepted => exact ⟨_, if_neg accepted⟩
  obtain ⟨methodFirst, _, _, uriFirst, valuesFirst⟩ := prepare_spec prepared
  refine ⟨first, prepared, ?_, ?_, ?_⟩
  · rw [uri, uriFirst, alike.method, alike.uri]
  · rw [method, methodFirst, alike.method]
  · rw [HeaderMap.eq_iff, values, valuesFirst, family, alike.overlay last]
    exact forall_congr' (fun name => Overlay.apply_applyAll_eq_iff _ _ _ name)

end Loop

/-- A client without cookies -/
def sampleClient : HttpClient Unit where
  cookieStore _ := none

/-- `GET https://a.test/` -/
def sampleRequest : Request Unit Unit where
  method := .get
  uri := Cookie.page .https "a.test" "/"
  version := .http11
  headers := .empty
  extensions := ()
  body := ()

/-- The same with the header of HTTP/1 -/
def withHost : Request Unit Unit :=
  { sampleRequest with headers := HeaderMap.empty.insert "host" { bytes := ascii "a.test" } }

/-- The connection of HTTP/1 gives the request back, and that of HTTP/2 gets it. -/
theorem sampleLoop
    : sendRequest sampleClient sampleRequest
        [.tried { isHttp2 := false } .unsent, .tried { isHttp2 := true } .responded]
      = ([{ withHost with uri := originForm sampleRequest.uri }] ++ [withHost], .responded) := by
  rfl

/-- HTTP/1 leaves its `Host` on a request that goes to HTTP/2 next. -/
theorem resend_equals_first_send_iff_host
    : ¬ Unmarked sampleClient sampleRequest [{ isHttp2 := false }] { isHttp2 := true } := by
  obtain ⟨first, prepared, _, _, same⟩ := resend_equals_first_send_iff sampleClient sampleRequest
    [{ isHttp2 := false }] { isHttp2 := true } .responded sampleLoop rfl
  cases prepared
  intro unmarked
  exact absurd (same.mpr unmarked) (by decide)

/-- The header of HTTP/1 is new to the connection of HTTP/2. -/
theorem resend_keeps_host
    : ¬ ∀ (Ext B : Type) (client : HttpClient Ext) (req : Request Ext B)
        (earlier : List PoolClient) (last : PoolClient) (answer : Answer)
        (front : List (Request Ext B)) (sent first : Request Ext B) (ending : Ending),
        sendRequest client req
            (earlier.map (fun pooled => .tried pooled .unsent) ++ [.tried last answer])
          = (front ++ [sent], ending)
        → front.length = earlier.length → prepare client last req = some first
        → sent.uri = first.uri ∧ sent.method = first.method
          ∧ sent.headers.eq first.headers = true := by
  intro always
  have same := always Unit Unit sampleClient sampleRequest [{ isHttp2 := false }]
    { isHttp2 := true } .responded _ withHost sampleRequest .responded sampleLoop rfl rfl
  exact absurd same.2.2 (by decide)

end Tlsurl.Send
