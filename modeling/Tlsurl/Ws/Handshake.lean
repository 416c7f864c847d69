import Tlsurl.Http.HeaderMap
import Tlsurl.Http.Message
import Tlsurl.Http.Tokens
import Tlsurl.Http.Uri
import Tlsurl.Http.Utf8

/-! The opening handshake of a websocket (`client/ws.rs`), and what a server that follows RFC 6455,
or over HTTP/2 RFC 8441, answers to it.
-/

namespace Tlsurl.Ws

-----------------------------------------------------------------------------------------
-- Requests
-----------------------------------------------------------------------------------------

/-- `WebSocketRequestBuilder` with what its inner builder has built -/
structure WebSocketRequestBuilder where
  uri : Uri
  version : Option Version := some .http11
  headers : HeaderMap
  acceptKey : Option Str := none
  protocols : Option (List Str) := none

/-- The request that is executed; `protocol` is the extension of HTTP/2. -/
structure HandshakeRequest where
  method : Method
  uri : Uri
  version : Version
  headers : HeaderMap
  protocol : Option Str := none

/-- The errors of the handshake -/
inductive Error where
  | builder
  | unsupportedVersion (version : Option Version)
  | unexpectedStatusCode (status : StatusCode)
  | missingConnectionHeader
  | invalidUpgradeHeader
  | invalidAcceptKey (header : HeaderValue)
  | missingAcceptKey
  | invalidProtocol (protocol : HeaderValue)
  | missingProtocol (requested : List Str)
  deriving DecidableEq

/-- `HeaderValue::from_str` accepts visible ASCII and tab. -/
def fromStr (text : Str) : Option HeaderValue :=
  if text.all (fun byte => (32 ≤ byte && byte < 127) || byte == 9) then some { bytes := text }
  else none

/-- The scheme of a websocket URI is that of HTTP. -/
def httpUri (uri : Uri) : Uri :=
  match uri.scheme with
  | some (.other scheme) =>
      if scheme = ascii "ws" then { uri with scheme := some .http }
      else if scheme = ascii "wss" then { uri with scheme := some .https }
      else uri
  | _ => uri

namespace WebSocketRequestBuilder

variable (self : WebSocketRequestBuilder)

/-- The protocols that are asked for, if any -/
def requested : List Str := self.protocols.getD []

/-- The handshake over HTTP/1.1 -/
def upgrade (nonce : Str) (headers : HeaderMap)
    : Except Error (HandshakeRequest × Option Str) :=
  let headers := headers.insert "upgrade" { bytes := ascii "websocket" }
  let headers := headers.insert "connection" { bytes := ascii "upgrade" }
  match fromStr nonce with
  | none => .error .builder
  | some key =>
      let headers := headers.insert "sec-websocket-key" key
      .ok ({ method := .get, uri := httpUri self.uri, version := .http11, headers }, some nonce)

/-- The part of `send` that turns a request into a handshake; the key is generated unless it is
given.
-/
def handshake (generated : Str) : Except Error (HandshakeRequest × Option Str) :=
  let headers := self.headers.insert "sec-websocket-version" { bytes := ascii "13" }
  match self.version with
  | some .http10 => self.upgrade (self.acceptKey.getD generated) headers
  | some .http11 => self.upgrade (self.acceptKey.getD generated) headers
  | some .http2 =>
      .ok
        ({ method := .connect, uri := httpUri self.uri, version := .http2, headers
           protocol := some (ascii "websocket") }, none)
  | unsupported => .error (.unsupportedVersion unsupported)

/-- The part of `send` that asks for the protocols -/
def subprotocols (request : HandshakeRequest) : Except Error HandshakeRequest :=
  if self.requested = [] then .ok request
  else
    match HeaderValue.tryFrom (writeTokens self.requested) with
    | none => .error .builder
    | some value =>
        .ok { request with headers := request.headers.insert "sec-websocket-protocol" value }

/-- `WebSocketRequestBuilder::send`: the request that is executed, and the key -/
def send (generated : Str) : Except Error (HandshakeRequest × Option Str) :=
  match self.handshake generated with
  | .error error => .error error
  | .ok (request, acceptKey) =>
      match self.subprotocols request with
      | .error error => .error error
      | .ok request => .ok (request, acceptKey)

end WebSocketRequestBuilder

-----------------------------------------------------------------------------------------
-- Responses
-----------------------------------------------------------------------------------------

/-- `Response`, as far as the handshake reads it -/
structure Response where
  version : Version
  status : StatusCode
  headers : HeaderMap

/-- `str::from_utf8` accepts what decoding leaves alone. -/
def isUtf8 (bytes : Str) : Bool := decodeUtf8Lossy bytes == bytes

/-- `header_eq` -/
def headerEq (headers : HeaderMap) (key : HeaderName) (value : Str) : Bool :=
  match headers.get key with
  | some header => eqIgnoreAsciiCase header.bytes value
  | none => false

/-- `header_contains`, whose value is in lower case -/
def headerContains (headers : HeaderMap) (key : HeaderName) (value : Str) : Bool :=
  match headers.get key with
  | some header => isUtf8 header.bytes && decide (value <:+: header.bytes.map toAsciiLowercase)
  | none => false

section Checks

variable (deriveAcceptKey : Str → Str)

/-- The check of the upgrade, by the version of the response -/
def checkUpgrade (acceptKey : Option Str) (response : Response) : Except Error Unit :=
  match response.version with
  | .http10 | .http11 =>
      if response.status ≠ 101 then .error (.unexpectedStatusCode response.status)
      else if !headerContains response.headers "connection" (ascii "upgrade") then
        .error .missingConnectionHeader
      else if !headerEq response.headers "upgrade" (ascii "websocket") then
        .error .invalidUpgradeHeader
      else
        match acceptKey, response.headers.get "sec-websocket-accept" with
        | some nonce, some header =>
            if header.toStr = some (deriveAcceptKey nonce) then .ok ()
            else .error (.invalidAcceptKey header)
        | _, _ => .error .missingAcceptKey
  | .http2 =>
      if response.status ≠ 200 then .error (.unexpectedStatusCode response.status) else .ok ()
  | other => .error (.unsupportedVersion (some other))

/-- The check of the protocol, which gives the one that was chosen -/
def checkProtocol (requested : List Str) (response : Response)
    : Except Error (Option HeaderValue) :=
  let protocol := response.headers.get "sec-websocket-protocol"
  let replied := protocol.bind (fun value => value.toStr.map (fun text => (value, text)))
  match replied with
  | some chosen =>
      if requested.contains chosen.2 then .ok protocol else .error (.invalidProtocol chosen.1)
  | none => if requested = [] then .ok protocol else .error (.missingProtocol requested)

/-- `WebSocketResponse::into_websocket` up to the upgrade of the connection -/
def intoWebsocket (acceptKey : Option Str) (requested : List Str) (response : Response)
    : Except Error (Option HeaderValue) :=
  match checkUpgrade deriveAcceptKey acceptKey response with
  | .error error => .error error
  | .ok () => checkProtocol requested response

end Checks

-----------------------------------------------------------------------------------------
-- Servers
-----------------------------------------------------------------------------------------

/-- Visible ASCII -/
def isVisible (text : Str) : Bool := text.all (fun byte => 32 ≤ byte && byte < 127)

/-- A response over HTTP/1.1 switches to websockets, on any of its `Connection` lines, and proves to
have read the key.
-/
structure Switches (deriveAcceptKey : Str → Str) (request : HandshakeRequest)
    (response : Response)
    : Prop where
  version : response.version = .http11
  status : response.status = 101
  upgrade
    : ∃ value, response.headers.get "upgrade" = some value
      ∧ eqIgnoreAsciiCase value.bytes (ascii "websocket") = true
  connection
    : ∃ value ∈ response.headers.getAll "connection",
        ∃ token ∈ tokens value.bytes, eqIgnoreAsciiCase token (ascii "upgrade") = true
  visible
    : ∀ value ∈ response.headers.getAll "connection", isVisible value.bytes = true
  accept
    : ∃ key value, request.headers.get "sec-websocket-key" = some key
      ∧ response.headers.get "sec-websocket-accept" = some value
      ∧ value.bytes = deriveAcceptKey key.bytes

/-- A response that agrees to the handshake of a request: it switches to websockets, or over HTTP/2
opens the tunnel, and may choose one of the protocols.
-/
structure Answers (deriveAcceptKey : Str → Str) (request : HandshakeRequest) (response : Response)
    : Prop where
  agrees
    : request.version = .http11 ∧ Switches deriveAcceptKey request response
      ∨ request.version = .http2 ∧ response.version = .http2 ∧ response.status = 200
  protocol
    : ∀ value, response.headers.get "sec-websocket-protocol" = some value
      → isVisible value.bytes = true
        ∧ ∃ offer, request.headers.get "sec-websocket-protocol" = some offer
          ∧ value.bytes ∈ tokens offer.bytes

/-- The first `Connection` line of a response says upgrade somewhere. -/
def Response.FirstUpgrades (response : Response) : Prop :=
  ∃ value, response.headers.get "connection" = some value
    ∧ ascii "upgrade" <:+: value.bytes.map toAsciiLowercase

-----------------------------------------------------------------------------------------
-- What is sent
-----------------------------------------------------------------------------------------

theorem get_eq_head? (headers : HeaderMap) (name : HeaderName)
    : headers.get name = (headers.getAll name).head? := by
  rw [HeaderMap.get, HeaderMap.getAll]
  cases headers.find? name <;> rfl

theorem get_insert (headers : HeaderMap) (name other : HeaderName) (value : HeaderValue)
    : (headers.insert other value).get name
      = if name = other then some value else headers.get name := by
  rw [get_eq_head?, get_eq_head?, HeaderMap.getAll_insert]
  split <;> rfl

theorem mem_getAll_of_get {headers : HeaderMap} {name : HeaderName} {value : HeaderValue}
    (found : headers.get name = some value)
    : value ∈ headers.getAll name :=
  List.mem_of_mem_head? (get_eq_head? headers name ▸ found)

theorem fromStr_eq_some {text : Str} {value : HeaderValue} (accepted : fromStr text = some value)
    : value = { bytes := text } := by
  rw [fromStr] at accepted
  split at accepted
  · exact (Option.some.inj accepted).symm
  · cases accepted

section Sent

variable {self : WebSocketRequestBuilder} {generated : Str} {request : HandshakeRequest}
variable {acceptKey : Option Str}

theorem upgrade_spec {nonce : Str} {headers : HeaderMap}
    (made : self.upgrade nonce headers = .ok (request, acceptKey))
    : request.version = .http11 ∧ acceptKey = some nonce
      ∧ request.headers.get "sec-websocket-key" = some { bytes := nonce } := by
  simp only [WebSocketRequestBuilder.upgrade] at made
  cases accepted : fromStr nonce with
  | none => simp [accepted] at made
  | some key =>
      simp only [accepted] at made
      cases made
      refine ⟨rfl, rfl, ?_⟩
      rw [get_insert, if_pos rfl, fromStr_eq_some accepted]

/-- The key that a handshake keeps is the one that it sends, over HTTP/1.1 only. -/
theorem handshake_spec (made : self.handshake generated = .ok (request, acceptKey))
    : (request.version = .http11
        ∧ ∃ nonce, acceptKey = some nonce
          ∧ request.headers.get "sec-websocket-key" = some { bytes := nonce })
      ∨ (request.version = .http2 ∧ acceptKey = none) := by
  rw [WebSocketRequestBuilder.handshake] at made
  cases asked : self.version with
  | none => simp [asked] at made
  | some version =>
      cases version with
      | http10 =>
          simp only [asked] at made
          obtain ⟨http1, kept⟩ := upgrade_spec made
          exact .inl ⟨http1, _, kept⟩
      | http11 =>
          simp only [asked] at made
          obtain ⟨http1, kept⟩ := upgrade_spec made
          exact .inl ⟨http1, _, kept⟩
      | http2 =>
          simp only [asked] at made
          cases made
          exact .inr ⟨rfl, rfl⟩
      | http09 => simp [asked] at made
      | http3 => simp [asked] at made

/-- Asking for protocols changes one header. -/
theorem subprotocols_spec {asked : HandshakeRequest}
    (made : self.subprotocols request = .ok asked)
    : asked.version = request.version
      ∧ asked.headers.get "sec-websocket-key" = request.headers.get "sec-websocket-key"
      ∧ (self.requested ≠ []
        → asked.headers.get "sec-websocket-protocol"
          = some { bytes := writeTokens self.requested }) := by
  rw [WebSocketRequestBuilder.subprotocols] at made
  split at made
  · next none =>
    cases made
    exact ⟨rfl, rfl, fun some => absurd none some⟩
  · split at made
    · cases made
    · next value accepted =>
      cases made
      have same : value = { bytes := writeTokens self.requested } := by
        rw [HeaderValue.tryFrom] at accepted
        split at accepted
        · exact (Option.some.inj accepted).symm
        · cases accepted
      refine ⟨rfl, ?_, fun _ => ?_⟩
      · rw [get_insert, if_neg (by decide)]
      · rw [get_insert, if_pos rfl, same]

/-- What `send` sends, and what it keeps to check the response -/
theorem send_spec (sent : self.send generated = .ok (request, acceptKey))
    : ((request.version = .http11
          ∧ ∃ nonce, acceptKey = some nonce
            ∧ request.headers.get "sec-websocket-key" = some { bytes := nonce })
        ∨ (request.version = .http2 ∧ acceptKey = none))
      ∧ (self.requested ≠ []
        → request.headers.get "sec-websocket-protocol"
          = some { bytes := writeTokens self.requested }) := by
  rw [WebSocketRequestBuilder.send] at sent
  cases made : self.handshake generated with
  | error error => simp [made] at sent
  | ok result =>
      obtain ⟨opened, key⟩ := result
      simp only [made] at sent
      cases asks : self.subprotocols opened with
      | error error => simp [asks] at sent
      | ok asked =>
          simp only [asks] at sent
          cases sent
          obtain ⟨version, sameKey, protocols⟩ := subprotocols_spec asks
          refine ⟨?_, protocols⟩
          rw [version, sameKey]
          exact handshake_spec made

end Sent

-----------------------------------------------------------------------------------------
-- What is accepted
-----------------------------------------------------------------------------------------

theorem toStr_eq_some {value : HeaderValue} {text : Str} (read : value.toStr = some text)
    : text = value.bytes := by
  rw [HeaderValue.toStr] at read
  split at read
  · exact (Option.some.inj read).symm
  · cases read

theorem toStr_of_visible {value : HeaderValue} (visible : isVisible value.bytes = true)
    : value.toStr = some value.bytes := by
  rw [isVisible, List.all_eq_true] at visible
  rw [HeaderValue.toStr, if_pos]
  rw [List.all_eq_true]
  intro byte member
  rw [Bool.or_eq_true]
  exact .inl (visible byte member)

/-- ASCII is UTF-8, by induction on the text. -/
theorem isUtf8_of_visible {text : Str} (visible : isVisible text = true)
    : isUtf8 text = true := by
  have decoded : decodeFrom none text = text := by
    induction text with
    | nil => rfl
    | cons byte text ih =>
        simp only [isVisible, List.all_cons, Bool.and_eq_true, decide_eq_true_eq] at visible
        have low : byte < 0x80 := UInt8.lt_trans visible.1.2 (by decide)
        simp [decodeFrom, decodeNext, decodeFirst, low, ih visible.2]
  simpa [isUtf8, decodeUtf8Lossy] using decoded

section Accepted

variable {deriveAcceptKey : Str → Str} {requested : List Str} {response : Response}

/-- Over HTTP/1 the upgrade is checked in four headers and the status. -/
theorem checkUpgrade_ok {acceptKey : Option Str}
    (http1 : response.version = .http10 ∨ response.version = .http11)
    : checkUpgrade deriveAcceptKey acceptKey response = .ok ()
      ↔ response.status = 101
        ∧ headerContains response.headers "connection" (ascii "upgrade") = true
        ∧ headerEq response.headers "upgrade" (ascii "websocket") = true
        ∧ ∃ nonce header, acceptKey = some nonce
          ∧ response.headers.get "sec-websocket-accept" = some header
          ∧ header.toStr = some (deriveAcceptKey nonce) := by
  have same : checkUpgrade deriveAcceptKey acceptKey response
      = checkUpgrade deriveAcceptKey acceptKey { response with version := .http11 } := by
    rcases http1 with version | version <;> simp [checkUpgrade, version]
  rw [same]
  simp only [checkUpgrade]
  by_cases status : response.status = 101
  · cases connection : headerContains response.headers "connection" (ascii "upgrade") with
    | false => simp [status]
    | true =>
        cases upgrade : headerEq response.headers "upgrade" (ascii "websocket") with
        | false => simp [status]
        | true =>
            cases acceptKey with
            | none => simp [status]
            | some nonce =>
                cases response.headers.get "sec-websocket-accept" with
                | none => simp [status]
                | some header =>
                    by_cases derived : header.toStr = some (deriveAcceptKey nonce) <;>
                      simp [status, derived]
  · simp [status]

/-- A protocol is accepted if it was asked for, and none if none was asked for. -/
theorem checkProtocol_ok {protocol : Option HeaderValue}
    (checked : checkProtocol requested response = .ok protocol)
    : protocol = response.headers.get "sec-websocket-protocol"
      ∧ (requested ≠ [] → ∃ value, protocol = some value ∧ value.bytes ∈ requested) := by
  simp only [checkProtocol] at checked
  split at checked
  · next chosen replied =>
    split at checked
    · next among =>
      cases checked
      refine ⟨rfl, fun _ => ?_⟩
      obtain ⟨value, present, pair⟩ := Option.bind_eq_some_iff.mp replied
      obtain ⟨text, read, same⟩ := Option.map_eq_some_iff.mp pair
      cases same
      exact ⟨value, present, toStr_eq_some read ▸ List.contains_iff_mem.mp among⟩
    · cases checked
  · split at checked
    · next nothing =>
      cases checked
      exact ⟨rfl, fun some => absurd nothing some⟩
    · cases checked

/-- Visible protocols are accepted if and only if they were asked for. -/
theorem checkProtocol_isOk
    (visible
      : ∀ value, response.headers.get "sec-websocket-protocol" = some value
        → isVisible value.bytes = true)
    : (∃ protocol, checkProtocol requested response = .ok protocol)
      ↔ match response.headers.get "sec-websocket-protocol" with
        | some value => value.bytes ∈ requested
        | none => requested = [] := by
  simp only [checkProtocol]
  cases replied : response.headers.get "sec-websocket-protocol" with
  | none => by_cases nothing : requested = [] <;> simp [nothing]
  | some value =>
      have read := toStr_of_visible (visible value replied)
      by_cases among : value.bytes ∈ requested <;> simp [read, among]

end Accepted

-----------------------------------------------------------------------------------------
-- Agreement
-----------------------------------------------------------------------------------------

section Agreement

variable {deriveAcceptKey : Str → Str} {self : WebSocketRequestBuilder} {generated : Str}
variable {request : HandshakeRequest} {acceptKey : Option Str} {response : Response}

/-- A server reads exactly the protocols that are asked for. -/
theorem offer_of_send (sent : self.send generated = .ok (request, acceptKey))
    (wellFormed : ∀ token ∈ self.requested, IsToken token) (some : self.requested ≠ [])
    : ∃ offer, request.headers.get "sec-websocket-protocol" = .some offer
      ∧ tokens offer.bytes = self.requested :=
  ⟨_, (send_spec sent).2 some, tokens_writeTokens wellFormed⟩

/-- The switch that a server answers with passes the checks of the client as far as its first
`Connection` line says upgrade.
-/
theorem checkUpgrade_of_switches {nonce : Str}
    (sentKey : request.headers.get "sec-websocket-key" = some { bytes := nonce })
    (derives : ∀ nonce, isVisible (deriveAcceptKey nonce) = true)
    (switches : Switches deriveAcceptKey request response)
    : checkUpgrade deriveAcceptKey (some nonce) response = .ok () ↔ response.FirstUpgrades := by
  rw [checkUpgrade_ok (.inr switches.version)]
  have upgrade : headerEq response.headers "upgrade" (ascii "websocket") = true := by
    obtain ⟨value, present, same⟩ := switches.upgrade
    simp [headerEq, present, same]
  have accept
      : ∃ kept header, some nonce = some kept
        ∧ response.headers.get "sec-websocket-accept" = some header
        ∧ header.toStr = some (deriveAcceptKey kept) := by
    obtain ⟨key, value, there, present, same⟩ := switches.accept
    rw [sentKey] at there
    cases there
    refine ⟨nonce, value, rfl, present, ?_⟩
    rw [toStr_of_visible (same ▸ derives nonce), same]
  have first
      : headerContains response.headers "connection" (ascii "upgrade") = true
        ↔ response.FirstUpgrades := by
    rw [headerContains, Response.FirstUpgrades]
    cases present : response.headers.get "connection" with
    | none => simp
    | some value =>
        have visible := switches.visible value (mem_getAll_of_get present)
        simp [isUtf8_of_visible visible]
  rw [← first]
  exact ⟨fun checks => checks.2.1, fun connection => ⟨switches.status, connection, upgrade, accept⟩⟩

/-- The answer of a server passes the checks of the upgrade if and only if, over HTTP/1.1, its first
`Connection` line says upgrade.
-/
theorem checkUpgrade_of_answers (sent : self.send generated = .ok (request, acceptKey))
    (derives : ∀ nonce, isVisible (deriveAcceptKey nonce) = true)
    (answers : Answers deriveAcceptKey request response)
    : checkUpgrade deriveAcceptKey acceptKey response = .ok ()
      ↔ (request.version = .http11 → response.FirstUpgrades) := by
  rcases answers.agrees with ⟨http1, switches⟩ | ⟨http2, version, status⟩
  · rcases (send_spec sent).1 with ⟨_, nonce, rfl, there⟩ | ⟨other, _⟩
    · rw [checkUpgrade_of_switches there derives switches]
      exact ⟨fun first _ => first, fun first => first http1⟩
    · cases http1.symm.trans other
  · refine iff_of_true ?_ (fun http1 => by cases http1.symm.trans http2)
    simp [checkUpgrade, version, status]

/-- The answer of a server to the handshake is accepted if and only if it chooses a protocol
exactly when some were asked for, and over HTTP/1.1 its first `Connection` line says upgrade.
-/
theorem answer_accepted_iff (sent : self.send generated = .ok (request, acceptKey))
    (wellFormed : ∀ token ∈ self.requested, IsToken token)
    (derives : ∀ nonce, isVisible (deriveAcceptKey nonce) = true)
    (answers : Answers deriveAcceptKey request response)
    : (∃ protocol,
        intoWebsocket deriveAcceptKey acceptKey self.requested response = .ok protocol)
      ↔ ((response.headers.get "sec-websocket-protocol").isSome = true ↔ self.requested ≠ [])
        ∧ (request.version = .http11 → response.FirstUpgrades) := by
  have chooses
      : (∃ protocol, checkProtocol self.requested response = .ok protocol)
        ↔ ((response.headers.get "sec-websocket-protocol").isSome = true
          ↔ self.requested ≠ []) := by
    rw [checkProtocol_isOk (fun value replied => (answers.protocol value replied).1)]
    cases replied : response.headers.get "sec-websocket-protocol" with
    | none => simp
    | some value =>
        obtain ⟨_, offer, offered, among⟩ := answers.protocol value replied
        by_cases nothing : self.requested = []
        · simp [nothing]
        · obtain ⟨same, there, list⟩ := offer_of_send sent wellFormed nothing
          rw [there] at offered
          cases offered
          simpa [nothing] using list ▸ among
  rw [← chooses, ← checkUpgrade_of_answers sent derives answers, intoWebsocket]
  cases checkUpgrade deriveAcceptKey acceptKey response with
  | error error => simp
  | ok checked => simp

/-- What is accepted over HTTP/1 answers the very handshake that was sent: it was one of HTTP/1.1
with a key, the response is derived from that key, and a protocol was chosen from those of the
request if there were any.
-/
theorem accepted_answers_request {protocol : Option HeaderValue}
    (sent : self.send generated = .ok (request, acceptKey))
    (http1 : response.version = .http10 ∨ response.version = .http11)
    (accepted
      : intoWebsocket deriveAcceptKey acceptKey self.requested response = .ok protocol)
    : request.version = .http11 ∧ response.status = 101
      ∧ (∃ key value, request.headers.get "sec-websocket-key" = some key
        ∧ response.headers.get "sec-websocket-accept" = some value
        ∧ value.bytes = deriveAcceptKey key.bytes)
      ∧ protocol = response.headers.get "sec-websocket-protocol"
      ∧ (self.requested ≠ [] → ∃ value, protocol = some value ∧ value.bytes ∈ self.requested) := by
  rw [intoWebsocket] at accepted
  cases upgraded : checkUpgrade deriveAcceptKey acceptKey response with
  | error error => simp [upgraded] at accepted
  | ok checked =>
      simp only [upgraded] at accepted
      obtain ⟨status, _, _, nonce, header, kept, present, derived⟩ :=
        (checkUpgrade_ok http1).mp upgraded
      obtain ⟨same, chosen⟩ := checkProtocol_ok accepted
      rcases (send_spec sent).1 with ⟨version, key, keptKey, sentKey⟩ | ⟨_, none⟩
      · rw [kept] at keptKey
        cases keptKey
        exact ⟨version, status, ⟨_, header, sentKey, present, (toStr_eq_some derived).symm⟩, same,
          chosen⟩
      · rw [kept] at none
        cases none

end Agreement

-----------------------------------------------------------------------------------------
-- A sample
-----------------------------------------------------------------------------------------

/-- A websocket that asks for two protocols -/
def sampleSocket : WebSocketRequestBuilder where
  uri :=
    { scheme := some (.other (ascii "wss")), authority := some { host := ascii "a.test" }
      path := ascii "/chat" }
  headers := .empty
  protocols := some [ascii "chat", ascii "superchat"]

/-- The nonce and its key in RFC 6455 -/
def sampleNonce : Str := ascii "dGhlIHNhbXBsZSBub25jZQ=="

/-- The derivation of the key at the sample -/
def sampleDerive (nonce : Str) : Str :=
  if nonce = sampleNonce then ascii "s3pPLMBiTxaQ9kYGzzhZRbK+xOo=" else []

/-- The handshake of the sample -/
def sampleHandshake : HandshakeRequest where
  method := .get
  uri := { sampleSocket.uri with scheme := some .https }
  version := .http11
  headers :=
    ((((HeaderMap.empty.insert "sec-websocket-version" { bytes := ascii "13" }).insert
      "upgrade" { bytes := ascii "websocket" }).insert
      "connection" { bytes := ascii "upgrade" }).insert
      "sec-websocket-key" { bytes := sampleNonce }).insert
      "sec-websocket-protocol" { bytes := ascii "chat, superchat" }

theorem sampleHandshake_sent
    : sampleSocket.send sampleNonce = .ok (sampleHandshake, some sampleNonce) := by
  rfl

/-- A response in another case, over a connection that may be kept -/
def sampleAnswer : Response where
  version := .http11
  status := 101
  headers :=
    (((HeaderMap.empty.insert "upgrade" { bytes := ascii "WebSocket" }).insert
      "connection" { bytes := ascii "keep-alive, Upgrade" }).insert
      "sec-websocket-accept" { bytes := sampleDerive sampleNonce }).insert
      "sec-websocket-protocol" { bytes := ascii "superchat" }

theorem sampleDerive_visible (nonce : Str) : isVisible (sampleDerive nonce) = true := by
  rw [sampleDerive]
  split <;> rfl

theorem sampleSocket_wellFormed : ∀ token ∈ sampleSocket.requested, IsToken token := by
  intro token member
  rcases List.mem_pair.mp member with rfl | rfl
  · exact ⟨by decide, by decide, by simp [ascii, isOws]⟩
  · exact ⟨by decide, by decide, by simp [ascii, isOws]⟩

theorem sampleAnswer_switches : Switches sampleDerive sampleHandshake sampleAnswer where
  version := rfl
  status := rfl
  upgrade := ⟨{ bytes := ascii "WebSocket" }, rfl, rfl⟩
  connection :=
    ⟨{ bytes := ascii "keep-alive, Upgrade" }, .head _, ascii "Upgrade", .tail _ (.head _), rfl⟩
  visible value member := by
    cases List.mem_singleton.mp member
    rfl
  accept := ⟨{ bytes := sampleNonce }, { bytes := sampleDerive sampleNonce }, rfl, rfl, rfl⟩

theorem sampleAnswer_answers : Answers sampleDerive sampleHandshake sampleAnswer where
  agrees := .inl ⟨rfl, sampleAnswer_switches⟩
  protocol value chosen := by
    cases (show some _ = some value from chosen)
    exact ⟨rfl, { bytes := ascii "chat, superchat" }, rfl, .tail _ (.head _)⟩

/-- The sample over HTTP/2 -/
def sampleSocketH2 : WebSocketRequestBuilder := { sampleSocket with version := some .http2 }

/-- The extended CONNECT of the sample -/
def sampleConnect : HandshakeRequest where
  method := .connect
  uri := { sampleSocket.uri with scheme := some .https }
  version := .http2
  headers :=
    (HeaderMap.empty.insert "sec-websocket-version" { bytes := ascii "13" }).insert
      "sec-websocket-protocol" { bytes := ascii "chat, superchat" }
  protocol := some (ascii "websocket")

theorem sampleConnect_sent : sampleSocketH2.send sampleNonce = .ok (sampleConnect, none) := by
  rfl

/-- A response that opens the tunnel and chooses no protocol -/
def sampleTunnel : Response where
  version := .http2
  status := 200
  headers := .empty

theorem sampleTunnel_answers : Answers sampleDerive sampleConnect sampleTunnel where
  agrees := .inr ⟨rfl, rfl, rfl⟩
  protocol value chosen := by
    cases (show none = some value from chosen)

/-- Over HTTP/1.1 a protocol is chosen and accepted, over HTTP/2 none is chosen, which is refused.
-/
theorem answer_accepted_iff_sample
    : (∃ protocol,
        intoWebsocket sampleDerive (some sampleNonce) sampleSocket.requested sampleAnswer
          = .ok protocol)
      ∧ ¬ ∃ protocol,
        intoWebsocket sampleDerive none sampleSocketH2.requested sampleTunnel = .ok protocol := by
  constructor
  · have first : sampleAnswer.FirstUpgrades :=
      ⟨{ bytes := ascii "keep-alive, Upgrade" }, rfl, by decide⟩
    exact (answer_accepted_iff sampleHandshake_sent sampleSocket_wellFormed sampleDerive_visible
      sampleAnswer_answers).mpr ⟨iff_of_true rfl (by decide), fun _ => first⟩
  · intro accepted
    have chosen :=
      ((answer_accepted_iff sampleConnect_sent sampleSocket_wellFormed sampleDerive_visible
        sampleTunnel_answers).mp accepted).1
    cases chosen.mpr (by decide)

theorem accepted_answers_request_sample
    : ∃ key value, sampleHandshake.headers.get "sec-websocket-key" = some key
      ∧ sampleAnswer.headers.get "sec-websocket-accept" = some value
      ∧ value.bytes = sampleDerive key.bytes :=
  (accepted_answers_request sampleHandshake_sent (.inr rfl) rfl).2.2.1

end Tlsurl.Ws
