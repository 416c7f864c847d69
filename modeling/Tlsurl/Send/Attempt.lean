import Tlsurl.Cookie.Jar
import Tlsurl.Http.HeaderEdits
import Tlsurl.Http.Message

/-! How a request is prepared for a connection, and the loop that sends it (`send_request` and
`try_send_request` of `layer/client.rs`).
The request that a connection gives back unsent is the one that it was handed.
-/

namespace Tlsurl.Send

open Cookie (Cookies)

-----------------------------------------------------------------------------------------
-- Forms of the target
-----------------------------------------------------------------------------------------

/-- `origin_form` -/
def originForm (uri : Uri) : Uri where
  scheme := none
  authority := none
  path := uri.path
  query := uri.query

/-- `absolute_form` only asserts that there are a scheme and an authority. -/
def absoluteForm (uri : Uri) : Uri := uri

/-- `authority_form`; the request was refused if its URI is relative. -/
def authorityForm (uri : Uri) : Uri :=
  match uri.authority with
  | some authority => { scheme := none, authority := some authority, path := [] }
  | none => uri

/-- `is_schema_secure` -/
def isSchemaSecure (uri : Uri) : Bool :=
  uri.scheme.any (fun scheme => scheme = .other (ascii "wss") || scheme = .https)

/-- `generate_host_header`; the host of a URI is a valid header value. -/
def generateHostHeader (uri : Uri) : HeaderValue :=
  let hostname := uri.host.getD []
  let port :=
    if uri.port = some 443 && isSchemaSecure uri then none
    else if uri.port = some 80 && !isSchemaSecure uri then none
    else uri.port
  match port with
  | some port => { bytes := hostname ++ ascii ":" ++ decimal port.toNat }
  | none => { bytes := hostname }

-----------------------------------------------------------------------------------------
-- Connections and clients
-----------------------------------------------------------------------------------------

/-- `ProxyIdentity` -/
structure ProxyIdentity where
  isProxied : Bool := false
  auth : Option HeaderValue := none
  headers : Option HeaderMap := none

/-- `Pooled<PoolClient>` -/
structure PoolClient where
  isHttp2 : Bool
  proxy : ProxyIdentity := {}
  isReused : Bool := true

/-- `PoolClient::is_http1` -/
def PoolClient.isHttp1 (pooled : PoolClient) : Bool := !pooled.isHttp2

/-- The part of `HttpClient` that sending reads; a request may bring its own cookie store. -/
structure HttpClient (Ext : Type) where
  setHost : Bool := true
  retryCanceledRequests : Bool := true
  cookieStore : Ext → Option (Uri → Version → Cookies)

-----------------------------------------------------------------------------------------
-- Preparing a request
-----------------------------------------------------------------------------------------

/-- The `Host` header of HTTP/1 -/
def addHost (setHost : Bool) (uri : Uri) (headers : HeaderMap) : HeaderMap :=
  if setHost then headers.orInsert "host" (generateHostHeader uri) else headers

/-- The headers for a proxy -/
def addProxyHeaders (proxy : ProxyIdentity) (headers : HeaderMap) : HeaderMap :=
  let headers := match proxy.auth with
    | some auth => headers.orInsert "proxy-authorization" auth
    | none => headers
  match proxy.headers with
  | some custom => headers.replaceHeaders custom
  | none => headers

/-- The cookies of the store, unless the request has its own -/
def addCookies (cookieStore : Option (Uri → Version → Cookies)) (uri : Uri) (isHttp2 : Bool)
    (headers : HeaderMap)
    : HeaderMap :=
  match cookieStore with
  | none => headers
  | some cookies =>
      if headers.containsKey "cookie" then headers
      else match cookies uri (if isHttp2 then .http2 else .http11) with
        | .compressed value => headers.insert "cookie" value
        | .uncompressed values =>
            values.foldl (fun headers value => headers.append "cookie" value) headers
        | .empty => headers

section Sending

variable {Ext B : Type}

/-- The part of `try_send_request` up to handing the request to the connection; a request for
HTTP/2 is refused on HTTP/1.
-/
def prepare (client : HttpClient Ext) (pooled : PoolClient) (req : Request Ext B)
    : Option (Request Ext B) :=
  let uri := req.uri
  let shaped : Option (Request Ext B) :=
    if pooled.isHttp1 then
      if req.version = .http2 then none
      else
        let req := { req with headers := addHost client.setHost uri req.headers }
        if req.method = .connect then some { req with uri := authorityForm uri }
        else if pooled.proxy.isProxied then
          some
            { req with
              headers := addProxyHeaders pooled.proxy req.headers
              uri := absoluteForm uri }
        else some { req with uri := originForm uri }
    else if req.method = .connect && !pooled.isHttp2 then
      some { req with uri := authorityForm uri }
    else some req
  shaped.map (fun req =>
    { req with
      headers := addCookies (client.cookieStore req.extensions) uri pooled.isHttp2 req.headers })

-----------------------------------------------------------------------------------------
-- The loop
-----------------------------------------------------------------------------------------

/-- How a connection deals with the request: it responds, it gives the request back unsent, or
it fails after the request was started.
-/
inductive Answer where
  | responded
  | unsent
  | lost

/-- One turn of the loop: there is no connection, or one with its answer. -/
inductive Turn where
  | unconnected
  | tried (pooled : PoolClient) (answer : Answer)

/-- How the loop ends; it may still be waiting. -/
inductive Ending where
  | waiting
  | responded
  | failed

/-- The loop of `send_request`: the requests handed to connections, and the end. -/
def sendLoop (client : HttpClient Ext) (uri : Uri) (req : Request Ext B)
    : List Turn → List (Request Ext B) × Ending
  | [] => ([], .waiting)
  | .unconnected :: _ => ([], .failed)
  | .tried pooled answer :: turns =>
      match prepare client pooled req with
      | none => ([], .failed)
      | some sent =>
          match answer with
          | .responded => ([sent], .responded)
          | .lost => ([sent], .failed)
          | .unsent =>
              if !client.retryCanceledRequests || !pooled.isReused then ([sent], .failed)
              else
                match sendLoop client uri { sent with uri := uri } turns with
                | (later, ending) => (sent :: later, ending)

/-- `send_request` -/
def sendRequest (client : HttpClient Ext) (req : Request Ext B) (turns : List Turn)
    : List (Request Ext B) × Ending :=
  sendLoop client req.uri req turns

end Sending

end Tlsurl.Send
