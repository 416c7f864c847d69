import Tlsurl.Http.HeaderEdits
import Tlsurl.Http.HeaderOrder
import Tlsurl.Http.Message
import Tlsurl.Http.Urlencoded
import Tlsurl.Multipart.Form
import Tlsurl.Proxy.Credentials
import Tlsurl.Redirect.Policy

/-! `RequestBuilder` of `client/request.rs`, with the helpers of `ext.rs` and `util.rs` that it
uses. A builder that has failed once keeps its error.
-/

namespace Tlsurl

open Proxy (asStr splitOnce rsplitOnce setUserinfo basicAuthHeader)

/-- `AUTHORIZATION` -/
def authorization : HeaderName := "authorization"

-----------------------------------------------------------------------------------------
-- Parts of URIs
-----------------------------------------------------------------------------------------

/-- What is used of other crates -/
structure BuilderCrates extends Proxy.Crates where
  /-- `PathAndQuery::from_maybe_shared`, as the path and the query that it finds -/
  parsePathAndQuery : Str → Option (Str × Option Str)

/-- The crates, where every path and query is accepted: those of the concrete runs -/
def openCrates : BuilderCrates where
  toCrates := Proxy.loopbackCrates
  parsePathAndQuery := fun text => (splitOnce 63 text).map (fun parts => (parts.1, some parts.2))

/-- A text, unless it is empty -/
def nonEmpty (text : Str) : Option Str := if text.isEmpty then none else some text

/-- `UriExt::userinfo` -/
def Uri.userinfo (uri : Uri) : Option Str × Option Str :=
  match uri.authority.bind (fun authority => rsplitOnce 64 (asStr authority)) with
  | none => (none, none)
  | some (userinfo, _) =>
      match splitOnce 58 userinfo with
      | some (user, pass) => (nonEmpty user, nonEmpty pass)
      | none => (some userinfo, none)

/-- `UriExt::set_query` -/
def Uri.setQuery (crates : BuilderCrates) (uri : Uri) (query : Str) : Uri :=
  if query.isEmpty then uri
  else
    match crates.parsePathAndQuery (uri.path ++ ascii "?" ++ query) with
    | none => uri
    | some (path, query) => (crates.fromParts { uri with path, query }).getD uri

/-- `percent_decode(..).decode_utf8()` -/
def decodePercentUtf8 (text : Str) : Option Str := decodeUtf8 (percentDecode text)

/-- `extract_authority`: the URI it leaves, and the credentials it returns -/
def extractAuthority (crates : BuilderCrates) (uri : Uri) : Uri × Option (Str × Option Str) :=
  match uri.userinfo.1.bind decodePercentUtf8 with
  | none => (uri, none)
  | some username =>
      let password := uri.userinfo.2.bind decodePercentUtf8
      if !username.isEmpty || password.isSome then
        (setUserinfo crates.toCrates uri [] none, some (username, password))
      else (uri, none)

-----------------------------------------------------------------------------------------
-- The builder
-----------------------------------------------------------------------------------------

/-- What a builder fails on -/
inductive BuildError where
  | uri
  | headerName
  | headerValue
  | mime
  | serialize
  deriving DecidableEq

/-- The configurations that a request carries as extensions -/
structure Configs where
  totalTimeout : Option Nat := none
  redirect : Option (Redirect.Policy Unit) := none
  origHeaders : Option OrigHeaderMap := none

/-- `client::Request`, with a body of type `B` -/
abbrev BuiltRequest (B : Type) := Request Configs (Option B)

/-- `Request::new` -/
def BuiltRequest.new {B : Type} (method : Method) (uri : Uri) : BuiltRequest B where
  method := method
  uri := uri
  version := .http11
  headers := .empty
  extensions := {}
  body := none

/-- `RequestBuilder`; its client is not read here. -/
structure RequestBuilder (B : Type) where
  request : Except BuildError (BuiltRequest B)

namespace RequestBuilder

variable {B : Type}

/-- `if let Ok(ref mut req) = self.request` -/
def edit (self : RequestBuilder B) (change : BuiltRequest B → BuiltRequest B) : RequestBuilder B :=
  { request := self.request.map change }

/-- `header_sensitive`, with what the conversions of the key and of the value return -/
def headerSensitive (self : RequestBuilder B) (key : Option HeaderName)
    (value : Option HeaderValue) (sensitive : Bool)
    : RequestBuilder B :=
  match self.request with
  | .error _ => self
  | .ok request =>
      match key, value with
      | none, _ => { request := .error .headerName }
      | some _, none => { request := .error .headerValue }
      | some key, some value =>
          let value := if sensitive then { value with sensitive := true } else value
          { request := .ok { request with headers := request.headers.append key value } }

/-- `header` -/
def header (self : RequestBuilder B) (key : Option HeaderName) (value : Option HeaderValue)
    : RequestBuilder B :=
  self.headerSensitive key value false

/-- `basic_auth` -/
def basicAuth (crates : BuilderCrates) (self : RequestBuilder B) (username : Str)
    (password : Option Str)
    : RequestBuilder B :=
  self.headerSensitive (some authorization)
    (some (basicAuthHeader crates.toCrates username password)) true

/-- `bearer_auth` -/
def bearerAuth (self : RequestBuilder B) (token : Str) : RequestBuilder B :=
  self.headerSensitive (some authorization) (HeaderValue.tryFrom (ascii "Bearer " ++ token)) true

/-- `RequestBuilder::new` -/
def new (crates : BuilderCrates) (request : Except BuildError (BuiltRequest B))
    : RequestBuilder B :=
  match request with
  | .error error => { request := .error error }
  | .ok request =>
      let builder :=
        { request := .ok { request with uri := (extractAuthority crates request.uri).1 } }
      match (extractAuthority crates request.uri).2 with
      | none => builder
      | some (username, password) => basicAuth crates builder username password

/-- `timeout` -/
def timeout (self : RequestBuilder B) (timeout : Nat) : RequestBuilder B :=
  self.edit (fun request =>
    { request with extensions := { request.extensions with totalTimeout := some timeout } })

/-- `redirect` -/
def redirect (self : RequestBuilder B) (policy : Redirect.Policy Unit) : RequestBuilder B :=
  self.edit (fun request =>
    { request with extensions := { request.extensions with redirect := some policy } })

/-- `orig_headers` -/
def origHeaders (self : RequestBuilder B) (headers : OrigHeaderMap) : RequestBuilder B :=
  self.edit (fun request =>
    { request with extensions := { request.extensions with origHeaders := some headers } })

/-- `body` -/
def body (self : RequestBuilder B) (body : B) : RequestBuilder B :=
  self.edit (fun request => { request with body := some body })

/-- `multipart`; `stream` makes the body of the form. -/
def multipart {ε : Type} (stream : Multipart.Form ε → B) (self : RequestBuilder B)
    (form : Multipart.Form ε)
    : RequestBuilder B :=
  match self.request with
  | .error _ => self
  | .ok request =>
      match HeaderValue.tryFrom (ascii "multipart/form-data; boundary=" ++ utf8 form.boundary) with
      | none => { request := .error .headerValue }
      | some contentType =>
          let headers := request.headers.orInsert "content-type" contentType
          let headers :=
            match form.computeLength with
            | none => headers
            | some length => headers.orInsert "content-length" { bytes := decimal length.toNat }
          { request := .ok { request with headers, body := some (stream form) } }

/-- `query`, with the pairs that the parameters are serialized as -/
def query (crates : BuilderCrates) (self : RequestBuilder B)
    (pairs : Except BuildError (List (Str × Str)))
    : RequestBuilder B :=
  match self.request, pairs with
  | .error _, _ => self
  | .ok _, .error error => { request := .error error }
  | .ok request, .ok pairs =>
      { request := .ok { request with uri := request.uri.setQuery crates (formUrlencoded pairs) } }

end RequestBuilder

end Tlsurl
