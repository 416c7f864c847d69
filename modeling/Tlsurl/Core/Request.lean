import Tlsurl.Core.Stream
import Tlsurl.Http.Url
import Tlsurl.Request.Builder

/-! How `Client::stream_with_options` of `tlsurl-core/lib.rs` builds the request that it sends.
Files, MIME types and the parsers of URLs are those of `Surroundings`.
-/

namespace Tlsurl.Core

-----------------------------------------------------------------------------------------
-- Data
-----------------------------------------------------------------------------------------

/-- `MultipartPart` -/
structure MultipartPart where
  name : String
  offset : Nat := 0
  length : Nat := 0
  file : Option String := none
  filename : Option String := none
  contentType : Option String := none

/-- `RequestOptions` -/
structure RequestOptions where
  bodyFile : Option String := none
  params : List (Str × Str) := []
  timeoutMs : Option UInt32 := none
  maxRedirects : Option UInt32 := none
  basicAuth : Option (Str × Str) := none
  bearerToken : Option Str := none
  multipart : Option (List MultipartPart) := none

/-- What a request sends: bytes, so much of a file, or a form -/
inductive Payload where
  | bytes (bytes : Bytes)
  | file (path : String) (length : Nat)
  | form (form : Multipart.Form Error)

/-- What is around a client -/
structure Surroundings where
  crates : BuilderCrates
  parsers : Parsers
  /-- `Method::from_bytes`, with the text of its error -/
  method : Str → Except String Method
  /-- Whether a path is that of a regular file, and its length; `none` if it cannot be opened -/
  inspect : String → Option (Bool × UInt64)
  /-- `Path::file_name` as text -/
  fileName : String → Option String
  /-- `Mime::from_str` -/
  mime : String → Option Multipart.Mime
  /-- What a file yields when it is read -/
  read : String → Multipart.Items Error
  /-- `gen_boundary` -/
  boundary : String
  /-- `From<wreq::Error>` -/
  convert : BuildError → Error

/-- An invalid request -/
def invalidRequest (message : String) : Error where
  code := "INVALID_REQUEST"
  message := message

-----------------------------------------------------------------------------------------
-- Parts of the request
-----------------------------------------------------------------------------------------

/-- `positive_ms` -/
def positiveMs (value : UInt32) : Except Error Nat :=
  if value = 0 then .error { code := "INVALID_CONFIG", message := "timeout must be positive" }
  else .ok value.toNat

/-- `redirect_policy` -/
def redirectPolicy (limit : UInt32) : Redirect.Policy Unit :=
  if limit = 0 then { inner := .none } else { inner := .limit limit.toNat }

/-- `http_url` -/
def httpUrl (parsers : Parsers) (value : Str) : Except Error Url :=
  match parsers.urlParse value with
  | none => .error (invalidRequest "invalid absolute URL")
  | some url =>
      if url.scheme = ascii "http" ∨ url.scheme = ascii "https" then .ok url
      else .error (invalidRequest "only http and https URLs are supported")

/-- `url.query_pairs_mut().extend_pairs(params)`, unless there are no params -/
def extendPairs (url : Url) (params : List (Str × Str)) : Url :=
  if params.isEmpty then url
  else
    match url.query with
    | none => { url with query := some (formUrlencoded params) }
    | some query =>
        if query.isEmpty then { url with query := some (formUrlencoded params) }
        else { url with query := some (query ++ ascii "&" ++ formUrlencoded params) }

/-- Whether a header is named so, in any case -/
def isNamed (name : String) (header : Str × Bytes) : Bool :=
  eqIgnoreAsciiCase header.1 (ascii name)

/-- The checks of the credentials -/
def checkCredentials (options : RequestOptions) (headers : List (Str × Bytes))
    : Except Error Unit :=
  if options.basicAuth.isSome && options.bearerToken.isSome then
    .error (invalidRequest "basic_auth and bearer_token are mutually exclusive")
  else if (options.basicAuth.isSome || options.bearerToken.isSome)
      && headers.any (isNamed "authorization") then
    .error
      (invalidRequest "explicit Authorization header conflicts with authentication options")
  else .ok ()

/-- The limits of a request -/
def configure (options : RequestOptions) (request : RequestBuilder Payload)
    : Except Error (RequestBuilder Payload) := do
  let request ←
    match options.timeoutMs with
    | none => pure request
    | some timeout => do
        let timeout ← positiveMs timeout
        pure (request.timeout timeout)
  match options.maxRedirects with
  | none => pure request
  | some limit => pure (request.redirect (redirectPolicy limit))

/-- The credentials of the options -/
def authenticate (crates : BuilderCrates) (options : RequestOptions)
    (request : RequestBuilder Payload)
    : RequestBuilder Payload :=
  let request :=
    match options.basicAuth with
    | none => request
    | some (user, password) => request.basicAuth crates user (some password)
  match options.bearerToken with
  | none => request
  | some token => request.bearerAuth token

/-- The checks of what is uploaded -/
def checkUpload (options : RequestOptions) (headers : List (Str × Bytes)) (body : Option Bytes)
    : Except Error Unit :=
  if options.bodyFile.isSome && (body.isSome || options.multipart.isSome) then
    .error (invalidRequest "body_file conflicts with another request body")
  else
    let hasFiles :=
      options.bodyFile.isSome
        || options.multipart.any (fun parts => parts.any (fun part => part.file.isSome))
    if hasFiles && headers.any (fun header =>
        isNamed "content-length" header || isNamed "transfer-encoding" header) then
      .error (invalidRequest "file upload framing is managed by the client")
    else .ok ()

/-- `request.header(name, value)` -/
def addHeader (request : RequestBuilder Payload) (header : Str × Bytes) : RequestBuilder Payload :=
  request.header (HeaderName.fromBytes header.1) (HeaderValue.tryFrom header.2)

/-- The headers, with their spellings -/
def addHeaders (headers : List (Str × Bytes)) (request : RequestBuilder Payload)
    : RequestBuilder Payload :=
  let original :=
    headers.foldl (fun original header => (original.insert (.cased header.1)).2) OrigHeaderMap.new
  let request := headers.foldl addHeader request
  if !headers.isEmpty then request.origHeaders original else request

/-- `upload::file_body`, of which only the length matters here -/
def fileBody (around : Surroundings) (path : String) : Except Error UInt64 :=
  match around.inspect path with
  | none => .error { code := "FILE_IO", message := "cannot open or inspect upload file" }
  | some (isFile, length) =>
      if isFile then .ok length
      else .error (invalidRequest "upload source must be a regular file")

/-- The value of a part -/
def partValue (around : Surroundings) (data : Bytes) (descriptor : MultipartPart)
    : Except Error (Multipart.Part Error) :=
  match descriptor.file with
  | some path =>
      if descriptor.offset ≠ 0 ∨ descriptor.length ≠ 0 then
        .error (invalidRequest "multipart file cannot include a byte range")
      else do
        let length ← fileBody around path
        pure { metadata := .new, value := around.read path, bodyLength := some length }
  | none =>
      if descriptor.offset + descriptor.length ≤ data.length then
        let bytes := (data.drop descriptor.offset).take descriptor.length
        .ok
          { metadata := .new
            value := [.ok bytes]
            contentLength := some (Multipart.lenU64 bytes) }
      else .error (invalidRequest "invalid multipart byte range")

/-- A part with its file name and its type -/
def formPart (around : Surroundings) (data : Bytes) (descriptor : MultipartPart)
    : Except Error (String × Multipart.Part Error) := do
  let filename := descriptor.filename.or (descriptor.file.bind around.fileName)
  let part ← partValue around data descriptor
  let part := { part with metadata := { part.metadata with fileName := filename } }
  match descriptor.contentType with
  | none => pure (descriptor.name, part)
  | some contentType =>
      match around.mime contentType with
      | none => .error (around.convert .mime)
      | some mime =>
          pure (descriptor.name, { part with metadata := { part.metadata with mime := some mime } })

/-- The body of the request -/
def addBody (around : Surroundings) (options : RequestOptions) (body : Option Bytes)
    (request : RequestBuilder Payload)
    : Except Error (RequestBuilder Payload) :=
  match options.multipart with
  | some parts => do
      let fields ← parts.mapM (formPart around (body.getD []))
      pure (request.multipart .form { boundary := around.boundary, fields })
  | none =>
      match options.bodyFile with
      | some path => do
          let length ← fileBody around path
          let request :=
            request.header (some "content-length") (some { bytes := decimal length.toNat })
          pure (request.body (.file path length.toNat))
      | none =>
          match body with
          | some body => pure (request.body (.bytes body))
          | none => pure request

-----------------------------------------------------------------------------------------
-- The request
-----------------------------------------------------------------------------------------

/-- `self.inner.request(method, url)` -/
def newRequest (around : Surroundings) (method : Method) (url : Url) : RequestBuilder Payload :=
  RequestBuilder.new around.crates
    (match around.parsers.intoUri url.asStr with
    | none => .error .uri
    | some uri => .ok (.new method uri))

/-- `Client::stream_with_options`, up to the request that `send` is called on -/
def streamWithOptions (around : Surroundings) (method url : Str) (headers : List (Str × Bytes))
    (body : Option Bytes) (options : RequestOptions)
    : Except Error (BuiltRequest Payload) := do
  let method ← (around.method method).mapError invalidRequest
  let url ← httpUrl around.parsers url
  let url := extendPairs url options.params
  checkCredentials options headers
  let request ← configure options (newRequest around method url)
  let request := authenticate around.crates options request
  checkUpload options headers body
  let request := addHeaders headers request
  let request ← addBody around options body request
  request.request.mapError around.convert

end Tlsurl.Core
