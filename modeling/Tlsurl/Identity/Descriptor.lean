import Tlsurl.Identity.Group

/-! Requests as a `RequestBuilder` makes them, as far as their connection depends on them, and the
descriptor of that connection (`client/request.rs`, `client/emulate.rs`, `layer/config.rs`,
`layer/client.rs` and `conn/descriptor.rs`).
Proxy matchers and TLS options are of any type.
-/

namespace Tlsurl.Identity

open Library

variable {M T : Type}

-----------------------------------------------------------------------------------------
-- Options of a request
-----------------------------------------------------------------------------------------

/-- `Emulation`; of the options only those of TLS matter for a connection. -/
structure Emulation (M T : Type) where
  group : Group M
  tlsOptions : Option T

/-- `EmulationBuilder::build` -/
def Emulation.build (tlsOptions : Option T) (group : Group M) : Emulation M T where
  group := Group.default.emulate group
  tlsOptions := tlsOptions

/-- `RequestOptions` without those for HTTP/1 and HTTP/2 -/
structure RequestOptions (M T : Type) where
  group : Group M := .default
  proxy : Option M := none
  version : Option Version := none
  tlsOptions : Option T := none
  socketBindOptions : Option SocketBindOptions := none

/-- What a request says about its connection; `version` is the one of the `http::Request` inside. -/
structure BuiltRequest (M T : Type) where
  uri : Uri
  isConnect : Bool
  version : Version := .http11
  options : Option (RequestOptions M T) := none

/-- A call on a `RequestBuilder` that has a say in the connection. -/
inductive BuilderCall (M T : Type) where
  | group (group : Group M)
  | emulation (emulation : Emulation M T)
  | proxy (matcher : M)
  | localAddress (address : Option IpAddr)
  | localAddresses (ipv4Address : Option (BitVec 32)) (ipv6Address : Option (BitVec 128))
  | interface (interface : String)
  | version (version : Version)

namespace BuiltRequest

/-- `config_mut::<RequestOptions>().get_or_insert_default()` -/
def withOptions (request : BuiltRequest M T) (change : RequestOptions M T → RequestOptions M T)
    : BuiltRequest M T :=
  { request with options := some (change (request.options.getD {})) }

/-- The same with `socket_bind_options.get_or_insert_default()` -/
def withSocketBind (request : BuiltRequest M T)
    (change : SocketBindOptions → SocketBindOptions)
    : BuiltRequest M T :=
  request.withOptions (fun opts =>
    { opts with socketBindOptions := some (change (opts.socketBindOptions.getD {})) })

/-- `RequestBuilder::version`, whose `version_mut` is the one of the options, too -/
def setVersion (request : BuiltRequest M T) (version : Version) : BuiltRequest M T :=
  request.withOptions (fun opts => { opts with version := some version })

/-- `RequestBuilder::proxy` -/
def setProxy (request : BuiltRequest M T) (matcher : M) : BuiltRequest M T :=
  request.withOptions (fun opts => { opts with proxy := some matcher })

/-- `RequestBuilder::local_address` -/
def localAddress (request : BuiltRequest M T) (address : Option IpAddr) : BuiltRequest M T :=
  request.withSocketBind (fun bind => bind.setLocalAddress address)

/-- `RequestBuilder::local_addresses` -/
def localAddresses (request : BuiltRequest M T) (ipv4Address : Option (BitVec 32))
    (ipv6Address : Option (BitVec 128))
    : BuiltRequest M T :=
  request.withSocketBind (fun bind => bind.setLocalAddresses ipv4Address ipv6Address)

/-- `RequestBuilder::interface` -/
def interface (request : BuiltRequest M T) (interface : String) : BuiltRequest M T :=
  request.withSocketBind (fun bind => bind.setInterface interface)

/-- `RequestBuilder::emulation` -/
def emulation (request : BuiltRequest M T) (emulation : Emulation M T) : BuiltRequest M T :=
  request.withOptions (fun opts =>
    { opts with group := opts.group.emulate emulation.group, tlsOptions := emulation.tlsOptions })

/-- `RequestBuilder::group` -/
def group (request : BuiltRequest M T) (group : Group M) : BuiltRequest M T :=
  request.withOptions (fun opts => { opts with group := opts.group.request group })

/-- One call -/
def call (request : BuiltRequest M T) : BuilderCall M T → BuiltRequest M T
  | .group group => request.group group
  | .emulation emulation => request.emulation emulation
  | .proxy matcher => request.setProxy matcher
  | .localAddress address => request.localAddress address
  | .localAddresses ipv4Address ipv6Address => request.localAddresses ipv4Address ipv6Address
  | .interface interface => request.interface interface
  | .version version => request.setVersion version

/-- A request for the URI, after calls on its builder. It is one for HTTP/1.1, unless the caller
has converted an `http::Request` of another version.
-/
def ofCalls (uri : Uri) (isConnect : Bool) (version : Version) (calls : List (BuilderCall M T))
    : BuiltRequest M T :=
  calls.foldl call { uri, isConnect, version }

end BuiltRequest

-----------------------------------------------------------------------------------------
-- The descriptor of a connection
-----------------------------------------------------------------------------------------

/-- `ConnectionId`; `hash` is the cached one, and zero before it is computed. -/
structure ConnectionId (M : Type) where
  group : Group M
  hash : UInt64 := 0

/-- `PartialEq for ConnectionId`, where `same` compares matchers -/
def ConnectionId.eq [Hash Uri] (same : M → M → Bool) (left right : ConnectionId M) : Bool :=
  left.group.eq same right.group

/-- What stands for an id and all ids that are equal to it -/
def ConnectionId.key (self : ConnectionId M) : Group M := self.group.lower

/-- `ConnectionDescriptor` -/
structure ConnectionDescriptor (M T : Type) where
  uri : Uri
  version : Option Version
  proxy : Option M
  tlsOptions : Option T
  socketBind : Option SocketBindOptions
  connectionId : ConnectionId M

/-- `ConnectionDescriptor::new` -/
def ConnectionDescriptor.new (uri : Uri) (group : Group M) (proxy : Option M)
    (version : Option Version) (tlsOptions : Option T) (socketBind : Option SocketBindOptions)
    : ConnectionDescriptor M T where
  uri := uri
  version := version
  proxy := proxy
  tlsOptions := tlsOptions
  socketBind := socketBind
  connectionId :=
    { group := (((group.uri uri).version version).proxy proxy).socketBind socketBind }

/-- `ConnectionDescriptor::id` -/
def ConnectionDescriptor.id (self : ConnectionDescriptor M T) : ConnectionId M :=
  self.connectionId

/-- `build_base_uri` -/
def buildBaseUri (scheme : Scheme) (authority : Authority) : Uri where
  scheme := some scheme
  authority := some authority
  path := ascii "/"

/-- `normalize_uri` -/
def normalizeUri (uri : Uri) (isHttpConnect : Bool) : Option Uri :=
  match uri.scheme, uri.authority with
  | some scheme, some auth => some (buildBaseUri scheme auth)
  | none, some auth =>
      if isHttpConnect then
        some (buildBaseUri (if auth.port = some 443 then .https else .http) auth)
      else none
  | _, _ => none

/-- The kinds of errors with which `HttpClient::request` refuses a request. -/
inductive UserError where
  | unsupportedRequestMethod
  | unsupportedVersion
  | absoluteUriRequired
  deriving DecidableEq

/-- The part of `HttpClient::request` that makes the descriptor. -/
def HttpClient.descriptor (request : BuiltRequest M T)
    : Except UserError (ConnectionDescriptor M T) :=
  let described : Except UserError (ConnectionDescriptor M T) :=
    match normalizeUri request.uri request.isConnect with
    | none => .error .absoluteUriRequired
    | some uri =>
        let opts := request.options.getD {}
        .ok (.new uri opts.group opts.proxy opts.version opts.tlsOptions opts.socketBindOptions)
  match request.version with
  | .http10 => if request.isConnect then .error .unsupportedRequestMethod else described
  | .http11 => described
  | .http2 => described
  | _ => .error .unsupportedVersion

end Tlsurl.Identity
