import Tlsurl.Http.HeaderMap
import Tlsurl.Http.Uri

/-! Requests as the middleware layers hand them on: method, target, headers, the typed
extensions a layer reads, and a body that may or may not be replayed.
-/

namespace Tlsurl

/-- `http::Method` -/
inductive Method where
  | options | get | post | put | delete | head | trace | connect | patch
  | extension (name : Str)
  deriving DecidableEq

/-- `http::Version` -/
inductive Version where
  | http09 | http10 | http11 | http2 | http3
  deriving DecidableEq

/-- `http::StatusCode` -/
abbrev StatusCode := Nat

/-- `client::body::Body`: a buffered chunk, or a boxed stream of `data` with its declared
exact size.
-/
inductive Body where
  | reusable (chunk : Str)
  | boxed (data : Str) (exact : Option Nat)
  deriving DecidableEq

namespace Body

/-- `Body::empty` and `Body::default` -/
def empty : Body := .reusable []

/-- `size_hint().exact()` -/
def exactSize : Body → Option Nat
  | .reusable chunk => some chunk.length
  | .boxed _ exact => exact

/-- `Body::try_clone`: a stream cannot be cloned. -/
def tryClone : Body → Option Body
  | .reusable chunk => some (.reusable chunk)
  | .boxed _ _ => none

end Body

/-- `http::Request` with extensions of type `Ext` and a body of type `B`. -/
structure Request (Ext B : Type*) where
  method : Method
  uri : Uri
  version : Version
  headers : HeaderMap
  extensions : Ext
  body : B

/-- `Request::map`: another body on the same head. -/
def Request.withBody {Ext B C : Type*} (request : Request Ext B) (body : C) : Request Ext C where
  method := request.method
  uri := request.uri
  version := request.version
  headers := request.headers
  extensions := request.extensions
  body := body

/-- `config::RequestConfig`: an optional request-scoped value. -/
structure RequestConfig (α : Type*) where
  value : Option α

/-- `RequestConfig::load`: a value found in the request's extensions replaces the own one.
`found` is the extension slot, which the call empties.
-/
def RequestConfig.load {α : Type*} (config : RequestConfig α) (found : Option (RequestConfig α))
    : RequestConfig α :=
  match found.bind RequestConfig.value with
  | some value => ⟨some value⟩
  | none => config

/-- `RequestConfig::fetch`: the value of the request's extensions, or else the own one. -/
def RequestConfig.fetch {α : Type*} (config : RequestConfig α) (found : Option (RequestConfig α))
    : Option α :=
  (found.bind RequestConfig.value).or config.value

/-- `RequestConfig::take`: what is found in the request's extensions, with or without a value, goes
before the own value. The call empties the slot.
-/
def RequestConfig.take {α : Type*} (config : RequestConfig α) (found : Option (RequestConfig α))
    : Option α :=
  (found.getD config).value

end Tlsurl
