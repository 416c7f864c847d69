import Tlsurl.Http.Message
import Tlsurl.Redirect.Referrer

/-! Redirect policies and the handler that applies them (`redirect.rs`).
A closure may read state of its own; `World` stands for whatever it reads beyond its
argument, and an asynchronous decision is polled against the world of that poll.
-/

namespace Tlsurl

/-- The part of `error::Kind` that redirect handling produces. -/
inductive Kind where
  | builder
  | redirect
  deriving DecidableEq

/-- A boxed error: the marker errors, a wrapped `Error` with its URI, or any other one. -/
inductive BoxError where
  | tooManyRedirects
  | badScheme
  | error (kind : Kind) (source : BoxError) (uri : Uri)
  | other (text : Str)
  deriving DecidableEq

/-- `Error::redirect` -/
def BoxError.redirect (source : BoxError) (uri : Uri) : BoxError := .error .redirect source uri

/-- `Error::uri_bad_scheme` -/
def BoxError.uriBadScheme (uri : Uri) : BoxError := .error .builder .badScheme uri

namespace Redirect

/-- `redirect::Action` with pending futures of type `Future`. The attempt that an async
closure receives cannot make a pending action, so what its future yields is `Action Empty`.
-/
inductive Action (Future : Type) where
  | follow
  | stop
  | pending (future : Future)
  | error (err : BoxError)

/-- A pending action is its future; any other one is settled already. -/
def Action.settle {Future : Type} : Action Future → Future ⊕ Action Empty
  | .pending future => .inl future
  | .follow => .inr .follow
  | .stop => .inr .stop
  | .error err => .inr (.error err)

/-- A boxed future: what polling it yields, `none` while it is pending. -/
abbrev PendingFuture (World : Type) := World → Option (Action Empty)

/-- `redirect::Attempt`, the argument of a policy. -/
structure Attempt where
  status : StatusCode
  headers : HeaderMap
  uri : Uri
  previous : List Uri

/-- `PolicyKind` -/
inductive PolicyKind (World : Type) where
  | custom (closure : World → Attempt → Action (PendingFuture World))
  | limit (max : Nat)
  | none

/-- `redirect::Policy` -/
structure Policy (World : Type) where
  inner : PolicyKind World

/-- `HistoryEntry` -/
structure HistoryEntry where
  status : StatusCode
  uri : Uri
  previous : Uri
  headers : HeaderMap
  deriving DecidableEq

/-- `layer::redirect::Attempt`, the argument of the policy handler. -/
structure LayerAttempt where
  status : StatusCode
  headers : HeaderMap
  location : Uri
  previous : Uri

variable {World : Type}

namespace Policy

def isNone (policy : Policy World) : Bool :=
  match policy.inner with
  | .none => true
  | _ => false

/-- `Policy::redirect`; the first previous URI is the initial one and no redirection. -/
def redirect (policy : Policy World) (world : World) (attempt : Attempt)
    : Action (PendingFuture World) :=
  match policy.inner with
  | .custom closure => closure world attempt
  | .limit max => if attempt.previous.length > max then .error .tooManyRedirects else .follow
  | .none => .stop

/-- `Policy::check` -/
def check (policy : Policy World) (world : World) (status : StatusCode) (headers : HeaderMap)
    (next : Uri) (previous : List Uri)
    : Action (PendingFuture World) :=
  policy.redirect world { status, headers, uri := next, previous }

end Policy

/-- `FollowRedirectPolicy`. Every constructor sets a policy and loading one from a request
replaces it, so the handler never meets an empty slot.
-/
structure FollowRedirectPolicy (World : Type) where
  policy : RequestConfig (Policy World)
  referrer : Option Referrer
  uris : List Uri
  httpsOnly : Bool
  history : Option (List HistoryEntry)
  policySet : policy.value.isSome = true

/-- The extension of a request that the redirect layer reads. -/
structure Extensions (World : Type) where
  redirectPolicy : Option (RequestConfig (Policy World)) := none

/-- `same_origin` of `redirect.rs` -/
def sameOrigin (left right : Uri) : Bool :=
  let sameHost := match left.host, right.host with
    | some left, some right => eqIgnoreAsciiCase left right
    | Option.none, Option.none => true
    | _, _ => false
  sameHost && left.scheme == right.scheme && left.portOrDefault == right.portOrDefault

/-- `remove_sensitive_headers` for a request to `uri` -/
def removeSensitiveHeaders (uri : Uri) (headers : HeaderMap) (previous : List Uri) : HeaderMap :=
  match previous.getLast? with
  | Option.none => headers
  | some previous =>
      if !sameOrigin uri previous then
        ((((headers.remove "authorization").remove "cookie").remove "cookie2").remove
          "proxy-authorization").remove "www-authenticate"
      else headers

namespace FollowRedirectPolicy

/-- `FollowRedirectPolicy::new` -/
def new (policy : Policy World) : FollowRedirectPolicy World where
  policy := ⟨some policy⟩
  referrer := none
  uris := []
  httpsOnly := false
  history := none
  policySet := rfl

/-- `FollowRedirectPolicy::with_referer` -/
def withReferer (self : FollowRedirectPolicy World) (referer : Bool)
    : FollowRedirectPolicy World :=
  { self with referrer := if referer then some Referrer.default else none }

/-- `FollowRedirectPolicy::with_https_only` -/
def withHttpsOnly (self : FollowRedirectPolicy World) (httpsOnly : Bool)
    : FollowRedirectPolicy World :=
  { self with httpsOnly }

/-- The policy in force. -/
def currentPolicy (self : FollowRedirectPolicy World) : Policy World :=
  self.policy.value.get self.policySet

/-- The first statements of `FollowRedirectPolicy::redirect`: the handler remembers the URI
that redirects and the referrer policy of the response.
-/
def visit (self : FollowRedirectPolicy World) (attempt : LayerAttempt)
    : FollowRedirectPolicy World :=
  { self with
    uris := self.uris ++ [attempt.previous]
    referrer := self.referrer.map
      (fun referrer : Referrer => referrer.onRedirect attempt.headers) }

/-- The rest of `FollowRedirectPolicy::redirect`: what becomes of the policy's action. -/
def permit (self : FollowRedirectPolicy World) (attempt : LayerAttempt)
    (action : Action (PendingFuture World))
    : Except BoxError (Action (PendingFuture World)) × FollowRedirectPolicy World :=
  match action with
  | .error err => (.error (.redirect err attempt.previous), self)
  | .follow =>
      if !(attempt.location.isHttp || attempt.location.isHttps) then
        (.error (.uriBadScheme attempt.location), self)
      else if self.httpsOnly && !attempt.location.isHttps then
        (.error (.redirect (.uriBadScheme attempt.location) attempt.location), self)
      else if !self.currentPolicy.isNone then
        let entry : HistoryEntry :=
          { status := attempt.status
            uri := attempt.location
            previous := attempt.previous
            headers := attempt.headers }
        (.ok .follow, { self with history := some (self.history.getD [] ++ [entry]) })
      else (.ok .follow, self)
  | .stop => (.ok .stop, self)
  | .pending future => (.ok (.pending future), self)

/-- `FollowRedirectPolicy::redirect`. The handler's own state changes also when it fails. -/
def redirect (self : FollowRedirectPolicy World) (world : World) (attempt : LayerAttempt)
    : Except BoxError (Action (PendingFuture World)) × FollowRedirectPolicy World :=
  let self := self.visit attempt
  self.permit attempt
    (self.currentPolicy.check world attempt.status attempt.headers attempt.location self.uris)

/-- The first half of `FollowRedirectPolicy::for_request`: the request's own policy, if it
has one, replaces the one of the handler.
-/
def load (self : FollowRedirectPolicy World) (extensions : Extensions World)
    : FollowRedirectPolicy World :=
  { self with
    policy := self.policy.load extensions.redirectPolicy
    policySet := by
      unfold RequestConfig.load
      split
      · rfl
      · exact self.policySet }

/-- `FollowRedirectPolicy::for_request`: the handler of one request, unless its policy is
`none`, and the handler that stays with the service.
-/
def forRequest {B : Type} (self : FollowRedirectPolicy World) (parsers : Parsers)
    (request : Request (Extensions World) B)
    : Option (FollowRedirectPolicy World) × FollowRedirectPolicy World :=
  let self := self.load request.extensions
  if self.currentPolicy.isNone then (none, self)
  else
    (some { self with
      referrer := self.referrer.map (fun _ => Referrer.new parsers request.headers) }, self)

/-- `FollowRedirectPolicy::on_request` -/
def onRequest {B : Type} (self : FollowRedirectPolicy World)
    (request : Request (Extensions World) B)
    : FollowRedirectPolicy World × Request (Extensions World) B :=
  let headers := removeSensitiveHeaders request.uri request.headers self.uris
  match self.uris, self.referrer with
  | _ :: _, some referrer =>
      let (referrer, headers) := referrer.apply headers request.uri
      ({ self with referrer := some referrer }, { request with headers })
  | _, _ => (self, { request with headers })

end FollowRedirectPolicy

end Redirect

end Tlsurl
