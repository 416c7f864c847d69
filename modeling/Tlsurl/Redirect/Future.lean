import Tlsurl.Redirect.Policy

/-! The future that follows redirections (`layer/redirect.rs`, `layer/redirect/future.rs`).
The inner service is the environment: a poll is told what polling the inner future yields,
and reports the request, if any, that it hands to the inner service.
-/

namespace Tlsurl.Redirect

variable {World : Type}

/-- A response as the inner service produces it; only this layer attaches a history. -/
structure Reply where
  status : StatusCode
  headers : HeaderMap
  deriving DecidableEq

/-- `http::Response` with the extensions that this layer writes. -/
structure Response where
  status : StatusCode
  headers : HeaderMap
  requestUri : Option Uri := none
  history : Option (List HistoryEntry) := none
  deriving DecidableEq

/-- A reply before any extension is written. -/
def Reply.toResponse (reply : Reply) : Response :=
  { status := reply.status, headers := reply.headers }

/-- `FollowRedirectPolicy::on_response` takes the history and attaches it. -/
def FollowRedirectPolicy.onResponse (self : FollowRedirectPolicy World) (response : Response)
    : Response × FollowRedirectPolicy World :=
  match self.history with
  | some history => ({ response with history := some history }, { self with history := none })
  | none => (response, self)

/-- `BodyRepr` -/
inductive BodyRepr where
  | some (body : Body)
  | empty
  | none
  deriving DecidableEq

/-- `BodyRepr::take` -/
def BodyRepr.take : BodyRepr → Option Body × BodyRepr
  | .some body => (Option.some body, .none)
  | .empty => (Option.some Body.empty, .empty)
  | .none => (Option.none, .none)

/-- `BodyRepr::try_clone_from` -/
def BodyRepr.tryCloneFrom (self : BodyRepr) (body : Body) : BodyRepr :=
  match self with
  | .none =>
      if body.exactSize = Option.some 0 then .some Body.empty
      else match body.tryClone with
        | Option.some cloned => .some cloned
        | Option.none => .none
  | kept => kept

/-- `Pending`: a redirect whose decision is still being awaited. -/
structure Pending (World : Type) where
  future : PendingFuture World
  location : Uri
  body : Body
  res : Response

/-- The request head that the future keeps across hops. -/
abbrev Head (World : Type) := Request (Extensions World) Unit

/-- `ResponseFuture`; the inner future itself belongs to the environment. -/
inductive ResponseFuture (World : Type) where
  | redirect (pendingFuture : Option (Pending World)) (policy : FollowRedirectPolicy World)
    (request : Head World) (bodyRepr : BodyRepr)
  | direct

/-- What one poll sees: the world, and what polling the inner future would yield (`none`
while it is pending).
-/
structure Context (World : Type) where
  world : World
  inner : Option (Except BoxError Reply)

/-- What one poll does: its result (`none` is `Poll::Pending`), the future after it, and the
request it hands to the inner service.
-/
structure Polled (World : Type) where
  result : Option (Except BoxError Response)
  next : ResponseFuture World
  sent : Option (Request (Extensions World) Body) := none

/-- `resolve_uri` -/
def resolveUri (parsers : Parsers) (relative : Str) (base : Uri) : Option Uri := do
  let url ← parsers.urlParse base.toStr
  let joined ← parsers.urlJoin url relative
  parsers.intoUri joined.asStr

/-- `drop_payload_headers` -/
def dropPayloadHeaders (headers : HeaderMap) : HeaderMap :=
  (((headers.remove "content-type").remove "content-length").remove "content-encoding").remove
    "transfer-encoding"

/-- `RedirectAction` without the service and the inner future. -/
structure RedirectAction (World : Type) where
  action : Action Empty
  policy : FollowRedirectPolicy World
  request : Head World
  body : Body
  bodyRepr : BodyRepr
  res : Response
  location : Uri

/-- `handle_action` -/
def handleAction (redirect : RedirectAction World) : Polled World :=
  match redirect.action with
  | .follow =>
      let request := { redirect.request with uri := redirect.location }
      let bodyRepr := redirect.bodyRepr.tryCloneFrom redirect.body
      let (policy, request) := redirect.policy.onRequest request
      { result := none
        next := .redirect none policy request bodyRepr
        sent := some (request.withBody redirect.body) }
  | .stop =>
      { result := some (.ok redirect.res)
        next := .redirect none redirect.policy redirect.request redirect.bodyRepr }
  | .error err =>
      { result := some (.error err)
        next := .redirect none redirect.policy redirect.request redirect.bodyRepr }
  | .pending future => future.elim

/-- The statuses on which a redirection is attempted. -/
def isRedirectStatus (status : StatusCode) : Bool :=
  status ∈ [301, 302, 303, 307, 308]

/-- How the status rewrites the request to follow and the body kept for it. -/
def rewrite (status : StatusCode) (request : Head World) (bodyRepr : BodyRepr)
    : Head World × BodyRepr :=
  if status = 301 ∨ status = 302 then
    if request.method = .post then
      ({ request with method := .get, headers := dropPayloadHeaders request.headers }, .empty)
    else (request, bodyRepr)
  else if status = 303 then
    let method := if request.method ≠ .head then .get else request.method
    ({ request with method, headers := dropPayloadHeaders request.headers }, .empty)
  else (request, bodyRepr)

/-- The part of `ResponseFuture::poll` from the inner response on. -/
def handleResponse (parsers : Parsers) (world : World) (res : Response)
    (policy : FollowRedirectPolicy World) (request : Head World) (bodyRepr : BodyRepr)
    : Polled World :=
  if !isRedirectStatus res.status then
    let (res, policy) := policy.onResponse res
    { result := some (.ok res), next := .redirect none policy request bodyRepr }
  else
    let (request, bodyRepr) := rewrite res.status request bodyRepr
    match bodyRepr.take with
    | (none, bodyRepr) =>
        { result := some (.ok res), next := .redirect none policy request bodyRepr }
    | (some body, bodyRepr) =>
        match ((res.headers.get "location").bind HeaderValue.toStr).bind
            (fun location => resolveUri parsers location request.uri) with
        | none => { result := some (.ok res), next := .redirect none policy request bodyRepr }
        | some location =>
            let attempt : LayerAttempt :=
              { status := res.status, headers := res.headers, location, previous := request.uri }
            match policy.redirect world attempt with
            | (.error err, policy) =>
                { result := some (.error err), next := .redirect none policy request bodyRepr }
            | (.ok action, policy) =>
                match action.settle with
                | .inl future =>
                    { result := none
                      next := .redirect (some { future, location, body, res }) policy request
                        bodyRepr }
                | .inr action =>
                    handleAction { action, policy, request, body, bodyRepr, res, location }

/-- `ResponseFuture::poll` -/
def ResponseFuture.poll (parsers : Parsers) (ctx : Context World)
    : ResponseFuture World → Polled World
  | .direct =>
      { result := ctx.inner.map (fun inner => inner.map Reply.toResponse), next := .direct }
  | .redirect (some state) policy request bodyRepr =>
      match state.future ctx.world with
      | none => { result := none, next := .redirect (some state) policy request bodyRepr }
      | some action =>
          handleAction
            { action, policy, request, body := state.body, bodyRepr, res := state.res
              location := state.location }
  | .redirect none policy request bodyRepr =>
      match ctx.inner with
      | none => { result := none, next := .redirect none policy request bodyRepr }
      | some (.error err) =>
          { result := some (.error err), next := .redirect none policy request bodyRepr }
      | some (.ok reply) =>
          handleResponse parsers ctx.world
            { reply.toResponse with requestUri := some request.uri } policy request bodyRepr

/-- `FollowRedirect::call`: the future, and the request it hands to the inner service. -/
def call (self : FollowRedirectPolicy World) (parsers : Parsers)
    (req : Request (Extensions World) Body)
    : ResponseFuture World × Request (Extensions World) Body :=
  let loaded := self.forRequest parsers req
  -- `load` takes the policy out of the request's extensions
  let req := { req with extensions := {} }
  match loaded.1 with
  | none => (.direct, req)
  | some policy =>
      let bodyRepr := BodyRepr.none.tryCloneFrom req.body
      let (policy, req) := policy.onRequest req
      (.redirect none policy (req.withBody ()) bodyRepr, req)

end Tlsurl.Redirect
