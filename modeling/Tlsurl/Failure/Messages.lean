import Tlsurl.Failure.Report
import Tlsurl.Redirect.Limit
import Tlsurl.Redirect.SchemeSafety
import Tlsurl.Timeout.Body

/-! Which URIs the message of a failed request names.
A URI may hold credentials and tokens, so the core takes the URI of an error off before it makes
a message of it; what remains are the URIs of the errors behind.
-/

namespace Tlsurl.Failure

open Library Redirect

variable {World : Type}

-----------------------------------------------------------------------------------------
-- The errors of a request
-----------------------------------------------------------------------------------------

/-- A `layer::client::Error`, the error of the service that sends a request -/
structure ServiceError where
  kind : ErrorKind
  source : Option Cause := none

/-- A `layer::client::Error`, boxed -/
def ServiceError.box (self : ServiceError) : Cause :=
  match self.source with
  | some source => .client self.kind source
  | none => .clientAlone self.kind

/-- The error of the redirect layer; `sent` tells what the errors of the service are. -/
def redirectCause (sent : Str → ServiceError) : BoxError → Cause
  | .tooManyRedirects => .tooManyRedirects
  | .badScheme => .badScheme
  | .error .builder source uri => .error .builder (redirectCause sent source) (some uri)
  | .error .redirect source uri => .error .redirect (redirectCause sent source) (some uri)
  | .other text => (sent text).box

/-- The error of a body under timeouts; a connection makes those of the body itself. -/
def bodyCause : Timeout.Error (Bool × String) → Cause
  | .requestTimedOut => (Error.request .timedOut).box
  | .bodyTimedOut => .error .body .timedOut none
  | .decode source => .error .decode (bodyCause source) none
  | .inner (late, text) => .foreign late text

/-- The service fails with errors of its own. -/
def Serves (ctx : Context World) : Prop :=
  ∀ err, ctx.inner = some (.error err) → ∃ text, err = .other text

/-- The ways in which a request of a client fails: its URI is refused; an exchange with redirects
fails, that of the last attempt if there are retries; it takes too long; or its body fails. A
request follows redirects up to some limit or none.
-/
inductive RequestFails (parsers : Parsers) (policy : Policy World) (referer httpsOnly : Bool)
    (sent : Str → ServiceError)
    : Cause → Prop
  | refused (uri : Uri)
    : RequestFails parsers policy referer httpsOnly sent
        (redirectCause sent (.uriBadScheme uri))
  | exchange {req : Request (Extensions World) Body} {polls : List (Context World)}
    {exchange : Exchange World} {err : BoxError}
    (limits
      : ((layer policy referer httpsOnly).load req.extensions).currentPolicy.isNone = true
        ∨ ∃ max, ((layer policy referer httpsOnly).load req.extensions).currentPolicy
          = .limited max)
    (run
      : Run (Guarded (fun _ ctx => Serves ctx) (Exchange.Step parsers))
          (.start (layer policy referer httpsOnly) parsers req) polls exchange)
    (failed : exchange.output = some (.error err))
    : RequestFails parsers policy referer httpsOnly sent (redirectCause sent err)
  | timeout : RequestFails parsers policy referer httpsOnly sent (Error.request .timedOut).box
  | body (err : Timeout.Error (Bool × String))
    : RequestFails parsers policy referer httpsOnly sent (bodyCause err)

/-- An exchange of a client that takes `https` only is answered with a redirect to the location,
which is one of `http`, and fails because it does not follow there.
-/
structure Refuses (parsers : Parsers) (policy : Policy World) (referer httpsOnly : Bool)
    (location : Uri)
    : Prop where
  only : httpsOnly = true
  plain : location.isHttp = true
  redirected
    : ∃ req polls exchange ctx attempt,
      Run (Guarded (fun _ ctx => Serves ctx) (Exchange.Step parsers))
        (.start (layer policy referer httpsOnly) parsers req) polls exchange
      ∧ exchange.future.asks parsers ctx = some attempt ∧ attempt.uri = location
      ∧ (exchange.poll parsers ctx).output
        = some (.error (.redirect (.uriBadScheme location) location))

-----------------------------------------------------------------------------------------
-- The errors of the redirect layer
-----------------------------------------------------------------------------------------

/-- An error of the redirect layer that passes an error of the service on, that names the URI it
is about on the outside only, or that names a location that is refused
-/
inductive LayerError (refusal : Uri → Prop) : BoxError → Prop
  | service (text : Str) : LayerError refusal (.other text)
  | tooMany (uri : Uri) : LayerError refusal (.redirect .tooManyRedirects uri)
  | badScheme (uri : Uri) : LayerError refusal (.uriBadScheme uri)
  | insecure {location : Uri} (refused : refusal location)
    : LayerError refusal (.redirect (.uriBadScheme location) location)

/-- What refuses a location of `http` under `https_only`. -/
def Insecure (httpsOnly : Bool) (found : Option Uri) (location : Uri) : Prop :=
  httpsOnly = true ∧ location.isHttp = true ∧ found = some location

/-- What a handler with a limit refuses a location with -/
theorem redirect_error {self : FollowRedirectPolicy World} {world : World}
    {attempt : LayerAttempt} {err : BoxError} {max : Nat}
    (limited : self.currentPolicy = .limited max)
    (refused : (self.redirect world attempt).1 = .error err)
    : LayerError (Insecure self.httpsOnly (some attempt.location)) err := by
  have same : (self.visit attempt).currentPolicy = .limited max := limited
  have only : (self.visit attempt).httpsOnly = self.httpsOnly := rfl
  simp only [FollowRedirectPolicy.redirect, same, Policy.check, Policy.redirect,
    Policy.limited] at refused
  split at refused
  · obtain rfl := Except.error.inj refused
    exact .tooMany _
  · simp only [FollowRedirectPolicy.permit, only] at refused
    split at refused
    · obtain rfl := Except.error.inj refused
      exact .badScheme _
    · next scheme =>
        split at refused
        · next insecure =>
            obtain rfl := Except.error.inj refused
            simp only [Bool.and_eq_true, Bool.not_eq_true'] at insecure
            refine .insecure ⟨insecure.1, ?_, rfl⟩
            simpa [insecure.2] using scheme
        · split at refused <;> cases refused

/-- The location that a poll puts to the policy -/
def askedLocation (parsers : Parsers) (ctx : Context World) (future : ResponseFuture World)
    : Option Uri :=
  (future.asks parsers ctx).map Attempt.uri

/-- It is the one that the reply redirects to. -/
theorem askedLocation_eq {parsers : Parsers} {ctx : Context World} {reply : Reply}
    (inner : ctx.inner = some (.ok reply)) {policy : FollowRedirectPolicy World}
    {request rewritten : Head World} {bodyRepr kept : BodyRepr} {body : Body} {location : Uri}
    (redirects : isRedirectStatus (reply.received request).status = true)
    (rewrites : rewrite (reply.received request).status request bodyRepr = (rewritten, kept))
    (taken : kept.take.1 = some body)
    (found
      : (((reply.received request).headers.get "location").bind HeaderValue.toStr).bind
          (fun location => resolveUri parsers location rewritten.uri)
        = some location)
    : askedLocation parsers ctx (.redirect none policy request bodyRepr) = some location := by
  have status : (reply.received request).status = reply.status := rfl
  have headers : (reply.received request).headers = reply.headers := rfl
  rw [status] at redirects rewrites
  rw [headers] at found
  simp only [askedLocation, ResponseFuture.asks, inner, redirects, if_true, rewrites, taken]
  rw [found]
  rfl

/-- A reply leads to an error only where the handler answers with one. -/
theorem handleResponse_error {parsers : Parsers} {ctx : Context World} {reply : Reply}
    (inner : ctx.inner = some (.ok reply)) {policy : FollowRedirectPolicy World}
    {request : Head World} {bodyRepr : BodyRepr} {err : BoxError} {max : Nat}
    (limited : policy.currentPolicy = .limited max)
    (failed
      : (handleResponse parsers ctx.world (reply.received request) policy request bodyRepr).result
        = some (.error err))
    : LayerError
        (Insecure policy.httpsOnly
          (askedLocation parsers ctx (.redirect none policy request bodyRepr)))
        err := by
  unfold handleResponse at failed
  split at failed
  · cases failed
  · next redirects =>
      cases head : rewrite (reply.received request).status request bodyRepr with
      | mk rewritten kept =>
          simp only [head] at failed
          split at failed
          · cases failed
          · next body left taken =>
              split at failed
              · cases failed
              · next location found =>
                  split at failed
                  · next decision =>
                      obtain rfl := Except.error.inj (Option.some.inj failed)
                      rw [askedLocation_eq inner (by simpa using redirects) head
                        (congrArg Prod.fst taken) found]
                      exact redirect_error limited (congrArg Prod.fst decision)
                  · next action decided decision =>
                      rw [(Exchange.redirect_limited limited decision).1] at failed
                      cases failed

/-- A poll fails with an error of the layer. -/
theorem poll_error {parsers : Parsers} {ctx : Context World} (serves : Serves ctx)
    {policy : FollowRedirectPolicy World} {request : Head World} {bodyRepr : BodyRepr}
    {err : BoxError} {max : Nat} (limited : policy.currentPolicy = .limited max)
    (failed
      : ((ResponseFuture.redirect none policy request bodyRepr).poll parsers ctx).result
        = some (.error err))
    : LayerError
        (Insecure policy.httpsOnly
          (askedLocation parsers ctx (.redirect none policy request bodyRepr)))
        err := by
  simp only [ResponseFuture.poll] at failed
  split at failed
  · cases failed
  · next inner =>
      obtain rfl := Except.error.inj (Option.some.inj failed)
      obtain ⟨text, rfl⟩ := serves _ inner
      exact .service text
  · next reply inner => exact handleResponse_error inner limited failed

/-- An exchange that fails does so with an error of the layer. -/
def FailsSafely (refusal : Uri → Prop) (exchange : Exchange World) : Prop :=
  ∀ err, exchange.output = some (.error err) → LayerError refusal err

variable {parsers : Parsers} {policy : Policy World} {referer httpsOnly : Bool}
variable {req : Request (Extensions World) Body} {polls : List (Context World)}
variable {exchange : Exchange World}

/-- A future that does not redirect stays so, and passes the errors of the service on. -/
theorem direct_failsSafely
    (none : ((layer policy referer httpsOnly).load req.extensions).currentPolicy.isNone = true)
    (run
      : Run (Guarded (fun _ ctx => Serves ctx) (Exchange.Step parsers))
          (.start (layer policy referer httpsOnly) parsers req) polls exchange)
    : exchange.future = .direct
      ∧ FailsSafely (Refuses parsers policy referer httpsOnly) exchange := by
  apply run.invariant
  · rintro past before ctx after _ ⟨direct, -⟩ ⟨serves, -, rfl⟩
    have polled : before.future.poll parsers ctx
        = { result := ctx.inner.map (fun inner => inner.map Reply.toResponse)
            next := .direct } := by
      rw [direct]
      rfl
    refine ⟨by simp [Exchange.poll, polled], ?_⟩
    intro err output
    simp only [Exchange.poll, polled, Option.map_eq_some_iff] at output
    obtain ⟨answer, inner, same⟩ := output
    cases answer with
    | ok reply => cases same
    | error cause =>
        obtain rfl := Except.error.inj same
        obtain ⟨text, rfl⟩ := serves _ inner
        exact .service text
  · refine ⟨?_, fun _ output => by cases output⟩
    simp only [Exchange.start, call, FollowRedirectPolicy.forRequest, none, if_true]

/-- Until it is ready, an exchange under a limit waits for a reply, with its settings kept. -/
theorem limited_waits {max : Nat}
    (limited
      : ((layer policy referer httpsOnly).load req.extensions).currentPolicy = .limited max)
    (run
      : Run (Exchange.Step parsers) (.start (layer policy referer httpsOnly) parsers req) polls
          exchange)
    (running : exchange.output = none)
    : ∃ handler request bodyRepr, exchange.future = .redirect none handler request bodyRepr
      ∧ handler.currentPolicy = .limited max ∧ handler.httpsOnly = httpsOnly := by
  have settled := (Exchange.run_within limited run).settled running
  have handled := (Exchange.run_visiting (by rw [limited]; rfl) run).handled running
  have enforces := Exchange.run_enforces run running
  rw [limited] at handled
  cases future : exchange.future with
  | direct => simp [future, ResponseFuture.handler] at handled
  | redirect pendingFuture handler request bodyRepr =>
      rw [future] at settled handled
      obtain rfl : pendingFuture = none := settled
      exact ⟨handler, request, bodyRepr, rfl, Option.some.inj handled, enforces _ _ _ _ future⟩

/-- The last poll of an exchange under a limit fails with an error of the layer. -/
theorem limited_failsSafely {max : Nat}
    (limited
      : ((layer policy referer httpsOnly).load req.extensions).currentPolicy = .limited max)
    (run
      : Run (Guarded (fun _ ctx => Serves ctx) (Exchange.Step parsers))
          (.start (layer policy referer httpsOnly) parsers req) polls exchange)
    : FailsSafely (Refuses parsers policy referer httpsOnly) exchange := by
  cases run with
  | nil => exact fun _ output => by cases output
  | @snoc _ before ctx _ earlier last =>
      obtain ⟨serves, running, rfl⟩ := last
      obtain ⟨handler, request, bodyRepr, future, kept, rfl⟩ :=
        limited_waits limited (earlier.mono (fun step => step.2)) running
      intro err failed
      have output := failed
      rw [Exchange.poll, future] at output
      cases poll_error serves kept output with
      | service text => exact .service text
      | tooMany about => exact .tooMany about
      | badScheme about => exact .badScheme about
      | insecure refused =>
          obtain ⟨only, plain, found⟩ := refused
          rw [← future] at found
          obtain ⟨attempt, asked, same⟩ := Option.map_eq_some_iff.mp found
          exact .insecure ⟨only, plain, req, _, before, ctx, attempt, earlier, asked, same, failed⟩

-----------------------------------------------------------------------------------------
-- The URIs of a message
-----------------------------------------------------------------------------------------

/-- The message does not depend on the URI that was requested. -/
theorem errorMessage_pendingError (uri : Uri) (err : Cause)
    : errorMessage (pendingError uri err)
      = errorMessage ((Error.downcast err).getD (.request err)) := by
  simp only [pendingError]
  split <;> rfl

theorem uris_service (err : ServiceError) : uris err.box.display = [] := by
  cases err with
  | mk kind source => cases source <;> rfl

theorem uris_body (err : Timeout.Error (Bool × String)) : uris (bodyCause err).display = [] := by
  induction err with
  | requestTimedOut => rfl
  | bodyTimedOut => rfl
  | decode source ih => rw [bodyCause, uris_display_error, ih]; rfl
  | inner error => rfl

/-- An error behind no other one names in its message what is behind itself. -/
theorem uris_errorMessage (uri : Uri) (kind : Kind) (source : Cause) (own : Option Uri)
    : uris (errorMessage (pendingError uri (.error kind source own))) = uris source.display := by
  rw [errorMessage_pendingError]
  exact uris_display_error kind source none

theorem uris_request (uri : Uri) {err : Cause} (other : Error.downcast err = none)
    : uris (errorMessage (pendingError uri err)) = uris err.display := by
  rw [errorMessage_pendingError, other]
  exact uris_display_error .request err none

/-- The messages of a layer name a location that is refused, and nothing else. -/
theorem LayerError.uris {refusal : Uri → Prop} {err : BoxError} (error : LayerError refusal err)
    (sent : Str → ServiceError) (uri : Uri) {shown : Uri}
    (named : shown ∈ uris (errorMessage (pendingError uri (redirectCause sent err))))
    : refusal shown ∧ err = .redirect (.uriBadScheme shown) shown := by
  cases error with
  | service text =>
      have other : Error.downcast (sent text).box = none := by
        cases sent text with
        | mk kind source => cases source <;> rfl
      rw [redirectCause, uris_request uri other, uris_service] at named
      cases named
  | tooMany about =>
      rw [BoxError.redirect, redirectCause, uris_errorMessage] at named
      cases named
  | badScheme about =>
      rw [BoxError.uriBadScheme, redirectCause, uris_errorMessage] at named
      cases named
  | @insecure location refused =>
      rw [BoxError.redirect, BoxError.uriBadScheme, redirectCause, uris_errorMessage,
        redirectCause, uris_display_error] at named
      obtain rfl := List.mem_singleton.mp named
      exact ⟨refused, rfl⟩

/-- The message about a location that is refused names it. -/
theorem mem_uris_refused (sent : Str → ServiceError) (uri location : Uri)
    : location
      ∈ uris (errorMessage (pendingError uri
          (redirectCause sent (.redirect (.uriBadScheme location) location)))) := by
  rw [BoxError.redirect, BoxError.uriBadScheme, redirectCause, uris_errorMessage, redirectCause,
    uris_display_error]
  exact .head _

/-- No message of a failed request names a URI, whatever was requested and wherever it was
redirected to, but for one: that of an exchange that `https_only` does not let follow a redirect
names the location of this redirect, which is one of `http`.
-/
theorem message_names_no_uri (parsers : Parsers) (policy : Policy World)
    (referer httpsOnly : Bool) (sent : Str → ServiceError) {cause : Cause}
    (fails : RequestFails parsers policy referer httpsOnly sent cause) (uri shown : Uri)
    : shown ∈ uris (errorMessage (pendingError uri cause))
      ↔ cause = redirectCause sent (.redirect (.uriBadScheme shown) shown)
        ∧ Refuses parsers policy referer httpsOnly shown := by
  constructor
  · intro named
    cases fails with
    | refused about =>
        obtain ⟨refused, same⟩ := (LayerError.badScheme about).uris sent uri named
        exact ⟨congrArg (redirectCause sent) same, refused⟩
    | @exchange _ _ _ err limits run failed =>
        have error : LayerError (Refuses parsers policy referer httpsOnly) err := by
          rcases limits with none | ⟨max, limited⟩
          · exact (direct_failsSafely none run).2 _ failed
          · exact limited_failsSafely limited run _ failed
        obtain ⟨refused, same⟩ := error.uris sent uri named
        exact ⟨congrArg (redirectCause sent) same, refused⟩
    | timeout =>
        rw [Error.request, Error.box, uris_errorMessage] at named
        cases named
    | body err =>
        have silent : uris (errorMessage (pendingError uri (bodyCause err))) = [] := by
          cases err with
          | decode source => rw [bodyCause, uris_errorMessage, uris_body]
          | _ => rfl
        rw [silent] at named
        cases named
  · rintro ⟨rfl, _⟩
    exact mem_uris_refused sent uri shown

/-- A client that takes `https` only is redirected to `http`, and its message names the page. -/
theorem message_names_no_uri_insecure
    : let requested : Uri := (getRoot Unit .https "a.test" .empty).uri
      let location : Uri := (getRoot Unit .http "b.test" .empty).uri
      let cause : Cause :=
        .error .redirect (.error .builder .badScheme (some location)) (some location)
      RequestFails knownSites (.limited 1 : Policy Unit) false true
          (fun _ => ⟨.connect, none⟩) cause
      ∧ location ∈ uris (errorMessage (pendingError requested cause))
      ∧ Refuses knownSites (.limited 1 : Policy Unit) false true location := by
  intro requested location cause
  let start : Exchange Unit :=
    .start (layer (.limited 1) false true) knownSites (getRoot Unit .https "a.test" .empty)
  let refusal : Context Unit := answers () 302 (some "http://b.test/")
  have serves : Serves refusal := fun _ failed => by cases failed
  have run
      : Run (Guarded (fun _ ctx => Serves ctx) (Exchange.Step knownSites)) start
          ([] ++ [refusal]) (start.poll knownSites refusal) :=
    .snoc .nil ⟨serves, rfl, rfl⟩
  have failed
      : (start.poll knownSites refusal).output
        = some (.error (.redirect (.uriBadScheme location) location)) :=
    rfl
  have fails
      : RequestFails knownSites (.limited 1 : Policy Unit) false true (fun _ => ⟨.connect, none⟩)
        cause :=
    .exchange (.inr ⟨1, rfl⟩) run failed
  have named : location ∈ uris (errorMessage (pendingError requested cause)) := by
    rw [uris_errorMessage, uris_display_error]
    exact .head _
  exact ⟨fails, named, ((message_names_no_uri _ _ _ _ _ fails requested location).mp named).2⟩

end Tlsurl.Failure
