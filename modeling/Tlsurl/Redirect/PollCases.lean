import Tlsurl.Redirect.Exchange

/-! Everything one poll of the redirect future can do, said once.
The results about exchanges are derived from these cases and never unfold the poll.
-/

namespace Tlsurl.Redirect

variable {World : Type}

-----------------------------------------------------------------------------------------
-- What the policy handler leaves unchanged and what it lets through
-----------------------------------------------------------------------------------------

/-- A location that the handler's checks accept: `http` or `https`, and `https` alone under
`https_only`.
-/
def SchemeAllowed (httpsOnly : Bool) (uri : Uri) : Prop :=
  (uri.isHttp = true ∨ uri.isHttps = true) ∧ (httpsOnly = true → uri.isHttps = true)

instance (httpsOnly : Bool) (uri : Uri) : Decidable (SchemeAllowed httpsOnly uri) :=
  inferInstanceAs (Decidable (_ ∧ _))

/-- The history after one more recorded hop. -/
def record (history : Option (List HistoryEntry)) (attempt : LayerAttempt)
    : Option (List HistoryEntry) :=
  some (history.getD []
    ++ [{ status := attempt.status
          uri := attempt.location
          previous := attempt.previous
          headers := attempt.headers }])

namespace FollowRedirectPolicy

variable {self next : FollowRedirectPolicy World} {world : World} {attempt : LayerAttempt}
  {action answer : Action (PendingFuture World)}

/-- Every action but an error lets the handler keep its URIs, `https_only` and its referrer. -/
theorem permit_ok (permitted : self.permit attempt action = (.ok answer, next))
    : answer = action ∧ next.uris = self.uris ∧ next.httpsOnly = self.httpsOnly
      ∧ next.referrer = self.referrer := by
  cases action with
  | follow =>
      simp only [permit] at permitted
      split at permitted
      · cases permitted
      · split at permitted
        · cases permitted
        · split at permitted <;> · cases permitted; exact ⟨rfl, rfl, rfl, rfl⟩
  | stop => cases permitted; exact ⟨rfl, rfl, rfl, rfl⟩
  | pending future => cases permitted; exact ⟨rfl, rfl, rfl, rfl⟩
  | error err => cases permitted

/-- Following at once has passed the scheme checks, and is recorded unless the policy is
`none`.
-/
theorem permit_follow (permitted : self.permit attempt .follow = (.ok answer, next))
    (some : self.currentPolicy.isNone = false)
    : SchemeAllowed self.httpsOnly attempt.location
      ∧ next.history = record self.history attempt := by
  simp only [permit, some] at permitted
  split at permitted
  · cases permitted
  · next scheme =>
      split at permitted
      · cases permitted
      · next secure =>
          cases permitted
          refine ⟨⟨by simpa [or_iff_not_imp_left] using scheme, ?_⟩, rfl⟩
          intro httpsOnly
          simpa [httpsOnly] using secure

/-- A decision that is not an error extends the visited URIs and keeps `https_only`. -/
theorem redirect_ok (decided : self.redirect world attempt = (.ok answer, next))
    : next.uris = self.uris ++ [attempt.previous] ∧ next.httpsOnly = self.httpsOnly := by
  obtain ⟨-, uris, httpsOnly, -⟩ := permit_ok decided
  exact ⟨uris, httpsOnly⟩

/-- The policy `none` never answers with follow, so following at once is always recorded. -/
theorem redirect_follow (decided : self.redirect world attempt = (.ok .follow, next))
    : SchemeAllowed self.httpsOnly attempt.location
      ∧ next.history = record self.history attempt := by
  have answered := (permit_ok decided).1
  have some : (self.visit attempt).currentPolicy.isNone = false := by
    rw [Bool.eq_false_iff]
    intro none
    unfold Policy.isNone at none
    unfold Policy.check Policy.redirect at answered
    split at none
    · next kind => simp [kind] at answered
    · cases none
  simp only [redirect, ← answered] at decided
  have permitted := permit_follow decided some
  exact permitted

/-- Putting the decision off records nothing. -/
theorem redirect_pending {future : PendingFuture World}
    (decided : self.redirect world attempt = (.ok (.pending future), next))
    : next.history = self.history := by
  have answered := (permit_ok decided).1
  simp only [redirect, ← answered] at decided
  cases decided
  rfl

/-- Preparing a request changes its headers and the referrer state only. -/
theorem onRequest_spec {B : Type} (self : FollowRedirectPolicy World)
    (request : Request (Extensions World) B)
    : (self.onRequest request).1.uris = self.uris
      ∧ (self.onRequest request).1.httpsOnly = self.httpsOnly
      ∧ (self.onRequest request).1.history = self.history
      ∧ (self.onRequest request).2.uri = request.uri := by
  unfold onRequest
  split <;> exact ⟨rfl, rfl, rfl, rfl⟩

/-- The handler of a request is that of the service with the referrer of the request. -/
theorem forRequest_some {B : Type} {parsers : Parsers} {request : Request (Extensions World) B}
    {policy : FollowRedirectPolicy World}
    (found : (self.forRequest parsers request).1 = some policy)
    : policy.httpsOnly = self.httpsOnly ∧ policy.uris = self.uris
      ∧ policy.history = self.history
      ∧ policy.referrer
        = self.referrer.map (fun _ => Referrer.new parsers request.headers) := by
  simp only [forRequest] at found
  split at found
  · cases found
  · cases found
    exact ⟨rfl, rfl, rfl, rfl⟩

/-- Apart from the referrer, the headers of a prepared request are those that the removal of
sensitive headers leaves.
-/
theorem getAll_onRequest {B : Type} (self : FollowRedirectPolicy World)
    (request : Request (Extensions World) B) {name : HeaderName} (other : name ≠ "referer")
    : (self.onRequest request).2.headers.getAll name
      = (removeSensitiveHeaders request.uri request.headers self.uris).getAll name := by
  unfold onRequest
  split
  · exact Referrer.getAll_apply _ _ _ other
  · rfl

end FollowRedirectPolicy

/-- A call that follows redirects waits for the request that its handler has prepared. -/
theorem Exchange.start_redirect {self policy : FollowRedirectPolicy World} {parsers : Parsers}
    {req : Request (Extensions World) Body} {pendingFuture : Option (Pending World)}
    {request : Head World} {bodyRepr : BodyRepr}
    (future
      : (Exchange.start self parsers req).future
        = .redirect pendingFuture policy request bodyRepr)
    : ∃ loaded, (self.forRequest parsers req).1 = some loaded ∧ pendingFuture = none
        ∧ bodyRepr = BodyRepr.none.tryCloneFrom req.body
        ∧ policy = (loaded.onRequest { req with extensions := {} }).1
        ∧ request = (Exchange.start self parsers req).first.withBody ()
        ∧ (Exchange.start self parsers req).first
          = (loaded.onRequest { req with extensions := {} }).2 := by
  simp only [Exchange.start, call] at future ⊢
  split at future
  · cases future
  · next loaded found =>
      cases future
      exact ⟨loaded, found, rfl, rfl, rfl, rfl, rfl⟩

-----------------------------------------------------------------------------------------
-- The cases of a poll
-----------------------------------------------------------------------------------------

/-- The response that a poll builds from a reply to `request`. -/
def Reply.received (reply : Reply) (request : Head World) : Response :=
  { reply.toResponse with requestUri := some request.uri }

/-- The attempt that a poll builds for a reply to `request`. -/
def Reply.attempt (reply : Reply) (request : Head World) (location : Uri) : LayerAttempt :=
  { status := reply.status, headers := reply.headers, location, previous := request.uri }

/-- Every way a poll of a redirecting future can end: nothing to report yet, an error, a
final response, a redirect response returned as it is, a stopped pending redirect, a
decision put off, a redirect followed at once, and a pending one resumed.
-/
inductive PollCase (ctx : Context World) (pendingFuture : Option (Pending World))
    (policy : FollowRedirectPolicy World) (request : Head World)
    : Polled World → Prop
  | waits {polled bodyRepr} (result : polled.result = none) (sent : polled.sent = none)
    (next : polled.next = .redirect pendingFuture policy request bodyRepr)
    (unanswered : pendingFuture = none → ctx.inner = none)
    (unresolved : ∀ state, pendingFuture = some state → state.future ctx.world = none)
    : PollCase ctx pendingFuture policy request polled
  | fails {polled err} (result : polled.result = some (.error err)) (sent : polled.sent = none)
    (unfollowed
      : ∀ state, pendingFuture = some state → state.future ctx.world ≠ some .follow)
    : PollCase ctx pendingFuture policy request polled
  | finishes {polled reply} (fresh : pendingFuture = none) (inner : ctx.inner = some (.ok reply))
    (final : isRedirectStatus reply.status = false)
    (result : polled.result = some (.ok (policy.onResponse (reply.received request)).1))
    (sent : polled.sent = none)
    : PollCase ctx pendingFuture policy request polled
  | returns {polled reply} (fresh : pendingFuture = none)
    (inner : ctx.inner = some (.ok reply)) (redirects : isRedirectStatus reply.status = true)
    (result : polled.result = some (.ok (reply.received request))) (sent : polled.sent = none)
    : PollCase ctx pendingFuture policy request polled
  | stops {polled state} (awaited : pendingFuture = some state)
    (resolved : state.future ctx.world = some .stop)
    (result : polled.result = some (.ok state.res)) (sent : polled.sent = none)
    : PollCase ctx pendingFuture policy request polled
  | defers (state : Pending World) {polled reply rewritten bodyRepr decided}
    (fresh : pendingFuture = none) (inner : ctx.inner = some (.ok reply))
    (redirects : isRedirectStatus reply.status = true)
    (head : ∃ body, (rewrite reply.status request body).1 = rewritten)
    (decision
      : policy.redirect ctx.world (reply.attempt rewritten state.location)
        = (.ok (.pending state.future), decided))
    (kept : state.res = reply.received request)
    (result : polled.result = none) (sent : polled.sent = none)
    (next : polled.next = .redirect (some state) decided rewritten bodyRepr)
    : PollCase ctx pendingFuture policy request polled
  | follows {polled reply rewritten bodyRepr decided location body}
    (fresh : pendingFuture = none) (inner : ctx.inner = some (.ok reply))
    (redirects : isRedirectStatus reply.status = true)
    (head : ∃ body, (rewrite reply.status request body).1 = rewritten)
    (decision
      : policy.redirect ctx.world (reply.attempt rewritten location) = (.ok .follow, decided))
    (effect
      : polled
        = handleAction
            { action := .follow, policy := decided, request := rewritten, body, bodyRepr
              res := reply.received request, location })
    : PollCase ctx pendingFuture policy request polled
  | resumes {polled bodyRepr} {state : Pending World} (awaited : pendingFuture = some state)
    (resolved : state.future ctx.world = some .follow)
    (effect
      : polled
        = handleAction
            { action := .follow, policy, request, body := state.body, bodyRepr
              res := state.res, location := state.location })
    : PollCase ctx pendingFuture policy request polled

/-- Rewriting for a status keeps the target. -/
theorem rewrite_uri (status : StatusCode) (request : Head World) (bodyRepr : BodyRepr)
    : (rewrite status request bodyRepr).1.uri = request.uri := by
  unfold rewrite
  split
  · split <;> rfl
  · split <;> rfl

/-- A reply handled as a redirect ends in one of the cases of a poll. -/
private theorem handleResponse_cases (parsers : Parsers) (ctx : Context World) (reply : Reply)
    (inner : ctx.inner = some (.ok reply)) (policy : FollowRedirectPolicy World)
    (request : Head World) (bodyRepr : BodyRepr)
    : PollCase ctx none policy request
        (handleResponse parsers ctx.world (reply.received request) policy request bodyRepr) := by
  have status : (reply.received request).status = reply.status := rfl
  unfold handleResponse
  split
  · next final => exact .finishes rfl inner (by simpa [status] using final) rfl rfl
  · next redirecting =>
      have redirects : isRedirectStatus reply.status = true := by
        simpa [status] using redirecting
      cases head : rewrite reply.status request bodyRepr with
      | mk rewritten kept =>
          have uri : rewritten.uri = request.uri := by
            rw [← rewrite_uri reply.status request bodyRepr, head]
          have rewrites : ∃ body, (rewrite reply.status request body).1 = rewritten :=
            ⟨bodyRepr, by rw [head]⟩
          simp only [status, head]
          split
          · exact .returns rfl inner redirects rfl rfl
          · split
            · exact .returns rfl inner redirects rfl rfl
            · next location _ =>
                split
                · exact .fails rfl rfl (by simp)
                · next action decided decision =>
                    split
                    · next future settled =>
                        cases action with
                        | pending future =>
                            cases settled
                            exact .defers ⟨future, location, _, _⟩ rfl inner redirects
                              rewrites decision rfl rfl rfl rfl
                        | follow | stop | error _ => cases settled
                    · next settled =>
                        cases action with
                        | follow =>
                            cases settled
                            exact .follows rfl inner redirects rewrites decision rfl
                        | stop =>
                            cases settled
                            exact .returns rfl inner redirects rfl rfl
                        | error err =>
                            cases settled
                            exact .fails rfl rfl (by simp)
                        | pending _ => cases settled

/-- Every poll of a redirecting future is one of the cases. -/
theorem poll_cases (parsers : Parsers) (ctx : Context World)
    (pendingFuture : Option (Pending World)) (policy : FollowRedirectPolicy World)
    (request : Head World) (bodyRepr : BodyRepr)
    : PollCase ctx pendingFuture policy request
        ((ResponseFuture.redirect pendingFuture policy request bodyRepr).poll parsers ctx) := by
  unfold ResponseFuture.poll
  cases pendingFuture with
  | some state =>
      cases resolved : state.future ctx.world with
      | none =>
          simp only [resolved]
          exact .waits rfl rfl rfl (by simp) (by simpa using resolved)
      | some action =>
          simp only [resolved]
          cases action with
          | follow => exact .resumes rfl resolved rfl
          | stop => exact .stops rfl resolved rfl rfl
          | error err => exact .fails rfl rfl (by simp [resolved])
          | pending future => exact future.elim
  | none =>
      cases inner : ctx.inner with
      | none => exact .waits rfl rfl rfl (fun _ => inner) (by simp)
      | some answer =>
          cases answer with
          | error err => exact .fails rfl rfl (by simp)
          | ok reply => exact handleResponse_cases parsers ctx reply inner policy request bodyRepr

/-- Following sends one request, to the location, and leaves a future that keeps its head
and the settings of the handler.
-/
theorem handleAction_follow {policy : FollowRedirectPolicy World} {request : Head World}
    {body : Body} {bodyRepr : BodyRepr} {res : Response} {location : Uri}
    {polled : Polled World}
    (effect
      : polled
        = handleAction { action := .follow, policy, request, body, bodyRepr, res, location })
    : ∃ decided head kept,
        policy.onRequest { request with uri := location } = (decided, head)
        ∧ polled.result = none
        ∧ polled.next = .redirect none decided head kept
        ∧ polled.sent = some (head.withBody body)
        ∧ head.uri = location
        ∧ decided.httpsOnly = policy.httpsOnly
        ∧ decided.history = policy.history := by
  have spec := policy.onRequest_spec { request with uri := location }
  subst effect
  exact ⟨_, _, _, rfl, rfl, rfl, rfl, spec.2.2.2, spec.2.1, spec.2.2.1⟩

namespace Exchange

variable {parsers : Parsers} {ctx : Context World} {exchange : Exchange World}

/-- A poll that hands nothing down adds no hop. -/
theorem poll_hops_of_none (sent : (exchange.future.poll parsers ctx).sent = none)
    : (exchange.poll parsers ctx).hops = exchange.hops := by
  simp [poll, sent]

/-- A request handed down is logged as one hop. -/
theorem poll_hops_of_some {request : Request (Extensions World) Body}
    (sent : (exchange.future.poll parsers ctx).sent = some request)
    : (exchange.poll parsers ctx).hops
      = exchange.hops
        ++ [⟨exchange.observe ctx, request, exchange.future.pending?.isSome⟩] := by
  simp [poll, sent]

end Exchange

end Tlsurl.Redirect
