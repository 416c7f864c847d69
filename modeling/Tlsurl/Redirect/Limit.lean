import Tlsurl.Redirect.PollCases

/-! How far a chain of redirects goes under a limit.
The handler visits the target of a request when its reply redirects, so what a policy is shown
is the list of all targets so far. The limit is read off that list.
-/

namespace Tlsurl.Redirect

open Library

variable {World : Type}

/-- `Policy::limited` -/
def Policy.limited (max : Nat) : Policy World := { inner := .limit max }

/-- The attempt that a poll puts to the policy, if it comes to a decision. -/
def ResponseFuture.asks (parsers : Parsers) (ctx : Context World)
    : ResponseFuture World → Option Attempt
  | .redirect none policy request bodyRepr =>
      match ctx.inner with
      | some (.ok reply) =>
          if isRedirectStatus reply.status then
            let (rewritten, kept) := rewrite reply.status request bodyRepr
            match kept.take.1 with
            | none => none
            | some _ =>
                (((reply.headers.get "location").bind HeaderValue.toStr).bind
                  (fun location => resolveUri parsers location rewritten.uri)).map
                    (fun uri =>
                      { status := reply.status, headers := reply.headers, uri
                        previous := policy.uris ++ [rewritten.uri] })
          else none
      | _ => none
  | _ => none

/-- What a poll makes of the handler's answer to a redirect. -/
def conclude (location : Uri) (res : Response) (request : Head World) (body : Body)
    (bodyRepr : BodyRepr)
    : Except BoxError (Action (PendingFuture World)) × FollowRedirectPolicy World → Polled World
  | (.error err, policy) =>
      { result := some (.error err), next := .redirect none policy request bodyRepr }
  | (.ok action, policy) =>
      match action.settle with
      | .inl future =>
          { result := none
            next := .redirect (some { future, location, body, res }) policy request bodyRepr }
      | .inr action => handleAction { action, policy, request, body, bodyRepr, res, location }

/-- A poll shows the policy an attempt, and is what becomes of its answer. -/
def ResponseFuture.Shows (parsers : Parsers) (ctx : Context World)
    (future : ResponseFuture World) (attempt : Attempt)
    : Prop :=
  ∃ policy request bodyRepr, ∃ layerAttempt rewritten body kept res,
    future = .redirect none policy request bodyRepr
      ∧ layerAttempt.previous = request.uri
      ∧ layerAttempt.location = attempt.uri
      ∧ future.poll parsers ctx
        = conclude attempt.uri res rewritten body kept
            ((policy.visit layerAttempt).permit layerAttempt
              (policy.currentPolicy.redirect ctx.world attempt))

/-- A poll shows the policy nothing: it goes the same way with any other. -/
def ResponseFuture.ShowsNothing (parsers : Parsers) (ctx : Context World)
    (future : ResponseFuture World)
    : Prop :=
  ∀ policy other : FollowRedirectPolicy World, ∀ request bodyRepr,
    future = .redirect none policy request bodyRepr
    → other.history = policy.history
    → ((ResponseFuture.redirect none other request bodyRepr).poll parsers ctx).result
        = (future.poll parsers ctx).result
      ∧ ((ResponseFuture.redirect none other request bodyRepr).poll parsers ctx).sent
        = (future.poll parsers ctx).sent

-----------------------------------------------------------------------------------------
-- A poll is decided by what the policy answers
-----------------------------------------------------------------------------------------

section

variable {parsers : Parsers} {ctx : Context World} {policy : FollowRedirectPolicy World}
  {request : Head World} {bodyRepr : BodyRepr} {attempt : Attempt}

/-- The policy is shown the targets visited before and this one, and the poll is what becomes
of its answer.
-/
theorem asks_some
    (asked
      : (ResponseFuture.redirect none policy request bodyRepr).asks parsers ctx = some attempt)
    : attempt.previous = policy.uris ++ [request.uri]
      ∧ ∃ layerAttempt rewritten body kept res,
        layerAttempt.previous = request.uri
        ∧ layerAttempt.location = attempt.uri
        ∧ (ResponseFuture.redirect none policy request bodyRepr).poll parsers ctx
          = conclude attempt.uri res rewritten body kept
              ((policy.visit layerAttempt).permit layerAttempt
                (policy.currentPolicy.redirect ctx.world attempt)) := by
  simp only [ResponseFuture.asks] at asked
  split at asked
  · next reply inner =>
      split at asked
      · next redirects =>
          split at asked
          · cases asked
          · next body taken =>
              obtain ⟨location, found, rfl⟩ := Option.map_eq_some_iff.mp asked
              have uri := rewrite_uri reply.status request bodyRepr
              refine ⟨by simp [uri],
                reply.attempt (rewrite reply.status request bodyRepr).1 location,
                (rewrite reply.status request bodyRepr).1, body,
                (rewrite reply.status request bodyRepr).2.take.2, reply.received request,
                uri, rfl, ?_⟩
              have status : (reply.received request).status = reply.status := rfl
              have headers : (reply.received request).headers = reply.headers := rfl
              have all : (rewrite reply.status request bodyRepr).2.take
                  = (some body, (rewrite reply.status request bodyRepr).2.take.2) :=
                Prod.ext taken rfl
              simp only [ResponseFuture.poll, inner]
              change handleResponse parsers ctx.world (reply.received request) policy request
                bodyRepr = _
              simp only [handleResponse, status, redirects, headers, found, Bool.not_true,
                Bool.false_eq_true, if_false]
              rw [all]
              rfl
      · cases asked
  · cases asked

theorem shows_of_asks {future : ResponseFuture World}
    (asked : future.asks parsers ctx = some attempt)
    : future.Shows parsers ctx attempt := by
  cases future with
  | direct => simp [ResponseFuture.asks] at asked
  | redirect pendingFuture policy request bodyRepr =>
      cases pendingFuture with
      | some state => simp [ResponseFuture.asks] at asked
      | none =>
          obtain ⟨-, layerAttempt, rewritten, body, kept, res, shown⟩ := asks_some asked
          exact ⟨policy, request, bodyRepr, layerAttempt, rewritten, body, kept, res, rfl, shown⟩

/-- A poll that puts nothing to the policy does not depend on it. -/
theorem poll_unasked {other : FollowRedirectPolicy World} (history : other.history = policy.history)
    (unasked
      : (ResponseFuture.redirect none policy request bodyRepr).asks parsers ctx = none)
    : let polled := (ResponseFuture.redirect none policy request bodyRepr).poll parsers ctx
      let changed := (ResponseFuture.redirect none other request bodyRepr).poll parsers ctx
      changed.result = polled.result ∧ changed.sent = polled.sent := by
  simp only [ResponseFuture.poll]
  cases inner : ctx.inner with
  | none => simp
  | some answer =>
      cases answer with
      | error err => simp
      | ok reply =>
          change (handleResponse parsers ctx.world (reply.received request) other request
                bodyRepr).result
              = (handleResponse parsers ctx.world (reply.received request) policy request
                bodyRepr).result
            ∧ (handleResponse parsers ctx.world (reply.received request) other request
                bodyRepr).sent
              = (handleResponse parsers ctx.world (reply.received request) policy request
                bodyRepr).sent
          have status : (reply.received request).status = reply.status := rfl
          have headers : (reply.received request).headers = reply.headers := rfl
          cases redirects : isRedirectStatus reply.status with
          | false =>
              simp only [handleResponse, status, redirects, Bool.not_false, if_true,
                FollowRedirectPolicy.onResponse, history]
              cases policy.history <;> exact ⟨rfl, trivial⟩
          | true =>
              simp only [ResponseFuture.asks, inner, redirects, if_true] at unasked
              simp only [handleResponse, status, headers, redirects, Bool.not_true,
                Bool.false_eq_true, if_false]
              cases taken : (rewrite reply.status request bodyRepr).2.take with
              | mk body kept =>
                  simp only [taken] at unasked ⊢
                  cases body with
                  | none => exact ⟨rfl, rfl⟩
                  | some body =>
                      simp only [Option.map_eq_none_iff] at unasked
                      simp only [unasked]
                      exact ⟨trivial, trivial⟩

end

-----------------------------------------------------------------------------------------
-- The targets visited
-----------------------------------------------------------------------------------------

/-- The handler of a future that follows redirects. -/
def ResponseFuture.handler : ResponseFuture World → Option (FollowRedirectPolicy World)
  | .redirect _ policy _ _ => some policy
  | .direct => none

/-- The targets that the next decision is shown. A handler with a pending action has visited the
target of the request it keeps already.
-/
def ResponseFuture.visited : ResponseFuture World → List Uri
  | .redirect (some _) policy _ _ => policy.uris
  | .redirect none policy request _ => policy.uris ++ [request.uri]
  | .direct => []

/-- Neither a decision nor its consequences change the policy in force. -/
theorem permit_policy (self : FollowRedirectPolicy World) (attempt : LayerAttempt)
    (action : Action (PendingFuture World))
    : (self.permit attempt action).2.currentPolicy = self.currentPolicy := by
  cases action with
  | follow =>
      simp only [FollowRedirectPolicy.permit]
      split
      · rfl
      · split
        · rfl
        · split <;> rfl
  | stop | pending _ | error _ => rfl

/-- A decision keeps the policy in force. -/
theorem redirect_policy {self next : FollowRedirectPolicy World} {world : World}
    {attempt : LayerAttempt} {answer : Except BoxError (Action (PendingFuture World))}
    (decided : self.redirect world attempt = (answer, next))
    : next.currentPolicy = self.currentPolicy := by
  have kept := permit_policy (self.visit attempt) attempt
    (self.currentPolicy.check world attempt.status attempt.headers attempt.location
      (self.visit attempt).uris)
  have outcome : next = (self.redirect world attempt).2 := by rw [decided]
  rw [outcome]
  exact kept

/-- Preparing a request keeps the policy in force. -/
theorem onRequest_policy {B : Type} (self : FollowRedirectPolicy World)
    (request : Request (Extensions World) B)
    : (self.onRequest request).1.currentPolicy = self.currentPolicy := by
  unfold FollowRedirectPolicy.onRequest
  split <;> rfl

/-- Following goes on from the targets that the handler has visited to the location. -/
theorem follow_visited {policy : FollowRedirectPolicy World} {request : Head World}
    {body : Body} {bodyRepr : BodyRepr} {res : Response} {location : Uri}
    {polled : Polled World}
    (effect
      : polled
        = handleAction { action := .follow, policy, request, body, bodyRepr, res, location })
    : polled.next.visited = policy.uris ++ polled.sent.toList.map Request.uri
      ∧ polled.next.handler.map FollowRedirectPolicy.currentPolicy
        = some policy.currentPolicy := by
  have uris := (policy.onRequest_spec { request with uri := location }).1
  have kept := onRequest_policy policy { request with uri := location }
  subst effect
  simp only [handleAction, ResponseFuture.visited, ResponseFuture.handler, Option.toList_some,
    Option.map_some]
  exact ⟨by rw [uris]; rfl, by rw [kept]⟩

/-- While a future is not ready, a poll visits the target of the request it sends, if any, and
keeps the policy in force.
-/
theorem poll_visited {parsers : Parsers} {ctx : Context World} {future : ResponseFuture World}
    (waiting : (future.poll parsers ctx).result = none)
    : (future.poll parsers ctx).next.visited
        = future.visited ++ (future.poll parsers ctx).sent.toList.map Request.uri
      ∧ (future.poll parsers ctx).next.handler.map FollowRedirectPolicy.currentPolicy
        = future.handler.map FollowRedirectPolicy.currentPolicy := by
  cases future with
  | direct => exact ⟨rfl, rfl⟩
  | redirect pendingFuture policy request bodyRepr =>
      cases poll_cases parsers ctx pendingFuture policy request bodyRepr with
      | waits _ sent next =>
          rw [sent, next]
          cases pendingFuture <;> simp [ResponseFuture.visited, ResponseFuture.handler]
      | fails result => cases result.symm.trans waiting
      | finishes _ _ _ result => cases result.symm.trans waiting
      | returns _ _ _ result => cases result.symm.trans waiting
      | stops _ _ result => cases result.symm.trans waiting
      | @defers state _ reply _ _ decided fresh _ _ head decision _ _ sent next =>
          obtain ⟨body, rfl⟩ := head
          have uris := (FollowRedirectPolicy.redirect_ok decision).1
          rw [sent, next, fresh]
          simp [ResponseFuture.visited, ResponseFuture.handler, uris, redirect_policy decision,
            Reply.attempt, rewrite_uri]
      | @follows _ reply _ _ decided location _ fresh _ _ head decision effect =>
          obtain ⟨body, rfl⟩ := head
          obtain ⟨visited, handler⟩ := follow_visited effect
          rw [visited, handler, (FollowRedirectPolicy.redirect_ok decision).1,
            redirect_policy decision, fresh]
          simp [ResponseFuture.visited, ResponseFuture.handler, Reply.attempt, rewrite_uri]
      | resumes awaited _ effect =>
          obtain ⟨visited, handler⟩ := follow_visited effect
          rw [visited, handler, awaited]
          exact ⟨rfl, rfl⟩

namespace Exchange

/-- A poll adds the request it sends, if any, to those handed down. -/
theorem requests_poll (parsers : Parsers) (ctx : Context World) (exchange : Exchange World)
    : (exchange.poll parsers ctx).requests
      = exchange.requests ++ (exchange.future.poll parsers ctx).sent.toList := by
  cases sent : (exchange.future.poll parsers ctx).sent <;> simp [requests, poll, sent]

/-- While it is running, the next decision is that of `inForce` on the targets of the requests
handed down.
-/
structure Visiting (inForce : Policy World) (exchange : Exchange World) : Prop where
  visited : exchange.output = none → exchange.future.visited = exchange.requests.map Request.uri
  handled
    : exchange.output = none
      → exchange.future.handler.map FollowRedirectPolicy.currentPolicy = some inForce

/-- A call under a policy that may follow has visited nothing but the target of its request. -/
theorem start_visiting {policy : Policy World} {referer httpsOnly : Bool} {parsers : Parsers}
    {req : Request (Extensions World) Body}
    (some
      : ((layer policy referer httpsOnly).load req.extensions).currentPolicy.isNone = false)
    : (start (layer policy referer httpsOnly) parsers req).Visiting
        ((layer policy referer httpsOnly).load req.extensions).currentPolicy := by
  have uris (self : FollowRedirectPolicy World) :=
    (self.onRequest_spec { req with extensions := {} }).1
  have target (self : FollowRedirectPolicy World) :=
    (self.onRequest_spec { req with extensions := {} }).2.2.2
  have kept (self : FollowRedirectPolicy World) :=
    onRequest_policy self { req with extensions := {} }
  constructor
  · intro _
    simp only [start, call, FollowRedirectPolicy.forRequest, some, Bool.false_eq_true, if_false,
      ResponseFuture.visited, requests, List.map_nil, List.map_cons, uris]
    rfl
  · intro _
    simp only [start, call, FollowRedirectPolicy.forRequest, some, Bool.false_eq_true, if_false,
      ResponseFuture.handler, Option.map_some, kept]
    rfl

/-- The targets are visited along every run, whatever the policy. -/
theorem run_visiting {parsers : Parsers} {policy : Policy World} {referer httpsOnly : Bool}
    {req : Request (Extensions World) Body} {polls exchange}
    (some
      : ((layer policy referer httpsOnly).load req.extensions).currentPolicy.isNone = false)
    (run
      : Run (Step parsers) (start (layer policy referer httpsOnly) parsers req) polls exchange)
    : exchange.Visiting
        ((layer policy referer httpsOnly).load req.extensions).currentPolicy := by
  refine run.invariant ?_ (start_visiting some)
  intro past before ctx after _ kept step
  obtain ⟨running, rfl⟩ := step
  constructor
  · intro waiting
    rw [requests_poll, List.map_append, ← kept.visited running]
    exact (poll_visited waiting).1
  · intro waiting
    exact (poll_visited waiting).2.trans (kept.handled running)

/-- A decision is shown the targets of all requests so far, oldest first. -/
theorem Visiting.previous_eq {parsers : Parsers} {ctx : Context World}
    {exchange : Exchange World} {inForce : Policy World} {attempt : Attempt}
    (visiting : exchange.Visiting inForce) (running : exchange.output = none)
    (asked : exchange.future.asks parsers ctx = some attempt)
    : attempt.previous = exchange.requests.map Request.uri := by
  rw [← visiting.visited running]
  cases future : exchange.future with
  | direct => simp [future, ResponseFuture.asks] at asked
  | redirect pendingFuture policy request bodyRepr =>
      cases pendingFuture with
      | none =>
          rw [future] at asked
          exact (asks_some asked).1
      | some state => simp [future, ResponseFuture.asks] at asked

/-- Under a limit, no action is pending and no more hops are followed than the limit says. -/
structure Within (max : Nat) (exchange : Exchange World) : Prop where
  followed : exchange.hops.length ≤ max
  settled : exchange.output = none → exchange.future.pending? = none

/-- A limit lets a decision through as long as fewer hops were followed. -/
theorem Visiting.limit {parsers : Parsers} {ctx : Context World} {exchange : Exchange World}
    {inForce : Policy World} {attempt : Attempt} (visiting : exchange.Visiting inForce)
    (running : exchange.output = none)
    (asked : exchange.future.asks parsers ctx = some attempt) (max : Nat)
    : (Policy.limited max).redirect ctx.world attempt
      = if exchange.hops.length < max then .follow else .error .tooManyRedirects := by
  have length : attempt.previous.length = exchange.hops.length + 1 := by
    rw [visiting.previous_eq running asked]
    simp [requests]
  simp only [Policy.redirect, Policy.limited, length]
  by_cases left : exchange.hops.length < max
  · rw [if_neg (by omega), if_pos left]
  · rw [if_pos (by omega), if_neg left]

/-- A limit that answers with follow has been shown no more targets than it allows, and it never
puts a decision off.
-/
theorem redirect_limited {self next : FollowRedirectPolicy World} {world : World}
    {attempt : LayerAttempt} {answer : Action (PendingFuture World)} {max : Nat}
    (limited : self.currentPolicy = .limited max)
    (decided : self.redirect world attempt = (.ok answer, next))
    : answer.settle = .inr .follow ∧ (self.uris ++ [attempt.previous]).length ≤ max := by
  have same : (self.visit attempt).currentPolicy = .limited max := limited
  have answered : answer
      = if (self.uris ++ [attempt.previous]).length > max then .error .tooManyRedirects
        else .follow := by
    rw [(FollowRedirectPolicy.permit_ok decided).1, same]
    rfl
  rw [FollowRedirectPolicy.redirect, ← (FollowRedirectPolicy.permit_ok decided).1] at decided
  by_cases long : (self.uris ++ [attempt.previous]).length > max
  · rw [if_pos long] at answered
    subst answered
    cases decided
  · rw [if_neg long] at answered
    subst answered
    exact ⟨rfl, by omega⟩

/-- One poll stays within the limit, by cases on what it does. -/
theorem Within.poll {parsers : Parsers} {ctx : Context World} {exchange : Exchange World}
    {max : Nat} (within : exchange.Within max) (running : exchange.output = none)
    (visiting : exchange.Visiting (.limited max))
    : (exchange.poll parsers ctx).Within max := by
  have quiet (sent : (exchange.future.poll parsers ctx).sent = none)
      : (exchange.poll parsers ctx).hops.length ≤ max := by
    rw [poll_hops_of_none sent]
    exact within.followed
  have ready {answer : Except BoxError Response}
      (result : (exchange.future.poll parsers ctx).result = some answer)
      (sent : (exchange.future.poll parsers ctx).sent = none)
      : (exchange.poll parsers ctx).Within max :=
    ⟨quiet sent, fun waiting => by cases result.symm.trans waiting⟩
  have visited := visiting.visited running
  have limited := visiting.handled running
  have settled := within.settled running
  cases future : exchange.future with
  | direct => simp [future, ResponseFuture.handler] at limited
  | redirect pendingFuture policy request bodyRepr =>
      rw [future] at visited limited settled ready quiet
      cases settled
      replace limited : policy.currentPolicy = .limited max := Option.some.inj limited
      cases poll_cases parsers ctx none policy request bodyRepr with
      | waits _ sent next =>
          rw [← future] at next
          exact ⟨quiet sent, fun _ => by simp [Exchange.poll, next, ResponseFuture.pending?]⟩
      | fails result sent => exact ready result sent
      | finishes _ _ _ result sent => exact ready result sent
      | returns _ _ _ result sent => exact ready result sent
      | stops awaited => cases awaited
      | resumes awaited => cases awaited
      | defers _ _ _ _ _ decision =>
          cases (redirect_limited limited decision).1
      | @follows _ reply _ _ _ _ _ _ _ _ head decision effect =>
          obtain ⟨body, rfl⟩ := head
          obtain ⟨_, _, _, _, _, next, sent, _⟩ := handleAction_follow effect
          rw [← future] at next sent
          have bound := (redirect_limited limited decision).2
          have length := congrArg List.length visited
          simp only [ResponseFuture.visited, requests, List.length_append, List.length_map,
            List.length_cons, List.length_nil] at length bound
          constructor
          · rw [poll_hops_of_some sent, List.length_append]
            simp only [List.length_cons, List.length_nil]
            omega
          · intro _
            simp [Exchange.poll, next, ResponseFuture.pending?]

/-- A decision that the limit refuses ends the exchange with an error that names the last
target, and sends nothing.
-/
theorem Visiting.refused {parsers : Parsers} {ctx : Context World} {exchange : Exchange World}
    {attempt : Attempt} {max : Nat} (visiting : exchange.Visiting (.limited max))
    (running : exchange.output = none)
    (asked : exchange.future.asks parsers ctx = some attempt)
    (reached : max ≤ exchange.hops.length)
    : ∃ last, (exchange.requests.map Request.uri).getLast? = some last
        ∧ (exchange.poll parsers ctx).output
          = some (.error (.redirect .tooManyRedirects last))
        ∧ (exchange.poll parsers ctx).requests = exchange.requests := by
  have visited := visiting.visited running
  have limited := visiting.handled running
  have answered := visiting.limit running asked max
  rw [if_neg (by omega)] at answered
  cases future : exchange.future with
  | direct => simp [future, ResponseFuture.asks] at asked
  | redirect pendingFuture policy request bodyRepr =>
      rw [future] at visited limited asked
      cases pendingFuture with
      | some state => simp [ResponseFuture.asks] at asked
      | none =>
          replace limited : policy.currentPolicy = .limited max := Option.some.inj limited
          obtain ⟨-, layerAttempt, rewritten, body, kept, res, previous, -, poll⟩ :=
            asks_some asked
          rw [limited, answered] at poll
          have error : (exchange.future.poll parsers ctx).result
              = some (.error (.redirect .tooManyRedirects request.uri)) := by
            rw [future, poll, ← previous]
            rfl
          have sent : (exchange.future.poll parsers ctx).sent = none := by
            rw [future, poll]
            rfl
          refine ⟨request.uri, ?_, error, ?_⟩
          · rw [← visited]
            simp [ResponseFuture.visited]
          · rw [requests_poll, sent]
            simp

/-- Every run stays within the limit. -/
theorem run_within {parsers : Parsers} {policy : Policy World} {referer httpsOnly : Bool}
    {req : Request (Extensions World) Body} {polls exchange} {max : Nat}
    (limited
      : ((layer policy referer httpsOnly).load req.extensions).currentPolicy = .limited max)
    (run
      : Run (Step parsers) (start (layer policy referer httpsOnly) parsers req) polls exchange)
    : exchange.Within max := by
  apply run.invariant
  · intro past before ctx after reached within step
    obtain ⟨running, rfl⟩ := step
    have visiting := run_visiting (by rw [limited]; rfl) reached
    rw [limited] at visiting
    exact within.poll running visiting
  · refine ⟨Nat.zero_le _, fun _ => ?_⟩
    simp only [start, call, FollowRedirectPolicy.forRequest, limited, Policy.limited,
      Policy.isNone, Bool.false_eq_true, if_false, ResponseFuture.pending?]

end Exchange

/-- Under a limit, no more hops are followed than it says and at most one more request is sent.
Every poll that comes to a decision shows the policy the targets of all requests so far, oldest
first, and goes by its answer; once the limit is reached a further redirect ends the exchange with
the error for too many of them. Other polls do not ask the policy.
-/
theorem redirects_limited (parsers : Parsers) (policy : Policy World) (referer httpsOnly : Bool)
    (req : Request (Extensions World) Body) (max : Nat)
    (limited
      : ((layer policy referer httpsOnly).load req.extensions).currentPolicy = .limited max)
    {polls : List (Context World)} {exchange : Exchange World}
    (run
      : Run (Exchange.Step parsers) (.start (layer policy referer httpsOnly) parsers req) polls
          exchange)
    : exchange.hops.length ≤ max
      ∧ exchange.requests.length ≤ max + 1
      ∧ (∀ ctx attempt,
        exchange.output = none → exchange.future.asks parsers ctx = some attempt
        → attempt.previous = exchange.requests.map Request.uri
          ∧ exchange.future.Shows parsers ctx attempt
          ∧ (exchange.hops.length = max
            → ∃ last, (exchange.requests.map Request.uri).getLast? = some last
                ∧ (exchange.poll parsers ctx).output
                  = some (.error (.redirect .tooManyRedirects last))
                ∧ (exchange.poll parsers ctx).requests = exchange.requests))
      ∧ ∀ ctx, exchange.future.asks parsers ctx = none
        → exchange.future.ShowsNothing parsers ctx := by
  have within := Exchange.run_within limited run
  have visiting := Exchange.run_visiting (by rw [limited]; rfl) run
  rw [limited] at visiting
  refine ⟨within.followed, ?_, ?_, ?_⟩
  · simpa [Exchange.requests] using within.followed
  · intro ctx attempt running asked
    refine ⟨visiting.previous_eq running asked, shows_of_asks asked, ?_⟩
    intro reached
    exact visiting.refused running asked (by omega)
  · intro ctx unasked policy other request bodyRepr future history
    rw [future] at unasked ⊢
    exact poll_unasked history unasked

/-- The limit on a cycle of two sites, one of whose redirects may be followed. -/
theorem redirects_limited_cycle
    : let exchange : Exchange Unit :=
        (Exchange.start (layer (.limited 1) false false) knownSites
          (getRoot Unit .http "a.test" .empty)).after knownSites
          [silent (), answers () 302 (some "http://b.test/")]
      let back : Context Unit := answers () 302 (some "http://a.test/")
      exchange.hops.length ≤ 1 ∧ exchange.requests.length ≤ 1 + 1
      ∧ ∃ attempt, exchange.future.asks knownSites back = some attempt
          ∧ attempt.previous = exchange.requests.map Request.uri
          ∧ ∃ last, (exchange.requests.map Request.uri).getLast? = some last
              ∧ (exchange.poll knownSites back).output
                = some (.error (.redirect .tooManyRedirects last))
              ∧ (exchange.poll knownSites back).requests = exchange.requests := by
  have run
      : Run (Exchange.Step knownSites)
          (Exchange.start (layer (.limited 1) false false) knownSites
            (getRoot Unit .http "a.test" .empty))
          [silent (), answers () 302 (some "http://b.test/")] _ :=
    Exchange.run_after (by decide)
  obtain ⟨followed, requested, decided⟩ :=
    redirects_limited knownSites (.limited 1) false false _ 1 rfl run
  obtain ⟨previous, _, refused⟩ := decided.1 (answers () 302 (some "http://a.test/")) _ rfl rfl
  exact ⟨followed, requested, _, rfl, previous, refused rfl⟩

end Tlsurl.Redirect
