import Tlsurl.Redirect.Payload

/-! How method and body evolve along a redirect chain.
The kept body holds the payload that the statuses so far lead to, also while a decision is being
awaited, so every request of the chain carries it.
-/

namespace Tlsurl.Redirect

open Library

variable {World : Type}

namespace Exchange

/-- The statuses of the redirects that were followed -/
def statuses (exchange : Exchange World) : List StatusCode :=
  exchange.hops.map (fun hop => hop.reply.status)

/-- Each request carries the payload that the statuses before it lead to. -/
def Evolves (req : Request (Extensions World) Body) (exchange : Exchange World) : Prop :=
  ∀ index request, exchange.requests[index]? = some request
    → (payloadAfter req (exchange.statuses.take index)).Sends request

/-- A redirect that would have to send a body again that can be neither cloned nor is known to
be empty is the response: the next poll returns it, and follows nothing.
-/
def ReturnsUnsendable (parsers : Parsers) (req : Request (Extensions World) Body)
    (exchange : Exchange World)
    : Prop :=
  ∀ ctx reply, exchange.output = none → exchange.future.pending? = none
    → ctx.inner = some (.ok reply) → isRedirectStatus reply.status = true
    → (payloadAfter req (exchange.statuses ++ [reply.status])).dropped = false
    → req.body.exactSize ≠ some 0 → req.body.tryClone = none
    → (∃ res, (exchange.poll parsers ctx).output = some (.ok res) ∧ res.status = reply.status
        ∧ res.headers = reply.headers)
      ∧ (exchange.poll parsers ctx).hops = exchange.hops

/-- While the future is not ready, its head and its body stand for the payload: the kept body for
that of the last request, a body taken for an awaited decision for that of the next one.
-/
def Carries (req : Request (Extensions World) Body) (exchange : Exchange World) : Prop :=
  exchange.output = none
  → ∀ pendingFuture policy request bodyRepr,
      exchange.future = .redirect pendingFuture policy request bodyRepr
      → match pendingFuture with
        | none =>
            (payloadAfter req exchange.statuses).Heads request
            ∧ bodyRepr.Holds (payloadAfter req exchange.statuses) req.body.replays
        | some state =>
            let payload := payloadAfter req (exchange.statuses ++ [exchange.lastReply.status])
            payload.Heads request ∧ Taken payload req.body.replays state.body bodyRepr

end Exchange

-----------------------------------------------------------------------------------------
-- One poll
-----------------------------------------------------------------------------------------

section Polling

variable {payload : Payload} {replays : Bool} {request : Head World} {bodyRepr : BodyRepr}

/-- A response is returned, or a redirect is awaited or followed with the payload that its status
leads to.
-/
theorem handleResponse_payload (parsers : Parsers) (world : World)
    (policy : FollowRedirectPolicy World) (res : Response) (heads : payload.Heads request)
    (holds : bodyRepr.Holds payload replays)
    : let polled := handleResponse parsers world res policy request bodyRepr
      (polled.result.isSome = true ∧ polled.sent = none)
      ∨ (∃ state decided head kept, polled.result = none ∧ polled.sent = none
          ∧ polled.next = .redirect (some state) decided head kept
          ∧ (payload.after res.status).Heads head
          ∧ Taken (payload.after res.status) replays state.body kept)
      ∨ (∃ decided head body kept location,
          polled = handleAction
            { action := .follow, policy := decided, request := head, body, bodyRepr := kept, res
              location }
          ∧ (payload.after res.status).Heads head
          ∧ Taken (payload.after res.status) replays body kept) := by
  have rewritten := rewrite_payload res.status heads holds
  unfold handleResponse
  split
  · exact .inl ⟨rfl, rfl⟩
  · cases head : rewrite res.status request bodyRepr with
    | mk head left =>
        rw [head] at rewritten
        simp only
        split
        · exact .inl ⟨rfl, rfl⟩
        · next body kept took =>
            have taken := taken_of_take rewritten.2 took
            split
            · exact .inl ⟨rfl, rfl⟩
            · next location _ =>
                split
                · exact .inl ⟨rfl, rfl⟩
                · next action decided _ =>
                    split
                    · next future settled =>
                        exact .inr (.inl ⟨_, _, _, _, rfl, rfl, rfl, rewritten.1, taken⟩)
                    · next action settled =>
                        cases action with
                        | follow => exact .inr (.inr ⟨_, _, _, _, _, rfl, rewritten.1, taken⟩)
                        | stop => exact .inl ⟨rfl, rfl⟩
                        | error err => exact .inl ⟨rfl, rfl⟩
                        | pending future => exact future.elim

/-- Following sends the payload, and keeps a body for it. -/
theorem handleAction_payload (policy : FollowRedirectPolicy World) (res : Response)
    (location : Uri) {body : Body} {kept : BodyRepr} (heads : payload.Heads request)
    (taken : Taken payload replays body kept)
    : ∃ sent decided head left,
        (handleAction
            { action := .follow, policy, request, body, bodyRepr := kept, res, location }).result
          = none
        ∧ (handleAction
            { action := .follow, policy, request, body, bodyRepr := kept, res, location }).sent
          = some sent
        ∧ (handleAction
            { action := .follow, policy, request, body, bodyRepr := kept, res, location }).next
          = .redirect none decided head left
        ∧ payload.Sends sent ∧ payload.Heads head ∧ left.Holds payload replays := by
  have moved : payload.Heads { request with uri := location } := ⟨heads.method, heads.described⟩
  have prepared := moved.onRequest policy
  exact ⟨_, _, _, _, rfl, rfl, rfl, taken.sends prepared, prepared, taken.holds⟩

end Polling

-----------------------------------------------------------------------------------------
-- The chain
-----------------------------------------------------------------------------------------

namespace Exchange

variable {parsers : Parsers} {ctx : Context World} {req : Request (Extensions World) Body}
  {exchange : Exchange World}

/-- One more status is one more rule. -/
theorem payloadAfter_snoc (statuses : List StatusCode) (status : StatusCode)
    : payloadAfter req (statuses ++ [status]) = (payloadAfter req statuses).after status := by
  simp [payloadAfter]

/-- A poll that hands nothing down keeps the requests as they are. -/
theorem Evolves.quiet (evolves : exchange.Evolves req)
    (sent : (exchange.future.poll parsers ctx).sent = none)
    : (exchange.poll parsers ctx).Evolves req := by
  intro index request found
  have same := poll_hops_of_none sent
  simp only [requests, statuses, same] at found ⊢
  exact evolves index request found

/-- A poll that hands a request down that carries the payload keeps the chain. -/
theorem Evolves.sent (evolves : exchange.Evolves req) {sent : Request (Extensions World) Body}
    (handed : (exchange.future.poll parsers ctx).sent = some sent)
    (sends : (payloadAfter req (exchange.statuses ++ [(exchange.observe ctx).status])).Sends sent)
    : (exchange.poll parsers ctx).Evolves req := by
  intro index request found
  have hops := poll_hops_of_some handed
  have same
      : (exchange.poll parsers ctx).statuses
        = exchange.statuses ++ [(exchange.observe ctx).status] := by
    simp [statuses, hops]
  have more : (exchange.poll parsers ctx).requests = exchange.requests ++ [sent] := by
    unfold requests
    rw [hops]
    simp [poll]
  have length : exchange.requests.length = exchange.statuses.length + 1 := by
    simp [requests, statuses]
  rw [more] at found
  rw [same]
  rcases Nat.lt_or_ge index exchange.requests.length with old | new
  · rw [List.getElem?_append_left old] at found
    rw [List.take_append_of_le_length (by omega)]
    exact evolves index request found
  · rw [List.getElem?_append_right new] at found
    obtain ⟨inside, rfl⟩ := List.getElem?_eq_some_iff.mp found
    have last : index = exchange.requests.length := by
      simp only [List.length_cons, List.length_nil] at inside
      omega
    rw [List.take_of_length_le (by simp; omega)]
    simpa [last] using sends

/-- The first request carries its own payload. -/
theorem start_evolves (self : FollowRedirectPolicy World) (parsers : Parsers)
    (req : Request (Extensions World) Body)
    : (start self parsers req).Evolves req := by
  have own {B : Type} (head : Request (Extensions World) B) (method : head.method = req.method)
      : (payloadAfter req []).Heads head :=
    ⟨method, fun dropped => by simp [payloadAfter] at dropped⟩
  intro index request found
  cases index with
  | succ index => simp [requests, start] at found
  | zero =>
      simp only [requests, start, call] at found
      split at found
      · cases found
        exact ⟨own _ rfl, rfl, fun dropped => by simp [payloadAfter] at dropped⟩
      · next policy _ =>
          cases found
          have prepared := (own { req with extensions := {} } rfl).onRequest policy
          refine ⟨prepared, ?_, fun dropped => by simp [payloadAfter] at dropped⟩
          unfold FollowRedirectPolicy.onRequest
          split <;> rfl

/-- At the call the kept body holds the payload of the first request. -/
theorem start_carries (self : FollowRedirectPolicy World) (parsers : Parsers)
    (req : Request (Extensions World) Body) (sized : req.body.Sized)
    : (start self parsers req).Carries req := by
  intro _ pendingFuture policy request bodyRepr future
  obtain ⟨loaded, -, rfl, rfl, -, rfl, first⟩ := start_redirect future
  have own : (payloadAfter req []).Heads { req with extensions := ({} : Extensions World) } :=
    ⟨rfl, fun dropped => by simp [payloadAfter] at dropped⟩
  have prepared := own.onRequest loaded
  rw [first]
  exact ⟨⟨prepared.method, prepared.described⟩, holds_new sized⟩

/-- A poll after which the future is ready leaves nothing to carry. -/
theorem carries_of_ready (ready : (exchange.future.poll parsers ctx).result.isSome = true)
    : (exchange.poll parsers ctx).Carries req := by
  intro running
  simp only [poll] at running
  simp [running] at ready

/-- A poll that follows a redirect keeps the chain and what is carried. -/
theorem follow_carries {policy : FollowRedirectPolicy World} {request : Head World} {body : Body}
    {kept : BodyRepr} {res : Response} {location : Uri} (evolves : exchange.Evolves req)
    (effect
      : exchange.future.poll parsers ctx
        = handleAction
            { action := .follow, policy, request, body, bodyRepr := kept, res, location })
    (heads
      : (payloadAfter req (exchange.statuses ++ [(exchange.observe ctx).status])).Heads request)
    (taken
      : Taken (payloadAfter req (exchange.statuses ++ [(exchange.observe ctx).status]))
          req.body.replays body kept)
    : (exchange.poll parsers ctx).Evolves req ∧ (exchange.poll parsers ctx).Carries req := by
  obtain ⟨sent, decided, head, left, _, handed, next, sends, heads, holds⟩ :=
    handleAction_payload policy res location heads taken
  rw [← effect] at handed next
  refine ⟨evolves.sent handed sends, ?_⟩
  intro _ pendingFuture policy request bodyRepr future
  simp only [poll, next] at future
  cases future
  have same
      : (exchange.poll parsers ctx).statuses
        = exchange.statuses ++ [(exchange.observe ctx).status] := by
    simp [statuses, poll_hops_of_some handed]
  rw [same]
  exact ⟨heads, holds⟩

/-- A poll that leaves the future as it is keeps the chain and what is carried. -/
theorem wait_carries {pendingFuture : Option (Pending World)}
    {policy : FollowRedirectPolicy World} {request : Head World} {bodyRepr : BodyRepr}
    (running : exchange.output = none) (evolves : exchange.Evolves req)
    (carries : exchange.Carries req)
    (future : exchange.future = .redirect pendingFuture policy request bodyRepr)
    (effect
      : exchange.future.poll parsers ctx
        = { result := none, next := .redirect pendingFuture policy request bodyRepr })
    (observed : pendingFuture.isSome = true → exchange.observe ctx = exchange.lastReply)
    : (exchange.poll parsers ctx).Evolves req ∧ (exchange.poll parsers ctx).Carries req := by
  have handed : (exchange.future.poll parsers ctx).sent = none := by rw [effect]
  refine ⟨evolves.quiet handed, ?_⟩
  intro _ pendingFuture' policy' request' bodyRepr' later
  simp only [poll, effect] at later
  cases later
  have carried := carries running _ _ _ _ future
  have same : (exchange.poll parsers ctx).statuses = exchange.statuses := by
    simp [statuses, poll_hops_of_none handed]
  rw [same]
  cases pendingFuture with
  | none => exact carried
  | some state =>
      have last : (exchange.poll parsers ctx).lastReply = exchange.lastReply := observed rfl
      rw [last]
      exact carried

/-- A poll that gets a reply handles it as a response. -/
theorem poll_reply (parsers : Parsers) {policy : FollowRedirectPolicy World} {request : Head World}
    {bodyRepr : BodyRepr} {reply : Reply}
    (future : exchange.future = .redirect none policy request bodyRepr)
    (inner : ctx.inner = some (.ok reply))
    : exchange.future.poll parsers ctx
      = handleResponse parsers ctx.world (reply.received request) policy request bodyRepr := by
  simp [future, ResponseFuture.poll, inner, Reply.received]

/-- A poll that gets a reply keeps the chain and what is carried. -/
theorem reply_carries {policy : FollowRedirectPolicy World} {request : Head World}
    {bodyRepr : BodyRepr} {reply : Reply} (evolves : exchange.Evolves req)
    (future : exchange.future = .redirect none policy request bodyRepr)
    (inner : ctx.inner = some (.ok reply))
    (heads : (payloadAfter req exchange.statuses).Heads request)
    (holds : bodyRepr.Holds (payloadAfter req exchange.statuses) req.body.replays)
    : (exchange.poll parsers ctx).Evolves req ∧ (exchange.poll parsers ctx).Carries req := by
  have observed : exchange.observe ctx = reply := by
    simp [observe, future, ResponseFuture.pending?, inner]
  have rules
      : (payloadAfter req exchange.statuses).after (reply.received request).status
        = payloadAfter req (exchange.statuses ++ [(exchange.observe ctx).status]) := by
    rw [payloadAfter_snoc, observed]
    rfl
  have outcome :=
    handleResponse_payload parsers ctx.world policy (reply.received request) heads holds
  rw [← poll_reply parsers future inner, rules] at outcome
  rcases outcome with ready | deferred | followed
  · exact ⟨evolves.quiet ready.2, carries_of_ready ready.1⟩
  · obtain ⟨state, decided, head, kept, _, sent, next, heads, taken⟩ := deferred
    refine ⟨evolves.quiet sent, ?_⟩
    intro _ pendingFuture policy request bodyRepr later
    simp only [poll, next] at later
    cases later
    have same : (exchange.poll parsers ctx).statuses = exchange.statuses := by
      simp [statuses, poll_hops_of_none sent]
    rw [same]
    exact ⟨heads, taken⟩
  · obtain ⟨decided, head, body, kept, location, effect, heads, taken⟩ := followed
    exact follow_carries evolves effect heads taken

/-- One poll keeps the chain and what is carried. -/
theorem poll_carries (running : exchange.output = none) (evolves : exchange.Evolves req)
    (carries : exchange.Carries req)
    : (exchange.poll parsers ctx).Evolves req ∧ (exchange.poll parsers ctx).Carries req := by
  cases future : exchange.future with
  | direct =>
      refine ⟨evolves.quiet (by rw [future]; rfl), ?_⟩
      intro _ pendingFuture policy request bodyRepr later
      simp [poll, future, ResponseFuture.poll] at later
  | redirect pendingFuture policy request bodyRepr =>
      have carried := carries running _ _ _ _ future
      have ready (result : (exchange.future.poll parsers ctx).result.isSome = true)
          (sent : (exchange.future.poll parsers ctx).sent = none)
          : (exchange.poll parsers ctx).Evolves req ∧ (exchange.poll parsers ctx).Carries req :=
        ⟨evolves.quiet sent, carries_of_ready result⟩
      cases pendingFuture with
      | some state =>
          have observed : exchange.observe ctx = exchange.lastReply := by
            simp [observe, future, ResponseFuture.pending?]
          cases resolved : state.future ctx.world with
          | none =>
              refine wait_carries running evolves carries future ?_ (fun _ => observed)
              simp [future, ResponseFuture.poll, resolved]
          | some action =>
              cases action with
              | follow =>
                  have effect
                      : exchange.future.poll parsers ctx
                        = handleAction
                            { action := .follow, policy, request, body := state.body, bodyRepr
                              res := state.res, location := state.location } := by
                    simp [future, ResponseFuture.poll, resolved]
                  rw [← observed] at carried
                  exact follow_carries evolves effect carried.1 carried.2
              | stop =>
                  exact ready (by simp [future, ResponseFuture.poll, resolved, handleAction])
                    (by simp [future, ResponseFuture.poll, resolved, handleAction])
              | error err =>
                  exact ready (by simp [future, ResponseFuture.poll, resolved, handleAction])
                    (by simp [future, ResponseFuture.poll, resolved, handleAction])
              | pending never => exact never.elim
      | none =>
          cases inner : ctx.inner with
          | none =>
              refine wait_carries running evolves carries future ?_
                (fun pending => by cases pending)
              simp [future, ResponseFuture.poll, inner]
          | some answer =>
              cases answer with
              | error err =>
                  exact ready (by simp [future, ResponseFuture.poll, inner])
                    (by simp [future, ResponseFuture.poll, inner])
              | ok reply => exact reply_carries evolves future inner carried.1 carried.2

/-- A redirect that would have to send an unsendable body again is returned. -/
theorem Carries.returns (carries : exchange.Carries req)
    : exchange.ReturnsUnsendable parsers req := by
  intro ctx reply running fresh inner redirects undropped unknown unclonable
  have once : req.body.replays = false := by simp [Body.replays, unknown, unclonable]
  have returned (res : Response) (sent : (exchange.future.poll parsers ctx).sent = none)
      (result : (exchange.future.poll parsers ctx).result = some (.ok res))
      (status : res.status = reply.status) (headers : res.headers = reply.headers)
      : (∃ res, (exchange.poll parsers ctx).output = some (.ok res) ∧ res.status = reply.status
            ∧ res.headers = reply.headers)
        ∧ (exchange.poll parsers ctx).hops = exchange.hops :=
    ⟨⟨res, result, status, headers⟩, poll_hops_of_none sent⟩
  cases future : exchange.future with
  | direct =>
      refine returned reply.toResponse ?_ ?_ rfl rfl
      · rw [future]
        rfl
      · simp [future, ResponseFuture.poll, inner, Except.map]
  | redirect pendingFuture policy request bodyRepr =>
      have carried := carries running _ _ _ _ future
      simp only [future, ResponseFuture.pending?] at fresh
      subst fresh
      have rewritten := rewrite_payload reply.status carried.1 carried.2
      rw [← payloadAfter_snoc] at rewritten
      have none := take_none rewritten.2 undropped once
      have polls := poll_reply parsers future inner
      have status : (reply.received request).status = reply.status := rfl
      refine returned (reply.received request) ?_ ?_ rfl rfl
      · simp [polls, handleResponse, status, redirects, none]
      · simp [polls, handleResponse, status, redirects, none]

end Exchange

/-- In every state of a redirect chain each request carries the payload that the statuses before
it lead to, and a redirect that would have to send an unsendable body again is the response.
-/
theorem payload_follows_statuses (parsers : Parsers) (self : FollowRedirectPolicy World)
    (req : Request (Extensions World) Body) (sized : req.body.Sized)
    {polls : List (Context World)} {exchange : Exchange World}
    (run : Run (Exchange.Step parsers) (Exchange.start self parsers req) polls exchange)
    : exchange.Evolves req ∧ exchange.ReturnsUnsendable parsers req := by
  have both : exchange.Evolves req ∧ exchange.Carries req := by
    apply run.invariant
    · rintro _ before ctx after _ ⟨evolves, carries⟩ ⟨running, rfl⟩
      exact Exchange.poll_carries running evolves carries
    · exact ⟨Exchange.start_evolves self parsers req, Exchange.start_carries self parsers req sized⟩
  exact ⟨both.1, both.2.returns⟩

/-- A `POST` of the bytes `n=1` whose body is kept by 307, dropped by 302 and stays dropped under
308, with one decision awaited.
-/
theorem payload_follows_statuses_mixed
    : let request : Request (Extensions Nat) Body :=
        { getRoot Nat .https "a.test" (HeaderMap.empty.insert "content-type" { bytes := ascii "x" })
          with method := .post, body := .reusable (ascii "n=1") }
      let exchange :=
        (Exchange.start (layer deferring true true) knownSites request).after knownSites
          [answers 0 307 (some "https://A.test/"), silent 0, silent 1
          , answers 1 302 (some "https://a.test/"), silent 2
          , answers 2 308 (some "https://A.test/"), silent 3]
      exchange.requests.map (fun request => (request.method, request.body))
        = [ (.post, .reusable (ascii "n=1")), (.post, .reusable (ascii "n=1"))
          , (.get, .empty), (.get, .empty) ]
      ∧ exchange.Evolves request ∧ exchange.ReturnsUnsendable knownSites request := by
  refine ⟨by decide, ?_⟩
  exact payload_follows_statuses knownSites (layer deferring true true) _ (by trivial)
    (Exchange.run_after (by decide))

end Tlsurl.Redirect
