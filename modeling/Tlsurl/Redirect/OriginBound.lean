import Mathlib.Data.List.Chain
import Tlsurl.Redirect.PollCases

/-! Credentials stay with the origin they were given for.
Each request is linked to the one before it: a sensitive header goes over unchanged within an
origin and is gone after leaving it. The chain of links carries the property over all hops.
-/

namespace Tlsurl.Redirect

open Library

variable {World : Type}

/-- The headers that `remove_sensitive_headers` removes. -/
def sensitiveHeaders : List HeaderName :=
  ["authorization", "cookie", "cookie2", "proxy-authorization", "www-authenticate"]

/-- The same scheme, the same host up to ASCII case, and the same effective port. -/
structure SameOrigin (left right : Uri) : Prop where
  scheme : left.scheme = right.scheme
  host : left.host.map (List.map toAsciiLowercase) = right.host.map (List.map toAsciiLowercase)
  port : left.portOrDefault = right.portOrDefault

/-- The comparison of the source decides it, by cases on the two hosts. -/
theorem sameOrigin_iff {left right : Uri}
    : sameOrigin left right = true ↔ SameOrigin left right := by
  have split : SameOrigin left right
      ↔ left.host.map (List.map toAsciiLowercase) = right.host.map (List.map toAsciiLowercase)
        ∧ left.scheme = right.scheme ∧ left.portOrDefault = right.portOrDefault :=
    ⟨fun same => ⟨same.host, same.scheme, same.port⟩,
      fun ⟨host, scheme, port⟩ => ⟨scheme, host, port⟩⟩
  rw [split]
  unfold sameOrigin
  cases left.host <;> cases right.host <;> simp [eqIgnoreAsciiCase_iff, and_assoc]

theorem SameOrigin.symm {left right : Uri} (same : SameOrigin left right)
    : SameOrigin right left :=
  ⟨same.scheme.symm, same.host.symm, same.port.symm⟩

/-- A sensitive header survives exactly when the last URI has the origin of the target. -/
theorem getAll_removeSensitiveHeaders {uri last : Uri} {headers : HeaderMap}
    {previous : List Uri} {name : HeaderName} (sensitive : name ∈ sensitiveHeaders)
    (visited : previous.getLast? = some last)
    : (removeSensitiveHeaders uri headers previous).getAll name
      = if sameOrigin uri last then headers.getAll name else [] := by
  simp only [sensitiveHeaders, List.mem_cons, List.not_mem_nil, or_false] at sensitive
  unfold removeSensitiveHeaders
  rw [visited]
  cases same : sameOrigin uri last with
  | true => simp [same]
  | false => rcases sensitive with rfl | rfl | rfl | rfl | rfl <;> simp [same]

/-- Rewriting for a status drops payload headers only. -/
theorem getAll_rewrite {status : StatusCode} {request : Head World} {bodyRepr : BodyRepr}
    {name : HeaderName} (sensitive : name ∈ sensitiveHeaders)
    : (rewrite status request bodyRepr).1.headers.getAll name = request.headers.getAll name := by
  have dropped (headers : HeaderMap)
      : (dropPayloadHeaders headers).getAll name = headers.getAll name := by
    simp only [sensitiveHeaders, List.mem_cons, List.not_mem_nil, or_false] at sensitive
    rcases sensitive with rfl | rfl | rfl | rfl | rfl <;> simp [dropPayloadHeaders]
  unfold rewrite
  split
  · split
    · exact dropped request.headers
    · rfl
  · split
    · exact dropped request.headers
    · rfl

-----------------------------------------------------------------------------------------
-- Links between consecutive requests
-----------------------------------------------------------------------------------------

/-- Two heads with the same target and the same sensitive headers. -/
def Agree {B C : Type} (left : Request (Extensions World) B) (right : Request (Extensions World) C)
    : Prop :=
  left.uri = right.uri
  ∧ ∀ name ∈ sensitiveHeaders, left.headers.getAll name = right.headers.getAll name

/-- What a request may carry over from the one before it. -/
def Link (left right : Request (Extensions World) Body) : Prop :=
  ∀ name ∈ sensitiveHeaders,
    right.headers.getAll name
      = if sameOrigin right.uri left.uri then left.headers.getAll name else []

/-- Following from a head that agrees with the last request sends a linked request, and the
head kept agrees with it, provided that the handler visited the target of that head last.
-/
theorem handleAction_link {policy : FollowRedirectPolicy World} {request : Head World}
    {body : Body} {bodyRepr : BodyRepr} {res : Response} {location : Uri}
    {polled : Polled World} {last : Request (Extensions World) Body}
    (effect
      : polled
        = handleAction { action := .follow, policy, request, body, bodyRepr, res, location })
    (agree : Agree request last) (visited : policy.uris.getLast? = some request.uri)
    : ∃ decided head kept sent, polled.next = .redirect none decided head kept
      ∧ polled.result = none ∧ polled.sent = some sent ∧ Link last sent ∧ Agree head sent := by
  obtain ⟨decided, head, kept, prepared, result, next, sent, uri, _, _⟩ :=
    handleAction_follow effect
  refine ⟨decided, head, kept, _, next, result, sent, ?_, rfl, fun _ _ => rfl⟩
  intro name sensitive
  have other : name ≠ "referer" := by rintro rfl; exact absurd sensitive (by decide)
  have headers := policy.getAll_onRequest { request with uri := location } other
  rw [prepared, getAll_removeSensitiveHeaders sensitive visited] at headers
  simp only [Request.withBody, uri]
  rw [headers, agree.1, agree.2 name sensitive]

namespace Exchange

/-- The requests form a chain of links, and a running future keeps a head that agrees with
the last one; the handler of a pending action visited the target of that head last.
-/
structure Linked (exchange : Exchange World) : Prop where
  chain : exchange.requests.IsChain Link
  head
    : exchange.output = none
      → ∀ pendingFuture policy request bodyRepr,
        exchange.future = .redirect pendingFuture policy request bodyRepr
        → ∃ last, exchange.requests.getLast? = some last ∧ Agree request last
          ∧ (pendingFuture.isSome = true → policy.uris.getLast? = some request.uri)

/-- The first request alone is linked. -/
theorem start_linked (self : FollowRedirectPolicy World) (parsers : Parsers)
    (req : Request (Extensions World) Body)
    : (start self parsers req).Linked where
  chain := .singleton _
  head := by
    intro _ pendingFuture policy request bodyRepr future
    refine ⟨(start self parsers req).first, rfl, ?_⟩
    obtain ⟨loaded, -, rfl, -, -, rfl, -⟩ := start_redirect future
    exact ⟨⟨rfl, fun _ _ => rfl⟩, nofun⟩

/-- A poll that hands nothing down and goes on from an agreeing head keeps the links. -/
private theorem linked_quiet {parsers : Parsers} {ctx : Context World}
    {exchange : Exchange World} (linked : exchange.Linked)
    (sent : (exchange.future.poll parsers ctx).sent = none)
    (head
      : (exchange.poll parsers ctx).output = none
        → ∀ pendingFuture policy request bodyRepr,
          (exchange.future.poll parsers ctx).next = .redirect pendingFuture policy request bodyRepr
          → ∃ last, exchange.requests.getLast? = some last ∧ Agree request last
            ∧ (pendingFuture.isSome = true → policy.uris.getLast? = some request.uri))
    : (exchange.poll parsers ctx).Linked := by
  have same : (exchange.poll parsers ctx).requests = exchange.requests := by
    unfold requests
    rw [poll_hops_of_none sent]
    rfl
  exact ⟨same ▸ linked.chain, fun running => same ▸ head running⟩

/-- A poll that hands a linked request down keeps the links. -/
private theorem linked_sent {parsers : Parsers} {ctx : Context World}
    {exchange : Exchange World} (linked : exchange.Linked)
    {last request : Request (Extensions World) Body}
    {decided : FollowRedirectPolicy World} {head : Head World} {kept : BodyRepr}
    (latest : exchange.requests.getLast? = some last)
    (sent : (exchange.future.poll parsers ctx).sent = some request)
    (next : (exchange.future.poll parsers ctx).next = .redirect none decided head kept)
    (link : Link last request) (agree : Agree head request)
    : (exchange.poll parsers ctx).Linked := by
  have more : (exchange.poll parsers ctx).requests = exchange.requests ++ [request] := by
    unfold requests
    rw [poll_hops_of_some sent]
    simp [poll]
  constructor
  · rw [more, List.isChain_append]
    refine ⟨linked.chain, .singleton _, ?_⟩
    intro left leftLast right rightFirst
    simp only [List.head?_cons, Option.mem_some_iff] at rightFirst
    cases rightFirst
    cases Option.mem_unique leftLast latest
    exact link
  · intro _ pendingFuture policy head' bodyRepr future
    cases next.symm.trans future
    exact ⟨request, by simp [more], agree, by simp⟩

/-- One poll keeps the links, by cases on what the poll does. -/
theorem poll_linked (parsers : Parsers) (ctx : Context World) (exchange : Exchange World)
    (running : exchange.output = none) (linked : exchange.Linked)
    : (exchange.poll parsers ctx).Linked := by
  cases future : exchange.future with
  | direct =>
      refine linked_quiet linked (by rw [future]; rfl) ?_
      intro _ _ _ _ _ next
      rw [future] at next
      cases next
  | redirect pendingFuture policy request bodyRepr =>
      obtain ⟨last, latest, agree, visited⟩ := linked.head running _ _ _ _ future
      have ready (sent : (exchange.future.poll parsers ctx).sent = none)
          {answer : Except BoxError Response}
          (result : (exchange.future.poll parsers ctx).result = some answer)
          : (exchange.poll parsers ctx).Linked :=
        linked_quiet linked sent (fun output => by simp [poll, result] at output)
      have rewritten {status : StatusCode} {head : Head World}
          (rewrites : ∃ body, (rewrite status request body).1 = head)
          : Agree head last := by
        obtain ⟨body, rfl⟩ := rewrites
        refine ⟨(rewrite_uri status request body).trans agree.1, ?_⟩
        intro name sensitive
        exact (getAll_rewrite sensitive).trans (agree.2 name sensitive)
      rw [future] at ready
      cases poll_cases parsers ctx pendingFuture policy request bodyRepr with
      | waits _ sent next _ _ =>
          refine linked_quiet linked (by rw [future]; exact sent) ?_
          intro _ _ _ _ _ later
          rw [future, next] at later
          cases later
          exact ⟨last, latest, agree, visited⟩
      | fails result sent _ => exact ready sent result
      | finishes _ _ _ result sent => exact ready sent result
      | returns _ _ _ result sent => exact ready sent result
      | stops _ _ result sent => exact ready sent result
      | defers state _ _ _ head decision _ _ sent next =>
          refine linked_quiet linked (by rw [future]; exact sent) ?_
          intro _ _ _ _ _ later
          rw [future, next] at later
          cases later
          refine ⟨last, latest, rewritten head, fun _ => ?_⟩
          simp [(FollowRedirectPolicy.redirect_ok decision).1, Reply.attempt]
      | follows _ _ _ head decision effect =>
          have visited := (FollowRedirectPolicy.redirect_ok decision).1
          obtain ⟨_, _, _, _, next, _, sent, link, agree⟩ :=
            handleAction_link effect (rewritten head) (by simp [visited, Reply.attempt])
          exact linked_sent linked latest (by rw [future]; exact sent)
            (by rw [future]; exact next) link agree
      | resumes awaited _ effect =>
          obtain ⟨_, _, _, _, next, _, sent, link, agree⟩ :=
            handleAction_link effect agree (visited (by rw [awaited]; rfl))
          exact linked_sent linked latest (by rw [future]; exact sent)
            (by rw [future]; exact next) link agree

/-- In every reachable state the requests form a chain of links. -/
theorem run_linked {parsers : Parsers} {self : FollowRedirectPolicy World}
    {req : Request (Extensions World) Body} {polls exchange}
    (run : Run (Step parsers) (start self parsers req) polls exchange)
    : exchange.Linked := by
  refine run.invariant ?_ (start_linked self parsers req)
  rintro past before ctx after _ kept ⟨running, rfl⟩
  exact poll_linked parsers ctx before running kept

end Exchange

-----------------------------------------------------------------------------------------
-- The whole chain
-----------------------------------------------------------------------------------------

/-- A header that a linked request carries was carried by the request before it, to the same
origin.
-/
theorem Link.carried {left right : Request (Extensions World) Body} {name : HeaderName}
    (link : Link left right) (sensitive : name ∈ sensitiveHeaders)
    (carries : right.headers.containsKey name = true)
    : SameOrigin left.uri right.uri ∧ left.headers.containsKey name = true := by
  rw [HeaderMap.containsKey_iff, link name sensitive] at carries
  split at carries
  · next same => exact ⟨(sameOrigin_iff.mp same).symm, HeaderMap.containsKey_iff.mpr carries⟩
  · exact absurd rfl carries

/-- Along a chain of links a carried header goes back to every earlier request, by induction
on the distance.
-/
theorem carried_back {requests : List (Request (Extensions World) Body)}
    (chain : requests.IsChain Link) {name : HeaderName} (sensitive : name ∈ sensitiveHeaders)
    {k : Nat} (inside : k < requests.length)
    (carries : requests[k].headers.containsKey name = true)
    {i : Nat} (earlier : i ≤ k)
    : requests[i].headers.containsKey name = true := by
  induction k with
  | zero =>
      obtain rfl : i = 0 := by omega
      exact carries
  | succ k ih =>
      rcases Nat.lt_or_eq_of_le earlier with before | rfl
      · have link := List.isChain_iff_getElem.mp chain k inside
        exact ih (by omega) (link.carried sensitive carries).2 (by omega)
      · exact carries

/-- No credential crosses an origin. If a request of the chain carries a sensitive header,
every hop up to it stayed within the origin; and a request without the header is followed by
none that carries it.
-/
theorem credentials_stay_within_origin (parsers : Parsers) (policy : Policy World)
    (referer httpsOnly : Bool) (req : Request (Extensions World) Body)
    {polls : List (Context World)} {exchange : Exchange World}
    (run
      : Run (Exchange.Step parsers) (Exchange.start (layer policy referer httpsOnly) parsers req)
          polls exchange)
    {name : HeaderName} (sensitive : name ∈ sensitiveHeaders)
    : (∀ k (inside : k < exchange.requests.length),
        exchange.requests[k].headers.containsKey name = true
        → ∀ i (_ : i < k),
          SameOrigin exchange.requests[i].uri exchange.requests[i + 1].uri)
      ∧ ∀ k (inside : k < exchange.requests.length) j (_ : j ≤ k),
        exchange.requests[j].headers.containsKey name = false
        → exchange.requests[k].headers.containsKey name = false := by
  have chain := (Exchange.run_linked run).chain
  constructor
  · intro k inside carries i before
    have next : exchange.requests[i + 1].headers.containsKey name = true :=
      carried_back chain sensitive inside carries before
    exact ((List.isChain_iff_getElem.mp chain i (by omega)).carried sensitive next).1
  · intro k inside j earlier removed
    rw [← Bool.not_eq_true] at removed ⊢
    exact fun carries => removed (carried_back chain sensitive inside carries earlier)

/-- A chain of two deferred hops on one host, spelled in two ways, with a cookie. -/
theorem credentials_stay_within_origin_sample
    : let cookies := HeaderMap.empty.insert "cookie" { bytes := ascii "s=1" }
      let exchange : Exchange Nat :=
        (Exchange.start (layer deferring true true) knownSites
          (getRoot Nat .https "a.test" cookies)).after knownSites
          [answers 0 302 (some "https://A.test/"), silent 0, silent 1
          , answers 1 302 (some "https://a.test/"), answers 1 200 none]
      exchange.requests.length = 3
      ∧ ∀ i (_ : i < 2) (_ : i + 1 < exchange.requests.length),
        SameOrigin exchange.requests[i].uri exchange.requests[i + 1].uri := by
  refine ⟨by decide, fun i before _ => ?_⟩
  exact (credentials_stay_within_origin knownSites deferring true true _
    (Exchange.run_after (by decide)) (by decide : "cookie" ∈ sensitiveHeaders)).1 2
    (by decide) (by decide) i before

end Tlsurl.Redirect
