import Tlsurl.Redirect.Disclosure
import Tlsurl.Redirect.PollCases

/-! The `Referer` of a redirect chain is the one that the Referrer Policy specification
determines: policies by the last recognised token, sources by what was sent before.
-/

namespace Tlsurl.Redirect

open Library

variable {World : Type}

/-- The recognised policy tokens of a response, in order -/
def recognised (headers : HeaderMap) : List ReferrerPolicy :=
  let values := (headers.getAll "referrer-policy").filterMap HeaderValue.toStr
  let tokens := values.flatMap (fun value => value.splitOn 44)
  (tokens.map (fun token => ReferrerPolicy.ofToken (ReferrerPolicy.trim token))).filter
    (fun policy => policy ≠ .none)

/-- The last recognised policy of some responses, or the default one -/
def lastRecognised (replies : List Reply) : ReferrerPolicy :=
  (replies.flatMap (fun reply => recognised reply.headers)).getLast?.getD
    .strictOriginWhenCrossOrigin

/-- The URL in the caller's `Referer` -/
def callerReferer (parsers : Parsers) (req : Request (Extensions World) Body) : Option Url :=
  ((req.headers.get "referer").bind HeaderValue.toStr).bind parsers.urlParse

/-- The caller's `Referer` when it is an `http` or `https` URL -/
def webReferer (parsers : Parsers) (req : Request (Extensions World) Body) : Option Url :=
  (callerReferer parsers req).filter Url.isWeb

/-- A URL that the sources send as it is: valid, of the web, and stripped -/
structure Presentable (url : Url) : Prop where
  valid : url.Valid
  web : url.isWeb = true
  stripped : referrerUrl url = url

-----------------------------------------------------------------------------------------
-- Policies
-----------------------------------------------------------------------------------------

/-- Keeping the last token that parses is taking the last that parses. -/
theorem foldl_tokens (tokens : List Str) (policy : ReferrerPolicy)
    : tokens.foldl
        (fun policy token =>
          let parsed := ReferrerPolicy.ofToken (ReferrerPolicy.trim token)
          if parsed ≠ .none then parsed else policy)
        policy
      = ((tokens.map (fun token => ReferrerPolicy.ofToken (ReferrerPolicy.trim token))).filter
          (fun policy => policy ≠ .none)).getLast?.getD policy := by
  induction tokens using List.reverseRecOn with
  | nil => rfl
  | append_singleton tokens token ih =>
      rw [List.foldl_append, ih, List.map_append, List.filter_append]
      simp only [List.foldl_cons, List.foldl_nil, List.map_cons, List.map_nil]
      split
      · next known => simp [known]
      · next unknown => simp [unknown]

theorem ofHeaders_eq (headers : HeaderMap)
    : ReferrerPolicy.ofHeaders headers = (recognised headers).getLast?.getD .none :=
  foldl_tokens _ _

/-- A redirect response changes the policy if it names one. -/
theorem onRedirect_eq (referrer : Referrer) (headers : HeaderMap)
    : referrer.onRedirect headers
      = { referrer with policy := (recognised headers).getLast?.getD referrer.policy } := by
  unfold Referrer.onRedirect
  rw [ofHeaders_eq]
  cases last : (recognised headers).getLast? with
  | none => rfl
  | some policy =>
      have known : policy ≠ .none := by
        have member := List.mem_of_getLast? last
        simpa using (List.mem_filter.mp member).2
      simp only [Option.getD_some]

theorem lastRecognised_snoc (replies : List Reply) (reply : Reply)
    : lastRecognised (replies ++ [reply])
      = (recognised reply.headers).getLast?.getD (lastRecognised replies) := by
  unfold lastRecognised
  rw [List.flatMap_append, List.getLast?_append]
  cases last : (recognised reply.headers).getLast? <;> simp [last]

-----------------------------------------------------------------------------------------
-- Sources
-----------------------------------------------------------------------------------------

section Sources

variable {source url : Url} {level : Disclosure}

theorem Presentable.bare (presentable : Presentable url) : url.Bare := by
  rw [← presentable.stripped]
  exact bare_referrerUrl

theorem Presentable.hosted (presentable : Presentable url) : ∃ host, url.host = some host := by
  have hosted := presentable.valid.hosted presentable.web
  unfold Url.canHaveCredentials at hosted
  cases found : url.host with
  | none => simp [found] at hosted
  | some host => exact ⟨host, rfl⟩

theorem valid_referrerOrigin (valid : source.Valid) : (referrerOrigin source).Valid where
  scheme := valid.scheme
  host := valid.host
  path := (by decide : Str.Plain (ascii "?#") (ascii "/"))
  query query member := by cases member
  hosted := valid.hosted
  rooted _ := rfl

/-- What is revealed of a valid web URL can be sent. -/
theorem presentable_of_reveal (valid : source.Valid) (web : source.isWeb = true)
    (revealed : level.reveal source = some url)
    : Presentable url where
  valid := by
    cases level with
    | nothing => cases revealed
    | origin => cases revealed; exact valid_referrerOrigin valid
    | full =>
        cases revealed
        unfold referrerUrl
        simp only
        split
        · exact valid_referrerOrigin valid
        · exact ⟨valid.scheme, valid.host, valid.path, valid.query, valid.hosted, valid.rooted⟩
  web := (reveal_isWeb revealed).trans web
  stripped := referrerUrl_of_reveal revealed

/-- The scheme of a web URL -/
theorem parse_web (web : url.isWeb = true)
    : Scheme.parse url.scheme
      = some (if url.scheme = ascii "https" then .https else .http) := by
  simp only [Url.isWeb, Bool.or_eq_true, decide_eq_true_eq] at web
  rcases web with web | web <;> · rw [web]; rfl

theorem parse_eq_web {text : Str} {scheme : Scheme} (parsed : Scheme.parse text = some scheme)
    : (scheme = .http → text = ascii "http") ∧ (scheme = .https → text = ascii "https") := by
  unfold Scheme.parse at parsed
  constructor
  · rintro rfl
    simp only at parsed
    split at parsed
    · assumption
    · split at parsed
      · cases parsed
      · split at parsed <;> cases parsed
  · rintro rfl
    simp only at parsed
    split at parsed
    · cases parsed
    · split at parsed
      · assumption
      · split at parsed <;> cases parsed

/-- On `http` and `https` URLs the path is cleared to the root. -/
theorem stripToOriginUrl_eq (web : url.isWeb = true) (bare : url.Bare)
    : stripToOriginUrl url = referrerOrigin url := by
  have special : url.clearPath = { url with path := ascii "/" } := by
    simp only [Url.isWeb, Bool.or_eq_true, decide_eq_true_eq] at web
    unfold Url.clearPath
    rcases web with web | web <;> simp [web]
  simp only [stripToOriginUrl, special, referrerOrigin, bare.username, bare.password]

/-- The caller's `Referer` is captured as the specification strips it. -/
theorem parseReferrer_eq {parsers : Parsers} (standard : parsers.Standard) (value : HeaderValue)
    : parseReferrer parsers value
      = ((value.toStr.bind parsers.urlParse).filter Url.isWeb).map referrerUrl := by
  unfold parseReferrer
  cases value.toStr with
  | none => rfl
  | some text =>
      cases parsed : parsers.urlParse text with
      | none => simp [parsed]
      | some url =>
          simp only [Option.bind_eq_bind, Option.bind_some, parsed]
          cases web : url.isWeb with
          | true =>
              have credentials := (standard text url parsed web).hosted web
              have username : url.clearUsername = some { url with username := [] } := by
                rw [Url.clearUsername, if_pos credentials]
              have password
                  : Url.clearPassword { url with username := [] }
                    = some { url with username := [], password := none } := by
                rw [Url.clearPassword]
                exact if_pos credentials
              have origin
                  : stripToOriginUrl { url with username := [], password := none, fragment := none }
                    = referrerOrigin url :=
                stripToOriginUrl_eq web ⟨rfl, rfl, rfl⟩
              simp only [parse_web web, Option.bind_some, username, password, Option.filter_some,
                web, if_true, Option.map_some, origin, referrerUrl]
              split <;> simp_all
          | false =>
              rw [Option.filter_some, if_neg (by simp [web]), Option.map_none]
              cases scheme : Scheme.parse url.scheme with
              | none => rfl
              | some scheme' =>
                  have other : scheme' ≠ .http ∧ scheme' ≠ .https := by
                    constructor <;>
                      · rintro rfl
                        simp [Url.isWeb, (parse_eq_web scheme)] at web
                  simp only [Option.bind_some, if_pos other]

/-- Comparing host, scheme and port is comparing tuple origins when the scheme's default port is
known.
-/
private theorem referrerSameOrigin_of_default {scheme : Scheme} {default : UInt16} {host : Str}
    {destination : Uri} (parsed : Scheme.parse url.scheme = some scheme)
    (known : scheme.defaultPort = some default) (hosted : url.host = some host)
    (port : url.portOrKnownDefault = some (url.port.getD default))
    (defaults
      : destination.scheme = some scheme
        → destination.portOrDefault = destination.port.getD default)
    : referrerSameOrigin url scheme destination = sameOriginAs url destination := by
  have origin
      : url.origin
        = some { scheme, host := host.map toAsciiLowercase, port := url.port.getD default } := by
    simp [Url.origin, originOf, parsed, known, hosted]
  unfold referrerSameOrigin sameOriginAs
  rw [origin, hosted, port, Bool.eq_iff_iff]
  unfold Uri.origin originOf
  cases there : destination.host with
  | none => cases destination.scheme <;> simp
  | some there =>
      by_cases same : destination.scheme = some scheme
      · simp [same, known, defaults same, eqIgnoreAsciiCase_iff]
      · cases other : destination.scheme with
        | none => simp
        | some other' =>
            have different : other' ≠ scheme := fun equal => same (by rw [other, equal])
            cases default' : other'.defaultPort with
            | none => simp [different, default']
            | some port => simp [different, default', Ne.symm different]

/-- The code's comparison is that of the tuple origins. -/
theorem referrerSameOrigin_eq (presentable : Presentable url) (destination : Uri)
    : referrerSameOrigin url (if url.scheme = ascii "https" then .https else .http) destination
      = sameOriginAs url destination := by
  obtain ⟨host, hosted⟩ := presentable.hosted
  have parsed := parse_web presentable.web
  have web := presentable.web
  simp only [Url.isWeb, Bool.or_eq_true, decide_eq_true_eq] at web
  rcases web with web | web
  · rw [if_neg (by rw [web]; decide)] at parsed ⊢
    refine referrerSameOrigin_of_default parsed rfl hosted ?_ ?_
    · unfold Url.portOrKnownDefault
      cases url.port <;> simp [web]
    · intro same
      unfold Uri.portOrDefault Uri.isHttps
      rw [same]
      cases destination.port <;> rfl
  · rw [if_pos web] at parsed ⊢
    refine referrerSameOrigin_of_default parsed rfl hosted ?_ ?_
    · unfold Url.portOrKnownDefault
      cases url.port with
      | none => rw [web]; rfl
      | some port => rfl
    · intro same
      unfold Uri.portOrDefault Uri.isHttps
      rw [same]
      cases destination.port <;> rfl

theorem stripToOrigin_eq (policy : ReferrerPolicy) (same downgrade : Bool)
    : Referrer.stripToOrigin policy same downgrade
      = match policy.allows same downgrade with
        | .nothing => none
        | .origin => some true
        | .full => some false := by
  cases policy <;> cases same <;> cases downgrade <;> rfl

/-- A presentable URL is a valid field value. -/
theorem tryFrom_presentable (presentable : Presentable url)
    : HeaderValue.tryFrom url.asStr = some { bytes := url.asStr } := by
  obtain ⟨host, hosted⟩ := presentable.hosted
  have plain := presentable.valid.plain_asStr presentable.bare hosted
  have valid : url.asStr.all HeaderValue.isValid = true := by
    rw [List.all_eq_true]
    intro byte member
    obtain ⟨low, high, _⟩ := plain byte member
    unfold HeaderValue.isValid
    have visible : 32 ≤ byte := by grind
    have notDel : byte ≠ 127 := by grind
    simp [visible, notDel]
  rw [HeaderValue.tryFrom, if_pos valid]

/-- The code sends and keeps what the specification determines. -/
theorem Referrer.apply_eq (referrer : Referrer) (headers : HeaderMap) (destination : Uri)
    (presentable : ∀ url, referrer.source = some url → Presentable url)
    : let next := referrer.source.bind
        (fun url => determine schemeDowngrade referrer.policy url destination)
      (referrer.apply headers destination).1 = { source := next, policy := referrer.policy }
      ∧ ((referrer.apply headers destination).2.getAll "referer").map HeaderValue.bytes
        = (next.map Url.asStr).toList := by
  unfold Referrer.apply
  cases current : referrer.source with
  | none => simp
  | some source =>
      have presentable := presentable source current
      have level := determine_eq presentable.web { policy := referrer.policy, destination }
      have downgrade
          : ((if source.scheme = ascii "https" then Scheme.https else .http) == .https
              && destination.scheme == some .http)
            = schemeDowngrade source destination := by
        unfold schemeDowngrade
        split <;> simp_all
      simp only [parse_web presentable.web, referrerSameOrigin_eq presentable, downgrade,
        stripToOrigin_eq, Option.bind_some, level, Leg.level]
      cases allowed
        : referrer.policy.allows (sameOriginAs source destination)
            (schemeDowngrade source destination) with
      | nothing => simp [Disclosure.reveal]
      | origin =>
          have revealed : Disclosure.origin.reveal source = some (referrerOrigin source) := rfl
          have sendable := presentable_of_reveal presentable.valid presentable.web revealed
          simp [stripToOriginUrl_eq presentable.web presentable.bare, tryFrom_presentable sendable,
            revealed]
      | full =>
          have revealed : Disclosure.full.reveal source = some source :=
            congrArg some presentable.stripped
          simp [tryFrom_presentable presentable, revealed]

end Sources

-----------------------------------------------------------------------------------------
-- One poll
-----------------------------------------------------------------------------------------

namespace FollowRedirectPolicy

variable {self next : FollowRedirectPolicy World} {world : World} {attempt : LayerAttempt}
  {answer : Action (PendingFuture World)}

/-- A decision takes over the policy of the response that redirects. -/
theorem redirect_referrer (decided : self.redirect world attempt = (.ok answer, next))
    : next.referrer = self.referrer.map (fun referrer => referrer.onRedirect attempt.headers) :=
  (permit_ok decided).2.2.2

/-- On the way to a later URI the referrer is applied. -/
theorem onRequest_referrer {referrer : Referrer} {B : Type}
    (managed : self.referrer = some referrer) (visited : self.uris ≠ [])
    (request : Request (Extensions World) B)
    : ∃ headers,
        (self.onRequest request).1.referrer = some (referrer.apply headers request.uri).1
        ∧ (self.onRequest request).2.headers = (referrer.apply headers request.uri).2 := by
  unfold onRequest
  cases uris : self.uris with
  | nil => exact absurd uris visited
  | cons first rest =>
      rw [managed]
      exact ⟨_, rfl, rfl⟩

end FollowRedirectPolicy

namespace Exchange

/-- The requests of a chain, each with the policy that the replies up to it lead to -/
def legs (hops : List (Hop World)) : List Leg :=
  hops.mapIdx (fun index hop =>
    { policy := lastRecognised ((hops.take (index + 1)).map Hop.reply)
      destination := hop.request.uri })

/-- The `Referer` of each followed hop is the one determined from the last recognised policy, the
referrer before it, and its destination.
-/
def DeterminesReferrer (downgrade : Url → Uri → Bool) (source : Option Url)
    (exchange : Exchange World)
    : Prop :=
  ∀ index hop, exchange.hops[index]? = some hop
    → (hop.request.headers.getAll "referer").map HeaderValue.bytes
      = ((referrerAlong downgrade source ((legs exchange.hops).take (index + 1))).map
          Url.asStr).toList

/-- No `Referer` of a followed hop has userinfo or a fragment. -/
def HidesCredentials (exchange : Exchange World) : Prop :=
  ∀ hop ∈ exchange.hops, ∀ value ∈ hop.request.headers.getAll "referer",
    64 ∉ Str.authority value.bytes ∧ 35 ∉ value.bytes

/-- A `Referer` that was removed stays removed, and one that is an origin is removed or stays the
same.
-/
def NeverRegains (exchange : Exchange World) : Prop :=
  ∀ (i j : Nat) (earlier later : Hop World), i ≤ j → exchange.hops[i]? = some earlier
    → exchange.hops[j]? = some later
    → (earlier.request.headers.getAll "referer" = []
        → later.request.headers.getAll "referer" = [])
      ∧ ∀ value ∈ earlier.request.headers.getAll "referer",
        Str.pathAndQuery value.bytes = ascii "/"
        → ∀ other ∈ later.request.headers.getAll "referer", other.bytes = value.bytes

theorem legs_snoc (hops : List (Hop World)) (hop : Hop World)
    : legs (hops ++ [hop])
      = legs hops
        ++ [{ policy := lastRecognised (hops.map Hop.reply ++ [hop.reply])
              destination := hop.request.uri }] := by
  unfold legs
  rw [List.mapIdx_append]
  congr 1
  · refine List.ext_getElem (by simp) (fun index inside _ => ?_)
    simp only [List.length_mapIdx] at inside
    simp only [List.getElem_mapIdx]
    rw [List.take_append_of_le_length (by omega)]
  · simp [List.take_of_length_le]

/-- What a running future carries: the referrer of the chain so far, and the policy of the replies
so far. A handler that awaits a decision has visited the URI that redirects.
-/
def Refers (source : Option Url) (exchange : Exchange World) : Prop :=
  exchange.output = none
  → ∀ pendingFuture policy request bodyRepr,
      exchange.future = .redirect pendingFuture policy request bodyRepr
      → policy.referrer
          = some
            { source := referrerAlong schemeDowngrade source (legs exchange.hops)
              policy := lastRecognised
                (exchange.hops.map Hop.reply
                  ++ if pendingFuture.isSome then [exchange.lastReply] else []) }
        ∧ (pendingFuture.isSome = true → policy.uris ≠ [])

variable {parsers : Parsers} {ctx : Context World} {exchange : Exchange World}
  {req : Request (Extensions World) Body} {source : Option Url}

/-- A poll that hands nothing down determines no further referrer. -/
theorem DeterminesReferrer.quiet {downgrade : Url → Uri → Bool}
    (determines : exchange.DeterminesReferrer downgrade source)
    (sent : (exchange.future.poll parsers ctx).sent = none)
    : (exchange.poll parsers ctx).DeterminesReferrer downgrade source := by
  unfold DeterminesReferrer
  rw [poll_hops_of_none sent]
  exact determines

/-- A poll after which the future is ready leaves nothing to carry. -/
theorem refers_of_ready {answer : Except BoxError Response}
    (result : (exchange.future.poll parsers ctx).result = some answer)
    : (exchange.poll parsers ctx).Refers source := by
  intro running
  simp only [poll] at running
  simp [running] at result

/-- What a chain carries can be sent. -/
theorem presentable_along (presentable : ∀ url, source = some url → Presentable url) {url : Url}
    {legs : List Leg} (along : referrerAlong schemeDowngrade source legs = some url)
    : Presentable url := by
  cases source with
  | none => simp at along
  | some first =>
      have first := presentable first rfl
      rw [referrerAlong_eq first.web first.stripped] at along
      exact presentable_of_reveal first.valid first.web along

/-- A poll that follows a redirect sends the referrer determined for it. -/
theorem follow_refers (presentable : ∀ url, source = some url → Presentable url)
    (determines : exchange.DeterminesReferrer schemeDowngrade source)
    {policy : FollowRedirectPolicy World} {request : Head World} {body : Body} {kept : BodyRepr}
    {res : Response} {location : Uri}
    (effect
      : exchange.future.poll parsers ctx
        = handleAction
            { action := .follow, policy, request, body, bodyRepr := kept, res, location })
    (visited : policy.uris ≠ [])
    (managed
      : policy.referrer
        = some
          { source := referrerAlong schemeDowngrade source (legs exchange.hops)
            policy := lastRecognised (exchange.hops.map Hop.reply ++ [exchange.observe ctx]) })
    : (exchange.poll parsers ctx).DeterminesReferrer schemeDowngrade source
      ∧ (exchange.poll parsers ctx).Refers source := by
  obtain ⟨decided, head, left, prepared, _, next, sent, uri, _, _⟩ := handleAction_follow effect
  obtain ⟨headers, referrer, written⟩ := policy.onRequest_referrer managed visited
    { request with uri := location }
  obtain ⟨carried, determined⟩ :=
    Referrer.apply_eq
      { source := referrerAlong schemeDowngrade source (legs exchange.hops)
        policy := lastRecognised (exchange.hops.map Hop.reply ++ [exchange.observe ctx]) }
      headers location (fun url current => presentable_along presentable current)
  rw [prepared] at referrer written
  have hops := poll_hops_of_some sent
  have legs' := legs_snoc exchange.hops
    ⟨exchange.observe ctx, head.withBody body, exchange.future.pending?.isSome⟩
  rw [← hops] at legs'
  have along
      : referrerAlong schemeDowngrade source (legs (exchange.poll parsers ctx).hops)
        = (referrerAlong schemeDowngrade source (legs exchange.hops)).bind
            (fun url =>
              determine schemeDowngrade
                (lastRecognised (exchange.hops.map Hop.reply ++ [exchange.observe ctx])) url
                location) := by
    rw [legs', referrerAlong_append]
    simp only [referrerAlong, List.foldl_cons, List.foldl_nil, Request.withBody, uri]
  constructor
  · intro index hop found
    have length : (legs exchange.hops).length = exchange.hops.length := by simp [legs]
    rcases Nat.lt_or_ge index exchange.hops.length with old | new
    · rw [hops, List.getElem?_append_left old] at found
      rw [legs', List.take_append_of_le_length (by omega)]
      exact determines index hop found
    · rw [hops, List.getElem?_append_right new] at found
      obtain ⟨inside, rfl⟩ := List.getElem?_eq_some_iff.mp found
      have last : index = exchange.hops.length := by
        simp only [List.length_cons, List.length_nil] at inside
        omega
      rw [List.take_of_length_le (by rw [legs']; simp; omega), along]
      simp only [last, Nat.sub_self, List.getElem_cons_zero, Request.withBody]
      rw [written]
      exact determined
  · intro _ pendingFuture policy' request' bodyRepr' future
    simp only [poll, next] at future
    cases future
    rw [referrer, carried, along]
    simp [hops]

/-- One poll determines the referrer of the request it sends, and carries it on. -/
theorem poll_refers (presentable : ∀ url, source = some url → Presentable url)
    (running : exchange.output = none)
    (determines : exchange.DeterminesReferrer schemeDowngrade source)
    (refers : exchange.Refers source)
    : (exchange.poll parsers ctx).DeterminesReferrer schemeDowngrade source
      ∧ (exchange.poll parsers ctx).Refers source := by
  cases future : exchange.future with
  | direct =>
      refine ⟨determines.quiet (by rw [future]; rfl), ?_⟩
      intro _ pendingFuture policy request bodyRepr later
      simp [poll, future, ResponseFuture.poll] at later
  | redirect pendingFuture policy request bodyRepr =>
      obtain ⟨managed, visited⟩ := refers running _ _ _ _ future
      have ready {answer : Except BoxError Response}
          (result : (exchange.future.poll parsers ctx).result = some answer)
          (sent : (exchange.future.poll parsers ctx).sent = none)
          : (exchange.poll parsers ctx).DeterminesReferrer schemeDowngrade source
            ∧ (exchange.poll parsers ctx).Refers source :=
        ⟨determines.quiet sent, refers_of_ready result⟩
      -- The policy of a response that redirects is taken over when the handler decides on it.
      have takenOver {reply : Reply} {head : Head World} {location : Uri}
          {answer : Action (PendingFuture World)} {decided : FollowRedirectPolicy World}
          (fresh : pendingFuture = none) (inner : ctx.inner = some (.ok reply))
          (decision
            : policy.redirect ctx.world (reply.attempt head location) = (.ok answer, decided))
          : exchange.observe ctx = reply
            ∧ decided.referrer
              = some
                { source := referrerAlong schemeDowngrade source (legs exchange.hops)
                  policy := lastRecognised (exchange.hops.map Hop.reply ++ [reply]) }
            ∧ decided.uris ≠ [] := by
        subst fresh
        refine ⟨by simp [observe, future, ResponseFuture.pending?, inner], ?_, ?_⟩
        · rw [FollowRedirectPolicy.redirect_referrer decision, managed, Option.map_some,
            onRedirect_eq, lastRecognised_snoc]
          simp [Reply.attempt]
        · simp [(FollowRedirectPolicy.redirect_ok decision).1]
      cases poll_cases parsers ctx pendingFuture policy request bodyRepr with
      | waits result sent next unanswered unresolved =>
          rw [← future] at sent next
          refine ⟨determines.quiet sent, ?_⟩
          intro _ pendingFuture' policy' request' bodyRepr' later
          simp only [poll, next] at later
          cases later
          rw [poll_hops_of_none sent]
          cases pendingFuture with
          | none => exact ⟨managed, visited⟩
          | some state =>
              have observed : exchange.observe ctx = exchange.lastReply := by
                simp [observe, future, ResponseFuture.pending?]
              rw [← observed] at managed
              exact ⟨managed, visited⟩
      | fails result sent _ =>
          exact ready (by rw [future]; exact result) (by rw [future]; exact sent)
      | finishes _ _ _ result sent =>
          exact ready (by rw [future]; exact result) (by rw [future]; exact sent)
      | returns _ _ _ result sent =>
          exact ready (by rw [future]; exact result) (by rw [future]; exact sent)
      | stops _ _ result sent =>
          exact ready (by rw [future]; exact result) (by rw [future]; exact sent)
      | defers state fresh inner _ _ decision _ _ sent next =>
          rw [← future] at sent next
          obtain ⟨observed, managed, visited⟩ := takenOver fresh inner decision
          refine ⟨determines.quiet sent, ?_⟩
          intro _ pendingFuture' policy' request' bodyRepr' later
          simp only [poll, next] at later
          cases later
          rw [poll_hops_of_none sent]
          refine ⟨?_, fun _ => visited⟩
          rw [managed, ← observed]
          rfl
      | follows fresh inner _ _ decision effect =>
          obtain ⟨observed, managed, visited⟩ := takenOver fresh inner decision
          rw [← observed] at managed
          exact follow_refers presentable determines (by rw [future]; exact effect) visited managed
      | resumes awaited _ effect =>
          subst awaited
          have observed : exchange.observe ctx = exchange.lastReply := by
            simp [observe, future, ResponseFuture.pending?]
          simp only [Option.isSome_some, if_true, ← observed] at managed
          exact follow_refers presentable determines (by rw [future]; exact effect) (visited rfl)
            managed

/-- At the call the referrer is the caller's, stripped. -/
theorem start_refers (standard : parsers.Standard) (policy : Policy World) (httpsOnly : Bool)
    (req : Request (Extensions World) Body)
    : (start (layer policy true httpsOnly) parsers req).Refers
        ((webReferer parsers req).map referrerUrl) := by
  intro _ pendingFuture policy' request bodyRepr future
  have captured
      : (req.headers.get "referer").bind (parseReferrer parsers)
        = (webReferer parsers req).map referrerUrl := by
    unfold webReferer callerReferer
    cases req.headers.get "referer" with
    | none => rfl
    | some value => exact parseReferrer_eq standard value
  obtain ⟨loaded, found, rfl, -, rfl, -⟩ := start_redirect future
  obtain ⟨-, uris, -, referrer⟩ := FollowRedirectPolicy.forRequest_some found
  have unvisited : loaded.uris = [] := uris
  refine ⟨?_, nofun⟩
  unfold FollowRedirectPolicy.onRequest
  simp only [unvisited]
  rw [referrer, ← captured]
  rfl

/-- At the call nothing has been followed. -/
theorem start_determines (self : FollowRedirectPolicy World) (downgrade : Url → Uri → Bool)
    : (start self parsers req).DeterminesReferrer downgrade source := by
  intro index hop found
  simp [start] at found

-----------------------------------------------------------------------------------------
-- What the determined referrers give away
-----------------------------------------------------------------------------------------

/-- A `Referer` of a hop is the serialisation of a presentable URL. -/
theorem DeterminesReferrer.presentable
    (determines : exchange.DeterminesReferrer schemeDowngrade source)
    (presentable : ∀ url, source = some url → Presentable url) {index : Nat} {hop : Hop World}
    (found : exchange.hops[index]? = some hop) {value : HeaderValue}
    (sent : value ∈ hop.request.headers.getAll "referer")
    : ∃ url, referrerAlong schemeDowngrade source ((legs exchange.hops).take (index + 1)) = some url
        ∧ value.bytes = url.asStr ∧ Presentable url := by
  have bytes : value.bytes ∈ (hop.request.headers.getAll "referer").map HeaderValue.bytes :=
    List.mem_map_of_mem sent
  rw [determines index hop found] at bytes
  cases along : referrerAlong schemeDowngrade source ((legs exchange.hops).take (index + 1)) with
  | none => simp [along] at bytes
  | some url =>
      simp only [along, Option.map_some, Option.toList_some, List.mem_singleton] at bytes
      exact ⟨url, rfl, bytes, presentable_along presentable along⟩

/-- Presentable URLs have neither userinfo nor a fragment. -/
theorem DeterminesReferrer.hides (determines : exchange.DeterminesReferrer schemeDowngrade source)
    (presentable : ∀ url, source = some url → Presentable url)
    : exchange.HidesCredentials := by
  intro hop member value sent
  obtain ⟨index, found⟩ := List.mem_iff_getElem?.mp member
  obtain ⟨url, _, bytes, presentable⟩ := determines.presentable presentable found sent
  obtain ⟨host, hosted⟩ := presentable.hosted
  have split := presentable.valid.split_asStr presentable.bare presentable.web hosted
  rw [bytes, split.1]
  constructor
  · intro at'
    exact (presentable.valid.plain_hostPort hosted 64 at').2.2 (by decide)
  · intro mark
    exact (presentable.valid.plain_asStr presentable.bare hosted 35 mark).2.2 (by decide)

/-- A presentable URL that ends in the root path is its own origin. -/
theorem referrerOrigin_of_root {url : Url} (presentable : Presentable url)
    (root : Str.pathAndQuery url.asStr = ascii "/")
    : referrerOrigin url = url := by
  obtain ⟨host, hosted⟩ := presentable.hosted
  have bare := presentable.bare
  have split := presentable.valid.split_asStr bare presentable.web hosted
  rw [split.2] at root
  have rooted := presentable.valid.rooted presentable.web
  have path : url.path = ascii "/" ∧ url.queryText = [] := by
    cases path : url.path with
    | nil => simp [path] at rooted
    | cons first rest =>
        rw [path] at root
        obtain ⟨slash, ends⟩ := List.cons_eq_cons.mp root
        obtain ⟨rfl, query⟩ := List.append_eq_nil_iff.mp ends
        exact ⟨by rw [slash]; rfl, query⟩
  have query : url.query = none := by
    cases query : url.query with
    | none => rfl
    | some text => simp [Url.queryText, query, ascii] at path
  exact referrerOrigin_of_bare bare path.1 query

/-- Least allowed disclosures only shrink. -/
theorem DeterminesReferrer.never
    (determines : exchange.DeterminesReferrer schemeDowngrade source)
    (presentable : ∀ url, source = some url → Presentable url)
    : exchange.NeverRegains := by
  intro i j earlier later before found found'
  have shorter : (legs exchange.hops).take (i + 1) <+: (legs exchange.hops).take (j + 1) :=
    List.take_prefix_take_left (by omega)
  have sent := determines i earlier found
  have sent' := determines j later found'
  constructor
  · intro removed
    rw [removed, List.map_nil] at sent
    have none
        : referrerAlong schemeDowngrade source ((legs exchange.hops).take (i + 1)) = none := by
      cases along : referrerAlong schemeDowngrade source ((legs exchange.hops).take (i + 1)) with
      | none => rfl
      | some url => simp [along] at sent
    rw [referrerAlong_removed shorter none] at sent'
    simpa using sent'
  · intro value member root other member'
    obtain ⟨url, along, bytes, presentable'⟩ := determines.presentable presentable found member
    obtain ⟨url', along', bytes', _⟩ := determines.presentable presentable found' member'
    rw [bytes] at root ⊢
    have origin := referrerOrigin_of_root presentable' root
    cases source with
    | none => simp at along
    | some first =>
        have first := presentable first rfl
        rcases referrerAlong_origin first.web first.stripped shorter along origin with gone | same
        · rw [gone] at along'
          cases along'
        · rw [same] at along'
          cases along'
          exact bytes'

end Exchange

-----------------------------------------------------------------------------------------
-- Every run
-----------------------------------------------------------------------------------------

/-- The caller's `Referer`, stripped, can be sent. -/
theorem presentable_webReferer {parsers : Parsers} (standard : parsers.Standard)
    (req : Request (Extensions World) Body) {url : Url}
    (captured : (webReferer parsers req).map referrerUrl = some url)
    : Presentable url := by
  obtain ⟨source, web, rfl⟩ := Option.map_eq_some_iff.mp captured
  obtain ⟨caller, web⟩ := Option.filter_eq_some_iff.mp web
  obtain ⟨text, _, parsed⟩ := Option.bind_eq_some_iff.mp caller
  have full : Disclosure.full.reveal source = some (referrerUrl source) := rfl
  exact presentable_of_reveal (standard text source parsed web) web full

/-- In every state of a redirect chain with managed referrers, the `Referer` of each followed hop
is the one determined for it with the downgrade of the sources, names neither userinfo nor a
fragment, and never regains what an earlier hop has removed.
-/
theorem referrer_along_policies (parsers : Parsers) (standard : parsers.Standard)
    (policy : Policy World) (httpsOnly : Bool) (req : Request (Extensions World) Body)
    {polls : List (Context World)} {exchange : Exchange World}
    (run
      : Run (Exchange.Step parsers) (Exchange.start (layer policy true httpsOnly) parsers req)
          polls exchange)
    : exchange.DeterminesReferrer schemeDowngrade (webReferer parsers req)
      ∧ exchange.HidesCredentials
      ∧ exchange.NeverRegains := by
  have presentable : ∀ url, (webReferer parsers req).map referrerUrl = some url → Presentable url :=
    fun url => presentable_webReferer standard req
  have both
      : exchange.DeterminesReferrer schemeDowngrade ((webReferer parsers req).map referrerUrl)
        ∧ exchange.Refers ((webReferer parsers req).map referrerUrl) := by
    apply run.invariant
    · rintro _ before ctx after _ ⟨determines, refers⟩ ⟨running, rfl⟩
      exact Exchange.poll_refers presentable running determines refers
    · exact ⟨Exchange.start_determines _ _, Exchange.start_refers standard policy httpsOnly req⟩
  refine ⟨?_, both.1.hides presentable, both.1.never presentable⟩
  intro index hop found
  rw [both.1 index hop found]
  have inside := (List.getElem?_eq_some_iff.mp found).1
  have nonempty : (Exchange.legs exchange.hops).take (index + 1) ≠ [] := by
    intro empty
    have length := congrArg List.length empty
    simp only [Exchange.legs, List.length_take, List.length_mapIdx, List.length_nil] at length
    omega
  cases web : webReferer parsers req with
  | none => rfl
  | some source =>
      have isWeb := (Option.filter_eq_some_iff.mp web).2
      rw [Option.map_some, referrerAlong_referrerUrl isWeb nonempty]

-----------------------------------------------------------------------------------------
-- Runs on fixed inputs
-----------------------------------------------------------------------------------------

/-- Root pages, and one page with credentials, a query and a fragment. -/
def refererSites : Parsers :=
  let sites := Parsers.ofSites
    [(.https, "a.test"), (.http, "b.test"), (.http, "127.0.0.1"), (.other (ascii "ftp"), "c.test")]
  { sites with
    urlParse := fun text =>
      if text = ascii "https://u:p@a.test/x?q#f" then
        some
          { scheme := ascii "https"
            username := ascii "u"
            password := some (ascii "p")
            host := some (ascii "a.test")
            path := ascii "/x"
            query := some (ascii "q")
            fragment := some (ascii "f") }
      else sites.urlParse text }

theorem refererSites_standard : refererSites.Standard := by
  intro text url parsed web
  simp only [refererSites] at parsed
  split at parsed
  · cases parsed
    refine ⟨by decide, ?_, by decide, ?_, fun _ => by decide, fun _ => rfl⟩
    · intro host same
      cases same
      decide
    · intro query same
      cases same
      decide
  · exact Parsers.ofSites_standard (by decide) text url parsed web

/-- A poll that gets a redirect with these values of `Referrer-Policy`. -/
def redirects (location : String) (policies : List String) : Context Unit :=
  let headers := HeaderMap.empty.insert "location" { bytes := ascii location }
  let headers := match policies with
    | [] => headers
    | policy :: more =>
        headers.store
          { key := "referrer-policy"
            value := { bytes := ascii policy }
            extra := more.map (fun policy => { bytes := ascii policy }) }
  { world := (), inner := some (.ok { status := 302, headers }) }

/-- A request for the root page of a site, with a `Referer` -/
def refererRequest (source : String) (scheme : Scheme) (host : String)
    : Request (Extensions Unit) Body :=
  getRoot Unit scheme host (HeaderMap.empty.insert "referer" { bytes := ascii source })

/-- A source that is sent in full to its own origin, then cut down to that origin, which later
policies do not undo, and in the end removed on a downgrade.
-/
theorem referrer_along_policies_downgrade
    : let request := refererRequest "https://u:p@a.test/x?q#f" .https "a.test"
      let exchange :=
        (Exchange.start (layer ⟨.limit 10⟩ true false) refererSites request).after refererSites
          [redirects "https://a.test/" [], redirects "https://a.test/" ["origin, later", "ORIGIN"]
          , redirects "https://a.test/" ["unsafe-url"], redirects "http://b.test/" ["strict-origin"]
          , redirects "https://a.test/" ["unsafe-url"]]
      exchange.hops.map (fun hop => hop.request.headers.getAll "referer")
        = [ [{ bytes := ascii "https://a.test/x?q" }], [{ bytes := ascii "https://a.test/" }]
          , [{ bytes := ascii "https://a.test/" }], [], [] ]
      ∧ exchange.DeterminesReferrer schemeDowngrade (webReferer refererSites request)
      ∧ exchange.HidesCredentials
      ∧ exchange.NeverRegains := by
  refine ⟨by decide, ?_⟩
  exact referrer_along_policies refererSites refererSites_standard ⟨.limit 10⟩ false _
    (Exchange.run_after (by decide))

/-- The loopback addresses, as the URL standard serialises them -/
def isLoopback (host : Str) : Bool :=
  host = ascii "[::1]"
    || match host.splitOn 46 with
      | first :: rest =>
          first = ascii "127" && rest.length = 3
            && rest.all (fun part => part ≠ [] && part.all (fun byte => 48 ≤ byte && byte ≤ 57))
      | [] => false

/-- Potentially trustworthy origins, without those that are left to the user agent -/
def trustworthy : Option Origin → Bool
  | none => false
  | some origin =>
      origin.scheme = .https || origin.scheme = .other (ascii "wss") || isLoopback origin.host

/-- The downgrade of the specification: from a potentially trustworthy URL to one that is not -/
def trustDowngrade (source : Url) (destination : Uri) : Bool :=
  trustworthy source.origin && !trustworthy destination.origin

/-- A redirect of a request to `location` whose `Referer` is not the one that the specification
determines
-/
def Undetermined (managed : Bool) (request : Request (Extensions Unit) Body) (location : String)
    : Prop :=
  ∃ exchange,
    Run (Exchange.Step refererSites)
      (Exchange.start (layer ⟨.limit 10⟩ managed false) refererSites request)
      [redirects location []] exchange
    ∧ ¬ exchange.DeterminesReferrer trustDowngrade (callerReferer refererSites request)

/-- The specification takes a loopback address for trustworthy and any URL for a source, and has
no switch: it has an origin sent where the code sends nothing, to a loopback address and for an
`ftp` source, and the credentials removed that the code leaves in an unmanaged header.
-/
theorem referrer_determined_otherwise
    : Undetermined true (refererRequest "https://a.test/" .https "a.test") "http://127.0.0.1/"
      ∧ Undetermined true (refererRequest "ftp://c.test/" .http "b.test") "http://b.test/"
      ∧ Undetermined false (refererRequest "https://u:p@a.test/x?q#f" .https "a.test")
        "https://a.test/" := by
  refine ⟨?_, ?_, ?_⟩ <;>
    · refine ⟨_, Exchange.run_after (by decide), ?_⟩
      intro determines
      have hop := determines 0 _ rfl
      revert hop
      decide

end Tlsurl.Redirect
