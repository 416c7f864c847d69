import Tlsurl.Cookie.Provenance
import Tlsurl.Cookie.Versions
import Tlsurl.Redirect.OriginBound
import Tlsurl.Send.Resend

/-! The requests of a client with a cookie jar.
A request goes through the redirect layer, and each request that the layer hands down through the
loop that sends it. The loop reads the jar when it has a connection, and writes to it when a reply
is there, before the layer sees the reply. Any number of requests go on side by side, and the
caller uses the jar, too.
-/

namespace Tlsurl.Send

open Library Redirect
open Cookie (RawCookie Host Time)

variable {World : Type}

-----------------------------------------------------------------------------------------
-- Sessions
-----------------------------------------------------------------------------------------

/-- A request between the redirect layer and the connections -/
abbrev Outgoing (World : Type) := Request (Extensions World) Body

/-- A client as far as redirects and cookies go -/
structure CookieClient (World : Type) where
  policy : Redirect.Policy World
  referer : Bool := true
  httpsOnly : Bool := false
  setHost : Bool := true
  retryCanceledRequests : Bool := true
  parsers : Parsers
  cookieParsers : Cookie.Parsers

/-- Where the request is that the redirect layer handed down last: answered, in the loop without a
connection, or on one. The loop keeps the target beside it.
-/
inductive Stage (World : Type) where
  | answered
  | waiting (target : Uri) (req : Outgoing World)
  | sent (target : Uri) (pooled : PoolClient) (req : Outgoing World)

/-- A request that was given to the redirect layer, and what became of it -/
structure Flow (World : Type) where
  given : Outgoing World
  exchange : Exchange World
  stage : Stage World

/-- What a connection was handed and when, for which target and which request of the caller -/
structure Wire (World : Type) where
  given : Outgoing World
  target : Uri
  pooled : PoolClient
  now : Time
  request : Outgoing World

def Flow.wire (flow : Flow World) (target : Uri) (pooled : PoolClient) (now : Time)
    (request : Outgoing World)
    : Wire World :=
  { given := flow.given, target, pooled, now, request }

/-- The version that the cookies are written for -/
def Wire.version (wire : Wire World) : Version := if wire.pooled.isHttp2 then .http2 else .http11

/-- The operations on the jar so far, the requests, and what was handed to connections -/
structure Session (World : Type) where
  ops : List Cookie.Jar.Op := []
  flows : List (Flow World) := []
  wires : List (Wire World) := []

namespace CookieClient

variable (self : CookieClient World)

/-- The jar after operations on it -/
def jar (ops : List Cookie.Jar.Op) : Cookie.Store :=
  ops.foldl (Cookie.Jar.apply self.cookieParsers) {}

/-- The client as the loop sees it at a time -/
def http (ops : List Cookie.Jar.Op) (now : Time) : HttpClient (Extensions World) where
  setHost := self.setHost
  retryCanceledRequests := self.retryCanceledRequests
  cookieStore _ :=
    some (fun uri version => Cookie.Jar.cookies self.cookieParsers (self.jar ops) uri version now)

/-- A request enters the redirect layer. -/
def start (given : Outgoing World) : Flow World :=
  let exchange :=
    Exchange.start (layer self.policy self.referer self.httpsOnly) self.parsers given
  { given, exchange, stage := .waiting exchange.first.uri exchange.first }

/-- The redirect layer is polled, and may hand a request down. -/
def poll (ctx : Context World) (flow : Flow World) : Flow World where
  given := flow.given
  exchange := flow.exchange.poll self.parsers ctx
  stage :=
    match (flow.exchange.future.poll self.parsers ctx).sent with
    | some request => .waiting request.uri request
    | none => if ctx.inner.isSome then .answered else flow.stage

end CookieClient

/-- The `Set-Cookie` fields of a reply, each with the time at which the jar gets to it -/
def setCookieFields (reply : Reply) (clock : Nat → Time) : List (HeaderValue × Time) :=
  (reply.headers.getAll "set-cookie").zipIdx.map (fun field => (field.1, clock field.2))

/-- What can happen in a session -/
inductive Event (World : Type) where
  | start (given : Outgoing World)
  | attempt (index : Nat) (pooled : PoolClient) (now : Time)
  | giveBack (index : Nat)
  | reply (index : Nat) (reply : Reply) (clock : Nat → Time) (world : World)
  | fail (index : Nat) (err : BoxError) (world : World)
  | wake (index : Nat) (world : World)
  | use (op : Cookie.Jar.Op)

namespace Session

/-- The session with another state of one request -/
def put (session : Session World) (index : Nat) (flow : Flow World) : Session World :=
  { session with flows := session.flows.set index flow }

/-- One step. A request is started; it gets a connection and the cookies of the jar; an unused
connection gives it back; it is answered, and the jar gets the cookies of the reply; the loop
fails; a pending redirect is polled; or the caller uses the jar.
-/
inductive Step (client : CookieClient World)
    : Session World → Event World → Session World → Prop
  | start {session : Session World} (given : Outgoing World)
    : Step client session (.start given)
        { session with flows := session.flows ++ [client.start given] }
  | attempt {session : Session World} {index : Nat} {flow : Flow World} {target : Uri}
    {req sent : Outgoing World} (pooled : PoolClient) (now : Time)
    (found : session.flows[index]? = some flow) (stage : flow.stage = .waiting target req)
    (prepared : prepare (client.http session.ops now) pooled req = some sent)
    : Step client session (.attempt index pooled now)
        { ops := session.ops
          flows := session.flows.set index { flow with stage := .sent target pooled sent }
          wires := session.wires ++ [flow.wire target pooled now sent] }
  | giveBack {session : Session World} {index : Nat} {flow : Flow World} {target : Uri}
    {pooled : PoolClient} {req : Outgoing World}
    (found : session.flows[index]? = some flow) (stage : flow.stage = .sent target pooled req)
    (retries : (client.retryCanceledRequests && pooled.isReused) = true)
    : Step client session (.giveBack index)
        (session.put index { flow with stage := .waiting target { req with uri := target } })
  | reply {session : Session World} {index : Nat} {flow : Flow World} {target : Uri}
    {pooled : PoolClient} {req : Outgoing World} (reply : Reply) (clock : Nat → Time)
    (world : World) (found : session.flows[index]? = some flow)
    (stage : flow.stage = .sent target pooled req) (running : flow.exchange.output = none)
    : Step client session (.reply index reply clock world)
        { ops := session.ops ++ [.setCookies (setCookieFields reply clock) target]
          flows := session.flows.set index (client.poll { world, inner := some (.ok reply) } flow)
          wires := session.wires }
  | fail {session : Session World} {index : Nat} {flow : Flow World} (err : BoxError)
    (world : World) (found : session.flows[index]? = some flow)
    (busy : flow.stage ≠ .answered) (running : flow.exchange.output = none)
    : Step client session (.fail index err world)
        (session.put index (client.poll { world, inner := some (.error err) } flow))
  | wake {session : Session World} {index : Nat} {flow : Flow World} (world : World)
    (found : session.flows[index]? = some flow) (running : flow.exchange.output = none)
    : Step client session (.wake index world)
        (session.put index (client.poll { world, inner := none } flow))
  | use {session : Session World} (op : Cookie.Jar.Op)
    : Step client session (.use op) { session with ops := session.ops ++ [op] }

end Session

-----------------------------------------------------------------------------------------
-- Where cookies are from
-----------------------------------------------------------------------------------------

/-- A cookie that may be shown to a URI at a time: it matches, and it is what the storage rules
make of a cookie that the jar was given before.
-/
def Showable (parsers : Cookie.Parsers) (past : List Cookie.Jar.Op) (target : Uri) (host : Host)
    (now : Time) (cookie : RawCookie)
    : Prop :=
  ∃ scope, Cookie.Matches target host now scope.domain scope.path scope.hostOnly cookie
    ∧ ∃ deposit ∈ past.flatMap (Cookie.Jar.Op.deposits parsers), deposit.Yields parsers scope cookie

/-- Where the `Cookie` fields of a request are from: the caller, who asked for a URI of the same
origin; the headers for the proxy of a connection for the target; or the jar, as it was when a
connection for the target was handed the request.
-/
inductive CookieSource (client : CookieClient World) (ops : List Cookie.Jar.Op)
    (wires : List (Wire World)) (given : Outgoing World) (target : Uri)
    : List Str → Prop
  | none : CookieSource client ops wires given target []
  | caller (origin : SameOrigin given.uri target)
    : CookieSource client ops wires given target (given.headers.values "cookie")
  | proxy {wire : Wire World} (handed : wire ∈ wires) (same : wire.target = target)
    : CookieSource client ops wires given target
        ((wire.pooled.proxy.headers.getD .empty).values "cookie")
  | jar {wire : Wire World} {past : List Cookie.Jar.Op} {host : Host} {cookies : List RawCookie}
    (handed : wire ∈ wires) (same : wire.target = target) (before : past <+: ops)
    (canonical
      : target.host.bind (Cookie.canonicalHost client.cookieParsers.hostParse) = some host)
    (chosen
      : Cookie.Jar.cookies client.cookieParsers (client.jar past) target wire.version wire.now
        = Cookie.Jar.render wire.version cookies)
    (showable
      : ∀ cookie ∈ cookies, Showable client.cookieParsers past target host wire.now cookie)
    : CookieSource client ops wires given target
        ((Cookie.Jar.render wire.version cookies).values.map HeaderValue.bytes)

/-- A source stays one as more is done with the jar and more is handed over. -/
theorem CookieSource.mono {client : CookieClient World} {ops moreOps : List Cookie.Jar.Op}
    {wires moreWires : List (Wire World)} {given : Outgoing World} {target : Uri}
    {values : List Str} (source : CookieSource client ops wires given target values)
    (past : ops <+: moreOps) (handed : wires ⊆ moreWires)
    : CookieSource client moreOps moreWires given target values := by
  cases source with
  | none => exact .none
  | caller origin => exact .caller origin
  | proxy member same => exact .proxy (handed member) same
  | jar member same before canonical chosen showable =>
      exact .jar (handed member) same (before.trans past) canonical chosen showable

/-- The cookies that the loop looks up for a connection have their source in the jar. -/
theorem cookieValues_source (client : CookieClient World) (ops : List Cookie.Jar.Op)
    {wires : List (Wire World)} {wire : Wire World} (handed : wire ∈ wires)
    (given : Outgoing World) (ext : Extensions World)
    : CookieSource client ops wires given wire.target
        (cookieValues ((client.http ops wire.now).cookieStore ext) wire.target
          wire.pooled.isHttp2) := by
  have values (found : Cookie.Cookies)
      (looked
        : Cookie.Jar.cookies client.cookieParsers (client.jar ops) wire.target wire.version
            wire.now
          = found)
      : cookieValues ((client.http ops wire.now).cookieStore ext) wire.target wire.pooled.isHttp2
        = found.values.map HeaderValue.bytes := by
    rw [Wire.version] at looked
    simp only [cookieValues, CookieClient.http, looked]
    cases found <;> rfl
  cases canonical
      : wire.target.host.bind (Cookie.canonicalHost client.cookieParsers.hostParse) with
  | none =>
      rw [values .empty (by rw [Cookie.Jar.cookies, canonical])]
      exact .none
  | some host =>
      obtain ⟨cookies, looked, accounted⟩ :=
        Cookie.Jar.cookies_accounted (Cookie.Jar.run_foldl client.cookieParsers {} ops) canonical
          wire.version wire.now
      rw [values _ looked]
      exact .jar handed rfl (List.prefix_refl ops) canonical looked accounted

/-- A connection leaves the cookies of a request as they are, or it puts those of the jar or of
the headers for its proxy there.
-/
theorem prepare_source {client : CookieClient World} {ops : List Cookie.Jar.Op} {now : Time}
    {pooled : PoolClient} {flow : Flow World} {req sent : Outgoing World}
    {wires : List (Wire World)} {target : Uri} (same : req.uri = target)
    (prepared : prepare (client.http ops now) pooled req = some sent)
    (source
      : CookieSource client ops wires flow.given target (req.headers.values "cookie"))
    : CookieSource client ops
        (wires ++ [flow.wire target pooled now sent]) flow.given target
        (sent.headers.values "cookie") := by
  obtain ⟨_, _, _, _, values⟩ := prepare_spec prepared
  have more {shown : List Str}
      (source : CookieSource client ops wires flow.given target shown)
      : CookieSource client ops
          (wires ++ [flow.wire target pooled now sent]) flow.given target shown :=
    source.mono (List.prefix_refl ops) (List.subset_append_left wires _)
  have added := List.mem_append_right wires
    (List.mem_singleton_self (flow.wire target pooled now sent))
  have looked := cookieValues_source client ops added flow.given req.extensions
  have supplied
      : (pooled.overlay (client.http ops now) req).supplies "cookie"
        = cookieValues ((client.http ops now).cookieStore req.extensions) req.uri
          pooled.isHttp2 := by
    simp [PoolClient.overlay]
  have imposed
      : (pooled.overlay (client.http ops now) req).imposes "cookie"
        = if pooled.forwards req.method then (pooled.proxy.headers.getD .empty).values "cookie"
          else [] :=
    rfl
  rw [values]
  rcases (pooled.overlay (client.http ops now) req).apply_cases req.headers.values "cookie" with
    kept | fresh | ⟨_, forced⟩
  · rw [kept]
    exact more source
  · rw [fresh, supplied, same]
    exact looked
  · rw [forced, imposed]
    split
    · exact .proxy added rfl
    · exact .none

-----------------------------------------------------------------------------------------
-- The invariant
-----------------------------------------------------------------------------------------

/-- A request that the redirect layer hands down has the cookies of the caller or none. -/
def Carried (given last : Outgoing World) : Prop :=
  last.headers.values "cookie" = []
    ∨ last.headers.values "cookie" = given.headers.values "cookie"
      ∧ SameOrigin given.uri last.uri

theorem sameOrigin_trans {left middle right : Uri} (first : SameOrigin left middle)
    (second : SameOrigin middle right)
    : SameOrigin left right :=
  ⟨first.scheme.trans second.scheme, first.host.trans second.host, first.port.trans second.port⟩

/-- A link carries the cookies of the caller on within the origin only. -/
theorem Carried.link {given last next : Outgoing World} (carried : Carried given last)
    (link : Link last next)
    : Carried given next := by
  have values := congrArg (List.map HeaderValue.bytes) (link "cookie" (by decide))
  split at values
  · next same =>
      rcases carried with none | ⟨caller, origin⟩
      · exact .inl (values.trans none)
      · exact .inr ⟨values.trans caller, sameOrigin_trans origin (sameOrigin_iff.mp same).symm⟩
  · exact .inl values

theorem Carried.source {given last : Outgoing World} (carried : Carried given last)
    (client : CookieClient World) (ops : List Cookie.Jar.Op) (wires : List (Wire World))
    : CookieSource client ops wires given last.uri (last.headers.values "cookie") := by
  rcases carried with none | ⟨caller, origin⟩
  · rw [none]
    exact .none
  · rw [caller]
    exact .caller origin

/-- What a stage holds has its cookies from somewhere. -/
def Stage.Sourced (client : CookieClient World) (ops : List Cookie.Jar.Op)
    (wires : List (Wire World)) (given : Outgoing World)
    : Stage World → Prop
  | .answered => True
  | .waiting target req =>
      req.uri = target
        ∧ CookieSource client ops wires given target (req.headers.values "cookie")
  | .sent target _ req =>
      CookieSource client ops wires given target (req.headers.values "cookie")

/-- The redirect layer sees nothing but the cookies of the caller, and the loop none without a
source.
-/
structure Flow.Sound (client : CookieClient World) (ops : List Cookie.Jar.Op)
    (wires : List (Wire World)) (flow : Flow World)
    : Prop where
  linked : flow.exchange.Linked
  carried : ∀ last, flow.exchange.requests.getLast? = some last → Carried flow.given last
  sourced : flow.stage.Sourced client ops wires flow.given

/-- Every request, and all that was handed to connections, has its cookies from somewhere. -/
structure Session.Sound (client : CookieClient World) (session : Session World) : Prop where
  flows : ∀ flow ∈ session.flows, flow.Sound client session.ops session.wires
  wires
    : ∀ wire ∈ session.wires, CookieSource client session.ops session.wires wire.given wire.target
        (wire.request.headers.values "cookie")

theorem Stage.Sourced.mono {client : CookieClient World} {ops moreOps : List Cookie.Jar.Op}
    {wires moreWires : List (Wire World)} {given : Outgoing World} {stage : Stage World}
    (sourced : stage.Sourced client ops wires given) (past : ops <+: moreOps)
    (handed : wires ⊆ moreWires)
    : stage.Sourced client moreOps moreWires given := by
  cases stage with
  | answered => trivial
  | waiting target req => exact ⟨sourced.1, sourced.2.mono past handed⟩
  | sent target pooled req => exact CookieSource.mono sourced past handed

theorem Flow.Sound.mono {client : CookieClient World} {ops moreOps : List Cookie.Jar.Op}
    {wires moreWires : List (Wire World)} {flow : Flow World}
    (sound : flow.Sound client ops wires) (past : ops <+: moreOps) (handed : wires ⊆ moreWires)
    : flow.Sound client moreOps moreWires :=
  ⟨sound.linked, sound.carried, sound.sourced.mono past handed⟩

/-- The first request that the redirect layer hands down has the cookies and the target of the
request it was given.
-/
theorem first_start (self : FollowRedirectPolicy World) (fresh : self.uris = [])
    (parsers : Parsers) (given : Outgoing World)
    : (Exchange.start self parsers given).first.uri = given.uri
      ∧ (Exchange.start self parsers given).first.headers.getAll "cookie"
        = given.headers.getAll "cookie" := by
  cases entered : (self.forRequest parsers given).1 with
  | none => simp [Exchange.start, call, entered]
  | some policy =>
      have visited := (FollowRedirectPolicy.forRequest_some entered).2.1.trans fresh
      have kept : removeSensitiveHeaders given.uri given.headers policy.uris = given.headers := by
        rw [visited]
        rfl
      have headers := policy.getAll_onRequest { given with extensions := {} }
        (by decide : "cookie" ≠ "referer")
      simp only [Exchange.start, call, entered]
      exact ⟨(policy.onRequest_spec _).2.2.2, by rw [headers, kept]⟩

theorem start_sound (client : CookieClient World) (ops : List Cookie.Jar.Op)
    (wires : List (Wire World)) (given : Outgoing World)
    : (client.start given).Sound client ops wires := by
  obtain ⟨uri, cookies⟩ := first_start (layer client.policy client.referer client.httpsOnly)
    rfl client.parsers given
  have carried : Carried given (client.start given).exchange.first := by
    refine .inr ⟨congrArg (List.map HeaderValue.bytes) cookies, ?_⟩
    rw [CookieClient.start, uri]
    exact ⟨rfl, rfl, rfl⟩
  refine ⟨Exchange.start_linked _ _ given, fun last latest => ?_, rfl, carried.source _ ops wires⟩
  cases latest
  exact carried

/-- A poll keeps the flow sound: what the layer hands down is linked to what it handed down
before.
-/
theorem poll_sound {client : CookieClient World} {ops : List Cookie.Jar.Op}
    {wires : List (Wire World)} {flow : Flow World}
    (sound : flow.Sound client ops wires) (ctx : Context World)
    (running : flow.exchange.output = none)
    : (client.poll ctx flow).Sound client ops wires := by
  have linked := Exchange.poll_linked client.parsers ctx flow.exchange running sound.linked
  cases sent : (flow.exchange.future.poll client.parsers ctx).sent with
  | none =>
      have requests : (client.poll ctx flow).exchange.requests = flow.exchange.requests := by
        simp [CookieClient.poll, Exchange.requests, Exchange.poll, sent]
      refine ⟨linked, requests ▸ sound.carried, ?_⟩
      simp only [CookieClient.poll, sent]
      split
      · trivial
      · exact sound.sourced
  | some request =>
      have requests
          : (client.poll ctx flow).exchange.requests = flow.exchange.requests ++ [request] := by
        simp [CookieClient.poll, Exchange.requests, Exchange.poll, sent]
      have carried : Carried flow.given request := by
        obtain ⟨last, latest⟩ : ∃ last, flow.exchange.requests.getLast? = some last :=
          ⟨_, List.getLast?_eq_some_getLast (by simp [Exchange.requests])⟩
        have chain := requests ▸ linked.chain
        exact (sound.carried last latest).link
          ((List.isChain_append.mp chain).2.2 last latest request rfl)
      refine ⟨linked, fun last latest => ?_, ?_⟩
      · rw [requests, List.getLast?_append] at latest
        cases latest
        exact carried
      · simp only [CookieClient.poll, sent]
        exact ⟨rfl, carried.source _ ops wires⟩

namespace Session

/-- Another sound state of one request keeps the session sound. -/
theorem Sound.put {client : CookieClient World} {ops : List Cookie.Jar.Op}
    {wires : List (Wire World)} {flows : List (Flow World)} {index : Nat} {flow : Flow World}
    (sound : Sound client { ops, flows, wires }) (next : flow.Sound client ops wires)
    : Sound client { ops, flows := flows.set index flow, wires } := by
  refine ⟨fun other member => ?_, sound.wires⟩
  rcases List.mem_or_eq_of_mem_set member with before | rfl
  · exact sound.flows other before
  · exact next

/-- More operations and connections keep what is there sound. -/
theorem Sound.mono {client : CookieClient World} {session : Session World}
    (sound : session.Sound client) {ops : List Cookie.Jar.Op} (past : session.ops <+: ops)
    : Sound client { session with ops } where
  flows flow member := (sound.flows flow member).mono past (List.Subset.refl _)
  wires wire member := (sound.wires wire member).mono past (List.Subset.refl _)

/-- Every step keeps the session sound, by cases on the step. -/
theorem Step.sound {client : CookieClient World} {session next : Session World}
    {event : Event World} (step : Step client session event next)
    (sound : session.Sound client)
    : next.Sound client := by
  cases step with
  | start given =>
      refine ⟨fun flow member => ?_, sound.wires⟩
      rcases List.mem_append.mp member with before | new
      · exact sound.flows flow before
      · rw [List.mem_singleton.mp new]
        exact start_sound client session.ops session.wires given
  | attempt pooled now found stage prepared =>
      rename_i index flow target req sent
      have held := sound.flows flow (List.mem_of_getElem? found)
      have sourced := held.sourced
      rw [stage] at sourced
      have source := prepare_source sourced.1 prepared sourced.2
      have more := List.subset_append_left session.wires
        [flow.wire target pooled now sent]
      have same := List.prefix_refl session.ops
      have wired : Sound client
          { session with
            wires := session.wires ++ [flow.wire target pooled now sent] } := by
        refine ⟨fun other member => (sound.flows other member).mono same more,
          fun wire member => ?_⟩
        rcases List.mem_append.mp member with before | new
        · exact (sound.wires wire before).mono same more
        · rw [List.mem_singleton.mp new]
          exact source
      exact wired.put ⟨held.linked, held.carried, source⟩
  | giveBack found stage retries =>
      have held := sound.flows _ (List.mem_of_getElem? found)
      have sourced := held.sourced
      rw [stage] at sourced
      exact sound.put ⟨held.linked, held.carried, rfl, sourced⟩
  | reply reply clock world found stage running =>
      rename_i index flow target pooled req
      have more := sound.mono (List.prefix_append session.ops
        [.setCookies (setCookieFields reply clock) target])
      exact more.put (poll_sound (more.flows _ (List.mem_of_getElem? found)) _ running)
  | fail err world found busy running =>
      exact sound.put (poll_sound (sound.flows _ (List.mem_of_getElem? found)) _ running)
  | wake world found running =>
      exact sound.put (poll_sound (sound.flows _ (List.mem_of_getElem? found)) _ running)
  | use op => exact sound.mono (List.prefix_append session.ops [op])

/-- In a session, whatever a connection is handed has its cookies from the caller, who asked for
a URI of the same origin, from the headers for a proxy, or from cookies that the jar was given:
each matches the target by the rules of RFC 6265 when it is looked up, came from a host of the
domain it is kept for, and, if it is secure, came over `https`.
-/
theorem session_cookies_confined (client : CookieClient World) {events : List (Event World)}
    {session : Session World} (run : Run (Step client) {} events session) {wire : Wire World}
    (handed : wire ∈ session.wires)
    : CookieSource client session.ops session.wires wire.given wire.target
        (wire.request.headers.values "cookie") := by
  have sound : session.Sound client := by
    refine run.invariant (fun _ sound step => step.sound sound) ⟨?_, ?_⟩
    · intro flow member
      cases member
    · intro wire member
      cases member
  exact sound.wires wire handed

/-- What a site sets -/
def loginField : Str := ascii "s=1; Path=/"

/-- A client that follows redirects, with a jar and a parser that knows the cookie of the site -/
def visitor : CookieClient Unit where
  policy := { inner := .limit 10 }
  parsers := knownSites
  cookieParsers :=
    { Cookie.Parsers.dns with
      cookieParse := fun field => if field = loginField then some (.atPath "s" "1" "/") else none }

/-- A reply that sets a cookie and redirects -/
def login : Reply where
  status := 302
  headers :=
    (HeaderMap.empty.insert "location" { bytes := ascii "https://a.test/" }).insert "set-cookie"
      { bytes := loginField }

/-- The cookie of a reply that redirects is on the next request, and it is one of the jar. -/
theorem session_cookies_confined_login
    : ∃ session : Session Unit,
      session.wires.map (fun wire => wire.request.headers.values "cookie") = [[], [ascii "s=1"]]
        ∧ ∀ wire ∈ session.wires, CookieSource visitor session.ops session.wires wire.given
            wire.target (wire.request.headers.values "cookie") := by
  let page : Request (Extensions Unit) Body := getRoot Unit .https "a.test" .empty
  have started : Run (Step visitor) {} [.start page] _ := .snoc .nil (.start _)
  have asked : Run (Step visitor) {} [.start page, .attempt 0 { isHttp2 := false } 0] _ :=
    started.snoc (.attempt _ _ rfl rfl rfl)
  have answered
      : Run (Step visitor) {}
          [.start page, .attempt 0 { isHttp2 := false } 0, .reply 0 login (fun _ => 1) ()] _ :=
    asked.snoc (.reply _ _ _ rfl rfl rfl)
  have run
      : Run (Step visitor) {}
          [.start page, .attempt 0 { isHttp2 := false } 0, .reply 0 login (fun _ => 1) ()
          , .attempt 0 { isHttp2 := true } 2] _ :=
    answered.snoc (.attempt _ _ rfl rfl rfl)
  exact ⟨_, by decide, fun wire handed => session_cookies_confined visitor run handed⟩

end Session

end Tlsurl.Send
