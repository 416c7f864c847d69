import Tlsurl.Library.Run
import Tlsurl.Redirect.Future

/-! One request through the redirect layer, as the inner service sees it.
An exchange is the future together with what an observer between the layer and the inner
service has seen: the requests handed down, and for each hop the reply that led to it.
-/

namespace Tlsurl.Redirect

variable {World : Type}

/-- A followed redirect: the reply that redirects, the request sent for it, and whether the
decision to follow came from a pending action.
-/
structure Hop (World : Type) where
  reply : Reply
  request : Request (Extensions World) Body
  deferred : Bool

/-- The future, the first request it handed down, the hops since, the last reply it got, and
its output once it is ready.
-/
structure Exchange (World : Type) where
  future : ResponseFuture World
  first : Request (Extensions World) Body
  hops : List (Hop World) := []
  lastReply : Reply := { status := 0, headers := HeaderMap.empty }
  output : Option (Except BoxError Response) := none

/-- Whether the future is waiting for a pending action. -/
def ResponseFuture.pending? : ResponseFuture World → Option (Pending World)
  | .redirect pendingFuture _ _ _ => pendingFuture
  | .direct => none

namespace Exchange

/-- A call of the redirect layer. -/
def start (self : FollowRedirectPolicy World) (parsers : Parsers)
    (req : Request (Extensions World) Body)
    : Exchange World :=
  let (future, first) := call self parsers req
  { future, first }

/-- The requests handed to the inner service, oldest first. -/
def requests (exchange : Exchange World) : List (Request (Extensions World) Body) :=
  exchange.first :: exchange.hops.map Hop.request

/-- The last reply an observer has seen after this poll. The inner future is not polled
while an action is pending.
-/
def observe (exchange : Exchange World) (ctx : Context World) : Reply :=
  match exchange.future.pending?, ctx.inner with
  | none, some (.ok reply) => reply
  | _, _ => exchange.lastReply

/-- One poll of the future. -/
def poll (parsers : Parsers) (ctx : Context World) (exchange : Exchange World)
    : Exchange World :=
  let polled := exchange.future.poll parsers ctx
  let reply := exchange.observe ctx
  { future := polled.next
    first := exchange.first
    hops := exchange.hops
      ++ (polled.sent.map (fun request =>
        { reply, request, deferred := exchange.future.pending?.isSome })).toList
    lastReply := reply
    output := polled.result }

/-- A future is polled until it is ready. -/
def Step (parsers : Parsers) (exchange : Exchange World) (ctx : Context World)
    (next : Exchange World)
    : Prop :=
  exchange.output = none ∧ next = exchange.poll parsers ctx

/-- The exchange after a list of polls. -/
def after (parsers : Parsers) (exchange : Exchange World) : List (Context World) → Exchange World
  | [] => exchange
  | ctx :: polls => after parsers (exchange.poll parsers ctx) polls

/-- The future is not ready before any of the polls. -/
def runs (parsers : Parsers) (exchange : Exchange World) : List (Context World) → Bool
  | [] => true
  | ctx :: polls => exchange.output.isNone && runs parsers (exchange.poll parsers ctx) polls

/-- Polls of a future that is not ready form a run, by induction on the polls. -/
theorem run_after {parsers : Parsers} {exchange : Exchange World} {polls : List (Context World)}
    (running : exchange.runs parsers polls = true)
    : Library.Run (Step parsers) exchange polls (exchange.after parsers polls) := by
  induction polls generalizing exchange with
  | nil => exact .nil
  | cons ctx polls ih =>
      simp only [runs, Bool.and_eq_true, Option.isNone_iff_eq_none] at running
      exact .cons ⟨running.1, rfl⟩ (ih running.2)

end Exchange

/-- The redirect layer as the client builds it. -/
def layer (policy : Policy World) (referer httpsOnly : Bool) : FollowRedirectPolicy World :=
  ((FollowRedirectPolicy.new policy).withReferer referer).withHttpsOnly httpsOnly

-----------------------------------------------------------------------------------------
-- Concrete requests and polls for the runs on fixed inputs
-----------------------------------------------------------------------------------------

/-- A `GET` of the root page of `host`, with `headers` and no extension. -/
def getRoot (World : Type) (scheme : Scheme) (host : String) (headers : HeaderMap)
    : Request (Extensions World) Body where
  method := .get
  uri := { scheme := some scheme, authority := some { host := ascii host }, path := ascii "/" }
  version := .http11
  headers := headers
  extensions := {}
  body := .empty

/-- A poll that gets `status` from the inner service, with a `Location` if one is given. -/
def answers (world : World) (status : StatusCode) (location : Option String) : Context World :=
  let headers := match location with
    | none => HeaderMap.empty
    | some text => HeaderMap.empty.insert "location" { bytes := ascii text }
  { world, inner := some (.ok { status, headers }) }

/-- A poll while the inner service has not answered. -/
def silent (world : World) : Context World := { world, inner := none }

/-- The parsers of the concrete runs. -/
def knownSites : Parsers :=
  .ofSites
    [(.http, "a.test"), (.https, "a.test"), (.https, "A.test"), (.http, "b.test")
    , (.other (ascii "ftp"), "b.test")]

/-- An async closure that follows once it is polled in a world other than zero. -/
def deferring : Policy Nat where
  inner := .custom (fun _ _ => .pending (fun world => if world = 0 then none else some .follow))

end Tlsurl.Redirect
