import Tlsurl.Client.ConnectLock

/-! Whose connections a request of a client is handed.
Connect futures and checkouts are on the key of their request, so a connection that one request
opened is handed to another only if they have the same key.
-/

namespace Tlsurl.Client

open Library
open Pool (Connecting ChanId ConnId Outcome Time)

variable {K : Type} [DecidableEq K]

-----------------------------------------------------------------------------------------
-- Requests and their keys
-----------------------------------------------------------------------------------------

/-- A step of a client makes a request, changes one but not its key, or changes none. -/
theorem Step.requests_cases {state next : State K} {event : Event K}
    (step : Step state event next)
    : next.requests = state.requests
      ∨ (∃ id request changed, state.requests.get? id = some request
        ∧ changed.key = request.key ∧ next.requests = state.requests.set id changed)
      ∨ ∃ key http2 made, event = .call key http2 ∧ made.key = key
        ∧ next.requests = state.requests.alloc made := by
  cases event with
  | call key http2 =>
      obtain ⟨pool, _, rfl⟩ := step
      exact .inr (.inr ⟨key, http2, _, rfl, rfl, rfl⟩)
  | pollCheckout id outcome =>
      obtain ⟨request, pool, found, _, _, rfl⟩ := step
      exact .inr (.inl ⟨id, request, _, found, (request.checkedOut_same _ _ outcome).1, rfl⟩)
  | connect id =>
      obtain ⟨request, pool, found, _, _, _, rfl⟩ := step
      refine .inr (.inl ⟨id, request, _, found, ?_, rfl⟩)
      split
      · rfl
      · exact request.settle_key _
  | connector id answer =>
      obtain ⟨request, token, found, _, _, step⟩ := step
      refine .inr (.inl ⟨id, request, ?_⟩)
      cases answer with
      | pending =>
          obtain rfl := step
          exact ⟨_, found, request.suspend_same.1, rfl⟩
      | failed proxy =>
          obtain ⟨pool, _, rfl⟩ := step
          exact ⟨_, found, request.settle_key _, rfl⟩
      | connected negotiatedH2 =>
          simp only [ConnectorStep] at step
          split at step
          · obtain ⟨pool, _, rfl⟩ := step
            refine ⟨_, found, ?_, rfl⟩
            split
            · rfl
            · exact request.settle_key _
          · obtain rfl := step
            refine ⟨_, found, ?_, rfl⟩
            rfl
  | handshake id closing answer =>
      obtain ⟨request, token, http2, found, _, _, step⟩ := step
      refine .inr (.inl ⟨id, request, ?_⟩)
      cases answer with
      | pending =>
          obtain rfl := step
          exact ⟨_, found, request.suspend_same.1, rfl⟩
      | failed =>
          obtain ⟨pool, _, rfl⟩ := step
          exact ⟨_, found, request.settle_key _, rfl⟩
      | ready ready poisoned =>
          obtain ⟨pool, _, rfl⟩ := step
          exact ⟨_, found, request.settle_key _, rfl⟩
  | abandon id =>
      obtain ⟨request, found, _, rfl⟩ := step
      refine .inr (.inl ⟨id, request, _, found, ?_, rfl⟩)
      rfl
  | dropConnect id =>
      obtain ⟨request, token, pool, found, _, _, _, rfl⟩ := step
      refine .inr (.inl ⟨id, request, _, found, ?_, rfl⟩)
      rfl
  | beginDrop id =>
      obtain ⟨request, pool, _, _, _, rfl⟩ := step
      exact .inl rfl
  | closeReceiver id =>
      obtain ⟨pool, _, rfl⟩ := step
      exact .inl rfl
  | endDrop id =>
      obtain ⟨pool, _, rfl⟩ := step
      exact .inl rfl
  | pool event =>
      obtain ⟨pool, _, _, rfl⟩ := step
      exact .inl rfl

/-- A request keeps its key. -/
theorem Step.request_key {state next : State K} {event : Event K} {id : Nat}
    {request : Request K} (step : Step state event next)
    (found : state.requests.get? id = some request)
    : ∃ later, next.requests.get? id = some later ∧ later.key = request.key := by
  rcases step.requests_cases with
    same | ⟨other, old, changed, foundOther, key, set⟩ | ⟨key, http2, made, _, _, alloc⟩
  · exact ⟨request, same ▸ found, rfl⟩
  · rw [set]
    by_cases same : id = other
    · subst same
      cases found.symm.trans foundOther
      exact ⟨changed, Table.get?_set_self found _, key⟩
    · exact ⟨request, (Table.get?_set_ne same _).trans found, rfl⟩
  · rw [alloc, Table.get?_alloc, if_neg (Nat.ne_of_lt (Table.lt_size found))]
    exact ⟨request, found, rfl⟩

-----------------------------------------------------------------------------------------
-- The invariant
-----------------------------------------------------------------------------------------

/-- What the pool keeps for a key was opened for it, and each connect future and each checkout
is on the key of its request.
-/
structure State.Keyed (state : State K) : Prop where
  pool : state.pool.Keyed
  holding : state.Holding
  numbered : state.pool.inner.isSome = true → state.pool.checkouts.size = state.requests.size
  asks
    : ∀ id checkout, state.pool.checkouts.get? id = some checkout
      → ∃ request, state.requests.get? id = some request ∧ request.key = checkout.key

/-- A step that calls for no connection leaves the pool alone, or takes a step on it that neither
makes a checkout nor drops the pool.
-/
theorem Step.pool_cases {state next : State K} {event : Event K} (step : Step state event next)
    (calls : ∀ key http2, event ≠ .call key http2)
    : next.pool = state.pool
      ∨ ∃ operation, Pool.Step state.pool operation next.pool
        ∧ (∀ key, operation ≠ .checkout key) ∧ operation ≠ .dropPool := by
  cases event with
  | call key http2 => exact absurd rfl (calls key http2)
  | pollCheckout id outcome =>
      obtain ⟨request, pool, _, _, poolStep, rfl⟩ := step
      exact .inr ⟨_, poolStep, by simp, by simp⟩
  | connect id =>
      obtain ⟨request, pool, _, _, _, poolStep, rfl⟩ := step
      exact .inr ⟨_, poolStep, by simp, by simp⟩
  | connector id answer =>
      obtain ⟨request, token, _, _, _, step⟩ := step
      cases answer with
      | pending =>
          obtain rfl := step
          exact .inl rfl
      | failed proxy =>
          obtain ⟨pool, poolStep, rfl⟩ := step
          exact .inr ⟨_, poolStep, by simp, by simp⟩
      | connected negotiatedH2 =>
          simp only [ConnectorStep] at step
          split at step
          · obtain ⟨pool, poolStep, rfl⟩ := step
            exact .inr ⟨_, poolStep, by simp, by simp⟩
          · obtain rfl := step
            exact .inl rfl
  | handshake id closing answer =>
      obtain ⟨request, token, http2, _, _, _, step⟩ := step
      cases answer with
      | pending =>
          obtain rfl := step
          exact .inl rfl
      | failed =>
          obtain ⟨pool, poolStep, rfl⟩ := step
          exact .inr ⟨_, poolStep, by simp, by simp⟩
      | ready ready poisoned =>
          obtain ⟨pool, poolStep, rfl⟩ := step
          exact .inr ⟨_, poolStep, by simp, by simp⟩
  | abandon id =>
      obtain ⟨request, _, _, rfl⟩ := step
      exact .inl rfl
  | dropConnect id =>
      obtain ⟨request, token, pool, _, _, _, poolStep, rfl⟩ := step
      exact .inr ⟨_, poolStep, by simp, by simp⟩
  | beginDrop id =>
      obtain ⟨request, pool, _, _, poolStep, rfl⟩ := step
      exact .inr ⟨_, poolStep, by simp, by simp⟩
  | closeReceiver id =>
      obtain ⟨pool, poolStep, rfl⟩ := step
      exact .inr ⟨_, poolStep, by simp, by simp⟩
  | endDrop id =>
      obtain ⟨pool, poolStep, rfl⟩ := step
      exact .inr ⟨_, poolStep, by simp, by simp⟩
  | pool event =>
      obtain ⟨pool, away, poolStep, rfl⟩ := step
      refine .inr ⟨event, poolStep, fun key called => ?_, fun dropped => ?_⟩
      · subst called
        cases away
      · subst dropped
        cases away

/-- A step that calls for no connection keeps the number of requests. -/
theorem Step.requests_size {state next : State K} {event : Event K}
    (step : Step state event next) (calls : ∀ key http2, event ≠ .call key http2)
    : next.requests.size = state.requests.size := by
  rcases step.requests_cases with
    same | ⟨other, old, changed, _, _, set⟩ | ⟨key, http2, made, called, _, _⟩
  · rw [same]
  · rw [set, Table.size_set]
  · exact absurd called (calls key http2)

/-- A call makes a checkout with the number of its request. -/
theorem State.Keyed.call {state next : State K} {key : K} {http2 : Bool} (keyed : state.Keyed)
    (step : Step state (.call key http2) next)
    : next.Keyed := by
  have holding := step.holding keyed.holding
  obtain ⟨pool, poolStep, rfl⟩ := step
  have kept {id : Nat} {checkout : Pool.Checkout K}
      (found : state.pool.checkouts.get? id = some checkout)
      : ∃ request, (state.call pool key http2).requests.get? id = some request
          ∧ request.key = checkout.key := by
    obtain ⟨request, foundRequest, same⟩ := keyed.asks id checkout found
    refine ⟨request, ?_, same⟩
    simp only [State.call]
    rw [Table.get?_alloc, if_neg (Nat.ne_of_lt (Table.lt_size foundRequest)), foundRequest]
  split at poolStep
  · next present =>
      have numbered := keyed.numbered present
      have keyedPool := poolStep.keyed keyed.pool
      obtain ⟨_, rfl⟩ := poolStep
      refine ⟨keyedPool, holding, fun _ => ?_, fun id checkout found => ?_⟩
      · simp [State.call, Pool.State.checkout, numbered]
      · simp only [State.call, Pool.State.checkout] at found
        rw [Table.get?_alloc] at found
        split at found
        · next fresh =>
            cases found
            refine ⟨{ key, ver := state.ver http2, stage := .selecting }, ?_, rfl⟩
            simp only [State.call, present, if_true]
            rw [Table.get?_alloc, if_pos (fresh.trans numbered)]
        · exact kept found
  · next absent =>
      subst poolStep
      exact ⟨keyed.pool, holding, fun present => absurd present absent,
        fun id checkout found => kept found⟩

/-- Each step keeps connect futures and checkouts on the keys of their requests. -/
theorem Step.keyed {state next : State K} {event : Event K} (step : Step state event next)
    (keyed : state.Keyed)
    : next.Keyed := by
  by_cases called : ∃ key http2, event = .call key http2
  · obtain ⟨key, http2, rfl⟩ := called
    exact keyed.call step
  · have calls : ∀ key http2, event ≠ .call key http2 :=
      fun key http2 same => called ⟨key, http2, same⟩
    have holding := step.holding keyed.holding
    have sized := step.requests_size calls
    have kept {id : Nat} {request : Request K} {checkout : Pool.Checkout K}
        (found : state.requests.get? id = some request) (same : request.key = checkout.key)
        : ∃ request, next.requests.get? id = some request ∧ request.key = checkout.key := by
      obtain ⟨later, foundLater, key⟩ := step.request_key found
      exact ⟨later, foundLater, key.trans same⟩
    rcases step.pool_cases calls with same | ⟨operation, poolStep, unmade, undropped⟩
    · refine ⟨same ▸ keyed.pool, holding, fun present => ?_, fun id checkout found => ?_⟩
      · rw [same] at present ⊢
        rw [keyed.numbered present, sized]
      · rw [same] at found
        obtain ⟨request, foundRequest, key⟩ := keyed.asks id checkout found
        exact kept foundRequest key
    · refine ⟨poolStep.keyed keyed.pool, holding, fun present => ?_,
        fun id checkout found => ?_⟩
      · rw [poolStep.inner_isSome undropped] at present
        rw [poolStep.checkouts_size unmade, keyed.numbered present, sized]
      · rcases poolStep.checkout_key found with ⟨earlier, present, key⟩ | ⟨made, _⟩
        · obtain ⟨request, foundRequest, same⟩ := keyed.asks id earlier present
          exact kept foundRequest (same.trans key)
        · exact absurd made (unmade checkout.key)

/-- The drop of the pool keeps them, too. -/
theorem Happens.keyed {state next : State K} {happening : Happening K}
    (happens : Happens state happening next) (keyed : state.Keyed)
    : next.Keyed := by
  cases happening with
  | event event => exact happens.2.keyed keyed
  | dropPool =>
      obtain ⟨_, pool, ⟨_, _, rfl⟩, rfl⟩ := happens
      refine ⟨keyed.pool.dropPool, keyed.holding.dropPool, fun present => ?_,
        fun id checkout found => ?_⟩
      · rw [Pool.State.dropPool_inner] at present
        cases present
      · rw [Pool.State.dropPool_checkouts] at found
        exact keyed.asks id checkout found

/-- Connect futures and checkouts are on the keys of their requests in every state reached. -/
theorem run_keyed {config : Pool.Config} {timerIsEmpty isVerH2 : Bool}
    {happenings : List (Happening K)} {state : State K}
    (run : Run Happens (State.new config timerIsEmpty isVerH2) happenings state)
    : state.Keyed := by
  apply run.invariant
  · intro _ before happening after _ keyed happens
    exact happens.keyed keyed
  · refine ⟨Pool.run_keyed .nil, ⟨?_, ?_, ?_⟩, fun _ => rfl, ?_⟩
    · intro id request token found
      cases found
    · intro id other request second token found
      cases found
    · intro token held found
      cases found
    · intro id checkout found
      cases found

-----------------------------------------------------------------------------------------
-- Opening and handing over
-----------------------------------------------------------------------------------------

/-- A request opens a connection, which is put into the pool. -/
def Opens (before : State K) (id : Nat) (value : ConnId) (after : State K) : Prop :=
  value = before.pool.conns.size
    ∧ ∃ closing ready poisoned, Step before (.handshake id closing (.ready ready poisoned)) after

/-- The checkout of a request resolves to a connection. -/
def Handed (before : State K) (id : Nat) (value : ConnId) (after : State K) : Prop :=
  ∃ idleSince, Step before (.pollCheckout id (.ok value idleSince)) after

/-- A request opens connections for its key. -/
theorem Opens.openedFor {before after : State K} {id : Nat} {value : ConnId}
    {request : Request K} (opens : Opens before id value after) (keyed : before.Keyed)
    (found : before.requests.get? id = some request)
    : Pool.openedFor after.pool.conns value = some request.key := by
  obtain ⟨rfl, closing, ready, poisoned, opener, token, http2, foundOpener, _, handshaking, pool,
    ⟨_, rfl⟩, rfl⟩ := opens
  cases found.symm.trans foundOpener
  obtain ⟨held, present, key, _⟩ := keyed.holding.held id request token found
    (by rw [handshaking]; rfl)
  simp only [State.update, Pool.openedFor, before.pool.pooled_conns present, Table.get?_alloc,
    if_true, Option.map_some, key]

/-- A request is handed connections that were opened for its key. -/
theorem Handed.openedFor {before after : State K} {id : Nat} {value : ConnId}
    {request : Request K} (handed : Handed before id value after) (keyed : before.Keyed)
    (found : before.requests.get? id = some request)
    : Pool.openedFor before.pool.conns value = some request.key := by
  obtain ⟨idleSince, _, pool, _, _, poolStep, rfl⟩ := handed
  obtain ⟨checkout, present, opened⟩ := poolStep.poll_opened keyed.pool
  obtain ⟨asker, foundAsker, key⟩ := keyed.asks id checkout present
  cases found.symm.trans foundAsker
  rw [opened, key]

/-- A request and what was opened keep their keys, by induction on the run. -/
theorem run_keeps {state later : State K} {happenings : List (Happening K)}
    (run : Run Happens state happenings later)
    : (∀ id request, state.requests.get? id = some request
        → ∃ kept, later.requests.get? id = some kept ∧ kept.key = request.key)
      ∧ Pool.Grown state.pool.conns later.pool.conns := by
  induction run with
  | nil => exact ⟨fun id request found => ⟨request, found, rfl⟩, .refl _⟩
  | @snoc _ middle happening finish _ last ih =>
      obtain ⟨requests, grown⟩ := ih
      cases happening with
      | event event =>
          refine ⟨fun id request found => ?_, ?_⟩
          · obtain ⟨kept, foundKept, same⟩ := requests id request found
            obtain ⟨later, foundLater, key⟩ := last.2.request_key foundKept
            exact ⟨later, foundLater, key.trans same⟩
          · have pooled := last.2.operation
            cases comes : middle.operation event with
            | none =>
                simp only [comes] at pooled
                rwa [pooled]
            | some operation =>
                simp only [comes] at pooled
                exact grown.trans pooled.grown
      | dropPool =>
          obtain ⟨_, pool, poolStep, rfl⟩ := last
          exact ⟨requests, grown.trans poolStep.grown⟩

/-- A connection that one request opened is handed only to requests with the same key. -/
theorem run_handed_key {config : Pool.Config} {timerIsEmpty isVerH2 : Bool}
    {earlier later : List (Happening K)} {before opened state next : State K}
    {opener taker : Nat} {value : ConnId} {first second : Request K}
    (run : Run Happens (State.new config timerIsEmpty isVerH2) earlier before)
    (foundFirst : before.requests.get? opener = some first)
    (opens : Opens before opener value opened) (rest : Run Happens opened later state)
    (foundSecond : state.requests.get? taker = some second)
    (handed : Handed state taker value next)
    : first.key = second.key := by
  have keyed := run_keyed run
  have keyedOpened : opened.Keyed := by
    obtain ⟨_, _, _, _, step⟩ := opens
    exact step.keyed keyed
  have keyedLater : state.Keyed := by
    apply rest.invariant
    · intro _ _ _ _ _ kept happens
      exact happens.keyed kept
    · exact keyedOpened
  have made := (run_keeps rest).2.openedFor (opens.openedFor keyed foundFirst)
  exact Option.some.inj (made.symm.trans (handed.openedFor keyedLater foundSecond))

-----------------------------------------------------------------------------------------
-- A connection that is handed over
-----------------------------------------------------------------------------------------

/-- The pool of a first request whose own checkout still waits -/
def waitingInner (key : K) : Pool.PoolInner K :=
  (Pool.PoolInner.new Pool.sampleConfig true).pushWaiter key 0

/-- A client whose first request shakes hands -/
def dialing (key : K) : State K where
  pool :=
    { inner := some (waitingInner key)
      chans := ⟨[some { key }]⟩
      connectings := ⟨[some { key, pool := false }]⟩
      checkouts := ⟨[some { key, waiter := some 0 }]⟩ }
  isVerH2 := false
  requests :=
    ⟨[some { key, ver := .auto, connect := .handshaking 0 false, stage := .connecting }]⟩

/-- The same client when the request has its connection -/
def connected (key : K) : State K where
  pool :=
    { inner := some (waitingInner key)
      conns := ⟨[some { key, http2 := false, ready := true, poisoned := false }]⟩
      chans := ⟨[some { key }]⟩
      connectings := ⟨[none]⟩
      pooleds := ⟨[some { value := 0, isReused := false, key, pool := true }]⟩
      checkouts := ⟨[some { key, waiter := some 0 }]⟩ }
  isVerH2 := false
  requests := ⟨[some { key, ver := .auto, connect := .spent, stage := .done (.ok 0) }]⟩

/-- The same client when the first request has dropped its checkout -/
def closed (key : K) : State K where
  pool :=
    { inner := some (waitingInner key)
      conns := ⟨[some { key, http2 := false, ready := true, poisoned := false }]⟩
      chans := ⟨[some { key, receiver := .closed }]⟩
      connectings := ⟨[none]⟩
      pooleds := ⟨[some { value := 0, isReused := false, key, pool := true }]⟩
      checkouts := ⟨[some { key, dropping := true }]⟩ }
  isVerH2 := false
  requests := ⟨[some { key, ver := .auto, connect := .spent, stage := .done (.ok 0) }]⟩

/-- The pool with the idle connection -/
def idleInner (key : K) : Pool.PoolInner K :=
  { Pool.PoolInner.new Pool.sampleConfig true with
    idle := ((LruCache.new none).put key []).put key [⟨0, 0⟩]
    waiters := (waitingInner key).waiters.erase key }

/-- The same client when the connection is idle and a second request begins -/
def idling (key : K) : State K where
  pool :=
    { inner := some (idleInner key)
      conns := ⟨[some { key, http2 := false, ready := true, poisoned := false }]⟩
      chans := ⟨[some { key, receiver := .closed }]⟩
      connectings := ⟨[none]⟩
      pooleds := ⟨[none]⟩
      checkouts := ⟨[some { key, dropping := true }, some { key }]⟩ }
  isVerH2 := false
  requests :=
    ⟨[some { key, ver := .auto, connect := .spent, stage := .done (.ok 0) }
    , some { key, ver := .auto, stage := .selecting }]⟩

theorem dialing_run (key : K)
    : Run Happens (State.new Pool.sampleConfig true false)
        [.event (.call key false), .event (.pollCheckout 0 .pending), .event (.connect 0)
        , .event (.connector 0 (.connected false))] (dialing key) := by
  apply Run.cons
  · exact ⟨fun _ _ _ => rfl, _, ⟨rfl, rfl⟩, rfl⟩
  apply Run.cons
  · exact ⟨nofun, _, _, rfl, rfl, ⟨_, rfl, rfl, rfl⟩, rfl⟩
  apply Run.cons
  · exact ⟨nofun, _, _, rfl, rfl, rfl, ⟨rfl, rfl⟩, rfl⟩
  apply Run.cons
  · exact ⟨nofun, _, _, rfl, rfl, rfl, rfl⟩
  exact .nil

theorem dialing_opens (key : K) : Opens (dialing key) 0 0 (connected key) :=
  ⟨rfl, fun _ => false, true, false, _, _, _, rfl, rfl, rfl, _, ⟨rfl, rfl⟩, rfl⟩

/-- The connection that is put passes over the receiver that is closed. -/
theorem waitingInner_put (key : K) {chans : Table (Pool.Chan K)}
    (passes : Pool.deliver (fun _ => false) false 0 [0] chans = ([], some 0, chans))
    : (waitingInner key).put (fun _ => false) false 0 chans key 0 = (idleInner key, chans) := by
  have queue : (waitingInner key).waiters.lookup key = some [0] := AList.lookup_insert _
  simp only [Pool.PoolInner.put, Bool.false_and, Bool.false_eq_true, if_false, queue, passes]
  rfl

theorem idling_run (key : K)
    : Run Happens (connected key)
        [.event (.beginDrop 0), .event (.closeReceiver 0)
        , .event (.pool (.dropPooled (fun _ => false) 0)), .event (.call key false)]
        (idling key) := by
  have put
      : ({ (closed key).pool with pooleds := ⟨[none]⟩ } : Pool.State K).put (fun _ => false) key 0
        = { (closed key).pool with pooleds := ⟨[none]⟩, inner := some (idleInner key) } :=
    Pool.State.put_eq _ (show _ = some (waitingInner key) from rfl) (waitingInner_put key rfl)
  apply Run.cons
  · exact ⟨nofun, _, _, rfl, rfl, ⟨_, rfl, rfl, rfl⟩, rfl⟩
  apply Run.cons
  · exact ⟨nofun, _, ⟨_, _, rfl, rfl, rfl, rfl⟩, rfl⟩
  apply Run.cons
  · exact ⟨nofun, _, rfl, ⟨_, rfl, put.symm⟩, rfl⟩
  apply Run.cons
  · exact ⟨fun _ _ _ => rfl, _, ⟨rfl, rfl⟩, rfl⟩
  exact .nil

theorem idling_handed (key : K) : ∃ next, Handed (idling key) 1 0 next := by
  have found : (idleInner key).idle.peek key = some [⟨0, 0⟩] := LruCache.peek_put_self _ key _
  have polled : ∃ pool, (idling key).pool.pollIdle 1 key = (.ok 0 (some 0), pool) := by
    simp only [Pool.State.pollIdle, idling, Pool.PoolInner.takeIdle, found]
    exact ⟨_, rfl⟩
  obtain ⟨pool, polled⟩ := polled
  exact ⟨_, some 0, _, pool, rfl, rfl, ⟨_, rfl, rfl, polled⟩, rfl⟩

-----------------------------------------------------------------------------------------
-- A connection that is shared
-----------------------------------------------------------------------------------------

/-- The pool of a client whose first request shakes hands for HTTP/2, with the lock of its key -/
def lockedInner (key : K) : Pool.PoolInner K :=
  { waitingInner key with connecting := insert key ∅ }

/-- A client whose first request shakes hands for HTTP/2 -/
def dialingH2 (key : K) (isVerH2 : Bool) : State K where
  pool :=
    { inner := some (lockedInner key)
      chans := ⟨[some { key }]⟩
      connectings := ⟨[some { key, pool := true }]⟩
      checkouts := ⟨[some { key, waiter := some 0 }]⟩
      calls := [.granted 0 key] }
  isVerH2 := isVerH2
  requests :=
    ⟨[some { key, ver := .http2, connect := .handshaking 0 true, stage := .connecting }]⟩

/-- The pool with the connection idle, after it was sent to the waiting checkout -/
def sharedInner (key : K) : Pool.PoolInner K :=
  { idleInner key with
    waiters := (idleInner key).waiters.erase key
    connecting := (lockedInner key).connecting.erase key }

/-- The same client when the connection is shared by all -/
def sharing (key : K) (isVerH2 : Bool) : State K where
  pool :=
    { inner := some (sharedInner key)
      conns := ⟨[some { key, http2 := true, ready := true, poisoned := false }]⟩
      chans := ⟨[some { key, value := some 0, sender := false }]⟩
      connectings := ⟨[none]⟩
      pooleds := ⟨[some { value := 0, isReused := false, key, pool := false }]⟩
      checkouts := ⟨[some { key, waiter := some 0 }]⟩
      calls := [.granted 0 key, .connected 0 key (key ∈ (lockedInner key).connecting)] }
  isVerH2 := isVerH2
  requests := ⟨[some { key, ver := .http2, connect := .spent, stage := .done (.ok 0) }]⟩

/-- The same client when a second request begins -/
def joining (key : K) (isVerH2 : Bool) : State K :=
  { sharing key isVerH2 with
    pool :=
      { (sharing key isVerH2).pool with
        checkouts := ⟨[some { key, waiter := some 0 }, some { key }]⟩ }
    requests :=
      ⟨[some { key, ver := .http2, connect := .spent, stage := .done (.ok 0) }
      , some { key, ver := .http2, stage := .selecting }]⟩ }

theorem dialingH2_run (key : K) {isVerH2 http2 : Bool} (demanded : (http2 || isVerH2) = true)
    : Run Happens (State.new Pool.sampleConfig true isVerH2)
        [.event (.call key http2), .event (.pollCheckout 0 .pending), .event (.connect 0)
        , .event (.connector 0 (.connected false))] (dialingH2 key isVerH2) := by
  have ver : (State.new Pool.sampleConfig true isVerH2 : State K).ver http2 = .http2 :=
    if_pos demanded
  apply Run.cons
  · exact ⟨fun _ _ _ => rfl, _, ⟨rfl, rfl⟩, rfl⟩
  rw [State.call, ver]
  apply Run.cons
  · exact ⟨fun _ _ same => (by cases same), _, _, rfl, rfl, ⟨_, rfl, rfl, rfl⟩, rfl⟩
  apply Run.cons
  · exact ⟨fun _ _ same => (by cases same), _, _, rfl, rfl, rfl, ⟨rfl, rfl⟩, rfl⟩
  apply Run.cons
  · exact ⟨fun _ _ same => (by cases same), _, _, rfl, rfl, rfl, rfl⟩
  exact .nil

theorem joining_run (key : K) {isVerH2 http2 : Bool} (demanded : (http2 || isVerH2) = true)
    : Run Happens (sharing key isVerH2) [.event (.call key http2)] (joining key isVerH2) := by
  have ver : (sharing key isVerH2).ver http2 = .http2 := if_pos demanded
  refine .cons ⟨fun _ _ _ => rfl, _, ⟨rfl, rfl⟩, ?_⟩ .nil
  rw [State.call, ver]
  rfl

/-- A shared connection is sent to the waiting checkout, and becomes idle. -/
theorem lockedInner_put (key : K)
    : (lockedInner key).put (fun _ => false) true 0 ⟨[some { key }]⟩ key 0
      = ({ idleInner key with connecting := insert key ∅ },
          ⟨[some { key, value := some 0, sender := false }]⟩) := by
  have queue : (lockedInner key).waiters.lookup key = some [0] := AList.lookup_insert _
  simp only [Pool.PoolInner.put, queue]
  rfl

theorem dialingH2_opens (key : K) (isVerH2 : Bool)
    : Opens (dialingH2 key isVerH2) 0 0 (sharing key isVerH2) := by
  let dialed : Pool.State K :=
    { (dialingH2 key isVerH2).pool with
      conns := ⟨[some { key, http2 := true, ready := true, poisoned := false }]⟩ }
  let handle (pool : Pool.State K) : Pool.State K :=
    { pool with
      connectings := pool.connectings.free 0
      pooleds := pool.pooleds.alloc { value := 0, isReused := false, key, pool := false } }
  have put
      : dialed.put (fun _ => false) key 0
        = { dialed with
            inner := some { idleInner key with connecting := insert key ∅ }
            chans := ⟨[some { key, value := some 0, sender := false }]⟩ } :=
    Pool.State.put_eq dialed (show _ = some (lockedInner key) from rfl) (lockedInner_put key)
  have unwaited : (idleInner key).waiters.lookup key = none := AList.lookup_erase _ _
  have released
      : (dialed.put (fun _ => false) key 0).connected key 0
        = { dialed with
            inner := some (sharedInner key)
            chans := ⟨[some { key, value := some 0, sender := false }]⟩
            calls := (sharing key isVerH2).pool.calls } := by
    rw [put]
    simp only [Pool.State.connected, Pool.PoolInner.connected, unwaited]
    rfl
  have pooled
      : (dialingH2 key isVerH2).pool.pooled (fun _ => false) 0 true true false
        = (sharing key isVerH2).pool := by
    have step
        : (dialingH2 key isVerH2).pool.pooled (fun _ => false) 0 true true false
          = handle ((dialed.put (fun _ => false) key 0).connected key 0) := rfl
    rw [step, released]
    rfl
  exact ⟨rfl, fun _ => false, true, false, _, _, _, rfl, rfl, rfl, _, ⟨rfl, pooled.symm⟩, rfl⟩

theorem joining_handed (key : K) (isVerH2 : Bool)
    : ∃ next, Handed (joining key isVerH2) 1 0 next := by
  have found : (sharedInner key).idle.peek key = some [⟨0, 0⟩] := LruCache.peek_put_self _ key _
  have polled : ∃ pool, (joining key isVerH2).pool.pollIdle 1 key = (.ok 0 (some 0), pool) := by
    simp only [Pool.State.pollIdle, joining, sharing, Pool.PoolInner.takeIdle, found]
    exact ⟨_, rfl⟩
  obtain ⟨pool, polled⟩ := polled
  exact ⟨_, some 0, _, pool, rfl, rfl, ⟨_, rfl, rfl, polled⟩, rfl⟩

-----------------------------------------------------------------------------------------
-- Both
-----------------------------------------------------------------------------------------

/-- For every client, every key and every version there is a run in which the second request is
handed the connection that the first one opened.
-/
theorem exists_handover (key : K) (isVerH2 http2 : Bool)
    : ∃ earlier before opened later state next,
        Run Happens (State.new Pool.sampleConfig true isVerH2) earlier before
        ∧ Opens before 0 0 opened ∧ Run Happens opened later state ∧ Handed state 1 0 next
        ∧ ∀ id request, state.requests.get? id = some request
          → request.key = key ∧ request.ver = state.ver http2 := by
  by_cases demanded : (http2 || isVerH2) = true
  · obtain ⟨next, handed⟩ := joining_handed key isVerH2
    refine ⟨_, _, _, _, _, next, dialingH2_run key demanded, dialingH2_opens key isVerH2,
      joining_run key demanded, handed, fun id request found => ?_⟩
    have ver : (joining key isVerH2).ver http2 = .http2 := if_pos demanded
    rw [ver]
    match id, found with
    | 0, found => cases found; exact ⟨rfl, rfl⟩
    | 1, found => cases found; exact ⟨rfl, rfl⟩
    | id + 2, found => cases found
  · obtain ⟨rfl, rfl⟩ : http2 = false ∧ isVerH2 = false := by simpa using demanded
    obtain ⟨next, handed⟩ := idling_handed key
    refine ⟨_, _, _, _, _, next, dialing_run key, dialing_opens key, idling_run key, handed,
      fun id request found => ?_⟩
    match id, found with
    | 0, found => cases found; exact ⟨rfl, rfl⟩
    | 1, found => cases found; exact ⟨rfl, rfl⟩
    | id + 2, found => cases found

end Tlsurl.Client
