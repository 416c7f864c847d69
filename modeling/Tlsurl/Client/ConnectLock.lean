import Tlsurl.Client.Failures
import Tlsurl.Pool.ConnectLocks

/-! The lock of a key in every run of a client, up to the drop of its pool.
Each connect future in progress holds one `Connecting`, which has the lock of the key exactly if
an HTTP/2 connection will come of it.
-/

namespace Tlsurl.Client

open Library
open Pool (Connecting ChanId Outcome)

variable {K : Type} [DecidableEq K]

-----------------------------------------------------------------------------------------
-- What happens to a client and its pool
-----------------------------------------------------------------------------------------

/-- The operation on the pool that an event of a client comes to, if there is one. -/
def State.operation (state : State K) : Event K → Option (Pool.Event K)
  | .call key _ => if state.pool.inner.isSome then some (.checkout key) else none
  | .pollCheckout id outcome => some (.poll id outcome)
  | .connect id =>
      (state.requests.get? id).map (fun request => .connecting request.key request.ver)
  | .connector id answer =>
      (state.requests.get? id).bind (fun request =>
        request.connect.token?.bind (fun token =>
          match answer with
          | .pending => none
          | .failed _ => some (.dropConnecting token)
          | .connected negotiatedH2 =>
              if negotiatedH2 && request.ver ≠ .http2 then some (.alpnH2 token) else none))
  | .handshake id closing answer =>
      (state.requests.get? id).bind (fun request =>
        match request.connect, answer with
        | .handshaking token _, .failed => some (.dropConnecting token)
        | .handshaking token http2, .ready ready poisoned =>
            some (.pooled closing token http2 ready poisoned)
        | _, _ => none)
  | .abandon _ => none
  | .dropConnect id =>
      ((state.requests.get? id).bind (fun request => request.connect.token?)).map .dropConnecting
  | .beginDrop id => some (.beginDrop id)
  | .closeReceiver id => some (.closeReceiver id)
  | .endDrop id => some (.endDrop id)
  | .pool event => some event

/-- Beside the events of its requests, the pool of a client may be dropped. -/
inductive Happening (K : Type) where
  | event (event : Event K)
  | dropPool

/-- Calls need a client, and so a handle of the pool. The last handle is dropped when no request
and no connect future in the background is polled any more.
-/
def Happens (state : State K) : Happening K → State K → Prop
  | .event event, next =>
      (∀ key http2, event = .call key http2 → state.pool.alive = true) ∧ Step state event next
  | .dropPool, next =>
      (∀ id request, state.requests.get? id = some request
          → request.finished = true ∧ (request.connects = true → request.connect = .spent))
        ∧ ∃ pool, Pool.Step state.pool .dropPool pool ∧ next = { state with pool }

/-- The operation on the pool that a happening comes to. -/
def State.operates (state : State K) : Happening K → Option (Pool.Event K)
  | .event event => state.operation event
  | .dropPool => some .dropPool

/-- A step of a client takes its operation on the pool, or leaves the pool alone. -/
theorem Step.operation {state next : State K} {event : Event K} (step : Step state event next)
    : match state.operation event with
      | none => next.pool = state.pool
      | some operation => Pool.Step state.pool operation next.pool := by
  cases event with
  | call key http2 =>
      obtain ⟨pool, step, rfl⟩ := step
      simp only [State.operation]
      split at step
      · next present => simpa only [present, if_true, State.call] using step
      · next absent => simpa only [absent, Bool.false_eq_true, if_false, State.call] using step
  | pollCheckout id outcome =>
      obtain ⟨request, pool, _, _, step, rfl⟩ := step
      exact step
  | connect id =>
      obtain ⟨request, pool, found, _, _, step, rfl⟩ := step
      simpa only [State.operation, found, Option.map_some, State.update] using step
  | connector id answer =>
      obtain ⟨request, token, found, _, connecting, step⟩ := step
      simp only [State.operation, found, connecting, Connect.token?, Option.bind_some]
      cases answer with
      | pending =>
          obtain rfl := step
          rfl
      | failed proxy =>
          obtain ⟨pool, step, rfl⟩ := step
          exact step
      | connected negotiatedH2 =>
          simp only [ConnectorStep] at step
          split at step
          · next unforeseen =>
              obtain ⟨pool, step, rfl⟩ := step
              simpa only [unforeseen, if_true, State.update] using step
          · next foreseen =>
              obtain rfl := step
              simp only [foreseen, Bool.false_eq_true, if_false]
              rfl
  | handshake id closing answer =>
      obtain ⟨request, token, http2, found, _, handshaking, step⟩ := step
      simp only [State.operation, found, handshaking, Option.bind_some]
      cases answer with
      | pending =>
          obtain rfl := step
          rfl
      | failed =>
          obtain ⟨pool, step, rfl⟩ := step
          exact step
      | ready ready poisoned =>
          obtain ⟨pool, step, rfl⟩ := step
          exact step
  | abandon id =>
      obtain ⟨request, _, _, rfl⟩ := step
      rfl
  | dropConnect id =>
      obtain ⟨request, token, pool, found, _, holds, step, rfl⟩ := step
      simpa only [State.operation, found, holds, Option.bind_some, Option.map_some, State.update]
        using step
  | beginDrop id =>
      obtain ⟨request, pool, _, _, step, rfl⟩ := step
      exact step
  | closeReceiver id =>
      obtain ⟨pool, step, rfl⟩ := step
      exact step
  | endDrop id =>
      obtain ⟨pool, step, rfl⟩ := step
      exact step
  | pool event =>
      obtain ⟨pool, _, step, rfl⟩ := step
      exact step

-----------------------------------------------------------------------------------------
-- Who holds a `Connecting`
-----------------------------------------------------------------------------------------

/-- A `Connecting` is right for a request: it has its key, and the lock of the key exactly if an
HTTP/2 connection will come of it.
-/
def Request.Fits (request : Request K) (enabled : Bool) (held : Connecting K) : Prop :=
  held.key = request.key ∧ (enabled = true → held.pool = request.shares)

/-- The connect futures in progress and the live `Connecting`s belong together. -/
structure Holding (requests : Table (Request K)) (tokens : Table (Connecting K))
    (enabled : Bool)
    : Prop where
  held
    : ∀ id request token, requests.get? id = some request → request.connect.token? = some token
      → ∃ held, tokens.get? token = some held ∧ request.Fits enabled held
  apart
    : ∀ id other request second token, requests.get? id = some request
      → requests.get? other = some second → request.connect.token? = some token
      → second.connect.token? = some token → id = other
  owned
    : ∀ token held, tokens.get? token = some held
      → ∃ id request, requests.get? id = some request ∧ request.connect.token? = some token

namespace Holding

omit [DecidableEq K]

variable {requests : Table (Request K)} {tokens after : Table (Connecting K)} {enabled : Bool}

/-- A request may give up its `Connecting` or get a new one. -/
theorem update (holding : Holding requests tokens enabled) {id : Nat} {request changed : Request K}
    (found : requests.get? id = some request)
    (others
      : ∀ token held, tokens.get? token = some held → request.connect.token? ≠ some token
        → after.get? token = some held)
    (mine
      : ∀ token, changed.connect.token? = some token
        → (∃ held, after.get? token = some held ∧ changed.Fits enabled held)
          ∧ (request.connect.token? = some token ∨ tokens.get? token = none))
    (rest
      : ∀ token held, after.get? token = some held
        → changed.connect.token? = some token
          ∨ (tokens.get? token = some held ∧ request.connect.token? ≠ some token))
    : Holding (requests.set id changed) after enabled := by
  have here : (requests.set id changed).get? id = some changed := Table.get?_set_self found _
  have there {other : Nat} (different : other ≠ id)
      : (requests.set id changed).get? other = requests.get? other :=
    Table.get?_set_ne different _
  -- No other request holds what this one holds afterwards.
  have alone {other : Nat} {second : Request K} {token : Nat} (different : other ≠ id)
      (foundOther : requests.get? other = some second)
      (holds : second.connect.token? = some token)
      : changed.connect.token? ≠ some token := by
    intro own
    rcases (mine token own).2 with before | absent
    · exact different (holding.apart other id second request token foundOther found holds before)
    · obtain ⟨held, present, _⟩ := holding.held other second token foundOther holds
      rw [absent] at present
      cases present
  refine ⟨fun other second token foundOther holds => ?_,
    fun one two first second token foundOne foundTwo holdsOne holdsTwo => ?_,
    fun token held present => ?_⟩
  · by_cases same : other = id
    · subst same
      cases here.symm.trans foundOther
      exact (mine token holds).1
    · rw [there same] at foundOther
      obtain ⟨held, present, fits⟩ := holding.held other second token foundOther holds
      refine ⟨held, others token held present (fun own => same ?_), fits⟩
      exact holding.apart other id second request token foundOther found holds own
  · by_cases sameOne : one = id
    · by_cases sameTwo : two = id
      · rw [sameOne, sameTwo]
      · rw [there sameTwo] at foundTwo
        subst sameOne
        cases here.symm.trans foundOne
        exact absurd holdsOne (alone sameTwo foundTwo holdsTwo)
    · rw [there sameOne] at foundOne
      by_cases sameTwo : two = id
      · subst sameTwo
        cases here.symm.trans foundTwo
        exact absurd holdsTwo (alone sameOne foundOne holdsOne)
      · rw [there sameTwo] at foundTwo
        exact holding.apart one two first second token foundOne foundTwo holdsOne holdsTwo
  · rcases rest token held present with own | ⟨before, unowned⟩
    · exact ⟨id, changed, here, own⟩
    · obtain ⟨other, second, foundOther, holds⟩ := holding.owned token held before
      refine ⟨other, second, ?_, holds⟩
      rw [there, foundOther]
      rintro rfl
      cases found.symm.trans foundOther
      exact unowned holds

/-- A request that keeps its `Connecting`, and its kind. -/
theorem keep (holding : Holding requests tokens enabled) {id : Nat} {request changed : Request K}
    (found : requests.get? id = some request)
    (token : changed.connect.token? = request.connect.token?)
    (fits : ∀ held, request.Fits enabled held → changed.Fits enabled held)
    : Holding (requests.set id changed) tokens enabled := by
  refine holding.update found (fun token held present _ => present) (fun other own => ?_)
    (fun other held present => ?_)
  · rw [token] at own
    obtain ⟨held, present, right⟩ := holding.held id request other found own
    exact ⟨⟨held, present, fits held right⟩, .inl own⟩
  · by_cases own : request.connect.token? = some other
    · exact .inl (token.trans own)
    · exact .inr ⟨present, own⟩

/-- A request that gives up its `Connecting`. -/
theorem free (holding : Holding requests tokens enabled) {id token : Nat}
    {request changed : Request K} (found : requests.get? id = some request)
    (holds : request.connect.token? = some token) (spent : changed.connect.token? = none)
    : Holding (requests.set id changed) (tokens.free token) enabled := by
  refine holding.update found (fun other held present unowned => ?_) (fun other own => ?_)
    (fun other held present => ?_)
  · rw [Table.get?_free, if_neg, present]
    rintro rfl
    exact unowned holds
  · rw [spent] at own
    cases own
  · rw [Table.get?_free] at present
    split at present
    · cases present
    · next different =>
        refine .inr ⟨present, fun own => different ?_⟩
        rw [holds] at own
        exact (Option.some.inj own).symm

/-- A request that gets its first `Connecting`. -/
theorem alloc (holding : Holding requests tokens enabled) {id : Nat} {request changed : Request K}
    (found : requests.get? id = some request) (without : request.connect.token? = none)
    {fresh : Connecting K} (gets : changed.connect.token? = some tokens.size)
    (fits : changed.Fits enabled fresh)
    : Holding (requests.set id changed) (tokens.alloc fresh) enabled := by
  refine holding.update found (fun token held present _ => ?_) (fun token own => ?_)
    (fun token held present => ?_)
  · rw [Table.get?_alloc, if_neg (Nat.ne_of_lt (Table.lt_size present)), present]
  · cases gets.symm.trans own
    refine ⟨⟨fresh, by rw [Table.get?_alloc, if_pos rfl], fits⟩, .inr ?_⟩
    cases present : tokens.get? tokens.size with
    | none => rfl
    | some held => exact absurd (Table.lt_size present) (Nat.lt_irrefl _)
  · rw [Table.get?_alloc] at present
    split at present
    · next new => exact .inl (new ▸ gets)
    · exact .inr ⟨present, by simp [without]⟩

/-- A request that gets a new `Connecting` for the one it had. -/
theorem exchange (holding : Holding requests tokens enabled) {id token : Nat}
    {request changed : Request K} (found : requests.get? id = some request)
    (holds : request.connect.token? = some token) {fresh : Connecting K}
    (gets : changed.connect.token? = some tokens.size) (fits : changed.Fits enabled fresh)
    : Holding (requests.set id changed) ((tokens.alloc fresh).free token) enabled := by
  obtain ⟨_, before, _⟩ := holding.held id request token found holds
  have older : tokens.size ≠ token := (Nat.ne_of_lt (Table.lt_size before)).symm
  refine holding.update found (fun other held present unowned => ?_) (fun other own => ?_)
    (fun other held present => ?_)
  · rw [Table.get?_free, if_neg, Table.get?_alloc,
      if_neg (Nat.ne_of_lt (Table.lt_size present)), present]
    rintro rfl
    exact unowned holds
  · cases gets.symm.trans own
    refine ⟨⟨fresh, ?_, fits⟩, .inr ?_⟩
    · rw [Table.get?_free, if_neg older, Table.get?_alloc, if_pos rfl]
    · cases present : tokens.get? tokens.size with
      | none => rfl
      | some held => exact absurd (Table.lt_size present) (Nat.lt_irrefl _)
  · rw [Table.get?_free] at present
    split at present
    · cases present
    · next different =>
        rw [Table.get?_alloc] at present
        split at present
        · next new => exact .inl (new ▸ gets)
        · refine .inr ⟨present, fun own => different ?_⟩
          rw [holds] at own
          exact (Option.some.inj own).symm

end Holding

-----------------------------------------------------------------------------------------
-- Steps
-----------------------------------------------------------------------------------------

/-- The connect futures and the `Connecting`s of a client belong together. -/
def State.Holding (state : State K) : Prop :=
  Client.Holding state.requests state.pool.connectings state.pool.inner.isSome

/-- What `Pool::connecting` makes of the tokens. -/
theorem connecting_cases (state : State K) (key : K) (ver : Pool.Ver)
    : (state.grants key ver = false
        ∧ (state.pool.connecting key ver).connectings = state.pool.connectings)
      ∨ (state.grants key ver = true
        ∧ ∃ held, held.key = key
          ∧ (state.pool.inner.isSome = true → held.pool = decide (ver = .http2))
          ∧ (state.pool.connecting key ver).connectings = state.pool.connectings.alloc held) := by
  cases ver with
  | auto => exact .inr ⟨rfl, ⟨key, false⟩, rfl, fun _ => rfl, rfl⟩
  | http2 =>
      cases present : state.pool.inner with
      | none =>
          refine .inr ⟨?_, ⟨key, false⟩, rfl, by simp, ?_⟩
          · simp [State.grants, present]
          · simp [Pool.State.connecting, present]
      | some inner =>
          by_cases taken : key ∈ inner.connecting
          · refine .inl ⟨?_, ?_⟩
            · simp [State.grants, present, taken]
            · simp [Pool.State.connecting, present, taken]
          · refine .inr ⟨?_, ⟨key, true⟩, rfl, fun _ => rfl, ?_⟩
            · simp [State.grants, present, taken]
            · simp [Pool.State.connecting, present, taken]

/-- A step that changes no request and no token keeps the two together. -/
theorem State.Holding.around {state : State K} (holding : state.Holding) {pool : Pool.State K}
    (tokens : pool.connectings = state.pool.connectings)
    (inner : pool.inner.isSome = state.pool.inner.isSome)
    : ({ state with pool } : State K).Holding := by
  unfold State.Holding
  rw [tokens, inner]
  exact holding

/-- So does one that leaves a request its `Connecting`. -/
theorem State.Holding.keep {state : State K} (holding : state.Holding) {pool : Pool.State K}
    (tokens : pool.connectings = state.pool.connectings)
    (inner : pool.inner.isSome = state.pool.inner.isSome) {id : Nat} {request changed : Request K}
    (found : state.requests.get? id = some request) (key : changed.key = request.key)
    (token : changed.connect.token? = request.connect.token?)
    (shares : changed.shares = request.shares)
    : (state.update pool id changed).Holding := by
  unfold State.Holding
  rw [State.update, tokens, inner]
  refine Client.Holding.keep holding found token (fun held fits => ?_)
  exact ⟨fits.1.trans key.symm, fun enabled => (fits.2 enabled).trans shares.symm⟩

/-- So does one that takes the `Connecting` of a request away. -/
theorem State.Holding.free {state : State K} (holding : state.Holding) {pool : Pool.State K}
    {id token : Nat} {request changed : Request K} (found : state.requests.get? id = some request)
    (holds : request.connect.token? = some token)
    (tokens : pool.connectings = state.pool.connectings.free token)
    (inner : pool.inner.isSome = state.pool.inner.isSome)
    (spent : changed.connect.token? = none)
    : (state.update pool id changed).Holding := by
  unfold State.Holding
  rw [State.update, tokens, inner]
  exact Client.Holding.free holding found holds spent

omit [DecidableEq K] in
/-- Polling the checkout leaves the connect future its `Connecting`. -/
theorem Request.checkedOut_same (request : Request K) (isVerH2 : Bool) (handle : Nat)
    (outcome : Outcome)
    : (request.checkedOut isVerH2 handle outcome).key = request.key
      ∧ (request.checkedOut isVerH2 handle outcome).connect.token? = request.connect.token?
      ∧ (request.checkedOut isVerH2 handle outcome).shares = request.shares := by
  unfold Request.checkedOut
  split
  · exact ⟨rfl, rfl, rfl⟩
  · cases connect : request.connect <;>
      simp [Connect.started, Connect.token?, Request.shares, connect]
  · split
    · exact ⟨rfl, rfl, rfl⟩
    · exact ⟨rfl, rfl, rfl⟩
  · exact ⟨rfl, rfl, rfl⟩
  · split
    · exact ⟨rfl, rfl, rfl⟩
    · exact ⟨rfl, rfl, rfl⟩
  · exact ⟨rfl, rfl, rfl⟩

omit [DecidableEq K] in
/-- A connect future that is pending keeps its `Connecting`. -/
theorem Request.suspend_same (request : Request K)
    : request.suspend.key = request.key ∧ request.suspend.connect = request.connect
      ∧ request.suspend.shares = request.shares := by
  unfold Request.suspend
  split
  · exact ⟨rfl, rfl, rfl⟩
  · exact ⟨rfl, rfl, rfl⟩

omit [DecidableEq K] in
@[simp] theorem Request.settle_key (request : Request K) (result : Except Error Nat)
    : (request.settle result).key = request.key :=
  (request.settle_spends result).2

/-- A new request has no `Connecting` yet. -/
theorem State.Holding.call {state next : State K} {key : K} {http2 : Bool}
    (holding : state.Holding) (step : Step state (.call key http2) next)
    : next.Holding := by
  obtain ⟨pool, step, rfl⟩ := step
  have tokens : pool.connectings = state.pool.connectings
      ∧ pool.inner.isSome = state.pool.inner.isSome := by
    split at step
    · obtain ⟨_, rfl⟩ := step
      exact ⟨rfl, rfl⟩
    · rw [step]
      exact ⟨rfl, rfl⟩
  have fresh (stage : Stage)
      : (⟨key, state.ver http2, .init, stage⟩ : Request K).connect.token? = none := rfl
  unfold State.Holding
  simp only [State.call, tokens.1, tokens.2]
  refine ⟨fun id request token found holds => ?_,
    fun id other first second token foundFirst foundSecond holds holdsToo => ?_,
    fun token held present => ?_⟩
  · rw [Table.get?_alloc] at found
    split at found
    · cases found
      cases holds
    · exact holding.held id request token found holds
  · rw [Table.get?_alloc] at foundFirst foundSecond
    split at foundFirst
    · cases foundFirst
      cases holds
    · split at foundSecond
      · cases foundSecond
        cases holdsToo
      · exact holding.apart id other first second token foundFirst foundSecond holds holdsToo
  · obtain ⟨id, request, found, holds⟩ := holding.owned token held present
    refine ⟨id, request, ?_, holds⟩
    rw [Table.get?_alloc, if_neg (Nat.ne_of_lt (Table.lt_size found)), found]

/-- A connect future that starts gets a `Connecting`, or is over. -/
theorem State.Holding.connect {state next : State K} {id : Nat} (holding : state.Holding)
    (step : Step state (.connect id) next)
    : next.Holding := by
  obtain ⟨request, pool, found, _, starts, poolStep, rfl⟩ := step
  have inner := poolStep.inner_isSome (by simp)
  have without : request.connect.token? = none := by rw [starts]; rfl
  obtain ⟨_, rfl⟩ := poolStep
  rcases connecting_cases state request.key request.ver with
    ⟨refused, same⟩ | ⟨granted, held, key, pool, made⟩
  · rw [refused, if_neg Bool.false_ne_true]
    refine holding.keep same inner found (by simp) ?_ ?_
    · rw [Request.settle_connect, without]
      rfl
    · simp [Request.shares, starts]
  · rw [granted, if_pos rfl]
    unfold State.Holding
    rw [State.update, made, inner]
    exact Client.Holding.alloc holding found without rfl ⟨key, pool⟩

/-- A connect future whose connector was polled keeps its `Connecting`, exchanges it for one of
HTTP/2, or is over.
-/
theorem State.Holding.connector {state next : State K} {id : Nat} {answer : Connector}
    (holding : state.Holding) (step : Step state (.connector id answer) next)
    : next.Holding := by
  obtain ⟨request, token, found, _, connecting, step⟩ := step
  have holds : request.connect.token? = some token := by rw [connecting]; rfl
  obtain ⟨held, present, key, _⟩ := holding.held id request token found holds
  cases answer with
  | pending =>
      obtain rfl := step
      obtain ⟨key, connect, shares⟩ := request.suspend_same
      exact holding.keep rfl rfl found key (by rw [connect]) shares
  | failed proxy =>
      obtain ⟨pool, poolStep, rfl⟩ := step
      have inner := poolStep.inner_isSome (by simp)
      obtain rfl := poolStep
      exact holding.free found holds (Pool.State.dropConnecting_free present) inner
        (by rw [Request.settle_connect]; rfl)
  | connected negotiatedH2 =>
      simp only [ConnectorStep] at step
      split at step
      · next unforeseen =>
          obtain ⟨pool, poolStep, rfl⟩ := step
          have inner := poolStep.inner_isSome (by simp)
          obtain ⟨_, rfl⟩ := poolStep
          have tokens := Pool.State.alpnH2_free present
          rw [key] at tokens
          rcases connecting_cases state request.key .http2 with
            ⟨refused, same⟩ | ⟨granted, made, keyMade, pool, allocated⟩
          · rw [refused, if_neg Bool.false_ne_true]
            rw [same] at tokens
            exact holding.free found holds tokens inner (by rw [Request.settle_connect]; rfl)
          · rw [granted, if_pos rfl]
            rw [allocated] at tokens
            unfold State.Holding
            rw [State.update, tokens, inner]
            exact Client.Holding.exchange holding found holds rfl ⟨keyMade, pool⟩
      · next foreseen =>
          obtain rfl := step
          refine holding.keep rfl rfl found rfl ?_ ?_
          · rw [connecting]
            rfl
          · simp only [Request.shares, connecting]
            cases negotiatedH2 with
            | false => simp
            | true => simpa using foreseen

/-- A connect future whose handshake was polled keeps its `Connecting` or is over. -/
theorem State.Holding.handshake {state next : State K} {id : Nat} {closing : ChanId → Bool}
    {answer : Handshake} (holding : state.Holding)
    (step : Step state (.handshake id closing answer) next)
    : next.Holding := by
  obtain ⟨request, token, http2, found, _, handshaking, step⟩ := step
  have holds : request.connect.token? = some token := by rw [handshaking]; rfl
  obtain ⟨held, present, _⟩ := holding.held id request token found holds
  have spent (result : Except Error Nat) : (request.settle result).connect.token? = none := by
    rw [Request.settle_connect]
    rfl
  cases answer with
  | pending =>
      obtain rfl := step
      obtain ⟨key, connect, shares⟩ := request.suspend_same
      exact holding.keep rfl rfl found key (by rw [connect]) shares
  | failed =>
      obtain ⟨pool, poolStep, rfl⟩ := step
      have inner := poolStep.inner_isSome (by simp)
      obtain rfl := poolStep
      exact holding.free found holds (Pool.State.dropConnecting_free present) inner (spent _)
  | ready ready poisoned =>
      obtain ⟨pool, poolStep, rfl⟩ := step
      have inner := poolStep.inner_isSome (by simp)
      obtain ⟨_, rfl⟩ := poolStep
      exact holding.free found holds (Pool.State.pooled_free present closing http2 ready poisoned)
        inner (spent _)

/-- Each step keeps the connect futures and the `Connecting`s together. -/
theorem Step.holding {state next : State K} {event : Event K} (step : Step state event next)
    (holding : state.Holding)
    : next.Holding := by
  cases event with
  | call key http2 => exact holding.call step
  | pollCheckout id outcome =>
      obtain ⟨request, pool, found, _, poolStep, rfl⟩ := step
      obtain ⟨key, token, shares⟩ := request.checkedOut_same state.isVerH2
        state.pool.pooleds.size outcome
      have inner := poolStep.inner_isSome (by simp)
      obtain ⟨checkout, _, _, polled⟩ := poolStep
      have tokens := state.pool.poll_connectings id checkout
      rw [polled] at tokens
      exact holding.keep tokens inner found key token shares
  | connect id => exact holding.connect step
  | connector id answer => exact holding.connector step
  | handshake id closing answer => exact holding.handshake step
  | abandon id =>
      obtain ⟨request, found, _, rfl⟩ := step
      exact holding.keep rfl rfl found rfl rfl rfl
  | dropConnect id =>
      obtain ⟨request, token, pool, found, _, holds, poolStep, rfl⟩ := step
      obtain ⟨held, present, _⟩ := holding.held id request token found holds
      have inner := poolStep.inner_isSome (by simp)
      obtain rfl := poolStep
      exact holding.free found holds (Pool.State.dropConnecting_free present) inner rfl
  | beginDrop id =>
      obtain ⟨request, pool, _, _, poolStep, rfl⟩ := step
      have inner := poolStep.inner_isSome (by simp)
      obtain ⟨checkout, _, _, rfl⟩ := poolStep
      exact holding.around (state.pool.beginDrop_connectings id checkout) inner
  | closeReceiver id =>
      obtain ⟨pool, poolStep, rfl⟩ := step
      have inner := poolStep.inner_isSome (by simp)
      obtain ⟨checkout, rx, _, _, _, rfl⟩ := poolStep
      exact holding.around rfl inner
  | endDrop id =>
      obtain ⟨pool, poolStep, rfl⟩ := step
      have inner := poolStep.inner_isSome (by simp)
      obtain ⟨checkout, _, _, _, rfl⟩ := poolStep
      exact holding.around rfl inner
  | pool event =>
      obtain ⟨pool, outside, poolStep, rfl⟩ := step
      have inner : pool.inner.isSome = state.pool.inner.isSome :=
        poolStep.inner_isSome (by rintro rfl; cases outside)
      have tokens : pool.connectings = state.pool.connectings := by
        cases event with
        | dropPooled closing id =>
            obtain ⟨pooled, _, rfl⟩ := poolStep
            exact state.pool.dropPooled_connectings closing id pooled
        | clearExpired =>
            obtain ⟨inner, _, _, rfl⟩ := poolStep
            rfl
        | setReady value ready =>
            obtain ⟨conn, _, rfl⟩ := poolStep
            rfl
        | poison value =>
            obtain ⟨conn, _, rfl⟩ := poolStep
            rfl
        | tick elapsed =>
            obtain rfl := poolStep
            rfl
        | _ => cases outside
      exact holding.around tokens inner

/-- The drop of the pool leaves them together. -/
theorem State.Holding.dropPool {state : State K} (holding : state.Holding)
    : ({ state with pool := state.pool.dropPool } : State K).Holding := by
  unfold State.Holding
  simp only [Pool.State.dropPool_connectings, Pool.State.dropPool_inner]
  refine ⟨fun id request token found holds => ?_, holding.apart, holding.owned⟩
  obtain ⟨held, present, fits⟩ := holding.held id request token found holds
  exact ⟨held, present, fits.1, fun enabled => by cases enabled⟩

/-- A client calls `alpn_h2` with a `Connecting` without a lock, and `pooled` with the right one.
-/
theorem Step.disciplined {state next : State K} {event : Event K}
    {operation : Pool.Event K} (step : Step state event next) (holding : state.Holding)
    (locks : state.pool.Locks) (comes : state.operation event = some operation)
    : state.pool.Disciplined operation := by
  have pooled := step.operation
  rw [comes] at pooled
  -- Where the pool is disabled no `Connecting` has a lock.
  have plain {id token : Nat} {request : Request K} (found : state.requests.get? id = some request)
      (holds : request.connect.token? = some token) (alone : request.shares = false)
      (alive : state.pool.alive = true) (held : Connecting K)
      (present : state.pool.connectings.get? token = some held)
      : held.pool = false := by
    cases enabled : state.pool.inner with
    | none =>
        exact locks.disabled (by simp [Pool.State.locked, enabled]) alive token held present
    | some inner =>
        obtain ⟨same, there, fits⟩ := holding.held id request token found holds
        cases present.symm.trans there
        rw [fits.2 (by simp [enabled]), alone]
  cases event with
  | connector id answer =>
      obtain ⟨request, token, found, _, connecting, _⟩ := step
      have holds : request.connect.token? = some token := by rw [connecting]; rfl
      simp only [State.operation, found, holds, Option.bind_some] at comes
      cases answer with
      | pending => cases comes
      | failed proxy =>
          cases comes
          trivial
      | connected negotiatedH2 =>
          simp only at comes
          split at comes
          · next unforeseen =>
              cases comes
              rw [Bool.and_eq_true, decide_eq_true_eq] at unforeseen
              exact plain found holds (by simp [Request.shares, connecting, unforeseen.2]) pooled.1
          · cases comes
  | handshake id closing answer =>
      obtain ⟨request, token, http2, found, _, handshaking, _⟩ := step
      have holds : request.connect.token? = some token := by rw [handshaking]; rfl
      simp only [State.operation, found, handshaking, Option.bind_some] at comes
      cases answer with
      | pending => cases comes
      | failed =>
          cases comes
          trivial
      | ready ready poisoned =>
          cases comes
          intro held present enabled shared
          obtain ⟨same, there, fits⟩ := holding.held id request token found holds
          cases present.symm.trans there
          rw [fits.2 enabled]
          simpa only [Request.shares, handshaking] using shared
  | pool event =>
      obtain ⟨pool, outside, _, _⟩ := step
      cases comes
      cases operation with
      | pooled closing token http2 ready poisoned => cases outside
      | alpnH2 token => cases outside
      | _ => trivial
  | call key http2 =>
      simp only [State.operation] at comes
      split at comes
      · cases comes
        trivial
      · cases comes
  | connect id =>
      obtain ⟨request, _, rfl⟩ := Option.map_eq_some_iff.mp comes
      trivial
  | dropConnect id =>
      obtain ⟨token, _, rfl⟩ := Option.map_eq_some_iff.mp comes
      trivial
  | abandon id => cases comes
  | _ =>
      cases comes
      trivial

/-- What a happening comes to on the pool is disciplined. -/
theorem Happens.disciplined {state next : State K} {happening : Happening K}
    {operation : Pool.Event K} (happens : Happens state happening next) (holding : state.Holding)
    (locks : state.pool.Locks) (comes : state.operates happening = some operation)
    : state.pool.Disciplined operation ∧ Pool.Step state.pool operation next.pool := by
  cases happening with
  | event event =>
      have pooled := happens.2.operation
      rw [show state.operation event = some operation from comes] at pooled
      exact ⟨happens.2.disciplined holding locks comes, pooled⟩
  | dropPool =>
      obtain ⟨_, pool, step, rfl⟩ := happens
      cases comes
      exact ⟨trivial, step⟩

/-- Where no operation on the pool is called, the pool stays as it is. -/
theorem Happens.pool_same {state next : State K} {happening : Happening K}
    (happens : Happens state happening next) (quiet : state.operates happening = none)
    : next.pool = state.pool := by
  cases happening with
  | event event =>
      have pooled := happens.2.operation
      rw [show state.operation event = none from quiet] at pooled
      exact pooled
  | dropPool => cases quiet

/-- A happening keeps the locks in order, and the connect futures and the `Connecting`s together. -/
theorem Happens.locks {state next : State K} {happening : Happening K}
    (happens : Happens state happening next) (holding : state.Holding)
    (locks : state.pool.Locks)
    : next.Holding ∧ next.pool.Locks := by
  constructor
  · cases happening with
    | event event => exact happens.2.holding holding
    | dropPool =>
        obtain ⟨_, pool, ⟨_, _, rfl⟩, rfl⟩ := happens
        exact holding.dropPool
  · cases comes : state.operates happening with
    | none => exact happens.pool_same comes ▸ locks
    | some operation =>
        obtain ⟨disciplined, step⟩ := happens.disciplined holding locks comes
        exact step.locks disciplined locks

/-- So do a client that is new, and every run. -/
theorem run_locks {config : Pool.Config} {timerIsEmpty isVerH2 : Bool}
    {happenings : List (Happening K)} {state : State K}
    (run : Run Happens (State.new config timerIsEmpty isVerH2) happenings state)
    : state.Holding ∧ state.pool.Locks := by
  refine run.invariant (fun _ kept happens => happens.locks kept.1 kept.2) ⟨?_, ?_⟩
  · refine ⟨fun id request token found => ?_, fun id other request second token found => ?_,
      fun token held present => ?_⟩
    · cases found
    · cases found
    · unfold State.new Pool.State.new at present
      cases present
  · refine ⟨fun locked present => ?_, fun _ _ token held found => ?_, ?_⟩
    · simp only [State.new, Pool.State.new, Pool.State.locked] at present
      split at present
      · cases present
        exact Accounted.empty
      · cases present
    · cases found
    · exact fun call member => absurd member List.not_mem_nil

/-- In every run of a client, up to the drop of its pool and after it: as long as the pool exists,
the keys that are being connected are those of the live `Connecting`s that refer to the pool, each
of one; every `Connecting` that got the lock of a key has had it released once if it is gone, and
never before; each live `Connecting` is in a connect future; and all that `connected`, `alpn_h2` and
`pooled` asserted holds.
-/
theorem connecting_lock_disciplined {config : Pool.Config} {timerIsEmpty isVerH2 : Bool}
    {happenings : List (Happening K)} {state : State K}
    (run : Run Happens (State.new config timerIsEmpty isVerH2) happenings state)
    : (∀ inner, state.pool.inner = some inner
        → (∀ key, key ∈ inner.connecting
            ↔ ∃ token held, state.pool.connectings.get? token = some held ∧ held.pool = true
              ∧ held.key = key)
          ∧ (∀ token other first second, state.pool.connectings.get? token = some first
            → state.pool.connectings.get? other = some second → first.pool = true
            → second.pool = true → first.key = second.key → token = other)
          ∧ state.pool.ledger.granted.Nodup ∧ state.pool.ledger.released.Nodup
          ∧ (∀ token key, (token, key) ∈ state.pool.ledger.granted
            ↔ (token, key) ∈ state.pool.ledger.released
              ∨ ∃ held, state.pool.connectings.get? token = some held ∧ held.pool = true
                ∧ held.key = key)
          ∧ (∀ token key, (token, key) ∈ state.pool.ledger.released
            → state.pool.connectings.get? token = none))
      ∧ (∀ token held, state.pool.connectings.get? token = some held
        → ∃ id request, state.requests.get? id = some request
          ∧ request.connect.token? = some token)
      ∧ ∀ call ∈ state.pool.calls, call.holds = true := by
  obtain ⟨holding, locks⟩ := run_locks run
  refine ⟨fun inner present => ?_, holding.owned, locks.asserted⟩
  have accounted := locks.accounted inner.connecting (by simp [Pool.State.locked, present])
  refine ⟨accounted.exact, ?_, accounted.granted, accounted.released, accounted.balance,
    accounted.gone⟩
  intro token other first second found foundOther holds holdsToo same
  exact accounted.unique token other first.key ⟨first, found, holds, rfl⟩
    ⟨second, foundOther, holdsToo, same.symm⟩

-----------------------------------------------------------------------------------------
-- An upgrade
-----------------------------------------------------------------------------------------

/-- A request that leaves the version open, and whose connection turns out to be HTTP/2. -/
def upgrade : List (Happening Nat) :=
  [.event (.call 7 false), .event (.pollCheckout 0 .pending), .event (.connect 0)
  , .event (.connector 0 (.connected true))]

/-- The new `Connecting` has the lock. -/
def upgraded : State Nat where
  pool :=
    { inner :=
        some
          { (Pool.PoolInner.new Pool.sampleConfig true).pushWaiter 7 0 with
            connecting := insert 7 ∅ }
      chans := ⟨[some { key := 7 }]⟩
      connectings := ⟨[none, some { key := 7, pool := true }]⟩
      checkouts := ⟨[some { key := 7, waiter := some 0 }]⟩
      calls := [.asserted true, .granted 1 7] }
  isVerH2 := false
  requests :=
    ⟨[some { key := 7, ver := .auto, connect := .handshaking 1 true, stage := .connecting }]⟩

theorem upgrade_run : Run Happens sampleClient upgrade upgraded := by
  apply Run.cons
  · exact ⟨fun _ _ _ => rfl, _, ⟨rfl, rfl⟩, rfl⟩
  apply Run.cons
  · exact ⟨nofun, _, _, rfl, rfl, ⟨_, rfl, rfl, rfl⟩, rfl⟩
  apply Run.cons
  · exact ⟨nofun, _, _, rfl, rfl, rfl, ⟨rfl, rfl⟩, rfl⟩
  apply Run.cons
  · exact ⟨nofun, _, _, rfl, rfl, rfl, _, ⟨rfl, rfl⟩, rfl⟩
  exact .nil

/-- Its key is being connected, there is a `Connecting` with the lock, and what was asserted holds.
-/
theorem connecting_lock_disciplined_upgrade
    : (∃ token held, upgraded.pool.connectings.get? token = some held ∧ held.pool = true
          ∧ held.key = 7)
      ∧ ∀ call ∈ upgraded.pool.calls, call.holds = true := by
  obtain ⟨locks, _, asserted⟩ := connecting_lock_disciplined upgrade_run
  exact ⟨((locks _ rfl).1 7).mp (by decide), asserted⟩

end Tlsurl.Client
