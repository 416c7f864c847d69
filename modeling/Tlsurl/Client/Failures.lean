import Tlsurl.Client.Connect
import Tlsurl.Pool.Parties
import Tlsurl.Pool.Served

/-! A request fails on its own account.
While a request waits for its checkout and its own connect future, the checkout is served. It is
cut off only where another request's `Connecting` goes away unused.
-/

namespace Tlsurl.Client

open Library
open Pool (PoolInner Connecting Checkout ChanId Outcome)

variable {K : Type} [DecidableEq K]

-----------------------------------------------------------------------------------------
-- The property
-----------------------------------------------------------------------------------------

/-- The connect future waits for the connector or the handshake. -/
def Connect.inProgress (connect : Connect) : Bool := connect.token?.isSome

/-- Whether a request is in its `select`. -/
def Request.selects (request : Request K) : Bool :=
  match request.stage with
  | .selecting => true
  | .connecting => true
  | _ => false

/-- An open connection lies in the channel of the checkout of a request. -/
def State.Delivered (state : State K) (id : Nat) : Prop :=
  ∃ checkout rx chan value, state.pool.checkouts.get? id = some checkout
    ∧ checkout.waiter = some rx ∧ state.pool.chans.get? rx = some chan
    ∧ chan.value = some value ∧ state.pool.isOpen value = true

/-- A request that fails in a step has no connection coming: its own connect future is not in
progress and has not just succeeded, and no open connection was delivered to its checkout.
-/
def OwnFailure (state : State K) (event : Event K) (next : State K) : Prop :=
  ∀ id request after error, state.requests.get? id = some request → request.finished = false
    → next.requests.get? id = some after → after.stage = .done (.error error)
    → after.connect.inProgress = false ∧ ¬state.Delivered id
      ∧ ∀ closing ready poisoned, event ≠ .handshake id closing (.ready ready poisoned)

/-- Whether a request has a connection -/
def State.Succeeds (state : State K) (id : Nat) : Prop :=
  ∃ request handle, state.requests.get? id = some request ∧ request.stage = .done (.ok handle)

/-- What a request is owed in a step: it fails on its own account alone, and has a connection
once its connect future succeeds or it looks at a checkout with an open connection.
-/
structure Fair (state : State K) (event : Event K) (next : State K) : Prop where
  own : OwnFailure state event next
  connected
    : ∀ id request closing ready poisoned, state.requests.get? id = some request
      → request.finished = false → event = .handshake id closing (.ready ready poisoned)
      → next.Succeeds id
  delivered
    : ∀ id outcome, event = .pollCheckout id outcome → state.Delivered id → next.Succeeds id

/-- A request is in its `select` and waits in the queue of a key. -/
def State.Queued (state : State K) (id : Nat) (key : K) : Prop :=
  ∃ request checkout rx inner queue, state.requests.get? id = some request
    ∧ request.selects = true ∧ state.pool.checkouts.get? id = some checkout
    ∧ checkout.waiter = some rx ∧ state.pool.inner = some inner
    ∧ inner.waiters.lookup key = some queue ∧ rx ∈ queue

/-- If the `Connecting` of a request holds the lock of its key, no other request waits in the
queue that its drop clears.
-/
def State.GoesAlone (state : State K) (id : Nat) : Prop :=
  ∀ request token held, state.requests.get? id = some request
    → request.connect.token? = some token → state.pool.connectings.get? token = some held
    → held.pool = true → ∀ other, other ≠ id → ¬state.Queued other held.key

/-- No `Connecting` is dropped unused beside others that wait, and no connect future fails where
an open connection was delivered to the checkout.
-/
def State.permits (state : State K) : Event K → Prop
  | .connector id (.failed _) => state.GoesAlone id ∧ ¬state.Delivered id
  | .handshake id _ .failed => state.GoesAlone id ∧ ¬state.Delivered id
  | .dropConnect id => state.GoesAlone id
  | _ => True

-----------------------------------------------------------------------------------------
-- The invariant
-----------------------------------------------------------------------------------------

/-- Whether a connect future that holds the lock of its key will make an HTTP/2 connection -/
def Request.shares (request : Request K) : Bool :=
  match request.connect with
  | .connecting _ => request.ver = .http2
  | .handshaking _ http2 => http2
  | _ => true

/-- The `Connecting` of a request holds the lock of its key for HTTP/2 alone. -/
def Request.TokenSound (request : Request K) (tokens : Table (Connecting K)) : Prop :=
  ∀ token, request.connect.token? = some token → request.shares = false
    → token < tokens.size ∧ ∀ held, tokens.get? token = some held → held.pool = false

/-- What a request waits for is there: in the `select` its checkout is served. -/
def Waits (pool : Pool.State K) (id : Nat) (request : Request K) : Prop :=
  match request.stage with
  | .selecting =>
      ∃ checkout, pool.checkouts.get? id = some checkout ∧ checkout.dropping = false
        ∧ ∀ rx, checkout.waiter = some rx → pool.Served rx
  | .connecting =>
      ∃ checkout, pool.checkouts.get? id = some checkout ∧ checkout.dropping = false
        ∧ ∀ rx, checkout.waiter = some rx → pool.Served rx
  | .awaitingConnect => pool.checkouts.get? id = none
  | .awaitingCheckout => request.connect = .spent
  | _ => True

/-- What the pool keeps on its own -/
structure PoolSound (pool : Pool.State K) : Prop where
  keyed : pool.Keyed
  balanced : pool.Holds PoolInner.Balanced
  unshared : pool.Unshared

/-- The invariant. A checkout has the number of its request, and without a pool there is none.
-/
structure State.Sound (state : State K) : Prop where
  pool : PoolSound state.pool
  numbered : state.pool.inner.isSome = true → state.pool.checkouts.size = state.requests.size
  without : state.pool.inner.isSome = false → state.pool.checkouts.size = 0
  tokens
    : ∀ id request, state.requests.get? id = some request
      → request.TokenSound state.pool.connectings
  waits
    : ∀ id request, state.requests.get? id = some request → Waits state.pool id request

theorem PoolSound.step {pool next : Pool.State K} {event : Pool.Event K} (sound : PoolSound pool)
    (step : Pool.Step pool event next)
    : PoolSound next where
  keyed := step.keyed sound.keyed
  balanced := Pool.balanced_stable.step step sound.balanced
  unshared := step.unshared sound.keyed sound.unshared

/-- A request in its `select` waits for a served checkout. -/
theorem Waits.selects {pool : Pool.State K} {id : Nat} {request : Request K}
    (waits : Waits pool id request) (selects : request.selects = true)
    : ∃ checkout, pool.checkouts.get? id = some checkout ∧ checkout.dropping = false
        ∧ ∀ rx, checkout.waiter = some rx → pool.Served rx := by
  cases stage : request.stage with
  | selecting => simpa only [Waits, stage] using waits
  | connecting => simpa only [Waits, stage] using waits
  | _ => simp [Request.selects, stage] at selects

omit [DecidableEq K] in
/-- A `Connecting` stays sound through the steps of the pool. -/
theorem Request.TokenSound.kept {request : Request K} {before after : Table (Connecting K)}
    (sound : request.TokenSound before) (kept : Pool.TokensKept before after)
    : request.TokenSound after := by
  intro token holds alone
  obtain ⟨old, free⟩ := sound token holds alone
  exact ⟨old.trans_le kept.size, fun held found => free held (kept.kept token held old found)⟩

omit [DecidableEq K] in
/-- A request without a `Connecting` is sound. -/
theorem Request.tokenSound_of_none {request : Request K} {tokens : Table (Connecting K)}
    (none : request.connect.token? = none)
    : request.TokenSound tokens := by
  intro token holds
  rw [none] at holds
  cases holds

-----------------------------------------------------------------------------------------
-- Other requests
-----------------------------------------------------------------------------------------

section Others

variable {state : State K} {pool : Pool.State K} {event : Pool.Event K}

/-- Whether an event of the pool leaves the channel of a request in its `select` alone. -/
def State.SparesOne (state : State K) (id : Nat) (event : Pool.Event K) : Prop :=
  ∀ request checkout rx, state.requests.get? id = some request → request.selects = true
    → state.pool.checkouts.get? id = some checkout → checkout.waiter = some rx
    → state.pool.spares rx event

/-- Whether an event of the pool leaves the other requests alone. -/
def State.Spares (state : State K) (id : Nat) (event : Pool.Event K) : Prop :=
  ∀ other, other ≠ id → state.SparesOne other event

/-- What a request waits for stays there. -/
theorem State.Sound.waits_kept (sound : state.Sound) (step : Pool.Step state.pool event pool)
    {id : Nat} {request : Request K} (found : state.requests.get? id = some request)
    (absent : state.pool.checkouts.get? id = none → pool.checkouts.get? id = none)
    (about : event.checkout? ≠ some id) (spares : state.SparesOne id event)
    : Waits pool id request := by
  have waits := sound.waits id request found
  have served (selects : request.selects = true)
      : ∃ checkout, pool.checkouts.get? id = some checkout ∧ checkout.dropping = false
          ∧ ∀ rx, checkout.waiter = some rx → pool.Served rx := by
    obtain ⟨checkout, present, undropped, served⟩ := waits.selects selects
    refine ⟨checkout, ?_, undropped, fun rx waiter => ?_⟩
    · rw [step.checkout_kept about (Table.lt_size present), present]
    · exact step.served sound.pool.keyed sound.pool.balanced (served rx waiter)
        (spares request checkout rx found selects present waiter)
  unfold Waits at waits ⊢
  cases stage : request.stage with
  | selecting => exact served (by simp [Request.selects, stage])
  | connecting => exact served (by simp [Request.selects, stage])
  | awaitingConnect =>
      simp only [stage] at waits
      exact absent waits
  | awaitingCheckout => simpa only [stage] using waits
  | _ => trivial

/-- A step of the pool about the checkout of one request leaves the other channels alone. -/
theorem State.Sound.spares_of_checkout (sound : state.Sound) {id : Nat}
    (about
      : (∃ outcome, event = .poll id outcome) ∨ event = .beginDrop id ∨ event = .closeReceiver id)
    : state.Spares id event := by
  intro other different request checkout rx _ _ present waiter
  have apart (own : Checkout K) (here : state.pool.checkouts.get? id = some own)
      : own.waiter ≠ some rx :=
    fun same => different (sound.pool.unshared other id checkout own rx present here waiter same)
  rcases about with ⟨outcome, rfl⟩ | rfl | rfl
  · exact apart
  · exact apart
  · exact apart

/-- A `Connecting` that goes alone leaves the channels of the others alone. -/
theorem State.GoesAlone.spares {id token : Nat} {request : Request K} (alone : state.GoesAlone id)
    (found : state.requests.get? id = some request) (holds : request.connect.token? = some token)
    : state.Spares id (.dropConnecting token) := by
  intro other different waiting checkout rx foundOther selects present waiter held inner queue
    foundToken locks presentInner waits member
  exact alone request token held found holds foundToken locks other different
    ⟨waiting, checkout, rx, inner, queue, foundOther, selects, present, waiter, presentInner,
      waits, member⟩

/-- Where there is a checkout there is a pool. -/
theorem State.Sound.inner_of_checkout (sound : state.Sound) {id : Nat} {checkout : Checkout K}
    (present : state.pool.checkouts.get? id = some checkout)
    : state.pool.inner.isSome = true := by
  by_contra without
  have lt := Table.lt_size present
  rw [sound.without (by simpa using without)] at lt
  exact Nat.not_lt_zero id lt

/-- A step of the pool and a change of one request keep the invariant. -/
theorem State.Sound.advance (sound : state.Sound) (step : Pool.Step state.pool event pool)
    (unmade : ∀ key, event ≠ .checkout key) (lasting : event ≠ .dropPool) {id : Nat}
    {request after : Request K} (found : state.requests.get? id = some request)
    (about : ∀ other, event.checkout? = some other → other = id) (spares : state.Spares id event)
    (token : after.TokenSound pool.connectings) (waits : Waits pool id after)
    : (state.update pool id after).Sound where
  pool := sound.pool.step step
  numbered present := by
    rw [State.update, step.checkouts_size unmade, Table.size_set]
    exact sound.numbered ((step.inner_isSome lasting).symm.trans present)
  without absent := by
    rw [State.update, step.checkouts_size unmade]
    exact sound.without ((step.inner_isSome lasting).symm.trans absent)
  tokens other stored foundOther := by
    rcases Table.get?_set_cases found foundOther with ⟨-, rfl⟩ | ⟨-, before⟩
    · exact token
    · exact (sound.tokens other stored before).kept step.tokens
  waits other stored foundOther := by
    rcases Table.get?_set_cases found foundOther with ⟨rfl, rfl⟩ | ⟨different, before⟩
    · exact waits
    · exact sound.waits_kept step before (step.checkout_none unmade)
        (fun same => different (about other same)) (spares other different)

/-- A change of one request alone keeps the invariant. -/
theorem State.Sound.turn (sound : state.Sound) {id : Nat} {request after : Request K}
    (found : state.requests.get? id = some request)
    (token : after.TokenSound state.pool.connectings) (waits : Waits state.pool id after)
    : (state.update state.pool id after).Sound where
  pool := sound.pool
  numbered present := by
    rw [State.update, Table.size_set]
    exact sound.numbered present
  without := sound.without
  tokens other stored foundOther := by
    rcases Table.get?_set_cases found foundOther with ⟨-, rfl⟩ | ⟨-, before⟩
    · exact token
    · exact sound.tokens other stored before
  waits other stored foundOther := by
    rcases Table.get?_set_cases found foundOther with ⟨rfl, rfl⟩ | ⟨-, before⟩
    · exact waits
    · exact sound.waits other stored before

/-- A step of the pool alone keeps the invariant. -/
theorem State.Sound.around (sound : state.Sound) (step : Pool.Step state.pool event pool)
    (unmade : ∀ key, event ≠ .checkout key) (lasting : event ≠ .dropPool) (id : Nat)
    (about : ∀ other, event.checkout? = some other → other = id) (spares : state.Spares id event)
    (here : ∀ request, state.requests.get? id = some request → Waits pool id request)
    : ({ state with pool } : State K).Sound where
  pool := sound.pool.step step
  numbered present := by
    rw [step.checkouts_size unmade]
    exact sound.numbered ((step.inner_isSome lasting).symm.trans present)
  without absent := by
    rw [step.checkouts_size unmade]
    exact sound.without ((step.inner_isSome lasting).symm.trans absent)
  tokens other stored foundOther := (sound.tokens other stored foundOther).kept step.tokens
  waits other stored foundOther := by
    by_cases same : other = id
    · subst same
      exact here stored foundOther
    · exact sound.waits_kept step foundOther (step.checkout_none unmade)
        (fun again => same (about other again)) (spares other same)

end Others

-----------------------------------------------------------------------------------------
-- Polling a checkout
-----------------------------------------------------------------------------------------

section Polling

variable {pool next : Pool.State K} {id : Nat} {checkout : Checkout K} {error : Pool.Error}

/-- A served checkout fails only with a connection that has closed. -/
theorem poll_err (present : pool.inner.isSome = true)
    (served : ∀ rx, checkout.waiter = some rx → pool.Served rx)
    (polled : pool.poll id checkout = (.err error, next))
    : isCanceled error = true := by
  unfold Pool.State.poll at polled
  split at polled
  · next rx waiter =>
      obtain ⟨inner, _, chan, found, _, serves⟩ := served rx waiter
      simp only [Pool.State.pollWaiter, found] at polled
      split at polled
      · split at polled
        · cases polled
        · cases polled
          rfl
      · next empty =>
          rcases serves with full | ⟨sender, _⟩
          · simp [empty] at full
          · simp [sender] at polled
  · obtain ⟨inner, there⟩ := Option.isSome_iff_exists.mp present
    simp only [Pool.State.pollIdle, there] at polled
    split at polled
    · cases polled
    · cases polled

/-- A checkout that is pending is served. -/
theorem poll_pending (found : pool.checkouts.get? id = some checkout)
    (undropped : checkout.dropping = false)
    (served : ∀ rx, checkout.waiter = some rx → pool.Served rx)
    (polled : pool.poll id checkout = (.pending, next))
    : ∃ later, next.checkouts.get? id = some later ∧ later.dropping = false
        ∧ ∀ rx, later.waiter = some rx → next.Served rx := by
  unfold Pool.State.poll at polled
  split at polled
  · next rx waiter =>
      have same : next = pool := by
        unfold Pool.State.pollWaiter at polled
        repeat' split at polled
        all_goals cases polled
        · rfl
        · rfl
      subst same
      exact ⟨checkout, found, undropped, served⟩
  · unfold Pool.State.pollIdle at polled
    split at polled
    · cases polled
    · split at polled
      · cases polled
      · next inner _ rest _ =>
          cases polled
          refine ⟨{ key := checkout.key, waiter := some pool.chans.size }, ?_, rfl,
            fun rx waiter => ?_⟩
          · rw [Table.get?_set_self found]
          · cases waiter
            exact ⟨_, rfl, Pool.PoolInner.serves_new rest pool.chans checkout.key⟩

/-- A checkout that fails is over. -/
theorem poll_err_gone (polled : pool.poll id checkout = (.err error, next))
    : next.checkouts.get? id = none := by
  have freed (pool : Pool.State K) : (pool.checkouts.free id).get? id = none := by
    rw [Table.get?_free, if_pos rfl]
  unfold Pool.State.poll Pool.State.pollWaiter Pool.State.pollIdle at polled
  repeat' split at polled
  all_goals cases polled
  all_goals exact freed pool

/-- A checkout that fails has no open connection in its channel. -/
theorem poll_err_undelivered (polled : pool.poll id checkout = (.err error, next))
    {rx : ChanId} {chan : Pool.Chan K} {value : Pool.ConnId} (waiter : checkout.waiter = some rx)
    (found : pool.chans.get? rx = some chan) (carried : chan.value = some value)
    : pool.isOpen value = false := by
  simp only [Pool.State.poll, waiter, Pool.State.pollWaiter, found, carried] at polled
  split at polled
  · cases polled
  · next closed => simpa using closed

end Polling

-----------------------------------------------------------------------------------------
-- Steps
-----------------------------------------------------------------------------------------

variable {state next : State K} {event : Event K}

/-- A request waits for nothing once it is over. -/
theorem waits_of_finished {pool : Pool.State K} {id : Nat} {request : Request K}
    (finished : request.finished = true)
    : Waits pool id request := by
  unfold Waits
  cases stage : request.stage with
  | done result => trivial
  | abandoned => trivial
  | _ => simp [Request.finished, stage] at finished

omit [DecidableEq K] in
/-- A connect future that stays, or is done, keeps its `Connecting` sound. -/
theorem Request.TokenSound.of_connect {request after : Request K} {tokens : Table (Connecting K)}
    (sound : request.TokenSound tokens)
    (same
      : (after.connect = request.connect ∧ after.ver = request.ver) ∨ after.connect = .spent)
    : after.TokenSound tokens := by
  rcases same with ⟨connect, ver⟩ | spent
  · intro token holds
    have shares : after.shares = request.shares := by simp only [Request.shares, connect, ver]
    rw [shares]
    exact sound token (by rw [← connect]; exact holds)
  · exact Request.tokenSound_of_none (by rw [spent]; rfl)

omit [DecidableEq K] in
/-- Polling the checkout leaves the connect future, or drops it. -/
theorem Request.checkedOut_connect (request : Request K) (isVerH2 : Bool) (handle : Nat)
    (outcome : Outcome)
    : ((request.checkedOut isVerH2 handle outcome).connect = request.connect
        ∧ (request.checkedOut isVerH2 handle outcome).ver = request.ver)
      ∨ (request.checkedOut isVerH2 handle outcome).connect = .spent := by
  unfold Request.checkedOut
  split
  · exact .inl ⟨rfl, rfl⟩
  · by_cases started : request.connect.started = true
    · exact .inl ⟨if_pos started, rfl⟩
    · exact .inr (if_neg started)
  · split
    · exact .inl ⟨rfl, rfl⟩
    · exact .inl ⟨rfl, rfl⟩
  · exact .inl ⟨rfl, rfl⟩
  · split
    · exact .inl ⟨rfl, rfl⟩
    · exact .inl ⟨rfl, rfl⟩
  · exact .inl ⟨rfl, rfl⟩

omit [DecidableEq K] in
/-- A settled connect future is spent, for the key that it had. -/
theorem Request.settle_spends (request : Request K) (result : Except Error Nat)
    : (request.settle result).connect = .spent ∧ (request.settle result).key = request.key := by
  unfold Request.settle
  split
  · exact ⟨rfl, rfl⟩
  · split
    · exact ⟨rfl, rfl⟩
    · exact ⟨rfl, rfl⟩
  · exact ⟨rfl, rfl⟩
  · exact ⟨rfl, rfl⟩
  · exact ⟨rfl, rfl⟩

omit [DecidableEq K] in
@[simp] theorem Request.settle_connect (request : Request K) (result : Except Error Nat)
    : (request.settle result).connect = .spent :=
  (request.settle_spends result).1

/-- A settled request is over, or left with its checkout. -/
theorem Request.waits_settle {pool : Pool.State K} {id : Nat} {request : Request K}
    (connects : request.connects = true) (result : Except Error Nat)
    : Waits pool id (request.settle result) := by
  unfold Request.settle
  cases stage : request.stage with
  | connecting =>
      cases result with
      | ok handle => exact waits_of_finished rfl
      | error error =>
          simp only
          split
          · rfl
          · exact waits_of_finished rfl
  | awaitingConnect =>
      cases result with
      | ok handle => exact waits_of_finished rfl
      | error error => exact waits_of_finished rfl
  | done result => exact waits_of_finished (by simp [Request.finished])
  | _ => simp [Request.connects, stage] at connects

/-- A suspended request waits for what it has waited for. -/
theorem Waits.suspend {pool : Pool.State K} {id : Nat} {request : Request K}
    (waits : Waits pool id request)
    : Waits pool id request.suspend := by
  unfold Request.suspend
  cases stage : request.stage with
  | connecting => simpa only [Waits, stage] using waits
  | _ => exact waits

/-- What a request with a connect future waits for does not depend on the future. -/
theorem Waits.withConnect {pool : Pool.State K} {id : Nat} {request : Request K}
    (waits : Waits pool id request) (connects : request.connects = true) (connect : Connect)
    : Waits pool id { request with connect } := by
  unfold Waits at waits ⊢
  cases stage : request.stage with
  | awaitingCheckout => simp [Request.connects, stage] at connects
  | done result => trivial
  | abandoned => trivial
  | _ => simpa only [stage] using waits

/-- A request whose checkout was polled has what it waits for. -/
theorem State.Sound.pollCheckout (sound : state.Sound) {id : Nat} {outcome : Outcome}
    (step : Step state (.pollCheckout id outcome) next)
    : next.Sound := by
  obtain ⟨request, pool, found, polls, poolStep, rfl⟩ := step
  have waits := sound.waits id request found
  have token := (sound.tokens id request found).kept poolStep.tokens
  refine sound.advance poolStep (by simp) (by simp) found (by simp [Pool.Event.checkout?])
    (sound.spares_of_checkout (.inl ⟨outcome, rfl⟩))
    (token.of_connect (request.checkedOut_connect _ _ outcome)) ?_
  obtain ⟨checkout, present, undropped, polled⟩ := poolStep
  unfold Request.checkedOut
  cases stage : request.stage with
  | selecting =>
      obtain ⟨own, here, _, served⟩ := waits.selects (by simp [Request.selects, stage])
      rw [present] at here
      cases here
      cases outcome with
      | pending => exact poll_pending present undropped served polled
      | ok value idleSince => exact waits_of_finished rfl
      | err error =>
          have there := sound.inner_of_checkout present
          simp only [poll_err there served polled, ↓reduceIte]
          exact poll_err_gone polled
  | awaitingCheckout =>
      have spent : request.connect = .spent := by simpa only [Waits, stage] using waits
      cases outcome with
      | pending => simpa only [Waits, stage] using spent
      | ok value idleSince => exact waits_of_finished rfl
      | err error =>
          simp only
          split
          · exact waits_of_finished rfl
          · exact waits_of_finished rfl
  | _ => simp [stage] at polls

/-- A `Connecting` that is given out locks its key for HTTP/2 alone. -/
theorem State.connecting_granted (state : State K) {key : K} {ver : Pool.Ver}
    (grants : state.grants key ver = true)
    : ∃ pool, (state.pool.connecting key ver).connectings
        = state.pool.connectings.alloc { key, pool } ∧ (ver ≠ .http2 → pool = false) := by
  unfold State.grants at grants
  unfold Pool.State.connecting
  split
  · next inner present =>
      simp only [present, decide_eq_true_eq] at grants
      rw [if_neg grants]
      exact ⟨true, rfl, fun other => absurd rfl other⟩
  · exact ⟨false, rfl, fun _ => rfl⟩

/-- A connect future that fails keeps the invariant if it goes alone. -/
theorem State.Sound.fail (sound : state.Sound) {id token : Nat} {request : Request K}
    {pool : Pool.State K} (found : state.requests.get? id = some request)
    (connects : request.connects = true) (holds : request.connect.token? = some token)
    (alone : state.GoesAlone id) (step : Pool.Step state.pool (.dropConnecting token) pool)
    (error : Error)
    : (state.update pool id (request.settle (.error error))).Sound :=
  sound.advance step (by simp) (by simp) found (by simp [Pool.Event.checkout?])
    (alone.spares found holds) (Request.tokenSound_of_none (by simp [Connect.token?]))
    (Request.waits_settle connects (.error error))

theorem State.Sound.suspend (sound : state.Sound) {id : Nat} {request : Request K}
    (found : state.requests.get? id = some request)
    : (state.update state.pool id request.suspend).Sound := by
  refine sound.turn found ((sound.tokens id request found).of_connect ?_)
    (sound.waits id request found).suspend
  unfold Request.suspend
  split
  · exact .inl ⟨rfl, rfl⟩
  · exact .inl ⟨rfl, rfl⟩

theorem State.Sound.connect (sound : state.Sound) {id : Nat}
    (step : Step state (.connect id) next)
    : next.Sound := by
  obtain ⟨request, pool, found, connects, _, poolStep, rfl⟩ := step
  have spares (other : Nat) : state.SparesOne other (.connecting request.key request.ver) :=
    fun _ _ _ _ _ _ _ => trivial
  have waits := sound.waits_kept poolStep found (poolStep.checkout_none (by simp))
    (by simp [Pool.Event.checkout?]) (spares id)
  refine sound.advance poolStep (by simp) (by simp) found (by simp [Pool.Event.checkout?])
    (fun other _ => spares other) ?_ ?_
  · split
    · next grants =>
        obtain ⟨_, rfl⟩ := poolStep
        obtain ⟨locks, made, alone⟩ := state.connecting_granted grants
        intro token holds unshared
        cases holds
        rw [made]
        refine ⟨by simp, fun held there => ?_⟩
        rw [Table.get?_alloc, if_pos rfl] at there
        cases there
        exact alone (by simpa [Request.shares] using unshared)
    · exact Request.tokenSound_of_none (by simp [Connect.token?])
  · split
    · exact waits.withConnect connects _
    · exact Request.waits_settle connects _

theorem State.Sound.connector (sound : state.Sound) {id : Nat} {answer : Connector}
    (step : Step state (.connector id answer) next)
    (permitted : state.permits (.connector id answer))
    : next.Sound := by
  obtain ⟨request, token, found, connects, connecting, step⟩ := step
  have holds : request.connect.token? = some token := by rw [connecting]; rfl
  have tokens := sound.tokens id request found token holds
  cases answer with
  | pending =>
      obtain rfl := step
      exact sound.suspend found
  | failed proxy =>
      obtain ⟨pool, poolStep, rfl⟩ := step
      exact sound.fail found connects holds permitted.1 poolStep _
  | connected negotiatedH2 =>
      simp only [ConnectorStep] at step
      split at step
      · next unforeseen =>
          obtain ⟨pool, poolStep, rfl⟩ := step
          have auto : request.ver ≠ .http2 := by simp at unforeseen; exact unforeseen.2
          have spares (other : Nat) : state.SparesOne other (.alpnH2 token) :=
            fun _ _ _ _ _ _ _ => (tokens (by simp [Request.shares, connecting, auto])).2
          have waits := sound.waits_kept poolStep found (poolStep.checkout_none (by simp))
            (by simp [Pool.Event.checkout?]) (spares id)
          refine sound.advance poolStep (by simp) (by simp) found
            (by simp [Pool.Event.checkout?]) (fun other _ => spares other) ?_ ?_
          · split
            · intro token _ unshared
              cases unshared
            · exact Request.tokenSound_of_none (by simp [Connect.token?])
          · split
            · exact waits.withConnect connects _
            · exact Request.waits_settle connects _
      · obtain rfl := step
        refine sound.turn found ?_ ((sound.waits id request found).withConnect connects _)
        intro other same unshared
        cases same
        refine tokens ?_
        simp only [Request.shares, Bool.or_eq_false_iff] at unshared
        simpa only [Request.shares, connecting] using unshared.1

theorem State.Sound.handshake (sound : state.Sound) {id : Nat} {closing : ChanId → Bool}
    {answer : Handshake} (step : Step state (.handshake id closing answer) next)
    (permitted : state.permits (.handshake id closing answer))
    : next.Sound := by
  obtain ⟨request, token, http2, found, connects, handshaking, step⟩ := step
  have holds : request.connect.token? = some token := by rw [handshaking]; rfl
  have tokens := sound.tokens id request found token holds
  cases answer with
  | pending =>
      obtain rfl := step
      exact sound.suspend found
  | failed =>
      obtain ⟨pool, poolStep, rfl⟩ := step
      exact sound.fail found connects holds permitted.1 poolStep _
  | ready ready poisoned =>
      obtain ⟨pool, poolStep, rfl⟩ := step
      refine sound.advance poolStep (by simp) (by simp) found (by simp [Pool.Event.checkout?])
        (fun other _ _ _ _ _ _ _ _ held there locks => ?_)
        (Request.tokenSound_of_none (by simp [Connect.token?]))
        (Request.waits_settle connects _)
      by_contra unshared
      have free := (tokens (by simpa [Request.shares, handshaking] using unshared)).2 held there
      rw [free] at locks
      cases locks

/-- A request whose checkout is being dropped waits for nothing of the pool. -/
theorem Waits.of_dropping {pool after : Pool.State K} {id : Nat} {request : Request K}
    {checkout : Checkout K} (waits : Waits pool id request)
    (present : pool.checkouts.get? id = some checkout) (dropping : checkout.dropping = true)
    : Waits after id request := by
  have undropped (selects : request.selects = true) : False := by
    obtain ⟨own, here, undropped, _⟩ := waits.selects selects
    rw [present] at here
    cases here
    rw [dropping] at undropped
    cases undropped
  unfold Waits at waits ⊢
  cases stage : request.stage with
  | selecting => exact (undropped (by simp [Request.selects, stage])).elim
  | connecting => exact (undropped (by simp [Request.selects, stage])).elim
  | awaitingConnect =>
      simp only [stage] at waits
      rw [present] at waits
      cases waits
  | awaitingCheckout => simpa only [stage] using waits
  | _ => trivial

/-- A new request has a new checkout of its number, or no pool. -/
theorem State.Sound.call (sound : state.Sound) {key : K} {http2 : Bool}
    (step : Step state (.call key http2) next)
    : next.Sound := by
  obtain ⟨pool, step, rfl⟩ := step
  have fresh (stage : Stage) (tokens : Table (Connecting K))
      : Request.TokenSound { key, ver := state.ver http2, stage } tokens :=
    Request.tokenSound_of_none rfl
  by_cases there : state.pool.inner.isSome = true
  · rw [if_pos there] at step
    have poolStep := step
    obtain ⟨_, rfl⟩ := step
    have numbered := sound.numbered there
    refine ⟨sound.pool.step poolStep, fun _ => ?_, fun without => ?_, fun id request found => ?_,
      fun id request found => ?_⟩
    · simp [State.call, Pool.State.checkout, numbered]
    · exact absurd there (by simpa [State.call, Pool.State.checkout] using without)
    · simp only [State.call, there, if_true, Table.get?_alloc] at found
      split at found
      · cases found
        exact fresh _ _
      · exact sound.tokens id request found
    · simp only [State.call, there, if_true, Table.get?_alloc] at found
      split at found
      · next new =>
          cases found
          refine ⟨{ key }, ?_, rfl, fun rx waiter => by cases waiter⟩
          simp [State.call, Pool.State.checkout, Table.get?_alloc, new, numbered]
      · have old : id < state.pool.checkouts.size := numbered ▸ Table.lt_size found
        have same : (state.pool.checkout key).checkouts.get? id = state.pool.checkouts.get? id :=
          poolStep.checkout_kept (by simp [Pool.Event.checkout?]) old
        exact sound.waits_kept poolStep found (fun absent => same.trans absent)
          (by simp [Pool.Event.checkout?]) (fun _ _ _ _ _ _ _ => trivial)
  · rw [if_neg there] at step
    subst step
    refine ⟨sound.pool, fun present => absurd present there, sound.without,
      fun id request found => ?_, fun id request found => ?_⟩
    · simp only [State.call, there, Table.get?_alloc] at found
      split at found
      · cases found
        exact fresh _ _
      · exact sound.tokens id request found
    · simp only [State.call, there, Table.get?_alloc] at found
      split at found
      · cases found
        cases absent : state.pool.checkouts.get? id with
        | none => exact absent
        | some checkout =>
            have lt := Table.lt_size absent
            rw [sound.without (by simpa using there)] at lt
            exact absurd lt (Nat.not_lt_zero id)
      · exact sound.waits id request found

/-- A permitted step keeps the invariant. -/
theorem Step.sound (step : Step state event next) (sound : state.Sound)
    (permitted : state.permits event)
    : next.Sound := by
  cases event with
  | call key http2 => exact sound.call step
  | pollCheckout id outcome => exact sound.pollCheckout step
  | connect id => exact sound.connect step
  | connector id answer => exact sound.connector step permitted
  | handshake id closing answer => exact sound.handshake step permitted
  | abandon id =>
      obtain ⟨request, found, _, rfl⟩ := step
      exact sound.turn found ((sound.tokens id request found).of_connect (.inl ⟨rfl, rfl⟩))
        (waits_of_finished rfl)
  | dropConnect id =>
      obtain ⟨request, token, pool, found, finished, holds, poolStep, rfl⟩ := step
      refine sound.advance poolStep (by simp) (by simp) found (by simp [Pool.Event.checkout?])
        (permitted.spares found holds) (Request.tokenSound_of_none rfl) (waits_of_finished ?_)
      cases stage : request.stage with
      | done result => rfl
      | abandoned => rfl
      | _ => simp [stage] at finished
  | beginDrop id =>
      obtain ⟨request, pool, found, finished, poolStep, rfl⟩ := step
      refine sound.around poolStep (by simp) (by simp) id (by simp [Pool.Event.checkout?])
        (sound.spares_of_checkout (.inr (.inl rfl))) (fun other foundOther => ?_)
      rw [found] at foundOther
      cases foundOther
      exact waits_of_finished finished
  | closeReceiver id =>
      obtain ⟨pool, poolStep, rfl⟩ := step
      refine sound.around poolStep (by simp) (by simp) id (by simp [Pool.Event.checkout?])
        (sound.spares_of_checkout (.inr (.inr rfl))) (fun request found => ?_)
      obtain ⟨checkout, rx, present, dropping, _, _⟩ := poolStep
      exact (sound.waits id request found).of_dropping present dropping
  | endDrop id =>
      obtain ⟨pool, poolStep, rfl⟩ := step
      refine sound.around poolStep (by simp) (by simp) id (by simp [Pool.Event.checkout?])
        (fun _ _ _ _ _ _ _ _ _ => trivial) (fun request found => ?_)
      obtain ⟨checkout, present, dropping, _, _⟩ := poolStep
      exact (sound.waits id request found).of_dropping present dropping
  | pool event =>
      obtain ⟨pool, others, poolStep, rfl⟩ := step
      have spares (other : Nat) : state.SparesOne other event := by
        intro _ _ rx _ _ _ _
        cases event <;> trivial
      have away : event.checkout? = none := by
        cases event <;> first | rfl | cases others
      have unmade : ∀ key, event ≠ .checkout key := by
        rintro key rfl
        cases others
      have lasting : event ≠ .dropPool := by
        rintro rfl
        cases others
      refine sound.around poolStep unmade lasting 0 (by simp [away])
        (fun other _ => spares other) (fun request found => ?_)
      exact sound.waits_kept poolStep found (poolStep.checkout_none unmade) (by simp [away])
        (spares 0)

-----------------------------------------------------------------------------------------
-- Who fails
-----------------------------------------------------------------------------------------

/-- A request that does not change does not fail. -/
theorem ownFailure_of_kept
    (kept
      : ∀ id request after, state.requests.get? id = some request
        → next.requests.get? id = some after → after = request)
    : OwnFailure state event next := by
  intro id request after error found running foundAfter failed
  rw [kept id request after found foundAfter] at failed
  simp [Request.finished, failed] at running

/-- Only the request that changes can fail. -/
theorem ownFailure_of_update {id : Nat} {request changed : Request K} {pool : Pool.State K}
    (found : state.requests.get? id = some request)
    (fair
      : ∀ error, request.finished = false → changed.stage = .done (.error error)
        → changed.connect.inProgress = false ∧ ¬state.Delivered id
          ∧ ∀ closing ready poisoned, event ≠ .handshake id closing (.ready ready poisoned))
    : OwnFailure state event (state.update pool id changed) := by
  intro other stored after error foundOther running foundAfter failed
  rcases Table.get?_set_cases found foundAfter with ⟨rfl, rfl⟩ | ⟨-, before⟩
  · cases found.symm.trans foundOther
    exact fair error running failed
  · cases foundOther.symm.trans before
    simp [Request.finished, failed] at running

omit [DecidableEq K] in
/-- Suspending a request does not make it fail. -/
theorem Request.suspend_stage {request : Request K} (running : request.finished = false)
    (error : ClientConnectError)
    : request.suspend.stage ≠ .done (.error error) := by
  intro failed
  unfold Request.suspend at failed
  split at failed
  · cases failed
  · simp [Request.finished, failed] at running

omit [DecidableEq K] in
/-- A request whose connect future was cancelled fails only without a checkout. -/
theorem Request.settle_canceled {request : Request K} {error : Error}
    {failure : ClientConnectError} (canceled : error.isCanceled = true)
    (connects : request.connects = true) (running : request.finished = false)
    (failed : (request.settle (.error error)).stage = .done (.error failure))
    : request.stage = .awaitingConnect := by
  cases stage : request.stage with
  | awaitingConnect => rfl
  | connecting => simp [Request.settle, stage, canceled] at failed
  | done result => simp [Request.finished, stage] at running
  | _ => simp [Request.connects, stage] at connects

/-- A request without a checkout gets no connection from it. -/
theorem State.Sound.undelivered (sound : state.Sound) {id : Nat} {request : Request K}
    (found : state.requests.get? id = some request) (stage : request.stage = .awaitingConnect)
    : ¬state.Delivered id := by
  rintro ⟨checkout, _, _, _, present, _⟩
  have waits := sound.waits id request found
  simp only [Waits, stage] at waits
  rw [waits] at present
  cases present

/-- A cancelled connect future makes no request fail that has a checkout. -/
theorem State.Sound.ownFailure_canceled (sound : state.Sound) {id : Nat} {request : Request K}
    {pool : Pool.State K} {error : Error} (found : state.requests.get? id = some request)
    (connects : request.connects = true) (canceled : error.isCanceled = true)
    (other : ∀ closing ready poisoned, event ≠ .handshake id closing (.ready ready poisoned))
    : OwnFailure state event (state.update pool id (request.settle (.error error))) := by
  refine ownFailure_of_update found (fun failure running failed => ⟨?_, ?_, other⟩)
  · simp [Connect.inProgress, Connect.token?]
  · exact sound.undelivered found (Request.settle_canceled canceled connects running failed)

/-- Polling a checkout makes no request fail that has another way to a connection. -/
theorem State.Sound.ownFailure_pollCheckout (sound : state.Sound) {id : Nat} {outcome : Outcome}
    (step : Step state (.pollCheckout id outcome) next)
    : OwnFailure state (.pollCheckout id outcome) next := by
  obtain ⟨request, pool, found, polls, ⟨checkout, present, undropped, polled⟩, rfl⟩ := step
  have waits := sound.waits id request found
  refine ownFailure_of_update found (fun failure running failed => ?_)
  cases stage : request.stage with
  | selecting =>
      obtain ⟨own, here, _, served⟩ := waits.selects (by simp [Request.selects, stage])
      rw [present] at here
      cases here
      cases outcome with
      | pending => simp [Request.checkedOut, stage] at failed
      | ok value idleSince => simp [Request.checkedOut, stage] at failed
      | err error =>
          have there := sound.inner_of_checkout present
          simp [Request.checkedOut, stage, poll_err there served polled] at failed
  | awaitingCheckout =>
      have spent : request.connect = .spent := by simpa only [Waits, stage] using waits
      cases outcome with
      | pending => simp [Request.checkedOut, stage] at failed
      | ok value idleSince => simp [Request.checkedOut, stage] at failed
      | err error =>
          refine ⟨?_, ?_, by simp⟩
          · rcases request.checkedOut_connect state.isVerH2 state.pool.pooleds.size
              (.err error) with ⟨same, _⟩ | same
            · simp [same, spent, Connect.inProgress, Connect.token?]
            · simp [same, Connect.inProgress, Connect.token?]
          · rintro ⟨own, rx, chan, value, here, waiter, carries, carried, opened⟩
            rw [present] at here
            cases here
            rw [poll_err_undelivered polled waiter carries carried] at opened
            cases opened
  | _ => simp [stage] at polls

/-- In a permitted step a request fails on its own account alone. -/
theorem Step.ownFailure (step : Step state event next) (sound : state.Sound)
    (permitted : state.permits event)
    : OwnFailure state event next := by
  have idle {id : Nat} {request changed : Request K} {pool : Pool.State K}
      (found : state.requests.get? id = some request) (same : changed.stage = request.stage)
      : OwnFailure state event (state.update pool id changed) :=
    ownFailure_of_update found (fun error running failed => by
      rw [same] at failed
      simp [Request.finished, failed] at running)
  have alike {pool : Pool.State K} : OwnFailure state event { state with pool } :=
    ownFailure_of_kept (fun id request after found foundAfter => by
      rw [found] at foundAfter
      cases foundAfter
      rfl)
  cases event with
  | call key http2 =>
      obtain ⟨pool, _, rfl⟩ := step
      refine ownFailure_of_kept (fun id request after found foundAfter => ?_)
      simp only [State.call, Table.get?_alloc, Nat.ne_of_lt (Table.lt_size found), if_false,
        found] at foundAfter
      cases foundAfter
      rfl
  | pollCheckout id outcome => exact sound.ownFailure_pollCheckout step
  | connect id =>
      obtain ⟨request, pool, found, connects, _, _, rfl⟩ := step
      split
      · exact idle found rfl
      · exact sound.ownFailure_canceled found connects rfl (by simp)
  | connector id answer =>
      obtain ⟨request, token, found, connects, _, step⟩ := step
      cases answer with
      | pending =>
          obtain rfl := step
          exact ownFailure_of_update found (fun error running failed =>
            (Request.suspend_stage running error failed).elim)
      | failed proxy =>
          obtain ⟨pool, _, rfl⟩ := step
          exact ownFailure_of_update found (fun error _ _ =>
            ⟨by simp [Connect.inProgress, Connect.token?], permitted.2, by simp⟩)
      | connected negotiatedH2 =>
          simp only [ConnectorStep] at step
          split at step
          · obtain ⟨pool, _, rfl⟩ := step
            split
            · exact idle found rfl
            · exact sound.ownFailure_canceled found connects rfl (by simp)
          · obtain rfl := step
            exact idle found rfl
  | handshake id closing answer =>
      obtain ⟨request, token, http2, found, connects, _, step⟩ := step
      cases answer with
      | pending =>
          obtain rfl := step
          exact ownFailure_of_update found (fun error running failed =>
            (Request.suspend_stage running error failed).elim)
      | failed =>
          obtain ⟨pool, _, rfl⟩ := step
          exact ownFailure_of_update found (fun error _ _ =>
            ⟨by simp [Connect.inProgress, Connect.token?], permitted.2, by simp⟩)
      | ready ready poisoned =>
          obtain ⟨pool, _, rfl⟩ := step
          refine ownFailure_of_update found (fun error running failed => ?_)
          unfold Request.settle at failed
          cases stage : request.stage with
          | done result => simp [Request.finished, stage] at running
          | abandoned => simp [Request.finished, stage] at running
          | _ => simp [stage] at failed
  | abandon id =>
      obtain ⟨request, found, _, rfl⟩ := step
      exact ownFailure_of_update found (fun error _ failed => by cases failed)
  | dropConnect id =>
      obtain ⟨request, token, pool, found, _, _, _, rfl⟩ := step
      exact idle found rfl
  | beginDrop id =>
      obtain ⟨request, pool, _, _, _, rfl⟩ := step
      exact alike
  | closeReceiver id =>
      obtain ⟨pool, _, rfl⟩ := step
      exact alike
  | endDrop id =>
      obtain ⟨pool, _, rfl⟩ := step
      exact alike
  | pool event =>
      obtain ⟨pool, _, _, rfl⟩ := step
      exact alike

/-- A connect future that succeeds gives the request its connection. -/
theorem Step.connected (step : Step state event next) {id : Nat} {request : Request K}
    {closing : ChanId → Bool} {ready poisoned : Bool}
    (found : state.requests.get? id = some request) (running : request.finished = false)
    (succeeds : event = .handshake id closing (.ready ready poisoned))
    : next.Succeeds id := by
  subst succeeds
  obtain ⟨stored, token, http2, foundHere, connects, _, pool, _, rfl⟩ := step
  rw [found] at foundHere
  cases foundHere
  refine ⟨request.settle (.ok state.pool.pooleds.size), state.pool.pooleds.size, ?_, ?_⟩
  · rw [State.update, Table.get?_set_self found]
  · cases stage : request.stage with
    | connecting => simp [Request.settle, stage]
    | awaitingConnect => simp [Request.settle, stage]
    | done result => simp [Request.finished, stage] at running
    | _ => simp [Request.connects, stage] at connects

/-- A checkout with an open connection gives it to the request. -/
theorem Step.delivered (step : Step state event next) {id : Nat} {outcome : Outcome}
    (polled : event = .pollCheckout id outcome) (delivered : state.Delivered id)
    : next.Succeeds id := by
  subst polled
  obtain ⟨request, pool, found, polls, ⟨checkout, present, _, polled⟩, rfl⟩ := step
  obtain ⟨own, rx, chan, value, here, waiter, carries, carried, opened⟩ := delivered
  rw [present] at here
  cases here
  simp only [Pool.State.poll, waiter, Pool.State.pollWaiter, carries, carried, opened,
    if_true] at polled
  cases polled
  refine ⟨request.checkedOut state.isVerH2 state.pool.pooleds.size (.ok value none),
    state.pool.pooleds.size, ?_, ?_⟩
  · rw [State.update, Table.get?_set_self found]
  · cases stage : request.stage with
    | selecting => simp [Request.checkedOut, stage]
    | awaitingCheckout => simp [Request.checkedOut, stage]
    | _ => simp [stage] at polls

/-- A permitted step gives every request what it is owed. -/
theorem Step.fair (step : Step state event next) (sound : state.Sound)
    (permitted : state.permits event)
    : Fair state event next where
  own := step.ownFailure sound permitted
  connected _ _ _ _ _ found running succeeds := step.connected found running succeeds
  delivered _ _ polled delivered := step.delivered polled delivered

-----------------------------------------------------------------------------------------
-- Runs
-----------------------------------------------------------------------------------------

/-- A new client has nothing to keep. -/
theorem State.sound_new (config : Pool.Config) (timerIsEmpty isVerH2 : Bool)
    : (State.new config timerIsEmpty isVerH2 : State K).Sound where
  pool :=
    { keyed := Pool.run_keyed .nil
      balanced := Pool.balanced_stable.run .nil
        (fun enabled => PoolInner.balanced_new enabled timerIsEmpty)
      unshared := fun _ _ _ _ _ found => by cases found }
  numbered _ := rfl
  without _ := rfl
  tokens _ _ found := by cases found
  waits _ _ found := by cases found

/-- A step that gives every request what it is owed. -/
def FairStep (state : State K) (event : Event K) (next : State K) : Prop :=
  Step state event next ∧ Fair state event next

/-- Every request gets a connection that its own connect future or its checkout has for it, in
every run in which no `Connecting` that holds the lock of its key is dropped unused beside
others that wait, and no connect future fails beside a delivered connection.
-/
theorem failure_is_own {config : Pool.Config} {timerIsEmpty isVerH2 : Bool}
    {events : List (Event K)} {state : State K}
    (run : Run (Guarded State.permits Step) (State.new config timerIsEmpty isVerH2) events state)
    : Run FairStep (State.new config timerIsEmpty isVerH2) events state := by
  have both : state.Sound ∧ Run FairStep (State.new config timerIsEmpty isVerH2) events state := by
    apply run.history
    · rintro past before event after ⟨sound, fair⟩ ⟨permitted, step⟩
      exact ⟨step.sound sound permitted, fair.snoc ⟨step, step.fair sound permitted⟩⟩
    · exact ⟨State.sound_new config timerIsEmpty isVerH2, .nil⟩
  exact both.2

-----------------------------------------------------------------------------------------
-- Two requests for one key
-----------------------------------------------------------------------------------------

/-- A client that leaves the version open. -/
def sampleClient : State Nat := .new Pool.sampleConfig true false

/-- Two requests whose checkouts wait and whose connectors run; the second is being polled. -/
def pairing : State Nat where
  pool :=
    { inner := some (((PoolInner.new Pool.sampleConfig true).pushWaiter 7 0).pushWaiter 7 1)
      chans := ⟨[some { key := 7 }, some { key := 7 }]⟩
      connectings := ⟨[some { key := 7, pool := false }, some { key := 7, pool := false }]⟩
      checkouts := ⟨[some { key := 7, waiter := some 0 }, some { key := 7, waiter := some 1 }]⟩ }
  isVerH2 := false
  requests :=
    ⟨[some { key := 7, ver := .auto, connect := .connecting 0, stage := .selecting }
    , some { key := 7, ver := .auto, connect := .connecting 1, stage := .connecting }]⟩

def pairingEvents : List (Event Nat) :=
  [.call 7 false, .call 7 false, .pollCheckout 0 .pending, .connect 0, .connector 0 .pending
  , .pollCheckout 1 .pending, .connect 1]

theorem pairing_run : Run Step sampleClient pairingEvents pairing := by
  apply Run.cons
  · exact ⟨_, ⟨rfl, rfl⟩, rfl⟩
  apply Run.cons
  · exact ⟨_, ⟨rfl, rfl⟩, rfl⟩
  apply Run.cons
  · exact ⟨_, _, rfl, rfl, ⟨_, rfl, rfl, rfl⟩, rfl⟩
  apply Run.cons
  · exact ⟨_, _, rfl, rfl, rfl, ⟨rfl, rfl⟩, rfl⟩
  apply Run.cons
  · exact ⟨_, _, rfl, rfl, rfl, rfl⟩
  apply Run.cons
  · exact ⟨_, _, rfl, rfl, ⟨_, rfl, rfl, rfl⟩, rfl⟩
  apply Run.cons
  · exact ⟨_, _, rfl, rfl, rfl, ⟨rfl, rfl⟩, rfl⟩
  exact .nil

/-- The second request shakes hands over a connection of its own. -/
def shaking : State Nat :=
  { pairing with
    requests :=
      ⟨[some { key := 7, ver := .auto, connect := .connecting 0, stage := .selecting }
      , some { key := 7, ver := .auto, connect := .handshaking 1 false, stage := .connecting }]⟩ }

theorem shaking_step : Step pairing (.connector 1 (.connected false)) shaking :=
  ⟨_, _, rfl, rfl, rfl, rfl⟩

/-- Its handshake has failed, while the first request waits on. -/
def failing : State Nat :=
  { shaking with
    pool :=
      { shaking.pool with connectings := ⟨[some { key := 7, pool := false }, none]⟩ }
    requests :=
      ⟨[some { key := 7, ver := .auto, connect := .connecting 0, stage := .selecting }
      , some
          { key := 7, ver := .auto, connect := .spent
            stage := .done (.error (.normal (.new .sendRequest false))) }]⟩ }

theorem failing_step : Step shaking (.handshake 1 (fun _ => false) .failed) failing :=
  ⟨_, _, _, rfl, rfl, rfl, _, rfl, rfl⟩

/-- The `Connecting` of the failed handshake has no lock, and nothing was delivered. -/
theorem failing_permitted : shaking.permits (.handshake 1 (fun _ => false) .failed) := by
  constructor
  · intro request token held found holds present locks
    cases found
    cases holds
    cases present
    cases locks
  · rintro ⟨checkout, rx, chan, value, present, waiter, carries, carried, _⟩
    cases present
    cases waiter
    cases carries
    cases carried

/-- The first request has its own connection. -/
def served : State Nat :=
  { failing with
    pool :=
      { failing.pool with
        conns := ⟨[some { key := 7, http2 := false, ready := true, poisoned := false }]⟩
        connectings := ⟨[none, none]⟩
        pooleds := ⟨[some { value := 0, isReused := false, key := 7, pool := true }]⟩ }
    requests :=
      ⟨[some { key := 7, ver := .auto, connect := .spent, stage := .done (.ok 0) }
      , some
          { key := 7, ver := .auto, connect := .spent
            stage := .done (.error (.normal (.new .sendRequest false))) }]⟩ }

def servingEvents : List (Event Nat) :=
  [.pollCheckout 0 .pending, .connector 0 (.connected false)
  , .handshake 0 (fun _ => false) (.ready true false)]

theorem serving_run : Run Step failing servingEvents served := by
  apply Run.cons
  · exact ⟨_, _, rfl, rfl, ⟨_, rfl, rfl, rfl⟩, rfl⟩
  apply Run.cons
  · exact ⟨_, _, rfl, rfl, rfl, rfl⟩
  apply Run.cons
  · exact ⟨_, _, _, rfl, rfl, rfl, _, ⟨rfl, rfl⟩, rfl⟩
  exact .nil

/-- The second request fails on its own account while the first one waits, which is then served. -/
theorem failure_is_own_beside
    : Run FairStep sampleClient
        (((pairingEvents ++ [.connector 1 (.connected false)])
          ++ [.handshake 1 (fun _ => false) .failed]) ++ servingEvents) served
      ∧ served.Succeeds 0 := by
  have waiting : Run (Guarded State.permits Step) sampleClient
      (pairingEvents ++ [.connector 1 (.connected false)]) shaking :=
    (pairing_run.snoc shaking_step).guarded (by simp [pairingEvents, State.permits])
  have failed : Run (Guarded State.permits Step) sampleClient
      ((pairingEvents ++ [.connector 1 (.connected false)])
        ++ [.handshake 1 (fun _ => false) .failed]) failing :=
    waiting.snoc ⟨failing_permitted, failing_step⟩
  have rest : Run (Guarded State.permits Step) failing servingEvents served :=
    serving_run.guarded (by simp [servingEvents, State.permits])
  exact ⟨failure_is_own (failed.append rest), _, 0, rfl, rfl⟩

/-- The connection of the second request has turned out to be HTTP/2. -/
def upgrading : State Nat :=
  { pairing with
    pool :=
      { pairing.pool with
        inner :=
          pairing.pool.inner.map (fun inner =>
            { inner with connecting := insert 7 inner.connecting })
        connectings := ⟨[some { key := 7, pool := false }, none, some { key := 7, pool := true }]⟩
        calls := [.asserted true, .granted 2 7] }
    requests :=
      ⟨[some { key := 7, ver := .auto, connect := .connecting 0, stage := .selecting }
      , some { key := 7, ver := .auto, connect := .handshaking 2 true, stage := .connecting }]⟩ }

theorem upgrading_step : Step pairing (.connector 1 (.connected true)) upgrading :=
  ⟨_, _, rfl, rfl, rfl, _, ⟨rfl, rfl⟩, rfl⟩

/-- Its handshake has failed, which has cleared the queue that the first request waits in. -/
def cleared : State Nat :=
  { upgrading with
    pool := upgrading.pool.dropConnecting 2
    requests :=
      ⟨[some { key := 7, ver := .auto, connect := .connecting 0, stage := .selecting }
      , some
          { key := 7, ver := .auto, connect := .spent
            stage := .done (.error (.normal (.new .sendRequest false))) }]⟩ }

theorem cleared_step : Step upgrading (.handshake 1 (fun _ => false) .failed) cleared :=
  ⟨_, _, _, rfl, rfl, rfl, _, rfl, rfl⟩

/-- The first request then fails, though its own connect future is in progress. -/
theorem failure_inherited
    : ∃ events state event next, Run Step sampleClient events state ∧ Step state event next
        ∧ ¬Fair state event next := by
  have run := (pairing_run.snoc upgrading_step).snoc cleared_step
  have step : Step cleared (.pollCheckout 0 (.err .checkoutNoLongerWanted)) _ :=
    ⟨_, _, rfl, rfl, ⟨_, rfl, rfl, rfl⟩, rfl⟩
  refine ⟨_, cleared, _, _, run, step, fun fair => ?_⟩
  have idle := (fair.own 0 _ _ _ rfl rfl rfl rfl).1
  cases idle

end Tlsurl.Client
