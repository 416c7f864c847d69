import Tlsurl.Library.Run
import Tlsurl.Pool.Inner

/-! The pool with its handles, connections and channels, as a system that takes steps.
An operation under the lock is one step. What happens without it is a step of its own: a
connection changes, time passes, a receiver is dropped.
-/

namespace Tlsurl.Pool

open Library

variable {K : Type} [DecidableEq K]

/-- `Ver` -/
inductive Ver where
  | auto
  | http2
  deriving DecidableEq

/-- `Connecting`; `pool` tells whether it refers to the pool. -/
structure Connecting (K : Type) where
  key : K
  pool : Bool

/-- `Pooled`; `pool` tells whether it refers to the pool. -/
structure Pooled (K : Type) where
  value : ConnId
  isReused : Bool
  key : K
  pool : Bool

/-- `Checkout`; `dropping` marks one whose drop has begun. -/
structure Checkout (K : Type) where
  key : K
  waiter : Option ChanId := none
  dropping : Bool := false

/-- `pool::Error` -/
inductive Error where
  | poolDisabled
  | checkoutNoLongerWanted
  | checkedOutClosedValue
  deriving DecidableEq

/-- What polling a checkout yields. A connection comes with the time since which it was idle,
unless it was sent to the checkout.
-/
inductive Outcome where
  | pending
  | ok (value : ConnId) (idleSince : Option Time)
  | err (error : Error)
  deriving DecidableEq

/-- What a pool notes of the locks of keys: which `Connecting` gets one, for which
`PoolInner::connected` is called and whether the key existed, and what else is asserted.
-/
inductive Call (K : Type) where
  | granted (token : Nat) (key : K)
  | connected (token : Nat) (key : K) (existed : Bool)
  | asserted (holds : Bool)

/-- `inner` is absent in a disabled pool and after the last handle is dropped; `alive` tells
whether there still is a handle. `calls` is a log, oldest first, which nothing reads.
-/
structure State (K : Type) [DecidableEq K] where
  inner : Option (PoolInner K)
  alive : Bool := true
  conns : Table (Conn K) := .empty
  chans : Table (Chan K) := .empty
  connectings : Table (Connecting K) := .empty
  pooleds : Table (Pooled K) := .empty
  checkouts : Table (Checkout K) := .empty
  now : Time := 0
  calls : List (Call K) := []

namespace State

/-- `Pool::new` -/
def new (config : Config) (timerIsEmpty : Bool) : State K where
  inner := if config.isEnabled then some (.new config timerIsEmpty) else none

/-- Whether a connection is open. -/
def isOpen (state : State K) (value : ConnId) : Bool :=
  (state.conns.get? value).any Conn.isOpen

/-- `Poolable::can_share`; exactly such a connection makes a shared reservation. -/
def canShare (state : State K) (value : ConnId) : Bool :=
  (state.conns.get? value).any Conn.http2

/-- `PoolInner::put` on the pool, if there is one. -/
def put (state : State K) (closing : ChanId → Bool) (key : K) (value : ConnId) : State K :=
  match state.inner with
  | none => state
  | some inner =>
      match inner.put closing (state.canShare value) state.now state.chans key value with
      | (inner, chans) => { state with inner := some inner, chans }

/-- `PoolInner::connected` on the pool for a `Connecting`, if there is a pool. The key is asserted
to have existed.
-/
def connected (state : State K) (key : K) (token : Nat) : State K :=
  match state.inner with
  | none => state
  | some inner =>
      let existed := decide (key ∈ inner.connecting)
      match inner.connected state.chans key with
      | (inner, chans) =>
          { state with
            inner := some inner
            chans
            calls := state.calls ++ [.connected token key existed] }

/-- `Pool::connecting` -/
def connecting (state : State K) (key : K) (ver : Ver) : State K :=
  match ver, state.inner with
  | .http2, some inner =>
      if key ∈ inner.connecting then state
      else
        { state with
          inner := some { inner with connecting := insert key inner.connecting }
          connectings := state.connectings.alloc { key, pool := true }
          calls := state.calls ++ [.granted state.connectings.size key] }
  | _, _ => { state with connectings := state.connectings.alloc { key, pool := false } }

/-- `Drop for Connecting` -/
def dropConnecting (state : State K) (token : Nat) : State K :=
  match state.connectings.get? token with
  | none => state
  | some connecting =>
      let state := { state with connectings := state.connectings.free token }
      if connecting.pool then state.connected connecting.key token else state

/-- A token that is dropped is gone, and gives back the lock that it holds. -/
theorem dropConnecting_cases (state : State K) (token : Nat)
    : state.dropConnecting token = state
      ∨ ∃ held, state.connectings.get? token = some held
        ∧ (held.pool = true
            ∧ state.dropConnecting token
              = ({ state with connectings := state.connectings.free token }
                : State K).connected held.key token
          ∨ state.dropConnecting token
            = { state with connectings := state.connectings.free token }) := by
  unfold dropConnecting
  cases state.connectings.get? token with
  | none => exact .inl rfl
  | some held =>
      refine .inr ⟨held, rfl, ?_⟩
      by_cases locks : held.pool = true
      · exact .inl ⟨locks, if_pos locks⟩
      · exact .inr (if_neg locks)

/-- `Connecting::alpn_h2`, at whose end the old token is dropped; it is asserted to have no lock. -/
def alpnH2 (state : State K) (token : Nat) : State K :=
  match state.connectings.get? token with
  | none => state
  | some connecting =>
      let state := { state with calls := state.calls ++ [Call.asserted !connecting.pool] }
      (state.connecting connecting.key .http2).dropConnecting token

/-- `Pool::pooled` with a connection just made for the key of the token, whose drop ends the
call. In a disabled pool the token is asserted to have no lock.
-/
def pooled (state : State K) (closing : ChanId → Bool) (token : Nat)
    (http2 ready poisoned : Bool)
    : State K :=
  match state.connectings.get? token with
  | none => state
  | some connecting =>
      let key := connecting.key
      let value := state.conns.size
      let state :=
        { state with conns := state.conns.alloc { key, http2, ready, poisoned } }
      match state.inner with
      | none =>
          let state :=
            { state with
              pooleds := state.pooleds.alloc { value, isReused := false, key, pool := false }
              calls := state.calls ++ [Call.asserted !connecting.pool] }
          state.dropConnecting token
      | some _ =>
          if http2 then
            let state := (state.put closing key value).connected key token
            { state with
              connectings := state.connectings.free token
              pooleds := state.pooleds.alloc { value, isReused := false, key, pool := false } }
          else
            let state :=
              { state with
                pooleds := state.pooleds.alloc { value, isReused := false, key, pool := true } }
            state.dropConnecting token

/-- `Pool::reuse` for a checkout, which is done. -/
def reuse (state : State K) (id : Nat) (key : K) (value : ConnId) : State K :=
  { state with
    checkouts := state.checkouts.free id
    pooleds := state.pooleds.alloc
      { value, isReused := true, key, pool := !state.canShare value && state.inner.isSome } }

/-- `Pool::checkout` -/
def checkout (state : State K) (key : K) : State K :=
  { state with checkouts := state.checkouts.alloc { key } }

/-- A checkout that is ready without a connection. -/
def fail (state : State K) (id : Nat) (error : Error) : Outcome × State K :=
  (.err error, { state with checkouts := state.checkouts.free id })

/-- `Checkout::poll_waiter` with a receiver. A value that is received leaves the channel. -/
def pollWaiter (state : State K) (id : Nat) (key : K) (rx : ChanId) : Outcome × State K :=
  match state.chans.get? rx with
  | none => (.pending, state)
  | some chan =>
      match chan.value with
      | some value =>
          let received :=
            { state with
              chans := state.chans.set rx { chan with receiver := .closed, value := none } }
          if state.isOpen value then (.ok value none, received.reuse id key value)
          else received.fail id .checkedOutClosedValue
      | none => if chan.sender then (.pending, state) else state.fail id .checkoutNoLongerWanted

/-- `Checkout::checkout`, after which a checkout without a connection waits on a channel. -/
def pollIdle (state : State K) (id : Nat) (key : K) : Outcome × State K :=
  match state.inner with
  | none => state.fail id .poolDisabled
  | some inner =>
      match inner.takeIdle state.isOpen state.canShare state.now key with
      | (some entry, inner) =>
          (.ok entry.value (some entry.idleAt),
            { state with inner := some inner }.reuse id key entry.value)
      | (none, inner) =>
          let tx := state.chans.size
          (.pending,
            { state with
              inner := some (inner.pushWaiter key tx)
              chans := state.chans.alloc { key }
              checkouts := state.checkouts.set id { key, waiter := some tx } })

/-- `Future::poll` of a checkout -/
def poll (state : State K) (id : Nat) (checkout : Checkout K) : Outcome × State K :=
  match checkout.waiter with
  | some rx => state.pollWaiter id checkout.key rx
  | none => state.pollIdle id checkout.key

/-- The drop of a checkout begins: its receiver, if it has one, is about to close. -/
def beginDrop (state : State K) (id : Nat) (checkout : Checkout K) : State K :=
  match checkout.waiter with
  | none => { state with checkouts := state.checkouts.free id }
  | some rx =>
      { state with
        checkouts := state.checkouts.set id { checkout with dropping := true }
        chans := match state.chans.get? rx with
          | none => state.chans
          | some chan =>
              if chan.receiver = .alive then state.chans.set rx { chan with receiver := .dropping }
              else state.chans }

/-- The receiver of a checkout closes, and drops a value that was sent. -/
def closeReceiver (state : State K) (id : Nat) (checkout : Checkout K) (rx : ChanId) : State K :=
  { state with
    checkouts := state.checkouts.set id { checkout with waiter := none }
    chans := match state.chans.get? rx with
      | none => state.chans
      | some chan => state.chans.set rx { chan with receiver := .closed, value := none } }

/-- The end of `Drop for Checkout`, under the lock. -/
def endDrop (state : State K) (id : Nat) (checkout : Checkout K) : State K :=
  { state with
    checkouts := state.checkouts.free id
    inner := state.inner.map (fun inner => inner.cleanWaiters state.chans checkout.key) }

/-- `Drop for Pooled` -/
def dropPooled (state : State K) (closing : ChanId → Bool) (id : Nat) (pooled : Pooled K)
    : State K :=
  let rest := { state with pooleds := state.pooleds.free id }
  if !state.isOpen pooled.value then rest
  else if pooled.pool then rest.put closing pooled.key pooled.value
  else rest

/-- A handle that is dropped is gone, and may put its connection back. -/
theorem dropPooled_cases (state : State K) (closing : ChanId → Bool) (id : Nat)
    (pooled : Pooled K)
    : state.dropPooled closing id pooled = { state with pooleds := state.pooleds.free id }
      ∨ state.dropPooled closing id pooled
        = ({ state with pooleds := state.pooleds.free id }
          : State K).put closing pooled.key pooled.value := by
  unfold dropPooled
  by_cases isOpen : state.isOpen pooled.value = true
  · by_cases refers : pooled.pool = true
    · exact .inr (by simp [isOpen, refers])
    · exact .inl (by simp [refers])
  · exact .inl (by simp [isOpen])

/-- The last handle of the pool is dropped, and with it the idle connections and the senders.
-/
def dropPool (state : State K) : State K :=
  match state.inner with
  | none => { state with alive := false }
  | some inner =>
      { state with
        inner := none
        alive := false
        chans := inner.waiters.entries.foldl (fun chans byKey => dropSenders chans byKey.2)
          state.chans }

end State

/-- What can happen. `closing` tells which receivers, of those being dropped, close just before
the pool sends to them.
-/
inductive Event (K : Type) where
  | connecting (key : K) (ver : Ver)
  | alpnH2 (token : Nat)
  | dropConnecting (token : Nat)
  | pooled (closing : ChanId → Bool) (token : Nat) (http2 ready poisoned : Bool)
  | checkout (key : K)
  | poll (id : Nat) (outcome : Outcome)
  | beginDrop (id : Nat)
  | closeReceiver (id : Nat)
  | endDrop (id : Nat)
  | dropPooled (closing : ChanId → Bool) (id : Nat)
  | clearExpired
  | setReady (value : ConnId) (ready : Bool)
  | poison (value : ConnId)
  | tick (elapsed : Time)
  | dropPool

/-- One step. A call on the pool needs a handle; a checkout holds one, so the last one is
dropped only when there is no checkout left. The idle task runs once it was spawned. Becoming
ready or closed, and poison, are changes of a connection that the pool does not cause.
-/
def Step (state : State K) : Event K → State K → Prop
  | .connecting key ver, next => state.alive = true ∧ next = state.connecting key ver
  | .alpnH2 token, next => state.alive = true ∧ next = state.alpnH2 token
  | .dropConnecting token, next => next = state.dropConnecting token
  | .pooled closing token http2 ready poisoned, next =>
      state.alive = true ∧ next = state.pooled closing token http2 ready poisoned
  | .checkout key, next => state.alive = true ∧ next = state.checkout key
  | .poll id outcome, next =>
      ∃ checkout, state.checkouts.get? id = some checkout ∧ checkout.dropping = false
        ∧ state.poll id checkout = (outcome, next)
  | .beginDrop id, next =>
      ∃ checkout, state.checkouts.get? id = some checkout ∧ checkout.dropping = false
        ∧ next = state.beginDrop id checkout
  | .closeReceiver id, next =>
      ∃ checkout rx, state.checkouts.get? id = some checkout ∧ checkout.dropping = true
        ∧ checkout.waiter = some rx ∧ next = state.closeReceiver id checkout rx
  | .endDrop id, next =>
      ∃ checkout, state.checkouts.get? id = some checkout ∧ checkout.dropping = true
        ∧ checkout.waiter = none ∧ next = state.endDrop id checkout
  | .dropPooled closing id, next =>
      ∃ pooled, state.pooleds.get? id = some pooled ∧ next = state.dropPooled closing id pooled
  | .clearExpired, next =>
      ∃ inner, state.inner = some inner ∧ inner.idleIntervalRef = true
        ∧ next = { state with inner := some (inner.clearExpired state.isOpen state.now) }
  | .setReady value ready, next =>
      ∃ conn, state.conns.get? value = some conn
        ∧ next = { state with conns := state.conns.set value { conn with ready } }
  | .poison value, next =>
      ∃ conn, state.conns.get? value = some conn
        ∧ next = { state with conns := state.conns.set value { conn with poisoned := true } }
  | .tick elapsed, next => next = { state with now := state.now + elapsed }
  | .dropPool, next =>
      (∀ id, state.checkouts.get? id = none) ∧ state.alive = true ∧ next = state.dropPool

-----------------------------------------------------------------------------------------
-- A sample
-----------------------------------------------------------------------------------------

/-- One idle connection a host, for up to 90 time units. -/
def sampleConfig : Config :=
  { idleTimeout := some 90, maxIdlePerHost := 1, maxPoolSize := none }

/-- What leads to an idle connection of host 7. -/
def sampleEvents : List (Event Nat) :=
  [.connecting 7 .auto, .pooled (fun _ => false) 0 false true false,
    .dropPooled (fun _ => false) 0]

/-- The pool whose connection of host 7 has gone idle. -/
def sampleIdle : State Nat :=
  let opened := ((State.new sampleConfig true).connecting 7 .auto).pooled (fun _ => false) 0
    false true false
  opened.dropPooled (fun _ => false) 0 { value := 0, isReused := false, key := 7, pool := true }

theorem sampleIdle_run : Run Step (State.new sampleConfig true) sampleEvents sampleIdle :=
  .cons ⟨rfl, rfl⟩ (.cons ⟨rfl, rfl⟩ (.cons ⟨_, rfl, rfl⟩ .nil))

end Tlsurl.Pool
