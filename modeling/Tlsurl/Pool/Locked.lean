import Tlsurl.Pool.Operations
import Tlsurl.Pool.System

/-! Invariants of the state behind the lock.
A property that each operation under the lock keeps is kept by every step, whatever happens
around the lock.
-/

namespace Tlsurl.Pool

open Library

variable {K : Type} [DecidableEq K]

/-- A property that each operation under the lock keeps. A checkout that finds no connection
parks itself before it gives the lock back.
-/
structure Stable (kept : PoolInner K → Prop) : Prop where
  put
    : ∀ inner closing shared now chans key value,
      kept inner → kept (inner.put closing shared now chans key value).1
  connected : ∀ inner chans key, kept inner → kept (inner.connected chans key).1
  connecting
    : ∀ inner key, kept inner → kept { inner with connecting := insert key inner.connecting }
  found
    : ∀ inner isOpen shared now key entry rest, kept inner
      → inner.takeIdle isOpen shared now key = (some entry, rest) → kept rest
  parked
    : ∀ inner isOpen shared now key rest tx, kept inner
      → inner.takeIdle isOpen shared now key = (none, rest) → kept (rest.pushWaiter key tx)
  cleanWaiters : ∀ inner chans key, kept inner → kept (inner.cleanWaiters chans key)
  clearExpired : ∀ inner isOpen now, kept inner → kept (inner.clearExpired isOpen now)

namespace State

/-- The pool's inner state, if there is one, has the property. -/
def Holds (kept : PoolInner K → Prop) (state : State K) : Prop :=
  ∀ inner, state.inner = some inner → kept inner

variable {kept : PoolInner K → Prop} {state : State K}

theorem Holds.put (holds : state.Holds kept) (stable : Stable kept) (closing : ChanId → Bool)
    (key : K) (value : ConnId)
    : (state.put closing key value).Holds kept := by
  intro inner after
  unfold State.put at after
  split at after
  · exact holds inner after
  · next before present =>
      cases after
      exact stable.put before closing _ _ _ key value (holds before present)

theorem Holds.connected (holds : state.Holds kept) (stable : Stable kept) (key : K) (token : Nat)
    : (state.connected key token).Holds kept := by
  intro inner after
  unfold State.connected at after
  split at after
  · exact holds inner after
  · next before present =>
      cases after
      exact stable.connected before state.chans key (holds before present)

theorem Holds.dropConnecting (holds : state.Holds kept) (stable : Stable kept) (token : Nat)
    : (state.dropConnecting token).Holds kept := by
  have rest : State.Holds kept { state with connectings := state.connectings.free token } := holds
  rcases state.dropConnecting_cases token with same | ⟨held, _, ⟨_, same⟩ | same⟩
  · rwa [same]
  · rw [same]
    exact rest.connected stable held.key token
  · rwa [same]

theorem Holds.connecting (holds : state.Holds kept) (stable : Stable kept) (key : K) (ver : Ver)
    : (state.connecting key ver).Holds kept := by
  unfold State.connecting
  split
  · next before present =>
      split
      · exact holds
      · intro inner after
        cases after
        exact stable.connecting before key (holds before present)
  · exact holds

theorem Holds.alpnH2 (holds : state.Holds kept) (stable : Stable kept) (token : Nat)
    : (state.alpnH2 token).Holds kept := by
  have noted (calls : List (Call K)) : State.Holds kept { state with calls } := holds
  unfold State.alpnH2
  split
  · exact holds
  · next connecting _ =>
      exact ((noted _).connecting stable connecting.key .http2).dropConnecting stable token

theorem Holds.pooled (holds : state.Holds kept) (stable : Stable kept) (closing : ChanId → Bool)
    (token : Nat) (http2 ready poisoned : Bool)
    : (state.pooled closing token http2 ready poisoned).Holds kept := by
  unfold State.pooled
  split
  · exact holds
  · next connecting _ =>
      have opened (conns : Table (Conn K)) (pooleds : Table (Pooled K)) (calls : List (Call K))
          : State.Holds kept { state with conns, pooleds, calls } := holds
      simp only
      split
      · exact (opened _ _ _).dropConnecting stable token
      · split
        · let conn : Conn K := { key := connecting.key, http2, ready, poisoned }
          have added := (opened (state.conns.alloc conn) state.pooleds state.calls).put stable
            closing connecting.key state.conns.size
          exact added.connected stable connecting.key token
        · exact (opened _ _ _).dropConnecting stable token

theorem Holds.pollWaiter (holds : state.Holds kept) (id : Nat) (key : K) (rx : ChanId)
    : (state.pollWaiter id key rx).2.Holds kept := by
  unfold State.pollWaiter State.fail
  split
  · exact holds
  · split
    · split <;> exact holds
    · split <;> exact holds

theorem Holds.pollIdle (holds : state.Holds kept) (stable : Stable kept) (id : Nat) (key : K)
    : (state.pollIdle id key).2.Holds kept := by
  unfold State.pollIdle
  split
  · exact holds
  · next before present =>
      split
      · next entry rest taken =>
          intro inner after
          cases after
          exact stable.found before _ _ _ key entry _ (holds before present) taken
      · next rest taken =>
          intro inner after
          cases after
          exact stable.parked before _ _ _ key _ _ (holds before present) taken

theorem Holds.poll (holds : state.Holds kept) (stable : Stable kept) (id : Nat)
    (checkout : Checkout K)
    : (state.poll id checkout).2.Holds kept := by
  unfold State.poll
  split
  · exact holds.pollWaiter id checkout.key _
  · exact holds.pollIdle stable id checkout.key

theorem Holds.beginDrop (holds : state.Holds kept) (id : Nat) (checkout : Checkout K)
    : (state.beginDrop id checkout).Holds kept := by
  unfold State.beginDrop
  split <;> exact holds

theorem Holds.endDrop (holds : state.Holds kept) (stable : Stable kept) (id : Nat)
    (checkout : Checkout K)
    : (state.endDrop id checkout).Holds kept := by
  intro inner after
  obtain ⟨before, present, rfl⟩ := Option.map_eq_some_iff.mp after
  exact stable.cleanWaiters before state.chans checkout.key (holds before present)

theorem Holds.dropPooled (holds : state.Holds kept) (stable : Stable kept)
    (closing : ChanId → Bool) (id : Nat) (pooled : Pooled K)
    : (state.dropPooled closing id pooled).Holds kept := by
  have rest : State.Holds kept { state with pooleds := state.pooleds.free id } := holds
  rcases state.dropPooled_cases closing id pooled with same | same
  · rwa [same]
  · rw [same]
    exact rest.put stable closing pooled.key pooled.value

theorem Holds.dropPool (holds : state.Holds kept) : state.dropPool.Holds kept := by
  unfold State.dropPool
  split
  · exact holds
  · intro inner after
    cases after

end State

/-- Each step keeps what each operation under the lock keeps. -/
theorem Stable.step {kept : PoolInner K → Prop} (stable : Stable kept) {state next : State K}
    {event : Event K} (step : Step state event next) (holds : state.Holds kept)
    : next.Holds kept := by
  cases event with
  | connecting key ver =>
      obtain ⟨_, rfl⟩ := step
      exact holds.connecting stable key ver
  | alpnH2 token =>
      obtain ⟨_, rfl⟩ := step
      exact holds.alpnH2 stable token
  | dropConnecting token =>
      obtain rfl := step
      exact holds.dropConnecting stable token
  | pooled closing token http2 ready poisoned =>
      obtain ⟨_, rfl⟩ := step
      exact holds.pooled stable closing token http2 ready poisoned
  | checkout key =>
      obtain ⟨_, rfl⟩ := step
      exact holds
  | poll id outcome =>
      obtain ⟨checkout, _, _, polled⟩ := step
      have after := holds.poll stable id checkout
      rwa [polled] at after
  | beginDrop id =>
      obtain ⟨checkout, _, _, rfl⟩ := step
      exact holds.beginDrop id checkout
  | closeReceiver id =>
      obtain ⟨checkout, rx, _, _, _, rfl⟩ := step
      exact holds
  | endDrop id =>
      obtain ⟨checkout, _, _, _, rfl⟩ := step
      exact holds.endDrop stable id checkout
  | dropPooled closing id =>
      obtain ⟨pooled, _, rfl⟩ := step
      exact holds.dropPooled stable closing id pooled
  | clearExpired =>
      obtain ⟨before, present, _, rfl⟩ := step
      intro inner after
      cases after
      exact stable.clearExpired before _ _ (holds before present)
  | setReady value ready =>
      obtain ⟨conn, _, rfl⟩ := step
      exact holds
  | poison value =>
      obtain ⟨conn, _, rfl⟩ := step
      exact holds
  | tick elapsed =>
      obtain rfl := step
      exact holds
  | dropPool =>
      obtain ⟨_, _, rfl⟩ := step
      exact holds.dropPool

/-- A property of a new pool that each operation under the lock keeps holds in every state
reached.
-/
theorem Stable.run {kept : PoolInner K → Prop} (stable : Stable kept) {config : Config}
    {timerIsEmpty : Bool} {events : List (Event K)} {state : State K}
    (run : Run Step (State.new config timerIsEmpty) events state)
    (initial : config.isEnabled = true → kept (.new config timerIsEmpty))
    : state.Holds kept := by
  apply run.invariant
  · intro _ before event after _ holds step
    exact stable.step step holds
  · intro inner present
    unfold State.new at present
    split at present
    · next enabled =>
        cases present
        exact initial enabled
    · cases present

/-- No operation under the lock changes the configuration. -/
theorem configured_stable (config : Config)
    : Stable (fun inner : PoolInner K =>
        inner.maxIdlePerHost = config.maxIdlePerHost ∧ inner.timeout = config.idleTimeout) where
  put inner closing shared now chans key value same := by
    rcases PoolInner.put_cases
      (Prod.mk.eta (p := inner.put closing shared now chans key value)).symm with
      ⟨after, _⟩ | ⟨waiters, _, _, after⟩ | ⟨_, queue, rest, _, _, _, after⟩
    · rw [after]
      exact same
    · obtain ⟨idle, idleIntervalRef, pushed⟩ :=
        PoolInner.pushIdle_eq { inner with waiters } now key value
      rw [after, pushed]
      exact same
    · rw [after]
      exact same
  connected _ _ _ same := same
  connecting _ _ same := same
  found inner isOpen shared now key entry rest same taken := by
    obtain ⟨idle, rfl⟩ := PoolInner.takeIdle_eq taken
    exact same
  parked inner isOpen shared now key rest tx same taken := by
    obtain ⟨idle, rfl⟩ := PoolInner.takeIdle_eq taken
    exact same
  cleanWaiters inner chans key same := by
    unfold PoolInner.cleanWaiters
    split <;> exact same
  clearExpired _ _ _ same := same

end Tlsurl.Pool
