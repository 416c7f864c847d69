import Tlsurl.Pool.Locked

/-! What a step does to the idle lists, said once.
A step puts a connection back, takes from one list, sweeps them all, or leaves them alone.
-/

namespace Tlsurl.Pool

open Library

variable {K : Type} [DecidableEq K]

/-- A call of `PoolInner::put`. -/
structure PutCall (K : Type) where
  closing : ChanId → Bool
  shared : Bool
  key : K
  value : ConnId

/-- The call of `PoolInner::put` that an event makes on a pool that exists: a new HTTP/2
connection goes into the pool at once, another one when its handle is dropped.
-/
def State.putBy (state : State K) : Event K → Option (PutCall K)
  | .pooled closing token http2 _ _ =>
      if http2 then
        (state.connectings.get? token).map (fun connecting =>
          { closing, shared := true, key := connecting.key, value := state.conns.size })
      else none
  | .dropPooled closing id =>
      (state.pooleds.get? id).bind (fun pooled =>
        if state.isOpen pooled.value && pooled.pool then
          some
            { closing, shared := state.canShare pooled.value, key := pooled.key
              value := pooled.value }
        else none)
  | _ => none

/-- The ways in which a step can change the idle lists. -/
inductive IdleCase (state : State K) (inner : PoolInner K) (event : Event K)
    : LruCache K (List Idle) → Prop
  | kept (quiet : state.putBy event = none) : IdleCase state inner event inner.idle
  | put {call} (made : state.putBy event = some call)
    : IdleCase state inner event
        (inner.put call.closing call.shared state.now state.chans call.key call.value).1.idle
  | taken {key found after} (quiet : state.putBy event = none)
    (taken : inner.takeIdle state.isOpen state.canShare state.now key = (found, after))
    : IdleCase state inner event after.idle
  | cleared (quiet : state.putBy event = none)
    : IdleCase state inner event (inner.clearExpired state.isOpen state.now).idle

/-- The idle lists of the pool, if it exists. -/
def State.idle (state : State K) : Option (LruCache K (List Idle)) :=
  state.inner.map PoolInner.idle

namespace State

variable {state : State K}

theorem idle_connected (key : K) (token : Nat)
    : (state.connected key token).idle = state.idle := by
  unfold State.connected
  split
  · rfl
  · next inner present => simp [State.idle, present, PoolInner.connected]

theorem idle_dropConnecting (token : Nat) : (state.dropConnecting token).idle = state.idle := by
  rcases state.dropConnecting_cases token with same | ⟨held, _, ⟨_, same⟩ | same⟩
  · rw [same]
  · rw [same, idle_connected]
    rfl
  · rw [same]
    rfl

theorem idle_connecting (key : K) (ver : Ver) : (state.connecting key ver).idle = state.idle := by
  unfold State.connecting
  split
  · next inner present =>
      split
      · rfl
      · simp [State.idle, present]
  · rfl

theorem idle_alpnH2 (token : Nat) : (state.alpnH2 token).idle = state.idle := by
  unfold State.alpnH2
  split
  · rfl
  · rw [idle_dropConnecting, idle_connecting]
    rfl

/-- A pool that exists keeps existing, with the lists that `put` leaves. -/
theorem idle_put (state : State K) {inner : PoolInner K} (present : state.inner = some inner)
    (closing : ChanId → Bool) (key : K) (value : ConnId)
    : (state.put closing key value).idle
      = some (inner.put closing (state.canShare value) state.now state.chans key value).1.idle
    := by
  simp [State.put, State.idle, present]

/-- Once the pool is gone it stays gone. -/
theorem idle_none_of_step {next : State K} {event : Event K} (step : Step state event next)
    (gone : state.inner = none)
    : next.inner = none := by
  have absent : Stable (fun _ : PoolInner K => False) :=
    { put := fun _ _ _ _ _ _ _ h => h, connected := fun _ _ _ h => h
      connecting := fun _ _ h => h, found := fun _ _ _ _ _ _ _ h _ => h
      parked := fun _ _ _ _ _ _ _ h _ => h, cleanWaiters := fun _ _ _ h => h
      clearExpired := fun _ _ _ h => h }
  cases after : next.inner with
  | none => rfl
  | some inner =>
      have holds : next.Holds (fun _ => False) :=
        absent.step step (fun inner present => by simp [gone] at present)
      exact (holds inner after).elim

theorem idle_dropPool : state.dropPool.idle = none := by
  unfold State.dropPool
  split
  · next gone => simp [State.idle, gone]
  · rfl

/-- `Pool::pooled` puts a new HTTP/2 connection back at once; it leaves the lists alone with any
other.
-/
theorem idle_pooled {inner : PoolInner K} (present : state.inner = some inner)
    (closing : ChanId → Bool) (token : Nat) (http2 ready poisoned : Bool)
    : ∃ idle, (state.pooled closing token http2 ready poisoned).idle = some idle
        ∧ IdleCase state inner (.pooled closing token http2 ready poisoned) idle := by
  have same : state.idle = some inner.idle := by simp [State.idle, present]
  cases found : state.connectings.get? token with
  | none =>
      refine ⟨inner.idle, ?_, .kept (by simp [State.putBy, found])⟩
      simp only [State.pooled, found, same]
  | some connecting =>
      cases http2 with
      | false =>
          refine ⟨inner.idle, ?_, .kept (by simp [State.putBy])⟩
          simp only [State.pooled, found, present, Bool.false_eq_true, if_false,
            idle_dropConnecting]
          rfl
      | true =>
          let conn : Conn K := { key := connecting.key, http2 := true, ready, poisoned }
          have made
              : state.putBy (.pooled closing token true ready poisoned)
                = some ⟨closing, true, connecting.key, state.conns.size⟩ := by
            simp [State.putBy, found]
          refine ⟨_, ?_, .put made⟩
          simp only [State.pooled, found, present, if_true]
          have stored := idle_put
            { state with inner := some inner, conns := state.conns.alloc conn } rfl closing
            connecting.key state.conns.size
          have shared
              : State.canShare { state with inner := some inner, conns := state.conns.alloc conn }
                  state.conns.size
                = true := by
            simp [State.canShare, Table.get?_alloc, conn]
          rw [shared] at stored
          exact (idle_connected connecting.key token).trans stored

/-- Polling takes from the list of the checkout's key, or leaves the lists alone. -/
theorem idle_poll {inner : PoolInner K} (present : state.inner = some inner) (id : Nat)
    (checkout : Checkout K) (outcome : Outcome)
    : ∃ idle, (state.poll id checkout).2.idle = some idle
        ∧ IdleCase state inner (.poll id outcome) idle := by
  have same : state.idle = some inner.idle := by simp [State.idle, present]
  cases waiting : checkout.waiter with
  | some rx =>
      refine ⟨inner.idle, ?_, .kept rfl⟩
      simp only [State.poll, waiting, State.pollWaiter]
      repeat' split
      all_goals exact same
  | none =>
      simp only [State.poll, waiting, State.pollIdle, present]
      split
      · next entry rest taken => exact ⟨rest.idle, rfl, .taken rfl taken⟩
      · next rest taken => exact ⟨rest.idle, rfl, .taken rfl taken⟩

/-- A handle to an open connection, if it refers to the pool, puts it back when it drops. -/
theorem idle_dropPooled {inner : PoolInner K} (present : state.inner = some inner)
    (closing : ChanId → Bool) {id : Nat} {pooled : Pooled K}
    (found : state.pooleds.get? id = some pooled)
    : ∃ idle, (state.dropPooled closing id pooled).idle = some idle
        ∧ IdleCase state inner (.dropPooled closing id) idle := by
  have same : state.idle = some inner.idle := by simp [State.idle, present]
  by_cases returned : state.isOpen pooled.value = true ∧ pooled.pool = true
  · obtain ⟨opened, pool⟩ := returned
    have made
        : state.putBy (.dropPooled closing id)
          = some
            ⟨closing, state.canShare pooled.value, pooled.key, pooled.value⟩ := by
      simp [State.putBy, found, opened, pool]
    refine ⟨_, ?_, .put made⟩
    simp only [State.dropPooled, opened, pool, Bool.not_true, Bool.false_eq_true, if_false,
      if_true]
    exact idle_put { state with pooleds := state.pooleds.free id } present closing
      pooled.key pooled.value
  · have quiet : state.putBy (.dropPooled closing id) = none := by
      simpa [State.putBy, found] using returned
    refine ⟨inner.idle, ?_, .kept quiet⟩
    unfold State.dropPooled
    simp only
    split
    · exact same
    · next opened =>
        have kept : pooled.pool ≠ true := fun pool => returned ⟨by simpa using opened, pool⟩
        rw [if_neg kept]
        exact same

end State

/-- Whatever a step does, it is one of the ways above to change the idle lists, or the pool is
gone after it.
-/
theorem Step.idle_cases {state next : State K} {event : Event K} {inner : PoolInner K}
    (step : Step state event next) (present : state.inner = some inner)
    : (next.idle = none ∧ state.putBy event = none)
      ∨ ∃ idle, next.idle = some idle ∧ IdleCase state inner event idle := by
  have same : state.idle = some inner.idle := by simp [State.idle, present]
  cases event with
  | connecting key ver =>
      obtain ⟨_, rfl⟩ := step
      exact .inr ⟨inner.idle, (State.idle_connecting key ver).trans same, .kept rfl⟩
  | alpnH2 token =>
      obtain ⟨_, rfl⟩ := step
      exact .inr ⟨inner.idle, (State.idle_alpnH2 token).trans same, .kept rfl⟩
  | dropConnecting token =>
      obtain rfl := step
      exact .inr ⟨inner.idle, (State.idle_dropConnecting token).trans same, .kept rfl⟩
  | pooled closing token http2 ready poisoned =>
      obtain ⟨_, rfl⟩ := step
      exact .inr (State.idle_pooled present closing token http2 ready poisoned)
  | checkout key =>
      obtain ⟨_, rfl⟩ := step
      exact .inr ⟨inner.idle, same, .kept rfl⟩
  | poll id outcome =>
      obtain ⟨checkout, _, _, polled⟩ := step
      have taken := State.idle_poll present id checkout outcome
      rw [polled] at taken
      exact .inr taken
  | beginDrop id =>
      obtain ⟨checkout, _, _, rfl⟩ := step
      refine .inr ⟨inner.idle, ?_, .kept rfl⟩
      unfold State.beginDrop
      split <;> exact same
  | closeReceiver id =>
      obtain ⟨checkout, rx, _, _, _, rfl⟩ := step
      exact .inr ⟨inner.idle, same, .kept rfl⟩
  | endDrop id =>
      obtain ⟨checkout, _, _, _, rfl⟩ := step
      refine .inr ⟨inner.idle, ?_, .kept rfl⟩
      simp only [State.idle, State.endDrop, present, Option.map_some, PoolInner.cleanWaiters]
      split <;> rfl
  | dropPooled closing id =>
      obtain ⟨pooled, found, rfl⟩ := step
      exact .inr (State.idle_dropPooled present closing found)
  | clearExpired =>
      obtain ⟨before, stored, _, rfl⟩ := step
      cases present.symm.trans stored
      exact .inr ⟨_, rfl, .cleared rfl⟩
  | setReady value ready =>
      obtain ⟨conn, _, rfl⟩ := step
      exact .inr ⟨inner.idle, same, .kept rfl⟩
  | poison value =>
      obtain ⟨conn, _, rfl⟩ := step
      exact .inr ⟨inner.idle, same, .kept rfl⟩
  | tick elapsed =>
      obtain rfl := step
      exact .inr ⟨inner.idle, same, .kept rfl⟩
  | dropPool =>
      obtain ⟨_, _, rfl⟩ := step
      exact .inl ⟨State.idle_dropPool, rfl⟩

end Tlsurl.Pool
