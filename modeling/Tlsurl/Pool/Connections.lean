import Tlsurl.Pool.System

/-! What becomes of connections.
A connection keeps its key and its protocol, and stays poisoned; the pool only adds new ones.
-/

namespace Tlsurl.Pool

open Library

variable {K : Type}

-----------------------------------------------------------------------------------------
-- Growing tables of connections
-----------------------------------------------------------------------------------------

/-- The connections of one state are still there in a later one. -/
structure Grown (before after : Table (Conn K)) : Prop where
  size : before.size ≤ after.size
  kept
    : ∀ value conn, before.get? value = some conn
      → ∃ later, after.get? value = some later
          ∧ later.key = conn.key
          ∧ later.http2 = conn.http2
          ∧ (conn.poisoned = true → later.poisoned = true)

theorem Grown.refl (conns : Table (Conn K)) : Grown conns conns where
  size := Nat.le_refl _
  kept _ conn found := ⟨conn, found, rfl, rfl, id⟩

theorem Grown.trans {first second third : Table (Conn K)} (earlier : Grown first second)
    (later : Grown second third)
    : Grown first third where
  size := Nat.le_trans earlier.size later.size
  kept value conn found := by
    obtain ⟨middle, foundMiddle, key, http2, poisoned⟩ := earlier.kept value conn found
    obtain ⟨last, foundLast, sameKey, sameHttp2, stays⟩ := later.kept value middle foundMiddle
    exact ⟨last, foundLast, sameKey.trans key, sameHttp2.trans http2, stays ∘ poisoned⟩

theorem Grown.alloc (conns : Table (Conn K)) (fresh : Conn K)
    : Grown conns (conns.alloc fresh) where
  size := by simp
  kept value conn found := by
    have older : value ≠ conns.size := Nat.ne_of_lt (Table.lt_size found)
    exact ⟨conn, by rw [Table.get?_alloc, if_neg older, found], rfl, rfl, id⟩

theorem Grown.set {conns : Table (Conn K)} {value : ConnId} {conn : Conn K}
    (found : conns.get? value = some conn) (changed : Conn K) (key : changed.key = conn.key)
    (http2 : changed.http2 = conn.http2)
    (poisoned : conn.poisoned = true → changed.poisoned = true)
    : Grown conns (conns.set value changed) where
  size := by simp
  kept other old stored := by
    by_cases same : other = value
    · subst same
      cases found.symm.trans stored
      exact ⟨changed, Table.get?_set_self found _, key, http2, poisoned⟩
    · exact ⟨old, (Table.get?_set_ne same _).trans stored, rfl, rfl, id⟩

-----------------------------------------------------------------------------------------
-- The operations
-----------------------------------------------------------------------------------------

variable [DecidableEq K]

namespace State

variable (state : State K)

/-- Putting a connection is an operation of the pool that is there. -/
theorem put_eq {inner after : PoolInner K} {closing : ChanId → Bool} {key : K} {value : ConnId}
    {chans : Table (Chan K)} (present : state.inner = some inner)
    (put
      : inner.put closing (state.canShare value) state.now state.chans key value = (after, chans))
    : state.put closing key value = { state with inner := some after, chans } := by
  simp only [State.put, present, put]

/-- An operation on idle connections, waiters and tokens keeps what was opened, and takes no time.
-/
structure Sustains (after : State K) : Prop where
  conns : after.conns = state.conns
  now : after.now = state.now

theorem put_sustains (closing : ChanId → Bool) (key : K) (value : ConnId)
    : state.Sustains (state.put closing key value) := by
  unfold State.put
  split <;> exact ⟨rfl, rfl⟩

@[simp] theorem put_conns (closing : ChanId → Bool) (key : K) (value : ConnId)
    : (state.put closing key value).conns = state.conns :=
  (state.put_sustains closing key value).conns

@[simp] theorem put_now (closing : ChanId → Bool) (key : K) (value : ConnId)
    : (state.put closing key value).now = state.now :=
  (state.put_sustains closing key value).now

theorem connected_sustains (key : K) (token : Nat)
    : state.Sustains (state.connected key token) := by
  unfold State.connected
  split <;> exact ⟨rfl, rfl⟩

@[simp] theorem connected_conns (key : K) (token : Nat)
    : (state.connected key token).conns = state.conns :=
  (state.connected_sustains key token).conns

@[simp] theorem connected_now (key : K) (token : Nat)
    : (state.connected key token).now = state.now :=
  (state.connected_sustains key token).now

theorem connecting_sustains (key : K) (ver : Ver) : state.Sustains (state.connecting key ver) := by
  unfold State.connecting
  split
  · split <;> exact ⟨rfl, rfl⟩
  · exact ⟨rfl, rfl⟩

@[simp] theorem connecting_conns (key : K) (ver : Ver)
    : (state.connecting key ver).conns = state.conns :=
  (state.connecting_sustains key ver).conns

@[simp] theorem connecting_now (key : K) (ver : Ver)
    : (state.connecting key ver).now = state.now :=
  (state.connecting_sustains key ver).now

theorem dropConnecting_sustains (token : Nat) : state.Sustains (state.dropConnecting token) := by
  rcases state.dropConnecting_cases token with same | ⟨held, _, ⟨_, same⟩ | same⟩
  · rw [same]
    exact ⟨rfl, rfl⟩
  · rw [same]
    exact ⟨connected_conns .., connected_now ..⟩
  · rw [same]
    exact ⟨rfl, rfl⟩

@[simp] theorem dropConnecting_conns (token : Nat)
    : (state.dropConnecting token).conns = state.conns :=
  (state.dropConnecting_sustains token).conns

@[simp] theorem dropConnecting_now (token : Nat) : (state.dropConnecting token).now = state.now :=
  (state.dropConnecting_sustains token).now

theorem alpnH2_sustains (token : Nat) : state.Sustains (state.alpnH2 token) := by
  unfold State.alpnH2
  split
  · exact ⟨rfl, rfl⟩
  · constructor <;> simp

@[simp] theorem alpnH2_conns (token : Nat) : (state.alpnH2 token).conns = state.conns :=
  (state.alpnH2_sustains token).conns

/-- `pooled` needs a token. -/
theorem pooled_none {token : Nat} (absent : state.connectings.get? token = none)
    (closing : ChanId → Bool) (http2 ready poisoned : Bool)
    : state.pooled closing token http2 ready poisoned = state := by
  simp only [State.pooled, absent]

/-- `pooled` adds its connection. -/
theorem pooled_conns {token : Nat} {connecting : Connecting K}
    (found : state.connectings.get? token = some connecting) (closing : ChanId → Bool)
    (http2 ready poisoned : Bool)
    : (state.pooled closing token http2 ready poisoned).conns
      = state.conns.alloc { key := connecting.key, http2, ready, poisoned } := by
  simp only [State.pooled, found]
  split
  · simp
  · split <;> simp

/-- `pooled` takes no time. -/
theorem pooled_now (closing : ChanId → Bool) (token : Nat) (http2 ready poisoned : Bool)
    : (state.pooled closing token http2 ready poisoned).now = state.now := by
  unfold State.pooled
  split
  · rfl
  · simp only
    split
    · simp
    · split <;> simp

theorem poll_sustains (id : Nat) (checkout : Checkout K)
    : state.Sustains (state.poll id checkout).2 := by
  unfold State.poll State.pollWaiter State.pollIdle
  repeat' split
  all_goals exact ⟨rfl, rfl⟩

@[simp] theorem poll_conns (id : Nat) (checkout : Checkout K)
    : (state.poll id checkout).2.conns = state.conns :=
  (state.poll_sustains id checkout).conns

theorem beginDrop_sustains (id : Nat) (checkout : Checkout K)
    : state.Sustains (state.beginDrop id checkout) := by
  unfold State.beginDrop
  split <;> exact ⟨rfl, rfl⟩

@[simp] theorem beginDrop_conns (id : Nat) (checkout : Checkout K)
    : (state.beginDrop id checkout).conns = state.conns :=
  (state.beginDrop_sustains id checkout).conns

theorem dropPooled_sustains (closing : ChanId → Bool) (id : Nat) (pooled : Pooled K)
    : state.Sustains (state.dropPooled closing id pooled) := by
  rcases state.dropPooled_cases closing id pooled with same | same
  · rw [same]
    exact ⟨rfl, rfl⟩
  · rw [same]
    exact ⟨put_conns .., put_now ..⟩

@[simp] theorem dropPooled_conns (closing : ChanId → Bool) (id : Nat) (pooled : Pooled K)
    : (state.dropPooled closing id pooled).conns = state.conns :=
  (state.dropPooled_sustains closing id pooled).conns

theorem dropPool_sustains : state.Sustains state.dropPool := by
  unfold State.dropPool
  split <;> exact ⟨rfl, rfl⟩

@[simp] theorem dropPool_conns : state.dropPool.conns = state.conns := state.dropPool_sustains.conns

end State

/-- Connections stay, with their key, their protocol and their poison. -/
theorem Step.grown {state next : State K} {event : Event K} (step : Step state event next)
    : Grown state.conns next.conns := by
  cases event with
  | connecting | alpnH2 =>
      obtain ⟨_, rfl⟩ := step
      simpa using Grown.refl state.conns
  | dropConnecting =>
      obtain rfl := step
      simpa using Grown.refl state.conns
  | pooled closing token http2 ready poisoned =>
      obtain ⟨_, rfl⟩ := step
      cases found : state.connectings.get? token with
      | none =>
          rw [state.pooled_none found]
          exact Grown.refl state.conns
      | some connecting =>
          rw [state.pooled_conns found]
          exact Grown.alloc state.conns _
  | checkout =>
      obtain ⟨_, rfl⟩ := step
      exact Grown.refl state.conns
  | poll id outcome =>
      obtain ⟨checkout, _, _, polled⟩ := step
      have same := state.poll_conns id checkout
      rw [polled] at same
      rw [same]
      exact Grown.refl state.conns
  | beginDrop =>
      obtain ⟨checkout, _, _, rfl⟩ := step
      simpa using Grown.refl state.conns
  | closeReceiver =>
      obtain ⟨_, _, _, _, _, rfl⟩ := step
      exact Grown.refl state.conns
  | endDrop =>
      obtain ⟨_, _, _, _, rfl⟩ := step
      exact Grown.refl state.conns
  | dropPooled =>
      obtain ⟨_, _, rfl⟩ := step
      simpa using Grown.refl state.conns
  | clearExpired =>
      obtain ⟨_, _, _, rfl⟩ := step
      exact Grown.refl state.conns
  | setReady value ready =>
      obtain ⟨conn, found, rfl⟩ := step
      exact Grown.set found _ rfl rfl id
  | poison value =>
      obtain ⟨conn, found, rfl⟩ := step
      exact Grown.set found _ rfl rfl (fun _ => rfl)
  | tick =>
      obtain rfl := step
      exact Grown.refl state.conns
  | dropPool =>
      obtain ⟨_, _, rfl⟩ := step
      simpa using Grown.refl state.conns

theorem run_grown {state next : State K} {events : List (Event K)}
    (run : Run Step state events next)
    : Grown state.conns next.conns := by
  induction run with
  | nil => exact Grown.refl _
  | snoc _ last ih => exact ih.trans (Step.grown last)

/-- A connection that is not shared later was not shared before. -/
theorem Grown.canShare {state next : State K} (grown : Grown state.conns next.conns)
    {value : ConnId} (unique : next.canShare value = false)
    : state.canShare value = false := by
  cases found : state.conns.get? value with
  | none => simp [State.canShare, found]
  | some conn =>
      obtain ⟨later, foundLater, _, http2, _⟩ := grown.kept value conn found
      simpa [State.canShare, found, foundLater, http2] using unique

end Tlsurl.Pool
