import Tlsurl.Pool.Discards
import Tlsurl.Pool.Parties

/-! What becomes of returned connections.
A connection that goes back to the pool open is idle, on its way to a checkout or in use, until a
step parts with it for a reason; but a checkout that is dropped takes along what was sent to it.
-/

namespace Tlsurl.Pool

open Library

variable {K : Type} [DecidableEq K]

/-- Where a connection for the key may be: in the idle list of the key, in the channel on which a
checkout waits whose receiver is there, or in a handle.
-/
inductive State.Keeps (state : State K) (key : K) (value : ConnId) : Prop
  | idle {inner list entry} (present : state.inner = some inner)
    (listed : inner.idle.peek key = some list) (member : entry ∈ list)
    (same : entry.value = value)
  | sent {id checkout rx chan} (found : state.checkouts.get? id = some checkout)
    (waits : checkout.waiter = some rx) (channel : state.chans.get? rx = some chan)
    (carried : chan.value = some value)
  | held {id pooled} (found : state.pooleds.get? id = some pooled)
    (same : pooled.value = value)

/-- An event closes the receiver of a checkout to which the connection was sent. -/
def State.forfeits (state : State K) (value : ConnId) : Event K → Bool
  | .closeReceiver id =>
      (((state.checkouts.get? id).bind Checkout.waiter).bind state.chans.get?).bind Chan.value
        = some value
  | _ => false

-----------------------------------------------------------------------------------------
-- Handles
-----------------------------------------------------------------------------------------

namespace State

variable (state : State K)

@[simp] theorem put_pooleds (closing : ChanId → Bool) (key : K) (value : ConnId)
    : (state.put closing key value).pooleds = state.pooleds := by
  unfold State.put
  split <;> rfl

@[simp] theorem connected_pooleds (key : K) (token : Nat)
    : (state.connected key token).pooleds = state.pooleds := by
  unfold State.connected
  split <;> rfl

@[simp] theorem connecting_pooleds (key : K) (ver : Ver)
    : (state.connecting key ver).pooleds = state.pooleds := by
  unfold State.connecting
  split
  · split <;> rfl
  · rfl

@[simp] theorem dropConnecting_pooleds (token : Nat)
    : (state.dropConnecting token).pooleds = state.pooleds := by
  rcases state.dropConnecting_cases token with same | ⟨held, _, ⟨_, same⟩ | same⟩
  · rw [same]
  · rw [same, connected_pooleds]
  · rw [same]

@[simp] theorem alpnH2_pooleds (token : Nat) : (state.alpnH2 token).pooleds = state.pooleds := by
  unfold State.alpnH2
  split <;> simp

@[simp] theorem beginDrop_pooleds (id : Nat) (checkout : Checkout K)
    : (state.beginDrop id checkout).pooleds = state.pooleds := by
  unfold State.beginDrop
  split <;> rfl

@[simp] theorem dropPool_pooleds : state.dropPool.pooleds = state.pooleds := by
  unfold State.dropPool
  split <;> rfl

/-- A handle that drops is gone, whatever becomes of its connection. -/
theorem dropPooled_pooleds (closing : ChanId → Bool) (id : Nat) (pooled : Pooled K)
    : (state.dropPooled closing id pooled).pooleds = state.pooleds.free id := by
  rcases state.dropPooled_cases closing id pooled with same | same
  · rw [same]
  · rw [same, put_pooleds]

/-- A handle to a connection that is not shared refers to the pool as long as that exists. -/
def Refers (pooled : Pooled K) : Prop :=
  state.canShare pooled.value = false → state.inner.isSome = true → pooled.pool = true

/-- `Pool::pooled` makes one handle, if there is a token. -/
theorem pooled_pooleds (closing : ChanId → Bool) (token : Nat) (http2 ready poisoned : Bool)
    : (state.pooled closing token http2 ready poisoned).pooleds = state.pooleds
      ∨ ∃ pooled,
        (state.pooled closing token http2 ready poisoned).pooleds = state.pooleds.alloc pooled
        ∧ (state.pooled closing token http2 ready poisoned).Refers pooled := by
  cases found : state.connectings.get? token with
  | none => exact .inl (by rw [state.pooled_none found])
  | some held =>
      have conns := state.pooled_conns found closing http2 ready poisoned
      let pool := state.inner.isSome && !http2
      refine .inr ⟨{ value := state.conns.size, isReused := false, key := held.key, pool }, ?_, ?_⟩
      · simp only [State.pooled, found]
        split
        · next gone => simp [pool, gone]
        · next inner present =>
            split
            · next shared => simp [pool, shared]
            · next unshared => simp [pool, present, unshared]
      · intro unique still
        rw [pooled_isSome] at still
        have unshared : http2 = false := by
          simpa only [canShare, conns, Table.get?_alloc, if_true, Option.any_some] using unique
        simp [pool, still, unshared]

/-- A connection that is reused has a handle. -/
theorem reuse_held (id : Nat) (key : K) (value : ConnId)
    : ∃ other pooled, (state.reuse id key value).pooleds.get? other = some pooled
        ∧ pooled.value = value := by
  refine ⟨state.pooleds.size,
    ⟨value, true, key, !state.canShare value && state.inner.isSome⟩, ?_, rfl⟩
  rw [reuse, Table.get?_alloc, if_pos rfl]

/-- A checkout that is polled makes one handle at most. -/
theorem poll_pooleds (id : Nat) (checkout : Checkout K)
    : (state.poll id checkout).2.pooleds = state.pooleds
      ∨ ∃ pooled, (state.poll id checkout).2.pooleds = state.pooleds.alloc pooled
          ∧ (state.poll id checkout).2.Refers pooled := by
  have reuse (before : State K) (key : K) (value : ConnId)
      (same : before.pooleds = state.pooleds)
      : ∃ pooled, (before.reuse id key value).pooleds = state.pooleds.alloc pooled
          ∧ (before.reuse id key value).Refers pooled := by
    refine ⟨_, by rw [State.reuse, same], fun unique still => ?_⟩
    have unshared : before.canShare value = false := unique
    have there : before.inner.isSome = true := still
    simp [unshared, there]
  unfold State.poll
  split
  · unfold State.pollWaiter
    split
    · exact .inl rfl
    · split
      · simp only
        split
        · exact .inr (reuse _ _ _ rfl)
        · exact .inl rfl
      · split <;> exact .inl rfl
  · unfold State.pollIdle
    split
    · exact .inl rfl
    · split
      · exact .inr (reuse _ _ _ rfl)
      · exact .inl rfl

end State

/-- A step changes no handle, makes one, or drops one. -/
theorem Step.pooleds_cases {state next : State K} {event : Event K}
    (step : Step state event next)
    : next.pooleds = state.pooleds
      ∨ (∃ pooled, next.pooleds = state.pooleds.alloc pooled ∧ next.Refers pooled)
      ∨ ∃ closing id, event = .dropPooled closing id ∧ next.pooleds = state.pooleds.free id := by
  cases event with
  | connecting key ver =>
      obtain ⟨_, rfl⟩ := step
      exact .inl (state.connecting_pooleds key ver)
  | alpnH2 token =>
      obtain ⟨_, rfl⟩ := step
      exact .inl (state.alpnH2_pooleds token)
  | dropConnecting token =>
      obtain rfl := step
      exact .inl (state.dropConnecting_pooleds token)
  | pooled closing token http2 ready poisoned =>
      obtain ⟨_, rfl⟩ := step
      exact (state.pooled_pooleds closing token http2 ready poisoned).imp id .inl
  | checkout key =>
      obtain ⟨_, rfl⟩ := step
      exact .inl rfl
  | poll id outcome =>
      obtain ⟨checkout, _, _, polled⟩ := step
      have made := state.poll_pooleds id checkout
      rw [polled] at made
      exact made.imp (fun same => same) .inl
  | beginDrop id =>
      obtain ⟨checkout, _, _, rfl⟩ := step
      exact .inl (state.beginDrop_pooleds id checkout)
  | closeReceiver id =>
      obtain ⟨checkout, rx, _, _, _, rfl⟩ := step
      exact .inl rfl
  | endDrop id =>
      obtain ⟨checkout, _, _, _, rfl⟩ := step
      exact .inl rfl
  | dropPooled closing id =>
      obtain ⟨pooled, _, rfl⟩ := step
      exact .inr (.inr ⟨closing, id, rfl, state.dropPooled_pooleds closing id pooled⟩)
  | clearExpired =>
      obtain ⟨inner, _, _, rfl⟩ := step
      exact .inl rfl
  | setReady value ready =>
      obtain ⟨conn, _, rfl⟩ := step
      exact .inl rfl
  | poison value =>
      obtain ⟨conn, _, rfl⟩ := step
      exact .inl rfl
  | tick elapsed =>
      obtain rfl := step
      exact .inl rfl
  | dropPool =>
      obtain ⟨_, _, rfl⟩ := step
      exact .inl state.dropPool_pooleds

/-- Every handle refers to the pool that should. -/
def State.AllRefer (state : State K) : Prop :=
  ∀ id pooled, state.pooleds.get? id = some pooled → state.Refers pooled

/-- Each step keeps the handles so. -/
theorem Step.allRefer {state next : State K} {event : Event K} (step : Step state event next)
    (refer : state.AllRefer)
    : next.AllRefer := by
  have older (pooled : Pooled K) (before : state.Refers pooled) : next.Refers pooled := by
    intro unique still
    refine before (step.grown.canShare unique) ?_
    by_contra gone
    have stays := State.idle_none_of_step step (Option.not_isSome_iff_eq_none.mp gone)
    rw [stays] at still
    cases still
  intro id pooled found
  rcases step.pooleds_cases with same | ⟨made, alloc, refers⟩ | ⟨closing, other, _, freed⟩
  · rw [same] at found
    exact older pooled (refer id pooled found)
  · rw [alloc, Table.get?_alloc] at found
    split at found
    · cases found
      exact refers
    · exact older pooled (refer id pooled found)
  · rw [freed, Table.get?_free] at found
    split at found
    · cases found
    · exact older pooled (refer id pooled found)

theorem run_allRefer {config : Config} {timerIsEmpty : Bool} {events : List (Event K)}
    {state : State K} (run : Run Step (State.new config timerIsEmpty) events state)
    : state.AllRefer := by
  apply run.invariant
  · intro _ before event after _ refer step
    exact step.allRefer refer
  · intro id pooled found
    cases found

/-- No two checkouts of a state reached wait on one channel. -/
theorem run_unshared {config : Config} {timerIsEmpty : Bool} {events : List (Event K)}
    {state : State K} (run : Run Step (State.new config timerIsEmpty) events state)
    : state.Unshared := by
  apply run.invariant
  · intro _ before event after earlier unshared step
    exact step.unshared (run_keyed earlier) unshared
  · intro id other first second rx found
    cases found

-----------------------------------------------------------------------------------------
-- Channels
-----------------------------------------------------------------------------------------

/-- A connection was sent to the channel and not received. -/
def State.Carries (state : State K) (rx : ChanId) (value : ConnId) : Prop :=
  ∃ chan, state.chans.get? rx = some chan ∧ chan.value = some value

namespace State

variable {state : State K} {rx : ChanId} {value : ConnId}

theorem Carries.withChans (carries : state.Carries rx value) {chans : Table (Chan K)}
    (same : chans.get? rx = state.chans.get? rx)
    : ({ state with chans } : State K).Carries rx value := by
  simpa only [Carries, same] using carries

theorem Carries.put (carries : state.Carries rx value) (queued : state.Queued)
    (closing : ChanId → Bool) (key : K) (other : ConnId)
    : (state.put closing key other).Carries rx value := by
  unfold State.put
  split
  · exact carries
  · next inner present =>
      obtain ⟨chan, found, carried⟩ := carries
      have outside : rx ∉ (inner.waiters.lookup key).getD [] := by
        cases waiting : inner.waiters.lookup key with
        | none => simp
        | some queue =>
            intro member
            have unsent := (queued inner present key queue waiting).2 rx member
            exact unsent.ne_of_used found (.inl (by simp [carried])) rfl
      cases stored
        : inner.put closing (state.canShare other) state.now state.chans key other with
      | mk after sent =>
          refine ⟨chan, ?_, carried⟩
          simp only
          rcases PoolInner.put_cases stored with
            ⟨_, rfl⟩ | ⟨_, _, given, _⟩ | ⟨_, queue, rest, waiting, _, given, _⟩
          · exact found
          · have alone := get?_deliver_of_notMem outside closing (state.canShare other) other
              state.chans
            rw [given] at alone
            exact alone.trans found
          · rw [waiting, Option.getD_some] at outside
            have alone := get?_deliver_of_notMem outside closing (state.canShare other) other
              state.chans
            rw [given] at alone
            exact alone.trans found

theorem Carries.connected (carries : state.Carries rx value) (key : K) (token : Nat)
    : (state.connected key token).Carries rx value := by
  unfold State.connected
  split
  · exact carries
  · next inner present =>
      obtain ⟨chan, found, carried⟩ := carries
      obtain ⟨sender, later, _⟩ := get?_dropSenders found ((inner.waiters.lookup key).getD [])
      exact ⟨_, later, carried⟩

theorem Carries.connecting (carries : state.Carries rx value) (key : K) (ver : Ver)
    : (state.connecting key ver).Carries rx value := by
  unfold State.connecting
  split
  · split <;> exact carries
  · exact carries

theorem Carries.dropConnecting (carries : state.Carries rx value) (token : Nat)
    : (state.dropConnecting token).Carries rx value := by
  have freed : ({ state with connectings := state.connectings.free token }
      : State K).Carries rx value := carries
  rcases state.dropConnecting_cases token with same | ⟨held, _, ⟨_, same⟩ | same⟩
  · rwa [same]
  · rw [same]
    exact freed.connected held.key token
  · rwa [same]

theorem Carries.alpnH2 (carries : state.Carries rx value) (token : Nat)
    : (state.alpnH2 token).Carries rx value := by
  have noted (calls : List (Call K)) : ({ state with calls } : State K).Carries rx value := carries
  unfold State.alpnH2
  split
  · exact carries
  · next held _ => exact ((noted _).connecting held.key .http2).dropConnecting token

theorem Carries.pooled (carries : state.Carries rx value) (queued : state.Queued)
    (closing : ChanId → Bool) (token : Nat) (http2 ready poisoned : Bool)
    : (state.pooled closing token http2 ready poisoned).Carries rx value := by
  have opened (conns : Table (Conn K)) (pooleds : Table (Pooled K)) (calls : List (Call K))
      : ({ state with conns, pooleds, calls } : State K).Carries rx value := carries
  unfold State.pooled
  split
  · exact carries
  · next held _ =>
      simp only
      split
      · exact (opened _ _ _).dropConnecting token
      · split
        · have there (conns : Table (Conn K)) : ({ state with conns } : State K).Queued := queued
          exact ((opened _ state.pooleds state.calls).put (there _) closing held.key
            state.conns.size).connected held.key token
        · exact (opened _ _ _).dropConnecting token

/-- Polling a checkout that waits elsewhere leaves a channel alone. -/
theorem Carries.poll (carries : state.Carries rx value) (id : Nat) {checkout : Checkout K}
    (elsewhere : checkout.waiter ≠ some rx)
    : (state.poll id checkout).2.Carries rx value := by
  unfold State.poll
  split
  · next other waiter =>
      have different : rx ≠ other := fun same => elsewhere (same ▸ waiter)
      have received (chan : Chan K) := carries.withChans (Table.get?_set_ne different chan)
      unfold State.pollWaiter
      split
      · exact carries
      · split
        · simp only
          split <;> exact received _
        · split <;> exact carries
  · unfold State.pollIdle
    split
    · exact carries
    · split
      · exact carries
      · obtain ⟨chan, found, carried⟩ := carries
        refine ⟨chan, ?_, carried⟩
        rw [Table.get?_alloc, if_neg (Nat.ne_of_lt (Table.lt_size found)), found]

/-- The drop of a checkout leaves in its channel what was sent, until the receiver closes. -/
theorem Carries.beginDrop (carries : state.Carries rx value) (id : Nat) (checkout : Checkout K)
    : (state.beginDrop id checkout).Carries rx value := by
  unfold State.beginDrop
  split
  · exact carries
  · next other waiter =>
      split
      · exact carries
      · next chan channel =>
          split
          · by_cases same : rx = other
            · subst same
              obtain ⟨before, found, carried⟩ := carries
              cases channel.symm.trans found
              exact ⟨{ chan with receiver := .dropping },
                Table.get?_set_self found _, carried⟩
            · exact carries.withChans (Table.get?_set_ne same _)
          · exact carries

theorem Carries.dropPooled (carries : state.Carries rx value) (queued : state.Queued)
    (closing : ChanId → Bool) (id : Nat) (pooled : Pooled K)
    : (state.dropPooled closing id pooled).Carries rx value := by
  have freed : ({ state with pooleds := state.pooleds.free id } : State K).Carries rx value :=
    carries
  rcases state.dropPooled_cases closing id pooled with same | same
  · rwa [same]
  · rw [same]
    exact freed.put queued closing pooled.key pooled.value

theorem Carries.dropPool (carries : state.Carries rx value) : state.dropPool.Carries rx value := by
  have drops (chans : Table (Chan K)) (tx : ChanId)
      (before : ∃ chan, chans.get? rx = some chan ∧ chan.value = some value)
      : ∃ chan, (dropSender chans tx).get? rx = some chan ∧ chan.value = some value := by
    obtain ⟨chan, found, carried⟩ := before
    obtain ⟨sender, later, _⟩ := get?_dropSenders found [tx]
    exact ⟨_, later, carried⟩
  unfold State.dropPool
  split
  · exact carries
  · exact foldl_dropSenders_keeps drops carries _

end State

/-- What was sent to a channel stays there until its checkout receives it or goes. -/
theorem Step.carries {state next : State K} {event : Event K} {rx : ChanId} {value : ConnId}
    (step : Step state event next) (queued : state.Queued) (carries : state.Carries rx value)
    (elsewhere
      : ∀ id checkout, event.checkout? = some id → state.checkouts.get? id = some checkout
        → checkout.waiter ≠ some rx)
    : next.Carries rx value := by
  cases event with
  | connecting key ver =>
      obtain ⟨_, rfl⟩ := step
      exact carries.connecting key ver
  | alpnH2 token =>
      obtain ⟨_, rfl⟩ := step
      exact carries.alpnH2 token
  | dropConnecting token =>
      obtain rfl := step
      exact carries.dropConnecting token
  | pooled closing token http2 ready poisoned =>
      obtain ⟨_, rfl⟩ := step
      exact carries.pooled queued closing token http2 ready poisoned
  | checkout key =>
      obtain ⟨_, rfl⟩ := step
      exact carries
  | poll id outcome =>
      obtain ⟨checkout, found, _, polled⟩ := step
      have after := carries.poll id (elsewhere id checkout rfl found)
      rwa [polled] at after
  | beginDrop id =>
      obtain ⟨checkout, _, _, rfl⟩ := step
      exact carries.beginDrop id checkout
  | closeReceiver id =>
      obtain ⟨checkout, other, found, _, waiter, rfl⟩ := step
      have different : rx ≠ other := by
        rintro rfl
        exact elsewhere id checkout rfl found waiter
      unfold State.closeReceiver
      split
      · exact carries
      · exact carries.withChans (Table.get?_set_ne different _)
  | endDrop id =>
      obtain ⟨checkout, _, _, _, rfl⟩ := step
      exact carries
  | dropPooled closing id =>
      obtain ⟨pooled, _, rfl⟩ := step
      exact carries.dropPooled queued closing id pooled
  | clearExpired =>
      obtain ⟨inner, _, _, rfl⟩ := step
      exact carries
  | setReady value ready =>
      obtain ⟨conn, _, rfl⟩ := step
      exact carries
  | poison value =>
      obtain ⟨conn, _, rfl⟩ := step
      exact carries
  | tick elapsed =>
      obtain rfl := step
      exact carries
  | dropPool =>
      obtain ⟨_, _, rfl⟩ := step
      exact carries.dropPool

-----------------------------------------------------------------------------------------
-- Idle lists
-----------------------------------------------------------------------------------------

/-- A step that puts a connection back leaves the lists that `put` leaves. -/
theorem Step.idle_of_put {state next : State K} {event : Event K} {inner : PoolInner K}
    {call : PutCall K} (step : Step state event next) (present : state.inner = some inner)
    (made : state.putBy event = some call)
    : next.idle
      = some (inner.put call.closing call.shared state.now state.chans call.key
          call.value).1.idle := by
  rcases step.idle_cases present with ⟨_, quiet⟩ | ⟨idle, found, way⟩
  · rw [made] at quiet
    cases quiet
  · rw [found]
    cases way with
    | put same =>
        cases made.symm.trans same
        rfl
    | kept quiet | taken quiet | cleared quiet =>
        rw [made] at quiet
        cases quiet

/-- A step that puts nothing back leaves the idle lists alone, if it is no poll and no sweep and
the pool goes on.
-/
theorem Step.idle_of_quiet {state next : State K} {event : Event K} (step : Step state event next)
    (quiet : state.putBy event = none) (still : next.inner.isSome = true)
    (looks : ∀ id outcome, event ≠ .poll id outcome) (sweeps : event ≠ .clearExpired)
    : next.idle = state.idle := by
  cases event with
  | connecting key ver =>
      obtain ⟨_, rfl⟩ := step
      exact State.idle_connecting key ver
  | alpnH2 token =>
      obtain ⟨_, rfl⟩ := step
      exact State.idle_alpnH2 token
  | dropConnecting token =>
      obtain rfl := step
      exact State.idle_dropConnecting token
  | pooled closing token http2 ready poisoned =>
      obtain ⟨_, rfl⟩ := step
      unfold State.pooled
      split
      · rfl
      · next held found =>
          simp only
          split
          · rw [State.idle_dropConnecting]
            rfl
          · split
            · next shared => simp [State.putBy, shared, found] at quiet
            · rw [State.idle_dropConnecting]
              rfl
  | checkout key =>
      obtain ⟨_, rfl⟩ := step
      rfl
  | poll id outcome => exact absurd rfl (looks id outcome)
  | beginDrop id =>
      obtain ⟨checkout, _, _, rfl⟩ := step
      unfold State.beginDrop
      split <;> rfl
  | closeReceiver id =>
      obtain ⟨checkout, rx, _, _, _, rfl⟩ := step
      rfl
  | endDrop id =>
      obtain ⟨checkout, _, _, _, rfl⟩ := step
      simp only [State.idle, State.endDrop, Option.map_map]
      congr 1
      funext inner
      simp only [Function.comp_apply, PoolInner.cleanWaiters]
      split <;> rfl
  | dropPooled closing id =>
      obtain ⟨pooled, found, rfl⟩ := step
      unfold State.dropPooled
      simp only
      split
      · rfl
      · next opened =>
          split
          · next pool =>
              rw [Bool.not_eq_true', Bool.not_eq_false] at opened
              simp [State.putBy, found, opened, pool] at quiet
          · rfl
  | clearExpired => exact absurd rfl sweeps
  | setReady value ready =>
      obtain ⟨conn, _, rfl⟩ := step
      rfl
  | poison value =>
      obtain ⟨conn, _, rfl⟩ := step
      rfl
  | tick elapsed =>
      obtain rfl := step
      rfl
  | dropPool =>
      obtain ⟨_, _, rfl⟩ := step
      have gone := state.idle_dropPool
      rw [State.idle, Option.map_eq_none_iff] at gone
      rw [gone] at still
      cases still

/-- A checkout that is polled takes an idle connection, leaves it, or finds it of no use. -/
theorem Step.idle_polled {state next : State K} {id : Nat} {outcome : Outcome}
    {inner : PoolInner K} {key : K} {list : List Idle} {entry : Idle}
    (step : Step state (.poll id outcome) next) (present : state.inner = some inner)
    (listed : inner.idle.peek key = some list) (member : entry ∈ list)
    : (∃ idle later, next.idle = some idle ∧ idle.peek key = some later ∧ entry ∈ later)
      ∨ (∃ other pooled, next.pooleds.get? other = some pooled ∧ pooled.value = entry.value)
      ∨ state.Dismisses (.poll id outcome) entry.value := by
  obtain ⟨checkout, found, _, polled⟩ := step
  have same : state.idle = some inner.idle := by simp [State.idle, present]
  unfold State.poll at polled
  split at polled
  · next rx _ =>
      have kept : (state.pollWaiter id checkout.key rx).2.idle = state.idle := by
        unfold State.pollWaiter
        repeat' split
        all_goals rfl
      rw [polled] at kept
      exact .inl ⟨inner.idle, list, kept.trans same, listed, member⟩
  · next idle =>
      simp only [State.pollIdle, present] at polled
      cases taken : inner.takeIdle state.isOpen state.canShare state.now checkout.key with
      | mk first rest =>
          rw [taken] at polled
          rcases PoolInner.takeIdle_entry taken listed member with
            ⟨later, kept, inside⟩ | rfl | ⟨rfl, useless, front, skipped, split, before⟩
          · have after : next.idle = some rest.idle := by
              cases first with
              | some other =>
                  cases polled
                  rfl
              | none =>
                  cases polled
                  rfl
            exact .inl ⟨rest.idle, later, after, kept, inside⟩
          · cases polled
            exact .inr (.inl (State.reuse_held _ id checkout.key entry.value))
          · have looked : state.Examines (.poll id outcome) entry.value (some entry.idleAt) :=
              .popped found idle present (split ▸ listed) before
            rcases useless with shut | late
            · exact .inr (.inr (.closed looked shut))
            · exact .inr (.inr (.expired present looked late))

/-- A connection that is idle before a step is kept, or the step has a reason to part with it.
-/
theorem Step.idle_kept {state next : State K} {event : Event K} {inner : PoolInner K} {key : K}
    {list : List Idle} {entry : Idle} (step : Step state event next)
    (balanced : state.Holds PoolInner.Balanced) (still : next.inner.isSome = true)
    (present : state.inner = some inner) (listed : inner.idle.peek key = some list)
    (member : entry ∈ list)
    : next.Keeps key entry.value ∨ state.Dismisses event entry.value := by
  have stays {idle : LruCache K (List Idle)} {later : List Idle} (after : next.idle = some idle)
      (found : idle.peek key = some later) (inside : entry ∈ later)
      : next.Keeps key entry.value := by
    obtain ⟨changed, there, rfl⟩ := Option.map_eq_some_iff.mp after
    exact .idle there found inside rfl
  cases made : state.putBy event with
  | some call =>
      have after := step.idle_of_put present made
      rcases (balanced inner present).idle_put call state.now state.chans listed member with
        ⟨later, found, inside⟩ | ⟨keeps, new, ⟨limit, limited, full⟩, oldest⟩
      · exact .inl (stays after found inside)
      · exact .inr (.evicted present made keeps new limited full oldest member rfl)
  | none =>
      by_cases sweeps : event = .clearExpired
      · subst sweeps
        obtain ⟨before, there, _, rfl⟩ := step
        cases present.symm.trans there
        rcases PoolInner.clearExpired_entry state.isOpen state.now listed member with
          ⟨later, found, inside⟩ | shut | late
        · exact .inl (stays rfl found inside)
        · exact .inr (.closed (.swept present listed member) shut)
        · exact .inr (.expired present (.swept present listed member) late)
      · by_cases looks : ∃ id outcome, event = .poll id outcome
        · obtain ⟨id, outcome, rfl⟩ := looks
          rcases step.idle_polled present listed member with
            ⟨idle, later, after, found, inside⟩ | ⟨other, pooled, found, same⟩ | dismissed
          · exact .inl (stays after found inside)
          · exact .inl (.held found same)
          · exact .inr dismissed
        · have after := step.idle_of_quiet made still
            (fun id outcome here => looks ⟨id, outcome, here⟩) sweeps
          rw [State.idle, State.idle, present, Option.map_some] at after
          exact .inl (stays after listed member)

-----------------------------------------------------------------------------------------
-- Channels and handles
-----------------------------------------------------------------------------------------

/-- A connection that was sent before a step is kept, or the step has a reason to part with it;
but the receiver must not close.
-/
theorem Step.sent_kept {state next : State K} {event : Event K} {id : Nat}
    {checkout : Checkout K} {rx : ChanId} {chan : Chan K} {key : K} {value : ConnId}
    (step : Step state event next) (unshared : state.Unshared) (queued : state.Queued)
    (spared : state.forfeits value event = false)
    (found : state.checkouts.get? id = some checkout) (waits : checkout.waiter = some rx)
    (channel : state.chans.get? rx = some chan) (carried : chan.value = some value)
    : next.Keeps key value ∨ state.Dismisses event value := by
  have carries : state.Carries rx value := ⟨chan, channel, carried⟩
  by_cases about : event.checkout? = some id
  · cases event with
    | poll own outcome =>
        cases about
        obtain ⟨same, here, _, polled⟩ := step
        cases found.symm.trans here
        simp only [State.poll, waits, State.pollWaiter, channel, carried] at polled
        split at polled
        · cases polled
          obtain ⟨other, pooled, there, same⟩ := State.reuse_held
            { state with
              chans := state.chans.set rx { chan with receiver := .closed, value := none } }
            id checkout.key value
          exact .inl (.held there same)
        · next shut =>
            exact .inr (.closed (.received found waits channel carried) (by simpa using shut))
    | beginDrop own =>
        cases about
        obtain ⟨same, here, _, rfl⟩ := step
        cases found.symm.trans here
        obtain ⟨later, there, kept⟩ := carries.beginDrop id checkout
        have waiting : (state.beginDrop id checkout).checkouts.get? id
            = some { checkout with dropping := true } := by
          simp only [State.beginDrop, waits]
          rw [Table.get?_set_self found]
        exact .inl (.sent waiting waits there kept)
    | closeReceiver own =>
        cases about
        simp [State.forfeits, found, waits, channel, carried] at spared
    | endDrop own =>
        cases about
        obtain ⟨same, here, _, gone, _⟩ := step
        cases found.symm.trans here
        rw [waits] at gone
        cases gone
    | _ => cases about
  · have kept := step.checkout_kept about (Table.lt_size found)
    obtain ⟨later, there, still⟩ := step.carries queued carries
      (fun other second elsewhere here waiter =>
        about (elsewhere.trans (congrArg some (unshared other id second checkout rx here found
          waiter waits))))
    exact .inl (.sent (kept.trans found) waits there still)

/-- A connection that is open and returns to its pool is kept, unless nobody waits for it and the
list of its key is full.
-/
theorem Step.returned_kept {state next : State K} {closing : ChanId → Bool} {id : Nat}
    {pooled : Pooled K} (step : Step state (.dropPooled closing id) next)
    (queued : state.Queued) (found : state.pooleds.get? id = some pooled)
    (pool : pooled.pool = true) (still : next.inner.isSome = true)
    (unique : state.canShare pooled.value = false) (opened : state.isOpen pooled.value = true)
    : next.Keeps pooled.key pooled.value
      ∨ state.Dismisses (.dropPooled closing id) pooled.value := by
  obtain ⟨same, here, rfl⟩ := step
  cases found.symm.trans here
  obtain ⟨inner, present⟩ := Option.isSome_iff_exists.mp
    ((state.dropPooled_isSome closing id pooled).symm.trans still)
  let call : PutCall K := ⟨closing, state.canShare pooled.value, pooled.key, pooled.value⟩
  have made : state.putBy (.dropPooled closing id) = some call := by
    simp [State.putBy, found, opened, pool, call]
  have stored : state.dropPooled closing id pooled
      = ({ state with pooleds := state.pooleds.free id } : State K).put closing pooled.key
          pooled.value := by
    simp [State.dropPooled, opened, pool]
  rw [stored]
  unfold State.put
  simp only [present]
  rcases (queued inner present).put_stored call unique state.now state.chans with
    ⟨list, entry, listed, member, same⟩
      | ⟨queue, tx, chan, later, waiting, member, channel, alive, there, carried⟩
      | ⟨unwanted, full⟩
  · exact .inl (.idle rfl listed member same)
  · obtain ⟨_, channelHere, _, _, _, awaited⟩ :=
      (queued inner present pooled.key queue waiting).2 tx member
    cases channel.symm.trans channelHere
    obtain ⟨other, checkout, foundOther, waits⟩ := awaited alive
    exact .inl (.sent foundOther waits there carried)
  · exact .inr (.full present made rfl unwanted full)

/-- A connection that has a handle before a step is kept, or the step has a reason to part with
it.
-/
theorem Step.held_kept {state next : State K} {event : Event K} {id : Nat} {pooled : Pooled K}
    (step : Step state event next) (queued : state.Queued) (refer : state.AllRefer)
    (still : next.inner.isSome = true) (unique : state.canShare pooled.value = false)
    (found : state.pooleds.get? id = some pooled)
    : next.Keeps pooled.key pooled.value ∨ state.Dismisses event pooled.value := by
  rcases step.pooleds_cases with same | ⟨made, alloc, _⟩ | ⟨closing, other, rfl, freed⟩
  · exact .inl (.held (by rw [same, found]) rfl)
  · have older : id ≠ state.pooleds.size := Nat.ne_of_lt (Table.lt_size found)
    exact .inl (.held (by rw [alloc, Table.get?_alloc, if_neg older, found]) rfl)
  · by_cases same : id = other
    · subst same
      cases opened : state.isOpen pooled.value with
      | false => exact .inr (.closed (.returned found) opened)
      | true =>
          have before : state.inner.isSome = true := by
            by_contra gone
            have stays := State.idle_none_of_step step (Option.not_isSome_iff_eq_none.mp gone)
            rw [stays] at still
            cases still
          exact step.returned_kept queued found (refer id pooled found unique before) still
            unique opened
    · exact .inl (.held (by rw [freed, Table.get?_free, if_neg same, found]) rfl)

/-- A step keeps a connection that is not shared, unless it closes the receiver to which that was
sent or has a reason to part with it.
-/
theorem Step.keeps {state next : State K} {event : Event K} {key : K} {value : ConnId}
    (step : Step state event next) (keyed : state.Keyed) (queued : state.Queued)
    (unshared : state.Unshared) (refer : state.AllRefer)
    (balanced : state.Holds PoolInner.Balanced) (still : next.inner.isSome = true)
    (opened : openedFor state.conns value = some key) (unique : state.canShare value = false)
    (spared : state.forfeits value event = false) (kept : state.Keeps key value)
    : next.Keeps key value ∨ state.Dismisses event value := by
  cases kept with
  | idle present listed member same =>
      subst same
      exact step.idle_kept balanced still present listed member
  | sent found waits channel carried =>
      exact step.sent_kept unshared queued spared found waits channel carried
  | @held id pooled found same =>
      subst same
      cases opened.symm.trans (keyed.pooleds id pooled found)
      exact step.held_kept queued refer still unique found

end Tlsurl.Pool
