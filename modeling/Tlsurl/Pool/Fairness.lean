import Tlsurl.Library.Queue
import Tlsurl.Pool.Waiting

/-! The order in which waiting checkouts are served.
Whoever waits for a key is overtaken by nobody: every exclusive connection of the key that comes
back in the meantime goes to somebody who was in the queue before.
-/

namespace Tlsurl.Pool

open Library

variable {K : Type} [DecidableEq K]

-----------------------------------------------------------------------------------------
-- Queues
-----------------------------------------------------------------------------------------

/-- The queue of a key -/
def PoolInner.queue (inner : PoolInner K) (key : K) : List ChanId :=
  (inner.waiters.lookup key).getD []

/-- The queue of a key, which is gone with the pool -/
def State.queue (state : State K) (key : K) : List ChanId :=
  (state.inner.map (fun inner => inner.queue key)).getD []

/-- An open channel is in the queue. -/
def State.Waiting (key : K) (rx : ChanId) (state : State K) : Prop :=
  rx ∈ state.queue key
    ∧ ∃ chan, state.chans.get? rx = some chan ∧ chan.receiver = .alive

/-- Whether a handle that is dropped returns an open connection for a single use -/
def State.returns (state : State K) (key : K) (pooled : Pooled K) : Bool :=
  pooled.key = key && pooled.pool && state.isOpen pooled.value && !state.canShare pooled.value

/-- How many connections of a key an event returns -/
def State.returned (key : K) (state : State K) : Event K → Nat
  | .dropPooled _ id => if (state.pooleds.get? id).any (state.returns key) then 1 else 0
  | _ => 0

section Follows

variable {size : Nat} {key : K}

namespace PoolInner

variable {inner : PoolInner K}

theorem queue_pushIdle (now : Time) (other : K) (value : ConnId)
    : (inner.pushIdle now other value).queue key = inner.queue key := by
  obtain ⟨idle, idleIntervalRef, pushed⟩ := inner.pushIdle_eq now other value
  rw [pushed]
  rfl

theorem follows_put (closing : ChanId → Bool) (shared : Bool) (now : Time)
    (chans : Table (Chan K)) (other : K) (value : ConnId)
    : Queue.Follows (size ≤ ·) (inner.queue key)
        ((inner.put closing shared now chans other value).1.queue key) := by
  rcases put_cases (Prod.mk.eta (p := inner.put closing shared now chans other value)).symm with
    ⟨same, _⟩ | ⟨waiters, lookup, _, same⟩ | ⟨_, queue, rest, waiting, suffix, _, same⟩
  · rw [same]
    exact .refl _
  · rw [same, queue_pushIdle]
    apply Queue.Follows.of_sublist
    simp only [queue, lookup]
    split
    · exact List.nil_sublist _
    · exact List.Sublist.refl _
  · rw [same]
    apply Queue.Follows.of_sublist
    simp only [PoolInner.queue, AssocMap.lookup_assign]
    split
    · next here =>
      rw [here, waiting]
      cases rest with
      | nil => exact List.nil_sublist _
      | cons tx rest => exact suffix.sublist
    · exact List.Sublist.refl _

theorem follows_connected (chans : Table (Chan K)) (other : K)
    : Queue.Follows (size ≤ ·) (inner.queue key) ((inner.connected chans other).1.queue key) := by
  apply Queue.Follows.of_sublist
  simp only [queue, connected]
  by_cases same : key = other
  · rw [same, AList.lookup_erase]
    exact List.nil_sublist _
  · rw [AList.lookup_erase_ne same]

theorem follows_cleanWaiters (chans : Table (Chan K)) (other : K)
    : Queue.Follows (size ≤ ·) (inner.queue key) ((inner.cleanWaiters chans other).queue key) := by
  unfold cleanWaiters
  split
  · exact .refl _
  · next queue waiting =>
    apply Queue.Follows.of_sublist
    simp only [PoolInner.queue, AssocMap.lookup_assign]
    split
    · next here =>
      rw [here, waiting]
      split
      · exact List.nil_sublist _
      · exact List.filter_sublist
    · exact List.Sublist.refl _

theorem follows_pushWaiter (other : K) {tx : ChanId} (new : size ≤ tx)
    : Queue.Follows (size ≤ ·) (inner.queue key) ((inner.pushWaiter other tx).queue key) := by
  simp only [queue, pushWaiter]
  by_cases same : key = other
  · rw [same, AList.lookup_insert]
    exact .push new
  · rw [AList.lookup_insert_ne same]
    exact .refl _

end PoolInner

namespace State

variable {state : State K}

theorem queue_of_inner {inner : PoolInner K} (present : state.inner = some inner) (key : K)
    : state.queue key = inner.queue key := by
  simp [queue, present]

theorem follows_put (closing : ChanId → Bool) (other : K) (value : ConnId)
    : Queue.Follows (size ≤ ·) (state.queue key) ((state.put closing other value).queue key) := by
  unfold State.put
  split
  · exact .refl _
  · next inner present =>
    rw [queue_of_inner present]
    exact inner.follows_put closing _ _ _ other value

theorem follows_connected (other : K) (token : Nat)
    : Queue.Follows (size ≤ ·) (state.queue key) ((state.connected other token).queue key) := by
  unfold State.connected
  split
  · exact .refl _
  · next inner present =>
    rw [queue_of_inner present]
    exact inner.follows_connected state.chans other

theorem queue_connecting (other : K) (ver : Ver)
    : (state.connecting other ver).queue key = state.queue key := by
  unfold State.connecting
  split
  · next inner present =>
    split
    · rfl
    · simp [queue, present, PoolInner.queue]
  · rfl

theorem follows_dropConnecting (token : Nat)
    : Queue.Follows (size ≤ ·) (state.queue key) ((state.dropConnecting token).queue key) := by
  rcases state.dropConnecting_cases token with same | ⟨held, _, ⟨_, same⟩ | same⟩
  · rw [same]
    exact .refl _
  · rw [same]
    exact follows_connected held.key token
  · rw [same]
    exact .refl _

theorem follows_alpnH2 (token : Nat)
    : Queue.Follows (size ≤ ·) (state.queue key) ((state.alpnH2 token).queue key) := by
  unfold State.alpnH2
  split
  · exact .refl _
  · next held _ =>
    have noted (calls : List (Call K))
        : ({ state with calls } : State K).queue key = state.queue key :=
      rfl
    rw [← noted _, ← queue_connecting held.key .http2]
    exact follows_dropConnecting token

theorem follows_pooled (closing : ChanId → Bool) (token : Nat) (http2 ready poisoned : Bool)
    : Queue.Follows (size ≤ ·) (state.queue key)
        ((state.pooled closing token http2 ready poisoned).queue key) := by
  have opened (conns : Table (Conn K)) (pooleds : Table (Pooled K)) (calls : List (Call K))
      : ({ state with conns, pooleds, calls } : State K).queue key = state.queue key := rfl
  unfold State.pooled
  split
  · exact .refl _
  · next held _ =>
    simp only
    split
    · rw [← opened _ _ _]
      exact follows_dropConnecting token
    · split
      · rw [← opened _ state.pooleds state.calls]
        exact (follows_put closing held.key _).trans (follows_connected held.key token)
      · rw [← opened _ _ _]
        exact follows_dropConnecting token

theorem follows_poll (id : Nat) (checkout : Checkout K)
    : Queue.Follows (state.chans.size ≤ ·) (state.queue key)
        ((state.poll id checkout).2.queue key) := by
  unfold State.poll
  split
  · unfold State.pollWaiter State.fail
    split
    · exact .refl _
    · split
      · split <;> exact .refl _
      · split <;> exact .refl _
  · unfold State.pollIdle
    split
    · exact .refl _
    · next inner present =>
      rw [queue_of_inner present]
      split
      · next entry rest taken =>
        obtain ⟨idle, rfl⟩ := PoolInner.takeIdle_eq taken
        exact .refl _
      · next rest taken =>
        obtain ⟨idle, rfl⟩ := PoolInner.takeIdle_eq taken
        exact PoolInner.follows_pushWaiter checkout.key (Nat.le_refl _)

theorem follows_dropPooled (closing : ChanId → Bool) (id : Nat) (pooled : Pooled K)
    : Queue.Follows (size ≤ ·) (state.queue key)
        ((state.dropPooled closing id pooled).queue key) := by
  rcases state.dropPooled_cases closing id pooled with same | same
  · rw [same]
    exact .refl _
  · rw [same]
    exact follows_put closing pooled.key pooled.value

end State

/-- Each step lets members leave a queue, or one new channel line up. -/
theorem Step.follows {state next : State K} {event : Event K} (step : Step state event next)
    : Queue.Follows (state.chans.size ≤ ·) (state.queue key) (next.queue key) := by
  cases event with
  | connecting other ver =>
      obtain ⟨_, rfl⟩ := step
      rw [State.queue_connecting]
      exact .refl _
  | alpnH2 token =>
      obtain ⟨_, rfl⟩ := step
      exact State.follows_alpnH2 token
  | dropConnecting token =>
      obtain rfl := step
      exact State.follows_dropConnecting token
  | pooled closing token http2 ready poisoned =>
      obtain ⟨_, rfl⟩ := step
      exact State.follows_pooled closing token http2 ready poisoned
  | checkout other =>
      obtain ⟨_, rfl⟩ := step
      exact .refl _
  | poll id outcome =>
      obtain ⟨checkout, _, _, polled⟩ := step
      have after : Queue.Follows _ (state.queue key) _ := State.follows_poll id checkout
      rwa [polled] at after
  | beginDrop id =>
      obtain ⟨checkout, _, _, rfl⟩ := step
      unfold State.beginDrop
      split <;> exact .refl _
  | closeReceiver id =>
      obtain ⟨checkout, rx, _, _, _, rfl⟩ := step
      exact .refl _
  | endDrop id =>
      obtain ⟨checkout, _, _, _, rfl⟩ := step
      cases present : state.inner with
      | none =>
          simp only [State.queue, State.endDrop, present]
          exact .refl _
      | some inner =>
          simp only [State.queue, State.endDrop, present]
          exact inner.follows_cleanWaiters state.chans checkout.key
  | dropPooled closing id =>
      obtain ⟨pooled, _, rfl⟩ := step
      exact State.follows_dropPooled closing id pooled
  | clearExpired =>
      obtain ⟨inner, present, _, rfl⟩ := step
      rw [State.queue_of_inner present]
      exact .refl _
  | setReady value ready =>
      obtain ⟨conn, _, rfl⟩ := step
      exact .refl _
  | poison value =>
      obtain ⟨conn, _, rfl⟩ := step
      exact .refl _
  | tick elapsed =>
      obtain rfl := step
      exact .refl _
  | dropPool =>
      obtain ⟨_, _, rfl⟩ := step
      unfold State.dropPool
      split
      · exact .refl _
      · exact .of_sublist (List.nil_sublist _)

end Follows

-----------------------------------------------------------------------------------------
-- Connections that come back
-----------------------------------------------------------------------------------------

omit [DecidableEq K] in
/-- A connection that is taken leaves a shorter queue, by induction on the queue. -/
theorem deliver_shorter {closing : ChanId → Bool} {shared : Bool} {value : ConnId}
    {queue rest : List ChanId} {chans after : Table (Chan K)}
    (given : deliver closing shared value queue chans = (rest, none, after))
    : rest.length < queue.length := by
  induction queue generalizing chans with
  | nil => cases given
  | cons tx waiters ih =>
      have later {before : Table (Chan K)}
          (given : deliver closing shared value waiters before = (rest, none, after))
          : rest.length < (tx :: waiters).length :=
        Nat.lt_succ_of_lt (ih given)
      simp only [deliver] at given
      split at given
      · exact later given
      · split at given
        · split at given
          · exact later given
          · cases given
            exact Nat.lt_succ_self _
        · exact later given

variable {state next : State K} {key : K} {rx : ChanId}

/-- Who is in a queue is in one of the pool. -/
theorem State.mem_queue (there : rx ∈ state.queue key)
    : ∃ inner, state.inner = some inner ∧ inner.waiters.lookup key = some (state.queue key) := by
  cases present : state.inner with
  | none => simp [queue, present] at there
  | some inner =>
      rw [queue_of_inner present] at there ⊢
      cases waiting : inner.waiters.lookup key with
      | none => simp [PoolInner.queue, waiting] at there
      | some queue => exact ⟨inner, rfl, by simp [PoolInner.queue, waiting]⟩

/-- A connection for a single use goes to somebody ahead of who is still waiting after it. -/
theorem State.ahead_put (closing : ChanId → Bool) {value : ConnId}
    (single : state.canShare value = false) (once : (state.queue key).Nodup)
    (there : rx ∈ state.queue key) (stays : rx ∈ (state.put closing key value).queue key)
    : (Queue.ahead ((state.put closing key value).queue key) rx).length
      < (Queue.ahead (state.queue key) rx).length := by
  obtain ⟨inner, present, waiting⟩ := mem_queue there
  have stored : (state.put closing key value).queue key
      = (inner.put closing false state.now state.chans key value).1.queue key := by
    simp [queue, State.put, present, single]
  rw [stored] at stays ⊢
  simp only [PoolInner.put, Bool.false_and, Bool.false_eq_true, if_false, waiting] at stays ⊢
  cases given : deliver closing false value (state.queue key) state.chans with
  | mk rest result =>
      obtain ⟨kept, chans⟩ := result
      rw [given] at stays
      simp only at stays ⊢
      rcases deliver_cases given with ⟨rfl, rfl⟩ | ⟨_, suffix, rfl⟩
      · simp only [PoolInner.queue_pushIdle] at stays
        simp [PoolInner.queue, AssocMap.lookup_assign] at stays
      · have left : ({ inner with
            waiters := AssocMap.assign inner.waiters key
              (if rest.isEmpty then none else some rest) } : PoolInner K).queue key = rest := by
          cases rest <;> simp [PoolInner.queue, AssocMap.lookup_assign]
        simp only [left] at stays ⊢
        have ranks := Queue.length_ahead_suffix suffix once stays
        have shorter := deliver_shorter given
        omega

/-- A step lets nobody get ahead, and takes somebody from ahead with each connection that it
returns.
-/
theorem Step.ahead {event : Event K} (step : Step state event next) (queued : state.Queued)
    (before : state.Waiting key rx) (after : next.Waiting key rx)
    : (Queue.ahead (next.queue key) rx).Sublist (Queue.ahead (state.queue key) rx)
      ∧ (Queue.ahead (next.queue key) rx).length + state.returned key event
        ≤ (Queue.ahead (state.queue key) rx).length := by
  obtain ⟨there, chan, found, _⟩ := before
  obtain ⟨inner, present, waiting⟩ := State.mem_queue there
  have once : (state.queue key).Nodup := (queued inner present key _ waiting).1
  have nobody := step.follows.ahead once after.1 (Nat.not_le_of_lt (Table.lt_size found))
  refine ⟨nobody, ?_⟩
  have least : state.returned key event = 0
      → (Queue.ahead (next.queue key) rx).length + state.returned key event
        ≤ (Queue.ahead (state.queue key) rx).length := by
    intro nothing
    rw [nothing]
    exact nobody.length_le
  cases event with
  | dropPooled closing id =>
      obtain ⟨pooled, handle, rfl⟩ := step
      cases returns : state.returns key pooled with
      | false => exact least (by simp [State.returned, handle, returns])
      | true =>
          simp only [State.returns, Bool.and_eq_true, decide_eq_true_eq, Bool.not_eq_true']
            at returns
          obtain ⟨⟨⟨rfl, refers⟩, opened⟩, single⟩ := returns
          let freed : State K := { state with pooleds := state.pooleds.free id }
          have put : state.dropPooled closing id pooled
              = freed.put closing pooled.key pooled.value := by
            simp [State.dropPooled, opened, refers, freed]
          have stays := after.1
          rw [put] at stays ⊢
          have fewer
              : (Queue.ahead ((freed.put closing pooled.key pooled.value).queue pooled.key)
                  rx).length
                < (Queue.ahead (freed.queue pooled.key) rx).length :=
            State.ahead_put closing single once there stays
          have same : freed.queue pooled.key = state.queue pooled.key := rfl
          rw [same] at fewer
          have one : state.returned pooled.key (.dropPooled closing id) ≤ 1 := by
            simp only [State.returned]
            split <;> omega
          omega
  | _ => exact least rfl

/-- From a state that is reached on, as long as a checkout waits in the queue of a key nobody gets
ahead of it, and no more exclusive connections of the key have been returned than there were
others ahead of it.
-/
theorem nobody_overtakes {config : Config} {timerIsEmpty : Bool} {past : List (Event K)}
    {events : List (Event K)} {total : Nat}
    (reached : Run Step (State.new config timerIsEmpty) past state)
    (waits : state.Waiting key rx)
    (stretch
      : Run (Tallied (State.returned key) (Through (State.Waiting key rx) Step)) (state, 0) events
        (next, total))
    : (Queue.ahead (next.queue key) rx).Sublist (Queue.ahead (state.queue key) rx)
      ∧ (Queue.ahead (next.queue key) rx).length + total
        ≤ (Queue.ahead (state.queue key) rx).length := by
  have along {labels : List (Event K)} {middle : State K}
      (part : Run (Through (State.Waiting key rx) Step) state labels middle)
      : middle.Queued ∧ middle.Waiting key rx :=
    ⟨run_queued (reached.append (part.mono (fun both => both.1))), part.through_holds waits⟩
  have plain : Run (Through (State.Waiting key rx) Step) state events next := stretch.untallied
  constructor
  · apply plain.invariant
    · intro labels before event after part nobody step
      obtain ⟨queued, waiting⟩ := along part
      exact (step.1.ahead queued waiting step.2).1.trans nobody
    · exact List.Sublist.refl _
  · apply stretch.tally_le (fun state => (Queue.ahead (state.queue key) rx).length)
    intro labels before event after part step
    obtain ⟨queued, waiting⟩ := along part
    exact (step.1.ahead queued waiting step.2).2

/-- Two checkouts wait for the only connection of host 7. -/
def sampleQueue : State Nat :=
  let opened := ((State.new sampleConfig true).connecting 7 .auto).pooled (fun _ => false) 0
    false true false
  let asked := (opened.checkout 7).checkout 7
  ((asked.poll 0 { key := 7 }).2.poll 1 { key := 7 }).2

theorem sampleQueue_run
    : Run Step (State.new sampleConfig true)
        [.connecting 7 .auto, .pooled (fun _ => false) 0 false true false, .checkout 7,
          .checkout 7, .poll 0 .pending, .poll 1 .pending]
        sampleQueue := by
  apply Run.cons
  · exact ⟨rfl, rfl⟩
  apply Run.cons
  · exact ⟨rfl, rfl⟩
  apply Run.cons
  · exact ⟨rfl, rfl⟩
  apply Run.cons
  · exact ⟨rfl, rfl⟩
  apply Run.cons
  · exact ⟨_, rfl, rfl, rfl⟩
  apply Run.cons
  · exact ⟨_, rfl, rfl, rfl⟩
  exact .nil

/-- The connection is returned to the first one, and the second one moves up. -/
theorem nobody_overtakes_sample
    : ∃ next : State Nat,
      next.queue 7 = [1] ∧ Queue.ahead (sampleQueue.queue 7) 1 = [0]
        ∧ (Queue.ahead (next.queue 7) 1).length + 1
          ≤ (Queue.ahead (sampleQueue.queue 7) 1).length := by
  have stretch
      : Run (Tallied (State.returned 7) (Through (State.Waiting 7 1) Step)) (sampleQueue, 0)
          [.dropPooled (fun _ => false) 0]
          (sampleQueue.dropPooled (fun _ => false) 0
            { value := 0, isReused := false, key := 7, pool := true }, 1) :=
    .cons ⟨⟨⟨_, rfl, rfl⟩, by decide, _, rfl, rfl⟩, by decide⟩ .nil
  exact ⟨_, rfl, rfl,
    (nobody_overtakes sampleQueue_run ⟨by decide, _, rfl, rfl⟩ stretch).2⟩

end Tlsurl.Pool
