import Tlsurl.Pool.Keys
import Tlsurl.Pool.Queues

/-! Checkouts that wait are served.
A waiting channel either carries a connection already or stays in the queue of its key, until
its own checkout is polled or dropped or a `Connecting` of the key goes away unused.
-/

namespace Tlsurl.Pool

open Library

variable {K : Type} [DecidableEq K]

/-- The receiver of a channel is there, and a connection is sent or its sender waits in the queue
of the key.
-/
def PoolInner.Serves (inner : PoolInner K) (chans : Table (Chan K)) (rx : ChanId) : Prop :=
  ∃ chan, chans.get? rx = some chan ∧ chan.receiver = .alive
    ∧ (chan.value.isSome = true
      ∨ (chan.sender = true ∧ ∃ queue, inner.waiters.lookup chan.key = some queue ∧ rx ∈ queue))

-----------------------------------------------------------------------------------------
-- Channels
-----------------------------------------------------------------------------------------

section Channels

variable {K : Type} {chans : Table (Chan K)} {rx tx : ChanId} {chan : Chan K}

theorem isClosed_of_alive (found : chans.get? rx = some chan) (alive : chan.receiver = .alive)
    : isClosed chans rx = false := by
  simp [isClosed, found, alive]

/-- Sending to an open receiver succeeds. -/
theorem send_alive {closing : ChanId → Bool} {value : ConnId}
    (found : chans.get? rx = some chan) (alive : chan.receiver = .alive)
    : send closing chans rx value
      = (true, chans.set rx { chan with value := some value, sender := false }) := by
  simp [send, found, alive]

/-- Sending elsewhere leaves a channel alone. -/
theorem get?_send_of_ne (closing : ChanId → Bool) (value : ConnId)
    (found : chans.get? rx = some chan) (different : rx ≠ tx)
    : (send closing chans tx value).2.get? rx = some chan := by
  unfold send
  split
  · exact found
  · split
    · exact (Table.get?_set_ne different _).trans found
    · exact (Table.get?_set_ne different _).trans found

/-- Delivery leaves an open channel alone, which then stays in the queue, or sends to it, by
induction on the queue.
-/
theorem deliver_alive {closing : ChanId → Bool} {shared : Bool} {value : ConnId}
    {queue rest : List ChanId} {kept : Option ConnId} {after : Table (Chan K)}
    (found : chans.get? rx = some chan) (alive : chan.receiver = .alive)
    (given : deliver closing shared value queue chans = (rest, kept, after))
    : ∃ later, after.get? rx = some later ∧ later.receiver = .alive ∧ later.key = chan.key
        ∧ (later.value = some value ∨ (later = chan ∧ (rx ∈ queue → rx ∈ rest))) := by
  induction queue generalizing chans chan with
  | nil =>
      cases given
      exact ⟨chan, found, alive, rfl, .inr ⟨rfl, id⟩⟩
  | cons tx waiters ih =>
      have skipped (different : rx ≠ tx) {before : Table (Chan K)}
          (same : before.get? rx = some chan)
          (given : deliver closing shared value waiters before = (rest, kept, after))
          : ∃ later, after.get? rx = some later ∧ later.receiver = .alive
              ∧ later.key = chan.key
              ∧ (later.value = some value ∨ (later = chan ∧ (rx ∈ tx :: waiters → rx ∈ rest))) := by
        obtain ⟨later, foundLater, aliveLater, key, sent⟩ := ih same alive given
        refine ⟨later, foundLater, aliveLater, key, sent.imp id (fun untouched => ?_)⟩
        refine ⟨untouched.1, fun member => untouched.2 ?_⟩
        exact (List.mem_cons.mp member).resolve_left different
      by_cases same : rx = tx
      · subst same
        simp only [deliver, isClosed_of_alive found alive, Bool.false_eq_true, ↓reduceIte,
          send_alive found alive] at given
        have served
            : (chans.set rx { chan with value := some value, sender := false }).get? rx
              = some { chan with value := some value, sender := false } := by
          rw [Table.get?_set_self found]
        split at given
        · obtain ⟨later, foundLater, aliveLater, key, sent⟩ := ih served alive given
          refine ⟨later, foundLater, aliveLater, key, .inl ?_⟩
          rcases sent with sent | ⟨rfl, _⟩
          · exact sent
          · rfl
        · cases given
          exact ⟨_, served, alive, rfl, .inl rfl⟩
      · have elsewhere := get?_send_of_ne closing value found same
        simp only [deliver] at given
        split at given
        · exact skipped same found given
        · split at given
          · next before sent =>
              rw [sent] at elsewhere
              split at given
              · exact skipped same elsewhere given
              · cases given
                refine ⟨chan, elsewhere, alive, rfl, .inr ⟨rfl, fun member => ?_⟩⟩
                exact (List.mem_cons.mp member).resolve_left same
          · next before sent =>
              rw [sent] at elsewhere
              exact skipped same elsewhere given

/-- Dropping senders leaves all of a channel but its sender, and the sender if it is not among
them, by induction on the queue.
-/
theorem get?_dropSenders (found : chans.get? rx = some chan) (queue : List ChanId)
    : ∃ sender, (dropSenders chans queue).get? rx = some { chan with sender }
        ∧ (rx ∉ queue → sender = chan.sender) := by
  induction queue generalizing chans chan with
  | nil => exact ⟨chan.sender, found, fun _ => rfl⟩
  | cons tx queue ih =>
      by_cases same : rx = tx
      · subst same
        have dropped : (dropSender chans rx).get? rx = some { chan with sender := false } := by
          simp only [dropSender, found]
          rw [Table.get?_set_self found]
        obtain ⟨sender, foundLater, _⟩ := ih dropped
        exact ⟨sender, foundLater, fun absent => absurd List.mem_cons_self absent⟩
      · have before : (dropSender chans tx).get? rx = some chan := by
          unfold dropSender
          split
          · exact found
          · exact (Table.get?_set_ne same _).trans found
        obtain ⟨sender, foundLater, kept⟩ := ih before
        exact ⟨sender, foundLater, fun absent => kept (fun member => absent (.tail tx member))⟩

end Channels

-----------------------------------------------------------------------------------------
-- The operations under the lock
-----------------------------------------------------------------------------------------

namespace PoolInner

variable {inner after : PoolInner K} {chans : Table (Chan K)} {rx : ChanId}

/-- A channel is served as long as the queues are. -/
theorem Serves.mono (serves : inner.Serves chans rx)
    (queues
      : ∀ key queue, inner.waiters.lookup key = some queue → rx ∈ queue
        → ∃ later, after.waiters.lookup key = some later ∧ rx ∈ later)
    : after.Serves chans rx := by
  obtain ⟨chan, found, alive, served⟩ := serves
  refine ⟨chan, found, alive, served.imp id ?_⟩
  rintro ⟨sender, queue, waiting, member⟩
  exact ⟨sender, queues chan.key queue waiting member⟩

/-- A channel is served as long as it is left alone. -/
theorem Serves.withChans (serves : inner.Serves chans rx) {later : Table (Chan K)}
    (same : ∀ chan, chans.get? rx = some chan → later.get? rx = some chan)
    : inner.Serves later rx := by
  obtain ⟨chan, found, alive, served⟩ := serves
  exact ⟨chan, same chan found, alive, served⟩

theorem Serves.pushIdle (serves : inner.Serves chans rx) (now : Time) (key : K) (value : ConnId)
    : (inner.pushIdle now key value).Serves chans rx := by
  obtain ⟨idle, idleIntervalRef, pushed⟩ := inner.pushIdle_eq now key value
  rw [pushed]
  exact serves.mono (fun key queue waiting member => ⟨queue, waiting, member⟩)

/-- A connection put into the pool is sent to a waiting channel, or the channel waits on. -/
theorem Serves.put (serves : inner.Serves chans rx) {closing : ChanId → Bool} {shared : Bool}
    {now : Time} {sent : Table (Chan K)} {key : K} {value : ConnId}
    (keyed : ∀ key queue tx, inner.waiters.lookup key = some queue → tx ∈ queue
      → askedFor chans tx = some key)
    (stored : inner.put closing shared now chans key value = (after, sent))
    : after.Serves sent rx := by
  obtain ⟨chan, found, alive, served⟩ := serves
  -- Who waits in the queue of another key is not sent anything.
  have stays {waiters : AssocMap K (List ChanId)} {rest queue : List ChanId}
      {kept : Option ConnId}
      (given : deliver closing shared value queue chans = (rest, kept, sent))
      (others : ∀ other, other ≠ key → waiters.lookup other = inner.waiters.lookup other)
      (here : chan.key = key → (∀ old, inner.waiters.lookup key = some old → rx ∈ old
        → rx ∈ queue ∧ (rx ∈ rest → ∃ later, waiters.lookup key = some later ∧ rx ∈ later)))
      : ({ inner with waiters } : PoolInner K).Serves sent rx := by
    obtain ⟨later, foundLater, aliveLater, same, given⟩ := deliver_alive found alive given
    refine ⟨later, foundLater, aliveLater, ?_⟩
    rcases given with given | ⟨rfl, stayed⟩
    · exact .inl (by simp [given])
    · refine served.imp id ?_
      rintro ⟨sender, queue, waiting, member⟩
      refine ⟨sender, ?_⟩
      by_cases same : later.key = key
      · rw [same] at waiting ⊢
        obtain ⟨queued, lasts⟩ := here same queue waiting member
        exact lasts (stayed queued)
      · exact ⟨queue, (others _ same).trans waiting, member⟩
  rcases put_cases stored with
    ⟨rfl, rfl⟩ | ⟨waiters, lookup, given, rfl⟩ | ⟨_, queue, rest, waiting, _, given, rfl⟩
  · exact ⟨chan, found, alive, served⟩
  · refine Serves.pushIdle
      (stays given (fun other different => ?_) (fun _ old waiting member => ?_)) now key value
    · rw [lookup, if_neg different]
    · refine ⟨by simpa [waiting] using member, fun none => ?_⟩
      cases none
  · refine stays given (fun other different => ?_) (fun _ old before member => ?_)
    · rw [AssocMap.lookup_assign, if_neg different]
    · rw [waiting] at before
      cases before
      refine ⟨member, fun left => ⟨rest, ?_, left⟩⟩
      rw [AssocMap.lookup_assign, if_pos rfl, if_neg]
      simpa using List.ne_nil_of_mem left

/-- A shared connection put into a balanced pool leaves nobody waiting for its key. -/
theorem Balanced.put_shared (balanced : inner.Balanced) {closing : ChanId → Bool} {now : Time}
    {sent : Table (Chan K)} {key : K} {value : ConnId}
    (stored : inner.put closing true now chans key value = (after, sent))
    : after.waiters.lookup key = none := by
  have pushed (inner : PoolInner K) (none : inner.waiters.lookup key = none)
      : (inner.pushIdle now key value).waiters.lookup key = .none := by
    obtain ⟨idle, idleIntervalRef, pushed⟩ := inner.pushIdle_eq now key value
    rw [pushed]
    exact none
  unfold PoolInner.put at stored
  split at stored
  · next present =>
      cases stored
      simp only [Bool.true_and, Option.isSome_iff_exists] at present
      obtain ⟨list, idle⟩ := present
      exact balanced.idleAlone key list idle
  · split at stored
    · next absent =>
        cases stored
        exact pushed inner absent
    · next queue waiting =>
        cases given : deliver closing true value queue chans with
        | mk rest result =>
            obtain ⟨kept, chans⟩ := result
            rw [given] at stored
            rcases deliver_cases given with ⟨rfl, rfl⟩ | ⟨unshared, _⟩
            · cases stored
              refine pushed _ ?_
              rw [AssocMap.lookup_assign, if_pos rfl]
              rfl
            · cases unshared

/-- Clearing a queue spares who does not wait in it. -/
theorem Serves.connected (serves : inner.Serves chans rx) {key : K}
    (spared : ∀ queue, inner.waiters.lookup key = some queue → rx ∉ queue)
    : (inner.connected chans key).1.Serves (inner.connected chans key).2 rx := by
  obtain ⟨chan, found, alive, served⟩ := serves
  have outside : rx ∉ (inner.waiters.lookup key).getD [] := by
    cases waiting : inner.waiters.lookup key with
    | none => simp
    | some queue => exact spared queue waiting
  obtain ⟨sender, foundLater, kept⟩ :=
    get?_dropSenders found ((inner.waiters.lookup key).getD [])
  rw [kept outside] at foundLater
  refine ⟨chan, foundLater, alive, served.imp id ?_⟩
  rintro ⟨sender, queue, waiting, member⟩
  refine ⟨sender, queue, ?_, member⟩
  have other : chan.key ≠ key := fun same => spared queue (same ▸ waiting) member
  exact (AList.lookup_erase_ne other).trans waiting

/-- An open receiver is not cleaned away. -/
theorem Serves.cleanWaiters (serves : inner.Serves chans rx) (key : K)
    : (inner.cleanWaiters chans key).Serves chans rx := by
  obtain ⟨chan, found, alive, served⟩ := serves
  refine Serves.mono ⟨chan, found, alive, served⟩ (fun other queue waiting member => ?_)
  unfold PoolInner.cleanWaiters
  split
  · exact ⟨queue, waiting, member⟩
  · next old before =>
      by_cases same : other = key
      · subst same
        rw [before] at waiting
        cases waiting
        have left : rx ∈ queue.filter (fun tx => !isClosed chans tx) := by
          simp [member, isClosed_of_alive found alive]
        refine ⟨_, ?_, left⟩
        rw [AssocMap.lookup_assign, if_pos rfl, if_neg]
        simpa using List.ne_nil_of_mem left
      · refine ⟨queue, ?_, member⟩
        rw [AssocMap.lookup_assign, if_neg same]
        exact waiting

/-- A queue that grows keeps who waits in it. -/
theorem Serves.pushWaiter (serves : inner.Serves chans rx) (key : K) (tx : ChanId)
    : (inner.pushWaiter key tx).Serves chans rx := by
  refine serves.mono (fun other queue waiting member => ?_)
  by_cases same : other = key
  · subst same
    refine ⟨queue ++ [tx], ?_, List.mem_append_left _ member⟩
    simp [PoolInner.pushWaiter, AList.lookup_insert, waiting]
  · exact ⟨queue, by simpa [PoolInner.pushWaiter, AList.lookup_insert_ne same] using waiting,
      member⟩

/-- A new channel waits in the queue of its key. -/
theorem serves_new (inner : PoolInner K) (chans : Table (Chan K)) (key : K)
    : (inner.pushWaiter key chans.size).Serves (chans.alloc { key }) chans.size := by
  refine ⟨{ key }, by rw [Table.get?_alloc, if_pos rfl], rfl, .inr ⟨rfl, ?_⟩⟩
  exact ⟨(inner.waiters.lookup key).getD [] ++ [chans.size],
    by simp [PoolInner.pushWaiter, AList.lookup_insert], by simp⟩

end PoolInner

-----------------------------------------------------------------------------------------
-- The system
-----------------------------------------------------------------------------------------

/-- A channel is served, in a pool that is there. -/
def State.Served (state : State K) (rx : ChanId) : Prop :=
  ∃ inner, state.inner = some inner ∧ inner.Serves state.chans rx

/-- An event leaves a waiting channel served: it is not about its checkout, and no `Connecting`
that holds the lock of its key goes away unused.
-/
def State.spares (state : State K) (rx : ChanId) : Event K → Prop
  | .alpnH2 token => ∀ held, state.connectings.get? token = some held → held.pool = false
  | .dropConnecting token =>
      ∀ held inner queue, state.connectings.get? token = some held → held.pool = true
        → state.inner = some inner → inner.waiters.lookup held.key = some queue → rx ∉ queue
  | .pooled _ token http2 _ _ =>
      ∀ held, state.connectings.get? token = some held → held.pool = true → http2 = true
  | .poll id _ =>
      ∀ checkout, state.checkouts.get? id = some checkout → checkout.waiter ≠ some rx
  | .beginDrop id =>
      ∀ checkout, state.checkouts.get? id = some checkout → checkout.waiter ≠ some rx
  | .closeReceiver id =>
      ∀ checkout, state.checkouts.get? id = some checkout → checkout.waiter ≠ some rx
  | .dropPool => False
  | _ => True

namespace State

variable {state : State K} {rx : ChanId}

theorem put_inner {inner : PoolInner K} (present : state.inner = some inner)
    (closing : ChanId → Bool) (key : K) (value : ConnId)
    : (state.put closing key value).inner
      = some (inner.put closing (state.canShare value) state.now state.chans key value).1 := by
  simp only [State.put, present]

theorem Served.put (served : state.Served rx) (keyed : state.Keyed) (closing : ChanId → Bool)
    (key : K) (value : ConnId)
    : (state.put closing key value).Served rx := by
  obtain ⟨inner, present, serves⟩ := served
  simp only [State.put, present]
  exact ⟨_, rfl, serves.put (keyed.inner inner present).waiters
    (Prod.mk.eta (p := inner.put closing (state.canShare value) state.now state.chans key
      value)).symm⟩

theorem Served.connected (served : state.Served rx) (key : K) (token : Nat)
    (spared
      : ∀ inner queue, state.inner = some inner → inner.waiters.lookup key = some queue
        → rx ∉ queue)
    : (state.connected key token).Served rx := by
  obtain ⟨inner, present, serves⟩ := served
  simp only [State.connected, present]
  exact ⟨_, rfl, serves.connected (fun queue => spared inner queue present)⟩

theorem Served.connecting (served : state.Served rx) (key : K) (ver : Ver)
    : (state.connecting key ver).Served rx := by
  obtain ⟨inner, present, serves⟩ := served
  unfold State.connecting
  split
  · next same =>
      rw [present] at same
      cases same
      split
      · exact ⟨inner, present, serves⟩
      · exact ⟨_, rfl, serves.mono (fun _ queue waiting member => ⟨queue, waiting, member⟩)⟩
  · exact ⟨inner, present, serves⟩

theorem Served.dropConnecting (served : state.Served rx) {token : Nat}
    (spared
      : ∀ held inner queue, state.connectings.get? token = some held → held.pool = true
        → state.inner = some inner → inner.waiters.lookup held.key = some queue → rx ∉ queue)
    : (state.dropConnecting token).Served rx := by
  have freed : ({ state with connectings := state.connectings.free token }
      : State K).Served rx := served
  rcases state.dropConnecting_cases token with same | ⟨held, found, ⟨locks, same⟩ | same⟩
  · rwa [same]
  · rw [same]
    exact freed.connected held.key token (fun inner queue => spared held inner queue found locks)
  · rwa [same]

/-- A `Connecting` stays what it is when another is given out. -/
theorem connecting_kept {token : Nat} {held : Connecting K}
    (found : state.connectings.get? token = some held) (key : K) (ver : Ver)
    : (state.connecting key ver).connectings.get? token = some held := by
  have older (fresh : Connecting K)
      : (state.connectings.alloc fresh).get? token = some held := by
    rw [Table.get?_alloc, if_neg (Nat.ne_of_lt (Table.lt_size found)), found]
  unfold State.connecting
  split
  · split
    · exact found
    · exact older _
  · exact older _

theorem Served.alpnH2 (served : state.Served rx) {token : Nat}
    (free : ∀ held, state.connectings.get? token = some held → held.pool = false)
    : (state.alpnH2 token).Served rx := by
  unfold State.alpnH2
  split
  · exact served
  · next held found =>
      let noted : State K := { state with calls := state.calls ++ [.asserted !held.pool] }
      have still : noted.Served rx := served
      have there : noted.connectings.get? token = some held := found
      refine (still.connecting held.key .http2).dropConnecting
        (fun other inner queue foundLater locks => ?_)
      rw [connecting_kept there] at foundLater
      cases foundLater
      rw [free held found] at locks
      cases locks

/-- A new HTTP/2 connection is sent to all who wait before its `Connecting` goes. -/
theorem Served.pooled (served : state.Served rx) (keyed : state.Keyed)
    (balanced : state.Holds PoolInner.Balanced) {token : Nat} {http2 : Bool}
    (sends
      : ∀ held, state.connectings.get? token = some held → held.pool = true → http2 = true)
    (closing : ChanId → Bool) (ready poisoned : Bool)
    : (state.pooled closing token http2 ready poisoned).Served rx := by
  obtain ⟨inner, present, serves⟩ := served
  unfold State.pooled
  split
  · exact ⟨inner, present, serves⟩
  · next held found =>
      let conn : Conn K := { key := held.key, http2, ready, poisoned }
      have grown := keyed.grow (Grown.alloc state.conns conn)
      simp only
      split
      · next absent =>
          rw [present] at absent
          cases absent
      · split
        · next shared =>
            subst shared
            let opened : State K := { state with conns := state.conns.alloc conn }
            have there : opened.inner = some inner := present
            have stored := Served.put ⟨inner, there, serves⟩ grown closing held.key
              state.conns.size
            have shares : opened.canShare state.conns.size = true := by
              simp [State.canShare, Table.get?_alloc, conn, opened]
            refine stored.connected held.key token
              (fun after queue presentAfter waiting => ?_)
            rw [put_inner there, shares] at presentAfter
            cases presentAfter
            have none := (balanced inner present).put_shared
              (Prod.mk.eta (p := inner.put closing true state.now state.chans held.key
                state.conns.size)).symm
            rw [waiting] at none
            cases none
        · next unshared =>
            let added : State K :=
              { state with
                conns := state.conns.alloc conn
                pooleds := state.pooleds.alloc
                  { value := state.conns.size, isReused := false, key := held.key, pool := true } }
            have before : added.Served rx := ⟨inner, present, serves⟩
            exact before.dropConnecting (fun other _ _ foundLater locks =>
              absurd (sends other foundLater locks) unshared)

/-- What happens to another checkout leaves a channel alone. -/
theorem Served.setChan (served : state.Served rx) {tx : ChanId} (different : rx ≠ tx)
    (chan : Chan K)
    : ({ state with chans := state.chans.set tx chan } : State K).Served rx := by
  obtain ⟨inner, present, serves⟩ := served
  refine ⟨inner, present, serves.withChans (fun _ found => ?_)⟩
  exact (Table.get?_set_ne different _).trans found

theorem Served.pollWaiter (served : state.Served rx) {tx : ChanId} (different : rx ≠ tx)
    (id : Nat) (key : K)
    : (state.pollWaiter id key tx).2.Served rx := by
  unfold State.pollWaiter
  split
  · exact served
  · split
    · simp only
      split
      · exact served.setChan different _
      · exact served.setChan different _
    · split
      · exact served
      · exact served

theorem Served.pollIdle (served : state.Served rx) (id : Nat) (key : K)
    : (state.pollIdle id key).2.Served rx := by
  obtain ⟨inner, present, serves⟩ := served
  simp only [State.pollIdle, present]
  split
  · next entry rest taken =>
      obtain ⟨idle, rfl⟩ := PoolInner.takeIdle_eq taken
      exact ⟨_, rfl, serves.mono (fun _ queue waiting member => ⟨queue, waiting, member⟩)⟩
  · next rest taken =>
      obtain ⟨idle, rfl⟩ := PoolInner.takeIdle_eq taken
      have kept : ({ inner with idle } : PoolInner K).Serves state.chans rx :=
        serves.mono (fun _ queue waiting member => ⟨queue, waiting, member⟩)
      refine ⟨_, rfl, (kept.pushWaiter key state.chans.size).withChans (fun chan found => ?_)⟩
      rw [Table.get?_alloc, if_neg (Nat.ne_of_lt (Table.lt_size found)), found]

end State

/-- An event that spares a served channel leaves it served. -/
theorem Step.served {state next : State K} {event : Event K} {rx : ChanId}
    (step : Step state event next) (keyed : state.Keyed)
    (balanced : state.Holds PoolInner.Balanced) (served : state.Served rx)
    (spared : state.spares rx event)
    : next.Served rx := by
  cases event with
  | connecting key ver =>
      obtain ⟨_, rfl⟩ := step
      exact served.connecting key ver
  | alpnH2 token =>
      obtain ⟨_, rfl⟩ := step
      exact served.alpnH2 spared
  | dropConnecting token =>
      obtain rfl := step
      exact served.dropConnecting spared
  | pooled closing token http2 ready poisoned =>
      obtain ⟨_, rfl⟩ := step
      exact served.pooled keyed balanced spared closing ready poisoned
  | checkout key =>
      obtain ⟨_, rfl⟩ := step
      exact served
  | poll id outcome =>
      obtain ⟨checkout, found, _, polled⟩ := step
      have other := spared checkout found
      unfold State.poll at polled
      split at polled
      · next tx waiter =>
          have after := served.pollWaiter (fun same => other (same ▸ waiter)) id checkout.key
          rwa [polled] at after
      · have after := served.pollIdle id checkout.key
        rwa [polled] at after
  | beginDrop id =>
      obtain ⟨checkout, found, _, rfl⟩ := step
      have other := spared checkout found
      unfold State.beginDrop
      split
      · exact served
      · next tx waiter =>
          have different : rx ≠ tx := fun same => other (same ▸ waiter)
          split
          · exact served
          · split
            · exact served.setChan different _
            · exact served
  | closeReceiver id =>
      obtain ⟨checkout, tx, found, _, waiter, rfl⟩ := step
      have different : rx ≠ tx := fun same => spared checkout found (same ▸ waiter)
      unfold State.closeReceiver
      split
      · exact served
      · exact served.setChan different _
  | endDrop id =>
      obtain ⟨checkout, _, _, _, rfl⟩ := step
      obtain ⟨inner, present, serves⟩ := served
      exact ⟨_, by simp [State.endDrop, present], serves.cleanWaiters checkout.key⟩
  | dropPooled closing id =>
      obtain ⟨pooled, _, rfl⟩ := step
      have freed := keyed.freePooled id
      have before : ({ state with pooleds := state.pooleds.free id } : State K).Served rx := served
      rcases state.dropPooled_cases closing id pooled with same | same
      · rwa [same]
      · rw [same]
        exact before.put freed closing pooled.key pooled.value
  | clearExpired =>
      obtain ⟨inner, present, _, rfl⟩ := step
      obtain ⟨same, presentHere, serves⟩ := served
      rw [present] at presentHere
      cases presentHere
      exact ⟨_, rfl, serves.mono (fun _ queue waiting member => ⟨queue, waiting, member⟩)⟩
  | setReady value ready =>
      obtain ⟨conn, _, rfl⟩ := step
      exact served
  | poison value =>
      obtain ⟨conn, _, rfl⟩ := step
      exact served
  | tick elapsed =>
      obtain rfl := step
      exact served
  | dropPool => exact spared.elim

end Tlsurl.Pool
