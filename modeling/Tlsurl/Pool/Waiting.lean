import Tlsurl.Pool.Served

/-! Who waits in the queues.
A channel in a queue was made for its key and carries nothing yet, and as long as its receiver is
there a checkout waits on it. So what is sent to it reaches that checkout.
-/

namespace Tlsurl.Pool

open Library

-----------------------------------------------------------------------------------------
-- Channels
-----------------------------------------------------------------------------------------

section Channels

variable {K : Type} {chans after : Table (Chan K)} {checkouts : Table (Checkout K)}
  {closing : ChanId → Bool} {shared : Bool} {value : ConnId}

/-- A checkout waits on the channel. -/
def Awaited (checkouts : Table (Checkout K)) (rx : ChanId) : Prop :=
  ∃ id checkout, checkouts.get? id = some checkout ∧ checkout.waiter = some rx

/-- The channel was made for the key, nothing was sent to it, and it is awaited unless it is
closed.
-/
def Unsent (chans : Table (Chan K)) (checkouts : Table (Checkout K)) (key : K) (tx : ChanId)
    : Prop :=
  ∃ chan, chans.get? tx = some chan ∧ chan.key = key ∧ chan.value = none ∧ chan.sender = true
    ∧ (chan.receiver ≠ .closed → Awaited checkouts tx)

/-- A channel is made for one key. -/
theorem Unsent.key_unique {key other : K} {tx : ChanId} (unsent : Unsent chans checkouts key tx)
    (again : Unsent chans checkouts other tx)
    : key = other := by
  obtain ⟨chan, found, rfl, _⟩ := unsent
  obtain ⟨same, foundAgain, rfl, _⟩ := again
  cases found.symm.trans foundAgain
  rfl

/-- A channel that is left alone stays unsent. -/
theorem Unsent.withChans {key : K} {tx : ChanId} (unsent : Unsent chans checkouts key tx)
    (same : after.get? tx = chans.get? tx)
    : Unsent after checkouts key tx := by
  unfold Unsent
  rw [same]
  exact unsent

/-- Who waits must go on waiting. -/
theorem Unsent.withCheckouts {key : K} {tx : ChanId} {later : Table (Checkout K)}
    (unsent : Unsent chans checkouts key tx) (kept : Awaited checkouts tx → Awaited later tx)
    : Unsent chans later key tx := by
  obtain ⟨chan, found, made, empty, sender, awaited⟩ := unsent
  exact ⟨chan, found, made, empty, sender, kept ∘ awaited⟩

/-- A channel with a value or without a sender is in no queue. -/
theorem Unsent.ne_of_used {key : K} {tx rx : ChanId} {chan : Chan K}
    (unsent : Unsent chans checkouts key tx) (found : chans.get? rx = some chan)
    (used : chan.value ≠ none ∨ chan.sender = false)
    : tx ≠ rx := by
  rintro rfl
  obtain ⟨same, foundHere, _, empty, sender, _⟩ := unsent
  cases found.symm.trans foundHere
  rcases used with full | gone
  · exact full empty
  · rw [gone] at sender
    cases sender

theorem get?_send_ne {rx tx : ChanId} (different : rx ≠ tx) (closing : ChanId → Bool)
    (value : ConnId) (chans : Table (Chan K))
    : (send closing chans tx value).2.get? rx = chans.get? rx := by
  unfold send
  split
  · rfl
  · split
    · exact Table.get?_set_ne different _
    · exact Table.get?_set_ne different _

/-- Delivery leaves alone who does not wait. -/
theorem get?_deliver_of_notMem {queue : List ChanId} {rx : ChanId} (outside : rx ∉ queue)
    (closing : ChanId → Bool) (shared : Bool) (value : ConnId) (chans : Table (Chan K))
    : (deliver closing shared value queue chans).2.2.get? rx = chans.get? rx := by
  have sends (tx : ChanId) (member : tx ∈ queue) (later : Table (Chan K))
      (same : later.get? rx = chans.get? rx)
      : (send closing later tx value).2.get? rx = chans.get? rx := by
    have different : rx ≠ tx := fun here => outside (here ▸ member)
    rw [get?_send_ne different, same]
  exact deliver_keeps sends rfl

/-- Delivery leaves alone who waits on, by induction on the queue. -/
theorem get?_deliver_of_rest {queue rest : List ChanId} {kept : Option ConnId}
    (apart : queue.Nodup)
    (given : deliver closing shared value queue chans = (rest, kept, after))
    : ∀ rx ∈ rest, after.get? rx = chans.get? rx := by
  induction queue generalizing chans with
  | nil =>
      cases given
      intro rx member
      cases member
  | cons tx waiters ih =>
      obtain ⟨head, tail⟩ := List.nodup_cons.mp apart
      have skipped {before : Table (Chan K)}
          (same : ∀ rx, rx ≠ tx → before.get? rx = chans.get? rx)
          (given : deliver closing shared value waiters before = (rest, kept, after))
          : ∀ rx ∈ rest, after.get? rx = chans.get? rx := by
        intro rx member
        have inside : rx ∈ waiters := by
          rcases deliver_cases given with ⟨rfl, _⟩ | ⟨_, suffix, _⟩
          · cases member
          · exact suffix.subset member
        rw [ih tail given rx member]
        exact same rx (fun here => head (here ▸ inside))
      simp only [deliver] at given
      split at given
      · exact skipped (fun _ _ => rfl) given
      · split at given
        · next before result =>
            have sent (rx : ChanId) (different : rx ≠ tx) : before.get? rx = chans.get? rx := by
              have elsewhere := get?_send_ne different closing value chans
              rwa [result] at elsewhere
            split at given
            · exact skipped sent given
            · cases given
              exact fun rx member => sent rx (fun here => head (here ▸ member))
        · next before result =>
            have failed (rx : ChanId) (different : rx ≠ tx)
                : before.get? rx = chans.get? rx := by
              have elsewhere := get?_send_ne different closing value chans
              rwa [result] at elsewhere
            exact skipped failed given

/-- A connection that is not kept lies in a channel of the queue that was not closed, by
induction on the queue.
-/
theorem deliver_taken {queue rest : List ChanId} (apart : queue.Nodup)
    (given : deliver closing shared value queue chans = (rest, none, after))
    : ∃ tx ∈ queue, ∃ chan later, chans.get? tx = some chan ∧ chan.receiver ≠ .closed
        ∧ after.get? tx = some later ∧ later.value = some value := by
  induction queue generalizing chans with
  | nil => cases given
  | cons tx waiters ih =>
      obtain ⟨head, tail⟩ := List.nodup_cons.mp apart
      have skipped {before : Table (Chan K)}
          (same : ∀ rx, rx ≠ tx → before.get? rx = chans.get? rx)
          (given : deliver closing shared value waiters before = (rest, none, after))
          : ∃ rx ∈ tx :: waiters, ∃ chan later, chans.get? rx = some chan
              ∧ chan.receiver ≠ .closed ∧ after.get? rx = some later
              ∧ later.value = some value := by
        obtain ⟨rx, member, chan, later, found, rest⟩ := ih tail given
        rw [same rx (fun here => head (here ▸ member))] at found
        exact ⟨rx, List.mem_cons_of_mem tx member, chan, later, found, rest⟩
      have elsewhere (rx : ChanId) (different : rx ≠ tx) :=
        get?_send_ne different closing value chans
      simp only [deliver] at given
      split at given
      · exact skipped (fun _ _ => rfl) given
      · split at given
        · next before result =>
            rw [result] at elsewhere
            split at given
            · exact skipped elsewhere given
            · cases given
              obtain ⟨chan, found, opened, rfl⟩ : ∃ chan, chans.get? tx = some chan
                  ∧ chan.receiver ≠ .closed
                  ∧ after = chans.set tx { chan with value := some value, sender := false } := by
                unfold send at result
                split at result
                · cases result
                · next chan found =>
                    split at result
                    · cases result
                    · next openHere =>
                        cases result
                        exact ⟨chan, found, fun closed => openHere (.inl closed), rfl⟩
              refine ⟨tx, List.mem_cons_self, chan,
                { chan with value := some value, sender := false }, found, opened, ?_, rfl⟩
              rw [Table.get?_set_self found]
        · next before result =>
            rw [result] at elsewhere
            exact skipped elsewhere given

/-- Dropping the senders of other channels leaves a channel alone. -/
theorem get?_dropSenders_of_notMem {queue : List ChanId} {rx : ChanId} (outside : rx ∉ queue)
    : (dropSenders chans queue).get? rx = chans.get? rx := by
  cases found : chans.get? rx with
  | some chan =>
      obtain ⟨sender, later, kept⟩ := get?_dropSenders found queue
      rw [later, kept outside]
  | none =>
      have drops (before : Table (Chan K)) (tx : ChanId) (absent : before.get? rx = none)
          : (dropSender before tx).get? rx = none := by
        unfold dropSender
        split
        · exact absent
        · next chan present =>
            have different : rx ≠ tx := by
              rintro rfl
              rw [present] at absent
              cases absent
            rw [Table.get?_set_ne different, absent]
      exact dropSenders_keeps drops found queue

end Channels

-----------------------------------------------------------------------------------------
-- The state behind the lock
-----------------------------------------------------------------------------------------

variable {K : Type} [DecidableEq K]

/-- The queues hold each channel once, and only channels that are unsent for their key. -/
def PoolInner.Queued (unsent : K → ChanId → Prop) (inner : PoolInner K) : Prop :=
  ∀ key queue, inner.waiters.lookup key = some queue
    → queue.Nodup ∧ ∀ tx ∈ queue, unsent key tx

namespace PoolInner

variable {inner after : PoolInner K} {unsent unsent' : K → ChanId → Prop}

/-- Keeping parts of the queues keeps them so. -/
theorem Queued.mono (queued : inner.Queued unsent)
    (kept
      : ∀ key rest, after.waiters.lookup key = some rest
        → ∃ queue, inner.waiters.lookup key = some queue ∧ rest.Sublist queue
            ∧ ∀ tx ∈ rest, unsent key tx → unsent' key tx)
    : after.Queued unsent' := by
  intro key rest waiting
  obtain ⟨queue, before, part, still⟩ := kept key rest waiting
  obtain ⟨apart, all⟩ := queued key queue before
  exact ⟨apart.sublist part, fun tx member => still tx member (all tx (part.subset member))⟩

/-- Changes elsewhere keep the queues as they are. -/
theorem Queued.withUnsent (queued : inner.Queued unsent) (same : after.waiters = inner.waiters)
    (kept
      : ∀ key queue tx, inner.waiters.lookup key = some queue → tx ∈ queue → unsent key tx
        → unsent' key tx)
    : after.Queued unsent' := by
  refine queued.mono (fun key rest waiting => ⟨rest, same ▸ waiting, List.Sublist.refl rest, ?_⟩)
  exact fun tx member => kept key rest tx (same ▸ waiting) member

variable {chans sent : Table (Chan K)} {checkouts : Table (Checkout K)}

/-- A channel in the queue of one key is in no queue of another. -/
theorem Queued.notMem (queued : inner.Queued (Unsent chans checkouts)) {key other : K}
    {queue others : List ChanId} (waiting : inner.waiters.lookup key = some queue)
    (waitingThere : inner.waiters.lookup other = some others) (different : other ≠ key)
    : ∀ tx ∈ others, tx ∉ queue := by
  intro tx member here
  have unsent := (queued key queue waiting).2 tx here
  exact different (((queued other others waitingThere).2 tx member).key_unique unsent)

/-- `put` sends to the front of one queue. -/
theorem Queued.put (queued : inner.Queued (Unsent chans checkouts)) {closing : ChanId → Bool}
    {shared : Bool} {now : Time} {key : K} {value : ConnId}
    (stored : inner.put closing shared now chans key value = (after, sent))
    : after.Queued (Unsent sent checkouts) := by
  rcases put_cases stored with
    ⟨rfl, rfl⟩ | ⟨waiters, lookup, given, rfl⟩ | ⟨_, queue, rest, waiting, suffix, given, rfl⟩
  · exact queued
  · obtain ⟨idle, idleIntervalRef, pushed⟩ :=
      ({ inner with waiters } : PoolInner K).pushIdle_eq now key value
    rw [pushed]
    refine queued.mono (fun other others waitingThere => ?_)
    simp only [lookup] at waitingThere
    split at waitingThere
    · cases waitingThere
    · next different =>
        refine ⟨others, waitingThere, List.Sublist.refl others, fun tx member unsent => ?_⟩
        have outside : tx ∉ (inner.waiters.lookup key).getD [] := by
          cases waiting : inner.waiters.lookup key with
          | none => simp
          | some queue => exact queued.notMem waiting waitingThere different tx member
        have alone := get?_deliver_of_notMem outside closing shared value chans
        rw [given] at alone
        exact unsent.withChans alone
  · refine queued.mono (fun other others waitingThere => ?_)
    rcases AssocMap.lookup_assign_cases waitingThere with ⟨rfl, written⟩ | ⟨different, stored⟩
    · obtain ⟨-, same⟩ := Option.ite_none_left_eq_some.mp written
      cases same
      refine ⟨queue, waiting, suffix.sublist, fun tx member unsent => ?_⟩
      exact unsent.withChans
        (get?_deliver_of_rest (queued _ queue waiting).1 given tx member)
    · refine ⟨others, stored, List.Sublist.refl others, fun tx member unsent => ?_⟩
      have alone := get?_deliver_of_notMem
        (queued.notMem waiting stored different tx member) closing shared value chans
      rw [given] at alone
      exact unsent.withChans alone

theorem Queued.connected (queued : inner.Queued (Unsent chans checkouts)) (key : K)
    : (inner.connected chans key).1.Queued (Unsent (inner.connected chans key).2 checkouts) := by
  refine queued.mono (fun other others waitingThere => ?_)
  have left : (inner.waiters.erase key).lookup other = some others := waitingThere
  by_cases same : other = key
  · rw [same, AList.lookup_erase] at left
    cases left
  · rw [AList.lookup_erase_ne same] at left
    refine ⟨others, left, List.Sublist.refl others, fun tx member unsent => ?_⟩
    have outside : tx ∉ (inner.waiters.lookup key).getD [] := by
      cases waiting : inner.waiters.lookup key with
      | none => simp
      | some queue => exact queued.notMem waiting left same tx member
    exact unsent.withChans (get?_dropSenders_of_notMem outside)

theorem Queued.cleanWaiters (queued : inner.Queued unsent) (chans : Table (Chan K)) (key : K)
    : (inner.cleanWaiters chans key).Queued unsent := by
  unfold PoolInner.cleanWaiters
  split
  · exact queued
  · next queue waiting =>
      refine queued.mono (fun other others waitingThere => ?_)
      rcases AssocMap.lookup_assign_cases waitingThere with ⟨rfl, written⟩ | ⟨-, stored⟩
      · obtain ⟨-, same⟩ := Option.ite_none_left_eq_some.mp written
        cases same
        exact ⟨queue, waiting, List.filter_sublist, fun _ _ => id⟩
      · exact ⟨others, stored, List.Sublist.refl others, fun _ _ => id⟩

/-- A channel that is in no queue yet may wait. -/
theorem Queued.pushWaiter (queued : inner.Queued unsent) {key : K} {tx : ChanId}
    (fresh : ∀ queue, inner.waiters.lookup key = some queue → tx ∉ queue)
    (waits : unsent key tx)
    : (inner.pushWaiter key tx).Queued unsent := by
  intro other others waitingThere
  by_cases same : other = key
  · subst same
    simp only [PoolInner.pushWaiter, AList.lookup_insert, Option.some.injEq] at waitingThere
    rw [← waitingThere]
    cases waiting : inner.waiters.lookup other with
    | none => exact ⟨by simp, by simpa using waits⟩
    | some queue =>
        obtain ⟨apart, all⟩ := queued other queue waiting
        refine ⟨?_, fun rx member => ?_⟩
        · rw [Option.getD_some]
          exact List.nodup_append.mpr ⟨apart, by simp, fun rx member _ here same =>
            fresh queue waiting (by rwa [← List.mem_singleton.mp here, ← same])⟩
        · rcases List.mem_append.mp member with old | new
          · exact all rx old
          · rw [List.mem_singleton.mp new]
            exact waits
  · rw [PoolInner.pushWaiter, AList.lookup_insert_ne same] at waitingThere
    exact queued other others waitingThere

end PoolInner

-----------------------------------------------------------------------------------------
-- The system
-----------------------------------------------------------------------------------------

section Awaiting

variable {K : Type} {checkouts : Table (Checkout K)} {rx : ChanId}

/-- A new checkout leaves the others waiting. -/
theorem Awaited.alloc (awaited : Awaited checkouts rx) (fresh : Checkout K)
    : Awaited (checkouts.alloc fresh) rx := by
  obtain ⟨id, checkout, found, waits⟩ := awaited
  refine ⟨id, checkout, ?_, waits⟩
  rw [Table.get?_alloc, if_neg (Nat.ne_of_lt (Table.lt_size found)), found]

/-- So does the end of one that waits on another channel. -/
theorem Awaited.free (awaited : Awaited checkouts rx) {id : Nat} {checkout : Checkout K}
    (found : checkouts.get? id = some checkout) (elsewhere : checkout.waiter ≠ some rx)
    : Awaited (checkouts.free id) rx := by
  obtain ⟨other, waiting, foundOther, waits⟩ := awaited
  refine ⟨other, waiting, ?_, waits⟩
  rw [Table.get?_free, if_neg, foundOther]
  rintro rfl
  cases found.symm.trans foundOther
  exact elsewhere waits

/-- So does a change of one that waits on another channel, or goes on waiting. -/
theorem Awaited.set (awaited : Awaited checkouts rx) {id : Nat} {checkout changed : Checkout K}
    (found : checkouts.get? id = some checkout)
    (still : checkout.waiter = some rx → changed.waiter = some rx)
    : Awaited (checkouts.set id changed) rx := by
  obtain ⟨other, waiting, foundOther, waits⟩ := awaited
  by_cases same : other = id
  · subst same
    cases found.symm.trans foundOther
    exact ⟨other, changed, Table.get?_set_self found _, still waits⟩
  · exact ⟨other, waiting, (Table.get?_set_ne same _).trans foundOther, waits⟩

end Awaiting

namespace State

/-- The queues of the pool hold what they should. -/
def Queued (state : State K) : Prop :=
  state.Holds (PoolInner.Queued (Unsent state.chans state.checkouts))

variable {state : State K}

theorem Queued.put (queued : state.Queued) (closing : ChanId → Bool) (key : K) (value : ConnId)
    : (state.put closing key value).Queued := by
  intro after present
  unfold State.put at present ⊢
  split at present
  · next gone =>
      rw [gone] at present
      cases present
  · next inner before =>
      cases present
      exact (queued inner before).put (Prod.mk.eta (p := inner.put closing
        (state.canShare value) state.now state.chans key value)).symm

theorem Queued.connected (queued : state.Queued) (key : K) (token : Nat)
    : (state.connected key token).Queued := by
  intro after present
  unfold State.connected at present ⊢
  split at present
  · next gone =>
      rw [gone] at present
      cases present
  · next inner before =>
      cases present
      exact (queued inner before).connected key

theorem Queued.connecting (queued : state.Queued) (key : K) (ver : Ver)
    : (state.connecting key ver).Queued := by
  unfold State.connecting
  split
  · next inner before =>
      split
      · exact queued
      · intro after present
        cases present
        exact queued inner before
  · exact queued

theorem Queued.dropConnecting (queued : state.Queued) (token : Nat)
    : (state.dropConnecting token).Queued := by
  have freed : ({ state with connectings := state.connectings.free token } : State K).Queued :=
    queued
  rcases state.dropConnecting_cases token with same | ⟨held, _, ⟨_, same⟩ | same⟩
  · rwa [same]
  · rw [same]
    exact freed.connected held.key token
  · rwa [same]

theorem Queued.alpnH2 (queued : state.Queued) (token : Nat) : (state.alpnH2 token).Queued := by
  have noted (calls : List (Call K)) : ({ state with calls } : State K).Queued := queued
  unfold State.alpnH2
  split
  · exact queued
  · next held _ => exact ((noted _).connecting held.key .http2).dropConnecting token

theorem Queued.pooled (queued : state.Queued) (closing : ChanId → Bool) (token : Nat)
    (http2 ready poisoned : Bool)
    : (state.pooled closing token http2 ready poisoned).Queued := by
  have opened (conns : Table (Conn K)) (pooleds : Table (Pooled K)) (calls : List (Call K))
      : ({ state with conns, pooleds, calls } : State K).Queued := queued
  unfold State.pooled
  split
  · exact queued
  · next held _ =>
      simp only
      split
      · exact (opened _ _ _).dropConnecting token
      · split
        · exact ((opened _ state.pooleds state.calls).put closing held.key
            state.conns.size).connected held.key token
        · exact (opened _ _ _).dropConnecting token

/-- A checkout that is freed leaves the queues alone if its channel is in none of them. -/
theorem Queued.freeCheckout (queued : state.Queued) {id : Nat} {checkout : Checkout K}
    (found : state.checkouts.get? id = some checkout)
    (away : ∀ rx, checkout.waiter = some rx → ∀ key, ¬ Unsent state.chans state.checkouts key rx)
    : ({ state with checkouts := state.checkouts.free id } : State K).Queued := by
  intro inner present
  refine (queued inner present).withUnsent rfl (fun key queue tx _ _ unsent => ?_)
  exact unsent.withCheckouts
    (fun awaited => awaited.free found (fun waits => away tx waits key unsent))

theorem Queued.poll (queued : state.Queued) (keyed : state.Keyed) {id : Nat}
    {checkout : Checkout K} (found : state.checkouts.get? id = some checkout)
    : (state.poll id checkout).2.Queued := by
  unfold State.poll
  split
  · next rx waiter =>
      have freed {chan : Chan K} (channel : state.chans.get? rx = some chan)
          (used : chan.value ≠ none ∨ chan.sender = false)
          : ({ state with checkouts := state.checkouts.free id } : State K).Queued := by
        refine queued.freeCheckout found (fun other waits key unsent => ?_)
        cases waiter.symm.trans waits
        exact unsent.ne_of_used channel used rfl
      unfold State.pollWaiter
      split
      · exact queued
      · next chan channel =>
          split
          · next value carried =>
              have used : chan.value ≠ none := by simp [carried]
              have received
                  : ({ state with
                      checkouts := state.checkouts.free id
                      chans := state.chans.set rx { chan with receiver := .closed, value := none }
                    } : State K).Queued := by
                intro inner present
                refine (freed channel (.inl used) inner present).withUnsent rfl
                  (fun key queue tx _ _ unsent => unsent.withChans ?_)
                exact Table.get?_set_ne (unsent.ne_of_used channel (.inl used)) _
              simp only
              split <;> exact received
          · split
            · exact queued
            · next gone => exact freed channel (.inr (by simpa using gone))
  · next idle =>
      have freed : ({ state with checkouts := state.checkouts.free id } : State K).Queued :=
        queued.freeCheckout found (fun rx waits => by simp [idle] at waits)
      unfold State.pollIdle
      split
      · exact freed
      · next inner present =>
          split
          · next entry rest taken =>
              obtain ⟨idle, rfl⟩ := PoolInner.takeIdle_eq taken
              intro after same
              cases same
              exact freed inner present
          · next rest taken =>
              obtain ⟨lists, rfl⟩ := PoolInner.takeIdle_eq taken
              intro after same
              cases same
              -- The new channel is in no queue, since those were made before.
              have before (key : K) (queue : List ChanId)
                  (waiting : inner.waiters.lookup key = some queue)
                  : state.chans.size ∉ queue := by
                intro member
                have asked := (keyed.inner inner present).waiters key queue _ waiting member
                obtain ⟨chan, old, _⟩ := Option.map_eq_some_iff.mp asked
                exact absurd (Table.lt_size old) (Nat.lt_irrefl _)
              have changed
                  : PoolInner.Queued
                      (Unsent (state.chans.alloc { key := checkout.key })
                        (state.checkouts.set id
                          { key := checkout.key, waiter := some state.chans.size }))
                      { inner with idle := lists } := by
                refine (queued inner present).withUnsent rfl
                  (fun key queue tx waiting member unsent => ?_)
                have older : tx ≠ state.chans.size :=
                  fun same => before key queue waiting (same ▸ member)
                refine (unsent.withChans ?_).withCheckouts
                  (fun awaited => awaited.set found (fun waits => by simp [idle] at waits))
                rw [Table.get?_alloc, if_neg older]
              refine changed.pushWaiter (before checkout.key) ?_
              refine ⟨{ key := checkout.key }, ?_, rfl, rfl, rfl, fun _ => ?_⟩
              · rw [Table.get?_alloc, if_pos rfl]
              · exact ⟨id, { key := checkout.key, waiter := some state.chans.size },
                  Table.get?_set_self found _, rfl⟩

/-- A receiver may begin to close while its checkout waits, and then close. -/
theorem Queued.setReceiver (queued : state.Queued) {rx : ChanId} {chan changed : Chan K}
    (found : state.chans.get? rx = some chan) {checkouts : Table (Checkout K)}
    (key : changed.key = chan.key) (sender : changed.sender = chan.sender)
    (value : chan.value = none → changed.value = none)
    (shut : chan.receiver = .closed → changed.receiver = .closed)
    (awaited
      : ∀ tx, tx ≠ rx ∨ changed.receiver ≠ .closed → Awaited state.checkouts tx
        → Awaited checkouts tx)
    : ({ state with checkouts, chans := state.chans.set rx changed } : State K).Queued := by
  intro inner present
  refine (queued inner present).withUnsent rfl (fun asked queue tx _ _ unsent => ?_)
  by_cases same : tx = rx
  · subst same
    obtain ⟨before, here, made, empty, unused, waits⟩ := unsent
    cases found.symm.trans here
    refine ⟨changed, Table.get?_set_self found _,
      key.trans made, value empty, sender.trans unused, fun opened => ?_⟩
    exact awaited tx (.inr opened) (waits (fun closed => opened (shut closed)))
  · exact (unsent.withChans (Table.get?_set_ne same _)).withCheckouts (awaited tx (.inl same))

theorem Queued.beginDrop (queued : state.Queued) {id : Nat} {checkout : Checkout K}
    (found : state.checkouts.get? id = some checkout)
    : (state.beginDrop id checkout).Queued := by
  unfold State.beginDrop
  split
  · next idle => exact queued.freeCheckout found (fun rx waits => by simp [idle] at waits)
  · next rx waiter =>
      have still (tx : ChanId) (awaited : Awaited state.checkouts tx)
          : Awaited (state.checkouts.set id { checkout with dropping := true }) tx :=
        awaited.set found (fun waits => waits)
      have kept
          : ({ state with checkouts := state.checkouts.set id { checkout with dropping := true } }
              : State K).Queued := by
        intro inner present
        exact (queued inner present).withUnsent rfl
          (fun key queue tx _ _ unsent => unsent.withCheckouts (still tx))
      split
      · exact kept
      · next chan channel =>
          split
          · next alive =>
              refine queued.setReceiver channel rfl rfl (fun empty => empty) (fun closed => ?_)
                (fun tx _ => still tx)
              rw [alive] at closed
              cases closed
          · exact kept

theorem Queued.closeReceiver (queued : state.Queued) {id : Nat} {checkout : Checkout K}
    {rx : ChanId} (found : state.checkouts.get? id = some checkout)
    (waiter : checkout.waiter = some rx)
    : (state.closeReceiver id checkout rx).Queued := by
  have others (tx : ChanId) (different : tx ≠ rx) (awaited : Awaited state.checkouts tx)
      : Awaited (state.checkouts.set id { checkout with waiter := none }) tx := by
    refine awaited.set found (fun waits => ?_)
    cases waiter.symm.trans waits
    exact absurd rfl different
  unfold State.closeReceiver
  split
  · next absent =>
      intro inner present
      refine (queued inner present).withUnsent rfl (fun key queue tx _ _ unsent => ?_)
      refine unsent.withCheckouts (others tx ?_)
      rintro rfl
      obtain ⟨chan, here, _⟩ := unsent
      rw [absent] at here
      cases here
  · next chan channel =>
      refine queued.setReceiver channel rfl rfl (fun _ => rfl) (fun _ => rfl) (fun tx cases => ?_)
      rcases cases with different | opened
      · exact others tx different
      · exact absurd rfl opened

theorem Queued.endDrop (queued : state.Queued) {id : Nat} {checkout : Checkout K}
    (found : state.checkouts.get? id = some checkout) (waiter : checkout.waiter = none)
    : (state.endDrop id checkout).Queued := by
  have freed := queued.freeCheckout found (fun rx waits => by simp [waiter] at waits)
  intro after present
  obtain ⟨inner, before, rfl⟩ := Option.map_eq_some_iff.mp present
  exact (freed inner before).cleanWaiters state.chans checkout.key

theorem Queued.dropPooled (queued : state.Queued) (closing : ChanId → Bool) (id : Nat)
    (pooled : Pooled K)
    : (state.dropPooled closing id pooled).Queued := by
  have freed : ({ state with pooleds := state.pooleds.free id } : State K).Queued := queued
  rcases state.dropPooled_cases closing id pooled with same | same
  · rwa [same]
  · rw [same]
    exact freed.put closing pooled.key pooled.value

end State

/-- Each step keeps the queues so. -/
theorem Step.queued {state next : State K} {event : Event K} (step : Step state event next)
    (keyed : state.Keyed) (queued : state.Queued)
    : next.Queued := by
  cases event with
  | connecting key ver =>
      obtain ⟨_, rfl⟩ := step
      exact queued.connecting key ver
  | alpnH2 token =>
      obtain ⟨_, rfl⟩ := step
      exact queued.alpnH2 token
  | dropConnecting token =>
      obtain rfl := step
      exact queued.dropConnecting token
  | pooled closing token http2 ready poisoned =>
      obtain ⟨_, rfl⟩ := step
      exact queued.pooled closing token http2 ready poisoned
  | checkout key =>
      obtain ⟨_, rfl⟩ := step
      intro inner present
      exact (queued inner present).withUnsent rfl
        (fun _ _ tx _ _ unsent => unsent.withCheckouts (fun awaited => awaited.alloc { key }))
  | poll id outcome =>
      obtain ⟨checkout, found, _, polled⟩ := step
      have after := queued.poll keyed found
      rwa [polled] at after
  | beginDrop id =>
      obtain ⟨checkout, found, _, rfl⟩ := step
      exact queued.beginDrop found
  | closeReceiver id =>
      obtain ⟨checkout, rx, found, _, waiter, rfl⟩ := step
      exact queued.closeReceiver found waiter
  | endDrop id =>
      obtain ⟨checkout, found, _, waiter, rfl⟩ := step
      exact queued.endDrop found waiter
  | dropPooled closing id =>
      obtain ⟨pooled, _, rfl⟩ := step
      exact queued.dropPooled closing id pooled
  | clearExpired =>
      obtain ⟨inner, before, _, rfl⟩ := step
      intro after present
      cases present
      exact (queued inner before).withUnsent rfl (fun _ _ _ _ _ => id)
  | setReady value ready =>
      obtain ⟨conn, _, rfl⟩ := step
      exact queued
  | poison value =>
      obtain ⟨conn, _, rfl⟩ := step
      exact queued
  | tick elapsed =>
      obtain rfl := step
      exact queued
  | dropPool =>
      obtain ⟨_, _, rfl⟩ := step
      intro inner present
      have gone : state.dropPool.inner = none := by
        unfold State.dropPool
        split <;> simp [*]
      rw [gone] at present
      cases present

/-- The queues hold what they should in every state reached. -/
theorem run_queued {config : Config} {timerIsEmpty : Bool} {events : List (Event K)}
    {state : State K} (run : Run Step (State.new config timerIsEmpty) events state)
    : state.Queued := by
  apply run.invariant
  · intro past before event after earlier queued step
    exact step.queued (run_keyed earlier) queued
  · intro inner present
    unfold State.new at present
    split at present
    · cases present
      intro key queue waiting
      cases waiting
    · cases present

end Tlsurl.Pool
