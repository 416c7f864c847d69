import Tlsurl.Pool.Connections
import Tlsurl.Pool.Operations

/-! How often a connection is in the hands of the pool and its users.
The operations move a connection that is not shared from one place to another, and never
leave it in the place it came from.
-/

namespace Tlsurl.Pool

open Library

variable {K : Type} [DecidableEq K] (target : ConnId)

-----------------------------------------------------------------------------------------
-- What is counted
-----------------------------------------------------------------------------------------

/-- One use, if the value is the connection. -/
def oneIf (value : ConnId) : Nat := if value = target then 1 else 0

/-- The slots of an idle list that hold the connection. -/
def idleUses (list : List Idle) : Nat := (list.map (fun entry => oneIf target entry.value)).sum

/-- Whether a channel carries the connection. -/
def chanUses (chan : Chan K) : Nat := chan.value.elim 0 (oneIf target)

/-- Whether a handle is one of the connection. -/
def pooledUses (pooled : Pooled K) : Nat := oneIf target pooled.value

/-- The idle slots of a pool that hold the connection. -/
def PoolInner.uses (inner : PoolInner K) : Nat :=
  AssocMap.weight (idleUses target) inner.idle.map

/-- The idle slots, the channels and the live handles that hold the connection. -/
def State.uses (state : State K) : Nat :=
  state.inner.elim 0 (PoolInner.uses target)
    + state.chans.weight (chanUses target)
    + state.pooleds.weight (pooledUses target)

-----------------------------------------------------------------------------------------
-- Idle lists
-----------------------------------------------------------------------------------------

@[simp] theorem idleUses_nil : idleUses target [] = 0 := rfl

theorem idleUses_append (front back : List Idle)
    : idleUses target (front ++ back) = idleUses target front + idleUses target back := by
  simp [idleUses]

theorem idleUses_cons (entry : Idle) (list : List Idle)
    : idleUses target (entry :: list) = oneIf target entry.value + idleUses target list := by
  simp [idleUses]

/-- Dropping entries drops their uses. -/
theorem idleUses_filter_le (keep : Idle → Bool) (list : List Idle)
    : idleUses target (list.filter keep) ≤ idleUses target list :=
  (List.filter_sublist.map _).sum_le_sum (fun _ _ => Nat.zero_le _)

namespace PoolInner

/-- A value that goes idle is one more use. -/
theorem uses_pushIdle_le (inner : PoolInner K) (now : Time) (key : K) (value : ConnId)
    : (inner.pushIdle now key value).uses target ≤ inner.uses target + oneIf target value := by
  obtain ⟨old, before⟩ : ∃ old, (inner.idle.peek key).getD [] = old := ⟨_, rfl⟩
  have same : (inner.idle.peek key).elim 0 (idleUses target) = idleUses target old := by
    rw [← before]
    cases inner.idle.peek key <;> rfl
  have first := LruCache.weight_put_le (idleUses target) inner.idle key old
  unfold uses
  rw [pushIdle_idle before]
  split
  · omega
  · have second := LruCache.weight_put_le (idleUses target) (inner.idle.put key old) key
      (old ++ [⟨now, value⟩])
    simp only [LruCache.peek_put_self, Option.elim_some, idleUses_append, idleUses_cons,
      idleUses_nil] at second
    omega

/-- An entry that is taken leaves its list, unless it is shared. -/
theorem uses_takeIdle_le {inner after : PoolInner K} {isOpen shared : ConnId → Bool}
    {now : Time} {key : K} {found : Option Idle} (unique : shared target = false)
    (taken : inner.takeIdle isOpen shared now key = (found, after))
    : after.uses target + found.elim 0 (fun entry => oneIf target entry.value)
      ≤ inner.uses target := by
  unfold uses
  rcases takeIdle_cases taken with
    ⟨rfl, rfl⟩ | ⟨rfl, rfl⟩ | ⟨front, entry, skipped, rest, rfl, stored, _, _, left, rfl⟩
  · have popped := LruCache.weight_pop (idleUses target) inner.idle key
    simp only [Option.elim_none]
    omega
  · have emptied := weight_leave_le (idleUses target) inner.idle key []
    simp only [idleUses_nil, Option.elim_none] at emptied ⊢
    omega
  · have written := weight_leave_le (idleUses target) inner.idle key rest
    have fewer
        : idleUses target rest + oneIf target entry.value
          ≤ idleUses target (front ++ entry :: skipped) := by
      rw [left, idleUses_append, idleUses_append, idleUses_cons]
      split
      · next both =>
          have other : entry.value ≠ target := by
            intro same
            rw [same, unique] at both
            cases both
          simp [idleUses_cons, oneIf, other]
      · simp only [idleUses_nil]
        omega
    simp only [stored, Option.elim_some] at written ⊢
    omega

/-- A sweep only drops idle connections. -/
theorem uses_clearExpired_le (inner : PoolInner K) (isOpen : ConnId → Bool) (now : Time)
    : (inner.clearExpired isOpen now).uses target ≤ inner.uses target :=
  weight_clearExpired_le (idleUses target)
    (fun list keep => idleUses_filter_le target keep list) inner isOpen now

end PoolInner

-----------------------------------------------------------------------------------------
-- Channels
-----------------------------------------------------------------------------------------

section Channels

variable {closing : ChanId → Bool} {shared : Bool} {value : ConnId}

omit [DecidableEq K] in
/-- A write to a channel that keeps its value keeps the uses. -/
theorem weight_set_same {chans : Table (Chan K)} {tx : ChanId} {chan : Chan K}
    (found : chans.get? tx = some chan) (changed : Chan K) (same : changed.value = chan.value)
    : (chans.set tx changed).weight (chanUses target) = chans.weight (chanUses target) := by
  have traded := Table.weight_set (chanUses target) found changed
  have uses : chanUses target changed = chanUses target chan := by
    simp only [chanUses, same]
  omega

omit [DecidableEq K] in
theorem weight_dropSender (chans : Table (Chan K)) (tx : ChanId)
    : (dropSender chans tx).weight (chanUses target) = chans.weight (chanUses target) := by
  unfold dropSender
  split
  · rfl
  · next chan found => exact weight_set_same target found _ rfl

omit [DecidableEq K] in
theorem weight_dropSenders (chans : Table (Chan K)) (queue : List ChanId)
    : (dropSenders chans queue).weight (chanUses target) = chans.weight (chanUses target) :=
  dropSenders_keeps (fun before tx same => (weight_dropSender target before tx).trans same) rfl
    queue

omit [DecidableEq K] in
/-- A value that was sent is one more use; one that was not sent is none. -/
theorem weight_send_le {chans after : Table (Chan K)} {tx : ChanId} {sent : Bool}
    (result : send closing chans tx value = (sent, after))
    : after.weight (chanUses target)
      ≤ chans.weight (chanUses target) + if sent then oneIf target value else 0 := by
  unfold send at result
  split at result
  · cases result
    simp
  · next chan found =>
      split at result
      · cases result
        have same := weight_set_same target found
          { chan with receiver := .closed, sender := false } rfl
        exact Nat.le_of_eq same
      · cases result
        have traded := Table.weight_set (chanUses target) found
          { chan with value := some value, sender := false }
        have carries
            : chanUses target { chan with value := some value, sender := false }
              = oneIf target value := rfl
        simp only [if_true]
        omega

omit [DecidableEq K] in
/-- Delivery gives a value that is not shared to one waiter or keeps it, by induction on the
queue.
-/
theorem weight_deliver_le {queue rest : List ChanId} {chans after : Table (Chan K)}
    {kept : Option ConnId} (unique : value = target → shared = false)
    (given : deliver closing shared value queue chans = (rest, kept, after))
    : after.weight (chanUses target) + kept.elim 0 (oneIf target)
      ≤ chans.weight (chanUses target) + oneIf target value := by
  induction queue generalizing chans with
  | nil =>
      cases given
      exact Nat.le_refl _
  | cons tx waiters ih =>
      simp only [deliver] at given
      split at given
      · exact ih given
      · split at given
        · next result =>
            have sent := weight_send_le target result
            simp only [if_true] at sent
            split at given
            · next isShared =>
                have other : oneIf target value = 0 := by
                  by_cases same : value = target
                  · rw [unique same] at isShared
                    cases isShared
                  · simp [oneIf, same]
                have later := ih given
                omega
            · cases given
              simpa using sent
        · next result =>
            have failed := weight_send_le target result
            simp only [Bool.false_eq_true, if_false, Nat.add_zero] at failed
            exact (ih given).trans (Nat.add_le_add_right failed _)

end Channels

namespace PoolInner

variable {closing : ChanId → Bool} {shared : Bool} {value : ConnId}

/-- `put` is one more use of a value that is not shared. -/
theorem uses_put_le {inner after : PoolInner K} {now : Time} {chans sent : Table (Chan K)}
    {key : K} (unique : value = target → shared = false)
    (stored : inner.put closing shared now chans key value = (after, sent))
    : after.uses target + sent.weight (chanUses target)
      ≤ inner.uses target + chans.weight (chanUses target) + oneIf target value := by
  rcases put_cases stored with
    ⟨rfl, rfl⟩ | ⟨waiters, _, given, rfl⟩ | ⟨_, queue, rest, _, _, given, rfl⟩
  · omega
  · have delivered := weight_deliver_le target unique given
    have pushed := uses_pushIdle_le target { inner with waiters } now key value
    have same : ({ inner with waiters } : PoolInner K).uses target = inner.uses target := rfl
    simp only [Option.elim_some] at delivered
    omega
  · have delivered := weight_deliver_le target unique given
    simp only [Option.elim_none, Nat.add_zero] at delivered
    simp only [uses]
    omega

end PoolInner

namespace State

variable (state : State K)

theorem uses_put_le (closing : ChanId → Bool) (key : K) (value : ConnId)
    (unique : value = target → state.canShare value = false)
    : (state.put closing key value).uses target ≤ state.uses target + oneIf target value := by
  unfold State.put
  split
  · exact Nat.le_add_right _ _
  · next inner present =>
      have stored := PoolInner.uses_put_le target unique
        (Prod.mk.eta (p := inner.put closing (state.canShare value) state.now state.chans key
          value)).symm
      simp only [State.uses, present, Option.elim_some]
      omega

theorem uses_connected (key : K) (token : Nat)
    : (state.connected key token).uses target = state.uses target := by
  unfold State.connected
  split
  · rfl
  · next inner present =>
      simp only [PoolInner.connected, State.uses, present, Option.elim_some, weight_dropSenders,
        PoolInner.uses]

theorem uses_connecting (key : K) (ver : Ver)
    : (state.connecting key ver).uses target = state.uses target := by
  unfold State.connecting
  split
  · next inner present =>
      split
      · rfl
      · simp only [State.uses, present, Option.elim_some, PoolInner.uses]
  · rfl

theorem uses_dropConnecting (token : Nat)
    : (state.dropConnecting token).uses target = state.uses target := by
  rcases state.dropConnecting_cases token with same | ⟨held, _, ⟨_, same⟩ | same⟩
  · rw [same]
  · rw [same, uses_connected]
    rfl
  · rw [same]
    rfl

theorem uses_alpnH2 (token : Nat) : (state.alpnH2 token).uses target = state.uses target := by
  unfold State.alpnH2
  split
  · rfl
  · rw [uses_dropConnecting, uses_connecting]
    rfl

/-- A handle to a connection is one more use. -/
theorem uses_reuse (id : Nat) (key : K) (value : ConnId)
    : (state.reuse id key value).uses target = state.uses target + oneIf target value := by
  simp only [State.reuse, State.uses, Table.weight_alloc, pooledUses]
  omega

/-- A received value leaves its channel. -/
theorem uses_pollWaiter_le (id : Nat) (key : K) (rx : ChanId)
    : (state.pollWaiter id key rx).2.uses target ≤ state.uses target := by
  unfold State.pollWaiter
  split
  · exact Nat.le_refl _
  · next chan found =>
      split
      · next value carried =>
          have emptied := Table.weight_set (chanUses target) found
            { chan with receiver := .closed, value := none }
          have before : chanUses target chan = oneIf target value := by
            simp only [chanUses, carried, Option.elim_some]
          have after
              : chanUses target { chan with receiver := .closed, value := none } = 0 := rfl
          simp only
          split
          · rw [uses_reuse]
            simp only [State.uses]
            omega
          · simp only [State.fail, State.uses]
            omega
      · split
        · exact Nat.le_refl _
        · exact Nat.le_refl _

/-- A connection that was idle leaves its list for a handle. -/
theorem uses_pollIdle_le (id : Nat) (key : K) (unique : state.canShare target = false)
    : (state.pollIdle id key).2.uses target ≤ state.uses target := by
  unfold State.pollIdle
  split
  · exact Nat.le_refl _
  · next inner present =>
      split
      · next entry rest taken =>
          have moved := PoolInner.uses_takeIdle_le target unique taken
          simp only [Option.elim_some] at moved
          rw [uses_reuse]
          simp only [State.uses, present, Option.elim_some]
          omega
      · next rest taken =>
          have left := PoolInner.uses_takeIdle_le target unique taken
          simp only [Option.elim_none, Nat.add_zero] at left
          simp only [State.uses, present, Option.elim_some, Table.weight_alloc, chanUses,
            Option.elim_none]
          have same : (rest.pushWaiter key state.chans.size).uses target = rest.uses target := rfl
          omega

theorem uses_poll_le (id : Nat) (checkout : Checkout K) (unique : state.canShare target = false)
    : (state.poll id checkout).2.uses target ≤ state.uses target := by
  unfold State.poll
  split
  · exact uses_pollWaiter_le target state id checkout.key _
  · exact uses_pollIdle_le target state id checkout.key unique

theorem uses_beginDrop (id : Nat) (checkout : Checkout K)
    : (state.beginDrop id checkout).uses target = state.uses target := by
  unfold State.beginDrop
  split
  · rfl
  · simp only [State.uses]
    split
    · rfl
    · next chan found =>
        split
        · rw [weight_set_same target found { chan with receiver := .dropping } rfl]
        · rfl

/-- A receiver that closes drops what its channel carries. -/
theorem uses_closeReceiver_le (id : Nat) (checkout : Checkout K) (rx : ChanId)
    : (state.closeReceiver id checkout rx).uses target ≤ state.uses target := by
  simp only [State.closeReceiver, State.uses]
  split
  · exact Nat.le_refl _
  · next chan found =>
      have emptied := Table.weight_set (chanUses target) found
        { chan with receiver := .closed, value := none }
      have after : chanUses target { chan with receiver := .closed, value := none } = 0 := rfl
      omega

theorem uses_endDrop (id : Nat) (checkout : Checkout K)
    : (state.endDrop id checkout).uses target = state.uses target := by
  simp only [State.endDrop, State.uses]
  cases state.inner with
  | none => rfl
  | some inner =>
      have same :
          (inner.cleanWaiters state.chans checkout.key).uses target = inner.uses target := by
        unfold PoolInner.cleanWaiters
        split <;> rfl
      simp only [Option.map_some, Option.elim_some, same]

/-- A handle that is dropped gives its use to the pool, unless its connection is closed. -/
theorem uses_dropPooled_le {id : Nat} {pooled : Pooled K} (closing : ChanId → Bool)
    (found : state.pooleds.get? id = some pooled) (unique : state.canShare target = false)
    : (state.dropPooled closing id pooled).uses target
        + (if state.isOpen pooled.value then 0 else oneIf target pooled.value)
      ≤ state.uses target := by
  have freed := Table.weight_free (pooledUses target) found
  have held : pooledUses target pooled = oneIf target pooled.value := rfl
  have rest
      : ({ state with pooleds := state.pooleds.free id } : State K).uses target
          + oneIf target pooled.value
        = state.uses target := by
    simp only [State.uses]
    omega
  unfold State.dropPooled
  simp only
  split
  · next closed =>
      simp only [Bool.not_eq_eq_eq_not, Bool.not_true] at closed
      simp only [closed, Bool.false_eq_true, if_false]
      omega
  · next opened =>
      have isOpen : state.isOpen pooled.value = true := by simpa using opened
      simp only [isOpen, if_true]
      split
      · have stored := uses_put_le target { state with pooleds := state.pooleds.free id } closing
          pooled.key pooled.value (fun same => same ▸ unique)
        omega
      · omega

theorem uses_dropPool_le : state.dropPool.uses target ≤ state.uses target := by
  unfold State.dropPool
  split
  · exact Nat.le_refl _
  · next inner present =>
      have silent
          : (inner.waiters.entries.foldl (fun chans byKey => dropSenders chans byKey.2)
              state.chans).weight (chanUses target)
            = state.chans.weight (chanUses target) :=
        foldl_dropSenders_keeps
          (fun before tx same => (weight_dropSender target before tx).trans same) rfl _
      simp only [State.uses, Option.elim_none, silent]
      omega

/-- A new handle is one more use. -/
theorem uses_newPooled (connectings : Table (Connecting K)) (pooled : Pooled K)
    : ({ state with connectings, pooleds := state.pooleds.alloc pooled } : State K).uses target
      = state.uses target + oneIf target pooled.value := by
  simp only [State.uses, Table.weight_alloc, pooledUses]
  omega

/-- A connection that was just made is in one place, the new handle, unless it is shared. -/
theorem uses_pooled_le (closing : ChanId → Bool) (token : Nat) (http2 ready poisoned : Bool)
    (unique : http2 = true → state.conns.size ≠ target)
    : (state.pooled closing token http2 ready poisoned).uses target
      ≤ state.uses target + oneIf target state.conns.size := by
  unfold State.pooled
  split
  · exact Nat.le_add_right _ _
  · next connecting _ =>
      let conn : Conn K := { key := connecting.key, http2, ready, poisoned }
      let before : State K := { state with conns := state.conns.alloc conn }
      simp only
      split
      · rw [uses_dropConnecting]
        exact Nat.le_of_eq (uses_newPooled target before state.connectings _)
      · split
        · next shared =>
            have other := unique shared
            have stored := uses_put_le target before closing connecting.key state.conns.size
              (fun same => absurd same other)
            have after := uses_connected target
              (before.put closing connecting.key state.conns.size) connecting.key token
            rw [uses_newPooled]
            simp only [oneIf, if_neg other, Nat.add_zero] at stored ⊢
            exact after.trans_le stored
        · rw [uses_dropConnecting]
          exact Nat.le_of_eq (uses_newPooled target before state.connectings _)

end State

/-- Whether a connection was opened already. -/
def wasOpened (state : State K) : Nat := if target < state.conns.size then 1 else 0

/-- A step never makes more uses of a connection that is not shared than it opens connections
of that number.
-/
theorem Step.uses_le {state next : State K} {event : Event K} (step : Step state event next)
    (unique : next.canShare target = false)
    : next.uses target + wasOpened target state ≤ state.uses target + wasOpened target next := by
  have grown := step.grown
  have opens : wasOpened target state ≤ wasOpened target next := by
    unfold wasOpened
    by_cases early : target < state.conns.size
    · rw [if_pos early, if_pos (Nat.lt_of_lt_of_le early grown.size)]
    · rw [if_neg early]
      exact Nat.zero_le _
  have before := grown.canShare unique
  have bound (fewer : next.uses target ≤ state.uses target)
      : next.uses target + wasOpened target state
        ≤ state.uses target + wasOpened target next := Nat.add_le_add fewer opens
  cases event with
  | connecting key ver =>
      obtain ⟨_, rfl⟩ := step
      exact bound (State.uses_connecting target state key ver).le
  | alpnH2 token =>
      obtain ⟨_, rfl⟩ := step
      exact bound (State.uses_alpnH2 target state token).le
  | dropConnecting token =>
      obtain rfl := step
      exact bound (State.uses_dropConnecting target state token).le
  | pooled closing token http2 ready poisoned =>
      obtain ⟨_, rfl⟩ := step
      cases found : state.connectings.get? token with
      | none => exact bound (by rw [state.pooled_none found])
      | some connecting =>
          have conns := state.pooled_conns found closing http2 ready poisoned
          have one := State.uses_pooled_le target state closing token http2 ready poisoned
            (by
              intro shared same
              simp only [State.canShare, conns, ← same, Table.get?_alloc] at unique
              simp [shared] at unique)
          have born
              : oneIf target state.conns.size + wasOpened target state
                = wasOpened target (state.pooled closing token http2 ready poisoned) := by
            simp only [oneIf, wasOpened, conns, Table.size_alloc]
            rcases Nat.lt_trichotomy target state.conns.size with early | rfl | late
            · simp [early, early.ne', Nat.lt_succ_of_lt early]
            · simp
            · simp [late.ne, late.not_gt, Nat.not_lt.mpr (Nat.succ_le_of_lt late)]
          omega
  | checkout key =>
      obtain ⟨_, rfl⟩ := step
      exact bound (Nat.le_refl _)
  | poll id outcome =>
      obtain ⟨checkout, _, _, polled⟩ := step
      have fewer := State.uses_poll_le target state id checkout before
      rw [polled] at fewer
      exact bound fewer
  | beginDrop id =>
      obtain ⟨checkout, _, _, rfl⟩ := step
      exact bound (State.uses_beginDrop target state id checkout).le
  | closeReceiver id =>
      obtain ⟨checkout, rx, _, _, _, rfl⟩ := step
      exact bound (State.uses_closeReceiver_le target state id checkout rx)
  | endDrop id =>
      obtain ⟨checkout, _, _, _, rfl⟩ := step
      exact bound (State.uses_endDrop target state id checkout).le
  | dropPooled closing id =>
      obtain ⟨pooled, found, rfl⟩ := step
      have fewer := State.uses_dropPooled_le target state closing found before
      exact bound (by omega)
  | clearExpired =>
      obtain ⟨inner, present, _, rfl⟩ := step
      have fewer := PoolInner.uses_clearExpired_le target inner state.isOpen state.now
      apply bound
      simp only [State.uses, present, Option.elim_some]
      omega
  | setReady value ready =>
      obtain ⟨conn, _, rfl⟩ := step
      exact bound (Nat.le_refl _)
  | poison value =>
      obtain ⟨conn, _, rfl⟩ := step
      exact bound (Nat.le_refl _)
  | tick elapsed =>
      obtain rfl := step
      exact bound (Nat.le_refl _)
  | dropPool =>
      obtain ⟨_, _, rfl⟩ := step
      exact bound (State.uses_dropPool_le target state)

end Tlsurl.Pool
