import Tlsurl.Pool.Locked
import Tlsurl.Pool.Operations

/-! Idle connections and waiting checkouts.
No key has both, and neither an idle list nor a queue of waiters is ever left empty.
-/

namespace Tlsurl.Pool

open Library

variable {K : Type} [DecidableEq K]

/-- A key with an idle list has no waiters, idle lists are neither empty nor over the limit of
an enabled pool, and queues of waiters are not empty.
-/
structure PoolInner.Balanced (inner : PoolInner K) : Prop where
  enabled : 0 < inner.maxIdlePerHost
  idleAlone
    : ∀ key list, inner.idle.peek key = some list → inner.waiters.lookup key = none
  idleSized
    : ∀ key list, inner.idle.peek key = some list
      → list ≠ [] ∧ list.length ≤ inner.maxIdlePerHost
  waitersNonempty : ∀ key queue, inner.waiters.lookup key = some queue → queue ≠ []

namespace PoolInner

variable {inner : PoolInner K}

/-- Losing idle lists and whole queues keeps the balance. -/
theorem Balanced.shrink (balanced : inner.Balanced) {after : PoolInner K}
    (limit : after.maxIdlePerHost = inner.maxIdlePerHost)
    (idle : ∀ key list, after.idle.peek key = some list → inner.idle.peek key = some list)
    (waiters
      : ∀ key queue, after.waiters.lookup key = some queue
        → inner.waiters.lookup key = some queue)
    : after.Balanced where
  enabled := limit ▸ balanced.enabled
  idleAlone key list found := by
    have alone := balanced.idleAlone key list (idle key list found)
    cases waiting : after.waiters.lookup key with
    | none => rfl
    | some queue =>
        rw [waiters key queue waiting] at alone
        cases alone
  idleSized key list found := limit ▸ balanced.idleSized key list (idle key list found)
  waitersNonempty key queue found :=
    balanced.waitersNonempty key queue (waiters key queue found)

/-- A queue is replaced by a part of it, and goes with its last waiter. -/
theorem Balanced.assign (balanced : inner.Balanced) {key : K} {queue : List ChanId}
    (waiting : inner.waiters.lookup key = some queue) (rest : List ChanId)
    : ({ inner with
        waiters := AssocMap.assign inner.waiters key
          (if rest.isEmpty then none else some rest) } : PoolInner K).Balanced where
  enabled := balanced.enabled
  idleAlone other list found := by
    have alone := balanced.idleAlone other list found
    rw [AssocMap.lookup_assign]
    split
    · next same =>
        rw [same, waiting] at alone
        cases alone
    · exact alone
  idleSized := balanced.idleSized
  waitersNonempty other left found := by
    rcases AssocMap.lookup_assign_cases found with ⟨-, written⟩ | ⟨-, stored⟩
    · obtain ⟨nonempty, same⟩ := Option.ite_none_left_eq_some.mp written
      cases same
      simpa using nonempty
    · exact balanced.waitersNonempty other left stored

/-- A value may become idle under a key that nothing waits for. -/
theorem Balanced.pushIdle (balanced : inner.Balanced) {key : K}
    (alone : inner.waiters.lookup key = none) (now : Time) (value : ConnId)
    : (inner.pushIdle now key value).Balanced := by
  obtain ⟨idle, idleIntervalRef, after⟩ := inner.pushIdle_eq now key value
  have positive := balanced.enabled
  rw [after]
  refine ⟨balanced.enabled, ?_, ?_, balanced.waitersNonempty⟩
  · intro other list found
    have stored : (inner.pushIdle now key value).idle.peek other = some list := by
      rw [after]
      exact found
    rcases peek_pushIdle stored with ⟨_, old⟩ | ⟨same, _⟩
    · exact balanced.idleAlone other list old
    · rw [same]
      exact alone
  · intro other list found
    have stored : (inner.pushIdle now key value).idle.peek other = some list := by
      rw [after]
      exact found
    rcases peek_pushIdle stored with ⟨_, old⟩ | ⟨_, old, before, full | room⟩
    · exact balanced.idleSized other list old
    · obtain ⟨full, rfl⟩ := full
      cases present : inner.idle.peek key with
      | none =>
          simp only [present, Option.getD_none] at before
          simp [← before] at full
          omega
      | some list =>
          simp only [present, Option.getD_some] at before
          exact balanced.idleSized key _ (by rw [present, before])
    · obtain ⟨room, rfl⟩ := room
      simp
      omega

theorem Balanced.put (balanced : inner.Balanced) (closing : ChanId → Bool) (shared : Bool)
    (now : Time) (chans : Table (Chan K)) (key : K) (value : ConnId)
    : (inner.put closing shared now chans key value).1.Balanced := by
  rcases put_cases (Prod.mk.eta (p := inner.put closing shared now chans key value)).symm with
    ⟨same, _⟩ | ⟨waiters, lookup, _, after⟩ | ⟨_, queue, rest, waiting, _, _, after⟩
  · rw [same]
    exact balanced
  · rw [after]
    have drained : ({ inner with waiters } : PoolInner K).Balanced := by
      refine balanced.shrink rfl (fun _ _ found => found) (fun other queue found => ?_)
      simp only [lookup] at found
      split at found
      · cases found
      · exact found
    apply drained.pushIdle
    simp only [lookup, if_true]
  · rw [after]
    exact balanced.assign waiting rest

theorem Balanced.connected (balanced : inner.Balanced) (chans : Table (Chan K)) (key : K)
    : (inner.connected chans key).1.Balanced := by
  refine balanced.shrink rfl (fun _ _ found => found) (fun other queue found => ?_)
  have left : (inner.waiters.erase key).lookup other = some queue := found
  by_cases same : other = key
  · rw [same, AList.lookup_erase] at left
    cases left
  · rwa [AList.lookup_erase_ne same] at left

/-- Leaving a part of an idle list keeps the balance; an emptied list goes. -/
theorem Balanced.leave (balanced : inner.Balanced) {key : K} {list rest : List Idle}
    (stored : inner.idle.peek key = some list) (shorter : rest.length ≤ list.length)
    : ({ inner with idle := PoolInner.leave inner.idle key rest } : PoolInner K).Balanced where
  enabled := balanced.enabled
  idleAlone other left found := by
    rcases peek_leave found with ⟨_, old⟩ | ⟨same, _⟩
    · exact balanced.idleAlone other left old
    · exact balanced.idleAlone other list (same ▸ stored)
  idleSized other left found := by
    rcases peek_leave found with ⟨_, old⟩ | ⟨_, rfl, nonempty⟩
    · exact balanced.idleSized other left old
    · exact ⟨nonempty, shorter.trans (balanced.idleSized key list stored).2⟩
  waitersNonempty := balanced.waitersNonempty

theorem Balanced.found (balanced : inner.Balanced) {isOpen shared : ConnId → Bool} {now : Time}
    {key : K} {entry : Idle} {after : PoolInner K}
    (taken : inner.takeIdle isOpen shared now key = (some entry, after))
    : after.Balanced := by
  rcases takeIdle_cases taken with
    ⟨absent, _⟩ | ⟨absent, _⟩ | ⟨front, popped, skipped, rest, _, stored, _, _, left, after⟩
  · cases absent
  · cases absent
  · rw [after]
    apply balanced.leave stored
    rw [left]
    split <;> simp

/-- A checkout waits only for a key without idle connections. -/
theorem Balanced.parked (balanced : inner.Balanced) {isOpen shared : ConnId → Bool} {now : Time}
    {key : K} {after : PoolInner K}
    (taken : inner.takeIdle isOpen shared now key = (none, after)) (tx : ChanId)
    : (after.pushWaiter key tx).Balanced := by
  have emptied
      : ∃ idle : LruCache K (List Idle), after = { inner with idle }
        ∧ ∀ other list, idle.peek other = some list
          → other ≠ key ∧ inner.idle.peek other = some list := by
    rcases takeIdle_cases taken with
      ⟨_, after⟩ | ⟨_, after⟩ | ⟨_, _, _, _, absent, _⟩
    · refine ⟨_, after, fun other list found => ?_⟩
      rw [LruCache.peek_pop] at found
      split at found
      · cases found
      · next different => exact ⟨different, found⟩
    · refine ⟨_, after, fun other list found => ?_⟩
      rcases peek_leave found with kept | ⟨_, rfl, nonempty⟩
      · exact kept
      · exact absurd rfl nonempty
    · cases absent
  obtain ⟨idle, rfl, kept⟩ := emptied
  refine ⟨balanced.enabled, ?_, ?_, ?_⟩
  · intro other list found
    obtain ⟨different, old⟩ := kept other list found
    simp only [pushWaiter, AList.lookup_insert_ne different]
    exact balanced.idleAlone other list old
  · intro other list found
    exact balanced.idleSized other list (kept other list found).2
  · intro other queue found
    by_cases same : other = key
    · subst same
      simp only [pushWaiter, AList.lookup_insert, Option.some.injEq] at found
      simp [← found]
    · simp only [pushWaiter, AList.lookup_insert_ne same] at found
      exact balanced.waitersNonempty other queue found

theorem Balanced.cleanWaiters (balanced : inner.Balanced) (chans : Table (Chan K)) (key : K)
    : (inner.cleanWaiters chans key).Balanced := by
  unfold PoolInner.cleanWaiters
  split
  · exact balanced
  · next queue waiting => exact balanced.assign waiting _

theorem Balanced.clearExpired (balanced : inner.Balanced) (isOpen : ConnId → Bool) (now : Time)
    : (inner.clearExpired isOpen now).Balanced where
  enabled := balanced.enabled
  idleAlone key list found := by
    obtain ⟨old, stored, _⟩ := peek_clearExpired found
    exact balanced.idleAlone key old stored
  idleSized key list found := by
    obtain ⟨old, stored, left, nonempty⟩ := peek_clearExpired found
    refine ⟨nonempty, ?_⟩
    rw [left]
    exact (List.length_filter_le _ old).trans (balanced.idleSized key old stored).2
  waitersNonempty := balanced.waitersNonempty

/-- A new pool that is enabled is balanced. -/
theorem balanced_new {config : Config} (enabled : config.isEnabled = true) (timerIsEmpty : Bool)
    : (new config timerIsEmpty : PoolInner K).Balanced where
  enabled := of_decide_eq_true enabled
  idleAlone key list found := by cases found
  idleSized key list found := by cases found
  waitersNonempty key queue found := by cases found

end PoolInner

/-- Each operation under the lock keeps the balance. -/
theorem balanced_stable : Stable (PoolInner.Balanced (K := K)) where
  put _ closing shared now chans key value balanced :=
    balanced.put closing shared now chans key value
  connected _ chans key balanced := balanced.connected chans key
  connecting _ _ balanced := balanced.shrink rfl (fun _ _ found => found) (fun _ _ found => found)
  found _ _ _ _ _ _ _ balanced taken := balanced.found taken
  parked _ _ _ _ _ _ tx balanced taken := balanced.parked taken tx
  cleanWaiters _ chans key balanced := balanced.cleanWaiters chans key
  clearExpired _ isOpen now balanced := balanced.clearExpired isOpen now

/-- In every state of a pool, a key with an idle list has no waiters, idle lists are neither
empty nor longer than the configured limit, and no queue of waiters is empty.
-/
theorem no_wait_beside_idle {config : Config} {timerIsEmpty : Bool} {events : List (Event K)}
    {state : State K} (run : Run Step (State.new config timerIsEmpty) events state)
    : ∀ inner, state.inner = some inner →
        (∀ key list, inner.idle.peek key = some list → inner.waiters.lookup key = none)
        ∧ (∀ key list, inner.idle.peek key = some list
          → list ≠ [] ∧ list.length ≤ config.maxIdlePerHost)
        ∧ (∀ key queue, inner.waiters.lookup key = some queue → queue ≠ []) := by
  intro inner present
  have balanced : inner.Balanced := balanced_stable.run run
    (fun enabled => PoolInner.balanced_new enabled timerIsEmpty) inner present
  have configured := (configured_stable config).run run (fun _ => ⟨rfl, rfl⟩) inner present
  have limit : inner.maxIdlePerHost = config.maxIdlePerHost := configured.1
  exact ⟨balanced.idleAlone, limit ▸ balanced.idleSized, balanced.waitersNonempty⟩

/-- Host 7 has an idle connection and, by the theorem, no waiter. -/
theorem no_wait_beside_idle_sample
    : ∃ inner, sampleIdle.inner = some inner
        ∧ inner.idle.peek 7 = some [⟨0, 0⟩] ∧ inner.waiters.lookup 7 = none := by
  refine ⟨_, rfl, by decide, ?_⟩
  exact (no_wait_beside_idle sampleIdle_run _ rfl).1 7 [⟨0, 0⟩] (by decide)

end Tlsurl.Pool
