import Tlsurl.Library.KeyGuards
import Tlsurl.Pool.Parties

/-! The locks of the keys that are being connected.
`connecting` holds the keys of the `Connecting`s that refer to the pool, and each of these lets go
of its key once, as long as `alpn_h2` and `pooled` are called with the right ones.
-/

namespace Tlsurl.Pool

open Library

variable {K : Type} [DecidableEq K]

-----------------------------------------------------------------------------------------
-- Locks
-----------------------------------------------------------------------------------------

namespace Call

omit [DecidableEq K]

/-- The `Connecting` that gets the lock of a key -/
def grants : Call K → Option (Nat × K)
  | .granted token key => some (token, key)
  | _ => none

/-- The `Connecting` for which `PoolInner::connected` is called -/
def releases : Call K → Option (Nat × K)
  | .connected token key _ => some (token, key)
  | _ => none

/-- What a call asserts holds. -/
def holds : Call K → Bool
  | .granted _ _ => true
  | .connected _ _ existed => existed
  | .asserted holds => holds

end Call

namespace State

variable (state : State K)

/-- The keys that are being connected, if the pool exists. -/
def locked : Option (Finset K) := state.inner.map PoolInner.connecting

/-- Who got the lock of a key and who gave it back, as the log has it. -/
def ledger : Ledger K where
  granted := state.calls.filterMap Call.grants
  released := state.calls.filterMap Call.releases

/-- `alpn_h2` is called with a `Connecting` without a lock, and `pooled` has one with the lock of
its key for a shared connection.
-/
def Disciplined : Event K → Prop
  | .alpnH2 token => ∀ held, state.connectings.get? token = some held → held.pool = false
  | .pooled _ token http2 _ _ =>
      ∀ held, state.connectings.get? token = some held → state.inner.isSome = true
        → http2 = true → held.pool = true
  | _ => True

/-- The locks are accounted for as long as the pool exists; a disabled pool has none. All that was
asserted holds.
-/
structure Locks : Prop where
  accounted
    : ∀ locked, state.locked = some locked
      → Accounted Connecting.key Connecting.pool locked state.connectings state.ledger
  disabled
    : state.locked = none → state.alive = true
      → ∀ token held, state.connectings.get? token = some held → held.pool = false
  asserted : ∀ call ∈ state.calls, call.holds = true

end State

-----------------------------------------------------------------------------------------
-- What the operations do to the tokens
-----------------------------------------------------------------------------------------

namespace State

variable {state : State K} {token : Nat} {held : Connecting K}

/-- A `Connecting` that drops is gone. -/
theorem dropConnecting_free (found : state.connectings.get? token = some held)
    : (state.dropConnecting token).connectings = state.connectings.free token := by
  simp only [State.dropConnecting, found]
  split
  · simp
  · rfl

/-- So is one for which a connection came. -/
theorem pooled_free (found : state.connectings.get? token = some held) (closing : ChanId → Bool)
    (http2 ready poisoned : Bool)
    : (state.pooled closing token http2 ready poisoned).connectings
      = state.connectings.free token := by
  have dropped (other : State K) (same : other.connectings = state.connectings)
      : (other.dropConnecting token).connectings = state.connectings.free token := by
    have there : other.connectings.get? token = some held := by rw [same, found]
    rw [dropConnecting_free there, same]
  simp only [State.pooled, found]
  split
  · exact dropped _ rfl
  · split
    · simp
    · exact dropped _ rfl

/-- The log does not matter to new ones. -/
theorem connecting_noted (calls : List (Call K)) (key : K) (ver : Ver)
    : (({ state with calls } : State K).connecting key ver).connectings
      = (state.connecting key ver).connectings := by
  cases ver with
  | auto => rfl
  | http2 =>
      simp only [State.connecting]
      cases state.inner with
      | none => rfl
      | some inner => by_cases taken : key ∈ inner.connecting <;> simp [taken]

/-- One that is upgraded makes way for the new one. -/
theorem alpnH2_free (found : state.connectings.get? token = some held)
    : (state.alpnH2 token).connectings
      = (state.connecting held.key .http2).connectings.free token := by
  have still : (state.connecting held.key .http2).connectings.get? token = some held := by
    unfold State.connecting
    split
    · split
      · exact found
      · rw [Table.get?_alloc, if_neg (Nat.ne_of_lt (Table.lt_size found)), found]
    · rw [Table.get?_alloc, if_neg (Nat.ne_of_lt (Table.lt_size found)), found]
  simp only [State.alpnH2, found]
  rw [← connecting_noted (state.calls ++ [.asserted !held.pool])] at still ⊢
  exact dropConnecting_free still

end State

-----------------------------------------------------------------------------------------
-- What the operations do to the locks
-----------------------------------------------------------------------------------------

namespace State

variable {state next : State K}

@[simp] theorem locked_put (closing : ChanId → Bool) (key : K) (value : ConnId)
    : (state.put closing key value).locked = state.locked := by
  unfold State.put
  split
  · rfl
  · next inner present =>
      simp only [State.locked, present, Option.map_some]
      rcases PoolInner.put_cases (Prod.mk.eta (p := inner.put closing (state.canShare value)
        state.now state.chans key value)).symm with
        ⟨same, _⟩ | ⟨waiters, _, _, same⟩ | ⟨_, _, _, _, _, _, same⟩
      · rw [same]
      · obtain ⟨idle, idleIntervalRef, pushed⟩ :=
          ({ inner with waiters } : PoolInner K).pushIdle_eq state.now key value
        rw [same, pushed]
      · rw [same]

@[simp] theorem calls_put (closing : ChanId → Bool) (key : K) (value : ConnId)
    : (state.put closing key value).calls = state.calls := by
  unfold State.put
  split <;> rfl

/-- Polling a checkout leaves the locks, the handle of the pool and the log alone. -/
theorem locked_poll (id : Nat) (checkout : Checkout K)
    : (state.poll id checkout).2.locked = state.locked
      ∧ (state.poll id checkout).2.alive = state.alive
      ∧ (state.poll id checkout).2.calls = state.calls := by
  unfold State.poll
  split
  · unfold State.pollWaiter
    repeat' split
    all_goals exact ⟨rfl, rfl, rfl⟩
  · unfold State.pollIdle
    split
    · exact ⟨rfl, rfl, rfl⟩
    · next inner present =>
        split
        · next entry rest taken =>
            obtain ⟨idle, rfl⟩ := PoolInner.takeIdle_eq taken
            exact ⟨by simp [State.locked, State.reuse, present], rfl, rfl⟩
        · next rest taken =>
            obtain ⟨idle, rfl⟩ := PoolInner.takeIdle_eq taken
            exact ⟨by simp [State.locked, PoolInner.pushWaiter, present], rfl, rfl⟩

/-- So does a handle that drops. -/
theorem locked_dropPooled (closing : ChanId → Bool) (id : Nat) (pooled : Pooled K)
    : (state.dropPooled closing id pooled).locked = state.locked
      ∧ (state.dropPooled closing id pooled).alive = state.alive
      ∧ (state.dropPooled closing id pooled).calls = state.calls := by
  have alive (before : State K)
      : (before.put closing pooled.key pooled.value).alive = before.alive := by
    unfold State.put
    split <;> rfl
  rcases state.dropPooled_cases closing id pooled with same | same
  · rw [same]
    exact ⟨rfl, rfl, rfl⟩
  · rw [same, locked_put, alive, calls_put]
    exact ⟨rfl, rfl, rfl⟩

theorem locked_connected (key : K) (token : Nat)
    : (state.connected key token).locked
      = state.locked.map (fun locked => locked.erase key) := by
  unfold State.connected
  split
  · next absent => simp [State.locked, absent]
  · next inner present => simp [State.locked, present, PoolInner.connected]

/-- The log notes whether the key was locked. -/
theorem calls_connected {locked : Finset K} (present : state.locked = some locked) (key : K)
    (token : Nat)
    : (state.connected key token).calls
      = state.calls ++ [.connected token key (decide (key ∈ locked))] := by
  obtain ⟨inner, found, rfl⟩ := Option.map_eq_some_iff.mp present
  simp [State.connected, found]

/-- What leaves the locks, the tokens, the handle of the pool and the log leaves them in order. -/
theorem Locks.of_same (locks : state.Locks) (locked : next.locked = state.locked)
    (connectings : next.connectings = state.connectings) (alive : next.alive = state.alive)
    (calls : next.calls = state.calls)
    : next.Locks where
  accounted := by simpa only [locked, connectings, ledger, calls] using locks.accounted
  disabled := by simpa only [locked, connectings, alive] using locks.disabled
  asserted := by simpa only [calls] using locks.asserted

variable (state) in
theorem ledger_append {call : Call K} (calls : next.calls = state.calls ++ [call])
    : next.ledger = state.ledger.record call.grants call.releases := by
  simp only [ledger, calls, List.filterMap_append, Ledger.record]
  cases call <;> rfl

theorem Locks.asserted_append (locks : state.Locks) {call : Call K}
    (calls : next.calls = state.calls ++ [call]) (holds : call.holds = true)
    : ∀ call ∈ next.calls, call.holds = true := by
  rw [calls]
  exact List.forall_mem_append.mpr ⟨locks.asserted, List.forall_mem_singleton.mpr holds⟩

/-- What is asserted may hold. -/
theorem Locks.assert (locks : state.Locks) {holds : Bool} (told : holds = true)
    : ({ state with calls := state.calls ++ [.asserted holds] } : State K).Locks where
  accounted locked present := by
    rw [ledger_append state rfl]
    simpa [Call.grants, Call.releases, Ledger.record] using locks.accounted locked present
  disabled := locks.disabled
  asserted := locks.asserted_append rfl told

theorem Locks.connecting (locks : state.Locks) (key : K) (ver : Ver)
    : (state.connecting key ver).Locks := by
  have plain : ({ state with connectings := state.connectings.alloc { key, pool := false } }
      : State K).Locks := by
    refine ⟨fun locked present => (locks.accounted locked present).alloc_plain rfl,
      fun without alive token held found => ?_, locks.asserted⟩
    rw [Table.get?_alloc] at found
    split at found
    · cases found
      rfl
    · exact locks.disabled without alive token held found
  unfold State.connecting
  split
  · next inner present =>
      split
      · exact locks
      · next free =>
          have accounted := locks.accounted inner.connecting (by simp [State.locked, present])
          refine ⟨fun locked same => ?_, nofun, locks.asserted_append rfl rfl⟩
          cases same
          rw [ledger_append state rfl]
          have holds : (⟨key, true⟩ : Connecting K).pool = true := rfl
          exact accounted.alloc_lock holds free
  · exact plain

/-- A `Connecting` with a lock that goes lets go of its key. -/
theorem Locks.release (locks : state.Locks) {token : Nat} {held : Connecting K}
    (found : state.connectings.get? token = some held) (holds : held.pool = true)
    {locked : Finset K} (before : state.locked = some locked)
    (after : next.locked = some (locked.erase held.key))
    (connectings : next.connectings = state.connectings.free token)
    (calls : next.calls = state.calls ++ [.connected token held.key (decide (held.key ∈ locked))])
    : next.Locks where
  accounted erased there := by
    cases after.symm.trans there
    rw [connectings, ledger_append state calls]
    exact (locks.accounted locked before).free_lock found holds
  disabled without := by
    rw [after] at without
    cases without
  asserted := by
    have mine : held.key ∈ locked :=
      ((locks.accounted locked before).exact held.key).mpr ⟨token, held, found, holds, rfl⟩
    exact locks.asserted_append calls (by simpa [Call.holds] using mine)

/-- A `Connecting` that drops lets go of its key, if it refers to the pool. -/
theorem Locks.dropConnecting (locks : state.Locks) (token : Nat)
    : (state.dropConnecting token).Locks := by
  unfold State.dropConnecting
  cases found : state.connectings.get? token with
  | none => exact locks
  | some held =>
      have disabled (without : state.locked = none) (alive : state.alive = true) (other : Nat)
          (second : Connecting K)
          (there : (state.connectings.free token).get? other = some second)
          : second.pool = false := by
        rw [Table.get?_free] at there
        split at there
        · cases there
        · exact locks.disabled without alive other second there
      simp only
      split
      · next holds =>
          cases present : state.inner with
          | none =>
              have without : state.locked = none := by simp [State.locked, present]
              let freed : State K :=
                { state with inner := none, connectings := state.connectings.free token }
              have same : freed.connected held.key token = freed := rfl
              rw [same]
              refine ⟨fun locked there => ?_, fun _ => disabled without, locks.asserted⟩
              cases there
          | some inner =>
              have before : state.locked = some inner.connecting := by simp [State.locked, present]
              refine locks.release found holds before ?_ (by simp) (calls_connected rfl _ _)
              rw [locked_connected]
              rfl
      · next plain =>
          exact ⟨fun locked present =>
            (locks.accounted locked present).free_plain found (Bool.eq_false_of_not_eq_true plain),
            disabled, locks.asserted⟩

theorem Locks.alpnH2 (locks : state.Locks) {token : Nat}
    (disciplined : state.Disciplined (.alpnH2 token))
    : (state.alpnH2 token).Locks := by
  unfold State.alpnH2
  split
  · exact locks
  · next held found =>
      have unlocked : (!held.pool) = true := by simp [disciplined held found]
      have noted := locks.assert unlocked
      exact (noted.connecting held.key .http2).dropConnecting token

theorem Locks.pooled (locks : state.Locks) (alive : state.alive = true) {closing : ChanId → Bool}
    {token : Nat} {http2 : Bool} (ready poisoned : Bool)
    (disciplined : state.Disciplined (.pooled closing token http2 ready poisoned))
    : (state.pooled closing token http2 ready poisoned).Locks := by
  unfold State.pooled
  cases found : state.connectings.get? token with
  | none => exact locks
  | some held =>
      simp only
      split
      · next absent =>
          have plain : held.pool = false :=
            locks.disabled (by simp [State.locked, absent]) alive token held found
          have unlocked : (!held.pool) = true := by simp [plain]
          have noted := locks.assert unlocked
          refine Locks.dropConnecting ?_ token
          exact noted.of_same (by simp [State.locked, absent]) rfl rfl rfl
      · next inner present =>
          have before : state.locked = some inner.connecting := by simp [State.locked, present]
          split
          · next shared =>
              have holds := disciplined held found (by simp [present]) shared
              let conn : Conn K := { key := held.key, http2, ready, poisoned }
              let opened : State K := { state with conns := state.conns.alloc conn }
              have stored : (opened.put closing held.key state.conns.size).locked
                  = some inner.connecting := by
                rw [locked_put]
                exact before
              refine locks.release found holds before ?_ (by simp) ?_
              · exact (locked_connected held.key token).trans (congrArg _ stored)
              · exact (calls_connected stored held.key token).trans
                  (congrArg (· ++ _) (calls_put closing held.key state.conns.size))
          · refine Locks.dropConnecting ?_ token
            exact locks.of_same (by simp [State.locked, present]) rfl rfl rfl

end State

/-- A disciplined step keeps the locks in order. -/
theorem Step.locks {state next : State K} {event : Event K} (step : Step state event next)
    (disciplined : state.Disciplined event) (locks : state.Locks)
    : next.Locks := by
  cases event with
  | connecting key ver =>
      obtain ⟨_, rfl⟩ := step
      exact locks.connecting key ver
  | alpnH2 token =>
      obtain ⟨_, rfl⟩ := step
      exact locks.alpnH2 disciplined
  | dropConnecting token =>
      obtain rfl := step
      exact locks.dropConnecting token
  | pooled closing token http2 ready poisoned =>
      obtain ⟨alive, rfl⟩ := step
      exact locks.pooled alive ready poisoned disciplined
  | checkout key =>
      obtain ⟨_, rfl⟩ := step
      exact locks.of_same rfl rfl rfl rfl
  | poll id outcome =>
      obtain ⟨checkout, _, _, polled⟩ := step
      have same := state.poll_connectings id checkout
      have rest := @State.locked_poll _ _ state id checkout
      rw [polled] at same rest
      exact locks.of_same rest.1 same rest.2.1 rest.2.2
  | beginDrop id =>
      obtain ⟨checkout, _, _, rfl⟩ := step
      refine locks.of_same ?_ (state.beginDrop_connectings id checkout) ?_ ?_ <;>
        (unfold State.beginDrop; split <;> rfl)
  | closeReceiver id =>
      obtain ⟨checkout, rx, _, _, _, rfl⟩ := step
      exact locks.of_same rfl rfl rfl rfl
  | endDrop id =>
      obtain ⟨checkout, _, _, _, rfl⟩ := step
      refine locks.of_same ?_ rfl rfl rfl
      simp only [State.locked, State.endDrop, Option.map_map]
      congr 1
      funext inner
      simp only [Function.comp_apply, PoolInner.cleanWaiters]
      split <;> rfl
  | dropPooled closing id =>
      obtain ⟨pooled, _, rfl⟩ := step
      have rest := @State.locked_dropPooled _ _ state closing id pooled
      exact locks.of_same rest.1 (state.dropPooled_connectings closing id pooled) rest.2.1 rest.2.2
  | clearExpired =>
      obtain ⟨inner, present, _, rfl⟩ := step
      exact locks.of_same (by simp [State.locked, present, PoolInner.clearExpired]) rfl rfl rfl
  | setReady value ready =>
      obtain ⟨conn, _, rfl⟩ := step
      exact locks.of_same rfl rfl rfl rfl
  | poison value =>
      obtain ⟨conn, _, rfl⟩ := step
      exact locks.of_same rfl rfl rfl rfl
  | tick elapsed =>
      obtain rfl := step
      exact locks.of_same rfl rfl rfl rfl
  | dropPool =>
      obtain ⟨_, _, rfl⟩ := step
      have gone : state.dropPool.locked = none ∧ state.dropPool.alive = false
          ∧ state.dropPool.calls = state.calls := by
        unfold State.dropPool
        split
        · next absent => simp [State.locked, absent]
        · exact ⟨rfl, rfl, rfl⟩
      refine ⟨fun locked present => ?_, fun _ alive => ?_, ?_⟩
      · rw [gone.1] at present
        cases present
      · rw [gone.2.1] at alive
        cases alive
      · rw [gone.2.2]
        exact locks.asserted

end Tlsurl.Pool
