import Tlsurl.Pool.IdleLists
import Tlsurl.Pool.Queues

/-! The maximum pool size and the number of idle connections.
The limit counts the keys that have idle connections, not the connections.
-/

namespace Tlsurl.Pool

open Library

variable {K : Type} [DecidableEq K]

-----------------------------------------------------------------------------------------
-- What is counted
-----------------------------------------------------------------------------------------

/-- The idle connections of all keys. -/
def PoolInner.idleCount (inner : PoolInner K) : Nat :=
  AssocMap.weight List.length inner.idle.map

/-- The idle connections that the pool holds; one that does not exist holds none. -/
def State.idleCount (state : State K) : Nat := state.inner.elim 0 PoolInner.idleCount

/-- At most `limit` connections are idle. -/
def State.Within (limit : ℕ+) (state : State K) : Prop := state.idleCount ≤ limit

/-- Whether a call of `put` adds the connection to the idle list of its key: it is not shared
and listed already, no waiter takes it, and the list is not full.
-/
def PutCall.keeps (call : PutCall K) (inner : PoolInner K) (chans : Table (Chan K)) : Bool :=
  !(call.shared && (inner.idle.peek call.key).isSome)
    && (deliver call.closing call.shared call.value
      ((inner.waiters.lookup call.key).getD []) chans).2.1.isSome
    && decide (((inner.idle.peek call.key).getD []).length < inner.maxIdlePerHost)

/-- Whether the cache takes a list under this key without giving up the list of another. -/
def PoolInner.sparesOthers (inner : PoolInner K) (limit : ℕ+) (key : K) : Bool :=
  (inner.idle.peek key).isSome || decide (inner.idle.len < limit)

/-- An event that adds an idle connection to `limit` others without an eviction. -/
def State.overfills (state : State K) (limit : ℕ+) (event : Event K) : Bool :=
  match state.inner, state.putBy event with
  | some inner, some call =>
      call.keeps inner state.chans && decide ((limit : Nat) ≤ inner.idleCount)
        && inner.sparesOthers limit call.key
  | _, _ => false

-----------------------------------------------------------------------------------------
-- What `put` does to the count
-----------------------------------------------------------------------------------------

namespace PoolInner

variable {inner : PoolInner K}

/-- A value that no waiter takes is pushed; the waiters are not part of the idle lists. -/
theorem put_idle_of_unlisted {closing : ChanId → Bool} {shared : Bool} {key : K} {value : ConnId}
    (unlisted : (shared && (inner.idle.peek key).isSome) = false) (now : Time)
    (chans : Table (Chan K))
    : (inner.put closing shared now chans key value).1.idle
      = if (deliver closing shared value ((inner.waiters.lookup key).getD []) chans).2.1.isSome
        then (inner.pushIdle now key value).idle
        else inner.idle := by
  unfold put
  rw [unlisted, if_neg Bool.false_ne_true]
  split
  · next absent => simp [absent, deliver]
  · next queue waiting =>
      rw [waiting, Option.getD_some]
      cases given : deliver closing shared value queue chans with
      | mk rest result =>
          obtain ⟨kept, sent⟩ := result
          rcases deliver_cases given with ⟨_, rfl⟩ | ⟨_, _, rfl⟩
          · simp only [Option.isSome_some, if_true, pushIdle_idle rfl]
          · rfl

/-- `put` leaves the idle lists alone, writes a full list back, or adds the connection to a
list that is not full.
-/
theorem put_idle_cases (inner : PoolInner K) (call : PutCall K) (now : Time)
    (chans : Table (Chan K))
    : (call.keeps inner chans = false
        ∧ (inner.put call.closing call.shared now chans call.key call.value).1.idle
          = inner.idle)
      ∨ (∃ old, (inner.idle.peek call.key).getD [] = old
        ∧ call.keeps inner chans = false
        ∧ (inner.put call.closing call.shared now chans call.key call.value).1.idle
          = inner.idle.put call.key old)
      ∨ (∃ old, (inner.idle.peek call.key).getD [] = old
        ∧ call.keeps inner chans = true
        ∧ (inner.put call.closing call.shared now chans call.key call.value).1.idle
          = (inner.idle.put call.key old).put call.key (old ++ [⟨now, call.value⟩])) := by
  obtain ⟨closing, shared, key, value⟩ := call
  cases listed : shared && (inner.idle.peek key).isSome with
  | true =>
      refine .inl ⟨by simp [PutCall.keeps, listed], ?_⟩
      simp only [put, listed, if_true]
  | false =>
      simp only [put_idle_of_unlisted listed, pushIdle_idle rfl]
      cases kept
        : (deliver closing shared value ((inner.waiters.lookup key).getD []) chans).2.1.isSome
      with
      | false => exact .inl ⟨by simp [PutCall.keeps, kept], rfl⟩
      | true =>
          by_cases full : inner.maxIdlePerHost ≤ ((inner.idle.peek key).getD []).length
          · refine .inr (.inl ⟨_, rfl, ?_, ?_⟩)
            · simp [PutCall.keeps, full]
            · simp [full]
          · refine .inr (.inr ⟨_, rfl, ?_, ?_⟩)
            · simp [PutCall.keeps, listed, kept, Nat.lt_of_not_le full]
            · simp [full]

/-- A list that is written back under its key counts as before, or less. -/
theorem weight_put_back_le (idle : LruCache K (List Idle)) (key : K)
    : AssocMap.weight List.length (idle.put key ((idle.peek key).getD [])).map
      ≤ AssocMap.weight List.length idle.map := by
  have written := LruCache.weight_put_le List.length idle key ((idle.peek key).getD [])
  cases stored : idle.peek key with
  | none =>
      simp only [stored, Option.getD_none, Option.elim_none, List.length_nil] at written ⊢
      omega
  | some old =>
      simp only [stored, Option.getD_some, Option.elim_some] at written ⊢
      omega

/-- Adding a connection adds one to what the list weighs when it is written back. -/
theorem weight_put_append (idle : LruCache K (List Idle)) (key : K) (entry : Idle)
    {old : List Idle}
    : AssocMap.weight List.length ((idle.put key old).put key (old ++ [entry])).map
      = AssocMap.weight List.length (idle.put key old).map + 1 := by
  have written := LruCache.weight_put_present List.length (LruCache.peek_put_self idle key old)
    (old ++ [entry])
  simp only [List.length_append, List.length_singleton] at written
  omega

/-- Writing a list back costs no other list if the key is present or the cache has room. -/
theorem weight_put_back_of_spares {limit : ℕ+} (limited : inner.idle.capacity = some limit)
    {key : K} (spares : inner.sparesOthers limit key = true)
    : AssocMap.weight List.length (inner.idle.put key ((inner.idle.peek key).getD [])).map
      = inner.idleCount := by
  cases stored : inner.idle.peek key with
  | some old =>
      have written := LruCache.weight_put_present List.length stored old
      rw [Option.getD_some, idleCount]
      omega
  | none =>
      have room : inner.idle.len < limit := by
        simpa [sparesOthers, stored] using spares
      have written := LruCache.weight_put_absent List.length stored []
      rw [LruCache.makeRoom_of_lt limited room] at written
      exact written

/-- Otherwise it costs at least one connection of another list. -/
theorem weight_put_back_of_evicts (balanced : inner.Balanced) {limit : ℕ+}
    (limited : inner.idle.capacity = some limit) {key : K}
    (evicts : inner.sparesOthers limit key = false)
    : AssocMap.weight List.length (inner.idle.put key ((inner.idle.peek key).getD [])).map
      < inner.idleCount := by
  obtain ⟨absent, full⟩ : inner.idle.peek key = none ∧ (limit : Nat) ≤ inner.idle.len := by
    simpa [sparesOthers] using evicts
  have written := LruCache.weight_put_absent List.length absent []
  have lighter := LruCache.weight_makeRoom_lt List.length limited full
    (fun key list stored => List.length_pos_of_ne_nil (balanced.idleSized key list stored).1)
  rw [absent, Option.getD_none, idleCount]
  simp only [List.length_nil] at written
  omega

/-- Within the limit, `put` goes over it exactly by adding to `limit` connections without an
eviction.
-/
theorem put_within_iff (balanced : inner.Balanced) {limit : ℕ+}
    (limited : inner.idle.capacity = some limit) (within : inner.idleCount ≤ limit)
    (call : PutCall K) (now : Time) (chans : Table (Chan K))
    : (inner.put call.closing call.shared now chans call.key call.value).1.idleCount ≤ limit
      ↔ (call.keeps inner chans && decide ((limit : Nat) ≤ inner.idleCount)
          && inner.sparesOthers limit call.key)
        = false := by
  have back := weight_put_back_le inner.idle call.key
  rcases put_idle_cases inner call now chans with
    ⟨dropped, idle⟩ | ⟨old, rfl, dropped, idle⟩ | ⟨old, rfl, kept, idle⟩
  · rw [dropped, Bool.false_and, Bool.false_and, idleCount, idle]
    exact iff_of_true within rfl
  · rw [dropped, Bool.false_and, Bool.false_and, idleCount, idle]
    exact iff_of_true (back.trans within) rfl
  · rw [idleCount, idle, weight_put_append, kept, Bool.true_and]
    cases spares : inner.sparesOthers limit call.key with
    | true =>
        rw [weight_put_back_of_spares limited spares]
        simp only [Bool.and_true, decide_eq_false_iff_not, not_le, Nat.lt_iff_add_one_le]
    | false =>
        have evicted := weight_put_back_of_evicts balanced limited spares
        simp only [Bool.and_false, iff_true]
        omega

/-- Taking an idle connection adds none. -/
theorem idleCount_takeIdle_le {after : PoolInner K} {isOpen shared : ConnId → Bool} {now : Time}
    {key : K} {found : Option Idle}
    (taken : inner.takeIdle isOpen shared now key = (found, after))
    : after.idleCount ≤ inner.idleCount := by
  unfold idleCount
  rcases takeIdle_cases taken with
    ⟨_, rfl⟩ | ⟨_, rfl⟩ | ⟨front, entry, skipped, rest, _, stored, _, _, left, rfl⟩
  · have popped := LruCache.weight_pop List.length inner.idle key
    simp only
    omega
  · have emptied := weight_leave_le List.length inner.idle key []
    simp only [List.length_nil] at emptied ⊢
    omega
  · have written := weight_leave_le List.length inner.idle key rest
    have shorter : rest.length ≤ (front ++ entry :: skipped).length := by
      rw [left]
      split <;> simp
    simp only [stored, Option.elim_some] at written ⊢
    omega

/-- A sweep adds none either. -/
theorem idleCount_clearExpired_le (inner : PoolInner K) (isOpen : ConnId → Bool) (now : Time)
    : (inner.clearExpired isOpen now).idleCount ≤ inner.idleCount :=
  weight_clearExpired_le List.length (fun list keep => List.length_filter_le keep list) inner
    isOpen now

end PoolInner

/-- No operation changes the capacity of the cache of idle lists. -/
theorem capacity_stable (capacity : Option ℕ+)
    : Stable (fun inner : PoolInner K => inner.idle.capacity = capacity) where
  put inner closing shared now chans key value same := by
    rcases PoolInner.put_idle_cases inner ⟨closing, shared, key, value⟩ now chans with
      ⟨_, idle⟩ | ⟨old, _, _, idle⟩ | ⟨old, _, _, idle⟩
    · rw [idle]
      exact same
    · rw [idle, LruCache.put_capacity]
      exact same
    · rw [idle, LruCache.put_capacity, LruCache.put_capacity]
      exact same
  connected _ _ _ same := same
  connecting _ _ same := same
  found inner isOpen shared now key entry rest same taken := by
    rcases PoolInner.takeIdle_cases taken
      with ⟨_, rfl⟩ | ⟨_, rfl⟩ | ⟨_, _, _, _, _, _, _, _, _, rfl⟩
    · exact same
    · exact (PoolInner.leave_capacity _ _ _).trans same
    · exact (PoolInner.leave_capacity _ _ _).trans same
  parked inner isOpen shared now key rest tx same taken := by
    rcases PoolInner.takeIdle_cases taken
      with ⟨_, rfl⟩ | ⟨_, rfl⟩ | ⟨_, _, _, _, _, _, _, _, _, rfl⟩
    · exact same
    · exact (PoolInner.leave_capacity _ _ _).trans same
    · exact (PoolInner.leave_capacity _ _ _).trans same
  cleanWaiters inner chans key same := by
    unfold PoolInner.cleanWaiters
    split <;> exact same
  clearExpired inner isOpen now same := by
    simp only [PoolInner.clearExpired, LruCache.foldl_pop_capacity]
    exact same

-----------------------------------------------------------------------------------------
-- Runs
-----------------------------------------------------------------------------------------

/-- Within the limit, a step goes over it exactly by overfilling the pool. -/
theorem Step.within_iff {state next : State K} {event : Event K} {limit : ℕ+}
    (balanced : state.Holds PoolInner.Balanced)
    (limited : state.Holds (fun inner => inner.idle.capacity = some limit))
    (within : state.idleCount ≤ limit) (step : Step state event next)
    : next.idleCount ≤ limit ↔ state.overfills limit event = false := by
  cases present : state.inner with
  | none =>
      have gone := State.idle_none_of_step step present
      simp [State.idleCount, State.overfills, gone, present]
  | some inner =>
      have before : inner.idleCount ≤ limit := by
        simpa [State.idleCount, present] using within
      have counted {idle : LruCache K (List Idle)} (after : next.idle = some idle)
          : next.idleCount = AssocMap.weight List.length idle.map := by
        obtain ⟨later, stored, rfl⟩ := Option.map_eq_some_iff.mp after
        simp [State.idleCount, stored, PoolInner.idleCount]
      have quietly (quiet : state.putBy event = none) (fewer : next.idleCount ≤ limit)
          : next.idleCount ≤ limit ↔ state.overfills limit event = false :=
        iff_of_true fewer (by simp [State.overfills, present, quiet])
      rcases step.idle_cases present with ⟨gone, quiet⟩ | ⟨idle, after, change⟩
      · have none : next.inner = none := Option.map_eq_none_iff.mp gone
        exact quietly quiet (by simp [State.idleCount, none])
      · rw [counted after] at quietly ⊢
        cases change with
        | kept quiet => exact quietly quiet before
        | @put call made =>
            have decided := PoolInner.put_within_iff (balanced inner present)
              (limited inner present) before call state.now state.chans
            simpa only [State.overfills, present, made, PoolInner.idleCount] using decided
        | taken quiet taken =>
            exact quietly quiet ((PoolInner.idleCount_takeIdle_le taken).trans before)
        | cleared quiet =>
            have fewer := PoolInner.idleCount_clearExpired_le inner state.isOpen state.now
            exact quietly quiet (fewer.trans before)

/-- The idle connections of a pool stay within its size limit all along a run exactly if no
step adds one to as many as the limit without an eviction.
-/
theorem within_size_limit_iff {config : Config} {timerIsEmpty : Bool} {limit : ℕ+}
    (limited : config.maxPoolSize = some limit) {events : List (Event K)} {state : State K}
    : Run (Through (State.Within limit) Step) (State.new config timerIsEmpty) events state
      ↔ Run (Guarded (fun state event => state.overfills limit event = false) Step)
          (State.new config timerIsEmpty) events state := by
  apply Run.through_iff_guarded
  · unfold State.new
    split <;> exact Nat.zero_le _
  · intro past before event after run within step
    have capacity : before.Holds (fun inner => inner.idle.capacity = config.maxPoolSize) :=
      (capacity_stable config.maxPoolSize).run run (fun _ => rfl)
    rw [limited] at capacity
    have balanced : before.Holds PoolInner.Balanced :=
      balanced_stable.run run (fun enabled => PoolInner.balanced_new enabled timerIsEmpty)
    exact step.within_iff balanced capacity within

-----------------------------------------------------------------------------------------
-- Samples
-----------------------------------------------------------------------------------------

/-- A pool for one connection, though a host may keep several. -/
def singleConfig : Config :=
  { idleTimeout := none, maxIdlePerHost := 32, maxPoolSize := some 1 }

/-- Two connections of host 7 are opened, then both are returned. -/
def twoReturned : List (Event Nat) :=
  [.connecting 7 .auto, .pooled (fun _ => false) 0 false true false, .connecting 7 .auto,
    .pooled (fun _ => false) 1 false true false, .dropPooled (fun _ => false) 0,
    .dropPooled (fun _ => false) 1]

/-- Two connections that were opened for host 7. -/
def twoOpened : State Nat :=
  let first := ((State.new singleConfig true).connecting 7 .auto).pooled (fun _ => false) 0
    false true false
  (first.connecting 7 .auto).pooled (fun _ => false) 1 false true false

/-- The handle to a connection of host 7 that has not been used before. -/
def ownHandle (value : ConnId) : Pooled Nat := { value, isReused := false, key := 7, pool := true }

/-- The first of the two is returned. -/
def oneIdle : State Nat := twoOpened.dropPooled (fun _ => false) 0 (ownHandle 0)

/-- With the second there are two idle connections in a pool for one. -/
theorem second_of_host_exceeds_limit
    : ∃ state, Run Step (State.new singleConfig true) twoReturned state
        ∧ singleConfig.maxPoolSize = some 1 ∧ state.idleCount = 2 := by
  refine ⟨oneIdle.dropPooled (fun _ => false) 1 (ownHandle 1), ?_, rfl, by decide⟩
  apply Run.cons
  · exact ⟨rfl, rfl⟩
  apply Run.cons
  · exact ⟨rfl, rfl⟩
  apply Run.cons
  · exact ⟨rfl, rfl⟩
  apply Run.cons
  · exact ⟨rfl, rfl⟩
  apply Run.cons
  · exact ⟨_, rfl, rfl⟩
  apply Run.cons
  · exact ⟨_, rfl, rfl⟩
  exact .nil

/-- With only the first of them the pool stays within its limit. -/
theorem within_size_limit_iff_one
    : Run (Through (State.Within 1) Step) (State.new singleConfig true) (twoReturned.take 5)
        oneIdle := by
  refine (within_size_limit_iff rfl).mpr ?_
  apply Run.cons
  · exact ⟨rfl, rfl, rfl⟩
  apply Run.cons
  · exact ⟨rfl, rfl, rfl⟩
  apply Run.cons
  · exact ⟨rfl, rfl, rfl⟩
  apply Run.cons
  · exact ⟨rfl, rfl, rfl⟩
  apply Run.cons
  · exact ⟨by decide, _, rfl, rfl⟩
  exact .nil

end Tlsurl.Pool
