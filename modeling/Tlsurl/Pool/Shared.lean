import Tlsurl.Pool.Discards
import Tlsurl.Pool.Keys
import Tlsurl.Pool.SizeLimit

/-! Whether a shared connection that was just made is found again.
`PoolInner::put` leaves a shared connection out if its key has an idle list, whatever is on it.
-/

namespace Tlsurl.Pool

open Library

variable {K : Type} [DecidableEq K]

-----------------------------------------------------------------------------------------
-- What is found
-----------------------------------------------------------------------------------------

/-- An entry that a checkout can take: its connection is open and it has not expired. -/
def State.takes (state : State K) (expiration : Option Time) (entry : Idle) : Bool :=
  state.isOpen entry.value && !expires expiration entry.idleAt state.now

/-- The idle list of a key, if the pool exists and has one -/
def State.idleList (state : State K) (key : K) : Option (List Idle) :=
  state.inner.bind (fun inner => inner.idle.peek key)

/-- The idle list of the key holds an open connection that has not expired. -/
def State.usable (state : State K) (key : K) : Bool :=
  state.inner.any (fun inner =>
    (inner.idle.peek key).any (fun list => list.any (state.takes inner.timeout)))

/-- The key for which an event makes an open HTTP/2 connection in a pool that exists -/
def State.sharedBy (state : State K) : Event K → Option K
  | .pooled _ token true true false =>
      if state.inner.isSome then (state.connectings.get? token).map Connecting.key else none
  | _ => none

/-- A checkout of the key succeeds at its first poll, with an open connection. -/
def State.ServesNext (state : State K) (key : K) : Prop :=
  ∃ value idleSince,
    ((state.checkout key).poll state.checkouts.size { key }).1 = .ok value idleSince
    ∧ state.isOpen value = true

/-- After an open shared connection was made, its key has a connection to take, and checkouts
succeed for as long as it has.
-/
def State.FoundAgain (state : State K) (event : Event K) (next : State K) : Prop :=
  ∀ key, state.sharedBy event = some key
    → next.usable key = true
      ∧ ∀ events later, Run Step next events later → later.usable key = true
        → later.ServesNext key

/-- An open shared connection is made only for a key without an idle list, or with one that has a
connection to take.
-/
def State.MakesFindable (state : State K) (event : Event K) : Prop :=
  ∀ key, state.sharedBy event = some key
    → (state.idleList key).isSome = true → state.usable key = true

-----------------------------------------------------------------------------------------
-- Checkouts
-----------------------------------------------------------------------------------------

namespace PoolInner

/-- Something is found where there is something to take. -/
theorem takeIdle_isSome {inner after : PoolInner K} {isOpen shared : ConnId → Bool} {now : Time}
    {key : K} {found : Option Idle} {list : List Idle} {entry : Idle}
    (taken : inner.takeIdle isOpen shared now key = (found, after))
    (listed : inner.idle.peek key = some list) (member : entry ∈ list)
    (opened : isOpen entry.value = true)
    (fresh : expires inner.timeout entry.idleAt now = false)
    : ∃ first, found = some first ∧ isOpen first.value = true := by
  have kept := takeIdle_entry taken listed member
  have usable : ¬ (isOpen entry.value = false
      ∨ expires inner.timeout entry.idleAt now = true) := by
    simp [opened, fresh]
  rcases takeIdle_cases taken with ⟨rfl, rfl⟩ | ⟨rfl, rfl⟩ | ⟨front, first, skipped, rest, rfl, _,
    isOpen, _⟩
  · rcases kept with ⟨later, stored, _⟩ | found | ⟨_, gone, _⟩
    · rw [LruCache.peek_pop, if_pos rfl] at stored
      cases stored
    · cases found
    · exact absurd gone usable
  · rcases kept with ⟨later, stored, _⟩ | found | ⟨_, gone, _⟩
    · rcases peek_leave stored with ⟨different, _⟩ | ⟨_, _, nonempty⟩
      · exact absurd rfl different
      · exact absurd rfl nonempty
    · cases found
    · exact absurd gone usable
  · exact ⟨first, rfl, isOpen⟩

end PoolInner

theorem State.usable_iff {state : State K} {key : K}
    : state.usable key = true
      ↔ ∃ inner list entry, state.inner = some inner ∧ inner.idle.peek key = some list
        ∧ entry ∈ list ∧ state.isOpen entry.value = true
        ∧ expires inner.timeout entry.idleAt state.now = false := by
  simp only [usable, takes, Option.any_eq_true, List.any_eq_true, Bool.and_eq_true,
    Bool.not_eq_true']
  constructor
  · rintro ⟨inner, present, list, listed, entry, member, opened, fresh⟩
    exact ⟨inner, list, entry, present, listed, member, opened, fresh⟩
  · rintro ⟨inner, list, entry, present, listed, member, opened, fresh⟩
    exact ⟨inner, present, list, listed, entry, member, opened, fresh⟩

/-- A checkout succeeds wherever there is a connection to take. -/
theorem State.servesNext_of_usable {state : State K} {key : K} (usable : state.usable key = true)
    : state.ServesNext key := by
  obtain ⟨inner, list, entry, present, listed, member, opened, fresh⟩ := usable_iff.mp usable
  cases taken : inner.takeIdle state.isOpen state.canShare state.now key with
  | mk found after =>
      obtain ⟨first, rfl, isOpen⟩ :=
        PoolInner.takeIdle_isSome taken listed member opened fresh
      refine ⟨first.value, some first.idleAt, ?_, isOpen⟩
      have taken : inner.takeIdle (state.checkout key).isOpen (state.checkout key).canShare
          (state.checkout key).now key = (some first, after) := taken
      have present : (state.checkout key).inner = some inner := present
      simp only [State.poll, State.pollIdle, present, taken]

-----------------------------------------------------------------------------------------
-- Making a shared connection
-----------------------------------------------------------------------------------------

/-- Putting a shared connection leaves the idle list of its key as it is, or starts one. -/
theorem PoolInner.peek_put_shared {inner : PoolInner K} (enabled : 0 < inner.maxIdlePerHost)
    (closing : ChanId → Bool) (now : Time) (chans : Table (Chan K)) (key : K) (value : ConnId)
    : (inner.put closing true now chans key value).1.idle.peek key
      = some ((inner.idle.peek key).getD [⟨now, value⟩]) := by
  cases listed : inner.idle.peek key with
  | some list => simp [put, listed]
  | none =>
      have kept : (deliver closing true value ((inner.waiters.lookup key).getD []) chans).2.1
          = some value := by
        rcases deliver_cases (Prod.ext rfl rfl) with ⟨_, kept⟩ | ⟨unique, _⟩
        · exact kept
        · cases unique
      have unlisted : (true && (inner.idle.peek key).isSome) = false := by simp [listed]
      rw [put_idle_of_unlisted unlisted, kept, Option.isSome_some, if_pos rfl, pushIdle_idle rfl,
        listed, Option.getD_none, List.length_nil, if_neg (Nat.not_le.mpr enabled),
        LruCache.peek_put_self]
      rfl

/-- Putting a connection keeps the expiration. -/
theorem PoolInner.put_timeout (inner : PoolInner K) (closing : ChanId → Bool) (shared : Bool)
    (now : Time) (chans : Table (Chan K)) (key : K) (value : ConnId)
    : (inner.put closing shared now chans key value).1.timeout = inner.timeout :=
  ((configured_stable ⟨inner.timeout, inner.maxIdlePerHost, none⟩).put inner closing shared now
    chans key value ⟨rfl, rfl⟩).2

/-- What `Pool::pooled` leaves with an open shared connection -/
theorem State.pooled_shared {state : State K} {inner : PoolInner K} {connecting : Connecting K}
    (present : state.inner = some inner) {token : Nat}
    (found : state.connectings.get? token = some connecting) (closing : ChanId → Bool)
    : let key := connecting.key
      let after := state.pooled closing token true true false
      ∃ later, after.inner = some later
        ∧ later.idle
          = (inner.put closing true state.now state.chans key state.conns.size).1.idle
        ∧ later.timeout = inner.timeout ∧ after.now = state.now
        ∧ after.conns
          = state.conns.alloc { key, http2 := true, ready := true, poisoned := false } := by
  intro key after
  let stored := inner.put closing true state.now state.chans key state.conns.size
  refine ⟨(stored.1.connected stored.2 key).1, ?_, rfl,
    inner.put_timeout closing true state.now state.chans key state.conns.size, ?_⟩
  · have shared : State.canShare { state with
          inner := some inner
          conns := state.conns.alloc { key, http2 := true, ready := true, poisoned := false } }
        state.conns.size = true := by
      simp [State.canShare, Table.get?_alloc]
    simp only [after, State.pooled, found, present, if_true, State.put, State.connected]
    rw [shared]
  · simp only [after, State.pooled, found, present, if_true, State.put, State.connected]
    exact ⟨trivial, rfl⟩

/-- What is idle since now has not expired. -/
theorem expires_self (expiration : Option Time) (now : Time)
    : expires expiration now now = false := by
  cases expiration <;> simp [expires]

/-- A new connection changes none that is there. -/
theorem State.isOpen_of_conns {state after : State K} {conn : Conn K}
    (conns : after.conns = state.conns.alloc conn) (value : ConnId)
    : after.isOpen value
      = if value = state.conns.size then conn.isOpen else state.isOpen value := by
  simp only [State.isOpen, conns, Table.get?_alloc]
  split <;> rfl

/-- What holds in every state reached of what is idle -/
structure State.Filed (state : State K) : Prop where
  keyed : state.Keyed
  balanced : state.Holds PoolInner.Balanced

/-- After an open shared connection was made its key has a connection to take exactly if it had one
or no list.
-/
theorem State.usable_pooled_iff {state : State K} (filed : state.Filed) {inner : PoolInner K}
    {connecting : Connecting K} (present : state.inner = some inner) {token : Nat}
    (found : state.connectings.get? token = some connecting) (closing : ChanId → Bool)
    : (state.pooled closing token true true false).usable connecting.key = true
      ↔ ((state.idleList connecting.key).isSome = true
        → state.usable connecting.key = true) := by
  obtain ⟨later, kept, idle, timeout, now, conns⟩ := pooled_shared present found closing
  have stored := inner.peek_put_shared (filed.balanced inner present).enabled closing state.now
    state.chans connecting.key state.conns.size
  have opens := isOpen_of_conns conns
  have after : (state.pooled closing token true true false).usable connecting.key
      = ((inner.idle.peek connecting.key).getD [⟨state.now, state.conns.size⟩]).any
        ((state.pooled closing token true true false).takes inner.timeout) := by
    simp only [usable, kept, Option.any_some, idle, stored, timeout]
  rw [after]
  cases listed : inner.idle.peek connecting.key with
  | none =>
      refine iff_of_true ?_ (by simp [idleList, present, listed])
      simp [takes, opens, now, Conn.isOpen, expires_self]
  | some list =>
      have same : ∀ entry ∈ list,
          (state.pooled closing token true true false).takes inner.timeout entry
            = state.takes inner.timeout entry := by
        intro entry member
        have owned := (filed.keyed.inner inner present).idle _ list entry listed member
        obtain ⟨conn, known, _⟩ := Option.map_eq_some_iff.mp owned
        simp only [takes, opens, now, Nat.ne_of_lt (Table.lt_size known), if_false]
      have found : state.usable connecting.key = list.any (state.takes inner.timeout) := by
        simp only [usable, present, listed, Option.any_some]
      have listing : (state.idleList connecting.key).isSome = true := by
        simp [idleList, present, listed]
      rw [Option.getD_some, forall_prop_of_true listing, found, List.any_eq_true,
        List.any_eq_true]
      apply exists_congr
      intro entry
      apply and_congr_right
      intro member
      rw [same entry member]

-----------------------------------------------------------------------------------------
-- Runs
-----------------------------------------------------------------------------------------

/-- An event that makes an open shared connection is a call of `Pool::pooled`. -/
theorem State.sharedBy_cases {state : State K} {event : Event K} {key : K}
    (shares : state.sharedBy event = some key)
    : ∃ closing token connecting inner, event = .pooled closing token true true false
        ∧ state.inner = some inner ∧ state.connectings.get? token = some connecting
        ∧ key = connecting.key := by
  unfold sharedBy at shares
  split at shares
  · next closing token =>
      split at shares
      · next enabled =>
          obtain ⟨inner, present⟩ := Option.isSome_iff_exists.mp enabled
          obtain ⟨connecting, found, rfl⟩ := Option.map_eq_some_iff.mp shares
          exact ⟨closing, token, connecting, inner, rfl, present, found, rfl⟩
      · cases shares
  · cases shares

/-- The connection of a step is found again exactly if the step makes it findable. -/
theorem Step.foundAgain_iff {state next : State K} {event : Event K}
    (step : Step state event next) (filed : state.Filed)
    : state.FoundAgain event next ↔ state.MakesFindable event := by
  apply forall_congr'
  intro key
  apply imp_congr_right
  intro shares
  obtain ⟨closing, token, connecting, inner, rfl, present, found, rfl⟩ :=
    State.sharedBy_cases shares
  obtain ⟨_, rfl⟩ := step
  have always : ∀ events later,
      Run Step (state.pooled closing token true true false) events later
        → later.usable connecting.key = true → later.ServesNext connecting.key :=
    fun _ _ _ usable => State.servesNext_of_usable usable
  rw [and_iff_left always]
  exact State.usable_pooled_iff filed present found closing

/-- In a run every open shared connection that is made is found again by the next checkouts exactly
if each is made for a key without an idle list, or with a list that still has a connection to take.
-/
theorem shared_found_again_iff {config : Config} {timerIsEmpty : Bool} {events : List (Event K)}
    {state : State K}
    : Run (Having State.FoundAgain Step) (State.new config timerIsEmpty) events state
      ↔ Run (Guarded State.MakesFindable Step) (State.new config timerIsEmpty) events state := by
  have initial : (State.new config timerIsEmpty : State K).Filed :=
    ⟨run_keyed .nil,
      balanced_stable.run .nil (fun enabled => PoolInner.balanced_new enabled timerIsEmpty)⟩
  apply Run.having_iff_guarded initial
  · intro before event after filed step _
    exact ⟨step.keyed filed.keyed, balanced_stable.step step filed.balanced⟩
  · intro before event after filed step
    exact step.foundAgain_iff filed

/-- A pool that keeps several connections a host -/
def sharedConfig : Config := { idleTimeout := some 90, maxIdlePerHost := 32, maxPoolSize := none }

/-- An HTTP/2 connection of host 7 is pooled and closes, then another connecting begins. -/
def closedThenConnecting : List (Event Nat) :=
  [.connecting 7 .http2, .pooled (fun _ => false) 0 true true false, .setReady 0 false,
    .connecting 7 .http2]

/-- The second connection of the host is left out beside the first, which is closed, so no checkout
finds one.
-/
theorem second_shared_lost
    : ∃ state next : State Nat,
        sharedConfig.isEnabled = true
        ∧ Run Step (State.new sharedConfig true) closedThenConnecting state
        ∧ Step state (.pooled (fun _ => false) 1 true true false) next
        ∧ ¬ state.FoundAgain (.pooled (fun _ => false) 1 true true false) next
        ∧ ¬ next.ServesNext 7 := by
  refine ⟨_, _, rfl,
    .cons ⟨rfl, rfl⟩ (.cons ⟨rfl, rfl⟩ (.cons ⟨_, rfl, rfl⟩ (.cons ⟨rfl, rfl⟩ .nil))),
    ⟨rfl, rfl⟩, fun found => ?_, ?_⟩
  · have usable := (found 7 (by decide)).1
    revert usable
    decide
  · rintro ⟨value, idleSince, polled, _⟩
    cases polled

end Tlsurl.Pool
