import Tlsurl.Pool.Connections
import Tlsurl.Pool.IdleLists

/-! Idle lists in the order of time, and a popper that stops at expired entries.
What goes idle goes to the back of its list, so that behind an expired entry, seen from the back,
there are only expired ones.
-/

namespace Tlsurl.Pool

open Library

variable {K : Type} [DecidableEq K]

-----------------------------------------------------------------------------------------
-- Lists in order
-----------------------------------------------------------------------------------------

/-- The entries went idle one after the other, and none of them in the future. -/
structure Chronological (now : Time) (list : List Idle) : Prop where
  sorted : list.Pairwise (fun first second => first.idleAt ≤ second.idleAt)
  past : ∀ entry ∈ list, entry.idleAt ≤ now

namespace Chronological

variable {now : Time} {list : List Idle}

theorem nil (now : Time) : Chronological now [] where
  sorted := .nil
  past := nofun

/-- Entries may go. -/
theorem sublist (chronological : Chronological now list) {fewer : List Idle}
    (part : fewer.Sublist list)
    : Chronological now fewer where
  sorted := chronological.sorted.sublist part
  past entry member := chronological.past entry (part.subset member)

/-- What goes idle now goes to the back. -/
theorem push (chronological : Chronological now list) (value : ConnId)
    : Chronological now (list ++ [⟨now, value⟩]) where
  sorted := by
    rw [List.pairwise_append]
    refine ⟨chronological.sorted, List.pairwise_singleton _ _, ?_⟩
    intro entry member last single
    rw [List.mem_singleton.mp single]
    exact chronological.past entry member
  past entry member := by
    rcases List.mem_append.mp member with old | last
    · exact chronological.past entry old
    · rw [List.mem_singleton.mp last]

/-- Time passes. -/
theorem later (chronological : Chronological now list) {after : Time} (passed : now ≤ after)
    : Chronological after list where
  sorted := chronological.sorted
  past entry member := (chronological.past entry member).trans passed

end Chronological

/-- Every idle list is in order. -/
def InOrder (now : Time) (idle : LruCache K (List Idle)) : Prop :=
  ∀ key list, idle.peek key = some list → Chronological now list

-----------------------------------------------------------------------------------------
-- Operations
-----------------------------------------------------------------------------------------

namespace InOrder

variable {now : Time} {idle : LruCache K (List Idle)} {inner : PoolInner K}

theorem getD (inOrder : InOrder now idle) (key : K)
    : Chronological now ((idle.peek key).getD []) := by
  cases listed : idle.peek key with
  | none => exact .nil now
  | some list => exact inOrder key list listed

theorem pushIdle (inOrder : InOrder now inner.idle) (key : K) (value : ConnId)
    : InOrder now (inner.pushIdle now key value).idle := by
  intro other list found
  rcases PoolInner.peek_pushIdle found with ⟨_, old⟩ | ⟨_, old, same, ⟨_, rfl⟩ | ⟨_, rfl⟩⟩
  · exact inOrder other list old
  · rw [← same]
    exact inOrder.getD key
  · rw [← same]
    exact (inOrder.getD key).push value

theorem put (inOrder : InOrder now inner.idle) (call : PutCall K) (chans : Table (Chan K))
    : InOrder now
        (inner.put call.closing call.shared now chans call.key call.value).1.idle := by
  cases stored : inner.put call.closing call.shared now chans call.key call.value with
  | mk after sent =>
      rcases PoolInner.put_cases stored with
        ⟨rfl, _⟩ | ⟨waiters, _, _, rfl⟩ | ⟨_, queue, rest, _, _, _, rfl⟩
      · exact inOrder
      · have before : InOrder now ({ inner with waiters } : PoolInner K).idle := inOrder
        exact before.pushIdle call.key call.value
      · exact inOrder

theorem leave (inOrder : InOrder now idle) (key : K) {rest : List Idle}
    (ordered : Chronological now rest)
    : InOrder now (PoolInner.leave idle key rest) := by
  intro other list found
  rcases PoolInner.peek_leave found with ⟨_, old⟩ | ⟨_, rfl, _⟩
  · exact inOrder other list old
  · exact ordered

/-- A shared connection that is taken goes to the back again. -/
theorem takeIdle (inOrder : InOrder now inner.idle) {after : PoolInner K}
    {isOpen shared : ConnId → Bool} {key : K} {found : Option Idle}
    (taken : inner.takeIdle isOpen shared now key = (found, after))
    : InOrder now after.idle := by
  rcases PoolInner.takeIdle_cases taken with
    ⟨_, rfl⟩ | ⟨_, rfl⟩ | ⟨front, entry, skipped, rest, _, stored, _, _, rfl, rfl⟩
  · intro other list found
    rw [LruCache.peek_pop] at found
    split at found
    · cases found
    · exact inOrder other list found
  · exact inOrder.leave key (.nil now)
  · apply inOrder.leave key
    have before : Chronological now front :=
      (inOrder key _ stored).sublist (List.sublist_append_left front _)
    split
    · exact before.push entry.value
    · simpa using before

theorem clearExpired (inOrder : InOrder now inner.idle) (isOpen : ConnId → Bool)
    : InOrder now (inner.clearExpired isOpen now).idle := by
  intro key list found
  obtain ⟨old, stored, rfl, _⟩ := PoolInner.peek_clearExpired found
  exact (inOrder key old stored).sublist List.filter_sublist

end InOrder

/-- Whatever a step does to the idle lists, they stay in order. -/
theorem IdleCase.inOrder {state : State K} {inner : PoolInner K} {event : Event K}
    {idle : LruCache K (List Idle)} (idleCase : IdleCase state inner event idle)
    (inOrder : InOrder state.now inner.idle)
    : InOrder state.now idle := by
  cases idleCase with
  | kept => exact inOrder
  | @put call => exact inOrder.put call state.chans
  | taken _ taken => exact inOrder.takeIdle taken
  | cleared => exact inOrder.clearExpired state.isOpen

-----------------------------------------------------------------------------------------
-- The clock
-----------------------------------------------------------------------------------------

/-- The clock is monotone. -/
theorem Step.now_le {state next : State K} {event : Event K} (step : Step state event next)
    : state.now ≤ next.now := by
  cases event with
  | checkout =>
      obtain ⟨_, rfl⟩ := step
      exact Nat.le_refl _
  | connecting key ver =>
      obtain ⟨_, rfl⟩ := step
      exact (state.connecting_sustains key ver).now.ge
  | alpnH2 token =>
      obtain ⟨_, rfl⟩ := step
      exact (state.alpnH2_sustains token).now.ge
  | pooled closing token http2 ready poisoned =>
      obtain ⟨_, rfl⟩ := step
      exact (state.pooled_now closing token http2 ready poisoned).ge
  | dropConnecting token =>
      obtain rfl := step
      exact (state.dropConnecting_sustains token).now.ge
  | poll id outcome =>
      obtain ⟨checkout, _, _, polled⟩ := step
      have same := (state.poll_sustains id checkout).now
      rw [polled] at same
      exact same.ge
  | beginDrop id =>
      obtain ⟨checkout, _, _, rfl⟩ := step
      exact (state.beginDrop_sustains id checkout).now.ge
  | closeReceiver =>
      obtain ⟨_, _, _, _, _, rfl⟩ := step
      exact Nat.le_refl _
  | endDrop =>
      obtain ⟨_, _, _, _, rfl⟩ := step
      exact Nat.le_refl _
  | dropPooled closing id =>
      obtain ⟨pooled, _, rfl⟩ := step
      exact (state.dropPooled_sustains closing id pooled).now.ge
  | clearExpired =>
      obtain ⟨_, _, _, rfl⟩ := step
      exact Nat.le_refl _
  | setReady | poison =>
      obtain ⟨_, _, rfl⟩ := step
      exact Nat.le_refl _
  | tick elapsed =>
      obtain rfl := step
      exact Nat.le_add_right _ _
  | dropPool =>
      obtain ⟨_, _, rfl⟩ := step
      exact state.dropPool_sustains.now.ge

-----------------------------------------------------------------------------------------
-- Runs
-----------------------------------------------------------------------------------------

/-- The idle lists of the pool are in order, if there is a pool. -/
def State.Ordered (state : State K) : Prop :=
  ∀ idle, state.idle = some idle → InOrder state.now idle

theorem Step.ordered {state next : State K} {event : Event K} (step : Step state event next)
    (ordered : state.Ordered)
    : next.Ordered := by
  intro idle left
  cases present : state.inner with
  | none =>
      rw [State.idle, State.idle_none_of_step step present] at left
      cases left
  | some inner =>
      have before : InOrder state.now inner.idle :=
        ordered inner.idle (by simp [State.idle, present])
      rcases step.idle_cases present with ⟨gone, _⟩ | ⟨after, same, idleCase⟩
      · rw [gone] at left
        cases left
      · cases left.symm.trans same
        intro key list found
        exact (idleCase.inOrder before key list found).later step.now_le

/-- In every state that is reached the idle lists are in order, by induction on the steps. -/
theorem run_ordered {config : Config} {timerIsEmpty : Bool} {events : List (Event K)}
    {state : State K} (run : Run Step (State.new config timerIsEmpty) events state)
    : state.Ordered := by
  apply run.invariant
  · intro past before event after _ ordered step
    exact step.ordered ordered
  · intro idle fresh key list found
    simp only [State.idle, State.new] at fresh
    split at fresh
    · cases fresh
      cases found
    · cases fresh

-----------------------------------------------------------------------------------------
-- Stopping early
-----------------------------------------------------------------------------------------

/-- `IdlePopper::pop` that drops the whole list at an entry at which it stops, on a list from its
back to its front
-/
def popBackUntil (stops : Idle → Bool) (isOpen shared : ConnId → Bool) (expiration : Option Time)
    (now : Time)
    : List Idle → Option Idle × List Idle
  | [] => (none, [])
  | entry :: list =>
      if stops entry then (none, [])
      else if !isOpen entry.value then popBackUntil stops isOpen shared expiration now list
      else if expires expiration entry.idleAt now then
        popBackUntil stops isOpen shared expiration now list
      else if shared entry.value then (some entry, ⟨now, entry.value⟩ :: list)
      else (some entry, list)

/-- The same on an idle list: what is found, and the list it leaves -/
def popIdleUntil (stops : Idle → Bool) (isOpen shared : ConnId → Bool) (expiration : Option Time)
    (now : Time) (list : List Idle)
    : Option Idle × List Idle :=
  match popBackUntil stops isOpen shared expiration now list.reverse with
  | (found, rest) => (found, rest.reverse)

/-- What went idle earlier expires earlier. -/
theorem expires_of_le {expiration : Option Time} {first second now : Time}
    (earlier : first ≤ second) (late : expires expiration second now = true)
    : expires expiration first now = true := by
  cases expiration with
  | none => cases late
  | some timeout =>
      simp only [expires, decide_eq_true_eq] at late ⊢
      exact Nat.lt_of_lt_of_le late (Nat.sub_le_sub_left earlier now)

section Popping

variable {isOpen shared : ConnId → Bool} {expiration : Option Time} {now : Time}

/-- Of expired entries nothing is found, by induction on them. -/
theorem popBack_expired {list : List Idle}
    (late : ∀ entry ∈ list, expires expiration entry.idleAt now = true)
    : popBack isOpen shared expiration now list = (none, []) := by
  induction list with
  | nil => rfl
  | cons entry list ih =>
      rw [popBack, late entry List.mem_cons_self, if_pos rfl,
        ih (fun other member => late other (List.mem_cons_of_mem _ member)), ite_self]

/-- Stopping at expired entries changes nothing if what is further in front went idle earlier, by
induction on the list from its back.
-/
theorem popBackUntil_eq {stops : Idle → Bool} {list : List Idle}
    (late : ∀ entry, stops entry = true → expires expiration entry.idleAt now = true)
    (sorted : list.Pairwise (fun first second => second.idleAt ≤ first.idleAt))
    : popBackUntil stops isOpen shared expiration now list
      = popBack isOpen shared expiration now list := by
  induction list with
  | nil => rfl
  | cons entry list ih =>
      obtain ⟨earlier, rest⟩ := List.pairwise_cons.mp sorted
      rw [popBackUntil]
      cases stopped : stops entry with
      | true =>
          have expired : ∀ other ∈ entry :: list, expires expiration other.idleAt now = true := by
            intro other member
            rcases List.mem_cons.mp member with rfl | front
            · exact late _ stopped
            · exact expires_of_le (earlier other front) (late entry stopped)
          rw [if_pos rfl, popBack_expired expired]
      | false => rw [if_neg Bool.false_ne_true, ih rest, popBack]

end Popping

/-- In every state that is reached the entries of an idle list went idle in their order. So a
popper that drops the whole list where it meets an expired entry, be it at every one of them or at
those that are open, finds the same connection as `IdlePopper::pop` and leaves the same list, with
every timeout and at every time.
-/
theorem idle_popper_may_stop {config : Config} {timerIsEmpty : Bool} {events : List (Event K)}
    {state : State K} (run : Run Step (State.new config timerIsEmpty) events state)
    {inner : PoolInner K} (present : state.inner = some inner) {key : K} {list : List Idle}
    (listed : inner.idle.peek key = some list)
    : list.Pairwise (fun first second => first.idleAt ≤ second.idleAt)
      ∧ ∀ (stops : Idle → Bool) (isOpen shared : ConnId → Bool) (expiration : Option Time)
          (now : Time),
        (∀ entry, stops entry = true → expires expiration entry.idleAt now = true)
        → popIdleUntil stops isOpen shared expiration now list
          = popIdle isOpen shared expiration now list := by
  have idle : state.idle = some inner.idle := by simp [State.idle, present]
  have sorted := (run_ordered run inner.idle idle key list listed).sorted
  refine ⟨sorted, ?_⟩
  intro stops isOpen shared expiration now late
  rw [popIdleUntil, popBackUntil_eq late (List.pairwise_reverse.mpr sorted), popIdle]

/-- A pool that keeps many idle connections of a host, for three time units. -/
def staggeredConfig : Config :=
  { idleTimeout := some 3, maxIdlePerHost := 32, maxPoolSize := none }

/-- Two connections of host 7 are opened and returned five time units apart. -/
def staggeredEvents : List (Event Nat) :=
  [.connecting 7 .auto, .pooled (fun _ => false) 0 false true false, .connecting 7 .auto,
    .pooled (fun _ => false) 1 false true false, .dropPooled (fun _ => false) 0, .tick 5,
    .dropPooled (fun _ => false) 1]

/-- The pool whose two connections of host 7 have gone idle. -/
def staggeredIdle : State Nat :=
  let first := ((State.new staggeredConfig true).connecting 7 .auto).pooled (fun _ => false) 0
    false true false
  let opened := (first.connecting 7 .auto).pooled (fun _ => false) 1 false true false
  let returned := opened.dropPooled (fun _ => false) 0
    { value := 0, isReused := false, key := 7, pool := true }
  { returned with now := 5 }.dropPooled (fun _ => false) 1
    { value := 1, isReused := false, key := 7, pool := true }

/-- One time unit later the connection that was returned last is found by both poppers, and four
time units later neither finds one.
-/
theorem idle_popper_may_stop_staggered
    : popIdleUntil (fun entry => expires (some 3) entry.idleAt 6) (fun _ => true) (fun _ => false)
          (some 3) 6 [⟨0, 0⟩, ⟨5, 1⟩]
        = (some ⟨5, 1⟩, [⟨0, 0⟩])
      ∧ popIdle (fun _ => true) (fun _ => false) (some 3) 6 [⟨0, 0⟩, ⟨5, 1⟩]
        = (some ⟨5, 1⟩, [⟨0, 0⟩])
      ∧ popIdleUntil (fun entry => expires (some 3) entry.idleAt 9) (fun _ => true)
          (fun _ => false) (some 3) 9 [⟨0, 0⟩, ⟨5, 1⟩]
        = (none, []) := by
  have run : Run Step (State.new staggeredConfig true) staggeredEvents staggeredIdle := by
    apply Run.cons
    · exact ⟨rfl, rfl⟩
    apply Run.cons
    · exact ⟨rfl, rfl⟩
    apply Run.cons
    · exact ⟨rfl, rfl⟩
    apply Run.cons
    · exact ⟨rfl, rfl⟩
    apply Run.cons
    · exact ⟨_, rfl, rfl⟩
    apply Run.cons
    · exact rfl
    apply Run.cons
    · exact ⟨_, rfl, rfl⟩
    exact .nil
  obtain ⟨_, same⟩ := @idle_popper_may_stop Nat _ _ _ _ _ run _ rfl 7 _ rfl
  exact ⟨(same _ _ _ _ _ (fun _ late => late)).trans (by decide), by decide,
    (same _ _ _ _ _ (fun _ late => late)).trans (by decide)⟩

end Tlsurl.Pool
