import Tlsurl.Pool.Inner

/-! What the operations under the lock do.
Each operation gets one lemma that lists its cases; the invariants are read off from these.
-/

namespace Tlsurl.Pool

open Library

-----------------------------------------------------------------------------------------
-- Popping an idle list
-----------------------------------------------------------------------------------------

section Popping

variable (isOpen shared : ConnId → Bool) (expiration : Option Time) (now : Time)

/-- Nothing usable empties the list. Otherwise the first usable entry is taken; what lies
before it is dropped, what lies after it stays, and a shared entry is put back renewed.
-/
theorem popBack_cases (list : List Idle)
    : popBack isOpen shared expiration now list = (none, [])
      ∨ ∃ skipped entry back,
          list = skipped ++ entry :: back
          ∧ isOpen entry.value = true
          ∧ expires expiration entry.idleAt now = false
          ∧ popBack isOpen shared expiration now list
            = (some entry,
              (if shared entry.value then [⟨now, entry.value⟩] else []) ++ back) := by
  induction list with
  | nil => exact .inl rfl
  | cons head tail ih =>
      by_cases usable
          : isOpen head.value = true ∧ expires expiration head.idleAt now = false
      · refine .inr ⟨[], head, tail, rfl, usable.1, usable.2, ?_⟩
        simp only [popBack, usable.1, usable.2, Bool.not_true, Bool.false_eq_true, if_false]
        split_ifs <;> rfl
      · have skip : popBack isOpen shared expiration now (head :: tail)
            = popBack isOpen shared expiration now tail := by
          simp only [popBack]
          split
          · rfl
          · split
            · rfl
            · simp_all
        rw [skip]
        rcases ih with nothing | ⟨skipped, entry, back, split, sound⟩
        · exact .inl nothing
        · exact .inr ⟨head :: skipped, entry, back, by rw [split, List.cons_append], sound⟩

/-- The same from the end of the list. -/
theorem popIdle_cases (list : List Idle)
    : popIdle isOpen shared expiration now list = (none, [])
      ∨ ∃ front entry skipped,
          list = front ++ entry :: skipped
          ∧ isOpen entry.value = true
          ∧ expires expiration entry.idleAt now = false
          ∧ popIdle isOpen shared expiration now list
            = (some entry,
              front ++ (if shared entry.value then [⟨now, entry.value⟩] else [])) := by
  unfold popIdle
  rcases popBack_cases isOpen shared expiration now list.reverse with
    nothing | ⟨skipped, entry, back, split, opened, fresh, popped⟩
  · rw [nothing]
    exact .inl rfl
  · rw [popped]
    refine .inr ⟨back.reverse, entry, skipped.reverse, ?_, opened, fresh, ?_⟩
    · simpa using congrArg List.reverse split
    · split_ifs <;> simp

end Popping

-----------------------------------------------------------------------------------------
-- Sending to waiters
-----------------------------------------------------------------------------------------

section Sending

variable {K : Type} {closing : ChanId → Bool} {shared : Bool} {value : ConnId}

/-- A value is kept only once every waiter was tried. What is left is the end of the queue, by
induction on the queue.
-/
theorem deliver_cases {queue rest : List ChanId} {kept : Option ConnId}
    {chans after : Table (Chan K)}
    (given : deliver closing shared value queue chans = (rest, kept, after))
    : (rest = [] ∧ kept = some value)
      ∨ (shared = false ∧ rest <:+ queue ∧ kept = none) := by
  induction queue generalizing chans with
  | nil =>
      cases given
      exact .inl ⟨rfl, rfl⟩
  | cons tx waiters ih =>
      have later {chans : Table (Chan K)}
          (given : deliver closing shared value waiters chans = (rest, kept, after))
          : (rest = [] ∧ kept = some value)
            ∨ (shared = false ∧ rest <:+ tx :: waiters ∧ kept = none) := by
        rcases ih given with all | ⟨unique, suffix, gone⟩
        · exact .inl all
        · exact .inr ⟨unique, suffix.trans (List.suffix_cons tx waiters), gone⟩
      simp only [deliver] at given
      split at given
      · exact later given
      · split at given
        · split at given
          · exact later given
          · next unique =>
              cases given
              exact .inr ⟨by simpa using unique, List.suffix_cons tx _, rfl⟩
        · exact later given

/-- A property of the channels survives delivery if sending to a waiter keeps it. -/
theorem deliver_keeps {kept : Table (Chan K) → Prop} {queue : List ChanId}
    (sends : ∀ tx ∈ queue, ∀ chans, kept chans → kept (send closing chans tx value).2)
    {chans : Table (Chan K)} (holds : kept chans)
    : kept (deliver closing shared value queue chans).2.2 := by
  induction queue generalizing chans with
  | nil => exact holds
  | cons tx waiters ih =>
      have rest {chans : Table (Chan K)} :=
        @ih (fun other member => sends other (List.mem_cons_of_mem tx member)) chans
      have sent := sends tx List.mem_cons_self chans holds
      simp only [deliver]
      split
      · exact rest holds
      · split
        · next after result =>
            rw [result] at sent
            split
            · exact rest sent
            · exact sent
        · next after result =>
            rw [result] at sent
            exact rest sent

/-- A property of the channels survives dropping senders if dropping one keeps it, by
induction on the queue.
-/
theorem dropSenders_keeps {kept : Table (Chan K) → Prop}
    (drops : ∀ chans tx, kept chans → kept (dropSender chans tx)) {chans : Table (Chan K)}
    (holds : kept chans) (queue : List ChanId)
    : kept (dropSenders chans queue) := by
  unfold dropSenders
  induction queue generalizing chans with
  | nil => exact holds
  | cons tx queue ih => exact ih (drops chans tx holds)

/-- The same for the senders of several queues, by induction on them. -/
theorem foldl_dropSenders_keeps {kept : Table (Chan K) → Prop}
    (drops : ∀ chans tx, kept chans → kept (dropSender chans tx)) {chans : Table (Chan K)}
    (holds : kept chans) (queues : List (Σ _ : K, List ChanId))
    : kept (queues.foldl (fun chans byKey => dropSenders chans byKey.2) chans) := by
  induction queues generalizing chans with
  | nil => exact holds
  | cons byKey queues ih => exact ih (dropSenders_keeps drops holds byKey.2)

end Sending

-----------------------------------------------------------------------------------------
-- The operations
-----------------------------------------------------------------------------------------

namespace PoolInner

variable {K : Type} [DecidableEq K]

/-- Spawning the idle task touches nothing else. -/
theorem spawnIdleInterval_eq (inner : PoolInner K)
    : inner.spawnIdleInterval
      = { inner with idleIntervalRef := inner.spawnIdleInterval.idleIntervalRef } := by
  unfold spawnIdleInterval
  repeat' split
  all_goals rfl

/-- `pushIdle` touches the idle lists and the reference to the idle task. -/
theorem pushIdle_eq (inner : PoolInner K) (now : Time) (key : K) (value : ConnId)
    : ∃ idle idleIntervalRef,
        inner.pushIdle now key value = { inner with idle, idleIntervalRef } := by
  unfold pushIdle
  simp only
  split
  · exact ⟨_, _, rfl⟩
  · rw [spawnIdleInterval_eq]
    exact ⟨_, _, rfl⟩

/-- What `pushIdle` does to the idle lists. -/
theorem pushIdle_idle {inner : PoolInner K} {key : K} {old : List Idle}
    (before : (inner.idle.peek key).getD [] = old) (now : Time) (value : ConnId)
    : (inner.pushIdle now key value).idle
      = if inner.maxIdlePerHost ≤ old.length then inner.idle.put key old
        else (inner.idle.put key old).put key (old ++ [⟨now, value⟩]) := by
  have branches
      : inner.pushIdle now key value
        = if inner.maxIdlePerHost ≤ old.length then { inner with idle := inner.idle.put key old }
          else
            { inner with
              idle := (inner.idle.put key old).put key (old ++ [Idle.mk now value])
            }.spawnIdleInterval := by
    subst before
    rfl
  rw [branches]
  split_ifs
  · rfl
  · rw [spawnIdleInterval_eq]

/-- After `pushIdle` only the list of the key is new: the old one, which was full, or the old
one and the value.
-/
theorem peek_pushIdle {inner : PoolInner K} {now : Time} {key other : K} {value : ConnId}
    {list : List Idle} (found : (inner.pushIdle now key value).idle.peek other = some list)
    : (other ≠ key ∧ inner.idle.peek other = some list)
      ∨ (other = key
        ∧ ∃ old, (inner.idle.peek key).getD [] = old
          ∧ ((inner.maxIdlePerHost ≤ old.length ∧ list = old)
            ∨ (old.length < inner.maxIdlePerHost ∧ list = old ++ [⟨now, value⟩]))) := by
  rw [pushIdle_idle rfl] at found
  by_cases same : other = key
  · refine .inr ⟨same, _, rfl, ?_⟩
    subst same
    split_ifs at found with full
    · rw [LruCache.peek_put_self] at found
      exact .inl ⟨full, (Option.some.inj found).symm⟩
    · rw [LruCache.peek_put_self] at found
      exact .inr ⟨Nat.lt_of_not_le full, (Option.some.inj found).symm⟩
  · refine .inl ⟨same, ?_⟩
    split_ifs at found
    · exact LruCache.peek_of_put_ne same found
    · exact LruCache.peek_of_put_ne same (LruCache.peek_of_put_ne same found)

/-- The cases of `put`: a shared connection is already idle; every waiter was tried and the
value is kept; a waiter took it.
-/
theorem put_cases {inner after : PoolInner K} {closing : ChanId → Bool} {shared : Bool}
    {now : Time} {chans sent : Table (Chan K)} {key : K} {value : ConnId}
    (stored : inner.put closing shared now chans key value = (after, sent))
    : (after = inner ∧ sent = chans)
      ∨ (∃ waiters,
          (∀ other, waiters.lookup other
            = if other = key then none else inner.waiters.lookup other)
          ∧ deliver closing shared value ((inner.waiters.lookup key).getD []) chans
            = ([], some value, sent)
          ∧ after = { inner with waiters }.pushIdle now key value)
      ∨ (shared = false
        ∧ ∃ queue rest,
          inner.waiters.lookup key = some queue
          ∧ rest <:+ queue
          ∧ deliver closing shared value queue chans = (rest, none, sent)
          ∧ after = { inner with
              waiters := AssocMap.assign inner.waiters key
                (if rest.isEmpty then none else some rest) }) := by
  unfold put at stored
  split at stored
  · cases stored
    exact .inl ⟨rfl, rfl⟩
  · split at stored
    · next absent =>
        cases stored
        refine .inr (.inl ⟨inner.waiters, fun other => ?_, ?_, rfl⟩)
        · split
          · next same => rw [same, absent]
          · rfl
        · rw [absent]
          rfl
    · next queue waiting =>
        cases given : deliver closing shared value queue chans with
        | mk rest result =>
            obtain ⟨kept, after⟩ := result
            rw [given] at stored
            rcases deliver_cases given with ⟨rfl, rfl⟩ | ⟨unique, suffix, rfl⟩
            · cases stored
              refine .inr (.inl ⟨_, fun other => ?_, ?_, rfl⟩)
              · exact AssocMap.lookup_assign inner.waiters key other none
              · rw [waiting]
                exact given
            · cases stored
              exact .inr (.inr ⟨unique, queue, rest, waiting, suffix, given, rfl⟩)

/-- The idle lists after the one of the key was popped from: an emptied list goes. -/
def leave (idle : LruCache K (List Idle)) (key : K) (rest : List Idle)
    : LruCache K (List Idle) :=
  if rest.isEmpty then (idle.put key rest).pop key else idle.put key rest

theorem leave_capacity (idle : LruCache K (List Idle)) (key : K) (rest : List Idle)
    : (leave idle key rest).capacity = idle.capacity := by
  unfold leave
  split <;> simp

/-- The cases of `takeIdle`: no list; a list without a usable entry; the last usable entry of
a list is found.
-/
theorem takeIdle_cases {inner after : PoolInner K} {isOpen shared : ConnId → Bool}
    {now : Time} {key : K} {found : Option Idle}
    (taken : inner.takeIdle isOpen shared now key = (found, after))
    : (found = none ∧ after = { inner with idle := inner.idle.pop key })
      ∨ (found = none ∧ after = { inner with idle := leave inner.idle key [] })
      ∨ (∃ front entry skipped rest,
          found = some entry
          ∧ inner.idle.peek key = some (front ++ entry :: skipped)
          ∧ isOpen entry.value = true
          ∧ expires inner.timeout entry.idleAt now = false
          ∧ rest = front ++ (if shared entry.value then [⟨now, entry.value⟩] else [])
          ∧ after = { inner with idle := leave inner.idle key rest }) := by
  unfold takeIdle at taken
  split at taken
  · cases taken
    exact .inl ⟨rfl, rfl⟩
  · next list stored =>
      have written (rest : List Idle)
          : inner.idle.getMut key (fun _ => rest) = inner.idle.put key rest := by
        simp only [LruCache.getMut, stored]
      rcases popIdle_cases isOpen shared inner.timeout now list with
        nothing | ⟨front, entry, skipped, split, opened, fresh, popped⟩
      · simp only [nothing, written] at taken
        cases taken
        exact .inr (.inl ⟨rfl, rfl⟩)
      · simp only [popped, written] at taken
        cases taken
        refine .inr (.inr ⟨front, entry, skipped, _, rfl, by rw [stored, split], opened, fresh,
          rfl, ?_⟩)
        simp only [leave, Option.isNone_some, Bool.false_or]

/-- `takeIdle` touches the idle lists. -/
theorem takeIdle_eq {inner after : PoolInner K} {isOpen shared : ConnId → Bool} {now : Time}
    {key : K} {found : Option Idle}
    (taken : inner.takeIdle isOpen shared now key = (found, after))
    : ∃ idle, after = { inner with idle } := by
  rcases takeIdle_cases taken with ⟨_, rfl⟩ | ⟨_, rfl⟩ | ⟨_, _, _, _, _, _, _, _, _, rfl⟩
  · exact ⟨_, rfl⟩
  · exact ⟨_, rfl⟩
  · exact ⟨_, rfl⟩

/-- Only non-empty lists are left. -/
theorem peek_leave {idle : LruCache K (List Idle)} {key other : K} {rest list : List Idle}
    (found : (leave idle key rest).peek other = some list)
    : (other ≠ key ∧ idle.peek other = some list)
      ∨ (other = key ∧ list = rest ∧ rest ≠ []) := by
  unfold leave at found
  by_cases same : other = key
  · subst same
    split_ifs at found with empty
    · simp [LruCache.peek_pop] at found
    · rw [LruCache.peek_put_self] at found
      exact .inr ⟨rfl, (Option.some.inj found).symm, by simpa using empty⟩
  · refine .inl ⟨same, ?_⟩
    split_ifs at found
    · rw [LruCache.peek_pop, if_neg same] at found
      exact LruCache.peek_of_put_ne same found
    · exact LruCache.peek_of_put_ne same found

/-- A list that `clear_expired` leaves is what was usable of it, and something was. -/
theorem peek_clearExpired {inner : PoolInner K} {isOpen : ConnId → Bool} {now : Time} {key : K}
    {list : List Idle} (found : (inner.clearExpired isOpen now).idle.peek key = some list)
    : ∃ old, inner.idle.peek key = some old
        ∧ list = old.filter (fun entry =>
          isOpen entry.value && !expires inner.timeout entry.idleAt now)
        ∧ list ≠ [] := by
  simp only [clearExpired, LruCache.peek_foldl_pop] at found
  split at found
  · cases found
  · next kept =>
      have stored := found
      rw [LruCache.peek_mapValues] at found
      obtain ⟨old, present, rfl⟩ := Option.map_eq_some_iff.mp found
      refine ⟨old, present, rfl, fun empty => kept ?_⟩
      rw [empty] at stored
      have entry := AList.mem_lookup_iff.mp stored
      exact List.mem_map.mpr ⟨_, List.mem_filter.mpr ⟨entry, rfl⟩, rfl⟩

-----------------------------------------------------------------------------------------
-- What the operations on idle lists weigh
-----------------------------------------------------------------------------------------

section Weights

variable (f : List Idle → Nat)

/-- `leave` trades the weight of the list of the key; an emptied list weighs nothing. -/
theorem weight_leave_le (idle : LruCache K (List Idle)) (key : K) (rest : List Idle)
    : AssocMap.weight f (leave idle key rest).map + (idle.peek key).elim 0 f
      ≤ AssocMap.weight f idle.map + f rest := by
  have written := LruCache.weight_put_le f idle key rest
  unfold leave
  split
  · have popped := LruCache.weight_pop f (idle.put key rest) key
    omega
  · exact written

/-- A sweep cuts the lists down and drops those it empties, by induction on the keys. -/
theorem weight_clearExpired_le
    (smaller : ∀ (list : List Idle) (keep : Idle → Bool), f (list.filter keep) ≤ f list)
    (inner : PoolInner K) (isOpen : ConnId → Bool) (now : Time)
    : AssocMap.weight f (inner.clearExpired isOpen now).idle.map
      ≤ AssocMap.weight f inner.idle.map := by
  have popped (keys : List K) (idle : LruCache K (List Idle))
      : AssocMap.weight f (keys.foldl LruCache.pop idle).map
        ≤ AssocMap.weight f idle.map := by
    induction keys generalizing idle with
    | nil => exact Nat.le_refl _
    | cons key keys ih =>
        have one := LruCache.weight_pop f idle key
        have rest := ih (idle.pop key)
        rw [List.foldl_cons]
        omega
  exact (popped _ _).trans (AssocMap.weight_mapValues_le _ _ _
    (fun list => smaller list _) inner.idle.map)

end Weights

end PoolInner

end Tlsurl.Pool
