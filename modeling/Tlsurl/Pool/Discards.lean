import Tlsurl.Pool.SizeLimit
import Tlsurl.Pool.Waiting

/-! How a connection leaves the pool.
A step may look at a connection and find it closed or idle for too long, refuse it because the
list of its key is full, or give it up with the list of a key that the cache evicts. What the
operations under the lock take from the idle lists is one of these, or goes to a checkout.
-/

namespace Tlsurl.Pool

open Library

variable {K : Type} [DecidableEq K]

-----------------------------------------------------------------------------------------
-- The reasons
-----------------------------------------------------------------------------------------

/-- The connections that a step tests with `is_open`, with the time since which they were idle: a
handle's when it drops, the one sent to a checkout, the entries of an idle list from its end up to
the first usable one, and all idle ones in a sweep.
-/
inductive State.Examines (state : State K) : Event K → ConnId → Option Time → Prop
  | returned {closing id pooled} (found : state.pooleds.get? id = some pooled)
    : Examines state (.dropPooled closing id) pooled.value none
  | received {id outcome checkout rx chan value}
    (found : state.checkouts.get? id = some checkout) (waits : checkout.waiter = some rx)
    (channel : state.chans.get? rx = some chan) (carried : chan.value = some value)
    : Examines state (.poll id outcome) value none
  | popped {id outcome checkout inner front entry skipped}
    (found : state.checkouts.get? id = some checkout) (idle : checkout.waiter = none)
    (present : state.inner = some inner)
    (listed : inner.idle.peek checkout.key = some (front ++ entry :: skipped))
    (useless
      : ∀ later ∈ skipped, state.isOpen later.value = false
        ∨ expires inner.timeout later.idleAt state.now = true)
    : Examines state (.poll id outcome) entry.value (some entry.idleAt)
  | swept {inner key list entry} (present : state.inner = some inner)
    (listed : inner.idle.peek key = some list) (member : entry ∈ list)
    : Examines state .clearExpired entry.value (some entry.idleAt)

/-- Why a step may part with a connection: it finds it closed, or idle for longer than the
timeout; the connection is put back and nobody waits for it, but the list of its key is full; or
the least recently used list, which it is in, makes room for that of a new key.
-/
inductive State.Dismisses (state : State K) (event : Event K) (value : ConnId) : Prop
  | closed {since} (looked : state.Examines event value since)
    (shut : state.isOpen value = false)
  | expired {inner since} (present : state.inner = some inner)
    (looked : state.Examines event value (some since))
    (late : expires inner.timeout since state.now = true)
  | full {inner call} (present : state.inner = some inner) (made : state.putBy event = some call)
    (same : call.value = value)
    (unwanted
      : (deliver call.closing call.shared call.value ((inner.waiters.lookup call.key).getD [])
          state.chans).2.1.isSome = true)
    (full : inner.maxIdlePerHost ≤ ((inner.idle.peek call.key).getD []).length)
  | evicted {inner call limit key list entry} (present : state.inner = some inner)
    (made : state.putBy event = some call) (kept : call.keeps inner state.chans = true)
    (new : inner.idle.peek call.key = none) (limited : inner.idle.capacity = some limit)
    (full : (limit : Nat) ≤ inner.idle.len) (oldest : inner.idle.peekLru = some (key, list))
    (member : entry ∈ list) (same : entry.value = value)

-----------------------------------------------------------------------------------------
-- What `put` leaves
-----------------------------------------------------------------------------------------

namespace PoolInner

variable {inner : PoolInner K}

/-- A list written back under a key, and then another, cost only a list that is evicted. -/
theorem peek_put_put {idle : LruCache K (List Idle)} {key other : K} {found : List Idle}
    (different : other ≠ key) (read : idle.peek other = some found) (old new : List Idle)
    : ((idle.put key old).put key new).peek other = some found
      ∨ (idle.peek key = none
        ∧ (∃ limit, idle.capacity = some limit ∧ (limit : Nat) ≤ idle.len)
        ∧ idle.peekLru = some (other, found)) := by
  rcases LruCache.peek_put_ne_or_evicted different read old with still | evicted
  · left
    rw [LruCache.peek_put_ne_of_room different (.inl (by simp))]
    exact still
  · exact .inr evicted

/-- `put` keeps the idle entries, but for those of a list that is evicted. -/
theorem Balanced.idle_put (balanced : inner.Balanced) (call : PutCall K) (now : Time)
    (chans : Table (Chan K)) {key : K} {list : List Idle} {entry : Idle}
    (listed : inner.idle.peek key = some list) (member : entry ∈ list)
    : (∃ later,
        (inner.put call.closing call.shared now chans call.key call.value).1.idle.peek key
          = some later
        ∧ entry ∈ later)
      ∨ (call.keeps inner chans = true ∧ inner.idle.peek call.key = none
        ∧ (∃ limit, inner.idle.capacity = some limit ∧ (limit : Nat) ≤ inner.idle.len)
        ∧ inner.idle.peekLru = some (key, list)) := by
  obtain ⟨closing, shared, own, value⟩ := call
  cases unlisted : shared && (inner.idle.peek own).isSome with
  | true =>
      refine .inl ⟨list, ?_, member⟩
      simp only [PoolInner.put, unlisted, if_true, listed]
  | false =>
      simp only [put_idle_of_unlisted unlisted]
      split
      · next taken =>
          rw [pushIdle_idle rfl]
          by_cases same : key = own
          · subst same
            refine .inl ⟨if inner.maxIdlePerHost ≤ list.length then list
              else list ++ [⟨now, value⟩], ?_, ?_⟩
            · simp only [listed, Option.getD_some]
              split <;> exact LruCache.peek_put_self _ _ _
            · split
              · exact member
              · exact List.mem_append_left _ member
          · split
            · next full =>
                rcases LruCache.peek_put_ne_or_evicted same listed
                  ((inner.idle.peek own).getD []) with still | evicted
                · exact .inl ⟨list, still, member⟩
                · -- A list that is new is not full.
                  have positive := balanced.enabled
                  simp only [evicted.1, Option.getD_none, List.length_nil] at full
                  omega
            · next room =>
                rcases peek_put_put same listed ((inner.idle.peek own).getD [])
                  ((inner.idle.peek own).getD [] ++ [⟨now, value⟩]) with still | evicted
                · exact .inl ⟨list, still, member⟩
                · refine .inr ⟨?_, evicted⟩
                  simp only [PutCall.keeps, unlisted, taken, Bool.not_false, Bool.true_and,
                    decide_eq_true_eq]
                  exact Nat.lt_of_not_le room
      · exact .inl ⟨list, listed, member⟩

/-- A connection that is put back, and is not shared, is idle afterwards, lies in a channel of the
queue that was not closed, or is refused by a full list.
-/
theorem Queued.put_stored {unsent : K → ChanId → Prop} (queued : inner.Queued unsent)
    (call : PutCall K) (unique : call.shared = false) (now : Time) (chans : Table (Chan K))
    : (∃ list entry,
        (inner.put call.closing call.shared now chans call.key call.value).1.idle.peek call.key
          = some list
        ∧ entry ∈ list ∧ entry.value = call.value)
      ∨ (∃ queue tx chan later, inner.waiters.lookup call.key = some queue ∧ tx ∈ queue
        ∧ chans.get? tx = some chan ∧ chan.receiver ≠ .closed
        ∧ (inner.put call.closing call.shared now chans call.key call.value).2.get? tx = some later
        ∧ later.value = some call.value)
      ∨ ((deliver call.closing call.shared call.value
            ((inner.waiters.lookup call.key).getD []) chans).2.1.isSome = true
        ∧ inner.maxIdlePerHost ≤ ((inner.idle.peek call.key).getD []).length) := by
  obtain ⟨closing, shared, key, value⟩ := call
  simp only at unique
  subst unique
  cases stored : inner.put closing false now chans key value with
  | mk after sent =>
      have unlisted : (false && (inner.idle.peek key).isSome) = false := rfl
      have idle : after.idle = _ := stored ▸ put_idle_of_unlisted unlisted now chans
      simp only
      split at idle
      · next kept =>
          rw [pushIdle_idle rfl] at idle
          split at idle
          · next full => exact .inr (.inr ⟨kept, full⟩)
          · refine .inl ⟨(inner.idle.peek key).getD [] ++ [⟨now, value⟩], ⟨now, value⟩, ?_,
              by simp, rfl⟩
            rw [idle, LruCache.peek_put_self]
      · next taken =>
          rw [Option.not_isSome_iff_eq_none] at taken
          cases waiting : inner.waiters.lookup key with
          | none => simp [waiting, deliver] at taken
          | some queue =>
              rw [waiting, Option.getD_some] at taken
              cases given : deliver closing false value queue chans with
              | mk rest result =>
                  obtain ⟨kept, passed⟩ := result
                  rw [given] at taken
                  simp only at taken
                  subst taken
                  simp only [PoolInner.put, waiting, given, Bool.false_and, Bool.false_eq_true,
                    if_false] at stored
                  cases stored
                  obtain ⟨tx, member, chan, later, found, opened, carried⟩ :=
                    deliver_taken (queued key queue waiting).1 given
                  exact .inr (.inl ⟨queue, tx, chan, later, rfl, member, found, opened,
                    carried⟩)

-----------------------------------------------------------------------------------------
-- What a checkout takes
-----------------------------------------------------------------------------------------

section Popping

variable (isOpen shared : ConnId → Bool) (expiration : Option Time) (now : Time)

/-- An entry of a list that is popped from stays, is found, or is reached and of no use, by
induction on the list.
-/
theorem popBack_entry {list : List Idle} {entry : Idle} (member : entry ∈ list)
    : entry ∈ (popBack isOpen shared expiration now list).2
      ∨ (popBack isOpen shared expiration now list).1 = some entry
      ∨ ((isOpen entry.value = false ∨ expires expiration entry.idleAt now = true)
        ∧ ∃ skipped back, list = skipped ++ entry :: back
          ∧ ∀ other ∈ skipped, isOpen other.value = false
            ∨ expires expiration other.idleAt now = true) := by
  induction list with
  | nil => cases member
  | cons head tail ih =>
      by_cases useless : isOpen head.value = false ∨ expires expiration head.idleAt now = true
      · have skip : popBack isOpen shared expiration now (head :: tail)
            = popBack isOpen shared expiration now tail := by
          simp only [popBack]
          rcases useless with shut | late
          · simp [shut]
          · simp [late]
        rw [skip]
        rcases List.mem_cons.mp member with rfl | later
        · exact .inr (.inr ⟨useless, [], tail, rfl, fun _ none => by cases none⟩)
        · rcases ih later with stays | found | ⟨reached, skipped, back, split, before⟩
          · exact .inl stays
          · exact .inr (.inl found)
          · refine .inr (.inr ⟨reached, head :: skipped, back, by rw [split]; rfl, ?_⟩)
            intro other inside
            rcases List.mem_cons.mp inside with rfl | inside
            · exact useless
            · exact before other inside
      · simp only [not_or, Bool.not_eq_false, Bool.not_eq_true] at useless
        have taken : (popBack isOpen shared expiration now (head :: tail)).1 = some head
            ∧ ∀ other ∈ tail,
              other ∈ (popBack isOpen shared expiration now (head :: tail)).2 := by
          simp only [popBack, useless.1, useless.2, Bool.not_true, Bool.false_eq_true, if_false]
          split
          · exact ⟨rfl, fun other inside => List.mem_cons_of_mem _ inside⟩
          · exact ⟨rfl, fun _ => id⟩
        rcases List.mem_cons.mp member with rfl | later
        · exact .inr (.inl taken.1)
        · exact .inl (taken.2 entry later)

/-- The same from the end of the list. -/
theorem popIdle_entry {list : List Idle} {entry : Idle} (member : entry ∈ list)
    : entry ∈ (popIdle isOpen shared expiration now list).2
      ∨ (popIdle isOpen shared expiration now list).1 = some entry
      ∨ ((isOpen entry.value = false ∨ expires expiration entry.idleAt now = true)
        ∧ ∃ front skipped, list = front ++ entry :: skipped
          ∧ ∀ other ∈ skipped, isOpen other.value = false
            ∨ expires expiration other.idleAt now = true) := by
  have reversed : entry ∈ list.reverse := List.mem_reverse.mpr member
  rcases popBack_entry isOpen shared expiration now reversed with
    stays | found | ⟨reached, skipped, back, split, before⟩
  · exact .inl (List.mem_reverse.mpr stays)
  · exact .inr (.inl found)
  · refine .inr (.inr ⟨reached, back.reverse, skipped.reverse, ?_, ?_⟩)
    · simpa using congrArg List.reverse split
    · exact fun other inside => before other (List.mem_reverse.mp inside)

end Popping

/-- An idle entry stays, is found, or is reached and of no use. -/
theorem takeIdle_entry {after : PoolInner K} {isOpen shared : ConnId → Bool} {now : Time}
    {own key : K} {found : Option Idle} {list : List Idle} {entry : Idle}
    (taken : inner.takeIdle isOpen shared now own = (found, after))
    (listed : inner.idle.peek key = some list) (member : entry ∈ list)
    : (∃ later, after.idle.peek key = some later ∧ entry ∈ later)
      ∨ found = some entry
      ∨ (key = own
        ∧ (isOpen entry.value = false ∨ expires inner.timeout entry.idleAt now = true)
        ∧ ∃ front skipped, list = front ++ entry :: skipped
          ∧ ∀ other ∈ skipped, isOpen other.value = false
            ∨ expires inner.timeout other.idleAt now = true) := by
  unfold takeIdle at taken
  split at taken
  · next absent =>
      cases taken
      have different : key ≠ own := by
        rintro rfl
        rw [absent] at listed
        cases listed
      exact .inl ⟨list, by rw [LruCache.peek_pop, if_neg different, listed], member⟩
  · next stored present =>
      cases popped : popIdle isOpen shared inner.timeout now stored with
      | mk first rest =>
          rw [popped] at taken
          cases taken
          have written : inner.idle.getMut own (fun _ => rest) = inner.idle.put own rest := by
            simp only [LruCache.getMut, present]
          simp only [written]
          by_cases same : key = own
          · subst same
            cases present.symm.trans listed
            have reached := popIdle_entry isOpen shared inner.timeout now member
            rw [popped] at reached
            rcases reached with stays | found | useless
            · -- What is left over is left with its key.
              have left : (found.isNone || rest.isEmpty) = false := by
                rcases popIdle_cases isOpen shared inner.timeout now list with
                  nothing | ⟨front, entry, skipped, _, _, _, some⟩
                · cases popped.symm.trans nothing
                  cases stays
                · cases popped.symm.trans some
                  simpa using List.ne_nil_of_mem stays
              refine .inl ⟨rest, ?_, stays⟩
              rw [left, if_neg Bool.false_ne_true, LruCache.peek_put_self]
            · exact .inr (.inl found)
            · exact .inr (.inr ⟨rfl, useless⟩)
          · refine .inl ⟨list, ?_, member⟩
            have still : (inner.idle.put own rest).peek key = some list := by
              rw [LruCache.peek_put_ne_of_room same (.inl (by simp [present])), listed]
            split
            · rw [LruCache.peek_pop, if_neg same, still]
            · exact still

/-- A sweep keeps an idle entry or finds it of no use. -/
theorem clearExpired_entry (isOpen : ConnId → Bool) (now : Time) {key : K} {list : List Idle}
    {entry : Idle} (listed : inner.idle.peek key = some list) (member : entry ∈ list)
    : (∃ later, (inner.clearExpired isOpen now).idle.peek key = some later ∧ entry ∈ later)
      ∨ isOpen entry.value = false ∨ expires inner.timeout entry.idleAt now = true := by
  by_cases useless : isOpen entry.value = false ∨ expires inner.timeout entry.idleAt now = true
  · exact .inr useless
  · simp only [not_or, Bool.not_eq_false, Bool.not_eq_true] at useless
    let keep (values : List Idle) : List Idle :=
      values.filter (fun entry => isOpen entry.value && !expires inner.timeout entry.idleAt now)
    have stays : entry ∈ keep list := by simp [keep, member, useless]
    have mapped : (inner.idle.mapValues keep).peek key = some (keep list) := by
      rw [LruCache.peek_mapValues, listed, Option.map_some]
    refine .inl ⟨keep list, ?_, stays⟩
    simp only [clearExpired, LruCache.peek_foldl_pop]
    rw [if_neg, mapped]
    intro removed
    obtain ⟨⟨other, values⟩, inside, rfl⟩ := List.mem_map.mp removed
    obtain ⟨stored, empty⟩ := List.mem_filter.mp inside
    have read : (inner.idle.mapValues keep).peek other = some values :=
      AList.mem_lookup_iff.mpr stored
    cases mapped.symm.trans read
    exact List.ne_nil_of_mem stays (List.isEmpty_iff.mp empty)

end PoolInner

end Tlsurl.Pool
