import Tlsurl.Pool.Handout
import Tlsurl.Pool.Operations

/-! Keys and connections.
Whatever holds a connection for a key holds one that was opened for that key.
-/

namespace Tlsurl.Pool

open Library

variable {K : Type}

/-- The key a channel was made for. -/
def askedFor (chans : Table (Chan K)) (tx : ChanId) : Option K := (chans.get? tx).map Chan.key

/-- The key a connection was opened for. -/
def openedFor (conns : Table (Conn K)) (value : ConnId) : Option K :=
  (conns.get? value).map Conn.key

/-- A channel carries only connections of its key. -/
def CarriesKeyed (owner : ConnId → Option K) (chans : Table (Chan K)) : Prop :=
  ∀ tx chan value, chans.get? tx = some chan → chan.value = some value
    → owner value = some chan.key

/-- A connection keeps the key it was opened for. -/
theorem Grown.openedFor {before after : Table (Conn K)} (grown : Grown before after)
    {value : ConnId} {key : K} (opened : openedFor before value = some key)
    : Pool.openedFor after value = some key := by
  obtain ⟨conn, found, rfl⟩ := Option.map_eq_some_iff.mp opened
  obtain ⟨later, foundLater, same, _⟩ := grown.kept value conn found
  simp only [Pool.openedFor, foundLater, Option.map_some, same]

-----------------------------------------------------------------------------------------
-- Channels
-----------------------------------------------------------------------------------------

section Channels

variable {owner : ConnId → Option K} {chans after : Table (Chan K)}

/-- Every channel stays, with its key, and what the channels carry stays keyed. -/
structure ChansKept (owner : ConnId → Option K) (before after : Table (Chan K)) : Prop where
  asked : ∀ tx key, askedFor before tx = some key → askedFor after tx = some key
  carries : CarriesKeyed owner before → CarriesKeyed owner after

theorem ChansKept.refl (owner : ConnId → Option K) (chans : Table (Chan K))
    : ChansKept owner chans chans where
  asked _ _ := id
  carries := id

theorem ChansKept.trans {first second third : Table (Chan K)}
    (earlier : ChansKept owner first second) (later : ChansKept owner second third)
    : ChansKept owner first third where
  asked tx key asked := later.asked tx key (earlier.asked tx key asked)
  carries := later.carries ∘ earlier.carries

/-- A channel may change in all but its key, and may lose its value or get one of its key. -/
theorem ChansKept.set {tx : ChanId} {chan : Chan K} (found : chans.get? tx = some chan)
    (changed : Chan K) (same : changed.key = chan.key)
    (value
      : ∀ value, changed.value = some value
        → chan.value = some value ∨ owner value = some chan.key)
    : ChansKept owner chans (chans.set tx changed) where
  asked other key asked := by
    unfold askedFor at asked ⊢
    rw [Table.get?_set]
    split
    · next here =>
        rw [here.1, found] at asked
        simpa [same] using asked
    · exact asked
  carries keyed other stored sent found' carried := by
    rcases Table.get?_set_cases found found' with ⟨rfl, rfl⟩ | ⟨-, before⟩
    · rw [same]
      rcases value sent carried with old | owned
      · exact keyed _ chan sent found old
      · exact owned
    · exact keyed other stored sent before carried

theorem ChansKept.alloc (chan : Chan K) (empty : chan.value = none)
    : ChansKept owner chans (chans.alloc chan) where
  asked tx key asked := by
    obtain ⟨old, found, _⟩ := Option.map_eq_some_iff.mp asked
    have older : tx ≠ chans.size := Nat.ne_of_lt (Table.lt_size found)
    simpa only [askedFor, Table.get?_alloc, if_neg older] using asked
  carries keyed tx stored value found carried := by
    rw [Table.get?_alloc] at found
    split at found
    · cases found
      rw [empty] at carried
      cases carried
    · exact keyed tx stored value found carried

theorem ChansKept.dropSender (owner : ConnId → Option K) (chans : Table (Chan K)) (tx : ChanId)
    : ChansKept owner chans (dropSender chans tx) := by
  unfold Pool.dropSender
  split
  · exact .refl owner chans
  · next chan found => exact .set found _ rfl (fun _ => .inl)

theorem ChansKept.dropSenders (owner : ConnId → Option K) (chans : Table (Chan K))
    (queue : List ChanId)
    : ChansKept owner chans (dropSenders chans queue) :=
  dropSenders_keeps (fun before tx kept => kept.trans (.dropSender owner before tx))
    (.refl owner chans) queue

/-- Delivery to channels of a key sends a connection of that key. -/
theorem ChansKept.deliver {closing : ChanId → Bool} {shared : Bool} {value : ConnId} {key : K}
    {queue : List ChanId} (owned : owner value = some key)
    (asked : ∀ tx ∈ queue, askedFor chans tx = some key)
    : ChansKept owner chans (deliver closing shared value queue chans).2.2 := by
  apply deliver_keeps ?_ (ChansKept.refl owner chans)
  intro tx member before kept
  have key := kept.asked tx key (asked tx member)
  apply kept.trans
  unfold send
  split
  · exact .refl owner before
  · next chan found =>
      split
      · exact .set found _ rfl (fun _ => .inl)
      · refine ChansKept.set found _ rfl (fun sent same => ?_)
        cases same
        simp only [askedFor, found, Option.map_some, Option.some.injEq] at key
        exact .inr (by rw [key, owned])

end Channels

-----------------------------------------------------------------------------------------
-- The state behind the lock
-----------------------------------------------------------------------------------------

variable [DecidableEq K]

/-- The idle lists hold connections of their key, and the queues channels of their key. -/
structure PoolInner.Keyed (owner : ConnId → Option K) (asked : ChanId → Option K)
    (inner : PoolInner K) : Prop where
  idle
    : ∀ key list entry, inner.idle.peek key = some list → entry ∈ list
      → owner entry.value = some key
  waiters
    : ∀ key queue tx, inner.waiters.lookup key = some queue → tx ∈ queue → asked tx = some key

namespace PoolInner

variable {owner : ConnId → Option K} {asked : ChanId → Option K} {inner after : PoolInner K}

/-- Keeping parts of the idle lists and of the queues keeps them keyed. -/
theorem Keyed.shrink (keyed : inner.Keyed owner asked)
    (idle
      : ∀ key list entry, after.idle.peek key = some list → entry ∈ list
        → ∃ old stored, inner.idle.peek key = some old ∧ stored ∈ old
            ∧ stored.value = entry.value)
    (waiters
      : ∀ key queue tx, after.waiters.lookup key = some queue → tx ∈ queue
        → ∃ old, inner.waiters.lookup key = some old ∧ tx ∈ old)
    : after.Keyed owner asked where
  idle key list entry found member := by
    obtain ⟨old, stored, before, memberBefore, same⟩ := idle key list entry found member
    rw [← same]
    exact keyed.idle key old stored before memberBefore
  waiters key queue tx found member := by
    obtain ⟨old, before, memberBefore⟩ := waiters key queue tx found member
    exact keyed.waiters key old tx before memberBefore

/-- More connections and channels keep the rest keyed. -/
theorem Keyed.mono (keyed : inner.Keyed owner asked) {owner' : ConnId → Option K}
    {asked' : ChanId → Option K}
    (owned : ∀ value key, owner value = some key → owner' value = some key)
    (made : ∀ tx key, asked tx = some key → asked' tx = some key)
    : inner.Keyed owner' asked' where
  idle key list entry found member := owned _ _ (keyed.idle key list entry found member)
  waiters key queue tx found member := made _ _ (keyed.waiters key queue tx found member)

theorem Keyed.pushIdle (keyed : inner.Keyed owner asked) {key : K} {value : ConnId}
    (owned : owner value = some key) (now : Time)
    : (inner.pushIdle now key value).Keyed owner asked where
  idle other list entry found member := by
    rcases peek_pushIdle found with ⟨_, before⟩ | ⟨rfl, old, before, cases⟩
    · exact keyed.idle other list entry before member
    · have stored (entry : Idle) (member : entry ∈ old) : owner entry.value = some other := by
        cases present : inner.idle.peek other with
        | none =>
            simp only [present, Option.getD_none] at before
            simp [← before] at member
        | some list =>
            simp only [present, Option.getD_some] at before
            exact keyed.idle other list entry present (before ▸ member)
      rcases cases with ⟨_, rfl⟩ | ⟨_, rfl⟩
      · exact stored entry member
      · rcases List.mem_append.mp member with old | new
        · exact stored entry old
        · rw [List.mem_singleton.mp new]
          exact owned
  waiters other queue tx found member := by
    obtain ⟨idle, idleIntervalRef, pushed⟩ := inner.pushIdle_eq now key value
    rw [pushed] at found
    exact keyed.waiters other queue tx found member

/-- A queue is replaced by a part of it. -/
theorem Keyed.assign (keyed : inner.Keyed owner asked) {key : K} {queue rest : List ChanId}
    (waiting : inner.waiters.lookup key = some queue) (part : ∀ tx ∈ rest, tx ∈ queue)
    : ({ inner with
        waiters := AssocMap.assign inner.waiters key
          (if rest.isEmpty then none else some rest) } : PoolInner K).Keyed owner asked := by
  refine keyed.shrink (fun key list entry found member => ⟨list, entry, found, member, rfl⟩)
    (fun other left tx found member => ?_)
  rcases AssocMap.lookup_assign_cases found with ⟨rfl, written⟩ | ⟨-, stored⟩
  · obtain ⟨-, same⟩ := Option.ite_none_left_eq_some.mp written
    cases same
    exact ⟨queue, waiting, part tx member⟩
  · exact ⟨left, stored, member⟩

/-- `put` of a connection of the key keeps everything keyed. -/
theorem Keyed.put {chans sent : Table (Chan K)} (keyed : inner.Keyed owner (askedFor chans))
    {closing : ChanId → Bool} {shared : Bool} {now : Time} {key : K} {value : ConnId}
    (owned : owner value = some key)
    (stored : inner.put closing shared now chans key value = (after, sent))
    : after.Keyed owner (askedFor sent) ∧ ChansKept owner chans sent := by
  rcases put_cases stored with
    ⟨rfl, rfl⟩ | ⟨waiters, lookup, given, rfl⟩ | ⟨_, queue, rest, waiting, suffix, given, rfl⟩
  · exact ⟨keyed, .refl owner _⟩
  · have asked : ∀ tx ∈ (inner.waiters.lookup key).getD [], askedFor chans tx = some key := by
      intro tx member
      cases waiting : inner.waiters.lookup key with
      | none => simp [waiting] at member
      | some queue => exact keyed.waiters key queue tx waiting (by simpa [waiting] using member)
    have kept : ChansKept owner chans (deliver closing shared value _ chans).2.2 :=
      ChansKept.deliver owned asked
    rw [given] at kept
    have drained : ({ inner with waiters } : PoolInner K).Keyed owner (askedFor chans) := by
      refine keyed.shrink (fun key list entry found member => ⟨list, entry, found, member, rfl⟩)
        (fun other queue tx found member => ?_)
      simp only [lookup] at found
      split at found
      · cases found
      · exact ⟨queue, found, member⟩
    exact ⟨(drained.mono (fun _ _ => id) kept.asked).pushIdle owned now, kept⟩
  · have kept : ChansKept owner chans (deliver closing shared value queue chans).2.2 :=
      ChansKept.deliver owned (fun tx member => keyed.waiters key queue tx waiting member)
    rw [given] at kept
    have left := keyed.assign waiting (fun tx member => suffix.subset member)
    exact ⟨left.mono (fun _ _ => id) kept.asked, kept⟩

theorem Keyed.connected (keyed : inner.Keyed owner asked) (chans : Table (Chan K)) (key : K)
    : (inner.connected chans key).1.Keyed owner asked := by
  refine keyed.shrink (fun key list entry found member => ⟨list, entry, found, member, rfl⟩)
    (fun other queue tx found member => ?_)
  have left : (inner.waiters.erase key).lookup other = some queue := found
  by_cases same : other = key
  · rw [same, AList.lookup_erase] at left
    cases left
  · rw [AList.lookup_erase_ne same] at left
    exact ⟨queue, left, member⟩

theorem Keyed.cleanWaiters (keyed : inner.Keyed owner asked) (chans : Table (Chan K)) (key : K)
    : (inner.cleanWaiters chans key).Keyed owner asked := by
  unfold PoolInner.cleanWaiters
  split
  · exact keyed
  · next queue waiting =>
      exact keyed.assign waiting (fun tx member => (List.mem_filter.mp member).1)

theorem Keyed.clearExpired (keyed : inner.Keyed owner asked) (isOpen : ConnId → Bool)
    (now : Time)
    : (inner.clearExpired isOpen now).Keyed owner asked := by
  refine keyed.shrink (fun key list entry found member => ?_)
    (fun key queue tx found member => ⟨queue, found, member⟩)
  obtain ⟨old, before, left, _⟩ := peek_clearExpired found
  rw [left] at member
  exact ⟨old, entry, before, (List.mem_filter.mp member).1, rfl⟩

/-- A channel of the key may wait. -/
theorem Keyed.pushWaiter (keyed : inner.Keyed owner asked) {key : K} {tx : ChanId}
    (made : asked tx = some key)
    : (inner.pushWaiter key tx).Keyed owner asked where
  idle := keyed.idle
  waiters other queue waiter found member := by
    by_cases same : other = key
    · subst same
      simp only [PoolInner.pushWaiter, AList.lookup_insert, Option.some.injEq] at found
      rw [← found] at member
      rcases List.mem_append.mp member with old | new
      · cases waiting : inner.waiters.lookup other with
        | none => simp [waiting] at old
        | some queue =>
            exact keyed.waiters other queue waiter waiting (by simpa [waiting] using old)
      · rw [List.mem_singleton.mp new]
        exact made
    · simp only [PoolInner.pushWaiter, AList.lookup_insert_ne same] at found
      exact keyed.waiters other queue waiter found member

/-- Taking an idle connection leaves the others, and it was opened for the key. -/
theorem Keyed.takeIdle (keyed : inner.Keyed owner asked) {isOpen shared : ConnId → Bool}
    {now : Time} {key : K} {found : Option Idle}
    (taken : inner.takeIdle isOpen shared now key = (found, after))
    : after.Keyed owner asked
      ∧ ∀ entry, found = some entry → owner entry.value = some key := by
  have queues (idle : LruCache K (List Idle))
      (kept
        : ∀ other list entry, idle.peek other = some list → entry ∈ list
          → ∃ old stored, inner.idle.peek other = some old ∧ stored ∈ old
              ∧ stored.value = entry.value)
      : ({ inner with idle } : PoolInner K).Keyed owner asked :=
    keyed.shrink kept (fun key queue tx found member => ⟨queue, found, member⟩)
  rcases takeIdle_cases taken with
    ⟨rfl, rfl⟩ | ⟨rfl, rfl⟩ | ⟨front, entry, skipped, rest, rfl, stored, _, _, left, rfl⟩
  · refine ⟨queues _ (fun other list entry found member => ?_), by simp⟩
    rw [LruCache.peek_pop] at found
    split at found
    · cases found
    · exact ⟨list, entry, found, member, rfl⟩
  · refine ⟨queues _ (fun other list entry found member => ?_), by simp⟩
    rcases peek_leave found with ⟨_, before⟩ | ⟨_, rfl, _⟩
    · exact ⟨list, entry, before, member, rfl⟩
    · cases member
  · have listed : entry ∈ front ++ entry :: skipped := by simp
    refine ⟨queues _ (fun other list other' found member => ?_), ?_⟩
    · rcases peek_leave found with ⟨_, before⟩ | ⟨rfl, rfl, _⟩
      · exact ⟨list, other', before, member, rfl⟩
      · rw [left] at member
        rcases List.mem_append.mp member with older | renewed
        · exact ⟨_, other', stored, by simp [older], rfl⟩
        · split at renewed
          · rw [List.mem_singleton.mp renewed]
            exact ⟨_, entry, stored, listed, rfl⟩
          · cases renewed
    · intro popped same
      cases same
      exact keyed.idle key _ entry stored listed

end PoolInner

-----------------------------------------------------------------------------------------
-- The system
-----------------------------------------------------------------------------------------

/-- Whatever holds a connection for a key holds one that was opened for that key. -/
structure State.Keyed (state : State K) : Prop where
  inner
    : ∀ inner, state.inner = some inner
      → inner.Keyed (openedFor state.conns) (askedFor state.chans)
  chans : CarriesKeyed (openedFor state.conns) state.chans
  pooleds
    : ∀ id pooled, state.pooleds.get? id = some pooled
      → openedFor state.conns pooled.value = some pooled.key
  checkouts
    : ∀ id checkout rx, state.checkouts.get? id = some checkout → checkout.waiter = some rx
      → askedFor state.chans rx = some checkout.key

namespace State

variable {state : State K}

/-- Tokens, time and the handle of the pool do not matter. -/
theorem Keyed.elsewhere (keyed : state.Keyed) (connectings : Table (Connecting K))
    (alive : Bool) (now : Time)
    : ({ state with connectings, alive, now } : State K).Keyed :=
  ⟨keyed.inner, keyed.chans, keyed.pooleds, keyed.checkouts⟩

/-- Nor does the log. -/
theorem Keyed.noted (keyed : state.Keyed) (calls : List (Call K))
    : ({ state with calls } : State K).Keyed :=
  ⟨keyed.inner, keyed.chans, keyed.pooleds, keyed.checkouts⟩

/-- More connections keep everything keyed. -/
theorem Keyed.grow (keyed : state.Keyed) {conns : Table (Conn K)}
    (grown : Grown state.conns conns)
    : ({ state with conns } : State K).Keyed where
  inner inner present :=
    (keyed.inner inner present).mono (fun _ _ => grown.openedFor) (fun _ _ => id)
  chans tx chan value found carried := grown.openedFor (keyed.chans tx chan value found carried)
  pooleds id pooled found := grown.openedFor (keyed.pooleds id pooled found)
  checkouts := keyed.checkouts

/-- Channels may change as channels may. -/
theorem Keyed.withChans (keyed : state.Keyed) {chans : Table (Chan K)}
    (kept : ChansKept (openedFor state.conns) state.chans chans)
    : ({ state with chans } : State K).Keyed where
  inner inner present := (keyed.inner inner present).mono (fun _ _ => id) kept.asked
  chans := kept.carries keyed.chans
  pooleds := keyed.pooleds
  checkouts id checkout rx found waiter :=
    kept.asked rx _ (keyed.checkouts id checkout rx found waiter)

/-- The state behind the lock may be replaced by a keyed one. -/
theorem Keyed.withInner (keyed : state.Keyed) {inner : PoolInner K}
    (inside : inner.Keyed (openedFor state.conns) (askedFor state.chans))
    : ({ state with inner := some inner } : State K).Keyed where
  inner other present := by
    cases present
    exact inside
  chans := keyed.chans
  pooleds := keyed.pooleds
  checkouts := keyed.checkouts

/-- A new handle is for the key of its connection. -/
theorem Keyed.newPooled (keyed : state.Keyed) {pooled : Pooled K}
    (owned : openedFor state.conns pooled.value = some pooled.key)
    (connectings : Table (Connecting K))
    : ({ state with connectings, pooleds := state.pooleds.alloc pooled } : State K).Keyed where
  inner := keyed.inner
  chans := keyed.chans
  pooleds id other found := by
    rw [Table.get?_alloc] at found
    split at found
    · cases found
      exact owned
    · exact keyed.pooleds id other found
  checkouts := keyed.checkouts

theorem Keyed.freePooled (keyed : state.Keyed) (id : Nat)
    : ({ state with pooleds := state.pooleds.free id } : State K).Keyed where
  inner := keyed.inner
  chans := keyed.chans
  pooleds other pooled found := by
    rw [Table.get?_free] at found
    split at found
    · cases found
    · exact keyed.pooleds other pooled found
  checkouts := keyed.checkouts

/-- A checkout that waits waits on a channel of its key. -/
theorem Keyed.withCheckouts (keyed : state.Keyed) {checkouts : Table (Checkout K)}
    (waits
      : ∀ id checkout rx, checkouts.get? id = some checkout → checkout.waiter = some rx
        → askedFor state.chans rx = some checkout.key)
    : ({ state with checkouts } : State K).Keyed where
  inner := keyed.inner
  chans := keyed.chans
  pooleds := keyed.pooleds
  checkouts := waits

theorem Keyed.setCheckout (keyed : state.Keyed) (id : Nat) (checkout : Checkout K)
    (waits : ∀ rx, checkout.waiter = some rx → askedFor state.chans rx = some checkout.key)
    : ({ state with checkouts := state.checkouts.set id checkout } : State K).Keyed := by
  refine keyed.withCheckouts (fun other stored rx found waiter => ?_)
  rw [Table.get?_set] at found
  split at found
  · cases found
    exact waits rx waiter
  · exact keyed.checkouts other stored rx found waiter

theorem Keyed.freeCheckout (keyed : state.Keyed) (id : Nat)
    : ({ state with checkouts := state.checkouts.free id } : State K).Keyed := by
  refine keyed.withCheckouts (fun other stored rx found waiter => ?_)
  rw [Table.get?_free] at found
  split at found
  · cases found
  · exact keyed.checkouts other stored rx found waiter

theorem Keyed.checkout (keyed : state.Keyed) (key : K) : (state.checkout key).Keyed := by
  refine keyed.withCheckouts (fun other stored rx found waiter => ?_)
  rw [Table.get?_alloc] at found
  split at found
  · cases found
    cases waiter
  · exact keyed.checkouts other stored rx found waiter

theorem Keyed.put (keyed : state.Keyed) (closing : ChanId → Bool) {key : K} {value : ConnId}
    (owned : openedFor state.conns value = some key)
    : (state.put closing key value).Keyed := by
  unfold State.put
  split
  · exact keyed
  · next inner present =>
      obtain ⟨inside, kept⟩ := (keyed.inner inner present).put owned
        (Prod.mk.eta (p := inner.put closing (state.canShare value) state.now state.chans key
          value)).symm
      exact (keyed.withChans kept).withInner inside

theorem Keyed.connected (keyed : state.Keyed) (key : K) (token : Nat)
    : (state.connected key token).Keyed := by
  unfold State.connected
  split
  · exact keyed
  · next inner present =>
      have kept := ChansKept.dropSenders (openedFor state.conns) state.chans
        ((inner.waiters.lookup key).getD [])
      have inside := ((keyed.inner inner present).connected state.chans key).mono
        (fun _ _ => id) kept.asked
      exact ((keyed.withChans kept).withInner inside).noted _

theorem Keyed.connecting (keyed : state.Keyed) (key : K) (ver : Ver)
    : (state.connecting key ver).Keyed := by
  unfold State.connecting
  split
  · next inner present =>
      split
      · exact keyed
      · have before := keyed.inner inner present
        have inside
            : PoolInner.Keyed (openedFor state.conns) (askedFor state.chans)
                { inner with connecting := insert key inner.connecting } :=
          ⟨before.idle, before.waiters⟩
        exact ((keyed.withInner inside).elsewhere _ _ _).noted _
  · exact keyed.elsewhere _ _ _

theorem Keyed.dropConnecting (keyed : state.Keyed) (token : Nat)
    : (state.dropConnecting token).Keyed := by
  have rest := keyed.elsewhere (state.connectings.free token) state.alive state.now
  rcases state.dropConnecting_cases token with same | ⟨held, _, ⟨_, same⟩ | same⟩
  · rwa [same]
  · rw [same]
    exact rest.connected held.key token
  · rwa [same]

theorem Keyed.alpnH2 (keyed : state.Keyed) (token : Nat) : (state.alpnH2 token).Keyed := by
  unfold State.alpnH2
  split
  · exact keyed
  · next connecting _ =>
      exact ((keyed.noted _).connecting connecting.key .http2).dropConnecting token

theorem Keyed.pooled (keyed : state.Keyed) (closing : ChanId → Bool) (token : Nat)
    (http2 ready poisoned : Bool)
    : (state.pooled closing token http2 ready poisoned).Keyed := by
  unfold State.pooled
  split
  · exact keyed
  · next connecting _ =>
      let conn : Conn K := { key := connecting.key, http2, ready, poisoned }
      have grown := keyed.grow (Grown.alloc state.conns conn)
      have owned : openedFor (state.conns.alloc conn) state.conns.size = some connecting.key := by
        simp [openedFor, Table.get?_alloc, conn]
      simp only
      split
      · exact ((grown.newPooled owned state.connectings).noted _).dropConnecting token
      · split
        · have stored := (grown.put closing owned).connected connecting.key token
          exact stored.newPooled (by simpa using owned) _
        · exact (grown.newPooled owned state.connectings).dropConnecting token

theorem Keyed.reuse (keyed : state.Keyed) (id : Nat) {key : K} {value : ConnId}
    (owned : openedFor state.conns value = some key)
    : (state.reuse id key value).Keyed :=
  (keyed.freeCheckout id).newPooled owned state.connectings

theorem Keyed.pollWaiter (keyed : state.Keyed) (id : Nat) {key : K} {rx : ChanId}
    (waits : askedFor state.chans rx = some key)
    : (state.pollWaiter id key rx).2.Keyed := by
  unfold State.pollWaiter
  split
  · exact keyed
  · next chan found =>
      split
      · next value carried =>
          have same : chan.key = key := by simpa [askedFor, found] using waits
          have owned := keyed.chans rx chan value found carried
          rw [same] at owned
          have kept : ChansKept (openedFor state.conns) state.chans
              (state.chans.set rx { chan with receiver := .closed, value := none }) :=
            .set found _ rfl (fun _ absent => by cases absent)
          have received := keyed.withChans kept
          simp only
          split
          · exact received.reuse id owned
          · exact received.freeCheckout id
      · split
        · exact keyed
        · exact keyed.freeCheckout id

theorem Keyed.pollIdle (keyed : state.Keyed) (id : Nat) (key : K)
    : (state.pollIdle id key).2.Keyed := by
  unfold State.pollIdle
  split
  · exact keyed.freeCheckout id
  · next inner present =>
      split
      · next entry rest taken =>
          obtain ⟨inside, owned⟩ := (keyed.inner inner present).takeIdle taken
          exact (keyed.withInner inside).reuse id (owned entry rfl)
      · next rest taken =>
          obtain ⟨inside, _⟩ := (keyed.inner inner present).takeIdle taken
          have kept : ChansKept (openedFor state.conns) state.chans (state.chans.alloc { key }) :=
            .alloc { key } rfl
          have made : askedFor (state.chans.alloc { key }) state.chans.size = some key := by
            simp [askedFor, Table.get?_alloc]
          have waiting := (inside.mono (fun _ _ owned => owned) kept.asked).pushWaiter made
          refine ((keyed.withChans kept).withInner waiting).setCheckout id
            { key, waiter := some state.chans.size } (fun rx waiter => ?_)
          cases waiter
          exact made

theorem Keyed.poll (keyed : state.Keyed) {id : Nat} {checkout : Checkout K}
    (found : state.checkouts.get? id = some checkout)
    : (state.poll id checkout).2.Keyed := by
  unfold State.poll
  split
  · next rx waiter => exact keyed.pollWaiter id (keyed.checkouts id checkout rx found waiter)
  · exact keyed.pollIdle id checkout.key

/-- A channel whose receiver changes, and that may lose its value, is as good as before. -/
theorem Keyed.setReceiver (keyed : state.Keyed) {rx : ChanId} {chan : Chan K}
    (found : state.chans.get? rx = some chan) (changed : Chan K) (same : changed.key = chan.key)
    (value : ∀ value, changed.value = some value → chan.value = some value)
    : ({ state with chans := state.chans.set rx changed } : State K).Keyed :=
  keyed.withChans (.set found changed same (fun sent carried => .inl (value sent carried)))

theorem Keyed.beginDrop (keyed : state.Keyed) {id : Nat} {checkout : Checkout K}
    (found : state.checkouts.get? id = some checkout)
    : (state.beginDrop id checkout).Keyed := by
  unfold State.beginDrop
  split
  · exact keyed.freeCheckout id
  · next rx waiter =>
      have dropping := keyed.setCheckout id { checkout with dropping := true }
        (fun other same => keyed.checkouts id checkout other found same)
      split
      · exact dropping
      · next chan channel =>
          split
          · exact dropping.setReceiver channel { chan with receiver := .dropping } rfl
              (fun _ carried => carried)
          · exact dropping

theorem Keyed.closeReceiver (keyed : state.Keyed) (id : Nat) (checkout : Checkout K)
    (rx : ChanId)
    : (state.closeReceiver id checkout rx).Keyed := by
  have closed := keyed.setCheckout id { checkout with waiter := none }
    (fun other waiter => by cases waiter)
  unfold State.closeReceiver
  split
  · exact closed
  · next chan channel =>
      exact closed.setReceiver channel { chan with receiver := .closed, value := none } rfl
        (fun _ absent => by cases absent)

theorem Keyed.endDrop (keyed : state.Keyed) (id : Nat) (checkout : Checkout K)
    : (state.endDrop id checkout).Keyed := by
  have freed := keyed.freeCheckout id
  unfold State.endDrop
  cases present : state.inner with
  | none => simpa [present] using freed
  | some inner =>
      exact freed.withInner ((keyed.inner inner present).cleanWaiters state.chans checkout.key)

theorem Keyed.dropPooled (keyed : state.Keyed) {id : Nat} {pooled : Pooled K}
    (found : state.pooleds.get? id = some pooled) (closing : ChanId → Bool)
    : (state.dropPooled closing id pooled).Keyed := by
  have rest := keyed.freePooled id
  rcases state.dropPooled_cases closing id pooled with same | same
  · rwa [same]
  · rw [same]
    exact rest.put closing (keyed.pooleds id pooled found)

theorem Keyed.dropPool (keyed : state.Keyed) : state.dropPool.Keyed := by
  unfold State.dropPool
  split
  · exact keyed.elsewhere state.connectings false state.now
  · next inner present =>
      have after := keyed.withChans (foldl_dropSenders_keeps
        (fun before tx kept => kept.trans (.dropSender _ before tx)) (.refl _ state.chans)
        inner.waiters.entries)
      refine ⟨fun _ absent => ?_, after.chans, after.pooleds, after.checkouts⟩
      cases absent

end State

/-- Each step keeps everything keyed. -/
theorem Step.keyed {state next : State K} {event : Event K} (step : Step state event next)
    (keyed : state.Keyed)
    : next.Keyed := by
  cases event with
  | connecting key ver =>
      obtain ⟨_, rfl⟩ := step
      exact keyed.connecting key ver
  | alpnH2 token =>
      obtain ⟨_, rfl⟩ := step
      exact keyed.alpnH2 token
  | dropConnecting token =>
      obtain rfl := step
      exact keyed.dropConnecting token
  | pooled closing token http2 ready poisoned =>
      obtain ⟨_, rfl⟩ := step
      exact keyed.pooled closing token http2 ready poisoned
  | checkout key =>
      obtain ⟨_, rfl⟩ := step
      exact keyed.checkout key
  | poll id outcome =>
      obtain ⟨checkout, found, _, polled⟩ := step
      have after := keyed.poll found
      rwa [polled] at after
  | beginDrop id =>
      obtain ⟨checkout, found, _, rfl⟩ := step
      exact keyed.beginDrop found
  | closeReceiver id =>
      obtain ⟨checkout, rx, _, _, _, rfl⟩ := step
      exact keyed.closeReceiver id checkout rx
  | endDrop id =>
      obtain ⟨checkout, _, _, _, rfl⟩ := step
      exact keyed.endDrop id checkout
  | dropPooled closing id =>
      obtain ⟨pooled, found, rfl⟩ := step
      exact keyed.dropPooled found closing
  | clearExpired =>
      obtain ⟨inner, present, _, rfl⟩ := step
      exact keyed.withInner ((keyed.inner inner present).clearExpired state.isOpen state.now)
  | setReady value ready =>
      obtain ⟨conn, found, rfl⟩ := step
      exact keyed.grow (.set found _ rfl rfl id)
  | poison value =>
      obtain ⟨conn, found, rfl⟩ := step
      exact keyed.grow (.set found _ rfl rfl (fun _ => rfl))
  | tick elapsed =>
      obtain rfl := step
      exact keyed.elsewhere state.connectings state.alive _
  | dropPool =>
      obtain ⟨_, _, rfl⟩ := step
      exact keyed.dropPool

/-- A connection that a checkout resolves to was opened for the key of the checkout. -/
theorem Step.poll_opened {state next : State K} {id : Nat} {value : ConnId}
    {idleSince : Option Time} (step : Step state (.poll id (.ok value idleSince)) next)
    (keyed : state.Keyed)
    : ∃ checkout, state.checkouts.get? id = some checkout
        ∧ openedFor state.conns value = some checkout.key := by
  have after := step.keyed keyed
  obtain ⟨checkout, found, _, polled⟩ := step
  obtain ⟨_, _, pool, pooleds⟩ := State.poll_ok polled
  have conns : next.conns = state.conns := by
    have same := state.poll_conns id checkout
    rwa [polled] at same
  have owned := after.pooleds state.pooleds.size
    { value, isReused := true, key := checkout.key, pool }
    (by rw [pooleds, Table.get?_alloc, if_pos rfl])
  exact ⟨checkout, found, by rwa [conns] at owned⟩

/-- Everything is keyed in every state reached. -/
theorem run_keyed {config : Config} {timerIsEmpty : Bool} {events : List (Event K)}
    {state : State K} (run : Run Step (State.new config timerIsEmpty) events state)
    : state.Keyed := by
  apply run.invariant
  · intro _ before event after _ keyed step
    exact Step.keyed step keyed
  · refine ⟨fun inner present => ?_, ?_, ?_, ?_⟩
    · unfold State.new at present
      split at present
      · cases present
        refine ⟨fun _ _ _ found => ?_, fun _ _ _ found => ?_⟩
        · cases found
        · cases found
      · cases present
    · intro tx chan value found
      cases found
    · intro id pooled found
      cases found
    · intro id checkout rx found
      cases found

end Tlsurl.Pool
