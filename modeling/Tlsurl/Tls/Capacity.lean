import Tlsurl.Tls.SingleUse

/-! How many sessions a key holds, and which of them a put drops.
`put` makes room before it knows whether the session needs any, and it bounds a key of a cache of
capacity zero by the number of sessions that it finds.
-/

namespace Tlsurl.Tls

open Library

variable {Session Key : Type} [DecidableEq Session] [DecidableEq Key] {capacity : Nat}

namespace Inner

/-- The number of sessions that a key holds. -/
def held (inner : Inner Session Key capacity) (key : Key) : Nat :=
  (inner.perHostSessions.lookup key).elim 0 LruCache.len

/-- The session of a key that has gone unused for longest. -/
def leastRecent (inner : Inner Session Key capacity) (key : Key) : Option Session :=
  ((inner.perHostSessions.lookup key).bind LruCache.peekLru).map Prod.fst

/-- No key holds more sessions than the capacity. -/
def WithinCapacity (inner : Inner Session Key capacity) : Prop :=
  ∀ key, inner.held key ≤ capacity

/-- Putting a session under a key drops exactly the least recently used session of that key, and
only if the session is new to it and it is full.
-/
def EvictsForRoom (inner : Inner Session Key capacity) (key : Key) (session : Session)
    (next : Inner Session Key capacity)
    : Prop :=
  ∀ other victim,
    inner.stored other victim = true ∧ next.stored other victim = false
    ↔ other = key ∧ inner.stored key session = false ∧ inner.held key = capacity
      ∧ inner.leastRecent key = some victim

/-- What a call on the cache keeps: the capacity, and the sessions that need not go. -/
def KeepsCapacity (inner : Inner Session Key capacity)
    : Event Session Key → Inner Session Key capacity → Prop
  | .put key session, next => next.WithinCapacity ∧ inner.EvictsForRoom key session next
  | .pop _ _, next => next.WithinCapacity

/-- A put into a cache that may hold sessions names a key with room, or a session that the key
does not hold, or the session that would be dropped.
-/
def Fits (inner : Inner Session Key capacity) : Event Session Key → Prop
  | .put key session =>
      0 < capacity
        ∧ (inner.held key < capacity ∨ inner.stored key session = false
          ∨ inner.leastRecent key = some session)
  | .pop _ _ => True

-----------------------------------------------------------------------------------------
-- How many sessions a key holds
-----------------------------------------------------------------------------------------

omit [DecidableEq Session] in
/-- Each key of a cache of positive capacity holds at most as many sessions. -/
theorem withinCapacity_of_pos (inner : Inner Session Key capacity) (positive : 0 < capacity)
    : inner.WithinCapacity := by
  intro key
  unfold held
  cases found : inner.perHostSessions.lookup key with
  | none => simp
  | some cache =>
      have sized : cache.capacity = some ⟨capacity, positive⟩ := by
        rw [inner.sized found, perHostCapacity, dif_pos positive]
      exact cache.bounded ⟨capacity, positive⟩ sized

/-- A key that was put under holds a session. -/
theorem held_put_pos (inner : Inner Session Key capacity) (key : Key) (session : Session)
    : 0 < (inner.put key session).held key := by
  have isStored : (inner.put key session).stored key session = true := by
    simp [stored_put]
  unfold stored at isStored
  unfold held
  cases found : (inner.put key session).perHostSessions.lookup key with
  | none => simp [found] at isStored
  | some cache =>
      by_contra empty
      have none : cache.isEmpty = true := by
        simpa [LruCache.isEmpty, LruCache.len] using empty
      simp [found, LruCache.peek_of_isEmpty none] at isStored

omit [DecidableEq Session] in
/-- A key that holds nothing has no least recently used session, and only then. -/
theorem held_eq_zero_iff (inner : Inner Session Key capacity) (key : Key)
    : inner.held key = 0 ↔ inner.leastRecent key = none := by
  unfold held leastRecent
  cases inner.perHostSessions.lookup key with
  | none => simp
  | some cache => simp [LruCache.peekLru, LruCache.len]

/-- Nothing can be popped where no key holds a session. -/
theorem pop_of_empty {protocolVersion : Session → TlsVersion} {inner : Inner Session Key capacity}
    {key : Key} (empty : inner.held key = 0)
    : inner.pop protocolVersion key = (none, inner) := by
  have least := (held_eq_zero_iff inner key).mp empty
  unfold leastRecent at least
  rw [Option.map_eq_none_iff] at least
  simp [pop, least]

-----------------------------------------------------------------------------------------
-- Which session a put drops
-----------------------------------------------------------------------------------------

omit [DecidableEq Session] in
/-- The cache that a put works on is the one of the key. -/
theorem len_entry (inner : Inner Session Key capacity) (key : Key)
    : (inner.entry key).len = inner.held key := by
  unfold entry held
  cases inner.perHostSessions.lookup key with
  | none => rfl
  | some cache => rfl

/-- A put evicts the least recently used session of a key that holds enough of them, and only
then.
-/
theorem evicted_eq (inner : Inner Session Key capacity) (key : Key)
    : inner.evicted key
      = if capacity ≤ inner.held key then inner.leastRecent key else none := by
  have popped (cache : LruCache Session Unit)
      : cache.popLru.1.map Prod.fst = cache.peekLru.map Prod.fst := by
    unfold LruCache.popLru
    cases cache.peekLru with
    | none => rfl
    | some least => rfl
  have least : (inner.entry key).peekLru.map Prod.fst = inner.leastRecent key := by
    unfold entry leastRecent
    cases inner.perHostSessions.lookup key with
    | none => rfl
    | some cache => rfl
  rw [evicted, evict, len_entry]
  split
  · rw [← least, ← popped]
  · rfl

/-- The least recently used session of a key is stored under it. -/
theorem stored_leastRecent {inner : Inner Session Key capacity} {key : Key} {session : Session}
    (least : inner.leastRecent key = some session)
    : inner.stored key session = true := by
  obtain ⟨oldest, found, rfl⟩ := Option.map_eq_some_iff.mp least
  obtain ⟨cache, present, last⟩ := Option.bind_eq_some_iff.mp found
  simp [stored, present, LruCache.peek_of_peekLru last]

/-- A put drops the session that it evicts, unless it is the session that it puts. -/
theorem put_drops_iff (inner : Inner Session Key capacity) (key other : Key)
    (session victim : Session)
    : inner.stored other victim = true ∧ (inner.put key session).stored other victim = false
      ↔ other = key ∧ inner.evicted key = some victim ∧ victim ≠ session := by
  rw [Bool.eq_false_iff, ne_eq, stored_put]
  by_cases here : other = key
  · subst here
    by_cases evicts : inner.evicted other = some victim
    · simp [stored_evicted evicts, evicts]
    · simp only [evicts, false_and, and_false, if_true, iff_false, ne_eq, not_false_eq_true,
        and_true]
      intro both
      exact both.2 (.inr both.1)
  · simp [here]

/-- A put drops the sessions it should exactly when it does not evict another session of a key
that holds the session already.
-/
theorem put_evictsForRoom_iff {inner : Inner Session Key capacity} (positive : 0 < capacity)
    (within : inner.WithinCapacity) (key : Key) (session : Session)
    : inner.EvictsForRoom key session (inner.put key session)
      ↔ (inner.held key < capacity ∨ inner.stored key session = false
        ∨ inner.leastRecent key = some session) := by
  have bound := within key
  constructor
  · intro evicts
    by_contra wrong
    simp only [not_or, not_lt, Bool.not_eq_false] at wrong
    obtain ⟨full, present, other⟩ := wrong
    have occupied : inner.leastRecent key ≠ none := by
      rw [ne_eq, ← held_eq_zero_iff]
      omega
    obtain ⟨victim, least⟩ := Option.ne_none_iff_exists'.mp occupied
    have dropped : inner.evicted key = some victim := by
      rw [evicted_eq, if_pos full, least]
    rw [least, Option.some.injEq] at other
    have room := (evicts key victim).mp
      ((put_drops_iff inner key key session victim).mpr ⟨rfl, dropped, other⟩)
    rw [room.2.1] at present
    cases present
  · intro fits other victim
    rw [put_drops_iff]
    apply and_congr_right
    intro here
    rw [evicted_eq]
    by_cases full : capacity ≤ inner.held key
    · rw [if_pos full]
      constructor
      · rintro ⟨least, different⟩
        rcases fits with room | absent | only
        · omega
        · exact ⟨absent, by omega, least⟩
        · rw [least, Option.some.injEq] at only
          exact absurd only different
      · rintro ⟨absent, _, least⟩
        refine ⟨least, ?_⟩
        rintro rfl
        rw [stored_leastRecent least] at absent
        cases absent
    · rw [if_neg full]
      constructor
      · rintro ⟨least, _⟩
        cases least
      · rintro ⟨_, exact, _⟩
        omega

/-- Under the capacity, a call keeps it and the sessions that need not go exactly when it fits.
In a cache of capacity zero every put leaves one session too many.
-/
theorem keepsCapacity_iff {protocolVersion : Session → TlsVersion}
    {inner next : Inner Session Key capacity} {event : Event Session Key}
    (within : inner.WithinCapacity) (step : Step protocolVersion inner event next)
    : inner.KeepsCapacity event next ↔ inner.Fits event := by
  cases event with
  | put key session =>
      cases step
      by_cases positive : 0 < capacity
      · simp only [KeepsCapacity, Fits, withinCapacity_of_pos _ positive,
          put_evictsForRoom_iff positive within key session, positive, true_and]
      · apply iff_of_false
        · intro keeps
          have bound := keeps.1 key
          have occupied := held_put_pos inner key session
          omega
        · intro fits
          exact positive fits.1
  | pop key returned =>
      apply iff_of_true
      · by_cases positive : 0 < capacity
        · exact withinCapacity_of_pos next positive
        · have bound := within key
          have empty : inner.held key = 0 := by omega
          have popped : inner.pop protocolVersion key = (returned, next) := step
          rw [pop_of_empty empty] at popped
          cases popped
          exact within
      · exact trivial

/-- A call leads to one state. -/
theorem step_functional {protocolVersion : Session → TlsVersion}
    {inner next other : Inner Session Key capacity} {event : Event Session Key}
    (step : Step protocolVersion inner event next) (again : Step protocolVersion inner event other)
    : next = other := by
  cases event with
  | put key session => exact step.trans again.symm
  | pop key returned => exact congrArg Prod.snd (step.symm.trans again)

end Inner

/-- Every call of a run keeps each key within the capacity and drops a session only to make room
for a new one if and only if every put fits.
-/
theorem session_capacity_iff (protocolVersion : Session → TlsVersion)
    (events : List (Inner.Event Session Key)) (inner : Inner Session Key capacity)
    : Run (Having Inner.KeepsCapacity (Inner.Step protocolVersion)) Inner.new events inner
      ↔ Run (Guarded Inner.Fits (Inner.Step protocolVersion)) Inner.new events inner := by
  have initial : (Inner.new : Inner Session Key capacity).WithinCapacity := by
    simp [Inner.WithinCapacity, Inner.held, Inner.new]
  apply Run.having_iff_guarded initial
  · intro before event after _ _ keeps
    cases event with
    | put key session => exact keeps.1
    | pop key returned => exact keeps
  · intro before event after within step
    exact Inner.keepsCapacity_iff within step

/-- A session that is put a second time costs the key another session, although nothing has to
go; and a cache of capacity zero holds one session.
-/
theorem put_again_evicts
    : (¬ ∀ (Session Key : Type) [DecidableEq Session] [DecidableEq Key]
        (protocolVersion : Session → TlsVersion) (events : List (Inner.Event Session Key))
        (inner : Inner Session Key 2),
        Run (Inner.Step protocolVersion) Inner.new events inner
        → Run (Having Inner.KeepsCapacity (Inner.Step protocolVersion)) Inner.new events inner)
      ∧ ¬ ∀ (Session Key : Type) [DecidableEq Session] [DecidableEq Key]
        (protocolVersion : Session → TlsVersion) (events : List (Inner.Event Session Key))
        (inner : Inner Session Key 0),
        Run (Inner.Step protocolVersion) Inner.new events inner
        → Run (Having Inner.KeepsCapacity (Inner.Step protocolVersion)) Inner.new events inner := by
  constructor
  · intro always
    have front
        : Run (Inner.Step (fun _ => .tls13)) (Inner.new : Inner Nat Bool 2)
            [.put true 7, .put true 8] ((Inner.new.put true 7).put true 8) :=
      .cons rfl (.cons rfl .nil)
    have run := front.snoc (show Inner.Step _ _ (.put true 8) _ from rfl)
    obtain ⟨before, earlier, keeps, _⟩ := (always Nat Bool _ _ _ run).snoc_inv
    have reached := Run.functional Inner.step_functional (earlier.mono (fun both => both.2)) front
    subst reached
    have room := (keeps.2 true 7).mp (by decide)
    exact absurd room.2.1 (by decide)
  · intro always
    have run
        : Run (Inner.Step (fun _ => .tls13)) (Inner.new : Inner Nat Bool 0)
            ([] ++ [.put true 7]) _ :=
      .snoc .nil rfl
    obtain ⟨before, _, keeps, _⟩ := (always Nat Bool _ _ _ run).snoc_inv
    exact absurd (keeps.1 true) (by decide)

end Tlsurl.Tls
