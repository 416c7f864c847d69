import Tlsurl.Library.Lru
import Tlsurl.Library.Run

/-! The default TLS session cache (`tls/session.rs`).
A session stands for its id, which is what the source compares and hashes. Every operation
holds the lock of the cache, so a run is a sequence of operations.
-/

namespace Tlsurl.Tls

open Library

/-- `TlsVersion` without the versions that the library does not accept. -/
inductive TlsVersion where
  | tls10 | tls11 | tls12 | tls13
  deriving DecidableEq

/-- The capacity of the cache of one key: zero means unbounded. -/
def perHostCapacity (capacity : Nat) : Option ℕ+ :=
  if positive : 0 < capacity then some ⟨capacity, positive⟩ else none

/-- `Inner` of a cache made for `capacity` sessions a key. -/
structure Inner (Session Key : Type) [DecidableEq Key] (capacity : Nat) where
  reverse : AssocMap Session Key
  perHostSessions : AssocMap Key (LruCache Session Unit)
  sized
    : ∀ {key cache}, perHostSessions.lookup key = some cache
      → cache.capacity = perHostCapacity capacity

namespace Inner

variable {Session Key : Type} [DecidableEq Session] [DecidableEq Key] {capacity : Nat}

/-- `LruTlsSessionCache::new` -/
def new : Inner Session Key capacity where
  reverse := ∅
  perHostSessions := ∅
  sized found := by simp at found

/-- The cache of a key, made when the key is new. -/
def entry (inner : Inner Session Key capacity) (key : Key) : LruCache Session Unit :=
  (inner.perHostSessions.lookup key).getD (LruCache.new (perHostCapacity capacity))

/-- Drops the least recently used session of a full cache. -/
def evict (capacity : Nat) (cache : LruCache Session Unit)
    : Option Session × LruCache Session Unit :=
  if cache.len ≥ capacity then
    match cache.popLru with
    | (popped, cache) => (popped.map Prod.fst, cache)
  else (none, cache)

omit [DecidableEq Session] in
/-- `entry` has the capacity of the cache. -/
theorem entry_capacity (inner : Inner Session Key capacity) (key : Key)
    : (inner.entry key).capacity = perHostCapacity capacity := by
  unfold entry
  cases found : inner.perHostSessions.lookup key with
  | none => rfl
  | some cache => exact inner.sized found

/-- Evicting frees a place and forgets the evicted session only. -/
theorem evict_spec {cache : LruCache Session Unit}
    (sized : cache.capacity = perHostCapacity capacity)
    : (evict capacity cache).2.capacity = cache.capacity
      ∧ (∀ limit ∈ (evict capacity cache).2.capacity, (evict capacity cache).2.len < limit)
      ∧ (∀ session ∈ (evict capacity cache).1, (cache.peek session).isSome = true)
      ∧ ∀ session, (((evict capacity cache).2.peek session).isSome = true
        ↔ (cache.peek session).isSome = true ∧ (evict capacity cache).1 ≠ some session) := by
  have limited {limit : ℕ+} (bound : limit ∈ cache.capacity) : (limit : Nat) = capacity := by
    rw [sized, perHostCapacity] at bound
    split at bound
    · cases bound; rfl
    · cases bound
  unfold evict
  split
  · next full =>
      cases popped : cache.popLru with
      | mk least shorter =>
          have shortened := cache.len_popLru
          simp only [popped] at shortened ⊢
          cases least with
          | none =>
              obtain ⟨empty, rfl⟩ := LruCache.popLru_none popped
              refine ⟨rfl, ?_, by simp, by simp⟩
              intro limit bound
              have positive := limit.pos
              omega
          | some entry =>
              obtain ⟨stored, rfl⟩ := LruCache.popLru_some popped
              refine ⟨rfl, ?_, by simp [stored], ?_⟩
              · intro limit bound
                have positive := limit.pos
                have whole := limited bound
                have bounded := cache.bounded limit bound
                simp only [LruCache.len] at shortened bounded ⊢
                omega
              · intro session
                rw [LruCache.peek_pop]
                by_cases same : session = entry.1
                · simp [same]
                · simp [same, Ne.symm same]
  · next room =>
      refine ⟨rfl, ?_, by simp, by simp⟩
      intro limit bound
      have whole := limited bound
      show cache.len < limit
      omega

/-- `LruTlsSessionCache::put` -/
def put (inner : Inner Session Key capacity) (key : Key) (session : Session)
    : Inner Session Key capacity :=
  let evicted := (evict capacity (inner.entry key)).1
  let cache := (evict capacity (inner.entry key)).2.put session ()
  let reverse := match evicted with
    | some evictedSession => inner.reverse.erase evictedSession
    | none => inner.reverse
  { reverse := reverse.insert session key
    perHostSessions := inner.perHostSessions.insert key cache
    sized := by
      intro other cache found
      by_cases same : other = key
      · subst same
        rw [AList.lookup_insert] at found
        rw [← Option.some.inj found, LruCache.put_capacity]
        exact (evict_spec (inner.entry_capacity other)).1.trans (inner.entry_capacity other)
      · rw [AList.lookup_insert_ne same] at found
        exact inner.sized found }

/-- Removes a session from the cache of its key, and the cache with its last session. -/
def take (inner : Inner Session Key capacity) (owner : Key) (session : Session)
    : Inner Session Key capacity :=
  match found : inner.perHostSessions.lookup owner with
  | none => { inner with reverse := inner.reverse.erase session }
  | some cache =>
      { reverse := inner.reverse.erase session
        perHostSessions := AssocMap.assign inner.perHostSessions owner
          (if (cache.pop session).isEmpty then none else some (cache.pop session))
        sized := by
          intro other stored lookup
          rw [AssocMap.lookup_assign] at lookup
          split at lookup
          · split at lookup
            · cases lookup
            · rw [← Option.some.inj lookup]
              have whole : cache.capacity = perHostCapacity capacity := inner.sized found
              exact whole
          · exact inner.sized lookup }

/-- `LruTlsSessionCache::pop` -/
def pop (protocolVersion : Session → TlsVersion) (inner : Inner Session Key capacity) (key : Key)
    : Option Session × Inner Session Key capacity :=
  match (inner.perHostSessions.lookup key).bind LruCache.peekLru with
  | none => (none, inner)
  | some (session, _) =>
      if protocolVersion session = .tls13 then
        match inner.reverse.lookup session with
        | none => (some session, inner)
        | some owner => (some session, inner.take owner session)
      else (some session, inner)

end Inner

end Tlsurl.Tls
