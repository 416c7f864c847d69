import Mathlib.Data.PNat.Defs
import Tlsurl.Library.AssocMap

/-! A bounded map that forgets its least recently used entry.
Entries are listed from the most to the least recently used.
-/

namespace Tlsurl.Library

/-- `capacity = none` is an unbounded cache. A bounded one never holds more entries than
its capacity, which is positive.
-/
structure LruCache (K V : Type*) where
  capacity : Option ℕ+
  map : AssocMap K V
  bounded : ∀ limit ∈ capacity, map.entries.length ≤ limit

namespace LruCache

variable {K V : Type*}

/-- An empty cache of the given capacity. -/
def new (capacity : Option ℕ+) : LruCache K V :=
  ⟨capacity, ∅, by simp⟩

def len (cache : LruCache K V) : Nat := cache.map.entries.length

def isEmpty (cache : LruCache K V) : Bool := cache.map.entries.isEmpty

/-- The entry that has gone unused for longest. -/
def peekLru (cache : LruCache K V) : Option (K × V) :=
  cache.map.entries.getLast?.map (fun entry => (entry.1, entry.2))

/-- Values change in place; neither the keys nor the order of use do. -/
def mapValues (change : V → V) (cache : LruCache K V) : LruCache K V where
  capacity := cache.capacity
  map := AssocMap.mapValues change cache.map
  bounded := by simpa [AssocMap.mapValues] using cache.bounded

variable [DecidableEq K]

/-- Reads a value without touching the order of use. -/
def peek (cache : LruCache K V) (key : K) : Option V := cache.map.lookup key

/-- Removes a key. -/
def pop (cache : LruCache K V) (key : K) : LruCache K V where
  capacity := cache.capacity
  map := cache.map.erase key
  bounded limit limited := by
    have shorter := AssocMap.length_erase cache.map key
    have := cache.bounded limit limited
    omega

/-- Removes the least recently used entry. -/
def popLru (cache : LruCache K V) : Option (K × V) × LruCache K V :=
  match cache.peekLru with
  | none => (none, cache)
  | some entry => (some entry, cache.pop entry.1)

/-- A full cache drops its least recently used entry before a new key comes in. -/
def makeRoom (cache : LruCache K V) : LruCache K V :=
  match cache.capacity with
  | none => cache
  | some limit => if cache.len < limit then cache else cache.popLru.2

/-- Popping the least recently used entry of a non-empty cache shortens it. -/
theorem len_popLru (cache : LruCache K V) : cache.popLru.2.len = cache.len - 1 := by
  unfold popLru peekLru
  cases last : cache.map.entries.getLast? with
  | none => simp_all [len]
  | some entry =>
      have member : entry.1 ∈ cache.map := by
        have stored : entry ∈ cache.map.entries := List.mem_of_getLast? last
        exact AList.mem_keys.mpr (List.mem_map_of_mem (f := Sigma.fst) stored)
      have shorter := AssocMap.length_erase cache.map entry.1
      simp only [member, if_true] at shorter
      simp only [Option.map_some, len, pop]
      omega

/-- After making room a bounded cache can take one more entry. -/
theorem len_makeRoom (cache : LruCache K V) {limit : ℕ+} (limited : cache.capacity = some limit)
    : cache.makeRoom.len < limit := by
  have bound := cache.bounded limit (by simp [limited])
  have positive := limit.pos
  have shorter := len_popLru cache
  simp only [makeRoom, limited]
  split
  · assumption
  · simp only [len] at *
    omega

/-- Stores a value and marks its key most recently used, evicting if it must. -/
def put (cache : LruCache K V) (key : K) (value : V) : LruCache K V :=
  if present : key ∈ cache.map then
    { capacity := cache.capacity
      map := cache.map.insert key value
      bounded := fun limit limited => by
        have same := AssocMap.length_insert cache.map key value
        have := cache.bounded limit limited
        simp only [present, if_true] at same
        omega }
  else
    { capacity := cache.capacity
      map := cache.makeRoom.map.insert key value
      bounded := fun limit limited => by
        have longer := AssocMap.length_insert cache.makeRoom.map key value
        have room := cache.len_makeRoom limited
        simp only [len] at room
        omega }

@[simp] theorem put_capacity (cache : LruCache K V) (key : K) (value : V)
    : (cache.put key value).capacity = cache.capacity := by
  unfold put
  split <;> rfl

@[simp] theorem pop_capacity (cache : LruCache K V) (key : K)
    : (cache.pop key).capacity = cache.capacity := rfl

/-- Popping keys one after another keeps the capacity, by induction on them. -/
@[simp] theorem foldl_pop_capacity (keys : List K) (cache : LruCache K V)
    : (keys.foldl pop cache).capacity = cache.capacity := by
  induction keys generalizing cache with
  | nil => rfl
  | cons key keys ih => exact ih (cache.pop key)

/-- Reads a value, storing `default` first when the key is new; either way the key
becomes the most recently used.
-/
def getOrInsert (cache : LruCache K V) (key : K) (default : V) : V × LruCache K V :=
  let value := (cache.peek key).getD default
  (value, cache.put key value)

/-- Changes the value of a present key and marks the key most recently used. -/
def getMut (cache : LruCache K V) (key : K) (change : V → V) : LruCache K V :=
  match cache.peek key with
  | none => cache
  | some value => cache.put key (change value)

-----------------------------------------------------------------------------------------
-- What each operation leaves readable
-----------------------------------------------------------------------------------------

@[simp] theorem peek_new (capacity : Option ℕ+) (key : K)
    : (new capacity : LruCache K V).peek key = none := rfl

theorem peek_pop (cache : LruCache K V) (key other : K)
    : (cache.pop key).peek other = if other = key then none else cache.peek other := by
  simp only [peek, pop]
  split
  · next same => rw [same, AList.lookup_erase]
  · next different => rw [AList.lookup_erase_ne different]

@[simp] theorem peek_mapValues (change : V → V) (cache : LruCache K V) (key : K)
    : (cache.mapValues change).peek key = (cache.peek key).map change := by
  simp [peek, mapValues]

/-- Popping keys one after another, by induction on them. -/
theorem peek_foldl_pop (keys : List K) (cache : LruCache K V) (key : K)
    : (keys.foldl pop cache).peek key = if key ∈ keys then none else cache.peek key := by
  induction keys generalizing cache with
  | nil => simp
  | cons head tail ih =>
      rw [List.foldl_cons, ih, peek_pop]
      by_cases later : key ∈ tail
      · simp [later]
      · simp [later]

omit [DecidableEq K] in
theorem isEmpty_iff {cache : LruCache K V} : cache.isEmpty = true ↔ cache.map.entries = [] := by
  simp [isEmpty]

/-- Nothing is read from an empty cache. -/
theorem peek_of_isEmpty {cache : LruCache K V} (empty : cache.isEmpty = true) (key : K)
    : cache.peek key = none := by
  have none : cache.map.entries = [] := isEmpty_iff.mp empty
  simp [peek, AList.lookup, none]

/-- The least recently used entry is stored. -/
theorem peek_of_peekLru {cache : LruCache K V} {entry : K × V}
    (oldest : cache.peekLru = some entry)
    : cache.peek entry.1 = some entry.2 := by
  obtain ⟨stored, last, rfl⟩ := Option.map_eq_some_iff.mp oldest
  exact AList.mem_lookup_iff.mpr (List.mem_of_getLast? last)

/-- The least recently used entry is stored, and popping it removes its key only. -/
theorem popLru_some {cache rest : LruCache K V} {key : K} {value : V}
    (popped : cache.popLru = (some (key, value), rest))
    : cache.peek key = some value ∧ rest = cache.pop key := by
  unfold popLru peekLru at popped
  cases last : cache.map.entries.getLast? with
  | none => simp [last] at popped
  | some entry =>
      simp only [last, Option.map_some, Prod.mk.injEq, Option.some.injEq] at popped
      obtain ⟨⟨rfl, rfl⟩, rfl⟩ := popped
      exact ⟨AList.mem_lookup_iff.mpr (List.mem_of_getLast? last), rfl⟩

/-- Nothing is popped only from an empty cache, which stays as it is. -/
theorem popLru_none {cache rest : LruCache K V} (popped : cache.popLru = (none, rest))
    : cache.len = 0 ∧ rest = cache := by
  unfold popLru peekLru at popped
  cases last : cache.map.entries.getLast? with
  | none => simp_all [len]
  | some entry => simp [last] at popped

/-- Making room forgets entries but invents none. -/
theorem peek_of_makeRoom {cache : LruCache K V} {key : K} {value : V}
    (found : cache.makeRoom.peek key = some value)
    : cache.peek key = some value := by
  unfold makeRoom at found
  split at found
  · exact found
  · split at found
    · exact found
    · unfold popLru at found
      split at found
      · exact found
      · rw [peek_pop] at found
        split at found
        · cases found
        · exact found

@[simp] theorem peek_put_self (cache : LruCache K V) (key : K) (value : V)
    : (cache.put key value).peek key = some value := by
  unfold put
  split <;> simp [peek]

/-- An entry readable after a write under another key was readable before it. -/
theorem peek_of_put_ne {cache : LruCache K V} {key other : K} {value found : V}
    (different : other ≠ key) (read : (cache.put key value).peek other = some found)
    : cache.peek other = some found := by
  unfold put at read
  split at read
  · simpa [peek, AList.lookup_insert_ne different] using read
  · simp only [peek, AList.lookup_insert_ne different] at read
    exact peek_of_makeRoom read

/-- A write under a present key, or into a cache with room, evicts nothing. -/
theorem peek_put_ne_of_room {cache : LruCache K V} {key other : K} {value : V}
    (different : other ≠ key)
    (room : (cache.peek key).isSome ∨ ∀ limit ∈ cache.capacity, cache.len < limit)
    : (cache.put key value).peek other = cache.peek other := by
  unfold put
  split
  · simp [peek, AList.lookup_insert_ne different]
  · next absent =>
      have space : ∀ limit ∈ cache.capacity, cache.len < limit := by
        rcases room with present | space
        · exact absurd (AList.lookup_isSome.mp present) absent
        · exact space
      have unchanged : cache.makeRoom = cache := by
        unfold makeRoom
        split
        · rfl
        · next limit limited => rw [if_pos (space limit (by simp [limited]))]
      simp [peek, AList.lookup_insert_ne different, unchanged]

/-- A write costs another entry only if its key is new to a full cache and the entry has gone
unused for longest.
-/
theorem peek_put_ne_or_evicted {cache : LruCache K V} {key other : K} {found : V}
    (different : other ≠ key) (read : cache.peek other = some found) (value : V)
    : (cache.put key value).peek other = some found
      ∨ (cache.peek key = none
        ∧ (∃ limit, cache.capacity = some limit ∧ (limit : Nat) ≤ cache.len)
        ∧ cache.peekLru = some (other, found)) := by
  by_cases room : (cache.peek key).isSome ∨ ∀ limit ∈ cache.capacity, cache.len < limit
  · exact .inl ((peek_put_ne_of_room different room).trans read)
  · simp only [not_or, Option.not_isSome_iff_eq_none, not_forall, not_lt] at room
    obtain ⟨absent, limit, limited, full⟩ := room
    have capacity : cache.capacity = some limit := limited
    have missing : key ∉ cache.map := AList.lookup_eq_none.mp absent
    have made : (cache.put key value).peek other = cache.popLru.2.peek other := by
      simp only [put, dif_neg missing, makeRoom, capacity, if_neg (Nat.not_lt.mpr full)]
      simp [peek, AList.lookup_insert_ne different]
    rw [made]
    cases popped : cache.popLru with
    | mk entry rest =>
        cases entry with
        | none =>
            obtain ⟨_, rfl⟩ := popLru_none popped
            exact .inl read
        | some entry =>
            obtain ⟨stored, rfl⟩ := popLru_some popped
            simp only [peek_pop]
            split
            · next same =>
                subst same
                cases stored.symm.trans read
                refine .inr ⟨absent, ⟨limit, capacity, full⟩, ?_⟩
                unfold popLru at popped
                split at popped
                · cases popped
                · next oldest => simpa [oldest] using congrArg Prod.fst popped
            · exact .inl read

-----------------------------------------------------------------------------------------
-- What each operation weighs
-----------------------------------------------------------------------------------------

theorem weight_pop (f : V → Nat) (cache : LruCache K V) (key : K)
    : AssocMap.weight f (cache.pop key).map + (cache.peek key).elim 0 f
      = AssocMap.weight f cache.map :=
  AssocMap.weight_erase f cache.map key

theorem weight_makeRoom_le (f : V → Nat) (cache : LruCache K V)
    : AssocMap.weight f cache.makeRoom.map ≤ AssocMap.weight f cache.map := by
  unfold makeRoom
  split
  · exact Nat.le_refl _
  · split
    · exact Nat.le_refl _
    · unfold popLru
      split
      · exact Nat.le_refl _
      · next entry _ =>
          have popped := weight_pop f cache entry.1
          show AssocMap.weight f (cache.pop entry.1).map ≤ _
          omega

/-- A write trades the old value's weight for the new one's; an eviction only lowers it. -/
theorem weight_put_le (f : V → Nat) (cache : LruCache K V) (key : K) (value : V)
    : AssocMap.weight f (cache.put key value).map + (cache.peek key).elim 0 f
      ≤ AssocMap.weight f cache.map + f value := by
  unfold put
  split
  · exact Nat.le_of_eq (AssocMap.weight_insert f cache.map key value)
  · next absent =>
      have unread : cache.peek key = none := AList.lookup_eq_none.mpr absent
      have written := AssocMap.weight_insert f cache.makeRoom.map key value
      have smaller := weight_makeRoom_le f cache
      simp only [unread, Option.elim_none, Nat.add_zero]
      omega

/-- Under a present key a write trades the old value's weight for the new one's. -/
theorem weight_put_present (f : V → Nat) {cache : LruCache K V} {key : K} {old : V}
    (present : cache.peek key = some old) (value : V)
    : AssocMap.weight f (cache.put key value).map + f old
      = AssocMap.weight f cache.map + f value := by
  have written := AssocMap.weight_insert f cache.map key value
  have stored : cache.map.lookup key = some old := present
  have member : key ∈ cache.map := AList.lookup_isSome.mp (by rw [stored]; rfl)
  rw [stored, Option.elim_some] at written
  rw [put, dif_pos member]
  exact written

/-- Under a new key it adds the new value's weight to what making room leaves. -/
theorem weight_put_absent (f : V → Nat) {cache : LruCache K V} {key : K}
    (absent : cache.peek key = none) (value : V)
    : AssocMap.weight f (cache.put key value).map
      = AssocMap.weight f cache.makeRoom.map + f value := by
  have written := AssocMap.weight_insert f cache.makeRoom.map key value
  have unread : cache.makeRoom.map.lookup key = none := by
    cases read : cache.makeRoom.peek key with
    | none => exact read
    | some found =>
        rw [peek_of_makeRoom read] at absent
        cases absent
  rw [unread, Option.elim_none, Nat.add_zero] at written
  rw [put, dif_neg (AList.lookup_eq_none.mp absent)]
  exact written

/-- A cache below its capacity has room. -/
theorem makeRoom_of_lt {cache : LruCache K V} {limit : ℕ+} (limited : cache.capacity = some limit)
    (room : cache.len < limit)
    : cache.makeRoom = cache := by
  simp [makeRoom, limited, room]

/-- A full cache of values of positive weight gets lighter by making room. -/
theorem weight_makeRoom_lt (f : V → Nat) {cache : LruCache K V} {limit : ℕ+}
    (limited : cache.capacity = some limit) (full : (limit : Nat) ≤ cache.len)
    (positive : ∀ key value, cache.peek key = some value → 0 < f value)
    : AssocMap.weight f cache.makeRoom.map < AssocMap.weight f cache.map := by
  have occupied := limit.pos
  cases popped : cache.popLru with
  | mk entry rest =>
      have room : cache.makeRoom = rest := by
        simp only [makeRoom, limited, if_neg (Nat.not_lt.mpr full), popped]
      cases entry with
      | none =>
          have empty := (popLru_none popped).1
          omega
      | some entry =>
          obtain ⟨stored, same⟩ := popLru_some popped
          have weighs := weight_pop f cache entry.1
          have counted := positive entry.1 entry.2 stored
          rw [stored, Option.elim_some] at weighs
          rw [room, same]
          omega

end LruCache

end Tlsurl.Library
