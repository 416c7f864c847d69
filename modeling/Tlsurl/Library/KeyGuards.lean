import Mathlib.Data.Finset.Basic
import Mathlib.Data.List.Nodup
import Tlsurl.Library.Table

/-! Locks for keys, held by guards, and a ledger of who got a lock and who gave it back.
Some guards hold the lock of their key and some hold none.
-/

namespace Tlsurl.Library

/-- The guards that got the lock of a key, and those that gave it back, oldest first. -/
structure Ledger (K : Type*) where
  granted : List (Nat × K) := []
  released : List (Nat × K) := []

/-- Writes down what one step grants and releases. -/
def Ledger.record {K : Type*} (ledger : Ledger K) (granted released : Option (Nat × K))
    : Ledger K where
  granted := ledger.granted ++ granted.toList
  released := ledger.released ++ released.toList

section Guards

variable {K α : Type*} (key : α → K) (holds : α → Bool)

/-- A live guard has the lock of the key. -/
def HoldsKey (guards : Table α) (index : Nat) (locked : K) : Prop :=
  ∃ guard, guards.get? index = some guard ∧ holds guard = true ∧ key guard = locked

/-- The locked keys are those that live guards hold, each held once; and each guard that got a
lock holds it still or has given it back, once.
-/
structure Accounted (locked : Finset K) (guards : Table α) (ledger : Ledger K) : Prop where
  exact : ∀ k, k ∈ locked ↔ ∃ index, HoldsKey key holds guards index k
  unique
    : ∀ index other k, HoldsKey key holds guards index k → HoldsKey key holds guards other k
      → index = other
  balance
    : ∀ index k, (index, k) ∈ ledger.granted
      ↔ (index, k) ∈ ledger.released ∨ HoldsKey key holds guards index k
  gone : ∀ index k, (index, k) ∈ ledger.released → guards.get? index = none
  old : ∀ index k, (index, k) ∈ ledger.granted → index < guards.size
  granted : ledger.granted.Nodup
  released : ledger.released.Nodup

variable {key holds} {guards : Table α} {index : Nat} {k : K} {guard : α}

-----------------------------------------------------------------------------------------
-- Guards
-----------------------------------------------------------------------------------------

/-- What a guard with the lock of a key is. -/
theorem HoldsKey.of_found (held : HoldsKey key holds guards index k)
    (found : guards.get? index = some guard)
    : holds guard = true ∧ key guard = k := by
  obtain ⟨same, foundAgain, holder, locked⟩ := held
  cases found.symm.trans foundAgain
  exact ⟨holder, locked⟩

/-- A guard that holds nothing has no lock. -/
theorem not_holdsKey (found : guards.get? index = some guard) (plain : holds guard = false)
    : ¬ HoldsKey key holds guards index k := by
  intro held
  have holder := (held.of_found found).1
  rw [plain] at holder
  cases holder

theorem holdsKey_alloc (guards : Table α) (fresh : α) (index : Nat) (k : K)
    : HoldsKey key holds (guards.alloc fresh) index k
      ↔ (index = guards.size ∧ holds fresh = true ∧ key fresh = k)
        ∨ HoldsKey key holds guards index k := by
  unfold HoldsKey
  rw [Table.get?_alloc]
  constructor
  · rintro ⟨guard, found, holder, locked⟩
    split at found
    · next new =>
        cases found
        exact .inl ⟨new, holder, locked⟩
    · exact .inr ⟨guard, found, holder, locked⟩
  · rintro (⟨rfl, holder, locked⟩ | ⟨guard, found, holder, locked⟩)
    · exact ⟨fresh, if_pos rfl, holder, locked⟩
    · refine ⟨guard, ?_, holder, locked⟩
      rw [if_neg (Nat.ne_of_lt (Table.lt_size found)), found]

theorem holdsKey_free (guards : Table α) (gone index : Nat) (k : K)
    : HoldsKey key holds (guards.free gone) index k
      ↔ index ≠ gone ∧ HoldsKey key holds guards index k := by
  unfold HoldsKey
  rw [Table.get?_free]
  constructor
  · rintro ⟨guard, found, rest⟩
    split at found
    · cases found
    · next other => exact ⟨other, guard, found, rest⟩
  · rintro ⟨other, guard, found, rest⟩
    exact ⟨guard, by rw [if_neg other, found], rest⟩

-----------------------------------------------------------------------------------------
-- Locks
-----------------------------------------------------------------------------------------

namespace Accounted

variable {locked : Finset K} {ledger : Ledger K}

/-- Without guards nothing is locked. -/
theorem empty : Accounted key holds ∅ (Table.empty : Table α) {} := by
  have none (index : Nat) (k : K) : ¬ HoldsKey key holds (Table.empty : Table α) index k := by
    rintro ⟨guard, found, _⟩
    cases found
  refine ⟨fun k => ?_, ?_, ?_, ?_, ?_, List.nodup_nil, List.nodup_nil⟩
  · simp [none]
  · exact fun index other k held => absurd held (none index k)
  · simp [none]
  · intro index k member
    cases member
  · intro index k member
    cases member

/-- A new guard that holds nothing changes nothing. -/
theorem alloc_plain (accounted : Accounted key holds locked guards ledger) {fresh : α}
    (plain : holds fresh = false)
    : Accounted key holds locked (guards.alloc fresh) ledger := by
  have same (index : Nat) (k : K)
      : HoldsKey key holds (guards.alloc fresh) index k ↔ HoldsKey key holds guards index k := by
    simp [holdsKey_alloc, plain]
  refine ⟨fun k => ?_, ?_, ?_, fun index k member => ?_, fun index k member => ?_,
    accounted.granted, accounted.released⟩
  · simpa only [same] using accounted.exact k
  · simpa only [same] using accounted.unique
  · simpa only [same] using accounted.balance
  · have before := accounted.old index k ((accounted.balance index k).mpr (.inl member))
    rw [Table.get?_alloc, if_neg (Nat.ne_of_lt before), accounted.gone index k member]
  · have before := accounted.old index k member
    rw [Table.size_alloc]
    omega

/-- A guard that holds nothing may go. -/
theorem free_plain (accounted : Accounted key holds locked guards ledger)
    (found : guards.get? index = some guard) (plain : holds guard = false)
    : Accounted key holds locked (guards.free index) ledger := by
  have same (other : Nat) (k : K)
      : HoldsKey key holds (guards.free index) other k ↔ HoldsKey key holds guards other k := by
    rw [holdsKey_free]
    refine ⟨fun both => both.2, fun held => ⟨?_, held⟩⟩
    rintro rfl
    exact not_holdsKey found plain held
  refine ⟨fun k => ?_, ?_, ?_, fun other k member => ?_, ?_, accounted.granted,
    accounted.released⟩
  · simpa only [same] using accounted.exact k
  · simpa only [same] using accounted.unique
  · simpa only [same] using accounted.balance
  · rw [Table.get?_free, accounted.gone other k member, ite_self]
  · simpa only [Table.size_free] using accounted.old

variable [DecidableEq K]

/-- A new guard gets the lock of a key that nobody holds. -/
theorem alloc_lock (accounted : Accounted key holds locked guards ledger) {fresh : α}
    (holder : holds fresh = true) (unlocked : key fresh ∉ locked)
    : Accounted key holds (insert (key fresh) locked) (guards.alloc fresh)
        (ledger.record (some (guards.size, key fresh)) none) := by
  have before (index : Nat) (held : HoldsKey key holds guards index (key fresh)) : False :=
    unlocked ((accounted.exact _).mpr ⟨index, held⟩)
  have more (index : Nat) (k : K)
      : HoldsKey key holds (guards.alloc fresh) index k
        ↔ (index = guards.size ∧ key fresh = k) ∨ HoldsKey key holds guards index k := by
    simp [holdsKey_alloc, holder]
  refine ⟨fun k => ?_, fun index other k one two => ?_, fun index k => ?_,
    fun index k member => ?_, fun index k member => ?_, ?_, ?_⟩
  · simp only [more, Finset.mem_insert, accounted.exact k]
    constructor
    · rintro (rfl | ⟨index, held⟩)
      · exact ⟨guards.size, .inl ⟨rfl, rfl⟩⟩
      · exact ⟨index, .inr held⟩
    · rintro ⟨index, ⟨_, same⟩ | held⟩
      · exact .inl same.symm
      · exact .inr ⟨index, held⟩
  · rcases (more index k).mp one with ⟨rfl, rfl⟩ | one
    · rcases (more other _).mp two with ⟨rfl, _⟩ | two
      · rfl
      · exact (before other two).elim
    · rcases (more other k).mp two with ⟨rfl, rfl⟩ | two
      · exact (before index one).elim
      · exact accounted.unique index other k one two
  · simp only [Ledger.record, Option.toList_some, Option.toList_none, List.append_nil,
      List.mem_append, List.mem_singleton, Prod.mk.injEq, accounted.balance index k, more]
    constructor
    · rintro ((gone | held) | ⟨rfl, rfl⟩)
      · exact .inl gone
      · exact .inr (.inr held)
      · exact .inr (.inl ⟨rfl, rfl⟩)
    · rintro (gone | ⟨rfl, rfl⟩ | held)
      · exact .inl (.inl gone)
      · exact .inr ⟨rfl, rfl⟩
      · exact .inl (.inr held)
  · simp only [Ledger.record, Option.toList_none, List.append_nil] at member
    have old := accounted.old index k ((accounted.balance index k).mpr (.inl member))
    rw [Table.get?_alloc, if_neg (Nat.ne_of_lt old), accounted.gone index k member]
  · simp only [Ledger.record, Option.toList_some, List.mem_append, List.mem_singleton,
      Prod.mk.injEq] at member
    rw [Table.size_alloc]
    rcases member with member | ⟨rfl, _⟩
    · have old := accounted.old index k member
      omega
    · omega
  · simp only [Ledger.record, Option.toList_some]
    refine List.nodup_append.mpr ⟨accounted.granted, by simp, ?_⟩
    rintro ⟨index, k⟩ member _ here same
    rw [List.mem_singleton.mp here, Prod.mk.injEq] at same
    exact absurd (accounted.old index k member) (by rw [same.1]; exact Nat.lt_irrefl _)
  · simpa only [Ledger.record, Option.toList_none, List.append_nil] using accounted.released

/-- A guard that goes gives its lock back. -/
theorem free_lock (accounted : Accounted key holds locked guards ledger)
    (found : guards.get? index = some guard) (holder : holds guard = true)
    : Accounted key holds (locked.erase (key guard)) (guards.free index)
        (ledger.record none (some (index, key guard))) := by
  have here : HoldsKey key holds guards index (key guard) := ⟨guard, found, holder, rfl⟩
  have fewer (other : Nat) (k : K)
      : HoldsKey key holds (guards.free index) other k
        ↔ other ≠ index ∧ HoldsKey key holds guards other k := holdsKey_free guards index other k
  refine ⟨fun k => ?_, fun one two k first second => ?_, fun other k => ?_,
    fun other k member => ?_, fun other k member => ?_, ?_, ?_⟩
  · simp only [fewer, Finset.mem_erase, accounted.exact k]
    constructor
    · rintro ⟨different, other, held⟩
      refine ⟨other, ?_, held⟩
      rintro rfl
      exact different (held.of_found found).2.symm
    · rintro ⟨other, different, held⟩
      refine ⟨?_, other, held⟩
      rintro rfl
      exact different (accounted.unique other index _ held here)
  · exact accounted.unique one two k ((fewer one k).mp first).2 ((fewer two k).mp second).2
  · simp only [Ledger.record, Option.toList_some, Option.toList_none, List.append_nil,
      List.mem_append, List.mem_singleton, Prod.mk.injEq, accounted.balance other k, fewer]
    constructor
    · rintro (gone | held)
      · exact .inl (.inl gone)
      · by_cases same : other = index
        · subst same
          exact .inl (.inr ⟨rfl, (held.of_found found).2.symm⟩)
        · exact .inr ⟨same, held⟩
    · rintro ((gone | ⟨rfl, rfl⟩) | ⟨_, held⟩)
      · exact .inl gone
      · exact .inr here
      · exact .inr held
  · simp only [Ledger.record, Option.toList_some, List.mem_append, List.mem_singleton,
      Prod.mk.injEq] at member
    rw [Table.get?_free]
    rcases member with member | ⟨rfl, _⟩
    · rw [accounted.gone other k member, ite_self]
    · rw [if_pos rfl]
  · simp only [Ledger.record, Option.toList_none, List.append_nil] at member
    rw [Table.size_free]
    exact accounted.old other k member
  · simpa only [Ledger.record, Option.toList_none, List.append_nil] using accounted.granted
  · simp only [Ledger.record, Option.toList_some]
    refine List.nodup_append.mpr ⟨accounted.released, by simp, ?_⟩
    rintro ⟨other, k⟩ member _ there same
    rw [List.mem_singleton.mp there, Prod.mk.injEq] at same
    have gone := accounted.gone other k member
    rw [same.1, found] at gone
    cases gone

end Accounted

end Guards

end Tlsurl.Library
