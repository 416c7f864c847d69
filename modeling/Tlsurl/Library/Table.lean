import Mathlib.Algebra.BigOperators.Group.List.Basic
import Mathlib.Algebra.GroupWithZero.Nat

/-! A table of numbered slots. Numbers are never reused, so a number names one object for
the whole of a run, and freeing a slot is how that object dies.
-/

namespace Tlsurl.Library

/-- Slot `i` holds the object numbered `i`, or `none` once it is freed. -/
structure Table (α : Type*) where
  slots : List (Option α)

namespace Table

variable {α : Type*}

def empty : Table α := ⟨[]⟩

/-- The number the next object will get. -/
def size (table : Table α) : Nat := table.slots.length

def get? (table : Table α) (index : Nat) : Option α := (table.slots[index]?).join

def alloc (table : Table α) (value : α) : Table α := ⟨table.slots ++ [some value]⟩

def set (table : Table α) (index : Nat) (value : α) : Table α :=
  ⟨table.slots.set index (some value)⟩

def free (table : Table α) (index : Nat) : Table α := ⟨table.slots.set index none⟩

/-- The sum of `f` over the live objects. -/
def weight (f : α → Nat) (table : Table α) : Nat :=
  (table.slots.map (fun slot => slot.elim 0 f)).sum

/-- A live number lies below the size of the table. -/
theorem lt_size {table : Table α} {index : Nat} {value : α}
    (found : table.get? index = some value)
    : index < table.size := by
  by_contra large
  have outside : table.slots[index]? = none := by
    simpa [size] using large
  simp [get?, outside] at found

@[simp] theorem size_set (table : Table α) (index : Nat) (value : α)
    : (table.set index value).size = table.size := by
  simp [set, size]

@[simp] theorem size_free (table : Table α) (index : Nat)
    : (table.free index).size = table.size := by
  simp [free, size]

@[simp] theorem size_alloc (table : Table α) (value : α)
    : (table.alloc value).size = table.size + 1 := by
  simp [alloc, size]

theorem get?_alloc (table : Table α) (value : α) (index : Nat)
    : (table.alloc value).get? index
      = if index = table.size then some value else table.get? index := by
  by_cases fresh : index = table.size
  · subst fresh
    simp [get?, alloc, size]
  · rw [if_neg fresh]
    simp only [get?, alloc, List.getElem?_append]
    split
    · rfl
    · next outside =>
        have beyond : table.slots.length < index := by
          simp only [size] at fresh
          omega
        rw [List.getElem?_eq_none (by simp; omega), List.getElem?_eq_none (by omega)]

private theorem join_getElem?_set (slots : List (Option α)) (index other : Nat)
    (slot : Option α)
    : ((slots.set index slot)[other]?).join
      = if other = index ∧ index < slots.length then slot else (slots[other]?).join := by
  rw [List.getElem?_set]
  by_cases same : index = other
  · subst same
    by_cases inside : index < slots.length
    · simp [inside]
    · simp [inside]
  · simp [same, Ne.symm same]

theorem get?_set (table : Table α) (index other : Nat) (value : α)
    : (table.set index value).get? other
      = if other = index ∧ index < table.size then some value else table.get? other :=
  join_getElem?_set table.slots index other (some value)

/-- An object that is there takes its new value. -/
theorem get?_set_self {table : Table α} {index : Nat} {old : α}
    (found : table.get? index = some old) (value : α)
    : (table.set index value).get? index = some value := by
  rw [get?_set, if_pos ⟨rfl, lt_size found⟩]

/-- The others keep theirs. -/
theorem get?_set_ne {table : Table α} {index other : Nat} (different : other ≠ index) (value : α)
    : (table.set index value).get? other = table.get? other := by
  rw [get?_set, if_neg (fun both => different both.1)]

/-- What an update leaves is the new value in its place, or was there before. -/
theorem get?_set_cases {table : Table α} {index other : Nat} {old value present : α}
    (found : table.get? index = some old)
    (left : (table.set index value).get? other = some present)
    : other = index ∧ present = value ∨ other ≠ index ∧ table.get? other = some present := by
  rw [get?_set] at left
  split at left
  · next here =>
      cases left
      exact .inl ⟨here.1, rfl⟩
  · next elsewhere => exact .inr ⟨fun same => elsewhere ⟨same, lt_size found⟩, left⟩

theorem get?_free (table : Table α) (index other : Nat)
    : (table.free index).get? other = if other = index then none else table.get? other := by
  rw [free, get?, join_getElem?_set]
  by_cases same : other = index
  · subst same
    by_cases inside : other < table.slots.length
    · simp [inside]
    · simp [inside]
  · simp [same, get?]

@[simp] theorem weight_alloc (f : α → Nat) (table : Table α) (value : α)
    : (table.alloc value).weight f = table.weight f + f value := by
  simp [weight, alloc]

/-- Overwriting one entry of a list of numbers trades its summand. -/
private theorem sum_map_set (f : Option α → Nat) (slots : List (Option α)) (index : Nat)
    (slot : Option α) {old : Option α} (found : slots[index]? = some old)
    : ((slots.set index slot).map f).sum + f old = (slots.map f).sum + f slot := by
  induction slots generalizing index with
  | nil => simp at found
  | cons head tail ih =>
      cases index with
      | zero =>
          simp only [List.getElem?_cons_zero, Option.some.injEq] at found
          subst found
          simp only [List.set_cons_zero, List.map_cons, List.sum_cons]
          omega
      | succ index =>
          have rest := ih index (by simpa using found)
          simp only [List.set_cons_succ, List.map_cons, List.sum_cons]
          omega

/-- A live slot reads back as a stored value. -/
private theorem slot_of_get? {table : Table α} {index : Nat} {value : α}
    (found : table.get? index = some value)
    : table.slots[index]? = some (some value) :=
  Option.join_eq_some_iff.mp found

/-- Overwriting a live object trades its weight. -/
theorem weight_set (f : α → Nat) {table : Table α} {index : Nat} {old : α}
    (found : table.get? index = some old) (value : α)
    : (table.set index value).weight f + f old = table.weight f + f value :=
  sum_map_set (fun slot => slot.elim 0 f) table.slots index (some value) (slot_of_get? found)

/-- Freeing a live object takes its weight away. -/
theorem weight_free (f : α → Nat) {table : Table α} {index : Nat} {old : α}
    (found : table.get? index = some old)
    : (table.free index).weight f + f old = table.weight f :=
  sum_map_set (fun slot => slot.elim 0 f) table.slots index none (slot_of_get? found)

/-- One live object weighs at most as much as all of them. -/
theorem le_weight (f : α → Nat) {table : Table α} {index : Nat} {value : α}
    (found : table.get? index = some value)
    : f value ≤ table.weight f := by
  have freed := weight_free f found
  omega

end Table

end Tlsurl.Library
