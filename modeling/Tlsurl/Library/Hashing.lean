import Mathlib.Tactic.ByContra
import Mathlib.Tactic.TypeStar

/-! Hashing by what a value writes to a hasher.
The law that equal values hash equally holds for every hasher exactly if equal values make the
same writes. A finer comparison tells when they do where the law fails.
-/

namespace Tlsurl.Library

-----------------------------------------------------------------------------------------
-- Hashers
-----------------------------------------------------------------------------------------

/-- A call that feeds a hasher -/
inductive Write where
  | u8 (value : UInt8)
  | u32 (value : BitVec 32)
  | u64 (value : UInt64)
  | u128 (value : BitVec 128)
  | usize (value : Nat)
  | isize (value : Int)
  | str (text : String)
  | bytes (bytes : List UInt8)
  deriving DecidableEq

/-- A hasher in its first state -/
structure Hasher where
  State : Type
  init : State
  write : State → Write → State
  finish : State → UInt64

namespace Hasher

/-- The hash of a value that makes these writes -/
def hashOne (hasher : Hasher) (writes : List Write) : UInt64 :=
  hasher.finish (writes.foldl hasher.write hasher.init)

/-- Tells some writes from all others. -/
def telling (writes : List Write) : Hasher where
  State := List Write
  init := []
  write := fun before write => before ++ [write]
  finish := fun all => if all = writes then 1 else 2

theorem hashOne_telling (writes other : List Write)
    : (telling writes).hashOne other = if other = writes then 1 else 2 := by
  have all : other.foldl (fun before write => before ++ [write]) [] = other := by
    simp [← List.flatMap_def]
  show (if other.foldl (fun before write => before ++ [write]) [] = writes then 1 else 2) = _
  rw [all]

/-- Every hasher gives two values the same hash exactly if they make the same writes. -/
theorem hashOne_eq_iff {left right : List Write}
    : (∀ hasher : Hasher, hasher.hashOne left = hasher.hashOne right) ↔ left = right := by
  constructor
  · intro same
    by_contra different
    have told := same (telling right)
    rw [hashOne_telling, hashOne_telling, if_neg different, if_pos rfl] at told
    exact absurd told (by decide)
  · rintro rfl _
    rfl

end Hasher

-----------------------------------------------------------------------------------------
-- Types that hash
-----------------------------------------------------------------------------------------

/-- A type with its equality and its hash -/
class Hash (α : Type*) where
  eq : α → α → Bool
  writes : α → List Write

/-- Equal values hash equally. -/
class LawfulHash (α : Type*) [Hash α] : Prop where
  writes_eq {left right : α} : Hash.eq left right = true → Hash.writes left = Hash.writes right

/-- Options are equal if both are absent or both are there and equal. -/
def optionEq {α : Type*} (eq : α → α → Bool) : Option α → Option α → Bool
  | none, none => true
  | some left, some right => eq left right
  | _, _ => false

/-- Where values are equal if they have the same image, so are options of them. -/
theorem optionEq_iff {α β : Type*} {eq : α → α → Bool} {image : α → β}
    (same : ∀ left right, eq left right = true ↔ image left = image right) (left right : Option α)
    : optionEq eq left right = true ↔ left.map image = right.map image := by
  cases left <;> cases right <;> simp [optionEq, same]

section Instances

variable {α : Type*} [Hash α]

instance : Hash String where
  eq := fun left right => left = right
  writes := fun text => [.str text]

instance : LawfulHash String where
  writes_eq same := by rw [of_decide_eq_true same]

instance : Hash (Option α) where
  eq := optionEq Hash.eq
  writes
    | none => [.isize 0]
    | some value => .isize 1 :: Hash.writes value

instance [LawfulHash α] : LawfulHash (Option α) where
  writes_eq {left right} same := by
    cases left with
    | none =>
        cases right with
        | none => rfl
        | some _ => cases same
    | some value =>
        cases right with
        | none => cases same
        | some other => exact congrArg (Write.isize 1 :: ·) (LawfulHash.writes_eq same)

instance : Hash (List α) where
  eq := fun left right => left.isEqv right Hash.eq
  writes := fun values => .usize values.length :: values.flatMap Hash.writes

/-- Equal lists make the same writes, by induction on both. -/
theorem writes_list_eq [LawfulHash α] {left right : List α}
    (same : left.isEqv right Hash.eq = true)
    : left.length = right.length
      ∧ left.flatMap Hash.writes = right.flatMap Hash.writes := by
  induction left generalizing right with
  | nil =>
      cases right with
      | nil => exact ⟨rfl, rfl⟩
      | cons _ _ => cases same
  | cons value rest ih =>
      cases right with
      | nil => cases same
      | cons other others =>
          obtain ⟨first, later⟩ := Bool.and_eq_true_iff.mp same
          obtain ⟨length, writes⟩ := ih later
          constructor
          · rw [List.length_cons, List.length_cons, length]
          · rw [List.flatMap_cons, List.flatMap_cons, writes, LawfulHash.writes_eq first]

instance [LawfulHash α] : LawfulHash (List α) where
  writes_eq {left right} same := by
    obtain ⟨length, writes⟩ := writes_list_eq same
    show Write.usize left.length :: left.flatMap Hash.writes = _
    rw [length, writes]
    rfl

end Instances

-----------------------------------------------------------------------------------------
-- Where the law may fail
-----------------------------------------------------------------------------------------

/-- Equal values make as many writes, and the same ones exactly if they agree in an aspect. -/
def HashesBy {α κ : Type*} [Hash α] (aspect : α → κ) : Prop :=
  ∀ {left right : α}, Hash.eq left right = true →
    (Hash.writes left).length = (Hash.writes right).length
    ∧ (Hash.writes left = Hash.writes right ↔ aspect left = aspect right)

/-- Equal values that agree in an aspect -/
def alikeBy {α κ : Type*} [Hash α] [DecidableEq κ] (aspect : α → κ) (left right : α) : Bool :=
  Hash.eq left right && aspect left = aspect right

/-- A finer comparison that tells which of the equal values make the same writes -/
def HashesAs {α : Type*} [Hash α] (finer : α → α → Bool) : Prop :=
  ∀ {left right : α}, Hash.eq left right = true →
    (Hash.writes left).length = (Hash.writes right).length
    ∧ (Hash.writes left = Hash.writes right ↔ finer left right = true)

theorem HashesBy.alike {α κ : Type*} [Hash α] [DecidableEq κ] {aspect : α → κ}
    (hashes : HashesBy aspect)
    : HashesAs (alikeBy aspect) := by
  intro left right same
  obtain ⟨length, writes⟩ := hashes same
  refine ⟨length, writes.trans ?_⟩
  rw [alikeBy, same, Bool.true_and, decide_eq_true_eq]

/-- Where the parts make as many writes, the same writes are made by both parts. -/
theorem append_writes_eq_iff {first second later last : List Write}
    (length : first.length = second.length)
    : first ++ later = second ++ last ↔ first = second ∧ later = last := by
  constructor
  · intro same
    exact List.append_inj same length
  · rintro ⟨rfl, rfl⟩
    rfl

/-- An option agrees in what its value has. -/
theorem HashesBy.option {α κ : Type*} [Hash α] {aspect : α → κ} (hashes : HashesBy aspect)
    : HashesBy (Option.map aspect) := by
  intro left right same
  cases left with
  | none =>
      cases right with
      | none => exact ⟨rfl, iff_of_true rfl rfl⟩
      | some _ => cases same
  | some value =>
      cases right with
      | none => cases same
      | some other =>
          obtain ⟨length, writes⟩ := @hashes value other same
          refine ⟨congrArg Nat.succ length, ?_⟩
          show Write.isize 1 :: Hash.writes value = .isize 1 :: Hash.writes other ↔ _
          rw [List.cons.injEq, Option.map_some, Option.map_some, Option.some.injEq]
          exact (and_iff_right rfl).trans writes

-----------------------------------------------------------------------------------------
-- Lookups
-----------------------------------------------------------------------------------------

/-- A hash table: entries with the hashes under which they were stored -/
abbrev HashTable (K V : Type*) := List (UInt64 × K × V)

variable {K V : Type*}

/-- A lookup sees only entries in the slot of its hash. -/
def HashTable.get? (table : HashTable K V) (slot : UInt64 → Nat) (eq : K → K → Bool)
    (hash : UInt64) (key : K)
    : Option V :=
  (table.find? (fun entry => slot hash = slot entry.1 && eq key entry.2.1)).map
    (fun entry => entry.2.2)

/-- However a table lays out its slots, an equal key finds an entry exactly if it has its hash. -/
theorem HashTable.get?_cons_iff {eq : K → K → Bool} {key stored : K} (same : eq key stored = true)
    (hash storedHash : UInt64) (value : V)
    : (∀ (slot : UInt64 → Nat) (table : HashTable K V),
        HashTable.get? ((storedHash, stored, value) :: table) slot eq hash key = some value)
      ↔ hash = storedHash := by
  constructor
  · intro finds
    have found := finds UInt64.toNat []
    by_contra different
    have apart : hash.toNat ≠ storedHash.toNat :=
      fun equal => different (UInt64.toNat_inj.mp equal)
    simp [get?, apart] at found
  · rintro rfl slot table
    simp [get?, same]

end Tlsurl.Library
