import Mathlib.Data.List.Sort

/-! Sorting lists that are permutations of each other up to a map, and places in a sorted list. -/

namespace Tlsurl.Library

variable {α β : Type*} {r : α → α → Prop} [DecidableRel r] {s : β → β → Prop} [DecidableRel s]
  [Std.Total s] [IsTrans β s]

/-- A map that keeps the order sorts a permutation of its images as their sources are sorted. -/
theorem insertionSort_eq_map {f : α → β} {values : List α} {images : List β}
    (perm : images.Perm (values.map f))
    (keeps : ∀ a ∈ values, ∀ b ∈ values, r a b ↔ s (f a) (f b))
    (antisymm : ∀ a ∈ values, ∀ b ∈ values, s (f a) (f b) → s (f b) (f a) → f a = f b)
    : images.insertionSort s = (values.insertionSort r).map f := by
  rw [List.map_insertionSort r s f values keeps]
  have sorted : (images.insertionSort s).Perm ((values.map f).insertionSort s) :=
    (List.perm_insertionSort s images).trans
      (perm.trans (List.perm_insertionSort s (values.map f)).symm)
  refine List.Perm.eq_of_pairwise ?_ (List.pairwise_insertionSort s images)
    (List.pairwise_insertionSort s (values.map f)) sorted
  intro a b inside outside first second
  rw [List.mem_insertionSort] at inside outside
  obtain ⟨left, member, rfl⟩ := List.mem_map.mp (perm.mem_iff.mp inside)
  obtain ⟨right, other, rfl⟩ := List.mem_map.mp outside
  exact antisymm left member right other first second

/-- In a list sorted by keys of its own, keys are in the order of their places. -/
theorem key_le_iff_idxOf_le [BEq α] [LawfulBEq α] (key : α → Nat) {values : List α}
    (sorted : values.Pairwise (fun left right => key left ≤ key right))
    (injective : ∀ a ∈ values, ∀ b ∈ values, key a = key b → a = b) {a b : α}
    (first : a ∈ values) (second : b ∈ values)
    : key a ≤ key b ↔ values.idxOf a ≤ values.idxOf b := by
  have earlier {a b : α} (first : a ∈ values) (second : b ∈ values)
      (before : values.idxOf a < values.idxOf b)
      : key a ≤ key b := by
    have ordered := List.pairwise_iff_getElem.mp sorted _ _
      (List.idxOf_lt_length_of_mem first) (List.idxOf_lt_length_of_mem second) before
    rwa [List.getElem_idxOf, List.getElem_idxOf] at ordered
  constructor
  · intro ordered
    by_contra after
    have reversed := earlier second first (Nat.lt_of_not_le after)
    obtain rfl := injective a first b second (Nat.le_antisymm ordered reversed)
    exact after (Nat.le_refl _)
  · intro before
    rcases Nat.lt_or_eq_of_le before with strictly | same
    · exact earlier first second strictly
    · rw [(List.idxOf_inj first).mp same]

end Tlsurl.Library
