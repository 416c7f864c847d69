import Mathlib.Data.Nat.Notation

/-! Shuffling an array by swaps with indices that are drawn one after the other.
The loop goes down from the last index to the second; a source of indices that stays within what
is left of the array makes it a permutation, whatever it draws.
-/

namespace Tlsurl.Library

variable {S α : Type*}

/-- A swap, which fails if an index is not one of the array. -/
def swapAt (values : Array α) (left right : Nat) : Option (Array α) :=
  if inside : left < values.size ∧ right < values.size then
    some (values.swap left right inside.1 inside.2)
  else none

/-- Swaps the element at each index, from the given one down to the second, with one at an index
that is drawn for it. A source of indices may fail; else it changes its state.
-/
def shuffleFrom (draw : S → Nat → Option (Nat × S)) : Nat → S → Array α → Option (S × Array α)
  | 0, state, values => some (state, values)
  | index + 1, state, values =>
      match draw state (index + 1) with
      | none => none
      | some (drawn, next) =>
          (swapAt values (index + 1) drawn).bind (shuffleFrom draw index next)

/-- Up to the last index the source does not fail and draws indices that are not behind. -/
def DrawsWithin (draw : S → Nat → Option (Nat × S)) (last : Nat) : Prop :=
  ∀ state index, index ≤ last → ∃ drawn next, draw state index = some (drawn, next) ∧ drawn ≤ index

theorem DrawsWithin.mono {draw : S → Nat → Option (Nat × S)} {last lower : Nat}
    (within : DrawsWithin draw last) (le : lower ≤ last)
    : DrawsWithin draw lower :=
  fun state index below => within state index (Nat.le_trans below le)

/-- A swap within the array succeeds and permutes it. -/
theorem swapAt_perm {values : Array α} {left right : Nat} (leftInside : left < values.size)
    (rightInside : right < values.size)
    : ∃ swapped, swapAt values left right = some swapped ∧ swapped.Perm values :=
  ⟨_, dif_pos ⟨leftInside, rightInside⟩, Array.swap_perm leftInside rightInside⟩

/-- All swaps are within the array, and together they permute it, by induction on the index. The
invariant is that what has been swapped is a permutation of the array, hence of its size.
-/
theorem shuffleFrom_perm {draw : S → Nat → Option (Nat × S)} {last : Nat}
    (within : DrawsWithin draw last) (state : S) {values : Array α} (inside : last < values.size)
    : ∃ next shuffled, shuffleFrom draw last state values = some (next, shuffled)
        ∧ shuffled.Perm values := by
  induction last generalizing state values with
  | zero => exact ⟨state, values, rfl, .refl values⟩
  | succ last ih =>
      obtain ⟨drawn, later, draws, below⟩ := within state (last + 1) (Nat.le_refl _)
      obtain ⟨swapped, swaps, perm⟩ := swapAt_perm inside (Nat.lt_of_le_of_lt below inside)
      have fits : last < swapped.size := perm.size_eq ▸ Nat.lt_of_succ_lt inside
      obtain ⟨next, shuffled, rest, permuted⟩ := ih (within.mono (Nat.le_succ last)) later fits
      refine ⟨next, shuffled, ?_, permuted.trans perm⟩
      rw [shuffleFrom, draws, ← rest]
      exact congrArg (Option.bind · _) swaps

end Tlsurl.Library
