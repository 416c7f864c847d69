import Mathlib.Data.List.Infix

/-! Prefixes and suffixes that end at a separator.
Two of one list are comparable, and the shorter one is again one of the longer.
-/

namespace Tlsurl.Library

variable {α : Type*} {separator : α}

/-- `short` is a prefix of `whole` that is all of it, ends with the separator, or is followed
by it.
-/
def PrefixAt (separator : α) (short whole : List α) : Prop :=
  ∃ rest, whole = short ++ rest
    ∧ (rest = [] ∨ short.getLast? = some separator ∨ rest.head? = some separator)

/-- `short` is `whole`, or a suffix of it that the separator precedes. -/
def SuffixAt (separator : α) (short whole : List α) : Prop :=
  whole = short ∨ ∃ front, whole = front ++ separator :: short

theorem PrefixAt.refl (whole : List α) : PrefixAt separator whole whole :=
  ⟨[], by simp, Or.inl rfl⟩

/-- Of two prefixes of one list at a boundary, the shorter is a prefix of the longer at a
boundary: what follows it in the list follows it in the longer one.
-/
theorem PrefixAt.of_length_le {short long whole : List α} (left : PrefixAt separator short whole)
    (right : PrefixAt separator long whole) (shorter : short.length ≤ long.length)
    : PrefixAt separator short long := by
  obtain ⟨leftRest, split, boundary⟩ := left
  obtain ⟨rightRest, again, _⟩ := right
  have nested : short <+: long :=
    List.prefix_of_prefix_length_le ⟨leftRest, split.symm⟩ ⟨rightRest, again.symm⟩ shorter
  obtain ⟨middle, rfl⟩ := nested
  refine ⟨middle, rfl, ?_⟩
  have rest : leftRest = middle ++ rightRest := by
    have same : short ++ leftRest = short ++ (middle ++ rightRest) := by
      rw [← split, again, List.append_assoc]
    exact List.append_cancel_left same
  cases middle with
  | nil => exact Or.inl rfl
  | cons next middle =>
      subst rest
      rcases boundary with empty | ends | follows
      · cases empty
      · exact Or.inr (Or.inl ends)
      · exact Or.inr (Or.inr follows)

/-- Two suffixes of one list at a boundary are comparable, by comparing what precedes them. -/
theorem SuffixAt.total {left right whole : List α} (first : SuffixAt separator left whole)
    (second : SuffixAt separator right whole)
    : SuffixAt separator left right ∨ SuffixAt separator right left := by
  have aligned {left right back : List α}
      (same : separator :: left = back ++ separator :: right)
      : SuffixAt separator right left := by
    cases back with
    | nil => exact Or.inl (by simpa using same)
    | cons head back => exact Or.inr ⟨back, by simpa using (List.cons.inj same).2⟩
  rcases first with rfl | ⟨front, split⟩
  · exact Or.inr second
  · rcases second with rfl | ⟨back, again⟩
    · exact Or.inl (Or.inr ⟨front, split⟩)
    · rcases List.append_eq_append_iff.mp (split.symm.trans again) with
        ⟨between, _, same⟩ | ⟨between, _, same⟩
      · exact Or.inr (aligned same)
      · exact Or.inl (aligned same)

end Tlsurl.Library
