import Mathlib.Data.List.Perm.Basic

/-! The alternating merge of two lists. -/

namespace Tlsurl.Library

variable {α : Type*}

/-- The elements of both lists in turn, and then what is left of the longer one -/
def alternate (first second : List α) : List α :=
  match first with
  | [] => second
  | head :: first => head :: alternate second first
termination_by first.length + second.length

@[simp] theorem alternate_nil (second : List α) : alternate [] second = second := by
  simp [alternate]

@[simp] theorem alternate_cons (head : α) (first second : List α)
    : alternate (head :: first) second = head :: alternate second first := by
  simp [alternate]

theorem alternate_nil_right (first : List α) : alternate first [] = first := by
  cases first <;> simp

/-- The merge has the elements of both lists, by induction on the merge. -/
theorem alternate_perm (first second : List α)
    : (alternate first second).Perm (first ++ second) := by
  induction first, second using alternate.induct with
  | case1 second => simp
  | case2 second head first ih =>
      rw [alternate_cons, List.cons_append]
      exact (ih.trans List.perm_append_comm).cons head

end Tlsurl.Library
