import Mathlib.Data.List.Perm.Basic

/-! Removal from a vector by moving its last element into the gap.
The elements that stay are those of an ordinary removal, in another order.
-/

namespace Tlsurl.Library

variable {α : Type*}

/-- Removes index `index` in constant time: the last element takes the removed one's place. -/
def swapRemove (items : List α) (index : Nat) : List α :=
  match items.getLast? with
  | none => items
  | some last => (items.set index last).dropLast

/-- Swap removal keeps the elements of ordinary removal. Witness: both lists become the
overwritten list once the last element is put back.
-/
theorem swapRemove_perm {items : List α} {index : Nat} (inside : index < items.length)
    : (swapRemove items index).Perm (items.eraseIdx index) := by
  unfold swapRemove
  cases ending : items.getLast? with
  | none => simp_all
  | some last =>
      have lastSet : (items.set index last).getLast? = some last := by
        rw [List.getLast?_eq_getElem?] at ending ⊢
        rw [List.length_set, List.getElem?_set]
        split
        · simp
        · exact ending
      have rebuilt : (items.set index last).dropLast ++ [last] = items.set index last :=
        List.dropLast_append_getLast? last lastSet
      have both : (last :: (items.set index last).dropLast).Perm
          (last :: items.eraseIdx index) := by
        refine (List.perm_append_singleton last _).symm.trans ?_
        rw [rebuilt]
        exact List.set_perm_cons_eraseIdx inside last
      exact both.cons_inv

end Tlsurl.Library
