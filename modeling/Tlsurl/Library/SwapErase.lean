import Mathlib.Data.List.Nodup
import Mathlib.Logic.Relation
import Tlsurl.Library.SwapRemove

/-! The order that removals by swapping leave.
Removing elements one by one leaves the others in a given order exactly if no chain of columns, of
where an element should be and of what is there at first, joins two of them.
-/

namespace Tlsurl.Library

open Relation

variable {α : Type*}

-----------------------------------------------------------------------------------------
-- Chains around an element
-----------------------------------------------------------------------------------------

section Splicing

variable {link : α → α → Prop} {removed next : α}

/-- A relation without an element: what led to it leads to what came next. -/
def Spliced (link : α → α → Prop) (removed next start finish : α) : Prop :=
  start ≠ removed ∧ (finish ≠ removed ∧ link start finish ∨ link start removed ∧ finish = next)

/-- A spliced step is one step or two. -/
theorem Spliced.reflTransGen (follows : link removed next) {start finish : α}
    (step : Spliced link removed next start finish)
    : ReflTransGen link start finish := by
  obtain ⟨_, ⟨_, direct⟩ | ⟨arrives, rfl⟩⟩ := step
  · exact .single direct
  · exact (ReflTransGen.single arrives).tail follows

/-- Splicing an element with one successor out keeps what the others reach, by induction on the
chain from its front. A chain from the removed element goes on from its successor.
-/
theorem reflTransGen_spliced (follows : ∀ other, link removed other ↔ other = next)
    {start finish : α} (apart : start ≠ removed) (ends : finish ≠ removed)
    : ReflTransGen (Spliced link removed next) start finish ↔ ReflTransGen link start finish := by
  constructor
  · have leads : link removed next := (follows next).mpr rfl
    exact reflTransGen_closed
      (fun _ _ (step : Spliced link removed next _ _) => step.reflTransGen leads) _ _
  · intro chain
    have either : (start ≠ removed → ReflTransGen (Spliced link removed next) start finish)
        ∧ (start = removed → ReflTransGen (Spliced link removed next) next finish) := by
      clear apart
      induction chain using ReflTransGen.head_induction_on with
      | refl => exact ⟨fun _ => .refl, fun same => absurd same ends⟩
      | @head start middle step _ ih =>
          constructor
          · intro apart
            by_cases through : middle = removed
            · subst through
              exact (ih.2 rfl).head ⟨apart, .inr ⟨step, rfl⟩⟩
            · exact (ih.1 through).head ⟨apart, .inl ⟨through, step⟩⟩
          · intro same
            subst same
            rw [(follows middle).mp step] at ih
            by_cases loops : next = start
            · exact ih.2 loops
            · exact ih.1 loops
    exact either.1 apart

end Splicing

-----------------------------------------------------------------------------------------
-- Removing an element
-----------------------------------------------------------------------------------------

section Erasing

variable [DecidableEq α]

/-- Removes an element, if it is there, by swapping. -/
def swapErase (items : List α) (item : α) : List α :=
  match items.findIdx? (fun other => other = item) with
  | none => items
  | some index => swapRemove items index

theorem swapErase_of_notMem {items : List α} {item : α} (absent : item ∉ items)
    : swapErase items item = items := by
  have none : items.findIdx? (fun other => other = item) = none := by
    rw [List.findIdx?_eq_none_iff]
    intro other member
    simpa using fun same : other = item => absent (same ▸ member)
  rw [swapErase, none]

/-- The last element takes the place of the one that is removed. -/
theorem swapErase_append_singleton {front : List α} {last item : α}
    (nodup : (front ++ [last]).Nodup) (present : item ∈ front ++ [last])
    : swapErase (front ++ [last]) item
      = front.map (fun other => if other = item then last else other) := by
  cases found : (front ++ [last]).findIdx? (fun other => other = item) with
  | none =>
      have others := List.findIdx?_eq_none_iff.mp found item present
      simp at others
  | some index =>
      obtain ⟨inside, key, _⟩ := List.findIdx?_eq_some_iff_getElem.mp found
      have ending : (front ++ [last]).getLast? = some last := List.getLast?_concat
      rw [swapErase, found]
      simp only [swapRemove, ending]
      apply List.ext_getElem
      · simp
      · intro position _ bound
        rw [List.length_map] at bound
        have whole : position < (front ++ [last]).length := by
          rw [List.length_append]
          omega
        have here : (front ++ [last])[position] = front[position] :=
          List.getElem_append_left bound
        have same : index = position ↔ front[position] = item := by
          rw [← here, ← of_decide_eq_true key, nodup.getElem_inj_iff, eq_comm]
        rw [List.getElem_dropLast, List.getElem_set, List.getElem_map, here]
        simp only [same]

/-- Swapping keeps the elements of ordinary removal. -/
theorem swapErase_perm (items : List α) (item : α)
    : (swapErase items item).Perm (items.erase item) := by
  have same : (fun other => decide (other = item)) = (item == ·) := by
    funext other
    simp [eq_comm, BEq.beq]
  rw [List.erase_eq_eraseP, List.eraseP_eq_eraseIdx, ← same, swapErase]
  cases found : items.findIdx? (fun other => other = item) with
  | none => exact .refl _
  | some index => exact swapRemove_perm (List.findIdx?_eq_some_iff_getElem.mp found).1

theorem mem_swapErase {items : List α} (nodup : items.Nodup) {item other : α}
    : other ∈ swapErase items item ↔ other ≠ item ∧ other ∈ items :=
  (swapErase_perm items item).mem_iff.trans nodup.mem_erase_iff

theorem nodup_swapErase {items : List α} (nodup : items.Nodup) (item : α)
    : (swapErase items item).Nodup :=
  (swapErase_perm items item).nodup_iff.mpr (nodup.erase item)

/-- Removing elements that are not there changes nothing, by induction on them. -/
theorem foldl_swapErase_filter {items : List α} (nodup : items.Nodup) {removals : List α}
    (distinct : removals.Nodup)
    : removals.foldl swapErase items
      = (removals.filter (· ∈ items)).foldl swapErase items := by
  induction removals generalizing items with
  | nil => rfl
  | cons removal removals ih =>
      obtain ⟨fresh, distinct⟩ := List.nodup_cons.mp distinct
      have later : removals.filter (· ∈ swapErase items removal)
          = removals.filter (· ∈ items) := by
        apply List.filter_congr
        intro other member
        have apart : other ≠ removal := fun same => fresh (same ▸ member)
        simp [mem_swapErase nodup, apart]
      rw [List.foldl_cons, ih (nodup_swapErase nodup removal) distinct, later]
      by_cases present : removal ∈ items
      · rw [List.filter_cons_of_pos (by simpa using present), List.foldl_cons]
      · rw [List.filter_cons_of_neg (by simpa using present), swapErase_of_notMem present]

-----------------------------------------------------------------------------------------
-- The order of the others
-----------------------------------------------------------------------------------------

/-- A column of two rows joins what is above to what is below. -/
def Column (above below : List α) (upper lower : α) : Prop := (upper, lower) ∈ above.zip below

omit [DecidableEq α] in
/-- The columns of rows that end in one column more -/
theorem column_append_singleton {above below : List α} (even : above.length = below.length)
    {item last upper lower : α}
    : Column (above ++ [item]) (below ++ [last]) upper lower
      ↔ Column above below upper lower ∨ upper = item ∧ lower = last := by
  simp [Column, List.zip_append even]

/-- The columns without the last of the rows, after its element was removed from the lower one -/
theorem column_swapErase {above front : List α} {last item : α} (fresh : item ∉ above)
    (distinct : (front ++ [last]).Nodup) (present : item ∈ front ++ [last])
    (even : above.length = front.length) {upper lower : α}
    : Column above (swapErase (front ++ [last]) item) upper lower
      ↔ Spliced (Column (above ++ [item]) (front ++ [last])) item last upper lower := by
  simp only [Spliced, column_append_singleton even]
  rw [swapErase_append_singleton distinct present, Column, List.zip_map_right, List.mem_map]
  constructor
  · rintro ⟨⟨above, below⟩, column, same⟩
    obtain ⟨rfl, rfl⟩ := Prod.mk.inj same
    have apart : above ≠ item := by
      rintro rfl
      exact fresh (List.of_mem_zip column).1
    by_cases gap : below = item
    · subst gap
      exact ⟨apart, .inr ⟨.inl column, if_pos rfl⟩⟩
    · simp only [gap, if_false]
      exact ⟨apart, .inl ⟨gap, .inl column⟩⟩
  · rintro ⟨apart, ⟨kept, column | ⟨same, _⟩⟩ | ⟨column | ⟨same, _⟩, rfl⟩⟩
    · exact ⟨(upper, lower), column, by simp [kept]⟩
    · exact absurd same apart
    · exact ⟨(upper, item), column, by simp⟩
    · exact absurd same apart

omit [DecidableEq α] in
/-- A list under itself joins nothing else. -/
theorem column_self {items : List α} {upper lower : α} (column : Column items items upper lower)
    : upper = lower := by
  obtain ⟨index, _, same⟩ := List.getElem_of_mem column
  rw [List.getElem_zip] at same
  cases same
  rfl

/-- Removing elements one by one by swapping leaves the others in a given order exactly if no chain
of columns joins two of them, where the upper row has the others and then the removed elements in
reverse. By induction on the removals, the first of which takes the last column away.
-/
theorem foldl_swapErase_eq_iff {items others removals : List α} (nodup : items.Nodup)
    (perm : (others ++ removals.reverse).Perm items)
    : removals.foldl swapErase items = others
      ↔ ∀ upper ∈ others, ∀ lower ∈ others,
        ReflTransGen (Column (others ++ removals.reverse) items) upper lower → upper = lower := by
  induction removals generalizing items with
  | nil =>
      rw [List.reverse_nil, List.append_nil] at perm ⊢
      constructor
      · intro same
        rw [List.foldl_nil] at same
        subst same
        have stays : ∀ upper lower, ReflTransGen (Column items items) upper lower
            → upper = lower := by
          intro upper lower chain
          induction chain with
          | refl => rfl
          | tail _ column ih => exact ih.trans (column_self column)
        exact fun upper _ lower _ => stays upper lower
      · intro apart
        apply List.ext_getElem perm.length_eq.symm
        intro index below above
        have column : Column others items others[index] items[index] := by
          have inside : index < (others.zip items).length := by
            rw [List.length_zip]
            omega
          have there := List.getElem_mem inside
          rwa [List.getElem_zip] at there
        exact (apart _ (List.getElem_mem above) _ (perm.mem_iff.mpr (List.getElem_mem below))
          (.single column)).symm
  | cons removal removals ih =>
      rw [List.reverse_cons, ← List.append_assoc] at perm ⊢
      have fresh : removal ∉ others ++ removals.reverse := by
        intro member
        exact (List.nodup_append.mp (perm.nodup_iff.mpr nodup)).2.2 _ member _ (by simp) rfl
      have present : removal ∈ items := perm.mem_iff.mp (by simp)
      rcases List.eq_nil_or_concat' items with rfl | ⟨front, last, rfl⟩
      · cases present
      · have even : (others ++ removals.reverse).length = front.length := by
          have whole := perm.length_eq
          simp only [List.length_append, List.length_singleton] at whole ⊢
          exact Nat.add_right_cancel whole
        have rest : (others ++ removals.reverse).Perm (swapErase (front ++ [last]) removal) := by
          have erased := perm.erase removal
          rw [List.erase_append_right _ fresh, List.erase_cons_head, List.append_nil] at erased
          exact erased.trans (swapErase_perm _ removal).symm
        have columns : Column (others ++ removals.reverse) (swapErase (front ++ [last]) removal)
            = Spliced (Column (others ++ removals.reverse ++ [removal]) (front ++ [last])) removal
              last := by
          funext upper lower
          exact propext (column_swapErase fresh nodup present even)
        have follows : ∀ other,
            Column (others ++ removals.reverse ++ [removal]) (front ++ [last]) removal other
              ↔ other = last := by
          intro other
          rw [column_append_singleton even]
          exact ⟨fun column => column.elim
            (fun inside => absurd (List.of_mem_zip inside).1 fresh) And.right,
            fun same => .inr ⟨rfl, same⟩⟩
        rw [List.foldl_cons, ih (nodup_swapErase nodup removal) rest, columns]
        apply forall₂_congr
        intro upper above
        apply forall₂_congr
        intro lower below
        have apart : ∀ other ∈ others, other ≠ removal := by
          rintro other member rfl
          exact fresh (List.mem_append_left _ member)
        rw [reflTransGen_spliced follows (apart upper above) (apart lower below)]

end Erasing

end Tlsurl.Library
