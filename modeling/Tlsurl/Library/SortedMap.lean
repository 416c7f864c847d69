import Mathlib.Data.List.Nodup
import Mathlib.Order.Lattice

/-! Association lists in the order of their keys, as an ordered map iterates over its entries.
Two of them are equal exactly if they map each key alike.
-/

namespace Tlsurl.Library.SortedMap

variable {K V : Type*} [LinearOrder K]

/-- Every entry has a smaller key than those after it. -/
def Sorted (entries : List (K × V)) : Prop :=
  entries.Pairwise (fun first second => first.1 < second.1)

/-- Puts an entry in its place. An entry with the same key goes. -/
def insert (key : K) (value : V) : List (K × V) → List (K × V)
  | [] => [(key, value)]
  | entry :: rest =>
      if key < entry.1 then (key, value) :: entry :: rest
      else if key = entry.1 then (key, value) :: rest
      else entry :: insert key value rest

/-- The value of a key -/
def get? (entries : List (K × V)) (key : K) : Option V := entries.lookup key

theorem sorted_nil : Sorted ([] : List (K × V)) := List.Pairwise.nil

/-- What is in the map afterwards was in it, or is new. -/
theorem mem_of_mem_insert {key : K} {value : V} {entries : List (K × V)} {entry : K × V}
    (member : entry ∈ insert key value entries)
    : entry = (key, value) ∨ entry ∈ entries := by
  induction entries with
  | nil => exact .inl (List.mem_singleton.mp member)
  | cons head rest ih =>
      simp only [insert] at member
      split at member
      · exact (List.mem_cons.mp member).imp id id
      · split at member
        · exact (List.mem_cons.mp member).imp id (List.mem_cons_of_mem head)
        · rcases List.mem_cons.mp member with same | inside
          · exact .inr (same ▸ List.mem_cons_self)
          · exact (ih inside).imp id (List.mem_cons_of_mem head)

/-- Insertion keeps the order, by induction on the entries. -/
theorem sorted_insert {entries : List (K × V)} (sorted : Sorted entries) (key : K) (value : V)
    : Sorted (insert key value entries) := by
  induction entries with
  | nil => exact List.pairwise_singleton _ _
  | cons head rest ih =>
      obtain ⟨first, ordered⟩ := List.pairwise_cons.mp sorted
      simp only [insert]
      split
      · next smaller =>
          refine List.pairwise_cons.mpr ⟨fun entry member => ?_, sorted⟩
          rcases List.mem_cons.mp member with rfl | inside
          · exact smaller
          · exact lt_trans smaller (first entry inside)
      · next larger =>
          split
          · next same =>
              refine List.pairwise_cons.mpr ⟨fun entry member => ?_, ordered⟩
              exact same ▸ first entry member
          · next different =>
              refine List.pairwise_cons.mpr ⟨fun entry member => ?_, ih ordered⟩
              rcases mem_of_mem_insert member with rfl | inside
              · exact lt_of_le_of_ne (not_lt.mp larger) (Ne.symm different)
              · exact first entry inside

/-- Insertion maps one key anew, by induction on the entries. -/
theorem get?_insert {entries : List (K × V)} (sorted : Sorted entries) (key other : K)
    (value : V)
    : get? (insert key value entries) other
      = if other = key then some value else get? entries other := by
  unfold get?
  induction entries with
  | nil =>
      by_cases same : other = key
      · simp [insert, same]
      · simp [insert, same]
  | cons head rest ih =>
      obtain ⟨first, ordered⟩ := List.pairwise_cons.mp sorted
      obtain ⟨place, old⟩ := head
      simp only [insert]
      split
      · by_cases same : other = key
        · simp [same]
        · rw [List.lookup_cons, beq_false_of_ne same, if_neg same]
      · split
        · next here =>
            subst here
            by_cases same : other = key
            · simp [same]
            · simp [List.lookup_cons, same, beq_false_of_ne same]
        · next elsewhere =>
            simp only [List.lookup_cons, ih ordered]
            by_cases same : other = key
            · subst same
              rw [beq_false_of_ne elsewhere]
            · rw [if_neg same, if_neg same]

/-- An ordered list has one entry for a key. -/
theorem mem_iff_get? {entries : List (K × V)} (sorted : Sorted entries) (key : K) (value : V)
    : (key, value) ∈ entries ↔ get? entries key = some value := by
  unfold get?
  induction entries with
  | nil => simp
  | cons head rest ih =>
      obtain ⟨first, ordered⟩ := List.pairwise_cons.mp sorted
      obtain ⟨place, old⟩ := head
      rw [List.mem_cons, List.lookup_cons, ih ordered]
      by_cases same : key = place
      · subst same
        have absent : rest.lookup key ≠ some value := by
          intro found
          exact lt_irrefl key (first _ ((ih ordered).mpr found))
        simp [absent, eq_comm]
      · simp [same, beq_false_of_ne same]

/-- Ordered lists that map each key alike are equal. -/
theorem ext_get? {left right : List (K × V)} (sortedLeft : Sorted left)
    (sortedRight : Sorted right) (alike : ∀ key, get? left key = get? right key)
    : left = right := by
  have distinct {entries : List (K × V)} (sorted : Sorted entries) : entries.Nodup := by
    refine List.Pairwise.imp (fun {first second} smaller => ?_) sorted
    rintro rfl
    exact lt_irrefl _ smaller
  have same : left.Perm right := by
    refine (List.perm_ext_iff_of_nodup (distinct sortedLeft) (distinct sortedRight)).mpr ?_
    rintro ⟨key, value⟩
    rw [mem_iff_get? sortedLeft, mem_iff_get? sortedRight, alike]
  exact same.eq_of_pairwise (fun _ _ _ _ smaller larger => absurd smaller (lt_asymm larger))
    sortedLeft sortedRight

end Tlsurl.Library.SortedMap
