import Mathlib.Data.List.Basic

/-! Texts that are joined by a separator and split at it again, and the removal of a pair of
characters.
Removal works on what is between the separators, part by part, if a separator is not of the pair.
-/

namespace Tlsurl.Library

section Joined

variable {α : Type*} {separator : α}

theorem mem_intercalate_of_mem {parts : List (List α)} {part : List α} {item : α}
    (among : part ∈ parts) (inside : item ∈ part)
    : item ∈ [separator].intercalate parts := by
  induction parts with
  | nil => cases among
  | cons first parts ih =>
      cases parts with
      | nil =>
          rw [List.mem_singleton.mp among] at inside
          rwa [List.intercalate_singleton]
      | cons second parts =>
          rw [List.intercalate_cons_cons]
          rcases List.mem_cons.mp among with rfl | later
          · exact List.mem_append_left _ (List.mem_append_left _ inside)
          · exact List.mem_append_right _ (ih later)

/-- What is in a joined text is a separator or is in a part, by induction on the parts. -/
theorem mem_intercalate {parts : List (List α)} {item : α}
    (inside : item ∈ [separator].intercalate parts)
    : item = separator ∨ ∃ part ∈ parts, item ∈ part := by
  induction parts with
  | nil => cases inside
  | cons first parts ih =>
      cases parts with
      | nil =>
          rw [List.intercalate_singleton] at inside
          exact Or.inr ⟨first, List.mem_cons_self, inside⟩
      | cons second parts =>
          rw [List.intercalate_cons_cons, List.append_assoc, List.mem_append, List.mem_append,
            List.mem_singleton] at inside
          rcases inside with here | between | later
          · exact Or.inr ⟨first, List.mem_cons_self, here⟩
          · exact Or.inl between
          · rcases ih later with same | ⟨part, among, found⟩
            · exact Or.inl same
            · exact Or.inr ⟨part, List.mem_cons_of_mem first among, found⟩

/-- What is in a part of a text is in the text. -/
theorem mem_of_mem_splitOn [BEq α] [LawfulBEq α] {items part : List α} {item : α}
    (among : part ∈ items.splitOn separator) (inside : item ∈ part)
    : item ∈ items := by
  have joined : [separator].intercalate (items.splitOn separator) = items :=
    List.intercalate_splitOn separator
  rw [← joined]
  exact mem_intercalate_of_mem among inside

end Joined

/-- What is before, between and behind the separators of a text. -/
def pieces (separator : Char) (text : String) : List String :=
  (text.toList.splitOn separator).map String.ofList

/-- Parts without the separator are what their text is split into. -/
theorem pieces_intercalate {separator : Char} {parts : List String} (some : parts ≠ [])
    (plain : ∀ part ∈ parts, separator ∉ part.toList)
    : pieces separator ((String.singleton separator).intercalate parts) = parts := by
  have apart : ∀ chars ∈ parts.map String.toList, separator ∉ chars := by
    intro chars member
    obtain ⟨part, inside, rfl⟩ := List.mem_map.mp member
    exact plain part inside
  rw [pieces, String.toList_intercalate, String.toList_singleton,
    List.splitOn_intercalate separator apart (List.map_eq_nil_iff.not.mpr some), List.map_map]
  exact (List.map_congr_left (fun part _ => String.ofList_toList)).trans (List.map_id parts)

section Removal

variable {α : Type*} [DecidableEq α] (first second : α)

/-- Removes two elements wherever they follow each other, from left to right. -/
def removePair : List α → List α
  | [] => []
  | [item] => [item]
  | item :: next :: rest =>
      if item = first ∧ next = second then removePair rest else item :: removePair (next :: rest)

variable {first second}

/-- Without the first of the two nothing is removed. -/
theorem removePair_of_notMem {items : List α} (absent : first ∉ items)
    : removePair first second items = items := by
  induction items with
  | nil => rfl
  | cons item items ih =>
      obtain ⟨other, rest⟩ := not_or.mp (List.mem_cons.not.mp absent)
      cases items with
      | nil => rfl
      | cons next items => rw [removePair, if_neg (fun both => other both.1.symm), ih rest]

/-- Removal stops at a separator that is none of the two, by induction on what is before it. -/
theorem removePair_append_cons {separator : α} (notFirst : separator ≠ first)
    (notSecond : separator ≠ second) (left right : List α)
    : removePair first second (left ++ separator :: right)
      = removePair first second left ++ separator :: removePair first second right := by
  have start (rest : List α)
      : removePair first second (separator :: rest)
        = separator :: removePair first second rest := by
    cases rest with
    | nil => rfl
    | cons next rest => rw [removePair, if_neg (fun both => notFirst both.1)]
  induction left using removePair.induct first second with
  | case1 => exact start right
  | case2 item =>
      have kept : ¬ (item = first ∧ separator = second) := fun both => notSecond both.2
      have alone : removePair first second [item] = [item] := rfl
      rw [alone, List.singleton_append, removePair, if_neg kept, start, List.singleton_append]
  | case3 item next rest pair ih =>
      rw [List.cons_append, List.cons_append, removePair, if_pos pair, ih, removePair,
        if_pos pair]
  | case4 item next rest other ih =>
      rw [List.cons_append, List.cons_append, removePair, if_neg other, ← List.cons_append, ih,
        removePair, if_neg other, List.cons_append]

/-- The pair is removed from each part, by induction on the parts. -/
theorem removePair_intercalate {separator : α} (notFirst : separator ≠ first)
    (notSecond : separator ≠ second) (parts : List (List α))
    : removePair first second ([separator].intercalate parts)
      = [separator].intercalate (parts.map (removePair first second)) := by
  induction parts with
  | nil => rfl
  | cons part parts ih =>
      cases parts with
      | nil => simp
      | cons next parts =>
          rw [List.map_cons, List.intercalate_cons_cons, List.append_assoc, List.singleton_append,
            removePair_append_cons notFirst notSecond, ih, List.map_cons,
            List.intercalate_cons_cons, List.append_assoc, List.singleton_append]

end Removal

end Tlsurl.Library
