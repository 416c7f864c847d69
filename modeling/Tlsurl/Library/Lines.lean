import Mathlib.Data.List.Infix
import Mathlib.Tactic.TypeStar

/-! Text in lines that end in a break of two different symbols.
A text with a break at a known place is split there whatever its parts are, since no break can
overlap another one. A block of lines ends at the first empty line.
-/

namespace Tlsurl.Library

variable {α : Type*}

/-- What is around the first occurrence of a separator -/
def cut [DecidableEq α] (separator : List α) : List α → Option (List α × List α)
  | [] => if separator = [] then some ([], []) else none
  | symbol :: rest =>
      if separator <+: symbol :: rest then
        some ([], (symbol :: rest).drop separator.length)
      else (cut separator rest).map (fun parts => (symbol :: parts.1, parts.2))

/-- A symbol before the first line -/
def pushHead (symbol : α) : List (List α) → List (List α)
  | [] => [[symbol]]
  | line :: lines => (symbol :: line) :: lines

/-- Split at each break of the two symbols -/
def lines [DecidableEq α] (cr lf : α) : List α → List (List α)
  | [] => [[]]
  | [symbol] => [[symbol]]
  | symbol :: next :: rest =>
      if symbol = cr ∧ next = lf then [] :: lines cr lf rest
      else pushHead symbol (lines cr lf (next :: rest))

/-- Lines with a break between each two of them -/
def joinLines (cr lf : α) (lines : List (List α)) : List α := [cr, lf].intercalate lines

/-- A text without a break -/
def OneLine (cr lf : α) (text : List α) : Prop := ¬ [cr, lf] <:+: text

section

variable {cr lf : α} {line text : List α}

theorem OneLine.of_not_mem (absent : cr ∉ text ∨ lf ∉ text) : OneLine cr lf text := by
  intro within
  rcases absent with noCr | noLf
  · exact noCr (within.subset (by simp))
  · exact noLf (within.subset (by simp))

theorem oneLine_cons {symbol : α}
    : OneLine cr lf (symbol :: text) ↔ ¬ [cr, lf] <+: symbol :: text ∧ OneLine cr lf text := by
  rw [OneLine, List.infix_cons_iff, not_or]
  rfl

/-- Texts of one line make one together unless a break is put together. -/
theorem OneLine.append (front : OneLine cr lf line) (back : OneLine cr lf text)
    (apart : text.head? ≠ some lf)
    : OneLine cr lf (line ++ text) := by
  induction line with
  | nil => exact back
  | cons symbol rest ih =>
      obtain ⟨start, later⟩ := oneLine_cons.mp front
      refine oneLine_cons.mpr ⟨fun begins => ?_, ih later⟩
      cases rest with
      | nil =>
          cases text with
          | nil => simp at begins
          | cons first _ =>
              obtain ⟨-, tail⟩ := List.cons_prefix_cons.mp begins
              obtain ⟨rfl, -⟩ := List.cons_prefix_cons.mp tail
              exact apart rfl
      | cons next rest => exact start (by simpa [List.cons_prefix_cons] using begins)

theorem joinLines_cons {lines : List (List α)} (more : lines ≠ []) (line : List α)
    : joinLines cr lf (line :: lines) = line ++ cr :: lf :: joinLines cr lf lines := by
  rw [joinLines, List.intercalate_cons_of_ne_nil more]
  simp [joinLines]

/-- Blocks of lines are joined by a break, by induction on the first one. -/
theorem joinLines_append {front back : List (List α)} (nonempty : front ≠ []) (more : back ≠ [])
    : joinLines cr lf (front ++ back)
      = joinLines cr lf front ++ cr :: lf :: joinLines cr lf back := by
  induction front with
  | nil => exact absurd rfl nonempty
  | cons line rest ih =>
      cases rest with
      | nil =>
          rw [List.singleton_append, joinLines_cons more]
          simp [joinLines]
      | cons next rest =>
          rw [List.cons_append, joinLines_cons (List.append_ne_nil_of_right_ne_nil _ more),
            ih (List.cons_ne_nil _ _), joinLines_cons (List.cons_ne_nil _ _)]
          simp

/-- A line stands somewhere in the text that it is joined to. -/
theorem infix_joinLines {block : List (List α)} (member : line ∈ block)
    : line <:+: joinLines cr lf block := by
  induction block with
  | nil => cases member
  | cons first rest ih =>
      cases rest with
      | nil =>
          rw [List.mem_singleton.mp member, joinLines, List.intercalate_singleton]
      | cons next more =>
          rw [joinLines_cons (List.cons_ne_nil _ _)]
          rcases List.mem_cons.mp member with rfl | later
          · exact (List.prefix_append _ _).isInfix
          · exact (List.infix_cons (List.infix_cons (ih later))).trans
              (List.suffix_append _ _).isInfix

/-- The first line and what each further one adds -/
theorem joinLines_eq_flatMap (line : List α) (lines : List (List α))
    : joinLines cr lf (line :: lines) = line ++ lines.flatMap (fun next => cr :: lf :: next) := by
  induction lines generalizing line with
  | nil => simp [joinLines]
  | cons next rest ih => rw [joinLines_cons (by simp), ih, List.flatMap_cons]; rfl

end

section

variable [DecidableEq α] {cr lf : α} {text line : List α}

theorem lines_ne_nil (cr lf : α) (text : List α) : lines cr lf text ≠ [] := by
  fun_cases lines cr lf text with
  | case1 => simp
  | case2 symbol => simp
  | case3 symbol next rest _ => simp
  | case4 symbol next rest _ => cases lines cr lf (next :: rest) <;> simp [pushHead]

/-- A text that has a break somewhere is split there, by induction on what is before it. -/
theorem lines_append_break (different : cr ≠ lf) (text rest : List α)
    : lines cr lf (text ++ cr :: lf :: rest) = lines cr lf text ++ lines cr lf rest := by
  fun_induction lines cr lf text with
  | case1 => simp [lines]
  | case2 symbol =>
      have apart : ¬ (symbol = cr ∧ cr = lf) := fun both => different both.2
      rw [List.singleton_append, lines, if_neg apart, lines, if_pos ⟨rfl, rfl⟩]
      rfl
  | case3 symbol next more isBreak ih =>
      rw [List.cons_append, List.cons_append, lines, if_pos isBreak, ih]
      rfl
  | case4 symbol next more noBreak ih =>
      rw [List.cons_append, List.cons_append, lines, if_neg noBreak, ← List.cons_append, ih]
      cases split : lines cr lf (next :: more) with
      | nil => exact absurd split (lines_ne_nil cr lf _)
      | cons line later => rfl

/-- A text without a break is one line. -/
theorem lines_of_oneLine (single : OneLine cr lf text) : lines cr lf text = [text] := by
  fun_induction lines cr lf text with
  | case1 => rfl
  | case2 symbol => rfl
  | case3 symbol next rest isBreak =>
      obtain ⟨rfl, rfl⟩ := isBreak
      exact absurd ⟨[], rest, rfl⟩ single
  | case4 symbol next rest _ ih =>
      rw [ih (oneLine_cons.mp single).2]
      rfl

/-- What was split is joined again. -/
theorem joinLines_lines (cr lf : α) (text : List α)
    : joinLines cr lf (lines cr lf text) = text := by
  fun_induction lines cr lf text with
  | case1 => rfl
  | case2 symbol => simp [joinLines]
  | case3 symbol next rest isBreak ih =>
      rw [joinLines_cons (lines_ne_nil cr lf rest), ih, isBreak.1, isBreak.2]
      rfl
  | case4 symbol next rest noBreak ih =>
      cases split : lines cr lf (next :: rest) with
      | nil => exact absurd split (lines_ne_nil cr lf _)
      | cons line later =>
          rw [split] at ih
          rw [pushHead, joinLines_eq_flatMap, List.cons_append, ← joinLines_eq_flatMap, ih]

/-- What was joined is split again. -/
theorem lines_joinLines (different : cr ≠ lf) {block : List (List α)} (nonempty : block ≠ [])
    (single : ∀ line ∈ block, OneLine cr lf line)
    : lines cr lf (joinLines cr lf block) = block := by
  induction block with
  | nil => exact absurd rfl nonempty
  | cons line rest ih =>
      have first := lines_of_oneLine (single line List.mem_cons_self)
      cases rest with
      | nil => rwa [joinLines, List.intercalate_singleton]
      | cons next more =>
          rw [joinLines_cons (by simp), lines_append_break different, first,
            ih (by simp) (fun line member => single line (List.mem_cons_of_mem _ member))]
          rfl

/-- A line stands somewhere in the text. -/
theorem infix_of_mem_lines (member : line ∈ lines cr lf text) : line <:+: text := by
  have within := @infix_joinLines _ cr lf _ _ member
  rwa [joinLines_lines] at within

-----------------------------------------------------------------------------------------
-- The end of a block
-----------------------------------------------------------------------------------------

omit [DecidableEq α] in
/-- No break is where a line begins that is not empty. -/
theorem OneLine.not_break (single : OneLine cr lf line) (different : cr ≠ lf) (filled : line ≠ [])
    (rest : List α)
    : ¬ [cr, lf] <+: line ++ cr :: lf :: rest := by
  intro begins
  cases line with
  | nil => exact filled rfl
  | cons symbol more =>
      obtain ⟨rfl, tail⟩ := List.cons_prefix_cons.mp begins
      cases more with
      | nil => exact different (List.cons_prefix_cons.mp tail).1.symm
      | cons next later =>
          obtain ⟨rfl, -⟩ := List.cons_prefix_cons.mp tail
          exact single ⟨[], later, rfl⟩

/-- No empty line follows before the break, by induction on the line. -/
theorem OneLine.cut_append (single : OneLine cr lf line) (different : cr ≠ lf) (rest : List α)
    : cut [cr, lf, cr, lf] (line ++ cr :: lf :: rest)
      = (cut [cr, lf, cr, lf] (cr :: lf :: rest)).map
          (fun parts => (line ++ parts.1, parts.2)) := by
  induction line with
  | nil => simp
  | cons symbol more ih =>
      have start : ¬ [cr, lf, cr, lf] <+: symbol :: (more ++ cr :: lf :: rest) := by
        intro begins
        have pair : [cr, lf] <+: [cr, lf, cr, lf] := ⟨[cr, lf], rfl⟩
        exact single.not_break different (List.cons_ne_nil _ _) rest (pair.trans begins)
      rw [List.cons_append, cut, if_neg start, ih (oneLine_cons.mp single).2, Option.map_map]
      rfl

/-- A block of lines that are not empty ends at the first empty line, by induction on the block.
-/
theorem cut_joinLines (different : cr ≠ lf) {block : List (List α)} (nonempty : block ≠ [])
    (single : ∀ line ∈ block, OneLine cr lf line) (filled : ∀ line ∈ block, line ≠ [])
    (body : List α)
    : cut [cr, lf, cr, lf] (joinLines cr lf block ++ cr :: lf :: cr :: lf :: body)
      = some (joinLines cr lf block, body) := by
  induction block with
  | nil => exact absurd rfl nonempty
  | cons line rest ih =>
      have one := single line List.mem_cons_self
      cases rest with
      | nil =>
          rw [joinLines, List.intercalate_singleton, one.cut_append different, cut, if_pos]
          · simp
          · exact ⟨body, rfl⟩
      | cons next more =>
          have later := ih (List.cons_ne_nil _ _)
            (fun line member => single line (List.mem_cons_of_mem _ member))
            (fun line member => filled line (List.mem_cons_of_mem _ member))
          have begins : ∃ tail, joinLines cr lf (next :: more) ++ cr :: lf :: cr :: lf :: body
              = next ++ cr :: lf :: tail := by
            cases more with
            | nil => exact ⟨_, by rw [joinLines, List.intercalate_singleton]⟩
            | cons _ _ =>
                exact ⟨_, by rw [joinLines_cons (List.cons_ne_nil _ _), List.append_assoc]; rfl⟩
          obtain ⟨tail, begins⟩ := begins
          have another := (single next (by simp)).not_break different (filled next (by simp)) tail
          have start : ¬ [cr, lf, cr, lf] <+: cr :: lf :: (next ++ cr :: lf :: tail) := by
            intro twice
            exact another (List.cons_prefix_cons.mp (List.cons_prefix_cons.mp twice).2).2
          have shifted : ¬ [cr, lf, cr, lf] <+: lf :: (next ++ cr :: lf :: tail) := by
            intro other
            exact different (List.cons_prefix_cons.mp other).1
          rw [joinLines_cons (List.cons_ne_nil _ _), List.append_assoc, List.cons_append,
            List.cons_append, one.cut_append different, begins, cut, if_neg start, cut,
            if_neg shifted, ← begins, later]
          rfl

end

end Tlsurl.Library
