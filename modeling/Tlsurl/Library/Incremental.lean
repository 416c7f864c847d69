import Mathlib.Data.List.TakeDrop
import Mathlib.Tactic.TypeStar

/-! Self-delimiting heads that arrive in chunks.
A reader appends chunk after chunk to a buffer and parses the buffer from its start. What it comes
to depends on the bytes alone; which chunks it leaves unread depends on where they were cut.
-/

namespace Tlsurl.Library

/-- What a parser says of the items it was given: it needs more, they begin with a head of some
length, or they cannot begin with one.
-/
inductive Verdict (ε α : Type*) where
  | more
  | head (length : Nat) (value : α)
  | bad (error : ε)

variable {β ε α : Type*}

/-- A head is accepted or rejected independently of what follows it. -/
structure SelfDelimiting (parse : List β → Verdict ε α) : Prop where
  empty : parse [] = .more
  stable : ∀ buffer later, parse buffer ≠ .more → parse (buffer ++ later) = parse buffer
  within : ∀ {buffer length value}, parse buffer = .head length value → length ≤ buffer.length
  alone
    : ∀ {buffer length value}, parse buffer = .head length value
      → parse (buffer.take length) = .head length value

/-- Reads chunks into the buffer until the parser has come to a verdict, which is returned with
the chunks left; nothing if the chunks run out before.
-/
def feed (parse : List β → Verdict ε α) (buffer : List β)
    : List (List β) → Option (Except ε α × List (List β))
  | [] => none
  | chunk :: rest =>
      match parse (buffer ++ chunk) with
      | .more => feed parse (buffer ++ chunk) rest
      | .head _ value => some (.ok value, rest)
      | .bad error => some (.error error, rest)

/-- What a verdict returns -/
def Verdict.result : Verdict ε α → Option (Except ε α)
  | .more => none
  | .head _ value => some (.ok value)
  | .bad error => some (.error error)

variable {parse : List β → Verdict ε α}

/-- The verdict is that on all the items, by induction on the chunks. -/
theorem SelfDelimiting.feed_result (lawful : SelfDelimiting parse) {buffer : List β}
    {chunks : List (List β)} (pending : parse buffer = .more)
    : (feed parse buffer chunks).map Prod.fst = (parse (buffer ++ chunks.flatten)).result := by
  induction chunks generalizing buffer with
  | nil => simp [feed, pending, Verdict.result]
  | cons chunk rest ih =>
      rw [List.flatten_cons, ← List.append_assoc, feed]
      cases verdict : parse (buffer ++ chunk) with
      | more => exact ih verdict
      | head length value =>
          rw [lawful.stable _ _ (by simp [verdict]), verdict]
          rfl
      | bad error =>
          rw [lawful.stable _ _ (by simp [verdict]), verdict]
          rfl

/-- A head that was accepted ends within the last chunk read, and not before it. -/
theorem SelfDelimiting.feed_ok (lawful : SelfDelimiting parse) {buffer : List β}
    {chunks rest : List (List β)} {value : α} (pending : parse buffer = .more)
    (read : feed parse buffer chunks = some (.ok value, rest))
    : ∃ before chunk length, chunks = before ++ chunk :: rest
        ∧ parse (buffer ++ before.flatten ++ chunk) = .head length value
        ∧ (buffer ++ before.flatten).length < length := by
  induction chunks generalizing buffer with
  | nil => cases read
  | cons chunk others ih =>
      rw [feed] at read
      cases verdict : parse (buffer ++ chunk) with
      | more =>
          rw [verdict] at read
          obtain ⟨before, last, length, rfl, accepted, late⟩ := ih verdict read
          refine ⟨chunk :: before, last, length, rfl, ?_, ?_⟩
          · simpa using accepted
          · simpa using late
      | head length found =>
          rw [verdict] at read
          cases read
          refine ⟨[], chunk, length, rfl, by simpa using verdict, ?_⟩
          by_contra early
          -- The buffer would have been accepted before this chunk was read.
          have inside : length ≤ buffer.length := by simpa using early
          have alone := lawful.alone verdict
          rw [List.take_append_of_le_length inside] at alone
          have whole := lawful.stable _ (buffer.drop length) (by rw [alone]; nofun)
          rw [List.take_append_drop, pending, alone] at whole
          cases whole
      | bad error =>
          rw [verdict] at read
          cases read

/-- `cut` is where some chunk ends, or the start. -/
def IsCut (chunks : List (List β)) (cut : Nat) : Prop :=
  ∃ before after, chunks = before ++ after ∧ before.flatten.length = cut

/-- Nothing that follows an accepted head is lost if and only if a chunk ends with the head. -/
theorem SelfDelimiting.feed_rest_iff (lawful : SelfDelimiting parse)
    {chunks rest : List (List β)} {value : α} {length : Nat}
    (read : feed parse [] chunks = some (.ok value, rest))
    (accepted : parse chunks.flatten = .head length value)
    : rest.flatten = chunks.flatten.drop length ↔ IsCut chunks length := by
  obtain ⟨before, chunk, found, rfl, verdict, late⟩ := lawful.feed_ok lawful.empty read
  rw [List.nil_append] at verdict late
  have same : found = length := by
    have whole := lawful.stable _ rest.flatten (by rw [verdict]; nofun)
    rw [List.append_assoc, ← List.flatten_cons, ← List.flatten_append, accepted, verdict] at whole
    cases whole
    rfl
  subst same
  have inside : found ≤ (before.flatten ++ chunk).length := lawful.within verdict
  have split : (before ++ chunk :: rest).flatten = before.flatten ++ chunk ++ rest.flatten := by
    simp
  constructor
  · intro kept
    refine ⟨before ++ [chunk], rest, by simp, ?_⟩
    rw [split, List.drop_append_of_le_length inside] at kept
    have lengths := congrArg List.length kept
    simp only [List.length_append, List.length_drop, List.flatten_append, List.flatten_singleton]
      at lengths inside ⊢
    omega
  · rintro ⟨front, after, cut, rfl⟩
    have whole : front.flatten.length = (before.flatten ++ chunk).length := by
      have first : front <+: before ++ chunk :: rest := cut ▸ List.prefix_append _ _
      rcases Nat.le_total front.length before.length with short | long
      · have early := List.prefix_of_prefix_length_le first (List.prefix_append _ _) short
        obtain ⟨others, rfl⟩ := early
        simp only [List.flatten_append, List.length_append] at late
        omega
      · have later := List.prefix_of_prefix_length_le (List.prefix_append _ _) first long
        obtain ⟨others, rfl⟩ := later
        rcases List.prefix_cons_iff.mp ((List.prefix_append_right_inj before).mp first) with
          rfl | ⟨tail, rfl, _⟩
        · simp at late
        · simp only [List.flatten_append, List.flatten_cons, List.length_append] at inside ⊢
          omega
    rw [split, List.drop_append_of_le_length inside, whole, List.drop_length, List.nil_append]

end Tlsurl.Library
