import Mathlib.Data.List.DropRight

/-! Self-delimiting codes: what was written is read back whatever follows it.
Values one after another are again such a code where a letter that begins none of them closes
them, and can be read to the end of a text.
-/

namespace Tlsurl.Library

/-- How a value is written, and read from the front of a text -/
structure Code (Value Letter : Type*) where
  write : Value → List Letter
  read : List Letter → Option (Value × List Letter)
  read_write : ∀ value rest, read (write value ++ rest) = some (value, rest)
  nonempty : ∀ value, write value ≠ []

namespace Code

variable {Value Letter : Type*}

-----------------------------------------------------------------------------------------
-- Values to the end of a text
-----------------------------------------------------------------------------------------

/-- Values are read until the text ends, at most `fuel` of them. -/
def readAll (code : Code Value Letter) : Nat → List Letter → Option (List Value)
  | _, [] => some []
  | 0, _ :: _ => none
  | fuel + 1, text =>
      match code.read text with
      | none => none
      | some (value, rest) => (code.readAll fuel rest).map (value :: ·)

/-- As many values as were written are read back, by induction on the values. -/
theorem readAll_flatMap (code : Code Value Letter) (values : List Value) {fuel : Nat}
    (enough : values.length ≤ fuel)
    : code.readAll fuel (values.flatMap code.write) = some values := by
  induction values generalizing fuel with
  | nil => cases fuel <;> rfl
  | cons value values ih =>
      obtain ⟨fuel, rfl⟩ : ∃ less, fuel = less + 1 :=
        Nat.exists_eq_succ_of_ne_zero (fun none => by simp [none] at enough)
      have read := code.read_write value (values.flatMap code.write)
      have later := ih (Nat.le_of_succ_le_succ enough)
      rw [List.flatMap_cons]
      cases text : code.write value ++ values.flatMap code.write with
      | nil => exact absurd (List.append_eq_nil_iff.mp text).1 (code.nonempty value)
      | cons letter more =>
          rw [text] at read
          simp [readAll, read, later]

/-- A text has no more values than letters. -/
theorem length_le_flatMap (code : Code Value Letter) (values : List Value)
    : values.length ≤ (values.flatMap code.write).length := by
  induction values with
  | nil => exact Nat.le_refl 0
  | cons value values ih =>
      have letters := List.length_pos_iff.mpr (code.nonempty value)
      rw [List.flatMap_cons, List.length_append, List.length_cons]
      omega

-----------------------------------------------------------------------------------------
-- Values up to a closing letter
-----------------------------------------------------------------------------------------

section Closed

variable [DecidableEq Letter]

/-- Values are read until a letter closes them, at most `fuel` of them. -/
def readUpTo (code : Code Value Letter) (close : Letter)
    : Nat → List Letter → Option (List Value × List Letter)
  | _, [] => none
  | fuel, letter :: rest =>
      if letter = close then some ([], rest)
      else
        match fuel with
        | 0 => none
        | fuel + 1 =>
            match code.read (letter :: rest) with
            | none => none
            | some (value, rest) =>
                (code.readUpTo close fuel rest).map (fun found => (value :: found.1, found.2))

/-- What was written up to the closing letter is read back, by induction on the values. -/
theorem readUpTo_flatMap (code : Code Value Letter) {close : Letter}
    (free : ∀ value, (code.write value).head? ≠ some close) (values : List Value)
    (rest : List Letter) {fuel : Nat} (enough : values.length ≤ fuel)
    : code.readUpTo close fuel (values.flatMap code.write ++ close :: rest)
      = some (values, rest) := by
  induction values generalizing fuel with
  | nil => cases fuel <;> simp [readUpTo]
  | cons value values ih =>
      obtain ⟨fuel, rfl⟩ : ∃ less, fuel = less + 1 :=
        Nat.exists_eq_succ_of_ne_zero (fun none => by simp [none] at enough)
      have read := code.read_write value (values.flatMap code.write ++ close :: rest)
      have later := ih (Nat.le_of_succ_le_succ enough)
      rw [List.flatMap_cons, List.append_assoc]
      cases text : code.write value with
      | nil => exact absurd text (code.nonempty value)
      | cons letter more =>
          have other : letter ≠ close := by
            intro same
            have head := free value
            rw [text, same] at head
            exact head rfl
          rw [text, List.cons_append] at read
          simp [readUpTo, other, read, later]

/-- Values between an opening text and a letter that begins none of them -/
def closed (code : Code Value Letter) (opening : List Letter) (close : Letter)
    (free : ∀ value, (code.write value).head? ≠ some close)
    : Code (List Value) Letter where
  write values := opening ++ (values.flatMap code.write ++ [close])
  read text :=
    (text.dropPrefix? opening).bind (fun rest => code.readUpTo close rest.length rest)
  read_write values rest := by
    have length := code.length_le_flatMap values
    have prefixed
        : (opening ++ (values.flatMap code.write ++ [close]) ++ rest).dropPrefix? opening
          = some (values.flatMap code.write ++ close :: rest) :=
      List.dropPrefix?_eq_some_iff.mpr ⟨opening, by simp, by simp⟩
    rw [prefixed, Option.bind_some]
    refine code.readUpTo_flatMap free values rest ?_
    rw [List.length_append]
    omega
  nonempty values := by simp

end Closed

end Code

end Tlsurl.Library
