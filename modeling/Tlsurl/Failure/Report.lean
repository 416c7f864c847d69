import Mathlib.Data.List.TakeWhile
import Tlsurl.Core.Stream
import Tlsurl.Failure.Cause

/-! How the error of a request reaches the caller: through `Pending` (`client/future.rs`), as an
error of the core, as the text of a native exception, and as the error that the wrapper of a
language makes of that text again (`client.cjs`, `__init__.py`).
-/

namespace Tlsurl.Failure

-----------------------------------------------------------------------------------------
-- From the client to the core
-----------------------------------------------------------------------------------------

/-- The error that `Pending` yields for an error of the service -/
def pendingError (uri : Uri) (err : Cause) : Error :=
  let err := (Error.downcast err).getD (.request err)
  if err.uri.isNone then err.withUri uri else err

/-- The code that `From<wreq::Error>` gives an error -/
def errorCode (error : Error) : String :=
  if error.isTimeout then "TIMEOUT"
  else if error.isBuilder then "INVALID_REQUEST"
  else if error.isTls then "TLS"
  else if error.isDns then "DNS"
  else if error.isConnect then "CONNECT"
  else "REQUEST"

/-- The message that it gives it, in pieces -/
def errorMessage (error : Error) : List Piece := error.withoutUri.display

/-- `From<wreq::Error>` -/
def coreError (error : Error) : Core.Error where
  code := errorCode error
  message := String.join ((errorMessage error).map Piece.render)

/-- `Display for Error` of the core -/
def exceptionText (error : Core.Error) : String := error.code ++ ": " ++ error.message

-----------------------------------------------------------------------------------------
-- From the core to the language
-----------------------------------------------------------------------------------------

/-- `TlsurlError` of Node, and `Error` of Python -/
structure TlsurlError where
  code : String
  message : String
  deriving DecidableEq

/-- A character of `[A-Z_]` -/
def isCodeChar (char : Char) : Bool := char.isUpper || char = '_'

/-- `/^([A-Z_]+): (.*)$/s.exec`; the word cannot be shorter, as no colon is in it. -/
def exec (text : List Char) : Option (List Char × List Char) :=
  match text.takeWhile isCodeChar, text.dropWhile isCodeChar with
  | char :: word, ':' :: ' ' :: message => some (char :: word, message)
  | _, _ => none

/-- `convertError` of the text of a native exception -/
def convertError (text : String) : TlsurlError :=
  match exec text.toList with
  | some (code, message) => { code := String.ofList code, message := String.ofList message }
  | none => { code := "REQUEST", message := text }

/-- `str.partition(": ")`, `none` without a separator -/
def partition : List Char → Option (List Char × List Char)
  | ':' :: ' ' :: rest => some ([], rest)
  | char :: rest => (partition rest).map (fun parts => (char :: parts.1, parts.2))
  | [] => none

/-- `_error` of the text of a native exception -/
def pythonError (text : String) : TlsurlError :=
  match partition text.toList with
  | some (code, message) => { code := String.ofList code, message := String.ofList message }
  | none => { code := "REQUEST", message := text }

-----------------------------------------------------------------------------------------
-- Reading a text back
-----------------------------------------------------------------------------------------

/-- A code, as the expression of `convertError` takes it -/
def IsCode (word : List Char) : Prop := word ≠ [] ∧ ∀ char ∈ word, isCodeChar char = true

theorem isCode_of_all {word : List Char}
    (coded : (!word.isEmpty && word.all isCodeChar) = true)
    : IsCode word := by
  simpa [IsCode] using coded

theorem exec_eq_some {text word message : List Char}
    : exec text = some (word, message)
      ↔ IsCode word ∧ text = word ++ ':' :: ' ' :: message := by
  constructor
  · intro found
    rw [exec] at found
    split at found
    next char taken rest taking dropping =>
      obtain ⟨rfl, rfl⟩ := Prod.mk.inj (Option.some.inj found)
      refine ⟨⟨List.cons_ne_nil _ _, ?_⟩, ?_⟩
      · intro char member
        rw [← taking] at member
        exact List.mem_takeWhile_imp member
      · rw [← taking, ← dropping, List.takeWhile_append_dropWhile]
    next => cases found
  · rintro ⟨⟨nonempty, coded⟩, rfl⟩
    have stops : isCodeChar ':' = false := by decide
    have taking : (word ++ ':' :: ' ' :: message).takeWhile isCodeChar = word := by
      rw [List.takeWhile_append_of_pos coded, List.takeWhile_cons, stops]
      simp
    have dropping
        : (word ++ ':' :: ' ' :: message).dropWhile isCodeChar = ':' :: ' ' :: message := by
      rw [List.dropWhile_append_of_pos coded, List.dropWhile_cons, stops]
      simp
    cases word with
    | nil => exact (nonempty rfl).elim
    | cons char word => simp only [exec, taking, dropping]

/-- The parts are what the separator stood between, by induction on the text. -/
theorem eq_of_partition {text word message : List Char}
    (found : partition text = some (word, message))
    : text = word ++ ':' :: ' ' :: message := by
  induction text using partition.induct generalizing word with
  | case1 rest =>
      obtain ⟨rfl, rfl⟩ := Prod.mk.inj (Option.some.inj found)
      rfl
  | case2 char rest other ih =>
      rw [partition] at found
      · obtain ⟨parts, parted, same⟩ := Option.map_eq_some_iff.mp found
        obtain ⟨rfl, rfl⟩ := Prod.mk.inj same
        rw [List.cons_append, ← ih parted]
      · exact other
  | case3 => cases found

/-- Without a separator there are no parts, by induction on the text. -/
theorem partition_eq_none {text : List Char}
    : partition text = none ↔ ¬[':', ' '] <:+: text := by
  induction text using partition.induct with
  | case1 rest => simp [partition, List.infix_cons_iff]
  | case2 char rest other ih =>
      rw [partition]
      · rw [Option.map_eq_none_iff, ih, List.infix_cons_iff, not_or]
        refine ⟨fun absent => ⟨?_, absent⟩, And.right⟩
        rintro ⟨after, same⟩
        exact other after (List.cons.inj same).1.symm (List.cons.inj same).2.symm
      · exact other
  | case3 => simp [partition]

/-- A code ends where the separator begins, by induction on the code. -/
theorem partition_of_code {word : List Char} (coded : ∀ char ∈ word, isCodeChar char = true)
    (message : List Char)
    : partition (word ++ ':' :: ' ' :: message) = some (word, message) := by
  induction word with
  | nil => rfl
  | cons char word ih =>
      have plain : char ≠ ':' := by
        rintro rfl
        exact absurd (coded ':' List.mem_cons_self) (by decide)
      rw [List.cons_append, partition, ih (fun char member => coded char (.tail _ member))]
      · rfl
      · intro rest same
        exact (plain same).elim

/-- What either wrapper makes of the text of an error of the core -/
theorem exec_exceptionText (error : Core.Error) (coded : IsCode error.code.toList)
    : exec (exceptionText error).toList = some (error.code.toList, error.message.toList) := by
  rw [exec_eq_some]
  exact ⟨coded, by simp [exceptionText, String.toList_append]⟩

theorem convertError_exceptionText (error : Core.Error) (coded : IsCode error.code.toList)
    : convertError (exceptionText error) = ⟨error.code, error.message⟩ := by
  rw [convertError, exec_exceptionText error coded]
  simp only [String.ofList_toList]

theorem pythonError_exceptionText (error : Core.Error) (coded : IsCode error.code.toList)
    : pythonError (exceptionText error) = ⟨error.code, error.message⟩ := by
  have parts := (exec_eq_some.mp (exec_exceptionText error coded)).2
  rw [pythonError, parts, partition_of_code coded.2]
  simp only [String.ofList_toList]

/-- Every code of an error is one that the wrappers find again. -/
theorem errorCode_isCode (error : Error) : IsCode (errorCode error).toList := by
  apply isCode_of_all
  simp only [errorCode]
  split_ifs <;> rfl

/-- The errors that the two languages make of an exception are the same one if and only if the
text names no code, or one of capital letters and underscores.
-/
theorem wrappers_agree_iff (text : String)
    : convertError text = pythonError text
      ↔ ¬[':', ' '] <:+: text.toList
        ∨ ∃ word message, IsCode word ∧ text.toList = word ++ ':' :: ' ' :: message := by
  cases parting : partition text.toList with
  | none =>
      have absent := partition_eq_none.mp parting
      have unmatched : exec text.toList = none := by
        cases found : exec text.toList with
        | none => rfl
        | some parts =>
            refine (absent ?_).elim
            rw [(exec_eq_some.mp found).2]
            exact ⟨parts.1, parts.2, by simp⟩
      simp [convertError, pythonError, parting, unmatched, absent]
  | some parts =>
      obtain ⟨word, message⟩ := parts
      have same := eq_of_partition parting
      have present : [':', ' '] <:+: text.toList := ⟨word, message, by simp [same]⟩
      cases found : exec text.toList with
      | none =>
          have shorter : text ≠ String.ofList message := by
            rintro rfl
            have lengths := congrArg List.length same
            simp at lengths
            omega
          have differ : convertError text ≠ pythonError text := by
            simp [convertError, pythonError, parting, found, shorter]
          refine ⟨fun equal => (differ equal).elim, ?_⟩
          rintro (absent | ⟨code, rest, coded, split⟩)
          · exact (absent present).elim
          · rw [exec_eq_some.mpr ⟨coded, split⟩] at found
            cases found
      | some matched =>
          obtain ⟨coded, split⟩ := exec_eq_some.mp found
          have agree : partition text.toList = some matched := by
            rw [split, partition_of_code coded.2]
          rw [parting] at agree
          simp only [convertError, pythonError, parting, found, Option.some.inj agree, true_iff]
          exact Or.inr ⟨_, _, coded, split⟩

end Tlsurl.Failure
