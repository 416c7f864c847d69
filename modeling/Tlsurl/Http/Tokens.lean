import Mathlib.Data.List.DropRight
import Tlsurl.Http.Str
import Tlsurl.Library.Joined

/-! Lists of tokens in field values, as a receiver reads them: what is between the commas, without
the blanks around it.
-/

namespace Tlsurl

/-- A blank or a tab -/
def isOws (byte : UInt8) : Bool := byte == 32 || byte == 9

/-- The value without the blanks at its ends -/
def trimOws (value : Str) : Str := (value.dropWhile isOws).rdropWhile isOws

/-- The elements of a list -/
def tokens (value : Str) : List Str := ((value.splitOn 44).map trimOws).filter (· ≠ [])

/-- A token is not empty and has neither commas nor blanks. -/
structure IsToken (token : Str) : Prop where
  nonempty : token ≠ []
  noComma : 44 ∉ token
  noBlank : ∀ byte ∈ token, isOws byte = false

/-- How a list is written -/
def writeTokens (list : List Str) : Str := (ascii ", ").intercalate list

theorem trimOws_token {token : Str} (noBlank : ∀ byte ∈ token, isOws byte = false)
    : trimOws token = token := by
  cases token with
  | nil => rfl
  | cons byte token =>
      have kept : (byte :: token).dropWhile isOws = byte :: token := by
        simp [noBlank byte List.mem_cons_self]
      rw [trimOws, kept, List.rdropWhile_eq_self_iff]
      intro nonempty blank
      simp [noBlank _ (List.getLast_mem nonempty)] at blank

theorem trimOws_blank {token : Str} (noBlank : ∀ byte ∈ token, isOws byte = false)
    : trimOws (32 :: token) = token := by
  have dropped : trimOws (32 :: token) = trimOws token := by
    simp [trimOws, isOws]
  rw [dropped, trimOws_token noBlank]

/-- Blanks behind the commas are part of what is between these, by induction on the list. -/
theorem writeTokens_cons (first : Str) (rest : List Str)
    : writeTokens (first :: rest) = [44].intercalate (first :: rest.map (32 :: ·)) := by
  induction rest generalizing first with
  | nil => simp [writeTokens]
  | cons second rest ih =>
      have later := ih second
      rw [writeTokens] at later ⊢
      rw [List.intercalate_cons_cons, later, List.map_cons, List.intercalate_cons_cons]
      cases rest with
      | nil => simp [ascii]
      | cons third rest => simp [ascii, List.intercalate_cons_cons]

/-- What a list was written of is read from it. -/
theorem tokens_writeTokens {list : List Str} (all : ∀ token ∈ list, IsToken token)
    : tokens (writeTokens list) = list := by
  cases list with
  | nil => rfl
  | cons first rest =>
      have one := all first List.mem_cons_self
      have others (token : Str) (member : token ∈ rest) : IsToken token :=
        all token (List.mem_cons_of_mem first member)
      have apart : ∀ part ∈ first :: rest.map (32 :: ·), 44 ∉ part := by
        intro part member
        rcases List.mem_cons.mp member with rfl | later
        · exact one.noComma
        · obtain ⟨token, inside, rfl⟩ := List.mem_map.mp later
          simpa using (others token inside).noComma
      have trimmed : (rest.map (32 :: ·)).map trimOws = rest := by
        rw [List.map_map]
        refine (List.map_congr_left (fun token member => ?_)).trans (List.map_id rest)
        exact trimOws_blank (others token member).noBlank
      rw [tokens, writeTokens_cons, List.splitOn_intercalate 44 apart (by simp), List.map_cons,
        trimmed, trimOws_token one.noBlank, List.filter_eq_self]
      exact fun token member => by simpa using (all token member).nonempty

end Tlsurl
