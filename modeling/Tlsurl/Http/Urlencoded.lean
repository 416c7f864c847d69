import Tlsurl.Http.Percent

/-! `application/x-www-form-urlencoded` (the crate `form_urlencoded`, under `serde_html_form` and
`url`): pairs are written as `key=value` and joined by ampersands.
-/

namespace Tlsurl

/-- The bytes that are encoded; a space is written as a plus sign. -/
def urlencodedSet : AsciiSet :=
  (((AsciiSet.nonAlphanumeric.remove 0x2A).remove 0x2D).remove 0x2E).remove 0x5F

/-- `byte_serialize` -/
def byteSerialize (text : Str) : Str :=
  text.flatMap (fun byte => if byte = 32 then [43] else percentEncodeByte urlencodedSet byte)

/-- A pair as it is written -/
def encodePair (pair : Str × Str) : Str :=
  byteSerialize pair.1 ++ 61 :: byteSerialize pair.2

/-- `Serializer::extend_pairs` on an empty string, and `serde_html_form::to_string` of what is
serialized as these pairs
-/
def formUrlencoded (pairs : List (Str × Str)) : Str := [38].intercalate (pairs.map encodePair)

/-- The parameters of a query, as they are written: what is between its ampersands -/
def parameters (query : Str) : List Str := (query.splitOn 38).filter (fun piece => piece ≠ [])

example : formUrlencoded [(ascii "foo", ascii "a b"), (ascii "foo", ascii "&")]
    = ascii "foo=a+b&foo=%26" := by
  decide

-----------------------------------------------------------------------------------------
-- What is written
-----------------------------------------------------------------------------------------

/-- A byte that is encoded and is no plus sign is not written. -/
theorem not_mem_byteSerialize {byte : UInt8} (encoded : urlencodedSet.encodes byte = true)
    (other : byte ≠ 37 ∧ byte ≠ 43 ∧ toDigit 16 byte = none) (text : Str)
    : byte ∉ byteSerialize text := by
  intro member
  obtain ⟨source, _, written⟩ := List.mem_flatMap.mp member
  split at written
  · exact other.2.1 (List.mem_singleton.mp written)
  · have single : byte ∈ percentEncode urlencodedSet [source] := by
      simpa [percentEncode] using written
    exact not_mem_percentEncode encoded ⟨other.1, other.2.2⟩ [source] single

/-- No pair is written with a separator or a fragment in it. -/
theorem not_mem_encodePair {byte : UInt8} (separates : byte = 38 ∨ byte = 35) (pair : Str × Str)
    : byte ∉ encodePair pair := by
  have absent (text : Str) : byte ∉ byteSerialize text := by
    rcases separates with rfl | rfl
    · exact not_mem_byteSerialize (by decide) (by decide) text
    · exact not_mem_byteSerialize (by decide) (by decide) text
  have equals : byte ≠ 61 := by
    rcases separates with rfl | rfl <;> decide
  rw [encodePair, List.mem_append, List.mem_cons]
  simp [absent, equals]

/-- Every pair is a parameter. -/
theorem encodePair_ne_nil (pair : Str × Str) : encodePair pair ≠ [] := by
  simp [encodePair]

/-- The parameters of a serialization are its pairs. -/
theorem parameters_formUrlencoded (pairs : List (Str × Str))
    : parameters (formUrlencoded pairs) = pairs.map encodePair := by
  cases pairs with
  | nil => decide
  | cons pair rest =>
      have plain : ∀ piece ∈ (pair :: rest).map encodePair, 38 ∉ piece := by
        intro piece member
        obtain ⟨source, _, rfl⟩ := List.mem_map.mp member
        exact not_mem_encodePair (.inl rfl) source
      rw [parameters, formUrlencoded, List.splitOn_intercalate 38 plain (by simp),
        List.filter_eq_self]
      intro piece member
      obtain ⟨source, _, rfl⟩ := List.mem_map.mp member
      simpa using encodePair_ne_nil source

/-- Only no pairs are written as nothing. -/
theorem formUrlencoded_eq_nil {pairs : List (Str × Str)}
    : formUrlencoded pairs = [] ↔ pairs = [] := by
  constructor
  · intro empty
    have none := parameters_formUrlencoded pairs
    rw [empty] at none
    exact List.map_eq_nil_iff.mp none.symm
  · rintro rfl
    rfl

/-- A serialization holds no fragment. -/
theorem hash_not_mem_formUrlencoded (pairs : List (Str × Str)) : 35 ∉ formUrlencoded pairs := by
  induction pairs with
  | nil => exact List.not_mem_nil
  | cons pair rest ih =>
      have here := not_mem_encodePair (.inr rfl) pair
      cases rest with
      | nil => simpa [formUrlencoded] using here
      | cons next rest =>
          have split : formUrlencoded (pair :: next :: rest)
              = encodePair pair ++ 38 :: formUrlencoded (next :: rest) := by
            simp [formUrlencoded]
          rw [split, List.mem_append, List.mem_cons]
          simp [here, ih]

end Tlsurl
