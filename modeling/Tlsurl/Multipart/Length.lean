import Tlsurl.Multipart.Framing

/-! Whether the declared length of a form is the number of its bytes.
`compute_length` repeats the framing of a part as a sum; the sum wraps around as `u64` does, so it
is compared with the bytes up to multiples of `2 ^ 64`.
-/

namespace Tlsurl.Multipart

variable {ε : Type}

/-- Each length that a part declares is that of its content. -/
def Form.Declared (form : Form ε) : Prop :=
  ∀ field ∈ form.fields, ∀ length, field.2.valueLen = some length
    → ∃ content, collect field.2.value = some content ∧ content.length = length.toNat

/-- The loop stops at the first part without a length, by induction on the parts. -/
theorem foldlM_addLength_isSome (form : Form ε) (fields : List (String × Part ε)) (start : UInt64)
    : (fields.foldlM form.addLength start).isSome = true
      ↔ ∀ field ∈ fields, field.2.valueLen.isSome = true := by
  induction fields generalizing start with
  | nil => simp
  | cons field fields ih =>
      cases known : field.2.valueLen with
      | none => simp [List.foldlM_cons, Form.addLength, known]
      | some length => simp [List.foldlM_cons, Form.addLength, known, ih]

/-- The summands of a part are the lengths of its pieces. -/
theorem addLength_toNat {form : Form ε} {start total : UInt64} {field : String × Part ε}
    (added : form.addLength start field = some total)
    : ∃ length, field.2.valueLen = some length
      ∧ ∀ content : Str, content.length = length.toNat
        → total.toNat = (start.toNat + (partBytes form field content).length) % 2 ^ 64 := by
  cases known : field.2.valueLen with
  | none => simp [Form.addLength, known] at added
  | some length =>
      refine ⟨length, rfl, ?_⟩
      intro content same
      simp only [Form.addLength, known, Option.some.injEq] at added
      subst added
      simp only [partBytes, encodeHeaders_eq, lenU64, delimiter, List.length_append,
        List.length_cons, List.length_nil, UInt64.toNat_add, UInt64.toNat_ofNat',
        UInt64.toNat_ofNat, same, show (ascii "--").length = 2 from rfl]
      omega

/-- The loop adds up the bytes of the parts, by induction on them. -/
theorem foldlM_addLength {form : Form ε} {fields : List (String × Part ε)}
    (declared
      : ∀ field ∈ fields, ∀ length, field.2.valueLen = some length
        → ∃ content, collect field.2.value = some content ∧ content.length = length.toNat)
    {start total : UInt64} (summed : fields.foldlM form.addLength start = some total)
    : ∃ bytes, collect (fields.flatMap (fun field => form.partStream field.1 field.2)) = some bytes
      ∧ total.toNat = (start.toNat + bytes.length) % 2 ^ 64 := by
  induction fields generalizing start with
  | nil =>
      have bound := start.toNat_lt
      cases summed
      exact ⟨[], rfl, by simp only [List.length_nil]; omega⟩
  | cons field fields ih =>
      rw [List.foldlM_cons] at summed
      obtain ⟨middle, added, rest⟩ := Option.bind_eq_some_iff.mp summed
      obtain ⟨length, known, sum⟩ := addLength_toNat added
      obtain ⟨content, collected, same⟩ := declared field List.mem_cons_self length known
      obtain ⟨bytes, others, total⟩ :=
        ih (fun other member => declared other (List.mem_cons_of_mem _ member)) rest
      refine ⟨partBytes form field content ++ bytes, ?_, ?_⟩
      · rw [List.flatMap_cons, collect_append, collect_partStream form collected, others]
        rfl
      · have here := sum content same
        rw [total, here, List.length_append]
        omega

/-- A length is computed if and only if every part has one. -/
theorem computeLength_isSome (form : Form ε)
    : form.computeLength.isSome = true
      ↔ ∀ field ∈ form.fields, field.2.valueLen.isSome = true := by
  rw [Form.computeLength, Option.isSome_map, foldlM_addLength_isSome]

/-- The computed length is the number of bytes of the form up to multiples of `2 ^ 64`. -/
theorem computeLength_toNat {form : Form ε} (declared : form.Declared) {length : UInt64}
    (computed : form.computeLength = some length)
    : ∃ bytes, collect form.intoStream = some bytes
      ∧ length.toNat = bytes.length % 2 ^ 64 := by
  obtain ⟨total, summed, rfl⟩ := Option.map_eq_some_iff.mp computed
  obtain ⟨bytes, collected, sum⟩ := foldlM_addLength declared summed
  by_cases empty : form.fields = []
  · rw [empty] at summed collected
    cases summed
    cases collected
    exact ⟨[], by rw [Form.intoStream, empty]; rfl, by simp [empty]⟩
  · refine ⟨bytes ++ (ascii "--" ++ utf8 form.boundary ++ ascii "--\r\n"), ?_, ?_⟩
    · rw [intoStream_eq empty, collect_append, collected]
      simp [collect]
    · simp only [List.isEmpty_eq_false_iff.mpr empty, Bool.not_false, if_true, lenU64,
        UInt64.toNat_add, UInt64.toNat_ofNat', UInt64.toNat_ofNat, List.length_append, sum,
        show (ascii "--").length = 2 from rfl, show (ascii "--\r\n").length = 4 from rfl]
      omega

/-- Where the parts declare the lengths of their contents and the whole fits in a `u64`, a length is
computed if and only if every part has one, and it is the number of bytes of the form; that of an
empty form is zero.
-/
theorem content_length_exact {form : Form ε} (declared : form.Declared)
    (fits : ∀ bytes, collect form.intoStream = some bytes → bytes.length < 2 ^ 64)
    : (form.computeLength.isSome = true ↔ ∀ field ∈ form.fields, field.2.valueLen.isSome = true)
      ∧ (∀ length, form.computeLength = some length
        → ∃ bytes, collect form.intoStream = some bytes ∧ bytes.length = length.toNat)
      ∧ (form.fields = [] → form.computeLength = some 0 ∧ collect form.intoStream = some []) := by
  refine ⟨computeLength_isSome form, ?_, ?_⟩
  · intro length computed
    obtain ⟨bytes, collected, same⟩ := computeLength_toNat declared computed
    have small := fits bytes collected
    exact ⟨bytes, collected, by omega⟩
  · intro empty
    simp [Form.computeLength, Form.intoStream, empty, collect]

/-- Two parts, one with a declared length and one that tells its own -/
def measured : Form Empty where
  boundary := "boundary"
  fields :=
    [("reader1", {
        metadata := .new
        value := [.ok (ascii "par"), .ok (ascii "t1")]
        bodyLength := some 5 }),
      ("key3", {
        metadata := { PartMetadata.new with fileName := some "filename" }
        value := [.ok (ascii "value3")]
        contentLength := some 6 })]

theorem content_length_exact_measured
    : (measured.computeLength.isSome = true)
      ∧ ∀ length, measured.computeLength = some length
        → ∃ bytes, collect measured.intoStream = some bytes ∧ bytes.length = length.toNat := by
  have declared : measured.Declared := by
    intro field member length known
    rcases List.mem_cons.mp member with rfl | member
    · cases known
      exact ⟨ascii "part1", rfl, rfl⟩
    · cases List.mem_singleton.mp member
      cases known
      exact ⟨ascii "value3", rfl, rfl⟩
  have small : (collect measured.intoStream).all (fun bytes => bytes.length < 2 ^ 64) = true := by
    decide +kernel
  have fits : ∀ bytes, collect measured.intoStream = some bytes → bytes.length < 2 ^ 64 := by
    intro bytes collected
    simpa [collected] using small
  obtain ⟨known, exact, _⟩ := content_length_exact declared fits
  exact ⟨known.mpr (by decide), exact⟩

end Tlsurl.Multipart
