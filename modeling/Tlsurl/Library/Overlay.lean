import Mathlib.Data.List.Induction

/-! Overlays on families of lists.
At each name an overlay either imposes values, or supplies some where there are none. A sequence
of overlays leaves at a name what the latest one imposed, or else what was there, or else what
the first one supplied.
-/

namespace Tlsurl.Library

/-- What is imposed and what is supplied at each name; nothing where the list is empty. -/
structure Overlay (Name Value : Type*) where
  imposes : Name → List Value
  supplies : Name → List Value

namespace Overlay

variable {Name Value : Type*}

/-- The family under an overlay -/
def apply (overlay : Overlay Name Value) (family : Name → List Value) : Name → List Value :=
  fun name =>
    if (overlay.imposes name).isEmpty then
      if (family name).isEmpty then overlay.supplies name else family name
    else overlay.imposes name

/-- What is at a name under an overlay was there before, or it is all that the overlay supplies or
imposes there.
-/
theorem apply_cases (overlay : Overlay Name Value) (family : Name → List Value) (name : Name)
    : overlay.apply family name = family name
      ∨ overlay.apply family name = overlay.supplies name
      ∨ overlay.imposes name ≠ [] ∧ overlay.apply family name = overlay.imposes name := by
  simp only [apply, List.isEmpty_iff]
  split
  · split
    · exact .inr (.inl rfl)
    · exact .inl rfl
  · next imposed => exact .inr (.inr ⟨imposed, rfl⟩)

/-- A value under an overlay was there before, or it is one of the overlay's. -/
theorem mem_apply {overlay : Overlay Name Value} {family : Name → List Value} {name : Name}
    {value : Value} (member : value ∈ overlay.apply family name)
    : value ∈ family name ∨ value ∈ overlay.imposes name ∨ value ∈ overlay.supplies name := by
  rw [apply] at member
  split at member
  · split at member
    · exact .inr (.inr member)
    · exact .inl member
  · exact .inr (.inl member)

/-- The family under one overlay after the other -/
def applyAll (overlays : List (Overlay Name Value)) (family : Name → List Value)
    : Name → List Value :=
  overlays.foldl (fun family overlay => overlay.apply family) family

@[simp] theorem applyAll_nil (family : Name → List Value) : applyAll [] family = family := rfl

@[simp] theorem applyAll_snoc (overlays : List (Overlay Name Value))
    (overlay : Overlay Name Value) (family : Name → List Value)
    : applyAll (overlays ++ [overlay]) family = overlay.apply (applyAll overlays family) := by
  simp [applyAll, List.foldl_append]

/-- The latest overlay that imposes values at a name -/
def latest (overlays : List (Overlay Name Value)) (name : Name) : Option (Overlay Name Value) :=
  overlays.reverse.find? (fun overlay => !(overlay.imposes name).isEmpty)

/-- The first overlay that supplies values at a name -/
def first (overlays : List (Overlay Name Value)) (name : Name) : Option (Overlay Name Value) :=
  overlays.find? (fun overlay => !(overlay.supplies name).isEmpty)

theorem imposes_of_latest {overlays : List (Overlay Name Value)} {overlay : Overlay Name Value}
    {name : Name} (found : latest overlays name = some overlay)
    : (overlay.imposes name).isEmpty = false := by
  simpa using List.find?_some found

theorem supplies_of_first {overlays : List (Overlay Name Value)} {overlay : Overlay Name Value}
    {name : Name} (found : first overlays name = some overlay)
    : (overlay.supplies name).isEmpty = false := by
  simpa using List.find?_some found

/-- What overlays leave, by induction on them from the last. -/
theorem applyAll_eq (overlays : List (Overlay Name Value)) (family : Name → List Value)
    (name : Name)
    : applyAll overlays family name
      = match latest overlays name with
        | some overlay => overlay.imposes name
        | none =>
            if (family name).isEmpty then
              ((first overlays name).map (fun overlay => overlay.supplies name)).getD []
            else family name := by
  induction overlays using List.reverseRecOn with
  | nil => cases values : family name <;> simp [latest, first, values]
  | append_singleton overlays overlay ih =>
      rw [applyAll_snoc, apply, ih]
      cases imposed : (overlay.imposes name).isEmpty with
      | false => simp [latest, imposed]
      | true =>
          have same : latest (overlays ++ [overlay]) name = latest overlays name := by
            simp [latest, imposed]
          rw [same, if_pos rfl]
          cases found : latest overlays name with
          | some earlier => simp [imposes_of_latest found]
          | none =>
              cases present : (family name).isEmpty with
              | false => simp [present]
              | true =>
                  cases supplied : first overlays name with
                  | some earlier =>
                      have kept : first (overlays ++ [overlay]) name = some earlier := by
                        simp only [first, List.find?_append] at supplied ⊢
                        rw [supplied, Option.some_or]
                      simp [kept, supplies_of_first supplied]
                  | none =>
                      have last
                          : ((first (overlays ++ [overlay]) name).map
                              (fun overlay => overlay.supplies name)).getD []
                            = overlay.supplies name := by
                        simp only [first, List.find?_append] at supplied ⊢
                        rw [supplied, Option.none_or]
                        cases supplies : overlay.supplies name <;> simp [supplies]
                      simp [last]

/-- At a name the overlays leave nothing that the last one would not have put there itself: what
the latest one imposed is what was there, or else what the last one supplies, and where there
was nothing, the first one to supply values supplied those of the last one.
-/
def Unneeded (overlays : List (Overlay Name Value)) (last : Overlay Name Value)
    (family : Name → List Value) (name : Name)
    : Prop :=
  (∀ overlay ∈ latest overlays name,
    overlay.imposes name = if (family name).isEmpty then last.supplies name else family name)
  ∧ (latest overlays name = none → (family name).isEmpty = true
    → ∀ overlay ∈ first overlays name, overlay.supplies name = last.supplies name)

/-- The last overlay makes up for the others exactly where it imposes values or they are not
needed.
-/
theorem apply_applyAll_eq_iff (overlays : List (Overlay Name Value))
    (last : Overlay Name Value) (family : Name → List Value) (name : Name)
    : last.apply (applyAll overlays family) name = last.apply family name
      ↔ ((last.imposes name).isEmpty = true → Unneeded overlays last family name) := by
  unfold Unneeded
  rw [apply, apply]
  cases imposed : (last.imposes name).isEmpty with
  | false => simp
  | true =>
      rw [applyAll_eq]
      cases found : latest overlays name with
      | some earlier => simp [imposes_of_latest found]
      | none =>
          cases present : (family name).isEmpty with
          | false => simp [present]
          | true =>
              cases supplied : first overlays name with
              | some earlier => simp [supplies_of_first supplied]
              | none => simp

end Overlay

end Tlsurl.Library
