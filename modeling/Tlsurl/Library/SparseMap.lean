import Tlsurl.Library.AssocMap

/-! Maps that leave out empty values: an absent key stands for an empty one.
Updating a value drops its key when it comes out empty, and pruning the values drops the keys
of those it empties. An update whose effect pruning does not notice can be pruned before or
after.
-/

namespace Tlsurl.Library

/-- The value, unless it is empty. -/
def unlessEmpty {V : Type*} (isEmpty : V → Bool) (value : V) : Option V :=
  if isEmpty value then none else some value

namespace SparseMap

variable {K V : Type*} [DecidableEq K]

/-- Changes the value at a key, where an absent one is `default`. -/
def update (isEmpty : V → Bool) (default : V) (change : V → V) (map : AssocMap K V) (key : K)
    : AssocMap K V :=
  AssocMap.assign map key (unlessEmpty isEmpty (change ((map.lookup key).getD default)))

omit [DecidableEq K] in
/-- Changes every value. -/
def prune (isEmpty : V → Bool) (change : V → V) (map : AssocMap K V) : AssocMap K V :=
  AssocMap.filterMapValues (fun value => unlessEmpty isEmpty (change value)) map

/-- A way to cut values down: cutting twice is cutting once, and only `default` is empty. -/
structure Pruning (isEmpty : V → Bool) (default : V) (cut : V → V) : Prop where
  empty : ∀ value, isEmpty value = true ↔ value = default
  default : cut default = default
  idem : ∀ value, cut (cut value) = cut value

section Rules

variable {isEmpty : V → Bool} {default : V} {cut : V → V}

/-- An absent value and an empty one read the same. -/
theorem Pruning.getD_unlessEmpty (pruning : Pruning isEmpty default cut) (value : V)
    : (unlessEmpty isEmpty value).getD default = value := by
  unfold unlessEmpty
  split
  · next empty => exact ((pruning.empty value).mp empty).symm
  · rfl

/-- What is read from a pruned map is pruned. -/
theorem Pruning.getD_lookup (pruning : Pruning isEmpty default cut) (map : AssocMap K V)
    (key : K)
    : ((prune isEmpty cut map).lookup key).getD default
      = cut ((map.lookup key).getD default) := by
  unfold prune
  rw [AssocMap.lookup_filterMapValues]
  cases map.lookup key with
  | none => exact pruning.default.symm
  | some value => exact pruning.getD_unlessEmpty (cut value)

/-- Dropping an empty value before cutting loses nothing. -/
theorem Pruning.unlessEmpty_bind (pruning : Pruning isEmpty default cut) (value : V)
    : (unlessEmpty isEmpty value).bind (fun value => unlessEmpty isEmpty (cut value))
      = unlessEmpty isEmpty (cut value) := by
  unfold unlessEmpty
  split
  · next empty =>
      have gone : isEmpty (cut value) = true := by
        rw [pruning.empty, (pruning.empty value).mp empty, pruning.default]
      rw [gone]
      rfl
  · rfl

omit [DecidableEq K] in
/-- Pruning makes up for an earlier, finer pruning. -/
theorem Pruning.prune_of_finer (pruning : Pruning isEmpty default cut) {finer : V → V}
    (absorbs : ∀ value, cut (finer value) = cut value) (map : AssocMap K V)
    : prune isEmpty cut (prune isEmpty finer map) = prune isEmpty cut map := by
  unfold prune
  rw [AssocMap.filterMapValues_filterMapValues]
  congr 1
  funext value
  rw [pruning.unlessEmpty_bind, absorbs]

/-- Pruning an updated map assigns the cut value. -/
theorem Pruning.prune_update (pruning : Pruning isEmpty default cut) (change : V → V)
    (map : AssocMap K V) (key : K)
    : prune isEmpty cut (update isEmpty default change map key)
      = AssocMap.assign (prune isEmpty cut map) key
          (unlessEmpty isEmpty (cut (change ((map.lookup key).getD default)))) := by
  unfold update
  rw [prune, AssocMap.filterMapValues_assign, pruning.unlessEmpty_bind]
  rfl

/-- An update that does not notice a cut may be made on the pruned map. -/
theorem Pruning.prune_update_prune (pruning : Pruning isEmpty default cut) {change : V → V}
    (unnoticed : ∀ value, cut (change value) = cut (change (cut value))) (map : AssocMap K V)
    (key : K)
    : prune isEmpty cut (update isEmpty default change map key)
      = prune isEmpty cut (update isEmpty default change (prune isEmpty cut map) key) := by
  rw [pruning.prune_update, pruning.prune_update, pruning.prune_of_finer pruning.idem,
    pruning.getD_lookup, unnoticed]

omit [DecidableEq K] in
/-- Pruning is a way to cut maps down. -/
theorem Pruning.maps (pruning : Pruning isEmpty default cut)
    : Pruning (fun map : AssocMap K V => map.entries.isEmpty) ∅ (prune isEmpty cut) where
  empty map := by
    rw [List.isEmpty_iff]
    exact ⟨fun none => AList.ext none, fun same => by rw [same]; rfl⟩
  default := rfl
  idem := pruning.prune_of_finer pruning.idem

omit [DecidableEq K] in
/-- A list read off entry by entry that does not notice a cut is the same after pruning. -/
theorem Pruning.flatMap_prune (pruning : Pruning isEmpty default cut) {A : Type*}
    (read : K → V → List A) (unnoticed : ∀ key value, read key (cut value) = read key value)
    (nothing : ∀ key, read key default = []) (map : AssocMap K V)
    : (prune isEmpty cut map).entries.flatMap (fun entry => read entry.1 entry.2)
      = map.entries.flatMap (fun entry => read entry.1 entry.2) := by
  show (map.entries.filterMap (AssocMap.keepEntry _)).flatMap _ = _
  induction map.entries with
  | nil => rfl
  | cons entry rest ih =>
      rw [List.flatMap_cons, ← ih]
      by_cases emptied : isEmpty (cut entry.2) = true
      · have unread : read entry.1 entry.2 = [] := by
          rw [← unnoticed, (pruning.empty _).mp emptied, nothing]
        rw [unread, List.nil_append, List.filterMap_cons_none]
        simp [AssocMap.keepEntry, unlessEmpty, emptied]
      · have left
            : AssocMap.keepEntry (fun value => unlessEmpty isEmpty (cut value)) entry
              = some ⟨entry.1, cut entry.2⟩ := by
          simp [AssocMap.keepEntry, unlessEmpty, emptied]
        rw [List.filterMap_cons_some left, List.flatMap_cons, unnoticed]

end Rules

/-- An update of an absent key that comes out empty changes nothing. -/
theorem update_of_lookup {isEmpty : V → Bool} {default : V} {change : V → V}
    {map : AssocMap K V} {key : K} (absent : map.lookup key = none)
    (emptied : isEmpty (change default) = true)
    : update isEmpty default change map key = map := by
  unfold update unlessEmpty
  rw [absent, Option.getD_none, if_pos emptied]
  exact AssocMap.erase_of_lookup absent

/-- No value is empty, and all have a property. -/
def Full (isEmpty : V → Bool) (good : V → Prop) (map : AssocMap K V) : Prop :=
  ∀ key value, map.lookup key = some value → isEmpty value = false ∧ good value

theorem full_empty (isEmpty : V → Bool) (good : V → Prop) : Full (K := K) isEmpty good ∅ := by
  intro key value found
  cases found

/-- An update that keeps the property of the values leaves none of them empty. -/
theorem Full.update {isEmpty : V → Bool} {good : V → Prop} {map : AssocMap K V}
    (full : Full isEmpty good map) {default : V} {change : V → V} (initial : good default)
    (kept : ∀ value, good value → good (change value)) (key : K)
    : Full isEmpty good (update isEmpty default change map key) := by
  have before : good ((map.lookup key).getD default) := by
    cases found : map.lookup key with
    | none => exact initial
    | some value => exact (full key value found).2
  intro other value found
  rcases AssocMap.lookup_assign_cases found with ⟨-, written⟩ | ⟨-, stored⟩
  · obtain ⟨nonempty, same⟩ := Option.ite_none_left_eq_some.mp written
    rw [← Option.some.inj same]
    exact ⟨Bool.eq_false_iff.mpr nonempty, kept _ before⟩
  · exact full other value stored

end SparseMap

end Tlsurl.Library
