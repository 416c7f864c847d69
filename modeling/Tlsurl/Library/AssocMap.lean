import Mathlib.Data.List.AList
import Mathlib.Algebra.GroupWithZero.Nat
import Mathlib.Algebra.Order.BigOperators.Group.List
import Mathlib.Algebra.Order.Group.Nat

/-! Finite maps with one entry a key, and the total weight of the values they hold.
The entry order stands for an iteration order that results must not depend on.
-/

namespace Tlsurl.Library

/-- A finite map from keys to values of one type. -/
abbrev AssocMap (K V : Type*) := AList (fun _ : K => V)

namespace AssocMap

variable {K V W : Type*}

/-- The sum of `f` over the stored values. -/
def weight (f : V → Nat) (map : AssocMap K V) : Nat :=
  (map.entries.map (fun entry => f entry.2)).sum

/-- Every value is replaced by its image under `f`; keys and their order stay. -/
def mapValues (f : V → W) (map : AssocMap K V) : AssocMap K W where
  entries := map.entries.map (Sigma.map id (fun _ => f))
  nodupKeys := map.nodupKeys.map₂ (fun _ => f)

variable [DecidableEq K]

@[simp] theorem lookup_mapValues (f : V → W) (map : AssocMap K V) (key : K)
    : (mapValues f map).lookup key = (map.lookup key).map f :=
  List.dlookup_map₂ key

/-- Writes the value at a key, or removes the key when there is none. -/
def assign (map : AssocMap K V) (key : K) (value : Option V) : AssocMap K V :=
  match value with
  | some value => map.insert key value
  | none => map.erase key

theorem lookup_assign (map : AssocMap K V) (key other : K) (value : Option V)
    : (assign map key value).lookup other = if other = key then value else map.lookup other := by
  by_cases same : other = key
  · subst same
    cases value <;> simp [assign]
  · cases value <;> simp [assign, same, AList.lookup_insert_ne, AList.lookup_erase_ne]

/-- What is found after an assignment is the value assigned, or was there before. -/
theorem lookup_assign_cases {map : AssocMap K V} {key other : K} {value : Option V} {present : V}
    (found : (assign map key value).lookup other = some present)
    : other = key ∧ value = some present ∨ other ≠ key ∧ map.lookup other = some present := by
  rw [lookup_assign] at found
  split at found
  · next same => exact .inl ⟨same, found⟩
  · next different => exact .inr ⟨different, found⟩

private theorem entries_erase (map : AssocMap K V) (key : K)
    : (map.erase key).entries = map.entries.kerase key := rfl

/-- A stored value splits off from the weight of the map without its key. -/
theorem weight_erase (f : V → Nat) (map : AssocMap K V) (key : K)
    : weight f (map.erase key) + (map.lookup key).elim 0 f = weight f map := by
  cases found : map.lookup key with
  | none =>
      have absent : key ∉ map.entries.keys := AList.lookup_eq_none.mp found
      simp [weight, entries_erase, List.kerase_of_notMem_keys absent]
  | some value =>
      have member : (⟨key, value⟩ : Σ _ : K, V) ∈ map.entries := AList.mem_lookup_iff.mp found
      obtain ⟨stored, front, back, _, split, rest⟩ :=
        List.exists_of_kerase (List.mem_keys_of_mem member)
      have same : stored = value := by
        have : (⟨key, stored⟩ : Σ _ : K, V) ∈ map.entries := by simp [split]
        exact eq_of_heq (by simpa using map.nodupKeys.eq_of_mk_mem this member)
      simp only [weight, entries_erase, rest, Option.elim_some]
      simp [split, same]
      omega

/-- Writing a value trades the weight of the old one for the weight of the new one. -/
theorem weight_insert (f : V → Nat) (map : AssocMap K V) (key : K) (value : V)
    : weight f (map.insert key value) + (map.lookup key).elim 0 f
      = weight f map + f value := by
  have erased := weight_erase f map key
  simp only [weight, AList.entries_insert, List.map_cons, List.sum_cons, entries_erase]
    at erased ⊢
  omega

/-- Erasing a key changes the number of entries by at most that key's own. -/
theorem length_erase (map : AssocMap K V) (key : K)
    : (map.erase key).entries.length + (if key ∈ map then 1 else 0) = map.entries.length := by
  have keysErase : (map.erase key).keys.length = (map.keys.erase key).length := by
    rw [AList.keys_erase]
  simp only [AList.keys, List.keys, List.length_map] at keysErase
  rw [keysErase, List.length_erase]
  by_cases member : key ∈ map
  · have present : key ∈ map.entries.map Sigma.fst := member
    have positive := List.length_pos_of_mem present
    simp only [List.length_map] at positive
    simp only [present, member, List.length_map, if_true]
    omega
  · have absent : key ∉ map.entries.map Sigma.fst := member
    simp [absent, member]

/-- Writing a key adds one entry exactly when the key is new. -/
theorem length_insert (map : AssocMap K V) (key : K) (value : V)
    : (map.insert key value).entries.length + (if key ∈ map then 1 else 0)
      = map.entries.length + 1 := by
  have erased := length_erase map key
  simp only [entries_erase, AList.entries_insert, List.length_cons] at erased ⊢
  omega

omit [DecidableEq K] in
/-- Images that weigh no more than their originals give a map that weighs no more. -/
theorem weight_mapValues_le (f : V → Nat) (g : W → Nat) (change : V → W)
    (smaller : ∀ value, g (change value) ≤ f value) (map : AssocMap K V)
    : weight g (mapValues change map) ≤ weight f map := by
  simp only [weight, mapValues, List.map_map]
  exact List.sum_le_sum (fun entry _ => smaller entry.2)

-----------------------------------------------------------------------------------------
-- Keeping some of the values
-----------------------------------------------------------------------------------------

section Filtering

variable (f : V → Option W)

/-- An entry with its value changed, if a value is kept. -/
def keepEntry (entry : Σ _ : K, V) : Option (Σ _ : K, W) := (f entry.2).map (Sigma.mk entry.1)

omit [DecidableEq K] in
private theorem filterMap_cons_kept {entry : Σ _ : K, V} {value : W}
    (kept : f entry.2 = some value) (rest : List (Σ _ : K, V))
    : (entry :: rest).filterMap (keepEntry f)
      = ⟨entry.1, value⟩ :: rest.filterMap (keepEntry f) :=
  List.filterMap_cons_some (by rw [keepEntry, kept, Option.map_some])

omit [DecidableEq K] in
private theorem filterMap_cons_dropped {entry : Σ _ : K, V} (dropped : f entry.2 = none)
    (rest : List (Σ _ : K, V))
    : (entry :: rest).filterMap (keepEntry f) = rest.filterMap (keepEntry f) :=
  List.filterMap_cons_none (by rw [keepEntry, dropped, Option.map_none])

omit [DecidableEq K] in
/-- The keys left after filtering are keys of before. -/
private theorem keys_keepEntry_subset (entries : List (Σ _ : K, V))
    : (entries.filterMap (keepEntry f)).keys ⊆ entries.keys := by
  intro key member
  obtain ⟨kept, stored, rfl⟩ := List.mem_map.mp member
  obtain ⟨entry, source, keeps⟩ := List.mem_filterMap.mp stored
  obtain ⟨value, _, rfl⟩ := Option.map_eq_some_iff.mp keeps
  exact List.mem_map_of_mem source

omit [DecidableEq K] in
private theorem nodupKeys_keepEntry {entries : List (Σ _ : K, V)} (nodup : entries.NodupKeys)
    : (entries.filterMap (keepEntry f)).NodupKeys := by
  induction entries with
  | nil => exact nodup
  | cons entry rest ih =>
      obtain ⟨fresh, later⟩ := List.nodupKeys_cons.mp nodup
      cases kept : f entry.2 with
      | none =>
          rw [filterMap_cons_dropped f kept]
          exact ih later
      | some value =>
          rw [filterMap_cons_kept f kept]
          refine List.nodupKeys_cons.mpr ⟨fun old => fresh ?_, ih later⟩
          exact keys_keepEntry_subset f rest old

/-- Keeps the values that `f` keeps, changed by it; the order of the keys stays. -/
def filterMapValues (map : AssocMap K V) : AssocMap K W where
  entries := map.entries.filterMap (keepEntry f)
  nodupKeys := nodupKeys_keepEntry f map.nodupKeys

/-- Dropping a key and filtering commute, by induction on the entries. -/
private theorem filterMap_kerase {entries : List (Σ _ : K, V)} (nodup : entries.NodupKeys)
    (key : K)
    : (entries.kerase key).filterMap (keepEntry f)
      = (entries.filterMap (keepEntry f)).kerase key := by
  induction entries with
  | nil => rfl
  | cons entry rest ih =>
      obtain ⟨fresh, later⟩ := List.nodupKeys_cons.mp nodup
      by_cases same : key = entry.1
      · have absent : key ∉ (rest.filterMap (keepEntry f)).keys := by
          intro member
          exact fresh (same ▸ keys_keepEntry_subset f rest member)
        rw [List.kerase_cons_eq same]
        cases kept : f entry.2 with
        | none =>
            rw [filterMap_cons_dropped f kept, List.kerase_of_notMem_keys absent]
        | some value => rw [filterMap_cons_kept f kept, List.kerase_cons_eq (by exact same)]
      · rw [List.kerase_cons_ne same]
        cases kept : f entry.2 with
        | none =>
            rw [filterMap_cons_dropped f kept, filterMap_cons_dropped f kept, ih later]
        | some value =>
            rw [filterMap_cons_kept f kept, filterMap_cons_kept f kept,
              List.kerase_cons_ne (by exact same), ih later]

theorem filterMapValues_erase (map : AssocMap K V) (key : K)
    : filterMapValues f (map.erase key) = (filterMapValues f map).erase key :=
  AList.ext (filterMap_kerase f map.nodupKeys key)

@[simp] theorem lookup_filterMapValues (map : AssocMap K V) (key : K)
    : (filterMapValues f map).lookup key = (map.lookup key).bind f := by
  ext value
  rw [← Option.mem_def, AList.mem_lookup_iff, Option.bind_eq_some_iff]
  constructor
  · intro member
    obtain ⟨entry, stored, kept⟩ := List.mem_filterMap.mp member
    obtain ⟨_, keeps, same⟩ := Option.map_eq_some_iff.mp kept
    cases same
    exact ⟨entry.2, AList.mem_lookup_iff.mpr stored, keeps⟩
  · rintro ⟨old, found, keeps⟩
    refine List.mem_filterMap.mpr ⟨⟨key, old⟩, AList.mem_lookup_iff.mp found, ?_⟩
    rw [keepEntry, keeps, Option.map_some]

/-- Filtering after a write assigns what is kept of the value. -/
theorem filterMapValues_insert (map : AssocMap K V) (key : K) (value : V)
    : filterMapValues f (map.insert key value)
      = assign (filterMapValues f map) key (f value) := by
  have rest := filterMap_kerase f map.nodupKeys key
  apply AList.ext
  show (map.insert key value).entries.filterMap (keepEntry f) = _
  rw [AList.entries_insert]
  cases kept : f value with
  | none => rw [filterMap_cons_dropped f kept, rest]; rfl
  | some changed => rw [filterMap_cons_kept f kept, rest]; rfl

theorem filterMapValues_assign (map : AssocMap K V) (key : K) (value : Option V)
    : filterMapValues f (assign map key value)
      = assign (filterMapValues f map) key (value.bind f) := by
  cases value with
  | none => exact filterMapValues_erase f map key
  | some value => exact filterMapValues_insert f map key value

omit [DecidableEq K] in
/-- The values left are the ones kept. -/
theorem values_filterMapValues (map : AssocMap K V)
    : (filterMapValues f map).entries.map Sigma.snd
      = (map.entries.map Sigma.snd).filterMap f := by
  show (map.entries.filterMap (keepEntry f)).map Sigma.snd = _
  rw [List.map_filterMap, List.filterMap_map]
  congr 1
  funext entry
  cases kept : f entry.2 <;> simp [keepEntry, kept]

omit [DecidableEq K] in
/-- Filtering twice is filtering by both. -/
theorem filterMapValues_filterMapValues {X : Type*} (g : W → Option X) (map : AssocMap K V)
    : filterMapValues g (filterMapValues f map)
      = filterMapValues (fun value => (f value).bind g) map := by
  apply AList.ext
  show (map.entries.filterMap (keepEntry f)).filterMap (keepEntry g) = map.entries.filterMap _
  rw [List.filterMap_filterMap]
  congr 1
  funext entry
  cases kept : f entry.2 <;> simp [keepEntry, kept]

end Filtering

/-- Removing a key that is absent changes nothing. -/
theorem erase_of_lookup {map : AssocMap K V} {key : K} (absent : map.lookup key = none)
    : map.erase key = map :=
  AList.ext (List.kerase_of_notMem_keys (AList.lookup_eq_none.mp absent))

omit [DecidableEq K] in
/-- What is read of each entry repeats nothing if it tells the key. -/
theorem nodup_flatMap {A : Type*} (map : AssocMap K V) (read : (Σ _ : K, V) → List A) (key : A → K)
    (each : ∀ entry ∈ map.entries, (read entry).Nodup)
    (keyed : ∀ entry ∈ map.entries, ∀ value ∈ read entry, key value = entry.1)
    : (map.entries.flatMap read).Nodup := by
  have keys : (map.entries.map Sigma.fst).Nodup := map.nodupKeys
  refine List.nodup_flatMap.mpr ⟨each, (List.pairwise_map.mp keys).imp_of_mem ?_⟩
  intro left right first second apart value here there
  exact apart ((keyed left first value here).symm.trans (keyed right second value there))

end AssocMap

end Tlsurl.Library
