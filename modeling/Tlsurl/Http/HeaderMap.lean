import Mathlib.Data.List.Nodup
import Tlsurl.Http.Str
import Tlsurl.Library.SwapRemove

/-! `http::HeaderMap`: one bucket a name, in insertion order, each with all of its values.
Removal moves the last bucket into the gap, so the order of the other names may change.
-/

namespace Tlsurl

/-- A header name in the lower case that `http::HeaderName` normalises to. -/
abbrev HeaderName := String

/-- A field value and its `sensitive` mark. -/
structure HeaderValue where
  bytes : Str
  sensitive : Bool := false
  deriving DecidableEq

/-- The bytes a field value may hold: everything from space on but DEL, and tab. -/
def HeaderValue.isValid (byte : UInt8) : Bool :=
  (32 ≤ byte && byte != 127) || byte == 9

/-- `HeaderValue::try_from` and `HeaderValue::from_maybe_shared` -/
def HeaderValue.tryFrom (bytes : Str) : Option HeaderValue :=
  if bytes.all HeaderValue.isValid then some { bytes } else none

/-- `HeaderValue::to_str` succeeds on visible ASCII and tab. -/
def HeaderValue.toStr (value : HeaderValue) : Option Str :=
  if value.bytes.all (fun byte => (32 ≤ byte && byte < 127) || byte == 9)
  then some value.bytes
  else none

/-- The values stored under one name: the first, then the appended ones. -/
structure Bucket where
  key : HeaderName
  value : HeaderValue
  extra : List HeaderValue := []
  deriving DecidableEq

structure HeaderMap where
  buckets : List Bucket
  nodup : (buckets.map Bucket.key).Nodup
  deriving DecidableEq

namespace HeaderMap

def empty : HeaderMap := ⟨[], by simp⟩

def find? (headers : HeaderMap) (name : HeaderName) : Option Bucket :=
  headers.buckets.find? (fun bucket => bucket.key = name)

/-- `HeaderMap::get_all` -/
def getAll (headers : HeaderMap) (name : HeaderName) : List HeaderValue :=
  match headers.find? name with
  | none => []
  | some bucket => bucket.value :: bucket.extra

/-- `HeaderMap::get` -/
def get (headers : HeaderMap) (name : HeaderName) : Option HeaderValue :=
  (headers.find? name).map Bucket.value

def containsKey (headers : HeaderMap) (name : HeaderName) : Bool :=
  (headers.find? name).isSome

/-- The bucket of a name is the only one with its key. -/
theorem find?_eq_some {headers : HeaderMap} {name : HeaderName} {bucket : Bucket}
    : headers.find? name = some bucket ↔ bucket ∈ headers.buckets ∧ bucket.key = name := by
  constructor
  · intro found
    exact ⟨List.mem_of_find?_eq_some found, by simpa using List.find?_some found⟩
  · rintro ⟨member, rfl⟩
    cases found : headers.find? bucket.key with
    | none => simpa using List.find?_eq_none.mp found bucket member
    | some other =>
        have otherMember : other ∈ headers.buckets := List.mem_of_find?_eq_some found
        have sameKey : other.key = bucket.key := by simpa using List.find?_some found
        rw [List.inj_on_of_nodup_map headers.nodup otherMember member sameKey]

/-- `HeaderMap::remove` -/
def remove (headers : HeaderMap) (name : HeaderName) : HeaderMap :=
  match found : headers.buckets.findIdx? (fun bucket => bucket.key = name) with
  | none => headers
  | some index =>
      { buckets := Library.swapRemove headers.buckets index
        nodup := by
          have inside := (List.findIdx?_eq_some_iff_getElem.mp found).1
          have kept := ((Library.swapRemove_perm inside).map Bucket.key).nodup_iff
          exact kept.mpr (headers.nodup.sublist ((List.eraseIdx_sublist _ _).map _)) }

/-- Writes one bucket over the one with its key, or appends it when the key is new. -/
def store (headers : HeaderMap) (bucket : Bucket) : HeaderMap :=
  if present : bucket.key ∈ headers.buckets.map Bucket.key then
    { buckets := headers.buckets.map (fun old => if old.key = bucket.key then bucket else old)
      nodup := by
        have same : (headers.buckets.map
            (fun old => if old.key = bucket.key then bucket else old)).map Bucket.key
            = headers.buckets.map Bucket.key := by
          simp only [List.map_map]
          refine List.map_congr_left (fun old _ => ?_)
          simp only [Function.comp_apply]
          split
          · next key => exact key.symm
          · rfl
        rw [same]
        exact headers.nodup }
  else
    { buckets := headers.buckets ++ [bucket]
      nodup := by
        rw [List.map_append, List.nodup_append]
        refine ⟨headers.nodup, by simp, ?_⟩
        intro key member other single same
        simp only [List.map_cons, List.map_nil, List.mem_singleton] at single
        exact present (single ▸ same ▸ member) }

/-- `HeaderMap::insert` forgets the earlier values of the name. -/
def insert (headers : HeaderMap) (name : HeaderName) (value : HeaderValue) : HeaderMap :=
  headers.store { key := name, value }

-----------------------------------------------------------------------------------------
-- Lookups after an update
-----------------------------------------------------------------------------------------

/-- Buckets with the same members answer every lookup alike. -/
theorem find?_congr {left right : HeaderMap} {name : HeaderName}
    (same : ∀ bucket, bucket.key = name → (bucket ∈ left.buckets ↔ bucket ∈ right.buckets))
    : left.find? name = right.find? name := by
  refine Option.ext (fun bucket => ?_)
  rw [find?_eq_some, find?_eq_some]
  exact and_congr_left (same bucket)

/-- Removal keeps exactly the buckets of the other names. -/
theorem mem_remove {headers : HeaderMap} {name : HeaderName} {bucket : Bucket}
    : bucket ∈ (headers.remove name).buckets ↔ bucket ∈ headers.buckets ∧ bucket.key ≠ name := by
  unfold remove
  split
  · next absent =>
      have others := List.findIdx?_eq_none_iff.mp absent
      simp only [decide_eq_false_iff_not] at others
      exact ⟨fun member => ⟨member, others bucket member⟩, And.left⟩
  · next index found =>
      obtain ⟨inside, key, _⟩ := List.findIdx?_eq_some_iff_getElem.mp found
      simp only [decide_eq_true_eq] at key
      have kept := Library.swapRemove_perm inside
      have whole : (headers.buckets[index] :: headers.buckets.eraseIdx index).Perm
          headers.buckets := List.getElem_cons_eraseIdx_perm inside
      have keys := ((whole.map Bucket.key).nodup_iff).mpr headers.nodup
      simp only [List.map_cons, List.nodup_cons, List.mem_map, not_exists, not_and] at keys
      rw [show (bucket ∈ Library.swapRemove headers.buckets index
        ↔ bucket ∈ headers.buckets.eraseIdx index) from kept.mem_iff]
      constructor
      · intro member
        refine ⟨List.mem_of_mem_eraseIdx member, ?_⟩
        intro same
        exact keys.1 bucket member (same.trans key.symm)
      · rintro ⟨member, different⟩
        rcases List.mem_cons.mp (whole.mem_iff.mpr member) with rfl | rest
        · exact absurd key different
        · exact rest

theorem find?_remove (headers : HeaderMap) (name other : HeaderName)
    : (headers.remove name).find? other = if other = name then none else headers.find? other := by
  split
  · next same =>
      cases found : (headers.remove name).find? other with
      | none => rfl
      | some bucket =>
          obtain ⟨member, key⟩ := find?_eq_some.mp found
          exact absurd (key.trans same) (mem_remove.mp member).2
  · next different =>
      refine find?_congr (fun bucket key => ?_)
      rw [mem_remove]
      exact and_iff_left (key ▸ different)

/-- A write is read back under its own key and leaves the other names alone. -/
theorem find?_store (headers : HeaderMap) (bucket : Bucket) (name : HeaderName)
    : (headers.store bucket).find? name
      = if name = bucket.key then some bucket else headers.find? name := by
  have members (other : Bucket)
      : other ∈ (headers.store bucket).buckets
        ↔ other = bucket ∨ (other ∈ headers.buckets ∧ other.key ≠ bucket.key) := by
    unfold store
    split
    · next present =>
        obtain ⟨old, oldMember, oldKey⟩ := List.mem_map.mp present
        constructor
        · intro member
          obtain ⟨source, sourceMember, rfl⟩ := List.mem_map.mp member
          split
          · exact Or.inl rfl
          · next different => exact Or.inr ⟨sourceMember, different⟩
        · rintro (rfl | ⟨member, different⟩)
          · exact List.mem_map.mpr ⟨old, oldMember, if_pos oldKey⟩
          · exact List.mem_map.mpr ⟨other, member, if_neg different⟩
    · next absent =>
        simp only [List.mem_append, List.mem_singleton]
        constructor
        · rintro (member | rfl)
          · exact Or.inr ⟨member, fun same => absent (same ▸ List.mem_map_of_mem member)⟩
          · exact Or.inl rfl
        · rintro (rfl | ⟨member, _⟩)
          · exact Or.inr rfl
          · exact Or.inl member
  split
  · next same => exact find?_eq_some.mpr ⟨(members bucket).mpr (Or.inl rfl), same.symm⟩
  · next different =>
      refine find?_congr (fun other key => ?_)
      rw [members]
      constructor
      · rintro (rfl | ⟨member, _⟩)
        · exact absurd key.symm different
        · exact member
      · intro member
        exact Or.inr ⟨member, fun same => different (key.symm.trans same)⟩

@[simp] theorem getAll_remove (headers : HeaderMap) (name other : HeaderName)
    : (headers.remove name).getAll other = if other = name then [] else headers.getAll other := by
  simp only [getAll, find?_remove]
  by_cases same : other = name <;> simp [same]

@[simp] theorem getAll_insert (headers : HeaderMap) (name other : HeaderName)
    (value : HeaderValue)
    : (headers.insert name value).getAll other
      = if other = name then [value] else headers.getAll other := by
  simp only [getAll, insert, find?_store]
  by_cases same : other = name <;> simp [same]

/-- A name is present exactly when it has a value. -/
theorem containsKey_iff {headers : HeaderMap} {name : HeaderName}
    : headers.containsKey name = true ↔ headers.getAll name ≠ [] := by
  simp only [containsKey, getAll]
  cases headers.find? name <;> simp

end HeaderMap

end Tlsurl
