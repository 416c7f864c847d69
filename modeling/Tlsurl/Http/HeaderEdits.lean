import Mathlib.Algebra.GroupWithZero.Nat
import Mathlib.Algebra.Order.BigOperators.Group.Finset
import Tlsurl.Http.HeaderMap

/-! Entries, appended values, replacement and equality of header maps.
A map is read as the family of its values; equality compares their bytes and ignores the order of
the names.
-/

namespace Tlsurl

namespace HeaderMap

/-- `HeaderMap::append` -/
def append (headers : HeaderMap) (name : HeaderName) (value : HeaderValue) : HeaderMap :=
  match headers.find? name with
  | none => headers.insert name value
  | some bucket => headers.store { bucket with extra := bucket.extra ++ [value] }

/-- `entry(name).or_insert(value)` -/
def orInsert (headers : HeaderMap) (name : HeaderName) (value : HeaderValue) : HeaderMap :=
  if headers.containsKey name then headers else headers.insert name value

/-- `util::replace_headers` -/
def replaceHeaders (dst src : HeaderMap) : HeaderMap := src.buckets.foldl store dst

/-- `HeaderMap::len`: the number of all values -/
def len (headers : HeaderMap) : Nat :=
  (headers.buckets.map (fun bucket => bucket.extra.length + 1)).sum

/-- The values of a name, as far as their equality goes -/
def values (headers : HeaderMap) (name : HeaderName) : List Str :=
  (headers.getAll name).map HeaderValue.bytes

/-- `PartialEq for HeaderMap` -/
def eq (left right : HeaderMap) : Bool :=
  left.len = right.len
    && left.buckets.all (fun bucket => left.values bucket.key = right.values bucket.key)

-----------------------------------------------------------------------------------------
-- Values after an edit
-----------------------------------------------------------------------------------------

theorem getAll_store (headers : HeaderMap) (bucket : Bucket) (name : HeaderName)
    : (headers.store bucket).getAll name
      = if name = bucket.key then bucket.value :: bucket.extra else headers.getAll name := by
  simp only [getAll, find?_store]
  by_cases same : name = bucket.key <;> simp [same]

theorem getAll_append (headers : HeaderMap) (name other : HeaderName) (value : HeaderValue)
    : (headers.append name value).getAll other
      = if other = name then headers.getAll name ++ [value] else headers.getAll other := by
  unfold append
  cases found : headers.find? name with
  | none =>
      rw [getAll_insert]
      split
      · simp [getAll, found]
      · rfl
  | some bucket =>
      obtain ⟨_, rfl⟩ := find?_eq_some.mp found
      rw [getAll_store]
      split
      · simp [getAll, found]
      · rfl

theorem getAll_orInsert (headers : HeaderMap) (name other : HeaderName) (value : HeaderValue)
    : (headers.orInsert name value).getAll other
      = if other = name ∧ headers.getAll name = [] then [value] else headers.getAll other := by
  unfold orInsert
  split
  · next present =>
      rw [if_neg (fun both => containsKey_iff.mp present both.2)]
  · next absent =>
      have empty : headers.getAll name = [] := by simpa [containsKey_iff] using absent
      rw [getAll_insert]
      simp [empty]

theorem getAll_of_mem {headers : HeaderMap} {bucket : Bucket} (member : bucket ∈ headers.buckets)
    : headers.getAll bucket.key = bucket.value :: bucket.extra := by
  simp only [getAll, find?_eq_some.mpr ⟨member, rfl⟩]

theorem getAll_of_notMem {headers : HeaderMap} {name : HeaderName}
    (absent : ∀ bucket ∈ headers.buckets, bucket.key ≠ name)
    : headers.getAll name = [] := by
  cases found : headers.find? name with
  | none => simp only [getAll, found]
  | some bucket =>
      obtain ⟨member, key⟩ := find?_eq_some.mp found
      exact absurd key (absent bucket member)

/-- The first bucket answers for its key, for which the others have nothing. -/
theorem getAll_head {bucket : Bucket} {buckets : List Bucket}
    (nodup : ((bucket :: buckets).map Bucket.key).Nodup)
    (rest : (buckets.map Bucket.key).Nodup)
    : (HeaderMap.mk (bucket :: buckets) nodup).getAll bucket.key = bucket.value :: bucket.extra
      ∧ (HeaderMap.mk buckets rest).getAll bucket.key = [] := by
  have fresh := (List.nodup_cons.mp nodup).1
  refine ⟨getAll_of_mem (List.mem_cons_self ..), getAll_of_notMem (fun other member key => ?_)⟩
  exact fresh (key ▸ List.mem_map_of_mem member)

/-- The first bucket does not matter to another name. -/
theorem getAll_tail {bucket : Bucket} {buckets : List Bucket} {name : HeaderName}
    (nodup : ((bucket :: buckets).map Bucket.key).Nodup)
    (rest : (buckets.map Bucket.key).Nodup) (other : bucket.key ≠ name)
    : (HeaderMap.mk (bucket :: buckets) nodup).getAll name
      = (HeaderMap.mk buckets rest).getAll name := by
  simp [getAll, find?, other]

/-- Replacing gives the names of the source its values, by induction on the buckets. -/
theorem getAll_replaceHeaders (dst src : HeaderMap) (name : HeaderName)
    : (dst.replaceHeaders src).getAll name
      = if src.getAll name = [] then dst.getAll name else src.getAll name := by
  have folded (buckets : List Bucket) (nodup : (buckets.map Bucket.key).Nodup) (dst : HeaderMap)
      : (buckets.foldl store dst).getAll name
        = if (HeaderMap.mk buckets nodup).getAll name = [] then dst.getAll name
          else (HeaderMap.mk buckets nodup).getAll name := by
    induction buckets generalizing dst with
    | nil => simp [getAll, find?]
    | cons bucket buckets ih =>
        have rest : (buckets.map Bucket.key).Nodup := nodup.of_cons
        rw [List.foldl_cons, ih rest, getAll_store]
        by_cases same : name = bucket.key
        · subst same
          obtain ⟨here, absent⟩ := getAll_head nodup rest
          rw [absent, here]
          simp
        · rw [getAll_tail nodup rest (Ne.symm same), if_neg same]
  exact folded src.buckets src.nodup dst

-----------------------------------------------------------------------------------------
-- Equality
-----------------------------------------------------------------------------------------

/-- The names of a map -/
def keys (headers : HeaderMap) : Finset HeaderName := (headers.buckets.map Bucket.key).toFinset

theorem mem_keys {headers : HeaderMap} {name : HeaderName}
    : name ∈ headers.keys ↔ headers.values name ≠ [] := by
  rw [keys, List.mem_toFinset, List.mem_map, values, ne_eq, List.map_eq_nil_iff]
  constructor
  · rintro ⟨bucket, member, rfl⟩
    simp [getAll_of_mem member]
  · intro present
    by_contra absent
    exact present (getAll_of_notMem (fun bucket member key => absent ⟨bucket, member, key⟩))

/-- The length is that of the values of all names. -/
theorem len_eq_sum (headers : HeaderMap)
    : headers.len = ∑ name ∈ headers.keys, (headers.values name).length := by
  rw [len, keys, List.sum_toFinset _ headers.nodup, List.map_map]
  refine congrArg List.sum (List.map_congr_left (fun bucket member => ?_))
  simp [values, getAll_of_mem member]

/-- Maps are equal if every name has the same values in both. -/
theorem eq_iff {left right : HeaderMap}
    : left.eq right = true ↔ ∀ name, left.values name = right.values name := by
  rw [eq, Bool.and_eq_true, decide_eq_true_eq, List.all_eq_true]
  constructor
  · rintro ⟨sameLen, same⟩
    have onLeft (name : HeaderName) (member : name ∈ left.keys)
        : left.values name = right.values name := by
      rw [keys, List.mem_toFinset] at member
      obtain ⟨bucket, inside, rfl⟩ := List.mem_map.mp member
      exact of_decide_eq_true (same bucket inside)
    have included : left.keys ⊆ right.keys := by
      intro name member
      rw [mem_keys, ← onLeft name member]
      exact mem_keys.mp member
    -- A name of the right map alone would make that map longer.
    have whole : left.keys = right.keys := by
      by_contra different
      obtain ⟨name, member, extra⟩ := Finset.exists_of_ssubset
        (Finset.ssubset_iff_subset_ne.mpr ⟨included, different⟩)
      have longer
          : ∑ name ∈ left.keys, (right.values name).length
            < ∑ name ∈ right.keys, (right.values name).length :=
        Finset.sum_lt_sum_of_subset included member extra
          (List.length_pos_of_ne_nil (mem_keys.mp member)) (fun _ _ _ => Nat.zero_le _)
      rw [len_eq_sum, len_eq_sum, Finset.sum_congr rfl
        (fun name inside => congrArg List.length (onLeft name inside))] at sameLen
      omega
    intro name
    by_cases member : name ∈ left.keys
    · exact onLeft name member
    · have emptyLeft := not_not.mp (mem_keys.not.mp member)
      have emptyRight := not_not.mp (mem_keys.not.mp (whole ▸ member))
      rw [emptyLeft, emptyRight]
  · intro same
    have alike : left.keys = right.keys := by
      ext name
      rw [mem_keys, mem_keys, same]
    refine ⟨?_, fun bucket _ => by simp [same]⟩
    rw [len_eq_sum, len_eq_sum, alike]
    exact Finset.sum_congr rfl (fun name _ => congrArg List.length (same name))

-----------------------------------------------------------------------------------------
-- Iteration
-----------------------------------------------------------------------------------------

/-- `HeaderMap::keys` in its order -/
def names (headers : HeaderMap) : List HeaderName := headers.buckets.map Bucket.key

/-- `HeaderMap::iter` yields a name with each of its values. -/
def iter (headers : HeaderMap) : List (HeaderName × HeaderValue) :=
  headers.buckets.flatMap (fun bucket =>
    (bucket.value :: bucket.extra).map (fun value => (bucket.key, value)))

/-- What is yielded, as far as equality goes -/
def iterBytes (headers : HeaderMap) : List (HeaderName × Str) :=
  headers.iter.map (fun field => (field.1, field.2.bytes))

theorem length_iterBytes (headers : HeaderMap) : headers.iterBytes.length = headers.len := by
  simp only [iterBytes, iter, len, List.length_map, List.length_flatMap, List.length_cons]

/-- What is yielded follows from the order of the names and their values. -/
theorem iterBytes_eq_flatMap (headers : HeaderMap)
    : headers.iterBytes
      = headers.names.flatMap (fun name => (headers.values name).map (fun bytes => (name, bytes)))
    := by
  simp only [iterBytes, iter, names, List.map_flatMap, List.flatMap_map]
  refine List.flatMap_congr (fun bucket member => ?_)
  simp [values, getAll_of_mem member]

/-- A name that is yielded several times in a row counts once. -/
theorem dedup_map_append {name : HeaderName} {others : List HeaderName} (fresh : name ∉ others)
    (values : List HeaderValue)
    : (name :: (values.map (fun _ => name) ++ others)).dedup = name :: others.dedup := by
  induction values with
  | nil => exact List.dedup_cons_of_notMem fresh
  | cons value values ih =>
      rw [List.map_cons, List.cons_append, List.dedup_cons_of_mem (List.mem_cons_self ..)]
      exact ih

/-- The order of the names can be read off what is yielded, by induction on the buckets. -/
theorem dedup_iterBytes (headers : HeaderMap)
    : (headers.iterBytes.map Prod.fst).dedup = headers.names := by
  have yielded
      : headers.iterBytes.map Prod.fst
        = headers.buckets.flatMap (fun bucket =>
            bucket.key :: bucket.extra.map (fun _ => bucket.key)) := by
    simp only [iterBytes, iter, List.map_map, List.map_flatMap, List.map_cons]
    rfl
  have read (buckets : List Bucket) (nodup : (buckets.map Bucket.key).Nodup)
      : (buckets.flatMap (fun bucket =>
          bucket.key :: bucket.extra.map (fun _ => bucket.key))).dedup
        = buckets.map Bucket.key := by
    induction buckets with
    | nil => rfl
    | cons bucket buckets ih =>
        obtain ⟨fresh, rest⟩ := List.nodup_cons.mp nodup
        have unyielded
            : bucket.key ∉ buckets.flatMap (fun bucket =>
                bucket.key :: bucket.extra.map (fun _ => bucket.key)) := by
          rw [← List.mem_dedup, ih rest]
          exact fresh
        rw [List.flatMap_cons, List.cons_append, dedup_map_append unyielded, ih rest]
        rfl
  rw [yielded]
  exact read headers.buckets headers.nodup

/-- Equal maps yield the same exactly if they have the names in the same order. -/
theorem iterBytes_eq_iff {left right : HeaderMap} (same : left.eq right = true)
    : left.iterBytes = right.iterBytes ↔ left.names = right.names := by
  constructor
  · intro yielded
    rw [← dedup_iterBytes, ← dedup_iterBytes, yielded]
  · intro ordered
    have alike := eq_iff.mp same
    rw [iterBytes_eq_flatMap, iterBytes_eq_flatMap, ordered]
    exact List.flatMap_congr (fun name _ => by rw [alike name])

end HeaderMap

end Tlsurl
