import Tlsurl.Http.HeaderOrder
import Tlsurl.Library.SwapErase

/-! The order of the headers that a client lists no order for.
The listed names are taken out of the map one by one, and each removal moves the last header into
the gap, so what is left is drained in the order that all these moves make.
-/

namespace Tlsurl

open Library Relation

-----------------------------------------------------------------------------------------
-- Maps by their fields
-----------------------------------------------------------------------------------------

namespace HeaderMap

/-- A removed name leaves the names as a removal by swapping does. -/
theorem names_remove (headers : HeaderMap) (name : HeaderName)
    : (headers.remove name).names = swapErase headers.names name := by
  have mapped (buckets : List Bucket) (index : Nat)
      : (swapRemove buckets index).map Bucket.key = swapRemove (buckets.map Bucket.key) index := by
    simp only [swapRemove, List.getLast?_map]
    cases buckets.getLast? with
    | none => rfl
    | some last => simp [List.map_dropLast, List.map_set]
  have searched : headers.names.findIdx? (fun other => other = name)
      = headers.buckets.findIdx? (fun bucket => bucket.key = name) := by
    rw [names, List.findIdx?_map]
    rfl
  rw [swapErase, searched]
  unfold remove
  split
  · next absent => rw [absent]
  · next index found =>
      simp only [found]
      exact mapped headers.buckets index

/-- The headers of other names -/
def without (headers : HeaderMap) (names : List HeaderName) : HeaderMap where
  buckets := headers.buckets.filter (fun bucket => bucket.key ∉ names)
  nodup := headers.nodup.sublist (List.filter_sublist.map _)

theorem names_without (headers : HeaderMap) (names : List HeaderName)
    : (headers.without names).names = headers.names.filter (· ∉ names) := by
  rw [HeaderMap.names, HeaderMap.names, List.filter_map]
  rfl

/-- The fields of some buckets, without those of some names -/
theorem filter_fields (names : List HeaderName) (buckets : List Bucket)
    : (buckets.flatMap (fun bucket =>
        (bucket.value :: bucket.extra).map (fun value => (bucket.key, value)))).filter
          (fun field => field.1 ∉ names)
      = (buckets.filter (fun bucket => bucket.key ∉ names)).flatMap (fun bucket =>
        (bucket.value :: bucket.extra).map (fun value => (bucket.key, value))) := by
  induction buckets with
  | nil => rfl
  | cons bucket buckets ih =>
      rw [List.flatMap_cons, List.filter_append, ih]
      by_cases listed : bucket.key ∈ names
      · simp [listed, List.filter_map, Function.comp_def]
      · simp [listed, List.filter_map, Function.comp_def]

theorem iter_without (headers : HeaderMap) (names : List HeaderName)
    : (headers.without names).iter = headers.iter.filter (fun field => field.1 ∉ names) :=
  (filter_fields names headers.buckets).symm

/-- The names are known by the fields. -/
theorem dedup_iter (headers : HeaderMap) : (headers.iter.map Prod.fst).dedup = headers.names := by
  rw [← dedup_iterBytes, iterBytes, List.map_map]
  rfl

/-- Maps with some of the buckets of one map are known by their names. -/
theorem eq_of_names (headers : HeaderMap) {left right : HeaderMap}
    (ofLeft : ∀ bucket ∈ left.buckets, bucket ∈ headers.buckets)
    (ofRight : ∀ bucket ∈ right.buckets, bucket ∈ headers.buckets)
    (same : left.names = right.names)
    : left = right := by
  have found (buckets : List Bucket) (among : ∀ bucket ∈ buckets, bucket ∈ headers.buckets)
      : (buckets.map Bucket.key).filterMap headers.find? = buckets := by
    rw [List.filterMap_map]
    refine (List.filterMap_congr fun bucket member => ?_).trans List.filterMap_some
    exact find?_eq_some.mpr ⟨among bucket member, rfl⟩
  apply ext_buckets
  rw [← found left.buckets ofLeft, ← found right.buckets ofRight]
  exact congrArg _ same

end HeaderMap

-----------------------------------------------------------------------------------------
-- The other headers
-----------------------------------------------------------------------------------------

namespace OrigHeaderMap

/-- The names that are not listed, in their order -/
def others (self : OrigHeaderMap) (headers : HeaderMap) : List HeaderName :=
  headers.names.filter (· ∉ self.names)

/-- The names that are not listed, and then the listed ones that are present, last to first -/
def target (self : OrigHeaderMap) (headers : HeaderMap) : List HeaderName :=
  self.others headers ++ (self.names.filter (· ∈ headers.names)).reverse

/-- The headers that are not listed come in the order in which they were, both in the map for HTTP/2
and in what HTTP/1 is handed.
-/
structure KeepsOrder (orig : OrigHeaderMap) (headers : HeaderMap) : Prop where
  call
    : (orig.call headers).iter.filter (fun field => field.1 ∉ orig.names)
      = headers.iter.filter (fun field => field.1 ∉ orig.names)
  callVisit
    : ((orig.callVisit headers).map (fun field => (field.1.lowerCased, field.2))).filter
        (fun field => field.1 ∉ orig.names.map some)
      = (headers.iter.filter (fun field => field.1 ∉ orig.names)).map
        (fun field => (some field.1, field.2))

/-- The names that removals by swapping leave -/
theorem names_unlisted (names : List HeaderName) (headers : HeaderMap)
    : (unlisted names headers).names = names.foldl swapErase headers.names := by
  induction names generalizing headers with
  | nil => rfl
  | cons name names ih =>
      rw [unlisted, List.foldl_cons, ← unlisted, ih, HeaderMap.names_remove, List.foldl_cons]

/-- Where each header should be is an arrangement of the names. -/
theorem target_perm (self : OrigHeaderMap) (headers : HeaderMap)
    : (self.target headers).Perm headers.names := by
  have others : (self.others headers).Nodup := headers.nodup.filter _
  have listed : (self.names.filter (· ∈ headers.names)).reverse.Nodup :=
    List.nodup_reverse.mpr (self.nodup.filter _)
  rw [target, List.perm_ext_iff_of_nodup]
  · intro name
    rw [OrigHeaderMap.others, List.mem_append, List.mem_reverse, List.mem_filter, List.mem_filter]
    by_cases known : name ∈ self.names
    · simp [known]
    · simp [known]
  · refine List.nodup_append.mpr ⟨others, listed, ?_⟩
    rintro name other _ member rfl
    have absent := (List.mem_filter.mp other).2
    have known := (List.mem_filter.mp (List.mem_reverse.mp member)).1
    simp [known] at absent
  · exact headers.nodup

/-- Sorting leaves the unlisted headers as the removals leave them. -/
theorem filter_iter_call (self : OrigHeaderMap) (headers : HeaderMap)
    : (self.call headers).iter.filter (fun field => field.1 ∉ self.names)
      = (unlisted self.names headers).iter := by
  have listed : (self.names.filterMap headers.find?).filter (fun bucket => bucket.key ∉ self.names)
      = [] := by
    apply List.filter_eq_nil_iff.mpr
    intro bucket member
    obtain ⟨name, known, found⟩ := List.mem_filterMap.mp member
    simpa [(HeaderMap.find?_eq_some.mp found).2] using known
  have left : (unlisted self.names headers).buckets.filter (fun bucket => bucket.key ∉ self.names)
      = (unlisted self.names headers).buckets := by
    apply List.filter_eq_self.mpr
    intro bucket member
    simpa using (mem_unlisted.mp member).2
  rw [HeaderMap.iter, buckets_call, HeaderMap.filter_fields, arranged, List.filter_append, listed,
    left, List.nil_append, HeaderMap.iter]

/-- The unlisted fields come in their order exactly if the removals leave their names so. -/
theorem iter_unlisted_iff (self : OrigHeaderMap) (headers : HeaderMap)
    : (unlisted self.names headers).iter = (headers.without self.names).iter
      ↔ self.names.foldl swapErase headers.names = self.others headers := by
  rw [← names_unlisted, others, ← HeaderMap.names_without]
  constructor
  · intro same
    rw [← HeaderMap.dedup_iter, same, HeaderMap.dedup_iter]
  · intro same
    have both := HeaderMap.eq_of_names headers
      (fun bucket member => (mem_unlisted.mp member).1)
      (fun bucket member => (List.mem_filter.mp member).1) same
    rw [both]

/-- Both traversals keep the order of the unlisted headers exactly if the map for HTTP/2 does. -/
theorem keepsOrder_iff (self : OrigHeaderMap) (headers : HeaderMap)
    : self.KeepsOrder headers
      ↔ (self.call headers).iter.filter (fun field => field.1 ∉ self.names)
        = headers.iter.filter (fun field => field.1 ∉ self.names) := by
  refine ⟨KeepsOrder.call, fun kept => ⟨kept, ?_⟩⟩
  have unlisted (field : HeaderName × HeaderValue)
      : decide (some field.1 ∉ self.names.map some) = decide (field.1 ∉ self.names) := by
    simp
  rw [lowerCased_callVisit, List.filter_map, ← kept]
  exact congrArg _ (List.filter_congr fun field _ => unlisted field)

end OrigHeaderMap

/-- The unlisted headers keep their order exactly if no chain of columns joins two of them, where
the names as they should be, with the listed ones from last to first at the end, stand over the
names as they are.
-/
theorem unlisted_order_kept_iff (orig : OrigHeaderMap) (headers : HeaderMap)
    : orig.KeepsOrder headers
      ↔ ∀ upper ∈ orig.others headers, ∀ lower ∈ orig.others headers,
        ReflTransGen (Column (orig.target headers) headers.names) upper lower
          → upper = lower := by
  have distinct : headers.names.Nodup := headers.nodup
  have listed : orig.names.Nodup := orig.nodup
  rw [orig.keepsOrder_iff, orig.filter_iter_call, ← HeaderMap.iter_without,
    orig.iter_unlisted_iff, foldl_swapErase_filter distinct listed]
  exact foldl_swapErase_eq_iff distinct (orig.target_perm headers)

/-- A client that lists one header -/
def listsAccept : OrigHeaderMap := (OrigHeaderMap.new.insert (.standard "accept")).2

/-- That header with two others -/
def acceptFirst : HeaderMap :=
  let headers := HeaderMap.empty.insert "accept" ⟨ascii "*/*", false⟩
  let headers := headers.insert "cookie" ⟨ascii "a=1", false⟩
  headers.insert "origin" ⟨ascii "null", false⟩

/-- The others change places when the listed header, which was first, is taken out. -/
theorem unlisted_headers_swapped
    : (listsAccept.call acceptFirst).names = ["accept", "origin", "cookie"]
      ∧ ¬ listsAccept.KeepsOrder acceptFirst := by
  constructor
  · decide
  · intro kept
    have same := kept.call
    revert same
    decide

end Tlsurl
