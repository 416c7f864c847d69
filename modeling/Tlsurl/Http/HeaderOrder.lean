import Mathlib.Data.List.Dedup
import Tlsurl.Http.HeaderEdits

/-! The header order a client imposes (`header.rs`), as HTTP/2 reads it off a sorted map and as
HTTP/1 is handed it field by field.
Both traversals go through the buckets of the listed names first and through the buckets that
removal leaves afterwards, so they agree on what they yield.
-/

namespace Tlsurl

/-- The bytes of a token, which `HeaderName::from_bytes` accepts. -/
def HeaderName.isToken (byte : UInt8) : Bool :=
  (97 ≤ byte && byte ≤ 122) || (65 ≤ byte && byte ≤ 90) || (48 ≤ byte && byte ≤ 57)
    || (ascii "!#$%&'*+-.^_|~").contains byte || byte == 96

/-- `HeaderName::from_bytes`: a token of at most 65535 bytes, in lower case. -/
def HeaderName.fromBytes (bytes : Str) : Option HeaderName :=
  if bytes ≠ [] ∧ bytes.length ≤ 65535 ∧ bytes.all HeaderName.isToken = true then
    some (String.ofList (bytes.map (fun byte => Char.ofNat (toAsciiLowercase byte).toNat)))
  else none

/-- `HeaderCaseName`: a spelling kept as it was given, or a normalised name. -/
inductive HeaderCaseName where
  | cased (bytes : Str)
  | standard (name : HeaderName)
  deriving DecidableEq

namespace HeaderCaseName

/-- The name that a spelling stands for, in lower case. -/
def lowerCased : HeaderCaseName → Option HeaderName
  | .cased bytes => HeaderName.fromBytes bytes
  | .standard name => some name

end HeaderCaseName

/-- The spellings stored under one name: the first, then the appended ones. -/
structure SpellingBucket where
  key : HeaderName
  spelling : HeaderCaseName
  extra : List HeaderCaseName := []
  deriving DecidableEq

/-- `OrigHeaderMap`: a header map of spellings, each of which stands for the name it is under. -/
structure OrigHeaderMap where
  buckets : List SpellingBucket
  nodup : (buckets.map SpellingBucket.key).Nodup
  spelled
    : ∀ bucket ∈ buckets, ∀ spelling ∈ bucket.spelling :: bucket.extra,
        spelling.lowerCased = some bucket.key

namespace OrigHeaderMap

/-- `OrigHeaderMap::new` -/
def new : OrigHeaderMap := ⟨[], by simp, by simp⟩

/-- `keys` of the map of spellings, in its order -/
def names (self : OrigHeaderMap) : List HeaderName := self.buckets.map SpellingBucket.key

/-- `OrigHeaderMap::is_empty` -/
def isEmpty (self : OrigHeaderMap) : Bool := self.buckets.isEmpty

/-- `OrigHeaderMap::iter` yields a name with each of its spellings. -/
def iter (self : OrigHeaderMap) : List (HeaderName × HeaderCaseName) :=
  self.buckets.flatMap (fun bucket =>
    (bucket.spelling :: bucket.extra).map (fun spelling => (bucket.key, spelling)))

/-- `HeaderMap::append` of a spelling under the name it stands for; whether that was present. -/
def append (self : OrigHeaderMap) (name : HeaderName) (spelling : HeaderCaseName)
    (stands : spelling.lowerCased = some name)
    : Bool × OrigHeaderMap :=
  if present : name ∈ self.names then
    (true,
      { buckets := self.buckets.map (fun bucket =>
          if bucket.key = name then { bucket with extra := bucket.extra ++ [spelling] }
          else bucket)
        nodup := by
          rw [List.map_map]
          convert self.nodup using 2
          funext bucket
          simp only [Function.comp_apply]
          split <;> rfl
        spelled := by
          intro changed member
          obtain ⟨bucket, inside, rfl⟩ := List.mem_map.mp member
          have before := self.spelled bucket inside
          split
          · next key =>
              intro other among
              rw [← List.cons_append] at among
              rcases List.mem_append.mp among with old | last
              · exact before other old
              · rw [List.mem_singleton.mp last, stands, key]
          · exact before })
  else
    (false,
      { buckets := self.buckets ++ [{ key := name, spelling }]
        nodup := by
          rw [List.map_append, List.nodup_append]
          refine ⟨self.nodup, by simp, ?_⟩
          intro key member other single same
          simp only [List.map_cons, List.map_nil, List.mem_singleton] at single
          exact present (single ▸ same ▸ member)
        spelled := by
          intro bucket member
          rcases List.mem_append.mp member with old | last
          · exact self.spelled bucket old
          · rw [List.mem_singleton.mp last]
            simpa using stands })

/-- `OrigHeaderMap::insert`: whether the name was present before. A spelling that is no header
name is dropped.
-/
def insert (self : OrigHeaderMap) (orig : HeaderCaseName) : Bool × OrigHeaderMap :=
  match stands : orig.lowerCased with
  | none => (false, self)
  | some name => self.append name orig stands

end OrigHeaderMap

/-- `HeaderMap::drain` names the first value of each bucket and leaves the others unnamed. -/
def HeaderMap.drain (headers : HeaderMap) : List (Option HeaderName × HeaderValue) :=
  headers.buckets.flatMap (fun bucket =>
    (some bucket.key, bucket.value) :: bucket.extra.map (fun value => (none, value)))

namespace OrigHeaderMap

/-- The first loop of `call`: the values of a listed name move over. -/
def moveOver (state : HeaderMap × HeaderMap) (name : HeaderName) : HeaderMap × HeaderMap :=
  ((state.2.getAll name).foldl (fun sorted value => sorted.append name value) state.1,
    state.2.remove name)

/-- The second loop of `call`: a drained value is inserted, or appended to the last name. -/
def place (state : Option HeaderName × HeaderMap) (drained : Option HeaderName × HeaderValue)
    : Option HeaderName × HeaderMap :=
  match drained.1, state.1 with
  | some name, _ => (some name, state.2.insert name drained.2)
  | none, some name => (some name, state.2.append name drained.2)
  | none, none => state

/-- `OrigHeaderMap::call`: the map that HTTP/2 iterates. -/
def call (self : OrigHeaderMap) (headers : HeaderMap) : HeaderMap :=
  if headers.len ≤ 1 || self.isEmpty then headers
  else
    let (sorted, rest) := self.names.foldl moveOver (.empty, headers)
    (rest.drain.foldl place (none, sorted)).2

/-- The first loop of `call_visit`: the values of a listed name are emitted in its spelling. -/
def emitListed (state : List (HeaderCaseName × HeaderValue) × HeaderMap)
    (entry : HeaderName × HeaderCaseName)
    : List (HeaderCaseName × HeaderValue) × HeaderMap :=
  (state.1 ++ (state.2.getAll entry.1).map (fun value => (entry.2, value)),
    state.2.remove entry.1)

/-- The second loop of `call_visit`: a drained value is emitted under the last name. -/
def emit (state : Option HeaderCaseName × List (HeaderCaseName × HeaderValue))
    (drained : Option HeaderName × HeaderValue)
    : Option HeaderCaseName × List (HeaderCaseName × HeaderValue) :=
  match drained.1, state.1 with
  | some name, _ => (some (.standard name), state.2 ++ [(.standard name, drained.2)])
  | none, some name => (some name, state.2 ++ [(name, drained.2)])
  | none, none => state

/-- `OrigHeaderMap::call_visit`: the fields that HTTP/1 is handed, in order. -/
def callVisit (self : OrigHeaderMap) (headers : HeaderMap)
    : List (HeaderCaseName × HeaderValue) :=
  let (emitted, rest) := self.iter.foldl emitListed ([], headers)
  (rest.drain.foldl emit (none, emitted)).2

end OrigHeaderMap

-----------------------------------------------------------------------------------------
-- Writes of whole buckets
-----------------------------------------------------------------------------------------

namespace HeaderMap

theorem ext_buckets {left right : HeaderMap} (same : left.buckets = right.buckets)
    : left = right := by
  cases left
  cases right
  cases same
  rfl

/-- A bucket with a new key is put at the end. -/
theorem buckets_store_of_notMem {headers : HeaderMap} {bucket : Bucket}
    (fresh : bucket.key ∉ headers.names)
    : (headers.store bucket).buckets = headers.buckets ++ [bucket] :=
  congrArg HeaderMap.buckets (dif_neg fresh)

/-- A bucket with a known key takes the place of the old one. -/
theorem buckets_store_of_mem {headers : HeaderMap} {bucket : Bucket}
    (known : bucket.key ∈ headers.names)
    : (headers.store bucket).buckets
      = headers.buckets.map (fun old => if old.key = bucket.key then bucket else old) :=
  congrArg HeaderMap.buckets (dif_pos known)

/-- A second write to a key is all that is left of two. -/
theorem store_store (headers : HeaderMap) {first second : Bucket} (same : second.key = first.key)
    : (headers.store first).store second = headers.store second := by
  have known : second.key ∈ (headers.store first).names := by
    by_cases present : first.key ∈ headers.names
    · obtain ⟨old, member, key⟩ := List.mem_map.mp present
      rw [names, buckets_store_of_mem present, same]
      exact List.mem_map.mpr ⟨first, List.mem_map.mpr ⟨old, member, if_pos key⟩, rfl⟩
    · rw [names, buckets_store_of_notMem present, same]
      simp
  apply ext_buckets
  rw [buckets_store_of_mem known]
  by_cases present : first.key ∈ headers.names
  · rw [buckets_store_of_mem present, buckets_store_of_mem (same ▸ present), List.map_map]
    refine List.map_congr_left (fun old _ => ?_)
    simp only [Function.comp_apply, same]
    split <;> simp_all
  · have kept
        : headers.buckets.map (fun old => if old.key = second.key then second else old)
          = headers.buckets := by
      refine (List.map_congr_left (fun old member => if_neg ?_)).trans (List.map_id _)
      intro key
      exact present (key.trans same ▸ List.mem_map_of_mem member)
    rw [buckets_store_of_notMem present, buckets_store_of_notMem (same ▸ present),
      List.map_append, kept]
    simp [same]

/-- Appending values to the name of a bucket extends it, by induction on the values. -/
theorem foldl_append (headers : HeaderMap) (bucket : Bucket) (values : List HeaderValue)
    : values.foldl (fun sorted value => sorted.append bucket.key value) (headers.store bucket)
      = headers.store { bucket with extra := bucket.extra ++ values } := by
  induction values generalizing bucket with
  | nil => simp
  | cons value values ih =>
      have stored : (headers.store bucket).find? bucket.key = some bucket := by
        rw [find?_store, if_pos rfl]
      have appended
          : (headers.store bucket).append bucket.key value
            = headers.store { bucket with extra := bucket.extra ++ [value] } := by
        rw [append, stored]
        exact store_store headers rfl
      rw [List.foldl_cons, appended]
      simpa using ih { bucket with extra := bucket.extra ++ [value] }

/-- Storing buckets with new and different keys puts them at the end, by induction on them. -/
theorem buckets_foldl_store {headers : HeaderMap} {buckets : List Bucket}
    (nodup : ((headers.buckets ++ buckets).map Bucket.key).Nodup)
    : (buckets.foldl store headers).buckets = headers.buckets ++ buckets := by
  induction buckets generalizing headers with
  | nil => simp
  | cons bucket buckets ih =>
      have fresh : bucket.key ∉ headers.names := by
        intro known
        rw [List.map_append, List.nodup_append] at nodup
        exact nodup.2.2 _ known _ (by simp) rfl
      have stored := buckets_store_of_notMem fresh
      rw [List.foldl_cons, ih, stored, List.append_assoc, List.singleton_append]
      simpa [stored] using nodup

/-- A name without a bucket has no values. -/
theorem find?_eq_none {headers : HeaderMap} {name : HeaderName}
    : headers.find? name = none ↔ name ∉ headers.names := by
  simp [find?, names]

/-- The values found under a name make up its bucket again, where the name is new. -/
theorem foldl_append_getAll {headers sorted : HeaderMap} {name : HeaderName}
    (fresh : name ∉ sorted.names)
    : (headers.getAll name).foldl (fun sorted value => sorted.append name value) sorted
      = (headers.find? name).toList.foldl store sorted := by
  cases found : headers.find? name with
  | none => simp [getAll, found]
  | some bucket =>
      obtain ⟨_, rfl⟩ := find?_eq_some.mp found
      have first
          : sorted.append bucket.key bucket.value
            = sorted.store { key := bucket.key, value := bucket.value } := by
        rw [append, find?_eq_none.mpr fresh]
        rfl
      simp only [getAll, found, List.foldl_cons, first, Option.toList_some, List.foldl_nil]
      exact foldl_append sorted { key := bucket.key, value := bucket.value } bucket.extra

end HeaderMap

-----------------------------------------------------------------------------------------
-- The loops, bucket by bucket
-----------------------------------------------------------------------------------------

namespace OrigHeaderMap

/-- What the first loops leave of a map -/
def unlisted (names : List HeaderName) (headers : HeaderMap) : HeaderMap :=
  names.foldl HeaderMap.remove headers

/-- Moving the listed names over stores their buckets, by induction on the names. -/
theorem foldl_moveOver {names : List HeaderName} {sorted headers : HeaderMap}
    (nodup : (sorted.names ++ names).Nodup)
    : names.foldl moveOver (sorted, headers)
      = ((names.filterMap headers.find?).foldl HeaderMap.store sorted, unlisted names headers) := by
  induction names generalizing sorted headers with
  | nil => rfl
  | cons name names ih =>
      obtain ⟨distinct, others, apart⟩ := List.nodup_append.mp nodup
      have fresh : name ∉ sorted.names := fun known => apart _ known _ (by simp) rfl
      have later : names.filterMap (headers.remove name).find? = names.filterMap headers.find? := by
        refine List.filterMap_congr (fun other member => ?_)
        rw [HeaderMap.find?_remove, if_neg]
        intro same
        exact (List.nodup_cons.mp others).1 (same ▸ member)
      have split
          : (name :: names).filterMap headers.find?
            = (headers.find? name).toList ++ names.filterMap headers.find? := by
        cases found : headers.find? name <;> simp [found]
      rw [List.foldl_cons, moveOver, HeaderMap.foldl_append_getAll fresh, ih, later, split,
        List.foldl_append]
      · rfl
      · cases found : headers.find? name with
        | none => simpa using List.Nodup.of_cons (List.nodup_middle.mp nodup)
        | some bucket =>
            obtain ⟨_, rfl⟩ := HeaderMap.find?_eq_some.mp found
            have stored := HeaderMap.buckets_store_of_notMem fresh
            simpa [HeaderMap.names, stored] using nodup

/-- Unnamed values are appended to the name placed last, by induction on the values. -/
theorem foldl_place_unnamed (name : HeaderName) (values : List HeaderValue) (sorted : HeaderMap)
    : (values.map (fun value => ((none : Option HeaderName), value))).foldl place
        (some name, sorted)
      = (some name, values.foldl (fun sorted value => sorted.append name value) sorted) := by
  induction values generalizing sorted with
  | nil => rfl
  | cons value values ih => exact ih _

/-- Placing drained values stores the buckets they came from, by induction on those. -/
theorem foldl_place (buckets : List Bucket) (sorted : HeaderMap) (last : Option HeaderName)
    : ((buckets.flatMap (fun bucket =>
        (some bucket.key, bucket.value) :: bucket.extra.map (fun value => (none, value)))).foldl
          place (last, sorted)).2
      = buckets.foldl HeaderMap.store sorted := by
  induction buckets generalizing sorted last with
  | nil => rfl
  | cons bucket buckets ih =>
      have built := HeaderMap.foldl_append sorted { key := bucket.key, value := bucket.value }
        bucket.extra
      have first
          : place (last, sorted) (some bucket.key, bucket.value)
            = (some bucket.key, sorted.store { key := bucket.key, value := bucket.value }) := rfl
      rw [List.flatMap_cons, List.cons_append, List.foldl_cons, List.foldl_append, first,
        foldl_place_unnamed, built, ih]
      rfl

/-- The buckets that are left are those of the other names, by induction on the listed ones. -/
theorem mem_unlisted {names : List HeaderName} {headers : HeaderMap} {bucket : Bucket}
    : bucket ∈ (unlisted names headers).buckets
      ↔ bucket ∈ headers.buckets ∧ bucket.key ∉ names := by
  induction names generalizing headers with
  | nil => simp [unlisted]
  | cons name names ih =>
      rw [unlisted, List.foldl_cons, ← unlisted, ih, HeaderMap.mem_remove, List.mem_cons, not_or,
        and_assoc]

/-- The listed names that are present, as the keys of their buckets -/
theorem keys_filterMap_find? (names : List HeaderName) (headers : HeaderMap)
    : (names.filterMap headers.find?).map Bucket.key = names.filter headers.containsKey := by
  induction names with
  | nil => rfl
  | cons name names ih =>
      cases found : headers.find? name with
      | none => simp [found, HeaderMap.containsKey, ih]
      | some bucket =>
          have key := (HeaderMap.find?_eq_some.mp found).2
          simp [found, HeaderMap.containsKey, ih, key]

/-- The buckets of the listed names, in their order, and then those that are left. -/
def arranged (names : List HeaderName) (headers : HeaderMap) : List Bucket :=
  names.filterMap headers.find? ++ (unlisted names headers).buckets

theorem nodup_arranged {names : List HeaderName} (nodup : names.Nodup) (headers : HeaderMap)
    : ((arranged names headers).map Bucket.key).Nodup := by
  rw [arranged, List.map_append, keys_filterMap_find?, List.nodup_append]
  refine ⟨nodup.filter _, (unlisted names headers).nodup, ?_⟩
  intro key listed other left same
  obtain ⟨bucket, member, rfl⟩ := List.mem_map.mp left
  exact (mem_unlisted.mp member).2 (same ▸ List.mem_of_mem_filter listed)

/-- Arranging keeps the buckets. -/
theorem mem_arranged {names : List HeaderName} {headers : HeaderMap} {bucket : Bucket}
    : bucket ∈ arranged names headers ↔ bucket ∈ headers.buckets := by
  rw [arranged, List.mem_append, List.mem_filterMap, mem_unlisted]
  constructor
  · rintro (⟨name, _, found⟩ | ⟨member, _⟩)
    · exact (HeaderMap.find?_eq_some.mp found).1
    · exact member
  · intro member
    by_cases listed : bucket.key ∈ names
    · exact Or.inl ⟨_, listed, HeaderMap.find?_eq_some.mpr ⟨member, rfl⟩⟩
    · exact Or.inr ⟨member, listed⟩

theorem arranged_perm {names : List HeaderName} (nodup : names.Nodup) (headers : HeaderMap)
    : (arranged names headers).Perm headers.buckets :=
  (List.perm_ext_iff_of_nodup (nodup_arranged nodup headers).of_map headers.nodup.of_map).mpr
    (fun _ => mem_arranged)

/-- Sorting arranges the buckets. With one value or no listed name there is nothing to arrange.
-/
theorem buckets_call (self : OrigHeaderMap) (headers : HeaderMap)
    : (self.call headers).buckets = arranged self.names headers := by
  unfold call
  split
  · next shortcut =>
      rcases Bool.or_eq_true_iff.mp shortcut with short | none
      · have perm := arranged_perm self.nodup headers
        have length : headers.buckets.length ≤ 1 := by
          have counted := List.length_le_sum_of_one_le
            (headers.buckets.map (fun bucket => bucket.extra.length + 1))
            (by simp)
          rw [List.length_map] at counted
          exact counted.trans (of_decide_eq_true short)
        cases buckets : headers.buckets with
        | nil =>
            rw [buckets, List.perm_nil] at perm
            exact perm.symm
        | cons bucket others =>
            have alone : others = [] := by simpa [buckets] using length
            rw [buckets, alone, List.perm_singleton] at perm
            rw [alone]
            exact perm.symm
      · have empty : self.names = [] := by simpa [names, isEmpty] using none
        simp [arranged, unlisted, empty]
  · have nodup : ((HeaderMap.empty).names ++ self.names).Nodup := self.nodup
    rw [foldl_moveOver nodup]
    have keys := nodup_arranged self.nodup headers
    have listed
        : ((self.names.filterMap headers.find?).foldl HeaderMap.store .empty).buckets
          = self.names.filterMap headers.find? := by
      rw [HeaderMap.buckets_foldl_store]
      · rfl
      · rw [arranged, List.map_append] at keys
        exact (List.nodup_append.mp keys).1
    change ((HeaderMap.drain _).foldl place (none, _)).2.buckets = _
    rw [HeaderMap.drain, foldl_place, HeaderMap.buckets_foldl_store, listed]
    · rfl
    · rw [listed]
      exact keys

/-- Removing an absent name changes nothing. -/
theorem remove_of_notMem {headers : HeaderMap} {name : HeaderName}
    (absent : name ∉ headers.names)
    : headers.remove name = headers := by
  unfold HeaderMap.remove
  split
  · rfl
  · next index found =>
      obtain ⟨inside, key, _⟩ := List.findIdx?_eq_some_iff_getElem.mp found
      refine absurd ?_ absent
      rw [← of_decide_eq_true key]
      exact List.mem_map_of_mem (List.getElem_mem inside)

/-- A second spelling of a name that was emitted emits nothing, by induction on the spellings. -/
theorem foldl_emitListed_extra (name : HeaderName) (spellings : List HeaderCaseName)
    {headers : HeaderMap} (gone : name ∉ headers.names)
    (emitted : List (HeaderCaseName × HeaderValue))
    : (spellings.map (fun spelling => (name, spelling))).foldl emitListed (emitted, headers)
      = (emitted, headers) := by
  induction spellings with
  | nil => rfl
  | cons spelling spellings ih =>
      have nothing : headers.getAll name = [] := by
        rw [HeaderMap.getAll, HeaderMap.find?_eq_none.mpr gone]
      have same : emitListed (emitted, headers) (name, spelling) = (emitted, headers) := by
        simp [emitListed, nothing, remove_of_notMem gone]
      rw [List.map_cons, List.foldl_cons, same, ih]

/-- The first loop emits the values of each listed name in its first spelling, by induction on
the buckets of spellings.
-/
theorem foldl_emitListed {buckets : List SpellingBucket} {headers : HeaderMap}
    (nodup : (buckets.map SpellingBucket.key).Nodup)
    (emitted : List (HeaderCaseName × HeaderValue))
    : (buckets.flatMap (fun bucket =>
        (bucket.spelling :: bucket.extra).map (fun spelling => (bucket.key, spelling)))).foldl
          emitListed (emitted, headers)
      = (emitted
          ++ buckets.flatMap (fun bucket =>
            (headers.getAll bucket.key).map (fun value => (bucket.spelling, value))),
          unlisted (buckets.map SpellingBucket.key) headers) := by
  induction buckets generalizing headers emitted with
  | nil => simp [unlisted]
  | cons bucket buckets ih =>
      obtain ⟨fresh, rest⟩ := List.nodup_cons.mp nodup
      have gone : bucket.key ∉ (headers.remove bucket.key).names := by
        intro member
        obtain ⟨other, inside, key⟩ := List.mem_map.mp member
        exact (HeaderMap.mem_remove.mp inside).2 key
      have later
          : buckets.flatMap (fun other =>
              ((headers.remove bucket.key).getAll other.key).map
                (fun value => (other.spelling, value)))
            = buckets.flatMap (fun other =>
              (headers.getAll other.key).map (fun value => (other.spelling, value))) := by
        refine List.flatMap_congr (fun other member => ?_)
        rw [HeaderMap.getAll_remove, if_neg]
        intro same
        exact fresh (same ▸ List.mem_map_of_mem member)
      rw [List.flatMap_cons, List.foldl_append, List.map_cons, List.foldl_cons, emitListed,
        foldl_emitListed_extra _ _ gone, ih rest, later]
      simp [unlisted]

/-- The second loop emits every value that is left under its own name, by induction on the
buckets.
-/
theorem foldl_emit (buckets : List Bucket) (last : Option HeaderCaseName)
    (emitted : List (HeaderCaseName × HeaderValue))
    : ((buckets.flatMap (fun bucket =>
        (some bucket.key, bucket.value) :: bucket.extra.map (fun value => (none, value)))).foldl
          emit (last, emitted)).2
      = emitted
        ++ buckets.flatMap (fun bucket =>
          (bucket.value :: bucket.extra).map (fun value => (.standard bucket.key, value))) := by
  have unnamed (name : HeaderCaseName) (values : List HeaderValue)
      (emitted : List (HeaderCaseName × HeaderValue))
      : (values.map (fun value => ((none : Option HeaderName), value))).foldl emit
          (some name, emitted)
        = (some name, emitted ++ values.map (fun value => (name, value))) := by
    induction values generalizing emitted with
    | nil => simp
    | cons value values ih =>
        rw [List.map_cons, List.foldl_cons]
        exact (ih _).trans (by simp)
  induction buckets generalizing last emitted with
  | nil => simp
  | cons bucket buckets ih =>
      rw [List.flatMap_cons, List.cons_append, List.foldl_cons, List.foldl_append]
      have first
          : emit (last, emitted) (some bucket.key, bucket.value)
            = (some (.standard bucket.key), emitted ++ [(.standard bucket.key, bucket.value)]) :=
        rfl
      rw [first, unnamed, ih]
      simp

/-- The buckets found under some names hold the values of these names, by induction on them. -/
theorem flatMap_filterMap_find? (names : List HeaderName) (headers : HeaderMap)
    : (names.filterMap headers.find?).flatMap (fun bucket =>
        (bucket.value :: bucket.extra).map (fun value => (bucket.key, value)))
      = names.flatMap (fun name => (headers.getAll name).map (fun value => (name, value))) := by
  induction names with
  | nil => rfl
  | cons name names ih =>
      rw [List.flatMap_cons, ← ih]
      cases found : headers.find? name with
      | none => simp [HeaderMap.getAll, found]
      | some bucket =>
          have key := (HeaderMap.find?_eq_some.mp found).2
          simp [HeaderMap.getAll, found, key]

/-- Field by field, HTTP/1 is handed what iterating the sorted map yields, each name in a
spelling that stands for it.
-/
theorem lowerCased_callVisit (self : OrigHeaderMap) (headers : HeaderMap)
    : (self.callVisit headers).map (fun field => (field.1.lowerCased, field.2))
      = (self.call headers).iter.map (fun field => (some field.1, field.2)) := by
  have visited
      : self.callVisit headers
        = self.buckets.flatMap (fun bucket =>
            (headers.getAll bucket.key).map (fun value => (bucket.spelling, value)))
          ++ (unlisted self.names headers).buckets.flatMap (fun bucket =>
            (bucket.value :: bucket.extra).map (fun value => (.standard bucket.key, value))) := by
    rw [callVisit, iter, foldl_emitListed self.nodup]
    exact (foldl_emit _ none _).trans (by simp [names])
  have spelled
      : self.buckets.flatMap (fun bucket =>
          (headers.getAll bucket.key).map (fun value => (bucket.spelling.lowerCased, value)))
        = self.buckets.flatMap (fun bucket =>
          (headers.getAll bucket.key).map (fun value => (some bucket.key, value))) := by
    refine List.flatMap_congr (fun bucket member => ?_)
    rw [self.spelled bucket member bucket.spelling List.mem_cons_self]
  rw [visited, HeaderMap.iter, buckets_call, arranged, List.flatMap_append,
    flatMap_filterMap_find?]
  simp only [List.map_append, List.map_flatMap, List.map_map, names, List.flatMap_map]
  exact congrArg (· ++ _) spelled

end OrigHeaderMap

/-- The values that are yielded with a name are the values of that name, by induction on the
buckets.
-/
theorem HeaderMap.filter_iter (headers : HeaderMap) (name : HeaderName)
    : (headers.iter.filter (fun field => field.1 = name)).map Prod.snd = headers.getAll name := by
  have read (buckets : List Bucket) (nodup : (buckets.map Bucket.key).Nodup)
      : ((HeaderMap.mk buckets nodup).iter.filter (fun field => field.1 = name)).map Prod.snd
        = (HeaderMap.mk buckets nodup).getAll name := by
    induction buckets with
    | nil => rfl
    | cons bucket buckets ih =>
        have rest : (buckets.map Bucket.key).Nodup := nodup.of_cons
        have later := ih rest
        have split
            : (HeaderMap.mk (bucket :: buckets) nodup).iter
              = (bucket.value :: bucket.extra).map (fun value => (bucket.key, value))
                ++ (HeaderMap.mk buckets rest).iter := rfl
        rw [split, List.filter_append, List.map_append, later, List.filter_map]
        by_cases same : bucket.key = name
        · subst same
          obtain ⟨here, absent⟩ := getAll_head nodup rest
          rw [absent, here]
          simp [Function.comp_def]
        · rw [getAll_tail nodup rest same]
          simp [same, Function.comp_def]
  exact read headers.buckets headers.nodup

/-- The header order agrees between HTTP/1 and HTTP/2: the fields that HTTP/1 is handed are those
that HTTP/2 iterates, name by name and value by value. Both are the fields given, with the values
of each name in their order, and the listed names come first in the order of the list.
-/
theorem header_orders_agree (orig : OrigHeaderMap) (headers : HeaderMap)
    : let sorted := orig.call headers
      let visited :=
        (orig.callVisit headers).map (fun field => (field.1.lowerCased, field.2))
      visited = sorted.iter.map (fun field => (some field.1, field.2))
      ∧ sorted.iter.Perm headers.iter
      ∧ (∀ name, (sorted.iter.filter (fun field => field.1 = name)).map Prod.snd
          = (headers.iter.filter (fun field => field.1 = name)).map Prod.snd)
      ∧ ∃ others, sorted.names = orig.names.filter headers.containsKey ++ others
          ∧ ∀ name ∈ others, name ∉ orig.names := by
  have buckets := orig.buckets_call headers
  refine ⟨orig.lowerCased_callVisit headers, ?_, ?_, ?_⟩
  · rw [HeaderMap.iter, buckets]
    exact (OrigHeaderMap.arranged_perm orig.nodup headers).flatMap_right _
  · intro name
    rw [HeaderMap.filter_iter, HeaderMap.filter_iter]
    have same : (orig.call headers).find? name = headers.find? name := by
      apply HeaderMap.find?_congr
      intro bucket _
      rw [buckets]
      exact OrigHeaderMap.mem_arranged
    rw [HeaderMap.getAll, HeaderMap.getAll, same]
  · refine ⟨(OrigHeaderMap.unlisted orig.names headers).names, ?_, ?_⟩
    · rw [HeaderMap.names, buckets, OrigHeaderMap.arranged, List.map_append,
        OrigHeaderMap.keys_filterMap_find?]
      rfl
    · intro name member
      obtain ⟨bucket, inside, rfl⟩ := List.mem_map.mp member
      exact (OrigHeaderMap.mem_unlisted.mp inside).2

end Tlsurl
