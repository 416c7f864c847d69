import Tlsurl.Request.Builder

/-! What several calls of `RequestBuilder::query` leave of a query.
Each call replaces the query by its own parameters, unless it has none or the URI with them is not
accepted.
-/

namespace Tlsurl

variable {B : Type}

/-- The path of a request URI, as `http` keeps it: not empty, and without query and fragment -/
structure Uri.HasPath (uri : Uri) : Prop where
  filled : uri.path ≠ []
  noQuery : 63 ∉ uri.path
  noFragment : 35 ∉ uri.path

/-- What `http` accepts is taken apart at the question mark, and put together as it is. -/
structure BuilderCrates.ReadsQuery (crates : BuilderCrates) : Prop where
  split
    : ∀ {path query : Str} {found}, path ≠ [] → 63 ∉ path → 35 ∉ path → 35 ∉ query
      → crates.parsePathAndQuery (path ++ ascii "?" ++ query) = some found
      → found = (path, some query)
  parts : ∀ {whole built}, crates.fromParts whole = some built → built = whole

/-- The parameters of a URI -/
def Uri.parameters (uri : Uri) : List Str := Tlsurl.parameters (uri.query.getD [])

/-- A URI with another query -/
def Uri.withQuery (uri : Uri) (query : Str) : Uri := { uri with query := some query }

/-- The crates accept a URI with these parameters. -/
def Uri.Accepts (crates : BuilderCrates) (uri : Uri) (pairs : List (Str × Str)) : Prop :=
  (crates.parsePathAndQuery (uri.path ++ ascii "?" ++ formUrlencoded pairs)).isSome = true
    ∧ (crates.fromParts (uri.withQuery (formUrlencoded pairs))).isSome = true

/-- The URI after some calls -/
def Uri.afterQueries (crates : BuilderCrates) (uri : Uri) (calls : List (List (Str × Str))) : Uri :=
  calls.foldl (fun uri pairs => uri.setQuery crates (formUrlencoded pairs)) uri

namespace RequestBuilder

/-- Calls of `query`, one after another -/
def queries (crates : BuilderCrates) (self : RequestBuilder B) (calls : List (List (Str × Str)))
    : RequestBuilder B :=
  calls.foldl (fun builder pairs => builder.query crates (.ok pairs)) self

/-- The query of the built request has the parameters of the URI, then those of each call. -/
def Accumulates (crates : BuilderCrates) (request : BuiltRequest B)
    (calls : List (List (Str × Str)))
    : Prop :=
  ∃ built, (queries crates { request := .ok request } calls).request = .ok built
    ∧ built.uri.parameters
      = request.uri.parameters ++ calls.flatMap (fun pairs => pairs.map encodePair)

/-- The calls edit nothing but the URI, by induction on them. -/
theorem queries_request (crates : BuilderCrates) (request : BuiltRequest B)
    (calls : List (List (Str × Str)))
    : (queries crates { request := .ok request } calls).request
      = .ok { request with uri := request.uri.afterQueries crates calls } := by
  induction calls generalizing request with
  | nil => rfl
  | cons pairs calls ih => exact ih _

end RequestBuilder

-----------------------------------------------------------------------------------------
-- What the calls leave
-----------------------------------------------------------------------------------------

section Queries

variable {crates : BuilderCrates} {uri : Uri}

/-- A call replaces the query, or it has no parameters or is not accepted and changes nothing. -/
theorem setQuery_cases (reads : crates.ReadsQuery) (path : uri.HasPath)
    (pairs : List (Str × Str))
    : (pairs ≠ [] ∧ uri.Accepts crates pairs
        ∧ uri.setQuery crates (formUrlencoded pairs) = uri.withQuery (formUrlencoded pairs))
      ∨ ((pairs = [] ∨ ¬ uri.Accepts crates pairs)
        ∧ uri.setQuery crates (formUrlencoded pairs) = uri) := by
  by_cases empty : pairs = []
  · subst empty
    exact .inr ⟨.inl rfl, by simp [Uri.setQuery, formUrlencoded]⟩
  · have filled : (formUrlencoded pairs).isEmpty = false := by
      simpa using fun none => empty (formUrlencoded_eq_nil.mp none)
    simp only [Uri.setQuery, Uri.Accepts, filled, Bool.false_eq_true, if_false]
    cases found : crates.parsePathAndQuery (uri.path ++ ascii "?" ++ formUrlencoded pairs) with
    | none => simp
    | some parts =>
        have split := reads.split path.filled path.noQuery path.noFragment
          (hash_not_mem_formUrlencoded pairs) found
        subst split
        have same : { uri with path := uri.path, query := some (formUrlencoded pairs) }
            = uri.withQuery (formUrlencoded pairs) := rfl
        simp only [same]
        cases built : crates.fromParts (uri.withQuery (formUrlencoded pairs)) with
        | none => simp
        | some whole => simp [reads.parts built, empty]

/-- After some calls the query is that of one of them, or all of them changed nothing; by induction
on the calls, the last one first.
-/
theorem afterQueries_cases (reads : crates.ReadsQuery) (path : uri.HasPath)
    (calls : List (List (Str × Str)))
    : (∃ pairs ∈ calls, pairs ≠ [] ∧ uri.Accepts crates pairs
        ∧ uri.afterQueries crates calls = uri.withQuery (formUrlencoded pairs))
      ∨ ((∀ pairs ∈ calls, pairs = [] ∨ ¬ uri.Accepts crates pairs)
        ∧ uri.afterQueries crates calls = uri) := by
  induction calls using List.reverseRecOn with
  | nil => exact .inr ⟨by simp, rfl⟩
  | append_singleton calls last ih =>
      have step : uri.afterQueries crates (calls ++ [last])
          = (uri.afterQueries crates calls).setQuery crates (formUrlencoded last) :=
        List.foldl_concat ..
      rw [step]
      rcases ih with ⟨pairs, member, filled, accepted, after⟩ | ⟨unchanged, after⟩
      · rw [after]
        have kept : (uri.withQuery (formUrlencoded pairs)).HasPath := ⟨path.1, path.2, path.3⟩
        rcases setQuery_cases reads kept last with ⟨some, accepts, set⟩ | ⟨_, set⟩
        · exact .inl ⟨last, by simp, some, accepts, set⟩
        · exact .inl ⟨pairs, by simp [member], filled, accepted, set⟩
      · rw [after]
        rcases setQuery_cases reads path last with ⟨some, accepts, set⟩ | ⟨none, set⟩
        · exact .inl ⟨last, by simp, some, accepts, set⟩
        · refine .inr ⟨?_, set⟩
          intro pairs member
          rcases List.mem_append.mp member with earlier | here
          · exact unchanged pairs earlier
          · rw [List.mem_singleton.mp here]
            exact none

end Queries

/-- Calls have no parameters if and only if each of them has none. -/
theorem flatMap_encodePair_eq_nil {calls : List (List (Str × Str))}
    : calls.flatMap (fun pairs => pairs.map encodePair) = [] ↔ ∀ pairs ∈ calls, pairs = [] := by
  simp [List.flatMap_eq_nil_iff]

/-- The parameters of one call are those of the URI and of all calls if and only if neither the URI
nor another call has any.
-/
theorem map_encodePair_eq_iff {own : List Str} {pairs : List (Str × Str)}
    {calls : List (List (Str × Str))} (member : pairs ∈ calls)
    : pairs.map encodePair = own ++ calls.flatMap (fun pairs => pairs.map encodePair)
      ↔ own = []
        ∧ ∃ before after, calls = before ++ pairs :: after
          ∧ ∀ other ∈ before ++ after, other = [] := by
  constructor
  · intro same
    obtain ⟨before, after, rfl⟩ := List.append_of_mem member
    have lengths := congrArg List.length same
    simp only [List.flatMap_append, List.flatMap_cons, List.length_append, List.length_map]
      at lengths
    have none : own = [] := List.length_eq_zero_iff.mp (by omega)
    refine ⟨none, before, after, rfl, ?_⟩
    rw [← flatMap_encodePair_eq_nil, ← List.length_eq_zero_iff, List.flatMap_append,
      List.length_append]
    omega
  · rintro ⟨none, before, after, split, others⟩
    have early := flatMap_encodePair_eq_nil.mpr
      (fun other inside => others other (List.mem_append_left after inside))
    have late := flatMap_encodePair_eq_nil.mpr
      (fun other inside => others other (List.mem_append_right before inside))
    rw [split, none, List.flatMap_append, List.flatMap_cons, early, late]
    simp

/-- Calls add their parameters to those of the URI if and only if they have none, or exactly one of
them has, the URI has none, and the URI with the new ones is accepted.
-/
theorem query_accumulates_iff {crates : BuilderCrates} (reads : crates.ReadsQuery)
    {request : BuiltRequest B} (path : request.uri.HasPath) (calls : List (List (Str × Str)))
    : RequestBuilder.Accumulates crates request calls
      ↔ (∀ pairs ∈ calls, pairs = [])
        ∨ (request.uri.parameters = []
          ∧ ∃ before pairs after, calls = before ++ pairs :: after
            ∧ (∀ other ∈ before ++ after, other = [])
            ∧ pairs ≠ [] ∧ request.uri.Accepts crates pairs) := by
  have written (pairs : List (Str × Str))
      : (request.uri.withQuery (formUrlencoded pairs)).parameters = pairs.map encodePair :=
    parameters_formUrlencoded pairs
  have built
      : RequestBuilder.Accumulates crates request calls
        ↔ (request.uri.afterQueries crates calls).parameters
          = request.uri.parameters ++ calls.flatMap (fun pairs => pairs.map encodePair) := by
    rw [RequestBuilder.Accumulates, RequestBuilder.queries_request]
    simp
  rw [built]
  rcases afterQueries_cases reads path calls with
    ⟨pairs, member, filled, accepted, after⟩ | ⟨unchanged, after⟩
  · rw [after, written, map_encodePair_eq_iff member]
    constructor
    · rintro ⟨own, before, later, split, others⟩
      exact .inr ⟨own, before, pairs, later, split, others, filled, accepted⟩
    · rintro (none | ⟨own, front, only, back, split, others, _, _⟩)
      · exact absurd (none pairs member) filled
      · have same : pairs = only := by
          rw [split, List.mem_append, List.mem_cons] at member
          rcases member with early | here | late
          · exact absurd (others pairs (List.mem_append_left _ early)) filled
          · exact here
          · exact absurd (others pairs (List.mem_append_right _ late)) filled
        subst same
        exact ⟨own, front, back, split, others⟩
  · rw [after]
    constructor
    · intro same
      refine .inl (flatMap_encodePair_eq_nil.mp ?_)
      simpa using same
    · rintro (none | ⟨_, front, only, back, rfl, _, filled, accepted⟩)
      · rw [flatMap_encodePair_eq_nil.mpr none, List.append_nil]
      · rcases unchanged only (by simp) with empty | rejected
        · exact absurd empty filled
        · exact absurd accepted rejected

-----------------------------------------------------------------------------------------
-- A concrete site
-----------------------------------------------------------------------------------------

theorem openCrates_readsQuery : openCrates.ReadsQuery where
  split := by
    intro path query found _ noQuery _ _ parsed
    have cut : Proxy.splitOnce 63 (path ++ ascii "?" ++ query) = some (path, query) := by
      rw [List.append_assoc]
      exact Proxy.splitOnce_append noQuery query
    simp only [openCrates, cut, Option.map_some, Option.some.injEq] at parsed
    exact parsed.symm
  parts := by
    intro whole built same
    exact (Option.some.inj same).symm

/-- A page of a site, with a query -/
def page (query : Option Str) : Uri where
  scheme := some .http
  authority := some { host := ascii "example.com" }
  path := ascii "/path"
  query := query

theorem page_hasPath (query : Option Str) : (page query).HasPath where
  filled := show ascii "/path" ≠ [] by decide
  noQuery := show 63 ∉ ascii "/path" by decide
  noFragment := show 35 ∉ ascii "/path" by decide

/-- One call on a URI without a query -/
theorem query_accumulates_iff_page
    : RequestBuilder.Accumulates openCrates (BuiltRequest.new .get (page none) : BuiltRequest Unit)
        [[], [(ascii "foo", ascii "a"), (ascii "foo", ascii "b")]] :=
  (query_accumulates_iff openCrates_readsQuery (page_hasPath none) _).mpr
    (.inr ⟨rfl, [[]], _, [], rfl, by decide, by decide, rfl, rfl⟩)

/-- The query of the URI is replaced by that of the call. -/
theorem query_replaces_existing
    : ¬ ∀ (crates : BuilderCrates) (request : BuiltRequest Unit)
        (calls : List (List (Str × Str))),
        crates.ReadsQuery → request.uri.HasPath
        → RequestBuilder.Accumulates crates request calls := by
  intro always
  obtain ⟨built, queried, kept⟩ := always openCrates
    (.new .get (page (some (ascii "existing=param")))) [[(ascii "newkey", ascii "newvalue")]]
    openCrates_readsQuery (page_hasPath _)
  rw [RequestBuilder.queries_request] at queried
  cases queried
  exact absurd kept (by decide)

end Tlsurl
