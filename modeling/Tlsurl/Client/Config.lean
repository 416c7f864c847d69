import Tlsurl.Http.HeaderOrder
import Tlsurl.Redirect.Policy

/-! The configuration service (`layer/config.rs`) and the replacement of headers it rests on
(`replace_headers` of `util.rs`).
The loop over the fields of a map keeps the entry of its last turn, to which a value without a
name is appended; turn by turn it is the loop that places drained fields.
-/

namespace Tlsurl

-----------------------------------------------------------------------------------------
-- Replacement
-----------------------------------------------------------------------------------------

namespace Util

/-- A turn of the loop of `replace_headers`, from the entry of the turn before and the map so far.
There must be an entry for a value without a name, or the loop panics.
-/
def replaceTurn (state : Option HeaderName × HeaderMap) (field : Option HeaderName × HeaderValue)
    : Option (Option HeaderName × HeaderMap) :=
  match field.1, state.1 with
  -- An occupied entry loses its values when one is inserted; a vacant one has none.
  | some key, _ => some (some key, state.2.insert key field.2)
  | none, some entry => some (some entry, state.2.append entry field.2)
  | none, none => none

/-- `replace_headers`, which takes the fields of `src` as `IntoIter` yields them -/
def replaceHeaders (dst src : HeaderMap) : Option HeaderMap :=
  (src.drain.foldlM replaceTurn (none, dst)).map Prod.snd

/-- A turn places its field, unless it has neither a name nor an entry. Then there is an entry. -/
theorem replaceTurn_eq {state : Option HeaderName × HeaderMap}
    {field : Option HeaderName × HeaderValue}
    (named : state.1.isSome = true ∨ field.1.isSome = true)
    : replaceTurn state field = some (OrigHeaderMap.place state field)
      ∧ (OrigHeaderMap.place state field).1.isSome = true := by
  obtain ⟨entry, headers⟩ := state
  obtain ⟨key, value⟩ := field
  cases key with
  | some key => exact ⟨rfl, rfl⟩
  | none =>
      cases entry with
      | some entry => exact ⟨rfl, rfl⟩
      | none => simp at named

/-- The loop places all fields and does not panic if it starts with an entry or with a named
field, by induction on the fields. The invariant is that there is an entry.
-/
theorem foldlM_replaceTurn {fields : List (Option HeaderName × HeaderValue)}
    {state : Option HeaderName × HeaderMap}
    (named : state.1.isSome = true ∨ ∀ field ∈ fields.head?, field.1.isSome = true)
    : fields.foldlM replaceTurn state = some (fields.foldl OrigHeaderMap.place state) := by
  induction fields generalizing state with
  | nil => rfl
  | cons field fields ih =>
      have here : state.1.isSome = true ∨ field.1.isSome = true :=
        named.imp_right (fun first => first field rfl)
      obtain ⟨turn, entry⟩ := replaceTurn_eq here
      rw [List.foldlM_cons, turn]
      exact ih (Or.inl entry)

/-- The first field of a map has a name. -/
theorem isSome_head_drain {headers : HeaderMap} {field : Option HeaderName × HeaderValue}
    (first : field ∈ headers.drain.head?)
    : field.1.isSome = true := by
  cases buckets : headers.buckets with
  | nil => simp [HeaderMap.drain, buckets] at first
  | cons bucket others =>
      simp only [HeaderMap.drain, buckets, List.flatMap_cons, List.cons_append, List.head?_cons,
        Option.mem_some_iff] at first
      rw [← first]
      rfl

/-- The loop writes the buckets of `src` one after the other and never panics. -/
theorem replaceHeaders_eq (dst src : HeaderMap)
    : replaceHeaders dst src = some (dst.replaceHeaders src) := by
  rw [replaceHeaders, foldlM_replaceTurn (Or.inr (fun _ first => isSome_head_drain first))]
  exact congrArg some (OrigHeaderMap.foldl_place src.buckets dst none)

end Util

/-- Headers that have the names of the defaults and of a request, a name of the request with the
values of the request and any other with those of the defaults.
-/
structure MergedByName (defaults request merged : HeaderMap) : Prop where
  values
    : ∀ name, merged.getAll name
        = if request.containsKey name = true then request.getAll name else defaults.getAll name
  names
    : ∀ name, merged.containsKey name = true
        ↔ request.containsKey name = true ∨ defaults.containsKey name = true

theorem HeaderMap.mergedByName_replaceHeaders (defaults request : HeaderMap)
    : MergedByName defaults request (defaults.replaceHeaders request) where
  values name := by
    rw [getAll_replaceHeaders]
    by_cases present : request.getAll name = [] <;> simp [containsKey_iff, present]
  names name := by
    rw [containsKey_iff, containsKey_iff, containsKey_iff, getAll_replaceHeaders]
    split
    · next absent => simp [absent]
    · next present => simp [present]

-----------------------------------------------------------------------------------------
-- The service
-----------------------------------------------------------------------------------------

namespace ConfigService

variable {B : Type}

/-- What the service reads of the extensions of a request, and the names in their spellings that
`on_preserve_header` leaves there.
-/
structure Extensions where
  defaultHeaders : Option (RequestConfig Bool) := none
  origHeaders : Option (RequestConfig OrigHeaderMap) := none
  preserveHeader : Option OrigHeaderMap := none

/-- `Config` -/
structure Config where
  httpsOnly : Bool
  headers : HeaderMap
  origHeaders : RequestConfig OrigHeaderMap
  defaultHeaders : RequestConfig Bool

/-- `ConfigServiceLayer::new` -/
def Config.new (httpsOnly : Bool) (headers : HeaderMap) (origHeaders : OrigHeaderMap) : Config where
  httpsOnly := httpsOnly
  headers := headers
  origHeaders := ⟨if origHeaders.isEmpty then none else some origHeaders⟩
  defaultHeaders := ⟨some true⟩

namespace Config

variable (self : Config)

/-- Whether `call` takes the scheme of a request -/
def accepts (uri : Uri) : Bool :=
  !(!(uri.isHttp || uri.isHttps) || (self.httpsOnly && !uri.isHttps))

/-- Whether `call` merges the default headers into those of a request -/
def merges (extensions : Extensions) : Bool :=
  (self.defaultHeaders.fetch extensions.defaultHeaders).getD false

/-- The headers that `call` hands on -/
def mergeHeaders (req : Request Extensions B) : Option HeaderMap :=
  if self.merges req.extensions then Util.replaceHeaders self.headers req.headers
  else some req.headers

/-- The extensions that `call` hands on: those of the original names are used up. -/
def preserve (extensions : Extensions) : Extensions :=
  let taken := { extensions with origHeaders := none }
  match self.origHeaders.take extensions.origHeaders with
  | some origHeaders => { taken with preserveHeader := some origHeaders }
  | none => taken

/-- `call`: the error that it answers with, or the request that the inner service is called with;
none if it panics.
-/
def call (req : Request Extensions B) : Option (Except BoxError (Request Extensions B)) :=
  if self.accepts req.uri then
    (self.mergeHeaders req).map (fun headers =>
      .ok { req with headers, extensions := self.preserve req.extensions })
  else some (.error (.uriBadScheme req.uri))

/-- A request that says whether the defaults are merged decides, and otherwise the configuration
does.
-/
theorem merges_iff (extensions : Extensions)
    : self.merges extensions = true
      ↔ extensions.defaultHeaders = some ⟨some true⟩
        ∨ ((∀ said, extensions.defaultHeaders ≠ some ⟨some said⟩)
          ∧ self.defaultHeaders = ⟨some true⟩) := by
  have own : self.defaultHeaders.value.getD false = true ↔ self.defaultHeaders = ⟨some true⟩ := by
    obtain ⟨value⟩ := self.defaultHeaders
    rcases value with _ | _ | _ <;> simp
  unfold merges RequestConfig.fetch
  rcases extensions.defaultHeaders with _ | ⟨_ | said⟩
  · simpa using own
  · simpa using own
  · simp

end Config

/-- The headers of the configuration and of any request merge by name, and they are what `call`
hands on unless the request, or else the configuration, turns the defaults off; nothing is handed
on if the scheme is wrong.
-/
theorem call_merges_by_name (self : Config) (req : Request Extensions B)
    : ∃ merged, Util.replaceHeaders self.headers req.headers = some merged
        ∧ MergedByName self.headers req.headers merged
        ∧ (self.merges req.extensions = true
          ↔ req.extensions.defaultHeaders = some ⟨some true⟩
            ∨ ((∀ said, req.extensions.defaultHeaders ≠ some ⟨some said⟩)
              ∧ self.defaultHeaders = ⟨some true⟩))
        ∧ self.call req
          = if self.accepts req.uri then
              some (.ok { req with
                headers := if self.merges req.extensions then merged else req.headers
                extensions := self.preserve req.extensions })
            else some (.error (.uriBadScheme req.uri)) := by
  refine ⟨_, Util.replaceHeaders_eq self.headers req.headers,
    HeaderMap.mergedByName_replaceHeaders self.headers req.headers,
    self.merges_iff req.extensions, ?_⟩
  rw [Config.call, Config.mergeHeaders, Util.replaceHeaders_eq]
  split
  · split <;> rfl
  · rfl

end ConfigService

end Tlsurl
