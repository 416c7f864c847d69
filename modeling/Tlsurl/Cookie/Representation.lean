import Tlsurl.Cookie.Expiry
import Tlsurl.Cookie.Retrieval

/-! The representation invariant of the cookie store (`cookie/store.rs`).
What an entry says of itself agrees with the keys under which it is stored, no inner map is empty,
and the creation indexes number the entries. Only a `Domain` attribute that begins with a dot is
read back as another domain.
-/

namespace Tlsurl.Cookie

open Library

-----------------------------------------------------------------------------------------
-- Paths and domains
-----------------------------------------------------------------------------------------

/-- The default path begins with a slash, as a prefix of a path that does. -/
theorem normalizePath_absolute (path : Str)
    : defaultPath.isPrefixOf (normalizePath path) = true := by
  unfold normalizePath
  split
  · decide
  · next absolute =>
      have absolute : defaultPath <+: path := by simpa using absolute
      simp only
      split
      · decide
      · next kept =>
          have suffix
              : ((path.reverse.dropWhile (fun byte => byte != 47)).drop 1) <:+ path.reverse :=
            (List.drop_suffix _ _).trans (List.dropWhile_suffix _)
          have before := List.reverse_prefix.mpr suffix
          rw [List.reverse_reverse] at before
          rw [List.isPrefixOf_iff_prefix]
          refine List.prefix_of_prefix_length_le absolute before ?_
          rw [List.length_reverse]
          exact List.length_pos_of_ne_nil kept

/-- The text of a host begins with a dot. -/
def Dotted (parsers : Parsers) (host : Host) : Prop :=
  (parsers.hostToString host).head? = some 46

/-- Parsing the text of a host gives the host. -/
def Parsers.Reparses (parsers : Parsers) : Prop :=
  ∀ text host, parsers.hostParse text = some host →
    parsers.hostParse (parsers.hostToString host) = some host

theorem stripDot_of_head {text : Str} (undotted : text.head? ≠ some 46) : stripDot text = text := by
  unfold stripDot
  split
  · exact absurd rfl undotted
  · rfl

/-- A host whose text has no leading dot is read back from it. -/
theorem Parsers.Reparses.canonicalHost {parsers : Parsers} (reparses : parsers.Reparses)
    {text : Str} {host : Host} (parsed : parsers.hostParse text = some host)
    (undotted : ¬Dotted parsers host)
    : canonicalHost parsers.hostParse (parsers.hostToString host) = some host := by
  rw [Cookie.canonicalHost, stripDot_of_head undotted]
  exact reparses text host parsed

/-- What `Jar::add` stores has a path with a leading slash, and its `Domain` is the text of its
domain.
-/
theorem Jar.prepare_stores {parsers : Parsers} {cookie : RawCookie} {uri : Uri} {now : Time}
    {prepared : Prepared} (prepares : prepare parsers cookie uri now = some prepared)
    : defaultPath.isPrefixOf prepared.path = true
      ∧ (∃ text, parsers.hostParse text = some prepared.domain)
      ∧ prepared.cookie.domainAttribute
        = if prepared.hostOnly then none else some (parsers.hostToString prepared.domain) := by
  simp only [prepare, Option.bind_eq_bind, Option.bind_eq_some_iff] at prepares
  obtain ⟨_, _, host, hosted, ⟨domain, canonical⟩, located, result⟩ := prepares
  obtain ⟨text, -, parsed⟩ := hosted
  have kept : (scopeExpiry canonical now).2.domainAttribute = canonical.domainAttribute := by
    unfold scopeExpiry
    split
    · split <;> rfl
    · rfl
  cases result
  refine ⟨?_, ?_, ?_⟩
  · show defaultPath.isPrefixOf (((scopeExpiry canonical now).2.path.filter
      (fun path => defaultPath.isPrefixOf path)).getD (normalizePath uri.path)) = true
    cases chosen : (scopeExpiry canonical now).2.path.filter
        (fun path => defaultPath.isPrefixOf path) with
    | none => exact normalizePath_absolute uri.path
    | some path => exact (Option.filter_eq_some_iff.mp chosen).2
  · rcases scopeDomain_cases located with ⟨-, rfl, -⟩ | ⟨rawDomain, -, named, -⟩
    · exact ⟨_, parsed⟩
    · exact ⟨_, named⟩
  · show (scopeExpiry canonical now).2.domainAttribute = _
    rw [kept]
    rcases scopeDomain_cases located with ⟨absent, -, rfl⟩ | ⟨rawDomain, present, -, rfl⟩
    · simp only [absent, Option.isNone_none, if_true]
      exact Option.map_eq_none_iff.mp absent
    · simp [present]

-----------------------------------------------------------------------------------------
-- The invariant
-----------------------------------------------------------------------------------------

/-- An entry as it was stored at its scope: its `Domain` is the text of the domain. -/
structure CookieEntry.Kept (parsers : Parsers) (entry : CookieEntry) (scope : Scope) : Prop where
  name : entry.cookie.name = scope.name
  path : entry.cookie.path = some scope.path
  absolute : defaultPath.isPrefixOf scope.path = true
  text : entry.cookie.domainAttribute
    = if scope.hostOnly then none else some (parsers.hostToString scope.domain)
  parsed : ∃ text, parsers.hostParse text = some scope.domain
  maxAge : entry.cookie.maxAge = none

/-- What an entry says of itself agrees with its scope. -/
structure CookieEntry.Represents (parsers : Parsers) (entry : CookieEntry) (scope : Scope)
    : Prop where
  name : entry.cookie.name = scope.name
  path : entry.cookie.path = some scope.path
  absolute : defaultPath.isPrefixOf scope.path = true
  hostOnly : entry.cookie.domain = none ↔ scope.hostOnly = true
  domain : ∀ text, entry.cookie.domain = some text →
    canonicalHost parsers.hostParse text = some scope.domain
  maxAge : entry.cookie.maxAge = none

/-- The scope can be read off the entry but for the domain and the path. -/
theorem CookieEntry.Kept.scope {parsers : Parsers} {entry : CookieEntry} {scope : Scope}
    (kept : entry.Kept parsers scope)
    : (⟨scope.domain, scope.path, entry.cookie.domain.isNone, entry.cookie.name⟩ : Scope)
      = scope := by
  have hostOnly : entry.cookie.domain.isNone = scope.hostOnly := by
    rw [RawCookie.domain, kept.text]
    cases scope.hostOnly <;> rfl
  rw [hostOnly, kept.name]

/-- The `Domain` that is read of an entry, unless it loses a dot -/
theorem CookieEntry.Kept.domain {parsers : Parsers} {entry : CookieEntry} {scope : Scope}
    (kept : entry.Kept parsers scope)
    (undotted : scope.hostOnly = false → ¬Dotted parsers scope.domain)
    : entry.cookie.domain
      = if scope.hostOnly then none else some (parsers.hostToString scope.domain) := by
  rw [RawCookie.domain, kept.text]
  split
  · rfl
  · next shared =>
      rw [Option.map_some, stripDot_of_head (undotted (Bool.eq_false_iff.mpr shared))]

theorem CookieEntry.Kept.represents {parsers : Parsers} (reparses : parsers.Reparses)
    {entry : CookieEntry} {scope : Scope} (kept : entry.Kept parsers scope)
    (undotted : scope.hostOnly = false → ¬Dotted parsers scope.domain)
    : entry.Represents parsers scope := by
  refine ⟨kept.name, kept.path, kept.absolute, ?_, fun text read => ?_, kept.maxAge⟩
  · rw [kept.domain undotted]
    cases scope.hostOnly <;> simp
  · rw [kept.domain undotted] at read
    split at read
    · cases read
    · next shared =>
        obtain ⟨_, parsed⟩ := kept.parsed
        rw [← Option.some.inj read]
        exact reparses.canonicalHost parsed (undotted (Bool.eq_false_iff.mpr shared))

namespace Store

/-- No inner map is empty. -/
def Full (jar : Store) : Prop :=
  SparseMap.Full (fun pathMap => pathMap.entries.isEmpty)
    (fun pathMap : PathMap => SparseMap.Full CookieScopeMap.isEmpty (fun _ => True) pathMap)
    jar.cookies

/-- The creation indexes are distinct and below the next one. -/
structure Numbered (jar : Store) : Prop where
  below : ∀ scope entry, jar.find scope = some entry → entry.creationIndex < jar.nextCreationIndex
  distinct : ∀ scope other entry second,
    jar.find scope = some entry → jar.find other = some second →
    entry.creationIndex = second.creationIndex → scope = other

/-- The counter has not saturated. -/
def Unsaturated (jar : Store) : Prop := jar.nextCreationIndex < 2 ^ 64 - 1

/-- What holds in every jar -/
structure Sound (parsers : Parsers) (jar : Store) : Prop where
  entries : ∀ scope entry, jar.find scope = some entry → entry.Kept parsers scope
  full : jar.Full
  numbered : jar.Unsaturated → jar.Numbered

/-- The representation invariant -/
structure Represented (parsers : Parsers) (jar : Store) : Prop where
  entries : ∀ scope entry, jar.find scope = some entry → entry.Represents parsers scope
  full : jar.Full
  numbered : jar.Unsaturated → jar.Numbered

/-- No `Domain` cookie is stored under a domain that begins with a dot. -/
def Undotted (parsers : Parsers) (jar : Store) : Prop :=
  ∀ scope entry, jar.find scope = some entry → scope.hostOnly = false →
    ¬Dotted parsers scope.domain

theorem Sound.represented {parsers : Parsers} {jar : Store} (sound : jar.Sound parsers)
    (reparses : parsers.Reparses) (undotted : jar.Undotted parsers)
    : jar.Represented parsers where
  entries scope entry found :=
    (sound.entries scope entry found).represents reparses (undotted scope entry found)
  full := sound.full
  numbered := sound.numbered

theorem full_write {jar : Store} (full : jar.Full) (domain : Host) (path name : Str)
    (hostOnly : Bool) (entry : CookieEntry) (next : Nat)
    : (Store.mk (write jar.cookies domain path name hostOnly entry) next).Full := by
  rw [Full, write_eq]
  exact SparseMap.Full.update full (SparseMap.full_empty _ _)
    (fun pathMap inner => inner.update trivial (fun _ _ => trivial) path) domain

theorem full_removeStoredCookieInner {jar : Store} (full : jar.Full) (domain : Host)
    (path name : Str) (hostOnly : Option Bool)
    : (jar.removeStoredCookieInner domain path name hostOnly).Full := by
  rw [removeStoredCookieInner_eq, Full]
  refine SparseMap.Full.update full (SparseMap.full_empty _ _) (fun pathMap inner => ?_) domain
  rw [removeFrom_eq]
  exact inner.update trivial (fun _ _ => trivial) path

/-- The index that a stored cookie gets, and the one that is next then -/
def chosenIndex (jar : Store) (domain : Host) (path : Str) (cookie : RawCookie) : Nat × Nat :=
  match jar.get domain path cookie.name cookie.domain.isNone with
  | some entry =>
      if entry.cookie.value != cookie.value
      then (jar.nextCreationIndex, nextIndex jar.nextCreationIndex)
      else (entry.creationIndex, jar.nextCreationIndex)
  | none => (jar.nextCreationIndex, nextIndex jar.nextCreationIndex)

/-- Storing a cookie keeps the index of one of the same value, or takes the next one. -/
theorem insertStoredCookie_spec (jar : Store) (domain : Host) (path : Str) (cookie : RawCookie)
    : let scope : Scope := ⟨domain, path, cookie.domain.isNone, cookie.name⟩
      let next := jar.insertStoredCookie domain path cookie
      ∃ index,
        (∀ other, next.find other
          = if other = scope then some { cookie, creationIndex := index } else jar.find other)
        ∧ ((next.nextCreationIndex = jar.nextCreationIndex
            ∧ ∃ entry, jar.find scope = some entry ∧ entry.creationIndex = index)
          ∨ index = jar.nextCreationIndex
            ∧ next.nextCreationIndex = nextIndex jar.nextCreationIndex) := by
  intro scope next
  have counted
      : ((jar.chosenIndex domain path cookie).2 = jar.nextCreationIndex
          ∧ ∃ entry, jar.find scope = some entry
              ∧ entry.creationIndex = (jar.chosenIndex domain path cookie).1)
        ∨ (jar.chosenIndex domain path cookie).1 = jar.nextCreationIndex
          ∧ (jar.chosenIndex domain path cookie).2 = nextIndex jar.nextCreationIndex := by
    unfold chosenIndex
    cases found : jar.get domain path cookie.name cookie.domain.isNone with
    | none => exact .inr ⟨rfl, rfl⟩
    | some entry =>
        by_cases differs : entry.cookie.value != cookie.value
        · exact .inr (by simp only [if_pos differs, and_self])
        · exact .inl (by simpa only [if_neg differs, true_and] using ⟨entry, found, rfl⟩)
  exact ⟨_, fun other => jar.get_write .., counted⟩

/-- Entries that keep their numbers stay numbered. -/
theorem Numbered.of_find {jar next : Store} (numbered : jar.Numbered)
    (counted : next.nextCreationIndex = jar.nextCreationIndex)
    (kept
      : ∀ scope entry, next.find scope = some entry →
          ∃ old, jar.find scope = some old ∧ old.creationIndex = entry.creationIndex)
    : next.Numbered := by
  constructor
  · intro scope entry found
    obtain ⟨old, stored, same⟩ := kept scope entry found
    rw [counted, ← same]
    exact numbered.below scope old stored
  · intro scope other entry second found foundSecond equal
    obtain ⟨old, stored, same⟩ := kept scope entry found
    obtain ⟨older, storedSecond, sameSecond⟩ := kept other second foundSecond
    exact numbered.distinct scope other old older stored storedSecond
      (same.trans (equal.trans sameSecond.symm))

/-- Storing a cookie keeps the numbers distinct, unless the counter saturates. -/
theorem numbered_insertStoredCookie {jar : Store} (numbered : jar.Unsaturated → jar.Numbered)
    (domain : Host) (path : Str) (cookie : RawCookie)
    (unsaturated : (jar.insertStoredCookie domain path cookie).Unsaturated)
    : (jar.insertStoredCookie domain path cookie).Numbered := by
  obtain ⟨index, written, counted⟩ := jar.insertStoredCookie_spec domain path cookie
  generalize jar.insertStoredCookie domain path cookie = next at *
  rcases counted with ⟨same, entry, stored, rfl⟩ | ⟨rfl, counted⟩
  · rw [Unsaturated, same] at unsaturated
    refine (numbered unsaturated).of_find same (fun scope found read => ?_)
    rw [written] at read
    split at read
    · next here =>
        cases read
        exact ⟨entry, here ▸ stored, rfl⟩
    · exact ⟨found, read, rfl⟩
  · have counted : next.nextCreationIndex = jar.nextCreationIndex + 1 := by
      rw [Unsaturated] at unsaturated
      rw [nextIndex] at counted
      omega
    obtain ⟨below, distinct⟩ := numbered (by rw [Unsaturated] at unsaturated ⊢; omega)
    constructor
    · intro scope entry found
      rw [written] at found
      rw [counted]
      split at found
      · cases found
        exact Nat.lt_succ_self _
      · exact Nat.lt_succ_of_lt (below scope entry found)
    · intro scope other entry second found foundSecond equal
      rw [written] at found foundSecond
      split at found
      · next here =>
          cases found
          split at foundSecond
          · next there => exact here.trans there.symm
          · exact absurd equal.symm (Nat.ne_of_lt (below other second foundSecond))
      · split at foundSecond
        · cases foundSecond
          exact absurd equal (Nat.ne_of_lt (below scope entry found))
        · exact distinct scope other entry second found foundSecond equal

/-- Removal keeps the entries that are left. -/
theorem find_removed {jar : Store} {domain : Host} {path name : Str} {hostOnly : Option Bool}
    {scope : Scope} {entry : CookieEntry}
    (found : (jar.removeStoredCookieInner domain path name hostOnly).find scope = some entry)
    : jar.find scope = some entry := by
  rw [find_removeStoredCookieInner] at found
  split at found
  · cases found
  · exact found

theorem removeStoredCookieInner_next (jar : Store) (domain : Host) (path name : Str)
    (hostOnly : Option Bool)
    : (jar.removeStoredCookieInner domain path name hostOnly).nextCreationIndex
      = jar.nextCreationIndex := by
  rw [removeStoredCookieInner_eq]

theorem Sound.removeStoredCookieInner {parsers : Parsers} {jar : Store}
    (sound : jar.Sound parsers) (domain : Host) (path name : Str) (hostOnly : Option Bool)
    : (jar.removeStoredCookieInner domain path name hostOnly).Sound parsers where
  entries scope entry found := sound.entries scope entry (find_removed found)
  full := full_removeStoredCookieInner sound.full domain path name hostOnly
  numbered unsaturated := by
    have same := jar.removeStoredCookieInner_next domain path name hostOnly
    rw [Unsaturated, same] at unsaturated
    exact (sound.numbered unsaturated).of_find same
      (fun scope entry found => ⟨entry, find_removed found, rfl⟩)

end Store

-----------------------------------------------------------------------------------------
-- Runs
-----------------------------------------------------------------------------------------

namespace Jar

variable {parsers : Parsers}

/-- A cookie that is stored is kept at its scope. -/
theorem kept_persisted {cookie : RawCookie} {uri : Uri} {now : Time} {prepared : Prepared}
    (prepares : prepare parsers cookie uri now = some prepared)
    (fresh : prepared.expired = false) (index : Nat)
    : ({ cookie := prepared.persisted, creationIndex := index } : CookieEntry).Kept parsers
        prepared.scope := by
  obtain ⟨absolute, parsed, text⟩ := prepare_stores prepares
  exact ⟨rfl, rfl, absolute, text, parsed, (prepare_spec prepares).2.2.2 fresh⟩

/-- Storing a prepared cookie writes at its scope. -/
theorem find_persisted {cookie : RawCookie} {uri : Uri} {now : Time} {prepared : Prepared}
    (prepares : prepare parsers cookie uri now = some prepared) (jar : Store)
    : let next := jar.insertStoredCookie prepared.domain prepared.path prepared.persisted
      ∃ index,
        (∀ other, next.find other
          = if other = prepared.scope then some { cookie := prepared.persisted
                                                  creationIndex := index }
            else jar.find other)
        ∧ ((next.nextCreationIndex = jar.nextCreationIndex
            ∧ ∃ entry, jar.find prepared.scope = some entry ∧ entry.creationIndex = index)
          ∨ index = jar.nextCreationIndex
            ∧ next.nextCreationIndex = Store.nextIndex jar.nextCreationIndex) := by
  have same
      : (⟨prepared.domain, prepared.path, prepared.persisted.domain.isNone
        , prepared.persisted.name⟩ : Scope)
        = prepared.scope := by
    rw [Prepared.scope, (prepare_spec prepares).2.2.1]
    rfl
  rw [← same]
  exact jar.insertStoredCookie_spec prepared.domain prepared.path prepared.persisted

/-- Adding a cookie keeps every jar sound. -/
theorem add_sound {jar : Store} (sound : jar.Sound parsers) (cookie : RawCookie) (uri : Uri)
    (now : Time)
    : (add parsers jar cookie uri now).Sound parsers := by
  have done := add_cases parsers jar cookie uri now
  generalize add parsers jar cookie uri now = next at done ⊢
  cases done with
  | ignored => exact sound
  | removed prepares permitted => exact sound.removeStoredCookieInner _ _ _ _
  | @stored prepared prepares permitted fresh =>
      refine ⟨fun scope entry found => ?_, ?_, ?_⟩
      · obtain ⟨index, written, -⟩ := find_persisted prepares jar
        rw [written] at found
        split at found
        · next here =>
            cases found
            rw [here]
            exact kept_persisted prepares fresh index
        · exact sound.entries scope entry found
      · exact Store.full_write sound.full _ _ _ _ _ _
      · exact Store.numbered_insertStoredCookie sound.numbered _ _ _

theorem sound_empty : Store.Sound parsers {} where
  entries scope entry found := by simp [Store.find, Store.get] at found
  full := SparseMap.full_empty _ _
  numbered _ :=
    { below := fun scope entry found => by simp [Store.find, Store.get] at found
      distinct := fun scope other entry second found => by
        simp [Store.find, Store.get] at found }

/-- Every reachable jar is sound. -/
theorem run_sound {ops : List Op} {jar : Store} (run : Run (Step parsers) {} ops jar)
    : jar.Sound parsers := by
  refine run.invariant (fun {_ jar op next} _ sound step => ?_) sound_empty
  cases step
  cases op with
  | add cookie uri now => exact add_sound sound cookie uri now
  | setCookies cookieHeaders uri =>
      exact setCookies_preserves (Store.Sound parsers)
        (fun _ cookie now earlier => add_sound earlier cookie uri now) sound
  | remove name uri =>
      show (remove parsers jar name uri).Sound parsers
      unfold remove
      split
      · exact sound
      · split
        · exact sound
        · exact sound.removeStoredCookieInner _ _ _ _
  | clear => exact sound_empty

-----------------------------------------------------------------------------------------
-- Domains that begin with a dot
-----------------------------------------------------------------------------------------

/-- Adding the cookie stores it, with its `Domain`, under a domain that begins with a dot. -/
def StoresDotted (parsers : Parsers) (jar : Store) (cookie : RawCookie) (uri : Uri) (now : Time)
    : Prop :=
  ∃ prepared, prepare parsers cookie uri now = some prepared ∧ prepared.Permitted jar now
    ∧ prepared.expired = false ∧ prepared.hostOnly = false ∧ Dotted parsers prepared.domain

/-- One of the cookies of a response is stored so when its turn comes. -/
def HeaderStoresDotted (parsers : Parsers) (uri : Uri)
    : Store → List (HeaderValue × Time) → Prop
  | _, [] => False
  | jar, header :: rest =>
      match parsers.cookieParse header.1.bytes with
      | none => HeaderStoresDotted parsers uri jar rest
      | some cookie =>
          StoresDotted parsers jar cookie uri header.2
          ∨ HeaderStoresDotted parsers uri (add parsers jar cookie uri header.2) rest

/-- The operation stores a `Domain` cookie under a domain that begins with a dot. -/
def Op.StoresDotted (parsers : Parsers) (jar : Store) : Op → Prop
  | .add cookie uri now => Jar.StoresDotted parsers jar cookie uri now
  | .setCookies cookieHeaders uri => HeaderStoresDotted parsers uri jar cookieHeaders
  | .remove _ _ => False
  | .clear => False

theorem add_undotted {jar : Store} (undotted : jar.Undotted parsers) {cookie : RawCookie}
    {uri : Uri} {now : Time} (allowed : ¬StoresDotted parsers jar cookie uri now)
    : (add parsers jar cookie uri now).Undotted parsers := by
  have done := add_cases parsers jar cookie uri now
  generalize add parsers jar cookie uri now = next at done ⊢
  cases done with
  | ignored => exact undotted
  | removed prepares permitted =>
      exact fun scope entry found => undotted scope entry (Store.find_removed found)
  | @stored prepared prepares permitted fresh =>
      obtain ⟨index, written, -⟩ := find_persisted prepares jar
      intro scope entry found shared dotted
      rw [written] at found
      split at found
      · next here =>
          subst here
          exact allowed ⟨prepared, prepares, permitted, fresh, shared, dotted⟩
      · exact undotted scope entry found shared dotted

/-- So do the cookies of a response, by induction on its headers. -/
theorem setCookies_undotted {uri : Uri} {cookieHeaders : List (HeaderValue × Time)}
    {jar : Store} (undotted : jar.Undotted parsers)
    (allowed : ¬HeaderStoresDotted parsers uri jar cookieHeaders)
    : (setCookies parsers jar cookieHeaders uri).Undotted parsers := by
  unfold setCookies
  induction cookieHeaders generalizing jar with
  | nil => exact undotted
  | cons header rest ih =>
      rw [List.foldl_cons]
      unfold HeaderStoresDotted at allowed
      cases parsed : parsers.cookieParse header.1.bytes with
      | none => exact ih undotted (by simpa [parsed] using allowed)
      | some cookie =>
          simp only [parsed, not_or] at allowed
          exact ih (add_undotted undotted allowed.1) allowed.2

theorem undotted_empty : Store.Undotted parsers {} := by
  intro scope entry found
  simp [Store.find, Store.get] at found

theorem step_undotted {jar next : Store} {op : Op} (undotted : jar.Undotted parsers)
    (allowed : ¬op.StoresDotted parsers jar) (step : Step parsers jar op next)
    : next.Undotted parsers := by
  cases step
  cases op with
  | add cookie uri now => exact add_undotted undotted allowed
  | setCookies cookieHeaders uri => exact setCookies_undotted undotted allowed
  | remove name uri =>
      intro scope entry found
      rcases find_remove parsers jar name uri scope with same | gone
      · exact undotted scope entry (same ▸ found)
      · cases gone.symm.trans found
  | clear => exact undotted_empty

end Jar

/-- In every jar reached without storing a `Domain` cookie under a domain that begins with a dot,
each entry agrees with its scope, no inner map is empty, and the creation indexes are distinct and
below the next one until that saturates.
-/
theorem representation_kept {parsers : Parsers} (reparses : parsers.Reparses)
    {ops : List Jar.Op} {jar : Store}
    (run
      : Run (Guarded (fun jar op => ¬op.StoresDotted parsers jar) (Jar.Step parsers)) {} ops jar)
    : jar.Represented parsers := by
  have sound := Jar.run_sound (run.mono (fun guarded => guarded.2))
  have undotted : jar.Undotted parsers :=
    run.invariant (fun _ before step => Jar.step_undotted before step.1 step.2)
      Jar.undotted_empty
  exact sound.represented reparses undotted

/-- A cookie for the domain of its origin, which may begin with a dot. -/
def sharedCookie (domain : String) : RawCookie :=
  { name := ascii "k", value := ascii "v", domainAttribute := some (ascii domain) }

theorem dns_reparses : Parsers.dns.Reparses := by
  rintro text _ ⟨⟩
  rfl

theorem representation_kept_shared
    : ((Jar.apply .dns {} (.add (sharedCookie "a.test") (page .https "a.test" "/") 0)).Represented
        .dns) := by
  refine representation_kept dns_reparses (.snoc .nil ⟨?_, rfl⟩)
  rintro ⟨prepared, prepares, -, -, -, dotted⟩
  have domain
      : (Jar.prepare .dns (sharedCookie "a.test") (page .https "a.test" "/") 0).map Prepared.domain
        = some (.domain (ascii "a.test")) := by decide
  rw [prepares] at domain
  rw [Option.some.inj domain] at dotted
  exact absurd dotted (by unfold Dotted; decide)

/-- A cookie that is read back as one for another domain -/
theorem representation_broken
    : ∃ jar, Run (Jar.Step .dns) {} [.add (sharedCookie "...a.test") (page .https "..a.test" "/") 0]
        jar
      ∧ ¬jar.Represented .dns := by
  refine ⟨_, .snoc .nil rfl, fun represented => ?_⟩
  have stored
      : (Jar.apply .dns {} (.add (sharedCookie "...a.test") (page .https "..a.test" "/") 0)).find
          ⟨.domain (ascii ".a.test"), ascii "/", false, ascii "k"⟩
        = some
          { cookie :=
              { sharedCookie ".a.test" with path := some (ascii "/") }
            creationIndex := 0 } := by decide
  have same := (represented.entries _ _ stored).domain (ascii "a.test") rfl
  exact absurd same (by decide)

end Tlsurl.Cookie
