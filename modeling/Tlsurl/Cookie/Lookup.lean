import Tlsurl.Cookie.Jar

/-! The store as a flat map from scopes to entries.
Every result about jars goes through `Store.find` and the cases of one operation; none of them
looks into the nested maps.
-/

namespace Tlsurl.Cookie

open Library

/-- The identity of a stored cookie. -/
structure Scope where
  domain : Host
  path : Str
  hostOnly : Bool
  name : Str
  deriving DecidableEq

namespace CookieScopeMap

theorem get_insert (self : CookieScopeMap) (name other : Str) (hostOnly flag : Bool)
    (entry : CookieEntry)
    : (self.insert name hostOnly entry).get other flag
      = if other = name ∧ flag = hostOnly then some entry else self.get other flag := by
  by_cases same : other = name
  · subst same
    cases hostOnly <;> cases flag <;> simp [get, insert]
  · cases hostOnly <;> cases flag <;> simp [get, insert, same, AList.lookup_insert_ne same]

theorem get_removeSelected (self : CookieScopeMap) (name other : Str)
    (hostOnly : Option Bool) (flag : Bool)
    : (self.removeSelected name hostOnly).get other flag
      = if other = name ∧ (∀ chosen ∈ hostOnly, flag = chosen) then none
        else self.get other flag := by
  by_cases same : other = name
  · subst same
    rcases hostOnly with _ | _ | _ <;> cases flag <;>
      simp [get, removeSelected, remove, removeAll]
  · rcases hostOnly with _ | _ | _ <;> cases flag <;>
      simp [get, removeSelected, remove, removeAll, same, AList.lookup_erase_ne same]

/-- Nothing is read from empty scopes. -/
theorem get_of_isEmpty {self : CookieScopeMap} (empty : self.isEmpty = true) (name : Str)
    (flag : Bool)
    : self.get name flag = none := by
  simp only [isEmpty, Bool.and_eq_true, List.isEmpty_iff] at empty
  cases flag <;> simp [get, AList.lookup, empty.1, empty.2]

end CookieScopeMap

namespace Store

/-- The entry stored at a scope. -/
def find (self : Store) (scope : Scope) : Option CookieEntry :=
  self.get scope.domain scope.path scope.name scope.hostOnly

/-- A write is read back at its own scope only. -/
theorem get_write (self : Store) (domain : Host) (path name : Str) (hostOnly : Bool)
    (entry : CookieEntry) (next : Nat) (scope : Scope)
    : (Store.mk (write self.cookies domain path name hostOnly entry) next).find scope
      = if scope = ⟨domain, path, hostOnly, name⟩ then some entry else self.find scope := by
  obtain ⟨otherDomain, otherPath, flag, other⟩ := scope
  simp only [find, get, write, Scope.mk.injEq]
  by_cases sameDomain : otherDomain = domain
  · subst sameDomain
    rw [AList.lookup_insert, Option.bind_some]
    by_cases samePath : otherPath = path
    · subst samePath
      rw [AList.lookup_insert, Option.bind_some, CookieScopeMap.get_insert]
      cases self.cookies.lookup otherDomain with
      | none => simp [and_comm, CookieScopeMap.get]
      | some pathMap =>
          cases found : pathMap.lookup otherPath <;>
            simp [found, and_comm, CookieScopeMap.get]
    · rw [AList.lookup_insert_ne samePath]
      cases self.cookies.lookup otherDomain <;> simp [samePath]
  · simp [sameDomain, AList.lookup_insert_ne sameDomain]

/-- The entry that storing a cookie leaves at its scope. -/
theorem find_insertStoredCookie (self : Store) (domain : Host) (path : Str) (cookie : RawCookie)
    : ∃ index, ∀ scope, (self.insertStoredCookie domain path cookie).find scope
      = if scope = ⟨domain, path, cookie.domain.isNone, cookie.name⟩
        then some { cookie, creationIndex := index }
        else self.find scope := by
  exact ⟨_, fun scope => self.get_write ..⟩

/-- Removing from the paths of a domain empties the named scopes only. -/
theorem get_removeFrom (pathMap : PathMap) (path name : Str) (hostOnly : Option Bool)
    (otherPath other : Str) (flag : Bool)
    : ((removeFrom pathMap path name hostOnly).lookup otherPath).bind
        (fun cookieMap => cookieMap.get other flag)
      = if otherPath = path ∧ other = name ∧ (∀ chosen ∈ hostOnly, flag = chosen) then none
        else (pathMap.lookup otherPath).bind (fun cookieMap => cookieMap.get other flag) := by
  unfold removeFrom
  split
  · next absent =>
      by_cases samePath : otherPath = path
      · subst samePath
        simp [absent]
      · simp [samePath]
  · next cookieMap present =>
      rw [AssocMap.lookup_assign]
      by_cases samePath : otherPath = path
      · subst samePath
        rw [if_pos rfl, present, Option.bind_some]
        have removed := cookieMap.get_removeSelected name other hostOnly flag
        simp only [true_and, ← removed]
        split
        · next empty => exact (CookieScopeMap.get_of_isEmpty empty other flag).symm
        · rfl
      · simp [samePath]

/-- Removal empties the named scopes only. -/
theorem find_removeStoredCookieInner (self : Store) (domain : Host) (path name : Str)
    (hostOnly : Option Bool) (scope : Scope)
    : (self.removeStoredCookieInner domain path name hostOnly).find scope
      = if scope.domain = domain ∧ scope.path = path ∧ scope.name = name
          ∧ (∀ flag ∈ hostOnly, scope.hostOnly = flag)
        then none else self.find scope := by
  unfold removeStoredCookieInner
  split
  · next absent =>
      by_cases sameDomain : scope.domain = domain
      · subst sameDomain
        simp [find, get, absent]
      · simp [sameDomain]
  · next pathMap present =>
      simp only [find, get, AssocMap.lookup_assign]
      by_cases sameDomain : scope.domain = domain
      · have removed := get_removeFrom pathMap path name hostOnly scope.path scope.name
          scope.hostOnly
        rw [if_pos sameDomain, sameDomain, present]
        simp only [true_and, Option.bind_some, ← removed]
        split
        · next empty =>
            rw [List.isEmpty_iff] at empty
            simp [AList.lookup, empty]
        · rfl
      · simp [sameDomain]

/-- A stored entry is reached by iterating over the nested maps. -/
theorem mem_of_find {self : Store} {scope : Scope} {entry : CookieEntry}
    (found : self.find scope = some entry)
    : ∃ pathMap cookieMap,
        (⟨scope.domain, pathMap⟩ : Σ _ : Host, PathMap) ∈ self.cookies.entries
        ∧ (⟨scope.path, cookieMap⟩ : Σ _ : Str, CookieScopeMap) ∈ pathMap.entries
        ∧ cookieMap.get scope.name scope.hostOnly = some entry := by
  obtain ⟨cookieMap, located, read⟩ := Option.bind_eq_some_iff.mp found
  obtain ⟨pathMap, domain, path⟩ := Option.bind_eq_some_iff.mp located
  exact ⟨pathMap, cookieMap, AList.mem_lookup_iff.mp domain, AList.mem_lookup_iff.mp path, read⟩

/-- A stored, unexpired secure cookie of the name is overlaid by one whose domain is
comparable to its own and whose path matches its own.
-/
theorem wouldOverlay_of_find {self : Store} {scope : Scope} {entry : CookieEntry}
    {domain : Host} {path : Str} {now : Time} (found : self.find scope = some entry)
    (secure : entry.cookie.secure = some true)
    (unexpired : cookieIsExpired entry.cookie now = false)
    (comparable
      : domainMatch scope.domain domain = true ∨ domainMatch domain scope.domain = true)
    (covers : pathMatch path scope.path = true)
    : self.wouldOverlaySecureCookie scope.name domain path now = true := by
  obtain ⟨pathMap, cookieMap, domainMember, pathMember, read⟩ := mem_of_find found
  have named : entry ∈ cookieMap.entries scope.name := by
    unfold CookieScopeMap.get at read
    unfold CookieScopeMap.entries
    split at read <;> simp [read]
  refine List.any_eq_true.mpr ⟨_, domainMember, ?_⟩
  refine Bool.and_eq_true_iff.mpr ⟨by simpa using comparable, ?_⟩
  refine List.any_eq_true.mpr ⟨_, pathMember, ?_⟩
  refine Bool.and_eq_true_iff.mpr ⟨covers, ?_⟩
  exact List.any_eq_true.mpr ⟨entry, named, by simp [secure, unexpired]⟩

/-- Only such a cookie is overlaid. -/
theorem wouldOverlay_iff {self : Store} {name path : Str} {domain : Host} {now : Time}
    : self.wouldOverlaySecureCookie name domain path now = true
      ↔ ∃ scope entry,
          scope.name = name ∧ self.find scope = some entry
          ∧ entry.cookie.secure = some true ∧ cookieIsExpired entry.cookie now = false
          ∧ (domainMatch scope.domain domain = true ∨ domainMatch domain scope.domain = true)
          ∧ pathMatch path scope.path = true := by
  constructor
  · intro overlays
    obtain ⟨⟨stored, pathMap⟩, domainMember, checked⟩ := List.any_eq_true.mp overlays
    obtain ⟨comparable, overlays⟩ := Bool.and_eq_true_iff.mp checked
    obtain ⟨⟨storedPath, cookieMap⟩, pathMember, checked⟩ := List.any_eq_true.mp overlays
    obtain ⟨covers, overlays⟩ := Bool.and_eq_true_iff.mp checked
    obtain ⟨entry, named, checked⟩ := List.any_eq_true.mp overlays
    have located : self.cookies.lookup stored = some pathMap :=
      AList.mem_lookup_iff.mpr domainMember
    have placed : pathMap.lookup storedPath = some cookieMap := AList.mem_lookup_iff.mpr pathMember
    have read : ∃ hostOnly, cookieMap.get name hostOnly = some entry := by
      rcases List.mem_append.mp named with hostOnly | shared
      · exact ⟨true, by simpa [CookieScopeMap.get] using hostOnly⟩
      · exact ⟨false, by simpa [CookieScopeMap.get] using shared⟩
    obtain ⟨hostOnly, read⟩ := read
    simp only [Bool.and_eq_true, beq_iff_eq, Bool.not_eq_true'] at checked
    refine ⟨⟨stored, storedPath, hostOnly, name⟩, entry, rfl, ?_, checked.1, checked.2,
      by simpa using comparable, covers⟩
    simp only [find, get, located, placed, Option.bind_some, read]
  · rintro ⟨scope, entry, rfl, found, secure, unexpired, comparable, covers⟩
    exact wouldOverlay_of_find found secure unexpired comparable covers

end Store

-----------------------------------------------------------------------------------------
-- What one operation does
-----------------------------------------------------------------------------------------

namespace Prepared

/-- The scope that a prepared cookie is stored at or removed from. -/
def scope (prepared : Prepared) : Scope where
  domain := prepared.domain
  path := prepared.path
  hostOnly := prepared.hostOnly
  name := prepared.cookie.name

/-- The cookie as it is stored. -/
def persisted (prepared : Prepared) : RawCookie :=
  { prepared.cookie with path := some prepared.path }

/-- The check under the lock lets the cookie through. -/
def Permitted (prepared : Prepared) (jar : Store) (now : Time) : Prop :=
  prepared.secureOrigin = false
  → jar.wouldOverlaySecureCookie prepared.cookie.name prepared.domain prepared.path now = false

end Prepared

namespace Jar

variable {parsers : Parsers} {jar next : Store} {cookie : RawCookie} {uri : Uri} {now : Time}
  {prepared : Prepared}

/-- A cookie without a `Domain` stays with the host, and one with a `Domain` gets its text. -/
theorem scopeDomain_cases {host domain : Host} {canonical : RawCookie}
    (located : scopeDomain parsers cookie host = some (domain, canonical))
    : cookie.domain = none ∧ domain = host ∧ canonical = cookie
      ∨ ∃ rawDomain, cookie.domain = some rawDomain
          ∧ canonicalHost parsers.hostParse rawDomain = some domain
          ∧ canonical
            = { cookie with domainAttribute := some (parsers.hostToString domain) } := by
  unfold scopeDomain at located
  split at located
  · next absent =>
      cases located
      exact .inl ⟨absent, rfl, rfl⟩
  · next rawDomain present =>
      split at located
      · cases located
      · next parsed =>
          split at located
          · cases located
          · cases located
            exact .inr ⟨rawDomain, present, parsed, rfl⟩

/-- Canonicalising the domain keeps the name and whether there is a `Domain`. -/
theorem scopeDomain_spec {host domain : Host} {canonical : RawCookie}
    (located : scopeDomain parsers cookie host = some (domain, canonical))
    : canonical.name = cookie.name ∧ canonical.domain.isNone = cookie.domain.isNone := by
  rcases scopeDomain_cases located with ⟨-, -, rfl⟩ | ⟨rawDomain, present, -, rfl⟩
  · exact ⟨rfl, rfl⟩
  · exact ⟨rfl, by rw [present]; rfl⟩

/-- Resolving the expiry keeps the name and the `Domain`, and clears the `Max-Age` of a cookie
that is not expired.
-/
theorem scopeExpiry_spec (cookie : RawCookie) (now : Time)
    : (scopeExpiry cookie now).2.name = cookie.name
      ∧ (scopeExpiry cookie now).2.domain = cookie.domain
      ∧ ((scopeExpiry cookie now).1 = false → (scopeExpiry cookie now).2.maxAge = none) := by
  unfold scopeExpiry
  split
  · split
    · exact ⟨rfl, rfl, fun fresh => by cases fresh⟩
    · exact ⟨rfl, rfl, fun _ => rfl⟩
  · next absent => exact ⟨rfl, rfl, fun _ => absent⟩

/-- Preparing keeps the name, agrees with the origin and the `Domain` attribute, and leaves no
`Max-Age` on a cookie that is not expired.
-/
theorem prepare_spec (prepares : prepare parsers cookie uri now = some prepared)
    : prepared.secureOrigin = uri.isHttps
      ∧ prepared.cookie.name = cookie.name
      ∧ prepared.hostOnly = prepared.cookie.domain.isNone
      ∧ (prepared.expired = false → prepared.cookie.maxAge = none) := by
  simp only [prepare, Option.bind_eq_bind, Option.bind_eq_some_iff] at prepares
  obtain ⟨_, _, host, _, ⟨domain, canonical⟩, located, result⟩ := prepares
  obtain ⟨name, hosted⟩ := scopeDomain_spec located
  obtain ⟨kept, domain, cleared⟩ := scopeExpiry_spec canonical now
  cases result
  exact ⟨rfl, kept.trans name, by rw [domain, hosted], cleared⟩

/-- Everything that `Jar::add` can do: ignore the cookie, remove the one it replaces because
it is expired, or store it.
-/
inductive AddCase (parsers : Parsers) (jar : Store) (cookie : RawCookie) (uri : Uri)
    (now : Time)
    : Store → Prop
  | ignored : AddCase parsers jar cookie uri now jar
  | removed {prepared : Prepared} (prepares : prepare parsers cookie uri now = some prepared)
    (permitted : prepared.Permitted jar now)
    : AddCase parsers jar cookie uri now
        (jar.removeStoredCookie prepared.domain prepared.path prepared.cookie.name
          prepared.hostOnly)
  | stored {prepared : Prepared} (prepares : prepare parsers cookie uri now = some prepared)
    (permitted : prepared.Permitted jar now) (fresh : prepared.expired = false)
    : AddCase parsers jar cookie uri now
        (jar.insertStoredCookie prepared.domain prepared.path prepared.persisted)

theorem add_cases (parsers : Parsers) (jar : Store) (cookie : RawCookie) (uri : Uri) (now : Time)
    : AddCase parsers jar cookie uri now (add parsers jar cookie uri now) := by
  unfold add
  split
  · exact .ignored
  · next prepared ready =>
      obtain ⟨absolute, accepted, prepares⟩ := Option.bind_eq_some_iff.mp ready
      cases (Uri.intoUri_eq_some.mp accepted).1
      simp only [store]
      split
      · exact .ignored
      · next lets =>
          have permitted : prepared.Permitted jar now := by
            intro insecure
            simpa [insecure] using lets
          split
          · exact .removed prepares permitted
          · next fresh => exact .stored prepares permitted (by simpa using fresh)

/-- A property that adding a cookie from `uri` keeps is kept by a list of them, by induction
on the headers.
-/
theorem setCookies_preserves (kept : Store → Prop)
    (adds : ∀ jar cookie now, kept jar → kept (add parsers jar cookie uri now))
    {cookieHeaders : List (HeaderValue × Time)} {jar : Store} (start : kept jar)
    : kept (setCookies parsers jar cookieHeaders uri) := by
  unfold setCookies
  induction cookieHeaders generalizing jar with
  | nil => exact start
  | cons header rest ih =>
      simp only [List.foldl_cons]
      apply ih
      split
      · exact start
      · exact adds jar _ header.2 start

/-- Removing a cookie empties scopes of its name and keeps the others. -/
theorem find_remove (parsers : Parsers) (jar : Store) (name : Str) (uri : Uri) (scope : Scope)
    : (remove parsers jar name uri).find scope = jar.find scope
      ∨ (remove parsers jar name uri).find scope = none := by
  unfold remove
  split
  · exact Or.inl rfl
  · split
    · exact Or.inl rfl
    · rw [Store.removeStoredCookies, Store.find_removeStoredCookieInner]
      split
      · exact Or.inr rfl
      · exact Or.inl rfl

end Jar

end Tlsurl.Cookie
