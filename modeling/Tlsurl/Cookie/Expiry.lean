import Tlsurl.Cookie.Lookup
import Tlsurl.Cookie.Queries
import Tlsurl.Library.SparseMap

/-! The store without what has expired.
Purging cuts down each of the nested maps. No read looks at an expired entry, and an operation
on the purged store leaves the same unexpired entries as on the store itself.
-/

namespace Tlsurl.Cookie

open Library

/-- An expired cookie stays expired. -/
theorem cookieIsExpired_mono {cookie : RawCookie} {now later : Time} (ordered : now ≤ later)
    (expired : cookieIsExpired cookie now = true)
    : cookieIsExpired cookie later = true := by
  simp only [cookieIsExpired, Bool.or_eq_true, Option.any_eq_true] at expired ⊢
  rcases expired with dead | ⟨deadline, set, past⟩
  · exact .inl dead
  · refine .inr ⟨deadline, set, ?_⟩
    simp only [decide_eq_true_eq] at past ⊢
    exact past.trans ordered

/-- The entry, unless it has expired. -/
def CookieEntry.unexpired (now : Time) (entry : CookieEntry) : Option CookieEntry :=
  if cookieIsExpired entry.cookie now then none else some entry

/-- What is unexpired later is unexpired now. -/
theorem CookieEntry.unexpired_bind {now later : Time} (ordered : now ≤ later)
    (entry : CookieEntry)
    : (entry.unexpired now).bind (CookieEntry.unexpired later) = entry.unexpired later := by
  unfold unexpired
  split
  · next expired =>
      rw [if_pos (cookieIsExpired_mono ordered expired)]
      rfl
  · rfl

-----------------------------------------------------------------------------------------
-- The maps of one path
-----------------------------------------------------------------------------------------

namespace CookieScopeMap

/-- The scope map without its expired entries. -/
def purge (now : Time) (self : CookieScopeMap) : CookieScopeMap where
  hostOnly := AssocMap.filterMapValues (CookieEntry.unexpired now) self.hostOnly
  domain := AssocMap.filterMapValues (CookieEntry.unexpired now) self.domain

theorem get_purge (now : Time) (self : CookieScopeMap) (name : Str) (hostOnly : Bool)
    : (self.purge now).get name hostOnly
      = (self.get name hostOnly).bind (CookieEntry.unexpired now) := by
  cases hostOnly <;> simp [get, purge]

theorem values_purge (now : Time) (self : CookieScopeMap)
    : (self.purge now).values = self.values.filterMap (CookieEntry.unexpired now) := by
  simp only [values, purge, AssocMap.values_filterMapValues, List.filterMap_append]

theorem entries_purge (now : Time) (self : CookieScopeMap) (name : Str)
    : (self.purge now).entries name
      = (self.entries name).filterMap (CookieEntry.unexpired now) := by
  have each (entry : Option CookieEntry)
      : (entry.bind (CookieEntry.unexpired now)).toList
        = entry.toList.filterMap (CookieEntry.unexpired now) := by
    cases entry with
    | none => rfl
    | some entry => cases kept : entry.unexpired now <;> simp [kept]
  simp only [entries, purge, AssocMap.lookup_filterMapValues, List.filterMap_append, each]

theorem purge_purge {now later : Time} (ordered : now ≤ later) (self : CookieScopeMap)
    : (self.purge now).purge later = self.purge later := by
  have both
      : (fun entry : CookieEntry => (entry.unexpired now).bind (CookieEntry.unexpired later))
      = CookieEntry.unexpired later :=
    funext (CookieEntry.unexpired_bind ordered)
  simp only [purge, AssocMap.filterMapValues_filterMapValues, both]

/-- Purging is a way to cut scope maps down. -/
theorem pruning (now : Time) : SparseMap.Pruning CookieScopeMap.isEmpty {} (purge now) where
  empty self := by
    simp only [isEmpty, Bool.and_eq_true, List.isEmpty_iff]
    constructor
    · rintro ⟨hostOnly, domain⟩
      obtain ⟨left, right⟩ := self
      cases (AList.ext hostOnly : left = ∅)
      cases (AList.ext domain : right = ∅)
      rfl
    · rintro rfl
      exact ⟨rfl, rfl⟩
  default := rfl
  idem := purge_purge le_rfl

/-- A write does not notice a purge. -/
theorem purge_insert (now : Time) (self : CookieScopeMap) (name : Str) (hostOnly : Bool)
    (entry : CookieEntry)
    : (self.insert name hostOnly entry).purge now
      = ((self.purge now).insert name hostOnly entry).purge now := by
  have same := purge_purge (le_refl now) self
  simp only [purge, CookieScopeMap.mk.injEq] at same
  cases hostOnly <;> simp [insert, purge, AssocMap.filterMapValues_insert, same.1, same.2]

/-- A removal does not notice a purge. -/
theorem purge_removeSelected (now : Time) (self : CookieScopeMap) (name : Str)
    (hostOnly : Option Bool)
    : (self.removeSelected name hostOnly).purge now
      = ((self.purge now).removeSelected name hostOnly).purge now := by
  have same := purge_purge (le_refl now) self
  simp only [purge, CookieScopeMap.mk.injEq] at same
  rcases hostOnly with _ | _ | _ <;>
    simp [removeSelected, remove, removeAll, purge, AssocMap.filterMapValues_erase, same.1,
      same.2]

end CookieScopeMap

-----------------------------------------------------------------------------------------
-- The maps of one domain, and the store
-----------------------------------------------------------------------------------------

/-- The path map without its expired entries. -/
def PathMap.purge (now : Time) (self : PathMap) : PathMap :=
  SparseMap.prune CookieScopeMap.isEmpty (CookieScopeMap.purge now) self

theorem PathMap.pruning (now : Time)
    : SparseMap.Pruning (fun pathMap : PathMap => pathMap.entries.isEmpty) ∅ (PathMap.purge now) :=
  (CookieScopeMap.pruning now).maps

namespace Store

/-- The store without its expired entries. -/
def purge (now : Time) (self : Store) : Store :=
  { self with
    cookies := SparseMap.prune (fun pathMap => pathMap.entries.isEmpty) (PathMap.purge now)
      self.cookies }

theorem purge_purge {now later : Time} (ordered : now ≤ later) (self : Store)
    : (self.purge now).purge later = self.purge later := by
  have paths (pathMap : PathMap) : (pathMap.purge now).purge later = pathMap.purge later :=
    (CookieScopeMap.pruning later).prune_of_finer (CookieScopeMap.purge_purge ordered) pathMap
  simp only [purge, (PathMap.pruning later).prune_of_finer paths]

/-- The scope map of a path, where an absent one is empty. -/
def scopeMap (self : Store) (domain : Host) (path : Str) : CookieScopeMap :=
  (((self.cookies.lookup domain).getD ∅).lookup path).getD {}

theorem find_eq_get (self : Store) (scope : Scope)
    : self.find scope = (self.scopeMap scope.domain scope.path).get scope.name scope.hostOnly := by
  simp only [find, get, scopeMap]
  cases self.cookies.lookup scope.domain with
  | none => simp [CookieScopeMap.get]
  | some pathMap =>
      cases located : pathMap.lookup scope.path <;> simp [located, CookieScopeMap.get]

theorem scopeMap_purge (now : Time) (self : Store) (domain : Host) (path : Str)
    : (self.purge now).scopeMap domain path = (self.scopeMap domain path).purge now := by
  unfold scopeMap
  rw [← (CookieScopeMap.pruning now).getD_lookup]
  congr 2
  exact (PathMap.pruning now).getD_lookup self.cookies domain

/-- What is found after a purge is what was found, unless it has expired. -/
theorem find_purge (now : Time) (self : Store) (scope : Scope)
    : (self.purge now).find scope = (self.find scope).bind (CookieEntry.unexpired now) := by
  rw [find_eq_get, find_eq_get, scopeMap_purge, CookieScopeMap.get_purge]

/-- A write changes the paths of a domain, and the names of a path. -/
theorem write_eq (cookies : AssocMap Host PathMap) (domain : Host) (path name : Str)
    (hostOnly : Bool) (entry : CookieEntry)
    : write cookies domain path name hostOnly entry
      = SparseMap.update (fun pathMap => pathMap.entries.isEmpty) ∅
          (fun pathMap => SparseMap.update CookieScopeMap.isEmpty {}
            (fun cookieMap => cookieMap.insert name hostOnly entry) pathMap path)
          cookies domain := by
  have stored (cookieMap : CookieScopeMap)
      : (cookieMap.insert name hostOnly entry).isEmpty = false := by
    cases hostOnly <;> simp [CookieScopeMap.insert, CookieScopeMap.isEmpty]
  simp [write, SparseMap.update, unlessEmpty, stored, AssocMap.assign]

/-- A removal from a path map changes the names of a path. -/
theorem removeFrom_eq (pathMap : PathMap) (path name : Str) (hostOnly : Option Bool)
    : removeFrom pathMap path name hostOnly
      = SparseMap.update CookieScopeMap.isEmpty {}
          (fun cookieMap => cookieMap.removeSelected name hostOnly) pathMap path := by
  unfold removeFrom
  split
  · next absent =>
      refine (SparseMap.update_of_lookup absent ?_).symm
      rcases hostOnly with _ | _ | _ <;> rfl
  · next cookieMap present =>
      unfold SparseMap.update unlessEmpty
      rw [present]
      rfl

/-- So does a removal from the store, for the paths of a domain. -/
theorem removeStoredCookieInner_eq (self : Store) (domain : Host) (path name : Str)
    (hostOnly : Option Bool)
    : self.removeStoredCookieInner domain path name hostOnly
      = { self with
          cookies := SparseMap.update (fun pathMap => pathMap.entries.isEmpty) ∅
            (fun pathMap => removeFrom pathMap path name hostOnly) self.cookies domain } := by
  unfold removeStoredCookieInner
  split
  · next absent => rw [SparseMap.update_of_lookup absent rfl]
  · next pathMap present =>
      unfold SparseMap.update unlessEmpty
      rw [present]
      rfl

/-- A removal does not notice a purge. -/
theorem purge_removeStoredCookieInner (now : Time) (self : Store) (domain : Host)
    (path name : Str) (hostOnly : Option Bool)
    : (self.removeStoredCookieInner domain path name hostOnly).purge now
      = ((self.purge now).removeStoredCookieInner domain path name hostOnly).purge now := by
  have paths (pathMap : PathMap)
      : (removeFrom pathMap path name hostOnly).purge now
        = (removeFrom (pathMap.purge now) path name hostOnly).purge now := by
    simp only [removeFrom_eq]
    exact (CookieScopeMap.pruning now).prune_update_prune
      (fun cookieMap => cookieMap.purge_removeSelected now name hostOnly) pathMap path
  simp only [removeStoredCookieInner_eq, purge,
    (PathMap.pruning now).prune_update_prune paths self.cookies domain]

/-- A write does not notice a purge. -/
theorem purge_write (now : Time) (self : Store) (domain : Host) (path name : Str)
    (hostOnly : Bool) (entry : CookieEntry) (next : Nat)
    : (Store.mk (write self.cookies domain path name hostOnly entry) next).purge now
      = (Store.mk (write (self.purge now).cookies domain path name hostOnly entry) next).purge
          now := by
  have paths (pathMap : PathMap) :=
    (CookieScopeMap.pruning now).prune_update_prune
      (fun cookieMap => cookieMap.purge_insert now name hostOnly entry) pathMap path
  simp only [purge, write_eq,
    (PathMap.pruning now).prune_update_prune paths self.cookies domain]

-----------------------------------------------------------------------------------------
-- Reads do not notice a purge
-----------------------------------------------------------------------------------------

/-- What `read` yields of the entries, in the order of the maps. -/
def collect {A : Type} (read : Host → Str → CookieEntry → Option A) (self : Store) : List A :=
  self.cookies.entries.flatMap (fun byDomain =>
    byDomain.2.entries.flatMap (fun byPath =>
      byPath.2.values.filterMap (read byDomain.1 byPath.1)))

/-- A read that yields nothing of an expired entry does not notice a purge. -/
theorem collect_purge {A : Type} {read : Host → Str → CookieEntry → Option A} {now : Time}
    (blind
      : ∀ domain path entry,
          cookieIsExpired entry.cookie now = true → read domain path entry = none)
    (self : Store)
    : collect read (self.purge now) = collect read self := by
  have names (domain : Host) (path : Str) (cookieMap : CookieScopeMap)
      : (cookieMap.purge now).values.filterMap (read domain path)
        = cookieMap.values.filterMap (read domain path) := by
    rw [CookieScopeMap.values_purge, List.filterMap_filterMap]
    congr 1
    funext entry
    unfold CookieEntry.unexpired
    split
    · next expired => exact (blind domain path entry expired).symm
    · rfl
  have paths (domain : Host) (pathMap : PathMap)
      : (pathMap.purge now).entries.flatMap
          (fun byPath => byPath.2.values.filterMap (read domain byPath.1))
        = pathMap.entries.flatMap
          (fun byPath => byPath.2.values.filterMap (read domain byPath.1)) :=
    (CookieScopeMap.pruning now).flatMap_prune
      (fun path cookieMap => cookieMap.values.filterMap (read domain path)) (names domain)
      (fun _ => rfl) pathMap
  exact (PathMap.pruning now).flatMap_prune
    (fun domain pathMap => pathMap.entries.flatMap (fun byPath =>
      byPath.2.values.filterMap (read domain byPath.1)))
    paths (fun _ => rfl) self.cookies

end Store

end Tlsurl.Cookie
