import Tlsurl.Cookie.Lookup
import Tlsurl.Cookie.Matching
import Tlsurl.Cookie.Versions

/-! Cookie retrieval is the one of RFC 6265.
The request check reads the `Domain` and `Max-Age` of the stored cookie; in a jar reached by
its operations these agree with the scope, so the check decides the selection rules.
-/

namespace Tlsurl.Cookie

open Library

-----------------------------------------------------------------------------------------
-- Stored cookies fit their scopes
-----------------------------------------------------------------------------------------

/-- An entry at a scope carries its name and its host-only flag, and no `Max-Age`. -/
structure CookieEntry.Fits (entry : CookieEntry) (scope : Scope) : Prop where
  name : scope.name = entry.cookie.name
  hostOnly : scope.hostOnly = entry.cookie.domain.isNone
  persisted : entry.cookie.maxAge = none

/-- Every stored entry fits its scope. -/
def Store.WellScoped (jar : Store) : Prop :=
  ∀ scope entry, jar.find scope = some entry → entry.Fits scope

namespace Jar

variable {parsers : Parsers}

/-- Adding a cookie keeps the scopes: what it stores fits by construction. -/
theorem add_wellScoped {jar : Store} (kept : jar.WellScoped) (cookie : RawCookie) (uri : Uri)
    (now : Time)
    : (add parsers jar cookie uri now).WellScoped := by
  have done := add_cases parsers jar cookie uri now
  generalize add parsers jar cookie uri now = next at done ⊢
  cases done with
  | ignored => exact kept
  | removed prepares permitted =>
      intro scope entry found
      rw [Store.removeStoredCookie, Store.find_removeStoredCookieInner] at found
      split at found
      · cases found
      · exact kept scope entry found
  | @stored prepared prepares permitted fresh =>
      obtain ⟨index, written⟩ :=
        jar.find_insertStoredCookie prepared.domain prepared.path prepared.persisted
      intro scope entry found
      rw [written] at found
      split at found
      · next same =>
          cases found
          cases same
          exact ⟨rfl, rfl, (prepare_spec prepares).2.2.2 fresh⟩
      · exact kept scope entry found

/-- Every operation keeps the scopes. -/
theorem step_wellScoped {jar next : Store} {op : Op} (kept : jar.WellScoped)
    (step : Step parsers jar op next)
    : next.WellScoped := by
  cases step
  cases op with
  | add cookie uri now => exact add_wellScoped kept cookie uri now
  | setCookies cookieHeaders uri =>
      apply setCookies_preserves Store.WellScoped _ kept
      intro earlier cookie now fits
      exact add_wellScoped fits cookie uri now
  | remove name uri =>
      intro scope entry found
      rcases find_remove parsers jar name uri scope with same | gone
      · exact kept scope entry (same ▸ found)
      · cases gone.symm.trans found
  | clear =>
      intro scope entry found
      simp [apply, clear, Store.find, Store.get] at found

/-- In every reachable jar the entries fit their scopes. -/
theorem run_wellScoped {ops : List Op} {jar : Store} (run : Run (Step parsers) {} ops jar)
    : jar.WellScoped := by
  apply run.invariant
  · intro past before op after _ kept step
    exact step_wellScoped kept step
  · intro scope entry found
    simp [Store.find, Store.get] at found

end Jar

-----------------------------------------------------------------------------------------
-- Selection as a filter of what is stored
-----------------------------------------------------------------------------------------

/-- What `matching_cookies` yields for a stored cookie. -/
def item (stored : Scope × CookieEntry) : Host × Str × CookieEntry :=
  (stored.1.domain, stored.1.path, stored.2)

namespace Store

/-- Everything stored, each entry with its scope. -/
def stored (self : Store) : List (Scope × CookieEntry) :=
  self.cookies.entries.flatMap (fun byDomain =>
    byDomain.2.entries.flatMap (fun byPath =>
      byPath.2.hostOnly.entries.map
          (fun byName => (⟨byDomain.1, byPath.1, true, byName.1⟩, byName.2))
        ++ byPath.2.domain.entries.map
          (fun byName => (⟨byDomain.1, byPath.1, false, byName.1⟩, byName.2))))

/-- A cookie is stored at a scope exactly when it is found there. -/
theorem mem_stored {self : Store} {scope : Scope} {entry : CookieEntry}
    : (scope, entry) ∈ self.stored ↔ self.find scope = some entry := by
  constructor
  · intro member
    simp only [stored, List.mem_flatMap, List.mem_append, List.mem_map] at member
    obtain ⟨⟨domain, pathMap⟩, domainMember, ⟨path, cookieMap⟩, pathMember, named⟩ := member
    have located : self.cookies.lookup domain = some pathMap :=
      AList.mem_lookup_iff.mpr domainMember
    have placed : pathMap.lookup path = some cookieMap := AList.mem_lookup_iff.mpr pathMember
    rcases named with ⟨byName, nameMember, same⟩ | ⟨byName, nameMember, same⟩
    · cases same
      have read := AList.mem_lookup_iff.mpr nameMember
      simpa [find, get, located, placed, CookieScopeMap.get] using read
    · cases same
      have read := AList.mem_lookup_iff.mpr nameMember
      simpa [find, get, located, placed, CookieScopeMap.get] using read
  · intro found
    obtain ⟨pathMap, cookieMap, domainMember, pathMember, read⟩ := mem_of_find found
    obtain ⟨domain, path, hostOnly, name⟩ := scope
    simp only [stored, List.mem_flatMap, List.mem_append, List.mem_map]
    refine ⟨_, domainMember, _, pathMember, ?_⟩
    cases hostOnly with
    | true => exact Or.inl ⟨⟨name, entry⟩, AList.mem_lookup_iff.mp read, rfl⟩
    | false => exact Or.inr ⟨⟨name, entry⟩, AList.mem_lookup_iff.mp read, rfl⟩

/-- Selection keeps the stored cookies that the request check accepts, each once. -/
theorem matchingCookies_eq (self : Store) (uri : Uri) (host : Host) (now : Time)
    : self.matchingCookies uri host now
      = (self.stored.filter (fun stored =>
          requestMatchesCookie uri host stored.1.domain stored.1.path stored.2.cookie now)).map
        item := by
  have kept {α β : Type} (f : α → β) (p : α → Bool) (l : List α)
      : l.filterMap (fun a => if p a then some (f a) else none) = (l.filter p).map f := by
    rw [← List.filterMap_eq_map, List.filterMap_filter]
    congr 1
  simp only [matchingCookies, stored, List.filter_flatMap, List.map_flatMap]
  congr 1
  funext byDomain
  congr 1
  funext byPath
  simp [kept, CookieScopeMap.values, List.filter_map, Function.comp_def, item]

end Store

open Classical in
/-- In every reachable jar, selection keeps exactly the stored cookies that match by the rules
of RFC 6265, and what `Jar.cookies` puts on the wire are the selected ones, longest path first
and then oldest first, whatever the version. A host-only cookie and one for an IP address match
their own host only.
-/
theorem retrieval_follows_rules {parsers : Parsers} {ops : List Jar.Op} {jar : Store}
    (run : Run (Jar.Step parsers) {} ops jar) (uri : Uri) (host : Host) (now : Time)
    : jar.matchingCookies uri host now
        = (jar.stored.filter (fun stored =>
            Matches uri host now stored.1.domain stored.1.path stored.1.hostOnly
              stored.2.cookie)).map item
      ∧ (uri.host.bind (canonicalHost parsers.hostParse) = some host
        → ∃ listed : List (Host × Str × CookieEntry),
          listed.Perm (jar.matchingCookies uri host now)
          ∧ listed.Pairwise (fun left right =>
              right.2.1.length < left.2.1.length
              ∨ right.2.1.length = left.2.1.length
                ∧ left.2.2.creationIndex ≤ right.2.2.creationIndex)
          ∧ ∀ version, (Jar.cookies parsers jar uri version now).Carries version
              (listed.map (fun item => item.2.2.cookie)))
      ∧ ∀ scope entry, jar.find scope = some entry
        → Matches uri host now scope.domain scope.path scope.hostOnly entry.cookie
        → (scope.hostOnly = true ∨ ∀ name, host ≠ .domain name)
        → host = scope.domain := by
  have fits := Jar.run_wellScoped run
  refine ⟨?_, fun canonical => ?_, ?_⟩
  · rw [Store.matchingCookies_eq]
    congr 1
    apply List.filter_congr
    intro stored member
    have fit := fits stored.1 stored.2 (Store.mem_stored.mp member)
    rw [Bool.eq_iff_iff, requestMatchesCookie_iff fit.hostOnly fit.persisted]
    simp
  · exact ⟨Jar.sortedCookies jar uri host now, Jar.sortedCookies_perm jar uri host now,
      Jar.sortedCookies_pairwise jar uri host now,
      fun version => cookies_carries canonical version now⟩
  · intro scope entry _ rules exact
    rcases rules.host with same | ⟨shared, same | ⟨name, _, dns, _⟩⟩
    · exact same
    · exact same
    · rcases exact with hostOnly | address
      · cases shared.symm.trans hostOnly
      · exact absurd dns (address name)

/-- Two cookies of one site: the one for the longer path is sent first. -/
theorem retrieval_follows_rules_sample
    : let ops : List Jar.Op :=
        [.add (.atPath "a" "1" "/") (page .http "a.test" "/") 0
        , .add (.atPath "b" "2" "/x") (page .http "a.test" "/") 0]
      let jar := ops.foldl (Jar.apply .dns) {}
      let uri := page .http "a.test" "/x/y"
      Jar.cookies .dns jar uri .http11 1 = .compressed { bytes := ascii "b=2; a=1" }
        ∧ ∃ listed : List (Host × Str × CookieEntry),
          listed.Perm (jar.matchingCookies uri (.domain (ascii "a.test")) 1)
          ∧ ∀ version, (Jar.cookies .dns jar uri version 1).Carries version
              (listed.map (fun item => item.2.2.cookie)) := by
  intro ops jar uri
  have rules :=
    retrieval_follows_rules (Jar.run_foldl .dns {} ops) uri (.domain (ascii "a.test")) 1
  obtain ⟨listed, selected, _, carried⟩ := rules.2.1 (by decide)
  exact ⟨by decide, listed, selected, carried⟩

end Tlsurl.Cookie
