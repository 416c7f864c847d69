import Tlsurl.Cookie.Retrieval

/-! What an insecure origin can do to `Secure` cookies: nothing.
It neither removes nor replaces one, and a cookie of the same name that it may set is sent
after the secure one: the overlay check leaves it only shorter paths.
-/

namespace Tlsurl.Cookie

open Library

variable {parsers : Parsers} {jar : Store} {cookie : RawCookie} {uri : Uri} {now : Time}

/-- A cookie that the check lets through from an insecure origin does not path-match a stored,
unexpired secure cookie of its name whose domain is comparable to its own.
-/
theorem Prepared.Permitted.spares {prepared : Prepared} (permitted : prepared.Permitted jar now)
    (insecure : prepared.secureOrigin = false) {scope : Scope} {entry : CookieEntry}
    (found : jar.find scope = some entry) (secure : entry.cookie.secure = some true)
    (unexpired : cookieIsExpired entry.cookie now = false)
    (named : scope.name = prepared.cookie.name)
    (comparable
      : scope.domain.Within prepared.domain ∨ prepared.domain.Within scope.domain)
    : ¬ PrefixAt 47 scope.path prepared.path := by
  intro covers
  have overlays
      : jar.wouldOverlaySecureCookie scope.name prepared.domain prepared.path now = true := by
    apply Store.wouldOverlay_of_find found secure unexpired
    · rw [domainMatch_iff, domainMatch_iff]
      exact comparable
    · exact pathMatch_iff.mpr covers
  have clear := permitted insecure
  rw [← named, overlays] at clear
  cases clear

namespace Jar

/-- The scope at which `add` stores a cookie, when it stores it. -/
def accepted (parsers : Parsers) (jar : Store) (cookie : RawCookie) (uri : Uri) (now : Time)
    : Option Scope := do
  let prepared ← uri.intoUri.bind (fun uri => prepare parsers cookie uri now)
  guard (!(!prepared.secureOrigin
    && jar.wouldOverlaySecureCookie prepared.cookie.name prepared.domain prepared.path now))
  guard (!prepared.expired)
  some prepared.scope

/-- An accepted cookie was prepared and permitted, and is stored at its scope. -/
theorem accepted_spec {scope : Scope} (accepts : accepted parsers jar cookie uri now = some scope)
    : ∃ prepared, prepare parsers cookie uri now = some prepared ∧ prepared.Permitted jar now
      ∧ prepared.scope = scope
      ∧ ((add parsers jar cookie uri now).find scope).map CookieEntry.cookie
        = some prepared.persisted := by
  simp only [accepted, Option.bind_eq_bind, Option.bind_eq_some_iff] at accepts
  obtain ⟨prepared, ready, _, guarded, _, unexpired, result⟩ := accepts
  have bound : uri.intoUri.bind (fun uri => prepare parsers cookie uri now) = some prepared :=
    Option.bind_eq_some_iff.mpr ready
  obtain ⟨absolute, same, prepares⟩ := ready
  cases (Uri.intoUri_eq_some.mp same).1
  cases result
  have clear
      : (!prepared.secureOrigin
        && jar.wouldOverlaySecureCookie prepared.cookie.name prepared.domain prepared.path now)
        = false := by
    simpa [guard] using guarded
  have fresh : prepared.expired = false := by simpa [guard] using unexpired
  refine ⟨prepared, prepares, ?_, rfl, ?_⟩
  · intro insecure
    simpa [insecure] using clear
  · obtain ⟨index, written⟩ :=
      jar.find_insertStoredCookie prepared.domain prepared.path prepared.persisted
    have stores
        : add parsers jar cookie uri now
          = jar.insertStoredCookie prepared.domain prepared.path prepared.persisted := by
      simp only [add, bound, store, clear, fresh]
      rfl
    rw [stores, written, if_pos]
    · rfl
    · simp [Prepared.scope, Prepared.persisted, RawCookie.domain, (prepare_spec prepares).2.2.1]

/-- Adding a cookie from an insecure origin leaves every unexpired secure entry as it is. -/
theorem add_keeps_secure (insecure : uri.isHttps = false) {scope : Scope} {entry : CookieEntry}
    (found : jar.find scope = some entry) (secure : entry.cookie.secure = some true)
    (unexpired : cookieIsExpired entry.cookie now = false)
    : (add parsers jar cookie uri now).find scope = some entry := by
  have spared {prepared : Prepared} (prepares : prepare parsers cookie uri now = some prepared)
      (permitted : prepared.Permitted jar now)
      : ¬ (scope.domain = prepared.domain ∧ scope.path = prepared.path
        ∧ scope.name = prepared.cookie.name) := by
    intro same
    obtain ⟨domain, path, name⟩ := same
    have origin := (prepare_spec prepares).1.trans insecure
    apply permitted.spares origin found secure unexpired name (Or.inl (Or.inl domain))
    rw [path]
    exact .refl _
  have done := add_cases parsers jar cookie uri now
  generalize add parsers jar cookie uri now = next at done ⊢
  cases done with
  | ignored => exact found
  | removed prepares permitted =>
      rw [Store.removeStoredCookie, Store.find_removeStoredCookieInner, if_neg]
      · exact found
      · intro same
        exact spared prepares permitted ⟨same.1, same.2.1, same.2.2.1⟩
  | @stored prepared prepares permitted fresh =>
      obtain ⟨index, written⟩ :=
        jar.find_insertStoredCookie prepared.domain prepared.path prepared.persisted
      rw [written, if_neg]
      · exact found
      · intro same
        subst same
        exact spared prepares permitted ⟨rfl, rfl, rfl⟩

/-- A selected cookie's domain holds the host, and its path leads to that of the request. -/
theorem selected_spec {host : Host} {scope : Scope} {entry : CookieEntry}
    (selected : item (scope, entry) ∈ jar.matchingCookies uri host now)
    : host.Within scope.domain ∧ PrefixAt 47 scope.path uri.path := by
  rw [Store.matchingCookies_eq] at selected
  obtain ⟨stored, kept, same⟩ := List.mem_map.mp selected
  simp only [item, Prod.mk.injEq] at same
  obtain ⟨domain, path, _⟩ := same
  have accepted := (List.mem_filter.mp kept).2
  rw [domain, path] at accepted
  rw [← domainMatch_iff, ← pathMatch_iff]
  unfold requestMatchesCookie at accepted
  simp_all

/-- Of two selected cookies, the one with the longer path stands before the other in sending
order.
-/
theorem sortedCookies_split {host : Host} {longer shorter : Host × Str × CookieEntry}
    (first : longer ∈ jar.matchingCookies uri host now)
    (second : shorter ∈ jar.matchingCookies uri host now)
    (length : shorter.2.1.length < longer.2.1.length)
    : ∃ left middle right,
        sortedCookies jar uri host now = left ++ longer :: (middle ++ shorter :: right) := by
  have sorted := sortedCookies_perm jar uri host now
  obtain ⟨left, rest, split⟩ := List.append_of_mem (sorted.mem_iff.mpr first)
  have ordered := sortedCookies_pairwise jar uri host now
  rw [split, List.pairwise_append] at ordered
  have member : shorter ∈ left ++ longer :: rest := split ▸ sorted.mem_iff.mpr second
  rcases List.mem_append.mp member with earlier | later
  · have inOrder := ordered.2.2 shorter earlier longer List.mem_cons_self
    unfold before at inOrder
    omega
  · rcases List.mem_cons.mp later with rfl | later
    · omega
    · obtain ⟨middle, right, rfl⟩ := List.append_of_mem later
      exact ⟨left, middle, right, split⟩

end Jar

/-- In every jar, and so in every reachable one, a cookie from an insecure origin leaves each
unexpired secure entry in place. If it is accepted beside one of its name, then it is stored, and
from every jar that still has the secure entry, a request that both match carries the secure
cookie before it, whatever the version.
-/
theorem secure_cookies_protected (parsers : Parsers) (jar : Store) (cookie : RawCookie) (uri : Uri)
    (now : Time) (insecure : uri.scheme ≠ some .https) {scope : Scope} {entry : CookieEntry}
    (found : jar.find scope = some entry) (secure : entry.cookie.secure = some true)
    (unexpired : cookieIsExpired entry.cookie now = false)
    : let added := Jar.add parsers jar cookie uri now
      added.find scope = some entry
      ∧ ∀ other, Jar.accepted parsers jar cookie uri now = some other → other.name = scope.name
        → (added.find other).isSome = true
          ∧ ∀ final : Store, final.find scope = some entry
            → ∀ otherEntry, final.find other = some otherEntry
            → ∀ request host time,
              request.host.bind (canonicalHost parsers.hostParse) = some host
            → item (scope, entry) ∈ final.matchingCookies request host time
            → item (other, otherEntry) ∈ final.matchingCookies request host time
            → ∃ left middle right : List RawCookie,
                ((final.matchingCookies request host time).map (fun item => item.2.2.cookie)).Perm
                    (left ++ entry.cookie :: (middle ++ otherEntry.cookie :: right))
                ∧ ∀ version, (Jar.cookies parsers final request version time).Carries version
                    (left ++ entry.cookie :: (middle ++ otherEntry.cookie :: right)) := by
  have origin : uri.isHttps = false := by simpa [Uri.isHttps] using insecure
  refine ⟨Jar.add_keeps_secure origin found secure unexpired, ?_⟩
  intro other accepts named
  obtain ⟨prepared, prepares, permitted, rfl, stored⟩ := Jar.accepted_spec accepts
  refine ⟨by simpa using congrArg Option.isSome stored, ?_⟩
  intro final _ otherEntry _ request host time canonical first second
  obtain ⟨withinSecure, secureLeads⟩ := Jar.selected_spec first
  obtain ⟨withinOther, otherLeads⟩ := Jar.selected_spec second
  have length : prepared.path.length < scope.path.length := by
    by_contra short
    have insecureOrigin := (Jar.prepare_spec prepares).1.trans origin
    have comparable := withinSecure.total withinOther
    apply permitted.spares insecureOrigin found secure unexpired named.symm comparable
    exact secureLeads.of_length_le otherLeads (Nat.le_of_not_lt short)
  obtain ⟨left, middle, right, split⟩ := Jar.sortedCookies_split first second length
  have listed
      : (Jar.sortedCookies final request host time).map (fun item => item.2.2.cookie)
        = left.map (fun item => item.2.2.cookie)
          ++ entry.cookie :: (middle.map (fun item => item.2.2.cookie)
            ++ otherEntry.cookie :: right.map (fun item => item.2.2.cookie)) := by
    rw [split, List.map_append, List.map_cons, List.map_append, List.map_cons]
    rfl
  refine ⟨_, _, _, ?_, fun version => listed ▸ cookies_carries canonical version time⟩
  rw [← listed]
  exact ((Jar.sortedCookies_perm final request host time).map _).symm

/-- A secure cookie for `/x`, as it is stored first. -/
def secureSid : CookieEntry where
  cookie := { RawCookie.atPath "sid" "1" "/x" with secure := some true }
  creationIndex := 0

/-- Where the cookies named `sid` of one host are stored. -/
def sidScope (path : String) : Scope := ⟨.domain (ascii "a.test"), ascii path, true, ascii "sid"⟩

/-- An insecure cookie of the name is accepted for `/`, and sent after the secure one. -/
theorem secure_cookies_protected_sample
    : let ops : List Jar.Op := [.add secureSid.cookie (page .https "a.test" "/") 0]
      let jar := ops.foldl (Jar.apply .dns) {}
      let added := Jar.add .dns jar (.atPath "sid" "2" "/") (page .http "a.test" "/") 1
      added.find (sidScope "/x") = some secureSid
        ∧ Jar.cookies .dns added (page .https "a.test" "/x") .http11 2
          = .compressed { bytes := ascii "sid=1; sid=2" }
        ∧ ∃ left middle right : List RawCookie,
            (Jar.cookies .dns added (page .https "a.test" "/x") .http2 2).Carries .http2
              (left ++ secureSid.cookie :: (middle ++ .atPath "sid" "2" "/" :: right)) := by
  intro ops jar added
  have stored : jar.find (sidScope "/x") = some secureSid := by decide
  have protects := secure_cookies_protected .dns jar
    (.atPath "sid" "2" "/") (page .http "a.test" "/") 1 (by decide) stored rfl (by decide)
  have beside := (protects.2 (sidScope "/") (by decide) rfl).2 added protects.1
    { cookie := .atPath "sid" "2" "/", creationIndex := 1 } (by decide)
    (page .https "a.test" "/x") (.domain (ascii "a.test")) 2 (by decide) (by decide) (by decide)
  obtain ⟨left, middle, right, _, carried⟩ := beside
  exact ⟨protects.1, by decide, left, middle, right, carried .http2⟩

end Tlsurl.Cookie
