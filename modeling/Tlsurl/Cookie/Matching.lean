import Tlsurl.Cookie.Store
import Tlsurl.Library.Boundary

/-! What the matching functions of the store decide.
The byte offsets of the source are a suffix at a dot and a prefix at a slash.
-/

namespace Tlsurl.Cookie

open Library

/-- The host is the domain, or both are DNS names and it is a dot-separated subdomain. -/
def Host.Within (host domain : Host) : Prop :=
  host = domain
  ∨ ∃ name suffix, host = .domain name ∧ domain = .domain suffix
    ∧ ∃ front, name = front ++ 46 :: suffix

/-- A name that ends with a shorter one after a dot has the dot at the offset that the source
reads.
-/
theorem endsAfterDot_iff {name suffix : Str}
    : (decide (name.length > suffix.length) && name[name.length - suffix.length - 1]? == some 46
        && suffix.isSuffixOf name) = true
      ↔ ∃ front, name = front ++ 46 :: suffix := by
  simp only [Bool.and_eq_true, decide_eq_true_eq, beq_iff_eq, List.isSuffixOf_iff_suffix]
  constructor
  · intro checks
    obtain ⟨⟨longer, dot⟩, front, rfl⟩ := checks
    simp only [List.length_append] at longer dot
    rcases List.eq_nil_or_concat front with rfl | ⟨init, last, rfl⟩
    · simp at longer
    · refine ⟨init, ?_⟩
      simp only [List.concat_eq_append, List.length_append, List.length_singleton] at dot
      have offset : init.length + 1 + suffix.length - suffix.length - 1 = init.length := by omega
      rw [offset] at dot
      have same : last = 46 := by simpa using dot
      simp [same]
  · intro split
    obtain ⟨front, rfl⟩ := split
    have offset : (front ++ 46 :: suffix).length - suffix.length - 1 = front.length := by
      simp only [List.length_append, List.length_cons]
      omega
    refine ⟨⟨?_, ?_⟩, ⟨front ++ [46], by simp⟩⟩
    · simp only [List.length_append, List.length_cons]
      omega
    · rw [offset]
      simp

theorem domainMatch_iff {host domain : Host}
    : domainMatch host domain = true ↔ host.Within domain := by
  unfold domainMatch Host.Within
  by_cases same : host = domain
  · simp [same]
  · simp only [same, if_false, false_or]
    cases host <;> cases domain <;> simp [← endsAfterDot_iff]

/-- Two domains of one host are comparable, as suffixes of its name. -/
theorem Host.Within.total {host left right : Host} (first : host.Within left)
    (second : host.Within right)
    : left.Within right ∨ right.Within left := by
  have within {short long : Str} (suffix : SuffixAt 46 short long)
      : (Host.domain long).Within (.domain short) := by
    rcases suffix with rfl | ⟨front, split⟩
    · exact Or.inl rfl
    · exact Or.inr ⟨long, short, rfl, rfl, front, split⟩
  rcases first with rfl | ⟨name, suffix, rfl, rfl, front, split⟩
  · exact Or.inl second
  · rcases second with rfl | ⟨_, other, same, rfl, back, again⟩
    · exact Or.inr (Or.inr ⟨name, suffix, rfl, rfl, front, split⟩)
    · cases same
      rcases SuffixAt.total (Or.inr ⟨front, split⟩) (Or.inr ⟨back, again⟩) with shorter | shorter
      · exact Or.inr (within shorter)
      · exact Or.inl (within shorter)

/-- The cookie path is the request path, or the request path extends it at a slash. -/
theorem pathMatch_iff {requestPath cookiePath : Str}
    : pathMatch requestPath cookiePath = true ↔ PrefixAt 47 cookiePath requestPath := by
  have slash : defaultPath = [47] := by decide
  simp only [pathMatch, slash, Bool.or_eq_true, Bool.and_eq_true, beq_iff_eq,
    List.isPrefixOf_iff_prefix, List.isSuffixOf_iff_suffix]
  have ends (path : Str) : [47] <:+ path ↔ path.getLast? = some 47 := by
    rw [List.getLast?_eq_some_iff]
    exact ⟨fun ⟨front, same⟩ => ⟨front, same.symm⟩, fun ⟨front, same⟩ => ⟨front, same.symm⟩⟩
  have starts (path : Str) : [47] <+: path ↔ path.head? = some 47 := by
    cases path with
    | nil => simp
    | cons byte path => simp [List.cons_prefix_cons, eq_comm]
  rw [ends, starts]
  constructor
  · intro accepted
    rcases accepted with rfl | ⟨⟨rest, rfl⟩, boundary⟩
    · exact .refl requestPath
    · exact ⟨rest, rfl, Or.inr (by simpa using boundary)⟩
  · intro boundary
    obtain ⟨rest, rfl, stops⟩ := boundary
    rcases stops with rfl | stops
    · exact Or.inl (by simp)
    · exact Or.inr ⟨⟨rest, rfl⟩, by simpa using stops⟩

/-- The request selection rules of RFC 6265 for a stored cookie of the given scope. -/
structure Matches (uri : Uri) (host : Host) (now : Time) (domain : Host) (path : Str)
    (hostOnly : Bool) (cookie : RawCookie)
    : Prop where
  scheme : uri.scheme = some .http ∨ uri.scheme = some .https
  host : host = domain ∨ hostOnly = false ∧ host.Within domain
  path : PrefixAt 47 path uri.path
  secure : cookie.secure = some true → uri.scheme ≠ some .http
  live : ∀ deadline, cookie.expiresDatetime = some deadline → now < deadline

/-- The request check decides the selection rules, for a cookie without a `Max-Age` whose
`Domain` attribute tells whether it is host-only.
-/
theorem requestMatchesCookie_iff {uri : Uri} {host domain : Host} {path : Str}
    {cookie : RawCookie} {now : Time} {hostOnly : Bool}
    (flag : hostOnly = cookie.domain.isNone) (persisted : cookie.maxAge = none)
    : requestMatchesCookie uri host domain path cookie now = true
      ↔ Matches uri host now domain path hostOnly cookie := by
  have live
      : cookieIsExpired cookie now = false
        ↔ ∀ deadline, cookie.expiresDatetime = some deadline → now < deadline := by
    simp [cookieIsExpired, persisted, Option.any_eq_false]
  have within : (host = domain ∨ hostOnly = false ∧ host.Within domain)
      ↔ host.Within domain ∧ (hostOnly = true → host = domain) := by
    cases hostOnly with
    | true => simp [Host.Within, or_and_right]
    | false => simp [Host.Within]
  have checks
      : requestMatchesCookie uri host domain path cookie now = true
        ↔ (uri.scheme = some .http ∨ uri.scheme = some .https)
          ∧ host.Within domain ∧ (hostOnly = true → host = domain)
          ∧ PrefixAt 47 path uri.path
          ∧ (cookie.secure = some true → uri.scheme ≠ some .http)
          ∧ cookieIsExpired cookie now = false := by
    rw [flag, ← domainMatch_iff, ← pathMatch_iff]
    unfold requestMatchesCookie Uri.isHttp Uri.isHttps
    simp [and_assoc, imp_iff_not_or]
  rw [checks, live]
  constructor
  · intro accepted
    obtain ⟨scheme, matched, exact, path, secure, unexpired⟩ := accepted
    exact ⟨scheme, within.mpr ⟨matched, exact⟩, path, secure, unexpired⟩
  · intro rules
    obtain ⟨matched, exact⟩ := within.mp rules.host
    exact ⟨rules.scheme, matched, exact, rules.path, rules.secure, rules.live⟩

end Tlsurl.Cookie
