import Tlsurl.Cookie.Jar

/-! The cookies sent over HTTP/1.1 and over HTTP/2 (`cookie/jar.rs`).
HTTP/1.1 joins all matching cookies to one field value, and HTTP/2 makes a field value of each; what
cannot be in a field value is left out of the second, and leaves nothing of the first.
-/

namespace Tlsurl.Cookie

open Library

-----------------------------------------------------------------------------------------
-- Joining
-----------------------------------------------------------------------------------------

/-- Whether a cookie can be put into a field value -/
def sendable (cookie : RawCookie) : Bool := (Jar.pair cookie).all HeaderValue.isValid

theorem tryFrom_pair (cookie : RawCookie)
    : HeaderValue.tryFrom (Jar.pair cookie)
      = if sendable cookie then some { bytes := Jar.pair cookie } else none := rfl

/-- The join of field values -/
def join (values : List HeaderValue) : HeaderValue where
  bytes := (ascii "; ").intercalate (values.map HeaderValue.bytes)

theorem pair_ne_nil (cookie : RawCookie) : Jar.pair cookie ≠ [] := by
  simp [Jar.pair, ascii]

/-- The loop separates what it adds, by induction on the cookies. -/
theorem foldl_join (joined : Str) (nonempty : joined ≠ []) (cookies : List RawCookie)
    : cookies.foldl
        (fun cookies cookie =>
          (if cookies = [] then cookies else cookies ++ ascii "; ") ++ Jar.pair cookie) joined
      = (ascii "; ").intercalate (joined :: cookies.map Jar.pair) := by
  induction cookies generalizing joined with
  | nil => simp
  | cons cookie rest ih =>
      rw [List.foldl_cons, if_neg nonempty, ih _ (by simp [nonempty])]
      cases rest with
      | nil => simp
      | cons next rest => simp

/-- The field value that HTTP/1.1 tries -/
theorem joined_eq (cookies : List RawCookie)
    : cookies.foldl
        (fun cookies cookie =>
          (if cookies = [] then cookies else cookies ++ ascii "; ") ++ Jar.pair cookie) []
      = (ascii "; ").intercalate (cookies.map Jar.pair) := by
  cases cookies with
  | nil => rfl
  | cons cookie rest =>
      rw [List.foldl_cons, if_pos rfl, List.nil_append, foldl_join _ (pair_ne_nil cookie)]
      rfl

/-- The join is valid exactly if all that it joins is. -/
theorem all_intercalate (texts : List Str)
    : ((ascii "; ").intercalate texts).all HeaderValue.isValid
      = texts.all (fun text => text.all HeaderValue.isValid) := by
  induction texts with
  | nil => rfl
  | cons text rest ih =>
      cases rest with
      | nil => simp
      | cons next rest =>
          have separator : (ascii "; ").all HeaderValue.isValid = true := by decide
          rw [List.intercalate_cons_cons, List.all_append, List.all_append, separator,
            Bool.and_true, ih]
          rfl

-----------------------------------------------------------------------------------------
-- Field values
-----------------------------------------------------------------------------------------

/-- The values that a result lists -/
def Cookies.values : Cookies → List HeaderValue
  | .uncompressed values => values
  | .compressed value => [value]
  | .empty => []

/-- One field value is the join of the values listed, if there are any. -/
def Cookies.Joins (compressed uncompressed : Cookies) : Prop :=
  (uncompressed.values ≠ [] → compressed = .compressed (join uncompressed.values))
  ∧ (compressed = .empty ↔ uncompressed.values = [])

/-- A result carries cookies in their order: from HTTP/2 on a field value for each that can be in
one, and before that one field value with the pairs of all, where all can be in it.
-/
def Cookies.Carries (result : Cookies) (version : Version) (cookies : List RawCookie) : Prop :=
  result
    = if version = .http2 ∨ version = .http3 then
        .uncompressed ((cookies.filter sendable).map (fun cookie => { bytes := Jar.pair cookie }))
      else if cookies ≠ [] ∧ cookies.all sendable = true then
        .compressed { bytes := (ascii "; ").intercalate (cookies.map Jar.pair) }
      else .empty

/-- The field values that can be built, by induction on the cookies -/
theorem filterMap_tryFrom (cookies : List RawCookie)
    : cookies.filterMap (fun cookie => HeaderValue.tryFrom (Jar.pair cookie))
      = (cookies.filter sendable).map (fun cookie => { bytes := Jar.pair cookie }) := by
  induction cookies with
  | nil => rfl
  | cons cookie rest ih =>
      rw [List.filterMap_cons, tryFrom_pair, List.filter_cons]
      by_cases sends : sendable cookie = true
      · rw [if_pos sends, if_pos sends, List.map_cons, ← ih]
      · rw [if_neg sends, if_neg sends, ← ih]

/-- The join of all pairs is a field value exactly if all cookies can be sent. -/
theorem tryFrom_intercalate (cookies : List RawCookie)
    : HeaderValue.tryFrom ((ascii "; ").intercalate (cookies.map Jar.pair))
      = if cookies.all sendable = true
        then some { bytes := (ascii "; ").intercalate (cookies.map Jar.pair) } else none := by
  have valid
      : ((ascii "; ").intercalate (cookies.map Jar.pair)).all HeaderValue.isValid
        = cookies.all sendable := by
    rw [all_intercalate, List.all_map]
    rfl
  rw [HeaderValue.tryFrom, valid]

/-- The cookies are carried in the order in which they are given. -/
theorem render_carries (version : Version) (cookies : List RawCookie)
    : (Jar.render version cookies).Carries version cookies := by
  rw [Cookies.Carries, Jar.render]
  by_cases separate : version = .http2 ∨ version = .http3
  · rw [if_pos separate, if_pos separate, filterMap_tryFrom]
  · rw [if_neg separate, if_neg separate, joined_eq]
    cases cookies with
    | nil => rfl
    | cons cookie rest =>
        have nonempty : (ascii "; ").intercalate ((cookie :: rest).map Jar.pair) ≠ [] := by
          cases rest with
          | nil => simp [pair_ne_nil]
          | cons next rest => simp [pair_ne_nil]
        simp only [if_neg nonempty, tryFrom_intercalate]
        by_cases sends : (cookie :: rest).all sendable = true
        · rw [if_pos sends, if_pos ⟨List.cons_ne_nil _ _, sends⟩]
          rfl
        · rw [if_neg sends, if_neg (fun both => sends both.2)]
          rfl

/-- HTTP/2 lists what can be sent. -/
theorem values_render (cookies : List RawCookie)
    : (Jar.render .http2 cookies).values
      = (cookies.filter sendable).map (fun cookie => { bytes := Jar.pair cookie }) := by
  rw [render_carries .http2 cookies, if_pos (.inl rfl), Cookies.values]

/-- HTTP/1.1 sends the join of all cookies, if each can be sent. -/
theorem render_http11 (cookies : List RawCookie)
    : Jar.render .http11 cookies
      = if cookies ≠ [] ∧ cookies.all sendable = true
        then .compressed { bytes := (ascii "; ").intercalate (cookies.map Jar.pair) }
        else .empty := by
  rw [render_carries .http11 cookies, if_neg (by decide)]

/-- The results agree exactly if all of the cookies can be sent or none. -/
theorem joins_iff (cookies : List RawCookie)
    : (Jar.render .http11 cookies).Joins (Jar.render .http2 cookies)
      ↔ (∀ cookie ∈ cookies, sendable cookie = true)
        ∨ ∀ cookie ∈ cookies, sendable cookie = false := by
  rw [Cookies.Joins, values_render, render_http11]
  by_cases all : ∀ cookie ∈ cookies, sendable cookie = true
  · have everything : cookies.filter sendable = cookies := List.filter_eq_self.mpr all
    refine iff_of_true ?_ (.inl all)
    rw [everything]
    by_cases empty : cookies = []
    · subst empty
      simp
    · rw [if_pos ⟨empty, List.all_eq_true.mpr all⟩]
      simp [join, Function.comp_def, empty]
  · have unsent : ¬(cookies ≠ [] ∧ cookies.all sendable = true) :=
      fun both => all (List.all_eq_true.mp both.2)
    rw [if_neg unsent]
    constructor
    · rintro ⟨-, empty⟩
      refine .inr (fun cookie member => ?_)
      have nothing := List.map_eq_nil_iff.mp (empty.mp rfl)
      exact Bool.eq_false_iff.mpr (List.filter_eq_nil_iff.mp nothing cookie member)
    · rintro (each | none)
      · exact absurd each all
      · have nothing : cookies.filter sendable = [] :=
          List.filter_eq_nil_iff.mpr (fun cookie member => by simp [none cookie member])
        rw [nothing]
        simp

-----------------------------------------------------------------------------------------
-- Jars
-----------------------------------------------------------------------------------------

/-- What is sent to a canonical host is the matching cookies in sending order. -/
theorem cookies_carries {parsers : Parsers} {jar : Store} {uri : Uri} {host : Host}
    (canonical : uri.host.bind (canonicalHost parsers.hostParse) = some host) (version : Version)
    (now : Time)
    : (Jar.cookies parsers jar uri version now).Carries version
        ((Jar.sortedCookies jar uri host now).map (fun item => item.2.2.cookie)) := by
  rw [Jar.cookies_eq_render canonical]
  exact render_carries version _

/-- The results for a jar agree exactly if all of the cookies that match can be put into a field
value or none.
-/
theorem serialisations_agree_iff (parsers : Parsers) (jar : Store) (uri : Uri) (now : Time)
    : (Jar.cookies parsers jar uri .http11 now).Joins (Jar.cookies parsers jar uri .http2 now)
      ↔ ∀ host, uri.host.bind (canonicalHost parsers.hostParse) = some host →
          (∀ item ∈ jar.matchingCookies uri host now, sendable item.2.2.cookie = true)
          ∨ ∀ item ∈ jar.matchingCookies uri host now, sendable item.2.2.cookie = false := by
  cases canonical : uri.host.bind (canonicalHost parsers.hostParse) with
  | none =>
      have unsent (version : Version) : Jar.cookies parsers jar uri version now = .empty := by
        rw [Jar.cookies, canonical]
      rw [unsent, unsent]
      exact iff_of_true ⟨fun listed => absurd rfl listed, iff_of_true rfl rfl⟩ nofun
  | some host =>
      have sorted := Jar.sortedCookies_perm jar uri host now
      rw [Jar.cookies_eq_render canonical, Jar.cookies_eq_render canonical, joins_iff]
      simp only [List.forall_mem_map, sorted.mem_iff, Option.some.injEq, forall_eq']

/-- A cookie with a line break, set by the program, and one without -/
def brokenJar : Store :=
  [ Jar.Op.add (.atPath "a" "1" "/") (page .https "example.com" "/") 0
  , .add (.atPath "b" "2\n" "/") (page .https "example.com" "/") 0 ].foldl
      (Jar.apply Parsers.dns) {}

theorem serialisations_disagree
    : (∃ ops, Run (Jar.Step Parsers.dns) {} ops brokenJar)
      ∧ Jar.cookies Parsers.dns brokenJar (page .https "example.com" "/") .http2 1
        = .uncompressed [{ bytes := ascii "a=1" }]
      ∧ Jar.cookies Parsers.dns brokenJar (page .https "example.com" "/") .http11 1 = .empty
      ∧ ¬(Jar.cookies Parsers.dns brokenJar (page .https "example.com" "/") .http11 1).Joins
          (Jar.cookies Parsers.dns brokenJar (page .https "example.com" "/") .http2 1) := by
  have listed
      : Jar.cookies Parsers.dns brokenJar (page .https "example.com" "/") .http2 1
        = .uncompressed [{ bytes := ascii "a=1" }] := by decide
  have sent
      : Jar.cookies Parsers.dns brokenJar (page .https "example.com" "/") .http11 1 = .empty := by
    decide
  refine ⟨⟨_, Jar.run_foldl Parsers.dns {} _⟩, listed, sent, fun joins => ?_⟩
  rw [listed, sent] at joins
  exact absurd (joins.2.mp rfl) (by decide)

end Tlsurl.Cookie
