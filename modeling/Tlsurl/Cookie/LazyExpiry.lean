import Tlsurl.Cookie.Expiry

/-! Expired entries that stay in the jar, against a store that deletes them when they expire.
A leftover is invisible to every read and to the overlay check. An insertion notices one in a
single case: a new cookie with the value of the leftover takes over its creation index.
-/

namespace Tlsurl.Cookie

open Library

variable {parsers : Parsers} {now later : Time}

-----------------------------------------------------------------------------------------
-- Reads
-----------------------------------------------------------------------------------------

namespace Store

/-- The overlay check passes over leftovers. -/
theorem wouldOverlay_purge (now : Time) (self : Store) (name : Str) (domain : Host) (path : Str)
    : (self.purge now).wouldOverlaySecureCookie name domain path now
      = self.wouldOverlaySecureCookie name domain path now := by
  have unexpired {found : Option CookieEntry} {entry : CookieEntry}
      (live : cookieIsExpired entry.cookie now = false)
      : found.bind (CookieEntry.unexpired now) = some entry ↔ found = some entry := by
    cases found with
    | none => simp
    | some stored =>
        simp only [Option.bind_some, CookieEntry.unexpired]
        split
        · next dead =>
            simp only [reduceCtorEq, Option.some.injEq, false_iff]
            rintro rfl
            cases live.symm.trans dead
        · rfl
  rw [Bool.eq_iff_iff, wouldOverlay_iff, wouldOverlay_iff]
  apply exists_congr
  intro scope
  apply exists_congr
  intro entry
  rw [find_purge]
  constructor
  · rintro ⟨named, found, secure, live, rest⟩
    exact ⟨named, (unexpired live).mp found, secure, live, rest⟩
  · rintro ⟨named, found, secure, live, rest⟩
    exact ⟨named, (unexpired live).mpr found, secure, live, rest⟩

theorem matchingCookies_purge (now : Time) (self : Store) (uri : Uri) (host : Host)
    : (self.purge now).matchingCookies uri host now = self.matchingCookies uri host now := by
  have collected (store : Store)
      : store.matchingCookies uri host now
        = store.collect (fun domain path entry =>
            if requestMatchesCookie uri host domain path entry.cookie now
            then some (domain, path, entry) else none) := rfl
  rw [collected, collected]
  apply collect_purge
  intro domain path entry dead
  have refused : requestMatchesCookie uri host domain path entry.cookie now = false := by
    simp [requestMatchesCookie, dead]
  rw [refused]
  rfl

end Store

namespace Jar

theorem live_purge (now : Time) (jar : Store) : live (jar.purge now) now = live jar now := by
  have kept (entries : List CookieEntry)
      : entries.filter (fun entry => !cookieIsExpired entry.cookie now)
        = entries.filterMap (CookieEntry.unexpired now) := by
    rw [← List.filterMap_eq_filter]
    congr 1
    funext entry
    cases dead : cookieIsExpired entry.cookie now <;>
      simp [Option.guard, CookieEntry.unexpired, dead]
  have collected (store : Store)
      : live store now = store.collect (fun _ _ entry => entry.unexpired now) := by
    simp only [live, kept, Store.collect]
  rw [collected, collected]
  apply Store.collect_purge
  intro _ _ entry dead
  exact if_pos dead

/-- `is_empty` looks for an unexpired entry. -/
theorem isEmpty_eq (jar : Store) : isEmpty jar now = (live jar now).isEmpty := by
  rw [Bool.eq_iff_iff]
  simp [isEmpty, live, Sigma.forall]

/-- The unexpired entries of a name at a path. -/
private theorem named_purge (now : Time) (jar : Store) (host : Host) (path name : Str)
    : (((jar.purge now).scopeMap host path).entries name).filter
          (fun entry => !cookieIsExpired entry.cookie now)
      = ((jar.scopeMap host path).entries name).filter
          (fun entry => !cookieIsExpired entry.cookie now) := by
  rw [Store.scopeMap_purge, CookieScopeMap.entries_purge, List.filter_filterMap,
    ← List.filterMap_eq_filter]
  congr 1
  funext entry
  cases dead : cookieIsExpired entry.cookie now <;>
    simp [Option.guard, CookieEntry.unexpired, dead]

/-- `get` reads the scope map of the path. -/
theorem get_eq (jar : Store) (name : Str) (uri : Uri)
    : get parsers jar name uri now
      = uri.intoUri.bind (fun uri =>
          (uri.host.bind (canonicalHost parsers.hostParse)).bind (fun host =>
            (((((jar.scopeMap host uri.path).entries name).filter
              (fun entry => !cookieIsExpired entry.cookie now)).argmin
                CookieEntry.creationIndex).map CookieEntry.cookie))) := by
  unfold get
  cases uri.intoUri with
  | none => rfl
  | some uri =>
      cases located : uri.host.bind (canonicalHost parsers.hostParse) with
      | none => simp [located]
      | some host =>
          unfold Store.scopeMap
          cases stored : jar.cookies.lookup host with
          | none => simp [located, stored, CookieScopeMap.entries]
          | some pathMap =>
              cases placed : pathMap.lookup uri.path with
              | none => simp [located, stored, placed, CookieScopeMap.entries]
              | some cookieMap => simp [located, stored, placed, Option.map_eq_bind]

/-- So does `contains`. -/
theorem contains_eq (jar : Store) (name : Str) (uri : Uri)
    : contains parsers jar name uri now
      = uri.intoUri.any (fun uri =>
          (uri.host.bind (canonicalHost parsers.hostParse)).any (fun host =>
            !(((jar.scopeMap host uri.path).entries name).filter
              (fun entry => !cookieIsExpired entry.cookie now)).isEmpty)) := by
  unfold contains
  cases uri.intoUri with
  | none => rfl
  | some uri =>
      cases located : uri.host.bind (canonicalHost parsers.hostParse) with
      | none => simp [located]
      | some host =>
          unfold Store.scopeMap
          cases stored : jar.cookies.lookup host with
          | none => simp [located, stored, CookieScopeMap.entries]
          | some pathMap =>
              cases placed : pathMap.lookup uri.path with
              | none => simp [located, stored, placed, CookieScopeMap.entries]
              | some cookieMap =>
                  rw [Bool.eq_iff_iff]
                  simp [located, stored, placed]

/-- Two jars that answer alike at a time. -/
structure AnswersLike (parsers : Parsers) (now : Time) (jar other : Store) : Prop where
  cookies : ∀ uri version,
    cookies parsers jar uri version now = cookies parsers other uri version now
  «matches» : ∀ uri, «matches» parsers jar uri now = «matches» parsers other uri now
  get : ∀ name uri, get parsers jar name uri now = get parsers other name uri now
  contains : ∀ name uri, contains parsers jar name uri now = contains parsers other name uri now
  getAll : getAll jar now = getAll other now
  len : len jar now = len other now
  isEmpty : isEmpty jar now = isEmpty other now

/-- No read notices a purge. -/
theorem answersLike_purge (now : Time) (jar : Store)
    : AnswersLike parsers now jar (jar.purge now) where
  cookies uri version := by
    simp only [Jar.cookies, sortedCookies, Store.matchingCookies_purge]
  «matches» uri := by simp only [Jar.«matches», Store.matchingCookies_purge]
  get name uri := by simp only [get_eq, named_purge]
  contains name uri := by simp only [contains_eq, named_purge]
  getAll := by simp only [Jar.getAll, live_purge]
  len := by simp only [Jar.len, live_purge]
  isEmpty := by simp only [isEmpty_eq, live_purge]

-----------------------------------------------------------------------------------------
-- Operations
-----------------------------------------------------------------------------------------

/-- Adding the cookie stores it over an expired leftover of the same value. -/
def Revives (parsers : Parsers) (jar : Store) (cookie : RawCookie) (uri : Uri) (now : Time)
    : Prop :=
  ∃ prepared old,
    uri.intoUri.bind (fun uri => prepare parsers cookie uri now) = some prepared
    ∧ prepared.Permitted jar now ∧ prepared.expired = false
    ∧ jar.find prepared.scope = some old ∧ cookieIsExpired old.cookie now = true
    ∧ old.cookie.value = prepared.cookie.value

/-- A revival is decided by the preparation of the cookie and the entry that it finds. -/
instance (parsers : Parsers) (jar : Store) (cookie : RawCookie) (uri : Uri) (now : Time)
    : Decidable (Revives parsers jar cookie uri now) :=
  decidable_of_iff
    (∃ prepared ∈ uri.intoUri.bind (fun uri => prepare parsers cookie uri now),
      ∃ old ∈ jar.find prepared.scope,
        (prepared.secureOrigin = false
            → jar.wouldOverlaySecureCookie prepared.cookie.name prepared.domain prepared.path now
              = false)
        ∧ prepared.expired = false ∧ cookieIsExpired old.cookie now = true
        ∧ old.cookie.value = prepared.cookie.value)
    (by
      constructor
      · rintro ⟨prepared, ready, old, found, permitted, fresh, dead, same⟩
        exact ⟨prepared, old, ready, permitted, fresh, found, dead, same⟩
      · rintro ⟨prepared, old, ready, permitted, fresh, found, dead, same⟩
        exact ⟨prepared, ready, old, found, permitted, fresh, dead, same⟩)

/-- Storing over no such leftover does not notice a purge. -/
theorem purge_insertStoredCookie {jar : Store} {domain : Host} {path : Str}
    {cookie : RawCookie}
    (fresh
      : ∀ old, jar.find ⟨domain, path, cookie.domain.isNone, cookie.name⟩ = some old
        → cookieIsExpired old.cookie now = true → old.cookie.value ≠ cookie.value)
    : (jar.insertStoredCookie domain path cookie).purge now
      = ((jar.purge now).insertStoredCookie domain path cookie).purge now := by
  have found : (jar.purge now).get domain path cookie.name cookie.domain.isNone
      = (jar.get domain path cookie.name cookie.domain.isNone).bind
        (CookieEntry.unexpired now) :=
    jar.find_purge now ⟨domain, path, cookie.domain.isNone, cookie.name⟩
  unfold Store.insertStoredCookie
  simp only [found]
  cases stored : jar.get domain path cookie.name cookie.domain.isNone with
  | none => exact jar.purge_write now ..
  | some old =>
      by_cases dead : cookieIsExpired old.cookie now = true
      · have renewed : (old.cookie.value != cookie.value) = true :=
          bne_iff_ne.mpr (fresh old stored dead)
        simp only [Option.bind_some, CookieEntry.unexpired, dead, renewed, if_true]
        exact jar.purge_write now ..
      · simp only [Option.bind_some, CookieEntry.unexpired, dead, Bool.false_eq_true, if_false]
        exact jar.purge_write now ..

/-- Adding a cookie that revives no leftover does not notice a purge. -/
theorem purge_add {jar : Store} {cookie : RawCookie} {uri : Uri}
    (fresh : ¬ Revives parsers jar cookie uri now)
    : (add parsers jar cookie uri now).purge now
      = (add parsers (jar.purge now) cookie uri now).purge now := by
  unfold add
  cases ready : uri.intoUri.bind (fun uri => prepare parsers cookie uri now) with
  | none => exact (jar.purge_purge le_rfl).symm
  | some prepared =>
      obtain ⟨_, _, prepares⟩ := Option.bind_eq_some_iff.mp ready
      simp only [store, Store.wouldOverlay_purge]
      split
      · exact (jar.purge_purge le_rfl).symm
      · next lets =>
          split
          · exact jar.purge_removeStoredCookieInner now ..
          · next unexpired =>
              apply purge_insertStoredCookie
              intro old found dead same
              refine fresh ⟨prepared, old, ready, ?_, by simpa using unexpired, ?_, dead, same⟩
              · intro insecure
                simpa [insecure] using lets
              · rw [← found]
                exact congrArg (fun flag => jar.find ⟨_, _, flag, _⟩)
                  (prepare_spec prepares).2.2.1

/-- One of the cookies of a response revives a leftover when its turn comes. -/
def HeaderRevives (parsers : Parsers) (uri : Uri) : Store → List (HeaderValue × Time) → Prop
  | _, [] => False
  | jar, header :: rest =>
      match parsers.cookieParse header.1.bytes with
      | none => HeaderRevives parsers uri jar rest
      | some cookie =>
          Revives parsers jar cookie uri header.2
          ∨ HeaderRevives parsers uri (add parsers jar cookie uri header.2) rest

/-- The operation stores a cookie over an expired leftover of the same value. -/
def Op.Revives (parsers : Parsers) (jar : Store) : Op → Prop
  | .add cookie uri now => Jar.Revives parsers jar cookie uri now
  | .setCookies cookieHeaders uri => HeaderRevives parsers uri jar cookieHeaders
  | .remove _ _ => False
  | .clear => False

/-- The times at which an operation looks at the clock. -/
def Op.times : Op → List Time
  | .add _ _ now => [now]
  | .setCookies cookieHeaders _ => cookieHeaders.map Prod.snd
  | .remove _ _ => []
  | .clear => []

end Jar

-----------------------------------------------------------------------------------------
-- The reference
-----------------------------------------------------------------------------------------

namespace Reference

/-- `Jar::add` on a store that deletes each entry when it expires. -/
def add (parsers : Parsers) (jar : Store) (cookie : RawCookie) (uri : Uri) (now : Time) : Store :=
  Jar.add parsers (jar.purge now) cookie uri now

/-- `CookieStore::set_cookies` on such a store. -/
def setCookies (parsers : Parsers) (jar : Store) (cookieHeaders : List (HeaderValue × Time))
    (uri : Uri)
    : Store :=
  cookieHeaders.foldl
    (fun jar header =>
      match parsers.cookieParse header.1.bytes with
      | none => jar
      | some cookie => add parsers jar cookie uri header.2)
    jar

/-- An operation on such a store. -/
def apply (parsers : Parsers) (jar : Store) : Jar.Op → Store
  | .add cookie uri now => add parsers jar cookie uri now
  | .setCookies cookieHeaders uri => setCookies parsers jar cookieHeaders uri
  | .remove name uri => Jar.remove parsers jar name uri
  | .clear => Jar.clear jar

/-- The store after operations that start at the given times. -/
def after (parsers : Parsers) (ops : List (Time × Jar.Op)) : Store :=
  ops.foldl (fun jar op => apply parsers (jar.purge op.1) op.2) {}

/-- Two stores without what has expired at a time. -/
def Agree (now : Time) (jar reference : Store) : Prop := jar.purge now = reference.purge now

variable {jar reference : Store}

theorem Agree.mono (agree : Agree now jar reference) (ordered : now ≤ later)
    : Agree later jar reference := by
  unfold Agree at *
  rw [← Store.purge_purge ordered, agree, Store.purge_purge ordered]

/-- An addition keeps the agreement. -/
theorem Agree.add (agree : Agree now jar reference) (ordered : now ≤ later)
    {cookie : RawCookie} {uri : Uri} (fresh : ¬ Jar.Revives parsers jar cookie uri later)
    : Agree later (Jar.add parsers jar cookie uri later)
        (Reference.add parsers reference cookie uri later) := by
  have same : jar.purge later = reference.purge later := agree.mono ordered
  unfold Agree Reference.add
  rw [Jar.purge_add fresh, same]

/-- So do the additions of a response, by induction on its headers. -/
theorem Agree.setCookies {uri : Uri} {cookieHeaders : List (HeaderValue × Time)}
    (agree : Agree now jar reference)
    (ordered : (now :: cookieHeaders.map Prod.snd ++ [later]).Pairwise (· ≤ ·))
    (fresh : ¬ Jar.HeaderRevives parsers uri jar cookieHeaders)
    : Agree later (Jar.setCookies parsers jar cookieHeaders uri)
        (Reference.setCookies parsers reference cookieHeaders uri) := by
  unfold Jar.setCookies Reference.setCookies
  induction cookieHeaders generalizing now jar reference with
  | nil => exact agree.mono (by simpa using ordered)
  | cons header rest ih =>
      obtain ⟨first, later⟩ := List.pairwise_cons.mp ordered
      have next : now ≤ header.2 := first header.2 (by simp)
      simp only [List.foldl_cons]
      unfold Jar.HeaderRevives at fresh
      cases parsed : parsers.cookieParse header.1.bytes with
      | none => exact ih (agree.mono next) later (by simpa [parsed] using fresh)
      | some cookie =>
          simp only [parsed, not_or] at fresh
          exact ih (agree.add next fresh.1) later fresh.2

/-- So does a removal. -/
theorem Agree.remove (agree : Agree now jar reference) (name : Str) (uri : Uri)
    : Agree now (Jar.remove parsers jar name uri) (Jar.remove parsers reference name uri) := by
  unfold Jar.remove
  cases uri.intoUri with
  | none => exact agree
  | some uri =>
      simp only
      cases uri.host.bind (canonicalHost parsers.hostParse) with
      | none => exact agree
      | some host =>
          have same : jar.purge now = reference.purge now := agree
          show (jar.removeStoredCookieInner ..).purge now
            = (reference.removeStoredCookieInner ..).purge now
          rw [Store.purge_removeStoredCookieInner, same,
            ← Store.purge_removeStoredCookieInner]

/-- Every operation that revives nothing keeps the agreement. -/
theorem Agree.apply {op : Jar.Op} (agree : Agree now jar reference)
    (ordered : (now :: op.times ++ [later]).Pairwise (· ≤ ·)) (fresh : ¬ op.Revives parsers jar)
    : Agree later (Jar.apply parsers jar op) (Reference.apply parsers reference op) := by
  cases op with
  | add cookie uri time =>
      have next : now ≤ time ∧ time ≤ later := by
        simp only [Jar.Op.times, List.cons_append, List.nil_append] at ordered
        simp_all
      exact (agree.add next.1 fresh).mono next.2
  | setCookies cookieHeaders uri => exact agree.setCookies ordered fresh
  | remove name uri =>
      have next : now ≤ later := by simpa [Jar.Op.times] using ordered
      exact (agree.remove name uri).mono next
  | clear => rfl

/-- The times at which operations start and look at the clock. -/
def moments (ops : List (Time × Jar.Op)) : List Time :=
  ops.flatMap (fun op => op.1 :: op.2.times)

end Reference

/-- In every run at non-decreasing times whose additions revive no expired leftover, the jar
answers every read as the store that deletes each entry when it expires.
-/
theorem lazy_expiry_unobservable {ops : List (Time × Jar.Op)} {jar : Store}
    (run
      : Run
          (Guarded (fun jar op => ¬ op.2.Revives parsers jar)
            (fun jar op next => Jar.Step parsers jar op.2 next))
          {} ops jar)
    (now : Time) (ordered : (Reference.moments ops ++ [now]).Pairwise (· ≤ ·))
    : Jar.AnswersLike parsers now jar ((Reference.after parsers ops).purge now) := by
  have agree : ∀ time, (Reference.moments ops ++ [time]).Pairwise (· ≤ ·)
      → Reference.Agree time jar (Reference.after parsers ops) := by
    apply run.history
    · rintro past before op after agree ⟨fresh, rfl⟩ time ordered
      have split
          : Reference.moments (past ++ [op]) ++ [time]
            = Reference.moments past ++ (op.1 :: op.2.times ++ [time]) := by
        simp [Reference.moments]
      rw [split] at ordered
      have started : Reference.Agree op.1 before ((Reference.after parsers past).purge op.1) := by
        have earlier := agree op.1 (ordered.sublist (by simp))
        exact earlier.trans (Store.purge_purge le_rfl _).symm
      have applied := started.apply (List.pairwise_append.mp ordered).2.1 fresh
      simpa [Reference.after] using applied
    · intro time _
      rfl
  have same : jar.purge now = (Reference.after parsers ops).purge now := agree now ordered
  rw [← same]
  exact Jar.answersLike_purge now jar

/-- A second, in nanoseconds. -/
def second : Time := 1000000000

/-- A cookie of the root page that lives for ten seconds. -/
def shortLived (name value : String) : RawCookie :=
  { RawCookie.atPath name value "/" with maxAge := some (10 * second) }

/-- Setting cookies on the root page of `a.test`, each at a time in seconds. -/
def settings (cookies : List (Time × RawCookie)) : List (Time × Jar.Op) :=
  cookies.map (fun cookie =>
    (cookie.1 * second, .add cookie.2 (page .http "a.test" "/") (cookie.1 * second)))

/-- After an expired cookie, another is set and then a new one over the leftover, with a value of
its own; it is sent last, as if the leftover had been deleted.
-/
theorem lazy_expiry_unobservable_sample
    : let ops :=
        settings [(0, shortLived "a" "1"), (15, .atPath "b" "2" "/"), (20, shortLived "a" "3")]
      let jar := ops.foldl (fun jar op => Jar.apply .dns jar op.2) {}
      Jar.cookies .dns jar (page .http "a.test" "/") .http11 (21 * second)
          = .compressed { bytes := ascii "b=2; a=3" }
        ∧ Jar.AnswersLike .dns (21 * second) jar
          ((Reference.after .dns ops).purge (21 * second)) := by
  intro ops jar
  have run
      : Run
          (Guarded (fun jar op => ¬ op.2.Revives .dns jar)
            (fun jar op next => Jar.Step .dns jar op.2 next))
          {} ops jar := by
    have first : ¬ Jar.Revives .dns {} (shortLived "a" "1") (page .http "a.test" "/") 0 := by
      decide
    refine .cons ⟨first, rfl⟩ (.cons ⟨?_, rfl⟩ (.cons ⟨?_, rfl⟩ .nil))
    · show ¬ Jar.Revives .dns _ (.atPath "b" "2" "/") (page .http "a.test" "/") (15 * second)
      decide
    · show ¬ Jar.Revives .dns _ (shortLived "a" "3") (page .http "a.test" "/") (20 * second)
      decide
  exact ⟨by decide, lazy_expiry_unobservable run (21 * second) (by decide)⟩

/-- A cookie set anew after it expired overtakes one that was set while it was gone. -/
theorem revived_cookie_sent_first
    : ∃ ops jar now,
        Run (fun jar op next => Jar.Step .dns jar op.2 next) {} ops jar
        ∧ (Reference.moments ops ++ [now]).Pairwise (· ≤ ·)
        ∧ Jar.cookies .dns jar (page .http "a.test" "/") .http11 now
          = .compressed { bytes := ascii "a=1; b=2" }
        ∧ Jar.cookies .dns ((Reference.after .dns ops).purge now) (page .http "a.test" "/")
            .http11 now
          = .compressed { bytes := ascii "b=2; a=1" } := by
  refine ⟨settings [(0, shortLived "a" "1"), (15, .atPath "b" "2" "/"), (20, shortLived "a" "1")],
    _, 21 * second, Run.foldl _ _, ?_, ?_, ?_⟩
  · decide
  · decide
  · decide

end Tlsurl.Cookie
