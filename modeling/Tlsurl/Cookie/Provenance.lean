import Tlsurl.Cookie.Retrieval

/-! Where the cookies of a jar are from.
Whatever is stored was yielded, under the storage rules of RFC 6265, by a cookie that the jar was
given, and what is sent to a URI is chosen from that.
-/

namespace Tlsurl.Cookie

open Library

/-- A cookie that a jar is given, as it was received -/
structure Deposit where
  cookie : RawCookie
  uri : Uri
  now : Time

namespace Deposit

/-- When the cookie expires: its `Max-Age` goes before its `Expires`. -/
def deadline (deposit : Deposit) : Option Time :=
  match deposit.cookie.maxAge with
  | some maxAge => some (min (saturatingAdd deposit.now maxAge) (maxDateTime - 999))
  | none => deposit.cookie.expiresDatetime

/-- The domain that a cookie from `host` belongs to: the host itself, or one that the cookie names
and the host is in
-/
def Belongs (parsers : Parsers) (deposit : Deposit) (host : Host) (scope : Scope) : Prop :=
  scope.hostOnly = true ∧ deposit.cookie.domain = none ∧ scope.domain = host
    ∨ scope.hostOnly = false ∧ host.Within scope.domain
      ∧ ∃ text, deposit.cookie.domain = some text
        ∧ canonicalHost parsers.hostParse text = some scope.domain

/-- What the storage rules make of a cookie -/
structure Yields (parsers : Parsers) (deposit : Deposit) (scope : Scope) (cookie : RawCookie)
    : Prop where
  name : cookie.name = deposit.cookie.name
  value : cookie.value = deposit.cookie.value
  secure : cookie.secure = deposit.cookie.secure
  origin : cookie.secure = some true → deposit.uri.scheme = some .https
  domain
    : ∃ host, deposit.uri.host.bind (canonicalHost parsers.hostParse) = some host
      ∧ deposit.Belongs parsers host scope
  path
    : scope.path = (deposit.cookie.path.filter (fun path => defaultPath.isPrefixOf path)).getD
        (normalizePath deposit.uri.path)
  deadline : cookie.expiresDatetime = deposit.deadline

end Deposit

namespace Jar

variable {parsers : Parsers}

/-- The cookies of header fields that parse -/
def received (parsers : Parsers) (cookieHeaders : List (HeaderValue × Time)) (uri : Uri)
    : List Deposit :=
  cookieHeaders.filterMap (fun header =>
    (parsers.cookieParse header.1.bytes).map (fun cookie => { cookie, uri, now := header.2 }))

/-- The cookies that an operation gives the jar -/
def Op.deposits (parsers : Parsers) : Op → List Deposit
  | .add cookie uri now => [{ cookie, uri, now }]
  | .setCookies cookieHeaders uri => received parsers cookieHeaders uri
  | .remove _ _ => []
  | .clear => []

/-- Setting cookies adds those that parse one by one. -/
theorem setCookies_eq (jar : Store) (cookieHeaders : List (HeaderValue × Time)) (uri : Uri)
    : setCookies parsers jar cookieHeaders uri
      = (received parsers cookieHeaders uri).foldl
          (fun jar deposit => add parsers jar deposit.cookie deposit.uri deposit.now) jar := by
  rw [received, List.foldl_filterMap, setCookies]
  congr 1
  funext jar header
  cases parsers.cookieParse header.1.bytes <;> rfl

/-- The host is in the domain that its cookie is stored for. -/
theorem scopeDomain_within {cookie canonical : RawCookie} {host domain : Host}
    (located : scopeDomain parsers cookie host = some (domain, canonical))
    : host.Within domain := by
  unfold scopeDomain at located
  split at located
  · cases located
    exact .inl rfl
  · split at located
    · cases located
    · split at located
      · cases located
      · next matched =>
          cases located
          exact domainMatch_iff.mp (by simpa using matched)

/-- A cookie that is stored is what the rules make of the one that was given. -/
theorem prepare_yields {cookie : RawCookie} {uri : Uri} {now : Time} {prepared : Prepared}
    (prepares : prepare parsers cookie uri now = some prepared) (fresh : prepared.expired = false)
    : ({ cookie, uri, now } : Deposit).Yields parsers prepared.scope prepared.persisted := by
  simp only [prepare, Option.bind_eq_bind, Option.bind_eq_some_iff] at prepares
  obtain ⟨_, secured, host, canonical, ⟨domain, located⟩, placed, result⟩ := prepares
  have timed (expires : (scopeExpiry located now).1 = false)
      : (scopeExpiry located now).2.name = located.name
        ∧ (scopeExpiry located now).2.value = located.value
        ∧ (scopeExpiry located now).2.secure = located.secure
        ∧ (scopeExpiry located now).2.path = located.path
        ∧ (scopeExpiry located now).2.expiresDatetime
          = ({ cookie := located, uri, now } : Deposit).deadline := by
    unfold scopeExpiry Deposit.deadline at *
    cases aged : located.maxAge with
    | none => exact ⟨rfl, rfl, rfl, rfl, rfl⟩
    | some maxAge =>
        simp only [aged] at expires ⊢
        split
        · next past => simp [past] at expires
        · exact ⟨rfl, rfl, rfl, rfl, rfl⟩
  have hosted := Option.bind_eq_some_iff.mpr canonical
  have origin (secure : cookie.secure = some true) : uri.scheme = some .https := by
    simpa [secure, Uri.isHttps] using secured
  cases result
  obtain ⟨name, value, secure, path, deadline⟩ := timed fresh
  rcases scopeDomain_cases placed with ⟨alone, rfl, rfl⟩ | ⟨text, named, parsed, rfl⟩
  · refine ⟨name, value, secure, fun holds => origin (secure.symm.trans holds), ?_, ?_, deadline⟩
    · exact ⟨domain, hosted, .inl ⟨by simp [Prepared.scope, alone], alone, rfl⟩⟩
    · show ((scopeExpiry located now).2.path.filter _).getD _ = _
      rw [path]
  · refine ⟨name, value, secure, fun holds => origin (secure.symm.trans holds), ?_, ?_, deadline⟩
    · refine ⟨host, hosted, .inr ⟨by simp [Prepared.scope, named], ?_, text, named, parsed⟩⟩
      exact scopeDomain_within placed
    · show ((scopeExpiry _ now).2.path.filter _).getD _ = _
      rw [path]

-----------------------------------------------------------------------------------------
-- Over runs
-----------------------------------------------------------------------------------------

/-- Everything stored is from one of the cookies given. -/
def Accounted (parsers : Parsers) (given : List Deposit) (jar : Store) : Prop :=
  ∀ scope entry, jar.find scope = some entry
    → ∃ deposit ∈ given, deposit.Yields parsers scope entry.cookie

theorem Accounted.mono {given more : List Deposit} {jar : Store}
    (accounted : Accounted parsers given jar) (subset : given ⊆ more)
    : Accounted parsers more jar := by
  intro scope entry found
  obtain ⟨deposit, member, yields⟩ := accounted scope entry found
  exact ⟨deposit, subset member, yields⟩

/-- Where nothing new is found, nothing new is to be accounted for. -/
theorem Accounted.of_find {given : List Deposit} {jar next : Store}
    (accounted : Accounted parsers given jar)
    (kept : ∀ scope, next.find scope = jar.find scope ∨ next.find scope = none)
    : Accounted parsers given next := by
  intro scope entry found
  rcases kept scope with same | gone
  · exact accounted scope entry (same ▸ found)
  · cases gone.symm.trans found

/-- Adding one of the cookies given keeps the account. -/
theorem Accounted.add {given : List Deposit} {jar : Store}
    (accounted : Accounted parsers given jar) {deposit : Deposit} (member : deposit ∈ given)
    : Accounted parsers given (Jar.add parsers jar deposit.cookie deposit.uri deposit.now) := by
  have done := add_cases parsers jar deposit.cookie deposit.uri deposit.now
  generalize Jar.add parsers jar deposit.cookie deposit.uri deposit.now = next at done
  cases done with
  | ignored => exact accounted
  | removed prepares permitted =>
      refine accounted.of_find (fun scope => ?_)
      rw [Store.removeStoredCookie, Store.find_removeStoredCookieInner]
      split
      · exact .inr rfl
      · exact .inl rfl
  | stored prepares permitted fresh =>
      rename_i prepared
      obtain ⟨index, reads⟩ :=
        jar.find_insertStoredCookie prepared.domain prepared.path prepared.persisted
      have hostOnly : prepared.hostOnly = prepared.cookie.domain.isNone :=
        (prepare_spec prepares).2.2.1
      intro scope entry found
      rw [reads] at found
      split at found
      · next same =>
          cases found
          have here : scope = prepared.scope := by rw [same, Prepared.scope, hostOnly]; rfl
          exact ⟨deposit, member, here ▸ prepare_yields prepares fresh⟩
      · exact accounted scope entry found

/-- Adding cookies one by one keeps the account, by induction on them. -/
theorem Accounted.foldl_add {given : List Deposit} (deposits : List Deposit) {jar : Store}
    (accounted : Accounted parsers given jar) (members : deposits ⊆ given)
    : Accounted parsers given
        (deposits.foldl
          (fun jar deposit => Jar.add parsers jar deposit.cookie deposit.uri deposit.now) jar) := by
  induction deposits generalizing jar with
  | nil => exact accounted
  | cons deposit deposits ih =>
      have added := accounted.add (members List.mem_cons_self)
      exact ih added (fun other later => members (List.mem_cons_of_mem deposit later))

/-- An operation keeps the account, with what it gives the jar. -/
theorem Accounted.apply {given : List Deposit} {jar : Store}
    (accounted : Accounted parsers given jar) (op : Op)
    : Accounted parsers (given ++ op.deposits parsers) (Jar.apply parsers jar op) := by
  have more := accounted.mono (List.subset_append_left given (op.deposits parsers))
  cases op with
  | add cookie uri now =>
      have member : (⟨cookie, uri, now⟩ : Deposit) ∈ given ++ [⟨cookie, uri, now⟩] := by simp
      exact more.add member
  | setCookies cookieHeaders uri =>
      rw [Jar.apply, setCookies_eq]
      exact more.foldl_add _ (List.subset_append_right given _)
  | remove name uri => exact more.of_find (find_remove parsers jar name uri)
  | clear => exact more.of_find (fun scope => .inr rfl)

/-- Whatever a jar has stored is from a cookie that it was given. -/
theorem run_accounted {ops : List Op} {jar : Store} (run : Run (Step parsers) {} ops jar)
    : Accounted parsers (ops.flatMap (Op.deposits parsers)) jar := by
  apply run.history
  · intro past before op after accounted step
    cases step
    rw [List.flatMap_append, List.flatMap_singleton]
    exact accounted.apply op
  · intro scope entry found
    simp [Store.find, Store.get] at found

/-- What is sent to a URI is from cookies given to the jar that match the URI at that time. -/
theorem cookies_accounted {ops : List Op} {jar : Store} (run : Run (Step parsers) {} ops jar)
    {uri : Uri} {host : Host}
    (canonical : uri.host.bind (canonicalHost parsers.hostParse) = some host)
    (version : Version) (now : Time)
    : ∃ sent : List RawCookie, cookies parsers jar uri version now = render version sent
      ∧ ∀ cookie ∈ sent, ∃ scope,
        Matches uri host now scope.domain scope.path scope.hostOnly cookie
        ∧ ∃ deposit ∈ ops.flatMap (Op.deposits parsers), deposit.Yields parsers scope cookie := by
  refine ⟨_, cookies_eq_render canonical version now, fun cookie member => ?_⟩
  obtain ⟨found, sorted, rfl⟩ := List.mem_map.mp member
  have matching := (sortedCookies_perm jar uri host now).mem_iff.mp sorted
  rw [Store.matchingCookies_eq] at matching
  obtain ⟨⟨scope, entry⟩, chosen, rfl⟩ := List.mem_map.mp matching
  obtain ⟨stored, accepted⟩ := List.mem_filter.mp chosen
  have present := Store.mem_stored.mp stored
  have fit := run_wellScoped run scope entry present
  exact ⟨scope, (requestMatchesCookie_iff fit.hostOnly fit.persisted).mp accepted,
    run_accounted run scope entry present⟩

end Jar

end Tlsurl.Cookie
