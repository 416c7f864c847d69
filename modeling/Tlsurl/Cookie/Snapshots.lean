import Tlsurl.Cookie.Queries
import Tlsurl.Cookie.Representation
import Tlsurl.Library.Sorting

/-! Exporting the cookies of a jar and importing them into an empty one (`cookie/jar.rs`).
What a jar has stored passes `Jar::add` unchanged, so the import has the same cookies at the same
scopes, numbered from zero in the order of the export; sorting sees no difference.
-/

namespace Tlsurl.Cookie

open Library

-----------------------------------------------------------------------------------------
-- The export
-----------------------------------------------------------------------------------------

/-- Every scope is stored once. -/
theorem Store.nodup_stored (self : Store) : (self.stored.map Prod.fst).Nodup := by
  have names (domain : Host) (path : Str) (flag : Bool) (map : NameMap)
      : (map.entries.map (fun byName => (⟨domain, path, flag, byName.1⟩ : Scope))).Nodup := by
    have keys : (map.entries.map Sigma.fst).Nodup := map.nodupKeys
    have named : Function.Injective (fun name => (⟨domain, path, flag, name⟩ : Scope)) :=
      fun _ _ same => (Scope.mk.inj same).2.2.2
    have mapped := keys.map named
    rw [List.map_map] at mapped
    exact mapped
  simp only [stored, List.map_flatMap, List.map_append, List.map_map]
  refine AssocMap.nodup_flatMap _ _ Scope.domain (fun byDomain _ => ?_) ?_
  · refine AssocMap.nodup_flatMap _ _ Scope.path (fun byPath _ => ?_) ?_
    · refine List.nodup_append.mpr ⟨names _ _ true _, names _ _ false _, ?_⟩
      intro scope hostOnly other shared
      obtain ⟨_, -, rfl⟩ := List.mem_map.mp hostOnly
      obtain ⟨_, -, rfl⟩ := List.mem_map.mp shared
      exact fun same => by cases (Scope.mk.inj same).2.2.1
    · intro byPath _ scope member
      rcases List.mem_append.mp member with hostOnly | shared
      · obtain ⟨_, -, rfl⟩ := List.mem_map.mp hostOnly
        rfl
      · obtain ⟨_, -, rfl⟩ := List.mem_map.mp shared
        rfl
  · intro byDomain _ scope member
    obtain ⟨byPath, -, inside⟩ := List.mem_flatMap.mp member
    rcases List.mem_append.mp inside with hostOnly | shared
    · obtain ⟨_, -, rfl⟩ := List.mem_map.mp hostOnly
      rfl
    · obtain ⟨_, -, rfl⟩ := List.mem_map.mp shared
      rfl

namespace Jar

instance : Std.Total (fun left right : Scope × CookieEntry =>
    left.2.creationIndex ≤ right.2.creationIndex) :=
  ⟨fun _ _ => Nat.le_total _ _⟩

instance : IsTrans (Scope × CookieEntry) (fun left right =>
    left.2.creationIndex ≤ right.2.creationIndex) :=
  ⟨fun _ _ _ => Nat.le_trans⟩

/-- The unexpired cookies with their scopes, in creation order -/
def exported (jar : Store) (now : Time) : List (Scope × CookieEntry) :=
  (jar.stored.filter (fun stored => !cookieIsExpired stored.2.cookie now)).insertionSort
    (fun left right => left.2.creationIndex ≤ right.2.creationIndex)

/-- The snapshots are those of the export. -/
theorem getAll_eq (jar : Store) (now : Time)
    : getAll jar now = (exported jar now).map (fun stored => stored.2.cookie) := by
  have all
      : live jar now
        = (jar.stored.filter (fun stored => !cookieIsExpired stored.2.cookie now)).map
            Prod.snd := by
    simp only [live, Store.stored, List.filter_flatMap, List.map_flatMap]
    congr 1
    funext byDomain
    congr 1
    funext byPath
    simp [CookieScopeMap.values, List.filter_map, Function.comp_def]
  rw [getAll, all, exported,
    ← List.map_insertionSort
      (fun left right : Scope × CookieEntry => left.2.creationIndex ≤ right.2.creationIndex) _
      Prod.snd _ (fun _ _ _ _ => Iff.rfl),
    List.map_map]
  rfl

-----------------------------------------------------------------------------------------
-- The import
-----------------------------------------------------------------------------------------

variable {parsers : Parsers} {now : Time}

/-- The snapshots are added to an empty jar, each from the origin of its scope. -/
def imported (parsers : Parsers) (origin : Scope → Uri) (now : Time)
    (snapshots : List (Scope × CookieEntry))
    : Store :=
  snapshots.foldl (fun jar stored => add parsers jar stored.2.cookie (origin stored.1) now) {}

/-- An https URI whose host is the domain of the scope -/
structure Origin (parsers : Parsers) (uri : Uri) (scope : Scope) : Prop where
  https : uri.isHttps = true
  host : uri.host = some (parsers.hostToString scope.domain)

/-- The `Domain` attribute of what is stored is the domain of its scope. -/
theorem scopeDomain_snapshot (reparses : parsers.Reparses) {scope : Scope} {entry : CookieEntry}
    (kept : entry.Kept parsers scope) (undotted : ¬Dotted parsers scope.domain)
    : scopeDomain parsers entry.cookie scope.domain = some (scope.domain, entry.cookie) := by
  obtain ⟨_, parsed⟩ := kept.parsed
  have canonical := reparses.canonicalHost parsed undotted
  have domain := kept.domain (fun _ => undotted)
  unfold scopeDomain
  rw [domain]
  split
  next => rfl
  next text read =>
    split at read
    · cases read
    · next shared =>
        cases read
        have same : entry.cookie.domainAttribute
            = some (parsers.hostToString scope.domain) := by
          rw [kept.text, if_neg shared]
        simp [canonical, domainMatch, ← same]

/-- Its lifetime is a deadline already. -/
theorem scopeExpiry_snapshot {scope : Scope} {entry : CookieEntry}
    (kept : entry.Kept parsers scope) (unexpired : cookieIsExpired entry.cookie now = false)
    : scopeExpiry entry.cookie now = (false, entry.cookie) := by
  have deadline := (Bool.or_eq_false_iff.mp unexpired).2
  unfold scopeExpiry
  rw [kept.maxAge]
  simp only [deadline]

/-- What is stored passes `Jar::add` unchanged. -/
theorem add_snapshot (reparses : parsers.Reparses) {scope : Scope} {entry : CookieEntry}
    (kept : entry.Kept parsers scope) (undotted : ¬Dotted parsers scope.domain)
    (unexpired : cookieIsExpired entry.cookie now = false) {uri : Uri}
    (origin : Origin parsers uri scope) (jar : Store)
    : add parsers jar entry.cookie uri now
      = jar.insertStoredCookie scope.domain scope.path entry.cookie := by
  obtain ⟨_, parsed⟩ := kept.parsed
  have canonical := reparses.canonicalHost parsed undotted
  have located := scopeDomain_snapshot reparses kept undotted
  have fresh := scopeExpiry_snapshot kept unexpired
  have accepted : uri.intoUri = some uri := by
    have scheme : uri.scheme = some .https := by simpa [Uri.isHttps] using origin.https
    have host := origin.host
    refine Uri.intoUri_eq_some.mpr ⟨rfl, by simp [scheme], ?_⟩
    cases present : uri.authority with
    | none => simp [Uri.host, present] at host
    | some authority => rfl
  have path : entry.cookie.path.filter (fun path => defaultPath.isPrefixOf path)
      = some scope.path := by
    rw [kept.path]
    exact Option.filter_eq_some_iff.mpr ⟨rfl, kept.absolute⟩
  have prepares : prepare parsers entry.cookie uri now
      = some
        { cookie := entry.cookie
          domain := scope.domain
          path := scope.path
          hostOnly := entry.cookie.domain.isNone
          expired := false
          secureOrigin := true } := by
    simp [prepare, origin.https, origin.host, canonical, located, fresh, path, guard]
  have persisted : { entry.cookie with path := some scope.path } = entry.cookie := by
    rw [← kept.path]
  simp [add, accepted, prepares, store, persisted]

/-- A stored cookie with its place in the export in place of its index -/
def renumber (snapshots : List (Scope × CookieEntry)) (stored : Scope × CookieEntry)
    : Scope × CookieEntry :=
  (stored.1, { stored.2 with creationIndex := snapshots.idxOf stored })

/-- A jar that has imported the first of the snapshots -/
structure Importing (snapshots done : List (Scope × CookieEntry)) (jar : Store) : Prop where
  found : ∀ scope entry, jar.find scope = some entry
    ↔ ∃ stored ∈ done, renumber snapshots stored = (scope, entry)
  counted : jar.nextCreationIndex = done.length

/-- What an export must be to be imported as it is -/
structure Importable (parsers : Parsers) (origin : Scope → Uri) (now : Time)
    (snapshots : List (Scope × CookieEntry))
    : Prop where
  kept : ∀ stored ∈ snapshots, stored.2.Kept parsers stored.1
  undotted : ∀ stored ∈ snapshots, ¬Dotted parsers stored.1.domain
  unexpired : ∀ stored ∈ snapshots, cookieIsExpired stored.2.cookie now = false
  origin : ∀ stored ∈ snapshots, Origin parsers (origin stored.1) stored.1
  nodup : (snapshots.map Prod.fst).Nodup
  few : snapshots.length < 2 ^ 64 - 1

/-- The next snapshot goes to a scope of its own, under the number of its place. -/
theorem Importing.snoc {snapshots done rest : List (Scope × CookieEntry)}
    {next : Scope × CookieEntry} {jar : Store} (before : Importing snapshots done jar)
    (split : done ++ next :: rest = snapshots) (nodup : (snapshots.map Prod.fst).Nodup)
    (few : snapshots.length < 2 ^ 64 - 1) (kept : next.2.Kept parsers next.1)
    : Importing snapshots (done ++ [next])
        (jar.insertStoredCookie next.1.domain next.1.path next.2.cookie) := by
  rw [← split, List.map_append, List.map_cons, List.nodup_append] at nodup
  have fresh (stored : Scope × CookieEntry) (inside : stored ∈ done) : stored.1 ≠ next.1 :=
    nodup.2.2 _ (List.mem_map_of_mem inside) _ (List.mem_cons_self ..)
  have empty : jar.find next.1 = none := by
    cases found : jar.find next.1 with
    | none => rfl
    | some entry =>
        obtain ⟨stored, inside, same⟩ := (before.found _ _).mp found
        exact absurd (congrArg Prod.fst same) (fresh stored inside)
  have place : renumber snapshots next
      = (next.1, { next.2 with creationIndex := jar.nextCreationIndex }) := by
    have absent : next ∉ done := fun inside => fresh next inside rfl
    rw [renumber, ← split, List.idxOf_append_of_notMem absent, List.idxOf_cons_self,
      before.counted]
    rfl
  have short : done.length < snapshots.length := by simp [← split]
  obtain ⟨index, written, numbered⟩ :=
    jar.insertStoredCookie_spec next.1.domain next.1.path next.2.cookie
  rw [kept.scope] at written numbered
  rcases numbered with ⟨-, entry, occupied, -⟩ | ⟨rfl, counted⟩
  · cases empty.symm.trans occupied
  · constructor
    · intro scope entry
      simp only [written, List.mem_append, List.mem_singleton, or_and_right, exists_or,
        exists_eq_left, place, ← before.found, Prod.mk.injEq]
      split
      · next here =>
          rw [here, empty]
          simp
      · next elsewhere =>
          simp [Ne.symm elsewhere]
    · rw [counted, before.counted, Store.nextIndex, List.length_append, List.length_singleton]
      omega

/-- Whatever is left of the snapshots is imported after the others, by induction on it. -/
theorem Importing.rest (reparses : parsers.Reparses) {origin : Scope → Uri}
    {snapshots done rest : List (Scope × CookieEntry)}
    (importable : Importable parsers origin now snapshots) (split : done ++ rest = snapshots)
    {jar : Store} (before : Importing snapshots done jar)
    : Importing snapshots snapshots
        (rest.foldl (fun jar stored => add parsers jar stored.2.cookie (origin stored.1) now)
          jar) := by
  induction rest generalizing done jar with
  | nil =>
      rw [List.append_nil] at split
      rwa [split] at before
  | cons next rest ih =>
      have member : next ∈ snapshots := by simp [← split]
      have kept := importable.kept next member
      rw [List.foldl_cons, add_snapshot reparses kept (importable.undotted next member)
        (importable.unexpired next member) (importable.origin next member)]
      exact ih (by rw [List.append_assoc]; exact split)
        (before.snoc split importable.nodup importable.few kept)

/-- The import stores the snapshots where they were. -/
theorem importing (reparses : parsers.Reparses) {origin : Scope → Uri}
    {snapshots : List (Scope × CookieEntry)}
    (importable : Importable parsers origin now snapshots)
    : Importing snapshots snapshots (imported parsers origin now snapshots) := by
  refine Importing.rest reparses importable (List.nil_append _) ⟨fun scope entry => ?_, rfl⟩
  simp [Store.find, Store.get]

-----------------------------------------------------------------------------------------
-- Both jars
-----------------------------------------------------------------------------------------

variable {jar : Store}

theorem mem_exported {stored : Scope × CookieEntry}
    : stored ∈ exported jar now
      ↔ jar.find stored.1 = some stored.2 ∧ cookieIsExpired stored.2.cookie now = false := by
  rw [exported, List.mem_insertionSort, List.mem_filter, Store.mem_stored, Bool.not_eq_true']

theorem exported_perm (jar : Store) (now : Time)
    : (exported jar now).Perm
        (jar.stored.filter (fun stored => !cookieIsExpired stored.2.cookie now)) :=
  List.perm_insertionSort _ _

theorem nodup_exported (jar : Store) (now : Time) : ((exported jar now).map Prod.fst).Nodup := by
  rw [((exported_perm jar now).map Prod.fst).nodup_iff]
  exact jar.nodup_stored.sublist (List.filter_sublist.map _)

/-- An import stores the renumbered snapshots. -/
theorem Importing.stored {snapshots : List (Scope × CookieEntry)} {other : Store}
    (importing : Importing snapshots snapshots other)
    (nodup : (snapshots.map Prod.fst).Nodup)
    : other.stored.Perm (snapshots.map (renumber snapshots)) := by
  have renumbered : ((snapshots.map (renumber snapshots)).map Prod.fst).Nodup := by
    rw [List.map_map]
    exact nodup
  refine (List.perm_ext_iff_of_nodup other.nodup_stored.of_map renumbered.of_map).mpr ?_
  rintro ⟨scope, entry⟩
  rw [Store.mem_stored, importing.found, List.mem_map]

/-- What is read of unexpired cookies is read of both jars. -/
theorem Importing.filter_stored {other : Store}
    (importing : Importing (exported jar now) (exported jar now) other)
    (reads : Scope → RawCookie → Bool)
    (live : ∀ scope cookie, reads scope cookie = true → cookieIsExpired cookie now = false)
    : (other.stored.filter (fun stored => reads stored.1 stored.2.cookie)).Perm
        ((jar.stored.filter (fun stored => reads stored.1 stored.2.cookie)).map
          (renumber (exported jar now))) := by
  have all := (importing.stored (nodup_exported jar now)).filter
    (fun stored => reads stored.1 stored.2.cookie)
  have unexpired
      : (jar.stored.filter (fun stored => !cookieIsExpired stored.2.cookie now)).filter
          (fun stored => reads stored.1 stored.2.cookie)
        = jar.stored.filter (fun stored => reads stored.1 stored.2.cookie) := by
    rw [List.filter_filter]
    refine List.filter_congr (fun stored _ => ?_)
    cases read : reads stored.1 stored.2.cookie with
    | false => rfl
    | true => simp [live _ _ read]
  rw [List.filter_map] at all
  refine all.trans (List.Perm.map _ ?_)
  rw [← unexpired]
  exact (exported_perm jar now).filter _

/-- Snapshots have indexes of their own. -/
theorem eq_of_index (numbered : jar.Numbered) {left right : Scope × CookieEntry}
    (first : left ∈ exported jar now) (second : right ∈ exported jar now)
    (same : left.2.creationIndex = right.2.creationIndex)
    : left = right := by
  have found := (mem_exported.mp first).1
  have scope := numbered.distinct _ _ _ _ found (mem_exported.mp second).1 same
  rw [scope, (mem_exported.mp second).1] at found
  exact Prod.ext scope (Option.some.inj found).symm

/-- They are in the order of their indexes. -/
theorem index_le_iff (numbered : jar.Numbered) {left right : Scope × CookieEntry}
    (first : left ∈ exported jar now) (second : right ∈ exported jar now)
    : left.2.creationIndex ≤ right.2.creationIndex
      ↔ (exported jar now).idxOf left ≤ (exported jar now).idxOf right :=
  key_le_iff_idxOf_le (fun stored : Scope × CookieEntry => stored.2.creationIndex)
    (List.pairwise_insertionSort _ _)
    (fun _ inside _ other same => eq_of_index numbered inside other same) first second

/-- Sorting what is read of both jars by paths and indexes gives the same cookies. -/
theorem Importing.sorted {other : Store}
    (importing : Importing (exported jar now) (exported jar now) other)
    (reads : Scope → RawCookie → Bool)
    (live : ∀ scope cookie, reads scope cookie = true → cookieIsExpired cookie now = false)
    {β : Type} {s : β → β → Prop} [DecidableRel s] [Std.Total s] [IsTrans β s]
    (view : Scope × CookieEntry → β)
    (keeps
      : ∀ left ∈ exported jar now, ∀ right ∈ exported jar now,
          s (view left) (view right)
          ↔ s (view (renumber (exported jar now) left)) (view (renumber (exported jar now) right)))
    (antisymm
      : ∀ left ∈ exported jar now, ∀ right ∈ exported jar now,
          s (view left) (view right) → s (view right) (view left) → left = right)
    : ∃ order : List (Scope × CookieEntry),
        ((other.stored.filter (fun stored => reads stored.1 stored.2.cookie)).map
            view).insertionSort s
          = order.map (fun stored => view (renumber (exported jar now) stored))
        ∧ ((jar.stored.filter (fun stored => reads stored.1 stored.2.cookie)).map
            view).insertionSort s
          = order.map view := by
  have inside (stored : Scope × CookieEntry)
      (member : stored ∈ jar.stored.filter (fun stored => reads stored.1 stored.2.cookie))
      : stored ∈ exported jar now := by
    obtain ⟨found, read⟩ := List.mem_filter.mp member
    exact mem_exported.mpr ⟨Store.mem_stored.mp found, live _ _ read⟩
  refine ⟨(jar.stored.filter (fun stored => reads stored.1 stored.2.cookie)).insertionSort
    (fun left right => s (view left) (view right)), ?_, ?_⟩
  · have same := (importing.filter_stored reads live).map view
    rw [List.map_map] at same
    refine insertionSort_eq_map same ?_ ?_
    · intro left first right second
      exact keeps left (inside left first) right (inside right second)
    · intro left first right second before after
      have kept := keeps left (inside left first) right (inside right second)
      have keptBack := keeps right (inside right second) left (inside left first)
      rw [antisymm left (inside left first) right (inside right second) (kept.mpr before)
        (keptBack.mpr after)]
  · exact (List.map_insertionSort _ s view _ (fun _ _ _ _ => Iff.rfl)).symm

/-- An import exports the same snapshots from then on. -/
theorem Importing.getAll {other : Store}
    (importing : Importing (exported jar now) (exported jar now) other)
    (numbered : jar.Numbered) {later : Time} (ordered : now ≤ later)
    : Jar.getAll other later = Jar.getAll jar later := by
  have live (scope : Scope) (cookie : RawCookie)
      (unexpired : (!cookieIsExpired cookie later) = true)
      : cookieIsExpired cookie now = false := by
    refine Bool.eq_false_iff.mpr (fun expired => ?_)
    rw [cookieIsExpired_mono ordered expired] at unexpired
    cases unexpired
  obtain ⟨order, imported, kept⟩ := importing.sorted
    (fun _ cookie => !cookieIsExpired cookie later) live
    (s := fun left right => left.2.creationIndex ≤ right.2.creationIndex) id
    (fun left first right second => index_le_iff numbered first second)
    (fun left first right second before after =>
      eq_of_index numbered first second (Nat.le_antisymm before after))
  rw [List.map_id] at imported kept
  rw [getAll_eq, getAll_eq, exported, exported, imported, kept, List.map_map, List.map_map]
  rfl

/-- Matching looks at scopes and cookies, and only at unexpired ones. -/
theorem matching_live {uri : Uri} {host : Host} {later : Time} (ordered : now ≤ later)
    (scope : Scope) (cookie : RawCookie)
    (selects : requestMatchesCookie uri host scope.domain scope.path cookie later = true)
    : cookieIsExpired cookie now = false := by
  unfold requestMatchesCookie at selects
  split at selects
  · cases selects
  · refine Bool.eq_false_iff.mpr (fun expired => ?_)
    rw [cookieIsExpired_mono ordered expired] at selects
    cases selects

/-- The same cookies match in both jars. -/
theorem Importing.matchingCookies {other : Store}
    (importing : Importing (exported jar now) (exported jar now) other) {later : Time}
    (ordered : now ≤ later) (uri : Uri) (host : Host)
    : ((other.matchingCookies uri host later).map (fun item => item.2.2.cookie)).Perm
        ((jar.matchingCookies uri host later).map (fun item => item.2.2.cookie)) := by
  have same := importing.filter_stored
    (fun scope cookie => requestMatchesCookie uri host scope.domain scope.path cookie later)
    (matching_live ordered)
  rw [Store.matchingCookies_eq, Store.matchingCookies_eq, List.map_map, List.map_map]
  have cookies := same.map ((fun item => item.2.2.cookie) ∘ item)
  rw [List.map_map] at cookies
  exact cookies

/-- They are sent in the same order. -/
theorem Importing.sortedCookies {other : Store}
    (importing : Importing (exported jar now) (exported jar now) other)
    (numbered : jar.Numbered) {later : Time} (ordered : now ≤ later) (uri : Uri) (host : Host)
    : (Jar.sortedCookies other uri host later).map (fun item => item.2.2.cookie)
      = (Jar.sortedCookies jar uri host later).map (fun item => item.2.2.cookie) := by
  obtain ⟨order, imported, kept⟩ := importing.sorted
    (fun scope cookie => requestMatchesCookie uri host scope.domain scope.path cookie later)
    (matching_live ordered) (s := before) item
    (fun left first right second => by
      have indexes := index_le_iff numbered first second
      simp only [before, item, renumber, indexes])
    (fun left first right second ahead behind => by
      simp only [before, item] at ahead behind
      exact eq_of_index numbered first second (by omega))
  rw [Jar.sortedCookies, Jar.sortedCookies, Store.matchingCookies_eq, Store.matchingCookies_eq,
    imported, kept, List.map_map, List.map_map]
  rfl

/-- There are fewer snapshots than numbers were given. -/
theorem length_exported_le (numbered : jar.Numbered) (now : Time)
    : (exported jar now).length ≤ jar.nextCreationIndex := by
  have distinct : ((exported jar now).map (fun stored => stored.2.creationIndex)).Nodup := by
    refine (nodup_exported jar now).of_map.map_on (fun left first right second same => ?_)
    exact eq_of_index numbered first second same
  have below
      : (exported jar now).map (fun stored => stored.2.creationIndex)
        ⊆ List.range jar.nextCreationIndex := by
    intro index member
    obtain ⟨stored, inside, rfl⟩ := List.mem_map.mp member
    exact List.mem_range.mpr (numbered.below _ _ (mem_exported.mp inside).1)
  have bound := distinct.length_le_of_subset below
  rwa [List.length_map, List.length_range] at bound

end Jar

/-- Importing the snapshots of a jar into an empty one, each from the domain it is stored under,
gives a jar with the same cookies at the same scopes and, from then on, the same answers; unless a
domain begins with a dot or the numbers are used up.
-/
theorem snapshots_reimport {parsers : Parsers} (reparses : parsers.Reparses) {ops : List Jar.Op}
    {jar : Store} (run : Run (Jar.Step parsers) {} ops jar) (unsaturated : jar.Unsaturated)
    {now : Time}
    (undotted
      : ∀ scope entry, jar.find scope = some entry → cookieIsExpired entry.cookie now = false →
          ¬Dotted parsers scope.domain)
    {origin : Scope → Uri}
    (origins
      : ∀ scope entry, jar.find scope = some entry →
          (origin scope).isHttps = true
          ∧ (origin scope).host = some (parsers.hostToString scope.domain))
    : let other := Jar.imported parsers origin now (Jar.exported jar now)
      Jar.getAll jar now = (Jar.exported jar now).map (fun stored => stored.2.cookie)
      ∧ (∀ later, now ≤ later →
          (∀ uri,
            (Jar.«matches» parsers other uri later).Perm (Jar.«matches» parsers jar uri later))
          ∧ (∀ uri version,
            Jar.cookies parsers other uri version later
              = Jar.cookies parsers jar uri version later)
          ∧ Jar.getAll other later = Jar.getAll jar later)
      ∧ ∀ scope cookie,
          (∃ copy, other.find scope = some copy ∧ copy.cookie = cookie)
          ↔ ∃ entry, jar.find scope = some entry ∧ entry.cookie = cookie
              ∧ cookieIsExpired cookie now = false := by
  intro other
  have sound := Jar.run_sound run
  have numbered := sound.numbered unsaturated
  have importable : Jar.Importable parsers origin now (Jar.exported jar now) := by
    refine ⟨?_, ?_, ?_, ?_, Jar.nodup_exported jar now,
      Nat.lt_of_le_of_lt (Jar.length_exported_le numbered now) unsaturated⟩
    all_goals
      intro stored member
      obtain ⟨found, unexpired⟩ := Jar.mem_exported.mp member
    · exact sound.entries _ _ found
    · exact undotted _ _ found unexpired
    · exact unexpired
    · exact ⟨(origins _ _ found).1, (origins _ _ found).2⟩
  have importing := Jar.importing reparses importable
  refine ⟨Jar.getAll_eq jar now, fun later ordered => ⟨fun uri => ?_, fun uri version => ?_,
    importing.getAll numbered ordered⟩, fun scope cookie => ?_⟩
  · unfold Jar.«matches»
    split
    · exact .refl _
    · split
      · exact .refl _
      · exact importing.matchingCookies ordered _ _
  · unfold Jar.cookies
    split
    · rfl
    · next host canonical =>
        have sent := importing.sortedCookies numbered ordered uri host
        rw [sent]
  · constructor
    · rintro ⟨copy, found, rfl⟩
      obtain ⟨stored, member, same⟩ := (importing.found _ _).mp found
      obtain ⟨located, unexpired⟩ := Jar.mem_exported.mp member
      cases same
      exact ⟨stored.2, located, rfl, unexpired⟩
    · rintro ⟨entry, found, rfl, unexpired⟩
      exact ⟨_, (importing.found _ _).mpr ⟨(scope, entry), Jar.mem_exported.mpr ⟨found, unexpired⟩,
        rfl⟩, rfl⟩

section Sample

/-- The root of the domain of a scope -/
def rootOf (scope : Scope) : Uri where
  scheme := some .https
  authority := some { host := Parsers.dns.hostToString scope.domain }
  path := ascii "/"

/-- A host-only cookie and one for the domain -/
def sampleJar : Store :=
  [ Jar.Op.add (.atPath "a" "1" "/x") (page .https "a.test" "/") 0
  , .add (sharedCookie "a.test") (page .https "a.test" "/") 0 ].foldl (Jar.apply .dns) {}

theorem sampleJar_domain (scope : Scope) (entry : CookieEntry)
    (found : sampleJar.find scope = some entry)
    : scope.domain = .domain (ascii "a.test") := by
  have all : ∀ stored ∈ sampleJar.stored, stored.1.domain = .domain (ascii "a.test") := by
    decide
  exact all _ (Store.mem_stored.mpr found)

theorem snapshots_reimport_sample
    : Jar.getAll (Jar.imported .dns rootOf 1 (Jar.exported sampleJar 1)) 1
      = Jar.getAll sampleJar 1 := by
  have unsaturated : sampleJar.Unsaturated := by
    unfold Store.Unsaturated
    decide
  have undotted : ¬Dotted .dns (.domain (ascii "a.test")) := by
    unfold Dotted
    decide
  have origins (scope : Scope) (entry : CookieEntry) (_ : sampleJar.find scope = some entry)
      : (rootOf scope).isHttps = true
        ∧ (rootOf scope).host = some (Parsers.dns.hostToString scope.domain) :=
    ⟨rfl, rfl⟩
  obtain ⟨-, later, -⟩ := snapshots_reimport dns_reparses (Jar.run_foldl .dns {} _) unsaturated
    (fun scope entry found _ => by rwa [sampleJar_domain scope entry found]) origins
  exact (later 1 (le_refl 1)).2.2

/-- A jar with a cookie for a domain that begins with a dot -/
def dottedJar : Store :=
  Jar.apply .dns {} (.add (sharedCookie "...a.test") (page .https "..a.test" "/") 0)

/-- Its import sends the cookie to a host that the jar does not send it to. -/
theorem snapshot_broadened
    : Run (Jar.Step .dns) {} [.add (sharedCookie "...a.test") (page .https "..a.test" "/") 0]
        dottedJar
      ∧ (Jar.exported dottedJar 1).map (fun stored => rootOf stored.1)
        = [page .https ".a.test" "/"]
      ∧ Jar.cookies .dns dottedJar (page .https "a.test" "/") .http11 1 = .empty
      ∧ Jar.cookies .dns (Jar.imported .dns rootOf 1 (Jar.exported dottedJar 1))
          (page .https "a.test" "/") .http11 1
        = .compressed { bytes := ascii "k=v" }
      ∧ Jar.getAll (Jar.imported .dns rootOf 1 (Jar.exported dottedJar 1)) 1
        ≠ Jar.getAll dottedJar 1 :=
  ⟨.snoc .nil rfl, by decide, by decide, by decide, by decide⟩

end Sample

end Tlsurl.Cookie
