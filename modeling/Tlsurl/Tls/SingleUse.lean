import Tlsurl.Tls.SessionCache

/-! When TLS 1.3 sessions are single-use.
`reverse` holds one key a session. As long as no session is put under a second key while it is
stored, it is the inverse of `per_host_sessions`, and a pop that returns a TLS 1.3 session also
removes it.
-/

namespace Tlsurl.Tls

open Library

variable {Session Key : Type} [DecidableEq Session] [DecidableEq Key] {capacity : Nat}

namespace Inner

/-- Whether a session is stored under a key. -/
def stored (inner : Inner Session Key capacity) (key : Key) (session : Session) : Bool :=
  (inner.perHostSessions.lookup key).any (fun cache => (cache.peek session).isSome)

/-- `reverse` maps a session to a key if and only if the session is stored under the key. -/
def Inverse (inner : Inner Session Key capacity) : Prop :=
  ∀ session key, inner.reverse.lookup session = some key ↔ inner.stored key session = true

-----------------------------------------------------------------------------------------
-- What the operations leave stored
-----------------------------------------------------------------------------------------

/-- The session that putting under `key` evicts. -/
def evicted (inner : Inner Session Key capacity) (key : Key) : Option Session :=
  (evict capacity (inner.entry key)).1

/-- A session read from `entry` is stored. -/
theorem peek_entry (inner : Inner Session Key capacity) (key : Key) (session : Session)
    : ((inner.entry key).peek session).isSome = inner.stored key session := by
  unfold entry stored
  cases inner.perHostSessions.lookup key <;> simp

/-- An evicted session was stored under the key. -/
theorem stored_evicted {inner : Inner Session Key capacity} {key : Key} {session : Session}
    (evicts : inner.evicted key = some session)
    : inner.stored key session = true := by
  have spec := evict_spec (inner.entry_capacity key)
  rw [← peek_entry]
  exact spec.2.2.1 session (by simpa [evicted] using evicts)

/-- Putting stores the session under its key and drops the evicted one. -/
theorem stored_put (inner : Inner Session Key capacity) (key other : Key)
    (session found : Session)
    : (inner.put key session).stored other found = true
      ↔ if other = key then
          found = session ∨ inner.stored key found = true ∧ inner.evicted key ≠ some found
        else inner.stored other found = true := by
  by_cases here : other = key
  · subst here
    have spec := evict_spec (inner.entry_capacity other)
    have looked
        : (inner.put other session).perHostSessions.lookup other
          = some ((evict capacity (inner.entry other)).2.put session ()) := by
      simp [put]
    simp only [stored, looked, Option.any_some, if_true]
    by_cases same : found = session
    · subst same
      simp
    · rw [LruCache.peek_put_ne_of_room same (Or.inr spec.2.1), spec.2.2.2 found, peek_entry]
      simp [same, stored, evicted]
  · simp [stored, put, here, AList.lookup_insert_ne here]

/-- Putting records the key and forgets that of the evicted session. -/
theorem reverse_put (inner : Inner Session Key capacity) (key : Key) (session found : Session)
    : (inner.put key session).reverse.lookup found
      = if found = session then some key
        else if inner.evicted key = some found then none
        else inner.reverse.lookup found := by
  have looked
      : (inner.put key session).reverse
        = ((inner.evicted key).elim inner.reverse inner.reverse.erase).insert session key := by
    simp only [put, evicted]
    split <;> simp only [*, Option.elim_some, Option.elim_none]
  rw [looked]
  by_cases same : found = session
  · subst same
    simp
  · rw [AList.lookup_insert_ne same, if_neg same]
    cases evicts : inner.evicted key with
    | none => simp
    | some victim =>
        by_cases hit : victim = found
        · subst hit
          simp
        · simp [hit, AList.lookup_erase_ne (Ne.symm hit)]

/-- Taking a session removes it from its key and from `reverse`, and nothing else. -/
theorem take_spec (inner : Inner Session Key capacity) (owner : Key) (session : Session)
    : (∀ found, (inner.take owner session).reverse.lookup found
        = if found = session then none else inner.reverse.lookup found)
      ∧ ∀ other found, ((inner.take owner session).stored other found = true
        ↔ inner.stored other found = true ∧ ¬ (other = owner ∧ found = session)) := by
  have reversed (found : Session)
      : (inner.reverse.erase session).lookup found
        = if found = session then none else inner.reverse.lookup found := by
    by_cases same : found = session
    · subst same
      simp
    · simp [same, AList.lookup_erase_ne same]
  unfold take
  split
  · next absent =>
      refine ⟨reversed, fun other found => ?_⟩
      by_cases here : other = owner
      · subst here
        simp [stored, absent]
      · simp [stored, here]
  · next cache present =>
      refine ⟨reversed, fun other found => ?_⟩
      by_cases here : other = owner
      · subst here
        have popped
            : ((cache.pop session).peek found).isSome = true
              ↔ (cache.peek found).isSome = true ∧ ¬ found = session := by
          rw [LruCache.peek_pop]
          by_cases same : found = session <;> simp [same]
        simp only [stored, present, Option.any_some, true_and, ← popped,
          AssocMap.lookup_assign, if_true]
        split
        · next empty =>
            have unread : (cache.pop session).peek found = none :=
              LruCache.peek_of_isEmpty empty found
            simp [unread]
        · simp
      · simp [stored, here, AssocMap.lookup_assign]

/-- Every way a pop can end: it finds no session; it returns one that may be used again; it
returns one that `reverse` does not know; or it returns one and takes it from its owner.
-/
inductive PopCase (protocolVersion : Session → TlsVersion) (inner : Inner Session Key capacity)
    (key : Key)
    : Option Session × Inner Session Key capacity → Prop
  | misses : PopCase protocolVersion inner key (none, inner)
  | keeps {session} (found : inner.stored key session = true)
    (reusable : protocolVersion session ≠ .tls13)
    : PopCase protocolVersion inner key (some session, inner)
  | unlinked {session} (found : inner.stored key session = true)
    (unknown : inner.reverse.lookup session = none)
    : PopCase protocolVersion inner key (some session, inner)
  | takes {session owner} (found : inner.stored key session = true)
    (owned : inner.reverse.lookup session = some owner)
    : PopCase protocolVersion inner key (some session, inner.take owner session)

theorem pop_cases (protocolVersion : Session → TlsVersion) (inner : Inner Session Key capacity)
    (key : Key)
    : PopCase protocolVersion inner key (inner.pop protocolVersion key) := by
  unfold pop
  cases least : (inner.perHostSessions.lookup key).bind LruCache.peekLru with
  | none => exact .misses
  | some entry =>
      obtain ⟨cache, present, oldest⟩ := Option.bind_eq_some_iff.mp least
      have found : inner.stored key entry.1 = true := by
        simp [stored, present, LruCache.peek_of_peekLru oldest]
      simp only
      split
      · split
        · next unknown => exact .unlinked found unknown
        · next owner owned => exact .takes found owned
      · next reusable => exact .keeps found reusable

-----------------------------------------------------------------------------------------
-- The two maps along a run
-----------------------------------------------------------------------------------------

/-- An operation on the cache; a pop comes with what it returned. -/
inductive Event (Session Key : Type) where
  | put (key : Key) (session : Session)
  | pop (key : Key) (returned : Option Session)

/-- One call on the cache. -/
def Step (protocolVersion : Session → TlsVersion) (inner : Inner Session Key capacity)
    : Event Session Key → Inner Session Key capacity → Prop
  | .put key session, next => next = inner.put key session
  | .pop key returned, next => inner.pop protocolVersion key = (returned, next)

/-- A session that a pop returns was stored under the key of the pop. -/
theorem stored_of_pop {protocolVersion : Session → TlsVersion}
    {inner : Inner Session Key capacity} {key : Key} {session : Session}
    (popped : (inner.pop protocolVersion key).1 = some session)
    : inner.stored key session = true := by
  have ending := pop_cases protocolVersion inner key
  generalize inner.pop protocolVersion key = result at ending popped
  cases ending with
  | misses => cases popped
  | keeps found _ => cases popped; exact found
  | unlinked found _ => cases popped; exact found
  | takes found _ => cases popped; exact found

/-- What is stored under a key was put under that key, by induction on the run. -/
theorem run_stored {protocolVersion : Session → TlsVersion} {events : List (Event Session Key)}
    {inner : Inner Session Key capacity}
    (run : Run (Step protocolVersion) Inner.new events inner)
    : ∀ key session, inner.stored key session = true → Event.put key session ∈ events := by
  apply run.history
  · intro past before event after held step key session isStored
    rw [List.mem_append]
    cases event with
    | put owner added =>
        cases step
        rw [stored_put] at isStored
        split at isStored
        · next here =>
            subst here
            obtain rfl | ⟨kept, _⟩ := isStored
            · exact .inr (List.mem_singleton.mpr rfl)
            · exact .inl (held key session kept)
        · exact .inl (held key session isStored)
    | pop asked returned =>
        have ending := pop_cases protocolVersion before asked
        rw [show before.pop protocolVersion asked = (returned, after) from step] at ending
        cases ending with
        | misses => exact .inl (held key session isStored)
        | keeps => exact .inl (held key session isStored)
        | unlinked => exact .inl (held key session isStored)
        | @takes taken owner _ _ =>
            exact .inl (held key session (((before.take_spec owner taken).2 _ _).mp isStored).1)
  · intro key session isStored
    simp [Inner.new, stored] at isStored

/-- A put does not name a session that `reverse` records under another key. -/
def Unshared (inner : Inner Session Key capacity) : Event Session Key → Prop
  | .put key session => ∀ owner, inner.reverse.lookup session = some owner → owner = key
  | .pop _ _ => True

/-- A put keeps the maps inverse exactly when the session is not recorded under another key:
otherwise it stays stored there while `reverse` names the new key.
-/
theorem put_inverse_iff {inner : Inner Session Key capacity} (inverse : inner.Inverse)
    (key : Key) (session : Session)
    : (inner.put key session).Inverse ↔ inner.Unshared (.put key session) := by
  constructor
  · intro kept owner recorded
    by_contra other
    have still : (inner.put key session).stored owner session = true := by
      rw [stored_put, if_neg other]
      exact (inverse session owner).mp recorded
    have named := (kept session owner).mpr still
    rw [reverse_put, if_pos rfl] at named
    exact other (Option.some.inj named).symm
  · intro unshared found owner
    rw [reverse_put, stored_put]
    by_cases same : found = session
    · subst same
      by_cases here : owner = key
      · simp [here]
      · have elsewhere : inner.stored owner found ≠ true := by
          intro storedThere
          exact here (unshared owner ((inverse found owner).mpr storedThere))
        simpa [here, Ne.symm here] using elsewhere
    · by_cases victim : inner.evicted key = some found
      · have home := (inverse found key).mpr (stored_evicted victim)
        by_cases here : owner = key
        · simp [here, same, victim]
        · have elsewhere : inner.stored owner found ≠ true := by
            intro storedThere
            have both := home.symm.trans ((inverse found owner).mpr storedThere)
            exact here (Option.some.inj both).symm
          simpa [here, same, victim] using elsewhere
      · by_cases here : owner = key
        · subst here
          simpa [same, victim] using inverse found owner
        · simpa [same, victim, here] using inverse found owner

/-- A pop keeps the maps inverse. -/
theorem pop_inverse {protocolVersion : Session → TlsVersion}
    {inner next : Inner Session Key capacity} {key : Key} {returned : Option Session}
    (inverse : inner.Inverse) (popped : inner.pop protocolVersion key = (returned, next))
    : next.Inverse := by
  have cases := pop_cases protocolVersion inner key
  rw [popped] at cases
  cases cases with
  | misses => exact inverse
  | keeps => exact inverse
  | unlinked => exact inverse
  | @takes session owner found owned =>
      obtain ⟨reversed, kept⟩ := inner.take_spec owner session
      intro other place
      rw [reversed, kept]
      by_cases same : other = session
      · subst same
        have only : inner.stored place other = true → place = owner := by
          intro storedThere
          have both := owned.symm.trans ((inverse other place).mpr storedThere)
          exact (Option.some.inj both).symm
        by_cases here : place = owner
        · simp [here]
        · have elsewhere : inner.stored place other ≠ true := fun there => here (only there)
          simpa [here] using elsewhere
      · simpa [same] using inverse other place

/-- The number of puts of a session. -/
def puts (session : Session) (events : List (Event Session Key)) : Nat :=
  events.countP (fun event => match event with
    | .put _ added => decide (added = session)
    | .pop _ _ => false)

/-- The number of pops that returned a session. -/
def pops (session : Session) (events : List (Event Session Key)) : Nat :=
  events.countP (fun event => match event with
    | .put _ _ => false
    | .pop _ returned => decide (returned = some session))

/-- A session is used at most as often as it was put, counting one use that is still owed
while it is stored.
-/
def Accounted (protocolVersion : Session → TlsVersion) (events : List (Event Session Key))
    (inner : Inner Session Key capacity)
    : Prop :=
  ∀ session, protocolVersion session = .tls13
    → pops session events + (if (inner.reverse.lookup session).isSome then 1 else 0)
      ≤ puts session events

/-- One call keeps the account: a put adds a use, a pop of a TLS 1.3 session removes it from
`reverse`, which knows it because the maps are inverse.
-/
theorem step_accounted {protocolVersion : Session → TlsVersion}
    {events : List (Event Session Key)} {inner next : Inner Session Key capacity}
    {event : Event Session Key} (inverse : inner.Inverse)
    (accounted : inner.Accounted protocolVersion events)
    (step : Step protocolVersion inner event next)
    : next.Accounted protocolVersion (events ++ [event]) := by
  intro session version
  have before := accounted session version
  cases event with
  | put key added =>
      cases step
      rw [reverse_put]
      simp only [puts, pops, List.countP_append, List.countP_singleton] at before ⊢
      by_cases same : session = added
      · subst same
        simp only [decide_true, if_true, Option.isSome_some, Bool.false_eq_true, if_false]
        omega
      · have other : added ≠ session := Ne.symm same
        have fewer
            : (if (if inner.evicted key = some session then none
                  else inner.reverse.lookup session).isSome then 1 else 0)
              ≤ if (inner.reverse.lookup session).isSome then 1 else 0 := by
          split <;> simp
        simp only [same, other, decide_false, if_false, Bool.false_eq_true]
        omega
  | pop key returned =>
      have cases := pop_cases protocolVersion inner key
      rw [show inner.pop protocolVersion key = (returned, next) from step] at cases
      simp only [puts, pops, List.countP_append, List.countP_singleton] at before ⊢
      cases cases with
      | misses => simpa using before
      | @keeps returnedSession found reusable =>
          have other : returnedSession ≠ session := by
            intro same
            exact reusable (same ▸ version)
          simpa [other] using before
      | @unlinked returnedSession found unknown =>
          have known := (inverse returnedSession key).mpr found
          cases known.symm.trans unknown
      | @takes returnedSession owner found owned =>
          rw [(inner.take_spec owner returnedSession).1]
          by_cases same : session = returnedSession
          · subst same
            simp only [owned, Option.isSome_some, if_true] at before
            simpa using before
          · have other : returnedSession ≠ session := Ne.symm same
            simpa [same, other] using before

end Inner

/-- In every run whose puts never name a session that is recorded under another key, each
TLS 1.3 session is returned at most as often as it was put, and `reverse` and
`per_host_sessions` are inverse to each other.
-/
theorem sessions_single_use (protocolVersion : Session → TlsVersion)
    {events : List (Inner.Event Session Key)} {inner : Inner Session Key capacity}
    (run : Run (Guarded Inner.Unshared (Inner.Step protocolVersion)) Inner.new events inner)
    : (∀ session, protocolVersion session = .tls13
        → Inner.pops session events ≤ Inner.puts session events)
      ∧ inner.Inverse := by
  have kept : inner.Inverse ∧ inner.Accounted protocolVersion events := by
    apply run.history
    · intro past before event after kept step
      obtain ⟨inverse, accounted⟩ := kept
      obtain ⟨unshared, step⟩ := step
      refine ⟨?_, Inner.step_accounted inverse accounted step⟩
      cases event with
      | put key session =>
          cases step
          exact (Inner.put_inverse_iff inverse key session).mpr unshared
      | pop key returned => exact Inner.pop_inverse inverse step
    · constructor
      · intro session key
        simp [Inner.new, Inner.stored]
      · intro session _
        simp [Inner.new, Inner.pops]
  refine ⟨fun session version => ?_, kept.1⟩
  have account := kept.2 session version
  omega

/-- A pop steps to what it leaves. -/
theorem Inner.step_pop {protocolVersion : Session → TlsVersion}
    {inner : Inner Session Key capacity} {key : Key} {returned : Option Session}
    (result : (inner.pop protocolVersion key).1 = returned)
    : Step protocolVersion inner (.pop key returned) (inner.pop protocolVersion key).2 :=
  Prod.ext result rfl

/-- Two sessions under two keys, one of them used. -/
theorem sessions_single_use_sample
    : Inner.pops 7 [.put true 7, .put false 8, .pop true (some 7)]
      ≤ Inner.puts 7 [Inner.Event.put true 7, .put false 8, .pop true (some 7)] := by
  have unshared (key : Bool) (session : Nat) (inner : Inner Nat Bool 2)
      (fresh : inner.reverse.lookup session = none)
      : inner.Unshared (.put key session) := by
    intro owner recorded
    cases fresh.symm.trans recorded
  have run
      : Run (Guarded Inner.Unshared (Inner.Step (fun _ => .tls13))) (Inner.new : Inner Nat Bool 2)
          [.put true 7, .put false 8, .pop true (some 7)] _ :=
    .cons ⟨unshared true 7 .new rfl, rfl⟩
      (.cons ⟨unshared false 8 _ rfl, rfl⟩ (.cons ⟨trivial, Inner.step_pop rfl⟩ .nil))
  exact (sessions_single_use (fun _ => .tls13) run).1 7 rfl

/-- Two connections put the session under two keys. -/
def sharedPut : Inner Nat Bool 2 := (Inner.new.put true 7).put false 7

/-- The first key is popped three times. -/
def sharedPopped : Inner Nat Bool 2 :=
  let popped := ((sharedPut.pop (fun _ => .tls13) true).2.pop (fun _ => .tls13) true).2
  (popped.pop (fun _ => .tls13) true).2

theorem sharedPopped_run
    : Run (Inner.Step (fun _ => .tls13)) .new
        [.put true 7, .put false 7, .pop true (some 7), .pop true (some 7), .pop true (some 7)]
        sharedPopped := by
  apply Run.cons
  · exact rfl
  apply Run.cons
  · exact rfl
  apply Run.cons
  · exact Inner.step_pop rfl
  apply Run.cons
  · exact Inner.step_pop rfl
  apply Run.cons
  · exact Inner.step_pop rfl
  exact .nil

/-- A session that two connections put under two keys is returned without end: `reverse` names
the second key only, so a pop under the first one removes nothing there.
-/
theorem shared_session_reused
    : ¬ ∀ (Session Key : Type) [DecidableEq Session] [DecidableEq Key] (capacity : Nat)
        (protocolVersion : Session → TlsVersion) (events : List (Inner.Event Session Key))
        (inner : Inner Session Key capacity),
        Run (Inner.Step protocolVersion) Inner.new events inner
        → (∀ session, protocolVersion session = .tls13
            → Inner.pops session events ≤ Inner.puts session events)
          ∧ inner.Inverse := by
  intro always
  have uses := (always Nat Bool 2 (fun _ => .tls13) _ _ sharedPopped_run).1 7 rfl
  exact absurd uses (by decide)

end Tlsurl.Tls
