import Tlsurl.Pool.Keys

/-! Checkouts and `Connecting`s through the steps of a pool.
A checkout changes by being polled and dropped alone, no two checkouts wait on one channel, and
a `Connecting` stays what it is until it goes.
-/

namespace Tlsurl.Pool

open Library

variable {K : Type} [DecidableEq K]

-----------------------------------------------------------------------------------------
-- Checkouts
-----------------------------------------------------------------------------------------

namespace State

variable (state : State K)

@[simp] theorem put_checkouts (closing : ChanId → Bool) (key : K) (value : ConnId)
    : (state.put closing key value).checkouts = state.checkouts := by
  unfold State.put
  split <;> rfl

@[simp] theorem connected_checkouts (key : K) (token : Nat)
    : (state.connected key token).checkouts = state.checkouts := by
  unfold State.connected
  split <;> rfl

@[simp] theorem connecting_checkouts (key : K) (ver : Ver)
    : (state.connecting key ver).checkouts = state.checkouts := by
  unfold State.connecting
  split
  · split <;> rfl
  · rfl

@[simp] theorem dropConnecting_checkouts (token : Nat)
    : (state.dropConnecting token).checkouts = state.checkouts := by
  rcases state.dropConnecting_cases token with same | ⟨held, _, ⟨_, same⟩ | same⟩
  · rw [same]
  · rw [same, connected_checkouts]
  · rw [same]

@[simp] theorem alpnH2_checkouts (token : Nat)
    : (state.alpnH2 token).checkouts = state.checkouts := by
  unfold State.alpnH2
  split <;> simp

@[simp] theorem pooled_checkouts (closing : ChanId → Bool) (token : Nat)
    (http2 ready poisoned : Bool)
    : (state.pooled closing token http2 ready poisoned).checkouts = state.checkouts := by
  unfold State.pooled
  split
  · rfl
  · simp only
    split
    · simp
    · split <;> simp

@[simp] theorem dropPooled_checkouts (closing : ChanId → Bool) (id : Nat) (pooled : Pooled K)
    : (state.dropPooled closing id pooled).checkouts = state.checkouts := by
  rcases state.dropPooled_cases closing id pooled with same | same
  · rw [same]
  · rw [same, put_checkouts]

@[simp] theorem dropPool_checkouts : state.dropPool.checkouts = state.checkouts := by
  unfold State.dropPool
  split <;> rfl

/-- No pool is left once it is dropped. -/
theorem dropPool_inner : state.dropPool.inner.isSome = false := by
  unfold State.dropPool
  split
  · next absent => simp [absent]
  · rfl

/-- A polled checkout stays, is over, or begins to wait on a new channel. -/
theorem poll_checkouts {outcome : Outcome} {next : State K} {id : Nat} {checkout : Checkout K}
    (polled : state.poll id checkout = (outcome, next))
    : next.checkouts = state.checkouts
      ∨ next.checkouts = state.checkouts.free id
      ∨ (checkout.waiter = none
        ∧ next.checkouts = state.checkouts.set id
          { key := checkout.key, waiter := some state.chans.size }) := by
  unfold State.poll at polled
  split at polled
  · unfold State.pollWaiter at polled
    repeat' split at polled
    all_goals cases polled
    · exact .inl rfl
    · exact .inr (.inl rfl)
    · exact .inr (.inl rfl)
    · exact .inl rfl
    · exact .inr (.inl rfl)
  · next idle =>
      unfold State.pollIdle at polled
      repeat' split at polled
      all_goals cases polled
      · exact .inr (.inl rfl)
      · exact .inr (.inl rfl)
      · exact .inr (.inr ⟨idle, rfl⟩)

end State

/-- The checkout that an event is about -/
def Event.checkout? : Event K → Option Nat
  | .poll id _ => some id
  | .beginDrop id => some id
  | .closeReceiver id => some id
  | .endDrop id => some id
  | _ => none

/-- A step changes no checkout, makes one, or changes the one it is about, which may begin to
wait on a new channel but on no old one.
-/
theorem Step.checkouts_cases {state next : State K} {event : Event K}
    (step : Step state event next)
    : next.checkouts = state.checkouts
      ∨ (∃ key, event = .checkout key ∧ next.checkouts = state.checkouts.alloc { key })
      ∨ ∃ id checkout, event.checkout? = some id ∧ state.checkouts.get? id = some checkout
        ∧ (next.checkouts = state.checkouts.free id
          ∨ ∃ changed, next.checkouts = state.checkouts.set id changed
            ∧ ∀ rx, changed.waiter = some rx
              → checkout.waiter = some rx ∨ rx = state.chans.size) := by
  cases event with
  | connecting key ver =>
      obtain ⟨_, rfl⟩ := step
      exact .inl (by simp)
  | alpnH2 token =>
      obtain ⟨_, rfl⟩ := step
      exact .inl (by simp)
  | dropConnecting token =>
      obtain rfl := step
      exact .inl (by simp)
  | pooled closing token http2 ready poisoned =>
      obtain ⟨_, rfl⟩ := step
      exact .inl (by simp)
  | checkout key =>
      obtain ⟨_, rfl⟩ := step
      exact .inr (.inl ⟨key, rfl, rfl⟩)
  | poll id outcome =>
      obtain ⟨checkout, found, _, polled⟩ := step
      rcases state.poll_checkouts polled with same | freed | ⟨_, waits⟩
      · exact .inl same
      · exact .inr (.inr ⟨id, checkout, rfl, found, .inl freed⟩)
      · refine .inr (.inr ⟨id, checkout, rfl, found, .inr ⟨_, waits, fun rx waiter => ?_⟩⟩)
        cases waiter
        exact .inr rfl
  | beginDrop id =>
      obtain ⟨checkout, found, _, rfl⟩ := step
      refine .inr (.inr ⟨id, checkout, rfl, found, ?_⟩)
      unfold State.beginDrop
      split
      · exact .inl rfl
      · exact .inr ⟨_, rfl, fun rx waiter => .inl waiter⟩
  | closeReceiver id =>
      obtain ⟨checkout, rx, found, _, _, rfl⟩ := step
      refine .inr (.inr ⟨id, checkout, rfl, found, .inr ⟨_, rfl, fun rx waiter => ?_⟩⟩)
      cases waiter
  | endDrop id =>
      obtain ⟨checkout, found, _, _, rfl⟩ := step
      exact .inr (.inr ⟨id, checkout, rfl, found, .inl rfl⟩)
  | dropPooled closing id =>
      obtain ⟨pooled, _, rfl⟩ := step
      exact .inl (by simp)
  | clearExpired =>
      obtain ⟨inner, _, _, rfl⟩ := step
      exact .inl rfl
  | setReady value ready =>
      obtain ⟨conn, _, rfl⟩ := step
      exact .inl rfl
  | poison value =>
      obtain ⟨conn, _, rfl⟩ := step
      exact .inl rfl
  | tick elapsed =>
      obtain rfl := step
      exact .inl rfl
  | dropPool =>
      obtain ⟨_, _, rfl⟩ := step
      exact .inl (by simp)

/-- A checkout that an event is not about stays as it is. -/
theorem Step.checkout_kept {state next : State K} {event : Event K} {id : Nat}
    (step : Step state event next) (away : event.checkout? ≠ some id)
    (old : id < state.checkouts.size)
    : next.checkouts.get? id = state.checkouts.get? id := by
  rcases step.checkouts_cases with
    same | ⟨key, _, made⟩ | ⟨other, checkout, about, _, freed | ⟨changed, set, _⟩⟩
  · rw [same]
  · rw [made, Table.get?_alloc, if_neg (Nat.ne_of_lt old)]
  · have different : id ≠ other := fun same => away (same ▸ about)
    rw [freed, Table.get?_free, if_neg different]
  · have different : id ≠ other := fun same => away (same ▸ about)
    rw [set, Table.get?_set_ne different]

/-- A step makes a checkout if it is the event for it. -/
theorem Step.checkouts_size {state next : State K} {event : Event K}
    (step : Step state event next) (unmade : ∀ key, event ≠ .checkout key)
    : next.checkouts.size = state.checkouts.size := by
  rcases step.checkouts_cases with
    same | ⟨key, made, _⟩ | ⟨other, checkout, _, _, freed | ⟨changed, set, _⟩⟩
  · rw [same]
  · exact absurd made (unmade key)
  · simp [freed]
  · simp [set]

/-- A checkout keeps its key from the event that makes it. -/
theorem Step.checkout_key {state next : State K} {event : Event K} {id : Nat}
    {checkout : Checkout K} (step : Step state event next)
    (found : next.checkouts.get? id = some checkout)
    : (∃ earlier, state.checkouts.get? id = some earlier ∧ earlier.key = checkout.key)
      ∨ event = .checkout checkout.key ∧ id = state.checkouts.size := by
  have changed {about : Nat} {old new : Checkout K}
      (foundThere : (state.checkouts.set about new).get? id = some checkout)
      (present : state.checkouts.get? about = some old) (same : new.key = old.key)
      : ∃ earlier, state.checkouts.get? id = some earlier ∧ earlier.key = checkout.key := by
    rcases Table.get?_set_cases present foundThere with ⟨rfl, rfl⟩ | ⟨-, before⟩
    · exact ⟨old, present, same.symm⟩
    · exact ⟨checkout, before, rfl⟩
  have freed {about : Nat} (foundThere : (state.checkouts.free about).get? id = some checkout)
      : ∃ earlier, state.checkouts.get? id = some earlier ∧ earlier.key = checkout.key := by
    rw [Table.get?_free] at foundThere
    split at foundThere
    · cases foundThere
    · exact ⟨checkout, foundThere, rfl⟩
  rcases step.checkouts_cases with
    same | ⟨key, rfl, made⟩ | ⟨about, old, of, present, gone | ⟨new, set, _⟩⟩
  · exact .inl ⟨checkout, same ▸ found, rfl⟩
  · rw [made, Table.get?_alloc] at found
    split at found
    · next fresh =>
        cases found
        exact .inr ⟨rfl, fresh⟩
    · exact .inl ⟨checkout, found, rfl⟩
  · rw [gone] at found
    exact .inl (freed found)
  · left
    cases event with
    | poll id outcome =>
        cases of
        obtain ⟨polledCheckout, foundHere, _, polled⟩ := step
        rcases state.poll_checkouts polled with same | free | ⟨_, waits⟩
        · exact ⟨checkout, same ▸ found, rfl⟩
        · exact freed (free ▸ found)
        · rw [waits] at found
          exact changed found foundHere rfl
    | beginDrop id =>
        cases of
        obtain ⟨dropped, foundHere, _, rfl⟩ := step
        unfold State.beginDrop at found
        split at found
        · exact freed found
        · exact changed found foundHere rfl
    | closeReceiver id =>
        cases of
        obtain ⟨closed, rx, foundHere, _, _, rfl⟩ := step
        exact changed found foundHere rfl
    | endDrop id =>
        cases of
        obtain ⟨ended, _, _, _, rfl⟩ := step
        exact freed found
    | _ => cases of

/-- An absent checkout stays absent. -/
theorem Step.checkout_none {state next : State K} {event : Event K} {id : Nat}
    (step : Step state event next) (unmade : ∀ key, event ≠ .checkout key)
    (absent : state.checkouts.get? id = none)
    : next.checkouts.get? id = none := by
  rcases step.checkouts_cases with
    same | ⟨key, made, _⟩ | ⟨other, checkout, _, present, freed | ⟨changed, set, _⟩⟩
  · rw [same, absent]
  · exact absurd made (unmade key)
  · rw [freed, Table.get?_free, absent, ite_self]
  · rw [set, Table.get?_set, if_neg, absent]
    rintro ⟨rfl, _⟩
    rw [absent] at present
    cases present

/-- No two checkouts wait on one channel. -/
def State.Unshared (state : State K) : Prop :=
  ∀ id other first second rx, state.checkouts.get? id = some first
    → state.checkouts.get? other = some second → first.waiter = some rx
    → second.waiter = some rx → id = other

/-- Each step keeps the channels of the checkouts apart. -/
theorem Step.unshared {state next : State K} {event : Event K} (step : Step state event next)
    (keyed : state.Keyed) (unshared : state.Unshared)
    : next.Unshared := by
  rcases step.checkouts_cases with
    same | ⟨key, _, made⟩ | ⟨about, checkout, _, here, freed | ⟨changed, set, waits⟩⟩
  · simpa only [State.Unshared, same] using unshared
  · intro id other first second rx found foundOther waiter waiterOther
    rw [made, Table.get?_alloc] at found foundOther
    split at found
    · cases found
      cases waiter
    · split at foundOther
      · cases foundOther
        cases waiterOther
      · exact unshared id other first second rx found foundOther waiter waiterOther
  · intro id other first second rx found foundOther waiter waiterOther
    rw [freed, Table.get?_free] at found foundOther
    split at found
    · cases found
    · split at foundOther
      · cases foundOther
      · exact unshared id other first second rx found foundOther waiter waiterOther
  · -- A channel that is not new was the checkout's before.
    have apart (id : Nat) (second : Checkout K) (rx : ChanId)
        (found : state.checkouts.get? id = some second) (waiter : second.waiter = some rx)
        (moved : changed.waiter = some rx)
        : id = about := by
      rcases waits rx moved with before | rfl
      · exact unshared id about second checkout rx found here waiter before
      · have asked := keyed.checkouts id second _ found waiter
        obtain ⟨chan, present, _⟩ := Option.map_eq_some_iff.mp asked
        exact absurd (Table.lt_size present) (Nat.lt_irrefl _)
    intro id other first second rx found foundOther waiter waiterOther
    rw [set] at found foundOther
    rcases Table.get?_set_cases here found with ⟨rfl, rfl⟩ | ⟨-, before⟩
    · rcases Table.get?_set_cases here foundOther with ⟨rfl, rfl⟩ | ⟨-, beforeOther⟩
      · rfl
      · rw [apart other second rx beforeOther waiterOther waiter]
    · rcases Table.get?_set_cases here foundOther with ⟨rfl, rfl⟩ | ⟨-, beforeOther⟩
      · rw [apart id first rx before waiter waiterOther]
      · exact unshared id other first second rx before beforeOther waiter waiterOther

-----------------------------------------------------------------------------------------
-- Tokens
-----------------------------------------------------------------------------------------

section Tokens

variable {K : Type}

/-- The `Connecting`s after a step: old ones go or stay as they are. -/
structure TokensKept (before after : Table (Connecting K)) : Prop where
  size : before.size ≤ after.size
  kept
    : ∀ token held, token < before.size → after.get? token = some held
      → before.get? token = some held

theorem TokensKept.refl (tokens : Table (Connecting K)) : TokensKept tokens tokens where
  size := le_rfl
  kept _ _ _ := id

theorem TokensKept.of_eq {before after : Table (Connecting K)} (same : after = before)
    : TokensKept before after :=
  same ▸ .refl before

theorem TokensKept.trans {first second third : Table (Connecting K)}
    (earlier : TokensKept first second) (later : TokensKept second third)
    : TokensKept first third where
  size := earlier.size.trans later.size
  kept token held old found :=
    earlier.kept token held old (later.kept token held (old.trans_le earlier.size) found)

theorem TokensKept.alloc (tokens : Table (Connecting K)) (fresh : Connecting K)
    : TokensKept tokens (tokens.alloc fresh) where
  size := by simp
  kept token held old found := by
    rwa [Table.get?_alloc, if_neg (Nat.ne_of_lt old)] at found

theorem TokensKept.free (tokens : Table (Connecting K)) (gone : Nat)
    : TokensKept tokens (tokens.free gone) where
  size := by simp
  kept token held _ found := by
    rw [Table.get?_free] at found
    split at found
    · cases found
    · exact found

end Tokens

namespace State

variable (state : State K)

@[simp] theorem put_connectings (closing : ChanId → Bool) (key : K) (value : ConnId)
    : (state.put closing key value).connectings = state.connectings := by
  unfold State.put
  split <;> rfl

@[simp] theorem connected_connectings (key : K) (token : Nat)
    : (state.connected key token).connectings = state.connectings := by
  unfold State.connected
  split <;> rfl

@[simp] theorem poll_connectings (id : Nat) (checkout : Checkout K)
    : (state.poll id checkout).2.connectings = state.connectings := by
  unfold State.poll State.pollWaiter State.pollIdle
  repeat' split
  all_goals rfl

@[simp] theorem beginDrop_connectings (id : Nat) (checkout : Checkout K)
    : (state.beginDrop id checkout).connectings = state.connectings := by
  unfold State.beginDrop
  split <;> rfl

@[simp] theorem dropPooled_connectings (closing : ChanId → Bool) (id : Nat) (pooled : Pooled K)
    : (state.dropPooled closing id pooled).connectings = state.connectings := by
  rcases state.dropPooled_cases closing id pooled with same | same
  · rw [same]
  · rw [same, put_connectings]

@[simp] theorem dropPool_connectings : state.dropPool.connectings = state.connectings := by
  unfold State.dropPool
  split <;> rfl

theorem connecting_tokens (key : K) (ver : Ver)
    : TokensKept state.connectings (state.connecting key ver).connectings := by
  unfold State.connecting
  split
  · split
    · exact .refl _
    · exact .alloc _ _
  · exact .alloc _ _

theorem dropConnecting_tokens (token : Nat)
    : TokensKept state.connectings (state.dropConnecting token).connectings := by
  rcases state.dropConnecting_cases token with same | ⟨held, _, ⟨_, same⟩ | same⟩
  · rw [same]
    exact .refl _
  · rw [same, connected_connectings]
    exact .free _ _
  · rw [same]
    exact .free _ _

theorem pooled_tokens (closing : ChanId → Bool) (token : Nat) (http2 ready poisoned : Bool)
    : TokensKept state.connectings
        (state.pooled closing token http2 ready poisoned).connectings := by
  have dropped (other : State K) (same : other.connectings = state.connectings)
      : TokensKept state.connectings (other.dropConnecting token).connectings :=
    same ▸ other.dropConnecting_tokens token
  unfold State.pooled
  split
  · exact .refl _
  · simp only
    split
    · exact dropped _ rfl
    · split
      · simpa using TokensKept.free state.connectings token
      · exact dropped _ rfl

end State

/-- A step gives new tokens or takes old ones. -/
theorem Step.tokens {state next : State K} {event : Event K} (step : Step state event next)
    : TokensKept state.connectings next.connectings := by
  cases event with
  | connecting key ver =>
      obtain ⟨_, rfl⟩ := step
      exact state.connecting_tokens key ver
  | alpnH2 token =>
      obtain ⟨_, rfl⟩ := step
      unfold State.alpnH2
      split
      · exact .refl _
      · have noted (calls : List (Call K)) (key : K)
            : TokensKept state.connectings
                (({ state with calls } : State K).connecting key .http2).connectings :=
          State.connecting_tokens { state with calls } key .http2
        exact (noted _ _).trans (State.dropConnecting_tokens _ token)
  | dropConnecting token =>
      obtain rfl := step
      exact state.dropConnecting_tokens token
  | pooled closing token http2 ready poisoned =>
      obtain ⟨_, rfl⟩ := step
      exact state.pooled_tokens closing token http2 ready poisoned
  | checkout key =>
      obtain ⟨_, rfl⟩ := step
      exact .refl _
  | poll id outcome =>
      obtain ⟨checkout, _, _, polled⟩ := step
      have same := state.poll_connectings id checkout
      rw [polled] at same
      exact .of_eq same
  | beginDrop id =>
      obtain ⟨checkout, _, _, rfl⟩ := step
      exact .of_eq (state.beginDrop_connectings id checkout)
  | closeReceiver id =>
      obtain ⟨checkout, rx, _, _, _, rfl⟩ := step
      exact .refl _
  | endDrop id =>
      obtain ⟨checkout, _, _, _, rfl⟩ := step
      exact .refl _
  | dropPooled closing id =>
      obtain ⟨pooled, _, rfl⟩ := step
      exact .of_eq (state.dropPooled_connectings closing id pooled)
  | clearExpired =>
      obtain ⟨inner, _, _, rfl⟩ := step
      exact .refl _
  | setReady value ready =>
      obtain ⟨conn, _, rfl⟩ := step
      exact .refl _
  | poison value =>
      obtain ⟨conn, _, rfl⟩ := step
      exact .refl _
  | tick elapsed =>
      obtain rfl := step
      exact .refl _
  | dropPool =>
      obtain ⟨_, _, rfl⟩ := step
      exact .of_eq state.dropPool_connectings

-----------------------------------------------------------------------------------------
-- The pool
-----------------------------------------------------------------------------------------

namespace State

variable (state : State K)

@[simp] theorem put_isSome (closing : ChanId → Bool) (key : K) (value : ConnId)
    : (state.put closing key value).inner.isSome = state.inner.isSome := by
  unfold State.put
  split
  · next absent => simp [absent]
  · next present => simp [present]

@[simp] theorem connected_isSome (key : K) (token : Nat)
    : (state.connected key token).inner.isSome = state.inner.isSome := by
  unfold State.connected
  split
  · next absent => simp [absent]
  · next present => simp [present]

@[simp] theorem connecting_isSome (key : K) (ver : Ver)
    : (state.connecting key ver).inner.isSome = state.inner.isSome := by
  unfold State.connecting
  split
  · next present =>
      split
      · simp [present]
      · simp [present]
  · rfl

@[simp] theorem dropConnecting_isSome (token : Nat)
    : (state.dropConnecting token).inner.isSome = state.inner.isSome := by
  rcases state.dropConnecting_cases token with same | ⟨held, _, ⟨_, same⟩ | same⟩
  · rw [same]
  · rw [same, connected_isSome]
  · rw [same]

@[simp] theorem alpnH2_isSome (token : Nat)
    : (state.alpnH2 token).inner.isSome = state.inner.isSome := by
  unfold State.alpnH2
  split
  · rfl
  · simp

@[simp] theorem pooled_isSome (closing : ChanId → Bool) (token : Nat)
    (http2 ready poisoned : Bool)
    : (state.pooled closing token http2 ready poisoned).inner.isSome = state.inner.isSome := by
  unfold State.pooled
  split
  · rfl
  · simp only
    split
    · simp
    · split <;> simp

@[simp] theorem poll_isSome (id : Nat) (checkout : Checkout K)
    : (state.poll id checkout).2.inner.isSome = state.inner.isSome := by
  unfold State.poll State.pollWaiter State.pollIdle
  repeat' split
  all_goals simp_all [State.reuse, State.fail]

@[simp] theorem beginDrop_isSome (id : Nat) (checkout : Checkout K)
    : (state.beginDrop id checkout).inner.isSome = state.inner.isSome := by
  unfold State.beginDrop
  split <;> rfl

@[simp] theorem dropPooled_isSome (closing : ChanId → Bool) (id : Nat) (pooled : Pooled K)
    : (state.dropPooled closing id pooled).inner.isSome = state.inner.isSome := by
  rcases state.dropPooled_cases closing id pooled with same | same
  · rw [same]
  · rw [same, put_isSome]

end State

/-- The pool is there until its last handle is dropped. -/
theorem Step.inner_isSome {state next : State K} {event : Event K}
    (step : Step state event next) (lasting : event ≠ .dropPool)
    : next.inner.isSome = state.inner.isSome := by
  cases event with
  | connecting key ver =>
      obtain ⟨_, rfl⟩ := step
      exact state.connecting_isSome key ver
  | alpnH2 token =>
      obtain ⟨_, rfl⟩ := step
      exact state.alpnH2_isSome token
  | dropConnecting token =>
      obtain rfl := step
      exact state.dropConnecting_isSome token
  | pooled closing token http2 ready poisoned =>
      obtain ⟨_, rfl⟩ := step
      exact state.pooled_isSome closing token http2 ready poisoned
  | checkout key =>
      obtain ⟨_, rfl⟩ := step
      rfl
  | poll id outcome =>
      obtain ⟨checkout, _, _, polled⟩ := step
      have same := state.poll_isSome id checkout
      rwa [polled] at same
  | beginDrop id =>
      obtain ⟨checkout, _, _, rfl⟩ := step
      exact state.beginDrop_isSome id checkout
  | closeReceiver id =>
      obtain ⟨checkout, rx, _, _, _, rfl⟩ := step
      rfl
  | endDrop id =>
      obtain ⟨checkout, _, _, _, rfl⟩ := step
      simp [State.endDrop]
  | dropPooled closing id =>
      obtain ⟨pooled, _, rfl⟩ := step
      exact state.dropPooled_isSome closing id pooled
  | clearExpired =>
      obtain ⟨inner, present, _, rfl⟩ := step
      simp [present]
  | setReady value ready =>
      obtain ⟨conn, _, rfl⟩ := step
      rfl
  | poison value =>
      obtain ⟨conn, _, rfl⟩ := step
      rfl
  | tick elapsed =>
      obtain rfl := step
      rfl
  | dropPool => exact absurd rfl lasting

end Tlsurl.Pool
