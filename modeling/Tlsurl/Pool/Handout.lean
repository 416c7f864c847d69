import Tlsurl.Pool.Connections
import Tlsurl.Pool.Locked

/-! What a checkout resolves to.
Whether the connection was sent to the checkout or found idle, it is tested when the checkout
is polled, and poison lasts; the order of events before does not matter.
-/

namespace Tlsurl.Pool

open Library

variable {K : Type} [DecidableEq K]

namespace State

/-- Where a checkout finds a connection: in its channel, or in the idle list of its key, not
expired.
-/
inductive Offers (state : State K) (checkout : Checkout K)
    : (value : ConnId) → (idleSince : Option Time) → Prop
  | sent {value rx chan} (waiter : checkout.waiter = some rx)
    (channel : state.chans.get? rx = some chan) (received : chan.value = some value)
    : Offers state checkout value none
  | idle {value idleAt inner list} (pool : state.inner = some inner)
    (listed : inner.idle.peek checkout.key = some list)
    (member : { idleAt, value } ∈ list)
    (fresh : expires inner.timeout idleAt state.now = false)
    : Offers state checkout value (some idleAt)

variable {state next : State K} {id : Nat} {checkout : Checkout K} {value : ConnId}
  {idleSince : Option Time}

theorem isOpen_iff
    : state.isOpen value = true
      ↔ ∃ conn, state.conns.get? value = some conn ∧ conn.ready = true
          ∧ conn.poisoned = false := by
  unfold State.isOpen Conn.isOpen
  cases state.conns.get? value with
  | none => simp
  | some conn => simp [and_comm]

/-- A checkout resolves to an open connection that it is offered, and becomes a handle for its
key.
-/
theorem poll_ok (polled : state.poll id checkout = (.ok value idleSince, next))
    : state.isOpen value = true
      ∧ state.Offers checkout value idleSince
      ∧ ∃ pool, next.pooleds
        = state.pooleds.alloc { value, isReused := true, key := checkout.key, pool } := by
  unfold State.poll at polled
  split at polled
  · next rx waiter =>
      unfold State.pollWaiter at polled
      split at polled
      · cases polled
      · next chan channel =>
          split at polled
          · next sent received =>
              simp only at polled
              split at polled
              · next opened =>
                  cases polled
                  exact ⟨opened, .sent waiter channel received, _, rfl⟩
              · cases polled
          · split at polled <;> cases polled
  · unfold State.pollIdle at polled
    split at polled
    · cases polled
    · next inner pool =>
        split at polled
        · next entry rest taken =>
            cases polled
            rcases PoolInner.takeIdle_cases taken with
              ⟨absent, _⟩ | ⟨absent, _⟩ | ⟨front, popped, skipped, left, same, stored, opened,
                fresh, _⟩
            · cases absent
            · cases absent
            · cases same
              have member : entry ∈ front ++ entry :: skipped := by simp
              exact ⟨opened, .idle pool stored member fresh, _, rfl⟩
        · cases polled

end State

/-- A connection that is poisoned once stays so. -/
theorem poison_lasts {state next : State K} {events : List (Event K)} {value : ConnId}
    {conn : Conn K} (run : Run Step state events next)
    (found : state.conns.get? value = some conn) (poisoned : conn.poisoned = true)
    : next.isOpen value = false := by
  obtain ⟨later, foundLater, _, _, stays⟩ := (run_grown run).kept value conn found
  simp [State.isOpen, foundLater, Conn.isOpen, stays poisoned]

/-- In every run, a checkout resolves only to a connection that is ready and not poisoned then
and, if it was idle, not for longer than the timeout; and never to one poisoned before.
-/
theorem dead_never_handed_out {config : Config} {timerIsEmpty : Bool} {events : List (Event K)}
    {state next : State K} {id : Nat} {value : ConnId} {idleSince : Option Time}
    (run : Run Step (State.new config timerIsEmpty) events state)
    (step : Step state (.poll id (.ok value idleSince)) next)
    : (∃ conn, state.conns.get? value = some conn ∧ conn.ready = true ∧ conn.poisoned = false)
      ∧ (∃ checkout, state.checkouts.get? id = some checkout
        ∧ state.Offers checkout value idleSince)
      ∧ (∀ idleAt timeout, idleSince = some idleAt → config.idleTimeout = some timeout
        → state.now - idleAt ≤ timeout)
      ∧ (∀ earlier poisoned later, Step earlier (.poison value) poisoned
        → ¬ Run Step poisoned later state) := by
  obtain ⟨checkout, waiting, _, polled⟩ := step
  obtain ⟨opened, offers, _⟩ := State.poll_ok polled
  refine ⟨?_, ⟨checkout, waiting, offers⟩, ?_, ?_⟩
  · exact State.isOpen_iff.mp opened
  · intro idleAt timeout since configured
    cases offers with
    | sent => cases since
    | idle pool _ _ fresh =>
        cases since
        have same := ((configured_stable config).run run (fun _ => ⟨rfl, rfl⟩) _ pool).2
        simpa [expires, same, configured] using fresh
  · intro earlier poisoned later poison after
    obtain ⟨conn, found, rfl⟩ := poison
    have now
        : (earlier.conns.set value { conn with poisoned := true }).get? value
          = some { conn with poisoned := true } := by
      rw [Table.get?_set_self found]
    have closed := poison_lasts after now rfl
    rw [opened] at closed
    cases closed

/-- A checkout of host 7 resolves to the connection that went idle at time 0. -/
theorem dead_never_handed_out_sample
    : (∃ next, Step (sampleIdle.checkout 7) (.poll 0 (.ok 0 (some 0))) next)
      ∧ ∃ conn, (sampleIdle.checkout 7).conns.get? 0 = some conn ∧ conn.ready = true
        ∧ conn.poisoned = false := by
  have run
      : Run Step (State.new sampleConfig true) (sampleEvents ++ [.checkout 7])
          (sampleIdle.checkout 7) := .snoc sampleIdle_run ⟨rfl, rfl⟩
  have step : ∃ next, Step (sampleIdle.checkout 7) (.poll 0 (.ok 0 (some 0))) next :=
    ⟨_, { key := 7 }, rfl, rfl, rfl⟩
  obtain ⟨next, polled⟩ := step
  exact ⟨⟨next, polled⟩, (dead_never_handed_out run polled).1⟩

end Tlsurl.Pool
