import Tlsurl.Pool.Custody
import Tlsurl.Pool.Exclusive

/-! Connections that return to the pool open are not lost, as long as no receiver closes on them.
A checkout takes along what was sent to it before it was dropped. That is the one way to lose a
connection without a reason to part with it.
-/

namespace Tlsurl.Pool

open Library

variable {K : Type} [DecidableEq K]

/-- The pool goes on, and has no reason to part with the connection. -/
def State.Retains (value : ConnId) (state : State K) (event : Event K) : Prop :=
  event ≠ .dropPool ∧ ¬ state.Dismisses event value

-----------------------------------------------------------------------------------------
-- What is kept is in a place
-----------------------------------------------------------------------------------------

/-- A connection that is kept is idle, in a channel or in a handle. -/
theorem State.Keeps.one_le_uses {state : State K} {key : K} {value : ConnId}
    (kept : state.Keeps key value)
    : 1 ≤ state.uses value := by
  have own : oneIf value value = 1 := if_pos rfl
  cases kept with
  | @idle inner list entry present listed member same =>
      have counted : 1 ≤ idleUses value list := by
        have summand := List.le_sum_of_mem
          (List.mem_map_of_mem (f := fun entry : Idle => oneIf value entry.value) member)
        simp only [same, own] at summand
        exact summand
      have erased := AssocMap.weight_erase (idleUses value) inner.idle.map key
      have found : inner.idle.map.lookup key = some list := listed
      rw [found, Option.elim_some] at erased
      simp only [State.uses, present, Option.elim_some, PoolInner.uses]
      omega
  | @sent id checkout rx chan found waits channel carried =>
      have carries := Table.le_weight (chanUses value) channel
      simp only [chanUses, carried, Option.elim_some, own] at carries
      simp only [State.uses]
      omega
  | @held id pooled found same =>
      subst same
      have held := Pool.one_le_uses found
      simp only [State.uses]
      omega

/-- A receiver that closes takes along what was sent to it. -/
theorem Step.uses_of_forfeits {state next : State K} {event : Event K} {value : ConnId}
    (step : Step state event next) (lost : state.forfeits value event = true)
    : next.uses value + 1 ≤ state.uses value := by
  cases event with
  | closeReceiver id =>
      obtain ⟨checkout, rx, found, _, waits, rfl⟩ := step
      simp only [State.forfeits, found, waits, Option.bind_some, decide_eq_true_eq] at lost
      obtain ⟨chan, channel, carried⟩ := Option.bind_eq_some_iff.mp lost
      have emptied := Table.weight_set (chanUses value) channel
        { chan with receiver := .closed, value := none }
      have own : chanUses value chan = 1 := by simp [chanUses, carried, oneIf]
      have after : chanUses value { chan with receiver := .closed, value := none } = 0 := rfl
      simp only [State.closeReceiver, State.uses, channel]
      omega
  | _ => cases lost

-----------------------------------------------------------------------------------------
-- Runs
-----------------------------------------------------------------------------------------

/-- A connection stays the one of its key, and unshared. -/
theorem run_unique {state later : State K} {events : List (Event K)}
    (run : Run Step state events later) {key : K} {value : ConnId}
    (opened : openedFor state.conns value = some key) (unique : state.canShare value = false)
    : openedFor later.conns value = some key ∧ later.canShare value = false := by
  have grown := run_grown run
  refine ⟨grown.openedFor opened, ?_⟩
  obtain ⟨conn, found, _⟩ := Option.map_eq_some_iff.mp opened
  obtain ⟨after, foundAfter, _, http2, _⟩ := grown.kept value conn found
  simp only [State.canShare, found, Option.any_some] at unique
  simp only [State.canShare, foundAfter, Option.any_some, http2, unique]

/-- In a state that is reached, a step of a pool that goes on keeps a connection that is not
shared exactly if it does not close a receiver on it.
-/
theorem keeps_iff_of_run {config : Config} {timerIsEmpty : Bool} {past : List (Event K)}
    {state next : State K} {event : Event K} {key : K} {value : ConnId}
    (run : Run Step (State.new config timerIsEmpty) past state)
    (opened : openedFor state.conns value = some key) (unique : state.canShare value = false)
    (still : state.inner.isSome = true) (kept : state.Keeps key value)
    (retains : state.Retains value event) (step : Step state event next)
    : next.Keeps key value ↔ state.forfeits value event = false := by
  constructor
  · intro keptAfter
    by_contra lost
    have fewer := step.uses_of_forfeits (by simpa using lost)
    have once := (run_inOnePlace run value).uses_le_one unique
    have stays := keptAfter.one_le_uses
    omega
  · intro spared
    have balanced : state.Holds PoolInner.Balanced :=
      balanced_stable.run run (fun enabled => PoolInner.balanced_new enabled timerIsEmpty)
    have stillAfter : next.inner.isSome = true := by rw [step.inner_isSome retains.1, still]
    rcases step.keeps (run_keyed run) (run_queued run) (run_unshared run) (run_allRefer run)
      balanced stillAfter opened unique spared kept with keptAfter | dismissed
    · exact keptAfter
    · exact absurd dismissed retains.2

/-- A pool that goes on exists. -/
theorem run_retains_isSome {value : ConnId} {state later : State K} {events : List (Event K)}
    (run : Run (Guarded (State.Retains value) Step) state events later)
    (still : state.inner.isSome = true)
    : later.inner.isSome = true := by
  apply run.invariant
  · intro _ before event next _ present step
    rw [step.2.inner_isSome step.1.1, present]
  · exact still

/-- In every run, an open connection that is not shared and returns to its pool is idle under its
key, sent to a checkout whose receiver is there or held by a handle; and after that, in a pool
that goes on and has no reason to part with it, it remains so exactly as long as no receiver
closes on it.
-/
theorem returned_kept_iff {config : Config} {timerIsEmpty : Bool} {events : List (Event K)}
    {state returned later : State K}
    (run : Run Step (State.new config timerIsEmpty) events state) {id : Nat} {pooled : Pooled K}
    (found : state.pooleds.get? id = some pooled) (present : state.inner.isSome = true)
    (unique : state.canShare pooled.value = false) (opened : state.isOpen pooled.value = true)
    {closing : ChanId → Bool} (retains : state.Retains pooled.value (.dropPooled closing id))
    (step : Step state (.dropPooled closing id) returned) {after : List (Event K)}
    : returned.Keeps pooled.key pooled.value
      ∧ (Run
            (Through (fun state => state.Keeps pooled.key pooled.value)
              (Guarded (State.Retains pooled.value) Step))
            returned after later
        ↔ Run
            (Guarded (fun state event => state.forfeits pooled.value event = false)
              (Guarded (State.Retains pooled.value) Step))
            returned after later) := by
  have still : returned.inner.isSome = true := by rw [step.inner_isSome retains.1, present]
  have initial : returned.Keeps pooled.key pooled.value :=
    (step.returned_kept (run_queued run) found
      (run_allRefer run id pooled found unique present) still unique opened).resolve_right
      retains.2
  have own := (run_keyed run).pooleds id pooled found
  refine ⟨initial, Run.through_iff_guarded initial ?_⟩
  intro past before event next guarded kept last
  have plain : Run Step state (.dropPooled closing id :: past) before :=
    .cons step (guarded.mono (fun both => both.2))
  obtain ⟨openedBefore, uniqueBefore⟩ := run_unique plain own unique
  exact keeps_iff_of_run (run.append plain) openedBefore uniqueBefore
    (run_retains_isSome guarded still) kept last.1 last.2

-----------------------------------------------------------------------------------------
-- Samples
-----------------------------------------------------------------------------------------

/-- A step has no reason to part with a connection that it does not look at and puts nothing
back.
-/
theorem State.not_dismisses {state : State K} {event : Event K} {value : ConnId}
    (quiet : state.putBy event = none) (unseen : ∀ since, ¬ state.Examines event value since)
    : ¬ state.Dismisses event value := by
  intro dismissed
  cases dismissed with
  | closed looked shut => exact unseen _ looked
  | expired present looked late => exact unseen _ looked
  | full present made same unwanted full =>
      rw [quiet] at made
      cases made
  | evicted present made kept new limited full oldest member same =>
      rw [quiet] at made
      cases made

/-- A connection that returns was not idle. -/
theorem State.Examines.since_none {state : State K} {closing : ChanId → Bool} {id : Nat}
    {value : ConnId} {since : Option Time}
    (looked : state.Examines (.dropPooled closing id) value since)
    : since = none := by
  cases looked
  rfl

/-- A checkout that finds an idle connection does not wait. -/
theorem State.Examines.unwaited {state : State K} {id : Nat} {outcome : Outcome} {value : ConnId}
    {since : Time} (looked : state.Examines (.poll id outcome) value (some since))
    : ∃ checkout, state.checkouts.get? id = some checkout ∧ checkout.waiter = none := by
  cases looked with
  | popped found idle _ _ _ => exact ⟨_, found, idle⟩

/-- While the connection of host 7 is in use, a checkout for that host waits. -/
def waitedFor : State Nat :=
  let opened := ((State.new sampleConfig true).connecting 7 .auto).pooled (fun _ => false) 0
    false true false
  ((opened.checkout 7).poll 0 { key := 7 }).2

theorem waitedFor_run
    : Run Step (State.new sampleConfig true)
        [.connecting 7 .auto, .pooled (fun _ => false) 0 false true false, .checkout 7,
          .poll 0 .pending]
        waitedFor := by
  apply Run.cons
  · exact ⟨rfl, rfl⟩
  apply Run.cons
  · exact ⟨rfl, rfl⟩
  apply Run.cons
  · exact ⟨rfl, rfl⟩
  apply Run.cons
  · exact ⟨_, rfl, rfl, rfl⟩
  exact .nil

/-- The connection returns, and is sent to the checkout. -/
def sentOn : State Nat := waitedFor.dropPooled (fun _ => false) 0 (ownHandle 0)

theorem waitedFor_retains : waitedFor.Retains 0 (.dropPooled (fun _ => false) 0) := by
  refine ⟨nofun, fun dismissed => ?_⟩
  have call : waitedFor.putBy (.dropPooled (fun _ => false) 0)
      = some ⟨fun _ => false, false, 7, 0⟩ := rfl
  cases dismissed with
  | closed looked shut => exact absurd shut (by decide)
  | expired present looked late => cases looked.since_none
  | full present made same unwanted full =>
      cases call.symm.trans made
      cases present
      exact absurd unwanted (by decide)
  | evicted present made kept new limited full oldest member same =>
      cases call.symm.trans made
      cases present
      exact absurd kept (by decide)

/-- The checkout that is polled afterwards gets the connection. -/
theorem returned_kept_iff_polled
    : Run
        (Through (fun state => state.Keeps 7 0) (Guarded (State.Retains 0) Step))
        sentOn [.poll 0 (.ok 0 none)] (sentOn.poll 0 { key := 7, waiter := some 0 }).2 := by
  have step : Step waitedFor (.dropPooled (fun _ => false) 0) sentOn := ⟨_, rfl, rfl⟩
  have found : waitedFor.pooleds.get? 0 = some (ownHandle 0) := rfl
  have quiet : ¬ sentOn.Dismisses (.poll 0 (.ok 0 none)) 0 := by
    intro dismissed
    cases dismissed with
    | closed looked shut => exact absurd shut (by decide)
    | expired present looked late =>
        obtain ⟨checkout, found, idle⟩ := looked.unwaited
        cases found
        cases idle
    | full present made same unwanted full => cases made
    | evicted present made kept new limited full oldest member same => cases made
  refine (returned_kept_iff waitedFor_run found rfl rfl rfl waitedFor_retains step).2.mpr ?_
  exact .cons ⟨rfl, ⟨nofun, quiet⟩, _, rfl, rfl, rfl⟩ .nil

/-- The checkout that is dropped instead takes the connection along. -/
theorem sent_connection_lost
    : ∃ past returned later, Run Step (State.new sampleConfig true) past waitedFor
        ∧ Step waitedFor (.dropPooled (fun _ => false) 0) returned
        ∧ waitedFor.pooleds.get? 0 = some (ownHandle 0) ∧ waitedFor.canShare 0 = false
        ∧ waitedFor.isOpen 0 = true
        ∧ waitedFor.Retains 0 (.dropPooled (fun _ => false) 0)
        ∧ Run (Guarded (State.Retains 0) Step) returned [.beginDrop 0, .closeReceiver 0] later
        ∧ later.inner.isSome = true ∧ ¬ later.Keeps 7 0 := by
  let begun := sentOn.beginDrop 0 { key := 7, waiter := some 0 }
  let shut := begun.closeReceiver 0 { key := 7, waiter := some 0, dropping := true } 0
  have unseen (state : State Nat) (event : Event Nat)
      (about : event = .beginDrop 0 ∨ event = .closeReceiver 0)
      : ¬ state.Dismisses event 0 := by
    rcases about with rfl | rfl
    · exact State.not_dismisses rfl (fun since looked => by cases looked)
    · exact State.not_dismisses rfl (fun since looked => by cases looked)
  refine ⟨_, sentOn, shut, waitedFor_run, ⟨_, rfl, rfl⟩, rfl, rfl, rfl, waitedFor_retains, ?_, rfl,
    ?_⟩
  · exact .cons ⟨⟨nofun, unseen _ _ (.inl rfl)⟩, _, rfl, rfl, rfl⟩
      (.cons ⟨⟨nofun, unseen _ _ (.inr rfl)⟩, _, 0, rfl, rfl, rfl, rfl⟩ .nil)
  · intro kept
    have none : shut.uses 0 = 0 := by decide
    have one := kept.one_le_uses
    omega

end Tlsurl.Pool
