import Tlsurl.Core.Stream

/-! Who has the body of a streamed response.
At most one call is past the lock; it alone touches the slot, and the slot is empty while a
pending read owns the body.
-/

namespace Tlsurl.Core.Stream

open Library

variable {Body : Type}

/-- Whether a read owns the body. -/
def ReadPhase.owns : ReadPhase Body → Bool
  | .selecting _ => true
  | .polling _ => true
  | .suspended _ => true
  | .checking _ _ => true
  | .storing _ _ => true
  | _ => false

/-- Where a task is with respect to the lock. -/
def State.station (state : State Body) : Task → Station
  | .read id => (state.reads id).station
  | .close id => (state.closes id).station

-----------------------------------------------------------------------------------------
-- Changing one phase
-----------------------------------------------------------------------------------------

section Phases

variable (state : State Body) (id : Nat)

@[simp] theorem station_setRead (phase : ReadPhase Body)
    : (state.setRead id phase).station
      = Function.update state.station (.read id) phase.station := by
  funext task
  cases task with
  | read other =>
      by_cases same : other = id
      · simp [State.station, State.setRead, same]
      · simp [State.station, State.setRead, same]
  | close other => simp [State.station, State.setRead]

@[simp] theorem station_setClose (phase : ClosePhase)
    : (state.setClose id phase).station
      = Function.update state.station (.close id) phase.station := by
  funext task
  cases task with
  | read other => simp [State.station, State.setClose]
  | close other =>
      by_cases same : other = id
      · simp [State.station, State.setClose, same]
      · simp [State.station, State.setClose, same]

end Phases

/-- A read that owns the body is past the lock. -/
theorem inside_of_owns {phase : ReadPhase Body} (owns : phase.owns = true)
    : phase.station = .inside := by
  cases phase <;> simp_all [ReadPhase.owns, ReadPhase.station]

-----------------------------------------------------------------------------------------
-- The invariant
-----------------------------------------------------------------------------------------

/-- The lock agrees with the phases, a read that owns the body has taken it out of the slot, a
close that has cleared the slot finds it empty until it unlocks, and the token is cancelled
once a close has begun or a read refuses.
-/
structure State.Owned (state : State Body) : Prop where
  tracks : state.lock.Tracks state.station
  owner : ∀ id, (state.reads id).owns = true → state.body = none
  cleared : ∀ id, state.closes id = .unlocking → state.body = none
  asked : ∀ id, state.closes id ≠ .uncalled → state.cancellation = true
  refusing : ∀ id, state.reads id = .clearing → state.cancellation = true

/-- A response on which nothing was called. -/
theorem State.owned_new (body : Body) : (State.new body).Owned where
  tracks := FairLock.tracks_free (fun task => by cases task <;> rfl)
  owner _ owns := by cases owns
  cleared _ unlocking := by cases unlocking
  asked _ called := absurd rfl called
  refusing _ clearing := by cases clearing

namespace State.Owned

variable {state : State Body}

/-- A read changes its phase. The slot changes only in the hands of a task past the lock. -/
theorem setRead (owned : state.Owned) {id : Nat} {phase : ReadPhase Body} (body : Option Body)
    (lock : FairLock Task)
    (tracks : lock.Tracks (Function.update state.station (.read id) phase.station))
    (kept : state.station (.read id) = .inside ∨ body = state.body)
    (owner : phase.owns = true → body = none)
    (refusing : phase = .clearing → state.cancellation = true)
    : ({ state with body, lock }.setRead id phase).Owned where
  tracks := by
    rw [station_setRead]
    exact tracks
  owner other owns := by
    by_cases same : other = id
    · exact owner (by simpa [State.setRead, same] using owns)
    · have before : (state.reads other).owns = true := by
        simpa [State.setRead, same] using owns
      rcases kept with inside | unchanged
      · have one := owned.tracks.exclusive inside
          (show state.station (.read other) = .inside from inside_of_owns before)
        cases one
        exact absurd rfl same
      · exact unchanged.trans (owned.owner other before)
  cleared other unlocking := by
    have before : state.closes other = .unlocking := unlocking
    rcases kept with inside | unchanged
    · have place : state.station (.close other) = .inside := by
        simp [State.station, before, ClosePhase.station]
      cases owned.tracks.exclusive inside place
    · exact unchanged.trans (owned.cleared other before)
  asked other called := owned.asked other called
  refusing other clearing := by
    by_cases same : other = id
    · exact refusing (by simpa [State.setRead, same] using clearing)
    · exact owned.refusing other (by simpa [State.setRead, same] using clearing)

/-- A close changes its phase, once the token is cancelled. -/
theorem setClose (owned : state.Owned) {id : Nat} {phase : ClosePhase} (body : Option Body)
    (lock : FairLock Task) {cancellation : Bool} (token : cancellation = true)
    (tracks : lock.Tracks (Function.update state.station (.close id) phase.station))
    (kept : body = none ∨ body = state.body)
    (cleared : phase = .unlocking → body = none)
    : ({ state with body, lock, cancellation }.setClose id phase).Owned where
  tracks := by
    rw [station_setClose]
    exact tracks
  owner other owns := by
    rcases kept with empty | unchanged
    · exact empty
    · exact unchanged.trans (owned.owner other owns)
  cleared other unlocking := by
    by_cases same : other = id
    · exact cleared (by simpa [State.setClose, same] using unlocking)
    · rcases kept with empty | unchanged
      · exact empty
      · exact unchanged.trans
          (owned.cleared other (by simpa [State.setClose, same] using unlocking))
  asked _ _ := token
  refusing _ _ := token

/-- A read that is past the lock and stays there changes neither the lock nor, unless it may,
the slot.
-/
theorem stays (owned : state.Owned) {id : Nat} {phase : ReadPhase Body} (body : Option Body)
    (before : (state.reads id).station = .inside) (after : phase.station = .inside)
    (owner : phase.owns = true → body = none)
    (refusing : phase = .clearing → state.cancellation = true)
    : ({ state with body }.setRead id phase).Owned := by
  have inside : state.station (.read id) = .inside := before
  refine owned.setRead _ state.lock ?_ (.inl inside) owner refusing
  rw [after, ← inside, Function.update_eq_self]
  exact owned.tracks

/-- A read that leaves the line is gone. -/
theorem leaves (owned : state.Owned) (id : Nat)
    : ((state.leave (.read id)).setRead id .gone).Owned :=
  owned.setRead _ _ owned.tracks.leave (.inr rfl) (fun owns => by cases owns)
    (fun clearing => by cases clearing)

/-- The slot is empty while a read that owns the body moves on with it. -/
theorem holding (owned : state.Owned) {id : Nat} {before phase : ReadPhase Body}
    (here : state.reads id = before) (owns : before.owns = true)
    (after : phase.station = .inside) (calm : phase ≠ .clearing)
    : (state.setRead id phase).Owned := by
  have mine : (state.reads id).owns = true := by rw [here, owns]
  exact owned.stays state.body (inside_of_owns mine) after
    (fun _ => owned.owner id mine) (fun clearing => absurd clearing calm)

/-- A close that keeps its place keeps the lock. -/
theorem close_stays (owned : state.Owned) {id : Nat} {phase : ClosePhase}
    (same : (state.closes id).station = phase.station)
    : state.lock.Tracks (Function.update state.station (.close id) phase.station) := by
  rw [← same, show (state.closes id).station = state.station (.close id) from rfl,
    Function.update_eq_self]
  exact owned.tracks

end State.Owned

/-- Each step keeps the invariant. -/
theorem Step.owned {poll : Body → Polled → Body → Prop} {state next : State Body} {event : Event}
    (step : Step poll state event next) (owned : state.Owned)
    : next.Owned := by
  cases event with
  | beginLock id =>
      obtain ⟨here, rfl⟩ := step
      have away : state.station (.read id) = .away := by
        simp [State.station, here, ReadPhase.station]
      unfold State.beginLock
      split
      · next lock taken =>
          exact owned.setRead _ _ (owned.tracks.tryLock taken) (.inr rfl)
            (fun owns => by cases owns) (fun clearing => by cases clearing)
      · exact owned.setRead _ _ (owned.tracks.join away) (.inr rfl) (fun owns => by cases owns)
          (fun clearing => by cases clearing)
  | locked id =>
      obtain ⟨_, has, rfl⟩ := step
      exact owned.setRead state.body state.lock (owned.tracks.enter has)
        (.inr rfl) (fun owns => by cases owns) (fun clearing => by cases clearing)
  | checkToken id =>
      obtain ⟨here, rfl⟩ := step
      have inside : (state.reads id).station = .inside := by simp [here, ReadPhase.station]
      unfold State.checkToken
      split
      · next token =>
          exact owned.stays state.body inside rfl (fun owns => by cases owns)
            (fun _ => token)
      · exact owned.stays state.body inside rfl (fun owns => by cases owns)
          (fun clearing => by cases clearing)
  | clearRead id =>
      obtain ⟨here, rfl⟩ := step
      have inside : (state.reads id).station = .inside := by simp [here, ReadPhase.station]
      exact owned.stays _ inside rfl (fun owns => by cases owns) (fun clearing => by cases clearing)
  | take id =>
      obtain ⟨here, rfl⟩ := step
      have inside : (state.reads id).station = .inside := by simp [here, ReadPhase.station]
      unfold State.take
      split
      · exact owned.stays state.body inside rfl (fun owns => by cases owns)
          (fun clearing => by cases clearing)
      · exact owned.stays _ inside rfl (fun _ => rfl) (fun clearing => by cases clearing)
  | wake id =>
      obtain ⟨stream, here, rfl⟩ := step
      exact owned.holding here rfl rfl (by simp)
  | select id =>
      obtain ⟨stream, here, rfl⟩ := step
      unfold State.select
      split
      · exact owned.holding here rfl rfl (by simp)
      · exact owned.holding here rfl rfl (by simp)
  | poll id answer =>
      obtain ⟨stream, after, here, _, rfl⟩ := step
      unfold State.polled
      split
      · exact owned.holding here rfl rfl (by simp)
      · exact owned.holding here rfl rfl (by simp)
  | recheck id =>
      obtain ⟨stream, result, here, rfl⟩ := step
      unfold State.recheck
      repeat' split
      all_goals exact owned.holding here rfl rfl (by simp)
  | store id =>
      obtain ⟨stream, chunk, here, rfl⟩ := step
      have inside : (state.reads id).station = .inside := by simp [here, ReadPhase.station]
      exact owned.stays _ inside rfl (fun owns => by cases owns) (fun clearing => by cases clearing)
  | ret id result =>
      obtain ⟨_, rfl⟩ := step
      exact owned.leaves id
  | dropLocking id =>
      obtain ⟨_, rfl⟩ := step
      exact owned.leaves id
  | dropSuspended id =>
      obtain ⟨_, _, rfl⟩ := step
      exact owned.leaves id
  | cancel id =>
      obtain ⟨here, rfl⟩ := step
      exact owned.setClose state.body state.lock rfl
        (owned.close_stays (by rw [here]; rfl)) (.inr rfl) (fun unlocking => by cases unlocking)
  | tryLock id =>
      obtain ⟨here, rfl⟩ := step
      have token : state.cancellation = true := owned.asked id (by simp [here])
      unfold State.tryLock
      split
      · next lock taken =>
          exact owned.setClose state.body _ token (owned.tracks.tryLock taken) (.inr rfl)
            (fun unlocking => by cases unlocking)
      · exact owned.setClose state.body state.lock token
          (owned.close_stays (by rw [here]; rfl)) (.inr rfl)
          (fun unlocking => by cases unlocking)
  | clear id =>
      obtain ⟨here, rfl⟩ := step
      have token : state.cancellation = true := owned.asked id (by simp [here])
      exact owned.setClose _ state.lock token (owned.close_stays (by rw [here]; rfl))
        (.inl rfl) (fun _ => rfl)
  | unlock id =>
      obtain ⟨here, rfl⟩ := step
      have token : state.cancellation = true := owned.asked id (by simp [here])
      exact owned.setClose state.body _ token owned.tracks.leave (.inr rfl)
        (fun unlocking => by cases unlocking)

/-- Every state reached satisfies the invariant. -/
theorem owned_of_run {poll : Body → Polled → Body → Prop} {body : Body} {events : List Event}
    {state : State Body} (run : Run (Step poll) (.new body) events state)
    : state.Owned :=
  run.invariant (fun _ owned step => step.owned owned) (State.owned_new body)

end Tlsurl.Core.Stream
