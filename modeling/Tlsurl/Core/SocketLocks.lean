import Tlsurl.Core.WebSocket

/-! The two locks of a WebSocket and the calls in line for them.
A step moves one call, and a call is in line for at most one lock.
-/

namespace Tlsurl.Core.WebSocket

open Library

/-- The lock a phase has to do with, and how. -/
def Phase.place : Phase → Option (Side × Station)
  | .polling job hold => some (job.side, hold.station)
  | .looking job hold => some (job.side, hold.station)
  | .working job hold => some (job.side, hold.station)
  | .timing job hold => some (job.side, hold.station)
  | .suspended job hold => some (job.side, hold.station)
  | .checking side _ => some (side, .inside)
  | .emptying side _ => some (side, .inside)
  | .unlocking side _ => some (side, .inside)
  | .aborting (.clear side) _ => some (side, .inside)
  | .aborting (.unlock side) _ => some (side, .inside)
  | _ => none

/-- Where a phase is with respect to a lock. -/
def Phase.station (side : Side) (phase : Phase) : Station :=
  match phase.place with
  | some (at_, station) => if at_ = side then station else .away
  | none => .away

/-- A phase that has to do with no lock. -/
def Phase.Free (phase : Phase) : Prop := ∀ side, phase.station side = .away

/-- The job that a call is at, outside the drop of a guard. -/
def Phase.run : Phase → Option (Job × Hold)
  | .polling job hold => some (job, hold)
  | .looking job hold => some (job, hold)
  | .working job hold => some (job, hold)
  | .timing job hold => some (job, hold)
  | .suspended job hold => some (job, hold)
  | _ => none

/-- How a call goes on once its guard is dropped. -/
def Phase.rest : Phase → Option Phase
  | .checking _ next => some next
  | .emptying _ next => some next
  | .unlocking _ next => some next
  | _ => none

/-- The call that an event is about. -/
def Event.actor : Event → Nat
  | .call id _ => id
  | .look id => id
  | .lookStill id => id
  | .announce id => id
  | .lookCancelled id => id
  | .lookClosing id => id
  | .lock id => id
  | .granted id => id
  | .blocked id => id
  | .openSlot id => id
  | .feed id _ => id
  | .hand id _ => id
  | .flush id _ => id
  | .read id _ => id
  | .suspend id => id
  | .timeout id => id
  | .wake id => id
  | .drop id => id
  | .check id => id
  | .empty id => id
  | .unlock id => id
  | .finish id => id
  | .abort id => id

-----------------------------------------------------------------------------------------
-- What one step can do
-----------------------------------------------------------------------------------------

/-- What moving one call from its phase to another does to the locks: nothing; it takes a free
one, gets in line, notices that it has one, or leaves one.
-/
inductive LockEffect (state : State) (id : Nat) (phase : Phase) : (Side → FairLock Nat) → Prop
  | stays (same : ∀ side, phase.station side = (state.phase id).station side)
    : LockEffect state id phase state.locks
  | takes {side lock} (free : (state.phase id).Free)
    (taken : (state.locks side).tryLock id = some lock) (place : phase.place = some (side, .inside))
    : LockEffect state id phase (Function.update state.locks side lock)
  | joins {side} (free : (state.phase id).Free) (place : phase.place = some (side, .waiting))
    : LockEffect state id phase (Function.update state.locks side ((state.locks side).join id))
  | enters {side} (before : (state.phase id).place = some (side, .waiting))
    (has : (state.locks side).holder = some id) (place : phase.place = some (side, .inside))
    : LockEffect state id phase state.locks
  | leaves {side station} (before : (state.phase id).place = some (side, station))
    (free : phase.Free)
    : LockEffect state id phase (Function.update state.locks side ((state.locks side).leave id))

theorem free_of_place {phase : Phase} (nowhere : phase.place = none) : phase.Free := by
  intro side
  simp [Phase.station, nowhere]

theorem free_of_away {phase : Phase} {side : Side} (away : phase.place = some (side, .away))
    : phase.Free := by
  intro other
  simp only [Phase.station, away]
  split <;> rfl

theorem station_of_place {phase : Phase} {side : Side} {station : Station}
    (place : phase.place = some (side, station))
    : phase.station side = station := by
  simp [Phase.station, place]

theorem station_of_place_ne {phase : Phase} {side other : Side} {station : Station}
    (place : phase.place = some (side, station)) (different : other ≠ side)
    : phase.station other = .away := by
  simp only [Phase.station, place]
  split
  · next same => exact absurd same.symm different
  · rfl

/-- Two phases with the same place are at the same stations. -/
theorem station_congr {phase other : Phase} (same : phase.place = other.place) (side : Side)
    : phase.station side = other.station side := by
  simp only [Phase.station, same]

/-- Two phases at no lock are at the same stations. -/
theorem Phase.Free.station_eq {phase other : Phase} (free : phase.Free) (also : other.Free)
    (side : Side)
    : phase.station side = other.station side := by
  rw [free side, also side]

/-- A phase at no lock has no guard to drop. -/
theorem Phase.Free.rest_eq {phase : Phase} (free : phase.Free) : phase.rest = none := by
  cases phase with
  | checking side next => cases (free side).symm.trans (station_of_place rfl)
  | emptying side next => cases (free side).symm.trans (station_of_place rfl)
  | unlocking side next => cases (free side).symm.trans (station_of_place rfl)
  | _ => rfl

/-- How a call may go on after a job. -/
def Phase.Follows (phase : Phase) : Prop :=
  (∃ (job : Job) (outcome : Outcome), phase = job.after outcome) ∨ phase = .dropped

/-- What holds wherever a job may lead holds of what follows it, by cases on the job. -/
theorem Phase.Follows.rule {motive : Phase → Prop} {phase : Phase} (follows : phase.Follows)
    (returned : ∀ result, motive (.returned result))
    (ending : ∀ message, motive (.ending message))
    (flushing : ∀ message, motive (.polling (.flush message) .fresh))
    (awaiting : motive (.working .awaitClose .fresh))
    (cancelling : ∀ result, motive (.aborting .cancel result))
    (dropped : motive .dropped)
    : motive phase := by
  have error (error : Error) : motive (afterError error) := by
    unfold afterError
    split
    · exact cancelling _
    · exact returned _
  rcases follows with ⟨job, outcome, rfl⟩ | rfl
  · unfold Job.after
    split
    all_goals first
      | exact error _
      | exact returned _
      | exact ending _
      | exact flushing _
      | exact awaiting
      | exact cancelling _
  · exact dropped

/-- A call that goes on after a job is at no lock. -/
theorem Phase.Follows.free {phase : Phase} (follows : phase.Follows) : phase.Free := by
  apply follows.rule
  · exact fun _ => free_of_place rfl
  · exact fun _ => free_of_place rfl
  · exact fun _ => free_of_away rfl
  · exact free_of_away rfl
  · exact fun _ => free_of_place rfl
  · exact free_of_place rfl

theorem follows_after (job : Job) (outcome : Outcome) : (job.after outcome).Follows :=
  .inl ⟨job, outcome, rfl⟩

/-- One step moves one call; the drop of a guard is followed by what follows a job. -/
structure Effect (state : State) (id : Nat) (next : State) (phase : Phase) : Prop where
  moves : next.phase = Function.update state.phase id phase
  locks : LockEffect state id phase next.locks
  rest : ∀ rest, phase.rest = some rest → rest.Follows

namespace Effect

variable {state : State} {id : Nat}

/-- A call that keeps its stations changes no lock. -/
theorem setPhase {phase : Phase}
    (same : ∀ side, phase.station side = (state.phase id).station side)
    (rest : ∀ rest, phase.rest = some rest → rest.Follows)
    : Effect state id (state.setPhase id phase) phase :=
  ⟨rfl, .stays same, rest⟩

/-- A call whose next phase has the place of the one it is in changes no lock. -/
theorem keepsPlace {before phase : Phase} (here : state.phase id = before)
    (same : phase.place = before.place)
    (rest : ∀ rest, phase.rest = some rest → rest.Follows)
    : Effect state id (state.setPhase id phase) phase :=
  setPhase (station_congr (same.trans (congrArg Phase.place here).symm)) rest

/-- A call that is at no lock, and stays so, changes no lock. -/
theorem free {phase : Phase} (before : (state.phase id).Free) (after : phase.Free)
    : Effect state id (state.setPhase id phase) phase :=
  setPhase (after.station_eq before) (fun rest some => by simp [after.rest_eq] at some)

/-- A job that is over leaves its place in line, or keeps the lock until its guard is dropped. -/
theorem letGo {job : Job} {hold : Hold} {next : Phase}
    (place : (state.phase id).place = some (job.side, hold.station)) (after : next.Follows)
    : ∃ phase, Effect state id (state.letGo id job hold next) phase := by
  unfold State.letGo
  split
  · next away =>
      rw [away] at place
      exact ⟨next, free (free_of_away place) after.free⟩
  · exact ⟨next, rfl, .leaves place after.free,
      fun rest some => by simp [after.free.rest_eq] at some⟩
  · next inside =>
      rw [inside] at place
      refine ⟨_, setPhase (station_congr place.symm) (fun rest some => ?_)⟩
      cases some
      exact after

/-- A half of the socket that answers ends the job, or leaves it where it is. -/
theorem answer {job : Job} {hold : Hold} {outcome : Option Outcome}
    (here : state.phase id = .working job hold)
    : ∃ phase, Effect state id (state.answer id job hold outcome) phase := by
  unfold State.answer
  split
  · exact ⟨_, keepsPlace here rfl (fun rest some => by cases some)⟩
  · exact letGo (congrArg Phase.place here) (follows_after job _)

/-- What follows a slot in `abort` is at no lock. -/
theorem afterSide_free (side : Side) (result : Result) : (State.afterSide side result).Free := by
  cases side <;> exact free_of_place rfl

/-- A step of `abort` takes a lock, gives it back or leaves it alone. -/
theorem abort {step : AbortStep} {result : Result} (here : state.phase id = .aborting step result)
    : ∃ phase, Effect state id (state.abort id step result) phase := by
  cases step with
  | cancel =>
      exact ⟨_, rfl, .stays (station_congr (congrArg Phase.place here).symm),
        fun rest some => by cases some⟩
  | tryLock side =>
      have before : (state.phase id).Free := free_of_place (congrArg Phase.place here)
      simp only [State.abort]
      split
      · next lock taken => exact ⟨_, rfl, .takes before taken rfl, fun rest some => by cases some⟩
      · exact ⟨_, free before (afterSide_free side result)⟩
  | clear side =>
      exact ⟨_, rfl, .stays (station_congr (congrArg Phase.place here).symm),
        fun rest some => by cases some⟩
  | unlock side =>
      have after := afterSide_free side result
      exact ⟨_, rfl, .leaves (congrArg Phase.place here) after,
        fun rest some => by simp [after.rest_eq] at some⟩

end Effect

/-- Each step has such an effect. -/
theorem Step.effect {state next : State} {event : Event} (step : Step state event next)
    (calm : ∀ rest, (state.phase event.actor).rest = some rest → rest.Follows)
    : ∃ phase, Effect state event.actor next phase := by
  have none {phase : Phase} (absent : phase.rest = none)
      : ∀ rest, phase.rest = some rest → rest.Follows := by
    intro rest present
    rw [absent] at present
    cases present
  cases event with
  | call id call =>
      obtain ⟨here, rfl⟩ := step
      have before : (state.phase id).Free := free_of_place (congrArg Phase.place here)
      cases call with
      | close frame =>
          simp only [State.begin]
          split <;> exact ⟨_, .free before (free_of_place rfl)⟩
      | _ => exact ⟨_, .free before (free_of_place rfl)⟩
  | look id =>
      rcases step with ⟨kind, data, here, rfl⟩ | ⟨here, rfl⟩ | ⟨frame, here, rfl⟩
      · have before : (state.phase id).Free := free_of_place (congrArg Phase.place here)
        refine ⟨_, .free before ?_⟩
        split
        · exact free_of_place rfl
        · split
          · exact free_of_away rfl
          · exact free_of_place rfl
      · have before : (state.phase id).Free := free_of_place (congrArg Phase.place here)
        refine ⟨_, .free before ?_⟩
        split
        · exact free_of_place rfl
        · exact free_of_away rfl
      · have before : (state.phase id).Free := free_of_place (congrArg Phase.place here)
        refine ⟨_, .free before ?_⟩
        split <;> exact free_of_place rfl
  | lookStill id =>
      obtain ⟨frame, here, rfl⟩ := step
      have before : (state.phase id).Free := free_of_place (congrArg Phase.place here)
      refine ⟨_, .free before ?_⟩
      split <;> exact free_of_place rfl
  | announce id =>
      obtain ⟨frame, here, rfl⟩ := step
      have before : (state.phase id).Free := free_of_place (congrArg Phase.place here)
      have after : (Phase.polling (.handClose frame) .fresh).Free := free_of_away rfl
      exact ⟨_, rfl, .stays (after.station_eq before), none rfl⟩
  | lookCancelled id =>
      obtain ⟨job, hold, here, rfl⟩ := step
      unfold State.lookCancelled
      split
      · exact Effect.letGo (congrArg Phase.place here) (follows_after job _)
      · refine ⟨_, .keepsPlace here ?_ (none ?_)⟩
        · split <;> rfl
        · split <;> rfl
  | lookClosing id =>
      obtain ⟨job, hold, here, rfl⟩ := step
      unfold State.lookClosing
      split
      · exact Effect.letGo (congrArg Phase.place here) (follows_after job _)
      · exact ⟨_, .keepsPlace here rfl (none rfl)⟩
  | lock id =>
      obtain ⟨job, here, rfl⟩ := step
      have before : (state.phase id).Free := free_of_away (congrArg Phase.place here)
      unfold State.lock
      split
      · next lock taken => exact ⟨_, rfl, .takes before taken rfl, none rfl⟩
      · exact ⟨_, rfl, .joins before rfl, none rfl⟩
  | granted id =>
      obtain ⟨job, here, has, rfl⟩ := step
      exact ⟨_, rfl, .enters (congrArg Phase.place here) has rfl, none rfl⟩
  | blocked id =>
      obtain ⟨job, here, _, rfl⟩ := step
      exact ⟨_, .keepsPlace here rfl (none rfl)⟩
  | openSlot id =>
      obtain ⟨job, here, rfl⟩ := step
      unfold State.openSlot
      split
      · refine ⟨_, .keepsPlace here ?_ (none rfl)⟩
        cases job <;> rfl
      · exact Effect.letGo (congrArg Phase.place here) (follows_after job _)
  | feed id failure =>
      obtain ⟨job, here, rfl⟩ := step
      exact Effect.answer here
  | hand id message =>
      obtain ⟨job, here, _, rfl⟩ := step
      exact ⟨_, .keepsPlace here rfl (none rfl)⟩
  | flush id outcome =>
      obtain ⟨job, here, rfl⟩ := step
      exact Effect.answer here
  | read id outcome =>
      obtain ⟨job, here, rfl⟩ := step
      unfold State.read
      split
      · exact Effect.answer here
      · exact ⟨_, .keepsPlace here rfl (none rfl)⟩
      · exact Effect.answer here
  | suspend id =>
      obtain ⟨job, hold, here, rfl⟩ := step
      exact ⟨_, .keepsPlace here rfl (none rfl)⟩
  | timeout id =>
      obtain ⟨job, hold, here, rfl⟩ := step
      exact Effect.letGo (congrArg Phase.place here) (follows_after job _)
  | wake id =>
      obtain ⟨job, hold, here, rfl⟩ := step
      exact ⟨_, .keepsPlace here rfl (none rfl)⟩
  | drop id =>
      obtain ⟨job, hold, here, rfl⟩ := step
      exact Effect.letGo (congrArg Phase.place here) (.inr rfl)
  | check id =>
      obtain ⟨side, after, here, rfl⟩ := step
      have follows : after.Follows := calm after (by simp [Event.actor, here, Phase.rest])
      refine ⟨_, .keepsPlace here ?_ ?_⟩
      · split <;> rfl
      · intro rest present
        split at present <;> cases present <;> exact follows
  | empty id =>
      obtain ⟨side, after, here, rfl⟩ := step
      have follows : after.Follows := calm after (by simp [Event.actor, here, Phase.rest])
      refine ⟨_, rfl, .stays (station_congr (congrArg Phase.place here).symm), ?_⟩
      intro rest present
      cases present
      exact follows
  | unlock id =>
      obtain ⟨side, after, here, rfl⟩ := step
      have follows : after.Follows := calm after (by simp [Event.actor, here, Phase.rest])
      refine ⟨_, rfl, .leaves (congrArg Phase.place here) follows.free, none follows.free.rest_eq⟩
  | finish id =>
      obtain ⟨message, here, rfl⟩ := step
      exact ⟨_, rfl, .stays (station_congr (congrArg Phase.place here).symm), none rfl⟩
  | abort id =>
      obtain ⟨step, result, here, rfl⟩ := step
      exact Effect.abort here

-----------------------------------------------------------------------------------------
-- What never comes back
-----------------------------------------------------------------------------------------

/-- Slots are not filled again, and tokens stay cancelled. -/
structure State.Spent (state next : State) : Prop where
  full : ∀ side, state.full side = false → next.full side = false
  cancellation : state.cancellation = true → next.cancellation = true
  closing : state.closing = true → next.closing = true

namespace State.Spent

theorem refl (state : State) : state.Spent state := ⟨fun _ => id, id, id⟩

/-- Phases and locks do not matter here. -/
theorem setPhase {state next : State} (spent : state.Spent next) (id : Nat) (phase : Phase)
    : state.Spent (next.setPhase id phase) :=
  ⟨spent.full, spent.cancellation, spent.closing⟩

theorem setLock {state next : State} (spent : state.Spent next) (side : Side)
    (lock : FairLock Nat)
    : state.Spent (next.setLock side lock) :=
  ⟨spent.full, spent.cancellation, spent.closing⟩

theorem clear (state : State) (side : Side) : state.Spent (state.clear side) where
  full other empty := by
    simp only [State.clear, Function.update_apply]
    split
    · rfl
    · exact empty
  cancellation := id
  closing := id

theorem letGo (state : State) (id : Nat) (job : Job) (hold : Hold) (next : Phase)
    : state.Spent (state.letGo id job hold next) := by
  unfold State.letGo
  split
  · exact (refl state).setPhase id _
  · exact ((refl state).setLock _ _).setPhase id _
  · exact (refl state).setPhase id _

theorem answer (state : State) (id : Nat) (job : Job) (hold : Hold) (outcome : Option Outcome)
    : state.Spent (state.answer id job hold outcome) := by
  unfold State.answer
  split
  · exact (refl state).setPhase id _
  · exact letGo state id job hold _

theorem abort (state : State) (id : Nat) (step : AbortStep) (result : Result)
    : state.Spent (state.abort id step result) := by
  cases step with
  | cancel => exact ⟨fun _ kept => kept, fun _ => rfl, fun kept => kept⟩
  | tryLock side =>
      simp only [State.abort]
      split
      · exact ((refl state).setLock _ _).setPhase id _
      · exact (refl state).setPhase id _
  | clear side => exact (clear state side).setPhase id _
  | unlock side => exact ((refl state).setLock _ _).setPhase id _

end State.Spent

/-- No step fills a slot or revives a token. -/
theorem Step.spent {state next : State} {event : Event} (step : Step state event next)
    : state.Spent next := by
  have same := State.Spent.refl state
  cases event with
  | call id call =>
      obtain ⟨_, rfl⟩ := step
      cases call with
      | close frame =>
          simp only [State.begin]
          split <;> exact same.setPhase id _
      | _ => exact same.setPhase id _
  | look id =>
      rcases step with ⟨_, _, _, rfl⟩ | ⟨_, rfl⟩ | ⟨_, _, rfl⟩
      · exact same.setPhase id _
      · exact same.setPhase id _
      · exact same.setPhase id _
  | lookStill id =>
      obtain ⟨_, _, rfl⟩ := step
      exact same.setPhase id _
  | announce id =>
      obtain ⟨_, _, rfl⟩ := step
      exact ⟨fun _ kept => kept, fun kept => kept, fun _ => rfl⟩
  | lookCancelled id =>
      obtain ⟨_, _, _, rfl⟩ := step
      unfold State.lookCancelled
      split
      · exact .letGo state id _ _ _
      · exact same.setPhase id _
  | lookClosing id =>
      obtain ⟨_, _, _, rfl⟩ := step
      unfold State.lookClosing
      split
      · exact .letGo state id _ _ _
      · exact same.setPhase id _
  | lock id =>
      obtain ⟨_, _, rfl⟩ := step
      unfold State.lock
      split <;> exact (same.setLock _ _).setPhase id _
  | granted id =>
      obtain ⟨_, _, _, rfl⟩ := step
      exact same.setPhase id _
  | blocked id =>
      obtain ⟨_, _, _, rfl⟩ := step
      exact same.setPhase id _
  | openSlot id =>
      obtain ⟨_, _, rfl⟩ := step
      unfold State.openSlot
      split
      · exact same.setPhase id _
      · exact .letGo state id _ _ _
  | feed id failure =>
      obtain ⟨_, _, rfl⟩ := step
      exact .answer state id _ _ _
  | hand id message =>
      obtain ⟨_, _, _, rfl⟩ := step
      exact same.setPhase id _
  | flush id outcome =>
      obtain ⟨_, _, rfl⟩ := step
      exact .answer state id _ _ _
  | read id outcome =>
      obtain ⟨_, _, rfl⟩ := step
      unfold State.read
      split
      · exact .answer state id _ _ _
      · exact same.setPhase id _
      · exact .answer state id _ _ _
  | suspend id =>
      obtain ⟨_, _, _, rfl⟩ := step
      exact same.setPhase id _
  | timeout id =>
      obtain ⟨_, _, _, rfl⟩ := step
      exact .letGo state id _ _ _
  | wake id =>
      obtain ⟨_, _, _, rfl⟩ := step
      exact same.setPhase id _
  | drop id =>
      obtain ⟨_, _, _, rfl⟩ := step
      exact .letGo state id _ _ _
  | check id =>
      obtain ⟨_, _, _, rfl⟩ := step
      exact same.setPhase id _
  | empty id =>
      obtain ⟨side, _, _, rfl⟩ := step
      exact (State.Spent.clear state side).setPhase id _
  | unlock id =>
      obtain ⟨_, _, _, rfl⟩ := step
      exact (same.setLock _ _).setPhase id _
  | finish id =>
      obtain ⟨_, _, rfl⟩ := step
      exact ⟨fun _ kept => kept, fun kept => kept, fun _ => rfl⟩
  | abort id =>
      obtain ⟨step, result, _, rfl⟩ := step
      exact .abort state id step result

-----------------------------------------------------------------------------------------
-- The invariant
-----------------------------------------------------------------------------------------

/-- Both locks agree with the phases, and no call keeps a lock beyond the drop of its guard. -/
structure State.Locked (state : State) : Prop where
  tracks : ∀ side, (state.locks side).Tracks (fun id => (state.phase id).station side)
  calm : ∀ id rest, (state.phase id).rest = some rest → rest.Follows

/-- A socket on which nothing was called. -/
theorem State.locked_new (maxMessageBytes : Nat) : ({ maxMessageBytes } : State).Locked where
  tracks _ := FairLock.tracks_free (fun _ => rfl)
  calm _ _ some := by cases some

/-- The stations after one call moved. -/
theorem station_update (phases : Nat → Phase) (id : Nat) (phase : Phase) (side : Side)
    : (fun other => (Function.update phases id phase other).station side)
      = Function.update (fun other => (phases other).station side) id (phase.station side) := by
  funext other
  by_cases same : other = id
  · simp [same]
  · simp [same]

/-- What moving a call does to the locks keeps them in agreement with the phases. -/
theorem LockEffect.tracks {state : State} {id : Nat} {phase : Phase}
    {locks : Side → FairLock Nat} (effect : LockEffect state id phase locks)
    (tracks : ∀ side, (state.locks side).Tracks (fun id => (state.phase id).station side))
    (side : Side)
    : (locks side).Tracks
        (Function.update (fun other => (state.phase other).station side) id
          (phase.station side)) := by
  have unmoved (same : phase.station side = (state.phase id).station side)
      : (state.locks side).Tracks
          (Function.update (fun other => (state.phase other).station side) id
            (phase.station side)) := by
    rw [same, Function.update_eq_self]
    exact tracks side
  cases effect with
  | stays same => exact unmoved (same side)
  | @takes at_ lock free taken place =>
      by_cases same : side = at_
      · subst same
        rw [Function.update_self, station_of_place place]
        exact (tracks side).tryLock taken
      · rw [Function.update_of_ne same]
        exact unmoved ((station_of_place_ne place same).trans (free side).symm)
  | @joins at_ free place =>
      by_cases same : side = at_
      · subst same
        rw [Function.update_self, station_of_place place]
        exact (tracks side).join (free side)
      · rw [Function.update_of_ne same]
        exact unmoved ((station_of_place_ne place same).trans (free side).symm)
  | @enters at_ before has place =>
      by_cases same : side = at_
      · subst same
        rw [station_of_place place]
        exact (tracks side).enter has
      · exact unmoved
          ((station_of_place_ne place same).trans (station_of_place_ne before same).symm)
  | @leaves at_ station before free =>
      by_cases same : side = at_
      · subst same
        rw [Function.update_self, free side]
        exact (tracks side).leave
      · rw [Function.update_of_ne same]
        exact unmoved ((free side).trans (station_of_place_ne before same).symm)

/-- Each step keeps the invariant. -/
theorem Step.locked {state next : State} {event : Event} (step : Step state event next)
    (locked : state.Locked)
    : next.Locked := by
  obtain ⟨phase, effect⟩ := step.effect (locked.calm event.actor)
  refine ⟨fun side => ?_, fun id rest => ?_⟩
  · rw [effect.moves, station_update]
    exact effect.locks.tracks locked.tracks side
  · rw [effect.moves, Function.update_apply]
    split
    · exact effect.rest rest
    · exact locked.calm id rest

/-- A step moves no call but the one it is about. -/
theorem Step.others {state next : State} {event : Event} {other : Nat}
    (step : Step state event next) (locked : state.Locked) (different : other ≠ event.actor)
    : next.phase other = state.phase other := by
  obtain ⟨phase, effect⟩ := step.effect (locked.calm event.actor)
  rw [effect.moves, Function.update_of_ne different]

end Tlsurl.Core.WebSocket
