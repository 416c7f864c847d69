import Tlsurl.Core.StreamOwner

/-! What a close leaves of the body.
A close that does not get the lock relies on its holder, which looks at the token only up to
some point of its way.
-/

namespace Tlsurl.Core.Stream

open Library

variable {Body : Type}

-----------------------------------------------------------------------------------------
-- What is promised, and when it fails
-----------------------------------------------------------------------------------------

/-- A `close` call has returned. -/
def State.Closed (state : State Body) : Prop := ∃ id, state.closes id = .returned

/-- Once a `close` call has returned, the slot is empty whenever no `next_chunk` future has the
lock. A future has it from the moment it is handed over.
-/
def State.Released (state : State Body) : Prop :=
  state.Closed → (∀ id, state.lock.holder ≠ some (.read id)) → state.body = none

/-- Whether the holder of the lock is past its last look at the token and leaves the body in
the slot, or is a close that has yet to empty it.
-/
def State.leavesBody (state : State Body) : Bool :=
  match state.lock.holder with
  | none => false
  | some (.close id) => state.closes id = .clearing && state.body.isSome
  | some (.read id) =>
      match state.reads id with
      | .storing _ _ => true
      | .returning _ => state.body.isSome
      | _ => false

/-- A future was handed the lock, with the body in the slot, by nobody before it noticing that
a close has returned, and nobody waits behind it.
-/
def State.LastHope (state : State Body) (id : Nat) : Prop :=
  state.Closed ∧ state.body.isSome = true ∧ state.lock.order = [.read id]

/-- No close finds the lock in the hands of a task that leaves the body in the slot, and a
future that is to empty the slot is not dropped.
-/
def State.permits (state : State Body) : Event → Prop
  | .tryLock _ => state.leavesBody = false
  | .dropLocking id => ¬state.LastHope id
  | _ => True

-----------------------------------------------------------------------------------------
-- The invariant
-----------------------------------------------------------------------------------------

/-- Whether a read is about to look at the token, or to empty the slot. -/
def ReadPhase.early : ReadPhase Body → Bool
  | .locking => true
  | .locked => true
  | .clearing => true
  | .taking => true
  | _ => false

/-- Whether a read is about to put the body back. -/
def ReadPhase.stores : ReadPhase Body → Bool
  | .storing _ _ => true
  | _ => false

/-- No read puts the body back, and the slot is empty or the holder of the lock will empty it.
-/
structure State.Settled (state : State Body) : Prop where
  stores : ∀ id, (state.reads id).stores = false
  empties
    : state.body = none
      ∨ ∃ id, state.lock.holder = some (.read id) ∧ (state.reads id).early = true

/-- Settled, the slot is empty unless a read has the lock. -/
theorem State.Settled.released {state : State Body} (settled : state.Settled) : state.Released := by
  intro _ unread
  rcases settled.empties with empty | ⟨id, has, _⟩
  · exact empty
  · exact absurd has (unread id)

namespace State.Settled

variable {state : State Body}

/-- A read changes its phase but puts nothing back, and the slot is empty after it. -/
theorem emptied (settled : state.Settled) {id : Nat} {phase : ReadPhase Body}
    (body : Option Body) (lock : FairLock Task) (stores : phase.stores = false)
    (empty : body = none)
    : ({ state with body, lock }.setRead id phase).Settled where
  stores other := by
    by_cases same : other = id
    · simpa [State.setRead, same] using stores
    · simpa [State.setRead, same] using settled.stores other
  empties := .inl empty

/-- A read that is or comes early in its way changes its phase; another holder stays. -/
theorem advances (settled : state.Settled) {id : Nat} {phase : ReadPhase Body}
    (lock : FairLock Task) (early : phase.early = true)
    (same : ∀ task, state.lock.holder = some task → lock.holder = some task)
    : ({ state with lock }.setRead id phase).Settled where
  stores other := by
    by_cases same : other = id
    · cases phase <;> simp_all [State.setRead, ReadPhase.early, ReadPhase.stores]
    · simpa [State.setRead, same] using settled.stores other
  empties := by
    rcases settled.empties with empty | ⟨reader, has, before⟩
    · exact .inl empty
    · refine .inr ⟨reader, same _ has, ?_⟩
      by_cases self : reader = id
      · simpa [State.setRead, self] using early
      · simpa [State.setRead, self] using before

/-- The slot is empty unless the holder is a read early in its way. -/
theorem empty_of_holder (settled : state.Settled) {task : Task}
    (has : state.lock.holder = some task)
    (late : ∀ id, task = .read id → (state.reads id).early = false)
    : state.body = none := by
  rcases settled.empties with empty | ⟨id, holds, early⟩
  · exact empty
  · cases has.symm.trans holds
    rw [late id rfl] at early
    cases early

/-- A read that is gone empties nothing; another holder of the lock will. -/
theorem gone (settled : state.Settled) {id : Nat} (lock : FairLock Task)
    (empties
      : state.body = none
        ∨ ∃ reader, reader ≠ id ∧ lock.holder = some (.read reader)
          ∧ (state.reads reader).early = true)
    : ({ state with lock }.setRead id .gone).Settled where
  stores other := by
    by_cases same : other = id
    · simp [State.setRead, same, ReadPhase.stores]
    · simpa [State.setRead, same] using settled.stores other
  empties := by
    rcases empties with empty | ⟨reader, different, has, early⟩
    · exact .inl empty
    · exact .inr ⟨reader, has, by simpa [State.setRead, different] using early⟩

/-- A waiter that is dropped hands the lock on, if it had it, to a read that waits. -/
theorem dropLocking (settled : state.Settled) (owned : state.Owned) {id : Nat}
    (closed : state.Closed) (kept : ¬state.LastHope id)
    : ((state.leave (.read id)).setRead id .gone).Settled := by
  refine settled.gone _ ?_
  rcases settled.empties with empty | ⟨reader, has, early⟩
  · exact .inl empty
  · by_cases self : reader = id
    · subst self
      cases next : (state.lock.leave (.read reader)).holder with
      | none =>
          have alone := FairLock.holder_leave_none has next
          cases slot : state.body with
          | none => exact .inl rfl
          | some stream => exact absurd ⟨closed, by simp [slot], alone⟩ kept
      | some task =>
          obtain ⟨different, waits⟩ := owned.tracks.next_waits has next
          cases task with
          | close other =>
              cases place : state.closes other <;>
                simp [State.station, place, ClosePhase.station] at waits
          | read other =>
              refine .inr ⟨other, fun same => different (by rw [same]), rfl, ?_⟩
              cases place : state.reads other <;>
                simp_all [State.station, ReadPhase.station, ReadPhase.early]
    · refine .inr ⟨reader, self, ?_, early⟩
      exact FairLock.holder_leave_ne (fun same => self (by cases same; rfl)) has

end State.Settled

/-- A read that puts the body back has the lock. -/
theorem leavesBody_of_stores {state : State Body} (owned : state.Owned) {id : Nat}
    (stores : (state.reads id).stores = true)
    : state.leavesBody = true := by
  cases place : state.reads id with
  | storing stream chunk =>
      have has : state.lock.holder = some (.read id) :=
        owned.tracks.holds (.read id) (by simp [State.station, place, ReadPhase.station])
      simp [State.leavesBody, has, place]
  | _ => simp [place, ReadPhase.stores] at stores

/-- A close that finds the lock in other hands leaves the response settled. -/
theorem settled_of_refused {state : State Body} {id : Nat} (owned : state.Owned)
    (refused : state.lock.tryLock (.close id) = none) (permitted : state.leavesBody = false)
    : state.Settled := by
  refine ⟨fun other => ?_, ?_⟩
  · by_contra stores
    rw [leavesBody_of_stores owned (by simpa using stores)] at permitted
    cases permitted
  · obtain ⟨task, has⟩ := FairLock.tryLock_none refused
    have present := owned.tracks.holder_present has
    cases task with
    | close other =>
        cases place : state.closes other with
        | clearing => exact .inl (by simpa [State.leavesBody, has, place] using permitted)
        | unlocking => exact .inl (owned.cleared other place)
        | _ => simp [State.station, place, ClosePhase.station] at present
    | read other =>
        by_cases owns : (state.reads other).owns = true
        · exact .inl (owned.owner other owns)
        · by_cases early : (state.reads other).early = true
          · exact .inr ⟨other, has, early⟩
          · cases place : state.reads other with
            | returning result =>
                exact .inl (by simpa [State.leavesBody, has, place] using permitted)
            | _ => simp_all [State.station, ReadPhase.station, ReadPhase.owns, ReadPhase.early]

-----------------------------------------------------------------------------------------
-- Steps and runs
-----------------------------------------------------------------------------------------

/-- Once a close has returned, each step that is permitted leaves the response settled. -/
theorem Step.settled {poll : Body → Polled → Body → Prop} {state next : State Body}
    {event : Event} (step : Step poll state event next) (owned : state.Owned)
    (closed : state.Closed) (permitted : state.permits event) (settled : state.Settled)
    : next.Settled := by
  have token : state.cancellation = true := by
    obtain ⟨id, returned⟩ := closed
    exact owned.asked id (by simp [returned])
  have owning {id : Nat} {before : ReadPhase Body} (here : state.reads id = before)
      (owns : before.owns = true) : state.body = none :=
    owned.owner id (by rw [here, owns])
  cases event with
  | beginLock id =>
      obtain ⟨here, rfl⟩ := step
      unfold State.beginLock
      split
      · next lock taken =>
          refine settled.advances _ rfl (fun task has => ?_)
          simp [FairLock.holder, (FairLock.tryLock_some taken).1] at has
      · refine settled.advances _ rfl (fun task has => ?_)
        have absent : Task.read id ∉ state.lock.order := fun present =>
          (owned.tracks.member _).mp present (by simp [State.station, here, ReadPhase.station])
        rw [FairLock.holder_join absent, has]
        simp [FairLock.isFree_iff, has]
  | locked id =>
      obtain ⟨_, has, rfl⟩ := step
      exact settled.advances state.lock rfl (fun _ same => same)
  | checkToken id =>
      obtain ⟨here, rfl⟩ := step
      rw [State.checkToken, token, if_pos rfl]
      exact settled.advances state.lock rfl (fun _ same => same)
  | clearRead id =>
      obtain ⟨here, rfl⟩ := step
      exact settled.emptied _ state.lock rfl rfl
  | take id =>
      obtain ⟨here, rfl⟩ := step
      unfold State.take
      split
      · next empty => exact settled.emptied state.body state.lock rfl empty
      · exact settled.emptied _ state.lock rfl rfl
  | wake id =>
      obtain ⟨stream, here, rfl⟩ := step
      exact settled.emptied state.body state.lock rfl (owning here rfl)
  | select id =>
      obtain ⟨stream, here, rfl⟩ := step
      rw [State.select, token, if_pos rfl]
      exact settled.emptied state.body state.lock rfl (owning here rfl)
  | poll id answer =>
      obtain ⟨stream, after, here, _, rfl⟩ := step
      refine settled.emptied state.body state.lock ?_ (owning here rfl)
      split <;> rfl
  | recheck id =>
      obtain ⟨stream, result, here, rfl⟩ := step
      simp only [State.recheck, token, if_true]
      exact settled.emptied state.body state.lock rfl (owning here rfl)
  | store id =>
      obtain ⟨stream, chunk, here, rfl⟩ := step
      have never := settled.stores id
      simp [here, ReadPhase.stores] at never
  | ret id result =>
      obtain ⟨here, rfl⟩ := step
      have has : state.lock.holder = some (.read id) :=
        owned.tracks.holds (.read id) (by simp [State.station, here, ReadPhase.station])
      refine settled.gone _ (.inl (settled.empty_of_holder has (fun other same => ?_)))
      cases same
      simp [here, ReadPhase.early]
  | dropLocking id =>
      obtain ⟨here, rfl⟩ := step
      exact settled.dropLocking owned closed permitted
  | dropSuspended id =>
      obtain ⟨stream, here, rfl⟩ := step
      exact settled.gone _ (.inl (owning here rfl))
  | cancel id =>
      obtain ⟨here, rfl⟩ := step
      exact ⟨settled.stores, settled.empties⟩
  | tryLock id =>
      obtain ⟨here, rfl⟩ := step
      unfold State.tryLock
      split
      · next lock taken =>
          refine ⟨settled.stores, .inl ?_⟩
          rcases settled.empties with empty | ⟨reader, has, _⟩
          · exact empty
          · simp [FairLock.holder, (FairLock.tryLock_some taken).1] at has
      · exact ⟨settled.stores, settled.empties⟩
  | clear id =>
      obtain ⟨here, rfl⟩ := step
      exact ⟨settled.stores, .inl rfl⟩
  | unlock id =>
      obtain ⟨here, rfl⟩ := step
      exact ⟨settled.stores, .inl (owned.cleared id here)⟩

/-- A close returns because it does not get the lock, or when it gives the lock back. -/
theorem Step.returned_cases {poll : Body → Polled → Body → Prop} {state next : State Body}
    {event : Event} {other : Nat} (step : Step poll state event next)
    (returned : next.closes other = .returned)
    : state.closes other = .returned
      ∨ (event = .tryLock other ∧ state.lock.tryLock (.close other) = none
        ∧ next = state.setClose other .returned)
      ∨ (event = .unlock other ∧ state.closes other = .unlocking
        ∧ next = (state.leave (.close other)).setClose other .returned) := by
  have elsewhere {id : Nat} {phase : ClosePhase} (later : phase ≠ .returned)
      (changed : Function.update state.closes id phase other = .returned)
      : state.closes other = .returned := by
    rw [Function.update_apply] at changed
    split at changed
    · exact absurd changed later
    · exact changed
  cases event with
  | tryLock id =>
      obtain ⟨here, rfl⟩ := step
      unfold State.tryLock at returned ⊢
      split at returned
      · exact .inl (elsewhere (by simp) returned)
      · next refused =>
          by_cases same : other = id
          · subst same
            exact .inr (.inl ⟨rfl, refused, rfl⟩)
          · exact .inl (by simpa [State.setClose, same] using returned)
  | unlock id =>
      obtain ⟨here, rfl⟩ := step
      by_cases same : other = id
      · subst same
        exact .inr (.inr ⟨rfl, here, rfl⟩)
      · exact .inl (by simpa [State.setClose, State.leave, same] using returned)
  | cancel id =>
      obtain ⟨here, rfl⟩ := step
      exact .inl (elsewhere (by simp) returned)
  | clear id =>
      obtain ⟨here, rfl⟩ := step
      exact .inl (elsewhere (by simp) returned)
  | beginLock id =>
      obtain ⟨here, rfl⟩ := step
      unfold State.beginLock at returned
      split at returned <;> exact .inl returned
  | take id =>
      obtain ⟨here, rfl⟩ := step
      unfold State.take at returned
      split at returned <;> exact .inl returned
  | locked id =>
      obtain ⟨_, _, rfl⟩ := step
      exact .inl returned
  | checkToken id =>
      obtain ⟨_, rfl⟩ := step
      exact .inl returned
  | clearRead id =>
      obtain ⟨_, rfl⟩ := step
      exact .inl returned
  | wake id =>
      obtain ⟨_, _, rfl⟩ := step
      exact .inl returned
  | select id =>
      obtain ⟨_, _, rfl⟩ := step
      exact .inl returned
  | poll id answer =>
      obtain ⟨_, _, _, _, rfl⟩ := step
      exact .inl returned
  | recheck id =>
      obtain ⟨_, _, _, rfl⟩ := step
      exact .inl returned
  | store id =>
      obtain ⟨_, _, _, rfl⟩ := step
      exact .inl returned
  | ret id result =>
      obtain ⟨_, rfl⟩ := step
      exact .inl returned
  | dropLocking id =>
      obtain ⟨_, rfl⟩ := step
      exact .inl returned
  | dropSuspended id =>
      obtain ⟨_, _, rfl⟩ := step
      exact .inl returned

/-- A permitted step keeps a closed response settled, also the step that closes it. -/
theorem Step.keeps_settled {poll : Body → Polled → Body → Prop} {state next : State Body}
    {event : Event} (step : Step poll state event next) (owned : state.Owned)
    (permitted : state.permits event) (settled : state.Closed → state.Settled)
    (closed : next.Closed)
    : next.Settled := by
  obtain ⟨id, returned⟩ := closed
  rcases step.returned_cases returned with before | ⟨rfl, refused, rfl⟩ | ⟨rfl, here, rfl⟩
  · exact step.settled owned ⟨id, before⟩ permitted (settled ⟨id, before⟩)
  · have after := settled_of_refused owned refused permitted
    exact ⟨after.stores, after.empties⟩
  · have inside : state.station (.close id) = .inside := by
      simp [State.station, here, ClosePhase.station]
    refine ⟨fun other => ?_, .inl (owned.cleared id here)⟩
    cases place : state.reads other with
    | storing stream chunk =>
        have also : state.station (.read other) = .inside := by
          simp [State.station, place, ReadPhase.station]
        cases owned.tracks.exclusive inside also
    | _ => simp [State.setClose, State.leave, place, ReadPhase.stores]

/-- A close lets go of the body, in every run in which no close finds the lock with a task that
leaves the body in the slot and no future that is to empty the slot is dropped.
-/
theorem close_releases_body {poll : Body → Polled → Body → Prop} {body : Body}
    {events : List Event} {state : State Body}
    (run : Run (Guarded State.permits (Step poll)) (.new body) events state)
    : state.Released := by
  have settled : state.Closed → state.Settled := by
    apply run.invariant
    · intro past before event after earlier settled step closed
      have plain : Run (Step poll) (.new body) past before := earlier.mono (fun both => both.2)
      exact step.2.keeps_settled (owned_of_run plain) step.1 settled closed
    · intro closed
      obtain ⟨id, returned⟩ := closed
      cases returned
  intro closed
  exact (settled closed).released closed

-----------------------------------------------------------------------------------------
-- Samples
-----------------------------------------------------------------------------------------

/-- A close comes while the read is suspended, which then finds the token cancelled. -/
def interrupted : State Unit :=
  let closed := (({ aboutToPoll.polled 0 .pending () with cancellation := true }).setClose 0
    .cancelled).tryLock 0
  ((((closed.setRead 0 (.selecting ())).select 0 ()).recheck 0 () (.error cancelled)).leave
    (.read 0)).setRead 0 .gone

theorem interrupted_run
    : Run (Guarded State.permits (Step anyBody)) aboutToPoll
        [.poll 0 .pending, .cancel 0, .tryLock 0, .wake 0, .select 0, .recheck 0,
          .ret 0 (.error cancelled)]
        interrupted := by
  apply Run.cons
  · exact ⟨trivial, (), (), rfl, trivial, rfl⟩
  apply Run.cons
  · exact ⟨trivial, rfl, rfl⟩
  apply Run.cons
  · exact ⟨rfl, rfl, rfl⟩
  apply Run.cons
  · exact ⟨trivial, (), rfl, rfl⟩
  apply Run.cons
  · exact ⟨trivial, (), rfl, rfl⟩
  apply Run.cons
  · exact ⟨trivial, (), _, rfl, rfl⟩
  apply Run.cons
  · exact ⟨trivial, rfl, rfl⟩
  exact .nil

/-- It leaves no body behind. -/
theorem close_releases_body_interrupted
    : interrupted.Closed ∧ interrupted.lock.holder = none ∧ interrupted.body = none := by
  have before
      : Run (Guarded State.permits (Step anyBody)) (.new ())
          [.beginLock 0, .checkToken 0, .take 0, .select 0] aboutToPoll :=
    aboutToPoll_run.guarded (by simp [State.permits])
  exact ⟨⟨0, rfl⟩, rfl, close_releases_body (before.append interrupted_run) ⟨0, rfl⟩
    (fun id has => by cases has)⟩

/-- A close comes after the read has looked at the token for the last time. -/
def outlived : State Unit :=
  let read := (aboutToPoll.polled 0 (.chunk [1]) ()).recheck 0 () (.ok (some [1]))
  let closed := ({ read with cancellation := true }.setClose 0 .cancelled).tryLock 0
  ((closed.store 0 () [1]).leave (.read 0)).setRead 0 .gone

theorem outlived_run
    : Run (Step anyBody) aboutToPoll
        [.poll 0 (.chunk [1]), .recheck 0, .cancel 0, .tryLock 0, .store 0,
          .ret 0 (.ok (some [1]))]
        outlived := by
  apply Run.cons
  · exact ⟨(), (), rfl, trivial, rfl⟩
  apply Run.cons
  · exact ⟨(), _, rfl, rfl⟩
  apply Run.cons
  · exact ⟨rfl, rfl⟩
  apply Run.cons
  · exact ⟨rfl, rfl⟩
  apply Run.cons
  · exact ⟨(), [1], rfl, rfl⟩
  apply Run.cons
  · exact ⟨rfl, rfl⟩
  exact .nil

/-- The read then puts the body back, and no call is left that would empty the slot. -/
theorem body_outlives_close
    : ∃ (events : List Event) (state : State Unit), Run (Step anyBody) (.new ()) events state
        ∧ state.Closed ∧ (∀ id, state.lock.holder ≠ some (.read id))
        ∧ state.body = some () := by
  refine ⟨_, outlived, aboutToPoll_run.append outlived_run, ⟨0, rfl⟩,
    ?_, rfl⟩
  intro id has
  cases has

end Tlsurl.Core.Stream
