import Tlsurl.Core.SocketLocks

/-! What an abort leaves of a WebSocket.
An abort that does not get a lock relies on a guard to empty the slot, which looks at the token
once, before it gives the lock back.
-/

namespace Tlsurl.Core.WebSocket

open Library

-----------------------------------------------------------------------------------------
-- What is promised, and when it fails
-----------------------------------------------------------------------------------------

/-- Whether a `SocketGuard` of the call is alive. -/
def Phase.guards : Phase → Bool
  | .aborting _ _ => false
  | phase => phase.station .tx = .inside || phase.station .rx = .inside

/-- Whether a `SocketGuard` of the call on this half will still look at the token, or is about
to empty the slot.
-/
def Phase.protects (side : Side) : Phase → Bool
  | .aborting _ _ => false
  | .unlocking _ _ => false
  | phase => phase.station side = .inside

/-- An `abort` call has returned. -/
def State.Aborted (state : State) : Prop := ∃ id result, state.phase id = .aborted result

/-- Once an `abort` call has returned, both slots are empty whenever no guard is alive. -/
def State.Released (state : State) : Prop :=
  state.Aborted → (∀ id, (state.phase id).guards = false) → ∀ side, state.full side = false

/-- Whether an abort that now tries a lock can rely on its holder: the slot is empty, the lock
is free, or a guard will still look at the token.
-/
def State.reliable (state : State) (side : Side) : Bool :=
  !state.full side || (state.locks side).holder.all (fun id => (state.phase id).protects side)

/-- No abort finds a lock with a holder that will not empty the slot: a guard past its look at
the token, a waiter that was handed the lock and has not noticed, or another abort.
-/
def State.permits (state : State) : Event → Prop
  | .abort id =>
      ∀ side result, state.phase id = .aborting (.tryLock side) result
        → state.reliable side = true
  | _ => True

-----------------------------------------------------------------------------------------
-- How far an abort is
-----------------------------------------------------------------------------------------

/-- Whether a call has cancelled the token in `abort`. -/
def Phase.asked : Phase → Bool
  | .aborting .cancel _ => false
  | .aborting _ _ => true
  | .aborted _ => true
  | _ => false

/-- Whether a call is past a slot in `abort`. -/
def Phase.past (side : Side) : Phase → Bool
  | .aborting (.tryLock .rx) _ => side = .tx
  | .aborting (.clear .rx) _ => side = .tx
  | .aborting (.unlock .rx) _ => side = .tx
  | .aborted _ => true
  | _ => false

theorem asked_of_past {phase : Phase} {side : Side} (past : phase.past side = true)
    : phase.asked = true := by
  unfold Phase.past at past
  split at past <;> simp_all [Phase.asked]

/-- What follows a job has not cancelled the token yet. -/
theorem Phase.Follows.unasked {phase : Phase} (follows : phase.Follows)
    : phase.asked = false := by
  apply follows.rule
  · exact fun _ => rfl
  · exact fun _ => rfl
  · exact fun _ => rfl
  · rfl
  · exact fun _ => rfl
  · rfl

section Unasked

variable (state : State) (id : Nat)

theorem asked_letGo (job : Job) (hold : Hold) {next : Phase} (follows : next.Follows)
    : ((state.letGo id job hold next).phase id).asked = false := by
  unfold State.letGo
  split
  · simpa [State.setPhase] using follows.unasked
  · simpa [State.setPhase, State.leave, State.setLock] using follows.unasked
  · simp [State.setPhase, Phase.asked]

theorem asked_answer (job : Job) (hold : Hold) (outcome : Option Outcome)
    : ((state.answer id job hold outcome).phase id).asked = false := by
  unfold State.answer
  split
  · simp [State.setPhase, Phase.asked]
  · exact asked_letGo state id job hold (follows_after job _)

end Unasked

/-- Only a step of `abort` takes a call beyond the cancellation of the token. -/
theorem Step.unasked {state next : State} {event : Event} (step : Step state event next)
    (locked : state.Locked) (quiet : ∀ id, event ≠ .abort id)
    : (next.phase event.actor).asked = false := by
  cases event with
  | call id call =>
      obtain ⟨here, rfl⟩ := step
      cases call with
      | close frame =>
          simp only [State.begin, Event.actor]
          split <;> simp [State.setPhase, Phase.asked]
      | _ => simp [State.begin, Event.actor, State.setPhase, Phase.asked]
  | look id =>
      rcases step with ⟨kind, data, here, rfl⟩ | ⟨here, rfl⟩ | ⟨frame, here, rfl⟩
      · simp only [State.lookSend, Event.actor, State.setPhase, Function.update_self]
        repeat' split
        all_goals rfl
      · simp only [State.lookRecv, Event.actor, State.setPhase, Function.update_self]
        split <;> rfl
      · simp only [State.lookClose, Event.actor, State.setPhase, Function.update_self]
        split <;> rfl
  | lookStill id =>
      obtain ⟨frame, here, rfl⟩ := step
      simp only [State.lookStill, Event.actor, State.setPhase, Function.update_self]
      split <;> rfl
  | announce id =>
      obtain ⟨frame, here, rfl⟩ := step
      simp [State.announce, Event.actor, State.setPhase, Phase.asked]
  | lookCancelled id =>
      obtain ⟨job, hold, here, rfl⟩ := step
      unfold State.lookCancelled
      split
      · exact asked_letGo state id job hold (follows_after job _)
      · simp only [Event.actor, State.setPhase, Function.update_self]
        split <;> rfl
  | lookClosing id =>
      obtain ⟨job, hold, here, rfl⟩ := step
      unfold State.lookClosing
      split
      · exact asked_letGo state id job hold (follows_after job _)
      · simp [Event.actor, State.setPhase, Phase.asked]
  | lock id =>
      obtain ⟨job, here, rfl⟩ := step
      unfold State.lock
      split <;> simp [Event.actor, State.setPhase, Phase.asked]
  | granted id =>
      obtain ⟨job, here, has, rfl⟩ := step
      simp [Event.actor, State.setPhase, Phase.asked]
  | blocked id =>
      obtain ⟨job, here, _, rfl⟩ := step
      simp [Event.actor, State.setPhase, Phase.asked]
  | openSlot id =>
      obtain ⟨job, here, rfl⟩ := step
      unfold State.openSlot
      split
      · simp [Event.actor, State.setPhase, Phase.asked]
      · exact asked_letGo state id job .got (follows_after job _)
  | feed id failure =>
      obtain ⟨job, here, rfl⟩ := step
      exact asked_answer state id job .feeding _
  | hand id message =>
      obtain ⟨job, here, _, rfl⟩ := step
      simp [Event.actor, State.setPhase, Phase.asked]
  | flush id outcome =>
      obtain ⟨job, here, rfl⟩ := step
      exact asked_answer state id job .flushing _
  | read id outcome =>
      obtain ⟨job, here, rfl⟩ := step
      unfold State.read
      split
      · exact asked_answer state id _ .reading _
      · simp [Event.actor, State.setPhase, Phase.asked]
      · exact asked_answer state id _ .reading _
  | suspend id =>
      obtain ⟨job, hold, here, rfl⟩ := step
      simp [Event.actor, State.setPhase, Phase.asked]
  | timeout id =>
      obtain ⟨job, hold, here, rfl⟩ := step
      exact asked_letGo state id job hold (follows_after job _)
  | wake id =>
      obtain ⟨job, hold, here, rfl⟩ := step
      simp [Event.actor, State.setPhase, Phase.asked]
  | drop id =>
      obtain ⟨job, hold, here, rfl⟩ := step
      exact asked_letGo state id job hold (.inr rfl)
  | check id =>
      obtain ⟨side, after, here, rfl⟩ := step
      simp only [State.check, Event.actor, State.setPhase, Function.update_self]
      split <;> rfl
  | empty id =>
      obtain ⟨side, after, here, rfl⟩ := step
      simp [Event.actor, State.setPhase, Phase.asked]
  | unlock id =>
      obtain ⟨side, after, here, rfl⟩ := step
      have follows : after.Follows := locked.calm id after (by simp [here, Phase.rest])
      simpa [Event.actor, State.setPhase] using follows.unasked
  | finish id =>
      obtain ⟨message, here, rfl⟩ := step
      simp [Event.actor, State.setPhase, Phase.asked]
  | abort id => exact absurd rfl (quiet id)

-----------------------------------------------------------------------------------------
-- Guards
-----------------------------------------------------------------------------------------

/-- A guard that protects a half has its lock. -/
theorem station_of_protects {phase : Phase} {side : Side} (protects : phase.protects side = true)
    : phase.station side = .inside := by
  unfold Phase.protects at protects
  split at protects
  · cases protects
  · cases protects
  · simpa using protects

/-- A guard that protects a half is alive. -/
theorem guards_of_protects {phase : Phase} {side : Side} (protects : phase.protects side = true)
    : phase.guards = true := by
  have inside := station_of_protects protects
  cases phase with
  | aborting step result => cases protects
  | _ => cases side <;> simp_all [Phase.guards]

section Held

variable {side : Side} {job : Job} {hold : Hold}

/-- A job protects its half exactly when it has the lock. -/
theorem protects_run {phase : Phase} (run : phase.run = some (job, hold))
    : phase.protects side = true ↔ job.side = side ∧ hold.station = .inside := by
  have plain (phase : Phase) (place : phase.place = some (job.side, hold.station))
      : decide (phase.station side = .inside) = true
        ↔ job.side = side ∧ hold.station = .inside := by
    rw [decide_eq_true_iff]
    simp only [Phase.station, place]
    split
    · next same => simp [same]
    · next different => simp [different]
  cases phase with
  | polling job hold =>
      cases run
      exact plain _ rfl
  | looking job hold =>
      cases run
      exact plain _ rfl
  | working job hold =>
      cases run
      exact plain _ rfl
  | timing job hold =>
      cases run
      exact plain _ rfl
  | suspended job hold =>
      cases run
      exact plain _ rfl
  | _ => cases run

/-- The guard of a job that is over is about to look at the token. -/
theorem protects_letGo {state : State} {id : Nat} {next : Phase}
    (held : job.side = side ∧ hold.station = .inside)
    : ((state.letGo id job hold next).phase id).protects side = true := by
  simp [State.letGo, held.2, State.setPhase, Phase.protects, Phase.station, Phase.place, held.1]

theorem protects_setPhase {state : State} {id : Nat} {phase : Phase}
    (run : phase.run = some (job, hold)) (held : job.side = side ∧ hold.station = .inside)
    : ((state.setPhase id phase).phase id).protects side = true := by
  simpa [State.setPhase] using (protects_run run).mpr held

theorem protects_answer {state : State} {id : Nat} {outcome : Option Outcome}
    (held : job.side = side ∧ hold.station = .inside)
    : ((state.answer id job hold outcome).phase id).protects side = true := by
  unfold State.answer
  split
  · exact protects_setPhase rfl held
  · exact protects_letGo held

end Held

/-- Once the token is cancelled, a guard protects its half until it has emptied the slot. -/
theorem Step.protects {state next : State} {event : Event} {id : Nat} {side : Side}
    (step : Step state event next) (locked : state.Locked) (token : state.cancellation = true)
    (before : (state.phase id).protects side = true)
    : (next.phase id).protects side = true ∨ next.full side = false := by
  have held {job : Job} {hold : Hold} (run : (state.phase id).run = some (job, hold))
      : job.side = side ∧ hold.station = .inside :=
    (protects_run run).mp before
  have unheld (away : (state.phase id).place = none) : False := by
    have inside := station_of_protects before
    rw [free_of_place away side] at inside
    cases inside
  by_cases same : id = event.actor
  · subst same
    cases event with
    | lookCancelled id =>
        obtain ⟨job, hold, here, rfl⟩ := step
        left
        rw [State.lookCancelled, if_pos token]
        exact protects_letGo (held (congrArg Phase.run here))
    | lookClosing id =>
        obtain ⟨job, hold, here, rfl⟩ := step
        have mine := held (congrArg Phase.run here)
        left
        unfold State.lookClosing
        split
        · exact protects_letGo mine
        · exact protects_setPhase rfl mine
    | openSlot id =>
        obtain ⟨job, here, rfl⟩ := step
        have mine := held (congrArg Phase.run here)
        left
        unfold State.openSlot
        split
        · refine protects_setPhase rfl ⟨mine.1, ?_⟩
          cases job <;> rfl
        · exact protects_letGo mine
    | feed id failure =>
        obtain ⟨job, here, rfl⟩ := step
        exact .inl (protects_answer (held (congrArg Phase.run here)))
    | hand id message =>
        obtain ⟨job, here, _, rfl⟩ := step
        have mine := held (congrArg Phase.run here)
        exact .inl (protects_setPhase rfl ⟨mine.1, rfl⟩)
    | flush id outcome =>
        obtain ⟨job, here, rfl⟩ := step
        exact .inl (protects_answer (held (congrArg Phase.run here)))
    | read id outcome =>
        obtain ⟨job, here, rfl⟩ := step
        have mine := held (congrArg Phase.run here)
        left
        unfold State.read
        split
        · exact protects_answer mine
        · exact protects_setPhase rfl mine
        · exact protects_answer mine
    | suspend id =>
        obtain ⟨job, hold, here, rfl⟩ := step
        exact .inl (protects_setPhase rfl (held (congrArg Phase.run here)))
    | timeout id =>
        obtain ⟨job, hold, here, rfl⟩ := step
        exact .inl (protects_letGo (held (congrArg Phase.run here)))
    | wake id =>
        obtain ⟨job, hold, here, rfl⟩ := step
        exact .inl (protects_setPhase rfl (held (congrArg Phase.run here)))
    | drop id =>
        obtain ⟨job, hold, here, rfl⟩ := step
        exact .inl (protects_letGo (held (congrArg Phase.run here)))
    | check id =>
        obtain ⟨at_, after, here, rfl⟩ := step
        have inside := station_of_protects before
        left
        rw [State.check, if_pos token]
        simpa [State.setPhase, Event.actor, Phase.protects, Phase.station, Phase.place, here]
          using inside
    | empty id =>
        obtain ⟨at_, after, here, rfl⟩ := step
        have inside : at_ = side := by
          simpa [Event.actor, Phase.station, Phase.place, here] using station_of_protects before
        right
        simp [State.clear, State.setPhase, inside]
    | lock id =>
        obtain ⟨job, here, rfl⟩ := step
        cases (held (congrArg Phase.run here)).2
    | granted id =>
        obtain ⟨job, here, _, rfl⟩ := step
        cases (held (congrArg Phase.run here)).2
    | blocked id =>
        obtain ⟨job, here, _, rfl⟩ := step
        cases (held (congrArg Phase.run here)).2
    | unlock id =>
        obtain ⟨at_, after, here, rfl⟩ := step
        simp [Event.actor, here, Phase.protects] at before
    | abort id =>
        obtain ⟨step, result, here, rfl⟩ := step
        simp [Event.actor, here, Phase.protects] at before
    | call id call => exact (unheld (congrArg Phase.place step.1)).elim
    | look id =>
        rcases step with ⟨_, _, here, _⟩ | ⟨here, _⟩ | ⟨_, here, _⟩
        · exact (unheld (congrArg Phase.place here)).elim
        · exact (unheld (congrArg Phase.place here)).elim
        · exact (unheld (congrArg Phase.place here)).elim
    | lookStill id =>
        obtain ⟨_, here, _⟩ := step
        exact (unheld (congrArg Phase.place here)).elim
    | announce id =>
        obtain ⟨_, here, _⟩ := step
        exact (unheld (congrArg Phase.place here)).elim
    | finish id =>
        obtain ⟨_, here, _⟩ := step
        exact (unheld (congrArg Phase.place here)).elim
  · left
    rw [step.others locked same]
    exact before

-----------------------------------------------------------------------------------------
-- The invariant
-----------------------------------------------------------------------------------------

/-- A slot is empty, or a guard will empty it. -/
def State.Settled (state : State) (side : Side) : Prop :=
  state.full side = false ∨ ∃ id, (state.phase id).protects side = true

/-- An abort has cancelled the token first, gives back a lock only with the slot empty, and
leaves behind a settled slot.
-/
structure State.Saved (state : State) : Prop where
  locked : state.Locked
  token : ∀ id, (state.phase id).asked = true → state.cancellation = true
  cleared
    : ∀ id side result, state.phase id = .aborting (.unlock side) result → state.full side = false
  settled : ∀ id side, (state.phase id).past side = true → state.Settled side

theorem State.saved_new (maxMessageBytes : Nat) : ({ maxMessageBytes } : State).Saved where
  locked := State.locked_new maxMessageBytes
  token _ asked := by cases asked
  cleared _ _ _ here := by cases here
  settled _ _ past := by cases past

/-- A settled slot stays settled. -/
theorem Step.settled {state next : State} {event : Event} {side : Side}
    (step : Step state event next) (locked : state.Locked) (token : state.cancellation = true)
    (settled : state.Settled side)
    : next.Settled side := by
  rcases settled with empty | ⟨id, protects⟩
  · exact .inl (step.spent.full side empty)
  · rcases step.protects locked token protects with still | empty
    · exact .inr ⟨id, still⟩
    · exact .inl empty

/-- An abort that is refused a lock, but may rely on its holder, finds a settled slot. -/
theorem State.Settled.of_refused {state : State} {id : Nat} {side : Side}
    (refused : (state.locks side).tryLock id = none) (reliable : state.reliable side = true)
    : state.Settled side := by
  obtain ⟨other, has⟩ := FairLock.tryLock_none refused
  rcases Bool.or_eq_true_iff.mp reliable with empty | protects
  · exact .inl (by simpa using empty)
  · exact .inr ⟨other, by simpa [has] using protects⟩

/-- After a slot, an abort is past that slot; it was past the other before, or is not yet. -/
theorem past_afterSide {side other : Side} {step : AbortStep} {result : Result}
    (here : step = .tryLock side ∨ step = .unlock side)
    (past : (State.afterSide side result).past other = true)
    : other = side ∨ (Phase.aborting step result).past other = true := by
  cases side with
  | tx =>
      left
      simpa [State.afterSide, Phase.past] using past
  | rx =>
      cases other with
      | rx => exact .inl rfl
      | tx =>
          right
          rcases here with rfl | rfl <;> rfl

/-- One step of an abort that is permitted leaves behind what the invariant promises. -/
theorem State.Saved.abort {state : State} (saved : state.Saved) {id : Nat} {step : AbortStep}
    {result : Result} (here : state.phase id = .aborting step result)
    (permitted : state.permits (.abort id))
    : (state.abort id step result).cancellation = true
      ∧ (∀ side later, (state.abort id step result).phase id = .aborting (.unlock side) later
        → (state.abort id step result).full side = false)
      ∧ ∀ side, ((state.abort id step result).phase id).past side = true
        → state.cancellation = true ∧ state.Settled side := by
  have before (asked : (Phase.aborting step result).asked = true) : state.cancellation = true :=
    saved.token id (by rw [here, asked])
  have old {side : Side} (past : (Phase.aborting step result).past side = true)
      : state.Settled side :=
    saved.settled id side (by rw [here, past])
  cases step with
  | cancel =>
      refine ⟨rfl, ?_, ?_⟩
      · intro side later unlocking
        simp [State.abort, State.setPhase] at unlocking
      · intro side past
        simp [State.abort, State.setPhase, Phase.past] at past
  | tryLock at_ =>
      have token := before rfl
      cases taken : (state.locks at_).tryLock id with
      | some lock =>
          simp only [State.abort, taken]
          refine ⟨token, ?_, ?_⟩
          · intro side later unlocking
            simp [State.setPhase] at unlocking
          · intro side past
            have same : (Phase.aborting (.tryLock at_) result).past side
                = (Phase.aborting (.clear at_) result).past side := by
              cases at_ <;> rfl
            exact ⟨token, old (by rw [same]; simpa [State.setPhase] using past)⟩
      | none =>
          simp only [State.abort, taken]
          refine ⟨token, ?_, ?_⟩
          · intro side later unlocking
            cases at_ <;> simp [State.setPhase, State.afterSide] at unlocking
          · intro side past
            refine ⟨token, ?_⟩
            rcases past_afterSide (.inl rfl) (by simpa [State.setPhase] using past) with
              rfl | earlier
            · exact .of_refused taken (permitted side result here)
            · exact old earlier
  | clear at_ =>
      have token := before rfl
      refine ⟨token, ?_, ?_⟩
      · intro side later unlocking
        have same : at_ = side := by
          simp only [State.abort, State.setPhase, Function.update_self] at unlocking
          cases unlocking
          rfl
        simp [State.abort, State.setPhase, State.clear, same]
      · intro side past
        have same : (Phase.aborting (.clear at_) result).past side
            = (Phase.aborting (.unlock at_) result).past side := by
          cases at_ <;> rfl
        exact ⟨token, old (by rw [same]; simpa [State.abort, State.setPhase] using past)⟩
  | unlock at_ =>
      have token := before rfl
      refine ⟨token, ?_, ?_⟩
      · intro side later unlocking
        cases at_ <;> simp [State.abort, State.setPhase, State.afterSide] at unlocking
      · intro side past
        refine ⟨token, ?_⟩
        rcases past_afterSide (.inr rfl) (by simpa [State.abort, State.setPhase] using past) with
          rfl | earlier
        · exact .inl (saved.cleared id side result here)
        · exact old earlier

/-- A step that takes no call beyond the cancellation of the token keeps the invariant. -/
theorem Step.saved_of_unasked {state next : State} {event : Event}
    (step : Step state event next) (saved : state.Saved)
    (unasked : (next.phase event.actor).asked = false)
    : next.Saved := by
  have unmoved (id : Nat) (asked : (next.phase id).asked = true)
      : next.phase id = state.phase id := by
    refine step.others saved.locked (fun same => ?_)
    rw [same, unasked] at asked
    cases asked
  refine ⟨step.locked saved.locked, fun id asked => ?_, fun id side result here => ?_,
    fun id side past => ?_⟩
  · exact step.spent.cancellation (saved.token id (by rw [← unmoved id asked, asked]))
  · have same := unmoved id (by rw [here]; rfl)
    exact step.spent.full side (saved.cleared id side result (by rw [← same, here]))
  · have same := unmoved id (asked_of_past past)
    have token := saved.token id (by rw [← same]; exact asked_of_past past)
    exact step.settled saved.locked token (saved.settled id side (by rw [← same, past]))

/-- A permitted step keeps the invariant. -/
theorem Step.saved {state next : State} {event : Event} (step : Step state event next)
    (permitted : state.permits event) (saved : state.Saved)
    : next.Saved := by
  by_cases quiet : ∀ id, event ≠ .abort id
  · exact step.saved_of_unasked saved (step.unasked saved.locked quiet)
  · obtain ⟨actor, rfl⟩ : ∃ id, event = .abort id := by simpa using quiet
    have moved := step
    obtain ⟨part, result, here, rfl⟩ := moved
    have after := saved.abort here permitted
    have unmoved {id : Nat} (different : id ≠ actor) := step.others saved.locked different
    refine ⟨step.locked saved.locked, fun id asked => ?_, fun id side later unlocking => ?_,
      fun id side past => ?_⟩
    · exact after.1
    · by_cases same : id = actor
      · subst same
        exact after.2.1 side later unlocking
      · rw [unmoved same] at unlocking
        exact step.spent.full side (saved.cleared id side later unlocking)
    · by_cases same : id = actor
      · subst same
        obtain ⟨token, settled⟩ := after.2.2 side past
        exact step.settled saved.locked token settled
      · rw [unmoved same] at past
        have token := saved.token id (asked_of_past past)
        exact step.settled saved.locked token (saved.settled id side past)

/-- An abort lets go of both halves, in every run in which no abort finds a lock with a holder
that will not empty the slot.
-/
theorem abort_releases_halves {maxMessageBytes : Nat} {events : List Event} {state : State}
    (run : Run (Guarded State.permits Step) { maxMessageBytes } events state)
    : state.Released := by
  have saved : state.Saved :=
    run.invariant (fun _ saved step => step.2.saved step.1 saved)
      (State.saved_new maxMessageBytes)
  rintro ⟨id, result, aborted⟩ unguarded side
  rcases saved.settled id side (by rw [aborted]; rfl) with empty | ⟨other, protects⟩
  · exact empty
  · have alive := guards_of_protects protects
    rw [unguarded other] at alive
    cases alive

-----------------------------------------------------------------------------------------
-- Samples
-----------------------------------------------------------------------------------------

/-- An abort that finds the sink locked. -/
def abortBeside (state : State) (id : Nat) : State :=
  let begun := (state.begin id .abort).abort id .cancel (.ok none)
  let tried := (begun.abort id (.tryLock .tx) (.ok none)).abort id (.tryLock .rx) (.ok none)
  (tried.abort id (.clear .rx) (.ok none)).abort id (.unlock .rx) (.ok none)

/-- The events of it. -/
def abortEvents (id : Nat) : List Event :=
  [.call id .abort, .abort id, .abort id, .abort id, .abort id, .abort id]

/-- An abort comes while the message is being flushed; the caller then drops the call. -/
def givenUp : State :=
  let pending := (handedOver.answer 0 sampleJob .flushing none).setPhase 0
    (.suspended sampleJob .flushing)
  let dropped := (abortBeside pending 1).letGo 0 sampleJob .flushing .dropped
  let checked := dropped.check 0 .tx .dropped
  ((((checked.clear .tx).setPhase 0 (.unlocking .tx .dropped))).leave .tx 0).setPhase 0 .dropped

theorem givenUp_run
    : Run (Guarded State.permits Step) handedOver
        ([.flush 0 none, .suspend 0] ++ abortEvents 1 ++ [.drop 0, .check 0, .empty 0, .unlock 0])
        givenUp := by
  apply Run.cons
  · exact ⟨trivial, _, rfl, rfl⟩
  apply Run.cons
  · exact ⟨trivial, _, _, rfl, rfl⟩
  apply Run.cons
  · exact ⟨trivial, rfl, rfl⟩
  apply Run.cons
  · exact ⟨fun _ _ here => (by cases here), _, _, rfl, rfl⟩
  apply Run.cons
  · exact ⟨fun _ _ here => (by cases here; rfl), _, _, rfl, rfl⟩
  apply Run.cons
  · exact ⟨fun _ _ here => (by cases here; rfl), _, _, rfl, rfl⟩
  apply Run.cons
  · exact ⟨fun _ _ here => (by cases here), _, _, rfl, rfl⟩
  apply Run.cons
  · exact ⟨fun _ _ here => (by cases here), _, _, rfl, rfl⟩
  apply Run.cons
  · exact ⟨trivial, _, _, rfl, rfl⟩
  apply Run.cons
  · exact ⟨trivial, _, _, rfl, rfl⟩
  apply Run.cons
  · exact ⟨trivial, _, _, rfl, rfl⟩
  apply Run.cons
  · exact ⟨trivial, _, _, rfl, rfl⟩
  exact .nil

/-- It leaves neither half behind. -/
theorem abort_releases_halves_givenUp
    : givenUp.Aborted ∧ ∀ side, givenUp.full side = false := by
  have before : Run (Guarded State.permits Step) { maxMessageBytes := 16 } handOver handedOver :=
    handedOver_run.guarded (by simp [handOver, State.permits])
  have aborted : givenUp.Aborted := ⟨1, .ok none, rfl⟩
  refine ⟨aborted, abort_releases_halves (before.append givenUp_run) aborted ?_⟩
  rintro (_ | _ | id)
  · rfl
  · rfl
  · rfl

/-- An abort comes between the look of a guard at the token and its giving the lock back. -/
def leftBehind : State :=
  let answered := handedOver.answer 0 sampleJob .flushing (some (.ok none))
  let checked := answered.check 0 .tx (.returned (.ok none))
  ((abortBeside checked 1).leave .tx 0).setPhase 0 (.returned (.ok none))

theorem leftBehind_run
    : Run Step handedOver
        ([.flush 0 (some (.ok ())), .check 0] ++ abortEvents 1 ++ [.unlock 0]) leftBehind := by
  apply Run.cons
  · exact ⟨_, rfl, rfl⟩
  apply Run.cons
  · exact ⟨_, _, rfl, rfl⟩
  apply Run.cons
  · exact ⟨rfl, rfl⟩
  apply Run.cons
  · exact ⟨_, _, rfl, rfl⟩
  apply Run.cons
  · exact ⟨_, _, rfl, rfl⟩
  apply Run.cons
  · exact ⟨_, _, rfl, rfl⟩
  apply Run.cons
  · exact ⟨_, _, rfl, rfl⟩
  apply Run.cons
  · exact ⟨_, _, rfl, rfl⟩
  apply Run.cons
  · exact ⟨_, _, rfl, rfl⟩
  exact .nil

/-- The sink is still in its slot, though no guard is alive. -/
theorem sink_outlives_abort
    : ∃ (events : List Event) (state : State), Run Step { maxMessageBytes := 16 } events state
        ∧ state.Aborted ∧ (∀ id, (state.phase id).guards = false) ∧ state.full .tx = true := by
  refine ⟨_, leftBehind, handedOver_run.append leftBehind_run, ⟨1, .ok none, rfl⟩, ?_, rfl⟩
  rintro (_ | _ | id)
  · rfl
  · rfl
  · rfl

end Tlsurl.Core.WebSocket
