import Tlsurl.Core.StreamOwner

/-! What the end of a streamed response means.
An empty slot has several causes; a caller is told the end of the body only for one of them.
-/

namespace Tlsurl.Core.Stream

open Library

variable {Body : Type}

-----------------------------------------------------------------------------------------
-- What is promised, and when it fails
-----------------------------------------------------------------------------------------

/-- The body has yielded its end, or a call has returned an error. -/
def Accountable (past : List Event) : Prop :=
  (∃ id, .poll id .done ∈ past) ∨ ∃ id error, .ret id (.error error) ∈ past

/-- No call reports the end of the body unless the body has yielded it, or an earlier call has
returned an error.
-/
def Untruncated (events : List Event) : Prop :=
  ∀ front back id, events = front ++ .ret id (.ok none) :: back → Accountable front

/-- A pending read is dropped only once the token is cancelled. -/
def State.keepsReads (state : State Body) : Event → Prop
  | .dropSuspended _ => state.cancellation = true
  | _ => True

-----------------------------------------------------------------------------------------
-- Histories
-----------------------------------------------------------------------------------------

theorem Accountable.append {past : List Event} (accountable : Accountable past) (event : Event)
    : Accountable (past ++ [event]) := by
  rcases accountable with ⟨id, ended⟩ | ⟨id, error, failed⟩
  · exact .inl ⟨id, List.mem_append_left _ ended⟩
  · exact .inr ⟨id, error, List.mem_append_left _ failed⟩

/-- Another event is harmless unless it reports the end without reason. -/
theorem Untruncated.append {past : List Event} (untruncated : Untruncated past) {event : Event}
    (reason : ∀ id, event = .ret id (.ok none) → Accountable past)
    : Untruncated (past ++ [event]) := by
  intro front back id split
  rcases List.eq_nil_or_concat back with rfl | ⟨init, last, rfl⟩
  · obtain ⟨rfl, same⟩ := List.append_inj' split rfl
    exact reason id (by simpa using same)
  · have shorter : past ++ [event] = (front ++ .ret id (.ok none) :: init) ++ [last] := by
      simpa using split
    exact untruncated front init id (List.append_inj' shorter rfl).1

-----------------------------------------------------------------------------------------
-- The invariant
-----------------------------------------------------------------------------------------

/-- Whether a read owns the body or is about to return an error. -/
def ReadPhase.busy : ReadPhase Body → Bool
  | .returning (.error _) => true
  | phase => phase.owns

/-- Whether a read is not about to report the end of the body. -/
def ReadPhase.plain : ReadPhase Body → Bool
  | .taking => false
  | .checking _ (.ok none) => false
  | .returning (.ok none) => false
  | _ => true

/-- An empty slot is accounted for: by the history, by the token, or by a read past the lock. A
read that is to report the end of the body has reason to.
-/
structure Accounted (past : List Event) (state : State Body) : Prop where
  owned : state.Owned
  lost
    : state.body = none
      → Accountable past ∨ state.cancellation = true ∨ ∃ id, (state.reads id).busy = true
  taking : ∀ id, state.reads id = .taking → state.body = none → Accountable past
  ended
    : ∀ id stream, state.reads id = .checking stream (.ok none)
      → ∃ other, .poll other .done ∈ past
  returning : ∀ id, state.reads id = .returning (.ok none) → Accountable past

theorem accounted_new (body : Body) : Accounted [] (State.new body) where
  owned := State.owned_new body
  lost empty := by cases empty
  taking _ taking := by cases taking
  ended _ _ checking := by cases checking
  returning _ returning := by cases returning

theorem inside_of_busy {phase : ReadPhase Body} (busy : phase.busy = true)
    : phase.station = .inside := by
  unfold ReadPhase.busy at busy
  split at busy
  · rfl
  · exact inside_of_owns busy

namespace Accounted

variable {past : List Event} {state : State Body}

/-- A read changes its phase. -/
theorem setRead (accounted : Accounted past state) {event : Event} {id : Nat}
    {phase : ReadPhase Body} (body : Option Body) (lock : FairLock Task)
    (owned : ({ state with body, lock }.setRead id phase).Owned)
    (kept : (state.reads id).station = .inside ∨ body = state.body)
    (lost
      : body = none
        → Accountable (past ++ [event]) ∨ state.cancellation = true ∨ phase.busy = true
          ∨ ∃ other, other ≠ id ∧ (state.reads other).busy = true)
    (taking : phase = .taking → body = none → Accountable (past ++ [event]))
    (ended : ∀ stream, phase = .checking stream (.ok none) → event = .poll id .done)
    (returning : phase = .returning (.ok none) → Accountable (past ++ [event]))
    : Accounted (past ++ [event]) ({ state with body, lock }.setRead id phase) where
  owned := owned
  lost empty := by
    rcases lost empty with reason | token | busy | ⟨other, different, busy⟩
    · exact .inl reason
    · exact .inr (.inl token)
    · exact .inr (.inr ⟨id, by simpa [State.setRead] using busy⟩)
    · exact .inr (.inr ⟨other, by simpa [State.setRead, different] using busy⟩)
  taking other here empty := by
    by_cases same : other = id
    · exact taking (by simpa [State.setRead, same] using here) empty
    · have before : state.reads other = .taking := by simpa [State.setRead, same] using here
      rcases kept with inside | unchanged
      · have place : state.station (.read other) = .inside := by
          simp [State.station, before, ReadPhase.station]
        have one := accounted.owned.tracks.exclusive
          (show state.station (.read id) = .inside from inside) place
        cases one
        exact absurd rfl same
      · exact (accounted.taking other before (unchanged.symm.trans empty)).append event
  ended other stream here := by
    by_cases same : other = id
    · have now := ended stream (by simpa [State.setRead, same] using here)
      exact ⟨id, by simp [now]⟩
    · obtain ⟨reader, seen⟩ := accounted.ended other stream
        (by simpa [State.setRead, same] using here)
      exact ⟨reader, List.mem_append_left _ seen⟩
  returning other here := by
    by_cases same : other = id
    · exact returning (by simpa [State.setRead, same] using here)
    · exact (accounted.returning other (by simpa [State.setRead, same] using here)).append event

/-- A read changes its phase and is not about to report the end. -/
theorem setRead_plain (accounted : Accounted past state) {event : Event} {id : Nat}
    {phase : ReadPhase Body} (body : Option Body) (lock : FairLock Task)
    (plain : phase.plain = true) (owned : ({ state with body, lock }.setRead id phase).Owned)
    (kept : (state.reads id).station = .inside ∨ body = state.body)
    (lost
      : body = none
        → Accountable (past ++ [event]) ∨ state.cancellation = true ∨ phase.busy = true
          ∨ ∃ other, other ≠ id ∧ (state.reads other).busy = true)
    : Accounted (past ++ [event]) ({ state with body, lock }.setRead id phase) := by
  refine accounted.setRead _ _ owned kept lost ?_ ?_ ?_
  · rintro rfl
    cases plain
  · rintro stream rfl
    cases plain
  · rintro rfl
    cases plain

/-- What accounts for an empty slot still does when a read that does not moves on. -/
theorem lost_again (accounted : Accounted past state) (event : Event) {id : Nat}
    {phase : ReadPhase Body} (idle : (state.reads id).busy = false) (empty : state.body = none)
    : Accountable (past ++ [event]) ∨ state.cancellation = true ∨ phase.busy = true
      ∨ ∃ other, other ≠ id ∧ (state.reads other).busy = true := by
  rcases accounted.lost empty with reason | token | ⟨other, busy⟩
  · exact .inl (reason.append event)
  · exact .inr (.inl token)
  · refine .inr (.inr (.inr ⟨other, fun same => ?_, busy⟩))
    rw [same, idle] at busy
    cases busy

/-- A read that has just seen the token clear finds the body, or reason to report its end. -/
theorem taking_reason (accounted : Accounted past state) {id : Nat}
    (here : state.reads id = .locked) (clear : state.cancellation = false)
    (empty : state.body = none)
    : Accountable past := by
  rcases accounted.lost empty with reason | token | ⟨other, busy⟩
  · exact reason
  · rw [clear] at token
    cases token
  · have first : state.station (.read id) = .inside := by
      simp [State.station, here, ReadPhase.station]
    have one := accounted.owned.tracks.exclusive first
      (show state.station (.read other) = .inside from inside_of_busy busy)
    cases one
    simp [here, ReadPhase.busy, ReadPhase.owns] at busy

/-- A close changes its phase, once the token is cancelled. -/
theorem setClose (accounted : Accounted past state) (event : Event) {id : Nat}
    {phase : ClosePhase} (body : Option Body) (lock : FairLock Task) {cancellation : Bool}
    (owned : ({ state with body, lock, cancellation }.setClose id phase).Owned)
    (token : cancellation = true)
    (kept : (state.closes id).station = .inside ∨ body = state.body)
    : Accounted (past ++ [event]) ({ state with body, lock, cancellation }.setClose id phase) where
  owned := owned
  lost _ := .inr (.inl token)
  taking other here empty := by
    have before : state.reads other = .taking := here
    rcases kept with inside | unchanged
    · have place : state.station (.read other) = .inside := by
        simp [State.station, before, ReadPhase.station]
      cases accounted.owned.tracks.exclusive
        (show state.station (.close id) = .inside from inside) place
    · exact (accounted.taking other before (unchanged.symm.trans empty)).append event
  ended other stream here := by
    obtain ⟨reader, seen⟩ := accounted.ended other stream here
    exact ⟨reader, List.mem_append_left _ seen⟩
  returning other here := (accounted.returning other here).append event

end Accounted

/-- A step that drops no pending read before the token is cancelled keeps every empty slot
accounted for.
-/
theorem Step.accounted {poll : Body → Polled → Body → Prop} {state next : State Body}
    {event : Event} {past : List Event} (step : Step poll state event next)
    (permitted : state.keepsReads event) (accounted : Accounted past state)
    : Accounted (past ++ [event]) next := by
  have owned := step.owned accounted.owned
  cases event with
  | beginLock id =>
      obtain ⟨here, rfl⟩ := step
      have idle : (state.reads id).busy = false := by rw [here]; rfl
      revert owned
      unfold State.beginLock
      split
      · intro owned
        exact accounted.setRead_plain _ _ rfl owned (.inr rfl) (accounted.lost_again _ idle)
      · intro owned
        exact accounted.setRead_plain _ _ rfl owned (.inr rfl) (accounted.lost_again _ idle)
  | locked id =>
      obtain ⟨here, _, rfl⟩ := step
      have idle : (state.reads id).busy = false := by rw [here]; rfl
      exact accounted.setRead_plain state.body state.lock rfl owned (.inr rfl)
        (accounted.lost_again _ idle)
  | checkToken id =>
      obtain ⟨here, rfl⟩ := step
      have idle : (state.reads id).busy = false := by rw [here]; rfl
      revert owned
      unfold State.checkToken
      split
      · intro owned
        exact accounted.setRead_plain state.body state.lock rfl owned
          (.inr rfl) (accounted.lost_again _ idle)
      · next clear =>
          intro owned
          refine accounted.setRead state.body state.lock owned (.inr rfl)
            (accounted.lost_again _ idle) (fun _ empty => ?_) (fun _ checking => by cases checking)
            (fun returning => by cases returning)
          exact (accounted.taking_reason here (by simpa using clear) empty).append _
  | clearRead id =>
      obtain ⟨here, rfl⟩ := step
      exact accounted.setRead_plain _ state.lock rfl owned (.inl (by rw [here]; rfl))
        (fun _ => .inr (.inl (accounted.owned.refusing id here)))
  | take id =>
      obtain ⟨here, rfl⟩ := step
      revert owned
      unfold State.take
      split
      · next empty =>
          intro owned
          have reason := (accounted.taking id here empty).append (.take id)
          exact accounted.setRead state.body state.lock owned (.inr rfl)
            (fun _ => .inl reason) (fun taking => by cases taking)
            (fun _ checking => by cases checking) (fun _ => reason)
      · intro owned
        exact accounted.setRead_plain _ state.lock rfl owned (.inl (by rw [here]; rfl))
          (fun _ => .inr (.inr (.inl rfl)))
  | wake id =>
      obtain ⟨stream, here, rfl⟩ := step
      exact accounted.setRead_plain state.body state.lock rfl owned (.inr rfl)
        (fun _ => .inr (.inr (.inl rfl)))
  | select id =>
      obtain ⟨stream, here, rfl⟩ := step
      revert owned
      unfold State.select
      split
      · intro owned
        exact accounted.setRead_plain state.body state.lock rfl owned
          (.inr rfl) (fun _ => .inr (.inr (.inl rfl)))
      · intro owned
        exact accounted.setRead_plain state.body state.lock rfl owned
          (.inr rfl) (fun _ => .inr (.inr (.inl rfl)))
  | poll id answer =>
      obtain ⟨stream, after, here, _, rfl⟩ := step
      refine accounted.setRead state.body state.lock owned (.inr rfl)
        (fun _ => .inr (.inr (.inl ?_))) ?_ ?_ ?_
      · cases answer <;> rfl
      · cases answer <;> simp [Polled.result]
      · cases answer <;> simp [Polled.result]
      · cases answer <;> simp [Polled.result]
  | recheck id =>
      obtain ⟨stream, result, here, rfl⟩ := step
      revert owned
      unfold State.recheck
      split
      · next token =>
          intro owned
          exact accounted.setRead_plain state.body state.lock rfl owned
            (.inr rfl) (fun _ => .inr (.inl token))
      · intro owned
        cases result with
        | error error =>
            exact accounted.setRead_plain state.body state.lock rfl owned
              (.inr rfl) (fun _ => .inr (.inr (.inl rfl)))
        | ok chunk =>
            cases chunk with
            | some chunk =>
                exact accounted.setRead_plain state.body state.lock rfl owned
                  (.inr rfl) (fun _ => .inr (.inr (.inl rfl)))
            | none =>
                have reason : Accountable (past ++ [.recheck id]) :=
                  Accountable.append (.inl (accounted.ended id stream here)) _
                exact accounted.setRead state.body state.lock owned (.inr rfl)
                  (fun _ => .inl reason) (fun taking => by cases taking)
                  (fun _ checking => by cases checking) (fun _ => reason)
  | store id =>
      obtain ⟨stream, chunk, here, rfl⟩ := step
      exact accounted.setRead_plain _ state.lock rfl owned (.inl (by rw [here]; rfl))
        (fun empty => by cases empty)
  | ret id result =>
      obtain ⟨here, rfl⟩ := step
      refine accounted.setRead_plain state.body _ rfl owned (.inr rfl) (fun empty => ?_)
      rcases accounted.lost empty with reason | token | ⟨other, busy⟩
      · exact .inl (reason.append _)
      · exact .inr (.inl token)
      · by_cases same : other = id
        · subst same
          cases result with
          | error error => exact .inl (.inr ⟨other, error, by simp⟩)
          | ok chunk => simp [here, ReadPhase.busy, ReadPhase.owns] at busy
        · exact .inr (.inr (.inr ⟨other, same, busy⟩))
  | dropLocking id =>
      obtain ⟨here, rfl⟩ := step
      have idle : (state.reads id).busy = false := by rw [here]; rfl
      exact accounted.setRead_plain state.body _ rfl owned (.inr rfl)
        (accounted.lost_again _ idle)
  | dropSuspended id =>
      obtain ⟨stream, here, rfl⟩ := step
      exact accounted.setRead_plain state.body _ rfl owned (.inr rfl)
        (fun _ => .inr (.inl permitted))
  | cancel id =>
      obtain ⟨here, rfl⟩ := step
      exact accounted.setClose _ state.body state.lock owned rfl (.inr rfl)
  | tryLock id =>
      obtain ⟨here, rfl⟩ := step
      have token : state.cancellation = true := accounted.owned.asked id (by simp [here])
      revert owned
      unfold State.tryLock
      split
      · intro owned
        exact accounted.setClose _ state.body _ owned token (.inr rfl)
      · intro owned
        exact accounted.setClose _ state.body state.lock owned token (.inr rfl)
  | clear id =>
      obtain ⟨here, rfl⟩ := step
      have token : state.cancellation = true := accounted.owned.asked id (by simp [here])
      exact accounted.setClose _ _ state.lock owned token (.inl (by rw [here]; rfl))
  | unlock id =>
      obtain ⟨here, rfl⟩ := step
      have token : state.cancellation = true := accounted.owned.asked id (by simp [here])
      exact accounted.setClose _ state.body _ owned token (.inr rfl)

/-- A read that returns the end of the body has reason to. -/
theorem Step.end_reason {poll : Body → Polled → Body → Prop} {state next : State Body} {id : Nat}
    {past : List Event} (step : Step poll state (.ret id (.ok none)) next)
    (accounted : Accounted past state)
    : Accountable past :=
  accounted.returning id step.1

/-- The end of the body is reported only after the body has ended or a call has failed, in every
run in which no pending read is dropped before the token is cancelled.
-/
theorem end_is_accountable {poll : Body → Polled → Body → Prop} {body : Body}
    {events : List Event} {state : State Body}
    (run : Run (Guarded State.keepsReads (Step poll)) (.new body) events state)
    : Untruncated events := by
  have both : Accounted events state ∧ Untruncated events := by
    apply run.history
    · intro past before event after known step
      refine ⟨step.2.accounted step.1 known.1, known.2.append ?_⟩
      rintro id rfl
      exact step.2.end_reason known.1
    · refine ⟨accounted_new body, ?_⟩
      intro front back id split
      simp at split
  exact both.2

-----------------------------------------------------------------------------------------
-- Samples
-----------------------------------------------------------------------------------------

/-- The body ends, and the read that has seen it says so. -/
def ended : State Unit :=
  (((aboutToPoll.polled 0 .done ()).recheck 0 () (.ok none)).leave (.read 0)).setRead 0 .gone

theorem ended_run
    : Run (Step anyBody) aboutToPoll [.poll 0 .done, .recheck 0, .ret 0 (.ok none)] ended :=
  .cons ⟨(), (), rfl, trivial, rfl⟩ (.cons ⟨(), _, rfl, rfl⟩ (.cons ⟨rfl, rfl⟩ .nil))

theorem end_is_accountable_done
    : Accountable
        [.beginLock 0, .checkToken 0, .take 0, .select 0, .poll 0 .done, .recheck 0] :=
  end_is_accountable ((aboutToPoll_run.append ended_run).guarded (by simp [State.keepsReads])) _
    [] 0 rfl

/-- A read is dropped while the body is not ready; the next one takes the empty slot for the end.
-/
def givenUp : State Unit :=
  let dropped := ((aboutToPoll.polled 0 .pending ()).leave (.read 0)).setRead 0 .gone
  ((((dropped.beginLock 1).checkToken 1).take 1).leave (.read 1)).setRead 1 .gone

def givenUpEvents : List Event :=
  [.beginLock 0, .checkToken 0, .take 0, .select 0, .poll 0 .pending, .dropSuspended 0,
    .beginLock 1, .checkToken 1, .take 1, .ret 1 (.ok none)]

theorem givenUp_run : Run (Step anyBody) aboutToPoll (givenUpEvents.drop 4) givenUp := by
  apply Run.cons
  · exact ⟨(), (), rfl, trivial, rfl⟩
  apply Run.cons
  · exact ⟨(), rfl, rfl⟩
  apply Run.cons
  · exact ⟨rfl, rfl⟩
  apply Run.cons
  · exact ⟨rfl, rfl⟩
  apply Run.cons
  · exact ⟨rfl, rfl⟩
  apply Run.cons
  · exact ⟨rfl, rfl⟩
  exact .nil

/-- The body has not ended and no call has failed, yet its end is reported. -/
theorem dropped_read_reports_end
    : Run (Step anyBody) (.new ()) givenUpEvents givenUp ∧ ¬Untruncated givenUpEvents := by
  refine ⟨aboutToPoll_run.append givenUp_run, ?_⟩
  intro untruncated
  rcases untruncated (givenUpEvents.take 9) [] 1 rfl with ⟨id, ended⟩ | ⟨id, error, failed⟩
  · simp [givenUpEvents] at ended
  · simp [givenUpEvents] at failed

end Tlsurl.Core.Stream
