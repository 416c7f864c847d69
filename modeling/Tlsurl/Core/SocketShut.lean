import Tlsurl.Core.SocketLocks

/-! What the result of a call tells of a WebSocket.
A socket that is closing or cancelled is shut: it stays so, and no call that begins then has
anything sent or received. A call that was told that the socket is closed has found it shut.
-/

namespace Tlsurl.Core.WebSocket

open Library

-----------------------------------------------------------------------------------------
-- Where a call is
-----------------------------------------------------------------------------------------

/-- No call that begins now gets to work. -/
def State.shut (state : State) : Bool := state.closing || state.cancellation

/-- What a half of the socket answers in this event. -/
def Event.answers : Event → Option Outcome
  | .feed _ failure => failure.map Except.error
  | .flush _ outcome => outcome.map (Except.map (fun _ => none))
  | .read _ outcome => outcome
  | _ => none

/-- The code `CLOSED` is the socket's own: no error of a half has it. -/
def Event.Honest (event : Event) : Prop :=
  ∀ error, event.answers = some (.error error) → error.code ≠ "CLOSED"

/-- Where a call is once it is made. -/
def Call.start : Call → Phase
  | .send kind data => .sending kind data
  | .recv => .receiving
  | .close frame =>
      if frame.valid then .closing frame
      else
        .returned (.error (invalid "invalid close code or reason longer than 123 UTF-8 bytes"))
  | .abort => .aborting .cancel (.ok none)

/-- A job is let go of: its guard is still to be dropped, or it has none. -/
def Phase.Lets (phase next : Phase) : Prop := phase = next ∨ ∃ side, phase = .checking side next

/-- Why a job is over. -/
inductive Reason (state : State) (event : Event) : Phase → Outcome → Prop
  | cancelled {job hold} (now : state.cancellation = true)
    : Reason state event (.polling job hold) (.error cancelled)
  | closing {job hold} (now : state.closing = true)
    : Reason state event (.looking job hold) (.error closed)
  | empty {job} (slot : state.full job.side = false)
    : Reason state event (.working job .got) (.error closed)
  | late {job hold} : Reason state event (.timing job hold) (.error timedOut)
  | answer {job hold outcome} (answers : event.answers = some outcome)
    : Reason state event (.working job hold) outcome

/-- Where a step may take its call from and to. -/
inductive Move (state : State) (event : Event) (next : State) : Phase → Phase → Prop
  | call {call} (made : event = .call event.actor call) : Move state event next .uncalled call.start
  | refuseSend {kind data error} (code : error.code = "CLOSED" ∨ error.code = "INVALID_REQUEST")
    : Move state event next (.sending kind data) (.returned (.error error))
  | startSend {kind data message}
    : Move state event next (.sending kind data) (.polling (.send message) .fresh)
  | refuseRecv (now : state.closing = true)
    : Move state event next .receiving (.returned (.error closed))
  | startRecv : Move state event next .receiving (.polling .next .fresh)
  | closeShut {before frame} (here : before = .closing frame ∨ before = .closingStill frame)
    (now : state.shut = true)
    : Move state event next before (.returned (.ok none))
  | closeStill {frame} (clear : state.closing = false)
    : Move state event next (.closing frame) (.closingStill frame)
  | closeGoes {frame} (clear : state.cancellation = false)
    : Move state event next (.closingStill frame) (.announcing frame)
  | announce {frame}
    : Move state event next (.announcing frame) (.polling (.handClose frame) .fresh)
  | look {job hold} (clear : state.cancellation = false) (looks : job.looks = true)
    : Move state event next (.polling job hold) (.looking job hold)
  | skip {job hold} (clear : state.cancellation = false) (plain : job.looks = false)
    : Move state event next (.polling job hold) (.working job hold)
  | pass {job hold} (clear : state.closing = false)
    : Move state event next (.looking job hold) (.working job hold)
  | goOn {before after job hold hold'}
    (was : before = .working job hold ∨ before = .timing job hold ∨ before = .suspended job hold)
    (is_ : after.run = some (job, hold'))
    : Move state event next before after
  | leave {before after job hold outcome} (was : before.run = some (job, hold))
    (reason : Reason state event before outcome) (lets : after.Lets (job.after outcome))
    : Move state event next before after
  | drop {after job hold} (dropped : event = .drop event.actor) (lets : after.Lets .dropped)
    : Move state event next (.suspended job hold) after
  | check {side rest} : Move state event next (.checking side rest) (.unlocking side rest)
  | mustEmpty {side rest} (now : state.cancellation = true)
    : Move state event next (.checking side rest) (.emptying side rest)
  | empty {side rest} : Move state event next (.emptying side rest) (.unlocking side rest)
  | unlock {side rest} (follows : rest.Follows)
    : Move state event next (.unlocking side rest) rest
  | finish {message}
    : Move state event next (.ending message) (.aborting .cancel (.ok (message.map Message.view)))
  | abort {step result after} (now : step = .cancel → next.cancellation = true)
    (further : after = .aborted result ∨ ∃ later, later ≠ .cancel ∧ after = .aborting later result)
    : Move state event next (.aborting step result) after

-----------------------------------------------------------------------------------------
-- Each step is such a move
-----------------------------------------------------------------------------------------

@[simp] theorem phase_setPhase (state : State) (id : Nat) (phase : Phase)
    : (state.setPhase id phase).phase id = phase := by
  simp [State.setPhase]

theorem phase_begin (state : State) (id : Nat) (call : Call)
    : (state.begin id call).phase id = call.start := by
  cases call with
  | close frame =>
      simp only [State.begin, Call.start]
      split <;> simp
  | _ => simp [State.begin, Call.start]

theorem lets_letGo (state : State) (id : Nat) (job : Job) (hold : Hold) (next : Phase)
    : ((state.letGo id job hold next).phase id).Lets next := by
  unfold State.letGo
  split
  · exact .inl (by simp)
  · exact .inl (by simp)
  · exact .inr ⟨job.side, by simp⟩

/-- What `send` refuses to send is closed or invalid. -/
theorem code_messageOf {maxMessageBytes : Nat} {kind : String} {data : Bytes} {error : Error}
    (refused : messageOf maxMessageBytes kind data = .error error)
    : error.code = "INVALID_REQUEST" := by
  unfold messageOf at refused
  repeat' split at refused
  all_goals cases refused
  all_goals rfl

section Moves

variable {state next : State} {event : Event}

/-- A half of the socket that answers ends the job, or is asked again later. -/
theorem move_answer {id : Nat} {job : Job} {hold : Hold} {outcome : Option Outcome}
    (answers : event.answers = outcome)
    : Move state event next (.working job hold)
        ((state.answer id job hold outcome).phase id) := by
  cases outcome with
  | none =>
      simp only [State.answer, phase_setPhase]
      exact .goOn (.inl rfl) rfl
  | some outcome => exact .leave rfl (.answer answers) (lets_letGo state id job hold _)

theorem move_abort {id : Nat} {step : AbortStep} {result : Result}
    : Move state event (state.abort id step result) (.aborting step result)
        ((state.abort id step result).phase id) := by
  cases step with
  | cancel => exact .abort (fun _ => rfl) (.inr ⟨.tryLock .tx, by simp, by simp [State.abort]⟩)
  | tryLock side =>
      refine .abort (fun same => by cases same) ?_
      simp only [State.abort]
      split
      · exact .inr ⟨.clear side, by simp, by simp⟩
      · cases side with
        | tx => exact .inr ⟨.tryLock .rx, by simp, by simp [State.afterSide]⟩
        | rx => exact .inl (by simp [State.afterSide])
  | clear side =>
      exact .abort (fun same => by cases same)
        (.inr ⟨.unlock side, by simp, by simp [State.abort]⟩)
  | unlock side =>
      refine .abort (fun same => by cases same) ?_
      cases side with
      | tx => exact .inr ⟨.tryLock .rx, by simp, by simp [State.abort, State.afterSide]⟩
      | rx => exact .inl (by simp [State.abort, State.afterSide])

/-- Each step moves its call in one of these ways. -/
theorem Step.move (step : Step state event next) (locked : state.Locked)
    : Move state event next (state.phase event.actor) (next.phase event.actor) := by
  cases event with
  | call id call =>
      obtain ⟨here, rfl⟩ := step
      simp only [Event.actor, here, phase_begin]
      exact .call rfl
  | look id =>
      rcases step with ⟨kind, data, here, rfl⟩ | ⟨here, rfl⟩ | ⟨frame, here, rfl⟩
      · simp only [Event.actor, here, State.lookSend, phase_setPhase]
        split
        · exact .refuseSend (.inl rfl)
        · split
          · exact .startSend
          · next refused => exact .refuseSend (.inr (code_messageOf refused))
      · simp only [Event.actor, here, State.lookRecv, phase_setPhase]
        split
        · next now => exact .refuseRecv now
        · exact .startRecv
      · simp only [Event.actor, here, State.lookClose, phase_setPhase]
        split
        · next now => exact .closeShut (.inl rfl) (by simp [State.shut, now])
        · next clear => exact .closeStill (by simpa using clear)
  | lookStill id =>
      obtain ⟨frame, here, rfl⟩ := step
      simp only [Event.actor, here, State.lookStill, phase_setPhase]
      split
      · next now => exact .closeShut (.inr rfl) (by simp [State.shut, now])
      · next clear => exact .closeGoes (by simpa using clear)
  | announce id =>
      obtain ⟨frame, here, rfl⟩ := step
      simp only [Event.actor, here, State.announce, phase_setPhase]
      exact .announce
  | lookCancelled id =>
      obtain ⟨job, hold, here, rfl⟩ := step
      simp only [Event.actor, here, State.lookCancelled]
      split
      · next now => exact .leave rfl (.cancelled now) (lets_letGo state id job hold _)
      · next clear =>
          simp only [phase_setPhase]
          split
          · next looks => exact .look (by simpa using clear) looks
          · next plain => exact .skip (by simpa using clear) (by simpa using plain)
  | lookClosing id =>
      obtain ⟨job, hold, here, rfl⟩ := step
      simp only [Event.actor, here, State.lookClosing]
      split
      · next now => exact .leave rfl (.closing now) (lets_letGo state id job hold _)
      · next clear =>
          simp only [phase_setPhase]
          exact .pass (by simpa using clear)
  | lock id =>
      obtain ⟨job, here, rfl⟩ := step
      simp only [Event.actor, here, State.lock]
      split
      · simp only [phase_setPhase]
        exact .goOn (.inl rfl) rfl
      · simp only [phase_setPhase]
        exact .goOn (.inl rfl) rfl
  | granted id =>
      obtain ⟨job, here, _, rfl⟩ := step
      simp only [Event.actor, here, phase_setPhase]
      exact .goOn (.inl rfl) rfl
  | blocked id =>
      obtain ⟨job, here, _, rfl⟩ := step
      simp only [Event.actor, here, phase_setPhase]
      exact .goOn (.inl rfl) rfl
  | openSlot id =>
      obtain ⟨job, here, rfl⟩ := step
      simp only [Event.actor, here, State.openSlot]
      split
      · simp only [phase_setPhase]
        exact .goOn (.inl rfl) rfl
      · next empty => exact .leave rfl (.empty (by simpa using empty)) (lets_letGo state id job _ _)
  | feed id failure =>
      obtain ⟨job, here, rfl⟩ := step
      simp only [Event.actor, here]
      exact move_answer rfl
  | hand id message =>
      obtain ⟨job, here, _, rfl⟩ := step
      simp only [Event.actor, here, phase_setPhase]
      exact .goOn (.inl rfl) rfl
  | flush id outcome =>
      obtain ⟨job, here, rfl⟩ := step
      simp only [Event.actor, here]
      exact move_answer rfl
  | read id outcome =>
      obtain ⟨job, here, rfl⟩ := step
      simp only [Event.actor, here, State.read]
      split
      · exact move_answer rfl
      · simp only [phase_setPhase]
        exact .goOn (.inl rfl) rfl
      · exact move_answer rfl
  | suspend id =>
      obtain ⟨job, hold, here, rfl⟩ := step
      simp only [Event.actor, here, phase_setPhase]
      exact .goOn (.inr (.inl rfl)) rfl
  | timeout id =>
      obtain ⟨job, hold, here, rfl⟩ := step
      simp only [Event.actor, here]
      exact .leave rfl .late (lets_letGo state id job hold _)
  | wake id =>
      obtain ⟨job, hold, here, rfl⟩ := step
      simp only [Event.actor, here, phase_setPhase]
      exact .goOn (.inr (.inr rfl)) rfl
  | drop id =>
      obtain ⟨job, hold, here, rfl⟩ := step
      simp only [Event.actor, here]
      exact .drop rfl (lets_letGo state id job hold _)
  | check id =>
      obtain ⟨side, rest, here, rfl⟩ := step
      simp only [Event.actor, here, State.check, phase_setPhase]
      split
      · next now => exact .mustEmpty now
      · exact .check
  | empty id =>
      obtain ⟨side, rest, here, rfl⟩ := step
      simp only [Event.actor, here, phase_setPhase]
      exact .empty
  | unlock id =>
      obtain ⟨side, rest, here, rfl⟩ := step
      simp only [Event.actor, here, phase_setPhase]
      exact .unlock (locked.calm id rest (by rw [here]; rfl))
  | finish id =>
      obtain ⟨message, here, rfl⟩ := step
      simp only [Event.actor, here, phase_setPhase]
      exact .finish
  | abort id =>
      obtain ⟨step, result, here, rfl⟩ := step
      simp only [Event.actor, here]
      exact move_abort

end Moves

-----------------------------------------------------------------------------------------
-- What the tokens and the slots tell
-----------------------------------------------------------------------------------------

/-- A call that has cancelled the token, or has found it cancelled and empties a slot -/
def Phase.sure : Phase → Bool
  | .aborting .cancel _ => false
  | .aborting _ _ => true
  | .aborted _ => true
  | .emptying _ _ => true
  | _ => false

/-- A job of `close` -/
def Job.closes : Job → Bool
  | .handClose _ => true
  | .awaitClose => true
  | _ => false

/-- A call that has set `closing` and will cancel the token -/
def Phase.owes : Phase → Bool
  | .polling job _ => job.closes
  | .looking job _ => job.closes
  | .working job _ => job.closes
  | .timing job _ => job.closes
  | .suspended job _ => job.closes
  | .checking _ rest => rest.owes
  | .emptying _ rest => rest.owes
  | .unlocking _ rest => rest.owes
  | .aborting .cancel _ => true
  | _ => false

/-- A slot is empty, and a call is past its cancellation, only once the token is cancelled; and
on a socket that closes, a call will still cancel it.
-/
structure State.Known (state : State) : Prop where
  locked : state.Locked
  empty : ∀ side, state.full side = false → state.cancellation = true
  sure : ∀ id, (state.phase id).sure = true → state.cancellation = true
  owed
    : state.closing = true
      → state.cancellation = true ∨ ∃ id, (state.phase id).owes = true

theorem State.known_new (maxMessageBytes : Nat) : ({ maxMessageBytes } : State).Known where
  locked := State.locked_new maxMessageBytes
  empty _ empty := by cases empty
  sure _ sure := by cases sure
  owed closing := by cases closing

/-- Events that may set `closing` or empty a slot. -/
def Event.marks : Event → Bool
  | .announce _ => true
  | .empty _ => true
  | .finish _ => true
  | .abort _ => true
  | _ => false

/-- Neither `closing` nor a slot changes. -/
def State.Alike (state next : State) : Prop :=
  next.closing = state.closing ∧ next.full = state.full

section Steps

variable {state next : State} {event : Event}

theorem alike_letGo (state : State) (id : Nat) (job : Job) (hold : Hold) (phase : Phase)
    : state.Alike (state.letGo id job hold phase) := by
  unfold State.letGo
  split <;> exact ⟨rfl, rfl⟩

theorem alike_answer (state : State) (id : Nat) (job : Job) (hold : Hold)
    (outcome : Option Outcome)
    : state.Alike (state.answer id job hold outcome) := by
  cases outcome with
  | none => exact ⟨rfl, rfl⟩
  | some outcome => exact alike_letGo state id job hold _

/-- Most steps change neither. -/
theorem Step.alike (step : Step state event next) (plain : event.marks = false)
    : state.Alike next := by
  cases event with
  | call id call =>
      obtain ⟨_, rfl⟩ := step
      cases call with
      | close frame =>
          simp only [State.begin]
          split <;> exact ⟨rfl, rfl⟩
      | _ => exact ⟨rfl, rfl⟩
  | look id =>
      rcases step with ⟨_, _, _, rfl⟩ | ⟨_, rfl⟩ | ⟨_, _, rfl⟩
      · exact ⟨rfl, rfl⟩
      · exact ⟨rfl, rfl⟩
      · exact ⟨rfl, rfl⟩
  | lookStill id =>
      obtain ⟨_, _, rfl⟩ := step
      exact ⟨rfl, rfl⟩
  | lookCancelled id =>
      obtain ⟨job, hold, _, rfl⟩ := step
      unfold State.lookCancelled
      split
      · exact alike_letGo state id job hold _
      · exact ⟨rfl, rfl⟩
  | lookClosing id =>
      obtain ⟨job, hold, _, rfl⟩ := step
      unfold State.lookClosing
      split
      · exact alike_letGo state id job hold _
      · exact ⟨rfl, rfl⟩
  | lock id =>
      obtain ⟨_, _, rfl⟩ := step
      unfold State.lock
      split <;> exact ⟨rfl, rfl⟩
  | granted id =>
      obtain ⟨_, _, _, rfl⟩ := step
      exact ⟨rfl, rfl⟩
  | blocked id =>
      obtain ⟨_, _, _, rfl⟩ := step
      exact ⟨rfl, rfl⟩
  | openSlot id =>
      obtain ⟨job, _, rfl⟩ := step
      unfold State.openSlot
      split
      · exact ⟨rfl, rfl⟩
      · exact alike_letGo state id job .got _
  | feed id failure =>
      obtain ⟨job, _, rfl⟩ := step
      exact alike_answer state id job .feeding _
  | hand id message =>
      obtain ⟨_, _, _, rfl⟩ := step
      exact ⟨rfl, rfl⟩
  | flush id outcome =>
      obtain ⟨job, _, rfl⟩ := step
      exact alike_answer state id job .flushing _
  | read id outcome =>
      obtain ⟨job, _, rfl⟩ := step
      unfold State.read
      split
      · exact alike_answer state id _ .reading _
      · exact ⟨rfl, rfl⟩
      · exact alike_answer state id _ .reading _
  | suspend id =>
      obtain ⟨_, _, _, rfl⟩ := step
      exact ⟨rfl, rfl⟩
  | timeout id =>
      obtain ⟨job, hold, _, rfl⟩ := step
      exact alike_letGo state id job hold _
  | wake id =>
      obtain ⟨_, _, _, rfl⟩ := step
      exact ⟨rfl, rfl⟩
  | drop id =>
      obtain ⟨job, hold, _, rfl⟩ := step
      exact alike_letGo state id job hold _
  | check id =>
      obtain ⟨_, _, _, rfl⟩ := step
      exact ⟨rfl, rfl⟩
  | unlock id =>
      obtain ⟨_, _, _, rfl⟩ := step
      exact ⟨rfl, rfl⟩
  | announce id => cases plain
  | empty id => cases plain
  | finish id => cases plain
  | abort id => cases plain

/-- A call that sets `closing` owes the cancellation of the token. -/
theorem Step.closing (step : Step state event next) (now : next.closing = true)
    : state.closing = true ∨ (next.phase event.actor).owes = true := by
  cases event with
  | announce id =>
      obtain ⟨frame, _, rfl⟩ := step
      exact .inr (by simp [Event.actor, State.announce, Phase.owes, Job.closes])
  | finish id =>
      obtain ⟨message, _, rfl⟩ := step
      exact .inr (by simp [Event.actor, Phase.owes])
  | empty id =>
      obtain ⟨side, rest, _, rfl⟩ := step
      exact .inl now
  | abort id =>
      obtain ⟨part, result, _, rfl⟩ := step
      left
      cases part with
      | tryLock side =>
          simp only [State.abort] at now
          split at now <;> exact now
      | _ => exact now
  | _ => exact .inl ((step.alike rfl).1 ▸ now)

/-- A slot is emptied by a call that is sure of the token. -/
theorem Step.emptied {side : Side} (step : Step state event next) (now : next.full side = false)
    : state.full side = false ∨ (state.phase event.actor).sure = true := by
  cases event with
  | announce id =>
      obtain ⟨frame, _, rfl⟩ := step
      exact .inl now
  | finish id =>
      obtain ⟨message, _, rfl⟩ := step
      exact .inl now
  | empty id =>
      obtain ⟨side, rest, here, _⟩ := step
      exact .inr (by simp [Event.actor, here, Phase.sure])
  | abort id =>
      obtain ⟨part, result, here, rfl⟩ := step
      cases part with
      | cancel => exact .inl now
      | _ => exact .inr (by simp [Event.actor, here, Phase.sure])
  | _ => exact .inl ((step.alike rfl).2 ▸ now)

-----------------------------------------------------------------------------------------
-- The invariant
-----------------------------------------------------------------------------------------

/-- What follows a job, and the drop of its guard, is not sure of the token. -/
theorem Phase.Follows.unsure {phase : Phase} (follows : phase.Follows) : phase.sure = false := by
  apply follows.rule
  · exact fun _ => rfl
  · exact fun _ => rfl
  · exact fun _ => rfl
  · rfl
  · exact fun _ => rfl
  · rfl

theorem unsure_lets {phase rest : Phase} (lets : phase.Lets rest) (follows : rest.Follows)
    : phase.sure = false := by
  rcases lets with rfl | ⟨side, rfl⟩
  · exact follows.unsure
  · rfl

theorem unsure_run {phase : Phase} {job : Job} {hold : Hold} (run : phase.run = some (job, hold))
    : phase.sure = false := by
  cases phase <;> first | rfl | cases run

theorem unsure_start (call : Call) : call.start.sure = false := by
  cases call with
  | close frame =>
      simp only [Call.start]
      split <;> rfl
  | _ => rfl

/-- A call becomes sure of the token by finding it cancelled, or by cancelling it. -/
theorem Move.sure {before after : Phase} (move : Move state event next before after)
    (now : after.sure = true)
    : state.cancellation = true ∨ next.cancellation = true ∨ before.sure = true := by
  cases move with
  | call made => rw [unsure_start] at now; cases now
  | goOn was is_ => rw [unsure_run is_] at now; cases now
  | leave was reason lets => rw [unsure_lets lets (follows_after _ _)] at now; cases now
  | drop dropped lets => rw [unsure_lets lets (.inr rfl)] at now; cases now
  | unlock follows => rw [follows.unsure] at now; cases now
  | mustEmpty token => exact .inl token
  | @abort part result after token further =>
      cases part with
      | cancel => exact .inr (.inl (token rfl))
      | _ => exact .inr (.inr rfl)
  | _ => cases now

/-- A call that a step lets go of a job owes what follows it. -/
theorem owes_lets {phase rest : Phase} (lets : phase.Lets rest) (owes : rest.owes = true)
    : phase.owes = true := by
  rcases lets with rfl | ⟨side, rfl⟩
  · exact owes
  · exact owes

theorem owes_run {phase : Phase} {job : Job} {hold : Hold} (run : phase.run = some (job, hold))
    : phase.owes = job.closes := by
  cases phase <;> first | cases run; rfl | cases run

theorem owes_after {job : Job} (closes : job.closes = true) (outcome : Outcome)
    : (job.after outcome).owes = true := by
  cases job with
  | handClose frame => cases outcome <;> rfl
  | awaitClose => cases outcome <;> rfl
  | _ => cases closes

/-- A call that owes the cancellation, and is not dropped, goes on to it. -/
theorem Move.owes {before after : Phase} (move : Move state event next before after)
    (undropped : ∀ id, event ≠ .drop id) (was : before.owes = true)
    : after.owes = true ∨ next.cancellation = true := by
  cases move with
  | goOn here is_ =>
      left
      rw [owes_run is_]
      rcases here with rfl | rfl | rfl <;> exact was
  | leave run reason lets =>
      rw [owes_run run] at was
      exact .inl (owes_lets lets (owes_after was _))
  | drop dropped lets => exact absurd dropped (undropped _)
  | closeShut here now => rcases here with rfl | rfl <;> cases was
  | @abort part result after token further =>
      cases part with
      | cancel => exact .inr (token rfl)
      | _ => cases was
  | look clear looks => exact .inl was
  | skip clear plain => exact .inl was
  | pass clear => exact .inl was
  | check => exact .inl was
  | mustEmpty now => exact .inl was
  | empty => exact .inl was
  | unlock follows => exact .inl was
  | _ => cases was

/-- Each step keeps the invariant, unless a call is dropped. -/
theorem Step.known (step : Step state event next) (undropped : ∀ id, event ≠ .drop id)
    (known : state.Known)
    : next.Known := by
  have move := step.move known.locked
  have unmoved {id : Nat} (different : id ≠ event.actor) := step.others known.locked different
  refine ⟨step.locked known.locked, fun side empty => ?_, fun id sure => ?_, fun now => ?_⟩
  · rcases step.emptied empty with was | sure
    · exact step.spent.cancellation (known.empty side was)
    · exact step.spent.cancellation (known.sure _ sure)
  · by_cases here : id = event.actor
    · rw [here] at sure
      rcases move.sure sure with token | token | was
      · exact step.spent.cancellation token
      · exact token
      · exact step.spent.cancellation (known.sure _ was)
    · rw [unmoved here] at sure
      exact step.spent.cancellation (known.sure id sure)
  · rcases step.closing now with was | owes
    · rcases known.owed was with token | ⟨id, owes⟩
      · exact .inl (step.spent.cancellation token)
      · by_cases here : id = event.actor
        · rw [here] at owes
          exact (move.owes undropped owes).symm.imp_right (fun still => ⟨_, still⟩)
        · exact .inr ⟨id, by rwa [unmoved here]⟩
    · exact .inr ⟨_, owes⟩

-----------------------------------------------------------------------------------------
-- What a result tells
-----------------------------------------------------------------------------------------

/-- Whether the result of a call says that the socket is over: anything that `recv` returns but a
message other than Close, and anything that `close` returns but the refusal of its arguments.
-/
def Call.concludes : Call → Result → Bool
  | .send _ _, _ => false
  | .recv, .ok none => true
  | .recv, .ok (some message) => message.kind == "close"
  | .recv, .error _ => true
  | .close _, .ok _ => true
  | .close _, .error error => error.code != "INVALID_REQUEST"
  | .abort, _ => true

/-- Whether a job is one of the call. -/
def Job.serves : Job → Call → Bool
  | .send _, .send _ _ => true
  | .next, .recv => true
  | .flush _, .recv => true
  | .handClose _, .close _ => true
  | .awaitClose, .close _ => true
  | _, _ => false

/-- A phase is one of the call, which returns that the socket is over only if it is shut. -/
def Phase.Fits (call : Call) (shut : Bool) : Phase → Prop
  | .uncalled => False
  | .sending _ _ => ∃ kind data, call = .send kind data
  | .receiving => call = .recv
  | .closing _ => ∃ frame, call = .close frame
  | .closingStill _ => ∃ frame, call = .close frame
  | .announcing _ => ∃ frame, call = .close frame
  | .polling job _ => job.serves call = true
  | .looking job _ => job.serves call = true
  | .working job _ => job.serves call = true
  | .timing job _ => job.serves call = true
  | .suspended job _ => job.serves call = true
  | .checking _ rest => rest.Fits call shut
  | .emptying _ rest => rest.Fits call shut
  | .unlocking _ rest => rest.Fits call shut
  | .ending _ => call = .recv
  | .returned result => call.concludes result = true → shut = true
  | _ => True

/-- The socket may be shut meanwhile. -/
theorem Phase.Fits.mono {call : Call} {shut later : Bool} {phase : Phase}
    (fits : phase.Fits call shut) (stays : shut = true → later = true)
    : phase.Fits call later := by
  induction phase with
  | checking side rest ih => exact ih fits
  | emptying side rest ih => exact ih fits
  | unlocking side rest ih => exact ih fits
  | returned result => exact fun concludes => stays (fits concludes)
  | _ => exact fits

theorem fits_start (call : Call) (shut : Bool) : call.start.Fits call shut := by
  cases call with
  | send kind data => exact ⟨kind, data, rfl⟩
  | recv => exact rfl
  | close frame =>
      simp only [Call.start]
      split
      · exact ⟨frame, rfl⟩
      · exact fun concludes => by cases concludes
  | abort => trivial

theorem fits_lets {call : Call} {shut : Bool} {phase rest : Phase} (lets : phase.Lets rest)
    (fits : rest.Fits call shut)
    : phase.Fits call shut := by
  rcases lets with rfl | ⟨side, rfl⟩
  · exact fits
  · exact fits

theorem fits_run {call : Call} {shut : Bool} {phase : Phase} {job : Job} {hold : Hold}
    (run : phase.run = some (job, hold))
    : phase.Fits call shut ↔ job.serves call = true := by
  cases phase <;> first | cases run; exact Iff.rfl | cases run

/-- A job that ends with the code `CLOSED` has found the socket shut. -/
theorem Reason.shut {before : Phase} {error : Error}
    (reason : Reason state event before (.error error)) (known : state.Known)
    (honest : event.Honest) (code : error.code = "CLOSED")
    : state.shut = true := by
  unfold State.shut
  cases reason with
  | cancelled now => exact absurd code (by decide)
  | closing now => simp [now]
  | empty slot => simp [known.empty _ slot]
  | late => exact absurd code (by decide)
  | answer answers => exact absurd code (honest error answers)

theorem fits_afterError {call : Call} {error : Error} {shut : Bool}
    (closed : error.code = "CLOSED" → shut = true)
    : (afterError error).Fits call shut := by
  unfold afterError
  split
  · trivial
  · next code => exact fun _ => closed (by simpa using code)

/-- What follows a job of a call is one of the call. -/
theorem fits_after {call : Call} {job : Job} {outcome : Outcome} {shut : Bool}
    (serves : job.serves call = true)
    (closed : ∀ error, outcome = .error error → error.code = "CLOSED" → shut = true)
    : (job.after outcome).Fits call shut := by
  cases job with
  | send message =>
      cases call with
      | send kind data =>
          cases outcome with
          | ok message => exact fun concludes => by cases concludes
          | error error => exact fits_afterError (closed error rfl)
      | _ => cases serves
  | next =>
      cases call with
      | recv =>
          cases outcome with
          | ok message =>
              cases message with
              | none => exact rfl
              | some message =>
                  cases message with
                  | ping data => exact rfl
                  | close frame => exact rfl
                  | _ => exact fun concludes => by cases concludes
          | error error => exact fits_afterError (closed error rfl)
      | _ => cases serves
  | flush message =>
      cases call with
      | recv =>
          cases outcome with
          | ok _ =>
              cases message with
              | close frame => exact rfl
              | _ => exact fun concludes => by cases concludes
          | error error => cases message <;> trivial
      | _ => cases serves
  | handClose frame =>
      cases outcome with
      | ok _ =>
          cases call with
          | close frame => exact rfl
          | _ => cases serves
      | error error => trivial
  | awaitClose => cases outcome <;> trivial

/-- A call goes on as one that it is. -/
theorem Move.fits {call : Call} {before after : Phase} (move : Move state event next before after)
    (known : state.Known) (honest : event.Honest) (stays : state.shut = true → next.shut = true)
    (fits : before.Fits call state.shut)
    : after.Fits call next.shut := by
  cases move with
  | call made => exact fits.elim
  | refuseSend code =>
      obtain ⟨kind, data, rfl⟩ := fits
      exact fun concludes => by cases concludes
  | startSend =>
      obtain ⟨kind, data, rfl⟩ := fits
      exact rfl
  | refuseRecv now => exact fun _ => stays (by simp [State.shut, now])
  | startRecv => cases fits; exact rfl
  | closeShut here now => exact fun _ => stays now
  | closeStill clear => exact fits
  | closeGoes clear => exact fits
  | announce =>
      obtain ⟨frame, rfl⟩ := fits
      exact rfl
  | look clear looks => exact fits
  | skip clear plain => exact fits
  | pass clear => exact fits
  | goOn here is_ =>
      rw [fits_run is_]
      rcases here with rfl | rfl | rfl <;> exact fits
  | leave run reason lets =>
      rw [fits_run run] at fits
      refine fits_lets lets (fits_after fits (fun error failed code => ?_))
      subst failed
      exact stays (reason.shut known honest code)
  | drop dropped lets => exact fits_lets lets trivial
  | check => exact Phase.Fits.mono fits stays
  | mustEmpty now => exact Phase.Fits.mono fits stays
  | empty => exact Phase.Fits.mono fits stays
  | unlock follows => exact Phase.Fits.mono fits stays
  | finish => trivial
  | abort now further =>
      rcases further with rfl | ⟨later, _, rfl⟩ <;> trivial

-----------------------------------------------------------------------------------------
-- Calls on a socket that is shut
-----------------------------------------------------------------------------------------

/-- An error of a call that was kept from its work -/
def Kept (error : Error) : Prop :=
  error.code = "CLOSED" ∨ error.code = "CANCELLED" ∨ error.code = "INVALID_REQUEST"

/-- What a call may return that was kept from its work -/
def Call.Barred (call : Call) : Result → Prop
  | .error error => Kept error
  | .ok message => message = none ∧ ∃ frame, call = .close frame

/-- A call that does not get to its work: it still has to find the socket shut, or it has. -/
def Phase.Refused (call : Call) (closing cancelled : Bool) : Phase → Prop
  | .sending _ _ => (closing || cancelled) = true
  | .receiving => (closing || cancelled) = true
  | .closing _ => (closing || cancelled) = true ∧ ∃ frame, call = .close frame
  | .closingStill _ => cancelled = true ∧ ∃ frame, call = .close frame
  | .polling job _ => job.looks = true ∧ (closing || cancelled) = true
  | .looking job _ => job.looks = true ∧ closing = true
  | .checking _ rest => rest.Refused call closing cancelled
  | .emptying _ rest => rest.Refused call closing cancelled
  | .unlocking _ rest => rest.Refused call closing cancelled
  | .returned result => call.Barred result
  | .aborting _ result => call.Barred result
  | .aborted result => call.Barred result
  | _ => False

section Refused

variable {call : Call} {closing cancelled closing' cancelled' : Bool}

/-- The socket may be shut further meanwhile. -/
theorem Phase.Refused.mono {phase : Phase} (refused : phase.Refused call closing cancelled)
    (closes : closing = true → closing' = true) (cancels : cancelled = true → cancelled' = true)
    : phase.Refused call closing' cancelled' := by
  have shuts (shut : (closing || cancelled) = true) : (closing' || cancelled') = true := by
    rw [Bool.or_eq_true] at shut ⊢
    exact shut.imp closes cancels
  induction phase with
  | sending kind data => exact shuts refused
  | receiving => exact shuts refused
  | closing frame => exact refused.imp_left shuts
  | closingStill frame => exact refused.imp_left cancels
  | polling job hold => exact refused.imp_right shuts
  | looking job hold => exact refused.imp_right closes
  | checking side rest ih => exact ih refused
  | emptying side rest ih => exact ih refused
  | unlocking side rest ih => exact ih refused
  | _ => exact refused

/-- A call that begins on a socket that is shut is refused. -/
theorem refused_start (other : call ≠ .abort) (shut : (closing || cancelled) = true)
    : call.start.Refused call closing cancelled := by
  cases call with
  | send kind data => exact shut
  | recv => exact shut
  | close frame =>
      simp only [Call.start]
      split
      · exact ⟨shut, frame, rfl⟩
      · exact .inr (.inr rfl)
  | abort => exact absurd rfl other

theorem refused_lets {phase rest : Phase} (lets : phase.Lets rest)
    (refused : rest.Refused call closing cancelled)
    : phase.Refused call closing cancelled := by
  rcases lets with rfl | ⟨side, rfl⟩
  · exact refused
  · exact refused

/-- A job under `operation` that was kept from its work ends the call. -/
theorem refused_after {job : Job} (looks : job.looks = true) {error : Error} (kept : Kept error)
    : (job.after (.error error)).Refused call closing cancelled := by
  have ends : (afterError error).Refused call closing cancelled := by
    unfold afterError
    split
    · exact kept
    · exact kept
  cases job with
  | send message => exact ends
  | next => exact ends
  | _ => cases looks

end Refused

/-- A call that was refused before a step is refused after it. -/
theorem Move.refused {call : Call} {before after : Phase}
    (move : Move state event next before after) (spent : state.Spent next)
    (refused : before.Refused call state.closing state.cancellation)
    : after.Refused call next.closing next.cancellation := by
  have stays (phase : Phase) (refused : phase.Refused call state.closing state.cancellation)
      : phase.Refused call next.closing next.cancellation :=
    refused.mono spent.closing spent.cancellation
  cases move with
  | call made => cases refused
  | refuseSend code => exact code.imp_right .inr
  | startSend => exact stays (.polling (.send _) .fresh) ⟨rfl, refused⟩
  | refuseRecv now => exact .inl rfl
  | startRecv => exact stays (.polling .next .fresh) ⟨rfl, refused⟩
  | closeShut here now =>
      rcases here with rfl | rfl
      · exact ⟨rfl, refused.2⟩
      · exact ⟨rfl, refused.2⟩
  | @closeStill frame clear =>
      -- `closing` was not set, so it is the token that shut the socket.
      refine stays (.closingStill frame) ⟨?_, refused.2⟩
      simpa [clear] using refused.1
  | closeGoes clear => rw [refused.1] at clear; cases clear
  | @look job hold clear looks =>
      -- The token was not cancelled, so it is `closing` that shut the socket.
      refine stays (.looking job hold) ⟨looks, ?_⟩
      simpa [clear] using refused.2
  | skip clear plain => rw [refused.1] at plain; cases plain
  | pass clear => rw [refused.2] at clear; cases clear
  | goOn here is_ => rcases here with rfl | rfl | rfl <;> cases refused
  | leave run reason lets =>
      cases reason with
      | cancelled now =>
          cases run
          exact refused_lets lets (refused_after refused.1 (.inr (.inl rfl)))
      | closing now =>
          cases run
          exact refused_lets lets (refused_after refused.1 (.inl rfl))
      | _ => cases refused
  | drop dropped lets => cases refused
  | @check side rest => exact stays (.unlocking side rest) refused
  | @mustEmpty side rest now => exact stays (.emptying side rest) refused
  | @empty side rest => exact stays (.unlocking side rest) refused
  | unlock follows => exact stays _ refused
  | abort now further => rcases further with rfl | ⟨later, _, rfl⟩ <;> exact refused
  | _ => cases refused

/-- Tokens stay cancelled. -/
theorem Step.shut (step : Step state event next) (shut : state.shut = true)
    : next.shut = true := by
  unfold State.shut at shut ⊢
  rw [Bool.or_eq_true] at shut ⊢
  exact shut.imp step.spent.closing step.spent.cancellation

/-- A call that is refused stays so. -/
theorem Step.refused {id : Nat} {call : Call} (step : Step state event next) (locked : state.Locked)
    (refused : (state.phase id).Refused call state.closing state.cancellation)
    : (next.phase id).Refused call next.closing next.cancellation := by
  by_cases here : id = event.actor
  · rw [here] at refused ⊢
    exact (step.move locked).refused step.spent refused
  · rw [step.others locked here]
    exact refused.mono step.spent.closing step.spent.cancellation

/-- A call keeps to what it is. -/
theorem Step.fits {id : Nat} {call : Call} (step : Step state event next) (known : state.Known)
    (honest : event.Honest) (fits : (state.phase id).Fits call state.shut)
    : (next.phase id).Fits call next.shut := by
  by_cases here : id = event.actor
  · rw [here] at fits ⊢
    exact (step.move known.locked).fits known honest step.shut fits
  · rw [step.others known.locked here]
    exact fits.mono step.shut

/-- A call that was not made begins with itself. -/
theorem Step.called (step : Step state event next) (locked : state.Locked)
    (here : state.phase event.actor = .uncalled)
    : ∃ call, event = .call event.actor call ∧ next.phase event.actor = call.start := by
  have move := step.move locked
  rw [here] at move
  generalize next.phase event.actor = after at move
  cases move with
  | @call call made => exact ⟨call, made, rfl⟩
  | closeShut was now => rcases was with was | was <;> cases was
  | goOn was is_ => rcases was with was | was | was <;> cases was
  | leave run reason lets => cases run

/-- A result that says that the socket is over tells the truth. -/
theorem State.Known.shut_of_concludes {id : Nat} {call : Call} {result : Result}
    (known : state.Known) (fits : (state.phase id).Fits call state.shut)
    (here : state.phase id = .returned result ∨ state.phase id = .aborted result)
    (concludes : call.concludes result = true)
    : state.shut = true := by
  rcases here with here | here
  · rw [here] at fits
    exact fits concludes
  · have token := known.sure id (by rw [here]; rfl)
    simp [State.shut, token]

end Steps

end Tlsurl.Core.WebSocket
