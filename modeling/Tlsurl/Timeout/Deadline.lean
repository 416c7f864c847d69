import Tlsurl.Timeout.Service

/-! What the total timeout bounds.
The sleep of the response future ends a total timeout after the call, but the sleep of the body
starts anew with the response.
-/

namespace Tlsurl.Timeout

open Library

variable {E F : Type}

/-- What is seen of a poll later than a deadline is a timeout error. -/
def Timely (timedOut : E → Bool) (deadline : Time) (label : Event E F × Seen E F) : Prop :=
  deadline < label.1.now → ∃ cause, label.2 = .error cause ∧ cause.isTimeout timedOut = true

/-- A deadline bounds the whole exchange. -/
def Bounded (timedOut : E → Bool) (deadline : Time) (labels : List (Event E F × Seen E F))
    : Prop :=
  ∀ label ∈ labels, Timely timedOut deadline label

/-- Whether the service is not ready, or has timed out itself -/
def Answer.unready (timedOut : E → Bool) : Answer E → Bool
  | .pending => true
  | .response => false
  | .error cause => cause.isTimeout timedOut

/-- Past the deadline the service inside is not ready when the response future is polled, and a
sleep of the body is over, or the body inside has timed out itself, when the body is polled.
-/
def State.permits (timer : Timer) (timedOut : E → Bool) (deadline : Time) (state : State)
    (label : Event E F × Seen E F)
    : Prop :=
  match label.1 with
  | .pollResponse now answer => deadline < now → answer.unready timedOut = true
  | .pollFrame now answer =>
      deadline < now → ∀ body, state.stage = .streaming body
        → body.elapsed timer now = true ∨ answer.timesOut timedOut = true

/-- The response future sleeps until the deadline. -/
def State.Sleeps (deadline : Time) (state : State) : Prop :=
  ∀ future, state.stage = .responding future → future.totalTimeout = some { deadline }

/-- A request with a total timeout sleeps until that time after the call. -/
theorem sleeps_new {opts request : Option TimeoutOptions} {total : Time}
    (fetched : (fetchTimeoutOptions opts request).1 = some total) (start : Time)
    : (State.new opts request start).Sleeps (start + total) := by
  intro future same
  cases same
  simp [call, fetched]

variable {timer : Timer} {timedOut : E → Bool} {deadline : Time}

/-- The sleep of the response future stays what it is. -/
theorem Step.sleeps {state next : State} {label : Event E F × Seen E F}
    (step : Step timer state label next) (sleeps : state.Sleeps deadline)
    : next.Sleeps deadline := by
  obtain ⟨event, seen⟩ := label
  cases event with
  | pollResponse now answer =>
      obtain ⟨future, responding, _, polled⟩ := step
      unfold State.pollResponse at polled
      split at polled
      · cases polled
        intro same again
        cases again
        exact sleeps future responding
      · cases polled
        intro _ again
        cases again
      · cases polled
        intro _ again
        cases again
  | pollFrame now answer =>
      obtain ⟨body, _, _, polled⟩ := step
      cases polled
      intro _ again
      cases again

/-- Past its deadline the response future shows a timeout error exactly when the service is not
ready, or has timed out itself.
-/
theorem timely_pollResponse {future : ResponseFuture} {now : Time} {answer : Answer E}
    {seen : Seen E F} {next : State} (sleeps : future.totalTimeout = some { deadline })
    (polled : (seen, next) = State.pollResponse timer future now answer)
    : Timely timedOut deadline (.pollResponse now answer, seen)
      ↔ (deadline < now → answer.unready timedOut = true) := by
  refine imp_congr_right (fun (late : deadline < now) => ?_)
  have elapsed : Timeout.sleeps timer now future.totalTimeout = true := by
    simp [Timeout.sleeps, sleeps, timer.late late]
  cases answer with
  | pending =>
      simp only [State.pollResponse, ResponseFuture.poll, ResponseBodyTimeoutFuture.poll, elapsed,
        if_true] at polled
      cases polled
      exact iff_of_true ⟨_, rfl, rfl⟩ rfl
  | response =>
      cases polled
      simp [Answer.unready]
  | error cause =>
      cases polled
      simp [Answer.unready]

/-- A poll of the body shows a timeout error exactly when the poll yields one. -/
theorem Frame.seen_timesOut (polled : Frame E F)
    : (∃ cause, polled.seen = .error cause ∧ cause.isTimeout timedOut = true)
      ↔ polled.timesOut timedOut = true := by
  cases polled with
  | error cause => simp [Frame.seen, Frame.timesOut]
  | _ => simp [Frame.seen, Frame.timesOut]

/-- Past the deadline the body shows a timeout error exactly when one of its sleeps is over, or
the body inside has timed out itself.
-/
theorem timely_pollFrame {body : TimeoutBody Unit} {now : Time} {answer : Frame E F}
    {seen : Seen E F} {next : State}
    (polled : (seen, next) = State.pollFrame timer body now answer)
    : Timely timedOut deadline (.pollFrame now answer, seen)
      ↔ (deadline < now → body.elapsed timer now = true ∨ answer.timesOut timedOut = true) := by
  refine imp_congr_right (fun (_ : deadline < now) => ?_)
  have times := body.timesOut_pollFrame timer timedOut now (fun _ => (answer, ()))
  have shown : seen = (body.pollFrame timer now (fun _ => (answer, ()))).1.seen :=
    congrArg Prod.fst polled
  rw [shown, Frame.seen_timesOut, times, Bool.or_eq_true]

/-- A step shows what it should exactly when it is permitted. -/
theorem Step.timely_iff {state next : State} {label : Event E F × Seen E F}
    (step : Step timer state label next) (sleeps : state.Sleeps deadline)
    : Timely timedOut deadline label ↔ state.permits timer timedOut deadline label := by
  obtain ⟨event, seen⟩ := label
  cases event with
  | pollResponse now answer =>
      obtain ⟨future, responding, _, polled⟩ := step
      exact timely_pollResponse (sleeps future responding) polled
  | pollFrame now answer =>
      obtain ⟨body, streaming, _, polled⟩ := step
      rw [timely_pollFrame polled]
      refine imp_congr_right (fun _ => ⟨fun either other same => ?_, fun all => all body streaming⟩)
      rw [streaming] at same
      cases same
      exact either

/-- A timer whose sleeps are over from their deadlines on -/
def sampleTimer : Timer where
  elapsed deadline now := deadline ≤ now
  early before := by simpa using before
  late after := by simpa using Nat.le_of_lt after

/-- A total timeout of 100 for one request -/
def sampleOptions : Option TimeoutOptions := some { totalTimeout := some 100 }

/-- The response comes at 50 and a frame at 60; the body is polled again at 160. -/
def slowConsumer : List (Event Unit Unit × Seen Unit Unit) :=
  [(.pollResponse 10 .pending, .pending), (.pollResponse 50 .response, .response),
    (.pollFrame 60 (.frame ()), .frame ()), (.pollFrame 160 (.frame ()), .error .bodyTimedOut)]

/-- The body's own sleep ends at 150. -/
def streamingAt (now : Time) : State :=
  { now, stage := .streaming (.totalTimeout { body := (), timeout := { deadline := 150 } }) }

theorem slowConsumer_run
    : Run (Step sampleTimer) (State.new none sampleOptions 0) slowConsumer (streamingAt 160) := by
  apply Run.cons
  · exact ⟨_, rfl, by decide, rfl⟩
  apply Run.cons
  · exact ⟨_, rfl, by decide, rfl⟩
  apply Run.cons
  · exact ⟨_, rfl, by decide, rfl⟩
  apply Run.cons
  · exact ⟨_, rfl, by decide, rfl⟩
  exact .nil

/-- The response comes at 50; a frame comes at 120. -/
def lateFrame : List (Event Unit Unit × Seen Unit Unit) :=
  [(.pollResponse 50 .response, .response), (.pollFrame 120 (.frame ()), .frame ())]

end Tlsurl.Timeout
