import Mathlib.Data.Option.Basic

/-! The body of a response under timeouts (`layer/timeout/body.rs`).
The wrappers are generic in the body they wrap; what that body answers when it is polled is
given by a function.
-/

namespace Tlsurl.Timeout

/-- `Instant` and `Duration` in ticks of the timer -/
abbrev Time := Nat

/-- `rt::Timer`: whether a sleep is over when it is polled. At its deadline itself it may be or
not.
-/
structure Timer where
  elapsed : (deadline now : Time) → Bool
  early : ∀ {deadline now}, now < deadline → elapsed deadline now = false
  late : ∀ {deadline now}, deadline < now → elapsed deadline now = true

/-- `Sleep` -/
structure Sleep where
  deadline : Time
  deriving DecidableEq

/-- `Error` as the timeouts make it, and the errors of the service and the body they wrap. -/
inductive Error (E : Type) where
  | requestTimedOut
  | bodyTimedOut
  | decode (source : Error E)
  | inner (error : E)

/-- `Error::is_timeout`, which looks through the sources; `timedOut` tells it of an inner error.
-/
def Error.isTimeout {E : Type} (timedOut : E → Bool) : Error E → Bool
  | .requestTimedOut => true
  | .bodyTimedOut => true
  | .decode source => source.isTimeout timedOut
  | .inner error => timedOut error

/-- What polling a body for a frame yields -/
inductive Frame (E F : Type) where
  | pending
  | frame (frame : F)
  | error (error : Error E)
  | ended

variable {B E F : Type}

/-- `poll_and_map_body` -/
def Frame.map : Frame E F → Frame E F
  | .error cause => .error (.decode cause)
  | polled => polled

/-- `TotalTimeoutBody` -/
structure TotalTimeoutBody (B : Type) where
  body : B
  timeout : Sleep

/-- `ReadTimeoutBody` -/
structure ReadTimeoutBody (B : Type) where
  timeout : Time
  sleep : Option Sleep := none
  body : B

/-- `TimeoutBody` -/
inductive TimeoutBody (B : Type) where
  | plain (body : B)
  | totalTimeout (body : TotalTimeoutBody B)
  | readTimeout (body : ReadTimeoutBody B)
  | combinedTimeout (body : TotalTimeoutBody (ReadTimeoutBody B))

/-- `TotalTimeoutBody::poll_frame` -/
def TotalTimeoutBody.pollFrame (timer : Timer) (now : Time) (pollBody : B → Frame E F × B)
    (self : TotalTimeoutBody B)
    : Frame E F × TotalTimeoutBody B :=
  if timer.elapsed self.timeout.deadline now then (.error .bodyTimedOut, self)
  else
    let (polled, body) := pollBody self.body
    (polled.map, { self with body })

/-- The sleep of a read that is polled, which the first poll starts -/
def ReadTimeoutBody.currentSleep (self : ReadTimeoutBody B) (now : Time) : Sleep :=
  self.sleep.getD { deadline := now + self.timeout }

/-- `ReadTimeoutBody::poll_frame`; a frame resets the sleep. -/
def ReadTimeoutBody.pollFrame (timer : Timer) (now : Time) (pollBody : B → Frame E F × B)
    (self : ReadTimeoutBody B)
    : Frame E F × ReadTimeoutBody B :=
  let sleep := self.currentSleep now
  if timer.elapsed sleep.deadline now then
    (.error .bodyTimedOut, { self with sleep := some sleep })
  else
    match pollBody self.body with
    | (.frame frame, body) =>
        (.frame frame, { self with sleep := some { deadline := now + self.timeout }, body })
    | (polled, body) => (polled, { self with sleep := some sleep, body })

namespace TimeoutBody

/-- `TimeoutBody::new` -/
def new (now : Time) (deadline readTimeout : Option Time) (body : B) : TimeoutBody B :=
  match deadline, readTimeout with
  | some deadline, some timeout =>
      .combinedTimeout { body := { timeout, body }, timeout := { deadline := now + deadline } }
  | some deadline, none => .totalTimeout { body, timeout := { deadline := now + deadline } }
  | none, some timeout => .readTimeout { timeout, body }
  | none, none => .plain body

/-- `TimeoutBody::poll_frame` -/
def pollFrame (timer : Timer) (now : Time) (pollBody : B → Frame E F × B)
    : TimeoutBody B → Frame E F × TimeoutBody B
  | .plain body =>
      let (polled, body) := pollBody body
      (polled.map, .plain body)
  | .totalTimeout body =>
      let (polled, body) := body.pollFrame timer now pollBody
      (polled, .totalTimeout body)
  | .readTimeout body =>
      let (polled, body) := body.pollFrame timer now pollBody
      (polled, .readTimeout body)
  | .combinedTimeout body =>
      let (polled, body) := body.pollFrame timer now (ReadTimeoutBody.pollFrame timer now pollBody)
      (polled, .combinedTimeout body)

/-- Whether one of the sleeps of a body is over when it is polled -/
def elapsed (timer : Timer) (now : Time) : TimeoutBody B → Bool
  | .plain _ => false
  | .totalTimeout body => timer.elapsed body.timeout.deadline now
  | .readTimeout body => timer.elapsed (body.currentSleep now).deadline now
  | .combinedTimeout body =>
      timer.elapsed body.timeout.deadline now
        || timer.elapsed (body.body.currentSleep now).deadline now

/-- The body that is wrapped -/
def inner : TimeoutBody B → B
  | .plain body => body
  | .totalTimeout body => body.body
  | .readTimeout body => body.body
  | .combinedTimeout body => body.body.body

end TimeoutBody

-----------------------------------------------------------------------------------------
-- Timeout errors
-----------------------------------------------------------------------------------------

/-- Whether a poll yields a timeout error -/
def Frame.timesOut (timedOut : E → Bool) : Frame E F → Bool
  | .error cause => cause.isTimeout timedOut
  | _ => false

/-- Wrapping an error keeps whether it is a timeout. -/
@[simp] theorem Frame.timesOut_map (timedOut : E → Bool) (polled : Frame E F)
    : polled.map.timesOut timedOut = polled.timesOut timedOut := by
  cases polled <;> rfl

variable (timer : Timer) (timedOut : E → Bool) (now : Time) (pollBody : B → Frame E F × B)

/-- A read times out with its sleep, or with the body. -/
theorem ReadTimeoutBody.timesOut_pollFrame (self : ReadTimeoutBody B)
    : (self.pollFrame timer now pollBody).1.timesOut timedOut
      = (timer.elapsed (self.currentSleep now).deadline now
        || (pollBody self.body).1.timesOut timedOut) := by
  unfold ReadTimeoutBody.pollFrame
  by_cases elapsed : timer.elapsed (self.currentSleep now).deadline now = true
  · simp [elapsed, Frame.timesOut, Error.isTimeout]
  · simp only [elapsed, Bool.false_eq_true, ↓reduceIte, Bool.false_or]
    split
    · next polled => simp [polled, Frame.timesOut]
    · next polled => simp [polled]

/-- A body with a total timeout times out with its sleep, or with what it wraps. -/
theorem TotalTimeoutBody.timesOut_pollFrame (self : TotalTimeoutBody B)
    : (self.pollFrame timer now pollBody).1.timesOut timedOut
      = (timer.elapsed self.timeout.deadline now
        || (pollBody self.body).1.timesOut timedOut) := by
  unfold TotalTimeoutBody.pollFrame
  by_cases elapsed : timer.elapsed self.timeout.deadline now = true
  · simp [elapsed, Frame.timesOut, Error.isTimeout]
  · simp [elapsed]

/-- Each kind of body times out with one of its sleeps, or with the body it wraps. -/
theorem TimeoutBody.timesOut_pollFrame (self : TimeoutBody B)
    : (self.pollFrame timer now pollBody).1.timesOut timedOut
      = (self.elapsed timer now || (pollBody self.inner).1.timesOut timedOut) := by
  cases self with
  | plain body => simp [TimeoutBody.pollFrame, TimeoutBody.elapsed, TimeoutBody.inner]
  | totalTimeout total => exact total.timesOut_pollFrame timer timedOut now pollBody
  | readTimeout read => exact read.timesOut_pollFrame timer timedOut now pollBody
  | combinedTimeout total =>
      have outer := total.timesOut_pollFrame timer timedOut now
        (ReadTimeoutBody.pollFrame timer now pollBody)
      rw [ReadTimeoutBody.timesOut_pollFrame, ← Bool.or_assoc] at outer
      exact outer

end Tlsurl.Timeout
