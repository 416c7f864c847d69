import Tlsurl.Timeout.Deadline

/-! What a read timeout measures.
The sleep runs from the delivery of a frame and is polled before the body, so the time that the
consumer takes before it asks for the next frame counts as time of the read.
-/

namespace Tlsurl.Timeout

open Library

variable {E F : Type}

/-- What the wrapped body yields when it is polled; its errors are its own. -/
inductive Inner (E F : Type) where
  | pending
  | frame (frame : F)
  | error (error : E)
  | ended

def Inner.toFrame : Inner E F → Frame E F
  | .pending => .pending
  | .frame content => .frame content
  | .error cause => .error (.inner cause)
  | .ended => .ended

/-- A body under a read timeout, as its consumer knows it: when the last frame was delivered, or
else when the body was polled first, and since when the read under way was found pending.
-/
structure Reading where
  now : Time
  body : ReadTimeoutBody Unit
  restarted : Option Time := none
  pendingSince : Option Time := none

/-- The consumer polls at a time at which the wrapped body would yield `inner`. -/
structure ReadPoll (E F : Type) where
  now : Time
  inner : Inner E F
  seen : Frame E F

namespace Reading

/-- A body that was not polled yet -/
def new (timeout now : Time) : Reading := { now, body := { timeout, body := () } }

/-- What the consumer knows after a poll. An answer of the wrapped body that is not pending ends
the read.
-/
def observe (self : Reading) (now : Time) (body : ReadTimeoutBody Unit) : Frame E F → Reading
  | .pending =>
      { now, body
        restarted := some (self.restarted.getD now)
        pendingSince := some (self.pendingSince.getD now) }
  | .frame _ => { now, body, restarted := some now }
  | .error .bodyTimedOut =>
      { now, body, restarted := some (self.restarted.getD now), pendingSince := self.pendingSince }
  | .error _ => { now, body, restarted := some (self.restarted.getD now) }
  | .ended => { now, body, restarted := some (self.restarted.getD now) }

/-- What a poll yields, and what the consumer knows then -/
def poll (timer : Timer) (self : Reading) (now : Time) (inner : Inner E F) : Frame E F × Reading :=
  let (seen, body) := self.body.pollFrame timer now (fun _ => (inner.toFrame, ()))
  (seen, self.observe now body seen)

/-- A poll, no earlier than the one before -/
def Step (timer : Timer) (self : Reading) (label : ReadPoll E F) (next : Reading) : Prop :=
  self.now ≤ label.now ∧ (label.seen, next) = self.poll timer label.now label.inner

/-- A timeout is yielded only to a read that was pending for as long. -/
def Measured (timeout : Time) (self : Reading) (label : ReadPoll E F) (_next : Reading) : Prop :=
  label.seen = .error .bodyTimedOut
    → ∃ since, self.pendingSince = some since ∧ since + timeout ≤ label.now

/-- A poll that comes once the timeout has passed since the last frame was delivered comes from a
read that was pending for as long.
-/
def Prompt (timer : Timer) (timeout : Time) (self : Reading) (label : ReadPoll E F) : Prop :=
  timer.elapsed (self.restarted.getD label.now + timeout) label.now = true
    → ∃ since, self.pendingSince = some since ∧ since + timeout ≤ label.now

/-- The sleep runs from the last frame, or from the first poll. -/
structure Armed (timeout : Time) (reading : Reading) : Prop where
  kept : reading.body.timeout = timeout
  sleep
    : reading.body.sleep = reading.restarted.map (fun start => { deadline := start + timeout })

theorem new_armed (timeout now : Time) : (new timeout now).Armed timeout := ⟨rfl, rfl⟩

variable {timer : Timer} {timeout : Time} {self next : Reading} {label : ReadPoll E F}

/-- The sleep that is polled -/
theorem Armed.currentSleep (armed : self.Armed timeout) (now : Time)
    : self.body.currentSleep now = { deadline := self.restarted.getD now + timeout } := by
  rw [ReadTimeoutBody.currentSleep, armed.sleep, armed.kept]
  cases self.restarted <;> rfl

/-- A poll yields the timeout of the body exactly if the sleep is over. -/
theorem Armed.timedOut_iff (armed : self.Armed timeout) (step : self.Step timer label next)
    : label.seen = .error .bodyTimedOut
      ↔ timer.elapsed (self.restarted.getD label.now + timeout) label.now = true := by
  have seen : label.seen = (self.poll timer label.now label.inner).1 :=
    congrArg Prod.fst step.2
  rw [seen]
  cases elapsed : timer.elapsed (self.restarted.getD label.now + timeout) label.now with
  | true => simp [poll, ReadTimeoutBody.pollFrame, armed.currentSleep, elapsed]
  | false =>
      cases inner : label.inner <;>
        simp [poll, ReadTimeoutBody.pollFrame, armed.currentSleep, elapsed, Inner.toFrame]

/-- Each poll restarts the sleep with a frame and leaves it otherwise, by cases on what is
yielded.
-/
theorem Armed.step (armed : self.Armed timeout) (step : self.Step timer label next)
    : next.Armed timeout := by
  have result : next = (self.poll timer label.now label.inner).2 := congrArg Prod.snd step.2
  rw [result]
  cases elapsed : timer.elapsed (self.restarted.getD label.now + timeout) label.now with
  | true =>
      simp only [poll, ReadTimeoutBody.pollFrame, armed.currentSleep, elapsed, if_true]
      exact ⟨armed.kept, rfl⟩
  | false =>
      simp only [poll, ReadTimeoutBody.pollFrame, armed.currentSleep, elapsed,
        Bool.false_eq_true, if_false]
      cases label.inner with
      | pending => exact ⟨armed.kept, rfl⟩
      | frame content => exact ⟨armed.kept, by simp [Inner.toFrame, observe, armed.kept]⟩
      | error cause => exact ⟨armed.kept, rfl⟩
      | ended => exact ⟨armed.kept, rfl⟩

end Reading

/-- A read timeout measures reads if and only if every poll that comes once the timeout has passed
since the last frame was delivered comes from a read that was pending for as long.
-/
theorem read_timeout_measures_reads_iff (timer : Timer) (timeout start : Time)
    (labels : List (ReadPoll E F)) (reading : Reading)
    : Run (Having (Reading.Measured timeout) (Reading.Step timer)) (.new timeout start) labels
          reading
      ↔ Run (Guarded (Reading.Prompt timer timeout) (Reading.Step timer)) (.new timeout start)
          labels reading := by
  apply Run.having_iff_guarded (Reading.new_armed timeout start)
  · intro before label after armed step _
    exact armed.step step
  · intro before label after armed step
    exact imp_congr_left (armed.timedOut_iff step)

-----------------------------------------------------------------------------------------
-- A slow consumer
-----------------------------------------------------------------------------------------

/-- Both frames are ready when they are polled for; the consumer takes 150 for the first. -/
def readyFrames : List (ReadPoll Unit Unit) :=
  [{ now := 10, inner := .frame (), seen := .frame () }]

/-- The second frame is not delivered under a read timeout of 100. -/
theorem slow_consumer_times_out
    : ¬ ∀ (E F : Type) (timer : Timer) (timeout start : Time) (labels : List (ReadPoll E F))
        (reading : Reading) (label : ReadPoll E F) (next : Reading),
        Run (Reading.Step timer) (.new timeout start) labels reading
        → reading.Step timer label next → reading.Measured timeout label next := by
  intro always
  have run : Run (Reading.Step sampleTimer) (.new 100 0) readyFrames _ :=
    .cons ⟨by decide, rfl⟩ .nil
  have measured := always Unit Unit sampleTimer 100 0 _ _
    { now := 160, inner := .frame (), seen := .error .bodyTimedOut } _ run ⟨by decide, rfl⟩
  obtain ⟨since, pending, _⟩ := measured rfl
  cases pending

end Tlsurl.Timeout
