import Tlsurl.Library.Run
import Tlsurl.Timeout.Body

/-! The timeout service (`layer/timeout.rs` and `layer/timeout/future.rs`).
One request is handed to the service; its caller polls the response future and then the body,
at any times and with any answers of the service and the body inside.
-/

namespace Tlsurl.Timeout

open Library

variable {E F : Type}

/-- `TimeoutOptions` -/
structure TimeoutOptions where
  totalTimeout : Option Time := none
  readTimeout : Option Time := none

/-- `RequestConfig::fetch`, of the value of a request before that of the client -/
def fetch {V : Type} (config request : Option V) : Option V := request.or config

/-- `fetch_timeout_options`; `opts` are those of the client, `request` those in the extensions of
the request.
-/
def fetchTimeoutOptions (opts request : Option TimeoutOptions) : Option Time × Option Time :=
  match opts, fetch opts request with
  | some opts, some requestOpts =>
      (requestOpts.totalTimeout.or opts.totalTimeout, requestOpts.readTimeout.or opts.readTimeout)
  | some opts, none => (opts.totalTimeout, opts.readTimeout)
  | none, some opts => (opts.totalTimeout, opts.readTimeout)
  | none, none => (none, none)

/-- What polling the future of the inner service yields; the body of a response is not looked at.
-/
inductive Answer (E : Type) where
  | pending
  | response
  | error (cause : Error E)

/-- `ResponseBodyTimeoutFuture` -/
structure ResponseBodyTimeoutFuture where
  totalTimeout : Option Time
  readTimeout : Option Time

/-- `ResponseFuture` -/
structure ResponseFuture where
  fut : ResponseBodyTimeoutFuture
  totalTimeout : Option Sleep
  readTimeout : Option Sleep

/-- Whether a sleep that there may be is over -/
def sleeps (timer : Timer) (now : Time) (sleep : Option Sleep) : Bool :=
  sleep.any (fun sleep => timer.elapsed sleep.deadline now)

/-- `Timeout::call` -/
def call (opts request : Option TimeoutOptions) (now : Time) : ResponseFuture :=
  let (totalTimeout, readTimeout) := fetchTimeoutOptions opts request
  { fut := { totalTimeout, readTimeout }
    totalTimeout := totalTimeout.map (fun timeout => { deadline := now + timeout })
    readTimeout := readTimeout.map (fun timeout => { deadline := now + timeout }) }

/-- `ResponseBodyTimeoutFuture::poll`; `none` is pending. -/
def ResponseBodyTimeoutFuture.poll (self : ResponseBodyTimeoutFuture) (now : Time)
    : Answer E → Option (Except (Error E) (TimeoutBody Unit))
  | .pending => none
  | .response => some (.ok (.new now self.totalTimeout self.readTimeout ()))
  | .error cause => some (.error cause)

/-- `ResponseFuture::poll`; `none` is pending. -/
def ResponseFuture.poll (timer : Timer) (self : ResponseFuture) (now : Time) (answer : Answer E)
    : Option (Except (Error E) (TimeoutBody Unit)) :=
  match self.fut.poll now answer with
  | some result => some result
  | none =>
      if sleeps timer now self.totalTimeout then some (.error .requestTimedOut)
      else if sleeps timer now self.readTimeout then some (.error .requestTimedOut)
      else none

-----------------------------------------------------------------------------------------
-- The system
-----------------------------------------------------------------------------------------

/-- How far the caller is: at the response future, at the body, or done with a failed future. -/
inductive Stage where
  | responding (future : ResponseFuture)
  | streaming (body : TimeoutBody Unit)
  | failed

/-- A request in the hands of the service, and the time -/
structure State where
  now : Time
  stage : Stage

/-- A request is handed to the service. -/
def State.new (opts request : Option TimeoutOptions) (now : Time) : State where
  now := now
  stage := .responding (call opts request now)

/-- What the caller sees of a poll -/
inductive Seen (E F : Type) where
  | pending
  | response
  | frame (frame : F)
  | error (cause : Error E)
  | ended

/-- What a poll of the body shows -/
def Frame.seen : Frame E F → Seen E F
  | .pending => .pending
  | .frame content => .frame content
  | .error cause => .error cause
  | .ended => .ended

/-- The caller polls, at a time and with an answer from inside. -/
inductive Event (E F : Type) where
  | pollResponse (now : Time) (answer : Answer E)
  | pollFrame (now : Time) (answer : Frame E F)

def Event.now : Event E F → Time
  | .pollResponse now _ => now
  | .pollFrame now _ => now

/-- What polling the response future shows, and where it leads -/
def State.pollResponse (timer : Timer) (future : ResponseFuture) (now : Time) (answer : Answer E)
    : Seen E F × State :=
  match future.poll timer now answer with
  | none => (.pending, { now, stage := .responding future })
  | some (.ok body) => (.response, { now, stage := .streaming body })
  | some (.error cause) => (.error cause, { now, stage := .failed })

/-- What polling the body shows, and where it leads -/
def State.pollFrame (timer : Timer) (body : TimeoutBody Unit) (now : Time) (answer : Frame E F)
    : Seen E F × State :=
  let (polled, body) := body.pollFrame timer now (fun _ => (answer, ()))
  (polled.seen, { now, stage := .streaming body })

/-- One step: a poll, no earlier than the one before, and what the caller sees of it. -/
def Step (timer : Timer) (state : State) (label : Event E F × Seen E F) (next : State) : Prop :=
  match label.1 with
  | .pollResponse now answer =>
      ∃ future, state.stage = .responding future ∧ state.now ≤ now
        ∧ (label.2, next) = State.pollResponse timer future now answer
  | .pollFrame now answer =>
      ∃ body, state.stage = .streaming body ∧ state.now ≤ now
        ∧ (label.2, next) = State.pollFrame timer body now answer

end Tlsurl.Timeout
