import Tlsurl.Core.StreamSpent

/-! The abort signals of the Node binding (`bindings/node/client.cjs`).
Operations, each with a native future on another thread, share signals. What the event loop does
at once is a list of jobs, between which only other threads take steps; a dispatch calls the
listeners of a signal one after another, and a listener of the program may do anything the
program may do.
-/

namespace Tlsurl.Bindings

open Tlsurl.Library Tlsurl.Core

/-- `signal.aborted`, and the operations whose `abort` listens, in the order they came -/
structure AbortSignal where
  aborted : Bool := false
  listeners : List Nat := []

/-- Where the native future of an operation is: in `cancellable`, or done. -/
inductive Future where
  | selecting
  | polling
  | suspended
  | ready (result : Except Error Unit)
  deriving DecidableEq

/-- Where an operation is. -/
inductive Phase where
  | uncalled
  | awaiting (future : Future)
  | rejected (error : Error)
  | answered
  | streaming
  deriving DecidableEq

/-- Where a call of `nextChunk` is. -/
inductive ChunkCall where
  | uncalled
  | awaiting
  | resolved (result : Stream.Result)
  | settled
  deriving DecidableEq

/-- `_send`, with what it made. A streamed response is lost once the program has let go of it and
its `WeakRef` is empty.
-/
structure Operation (Body : Type) where
  streaming : Bool := false
  signal : Option Nat := none
  cancellation : Bool := false
  phase : Phase := .uncalled
  response : Option (Stream.State Body) := none
  streamRef : Bool := false
  lost : Bool := false
  chunks : Nat → ChunkCall := fun _ => .uncalled

/-- What the event loop does next, without a pause. -/
inductive Job where
  | cancel (op : Nat)
  | deref (op : Nat)
  | close (op id : Nat)
  | cleanup (op : Nat)
  | reject (op : Nat) (error : Error)
  | answer (op : Nat)
  | hand (op : Nat)
  deriving DecidableEq

/-- The operation that a job is for -/
def Job.op : Job → Nat
  | .cancel op => op
  | .deref op => op
  | .close op _ => op
  | .cleanup op => op
  | .reject op _ => op
  | .answer op => op
  | .hand op => op

/-- The signals, the operations, the listeners that a dispatch has still to call, and what the
event loop is doing.
-/
structure Page (Body : Type) where
  signals : Nat → AbortSignal := fun _ => {}
  operations : Nat → Operation Body := fun _ => {}
  firing : List Nat := []
  jobs : List Job := []

namespace Page

variable {Body : Type}

def setOperation (page : Page Body) (op : Nat) (operation : Operation Body) : Page Body :=
  { page with operations := Function.update page.operations op operation }

def setPhase (page : Page Body) (op : Nat) (phase : Phase) : Page Body :=
  page.setOperation op { page.operations op with phase }

def setListeners (page : Page Body) (signal : Nat) (listeners : List Nat) : Page Body :=
  { page with
    signals := Function.update page.signals signal { page.signals signal with listeners } }

/-- `signal?.aborted` -/
def aborted (page : Page Body) (op : Nat) : Bool :=
  ((page.operations op).signal.map (fun signal => (page.signals signal).aborted)).getD false

/-- `signal?.addEventListener('abort', abort, { once: true })` -/
def addEventListener (page : Page Body) (op : Nat) : Page Body :=
  match (page.operations op).signal with
  | none => page
  | some signal => page.setListeners signal ((page.signals signal).listeners ++ [op])

/-- `signal?.removeEventListener('abort', abort)` -/
def removeEventListener (page : Page Body) (op : Nat) : Page Body :=
  match (page.operations op).signal with
  | none => page
  | some signal => page.setListeners signal ((page.signals signal).listeners.erase op)

/-- Whether the `abort` of an operation listens to its signal -/
def listens (page : Page Body) (op : Nat) : Bool :=
  match (page.operations op).signal with
  | none => false
  | some signal => (page.signals signal).listeners.contains op

/-- `_send`, up to its `await`: on a signal that was aborted, `abort` runs at once and finds no
stream; the call of `this._native` may throw at once.
-/
def send (page : Page Body) (op : Nat) (streaming : Bool) (signal : Option Nat)
    (refusal : Option Error)
    : Page Body :=
  let called := (page.setOperation op { streaming, signal }).addEventListener op
  let cancellation := called.aborted op
  match refusal with
  | none =>
      called.setOperation op { streaming, signal, cancellation, phase := .awaiting .selecting }
  | some error =>
      { called.setOperation op
          { streaming, signal, cancellation, phase := .awaiting (.ready (.error error)) } with
        jobs := [.cleanup op, .reject op error] }

/-- The first branch of the biased `select!` -/
def select (page : Page Body) (op : Nat) : Page Body :=
  page.setPhase op
    (.awaiting (if (page.operations op).cancellation then .ready (.error cancelled) else .polling))

/-- The second branch: not ready, failed, or done, with a body that only `stream` leaves unread -/
def poll (page : Page Body) (op : Nat) : Option (Except Error Body) → Page Body
  | none => page.setPhase op (.awaiting .suspended)
  | some (.error error) => page.setPhase op (.awaiting (.ready (.error error)))
  | some (.ok body) =>
      page.setOperation op
        { page.operations op with
          phase := .awaiting (.ready (.ok ()))
          response := if (page.operations op).streaming then some (.new body) else none }

/-- `_send`, past its `await`; `id` is for a call of `result.close()`. -/
def resume (page : Page Body) (op id : Nat) : Except Error Unit → Page Body
  | .error error => { page with jobs := [.cleanup op, .reject op error] }
  | .ok () =>
      if page.aborted op then
        { page with
          jobs :=
            (if (page.operations op).streaming then [.close op id] else [])
              ++ [.cleanup op, .reject op cancelled] }
      else if (page.operations op).streaming then { page with jobs := [.hand op] }
      else { page with jobs := [.cleanup op, .answer op] }

/-- `controller.abort()` -/
def abort (page : Page Body) (signal : Nat) : Page Body :=
  if (page.signals signal).aborted then page
  else
    { page with
      signals := Function.update page.signals signal { page.signals signal with aborted := true }
      firing := (page.signals signal).listeners ++ page.firing }

/-- The dispatch calls a listener, which is removed first, unless it was removed meanwhile. -/
def fire (page : Page Body) (op : Nat) (firing : List Nat) : Page Body :=
  if page.listens op then
    { page.removeEventListener op with firing, jobs := [.cancel op, .deref op] }
  else { page with firing }

/-- `streamRef?.deref()` -/
def found (page : Page Body) (op : Nat) : Bool :=
  (page.operations op).streamRef && !(page.operations op).lost

/-- A job other than a call of `close` is done; `id` is for such a call. -/
def work (page : Page Body) (job : Job) (id : Nat) (jobs : List Job) : Page Body :=
  match job with
  | .cancel op =>
      { page.setOperation op { page.operations op with cancellation := true } with jobs }
  | .deref op => { page with jobs := (if page.found op then [.close op id] else []) ++ jobs }
  | .close _ _ => page
  | .cleanup op => { page.removeEventListener op with jobs }
  | .reject op error => { page.setPhase op (.rejected error) with jobs }
  | .answer op => { page.setPhase op .answered with jobs }
  | .hand op =>
      { page.setOperation op { page.operations op with phase := .streaming, streamRef := true } with
        jobs }

def setChunk (page : Page Body) (op id : Nat) (call : ChunkCall) : Page Body :=
  page.setOperation op
    { page.operations op with chunks := Function.update (page.operations op).chunks id call }

/-- `nextChunk`, past its `await`; `closing` is for a call of `this._native.close()`. -/
def deliver (page : Page Body) (op id closing : Nat) (result : Stream.Result) : Page Body :=
  { page.setChunk op id .settled with
    jobs :=
      match result with
      | .ok (some _) => []
      | .ok none => [.cleanup op]
      | .error _ => [.close op closing, .cleanup op] }

/-- A step of the native response; a read that returns settles the promise of its call. -/
def advance (page : Page Body) (op : Nat) (event : Stream.Event) (response : Stream.State Body)
    : Page Body :=
  let advanced := page.setOperation op { page.operations op with response := some response }
  match event with
  | .ret id result => advanced.setChunk op id (.resolved result)
  | _ => advanced

/-- The event loop and every dispatch are done. -/
def Quiet (page : Page Body) : Prop := page.jobs = [] ∧ page.firing = []

/-- A call of `close` that the event loop has not begun -/
def Fresh (page : Page Body) (op id : Nat) : Prop :=
  ∀ response, (page.operations op).response = some response → response.closes id = .uncalled

/-- Whose step of the native response it is: of a read that was called for, on any thread, or of
the `close` that the event loop is in. The futures of reads are not dropped.
-/
def Runs (page : Page Body) (op : Nat) (event : Stream.Event) : Prop :=
  (∀ id, event ≠ .dropLocking id ∧ event ≠ .dropSuspended id)
    ∧ (∀ id, event.reader = some id → (page.operations op).chunks id = .awaiting)
    ∧ (∀ id, event.closer = some id → page.jobs.head? = some (.close op id))

end Page

/-- What can happen: the program calls, a promise is settled, a signal is aborted, the event loop
goes on, or another thread does.
-/
inductive Event (Body : Type) where
  | send (op : Nat) (streaming : Bool) (signal : Option Nat) (refusal : Option Error)
  | select (op : Nat)
  | poll (op : Nat) (answer : Option (Except Error Body))
  | wake (op : Nat)
  | resume (op id : Nat)
  | abort (signal : Nat)
  | fire (op : Nat)
  | work (job : Job) (id : Nat)
  | closed (op id : Nat)
  | nextChunk (op id : Nat)
  | native (op : Nat) (event : Stream.Event)
  | deliver (op id : Nat) (result : Stream.Result) (closing : Nat)
  | close (op id : Nat)
  | collect (op : Nat)

/-- One step; `poll` tells what a body may answer and become when it is polled. -/
def Step {Body : Type} (poll : Body → Stream.Polled → Body → Prop) (page : Page Body)
    : Event Body → Page Body → Prop
  | .send op streaming signal refusal, next =>
      page.jobs = [] ∧ (page.operations op).phase = .uncalled
        ∧ next = page.send op streaming signal refusal
  | .select op, next =>
      (page.operations op).phase = .awaiting .selecting ∧ next = page.select op
  | .poll op answer, next =>
      (page.operations op).phase = .awaiting .polling ∧ next = page.poll op answer
  | .wake op, next =>
      (page.operations op).phase = .awaiting .suspended
        ∧ next = page.setPhase op (.awaiting .selecting)
  | .resume op id, next =>
      ∃ result, page.jobs = [] ∧ (page.operations op).phase = .awaiting (.ready result)
        ∧ page.Fresh op id ∧ next = page.resume op id result
  | .abort signal, next => page.jobs = [] ∧ next = page.abort signal
  | .fire op, next =>
      ∃ firing, page.jobs = [] ∧ page.firing = op :: firing ∧ next = page.fire op firing
  | .work job id, next =>
      ∃ jobs, page.jobs = job :: jobs ∧ (∀ op id, job ≠ .close op id) ∧ page.Fresh job.op id
        ∧ next = page.work job id jobs
  | .closed op id, next =>
      ∃ jobs response, page.jobs = .close op id :: jobs
        ∧ (page.operations op).response = some response ∧ response.closes id = .returned
        ∧ next = { page with jobs }
  | .nextChunk op id, next =>
      page.jobs = [] ∧ (page.operations op).phase = .streaming ∧ (page.operations op).lost = false
        ∧ (page.operations op).chunks id = .uncalled ∧ next = page.setChunk op id .awaiting
  | .native op event, next =>
      ∃ before after, (page.operations op).response = some before ∧ page.Runs op event
        ∧ Stream.Step poll before event after ∧ next = page.advance op event after
  | .deliver op id result closing, next =>
      page.jobs = [] ∧ (page.operations op).chunks id = .resolved result ∧ page.Fresh op closing
        ∧ next = page.deliver op id closing result
  | .close op id, next =>
      page.jobs = [] ∧ (page.operations op).phase = .streaming ∧ (page.operations op).lost = false
        ∧ page.Fresh op id ∧ next = { page with jobs := [.close op id, .cleanup op] }
  | .collect op, next =>
      page.jobs = [] ∧ (page.operations op).phase = .streaming
        ∧ (∀ id, (page.operations op).chunks id = .uncalled
          ∨ (page.operations op).chunks id = .settled)
        ∧ next = page.setOperation op { page.operations op with lost := true }

end Tlsurl.Bindings
