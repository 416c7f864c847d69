import Tlsurl.Bindings.Cancellation
import Tlsurl.Core.SocketShut

/-! The WebSocket of the Node binding and its abort signal (`bindings/node/client.cjs`).
What the event loop does at once is a list of jobs, as for other operations, while the calls of
the native socket advance on other threads; the program may do anything between the jobs.
-/

namespace Tlsurl.Bindings.Socket

open Tlsurl.Library Tlsurl.Core

/-- Where `websocket` is. -/
inductive Stage where
  | uncalled
  | awaiting (future : Future)
  | rejected (error : Error)
  | opened
  deriving DecidableEq

/-- A call of a method of the wrapper, with the native call it awaits -/
structure Method where
  call : WebSocket.Call
  settled : Bool := false

/-- What the event loop does next, without a pause. -/
inductive Job where
  | cancel
  | deref
  | abort (id : Nat)
  | cleanup
  | reject (error : Error)
  | hand
  deriving DecidableEq

/-- One call of `websocket` and what it made, with the signal it was given: whether that is
aborted, whether `abort` listens to it, and whether a dispatch has still to come to `abort`. The
socket is lost once the program has let go of it and its `WeakRef` is empty.
-/
structure Page where
  signal : Bool := false
  aborted : Bool := false
  listening : Bool := false
  firing : Bool := false
  cancellation : Bool := false
  stage : Stage := .uncalled
  socket : Option WebSocket.State := none
  lost : Bool := false
  calls : Nat → Option Method := fun _ => none
  jobs : List Job := []

/-- The promise of a method is settled: what is left of the method, past its `await`; `id` is for
a call of `this._native.abort()`.
-/
def continuation (call : WebSocket.Call) (result : WebSocket.Result) (id : Nat) : List Job :=
  match call, result with
  | .recv, .ok none => [.cleanup]
  | .recv, .ok (some message) => if message.kind == "close" then [.cleanup] else []
  | .recv, .error _ => [.cleanup]
  | .close _, .ok _ => [.cleanup]
  | .close _, .error error => if error.code != "INVALID_REQUEST" then [.abort id, .cleanup] else []
  | _, _ => []

namespace Page

/-- `websocket`, up to its `await`: on a signal that was aborted, `abort` runs at once and finds no
socket; the call of `this._native` may throw at once.
-/
def websocket (page : Page) (signal : Bool) (refusal : Option Error) : Page :=
  let called := { page with signal, listening := signal, cancellation := signal && page.aborted }
  match refusal with
  | none => { called with stage := .awaiting .selecting }
  | some error =>
      { called with
        stage := .awaiting (.ready (.error error)), jobs := [.cleanup, .reject error] }

/-- The first branch of the biased `select!` -/
def select (page : Page) : Page :=
  { page with
    stage := .awaiting (if page.cancellation then .ready (.error cancelled) else .polling) }

/-- The second branch: not ready, failed, or done, with a socket for messages up to a limit -/
def poll (page : Page) : Option (Except Error Nat) → Page
  | none => { page with stage := .awaiting .suspended }
  | some (.error error) => { page with stage := .awaiting (.ready (.error error)) }
  | some (.ok maxMessageBytes) =>
      { page with stage := .awaiting (.ready (.ok ())), socket := some { maxMessageBytes } }

/-- `signal?.aborted` -/
def sees (page : Page) : Bool := page.signal && page.aborted

/-- `websocket`, past its `await`; `id` is for a call of `socket.abort()`. -/
def resume (page : Page) (id : Nat) : Except Error Unit → Page
  | .error error => { page with jobs := [.cleanup, .reject error] }
  | .ok () =>
      if page.sees then { page with jobs := [.abort id, .cleanup, .reject cancelled] }
      else { page with jobs := [.hand] }

/-- `controller.abort()` -/
def abortSignal (page : Page) : Page :=
  if page.aborted then page else { page with aborted := true, firing := page.listening }

/-- The dispatch comes to `abort`, which is removed first, unless it was removed meanwhile. -/
def fire (page : Page) : Page :=
  if page.listening then
    { page with listening := false, firing := false, jobs := [.cancel, .deref] }
  else { page with firing := false }

/-- `socketRef?.deref()` -/
def found (page : Page) : Bool := page.stage = .opened && !page.lost

/-- A job other than a call of `abort` is done; `id` is for such a call. -/
def work (page : Page) (job : Job) (id : Nat) (jobs : List Job) : Page :=
  match job with
  | .cancel => { page with cancellation := true, jobs }
  | .deref => { page with jobs := (if page.found then [.abort id] else []) ++ jobs }
  | .abort _ => page
  | .cleanup => { page with listening := false, jobs }
  | .reject error => { page with stage := .rejected error, jobs }
  | .hand => { page with stage := .opened, jobs }

/-- A method of the wrapper calls the native socket. -/
def call (page : Page) (id : Nat) (call : WebSocket.Call) (socket : WebSocket.State) : Page :=
  { page with
    socket := some (socket.begin id call)
    calls := Function.update page.calls id (some { call }) }

/-- The promise of a native call is settled. -/
def settle (page : Page) (id later : Nat) (call : WebSocket.Call) (result : WebSocket.Result)
    : Page :=
  { page with
    calls := Function.update page.calls id (some { call, settled := true })
    jobs := continuation call result later }

/-- A native call that was not made -/
def Fresh (page : Page) (id : Nat) : Prop :=
  page.calls id = none ∧ ∀ socket, page.socket = some socket → socket.phase id = .uncalled

/-- Whose step of the native socket it is: of a call that a method made, on any thread, or of the
`abort` that the event loop is in. Native futures are not dropped.
-/
def Runs (page : Page) (event : WebSocket.Event) : Prop :=
  event.Honest ∧ (∀ id, event ≠ .drop id)
    ∧ ((page.calls event.actor ≠ none ∧ ∀ id call, event ≠ .call id call)
      ∨ page.jobs.head? = some (.abort event.actor)
        ∧ ∀ id call, event = .call id call → call = .abort)

/-- The event loop and the dispatch are done. -/
def Quiet (page : Page) : Prop := page.jobs = [] ∧ page.firing = false

end Page

/-- What can happen: the program calls, a promise is settled, the signal is aborted, the event
loop goes on, or another thread does; `finalize` is the finalizer of a socket that is lost.
-/
inductive Event where
  | websocket (signal : Bool) (refusal : Option Error)
  | select
  | poll (answer : Option (Except Error Nat))
  | wake
  | resume (id : Nat)
  | abortSignal
  | fire
  | work (job : Job) (id : Nat)
  | aborted (id : Nat)
  | call (id : Nat) (call : WebSocket.Call)
  | native (event : WebSocket.Event)
  | settle (id later : Nat) (result : WebSocket.Result)
  | abort (id : Nat)
  | collect
  | finalize (id : Nat)

/-- One step -/
def Step (page : Page) : Event → Page → Prop
  | .websocket signal refusal, next =>
      page.jobs = [] ∧ page.stage = .uncalled ∧ next = page.websocket signal refusal
  | .select, next => page.stage = .awaiting .selecting ∧ next = page.select
  | .poll answer, next => page.stage = .awaiting .polling ∧ next = page.poll answer
  | .wake, next =>
      page.stage = .awaiting .suspended ∧ next = { page with stage := .awaiting .selecting }
  | .resume id, next =>
      ∃ result, page.jobs = [] ∧ page.stage = .awaiting (.ready result) ∧ page.Fresh id
        ∧ next = page.resume id result
  | .abortSignal, next => page.jobs = [] ∧ next = page.abortSignal
  | .fire, next => page.jobs = [] ∧ page.firing = true ∧ next = page.fire
  | .work job id, next =>
      ∃ jobs, page.jobs = job :: jobs ∧ (∀ id, job ≠ .abort id) ∧ page.Fresh id
        ∧ next = page.work job id jobs
  | .aborted id, next =>
      ∃ jobs socket result, page.jobs = .abort id :: jobs ∧ page.socket = some socket
        ∧ socket.phase id = .aborted result ∧ next = { page with jobs }
  | .call id call, next =>
      ∃ socket, page.jobs = [] ∧ page.stage = .opened ∧ page.lost = false
        ∧ page.socket = some socket ∧ page.Fresh id ∧ call ≠ .abort
        ∧ next = page.call id call socket
  | .native event, next =>
      ∃ before after, page.socket = some before ∧ page.Runs event
        ∧ WebSocket.Step before event after ∧ next = { page with socket := some after }
  | .settle id later result, next =>
      ∃ method socket, page.jobs = [] ∧ page.calls id = some method ∧ method.settled = false
        ∧ page.socket = some socket
        ∧ (socket.phase id = .returned result ∨ socket.phase id = .aborted result)
        ∧ page.Fresh later ∧ next = page.settle id later method.call result
  | .abort id, next =>
      page.jobs = [] ∧ page.stage = .opened ∧ page.lost = false ∧ page.Fresh id
        ∧ next = { page with jobs := [.abort id, .cleanup] }
  | .collect, next =>
      page.jobs = [] ∧ page.stage = .opened
        ∧ (∀ id method, page.calls id = some method → method.settled = true)
        ∧ next = { page with lost := true }
  | .finalize id, next =>
      page.jobs = [] ∧ page.lost = true ∧ page.Fresh id
        ∧ next = { page with jobs := [.abort id] }

end Tlsurl.Bindings.Socket
