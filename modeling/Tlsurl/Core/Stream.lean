import Tlsurl.Library.FairLock
import Tlsurl.Library.Run

/-! A pull-based response (`tlsurl-core/stream.rs`) under concurrent calls.
Each call advances in the atomic steps of its code; a future is suspended, and can be dropped,
only where it awaits.
-/

namespace Tlsurl.Core

open Library

/-- `Error` -/
structure Error where
  code : String
  message : String
  deriving DecidableEq

/-- `stream::cancelled` -/
def cancelled : Error := { code := "CANCELLED", message := "operation cancelled" }

/-- `Vec<u8>` -/
abbrev Bytes := List UInt8

namespace Stream

/-- What `next_chunk` returns. -/
abbrev Result := Except Error (Option Bytes)

/-- What polling the body yields, with its errors converted: not ready, a chunk, an error, or
the end.
-/
inductive Polled where
  | pending
  | chunk (bytes : Bytes)
  | failed (error : Error)
  | done
  deriving DecidableEq

/-- What `next_chunk` makes of a body that is ready. -/
def Polled.result : Polled → Option Result
  | .pending => none
  | .chunk bytes => some (.ok (some bytes))
  | .failed error => some (.error error)
  | .done => some (.ok none)

/-- Where a `next_chunk` future is. From `selecting` to `storing` it owns the body. -/
inductive ReadPhase (Body : Type) where
  | unpolled
  | locking
  | locked
  | clearing
  | taking
  | selecting (stream : Body)
  | polling (stream : Body)
  | suspended (stream : Body)
  | checking (stream : Body) (result : Result)
  | storing (stream : Body) (chunk : Bytes)
  | returning (result : Result)
  | gone

/-- Where a `close` call is. -/
inductive ClosePhase where
  | uncalled
  | cancelled
  | clearing
  | unlocking
  | returned
  deriving DecidableEq

/-- Who asks for the lock of the body. -/
inductive Task where
  | read (id : Nat)
  | close (id : Nat)
  deriving DecidableEq

/-- Where a future is with respect to the lock. -/
def ReadPhase.station {Body : Type} : ReadPhase Body → Station
  | .unpolled => .away
  | .locking => .waiting
  | .gone => .away
  | _ => .inside

def ClosePhase.station : ClosePhase → Station
  | .clearing => .inside
  | .unlocking => .inside
  | _ => .away

/-- `StreamResponse` with the calls made on it; the head is not read by them. -/
structure State (Body : Type) where
  body : Option Body
  lock : FairLock Task := .free
  cancellation : Bool := false
  reads : Nat → ReadPhase Body := fun _ => .unpolled
  closes : Nat → ClosePhase := fun _ => .uncalled

namespace State

variable {Body : Type}

/-- `StreamResponse::new` -/
def new (body : Body) : State Body := { body := some body }

def setRead (state : State Body) (id : Nat) (phase : ReadPhase Body) : State Body :=
  { state with reads := Function.update state.reads id phase }

def setClose (state : State Body) (id : Nat) (phase : ClosePhase) : State Body :=
  { state with closes := Function.update state.closes id phase }

/-- A task gives the lock back, or gives up waiting for it. -/
def leave (state : State Body) (task : Task) : State Body :=
  { state with lock := state.lock.leave task }

/-- `self.body.lock()`, polled for the first time -/
def beginLock (state : State Body) (id : Nat) : State Body :=
  match state.lock.tryLock (.read id) with
  | some lock => { state with lock }.setRead id .locked
  | none => { state with lock := state.lock.join (.read id) }.setRead id .locking

/-- The first check of the token -/
def checkToken (state : State Body) (id : Nat) : State Body :=
  state.setRead id (if state.cancellation then .clearing else .taking)

/-- `*body = None` in `next_chunk` -/
def clearRead (state : State Body) (id : Nat) : State Body :=
  { state with body := none }.setRead id (.returning (.error Core.cancelled))

/-- `body.take()` -/
def take (state : State Body) (id : Nat) : State Body :=
  match state.body with
  | none => state.setRead id (.returning (.ok none))
  | some stream => { state with body := none }.setRead id (.selecting stream)

/-- The first branch of the biased `select!` -/
def select (state : State Body) (id : Nat) (stream : Body) : State Body :=
  state.setRead id
    (if state.cancellation then .checking stream (.error Core.cancelled) else .polling stream)

/-- The second branch, once the body has answered -/
def polled (state : State Body) (id : Nat) (answer : Polled) (stream : Body) : State Body :=
  state.setRead id
    (match answer.result with
    | none => .suspended stream
    | some result => .checking stream result)

/-- The second check of the token, and whether there is a chunk to return -/
def recheck (state : State Body) (id : Nat) (stream : Body) (result : Result) : State Body :=
  state.setRead id
    (if state.cancellation then .returning (.error Core.cancelled)
    else match result with
      | .ok (some chunk) => .storing stream chunk
      | result => .returning result)

/-- `*body = Some(stream)` -/
def store (state : State Body) (id : Nat) (stream : Body) (chunk : Bytes) : State Body :=
  { state with body := some stream }.setRead id (.returning (.ok (some chunk)))

/-- `self.body.try_lock()` in `close`, which returns at once if it fails -/
def tryLock (state : State Body) (id : Nat) : State Body :=
  match state.lock.tryLock (.close id) with
  | some lock => { state with lock }.setClose id .clearing
  | none => state.setClose id .returned

end State

/-- What can happen. A call that returns gives the lock back in the same step. -/
inductive Event where
  | beginLock (id : Nat)
  | locked (id : Nat)
  | checkToken (id : Nat)
  | clearRead (id : Nat)
  | take (id : Nat)
  | wake (id : Nat)
  | select (id : Nat)
  | poll (id : Nat) (answer : Polled)
  | recheck (id : Nat)
  | store (id : Nat)
  | ret (id : Nat) (result : Result)
  | dropLocking (id : Nat)
  | dropSuspended (id : Nat)
  | cancel (id : Nat)
  | tryLock (id : Nat)
  | clear (id : Nat)
  | unlock (id : Nat)
  deriving DecidableEq

/-- One step; `poll` tells what the body may answer and become when it is polled. -/
def Step {Body : Type} (poll : Body → Polled → Body → Prop) (state : State Body)
    : Event → State Body → Prop
  | .beginLock id, next => state.reads id = .unpolled ∧ next = state.beginLock id
  | .locked id, next =>
      state.reads id = .locking ∧ state.lock.holder = some (.read id)
        ∧ next = state.setRead id .locked
  | .checkToken id, next => state.reads id = .locked ∧ next = state.checkToken id
  | .clearRead id, next => state.reads id = .clearing ∧ next = state.clearRead id
  | .take id, next => state.reads id = .taking ∧ next = state.take id
  | .wake id, next =>
      ∃ stream, state.reads id = .suspended stream ∧ next = state.setRead id (.selecting stream)
  | .select id, next =>
      ∃ stream, state.reads id = .selecting stream ∧ next = state.select id stream
  | .poll id answer, next =>
      ∃ stream after, state.reads id = .polling stream ∧ poll stream answer after
        ∧ next = state.polled id answer after
  | .recheck id, next =>
      ∃ stream result, state.reads id = .checking stream result
        ∧ next = state.recheck id stream result
  | .store id, next =>
      ∃ stream chunk, state.reads id = .storing stream chunk ∧ next = state.store id stream chunk
  | .ret id result, next =>
      state.reads id = .returning result ∧ next = (state.leave (.read id)).setRead id .gone
  | .dropLocking id, next =>
      state.reads id = .locking ∧ next = (state.leave (.read id)).setRead id .gone
  | .dropSuspended id, next =>
      ∃ stream, state.reads id = .suspended stream
        ∧ next = (state.leave (.read id)).setRead id .gone
  | .cancel id, next =>
      state.closes id = .uncalled
        ∧ next = { state with cancellation := true }.setClose id .cancelled
  | .tryLock id, next => state.closes id = .cancelled ∧ next = state.tryLock id
  | .clear id, next =>
      state.closes id = .clearing ∧ next = { state with body := none }.setClose id .unlocking
  | .unlock id, next =>
      state.closes id = .unlocking ∧ next = (state.leave (.close id)).setClose id .returned

-----------------------------------------------------------------------------------------
-- A sample
-----------------------------------------------------------------------------------------

/-- A body that may answer anything. -/
def anyBody (_ : Unit) (_ : Polled) (_ : Unit) : Prop := True

/-- A read has taken the body and is about to poll it. -/
def aboutToPoll : State Unit :=
  ((((State.new ()).beginLock 0).checkToken 0).take 0).select 0 ()

theorem aboutToPoll_run
    : Run (Step anyBody) (.new ()) [.beginLock 0, .checkToken 0, .take 0, .select 0]
        aboutToPoll := by
  apply Run.cons
  · exact ⟨rfl, rfl⟩
  apply Run.cons
  · exact ⟨rfl, rfl⟩
  apply Run.cons
  · exact ⟨rfl, rfl⟩
  apply Run.cons
  · exact ⟨(), rfl, rfl⟩
  exact .nil

end Stream

end Tlsurl.Core
