import Tlsurl.Core.Stream

/-! A WebSocket (`tlsurl-core/websocket.rs`) under concurrent calls.
Its two halves lie behind two locks. Each call advances in the atomic steps of its code, among
them the looks that each poll of a bounded operation takes at the tokens before it goes on.
-/

namespace Tlsurl.Core.WebSocket

open Library

-----------------------------------------------------------------------------------------
-- Messages and errors
-----------------------------------------------------------------------------------------

/-- `CloseFrame` -/
structure CloseFrame where
  code : UInt16
  reason : String
  deriving DecidableEq

/-- `Message` -/
inductive Message where
  | text (content : String)
  | binary (data : Bytes)
  | ping (data : Bytes)
  | pong (data : Bytes)
  | close (frame : Option CloseFrame)
  deriving DecidableEq

def Message.isClose : Message → Bool
  | .close _ => true
  | _ => false

/-- A message that `send` makes. It is never a Close frame. -/
abbrev Outgoing := { message : Message // message.isClose = false }

/-- `WebSocketMessage` -/
structure WebSocketMessage where
  kind : String
  data : Bytes
  code : Option UInt16
  deriving DecidableEq

/-- `closed` -/
def closed : Error := { code := "CLOSED", message := "websocket is closed" }

/-- `invalid` -/
def invalid (message : String) : Error := { code := "INVALID_REQUEST", message }

/-- The error of an operation that runs into its timeout. -/
def timedOut : Error := { code := "TIMEOUT", message := "websocket operation timed out" }

/-- The bytes of a text. -/
def utf8 (text : String) : Bytes := text.toUTF8.toList

/-- The message that `send` makes of its arguments. -/
def messageOf (maxMessageBytes : Nat) (kind : String) (data : Bytes) : Except Error Outgoing :=
  if data.length > maxMessageBytes then .error (invalid "message exceeds max_message_bytes")
  else if (kind = "ping" ∨ kind = "pong") ∧ data.length > 125 then
    .error (invalid "control payload exceeds 125 bytes")
  else match kind with
    | "text" =>
        match String.fromUTF8? ⟨data.toArray⟩ with
        | some content => .ok ⟨.text content, rfl⟩
        | none => .error (invalid "text must be UTF-8")
    | "binary" => .ok ⟨.binary data, rfl⟩
    | "ping" => .ok ⟨.ping data, rfl⟩
    | "pong" => .ok ⟨.pong data, rfl⟩
    | _ => .error (invalid "unknown websocket message kind")

/-- What `recv` returns for a message. -/
def Message.view : Message → WebSocketMessage
  | .text content => { kind := "text", data := utf8 content, code := none }
  | .binary data => { kind := "binary", data, code := none }
  | .ping data => { kind := "ping", data, code := none }
  | .pong data => { kind := "pong", data, code := none }
  | .close frame =>
      { kind := "close", data := frame.elim [] (fun frame => utf8 frame.reason)
        code := frame.map CloseFrame.code }

/-- Whether `close` accepts its arguments. -/
def CloseFrame.valid (frame : CloseFrame) : Bool :=
  let code := frame.code.toNat
  ((1000 ≤ code && code ≤ 1003) || (1007 ≤ code && code ≤ 1014) || (3000 ≤ code && code ≤ 4999))
    && frame.reason.utf8ByteSize ≤ 123

-----------------------------------------------------------------------------------------
-- Calls
-----------------------------------------------------------------------------------------

/-- A half of the socket, and the lock it lies behind. -/
inductive Side where
  | tx
  | rx
  deriving DecidableEq

/-- What a call can do with a half of the socket: hand a message to the sink, receive one,
flush the reply to a received one, hand the Close frame to the sink, or read up to the Close
frame of the peer.
-/
inductive Job where
  | send (message : Outgoing)
  | next
  | flush (message : Message)
  | handClose (frame : CloseFrame)
  | awaitClose
  deriving DecidableEq

def Job.side : Job → Side
  | .send _ => .tx
  | .next => .rx
  | .flush _ => .tx
  | .handClose _ => .tx
  | .awaitClose => .rx

/-- Whether the job runs under `operation`, which looks at `closing`. -/
def Job.looks : Job → Bool
  | .send _ => true
  | .next => true
  | _ => false

/-- The message that the job hands to the sink. -/
def Job.gives : Job → Option Message
  | .send message => some message.val
  | .handClose frame => some (.close (some frame))
  | _ => none

/-- How far a job is: its lock not asked for, waited for, or had; its message being taken by
the sink, then flushed; or a message being read.
-/
inductive Hold where
  | fresh
  | queued
  | got
  | feeding
  | flushing
  | reading
  deriving DecidableEq

/-- Where a job is with respect to its lock. Past it, the job has a `SocketGuard`. -/
def Hold.station : Hold → Station
  | .fresh => .away
  | .queued => .waiting
  | _ => .inside

/-- What a job does first with its half of the socket. -/
def Job.begin : Job → Hold
  | .send _ => .feeding
  | .next => .reading
  | .flush _ => .flushing
  | .handClose _ => .feeding
  | .awaitClose => .reading

/-- What a job ends with; a job that receives nothing ends with `ok none`. -/
abbrev Outcome := Except Error (Option Message)

/-- What a call returns; a call that returns no message returns `ok none`. -/
abbrev Result := Except Error (Option WebSocketMessage)

/-- The steps of `abort`. -/
inductive AbortStep where
  | cancel
  | tryLock (side : Side)
  | clear (side : Side)
  | unlock (side : Side)
  deriving DecidableEq

/-- Where a call is. A poll begins with `polling`, may look at `closing`, goes to work, and if
that is pending looks at the timer; the call is then suspended, and can be dropped. A guard is
dropped in three steps: `checking`, `emptying` if the token is cancelled, and `unlocking`. A
call that aborted ends with `aborted`.
-/
inductive Phase where
  | uncalled
  | sending (kind : String) (data : Bytes)
  | receiving
  | closing (frame : CloseFrame)
  | closingStill (frame : CloseFrame)
  | announcing (frame : CloseFrame)
  | polling (job : Job) (hold : Hold)
  | looking (job : Job) (hold : Hold)
  | working (job : Job) (hold : Hold)
  | timing (job : Job) (hold : Hold)
  | suspended (job : Job) (hold : Hold)
  | checking (side : Side) (next : Phase)
  | emptying (side : Side) (next : Phase)
  | unlocking (side : Side) (next : Phase)
  | ending (message : Option Message)
  | aborting (step : AbortStep) (result : Result)
  | returned (result : Result)
  | aborted (result : Result)
  | dropped

/-- `operation` aborts after an error other than `CLOSED`. -/
def afterError (error : Error) : Phase :=
  if error.code ≠ "CLOSED" then .aborting .cancel (.error error) else .returned (.error error)

/-- How a call goes on after a job. -/
def Job.after : Job → Outcome → Phase
  | .send _, .ok _ => .returned (.ok none)
  | .send _, .error error => afterError error
  | .next, .error error => afterError error
  | .next, .ok none => .ending none
  | .next, .ok (some (.ping data)) => .polling (.flush (.ping data)) .fresh
  | .next, .ok (some (.close frame)) => .polling (.flush (.close frame)) .fresh
  | .next, .ok (some message) => .returned (.ok (some message.view))
  | .flush (.close frame), .ok _ => .ending (some (.close frame))
  | .flush message, .ok _ => .returned (.ok (some message.view))
  | .flush _, .error error => .aborting .cancel (.error error)
  | .handClose _, .ok _ => .working .awaitClose .fresh
  | .handClose _, .error error => .aborting .cancel (.error error)
  | .awaitClose, .ok _ => .aborting .cancel (.ok none)
  | .awaitClose, .error error => .aborting .cancel (.error error)

/-- A call as it is made. -/
inductive Call where
  | send (kind : String) (data : Bytes)
  | recv
  | close (frame : CloseFrame)
  | abort

/-- `WebSocket` with the calls made on it; `full` tells whether a half is in its slot. -/
structure State where
  full : Side → Bool := fun _ => true
  locks : Side → FairLock Nat := fun _ => .free
  cancellation : Bool := false
  closing : Bool := false
  maxMessageBytes : Nat
  phase : Nat → Phase := fun _ => .uncalled

namespace State

def setPhase (state : State) (id : Nat) (phase : Phase) : State :=
  { state with phase := Function.update state.phase id phase }

def setLock (state : State) (side : Side) (lock : FairLock Nat) : State :=
  { state with locks := Function.update state.locks side lock }

/-- A slot is emptied. -/
def clear (state : State) (side : Side) : State :=
  { state with full := Function.update state.full side false }

/-- A call gives a lock back, or gives up waiting for it. -/
def leave (state : State) (side : Side) (id : Nat) : State :=
  state.setLock side ((state.locks side).leave id)

/-- A call begins; `close` checks its arguments first. -/
def begin (state : State) (id : Nat) : Call → State
  | .send kind data => state.setPhase id (.sending kind data)
  | .recv => state.setPhase id .receiving
  | .close frame =>
      if frame.valid then state.setPhase id (.closing frame)
      else
        state.setPhase id (.returned (.error
          (invalid "invalid close code or reason longer than 123 UTF-8 bytes")))
  | .abort => state.setPhase id (.aborting .cancel (.ok none))

/-- The look at `closing` with which `send` begins, before it checks its arguments. -/
def lookSend (state : State) (id : Nat) (kind : String) (data : Bytes) : State :=
  state.setPhase id
    (if state.closing then .returned (.error closed)
    else match messageOf state.maxMessageBytes kind data with
      | .ok message => .polling (.send message) .fresh
      | .error error => .returned (.error error))

/-- The look at `closing` with which `recv` begins -/
def lookRecv (state : State) (id : Nat) : State :=
  state.setPhase id (if state.closing then .returned (.error closed) else .polling .next .fresh)

/-- `self.closing.is_cancelled()` in `close` -/
def lookClose (state : State) (id : Nat) (frame : CloseFrame) : State :=
  state.setPhase id (if state.closing then .returned (.ok none) else .closingStill frame)

/-- `self.cancellation.is_cancelled()` in `close` -/
def lookStill (state : State) (id : Nat) (frame : CloseFrame) : State :=
  state.setPhase id (if state.cancellation then .returned (.ok none) else .announcing frame)

/-- `self.closing.cancel()` in `close` -/
def announce (state : State) (id : Nat) (frame : CloseFrame) : State :=
  { state with closing := true }.setPhase id (.polling (.handClose frame) .fresh)

/-- A job is over: it gives up its place in line, or its guard is dropped, before the call goes
on.
-/
def letGo (state : State) (id : Nat) (job : Job) (hold : Hold) (next : Phase) : State :=
  match hold.station with
  | .away => state.setPhase id next
  | .waiting => (state.leave job.side id).setPhase id next
  | .inside => state.setPhase id (.checking job.side next)

/-- The first branch of `cancellable` -/
def lookCancelled (state : State) (id : Nat) (job : Job) (hold : Hold) : State :=
  if state.cancellation then state.letGo id job hold (job.after (.error cancelled))
  else state.setPhase id (if job.looks then .looking job hold else .working job hold)

/-- The first branch of `operation` -/
def lookClosing (state : State) (id : Nat) (job : Job) (hold : Hold) : State :=
  if state.closing then state.letGo id job hold (job.after (.error closed))
  else state.setPhase id (.working job hold)

/-- `self.tx.lock()` or `self.rx.lock()`, polled for the first time -/
def lock (state : State) (id : Nat) (job : Job) : State :=
  match (state.locks job.side).tryLock id with
  | some lock => (state.setLock job.side lock).setPhase id (.working job .got)
  | none =>
      (state.setLock job.side ((state.locks job.side).join id)).setPhase id (.timing job .queued)

/-- `as_mut().ok_or_else(closed)?` -/
def openSlot (state : State) (id : Nat) (job : Job) : State :=
  if state.full job.side then state.setPhase id (.working job job.begin)
  else state.letGo id job .got (job.after (.error closed))

/-- The half of the socket has answered; `none` is not ready. -/
def answer (state : State) (id : Nat) (job : Job) (hold : Hold) (outcome : Option Outcome)
    : State :=
  match outcome with
  | none => state.setPhase id (.timing job hold)
  | some outcome => state.letGo id job hold (job.after outcome)

/-- A message was read, or the end, or an error; `close` reads on up to a Close frame. -/
def read (state : State) (id : Nat) (job : Job) (outcome : Option Outcome) : State :=
  match job, outcome with
  | .awaitClose, some (.ok (some (.close _))) => state.answer id job .reading outcome
  | .awaitClose, some (.ok (some _)) => state.setPhase id (.working job .reading)
  | job, outcome => state.answer id job .reading outcome

/-- `Drop for SocketGuard` -/
def check (state : State) (id : Nat) (side : Side) (next : Phase) : State :=
  state.setPhase id (if state.cancellation then .emptying side next else .unlocking side next)

/-- How `abort` goes on after a slot -/
def afterSide (side : Side) (result : Result) : Phase :=
  match side with
  | .tx => .aborting (.tryLock .rx) result
  | .rx => .aborted result

/-- One step of `abort` -/
def abort (state : State) (id : Nat) (step : AbortStep) (result : Result) : State :=
  match step with
  | .cancel =>
      { state with cancellation := true }.setPhase id (.aborting (.tryLock .tx) result)
  | .tryLock side =>
      match (state.locks side).tryLock id with
      | some lock => (state.setLock side lock).setPhase id (.aborting (.clear side) result)
      | none => state.setPhase id (afterSide side result)
  | .clear side => (state.clear side).setPhase id (.aborting (.unlock side) result)
  | .unlock side => (state.leave side id).setPhase id (afterSide side result)

end State

/-- What can happen. `hand` is the sink taking the message of a call. -/
inductive Event where
  | call (id : Nat) (call : Call)
  | look (id : Nat)
  | lookStill (id : Nat)
  | announce (id : Nat)
  | lookCancelled (id : Nat)
  | lookClosing (id : Nat)
  | lock (id : Nat)
  | granted (id : Nat)
  | blocked (id : Nat)
  | openSlot (id : Nat)
  | feed (id : Nat) (failure : Option Error)
  | hand (id : Nat) (message : Message)
  | flush (id : Nat) (outcome : Option (Except Error Unit))
  | read (id : Nat) (outcome : Option Outcome)
  | suspend (id : Nat)
  | timeout (id : Nat)
  | wake (id : Nat)
  | drop (id : Nat)
  | check (id : Nat)
  | empty (id : Nat)
  | unlock (id : Nat)
  | finish (id : Nat)
  | abort (id : Nat)

/-- One step. What the halves answer and when a timer elapses is up to the environment. -/
def Step (state : State) : Event → State → Prop
  | .call id call, next => state.phase id = .uncalled ∧ next = state.begin id call
  | .look id, next =>
      (∃ kind data, state.phase id = .sending kind data ∧ next = state.lookSend id kind data)
        ∨ (state.phase id = .receiving ∧ next = state.lookRecv id)
        ∨ ∃ frame, state.phase id = .closing frame ∧ next = state.lookClose id frame
  | .lookStill id, next =>
      ∃ frame, state.phase id = .closingStill frame ∧ next = state.lookStill id frame
  | .announce id, next =>
      ∃ frame, state.phase id = .announcing frame ∧ next = state.announce id frame
  | .lookCancelled id, next =>
      ∃ job hold, state.phase id = .polling job hold ∧ next = state.lookCancelled id job hold
  | .lookClosing id, next =>
      ∃ job hold, state.phase id = .looking job hold ∧ next = state.lookClosing id job hold
  | .lock id, next => ∃ job, state.phase id = .working job .fresh ∧ next = state.lock id job
  | .granted id, next =>
      ∃ job, state.phase id = .working job .queued ∧ (state.locks job.side).holder = some id
        ∧ next = state.setPhase id (.working job .got)
  | .blocked id, next =>
      ∃ job, state.phase id = .working job .queued ∧ (state.locks job.side).holder ≠ some id
        ∧ next = state.setPhase id (.timing job .queued)
  | .openSlot id, next => ∃ job, state.phase id = .working job .got ∧ next = state.openSlot id job
  | .feed id failure, next =>
      ∃ job, state.phase id = .working job .feeding
        ∧ next = state.answer id job .feeding (failure.map Except.error)
  | .hand id message, next =>
      ∃ job, state.phase id = .working job .feeding ∧ job.gives = some message
        ∧ next = state.setPhase id (.working job .flushing)
  | .flush id outcome, next =>
      ∃ job, state.phase id = .working job .flushing
        ∧ next = state.answer id job .flushing (outcome.map (Except.map (fun _ => none)))
  | .read id outcome, next =>
      ∃ job, state.phase id = .working job .reading ∧ next = state.read id job outcome
  | .suspend id, next =>
      ∃ job hold, state.phase id = .timing job hold ∧ next = state.setPhase id (.suspended job hold)
  | .timeout id, next =>
      ∃ job hold, state.phase id = .timing job hold
        ∧ next = state.letGo id job hold (job.after (.error timedOut))
  | .wake id, next =>
      ∃ job hold, state.phase id = .suspended job hold
        ∧ next = state.setPhase id (.polling job hold)
  | .drop id, next =>
      ∃ job hold, state.phase id = .suspended job hold
        ∧ next = state.letGo id job hold .dropped
  | .check id, next =>
      ∃ side after, state.phase id = .checking side after ∧ next = state.check id side after
  | .empty id, next =>
      ∃ side after, state.phase id = .emptying side after
        ∧ next = (state.clear side).setPhase id (.unlocking side after)
  | .unlock id, next =>
      ∃ side after, state.phase id = .unlocking side after
        ∧ next = (state.leave side id).setPhase id after
  | .finish id, next =>
      ∃ message, state.phase id = .ending message
        ∧ next = { state with closing := true }.setPhase id
          (.aborting .cancel (.ok (message.map Message.view)))
  | .abort id, next =>
      ∃ step result, state.phase id = .aborting step result ∧ next = state.abort id step result

-----------------------------------------------------------------------------------------
-- A sample
-----------------------------------------------------------------------------------------

/-- A message of one byte is sent. -/
def sampleJob : Job := .send ⟨.binary [1], rfl⟩

/-- A call has handed its message to the sink, which it has yet to flush. -/
def handedOver : State :=
  let looked := ((({ maxMessageBytes := 16 } : State).begin 0 (.send "binary" [1])).lookSend 0
    "binary" [1]).lookCancelled 0 sampleJob .fresh
  let locked := (looked.lookClosing 0 sampleJob .fresh).lock 0 sampleJob
  (locked.openSlot 0 sampleJob).setPhase 0 (.working sampleJob .flushing)

/-- The events of it. -/
def handOver : List Event :=
  [.call 0 (.send "binary" [1]), .look 0, .lookCancelled 0, .lookClosing 0, .lock 0, .openSlot 0,
    .hand 0 (.binary [1])]

theorem handedOver_run : Run Step { maxMessageBytes := 16 } handOver handedOver := by
  apply Run.cons
  · exact ⟨rfl, rfl⟩
  apply Run.cons
  · exact .inl ⟨_, _, rfl, rfl⟩
  apply Run.cons
  · exact ⟨_, _, rfl, rfl⟩
  apply Run.cons
  · exact ⟨_, _, rfl, rfl⟩
  apply Run.cons
  · exact ⟨_, rfl, rfl⟩
  apply Run.cons
  · exact ⟨_, rfl, rfl⟩
  apply Run.cons
  · exact ⟨_, rfl, rfl, rfl⟩
  exact .nil

end Tlsurl.Core.WebSocket
