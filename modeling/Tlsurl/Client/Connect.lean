import Tlsurl.Pool.System

/-! How a request gets its connection (`one_connection_for` and `connect_to` of
`layer/client.rs`), for any number of requests over one pool.
A task polls the checkout and then the connect future; the operations on the pool inside a poll
are steps of their own, between which other tasks may run.
-/

namespace Tlsurl.Client

open Library
open Pool (Ver Outcome ChanId Time)

variable {K : Type} [DecidableEq K]

/-- `ErrorKind`, as far as getting a connection makes it. -/
inductive ErrorKind where
  | canceled
  | connect
  | proxyConnect
  | sendRequest
  deriving DecidableEq

/-- `Error`; the source is kept where it is an error of the pool. -/
structure Error where
  kind : ErrorKind
  source : Option Pool.Error := none
  deriving DecidableEq

/-- `Error::new`; `proxy` tells whether the cause is one of a proxy. -/
def Error.new (kind : ErrorKind) (proxy : Bool) : Error :=
  { kind := if proxy then .proxyConnect else kind }

/-- `Error::is_canceled` -/
def Error.isCanceled (error : Error) : Bool := error.kind = .canceled

/-- `pool::Error::is_canceled` -/
def isCanceled : Pool.Error → Bool
  | .checkedOutClosedValue => true
  | _ => false

/-- `ClientConnectError` -/
inductive ClientConnectError where
  | normal (error : Error)
  | checkoutIsClosed (reason : Pool.Error)
  deriving DecidableEq

/-- What the connector yields when it is polled; a connection comes with whether it negotiated
HTTP/2.
-/
inductive Connector where
  | pending
  | failed (proxy : Bool)
  | connected (negotiatedH2 : Bool)

/-- What the handshake yields when it is polled; a connection may have closed already. -/
inductive Handshake where
  | pending
  | failed
  | ready (ready poisoned : Bool)

/-- The lazy future of `connect_to`: not started; waiting for the connector with a `Connecting`;
in the handshake, of HTTP/2 or not; or done or dropped.
-/
inductive Connect where
  | init
  | connecting (token : Nat)
  | handshaking (token : Nat) (http2 : Bool)
  | spent
  deriving DecidableEq

/-- `Started::started` -/
def Connect.started : Connect → Bool
  | .init => false
  | _ => true

/-- The `Connecting` that a connect future holds. -/
def Connect.token? : Connect → Option Nat
  | .connecting token => some token
  | .handshaking token _ => some token
  | _ => none

/-- Where `one_connection_for` is: about to poll the checkout of its `select`; with a pending
checkout, in the same poll, at the connect future; waiting for one of the two alone; over; or
dropped by its caller. A connection is given by the number of its handle.
-/
inductive Stage where
  | selecting
  | connecting
  | awaitingConnect
  | awaitingCheckout
  | done (result : Except ClientConnectError Nat)
  | abandoned

/-- A call of `one_connection_for`. Its checkout has the same number. -/
structure Request (K : Type) where
  key : K
  ver : Ver
  connect : Connect := .init
  stage : Stage

namespace Request

variable (request : Request K)

/-- Whether the connect future is polled: in the `select`, alone, or in the background after the
checkout has won.
-/
def connects : Bool :=
  match request.stage with
  | .connecting => true
  | .awaitingConnect => true
  | .done (.ok _) => true
  | _ => false

/-- Whether nobody polls the two futures any more. -/
def finished : Bool :=
  match request.stage with
  | .done _ => true
  | .abandoned => true
  | _ => false

/-- The checkout was polled. In the `select` a connection sends a connect future that has
started to the background; `handle` is the number of the handle.
-/
def checkedOut (isVerH2 : Bool) (handle : Nat) (outcome : Outcome) : Request K :=
  match request.stage, outcome with
  | .selecting, .pending => { request with stage := .connecting }
  | .selecting, .ok _ _ =>
      { request with
        connect := if request.connect.started then request.connect else .spent
        stage := .done (.ok handle) }
  | .selecting, .err error =>
      if isCanceled error then { request with stage := .awaitingConnect }
      else { request with stage := .done (.error (.normal ⟨.connect, some error⟩)) }
  | .awaitingCheckout, .ok _ _ => { request with stage := .done (.ok handle) }
  | .awaitingCheckout, .err error =>
      if isVerH2 && isCanceled error then
        { request with stage := .done (.error (.checkoutIsClosed error)) }
      else { request with stage := .done (.error (.normal ⟨.connect, some error⟩)) }
  | _, _ => request

/-- The connect future is pending, which ends the poll. -/
def suspend : Request K :=
  match request.stage with
  | .connecting => { request with stage := .selecting }
  | _ => request

/-- The connect future is ready. In the `select` a cancelled one leaves the checkout. -/
def settle (result : Except Error Nat) : Request K :=
  match request.stage, result with
  | .connecting, .ok handle => { request with connect := .spent, stage := .done (.ok handle) }
  | .connecting, .error error =>
      if error.isCanceled then { request with connect := .spent, stage := .awaitingCheckout }
      else { request with connect := .spent, stage := .done (.error (.normal error)) }
  | .awaitingConnect, .ok handle =>
      { request with connect := .spent, stage := .done (.ok handle) }
  | .awaitingConnect, .error error =>
      { request with connect := .spent, stage := .done (.error (.normal error)) }
  | _, _ => { request with connect := .spent }

end Request

/-- The pool of a client, its requests, and whether its `config.ver` is HTTP/2. -/
structure State (K : Type) [DecidableEq K] where
  pool : Pool.State K
  isVerH2 : Bool
  requests : Table (Request K) := .empty

namespace State

/-- A client without requests -/
def new (config : Pool.Config) (timerIsEmpty isVerH2 : Bool) : State K where
  pool := .new config timerIsEmpty
  isVerH2 := isVerH2

/-- Whether `Pool::connecting` has a `Connecting` to give. -/
def grants (state : State K) (key : K) (ver : Ver) : Bool :=
  match ver, state.pool.inner with
  | .http2, some inner => key ∉ inner.connecting
  | _, _ => true

/-- The version that `connect_to` uses; `http2` tells whether the request demands HTTP/2. -/
def ver (state : State K) (http2 : Bool) : Ver := if http2 || state.isVerH2 then .http2 else .auto

/-- A call of `one_connection_for`, which without a pool waits for the connect future alone. -/
def call (state : State K) (pool : Pool.State K) (key : K) (http2 : Bool) : State K :=
  let stage := if state.pool.inner.isSome then .selecting else .awaitingConnect
  { state with pool, requests := state.requests.alloc { key, ver := state.ver http2, stage } }

/-- The pool and a request change. -/
def update (state : State K) (pool : Pool.State K) (id : Nat) (request : Request K) : State K :=
  { state with pool, requests := state.requests.set id request }

end State

/-- What can happen. Events of the pool alone come from handles, time, the idle task and the
connections themselves.
-/
inductive Event (K : Type) where
  | call (key : K) (http2 : Bool)
  | pollCheckout (id : Nat) (outcome : Outcome)
  | connect (id : Nat)
  | connector (id : Nat) (answer : Connector)
  | handshake (id : Nat) (closing : ChanId → Bool) (answer : Handshake)
  | abandon (id : Nat)
  | dropConnect (id : Nat)
  | beginDrop (id : Nat)
  | closeReceiver (id : Nat)
  | endDrop (id : Nat)
  | pool (event : Pool.Event K)

/-- Whether an event of the pool is none of a request's. While there are requests the pool has
handles.
-/
def outside : Pool.Event K → Bool
  | .dropPooled _ _ => true
  | .clearExpired => true
  | .setReady _ _ => true
  | .poison _ => true
  | .tick _ => true
  | _ => false

/-- What polling the connector leads to. A connection that negotiated HTTP/2 unforeseen needs
the `Connecting` of HTTP/2.
-/
def ConnectorStep (state : State K) (id : Nat) (request : Request K) (token : Nat)
    : Connector → State K → Prop
  | .pending, next => next = state.update state.pool id request.suspend
  | .failed proxy, next =>
      ∃ pool, Pool.Step state.pool (.dropConnecting token) pool
        ∧ next = state.update pool id (request.settle (.error (.new .connect proxy)))
  | .connected negotiatedH2, next =>
      if negotiatedH2 && request.ver ≠ .http2 then
        ∃ pool, Pool.Step state.pool (.alpnH2 token) pool
          ∧ next = state.update pool id
            (if state.grants request.key .http2 then
              { request with connect := .handshaking state.pool.connectings.size true }
            else request.settle (.error (.new .canceled false)))
      else
        next = state.update state.pool id
          { request with connect := .handshaking token (request.ver = .http2 || negotiatedH2) }

/-- What polling the handshake leads to. A connection is put into the pool. -/
def HandshakeStep (state : State K) (id : Nat) (request : Request K) (token : Nat) (http2 : Bool)
    (closing : ChanId → Bool)
    : Handshake → State K → Prop
  | .pending, next => next = state.update state.pool id request.suspend
  | .failed, next =>
      ∃ pool, Pool.Step state.pool (.dropConnecting token) pool
        ∧ next = state.update pool id (request.settle (.error (.new .sendRequest false)))
  | .ready ready poisoned, next =>
      ∃ pool, Pool.Step state.pool (.pooled closing token http2 ready poisoned) pool
        ∧ next = state.update pool id (request.settle (.ok state.pool.pooleds.size))

/-- One step. Once a request is over, what is left of its two futures is dropped, but for a
connect future in the background.
-/
def Step (state : State K) : Event K → State K → Prop
  | .call key http2, next =>
      ∃ pool, (if state.pool.inner.isSome then Pool.Step state.pool (.checkout key) pool
          else pool = state.pool)
        ∧ next = state.call pool key http2
  | .pollCheckout id outcome, next =>
      ∃ request pool, state.requests.get? id = some request
        ∧ (request.stage matches .selecting | .awaitingCheckout)
        ∧ Pool.Step state.pool (.poll id outcome) pool
        ∧ next = state.update pool id
          (request.checkedOut state.isVerH2 state.pool.pooleds.size outcome)
  | .connect id, next =>
      ∃ request pool, state.requests.get? id = some request
        ∧ request.connects = true ∧ request.connect = .init
        ∧ Pool.Step state.pool (.connecting request.key request.ver) pool
        ∧ next = state.update pool id
          (if state.grants request.key request.ver then
            { request with connect := .connecting state.pool.connectings.size }
          else request.settle (.error ⟨.canceled, none⟩))
  | .connector id answer, next =>
      ∃ request token, state.requests.get? id = some request
        ∧ request.connects = true ∧ request.connect = .connecting token
        ∧ ConnectorStep state id request token answer next
  | .handshake id closing answer, next =>
      ∃ request token http2, state.requests.get? id = some request
        ∧ request.connects = true ∧ request.connect = .handshaking token http2
        ∧ HandshakeStep state id request token http2 closing answer next
  | .abandon id, next =>
      ∃ request, state.requests.get? id = some request
        ∧ (request.stage matches .selecting | .awaitingConnect | .awaitingCheckout)
        ∧ next = state.update state.pool id { request with stage := .abandoned }
  | .dropConnect id, next =>
      ∃ request token pool, state.requests.get? id = some request
        ∧ (request.stage matches .done (.error _) | .abandoned)
        ∧ request.connect.token? = some token
        ∧ Pool.Step state.pool (.dropConnecting token) pool
        ∧ next = state.update pool id { request with connect := .spent }
  | .beginDrop id, next =>
      ∃ request pool, state.requests.get? id = some request ∧ request.finished = true
        ∧ Pool.Step state.pool (.beginDrop id) pool ∧ next = { state with pool }
  | .closeReceiver id, next =>
      ∃ pool, Pool.Step state.pool (.closeReceiver id) pool ∧ next = { state with pool }
  | .endDrop id, next =>
      ∃ pool, Pool.Step state.pool (.endDrop id) pool ∧ next = { state with pool }
  | .pool event, next =>
      ∃ pool, outside event = true ∧ Pool.Step state.pool event pool
        ∧ next = { state with pool }

end Tlsurl.Client
