import Tlsurl.Library.Run

/-! The race of connection attempts (`ConnectingTcpState` of `conn/net/tcp.rs`) and the split of
resolved addresses into families (`dns.rs`).
Futures and timers are polled from outside: a poll may find any of them pending or ready, so every
assignment of outcomes and delays is one of the runs.
-/

namespace Tlsurl.Net

-----------------------------------------------------------------------------------------
-- Addresses
-----------------------------------------------------------------------------------------

/-- `std::net::SocketAddr` -/
inductive SocketAddr where
  | v4 (ip : BitVec 32) (port : UInt16)
  | v6 (ip : BitVec 128) (port : UInt16) (flowinfo scopeId : UInt32)
  deriving DecidableEq

/-- `is_ipv4` -/
def SocketAddr.isIpv4 : SocketAddr → Bool
  | .v4 _ _ => true
  | .v6 _ _ _ _ => false

/-- `is_ipv6` -/
def SocketAddr.isIpv6 : SocketAddr → Bool
  | .v4 _ _ => false
  | .v6 _ _ _ _ => true

/-- `SocketAddrs::split_by_preference` -/
def splitByPreference (addrs : List SocketAddr) (localAddrIpv4 : Option (BitVec 32))
    (localAddrIpv6 : Option (BitVec 128))
    : List SocketAddr × List SocketAddr :=
  match localAddrIpv4, localAddrIpv6 with
  | some _, none => (addrs.filter SocketAddr.isIpv4, [])
  | none, some _ => (addrs.filter SocketAddr.isIpv6, [])
  | _, _ =>
      let preferringV6 := (addrs.head?.map SocketAddr.isIpv6).getD false
      addrs.partition (fun addr => addr.isIpv6 = preferringV6)

-----------------------------------------------------------------------------------------
-- Errors
-----------------------------------------------------------------------------------------

/-- The cause of an error: an `io::Error` of kind `NotConnected`, or any other. -/
inductive Cause (E : Type) where
  | notConnected (text : String)
  | other (error : E)

/-- `ConnectError` -/
structure ConnectError (E : Type) where
  msg : String
  addr : Option SocketAddr := none
  cause : Option (Cause E)

namespace ConnectError

variable {E : Type}

/-- `ConnectError::tcp` -/
def tcp (cause : Cause E) : ConnectError E := { msg := "tcp connect error", cause := some cause }

/-- `ConnectError::network_unreachable` -/
def networkUnreachable : ConnectError E := tcp (.notConnected "Network unreachable")

/-- `ConnectError::with_addr` -/
def withAddr (self : ConnectError E) (addr : SocketAddr) : ConnectError E :=
  { self with addr := some addr }

end ConnectError

-----------------------------------------------------------------------------------------
-- The scheduler
-----------------------------------------------------------------------------------------

/-- `MAX_PARALLEL_CONNECT_ATTEMPTS` -/
def maxParallelConnectAttempts : Nat := 6

/-- `ConnectingTcpAttempt`; its order stands for its future. -/
structure ConnectingTcpAttempt where
  addr : SocketAddr
  order : Nat

/-- `ConnectingTcpState`; `order` stays far below the bound of `usize`, as a vector of addresses
does, and when the first delay began does not matter where timers may fire at any poll.
-/
structure ConnectingTcpState (E : Type) where
  preferred : List SocketAddr
  fallback : Option (List SocketAddr)
  nextFallback : Bool := false
  happyEyeballsTimeout : Option Nat
  attempts : List ConnectingTcpAttempt := []
  nextAttemptOrder : Nat := 0
  firstError : Option (Nat × ConnectError E) := none

/-- What the source logs, with the order of the attempt -/
inductive Log (C E : Type) where
  | connecting (order : Nat) (addr : SocketAddr)
  | failed (order : Nat) (error : ConnectError E)
  | connected (order : Nat) (connection : C)
  | canceled (order : Nat) (addr : SocketAddr)

/-- The result of `connect` before its future: an error if the socket cannot be set up. -/
abbrev Setup (E : Type) := Nat → SocketAddr → Option (ConnectError E)

/-- What polling a connection future yields -/
inductive Poll (C E : Type) where
  | pending
  | ready (result : Except E C)

/-- What the polls of `poll_attempts` leave: the active attempts, the error kept, whether one
failed, and the connection of the first that succeeded.
-/
structure Polled (C E : Type) where
  attempts : List ConnectingTcpAttempt
  firstError : Option (Nat × ConnectError E)
  failed : Bool := false
  connected : Option C := none
  log : List (Log C E) := []

/-- `record_error` -/
def recordError {E : Type} (firstError : Option (Nat × ConnectError E)) (order : Nat)
    (error : ConnectError E)
    : Option (Nat × ConnectError E) :=
  match firstError with
  | some (firstOrder, first) =>
      if firstOrder ≤ order then some (firstOrder, first) else some (order, error)
  | none => some (order, error)

/-- The loop of `poll_attempts`, which removes what is ready and ends with a success -/
def pollLoop {C E : Type} (yields : Nat → Poll C E) (firstError : Option (Nat × ConnectError E))
    : List ConnectingTcpAttempt → Polled C E
  | [] => { attempts := [], firstError }
  | attempt :: rest =>
      match yields attempt.order with
      | .pending =>
          let later := pollLoop yields firstError rest
          { later with attempts := attempt :: later.attempts }
      | .ready (.ok connection) =>
          { attempts := rest
            firstError
            connected := some connection
            log := [.connected attempt.order connection] }
      | .ready (.error error) =>
          let error := (ConnectError.tcp (.other error)).withAddr attempt.addr
          let later := pollLoop yields (recordError firstError attempt.order error) rest
          { later with failed := true, log := .failed attempt.order error :: later.log }

namespace ConnectingTcpState

variable {C E : Type}

/-- `ConnectingTcp::new` and `ConnectingTcpState::new` -/
def new (addrs : List SocketAddr) (localAddrIpv4 : Option (BitVec 32))
    (localAddrIpv6 : Option (BitVec 128)) (happyEyeballsTimeout : Option Nat)
    : ConnectingTcpState E :=
  match happyEyeballsTimeout with
  | none => { preferred := addrs, fallback := none, happyEyeballsTimeout }
  | some _ =>
      match splitByPreference addrs localAddrIpv4 localAddrIpv6 with
      | (preferred, fallback) =>
          { preferred
            fallback := if fallback.isEmpty then none else some fallback
            happyEyeballsTimeout }

/-- `has_remaining_addrs` -/
def hasRemainingAddrs (self : ConnectingTcpState E) : Bool :=
  !self.preferred.isEmpty || self.fallback.any (fun fallback => !fallback.isEmpty)

/-- `next_remote`: whether the next address comes from the fallback, if there is one. -/
def nextRemote (self : ConnectingTcpState E) : Option (Bool × ConnectingTcpState E) :=
  let hasPreferred := !self.preferred.isEmpty
  let hasFallback := self.fallback.any (fun fallback => !fallback.isEmpty)
  let useFallback := match self.nextFallback, hasPreferred, hasFallback with
    | _, false, false => none
    | true, _, true => some true
    | _, false, true => some true
    | _, _, _ => some false
  useFallback.map (fun useFallback => (useFallback, { self with nextFallback := !useFallback }))

/-- The address that `connect_next` takes from a family -/
def takeAddr (self : ConnectingTcpState E) (useFallback : Bool)
    : Option (SocketAddr × ConnectingTcpState E) :=
  if useFallback then
    match self.fallback with
    | some (addr :: rest) => some (addr, { self with fallback := some rest })
    | _ => none
  else
    match self.preferred with
    | addr :: rest => some (addr, { self with preferred := rest })
    | [] => none

/-- The loop of `launch_next`, of at most as many turns as there are addresses; a family that
`next_remote` chooses has one.
-/
def launchLoop (setup : Setup E) (self : ConnectingTcpState E)
    : Nat → Bool × ConnectingTcpState E × List (Log C E)
  | 0 => (false, self, [])
  | turns + 1 =>
      match self.nextRemote with
      | none => (false, self, [])
      | some (useFallback, self) =>
          match self.takeAddr useFallback with
          | none => self.launchLoop setup turns
          | some (addr, self) =>
              let order := self.nextAttemptOrder
              let self := { self with nextAttemptOrder := self.nextAttemptOrder + 1 }
              match setup order addr with
              | none =>
                  (true, { self with attempts := self.attempts ++ [⟨addr, order⟩] },
                    [.connecting order addr])
              | some error =>
                  let error := error.withAddr addr
                  match { self with
                      firstError := recordError self.firstError order error }.launchLoop
                        setup turns with
                  | (launched, self, log) =>
                      (launched, self, .connecting order addr :: .failed order error :: log)

/-- `launch_next` -/
def launchNext (setup : Setup E) (self : ConnectingTcpState E)
    : Bool × ConnectingTcpState E × List (Log C E) :=
  self.launchLoop setup (self.preferred.length + (self.fallback.getD []).length)

/-- `make_room_for_next_attempt` -/
def makeRoomForNextAttempt (self : ConnectingTcpState E)
    : ConnectingTcpState E × List (Log C E) :=
  if self.attempts.length < maxParallelConnectAttempts then (self, [])
  else
    match self.attempts with
    | attempt :: rest =>
        ({ self with attempts := rest }, [.canceled attempt.order attempt.addr])
    | [] => (self, [])

/-- `take_error` -/
def takeError (self : ConnectingTcpState E) : ConnectError E × ConnectingTcpState E :=
  ((self.firstError.map Prod.snd).getD .networkUnreachable, { self with firstError := none })

end ConnectingTcpState

-----------------------------------------------------------------------------------------
-- The loop
-----------------------------------------------------------------------------------------

/-- Where `connect_inner` is: at an `await`, with a timer or not, or done. -/
inductive Phase (C E : Type) where
  | waiting (sleeping : Bool)
  | returned (result : Except (ConnectError E) C)

/-- `connect_inner` with what it has logged -/
structure Race (C E : Type) where
  state : ConnectingTcpState E
  phase : Phase C E
  log : List (Log C E)

namespace Race

variable {C E : Type}

/-- The head of the loop, up to the `await` -/
def enter (setup : Setup E) (state : ConnectingTcpState E) (log : List (Log C E)) : Race C E :=
  let awaits (state : ConnectingTcpState E) (log : List (Log C E)) : Race C E :=
    { state
      phase := .waiting (state.happyEyeballsTimeout.isSome && state.hasRemainingAddrs)
      log }
  if state.attempts.isEmpty then
    match state.launchNext setup with
    | (true, state, launched) => awaits state (log ++ launched)
    | (false, state, launched) =>
        match state.takeError with
        | (error, state) => { state, phase := .returned (.error error), log := log ++ launched }
  else awaits state log

/-- The end of the loop: the next candidate is launched. -/
def next (setup : Setup E) (state : ConnectingTcpState E) (log : List (Log C E)) : Race C E :=
  match state.launchNext setup with
  | (_, state, launched) => enter setup state (log ++ launched)

/-- `connect_inner` up to its first `await` -/
def start (setup : Setup E) (state : ConnectingTcpState E) : Race C E := enter setup state []

/-- A poll of the future that is awaited: `yields` tells what each connection future yields,
and `slept` whether the timer is ready.
-/
def poll (setup : Setup E) (race : Race C E) (sleeping : Bool) (yields : Nat → Poll C E)
    (slept : Bool)
    : Race C E :=
  let polled := pollLoop yields race.state.firstError race.state.attempts
  let state :=
    { race.state with attempts := polled.attempts, firstError := polled.firstError }
  let log := race.log ++ polled.log
  match polled.connected with
  | some connection => { state, phase := .returned (.ok connection), log }
  | none =>
      if polled.failed && polled.attempts.isEmpty then next setup state log
      else if sleeping && slept then
        match state.makeRoomForNextAttempt with
        | (state, canceled) => next setup state (log ++ canceled)
      else { state, phase := .waiting sleeping, log }

end Race

/-- A poll: what each future yields, and whether the timer is ready. -/
structure Tick (C E : Type) where
  yields : Nat → Poll C E
  slept : Bool

/-- One poll of `connect_inner` -/
def Step {C E : Type} (setup : Setup E) (race : Race C E) (tick : Tick C E) (after : Race C E)
    : Prop :=
  ∃ sleeping, race.phase = .waiting sleeping
    ∧ after = race.poll setup sleeping tick.yields tick.slept

end Tlsurl.Net
