import Mathlib.Data.Finset.Basic
import Tlsurl.Library.Lru
import Tlsurl.Library.Table

/-! The state behind the lock of the connection pool (`layer/client/pool.rs`).
Connections and oneshot channels are numbered; what is known about them lives in tables that
the operations under the lock read and write.
-/

namespace Tlsurl.Pool

open Library

/-- A connection; handles to it share the number and thereby the poison flag. -/
abbrev ConnId := Nat

/-- A oneshot channel. -/
abbrev ChanId := Nat

/-- `Instant` and `Duration` in nanoseconds. -/
abbrev Time := Nat

/-- `PoolClient` with what the pool asks of it: whether its dispatcher is ready, whether it is
poisoned, and whether it speaks HTTP/2. `key` is the one it was opened for.
-/
structure Conn (K : Type) where
  key : K
  http2 : Bool
  ready : Bool
  poisoned : Bool

/-- `Poolable::is_open` -/
def Conn.isOpen {K : Type} (conn : Conn K) : Bool := !conn.poisoned && conn.ready

/-- A receiver is closed by dropping it; between the start of the drop and the close a sender
may still find it open.
-/
inductive Receiver where
  | alive
  | dropping
  | closed
  deriving DecidableEq

/-- A oneshot channel that a checkout of `key` has made: the value sent and not yet received,
and whether the sender still exists unused.
-/
structure Chan (K : Type) where
  key : K
  receiver : Receiver := .alive
  value : Option ConnId := none
  sender : Bool := true

/-- `Idle` -/
structure Idle where
  idleAt : Time
  value : ConnId
  deriving DecidableEq

/-- `Config` -/
structure Config where
  idleTimeout : Option Time
  maxIdlePerHost : Nat
  maxPoolSize : Option ℕ+

/-- `Config::is_enabled` -/
def Config.isEnabled (config : Config) : Bool := config.maxIdlePerHost > 0

/-- `PoolInner`; of the executor and the timer only whether the timer is empty matters. -/
structure PoolInner (K : Type) [DecidableEq K] where
  connecting : Finset K
  idle : LruCache K (List Idle)
  maxIdlePerHost : Nat
  waiters : AssocMap K (List ChanId)
  idleIntervalRef : Bool
  timerIsEmpty : Bool
  timeout : Option Time

/-- `Expiration::expires` -/
def expires (expiration : Option Time) (instant now : Time) : Bool :=
  match expiration with
  | some timeout => now - instant > timeout
  | none => false

-----------------------------------------------------------------------------------------
-- Channels
-----------------------------------------------------------------------------------------

section Channels

variable {K : Type}

/-- `Sender::is_closed` -/
def isClosed (chans : Table (Chan K)) (tx : ChanId) : Bool :=
  (chans.get? tx).all (fun chan => chan.receiver = .closed)

/-- `Sender::send`: it fails when the receiver is closed, which `closing` may have happened to
a receiver that is being dropped.
-/
def send (closing : ChanId → Bool) (chans : Table (Chan K)) (tx : ChanId) (value : ConnId)
    : Bool × Table (Chan K) :=
  match chans.get? tx with
  | none => (false, chans)
  | some chan =>
      if chan.receiver = .closed ∨ (chan.receiver = .dropping ∧ closing tx = true) then
        (false, chans.set tx { chan with receiver := .closed, sender := false })
      else (true, chans.set tx { chan with value := some value, sender := false })

/-- Drops a sender. -/
def dropSender (chans : Table (Chan K)) (tx : ChanId) : Table (Chan K) :=
  match chans.get? tx with
  | none => chans
  | some chan => chans.set tx { chan with sender := false }

/-- Drops the senders of a queue. -/
def dropSenders (chans : Table (Chan K)) (queue : List ChanId) : Table (Chan K) :=
  queue.foldl dropSender chans

/-- The loop of `PoolInner::put` over the waiters of a key: the waiters left, the value if it
was not given away, and the channels. A shared value is sent to every open waiter and kept.
-/
def deliver (closing : ChanId → Bool) (shared : Bool) (value : ConnId)
    : List ChanId → Table (Chan K) → List ChanId × Option ConnId × Table (Chan K)
  | [], chans => ([], some value, chans)
  | tx :: waiters, chans =>
      if isClosed chans tx then deliver closing shared value waiters chans
      else match send closing chans tx value with
        | (true, chans) =>
            if shared then deliver closing shared value waiters chans
            else (waiters, none, chans)
        | (false, chans) => deliver closing shared value waiters chans

end Channels

-----------------------------------------------------------------------------------------
-- Idle lists
-----------------------------------------------------------------------------------------

/-- `IdlePopper::pop` on a list from its back to its front. -/
def popBack (isOpen shared : ConnId → Bool) (expiration : Option Time) (now : Time)
    : List Idle → Option Idle × List Idle
  | [] => (none, [])
  | entry :: list =>
      if !isOpen entry.value then popBack isOpen shared expiration now list
      else if expires expiration entry.idleAt now then
        popBack isOpen shared expiration now list
      else if shared entry.value then (some entry, ⟨now, entry.value⟩ :: list)
      else (some entry, list)

/-- `IdlePopper::pop`: what is found, and the list it leaves. -/
def popIdle (isOpen shared : ConnId → Bool) (expiration : Option Time) (now : Time)
    (list : List Idle)
    : Option Idle × List Idle :=
  match popBack isOpen shared expiration now list.reverse with
  | (found, rest) => (found, rest.reverse)

namespace PoolInner

variable {K : Type} [DecidableEq K]

/-- `Pool::new` of an enabled pool -/
def new (config : Config) (timerIsEmpty : Bool) : PoolInner K where
  connecting := ∅
  idle := LruCache.new config.maxPoolSize
  maxIdlePerHost := config.maxIdlePerHost
  waiters := ∅
  idleIntervalRef := false
  timerIsEmpty := timerIsEmpty
  timeout := config.idleTimeout

/-- `PoolInner::spawn_idle_interval` -/
def spawnIdleInterval (self : PoolInner K) : PoolInner K :=
  if self.idleIntervalRef then self
  else match self.timeout with
    | none => self
    | some dur =>
        if dur = 0 then self
        else if self.timerIsEmpty then self
        else { self with idleIntervalRef := true }

/-- The second half of `PoolInner::put`: the value becomes the last of its idle list, unless
the list is full.
-/
def pushIdle (self : PoolInner K) (now : Time) (key : K) (value : ConnId) : PoolInner K :=
  match self.idle.getOrInsert key [] with
  | (idleList, idle) =>
      if self.maxIdlePerHost ≤ idleList.length then { self with idle }
      else
        let entry : Idle := { idleAt := now, value }
        { self with idle := idle.put key (idleList ++ [entry]) }.spawnIdleInterval

/-- `PoolInner::put` -/
def put (self : PoolInner K) (closing : ChanId → Bool) (shared : Bool) (now : Time)
    (chans : Table (Chan K)) (key : K) (value : ConnId)
    : PoolInner K × Table (Chan K) :=
  if shared && (self.idle.peek key).isSome then (self, chans)
  else match self.waiters.lookup key with
    | none => (self.pushIdle now key value, chans)
    | some queue =>
        match deliver closing shared value queue chans with
        | (waiters, kept, chans) =>
            let self :=
              { self with
                waiters := AssocMap.assign self.waiters key
                  (if waiters.isEmpty then none else some waiters) }
            match kept with
            | some value => (self.pushIdle now key value, chans)
            | none => (self, chans)

/-- `PoolInner::connected` -/
def connected (self : PoolInner K) (chans : Table (Chan K)) (key : K)
    : PoolInner K × Table (Chan K) :=
  ({ self with connecting := self.connecting.erase key, waiters := self.waiters.erase key },
    dropSenders chans ((self.waiters.lookup key).getD []))

/-- `PoolInner::clean_waiters` -/
def cleanWaiters (self : PoolInner K) (chans : Table (Chan K)) (key : K) : PoolInner K :=
  match self.waiters.lookup key with
  | none => self
  | some queue =>
      let waiters := queue.filter (fun tx => !isClosed chans tx)
      { self with
        waiters := AssocMap.assign self.waiters key
          (if waiters.isEmpty then none else some waiters) }

/-- `PoolInner::clear_expired` -/
def clearExpired (self : PoolInner K) (isOpen : ConnId → Bool) (now : Time) : PoolInner K :=
  let idle := self.idle.mapValues (fun values =>
    values.filter (fun entry => isOpen entry.value && !expires self.timeout entry.idleAt now))
  let keysToRemove := (idle.map.entries.filter (fun byKey => byKey.2.isEmpty)).map Sigma.fst
  { self with idle := keysToRemove.foldl LruCache.pop idle }

/-- The part of `Checkout::checkout` on the idle connections: an emptied list goes. -/
def takeIdle (self : PoolInner K) (isOpen shared : ConnId → Bool) (now : Time) (key : K)
    : Option Idle × PoolInner K :=
  match self.idle.peek key with
  | none => (none, { self with idle := self.idle.pop key })
  | some list =>
      match popIdle isOpen shared self.timeout now list with
      | (found, rest) =>
          let idle := self.idle.getMut key (fun _ => rest)
          (found,
            { self with
              idle := if found.isNone || rest.isEmpty then idle.pop key else idle })

/-- `entry(key).or_insert_with(VecDeque::new).push_back(tx)` -/
def pushWaiter (self : PoolInner K) (key : K) (tx : ChanId) : PoolInner K :=
  { self with
    waiters := self.waiters.insert key ((self.waiters.lookup key).getD [] ++ [tx]) }

end PoolInner

end Tlsurl.Pool
