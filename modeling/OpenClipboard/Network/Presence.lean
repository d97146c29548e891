import OpenClipboard.Library.Table
import OpenClipboard.Library.Transition

/-!
# Presence

For each device the adapter tracks the connection it holds open, remembers the
last verdict and broadcasts its changes.  The maps have a lock each; calls, the
accept side and one watchdog for each connection take them in turn, one section
at a time.
-/

namespace OpenClipboard.Presence

inductive ReachabilityState where
  | online
  | offline
  | unknown
  deriving DecidableEq, Repr

structure PresenceEvent where
  device : String
  state : ReachabilityState
  at_ : Int
  deriving DecidableEq, Repr

inductive PresenceError where
  | noAddress (device : String)
  | internal (message : String)
  deriving DecidableEq, Repr

structure TrackedPeer where
  connection : Nat
  lastVerifiedAt : Nat
  deriving DecidableEq, Repr

/-- Where the watchdog of a connection is: in its wait, past it, or gone. -/
inductive Watchdog where
  | waiting
  | removePeer
  | writeOffline
  | broadcastOffline
  | ended
  deriving DecidableEq, Repr

/-- A dialled connection; `aborted` is the abort of its watchdog, which a task
past its wait may still outrun. -/
structure Connection where
  device : String
  closed : Bool
  watchdog : Watchdog
  aborted : Bool
  deriving DecidableEq, Repr

/-- What a call does next.  `verify` tells `verify_reachable` from
`ensure_reachable`, `mark` tells `mark_offline` from `verify_reachable`. -/
inductive Task where
  | fastPath
  | dial (verify : Bool)
  | insert (verify : Bool) (connection : Nat) (now : Int)
  | writeOnline (now : Int)
  | removeStamp (now : Int)
  | broadcastOnline (now : Int)
  | writeOffline (verify : Bool) (now : Int)
  | broadcastOffline (verify : Bool) (now : Int)
  | verifyRemove
  | markRemove
  | closeStale (mark : Bool) (connection : Nat)
  | dropStale (mark : Bool) (connection : Nat)
  | markWrite
  | markStamp (shouldBroadcast : Bool)
  | markBroadcast
  | acceptWrite (now : Int)
  | acceptStamp (now : Int)
  | acceptBroadcast (now : Int)
  deriving DecidableEq, Repr

structure Call where
  device : String
  task : Task
  deriving DecidableEq, Repr

abbrev CallResult := Option (Except PresenceError ReachabilityState)

inductive Next where
  | goto (task : Task)
  | done (result : CallResult)

/-- `events` begins with the newest one; `peersHeld` is the call that keeps the
lock of `peers` over its later sections.  `removals` and `overrulings` record,
for each section of a watchdog, its connection and the one that was tracked. -/
structure Adapter where
  peers : Table String TrackedPeer
  lastState : Table String ReachabilityState
  lastOfflineAt : Table String Nat
  events : List PresenceEvent
  connections : Table Nat Connection
  calls : Table Nat Call
  returned : Table Nat CallResult
  peersHeld : Option Nat
  removals : List (Nat × Nat)
  overrulings : List (Nat × Nat)

namespace Adapter

def empty : Adapter := ⟨∅, ∅, ∅, [], ∅, ∅, ∅, none, [], []⟩

/-- `close_reason().is_none()`. -/
def alive (adapter : Adapter) (connection : Nat) : Bool :=
  match adapter.connections.find connection with
  | some found => !found.closed
  | none => false

def modify (adapter : Adapter) (connection : Nat)
    (change : Connection → Connection) : Adapter :=
  match adapter.connections.find connection with
  | some found => { adapter with
      connections := adapter.connections.put connection (change found) }
  | none => adapter

/-- `JoinHandle::abort` of the connection's watchdog. -/
def abort (adapter : Adapter) (connection : Nat) : Adapter :=
  adapter.modify connection fun found => { found with aborted := true }

def close (adapter : Adapter) (connection : Nat) : Adapter :=
  adapter.modify connection fun found => { found with closed := true }

def write (adapter : Adapter) (device : String) (state : ReachabilityState) :
    Adapter :=
  { adapter with lastState := adapter.lastState.put device state }

def broadcast (adapter : Adapter) (device : String) (state : ReachabilityState)
    (now : Int) : Adapter :=
  { adapter with events := ⟨device, state, now⟩ :: adapter.events }

/-- Take the device's entry out of the map. -/
def untrack (adapter : Adapter) (device : String) : Adapter :=
  { adapter with peers := adapter.peers.remove device }

/-- A dropped `TrackedPeer` aborts its watchdog. -/
def dropEntry (adapter : Adapter) : Option TrackedPeer → Adapter
  | some stale => adapter.abort stale.connection
  | none => adapter

def track (adapter : Adapter) (device : String) (connection now : Nat) :
    Adapter :=
  { adapter.dropEntry (adapter.peers.find device) with
    peers := adapter.peers.put device ⟨connection, now⟩ }

end Adapter

def fastPathTtl : Nat := 30
def markOfflineStickyTtl : Nat := 30

/-- What an attempt to reach a device comes to. -/
inductive DialOutcome where
  | noRecord (error : PresenceError)
  | failed
  | connected (connection : Nat)

/-- The monotonic clock in seconds, the wall clock, and the dial. -/
structure Input where
  instant : Nat
  now : Int
  outcome : DialOutcome

section Calls

variable (adapter : Adapter) (call : Nat) (device : String) (input : Input)

/-- The alive entry that is kept instead of a new connection. -/
def keepExisting (connection : Nat) (existing : TrackedPeer) : Adapter :=
  { adapter.abort connection with
    peers := adapter.peers.put device
      { existing with lastVerifiedAt := input.instant }
    peersHeld := some call }

/-- One section of a call; `none` where it waits for the lock of `peers`. -/
def advance : Task → Option (Adapter × Next)
  | .fastPath =>
      if adapter.peersHeld ≠ none then none
      else
        match adapter.peers.find device with
        | none => some (adapter, .goto (.dial false))
        | some entry =>
            if adapter.alive entry.connection = true ∧
                input.instant - entry.lastVerifiedAt < fastPathTtl then
              some (adapter, .done (some (.ok .online)))
            else
              some ((adapter.untrack device).abort entry.connection,
                .goto (.dial false))
  | .dial verify =>
      match input.outcome with
      | .noRecord error => some (adapter, .done (some (.error error)))
      | .failed => some (adapter, .goto (.writeOffline verify input.now))
      | .connected connection =>
          if adapter.connections.find connection ≠ none then none
          else
            some ({ adapter with
              connections := adapter.connections.put connection
                ⟨device, false, .waiting, false⟩ },
              .goto (.insert verify connection input.now))
  | .insert _ connection now =>
      if adapter.peersHeld ≠ none then none
      else
        match adapter.peers.find device with
        | some existing =>
            if adapter.alive existing.connection then
              some (keepExisting adapter call device input connection existing,
                .goto (.writeOnline now))
            else
              some (adapter.track device connection input.instant,
                .goto (.writeOnline now))
        | none =>
            some (adapter.track device connection input.instant,
              .goto (.writeOnline now))
  | .writeOnline now =>
      some (adapter.write device .online, .goto (.removeStamp now))
  | .removeStamp now =>
      some ({ adapter with
        lastOfflineAt := adapter.lastOfflineAt.remove device },
        .goto (.broadcastOnline now))
  | .broadcastOnline now =>
      some ({ adapter.broadcast device .online now with
        peersHeld :=
          if adapter.peersHeld = some call then none else adapter.peersHeld },
        .done (some (.ok .online)))
  | .writeOffline verify now =>
      some (adapter.write device .offline,
        .goto (.broadcastOffline verify now))
  | .broadcastOffline verify now =>
      some (adapter.broadcast device .offline now,
        if verify then .goto .verifyRemove else .done (some (.ok .offline)))
  | .verifyRemove =>
      if adapter.peersHeld ≠ none then none
      else
        match adapter.peers.find device with
        | some stale =>
            some (adapter.untrack device,
              .goto (.closeStale false stale.connection))
        | none => some (adapter, .done (some (.ok .offline)))
  | .markRemove =>
      if adapter.peersHeld ≠ none then none
      else
        match adapter.peers.find device with
        | some stale =>
            some (adapter.untrack device,
              .goto (.closeStale true stale.connection))
        | none => some (adapter, .goto .markWrite)
  | .closeStale mark connection =>
      some (adapter.close connection, .goto (.dropStale mark connection))
  | .dropStale mark connection =>
      some (adapter.abort connection,
        if mark then .goto .markWrite else .done (some (.ok .offline)))
  | .markWrite =>
      some (adapter.write device .offline, .goto (.markStamp
        (decide (adapter.lastState.find device ≠ some .offline))))
  | .markStamp shouldBroadcast =>
      some ({ adapter with
        lastOfflineAt := adapter.lastOfflineAt.put device input.instant },
        if shouldBroadcast then .goto .markBroadcast else .done none)
  | .markBroadcast =>
      some (adapter.broadcast device .offline input.now, .done none)
  | .acceptWrite now =>
      some (adapter.write device .online,
        if adapter.lastState.find device ≠ some .online then
          .goto (.acceptStamp now)
        else .done none)
  | .acceptStamp now =>
      some ({ adapter with
        lastOfflineAt := adapter.lastOfflineAt.remove device },
        .goto (.acceptBroadcast now))
  | .acceptBroadcast now =>
      some (adapter.broadcast device .online now, .done none)

end Calls

/-- The call goes on, or returns. -/
def Adapter.settle (adapter : Adapter) (call : Nat) (device : String) :
    Next → Adapter
  | .goto task =>
      { adapter with calls := adapter.calls.put call ⟨device, task⟩ }
  | .done result =>
      { adapter with
        calls := adapter.calls.remove call
        returned := adapter.returned.put call result }

def watch (adapter : Adapter) (connection : Nat) (found : Connection)
    (now : Int) : Option Adapter :=
  let goto (watchdog : Watchdog) (changed : Adapter) : Adapter :=
    changed.modify connection fun record => { record with watchdog := watchdog }
  match found.watchdog with
  | .waiting =>
      if found.closed = true ∧ found.aborted = false then
        some (goto .removePeer adapter)
      else none
  | .removePeer =>
      if adapter.peersHeld ≠ none then none
      else
        match adapter.peers.find found.device with
        | some entry =>
            some (goto .writeOffline
              { (adapter.untrack found.device).abort entry.connection with
                removals := (connection, entry.connection) ::
                  adapter.removals })
        | none => some (goto .writeOffline adapter)
  | .writeOffline =>
      some (goto .broadcastOffline
        { adapter.write found.device .offline with
          overrulings :=
            (adapter.peers.find found.device).toList.map
              (fun entry => (connection, entry.connection)) ++
                adapter.overrulings })
  | .broadcastOffline =>
      some (goto .ended
        { adapter.broadcast found.device .offline now with
          overrulings :=
            (adapter.peers.find found.device).toList.map
              (fun entry => (connection, entry.connection)) ++
                adapter.overrulings })
  | .ended => none

/-- The entry points; an inbound connection that resolves to no member changes
nothing. -/
inductive Entry where
  | ensureReachable
  | verifyReachable
  | markOffline
  | accept (now : Int)
  deriving DecidableEq, Repr

def Entry.task : Entry → Task
  | .ensureReachable => .fastPath
  | .verifyReachable => .dial true
  | .markOffline => .markRemove
  | .accept now => .acceptWrite now

inductive Action where
  | start (call : Nat) (device : String) (entry : Entry)
  | advance (call : Nat) (input : Input)
  | watch (connection : Nat) (now : Int)
  /-- The runtime cancels an aborted watchdog at an await. -/
  | cancel (connection : Nat)
  /-- The peer, or the network, closes a connection. -/
  | close (connection : Nat)

def step (adapter : Adapter) : Action → Option Adapter
  | .start call device entry =>
      match adapter.calls.find call with
      | some _ => none
      | none => some (adapter.settle call device (.goto entry.task))
  | .advance call input =>
      match adapter.calls.find call with
      | none => none
      | some found =>
          (advance adapter call found.device input found.task).map fun next =>
            next.1.settle call found.device next.2
  | .watch connection now =>
      match adapter.connections.find connection with
      | none => none
      | some found => watch adapter connection found now
  | .cancel connection =>
      match adapter.connections.find connection with
      | none => none
      | some found =>
          if found.aborted then
            some (adapter.modify connection fun record =>
              { record with watchdog := .ended })
          else none
  | .close connection =>
      match adapter.connections.find connection with
      | none => none
      | some _ => some (adapter.close connection)

namespace Adapter

def currentState (adapter : Adapter) (instant : Nat) (device : String) :
    ReachabilityState :=
  match adapter.lastState.find device with
  | some state => state
  | none =>
      let stamped :=
        match adapter.lastOfflineAt.find device with
        | some stampedAt => decide (instant - stampedAt < markOfflineStickyTtl)
        | none => false
      if stamped then .offline
      else
        match adapter.peers.find device with
        | some entry =>
            if adapter.alive entry.connection then .online else .offline
        | none => .unknown

def lastEvent (adapter : Adapter) (device : String) :
    Option ReachabilityState :=
  (adapter.events.find? fun event => event.device = device).map
    PresenceEvent.state

end Adapter

end OpenClipboard.Presence
