import OpenClipboard.Network.Presence

/-!
# Sections of a presence call

A verdict is remembered and broadcast in sections of their own, after the one
that changed the map of connections.  Between them a call of the device is
still to settle what is remembered and what was broadcast last.
-/

namespace OpenClipboard.Presence

open Transition

/-- A live connection of the device is tracked. -/
def Adapter.HoldsLive (adapter : Adapter) (device : String) : Prop :=
  ∃ entry, adapter.peers.find device = some entry ∧
    adapter.alive entry.connection = true

def Watchdog.Fired : Watchdog → Prop
  | .removePeer | .writeOffline | .broadcastOffline => True
  | _ => False

/-- The call is still to remember that the device is online, or to take its
entry out of the map. -/
def Task.SettlesState : Task → Prop
  | .writeOnline _ | .writeOffline true _ | .broadcastOffline true _
  | .verifyRemove => True
  | _ => False

/-- The call is still to broadcast that the device is online, or to take its
entry out of the map. -/
def Task.SettlesEvent : Task → Prop
  | .removeStamp _ | .broadcastOnline _ => True
  | task => task.SettlesState

/-- An offline verdict on the device is on its way, and no removal of its entry
is to follow. -/
def Task.Verdict : Task → Prop
  | .writeOffline false _ | .broadcastOffline false _ | .closeStale true _
  | .dropStale true _ | .markWrite | .markStamp true | .markBroadcast => True
  | _ => False

structure Sound (adapter : Adapter) : Prop where
  devices : ∀ device entry, adapter.peers.find device = some entry →
    ∃ found, adapter.connections.find entry.connection = some found ∧
      found.device = device
  inserts : ∀ call device verify connection now,
    adapter.calls.find call = some ⟨device, .insert verify connection now⟩ →
      ∃ found, adapter.connections.find connection = some found ∧
        found.device = device
  fired : ∀ connection found,
    adapter.connections.find connection = some found → found.watchdog.Fired →
      found.closed = true ∧ ∀ entry,
        adapter.peers.find found.device = some entry →
          entry.connection = connection
  state : ∀ device, adapter.HoldsLive device →
    adapter.lastState.find device = some .online ∨
      ∃ call task, adapter.calls.find call = some ⟨device, task⟩ ∧
        task.SettlesState
  event : ∀ device, adapter.HoldsLive device →
    adapter.lastEvent device = some .online ∨
      ∃ call task, adapter.calls.find call = some ⟨device, task⟩ ∧
        task.SettlesEvent
  undisputed : ∀ device, adapter.HoldsLive device → ∀ call task,
    adapter.calls.find call = some ⟨device, task⟩ → ¬ task.Verdict
  removals : ∀ pair ∈ adapter.removals, pair.1 = pair.2
  overrulings : ∀ pair ∈ adapter.overrulings, pair.1 = pair.2

theorem sound_empty : Sound Adapter.empty := by
  have noPeer : ∀ device, Adapter.empty.peers.find device = none :=
    fun _ => Table.find_empty
  have noCall : ∀ call, Adapter.empty.calls.find call = none :=
    fun _ => Table.find_empty
  have notLive : ∀ device, ¬ Adapter.empty.HoldsLive device := by
    rintro device ⟨entry, tracked, _⟩
    rw [noPeer device] at tracked
    cases tracked
  constructor
  · intro device entry tracked
    rw [noPeer device] at tracked
    cases tracked
  · intro call device verify connection now called
    rw [noCall call] at called
    cases called
  · intro connection found isFound
    have nothing : Adapter.empty.connections.find connection = none :=
      Table.find_empty
    rw [nothing] at isFound
    cases isFound
  · exact fun device live => absurd live (notLive device)
  · exact fun device live => absurd live (notLive device)
  · exact fun device live => absurd live (notLive device)
  · exact nofun
  · exact nofun

/-! ## Steps that track nothing new -/

/-- No entry is new, no connection revives or changes its device. -/
structure Shrinks (before after : Adapter) : Prop where
  peers : ∀ device entry, after.peers.find device = some entry →
    ∃ old, before.peers.find device = some old ∧
      old.connection = entry.connection
  connections : ∀ connection old,
    before.connections.find connection = some old →
      ∃ found, after.connections.find connection = some found ∧
        found.device = old.device ∧ (old.closed = true → found.closed = true)

def SameWatchdogs (before after : Adapter) : Prop :=
  ∀ connection found, after.connections.find connection = some found →
    found.watchdog = .waiting ∨
    ∃ old, before.connections.find connection = some old ∧
      old.device = found.device ∧ old.watchdog = found.watchdog ∧
        (old.closed = true → found.closed = true)

variable {before middle after : Adapter} {device : String}

theorem Shrinks.refl : Shrinks before before :=
  ⟨fun _ entry tracked => ⟨entry, tracked, rfl⟩,
    fun _ old isOld => ⟨old, isOld, rfl, id⟩⟩

theorem SameWatchdogs.refl : SameWatchdogs before before :=
  fun _ found isFound => Or.inr ⟨found, isFound, rfl, rfl, id⟩

theorem Shrinks.devices (shrinks : Shrinks before after)
    (sound : Sound before) {entry : TrackedPeer}
    (tracked : after.peers.find device = some entry) :
    ∃ found, after.connections.find entry.connection = some found ∧
      found.device = device := by
  rcases shrinks.peers device entry tracked with ⟨old, isOld, same⟩
  rcases sound.devices device old isOld with ⟨record, isRecord, isDevice⟩
  rw [same] at isRecord
  rcases shrinks.connections entry.connection record isRecord with
    ⟨found, isFound, sameDevice, _⟩
  exact ⟨found, isFound, sameDevice.trans isDevice⟩

theorem Shrinks.live (shrinks : Shrinks before after) (sound : Sound before)
    (live : after.HoldsLive device) : before.HoldsLive device := by
  rcases live with ⟨entry, tracked, alive⟩
  rcases shrinks.peers device entry tracked with ⟨old, isOld, same⟩
  refine ⟨old, isOld, ?_⟩
  rcases sound.devices device old isOld with ⟨record, isRecord, _⟩
  rcases shrinks.connections old.connection record isRecord with
    ⟨found, isFound, _, closes⟩
  unfold Adapter.alive at alive ⊢
  rw [← same, isFound, Bool.not_eq_true'] at alive
  rw [isRecord]
  cases isClosed : record.closed with
  | false =>
      show (!record.closed) = true
      rw [isClosed]
      rfl
  | true =>
      have stays := closes isClosed
      rw [alive] at stays
      cases stays

theorem Shrinks.inserts (shrinks : Shrinks before after)
    {connection : Nat} {old : Connection}
    (isOld : before.connections.find connection = some old)
    (isDevice : old.device = device) :
    ∃ found, after.connections.find connection = some found ∧
      found.device = device := by
  rcases shrinks.connections connection old isOld with
    ⟨found, isFound, sameDevice, _⟩
  exact ⟨found, isFound, sameDevice.trans isDevice⟩

theorem Shrinks.fired (shrinks : Shrinks before after)
    (same : SameWatchdogs before after) (sound : Sound before)
    {connection : Nat} {found : Connection}
    (isFound : after.connections.find connection = some found)
    (fired : found.watchdog.Fired) :
    found.closed = true ∧ ∀ entry,
      after.peers.find found.device = some entry →
        entry.connection = connection := by
  rcases same connection found isFound with
    waiting | ⟨old, isOld, sameDevice, sameWatchdog, closes⟩
  · rw [waiting] at fired
    exact fired.elim
  · rw [← sameWatchdog] at fired
    rcases sound.fired connection old isOld fired with ⟨isClosed, own⟩
    refine ⟨closes isClosed, ?_⟩
    intro entry tracked
    rcases shrinks.peers found.device entry tracked with
      ⟨before, isBefore, sameConnection⟩
    rw [← sameConnection]
    apply own
    rw [sameDevice]
    exact isBefore

/-! ## Sections of a call -/

def Next.call (device : String) : Next → Option Call
  | .goto task => some ⟨device, task⟩
  | .done _ => none

section Settle

variable (adapter : Adapter) (call : Nat) (device : String) (next : Next)

theorem settle_calls (other : Nat) :
    (adapter.settle call device next).calls.find other =
      if other = call then next.call device else adapter.calls.find other := by
  cases next with
  | goto task => exact Table.find_put
  | done result => exact Table.find_remove

theorem settle_eq :
    (adapter.settle call device next).peers = adapter.peers ∧
    (adapter.settle call device next).connections = adapter.connections ∧
    (adapter.settle call device next).lastState = adapter.lastState ∧
    (adapter.settle call device next).events = adapter.events ∧
    (adapter.settle call device next).removals = adapter.removals ∧
    (adapter.settle call device next).overrulings = adapter.overrulings := by
  cases next with
  | goto task => exact ⟨rfl, rfl, rfl, rfl, rfl, rfl⟩
  | done result => exact ⟨rfl, rfl, rfl, rfl, rfl, rfl⟩

theorem settle_holdsLive (other : String) :
    (adapter.settle call device next).HoldsLive other ↔
      adapter.HoldsLive other := by
  cases next with
  | goto task => exact Iff.rfl
  | done result => exact Iff.rfl

theorem settle_lastEvent (other : String) :
    (adapter.settle call device next).lastEvent other =
      adapter.lastEvent other := by
  cases next with
  | goto task => rfl
  | done result => rfl

end Settle

/-- What a section of a call for the device leaves as it is. -/
structure Frame (before middle : Adapter) (device : String) : Prop where
  sameCalls : middle.calls = before.calls
  sameLogs : middle.removals = before.removals ∧
    middle.overrulings = before.overrulings
  shrinks : Shrinks before middle
  sameWatchdogs : SameWatchdogs before middle
  stateElsewhere : ∀ other, other ≠ device →
    middle.lastState.find other = before.lastState.find other
  eventElsewhere : ∀ other, other ≠ device →
    middle.lastEvent other = before.lastEvent other

/-- What a section of a call comes to where it tracks nothing new. -/
structure Moves (before middle : Adapter) (device : String) (task : Task)
    (next : Next) : Prop extends Frame before middle device where
  state : middle.HoldsLive device →
    middle.lastState.find device = some .online ∨
    (∃ later, next = .goto later ∧ later.SettlesState) ∨
    (middle.lastState.find device = before.lastState.find device ∧
      ¬ task.SettlesState)
  event : middle.HoldsLive device →
    middle.lastEvent device = some .online ∨
    (∃ later, next = .goto later ∧ later.SettlesEvent) ∨
    (middle.lastEvent device = before.lastEvent device ∧
      ¬ task.SettlesEvent)
  verdict : middle.HoldsLive device →
    ∀ later, next = .goto later → ¬ later.Verdict
  insert : ∀ verify connection now,
    next = .goto (.insert verify connection now) →
      ∃ found, middle.connections.find connection = some found ∧
        found.device = device

variable {call : Nat} {task : Task} {next : Next}

theorem calls_settle {other : Nat} {found : Call}
    (sameCalls : middle.calls = before.calls)
    (isFound : (middle.settle call device next).calls.find other =
      some found) :
    (other ≠ call ∧ before.calls.find other = some found) ∨
    (other = call ∧ ∃ later, next = .goto later ∧ found = ⟨device, later⟩) := by
  rw [settle_calls, sameCalls] at isFound
  by_cases same : other = call
  · rw [if_pos same] at isFound
    refine Or.inr ⟨same, ?_⟩
    cases next with
    | goto later =>
        cases isFound
        exact ⟨later, rfl, rfl⟩
    | done result => cases isFound
  · rw [if_neg same] at isFound
    exact Or.inl ⟨same, isFound⟩

theorem settles_elsewhere {P : Task → Prop} {other : String}
    (sameCalls : middle.calls = before.calls)
    (called : before.calls.find call = some ⟨device, task⟩)
    (aside : other ≠ device ∨ ¬ P task)
    (settles : ∃ found found_task,
      before.calls.find found = some ⟨other, found_task⟩ ∧ P found_task) :
    ∃ found found_task, (middle.settle call device next).calls.find found =
      some ⟨other, found_task⟩ ∧ P found_task := by
  rcases settles with ⟨found, foundTask, isFound, holds⟩
  have different : found ≠ call := by
    rintro rfl
    rw [called] at isFound
    cases isFound
    rcases aside with elsewhere | fails
    · exact elsewhere rfl
    · exact fails holds
  refine ⟨found, foundTask, ?_, holds⟩
  rw [settle_calls, if_neg different, sameCalls]
  exact isFound

theorem Moves.sound (moves : Moves before middle device task next)
    (sound : Sound before)
    (called : before.calls.find call = some ⟨device, task⟩) :
    Sound (middle.settle call device next) := by
  rcases settle_eq middle call device next with
    ⟨samePeers, sameConnections, sameState, _, sameRemovals, sameOverrulings⟩
  have own : ∀ later, next = .goto later →
      (middle.settle call device next).calls.find call =
        some ⟨device, later⟩ := by
    rintro later rfl
    rw [settle_calls, if_pos rfl]
    rfl
  constructor
  · intro other entry tracked
    rw [samePeers] at tracked
    rw [sameConnections]
    exact moves.shrinks.devices sound tracked
  · intro other otherDevice verify connection now isFound
    rw [sameConnections]
    rcases calls_settle moves.sameCalls isFound with
      ⟨_, known⟩ | ⟨_, later, isNext, isCall⟩
    · rcases sound.inserts other otherDevice verify connection now known with
        ⟨old, isOld, isDevice⟩
      exact moves.shrinks.inserts isOld isDevice
    · cases isCall
      exact moves.insert verify connection now isNext
  · intro connection found isFound fired
    rw [sameConnections] at isFound
    rw [samePeers]
    exact moves.shrinks.fired moves.sameWatchdogs sound isFound fired
  · intro other live
    rw [settle_holdsLive] at live
    rw [sameState]
    by_cases same : other = device
    · subst same
      rcases moves.state live with online | ⟨later, isNext, settles⟩ | kept
      · exact Or.inl online
      · exact Or.inr ⟨call, later, own later isNext, settles⟩
      · rw [kept.1]
        exact (sound.state other (moves.shrinks.live sound live)).imp_right
          (settles_elsewhere moves.sameCalls called (Or.inr kept.2))
    · rw [moves.stateElsewhere other same]
      exact (sound.state other (moves.shrinks.live sound live)).imp_right
        (settles_elsewhere moves.sameCalls called (Or.inl same))
  · intro other live
    rw [settle_holdsLive] at live
    rw [settle_lastEvent]
    by_cases same : other = device
    · subst same
      rcases moves.event live with online | ⟨later, isNext, settles⟩ | kept
      · exact Or.inl online
      · exact Or.inr ⟨call, later, own later isNext, settles⟩
      · rw [kept.1]
        exact (sound.event other (moves.shrinks.live sound live)).imp_right
          (settles_elsewhere moves.sameCalls called (Or.inr kept.2))
    · rw [moves.eventElsewhere other same]
      exact (sound.event other (moves.shrinks.live sound live)).imp_right
        (settles_elsewhere moves.sameCalls called (Or.inl same))
  · intro other live found foundTask isFound
    rw [settle_holdsLive] at live
    rcases calls_settle moves.sameCalls isFound with
      ⟨_, known⟩ | ⟨_, later, isNext, isCall⟩
    · exact sound.undisputed other (moves.shrinks.live sound live) found
        foundTask known
    · cases isCall
      exact moves.verdict live foundTask isNext
  · rw [sameRemovals, moves.sameLogs.1]
    exact sound.removals
  · rw [sameOverrulings, moves.sameLogs.2]
    exact sound.overrulings

/-! ### The parts of a section -/

namespace Adapter

variable {adapter : Adapter} {connection other : Nat}
variable {change : Connection → Connection}

theorem modify_connections :
    (adapter.modify connection change).connections.find other =
      if other = connection then
        (adapter.connections.find connection).map change
      else adapter.connections.find other := by
  unfold modify
  cases isFound : adapter.connections.find connection with
  | none =>
      by_cases same : other = connection
      · rw [if_pos same, same]
        exact isFound
      · exact (if_neg same).symm
  | some found =>
      show (adapter.connections.put connection (change found)).find other = _
      exact Table.find_put

theorem modify_eq (adapter : Adapter) (connection : Nat)
    (change : Connection → Connection) :
    (adapter.modify connection change).peers = adapter.peers ∧
    (adapter.modify connection change).lastState = adapter.lastState ∧
    (adapter.modify connection change).events = adapter.events ∧
    (adapter.modify connection change).calls = adapter.calls ∧
    (adapter.modify connection change).removals = adapter.removals ∧
    (adapter.modify connection change).overrulings = adapter.overrulings := by
  unfold modify
  split <;> exact ⟨rfl, rfl, rfl, rfl, rfl, rfl⟩

theorem lastEvent_broadcast {state : ReachabilityState} {now : Int}
    (other : String) :
    (adapter.broadcast device state now).lastEvent other =
      if other = device then some state else adapter.lastEvent other := by
  show ((PresenceEvent.mk device state now :: adapter.events).find?
    fun event => event.device = other).map PresenceEvent.state = _
  rw [List.find?_cons]
  by_cases same : other = device
  · rw [if_pos same, decide_eq_true same.symm]
    rfl
  · rw [if_neg same, decide_eq_false (Ne.symm same)]
    rfl

end Adapter

theorem Shrinks.of_eq (samePeers : middle.peers = before.peers)
    (sameConnections : middle.connections = before.connections) :
    Shrinks before middle := by
  constructor
  · intro other entry tracked
    rw [samePeers] at tracked
    exact ⟨entry, tracked, rfl⟩
  · intro connection old isOld
    rw [sameConnections]
    exact ⟨old, isOld, rfl, id⟩

theorem SameWatchdogs.of_eq
    (sameConnections : middle.connections = before.connections) :
    SameWatchdogs before middle := by
  intro connection found isFound
  rw [sameConnections] at isFound
  exact Or.inr ⟨found, isFound, rfl, rfl, id⟩

theorem Frame.of_eq (samePeers : middle.peers = before.peers)
    (sameConnections : middle.connections = before.connections)
    (sameCalls : middle.calls = before.calls)
    (sameLogs : middle.removals = before.removals ∧
      middle.overrulings = before.overrulings)
    (sameState : ∀ other, other ≠ device →
      middle.lastState.find other = before.lastState.find other)
    (sameEvent : ∀ other, other ≠ device →
      middle.lastEvent other = before.lastEvent other) :
    Frame before middle device :=
  ⟨sameCalls, sameLogs, Shrinks.of_eq samePeers sameConnections,
    SameWatchdogs.of_eq sameConnections, sameState, sameEvent⟩

theorem Frame.refl : Frame before before device :=
  Frame.of_eq rfl rfl rfl ⟨rfl, rfl⟩ (fun _ _ => rfl) fun _ _ => rfl

theorem frame_write (state : ReachabilityState) :
    Frame before (before.write device state) device :=
  Frame.of_eq rfl rfl rfl ⟨rfl, rfl⟩
    (fun _ different => Table.find_put_of_ne different) fun _ _ => rfl

theorem frame_broadcast (state : ReachabilityState) (now : Int) :
    Frame before (before.broadcast device state now) device := by
  refine Frame.of_eq rfl rfl rfl ⟨rfl, rfl⟩ (fun _ _ => rfl) ?_
  intro other different
  rw [Adapter.lastEvent_broadcast, if_neg different]

theorem frame_untrack : Frame before (before.untrack device) device := by
  refine ⟨rfl, ⟨rfl, rfl⟩, ⟨?_, ?_⟩, SameWatchdogs.of_eq rfl,
    fun _ _ => rfl, fun _ _ => rfl⟩
  · intro other entry tracked
    change (before.peers.remove device).find other = some entry at tracked
    rw [Table.find_remove] at tracked
    split at tracked
    · cases tracked
    · exact ⟨entry, tracked, rfl⟩
  · exact fun connection old isOld => ⟨old, isOld, rfl, id⟩

theorem frame_modify {connection : Nat} {change : Connection → Connection}
    (keeps : ∀ found, (change found).device = found.device ∧
      (change found).watchdog = found.watchdog ∧
      (found.closed = true → (change found).closed = true)) :
    Frame before (before.modify connection change) device := by
  rcases Adapter.modify_eq before connection change with
    ⟨samePeers, sameState, sameEvents, sameCalls, sameRemovals, sameOverrulings⟩
  refine ⟨sameCalls, ⟨sameRemovals, sameOverrulings⟩, ⟨?_, ?_⟩, ?_, ?_, ?_⟩
  · intro other entry tracked
    rw [samePeers] at tracked
    exact ⟨entry, tracked, rfl⟩
  · intro other old isOld
    rw [Adapter.modify_connections]
    by_cases same : other = connection
    · subst same
      rw [if_pos rfl, isOld]
      exact ⟨change old, rfl, (keeps old).1, (keeps old).2.2⟩
    · rw [if_neg same]
      exact ⟨old, isOld, rfl, id⟩
  · intro other found isFound
    rw [Adapter.modify_connections] at isFound
    by_cases same : other = connection
    · subst same
      rw [if_pos rfl] at isFound
      rcases Option.map_eq_some_iff.mp isFound with ⟨old, isOld, rfl⟩
      exact Or.inr ⟨old, isOld, (keeps old).1.symm, (keeps old).2.1.symm,
        (keeps old).2.2⟩
    · rw [if_neg same] at isFound
      exact Or.inr ⟨found, isFound, rfl, rfl, id⟩
  · intro other _
    rw [sameState]
  · intro other _
    unfold Adapter.lastEvent
    rw [sameEvents]

theorem frame_abort {connection : Nat} :
    Frame before (before.abort connection) device :=
  frame_modify fun _ => ⟨rfl, rfl, id⟩

theorem frame_close {connection : Nat} :
    Frame before (before.close connection) device :=
  frame_modify fun _ => ⟨rfl, rfl, fun _ => rfl⟩

theorem Frame.trans (first : Frame before middle device)
    (second : Frame middle after device) : Frame before after device := by
  refine ⟨second.sameCalls.trans first.sameCalls,
    ⟨second.sameLogs.1.trans first.sameLogs.1,
      second.sameLogs.2.trans first.sameLogs.2⟩, ⟨?_, ?_⟩, ?_, ?_, ?_⟩
  · intro other entry tracked
    rcases second.shrinks.peers other entry tracked with ⟨mid, isMid, same⟩
    rcases first.shrinks.peers other mid isMid with ⟨old, isOld, sameOld⟩
    exact ⟨old, isOld, sameOld.trans same⟩
  · intro connection old isOld
    rcases first.shrinks.connections connection old isOld with
      ⟨mid, isMid, midDevice, midCloses⟩
    rcases second.shrinks.connections connection mid isMid with
      ⟨found, isFound, foundDevice, foundCloses⟩
    exact ⟨found, isFound, foundDevice.trans midDevice,
      fun closed => foundCloses (midCloses closed)⟩
  · intro connection found isFound
    rcases second.sameWatchdogs connection found isFound with
      waiting | ⟨mid, isMid, midDevice, midWatchdog, midCloses⟩
    · exact Or.inl waiting
    · rcases first.sameWatchdogs connection mid isMid with
        waiting | ⟨old, isOld, oldDevice, oldWatchdog, oldCloses⟩
      · exact Or.inl (midWatchdog.symm.trans waiting)
      · exact Or.inr ⟨old, isOld, oldDevice.trans midDevice,
          oldWatchdog.trans midWatchdog,
          fun closed => midCloses (oldCloses closed)⟩
  · intro other different
    rw [second.stateElsewhere other different,
      first.stateElsewhere other different]
  · intro other different
    rw [second.eventElsewhere other different,
      first.eventElsewhere other different]

theorem Frame.gone (frame : Frame before middle device)
    (gone : ¬ middle.HoldsLive device)
    (noInsert : ∀ verify connection now,
      next ≠ .goto (.insert verify connection now)) :
    Moves before middle device task next where
  toFrame := frame
  state live := absurd live gone
  event live := absurd live gone
  verdict live := absurd live gone
  insert verify connection now isNext :=
    absurd isNext (noInsert verify connection now)

theorem Frame.stays (frame : Frame before middle device)
    (sameState : middle.lastState = before.lastState)
    (sameEvents : middle.events = before.events)
    (counts : ¬ task.SettlesEvent)
    (verdict : middle.HoldsLive device →
      ∀ later, next = .goto later → ¬ later.Verdict)
    (noInsert : ∀ verify connection now,
      next ≠ .goto (.insert verify connection now)) :
    Moves before middle device task next where
  toFrame := frame
  state _ := by
    refine Or.inr (Or.inr ⟨by rw [sameState], ?_⟩)
    intro settles
    apply counts
    cases task with
    | removeStamp now => trivial
    | broadcastOnline now => trivial
    | _ => exact settles
  event _ := by
    refine Or.inr (Or.inr ⟨?_, counts⟩)
    unfold Adapter.lastEvent
    rw [sameEvents]
  verdict := verdict
  insert verify connection now isNext :=
    absurd isNext (noInsert verify connection now)

/-! ### Orderly sections -/

def NoVerdict (adapter : Adapter) (device : String) : Prop :=
  (∀ call task, adapter.calls.find call = some ⟨device, task⟩ →
    ¬ task.Verdict) ∧
  ∀ connection found, adapter.connections.find connection = some found →
    found.device = device → ¬ found.watchdog.Fired

/-- No connection begins to be tracked while an offline verdict on its device
is on its way, and no dial of `ensure_reachable` fails where another call has
meanwhile tracked a live connection. -/
def OrderlyTask (adapter : Adapter) (device : String) (input : Input) :
    Task → Prop
  | .insert _ _ _ => ¬ adapter.HoldsLive device → NoVerdict adapter device
  | .dial false => input.outcome = .failed → ¬ adapter.HoldsLive device
  | _ => True

theorem sound_track {verify : Bool} {connection instant : Nat} {now : Int}
    (sound : Sound before)
    (called : before.calls.find call =
      some ⟨device, .insert verify connection now⟩)
    (noVerdict : NoVerdict before device) :
    Sound ((before.track device connection instant).settle call device
      (.goto (.writeOnline now))) := by
  have dropped : Frame before
      (before.dropEntry (before.peers.find device)) device := by
    cases before.peers.find device with
    | none => exact Frame.refl
    | some stale => exact frame_abort
  have samePeers :
      (before.dropEntry (before.peers.find device)).peers = before.peers := by
    cases before.peers.find device with
    | none => rfl
    | some stale => exact (Adapter.modify_eq _ _ _).1
  have sameState : (before.dropEntry
      (before.peers.find device)).lastState = before.lastState := by
    cases before.peers.find device with
    | none => rfl
    | some stale => exact (Adapter.modify_eq _ _ _).2.1
  have sameEvents : (before.dropEntry
      (before.peers.find device)).events = before.events := by
    cases before.peers.find device with
    | none => rfl
    | some stale => exact (Adapter.modify_eq _ _ _).2.2.1
  have sameCalls : (before.track device connection instant).calls =
      before.calls := dropped.sameCalls
  have isOwn : ((before.track device connection instant).settle call device
      (.goto (.writeOnline now))).calls.find call =
        some ⟨device, .writeOnline now⟩ := by
    rw [settle_calls, if_pos rfl]
    rfl
  have elsewhere : ∀ other, other ≠ device →
      (before.track device connection instant).peers.find other =
        before.peers.find other :=
    fun other different => Table.find_put_of_ne different
  -- Live connections of the other devices were so before.
  have liveElsewhere : ∀ other, other ≠ device →
      ((before.track device connection instant).settle call device
        (.goto (.writeOnline now))).HoldsLive other →
          before.HoldsLive other := by
    rintro other different ⟨entry, tracked, alive⟩
    apply dropped.shrinks.live sound
    refine ⟨entry, ?_, alive⟩
    rw [samePeers, ← elsewhere other different]
    exact tracked
  constructor
  · intro other entry tracked
    by_cases same : other = device
    · change (before.peers.put device _).find other = some entry at tracked
      rw [same, Table.find_put_self] at tracked
      cases tracked
      rcases sound.inserts call device verify connection now called with
        ⟨old, isOld, isDevice⟩
      rw [same]
      exact dropped.shrinks.inserts isOld isDevice
    · change (before.track device connection instant).peers.find other =
        some entry at tracked
      rw [elsewhere other same] at tracked
      rcases sound.devices other entry tracked with ⟨old, isOld, isDevice⟩
      exact dropped.shrinks.inserts isOld isDevice
  · intro other otherDevice otherVerify otherConnection otherNow isFound
    rcases calls_settle sameCalls isFound with
      ⟨_, known⟩ | ⟨_, later, isNext, isCall⟩
    · rcases sound.inserts other otherDevice otherVerify otherConnection
        otherNow known with ⟨old, isOld, isDevice⟩
      exact dropped.shrinks.inserts isOld isDevice
    · cases isNext
      cases isCall
  · intro other found isFound fired
    have ended := dropped.shrinks.fired dropped.sameWatchdogs sound isFound
      fired
    refine ⟨ended.1, ?_⟩
    intro entry tracked
    by_cases same : found.device = device
    · rcases dropped.sameWatchdogs other found isFound with
        waiting | ⟨old, isOld, oldDevice, oldWatchdog, _⟩
      · rw [waiting] at fired
        exact fired.elim
      · rw [← oldWatchdog] at fired
        exact absurd fired
          (noVerdict.2 other old isOld (oldDevice.trans same))
    · apply ended.2
      rw [samePeers, ← elsewhere found.device same]
      exact tracked
  · intro other live
    by_cases same : other = device
    · rw [same]
      exact Or.inr ⟨call, .writeOnline now, isOwn, trivial⟩
    · have kept := sound.state other (liveElsewhere other same live)
      rw [← sameState] at kept
      exact kept.imp_right
        (settles_elsewhere sameCalls called (Or.inl same))
  · intro other live
    by_cases same : other = device
    · rw [same]
      exact Or.inr ⟨call, .writeOnline now, isOwn, trivial⟩
    · have kept := sound.event other (liveElsewhere other same live)
      unfold Adapter.lastEvent at kept
      rw [← sameEvents] at kept
      exact kept.imp_right
        (settles_elsewhere sameCalls called (Or.inl same))
  · intro other live found foundTask isFound
    rcases calls_settle sameCalls isFound with
      ⟨_, known⟩ | ⟨_, later, isNext, isCall⟩
    · by_cases same : other = device
      · rw [same] at known
        exact noVerdict.1 found foundTask known
      · exact sound.undisputed other (liveElsewhere other same live) found
          foundTask known
    · cases isNext
      cases isCall
      exact id
  · have same := dropped.sameLogs.1
    show ∀ pair ∈ (before.dropEntry (before.peers.find device)).removals, _
    rw [same]
    exact sound.removals
  · have same := dropped.sameLogs.2
    show ∀ pair ∈ (before.dropEntry (before.peers.find device)).overrulings, _
    rw [same]
    exact sound.overrulings

theorem not_holdsLive_untrack : ¬ (before.untrack device).HoldsLive device := by
  rintro ⟨entry, tracked, _⟩
  change (before.peers.remove device).find device = some entry at tracked
  rw [Table.find_remove_self] at tracked
  cases tracked

theorem not_holdsLive_of_none (absent : before.peers.find device = none) :
    ¬ before.HoldsLive device := by
  rintro ⟨entry, tracked, _⟩
  rw [absent] at tracked
  cases tracked

theorem advance_moves {input : Input} (sound : Sound before)
    (called : before.calls.find call = some ⟨device, task⟩)
    (orderly : OrderlyTask before device input task)
    (noTrack : ∀ verify connection now,
      task = .insert verify connection now → before.HoldsLive device)
    (stepped : advance before call device input task = some (middle, next)) :
    Moves before middle device task next := by
  -- A verdict that is on its way meets no live connection.
  have disputed : task.Verdict → ¬ before.HoldsLive device :=
    fun verdict live => sound.undisputed device live call task called verdict
  cases task with
  | fastPath =>
      simp only [advance] at stepped
      split at stepped
      · cases stepped
      · split at stepped
        · cases stepped
          exact Frame.refl.stays rfl rfl id nofun nofun
        · split at stepped
          · cases stepped
            exact Frame.refl.stays rfl rfl id nofun nofun
          · cases stepped
            refine (frame_untrack.trans frame_abort).gone ?_ nofun
            apply not_holdsLive_of_none
            rw [Adapter.abort, (Adapter.modify_eq _ _ _).1]
            exact Table.find_remove_self
  | dial verify =>
      simp only [advance] at stepped
      cases isOutcome : input.outcome with
      | noRecord error =>
          rw [isOutcome] at stepped
          cases stepped
          exact Frame.refl.stays rfl rfl id nofun nofun
      | failed =>
          rw [isOutcome] at stepped
          cases stepped
          cases verify with
          | true =>
              refine Frame.refl.stays rfl rfl id ?_ nofun
              intro _ later isNext
              cases isNext
              exact id
          | false => exact Frame.refl.gone (orderly isOutcome) nofun
      | connected connection =>
          rw [isOutcome] at stepped
          simp only at stepped
          split at stepped
          · cases stepped
          · rename_i isNew
            cases stepped
            have absent : before.connections.find connection = none :=
              not_not.mp isNew
            refine ⟨⟨rfl, ⟨rfl, rfl⟩, ⟨fun _ entry tracked =>
              ⟨entry, tracked, rfl⟩, ?_⟩, ?_, fun _ _ => rfl, fun _ _ => rfl⟩,
              ?_, ?_, ?_, ?_⟩
            · intro other old isOld
              have different : other ≠ connection := by
                rintro rfl
                rw [absent] at isOld
                cases isOld
              refine ⟨old, ?_, rfl, id⟩
              show (before.connections.put connection _).find other = some old
              rw [Table.find_put_of_ne different]
              exact isOld
            · intro other found isFound
              change (before.connections.put connection _).find other =
                some found at isFound
              rw [Table.find_put] at isFound
              split at isFound
              · cases isFound
                exact Or.inl rfl
              · exact Or.inr ⟨found, isFound, rfl, rfl, id⟩
            · exact fun _ => Or.inr (Or.inr ⟨rfl, id⟩)
            · exact fun _ => Or.inr (Or.inr ⟨rfl, id⟩)
            · intro _ later isNext
              cases isNext
              exact id
            · intro otherVerify otherConnection now isNext
              cases isNext
              exact ⟨_, Table.find_put_self, rfl⟩
  | insert verify connection now =>
      have live := noTrack verify connection now rfl
      simp only [advance] at stepped
      split at stepped
      · cases stepped
      · rcases live with ⟨entry, tracked, alive⟩
        rw [tracked] at stepped
        simp only [alive, if_true, Option.some.injEq] at stepped
        cases stepped
        have aborted : Frame before (before.abort connection) device :=
          frame_abort
        refine ⟨⟨aborted.sameCalls, aborted.sameLogs,
          ⟨?_, aborted.shrinks.connections⟩, aborted.sameWatchdogs,
          aborted.stateElsewhere, aborted.eventElsewhere⟩, ?_, ?_, ?_, nofun⟩
        · intro other kept isKept
          change (before.peers.put device _).find other = some kept at isKept
          rw [Table.find_put] at isKept
          split at isKept
          · rename_i same
            cases isKept
            rw [same]
            exact ⟨entry, tracked, rfl⟩
          · exact ⟨kept, isKept, rfl⟩
        · exact fun _ => Or.inr (Or.inl ⟨.writeOnline now, rfl, trivial⟩)
        · exact fun _ => Or.inr (Or.inl ⟨.writeOnline now, rfl, trivial⟩)
        · intro _ later isNext
          cases isNext
          exact id
  | writeOnline now =>
      cases stepped
      refine ⟨frame_write .online, fun _ => Or.inl Table.find_put_self,
        fun _ => Or.inr (Or.inl ⟨.removeStamp now, rfl, trivial⟩), ?_, nofun⟩
      intro _ later isNext
      cases isNext
      exact id
  | removeStamp now =>
      cases stepped
      refine ⟨Frame.of_eq rfl rfl rfl ⟨rfl, rfl⟩ (fun _ _ => rfl)
        (fun _ _ => rfl), fun _ => Or.inr (Or.inr ⟨rfl, id⟩),
        fun _ => Or.inr (Or.inl ⟨.broadcastOnline now, rfl, trivial⟩), ?_,
        nofun⟩
      intro _ later isNext
      cases isNext
      exact id
  | broadcastOnline now =>
      cases stepped
      have told : ∀ other,
          (before.broadcast device .online now).lastEvent other =
            if other = device then some .online else before.lastEvent other :=
        fun other => Adapter.lastEvent_broadcast other
      refine ⟨Frame.of_eq rfl rfl rfl ⟨rfl, rfl⟩ (fun _ _ => rfl) ?_,
        fun _ => Or.inr (Or.inr ⟨rfl, id⟩), fun _ => Or.inl ?_, nofun, nofun⟩
      · intro other different
        exact (told other).trans (if_neg different)
      · exact (told device).trans (if_pos rfl)
  | writeOffline verify now =>
      cases stepped
      cases verify with
      | true =>
          refine ⟨frame_write .offline, fun _ => Or.inr (Or.inl ⟨_, rfl,
            trivial⟩), fun _ => Or.inr (Or.inl ⟨_, rfl, trivial⟩), ?_, nofun⟩
          intro _ later isNext
          cases isNext
          exact id
      | false => exact (frame_write .offline).gone (disputed trivial) nofun
  | broadcastOffline verify now =>
      cases stepped
      cases verify with
      | true =>
          refine ⟨frame_broadcast .offline now, fun _ => Or.inr (Or.inl ⟨_, rfl,
            trivial⟩), fun _ => Or.inr (Or.inl ⟨_, rfl, trivial⟩), ?_, nofun⟩
          intro _ later isNext
          cases isNext
          exact id
      | false =>
          exact (frame_broadcast .offline now).gone (disputed trivial) nofun
  | verifyRemove =>
      simp only [advance] at stepped
      split at stepped
      · cases stepped
      · split at stepped
        · cases stepped
          exact frame_untrack.gone not_holdsLive_untrack nofun
        · rename_i absent
          cases stepped
          exact Frame.refl.gone (not_holdsLive_of_none absent) nofun
  | markRemove =>
      simp only [advance] at stepped
      split at stepped
      · cases stepped
      · split at stepped
        · cases stepped
          exact frame_untrack.gone not_holdsLive_untrack nofun
        · rename_i absent
          cases stepped
          exact Frame.refl.gone (not_holdsLive_of_none absent) nofun
  | closeStale mark connection =>
      cases stepped
      cases mark with
      | true =>
          have frame : Frame before (before.close connection) device :=
            frame_close
          refine frame.gone ?_ nofun
          exact fun live => disputed trivial (frame.shrinks.live sound live)
      | false =>
          refine frame_close.stays (Adapter.modify_eq _ _ _).2.1
            (Adapter.modify_eq _ _ _).2.2.1 id ?_ nofun
          intro _ later isNext
          cases isNext
          exact id
  | dropStale mark connection =>
      cases stepped
      cases mark with
      | true =>
          have frame : Frame before (before.abort connection) device :=
            frame_abort
          refine frame.gone ?_ nofun
          exact fun live => disputed trivial (frame.shrinks.live sound live)
      | false =>
          exact frame_abort.stays (Adapter.modify_eq _ _ _).2.1
            (Adapter.modify_eq _ _ _).2.2.1 id nofun nofun
  | markWrite =>
      cases stepped
      exact (frame_write .offline).gone (disputed trivial) nofun
  | markStamp shouldBroadcast =>
      cases stepped
      have frame : Frame before { before with
          lastOfflineAt := before.lastOfflineAt.put device input.instant }
          device :=
        Frame.of_eq rfl rfl rfl ⟨rfl, rfl⟩ (fun _ _ => rfl) fun _ _ => rfl
      cases shouldBroadcast with
      | true => exact frame.gone (disputed trivial) nofun
      | false => exact frame.stays rfl rfl id nofun nofun
  | markBroadcast =>
      cases stepped
      exact (frame_broadcast .offline input.now).gone (disputed trivial) nofun
  | acceptWrite now =>
      cases stepped
      refine ⟨frame_write .online, fun _ => Or.inl Table.find_put_self,
        fun _ => Or.inr (Or.inr ⟨rfl, id⟩), ?_, ?_⟩
      · intro _ later isNext
        split at isNext
        · cases isNext
          exact id
        · cases isNext
      · intro verify connection at_ isNext
        split at isNext <;> cases isNext
  | acceptStamp now =>
      cases stepped
      refine Frame.stays ?_ rfl rfl id ?_ nofun
      · exact Frame.of_eq rfl rfl rfl ⟨rfl, rfl⟩ (fun _ _ => rfl)
          fun _ _ => rfl
      · intro _ later isNext
        cases isNext
        exact id
  | acceptBroadcast now =>
      cases stepped
      refine ⟨frame_broadcast .online now,
        fun _ => Or.inr (Or.inr ⟨rfl, id⟩), fun _ => Or.inl ?_, nofun, nofun⟩
      rw [Adapter.lastEvent_broadcast, if_pos rfl]

end OpenClipboard.Presence
