import OpenClipboard.Network.PresenceSections

/-!
# Presence and the tracked connections

As long as no connection is tracked while an offline verdict on its device is
on its way, what is remembered and what was broadcast last agree with the map
of connections whenever no call is in progress.
-/

namespace OpenClipboard.Presence

open Transition

variable {before middle after : Adapter} {device : String}
variable {call : Nat} {task : Task} {next : Next}

/-! ## Watchdogs -/

theorem Shrinks.trans (first : Shrinks before middle)
    (second : Shrinks middle after) : Shrinks before after := by
  constructor
  · intro other entry tracked
    rcases second.peers other entry tracked with ⟨mid, isMid, same⟩
    rcases first.peers other mid isMid with ⟨old, isOld, sameOld⟩
    exact ⟨old, isOld, sameOld.trans same⟩
  · intro connection old isOld
    rcases first.connections connection old isOld with
      ⟨mid, isMid, midDevice, midCloses⟩
    rcases second.connections connection mid isMid with
      ⟨found, isFound, foundDevice, foundCloses⟩
    exact ⟨found, isFound, foundDevice.trans midDevice,
      fun closed => foundCloses (midCloses closed)⟩

/-- What a section of a watchdog comes to before it goes on; nothing changes
for a device with a live connection. -/
structure Watches (before middle : Adapter) : Prop where
  sameCalls : middle.calls = before.calls
  shrinks : Shrinks before middle
  sameWatchdogs : SameWatchdogs before middle
  untold : ∀ device, before.HoldsLive device →
    middle.lastState.find device = before.lastState.find device ∧
    middle.lastEvent device = before.lastEvent device
  removals : ∀ pair ∈ middle.removals, pair.1 = pair.2
  overrulings : ∀ pair ∈ middle.overrulings, pair.1 = pair.2

theorem Watches.sound {connection : Nat} {watchdog : Watchdog}
    (watches : Watches before middle) (sound : Sound before)
    (mine : ∀ found, middle.connections.find connection = some found →
      watchdog.Fired → found.closed = true ∧ ∀ entry,
        middle.peers.find found.device = some entry →
          entry.connection = connection) :
    Sound (middle.modify connection
      fun found => { found with watchdog := watchdog }) := by
  rcases Adapter.modify_eq middle connection
    (fun found => { found with watchdog := watchdog }) with
    ⟨samePeers, sameState, sameEvents, sameCalls, sameRemovals, sameOverrulings⟩
  have moved : Shrinks middle (middle.modify connection
      fun found => { found with watchdog := watchdog }) := by
    constructor
    · intro other entry tracked
      rw [samePeers] at tracked
      exact ⟨entry, tracked, rfl⟩
    · intro other old isOld
      rw [Adapter.modify_connections]
      by_cases same : other = connection
      · subst same
        rw [if_pos rfl, isOld]
        exact ⟨_, rfl, rfl, id⟩
      · rw [if_neg same]
        exact ⟨old, isOld, rfl, id⟩
  have shrinks := watches.shrinks.trans moved
  have calls := sameCalls.trans watches.sameCalls
  constructor
  · intro other entry tracked
    exact shrinks.devices sound tracked
  · intro call other verify inserted now called
    rw [calls] at called
    rcases sound.inserts call other verify inserted now called with
      ⟨old, isOld, isDevice⟩
    exact shrinks.inserts isOld isDevice
  · intro other found isFound fired
    rw [Adapter.modify_connections] at isFound
    rw [samePeers]
    by_cases same : other = connection
    · subst same
      rw [if_pos rfl] at isFound
      rcases Option.map_eq_some_iff.mp isFound with ⟨old, isOld, rfl⟩
      exact mine old isOld fired
    · rw [if_neg same] at isFound
      exact watches.shrinks.fired watches.sameWatchdogs sound isFound fired
  · intro other live
    have was := shrinks.live sound live
    rw [sameState, (watches.untold other was).1, calls]
    exact sound.state other was
  · intro other live
    have was := shrinks.live sound live
    have sameEvent : (middle.modify connection fun found =>
        { found with watchdog := watchdog }).lastEvent other =
          middle.lastEvent other := by
      unfold Adapter.lastEvent
      rw [sameEvents]
    rw [sameEvent, (watches.untold other was).2, calls]
    exact sound.event other was
  · intro other live call task called
    rw [calls] at called
    exact sound.undisputed other (shrinks.live sound live) call task called
  · rw [sameRemovals]
    exact watches.removals
  · rw [sameOverrulings]
    exact watches.overrulings

theorem Frame.watches (frame : Frame before middle device)
    (sound : Sound before) (gone : ¬ before.HoldsLive device) :
    Watches before middle := by
  refine ⟨frame.sameCalls, frame.shrinks, frame.sameWatchdogs, ?_, ?_, ?_⟩
  · intro other live
    have different : other ≠ device := by
      rintro rfl
      exact gone live
    exact ⟨frame.stateElsewhere other different,
      frame.eventElsewhere other different⟩
  · rw [frame.sameLogs.1]
    exact sound.removals
  · rw [frame.sameLogs.2]
    exact sound.overrulings

/-- No watchdog passes its wait while another connection of its device is
tracked. -/
def OrderlyWatch (adapter : Adapter) (connection : Nat) (found : Connection) :
    Prop :=
  found.watchdog = .waiting → ∀ entry,
    adapter.peers.find found.device = some entry →
      entry.connection = connection

theorem sound_watch {connection : Nat} {found : Connection} {now : Int}
    (sound : Sound before)
    (isFound : before.connections.find connection = some found)
    (orderly : OrderlyWatch before connection found)
    (stepped : watch before connection found now = some after) :
    Sound after := by
  -- Past its wait a watchdog finds no live connection of the device.
  have ended : found.watchdog.Fired → found.closed = true ∧
      (∀ entry, before.peers.find found.device = some entry →
        entry.connection = connection) ∧ ¬ before.HoldsLive found.device := by
    intro fired
    rcases sound.fired connection found isFound fired with ⟨isClosed, own⟩
    refine ⟨isClosed, own, ?_⟩
    rintro ⟨entry, tracked, alive⟩
    rw [own entry tracked, Adapter.alive, isFound] at alive
    change (!found.closed) = true at alive
    rw [isClosed] at alive
    cases alive
  have overruled : ∀ pair ∈ (before.peers.find found.device).toList.map
      (fun entry => (connection, entry.connection)) ++ before.overrulings,
      found.watchdog.Fired → pair.1 = pair.2 := by
    intro pair member fired
    rcases List.mem_append.mp member with isNew | isOld
    · rcases List.mem_map.mp isNew with ⟨entry, isEntry, rfl⟩
      exact ((ended fired).2.1 entry (Option.mem_toList.mp isEntry)).symm
    · exact sound.overrulings pair isOld
  cases isWatchdog : found.watchdog with
  | waiting =>
      simp only [watch, isWatchdog] at stepped
      split at stepped
      · rename_i fires
        cases stepped
        apply Watches.sound _ sound
        · intro record isRecord _
          rw [isFound] at isRecord
          cases isRecord
          exact ⟨fires.1, orderly isWatchdog⟩
        · exact ⟨rfl, Shrinks.refl, SameWatchdogs.refl,
            fun _ _ => ⟨rfl, rfl⟩, sound.removals, sound.overrulings⟩
      · cases stepped
  | removePeer =>
      have fired : found.watchdog.Fired := by
        rw [isWatchdog]
        trivial
      rcases ended fired with ⟨isClosed, own, gone⟩
      simp only [watch, isWatchdog] at stepped
      split at stepped
      · cases stepped
      · split at stepped
        · rename_i entry tracked
          cases stepped
          have frame : Frame before ((before.untrack found.device).abort
              entry.connection) found.device :=
            frame_untrack.trans frame_abort
          apply Watches.sound _ sound
          · intro record isRecord _
            rcases frame.shrinks.connections connection found isFound with
              ⟨later, isLater, sameDevice, closes⟩
            have sameRecord : some record = some later :=
              isRecord.symm.trans isLater
            cases sameRecord
            refine ⟨closes isClosed, ?_⟩
            intro other otherTracked
            rw [sameDevice] at otherTracked
            rcases frame.shrinks.peers found.device other otherTracked with
              ⟨old, isOld, same⟩
            exact same.symm.trans (own old isOld)
          · have watches := frame.watches sound gone
            refine ⟨watches.sameCalls, ⟨watches.shrinks.peers,
              watches.shrinks.connections⟩, watches.sameWatchdogs,
              watches.untold, ?_, watches.overrulings⟩
            intro pair member
            rcases List.mem_cons.mp member with isNew | isOld
            · rw [isNew]
              exact (own entry tracked).symm
            · exact sound.removals pair isOld
        · rename_i absent
          cases stepped
          apply Watches.sound _ sound
          · intro record isRecord _
            have sameRecord : some record = some found :=
              isRecord.symm.trans isFound
            cases sameRecord
            exact ⟨isClosed, own⟩
          · exact Frame.refl.watches sound gone
  | writeOffline =>
      have fired : found.watchdog.Fired := by
        rw [isWatchdog]
        trivial
      rcases ended fired with ⟨isClosed, own, gone⟩
      simp only [watch, isWatchdog, Option.some.injEq] at stepped
      subst stepped
      apply Watches.sound _ sound
      · intro record isRecord _
        have sameRecord : some record = some found :=
          isRecord.symm.trans isFound
        cases sameRecord
        exact ⟨isClosed, own⟩
      · have frame : Frame before (before.write found.device .offline)
            found.device := frame_write .offline
        have watches := frame.watches sound gone
        exact ⟨rfl, ⟨watches.shrinks.peers, watches.shrinks.connections⟩,
          watches.sameWatchdogs, watches.untold, sound.removals,
          fun pair member => overruled pair member fired⟩
  | broadcastOffline =>
      have fired : found.watchdog.Fired := by
        rw [isWatchdog]
        trivial
      rcases ended fired with ⟨isClosed, own, gone⟩
      simp only [watch, isWatchdog, Option.some.injEq] at stepped
      subst stepped
      apply Watches.sound _ sound
      · intro record isRecord ends
        exact ends.elim
      · have frame : Frame before
            (before.broadcast found.device .offline now) found.device :=
          frame_broadcast .offline now
        have watches := frame.watches sound gone
        exact ⟨rfl, ⟨watches.shrinks.peers, watches.shrinks.connections⟩,
          watches.sameWatchdogs, watches.untold, sound.removals,
          fun pair member => overruled pair member fired⟩
  | ended =>
      simp only [watch, isWatchdog] at stepped
      cases stepped

/-! ## Orderly runs -/

def Orderly (adapter : Adapter) : Action → Prop
  | .advance call input => ∀ found, adapter.calls.find call = some found →
      OrderlyTask adapter found.device input found.task
  | .watch connection _ => ∀ found,
      adapter.connections.find connection = some found →
        OrderlyWatch adapter connection found
  | _ => True

theorem Watches.keeps (watches : Watches before middle)
    (sound : Sound before) : Sound middle := by
  refine ⟨?_, ?_, ?_, ?_, ?_, ?_, watches.removals, watches.overrulings⟩
  · intro other entry tracked
    exact watches.shrinks.devices sound tracked
  · intro call other verify inserted now called
    rw [watches.sameCalls] at called
    rcases sound.inserts call other verify inserted now called with
      ⟨old, isOld, isDevice⟩
    exact watches.shrinks.inserts isOld isDevice
  · intro connection found isFound fired
    exact watches.shrinks.fired watches.sameWatchdogs sound isFound fired
  · intro other live
    have was := watches.shrinks.live sound live
    rw [(watches.untold other was).1, watches.sameCalls]
    exact sound.state other was
  · intro other live
    have was := watches.shrinks.live sound live
    rw [(watches.untold other was).2, watches.sameCalls]
    exact sound.event other was
  · intro other live call task called
    rw [watches.sameCalls] at called
    exact sound.undisputed other (watches.shrinks.live sound live) call task
      called

theorem sound_start {entry : Entry} (sound : Sound before)
    (isNew : before.calls.find call = none) :
    Sound (before.settle call device (.goto entry.task)) := by
  have kept : ∀ {P : Task → Prop} {other : String},
      (∃ found task, before.calls.find found = some ⟨other, task⟩ ∧ P task) →
        ∃ found task, (before.settle call device
          (.goto entry.task)).calls.find found = some ⟨other, task⟩ ∧
            P task := by
    rintro P other ⟨found, task, isFound, holds⟩
    have different : found ≠ call := by
      rintro rfl
      rw [isNew] at isFound
      cases isFound
    refine ⟨found, task, ?_, holds⟩
    rw [settle_calls, if_neg different]
    exact isFound
  refine ⟨sound.devices, ?_, sound.fired, ?_, ?_, ?_, sound.removals,
    sound.overrulings⟩
  · intro other otherDevice verify connection now isFound
    rcases calls_settle rfl isFound with ⟨_, known⟩ | ⟨_, later, isNext, isCall⟩
    · exact sound.inserts other otherDevice verify connection now known
    · cases isCall
      cases entry <;> cases isNext
  · intro other live
    exact (sound.state other live).imp_right kept
  · intro other live
    exact (sound.event other live).imp_right kept
  · intro other live found task isFound
    rcases calls_settle rfl isFound with ⟨_, known⟩ | ⟨_, later, isNext, isCall⟩
    · exact sound.undisputed other live found task known
    · cases isCall
      cases entry <;> cases isNext <;> exact id

theorem advance_track {verify : Bool} {connection : Nat} {now : Int}
    {input : Input} (notLive : ¬ before.HoldsLive device)
    (stepped : advance before call device input
      (.insert verify connection now) = some (middle, next)) :
    middle = before.track device connection input.instant ∧
      next = .goto (.writeOnline now) := by
  simp only [advance] at stepped
  split at stepped
  · cases stepped
  · split at stepped
    · rename_i existing tracked
      split at stepped
      · rename_i alive
        exact absurd ⟨existing, tracked, alive⟩ notLive
      · cases stepped
        exact ⟨rfl, rfl⟩
    · cases stepped
      exact ⟨rfl, rfl⟩

theorem sound_advance {input : Input} (sound : Sound before)
    (called : before.calls.find call = some ⟨device, task⟩)
    (orderly : OrderlyTask before device input task)
    (stepped : advance before call device input task = some (middle, next)) :
    Sound (middle.settle call device next) := by
  by_cases tracks : ∃ verify connection now,
      task = .insert verify connection now ∧ ¬ before.HoldsLive device
  · rcases tracks with ⟨verify, connection, now, rfl, notLive⟩
    rcases advance_track notLive stepped with ⟨isMiddle, isNext⟩
    rw [isMiddle, isNext]
    exact sound_track sound called (orderly notLive)
  · have moves := advance_moves sound called orderly (by
      intro verify connection now isInsert
      by_contra notLive
      exact tracks ⟨verify, connection, now, isInsert, notLive⟩) stepped
    exact moves.sound sound called

theorem sound_step {action : Action} (sound : Sound before)
    (orderly : Orderly before action)
    (stepped : step before action = some after) : Sound after := by
  cases action with
  | start call device entry =>
      cases isNew : before.calls.find call with
      | some found => simp [step, isNew] at stepped
      | none =>
          simp only [step, isNew, Option.some.injEq] at stepped
          subst stepped
          exact sound_start sound isNew
  | advance call input =>
      cases called : before.calls.find call with
      | none => simp [step, called] at stepped
      | some found =>
          simp only [step, called, Option.map_eq_some_iff] at stepped
          rcases stepped with ⟨⟨middle, next⟩, isNext, rfl⟩
          exact sound_advance sound called (orderly found called) isNext
  | watch connection now =>
      cases isFound : before.connections.find connection with
      | none => simp [step, isFound] at stepped
      | some found =>
          simp only [step, isFound] at stepped
          exact sound_watch sound isFound (orderly found isFound) stepped
  | cancel connection =>
      cases isFound : before.connections.find connection with
      | none => simp [step, isFound] at stepped
      | some found =>
          simp only [step, isFound] at stepped
          split at stepped
          · cases stepped
            apply Watches.sound _ sound
            · intro record isRecord ends
              exact ends.elim
            · exact ⟨rfl, Shrinks.refl, SameWatchdogs.refl,
                fun _ _ => ⟨rfl, rfl⟩, sound.removals, sound.overrulings⟩
          · cases stepped
  | close connection =>
      cases isFound : before.connections.find connection with
      | none => simp [step, isFound] at stepped
      | some found =>
          simp only [step, isFound, Option.some.injEq] at stepped
          subst stepped
          have frame : Frame before (before.close connection) "" := frame_close
          rcases Adapter.modify_eq before connection
            (fun record => { record with closed := true }) with
            ⟨_, sameState, sameEvents, _, _, _⟩
          apply Watches.keeps _ sound
          refine ⟨frame.sameCalls, frame.shrinks, frame.sameWatchdogs, ?_, ?_,
            ?_⟩
          · intro device _
            unfold Adapter.lastEvent Adapter.close
            rw [sameState, sameEvents]
            exact ⟨rfl, rfl⟩
          · rw [frame.sameLogs.1]
            exact sound.removals
          · rw [frame.sameLogs.2]
            exact sound.overrulings

/-- No call is in progress, no watchdog is past its wait, and none is still to
observe that its connection has closed. -/
def Idle (adapter : Adapter) : Prop :=
  adapter.calls = ∅ ∧ ∀ connection found,
    adapter.connections.find connection = some found →
      ¬ found.watchdog.Fired ∧
      (found.watchdog = .waiting → found.aborted = false →
        found.closed = false)

structure Agrees (adapter : Adapter) : Prop where
  online : ∀ device, adapter.HoldsLive device →
    (∀ instant, adapter.currentState instant device = .online) ∧
    adapter.lastState.find device = some .online ∧
    adapter.lastEvent device = some .online
  offline : ∀ device, adapter.lastEvent device = some .offline →
    ¬ adapter.HoldsLive device

theorem Sound.agrees {adapter : Adapter} (sound : Sound adapter)
    (idle : Idle adapter) : Agrees adapter := by
  have noCall : ∀ call, adapter.calls.find call = none := by
    intro call
    rw [idle.1]
    exact Table.find_empty
  have state : ∀ device, adapter.HoldsLive device →
      adapter.lastState.find device = some .online := by
    intro device live
    rcases sound.state device live with online | ⟨call, task, called, _⟩
    · exact online
    · rw [noCall call] at called
      cases called
  have event : ∀ device, adapter.HoldsLive device →
      adapter.lastEvent device = some .online := by
    intro device live
    rcases sound.event device live with online | ⟨call, task, called, _⟩
    · exact online
    · rw [noCall call] at called
      cases called
  constructor
  · intro device live
    refine ⟨?_, state device live, event device live⟩
    intro instant
    unfold Adapter.currentState
    rw [state device live]
  · intro device isOffline live
    rw [event device live] at isOffline
    cases isOffline

/-- In an orderly run no watchdog removes or overrules another connection than
its own, and presence agrees with the tracked connections whenever nothing is
in progress. -/
theorem agrees_of_orderly {actions : List Action} {adapter : Adapter}
    (orderly : Guarded step Orderly Adapter.empty actions)
    (ran : execute step Adapter.empty actions = some adapter) :
    (∀ pair ∈ adapter.removals, pair.1 = pair.2) ∧
    (∀ pair ∈ adapter.overrulings, pair.1 = pair.2) ∧
    (Idle adapter → Agrees adapter) := by
  have sound : Sound adapter :=
    (Run.ofExecute orderly ran).preserves sound_empty
      fun _ _ _ sound here stepped => sound_step sound here stepped
  exact ⟨sound.removals, sound.overrulings, sound.agrees⟩

namespace Sample

def dials (connection : Nat) : Input := ⟨0, 0, .connected connection⟩

/-- An `ensure_reachable` that dials. -/
def reaches (call connection : Nat) : List Action :=
  .start call "laptop" .ensureReachable ::
    List.replicate 6 (.advance call (dials connection))

/-- The first connection closes, and its watchdog takes it out of the map. -/
def closes : List Action :=
  [.close 1, .watch 1 0, .watch 1 0]

end Sample

/-- Between the removal and the verdict of the first connection's watchdog a
second one is tracked: it is live, and remembered and announced offline. -/
theorem lateVerdict_disagrees : ∃ adapter,
    execute step Adapter.empty (Sample.reaches 0 1 ++ Sample.closes ++
      Sample.reaches 1 2 ++ [.watch 1 0, .watch 1 0]) = some adapter ∧
    Idle adapter ∧ ¬ Agrees adapter := by
  refine ⟨_, rfl, ⟨rfl, ?_⟩, ?_⟩
  · intro connection found isFound
    rcases List.mem_cons.mp (Table.mem_rows_iff.mpr isFound) with
      isFirst | inRest
    · cases isFirst
      exact ⟨id, nofun⟩
    · cases List.mem_singleton.mp inRest
      exact ⟨id, fun _ _ => rfl⟩
  · intro agrees
    have told := agrees.online "laptop" ⟨⟨2, 0⟩, rfl, rfl⟩
    cases told.2.1

/-- One connection that is dialled, tracked, closed and observed. -/
theorem agrees_of_orderly_observed : ∃ adapter,
    execute step Adapter.empty (Sample.reaches 0 1 ++ Sample.closes ++
      [.watch 1 0, .watch 1 0]) = some adapter ∧
    adapter.lastEvent "laptop" = some .offline ∧
    (∀ pair ∈ adapter.removals, pair.1 = pair.2) ∧
    (∀ pair ∈ adapter.overrulings, pair.1 = pair.2) ∧
    (Idle adapter → Agrees adapter) := by
  have orderly : Guarded step Orderly Adapter.empty
      (Sample.reaches 0 1 ++ Sample.closes ++ [.watch 1 0, .watch 1 0]) := by
    refine ⟨trivial, ?_, ?_, ?_, ?_, ?_, ?_, trivial, ?_, ?_, ?_, ?_, trivial⟩
    · intro found isFound
      cases isFound
      trivial
    · intro found isFound
      cases isFound
      exact nofun
    · intro found isFound
      cases isFound
      intro _
      constructor
      · intro call task called
        cases List.mem_singleton.mp (Table.mem_rows_iff.mpr called)
        exact id
      · intro connection other isOther _
        cases List.mem_singleton.mp (Table.mem_rows_iff.mpr isOther)
        exact id
    · intro found isFound
      cases isFound
      trivial
    · intro found isFound
      cases isFound
      trivial
    · intro found isFound
      cases isFound
      trivial
    · intro found isFound _ entry tracked
      cases isFound
      cases tracked
      rfl
    · intro found isFound waits
      cases isFound
      cases waits
    · intro found isFound waits
      cases isFound
      cases waits
    · intro found isFound waits
      cases isFound
      cases waits
  exact ⟨_, rfl, rfl, agrees_of_orderly orderly rfl⟩

end OpenClipboard.Presence
