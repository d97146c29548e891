import Mathlib.Logic.Function.Basic
import OpenClipboard.ActiveState.Device
import OpenClipboard.Library.Transition

/-!
# Devices exchanging active-clipboard announcements

A world holds every device and every announcement ever sent.  Announcements
are never removed, so a delivery can be repeated, postponed past later ones or
left out altogether; a peer that the fan-out skips is one whose announcement is
never delivered.  Detached tasks of all devices interleave freely.

`activations` and `settled` are observations about the run that no step reads:
every activation stamped so far, and every announcement that a device has
processed without a guard dropping it.
-/

namespace OpenClipboard

open Transition

structure Announcement where
  sender : DeviceId
  target : DeviceId
  state : ActiveClipboardState
  deriving DecidableEq, Repr

/-- The observation the receiver adapter makes of an announcement. -/
def Announcement.inbound (announcement : Announcement) :
    InboundActiveClipboardState where
  peerDeviceId := announcement.sender
  snapshotHash := announcement.state.snapshotHash
  senderEntryId := announcement.state.entryId.asStr
  activatedAtMs := announcement.state.activatedAtMs
  activatedBy := announcement.state.activatedBy

structure Receipt where
  sender : DeviceId
  target : DeviceId
  activation : Activation
  deriving DecidableEq, Repr

def Announcement.receipt (announcement : Announcement) : Receipt where
  sender := announcement.sender
  target := announcement.target
  activation := announcement.state.activation

structure World where
  device : DeviceId → Device
  sent : List Announcement
  activations : List Activation
  settled : List Receipt

inductive Action where
  /-- The local clock of a device moves on. -/
  | tick (id : DeviceId) (now : Int)
  | activate (id : DeviceId) (snapshotHash : String) (entryId : EntryId)
      (mobileConsumable : Bool) (env : AdvanceEnv)
  | deliver (announcement : Announcement) (env : InboundEnv)
  | writeOs (id : DeviceId) (index : Nat) (succeeds : Bool)
  | converge (id : DeviceId) (index : Nat) (env : AdvanceEnv)
  | reset (id : DeviceId)

namespace World

/-- No device has done anything yet; clocks are arbitrary. -/
def fresh (clock : DeviceId → Int) : World where
  device id := Device.fresh (clock id)
  sent := []
  activations := []
  settled := []

def setDevice (world : World) (id : DeviceId) (device : Device) : World :=
  { world with device := Function.update world.device id device }

end World

/-- Address a state to every other device except the one that activated it. -/
def announce (roster : List DeviceId) (sender : DeviceId)
    (state : ActiveClipboardState) : List Announcement :=
  (roster.filter fun target =>
    target != state.activatedBy && target != sender).map fun target =>
      { sender := sender, target := target, state := state }

/-- An ignored observation is settled at once; a dropped one never is. -/
def settledByOutcome (announcement : Announcement) :
    InboundOutcome → List Receipt
  | .ignored _ => [announcement.receipt]
  | .dropped _ => []
  | .scheduled _ => []

/-- A finished task settles its announcement unless the register failed. -/
def settledByResult (id : DeviceId) (pending : PendingTask) :
    Except ActiveClipboardRegisterError Bool → List Receipt
  | .ok _ => [⟨pending.peer, id, pending.activation⟩]
  | .error _ => []

/-- Only a won compare-and-set is re-broadcast. -/
def rebroadcast (roster : List DeviceId) (id : DeviceId)
    (state : ActiveClipboardState) :
    Except ActiveClipboardRegisterError Bool → List Announcement
  | .ok true => announce roster id state
  | .ok false => []
  | .error _ => []

def step (roster : List DeviceId) (world : World) : Action → Option World
  | .tick id now =>
      if (world.device id).clock ≤ now then
        some (world.setDevice id { world.device id with clock := now })
      else
        none
  | .activate id snapshotHash entryId mobileConsumable env =>
      if id ∈ roster then
        let activated := (world.device id).activate id env mobileConsumable
          snapshotHash entryId
        some { world.setDevice id activated.2 with
          sent := announce roster id activated.1 ++ world.sent
          activations := activated.1.activation :: world.activations }
      else
        none
  | .deliver announcement env =>
      let receiver := world.device announcement.target
      if announcement ∈ world.sent ∧ receiver.clock ≤ env.nowMs then
        some { world.setDevice announcement.target
            (receiver.receive env announcement.inbound) with
          settled := settledByOutcome announcement
            (handleOne env receiver.register announcement.inbound) ++
              world.settled }
      else
        none
  | .writeOs id index succeeds =>
      ((world.device id).writeOs index succeeds).map (world.setDevice id)
  | .converge id index env =>
      ((world.device id).converge index env).map fun converged =>
        { world.setDevice id converged.device with
          sent := rebroadcast roster id converged.pending.task.state
            converged.result ++ world.sent
          settled := settledByResult id converged.pending converged.result ++
            world.settled }
  | .reset id =>
      some (world.setDevice id
        { world.device id with
          register := resetRegister (world.device id).register })

/-! ## Announcements -/

variable {roster : List DeviceId} {state : ActiveClipboardState}

theorem mem_announce_iff {sender : DeviceId} {announcement : Announcement} :
    announcement ∈ announce roster sender state ↔
      announcement.sender = sender ∧ announcement.state = state ∧
        announcement.target ∈ roster ∧
        announcement.target ≠ state.activatedBy ∧
        announcement.target ≠ sender := by
  constructor
  · intro member
    obtain ⟨target, inRoster, rfl⟩ := List.mem_map.mp member
    simpa [and_assoc] using inRoster
  · rintro ⟨rfl, rfl, inRoster, notActivator, notSender⟩
    exact List.mem_map.mpr
      ⟨announcement.target, by simp [inRoster, notActivator, notSender], rfl⟩

theorem mem_rebroadcast {id : DeviceId}
    {result : Except ActiveClipboardRegisterError Bool}
    {announcement : Announcement}
    (member : announcement ∈ rebroadcast roster id state result) :
    announcement.state = state := by
  unfold rebroadcast at member
  split at member
  · exact (mem_announce_iff.mp member).2.1
  · cases member
  · cases member

/-! ## What one step does to registers, tasks and logs -/

theorem World.forall_setDevice
    {world : World} {id : DeviceId} {device : Device}
    (holds : DeviceId → Device → Prop)
    (before : ∀ other, holds other (world.device other))
    (updated : holds id device) :
    ∀ other, holds other ((world.setDevice id device).device other) := by
  unfold World.setDevice
  rw [Function.forall_update_iff world.device holds]
  exact ⟨updated, fun other _ => before other⟩

/-- The three ways a register can come out of a step other than a reset. -/
inductive RegisterMove
    (before after : Option RegisterRow) : Prop
  | kept : after = before → RegisterMove before after
  | offered (env : AdvanceEnv) (state : ActiveClipboardState)
      (mobileConsumable : Bool)
      (result : Except ActiveClipboardRegisterError Bool) :
      advance env before state mobileConsumable = (result, after) →
      RegisterMove before after

theorem RegisterMove.rank_le
    {before after : Option RegisterRow}
    (move : RegisterMove before after) :
    registerRank before ≤ registerRank after := by
  cases move with
  | kept same => rw [same]
  | offered env state mobileConsumable result advanced =>
      exact registerRank_le_advance advanced

/-- The guard of runs without a reset. -/
def noReset : World → Action → Prop
  | _, .reset _ => False
  | _, _ => True

instance (world : World) (action : Action) :
    Decidable (noReset world action) :=
  match action with
  | .reset _ => isFalse id
  | .tick _ _ => isTrue trivial
  | .activate _ _ _ _ _ => isTrue trivial
  | .deliver _ _ => isTrue trivial
  | .writeOs _ _ _ => isTrue trivial
  | .converge _ _ _ => isTrue trivial

theorem step_registerMove {world after : World} {action : Action}
    (stepped : step roster world action = some after)
    (admitted : noReset world action) (id : DeviceId) :
    RegisterMove (world.device id).register (after.device id).register := by
  let moves : DeviceId → Device → Prop := fun other device =>
    RegisterMove (world.device other).register device.register
  have unchanged : ∀ other, moves other (world.device other) :=
    fun other => .kept rfl
  cases action with
  | tick self now =>
      simp only [step, Option.ite_none_right_eq_some, Option.some.injEq]
        at stepped
      obtain ⟨_, rfl⟩ := stepped
      refine World.forall_setDevice moves unchanged ?_ id
      exact .kept rfl
  | activate self snapshotHash entryId mobileConsumable env =>
      simp only [step, Option.ite_none_right_eq_some, Option.some.injEq]
        at stepped
      obtain ⟨_, rfl⟩ := stepped
      obtain ⟨result, advanced⟩ := (world.device self).activate_advance self
        env mobileConsumable snapshotHash entryId
      refine World.forall_setDevice moves unchanged ?_ id
      exact .offered _ _ _ _ advanced
  | deliver announcement env =>
      simp only [step, Option.ite_none_right_eq_some, Option.some.injEq]
        at stepped
      obtain ⟨_, rfl⟩ := stepped
      refine World.forall_setDevice moves unchanged ?_ id
      exact .kept (Device.receive_register _ _ _)
  | writeOs self index succeeds =>
      simp only [step, Option.map_eq_some_iff] at stepped
      obtain ⟨device, wrote, rfl⟩ := stepped
      refine World.forall_setDevice moves unchanged ?_ id
      exact .kept (Device.writeOs_register wrote)
  | converge self index env =>
      simp only [step, Option.map_eq_some_iff] at stepped
      obtain ⟨converged, ran, rfl⟩ := stepped
      refine World.forall_setDevice moves unchanged ?_ id
      exact .offered _ _ _ _ (Device.converge_cases ran).2.2.1
  | reset self => exact admitted.elim

end OpenClipboard
