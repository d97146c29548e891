import OpenClipboard.ActiveState.ApplyInbound

/-!
# One device and its detached tasks

A device holds its clock, its register row, what was last written to its OS
clipboard and the tasks that are under way.  The operations below are the
atomic steps that can interleave: handling an observation, the OS write of a
task, the compare-and-set of a task, and a local activation.
-/

namespace OpenClipboard

/-- What an OS clipboard write put there, with the hash that names it. -/
structure ClipboardContent where
  snapshot : SystemClipboardSnapshot
  snapshotHash : String
  deriving DecidableEq, Repr

/-- A detached task; `written` tells that its OS write has succeeded. -/
structure PendingTask where
  peer : DeviceId
  task : ConvergeTask
  written : Bool
  deriving DecidableEq, Repr

namespace PendingTask

def activation (pending : PendingTask) : Activation :=
  pending.task.state.activation

end PendingTask

structure Device where
  clock : Int
  register : Option RegisterRow
  osClipboard : Option ClipboardContent
  tasks : List PendingTask
  deriving DecidableEq, Repr

namespace Device

/-- A device that has seen nothing. -/
def fresh (clock : Int) : Device where
  clock := clock
  register := none
  osClipboard := none
  tasks := []

/-- Handle one observation; a scheduled task joins the detached tasks. -/
def receive (env : InboundEnv) (inbound : InboundActiveClipboardState)
    (device : Device) : Device :=
  match handleOne env device.register inbound with
  | .scheduled task =>
      { device with
        tasks := device.tasks ++
          [{ peer := inbound.peerDeviceId, task := task, written := false }] }
  | .dropped _ => device
  | .ignored _ => device

/-- The OS write of the task at `index`: failure ends the task. -/
def writeOs (index : Nat) (succeeds : Bool) (device : Device) :
    Option Device :=
  match device.tasks[index]? with
  | none => none
  | some pending =>
      if pending.written then
        none
      else if succeeds then
        some { device with
          osClipboard := some
            ⟨pending.task.snapshot, pending.task.state.snapshotHash⟩
          tasks := device.tasks.set index { pending with written := true } }
      else
        some { device with tasks := device.tasks.eraseIdx index }

/-- What the compare-and-set of a task answered, and for which task. -/
structure Converged where
  device : Device
  pending : PendingTask
  result : Except ActiveClipboardRegisterError Bool

/-- The compare-and-set of the written task at `index`; it ends the task. -/
def converge (index : Nat) (env : AdvanceEnv) (device : Device) :
    Option Converged :=
  match device.tasks[index]? with
  | none => none
  | some pending =>
      if pending.written then
        let (result, register) := advance env device.register
          pending.task.state pending.task.mobileConsumable
        some {
          device := { device with
            register := register
            tasks := device.tasks.eraseIdx index }
          pending := pending
          result := result }
      else
        none

/-- A local activation: the stamped state and the device after it. -/
def activate (self : DeviceId) (env : AdvanceEnv) (mobileConsumable : Bool)
    (snapshotHash : String) (entryId : EntryId) (device : Device) :
    ActiveClipboardState × Device :=
  let (state, register) := advanceLocal env mobileConsumable device.clock self
    device.register snapshotHash entryId
  (state, { device with register := register })

/-! ## Effect of each step -/

@[simp]
theorem receive_register
    (env : InboundEnv) (inbound : InboundActiveClipboardState)
    (device : Device) :
    (device.receive env inbound).register = device.register := by
  unfold receive
  split <;> rfl

theorem mem_tasks_receive
    {env : InboundEnv} {inbound : InboundActiveClipboardState}
    {device : Device} {pending : PendingTask}
    (member : pending ∈ (device.receive env inbound).tasks) :
    pending ∈ device.tasks ∨
      pending.activation = inbound.activation := by
  unfold receive at member
  split at member
  · rename_i task scheduled
    rcases List.mem_append.mp member with old | new
    · exact Or.inl old
    · rw [List.mem_singleton] at new
      subst new
      exact Or.inr (handleOne_scheduled scheduled).1
  · exact Or.inl member
  · exact Or.inl member

theorem writeOs_register
    {index : Nat} {succeeds : Bool} {device after : Device}
    (wrote : device.writeOs index succeeds = some after) :
    after.register = device.register := by
  unfold writeOs at wrote
  split at wrote
  · cases wrote
  · split at wrote
    · cases wrote
    · split at wrote <;> (cases wrote; rfl)

theorem mem_tasks_writeOs
    {index : Nat} {succeeds : Bool} {device after : Device}
    {pending : PendingTask}
    (wrote : device.writeOs index succeeds = some after)
    (member : pending ∈ after.tasks) :
    ∃ earlier ∈ device.tasks, earlier.activation = pending.activation := by
  unfold writeOs at wrote
  split at wrote
  · cases wrote
  · rename_i current found
    have present := List.mem_of_getElem? found
    split at wrote
    · cases wrote
    · split at wrote
      · cases wrote
        rcases List.mem_or_eq_of_mem_set member with old | new
        · exact ⟨pending, old, rfl⟩
        · subst new
          exact ⟨current, present, rfl⟩
      · cases wrote
        exact ⟨pending, List.mem_of_mem_eraseIdx member, rfl⟩

theorem converge_cases
    {index : Nat} {env : AdvanceEnv} {device : Device}
    {converged : Converged}
    (ran : device.converge index env = some converged) :
    device.tasks[index]? = some converged.pending ∧
      converged.pending.written = true ∧
      advance env device.register converged.pending.task.state
          converged.pending.task.mobileConsumable =
        (converged.result, converged.device.register) ∧
      converged.device.tasks = device.tasks.eraseIdx index ∧
      converged.device.osClipboard = device.osClipboard := by
  unfold converge at ran
  split at ran
  · cases ran
  · rename_i pending found
    split at ran
    · rename_i written
      cases ran
      exact ⟨found, written, rfl, rfl, rfl⟩
    · cases ran

@[simp]
theorem activate_tasks
    (self : DeviceId) (env : AdvanceEnv) (mobileConsumable : Bool)
    (snapshotHash : String) (entryId : EntryId) (device : Device) :
    (device.activate self env mobileConsumable snapshotHash
        entryId).2.tasks = device.tasks := rfl

theorem activate_advance
    (self : DeviceId) (env : AdvanceEnv) (mobileConsumable : Bool)
    (snapshotHash : String) (entryId : EntryId) (device : Device) :
    ∃ result, advance env device.register
        (device.activate self env mobileConsumable snapshotHash entryId).1
        mobileConsumable =
      (result, (device.activate self env mobileConsumable snapshotHash
        entryId).2.register) :=
  ⟨_, rfl⟩

end Device

end OpenClipboard
