import OpenClipboard.ActiveState.Convergence

/-!
# The OS clipboard against the register

On one device the OS write of a task and its compare-and-set are two steps and
only the second is ordered by the register.  The OS clipboard ends with the
content the register names when each write is made while its task still ranks
above the register and above every written task, or repeats the content that
is already there.  An older task that writes after a newer one has advanced
leaves its content on the clipboard although it loses the compare-and-set.
-/

namespace OpenClipboard

open Transition

/-- The steps of inbound convergence on one device. -/
inductive ConvergeAction where
  | receive (inbound : InboundActiveClipboardState) (env : InboundEnv)
  | writeOs (index : Nat) (succeeds : Bool)
  | converge (index : Nat) (env : AdvanceEnv)

variable {device : Device}

namespace Device

def convergeStep (device : Device) : ConvergeAction → Option Device
  | .receive inbound env => some (device.receive env inbound)
  | .writeOs index succeeds => device.writeOs index succeeds
  | .converge index env => (device.converge index env).map Converged.device

def osHash (device : Device) : Option String :=
  device.osClipboard.map ClipboardContent.snapshotHash

def registerHash (device : Device) : Option String :=
  (registerActivation device.register).map Activation.snapshotHash

/-- The OS clipboard holds the content the register names. -/
def InStep (device : Device) : Prop :=
  device.osHash = device.registerHash

def noFailedWrite (_device : Device) : ConvergeAction → Prop
  | .writeOs _ succeeds => succeeds = true
  | _ => True

/-- The task supersedes the register and every written task. -/
def RanksAbove (device : Device) (pending : PendingTask) : Prop :=
  (∀ row ∈ device.register, pending.task.state.supersedes row.load = true) ∧
    ∀ other ∈ device.tasks, other.written = true →
      pending.task.state.supersedes other.task.state = true

theorem RanksAbove.register_lt {pending : PendingTask}
    (ranksAbove : device.RanksAbove pending) :
    registerRank device.register <
      (pending.activation.key : WithBot _) := by
  cases held : device.register with
  | none => exact WithBot.bot_lt_coe _
  | some row =>
      have newer := ranksAbove.1 row (by simp [held])
      rw [ActiveClipboardState.supersedes_iff] at newer
      exact WithBot.coe_lt_coe.mpr newer

theorem RanksAbove.task_lt {pending other : PendingTask}
    (ranksAbove : device.RanksAbove pending) (present : other ∈ device.tasks)
    (written : other.written = true) :
    other.activation.key < pending.activation.key := by
  have newer := ranksAbove.2 other present written
  rw [ActiveClipboardState.supersedes_iff] at newer
  exact newer

/-- No OS write fails, each one is in order or repeats the content that is
there, and the register storage answers. -/
def writesInOrder (device : Device) : ConvergeAction → Prop
  | .receive _ _ => True
  | .writeOs index succeeds =>
      succeeds = true ∧
        ∀ pending ∈ device.tasks[index]?,
          device.RanksAbove pending ∨
            device.osHash = some pending.activation.snapshotHash
  | .converge index env =>
      ∀ pending ∈ device.tasks[index]?,
        env.Works pending.task.state pending.task.mobileConsumable

instance (device : Device) (action : ConvergeAction) :
    Decidable (device.noFailedWrite action) :=
  match action with
  | .receive _ _ => isTrue trivial
  | .writeOs _ _ => inferInstanceAs (Decidable (_ = true))
  | .converge _ _ => isTrue trivial

instance (device : Device) (pending : PendingTask) :
    Decidable (device.RanksAbove pending) :=
  inferInstanceAs (Decidable (_ ∧ _))

instance (device : Device) (action : ConvergeAction) :
    Decidable (device.writesInOrder action) :=
  match action with
  | .receive _ _ => isTrue trivial
  | .writeOs index _ => inferInstanceAs (Decidable (_ = true ∧
      ∀ pending ∈ device.tasks[index]?, device.RanksAbove pending ∨
        device.osHash = some pending.activation.snapshotHash))
  | .converge index _ => inferInstanceAs (Decidable
      (∀ pending ∈ device.tasks[index]?, _ ∧ _))

/-! ## The content of the highest rank is on the clipboard -/

/-- Among the register and the written tasks, whatever ranks highest names the
content on the OS clipboard. -/
structure Aligned (device : Device) : Prop where
  task : ∀ pending ∈ device.tasks, pending.written = true →
    (∀ other ∈ device.tasks, other.written = true →
      other.activation.key ≤ pending.activation.key) →
    registerRank device.register ≤ (pending.activation.key : WithBot _) →
    device.osHash = some pending.activation.snapshotHash
  register :
    (∀ other ∈ device.tasks, other.written = true →
      (other.activation.key : WithBot _) ≤ registerRank device.register) →
    device.osHash = device.registerHash

theorem Aligned.receive {env : InboundEnv}
    {inbound : InboundActiveClipboardState} (aligned : device.Aligned) :
    (device.receive env inbound).Aligned := by
  unfold Device.receive
  split
  · rename_i task _
    have sameWritten : ∀ pending : PendingTask, pending.written = true →
        (pending ∈ device.tasks ++ [⟨inbound.peerDeviceId, task, false⟩] ↔
          pending ∈ device.tasks) := by
      intro pending written
      simp only [List.mem_append, List.mem_singleton, or_iff_left_iff_imp]
      rintro rfl
      cases written
    constructor
    · intro pending member written highest aboveRegister
      exact aligned.task pending ((sameWritten pending written).mp member)
        written (fun other present otherWritten =>
          highest other ((sameWritten other otherWritten).mpr present)
            otherWritten) aboveRegister
    · intro below
      exact aligned.register fun other present otherWritten =>
        below other ((sameWritten other otherWritten).mpr present)
          otherWritten
  · exact aligned
  · exact aligned

private theorem written_mem_set
    {tasks : List PendingTask} {index : Nat} {current marked : PendingTask}
    {other : PendingTask}
    (found : tasks[index]? = some current)
    (unwritten : current.written = false)
    (present : other ∈ tasks) (written : other.written = true) :
    other ∈ tasks.set index marked := by
  obtain ⟨position, atPosition⟩ := List.mem_iff_getElem?.mp present
  have apart : index ≠ position := by
    rintro rfl
    rw [found] at atPosition
    cases atPosition
    rw [unwritten] at written
    cases written
  exact List.mem_iff_getElem?.mpr
    ⟨position, by rw [List.getElem?_set_ne apart, atPosition]⟩

theorem Aligned.writeOs
    {device after : Device} {index : Nat}
    (aligned : device.Aligned)
    (inOrder : device.writesInOrder (.writeOs index true))
    (wrote : device.writeOs index true = some after) : after.Aligned := by
  unfold Device.writeOs at wrote
  split at wrote
  · cases wrote
  · rename_i current found
    split at wrote
    · cases wrote
    · rename_i unwritten
      have notWritten : current.written = false := by simpa using unwritten
      rw [if_pos rfl] at wrote
      cases wrote
      set marked : PendingTask := { current with written := true }
      have keeps : ∀ other ∈ device.tasks, other.written = true →
          other ∈ device.tasks.set index marked := fun other present written =>
        written_mem_set found notWritten present written
      have placed : marked ∈ device.tasks.set index marked := by
        obtain ⟨inside, _⟩ := List.getElem?_eq_some_iff.mp found
        exact List.mem_set inside marked
      rcases inOrder.2 current found with ranksAbove | repeats
      · constructor
        · intro pending member written highest _
          rcases List.mem_or_eq_of_mem_set member with old | rfl
          · exact absurd (highest marked placed rfl)
              (not_le.mpr (ranksAbove.task_lt old written))
          · rfl
        · intro below
          exact absurd (below marked placed rfl)
            (not_le.mpr ranksAbove.register_lt)
      · constructor
        · intro pending member written highest aboveRegister
          rcases List.mem_or_eq_of_mem_set member with old | rfl
          · have seen := aligned.task pending old written
              (fun other present otherWritten =>
                highest other (keeps other present otherWritten) otherWritten)
              aboveRegister
            rw [← seen, repeats]
            rfl
          · rfl
        · intro below
          have seen := aligned.register fun other present otherWritten =>
            below other (keeps other present otherWritten) otherWritten
          exact repeats.symm.trans seen

theorem Aligned.converge {index : Nat} {env : AdvanceEnv}
    {converged : Converged} (aligned : device.Aligned)
    (inOrder : device.writesInOrder (.converge index env))
    (ran : device.converge index env = some converged) :
    converged.device.Aligned := by
  obtain ⟨found, written, advanced, remaining, sameOs⟩ :=
    Device.converge_cases ran
  obtain ⟨won, succeeded⟩ :=
    (inOrder converged.pending found).advance_ok device.register
  have result_ok : converged.result = .ok won := by
    rw [← succeeded, advanced]
  rw [result_ok] at advanced
  have present := List.mem_of_getElem? found
  have offered := advance_ok advanced
  have stays : ∀ other ∈ converged.device.tasks, other ∈ device.tasks := by
    intro other member
    rw [remaining] at member
    exact List.mem_of_mem_eraseIdx member
  have leaves : ∀ other ∈ device.tasks,
      other ∈ converged.device.tasks ∨ other = converged.pending := by
    intro other member
    rw [remaining, List.mem_eraseIdx_iff_getElem?]
    obtain ⟨position, atPosition⟩ := List.mem_iff_getElem?.mp member
    by_cases same : position = index
    · rw [same, found] at atPosition
      exact Or.inr (Option.some.inj atPosition).symm
    · exact Or.inl ⟨position, same, atPosition⟩
  have sameHash : converged.device.osHash = device.osHash :=
    congrArg (Option.map ClipboardContent.snapshotHash) sameOs
  by_cases wins : registerRank device.register <
      (converged.pending.activation.key : WithBot _)
  · -- the register now names the task that left
    have held := offered.trans (LastWriter.offer_eq_of_lt _ wins)
    have rank : registerRank converged.device.register =
        (converged.pending.activation.key : WithBot _) := by
      rw [registerRank, held]
      rfl
    constructor
    · intro pending member pendingWritten highest aboveRegister
      rw [rank, WithBot.coe_le_coe] at aboveRegister
      rw [sameHash]
      refine aligned.task pending (stays pending member) pendingWritten ?_
        (wins.le.trans (WithBot.coe_le_coe.mpr aboveRegister))
      intro other otherPresent otherWritten
      rcases leaves other otherPresent with kept | rfl
      · exact highest other kept otherWritten
      · exact aboveRegister
    · intro below
      rw [rank] at below
      rw [sameHash, registerHash, held]
      refine aligned.task converged.pending present written ?_ wins.le
      intro other otherPresent otherWritten
      rcases leaves other otherPresent with kept | rfl
      · exact WithBot.coe_le_coe.mp (below other kept otherWritten)
      · exact le_refl _
  · -- the register keeps what it holds, which covers the task that left
    have covered := not_lt.mp wins
    have kept := offered.trans (LastWriter.offer_eq_of_le _ covered)
    have rank : registerRank converged.device.register =
        registerRank device.register :=
      congrArg (LastWriter.rank Activation.key) kept
    constructor
    · intro pending member pendingWritten highest aboveRegister
      rw [rank] at aboveRegister
      rw [sameHash]
      refine aligned.task pending (stays pending member) pendingWritten ?_
        aboveRegister
      intro other otherPresent otherWritten
      rcases leaves other otherPresent with remains | rfl
      · exact highest other remains otherWritten
      · exact WithBot.coe_le_coe.mp (covered.trans aboveRegister)
    · intro below
      rw [rank] at below
      rw [sameHash, registerHash, kept]
      refine aligned.register ?_
      intro other otherPresent otherWritten
      rcases leaves other otherPresent with remains | rfl
      · exact below other remains otherWritten
      · exact covered

theorem Aligned.step
    {device after : Device} {action : ConvergeAction}
    (aligned : device.Aligned)
    (inOrder : device.writesInOrder action)
    (stepped : device.convergeStep action = some after) :
    after.Aligned := by
  cases action with
  | receive inbound env =>
      cases stepped
      exact aligned.receive
  | writeOs index succeeds =>
      obtain rfl : succeeds = true := inOrder.1
      exact aligned.writeOs inOrder stepped
  | converge index env =>
      obtain ⟨converged, ran, rfl⟩ := Option.map_eq_some_iff.mp stepped
      exact aligned.converge inOrder ran

theorem aligned_of_inStep (idle : device.tasks = []) (inStep : device.InStep) :
    device.Aligned where
  task pending member := by
    rw [idle] at member
    cases member
  register _ := inStep

/-- In every run of accepted announcements whose writes are in order, a device
that starts idle and in step is in step whenever it is idle again. -/
theorem osClipboard_inStep
    {start finish : Device}
    (idle : start.tasks = []) (inStep : start.InStep)
    (run : Run convergeStep writesInOrder start finish)
    (finished : finish.tasks = []) : finish.InStep := by
  have aligned : finish.Aligned :=
    run.preserves (aligned_of_inStep idle inStep)
      fun _ _ _ alignedBefore inOrder stepped =>
        alignedBefore.step inOrder stepped
  exact aligned.register (by simp [finished])

end Device

/-! ## An older write that lands last -/

namespace OlderWriteLast

open SameMillisecond

def observed (hash : String) (at_ : Int) : InboundActiveClipboardState where
  peerDeviceId := phone
  snapshotHash := hash
  senderEntryId := hash
  activatedAtMs := at_
  activatedBy := phone

def accept (hash : String) (at_ : Int) : ConvergeAction :=
  .receive (observed hash at_) ports

/-- Both announcements are accepted; the newer task writes and advances before
the older one writes. -/
def actions : List ConvergeAction :=
  [accept "older" 1, accept "newer" 2,
    .writeOs 1 true, .converge 1 storage,
    .writeOs 0 true, .converge 0 storage]

/-- The same two announcements, written in the order of their stamps. -/
def orderedActions : List ConvergeAction :=
  [accept "older" 1, accept "newer" 2,
    .writeOs 0 true, .writeOs 1 true,
    .converge 1 storage, .converge 0 storage]

theorem actions_result :
    (execute Device.convergeStep (Device.fresh 5) actions).map
        (fun device => (device.tasks, device.osHash, device.registerHash)) =
      some ([], some "older", some "newer") := by
  decide

end OlderWriteLast

open OlderWriteLast in
/-- Without a failed write, a device can finish every task with one content on
its clipboard and another in its register. -/
theorem olderWriteLast_not_inStep :
    ∃ finish, Run Device.convergeStep Device.noFailedWrite
        (Device.fresh 5) finish ∧
      (Device.fresh 5).InStep ∧ finish.tasks = [] ∧ ¬ finish.InStep := by
  obtain ⟨finish, executed, seen⟩ := Option.map_eq_some_iff.mp actions_result
  simp only [Prod.mk.injEq] at seen
  obtain ⟨idle, osHash, registerHash⟩ := seen
  refine ⟨finish, Run.ofExecute (by decide) executed, rfl, idle, ?_⟩
  rw [Device.InStep, osHash, registerHash]
  decide

open OlderWriteLast in
/-- Two tasks in flight at once, written in order. -/
theorem osClipboard_inStep_ordered_run :
    ∃ finish, Run Device.convergeStep Device.writesInOrder
        (Device.fresh 5) finish ∧
      finish.osHash = some "newer" ∧ finish.InStep := by
  obtain ⟨finish, executed, seen⟩ := Option.map_eq_some_iff.mp
    (show (execute Device.convergeStep (Device.fresh 5) orderedActions).map
        (fun device => (device.tasks, device.osHash)) =
      some ([], some "newer") by decide)
  simp only [Prod.mk.injEq] at seen
  have run : Run Device.convergeStep Device.writesInOrder
      (Device.fresh 5) finish := Run.ofExecute (by decide) executed
  have inStep : (Device.fresh 5).InStep := rfl
  exact ⟨finish, run, seen.2,
    Device.osClipboard_inStep rfl inStep run seen.1⟩

end OpenClipboard
