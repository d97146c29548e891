import OpenClipboard.FileTransfer.Timeline
import OpenClipboard.Library.Table
import OpenClipboard.Library.Transition

/-!
# Concurrent calls on the transfers

A call loads a history, checks its step, and appends its event in a later
transaction, which also updates the row of the receiver.  Between the two any
other call may append.
-/

namespace OpenClipboard.FileTransfer

open Transition

inductive TrackedFileTransferStatus where
  | pending
  | transferring
  | completed
  | failed
  | cancelled
  deriving DecidableEq, Repr

structure FileTransferRow where
  entryId : String
  filename : String
  fileSize : Option Nat
  status : TrackedFileTransferStatus
  sourceDevice : String
  cachedPath : Option String
  failureReason : Option String
  deriving DecidableEq, Repr

structure PendingInboundTransfer where
  transferId : String
  entryId : String
  originDeviceId : String
  filename : String
  cachedPath : String
  deriving DecidableEq, Repr

/-- The event log and the projection. -/
structure ReceiverStore where
  events : Table String (List FileTransferEvent)
  projection : Table String FileTransferRow

/-! ## The store -/

def failureReasonOf : FileTransferFailureReason → String
  | .networkUnavailable => "network_unavailable"
  | .timedOut => "timed_out"
  | .accessDenied => "access_denied"
  | .storageUnavailable => "storage_unavailable"
  | .integrityCheckFailed => "integrity_check_failed"
  | .unknown => "unknown"

def cancellationReasonOf : FileTransferCancellationReason → String
  | .localUser => "local_user"
  | .remotePeer => "remote_peer"
  | .replaced => "replaced"
  | .timeout => "timeout"
  | .unknown => "unknown"

def i64Max : Nat := 9223372036854775807

/-- `apply_event` on the row of the transfer. -/
def applyEvent (row : FileTransferRow) : FileTransferEvent → FileTransferRow
  | .started _ _ filename fileSize =>
      { row with
        status := .transferring
        filename := filename
        fileSize := fileSize.map fun size => min size i64Max }
  | .progress _ _ _ => { row with status := .transferring }
  | .completed _ _ => { row with status := .completed }
  | .failed _ _ reason _ =>
      { row with
        status := .failed
        failureReason := some (failureReasonOf reason) }
  | .cancelled _ _ reason =>
      { row with
        status := .cancelled
        failureReason := some (cancellationReasonOf reason) }

namespace ReceiverStore

def empty : ReceiverStore := ⟨∅, ∅⟩

def load (store : ReceiverStore) (transferId : String) :
    List FileTransferEvent :=
  (store.events.find transferId).getD []

def updateRow (store : ReceiverStore) (transferId : String)
    (change : FileTransferRow → FileTransferRow) : ReceiverStore :=
  match store.projection.find transferId with
  | none => store
  | some row =>
      { store with projection := store.projection.put transferId (change row) }

/-- `append`: the event and the row, in one transaction. -/
def append (store : ReceiverStore) (event : FileTransferEvent) :
    ReceiverStore :=
  updateRow
    { store with
      events := store.events.put event.transferId
        (store.load event.transferId ++ [event]) }
    event.transferId fun row => applyEvent row event

/-- `upsert_pending_transfer`: a row that is no longer pending stays. -/
def upsertPendingTransfer (store : ReceiverStore)
    (transfer : PendingInboundTransfer) : ReceiverStore :=
  match store.projection.find transfer.transferId with
  | none =>
      { store with
        projection := store.projection.put transfer.transferId {
          entryId := transfer.entryId
          filename := transfer.filename
          fileSize := none
          status := .pending
          sourceDevice := transfer.originDeviceId
          cachedPath := some transfer.cachedPath
          failureReason := none } }
  | some row =>
      if row.status ≠ .pending then
        store
      else
        { store with
          projection := store.projection.put transfer.transferId
            { row with
              entryId := transfer.entryId
              filename := transfer.filename
              sourceDevice := transfer.originDeviceId
              cachedPath := some transfer.cachedPath } }

def linkTransferToEntry (store : ReceiverStore) (transferId entryId : String) :
    ReceiverStore :=
  store.updateRow transferId fun row => { row with entryId := entryId }

end ReceiverStore

/-! ## Calls in flight -/

/-- The store, and the calls that have passed their check, by task. -/
structure World where
  store : ReceiverStore
  inFlight : Table Nat Call

inductive Action where
  | load (task : Nat) (call : Call)
  | append (task : Nat)
  | appendFails (task : Nat)
  | seedReceiverContext (transfer : PendingInboundTransfer)
  | linkTransferToEntry (transferId entryId : String)
  deriving DecidableEq, Repr

namespace World

def start : World := ⟨.empty, ∅⟩

def step (world : World) : Action → Option World
  | .load task call =>
      match world.inFlight.find task with
      | some _ => none
      | none =>
          match call.execute (world.store.load call.transferId) with
          | .error _ => some world
          | .ok _ => some { world with
              inFlight := world.inFlight.put task call }
  | .append task =>
      match world.inFlight.find task with
      | none => none
      | some call => some {
          store := world.store.append call.event
          inFlight := world.inFlight.remove task }
  | .appendFails task =>
      match world.inFlight.find task with
      | none => none
      | some _ => some { world with inFlight := world.inFlight.remove task }
  | .seedReceiverContext transfer =>
      some { world with store := world.store.upsertPendingTransfer transfer }
  | .linkTransferToEntry transferId entryId =>
      some { world with
        store := world.store.linkTransferToEntry transferId entryId }

end World

/-! ## Sound stores -/

def statusOf : FileTransferEvent → TrackedFileTransferStatus
  | .started _ _ _ _ => .transferring
  | .progress _ _ _ => .transferring
  | .completed _ _ => .completed
  | .failed _ _ _ _ => .failed
  | .cancelled _ _ _ => .cancelled

def endStatus (history : List FileTransferEvent) : TrackedFileTransferStatus :=
  match history.getLast? with
  | none => .pending
  | some event => statusOf event

/-- Every history is well formed, and every row has the status that its history
ends in. -/
structure ReceiverStore.Sound (store : ReceiverStore) : Prop where
  wellFormed : ∀ transferId, WellFormed transferId (store.load transferId)
  status : ∀ transferId row, store.projection.find transferId = some row →
    row.status = endStatus (store.load transferId)

/-- A call appends where it would still pass its check, and a row is seeded
before the first event. -/
def Fits (world : World) : Action → Prop
  | .append task => ∀ call, world.inFlight.find task = some call →
      call.execute (world.store.load call.transferId) = .ok call.event
  | .seedReceiverContext transfer =>
      world.store.projection.find transfer.transferId = none →
        world.store.load transfer.transferId = []
  | _ => True

variable {change : FileTransferRow → FileTransferRow}
  {event : FileTransferEvent}

section Steps

variable {store : ReceiverStore} {transferId : String}

theorem load_updateRow {other : String} :
    (store.updateRow other change).load transferId =
      store.load transferId := by
  unfold ReceiverStore.updateRow
  split <;> rfl

theorem find_updateRow {other : String} :
    (store.updateRow other change).projection.find transferId =
      if transferId = other then
        (store.projection.find transferId).map change
      else
        store.projection.find transferId := by
  unfold ReceiverStore.updateRow
  by_cases same : transferId = other
  · rw [if_pos same, same]
    cases found : store.projection.find other with
    | none => exact found
    | some row => exact Table.find_put_self
  · rw [if_neg same]
    cases store.projection.find other with
    | none => rfl
    | some row => exact Table.find_put_of_ne same

theorem load_append :
    (store.append event).load transferId =
      if transferId = event.transferId then
        store.load transferId ++ [event]
      else
        store.load transferId := by
  unfold ReceiverStore.append
  rw [load_updateRow]
  unfold ReceiverStore.load
  rw [Table.find_put]
  by_cases same : transferId = event.transferId
  · rw [if_pos same, if_pos same, same]
    rfl
  · rw [if_neg same, if_neg same]

theorem status_applyEvent {row : FileTransferRow} :
    (applyEvent row event).status = statusOf event := by
  cases event <;> rfl

theorem endStatus_append {history : List FileTransferEvent} :
    endStatus (history ++ [event]) = statusOf event := by
  unfold endStatus
  rw [List.getLast?_concat]

theorem endStatus_eq_pending_iff {history : List FileTransferEvent} :
    endStatus history = .pending ↔ history = [] := by
  unfold endStatus
  cases isLast : history.getLast? with
  | none => simpa using List.getLast?_eq_none_iff.mp isLast
  | some event =>
      have nonempty : history ≠ [] := by
        intro isEmpty
        rw [isEmpty] at isLast
        cases isLast
      cases event <;> simp [statusOf, nonempty]

/-- An append keeps the store sound exactly if its call would still pass. -/
theorem sound_append_iff {call : Call} (sound : store.Sound) :
    (store.append call.event).Sound ↔
      call.execute (store.load call.transferId) = .ok call.event := by
  rw [← Call.wellFormed_append_iff (sound.wellFormed call.transferId)]
  have appended : (store.append call.event).load call.transferId =
      store.load call.transferId ++ [call.event] := by
    rw [load_append, if_pos Call.event_transferId.symm]
  constructor
  · intro after
    rw [← appended]
    exact after.wellFormed call.transferId
  · intro extended
    constructor
    · intro other
      by_cases same : other = call.transferId
      · rw [same, appended]
        exact extended
      · rw [load_append, Call.event_transferId, if_neg same]
        exact sound.wellFormed other
    · intro other row isRow
      by_cases same : other = call.event.transferId
      · unfold ReceiverStore.append at isRow
        rw [find_updateRow, if_pos same] at isRow
        obtain ⟨old, _, isNew⟩ := Option.map_eq_some_iff.mp isRow
        rw [load_append, if_pos same, endStatus_append, ← isNew,
          status_applyEvent]
      · unfold ReceiverStore.append at isRow
        rw [find_updateRow, if_neg same] at isRow
        rw [load_append, if_neg same]
        exact sound.status other row isRow

theorem sound_upsertPendingTransfer_iff {transfer : PendingInboundTransfer}
    (sound : store.Sound) :
    (store.upsertPendingTransfer transfer).Sound ↔
      (store.projection.find transfer.transferId = none →
        store.load transfer.transferId = []) := by
  unfold ReceiverStore.upsertPendingTransfer
  cases found : store.projection.find transfer.transferId with
  | none =>
      simp only [forall_const]
      constructor
      · intro after
        rw [← endStatus_eq_pending_iff]
        exact (after.status transfer.transferId _ Table.find_put_self).symm
      · intro isEmpty
        constructor
        · exact sound.wellFormed
        · intro other row isRow
          simp only [Table.find_put] at isRow
          split at isRow
          · rename_i same
            cases isRow
            rw [same]
            exact (endStatus_eq_pending_iff.mpr isEmpty).symm
          · exact sound.status other row isRow
  | some old =>
      apply iff_of_true
      · simp only
        split
        · exact sound
        · constructor
          · exact sound.wellFormed
          · intro other row isRow
            simp only [Table.find_put] at isRow
            split at isRow
            · rename_i same
              cases isRow
              rw [same]
              exact sound.status _ old found
            · exact sound.status other row isRow
      · intro absent
        cases absent

theorem sound_linkTransferToEntry {entryId : String} (sound : store.Sound) :
    (store.linkTransferToEntry transferId entryId).Sound := by
  constructor
  · intro other
    unfold ReceiverStore.linkTransferToEntry
    rw [load_updateRow]
    exact sound.wellFormed other
  · intro other row isRow
    unfold ReceiverStore.linkTransferToEntry at isRow ⊢
    rw [find_updateRow] at isRow
    rw [load_updateRow]
    split at isRow
    · obtain ⟨old, isOld, isNew⟩ := Option.map_eq_some_iff.mp isRow
      rw [← isNew]
      exact sound.status other old isOld
    · exact sound.status other row isRow

theorem sound_step_iff {world next : World} {action : Action}
    (sound : world.store.Sound) (stepped : world.step action = some next) :
    next.store.Sound ↔ Fits world action := by
  cases action with
  | load task call =>
      unfold World.step at stepped
      simp only at stepped
      apply iff_of_true _ trivial
      split at stepped
      · cases stepped
      · split at stepped
        · cases stepped
          exact sound
        · cases stepped
          exact sound
  | append task =>
      unfold World.step at stepped
      simp only at stepped
      cases found : world.inFlight.find task with
      | none =>
          rw [found] at stepped
          cases stepped
      | some call =>
          rw [found] at stepped
          cases stepped
          have fits : Fits world (.append task) ↔
              call.execute (world.store.load call.transferId) =
                .ok call.event := by
            constructor
            · intro fits
              exact fits call found
            · intro passes other isOther
              rw [found] at isOther
              cases isOther
              exact passes
          rw [fits]
          exact sound_append_iff sound
  | appendFails task =>
      unfold World.step at stepped
      simp only at stepped
      apply iff_of_true _ trivial
      split at stepped
      · cases stepped
      · cases stepped
        exact sound
  | seedReceiverContext transfer =>
      cases stepped
      exact sound_upsertPendingTransfer_iff sound
  | linkTransferToEntry transferId entryId =>
      cases stepped
      exact iff_of_true (sound_linkTransferToEntry sound) trivial

theorem sound_start : World.start.store.Sound := by
  have nothing : ∀ transferId, World.start.store.load transferId = [] := by
    intro transferId
    unfold ReceiverStore.load World.start ReceiverStore.empty
    rw [Table.find_empty]
    rfl
  constructor
  · intro transferId
    rw [nothing]
    exact ⟨⟨_, rfl⟩, List.Pairwise.nil⟩
  · intro transferId row isRow
    have absent : World.start.store.projection.find transferId = none :=
      Table.find_empty
    rw [absent] at isRow
    cases isRow

end Steps

/-- The histories and the rows are sound at every point of a run exactly if
every step fits. -/
theorem historiesSound_iff (actions : List Action) :
    (∀ done world, done <+: actions →
      execute World.step World.start done = some world → world.store.Sound) ↔
      Guarded World.step Fits World.start actions := by
  apply @guarded_iff_history _ _ World.step Fits
    (fun _ world => world.store.Sound) [] actions World.start
  · intro world action _ disabled
    cases action with
    | append task =>
        intro call isCall
        unfold World.step at disabled
        simp only [isCall] at disabled
        cases disabled
    | seedReceiverContext transfer => cases disabled
    | load task call => trivial
    | appendFails task => trivial
    | linkTransferToEntry transferId entryId => trivial
  · intro _ world action _ next sound stepped
    exact sound_step_iff sound stepped
  · exact sound_start

namespace Sample

/-- A report is checked, the transfer completes, and then the report is
appended. -/
def lateReport : List Action :=
  [.seedReceiverContext ⟨"transfer", "entry", "peer", "report.pdf", "/cache"⟩,
    .load 0 (.start "transfer" "peer" "report.pdf" none),
    .append 0,
    .load 1 (.reportProgress "transfer" "peer" ⟨.receiving, 10, none⟩),
    .load 2 (.complete "transfer" "peer"),
    .append 2,
    .append 1]

end Sample

open Sample in
/-- The completed transfer is shown as transferring, and no later call
loads it. -/
theorem lateReport_reopens :
    (execute World.step World.start lateReport).map (fun world =>
      ((world.store.projection.find "transfer").map FileTransferRow.status,
        (world.store.load "transfer").map statusOf)) =
      some (some .transferring, [.transferring, .completed, .transferring]) ∧
    ¬ ∀ done world, done <+: lateReport →
      execute World.step World.start done = some world →
        world.store.Sound := by
  have reopened : (execute World.step World.start lateReport).map (fun world =>
      ((world.store.projection.find "transfer").map FileTransferRow.status,
        (world.store.load "transfer").map statusOf)) =
      some (some .transferring,
        [.transferring, .completed, .transferring]) := by
    decide +kernel
  refine ⟨reopened, ?_⟩
  intro sound
  obtain ⟨world, executed, _⟩ := Option.map_eq_some_iff.mp reopened
  obtain ⟨timeline, accepted⟩ := ((sound lateReport world
    (List.prefix_refl _) executed).wellFormed "transfer").accepted
  have history : (execute World.step World.start lateReport).map (fun world =>
      (TransferTimeline.fromHistory "transfer"
        (world.store.load "transfer")).toOption) = some none := by
    decide +kernel
  rw [executed, Option.map_some, accepted] at history
  cases history

end OpenClipboard.FileTransfer
