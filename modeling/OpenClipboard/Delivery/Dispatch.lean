import OpenClipboard.ActiveState.ApplyInbound
import OpenClipboard.Library.Table

/-!
# Dispatching an entry and recording what came of it

A dispatch sends one frame to every selected peer, one task each.  Results
that come within the deadline are folded into the outcome and recorded after
it; the later ones are recorded by a detached drain, one by one.
-/

namespace OpenClipboard.Delivery

inductive DispatchAck where
  | accepted
  | duplicateIgnored
  deriving DecidableEq, Repr

inductive ClipboardDispatchError where
  | offline
  | localPolicyExceeded (reason : String)
  | peerRejected (reason : String)
  | io (reason : String)
  | internal (reason : String)
  deriving DecidableEq, Repr

def ClipboardDispatchError.message : ClipboardDispatchError → String
  | .offline => "target device offline or unreachable"
  | .localPolicyExceeded reason =>
      "local policy rejected payload before dispatch: " ++ reason
  | .peerRejected reason => "peer rejected: " ++ reason
  | .io reason => "stream io: " ++ reason
  | .internal reason => "internal: " ++ reason

/-! ## Delivery records -/

inductive DeliveryFailureReason where
  | localPolicy
  | peerRejected
  | io
  | internal
  deriving DecidableEq, Repr

inductive EntryDeliveryStatus where
  | delivered
  | duplicate
  | unreachable
  | failed (reason : DeliveryFailureReason)
  deriving DecidableEq, Repr

structure EntryDeliveryRecord where
  entryId : EntryId
  targetDeviceId : DeviceId
  status : EntryDeliveryStatus
  reasonDetail : Option String
  updatedAtMs : Int
  deriving DecidableEq, Repr

inductive EntryDeliveryError where
  | entryNotFound (entryId : String)
  | storage (message : String)
  deriving DecidableEq, Repr

def EntryDeliveryRecord.key (record : EntryDeliveryRecord) :
    EntryId × DeviceId :=
  (record.entryId, record.targetDeviceId)

namespace StatusCodec

def encode : EntryDeliveryStatus → String
  | .delivered => "delivered"
  | .duplicate => "duplicate"
  | .unreachable => "unreachable"
  | .failed .localPolicy => "failed_local_policy"
  | .failed .peerRejected => "failed_peer_rejected"
  | .failed .io => "failed_io"
  | .failed .internal => "failed_internal"

/-- Rows from before `unreachable` read as that. -/
def decode (raw : String) : Except EntryDeliveryError EntryDeliveryStatus :=
  if raw = "delivered" then .ok .delivered
  else if raw = "duplicate" then .ok .duplicate
  else if raw = "unreachable" ∨ raw = "failed_offline" then .ok .unreachable
  else if raw = "failed_local_policy" then .ok (.failed .localPolicy)
  else if raw = "failed_peer_rejected" then .ok (.failed .peerRejected)
  else if raw = "failed_io" then .ok (.failed .io)
  else if raw = "failed_internal" then .ok (.failed .internal)
  else .error (.storage ("unknown delivery status code: " ++ raw))

@[simp]
theorem decode_encode (status : EntryDeliveryStatus) :
    decode (encode status) = .ok status := by
  cases status with
  | delivered => decide
  | duplicate => decide
  | unreachable => decide
  | failed reason => cases reason <;> decide

end StatusCodec

/-- The columns beside the key. -/
structure EntryDeliveryRow where
  status : String
  reasonDetail : Option String
  updatedAtMs : Int
  deriving DecidableEq, Repr

/-- `clipboard_entry_delivery`. -/
abbrev EntryDeliveryTable := Table (EntryId × DeviceId) EntryDeliveryRow

def EntryDeliveryRecord.newRow (record : EntryDeliveryRecord) :
    EntryDeliveryRow where
  status := StatusCodec.encode record.status
  reasonDetail := record.reasonDetail
  updatedAtMs := record.updatedAtMs

def rowToRecord (key : EntryId × DeviceId) (row : EntryDeliveryRow) :
    Except EntryDeliveryError EntryDeliveryRecord :=
  (StatusCodec.decode row.status).map fun status => {
    entryId := key.1
    targetDeviceId := key.2
    status := status
    reasonDetail := row.reasonDetail
    updatedAtMs := row.updatedAtMs }

@[simp]
theorem rowToRecord_newRow (record : EntryDeliveryRecord) :
    rowToRecord record.key record.newRow = .ok record := by
  unfold rowToRecord EntryDeliveryRecord.newRow
  rw [StatusCodec.decode_encode]
  rfl

/-- `replace_into`, unless the database refuses it. -/
def recordAttempt (failure : Option EntryDeliveryError)
    (record : EntryDeliveryRecord) (table : EntryDeliveryTable) :
    EntryDeliveryTable :=
  match failure with
  | some _ => table
  | none => table.put record.key record.newRow

/-! ## One task -/

structure DispatchPerTarget where
  deviceId : DeviceId
  outcome : Except String DispatchAck
  deriving DecidableEq, Repr

inductive DispatchResultBucket where
  | accepted
  | duplicate
  | offline
  | errored
  | panicked
  deriving DecidableEq, Repr

structure ProcessedDispatchResult where
  perTarget : Option DispatchPerTarget
  deliveryRecord : Option EntryDeliveryRecord
  bucket : DispatchResultBucket
  deriving DecidableEq, Repr

/-- How the task of a peer ends: presence is asked before anything is sent. -/
inductive TaskEnd where
  | finished (presence : ReachabilityState)
      (dispatch : Except ClipboardDispatchError DispatchAck)
  | panicked

/-- A peer that is known to be offline is not dialed. -/
def dispatchOne (presence : ReachabilityState)
    (dispatch : Except ClipboardDispatchError DispatchAck) :
    Except ClipboardDispatchError DispatchAck :=
  if presence = .offline then .error .offline else dispatch

/-- The status of a result, and the detail kept with it. -/
def deliveryStatus :
    Except ClipboardDispatchError DispatchAck →
      EntryDeliveryStatus × Option String
  | .ok .accepted => (.delivered, none)
  | .ok .duplicateIgnored => (.duplicate, none)
  | .error .offline => (.unreachable, none)
  | .error (.localPolicyExceeded reason) =>
      (.failed .localPolicy, some reason)
  | .error (.peerRejected reason) => (.failed .peerRejected, some reason)
  | .error (.io reason) => (.failed .io, some reason)
  | .error (.internal reason) => (.failed .internal, some reason)

def resultBucket :
    Except ClipboardDispatchError DispatchAck → DispatchResultBucket
  | .ok .accepted => .accepted
  | .ok .duplicateIgnored => .duplicate
  | .error .offline => .offline
  | .error _ => .errored

def perTargetOutcome :
    Except ClipboardDispatchError DispatchAck → Except String DispatchAck
  | .ok ack => .ok ack
  | .error .offline => .error "offline"
  | .error err => .error err.message

/-- `classify_dispatch_result`; a panicked task does not name its peer. -/
def classifyDispatchResult (deviceId : DeviceId) (taskEnd : TaskEnd)
    (entryId : Option EntryId) (nowMs : Int) : ProcessedDispatchResult :=
  match taskEnd with
  | .panicked => ⟨none, none, .panicked⟩
  | .finished presence dispatch =>
      let result := dispatchOne presence dispatch
      { perTarget := some ⟨deviceId, perTargetOutcome result⟩
        deliveryRecord := entryId.map fun entryId => {
          entryId := entryId
          targetDeviceId := deviceId
          status := (deliveryStatus result).1
          reasonDetail := (deliveryStatus result).2
          updatedAtMs := nowMs }
        bucket := resultBucket result }

theorem key_of_classifyDispatchResult {deviceId : DeviceId} {taskEnd : TaskEnd}
    {entryId : Option EntryId} {nowMs : Int} {record : EntryDeliveryRecord}
    (isRecord : (classifyDispatchResult deviceId taskEnd entryId
      nowMs).deliveryRecord = some record) :
    entryId = some record.entryId ∧ deviceId = record.targetDeviceId := by
  cases taskEnd with
  | panicked => cases isRecord
  | finished presence dispatch =>
      cases entryId with
      | none => cases isRecord
      | some entryId =>
          cases isRecord
          exact ⟨rfl, rfl⟩

/-! ## One dispatch -/

structure DispatchClipboardEntryInput where
  plaintext : List UInt8
  snapshotHash : String
  categories : ClipboardContentCategorySet
  entryId : Option EntryId
  targetFilter : Option (List DeviceId)
  deriving DecidableEq, Repr

structure DispatchOutcome where
  snapshotHash : String
  perTarget : List DispatchPerTarget
  totalAccepted : Nat
  totalDuplicate : Nat
  totalOffline : Nat
  totalErrored : Nat
  totalPending : Nat
  atMs : Int
  deriving DecidableEq, Repr

def DispatchOutcome.accounted (outcome : DispatchOutcome) : Nat :=
  outcome.totalAccepted + outcome.totalDuplicate + outcome.totalOffline +
    outcome.totalErrored + outcome.totalPending

inductive DispatchSyncError where
  | lockedSpace
  | cipherFailure (message : String)
  | repository (message : String)
  deriving DecidableEq, Repr

inductive TransferEncryptError where
  | notUnlocked
  | other (message : String)
  deriving DecidableEq, Repr

structure DispatchEnv where
  encrypt : List UInt8 → Except TransferEncryptError (List UInt8)
  localDevice : DeviceId
  peerAddresses : Except String (List DeviceId)
  memberRepo : MemberRepository
  nowMs : Int

def select (env : DispatchEnv) (input : DispatchClipboardEntryInput) :
    Except DispatchSyncError (List DeviceId) :=
  match env.peerAddresses with
  | .error message => .error (.repository ("peer_addr_repo.list: " ++ message))
  | .ok records => .ok (records.filter fun deviceId =>
      deviceId != env.localDevice &&
        (match input.targetFilter with
          | some targets => targets.contains deviceId
          | none => true) &&
        MemberSendGate.isSendAllowed env.memberRepo deviceId input.categories)

/-- Where a dispatch is: it waits for results, it records those it got, or it
has answered and the drain goes on. -/
inductive DispatchPhase where
  | foreground
  | flushing
  | background
  deriving DecidableEq, Repr

structure DispatchPass where
  entryId : Option EntryId
  snapshotHash : String
  candidates : List DeviceId
  phase : DispatchPhase
  /-- The tasks whose result nobody has seen yet. -/
  inFlight : List DeviceId
  /-- The results that came before the deadline. -/
  settled : List ProcessedDispatchResult
  unrecorded : List EntryDeliveryRecord
  outcome : Option DispatchOutcome
  deriving DecidableEq, Repr

namespace DispatchPass

def countOf (bucket : DispatchResultBucket) (pass : DispatchPass) : Nat :=
  pass.settled.countP fun processed => processed.bucket = bucket

/-- The outcome of `execute`, its drain about to start. -/
def report (nowMs : Int) (pass : DispatchPass) : DispatchOutcome where
  snapshotHash := pass.snapshotHash
  perTarget := pass.settled.filterMap ProcessedDispatchResult.perTarget
  totalAccepted := pass.countOf .accepted
  totalDuplicate := pass.countOf .duplicate
  totalOffline := pass.countOf .offline
  totalErrored := pass.countOf .errored + pass.countOf .panicked
  totalPending := pass.inFlight.length
  atMs := nowMs

end DispatchPass

/-- `execute`, up to the tasks it spawns. -/
def execute (env : DispatchEnv) (input : DispatchClipboardEntryInput) :
    Except DispatchSyncError DispatchPass :=
  match env.encrypt input.plaintext with
  | .error .notUnlocked => .error .lockedSpace
  | .error (.other message) => .error (.cipherFailure message)
  | .ok _ =>
      match select env input with
      | .error err => .error err
      | .ok candidates =>
          let pass : DispatchPass := {
            entryId := input.entryId
            snapshotHash := input.snapshotHash
            candidates := candidates
            phase := .foreground
            inFlight := candidates
            settled := []
            unrecorded := []
            outcome := none }
          if candidates.isEmpty then
            .ok { pass with
              phase := .background
              outcome := some (pass.report env.nowMs) }
          else
            .ok pass

end OpenClipboard.Delivery
