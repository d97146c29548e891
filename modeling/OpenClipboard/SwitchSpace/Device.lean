import OpenClipboard.Library.Transition
import OpenClipboard.Storage.Encryption

/-!
# A device that switches its space

The switch persists its effects one by one; a step is one effect, an effect
that fails, a crash, a restart, or a step of the capture pipeline in between.
Memory (the session, the running process, captures that are not written yet)
is lost in a crash, everything else stays.
-/

namespace OpenClipboard.SwitchSpace

open OpenClipboard RepresentationTable

/-! ## What the device stores -/

inductive MigrationPhase where
  | prepared (runId : String)
  | handshakeDone (runId targetSpaceId : String)
  | swapped (runId targetSpaceId : String)
  deriving DecidableEq, Repr

/-- A keyslot file: its scope, the master key it wraps and the KEK that
unwraps it. -/
structure KeySlot where
  scope : String
  kek : MasterKey
  masterKey : MasterKey
  deriving DecidableEq, Repr

/-- A row of `clipboard_migration_backup`.  The table has no column for the
run that wrote the row; it is kept here to speak about it. -/
structure MigrationRecord where
  ciphertext : List UInt8
  writtenBy : String
  deriving DecidableEq, Repr

structure PendingEvent where
  eventId : String
  reps : List PersistedClipboardRepresentation
  deriving DecidableEq, Repr

/-! ## Where the process stands -/

/-- The next effect of the running use case. -/
inductive Process where
  /-- No process; the session is gone. -/
  | stopped
  /-- Unlocked, with no switch running; `switched` after a success. -/
  | idle (switched : Bool)
  | preparingKey
  | listing (runId : String)
  | backingUp (runId : String) (rest : List RepKey)
  | upserting (runId : String) (key : RepKey) (ciphertext : List UInt8)
      (rest : List RepKey)
  /-- `set_current` first truncates the file, then writes it. -/
  | savingPhase (truncated : Bool) (phase : Option MigrationPhase)
      (switched : Bool)
  | handshaking (runId : String)
  | storingKeyslot (runId : String) (slot : KeySlot)
  | rollingBackKeyslot (runId : String) (slot : KeySlot)
  | rollingBackKek (runId : String) (slot : KeySlot)
  | openingSession (runId : String) (slot : KeySlot)
  | confirming (runId : String)
  | admitting (runId targetSpaceId : String)
  | trusting (runId targetSpaceId : String)
  | savingAddress (runId targetSpaceId : String)
  | counting (runId targetSpaceId : String)
  | listingRecords (runId targetSpaceId : String)
  | swapping (runId targetSpaceId : String)
      (rest : List (RepKey × MigrationRecord))
  | settingStatus (runId targetSpaceId : String)
  | discardingRecords (runId : Option String) (switched : Bool)
  | discardingKey (runId : String) (switched : Bool)
  deriving DecidableEq, Repr

structure Device where
  hasCompleted : Bool
  spaceId : Option String
  representations : RepresentationTable
  backup : Table RepKey MigrationRecord
  migrationKeys : Table String MasterKey
  phase : Option MigrationPhase
  /-- The keyring's KEKs by scope. -/
  keks : Table String MasterKey
  keyslot : Option KeySlot
  blobs : Table String (List UInt8)
  session : Option MasterKey
  pendingEvents : List PendingEvent
  process : Process
  /-- Every migration key drawn so far. -/
  drawnKeys : List MasterKey
  /-- Every representation captured so far, as it was captured. -/
  captured : Table RepKey PersistedClipboardRepresentation
  /-- The plaintext of every blob written so far. -/
  writtenBlobs : Table String (List UInt8)

/-! ## Effects that fail -/

/-- Where an error of the next effect leads, `none` where nothing can fail.
Errors of clean-up, of the address and of the rollback are only warned of. -/
def Process.afterFailure : Process → Option Process
  | .stopped => none
  | .idle _ => none
  | .preparingKey => some (.discardingRecords none false)
  | .listing _ => some (.discardingRecords none false)
  | .backingUp _ [] => none
  | .backingUp _ (_ :: _) => some (.discardingRecords none false)
  | .upserting _ _ _ _ => some (.discardingRecords none false)
  | .savingPhase _ _ _ => some (.idle false)
  | .handshaking runId => some (.discardingRecords (some runId) false)
  | .storingKeyslot runId slot => some (.rollingBackKeyslot runId slot)
  | .rollingBackKeyslot runId slot => some (.rollingBackKek runId slot)
  | .rollingBackKek runId _ => some (.discardingRecords (some runId) false)
  | .openingSession _ _ => none
  | .confirming runId => some (.discardingRecords (some runId) false)
  | .admitting runId _ => some (.discardingRecords (some runId) false)
  | .trusting runId _ => some (.discardingRecords (some runId) false)
  | .savingAddress runId targetSpaceId =>
      some (.savingPhase false (some (.handshakeDone runId targetSpaceId))
        false)
  | .counting _ _ => some (.idle false)
  | .listingRecords _ _ => some (.idle false)
  | .swapping _ _ [] => none
  | .swapping _ _ (_ :: _) => some (.idle false)
  | .settingStatus _ _ => some (.idle false)
  | .discardingRecords none _ => some (.idle false)
  | .discardingRecords (some runId) switched =>
      some (.discardingKey runId switched)
  | .discardingKey _ switched => some (.savingPhase false none switched)

/-! ## Effects that succeed -/

def afterSave (switched : Bool) : Option MigrationPhase → Process
  | none => .idle switched
  | some (.prepared runId) => .handshaking runId
  | some (.handshakeDone runId targetSpaceId) => .counting runId targetSpaceId
  | some (.swapped runId targetSpaceId) => .settingStatus runId targetSpaceId

/-- `resume_pending` by the recorded phase. -/
def resumeProcess : Option MigrationPhase → Process
  | none => .idle false
  | some (.prepared runId) => .discardingRecords (some runId) false
  | some (.handshakeDone runId targetSpaceId) =>
      .listingRecords runId targetSpaceId
  | some (.swapped runId targetSpaceId) => .settingStatus runId targetSpaceId

/-- The next effect, where it leaves nothing to choose. -/
def Device.proceed (device : Device) : Option Device :=
  match device.process with
  | .backingUp runId [] =>
      some { device with
        process := .savingPhase false (some (.prepared runId)) false }
  | .upserting runId key ciphertext rest =>
      some { device with
        backup := device.backup.put key ⟨ciphertext, runId⟩
        process := .backingUp runId rest }
  | .savingPhase false phase switched =>
      some { device with
        phase := none
        process := .savingPhase true phase switched }
  | .savingPhase true phase switched =>
      some { device with
        phase := phase
        process := afterSave switched phase }
  | .storingKeyslot runId slot =>
      some { device with
        keyslot := some slot
        process := .openingSession runId slot }
  | .rollingBackKeyslot runId slot =>
      some { device with
        keyslot := device.keyslot.filter fun held => held.scope != slot.scope
        process := .rollingBackKek runId slot }
  | .rollingBackKek runId slot =>
      some { device with
        keks := device.keks.remove slot.scope
        process := .discardingRecords (some runId) false }
  | .openingSession runId slot =>
      some { device with
        session := some slot.masterKey
        process := .confirming runId }
  | .admitting runId targetSpaceId =>
      some { device with process := .trusting runId targetSpaceId }
  | .trusting runId targetSpaceId =>
      some { device with process := .savingAddress runId targetSpaceId }
  | .savingAddress runId targetSpaceId =>
      some { device with
        process := .savingPhase false
          (some (.handshakeDone runId targetSpaceId)) false }
  | .counting runId targetSpaceId =>
      some { device with process := .listingRecords runId targetSpaceId }
  | .swapping runId targetSpaceId [] =>
      some { device with
        process := .savingPhase false (some (.swapped runId targetSpaceId))
          false }
  | .settingStatus runId targetSpaceId =>
      some { device with
        hasCompleted := true
        spaceId := some targetSpaceId
        process := .discardingRecords (some runId) true }
  | .discardingRecords none _ =>
      some { device with backup := ∅, process := .idle false }
  | .discardingRecords (some runId) switched =>
      some { device with
        backup := ∅
        process := .discardingKey runId switched }
  | .discardingKey runId switched =>
      some { device with
        migrationKeys := device.migrationKeys.remove runId
        process := .savingPhase false none switched }
  | _ => none

section Cipher

variable (cipher : Sealing MasterKey Nonce)

/-- Back up the next row: decrypt it with the session's key and encrypt it
with the migration key.  A row without inline data is skipped. -/
def Device.backUp (device : Device) (nonce : Nonce) (runId : String)
    (key : RepKey) (rest : List RepKey) : Process :=
  match device.representations.readMainInlineData key with
  | none => .backingUp runId rest
  | some bytes =>
      match blobDecrypt cipher device.session bytes
          (Aad.forInline key.eventId key.repId) with
      | .error _ => .discardingRecords none false
      | .ok plaintext =>
          match device.migrationKeys.find runId with
          | none => .discardingRecords none false
          | some migrationKey =>
              .upserting runId key
                (cipher.encrypt migrationKey nonce plaintext
                  (Aad.forInline key.eventId key.repId)) rest

/-- What the next record becomes: its plaintext under the session's key. -/
def Device.swappedCiphertext (device : Device) (nonce : Nonce)
    (runId : String) (key : RepKey) (record : MigrationRecord) :
    Option (List UInt8) :=
  (device.migrationKeys.find runId).bind fun migrationKey =>
    (cipher.decrypt migrationKey record.ciphertext
        (Aad.forInline key.eventId key.repId)).bind fun plaintext =>
      device.session.map fun masterKey =>
        cipher.encrypt masterKey nonce plaintext
          (Aad.forInline key.eventId key.repId)

def Device.swapRecord (device : Device) (nonce : Nonce)
    (runId targetSpaceId : String) (key : RepKey) (record : MigrationRecord)
    (rest : List (RepKey × MigrationRecord)) : Device :=
  match (device.swappedCiphertext cipher nonce runId key record).bind
      (device.representations.updateMainInlineData key) with
  | none => { device with process := .idle false }
  | some updated =>
      { device with
        representations := updated
        process := .swapping runId targetSpaceId rest }

/-! ## Steps -/

inductive Action where
  | begin
  | prepareKey (runId : String) (key : MasterKey)
  | list (keys : List RepKey)
  | backUp (nonce : Nonce)
  | storeKek (slot : KeySlot)
  | confirm (targetSpaceId : String)
  | listRecords (records : List (RepKey × MigrationRecord))
  | swap (nonce : Nonce)
  | proceed
  | fail
  | crash
  | unlock (passphraseKek : Option MasterKey)
  | resume
  | encryptEvent (eventId : String)
      (reps : List PersistedClipboardRepresentation) (nonces : String → Nonce)
  | insertEvent (index : Nat)
  | deleteEvent (eventId : String)
  | replaceEvent (oldEventId newEventId : String)
      (reps : List PersistedClipboardRepresentation)
  | writeBlob (blobId : String) (plaintext : List UInt8) (nonce : Nonce)
  | updateProcessing (repId : String)
      (expectedStates : List PayloadAvailability) (blobId : Option String)
      (newState : PayloadAvailability) (lastError : Option String)

def Device.remember (device : Device) (eventId : String)
    (reps : List PersistedClipboardRepresentation) :
    Table RepKey PersistedClipboardRepresentation :=
  device.captured.putEach (fun rep => ⟨eventId, rep.id⟩) id reps

def Device.isFresh (device : Device) (eventId : String)
    (reps : List PersistedClipboardRepresentation) : Bool :=
  decide (reps.map fun rep => rep.id).Nodup &&
    reps.all fun rep => (device.captured.find ⟨eventId, rep.id⟩).isNone

/-- The KEK that `unlock` derives, or that the silent resume finds in the
keyring, must unwrap the keyslot of this profile. -/
def Device.unlocks (device : Device) (localScope : String)
    (passphraseKek : Option MasterKey) : Option MasterKey :=
  device.keyslot.bind fun slot =>
    if slot.scope = localScope ∧
        (passphraseKek.or (device.keks.find localScope)) = some slot.kek then
      some slot.masterKey
    else
      none

variable (blobFiles : BlobFileCodec) (localScope : String)

def Device.step (device : Device) : Action → Option Device
  | .begin =>
      match device.process with
      | .idle _ =>
          if device.hasCompleted ∧ device.phase = none then
            some { device with process := .preparingKey }
          else
            none
      | _ => none
  | .prepareKey runId key =>
      match device.process with
      | .preparingKey =>
          if device.migrationKeys.find runId = none ∧
              key ∉ device.drawnKeys then
            some { device with
              migrationKeys := device.migrationKeys.put runId key
              drawnKeys := key :: device.drawnKeys
              process := .listing runId }
          else
            none
      | _ => none
  | .list keys =>
      match device.process with
      | .listing runId =>
          if keys.Perm device.representations.mainInlineRepresentations then
            some { device with process := .backingUp runId keys }
          else
            none
      | _ => none
  | .backUp nonce =>
      match device.process with
      | .backingUp runId (key :: rest) =>
          some { device with
            process := device.backUp cipher nonce runId key rest }
      | _ => none
  | .storeKek slot =>
      match device.process with
      | .handshaking runId =>
          some { device with
            keks := device.keks.put slot.scope slot.kek
            process := .storingKeyslot runId slot }
      | _ => none
  | .confirm targetSpaceId =>
      match device.process with
      | .confirming runId =>
          some { device with process := .admitting runId targetSpaceId }
      | _ => none
  | .listRecords records =>
      match device.process with
      | .listingRecords runId targetSpaceId =>
          if records.Perm device.backup.rows then
            some { device with
              process := .swapping runId targetSpaceId records }
          else
            none
      | _ => none
  | .swap nonce =>
      match device.process with
      | .swapping runId targetSpaceId ((key, record) :: rest) =>
          some (device.swapRecord cipher nonce runId targetSpaceId key record
            rest)
      | _ => none
  | .proceed => device.proceed
  | .fail =>
      device.process.afterFailure.map fun next => { device with process := next }
  | .crash =>
      some { device with
        session := none
        pendingEvents := []
        process := .stopped }
  | .unlock passphraseKek =>
      match device.process with
      | .stopped =>
          (device.unlocks localScope passphraseKek).map fun masterKey =>
            { device with
              session := some masterKey
              process := resumeProcess device.phase }
      | _ => none
  | .resume =>
      match device.process with
      | .idle _ => some { device with process := resumeProcess device.phase }
      | _ => none
  | .encryptEvent eventId reps nonces =>
      if device.isFresh eventId reps then
        match encryptRepresentations cipher device.session nonces eventId
            reps with
        | .error _ => none
        | .ok encrypted =>
            some { device with
              pendingEvents := device.pendingEvents ++ [⟨eventId, encrypted⟩]
              captured := device.remember eventId reps }
      else
        none
  | .insertEvent index =>
      match device.pendingEvents[index]? with
      | none => none
      | some event =>
          (insertRows event.eventId event.reps
              device.representations).map fun updated =>
            { device with
              representations := updated
              pendingEvents := device.pendingEvents.eraseIdx index }
  | .deleteEvent eventId =>
      some { device with
        representations := device.representations.deleteEvent eventId }
  | .replaceEvent oldEventId newEventId reps =>
      if device.isFresh newEventId reps then
        match replaceEventContent oldEventId newEventId reps
            device.representations with
        | .error _ => none
        | .ok updated =>
            some { device with
              representations := updated
              captured := device.remember newEventId reps }
      else
        none
  | .writeBlob blobId plaintext nonce =>
      if (device.writtenBlobs.find blobId).isSome then
        none
      else
        (blobFiles.put device.session nonce blobId plaintext).map fun stored =>
          { device with
            blobs := device.blobs.put blobId stored
            writtenBlobs := device.writtenBlobs.put blobId plaintext }
  | .updateProcessing repId expectedStates blobId newState lastError =>
      some { device with
        representations := device.representations.updateProcessingResult repId
          expectedStates blobId newState lastError }

end Cipher

end OpenClipboard.SwitchSpace
