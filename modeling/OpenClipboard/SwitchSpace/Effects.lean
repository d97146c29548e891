import OpenClipboard.SwitchSpace.Device

/-!
# What a step of the switch does

One constructor for each effect of the use case, with what it requires and
what it leaves behind.  Steps of the capture pipeline are kept together: they
touch nothing that belongs to the switch.
-/

namespace OpenClipboard.SwitchSpace

open OpenClipboard RepresentationTable

/-- A step of the capture pipeline, which runs beside the switch. -/
def Action.isCapture : Action → Bool
  | .encryptEvent _ _ _ => true
  | .insertEvent _ => true
  | .deleteEvent _ => true
  | .replaceEvent _ _ _ => true
  | .writeBlob _ _ _ => true
  | .updateProcessing _ _ _ _ _ => true
  | _ => false

/-- The associated data of a row and of its backup record. -/
def aadOf (key : RepKey) : List UInt8 :=
  Aad.forInline key.eventId key.repId

/-- The target space's swap is recorded as due for a run. -/
def swapDue : Option MigrationPhase → Option String
  | some (.handshakeDone runId _) => some runId
  | _ => none

section Effects

variable (cipher : Sealing MasterKey Nonce) (blobFiles : BlobFileCodec)
variable (localScope : String)

inductive Effect (device : Device) : Action → Device → Prop where
  | began {switched : Bool}
      (idle : device.process = .idle switched)
      (noPhase : device.phase = none) :
      Effect device .begin { device with process := .preparingKey }
  | keyPrepared {runId : String} {key : MasterKey}
      (preparing : device.process = .preparingKey)
      (freshRun : device.migrationKeys.find runId = none)
      (freshKey : key ∉ device.drawnKeys) :
      Effect device (.prepareKey runId key)
        { device with
          migrationKeys := device.migrationKeys.put runId key
          drawnKeys := key :: device.drawnKeys
          process := .listing runId }
  | listed {runId : String} {keys : List RepKey}
      (listing : device.process = .listing runId)
      (permuted : keys.Perm device.representations.mainInlineRepresentations) :
      Effect device (.list keys)
        { device with process := .backingUp runId keys }
  | backedUp {nonce : Nonce} {runId : String} {key : RepKey}
      {rest : List RepKey}
      (backingUp : device.process = .backingUp runId (key :: rest)) :
      Effect device (.backUp nonce)
        { device with process := device.backUp cipher nonce runId key rest }
  | upserted {runId : String} {key : RepKey} {ciphertext : List UInt8}
      {rest : List RepKey}
      (upserting : device.process = .upserting runId key ciphertext rest) :
      Effect device .proceed
        { device with
          backup := device.backup.put key ⟨ciphertext, runId⟩
          process := .backingUp runId rest }
  | prepared {runId : String}
      (backingUp : device.process = .backingUp runId []) :
      Effect device .proceed
        { device with
          process := .savingPhase false (some (.prepared runId)) false }
  | truncated {phase : Option MigrationPhase} {switched : Bool}
      (saving : device.process = .savingPhase false phase switched) :
      Effect device .proceed
        { device with
          phase := none
          process := .savingPhase true phase switched }
  | saved {phase : Option MigrationPhase} {switched : Bool}
      (saving : device.process = .savingPhase true phase switched) :
      Effect device .proceed
        { device with
          phase := phase
          process := afterSave switched phase }
  | kekStored {runId : String} {slot : KeySlot}
      (handshaking : device.process = .handshaking runId) :
      Effect device (.storeKek slot)
        { device with
          keks := device.keks.put slot.scope slot.kek
          process := .storingKeyslot runId slot }
  | keyslotStored {runId : String} {slot : KeySlot}
      (storing : device.process = .storingKeyslot runId slot) :
      Effect device .proceed
        { device with
          keyslot := some slot
          process := .openingSession runId slot }
  | keyslotRolledBack {runId : String} {slot : KeySlot}
      (rollingBack : device.process = .rollingBackKeyslot runId slot) :
      Effect device .proceed
        { device with
          keyslot := device.keyslot.filter fun held => held.scope != slot.scope
          process := .rollingBackKek runId slot }
  | kekRolledBack {runId : String} {slot : KeySlot}
      (rollingBack : device.process = .rollingBackKek runId slot) :
      Effect device .proceed
        { device with
          keks := device.keks.remove slot.scope
          process := .discardingRecords (some runId) false }
  | sessionOpened {runId : String} {slot : KeySlot}
      (opening : device.process = .openingSession runId slot) :
      Effect device .proceed
        { device with
          session := some slot.masterKey
          process := .confirming runId }
  | confirmed {runId targetSpaceId : String}
      (confirming : device.process = .confirming runId) :
      Effect device (.confirm targetSpaceId)
        { device with process := .admitting runId targetSpaceId }
  | admitted {runId targetSpaceId : String}
      (admitting : device.process = .admitting runId targetSpaceId) :
      Effect device .proceed
        { device with process := .trusting runId targetSpaceId }
  | trusted {runId targetSpaceId : String}
      (trusting : device.process = .trusting runId targetSpaceId) :
      Effect device .proceed
        { device with process := .savingAddress runId targetSpaceId }
  | addressSaved {runId targetSpaceId : String}
      (saving : device.process = .savingAddress runId targetSpaceId) :
      Effect device .proceed
        { device with
          process := .savingPhase false
            (some (.handshakeDone runId targetSpaceId)) false }
  | counted {runId targetSpaceId : String}
      (counting : device.process = .counting runId targetSpaceId) :
      Effect device .proceed
        { device with process := .listingRecords runId targetSpaceId }
  | recordsListed {runId targetSpaceId : String}
      {records : List (RepKey × MigrationRecord)}
      (listing : device.process = .listingRecords runId targetSpaceId)
      (permuted : records.Perm device.backup.rows) :
      Effect device (.listRecords records)
        { device with process := .swapping runId targetSpaceId records }
  | recordSwapped {nonce : Nonce} {runId targetSpaceId : String}
      {key : RepKey} {record : MigrationRecord}
      {rest : List (RepKey × MigrationRecord)}
      (swapping :
        device.process = .swapping runId targetSpaceId ((key, record) :: rest)) :
      Effect device (.swap nonce)
        (device.swapRecord cipher nonce runId targetSpaceId key record rest)
  | allSwapped {runId targetSpaceId : String}
      (swapping : device.process = .swapping runId targetSpaceId []) :
      Effect device .proceed
        { device with
          process := .savingPhase false
            (some (.swapped runId targetSpaceId)) false }
  | statusSet {runId targetSpaceId : String}
      (setting : device.process = .settingStatus runId targetSpaceId) :
      Effect device .proceed
        { device with
          hasCompleted := true
          spaceId := some targetSpaceId
          process := .discardingRecords (some runId) true }
  | recordsAbandoned {switched : Bool}
      (discarding : device.process = .discardingRecords none switched) :
      Effect device .proceed
        { device with backup := ∅, process := .idle false }
  | recordsDiscarded {runId : String} {switched : Bool}
      (discarding : device.process = .discardingRecords (some runId) switched) :
      Effect device .proceed
        { device with
          backup := ∅
          process := .discardingKey runId switched }
  | keyDiscarded {runId : String} {switched : Bool}
      (discarding : device.process = .discardingKey runId switched) :
      Effect device .proceed
        { device with
          migrationKeys := device.migrationKeys.remove runId
          process := .savingPhase false none switched }
  | failed {next : Process}
      (led : device.process.afterFailure = some next) :
      Effect device .fail { device with process := next }
  | crashed :
      Effect device .crash
        { device with
          session := none
          pendingEvents := []
          process := .stopped }
  | unlocked {passphraseKek : Option MasterKey} {slot : KeySlot}
      (stopped : device.process = .stopped)
      (holds : device.keyslot = some slot) :
      Effect device (.unlock passphraseKek)
        { device with
          session := some slot.masterKey
          process := resumeProcess device.phase }
  | resumed {switched : Bool}
      (idle : device.process = .idle switched) :
      Effect device .resume
        { device with process := resumeProcess device.phase }
  | captured {action : Action} {after : Device}
      (isCapture : action.isCapture = true)
      (stepped : device.step cipher blobFiles localScope action = some after) :
      Effect device action after

variable {cipher : Sealing MasterKey Nonce} {blobFiles : BlobFileCodec}
variable {localScope : String}
variable {device after : Device} {action : Action}

private theorem effect_of_proceed (stepped : device.proceed = some after) :
    Effect cipher blobFiles localScope device .proceed after := by
  unfold Device.proceed at stepped
  split at stepped
  all_goals cases stepped
  case h_1 backingUp => exact .prepared backingUp
  case h_2 upserting => exact .upserted upserting
  case h_3 saving => exact .truncated saving
  case h_4 saving => exact .saved saving
  case h_5 storing => exact .keyslotStored storing
  case h_6 rollingBack => exact .keyslotRolledBack rollingBack
  case h_7 rollingBack => exact .kekRolledBack rollingBack
  case h_8 opening => exact .sessionOpened opening
  case h_9 admitting => exact .admitted admitting
  case h_10 trusting => exact .trusted trusting
  case h_11 saving => exact .addressSaved saving
  case h_12 counting => exact .counted counting
  case h_13 swapping => exact .allSwapped swapping
  case h_14 setting => exact .statusSet setting
  case h_15 discarding => exact .recordsAbandoned discarding
  case h_16 discarding => exact .recordsDiscarded discarding
  case h_17 discarding => exact .keyDiscarded discarding

private theorem effect_of_unlock {passphraseKek : Option MasterKey}
    (stopped : device.process = .stopped)
    (stepped : (device.unlocks localScope passphraseKek).map
      (fun masterKey => { device with
        session := some masterKey
        process := resumeProcess device.phase }) = some after) :
    Effect cipher blobFiles localScope device (.unlock passphraseKek) after := by
  have opened := Option.map_eq_some_iff.mp stepped
  obtain ⟨masterKey, unlocked, same⟩ := opened
  have unwrapped := Option.bind_eq_some_iff.mp unlocked
  obtain ⟨slot, holds, ofSlot⟩ := unwrapped
  have isKey : slot.masterKey = masterKey := by
    by_cases fits : slot.scope = localScope ∧
        passphraseKek.or (device.keks.find localScope) = some slot.kek
    · rw [if_pos fits, Option.some.injEq] at ofSlot
      exact ofSlot
    · rw [if_neg fits] at ofSlot
      cases ofSlot
  subst same isKey
  exact .unlocked stopped holds

theorem effect_of_step
    (stepped : device.step cipher blobFiles localScope action = some after) :
    Effect cipher blobFiles localScope device action after := by
  cases action with
  | begin =>
      simp only [Device.step] at stepped
      split at stepped
      · rename_i idle
        by_cases ready : device.hasCompleted ∧ device.phase = none
        · rw [if_pos ready] at stepped
          cases stepped
          exact .began idle ready.2
        · rw [if_neg ready] at stepped
          cases stepped
      · cases stepped
  | prepareKey runId key =>
      simp only [Device.step] at stepped
      split at stepped
      · rename_i preparing
        by_cases fresh : device.migrationKeys.find runId = none ∧
            key ∉ device.drawnKeys
        · rw [if_pos fresh] at stepped
          cases stepped
          exact .keyPrepared preparing fresh.1 fresh.2
        · rw [if_neg fresh] at stepped
          cases stepped
      · cases stepped
  | list keys =>
      simp only [Device.step] at stepped
      split at stepped
      · rename_i listing
        by_cases permuted :
            keys.Perm device.representations.mainInlineRepresentations
        · rw [if_pos permuted] at stepped
          cases stepped
          exact .listed listing permuted
        · rw [if_neg permuted] at stepped
          cases stepped
      · cases stepped
  | backUp nonce =>
      simp only [Device.step] at stepped
      split at stepped
      · rename_i backingUp
        cases stepped
        exact .backedUp backingUp
      · cases stepped
  | storeKek slot =>
      simp only [Device.step] at stepped
      split at stepped
      · rename_i handshaking
        cases stepped
        exact .kekStored handshaking
      · cases stepped
  | confirm targetSpaceId =>
      simp only [Device.step] at stepped
      split at stepped
      · rename_i confirming
        cases stepped
        exact .confirmed confirming
      · cases stepped
  | listRecords records =>
      simp only [Device.step] at stepped
      split at stepped
      · rename_i listing
        by_cases permuted : records.Perm device.backup.rows
        · rw [if_pos permuted] at stepped
          cases stepped
          exact .recordsListed listing permuted
        · rw [if_neg permuted] at stepped
          cases stepped
      · cases stepped
  | swap nonce =>
      simp only [Device.step] at stepped
      split at stepped
      · rename_i swapping
        cases stepped
        exact .recordSwapped swapping
      · cases stepped
  | proceed => exact effect_of_proceed stepped
  | fail =>
      simp only [Device.step, Option.map_eq_some_iff] at stepped
      obtain ⟨next, led, rfl⟩ := stepped
      exact .failed led
  | crash =>
      cases stepped
      exact .crashed
  | unlock passphraseKek =>
      simp only [Device.step] at stepped
      split at stepped
      · rename_i stopped
        exact effect_of_unlock stopped stepped
      · cases stepped
  | resume =>
      simp only [Device.step] at stepped
      split at stepped
      · rename_i idle
        cases stepped
        exact .resumed idle
      · cases stepped
  | encryptEvent => exact .captured rfl stepped
  | insertEvent => exact .captured rfl stepped
  | deleteEvent => exact .captured rfl stepped
  | replaceEvent => exact .captured rfl stepped
  | writeBlob => exact .captured rfl stepped
  | updateProcessing => exact .captured rfl stepped

/-! ## What an effect does not touch -/

structure SameSwitch (device after : Device) : Prop where
  backup : after.backup = device.backup
  migrationKeys : after.migrationKeys = device.migrationKeys
  phase : after.phase = device.phase
  keyslot : after.keyslot = device.keyslot
  session : after.session = device.session
  process : after.process = device.process
  drawnKeys : after.drawnKeys = device.drawnKeys

theorem sameSwitch_of_capture (isCapture : action.isCapture = true)
    (stepped : device.step cipher blobFiles localScope action = some after) :
    SameSwitch device after := by
  cases action with
  | encryptEvent eventId reps nonces =>
      simp only [Device.step] at stepped
      split at stepped
      · split at stepped
        · cases stepped
        · cases stepped
          exact ⟨rfl, rfl, rfl, rfl, rfl, rfl, rfl⟩
      · cases stepped
  | insertEvent index =>
      simp only [Device.step] at stepped
      split at stepped
      · cases stepped
      · obtain ⟨updated, _, rfl⟩ := Option.map_eq_some_iff.mp stepped
        exact ⟨rfl, rfl, rfl, rfl, rfl, rfl, rfl⟩
  | deleteEvent eventId =>
      cases stepped
      exact ⟨rfl, rfl, rfl, rfl, rfl, rfl, rfl⟩
  | replaceEvent oldEventId newEventId reps =>
      simp only [Device.step] at stepped
      split at stepped
      · split at stepped
        · cases stepped
        · cases stepped
          exact ⟨rfl, rfl, rfl, rfl, rfl, rfl, rfl⟩
      · cases stepped
  | writeBlob blobId plaintext nonce =>
      simp only [Device.step] at stepped
      split at stepped
      · cases stepped
      · obtain ⟨masterKey, _, rfl⟩ := Option.map_eq_some_iff.mp stepped
        exact ⟨rfl, rfl, rfl, rfl, rfl, rfl, rfl⟩
  | updateProcessing repId expectedStates blobId newState lastError =>
      cases stepped
      exact ⟨rfl, rfl, rfl, rfl, rfl, rfl, rfl⟩
  | _ => cases isCapture

/-! ## Backing up and swapping one row -/

variable (cipher device)
variable (nonce : Nonce) (runId targetSpaceId : String) (key : RepKey)

/-- A row is skipped, or the run gives up, or the row's plaintext is encrypted
with the migration key. -/
theorem backUp_cases (rest : List RepKey) :
    (device.representations.readMainInlineData key = none ∧
      device.backUp cipher nonce runId key rest = .backingUp runId rest) ∨
    device.backUp cipher nonce runId key rest = .discardingRecords none false ∨
    ∃ bytes masterKey plaintext migrationKey,
      device.representations.readMainInlineData key = some bytes ∧
      device.session = some masterKey ∧
      cipher.decrypt masterKey bytes (aadOf key) = some plaintext ∧
      device.migrationKeys.find runId = some migrationKey ∧
      device.backUp cipher nonce runId key rest =
        .upserting runId key
          (cipher.encrypt migrationKey nonce plaintext (aadOf key)) rest := by
  unfold Device.backUp
  cases read : device.representations.readMainInlineData key with
  | none => exact Or.inl ⟨rfl, rfl⟩
  | some bytes =>
      apply Or.inr
      simp only [blobDecrypt]
      cases device.session with
      | none => exact Or.inl rfl
      | some masterKey =>
          cases opened : cipher.decrypt masterKey bytes (aadOf key) with
          | none =>
              rw [aadOf] at opened
              apply Or.inl
              simp only [opened]
          | some plaintext =>
              rw [aadOf] at opened
              simp only [opened]
              cases device.migrationKeys.find runId with
              | none => exact Or.inl rfl
              | some migrationKey =>
                  exact Or.inr ⟨bytes, masterKey, plaintext, migrationKey, rfl,
                    rfl, opened, rfl, rfl⟩

theorem swapRecord_cases (record : MigrationRecord)
    (rest : List (RepKey × MigrationRecord)) :
    device.swapRecord cipher nonce runId targetSpaceId key record rest =
      { device with process := .idle false } ∨
    ∃ migrationKey plaintext masterKey updated,
      device.migrationKeys.find runId = some migrationKey ∧
      cipher.decrypt migrationKey record.ciphertext (aadOf key) =
        some plaintext ∧
      device.session = some masterKey ∧
      device.representations.updateMainInlineData key
        (cipher.encrypt masterKey nonce plaintext (aadOf key)) = some updated ∧
      device.swapRecord cipher nonce runId targetSpaceId key record rest =
        { device with
          representations := updated
          process := .swapping runId targetSpaceId rest } := by
  unfold Device.swapRecord
  cases swapped : (device.swappedCiphertext cipher nonce runId key record).bind
      (device.representations.updateMainInlineData key) with
  | none => exact Or.inl rfl
  | some updated =>
      apply Or.inr
      obtain ⟨bytes, isCiphertext, isUpdated⟩ :=
        Option.bind_eq_some_iff.mp swapped
      obtain ⟨migrationKey, held, opened⟩ :=
        Option.bind_eq_some_iff.mp isCiphertext
      obtain ⟨plaintext, isPlaintext, encrypted⟩ :=
        Option.bind_eq_some_iff.mp opened
      obtain ⟨masterKey, inSession, isBytes⟩ :=
        Option.map_eq_some_iff.mp encrypted
      subst isBytes
      exact ⟨migrationKey, plaintext, masterKey, updated, held, isPlaintext,
        inSession, isUpdated, rfl⟩

end Effects

/-! ## A sample device -/

def sampleBlobFiles : BlobFileCodec where
  compress := id
  decompress := some
  sealing := blobFileCipher transparentAead

def sampleRow : RepKey := ⟨"event-1", "rep-1"⟩

def sampleScope : String := "profile:default"

def sampleSlot (byte : UInt8) : KeySlot where
  scope := sampleScope
  kek := sampleKey (byte + 100)
  masterKey := sampleKey byte

/-- One captured text, encrypted under the first master key. -/
def sampleDevice : Device where
  hasCompleted := true
  spaceId := some "space-1"
  representations := (∅ : RepresentationTable).put "rep-1"
    ⟨"event-1", sampleRep (sampleCipher.encrypt (sampleKey 1) sampleNonce
      [104, 105] (aadOf sampleRow)), Or.inr rfl⟩
  backup := ∅
  migrationKeys := ∅
  phase := none
  keks := (∅ : Table String MasterKey).put sampleScope (sampleKey 101)
  keyslot := some (sampleSlot 1)
  blobs := ∅
  session := some (sampleKey 1)
  pendingEvents := []
  process := .idle false
  drawnKeys := []
  captured := (∅ : Table RepKey PersistedClipboardRepresentation).put sampleRow
    (sampleRep [104, 105])
  writtenBlobs := ∅

def sampleRecord (migrationByte : UInt8) (runId : String) : MigrationRecord :=
  ⟨sampleCipher.encrypt (sampleKey migrationByte) sampleNonce [104, 105]
    (aadOf sampleRow), runId⟩

def backUpSample (runId : String) (migrationByte : UInt8) : List Action :=
  [.begin, .prepareKey runId (sampleKey migrationByte), .list [sampleRow],
    .backUp sampleNonce, .proceed]

/-- The switch from the last backup, up to the listing of the records. -/
def handshakeSample (keyByte : UInt8) : List Action :=
  [.proceed, .proceed, .proceed, .storeKek (sampleSlot keyByte), .proceed,
    .proceed, .confirm "space-2", .proceed, .proceed, .proceed, .proceed,
    .proceed, .proceed]

def swapSample (runId : String) (migrationByte : UInt8) : List Action :=
  [.listRecords [(sampleRow, sampleRecord migrationByte runId)],
    .swap sampleNonce, .proceed, .proceed, .proceed, .proceed, .proceed,
    .proceed, .proceed, .proceed]

end OpenClipboard.SwitchSpace
