import OpenClipboard.Storage.SealedColumns
import OpenClipboard.SwitchSpace.CrashSafety

/-!
# What a successful switch migrates

A switch encrypts the inline data of the main table again and nothing else.
Blob files, manifest paths and the consumable reference stay under the old key
or its subkeys, so they stay readable exactly where the target space's key or
subkey is the same.
-/

namespace OpenClipboard.SwitchSpace

open OpenClipboard RepresentationTable Transition

/-! ## The stores -/

structure SealedStores where
  /-- The manifest rows of an entry, by line index. -/
  fileSets : Table String (List EntryFileSetRow)
  /-- `consumable_ref_ciphertext` of the register. -/
  consumableRef : Option (List UInt8)

structure StoreCiphers where
  inlineData : Sealing MasterKey Nonce
  blobFiles : BlobFileCodec
  fileSetPaths : Sealing MasterKey Nonce
  consumable : Sealing MasterKey Nonce
  hkdf : Hkdf
  postcard : ConsumableCodec
  profile : String

/-- Something that a repository reads with the session's key. -/
inductive StoredItem where
  | inlineData (key : RepKey)
  | blob (blobId : String)
  | fileSet (entryId : String)
  | consumable
  deriving DecidableEq, Repr

inductive ItemContent where
  | bytes (plaintext : List UInt8)
  | fileSet (fileSet : EntryFileSet)
  | reference (reference : MobileConsumableRef)
  deriving DecidableEq, Repr

section Reading

variable (ciphers : StoreCiphers)

/-- What `get_representation` gives as inline data. -/
def readInlineData (table : RepresentationTable) (session : Option MasterKey)
    (key : RepKey) : Option (List UInt8) :=
  match getRepresentation ciphers.inlineData session table key with
  | .ok (some rep) => rep.inlineData
  | _ => none

def readBlob (blobs : Table String (List UInt8)) (session : Option MasterKey)
    (blobId : String) : Option (List UInt8) :=
  (blobs.find blobId).bind (ciphers.blobFiles.get session blobId)

def readFileSet (stores : SealedStores) (session : Option MasterKey)
    (entryId : String) : Option EntryFileSet :=
  (loadFileSet ciphers.fileSetPaths ciphers.hkdf ciphers.profile session entryId
    ((stores.fileSets.find entryId).getD [])).join

def readConsumable (stores : SealedStores) (session : Option MasterKey) :
    Option MobileConsumableRef :=
  (loadMobileConsumable ciphers.consumable ciphers.hkdf ciphers.profile
    ciphers.postcard session stores.consumableRef).1.join

/-- What the item's repository returns. -/
def readItem (device : Device) (stores : SealedStores) :
    StoredItem → Option ItemContent
  | .inlineData key =>
      (readInlineData ciphers device.representations device.session key).map
        .bytes
  | .blob blobId =>
      (readBlob ciphers device.blobs device.session blobId).map .bytes
  | .fileSet entryId =>
      (readFileSet ciphers stores device.session entryId).map .fileSet
  | .consumable =>
      (readConsumable ciphers stores device.session).map .reference

/-! ## What was stored -/

/-- The blobs, manifests and reference were written by their stores, each
under some master key. -/
structure WrittenByStores (device : Device) (stores : SealedStores) :
    Prop where
  blobs : ∀ blobId stored, device.blobs.find blobId = some stored →
    ∃ masterKey nonce data,
      ciphers.blobFiles.put (some masterKey) nonce blobId data = some stored
  fileSets : ∀ entryId rows, stores.fileSets.find entryId = some rows →
    ∃ masterKey nonces fileSet,
      saveFileSet ciphers.fileSetPaths ciphers.hkdf ciphers.profile
        (some masterKey) nonces entryId fileSet = some rows
  consumable : ∀ ciphertext, stores.consumableRef = some ciphertext →
    ∃ masterKey nonce reference,
      sealConsumable ciphers.consumable ciphers.hkdf ciphers.profile
        ciphers.postcard (some masterKey) nonce reference = some ciphertext

/-- Whatever is readable outside the main table is under a key that the target
space shares. -/
structure SharesUnmigratedKeys (device : Device) (stores : SealedStores)
    (oldKey newKey : MasterKey) : Prop where
  blobs : (∃ blobId content,
    readBlob ciphers device.blobs (some oldKey) blobId = some content) →
      newKey = oldKey
  fileSets : (∃ entryId fileSet,
    readFileSet ciphers stores (some oldKey) entryId = some fileSet) →
      fileSetSubkey ciphers.hkdf ciphers.profile newKey =
        fileSetSubkey ciphers.hkdf ciphers.profile oldKey
  consumable : (∃ reference,
    readConsumable ciphers stores (some oldKey) = some reference) →
      consumableSubkey ciphers.hkdf ciphers.profile newKey =
        consumableSubkey ciphers.hkdf ciphers.profile oldKey

end Reading

section Stores

variable {ciphers : StoreCiphers} {device : Device} {stores : SealedStores}
variable {oldKey newKey : MasterKey}

theorem blobKey_eq_of_read (written : WrittenByStores ciphers device stores)
    {blobId : String} {oldContent newContent : List UInt8}
    (readOld :
      readBlob ciphers device.blobs (some oldKey) blobId = some oldContent)
    (readNew :
      readBlob ciphers device.blobs (some newKey) blobId = some newContent) :
    newKey = oldKey := by
  obtain ⟨stored, found, openedOld⟩ := Option.bind_eq_some_iff.mp readOld
  obtain ⟨same, foundAgain, openedNew⟩ := Option.bind_eq_some_iff.mp readNew
  rw [found, Option.some.injEq] at foundAgain
  subst foundAgain
  obtain ⟨masterKey, nonce, data, isStored⟩ := written.blobs blobId stored found
  simp only [BlobFileCodec.put, Option.map_some, Option.some.injEq] at isStored
  subst isStored
  have underKey : ∀ {tested : MasterKey} {content : List UInt8},
      ciphers.blobFiles.get (some tested) blobId
        (ciphers.blobFiles.sealing.encrypt masterKey nonce
          (ciphers.blobFiles.compress data) (Aad.forBlobV2 blobId)) =
            some content → tested = masterKey := by
    intro tested content opened
    rw [BlobFileCodec.get, Option.bind_some] at opened
    obtain ⟨_, decrypted, _⟩ := Option.bind_eq_some_iff.mp opened
    exact (Sealing.decrypt_encrypt_eq_some_iff.mp decrypted).1
  rw [underKey openedNew, underKey openedOld]

theorem fileSetSubkey_eq_of_read
    (written : WrittenByStores ciphers device stores)
    {entryId : String} {oldSet newSet : EntryFileSet}
    (readOld : readFileSet ciphers stores (some oldKey) entryId = some oldSet)
    (readNew : readFileSet ciphers stores (some newKey) entryId = some newSet) :
    fileSetSubkey ciphers.hkdf ciphers.profile newKey =
      fileSetSubkey ciphers.hkdf ciphers.profile oldKey := by
  have loadsOld := Option.join_eq_some_iff.mp readOld
  have loadsNew := Option.join_eq_some_iff.mp readNew
  cases found : stores.fileSets.find entryId with
  | none =>
      rw [found] at loadsOld
      cases loadsOld
  | some rows =>
      rw [found, Option.getD_some] at loadsOld loadsNew
      obtain ⟨masterKey, nonces, fileSet, saved⟩ :=
        written.fileSets entryId rows found
      rw [fileSetSubkey_eq_of_load saved loadsNew,
        fileSetSubkey_eq_of_load saved loadsOld]

theorem consumableSubkey_eq_of_read
    (written : WrittenByStores ciphers device stores)
    {oldRef newRef : MobileConsumableRef}
    (readOld : readConsumable ciphers stores (some oldKey) = some oldRef)
    (readNew : readConsumable ciphers stores (some newKey) = some newRef) :
    consumableSubkey ciphers.hkdf ciphers.profile newKey =
      consumableSubkey ciphers.hkdf ciphers.profile oldKey := by
  have loadsOld := Option.join_eq_some_iff.mp readOld
  have loadsNew := Option.join_eq_some_iff.mp readNew
  cases found : stores.consumableRef with
  | none =>
      rw [found] at loadsOld
      cases loadsOld
  | some ciphertext =>
      rw [found] at loadsOld loadsNew
      obtain ⟨masterKey, nonce, reference, isSealed⟩ :=
        written.consumable ciphertext found
      rw [consumableSubkey_eq_of_load isSealed loadsNew,
        consumableSubkey_eq_of_load isSealed loadsOld]

theorem readFileSet_of_subkey_eq {entryId : String}
    (same : fileSetSubkey ciphers.hkdf ciphers.profile newKey =
      fileSetSubkey ciphers.hkdf ciphers.profile oldKey) :
    readFileSet ciphers stores (some newKey) entryId =
      readFileSet ciphers stores (some oldKey) entryId := by
  unfold fileSetSubkey at same
  simp only [readFileSet, loadFileSet, deriveSubkey, Option.map_some, same]

theorem readConsumable_of_subkey_eq
    (same : consumableSubkey ciphers.hkdf ciphers.profile newKey =
      consumableSubkey ciphers.hkdf ciphers.profile oldKey) :
    readConsumable ciphers stores (some newKey) =
      readConsumable ciphers stores (some oldKey) := by
  unfold consumableSubkey at same
  simp only [readConsumable, loadMobileConsumable, deriveSubkey,
    Option.map_some, same]

end Stores

/-! ## A successful switch -/

/-- The effects of an execution that succeeds with an offered keyslot: only
what is merely warned of may fail. -/
def Device.succeedsWith (slot : KeySlot) (device : Device) : Action → Bool
  | .begin | .prepareKey _ _ | .list _ | .backUp _ | .confirm _
  | .listRecords _ | .swap _ => true
  | .storeKek offered => offered == slot
  | .proceed =>
      match device.process with
      | .rollingBackKeyslot _ _ | .rollingBackKek _ _ => false
      | _ => true
  | .fail =>
      match device.process with
      | .savingAddress _ _ | .discardingRecords (some _) _
      | .discardingKey _ _ => true
      | _ => false
  | _ => false

def Succeeding (slot : KeySlot) (device : Device) (action : Action) : Prop :=
  device.succeedsWith slot action = true

instance (slot : KeySlot) (device : Device) (action : Action) :
    Decidable (Succeeding slot device action) :=
  inferInstanceAs (Decidable (_ = true))

/-- Where the session must hold the offered master key, and at the end of a
switch nothing be pending. -/
def Device.holdsOffer (slot : KeySlot) (device : Device) : Process → Prop
  | .storingKeyslot _ offered | .openingSession _ offered => offered = slot
  | .confirming _ | .admitting _ _ | .trusting _ _ | .savingAddress _ _
  | .savingPhase _ (some (.handshakeDone _ _)) _ | .counting _ _
  | .listingRecords _ _ | .swapping _ _ _
  | .savingPhase _ (some (.swapped _ _)) _ | .settingStatus _ _
  | .discardingRecords (some _) true | .discardingKey _ true
  | .savingPhase _ none true =>
      device.session = some slot.masterKey
  | .idle true =>
      device.session = some slot.masterKey ∧ device.phase = none
  | _ => True

/-- The row's other columns are what they were, and it has inline data. -/
def KeepsRow (row : SnapshotRepresentationRow) (table : RepresentationTable)
    (key : RepKey) : Prop :=
  ∃ current bytes, table.findRep key = some current ∧
    current.rep = { row.rep with inlineData := some bytes }

section Steps

variable {cipher : Sealing MasterKey Nonce} {blobFiles : BlobFileCodec}
variable {localScope : String} {slot : KeySlot}
variable {device after : Device} {action : Action}

theorem undisturbed_of_succeeding (succeeding : Succeeding slot device action) :
    Undisturbed device action := by
  unfold Succeeding at succeeding
  cases action with
  | proceed =>
      refine ⟨rfl, ?_⟩
      unfold Device.succeedsWith at succeeding
      unfold Device.staysUndisturbed
      cases before : device.process with
      | rollingBackKeyslot runId offered =>
          rw [before] at succeeding
          cases succeeding
      | _ => rfl
  | fail =>
      refine ⟨rfl, ?_⟩
      unfold Device.succeedsWith at succeeding
      unfold Device.staysUndisturbed
      cases before : device.process with
      | savingAddress runId targetSpaceId => rfl
      | discardingRecords runId switched => rfl
      | discardingKey runId switched => rfl
      | _ =>
          rw [before] at succeeding
          cases succeeding
  | begin => exact ⟨rfl, rfl⟩
  | prepareKey => exact ⟨rfl, rfl⟩
  | list => exact ⟨rfl, rfl⟩
  | backUp => exact ⟨rfl, rfl⟩
  | storeKek => exact ⟨rfl, rfl⟩
  | confirm => exact ⟨rfl, rfl⟩
  | listRecords => exact ⟨rfl, rfl⟩
  | swap => exact ⟨rfl, rfl⟩
  | _ => cases succeeding

theorem holdsOffer_afterSave {phase : Option MigrationPhase} {switched : Bool}
    (holds : device.holdsOffer slot (.savingPhase true phase switched)) :
    { device with phase := phase }.holdsOffer slot
      (afterSave switched phase) := by
  cases phase with
  | none =>
      cases switched with
      | false => trivial
      | true => exact ⟨holds, rfl⟩
  | some phase => cases phase <;> exact holds

theorem holdsOffer_truncated {phase : Option MigrationPhase} {switched : Bool}
    (holds : device.holdsOffer slot (.savingPhase false phase switched)) :
    { device with phase := none }.holdsOffer slot
      (.savingPhase true phase switched) := by
  cases phase with
  | none => cases switched <;> exact holds
  | some phase => cases phase <;> exact holds

/-- A successful switch ends with the offered master key in the session. -/
theorem holdsOffer_step (holds : device.holdsOffer slot device.process)
    (succeeding : Succeeding slot device action)
    (effect : Effect cipher blobFiles localScope device action after) :
    after.holdsOffer slot after.process := by
  unfold Succeeding at succeeding
  cases effect with
  | backedUp backingUp =>
      rename_i nonce runId key rest
      obtain skipped | gaveUp | encrypted := backUp_cases cipher device nonce
        runId key rest
      · show device.holdsOffer slot _
        rw [skipped.2]
        trivial
      · show device.holdsOffer slot _
        rw [gaveUp]
        trivial
      · obtain ⟨_, _, _, _, _, _, _, _, next⟩ := encrypted
        show device.holdsOffer slot _
        rw [next]
        trivial
  | truncated saving =>
      rw [saving] at holds
      exact holdsOffer_truncated holds
  | saved saving =>
      rw [saving] at holds
      exact holdsOffer_afterSave holds
  | kekStored handshaking => exact beq_iff_eq.mp succeeding
  | keyslotStored storing =>
      rw [storing] at holds
      exact holds
  | sessionOpened opening =>
      rw [opening] at holds
      exact congrArg (fun held => some held.masterKey) holds
  | recordSwapped swapping =>
      rename_i nonce runId targetSpaceId key record rest
      rw [swapping] at holds
      obtain gaveUp | swapped := swapRecord_cases cipher device nonce runId
        targetSpaceId key record rest
      · rw [gaveUp]
        trivial
      · obtain ⟨_, _, _, _, _, _, _, _, next⟩ := swapped
        rw [next]
        exact holds
  | recordsDiscarded discarding =>
      rename_i runId switched
      rw [discarding] at holds
      cases switched <;> exact holds
  | keyDiscarded discarding =>
      rename_i runId switched
      rw [discarding] at holds
      cases switched <;> exact holds
  | failed led =>
      unfold Device.succeedsWith at succeeding
      cases before : device.process with
      | savingAddress runId targetSpaceId =>
          rw [before] at led holds
          cases led
          exact holds
      | discardingRecords runId switched =>
          rw [before] at led holds succeeding
          cases runId with
          | none => cases succeeding
          | some runId =>
              cases led
              cases switched <;> exact holds
      | discardingKey runId switched =>
          rw [before] at led holds
          cases led
          cases switched <;> exact holds
      | _ =>
          rw [before] at succeeding
          cases succeeding
  | confirmed confirming =>
      rw [confirming] at holds
      exact holds
  | admitted admitting =>
      rw [admitting] at holds
      exact holds
  | trusted trusting =>
      rw [trusting] at holds
      exact holds
  | addressSaved saving =>
      rw [saving] at holds
      exact holds
  | counted counting =>
      rw [counting] at holds
      exact holds
  | recordsListed listing permuted =>
      rw [listing] at holds
      exact holds
  | allSwapped swapping =>
      rw [swapping] at holds
      exact holds
  | statusSet setting =>
      rw [setting] at holds
      exact holds
  | captured isCapture stepped =>
      cases action with
      | encryptEvent => cases succeeding
      | insertEvent => cases succeeding
      | deleteEvent => cases succeeding
      | replaceEvent => cases succeeding
      | writeBlob => cases succeeding
      | updateProcessing => cases succeeding
      | _ => cases isCapture
  | crashed => cases succeeding
  | unlocked stopped isSlot => cases succeeding
  | resumed idle => cases succeeding
  | _ => trivial

theorem tables_step (succeeding : Succeeding slot device action)
    (effect : Effect cipher blobFiles localScope device action after) :
    after.blobs = device.blobs ∧
      (after.representations = device.representations ∨
        ∃ key bytes, device.representations.updateMainInlineData key bytes =
          some after.representations) := by
  unfold Succeeding at succeeding
  cases effect with
  | recordSwapped swapping =>
      rename_i nonce runId targetSpaceId key record rest
      obtain gaveUp | swapped := swapRecord_cases cipher device nonce runId
        targetSpaceId key record rest
      · rw [gaveUp]
        exact ⟨rfl, Or.inl rfl⟩
      · obtain ⟨_, _, _, updated, _, _, _, isUpdated, next⟩ := swapped
        rw [next]
        exact ⟨rfl, Or.inr ⟨key, _, isUpdated⟩⟩
  | captured isCapture stepped =>
      cases action with
      | encryptEvent => cases succeeding
      | insertEvent => cases succeeding
      | deleteEvent => cases succeeding
      | replaceEvent => cases succeeding
      | writeBlob => cases succeeding
      | updateProcessing => cases succeeding
      | _ => cases isCapture
  | _ => exact ⟨rfl, Or.inl rfl⟩

theorem keepsRow_update {row : SnapshotRepresentationRow}
    {table updated : RepresentationTable} {key other : RepKey}
    {bytes : List UInt8} (keeps : KeepsRow row table other)
    (isUpdated : table.updateMainInlineData key bytes = some updated) :
    KeepsRow row updated other := by
  obtain ⟨current, held, found, isRep⟩ := keeps
  by_cases same : other = key
  · subst same
    obtain ⟨written, ofCurrent, foundWritten⟩ :=
      findRep_updateMainInlineData found isUpdated
    have isWritten :=
      (SnapshotRepresentationRow.withInlineData_eq_some_iff.mp ofCurrent).2.2
    refine ⟨written, bytes, foundWritten, ?_⟩
    rw [isWritten, isRep]
  · refine ⟨current, held, ?_, isRep⟩
    rw [findRep_updateMainInlineData_of_ne same isUpdated]
    exact found

theorem keepsRow_run {row : SnapshotRepresentationRow} {key : RepKey}
    {start final : Device}
    (run : Run (Device.step cipher blobFiles localScope) (Succeeding slot)
      start final)
    (keeps : KeepsRow row start.representations key) :
    KeepsRow row final.representations key := by
  apply run.preserves keeps
  intro before action after keepsBefore succeeding stepped
  obtain ⟨_, same | updated⟩ := tables_step succeeding (effect_of_step stepped)
  · rw [same]
    exact keepsBefore
  · obtain ⟨updatedKey, bytes, isUpdated⟩ := updated
    exact keepsRow_update keepsBefore isUpdated

theorem blobs_run {start final : Device}
    (run : Run (Device.step cipher blobFiles localScope) (Succeeding slot)
      start final) :
    final.blobs = start.blobs := by
  let sameBlobs : Device → Prop := fun device => device.blobs = start.blobs
  have stepwise : ∀ before action after, sameBlobs before →
      Succeeding slot before action →
        Device.step cipher blobFiles localScope before action = some after →
          sameBlobs after := by
    intro before action after same succeeding stepped
    exact (tables_step succeeding (effect_of_step stepped)).1.trans same
  exact run.preserves (show sameBlobs start from rfl) stepwise

theorem session_run {start final : Device}
    (idle : start.process = .idle false)
    (run : Run (Device.step cipher blobFiles localScope) (Succeeding slot)
      start final)
    (switched : final.process = .idle true) :
    final.session = some slot.masterKey ∧ final.phase = none := by
  let holds : Device → Prop := fun device =>
    device.holdsOffer slot device.process
  have initially : holds start := by
    show start.holdsOffer slot start.process
    rw [idle]
    trivial
  have stepwise : ∀ before action after, holds before →
      Succeeding slot before action →
        Device.step cipher blobFiles localScope before action = some after →
          holds after := by
    intro before action after before_holds succeeding stepped
    exact holdsOffer_step before_holds succeeding (effect_of_step stepped)
  have ended : holds final := run.preserves initially stepwise
  have ends : final.holdsOffer slot final.process := ended
  rw [switched] at ends
  exact ends

end Steps

/-! ## Which items stay readable -/

section Items

variable {ciphers : StoreCiphers} {localScope : String}
variable {start final : Device} {stores : SealedStores}
variable {oldSlot slot : KeySlot}

theorem readInlineData_run {key : RepKey} {plaintext : List UInt8}
    (idle : start.process = .idle false) (noPhase : start.phase = none)
    (isSlot : start.keyslot = some oldSlot)
    (inSession : start.session = some oldSlot.masterKey)
    (run : Run (Device.step ciphers.inlineData ciphers.blobFiles localScope)
      (Succeeding slot) start final)
    (switched : final.process = .idle true)
    (readBefore : readInlineData ciphers start.representations start.session
      key = some plaintext) :
    readInlineData ciphers final.representations final.session key =
      some plaintext := by
  rw [inSession] at readBefore
  unfold readInlineData at readBefore
  split at readBefore
  · rename_i made read
    obtain ⟨row, rep, bytes, found, decoded, hasInline, opened, consistent⟩ :=
      inlineData_of_getRepresentation read readBefore
    have rowInline : row.rep.inlineData = some bytes := by
      rw [← SnapshotRepresentationRow.inlineData_of_toDomain decoded, hasInline]
    have readable : Reads ciphers.inlineData start.representations
        oldSlot.masterKey key plaintext := by
      refine ⟨bytes, ?_, opened⟩
      exact readMainInlineData_eq_some_iff.mpr ⟨row, found, rowInline⟩
    obtain ⟨held, _, ofHeld, reads⟩ := switchIsCrashSafe idle noPhase isSlot
      inSession (run.weaken fun _ _ => undisturbed_of_succeeding) switched
      (session_run idle run switched).2
    have keeps : KeepsRow row start.representations key := by
      refine ⟨row, bytes, found, ?_⟩
      rw [← rowInline]
    obtain ⟨current, newBytes, foundNow, isRep⟩ := keepsRow_run run keeps
    obtain ⟨readBytes, readNow, openedNow⟩ := reads key plaintext readable
    obtain ⟨sameRow, foundAgain, sameBytes⟩ :=
      readMainInlineData_eq_some_iff.mp readNow
    rw [foundNow, Option.some.injEq] at foundAgain
    subst foundAgain
    rw [SnapshotRepresentationRow.inlineData, isRep, Option.some.injEq]
      at sameBytes
    subst sameBytes
    obtain ⟨_, decodedNow⟩ := SnapshotRepresentationRow.toDomain_withInlineData
      rowInline isRep decoded
    have rebuilt := getRepresentation_of_inlineData foundNow decodedNow rfl
      openedNow consistent
    unfold readInlineData
    rw [ofHeld, rebuilt]
  · cases readBefore

/-- After a successful switch every item that was readable reads the same, if
and only if whatever is readable outside the main table is under a key or
subkey that the target space shares. -/
theorem switchMigratesEverything_iff
    (idle : start.process = .idle false) (noPhase : start.phase = none)
    (isSlot : start.keyslot = some oldSlot)
    (inSession : start.session = some oldSlot.masterKey)
    (written : WrittenByStores ciphers start stores)
    (run : Run (Device.step ciphers.inlineData ciphers.blobFiles localScope)
      (Succeeding slot) start final)
    (switched : final.process = .idle true) :
    (∀ item content, readItem ciphers start stores item = some content →
        readItem ciphers final stores item = some content) ↔
      SharesUnmigratedKeys ciphers start stores oldSlot.masterKey
        slot.masterKey := by
  have newSession := (session_run idle run switched).1
  have sameBlobs := blobs_run run
  constructor
  · intro migrated
    refine ⟨?_, ?_, ?_⟩
    · intro readable
      obtain ⟨blobId, content, readOld⟩ := readable
      have kept := migrated (.blob blobId) (.bytes content)
        (by simp only [readItem, inSession, readOld, Option.map_some])
      simp only [readItem, newSession, sameBlobs, Option.map_eq_some_iff]
        at kept
      obtain ⟨newContent, readNew, _⟩ := kept
      exact blobKey_eq_of_read written readOld readNew
    · intro readable
      obtain ⟨entryId, fileSet, readOld⟩ := readable
      have kept := migrated (.fileSet entryId) (.fileSet fileSet)
        (by simp only [readItem, inSession, readOld, Option.map_some])
      simp only [readItem, newSession, Option.map_eq_some_iff] at kept
      obtain ⟨newSet, readNew, _⟩ := kept
      exact fileSetSubkey_eq_of_read written readOld readNew
    · intro readable
      obtain ⟨reference, readOld⟩ := readable
      have kept := migrated .consumable (.reference reference)
        (by simp only [readItem, inSession, readOld, Option.map_some])
      simp only [readItem, newSession, Option.map_eq_some_iff] at kept
      obtain ⟨newRef, readNew, _⟩ := kept
      exact consumableSubkey_eq_of_read written readOld readNew
  · intro shares item content readBefore
    cases item with
    | inlineData key =>
        simp only [readItem, Option.map_eq_some_iff] at readBefore ⊢
        obtain ⟨plaintext, readData, isContent⟩ := readBefore
        exact ⟨plaintext, readInlineData_run idle noPhase isSlot inSession run
          switched readData, isContent⟩
    | blob blobId =>
        simp only [readItem, inSession, newSession, sameBlobs,
          Option.map_eq_some_iff] at readBefore ⊢
        obtain ⟨plaintext, readOld, isContent⟩ := readBefore
        rw [shares.blobs ⟨blobId, plaintext, readOld⟩]
        exact ⟨plaintext, readOld, isContent⟩
    | fileSet entryId =>
        simp only [readItem, inSession, newSession, Option.map_eq_some_iff]
          at readBefore ⊢
        obtain ⟨fileSet, readOld, isContent⟩ := readBefore
        rw [readFileSet_of_subkey_eq
          (shares.fileSets ⟨entryId, fileSet, readOld⟩)]
        exact ⟨fileSet, readOld, isContent⟩
    | consumable =>
        simp only [readItem, inSession, newSession, Option.map_eq_some_iff]
          at readBefore ⊢
        obtain ⟨reference, readOld, isContent⟩ := readBefore
        rw [readConsumable_of_subkey_eq
          (shares.consumable ⟨reference, readOld⟩)]
        exact ⟨reference, readOld, isContent⟩

end Items

/-! ## A history with a blob -/

def samplePostcard : ConsumableCodec where
  toVec reference :=
    Framing.frame (Text.asBytes reference.snapshotHash) ++
      Text.asBytes reference.entryId.asStr
  fromBytes bytes :=
    (Framing.unframe bytes).bind fun opened =>
      (Text.fromUtf8 opened.1).bind fun snapshotHash =>
        (Text.fromUtf8 opened.2).map fun entryId => ⟨snapshotHash, ⟨entryId⟩⟩
  fromBytes_toVec reference := by
    simp

def sampleCiphers : StoreCiphers where
  inlineData := sampleCipher
  blobFiles := sampleBlobFiles
  fileSetPaths := fileSetPathCipher transparentAead
  consumable := consumableCipher transparentAead
  hkdf masterKey _ _ := masterKey
  postcard := samplePostcard
  profile := "default"

def sampleBlob : List UInt8 :=
  sampleBlobFiles.sealing.encrypt (sampleKey 1) sampleNonce [7]
    (Aad.forBlobV2 "blob-1")

/-- The sample device with a blob file of the old space. -/
def sampleHistory : Device :=
  { sampleDevice with
    blobs := (∅ : Table String (List UInt8)).put "blob-1" sampleBlob }

def sampleStores : SealedStores := ⟨∅, none⟩

def wholeSwitch : List Action :=
  backUpSample "run-1" 9 ++ handshakeSample 2 ++ swapSample "run-1" 9

theorem switchMigratesEverything_iff_sample :
    ∃ final, Run (Device.step sampleCipher sampleBlobFiles sampleScope)
        (Succeeding (sampleSlot 2)) sampleHistory final ∧
      final.process = .idle true ∧
      ((∀ item content,
          readItem sampleCiphers sampleHistory sampleStores item =
              some content →
            readItem sampleCiphers final sampleStores item = some content) ↔
        SharesUnmigratedKeys sampleCiphers sampleHistory sampleStores
          (sampleKey 1) (sampleKey 2)) := by
  let step := Device.step sampleCipher sampleBlobFiles sampleScope
  have guarded : Guarded step (Succeeding (sampleSlot 2)) sampleHistory
      wholeSwitch := by
    decide +kernel
  have ended : (execute step sampleHistory wholeSwitch).map Device.process =
      some (.idle true) := by
    decide +kernel
  obtain ⟨final, executed, switched⟩ := Option.map_eq_some_iff.mp ended
  have run := Run.ofExecute guarded executed
  have isSlot : sampleHistory.keyslot = some (sampleSlot 1) := rfl
  have written : WrittenByStores sampleCiphers sampleHistory sampleStores := by
    refine ⟨?_, ?_, ?_⟩
    · intro blobId stored found
      unfold sampleHistory at found
      rw [Table.find_put] at found
      by_cases isBlob : blobId = "blob-1"
      · rw [if_pos isBlob] at found
        exact ⟨sampleKey 1, sampleNonce, [7], isBlob ▸ found⟩
      · rw [if_neg isBlob] at found
        cases found
    · intro entryId rows found
      cases found
    · intro ciphertext found
      cases found
  exact ⟨final, run, switched,
    switchMigratesEverything_iff rfl rfl isSlot rfl written run switched⟩

/-- The blob is readable before the switch and not after it. -/
theorem switch_leaves_blob_behind :
    readItem sampleCiphers sampleHistory sampleStores (.blob "blob-1") =
      some (.bytes [7]) ∧
    (execute (Device.step sampleCipher sampleBlobFiles sampleScope)
        sampleHistory wholeSwitch).map
          (fun device => (device.process, device.session,
            readItem sampleCiphers device sampleStores (.blob "blob-1"))) =
      some (.idle true, some (sampleKey 2), none) := by
  decide +kernel

end OpenClipboard.SwitchSpace
