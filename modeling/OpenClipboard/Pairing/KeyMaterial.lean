import OpenClipboard.Library.Table
import OpenClipboard.Pairing.Message
import OpenClipboard.Security.Cipher

/-!
# The device's keys

The keyslot on disk, the KEK in the keychain and the master key in the
session, as `DefaultSpaceAccessAdapter` reads and replaces them.  A storage
operation fails where its fault says; a keychain write that fails leaves the
old secret.
-/

namespace OpenClipboard.Pairing

inductive EncryptionError where
  | wrongPassphrase
  | unsupportedKeySlotVersion
  | unsupportedBlobVersion
  | corruptedKeySlot
  | corruptedBlob
  | keyNotFound
  | keyMaterialCorrupt
  | keyringError (message : String)
  | permissionDenied
  | ioFailure
  deriving DecidableEq, Repr

def EncryptionError.display : EncryptionError → String
  | .wrongPassphrase => "wrong passphrase"
  | .unsupportedKeySlotVersion => "unsupported keyslot version"
  | .unsupportedBlobVersion => "unsupported blob format version"
  | .corruptedKeySlot => "corrupted keyslot data"
  | .corruptedBlob => "corrupted encrypted blob"
  | .keyNotFound => "key material not found"
  | .keyMaterialCorrupt => "key material is corrupt"
  | .keyringError message => "other encryption error: " ++ message
  | .permissionDenied => "permission denied for key material access"
  | .ioFailure => "I/O failure during key material access"

def mapEncryptionError : EncryptionError → SpaceAccessError
  | .wrongPassphrase => .wrongPassphrase
  | .corruptedKeySlot => .corruptedKeyMaterial
  | .corruptedBlob => .corruptedKeyMaterial
  | .unsupportedKeySlotVersion => .corruptedKeyMaterial
  | .unsupportedBlobVersion => .corruptedKeyMaterial
  | other => .internal other.display

inductive SecureStorageError where
  | unavailable (message : String)
  | permissionDenied (message : String)
  | corrupt (message : String)
  | other (message : String)
  deriving DecidableEq, Repr

def mapStorageError : SecureStorageError → EncryptionError
  | .permissionDenied _ => .permissionDenied
  | .corrupt _ => .keyMaterialCorrupt
  | .unavailable message => .keyringError message
  | .other message => .keyringError message

/-! ## Keyslots -/

structure KeyScope where
  profileId : String
  deriving DecidableEq, Repr

def KeyScope.scopeIdentifier (scope : KeyScope) : String :=
  "profile:" ++ scope.profileId

structure KdfParamsV1 where
  memKib : UInt32
  iters : UInt32
  parallelism : UInt32
  deriving DecidableEq, Repr

structure KdfParams where
  alg : String
  params : KdfParamsV1
  deriving DecidableEq, Repr

structure KeySlot where
  version : String
  scope : KeyScope
  kdf : KdfParams
  salt : List UInt8
  wrappedMasterKey : Option EncryptedBlob
  deriving DecidableEq, Repr

/-- The keyslot as the file has it; its two timestamps are never written. -/
structure KeySlotFile where
  version : String
  scope : KeyScope
  kdf : KdfParams
  salt : List UInt8
  wrappedMasterKey : EncryptedBlob
  deriving DecidableEq, Repr

def KeySlotFile.tryFrom (slot : KeySlot) : Option KeySlotFile :=
  slot.wrappedMasterKey.map fun wrapped =>
    ⟨slot.version, slot.scope, slot.kdf, slot.salt, wrapped⟩

/-! ## The keyslot on disk -/

/-- What is at the path of `keyslot.json`; where it is a directory, the file is
in it. -/
inductive KeySlotDisk where
  | missing
  | file (slot : KeySlotFile)
  | directory (slot : Option KeySlotFile)
  deriving DecidableEq, Repr

inductive StoreFault where
  | removeDirectory
  | createParent
  | writeTemporary
  | rename
  deriving DecidableEq, Repr

inductive DeleteFault where
  | load
  | removeFile
  | removeDirectory
  deriving DecidableEq, Repr

namespace KeySlotDisk

def held : KeySlotDisk → Option KeySlotFile
  | .missing => none
  | .file slot => some slot
  | .directory slot => slot

@[simp]
theorem held_missing : missing.held = none := rfl

@[simp]
theorem held_file (slot : KeySlotFile) : (file slot).held = some slot := rfl

@[simp]
theorem held_directory (slot : Option KeySlotFile) :
    (directory slot).held = slot := rfl

def isDirectory : KeySlotDisk → Bool
  | .directory _ => true
  | _ => false

def withoutDirectory : KeySlotDisk → KeySlotDisk
  | .directory _ => .missing
  | disk => disk

def store (disk : KeySlotDisk) (slot : KeySlotFile)
    (fault : Option StoreFault) : Except EncryptionError Unit × KeySlotDisk :=
  match fault with
  | some .removeDirectory =>
      if disk.isDirectory then
        (.error .ioFailure, disk)
      else
        (.ok (), .file slot)
  | some _ => (.error .ioFailure, disk.withoutDirectory)
  | none => (.ok (), .file slot)

/-- `KeyMaterialStore::delete_keyslot`: only the keyslot of this scope. -/
def delete (disk : KeySlotDisk) (scope : KeyScope)
    (fault : Option DeleteFault) : Except EncryptionError Unit × KeySlotDisk :=
  match fault, disk.held with
  | some .load, some _ => (.error .ioFailure, disk)
  | _, none => (.error .keyNotFound, disk)
  | fault, some slot =>
      if slot.scope ≠ scope then
        (.error .keyMaterialCorrupt, disk)
      else
        match fault with
        | some .removeFile => (.error .ioFailure, disk)
        | some .removeDirectory =>
            if disk.isDirectory then
              (.error .ioFailure, .directory none)
            else
              (.ok (), .missing)
        | _ => (.ok (), .missing)

end KeySlotDisk

/-! ## The keys of a device -/

def kekKey (scope : KeyScope) : String :=
  "kek:v1:" ++ scope.scopeIdentifier

structure DeviceKeys where
  keyslot : KeySlotDisk
  keychain : Table String MasterKey
  session : Option MasterKey
  kekObserved : Bool

structure StorageFaults where
  storeKek : Option SecureStorageError
  storeKeyslot : Option StoreFault
  deleteKeyslot : Option DeleteFault
  deleteKek : Option SecureStorageError

namespace DeviceKeys

def storeKek (keys : DeviceKeys) (scope : KeyScope) (kek : MasterKey)
    (fault : Option SecureStorageError) :
    Except EncryptionError Unit × DeviceKeys :=
  match fault with
  | some error => (.error (mapStorageError error), keys)
  | none =>
      (.ok (), { keys with keychain := keys.keychain.put (kekKey scope) kek })

def deleteKek (keys : DeviceKeys) (scope : KeyScope)
    (fault : Option SecureStorageError) : DeviceKeys :=
  match fault with
  | some _ => keys
  | none => { keys with keychain := keys.keychain.remove (kekKey scope) }

/-- The same keyslot on disk, the same KEKs in the keychain and the same master
key in the session. -/
def Same (left right : DeviceKeys) : Prop :=
  left.keyslot.held = right.keyslot.held ∧
    (∀ name, left.keychain.find name = right.keychain.find name) ∧
    left.session = right.session

end DeviceKeys

/-! ## Deriving the master key of an offer -/

/-- The libraries: `serde_json` on keyslots, Argon2id, the AEAD and
HMAC-SHA256. -/
structure KeyCrypto where
  fromSlice : List UInt8 → Option KeySlot
  hashPasswordInto : KdfParamsV1 → List UInt8 → List UInt8 →
    Except String MasterKey
  aead : XChaCha20Poly1305
  hmac : MasterKey → List UInt8 → List UInt8

inductive AeadError where
  | decryptFailed
  deriving DecidableEq, Repr

section Derive

variable (crypto : KeyCrypto)

def deriveKekArgon2id (passphrase : List UInt8) (salt : List UInt8)
    (kdf : KdfParams) : Except String MasterKey :=
  if kdf.alg ≠ "Argon2id" then
    .error ("unsupported KDF algorithm: " ++ kdf.alg)
  else
    crypto.hashPasswordInto kdf.params passphrase salt

def masterKeyFromBytes (bytes : List UInt8) : Option MasterKey :=
  if sized : bytes.length = 32 then some ⟨bytes, sized⟩ else none

/-- `unwrap_master_key_xchacha`; `none` is the panic on a nonce of another
length. -/
def unwrapMasterKey (kek : MasterKey) (wrapped : EncryptedBlob) :
    Option (Except AeadError MasterKey) :=
  (Nonce.ofBytes wrapped.nonce).map fun nonce =>
    match crypto.aead.decrypt kek nonce wrapped.ciphertext [] with
    | none => .error .decryptFailed
    | some plaintext =>
        match masterKeyFromBytes plaintext with
        | none => .error .decryptFailed
        | some masterKey => .ok masterKey

/-- What an offer that the passphrase unwraps puts in place. -/
structure OfferedKeys where
  slot : KeySlotFile
  kek : MasterKey
  masterKey : MasterKey
  deriving DecidableEq, Repr

/-- The offer up to its first effect; `none` is a panic. -/
def openOffer (keyslotBlob passphrase : List UInt8) :
    Option (Except SpaceAccessError OfferedKeys) :=
  match crypto.fromSlice keyslotBlob with
  | none => some (.error .corruptedKeyMaterial)
  | some slot =>
      match KeySlotFile.tryFrom slot with
      | none => some (.error .corruptedKeyMaterial)
      | some file =>
          match deriveKekArgon2id crypto passphrase file.salt file.kdf with
          | .error message => some (.error (.internal message))
          | .ok kek =>
              (unwrapMasterKey crypto kek file.wrappedMasterKey).map fun
                | .error .decryptFailed => .error .wrongPassphrase
                | .ok masterKey => .ok ⟨file, kek, masterKey⟩

/-- Store the KEK, then the keyslot, and then open the session; if the keyslot
cannot be stored, delete both. -/
def DeviceKeys.replace (keys : DeviceKeys) (offered : OfferedKeys)
    (faults : StorageFaults) : Except SpaceAccessError Unit × DeviceKeys :=
  let scope := offered.slot.scope
  match keys.storeKek scope offered.kek faults.storeKek with
  | (.error error, keys) => (.error (mapEncryptionError error), keys)
  | (.ok (), keys) =>
      match keys.keyslot.store offered.slot faults.storeKeyslot with
      | (.error error, disk) =>
          let rolledBack := (disk.delete scope faults.deleteKeyslot).2
          (.error (mapEncryptionError error),
            { { keys with keyslot := rolledBack }.deleteKek scope
                faults.deleteKek with kekObserved := false })
      | (.ok (), disk) =>
          (.ok (), { keys with
            keyslot := disk
            session := some offered.masterKey
            kekObserved := true })

def deriveMasterKeyForProof (keys : DeviceKeys)
    (keyslotBlob passphrase : List UInt8) (faults : StorageFaults) :
    Option (Except SpaceAccessError MasterKey) × DeviceKeys :=
  match openOffer crypto keyslotBlob passphrase with
  | none => (none, keys)
  | some (.error error) => (some (.error error), keys)
  | some (.ok offered) =>
      match keys.replace offered faults with
      | (.error error, keys) => (some (.error error), keys)
      | (.ok (), keys) => (some (.ok offered.masterKey), keys)

/-- The KEK and the master key that the passphrase opens the keyslot on disk
with; `none` is a panic. -/
def openKeyslot (held : Option KeySlotFile) (profile : KeyScope)
    (passphrase : List UInt8) :
    Option (Except SpaceAccessError (MasterKey × MasterKey)) :=
  match held with
  | none => some (.error .notInitialized)
  | some slot =>
      if slot.scope ≠ profile then
        some (.error (mapEncryptionError .keyMaterialCorrupt))
      else
        match deriveKekArgon2id crypto passphrase slot.salt slot.kdf with
        | .error message => some (.error (.internal message))
        | .ok kek =>
            (unwrapMasterKey crypto kek slot.wrappedMasterKey).map fun
              | .error .decryptFailed => .error .wrongPassphrase
              | .ok masterKey => .ok (kek, masterKey)

/-- `unlock`: the keychain is refreshed unless its KEK was observed. -/
def DeviceKeys.unlock (keys : DeviceKeys) (profile : KeyScope)
    (passphrase : List UInt8) (refreshFault : Option SecureStorageError) :
    Option (Except SpaceAccessError Unit) × DeviceKeys :=
  match openKeyslot crypto keys.keyslot.held profile passphrase with
  | none => (none, keys)
  | some (.error error) => (some (.error error), keys)
  | some (.ok (kek, masterKey)) =>
      let refreshed :=
        if keys.kekObserved then
          keys
        else
          match keys.storeKek profile kek refreshFault with
          | (.error _, keys) => keys
          | (.ok (), keys) => { keys with kekObserved := true }
      (some (.ok ()), { refreshed with session := some masterKey })

end Derive

/-! ## The proof of the master key -/

def u32ToBeBytes (value : Nat) : List UInt8 :=
  [UInt8.ofNat (value / 2 ^ 24), UInt8.ofNat (value / 2 ^ 16),
    UInt8.ofNat (value / 2 ^ 8), UInt8.ofNat value]

def proofPayload (session : PairingSessionId) (spaceId : SpaceId)
    (nonce : Digest) : List UInt8 :=
  let sessionBytes := Text.asBytes session.asStr
  let spaceBytes := Text.asBytes spaceId.asStr
  u32ToBeBytes sessionBytes.length ++ sessionBytes ++
    u32ToBeBytes spaceBytes.length ++ spaceBytes ++ nonce.bytes

def computeHmac (crypto : KeyCrypto) (session : PairingSessionId)
    (spaceId : SpaceId) (nonce : Digest) (masterKey : MasterKey) :
    List UInt8 :=
  crypto.hmac masterKey (proofPayload session spaceId nonce)

/-! ## What keeps the keys -/

section Keeping

variable {keys left right : DeviceKeys} {offered : OfferedKeys}
variable {crypto : KeyCrypto}

def DeviceKeys.Holds (keys : DeviceKeys) (offered : OfferedKeys) : Prop :=
  keys.keyslot.held = some offered.slot ∧
    keys.keychain.find (kekKey offered.slot.scope) = some offered.kek ∧
    keys.session = some offered.masterKey

/-- The fault hits an operation that storing the keyslot runs. -/
def KeySlotDisk.storeFails (disk : KeySlotDisk) : Option StoreFault → Bool
  | none => false
  | some .removeDirectory => disk.isDirectory
  | some _ => true

/-- The rollback finds no keyslot of the device: there is none, or it was not
lost with its directory and is of another scope or cannot be deleted. -/
def KeySlotDisk.Survives (disk : KeySlotDisk) (scope : KeyScope)
    (faults : StorageFaults) : Prop :=
  ∀ slot ∈ disk.held,
    (disk.isDirectory = true → faults.storeKeyslot = some .removeDirectory) ∧
      (slot.scope = scope → faults.deleteKeyslot = some .load ∨
        faults.deleteKeyslot = some .removeFile)

/-- The rollback leaves the KEK of the offer's scope as it was. -/
def DeviceKeys.KekSurvives (keys : DeviceKeys) (offered : OfferedKeys)
    (faults : StorageFaults) : Prop :=
  keys.keychain.find (kekKey offered.slot.scope) =
    if faults.deleteKek.isSome then some offered.kek else none

/-- Where an offer leaves the keys as they were: the KEK cannot be stored, the
rollback of a keyslot that cannot be stored touches nothing of the device's,
or the device holds what is offered. -/
def DeviceKeys.Undisturbed (keys : DeviceKeys) (offered : OfferedKeys)
    (faults : StorageFaults) : Prop :=
  faults.storeKek.isSome = true ∨
    if keys.keyslot.storeFails faults.storeKeyslot then
      keys.keyslot.Survives offered.slot.scope faults ∧
        keys.KekSurvives offered faults
    else
      keys.Holds offered

theorem KeySlotDisk.store_of_fails {disk : KeySlotDisk} {slot : KeySlotFile}
    {fault : Option StoreFault} (fails : disk.storeFails fault = true) :
    disk.store slot fault = (.error .ioFailure,
      if fault = some .removeDirectory then disk
      else disk.withoutDirectory) := by
  cases fault with
  | none => cases fails
  | some fault =>
      cases fault with
      | removeDirectory =>
          have isDirectory : disk.isDirectory = true := fails
          simp [store, isDirectory]
      | createParent => rfl
      | writeTemporary => rfl
      | rename => rfl

theorem KeySlotDisk.store_of_not_fails {disk : KeySlotDisk} {slot : KeySlotFile}
    {fault : Option StoreFault} (fails : disk.storeFails fault = false) :
    disk.store slot fault = (.ok (), .file slot) := by
  cases fault with
  | none => rfl
  | some fault =>
      cases fault with
      | removeDirectory =>
          have notDirectory : disk.isDirectory = false := fails
          simp [store, notDirectory]
      | createParent => cases fails
      | writeTemporary => cases fails
      | rename => cases fails

theorem KeySlotDisk.held_withoutDirectory {disk : KeySlotDisk} :
    disk.withoutDirectory.held =
      if disk.isDirectory then none else disk.held := by
  cases disk with
  | missing => rfl
  | file slot => rfl
  | directory slot => rfl

/-- Deleting leaves the keyslot exactly if there is none, it is of another
scope, or it cannot be read or removed. -/
theorem KeySlotDisk.held_delete {disk : KeySlotDisk} {scope : KeyScope}
    {fault : Option DeleteFault} :
    (disk.delete scope fault).2.held = disk.held ↔
      ∀ slot ∈ disk.held, slot.scope = scope →
        fault = some .load ∨ fault = some .removeFile := by
  cases isHeld : disk.held with
  | none =>
      apply iff_of_true
      · cases fault with
        | none => simp [delete, isHeld]
        | some fault => cases fault <;> simp [delete, isHeld]
      · intro slot member
        cases member
  | some slot =>
      by_cases sameScope : slot.scope = scope
      · cases fault with
        | none => simp [delete, isHeld, sameScope]
        | some fault =>
            cases fault with
            | load => simp [delete, isHeld]
            | removeFile => simp [delete, isHeld, sameScope]
            | removeDirectory =>
                by_cases isDirectory : disk.isDirectory = true
                · simp [delete, isHeld, sameScope, isDirectory]
                · simp [delete, isHeld, sameScope, isDirectory]
      · apply iff_of_true
        · cases fault with
          | none => simp [delete, isHeld, sameScope]
          | some fault => cases fault <;> simp [delete, isHeld, sameScope]
        · intro other member isScope
          cases member
          exact absurd isScope sameScope

theorem KeySlotDisk.held_rollback {disk : KeySlotDisk} {slot : KeySlotFile}
    {scope : KeyScope} {faults : StorageFaults}
    (fails : disk.storeFails faults.storeKeyslot = true) :
    ((disk.store slot faults.storeKeyslot).2.delete scope
        faults.deleteKeyslot).2.held = disk.held ↔
      disk.Survives scope faults := by
  rw [store_of_fails fails]
  by_cases lost : disk.isDirectory = true ∧
      faults.storeKeyslot ≠ some .removeDirectory
  · obtain ⟨isDirectory, isLater⟩ := lost
    simp only [if_neg isLater]
    have gone : disk.withoutDirectory.held = none := by
      rw [held_withoutDirectory, if_pos isDirectory]
    have stillGone : (disk.withoutDirectory.delete scope
        faults.deleteKeyslot).2.held = none := by
      rw [← gone]
      apply held_delete.mpr
      intro slot member
      rw [gone] at member
      cases member
    rw [stillGone]
    constructor
    · intro noSlot slot member
      rw [← noSlot] at member
      cases member
    · intro survives
      cases isHeld : disk.held with
      | none => rfl
      | some slot =>
          exact absurd ((survives slot isHeld).1 isDirectory) isLater
  · have kept : (if faults.storeKeyslot = some .removeDirectory then disk
        else disk.withoutDirectory) = disk := by
      by_cases isFirst : faults.storeKeyslot = some .removeDirectory
      · rw [if_pos isFirst]
      · rw [if_neg isFirst]
        cases disk with
        | missing => rfl
        | file slot => rfl
        | directory slot => exact absurd ⟨rfl, isFirst⟩ lost
    simp only [kept]
    rw [held_delete]
    constructor
    · intro spared slot member
      refine ⟨?_, spared slot member⟩
      intro isDirectory
      by_contra isLater
      exact lost ⟨isDirectory, isLater⟩
    · intro survives slot member
      exact (survives slot member).2

/-- A KEK put and taken out again, or left there. -/
theorem DeviceKeys.kekSurvives_iff {faults : StorageFaults} :
    (∀ name, ({ keys with
        keychain := keys.keychain.put (kekKey offered.slot.scope)
          offered.kek }.deleteKek offered.slot.scope
            faults.deleteKek).keychain.find name = keys.keychain.find name) ↔
      keys.KekSurvives offered faults := by
  unfold KekSurvives deleteKek
  cases faults.deleteKek with
  | none =>
      constructor
      · intro same
        have own := same (kekKey offered.slot.scope)
        rw [Table.find_remove_self] at own
        exact own.symm
      · intro absent name
        rw [Table.find_remove, Table.find_put]
        split
        · rename_i isName
          rw [isName]
          exact absent.symm
        · rfl
  | some error =>
      constructor
      · intro same
        have own := same (kekKey offered.slot.scope)
        rw [Table.find_put_self] at own
        exact own.symm
      · intro isKek name
        rw [Table.find_put]
        split
        · rename_i isName
          rw [isName]
          exact isKek.symm
        · rfl

theorem DeviceKeys.replace_same_iff {faults : StorageFaults} :
    (keys.replace offered faults).2.Same keys ↔
      keys.Undisturbed offered faults := by
  unfold replace Undisturbed
  cases faulty : faults.storeKek with
  | some error =>
      apply iff_of_true
      · exact ⟨rfl, fun _ => rfl, rfl⟩
      · exact Or.inl rfl
  | none =>
      cases fails : keys.keyslot.storeFails faults.storeKeyslot with
      | true =>
          have spared := @KeySlotDisk.held_rollback keys.keyslot offered.slot
            offered.slot.scope faults fails
          rw [KeySlotDisk.store_of_fails fails] at spared
          have kekSpared := @kekSurvives_iff keys offered faults
          simp only [storeKek, KeySlotDisk.store_of_fails fails]
          rw [if_pos trivial, ← spared, ← kekSpared]
          unfold deleteKek
          cases faults.deleteKek with
          | none => simp [Same]
          | some error => simp [Same]
      | false =>
          simp only [storeKek, KeySlotDisk.store_of_not_fails fails]
          constructor
          · rintro ⟨sameSlot, sameKeks, sameSession⟩
            refine Or.inr ⟨sameSlot.symm, ?_, sameSession.symm⟩
            rw [← sameKeks, Table.find_put_self]
          · rintro (refused | ⟨sameSlot, sameKek, sameSession⟩)
            · cases refused
            · refine ⟨sameSlot.symm, ?_, sameSession.symm⟩
              intro name
              rw [Table.find_put]
              split
              · rename_i isName
                rw [isName, sameKek]
              · rfl

end Keeping

end OpenClipboard.Pairing
