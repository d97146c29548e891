import OpenClipboard.Pairing.KeyMaterial

/-!
# Opening and closing a space

`DefaultSpaceAccessAdapter` on the keys of a device: the intents that make
keys, open the session with them or delete them, and the probe of the keychain
that a flag answers once the KEK was observed.  An operation that panics on a
wrapped key with a nonce of another length has no result and leaves the keys
as they are.
-/

namespace OpenClipboard.Pairing

/-! ## Reading keyslot and KEK -/

/-- The keyslot file cannot be seen, read or parsed. -/
inductive LoadFault where
  | unseen
  | unread
  | unparsed
  deriving DecidableEq, Repr

def LoadFault.error : LoadFault → EncryptionError
  | .unseen => .keyNotFound
  | .unread => .ioFailure
  | .unparsed => .keyMaterialCorrupt

namespace KeySlotDisk

def load (disk : KeySlotDisk) (fault : Option LoadFault) :
    Except EncryptionError KeySlotFile :=
  match disk.held, fault with
  | none, _ => .error .keyNotFound
  | some _, some fault => .error fault.error
  | some slot, none => .ok slot

def loadKeyslot (disk : KeySlotDisk) (scope : KeyScope)
    (fault : Option LoadFault) : Except EncryptionError KeySlotFile :=
  match disk.load fault with
  | .error error => .error error
  | .ok slot =>
      if slot.scope ≠ scope then .error .keyMaterialCorrupt else .ok slot

def keyslotExists (disk : KeySlotDisk) (fault : Option LoadFault) :
    Except EncryptionError Bool :=
  match disk.load fault with
  | .ok _ => .ok true
  | .error .keyNotFound => .ok false
  | .error other => .error other

/-- `KeyMaterialStore::delete_keyslot`, whose first step is a load. -/
def deleteKeyslot (disk : KeySlotDisk) (scope : KeyScope)
    (loadFault : Option LoadFault) (fault : Option DeleteFault) :
    Except EncryptionError Unit × KeySlotDisk :=
  match disk.load loadFault with
  | .error error => (.error error, disk)
  | .ok _ => disk.delete scope fault

end KeySlotDisk

/-- `KeyMaterialStore::load_kek`; a secret that is no KEK is a fault too. -/
def DeviceKeys.loadKek (keys : DeviceKeys) (scope : KeyScope)
    (fault : Option SecureStorageError) : Except EncryptionError MasterKey :=
  match fault, keys.keychain.find (kekKey scope) with
  | some error, _ => .error (mapStorageError error)
  | none, none => .error .keyNotFound
  | none, some kek => .ok kek

/-! ## What an operation is given and returns -/

/-- The storage operations that fail when an operation runs them. -/
structure SpaceFaults extends StorageFaults where
  keyslotExists : Option LoadFault
  loadKeyslot : Option LoadFault
  loadKek : Option SecureStorageError

def SpaceFaults.none : SpaceFaults where
  storeKek := .none
  storeKeyslot := .none
  deleteKeyslot := .none
  deleteKek := .none
  keyslotExists := .none
  loadKeyslot := .none
  loadKek := .none

/-- What the random number generators give; the one of the operating system
can fail. -/
structure FreshKeys where
  salt : Option { bytes : List UInt8 // bytes.length = 16 }
  masterKey : Option MasterKey
  wrapNonce : Nonce
  challengeNonce : Digest

abbrev CurrentProfile := Except String KeyScope

structure ActiveSpace where
  spaceId : SpaceId
  deriving DecidableEq, Repr

structure JoinOffer where
  spaceId : SpaceId
  keyslotBlob : List UInt8
  challengeNonce : Digest
  deriving DecidableEq, Repr

/-! ## First-time initialisation -/

def KdfParams.forInitialization : KdfParams :=
  ⟨"Argon2id", ⟨128 * 1024, 3, 4⟩⟩

def KeySlotFile.toKeySlot (file : KeySlotFile) : KeySlot :=
  ⟨file.version, file.scope, file.kdf, file.salt, some file.wrappedMasterKey⟩

section Operations

variable (crypto : KeyCrypto)

/-- `wrap_master_key_xchacha`. -/
def wrapMasterKey (kek masterKey : MasterKey) (nonce : Nonce) :
    EncryptedBlob where
  version := "V1"
  aead := "XChaCha20Poly1305"
  nonce := nonce.bytes
  ciphertext := crypto.aead.encrypt kek nonce masterKey.bytes []
  aadFingerprint := none

/-- `do_first_time_init` up to its first effect. -/
def createKeys (scope : KeyScope) (passphrase : List UInt8)
    (fresh : FreshKeys) : Except SpaceAccessError OfferedKeys :=
  match fresh.salt with
  | none => .error (.internal "internal crypto failure")
  | some salt =>
      match deriveKekArgon2id crypto passphrase salt.val
          .forInitialization with
      | .error message => .error (.internal message)
      | .ok kek =>
          match fresh.masterKey with
          | none => .error (.internal "internal crypto failure")
          | some masterKey =>
              .ok {
                slot := {
                  version := "V1"
                  scope := scope
                  kdf := .forInitialization
                  salt := salt.val
                  wrappedMasterKey :=
                    wrapMasterKey crypto kek masterKey fresh.wrapNonce }
                kek := kek
                masterKey := masterKey }

namespace DeviceKeys

def doFirstTimeInit (keys : DeviceKeys) (scope : KeyScope)
    (passphrase : List UInt8) (fresh : FreshKeys) (faults : SpaceFaults) :
    Except SpaceAccessError KeySlotFile × DeviceKeys :=
  match createKeys crypto scope passphrase fresh with
  | .error error => (.error error, keys)
  | .ok created =>
      match keys.replace created faults.toStorageFaults with
      | (.error error, keys) => (.error error, keys)
      | (.ok (), keys) => (.ok created.slot, keys)

/-! ## The intents -/

def initializeSpace (keys : DeviceKeys) (spaceId : SpaceId)
    (passphrase : List UInt8) (profile : CurrentProfile) (fresh : FreshKeys)
    (faults : SpaceFaults) : Except SpaceAccessError ActiveSpace × DeviceKeys :=
  match keys.keyslot.keyslotExists faults.keyslotExists with
  | .error error => (.error (.internal error.display), keys)
  | .ok true => (.error .alreadyInitialized, keys)
  | .ok false =>
      match profile with
      | .error message => (.error (.internal message), keys)
      | .ok scope =>
          match keys.doFirstTimeInit crypto scope passphrase fresh faults with
          | (.error error, keys) => (.error error, keys)
          | (.ok _, keys) => (.ok ⟨spaceId⟩, keys)

def unlockSpace (keys : DeviceKeys) (spaceId : SpaceId)
    (passphrase : List UInt8) (profile : CurrentProfile)
    (faults : SpaceFaults) :
    Option (Except SpaceAccessError ActiveSpace) × DeviceKeys :=
  match keys.keyslot.keyslotExists faults.keyslotExists with
  | .error error => (some (.error (.internal error.display)), keys)
  | .ok false => (some (.error .notInitialized), keys)
  | .ok true =>
      match profile with
      | .error message => (some (.error (.internal message)), keys)
      | .ok scope =>
          match keys.keyslot.loadKeyslot scope faults.loadKeyslot with
          | .error error => (some (.error (mapEncryptionError error)), keys)
          | .ok _ =>
              match keys.unlock crypto scope passphrase faults.storeKek with
              | (none, keys) => (none, keys)
              | (some (.error error), keys) => (some (.error error), keys)
              | (some (.ok ()), keys) => (some (.ok ⟨spaceId⟩), keys)

def lock (keys : DeviceKeys) : DeviceKeys :=
  { keys with session := none }

/-- What `factory_reset` does once the keyslot is deleted or absent. -/
def forgetKek (keys : DeviceKeys) (scope : KeyScope)
    (fault : Option SecureStorageError) :
    Except SpaceAccessError Unit × DeviceKeys :=
  match fault with
  | some error => (.error (mapEncryptionError (mapStorageError error)), keys)
  | none =>
      (.ok (), { keys.deleteKek scope none with
        kekObserved := false
        session := none })

def factoryReset (keys : DeviceKeys) (profile : CurrentProfile)
    (faults : SpaceFaults) : Except SpaceAccessError Unit × DeviceKeys :=
  match profile with
  | .error message => (.error (.internal message), keys)
  | .ok scope =>
      match keys.keyslot.deleteKeyslot scope faults.loadKeyslot
          faults.deleteKeyslot with
      | (.ok (), disk) =>
          { keys with keyslot := disk }.forgetKek scope faults.deleteKek
      | (.error .keyNotFound, disk) =>
          { keys with keyslot := disk }.forgetKek scope faults.deleteKek
      | (.error error, disk) =>
          (.error (mapEncryptionError error), { keys with keyslot := disk })

def tryResumeSession (keys : DeviceKeys) (spaceId : SpaceId)
    (profile : CurrentProfile) (faults : SpaceFaults) :
    Option (Except SpaceAccessError (Option ActiveSpace)) × DeviceKeys :=
  if keys.session.isSome then
    (some (.ok (some ⟨spaceId⟩)), keys)
  else
    match keys.keyslot.keyslotExists faults.keyslotExists with
    | .error error => (some (.error (.internal error.display)), keys)
    | .ok false => (some (.ok none), keys)
    | .ok true =>
        match profile with
        | .error message => (some (.error (.internal message)), keys)
        | .ok scope =>
            match keys.keyslot.loadKeyslot scope faults.loadKeyslot,
                keys.loadKek scope faults.loadKek with
            | .error error, _ => (some (.error (mapEncryptionError error)), keys)
            | .ok _, .error error =>
                (some (.error (mapEncryptionError error)), keys)
            | .ok slot, .ok kek =>
                match unwrapMasterKey crypto kek slot.wrappedMasterKey with
                | none => (none, keys)
                | some (.error .decryptFailed) =>
                    (some (.error .wrongPassphrase), keys)
                | some (.ok masterKey) =>
                    (some (.ok (some ⟨spaceId⟩)), { keys with
                      kekObserved := true
                      session := some masterKey })

/-- The flag answers for the keychain; otherwise loading the KEK does, and sets
it. -/
def verifyKeychainAccess (keys : DeviceKeys) (profile : CurrentProfile)
    (faults : SpaceFaults) : Except SpaceAccessError Bool × DeviceKeys :=
  if keys.kekObserved then
    (.ok true, keys)
  else
    match profile with
    | .error message => (.error (.internal message), keys)
    | .ok scope =>
        match keys.loadKek scope faults.loadKek with
        | .ok _ => (.ok true, { keys with kekObserved := true })
        | .error .permissionDenied => (.ok false, keys)
        | .error (.keyringError _) => (.ok false, keys)
        | .error .keyNotFound => (.error .notInitialized, keys)
        | .error other => (.error (.internal other.display), keys)

/-- `to_vec` is `serde_json` on keyslots. -/
def prepareJoinOffer (toVec : KeySlot → List UInt8) (keys : DeviceKeys)
    (spaceId : SpaceId) (passphrase : List UInt8) (profile : CurrentProfile)
    (fresh : FreshKeys) (faults : SpaceFaults) :
    Except SpaceAccessError JoinOffer × DeviceKeys :=
  match keys.keyslot.keyslotExists faults.keyslotExists with
  | .error error => (.error (.internal error.display), keys)
  | .ok alreadyInitialized =>
      match profile with
      | .error message => (.error (.internal message), keys)
      | .ok scope =>
          if alreadyInitialized then
            match keys.keyslot.loadKeyslot scope faults.loadKeyslot with
            | .error error => (.error (mapEncryptionError error), keys)
            | .ok slot =>
                (.ok ⟨spaceId, toVec slot.toKeySlot, fresh.challengeNonce⟩,
                  keys)
          else
            match keys.doFirstTimeInit crypto scope passphrase fresh
                faults with
            | (.error error, keys) => (.error error, keys)
            | (.ok slot, keys) =>
                (.ok ⟨spaceId, toVec slot.toKeySlot, fresh.challengeNonce⟩,
                  keys)

end DeviceKeys

end Operations

/-! ## Sequences of intents -/

inductive SpaceIntent where
  | initializeSpace (spaceId : SpaceId) (passphrase : List UInt8)
      (profile : CurrentProfile) (fresh : FreshKeys) (faults : SpaceFaults)
  | unlock (spaceId : SpaceId) (passphrase : List UInt8)
      (profile : CurrentProfile) (faults : SpaceFaults)
  | lock
  | tryResumeSession (spaceId : SpaceId) (profile : CurrentProfile)
      (faults : SpaceFaults)
  | verifyKeychainAccess (profile : CurrentProfile) (faults : SpaceFaults)
  | prepareJoinOffer (spaceId : SpaceId) (passphrase : List UInt8)
      (profile : CurrentProfile) (fresh : FreshKeys) (faults : SpaceFaults)
  | deriveMasterKeyForProof (offer : JoinOffer) (passphrase : List UInt8)
      (faults : SpaceFaults)
  | factoryReset (profile : CurrentProfile) (faults : SpaceFaults)

def DeviceKeys.carryOut (crypto : KeyCrypto) (toVec : KeySlot → List UInt8)
    (keys : DeviceKeys) : SpaceIntent → DeviceKeys
  | .initializeSpace spaceId passphrase profile fresh faults =>
      (keys.initializeSpace crypto spaceId passphrase profile fresh faults).2
  | .unlock spaceId passphrase profile faults =>
      (keys.unlockSpace crypto spaceId passphrase profile faults).2
  | .lock => keys.lock
  | .tryResumeSession spaceId profile faults =>
      (keys.tryResumeSession crypto spaceId profile faults).2
  | .verifyKeychainAccess profile faults =>
      (keys.verifyKeychainAccess profile faults).2
  | .prepareJoinOffer spaceId passphrase profile fresh faults =>
      (keys.prepareJoinOffer crypto toVec spaceId passphrase profile fresh
        faults).2
  | .deriveMasterKeyForProof offer passphrase faults =>
      (deriveMasterKeyForProof crypto keys offer.keyslotBlob passphrase
        faults.toStorageFaults).2
  | .factoryReset profile faults => (keys.factoryReset profile faults).2

end OpenClipboard.Pairing
