import OpenClipboard.ConfigMigration.Bundle
import OpenClipboard.ConfigMigration.CrashSafety
import OpenClipboard.ConfigMigration.Tar

/-!
# Exporting and staging a bundle

The export collects the members of an installation, packs and seals them under
the KEK of the keychain.  Staging opens a bundle with the passphrase and leaves
the members for the next boot.
-/

namespace OpenClipboard.ConfigMigration

open Pairing

inductive ConfigMigrationError where
  | invalidPasswordOrCorrupt
  | incompatibleBundle (reason : String)
  | io (details : String)
  | internal (details : String)
  deriving DecidableEq, Repr

inductive ManifestSourceMode where
  | portable
  | installed
  deriving DecidableEq, Repr

def manifestSchemaVer : Nat := 1

structure BundleManifest where
  schemaVer : Nat
  appVersion : String
  sourceMode : ManifestSourceMode
  createdAtUnixMs : Int
  profileId : String
  deviceFingerprint : String
  included : List String
  deriving DecidableEq, Repr

structure Libraries where
  crypto : KeyCrypto
  tar : TarCrate
  formats : Formats
  manifest : SerdeJson BundleManifest
  keyslotFromSlice : List UInt8 → Option KeySlotFile

inductive DbSnapshotError where
  | connection
  | query
  | io
  deriving DecidableEq, Repr

/-- What an export finds besides the disk: its own build and profile, the
snapshot that the database writes, the fingerprint, the clock, a nonce where
the generator works, and which reads fail. -/
structure ExportEnv where
  appVersion : String
  sourceMode : ManifestSourceMode
  profileId : String
  snapshot : Except DbSnapshotError (List UInt8)
  fingerprint : Option (Option String)
  nowMs : Int
  nonce : Option Nonce
  storageFails : Bool
  unreadable : LivePath → Bool

def mapBundleErr : BundleError → ConfigMigrationError
  | .invalidOrCorrupt => .invalidPasswordOrCorrupt
  | .incompatible reason => .incompatibleBundle reason
  | .crypto => .internal "bundle cryptographic operation failed"

def mapArchiveErr : ArchiveError → ConfigMigrationError
  | .malformed => .incompatibleBundle "bundle archive is malformed"
  | .unsafePath => .incompatibleBundle "bundle archive is malformed"
  | .tooLarge =>
      .incompatibleBundle "bundle archive exceeds the supported size"

def mapDbSnapshotErr : DbSnapshotError → ConfigMigrationError
  | .connection => .internal "database snapshot failed"
  | .query => .internal "database snapshot failed"
  | .io => .io "database snapshot file io failed"

def mapStagingErr : StagingError → ConfigMigrationError
  | .io => .io "writing the staged import failed"
  | .serialize => .internal "encoding the staged import failed"

def uiStateFiles : List FileName := [
  ⟨"last_notified_update.json", by decide, by decide, by decide, by decide⟩,
  ⟨"skipped_version.json", by decide, by decide, by decide, by decide⟩]

def profileKekKey (profileId : String) : String :=
  "kek:v1:profile:" ++ profileId

/-! ## Export -/

section Export

variable (libraries : Libraries) (env : ExportEnv) (disk : Disk)

def readOptional (path : LivePath) :
    Except ConfigMigrationError (Option (List UInt8)) :=
  if env.unreadable path then
    .error (.io "failed reading a configuration file")
  else
    .ok (disk.live.find path)

def readRequired (path : LivePath) :
    Except ConfigMigrationError (List UInt8) :=
  match env.unreadable path, disk.live.find path with
  | false, some bytes => .ok bytes
  | _, _ => .error
      (.internal "a required configuration file was missing or unreadable")

/-- The current profile's KEK, where the secure storage has one. -/
def collectSecrets : Except ConfigMigrationError (Option (List UInt8)) :=
  if env.storageFails then
    .error (.internal "secure storage read failed while collecting secrets")
  else
    .ok (disk.secrets.find (profileKekKey env.profileId))

def requireKek : Option (List UInt8) →
    Except ConfigMigrationError (List UInt8 × MasterKey)
  | none => .error (.internal "key material unavailable for export")
  | some bytes =>
      match masterKeyFromBytes bytes with
      | none => .error (.internal "key material has unexpected length")
      | some key => .ok (bytes, key)

def irohIdentityFiles : List FileName :=
  disk.live.rows.filterMap fun
    | (.irohIdentity file, _) => some file
    | _ => none

def collectIrohIdentityFiles :
    Except ConfigMigrationError (List (String × List UInt8)) :=
  (irohIdentityFiles disk).mapM fun file =>
    (readRequired env disk (.irohIdentity file)).map fun bytes =>
      (memberUnder irohIdentityPrefix file, bytes)

def collectUiState :
    Except ConfigMigrationError (List (String × Option (List UInt8))) :=
  uiStateFiles.mapM fun file =>
    (readOptional env disk (.dataRoot file)).map fun bytes =>
      (memberUnder uiStatePrefix file, bytes)

def parseKeyslotKdf (keyslotBytes : List UInt8) :
    Except ConfigMigrationError (Salt × Argon2Params) :=
  match libraries.keyslotFromSlice keyslotBytes with
  | none => .error (.internal "keyslot could not be parsed for export")
  | some keyslot =>
      if keyslot.kdf.alg ≠ "Argon2id" then
        .error
          (.internal "unsupported key-derivation algorithm in keyslot")
      else
        match Salt.ofBytes keyslot.salt with
        | none => .error (.internal "keyslot salt has unexpected length")
        | some salt => .ok (salt, keyslot.kdf.params)

structure Collected where
  db : List UInt8
  kek : List UInt8
  irohIdentity : List (String × List UInt8)
  keyslot : List UInt8
  deviceId : List UInt8
  setupStatus : Option (List UInt8)
  settings : Option (List UInt8)
  uiState : List (String × Option (List UInt8))

def insertOptional (archive : BundleArchive)
    (member : String × Option (List UInt8)) : BundleArchive :=
  match member.2 with
  | none => archive
  | some bytes => archive.put member.1 bytes

def Collected.members (collected : Collected) : BundleArchive :=
  let required : BundleArchive := Table.put (Table.put (Table.put ∅
    dbMember collected.db) keyslotMember collected.keyslot)
    deviceIdMember collected.deviceId
  let vault := insertOptional (insertOptional required
    (setupStatusMember, collected.setupStatus))
    (settingsMember, collected.settings)
  let secrets := SecretsFile.fromRaw libraries.formats.base64
    [(profileKekKey env.profileId, collected.kek)]
  let withSecrets := vault.put secretsMember
    (libraries.formats.secrets.toVec secrets)
  let withIdentity :=
    withSecrets.putEach Prod.fst Prod.snd collected.irohIdentity
  collected.uiState.foldl insertOptional withIdentity

def makeManifest (fingerprint : String) (included : List String) :
    BundleManifest where
  schemaVer := manifestSchemaVer
  appVersion := env.appVersion
  sourceMode := env.sourceMode
  createdAtUnixMs := env.nowMs
  profileId := env.profileId
  deviceFingerprint := fingerprint
  included := included

/-- The manifest goes in twice: the second one lists itself. -/
def addManifest (fingerprint : String) (archive : BundleArchive) :
    BundleArchive :=
  let listed : BundleArchive :=
    archive.put manifestMember (libraries.manifest.toVec
      (makeManifest env fingerprint archive.memberPaths))
  listed.put manifestMember (libraries.manifest.toVec
    (makeManifest env fingerprint listed.memberPaths))

def readFingerprint : Except ConfigMigrationError String :=
  match env.fingerprint with
  | none => .error (.internal "reading device fingerprint failed")
  | some fingerprint => .ok (fingerprint.getD "")

def sealArchive (key : MasterKey) (salt : Salt) (kdf : Argon2Params)
    (archive : BundleArchive) : Except ConfigMigrationError (List UInt8) :=
  match toTarBytes libraries.tar archive, env.nonce with
  | .error error, _ => .error (mapArchiveErr error)
  | .ok _, none => .error (mapBundleErr .crypto)
  | .ok tarBytes, some nonce =>
      .ok (sealWithKey libraries.crypto key salt kdf nonce tarBytes)

/-- `export_bundle` up to the write of the bundle file. -/
def exportBundle : Except ConfigMigrationError (List UInt8) := do
  let db ← env.snapshot.mapError mapDbSnapshotErr
  let kek ← collectSecrets env disk
  let (kekBytes, key) ← requireKek kek
  let irohIdentity ← collectIrohIdentityFiles env disk
  let keyslot ← readRequired env disk .keyslot
  let (salt, kdf) ← parseKeyslotKdf libraries keyslot
  let deviceId ← readRequired env disk .deviceId
  let setupStatus ← readOptional env disk .setupStatus
  let settings ← readOptional env disk .settings
  let fingerprint ← readFingerprint env
  let uiState ← collectUiState env disk
  let collected : Collected := ⟨db, kekBytes, irohIdentity, keyslot, deviceId,
    setupStatus, settings, uiState⟩
  sealArchive libraries env key salt kdf
    (addManifest libraries env fingerprint (collected.members libraries env))

end Export

/-! ## Stage -/

section Stage

variable (libraries : Libraries)

def newerSchema (schemaVer : Nat) : ConfigMigrationError :=
  .incompatibleBundle ("bundle archive schema " ++ toString schemaVer ++
    " is newer than supported " ++ toString manifestSchemaVer)

def openArchive (passphrase bundle : List UInt8) :
    Except ConfigMigrationError BundleArchive := do
  let tarBytes ←
    (openBundle libraries.crypto passphrase bundle).mapError mapBundleErr
  let archive ← (fromTarBytes libraries.tar tarBytes).mapError mapArchiveErr
  match archive.find manifestMember with
  | none =>
      .error (.incompatibleBundle "bundle is missing its manifest")
  | some manifestBytes =>
      match libraries.manifest.fromSlice manifestBytes with
      | none =>
          .error (.incompatibleBundle "bundle manifest could not be parsed")
      | some manifest =>
          if manifestSchemaVer < manifest.schemaVer then
            .error (newerSchema manifest.schemaVer)
          else
            .ok archive

/-- `stage_import`: the disk it leaves. -/
def stageImport (passphrase bundle : List UInt8) (order : DirectoryOrder)
    (nowMs : Int) (target : Disk) : Except ConfigMigrationError Disk := do
  let archive ← openArchive libraries passphrase bundle
  let written := writeStaging libraries.formats order archive
    (importMarker libraries.formats archive nowMs) target
  match written.result with
  | .error error => .error (mapStagingErr error)
  | .ok () => .ok written.final

end Stage

end OpenClipboard.ConfigMigration
