import OpenClipboard.ConfigMigration.Staging

/-!
# Applying a staged import on boot

Secrets first, then the files, then the clean-up: the staging directory goes
before the marker.
-/

namespace OpenClipboard.ConfigMigration

open Interruptible

inductive PendingImportError where
  | readMarker
  | parseMarker
  | readSecrets
  | parseSecrets
  | copyMember
  | cleanup
  deriving DecidableEq, Repr

/-- What a boot finds around it: the keys its secure storage refuses to set,
and the order of directory listings. -/
structure Boot where
  refuses : String → Bool
  order : DirectoryOrder

def Boot.plain : Boot where
  refuses _ := false
  order := DirectoryOrder.asMade

/-- Set every secret, or stop at the first that does not decode or is
refused. -/
def writeSecrets (formats : Formats) (boot : Boot) :
    List (String × String) → Interruptible Disk PendingImportError Bool
  | [] => pure true
  | (key, b64) :: rest =>
      match decodeSecretValue formats b64 with
      | .error _ => pure false
      | .ok bytes =>
          if boot.refuses key then
            pure false
          else do
            atomic (Disk.putSecret key bytes)
            writeSecrets formats boot rest

def copyMember (member : String) (dest : LivePath) :
    Interruptible Disk PendingImportError Unit := do
  let disk ← look
  match disk.staging.find member with
  | none => fail .copyMember
  | some bytes => writing (Disk.putLive dest) bytes

def removeStaleDbSidecars : Interruptible Disk PendingImportError Unit := do
  atomic (Disk.removeLive .dbWal)
  atomic (Disk.removeLive .dbShm)

def copyMemberIfPresent (member : String) (dest : LivePath) :
    Interruptible Disk PendingImportError Unit := do
  let disk ← look
  if disk.stagedExists member then
    copyMember member dest
  else
    pure ()

/-- The files at the top level of a staged directory. -/
def dirMembers (order : DirectoryOrder) (directory : String) (disk : Disk) :
    List (String × FileName) :=
  (order.list disk.staging.keys).filterMap fun member =>
    (fileUnder directory member).map fun file => (member, file)

def copyDirMembers (order : DirectoryOrder) (directory : String)
    (dest : FileName → LivePath) :
    Interruptible Disk PendingImportError Unit := do
  let disk ← look
  forEach (fun entry => copyMember entry.1 (dest entry.2))
    (dirMembers order directory disk)

def copyMembers (order : DirectoryOrder) :
    Interruptible Disk PendingImportError Unit := do
  copyMember dbMember .db
  removeStaleDbSidecars
  copyMember keyslotMember .keyslot
  copyMember deviceIdMember .deviceId
  copyMember setupStatusMember .setupStatus
  copyDirMembers order irohIdentityPrefix .irohIdentity
  copyMemberIfPresent settingsMember .settings
  copyDirMembers order uiStatePrefix .uiState

/-- The staged secrets, where the marker asks for them. -/
def readSecrets (formats : Formats) (disk : Disk) :
    Except PendingImportError SecretsFile :=
  match disk.staging.find secretsMember with
  | none => .error .readSecrets
  | some bytes =>
      match formats.secrets.fromSlice bytes with
      | none => .error .parseSecrets
      | some secrets => .ok secrets

def applyPendingImport (formats : Formats) (boot : Boot) :
    Interruptible Disk PendingImportError Unit := do
  let disk ← look
  match disk.marker with
  | none => pure ()
  | some markerBytes =>
      match formats.marker.fromSlice markerBytes with
      | none => fail .parseMarker
      | some marker =>
          if marker.schemaVer ≠ pendingImportSchemaVer then
            pure ()
          else
            match readSecrets formats disk with
            | .error error => fail error
            | .ok secrets => do
                let landed ←
                  writeSecrets formats boot (inKeyOrder secrets.secrets)
                if landed then
                  copyMembers boot.order
                  removeStagingDir boot.order
                  atomic Disk.removeMarker
                else
                  pure ()

/-! ## What an import installs -/

def memberOf : LivePath → Option String
  | .db => some dbMember
  | .dbWal => none
  | .dbShm => none
  | .keyslot => some keyslotMember
  | .deviceId => some deviceIdMember
  | .setupStatus => some setupStatusMember
  | .settings => some settingsMember
  | .irohIdentity file => some (memberUnder irohIdentityPrefix file)
  | .uiState file => some (memberUnder uiStatePrefix file)
  | .dataRoot _ => none

def LivePath.isSidecar : LivePath → Bool
  | .dbWal => true
  | .dbShm => true
  | _ => false

def secretsFileOf (formats : Formats) (archive : BundleArchive) :
    Option SecretsFile :=
  (archive.find secretsMember).bind formats.secrets.fromSlice

/-- The value an archive's secrets hold for a key. -/
def secretOf (formats : Formats) (archive : BundleArchive) (key : String) :
    Option (List UInt8) :=
  (secretsFileOf formats archive).bind fun file =>
    (file.secrets.find key).bind formats.base64.decode

def Decodes (formats : Formats) (archive : BundleArchive) : Prop :=
  ∀ file key b64, secretsFileOf formats archive = some file →
    file.secrets.find key = some b64 →
      (formats.base64.decode b64).isSome = true

/-- The members of the archive over what was there, without the sidecars of a
replaced database. -/
def installed (formats : Formats) (archive : BundleArchive)
    (base : Contents) : Contents where
  file path :=
    if path.isSidecar then none
    else ((memberOf path).bind archive.find).or (base.file path)
  secret key := (secretOf formats archive key).or (base.secret key)

/-- The members without which the apply fails, besides the secrets. -/
def requiredMembers : List String :=
  [dbMember, keyslotMember, deviceIdMember, setupStatusMember]

/-- The secrets parse; where they all decode, the required members are there
and no directory stands in for the settings. -/
structure Applicable (formats : Formats) (archive : BundleArchive) : Prop where
  parses : ∃ file, secretsFileOf formats archive = some file
  required : Decodes formats archive →
    ∀ member ∈ requiredMembers, (archive.find member).isSome = true
  settings : Decodes formats archive →
    ∀ member ∈ archive.keys,
      ¬ (settingsMember ++ "/").toList <+: member.toList

end OpenClipboard.ConfigMigration
