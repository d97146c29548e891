import Mathlib.Tactic.DeriveEncodable
import OpenClipboard.ConfigMigration.Disk
import OpenClipboard.Library.TextCode

/-!
# Staging an import

An unpacked archive is written into a fresh staging directory, and the marker
beside it last.
-/

namespace OpenClipboard.ConfigMigration

open Interruptible

/-- `serde_json` on a type. -/
structure SerdeJson (α : Type) where
  toVec : α → List UInt8
  fromSlice : List UInt8 → Option α
  fromSlice_toVec : ∀ value, fromSlice (toVec value) = some value

/-- The standard base64 engine. -/
structure Base64 where
  encode : List UInt8 → String
  decode : String → Option (List UInt8)
  decode_encode : ∀ bytes, decode (encode bytes) = some bytes

def pendingImportSchemaVer : Nat := 1

def stagingDirName : String := "import-staging"

structure PendingImportMarker where
  schemaVer : Nat
  stagingDir : String
  hasKek : Bool
  stagedAtUnixMs : Int
  deriving DecidableEq, Repr

/-- Secure-storage key to base64 of the value. -/
structure SecretsFile where
  secrets : Table String String
  deriving DecidableEq

def SecretsFile.fromRaw (base64 : Base64)
    (entries : List (String × List UInt8)) : SecretsFile where
  secrets := Table.putEach Prod.fst (fun entry => base64.encode entry.2) ∅
    entries

inductive StagingError where
  | io
  | serialize
  deriving DecidableEq, Repr

/-- What stage and apply serialise. -/
structure Formats where
  marker : SerdeJson PendingImportMarker
  secrets : SerdeJson SecretsFile
  base64 : Base64

def decodeSecretValue (formats : Formats) (b64 : String) :
    Except StagingError (List UInt8) :=
  match formats.base64.decode b64 with
  | some bytes => .ok bytes
  | none => .error .serialize

/-- One member of the archive, its parent directories made first. -/
def writeMember (entry : String × List UInt8) :
    Interruptible Disk StagingError Unit := do
  let disk ← look
  if disk.blocksMember entry.1 then
    fail .io
  else
    writing (Disk.putStaging entry.1) entry.2

def writeStaging (formats : Formats) (order : DirectoryOrder)
    (archive : BundleArchive) (marker : PendingImportMarker) :
    Interruptible Disk StagingError Unit := do
  let disk ← look
  if disk.marker.isSome then
    atomic Disk.removeMarker
  removeStagingDir order
  forEach writeMember (inKeyOrder archive)
  writing Disk.putMarkerTmp (formats.marker.toVec marker)
  atomic Disk.renameMarkerTmp

/-! ## Formats that are given by the text of one value -/

deriving instance Encodable for PendingImportMarker

instance decidableNodupKeys (rows : List (Σ _ : String, String)) :
    Decidable rows.NodupKeys :=
  inferInstanceAs (Decidable rows.keys.Nodup)

instance encodableSecretsFile : Encodable SecretsFile :=
  Encodable.ofEquiv {rows : List (Σ _ : String, String) // rows.NodupKeys} {
    toFun := fun file => ⟨file.secrets.entries, file.secrets.nodupKeys⟩
    invFun := fun rows => ⟨⟨rows.1, rows.2⟩⟩
    left_inv := fun _ => rfl
    right_inv := fun _ => rfl }

/-- The format that writes `text` for `sample`, and zeros for every other
value. -/
def SerdeJson.ofText {α : Type} [DecidableEq α] [Encodable α] (sample : α)
    (text : List UInt8) (isText : text.all (· = 0) = false) : SerdeJson α where
  toVec value :=
    if value = sample then text
    else List.replicate (Encodable.encode value) 0
  fromSlice bytes :=
    if bytes = text then some sample
    else if bytes.all (· = 0) then Encodable.decode bytes.length
    else none
  fromSlice_toVec value := by
    by_cases same : value = sample
    · simp [same]
    · have different :
          List.replicate (Encodable.encode value) 0 ≠ text := by
        intro isReplicate
        rw [← isReplicate] at isText
        simp at isText
      simp [same, different]

/-- The format that writes `text` for `sample`, and padding for every other
value. -/
def Base64.ofText (sample : List UInt8) (text : String)
    (isText : text.toList.all (· = '=') = false) : Base64 where
  encode bytes :=
    if bytes = sample then text
    else String.ofList (List.replicate (Encodable.encode bytes) '=')
  decode b64 :=
    if b64 = text then some sample
    else if b64.toList.all (· = '=') then Encodable.decode b64.toList.length
    else none
  decode_encode bytes := by
    by_cases same : bytes = sample
    · simp [same]
    · have different : String.ofList
          (List.replicate (Encodable.encode bytes) '=') ≠ text := by
        intro isReplicate
        rw [← isReplicate, String.toList_ofList] at isText
        simp at isText
      rw [if_neg same, if_neg different, String.toList_ofList]
      simp

end OpenClipboard.ConfigMigration
