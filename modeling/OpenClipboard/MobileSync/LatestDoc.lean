import OpenClipboard.MobileSync.Upload
import OpenClipboard.Outbound.SnapshotFromEntry

/-!
# The latest clip as a phone reads it

`GET /SyncClipboard.json` describes the preview representation of the latest
clip that a phone can consume, and `GET /file/{dataName}` serves its bytes.
Both go through one mapping.
-/

namespace OpenClipboard.MobileSync

open Text

/-! ## The latest representation -/

structure LatestPasteRepresentation where
  entryId : EntryId
  snapshotHash : String
  formatId : FormatId
  mime : Option MimeType
  bytes : List UInt8
  deriving DecidableEq, Repr

/-- The ports behind the latest clip: the reference, which is `none` while the
space is locked, and the stores it leads to. -/
structure MobileSyncSnapshotPorts where
  consumable : Except ActiveClipboardRegisterError (Option MobileConsumableRef)
  sources : SnapshotSources
  describe : PayloadResolveError → String

section Latest

variable (ports : MobileSyncSnapshotPorts)

def loadMobileConsumableRef : Except String (Option MobileConsumableRef) :=
  match ports.consumable with
  | .ok reference => .ok reference
  | .error .notUnlocked => .ok none
  | .error (.storage message) => .error message

/-- `materialize`: the bytes of a representation, inline or from its blob. -/
def materialize (entryId snapshotHash : String)
    (rep : PersistedClipboardRepresentation) :
    Except String LatestPasteRepresentation :=
  let served (bytes : List UInt8) : LatestPasteRepresentation := {
    entryId := ⟨entryId⟩
    snapshotHash := snapshotHash
    formatId := rep.formatId
    mime := rep.mimeType.filter fun mime => mime.asStr ≠ ""
    bytes := bytes }
  match ports.sources.resolve rep with
  | .error error => .error (ports.describe error)
  | .ok (.inline bytes) => .ok (served bytes)
  | .ok (.blobRef blobId) => (ports.sources.getBlob blobId).map served

/-- `latest_preview_representation`; each step may find nothing. -/
def latestPreviewRepresentation :
    Except String (Option LatestPasteRepresentation) := do
  match ← loadMobileConsumableRef ports with
  | none => return none
  | some reference =>
      match ← ports.sources.getEntry reference.entryId.asStr with
      | none => return none
      | some entry =>
          match ← ports.sources.getSelection entry.entryId with
          | none => return none
          | some selection =>
              match ← ports.sources.getRepresentation
                  ⟨entry.eventId, selection.previewRepId⟩ with
              | none => return none
              | some rep =>
                  return some (← materialize ports entry.entryId
                    reference.snapshotHash rep)

end Latest

/-! ## The mapping -/

def canonicalImageMime (mime : String) : String :=
  let lower := toAsciiLowercase mime
  if lower = "image/jpeg" ∨ lower = "image/jpg" then "image/jpeg"
  else if lower = "image/png" then "image/png"
  else if lower = "image/gif" then "image/gif"
  else if lower = "image/webp" then "image/webp"
  else if lower = "image/bmp" then "image/bmp"
  else if lower = "image/tiff" ∨ lower = "image/tif" then "image/tiff"
  else if lower = "image/heic" then "image/heic"
  else "image/unknown"

def imageMimeFromFormatId (formatId : FormatId) : Option String :=
  let lower := toAsciiLowercase formatId.asStr
  if lower = "image" ∨ lower = "public.png" then some "image/png"
  else if lower = "public.jpeg" ∨ lower = "public.jpg" then some "image/jpeg"
  else if lower = "public.gif" then some "image/gif"
  else if lower = "public.tiff" ∨ lower = "public.tif" then some "image/tiff"
  else none

def sniffImageMagic (body : List UInt8) : Option String :=
  if [0xFF, 0xD8, 0xFF].isPrefixOf body then some "image/jpeg"
  else if [0x89, 0x50, 0x4E, 0x47, 0x0D, 0x0A, 0x1A, 0x0A].isPrefixOf body then
    some "image/png"
  else if (asBytes "GIF87a").isPrefixOf body ∨
      (asBytes "GIF89a").isPrefixOf body then
    some "image/gif"
  else if 12 ≤ body.length ∧ (asBytes "RIFF").isPrefixOf body ∧
      (body.drop 8).take 4 = asBytes "WEBP" then
    some "image/webp"
  else if [0x42, 0x4D].isPrefixOf body then some "image/bmp"
  else if [0x49, 0x49, 0x2A, 0x00].isPrefixOf body ∨
      [0x4D, 0x4D, 0x00, 0x2A].isPrefixOf body then
    some "image/tiff"
  else none

def imageMimeStrToExt (mime : String) : Option String :=
  let lower := toAsciiLowercase mime
  if lower = "image/png" then some "png"
  else if lower = "image/jpeg" ∨ lower = "image/jpg" then some "jpg"
  else if lower = "image/gif" then some "gif"
  else if lower = "image/webp" then some "webp"
  else if lower = "image/bmp" then some "bmp"
  else if lower = "image/tiff" ∨ lower = "image/tif" then some "tiff"
  else if lower = "image/heic" then some "heic"
  else none

/-- Bytes under `%HH` are decoded; anything else is kept. -/
def percentDecode : List UInt8 → List UInt8
  | [] => []
  | byte :: rest =>
      if byte = 0x25 then
        match rest with
        | high :: low :: later =>
            match ContentHash.hexValue (Char.ofNat high.toNat),
                ContentHash.hexValue (Char.ofNat low.toNat) with
            | some highValue, some lowValue =>
                UInt8.ofNat (16 * highValue + lowValue) :: percentDecode later
            | _, _ => byte :: percentDecode (high :: low :: later)
        | [low] => byte :: percentDecode [low]
        | [] => [byte]
      else
        byte :: percentDecode rest

/-- The first line that is neither blank nor a comment. -/
def parseFirstUriFromUriList (bytes : List UInt8) : Option String :=
  (fromUtf8 bytes).bind fun text => (parseUriList text).head?

namespace LatestPasteRepresentation

variable (rep : LatestPasteRepresentation)

def effectiveImageMimeForSync : Option String :=
  let byFormat := (imageMimeFromFormatId rep.formatId).map fun default =>
    (sniffImageMagic rep.bytes).getD default
  match rep.mime with
  | some mime =>
      if startsWith mime.asStr "image/" then
        some (canonicalImageMime mime.asStr)
      else
        byFormat
  | none => byFormat

def classifyForSync : SyncClipboardItemType :=
  if isFileMimeOrFormat rep.mime rep.formatId then .file
  else if rep.effectiveImageMimeForSync.isSome then .image
  else .text

/-- At most eight characters, and no more than there are bytes. -/
def entryIdShort : String :=
  String.ofList (rep.entryId.asStr.toList.take
    (min rep.entryId.asStr.utf8ByteSize 8))

def deriveImageFilename : String :=
  "clipboard_" ++ rep.entryIdShort ++ "." ++
    (rep.effectiveImageMimeForSync.bind imageMimeStrToExt).getD "bin"

def deriveFallbackFilename : String :=
  "clipboard_" ++ rep.entryIdShort ++ ".bin"

/-- The last path segment of the first URL; `pathSegments` is
`Url::path_segments` of a text that parses. -/
def parseFirstUriFilename (pathSegments : String → Option (List String)) :
    Option String := do
  let first ← parseFirstUriFromUriList rep.bytes
  let segments ← pathSegments first
  let last ← (segments.filter fun segment => segment ≠ "").getLast?
  let decoded := toStringLossy (percentDecode (asBytes last))
  if decoded = "" then none else some decoded

def deriveDataName (pathSegments : String → Option (List String))
    (itemType : SyncClipboardItemType) : Option String :=
  match itemType with
  | .text => none
  | .group => none
  | .image => some rep.deriveImageFilename
  | .file => some ((rep.parseFirstUriFilename pathSegments).getD
      rep.deriveFallbackFilename)

end LatestPasteRepresentation

/-! ## The two requests -/

structure SyncClipboardMeta where
  itemType : SyncClipboardItemType
  text : String
  dataName : Option String
  hasData : Bool
  size : Nat
  hash : Option String
  contentId : Option String
  deriving DecidableEq, Repr

structure MobileSyncLibraries where
  sha256 : List UInt8 → List UInt8
  pathSegments : String → Option (List String)

/-- Upper-case hexadecimal digits of the SHA-256 of the bytes. -/
def profileHashForSync (libraries : MobileSyncLibraries)
    (bytes : List UInt8) : String :=
  String.ofList
    ((ContentHash.hexEncode (libraries.sha256 bytes)).toList.map Char.toUpper)

inductive GetLatestMobileSyncDocError where
  | notFound
  | port (message : String)
  deriving DecidableEq, Repr

section Requests

variable (libraries : MobileSyncLibraries) (ports : MobileSyncSnapshotPorts)

/-- The document on a representation. -/
def metaOf (rep : LatestPasteRepresentation) : SyncClipboardMeta :=
  let itemType := rep.classifyForSync
  let dataName := rep.deriveDataName libraries.pathSegments itemType
  let asText : String × Bool := (toStringLossy rep.bytes, false)
  let described := match itemType, dataName with
    | .image, some name => (name, true)
    | .file, some name => (name, true)
    | _, _ => asText
  { itemType := itemType
    text := described.1
    dataName := dataName
    hasData := described.2
    size := rep.bytes.length
    hash := some (profileHashForSync libraries rep.bytes)
    contentId := some rep.snapshotHash }

/-- `GetLatestMobileSyncDocUseCase::execute`. -/
def getLatestDoc : Except GetLatestMobileSyncDocError SyncClipboardMeta :=
  match latestPreviewRepresentation ports with
  | .error message => .error (.port message)
  | .ok none => .error .notFound
  | .ok (some rep) => .ok (metaOf libraries rep)

inductive GetMobileSyncFileError where
  | notFound
  | port (message : String)
  | staging (message : String)
  deriving DecidableEq, Repr

structure GetMobileSyncFileOutput where
  mime : String
  bytes : List UInt8
  deriving DecidableEq, Repr

def fileOutboundMimeFallback : String := "application/octet-stream"

def serveFile
    (readByUri : String → Except MobileFileStagingError (List UInt8))
    (rep : LatestPasteRepresentation) :
    Except GetMobileSyncFileError GetMobileSyncFileOutput :=
  match parseFirstUriFromUriList rep.bytes with
  | none => .error .notFound
  | some uri =>
      match readByUri uri with
      | .ok bytes => .ok ⟨fileOutboundMimeFallback, bytes⟩
      | .error .notFound => .error .notFound
      | .error (.io message) => .error (.staging message)
      | .error (.invalidDataName message) =>
          .error (.staging ("unexpected InvalidDataName: " ++ message))

def serveImage (rep : LatestPasteRepresentation) : GetMobileSyncFileOutput where
  mime := (rep.effectiveImageMimeForSync <|>
    rep.mime.map MimeType.asStr).getD fileOutboundMimeFallback
  bytes := rep.bytes

/-- `GetMobileSyncFileUseCase::execute`. -/
def getFile
    (readByUri : String → Except MobileFileStagingError (List UInt8))
    (requested : String) :
    Except GetMobileSyncFileError GetMobileSyncFileOutput :=
  match latestPreviewRepresentation ports with
  | .error message => .error (.port message)
  | .ok none => .error .notFound
  | .ok (some rep) =>
      match rep.deriveDataName libraries.pathSegments rep.classifyForSync with
      | none => .error .notFound
      | some name =>
          if name ≠ requested then
            .error .notFound
          else
            match rep.classifyForSync with
            | .group => .error .notFound
            | .file => serveFile readByUri rep
            | _ => .ok (serveImage rep)

end Requests

end OpenClipboard.MobileSync
