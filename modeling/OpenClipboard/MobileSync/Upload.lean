import OpenClipboard.Inbound.ApplyInbound
import OpenClipboard.MobileSync.Staging

/-!
# Two-step uploads

A phone first puts the body of an image or a file, and then the document that
names it.  The document becomes a snapshot, which goes through the inbound
pipeline as if a peer had sent it.
-/

namespace OpenClipboard.MobileSync

open Text

inductive SyncClipboardItemType where
  | text
  | image
  | file
  | group
  deriving DecidableEq, Repr

/-- `PUT /SyncClipboard.json`. -/
structure SyncDoc where
  itemType : SyncClipboardItemType
  text : String
  dataName : Option String
  deriving DecidableEq, Repr

/-- The files and the buffer of a device. -/
structure Uploads where
  files : Table PathBuf (List UInt8)
  buffer : IncomingMobileBuffer

inductive BuildSnapshotFailure where
  | decode (reason : String)
  | internal (message : String)
  deriving DecidableEq, Repr

structure BuiltSnapshot where
  snapshot : SystemClipboardSnapshot
  transferId : Option String
  deriving DecidableEq, Repr

def MobileFileStagingError.display : MobileFileStagingError → String
  | .io message => "mobile file staging IO failure: " ++ message
  | .invalidDataName message =>
      "staged data_name unusable after sanitize: " ++ message
  | .notFound => "staged URI not found"

/-! ## From the document to a snapshot -/

section Build

variable (env : StagingEnv) (nowMs : Int) (repId : String)

def oneRepresentation (formatId mime : String) (bytes : List UInt8)
    (transferId : Option String) : BuiltSnapshot where
  snapshot := {
    tsMs := nowMs
    representations := [.new repId formatId (some mime) bytes] }
  transferId := transferId

def buildTextSnapshot (text : String) :
    Except BuildSnapshotFailure BuiltSnapshot :=
  if text.isEmpty then
    .error (.decode "Text item with empty body")
  else
    .ok (oneRepresentation nowMs repId "text" "text/plain" (asBytes text) none)

/-- `buffer.take` under the data name of an image or a file. -/
def takeBuffered (kind : String) (dataName : Option String)
    (uploads : Uploads) :
    Except BuildSnapshotFailure (String × BufferedFile) × Uploads :=
  match dataName with
  | none => (.error (.decode (kind ++ " item without dataName")), uploads)
  | some name =>
      match Table.find uploads.buffer name with
      | none =>
          (.error (.decode ("file buffer miss for `" ++ name ++
            "` (PUT /file may have arrived late or never)")), uploads)
      | some buffered =>
          (.ok (name, buffered),
            { uploads with buffer := Table.remove uploads.buffer name })

def readFailure (name : String) :
    MobileFileStagingError → BuildSnapshotFailure
  | .notFound => .internal ("staged image file missing for `" ++ name ++
      "`: " ++ MobileFileStagingError.display .notFound)
  | error => .internal ("read staged image bytes for `" ++ name ++
      "` failed: " ++ error.display)

/-- An image representation holds the bytes of the staged file. -/
def buildImageSnapshot (dataName : Option String) (uploads : Uploads) :
    Except BuildSnapshotFailure BuiltSnapshot × Uploads :=
  match takeBuffered "Image" dataName uploads with
  | (.error failure, after) => (.error failure, after)
  | (.ok (name, buffered), after) =>
      match readByUri env buffered.staged.uri after.files with
      | .error error => (.error (readFailure name error), after)
      | .ok bytes => (.ok (oneRepresentation nowMs repId "image" buffered.mime
          bytes (some buffered.transferId)), after)

def buildFileSnapshot (dataName : Option String) (uploads : Uploads) :
    Except BuildSnapshotFailure BuiltSnapshot × Uploads :=
  match takeBuffered "File" dataName uploads with
  | (.error failure, after) => (.error failure, after)
  | (.ok (_, buffered), after) =>
      (.ok (oneRepresentation nowMs repId "files" "text/uri-list"
        (asBytes (buffered.staged.uri ++ "\n")) (some buffered.transferId)),
        after)

def buildSnapshot (doc : SyncDoc) (uploads : Uploads) :
    Except BuildSnapshotFailure BuiltSnapshot × Uploads :=
  match doc.itemType with
  | .text => (buildTextSnapshot nowMs repId doc.text, uploads)
  | .image => buildImageSnapshot env nowMs repId doc.dataName uploads
  | .file => buildFileSnapshot nowMs repId doc.dataName uploads
  | .group => (.error (.decode
      "Group 类型不在 v1 范围内 (SyncClipboard 协议保留)"), uploads)

end Build

/-! ## Through the inbound pipeline -/

inductive ApplyIncomingMobileClipOutcome where
  | applied (entryId : EntryId) (contentId : String)
  | resurfaced (snapshotHash : String) (existingEntryId : EntryId)
      (osWriteSucceeded : Bool)
  | duplicateSkipped (snapshotHash : String) (existingEntryId : EntryId)
  | decodeFailed (reason : String)
  | buffered
  deriving DecidableEq, Repr

inductive ApplyIncomingMobileClipError where
  | inbound (error : ApplyInbound.ApplyInboundError)
  | encodeFailed (message : String)
  | internal (message : String)
  deriving DecidableEq, Repr

/-- What announces an activation: this device, its clock, the register and
which entries a phone can consume. -/
structure AnnounceEnv where
  self : DeviceId
  nowMs : Int
  advance : AdvanceEnv
  isMobileConsumable : EntryId → Bool

structure MobilePorts where
  inbound : ApplyInbound.InboundPorts
  encode : SystemClipboardSnapshot → Except String (List UInt8)
  announce : Option AnnounceEnv

inductive LifecycleCall where
  | link (transferId : String) (entryId : EntryId)
  | complete (transferId peerId : String)
  | fail (transferId peerId detail : String)
  deriving DecidableEq, Repr

def peerOf (source : String) : String := "mobile:" ++ source

section Dispatch

variable (ports : MobilePorts)

/-- The device that an upload is recorded under; `none` is the panic of
`DeviceId::new` on a long id. -/
def pseudoFrom (source : String) : Option DeviceId :=
  if bounded : ("mobile_sync:" ++ source).utf8ByteSize ≤ deviceIdMaxBytes then
    some ⟨"mobile_sync:" ++ source, bounded⟩
  else
    none

def mapOutcome (snapshotHash : String) :
    ApplyInbound.ApplyOutcome → ApplyIncomingMobileClipOutcome
  | .applied entryId => .applied entryId snapshotHash
  | .resurfaced hash existing osWriteSucceeded =>
      .resurfaced hash existing osWriteSucceeded
  | .duplicateSkipped hash existing => .duplicateSkipped hash existing
  | .decodeFailed reason => .decodeFailed reason

/-- `encode_snapshot_to_v3_bytes` and the inbound pipeline; `none` is a
panic. -/
def dispatchInbound (source : String) (snapshot : SystemClipboardSnapshot)
    (device : ApplyInbound.InboundDevice) :
    Option (Except ApplyIncomingMobileClipError
      ApplyIncomingMobileClipOutcome × ApplyInbound.InboundDevice) :=
  match ports.encode snapshot,
      snapshot.snapshotHash ports.inbound.blake3 ports.inbound.readFile,
      pseudoFrom source with
  | .error message, _, _ => some (.error (.encodeFailed message), device)
  | .ok _, none, _ => none
  | .ok _, some _, none => none
  | .ok plaintext, some digest, some fromDevice =>
      match ApplyInbound.execute ports.inbound {
          fromDevice := fromDevice
          snapshotHash := ContentHash.formatBlake3v1 digest
          plaintext := plaintext
          resurfaceIntent := .localRestore } device with
      | none => none
      | some (.error error, after) => some (.error (.inbound error), after)
      | some (.ok outcome, after) =>
          some (.ok (mapOutcome (ContentHash.formatBlake3v1 digest) outcome),
            after)

def activatedEntry : ApplyIncomingMobileClipOutcome → Option EntryId
  | .applied entryId _ => some entryId
  | .resurfaced _ existing true => some existing
  | _ => none

/-- `maybe_announce_activation`: stamp the activation as a local one. -/
def announceActivation (digest : Option Digest)
    (outcome : Except ApplyIncomingMobileClipError
      ApplyIncomingMobileClipOutcome)
    (device : ApplyInbound.InboundDevice) : ApplyInbound.InboundDevice :=
  match ports.announce, outcome with
  | some announce, .ok outcome =>
      match activatedEntry outcome, digest with
      | some entryId, some digest =>
          { device with
            register := (advanceLocal announce.advance
              (announce.isMobileConsumable entryId) announce.nowMs
              announce.self device.register (ContentHash.formatBlake3v1 digest)
              entryId).2 }
      | _, _ => device
  | _, _ => device

/-- `finalize_transfer_lifecycle`. -/
def finalizeTransfer (source : String) (transferId : Option String)
    (describe : ApplyIncomingMobileClipError → String)
    (outcome : Except ApplyIncomingMobileClipError
      ApplyIncomingMobileClipOutcome) : List LifecycleCall :=
  match transferId with
  | none => []
  | some transferId =>
      let closing (entryId : EntryId) : List LifecycleCall :=
        [.link transferId entryId, .complete transferId (peerOf source)]
      match outcome with
      | .ok (.applied entryId _) => closing entryId
      | .ok (.resurfaced _ existing _) => closing existing
      | .ok (.duplicateSkipped _ existing) => closing existing
      | .ok (.decodeFailed reason) =>
          [.fail transferId (peerOf source) reason]
      | .ok .buffered => []
      | .error error => [.fail transferId (peerOf source) (describe error)]

end Dispatch

/-! ## The two requests -/

/-- What a request answers, and what it leaves behind. -/
structure MobileStep where
  result : Except ApplyIncomingMobileClipError ApplyIncomingMobileClipOutcome
  uploads : Uploads
  device : ApplyInbound.InboundDevice
  lifecycle : List LifecycleCall

/-- `BufferFile`: the staged file waits for its document. -/
def bufferFile (firstKey : IncomingMobileBuffer → Option String)
    (dataName : String) (file : BufferedFile) (uploads : Uploads) : Uploads :=
  { uploads with buffer := uploads.buffer.store firstKey dataName file }

/-- `SyncDoc`; `none` is a panic. -/
def syncDoc (env : StagingEnv) (ports : MobilePorts) (nowMs : Int)
    (repId source : String) (describe : ApplyIncomingMobileClipError → String)
    (doc : SyncDoc) (uploads : Uploads)
    (device : ApplyInbound.InboundDevice) : Option MobileStep :=
  match buildSnapshot env nowMs repId doc uploads with
  | (.error (.decode reason), after) =>
      some ⟨.ok (.decodeFailed reason), after, device, []⟩
  | (.error (.internal message), after) =>
      some ⟨.error (.internal message), after, device, []⟩
  | (.ok built, after) =>
      (dispatchInbound ports source built.snapshot device).map
        fun dispatched => {
          result := dispatched.1
          uploads := after
          device := announceActivation ports
            (built.snapshot.snapshotHash ports.inbound.blake3
              ports.inbound.readFile) dispatched.1 dispatched.2
          lifecycle := finalizeTransfer source built.transferId describe
            dispatched.1 }

end OpenClipboard.MobileSync
