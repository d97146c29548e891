import OpenClipboard.Outbound.Publish
import OpenClipboard.Wire.ClipboardPayloadV3

/-!
# The V3 envelope

A snapshot travels as a binary payload and up to two trailers, each behind a
magic of its own: the blob references, and behind them the manifest of a
directory set.  One parser reads what the three encoders write.
-/

namespace OpenClipboard.PayloadCodec

open ByteReader ClipboardBinaryPayload Text

def blobRefsMagic : List UInt8 := asBytes "UCBS"
def fileSetMagic : List UInt8 := asBytes "UCDS"
def noneStringLen : Nat := 65535
def noneU32Marker : Nat := 0
def someU32Marker : Nat := 1
def maxBlobRefs : Nat := 1024
def maxTicketLen : Nat := 65536
def maxBlobRefStringLen : Nat := 8192

/-! ## Writing -/

def writeBytesU32 (value : List UInt8) (label : String) :
    Except String (List UInt8) :=
  writeBounded 4 maxTicketLen label value

/-- The length of an absent string is not the length of one. -/
def writeStringU16 (value : String) (label : String) :
    Except String (List UInt8) :=
  let bytes := asBytes value
  if noneStringLen ≤ bytes.length ∨ maxBlobRefStringLen < bytes.length then
    .error (s!"{label} length {bytes.length}" ++
      s!" exceeds maximum {maxBlobRefStringLen}")
  else
    .ok (LittleEndian.encode 2 bytes.length ++ bytes)

def writeOptionalStringU16 (value : Option String) (label : String) :
    Except String (List UInt8) :=
  match value with
  | some value => writeStringU16 value label
  | none => .ok (LittleEndian.encode 2 noneStringLen)

def writeOptionalU32 : Option Nat → List UInt8
  | some value => UInt8.ofNat someU32Marker :: LittleEndian.encode 4 value
  | none => [UInt8.ofNat noneU32Marker]

def writeBlobRef (blobRef : V3BlobRef) : Except String (List UInt8) := do
  let ticket ← writeBytesU32 blobRef.ticket "ticket"
  let entryId ← writeStringU16 blobRef.entryId "entry_id"
  let filename ← writeOptionalStringU16 blobRef.filename "filename"
  let mime ← writeOptionalStringU16 blobRef.mime "mime"
  .ok (ticket ++ (entryId ++ (filename ++ (mime ++
    (LittleEndian.encode 8 blobRef.sizeBytes ++
      writeOptionalU32 blobRef.representationIndex)))))

def writeBlobRefsExtension (blobRefs : List V3BlobRef) :
    Except String (List UInt8) :=
  if maxBlobRefs < blobRefs.length then
    .error s!"blob ref count {blobRefs.length} exceeds maximum {maxBlobRefs}"
  else do
    let refs ← writeAll writeBlobRef blobRefs
    .ok (blobRefsMagic ++ (LittleEndian.encode 2 blobRefs.length ++ refs))

def kindByte : FileSetMemberKind → Nat
  | .file => 102
  | .executable => 120
  | .emptyDirectory => 100

def writeMember (member : InboundFileSetMember) :
    Except String (List UInt8) := do
  let rootName ← writeStringU16 member.rootName "root_name"
  let relativePath ← writeStringU16 member.relativePath "relative_path"
  .ok (UInt8.ofNat (kindByte member.kind) ::
    UInt8.ofNat member.rootIsFile.toNat ::
      (LittleEndian.encode 4 member.rootIndex ++ (rootName ++ (relativePath ++
        writeOptionalU32 member.blobRefIndex))))

def writeFileSetExtension (manifest : InboundFileSetManifest) :
    Except String (List UInt8) :=
  if manifest.members = [] ∨ maxBlobRefs < manifest.members.length then
    .error (s!"directory member count {manifest.members.length}" ++
      s!" is outside 1..={maxBlobRefs}")
  else do
    let members ← writeAll writeMember manifest.members
    .ok (fileSetMagic ++
      (LittleEndian.encode 2 manifest.members.length ++ members))

section Encode

variable (blake3 : Blake3) (readFile : PathBuf → Option (List UInt8))

/-- Only inline bytes travel; a path-backed representation is a panic in the
code. -/
def binaryRepresentation (rep : ObservedClipboardRepresentation) :
    Except String BinaryRepresentation :=
  match rep.inlineBytes with
  | some bytes =>
      .ok ⟨rep.formatId.asStr, rep.mime.map MimeType.asStr, bytes⟩
  | none =>
      .error ("ObservedClipboardRepresentation: LocalFile source not allowed " ++
        "in this code path; caller must handle path-backed reps explicitly " ++
        "via .source()")

/-- The envelope and the identity of the snapshot.  The hash of a path that
cannot be read is a panic too. -/
def encodeSnapshotToV3Bytes (snapshot : SystemClipboardSnapshot) :
    Except String (List UInt8 × String) := do
  let reps ← snapshot.representations.mapM binaryRepresentation
  let bytes ← (encodeTo ⟨snapshot.tsMs, reps⟩).mapError
    ("encode V3 envelope: " ++ ·)
  match snapshot.snapshotHash blake3 readFile with
  | some digest => .ok (bytes, ContentHash.formatBlake3v1 digest)
  | none => .error "failed to hash a path-backed representation"

def encodeSnapshotWithBlobRefsToV3Bytes (snapshot : SystemClipboardSnapshot)
    (blobRefs : List V3BlobRef) : Except String (List UInt8 × String) := do
  let (bytes, snapshotHash) ← encodeSnapshotToV3Bytes blake3 readFile snapshot
  if blobRefs.isEmpty then
    .ok (bytes, snapshotHash)
  else
    let trailer ← (writeBlobRefsExtension blobRefs).mapError
      ("encode V3 blob refs extension: " ++ ·)
    .ok (bytes ++ trailer, snapshotHash)

def encodeSnapshotWithBlobRefsAndFileSetToV3Bytes
    (snapshot : SystemClipboardSnapshot) (blobRefs : List V3BlobRef)
    (manifest : InboundFileSetManifest) :
    Except String (List UInt8 × String) := do
  let (bytes, snapshotHash) ← encodeSnapshotToV3Bytes blake3 readFile snapshot
  let refs ← (writeBlobRefsExtension blobRefs).mapError
    ("encode V3 blob refs extension: " ++ ·)
  let members ← (writeFileSetExtension manifest).mapError
    ("encode directory file-set extension: " ++ ·)
  .ok (bytes ++ (refs ++ members), snapshotHash)

end Encode

/-! ## Reading -/

def cutOff (label : String) : String :=
  "read " ++ label ++ ": " ++ unexpectedEof

def readOptionalU32 (label : String) : Reader String (Option Nat) := do
  let marker ← readNat (cutOff (label ++ " marker")) 1
  match marker with
  | 0 => pure none
  | 1 => some <$> readNat (cutOff label) 4
  | other => throw s!"invalid {label} marker byte: {other}"

def readBytesU32 (label : String) : Reader String (List UInt8) := do
  let length ← readNat (cutOff label) 4
  require (length ≤ maxTicketLen)
    s!"{label} length {length} exceeds maximum {maxTicketLen}"
  readExact (cutOff label) length

section Decode

variable (utf8Error : List UInt8 → String)

/-- The rest of a string behind its length. -/
def readText (label : String) (length : Nat) : Reader String String := do
  require (length ≤ maxBlobRefStringLen)
    s!"{label} length {length} exceeds maximum {maxBlobRefStringLen}"
  let bytes ← readExact (cutOff label) length
  readUtf8 utf8Error label bytes

def readStringU16 (label : String) : Reader String String := do
  let length ← readNat (cutOff label) 2
  readText utf8Error label length

def readOptionalStringU16 (label : String) :
    Reader String (Option String) := do
  let length ← readNat (cutOff label) 2
  if length = noneStringLen then
    pure none
  else
    some <$> readText utf8Error label length

def readBlobRef : Reader String V3BlobRef := do
  let ticket ← readBytesU32 "ticket"
  let entryId ← readStringU16 utf8Error "entry_id"
  let filename ← readOptionalStringU16 utf8Error "filename"
  let mime ← readOptionalStringU16 utf8Error "mime"
  let sizeBytes ← readNat (cutOff "size_bytes") 8
  let representationIndex ← readOptionalU32 "representation_index"
  pure ⟨ticket, entryId, filename, mime, sizeBytes, representationIndex⟩

def readBlobRefsTrailer : Reader String (List V3BlobRef) := do
  let magic ← readExact
    ("read V3 blob refs magic: " ++ unexpectedEof) blobRefsMagic.length
  require (magic = blobRefsMagic) "unknown V3 trailing extension"
  let count ← readNat (cutOff "blob_ref_count") 2
  require (count ≤ maxBlobRefs)
    s!"blob_ref_count {count} exceeds maximum {maxBlobRefs}"
  times (readBlobRef utf8Error) count

def readBlobRefsExtensionWithRemainder (bytes : List UInt8) :
    Except String (List V3BlobRef × List UInt8) :=
  if bytes = [] then
    .ok ([], bytes)
  else
    readBlobRefsTrailer utf8Error bytes

def readKind : Reader String FileSetMemberKind := do
  let kind ← readNat ("read directory member kind: " ++ unexpectedEof) 1
  match kind with
  | 102 => pure .file
  | 120 => pure .executable
  | 100 => pure .emptyDirectory
  | other => throw s!"invalid directory member kind byte: {other}"

def readRootIsFile : Reader String Bool := do
  let flag ← readNat ("read directory root kind: " ++ unexpectedEof) 1
  match flag with
  | 0 => pure false
  | 1 => pure true
  | other => throw s!"invalid directory root kind byte: {other}"

def readMember : Reader String InboundFileSetMember := do
  let kind ← readKind
  let rootIsFile ← readRootIsFile
  let rootIndex ← readNat (cutOff "root_index") 4
  let rootName ← readStringU16 utf8Error "root_name"
  let relativePath ← readStringU16 utf8Error "relative_path"
  let blobRefIndex ← readOptionalU32 "blob_ref_index"
  pure ⟨rootIndex, rootName, rootIsFile, relativePath, kind, blobRefIndex⟩

/-- The trailer of the manifest behind the blob references. -/
def readFileSetTrailer : Reader String InboundFileSetManifest := do
  let magic ← readExact
    ("read directory file-set magic: " ++ unexpectedEof) fileSetMagic.length
  require (magic = fileSetMagic) "unknown V3 trailing extension"
  let count ← readNat (cutOff "directory_member_count") 2
  require (0 < count ∧ count ≤ maxBlobRefs)
    s!"directory_member_count {count} is outside 1..={maxBlobRefs}"
  InboundFileSetManifest.mk <$> times (readMember utf8Error) count

def readFileSetExtension (bytes : List UInt8) :
    Except String (Option InboundFileSetManifest) :=
  if bytes = [] then
    .ok none
  else
    match readFileSetTrailer utf8Error bytes with
    | .error err => .error err
    | .ok (manifest, rest) =>
        if rest = [] then
          .ok (some manifest)
        else
          .error ("directory file-set extension has " ++
            s!"{rest.length} trailing byte(s)")

variable (newId : Nat → String)

/-- A representation gets an id of the receiver, and keeps its MIME type only
in RFC shape. -/
def receivedRepresentation (index : Nat) (rep : BinaryRepresentation) :
    ObservedClipboardRepresentation where
  id := newId index
  formatId := ⟨rep.formatId⟩
  mime := normalizeWireMime rep.mime
  source := .inline rep.data

def decodeV3BytesToSnapshotBlobRefsAndFileSet (bytes : List UInt8) :
    Except String (SystemClipboardSnapshot × List V3BlobRef ×
      Option InboundFileSetManifest) :=
  match decodeFrom utf8Error bytes with
  | .error err => .error ("decode V3 envelope: " ++ err)
  | .ok (payload, cursor) => do
      let (blobRefs, trailing) ←
        readBlobRefsExtensionWithRemainder utf8Error cursor
      let fileSetManifest ← readFileSetExtension utf8Error trailing
      .ok ({
        tsMs := payload.tsMs
        representations :=
          payload.representations.mapIdx (receivedRepresentation newId) },
        blobRefs, fileSetManifest)

end Decode

end OpenClipboard.PayloadCodec
