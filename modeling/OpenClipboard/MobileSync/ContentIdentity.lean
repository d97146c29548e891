import OpenClipboard.Capture.Identity
import OpenClipboard.MobileSync.ContentId
import OpenClipboard.Outbound.RootMarks

/-!
# The identity of an upload

A document that names content which the device holds must not create another
entry.  What is hashed of a text or an image is its bytes; of a file it is the
URL under which it was staged.
-/

namespace OpenClipboard.MobileSync

open Text ContentHash

inductive UploadedContent where
  | text (body : String)
  | image (upload : FileUpload)
  | file (upload : FileUpload)

namespace UploadedContent

/-- The content itself. -/
def bytes : UploadedContent → List UInt8
  | text body => asBytes body
  | image upload => upload.bytes
  | file upload => upload.bytes

/-- The content with its type and MIME type, without the names it was uploaded
under. -/
def payload : UploadedContent →
    SyncClipboardItemType × Option String × List UInt8
  | text body => (.text, none, asBytes body)
  | image upload => (.image, some upload.mime, upload.bytes)
  | file upload => (.file, some upload.mime, upload.bytes)

def isFile : UploadedContent → Bool
  | file _ => true
  | _ => false

/-- The document that follows. -/
def doc : UploadedContent → SyncDoc
  | text body => ⟨.text, body, none⟩
  | image upload => ⟨.image, upload.dataName, some upload.dataName⟩
  | file upload => ⟨.file, upload.dataName, some upload.dataName⟩

end UploadedContent

def putFile (env : StagingEnv)
    (firstKey : IncomingMobileBuffer → Option String) (upload : FileUpload)
    (uploads : Uploads) : Except MobileFileStagingError Uploads :=
  (stageFile env upload uploads.files).map fun staged =>
    bufferFile firstKey upload.dataName
      ⟨upload.mime, staged.1, upload.transferId⟩
      { uploads with files := staged.2 }

/-- The request before the document, if there is one. -/
def putBody (env : StagingEnv)
    (firstKey : IncomingMobileBuffer → Option String)
    (content : UploadedContent) (uploads : Uploads) :
    Except MobileFileStagingError Uploads :=
  match content with
  | .text _ => .ok uploads
  | .image upload => putFile env firstKey upload uploads
  | .file upload => putFile env firstKey upload uploads

/-- An upload whose document became a snapshot, from whatever state and under
whatever names. -/
structure Uploaded (env : StagingEnv) where
  content : UploadedContent
  firstKey : IncomingMobileBuffer → Option String
  nowMs : Int
  repId : String
  before : Uploads
  pending : Uploads
  built : BuiltSnapshot
  after : Uploads
  puts : putBody env firstKey content before = .ok pending
  builds : buildSnapshot env nowMs repId content.doc pending =
    (.ok built, after)

namespace Uploaded

variable {env : StagingEnv}

/-- What is hashed: the content, or the URL of the staged file. -/
def hashed (uploaded : Uploaded env) : List UInt8 :=
  (uploaded.built.snapshot.representations.head?.bind
    ObservedClipboardRepresentation.inlineBytes).getD []

section Snapshot

variable {blake3 : Blake3} {readFile : PathBuf → Option (List UInt8)}

theorem identityDigests_oneRepresentation (nowMs : Int)
    (repId formatId mime : String) (bytes : List UInt8)
    (transferId : Option String) :
    (oneRepresentation nowMs repId formatId mime bytes
        transferId).snapshot.identityDigests blake3 readFile =
      some [contentHash blake3 bytes] := by
  simp [oneRepresentation, SystemClipboardSnapshot.identityDigests,
    SystemClipboardSnapshot.hashedRepresentations,
    SystemClipboardSnapshot.hasFileComponent,
    SystemClipboardSnapshot.fileComponent,
    ObservedClipboardRepresentation.contentHash,
    ObservedClipboardRepresentation.new]

theorem takeBuffered_bufferFile (kind dataName : String)
    (file : BufferedFile) (firstKey : IncomingMobileBuffer → Option String)
    (uploads : Uploads) :
    ∃ after, takeBuffered kind (some dataName)
      (bufferFile firstKey dataName file uploads) =
        (.ok (dataName, file), after) ∧ after.files = uploads.files := by
  have found : Table.find (bufferFile firstKey dataName file uploads).buffer
      dataName = some file :=
    IncomingMobileBuffer.find_store_self
  unfold takeBuffered
  simp only [found]
  exact ⟨_, rfl, rfl⟩

theorem putFile_eq_ok {upload : FileUpload}
    {firstKey : IncomingMobileBuffer → Option String}
    {before pending : Uploads}
    (puts : putFile env firstKey upload before = .ok pending) :
    ∃ staged files, stageFile env upload before.files = .ok (staged, files) ∧
      pending = bufferFile firstKey upload.dataName
        ⟨upload.mime, staged, upload.transferId⟩
        { before with files := files } := by
  unfold putFile at puts
  obtain ⟨⟨staged, files⟩, isStaged, isPending⟩ :=
    PartialMap.map_eq_ok_iff.mp puts
  exact ⟨staged, files, isStaged, isPending.symm⟩

theorem buildTextSnapshot_eq_ok {nowMs : Int} {repId text : String}
    {built : BuiltSnapshot}
    (builds : buildTextSnapshot nowMs repId text = .ok built) :
    built = oneRepresentation nowMs repId "text" "text/plain" (asBytes text)
      none := by
  unfold buildTextSnapshot at builds
  by_cases empty : text.isEmpty = true
  · rw [if_pos empty] at builds
    cases builds
  · rw [if_neg empty] at builds
    exact (Except.ok.inj builds).symm

theorem built_text (uploaded : Uploaded env) {body : String}
    (isText : uploaded.content = .text body) :
    uploaded.built = oneRepresentation uploaded.nowMs uploaded.repId "text"
      "text/plain" (asBytes body) none := by
  have builds := uploaded.builds
  rw [isText] at builds
  exact buildTextSnapshot_eq_ok (Prod.mk.inj builds).1

theorem built_image (uploaded : Uploaded env) {upload : FileUpload}
    (isImage : uploaded.content = .image upload) :
    uploaded.built = oneRepresentation uploaded.nowMs uploaded.repId "image"
      upload.mime upload.bytes (some upload.transferId) := by
  have puts := uploaded.puts
  have builds := uploaded.builds
  rw [isImage] at puts builds
  obtain ⟨staged, files, isStaged, isPending⟩ := putFile_eq_ok puts
  obtain ⟨after, isTaken, sameFiles⟩ := takeBuffered_bufferFile "Image"
    upload.dataName ⟨upload.mime, staged, upload.transferId⟩ uploaded.firstKey
    { uploaded.before with files := files }
  have isRead := (readByUri_stageFile env isStaged).1
  simp only [UploadedContent.doc, buildSnapshot, buildImageSnapshot,
    isPending, isTaken, sameFiles, isRead] at builds
  exact (Except.ok.inj (Prod.mk.inj builds).1).symm

theorem built_file (uploaded : Uploaded env) {upload : FileUpload}
    (isFile : uploaded.content = .file upload) :
    ∃ uri, startsWith uri "file:///" = true ∧
      uploaded.built = oneRepresentation uploaded.nowMs uploaded.repId "files"
        "text/uri-list" (asBytes (uri ++ "\n"))
        (some upload.transferId) := by
  have puts := uploaded.puts
  have builds := uploaded.builds
  rw [isFile] at puts builds
  obtain ⟨staged, files, isStaged, isPending⟩ := putFile_eq_ok puts
  obtain ⟨after, isTaken, _⟩ := takeBuffered_bufferFile "File"
    upload.dataName ⟨upload.mime, staged, upload.transferId⟩ uploaded.firstKey
    { uploaded.before with files := files }
  have isFileUrl := (readByUri_stageFile env isStaged).2
  simp only [UploadedContent.doc, buildSnapshot, buildFileSnapshot,
    isPending, isTaken] at builds
  exact ⟨staged.uri, isFileUrl,
    (Except.ok.inj (Prod.mk.inj builds).1).symm⟩

theorem hashed_of_not_file (uploaded : Uploaded env)
    (notFile : uploaded.content.isFile = false) :
    uploaded.hashed = uploaded.content.bytes := by
  unfold hashed
  cases isContent : uploaded.content with
  | text body =>
      rw [uploaded.built_text isContent]
      rfl
  | image upload =>
      rw [uploaded.built_image isContent]
      rfl
  | file upload =>
      rw [isContent] at notFile
      cases notFile

theorem hashed_of_file (uploaded : Uploaded env)
    (isFile : uploaded.content.isFile = true) :
    ∃ uri, startsWith uri "file:///" = true ∧
      uploaded.hashed = asBytes (uri ++ "\n") := by
  unfold hashed
  cases isContent : uploaded.content with
  | text body =>
      rw [isContent] at isFile
      cases isFile
  | image upload =>
      rw [isContent] at isFile
      cases isFile
  | file upload =>
      obtain ⟨uri, isFileUrl, isBuilt⟩ := uploaded.built_file isContent
      rw [isBuilt]
      exact ⟨uri, isFileUrl, rfl⟩

theorem identityDigests (uploaded : Uploaded env) :
    uploaded.built.snapshot.identityDigests blake3 readFile =
      some [contentHash blake3 uploaded.hashed] := by
  cases isContent : uploaded.content with
  | text body =>
      unfold hashed
      rw [uploaded.built_text isContent, identityDigests_oneRepresentation]
      rfl
  | image upload =>
      unfold hashed
      rw [uploaded.built_image isContent, identityDigests_oneRepresentation]
      rfl
  | file upload =>
      obtain ⟨uri, _, isBuilt⟩ := uploaded.built_file isContent
      unfold hashed
      rw [isBuilt, identityDigests_oneRepresentation]
      rfl

def identity (blake3 : Blake3) (uploaded : Uploaded env) : Digest :=
  snapshotHash blake3 [contentHash blake3 uploaded.hashed]

theorem snapshotHash_built (uploaded : Uploaded env) :
    uploaded.built.snapshot.snapshotHash blake3 readFile =
      some (uploaded.identity blake3) := by
  rw [SystemClipboardSnapshot.snapshotHash_eq_map, uploaded.identityDigests]
  rfl

theorem stageFile_of_uri {upload : FileUpload} {uri : String}
    (files : Table PathBuf (List UInt8))
    (isUri : env.urls.fromFilePath (resolveWritePath env upload).path.path =
      some uri) (succeeds : upload.failure = none) :
    stageFile env upload files =
      .ok (⟨uri, (resolveWritePath env upload).name⟩,
        files.put (resolveWritePath env upload).path.path upload.bytes) := by
  unfold stageFile
  rw [succeeds, isUri]

def ofFile {upload : FileUpload} {uri : String} (nowMs : Int) (repId : String)
    (before : Uploads)
    (isUri : env.urls.fromFilePath (resolveWritePath env upload).path.path =
      some uri) (succeeds : upload.failure = none) : Uploaded env :=
  let waiting : Uploads := bufferFile (fun _ => none) upload.dataName
    ⟨upload.mime, ⟨uri, (resolveWritePath env upload).name⟩,
      upload.transferId⟩
    { before with
      files := before.files.put (resolveWritePath env upload).path.path
        upload.bytes }
  { content := .file upload
    firstKey := fun _ => none
    nowMs := nowMs
    repId := repId
    before := before
    pending := waiting
    built := oneRepresentation nowMs repId "files" "text/uri-list"
      (asBytes (uri ++ "\n")) (some upload.transferId)
    after := (takeBuffered "File" (some upload.dataName) waiting).2
    puts := by
      have isStaged := stageFile_of_uri before.files isUri succeeds
      change (stageFile env upload before.files).map _ = _
      rw [isStaged]
      rfl
    builds := by
      obtain ⟨after, isTaken, _⟩ := takeBuffered_bufferFile "File"
        upload.dataName
        ⟨upload.mime, ⟨uri, (resolveWritePath env upload).name⟩,
          upload.transferId⟩ (fun _ => none)
        { before with
          files := before.files.put (resolveWritePath env upload).path.path
            upload.bytes }
      simp only [buildSnapshot, UploadedContent.doc, buildFileSnapshot,
        waiting, isTaken] }

end Snapshot

end Uploaded

/-! ## A local copy -/

/-- A file with this content, copied on the device itself. -/
structure LocalCopy (env : StagingEnv) (bytes : List UInt8) where
  unicode : UnicodeNormalization
  fs : FileSystem
  caps : FileSetCaps
  tsMs : Int
  path : PlainPath
  uri : String
  reads : fs.readFile path.path = some bytes
  nonempty : bytes ≠ []
  isUri : env.urls.fromFilePath path.path = some uri
  admitted : caps.allows bytes.length

namespace LocalCopy

variable {env : StagingEnv} {blake3 : Blake3} {bytes : List UInt8}

def snapshot (copy : LocalCopy env bytes) : SystemClipboardSnapshot where
  tsMs := copy.tsMs
  representations :=
    readFileRepresentations copy.fs.fileSize env.urls.fromFilePath
      [copy.path.path]

def identity (blake3 : Blake3) (copy : LocalCopy env bytes) : Option Digest :=
  captureIdentity copy.unicode copy.fs blake3 env.urls.parse copy.caps
    copy.snapshot

def digests (blake3 : Blake3) (copy : LocalCopy env bytes) : List Digest :=
  ((stampCapture copy.unicode copy.fs blake3 env.urls.parse copy.caps
    copy.snapshot).identityDigests blake3 copy.fs.readFile).getD []

theorem representations_eq (copy : LocalCopy env bytes) :
    copy.snapshot.representations =
      filesRepresentation env.urls.fromFilePath [copy.path.path] ::
        (imageFromFile copy.fs.fileSize [copy.path.path]).toList := by
  obtain ⟨executable, isLeaf⟩ := lookup_of_readFile copy.reads
  have isSize : copy.fs.fileSize copy.path.path = some bytes.length := by
    simp [FileSystem.fileSize, isLeaf]
  have syncable : filterSyncableClipboardFiles copy.fs.fileSize
      [copy.path.path] = [copy.path.path] := by
    simp [filterSyncableClipboardFiles, isSize, copy.nonempty]
  unfold snapshot readFileRepresentations
  rw [syncable]
  rfl

theorem stamped (copy : LocalCopy env bytes) :
    stampCapture copy.unicode copy.fs blake3 env.urls.parse copy.caps
        copy.snapshot =
      { copy.snapshot with
        fileContentDigests := [contentHash blake3 bytes] } := by
  have selects : SelectsOne copy.unicode env.urls.parse copy.path.path
      bytes.length copy.snapshot :=
    selectsOne_copied copy.tsMs copy.reads copy.nonempty copy.isUri
      (env.urls.parse_fromFilePath _ _ copy.isUri)
      (env.urls.isFileUrl _ _ copy.isUri)
      (env.urls.noWhitespace _ _ copy.isUri)
  have fileClass : isFileClass copy.snapshot = true := by
    unfold isFileClass
    rw [copy.representations_eq]
    simp [filesRepresentation, ObservedClipboardRepresentation.isFile,
      ObservedClipboardRepresentation.new, isFileMimeOrFormat,
      eqIgnoreAsciiCase]
  exact stampCapture_oneFile selects copy.reads copy.admitted ⟨rfl, rfl⟩
    fileClass

theorem identityDigests_eq (copy : LocalCopy env bytes) :
    (stampCapture copy.unicode copy.fs blake3 env.urls.parse copy.caps
        copy.snapshot).identityDigests blake3 copy.fs.readFile =
      some (copy.digests blake3) ∧
    fileContentWrapper blake3 [contentHash blake3 bytes] ∈
      copy.digests blake3 := by
  have hashed : ∃ others, (stampCapture copy.unicode copy.fs blake3
      env.urls.parse copy.caps copy.snapshot).identityDigests blake3
        copy.fs.readFile = some (others ++
          [fileContentWrapper blake3 [contentHash blake3 bytes]]) := by
    have defined : ∀ rep ∈ copy.snapshot.representations,
        (ObservedClipboardRepresentation.contentHash blake3 copy.fs.readFile
          rep).isSome = true := by
      intro rep member
      rw [copy.representations_eq] at member
      rcases List.mem_cons.mp member with isFiles | isImage
      · rw [isFiles]
        rfl
      · obtain ⟨executable, isLeaf⟩ := lookup_of_readFile copy.reads
        have isSize : copy.fs.fileSize copy.path.path = some bytes.length := by
          simp [FileSystem.fileSize, isLeaf]
        obtain ⟨⟨mime, isRep⟩, _⟩ :=
          imageFromFile_one isSize (Option.mem_toList.mp isImage)
        rw [isRep]
        simp [ObservedClipboardRepresentation.contentHash,
          ObservedClipboardRepresentation.newLocalFile, copy.reads]
    rw [copy.stamped]
    unfold SystemClipboardSnapshot.identityDigests
    have hashable : ∀ rep ∈ SystemClipboardSnapshot.hashedRepresentations
        { copy.snapshot with
          fileContentDigests := [contentHash blake3 bytes] },
        (ObservedClipboardRepresentation.contentHash blake3 copy.fs.readFile
          rep).isSome = true :=
      fun rep member => defined rep (List.mem_of_mem_filter member)
    obtain ⟨others, isOthers⟩ := PartialMap.exists_mapM_of_forall hashable
    rw [isOthers]
    exact ⟨others, rfl⟩
  obtain ⟨others, isDigests⟩ := hashed
  unfold digests
  rw [isDigests]
  exact ⟨rfl, List.mem_append_right _ List.mem_cons_self⟩

theorem identity_eq (copy : LocalCopy env bytes) :
    copy.identity blake3 = some (snapshotHash blake3 (copy.digests blake3)) := by
  unfold identity captureIdentity
  rw [SystemClipboardSnapshot.snapshotHash_eq_map,
    copy.identityDigests_eq.1]
  rfl

end LocalCopy

/-! ## Comparing identities -/

section Compare

variable {env : StagingEnv} {blake3 : Blake3}

/-- What is hashed on the way to the identity of an upload. -/
def Uploaded.inputs (blake3 : Blake3) (uploaded : Uploaded env) :
    Set (List UInt8) :=
  {uploaded.hashed, aggregateInput snapshotHashPrefix
    [contentHash blake3 uploaded.hashed]}

def LocalCopy.inputs (blake3 : Blake3) {bytes : List UInt8}
    (copy : LocalCopy env bytes) : Set (List UInt8) :=
  {aggregateInput fileContentPrefix [contentHash blake3 bytes],
    aggregateInput snapshotHashPrefix (copy.digests blake3)}

theorem Uploaded.identity_eq_iff {first second : Uploaded env}
    (collisionFree : Set.InjOn blake3
      (first.inputs blake3 ∪ second.inputs blake3)) :
    first.identity blake3 = second.identity blake3 ↔
      first.hashed = second.hashed := by
  have aggregated : snapshotHash blake3 [contentHash blake3 first.hashed] =
      snapshotHash blake3 [contentHash blake3 second.hashed] ↔
        [contentHash blake3 first.hashed].Perm
          [contentHash blake3 second.hashed] :=
    aggregate_eq_iff blake3 (collisionFree.mono (by
      intro input member
      rcases member with isFirst | isSecond
      · exact Or.inl (Or.inr isFirst)
      · exact Or.inr (Or.inr isSecond)))
  unfold Uploaded.identity
  rw [aggregated, List.perm_singleton, List.singleton_inj]
  constructor
  · exact fun same => collisionFree (Or.inl (Or.inl rfl))
      (Or.inr (Or.inl rfl)) same
  · exact fun same => congrArg (contentHash blake3) same

theorem Uploaded.identity_ne_copy {uploaded : Uploaded env}
    {copy : LocalCopy env uploaded.content.bytes}
    (isFile : uploaded.content.isFile = true)
    (collisionFree : Set.InjOn blake3
      (uploaded.inputs blake3 ∪ copy.inputs blake3)) :
    copy.identity blake3 ≠ some (uploaded.identity blake3) := by
  intro same
  rw [copy.identity_eq, Option.some.injEq] at same
  have permuted : (copy.digests blake3).Perm
      [contentHash blake3 uploaded.hashed] :=
    (aggregate_eq_iff blake3 (collisionFree.mono (by
      intro input member
      rcases member with isCopy | isUploaded
      · exact Or.inr (Or.inr isCopy)
      · exact Or.inl (Or.inr isUploaded)))).mp same
  have member := permuted.mem_iff.mp copy.identityDigests_eq.2
  rw [List.mem_singleton] at member
  have sameInput : aggregateInput fileContentPrefix
      [contentHash blake3 uploaded.content.bytes] = uploaded.hashed :=
    collisionFree (Or.inr (Or.inl rfl)) (Or.inl (Or.inl rfl)) member
  obtain ⟨uri, isFileUrl, isHashed⟩ := uploaded.hashed_of_file isFile
  -- `file-content|` and `file:///` part at their fifth character.
  have isUrl : asBytes "file:" <+: uploaded.hashed := by
    rw [isHashed]
    unfold startsWith at isFileUrl
    obtain ⟨rest, isChars⟩ := List.isPrefixOf_iff_prefix.mp isFileUrl
    have isUri : uri = "file:" ++ ("///" ++ String.ofList rest) := by
      apply String.toList_inj.mp
      simp [← isChars]
    rw [isUri, asBytes_append, asBytes_append, List.append_assoc]
    exact List.prefix_append _ _
  rw [← sameInput, aggregateInput] at isUrl
  have differ := List.prefix_of_prefix_length_le isUrl
    (List.prefix_append fileContentPrefix _) (by decide)
  exact absurd differ (by decide)

/-- A local copy of what was uploaded, if it was a file. -/
abbrev Uploaded.Copied (uploaded : Uploaded env) :=
  uploaded.content.isFile = true → LocalCopy env uploaded.content.bytes

/-- What is hashed to compare two uploads with each other and with the copies
of their files. -/
def comparedInputs (blake3 : Blake3) {first second : Uploaded env}
    (firstCopy : first.Copied) (secondCopy : second.Copied) :
    Set (List UInt8) :=
  (first.inputs blake3 ∪ second.inputs blake3) ∪
    ((⋃ isFile, (firstCopy isFile).inputs blake3) ∪
      ⋃ isFile, (secondCopy isFile).inputs blake3)

/-- The stored identity of content is that of its bytes, wherever it came
from. -/
structure HasContentIdentity (blake3 : Blake3)
    (readFile : PathBuf → Option (List UInt8)) {first second : Uploaded env}
    (firstCopy : first.Copied) (secondCopy : second.Copied) : Prop where
  uploadedTwice : first.content.payload = second.content.payload →
    first.built.snapshot.snapshotHash blake3 readFile =
      second.built.snapshot.snapshotHash blake3 readFile
  /-- The second document creates no entry. -/
  resurfaces : first.content.payload = second.content.payload →
    ∀ (ports : MobilePorts) (source : String)
      (describe : ApplyIncomingMobileClipError → String)
      (device : ApplyInbound.InboundDevice) (step : MobileStep)
      (existing : EntryId) (identity : Digest),
      ports.inbound.blake3 = blake3 →
      ports.inbound.readFile = readFile →
      first.built.snapshot.snapshotHash blake3 readFile = some identity →
      ports.inbound.findEntryIdBySnapshotHash (formatBlake3v1 identity) =
        .ok (some existing) →
      ApplyInbound.isEntryAvailable ports.inbound existing = true →
      syncDoc env ports second.nowMs second.repId source describe
        second.content.doc second.pending device = some step →
      ∀ entryId contentId, step.result ≠ .ok (.applied entryId contentId)
  firstCopied : ∀ isFile, (firstCopy isFile).identity blake3 =
    first.built.snapshot.snapshotHash blake3 readFile
  secondCopied : ∀ isFile, (secondCopy isFile).identity blake3 =
    second.built.snapshot.snapshotHash blake3 readFile
  distinct : first.content.bytes ≠ second.content.bytes →
    first.built.snapshot.snapshotHash blake3 readFile ≠
      second.built.snapshot.snapshotHash blake3 readFile
  echoed : ∀ (round : PutThenGet env) (libraries : MobileSyncLibraries)
    (doc : SyncClipboardMeta),
    getLatestDoc libraries round.latest = .ok doc →
      doc.contentId = some round.contentId

theorem payload_bytes {first second : UploadedContent}
    (same : first.payload = second.payload) : first.bytes = second.bytes := by
  have sameBytes := congrArg (fun payload => payload.2.2) same
  cases first <;> cases second <;> exact sameBytes

theorem not_applied_of_held {ports : MobilePorts} {source : String}
    {snapshot : SystemClipboardSnapshot} {digest : Digest}
    {device after : ApplyInbound.InboundDevice} {existing : EntryId}
    {result : Except ApplyIncomingMobileClipError
      ApplyIncomingMobileClipOutcome}
    (isHash : snapshot.snapshotHash ports.inbound.blake3
      ports.inbound.readFile = some digest)
    (isHeld : ports.inbound.findEntryIdBySnapshotHash (formatBlake3v1 digest) =
      .ok (some existing))
    (isAvailable : ApplyInbound.isEntryAvailable ports.inbound existing = true)
    (dispatched : dispatchInbound ports source snapshot device =
      some (result, after)) (entryId : EntryId) (contentId : String) :
    result ≠ .ok (.applied entryId contentId) := by
  intro applied
  subst applied
  unfold dispatchInbound at dispatched
  rw [isHash] at dispatched
  split at dispatched
  · cases dispatched
  · cases dispatched
  · cases dispatched
  · rename_i plaintext known fromDevice _ isKnown _
    cases isKnown
    split at dispatched
    · cases dispatched
    · cases dispatched
    · rename_i outcome left executed
      cases outcome with
      | applied stored =>
          unfold ApplyInbound.execute at executed
          simp only [isHeld, isAvailable, if_pos] at executed
          split at executed
          · cases executed
          · unfold ApplyInbound.resurfaceHeldEntry at executed
            simp only at executed
            split at executed
            · cases executed
            · split at executed
              · cases executed
              · split at executed
                · cases executed
                · split at executed <;> cases executed
      | resurfaced => cases dispatched
      | duplicateSkipped => cases dispatched
      | decodeFailed => cases dispatched

theorem getLatestDoc_contentId {round : PutThenGet env}
    {libraries : MobileSyncLibraries} {doc : SyncClipboardMeta}
    (isDoc : getLatestDoc libraries round.latest = .ok doc) :
    doc.contentId = some round.contentId := by
  unfold getLatestDoc at isDoc
  rw [round.isLatest] at isDoc
  cases isDoc
  exact congrArg some round.contentId_eq

/-- Uploads have the identity of their content exactly if neither is a file. -/
theorem hasContentIdentity_iff (blake3 : Blake3)
    (readFile : PathBuf → Option (List UInt8)) {first second : Uploaded env}
    (firstCopy : first.Copied) (secondCopy : second.Copied)
    (collisionFree : Set.InjOn blake3
      (comparedInputs blake3 firstCopy secondCopy)) :
    HasContentIdentity blake3 readFile firstCopy secondCopy ↔
      first.content.isFile = false ∧ second.content.isFile = false := by
  constructor
  · intro holds
    constructor
    · by_contra notFalse
      have isFile := Bool.eq_true_of_not_eq_false notFalse
      have copied := holds.firstCopied isFile
      rw [first.snapshotHash_built] at copied
      apply Uploaded.identity_ne_copy isFile ?_ copied
      apply collisionFree.mono
      rintro input (isUploaded | isCopied)
      · exact Or.inl (Or.inl isUploaded)
      · exact Or.inr (Or.inl (Set.mem_iUnion.mpr ⟨isFile, isCopied⟩))
    · by_contra notFalse
      have isFile := Bool.eq_true_of_not_eq_false notFalse
      have copied := holds.secondCopied isFile
      rw [second.snapshotHash_built] at copied
      apply Uploaded.identity_ne_copy isFile ?_ copied
      apply collisionFree.mono
      rintro input (isUploaded | isCopied)
      · exact Or.inl (Or.inr isUploaded)
      · exact Or.inr (Or.inr (Set.mem_iUnion.mpr ⟨isFile, isCopied⟩))
  · rintro ⟨firstNoFile, secondNoFile⟩
    have uploadsFree : Set.InjOn blake3
        (first.inputs blake3 ∪ second.inputs blake3) :=
      collisionFree.mono Set.subset_union_left
    have sameIdentity : first.identity blake3 = second.identity blake3 ↔
        first.content.bytes = second.content.bytes := by
      rw [Uploaded.identity_eq_iff uploadsFree,
        first.hashed_of_not_file firstNoFile,
        second.hashed_of_not_file secondNoFile]
    have uploadedTwice : first.content.payload = second.content.payload →
        first.built.snapshot.snapshotHash blake3 readFile =
          second.built.snapshot.snapshotHash blake3 readFile := by
      intro same
      rw [first.snapshotHash_built, second.snapshotHash_built,
        sameIdentity.mpr (payload_bytes same)]
    constructor
    · exact uploadedTwice
    · intro same ports source describe device step existing identity isBlake3
        isReadFile isIdentity isHeld isAvailable handled
      rw [uploadedTwice same, ← isBlake3, ← isReadFile] at isIdentity
      unfold syncDoc at handled
      rw [second.builds] at handled
      obtain ⟨⟨result, left⟩, dispatched, isStep⟩ :=
        Option.map_eq_some_iff.mp handled
      rw [← isStep]
      exact not_applied_of_held isIdentity isHeld isAvailable dispatched
    · intro isFile
      rw [firstNoFile] at isFile
      cases isFile
    · intro isFile
      rw [secondNoFile] at isFile
      cases isFile
    · intro differ same
      rw [first.snapshotHash_built, second.snapshotHash_built,
        Option.some.injEq] at same
      exact differ (sameIdentity.mp same)
    · intro round libraries doc isDoc
      exact getLatestDoc_contentId isDoc

end Compare

namespace Sample

def stagedAt (scope : String) : PathBuf :=
  PathBuf.fromText ("/cache/mobile_inbound/" ++ scope ++ "/report.pdf")

def cacheUrl (scope : String) : String :=
  "file:///cache/mobile_inbound/" ++ scope ++ "/report.pdf"

theorem cacheUrl_clean (scope : String)
    (clean : (cacheUrl scope).toList.all (fun c => !Text.isWhitespace c) =
      true) :
    ∀ c ∈ (cacheUrl scope).toList, Text.isWhitespace c = false := by
  intro c member
  have notWhitespace := List.all_eq_true.mp clean c member
  rwa [Bool.not_eq_true'] at notWhitespace

def twoUrls : FileUrls where
  fromFilePath path :=
    if path = stagedAt "one" then some (cacheUrl "one")
    else if path = stagedAt "two" then some (cacheUrl "two")
    else none
  parse uri :=
    if uri = cacheUrl "one" then some ⟨"file", stagedAt "one"⟩
    else if uri = cacheUrl "two" then some ⟨"file", stagedAt "two"⟩
    else none
  isFileUrl path uri isUri := by
    split at isUri
    · cases isUri
      decide +kernel
    · split at isUri
      · cases isUri
        decide +kernel
      · cases isUri
  noWhitespace path uri isUri := by
    split at isUri
    · cases isUri
      exact cacheUrl_clean "one" (by decide +kernel)
    · split at isUri
      · cases isUri
        exact cacheUrl_clean "two" (by decide +kernel)
      · cases isUri
  parse_fromFilePath path uri isUri := by
    split at isUri
    · rename_i isOne
      cases isUri
      rw [if_pos rfl, isOne]
    · split at isUri
      · rename_i isTwo
        cases isUri
        rw [if_neg (by decide +kernel), if_pos rfl, isTwo]
      · cases isUri

theorem cacheRoot_isAbsolute :
    (PathBuf.fromText "/cache").isAbsolute = true := by
  decide +kernel

theorem cacheRoot_plain :
    ∀ component ∈ (PathBuf.fromText "/cache").components,
      component.isParent = false := by
  decide +kernel

def stagingEnv : StagingEnv where
  cacheRoot := ⟨PathBuf.fromText "/cache", cacheRoot_isAbsolute,
    cacheRoot_plain⟩
  urls := twoUrls

/-- A text, sent under an id of its own. -/
def greeting (repId : String) : Uploaded stagingEnv where
  content := .text "hello"
  firstKey _ := none
  nowMs := 0
  repId := repId
  before := ⟨∅, ∅⟩
  pending := ⟨∅, ∅⟩
  built := oneRepresentation 0 repId "text" "text/plain"
    (Text.asBytes "hello") none
  after := ⟨∅, ∅⟩
  puts := rfl
  builds := rfl

theorem greeting_copied (repId : String)
    (isFile : (greeting repId).content.isFile = true) : False := by
  cases isFile

def report (scope : String) : FileUpload where
  dataName := "report.pdf"
  scope := scope
  reserved := none
  mime := "application/pdf"
  bytes := [1, 2, 3]
  transferId := "transfer"
  failure := none

def uploadedReport (scope : String)
    (isUrl : stagingEnv.urls.fromFilePath (resolveWritePath stagingEnv
      (report scope)).path.path = some (cacheUrl scope)) :
    Uploaded stagingEnv :=
  Uploaded.ofFile 0 "rep" ⟨∅, ∅⟩ isUrl rfl

end Sample

open Sample in
/-- A text sent twice has one identity. -/
theorem hasContentIdentity_iff_greetings :
    HasContentIdentity positionalDigest (fun _ => none)
      (fun isFile => (greeting_copied "first" isFile).elim)
      (fun isFile => (greeting_copied "second" isFile).elim) := by
  have apart : positionalDigest (Text.asBytes "hello") ≠
      positionalDigest (aggregateInput snapshotHashPrefix
        [contentHash positionalDigest (Text.asBytes "hello")]) := by
    decide +kernel
  have inputs : ∀ input ∈ comparedInputs positionalDigest
      (fun isFile => (greeting_copied "first" isFile).elim)
      (fun isFile => (greeting_copied "second" isFile).elim),
      input = Text.asBytes "hello" ∨
        input = aggregateInput snapshotHashPrefix
          [contentHash positionalDigest (Text.asBytes "hello")] := by
    rintro input ((isFirst | isSecond) | (isCopy | isCopy))
    · exact isFirst
    · exact isSecond
    · obtain ⟨isFile, _⟩ := Set.mem_iUnion.mp isCopy
      exact (greeting_copied "first" isFile).elim
    · obtain ⟨isFile, _⟩ := Set.mem_iUnion.mp isCopy
      exact (greeting_copied "second" isFile).elim
  apply (hasContentIdentity_iff positionalDigest (fun _ => none) _ _ ?_).mpr
  · exact ⟨rfl, rfl⟩
  · intro left isLeft right isRight same
    rcases inputs left isLeft with isText | isAggregate
    · rcases inputs right isRight with isOther | isOther
      · rw [isText, isOther]
      · rw [isText, isOther] at same
        exact absurd same apart
    · rcases inputs right isRight with isOther | isOther
      · rw [isAggregate, isOther] at same
        exact absurd same.symm apart
      · rw [isAggregate, isOther]

open Sample in
/-- A file sent twice is stored twice. -/
theorem reportUploadedTwice_differs :
    ∃ (first second : Uploaded stagingEnv),
      first.content.payload = second.content.payload ∧
      ¬ ∃ (firstCopy : first.Copied) (secondCopy : second.Copied),
        HasContentIdentity positionalDigest (fun _ => none) firstCopy
          secondCopy := by
  refine ⟨uploadedReport "one" (by decide +kernel),
    uploadedReport "two" (by decide +kernel), rfl, ?_⟩
  rintro ⟨firstCopy, secondCopy, holds⟩
  have same := holds.uploadedTwice rfl
  exact absurd same (by decide +kernel)

end OpenClipboard.MobileSync
