import OpenClipboard.Library.Transition
import OpenClipboard.MobileSync.ContentIdentity

/-!
# Whose upload a document takes

The bodies of several phones wait in one buffer, by data name.  A document takes
what waits under its name; a body that comes under a name that waits, or when
the buffer is full, displaces one that waited.
-/

namespace OpenClipboard.MobileSync

open Text Transition

/-- A registered phone, under an id that the minter made. -/
structure Phone where
  id : String
  short : ("mobile_sync:" ++ id).utf8ByteSize ≤ deviceIdMaxBytes
  deriving DecidableEq

/-- The order in which a hash map lists its keys. -/
structure MapOrder where
  firstKey : IncomingMobileBuffer → Option String
  isKey : ∀ buffer key, firstKey buffer = some key →
    (Table.find buffer key).isSome = true
  nonempty : ∀ buffer : IncomingMobileBuffer, buffer.keys.length ≠ 0 →
    (firstKey buffer).isSome = true

/-- An upload, whose transfer was opened before its body came. -/
structure UploadRecord where
  device : Phone
  dataName : String
  transferId : String
  bytes : List UInt8
  deriving DecidableEq

/-- A document, with the last upload of its phone under its name, the upload
that it took, and the content that it handed on. -/
structure DocRecord where
  doc : SyncDoc
  own : Option UploadRecord
  taken : Option UploadRecord
  content : Option (List UInt8)
  result : Except ApplyIncomingMobileClipError ApplyIncomingMobileClipOutcome

/-- What the device holds, and what was done on it, the latest first. -/
structure MobileWorld where
  uploads : Uploads
  device : ApplyInbound.InboundDevice
  opened : List UploadRecord
  calls : List LifecycleCall
  docs : List DocRecord

inductive MobileEvent where
  | bufferFile (order : MapOrder) (phone : Phone) (upload : FileUpload)
  | syncDoc (ports : MobilePorts) (nowMs : Int) (repId : String)
      (describe : ApplyIncomingMobileClipError → String)
      (phone : Phone) (doc : SyncDoc)

/-- A document that names a body. -/
def SyncDoc.isTwoStep (doc : SyncDoc) : Bool :=
  decide (doc.itemType = .image) || decide (doc.itemType = .file)

/-- The bytes that a snapshot stands for: its own, or those of the file whose
URL it lists. -/
def contentOf (env : StagingEnv) (files : Table PathBuf (List UInt8))
    (itemType : SyncClipboardItemType) (snapshot : SystemClipboardSnapshot) :
    Option (List UInt8) :=
  (snapshot.representations.head?.bind
      ObservedClipboardRepresentation.inlineBytes).bind fun bytes =>
    if itemType = .file then
      (parseFirstUriFromUriList bytes).bind fun uri =>
        (readByUri env uri files).toOption
    else
      some bytes

namespace MobileWorld

/-- Before the first upload; the files may be any. -/
def start (files : Table PathBuf (List UInt8))
    (device : ApplyInbound.InboundDevice) : MobileWorld where
  uploads := ⟨files, ∅⟩
  device := device
  opened := []
  calls := []
  docs := []

def lastOwn (world : MobileWorld) (phone : Phone) (name : String) :
    Option UploadRecord :=
  world.opened.find? fun upload =>
    decide (upload.device = phone) && decide (upload.dataName = name)

/-- The upload that waits under the name of a document. -/
def waiting (world : MobileWorld) (doc : SyncDoc) : Option UploadRecord :=
  (doc.dataName.bind fun name => Table.find world.uploads.buffer name).bind
    fun buffered => world.opened.find? fun upload =>
      decide (upload.transferId = buffered.transferId)

/-- The transfer id is new, and so is the path of the staging. -/
def IsFresh (env : StagingEnv) (world : MobileWorld) (upload : FileUpload) :
    Prop :=
  (∀ old ∈ world.opened, old.transferId ≠ upload.transferId) ∧
    world.uploads.files.find (resolveWritePath env upload).path.path = none

instance (env : StagingEnv) (world : MobileWorld) (upload : FileUpload) :
    Decidable (world.IsFresh env upload) :=
  inferInstanceAs (Decidable (_ ∧ _))

def recordOf (env : StagingEnv) (world : MobileWorld) (nowMs : Int)
    (repId : String) (phone : Phone) (doc : SyncDoc)
    (done : MobileStep) : DocRecord where
  doc := doc
  own := doc.dataName.bind (world.lastOwn phone)
  taken := world.waiting doc
  content :=
    (buildSnapshot env nowMs repId doc world.uploads).1.toOption.bind
      fun built => contentOf env done.uploads.files doc.itemType
        built.snapshot
  result := done.result

/-- One event; a body that fails to be staged is none. -/
def step (env : StagingEnv) (world : MobileWorld) :
    MobileEvent → Option MobileWorld
  | .bufferFile order phone upload =>
      if world.IsFresh env upload then
        match putFile env order.firstKey upload world.uploads with
        | .error _ => none
        | .ok uploads => some { world with
            uploads := uploads
            opened := ⟨phone, upload.dataName, upload.transferId,
              upload.bytes⟩ :: world.opened }
      else
        none
  | .syncDoc ports nowMs repId describe phone doc =>
      (MobileSync.syncDoc env ports nowMs repId phone.id describe doc
          world.uploads world.device).map fun done => {
        uploads := done.uploads
        device := done.device
        opened := world.opened
        calls := world.calls ++ done.lifecycle
        docs := recordOf env world nowMs repId phone doc done :: world.docs }

end MobileWorld

/-! ## The property -/

/-- The document applies exactly what its phone uploaded last, or fails to
decode. -/
def DocRecord.Attributed (record : DocRecord) : Prop :=
  record.doc.isTwoStep = true →
    (∃ upload, record.own = some upload ∧ record.taken = some upload ∧
        record.content = some upload.bytes) ∨
      (record.content = none ∧
        ∃ reason, record.result = .ok (.decodeFailed reason))

def LifecycleCall.transferId : LifecycleCall → String
  | link transferId _ => transferId
  | complete transferId _ => transferId
  | fail transferId _ _ => transferId

/-- The transfer was linked and completed, or failed. -/
def IsClosed (calls : List LifecycleCall) (transferId : String) : Prop :=
  (∃ entryId peerId, .link transferId entryId ∈ calls ∧
      .complete transferId peerId ∈ calls) ∨
    ∃ peerId detail, .fail transferId peerId detail ∈ calls

namespace MobileWorld

def IsPending (world : MobileWorld) (upload : UploadRecord) : Prop :=
  ∃ buffered, Table.find world.uploads.buffer upload.dataName =
      some buffered ∧ buffered.transferId = upload.transferId

/-- Every document is attributed, and every transfer is closed once its upload
no longer waits. -/
structure Orderly (world : MobileWorld) : Prop where
  docs : ∀ record ∈ world.docs, record.Attributed
  transfers : ∀ upload ∈ world.opened,
    IsClosed world.calls upload.transferId ∨ world.IsPending upload

/-- An event that occurs displaces no upload, and takes none of another
phone. -/
def Fits (env : StagingEnv) (world : MobileWorld) (event : MobileEvent) :
    Prop :=
  (world.step env event).isSome = true →
    match event with
    | .bufferFile _ _ upload =>
        Table.find world.uploads.buffer upload.dataName = none ∧
          world.uploads.buffer.keys.length < maxBufferedFiles
    | .syncDoc _ _ _ _ phone doc =>
        doc.isTwoStep = true →
          ∀ upload, world.waiting doc = some upload → upload.device = phone

end MobileWorld

/-! ## What a body and a document do -/

variable {doc : SyncDoc} {ports : MobilePorts}

variable
  {result : Except ApplyIncomingMobileClipError ApplyIncomingMobileClipOutcome}
  {describe : ApplyIncomingMobileClipError → String}
  {device : ApplyInbound.InboundDevice}

section Steps

variable {env : StagingEnv}

structure IsFileUrlText (uri : String) : Prop where
  isFileUrl : startsWith uri "file:///" = true
  noWhitespace : ∀ c ∈ uri.toList, isWhitespace c = false

theorem lines_terminated {text : String}
    (noWhitespace : ∀ c ∈ text.toList, isWhitespace c = false) :
    lines (text ++ "\n") = [text] := by
  have pieces : (text ++ "\n").toList.splitOn '\n' = [text.toList, []] := by
    rw [String.toList_append]
    apply (List.splitOnP_append_cons_of_forall_mem ?_ '\n' (by decide) []).trans
    · rfl
    · intro c member
      rw [beq_eq_false_iff_ne]
      intro isNewline
      have notSpace := noWhitespace c member
      rw [isNewline] at notSpace
      exact absurd notSpace (by decide)
  have kept : stripCarriageReturn text.toList = text.toList := by
    unfold stripCarriageReturn
    rw [if_neg]
    intro isReturn
    have notSpace := noWhitespace '\r' (List.mem_of_getLast? isReturn)
    exact absurd notSpace (by decide)
  unfold lines
  rw [pieces]
  simp [kept]

theorem parseFirstUri_staged {uri : String} (isUrl : IsFileUrlText uri) :
    parseFirstUriFromUriList (asBytes (uri ++ "\n")) = some uri := by
  have notEmpty : uri.isEmpty = false := by
    rw [Bool.eq_false_iff]
    intro isEmpty
    rw [String.isEmpty_iff.mp isEmpty] at isUrl
    exact absurd isUrl.isFileUrl (by decide)
  have notComment : startsWith uri "#" = false := by
    obtain ⟨rest, isChars⟩ := List.isPrefixOf_iff_prefix.mp isUrl.isFileUrl
    unfold startsWith
    rw [← isChars]
    rfl
  unfold parseFirstUriFromUriList parseUriList
  rw [fromUtf8_asBytes, Option.bind_some,
    lines_terminated isUrl.noWhitespace]
  simp [trim_of_noWhitespace isUrl.noWhitespace, notEmpty, notComment]

theorem stageFile_isUrl {upload : FileUpload}
    {files after : Table PathBuf (List UInt8)} {staged : StagedFile}
    (isStaged : stageFile env upload files = .ok (staged, after)) :
    IsFileUrlText staged.uri ∧
      after = files.put (resolveWritePath env upload).path.path
        upload.bytes := by
  unfold stageFile at isStaged
  split at isStaged
  · cases isStaged
  · cases isStaged
  · rename_i uri _ isUri
    cases isStaged
    exact ⟨⟨env.urls.isFileUrl _ _ isUri, env.urls.noWhitespace _ _ isUri⟩,
      rfl⟩

theorem readByUri_put {uri : String} {bytes content : List UInt8}
    {path : PathBuf} {files : Table PathBuf (List UInt8)}
    (isNew : files.find path = none)
    (reads : readByUri env uri files = .ok bytes) :
    readByUri env uri (files.put path content) = .ok bytes := by
  unfold readByUri at reads ⊢
  split at reads
  · cases reads
  · split at reads
    · cases reads
    · rename_i url other _
      split at reads
      · cases reads
      · rename_i found
        have different : other ≠ path := by
          intro same
          rw [same, isNew] at found
          cases found
        simp only [Table.find_put_of_ne different, found]
        exact reads

theorem buildSnapshot_miss (env : StagingEnv) (nowMs : Int) (repId : String)
    {uploads : Uploads} (isTwoStep : doc.isTwoStep = true)
    (nothing : (doc.dataName.bind fun name =>
      Table.find uploads.buffer name) = none) :
    ∃ reason, buildSnapshot env nowMs repId doc uploads =
      (.error (.decode reason), uploads) := by
  have taken : ∀ kind, ∃ reason, takeBuffered kind doc.dataName uploads =
      (.error (.decode reason), uploads) := by
    intro kind
    unfold takeBuffered
    cases isName : doc.dataName with
    | none => exact ⟨_, rfl⟩
    | some name =>
        rw [isName, Option.bind_some] at nothing
        simp only [nothing]
        exact ⟨_, rfl⟩
  unfold buildSnapshot
  cases isType : doc.itemType with
  | text => simp [SyncDoc.isTwoStep, isType] at isTwoStep
  | group => simp [SyncDoc.isTwoStep, isType] at isTwoStep
  | image =>
      obtain ⟨reason, isTaken⟩ := taken "Image"
      simp only [buildImageSnapshot, isTaken]
      exact ⟨reason, rfl⟩
  | file =>
      obtain ⟨reason, isTaken⟩ := taken "File"
      simp only [buildFileSnapshot, isTaken]
      exact ⟨reason, rfl⟩

theorem buildSnapshot_hit (nowMs : Int) (repId : String) {name : String}
    {uploads : Uploads} {buffered : BufferedFile} {bytes : List UInt8}
    (isTwoStep : doc.isTwoStep = true) (isName : doc.dataName = some name)
    (found : Table.find uploads.buffer name = some buffered)
    (isUrl : IsFileUrlText buffered.staged.uri)
    (reads : readByUri env buffered.staged.uri uploads.files = .ok bytes) :
    ∃ built, buildSnapshot env nowMs repId doc uploads =
        (.ok built,
          { uploads with buffer := Table.remove uploads.buffer name }) ∧
      built.transferId = some buffered.transferId ∧
      contentOf env uploads.files doc.itemType built.snapshot =
        some bytes := by
  have taken : ∀ kind, takeBuffered kind doc.dataName uploads =
      (.ok (name, buffered),
        { uploads with buffer := Table.remove uploads.buffer name }) := by
    intro kind
    unfold takeBuffered
    simp only [isName, found]
  unfold buildSnapshot
  cases isType : doc.itemType with
  | text => simp [SyncDoc.isTwoStep, isType] at isTwoStep
  | group => simp [SyncDoc.isTwoStep, isType] at isTwoStep
  | image =>
      simp only [buildImageSnapshot, taken, reads]
      exact ⟨_, rfl, rfl, rfl⟩
  | file =>
      simp only [buildFileSnapshot, taken]
      refine ⟨_, rfl, rfl, ?_⟩
      have listed : contentOf env uploads.files .file (oneRepresentation nowMs
          repId "files" "text/uri-list"
          (asBytes (buffered.staged.uri ++ "\n"))
          (some buffered.transferId)).snapshot =
          (parseFirstUriFromUriList
            (asBytes (buffered.staged.uri ++ "\n"))).bind fun uri =>
              (readByUri env uri uploads.files).toOption := rfl
      rw [listed, parseFirstUri_staged isUrl, Option.bind_some, reads]
      rfl

theorem buildSnapshot_oneStep (env : StagingEnv) (nowMs : Int) (repId : String)
    (uploads : Uploads) (isOneStep : doc.isTwoStep = false) :
    (buildSnapshot env nowMs repId doc uploads).2 = uploads ∧
      ∀ built, (buildSnapshot env nowMs repId doc uploads).1 = .ok built →
        built.transferId = none := by
  unfold buildSnapshot
  cases isType : doc.itemType with
  | text =>
      refine ⟨rfl, ?_⟩
      intro built builds
      rw [Uploaded.buildTextSnapshot_eq_ok builds]
      rfl
  | group =>
      refine ⟨rfl, ?_⟩
      intro built builds
      cases builds
  | image => simp [SyncDoc.isTwoStep, isType] at isOneStep
  | file => simp [SyncDoc.isTwoStep, isType] at isOneStep

theorem dispatchInbound_not_buffered {source : String}
    {snapshot : SystemClipboardSnapshot}
    {device after : ApplyInbound.InboundDevice}
    (dispatched : dispatchInbound ports source snapshot device =
      some (result, after)) : result ≠ .ok .buffered := by
  intro isBuffered
  subst isBuffered
  unfold dispatchInbound at dispatched
  split at dispatched
  · cases dispatched
  · cases dispatched
  · cases dispatched
  · split at dispatched
    · cases dispatched
    · cases dispatched
    · rename_i outcome left executed
      cases outcome <;> cases dispatched

theorem finalizeTransfer_closes (source transferId : String)
    (describe : ApplyIncomingMobileClipError → String)
    (notBuffered : result ≠ .ok .buffered) :
    IsClosed (finalizeTransfer source (some transferId) describe result)
        transferId ∧
      ∀ call ∈ finalizeTransfer source (some transferId) describe result,
        call.transferId = transferId := by
  have closing : ∀ entryId, IsClosed
        [.link transferId entryId, .complete transferId (peerOf source)]
        transferId ∧
      ∀ call ∈ [LifecycleCall.link transferId entryId,
          .complete transferId (peerOf source)],
        call.transferId = transferId := by
    intro entryId
    refine ⟨Or.inl ⟨entryId, peerOf source, by simp, by simp⟩, ?_⟩
    intro call member
    simp only [List.mem_cons, List.not_mem_nil, or_false] at member
    rcases member with isLink | isComplete
    · rw [isLink]
      rfl
    · rw [isComplete]
      rfl
  have failing : ∀ detail, IsClosed
        [.fail transferId (peerOf source) detail] transferId ∧
      ∀ call ∈ [LifecycleCall.fail transferId (peerOf source) detail],
        call.transferId = transferId := by
    intro detail
    refine ⟨Or.inr ⟨peerOf source, detail, by simp⟩, ?_⟩
    intro call member
    rw [List.mem_singleton.mp member]
    rfl
  unfold finalizeTransfer
  cases result with
  | error error => exact failing _
  | ok outcome =>
      cases outcome with
      | applied entryId contentId => exact closing entryId
      | resurfaced hash existing osWriteSucceeded => exact closing existing
      | duplicateSkipped hash existing => exact closing existing
      | decodeFailed reason => exact failing reason
      | buffered => exact absurd rfl notBuffered

theorem syncDoc_of_decode {nowMs : Int} {repId source reason : String}
    {uploads after : Uploads} {done : MobileStep}
    (fails : buildSnapshot env nowMs repId doc uploads =
      (.error (.decode reason), after))
    (handled : syncDoc env ports nowMs repId source describe doc uploads
      device = some done) :
    done = ⟨.ok (.decodeFailed reason), after, device, []⟩ := by
  unfold syncDoc at handled
  rw [fails] at handled
  exact (Option.some.inj handled).symm

theorem syncDoc_of_built {nowMs : Int} {repId source : String}
    {uploads after : Uploads} {done : MobileStep} {built : BuiltSnapshot}
    (builds : buildSnapshot env nowMs repId doc uploads = (.ok built, after))
    (handled : syncDoc env ports nowMs repId source describe doc uploads
      device = some done) :
    done.uploads = after ∧ done.result ≠ .ok .buffered ∧
      done.lifecycle = finalizeTransfer source built.transferId describe
        done.result := by
  unfold syncDoc at handled
  rw [builds] at handled
  obtain ⟨⟨result, left⟩, dispatched, isDone⟩ :=
    Option.map_eq_some_iff.mp handled
  rw [← isDone]
  exact ⟨rfl, dispatchInbound_not_buffered dispatched, rfl⟩

end Steps

end OpenClipboard.MobileSync
